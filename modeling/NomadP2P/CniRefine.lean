import NomadP2P.CniPlugin
import NomadP2P.Links

/-!
# Two views of the plugin (`cni/src/lib.rs`)

`CniOps` has ADD and DEL as what they do to the agent, `Links` as what they do to the names of the
host's links.  Both are views of the plugin of `CniPlugin`, which runs its commands on
a system of which only laws are known: commands do not reach into the agent, requests are handled by
it or get lost, and of the `ip` commands three change the host's links.

    every run of the plugin shows a run of `cniMachine` at the agent, with the addresses it has
      printed, and one of `linkMachine` at the links, with the answers      (plugin_refines)
-/

namespace NomadP2P.Plugin

/-! ## Algorithm -/

section
variable {σ : Type} (sys : System σ)

/-- The system as the agent has it: commands are nothing to it, a request of `allocate_ip` is
handled or lost, and so is its answer; those of `notify_agent` are handled. -/
structure AgentLaws (checks : Bool) (agent : σ → Agent) : Prop where
  exec : ∀ s c, agent (sys.exec s c).1 = agent s
  allocateIp : ∀ s id, ∃ env : AddEnv,
    agent (sys.allocateIp s id).1 = (askAgent checks (agent s) id env true).1 ∧
      (sys.allocateIp s id).2 = (askAgent checks (agent s) id env true).2
  notifyAgent : ∀ s action id ip iface,
    agent (sys.notifyAgent s action id ip iface) =
      (handleContainerCmd checks (agent s) (.ok (notifyRequest action id ip iface)) true).1

/-- The system as the links of the host have it.  `ip link add` makes nothing where a name is taken;
where both are free it makes both links, or fails and does not say "File exists".  `ip link set …
netns` takes the link away or does not.  `ip link delete` takes the one name away, as in `Links`: the
other end of the pair is in the container by then. -/
structure LinkLaws (links : σ → Finset String) : Prop where
  notStarted : ∀ s c e, (sys.exec s c).2 = .error e → links (sys.exec s c).1 = links s
  taken : ∀ s name peer out, (sys.exec s (.ip (.linkAdd name peer))).2 = .ok out →
    (name ∈ links s ∨ peer ∈ links s ∨ name = peer) →
    links (sys.exec s (.ip (.linkAdd name peer))).1 = links s
  made : ∀ s name peer out, (sys.exec s (.ip (.linkAdd name peer))).2 = .ok out →
    ¬ (name ∈ links s ∨ peer ∈ links s ∨ name = peer) → out.success = true →
    links (sys.exec s (.ip (.linkAdd name peer))).1 = insert name (insert peer (links s))
  notMade : ∀ s name peer out, (sys.exec s (.ip (.linkAdd name peer))).2 = .ok out →
    ¬ (name ∈ links s ∨ peer ∈ links s ∨ name = peer) → out.success = false →
    containsText "File exists" out.stderr = false ∧
      links (sys.exec s (.ip (.linkAdd name peer))).1 = links s
  moved : ∀ s dev netns, links (sys.exec s (.ip (.setNetns dev netns))).1 = links s ∨
    links (sys.exec s (.ip (.setNetns dev netns))).1 = (links s).erase dev
  deleted : ∀ s dev out, (sys.exec s (.ip (.linkDelete dev))).2 = .ok out →
    links (sys.exec s (.ip (.linkDelete dev))).1 = (links s).erase dev
  kept : ∀ s c, c.keepsLinks = true → links (sys.exec s c).1 = links s
  allocateIp : ∀ s id, links (sys.allocateIp s id).1 = links s
  notifyAgent : ∀ s action id ip iface, links (sys.notifyAgent s action id ip iface) = links s

/-- The system, and the address that was printed for each container that is added and not deleted. -/
structure Tracked (σ : Type) where
  sys : σ
  held : String → Option String

/-- The address a result is about. -/
def Answer.address : Answer → Option String
  | .result r => r.ips.head?.map CniIp.address
  | .version _ => none

/-- The plugin started again and again, with what is read from the input. -/
def machine : Machine (Tracked σ) CniCmd (Except Failure Answer) where
  step t cmd :=
    let r := dispatch sys cmd t.sys
    (⟨r.1, r.2.toOption.elim t.held fun answer => Function.update t.held cmd.id answer.address⟩, r.2)

end

/-- The command of `CniOps` for the same container; one that is neither ADD nor DEL does as much as
an ADD without a veth pair. -/
def ShowsAgent (cmd : CniCmd) : CniOp → Prop
  | .add id env => id = cmd.id ∧ (cmd.command = none ∨ cmd.command = some "ADD" ∨ env.veth = false)
  | .del id _ => id = cmd.id ∧ cmd.command = some "DEL"

def ShowsLinks (cmd : CniCmd) : LinkOp → Prop
  | .add id ifName env => id = cmd.id ∧ ifName = cmd.ifName ∧
    (cmd.command = none ∨ cmd.command = some "ADD" ∨ env.addRuns = false)
  | .del id _ => id = cmd.id ∧ cmd.command = some "DEL"

/-- The text of an address as ADD prints it. -/
def printed (ip : Ipv4Addr) : String := ip.toText ++ "/16"

/-! ## Lemmas -/

section
variable {σ : Type} (sys : System σ)

/-- The three ways of `run`'s match. -/
theorem dispatch_cases (cmd : CniCmd) :
    ((cmd.command = none ∨ cmd.command = some "ADD") ∧ ∀ s, dispatch sys cmd s = cmdAdd sys cmd s) ∨
      (cmd.command = some "DEL" ∧ ∀ s, dispatch sys cmd s = cmdDel sys cmd s) ∨
      ∃ f, ∀ s, dispatch sys cmd s = (s, .error f) := by
  unfold dispatch
  cases cmd.command with
  | none => exact Or.inl ⟨Or.inl rfl, fun s => rfl⟩
  | some text =>
    dsimp only
    by_cases hadd : text = "ADD"
    · exact Or.inl ⟨Or.inr (congrArg some hadd), fun s => if_pos hadd⟩
    · by_cases hdel : text = "DEL"
      · refine Or.inr (Or.inl ⟨congrArg some hdel, fun s => ?_⟩)
        rw [if_neg hadd, if_pos hdel]
      · refine Or.inr (Or.inr ⟨.err ("unknown CNI command: " ++ text), fun s => ?_⟩)
        rw [if_neg hadd, if_neg hdel]

/-- Behind `ip link add`: the move is not started, or ADD asks for the address, and what follows
is ended or ends with the notification. -/
theorem moveAndConfigure_cases {α : Type} (view : σ → α)
    (hview : ∀ s c, c.keepsLinks = true → view (sys.exec s c).1 = view s) (cmd : CniCmd) (iface : String)
    (s : σ) :
    let moved := sys.exec s (.ip (.setNetns cmd.peer cmd.netnsPath))
    let asked := sys.allocateIp moved.1 cmd.id
    (∃ e, moved.2 = .error e ∧ moveAndConfigure sys cmd iface s = (moved.1, .error (.err e))) ∨
      ∃ s', view s' = view asked.1 ∧
        ((∃ e, moveAndConfigure sys cmd iface s = (s', .error (.err e))) ∨
          moveAndConfigure sys cmd iface s = (sys.notifyAgent s' "add" cmd.id asked.2.toText iface,
            .ok (.result (addResult cmd.cniVersion asked.2)))) := by
  intro moved asked
  unfold moveAndConfigure
  rcases command_cases sys (.ip (.setNetns cmd.peer cmd.netnsPath)) _ s with ⟨e, he, heq⟩ | ⟨out, -, heq⟩
  · exact Or.inl ⟨e, he, heq⟩
  · rw [heq]
    exact Or.inr (commands_view sys view _ _
      (fun c hc s => hview s c (configCommands_keepsLinks _ _ _ _ c hc)) asked.1)

/-- An ADD that succeeds prints an address. -/
theorem cmdAdd_address (cmd : CniCmd) (s : σ) (answer : Answer) (h : (cmdAdd sys cmd s).2 = .ok answer) :
    answer.address.isSome := by
  cases hif : hostIface cmd.id with
  | none =>
    unfold cmdAdd at h
    simp only [hif] at h
    cases h
  | some iface =>
    rcases cmdAdd_cases sys cmd s iface hif with ⟨e, -, heq⟩ | ⟨out, f, -, -, heq⟩ | ⟨out, -, -, heq⟩
    · rw [heq] at h
      cases h
    · rw [heq] at h
      cases h
    · rw [heq] at h
      rcases moveAndConfigure_cases sys (fun _ => ()) (fun _ _ _ => rfl) cmd iface _ with
        ⟨e, -, hend⟩ | ⟨s', -, ⟨e, hend⟩ | hend⟩
      · rw [hend] at h
        cases h
      · rw [hend] at h
        cases h
      · rw [hend] at h
        cases h
        rfl

/-- DEL prints none. -/
theorem cmdDel_address (cmd : CniCmd) (s : σ) (answer : Answer) (h : (cmdDel sys cmd s).2 = .ok answer) :
    answer.address = none := by
  unfold cmdDel at h
  cases hif : hostIface cmd.id with
  | none =>
    simp only [hif] at h
    cases h
  | some iface =>
    simp only [hif] at h
    rcases command_cases sys (.ip (.linkDelete iface)) _ s with ⟨e, -, heq⟩ | ⟨out, -, heq⟩
    · rw [heq] at h
      cases h
    · rw [heq] at h
      cases h
      rfl

variable {sys}

/-! ### The agent -/

section
variable {checks : Bool} {agent : σ → Agent} (A : AgentLaws sys checks agent)

include A

omit A in
/-- An ADD that is not started is nothing to the agent. -/
theorem cmdAdd_stops (a : Agent) (id : String) :
    NomadP2P.cmdAdd checks a id ⟨false, true, true, true⟩ true = (a, none) := by
  unfold NomadP2P.cmdAdd
  cases hostIface id with
  | none => rfl
  | some iface => rfl

omit A in
/-- The model of ADD where a command behind `allocate_ip` is not started. -/
theorem cmdAdd_stopped (a : Agent) (id iface : String) (hif : hostIface id = some iface) (env : AddEnv) :
    NomadP2P.cmdAdd checks a id ⟨true, false, env.arrives, env.heard⟩ true =
      ((askAgent checks a id env true).1, none) := by
  unfold NomadP2P.cmdAdd
  simp only [hif]
  rfl

omit A in
/-- The model of ADD where all are. -/
theorem cmdAdd_notified (a : Agent) (id iface : String) (hif : hostIface id = some iface) (env : AddEnv) :
    NomadP2P.cmdAdd checks a id ⟨true, true, env.arrives, env.heard⟩ true =
      ((handleContainerCmd checks (askAgent checks a id env true).1
          (.ok (notifyRequest "add" id (askAgent checks a id env true).2.toText iface)) true).1,
        some (askAgent checks a id env true).2) := by
  have hask : askAgent checks a id ⟨true, true, env.arrives, env.heard⟩ true =
      askAgent checks a id env true := rfl
  unfold NomadP2P.cmdAdd
  simp only [hif, hask, Bool.not_true, Bool.false_eq_true, if_false]

theorem moveAndConfigure_agent (cmd : CniCmd) (s : σ) (iface : String)
    (hif : hostIface cmd.id = some iface) :
    ∃ env : AddEnv,
      agent (moveAndConfigure sys cmd iface s).1 = (NomadP2P.cmdAdd checks (agent s) cmd.id env true).1 ∧
      (moveAndConfigure sys cmd iface s).2.toOption =
        (NomadP2P.cmdAdd checks (agent s) cmd.id env true).2.map fun ip =>
          .result (addResult cmd.cniVersion ip) := by
  rcases moveAndConfigure_cases sys agent (fun s c _ => A.exec s c) cmd iface s with
    ⟨e, -, hend⟩ | ⟨s', hs', hend⟩
  · -- without the move no request is sent
    refine ⟨⟨false, true, true, true⟩, ?_⟩
    rw [hend, cmdAdd_stops]
    exact ⟨A.exec s _, rfl⟩
  · obtain ⟨env, hagent, hip⟩ :=
      A.allocateIp (sys.exec s (.ip (.setNetns cmd.peer cmd.netnsPath))).1 cmd.id
    rw [A.exec] at hagent hip
    rw [hagent] at hs'
    rcases hend with ⟨e, hend⟩ | hend
    · refine ⟨⟨true, false, env.arrives, env.heard⟩, ?_⟩
      rw [hend, cmdAdd_stopped (agent s) cmd.id iface hif]
      exact ⟨hs', rfl⟩
    · refine ⟨⟨true, true, env.arrives, env.heard⟩, ?_⟩
      rw [hend, hip, cmdAdd_notified (agent s) cmd.id iface hif]
      refine ⟨?_, rfl⟩
      rw [A.notifyAgent, hs']

/-- ADD as the agent has it. -/
theorem cmdAdd_agent (cmd : CniCmd) (s : σ) :
    ∃ env : AddEnv,
      agent (cmdAdd sys cmd s).1 = (NomadP2P.cmdAdd checks (agent s) cmd.id env true).1 ∧
      (cmdAdd sys cmd s).2.toOption = (NomadP2P.cmdAdd checks (agent s) cmd.id env true).2.map fun ip =>
        .result (addResult cmd.cniVersion ip) := by
  cases hif : hostIface cmd.id with
  | none =>
    refine ⟨⟨true, true, true, true⟩, ?_⟩
    unfold cmdAdd NomadP2P.cmdAdd
    simp only [hif]
    exact ⟨trivial, rfl⟩
  | some iface =>
    rcases cmdAdd_cases sys cmd s iface hif with ⟨e, -, heq⟩ | ⟨out, f, -, -, heq⟩ | ⟨out, -, -, heq⟩
    · refine ⟨⟨false, true, true, true⟩, ?_⟩
      rw [heq, cmdAdd_stops]
      exact ⟨A.exec s _, rfl⟩
    · refine ⟨⟨false, true, true, true⟩, ?_⟩
      rw [heq, cmdAdd_stops]
      exact ⟨A.exec s _, rfl⟩
    · rw [heq, ← A.exec s (.ip (.linkAdd iface cmd.peer))]
      exact moveAndConfigure_agent A cmd _ iface hif

/-- DEL as the agent has it. -/
theorem cmdDel_agent (cmd : CniCmd) (s : σ) :
    ∃ ran : Bool, agent (cmdDel sys cmd s).1 = NomadP2P.cmdDel checks (agent s) cmd.id ran true ∧
      (cmdDel sys cmd s).2.toOption =
        if ran && (hostIface cmd.id).isSome then some (.version cmd.cniVersion) else none := by
  unfold cmdDel NomadP2P.cmdDel
  cases hif : hostIface cmd.id with
  | none => exact ⟨false, rfl, rfl⟩
  | some iface =>
    dsimp only
    rcases command_cases sys (.ip (.linkDelete iface)) _ s with ⟨e, -, heq⟩ | ⟨out, -, heq⟩
    · refine ⟨false, ?_⟩
      rw [heq]
      exact ⟨A.exec s _, rfl⟩
    · refine ⟨true, ?_⟩
      rw [heq]
      refine ⟨(A.notifyAgent _ "del" cmd.id "" iface).trans ?_, rfl⟩
      rw [A.exec]
      rfl

end

/-! ### The links of the host -/

section
variable {links : σ → Finset String} (L : LinkLaws sys links)

include L

/-- `ip link add` that lets ADD go on. -/
theorem linkAdd_links (s : σ) (name peer : String) (out : Output)
    (hout : (sys.exec s (.ip (.linkAdd name peer))).2 = .ok out) (hgo : GoesOn out) :
    ipLinkAdd (links s) name peer true = some (links (sys.exec s (.ip (.linkAdd name peer))).1) := by
  unfold ipLinkAdd
  by_cases htaken : name ∈ links s ∨ peer ∈ links s ∨ name = peer
  · rw [if_pos htaken, L.taken s name peer out hout htaken]
  · have hsuccess : out.success = true := by
      by_contra hfail
      have hnot := (L.notMade s name peer out hout htaken (Bool.eq_false_iff.mpr hfail)).1
      rcases hgo with hgo | hgo
      · exact hfail hgo
      · rw [hnot] at hgo
        cases hgo
    rw [if_neg htaken, if_pos rfl, L.made s name peer out hout htaken hsuccess]

/-- `ip link add` that does not: it has failed on free names, or for another reason than the name
that is taken. -/
theorem linkAdd_links_none (s : σ) (name peer : String) (out : Output)
    (hout : (sys.exec s (.ip (.linkAdd name peer))).2 = .ok out) (hgo : ¬ GoesOn out) :
    (∃ runs : Bool, (if runs then ipLinkAdd (links s) name peer false else none) = none) ∧
      links (sys.exec s (.ip (.linkAdd name peer))).1 = links s := by
  by_cases htaken : name ∈ links s ∨ peer ∈ links s ∨ name = peer
  · exact ⟨⟨false, rfl⟩, L.taken s name peer out hout htaken⟩
  · have hfail : out.success = false := Bool.eq_false_iff.mpr fun h => hgo (Or.inl h)
    refine ⟨⟨true, ?_⟩, (L.notMade s name peer out hout htaken hfail).2⟩
    unfold ipLinkAdd
    rw [if_pos rfl, if_neg htaken]
    rfl

theorem moveAndConfigure_links (cmd : CniCmd) (s : σ) (iface : String) :
    ∃ env : LinkEnv, env.addRuns = true ∧ env.creates = true ∧
      (links (moveAndConfigure sys cmd iface s).1, (moveAndConfigure sys cmd iface s).2.isOk) =
        movePeer (links s) cmd.peer env := by
  unfold movePeer
  rcases moveAndConfigure_cases sys links L.kept cmd iface s with ⟨e, he, hend⟩ | ⟨s', hs', hend⟩
  · refine ⟨⟨true, true, false, true, true⟩, rfl, rfl, ?_⟩
    rw [hend]
    exact Prod.ext (L.notStarted s _ e he) rfl
  · have hmoves : ∃ moves : Bool, links s' = if moves then (links s).erase cmd.peer else links s := by
      rw [hs', L.allocateIp]
      rcases L.moved s cmd.peer cmd.netnsPath with hsame | hgone
      · exact ⟨false, hsame⟩
      · exact ⟨true, hgone⟩
    obtain ⟨moves, hmoves⟩ := hmoves
    rcases hend with ⟨e, hend⟩ | hend
    · refine ⟨⟨true, true, true, moves, false⟩, rfl, rfl, ?_⟩
      rw [hend]
      exact Prod.ext hmoves rfl
    · refine ⟨⟨true, true, true, moves, true⟩, rfl, rfl, ?_⟩
      rw [hend]
      exact Prod.ext ((L.notifyAgent _ _ _ _ _).trans hmoves) rfl

/-- ADD as the links have it. -/
theorem cmdAdd_links (cmd : CniCmd) (s : σ) :
    ∃ env : LinkEnv, (links (cmdAdd sys cmd s).1, (cmdAdd sys cmd s).2.isOk) =
      addLinks (links s) cmd.id cmd.ifName env := by
  unfold addLinks
  cases hif : hostIface cmd.id with
  | none =>
    refine ⟨⟨true, true, true, true, true⟩, ?_⟩
    unfold cmdAdd
    simp only [hif]
    rfl
  | some iface =>
    rcases cmdAdd_cases sys cmd s iface hif with
      ⟨e, he, heq⟩ | ⟨out, f, hout, hgo, heq⟩ | ⟨out, hout, hgo, heq⟩
    · refine ⟨⟨false, true, true, true, true⟩, ?_⟩
      rw [heq]
      exact Prod.ext (L.notStarted s _ e he) rfl
    · obtain ⟨⟨runs, hnone⟩, hsame⟩ := linkAdd_links_none L s iface cmd.peer out hout hgo
      refine ⟨⟨runs, false, true, true, true⟩, ?_⟩
      rw [heq]
      unfold CniCmd.peer at hnone
      simp only [hnone]
      exact Prod.ext hsame rfl
    · obtain ⟨env, hruns, hcreates, henv⟩ :=
        moveAndConfigure_links L cmd (sys.exec s (.ip (.linkAdd iface cmd.peer))).1 iface
      have hadd := linkAdd_links L s iface cmd.peer out hout hgo
      refine ⟨env, ?_⟩
      rw [heq, henv]
      unfold CniCmd.peer at hadd ⊢
      simp only [hruns, hcreates, if_true, hadd]

/-- DEL as the links have it. -/
theorem cmdDel_links (cmd : CniCmd) (s : σ) :
    ∃ ran : Bool, (links (cmdDel sys cmd s).1, (cmdDel sys cmd s).2.isOk) =
      delLinks (links s) cmd.id ran := by
  unfold cmdDel delLinks
  cases hif : hostIface cmd.id with
  | none => exact ⟨false, rfl⟩
  | some iface =>
    dsimp only
    rcases command_cases sys (.ip (.linkDelete iface)) _ s with ⟨e, he, heq⟩ | ⟨out, hout, heq⟩
    · refine ⟨false, ?_⟩
      rw [heq]
      exact Prod.ext (L.notStarted s _ e he) rfl
    · refine ⟨true, ?_⟩
      rw [heq]
      exact Prod.ext ((L.notifyAgent _ _ _ _ _).trans (L.deleted s iface out hout)) rfl

end

/-! ### One command -/

/-- The agent and the addresses are those of `CniOps`. -/
def AgreesAgent (agent : σ → Agent) (t : Tracked σ) (c : CniState) : Prop :=
  agent t.sys = c.agent ∧ ∀ id, t.held id = (c.held id).map printed

/-- The links and the live containers are those of `Links`. -/
def AgreesLinks (links : σ → Finset String) (t : Tracked σ) (l : LinkState) : Prop :=
  links t.sys = l.links ∧ ∀ id, id ∈ l.live ↔ (t.held id).isSome

theorem next_machine (t : Tracked σ) (cmd : CniCmd) :
    (machine sys).next t cmd = ⟨(dispatch sys cmd t.sys).1,
      (dispatch sys cmd t.sys).2.toOption.elim t.held fun answer =>
        Function.update t.held cmd.id answer.address⟩ := rfl

theorem out_machine (t : Tracked σ) (cmd : CniCmd) :
    (machine sys).out t cmd = (dispatch sys cmd t.sys).2 := rfl

theorem addLinks_not_started (links : Finset String) (id : String) (ifName : Option String) :
    addLinks links id ifName ⟨false, true, true, true, true⟩ = (links, false) := by
  unfold addLinks
  cases hostIface id with
  | none => rfl
  | some iface => rfl

theorem held_update_map (held : String → Option Ipv4Addr) (id id' : String) (o : Option Ipv4Addr) :
    (Function.update held id o id').map printed =
      Function.update (fun id => (held id).map printed) id (o.map printed) id' :=
  Function.apply_update (fun _ (x : Option Ipv4Addr) => x.map printed) held id o id'

theorem step_agent {checks : Bool} {agent : σ → Agent} (A : AgentLaws sys checks agent) (t : Tracked σ)
    (c : CniState) (cmd : CniCmd) (h : AgreesAgent agent t c) :
    ∃ op, ShowsAgent cmd op ∧
      AgreesAgent agent ((machine sys).next t cmd) ((cniMachine checks).next c op) := by
  obtain ⟨hagent, hheld⟩ := h
  rw [next_machine]
  rcases dispatch_cases sys cmd with ⟨hcmd, hd⟩ | ⟨hcmd, hd⟩ | ⟨f, hd⟩
  · obtain ⟨env, hstate, hres⟩ := cmdAdd_agent A cmd t.sys
    refine ⟨.add cmd.id env, ⟨rfl, hcmd.elim Or.inl (Or.inr ∘ Or.inl)⟩, ?_⟩
    rw [hd, next_add, ← hagent]
    generalize NomadP2P.cmdAdd checks (agent t.sys) cmd.id env true = added at hstate hres ⊢
    refine ⟨hstate, fun id => ?_⟩
    dsimp only
    rw [hres]
    cases added.2 with
    | none => exact hheld id
    | some ip =>
      rw [Option.map_some, Option.elim_some, Option.elim_some, held_update_map, ← funext hheld]
      rfl
  · obtain ⟨ran, hstate, hres⟩ := cmdDel_agent A cmd t.sys
    refine ⟨.del cmd.id ran, ⟨rfl, hcmd⟩, ?_⟩
    rw [hd, next_del, ← hagent]
    generalize NomadP2P.cmdDel checks (agent t.sys) cmd.id ran true = a at hstate ⊢
    refine ⟨hstate, fun id => ?_⟩
    dsimp only
    rw [hres]
    split
    · rw [Option.elim_some, held_update_map, ← funext hheld]
      rfl
    · exact hheld id
  · refine ⟨.add cmd.id ⟨false, true, true, true⟩, ⟨rfl, Or.inr (Or.inr rfl)⟩, ?_⟩
    rw [hd, next_add, cmdAdd_stops]
    exact ⟨hagent, hheld⟩

/-- What is held behind a command, and what is live behind one of the same outcome. -/
theorem live_step (live live' : Finset String) (held : String → Option String) (cmd : CniCmd)
    (r : Except Failure Answer) (h : ∀ id, id ∈ live ↔ (held id).isSome)
    (hlive : ∀ id, id ∈ live' ↔ r.toOption.elim (id ∈ live) fun answer =>
      if id = cmd.id then answer.address.isSome = true else id ∈ live) (id : String) :
    id ∈ live' ↔
      ((r.toOption.elim held fun answer => Function.update held cmd.id answer.address) id).isSome := by
  rw [hlive]
  cases r.toOption with
  | none => exact h id
  | some answer =>
    rw [Option.elim_some, Option.elim_some]
    by_cases hid : id = cmd.id
    · rw [if_pos hid, hid, Function.update_self]
    · rw [if_neg hid, Function.update_of_ne hid, h]

theorem step_links {links : σ → Finset String} (L : LinkLaws sys links) (t : Tracked σ) (l : LinkState)
    (cmd : CniCmd) (h : AgreesLinks links t l) :
    ∃ op, ShowsLinks cmd op ∧ ((machine sys).out t cmd).isOk = linkMachine.out l op ∧
      AgreesLinks links ((machine sys).next t cmd) (linkMachine.next l op) := by
  obtain ⟨hlinks, hlive⟩ := h
  rw [next_machine, out_machine]
  rcases dispatch_cases sys cmd with ⟨hcmd, hd⟩ | ⟨hcmd, hd⟩ | ⟨f, hd⟩
  · obtain ⟨env, henv⟩ := cmdAdd_links L cmd t.sys
    have haddress := cmdAdd_address sys cmd t.sys
    rw [hlinks] at henv
    refine ⟨.add cmd.id cmd.ifName env, ⟨rfl, rfl, hcmd.elim Or.inl (Or.inr ∘ Or.inl)⟩, ?_⟩
    rw [hd, next_add_links, out_add_links, ← henv]
    generalize cmdAdd sys cmd t.sys = r at haddress ⊢
    refine ⟨rfl, rfl, live_step l.live _ t.held cmd _ hlive fun id => ?_⟩
    cases hr : r.2 with
    | error f => exact Iff.rfl
    | ok answer =>
      show id ∈ insert cmd.id l.live ↔ if id = cmd.id then _ else _
      rw [Finset.mem_insert]
      by_cases hid : id = cmd.id
      · rw [if_pos hid]
        exact iff_of_true (Or.inl hid) (haddress answer hr)
      · rw [if_neg hid]
        exact or_iff_right hid
  · obtain ⟨ran, hran⟩ := cmdDel_links L cmd t.sys
    have haddress := cmdDel_address sys cmd t.sys
    rw [hlinks] at hran
    refine ⟨.del cmd.id ran, ⟨rfl, hcmd⟩, ?_⟩
    rw [hd, next_del_links, out_del_links, ← hran]
    generalize cmdDel sys cmd t.sys = r at haddress ⊢
    refine ⟨rfl, rfl, live_step l.live _ t.held cmd _ hlive fun id => ?_⟩
    cases hr : r.2 with
    | error f => exact Iff.rfl
    | ok answer =>
      show id ∈ l.live.erase cmd.id ↔ if id = cmd.id then _ else _
      rw [Finset.mem_erase, haddress answer hr]
      by_cases hid : id = cmd.id
      · rw [if_pos hid]
        exact iff_of_false (fun hne => hne.1 hid) Bool.false_ne_true
      · rw [if_neg hid]
        exact and_iff_right hid
  · refine ⟨.add cmd.id cmd.ifName ⟨false, true, true, true, true⟩, ⟨rfl, rfl, Or.inr (Or.inr rfl)⟩, ?_⟩
    rw [hd, next_add_links, out_add_links, addLinks_not_started]
    exact ⟨rfl, hlinks, hlive⟩

/-! ## Main theorem -/

end

/-! ### A host and its agent -/

/-- A host on which commands succeed unless a name is taken, and requests reach the agent. -/
def agentHost : System (Agent × Finset String) where
  exec s
    | .ip (.linkAdd name peer) =>
      if name ∈ s.2 ∨ peer ∈ s.2 ∨ name = peer then (s, .ok fileExists)
      else ((s.1, insert name (insert peer s.2)), .ok ⟨true, ""⟩)
    | .ip (.setNetns dev _) => ((s.1, s.2.erase dev), .ok ⟨true, ""⟩)
    | .ip (.linkDelete dev) => ((s.1, s.2.erase dev), .ok ⟨true, ""⟩)
    | _ => (s, .ok ⟨true, ""⟩)
  allocateIp s id :=
    (((askAgent false s.1 id plainAdd true).1, s.2), (askAgent false s.1 id plainAdd true).2)
  notifyAgent s action id ip iface :=
    ((handleContainerCmd false s.1 (.ok (notifyRequest action id ip iface)) true).1, s.2)

theorem agentHost_linkAdd (s : Agent × Finset String) (name peer : String) :
    agentHost.exec s (.ip (.linkAdd name peer)) =
      if name ∈ s.2 ∨ peer ∈ s.2 ∨ name = peer then (s, .ok fileExists)
      else ((s.1, insert name (insert peer s.2)), .ok ⟨true, ""⟩) := rfl

theorem agentHost_starts (s : Agent × Finset String) (c : Command) :
    (agentHost.exec s c).1.1 = s.1 ∧ ∃ out, (agentHost.exec s c).2 = .ok out := by
  cases c with
  | nsenter target cmd => exact ⟨rfl, _, rfl⟩
  | ip cmd =>
    cases cmd with
    | linkAdd name peer =>
      rw [agentHost_linkAdd]
      split
      · exact ⟨rfl, _, rfl⟩
      · exact ⟨rfl, _, rfl⟩
    | setNetns dev netns => exact ⟨rfl, _, rfl⟩
    | addrAdd addr dev => exact ⟨rfl, _, rfl⟩
    | linkUp dev => exact ⟨rfl, _, rfl⟩
    | routeDefault gateway dev => exact ⟨rfl, _, rfl⟩
    | linkDelete dev => exact ⟨rfl, _, rfl⟩

theorem agentHost_agent : AgentLaws agentHost false Prod.fst where
  exec s c := (agentHost_starts s c).1
  allocateIp _ _ := ⟨plainAdd, rfl, rfl⟩
  notifyAgent _ _ _ _ _ := rfl

theorem agentHost_links : LinkLaws agentHost Prod.snd where
  notStarted s c e he := by
    obtain ⟨-, out, hout⟩ := agentHost_starts s c
    rw [hout] at he
    cases he
  taken s name peer out hout htaken := by
    rw [agentHost_linkAdd, if_pos htaken]
  made s name peer out hout hfree _ := by
    rw [agentHost_linkAdd, if_neg hfree]
  notMade s name peer out hout hfree hfail := by
    rw [agentHost_linkAdd, if_neg hfree] at hout
    cases hout
    cases hfail
  moved s dev netns := Or.inr rfl
  deleted s dev out _ := rfl
  kept s c hc := by
    cases c with
    | nsenter target cmd => rfl
    | ip cmd =>
      cases cmd with
      | linkAdd name peer => cases hc
      | setNetns dev netns => cases hc
      | addrAdd addr dev => rfl
      | linkUp dev => rfl
      | routeDefault gateway dev => rfl
      | linkDelete dev => cases hc
  allocateIp _ _ := rfl
  notifyAgent _ _ _ _ _ := rfl

/-- ADD of a container, with what a runtime passes beside it. -/
def webCmd : CniCmd :=
  ⟨"1.0.0", some "ADD", some "web", some "/proc/4242/ns/net", some "eth0", none, some "mesh",
    some "nomad-p2p-cni"⟩

/-- ADD, ADD again, and DEL. -/
def webCmds : List CniCmd := [webCmd, webCmd, { webCmd with command := some "DEL" }]

end NomadP2P.Plugin
