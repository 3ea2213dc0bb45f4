import NomadP2P.Cni
import NomadP2P.Lib.Machine

/-!
# ADD and DEL (`cmd_add` and `cmd_del` of `cni/src/lib.rs`)

Runs of the plugin's two commands against one agent.  Beside the agent we keep
`held`, the address each container was added with and that no DEL has given back.
The requests of `notify_agent` reach the handler as they were built; that of
`allocate_ip` may get lost on the way there or back.  This is the plugin as the agent
sees it; the commands it runs are in `CniPlugin`, and `CniRefine` has the two together.

DEL sends the empty string for the address.  It does not parse, so the route
section is skipped: the table loses its entry, the map keeps the route.

    Undone s (next s (del id)) id ip ↔ s.agent.bpf.route ip.toU32 = none      (del_undoes_iff)
-/

namespace NomadP2P

open Text

/-! ## Algorithm -/

/-- `format!("veth-{}", &container_id[..8.min(container_id.len())])`.  The cut is at
bytes and panics inside a character. -/
def hostIface (containerId : String) : Option String :=
  (fromUtf8 ((utf8 containerId.toList).take 8)).map fun cs => "veth-" ++ String.ofList cs

/-- What ADD meets on its way: whether the veth pair is there after `ip link add`,
whether the later commands can be started, whether the `allocate` request reaches
the agent, and whether its answer is read. -/
structure AddEnv where
  veth : Bool
  commands : Bool
  arrives : Bool
  heard : Bool

/-- `allocate_ip` over this environment: the agent after it, and the address. -/
def askAgent (checks : Bool) (agent : Agent) (containerId : String) (env : AddEnv) (ok : Bool) :
    Agent × Ipv4Addr :=
  let r := if env.arrives then allocate checks agent containerId ok else (agent, none)
  let heard := if env.heard then r.2.bind Ipv4Addr.parse else none
  (r.1, heard.getD (fallbackIp containerId))

/-- `cmd_add`: the agent after it, and the address the container got. -/
def cmdAdd (checks : Bool) (agent : Agent) (containerId : String) (env : AddEnv) (ok : Bool) :
    Agent × Option Ipv4Addr :=
  match hostIface containerId with
  | none => (agent, none)
  | some iface =>
    if !env.veth then (agent, none)
    else
      let (agent, containerIp) := askAgent checks agent containerId env ok
      if !env.commands then (agent, none)
      else
        let body := notifyRequest "add" containerId containerIp.toText iface
        ((handleContainerCmd checks agent (.ok body) ok).1, some containerIp)

/-- `cmd_del`; `ran` says whether `ip link delete` could be started. -/
def cmdDel (checks : Bool) (agent : Agent) (containerId : String) (ran ok : Bool) : Agent :=
  match hostIface containerId with
  | none => agent
  | some iface =>
    if !ran then agent
    else (handleContainerCmd checks agent (.ok (notifyRequest "del" containerId "" iface)) ok).1

inductive CniOp
  | add (containerId : String) (env : AddEnv)
  | del (containerId : String) (ran : Bool)

structure CniState where
  agent : Agent
  held : String → Option Ipv4Addr

/-- The plugin's commands one after another, every map operation succeeding. -/
def cniMachine (checks : Bool) : Machine CniState CniOp Unit where
  step s
    | .add id env =>
      let r := cmdAdd checks s.agent id env true
      (⟨r.1, r.2.elim s.held fun ip => Function.update s.held id (some ip)⟩, ())
    | .del id ran =>
      (⟨cmdDel checks s.agent id ran true,
        if ran && (hostIface id).isSome then Function.update s.held id none else s.held⟩, ())

/-- Between `s` and `s'` the route `ip` and the entry of `id` have gone, and those of
the other live containers, with other addresses, have stayed. -/
structure Undone (s s' : CniState) (id : String) (ip : Ipv4Addr) : Prop where
  route : s'.agent.bpf.route ip.toU32 = none
  entry : s'.agent.containers id = none
  others : ∀ other addr, s.held other = some addr → other ≠ id → addr ≠ ip →
    s'.agent.bpf.route addr.toU32 = s.agent.bpf.route addr.toU32 ∧
      s'.agent.containers other = s.agent.containers other

/-! ## Lemmas -/

/-- DEL takes the entry out of the table and does nothing else. -/
theorem cmdDel_eq (checks : Bool) (agent : Agent) (id : String) (ran ok : Bool) :
    cmdDel checks agent id ran ok =
      if ran && (hostIface id).isSome then
        { agent with containers := ContainerManager.remove agent.containers id }
      else agent := by
  unfold cmdDel
  cases hostIface id with
  | none => rw [Option.isSome_none, Bool.and_false]; rfl
  | some iface =>
    cases ran with
    | false => rfl
    | true =>
      show (handleContainerCmd checks agent (.ok (notifyRequest "del" id "" iface)) ok).1 = _
      rw [handle_notify_del, withRoute_of_not_parse _ _ _ (by decide)]
      rfl

theorem next_add (checks : Bool) (s : CniState) (id : String) (env : AddEnv) :
    (cniMachine checks).next s (.add id env) =
      ⟨(cmdAdd checks s.agent id env true).1,
        (cmdAdd checks s.agent id env true).2.elim s.held fun ip =>
          Function.update s.held id (some ip)⟩ := rfl

theorem next_del (checks : Bool) (s : CniState) (id : String) (ran : Bool) :
    (cniMachine checks).next s (.del id ran) =
      ⟨cmdDel checks s.agent id ran true,
        if ran && (hostIface id).isSome then Function.update s.held id none else s.held⟩ := rfl

/-- What is held behind a step: the address ADD has just handed out, or what was held. -/
theorem held_of_add (checks : Bool) (s : CniState) (id : String) (env : AddEnv) (id' : String)
    (ip : Ipv4Addr) (h : ((cniMachine checks).next s (.add id env)).held id' = some ip) :
    (id' = id ∧ (cmdAdd checks s.agent id env true).2 = some ip) ∨ s.held id' = some ip := by
  rw [next_add] at h
  replace h : ((cmdAdd checks s.agent id env true).2.elim s.held fun ip =>
    Function.update s.held id (some ip)) id' = some ip := h
  cases hadd : (cmdAdd checks s.agent id env true).2 with
  | none =>
    rw [hadd, Option.elim_none] at h
    exact .inr h
  | some new =>
    rw [hadd, Option.elim_some] at h
    by_cases hid : id' = id
    · rw [hid, Function.update_self] at h
      exact .inl ⟨hid, h⟩
    · rw [Function.update_of_ne hid] at h
      exact .inr h

theorem held_of_del (checks : Bool) (s : CniState) (id : String) (ran : Bool) (id' : String)
    (ip : Ipv4Addr) (h : ((cniMachine checks).next s (.del id ran)).held id' = some ip) :
    s.held id' = some ip := by
  rw [next_del] at h
  simp only at h
  split at h
  · by_cases hid : id' = id
    · rw [hid, Function.update_self] at h
      cases h
    · rwa [Function.update_of_ne hid] at h
  · exact h

/-- ADD has given `id` its address, so DEL gets as far as the agent. -/
theorem isSome_hostIface_of_held (checks : Bool) (agent : Agent) (ops : List CniOp) :
    ∀ id ip, ((cniMachine checks).after ⟨agent, fun _ => none⟩ ops).held id = some ip →
      (hostIface id).isSome := by
  refine (cniMachine checks).inv_after (fun s => ∀ id ip, s.held id = some ip → (hostIface id).isSome)
    ops (fun s op _ ih => ?_) _ (fun id ip h => by cases h)
  intro id' ip h
  cases op with
  | add id env =>
    rcases held_of_add checks s id env id' ip h with ⟨rfl, hadd⟩ | hold
    · unfold cmdAdd at hadd
      cases hif : hostIface id' with
      | none => rw [hif] at hadd; cases hadd
      | some iface => rfl
    · exact ih id' ip hold
  | del id ran => exact ih id' ip (held_of_del checks s id ran id' ip h)

/-- From `a` to `a'` the route map has stayed in reach, and no route has gone. -/
structure RoutesKept (a a' : Agent) : Prop where
  unpoisoned : a'.poisoned = false
  loaded : a'.bpf.containerRoute.isSome
  routes : ∀ key, a.bpf.route key = some 1 → a'.bpf.route key = some 1

theorem RoutesKept.refl (a : Agent) (hp : a.poisoned = false) (hl : a.bpf.containerRoute.isSome) :
    RoutesKept a a := ⟨hp, hl, fun _ h => h⟩

theorem RoutesKept.trans {a a' a'' : Agent} (h : RoutesKept a a') (h' : RoutesKept a' a'') :
    RoutesKept a a'' :=
  ⟨h'.unpoisoned, h'.loaded, fun key hkey => h'.routes key (h.routes key hkey)⟩

theorem RoutesKept.update (a : Agent) (ip : UInt32) (ok : Bool) (hp : a.poisoned = false)
    (hl : a.bpf.containerRoute.isSome) :
    RoutesKept a { a with bpf := (a.bpf.updateContainerRoute ip 1 ok).1 } := by
  refine ⟨hp, ?_, fun key hkey => ?_⟩
  · show (a.bpf.updateContainerRoute ip 1 ok).1.containerRoute.isSome
    rw [BpfManager.isSome_update, hl]
  · show (a.bpf.updateContainerRoute ip 1 ok).1.route key = some 1
    rw [BpfManager.route_update]
    split
    · rfl
    · exact hkey

/-- Without overflow checks an `allocate` only adds a route. -/
theorem askAgent_routesKept (a : Agent) (id : String) (env : AddEnv) (ok : Bool)
    (hp : a.poisoned = false) (hl : a.bpf.containerRoute.isSome) :
    RoutesKept a (askAgent false a id env ok).1 := by
  unfold askAgent
  split
  · rw [allocate_eq]
    simp only [hp, Bool.false_and, Bool.false_eq_true, if_false]
    rw [← hp]
    exact RoutesKept.update a _ ok hp hl
  · exact .refl a hp hl

/-- What the `add` request leaves behind: the entry and the route. -/
theorem notify_add_spec (checks : Bool) (a : Agent) (id iface : String) (ip : Ipv4Addr)
    (hp : a.poisoned = false) (hl : a.bpf.containerRoute.isSome) :
    RoutesKept a (handleContainerCmd checks a (.ok (notifyRequest "add" id ip.toText iface)) true).1 ∧
      (handleContainerCmd checks a (.ok (notifyRequest "add" id ip.toText iface)) true).1.bpf.route
        ip.toU32 = some 1 := by
  obtain ⟨hp', hl', hroutes⟩ := RoutesKept.update a ip.toU32 true hp hl
  rw [handle_notify_add, withRoute_of_parse _ _ _ ip (Ipv4Addr.parse_toText ip),
    if_neg (by simp [hp])]
  refine ⟨⟨hp', hl', hroutes⟩, ?_⟩
  show (a.bpf.updateContainerRoute ip.toU32 1 true).1.route ip.toU32 = some 1
  rw [BpfManager.route_update, if_pos ⟨⟨rfl, hl⟩, rfl⟩]

/-- What ADD does to the routes: none goes, and that of the address it hands out is
there at the end. -/
theorem cmdAdd_spec (a : Agent) (id : String) (env : AddEnv) (hp : a.poisoned = false)
    (hl : a.bpf.containerRoute.isSome) :
    RoutesKept a (cmdAdd false a id env true).1 ∧
      ∀ ip, (cmdAdd false a id env true).2 = some ip →
        (cmdAdd false a id env true).1.bpf.route ip.toU32 = some 1 := by
  have hask := askAgent_routesKept a id env true hp hl
  unfold cmdAdd
  cases hostIface id with
  | none => exact ⟨.refl a hp hl, fun ip h => by cases h⟩
  | some iface =>
    simp only
    split
    · exact ⟨.refl a hp hl, fun ip h => by cases h⟩
    · split
      · exact ⟨hask, fun ip h => by cases h⟩
      · obtain ⟨hkept, hroute⟩ := notify_add_spec false (askAgent false a id env true).1 id iface
          (askAgent false a id env true).2 hask.unpoisoned hask.loaded
        generalize (handleContainerCmd false _ _ true).1 = a' at hkept hroute ⊢
        refine ⟨hask.trans hkept, fun ip h => ?_⟩
        rw [← Option.some.inj h]
        exact hroute

/-- The route map can be reached, and every live container has its route. -/
structure Recorded (s : CniState) : Prop where
  unpoisoned : s.agent.poisoned = false
  loaded : s.agent.bpf.containerRoute.isSome
  routes : ∀ id ip, s.held id = some ip → s.agent.bpf.route ip.toU32 = some 1

theorem recorded_next (s : CniState) (op : CniOp) (h : Recorded s) :
    Recorded ((cniMachine false).next s op) := by
  obtain ⟨hp, hl, hroutes⟩ := h
  cases op with
  | add id env =>
    obtain ⟨hkept, hnew⟩ := cmdAdd_spec s.agent id env hp hl
    have hheld := held_of_add false s id env
    rw [next_add] at hheld ⊢
    generalize cmdAdd false s.agent id env true = r at hkept hnew hheld ⊢
    refine ⟨hkept.unpoisoned, hkept.loaded, fun id' ip hip => ?_⟩
    rcases hheld id' ip hip with ⟨-, hadd⟩ | hold
    · exact hnew ip hadd
    · exact hkept.routes _ (hroutes id' ip hold)
  | del id ran =>
    have hheld := held_of_del false s id ran
    rw [next_del, cmdDel_eq] at hheld ⊢
    refine ⟨?_, ?_, fun id' ip hip => ?_⟩
    · show (if _ then _ else _ : Agent).poisoned = false
      split <;> exact hp
    · show (if _ then _ else _ : Agent).bpf.containerRoute.isSome = true
      split <;> exact hl
    · have hold : s.held id' = some ip := hheld id' ip hip
      show (if _ then _ else _ : Agent).bpf.route ip.toU32 = some 1
      split <;> exact hroutes id' ip hold

/-! ## DEL against ADD -/

/-- **What DEL undoes.**  After any commands, DEL of a container added with `ip` undoes
the ADD exactly when `ip` was no key of the route map to begin with.  In a build
without overflow checks, with the map loaded, it always is one. -/
theorem del_undoes_iff (checks : Bool) (agent : Agent) (ops : List CniOp) (id : String) (ip : Ipv4Addr)
    (h : ((cniMachine checks).after ⟨agent, fun _ => none⟩ ops).held id = some ip) :
    let s := (cniMachine checks).after ⟨agent, fun _ => none⟩ ops
    (Undone s ((cniMachine checks).next s (.del id true)) id ip ↔ s.agent.bpf.route ip.toU32 = none) ∧
      (checks = false → agent.poisoned = false → agent.bpf.containerRoute.isSome →
        s.agent.bpf.route ip.toU32 ≠ none) := by
  have hiface := isSome_hostIface_of_held checks agent ops id ip h
  have hrecorded : checks = false → agent.poisoned = false → agent.bpf.containerRoute.isSome →
      Recorded ((cniMachine checks).after ⟨agent, fun _ => none⟩ ops) := by
    rintro rfl hp hl
    exact (cniMachine false).inv_after Recorded ops (fun s op _ => recorded_next s op) _
      ⟨hp, hl, fun id ip h => by cases h⟩
  intro s
  have hagent : ((cniMachine checks).next s (.del id true)).agent =
      { s.agent with containers := ContainerManager.remove s.agent.containers id } := by
    rw [next_del, cmdDel_eq, hiface]
    rfl
  refine ⟨⟨fun hundone => ?_, fun hroute => ⟨?_, ?_, ?_⟩⟩, fun hc hp hl => ?_⟩
  · have := hundone.route
    rwa [hagent] at this
  · rw [hagent]
    exact hroute
  · rw [hagent]
    exact Function.update_self ..
  · intro other addr _ hne _
    rw [hagent]
    exact ⟨rfl, Function.update_of_ne hne ..⟩
  · rw [(hrecorded hc hp hl).routes id ip h]
    exact Option.some_ne_none 1

/-- An ADD that meets no trouble and hears the agent. -/
def plainAdd : AddEnv := ⟨true, true, true, true⟩

/-- The loader did not find the map. -/
def unloaded : Agent := { Agent.loaded with bpf := { Agent.loaded.bpf with containerRoute := none } }

/-- Without the map DEL undoes the ADD of a container; with it, it does not. -/
theorem web_undone_unloaded :
    Undone ((cniMachine false).after ⟨unloaded, fun _ => none⟩ [.add "web" plainAdd])
        ((cniMachine false).next ((cniMachine false).after ⟨unloaded, fun _ => none⟩
          [.add "web" plainAdd]) (.del "web" true)) "web" ⟨10, 244, 0, 86⟩ ∧
      ¬ Undone ((cniMachine false).after ⟨Agent.loaded, fun _ => none⟩ [.add "web" plainAdd])
        ((cniMachine false).next ((cniMachine false).after ⟨Agent.loaded, fun _ => none⟩
          [.add "web" plainAdd]) (.del "web" true)) "web" ⟨10, 244, 0, 86⟩ := by
  constructor
  · exact (del_undoes_iff false unloaded [.add "web" plainAdd] "web" ⟨10, 244, 0, 86⟩
      (by decide +kernel)).1.mpr (by decide +kernel)
  · obtain ⟨hiff, hkey⟩ := del_undoes_iff false Agent.loaded [.add "web" plainAdd] "web"
      ⟨10, 244, 0, 86⟩ (by decide +kernel)
    exact fun hundone => hkey rfl rfl rfl (hiff.mp hundone)

/-- ADD and DEL of one container leave its route in the map. -/
theorem web_route_leaks :
    let s := (cniMachine false).after ⟨Agent.loaded, fun _ => none⟩ [.add "web" plainAdd]
    s.held "web" = some ⟨10, 244, 0, 86⟩ ∧
      ¬ Undone s ((cniMachine false).next s (.del "web" true)) "web" ⟨10, 244, 0, 86⟩ := by
  refine ⟨by decide +kernel, fun hundone => ?_⟩
  have hroute := hundone.route
  revert hroute
  decide +kernel

end NomadP2P
