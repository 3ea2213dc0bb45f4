import Mathlib.Data.Finset.Basic
import NomadP2P.CniOps

/-!
# Host links of containers (`cmd_add` and `cmd_del` of `cni/src/lib.rs`)

The links of the host's network namespace are a set of names.  ADD makes a veth pair
under a name cut from the container id and takes "File exists" for success; it
moves the peer to the container.  DEL deletes by the cut name.  This is the plugin as the
host's links have it; `CniRefine` shows that the plugin with its commands does this.

    name of the host link = "veth-" and the first eight bytes of the id

Nothing in the two commands asks whose link it is.  So every live container has a link
of its own throughout a run exactly when each command comes across no link of
another live container, and each successful ADD leaves its link behind:

    (∀ pre, pre <+: ops → Isolated (after pre)) ↔ Guarded ownLink ops     (isolated_iff_guarded)
-/

namespace NomadP2P

/-! ## Algorithm -/

/-- What the `ip` commands of an ADD meet: whether each can be started, whether
`ip link add` succeeds on free names, and whether `ip link set … netns` takes
the peer out of the host's namespace. -/
structure LinkEnv where
  addRuns : Bool
  creates : Bool
  moveRuns : Bool
  moves : Bool
  restRuns : Bool
deriving DecidableEq

/-- `ip link add <name> type veth peer name <peer>`; `none` is a failure other than
"File exists". -/
def ipLinkAdd (links : Finset String) (name peer : String) (creates : Bool) :
    Option (Finset String) :=
  if name ∈ links ∨ peer ∈ links ∨ name = peer then some links
  else if creates then some (insert name (insert peer links)) else none

/-- `ip link set <peer> netns <netns>`, and the commands behind it, which leave the links
as they are: the links, and whether ADD returns `Ok`. -/
def movePeer (links : Finset String) (peer : String) (env : LinkEnv) : Finset String × Bool :=
  if !env.moveRuns then (links, false)
  else (if env.moves then links.erase peer else links, env.restRuns)

/-- The links behind `cmd_add`, and whether it returns `Ok`. -/
def addLinks (links : Finset String) (containerId : String) (ifName : Option String)
    (env : LinkEnv) : Finset String × Bool :=
  match hostIface containerId with
  | none => (links, false)
  | some iface =>
    let peer := ifName.getD "eth0"
    match if env.addRuns then ipLinkAdd links iface peer env.creates else none with
    | none => (links, false)
    | some links => movePeer links peer env

/-- The links behind `cmd_del`, and whether it returns `Ok`. -/
def delLinks (links : Finset String) (containerId : String) (ran : Bool) : Finset String × Bool :=
  match hostIface containerId with
  | none => (links, false)
  | some iface => if ran then (links.erase iface, true) else (links, false)

inductive LinkOp
  | add (containerId : String) (ifName : Option String) (env : LinkEnv)
  | del (containerId : String) (ran : Bool)
deriving DecidableEq

/-- The links of the host, and the containers that are added and not deleted. -/
structure LinkState where
  links : Finset String
  live : Finset String
deriving DecidableEq

def linkMachine : Machine LinkState LinkOp Bool where
  step s
    | .add id ifName env =>
      let r := addLinks s.links id ifName env
      (⟨r.1, if r.2 then insert id s.live else s.live⟩, r.2)
    | .del id ran =>
      let r := delLinks s.links id ran
      (⟨r.1, if r.2 then s.live.erase id else s.live⟩, r.2)

/-- Every live container has a host link, and no two have the same. -/
def Isolated (s : LinkState) : Prop :=
  ∀ id ∈ s.live, ∃ iface, hostIface id = some iface ∧ iface ∈ s.links ∧
    ∀ other ∈ s.live, other ≠ id → hostIface other ≠ some iface

/-- What a command needs to keep the containers isolated.  An ADD that gets as far as moving
the peer must not move the host link of a live container; if it returns `Ok`, no
other live container has the name, and the link is there: either before the
command, or made by it and not moved away.  A DEL must not name the link of another
live container. -/
def ownLink (s : LinkState) : LinkOp → Prop
  | .add id ifName env =>
    ∀ iface, hostIface id = some iface → env.addRuns = true →
      (iface ∈ s.links ∨ ifName.getD "eth0" ∈ s.links ∨ iface = ifName.getD "eth0" ∨
        env.creates = true) →
      env.moveRuns = true →
      (env.moves = true → ∀ other ∈ s.live, hostIface other ≠ some (ifName.getD "eth0")) ∧
      (env.restRuns = true →
        (∀ other ∈ s.live, other ≠ id → hostIface other ≠ some iface) ∧
        (iface ∈ s.links ∨ ifName.getD "eth0" ∉ s.links ∧ iface ≠ ifName.getD "eth0") ∧
        (env.moves = true → iface ≠ ifName.getD "eth0"))
  | .del id ran =>
    ran = true → ∀ other ∈ s.live, other ≠ id → ∀ iface, hostIface id = some iface →
      hostIface other ≠ some iface

/-! ## Lemmas -/

theorem step_add_links (s : LinkState) (id : String) (ifName : Option String) (env : LinkEnv) :
    linkMachine.step s (.add id ifName env) =
      (⟨(addLinks s.links id ifName env).1,
        if (addLinks s.links id ifName env).2 then insert id s.live else s.live⟩,
        (addLinks s.links id ifName env).2) := rfl

theorem step_del_links (s : LinkState) (id : String) (ran : Bool) :
    linkMachine.step s (.del id ran) =
      (⟨(delLinks s.links id ran).1, if (delLinks s.links id ran).2 then s.live.erase id else s.live⟩,
        (delLinks s.links id ran).2) := rfl

theorem next_add_links (s : LinkState) (id : String) (ifName : Option String) (env : LinkEnv) :
    linkMachine.next s (.add id ifName env) =
      ⟨(addLinks s.links id ifName env).1,
        if (addLinks s.links id ifName env).2 then insert id s.live else s.live⟩ := by
  rw [Machine.next, step_add_links]

theorem next_del_links (s : LinkState) (id : String) (ran : Bool) :
    linkMachine.next s (.del id ran) =
      ⟨(delLinks s.links id ran).1, if (delLinks s.links id ran).2 then s.live.erase id else s.live⟩ := by
  rw [Machine.next, step_del_links]

theorem out_add_links (s : LinkState) (id : String) (ifName : Option String) (env : LinkEnv) :
    linkMachine.out s (.add id ifName env) = (addLinks s.links id ifName env).2 := by
  rw [Machine.out, step_add_links]

theorem out_del_links (s : LinkState) (id : String) (ran : Bool) :
    linkMachine.out s (.del id ran) = (delLinks s.links id ran).2 := by
  rw [Machine.out, step_del_links]

/-- ADD returns `Ok` here when it does in the model of the whole command. -/
theorem addLinks_ok (checks : Bool) (agent : Agent) (links : Finset String) (id iface : String)
    (ifName : Option String) (env : LinkEnv) (arrives heard ok : Bool)
    (hif : hostIface id = some iface) :
    (addLinks links id ifName env).2 =
      (cmdAdd checks agent id
        ⟨env.addRuns && (ipLinkAdd links iface (ifName.getD "eth0") env.creates).isSome,
          env.moveRuns && env.restRuns, arrives, heard⟩ ok).2.isSome := by
  unfold addLinks cmdAdd
  simp only [hif]
  cases env.addRuns with
  | false => rfl
  | true =>
    cases ipLinkAdd links iface (ifName.getD "eth0") env.creates with
    | none => rfl
    | some links' =>
      simp only [movePeer]
      cases env.moveRuns with
      | false => rfl
      | true => cases env.restRuns <;> rfl

theorem ipLinkAdd_eq_none_iff (links : Finset String) (name peer : String) (creates : Bool) :
    ipLinkAdd links name peer creates = none ↔
      ¬ (name ∈ links ∨ peer ∈ links ∨ name = peer ∨ creates = true) := by
  unfold ipLinkAdd
  by_cases h : name ∈ links ∨ peer ∈ links ∨ name = peer
  · rw [if_pos h]
    refine iff_of_false (by simp) ?_
    tauto
  · rw [if_neg h]
    cases creates with
    | true => exact iff_of_false (by simp) (by tauto)
    | false => exact iff_of_true (by simp) (by simpa using h)

/-- The names behind `ip link add`: none has gone, and its own is there if it was before or
both were free. -/
theorem mem_ipLinkAdd (links links' : Finset String) (name peer : String) (creates : Bool)
    (h : ipLinkAdd links name peer creates = some links') :
    links ⊆ links' ∧
      (name ∈ links' ↔ name ∈ links ∨ peer ∉ links ∧ name ≠ peer) := by
  unfold ipLinkAdd at h
  by_cases hex : name ∈ links ∨ peer ∈ links ∨ name = peer
  · rw [if_pos hex] at h
    obtain rfl := Option.some.inj h
    refine ⟨Finset.Subset.refl _, ?_⟩
    tauto
  · rw [if_neg hex] at h
    cases creates with
    | false => cases h
    | true =>
      obtain rfl := Option.some.inj h
      refine ⟨fun n hn => Finset.mem_insert_of_mem (Finset.mem_insert_of_mem hn), ?_⟩
      simp only [Finset.mem_insert_self, true_iff]
      tauto

/-- An ADD that stops before it moves the peer takes no link away and is not `Ok`. -/
theorem addLinks_stops (links : Finset String) (id : String) (ifName : Option String)
    (env : LinkEnv)
    (h : ∀ iface links', hostIface id = some iface → env.addRuns = true → env.moveRuns = true →
      ipLinkAdd links iface (ifName.getD "eth0") env.creates ≠ some links') :
    links ⊆ (addLinks links id ifName env).1 ∧ (addLinks links id ifName env).2 = false := by
  unfold addLinks
  cases hif : hostIface id with
  | none => exact ⟨Finset.Subset.refl _, rfl⟩
  | some iface =>
    simp only
    cases hruns : env.addRuns with
    | false => exact ⟨Finset.Subset.refl _, rfl⟩
    | true =>
      simp only [if_true]
      cases hadd : ipLinkAdd links iface (ifName.getD "eth0") env.creates with
      | none => exact ⟨Finset.Subset.refl _, rfl⟩
      | some links' =>
        have hmove : env.moveRuns = false := by
          by_contra hm
          exact h iface links' hif hruns (by simpa using hm) hadd
        simp only [movePeer, hmove]
        exact ⟨(mem_ipLinkAdd _ _ _ _ _ hadd).1, rfl⟩

/-- An ADD that gets as far as moving the peer. -/
theorem addLinks_moves (links links' : Finset String) (id iface : String) (ifName : Option String)
    (env : LinkEnv) (hif : hostIface id = some iface) (hruns : env.addRuns = true)
    (hadd : ipLinkAdd links iface (ifName.getD "eth0") env.creates = some links')
    (hmove : env.moveRuns = true) :
    addLinks links id ifName env =
      (if env.moves then links'.erase (ifName.getD "eth0") else links', env.restRuns) := by
  unfold addLinks movePeer
  simp only [hif, hruns, hadd, hmove, if_true, Bool.not_true, Bool.false_eq_true, if_false]

/-! ### Isolation and the two sets -/

theorem Isolated.link_mem {s : LinkState} (h : Isolated s) {id iface : String} (hid : id ∈ s.live)
    (hif : hostIface id = some iface) : iface ∈ s.links := by
  obtain ⟨iface', hif', hmem, -⟩ := h id hid
  rw [hif] at hif'
  obtain rfl := Option.some.inj hif'
  exact hmem

/-- Fewer live containers are isolated as well. -/
theorem Isolated.mono {links live live' : Finset String} (h : Isolated ⟨links, live⟩)
    (hsub : live' ⊆ live) : Isolated ⟨links, live'⟩ := by
  intro id hid
  obtain ⟨iface, hif, hmem, hown⟩ := h id (hsub hid)
  exact ⟨iface, hif, hmem, fun other ho hne => hown other (hsub ho) hne⟩

/-- With other links, the live containers' own have to be among them. -/
theorem isolated_links_iff (links links' live : Finset String) (h : Isolated ⟨links, live⟩) :
    Isolated ⟨links', live⟩ ↔ ∀ id ∈ live, ∀ iface, hostIface id = some iface → iface ∈ links' := by
  constructor
  · intro h' id hid iface hif
    exact h'.link_mem hid hif
  · intro h' id hid
    obtain ⟨iface, hif, -, hown⟩ := h id hid
    exact ⟨iface, hif, h' id hid iface hif, hown⟩

/-- One more live container. -/
theorem isolated_insert_iff (links live : Finset String) (id iface : String)
    (hif : hostIface id = some iface) :
    Isolated ⟨links, insert id live⟩ ↔
      Isolated ⟨links, live⟩ ∧ iface ∈ links ∧
        ∀ other ∈ live, other ≠ id → hostIface other ≠ some iface := by
  constructor
  · intro h
    obtain ⟨iface', hif', hmem, hown⟩ := h id (Finset.mem_insert_self _ _)
    rw [hif] at hif'
    obtain rfl := Option.some.inj hif'
    exact ⟨h.mono (Finset.subset_insert _ _), hmem,
      fun other ho => hown other (Finset.mem_insert_of_mem ho)⟩
  · rintro ⟨h, hmem, hown⟩ id' hid'
    by_cases hne : id' = id
    · subst hne
      refine ⟨iface, hif, hmem, fun other ho hne => ?_⟩
      exact hown other ((Finset.mem_insert.mp ho).resolve_left hne) hne
    · have hlive : id' ∈ live := (Finset.mem_insert.mp hid').resolve_left hne
      obtain ⟨iface', hif', hmem', hown'⟩ := h id' hlive
      refine ⟨iface', hif', hmem', fun other ho hother => ?_⟩
      rcases Finset.mem_insert.mp ho with rfl | ho
      · intro hsame
        rw [hif] at hsame
        exact hown id' hlive hne (hif'.trans hsame.symm)
      · exact hown' other ho hother

theorem mem_moved_iff (links : Finset String) (peer name : String) (moves : Bool) :
    name ∈ (if moves then links.erase peer else links) ↔
      name ∈ links ∧ (moves = true → name ≠ peer) := by
  cases moves with
  | false => simp
  | true => simp [and_comm]

/-- The containers that were live keep their links unless one of these is moved away. -/
theorem isolated_moved_iff (s : LinkState) (h : Isolated s) (links : Finset String)
    (hsub : s.links ⊆ links) (peer : String) (moves : Bool) :
    Isolated ⟨if moves then links.erase peer else links, s.live⟩ ↔
      (moves = true → ∀ other ∈ s.live, hostIface other ≠ some peer) := by
  rw [isolated_links_iff s.links _ s.live h]
  constructor
  · intro hall hm other ho hpeer
    exact ((mem_moved_iff _ _ _ _).mp (hall other ho _ hpeer)).2 hm rfl
  · intro hall other ho iface hif
    exact (mem_moved_iff _ _ _ _).mpr
      ⟨hsub (h.link_mem ho hif), fun hm he => hall hm other ho (he ▸ hif)⟩

/-! ### One command -/

/-- What an ADD needs that gets as far as moving the peer. -/
theorem ownLink_add_iff (s : LinkState) (id iface : String) (ifName : Option String) (env : LinkEnv)
    (hif : hostIface id = some iface) (hruns : env.addRuns = true)
    (hgo : iface ∈ s.links ∨ ifName.getD "eth0" ∈ s.links ∨ iface = ifName.getD "eth0" ∨
      env.creates = true) (hmove : env.moveRuns = true) :
    ownLink s (.add id ifName env) ↔
      (env.moves = true → ∀ other ∈ s.live, hostIface other ≠ some (ifName.getD "eth0")) ∧
      (env.restRuns = true →
        (∀ other ∈ s.live, other ≠ id → hostIface other ≠ some iface) ∧
        (iface ∈ s.links ∨ ifName.getD "eth0" ∉ s.links ∧ iface ≠ ifName.getD "eth0") ∧
        (env.moves = true → iface ≠ ifName.getD "eth0")) := by
  constructor
  · intro hg
    exact hg iface hif hruns hgo hmove
  · intro hg iface' hif' _ _ _
    rw [hif] at hif'
    obtain rfl := Option.some.inj hif'
    exact hg

theorem isolated_add_iff (s : LinkState) (id : String) (ifName : Option String) (env : LinkEnv)
    (h : Isolated s) :
    Isolated (linkMachine.next s (.add id ifName env)) ↔ ownLink s (.add id ifName env) := by
  rw [next_add_links]
  by_cases hstop : ∀ iface links', hostIface id = some iface → env.addRuns = true →
      env.moveRuns = true → ipLinkAdd s.links iface (ifName.getD "eth0") env.creates ≠ some links'
  · obtain ⟨hsub, hok⟩ := addLinks_stops s.links id ifName env hstop
    rw [hok, if_neg (by simp), isolated_links_iff s.links _ s.live h]
    refine iff_of_true ?_ ?_
    · intro id' hid' iface hif
      exact hsub (h.link_mem hid' hif)
    · intro iface hif hruns hgo hmove
      cases hadd : ipLinkAdd s.links iface (ifName.getD "eth0") env.creates with
      | none => exact absurd hgo ((ipLinkAdd_eq_none_iff _ _ _ _).mp hadd)
      | some links' => exact absurd hadd (hstop iface links' hif hruns hmove)
  · push Not at hstop
    obtain ⟨iface, links', hif, hruns, hmove, hadd⟩ := hstop
    obtain ⟨hsub, hown⟩ := mem_ipLinkAdd _ _ _ _ _ hadd
    have hgo : iface ∈ s.links ∨ ifName.getD "eth0" ∈ s.links ∨ iface = ifName.getD "eth0" ∨
        env.creates = true := by
      by_contra hn
      rw [(ipLinkAdd_eq_none_iff _ _ _ _).mpr hn] at hadd
      cases hadd
    rw [addLinks_moves s.links links' id iface ifName env hif hruns hadd hmove]
    have hkept := isolated_moved_iff s h links' hsub (ifName.getD "eth0") env.moves
    have hlink : iface ∈ (if env.moves then links'.erase (ifName.getD "eth0") else links') ↔
        (iface ∈ s.links ∨ ifName.getD "eth0" ∉ s.links ∧ iface ≠ ifName.getD "eth0") ∧
        (env.moves = true → iface ≠ ifName.getD "eth0") := by
      rw [mem_moved_iff, hown]
    rw [ownLink_add_iff s id iface ifName env hif hruns hgo hmove, ← hkept, ← hlink]
    cases hrest : env.restRuns with
    | false => simp
    | true =>
      simp only [if_true, true_imp_iff]
      rw [isolated_insert_iff _ _ id iface hif]
      exact and_congr_right fun _ => and_comm

theorem isolated_del_iff (s : LinkState) (id : String) (ran : Bool) (h : Isolated s) :
    Isolated (linkMachine.next s (.del id ran)) ↔ ownLink s (.del id ran) := by
  rw [next_del_links]
  unfold delLinks
  cases hif : hostIface id with
  | none =>
    refine iff_of_true h ?_
    intro _ _ _ _ iface hiface
    rw [hif] at hiface
    cases hiface
  | some iface =>
    cases ran with
    | false => exact iff_of_true h (fun hran => by cases hran)
    | true =>
      have herase : Isolated ⟨s.links, s.live.erase id⟩ := Isolated.mono h (Finset.erase_subset _ _)
      simp only [if_true]
      rw [isolated_links_iff s.links _ _ herase]
      constructor
      · intro hall _ other ho hne iface' hif' hother
        rw [hif] at hif'
        obtain rfl := Option.some.inj hif'
        have hmem := hall other (Finset.mem_erase.mpr ⟨hne, ho⟩) iface hother
        exact (Finset.mem_erase.mp hmem).1 rfl
      · intro hown other ho iface' hif'
        obtain ⟨hne, hlive⟩ := Finset.mem_erase.mp ho
        refine Finset.mem_erase.mpr ⟨?_, h.link_mem hlive hif'⟩
        rintro rfl
        exact hown rfl other hlive hne iface' hif hif'

/-! ### Main theorem -/

/-- **Isolation.**  From any links of the host and no live container, every live container
has a host link of its own in every state of a run of ADD and DEL commands exactly
when every command of the run meets `ownLink` in the state it is given in. -/
theorem isolated_iff_guarded (links : Finset String) (ops : List LinkOp) :
    (∀ pre, pre <+: ops → Isolated (linkMachine.after ⟨links, ∅⟩ pre)) ↔
      linkMachine.Guarded ownLink ⟨links, ∅⟩ ops := by
  have hone : ∀ s op, Isolated s → (Isolated (linkMachine.next s op) ↔ ownLink s op) := by
    intro s op h
    cases op with
    | add id ifName env => exact isolated_add_iff s id ifName env h
    | del id ran => exact isolated_del_iff s id ran h
  apply linkMachine.always_iff_guarded ownLink Isolated Isolated
  · exact fun _ h => h
  · exact fun s op h hg => (hone s op h).mpr hg
  · exact fun s op h hg hn => hg ((hone s op h).mp hn)
  · intro id hid
    simp at hid

/-- Every command can be started and succeeds. -/
def LinkEnv.good : LinkEnv := ⟨true, true, true, true, true⟩

/-- ADD without an interface name, where everything succeeds. -/
def addOp (id : String) : LinkOp := .add id none .good

theorem not_isolated_of_lost (s : LinkState) (id iface : String) (hid : id ∈ s.live)
    (hif : hostIface id = some iface) (hlost : iface ∉ s.links) : ¬ Isolated s :=
  fun h => hlost (h.link_mem hid hif)

/-- Two containers with the same first eight bytes of the id: both ADDs return `Ok`, the
second for the link of the first, and the DEL of the first takes the link from the
second.  And on a host with an interface `eth0`, ADD returns `Ok` for a link that is
not there. -/
theorem link_shared_and_lost :
    linkMachine.outputs ⟨∅, ∅⟩ [addOp "payments-1", addOp "payments-2", .del "payments-1" true] =
        [true, true, true] ∧
      ¬ Isolated (linkMachine.after ⟨∅, ∅⟩ [addOp "payments-1", addOp "payments-2"]) ∧
      ¬ Isolated (linkMachine.after ⟨∅, ∅⟩
          [addOp "payments-1", addOp "payments-2", .del "payments-1" true]) ∧
      linkMachine.outputs ⟨{"eth0"}, ∅⟩ [addOp "payments-1"] = [true] ∧
      ¬ Isolated (linkMachine.after ⟨{"eth0"}, ∅⟩ [addOp "payments-1"]) := by
  have h1 : hostIface "payments-1" = some "veth-payments" := by decide +kernel
  have h2 : hostIface "payments-2" = some "veth-payments" := by decide +kernel
  refine ⟨by decide +kernel, ?_, ?_, by decide +kernel, ?_⟩
  · intro h
    obtain ⟨iface, hif, -, hown⟩ := h "payments-1" (by decide +kernel)
    exact hown "payments-2" (by decide +kernel) (by decide) (by rw [h2, ← h1, hif])
  · exact not_isolated_of_lost _ "payments-2" _ (by decide +kernel) h2 (by decide +kernel)
  · exact not_isolated_of_lost _ "payments-1" _ (by decide +kernel) h1 (by decide +kernel)

end NomadP2P
