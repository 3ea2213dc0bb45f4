import NomadP2P.Api
import NomadP2P.Lib.Machine

/-!
# The two container stores under concurrent requests

An `add` or `del` request changes the `ContainerManager` table under one lock and
`CONTAINER_ROUTE_MAP` under another, and each connection has a task of its own.  The
steps here are the two lock sections of each request, in any order that keeps the
table section of a request before its route section; run back to back they are
`handle_container_cmd` (`sections_eq_handle`).

Each store holds what was last written to it, so the two agree on a container exactly
when the last table section for it and the last route section that takes effect are
of the same kind:

    (∀ i, Agree (after order) (task i)) ↔ ∀ i, lastTable (task i) = lastRoute (task i)
                                                                  (stores_agree_iff)
-/

namespace NomadP2P

open ContainerManager

/-! ## Algorithm -/

inductive Action
  | add
  | del
deriving DecidableEq

/-- The `action` field of the request. -/
def Action.text : Action → String
  | .add => "add"
  | .del => "del"

/-- A request being handled: its fields, and whether its map system call succeeds. -/
structure StoreTask where
  action : Action
  id : String
  ip : Ipv4Addr
  iface : String
  ok : Bool

/-- The section under the `ContainerManager` lock. -/
def tableSection (agent : Agent) (t : StoreTask) : Agent :=
  match t.action with
  | .add => { agent with containers := add agent.containers t.id t.ip.toText t.iface }
  | .del => { agent with containers := remove agent.containers t.id }

/-- The section under the `BpfManager` mutex. -/
def routeSection (agent : Agent) (t : StoreTask) : Agent :=
  match t.action with
  | .add => withRoute agent t.ip.toText fun b key => b.updateContainerRoute key 1 t.ok
  | .del => withRoute agent t.ip.toText fun b key => b.removeContainerRoute key t.ok

/-- Requests handled at once.  Each request for an id carries the id's address, and no
other id has it. -/
structure StoreTasks (n : Nat) where
  task : Fin n → StoreTask
  one_address : ∀ i j, (task i).id = (task j).id ↔ (task i).ip = (task j).ip

/-- An order of the lock sections: the first time a request is named its table section
runs, the second time its route section, and then it has finished. -/
structure Interleaving (n : Nat) where
  order : List (Fin n)
  twice : ∀ i, order.count i = 2

inductive Section
  | table (t : StoreTask)
  | route (t : StoreTask)

/-- The agent, and the requests that have left their table section. -/
structure StoreState (n : Nat) where
  agent : Agent
  started : Fin n → Bool

/-- The lock sections one after another; a step answers which section it was. -/
def storeMachine {n : Nat} (tasks : StoreTasks n) : Machine (StoreState n) (Fin n) Section where
  step s i :=
    if s.started i then (⟨routeSection s.agent (tasks.task i), s.started⟩, .route (tasks.task i))
    else
      (⟨tableSection s.agent (tasks.task i), Function.update s.started i true⟩,
        .table (tasks.task i))

/-- The agent when all requests have finished. -/
def storesAfter {n : Nat} (tasks : StoreTasks n) (agent : Agent) (order : Interleaving n) : Agent :=
  ((storeMachine tasks).after ⟨agent, fun _ => false⟩ order.order).agent

/-- The sections in the order they ran. -/
def sectionsOf {n : Nat} (tasks : StoreTasks n) (agent : Agent) (order : Interleaving n) :
    List Section :=
  (storeMachine tasks).outputs ⟨agent, fun _ => false⟩ order.order

/-- The id is in the table exactly if its address is a key of the map. -/
def Agree (agent : Agent) (t : StoreTask) : Prop :=
  (agent.containers t.id).isSome = (agent.bpf.route t.ip.toU32).isSome

/-- A table section for `id`, and whether it leaves an entry. -/
def tableWrite (id : String) : Section → Option Bool
  | .table t => if t.id = id then some (decide (t.action = .add)) else none
  | .route _ => none

/-- The map can be reached: the mutex is not poisoned and the loader found the map.
`add` and `del` do not change that. -/
def Agent.inReach (agent : Agent) : Bool := !agent.poisoned && agent.bpf.containerRoute.isSome

/-- A route section for `id` that takes effect, and whether it leaves a key. -/
def routeWrite (inReach : Bool) (id : String) : Section → Option Bool
  | .table _ => none
  | .route t => if t.id = id ∧ (inReach && t.ok) = true then some (decide (t.action = .add)) else none

/-- What the last table section for the id of `t` leaves; with none, what there was. -/
def lastTable {n : Nat} (tasks : StoreTasks n) (agent : Agent) (order : Interleaving n)
    (t : StoreTask) : Bool :=
  ((sectionsOf tasks agent order).filterMap (tableWrite t.id)).getLast?.getD
    (agent.containers t.id).isSome

/-- What the last route section for the id of `t` that takes effect leaves; with none,
what there was. -/
def lastRoute {n : Nat} (tasks : StoreTasks n) (agent : Agent) (order : Interleaving n)
    (t : StoreTask) : Bool :=
  ((sectionsOf tasks agent order).filterMap (routeWrite agent.inReach t.id)).getLast?.getD
    (agent.bpf.route t.ip.toU32).isSome

/-! ## Lemmas -/

/-- The two sections back to back are the handler. -/
theorem sections_eq_handle (checks : Bool) (agent : Agent) (t : StoreTask) :
    routeSection (tableSection agent t) t =
      (handleContainerCmd checks agent
        (.ok (notifyRequest t.action.text t.id t.ip.toText t.iface)) t.ok).1 := by
  obtain ⟨action, id, ip, iface, ok⟩ := t
  cases action with
  | add => exact (handle_notify_add checks agent id ip.toText iface ok).symm
  | del => exact (handle_notify_del checks agent id ip.toText iface ok).symm

theorem tableSection_bpf (agent : Agent) (t : StoreTask) :
    (tableSection agent t).bpf = agent.bpf ∧ (tableSection agent t).poisoned = agent.poisoned := by
  unfold tableSection
  cases t.action <;> exact ⟨rfl, rfl⟩

theorem tableSection_containers (agent : Agent) (t : StoreTask) (id : String) :
    ((tableSection agent t).containers id).isSome =
      (tableWrite id (.table t)).getD (agent.containers id).isSome := by
  obtain ⟨action, tid, ip, iface, ok⟩ := t
  show _ = (if tid = id then some (decide (action = .add)) else none).getD _
  by_cases hid : tid = id
  · subst hid
    rw [if_pos rfl]
    cases action <;>
    · simp only [tableSection, add, remove, Function.update_self]
      rfl
  · rw [if_neg hid]
    cases action <;>
    · simp only [tableSection, add, remove, Function.update_of_ne (Ne.symm hid)]
      rfl

/-- The route section in its two cases. -/
theorem routeSection_add (agent : Agent) (id iface : String) (ip : Ipv4Addr) (ok : Bool) :
    routeSection agent ⟨.add, id, ip, iface, ok⟩ =
      if agent.poisoned then agent
      else { agent with bpf := (agent.bpf.updateContainerRoute ip.toU32 1 ok).1 } :=
  withRoute_of_parse agent ip.toText (fun b key => b.updateContainerRoute key 1 ok) ip
    (Ipv4Addr.parse_toText ip)

theorem routeSection_del (agent : Agent) (id iface : String) (ip : Ipv4Addr) (ok : Bool) :
    routeSection agent ⟨.del, id, ip, iface, ok⟩ =
      if agent.poisoned then agent
      else { agent with bpf := (agent.bpf.removeContainerRoute ip.toU32 ok).1 } :=
  withRoute_of_parse agent ip.toText (fun b key => b.removeContainerRoute key ok) ip
    (Ipv4Addr.parse_toText ip)

theorem routeSection_containers (agent : Agent) (t : StoreTask) :
    (routeSection agent t).containers = agent.containers := by
  obtain ⟨action, id, ip, iface, ok⟩ := t
  cases action with
  | add => rw [routeSection_add]; split <;> rfl
  | del => rw [routeSection_del]; split <;> rfl

theorem inReach_routeSection (agent : Agent) (t : StoreTask) :
    (routeSection agent t).inReach = agent.inReach := by
  obtain ⟨action, id, ip, iface, ok⟩ := t
  unfold Agent.inReach
  cases action with
  | add =>
    rw [routeSection_add]
    split
    · rfl
    · rw [BpfManager.isSome_update]
  | del =>
    rw [routeSection_del]
    split
    · rfl
    · rw [BpfManager.isSome_remove]

/-- The keys behind a route section. -/
theorem routeSection_route (agent : Agent) (t : StoreTask) (key : UInt32) :
    ((routeSection agent t).bpf.route key).isSome =
      if (agent.inReach && t.ok) = true ∧ key = t.ip.toU32 then decide (t.action = .add)
      else (agent.bpf.route key).isSome := by
  obtain ⟨action, id, ip, iface, ok⟩ := t
  by_cases hp : agent.poisoned = true
  · have hreach : agent.inReach = false := by rw [Agent.inReach, hp]; rfl
    rw [hreach, if_neg (by rintro ⟨h, -⟩; cases h)]
    cases action with
    | add => rw [routeSection_add, if_pos hp]
    | del => rw [routeSection_del, if_pos hp]
  · have hreach : agent.inReach = agent.bpf.containerRoute.isSome := by
      rw [Agent.inReach, Bool.eq_false_iff.mpr hp]
      rfl
    rw [hreach]
    cases action with
    | add =>
      rw [routeSection_add, if_neg hp]
      show ((agent.bpf.updateContainerRoute ip.toU32 1 ok).1.route key).isSome = _
      rw [BpfManager.route_update]
      by_cases hw : (ok = true ∧ agent.bpf.containerRoute.isSome = true) ∧ key = ip.toU32
      · rw [if_pos hw, if_pos ⟨Bool.and_eq_true_iff.mpr hw.1.symm, hw.2⟩]
        rfl
      · rw [if_neg hw, if_neg (fun h => hw ⟨(Bool.and_eq_true_iff.mp h.1).symm, h.2⟩)]
    | del =>
      rw [routeSection_del, if_neg hp]
      show ((agent.bpf.removeContainerRoute ip.toU32 ok).1.route key).isSome = _
      rw [BpfManager.route_remove]
      cases hslot : agent.bpf.containerRoute with
      | none =>
        have hnone : agent.bpf.route key = none := by rw [BpfManager.route, hslot]; rfl
        rw [hnone, ite_self, if_neg (by rintro ⟨h, -⟩; cases h)]
      | some map =>
        show _ = if ok = true ∧ key = ip.toU32 then false else (agent.bpf.route key).isSome
        split <;> rfl

/-! ### One step -/

theorem next_table {n : Nat} (tasks : StoreTasks n) (s : StoreState n) (i : Fin n)
    (h : s.started i = false) :
    (storeMachine tasks).step s i =
      (⟨tableSection s.agent (tasks.task i), Function.update s.started i true⟩,
        .table (tasks.task i)) := by
  show (if s.started i then _ else _) = _
  rw [h]
  rfl

theorem next_route {n : Nat} (tasks : StoreTasks n) (s : StoreState n) (i : Fin n)
    (h : s.started i = true) :
    (storeMachine tasks).step s i =
      (⟨routeSection s.agent (tasks.task i), s.started⟩, .route (tasks.task i)) := by
  show (if s.started i then _ else _) = _
  rw [h]
  rfl

/-- A step writes the table entry of `id` when it is a table section for `id`. -/
theorem containers_next {n : Nat} (tasks : StoreTasks n) (s : StoreState n) (i : Fin n) (id : String) :
    (((storeMachine tasks).next s i).agent.containers id).isSome =
      (tableWrite id ((storeMachine tasks).out s i)).getD (s.agent.containers id).isSome := by
  unfold Machine.next Machine.out
  cases h : s.started i with
  | false =>
    rw [next_table tasks s i h]
    exact tableSection_containers s.agent (tasks.task i) id
  | true =>
    rw [next_route tasks s i h]
    show ((routeSection s.agent (tasks.task i)).containers id).isSome = _
    rw [routeSection_containers]
    rfl

theorem inReach_next {n : Nat} (tasks : StoreTasks n) (s : StoreState n) (i : Fin n) :
    ((storeMachine tasks).next s i).agent.inReach = s.agent.inReach := by
  unfold Machine.next
  cases h : s.started i with
  | false =>
    rw [next_table tasks s i h]
    show (tableSection s.agent (tasks.task i)).inReach = _
    rw [Agent.inReach, (tableSection_bpf _ _).1, (tableSection_bpf _ _).2]
    rfl
  | true =>
    rw [next_route tasks s i h]
    exact inReach_routeSection s.agent (tasks.task i)

/-- A step writes the key of the address of task `j` when it is a route section for its
id that takes effect. -/
theorem route_next {n : Nat} (tasks : StoreTasks n) (s : StoreState n) (i j : Fin n) :
    (((storeMachine tasks).next s i).agent.bpf.route (tasks.task j).ip.toU32).isSome =
      (routeWrite s.agent.inReach (tasks.task j).id ((storeMachine tasks).out s i)).getD
        (s.agent.bpf.route (tasks.task j).ip.toU32).isSome := by
  unfold Machine.next Machine.out
  cases h : s.started i with
  | false =>
    rw [next_table tasks s i h]
    show ((tableSection s.agent (tasks.task i)).bpf.route _).isSome = _
    rw [(tableSection_bpf _ _).1]
    rfl
  | true =>
    rw [next_route tasks s i h]
    show ((routeSection s.agent (tasks.task i)).bpf.route _).isSome =
      (if (tasks.task i).id = (tasks.task j).id ∧ (s.agent.inReach && (tasks.task i).ok) = true then
        some (decide ((tasks.task i).action = .add)) else none).getD _
    -- the address of `j` is that of `i` exactly when the ids are the same
    have hkey : (tasks.task j).ip.toU32 = (tasks.task i).ip.toU32 ↔
        (tasks.task i).id = (tasks.task j).id := by
      rw [tasks.one_address i j]
      exact ⟨fun h => (Ipv4Addr.toU32_inj _ _ h).symm, fun h => by rw [h]⟩
    rw [routeSection_route]
    by_cases hw : (tasks.task i).id = (tasks.task j).id ∧ (s.agent.inReach && (tasks.task i).ok) = true
    · rw [if_pos ⟨hw.2, hkey.mpr hw.1⟩, if_pos hw, Option.getD_some]
    · rw [if_neg (fun h => hw ⟨hkey.mp h.2, h.1⟩), if_neg hw, Option.getD_none]

/-! ## Agreement -/

/-- **When the stores agree.**  For any requests, any state to start from and any order
of the lock sections: in the end each id is in the table exactly if its address is a
key, if and only if for each id the last table section and the last route section that
takes effect leave the same. -/
theorem stores_agree_iff {n : Nat} (tasks : StoreTasks n) (agent : Agent) (order : Interleaving n) :
    (∀ i, Agree (storesAfter tasks agent order) (tasks.task i)) ↔
      ∀ i, lastTable tasks agent order (tasks.task i) = lastRoute tasks agent order (tasks.task i) := by
  have htable : ∀ i, ((storesAfter tasks agent order).containers (tasks.task i).id).isSome =
      lastTable tasks agent order (tasks.task i) := by
    intro i
    exact (storeMachine tasks).after_lastWrite (fun _ => True)
      (fun s => (s.agent.containers (tasks.task i).id).isSome) (tableWrite (tasks.task i).id)
      (fun _ _ _ => trivial) (fun s j _ => containers_next tasks s j _) order.order _ trivial
  have hroute : ∀ i, ((storesAfter tasks agent order).bpf.route (tasks.task i).ip.toU32).isSome =
      lastRoute tasks agent order (tasks.task i) := by
    intro i
    refine (storeMachine tasks).after_lastWrite (fun s => s.agent.inReach = agent.inReach)
      (fun s => (s.agent.bpf.route (tasks.task i).ip.toU32).isSome)
      (routeWrite agent.inReach (tasks.task i).id)
      (fun s j h => (inReach_next tasks s j).trans h) (fun s j h => ?_) order.order _ rfl
    rw [← h]
    exact route_next tasks s j i
  refine forall_congr' fun i => ?_
  rw [Agree, htable i, hroute i]

/-- A container that is added and deleted at once. -/
def addAndDel : StoreTasks 2 where
  task i := ⟨if i = 0 then .add else .del, "web", ⟨10, 244, 0, 5⟩, "veth-web", true⟩
  one_address _ _ := ⟨fun _ => rfl, fun _ => rfl⟩

/-- Both table sections, the `add` first, then both route sections, the `del` first. -/
def crossed : Interleaving 2 where
  order := [0, 1, 1, 0]
  twice := by decide

/-- The container is not in the table, and its address is a key. -/
theorem crossed_disagree :
    ¬ ∀ i, Agree (storesAfter addAndDel Agent.loaded crossed) (addAndDel.task i) := by
  intro h
  have h0 := h 0
  revert h0
  unfold Agree
  decide +kernel

end NomadP2P
