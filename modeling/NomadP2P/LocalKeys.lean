import NomadP2P.IpUnique
import NomadP2P.Route

/-!
# Who enters `CONTAINER_ROUTE_MAP`

Runs of API requests, route misses and `discovery_loop` iterations on one node.
Beside the code's state we keep `owned`: the addresses `allocate` has answered or
`add` was given, and no `del` has named since.  The map should hold owned
addresses only.

`discovery_loop` enters every address of its batch, owned or not.  The map stays
local throughout a run exactly when the misses it drains were for owned addresses
and each `del` of a key gets through:

    (∀ pre, pre <+: ops → Local (after pre)) ↔ Guarded localStep ops     (local_iff_guarded)
-/

namespace NomadP2P

/-! ## Algorithm -/

/-- The address a request takes on (`true`) or gives back (`false`). -/
def ApiRequest.effect (checks : Bool) (agent : Agent) (r : ApiRequest) : Option (Ipv4Addr × Bool) :=
  match r.idFor "allocate" with
  | some id => ((allocate checks agent id r.ok).2.bind Ipv4Addr.parse).map fun ip => (ip, true)
  | none =>
    match r.addrFor "add" with
    | some ip => some (ip, true)
    | none => (r.addrFor "del").map fun ip => (ip, false)

inductive NodeOp
  | api (r : ApiRequest)
  | submit (overlayIp : UInt32)
  | discover (kad : Bool) (now : Nat) (ok : UInt32 → Bool)

/-- `discovering` is set as long as the task of `discovery_loop` has not panicked. -/
structure NodeState where
  agent : Agent
  route : RouteManager
  discovering : Bool
  owned : UInt32 → Bool

/-- A node with an empty route map. -/
def NodeState.start : NodeState := ⟨Agent.loaded, .new, true, fun _ => false⟩

def nodeMachine (checks : Bool) : Machine NodeState NodeOp Unit where
  step s
    | .api r =>
      let agent := (handleContainerCmd checks s.agent r.body r.ok).1
      let owned := (r.effect checks s.agent).elim s.owned fun e =>
        Function.update s.owned e.1.toU32 e.2
      ({ s with agent := agent, owned := owned }, ())
    | .submit ip => ({ s with route := s.route.submitMiss ip }, ())
    | .discover kad now ok =>
      if s.discovering then
        let d := discoveryIteration s.route s.agent kad now ok
        ({ s with
            route := d.route
            agent := d.agent.getD s.agent
            discovering := d.agent.isSome }, ())
      else (s, ())

/-- Every key of the map is an owned address. -/
def Local (s : NodeState) : Prop :=
  ∀ key, s.agent.bpf.route key ≠ none → s.owned key = true

/-- What a step needs to keep the map local.  A `del` of a key has to get through to the
map, and the pending misses an iteration enters have to be for owned addresses. -/
def localStep (checks : Bool) (s : NodeState) : NodeOp → Prop
  | .api r => ∀ ip, r.effect checks s.agent = some (ip, false) →
      s.agent.bpf.route ip.toU32 ≠ none → s.agent.poisoned = false ∧ r.ok = true
  | .submit _ => True
  | .discover _ now ok =>
    s.discovering = true → s.agent.poisoned = false → s.agent.bpf.containerRoute.isSome →
      ∀ ip ∈ s.route.pending, RouteManager.retain now s.route.cooldowns ip = none → ok ip = true →
        s.owned ip = true

/-! ## Lemmas -/

theorem discoverAll_poisoned (ok : UInt32 → Bool) (batch : List UInt32) (agent : Agent)
    (h : agent.poisoned = true) : (discoverAll ok batch agent).getD agent = agent := by
  cases batch with
  | nil => rfl
  | cons ip batch => rw [discoverAll, if_pos h]; rfl

/-- The keys behind the inserts of an iteration. -/
theorem discoverAll_route (ok : UInt32 → Bool) (batch : List UInt32) :
    ∀ agent : Agent, agent.poisoned = false → ∃ agent', discoverAll ok batch agent = some agent' ∧
      ∀ key, agent'.bpf.route key =
        if agent.bpf.containerRoute.isSome ∧ key ∈ batch ∧ ok key = true then some 1
        else agent.bpf.route key := by
  induction batch with
  | nil =>
    intro agent _
    exact ⟨agent, rfl, fun key => (if_neg (by simp)).symm⟩
  | cons ip batch ih =>
    intro agent hp
    have hstep : discoverAll ok (ip :: batch) agent =
        discoverAll ok batch { agent with bpf := (agent.bpf.updateContainerRoute ip 1 (ok ip)).1 } := by
      rw [discoverAll, if_neg (by simp [hp])]
      rfl
    obtain ⟨agent', hrun, hroute⟩ :=
      ih { agent with bpf := (agent.bpf.updateContainerRoute ip 1 (ok ip)).1 } hp
    refine ⟨agent', hstep.trans hrun, fun key => ?_⟩
    rw [hroute, BpfManager.isSome_update, BpfManager.route_update]
    by_cases hin : agent.bpf.containerRoute.isSome ∧ key ∈ batch ∧ ok key = true
    · rw [if_pos hin, if_pos ⟨hin.1, List.mem_cons_of_mem _ hin.2.1, hin.2.2⟩]
    · rw [if_neg hin]
      by_cases hnew : (ok ip = true ∧ agent.bpf.containerRoute.isSome) ∧ key = ip
      · obtain ⟨⟨hok, hl⟩, rfl⟩ := hnew
        rw [if_pos ⟨⟨hok, hl⟩, rfl⟩, if_pos ⟨hl, List.mem_cons_self, hok⟩]
      · rw [if_neg hnew, if_neg]
        rintro ⟨hl, hmem, hok⟩
        rcases List.mem_cons.mp hmem with rfl | hmem
        · exact hnew ⟨⟨hok, hl⟩, rfl⟩
        · exact hin ⟨hl, hmem, hok⟩

/-- The keys behind an iteration: what of the pending misses was not cooling down and
could be entered, if the map is in reach. -/
theorem discovery_route (r : RouteManager) (agent : Agent) (kad : Bool) (now : Nat) (ok : UInt32 → Bool)
    (key : UInt32) :
    ((discoveryIteration r agent kad now ok).agent.getD agent).bpf.route key =
      if agent.poisoned = false ∧ agent.bpf.containerRoute.isSome ∧ key ∈ r.pending ∧
          RouteManager.retain now r.cooldowns key = none ∧ ok key = true then some 1
      else agent.bpf.route key := by
  show ((discoverAll ok (r.drainBatch now).2 agent).getD agent).bpf.route key = _
  rw [drainBatch_eq]
  have hmem : key ∈ fresh (RouteManager.retain now r.cooldowns) r.pending ↔
      key ∈ r.pending ∧ RouteManager.retain now r.cooldowns key = none := by
    rw [fresh, List.mem_filter, List.mem_eraseDups, Option.isNone_iff_eq_none]
  by_cases hp : agent.poisoned = true
  · rw [discoverAll_poisoned ok _ agent hp, if_neg (by rintro ⟨h, -⟩; rw [hp] at h; cases h)]
  · have hp' := Bool.eq_false_iff.mpr hp
    obtain ⟨agent', hrun, hroute⟩ := discoverAll_route ok
      (fresh (RouteManager.retain now r.cooldowns) r.pending) agent hp'
    rw [hrun, Option.getD_some, hroute]
    by_cases hin : agent.bpf.containerRoute.isSome ∧
        key ∈ fresh (RouteManager.retain now r.cooldowns) r.pending ∧ ok key = true
    · obtain ⟨hl, hfresh, hok⟩ := hin
      rw [if_pos ⟨hl, hfresh, hok⟩,
        if_pos ⟨hp', hl, (hmem.mp hfresh).1, (hmem.mp hfresh).2, hok⟩]
    · rw [if_neg hin, if_neg]
      rintro ⟨-, hl, hpend, hcool, hok⟩
      exact hin ⟨hl, hmem.mpr ⟨hpend, hcool⟩, hok⟩

/-- What one request does to the keys. -/
inductive ApiKeys (agent agent' : Agent) (ok : Bool) : Option (Ipv4Addr × Bool) → Prop
  | none (h : ∀ key, agent'.bpf.route key = agent.bpf.route key) : ApiKeys agent agent' ok none
  | take (ip : Ipv4Addr)
      (h : ∀ key, agent'.bpf.route key ≠ Option.none → key = ip.toU32 ∨ agent.bpf.route key ≠ Option.none) :
      ApiKeys agent agent' ok (some (ip, true))
  | give (ip : Ipv4Addr)
      (h : ∀ key, agent'.bpf.route key =
        if (agent.poisoned = false ∧ ok = true) ∧ key = ip.toU32 then Option.none
        else agent.bpf.route key) :
      ApiKeys agent agent' ok (some (ip, false))

theorem allocate_keys (checks : Bool) (agent : Agent) (id : String) (ok : Bool) :
    ApiKeys agent (allocate checks agent id ok).1 ok
      (((allocate checks agent id ok).2.bind Ipv4Addr.parse).map fun ip => (ip, true)) := by
  rw [allocate_eq]
  by_cases hp : agent.poisoned = true
  · rw [if_pos hp]
    exact .none fun key => rfl
  · rw [if_neg hp]
    by_cases hover : (checks && 252 ≤ lowByte id) = true
    · rw [if_pos hover]
      exact .none fun key => rfl
    · rw [if_neg hover, Option.bind_some, Ipv4Addr.parse_toText, Option.map_some]
      refine .take _ fun key hkey => ?_
      replace hkey : (agent.bpf.updateContainerRoute _ 1 ok).1.route key ≠ none := hkey
      rw [BpfManager.route_update] at hkey
      split at hkey
      · next hnew => exact .inl hnew.2
      · exact .inr hkey

theorem api_keys (checks : Bool) (agent : Agent) (r : ApiRequest) :
    ApiKeys agent (handleContainerCmd checks agent r.body r.ok).1 r.ok (r.effect checks agent) := by
  obtain ⟨body, ok⟩ := r
  cases body with
  | error e => exact .none fun key => rfl
  | ok v =>
    unfold ApiRequest.effect ApiRequest.idFor ApiRequest.addrFor
    by_cases hallocate : v.strField "action" "" = "allocate"
    · simp only [hallocate, if_true]
      rw [handle_allocate checks agent v ok hallocate]
      exact allocate_keys checks agent _ ok
    by_cases hadd : v.strField "action" "" = "add"
    · simp only [hadd, String.reduceEq, if_true, if_false]
      rw [handle_add checks agent v ok hadd]
      cases hip : Ipv4Addr.parse (v.strField "ip" "0.0.0.0") with
      | none =>
        rw [withRoute_of_not_parse _ _ _ hip]
        exact .none fun key => rfl
      | some ip => exact .take ip fun key => withRoute_update_key _ _ ok ip hip key
    by_cases hdel : v.strField "action" "" = "del"
    · simp only [hdel, String.reduceEq, if_true, if_false]
      rw [handle_del checks agent v ok hdel]
      cases hip : Ipv4Addr.parse (v.strField "ip" "0.0.0.0") with
      | none =>
        rw [withRoute_of_not_parse _ _ _ hip]
        exact .none fun key => rfl
      | some ip => exact .give ip fun key => withRoute_remove_key _ _ ok ip hip key
    · simp only [hallocate, hadd, hdel, if_false, handleContainerCmd]
      exact .none fun key => rfl

/-! ## The map stays local -/

section Owned
variable {route route' : UInt32 → Option UInt32} {owned : UInt32 → Bool}

/-- One more key, and it is taken on. -/
theorem owned_take (ip : Ipv4Addr) (h : ∀ key, route key ≠ none → owned key = true)
    (hnew : ∀ key, route' key ≠ none → key = ip.toU32 ∨ route key ≠ none) :
    ∀ key, route' key ≠ none → Function.update owned ip.toU32 true key = true := by
  intro key hkey
  by_cases hip : key = ip.toU32
  · rw [hip, Function.update_self]
  · rw [Function.update_of_ne hip]
    exact h key ((hnew key hkey).resolve_left hip)

/-- An address that is given back must not stay a key. -/
theorem owned_give_iff (ip : Ipv4Addr) (through : Prop) [Decidable through]
    (h : ∀ key, route key ≠ none → owned key = true)
    (hgone : ∀ key, route' key = if through ∧ key = ip.toU32 then none else route key) :
    (∀ key, route' key ≠ none → Function.update owned ip.toU32 false key = true) ↔
      (route ip.toU32 ≠ none → through) := by
  constructor
  · intro hlocal hroute
    by_contra hfail
    have howned := hlocal ip.toU32 (by rwa [hgone, if_neg (fun hw => hfail hw.1)])
    rw [Function.update_self] at howned
    cases howned
  · intro hguard key hkey
    rw [hgone] at hkey
    by_cases hip : key = ip.toU32
    · subst hip
      by_cases hthrough : through
      · rw [if_pos ⟨hthrough, rfl⟩] at hkey
        exact absurd rfl hkey
      · rw [if_neg (fun hw => hthrough hw.1)] at hkey
        exact absurd (hguard hkey) hthrough
    · rw [if_neg (fun hw => hip hw.2)] at hkey
      rw [Function.update_of_ne hip]
      exact h key hkey

end Owned

theorem local_api (checks : Bool) (s : NodeState) (r : ApiRequest) (h : Local s) :
    Local ((nodeMachine checks).next s (.api r)) ↔ localStep checks s (.api r) := by
  have hkeys := api_keys checks s.agent r
  have howned : ((nodeMachine checks).next s (.api r)).owned =
    (r.effect checks s.agent).elim s.owned fun e => Function.update s.owned e.1.toU32 e.2 := rfl
  have hagent : ((nodeMachine checks).next s (.api r)).agent =
    (handleContainerCmd checks s.agent r.body r.ok).1 := rfl
  show Local _ ↔ ∀ ip, r.effect checks s.agent = some (ip, false) →
    s.agent.bpf.route ip.toU32 ≠ none → s.agent.poisoned = false ∧ r.ok = true
  unfold Local
  rw [howned, hagent]
  generalize (handleContainerCmd checks s.agent r.body r.ok).1 = agent' at hkeys
  cases heff : r.effect checks s.agent with
  | none =>
    rw [heff] at hkeys
    cases hkeys with
    | none hsame =>
      constructor
      · intro _ ip hip
        cases hip
      · intro _ key hkey
        rw [hsame] at hkey
        exact h key hkey
  | some e =>
    obtain ⟨ip, taken⟩ := e
    rw [heff] at hkeys
    cases hkeys with
    | take _ hnew =>
      constructor
      · intro _ ip hip
        cases hip
      · exact fun _ => owned_take ip h hnew
    | give _ hgone =>
      rw [Option.elim_some, owned_give_iff ip _ h hgone]
      constructor
      · intro hguard ip' hip
        cases hip
        exact hguard
      · exact fun hguard => hguard ip rfl

theorem local_discover (checks : Bool) (s : NodeState) (kad : Bool) (now : Nat) (ok : UInt32 → Bool)
    (h : Local s) :
    Local ((nodeMachine checks).next s (.discover kad now ok)) ↔
      localStep checks s (.discover kad now ok) := by
  by_cases hrun : s.discovering = true
  · have hnext : (nodeMachine checks).next s (.discover kad now ok) =
        { s with
          route := (discoveryIteration s.route s.agent kad now ok).route
          agent := (discoveryIteration s.route s.agent kad now ok).agent.getD s.agent
          discovering := (discoveryIteration s.route s.agent kad now ok).agent.isSome } := by
      unfold Machine.next nodeMachine
      simp only [hrun, if_true]
    rw [hnext]
    unfold Local localStep
    constructor
    · intro hlocal _ hp hl ip hpend hcool hok
      refine hlocal ip ?_
      rw [discovery_route, if_pos ⟨hp, hl, hpend, hcool, hok⟩]
      exact Option.some_ne_none 1
    · intro hguard key hkey
      rw [discovery_route] at hkey
      split at hkey
      · next hnew =>
        obtain ⟨hp, hl, hpend, hcool, hok⟩ := hnew
        exact hguard hrun hp hl key hpend hcool hok
      · exact h key hkey
  · have hnext : (nodeMachine checks).next s (.discover kad now ok) = s := by
      unfold Machine.next nodeMachine
      simp only [hrun, if_false, Bool.false_eq_true]
    rw [hnext]
    exact ⟨fun _ hdisc => absurd hdisc hrun, fun _ => h⟩

/-- A step from a local map keeps it local exactly when it is guarded. -/
theorem local_next (checks : Bool) (s : NodeState) (op : NodeOp) (h : Local s) :
    Local ((nodeMachine checks).next s op) ↔ localStep checks s op := by
  cases op with
  | api r => exact local_api checks s r h
  | submit ip => exact ⟨fun _ => trivial, fun _ => h⟩
  | discover kad now ok => exact local_discover checks s kad now ok h

/-- **When the map holds local containers only.**  From any state with a local map, every
state of a run has one exactly when each `del` of a key gets through, and each address
that an iteration of `discovery_loop` enters is owned. -/
theorem local_iff_guarded (checks : Bool) (s : NodeState) (h : Local s) (ops : List NodeOp) :
    (∀ pre, pre <+: ops → Local ((nodeMachine checks).after s pre)) ↔
      (nodeMachine checks).Guarded (localStep checks) s ops :=
  (nodeMachine checks).always_iff_guarded (localStep checks) Local Local (fun _ h => h)
    (fun s op h hg => (local_next checks s op h).mpr hg)
    (fun s op h hg hl => hg ((local_next checks s op h).mp hl)) ops s h

/-- A container gets its address, a packet to that address misses, and the miss is drained. -/
def missOfOwn : List NodeOp :=
  [.api ⟨.ok (allocateRequest "web"), true⟩, .submit (Ipv4Addr.toU32 ⟨10, 244, 0, 86⟩),
    .discover false 0 fun _ => true]

/-- The map stays local, and it has a key. -/
theorem missOfOwn_local :
    (∀ pre, pre <+: missOfOwn → Local ((nodeMachine false).after .start pre)) ∧
      ((nodeMachine false).after .start missOfOwn).agent.bpf.route
        (Ipv4Addr.toU32 ⟨10, 244, 0, 86⟩) = some 1 := by
  have hstart : Local .start := fun key hkey => absurd rfl hkey
  refine ⟨(local_iff_guarded false .start hstart missOfOwn).mpr ⟨?_, trivial, ?_, trivial⟩,
    by decide +kernel⟩
  · intro ip heffect
    have htake : ApiRequest.effect false Agent.loaded ⟨.ok (allocateRequest "web"), true⟩ =
        some (⟨10, 244, 0, 86⟩, true) := by decide +kernel
    have hsome := htake.symm.trans heffect
    cases hsome
  · intro _ _ _ ip hip _ _
    have hpending : ip ∈ [Ipv4Addr.toU32 ⟨10, 244, 0, 86⟩] := hip
    rw [List.mem_singleton.mp hpending]
    decide +kernel

/-- A packet to `10.0.0.5` leaves the node, and the address becomes a key. -/
theorem destination_becomes_key :
    ¬ Local ((nodeMachine false).after .start
      [.submit (Ipv4Addr.toU32 ⟨10, 0, 0, 5⟩), .discover false 0 fun _ => true]) := by
  intro h
  have howned := h (Ipv4Addr.toU32 ⟨10, 0, 0, 5⟩) (by decide +kernel)
  revert howned
  decide +kernel

end NomadP2P
