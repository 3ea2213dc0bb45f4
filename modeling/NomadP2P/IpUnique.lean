import Mathlib.Data.Set.Card
import NomadP2P.Api
import NomadP2P.Lib.Machine

/-!
# Who holds which address

Runs of `handle_container_cmd` over any sequence of request bodies, from any state of
the agent.  Beside the agent we keep `held`: the address each container id was last
given by `allocate` and that no `del` of the id has returned since.

The allocator never sees `held`: the occupancy test is a stub, and the address is a
function of the low byte of the hash of the id.  So addresses are unique in
every state of a run exactly when each answered `allocate` is for an id whose
slot no other live container has:

    (∀ pre, pre <+: reqs → Unique (after pre)) ↔ Guarded freshSlot reqs
                                                     (unique_iff_fresh_slots)
-/

namespace NomadP2P

open ContainerManager

/-! ## Algorithm -/

/-- One request: what `serde_json::from_slice` made of the body, and whether the map
system call of the handler succeeds. -/
structure ApiRequest where
  body : Except String Json
  ok : Bool

structure ApiState where
  agent : Agent
  held : String → Option String

/-- Nothing has been handed out yet. -/
def ApiState.start (agent : Agent) : ApiState := ⟨agent, fun _ => none⟩

/-- The id a request is for, when the request has action `action`. -/
def ApiRequest.idFor (r : ApiRequest) (action : String) : Option String :=
  match r.body with
  | .ok v => if v.strField "action" "" = action then some (v.strField "container_id" "") else none
  | .error _ => none

/-- The address in a request with action `action`. -/
def ApiRequest.addrFor (r : ApiRequest) (action : String) : Option Ipv4Addr :=
  match r.body with
  | .ok v =>
    if v.strField "action" "" = action then Ipv4Addr.parse (v.strField "ip" "0.0.0.0") else none
  | .error _ => none

/-- Who holds what after the request `r`. -/
def heldAfter (checks : Bool) (s : ApiState) (r : ApiRequest) : String → Option String :=
  match r.idFor "allocate" with
  | some id =>
    match (allocate checks s.agent id r.ok).2 with
    | some ip => Function.update s.held id (some ip)
    | none => s.held
  | none =>
    match r.idFor "del" with
    | some id => Function.update s.held id none
    | none => s.held

/-- The agent answering requests one after another. -/
def apiMachine (checks : Bool) : Machine ApiState ApiRequest (Option String) where
  step s r :=
    let (agent, answer) := handleContainerCmd checks s.agent r.body r.ok
    (⟨agent, heldAfter checks s r⟩, answer)

/-- The containers that have an address. -/
def live (s : ApiState) : Set String := {id | s.held id ≠ none}

/-- No two containers hold the same address. -/
def Unique (s : ApiState) : Prop :=
  ∀ id₁ id₂ ip, id₁ ≠ id₂ → s.held id₁ = some ip → s.held id₂ ≠ some ip

/-- If the request is an `allocate` that gets an answer (the mutex is not poisoned and
no addition panics), then no other live container has the slot of its id. -/
def freshSlot (checks : Bool) (s : ApiState) (r : ApiRequest) : Prop :=
  ∀ id, r.idFor "allocate" = some id → s.agent.poisoned = false →
    (checks = true → lowByte id < 252) →
    ∀ other ∈ live s, other ≠ id → slot (lowByte other) ≠ slot (lowByte id)

/-! ## Lemmas -/

/-- Every held address is the one of its id's slot. -/
def SlotAddresses (s : ApiState) : Prop :=
  ∀ id ip, s.held id = some ip → ip = (hostAddr (slot (lowByte id))).toText

/-- Then addresses are unique when slots are. -/
theorem unique_iff_injOn (s : ApiState) (hs : SlotAddresses s) :
    Unique s ↔ Set.InjOn (fun id => slot (lowByte id)) (live s) := by
  constructor
  · intro huniq x hx y hy hslot
    obtain ⟨ip, hip⟩ := Option.ne_none_iff_exists'.mp hx
    obtain ⟨ip', hip'⟩ := Option.ne_none_iff_exists'.mp hy
    by_contra hne
    have hsame : ip' = ip := by
      rw [hs x ip hip, hs y ip' hip', show slot (lowByte y) = slot (lowByte x) from hslot.symm]
    rw [hsame] at hip'
    exact huniq x y ip hne hip hip'
  · intro hinj id₁ id₂ ip hne h1 h2
    apply hne
    apply hinj
    · show s.held id₁ ≠ none
      simp [h1]
    · show s.held id₂ ≠ none
      simp [h2]
    · exact hostAddr_toText_inj _ _ ((hs id₁ ip h1).symm.trans (hs id₂ ip h2))

theorem next_held (checks : Bool) (s : ApiState) (r : ApiRequest) :
    ((apiMachine checks).next s r).held = heldAfter checks s r := rfl

/-- The address `held` takes over is the one in the answer. -/
theorem out_allocate (checks : Bool) (s : ApiState) (r : ApiRequest) (id : String)
    (hr : r.idFor "allocate" = some id) :
    (apiMachine checks).out s r = (allocate checks s.agent id r.ok).2.map fun ip =>
      "200 OK\r\n\r\n\x7b\"ip\":\"" ++ ip ++ "\"\x7d" := by
  unfold ApiRequest.idFor at hr
  show (handleContainerCmd checks s.agent r.body r.ok).2 = _
  cases hb : r.body with
  | error e => simp [hb] at hr
  | ok v =>
    simp only [hb] at hr
    split at hr
    · next hact =>
      rw [handle_allocate checks s.agent v r.ok hact, Option.some.inj hr]
    · cases hr

/-- An answered `allocate` gives the address of the slot; an unanswered one nothing. -/
theorem heldAfter_allocate (checks : Bool) (s : ApiState) (r : ApiRequest) (id : String)
    (hr : r.idFor "allocate" = some id) :
    heldAfter checks s r =
      if s.agent.poisoned = false ∧ (checks = true → lowByte id < 252) then
        Function.update s.held id (some (hostAddr (slot (lowByte id))).toText)
      else s.held := by
  simp only [heldAfter, hr]
  rw [allocate_eq]
  by_cases hp : s.agent.poisoned = true
  · rw [if_pos hp, if_neg (by simp [hp])]
  rw [if_neg hp]
  have hp' : s.agent.poisoned = false := by simpa using hp
  by_cases hc : (checks && 252 ≤ lowByte id) = true
  · simp only [Bool.and_eq_true, decide_eq_true_eq] at hc
    have hn : ¬ lowByte id < 252 := UInt8.not_lt.mpr hc.2
    rw [if_pos (by simp [hc]), if_neg (fun h => hn (h.2 hc.1))]
  · rw [if_neg hc, if_pos]
    refine ⟨hp', fun hch => ?_⟩
    rw [hch, Bool.true_and, decide_eq_true_eq] at hc
    exact UInt8.not_le.mp hc

/-- Every other request leaves each holder with its address or with none. -/
theorem heldAfter_other (checks : Bool) (s : ApiState) (r : ApiRequest)
    (hr : r.idFor "allocate" = none) (id ip : String) (h : heldAfter checks s r id = some ip) :
    s.held id = some ip := by
  cases hd : r.idFor "del" with
  | none =>
    simp only [heldAfter, hr, hd] at h
    exact h
  | some del =>
    simp only [heldAfter, hr, hd] at h
    by_cases hid : id = del
    · subst hid
      rw [Function.update_self] at h
      cases h
    · rwa [Function.update_of_ne hid] at h

theorem slotAddresses_next (checks : Bool) (s : ApiState) (r : ApiRequest) (hs : SlotAddresses s) :
    SlotAddresses ((apiMachine checks).next s r) := by
  intro id ip h
  rw [next_held] at h
  cases hr : r.idFor "allocate" with
  | none => exact hs id ip (heldAfter_other checks s r hr id ip h)
  | some new =>
    rw [heldAfter_allocate checks s r new hr] at h
    split at h
    · by_cases hid : id = new
      · subst hid
        rw [Function.update_self, Option.some.injEq] at h
        exact h.symm
      · rw [Function.update_of_ne hid] at h
        exact hs id ip h
    · exact hs id ip h

/-- An answered `allocate` makes its id live and no other. -/
theorem live_allocate (checks : Bool) (s : ApiState) (r : ApiRequest) (id : String)
    (hr : r.idFor "allocate" = some id)
    (hans : s.agent.poisoned = false ∧ (checks = true → lowByte id < 252)) :
    live ((apiMachine checks).next s r) = insert id (live s) := by
  ext x
  show ((apiMachine checks).next s r).held x ≠ none ↔ x = id ∨ s.held x ≠ none
  rw [next_held, heldAfter_allocate checks s r id hr, if_pos hans]
  by_cases hx : x = id
  · simp [hx]
  · simp [hx]

/-- Any other request adds no live container. -/
theorem live_subset (checks : Bool) (s : ApiState) (r : ApiRequest)
    (h : ∀ id, r.idFor "allocate" = some id →
      ¬ (s.agent.poisoned = false ∧ (checks = true → lowByte id < 252))) :
    live ((apiMachine checks).next s r) ⊆ live s := by
  intro x hx
  obtain ⟨ip, hip⟩ := Option.ne_none_iff_exists'.mp hx
  rw [next_held] at hip
  show s.held x ≠ none
  cases hr : r.idFor "allocate" with
  | none => simp [heldAfter_other checks s r hr x ip hip]
  | some id =>
    rw [heldAfter_allocate checks s r id hr, if_neg (h id hr)] at hip
    simp [hip]

theorem freshSlot_keeps (checks : Bool) (s : ApiState) (r : ApiRequest)
    (hs : SlotAddresses s ∧ Unique s) (hg : freshSlot checks s r) :
    SlotAddresses ((apiMachine checks).next s r) ∧ Unique ((apiMachine checks).next s r) := by
  have hnext := slotAddresses_next checks s r hs.1
  refine ⟨hnext, ?_⟩
  rw [unique_iff_injOn _ hnext]
  have hinj := (unique_iff_injOn s hs.1).mp hs.2
  by_cases hans : ∃ id, r.idFor "allocate" = some id ∧
      (s.agent.poisoned = false ∧ (checks = true → lowByte id < 252))
  · obtain ⟨id, hr, hans⟩ := hans
    have hfresh := hg id hr hans.1 hans.2
    rw [live_allocate checks s r id hr hans]
    rintro x (rfl | hx) y (rfl | hy) hxy
    · rfl
    · by_contra hne
      exact hfresh y hy (Ne.symm hne) hxy.symm
    · by_contra hne
      exact hfresh x hx hne hxy
    · exact hinj hx hy hxy
  · refine hinj.mono (live_subset checks s r ?_)
    intro id hr hans'
    exact hans ⟨id, hr, hans'⟩

/-- Without the guard the new address is already somebody's. -/
theorem not_freshSlot_breaks (checks : Bool) (s : ApiState) (r : ApiRequest)
    (hs : SlotAddresses s ∧ Unique s) (hg : ¬ freshSlot checks s r) :
    ¬ Unique ((apiMachine checks).next s r) := by
  unfold freshSlot at hg
  push Not at hg
  obtain ⟨id, hr, hpois, hover, other, hlive, hne, hslot⟩ := hg
  rw [unique_iff_injOn _ (slotAddresses_next checks s r hs.1),
    live_allocate checks s r id hr ⟨hpois, hover⟩]
  intro hinj
  exact hne (hinj (Or.inr hlive) (Or.inl rfl) hslot)

/-- **Addresses are unique exactly when slots are.**  In every run of the API, no two
live containers ever hold the same address if and only if each answered `allocate`
comes from an id whose slot no other live container has. -/
theorem unique_iff_fresh_slots (checks : Bool) (agent : Agent) (reqs : List ApiRequest) :
    (∀ pre, pre <+: reqs → Unique ((apiMachine checks).after (.start agent) pre)) ↔
      (apiMachine checks).Guarded (freshSlot checks) (.start agent) reqs := by
  refine (apiMachine checks).always_iff_guarded (freshSlot checks)
    (fun s => SlotAddresses s ∧ Unique s) Unique (fun s h => h.2)
    (freshSlot_keeps checks) (not_freshSlot_breaks checks) reqs (.start agent) ?_
  refine ⟨fun id ip h => ?_, fun _ _ ip _ h => ?_⟩
  · cases h
  · cases h

/-- A request adds at most one live container. -/
theorem live_next (checks : Bool) (s : ApiState) (r : ApiRequest) :
    ∃ id, live ((apiMachine checks).next s r) ⊆ insert id (live s) := by
  by_cases hans : ∃ id, r.idFor "allocate" = some id ∧
      (s.agent.poisoned = false ∧ (checks = true → lowByte id < 252))
  · obtain ⟨id, hr, hans⟩ := hans
    exact ⟨id, (live_allocate checks s r id hr hans).subset⟩
  · refine ⟨"", (live_subset checks s r ?_).trans (Set.subset_insert _ _)⟩
    intro id hr hans'
    exact hans ⟨id, hr, hans'⟩

theorem encard_live_after_le (checks : Bool) (reqs : List ApiRequest) :
    ∀ s, (live ((apiMachine checks).after s reqs)).encard ≤ (live s).encard + reqs.length := by
  induction reqs with
  | nil => intro s; simp [Machine.after_nil]
  | cons r reqs ih =>
    intro s
    obtain ⟨id, hid⟩ := live_next checks s r
    have hstep : (live ((apiMachine checks).next s r)).encard ≤ (live s).encard + 1 :=
      (Set.encard_le_encard hid).trans (Set.encard_insert_le _ _)
    rw [Machine.after_cons]
    refine (ih _).trans ?_
    rw [List.length_cons, Nat.cast_add, Nat.cast_one, add_comm (reqs.length : ℕ∞) 1, ← add_assoc]
    gcongr

/-- Two `allocate` requests, for ids with the same hash. -/
def collidingRequests : List ApiRequest :=
  [⟨.ok (allocateRequest "Aa"), true⟩, ⟨.ok (allocateRequest "BB"), true⟩]

/-- Two live containers in all, and both hold `10.244.0.66`. -/
theorem two_ids_one_address :
    (∀ pre, pre <+: collidingRequests →
      (live ((apiMachine false).after (.start .loaded) pre)).encard < 252) ∧
    ((apiMachine false).after (.start .loaded) collidingRequests).held "Aa" = some "10.244.0.66" ∧
    ((apiMachine false).after (.start .loaded) collidingRequests).held "BB" = some "10.244.0.66" := by
  refine ⟨fun pre hpre => ?_, by decide +kernel, by decide +kernel⟩
  have hlen : pre.length ≤ 2 := hpre.length_le
  have hstart : live (.start .loaded) = ∅ := by simp [live, ApiState.start]
  refine (encard_live_after_le false pre _).trans_lt ?_
  rw [hstart, Set.encard_empty, zero_add]
  exact_mod_cast (by omega : pre.length < 252)

end NomadP2P
