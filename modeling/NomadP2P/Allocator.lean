import NomadP2P.LocalKeys

/-!
# The probe sequence of `allocate_from_bpf`

The allocator with an arbitrary occupancy test in the place of the stub.  From the low
byte `s` of the hash, 253 offsets look at the hosts

    s + 2, s + 3, …      (mod 256; the sums 254, 255, 0 and 1 are skipped)

The three sums `s - 1`, `s`, `s + 1` are not reached, so a free address among these is
not found (`complete_iff`).  In a build with overflow checks the loop does not come
past the sum 255: unless `s < 2` it must find a free host above `s + 1`, or
it panics with the mutex held (`no_overflow_iff`).
-/

namespace NomadP2P

open ContainerManager

/-! ## Algorithm -/

/-- The address `allocate_from_bpf` comes to, and whether the loop has found it; `none` is
a panic.  `isIpAllocated` is what the occupancy test answers. -/
def ContainerManager.pick (checks : Bool) (isIpAllocated : UInt32 → Bool) (containerId : String) :
    Option (UInt32 × Bool) := do
  let h := hash containerId
  match ← probe checks isIpAllocated h.toUInt8 (List.range 253) with
  | some ip => some (ip, true)
  | none =>
    let host ← addU8 checks 2 (h % 253).toUInt8
    some ((hostAddr host).toU32, false)

/-- `allocate_from_bpf` past the lock, with this occupancy test. -/
def ContainerManager.allocateFromBpfWith (checks : Bool) (isIpAllocated : UInt32 → Bool)
    (bpf : BpfManager) (containerId : String) (ok : Bool) : Option (String × BpfManager) :=
  (pick checks isIpAllocated containerId).map fun (ip, found) =>
    ((Ipv4Addr.ofU32 ip).toText, if found then (bpf.updateContainerRoute ip 1 ok).1 else bpf)

/-- `allocate_from_bpf` on the shared state, with this occupancy test. -/
def allocateWith (checks : Bool) (isIpAllocated : UInt32 → Bool) (agent : Agent)
    (containerId : String) (ok : Bool) : Agent × Option String :=
  if agent.poisoned then (agent, none)
  else
    match allocateFromBpfWith checks isIpAllocated agent.bpf containerId ok with
    | none => ({ agent with poisoned := true }, none)
    | some (ip, bpf) => ({ agent with bpf := bpf }, some ip)

/-- `handle_container_cmd`, with this occupancy test. -/
def ApiRequest.handleWith (checks : Bool) (isIpAllocated : UInt32 → Bool) (agent : Agent)
    (r : ApiRequest) : Agent × Option String :=
  match r.idFor "allocate" with
  | some id =>
    let (agent, ip) := allocateWith checks isIpAllocated agent id r.ok
    (agent, ip.map fun ip => "200 OK\r\n\r\n\x7b\"ip\":\"" ++ ip ++ "\"\x7d")
  | none => handleContainerCmd checks agent r.body r.ok

structure ServiceState where
  agent : Agent
  route : RouteManager

/-- Requests, route misses and `discovery_loop` iterations, each with what the occupancy
test answers during it.  The answer is whether the step has come to its end without a panic. -/
def serviceMachine (checks : Bool) : Machine ServiceState (NodeOp × (UInt32 → Bool)) Bool where
  step s
    | (.api r, isIpAllocated) =>
      let (agent, answer) := r.handleWith checks isIpAllocated s.agent
      ({ s with agent := agent }, answer.isSome)
    | (.submit ip, _) => ({ s with route := s.route.submitMiss ip }, true)
    | (.discover kad now ok, _) =>
      let d := discoveryIteration s.route s.agent kad now ok
      (⟨d.agent.getD s.agent, d.route⟩, d.agent.isSome)

/-- A free address of `10.244.0.2..10.244.0.253`. -/
def Free (isIpAllocated : UInt32 → Bool) (host : UInt8) : Prop :=
  2 ≤ host ∧ host ≤ 253 ∧ isIpAllocated (hostAddr host).toU32 = false

/-- If any address is free, a free one is returned; the fallback is taken only if none is. -/
def Complete (isIpAllocated : UInt32 → Bool) (bpf : BpfManager) (containerId : String) (ok : Bool) :
    Prop :=
  ((∃ host, Free isIpAllocated host) →
    ∃ host, Free isIpAllocated host ∧
      (allocateFromBpfWith false isIpAllocated bpf containerId ok).map Prod.fst =
        some (hostAddr host).toText) ∧
  ∀ ip, pick false isIpAllocated containerId = some (ip, false) → ∀ host, ¬ Free isIpAllocated host

/-! ## Lemmas -/

/-- The source's own occupancy test is one of them. -/
theorem allocateFromBpf_eq_with (checks : Bool) (bpf : BpfManager) (id : String) (ok : Bool) :
    allocateFromBpf checks bpf id ok = allocateFromBpfWith checks bpf.isIpAllocated bpf id ok := by
  unfold allocateFromBpf allocateFromBpfWith pick
  cases hp : probe checks bpf.isIpAllocated (ContainerManager.hash id).toUInt8 (List.range 253) with
  | none => simp only [hp, Option.bind_eq_bind, Option.bind_none, Option.map_none]
  | some found =>
    cases found with
    | some ip => simp only [hp, Option.bind_eq_bind, Option.bind_some, Option.map_some, if_true]
    | none =>
      simp only [hp, Option.bind_eq_bind, Option.bind_some, Option.map_bind]
      rfl

theorem allocate_eq_with (checks : Bool) (agent : Agent) (id : String) (ok : Bool) :
    allocate checks agent id ok = allocateWith checks agent.bpf.isIpAllocated agent id ok := by
  have hsame := allocateFromBpf_eq_with checks agent.bpf id ok
  cases hwith : allocateFromBpfWith checks agent.bpf.isIpAllocated agent.bpf id ok with
  | none => simp only [allocate, allocateWith, hsame, hwith]
  | some r => simp only [allocate, allocateWith, hsame, hwith]

/-- The host that an offset looks at, when the addition does not panic. -/
def hostAt (start : UInt8) (offset : Nat) : UInt8 := (2 + (start + UInt8.ofNat offset)) % 254

theorem hostAt_toNat (start : UInt8) (offset : Nat) :
    (hostAt start offset).toNat = (2 + (start.toNat + offset) % 256) % 256 % 254 := by
  unfold hostAt
  rw [UInt8.toNat_mod, UInt8.toNat_add, UInt8.toNat_add, UInt8.toNat_ofNat']
  show (2 + _ % 256) % 256 % 254 = _
  omega

theorem hostAt_le (start : UInt8) (offset : Nat) : hostAt start offset ≤ 253 := by
  rw [UInt8.le_iff_toNat_le, hostAt_toNat]
  show _ ≤ 253
  omega

/-- One round of the loop, when the addition does not panic. -/
theorem probe_cons (checks : Bool) (f : UInt32 → Bool) (start : UInt8) (offset : Nat)
    (offsets : List Nat) (hsum : checks = true → 2 + (start + UInt8.ofNat offset).toNat ≤ 255) :
    (Free f (hostAt start offset) ∧
      probe checks f start (offset :: offsets) = some (some (hostAddr (hostAt start offset)).toU32)) ∨
    (¬ Free f (hostAt start offset) ∧
      probe checks f start (offset :: offsets) = probe checks f start offsets) := by
  have hadd : addU8 checks 2 (start + UInt8.ofNat offset) = some (2 + (start + UInt8.ofNat offset)) := by
    unfold addU8
    rw [if_neg]
    intro h
    obtain ⟨hc, hover⟩ := Bool.and_eq_true_iff.mp h
    have hle := hsum hc
    have hlt : 255 < 2 + (start + UInt8.ofNat offset).toNat := of_decide_eq_true hover
    omega
  have hround : probe checks f start (offset :: offsets) =
      if hostAt start offset < 2 then probe checks f start offsets
      else if !f (hostAddr (hostAt start offset)).toU32 then
        some (some (hostAddr (hostAt start offset)).toU32)
      else probe checks f start offsets := by
    rw [probe, hadd]
    rfl
  rw [hround]
  by_cases hlow : hostAt start offset < 2
  · rw [if_pos hlow]
    exact Or.inr ⟨fun h => UInt8.not_le.mpr hlow h.1, rfl⟩
  rw [if_neg hlow]
  cases hf : f (hostAddr (hostAt start offset)).toU32 with
  | false => exact Or.inl ⟨⟨UInt8.not_lt.mp hlow, hostAt_le start offset, hf⟩, rfl⟩
  | true =>
    refine Or.inr ⟨fun h => ?_, rfl⟩
    rw [h.2.2] at hf
    cases hf

/-! ### The wrapping build -/

/-- The loop ends with a free host among those it has looked at, or there is none. -/
theorem probe_wrapping (f : UInt32 → Bool) (start : UInt8) (offsets : List Nat) :
    (∃ offset ∈ offsets, Free f (hostAt start offset) ∧
      probe false f start offsets = some (some (hostAddr (hostAt start offset)).toU32)) ∨
    ((∀ offset ∈ offsets, ¬ Free f (hostAt start offset)) ∧
      probe false f start offsets = some none) := by
  induction offsets with
  | nil => exact Or.inr ⟨by simp, rfl⟩
  | cons o rest ih =>
    rcases probe_cons false f start o rest (fun h => by cases h) with ⟨hfree, heq⟩ | ⟨hn, heq⟩
    · exact Or.inl ⟨o, List.mem_cons_self, hfree, heq⟩
    rw [heq]
    rcases ih with ⟨o', ho', h⟩ | ⟨hall, h⟩
    · exact Or.inl ⟨o', List.mem_cons_of_mem _ ho', h⟩
    · refine Or.inr ⟨?_, h⟩
      intro o' ho'
      rcases List.mem_cons.mp ho' with rfl | ho'
      · exact hn
      · exact hall o' ho'

/-- The hosts behind the 253 offsets: all but three. -/
theorem hostAt_covers (start host : UInt8) (hlow : 2 ≤ host) (hhigh : host ≤ 253) :
    (∃ offset ∈ List.range 253, hostAt start offset = host) ↔
      host ≠ start - 1 ∧ host ≠ start ∧ host ≠ start + 1 := by
  rw [UInt8.le_iff_toNat_le] at hlow hhigh
  replace hlow : 2 ≤ host.toNat := hlow
  replace hhigh : host.toNat ≤ 253 := hhigh
  have hs := start.toNat_lt
  simp only [ne_eq, ← UInt8.toNat_inj, UInt8.toNat_sub, UInt8.toNat_add, hostAt_toNat]
  show _ ↔ ¬ host.toNat = (2 ^ 8 - 1 + start.toNat) % 2 ^ 8 ∧ _ ∧ ¬ host.toNat = (start.toNat + 1) % 2 ^ 8
  constructor
  · rintro ⟨o, ho, heq⟩
    have ho' := List.mem_range.mp ho
    omega
  · rintro ⟨h₁, h₂, h₃⟩
    refine ⟨(host.toNat + 254 - start.toNat) % 256, List.mem_range.mpr ?_, ?_⟩
    · omega
    · omega

/-- A free host is found exactly when the offsets reach one. -/
theorem pick_wrapping (f : UInt32 → Bool) (id : String) :
    (∃ host, Free f host ∧ (host ≠ lowByte id - 1 ∧ host ≠ lowByte id ∧ host ≠ lowByte id + 1) ∧
      pick false f id = some ((hostAddr host).toU32, true)) ∨
    ((∀ host, Free f host →
        ¬ (host ≠ lowByte id - 1 ∧ host ≠ lowByte id ∧ host ≠ lowByte id + 1)) ∧
      ∃ ip, pick false f id = some (ip, false)) := by
  unfold pick
  rcases probe_wrapping f (lowByte id) (List.range 253) with ⟨o, ho, hfree, heq⟩ | ⟨hall, heq⟩
  · refine Or.inl ⟨hostAt (lowByte id) o, hfree, ?_, ?_⟩
    · exact (hostAt_covers _ _ hfree.1 hfree.2.1).mp ⟨o, ho, rfl⟩
    · simp only [show (ContainerManager.hash id).toUInt8 = lowByte id from rfl, heq]
      rfl
  · refine Or.inr ⟨?_, (hostAddr (2 + (ContainerManager.hash id % 253).toUInt8)).toU32, ?_⟩
    · intro host hfree hne
      obtain ⟨o, ho, rfl⟩ := (hostAt_covers _ _ hfree.1 hfree.2.1).mpr hne
      exact hall o ho hfree
    · simp only [show (ContainerManager.hash id).toUInt8 = lowByte id from rfl, heq]
      rfl

/-! ### Main theorem: completeness -/

/-- **Completeness of the allocator.**  In a wrapping build, for any answers of the
occupancy test, a free address is returned whenever there is one, and the fallback
only when there is none, exactly when the free addresses are not all among the three hosts
next to the low byte of the hash. -/
theorem complete_iff (isIpAllocated : UInt32 → Bool) (bpf : BpfManager) (id : String) (ok : Bool) :
    Complete isIpAllocated bpf id ok ↔
      ((∃ host, Free isIpAllocated host) →
        ∃ host, Free isIpAllocated host ∧
          host ≠ lowByte id - 1 ∧ host ≠ lowByte id ∧ host ≠ lowByte id + 1) := by
  rcases pick_wrapping isIpAllocated id with ⟨host, hfree, hne, hpick⟩ | ⟨hall, ip, hpick⟩
  · constructor
    · intro _ _
      exact ⟨host, hfree, hne⟩
    · intro _
      refine ⟨fun _ => ⟨host, hfree, ?_⟩, ?_⟩
      · rw [allocateFromBpfWith, hpick]
        simp only [Option.map_some, Ipv4Addr.ofU32_toU32]
      · intro ip hip
        rw [hpick] at hip
        exact absurd (Prod.mk.inj (Option.some.inj hip)).2 (by decide)
  · constructor
    · rintro ⟨-, hfallback⟩ ⟨host, hfree⟩
      exact absurd hfree (hfallback ip hpick host)
    · intro h
      have hnone : ∀ host, ¬ Free isIpAllocated host := by
        intro host hfree
        obtain ⟨host', hfree', hne⟩ := h ⟨host, hfree⟩
        exact hall host' hfree' hne
      exact ⟨fun ⟨host, hfree⟩ => absurd hfree (hnone host), fun _ _ => hnone⟩

/-- Every address is taken but `10.244.0.97`. -/
def onlyHost97Free (ip : UInt32) : Bool := ip != (hostAddr 97).toU32

/-- The hash of `a` is 97: the free host is the one the offsets leave out, and the answer
is the fallback `10.244.0.99`, which is taken. -/
theorem free_host_missed :
    Free onlyHost97Free 97 ∧
      pick false onlyHost97Free "a" = some ((hostAddr 99).toU32, false) ∧
      onlyHost97Free (hostAddr 99).toU32 = true ∧
      ¬ Complete onlyHost97Free Agent.loaded.bpf "a" true := by
  have hfree : Free onlyHost97Free 97 := ⟨by decide, by decide, by decide⟩
  have hpick : pick false onlyHost97Free "a" = some ((hostAddr 99).toU32, false) := by
    decide +kernel
  refine ⟨hfree, hpick, by decide, ?_⟩
  rintro ⟨-, hfallback⟩
  exact hfallback _ hpick 97 hfree

/-! ### The build with overflow checks -/

/-- The addition at this offset panics. -/
def Over (start : UInt8) (offset : Nat) : Prop := 254 ≤ (start.toNat + offset) % 256

theorem toNat_add_offset (start : UInt8) (offset : Nat) :
    (start + UInt8.ofNat offset).toNat = (start.toNat + offset) % 256 := by
  rw [UInt8.toNat_add, UInt8.toNat_ofNat']
  omega

theorem probe_cons_over (f : UInt32 → Bool) (start : UInt8) (offset : Nat) (offsets : List Nat)
    (hover : Over start offset) : probe true f start (offset :: offsets) = none := by
  have hadd : addU8 true 2 (start + UInt8.ofNat offset) = none := by
    unfold addU8
    rw [if_pos]
    unfold Over at hover
    rw [← toNat_add_offset] at hover
    show decide (255 < 2 + _) = true
    rw [decide_eq_true_eq]
    omega
  rw [probe, hadd]
  rfl

/-- The loop panics when it comes to a sum that is too large with no free host before it. -/
theorem probe_checked_eq_none_iff (f : UInt32 → Bool) (start : UInt8) (n : Nat) :
    ∀ k, probe true f start (List.range' k n) = none ↔
      ∃ o, k ≤ o ∧ o < k + n ∧ Over start o ∧ ∀ p, k ≤ p → p < o → ¬ Free f (hostAt start p) := by
  induction n with
  | zero =>
    intro k
    constructor
    · intro h
      cases h
    · rintro ⟨o, hk, ho, -⟩
      omega
  | succ n ih =>
    intro k
    rw [List.range'_succ]
    by_cases hover : Over start k
    · refine iff_of_true (probe_cons_over f start k _ hover) ⟨k, le_refl k, by omega, hover, ?_⟩
      intro p hp hlt
      omega
    have hsum : 2 + (start + UInt8.ofNat k).toNat ≤ 255 := by
      unfold Over at hover
      rw [toNat_add_offset]
      omega
    rcases probe_cons true f start k (List.range' (k + 1) n) (fun _ => hsum) with
      ⟨hfree, heq⟩ | ⟨hn, heq⟩
    · rw [heq]
      refine iff_of_false (by simp) ?_
      rintro ⟨o, hk, -, ho, hall⟩
      by_cases hok : o = k
      · exact hover (hok ▸ ho)
      · exact hall k (le_refl k) (by omega) hfree
    · rw [heq, ih]
      constructor
      · rintro ⟨o, hk, hlt, ho, hall⟩
        refine ⟨o, by omega, by omega, ho, fun p hp hpo => ?_⟩
        by_cases hpk : p = k
        · rw [hpk]
          exact hn
        · exact hall p (by omega) hpo
      · rintro ⟨o, hk, hlt, ho, hall⟩
        have hne : o ≠ k := fun h => hover (h ▸ ho)
        exact ⟨o, by omega, by omega, ho, fun p hp hpo => hall p (by omega) hpo⟩

/-- From the low byte `start`, the additions stay in a `u8`: there is no sum past `255`
among the 253, or a free host comes before it. -/
def Fits (isIpAllocated : UInt32 → Bool) (start : UInt8) : Prop :=
  start.toNat < 2 ∨ ∃ host, start.toNat + 2 ≤ host.toNat ∧ Free isIpAllocated host

theorem probe_checked_iff (f : UInt32 → Bool) (start : UInt8) :
    probe true f start (List.range 253) = none ↔ ¬ Fits f start := by
  rw [List.range_eq_range', probe_checked_eq_none_iff]
  have hs := start.toNat_lt
  constructor
  · rintro ⟨o, -, ho, hover, hall⟩ (hlow | ⟨host, hhost, hfree⟩)
    · unfold Over at hover
      omega
    · -- the free host is behind an offset that comes earlier
      have hle := UInt8.le_iff_toNat_le.mp hfree.2.1
      replace hle : host.toNat ≤ 253 := hle
      have hat : hostAt start (host.toNat - 2 - start.toNat) = host := by
        rw [← UInt8.toNat_inj, hostAt_toNat]
        omega
      unfold Over at hover
      exact hall _ (Nat.zero_le _) (by omega) (hat ▸ hfree)
  · intro hn
    have hlow : 2 ≤ start.toNat := by
      by_contra h
      exact hn (Or.inl (by omega))
    refine ⟨254 - start.toNat, Nat.zero_le _, by omega, ?_, ?_⟩
    · unfold Over
      omega
    · intro p _ hp hfree
      have hat := hostAt_toNat start p
      have hge := UInt8.le_iff_toNat_le.mp hfree.1
      replace hge : 2 ≤ (hostAt start p).toNat := hge
      exact hn (Or.inr ⟨hostAt start p, by omega, hfree⟩)

/-- The fallback's addition stays in a `u8`, so the loop alone decides. -/
theorem pick_checked_iff (f : UInt32 → Bool) (id : String) :
    pick true f id = none ↔ ¬ Fits f (lowByte id) := by
  rw [← probe_checked_iff]
  have hfallback : addU8 true 2 (ContainerManager.hash id % 253).toUInt8 ≠ none := by
    have hlt : (ContainerManager.hash id % 253).toUInt8.toNat ≤ 252 := by
      rw [UInt32.toNat_toUInt8, UInt32.toNat_mod]
      show _ % 253 % 2 ^ 8 ≤ 252
      omega
    unfold addU8
    rw [if_neg]
    · simp
    · intro h
      have hover : 255 < 2 + (ContainerManager.hash id % 253).toUInt8.toNat := of_decide_eq_true h
      omega
  unfold pick
  simp only [show (ContainerManager.hash id).toUInt8 = lowByte id from rfl]
  cases probe true f (lowByte id) (List.range 253) with
  | none => simp
  | some found =>
    cases found with
    | some ip => simp
    | none =>
      obtain ⟨host, hhost⟩ := Option.ne_none_iff_exists'.mp hfallback
      simp [hhost]

/-! ### The mutex over a run -/

theorem allocateWith_poisoned (f : UInt32 → Bool) (agent : Agent) (id : String) (ok : Bool)
    (hp : agent.poisoned = false) :
    (allocateWith true f agent id ok).1.poisoned = false ↔ Fits f (lowByte id) := by
  unfold allocateWith allocateFromBpfWith
  rw [if_neg (by simp [hp])]
  have hpick := pick_checked_iff f id
  cases h : pick true f id with
  | none =>
    refine iff_of_false (by simp) ?_
    exact hpick.mp h
  | some r =>
    refine iff_of_true (by simpa using hp) ?_
    by_contra hn
    rw [hpick.mpr hn] at h
    cases h

/-- The other requests leave the mutex as it is. -/
theorem handle_poisoned (checks : Bool) (agent : Agent) (r : ApiRequest)
    (h : r.idFor "allocate" = none) :
    (handleContainerCmd checks agent r.body r.ok).1.poisoned = agent.poisoned := by
  obtain ⟨body, ok⟩ := r
  cases body with
  | error e => rfl
  | ok v =>
    unfold ApiRequest.idFor at h
    simp only at h
    unfold handleContainerCmd
    by_cases halloc : v.strField "action" "" = "allocate"
    · rw [if_pos halloc] at h
      cases h
    simp only [if_neg halloc]
    split
    · rw [withRoute_poisoned]
    split
    · rw [withRoute_poisoned]
    · rfl

theorem discoverAll_unpoisoned (ok : UInt32 → Bool) (batch : List UInt32) :
    ∀ agent dflt : Agent, agent.poisoned = false → dflt.poisoned = false →
      ((discoverAll ok batch agent).getD dflt).poisoned = false := by
  induction batch with
  | nil => intro agent _ hp _; exact hp
  | cons ip batch ih =>
    intro agent dflt hp hd
    rw [discoverAll, if_neg (by simp [hp])]
    exact ih _ dflt hp hd

/-- With its own occupancy test, this is `handle_container_cmd`. -/
theorem handle_eq_with (checks : Bool) (agent : Agent) (r : ApiRequest) :
    handleContainerCmd checks agent r.body r.ok =
      r.handleWith checks agent.bpf.isIpAllocated agent := by
  obtain ⟨body, ok⟩ := r
  unfold ApiRequest.handleWith
  cases body with
  | error e => rfl
  | ok v =>
    by_cases halloc : v.strField "action" "" = "allocate"
    · rw [handle_allocate checks agent v ok halloc, allocate_eq_with]
      simp only [ApiRequest.idFor, halloc, if_true]
    · simp only [ApiRequest.idFor, halloc, if_false]

/-- The step is not an `allocate`, or its additions stay in a `u8`. -/
def fitsOp (op : NodeOp × (UInt32 → Bool)) : Prop :=
  ∀ r id, op.1 = .api r → r.idFor "allocate" = some id → Fits op.2 (lowByte id)

theorem next_poisoned_iff (s : ServiceState) (op : NodeOp × (UInt32 → Bool))
    (hp : s.agent.poisoned = false) :
    ((serviceMachine true).next s op).agent.poisoned = false ↔ fitsOp op := by
  obtain ⟨op, f⟩ := op
  cases op with
  | api r =>
    show (r.handleWith true f s.agent).1.poisoned = false ↔ _
    unfold ApiRequest.handleWith
    cases hid : r.idFor "allocate" with
    | some id =>
      show (allocateWith true f s.agent id r.ok).1.poisoned = false ↔ _
      rw [allocateWith_poisoned f s.agent id r.ok hp]
      constructor
      · rintro h r' id' hr hid'
        obtain rfl := NodeOp.api.inj hr
        rw [hid] at hid'
        exact Option.some.inj hid' ▸ h
      · intro h
        exact h r id rfl hid
    | none =>
      refine iff_of_true ?_ ?_
      · show (handleContainerCmd true s.agent r.body r.ok).1.poisoned = false
        rw [handle_poisoned true s.agent r hid, hp]
      · rintro r' id' hr hid'
        obtain rfl := NodeOp.api.inj hr
        rw [hid] at hid'
        cases hid'
  | submit ip => exact iff_of_true hp (fun _ _ h => by cases h)
  | discover kad now ok =>
    refine iff_of_true ?_ (fun _ _ h => by cases h)
    exact discoverAll_unpoisoned ok _ s.agent s.agent hp hp

/-! ### Main theorem: overflow -/

/-- **No overflow.**  In a build with overflow checks, `allocate_from_bpf` comes to its end
exactly when the low byte `s` of the hash is below 2 or some host from `s + 2` to 253 is
free; and over a run of requests, misses and `discovery_loop` iterations the mutex
is never poisoned exactly when every `allocate` of the run meets this condition. -/
theorem no_overflow_iff (isIpAllocated : UInt32 → Bool) (id : String) (s : ServiceState)
    (ops : List (NodeOp × (UInt32 → Bool))) (hp : s.agent.poisoned = false) :
    (pick true isIpAllocated id ≠ none ↔ Fits isIpAllocated (lowByte id)) ∧
    ((∀ pre, pre <+: ops → ((serviceMachine true).after s pre).agent.poisoned = false) ↔
      ∀ op ∈ ops, fitsOp op) := by
  constructor
  · rw [ne_eq, pick_checked_iff, not_not]
  · rw [← (serviceMachine true).guarded_iff_forall fitsOp ops s]
    apply (serviceMachine true).always_iff_guarded (fun _ op => fitsOp op)
      (fun s => s.agent.poisoned = false) (fun s => s.agent.poisoned = false)
    · exact fun _ h => h
    · exact fun s op h hfit => (next_poisoned_iff s op h).mpr hfit
    · exact fun s op h hfit hn => hfit ((next_poisoned_iff s op h).mp hn)
    · exact hp

/-- The request to allocate for `id`. -/
def allocateOp (id : String) : NodeOp := .api ⟨.ok (allocateRequest id), true⟩

def ServiceState.start : ServiceState := ⟨Agent.loaded, .new⟩

theorem no_overflow_a :
    ServiceState.start.agent.poisoned = false ∧
      ∀ pre, pre <+: [(allocateOp "a", fun _ => false)] →
        ((serviceMachine true).after .start pre).agent.poisoned = false := by
  refine ⟨rfl, (no_overflow_iff (fun _ => false) "a" .start _ rfl).2.mpr ?_⟩
  intro op hop r id hr hid
  obtain rfl := List.mem_singleton.mp hop
  obtain rfl := NodeOp.api.inj hr
  obtain rfl : "a" = id := Option.some.inj hid
  exact Or.inr ⟨99, by decide, by decide, by decide, rfl⟩

/-- `allocate` for `web-7`, then a route miss, an iteration of `discovery_loop` and another
`allocate`, with every address free. -/
def afterWeb7 : List (NodeOp × (UInt32 → Bool)) :=
  [allocateOp "web-7", .submit 0x0af40105, .discover false 0 fun _ => true, allocateOp "a"].map
    fun op => (op, fun _ => false)

/-- The low byte of the hash of `web-7` is 254, and `2 + 254` panics; with the mutex
poisoned, the iteration and the next `allocate` panic as well. -/
theorem sum_overflows :
    pick true (fun _ => false) "web-7" = none ∧
      ((serviceMachine true).after .start afterWeb7).agent.poisoned = true ∧
      (serviceMachine true).outputs .start afterWeb7 = [false, true, false, false] := by
  refine ⟨?_, ?_, ?_⟩ <;> decide +kernel

end NomadP2P
