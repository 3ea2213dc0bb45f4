import NomadP2P.Api
import NomadP2P.Lib.Dedup
import NomadP2P.Lib.Expiry
import NomadP2P.Lib.Machine

/-!
# Lazy route discovery (`agent/src/route.rs`)

Misses arrive from the ring buffer (`decodeMiss`) in `pending`; every tick
`drain_batch` empties it, leaving out what is cooling down, and `discovery_loop`
enters each address of the batch in `CONTAINER_ROUTE_MAP`.  Instants are
nanoseconds.

One map does two jobs in a drain: it removes duplicates inside the batch and it
holds back addresses returned less than five seconds ago.  Over whole runs this is

    drain at T = distinct accepted misses since the last drain, in order, that no
      earlier drain at t returned with T < t + 5 s               (drain_eq_history)
-/

namespace NomadP2P

open Bytes

/-! ## Algorithm -/

/-- `COOLDOWN_SECS`, in nanoseconds. -/
def cooldown : Nat := 5 * 10 ^ 9

def maxPending : Nat := 4096

structure RouteManager where
  pending : List UInt32
  cooldowns : UInt32 → Option Nat

namespace RouteManager

def new : RouteManager := ⟨[], fun _ => none⟩

/-- `submit_miss`. -/
def submitMiss (r : RouteManager) (overlayIp : UInt32) : RouteManager :=
  if maxPending ≤ r.pending.length then r else { r with pending := r.pending ++ [overlayIp] }

/-- `cooldowns.retain(|_, expires| *expires > now)`. -/
def retain (now : Nat) (cooldowns : UInt32 → Option Nat) : UInt32 → Option Nat :=
  fun ip => (cooldowns ip).filter fun expires => now < expires

/-- The `for ip in pending.drain(..)` loop. -/
def drainLoop (now : Nat) : List UInt32 → (UInt32 → Option Nat) → List UInt32 →
    (UInt32 → Option Nat) × List UInt32
  | [], cooldowns, batch => (cooldowns, batch)
  | ip :: rest, cooldowns, batch =>
    if (cooldowns ip).isSome then drainLoop now rest cooldowns batch
    else drainLoop now rest (Function.update cooldowns ip (some (now + cooldown))) (batch ++ [ip])

/-- `drain_batch` at the instant `now`. -/
def drainBatch (r : RouteManager) (now : Nat) : RouteManager × List UInt32 :=
  let (cooldowns, batch) := drainLoop now r.pending (retain now r.cooldowns) []
  (⟨[], cooldowns⟩, batch)

end RouteManager

/-- The consumer's reading of a ring buffer item, `u32::from_ne_bytes`. -/
def decodeMiss (e : ByteOrder) (data : List UInt8) : Option UInt32 :=
  if 4 ≤ data.length then some (UInt32.ofNat (e.load (data.take 4))) else none

/-- The inserts of one `discovery_loop` iteration; `none` is the panic of
`lock().unwrap()` on a poisoned mutex. -/
def discoverAll (ok : UInt32 → Bool) : List UInt32 → Agent → Option Agent
  | [], agent => some agent
  | ip :: rest, agent =>
    if agent.poisoned then none
    else
      let slot := (BpfManager.insertIn agent.bpf.containerRoute ip 1 (ok ip)).1
      discoverAll ok rest { agent with bpf := { agent.bpf with containerRoute := slot } }

/-- The queries it hands to `kad_tx`: one ahead of each insert. -/
def kadQueries (kad : Bool) (agent : Agent) (batch : List UInt32) : List UInt32 :=
  if kad then (if agent.poisoned then batch.take 1 else batch) else []

/-- What one `discovery_loop` iteration leaves behind. -/
structure Discovery where
  route : RouteManager
  agent : Option Agent
  queries : List UInt32

/-- One `discovery_loop` iteration. -/
def discoveryIteration (route : RouteManager) (agent : Agent) (kad : Bool) (now : Nat)
    (ok : UInt32 → Bool) : Discovery :=
  let (route, batch) := route.drainBatch now
  ⟨route, discoverAll ok batch agent, kadQueries kad agent batch⟩

/-! ## Runs -/

inductive RouteOp
  | submit (overlayIp : UInt32)
  | drain (now : Nat)
deriving DecidableEq, Repr

/-- The route manager under a sequence of calls; a drain answers with its batch. -/
def routeMachine : Machine RouteManager RouteOp (List UInt32) where
  step r
    | .submit ip => (r.submitMiss ip, [])
    | .drain now => ((r.drainBatch now).1, (r.drainBatch now).2)

/-- The instants of the drains. -/
def drainTimes : List RouteOp → List Nat
  | [] => []
  | .submit _ :: ops => drainTimes ops
  | .drain now :: ops => now :: drainTimes ops

/-- What has been submitted since the last drain. -/
def submitted (ops : List RouteOp) : List UInt32 :=
  ops.foldl (fun acc op => match op with
    | .submit ip => acc ++ [ip]
    | .drain _ => []) []

/-- What of it was accepted into `pending`: the first 4096. -/
def accepted (ops : List RouteOp) : List UInt32 := (submitted ops).take maxPending

/-- The drains so far, each with the batch it returned. -/
def returned (ops : List RouteOp) : List (Nat × List UInt32) :=
  (ops.zip (routeMachine.outputs .new ops)).filterMap fun e => match e.1 with
    | .drain now => some (now, e.2)
    | .submit _ => none

/-- `ip` was returned by a drain at some `t` with `now < t + 5 s`. -/
def recently (ops : List RouteOp) (now : Nat) (ip : UInt32) : Bool :=
  (returned ops).any fun e => decide (now < e.1 + cooldown) && e.2.contains ip

/-! ## Lemmas -/

/-- The addresses of `l` a drain returns when `cooldowns` is what it retained. -/
def fresh (cooldowns : UInt32 → Option Nat) (l : List UInt32) : List UInt32 :=
  l.eraseDups.filter fun ip => (cooldowns ip).isNone

/-- The loop returns the fresh addresses and starts their cooldowns. -/
theorem drainLoop_eq (now : Nat) (l : List UInt32) :
    ∀ (cooldowns : UInt32 → Option Nat) (batch : List UInt32),
      RouteManager.drainLoop now l cooldowns batch =
        (fun ip => if ip ∈ fresh cooldowns l then some (now + cooldown) else cooldowns ip,
          batch ++ fresh cooldowns l) := by
  induction l with
  | nil =>
    intro cooldowns batch
    simp [RouteManager.drainLoop, fresh]
  | cons ip l ih =>
    intro cooldowns batch
    unfold RouteManager.drainLoop
    cases hc : cooldowns ip with
    | some expires =>
      have hf : fresh cooldowns (ip :: l) = fresh cooldowns l :=
        Dedup.filter_eraseDups_cons_of_neg _ ip l (by simp [hc])
      rw [hf, Option.isSome_some, if_pos rfl, ih]
    | none =>
      -- once recorded, `ip` is not fresh any more: that is the duplicate test
      have hf : fresh cooldowns (ip :: l) =
          ip :: fresh (Function.update cooldowns ip (some (now + cooldown))) l := by
        unfold fresh
        rw [Dedup.filter_eraseDups_cons_of_pos _ ip l (by simp [hc])]
        congr 1
        apply List.filter_congr
        intro b _
        by_cases hb : b = ip
        · subst hb
          simp
        · simp [hb]
      rw [hf, Option.isSome_none, if_neg (by simp), ih, List.append_assoc]
      refine Prod.ext (funext fun x => ?_) rfl
      by_cases hx : x = ip
      · subst hx
        simp
      · simp [hx]

theorem submitted_snoc (ops : List RouteOp) (op : RouteOp) :
    submitted (ops ++ [op]) = match op with
      | .submit ip => submitted ops ++ [ip]
      | .drain _ => [] := by
  unfold submitted
  rw [List.foldl_append]
  rfl

theorem drainTimes_append (ops ops' : List RouteOp) :
    drainTimes (ops ++ ops') = drainTimes ops ++ drainTimes ops' := by
  induction ops with
  | nil => rfl
  | cons op ops ih =>
    cases op with
    | submit ip => exact ih
    | drain now =>
      show now :: drainTimes (ops ++ ops') = now :: drainTimes ops ++ drainTimes ops'
      rw [ih, List.cons_append]

theorem returned_snoc (ops : List RouteOp) (op : RouteOp) :
    returned (ops ++ [op]) = returned ops ++ match op with
      | .submit _ => []
      | .drain now => [(now, ((routeMachine.after .new ops).drainBatch now).2)] := by
  unfold returned
  rw [Machine.outputs_append, List.zip_append (routeMachine.length_outputs .new ops).symm,
    List.filterMap_append]
  cases op <;> rfl

/-- `pending` holds the accepted misses. -/
theorem pending_eq (ops : List RouteOp) :
    (routeMachine.after .new ops).pending = accepted ops := by
  induction ops using List.reverseRecOn with
  | nil => rfl
  | append_singleton ops op ih =>
    rw [Machine.after_snoc]
    unfold accepted at ih ⊢
    rw [submitted_snoc]
    cases op with
    | drain now => rfl
    | submit ip =>
      show ((routeMachine.after .new ops).submitMiss ip).pending = _
      unfold RouteManager.submitMiss
      have hlen := congrArg List.length ih
      rw [List.length_take] at hlen
      split
      · next hfull => rw [ih, List.take_append_of_le_length (by omega)]
      · next hroom =>
        show (routeMachine.after .new ops).pending ++ [ip] = _
        have hall : (submitted ops).length < maxPending := by omega
        rw [ih, List.take_of_length_le (by omega), List.take_of_length_le]
        rw [List.length_append, List.length_singleton]
        omega

/-! ### Cooldowns against the history -/

/-- A cooldown counts until it expires. -/
def cooldownExpiry : Expiry Nat Nat where
  live now expires := now < expires
  live_anti := by
    intro now later expires hle h
    omega

/-- The cooldowns as records. -/
def coolSet (cooldowns : UInt32 → Option Nat) : Set (UInt32 × Nat) :=
  {e | cooldowns e.1 = some e.2}

/-- The cooldowns all drains so far have started. -/
def histSet (ops : List RouteOp) : Set (UInt32 × Nat) :=
  {e | ∃ d ∈ returned ops, e.1 ∈ d.2 ∧ e.2 = d.1 + cooldown}

theorem retain_eq_some (now : Nat) (cooldowns : UInt32 → Option Nat) (ip : UInt32) (expires : Nat) :
    RouteManager.retain now cooldowns ip = some expires ↔
      cooldowns ip = some expires ∧ now < expires := by
  unfold RouteManager.retain
  rw [Option.filter_eq_some_iff, decide_eq_true_eq]

theorem coolSet_retain (now : Nat) (cooldowns : UInt32 → Option Nat) :
    coolSet (RouteManager.retain now cooldowns) =
      {e | e ∈ coolSet cooldowns ∧ cooldownExpiry.live now e.2} := by
  ext e
  exact retain_eq_some now cooldowns e.1 e.2

/-- The loop only adds records: it never touches a running cooldown. -/
theorem coolSet_drain (now : Nat) (cooldowns : UInt32 → Option Nat) (l : List UInt32) :
    coolSet (fun ip => if ip ∈ fresh cooldowns l then some (now + cooldown) else cooldowns ip) =
      coolSet cooldowns ∪ {e | e.1 ∈ fresh cooldowns l ∧ e.2 = now + cooldown} := by
  ext ⟨ip, expires⟩
  simp only [coolSet, Set.mem_union, Set.mem_ofPred_eq]
  by_cases hf : ip ∈ fresh cooldowns l
  · have hnone : cooldowns ip = none := by
      have := (List.mem_filter.mp hf).2
      simpa using this
    rw [if_pos hf, Option.some.injEq, hnone]
    simp [hf, eq_comm]
  · rw [if_neg hf]
    simp [hf]

theorem histSet_drain (ops : List RouteOp) (now : Nat) :
    histSet (ops ++ [.drain now]) = histSet ops ∪
      {e | e.1 ∈ ((routeMachine.after .new ops).drainBatch now).2 ∧ e.2 = now + cooldown} := by
  ext e
  simp only [histSet, returned_snoc, List.mem_append, List.mem_singleton, Set.mem_union,
    Set.mem_ofPred_eq]
  constructor
  · rintro ⟨d, hd | rfl, he⟩
    · exact Or.inl ⟨d, hd, he⟩
    · exact Or.inr he
  · rintro (⟨d, hd, he⟩ | he)
    · exact ⟨d, Or.inl hd, he⟩
    · exact ⟨_, Or.inr rfl, he⟩

/-- What a drain returns, in terms of the retained cooldowns. -/
theorem drainBatch_eq (r : RouteManager) (now : Nat) :
    r.drainBatch now =
      (⟨[], fun ip => if ip ∈ fresh (RouteManager.retain now r.cooldowns) r.pending then
          some (now + cooldown) else RouteManager.retain now r.cooldowns ip⟩,
        fresh (RouteManager.retain now r.cooldowns) r.pending) := by
  unfold RouteManager.drainBatch
  rw [drainLoop_eq, List.nil_append]

/-- At every instant from the last drain on, the cooldowns that count are those the
history of drains has started. -/
theorem cooldowns_track (ops : List RouteOp) :
    (drainTimes ops).Pairwise (· ≤ ·) → ∀ now, (∀ t ∈ drainTimes ops, t ≤ now) →
      Tracks (cooldownExpiry.live now) (coolSet (routeMachine.after .new ops).cooldowns)
        (histSet ops) := by
  induction ops using List.reverseRecOn with
  | nil =>
    intro _ now _ e _
    simp [coolSet, histSet, returned, Machine.after_nil, RouteManager.new]
  | append_singleton ops op ih =>
    intro hclock now hnow
    rw [drainTimes_append] at hclock hnow
    obtain ⟨hpast, _, hlast⟩ := List.pairwise_append.mp hclock
    rw [Machine.after_snoc]
    cases op with
    | submit ip =>
      have hcool : (routeMachine.next (routeMachine.after .new ops) (.submit ip)).cooldowns =
          (routeMachine.after .new ops).cooldowns := by
        show ((routeMachine.after .new ops).submitMiss ip).cooldowns = _
        unfold RouteManager.submitMiss
        split <;> rfl
      have hhist : histSet (ops ++ [.submit ip]) = histSet ops := by
        unfold histSet
        rw [returned_snoc, List.append_nil]
      rw [hcool, hhist]
      exact ih hpast now fun t ht => hnow t (List.mem_append_left _ ht)
    | drain t =>
      have htr := ih hpast t fun t' ht' => hlast t' ht' t (by simp [drainTimes])
      have hle : t ≤ now := hnow t (List.mem_append_right _ (by simp [drainTimes]))
      show Tracks _ (coolSet ((routeMachine.after .new ops).drainBatch t).1.cooldowns) _
      rw [histSet_drain, drainBatch_eq, coolSet_drain, coolSet_retain]
      exact (htr.retain.union _).later cooldownExpiry hle

theorem recently_iff (ops : List RouteOp) (now : Nat) (ip : UInt32) :
    recently ops now ip = true ↔ ∃ s, (ip, s) ∈ histSet ops ∧ cooldownExpiry.live now s := by
  unfold recently
  rw [List.any_eq_true]
  constructor
  · rintro ⟨d, hd, he⟩
    simp only [Bool.and_eq_true, decide_eq_true_eq, List.contains_iff_mem] at he
    exact ⟨d.1 + cooldown, ⟨d, hd, he.2, rfl⟩, he.1⟩
  · rintro ⟨s, ⟨d, hd, hip, rfl⟩, hlive⟩
    refine ⟨d, hd, ?_⟩
    have ht : now < d.1 + cooldown := hlive
    simp [ht, hip]

/-- What is left after `retain` is what was returned recently. -/
theorem retain_isNone_iff (ops : List RouteOp) (now : Nat)
    (htr : Tracks (cooldownExpiry.live now) (coolSet (routeMachine.after .new ops).cooldowns)
      (histSet ops)) (ip : UInt32) :
    (RouteManager.retain now (routeMachine.after .new ops).cooldowns ip).isNone =
      !recently ops now ip := by
  rw [Bool.eq_iff_iff, Option.isNone_iff_eq_none, Bool.not_eq_true', ← Bool.not_eq_true,
    recently_iff, ← htr.holds_iff, Option.eq_none_iff_forall_ne_some]
  constructor
  · rintro h ⟨s, hs, hlive⟩
    exact h s ((retain_eq_some now _ ip s).mpr ⟨hs, hlive⟩)
  · intro h s hs
    exact h ⟨s, (retain_eq_some now _ ip s).mp hs⟩

/-- **Drains against the whole history.**  After any calls whose drains read a
non-decreasing clock, a drain at `now` returns the distinct accepted misses, in
order of first submission, that no earlier drain returned less than five seconds
ago, and empties `pending`.  Nothing is returned twice in a batch or within five
seconds, and nothing else is dropped. -/
theorem drain_eq_history (ops : List RouteOp) (now : Nat)
    (hclock : (drainTimes (ops ++ [.drain now])).Pairwise (· ≤ ·)) :
    (routeMachine.after .new ops).pending = accepted ops ∧
    routeMachine.out (routeMachine.after .new ops) (.drain now) =
      (accepted ops).eraseDups.filter (fun ip => !recently ops now ip) ∧
    (routeMachine.after .new (ops ++ [.drain now])).pending = [] ∧
    (routeMachine.out (routeMachine.after .new ops) (.drain now)).Nodup ∧
    (∀ d ∈ returned ops, ∀ ip ∈ d.2,
      ip ∈ routeMachine.out (routeMachine.after .new ops) (.drain now) → d.1 + cooldown ≤ now) ∧
    (∀ ip ∈ accepted ops, ip ∈ routeMachine.out (routeMachine.after .new ops) (.drain now) ∨
      ∃ d ∈ returned ops, ip ∈ d.2 ∧ now < d.1 + cooldown) := by
  rw [drainTimes_append] at hclock
  obtain ⟨hpast, _, hlast⟩ := List.pairwise_append.mp hclock
  have htr := cooldowns_track ops hpast now fun t ht => hlast t ht now (by simp [drainTimes])
  have hpend := pending_eq ops
  have hbatch : routeMachine.out (routeMachine.after .new ops) (.drain now) =
      (accepted ops).eraseDups.filter (fun ip => !recently ops now ip) := by
    show ((routeMachine.after .new ops).drainBatch now).2 = _
    rw [drainBatch_eq, hpend]
    show fresh _ _ = _
    unfold fresh
    apply List.filter_congr
    intro ip _
    exact retain_isNone_iff ops now htr ip
  refine ⟨hpend, hbatch, ?_, ?_, ?_, ?_⟩
  · rw [Machine.after_snoc]
    rfl
  · rw [hbatch]
    exact (Dedup.nodup_eraseDups _).filter _
  · intro d hd ip hip hmem
    rw [hbatch, List.mem_filter] at hmem
    by_contra hlt
    have hrec : recently ops now ip = true :=
      (recently_iff ops now ip).mpr ⟨d.1 + cooldown, ⟨d, hd, hip, rfl⟩, by
        show now < d.1 + cooldown
        omega⟩
    rw [hrec] at hmem
    exact absurd hmem.2 (by simp)
  · intro ip hip
    cases hrec : recently ops now ip with
    | true =>
      obtain ⟨s, ⟨d, hd, hmem, rfl⟩, hlive⟩ := (recently_iff ops now ip).mp hrec
      exact Or.inr ⟨d, hd, hmem, hlive⟩
    | false =>
      left
      rw [hbatch, List.mem_filter, List.mem_eraseDups]
      exact ⟨hip, by rw [hrec]; rfl⟩

/-- Two misses of one address, a drain, a third, a drain one second later and one at
the five-second boundary: the last returns the address again. -/
theorem drain_at_boundary :
    routeMachine.out (routeMachine.after .new [.submit 7, .submit 7, .drain 0, .submit 7,
      .drain (10 ^ 9), .submit 7]) (.drain (5 * 10 ^ 9)) = [7] := by
  have h := (drain_eq_history [.submit 7, .submit 7, .drain 0, .submit 7, .drain (10 ^ 9),
    .submit 7] (5 * 10 ^ 9) (by decide)).2.1
  rw [h]
  decide

end NomadP2P
