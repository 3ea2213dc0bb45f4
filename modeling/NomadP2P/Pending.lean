import Mathlib.Data.Fintype.Card
import NomadP2P.Route

/-!
# The length of `pending` under concurrent `submit_miss`

`submit_miss` reads the length under the read lock and pushes under the write lock, so
a call that has seen room may push when there is none any more.  Any number of tasks
are between their check and their push at the same time; drains come at any time.

What is in `pending` and what is about to be pushed together stay bounded:

    pending.length + tasks past their check ≤ MAX_PENDING + k      (k + 1 tasks)   (room_next)

With one task, as `ringbuf_consumer` runs it, `pending` never has more than 4096
entries (`pending_bounded`).
-/

namespace NomadP2P

/-! ## Algorithm -/

/-- The route manager, and for each task the address it is about to push. -/
structure PendingState (k : Nat) where
  route : RouteManager
  ready : Fin (k + 1) → Option UInt32

def PendingState.new (k : Nat) : PendingState k := ⟨.new, fun _ => none⟩

inductive PendingOp (k : Nat)
  /-- `self.pending.read().await.len()` and the test -/
  | check (task : Fin (k + 1)) (overlayIp : UInt32)
  /-- `self.pending.write().await.push(overlay_ip)` -/
  | push (task : Fin (k + 1))
  | drain (now : Nat)
deriving DecidableEq

/-- A task starts a call only when it is through with the one before. -/
def pendingStep {k : Nat} (s : PendingState k) : PendingOp k → PendingState k
  | .check task overlayIp =>
    if (s.ready task).isSome then s
    else if maxPending ≤ s.route.pending.length then s
    else { s with ready := Function.update s.ready task (some overlayIp) }
  | .push task =>
    match s.ready task with
    | none => s
    | some overlayIp =>
      ⟨{ s.route with pending := s.route.pending ++ [overlayIp] }, Function.update s.ready task none⟩
  | .drain now => { s with route := (s.route.drainBatch now).1 }

def pendingMachine (k : Nat) : Machine (PendingState k) (PendingOp k) Unit where
  step s op := (pendingStep s op, ())

/-! ## Lemmas -/

/-- A check and the push behind it, with nothing between them, are `submit_miss`. -/
theorem check_push_eq_submitMiss {k : Nat} (s : PendingState k) (task : Fin (k + 1)) (ip : UInt32)
    (hidle : s.ready task = none) :
    ((pendingMachine k).after s [.check task ip, .push task]).route = s.route.submitMiss ip := by
  show (pendingStep (pendingStep s (.check task ip)) (.push task)).route = _
  unfold RouteManager.submitMiss
  by_cases hfull : maxPending ≤ s.route.pending.length
  · simp only [pendingStep, hidle, Option.isSome_none, Bool.false_eq_true, if_false, hfull, if_true]
  · simp only [pendingStep, hidle, Option.isSome_none, Bool.false_eq_true, if_false, hfull,
      Function.update_self]

/-- The tasks between their check and their push. -/
def between {k : Nat} (s : PendingState k) : Finset (Fin (k + 1)) :=
  Finset.univ.filter fun task => (s.ready task).isSome

theorem card_between_le {k : Nat} (s : PendingState k) : (between s).card ≤ k + 1 := by
  calc (between s).card ≤ (Finset.univ : Finset (Fin (k + 1))).card := Finset.card_filter_le _ _
    _ = k + 1 := by rw [Finset.card_univ, Fintype.card_fin]

/-- A push takes its task out. -/
theorem between_push {k : Nat} (s : PendingState k) (route : RouteManager) (task : Fin (k + 1)) :
    between ⟨route, Function.update s.ready task none⟩ = (between s).erase task := by
  ext t
  unfold between
  rw [Finset.mem_erase, Finset.mem_filter, Finset.mem_filter]
  show _ ∧ (Function.update s.ready task none t).isSome = true ↔ _
  by_cases ht : t = task
  · rw [ht, Function.update_self]
    simp
  · rw [Function.update_of_ne ht]
    simp [ht]

/-- There is room for what is about to be pushed, but for `k` entries. -/
def Room {k : Nat} (s : PendingState k) : Prop :=
  s.route.pending.length + (between s).card ≤ maxPending + k

theorem room_next {k : Nat} (s : PendingState k) (op : PendingOp k) (h : Room s) :
    Room ((pendingMachine k).next s op) := by
  show Room (pendingStep s op)
  cases op with
  | check task ip =>
    unfold pendingStep
    simp only
    split
    · exact h
    split
    · exact h
    · next hroom =>
      -- one entry is free, and the tasks are at most `k + 1`
      have hcard := card_between_le ⟨s.route, Function.update s.ready task (some ip)⟩
      show s.route.pending.length + _ ≤ _
      omega
  | push task =>
    cases hready : s.ready task with
    | none =>
      simp only [pendingStep, hready]
      exact h
    | some ip =>
      simp only [pendingStep, hready]
      have hmem : task ∈ between s := by
        unfold between
        rw [Finset.mem_filter, hready]
        exact ⟨Finset.mem_univ _, rfl⟩
      have hcard := Finset.card_erase_of_mem hmem
      have hpos := Finset.card_pos.mpr ⟨task, hmem⟩
      show (s.route.pending ++ [ip]).length + _ ≤ _
      rw [between_push, List.length_append, List.length_singleton]
      unfold Room at h
      omega
  | drain now =>
    have hcard := card_between_le s
    show ([] : List UInt32).length + (between s).card ≤ _
    rw [List.length_nil]
    unfold maxPending
    omega

theorem length_after_le (k : Nat) (ops : List (PendingOp k)) :
    ((pendingMachine k).after (.new k) ops).route.pending.length ≤ maxPending + k := by
  have hnew : Room (PendingState.new k) := by
    have hcard := card_between_le (PendingState.new k)
    show ([] : List UInt32).length + _ ≤ _
    rw [List.length_nil]
    unfold maxPending
    omega
  have hroom := (pendingMachine k).inv_after Room ops (fun s op _ h => room_next s op h) _ hnew
  unfold Room at hroom
  omega

/-- With one task. -/
theorem length_after_single_le (ops : List (PendingOp 0)) :
    ((pendingMachine 0).after (.new 0) ops).route.pending.length ≤ 4096 := length_after_le 0 ops

/-! ### Main theorem -/

/-- **The bound.**  With `k + 1` tasks, in any interleaving of their checks and pushes and
of drains, `pending` never has more than `MAX_PENDING + k` entries; with one task
never more than 4096. -/
theorem pending_bounded (k : Nat) (ops : List (PendingOp k)) :
    ((pendingMachine k).after (.new k) ops).route.pending.length ≤ maxPending + k ∧
      (k = 0 → ((pendingMachine k).after (.new k) ops).route.pending.length ≤ 4096) := by
  refine ⟨length_after_le k ops, ?_⟩
  rintro rfl
  exact length_after_single_le ops

end NomadP2P
