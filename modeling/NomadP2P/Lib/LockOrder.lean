import Mathlib.Algebra.BigOperators.Group.Finset.Basic
import Mathlib.Algebra.Order.BigOperators.Group.Finset
import Mathlib.Data.Finset.Max
import Mathlib.Logic.Function.Basic
import NomadP2P.Lib.Machine

/-!
# Many locks, taken in order

Tasks that acquire and release locks, each by a program of its own.  A lock has shared and
exclusive guards and serves its requests in the order they were made: a request is granted if
it goes with the guards that are held and no other is in front of it.  A mutex is a lock that
is only taken exclusively.

An order of the locks has a rank for each, and says which are read-only.  A program keeps the
order if it takes read-only locks shared, takes any other lock only above those it holds,
releases what it holds and ends with nothing:

    o.held [] p = some []

Such programs do not deadlock, however they are interleaved:

    some task has not finished → some task can go on          (exists_free_of_ordered)
    from every state the tasks can all be run to their end         (finishes_of_ordered)

The held locks of a program composed of blocks are found block by block
(`held_append`, `held_flatMap`).
-/

namespace Locks

/-! ## Algorithm -/

inductive Mode
  | shared
  | exclusive
deriving DecidableEq, Repr

inductive Act (L : Type)
  | acquire (lock : L) (mode : Mode)
  | release (lock : L)
deriving DecidableEq, Repr

/-- What each task has left to do, the guards on each lock, and who waits for it, in order.  A
waiting task has its request in front of its program. -/
structure State (ι L : Type) where
  prog : ι → List (Act L)
  guards : L → List (ι × Mode)
  queue : L → List ι

/-- No guard is held, and no task waits. -/
def State.start {ι L : Type} (prog : ι → List (Act L)) : State ι L := ⟨prog, fun _ => [], fun _ => []⟩

section
variable {ι L : Type} [DecidableEq ι] [DecidableEq L]

/-- A guard of this mode goes with those that are held. -/
def fits (guards : List (ι × Mode)) : Mode → Bool
  | .shared => guards.all fun g => g.2 == .shared
  | .exclusive => guards.isEmpty

/-- The request goes with the guards that are held, and none is in front of it. -/
def ready (s : State ι L) (t : ι) (lock : L) (mode : Mode) : Bool :=
  fits (s.guards lock) mode && (s.queue lock).head?.all fun u => u == t

def grant (s : State ι L) (t : ι) (lock : L) (mode : Mode) (rest : List (Act L)) : State ι L where
  prog := Function.update s.prog t rest
  guards := Function.update s.guards lock ((t, mode) :: s.guards lock)
  queue := Function.update s.queue lock (s.queue lock).tail

def wait (s : State ι L) (t : ι) (lock : L) : State ι L :=
  { s with queue := Function.update s.queue lock (s.queue lock ++ [t]) }

/-- Drops a guard of `t`. -/
def release (s : State ι L) (t : ι) (lock : L) (rest : List (Act L)) : State ι L :=
  { s with
    prog := Function.update s.prog t rest
    guards := Function.update s.guards lock ((s.guards lock).eraseP fun g => g.1 == t) }

/-- One step of task `t`. -/
def step (s : State ι L) (t : ι) : State ι L :=
  match s.prog t with
  | [] => s
  | .release lock :: rest => release s t lock rest
  | .acquire lock mode :: rest =>
    if ready s t lock mode then grant s t lock mode rest
    else if t ∈ s.queue lock then s
    else wait s t lock

def machine : Machine (State ι L) ι Unit where
  step s t := (step s t, ())

/-- The task has not finished and cannot go on. -/
def Blocked (s : State ι L) (t : ι) : Prop :=
  ∃ lock mode rest, s.prog t = .acquire lock mode :: rest ∧ ready s t lock mode = false

/-! ### Orders -/

structure Order (L : Type) where
  rank : L → Nat
  readOnly : L → Bool

/-- With the locks `held`, the lock may be taken in this mode. -/
def Order.allows (o : Order L) (held : List L) (lock : L) (mode : Mode) : Bool :=
  if o.readOnly lock then mode == .shared
  else held.all fun k => o.readOnly k || decide (o.rank k < o.rank lock)

/-- The locks held behind a program that is run with `held`; `none` if it does not keep the
order. -/
def Order.held (o : Order L) : List L → List (Act L) → Option (List L)
  | held, [] => some held
  | held, .acquire lock mode :: rest =>
    if o.allows held lock mode then o.held (lock :: held) rest else none
  | held, .release lock :: rest => if lock ∈ held then o.held (held.erase lock) rest else none

/-! ## Lemmas -/

/-! ### Programs -/

theorem held_append (o : Order L) (p q : List (Act L)) :
    ∀ held, o.held held (p ++ q) = (o.held held p).bind fun held' => o.held held' q := by
  induction p with
  | nil => exact fun held => rfl
  | cons a p ih =>
    intro held
    cases a with
    | acquire lock mode =>
      simp only [List.cons_append, Order.held]
      split
      · exact ih _
      · rfl
    | release lock =>
      simp only [List.cons_append, Order.held]
      split
      · exact ih _
      · rfl

/-- Blocks that give back what they take, one after the other. -/
theorem held_flatMap {α : Type} (o : Order L) (held : List L) (block : α → List (Act L)) (xs : List α)
    (h : ∀ x ∈ xs, o.held held (block x) = some held) :
    o.held held (xs.flatMap block) = some held := by
  induction xs with
  | nil => rfl
  | cons x xs ih =>
    rw [List.flatMap_cons, held_append, h x List.mem_cons_self, Option.bind_some]
    exact ih fun y hy => h y (List.mem_cons_of_mem _ hy)

theorem held_acquire {o : Order L} {held done : List L} {lock : L} {mode : Mode} {rest : List (Act L)}
    (h : o.held held (.acquire lock mode :: rest) = some done) :
    o.allows held lock mode = true ∧ o.held (lock :: held) rest = some done := by
  rw [Order.held] at h
  by_cases hallow : o.allows held lock mode = true
  · rw [if_pos hallow] at h
    exact ⟨hallow, h⟩
  · rw [if_neg hallow] at h
    cases h

theorem held_release {o : Order L} {held done : List L} {lock : L} {rest : List (Act L)}
    (h : o.held held (.release lock :: rest) = some done) :
    lock ∈ held ∧ o.held (held.erase lock) rest = some done := by
  rw [Order.held] at h
  by_cases hmem : lock ∈ held
  · rw [if_pos hmem] at h
    exact ⟨hmem, h⟩
  · rw [if_neg hmem] at h
    cases h

/-! ### What a step does -/

/-- A step: the task has finished; or it drops a guard; or its request is granted; or it is
blocked, and waits or goes on waiting. -/
theorem step_cases (s : State ι L) (t : ι) :
    (s.prog t = [] ∧ step s t = s) ∨
    (∃ lock rest, s.prog t = .release lock :: rest ∧ step s t = release s t lock rest) ∨
    (∃ lock mode rest, s.prog t = .acquire lock mode :: rest ∧ ready s t lock mode = true ∧
      step s t = grant s t lock mode rest) ∨
    (∃ lock mode rest, s.prog t = .acquire lock mode :: rest ∧ ready s t lock mode = false ∧
      (step s t = s ∨ (t ∉ s.queue lock ∧ step s t = wait s t lock))) := by
  cases hp : s.prog t with
  | nil => exact .inl ⟨rfl, by rw [step, hp]⟩
  | cons a rest =>
    cases a with
    | release lock => exact .inr (.inl ⟨lock, rest, rfl, by rw [step, hp]⟩)
    | acquire lock mode =>
      have hstep : step s t = if ready s t lock mode then grant s t lock mode rest
          else if t ∈ s.queue lock then s else wait s t lock := by rw [step, hp]
      cases hr : ready s t lock mode with
      | true =>
        rw [hr, if_pos rfl] at hstep
        exact .inr (.inr (.inl ⟨lock, mode, rest, rfl, hr, hstep⟩))
      | false =>
        rw [hr, if_neg Bool.false_ne_true] at hstep
        refine .inr (.inr (.inr ⟨lock, mode, rest, rfl, hr, ?_⟩))
        by_cases hq : t ∈ s.queue lock
        · exact .inl (by rw [hstep, if_pos hq])
        · exact .inr ⟨hq, by rw [hstep, if_neg hq]⟩

/-! ### The invariant -/

/-- The guards of `t` on a lock. -/
def guardsOf (s : State ι L) (t : ι) (lock : L) : Nat := (s.guards lock).countP fun g => g.1 == t

/-- Every task keeps the order with the locks it holds guards of; the tasks in a queue are there
once and ask for that lock; and read-only locks have shared guards and no one waiting. -/
structure Ordered (o : Order L) (s : State ι L) : Prop where
  task : ∀ t, ∃ held, o.held held (s.prog t) = some [] ∧ ∀ lock, guardsOf s t lock = held.count lock
  asks : ∀ lock, ∀ u ∈ s.queue lock, ∃ mode rest, s.prog u = .acquire lock mode :: rest
  once : ∀ lock, (s.queue lock).Nodup
  shared : ∀ lock, o.readOnly lock = true → ∀ g ∈ s.guards lock, g.2 = .shared
  unqueued : ∀ lock, o.readOnly lock = true → s.queue lock = []

omit [DecidableEq L] in
theorem guardsOf_pos {s : State ι L} {t : ι} {lock : L} :
    0 < guardsOf s t lock ↔ ∃ mode, (t, mode) ∈ s.guards lock := by
  unfold guardsOf
  rw [List.countP_pos_iff]
  constructor
  · rintro ⟨⟨u, mode⟩, hmem, hu⟩
    obtain rfl : u = t := by simpa using hu
    exact ⟨mode, hmem⟩
  · rintro ⟨mode, hmem⟩
    exact ⟨(t, mode), hmem, by simp⟩

theorem guardsOf_grant (s : State ι L) (t u : ι) (lock k : L) (mode : Mode) (rest : List (Act L)) :
    guardsOf (grant s t lock mode rest) u k =
      guardsOf s u k + if t = u ∧ lock = k then 1 else 0 := by
  unfold guardsOf grant
  by_cases hk : lock = k
  · subst hk
    simp only [Function.update_self, List.countP_cons, beq_iff_eq, and_true]
  · simp only [Function.update_of_ne (Ne.symm hk), hk, and_false, if_false, Nat.add_zero]

omit [DecidableEq L] in
/-- Dropping a guard of `t`. -/
theorem countP_eraseP (guards : List (ι × Mode)) (t u : ι) (h : 0 < guards.countP fun g => g.1 == t) :
    (guards.eraseP fun g => g.1 == t).countP (fun g => g.1 == u) + (if t = u then 1 else 0) =
      guards.countP fun g => g.1 == u := by
  obtain ⟨x, hx, hxt⟩ := List.countP_pos_iff.mp h
  obtain ⟨g, l₁, l₂, -, hg, hsplit, herase⟩ := List.exists_of_eraseP (p := fun g => g.1 == t) hx hxt
  rw [herase, hsplit, List.countP_append, List.countP_append, List.countP_cons]
  obtain rfl : g.1 = t := by simpa using hg
  simp only [beq_iff_eq]
  omega

theorem guardsOf_release (s : State ι L) (t u : ι) (lock k : L) (rest : List (Act L))
    (h : 0 < guardsOf s t lock) :
    guardsOf (release s t lock rest) u k + (if t = u ∧ lock = k then 1 else 0) = guardsOf s u k := by
  unfold guardsOf release
  by_cases hk : lock = k
  · subst hk
    simp only [Function.update_self, and_true]
    exact countP_eraseP (s.guards lock) t u h
  · simp only [Function.update_of_ne (Ne.symm hk), hk, and_false, if_false, Nat.add_zero]

/-- A request for a read-only lock is granted at once. -/
theorem ready_of_readOnly {o : Order L} {s : State ι L} (h : Ordered o s) {t : ι} {lock : L} {mode : Mode}
    {rest : List (Act L)} (hp : s.prog t = .acquire lock mode :: rest) (hro : o.readOnly lock = true) :
    ready s t lock mode = true := by
  obtain ⟨held, hheld, -⟩ := h.task t
  rw [hp] at hheld
  have hallow := (held_acquire hheld).1
  unfold Order.allows at hallow
  rw [if_pos hro] at hallow
  obtain rfl : mode = .shared := by simpa using hallow
  unfold ready fits
  rw [h.unqueued lock hro, Bool.and_eq_true, List.all_eq_true]
  exact ⟨fun g hg => by rw [h.shared lock hro g hg]; rfl, rfl⟩

/-- So a blocked task asks for another lock. -/
theorem not_readOnly_of_blocked {o : Order L} {s : State ι L} (h : Ordered o s) {t : ι} {lock : L}
    {mode : Mode} {rest : List (Act L)} (hp : s.prog t = .acquire lock mode :: rest)
    (hblocked : ready s t lock mode = false) : o.readOnly lock = false := by
  rw [Bool.eq_false_iff]
  intro hro
  rw [ready_of_readOnly h hp hro] at hblocked
  cases hblocked

theorem Ordered.grant {o : Order L} {s : State ι L} (h : Ordered o s) {t : ι} {lock : L} {mode : Mode}
    {rest : List (Act L)} (hp : s.prog t = .acquire lock mode :: rest)
    (hready : ready s t lock mode = true) : Ordered o (grant s t lock mode rest) := by
  obtain ⟨held, hheld, hcount⟩ := h.task t
  rw [hp] at hheld
  obtain ⟨hallow, hheld⟩ := held_acquire hheld
  -- `t` is gone from the queues
  have hgone : ∀ k, t ∉ (Locks.grant s t lock mode rest).queue k := by
    intro k hk
    by_cases hkl : k = lock
    · subst hkl
      replace hk : t ∈ Function.update s.queue k (s.queue k).tail k := hk
      rw [Function.update_self] at hk
      have hhead := (Bool.and_eq_true_iff.mp hready).2
      have honce := h.once k
      cases hq : s.queue k with
      | nil =>
        rw [hq] at hk
        cases hk
      | cons u us =>
        rw [hq] at hk hhead honce
        obtain rfl : u = t := by simpa using hhead
        exact (List.nodup_cons.mp honce).1 hk
    · replace hk : t ∈ Function.update s.queue lock (s.queue lock).tail k := hk
      rw [Function.update_of_ne hkl] at hk
      obtain ⟨m, r, hm⟩ := h.asks k t hk
      rw [hp] at hm
      simp only [List.cons.injEq, Act.acquire.injEq] at hm
      exact hkl hm.1.1.symm
  have hqueue : ∀ k u, u ∈ (Locks.grant s t lock mode rest).queue k → u ∈ s.queue k := by
    intro k u hu
    by_cases hkl : k = lock
    · subst hkl
      replace hu : u ∈ Function.update s.queue k (s.queue k).tail k := hu
      rw [Function.update_self] at hu
      exact List.mem_of_mem_tail hu
    · replace hu : u ∈ Function.update s.queue lock (s.queue lock).tail k := hu
      rwa [Function.update_of_ne hkl] at hu
  constructor
  · intro u
    by_cases hu : t = u
    · subst hu
      refine ⟨lock :: held, ?_, fun k => ?_⟩
      · show o.held (lock :: held) (Function.update s.prog t rest t) = _
        rw [Function.update_self]
        exact hheld
      · rw [guardsOf_grant, hcount, List.count_cons]
        simp only [true_and, beq_iff_eq]
    · obtain ⟨held', hheld', hcount'⟩ := h.task u
      refine ⟨held', ?_, fun k => ?_⟩
      · show o.held held' (Function.update s.prog t rest u) = _
        rw [Function.update_of_ne (Ne.symm hu)]
        exact hheld'
      · rw [guardsOf_grant, if_neg fun hc => hu hc.1]
        exact hcount' k
  · intro k u hu
    have hne : u ≠ t := fun he => hgone k (he ▸ hu)
    show ∃ m r, Function.update s.prog t rest u = _
    rw [Function.update_of_ne hne]
    exact h.asks k u (hqueue k u hu)
  · intro k
    show (Function.update s.queue lock (s.queue lock).tail k).Nodup
    by_cases hkl : k = lock
    · subst hkl
      rw [Function.update_self]
      exact (h.once k).sublist (List.tail_sublist _)
    · rw [Function.update_of_ne hkl]
      exact h.once k
  · intro k hro g hg
    replace hg : g ∈ Function.update s.guards lock ((t, mode) :: s.guards lock) k := hg
    by_cases hkl : k = lock
    · subst hkl
      rw [Function.update_self] at hg
      unfold Order.allows at hallow
      rw [if_pos hro] at hallow
      rcases List.mem_cons.mp hg with rfl | hg
      · simpa using hallow
      · exact h.shared k hro g hg
    · rw [Function.update_of_ne hkl] at hg
      exact h.shared k hro g hg
  · intro k hro
    rw [List.eq_nil_iff_forall_not_mem]
    intro u hu
    have := hqueue k u hu
    rw [h.unqueued k hro] at this
    cases this

theorem Ordered.release {o : Order L} {s : State ι L} (h : Ordered o s) {t : ι} {lock : L}
    {rest : List (Act L)} (hp : s.prog t = .release lock :: rest) :
    Ordered o (release s t lock rest) := by
  obtain ⟨held, hheld, hcount⟩ := h.task t
  rw [hp] at hheld
  obtain ⟨hmem, hheld⟩ := held_release hheld
  have hpos : 0 < guardsOf s t lock := by
    rw [hcount]
    exact List.count_pos_iff.mpr hmem
  constructor
  · intro u
    by_cases hu : t = u
    · subst hu
      refine ⟨held.erase lock, ?_, fun k => ?_⟩
      · show o.held (held.erase lock) (Function.update s.prog t rest t) = _
        rw [Function.update_self]
        exact hheld
      · have hrel := guardsOf_release s t t lock k rest hpos
        rw [hcount] at hrel
        rw [List.count_erase]
        by_cases hk : lock = k
        · simp only [hk, true_and, if_true, beq_self_eq_true] at hrel ⊢
          omega
        · simp only [hk, and_false, if_false, Nat.add_zero] at hrel
          rw [hrel, if_neg (by simpa using hk), Nat.sub_zero]
    · obtain ⟨held', hheld', hcount'⟩ := h.task u
      refine ⟨held', ?_, fun k => ?_⟩
      · show o.held held' (Function.update s.prog t rest u) = _
        rw [Function.update_of_ne (Ne.symm hu)]
        exact hheld'
      · have hrel := guardsOf_release s t u lock k rest hpos
        rw [if_neg fun hc => hu hc.1, Nat.add_zero] at hrel
        rw [hrel]
        exact hcount' k
  · intro k u hu
    obtain ⟨m, r, hm⟩ := h.asks k u hu
    have hne : u ≠ t := by
      rintro rfl
      rw [hp] at hm
      cases hm
    refine ⟨m, r, ?_⟩
    show Function.update s.prog t rest u = _
    rw [Function.update_of_ne hne]
    exact hm
  · exact h.once
  · intro k hro g hg
    replace hg : g ∈ Function.update s.guards lock
      ((s.guards lock).eraseP fun g => g.1 == t) k := hg
    by_cases hkl : k = lock
    · subst hkl
      rw [Function.update_self] at hg
      exact h.shared k hro g (List.mem_of_mem_eraseP hg)
    · rw [Function.update_of_ne hkl] at hg
      exact h.shared k hro g hg
  · exact h.unqueued

theorem Ordered.wait {o : Order L} {s : State ι L} (h : Ordered o s) {t : ι} {lock : L} {mode : Mode}
    {rest : List (Act L)} (hp : s.prog t = .acquire lock mode :: rest)
    (hblocked : ready s t lock mode = false) (hnew : t ∉ s.queue lock) : Ordered o (wait s t lock) := by
  have hro := not_readOnly_of_blocked h hp hblocked
  constructor
  · exact h.task
  · intro k u hu
    replace hu : u ∈ Function.update s.queue lock (s.queue lock ++ [t]) k := hu
    by_cases hkl : k = lock
    · subst hkl
      rw [Function.update_self, List.mem_append, List.mem_singleton] at hu
      rcases hu with hu | rfl
      · exact h.asks k u hu
      · exact ⟨mode, rest, hp⟩
    · rw [Function.update_of_ne hkl] at hu
      exact h.asks k u hu
  · intro k
    show (Function.update s.queue lock (s.queue lock ++ [t]) k).Nodup
    by_cases hkl : k = lock
    · subst hkl
      rw [Function.update_self]
      exact List.nodup_append.mpr ⟨h.once k, List.nodup_singleton t,
        fun u hu v hv => by rw [List.mem_singleton.mp hv]; exact fun he => hnew (he ▸ hu)⟩
    · rw [Function.update_of_ne hkl]
      exact h.once k
  · exact h.shared
  · intro k hk
    show Function.update s.queue lock (s.queue lock ++ [t]) k = []
    have hkl : k ≠ lock := by
      rintro rfl
      rw [hro] at hk
      cases hk
    rw [Function.update_of_ne hkl]
    exact h.unqueued k hk

theorem ordered_step {o : Order L} {s : State ι L} (t : ι) (h : Ordered o s) : Ordered o (step s t) := by
  rcases step_cases s t with ⟨-, hs⟩ | ⟨lock, rest, hp, hs⟩ | ⟨lock, mode, rest, hp, hr, hs⟩ |
    ⟨lock, mode, rest, hp, hr, hs | ⟨hnew, hs⟩⟩
  · rw [hs]; exact h
  · rw [hs]; exact h.release hp
  · rw [hs]; exact h.grant hp hr
  · rw [hs]; exact h
  · rw [hs]; exact h.wait hp hr hnew

theorem ordered_start (o : Order L) (prog : ι → List (Act L)) (h : ∀ t, o.held [] (prog t) = some []) :
    Ordered o (State.start prog) where
  task t := ⟨[], h t, fun _ => rfl⟩
  asks _ _ hu := by cases hu
  once _ := List.nodup_nil
  shared _ _ _ hg := by cases hg
  unqueued _ _ := rfl

theorem ordered_after {o : Order L} (run : List ι) :
    ∀ s : State ι L, Ordered o s → Ordered o (machine.after s run) :=
  machine.inv_after (Ordered o) run fun _ t _ h => ordered_step t h

/-! ### No deadlock -/

/-- Where no task can go on, a lock that some task asks for is held. -/
theorem holder_of_blocked {o : Order L} {s : State ι L} (h : Ordered o s)
    (hall : ∀ t, s.prog t ≠ [] → Blocked s t) {t : ι} {lock : L} {mode : Mode}
    (hblocked : ready s t lock mode = false) : ∃ u, 0 < guardsOf s u lock := by
  -- the first in line, or else this task, wants the lock and does not get it for the guards
  have hfits : ∃ m, fits (s.guards lock) m = false := by
    cases hq : s.queue lock with
    | nil =>
      unfold ready at hblocked
      rw [hq] at hblocked
      exact ⟨mode, by simpa using hblocked⟩
    | cons v vs =>
      obtain ⟨m, r, hv⟩ := h.asks lock v (by rw [hq]; exact List.mem_cons_self)
      obtain ⟨k, m', r', hv', hready⟩ := hall v (by rw [hv]; exact List.cons_ne_nil _ _)
      rw [hv] at hv'
      simp only [List.cons.injEq, Act.acquire.injEq] at hv'
      obtain ⟨⟨rfl, rfl⟩, rfl⟩ := hv'
      unfold ready at hready
      rw [hq] at hready
      exact ⟨m, by simpa using hready⟩
  obtain ⟨m, hm⟩ := hfits
  cases hg : s.guards lock with
  | nil =>
    rw [hg] at hm
    cases m <;> cases hm
  | cons g gs =>
    exact ⟨g.1, guardsOf_pos.mpr ⟨g.2, by rw [hg]; exact List.mem_cons_self⟩⟩

/-- The rank of the lock a task asks for. -/
def wants (o : Order L) (s : State ι L) (t : ι) : Nat :=
  match s.prog t with
  | .acquire lock _ :: _ => o.rank lock
  | _ => 0

/-- **Some task can go on.**  Otherwise take a task that wants the highest lock: who holds this
lock wants a higher one. -/
theorem exists_free_of_ordered [Fintype ι] {o : Order L} {s : State ι L} (h : Ordered o s)
    (hopen : ∃ t, s.prog t ≠ []) : ∃ t, s.prog t ≠ [] ∧ ¬ Blocked s t := by
  apply Classical.byContradiction
  intro hno
  have hall : ∀ t, s.prog t ≠ [] → Blocked s t := fun t ht =>
    Classical.byContradiction fun hb => hno ⟨t, ht, hb⟩
  obtain ⟨t₀, ht₀⟩ := hopen
  obtain ⟨t, ht, hmax⟩ := Finset.exists_max_image (Finset.univ.filter fun t => s.prog t ≠ [])
    (wants o s) ⟨t₀, by simpa using ht₀⟩
  obtain ⟨lock, mode, rest, hp, hready⟩ := hall t (by simpa using ht)
  have hro := not_readOnly_of_blocked h hp hready
  obtain ⟨u, hu⟩ := holder_of_blocked h hall hready
  obtain ⟨held, hheld, hcount⟩ := h.task u
  have hlock : lock ∈ held := by
    rw [hcount] at hu
    exact List.count_pos_iff.mp hu
  have huopen : s.prog u ≠ [] := by
    intro hnil
    rw [hnil, Order.held, Option.some.injEq] at hheld
    rw [hheld] at hlock
    cases hlock
  obtain ⟨k, m, r, hup, huready⟩ := hall u huopen
  rw [hup] at hheld
  have hallow := (held_acquire hheld).1
  unfold Order.allows at hallow
  rw [not_readOnly_of_blocked h hup huready, if_neg Bool.false_ne_true, List.all_eq_true] at hallow
  have hlt : o.rank lock < o.rank k := by simpa [hro] using hallow lock hlock
  have hle := hmax u (by simpa using huopen)
  unfold wants at hle
  rw [hup, hp] at hle
  simp only at hle
  omega

/-- What is left to do. -/
def left [Fintype ι] (s : State ι L) : Nat := ∑ t, (s.prog t).length

theorem left_step [Fintype ι] {s : State ι L} {t : ι} (hopen : s.prog t ≠ []) (hfree : ¬ Blocked s t) :
    left (step s t) < left s := by
  have hshort : ∀ rest : List (Act L), rest.length < (s.prog t).length →
      (∀ u, ((Function.update s.prog t rest) u).length ≤ (s.prog u).length) ∧
        ((Function.update s.prog t rest) t).length < (s.prog t).length := by
    intro rest hrest
    refine ⟨fun u => ?_, by rw [Function.update_self]; exact hrest⟩
    by_cases hu : u = t
    · subst hu
      rw [Function.update_self]
      omega
    · rw [Function.update_of_ne hu]
  have hlt : ∀ rest : List (Act L), rest.length < (s.prog t).length →
      ∑ u, ((Function.update s.prog t rest) u).length < ∑ u, (s.prog u).length :=
    fun rest hrest => Finset.sum_lt_sum (fun u _ => (hshort rest hrest).1 u)
      ⟨t, Finset.mem_univ t, (hshort rest hrest).2⟩
  rcases step_cases s t with ⟨hp, -⟩ | ⟨lock, rest, hp, hs⟩ | ⟨lock, mode, rest, hp, -, hs⟩ |
    ⟨lock, mode, rest, hp, hr, -⟩
  · exact absurd hp hopen
  · rw [hs]
    exact hlt rest (by rw [hp]; exact Nat.lt_succ_self _)
  · rw [hs]
    exact hlt rest (by rw [hp]; exact Nat.lt_succ_self _)
  · exact absurd ⟨lock, mode, rest, hp, hr⟩ hfree

/-- **Every task can be run to its end**, from every state.  By induction on what is left. -/
theorem finishes_of_ordered [Fintype ι] {o : Order L} {s : State ι L} (h : Ordered o s) :
    ∃ run : List ι, ∀ t, (machine.after s run).prog t = [] := by
  induction hn : left s using Nat.strong_induction_on generalizing s with
  | _ n ih =>
    by_cases hopen : ∃ t, s.prog t ≠ []
    · obtain ⟨t, ht, hfree⟩ := exists_free_of_ordered h hopen
      obtain ⟨run, hrun⟩ := ih (left (step s t)) (by rw [← hn]; exact left_step ht hfree)
        (ordered_step t h) rfl
      exact ⟨t :: run, hrun⟩
    · exact ⟨[], fun t => Classical.byContradiction fun ht => hopen ⟨t, ht⟩⟩

end

end Locks
