import Mathlib.Data.List.Basic
import Mathlib.Data.List.Infix

/-!
# Deterministic machines and their runs

A machine reads one input at a time, changes its state and answers.  `after`
is the state behind a list of inputs, `outputs` the list of answers.  Rules:

    (∀ s x, Inv s → Inv (next s x)) → Inv s → Inv (M.after s xs)          (inv_after)
    R xs s a → M.outputs s xs = N.outputs a xs      (R a simulation)      (outputs_eq_of_sim)
    inputs that a view of the state does not show leave no trace          (run_of_view)
    steps that some step of another machine follows make runs of it       (exists_run_of_sim)
    a guarded run keeps what guarded steps keep                           (inv_of_guarded)
    (∀ pre <+: xs, P (M.after s pre)) ↔ every step of the run is guarded  (always_iff_guarded)
    M.first stop s xs is the first answer that meets `stop`               (first_eq_some_iff)
    a cell that steps write or leave holds the last value written         (after_lastWrite)

`always_iff_guarded` is for a machine that keeps `P` on some steps only: if the
guard is what one step needs to keep `P`, a run keeps `P` throughout exactly
when each of its steps meets the guard.
-/

/-- A deterministic machine: a state and an input give a state and an output. -/
structure Machine (σ ι ο : Type) where
  step : σ → ι → σ × ο

namespace Machine

section
variable {σ ι ο : Type} (M : Machine σ ι ο)

/-- The state part of a step. -/
def next (s : σ) (x : ι) : σ := (M.step s x).1

/-- The answer part of a step. -/
def out (s : σ) (x : ι) : ο := (M.step s x).2

/-- The state after the inputs `xs`. -/
def after (s : σ) (xs : List ι) : σ := xs.foldl M.next s

/-- The answers to the inputs `xs`, in order. -/
def outputs : σ → List ι → List ο
  | _, [] => []
  | s, x :: xs => M.out s x :: outputs (M.next s x) xs

theorem after_nil (s : σ) : M.after s [] = s := rfl

theorem after_cons (s : σ) (x : ι) (xs : List ι) :
    M.after s (x :: xs) = M.after (M.next s x) xs := rfl

theorem after_append (s : σ) (xs ys : List ι) :
    M.after s (xs ++ ys) = M.after (M.after s xs) ys := by
  unfold after
  rw [List.foldl_append]

theorem after_snoc (s : σ) (xs : List ι) (x : ι) :
    M.after s (xs ++ [x]) = M.next (M.after s xs) x := by
  rw [after_append, after_cons, after_nil]

theorem outputs_cons (s : σ) (x : ι) (xs : List ι) :
    M.outputs s (x :: xs) = M.out s x :: M.outputs (M.next s x) xs := rfl

theorem length_outputs (s : σ) (xs : List ι) : (M.outputs s xs).length = xs.length := by
  induction xs generalizing s with
  | nil => rfl
  | cons x xs ih => rw [outputs_cons, List.length_cons, List.length_cons, ih]

theorem outputs_append (s : σ) (xs ys : List ι) :
    M.outputs s (xs ++ ys) = M.outputs s xs ++ M.outputs (M.after s xs) ys := by
  induction xs generalizing s with
  | nil => rfl
  | cons x xs ih => rw [List.cons_append, outputs_cons, ih, outputs_cons, after_cons, List.cons_append]

/-- The `i`-th answer is given in the state behind the first `i` inputs. -/
theorem outputs_get (s : σ) (xs : List ι) (i : Nat) :
    (M.outputs s xs)[i]? = xs[i]?.map fun x => M.out (M.after s (xs.take i)) x := by
  induction xs generalizing s i with
  | nil => simp [outputs]
  | cons x xs ih =>
    cases i with
    | zero => simp [outputs, after]
    | succ i =>
      rw [outputs_cons, List.getElem?_cons_succ, ih, List.getElem?_cons_succ, List.take_succ_cons,
        after_cons]

/-! ## Running up to an answer -/

/-- Runs until an answer meets `stop`: the state behind it, the input, the answer, and
the inputs that are left. -/
def first (stop : ο → Bool) : σ → List ι → Option (σ × ι × ο × List ι)
  | _, [] => none
  | s, x :: xs =>
    if stop (M.out s x) then some (M.next s x, x, M.out s x, xs) else first stop (M.next s x) xs

theorem first_eq_some_iff (stop : ο → Bool) (xs : List ι) :
    ∀ (s s' : σ) (x : ι) (o : ο) (rest : List ι),
      M.first stop s xs = some (s', x, o, rest) ↔
        ∃ pre, xs = pre ++ x :: rest ∧ (∀ o' ∈ M.outputs s pre, stop o' = false) ∧
          M.out (M.after s pre) x = o ∧ stop o = true ∧ M.after s (pre ++ [x]) = s' := by
  induction xs with
  | nil =>
    intro s s' x o rest
    constructor
    · intro h; cases h
    · rintro ⟨pre, h, -⟩; simp at h
  | cons y ys ih =>
    intro s s' x o rest
    unfold first
    by_cases hy : stop (M.out s y) = true
    · rw [if_pos hy, Option.some.injEq]
      constructor
      · intro h
        simp only [Prod.mk.injEq] at h
        obtain ⟨rfl, rfl, rfl, rfl⟩ := h
        exact ⟨[], rfl, by simp [outputs], rfl, hy, rfl⟩
      · rintro ⟨pre, he, hpre, rfl, -, rfl⟩
        cases pre with
        | nil =>
          simp only [List.nil_append, List.cons.injEq] at he
          obtain ⟨rfl, rfl⟩ := he
          rfl
        | cons z pre =>
          -- then `y` would be among the answers that do not stop the run
          simp only [List.cons_append, List.cons.injEq] at he
          obtain ⟨rfl, -⟩ := he
          have := hpre (M.out s y) (by rw [outputs_cons]; exact List.mem_cons_self)
          rw [hy] at this
          cases this
    · rw [if_neg hy, ih]
      constructor
      · rintro ⟨pre, rfl, hpre, ho, hstop, hs⟩
        refine ⟨y :: pre, rfl, ?_, ho, hstop, hs⟩
        intro o' ho'
        rw [outputs_cons] at ho'
        rcases List.mem_cons.mp ho' with rfl | h
        · simpa using hy
        · exact hpre o' h
      · rintro ⟨pre, he, hpre, ho, hstop, hs⟩
        cases pre with
        | nil =>
          simp only [List.nil_append, List.cons.injEq] at he
          obtain ⟨rfl, -⟩ := he
          rw [after_nil] at ho
          rw [ho] at hy
          exact absurd hstop hy
        | cons z pre =>
          simp only [List.cons_append, List.cons.injEq] at he
          obtain ⟨rfl, rfl⟩ := he
          rw [outputs_cons] at hpre
          exact ⟨pre, rfl, fun o' h => hpre o' (List.mem_cons_of_mem _ h), ho, hstop, hs⟩

/-! ## Invariants -/

/-- What every step of the run keeps holds at its end. -/
theorem inv_after (Inv : σ → Prop) (xs : List ι)
    (hstep : ∀ s, ∀ x ∈ xs, Inv s → Inv (M.next s x)) :
    ∀ s, Inv s → Inv (M.after s xs) := by
  induction xs with
  | nil => intro s h; exact h
  | cons x xs ih =>
    intro s h
    rw [after_cons]
    exact ih (fun s y hy => hstep s y (List.mem_cons_of_mem _ hy)) _
      (hstep s x List.mem_cons_self h)

/-- Every step of the run from `s` meets `guard` in the state it is taken in. -/
def Guarded (guard : σ → ι → Prop) : σ → List ι → Prop
  | _, [] => True
  | s, x :: xs => guard s x ∧ Guarded guard (M.next s x) xs

instance instDecidableGuarded (guard : σ → ι → Prop) [∀ s x, Decidable (guard s x)] :
    ∀ (s : σ) (xs : List ι), Decidable (M.Guarded guard s xs)
  | _, [] => isTrue trivial
  | s, x :: xs =>
    have := instDecidableGuarded guard (M.next s x) xs
    inferInstanceAs (Decidable (guard s x ∧ M.Guarded guard (M.next s x) xs))

/-- A guard that does not look at the state is a condition on the inputs. -/
theorem guarded_iff_forall (guard : ι → Prop) (xs : List ι) :
    ∀ s, M.Guarded (fun _ x => guard x) s xs ↔ ∀ x ∈ xs, guard x := by
  induction xs with
  | nil => simp [Guarded]
  | cons x xs ih =>
    intro s
    rw [List.forall_mem_cons]
    exact and_congr_right fun _ => ih _

/-- What guarded steps keep holds in every state of a guarded run. -/
theorem inv_of_guarded (guard : σ → ι → Prop) (Inv : σ → Prop)
    (hkeep : ∀ s x, Inv s → guard s x → Inv (M.next s x)) (xs : List ι) :
    ∀ s, Inv s → M.Guarded guard s xs → ∀ pre, pre <+: xs → Inv (M.after s pre) := by
  induction xs with
  | nil =>
    intro s h _ pre hpre
    rw [List.prefix_nil] at hpre
    subst hpre
    exact h
  | cons x xs ih =>
    rintro s h ⟨hg, hrest⟩ pre hpre
    cases pre with
    | nil => exact h
    | cons y pre =>
      obtain ⟨rfl, hpre'⟩ := List.cons_prefix_cons.mp hpre
      rw [after_cons]
      exact ih _ (hkeep s y h hg) hrest pre hpre'

/-- If an unguarded step from `Inv` breaks `P`, a run with `P` in all its states is guarded.
Only the inputs of the run count. -/
theorem guarded_of_always (guard : σ → ι → Prop) (Inv P : σ → Prop) (xs : List ι)
    (hkeep : ∀ s, ∀ x ∈ xs, Inv s → guard s x → Inv (M.next s x))
    (hbreak : ∀ s, ∀ x ∈ xs, Inv s → ¬ guard s x → ¬ P (M.next s x)) :
    ∀ s, Inv s → (∀ pre, pre <+: xs → P (M.after s pre)) → M.Guarded guard s xs := by
  induction xs with
  | nil => exact fun _ _ _ => trivial
  | cons x xs ih =>
    intro s h hall
    have hg : guard s x := by
      apply Classical.byContradiction
      intro hn
      exact hbreak s x List.mem_cons_self h hn (hall [x] ⟨xs, rfl⟩)
    refine ⟨hg, ih (fun s y hy => hkeep s y (List.mem_cons_of_mem _ hy))
      (fun s y hy => hbreak s y (List.mem_cons_of_mem _ hy)) _
      (hkeep s x List.mem_cons_self h hg) fun pre hpre => ?_⟩
    have := hall (x :: pre) (List.prefix_cons_inj x |>.mpr hpre)
    rwa [after_cons] at this

/-- **Exact guards.**  If guarded steps keep an invariant `Inv` that implies `P`,
and an unguarded step from `Inv` breaks `P`, then `P` holds in every state
of the run exactly when every step of the run is guarded. -/
theorem always_iff_guarded (guard : σ → ι → Prop) (Inv P : σ → Prop)
    (hP : ∀ s, Inv s → P s)
    (hkeep : ∀ s x, Inv s → guard s x → Inv (M.next s x))
    (hbreak : ∀ s x, Inv s → ¬ guard s x → ¬ P (M.next s x)) (xs : List ι) :
    ∀ s, Inv s → ((∀ pre, pre <+: xs → P (M.after s pre)) ↔ M.Guarded guard s xs) := by
  intro s h
  refine ⟨M.guarded_of_always guard Inv P xs (fun s x _ => hkeep s x) (fun s x _ => hbreak s x) s h,
    fun hrun pre hpre => hP _ (M.inv_of_guarded guard Inv hkeep xs s h hrun pre hpre)⟩

/-! ## Cells -/

/-- A cell of the state that each step either writes or leaves holds the last value
written.  The answers say what is written. -/
theorem after_lastWrite {α : Type} (Inv : σ → Prop) (view : σ → α) (write : ο → Option α)
    (hinv : ∀ s x, Inv s → Inv (M.next s x))
    (hwrite : ∀ s x, Inv s → view (M.next s x) = (write (M.out s x)).getD (view s)) (xs : List ι) :
    ∀ s, Inv s →
      view (M.after s xs) = ((M.outputs s xs).filterMap write).getLast?.getD (view s) := by
  induction xs with
  | nil => intro s _; rfl
  | cons x xs ih =>
    intro s h
    rw [after_cons, ih _ (hinv s x h), hwrite s x h, outputs_cons]
    cases hw : write (M.out s x) with
    | none => rw [List.filterMap_cons_none hw, Option.getD_none]
    | some v => rw [List.filterMap_cons_some hw, List.getLast?_cons, Option.getD_some, Option.getD_some]

/-! ## Inputs that leave the state alone -/

/-- Leaving out inputs that do not move the machine leaves out their answers and
nothing else.  `keep` marks the inputs that stay. -/
theorem outputs_keep (inert : ο → Prop)
    (hinert : ∀ s x, inert (M.out s x) → M.next s x = s) :
    ∀ (xs : List (ι × Bool)) (s : σ),
      (∀ e ∈ xs.zip (M.outputs s (xs.map Prod.fst)), e.1.2 = false → inert e.2) →
      M.outputs s ((xs.filter Prod.snd).map Prod.fst) =
        ((xs.zip (M.outputs s (xs.map Prod.fst))).filter fun e => e.1.2).map Prod.snd := by
  intro xs
  induction xs with
  | nil => intro s _; rfl
  | cons x xs ih =>
    intro s h
    obtain ⟨x, b⟩ := x
    simp only [List.map_cons, outputs_cons, List.zip_cons_cons] at h ⊢
    have hrest := fun e he => h e (List.mem_cons_of_mem _ he)
    cases b with
    | true =>
      simp only [List.filter_cons_of_pos, List.map_cons, outputs_cons]
      rw [ih _ hrest]
    | false =>
      have hx : M.next s x = s := hinert s x (h ((x, false), M.out s x) List.mem_cons_self rfl)
      rw [hx] at hrest ⊢
      rw [List.filter_cons_of_neg (by simp), List.filter_cons_of_neg (by simp)]
      exact ih s hrest

end

/-! ## Simulation -/

/-- A relation that one step of both machines keeps, with equal answers, makes
all answers equal.  `R` also sees the inputs still to come, so that it can
carry conditions on them (an order, a bound). -/
theorem outputs_eq_of_sim {σ α ι ο : Type} (M : Machine σ ι ο) (N : Machine α ι ο)
    (R : List ι → σ → α → Prop)
    (hstep : ∀ x xs s a, R (x :: xs) s a →
      M.out s x = N.out a x ∧ R xs (M.next s x) (N.next a x)) :
    ∀ xs s a, R xs s a → M.outputs s xs = N.outputs a xs := by
  intro xs
  induction xs with
  | nil => intro s a _; rfl
  | cons x xs ih =>
    intro s a h
    obtain ⟨ho, hn⟩ := hstep x xs s a h
    rw [outputs_cons, outputs_cons, ho, ih _ _ hn]

/-- Where some inputs of `M` are inputs of `N`, with answers in the relation `R`, and the others
neither answer nor change what `view` shows, runs of `M` are runs of `N` on the inputs that are
left. -/
theorem run_of_view {σ α ι κ ο ο' : Type} (M : Machine σ ι (Option ο)) (N : Machine α κ ο')
    (Inv : σ → Prop) (view : σ → α) (label : ι → Option κ) (R : ο → ο' → Prop)
    (hinv : ∀ s x, Inv s → Inv (M.next s x))
    (hhidden : ∀ s x, Inv s → label x = none → M.out s x = none ∧ view (M.next s x) = view s)
    (hshown : ∀ s x y, Inv s → label x = some y →
      (∃ o, M.out s x = some o ∧ R o (N.out (view s) y)) ∧ view (M.next s x) = N.next (view s) y)
    (xs : List ι) :
    ∀ s, Inv s → List.Forall₂ R ((M.outputs s xs).filterMap id)
        (N.outputs (view s) (xs.filterMap label)) ∧
      view (M.after s xs) = N.after (view s) (xs.filterMap label) := by
  induction xs with
  | nil => intro s _; exact ⟨.nil, rfl⟩
  | cons x xs ih =>
    intro s h
    obtain ⟨hout, hview⟩ := ih _ (hinv s x h)
    rw [after_cons, outputs_cons, hview]
    cases hl : label x with
    | none =>
      obtain ⟨ho, hn⟩ := hhidden s x h hl
      rw [List.filterMap_cons_none (f := label) hl, ho, List.filterMap_cons_none (f := id) rfl, hn]
      rw [hn] at hout
      exact ⟨hout, rfl⟩
    | some y =>
      obtain ⟨⟨o, ho, hR⟩, hn⟩ := hshown s x y h hl
      rw [List.filterMap_cons_some (f := label) hl, ho, List.filterMap_cons_some (f := id) rfl, hn]
      rw [hn] at hout
      exact ⟨.cons hR hout, rfl⟩

/-- Where each step of `M` is followed by some step of `N`, each run of `M` is followed by a run
of `N`, input for input and answer for answer. -/
theorem exists_run_of_sim {σ α ι κ ο ο' : Type} (M : Machine σ ι ο) (N : Machine α κ ο')
    (R : σ → α → Prop) (label : ι → κ → Prop) (A : ο → ο' → Prop)
    (hstep : ∀ s a x, R s a →
      ∃ y, label x y ∧ A (M.out s x) (N.out a y) ∧ R (M.next s x) (N.next a y)) (xs : List ι) :
    ∀ s a, R s a → ∃ ys, List.Forall₂ label xs ys ∧
      List.Forall₂ A (M.outputs s xs) (N.outputs a ys) ∧ R (M.after s xs) (N.after a ys) := by
  induction xs with
  | nil => exact fun s a h => ⟨[], .nil, .nil, h⟩
  | cons x xs ih =>
    intro s a h
    obtain ⟨y, hlabel, hout, hnext⟩ := hstep s a x h
    obtain ⟨ys, hlabels, houts, hafter⟩ := ih _ _ hnext
    exact ⟨y :: ys, .cons hlabel hlabels, .cons hout houts, hafter⟩

end Machine
