import Mathlib.Algebra.BigOperators.Group.Finset.Basic
import Mathlib.Algebra.Order.BigOperators.Group.Finset
import Mathlib.Data.List.Nodup
import Mathlib.Logic.Function.Basic
import NomadP2P.Lib.Machine

/-!
# A fair read-write lock

Tasks that take and drop guards of one lock, each by a program of its own.  Requests are
served in the order they were made: a request is granted at once only if no other
is waiting, and a dropped guard is handed on to the requests in front of the queue.
So a reader that asks behind a waiting writer waits as well, also if it holds a
guard already; then the two wait for each other.

A state is stuck when every unfinished task waits.  A write request is quiet when no task
that holds a guard or waits has another acquisition to come:

    all write requests of a run are quiet → no state of it is stuck       (not_stuck_of_quiet)
    one is not → the run can be continued to a stuck state                (stuck_of_not_quiet)

The second rule is for programs that hold on to a guard until their last acquisition.
-/

namespace RwLock

/-! ## Algorithm -/

inductive Act
  | read
  | write
  | drop
deriving DecidableEq, Repr

/-- What each task has left to do, the guards that are held (a task occurs once for each),
whether the one guard is a write guard, and the tasks that wait, in order.  A waiting
task has its request in front of its program. -/
structure State (ι : Type) where
  prog : ι → List Act
  guards : List ι
  writing : Bool
  queue : List ι

/-- No guard is held, and no task waits. -/
def State.start {ι : Type} (prog : ι → List Act) : State ι := ⟨prog, [], false, []⟩

section
variable {ι : Type} [DecidableEq ι]

/-- The request in front of the program of `t` goes with the guards that are held. -/
def fits (s : State ι) (t : ι) : Bool :=
  match (s.prog t).head? with
  | some .read => !s.writing
  | some .write => s.guards.isEmpty
  | _ => false

def grant (s : State ι) (t : ι) : State ι :=
  { s with
    prog := Function.update s.prog t (s.prog t).tail
    guards := t :: s.guards
    writing := decide ((s.prog t).head? = some .write) }

/-- Grants what fits in front of the queue. -/
def pump : List ι → State ι → State ι
  | [], s => { s with queue := [] }
  | t :: rest, s => if fits s t then pump rest (grant s t) else { s with queue := t :: rest }

/-- Drops a guard of `t`. -/
def release (s : State ι) (t : ι) : State ι :=
  { s with
    prog := Function.update s.prog t (s.prog t).tail
    guards := s.guards.erase t
    writing := false }

/-- One step of task `t`; a task that waits or has finished does nothing. -/
def step (s : State ι) (t : ι) : State ι :=
  if t ∈ s.queue then s
  else
    match s.prog t with
    | [] => s
    | .drop :: _ => pump s.queue (release s t)
    | _ :: _ => if s.queue = [] ∧ fits s t = true then grant s t else { s with queue := s.queue ++ [t] }

def machine : Machine (State ι) ι Unit where
  step s t := (step s t, ())

/-- Some task has not finished, and all that have not are waiting. -/
def Stuck (s : State ι) : Prop := (∃ t, s.prog t ≠ []) ∧ ∀ t, s.prog t ≠ [] → t ∈ s.queue

/-- No acquisition is to come. -/
def Quiet (p : List Act) : Prop := ∀ a ∈ p, a = .drop

instance (p : List Act) : Decidable (Quiet p) := inferInstanceAs (Decidable (∀ a ∈ p, a = .drop))

/-- If the step is a write request, no task that holds a guard has an acquisition to come,
and no waiting task has one behind the request it waits for. -/
def quietWrite (s : State ι) (t : ι) : Prop :=
  (s.prog t).head? = some .write → t ∉ s.queue →
    (∀ u ∈ s.guards, Quiet (s.prog u)) ∧ ∀ u ∈ s.queue, Quiet (s.prog u).tail

instance (s : State ι) (t : ι) : Decidable (quietWrite s t) :=
  inferInstanceAs (Decidable (_ → _ → _ ∧ _))

/-! ### Programs -/

/-- Run with `n` guards, the program drops no guard it does not have and keeps none. -/
def Balanced : Nat → List Act → Prop
  | n, [] => n = 0
  | n, .drop :: p => ∃ m, n = m + 1 ∧ Balanced m p
  | n, _ :: p => Balanced (n + 1) p

/-- Nothing is acquired behind a write. -/
def WriteLast : List Act → Prop
  | [] => True
  | .write :: p => Quiet p
  | _ :: p => WriteLast p

/-- Run with `n` guards, the program acquires nothing after it has dropped all. -/
def Held : Nat → List Act → Prop
  | _, [] => True
  | n, .drop :: p => (n ≤ 1 → Quiet p) ∧ Held (n - 1) p
  | n, _ :: p => Held (n + 1) p

/-! ## Lemmas -/

theorem Quiet.tail {p : List Act} (h : Quiet p) : Quiet p.tail :=
  fun a ha => h a (List.mem_of_mem_tail ha)

/-- A request is in front of the program. -/
def Requests (p : List Act) : Prop := ∃ a q, p = a :: q ∧ a ≠ .drop

theorem Requests.not_quiet {p : List Act} (h : Requests p) : ¬ Quiet p := by
  obtain ⟨a, q, rfl, ha⟩ := h
  intro hq
  exact ha (hq a List.mem_cons_self)

theorem Requests.length_tail {p : List Act} (h : Requests p) : p.tail.length + 1 = p.length := by
  obtain ⟨a, q, rfl, -⟩ := h
  rfl

omit [DecidableEq ι] in
theorem fits_requests (s : State ι) (t : ι) (h : fits s t = true) : Requests (s.prog t) := by
  unfold fits at h
  cases hp : s.prog t with
  | nil => rw [hp] at h; cases h
  | cons a q =>
    rw [hp] at h
    refine ⟨a, q, rfl, ?_⟩
    rintro rfl
    cases h

omit [DecidableEq ι] in
theorem fits_write (s : State ι) (t : ι) (hw : (s.prog t).head? = some .write) :
    fits s t = true ↔ s.guards = [] := by
  unfold fits
  rw [hw]
  exact List.isEmpty_iff

/-! ### Programs and guards -/

/-- A property of a program and the number of its guards that an acquisition and a drop
keep. -/
structure Keeps (F : Nat → List Act → Prop) : Prop where
  acquire : ∀ n p, Requests p → F n p → F (n + 1) p.tail
  drop : ∀ n q, F n (.drop :: q) → F (n - 1) q

/-- The property holds of every task. -/
def All (F : Nat → List Act → Prop) (s : State ι) : Prop := ∀ t, F (s.guards.count t) (s.prog t)

theorem keeps_balanced : Keeps Balanced where
  acquire n p hreq h := by
    obtain ⟨a, q, rfl, ha⟩ := hreq
    cases a with
    | read => exact h
    | write => exact h
    | drop => exact absurd rfl ha
  drop n q h := by
    obtain ⟨m, rfl, hm⟩ := h
    exact hm

theorem keeps_held : Keeps Held where
  acquire n p hreq h := by
    obtain ⟨a, q, rfl, ha⟩ := hreq
    cases a with
    | read => exact h
    | write => exact h
    | drop => exact absurd rfl ha
  drop n q h := h.2

theorem Quiet.writeLast {p : List Act} (h : Quiet p) : WriteLast p := by
  induction p with
  | nil => exact trivial
  | cons a p ih =>
    obtain rfl := h a List.mem_cons_self
    exact ih h.tail

theorem keeps_writeLast : Keeps fun _ => WriteLast where
  acquire n p hreq h := by
    obtain ⟨a, q, rfl, ha⟩ := hreq
    cases a with
    | read => exact h
    | write => exact Quiet.writeLast h
    | drop => exact absurd rfl ha
  drop n q h := h

theorem grant_prog_self (s : State ι) (t : ι) : (grant s t).prog t = (s.prog t).tail :=
  Function.update_self _ _ _

theorem grant_prog_of_ne (s : State ι) {t u : ι} (h : u ≠ t) : (grant s t).prog u = s.prog u :=
  Function.update_of_ne h _ _

theorem release_prog_self {s : State ι} {t : ι} {q : List Act} (hp : s.prog t = .drop :: q) :
    (release s t).prog t = q := by
  show Function.update s.prog t (s.prog t).tail t = q
  rw [Function.update_self, hp]
  rfl

theorem release_prog_of_ne (s : State ι) {t u : ι} (h : u ≠ t) : (release s t).prog u = s.prog u :=
  Function.update_of_ne h _ _

theorem All.grant {F : Nat → List Act → Prop} {s : State ι} {t : ι} (hF : Keeps F) (h : All F s)
    (hreq : Requests (s.prog t)) : All F (grant s t) := by
  intro u
  show F ((t :: s.guards).count u) _
  by_cases hu : u = t
  · rw [hu, grant_prog_self, List.count_cons_self]
    exact hF.acquire _ _ hreq (h t)
  · rw [grant_prog_of_ne s hu, List.count_cons_of_ne (Ne.symm hu)]
    exact h u

theorem All.release {F : Nat → List Act → Prop} {s : State ι} {t : ι} {q : List Act} (hF : Keeps F)
    (h : All F s) (hp : s.prog t = .drop :: q) : All F (release s t) := by
  intro u
  show F ((s.guards.erase t).count u) _
  by_cases hu : u = t
  · rw [hu, release_prog_self hp, List.count_erase_self]
    exact hF.drop _ _ (hp ▸ h t)
  · rw [release_prog_of_ne s hu, List.count_erase_of_ne hu]
    exact h u

/-! ### What a step does -/

/-- A step: the task waits or has finished; or it drops a guard, and guards are handed on; or
its request is granted; or it has to wait. -/
theorem step_cases (s : State ι) (t : ι) :
    ((t ∈ s.queue ∨ s.prog t = []) ∧ step s t = s) ∨
    (t ∉ s.queue ∧ ∃ q, s.prog t = .drop :: q ∧ step s t = pump s.queue (release s t)) ∨
    (t ∉ s.queue ∧ Requests (s.prog t) ∧
      ((s.queue = [] ∧ fits s t = true ∧ step s t = grant s t) ∨
        (¬ (s.queue = [] ∧ fits s t = true) ∧ step s t = { s with queue := s.queue ++ [t] }))) := by
  by_cases ht : t ∈ s.queue
  · exact Or.inl ⟨Or.inl ht, by rw [step, if_pos ht]⟩
  cases hp : s.prog t with
  | nil => exact Or.inl ⟨Or.inr rfl, by rw [step, if_neg ht, hp]⟩
  | cons a q =>
    by_cases ha : a = .drop
    · subst ha
      exact Or.inr (Or.inl ⟨ht, q, rfl, by rw [step, if_neg ht, hp]⟩)
    · have hstep : step s t =
          if s.queue = [] ∧ fits s t = true then grant s t else { s with queue := s.queue ++ [t] } := by
        rw [step, if_neg ht, hp]
        cases a with
        | read => rfl
        | write => rfl
        | drop => exact absurd rfl ha
      refine Or.inr (Or.inr ⟨ht, ⟨a, q, rfl, ha⟩, ?_⟩)
      by_cases hnow : s.queue = [] ∧ fits s t = true
      · exact Or.inl ⟨hnow.1, hnow.2, by rw [hstep, if_pos hnow]⟩
      · exact Or.inr ⟨hnow, by rw [hstep, if_neg hnow]⟩

/-- What granting the front of the queue keeps, handing guards on keeps. -/
theorem pump_keeps (P : State ι → Prop)
    (hgrant : ∀ s t rest, P { s with queue := t :: rest } → fits s t = true →
      P { grant s t with queue := rest }) (q : List ι) :
    ∀ s : State ι, P { s with queue := q } → P (pump q s) := by
  induction q with
  | nil => exact fun s h => h
  | cons t rest ih =>
    intro s h
    unfold pump
    by_cases hfits : fits s t = true
    · rw [if_pos hfits]
      exact ih _ (hgrant s t rest h hfits)
    · rw [if_neg hfits]
      exact h

/-- The request in front of the queue does not fit. -/
def FrontBlocked (s : State ι) : Prop := ∀ t rest, s.queue = t :: rest → fits s t = false

theorem frontBlocked_pump (q : List ι) : ∀ s : State ι, FrontBlocked (pump q s) := by
  induction q with
  | nil =>
    intro s t rest hq
    cases hq
  | cons t rest ih =>
    intro s
    unfold pump
    by_cases hfits : fits s t = true
    · rw [if_pos hfits]
      exact ih _
    · rw [if_neg hfits]
      intro u rest' hq
      obtain ⟨rfl, rfl⟩ := List.cons.inj hq
      exact Bool.eq_false_iff.mpr hfits

theorem frontBlocked_step {s : State ι} (t : ι) (h : FrontBlocked s) : FrontBlocked (step s t) := by
  rcases step_cases s t with ⟨-, hstep⟩ | ⟨-, q, -, hstep⟩ | ⟨-, -, ⟨hnil, -, hstep⟩ | ⟨hnow, hstep⟩⟩
  · rw [hstep]
    exact h
  · rw [hstep]
    exact frontBlocked_pump _ _
  · rw [hstep]
    intro u rest hq
    replace hq : s.queue = u :: rest := hq
    rw [hnil] at hq
    cases hq
  · rw [hstep]
    intro u rest hq
    replace hq : s.queue ++ [t] = u :: rest := hq
    cases hqueue : s.queue with
    | nil =>
      rw [hqueue] at hq
      obtain ⟨rfl, -⟩ := List.cons.inj hq
      exact Bool.eq_false_iff.mpr fun hf => hnow ⟨hqueue, hf⟩
    | cons v rest' =>
      rw [hqueue] at hq
      obtain ⟨rfl, -⟩ := List.cons.inj hq
      exact h v rest' hqueue

omit [DecidableEq ι] in
theorem nodup_snoc {s : State ι} {t : ι} (h : s.queue.Nodup) (ht : t ∉ s.queue) :
    (s.queue ++ [t]).Nodup := by
  rw [List.nodup_append]
  refine ⟨h, List.nodup_singleton t, fun u hu v hv => ?_⟩
  rw [List.mem_singleton.mp hv]
  exact fun he => ht (he ▸ hu)

/-- The tasks behind the front of the queue keep their programs. -/
theorem grant_prog_of_mem {s : State ι} {t u : ι} {rest : List ι} (hnodup : (t :: rest).Nodup)
    (hu : u ∈ rest) : (grant s t).prog u = s.prog u :=
  grant_prog_of_ne s fun he => (List.nodup_cons.mp hnodup).1 (he ▸ hu)

/-! ## Quiet runs -/

/-- What a quiet run keeps, but for the front of the queue. -/
structure Ordered (s : State ι) : Prop where
  balanced : ∀ t, Balanced (s.guards.count t) (s.prog t)
  last : ∀ t, WriteLast (s.prog t)
  requests : ∀ t ∈ s.queue, Requests (s.prog t)
  nodup : s.queue.Nodup
  /-- who holds a guard or waits in front of a write request acquires nothing more -/
  ahead : ∀ pre w post, s.queue = pre ++ w :: post → (s.prog w).head? = some .write →
    (∀ u ∈ s.guards, Quiet (s.prog u)) ∧ ∀ u ∈ pre, Quiet (s.prog u).tail
  writer : s.writing = true → s.guards ≠ [] ∧ ∀ u ∈ s.guards, Quiet (s.prog u)

theorem Ordered.grant_front {s : State ι} {t : ι} {rest : List ι}
    (h : Ordered { s with queue := t :: rest }) (hfits : fits s t = true) :
    Ordered { grant s t with queue := rest } := by
  have hreq := fits_requests s t hfits
  have hother : ∀ u ∈ rest, (grant s t).prog u = s.prog u := fun u hu => grant_prog_of_mem h.nodup hu
  refine ⟨All.grant keeps_balanced h.balanced hreq, All.grant keeps_writeLast h.last hreq, ?_,
    (List.nodup_cons.mp h.nodup).2, ?_, ?_⟩
  · intro u hu
    show Requests ((grant s t).prog u)
    rw [hother u hu]
    exact h.requests u (List.mem_cons_of_mem _ hu)
  · intro pre w post hsplit hw
    replace hsplit : rest = pre ++ w :: post := hsplit
    have hpre : ∀ u ∈ pre, u ∈ rest := fun u hu => hsplit ▸ List.mem_append_left _ hu
    have hwrest : w ∈ rest := hsplit ▸ List.mem_append_right _ List.mem_cons_self
    replace hw : ((grant s t).prog w).head? = some .write := hw
    rw [hother w hwrest] at hw
    obtain ⟨hguards, hahead⟩ := h.ahead (t :: pre) w post (by rw [hsplit]; rfl) hw
    constructor
    · intro u hu
      show Quiet ((grant s t).prog u)
      by_cases hut : u = t
      · rw [hut, grant_prog_self]
        exact hahead t List.mem_cons_self
      · rw [grant_prog_of_ne s hut]
        exact hguards u ((List.mem_cons.mp hu).resolve_left hut)
    · intro u hu
      show Quiet ((grant s t).prog u).tail
      rw [hother u (hpre u hu)]
      exact hahead u (List.mem_cons_of_mem _ hu)
  · intro hwriting
    have hwrite : (s.prog t).head? = some .write := of_decide_eq_true hwriting
    refine ⟨List.cons_ne_nil _ _, fun u hu => ?_⟩
    have hut : u = t := by
      replace hu : u ∈ t :: s.guards := hu
      rw [(fits_write s t hwrite).mp hfits] at hu
      exact List.mem_singleton.mp hu
    show Quiet ((grant s t).prog u)
    rw [hut, grant_prog_self]
    obtain ⟨a, q, hp, -⟩ := hreq
    have hlast : WriteLast (s.prog t) := h.last t
    rw [hp] at hwrite hlast ⊢
    obtain rfl := Option.some.inj hwrite
    exact hlast

theorem Ordered.release {s : State ι} {t : ι} {q : List Act} (h : Ordered s) (ht : t ∉ s.queue)
    (hp : s.prog t = .drop :: q) : Ordered (release s t) := by
  have hqueue : ∀ u ∈ s.queue, (RwLock.release s t).prog u = s.prog u :=
    fun u hu => release_prog_of_ne s (fun he => ht (he ▸ hu))
  refine ⟨All.release keeps_balanced h.balanced hp, All.release keeps_writeLast h.last hp, ?_, h.nodup,
    ?_, fun hw => by cases hw⟩
  · intro u hu
    show Requests ((RwLock.release s t).prog u)
    rw [hqueue u hu]
    exact h.requests u hu
  · intro pre w post hsplit hw
    replace hsplit : s.queue = pre ++ w :: post := hsplit
    replace hw : ((RwLock.release s t).prog w).head? = some .write := hw
    rw [hqueue w (hsplit ▸ List.mem_append_right _ List.mem_cons_self)] at hw
    obtain ⟨hguards, hahead⟩ := h.ahead pre w post hsplit hw
    constructor
    · intro u hu
      have hmem : u ∈ s.guards := List.mem_of_mem_erase hu
      show Quiet ((RwLock.release s t).prog u)
      by_cases hut : u = t
      · have hquiet := (hguards u hmem).tail
        rw [hut, hp] at hquiet
        rw [hut, release_prog_self hp]
        exact hquiet
      · rw [release_prog_of_ne s hut]
        exact hguards u hmem
    · intro u hu
      show Quiet ((RwLock.release s t).prog u).tail
      rw [hqueue u (hsplit ▸ List.mem_append_left _ hu)]
      exact hahead u hu

theorem Ordered.enqueue {s : State ι} {t : ι} (h : Ordered s) (ht : t ∉ s.queue)
    (hreq : Requests (s.prog t)) (hquiet : quietWrite s t) :
    Ordered { s with queue := s.queue ++ [t] } := by
  refine ⟨h.balanced, h.last, ?_, nodup_snoc h.nodup ht, ?_, h.writer⟩
  · intro u hu
    rcases List.mem_append.mp hu with hu | hu
    · exact h.requests u hu
    · rw [List.mem_singleton.mp hu]
      exact hreq
  · intro pre w post hsplit hw
    replace hsplit : s.queue ++ [t] = pre ++ w :: post := hsplit
    rcases List.eq_nil_or_concat post with rfl | ⟨post', x, rfl⟩
    · -- the new request
      obtain ⟨hpre, hwt⟩ := List.append_inj' hsplit rfl
      obtain rfl := (List.cons.inj hwt).1
      rw [← hpre]
      exact hquiet hw ht
    · -- an old one
      rw [List.concat_eq_append, ← List.cons_append, ← List.append_assoc] at hsplit
      exact h.ahead pre w post' (List.append_inj' hsplit rfl).1 hw

theorem Ordered.step {s : State ι} {t : ι} (h : Ordered s) (hquiet : quietWrite s t) :
    Ordered (step s t) := by
  rcases step_cases s t with
    ⟨-, hstep⟩ | ⟨ht, q, hp, hstep⟩ | ⟨ht, hreq, ⟨hnil, hfits, hstep⟩ | ⟨-, hstep⟩⟩
  · rw [hstep]
    exact h
  · rw [hstep]
    exact pump_keeps Ordered (fun _ _ _ h hfits => h.grant_front hfits) _ _ (h.release ht hp)
  · -- as if it had been in the queue
    have henq := h.enqueue ht hreq hquiet
    rw [hnil] at henq
    have hgrant := henq.grant_front hfits
    rw [hstep, show grant s t = { grant s t with queue := [] } by rw [← hnil]; rfl]
    exact hgrant
  · rw [hstep]
    exact h.enqueue ht hreq hquiet

/-- Who holds a guard has not finished. -/
theorem Ordered.holder_unfinished {s : State ι} (h : Ordered s) (u : ι) (hu : u ∈ s.guards) :
    s.prog u ≠ [] := by
  intro hp
  have hb := h.balanced u
  rw [hp] at hb
  exact (List.count_pos_iff.mpr hu).ne' hb

/-- The request in front of the queue is a read under a writer, or a write. -/
theorem Ordered.front_waits {s : State ι} (h : Ordered s) (hfront : FrontBlocked s) {t : ι}
    {rest : List ι} (hqueue : s.queue = t :: rest) :
    s.writing = true ∨ (s.prog t).head? = some .write ∧ s.guards ≠ [] := by
  have hblocked := hfront t rest hqueue
  obtain ⟨a, q, hp, ha⟩ := h.requests t (by rw [hqueue]; exact List.mem_cons_self)
  cases a with
  | read =>
    left
    unfold fits at hblocked
    rw [hp] at hblocked
    simpa using hblocked
  | write =>
    have hw : (s.prog t).head? = some .write := by rw [hp]; rfl
    refine Or.inr ⟨hw, fun hnil => ?_⟩
    rw [(fits_write s t hw).mpr hnil] at hblocked
    cases hblocked
  | drop => exact absurd rfl ha

/-- A holder does not wait: the request in front of it would be a read under a writer, or a
write, and behind both there are quiet holders only. -/
theorem Ordered.holder_not_waiting {s : State ι} (h : Ordered s) (hfront : FrontBlocked s) (u : ι)
    (hu : u ∈ s.guards) : u ∉ s.queue := by
  intro hq
  have hnot := (h.requests u hq).not_quiet
  cases hqueue : s.queue with
  | nil => rw [hqueue] at hq; cases hq
  | cons t rest =>
    rcases h.front_waits hfront hqueue with hwriting | ⟨hw, -⟩
    · exact hnot ((h.writer hwriting).2 u hu)
    · exact hnot ((h.ahead [] t rest hqueue hw).1 u hu)

theorem Ordered.not_stuck {s : State ι} (h : Ordered s) (hfront : FrontBlocked s) : ¬ Stuck s := by
  rintro ⟨⟨t, ht⟩, hall⟩
  have hq := hall t ht
  cases hqueue : s.queue with
  | nil => rw [hqueue] at hq; cases hq
  | cons f rest =>
    have hheld : s.guards ≠ [] := by
      rcases h.front_waits hfront hqueue with hwriting | ⟨-, hheld⟩
      · exact (h.writer hwriting).1
      · exact hheld
    obtain ⟨u, hu⟩ := List.exists_mem_of_ne_nil _ hheld
    exact h.holder_not_waiting hfront u hu (hall u (h.holder_unfinished u hu))

theorem ordered_start (prog : ι → List Act) (hb : ∀ t, Balanced 0 (prog t))
    (hw : ∀ t, WriteLast (prog t)) : Ordered (State.start prog) ∧ FrontBlocked (State.start prog) := by
  refine ⟨⟨hb, hw, ?_, List.nodup_nil, ?_, ?_⟩, ?_⟩
  · intro t ht
    cases ht
  · intro pre w post hsplit
    replace hsplit : [] = pre ++ w :: post := hsplit
    simp at hsplit
  · intro h
    cases h
  · intro t rest h
    cases h

/-- **Quiet runs.**  If every write request of a run is quiet, no state of the run is stuck. -/
theorem not_stuck_of_quiet (prog : ι → List Act) (hb : ∀ t, Balanced 0 (prog t))
    (hw : ∀ t, WriteLast (prog t)) (ts : List ι)
    (hquiet : machine.Guarded quietWrite (State.start prog) ts) :
    ∀ pre, pre <+: ts → ¬ Stuck (machine.after (State.start prog) pre) := by
  intro pre hpre
  obtain ⟨h, hfront⟩ := machine.inv_of_guarded quietWrite (fun s => Ordered s ∧ FrontBlocked s)
    (fun s t hinv hq => ⟨hinv.1.step hq, frontBlocked_step t hinv.2⟩) ts _ (ordered_start prog hb hw)
    hquiet pre hpre
  exact h.not_stuck hfront

/-! ## Runs that are not quiet -/

/-- What every run keeps. -/
structure Wellformed (s : State ι) : Prop where
  held : ∀ t, Held (s.guards.count t) (s.prog t)
  nodup : s.queue.Nodup

theorem Wellformed.grant_front {s : State ι} {t : ι} {rest : List ι}
    (h : Wellformed { s with queue := t :: rest }) (hfits : fits s t = true) :
    Wellformed { grant s t with queue := rest } :=
  ⟨All.grant keeps_held h.held (fits_requests s t hfits), (List.nodup_cons.mp h.nodup).2⟩

theorem Wellformed.step {s : State ι} (t : ι) (h : Wellformed s) : Wellformed (step s t) := by
  rcases step_cases s t with
    ⟨-, hstep⟩ | ⟨-, q, hp, hstep⟩ | ⟨ht, hreq, ⟨-, -, hstep⟩ | ⟨-, hstep⟩⟩
  · rw [hstep]
    exact h
  · rw [hstep]
    have hrelease : Wellformed (release s t) := ⟨All.release keeps_held h.held hp, h.nodup⟩
    exact pump_keeps Wellformed (fun _ _ _ h hfits => h.grant_front hfits) _ _ hrelease
  · rw [hstep]
    exact ⟨All.grant keeps_held h.held hreq, h.nodup⟩
  · rw [hstep]
    exact ⟨h.held, nodup_snoc h.nodup ht⟩

/-- Task `h` stands in the way of a write request behind `pre`: it holds a guard, or is
going to before the request is served, and has an acquisition to come after that. -/
def InTheWay (s : State ι) (pre : List ι) (h : ι) : Prop :=
  (h ∈ s.guards ∧ h ∉ pre ∧ ¬ Quiet (s.prog h)) ∨ (h ∈ pre ∧ ¬ Quiet (s.prog h).tail)

/-- A write request waits that some task stands in the way of. -/
def Doomed (s : State ι) : Prop :=
  ∃ pre w post h, s.queue = pre ++ w :: post ∧ (s.prog w).head? = some .write ∧ InTheWay s pre h

/-- Granting the front of the queue serves no doomed write, and clears no way. -/
theorem Doomed.grant_front {s : State ι} {x : ι} {rest : List ι}
    (hnodup : (x :: rest).Nodup) (hd : Doomed { s with queue := x :: rest }) (hfits : fits s x = true) :
    Doomed { grant s x with queue := rest } := by
  obtain ⟨pre, w, post, h, hqueue, hw, hway⟩ := hd
  replace hqueue : x :: rest = pre ++ w :: post := hqueue
  cases pre with
  | nil =>
    -- the write itself: a guard is held, and it does not fit
    obtain ⟨rfl, -⟩ := List.cons.inj hqueue
    rcases hway with ⟨hheld, -⟩ | ⟨hpre, -⟩
    · replace hheld : h ∈ s.guards := hheld
      rw [(fits_write s x hw).mp hfits] at hheld
      cases hheld
    · cases hpre
  | cons y pre =>
    obtain ⟨rfl, rfl⟩ := List.cons.inj hqueue
    have hx := (List.nodup_cons.mp hnodup).1
    refine ⟨pre, w, post, h, rfl, ?_, ?_⟩
    · show ((grant s x).prog w).head? = _
      rw [grant_prog_of_mem hnodup (List.mem_append_right _ List.mem_cons_self)]
      exact hw
    by_cases hhx : h = x
    · -- `h` has got its guard and goes on to its next acquisition
      subst hhx
      have hmore := hway.resolve_left fun hheld => hheld.2.1 List.mem_cons_self
      refine Or.inl ⟨List.mem_cons_self, fun hm => hx (List.mem_append_left _ hm), ?_⟩
      show ¬ Quiet ((grant s h).prog h)
      rw [grant_prog_self]
      exact hmore.2
    · have hprog : (grant s x).prog h = s.prog h := grant_prog_of_ne s hhx
      rcases hway with ⟨hheld, hpre, hnot⟩ | ⟨hpre, hnot⟩
      · refine Or.inl ⟨List.mem_cons_of_mem _ hheld, fun hm => hpre (List.mem_cons_of_mem _ hm), ?_⟩
        show ¬ Quiet ((grant s x).prog h)
        rw [hprog]
        exact hnot
      · refine Or.inr ⟨(List.mem_cons.mp hpre).resolve_left hhx, ?_⟩
        show ¬ Quiet ((grant s x).prog h).tail
        rw [hprog]
        exact hnot

/-- The guard that stands in the way is not dropped before the next acquisition. -/
theorem InTheWay.release {s : State ι} {t h : ι} {pre : List ι} {q : List Act} (hs : Wellformed s)
    (ht : t ∉ pre) (hp : s.prog t = .drop :: q) (hway : InTheWay s pre h) :
    InTheWay (release s t) pre h := by
  rcases hway with ⟨hheld, hpre, hnot⟩ | ⟨hpre, hnot⟩
  · by_cases hht : h = t
    · have hmore : ¬ Quiet q := by
        intro hq
        rw [hht, hp] at hnot
        exact hnot fun a ha => (List.mem_cons.mp ha).elim id (hq a)
      have hcount : 1 < s.guards.count t := by
        have hkeep := hs.held t
        rw [hp] at hkeep
        by_contra hle
        exact hmore (hkeep.1 (by omega))
      refine Or.inl ⟨?_, hpre, ?_⟩
      · show h ∈ s.guards.erase t
        rw [hht, ← List.count_pos_iff, List.count_erase_self]
        omega
      · rw [hht, release_prog_self hp]
        exact hmore
    · refine Or.inl ⟨(List.mem_erase_of_ne hht).mpr hheld, hpre, ?_⟩
      rw [release_prog_of_ne s hht]
      exact hnot
  · have hht : h ≠ t := fun he => ht (he ▸ hpre)
    refine Or.inr ⟨hpre, ?_⟩
    rw [release_prog_of_ne s hht]
    exact hnot

theorem Doomed.step {s : State ι} (t : ι) (hs : Wellformed s) (hd : Doomed s) : Doomed (step s t) := by
  rcases step_cases s t with
    ⟨-, hstep⟩ | ⟨ht, q, hp, hstep⟩ | ⟨-, -, ⟨hnil, -, -⟩ | ⟨-, hstep⟩⟩
  · rw [hstep]
    exact hd
  · obtain ⟨pre, w, post, h, hqueue, hw, hway⟩ := hd
    have hpre : t ∉ pre := fun hm => ht (hqueue ▸ List.mem_append_left _ hm)
    have hwt : w ≠ t := fun he => ht (he ▸ hqueue ▸ List.mem_append_right _ List.mem_cons_self)
    have hrelease : Doomed (release s t) :=
      ⟨pre, w, post, h, hqueue, by rw [release_prog_of_ne s hwt]; exact hw, hway.release hs hpre hp⟩
    rw [hstep]
    refine (pump_keeps (fun s => s.queue.Nodup ∧ Doomed s) ?_ s.queue (release s t)
      ⟨hs.nodup, hrelease⟩).2
    intro s x rest h hfits
    exact ⟨(List.nodup_cons.mp h.1).2, h.2.grant_front h.1 hfits⟩
  · obtain ⟨pre, w, post, h, hqueue, -, -⟩ := hd
    rw [hnil] at hqueue
    simp at hqueue
  · obtain ⟨pre, w, post, h, hqueue, hw, hway⟩ := hd
    rw [hstep]
    refine ⟨pre, w, post ++ [t], h, ?_, hw, hway⟩
    show s.queue ++ [t] = _
    rw [hqueue, List.append_assoc, List.cons_append]

/-- A write request that is not quiet. -/
theorem doomed_of_not_quietWrite {s : State ι} {t : ι} (h : Ordered s) (hfront : FrontBlocked s)
    (hnot : ¬ quietWrite s t) : Doomed (step s t) := by
  unfold quietWrite at hnot
  push Not at hnot
  obtain ⟨hw, ht, hway⟩ := hnot
  rcases step_cases s t with
    ⟨hidle, -⟩ | ⟨-, q', hp', -⟩ | ⟨-, -, ⟨hnil, hfits, -⟩ | ⟨-, hstep⟩⟩
  · rcases hidle with hidle | hidle
    · exact absurd hidle ht
    · rw [hidle] at hw
      cases hw
  · rw [hp'] at hw
    cases hw
  · obtain ⟨u, hu, -⟩ := hway (by rw [(fits_write s t hw).mp hfits]; simp)
    rw [hnil] at hu
    cases hu
  · rw [hstep]
    by_cases hguards : ∀ u ∈ s.guards, Quiet (s.prog u)
    · obtain ⟨u, hu, hmore⟩ := hway hguards
      exact ⟨s.queue, t, [], u, rfl, hw, Or.inr ⟨hu, hmore⟩⟩
    · push Not at hguards
      obtain ⟨u, hu, hmore⟩ := hguards
      exact ⟨s.queue, t, [], u, rfl, hw, Or.inl ⟨hu, h.holder_not_waiting hfront u hu, hmore⟩⟩

/-! ### How far a run can go -/

/-- Steps that task `t` has left, at most. -/
def weight (s : State ι) (t : ι) : Nat := 2 * (s.prog t).length + if t ∈ s.queue then 0 else 1

theorem weight_grant_self (s : State ι) (t : ι) (hreq : Requests (s.prog t)) :
    2 * ((grant s t).prog t).length + 2 = 2 * (s.prog t).length := by
  have hlen := hreq.length_tail
  rw [grant_prog_self]
  omega

theorem weight_grant_front {s : State ι} {t : ι} {rest : List ι} (hnodup : (t :: rest).Nodup)
    (hfits : fits s t = true) (u : ι) :
    weight { grant s t with queue := rest } u ≤ weight { s with queue := t :: rest } u := by
  show 2 * ((grant s t).prog u).length + (if u ∈ rest then 0 else 1) ≤
    2 * (s.prog u).length + if u ∈ t :: rest then 0 else 1
  by_cases hu : u = t
  · have hlen := weight_grant_self s t (fits_requests s t hfits)
    rw [hu, if_neg (List.nodup_cons.mp hnodup).1, if_pos List.mem_cons_self]
    omega
  · rw [grant_prog_of_ne s hu]
    simp [hu]

theorem weight_pump_le (q : List ι) (s : State ι) (hnodup : q.Nodup) (u : ι) :
    weight (pump q s) u ≤ weight { s with queue := q } u := by
  refine (pump_keeps (fun s' => s'.queue.Nodup ∧ weight s' u ≤ weight { s with queue := q } u) ?_ q s
    ⟨hnodup, le_refl _⟩).2
  intro s' t rest h hfits
  exact ⟨(List.nodup_cons.mp h.1).2, (weight_grant_front h.1 hfits u).trans h.2⟩

/-- A task that neither waits nor has finished gets on, and takes nothing from the others. -/
theorem weight_step (s : State ι) (t : ι) (hs : Wellformed s) (ht : t ∉ s.queue) (hp : s.prog t ≠ []) :
    (∀ u, u ≠ t → weight (step s t) u ≤ weight s u) ∧ weight (step s t) t < weight s t := by
  rcases step_cases s t with
    ⟨hidle, -⟩ | ⟨-, q, hpq, hstep⟩ | ⟨-, hreq, ⟨-, -, hstep⟩ | ⟨-, hstep⟩⟩
  · exact (hidle.elim ht hp).elim
  · have hpump := weight_pump_le s.queue (release s t) hs.nodup
    rw [hstep]
    constructor
    · intro u hu
      refine (hpump u).trans ?_
      show 2 * ((release s t).prog u).length + _ ≤ _
      rw [release_prog_of_ne s hu]
      exact le_refl _
    · refine (hpump t).trans_lt ?_
      show 2 * ((release s t).prog t).length + (if t ∈ s.queue then 0 else 1) <
        2 * (s.prog t).length + (if t ∈ s.queue then 0 else 1)
      rw [release_prog_self hpq, hpq, List.length_cons]
      omega
  · have hlen := weight_grant_self s t hreq
    rw [hstep]
    constructor
    · intro u hu
      show 2 * ((grant s t).prog u).length + _ ≤ _
      rw [grant_prog_of_ne s hu]
      exact le_refl _
    · show 2 * ((grant s t).prog t).length + (if t ∈ s.queue then 0 else 1) <
        2 * (s.prog t).length + (if t ∈ s.queue then 0 else 1)
      omega
  · rw [hstep]
    constructor
    · intro u hu
      show 2 * _ + (if u ∈ s.queue ++ [t] then 0 else 1) ≤ 2 * _ + (if u ∈ s.queue then 0 else 1)
      simp [hu]
    · show 2 * (s.prog t).length + (if t ∈ s.queue ++ [t] then 0 else 1) <
        2 * (s.prog t).length + (if t ∈ s.queue then 0 else 1)
      rw [if_pos (List.mem_append_right _ List.mem_cons_self), if_neg ht]
      omega

theorem sum_weight_step [Fintype ι] (s : State ι) (t : ι) (hs : Wellformed s) (ht : t ∉ s.queue)
    (hp : s.prog t ≠ []) : ∑ u, weight (step s t) u < ∑ u, weight s u := by
  obtain ⟨hle, hlt⟩ := weight_step s t hs ht hp
  refine Finset.sum_lt_sum (fun u _ => ?_) ⟨t, Finset.mem_univ t, hlt⟩
  by_cases hu : u = t
  · rw [hu]
    exact hlt.le
  · exact hle u hu

omit [DecidableEq ι] in
theorem Doomed.unfinished {s : State ι} (hd : Doomed s) : ∃ w, s.prog w ≠ [] := by
  obtain ⟨pre, w, post, h, -, hw, -⟩ := hd
  refine ⟨w, fun hnil => ?_⟩
  rw [hnil] at hw
  cases hw

/-- From a doomed state, letting tasks go on as long as one can ends stuck. -/
theorem stuck_of_doomed [Fintype ι] (n : Nat) :
    ∀ s : State ι, ∑ t, weight s t ≤ n → Wellformed s → Doomed s →
      ∃ more, Stuck (machine.after s more) := by
  induction n with
  | zero =>
    intro s hn _ hd
    -- the waiting writer has something left
    obtain ⟨w, hw⟩ := hd.unfinished
    have hle := Finset.single_le_sum (fun t _ => Nat.zero_le (weight s t)) (Finset.mem_univ w)
    have hpos := List.length_pos_of_ne_nil hw
    unfold weight at hle hn
    omega
  | succ n ih =>
    intro s hn hs hd
    by_cases hgo : ∃ t, t ∉ s.queue ∧ s.prog t ≠ []
    · obtain ⟨t, ht, hp⟩ := hgo
      have hsum := sum_weight_step s t hs ht hp
      obtain ⟨more, hmore⟩ := ih (step s t) (by omega) (hs.step t) (hd.step t hs)
      exact ⟨t :: more, hmore⟩
    · push Not at hgo
      refine ⟨[], hd.unfinished, fun t hp => ?_⟩
      by_contra ht
      exact hp (hgo t ht)

theorem exists_stuck [Fintype ι] (ts : List ι) :
    ∀ s : State ι, Ordered s → FrontBlocked s → Wellformed s → ¬ machine.Guarded quietWrite s ts →
      ∃ more, Stuck (machine.after s (ts ++ more)) := by
  induction ts with
  | nil => exact fun s _ _ _ h => absurd trivial h
  | cons t ts ih =>
    intro s h hfront hs hnot
    by_cases hquiet : quietWrite s t
    · exact ih _ (h.step hquiet) (frontBlocked_step t hfront) (hs.step t) fun hg => hnot ⟨hquiet, hg⟩
    · have hd : Wellformed (step s t) ∧ Doomed (step s t) :=
        ⟨hs.step t, doomed_of_not_quietWrite h hfront hquiet⟩
      obtain ⟨hs', hd'⟩ := machine.inv_after (fun s => Wellformed s ∧ Doomed s) ts
        (fun s t _ h => ⟨h.1.step t, h.2.step t h.1⟩) _ hd
      obtain ⟨more, hmore⟩ := stuck_of_doomed _ _ (le_refl _) hs' hd'
      refine ⟨more, ?_⟩
      rw [List.cons_append, Machine.after_cons, Machine.after_append]
      exact hmore

/-- **Runs that are not quiet.**  If a write request of a run is not quiet, the run can be
continued to a stuck state. -/
theorem stuck_of_not_quiet [Fintype ι] (prog : ι → List Act) (hb : ∀ t, Balanced 0 (prog t))
    (hw : ∀ t, WriteLast (prog t)) (hh : ∀ t, Held 0 (prog t)) (ts : List ι)
    (hnot : ¬ machine.Guarded quietWrite (State.start prog) ts) :
    ∃ more, Stuck (machine.after (State.start prog) (ts ++ more)) := by
  obtain ⟨h, hfront⟩ := ordered_start prog hb hw
  exact exists_stuck ts _ h hfront ⟨hh, List.nodup_nil⟩ hnot

end

end RwLock
