import Mathlib.Data.List.Basic

/-!
# Distinct elements in order of first occurrence

`l.eraseDups` against a filter: how the list of distinct elements that pass a test
grows when a loop looks at the elements one by one,

    p a:      (a :: l).eraseDups.filter p = a :: l.eraseDups.filter (p · && · ≠ a)
    ¬ p a:    (a :: l).eraseDups.filter p = l.eraseDups.filter p
-/

namespace Dedup

variable {α : Type} [DecidableEq α]

theorem eraseDups_filter (p : α → Bool) (l : List α) :
    (l.filter p).eraseDups = l.eraseDups.filter p := by
  -- `eraseDups` recurses on a filtered tail, so the induction is on the length
  induction hn : l.length using Nat.strongRecOn generalizing l with
  | ind n ih =>
    cases l with
    | nil => rfl
    | cons a l =>
      have hlt : (l.filter fun b => !b == a).length < n := by
        rw [← hn, List.length_cons]
        exact Nat.lt_succ_of_le (List.length_filter_le _ _)
      have htail := ih _ hlt (l.filter fun b => !b == a) rfl
      rw [List.filter_filter] at htail
      by_cases hp : p a = true
      · rw [List.filter_cons_of_pos hp, List.eraseDups_cons, List.eraseDups_cons,
          List.filter_cons_of_pos hp, ← htail, List.filter_filter]
        simp only [Bool.and_comm]
      · rw [List.filter_cons_of_neg hp, List.eraseDups_cons, List.filter_cons_of_neg hp, ← htail]
        congr 1
        apply List.filter_congr
        intro b _
        by_cases hb : b = a
        · subst hb
          simp [hp]
        · simp [hb]

theorem nodup_eraseDups (l : List α) : l.eraseDups.Nodup := by
  induction hn : l.length using Nat.strongRecOn generalizing l with
  | ind n ih =>
    cases l with
    | nil => exact List.nodup_nil
    | cons a l =>
      have hlt : (l.filter fun b => !b == a).length < n := by
        rw [← hn, List.length_cons]
        exact Nat.lt_succ_of_le (List.length_filter_le _ _)
      rw [List.eraseDups_cons, List.nodup_cons]
      refine ⟨?_, ih _ hlt _ rfl⟩
      rw [List.mem_eraseDups, List.mem_filter]
      simp

theorem filter_eraseDups_cons_of_pos (p : α → Bool) (a : α) (l : List α) (h : p a = true) :
    (a :: l).eraseDups.filter p = a :: l.eraseDups.filter fun b => p b && !b == a := by
  rw [List.eraseDups_cons, List.filter_cons_of_pos h, eraseDups_filter, List.filter_filter]

theorem filter_eraseDups_cons_of_neg (p : α → Bool) (a : α) (l : List α) (h : p a = false) :
    (a :: l).eraseDups.filter p = l.eraseDups.filter p := by
  rw [List.eraseDups_cons, List.filter_cons_of_neg (by simp [h]), eraseDups_filter, List.filter_filter]
  apply List.filter_congr
  intro b _
  by_cases hb : b = a
  · subst hb
    simp [h]
  · simp [hb]

end Dedup
