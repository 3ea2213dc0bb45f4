import Mathlib.Data.Set.Insert
import Mathlib.Order.Basic

/-!
# Expiring records: a pruned store against the full history

Admissions are recorded as (key, stamp) pairs.  A stamp is live up to some
time and dead from then on (`Expiry.live_anti`), so a store may throw dead
records away.  `Tracks L C H` says that the store `C` and the history `H` have the
same records with a live stamp.  It survives the passing of time (`later`),
throwing away the dead (`retain`) and recording admissions in both (`union`,
`record`), and it is all a lookup needs:

    Tracks L C H → ((∃ s, (k, s) ∈ C ∧ L s) ↔ ∃ s, (k, s) ∈ H ∧ L s)      (holds_iff)
-/

/-- When a stamp counts: `live now s`, never again once it has stopped. -/
structure Expiry (τ S : Type) [Preorder τ] where
  live : τ → S → Prop
  live_anti : ∀ {now later : τ} {s : S}, now ≤ later → live later s → live now s

/-- The store `C` and the history `H` agree on the records whose stamp is in `L`. -/
def Tracks {κ S : Type} (L : S → Prop) (C H : Set (κ × S)) : Prop :=
  ∀ e, L e.2 → (e ∈ C ↔ e ∈ H)

namespace Tracks

variable {κ S : Type} {L L' : S → Prop} {C H : Set (κ × S)}

theorem refl (C : Set (κ × S)) : Tracks L C C := fun _ _ => Iff.rfl

/-- Fewer live stamps, less to agree on. -/
theorem mono (h : Tracks L C H) (hL : ∀ s, L' s → L s) : Tracks L' C H :=
  fun e he => h e (hL _ he)

theorem later {τ : Type} [Preorder τ] (E : Expiry τ S) {now next : τ} (hle : now ≤ next)
    (h : Tracks (E.live now) C H) : Tracks (E.live next) C H :=
  h.mono fun _ hs => E.live_anti hle hs

/-- Dead records may go. -/
theorem retain (h : Tracks L C H) : Tracks L {e | e ∈ C ∧ L e.2} H := by
  intro e he
  rw [← h e he]
  exact ⟨fun hc => hc.1, fun hc => ⟨hc, he⟩⟩

/-- Admissions recorded in both. -/
theorem union (h : Tracks L C H) (D : Set (κ × S)) : Tracks L (C ∪ D) (H ∪ D) := by
  intro e he
  rw [Set.mem_union, Set.mem_union, h e he]

theorem record (h : Tracks L C H) (e : κ × S) : Tracks L (insert e C) (insert e H) := by
  rw [← Set.union_singleton, ← Set.union_singleton]
  exact h.union {e}

/-- A lookup among live records sees the history. -/
theorem holds_iff (h : Tracks L C H) (k : κ) :
    (∃ s, (k, s) ∈ C ∧ L s) ↔ ∃ s, (k, s) ∈ H ∧ L s := by
  constructor
  · rintro ⟨s, hc, hs⟩
    exact ⟨s, (h (k, s) hs).mp hc, hs⟩
  · rintro ⟨s, hh, hs⟩
    exact ⟨s, (h (k, s) hs).mpr hh, hs⟩

end Tracks
