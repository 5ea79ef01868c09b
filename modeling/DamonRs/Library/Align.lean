import Mathlib.Algebra.Order.Group.Nat
import Mathlib.Data.Nat.Basic
import Mathlib.Order.Interval.Set.Basic
import Mathlib.Tactic.Ring

/-!
# Alignment

A number rounded down or up to a multiple of a step.  Rounding up is the least
multiple above, rounding down the greatest one below, and both commute with a
change of scale.
-/

namespace DamonRs.Library

namespace Align

/-- The greatest multiple of a step at or below a number. -/
def down (step number : Nat) : Nat := number - number % step

/-- The least multiple of a step at or above a number. -/
def up (step number : Nat) : Nat :=
  if number % step = 0 then number else number + (step - number % step)

theorem down_le (step number : Nat) : down step number ≤ number := Nat.sub_le _ _

theorem le_up (step number : Nat) : number ≤ up step number := by
  unfold up
  split
  · exact le_refl _
  · exact Nat.le_add_right _ _

theorem down_eq (step number : Nat) : down step number = step * (number / step) := by
  have division := Nat.div_add_mod number step
  unfold down
  omega

theorem dvd_down (step number : Nat) : step ∣ down step number := by
  rw [down_eq]
  exact Dvd.intro _ rfl

/-- A number that is no multiple lies below the next one. -/
theorem up_of_remainder {step number : Nat} (positive : 0 < step)
    (remains : number % step ≠ 0) : up step number = step * (number / step + 1) := by
  have division := Nat.div_add_mod number step
  have small : number % step < step := Nat.mod_lt _ positive
  rw [up, if_neg remains, Nat.mul_succ]
  omega

theorem dvd_up {step : Nat} (positive : 0 < step) (number : Nat) : step ∣ up step number := by
  by_cases remains : number % step = 0
  · rw [up, if_pos remains]
    exact Nat.dvd_of_mod_eq_zero remains
  · rw [up_of_remainder positive remains]
    exact Dvd.intro _ rfl

/-- Rounding up stays below every multiple above. -/
theorem up_le_iff {step multiple : Nat} (positive : 0 < step) (divides : step ∣ multiple)
    (number : Nat) : up step number ≤ multiple ↔ number ≤ multiple := by
  constructor
  · exact le_trans (le_up step number)
  · intro below
    by_cases remains : number % step = 0
    · rwa [up, if_pos remains]
    · obtain ⟨factor, rfl⟩ := divides
      rw [up_of_remainder positive remains]
      apply Nat.mul_le_mul_left
      have apart : number ≠ step * factor := by
        rintro rfl
        exact remains (Nat.mul_mod_right _ _)
      have strict : number < factor * step := by
        rw [Nat.mul_comm]
        exact lt_of_le_of_ne below apart
      exact (Nat.div_lt_iff_lt_mul positive).mpr strict

/-- Rounding down stays above every multiple below. -/
theorem le_down_iff {step multiple : Nat} (positive : 0 < step) (divides : step ∣ multiple)
    (number : Nat) : multiple ≤ down step number ↔ multiple ≤ number := by
  constructor
  · exact fun below => le_trans below (down_le step number)
  · intro below
    obtain ⟨factor, rfl⟩ := divides
    rw [down_eq]
    apply Nat.mul_le_mul_left
    rw [Nat.le_div_iff_mul_le positive, Nat.mul_comm]
    exact below

/-- Rounding up and then scaling stays within a limit exactly when the scaled number is at or
below the last scaled multiple within the limit. -/
theorem up_mul_le_iff {step scale : Nat} (positive : 0 < step) (scaled : 0 < scale)
    (number limit : Nat) :
    up step number * scale ≤ limit ↔ number * scale ≤ down (step * scale) limit := by
  have divides : step * scale ∣ up step number * scale :=
    Nat.mul_dvd_mul_right (dvd_up positive number) scale
  obtain ⟨factor, last⟩ := dvd_down (step * scale) limit
  have regrouped : down (step * scale) limit = step * factor * scale := by
    rw [last]
    ring
  rw [← le_down_iff (Nat.mul_pos positive scaled) divides, regrouped,
    Nat.mul_le_mul_right_iff scaled, Nat.mul_le_mul_right_iff scaled,
    up_le_iff positive (Dvd.intro _ rfl)]

end Align

end DamonRs.Library
