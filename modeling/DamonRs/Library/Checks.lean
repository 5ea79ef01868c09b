import Mathlib.Data.List.Basic

/-!
# Passed checks

A chain of checks passes when each of them does.  What follows from a passed
chain is read off check by check.
-/

namespace DamonRs.Library

namespace Checks

variable {ε α β : Type}

/-- A chain passes through its first check. -/
theorem bind_ok {check : Except ε α} {next : α → Except ε β} {result : β}
    (passed : (check >>= next) = .ok result) :
    ∃ value, check = .ok value ∧ next value = .ok result := by
  cases check with
  | error error => cases passed
  | ok value => exact ⟨value, rfl, passed⟩

/-- A chain of checks without results. -/
theorem seq_ok {check : Except ε Unit} {next : Unit → Except ε β} {result : β}
    (passed : (check >>= next) = .ok result) : check = .ok () ∧ next () = .ok result := by
  obtain ⟨_, first, second⟩ := bind_ok passed
  exact ⟨first, second⟩

/-- A chain of checks passes exactly when both of its parts do. -/
theorem seq_eq_ok_iff {check : Except ε Unit} {next : Unit → Except ε β} {result : β} :
    (check >>= next) = .ok result ↔ check = .ok () ∧ next () = .ok result := by
  constructor
  · exact seq_ok
  · rintro ⟨first, second⟩
    rw [first]
    exact second

/-- A check of every item passes for each of them. -/
theorem forM_ok {check : α → Except ε Unit} {items : List α}
    (passed : items.forM check = .ok ()) : ∀ item ∈ items, check item = .ok () := by
  induction items with
  | nil => simp
  | cons first rest ih =>
      obtain ⟨head, tail⟩ := seq_ok passed
      rintro item (_ | ⟨_, member⟩)
      · exact head
      · exact ih tail item member

/-- A check of every item passes exactly when it passes for each of them. -/
theorem forM_eq_ok_iff {check : α → Except ε Unit} {items : List α} :
    items.forM check = .ok () ↔ ∀ item ∈ items, check item = .ok () := by
  constructor
  · exact forM_ok
  · intro passed
    induction items with
    | nil => rfl
    | cons first rest ih =>
        apply seq_eq_ok_iff.mpr
        constructor
        · exact passed first List.mem_cons_self
        · exact ih fun item member => passed item (List.mem_cons_of_mem first member)

/-- An optional value passes its check when it is there. -/
theorem optional_ok {check : α → Except ε Unit} {value : Option α}
    (passed : value.forM check = .ok ()) : ∀ item, value = some item → check item = .ok () := by
  rintro item rfl
  exact passed

end Checks

end DamonRs.Library
