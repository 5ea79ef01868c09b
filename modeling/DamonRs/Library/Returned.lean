import DamonRs.Library.Exec
import Mathlib.Data.List.Forall2

/-!
# Returned lists

What a program that runs once for each item returns, item by item.
-/

namespace DamonRs.Library

namespace Exec

variable {κ ω ε α β : Type}

/-- Every value comes from the item at its place. -/
theorem returns_mapEach_forall₂ {body : α → Exec κ ω ε β} {items : List α} {values : List β}
    (returns : Returns (mapEach body items) values) :
    List.Forall₂ (fun item value => Returns (body item) value) items values := by
  induction items generalizing values with
  | nil =>
      rw [returns_pure returns]
      exact .nil
  | cons item rest ih =>
      obtain ⟨value, first, others⟩ := returns_bind returns
      obtain ⟨values, second, last⟩ := returns_bind others
      rw [returns_pure last]
      exact .cons first (ih second)

/-- A program that fails returns nothing. -/
theorem not_returns_fail {error : ε} {value : α} :
    ¬Returns (fail error : Exec κ ω ε α) value := by
  rintro ⟨env, world, after, run⟩
  cases run

/-- A value that an attempt has, the program returns. -/
theorem returns_of_attempt {program : Exec κ ω ε α} {value : α}
    (returns : Returns (attempt program) (.ok value)) : Returns program value := by
  obtain ⟨env, world, after, run⟩ := returns
  rw [attempt_run] at run
  obtain ⟨outcome, rest⟩ := Prod.mk.inj run
  exact ⟨env, world, after, Prod.ext (Except.ok.inj outcome) rest⟩

end Exec

section Forall₂

variable {α β : Type} {related : α → β → Prop} {items : List α} {values : List β}

theorem exists_partner (partners : List.Forall₂ related items values) {value : β}
    (member : value ∈ values) : ∃ item ∈ items, related item value := by
  induction partners with
  | nil => cases member
  | cons here rest ih =>
      rcases List.mem_cons.mp member with rfl | later
      · exact ⟨_, List.mem_cons_self .., here⟩
      · obtain ⟨item, inside, partner⟩ := ih later
        exact ⟨item, List.mem_cons_of_mem _ inside, partner⟩

/-- What holds between items holds between their partners. -/
theorem pairwise_of_forall₂ {between : α → α → Prop} {held : β → β → Prop}
    (partners : List.Forall₂ related items values) (pairs : items.Pairwise between)
    (carries : ∀ first second one two, between first second → related first one →
      related second two → held one two) : values.Pairwise held := by
  induction partners with
  | nil => exact .nil
  | cons here rest ih =>
      obtain ⟨first, others⟩ := List.pairwise_cons.mp pairs
      refine List.pairwise_cons.mpr ⟨fun value member => ?_, ih others⟩
      obtain ⟨item, inside, partner⟩ := exists_partner rest member
      exact carries _ item _ value (first item inside) here partner

end Forall₂

end DamonRs.Library
