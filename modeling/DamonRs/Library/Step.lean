import Mathlib.Data.Set.Basic

/-!
# Interruptible steps

A step on a keyed state runs to its end, where it returns a value or an error
and has written some keys, or it is cut short and leaves some state behind.  A
step refines another one when it runs alike and is cut short in no other way.
-/

namespace DamonRs.Library

/-- What a step returns at its end, which keys it has written and what it leaves. -/
structure Ending (σ κ ρ : Type) where
  returned : ρ
  written : Set κ
  state : σ

/-- A step with its run to the end and the ways in which it can be cut short. -/
structure Step (σ κ ε α : Type) where
  run : σ → Ending σ κ (Except ε α)
  cut : σ → Set κ → σ → Prop

namespace Step

variable {σ κ ε α γ : Type}

protected def pure (value : α) : Step σ κ ε α where
  run state := ⟨.ok value, ∅, state⟩
  cut _ _ _ := False

protected def fail (error : ε) : Step σ κ ε α where
  run state := ⟨.error error, ∅, state⟩
  cut _ _ _ := False

/-- Look at the state. -/
def observe (look : σ → Except ε α) : Step σ κ ε α where
  run state := ⟨look state, ∅, state⟩
  cut _ _ _ := False

protected def bind (first : Step σ κ ε α) (next : α → Step σ κ ε γ) : Step σ κ ε γ where
  run state :=
    let ending := first.run state
    match ending.returned with
    | .ok value =>
        let last := (next value).run ending.state
        ⟨last.returned, ending.written ∪ last.written, last.state⟩
    | .error error => ⟨.error error, ending.written, ending.state⟩
  cut state written left :=
    first.cut state written left ∨
      ∃ value rest, (first.run state).returned = .ok value ∧
        (next value).cut (first.run state).state rest left ∧
        written = (first.run state).written ∪ rest

theorem bind_run_ok {first : Step σ κ ε α} {state : σ} {value : α}
    (ok : (first.run state).returned = .ok value) (next : α → Step σ κ ε γ) :
    (first.bind next).run state =
      ⟨((next value).run (first.run state).state).returned,
        (first.run state).written ∪ ((next value).run (first.run state).state).written,
        ((next value).run (first.run state).state).state⟩ := by
  simp only [Step.bind, ok]

theorem bind_run_error {first : Step σ κ ε α} {state : σ} {error : ε}
    (failed : (first.run state).returned = .error error) (next : α → Step σ κ ε γ) :
    (first.bind next).run state =
      ⟨.error error, (first.run state).written, (first.run state).state⟩ := by
  simp only [Step.bind, failed]

/-- A step that runs as another one and is cut short in no other way. -/
structure Refines (step other : Step σ κ ε α) : Prop where
  run : step.run = other.run
  cut : ∀ state written left, step.cut state written left → other.cut state written left

theorem Refines.trans {first second third : Step σ κ ε α} (one : first.Refines second)
    (two : second.Refines third) : first.Refines third where
  run := one.run.trans two.run
  cut _ _ _ cut := two.cut _ _ _ (one.cut _ _ _ cut)

theorem Refines.bind {first other : Step σ κ ε α} {next further : α → Step σ κ ε γ}
    (refines : first.Refines other) (each : ∀ value, (next value).Refines (further value)) :
    (first.bind next).Refines (other.bind further) where
  run := by
    funext state
    simp only [Step.bind, refines.run, fun value => (each value).run]
  cut state written left cut := by
    rcases cut with early | ⟨value, rest, ok, late, rfl⟩
    · exact .inl (refines.cut _ _ _ early)
    · rw [refines.run] at ok late ⊢
      exact .inr ⟨value, rest, ok, (each value).cut _ _ _ late, rfl⟩

end Step

end DamonRs.Library
