import Mathlib.Logic.Relation

/-!
# Channels and runs

A channel with room for one message and two ends that can be dropped.  A run
takes one step after the other; a goal is inevitable when every run that goes
on reaches it.
-/

namespace DamonRs.Library

/-- The buffer of a channel and whether its ends are there. -/
structure Channel (α : Type) where
  message : Option α
  sender : Bool
  receiver : Bool
  deriving DecidableEq

namespace Channel

variable {α : Type}

def fresh : Channel α := ⟨none, true, true⟩

/-- Both ends are gone. -/
def closed : Channel α := ⟨none, false, false⟩

/-- What comes of sending a value. -/
inductive Sent (α : Type) where
  | sent (after : Channel α)
  | full
  | refused (value : α)

def send (channel : Channel α) (value : α) : Sent α :=
  if channel.receiver = false then .refused value
  else
    match channel.message with
    | none => .sent { channel with message := some value }
    | some _ => .full

/-- What comes of receiving. -/
inductive Received (α : Type) where
  | message (value : α) (after : Channel α)
  | empty
  | disconnected

def recv (channel : Channel α) : Received α :=
  match channel.message with
  | some value => .message value { channel with message := none }
  | none => if channel.sender then .empty else .disconnected

def dropSender (channel : Channel α) : Channel α := { channel with sender := false }

/-- Without its receiver a channel loses its message. -/
def dropReceiver (channel : Channel α) : Channel α :=
  { channel with message := none, receiver := false }

end Channel

/-! ## Runs -/

section Runs

variable {σ : Type} {step : σ → σ → Prop} {goal invariant : σ → Prop}

/-- What every step keeps holds after a run. -/
theorem invariant_of_run {start state : σ} (run : Relation.ReflTransGen step start state)
    (initial : invariant start)
    (kept : ∀ state next, invariant state → step state next → invariant next) :
    invariant state := by
  induction run with
  | refl => exact initial
  | tail _ taken ih => exact kept _ _ ih taken

/-- No run gets stuck or goes on forever before it reaches the goal. -/
inductive Inevitably (step : σ → σ → Prop) (goal : σ → Prop) : σ → Prop
  | here {state : σ} (reached : goal state) : Inevitably step goal state
  | later {state : σ} (goes : ∃ next, step state next)
      (then_ : ∀ next, step state next → Inevitably step goal next) : Inevitably step goal state

/-- A goal is inevitable when until then some step is possible and every step lowers a measure. -/
theorem Inevitably.of_measure (invariant : σ → Prop) (measure : σ → Nat)
    (kept : ∀ state next, invariant state → ¬goal state → step state next → invariant next)
    (goes : ∀ state, invariant state → ¬goal state → ∃ next, step state next)
    (lower : ∀ state next, invariant state → ¬goal state → step state next →
      measure next < measure state)
    {state : σ} (holds : invariant state) : Inevitably step goal state := by
  induction bound : measure state using Nat.strongRecOn generalizing state with
  | ind bound ih =>
    subst bound
    by_cases reached : goal state
    · exact .here reached
    · refine .later (goes state holds reached) fun next taken => ?_
      exact ih _ (lower state next holds reached taken) (kept state next holds reached taken) rfl

end Runs

end DamonRs.Library
