import Mathlib.Logic.Relation
import Mathlib.Order.Defs.Unbundled

/-!
# Effectful programs

A program runs in an environment that may act between its steps, on a world
that survives its failures.  Three kinds of rules reason about programs: what
every run moves the world by, what a successful or a failed run of a
composition consists of, and triples with a postcondition for both outcomes.
-/

namespace DamonRs.Library

/-- A program with environment `κ`, world `ω`, errors `ε` and results `α`. -/
def Exec (κ ω ε α : Type) : Type := κ → ω → Except ε α × ω

namespace Exec

variable {κ ω ε α β γ : Type}

protected def pure (value : α) : Exec κ ω ε α := fun _ world => (.ok value, world)

protected def bind (program : Exec κ ω ε α) (next : α → Exec κ ω ε β) : Exec κ ω ε β :=
  fun env world =>
    match program env world with
    | (.ok value, after) => next value env after
    | (.error error, after) => (.error error, after)

instance : Monad (Exec κ ω ε) where
  pure := Exec.pure
  bind := Exec.bind

/-- Stop with an error. -/
def fail (error : ε) : Exec κ ω ε α := fun _ world => (.error error, world)

/-- Return the outcome of a program as a value. -/
def attempt (program : Exec κ ω ε α) : Exec κ ω ε (Except ε α) := fun env world =>
  let (outcome, after) := program env world
  (.ok outcome, after)

/-- Continue with an outcome that is already known. -/
def ofExcept (outcome : Except ε α) : Exec κ ω ε α := fun _ world => (outcome, world)

/-- Read the world. -/
def get : Exec κ ω ε ω := fun _ world => (.ok world, world)

/-- Run a program for each item in order. -/
def forEach (body : α → Exec κ ω ε Unit) : List α → Exec κ ω ε Unit
  | [] => pure ()
  | item :: rest => do
      body item
      forEach body rest

/-- Run a program for each item in order and collect the results. -/
def mapEach (body : α → Exec κ ω ε β) : List α → Exec κ ω ε (List β)
  | [] => pure []
  | item :: rest => do
      let value ← body item
      let values ← mapEach body rest
      pure (value :: values)

/-- Run a program for each item in order, threading an accumulator. -/
def foldEach (body : β → α → Exec κ ω ε β) : β → List α → Exec κ ω ε β
  | total, [] => pure total
  | total, item :: rest => do
      let total ← body total item
      foldEach body total rest

/-- Run a program on items in order until one gives a result. -/
def findEach (body : α → Exec κ ω ε (Option β)) : List α → Exec κ ω ε (Option β)
  | [] => pure none
  | item :: rest => do
      match ← body item with
      | some value => pure (some value)
      | none => findEach body rest

/-- Repeat a program while its error is of a given kind, at most `budget` more times. -/
def retry (again : ε → Bool) (program : Exec κ ω ε α) : Nat → Exec κ ω ε α
  | 0 => program
  | budget + 1 => fun env world =>
      match program env world with
      | (.ok value, after) => (.ok value, after)
      | (.error error, after) =>
          if again error then retry again program budget env after else (.error error, after)

/-! ## Evaluation -/

/-- The world in which a run of a program ends. -/
def leads (program : Exec κ ω ε α) (env : κ) (world : ω) : ω := (program env world).2

/-- A run is known by its outcome. -/
theorem run_of_outcome {program : Exec κ ω ε α} {env : κ} {world : ω} {outcome : Except ε α}
    (ends : (program env world).1 = outcome) :
    program env world = (outcome, program.leads env world) :=
  Prod.ext ends rfl

@[simp] theorem pure_run (value : α) (env : κ) (world : ω) :
    (pure value : Exec κ ω ε α) env world = (.ok value, world) := rfl

@[simp] theorem fail_run (error : ε) (env : κ) (world : ω) :
    (fail error : Exec κ ω ε α) env world = (.error error, world) := rfl

@[simp] theorem attempt_run (program : Exec κ ω ε α) (env : κ) (world : ω) :
    attempt program env world = (.ok (program env world).1, (program env world).2) := rfl

@[simp] theorem ofExcept_run (outcome : Except ε α) (env : κ) (world : ω) :
    (ofExcept outcome : Exec κ ω ε α) env world = (outcome, world) := rfl

@[simp] theorem get_run (env : κ) (world : ω) :
    (get : Exec κ ω ε ω) env world = (.ok world, world) := rfl

theorem bind_run (program : Exec κ ω ε α) (next : α → Exec κ ω ε β) (env : κ) (world : ω) :
    (program >>= next) env world =
      match program env world with
      | (.ok value, after) => next value env after
      | (.error error, after) => (.error error, after) := rfl

theorem bind_run_ok {program : Exec κ ω ε α} {env : κ} {world after : ω} {value : α}
    (run : program env world = (.ok value, after)) (next : α → Exec κ ω ε β) :
    (program >>= next) env world = next value env after := by
  rw [bind_run, run]

theorem bind_run_error {program : Exec κ ω ε α} {env : κ} {world after : ω} {error : ε}
    (run : program env world = (.error error, after)) (next : α → Exec κ ω ε β) :
    (program >>= next) env world = (.error error, after) := by
  rw [bind_run, run]

@[simp] theorem map_run (f : α → β) (program : Exec κ ω ε α) :
    f <$> program = program >>= fun value => pure (f value) := rfl

theorem pure_bind (value : α) (next : α → Exec κ ω ε β) :
    (pure value : Exec κ ω ε α) >>= next = next value := rfl

theorem bind_assoc (program : Exec κ ω ε α) (next : α → Exec κ ω ε β)
    (last : β → Exec κ ω ε γ) :
    program >>= next >>= last = program >>= fun value => next value >>= last := by
  funext env world
  simp only [bind_run]
  cases program env world with
  | mk outcome after => cases outcome <;> rfl

/-- Computing with known outcomes is one known outcome. -/
theorem ofExcept_bind (outcome : Except ε α) (next : α → Except ε β) :
    (ofExcept (outcome >>= next) : Exec κ ω ε β) =
      ofExcept outcome >>= fun value => ofExcept (next value) := by
  funext env world
  cases outcome <;> rfl

theorem ite_bind (condition : Prop) [Decidable condition] (first second : Exec κ ω ε α)
    (next : α → Exec κ ω ε β) :
    (if condition then first else second) >>= next =
      if condition then first >>= next else second >>= next := by
  by_cases h : condition
  · rw [if_pos h, if_pos h]
  · rw [if_neg h, if_neg h]

/-! ## Inversion of a run -/

/-- A composition succeeds exactly through a successful first part. -/
theorem bind_eq_ok {program : Exec κ ω ε α} {next : α → Exec κ ω ε β} {env : κ}
    {world after : ω} {result : β} (run : (program >>= next) env world = (.ok result, after)) :
    ∃ value middle, program env world = (.ok value, middle) ∧
      next value env middle = (.ok result, after) := by
  rw [bind_run] at run
  cases first : program env world with
  | mk outcome middle =>
      cases outcome with
      | ok value => exact ⟨value, middle, rfl, by simpa [first] using run⟩
      | error error => simp [first] at run

/-- A composition fails in its first part or in its second. -/
theorem bind_eq_error {program : Exec κ ω ε α} {next : α → Exec κ ω ε β} {env : κ}
    {world after : ω} {error : ε} (run : (program >>= next) env world = (.error error, after)) :
    program env world = (.error error, after) ∨
      ∃ value middle, program env world = (.ok value, middle) ∧
        next value env middle = (.error error, after) := by
  rw [bind_run] at run
  cases first : program env world with
  | mk outcome middle =>
      cases outcome with
      | ok value => exact .inr ⟨value, middle, rfl, by simpa [first] using run⟩
      | error other => exact .inl (by simpa [first] using run)

/-- A sequence ends with the error of its first part, or as its second part does. -/
theorem bind_cases {program : Exec κ ω ε α} {next : α → Exec κ ω ε β} {env : κ}
    {world after : ω} {outcome : Except ε β}
    (run : (program >>= next) env world = (outcome, after)) :
    (∃ error, program env world = (.error error, after) ∧ outcome = .error error) ∨
      ∃ value middle, program env world = (.ok value, middle) ∧
        next value env middle = (outcome, after) := by
  cases outcome with
  | ok value =>
      obtain ⟨found, middle, first, second⟩ := bind_eq_ok run
      exact .inr ⟨found, middle, first, second⟩
  | error error =>
      rcases bind_eq_error run with failed | ⟨value, middle, first, second⟩
      · exact .inl ⟨error, failed, rfl⟩
      · exact .inr ⟨value, middle, first, second⟩

theorem mapEach_length {body : α → Exec κ ω ε β} {items : List α} {env : κ} {world after : ω}
    {values : List β} (run : mapEach body items env world = (.ok values, after)) :
    values.length = items.length := by
  induction items generalizing world values with
  | nil =>
      cases run
      rfl
  | cons item rest ih =>
      obtain ⟨value, middle, _, others⟩ := bind_eq_ok run
      obtain ⟨found, last, mapped, made⟩ := bind_eq_ok others
      cases made
      rw [List.length_cons, List.length_cons, ih mapped]

/-- The run for a member, between those for the items around its first occurrence. -/
theorem forEach_first {body : α → Exec κ ω ε Unit} {items : List α} {env : κ} {world after : ω}
    (run : forEach body items env world = (.ok (), after)) {wanted : α}
    (member : wanted ∈ items) :
    ∃ earlier later start done, items = earlier ++ wanted :: later ∧ wanted ∉ earlier ∧
      forEach body earlier env world = (.ok (), start) ∧ body wanted env start = (.ok (), done) ∧
      forEach body later env done = (.ok (), after) := by
  induction items generalizing world with
  | nil => cases member
  | cons item rest ih =>
      obtain ⟨_, middle, here, others⟩ := bind_eq_ok run
      by_cases same : wanted = item
      · subst same
        exact ⟨[], rest, world, middle, rfl, by simp, rfl, here, others⟩
      · have inRest : wanted ∈ rest := (List.mem_cons.mp member).resolve_left same
        obtain ⟨earlier, later, start, done, rfl, outside, before, ran, ends⟩ := ih others inRest
        refine ⟨item :: earlier, later, start, done, rfl, ?_, ?_, ran, ends⟩
        · simp [same, outside]
        · exact (bind_run_ok here _).trans before

/-- Some run of a program returns a value. -/
def Returns (program : Exec κ ω ε α) (value : α) : Prop :=
  ∃ env world after, program env world = (.ok value, after)

theorem returns_bind {program : Exec κ ω ε α} {next : α → Exec κ ω ε β} {result : β}
    (returns : Returns (program >>= next) result) :
    ∃ value, Returns program value ∧ Returns (next value) result := by
  obtain ⟨env, world, after, run⟩ := returns
  obtain ⟨value, middle, first, second⟩ := bind_eq_ok run
  exact ⟨value, ⟨env, world, middle, first⟩, ⟨env, middle, after, second⟩⟩

theorem returns_pure {value result : α}
    (returns : Returns (pure value : Exec κ ω ε α) result) : result = value := by
  obtain ⟨env, world, after, run⟩ := returns
  simpa using (Prod.ext_iff.mp run).1.symm

theorem returns_mapEach {body : α → Exec κ ω ε β} {items : List α} {values : List β}
    (returns : Returns (mapEach body items) values) :
    ∀ value ∈ values, ∃ item ∈ items, Returns (body item) value := by
  induction items generalizing values with
  | nil =>
      rw [returns_pure returns]
      simp
  | cons item rest ih =>
      obtain ⟨first, firstReturns, rest'⟩ := returns_bind returns
      obtain ⟨others, othersReturn, last⟩ := returns_bind rest'
      rw [returns_pure last]
      intro value member
      rcases List.mem_cons.mp member with rfl | inRest
      · exact ⟨item, List.mem_cons_self .., firstReturns⟩
      · obtain ⟨source, sourceMember, sourceReturns⟩ := ih othersReturn value inRest
        exact ⟨source, List.mem_cons_of_mem item sourceMember, sourceReturns⟩

theorem retry_run (again : ε → Bool) (program : Exec κ ω ε α) (budget : Nat) (env : κ)
    (world : ω) : retry again program (budget + 1) env world =
      match program env world with
      | (.ok value, after) => (.ok value, after)
      | (.error error, after) =>
          if again error then retry again program budget env after else (.error error, after) := rfl

theorem retry_run_ok {again : ε → Bool} {program : Exec κ ω ε α} {env : κ} {world after : ω}
    {value : α} (run : program env world = (.ok value, after)) (budget : Nat) :
    retry again program budget env world = (.ok value, after) := by
  cases budget with
  | zero => exact run
  | succ budget => rw [retry_run, run]

theorem retry_run_again {again : ε → Bool} {program : Exec κ ω ε α} {env : κ} {world after : ω}
    {error : ε} (run : program env world = (.error error, after)) (repeated : again error = true)
    (budget : Nat) :
    retry again program (budget + 1) env world = retry again program budget env after := by
  rw [retry_run, run]
  exact if_pos repeated

theorem retry_run_stop {again : ε → Bool} {program : Exec κ ω ε α} {env : κ} {world after : ω}
    {error : ε} (run : program env world = (.error error, after)) (stops : ¬again error = true)
    (budget : Nat) : retry again program budget env world = (.error error, after) := by
  cases budget with
  | zero => exact run
  | succ budget =>
      rw [retry_run, run]
      exact if_neg stops

/-- A retried program ends as one of its attempts does, after failed attempts. -/
theorem retry_ends (again : ε → Bool) (program : Exec κ ω ε α) (budget : Nat) (env : κ)
    (world : ω) :
    ∃ start, Relation.ReflTransGen
        (fun before after => ∃ error, again error = true ∧
          program env before = (.error error, after)) world start ∧
      retry again program budget env world = program env start := by
  induction budget generalizing world with
  | zero => exact ⟨world, .refl, rfl⟩
  | succ budget ih =>
      unfold retry
      cases first : program env world with
      | mk outcome after =>
          cases outcome with
          | ok value => exact ⟨world, .refl, by simp [first]⟩
          | error error =>
              by_cases repeated : again error = true
              · obtain ⟨start, path, ends⟩ := ih after
                refine ⟨start, .head ⟨error, repeated, first⟩ path, ?_⟩
                simpa [repeated] using ends
              · exact ⟨world, .refl, by simp [first, repeated]⟩

/-- What a retried program returns, one of its attempts returns. -/
theorem returns_retry {again : ε → Bool} {program : Exec κ ω ε α} {budget : Nat} {value : α}
    (returns : Returns (retry again program budget) value) : Returns program value := by
  obtain ⟨env, world, after, run⟩ := returns
  obtain ⟨start, _, ends⟩ := retry_ends again program budget env world
  exact ⟨env, start, after, ends ▸ run⟩

/-! ## Which errors a program reports -/

/-- Every error of every run is permitted. -/
def FailsAs (permitted : ε → Prop) (program : Exec κ ω ε α) : Prop :=
  ∀ env world error after, program env world = (.error error, after) → permitted error

namespace FailsAs

variable {permitted : ε → Prop}

protected theorem pure (value : α) : FailsAs permitted (pure value : Exec κ ω ε α) := by
  intro env world error after run
  cases run

protected theorem fail {error : ε} (known : permitted error) :
    FailsAs permitted (fail error : Exec κ ω ε α) := by
  intro env world other after run
  cases run
  exact known

theorem ofExcept {outcome : Except ε α} {value : α} (passed : outcome = .ok value) :
    FailsAs permitted (ofExcept outcome : Exec κ ω ε α) := by
  subst passed
  exact FailsAs.pure value

protected theorem bind_returned {program : Exec κ ω ε α} {next : α → Exec κ ω ε β}
    (first : FailsAs permitted program)
    (second : ∀ value, Returns program value → FailsAs permitted (next value)) :
    FailsAs permitted (program >>= next) := by
  intro env world error after run
  rcases bind_eq_error run with failed | ⟨value, middle, returned, failed⟩
  · exact first env world error after failed
  · exact second value ⟨env, world, middle, returned⟩ env middle error after failed

protected theorem bind {program : Exec κ ω ε α} {next : α → Exec κ ω ε β}
    (first : FailsAs permitted program) (second : ∀ value, FailsAs permitted (next value)) :
    FailsAs permitted (program >>= next) :=
  first.bind_returned fun value _ => second value

protected theorem ite {condition : Prop} [Decidable condition] {first second : Exec κ ω ε α}
    (holds : condition → FailsAs permitted first) (fails : ¬condition → FailsAs permitted second) :
    FailsAs permitted (if condition then first else second) := by
  by_cases decided : condition
  · rw [if_pos decided]
    exact holds decided
  · rw [if_neg decided]
    exact fails decided

theorem imp {weaker : ε → Prop} {program : Exec κ ω ε α} (fails : FailsAs permitted program)
    (weaken : ∀ error, permitted error → weaker error) : FailsAs weaker program :=
  fun env world error after run => weaken error (fails env world error after run)

/-- A program that always succeeds reports nothing. -/
theorem total {program : Exec κ ω ε α}
    (succeeds : ∀ env world, ∃ value, (program env world).1 = .ok value) :
    FailsAs permitted program := by
  intro env world error after run
  obtain ⟨value, success⟩ := succeeds env world
  rw [run] at success
  cases success

theorem get : FailsAs permitted (get : Exec κ ω ε ω) := total fun _ world => ⟨world, rfl⟩

/-- An attempt returns every error, and only those, of the program. -/
theorem attempt {program : Exec κ ω ε α} {next : Except ε α → Exec κ ω ε β}
    (fails : FailsAs permitted program) (done : ∀ value, FailsAs permitted (next (.ok value)))
    (failed : ∀ error, permitted error → FailsAs permitted (next (.error error))) :
    FailsAs permitted (attempt program >>= next) := by
  intro env world error after run
  rw [bind_run, attempt_run] at run
  dsimp only at run
  cases first : program env world with
  | mk outcome middle =>
      rw [first] at run
      cases outcome with
      | ok value => exact done value env middle error after run
      | error known =>
          exact failed known (fails env world known middle first) env middle error after run

theorem retry {again : ε → Bool} {program : Exec κ ω ε α} (fails : FailsAs permitted program)
    (budget : Nat) : FailsAs permitted (retry again program budget) := by
  intro env world error after run
  obtain ⟨start, -, ends⟩ := retry_ends again program budget env world
  rw [run] at ends
  exact fails env start error after ends.symm

theorem mapEach {body : α → Exec κ ω ε β} (each : ∀ item, FailsAs permitted (body item))
    (items : List α) : FailsAs permitted (mapEach body items) := by
  induction items with
  | nil => exact FailsAs.pure []
  | cons item rest ih =>
      exact (each item).bind fun value => ih.bind fun values => FailsAs.pure (value :: values)

theorem forEach {body : α → Exec κ ω ε Unit} (each : ∀ item, FailsAs permitted (body item))
    (items : List α) : FailsAs permitted (forEach body items) := by
  induction items with
  | nil => exact FailsAs.pure ()
  | cons item rest ih => exact (each item).bind fun _ => ih

theorem findEach {body : α → Exec κ ω ε (Option β)} (items : List α)
    (each : ∀ item ∈ items, FailsAs permitted (body item)) :
    FailsAs permitted (findEach body items) := by
  induction items with
  | nil => exact FailsAs.pure none
  | cons item rest ih =>
      refine (each item (List.mem_cons_self ..)).bind fun found => ?_
      cases found with
      | some value => exact FailsAs.pure (some value)
      | none => exact ih fun other member => each other (List.mem_cons_of_mem item member)

end FailsAs

/-! ## What every run moves the world by -/

/-- Every run relates the world before it to the world after it. -/
def Moves (relation : κ → ω → ω → Prop) (program : Exec κ ω ε α) : Prop :=
  ∀ env world, relation env world (program env world).2

section Moves

variable {relation : κ → ω → ω → Prop}

variable (refl : ∀ env world, relation env world world)
variable (trans : ∀ env first second third,
  relation env first second → relation env second third → relation env first third)

include refl in
theorem moves_pure (value : α) : Moves relation (pure value : Exec κ ω ε α) :=
  fun env world => refl env world

include refl in
theorem moves_fail (error : ε) : Moves relation (fail error : Exec κ ω ε α) :=
  fun env world => refl env world

include refl in
theorem moves_ofExcept (outcome : Except ε α) :
    Moves relation (ofExcept outcome : Exec κ ω ε α) :=
  fun env world => refl env world

include refl in
theorem moves_get : Moves relation (get : Exec κ ω ε ω) :=
  fun env world => refl env world

theorem moves_attempt {program : Exec κ ω ε α} (moves : Moves relation program) :
    Moves relation (attempt program) :=
  fun env world => moves env world

include trans in
theorem moves_bind_returned {program : Exec κ ω ε α} {next : α → Exec κ ω ε β}
    (moves : Moves relation program)
    (nextMoves : ∀ value, Returns program value → Moves relation (next value)) :
    Moves relation (program >>= next) := by
  intro env world
  have first := moves env world
  rw [bind_run]
  cases run : program env world with
  | mk outcome middle =>
      rw [run] at first
      cases outcome with
      | ok value =>
          exact trans env world middle _ first
            (nextMoves value ⟨env, world, middle, run⟩ env middle)
      | error error => exact first

include trans in
theorem moves_bind {program : Exec κ ω ε α} {next : α → Exec κ ω ε β}
    (moves : Moves relation program) (nextMoves : ∀ value, Moves relation (next value)) :
    Moves relation (program >>= next) :=
  moves_bind_returned trans moves fun value _ => nextMoves value

include refl trans in
theorem moves_forEach {body : α → Exec κ ω ε Unit} (items : List α)
    (moves : ∀ item ∈ items, Moves relation (body item)) :
    Moves relation (forEach body items) := by
  induction items with
  | nil => exact moves_pure refl ()
  | cons item rest ih =>
      exact moves_bind trans (moves item (List.mem_cons_self ..)) fun _ =>
        ih fun other member => moves other (List.mem_cons_of_mem item member)

include refl trans in
theorem moves_mapEach {body : α → Exec κ ω ε β} (items : List α)
    (moves : ∀ item ∈ items, Moves relation (body item)) :
    Moves relation (mapEach body items) := by
  induction items with
  | nil => exact moves_pure refl []
  | cons item rest ih =>
      exact moves_bind trans (moves item (List.mem_cons_self ..)) fun value =>
        moves_bind trans
          (ih fun other member => moves other (List.mem_cons_of_mem item member))
          fun values => moves_pure refl (value :: values)

include trans in
theorem moves_retry {again : ε → Bool} {program : Exec κ ω ε α}
    (moves : Moves relation program) (budget : Nat) :
    Moves relation (retry again program budget) := by
  induction budget with
  | zero => exact moves
  | succ budget ih =>
      intro env world
      have first := moves env world
      unfold retry
      cases run : program env world with
      | mk outcome after =>
          rw [run] at first
          cases outcome with
          | ok value => exact first
          | error error =>
              by_cases repeated : again error = true
              · simpa [repeated] using trans env world after _ first (ih env after)
              · simpa [repeated] using first

end Moves

/-! ## Invariants -/

/-- Every run that starts in an invariant ends in it. -/
def Keeps (invariant : ω → Prop) (program : Exec κ ω ε α) : Prop :=
  Moves (fun _ before after => invariant before → invariant after) program

section Keeps

variable {invariant : ω → Prop}

theorem keeps_pure (value : α) : Keeps invariant (pure value : Exec κ ω ε α) :=
  fun _ _ holds => holds

theorem keeps_fail (error : ε) : Keeps invariant (fail error : Exec κ ω ε α) :=
  fun _ _ holds => holds

theorem keeps_ofExcept (outcome : Except ε α) :
    Keeps invariant (ofExcept outcome : Exec κ ω ε α) :=
  fun _ _ holds => holds

theorem keeps_attempt {program : Exec κ ω ε α} (keeps : Keeps invariant program) :
    Keeps invariant (attempt program) :=
  moves_attempt keeps

theorem keeps_bind_returned {program : Exec κ ω ε α} {next : α → Exec κ ω ε β}
    (keeps : Keeps invariant program)
    (nextKeeps : ∀ value, Returns program value → Keeps invariant (next value)) :
    Keeps invariant (program >>= next) :=
  moves_bind_returned (fun _ _ _ _ first second holds => second (first holds)) keeps nextKeeps

theorem keeps_bind {program : Exec κ ω ε α} {next : α → Exec κ ω ε β}
    (keeps : Keeps invariant program) (nextKeeps : ∀ value, Keeps invariant (next value)) :
    Keeps invariant (program >>= next) :=
  keeps_bind_returned keeps fun value _ => nextKeeps value

theorem keeps_ite {condition : Prop} [Decidable condition] {first second : Exec κ ω ε α}
    (holds : Keeps invariant first) (fails : Keeps invariant second) :
    Keeps invariant (if condition then first else second) := by
  by_cases h : condition
  · rw [if_pos h]
    exact holds
  · rw [if_neg h]
    exact fails

theorem keeps_forEach {body : α → Exec κ ω ε Unit} (items : List α)
    (keeps : ∀ item ∈ items, Keeps invariant (body item)) :
    Keeps invariant (forEach body items) :=
  moves_forEach (fun _ _ holds => holds)
    (fun _ _ _ _ first second holds => second (first holds)) items keeps

theorem keeps_retry {again : ε → Bool} {program : Exec κ ω ε α}
    (keeps : Keeps invariant program) (budget : Nat) :
    Keeps invariant (retry again program budget) :=
  moves_retry (fun _ _ _ _ first second holds => second (first holds)) keeps budget

end Keeps

/-! ## Triples -/

/-- From a world satisfying `pre`, the outcome and the final world satisfy `post`. -/
def Triple (env : κ) (pre : ω → Prop) (program : Exec κ ω ε α)
    (post : Except ε α → ω → Prop) : Prop :=
  ∀ world, pre world → post (program env world).1 (program env world).2

section Triple

variable {env : κ} {pre : ω → Prop} {post : Except ε β → ω → Prop}

theorem Triple.run {program : Exec κ ω ε α} {post : Except ε α → ω → Prop}
    (triple : Triple env pre program post) {world after : ω} {outcome : Except ε α}
    (initial : pre world) (run : program env world = (outcome, after)) : post outcome after := by
  have holds := triple world initial
  rwa [run] at holds

theorem Triple.weaken {program : Exec κ ω ε α} {strongerPre pre : ω → Prop}
    {strongerPost post : Except ε α → ω → Prop}
    (triple : Triple env pre program strongerPost)
    (before : ∀ world, strongerPre world → pre world)
    (after : ∀ outcome world, strongerPost outcome world → post outcome world) :
    Triple env strongerPre program post :=
  fun world initial => after _ _ (triple world (before world initial))

/-- Sequencing: an error of the first part is an error of the whole. -/
theorem triple_bind {program : Exec κ ω ε α} {next : α → Exec κ ω ε β}
    {middle : Except ε α → ω → Prop}
    (first : Triple env pre program middle)
    (second : ∀ value, Triple env (middle (.ok value)) (next value) post)
    (failed : ∀ error world, middle (.error error) world → post (.error error) world) :
    Triple env pre (program >>= next) post := by
  intro world initial
  have holds := first world initial
  rw [bind_run]
  cases run : program env world with
  | mk outcome after =>
      rw [run] at holds
      cases outcome with
      | ok value => exact second value after holds
      | error error => exact failed error after holds

/-- Sequencing by an assertion that holds whatever the first part returns. -/
theorem triple_seq {program : Exec κ ω ε α} {next : α → Exec κ ω ε β} {middle post : ω → Prop}
    (first : Triple env pre program fun _ => middle)
    (second : ∀ value, Triple env middle (next value) fun _ => post)
    (failed : ∀ world, middle world → post world) :
    Triple env pre (program >>= next) fun _ => post :=
  triple_bind first second fun _ => failed

theorem Keeps.triple {invariant : ω → Prop} {program : Exec κ ω ε α}
    (keeps : Keeps invariant program) (env : κ) :
    Triple env invariant program fun _ => invariant :=
  fun world => keeps env world

/-- Every attempt starts where the triple applies. -/
theorem triple_retry {again : ε → Bool} {program : Exec κ ω ε α} {post : Except ε α → ω → Prop}
    (triple : Triple env pre program fun outcome world => post outcome world ∧ pre world)
    (budget : Nat) : Triple env pre (retry again program budget) post := by
  intro world initial
  induction budget generalizing world with
  | zero => exact (triple world initial).1
  | succ budget ih =>
      have ends := triple world initial
      unfold retry
      cases run : program env world with
      | mk outcome after =>
          rw [run] at ends
          cases outcome with
          | ok value => exact ends.1
          | error error =>
              dsimp only
              split
              · exact ih after ends.2
              · exact ends.1

end Triple

end Exec

end DamonRs.Library
