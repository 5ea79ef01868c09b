import DamonRs.Sysfs.Trace
import Mathlib.Data.List.Chain

/-!
# Where a failed write leaves a program

A program that only makes allowed accesses ends at its first failed write, and
reports it.  It goes on only when the resource is busy and it is repeated, or
when the width of an unbounded value was refused and it is written narrower.
-/

namespace DamonRs

open Library Sysfs

/-- The error that a failed write is reported with. -/
def Fault.writeError (fault : Fault) (path : Path) (value : String) : Error :=
  match fault.stage with
  | .opening => .io "open for writing" path (.os fault.errno)
  | .short written => .io "write complete value" path (.writeZero
      s!"short sysfs write: wrote {written} of {value.utf8ByteSize} bytes")
  | _ => .io "write" path (.os fault.errno)

/-- A write that failed, with the error it is reported with. -/
def Event.FailsWith (event : Event) (error : Error) : Prop :=
  ∃ path value fault, event.access = .write path value ∧ event.reply = .failed fault ∧
    error = fault.writeError path value

/-- An access that follows a failed write: it repeats what found its resource busy, or writes the
unbounded value of the narrower kind. -/
def Event.MakesUpFor (next event : Event) : Prop :=
  ∀ error, event.FailsWith error → error.isResourceBusy = true ∨
    isKernelUlongWidthError error = true ∧ ∃ path,
      event.access = .write path (toString (u64Bound - 1)) ∧
        next.access = .write path (toString (u32Bound - 1))

/-- The events of a run, the latest first, that ends at its first failed write that nothing makes
up for. -/
structure StopsAtFailure {α : Type} (events : List Event) (outcome : Except Error α) : Prop where
  last : ∀ event ∈ events.head?, ∀ error, event.FailsWith error → outcome = .error error
  followed : events.IsChain Event.MakesUpFor

namespace StopsAtFailure

variable {α β : Type} {events earlier : List Event} {outcome : Except Error α}

theorem nil : StopsAtFailure [] outcome := by
  constructor
  · intro event member
    cases member
  · exact .nil

/-- An access that is no write. -/
theorem one {event : Event} (reads : ∀ path value, event.access ≠ .write path value) :
    StopsAtFailure [event] outcome := by
  constructor
  · rintro _ ⟨⟩ error ⟨path, value, fault, write, -⟩
    exact absurd write (reads path value)
  · exact .singleton event

/-- What runs after a success. -/
theorem append {value : β} (first : StopsAtFailure earlier (.ok value : Except Error β))
    (second : StopsAtFailure events outcome) : StopsAtFailure (events ++ earlier) outcome := by
  constructor
  · intro event member error fails
    cases events with
    | nil => cases first.last event member error fails
    | cons latest rest => exact second.last event member error fails
  · rw [List.isChain_append]
    refine ⟨second.followed, first.followed, fun next _ event member error fails => ?_⟩
    cases first.last event member error fails

/-- What runs again after a busy resource. -/
theorem again {error : Error} (busy : error.isResourceBusy = true)
    (first : StopsAtFailure earlier (.error error : Except Error α))
    (second : StopsAtFailure events outcome) (accesses : events = [] → earlier = []) :
    StopsAtFailure (events ++ earlier) outcome := by
  constructor
  · intro event member found fails
    cases events with
    | nil =>
        rw [accesses rfl] at member
        cases member
    | cons latest rest => exact second.last event member found fails
  · rw [List.isChain_append]
    refine ⟨second.followed, first.followed, fun next _ event member found fails => ?_⟩
    cases first.last event member found fails
    exact .inl busy

end StopsAtFailure

/-- A run adds events to the trace and stops at its first failed write. -/
def World.Stops {α : Type} (before : World) (run : Except Error α × World) : Prop :=
  ∃ events, run.2.trace = events ++ before.trace ∧ StopsAtFailure events run.1

namespace Sysfs

variable {allowed : Access → Prop} {α : Type} {program : Sysfs α} {env : Env}
  {world first second : World}

/-- The trace of a run is what it was with events added. -/
def Adds (_ : Env) (before after : World) : Prop :=
  after.self = before.self ∧ ∃ events, after.trace = events ++ before.trace

theorem Confined.adds (confined : Confined allowed program) : Exec.Moves Adds program := by
  intro env world
  have free : Confined (fun _ => True) program := confined.mono fun _ _ => trivial
  obtain ⟨self, events, trace, -⟩ := free.accesses (fun _ => trivial) env world
  exact ⟨self, events, trace⟩

theorem Adds.trans (env : Env) (first second third : World) (one : Adds env first second)
    (two : Adds env second third) : Adds env first third := by
  obtain ⟨self, events, trace⟩ := one
  obtain ⟨last, more, further⟩ := two
  exact ⟨last.trans self, more ++ events, by rw [further, trace, List.append_assoc]⟩

/-! ## Single accesses -/

theorem inspect_trace (path : Path) (observe : Files → α) (env : Env) (world : World) :
    ∃ reply states, (inspect path observe env world).2.trace =
      ⟨.inspect path, reply, states⟩ :: world.trace := by
  have trace : (env.advance world (.inspect path)).trace =
      ⟨.inspect path, (env.serve world (.inspect path)).1, world.self.states⟩ :: world.trace := rfl
  refine ⟨_, _, Eq.trans ?_ trace⟩
  unfold Sysfs.inspect
  rw [Exec.bind_run, perform_run]
  dsimp only
  cases (env.serve world (.inspect path)).1 <;> rfl

/-- A write that fails is reported. -/
theorem writeBytes_stops (path : Path) (value : String) (env : Env) (world : World) :
    ∃ event, event.access = .write path value ∧
      (writeBytes path value env world).2.trace = event :: world.trace ∧
      StopsAtFailure [event] (writeBytes path value env world).1 := by
  have trace : (env.advance world (.write path value)).trace =
      ⟨.write path value, (env.serve world (.write path value)).1, world.self.states⟩ ::
        world.trace := rfl
  refine ⟨_, rfl, Eq.trans ?_ trace, ?_, .singleton _⟩
  · unfold writeBytes
    rw [Exec.bind_run, perform_run]
    dsimp only
    rcases (env.serve world (.write path value)).1 with ⟨stage, errno⟩ | _ | content
    · cases stage <;> rfl
    · rfl
    · rfl
  · rintro event ⟨⟩ error ⟨other, text, fault, access, failed, rfl⟩
    cases access
    dsimp only at failed
    unfold writeBytes
    rw [Exec.bind_run, perform_run]
    dsimp only
    rw [failed]
    obtain ⟨stage, errno⟩ := fault
    cases stage <;> rfl

/-- An unbounded value whose width is refused is written once more. -/
theorem writeKernelUlongMax_stops (path : Path) (env : Env) (world : World) :
    ∃ events event, (writeKernelUlongMax path env world).2.trace = events ++ event :: world.trace ∧
      StopsAtFailure (events ++ [event]) (writeKernelUlongMax path env world).1 := by
  obtain ⟨event, access, trace, stops⟩ := writeBytes_stops path (toString (u64Bound - 1)) env world
  unfold writeKernelUlongMax selectKernelUlongMax writeValue
  rw [Exec.bind_run, Exec.attempt_run]
  cases run : writeBytes path (toString (u64Bound - 1)) env world with
  | mk outcome after =>
    rw [run] at trace stops
    cases outcome with
    | ok value =>
        refine ⟨[], event, trace, ?_⟩
        constructor
        · intro latest member error fails
          cases stops.last latest member error fails
        · exact stops.followed
    | error error =>
        dsimp only
        by_cases width : isKernelUlongWidthError error = true
        · rw [if_pos width]
          obtain ⟨next, second, more, last⟩ :=
            writeBytes_stops path (toString (u32Bound - 1)) env after
          rw [Exec.bind_run]
          cases again : writeBytes path (toString (u32Bound - 1)) env after with
          | mk result ended =>
            rw [again] at more last
            dsimp only at more trace
            rw [trace] at more
            have makes : next.MakesUpFor event := by
              intro found fails
              cases stops.last event rfl found fails
              exact .inr ⟨width, path, access, second⟩
            have chain : [next, event].IsChain Event.MakesUpFor := .cons_cons makes (.singleton _)
            cases result with
            | ok value =>
                refine ⟨[next], event, more, ?_, chain⟩
                intro latest member found fails
                cases last.last latest member found fails
            | error failure =>
                refine ⟨[next], event, more, ?_, chain⟩
                intro latest member found fails
                cases last.last latest member found fails
                rfl
        · rw [if_neg width]
          refine ⟨[], event, trace, ?_, stops.followed⟩
          intro latest member found fails
          cases stops.last latest member found fails
          rfl

/-! ## Programs that make no access -/

/-- What a run without any access returns depends on the memory only. -/
structure Silent (program : Sysfs α) (env : Env) (first second : World) : Prop where
  outcome : (program env second).1 = (program env first).1
  trace : (program env second).2.trace = second.trace

theorem trace_grows {after : World} (events : List Event) {event : Event}
    (trace : after.trace = events ++ event :: world.trace) : after.trace ≠ world.trace := by
  intro same
  have lengths := congrArg List.length (trace.symm.trans same)
  rw [List.length_append, List.length_cons] at lengths
  omega

/-- A composition makes no access when its parts make none. -/
theorem silent_parts {β : Type} {next : α → Sysfs β} (confined : Confined allowed program)
    (rest : ∀ value, Exec.Returns program value → Confined allowed (next value))
    (quiet : ((program >>= next) env world).2.trace = world.trace) :
    (program env world).2.trace = world.trace ∧
      ∀ value after, program env world = (.ok value, after) →
        (next value env after).2.trace = after.trace := by
  obtain ⟨-, events, added⟩ := confined.adds env world
  rw [Exec.bind_run] at quiet
  cases run : program env world with
  | mk outcome after =>
    rw [run] at quiet added
    cases outcome with
    | error error => exact ⟨quiet, fun _ _ same => by cases same⟩
    | ok value =>
        obtain ⟨-, more, further⟩ := (rest value ⟨env, world, after, run⟩).adds env after
        dsimp only at quiet added ⊢
        rw [further, added, ← List.append_assoc] at quiet
        have nothing := List.append_left_eq_self.mp quiet
        rw [List.append_eq_nil_iff] at nothing
        obtain ⟨rfl, rfl⟩ := nothing
        refine ⟨added, fun _ _ same => ?_⟩
        cases same
        exact further

/-- When a program that is retried makes no access, its first attempt makes none. -/
theorem Confined.retry_quiet (confined : Confined allowed program) {budget : Nat}
    (quiet : (Exec.retry Error.isResourceBusy program budget env world).2.trace = world.trace) :
    (program env world).2.trace = world.trace := by
  cases budget with
  | zero => exact quiet
  | succ budget =>
      obtain ⟨-, events, added⟩ := confined.adds env world
      cases run : program env world with
      | mk result after =>
        rw [run] at added
        cases result with
        | ok value =>
            rw [Exec.retry_run_ok run] at quiet
            exact quiet
        | error error =>
            by_cases busy : error.isResourceBusy = true
            · have later : Adds env after
                  (Exec.retry Error.isResourceBusy program budget env after).2 :=
                Exec.moves_retry Adds.trans confined.adds budget env after
              obtain ⟨-, more, further⟩ := later
              rw [Exec.retry_run_again run busy, further, added, ← List.append_assoc] at quiet
              have nothing := List.append_left_eq_self.mp quiet
              rw [(List.append_eq_nil_iff.mp nothing).2] at added
              exact added
            · rw [Exec.retry_run_stop run busy] at quiet
              exact quiet

theorem Confined.silent (confined : Confined allowed program) (self : first.self = second.self)
    (quiet : (program env first).2.trace = first.trace) : Silent program env first second := by
  induction confined generalizing first second with
  | pure value => exact ⟨rfl, rfl⟩
  | fail error => exact ⟨rfl, rfl⟩
  | self =>
      refine ⟨?_, rfl⟩
      rw [getSelf_run, getSelf_run, self]
  | environment => exact ⟨rfl, rfl⟩
  | inspect path observe =>
      obtain ⟨reply, states, trace⟩ := inspect_trace path observe env first
      exact absurd quiet (trace_grows [] trace)
  | read path permitted => exact absurd quiet (trace_grows [] rfl)
  | compare path permitted => exact absurd quiet (trace_grows [] rfl)
  | write path value permitted =>
      obtain ⟨event, -, trace, -⟩ := writeBytes_stops path value env first
      exact absurd quiet (trace_grows [] trace)
  | widest path wide narrow =>
      obtain ⟨events, event, trace, -⟩ := writeKernelUlongMax_stops path env first
      exact absurd quiet (trace_grows events trace)
  | bindReturned confined rest one two =>
      rename_i program next
      obtain ⟨before, later⟩ := silent_parts confined rest quiet
      obtain ⟨outcome, trace⟩ := one self before
      have selfFirst := (confined.adds env first).1
      have selfSecond := (confined.adds env second).1
      cases run : program env first with
      | mk result after =>
        cases also : program env second with
        | mk other ended =>
          rw [run, also] at outcome
          rw [run] at selfFirst
          rw [also] at trace selfSecond
          dsimp only at outcome trace
          subst outcome
          cases other with
          | error error =>
              refine ⟨?_, ?_⟩
              · rw [Exec.bind_run_error run, Exec.bind_run_error also]
              · rw [Exec.bind_run_error also]
                exact trace
          | ok value =>
              obtain ⟨last, still⟩ := two value ⟨env, first, after, run⟩
                (selfFirst.trans (self.trans selfSecond.symm)) (later value after run)
              refine ⟨?_, ?_⟩
              · rw [Exec.bind_run_ok run, Exec.bind_run_ok also]
                exact last
              · rw [Exec.bind_run_ok also]
                exact still.trans trace
  | retry confined ih =>
      rename_i program
      unfold retryBusy at quiet ⊢
      generalize maxRetries = budget at quiet ⊢
      induction budget generalizing first second with
      | zero => exact ih self quiet
      | succ budget again =>
          have selfFirst := (confined.adds env first).1
          have selfSecond := (confined.adds env second).1
          cases run : program env first with
          | mk result after =>
            rw [run] at selfFirst
            have same : after.trace = first.trace := by
              have attempt := confined.retry_quiet quiet
              rwa [run] at attempt
            obtain ⟨outcome, trace⟩ := ih self (by rw [run]; exact same)
            cases also : program env second with
            | mk other ended =>
              rw [also] at outcome trace selfSecond
              rw [run] at outcome
              dsimp only at outcome trace selfSecond selfFirst
              subst outcome
              cases other with
              | ok value =>
                  constructor
                  · rw [Exec.retry_run_ok run, Exec.retry_run_ok also]
                  · rw [Exec.retry_run_ok also]
                    exact trace
              | error error =>
                  by_cases busy : error.isResourceBusy = true
                  · rw [Exec.retry_run_again run busy] at quiet
                    obtain ⟨last, still⟩ := again (selfFirst.trans (self.trans selfSecond.symm))
                      (quiet.trans same.symm)
                    constructor
                    · rw [Exec.retry_run_again run busy, Exec.retry_run_again also busy]
                      exact last
                    · rw [Exec.retry_run_again also busy]
                      exact still.trans trace
                  · constructor
                    · rw [Exec.retry_run_stop run busy, Exec.retry_run_stop also busy]
                    · rw [Exec.retry_run_stop also busy]
                      exact trace

/-- A program that only makes allowed accesses stops at its first failed write. -/
theorem Confined.stops (confined : Confined allowed program) (env : Env) (world : World) :
    world.Stops (program env world) := by
  induction confined generalizing world with
  | pure value => exact ⟨[], rfl, .nil⟩
  | fail error => exact ⟨[], rfl, .nil⟩
  | self => exact ⟨[], rfl, .nil⟩
  | environment => exact ⟨[], rfl, .nil⟩
  | inspect path observe =>
      obtain ⟨reply, states, trace⟩ := inspect_trace path observe env world
      exact ⟨[_], trace, .one fun _ _ same => by cases same⟩
  | read path permitted => exact ⟨[_], rfl, .one fun _ _ same => by cases same⟩
  | compare path permitted => exact ⟨[_], rfl, .one fun _ _ same => by cases same⟩
  | write path value permitted =>
      obtain ⟨event, -, trace, stops⟩ := writeBytes_stops path value env world
      exact ⟨[event], trace, stops⟩
  | widest path wide narrow =>
      obtain ⟨events, event, trace, stops⟩ := writeKernelUlongMax_stops path env world
      exact ⟨events ++ [event], by rw [trace, List.append_assoc]; rfl, stops⟩
  | bindReturned confined rest one two =>
      rename_i program next
      obtain ⟨events, trace, stops⟩ := one world
      cases run : program env world with
      | mk outcome after =>
        rw [run] at trace stops
        cases outcome with
        | error error =>
            rw [Exec.bind_run_error run]
            refine ⟨events, trace, ?_, stops.followed⟩
            intro event member failure fails
            cases stops.last event member failure fails
            rfl
        | ok value =>
            obtain ⟨more, further, last⟩ := two value ⟨env, world, after, run⟩ after
            rw [Exec.bind_run_ok run]
            dsimp only at trace
            exact ⟨more ++ events, by rw [further, trace, List.append_assoc], stops.append last⟩
  | retry confined ih =>
      rename_i program
      unfold retryBusy
      generalize maxRetries = budget
      induction budget generalizing world with
      | zero => exact ih world
      | succ budget again =>
          obtain ⟨events, trace, stops⟩ := ih world
          cases run : program env world with
          | mk outcome after =>
            have self := (confined.adds env world).1
            rw [run] at trace stops self
            cases outcome with
            | ok value =>
                rw [Exec.retry_run_ok run]
                exact ⟨events, trace, stops⟩
            | error error =>
                by_cases busy : error.isResourceBusy = true
                · obtain ⟨more, further, last⟩ := again after
                  rw [Exec.retry_run_again run busy]
                  dsimp only at trace
                  refine ⟨more ++ events, by rw [further, trace, List.append_assoc],
                    stops.again busy last fun nothing => ?_⟩
                  rw [nothing] at further
                  have second := confined.silent self (confined.retry_quiet further)
                  have quiet := second.trace
                  rw [run] at quiet
                  exact List.append_left_eq_self.mp (trace.symm.trans quiet)
                · rw [Exec.retry_run_stop run busy]
                  exact ⟨events, trace, stops⟩

end Sysfs

end DamonRs
