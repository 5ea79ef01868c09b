import DamonRs.Sysfs.ConfinedStaging
import DamonRs.Sysfs.Runtime

/-!
# What a run leaves in the trace

A program that leaves the memory of the session alone extends the trace by the
accesses it makes.  The kinds of accesses named here are those that the
invariants of a session tell apart: reads, writes of configuration, and
commands to one kdamond.
-/

namespace DamonRs

open Library Sysfs

/-! ## Extending the trace -/

/-- The memory is unchanged and the trace extended by allowed accesses. -/
structure World.Extends (allowed : Access → Prop) (before after : World) : Prop where
  self : after.self = before.self
  trace : ∃ later, after.trace = later ++ before.trace ∧
    ∀ event ∈ later, allowed event.access ∧ event.states = before.self.states

namespace World.Extends

variable {allowed : Access → Prop}

theorem refl (world : World) : Extends allowed world world :=
  ⟨rfl, [], rfl, by simp⟩

theorem trans {first second third : World} (one : Extends allowed first second)
    (two : Extends allowed second third) : Extends allowed first third := by
  obtain ⟨self, later, trace, accesses⟩ := one
  obtain ⟨nextSelf, latest, nextTrace, nextAccesses⟩ := two
  refine ⟨nextSelf.trans self, latest ++ later, ?_, ?_⟩
  · rw [nextTrace, trace, List.append_assoc]
  · intro event member
    rcases List.mem_append.mp member with inLatest | inLater
    · exact self ▸ nextAccesses event inLatest
    · exact accesses event inLater

theorem mono {wider : Access → Prop} {before after : World}
    (extends_ : Extends allowed before after)
    (widen : ∀ access, allowed access → wider access) : Extends wider before after := by
  obtain ⟨self, later, trace, accesses⟩ := extends_
  exact ⟨self, later, trace, fun event member =>
    ⟨widen _ (accesses event member).1, (accesses event member).2⟩⟩

/-- Taking a known kind of step once more. -/
theorem advance (env : Env) (world : World) {access : Access} (permitted : allowed access) :
    Extends allowed world (env.advance world access) :=
  ⟨rfl, [_], rfl, by rintro _ (_ | ⟨_, ⟨⟩⟩); exact ⟨permitted, rfl⟩⟩

/-- A property of traces that every allowed access keeps is kept. -/
theorem induct {before after : World} (extends_ : Extends allowed before after)
    (holds : List Event → Prop) (initial : holds before.trace)
    (step : ∀ event earlier, allowed event.access → event.states = before.self.states →
      holds earlier → holds (event :: earlier)) : holds after.trace := by
  obtain ⟨_, later, trace, accesses⟩ := extends_
  rw [trace]
  clear trace
  induction later with
  | nil => exact initial
  | cons event later ih =>
      obtain ⟨permitted, states⟩ := accesses event (List.mem_cons_self ..)
      refine step event _ permitted states (ih fun other member => ?_)
      exact accesses other (List.mem_cons_of_mem event member)

end World.Extends

/-- The trace has been extended by allowed accesses. -/
def World.Since (allowed : Access → Prop) (before after : World) : Prop :=
  ∃ later, after.trace = later ++ before.trace ∧ ∀ event ∈ later, allowed event.access

namespace World.Since

variable {allowed : Access → Prop}

theorem refl (world : World) : World.Since allowed world world := ⟨[], rfl, by simp⟩

theorem trans {first second third : World} (one : World.Since allowed first second)
    (two : World.Since allowed second third) : World.Since allowed first third := by
  obtain ⟨later, trace, accesses⟩ := one
  obtain ⟨latest, nextTrace, nextAccesses⟩ := two
  refine ⟨latest ++ later, by rw [nextTrace, trace, List.append_assoc], fun event member => ?_⟩
  exact (List.mem_append.mp member).elim (nextAccesses event) (accesses event)

theorem mono {wider : Access → Prop} {before after : World} (since : World.Since allowed before after)
    (widen : ∀ access, allowed access → wider access) : World.Since wider before after := by
  obtain ⟨later, trace, accesses⟩ := since
  exact ⟨later, trace, fun event member => widen _ (accesses event member)⟩

/-- Only the traces count. -/
theorem congr {first second before after : World} (since : World.Since allowed before after)
    (start : first.trace = before.trace) (last : second.trace = after.trace) :
    World.Since allowed first second := by
  unfold World.Since
  rw [start, last]
  exact since

end World.Since

theorem World.Extends.since {allowed : Access → Prop} {before after : World}
    (extends_ : World.Extends allowed before after) : World.Since allowed before after := by
  obtain ⟨-, later, trace, accesses⟩ := extends_
  exact ⟨later, trace, fun event member => (accesses event member).1⟩

/-- Every run leaves the memory alone and makes only allowed accesses. -/
def Accesses (allowed : Access → Prop) {α : Type} (program : Sysfs α) : Prop :=
  Exec.Moves (fun _ => World.Extends allowed) program

namespace Accesses

variable {allowed : Access → Prop} {α β : Type}

theorem perform {access : Access} (permitted : allowed access) :
    Accesses allowed (Sysfs.perform access) :=
  fun env world => .advance env world permitted

theorem fail (error : Error) : Accesses allowed (Exec.fail error : Sysfs α) :=
  fun _ world => .refl world

theorem bindReturned {program : Sysfs α} {next : α → Sysfs β} (first : Accesses allowed program)
    (second : ∀ value, Exec.Returns program value → Accesses allowed (next value)) :
    Accesses allowed (program >>= next) :=
  Exec.moves_bind_returned (fun _ _ _ _ one two => one.trans two) first second

theorem bind {program : Sysfs α} {next : α → Sysfs β} (first : Accesses allowed program)
    (second : ∀ value, Accesses allowed (next value)) : Accesses allowed (program >>= next) :=
  first.bindReturned fun value _ => second value

theorem attempt {program : Sysfs α} (accesses : Accesses allowed program) :
    Accesses allowed (Exec.attempt program) :=
  Exec.moves_attempt accesses

theorem writeBytes {path : Path} {value : String} (permitted : allowed (.write path value)) :
    Accesses allowed (Sysfs.writeBytes path value) := by
  refine (perform permitted).bind fun reply => ?_
  cases reply with
  | failed fault =>
      dsimp only
      split <;> exact fail _
  | done => exact fun env world => ⟨rfl, [], rfl, by simp⟩
  | content content => exact fun env world => ⟨rfl, [], rfl, by simp⟩

end Accesses

/-- A confined program leaves the memory of the session alone. -/
theorem Sysfs.Confined.accesses {allowed : Access → Prop} {α : Type} {program : Sysfs α}
    (confined : Confined allowed program) (inspects : ∀ path, allowed (.inspect path)) :
    Accesses allowed program :=
  confined.moves (fun _ => .refl) (fun _ _ _ _ => .trans)
    (fun path => Accesses.perform (inspects path)) (fun _ => Accesses.perform)
    (fun _ => Accesses.perform) (fun _ _ => Accesses.writeBytes)

/-- Time passes. -/
theorem Sysfs.Confined.clock {allowed : Access → Prop} {α : Type} {program : Sysfs α}
    (confined : Confined allowed program) :
    Exec.Moves (fun _ before after => before.clock ≤ after.clock) program := by
  have accesses : ∀ access, Exec.Moves (fun _ before after => before.clock ≤ after.clock)
      (perform access) := fun access env world => Nat.le_succ world.clock
  refine confined.moves (fun _ _ => le_refl _)
    (fun _ _ _ _ first second => le_trans first second) (fun _ => accesses _)
    (fun _ _ => accesses _) (fun _ _ => accesses _) fun path value _ => ?_
  have later : ∀ env (first second third : World), first.clock ≤ second.clock →
      second.clock ≤ third.clock → first.clock ≤ third.clock :=
    fun (_ : Env) _ _ _ one two => le_trans one two
  refine Exec.moves_bind later (accesses _) fun reply => ?_
  cases reply with
  | failed fault =>
      obtain ⟨stage, errno⟩ := fault
      cases stage <;> exact fun _ _ => le_refl _
  | done => exact fun _ _ => le_refl _
  | content content => exact fun _ _ => le_refl _

/-! ## The write journal -/

/-- A journal that is kept is extended by the paths of allowed writes. -/
def World.Journals (allowed : Access → Prop) (before after : World) : Prop :=
  ∀ written, before.journal = some written → ∃ later, after.journal = some (written ++ later) ∧
    ∀ path ∈ later, ∃ value, allowed (.write path value)

theorem World.Journals.same {allowed : Access → Prop} {before after : World}
    (same : after.journal = before.journal) : World.Journals allowed before after :=
  fun written kept => ⟨[], by rw [same, kept, List.append_nil], by simp⟩

theorem World.Journals.trans {allowed : Access → Prop} {first second third : World}
    (one : World.Journals allowed first second) (two : World.Journals allowed second third) :
    World.Journals allowed first third := by
  intro written kept
  obtain ⟨later, journal, accesses⟩ := one written kept
  obtain ⟨latest, nextJournal, nextAccesses⟩ := two _ journal
  refine ⟨later ++ latest, by rw [nextJournal, List.append_assoc], fun path member => ?_⟩
  rcases List.mem_append.mp member with inLater | inLatest
  · exact accesses path inLater
  · exact nextAccesses path inLatest

theorem Sysfs.Confined.journals {allowed : Access → Prop} {α : Type} {program : Sysfs α}
    (confined : Confined allowed program) :
    Exec.Moves (fun _ => World.Journals allowed) program := by
  refine confined.moves (fun _ _ => .same rfl) (fun _ _ _ _ => .trans) (fun _ _ _ => .same rfl)
    (fun _ _ _ _ => .same rfl) (fun _ _ _ _ => .same rfl) fun path value permitted => ?_
  refine Exec.moves_bind (fun _ _ _ _ => .trans) (fun _ _ => .same rfl) fun reply => ?_
  cases reply with
  | failed fault =>
      obtain ⟨stage, errno⟩ := fault
      cases stage <;> exact fun _ _ => .same rfl
  | done =>
      exact fun _ _ written kept => ⟨[path], by simp [World.recordWrite, kept],
        by simpa using ⟨value, permitted⟩⟩
  | content content =>
      exact fun _ _ written kept => ⟨[path], by simp [World.recordWrite, kept],
        by simpa using ⟨value, permitted⟩⟩

/-- Collecting runs an operation with a fresh journal. -/
theorem Sysfs.collectWrites_ok {α : Type} {program : Sysfs α} {env : Env} {world after : World}
    {outcome : Except Error α} {writes : List Path}
    (run : collectWrites program env world = (.ok (outcome, writes), after)) :
    ∃ final, program env { world with journal := some [] } = (outcome, final) ∧
      final.journal.getD [] = writes ∧ after = { final with journal := none } := by
  cases ran : program env { world with journal := some [] } with
  | mk outcome final =>
      simp only [collectWrites, ran] at run
      cases run
      exact ⟨final, rfl, rfl, rfl⟩

/-- The collected paths are those of allowed writes. -/
theorem Sysfs.Confined.collected {allowed : Access → Prop} {α : Type} {program : Sysfs α}
    (confined : Confined allowed program) {env : Env} {world after : World}
    {outcome : Except Error α} {writes : List Path}
    (run : collectWrites program env world = (.ok (outcome, writes), after)) :
    ∀ path ∈ writes, ∃ value, allowed (.write path value) := by
  obtain ⟨final, ran, rfl, rfl⟩ := collectWrites_ok run
  obtain ⟨later, journal, accesses⟩ := confined.journals env { world with journal := some [] } [] rfl
  rw [ran] at journal
  rw [show final.journal = some ([] ++ later) from journal]
  exact accesses

/-! ## Kinds of accesses -/

/-- The state file of a kdamond. -/
def Path.stateOf (index : Nat) : Path := (DamonAdmin.kdamond index).path ++ ["state"]

/-- The file with the thread identifier of a kdamond. -/
def Path.pidOf (index : Nat) : Path := (DamonAdmin.kdamond index).path ++ ["pid"]

theorem Path.stateOf_runtime (index : Nat) :
    Path.isRuntimeAttribute (Path.stateOf index) = true := rfl

theorem Path.stateOf_noCount (index : Nat) :
    Path.isReconstructionCount (Path.stateOf index) = false := by
  rw [stateOf, isReconstructionCount_append (by simp)]
  rfl

theorem Path.stateOf_injective : Function.Injective Path.stateOf := by
  intro first second same
  simp only [stateOf, DamonAdmin.kdamond, List.cons_append, List.nil_append, List.cons.injEq,
    and_true, true_and] at same
  exact indexName_injective same

theorem Path.pidOf_injective : Function.Injective Path.pidOf := by
  intro first second same
  simp only [pidOf, DamonAdmin.kdamond, List.cons_append, List.nil_append, List.cons.injEq,
    and_true, true_and] at same
  exact indexName_injective same

/-- Accesses that write nothing. -/
def ReadsOnly : Access → Prop
  | .write _ _ => False
  | _ => True

/-- Accesses that write nothing but configuration. -/
def WritesConfiguration : Access → Prop
  | .write path _ => Path.isRuntimeAttribute path = false
  | _ => True

/-- Accesses other than stopping a kdamond. -/
def NoStop : Access → Prop
  | .write path value => value = "off" → ∀ index, path ≠ Path.stateOf index
  | _ => True

theorem ReadsConfiguration.readsOnly {access : Access} (reads : ReadsConfiguration access) :
    ReadsOnly access := by
  cases access with
  | write path value => exact reads
  | _ => trivial

theorem ReadsOnly.noStop {access : Access} (reads : ReadsOnly access) : NoStop access := by
  cases access with
  | write path value => exact reads.elim
  | _ => trivial

theorem StagesConfiguration.writesConfiguration {access : Access}
    (stages : StagesConfiguration access) : WritesConfiguration access := by
  cases access with
  | write path value => exact stages
  | _ => trivial

theorem ReadsConfiguration.stages {access : Access} (reads : ReadsConfiguration access) :
    StagesConfiguration access := by
  cases access with
  | write path value => exact reads.elim
  | _ => exact reads

theorem ReadsOnly.writesConfiguration {access : Access} (reads : ReadsOnly access) :
    WritesConfiguration access := by
  cases access with
  | write path value => exact reads.elim
  | _ => trivial

/-- State files hold no configuration. -/
theorem WritesConfiguration.noStop {access : Access} (writes : WritesConfiguration access) :
    NoStop access := by
  cases access with
  | write path value =>
      rintro _ index rfl
      cases (Path.stateOf_runtime index).symm.trans writes
  | _ => trivial

/-! ## Thread identifiers -/

/-- A reply to a read that shows the identifier of a thread. -/
def Reply.Reports (reply : Reply) (pid : Pid) : Prop :=
  match reply with
  | .content (.text text) =>
      Text.parseSigned intBound (Text.trim text.raw) = some (pid.get.toNat : Int)
  | _ => False

instance (reply : Reply) (pid : Pid) : Decidable (reply.Reports pid) := by
  unfold Reply.Reports
  split <;> infer_instance

/-- An event in which the identifier of a thread of a kdamond was read. -/
structure Event.ReadsPid (event : Event) (index : Nat) (pid : Pid) : Prop where
  access : event.access = .read (Path.pidOf index)
  reply : event.reply.Reports pid

/-- The latest read of the thread identifier of a kdamond. -/
def lastPidRead (index : Nat) (trace : List Event) : Option Event :=
  trace.find? fun event => event.access = .read (Path.pidOf index)

/-- The thread identifier of a kdamond was last read as a given one. -/
def LastReported (index : Nat) (pid : Pid) (trace : List Event) : Prop :=
  ∃ event, lastPidRead index trace = some event ∧ event.reply.Reports pid

theorem lastReported_cons_read {index : Nat} {pid : Pid} {event : Event} {earlier : List Event}
    (reads : event.ReadsPid index pid) : LastReported index pid (event :: earlier) :=
  ⟨event, by simp [lastPidRead, reads.access], reads.reply⟩

theorem LastReported.cons {index : Nat} {pid : Pid} {event : Event} {earlier : List Event}
    (reported : LastReported index pid earlier)
    (other : event.access ≠ .read (Path.pidOf index)) :
    LastReported index pid (event :: earlier) := by
  obtain ⟨latest, found, reports⟩ := reported
  exact ⟨latest, by rwa [lastPidRead, List.find?_cons_of_neg (by simpa using other)], reports⟩

/-- A text is one read, whose reply is the text. -/
theorem Sysfs.readText_ok {path : Path} {env : Env} {world after : World} {value : String}
    (run : readText path env world = (.ok value, after)) :
    after = env.advance world (.read path) ∧ ∃ text,
      (env.serve world (.read path)).1 = .content (.text text) ∧ value = text.raw := by
  obtain ⟨reply, served, performed, shown⟩ := Exec.bind_eq_ok run
  cases performed
  rcases replied : (env.serve world (.read path)).1 with fault | _ | text | bytes
  · simp [replied] at shown
  · simp [replied] at shown
  · rw [replied] at shown
    cases shown
    exact ⟨rfl, text, rfl, rfl⟩
  · simp [replied] at shown

theorem Sysfs.readI32_ok {path : Path} {env : Env} {world after : World} {value : Int32}
    (run : readI32 path env world = (.ok value, after)) :
    after = env.advance world (.read path) ∧ ∃ text,
      (env.serve world (.read path)).1 = .content (.text text) ∧
      Text.parseSigned intBound (Text.trim text.raw) = some value.toInt := by
  obtain ⟨raw, middle, read, parse⟩ := Exec.bind_eq_ok run
  obtain ⟨rfl, text, replied, rfl⟩ := readText_ok read
  dsimp only at parse
  cases parsed : Text.parseSigned intBound (Text.trim text.raw) with
  | none => simp [parsed, invalidKernelValue] at parse
  | some number =>
      rw [parsed] at parse
      cases parse
      obtain ⟨low, high⟩ := Text.parseSigned_range (by decide) parsed
      refine ⟨rfl, text, replied, ?_⟩
      rw [parsed, Int32.toInt_ofInt_of_le low high]

/-- A thread identifier is one read, whose reply shows the identifier. -/
theorem Kdamond.pid_ok {index : Nat} {env : Env} {world after : World} {pid : Pid}
    (run : (DamonAdmin.kdamond index).pid env world = (.ok (some pid), after)) :
    after.self = world.self ∧ ∃ event, after.trace = event :: world.trace ∧
      event.ReadsPid index pid ∧ event.states = world.self.states := by
  obtain ⟨raw, middle, read, decided⟩ := Exec.bind_eq_ok run
  obtain ⟨rfl, text, replied, parsed⟩ := readI32_ok read
  by_cases negative : raw < 0
  · rw [if_pos negative] at decided
    cases decided
  · rw [if_neg negative] at decided
    cases made : Pid.new (UInt32.ofNat raw.toInt.toNat) with
    | error error =>
        rw [made] at decided
        cases decided
    | ok found =>
        rw [made] at decided
        cases decided
        refine ⟨rfl, _, rfl, ⟨rfl, ?_⟩, rfl⟩
        show Reply.Reports (env.serve world (.read (Path.pidOf index))).1 pid
        have same : pid.get = UInt32.ofNat raw.toInt.toNat := Pid.new_ok made
        have shown : (pid.get.toNat : Int) = raw.toInt := by
          have nonneg : 0 ≤ raw.toInt := by
            rw [← not_lt]
            exact fun below => negative (Int32.lt_iff_toInt_lt.mpr (by simpa using below))
          have bounded := Int32.toInt_lt raw
          rw [same, UInt32.toNat_ofNat_of_lt' (by
            have size : UInt32.size = 4294967296 := rfl
            omega)]
          exact Int.toNat_of_nonneg nonneg
        rw [show (env.serve world (.read (Path.pidOf index))).1 = _ from replied]
        exact parsed.trans (congrArg some shown.symm)

/-- A successful write is the last access of its run. -/
theorem Sysfs.writeBytes_ok {path : Path} {value : String} {env : Env} {world after : World}
    (run : writeBytes path value env world = (.ok (), after)) :
    after.self = world.self ∧ ∃ event, after.trace = event :: world.trace ∧
      event.access = .write path value ∧ event.reply = .done := by
  obtain ⟨reply, served, performed, shown⟩ := Exec.bind_eq_ok run
  cases performed
  have replied : (env.serve world (.write path value)).1 = .done ∨
      ∃ fault, (env.serve world (.write path value)).1 = .failed fault := by
    unfold Env.serve
    cases env.fault world.clock (.write path value) with
    | some fault => exact .inr ⟨fault, rfl⟩
    | none =>
        dsimp only [Env.respond]
        cases (env.interfere world.clock world.sys).write env.kernel
            (env.freshPid world.clock) path value with
        | ok sys => exact .inl rfl
        | error errno => exact .inr ⟨_, rfl⟩
  rcases replied with done | ⟨fault, failed⟩
  · rw [done] at shown
    cases shown
    exact ⟨rfl, _, rfl, rfl, done⟩
  · rw [failed] at shown
    obtain ⟨stage, errno⟩ := fault
    cases stage <;> cases shown

/-- A failed write is the last access of its run, too. -/
theorem Sysfs.writeBytes_error {path : Path} {value : String} {env : Env} {world after : World}
    {error : Error} (run : writeBytes path value env world = (.error error, after)) :
    after.self = world.self ∧ ∃ event, after.trace = event :: world.trace ∧
      event.access = .write path value ∧ ∃ fault, event.reply = .failed fault := by
  rcases Exec.bind_eq_error run with performed | ⟨reply, served, performed, shown⟩
  · cases performed
  cases performed
  rcases replied : (env.serve world (.write path value)).1 with fault | _ | content
  · rw [replied] at shown
    obtain ⟨stage, errno⟩ := fault
    cases stage <;> cases shown <;> exact ⟨rfl, _, rfl, rfl, _, replied⟩
  · rw [replied] at shown
    cases shown
  · rw [replied] at shown
    cases shown

/-! ## States -/

/-- A reply to a read that shows the state `off`. -/
def Reply.ShowsOff (reply : Reply) : Prop :=
  match reply with
  | .content (.text text) => Text.trim text.raw = "off"
  | _ => False

instance (reply : Reply) : Decidable reply.ShowsOff := by
  unfold Reply.ShowsOff
  split <;> infer_instance

/-- An event in which the state of a kdamond was read as `off`. -/
structure Event.ReadsOff (event : Event) (index : Nat) : Prop where
  access : event.access = .read (Path.stateOf index)
  reply : event.reply.ShowsOff

/-- A state `off` is one read, whose reply shows it. -/
theorem Kdamond.state_off {index : Nat} {env : Env} {world after : World}
    (run : (DamonAdmin.kdamond index).state env world = (.ok .off, after)) :
    after.self = world.self ∧ ∃ event, after.trace = event :: world.trace ∧
      event.ReadsOff index := by
  obtain ⟨text, middle, read, parsed⟩ := Exec.bind_eq_ok run
  obtain ⟨rfl, shown, replied, rfl⟩ := readText_ok read
  obtain rfl : env.advance world _ = after := (Prod.ext_iff.mp parsed).2
  refine ⟨rfl, _, rfl, rfl, ?_⟩
  show Reply.ShowsOff (env.serve world (.read (Path.stateOf index))).1
  rw [show (env.serve world (.read (Path.stateOf index))).1 = _ from replied]
  have outcome := (Prod.ext_iff.mp parsed).1
  simp only [Exec.ofExcept_run, KdamondState.fromStr] at outcome
  cases valid : validateToken "kdamond state" (Text.trim shown.raw) with
  | error error =>
      rw [valid] at outcome
      cases outcome
  | ok value =>
      rw [valid] at outcome
      by_cases on : Text.trim shown.raw = "on"
      · simp [on, pure, Except.pure, bind, Except.bind] at outcome
      · by_cases off : Text.trim shown.raw = "off"
        · exact off
        · simp [on, off, pure, Except.pure, bind, Except.bind] at outcome

end DamonRs
