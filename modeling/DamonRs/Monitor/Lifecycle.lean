import DamonRs.Monitor.Identity
import DamonRs.Sysfs.Compare
import DamonRs.Sysfs.Frame

/-!
# Starting and stopping while nobody else acts

While nobody else changes the system, a check changes nothing, and the start or
the stop of one kdamond touches only its state file, its thread identifier and
what the session records about it.
-/

namespace DamonRs

open Library Sysfs

/-- Nobody else changes the system. -/
def Env.Still (env : Env) : Prop := ∀ clock sys, env.interfere clock sys = sys

/-! ## What programs change -/

namespace World

/-- The memory and the system are as before. -/
structure Looks (before after : World) : Prop where
  self : after.self = before.self
  sys : after.sys = before.sys

/-- Only one kdamond was touched: its state file, its thread, and its recorded state. -/
structure Touches (index : Nat) (before after : World) : Prop where
  staged : after.self.staged = before.self.staged
  previous : after.self.previous = before.self.previous
  owns : after.self.ownsHierarchy = before.self.ownsHierarchy
  length : after.self.states.length = before.self.states.length
  states : ∀ other, other ≠ index → after.self.states[other]? = before.self.states[other]?
  files : ∀ path, path ≠ Path.stateOf index → path ≠ Path.pidOf index →
    after.sys.files.get? path = before.sys.files.get? path

namespace Looks

variable {first second third before after : World}

theorem refl (world : World) : Looks world world := ⟨rfl, rfl⟩

theorem trans (one : Looks first second) (two : Looks second third) : Looks first third :=
  ⟨two.self.trans one.self, two.sys.trans one.sys⟩

theorem touches (looks : Looks before after) (index : Nat) : Touches index before after where
  staged := congrArg _ looks.self
  previous := congrArg _ looks.self
  owns := congrArg _ looks.self
  length := congrArg (fun self : ManagedHierarchy => self.states.length) looks.self
  states other _ := congrArg (fun self : ManagedHierarchy => self.states[other]?) looks.self
  files path _ _ := congrArg (fun sys : System => sys.files.get? path) looks.sys

end Looks

namespace Touches

variable {index : Nat} {first second third before after : World}

theorem refl (world : World) : Touches index world world := (Looks.refl world).touches index

theorem trans (one : Touches index first second) (two : Touches index second third) :
    Touches index first third where
  staged := two.staged.trans one.staged
  previous := two.previous.trans one.previous
  owns := two.owns.trans one.owns
  length := two.length.trans one.length
  states other different := (two.states other different).trans (one.states other different)
  files path state pid := (two.files path state pid).trans (one.files path state pid)

theorem state (touches : Touches index before after) {other : Nat} (different : other ≠ index) :
    after.self.state other = before.self.state other := by
  unfold ManagedHierarchy.state
  rw [touches.states other different]

theorem stateFile (touches : Touches index before after) {other : Nat}
    (different : other ≠ index) :
    after.sys.files.get? (Path.stateOf other) = before.sys.files.get? (Path.stateOf other) := by
  refine touches.files _ (fun same => different (Path.stateOf_injective same)) ?_
  intro same
  simp [Path.stateOf, Path.pidOf, DamonAdmin.kdamond] at same

theorem pidFile (touches : Touches index before after) {other : Nat}
    (different : other ≠ index) :
    after.sys.files.get? (Path.pidOf other) = before.sys.files.get? (Path.pidOf other) := by
  refine touches.files _ ?_ fun same => different (Path.pidOf_injective same)
  intro same
  simp [Path.stateOf, Path.pidOf, DamonAdmin.kdamond] at same

theorem showsState (touches : Touches index before after) {other : Nat}
    (different : other ≠ index) {state : KdamondState} :
    after.sys.ShowsState other state ↔ before.sys.ShowsState other state := by
  unfold System.ShowsState
  rw [touches.stateFile different]

theorem showsThread (touches : Touches index before after) {other : Nat}
    (different : other ≠ index) {pid : Pid} :
    after.sys.ShowsThread other pid ↔ before.sys.ShowsThread other pid := by
  unfold System.ShowsThread
  rw [touches.pidFile different]

end Touches

end World

/-- Every run of a program relates its worlds, if nobody else acts. -/
def Sysfs.StillMoves {α : Type} (relation : World → World → Prop) (program : Sysfs α) : Prop :=
  Exec.Moves (fun env before after => env.Still → relation before after) program

namespace Sysfs.StillMoves

variable {α β : Type} {relation : World → World → Prop}

theorem run {program : Sysfs α} (moves : StillMoves relation program) {env : Env}
    (still : env.Still) {world after : World} {outcome : Except Error α}
    (ends : program env world = (outcome, after)) : relation world after := by
  have related := moves env world still
  rwa [ends] at related

theorem bind (trans : ∀ first second third, relation first second → relation second third →
      relation first third) {program : Sysfs α} {next : α → Sysfs β}
    (first : StillMoves relation program) (second : ∀ value, StillMoves relation (next value)) :
    StillMoves relation (program >>= next) :=
  Exec.moves_bind (fun _ _ _ _ one two still => trans _ _ _ (one still) (two still)) first second

end Sysfs.StillMoves

theorem Env.Still.advance_sys {env : Env} (still : env.Still) (world : World) {access : Access}
    (reads : ReadsOnly access) : (env.advance world access).sys = world.sys := by
  simp only [Env.advance, Env.serve]
  rw [still]
  cases env.fault world.clock access with
  | some fault => rfl
  | none =>
      cases access with
      | inspect path => rfl
      | read path =>
          dsimp only [Env.respond]
          cases world.sys.files.get? path <;> rfl
      | compare path =>
          dsimp only [Env.respond]
          cases world.sys.files.get? path <;> rfl
      | write path value => exact reads.elim

/-- Reading changes nothing. -/
theorem Sysfs.Confined.looks {α : Type} {program : Sysfs α}
    (confined : Confined ReadsOnly program) : StillMoves World.Looks program := by
  have performs : ∀ access, ReadsOnly access →
      Exec.Moves (fun env before after => env.Still → World.Looks before after)
        (perform access) :=
    fun access reads env world still => ⟨rfl, still.advance_sys world reads⟩
  exact confined.moves (fun _ world _ => .refl world)
    (fun _ _ _ _ one two still => (one still).trans (two still)) (fun _ => performs _ trivial)
    (fun _ reads => performs _ reads) (fun _ reads => performs _ reads)
    fun _ _ writes => writes.elim

/-- A program that only makes accesses leaves the memory alone. -/
theorem Sysfs.Confined.self_run {allowed : Access → Prop} {α : Type} {program : Sysfs α}
    (confined : Confined allowed program) {env : Env} {world after : World}
    {outcome : Except Error α} (run : program env world = (outcome, after)) :
    after.self = world.self := by
  have anything : Confined (fun _ => True) program := confined.mono fun _ _ => trivial
  have extends_ := anything.accesses (fun _ => trivial) env world
  rw [run] at extends_
  exact extends_.self

/-- Accesses that read anything or write to the state file of one kdamond. -/
def WritesState (index : Nat) : Access → Prop
  | .write path _ => path = Path.stateOf index
  | _ => True

/-- An accepted write to a state file changes at most this file and the thread next to it. -/
theorem System.write_state_other {kernel : Kernel} {pid : Pid} {sys after : System} {index : Nat}
    {value : String} (written : sys.write kernel pid (Path.stateOf index) value = .ok after)
    {other : Path} (state : other ≠ Path.stateOf index) (thread : other ≠ Path.pidOf index) :
    after.files.get? other = sys.files.get? other := by
  rcases System.write_cases written with ⟨directory, kind, sent⟩ | ⟨_, isCount, _⟩ | ⟨_, _, rfl⟩
  · have same := System.kdamondOfState?_eq_some kind
    rw [Path.stateOf] at same
    obtain rfl := List.append_cancel_right same
    exact System.command_other sent state thread
  · rw [Path.stateOf_noCount] at isCount
    cases isCount
  · exact Files.get?_setText_of_ne _ state

/-- Writing to the state file of a kdamond touches this kdamond. -/
theorem Sysfs.Confined.touches {α : Type} {program : Sysfs α} {index : Nat}
    (confined : Confined (WritesState index) program) :
    StillMoves (World.Touches index) program := by
  have performs : ∀ access, ReadsOnly access →
      Exec.Moves (fun env before after => env.Still → World.Touches index before after)
        (perform access) := by
    intro access reads env world still
    have looks : World.Looks world (env.advance world access) :=
      ⟨rfl, still.advance_sys world reads⟩
    exact looks.touches index
  refine confined.moves (fun _ world _ => .refl world)
    (fun _ _ _ _ one two still => (one still).trans (two still)) (fun _ => performs _ trivial)
    (fun _ _ => performs _ trivial) (fun _ _ => performs _ trivial) fun path value writes => ?_
  obtain rfl : path = Path.stateOf index := writes
  intro env world still
  rcases writeBytes_cases (Path.stateOf index) value env world with ⟨error, run, same⟩ |
    ⟨run, written⟩
  · rw [run]
    have looks : World.Looks world (env.advance world (.write (Path.stateOf index) value)) :=
      ⟨rfl, same.trans (still _ _)⟩
    exact looks.touches index
  · rw [run]
    rw [still] at written
    exact ⟨rfl, rfl, rfl, rfl, fun _ _ => rfl, fun path state pid =>
      System.write_state_other written state pid⟩

/-! ## What reads show -/

section Reads

variable {index : Nat} {env : Env} {world after : World}

theorem Kdamond.state_shows (still : env.Still) {state : KdamondState}
    (run : (DamonAdmin.kdamond index).state env world = (.ok state, after)) :
    world.sys.ShowsState index state := by
  obtain ⟨text, middle, read, parsed⟩ := Exec.bind_eq_ok run
  obtain ⟨rfl, line, replied, rfl⟩ := readText_ok read
  obtain ⟨file, found, same⟩ := Env.advance_content (.inl rfl) replied
  have untouched := still.advance_sys world
    (show ReadsOnly (.read ((DamonAdmin.kdamond index).path ++ ["state"])) from trivial)
  rw [untouched] at found
  obtain ⟨content, writable⟩ := file
  obtain rfl : content = .text line := same
  exact ⟨line, writable, found, (Prod.ext_iff.mp parsed).1⟩

theorem Kdamond.pid_shows (still : env.Still) {pid : Pid}
    (run : (DamonAdmin.kdamond index).pid env world = (.ok (some pid), after)) :
    world.sys.ShowsThread index pid := by
  obtain ⟨raw, middle, read, decided⟩ := Exec.bind_eq_ok run
  obtain ⟨rfl, line, replied, _⟩ := readI32_ok read
  have shown := Kdamond.pid_ok run
  obtain ⟨_, event, trace, reads, _⟩ := shown
  obtain ⟨file, found, same⟩ := Env.advance_content (.inl rfl) replied
  have untouched := still.advance_sys world
    (show ReadsOnly (.read ((DamonAdmin.kdamond index).path ++ ["pid"])) from trivial)
  rw [untouched] at found
  have latest : after.trace = (env.advance world (.read (Path.pidOf index))).trace := by
    by_cases negative : raw < 0
    · rw [if_pos negative] at decided
      cases decided
    · rw [if_neg negative] at decided
      cases made : Pid.new (UInt32.ofNat raw.toInt.toNat) with
      | error error =>
          rw [made] at decided
          cases decided
      | ok found =>
          rw [made] at decided
          cases decided
          rfl
  rw [trace] at latest
  obtain ⟨rfl, _⟩ := List.cons.inj latest
  refine ⟨file, found, ?_⟩
  rw [same]
  have reports : Reply.Reports (env.serve world (.read (Path.pidOf index))).1 pid := reads.reply
  rwa [show (env.serve world (.read (Path.pidOf index))).1 = _ from replied] at reports

/-- A repeated read ends as one that starts in the same system. -/
theorem retryBusy_looks {α : Type} {program : Sysfs α} (confined : Confined ReadsOnly program)
    (still : env.Still) (world : World) :
    ∃ start, World.Looks world start ∧ retryBusy program env world = program env start := by
  obtain ⟨start, path, ends⟩ :=
    Exec.retry_ends Error.isResourceBusy program maxRetries env world
  refine ⟨start, ?_, ends⟩
  clear ends
  induction path with
  | refl => exact .refl world
  | tail _ last ih =>
      obtain ⟨error, _, failed⟩ := last
      exact ih.trans (confined.looks.run still failed)

theorem retryBusy_state_shows (still : env.Still) {state : KdamondState}
    (run : retryBusy (DamonAdmin.kdamond index).state env world = (.ok state, after)) :
    world.sys.ShowsState index state := by
  obtain ⟨start, same, ends⟩ := retryBusy_looks
    (Confined.readsOnly (Kdamond.state_confined index)) still world
  exact same.sys ▸ Kdamond.state_shows still (ends.symm.trans run)

theorem retryBusy_pid_shows (still : env.Still) {pid : Pid}
    (run : retryBusy (DamonAdmin.kdamond index).pid env world = (.ok (some pid), after)) :
    world.sys.ShowsThread index pid := by
  have reads : Confined ReadsOnly (DamonAdmin.kdamond index).pid := Kdamond.pid_confined trivial
  obtain ⟨start, same, ends⟩ := retryBusy_looks reads still world
  exact same.sys ▸ Kdamond.pid_shows still (ends.symm.trans run)

end Reads

namespace ManagedHierarchy

/-! ## Stopping and starting one kdamond -/

section Touching

variable {index : Nat} {α : Type}

theorem setState_touches (state : KdamondSessionState) :
    StillMoves (World.Touches index) (setState index state) := by
  intro env world _
  refine ⟨rfl, rfl, rfl, List.length_set, fun other different => ?_, fun _ _ _ => rfl⟩
  exact List.getElem?_set_ne (Ne.symm different)

theorem setState_state {state : KdamondSessionState} {env : Env} {world : World}
    (managed : index < world.self.states.length) :
    (setState index state env world).2.self.state index = state := by
  show ((world.self.states.set index state)[index]?).getD .staged = state
  rw [List.getElem?_set_self managed]
  rfl

theorem managed_of_running {self : ManagedHierarchy} {pid : Pid}
    (recorded : self.state index = .running pid) : index < self.states.length :=
  (List.getElem?_eq_some_iff.mp (state_eq_running.mp recorded)).1

theorem touches_seq {β : Type} {program : Sysfs α} {next : α → Sysfs β}
    (first : StillMoves (World.Touches index) program)
    (second : ∀ value, StillMoves (World.Touches index) (next value)) :
    StillMoves (World.Touches index) (program >>= next) :=
  .bind (fun _ _ _ => .trans) first second

/-- Reading touches nothing. -/
theorem touches_of_reads {program : Sysfs α} (confined : Confined ReadsOnly program) :
    StillMoves (World.Touches index) program :=
  fun env world still => (confined.looks env world still).touches index

theorem touches_fail (error : Error) :
    StillMoves (World.Touches index) (Exec.fail error : Sysfs α) :=
  fun _ world _ => .refl world

theorem command_touches (command : KdamondCommand) :
    StillMoves (World.Touches index) (retryBusy ((kdamond index).command command)) := by
  have permitted : WritesState index (.write (Path.stateOf index) command.kernelName) := rfl
  exact (Confined.retry (Kdamond.command_confined index command permitted)).touches

theorem stopUnlessOff_touches {whileOn : Sysfs Unit}
    (on : StillMoves (World.Touches index) whileOn) :
    StillMoves (World.Touches index) (stopUnlessOff index whileOn) := by
  refine touches_seq (touches_of_reads (Confined.readsOnly
    (.retry (Kdamond.state_confined index)))) fun state => ?_
  cases state with
  | off => exact setState_touches _
  | on => exact on
  | unknown name => exact touches_fail _

theorem stopIdentified_touches (expected : Pid) :
    StillMoves (World.Touches index) (stopIdentified index expected) := by
  refine touches_seq (touches_of_reads (currentPid_checks index).threadReadsOnly) fun current => ?_
  refine touches_seq (fun env world still => ?_) fun _ => touches_seq (command_touches _) fun _ => ?_
  · exact touches_of_reads (requireSamePid_confined current expected) env world still
  · refine touches_seq (touches_of_reads (Confined.readsOnly
      (.retry (Kdamond.state_confined index)))) fun state => ?_
    cases state with
    | off => exact setState_touches _
    | on => exact touches_fail _
    | unknown name => exact touches_fail _

theorem stopOne_touches : StillMoves (World.Touches index) (stopOne index) := by
  refine touches_seq (touches_of_reads .self) fun self => ?_
  cases self.state index with
  | staged => exact touches_of_reads (Confined.readsOnly (requireStagedOff_reads index))
  | running expected => exact stopUnlessOff_touches (stopIdentified_touches expected)
  | unidentifiedRunning => exact stopUnlessOff_touches (touches_fail _)

theorem verifyAndStop_touches : StillMoves (World.Touches index) (verifyAndStop index) := by
  refine touches_seq (touches_of_reads .self) fun self => touches_seq (touches_of_reads ?_)
    fun _ => stopOne_touches
  exact Confined.readsOnly (self.staged.verifyKdamondConfiguration_reads index)

theorem startOne_touches : StillMoves (World.Touches index) (startOne index) := by
  refine touches_seq (command_touches _) fun _ => touches_seq (setState_touches _) fun _ => ?_
  refine touches_seq (touches_of_reads (runningThreadPid_checks index).threadReadsOnly)
    fun pid => touches_seq (setState_touches _) fun _ => ?_
  refine touches_seq (touches_of_reads (verifyRunningIdentityOnly_checks index).threadReadsOnly)
    fun _ => touches_seq (touches_of_reads .self) fun self => touches_of_reads ?_
  exact Confined.readsOnly (self.staged.verifyKdamondConfiguration_reads index)

end Touching

end ManagedHierarchy

end DamonRs
