import DamonRs.Sysfs.Stepping

/-!
# Plain programs

A plain program looks whether paths exist, reads texts and writes attributes
that are not commands, one after the other.  Its step is determined by the
files, and the step of a composition is the one of its parts.
-/

namespace DamonRs

open Library Sysfs

/-! ## The files as the accesses see them -/

namespace Files

/-- The text that a read of an attribute returns. -/
def text (files : Files) (path : Path) : Except Error String :=
  match files.get? path with
  | some ⟨.text text, _⟩ => .ok text.raw
  | some ⟨.undecodable _, _⟩ => .error (.io "read" path .invalidData)
  | none => .error (.io "read" path (.os enoent))

/-- The text that a read of a number returns. -/
def numberText (files : Files) (path : Path) : Except Error String :=
  match files.get? path with
  | none => .error (.io "open for reading" path (.os enoent))
  | some file =>
      if file.content.bytes.length ≥ 64 then
        .error (.invalidKernelValue path "<value too long>" "u64")
      else
        match file.content with
        | .text text => .ok (Text.trim text.raw)
        | .undecodable _ => .error (.invalidKernelValue path "<non-UTF-8 value>" "u64")

/-- The files after a value has been written to an attribute that is no command. -/
def write (kernel : Kernel) (files : Files) (path : Path) (value : String) : Except Nat Files :=
  match files.get? path with
  | none => .error enoent
  | some file =>
      if !file.writable then .error eacces
      else if Path.isReconstructionCount path then
        match Text.parseUnsigned intBound value with
        | none => .error einval
        | some count =>
            .ok ((files.reconstruct kernel path.dropLast count).setText path (.ofWritten value))
      else .ok (files.setText path (.ofWritten value))

/-- The error of a write that the kernel refuses. -/
def writeError (files : Files) (path : Path) (errno : Nat) : Error :=
  .io (if (files.get? path).any File.writable then "write" else "open for writing") path
    (.os errno)

theorem write_errno {kernel : Kernel} {files : Files} {path : Path} {value : String} {errno : Nat}
    (refused : files.write kernel path value = .error errno) :
    errno = enoent ∨ errno = eacces ∨ (errno = einval ∧ Path.isReconstructionCount path = true) := by
  unfold write at refused
  split at refused
  · cases refused
    exact .inl rfl
  · split at refused
    · cases refused
      exact .inr (.inl rfl)
    · split at refused
      · rename_i isCount
        split at refused <;> cases refused
        exact .inr (.inr ⟨rfl, isCount⟩)
      · cases refused

end Files

theorem System.write_ordinary {kernel : Kernel} {pid : Pid} {sys : System} {path : Path}
    {value : String} (ordinary : System.kdamondOfState? path = none) :
    sys.write kernel pid path value =
      (sys.files.write kernel path value).map fun files => { sys with files := files } := by
  unfold System.write Files.write
  cases sys.files.get? path with
  | none => rfl
  | some file =>
      dsimp only
      rw [ordinary]
      by_cases writable : file.writable = true
      · simp only [writable, Bool.not_true, Bool.false_eq_true, if_false]
        by_cases isCount : Path.isReconstructionCount path = true
        · simp only [isCount, if_true]
          cases Text.parseUnsigned intBound value <;> rfl
        · simp only [isCount]
          rfl
      · simp only [writable, Bool.not_false, if_true]
        rfl

/-! ## What a write depends on -/

theorem Files.isDirectory_iff {files : Files} {directory : Path} :
    files.isDirectory directory = true ↔
      ∃ name rest, (files.get? (directory ++ name :: rest)).isSome = true := by
  unfold Files.isDirectory
  rw [List.any_eq_true]
  constructor
  · rintro ⟨path, member, below⟩
    cases stripped : stripPrefix? directory path with
    | none => simp [stripped] at below
    | some rest =>
        cases rest with
        | nil => simp [stripped] at below
        | cons name rest =>
            obtain rfl := stripPrefix?_eq_some.mp stripped
            exact ⟨name, rest, (Store.get?_isSome _ _).mpr member⟩
  · rintro ⟨name, rest, found⟩
    exact ⟨directory ++ name :: rest, (Store.get?_isSome _ _).mp found, by simp⟩

/-- A path exists when a file is there or below. -/
theorem Files.pathExists_iff {files : Files} {path : Path} :
    files.pathExists path = true ↔ ∃ inner, (files.get? (path ++ inner)).isSome = true := by
  unfold Files.pathExists
  rw [Bool.or_eq_true, Files.isDirectory_iff]
  constructor
  · rintro (found | ⟨name, rest, found⟩)
    · exact ⟨[], by simpa using found⟩
    · exact ⟨_, found⟩
  · rintro ⟨inner, found⟩
    cases inner with
    | nil => exact .inl (by simpa using found)
    | cons name rest => exact .inr ⟨name, rest, found⟩

/-- What a write does to the file at a path. -/
def Files.written (kernel : Kernel) (path : Path) (value : String) (found : Option File)
    (other : Path) : Option File :=
  let rebuilt :=
    match Text.parseUnsigned intBound value with
    | some count =>
        if Path.isReconstructionCount path && (indexedChild? path.dropLast other).isSome then
          Store.find other (Files.defaultChildren kernel path.dropLast count)
        else found
    | none => found
  if other = path then rebuilt.map fun file => { file with content := .text (.ofWritten value) }
  else rebuilt

theorem Files.write_get? {kernel : Kernel} {files after : Files} {path : Path} {value : String}
    (written : files.write kernel path value = .ok after) (other : Path) :
    after.get? other = Files.written kernel path value (files.get? other) other := by
  unfold Files.write at written
  split at written
  · cases written
  · split at written
    · cases written
    · unfold Files.written
      split at written
      · rename_i isCount
        cases parsed : Text.parseUnsigned intBound value with
        | none => simp [parsed] at written
        | some count =>
            rw [parsed] at written
            cases written
            have small : count ≤ 2 ^ 64 :=
              le_of_lt (lt_trans (Text.parseUnsigned_lt parsed) (by decide))
            simp only [isCount, Bool.true_and, Files.get?_setText, Files.get?_reconstruct small]
      · rename_i leaf
        cases written
        simp only [Bool.not_eq_true] at leaf
        rw [Files.get?_setText]
        cases Text.parseUnsigned intBound value <;> simp [leaf]

namespace Sysfs

variable {α β : Type} {kernel : Kernel}

/-! ## The steps of single accesses -/

theorem pure_step (value : α) :
    Determined kernel (Pure.pure value : Sysfs α) ∧
      (step kernel (Pure.pure value : Sysfs α)).Refines (.pure value) := by
  refine ⟨.pure value, ?_, ?_⟩
  · funext files
    simp [step, Step.pure, World.wrote_same, World.showing, World.initial]
  · rintro files written left ⟨env, world, -, -, busy, -⟩
    simp at busy

theorem fail_step {error : Error} (lasting : error.isResourceBusy = false) :
    Determined kernel (Exec.fail error : Sysfs α) ∧
      (step kernel (Exec.fail error : Sysfs α)).Refines (.fail error) := by
  refine ⟨.fail lasting, ?_, ?_⟩
  · funext files
    simp [step, Step.fail, World.wrote_same, World.showing, World.initial]
  · rintro files written left ⟨env, world, -, -, busy, -⟩
    simp [lasting] at busy

/-- Write an attribute that is no command. -/
def writeStep (kernel : Kernel) (path : Path) (value : String) : Step Files Path Error Unit where
  run files :=
    match files.write kernel path value with
    | .ok after => ⟨.ok (), {path}, after⟩
    | .error errno => ⟨.error (files.writeError path errno), {path}, files⟩
  cut files written left := written = {path} ∧ left = files

theorem pathExists_step (kernel : Kernel) (path : Path) :
    Determined kernel (pathExists path) ∧
      (step kernel (pathExists path)).Refines (.observe fun files => .ok (files.pathExists path)) := by
  refine Determined.of_look (.inspect path) _ (by simp) (by simp) ?_ ?_
  · intro env world steady
    have served : env.serve world (.inspect path) =
        env.respond world.clock world.sys (.inspect path) := steady.serve (by simp)
    have same : (env.advance world (.inspect path)).sys = world.sys :=
      steady.advance_sys (by simp)
    unfold pathExists inspectPresence inspect
    simp only [Exec.bind_run, perform_run, served, Env.respond, Exec.get_run, Exec.pure_run, same]
  · intro env world
    have anything : Confined (fun _ => True) (pathExists path) := pathExists_confined path
    obtain ⟨later, trace, -⟩ := (anything.accesses (by simp) env world).since
    exact ⟨later, trace⟩

theorem readText_step (kernel : Kernel) (path : Path) :
    Determined kernel (readText path) ∧
      (step kernel (readText path)).Refines (.observe fun files => files.text path) := by
  refine Determined.of_look (.read path) _ (by simp) ?_ ?_ ?_
  · intro files
    unfold Files.text
    split <;> simp [Error.isResourceBusy, Error.linuxEbusy, enoent, IoSource.rawOsError]
  · intro env world steady
    have served : env.serve world (.read path) =
        env.respond world.clock world.sys (.read path) := steady.serve (by simp)
    unfold readText Files.text
    simp only [Exec.bind_run, perform_run, served, Env.respond]
    rcases world.sys.files.get? path with _ | ⟨text | bytes, writable⟩ <;> rfl
  · intro env world
    have anything : Confined (fun _ => True) (readText path) := readText_confined trivial
    obtain ⟨later, trace, -⟩ := (anything.accesses (by simp) env world).since
    exact ⟨later, trace⟩

theorem readNumberText_step (kernel : Kernel) (path : Path) :
    Determined kernel (readNumberText path) ∧
      (step kernel (readNumberText path)).Refines (.observe fun files => files.numberText path) := by
  refine Determined.of_look (.read path) _ (by simp) ?_ ?_ ?_
  · intro files
    unfold Files.numberText
    split
    · simp [Error.isResourceBusy, Error.linuxEbusy, enoent, IoSource.rawOsError]
    · split
      · simp [Error.isResourceBusy]
      · split <;> simp [Error.isResourceBusy]
  · intro env world steady
    have served : env.serve world (.read path) =
        env.respond world.clock world.sys (.read path) := steady.serve (by simp)
    unfold readNumberText Files.numberText
    simp only [Exec.bind_run, perform_run, served, Env.respond]
    rcases world.sys.files.get? path with _ | ⟨content, writable⟩
    · rfl
    · by_cases long : content.bytes.length ≥ 64
      · simp only [long, if_true]
        rfl
      · simp only [long, if_false]
        cases content <;> rfl
  · intro env world
    have anything : Confined (fun _ => True) (readNumberText path) :=
      readNumberText_confined trivial
    obtain ⟨later, trace, -⟩ := (anything.accesses (by simp) env world).since
    exact ⟨later, trace⟩

/-- A write that the environment answers has its effect. -/
theorem writeBytes_answered {env : Env} (world : World) {path : Path} (value : String)
    (ofKernel : env.kernel = kernel) (still : ∀ clock sys, env.interfere clock sys = sys)
    (answered : env.fault world.clock (.write path value) = none)
    (ordinary : System.kdamondOfState? path = none) :
    (writeBytes path value env world).1 =
        ((writeStep kernel path value).run world.sys.files).returned ∧
      (writeBytes path value env world).2.sys.files =
        ((writeStep kernel path value).run world.sys.files).state := by
  have served : env.serve world (.write path value) =
      env.respond world.clock world.sys (.write path value) := by
    simp only [Env.serve, still, answered]
  unfold writeBytes
  simp only [Exec.bind_run, perform_run, served, Env.advance, Env.respond,
    System.write_ordinary ordinary, ofKernel, writeStep]
  cases written : world.sys.files.write kernel path value with
  | ok after => exact ⟨rfl, rfl⟩
  | error errno =>
      simp only [Except.map, Files.writeError]
      by_cases writable : (world.sys.files.get? path).any File.writable = true
      · simp only [writable, if_true]
        exact ⟨rfl, rfl⟩
      · simp only [writable]
        exact ⟨rfl, rfl⟩

/-- A write in a steady environment finds its resource busy or has its effect. -/
theorem writeBytes_steady {env : Env} (world : World) {path : Path} (value : String)
    (steady : env.Steady kernel) (ordinary : System.kdamondOfState? path = none) :
    (EndsBusy (writeBytes path value env world).1 ∧
      (∃ clock access fault, env.fault clock access = some fault) ∧
      (writeBytes path value env world).2.sys = world.sys) ∨
    ((writeBytes path value env world).1 =
        ((writeStep kernel path value).run world.sys.files).returned ∧
      (writeBytes path value env world).2.sys.files =
        ((writeStep kernel path value).run world.sys.files).state) := by
  cases failed : env.fault world.clock (.write path value) with
  | some fault =>
      left
      have served : env.serve world (.write path value) = (.failed fault, world.sys) := by
        simp only [Env.serve, steady.still, failed]
      obtain ⟨-, errno, stage⟩ := steady.busy _ _ _ failed
      obtain ⟨stage', number⟩ := fault
      dsimp only at errno stage
      subst errno
      unfold writeBytes
      simp only [Exec.bind_run, perform_run, served, Env.advance]
      refine ⟨?_, ⟨_, _, _, failed⟩, ?_⟩ <;> rcases stage with rfl | rfl <;>
        simp [Error.isResourceBusy, IoSource.rawOsError]
  | none => exact .inr (writeBytes_answered world value steady.kernel steady.still failed ordinary)

theorem writeStep_free (path : Path) (value : String) (files : Files) :
    ¬EndsBusy ((writeStep kernel path value).run files).returned := by
  unfold writeStep
  dsimp only
  split
  · simp
  · rename_i errno refused
    rcases Files.write_errno refused with rfl | rfl | ⟨rfl, -⟩ <;>
      simp [Files.writeError, Error.isResourceBusy, IoSource.rawOsError, Error.linuxEbusy,
        enoent, eacces, einval]

@[simp] theorem writeStep_written (path : Path) (value : String) (files : Files) :
    ((writeStep kernel path value).run files).written = {path} := by
  unfold writeStep
  dsimp only
  split <;> rfl

theorem writeBytes_wrote (path : Path) (value : String) (env : Env) (world : World) :
    (∃ event, (writeBytes path value env world).2.trace = [event] ++ world.trace ∧
      event.access = .write path value) ∧
    world.wrote (writeBytes path value env world).2 = {path} := by
  have traced : ∃ event, (writeBytes path value env world).2.trace = [event] ++ world.trace ∧
      event.access = .write path value := by
    rcases writeBytes_cases path value env world with ⟨error, run, -⟩ | ⟨run, -⟩
    · rw [run]
      exact ⟨_, rfl, rfl⟩
    · rw [run]
      exact ⟨_, rfl, rfl⟩
  refine ⟨traced, ?_⟩
  obtain ⟨event, trace, access⟩ := traced
  rw [World.wrote_of_trace trace]
  ext other
  simp [access, eq_comm]

theorem writeBytes_step {path : Path} {value : String}
    (ordinary : System.kdamondOfState? path = none) :
    Determined kernel (writeBytes path value) ∧
      (step kernel (writeBytes path value)).Refines (writeStep kernel path value) := by
  have runs : ∀ files, (step kernel (writeBytes path value)).run files =
      (writeStep kernel path value).run files := by
    intro files
    have quiet := Env.undisturbed_quiet kernel
    rcases writeBytes_steady (.showing files) value quiet.steady ordinary with
      ⟨-, ⟨clock, access, fault, failed⟩, -⟩ | ⟨returned, state⟩
    · cases failed
    · simp only [step, (writeBytes_wrote ..).2]
      rw [← writeStep_written path value files]
      exact congrArg₂ (fun returned state => Ending.mk returned _ state) returned state
  refine ⟨⟨fun env world => ?_, fun env world steady free => ?_, fun env world quiet busy => ?_⟩,
    funext runs, ?_⟩
  · obtain ⟨⟨event, trace, -⟩, -⟩ := writeBytes_wrote path value env world
    exact ⟨[event], trace⟩
  · rcases writeBytes_steady world value steady ordinary with
      ⟨busy, -⟩ | ⟨returned, state⟩
    · exact absurd busy free
    · rw [runs]
      exact ⟨returned, by rw [(writeBytes_wrote ..).2, writeStep_written], state⟩
  · rcases writeBytes_steady world value quiet.steady ordinary with
      ⟨-, ⟨clock, access, fault, failed⟩, -⟩ | ⟨returned, -⟩
    · rw [quiet.reliable] at failed
      cases failed
    · rw [returned] at busy
      exact absurd busy (writeStep_free path value _)
  · rintro files written left ⟨env, world, steady, rfl, busy, rfl, rfl⟩
    refine ⟨(writeBytes_wrote ..).2, ?_⟩
    rcases writeBytes_steady world value steady ordinary with
      ⟨-, -, same⟩ | ⟨returned, -⟩
    · rw [same]
    · rw [returned] at busy
      exact absurd busy (writeStep_free path value _)

/-- A kernel that stores every value takes the largest one. -/
theorem writeKernelUlongMax_steady {env : Env} {world : World} {path : Path}
    (steady : env.Steady kernel) (ordinary : System.kdamondOfState? path = none)
    (leaf : Path.isReconstructionCount path = false) :
    writeKernelUlongMax path env world =
      (writeValue path (u64Bound - 1) >>= fun _ => pure (u64Bound - 1)) env world := by
  have narrow : ∀ error, (writeValue path (u64Bound - 1) env world).1 = .error error →
      isKernelUlongWidthError error = false := by
    intro error failed
    rcases writeBytes_steady world (toString (u64Bound - 1)) steady ordinary
      with ⟨busy, -⟩ | ⟨returned, -⟩
    · unfold writeValue at failed
      rw [failed, endsBusy_error] at busy
      cases error <;> simp_all [Error.isResourceBusy, isKernelUlongWidthError, Error.linuxEbusy,
        einval, erange]
    · unfold writeValue at failed
      rw [failed] at returned
      unfold writeStep at returned
      dsimp only at returned
      split at returned
      · cases returned
      · rename_i errno refused
        cases returned
        rcases Files.write_errno refused with rfl | rfl | ⟨-, isCount⟩
        · rfl
        · rfl
        · rw [leaf] at isCount
          cases isCount
  unfold writeKernelUlongMax selectKernelUlongMax
  simp only [Exec.bind_run, Exec.attempt_run]
  cases ran : writeValue path (u64Bound - 1) env world with
  | mk outcome after =>
      cases outcome with
      | ok value => rfl
      | error error =>
          have kept := narrow error (by rw [ran])
          simp only [kept]
          rfl

theorem writeKernelUlongMax_step {path : Path} (ordinary : System.kdamondOfState? path = none)
    (leaf : Path.isReconstructionCount path = false) :
    Determined kernel (writeKernelUlongMax path) ∧
      (step kernel (writeKernelUlongMax path)).Refines
        ((writeStep kernel path (toString (u64Bound - 1))).bind fun _ => .pure (u64Bound - 1)) := by
  obtain ⟨written, writes⟩ : Determined kernel (writeBytes path (toString (u64Bound - 1))) ∧
      (step kernel (writeBytes path (toString (u64Bound - 1)))).Refines
        (writeStep kernel path (toString (u64Bound - 1))) := writeBytes_step ordinary
  have both : Determined kernel (writeValue path (u64Bound - 1) >>= fun _ => pure (u64Bound - 1)) :=
    written.bind fun _ => .pure _
  obtain ⟨determined, refines⟩ := both.congr
    (fun env world steady => writeKernelUlongMax_steady steady ordinary leaf)
    (fun env world => by
      have anything : Confined (fun _ => True) (writeKernelUlongMax path) :=
        .widest path trivial trivial
      obtain ⟨later, trace, -⟩ := (anything.accesses (by simp) env world).since
      exact ⟨later, trace⟩)
  refine ⟨determined, refines.trans ((Determined.step_bind written fun _ => .pure _).trans ?_)⟩
  exact writes.bind fun _ => (pure_step _).2

/-! ## Plain programs -/

/-- Programs of allowed accesses whose effect on the files is that of their step. -/
inductive Plain (allowed : Access → Prop) : {α : Type} → Sysfs α → Prop
  | pure {α : Type} (value : α) : Plain allowed (Pure.pure value : Sysfs α)
  | fail {α : Type} (error : Error) (lasting : error.isResourceBusy = false) :
      Plain allowed (Exec.fail error : Sysfs α)
  | present (path : Path) (permitted : allowed (.inspect path)) : Plain allowed (pathExists path)
  | readText (path : Path) (permitted : allowed (.read path)) : Plain allowed (readText path)
  | readNumberText (path : Path) (permitted : allowed (.read path)) :
      Plain allowed (readNumberText path)
  | write (path : Path) (value : String) (permitted : allowed (.write path value))
      (ordinary : System.kdamondOfState? path = none) : Plain allowed (writeBytes path value)
  | widest (path : Path) (permitted : ∀ value, allowed (.write path value))
      (ordinary : System.kdamondOfState? path = none)
      (leaf : Path.isReconstructionCount path = false) : Plain allowed (writeKernelUlongMax path)
  | bind {α β : Type} {program : Sysfs α} {next : α → Sysfs β} (first : Plain allowed program)
      (second : ∀ value, Plain allowed (next value)) : Plain allowed (program >>= next)

namespace Plain

variable {allowed : Access → Prop} {program : Sysfs α}

theorem confined (plain : Plain allowed program) : Confined allowed program := by
  induction plain with
  | pure value => exact .pure value
  | fail error _ => exact .fail error
  | present path _ => exact pathExists_confined path
  | readText path permitted => exact readText_confined permitted
  | readNumberText path permitted => exact readNumberText_confined permitted
  | write path value permitted _ => exact .write path value permitted
  | widest path permitted _ _ => exact .widest path (permitted _) (permitted _)
  | bind _ _ first second => exact .bind first second

theorem determined (plain : Plain allowed program) (kernel : Kernel) :
    Determined kernel program := by
  induction plain with
  | pure value => exact .pure value
  | fail error lasting => exact .fail lasting
  | present path _ => exact (pathExists_step kernel path).1
  | readText path _ => exact (readText_step kernel path).1
  | readNumberText path _ => exact (readNumberText_step kernel path).1
  | write path value _ ordinary => exact (writeBytes_step ordinary).1
  | widest path _ ordinary leaf => exact (writeKernelUlongMax_step ordinary leaf).1
  | bind _ _ first second => exact first.bind second

theorem step_bind {next : α → Sysfs β} (first : Plain allowed program)
    (second : ∀ value, Plain allowed (next value)) (kernel : Kernel) :
    (step kernel (program >>= next)).Refines
      ((step kernel program).bind fun value => step kernel (next value)) :=
  Determined.step_bind (first.determined kernel) fun value => (second value).determined kernel

end Plain

end Sysfs

end DamonRs
