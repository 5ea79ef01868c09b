import DamonRs.Library.Step
import DamonRs.Sysfs.Within

/-!
# Programs as steps on the files

While nobody else acts and accesses only fail when a write finds its resource
busy, what a plain program does is determined by the files: it runs to the end
it reaches without any failure, or a busy write cuts it short.  So it is a step
on the files, and a sequence of programs is the sequence of their steps.
-/

namespace DamonRs

open Library Sysfs

/-! ## Environments -/

/-- Nobody else acts, and an access only fails when a write finds its resource busy. -/
structure Env.Steady (env : Env) (kernel : Kernel) : Prop where
  kernel : env.kernel = kernel
  still : ∀ clock sys, env.interfere clock sys = sys
  busy : ∀ clock access fault, env.fault clock access = some fault →
    (∃ path value, access = .write path value) ∧ fault.errno = Error.linuxEbusy ∧
      (fault.stage = .opening ∨ fault.stage = .transfer)

/-- Nobody else acts and no access fails. -/
structure Env.Quiet (env : Env) (kernel : Kernel) : Prop where
  kernel : env.kernel = kernel
  still : ∀ clock sys, env.interfere clock sys = sys
  reliable : ∀ clock access, env.fault clock access = none

theorem Env.Quiet.steady {env : Env} {kernel : Kernel} (quiet : env.Quiet kernel) :
    env.Steady kernel where
  kernel := quiet.kernel
  still := quiet.still
  busy clock access fault failed := by
    rw [quiet.reliable] at failed
    cases failed

/-- A quiet environment of a kernel. -/
def Env.undisturbed (kernel : Kernel) : Env where
  kernel := kernel
  interfere _ sys := sys
  fault _ _ := none
  freshPid _ := ⟨1, by decide⟩
  lockHeld _ := false
  bootId := ""
  pageSize := 4096

theorem Env.undisturbed_quiet (kernel : Kernel) : (Env.undisturbed kernel).Quiet kernel :=
  ⟨rfl, fun _ _ => rfl, fun _ _ => rfl⟩

namespace Env.Steady

variable {env : Env} {kernel : Kernel} {world : World} {access : Access}

/-- An access that writes nothing does not fail. -/
theorem serve (steady : env.Steady kernel) (reads : ∀ path value, access ≠ .write path value) :
    env.serve world access = env.respond world.clock world.sys access := by
  unfold Env.serve
  rw [steady.still]
  cases failed : env.fault world.clock access with
  | some fault =>
      obtain ⟨⟨path, value, same⟩, _⟩ := steady.busy _ _ _ failed
      exact absurd same (reads path value)
  | none => rfl

theorem advance_sys (steady : env.Steady kernel)
    (reads : ∀ path value, access ≠ .write path value) :
    (env.advance world access).sys = world.sys := by
  simp only [Env.advance, steady.serve reads]
  cases access with
  | inspect path => rfl
  | read path =>
      dsimp only [Env.respond]
      cases world.sys.files.get? path <;> rfl
  | compare path =>
      dsimp only [Env.respond]
      cases world.sys.files.get? path <;> rfl
  | write path value => exact absurd rfl (reads path value)

end Env.Steady

/-- A world that shows some files. -/
def World.showing (files : Files) : World := .initial ⟨files, fun _ => none⟩

/-- The paths that have been written since. -/
def World.wrote (before after : World) : Set Path :=
  {path | ∃ events event value, after.trace = events ++ before.trace ∧ event ∈ events ∧
    event.access = .write path value}

theorem World.wrote_of_trace {before after : World} {events : List Event}
    (trace : after.trace = events ++ before.trace) :
    before.wrote after = {path | ∃ event ∈ events, ∃ value, event.access = .write path value} := by
  ext path
  constructor
  · rintro ⟨others, event, value, same, member, written⟩
    have : others = events := List.append_cancel_right (same.symm.trans trace)
    exact ⟨event, this ▸ member, value, written⟩
  · rintro ⟨event, member, value, written⟩
    exact ⟨events, event, value, trace, member, written⟩

theorem World.wrote_same {before after : World} (trace : after.trace = before.trace) :
    before.wrote after = ∅ := by
  have nothing : after.trace = [] ++ before.trace := trace
  rw [World.wrote_of_trace nothing]
  simp

theorem World.wrote_trans {before middle after : World} {events later : List Event}
    (one : middle.trace = events ++ before.trace) (two : after.trace = later ++ middle.trace) :
    before.wrote after = before.wrote middle ∪ middle.wrote after := by
  have whole : after.trace = (later ++ events) ++ before.trace := by
    rw [two, one, List.append_assoc]
  rw [World.wrote_of_trace whole, World.wrote_of_trace one, World.wrote_of_trace two]
  ext path
  simp only [List.mem_append, Set.mem_ofPred_eq, Set.mem_union]
  constructor
  · rintro ⟨event, late | early, written⟩
    · exact .inr ⟨event, late, written⟩
    · exact .inl ⟨event, early, written⟩
  · rintro (⟨event, early, written⟩ | ⟨event, late, written⟩)
    · exact ⟨event, .inr early, written⟩
    · exact ⟨event, .inl late, written⟩

namespace Sysfs

variable {α β : Type} {kernel : Kernel}

/-- An outcome that reports a busy resource. -/
def EndsBusy (outcome : Except Error α) : Prop :=
  ∃ error, error.isResourceBusy = true ∧ outcome = .error error

@[simp] theorem not_endsBusy_ok (value : α) : ¬EndsBusy (.ok value : Except Error α) := by
  rintro ⟨error, _, same⟩
  cases same

@[simp] theorem endsBusy_error (error : Error) :
    EndsBusy (.error error : Except Error α) ↔ error.isResourceBusy = true := by
  constructor
  · rintro ⟨other, busy, same⟩
    cases same
    exact busy
  · exact fun busy => ⟨error, busy, rfl⟩

/-- What a program does to the files: its run in a calm environment, cut short by busy writes. -/
def step (kernel : Kernel) (program : Sysfs α) : Step Files Path Error α where
  run files :=
    let after := program (.undisturbed kernel) (.showing files)
    ⟨after.1, (World.showing files).wrote after.2, after.2.sys.files⟩
  cut files written left :=
    ∃ env world, env.Steady kernel ∧ world.sys.files = files ∧
      EndsBusy (program env world).1 ∧ world.wrote (program env world).2 = written ∧
      (program env world).2.sys.files = left

/-- In a steady environment a program ends as in a calm one unless it ends with a busy error. -/
structure Determined (kernel : Kernel) (program : Sysfs α) : Prop where
  traced : ∀ env world, ∃ events, (program env world).2.trace = events ++ world.trace
  ends : ∀ env world, env.Steady kernel → ¬EndsBusy (program env world).1 →
    (program env world).1 = ((step kernel program).run world.sys.files).returned ∧
      world.wrote (program env world).2 = ((step kernel program).run world.sys.files).written ∧
      (program env world).2.sys.files = ((step kernel program).run world.sys.files).state
  free : ∀ env world, env.Quiet kernel → ¬EndsBusy (program env world).1

namespace Determined

theorem pure (value : α) : Determined kernel (Pure.pure value : Sysfs α) where
  traced _ _ := ⟨[], rfl⟩
  ends _ _ _ _ := ⟨rfl, by simp [step, World.wrote_same], rfl⟩
  free _ _ _ := not_endsBusy_ok value

theorem fail {error : Error} (lasting : error.isResourceBusy = false) :
    Determined kernel (Exec.fail error : Sysfs α) where
  traced _ _ := ⟨[], rfl⟩
  ends _ _ _ _ := ⟨rfl, by simp [step, World.wrote_same], rfl⟩
  free _ _ _ := by simp [lasting]

/-- A program that makes one access which writes nothing looks at the files. -/
theorem of_look {program : Sysfs α} (access : Access) (look : Files → Except Error α)
    (reads : ∀ path value, access ≠ .write path value)
    (lasting : ∀ files, ¬EndsBusy (look files))
    (run : ∀ env world, env.Steady kernel →
      program env world = (look world.sys.files, env.advance world access))
    (traced : ∀ env world, ∃ events, (program env world).2.trace = events ++ world.trace) :
    Determined kernel program ∧ (step kernel program).Refines (.observe look) := by
  have nothing : ∀ (env : Env) (world : World), world.wrote (env.advance world access) = ∅ := by
    intro env world
    have one : (env.advance world access).trace =
        [⟨access, (env.serve world access).1, world.self.states⟩] ++ world.trace := rfl
    rw [World.wrote_of_trace one]
    ext path
    simp only [List.mem_singleton, exists_eq_left, Set.mem_ofPred_eq, Set.mem_empty_iff_false,
      iff_false, not_exists]
    exact fun value same => reads path value same
  have runs : ∀ files, (step kernel program).run files = ⟨look files, ∅, files⟩ := by
    intro files
    have still := (Env.undisturbed_quiet kernel).steady
    simp only [step, run _ _ still, nothing, still.advance_sys reads]
    rfl
  refine ⟨⟨traced, fun env world still _ => ?_, fun env world quiet => ?_⟩, funext runs, ?_⟩
  · rw [runs, run env world still]
    exact ⟨rfl, nothing env world, congrArg System.files (still.advance_sys reads)⟩
  · rw [run env world quiet.steady]
    exact lasting _
  · rintro files written left ⟨env, world, still, rfl, busy, -, -⟩
    rw [run env world still] at busy
    exact lasting _ busy

/-- Programs that run the same in every steady environment are the same step. -/
theorem congr {program other : Sysfs α} (determined : Determined kernel other)
    (same : ∀ env world, env.Steady kernel → program env world = other env world)
    (traced : ∀ env world, ∃ events, (program env world).2.trace = events ++ world.trace) :
    Determined kernel program ∧ (step kernel program).Refines (step kernel other) := by
  have runs : (step kernel program).run = (step kernel other).run := by
    funext files
    simp only [step, same _ _ (Env.undisturbed_quiet kernel).steady]
  refine ⟨⟨traced, fun env world steady free => ?_, fun env world quiet => ?_⟩, runs, ?_⟩
  · rw [same env world steady] at free ⊢
    rw [runs]
    exact determined.ends env world steady free
  · rw [same env world quiet.steady]
    exact determined.free env world quiet
  · rintro files written left ⟨env, world, steady, cut⟩
    rw [same env world steady] at cut
    exact ⟨env, world, steady, cut⟩

theorem bind_traced {program : Sysfs α} {next : α → Sysfs β}
    (first : ∀ env world, ∃ events, (program env world).2.trace = events ++ world.trace)
    (second : ∀ value env world, ∃ events,
      (next value env world).2.trace = events ++ world.trace) (env : Env) (world : World) :
    ∃ events, ((program >>= next) env world).2.trace = events ++ world.trace := by
  obtain ⟨events, trace⟩ := first env world
  rw [Exec.bind_run]
  cases run : program env world with
  | mk outcome middle =>
      rw [run] at trace
      cases outcome with
      | error error => exact ⟨events, trace⟩
      | ok value =>
          obtain ⟨later, nextTrace⟩ := second value env middle
          exact ⟨later ++ events, by rw [nextTrace, trace, List.append_assoc]⟩

/-- The step of a composition is the composition of the steps. -/
theorem step_bind_run {program : Sysfs α} {next : α → Sysfs β}
    (first : Determined kernel program) (second : ∀ value, Determined kernel (next value)) :
    (step kernel (program >>= next)).run =
      ((step kernel program).bind fun value => step kernel (next value)).run := by
  funext files
  have quiet := Env.undisturbed_quiet kernel
  obtain ⟨events, trace⟩ := first.traced (.undisturbed kernel) (.showing files)
  cases run : program (.undisturbed kernel) (.showing files) with
  | mk outcome middle =>
      rw [run] at trace
      cases outcome with
      | error error =>
          have failed : ((step kernel program).run files).returned = .error error := by
            simp only [step, run]
          rw [Step.bind_run_error failed]
          simp only [step, Exec.bind_run_error run, run]
      | ok value =>
          have ok : ((step kernel program).run files).returned = .ok value := by
            simp only [step, run]
          have left : ((step kernel program).run files).state = middle.sys.files := by
            simp only [step, run]
          obtain ⟨later, nextTrace⟩ := (second value).traced (.undisturbed kernel) middle
          obtain ⟨returned, written, state⟩ :=
            (second value).ends _ middle quiet.steady ((second value).free _ middle quiet)
          rw [Step.bind_run_ok ok, left, ← returned, ← written, ← state]
          simp only [step, run, Exec.bind_run_ok run]
          rw [World.wrote_trans trace nextTrace]

theorem bind {program : Sysfs α} {next : α → Sysfs β}
    (first : Determined kernel program) (second : ∀ value, Determined kernel (next value)) :
    Determined kernel (program >>= next) where
  traced := bind_traced first.traced fun value => (second value).traced
  ends env world steady free := by
    rw [step_bind_run first second]
    obtain ⟨events, trace⟩ := first.traced env world
    cases run : program env world with
    | mk outcome middle =>
        rw [run] at trace
        cases outcome with
        | error error =>
            rw [Exec.bind_run_error run] at free ⊢
            have ends := first.ends env world steady (by simpa [run] using free)
            rw [run] at ends
            rw [Step.bind_run_error ends.1.symm]
            exact ⟨rfl, ends.2⟩
        | ok value =>
            rw [Exec.bind_run_ok run] at free ⊢
            have ends := first.ends env world steady (by simp [run])
            rw [run] at ends
            obtain ⟨later, nextTrace⟩ := (second value).traced env middle
            have nextEnds := (second value).ends env middle steady free
            rw [Step.bind_run_ok ends.1.symm, ← ends.2.1, ← ends.2.2,
              World.wrote_trans trace nextTrace]
            exact ⟨nextEnds.1, congrArg _ nextEnds.2.1, nextEnds.2.2⟩
  free env world quiet := by
    cases run : program env world with
    | mk outcome middle =>
        cases outcome with
        | error error =>
            rw [Exec.bind_run_error run]
            simpa [run] using first.free env world quiet
        | ok value =>
            rw [Exec.bind_run_ok run]
            exact (second value).free env middle quiet

/-- A composition is cut short in its first part or in its second. -/
theorem step_bind {program : Sysfs α} {next : α → Sysfs β}
    (first : Determined kernel program) (second : ∀ value, Determined kernel (next value)) :
    (step kernel (program >>= next)).Refines
      ((step kernel program).bind fun value => step kernel (next value)) where
  run := step_bind_run first second
  cut files written left cut := by
    obtain ⟨env, world, steady, rfl, busy, rfl, rfl⟩ := cut
    obtain ⟨events, trace⟩ := first.traced env world
    cases run : program env world with
    | mk outcome middle =>
        rw [run] at trace
        cases outcome with
        | error error =>
            rw [Exec.bind_run_error run] at busy ⊢
            exact .inl ⟨env, world, steady, rfl, by simpa [run] using busy, by rw [run], by rw [run]⟩
        | ok value =>
            rw [Exec.bind_run_ok run] at busy ⊢
            have ends := first.ends env world steady (by simp [run])
            rw [run] at ends
            obtain ⟨later, nextTrace⟩ := (second value).traced env middle
            refine .inr ⟨value, middle.wrote (next value env middle).2, ends.1.symm, ?_, ?_⟩
            · exact ⟨env, middle, steady, ends.2.2, busy, rfl, rfl⟩
            · rw [World.wrote_trans trace nextTrace, ← ends.2.1]

end Determined

end Sysfs

end DamonRs
