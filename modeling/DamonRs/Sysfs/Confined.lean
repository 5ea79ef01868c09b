import DamonRs.Sysfs.Io

/-!
# Confined programs

A confined program makes allowed accesses one after the other, repeats what
fails with a busy resource, and ends at its first other error.  What a run of such a program can do follows from what one access
can do, so each function of the model only has to be shown confined.
-/

namespace DamonRs

open Library

namespace Sysfs

/-- Programs that only make allowed accesses. -/
inductive Confined (allowed : Access → Prop) : {α : Type} → Sysfs α → Prop
  | pure {α : Type} (value : α) : Confined allowed (Pure.pure value : Sysfs α)
  | fail {α : Type} (error : Error) : Confined allowed (Exec.fail error : Sysfs α)
  | self : Confined allowed getSelf
  | environment : Confined allowed Sysfs.environment
  | inspect {α : Type} (path : Path) (observe : Files → α) :
      Confined allowed (Sysfs.inspect path observe)
  | read (path : Path) (permitted : allowed (.read path)) :
      Confined allowed (perform (.read path))
  | compare (path : Path) (permitted : allowed (.compare path)) :
      Confined allowed (perform (.compare path))
  | write (path : Path) (value : String) (permitted : allowed (.write path value)) :
      Confined allowed (writeBytes path value)
  | widest (path : Path) (wide : allowed (.write path (toString (u64Bound - 1))))
      (narrow : allowed (.write path (toString (u32Bound - 1)))) :
      Confined allowed (writeKernelUlongMax path)
  | bindReturned {α β : Type} {program : Sysfs α} {next : α → Sysfs β}
      (first : Confined allowed program)
      (second : ∀ value, Exec.Returns program value → Confined allowed (next value)) :
      Confined allowed (program >>= next)
  | retry {α : Type} {program : Sysfs α} (confined : Confined allowed program) :
      Confined allowed (retryBusy program)

namespace Confined

variable {allowed : Access → Prop} {α β : Type}

theorem mono {wider : Access → Prop} {program : Sysfs α} (confined : Confined allowed program)
    (widen : ∀ access, allowed access → wider access) : Confined wider program := by
  induction confined with
  | pure value => exact .pure value
  | fail error => exact .fail error
  | self => exact .self
  | environment => exact .environment
  | inspect path observe => exact .inspect path observe
  | read path permitted => exact .read path (widen _ permitted)
  | compare path permitted => exact .compare path (widen _ permitted)
  | write path value permitted => exact .write path value (widen _ permitted)
  | widest path wide narrow => exact .widest path (widen _ wide) (widen _ narrow)
  | bindReturned _ _ first second => exact .bindReturned first second
  | retry _ ih => exact .retry ih

theorem bind {program : Sysfs α} {next : α → Sysfs β} (first : Confined allowed program)
    (second : ∀ value, Confined allowed (next value)) : Confined allowed (program >>= next) :=
  .bindReturned first fun value _ => second value

/-- Run one program after another that returns nothing. -/
theorem seq {program : Sysfs Unit} {next : Sysfs β} (first : Confined allowed program)
    (second : Confined allowed next) : Confined allowed (program >>= fun _ => next) :=
  .bind first fun _ => second

/-- Return something computed from the result. -/
theorem map {program : Sysfs α} {result : α → β} (first : Confined allowed program) :
    Confined allowed (program >>= fun value => Pure.pure (result value)) :=
  .bind first fun value => .pure (result value)

theorem ofExcept (outcome : Except Error α) :
    Confined allowed (Exec.ofExcept outcome : Sysfs α) := by
  cases outcome with
  | ok value => exact .pure value
  | error error => exact .fail error

theorem ite {condition : Prop} [Decidable condition] {first second : Sysfs α}
    (holds : condition → Confined allowed first) (fails : ¬condition → Confined allowed second) :
    Confined allowed (if condition then first else second) := by
  by_cases h : condition
  · rw [if_pos h]
    exact holds h
  · rw [if_neg h]
    exact fails h

theorem mapEach {body : α → Sysfs β} (items : List α)
    (each : ∀ item ∈ items, Confined allowed (body item)) :
    Confined allowed (Exec.mapEach body items) := by
  induction items with
  | nil => exact .pure []
  | cons item rest ih =>
      refine .bind (each item (List.mem_cons_self ..)) fun value => ?_
      exact (ih fun other member => each other (List.mem_cons_of_mem item member)).map

theorem forEach {body : α → Sysfs Unit} (items : List α)
    (each : ∀ item ∈ items, Confined allowed (body item)) :
    Confined allowed (Exec.forEach body items) := by
  induction items with
  | nil => exact .pure ()
  | cons item rest ih =>
      refine .seq (each item (List.mem_cons_self ..)) ?_
      exact ih fun other member => each other (List.mem_cons_of_mem item member)

theorem foldEach {body : β → α → Sysfs β} (total : β) (items : List α)
    (each : ∀ total, ∀ item ∈ items, Confined allowed (body total item)) :
    Confined allowed (Exec.foldEach body total items) := by
  induction items generalizing total with
  | nil => exact .pure total
  | cons item rest ih =>
      refine .bind (each total item (List.mem_cons_self ..)) fun next => ?_
      exact ih next fun total other member =>
        each total other (List.mem_cons_of_mem item member)

/-- A relation kept by every allowed access is kept by a confined program. -/
theorem moves {relation : Env → World → World → Prop} {program : Sysfs α}
    (confined : Confined allowed program)
    (refl : ∀ env world, relation env world world)
    (trans : ∀ env first second third,
      relation env first second → relation env second third → relation env first third)
    (inspects : ∀ path, Exec.Moves relation (perform (.inspect path)))
    (reads : ∀ path, allowed (.read path) → Exec.Moves relation (perform (.read path)))
    (compares : ∀ path, allowed (.compare path) → Exec.Moves relation (perform (.compare path)))
    (writes : ∀ path value, allowed (.write path value) →
      Exec.Moves relation (writeBytes path value)) :
    Exec.Moves relation program := by
  induction confined with
  | pure value => exact Exec.moves_pure refl value
  | fail error => exact Exec.moves_fail refl error
  | self => exact fun env world => refl env world
  | environment => exact fun env world => refl env world
  | inspect path observe =>
      refine Exec.moves_bind trans (inspects path) fun reply => ?_
      cases reply with
      | failed fault => exact Exec.moves_pure refl _
      | done => exact Exec.moves_bind trans (Exec.moves_get refl) fun _ => Exec.moves_pure refl _
      | content content =>
          exact Exec.moves_bind trans (Exec.moves_get refl) fun _ => Exec.moves_pure refl _
  | read path permitted => exact reads path permitted
  | compare path permitted => exact compares path permitted
  | write path value permitted => exact writes path value permitted
  | widest path wide narrow =>
      refine Exec.moves_bind trans (Exec.moves_attempt (writes path _ wide)) fun outcome => ?_
      cases outcome with
      | ok value => exact Exec.moves_pure refl _
      | error error =>
          dsimp only
          split
          · exact Exec.moves_bind trans (writes path _ narrow) fun _ => Exec.moves_pure refl _
          · exact Exec.moves_fail refl error
  | bindReturned _ _ first second => exact Exec.moves_bind_returned trans first second
  | retry _ ih => exact Exec.moves_retry trans ih maxRetries

end Confined

/-! ## The access functions -/

section Access

variable {allowed : Access → Prop} {α : Type}

theorem inspectPresence_confined (path : Path) (observe : Files → Bool) :
    Confined allowed (inspectPresence path observe) := by
  refine .bind (.inspect path observe) fun outcome => ?_
  cases outcome with
  | ok present => exact .pure present
  | error fault => exact .ite (fun _ => .pure false) fun _ => .fail _

theorem pathExists_confined (path : Path) : Confined allowed (pathExists path) :=
  inspectPresence_confined path _

theorem pathIsDir_confined (path : Path) : Confined allowed (pathIsDir path) :=
  inspectPresence_confined path _

theorem pathIsWritable_confined (path : Path) : Confined allowed (pathIsWritable path) := by
  refine .bind (.inspect path _) fun outcome => ?_
  rcases outcome with fault | writable
  · exact .fail _
  · cases writable with
    | none => exact .fail _
    | some writable => exact .pure writable

theorem readDir_confined (path : Path) : Confined allowed (readDir path) := by
  refine .bind (.inspect path _) fun outcome => ?_
  rcases outcome with fault | entries
  · exact .pure _
  · cases entries with
    | none => exact .pure _
    | some entries => exact .pure _

theorem walkFiles_confined (budget : Nat) (directory : Path) :
    Confined allowed (walkFiles budget directory) := by
  induction budget generalizing directory with
  | zero => exact .fail _
  | succ budget ih =>
      refine .bind (readDir_confined directory) fun outcome => ?_
      cases outcome with
      | error fault => exact .fail _
      | ok entries => exact (Confined.mapEach _ fun inner _ => ih inner).map

theorem allFilesRecursive_confined (root : Path) : Confined allowed (allFilesRecursive root) :=
  walkFiles_confined pathDepth root

theorem readText_confined {path : Path} (permitted : allowed (.read path)) :
    Confined allowed (readText path) := by
  refine .bind (.read path permitted) fun reply => ?_
  rcases reply with fault | _ | text | bytes
  · exact .fail _
  · exact .fail _
  · exact .pure _
  · exact .fail _

theorem readConfigurationValueEquals_confined {path : Path}
    (permitted : allowed (.compare path)) (expected : String) :
    Confined allowed (readConfigurationValueEquals path expected) := by
  refine .bind (.compare path permitted) fun reply => ?_
  rcases reply with fault | _ | content
  · exact .ite (fun _ => .ite (fun _ => .pure _) fun _ => .fail _) fun _ => .fail _
  · exact .pure _
  · exact .pure _

theorem readNumberText_confined {path : Path} (permitted : allowed (.read path)) :
    Confined allowed (readNumberText path) := by
  refine .bind (.read path permitted) fun reply => ?_
  rcases reply with fault | _ | content
  · exact .ite (fun _ => .fail _) fun _ => .fail _
  · exact .fail _
  · refine .ite (fun _ => .fail _) fun _ => ?_
    cases content with
    | text text => exact .pure _
    | undecodable bytes => exact .fail _

theorem readU64_confined {path : Path} (permitted : allowed (.read path)) :
    Confined allowed (readU64 path) := by
  refine .bind (readNumberText_confined permitted) fun value => ?_
  cases Text.parseUnsigned u64Bound value with
  | some number => exact .pure _
  | none => exact .fail _

theorem readUsize_confined {path : Path} (permitted : allowed (.read path)) :
    Confined allowed (readUsize path) :=
  (readU64_confined permitted).map

theorem readU32_confined {path : Path} (permitted : allowed (.read path)) :
    Confined allowed (readU32 path) :=
  .bind (readU64_confined permitted) fun _ => .ite (fun _ => .pure _) fun _ => .fail _

theorem readI32_confined {path : Path} (permitted : allowed (.read path)) :
    Confined allowed (readI32 path) := by
  refine .bind (readText_confined permitted) fun text => ?_
  dsimp only
  cases Text.parseSigned intBound (Text.trim text) with
  | some number => exact .pure _
  | none => exact .fail _

theorem readBool_confined {path : Path} (permitted : allowed (.read path)) :
    Confined allowed (readBool path) :=
  .bind (readText_confined permitted) fun _ =>
    .ite (fun _ => .pure _) fun _ => .ite (fun _ => .pure _) fun _ => .fail _

theorem readEnum_confined {path : Path} (permitted : allowed (.read path)) (parse : String → α) :
    Confined allowed (readEnum path parse) :=
  (readText_confined permitted).map

theorem readSysfsString_confined {path : Path} (permitted : allowed (.read path)) :
    Confined allowed (readSysfsString path) :=
  (readText_confined permitted).map

theorem readConfigurationValue_confined {path : Path} (permitted : allowed (.read path)) :
    Confined allowed (readConfigurationValue path) :=
  (readText_confined permitted).map

theorem writeValue_confined {path : Path} {value : Nat}
    (permitted : allowed (.write path (toString value))) :
    Confined allowed (writeValue path value) :=
  .write path _ permitted

theorem writeBool_confined {path : Path} (value : Bool)
    (permitted : ∀ text, allowed (.write path text)) : Confined allowed (writeBool path value) :=
  .write path _ (permitted _)

theorem writeEnum_confined {path : Path} {kernelName : String}
    (permitted : allowed (.write path kernelName)) :
    Confined allowed (writeEnum path kernelName) :=
  .seq (.ofExcept _) (.write path kernelName permitted)

end Access

end Sysfs

end DamonRs
