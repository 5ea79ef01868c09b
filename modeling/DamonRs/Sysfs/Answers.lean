import DamonRs.Sysfs.Stored

/-!
# What reading programs answer

Where nobody else acts and no access fails, a program that reads has one
outcome, which the files determine: a value, or an error.
-/

namespace DamonRs

open Library Sysfs

/-- In every world with some system a program returns a value, or fails where there is none, and
leaves the system as it is. -/
def Answers {α : Type} (env : Env) (system : System) (program : Sysfs α) (answer : Option α) :
    Prop :=
  ∀ world, world.sys = system →
    (program env world).1.toOption = answer ∧ (program env world).2.sys = system

namespace Answers

variable {env : Env} {system : System} {α β : Type}

theorem pure (value : α) : Answers env system (Pure.pure value) (some value) :=
  fun _ same => ⟨rfl, same⟩

theorem fail (error : Error) : Answers env system (Exec.fail error : Sysfs α) none :=
  fun _ same => ⟨rfl, same⟩

theorem ofExcept (outcome : Except Error α) :
    Answers env system (Exec.ofExcept outcome) outcome.toOption :=
  fun _ same => ⟨rfl, same⟩

theorem bind {program : Sysfs α} {next : α → Sysfs β} {answer : Option α}
    {answers : α → Option β} (first : Answers env system program answer)
    (second : ∀ value, Answers env system (next value) (answers value)) :
    Answers env system (program >>= next) (answer.bind answers) := by
  intro world same
  obtain ⟨answered, still⟩ := first world same
  rw [Exec.bind_run]
  cases run : program env world with
  | mk outcome after =>
      rw [run] at answered still
      subst answered
      cases outcome with
      | error error => exact ⟨rfl, still⟩
      | ok value => exact second value after still

/-- A step that returns does not decide whether the rest does. -/
theorem after {program : Sysfs α} {next : α → Sysfs β} {value : α} {answer : Option β}
    (first : Observes env system program value)
    (second : Answers env system (next value) answer) :
    Answers env system (program >>= next) answer := by
  intro world same
  obtain ⟨middle, run, still⟩ := first world same
  rw [Exec.bind_run_ok run]
  exact second middle still

/-- A program returns what it answers, and nothing else. -/
theorem returns_iff {program : Sysfs α} {answer : Option α} {value : α} {world : World}
    (answers : Answers env world.sys program answer) :
    (∃ after, program env world = (.ok value, after)) ↔ answer = some value := by
  obtain ⟨answered, -⟩ := answers world rfl
  rw [← answered]
  constructor
  · rintro ⟨after, run⟩
    rw [run]
    rfl
  · intro shown
    refine ⟨(program env world).2, Prod.ext ?_ rfl⟩
    cases outcome : (program env world).1 with
    | error error =>
        rw [outcome] at shown
        cases shown
    | ok other =>
        rw [outcome] at shown
        cases shown
        rfl

theorem mapEach {body : α → Sysfs β} {answers : α → Option β}
    (each : ∀ item, Answers env system (body item) (answers item)) (items : List α) :
    Answers env system (Exec.mapEach body items) (items.mapM answers) := by
  induction items with
  | nil => exact pure []
  | cons item rest ih =>
      rw [List.mapM_cons]
      exact (each item).bind fun value => ih.bind fun values => pure (value :: values)

theorem foldEach {body : β → α → Sysfs β} {answers : β → α → Option β}
    (each : ∀ total item, Answers env system (body total item) (answers total item)) (total : β)
    (items : List α) :
    Answers env system (Exec.foldEach body total items) (items.foldlM answers total) := by
  induction items generalizing total with
  | nil => exact pure total
  | cons item rest ih =>
      rw [List.foldlM_cons]
      exact (each total item).bind fun total => ih total

end Answers

/-! ## Numbers -/

namespace Files

def unsigned? (files : Files) (path : Path) : Option Nat :=
  (files.get? path).bind fun file => file.content.unsigned?

def u64? (files : Files) (path : Path) : Option UInt64 := (files.unsigned? path).map UInt64.ofNat

def u32? (files : Files) (path : Path) : Option UInt32 :=
  (files.u64? path).bind fun value =>
    if value.toNat < u32Bound then some (UInt32.ofNat value.toNat) else none

def u8? (files : Files) (path : Path) : Option UInt8 :=
  (files.u64? path).bind fun value =>
    if value.toNat < 256 then some (UInt8.ofNat value.toNat) else none

/-- An attribute that a kernel may lack. -/
def optional? {α : Type} (files : Files) (read : Path → Option α) (path : Path) :
    Option (Option α) :=
  if files.pathExists path then (read path).map some else some none

/-- The indexes of the numbered children of a directory, ascending. -/
def numbered (files : Files) (directory : Path) : List Nat :=
  ((files.entries directory).filterMap fun (name, isDirectory) =>
    if isDirectory then Path.nameIndex? name else none).insertionSort (· ≤ ·)

/-- Every numbered child of a directory has the name of its index. -/
def Canonical (files : Files) (directory : Path) : Prop :=
  ∀ name index, (name, true) ∈ files.entries directory → Path.nameIndex? name = some index →
    name = Path.indexName index

theorem unsigned?_eq (files : Files) (path : Path) :
    files.unsigned? path =
      (files.numberText path).toOption.bind (Text.parseUnsigned u64Bound) := by
  unfold unsigned? numberText
  cases files.get? path with
  | none => rfl
  | some file =>
      dsimp only [Option.bind_some]
      cases content : file.content with
      | text line =>
          unfold Content.unsigned?
          dsimp only
          by_cases long : (Content.text line).bytes.length ≥ 64
          · rw [if_pos long, if_pos long]
            rfl
          · rw [if_neg long, if_neg long]
            rfl
      | undecodable bytes =>
          by_cases long : (Content.undecodable bytes).bytes.length ≥ 64
          · rw [if_pos long]
            rfl
          · rw [if_neg long]
            rfl

theorem isDirectory_of_inner {files : Files} {directory : Path} {name : String}
    (inner : files.isDirectory (directory ++ [name]) = true) :
    files.isDirectory directory = true := by
  obtain ⟨next, rest, present⟩ := isDirectory_iff.mp inner
  exact isDirectory_iff.mpr ⟨name, next :: rest, by simpa using present⟩

theorem mem_numbered {files : Files} {directory : Path} {index : Nat} :
    index ∈ files.numbered directory ↔
      ∃ name, (name, true) ∈ files.entries directory ∧ Path.nameIndex? name = some index := by
  unfold numbered
  rw [(List.perm_insertionSort (· ≤ ·) _).mem_iff, List.mem_filterMap]
  constructor
  · rintro ⟨⟨name, isDirectory⟩, listed, named⟩
    cases isDirectory with
    | false => cases named
    | true => exact ⟨name, listed, named⟩
  · rintro ⟨name, listed, named⟩
    exact ⟨(name, true), listed, named⟩

theorem numbered_eq_nil {files : Files} {directory : Path}
    (absent : ¬files.isDirectory directory = true) : files.numbered directory = [] := by
  refine List.eq_nil_iff_forall_not_mem.mpr fun index member => absent ?_
  obtain ⟨name, listed, -⟩ := mem_numbered.mp member
  exact isDirectory_of_inner (isDirectory_of_entry listed)

theorem numbered_ascending (files : Files) (directory : Path) :
    (files.numbered directory).Pairwise (· ≤ ·) :=
  List.pairwise_insertionSort (· ≤ ·) _

theorem numbered_strict {files : Files} {directory : Path} (canonical : files.Canonical directory) :
    (files.numbered directory).Pairwise (· < ·) := by
  have once : (files.numbered directory).Nodup := by
    unfold numbered
    rw [(List.perm_insertionSort (· ≤ ·) _).nodup_iff]
    have listed : (files.entries directory).Nodup := List.nodup_dedup _
    rw [List.nodup_iff_pairwise_ne, List.pairwise_filterMap]
    refine (List.nodup_iff_pairwise_ne.mp listed).imp_of_mem ?_
    rintro ⟨first, _ | _⟩ ⟨second, _ | _⟩ inOne inTwo different index one other two rfl
    · cases one
    · cases one
    · cases two
    · exact different (by rw [canonical first index inOne one, canonical second index inTwo two])
  exact (files.numbered_ascending directory).imp₂
    (fun _ _ below different => lt_of_le_of_ne below different) once

theorem mem_numbered_iff {files : Files} {directory : Path} (canonical : files.Canonical directory)
    {index : Nat} :
    index ∈ files.numbered directory ↔
      index < 2 ^ 64 ∧ files.isDirectory (directory ++ [Path.indexName index]) = true := by
  rw [mem_numbered]
  constructor
  · rintro ⟨name, listed, named⟩
    have small : index < 2 ^ 64 := Text.parseUnsigned_lt named
    obtain rfl := canonical name index listed named
    exact ⟨small, isDirectory_of_entry listed⟩
  · rintro ⟨small, isDirectory⟩
    obtain ⟨next, rest, present⟩ := isDirectory_iff.mp isDirectory
    have inner : (files.get? (directory ++ Path.indexName index :: next :: rest)).isSome = true := by
      simpa using present
    exact ⟨_, mem_entries_directory inner, Path.nameIndex?_indexName small⟩

end Files

namespace Answers

variable {env : Env} (solitary : env.Solitary) {system : System}
include solitary

theorem read (path : Path) :
    Observes env system (perform (.read path))
      (match system.files.get? path with
        | some file => .content file.content
        | none => .failed ⟨.opening, enoent⟩) := by
  rintro world rfl
  have replied := solitary.reliable.read_reply world path
  unfold Moment.file? at replied
  rw [solitary.moment_system] at replied
  refine ⟨env.advance world (.read path), ?_, solitary.advance_sys world trivial⟩
  rw [perform_run]
  exact Prod.ext (congrArg Except.ok replied) rfl

theorem numberText (path : Path) :
    Answers env system (readNumberText path) (system.files.numberText path).toOption := by
  refine .after (read solitary path) ?_
  unfold Files.numberText
  cases system.files.get? path with
  | none => exact .fail _
  | some file =>
      dsimp only
      by_cases long : file.content.bytes.length ≥ 64
      · rw [if_pos long, if_pos long]
        exact .fail _
      · rw [if_neg long, if_neg long]
        cases file.content with
        | text line => exact .pure _
        | undecodable bytes => exact .fail _

theorem u64 (path : Path) : Answers env system (readU64 path) (system.files.u64? path) := by
  unfold Files.u64?
  rw [Files.unsigned?_eq, Option.map_bind]
  refine (numberText solitary path).bind fun text => ?_
  dsimp only [Function.comp]
  cases Text.parseUnsigned u64Bound text with
  | some number => exact .pure _
  | none => exact .fail _

theorem u32 (path : Path) : Answers env system (readU32 path) (system.files.u32? path) := by
  refine (u64 solitary path).bind fun value => ?_
  by_cases small : value.toNat < u32Bound
  · rw [if_pos small, if_pos small]
    exact .pure _
  · rw [if_neg small, if_neg small]
    exact .fail _

theorem u8 (path : Path) : Answers env system (readU8 path) (system.files.u8? path) := by
  refine (u64 solitary path).bind fun value => ?_
  by_cases small : value.toNat < 256
  · rw [if_pos small, if_pos small]
    exact .pure _
  · rw [if_neg small, if_neg small]
    exact .fail _

theorem optional {α : Type} {program : Sysfs α} {look : Path → Option α} {path : Path}
    (reads : Answers env system program (look path)) :
    Answers env system (optionalRead path program) (system.files.optional? look path) := by
  refine .after (Observes.present solitary path) ?_
  unfold Files.optional?
  by_cases present : system.files.pathExists path = true
  · rw [if_pos present, if_pos present, Option.map_eq_bind]
    exact reads.bind fun value => .pure (some value)
  · rw [if_neg present, if_neg present]
    exact .pure none

theorem isDirectory (path : Path) :
    Observes env system (pathIsDir path) (system.files.isDirectory path) :=
  (Observes.inspect solitary path _).bind (.pure _)

/-- A missing directory has no numbered children. -/
theorem numbered (directory : Path) :
    Observes env system (numericDirectoryIndices directory) (system.files.numbered directory) := by
  by_cases there : directory = [] ∨ system.files.isDirectory directory = true
  · exact (readDir_observes solitary there).bind (.pure _)
  · have empty := Files.numbered_eq_nil fun isDirectory => there (.inr isDirectory)
    have absent : Observes env system (readDir directory) (.error ⟨.opening, enoent⟩) := by
      refine (Observes.inspect solitary directory _).bind ?_
      unfold Files.list?
      rw [if_neg there]
      exact .pure _
    rw [empty]
    exact absent.bind (.pure _)

end Answers

end DamonRs
