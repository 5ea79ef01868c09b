import DamonRs.Library.Store
import DamonRs.Sysfs.Paths
import DamonRs.Values
import Mathlib.Data.List.Dedup

/-!
# The kernel side of the interface

The attribute files below the admin root and what the kernel does on a write.
A directory exists while it contains a file.  Writing a reconstruction count
replaces the indexed children beside it by that many default children; writing
a kdamond state is a command; any other accepted write stores its value.  The
inputs a running kdamond works with are those staged at its last start or
commit, and are kept apart from the files.
-/

namespace DamonRs

open Library

/-- Remove one final newline. -/
def Sysfs.stripFinalNewline (text : String) : String :=
  if text.toList.getLast? = some '\n' then String.ofList text.toList.dropLast else text

theorem Sysfs.stripFinalNewline_eq_iff {text value : String} :
    stripFinalNewline text = value ↔
      text = value ++ "\n" ∨ text = value ∧ value.toList.getLast? ≠ some '\n' := by
  unfold stripFinalNewline
  by_cases ends : text.toList.getLast? = some '\n'
  · rw [if_pos ends]
    have whole : text.toList.dropLast ++ ['\n'] = text.toList :=
      List.dropLast_append_getLast? '\n' ends
    constructor
    · rintro rfl
      left
      apply String.toList_inj.mp
      rw [String.toList_append, String.toList_ofList]
      exact whole.symm
    · rintro (rfl | ⟨rfl, single⟩)
      · apply String.toList_inj.mp
        simp
      · exact absurd ends single
  · rw [if_neg ends]
    constructor
    · rintro rfl
      exact .inr ⟨rfl, ends⟩
    · rintro (rfl | ⟨rfl, _⟩)
      · simp at ends
      · rfl

/-- The text that a read of an attribute returns. -/
structure AttributeText where
  raw : String
  deriving DecidableEq

namespace AttributeText

/-- The value that is captured: the text without one final newline. -/
def value (text : AttributeText) : String :=
  Sysfs.stripFinalNewline text.raw

/-- The text shown after `value` has been written. -/
def ofWritten (value : String) : AttributeText :=
  ⟨value ++ "\n"⟩

@[simp] theorem raw_ofWritten (value : String) : (ofWritten value).raw = value ++ "\n" := rfl

/-- Writing a value shows that value. -/
@[simp] theorem ofWritten_value (value : String) : (ofWritten value).value = value := by
  simp [AttributeText.value, ofWritten, Sysfs.stripFinalNewline]

end AttributeText

/-- The bytes of an attribute: text, or a sequence that is not UTF-8. -/
inductive Content where
  | text (text : AttributeText)
  | undecodable (bytes : List UInt8)
  deriving DecidableEq

structure File where
  content : Content
  writable : Bool
  deriving DecidableEq

/-- The path depth that no lookup exceeds. -/
def pathDepth : Nat := 2048

/-- What is left of a path below a directory. -/
def stripPrefix? : Path → Path → Option Path
  | [], path => some path
  | _ :: _, [] => none
  | first :: directory, name :: path =>
      if first = name then stripPrefix? directory path else none

theorem stripPrefix?_eq_some {directory path rest : Path} :
    stripPrefix? directory path = some rest ↔ path = directory ++ rest := by
  induction directory generalizing path with
  | nil => simp [stripPrefix?]
  | cons first directory ih =>
      cases path with
      | nil => simp [stripPrefix?]
      | cons name path =>
          by_cases same : first = name
          · subst same
            simp [stripPrefix?, ih]
          · have different : ¬name = first := fun h => same h.symm
            simp [stripPrefix?, same, different]

@[simp] theorem stripPrefix?_append (directory rest : Path) :
    stripPrefix? directory (directory ++ rest) = some rest :=
  stripPrefix?_eq_some.mpr rfl

/-- The index and the inner path of a file below an indexed child of a directory. -/
def indexedChild? (directory path : Path) : Option (String × Path) :=
  match stripPrefix? directory path with
  | some (name :: inner :: rest) =>
      if (Path.nameIndex? name).isSome then some (name, inner :: rest) else none
  | _ => none

/-- What a kernel puts into the default children it creates. -/
structure Kernel where
  /-- The files of the default child with an index below a directory. -/
  child : Path → Nat → List (Path × (AttributeText × Bool))

structure Files where
  store : Store Path File
  addressable : ∀ path ∈ store.keys, path.length < pathDepth

namespace Files

def get? (files : Files) (path : Path) : Option File := files.store.get? path

def setText (files : Files) (path : Path) (text : AttributeText) : Files where
  store := files.store.update path fun file => { file with content := .text text }
  addressable := by
    rw [Store.update_keys]
    exact files.addressable

/-- The files of the first `count` default children of a directory. -/
def defaultChildren (kernel : Kernel) (directory : Path) (count : Nat) : List (Path × File) :=
  (List.range count).flatMap fun index =>
    (kernel.child directory index).filterMap fun (inner, text, writable) =>
      let path := directory ++ Path.indexName index :: inner
      if inner ≠ [] ∧ path.length < pathDepth then some (path, ⟨.text text, writable⟩) else none

/-- Replace the indexed children of a directory by default ones. -/
def reconstruct (kernel : Kernel) (files : Files) (directory : Path) (count : Nat) : Files where
  store := (files.store.filterKeys fun path => (indexedChild? directory path).isNone).insertAll
    (defaultChildren kernel directory count)
  addressable := by
    intro path member
    rw [← Store.get?_isSome, Store.get?_insertAll, Store.get?_filterKeys] at member
    cases found : Store.find path (defaultChildren kernel directory count) with
    | some file =>
        have inside := Store.mem_of_find found
        simp only [defaultChildren, List.mem_flatMap, List.mem_filterMap] at inside
        obtain ⟨index, _, entry, _, same⟩ := inside
        split at same
        · rename_i fits
          injection same with same
          have samePath : directory ++ Path.indexName index :: entry.1 = path :=
            (Prod.ext_iff.mp same).1
          exact samePath ▸ fits.2
        · cases same
    | none =>
        rw [found, Option.or_none] at member
        split at member
        · exact files.addressable path ((Store.get?_isSome files.store path).mp member)
        · cases member

def paths (files : Files) : List Path := files.store.keys

/-- Whether some file lies below a directory. -/
def isDirectory (files : Files) (directory : Path) : Bool :=
  files.paths.any fun path =>
    match stripPrefix? directory path with
    | some (_ :: _) => true
    | _ => false

def pathExists (files : Files) (path : Path) : Bool :=
  (files.get? path).isSome || files.isDirectory path

/-- The entries of a directory, each with whether it is a directory itself. -/
def entries (files : Files) (directory : Path) : List (String × Bool) :=
  (files.paths.filterMap fun path =>
    match stripPrefix? directory path with
    | some [name] => some (name, false)
    | some (name :: _ :: _) => some (name, true)
    | _ => none).dedup

/-- Whether a path is writable, when it exists. -/
def writable? (files : Files) (path : Path) : Option Bool :=
  match files.get? path with
  | some file => some file.writable
  | none => if files.isDirectory path then some true else none

/-- The entries of a directory, when it is one. -/
def list? (files : Files) (path : Path) : Option (List (String × Bool)) :=
  if path = [] ∨ files.isDirectory path then some (files.entries path) else none

end Files

/-- The files and the inputs of the running kdamonds. -/
structure System where
  files : Files
  committed : Path → Option File

/-! ## Error numbers -/

def eperm : Nat := 1

def enoent : Nat := 2

def eacces : Nat := 13

def einval : Nat := 22

def erange : Nat := 34

def enametoolong : Nat := 36

/-- The number of values of the kernel's non-negative `int`. -/
def intBound : Nat := 2 ^ 31

namespace System

/-- The value of a text attribute. -/
def value? (system : System) (path : Path) : Option String :=
  match system.files.get? path with
  | some ⟨.text text, _⟩ => some text.value
  | _ => none

def isRunning (system : System) (directory : Path) : Bool :=
  system.value? (directory ++ ["state"]) == some "on"

/-- The kdamond directory whose state file has a given path. -/
def kdamondOfState? : Path → Option Path
  | ["kdamonds", index, "state"] =>
      if (Path.nameIndex? index).isSome then some ["kdamonds", index] else none
  | _ => none

/-- Whether a path below a kdamond belongs to the quota goals of a scheme. -/
def isQuotaGoal (path : Path) : Bool :=
  match path with
  | _ :: _ :: "contexts" :: _ :: "schemes" :: _ :: "quotas" :: "goals" :: _ => true
  | _ => false

/-- Take over the staged inputs of a kdamond that `selected` accepts. -/
def commit (system : System) (directory : Path) (selected : Path → Bool) : System :=
  { system with
    committed := fun path =>
      if (stripPrefix? directory path).isSome && selected path then system.files.get? path
      else system.committed path }

/-- Show a state and a thread identifier. -/
def showState (system : System) (directory : Path) (state pid : String) : System :=
  { system with
    files := (system.files.setText (directory ++ ["state"]) (.ofWritten state)).setText
      (directory ++ ["pid"]) (.ofWritten pid) }

/-- A command written to the state file of a kdamond. -/
def command (system : System) (pid : Pid) (directory : Path) (value : String) :
    Except Nat System :=
  if value = "on" then
    if system.isRunning directory then .error Error.linuxEbusy
    else .ok ((system.commit directory fun _ => true).showState directory "on"
      (toString pid.get.toNat))
  else if value = "off" then
    if system.isRunning directory then .ok (system.showState directory "off" "-1")
    else .error eperm
  else if system.isRunning directory then
    if value = "commit" then .ok (system.commit directory fun _ => true)
    else if value = "commit_schemes_quota_goals" then .ok (system.commit directory isQuotaGoal)
    else if value = "update_schemes_stats" ∨ value = "update_schemes_tried_bytes" ∨
        value = "update_schemes_tried_regions" ∨ value = "clear_schemes_tried_regions" ∨
        value = "update_schemes_effective_quotas" ∨ value = "update_tuned_intervals" then
      .ok system
    else .error einval
  else .error einval

/-- What the kernel does with a value written to an attribute. -/
def write (kernel : Kernel) (pid : Pid) (system : System) (path : Path) (value : String) :
    Except Nat System :=
  match system.files.get? path with
  | none => .error enoent
  | some file =>
      if !file.writable then .error eacces
      else
        match kdamondOfState? path with
        | some directory => system.command pid directory value
        | none =>
            if Path.isReconstructionCount path then
              match Text.parseUnsigned intBound value with
              | none => .error einval
              | some count =>
                  .ok { system with
                    files := (system.files.reconstruct kernel path.dropLast count).setText path
                      (.ofWritten value) }
            else .ok { system with files := system.files.setText path (.ofWritten value) }

end System

end DamonRs
