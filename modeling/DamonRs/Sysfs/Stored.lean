import DamonRs.Sysfs.Capture
import DamonRs.Sysfs.Staging
import DamonRs.Sysfs.Written

/-!
# What has been stored is read

Where nobody else acts, a written leaf shows its value to every typed read, and
staging below one directory leaves the other directories as they are.
-/

namespace DamonRs

open Library Sysfs

/-- An attribute shows a value that was written. -/
def Files.Leaf (files : Files) (path : Path) (value : String) : Prop :=
  files.get? path = some ⟨.text (.ofWritten value), true⟩

/-! ## Reading -/

theorem Library.Text.parseSigned_toString {bound value : Nat} (small : value < bound) :
    Text.parseSigned bound (toString value) = some (value : Int) := by
  have unsigned := Text.parseUnsigned_toString bound value small
  unfold Text.parseSigned
  split
  · rename_i dash
    have digit := Text.toString_digits value '-' (by rw [dash]; exact List.mem_cons_self)
    cases digit
  · rename_i dash
    have digit := Text.toString_digits value '-' (by rw [dash]; exact List.mem_cons_self)
    cases digit
  · rw [unsigned]
    rfl

/-- Whether a text is trimmed is seen from its ends. -/
theorem Library.Text.Trimmed.of_ends {text : String}
    (first : (text.toList.head?.all fun c => !Text.isUnicodeWhitespace c) = true)
    (last : (text.toList.getLast?.all fun c => !Text.isUnicodeWhitespace c) = true) :
    Text.Trimmed text := by
  constructor
  · intro c shown
    simpa [shown] using first
  · intro c shown
    simpa [shown] using last

section Reads

variable {env : Env} {system : System} {path : Path}

theorem Observes.u64 (solitary : env.Solitary) {number : Nat}
    (shown : Content.Numbers (system.files.get? path) number) :
    Observes env system (readU64 path) (UInt64.ofNat number) := by
  obtain ⟨⟨content, writable⟩, found, shows⟩ := shown
  cases content with
  | undecodable bytes => cases shows
  | text line =>
      rw [Content.unsigned?] at shows
      split at shows
      · cases shows
      · rename_i short
        have read : Observes env system (readNumberText path) (Text.trim line.raw) := by
          refine Observes.bind (Observes.content solitary found) ?_
          dsimp only
          rw [if_neg short]
          exact .pure _
        refine Observes.bind read ?_
        rw [shows]
        exact .pure _

theorem Observes.usize (solitary : env.Solitary) {number : Nat} (small : number < u64Bound)
    (shown : Content.Numbers (system.files.get? path) number) :
    Observes env system (readUsize path) number := by
  refine (Observes.u64 solitary shown).bind ?_
  rw [UInt64.toNat_ofNat_of_lt' small]
  exact .pure _

variable {value : String}

theorem Observes.leaf (solitary : env.Solitary) (leaf : system.files.Leaf path value) :
    Observes env system (readText path) (value ++ "\n") :=
  Observes.text solitary leaf

theorem Observes.number (solitary : env.Solitary) {number : UInt64}
    (leaf : system.files.Leaf path (toString number.toNat)) :
    Observes env system (readU64 path) number := by
  have observed := Observes.u64 solitary
    ⟨_, leaf, Content.unsigned?_ofWritten number.toNat_lt⟩
  rwa [UInt64.ofNat_toNat] at observed

theorem Observes.i32 (solitary : env.Solitary) {number : Nat} (small : number < intBound)
    (leaf : system.files.Leaf path (toString number)) :
    Observes env system (readI32 path) (Int32.ofInt number) := by
  have trimmed := Text.trimmed_toString number
  refine (Observes.leaf solitary leaf).bind ?_
  rw [trimmed.trim_newline]
  dsimp only
  rw [Text.parseSigned_toString small]
  exact .pure _

/-- The text of a Linux boolean. -/
def flagText (value : Bool) : String := if value then "Y" else "N"

theorem Observes.flag (solitary : env.Solitary) {flag : Bool}
    (leaf : system.files.Leaf path (flagText flag)) :
    Observes env system (readBool path) flag := by
  cases flag with
  | true =>
      refine (Observes.leaf solitary leaf).bind ?_
      exact .pure _
  | false =>
      refine (Observes.leaf solitary leaf).bind ?_
      exact .pure _

theorem Observes.enum (solitary : env.Solitary) {α : Type} {parse : String → α}
    (trimmed : Text.Trimmed value) (leaf : system.files.Leaf path value) :
    Observes env system (readEnum path parse) (parse value) := by
  refine (Observes.leaf solitary leaf).bind ?_
  rw [trimmed.trim_newline]
  exact .pure _

theorem Observes.line (solitary : env.Solitary) (leaf : system.files.Leaf path value) :
    Observes env system (readSysfsString path) value := by
  refine (Observes.text solitary leaf).bind ?_
  have same : stripFinalNewline (AttributeText.ofWritten value).raw = value :=
    AttributeText.ofWritten_value value
  rw [same]
  exact .pure _

end Reads

/-! ## Writing leaves -/

/-- Some leaves of a directory are rewritten, and nothing else happens to the files. -/
structure Rewrites (directory : Path) (names : List String) (before after : Files) : Prop where
  others : ∀ path, (∀ name ∈ names, path ≠ directory ++ [name]) →
    after.get? path = before.get? path
  present : ∀ path, after.pathExists path = before.pathExists path

namespace Rewrites

variable {directory : Path} {names more : List String} {first second third : Files}

theorem refl (files : Files) : Rewrites directory names files files :=
  ⟨fun _ _ => rfl, fun _ => rfl⟩

theorem trans (one : Rewrites directory names first second)
    (two : Rewrites directory more second third) :
    Rewrites directory (names ++ more) first third where
  others := by
    intro path outside
    rw [two.others path fun name member => outside name (List.mem_append_right _ member),
      one.others path fun name member => outside name (List.mem_append_left _ member)]
  present := fun path => (two.present path).trans (one.present path)

theorem leaf {name value : String} (rewrites : Rewrites directory names first second)
    (apart : name ∉ names) (leaf : first.Leaf (directory ++ [name]) value) :
    second.Leaf (directory ++ [name]) value := by
  unfold Files.Leaf
  rw [rewrites.others _ fun other member same => ?_]
  · exact leaf
  · rw [List.append_cancel_left_eq, List.cons.injEq] at same
    exact apart (same.1 ▸ member)

end Rewrites

theorem Files.pathExists_congr {first second : Files} {path : Path}
    (same : ∀ inner, (first.get? (path ++ inner)).isSome = (second.get? (path ++ inner)).isSome) :
    first.pathExists path = second.pathExists path := by
  rw [Bool.eq_iff_iff, Files.pathExists_iff, Files.pathExists_iff]
  simp only [same]

/-- A name of an attribute that neither sends a command nor counts children. -/
def isStoredName (name : String) : Bool := name != "state" && !Path.isCountName name

/-- A write of such a leaf is neither a command nor a reconstruction. -/
theorem isStoredName_path {name : String} (stored : isStoredName name = true) (directory : Path) :
    System.kdamondOfState? (directory ++ [name]) = none ∧
      Path.isReconstructionCount (directory ++ [name]) = false := by
  simp only [isStoredName, Bool.and_eq_true, bne_iff_ne, Bool.not_eq_true'] at stored
  constructor
  · cases kind : System.kdamondOfState? (directory ++ [name]) with
    | none => rfl
    | some other =>
        have same := congrArg List.getLast? (System.kdamondOfState?_eq_some kind)
        rw [List.getLast?_concat, List.getLast?_concat] at same
        exact absurd (Option.some.inj same) stored.1
  · rw [Path.isReconstructionCount, List.getLast?_concat]
    exact stored.2

/-- What an accepted write of a leaf does to the files. -/
theorem System.write_files {kernel : Kernel} {pid : Pid} {sys after : System}
    {directory : Path} {name value : String} (stored : isStoredName name = true)
    (written : sys.write kernel pid (directory ++ [name]) value = .ok after) :
    after.files = sys.files.setText (directory ++ [name]) (.ofWritten value) ∧
      ∃ content, sys.files.get? (directory ++ [name]) = some ⟨content, true⟩ := by
  obtain ⟨noCommand, noCount⟩ := isStoredName_path stored directory
  unfold write at written
  cases hit : sys.files.get? (directory ++ [name]) with
  | none => simp [hit] at written
  | some file =>
      obtain ⟨content, writable⟩ := file
      simp only [hit, noCommand, noCount] at written
      cases writable with
      | false => cases written
      | true =>
          simp only [Bool.not_true, Bool.false_eq_true, if_false] at written
          cases written
          exact ⟨rfl, content, rfl⟩

/-- What a program stores in some leaves of a directory when it succeeds. -/
def Stores (env : Env) (directory : Path) (names : List String) (program : Sysfs Unit)
    (stored : Files → Prop) : Prop :=
  ∀ world after, program env world = (.ok (), after) →
    Rewrites directory names world.sys.files after.sys.files ∧ stored after.sys.files

namespace Stores

variable {env : Env} {directory : Path} {names more : List String} {program next : Sysfs Unit}
  {stored also : Files → Prop}

theorem skip : Stores env directory [] (pure ()) fun _ => True := by
  intro world after run
  cases run
  exact ⟨Rewrites.refl _, trivial⟩

theorem write (solitary : env.Solitary) {name : String} (kind : isStoredName name = true)
    (value : String) :
    Stores env directory [name] (writeBytes (directory ++ [name]) value)
      (·.Leaf (directory ++ [name]) value) := by
  intro world after run
  rcases writeBytes_cases (directory ++ [name]) value env world with
    ⟨error, failed, -⟩ | ⟨done, written⟩
  · rw [failed] at run
    cases run
  · rw [done] at run
    cases run
    rw [solitary.still] at written
    obtain ⟨files, content, hit⟩ := System.write_files kind written
    have shown : ∀ path, (env.advance world (.write (directory ++ [name]) value)).sys.files.get?
        path = if path = directory ++ [name] then some ⟨.text (.ofWritten value), true⟩
          else world.sys.files.get? path := by
      intro path
      rw [files, Files.get?_setText]
      split
      · rename_i same
        rw [same, hit]
        rfl
      · rfl
    constructor
    · constructor
      · intro path outside
        exact (shown path).trans (if_neg (outside name List.mem_cons_self))
      · intro path
        apply Files.pathExists_congr
        intro inner
        refine (congrArg Option.isSome (shown _)).trans ?_
        split
        · rename_i same
          rw [same, hit]
          rfl
        · rfl
    · exact (shown _).trans (if_pos rfl)

theorem seq (first : Stores env directory names program stored)
    (second : Stores env directory more next also)
    (keeps : ∀ before after, Rewrites directory more before after → stored before → stored after) :
    Stores env directory (names ++ more) (program >>= fun _ => next)
      fun files => stored files ∧ also files := by
  intro world after run
  obtain ⟨_, middle, one, two⟩ := Exec.bind_eq_ok run
  obtain ⟨rewrites, holds⟩ := first world middle one
  obtain ⟨rewritesNext, holdsNext⟩ := second middle after two
  exact ⟨rewrites.trans rewritesNext, keeps _ _ rewritesNext holds, holdsNext⟩

theorem widen (stores : Stores env directory names program stored) (fewer : names ⊆ more) :
    Stores env directory more program stored := by
  intro world after run
  obtain ⟨rewrites, holds⟩ := stores world after run
  refine ⟨⟨?_, rewrites.present⟩, holds⟩
  intro path outside
  exact rewrites.others path fun name member => outside name (fewer member)

/-- An optional value is stored when it is given. -/
theorem payload {α : Type} (given : Option α) {stage : α → Sysfs Unit}
    {shown : α → Files → Prop}
    (stores : ∀ value, Stores env directory names (stage value) (shown value)) :
    Stores env directory names (stagePayload given stage)
      fun files => ∀ value, given = some value → shown value files := by
  intro world after run
  cases given with
  | none =>
      cases run
      exact ⟨Rewrites.refl _, fun _ absent => by cases absent⟩
  | some value =>
      obtain ⟨rewrites, holds⟩ := stores value world after run
      refine ⟨rewrites, ?_⟩
      rintro _ ⟨⟩
      exact holds

theorem mono (stores : Stores env directory names program stored)
    (weaker : ∀ files, stored files → also files) : Stores env directory names program also := by
  intro world after run
  obtain ⟨rewrites, holds⟩ := stores world after run
  exact ⟨rewrites, weaker _ holds⟩

/-- A check stores nothing. -/
theorem checked {check : Except Error Unit} (stores : Stores env directory names program stored) :
    Stores env directory names (Exec.ofExcept check >>= fun _ => program)
      fun files => check = .ok () ∧ stored files := by
  intro world after run
  obtain ⟨_, middle, passed, rest⟩ := Exec.bind_eq_ok run
  cases check with
  | error error => cases passed
  | ok done =>
      cases passed
      obtain ⟨rewrites, holds⟩ := stores world after rest
      exact ⟨rewrites, rfl, holds⟩

end Stores

/-! ## Frames -/

/-- Nothing changes that is not below a directory. -/
def Outside (directory : Path) (before after : Files) : Prop :=
  ∀ path, ¬directory <+: path → after.get? path = before.get? path

namespace Outside

variable {directory : Path} {first second third : Files}

theorem refl (files : Files) : Outside directory files files := fun _ _ => rfl

theorem trans (one : Outside directory first second) (two : Outside directory second third) :
    Outside directory first third :=
  fun path outside => (two path outside).trans (one path outside)

theorem present (outside : Outside directory first second) {path : Path}
    (apart : ∀ inner, ¬directory <+: path ++ inner) :
    second.pathExists path = first.pathExists path := by
  apply Files.pathExists_congr
  intro inner
  rw [outside _ (apart inner)]

end Outside

theorem Rewrites.outside {directory : Path} {names : List String} {before after : Files}
    (rewrites : Rewrites directory names before after) : Outside directory before after := by
  intro path apart
  apply rewrites.others
  rintro name - rfl
  exact apart (List.prefix_append _ _)

/-- Directories that differ in their next name have nothing in common. -/
theorem not_prefix_of_ne {directory rest inner : Path} {first second : String}
    (different : first ≠ second) : ¬directory ++ first :: rest <+: directory ++ second :: inner := by
  rw [List.prefix_append_right_inj, List.cons_prefix_cons]
  rintro ⟨same, -⟩
  exact different same

/-- A count that has been ensured is shown, and only its children are rebuilt. -/
theorem Sysfs.ensureCount_stores {env : Env} (solitary : env.Solitary) {directory : Path}
    {name : String} (isCount : Path.isCountName name = true) {count : Nat} {world after : World}
    (run : ensureCount (directory ++ [name]) count env world = (.ok (), after)) :
    Content.Numbers (after.sys.files.get? (directory ++ [name])) count ∧
      Outside directory world.sys.files after.sys.files ∧ count < intBound := by
  obtain ⟨_, start, checked, staged⟩ := Exec.bind_eq_ok run
  cases passed : validateCount "indexed child count" count with
  | error error =>
      rw [passed] at checked
      cases checked
  | ok done =>
  rw [passed] at checked
  cases checked
  have small : count < intBound := by
    rw [validateCount, requireField_eq_ok_iff, decide_eq_true_eq] at passed
    have bound : kernelIndexMax < intBound := by decide
    omega
  obtain ⟨current, middle, read, rest⟩ := Exec.bind_eq_ok staged
  obtain ⟨rfl, numbers⟩ := readUsize_ok read
  have still : (env.advance world (.read (directory ++ [name]))).sys = world.sys :=
    solitary.advance_sys world trivial
  rw [still] at numbers
  unfold stageWhen at rest
  split at rest
  · rcases writeBytes_cases (directory ++ [name]) (toString count) env
      (env.advance world (.read (directory ++ [name]))) with ⟨error, failed, -⟩ | ⟨done, written⟩
    · rw [writeValue, failed] at rest
      cases rest
    · rw [writeValue, done] at rest
      cases rest
      rw [solitary.still, still] at written
      have counts : Path.isReconstructionCount (directory ++ [name]) = true := by
        rw [Path.isReconstructionCount, List.getLast?_concat]
        exact isCount
      rcases System.write_cases written with ⟨other, kind, -⟩ | ⟨-, -, found, parsed, files⟩ |
        ⟨-, leaf, -⟩
      · have same := congrArg List.getLast? (System.kdamondOfState?_eq_some kind)
        rw [List.getLast?_concat, List.getLast?_concat] at same
        rw [Option.some.inj same] at isCount
        exact absurd isCount (by decide)
      · rw [Text.parseUnsigned_toString _ _ small, Option.some.injEq] at parsed
        subst parsed
        have addressed : count ≤ 2 ^ 64 := by unfold intBound at small; omega
        have shown : ∀ path, ((env.advance (env.advance world (.read (directory ++ [name])))
            (.write (directory ++ [name]) (toString count))).recordWrite
              (directory ++ [name])).sys.files.get? path =
            ((world.sys.files.reconstruct env.kernel directory count).setText (directory ++ [name])
              (.ofWritten (toString count))).get? path := by
          intro path
          have same := congrArg System.files files
          rw [List.dropLast_concat] at same
          exact congrArg (Files.get? · path) same
        refine ⟨?_, ?_, small⟩
        · obtain ⟨file, hit, -⟩ := numbers
          rw [shown, Files.get?_setText, if_pos rfl, Files.get?_reconstruct addressed,
            if_neg (by simp [indexedChild?]), hit]
          exact ⟨_, rfl, Content.unsigned?_ofWritten (lt_trans small (by decide))⟩
        · intro path outside
          rw [shown, Files.get?_setText_of_ne, Files.get?_reconstruct addressed, if_neg]
          · intro child
            obtain ⟨found, isChild⟩ := Option.isSome_iff_exists.mp child
            exact outside (indexedChild?_below isChild)
          · rintro rfl
            exact outside (List.prefix_append _ _)
      · rw [counts] at leaf
        cases leaf
  · rename_i same
    cases rest
    have equal : current = count := by simpa using same
    subst equal
    rw [still]
    exact ⟨numbers, Outside.refl _, small⟩

end DamonRs
