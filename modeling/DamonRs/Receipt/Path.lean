import DamonRs.Library.Sorted
import DamonRs.Library.Text
import Mathlib.Data.List.Lex

/-!
# Paths in a receipt

A receipt stores raw path bytes.  Two paths are equal, and one precedes the
other, according to their components: repeated separators and inner "."
segments do not count, and the components of different kinds are ordered
before the names they contain.
-/

namespace DamonRs

/-- The raw bytes of a path. -/
structure PathBuf where
  bytes : List UInt8
  deriving Repr, DecidableEq

inductive Component where
  | rootDir
  | curDir
  | parentDir
  | normal (name : List UInt8)
  deriving Repr, DecidableEq

namespace Component

/-- The position of a component in the derived order. -/
def key : Component → List Nat
  | rootDir => [0]
  | curDir => [1]
  | parentDir => [2]
  | normal name => 3 :: name.map UInt8.toNat

theorem key_injective : Function.Injective key := by
  intro first second same
  cases first <;> cases second <;> simp [key] at same ⊢
  exact List.map_injective_iff.mpr (fun _ _ => UInt8.toNat_inj.mp) same

instance : LinearOrder Component := LinearOrder.lift' key key_injective

/-- The bytes of one component as a platform string. -/
def asOsStr : Component → List UInt8
  | rootDir => Library.Text.utf8Bytes "/"
  | curDir => Library.Text.utf8Bytes "."
  | parentDir => Library.Text.utf8Bytes ".."
  | normal name => name

def isNormal : Component → Bool
  | normal _ => true
  | _ => false

/-- The component with a given ASCII name. -/
def named (name : String) : Component := normal (Library.Text.utf8Bytes name)

end Component

namespace PathBuf

/-- The byte of the separator. -/
def separator : UInt8 := 0x2f

/-- The byte of a full stop. -/
def dot : UInt8 := 0x2e

/-- A segment after the first: empty and "." segments disappear. -/
def innerComponent (segment : List UInt8) : Option Component :=
  if segment = [] ∨ segment = [dot] then none
  else if segment = [dot, dot] then some .parentDir
  else some (.normal segment)

def isAbsolute (path : PathBuf) : Bool := path.bytes.head? == some separator

def containsNul (path : PathBuf) : Bool := path.bytes.contains 0

def components (path : PathBuf) : List Component :=
  let segments := path.bytes.splitOn separator
  if path.isAbsolute then .rootDir :: segments.filterMap innerComponent
  else if segments.head? = some [dot] then .curDir :: segments.tail.filterMap innerComponent
  else segments.filterMap innerComponent

def ofString (text : String) : PathBuf := ⟨Library.Text.utf8Bytes text⟩

/-! ## Relative paths by their components -/

theorem mem_intercalate (byte separator : UInt8) (different : byte ≠ separator)
    (segments : List (List UInt8)) :
    byte ∈ [separator].intercalate segments ↔ ∃ segment ∈ segments, byte ∈ segment := by
  induction segments with
  | nil => simp
  | cons segment rest ih =>
      cases rest with
      | nil => simp
      | cons second rest =>
          rw [List.intercalate_cons_cons]
          simp only [List.mem_append, ih, List.mem_cons, List.not_mem_nil, or_false, different]
          simp

theorem mem_segments (path : PathBuf) (byte : UInt8) (different : byte ≠ separator) :
    byte ∈ path.bytes ↔ ∃ segment ∈ path.bytes.splitOn separator, byte ∈ segment := by
  rw [← mem_intercalate byte separator different, List.intercalate_splitOn]

/-- A path with ordinary components only is relative. -/
theorem isAbsolute_of_normal {path : PathBuf}
    (normal : ∀ c ∈ path.components, c.isNormal = true) : path.isAbsolute = false := by
  cases absolute : path.isAbsolute with
  | false => rfl
  | true =>
      have root := normal .rootDir (by simp [components, absolute])
      simp [Component.isNormal] at root

/-- Its components are those of its segments. -/
theorem components_of_normal {path : PathBuf}
    (normal : ∀ c ∈ path.components, c.isNormal = true) :
    path.components = (path.bytes.splitOn separator).filterMap innerComponent := by
  have relative := isAbsolute_of_normal normal
  have noDot : (path.bytes.splitOn separator).head? ≠ some [dot] := by
    intro leading
    have current := normal .curDir (by simp [components, relative, leading])
    simp [Component.isNormal] at current
  simp [components, relative, noDot]

/-- A path with ordinary components only has no NUL byte unless a component has one. -/
theorem containsNul_iff (path : PathBuf) (normal : ∀ c ∈ path.components, c.isNormal = true) :
    path.containsNul = true ↔ ∃ name, Component.normal name ∈ path.components ∧ 0 ∈ name := by
  have componentsEq := components_of_normal normal
  have nul : path.containsNul = true ↔
      ∃ segment ∈ path.bytes.splitOn separator, (0 : UInt8) ∈ segment := by
    rw [← mem_segments path 0 (by decide)]
    simp [containsNul]
  rw [nul, componentsEq]
  constructor
  · rintro ⟨segment, member, zero⟩
    refine ⟨segment, List.mem_filterMap.mpr ⟨segment, member, ?_⟩, zero⟩
    have notEmpty : segment ≠ [] := List.ne_nil_of_mem zero
    have notDot : segment ≠ [dot] := by rintro rfl; simp [dot] at zero
    have notDots : segment ≠ [dot, dot] := by rintro rfl; simp [dot] at zero
    simp [innerComponent, notEmpty, notDot, notDots]
  · rintro ⟨name, member, zero⟩
    obtain ⟨segment, segmentMember, inner⟩ := List.mem_filterMap.mp member
    refine ⟨segment, segmentMember, ?_⟩
    unfold innerComponent at inner
    split at inner
    · cases inner
    · split at inner
      · cases inner
      · injection inner with same
        injection same with same
        exact same ▸ zero

end PathBuf

end DamonRs
