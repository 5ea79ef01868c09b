import DamonRs.Library.Text
import DamonRs.Error

/-!
# Attribute paths

The classification of attribute paths by their components: counts whose write
reconstructs indexed children, and attributes that report runtime state.
-/

namespace DamonRs

open Library

namespace Path

/-- An index as the name of a child directory. -/
def indexName (index : Nat) : String := toString index

/-- The index named by a directory, as an unsigned number of the platform word type. -/
def nameIndex? (name : String) : Option Nat := Text.parseUnsigned (2 ^ 64) name

theorem nameIndex?_indexName {index : Nat} (small : index < 2 ^ 64) :
    nameIndex? (indexName index) = some index :=
  Text.parseUnsigned_toString _ index small

theorem indexName_injective : Function.Injective indexName := by
  intro first second same
  have parsed := Text.parseUnsigned_toString (max first second + 1) first (by omega)
  rw [show toString first = toString second from same,
    Text.parseUnsigned_toString _ second (by omega)] at parsed
  injection parsed with equal
  exact equal.symm

/-- A file name of a count whose write reconstructs the indexed children beside it. -/
def isCountName (name : String) : Bool :=
  ['n', 'r', '_'].isPrefixOf name.toList && name != "nr_accesses_permil"

def isReconstructionCount (path : Path) : Bool :=
  match path.getLast? with
  | some name => isCountName name
  | none => false

def isRuntimeAttribute (relative : Path) : Bool :=
  (match relative.getLast? with
    | some name => name == "state" || name == "pid" || name == "avail_operations"
    | none => false) ||
  relative.contains "tried_regions" ||
  ["quotas", "effective_bytes"].isSuffixOf relative ||
  (["stats"].isSuffixOf relative.dropLast && !(["stats", "max_nr_snapshots"].isSuffixOf relative))

theorem indexName_digits (index : Nat) (c : Char) (member : c ∈ (indexName index).toList) :
    c.isDigit = true := by
  have digits : (indexName index).toList = Nat.toDigits 10 index := by
    simp [indexName, toString, Nat.repr]
  rw [digits] at member
  exact Nat.isDigit_of_mem_toDigits (by decide : 0 < 10) (by decide) member

/-- Indexed children are directories, never counts. -/
theorem isCountName_indexName (index : Nat) : isCountName (indexName index) = false := by
  cases isCount : isCountName (indexName index) with
  | false => rfl
  | true =>
      simp only [isCountName, Bool.and_eq_true] at isCount
      obtain ⟨rest, same⟩ := List.isPrefixOf_iff_prefix.mp isCount.1
      have letter := indexName_digits index 'n' (by rw [← same]; simp)
      simp at letter

end Path

end DamonRs
