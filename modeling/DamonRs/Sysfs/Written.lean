import DamonRs.Sysfs.Within

/-!
# Values that have been written

An accepted write of a leaf stores its value, and a read shows the value with
one final newline.
-/

namespace DamonRs

open Library Sysfs

/-! ## Texts -/

/-- A trimmed value ends with no newline. -/
theorem Library.Text.Trimmed.single {value : String} (trimmed : Text.Trimmed value) :
    value.toList.getLast? ≠ some '\n' := by
  intro ends
  have newline := trimmed.last '\n' ends
  cases newline

theorem AttributeText.trim_ofWritten {value : String} (trimmed : Text.Trimmed value) :
    Text.trim (AttributeText.ofWritten value).raw = value := by
  rw [raw_ofWritten, trimmed.trim_newline]

/-- A number that has been written is read. -/
theorem Content.unsigned?_ofWritten {number : Nat} (small : number < u64Bound) :
    (Content.text (.ofWritten (toString number))).unsigned? = some number := by
  have trimmed := Text.trimmed_toString number
  have newline : Text.utf8Bytes "\n" = [0x0a] := by decide
  have raw : (Content.text (.ofWritten (toString number))).bytes =
      Text.utf8Bytes (toString number) ++ [0x0a] := by
    rw [Content.bytes, AttributeText.raw_ofWritten, ← newline]
    simp [Text.utf8Bytes]
  have short : ¬(Content.text (.ofWritten (toString number))).bytes.length ≥ 64 := by
    have digits : (Text.utf8Bytes (toString number)).length ≤ 20 :=
      Text.utf8Bytes_toString_length small
    rw [raw, List.length_append, List.length_singleton]
    omega
  rw [Content.unsigned?, if_neg short, AttributeText.trim_ofWritten trimmed,
    Text.parseUnsigned_toString _ _ small]

/-! ## Writes of leaves -/

theorem System.kdamondOfState?_of_configuration {path : Path}
    (configuration : Path.isRuntimeAttribute path = false) : kdamondOfState? path = none := by
  cases kind : kdamondOfState? path with
  | none => rfl
  | some directory =>
      rw [kdamondOfState?_eq_some kind, Path.isRuntimeAttribute,
        List.getLast?_append_of_ne_nil _ (by simp)] at configuration
      cases configuration

/-- An accepted write of a leaf stores its value. -/
theorem System.write_leaf {kernel : Kernel} {pid : Pid} {sys after : System} {path : Path}
    {value : String} (written : sys.write kernel pid path value = .ok after)
    (configuration : Path.isRuntimeAttribute path = false)
    (leaf : Path.isReconstructionCount path = false) :
    after.files.get? path = some ⟨.text (.ofWritten value), true⟩ := by
  have kind := kdamondOfState?_of_configuration configuration
  unfold write at written
  cases hit : sys.files.get? path with
  | none => simp [hit] at written
  | some file =>
      obtain ⟨content, writable⟩ := file
      simp only [hit, kind, leaf] at written
      cases writable with
      | false => cases written
      | true =>
          simp only [Bool.not_true, Bool.false_eq_true, if_false] at written
          cases written
          rw [Files.get?_setText, if_pos rfl, hit]
          rfl

/-- A successful write of a leaf leaves its value in the file. -/
theorem Sysfs.writeBytes_stores {path : Path} {value : String} {env : Env} {world after : World}
    (run : writeBytes path value env world = (.ok (), after))
    (configuration : Path.isRuntimeAttribute path = false)
    (leaf : Path.isReconstructionCount path = false) :
    after.sys.files.get? path = some ⟨.text (.ofWritten value), true⟩ := by
  rcases writeBytes_cases path value env world with ⟨error, failed, -⟩ | ⟨done, written⟩
  · rw [failed] at run
    cases run
  · rw [done] at run
    cases run
    exact System.write_leaf written configuration leaf

end DamonRs
