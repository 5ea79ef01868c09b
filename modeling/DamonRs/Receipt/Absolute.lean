import DamonRs.Receipt.Decoded

/-!
# Paths below the admin root

A receipt is opened under the admin root of a DAMON instance: its relative paths
are joined to the root and checked once more.  Joining puts the components of
the root in front, so it keeps the order and tells different paths apart.
-/

namespace DamonRs

open Library

namespace PathBuf

/-- `Path::join`: an absolute path replaces the root, and a separator is added where one is missing. -/
def join (root path : PathBuf) : PathBuf :=
  if path.isAbsolute then path
  else if root.bytes.getLast?.all (· == separator) then ⟨root.bytes ++ path.bytes⟩
  else ⟨root.bytes ++ separator :: path.bytes⟩

theorem segments_append (front rest : List UInt8) :
    ((front ++ separator :: rest).splitOn separator).filterMap innerComponent =
      (front.splitOn separator).filterMap innerComponent ++
        (rest.splitOn separator).filterMap innerComponent := by
  rw [List.splitOn_append_cons_self, List.filterMap_append]

/-- A separator at the end names nothing. -/
theorem segments_trailing (front : List UInt8) :
    ((front ++ [separator]).splitOn separator).filterMap innerComponent =
      (front.splitOn separator).filterMap innerComponent := by
  rw [segments_append]
  simp [innerComponent]

theorem join_segments {root path : PathBuf} (relative : path.isAbsolute = false) :
    ((root.join path).bytes.splitOn separator).filterMap innerComponent =
      (root.bytes.splitOn separator).filterMap innerComponent ++
        (path.bytes.splitOn separator).filterMap innerComponent := by
  unfold join
  rw [relative]
  rcases List.eq_nil_or_concat root.bytes with empty | ⟨front, last, whole⟩
  · simp [empty, innerComponent]
  · rw [List.concat_eq_append] at whole
    by_cases separated : last = separator
    · subst separated
      simp only [whole, List.getLast?_concat, Option.all_some, beq_self_eq_true, if_true,
        Bool.false_eq_true, if_false]
      rw [List.append_assoc, List.singleton_append, segments_append, segments_trailing]
    · have missing : ¬(root.bytes.getLast?.all (· == separator)) = true := by
        simpa [whole] using separated
      rw [if_neg (by simp), if_neg missing, segments_append]

theorem join_components {root path : PathBuf} (absolute : root.isAbsolute = true)
    (normal : ∀ c ∈ path.components, c.isNormal = true) :
    (root.join path).components = root.components ++ path.components := by
  have relative := isAbsolute_of_normal normal
  have still : (root.join path).isAbsolute = true := by
    unfold isAbsolute at absolute ⊢
    have head : root.bytes.head? = some separator := by simpa using absolute
    obtain ⟨first, rest, whole⟩ : ∃ first rest, root.bytes = first :: rest := by
      cases bytes : root.bytes with
      | nil => simp [bytes] at head
      | cons first rest => exact ⟨first, rest, rfl⟩
    unfold join
    rw [relative]
    split
    · contradiction
    · split <;> simpa [whole] using head
  rw [components_of_normal normal]
  simp only [components, still, absolute, if_true, join_segments relative, List.cons_append]

/-- A path with the components of an absolute one is absolute. -/
theorem isAbsolute_of_components {first second : PathBuf}
    (absolute : first.isAbsolute = true) (same : first.components = second.components) :
    second.isAbsolute = true := by
  have inner : ∀ segment, innerComponent segment ≠ some .rootDir := by
    intro segment
    unfold innerComponent
    split_ifs <;> simp
  have root : Component.rootDir ∈ second.components := by
    rw [← same]
    simp [components, absolute]
  cases relative : second.isAbsolute with
  | true => rfl
  | false =>
      simp only [components, relative, Bool.false_eq_true, if_false] at root
      split at root
      · rcases List.mem_cons.mp root with leading | later
        · cases leading
        · obtain ⟨segment, -, named⟩ := List.mem_filterMap.mp later
          exact absurd named (inner segment)
      · obtain ⟨segment, -, named⟩ := List.mem_filterMap.mp root
        exact absurd named (inner segment)

end PathBuf

end DamonRs
