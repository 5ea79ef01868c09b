import DamonRs.Sysfs.Restore
import DamonRs.Sysfs.ConfinedStaging

/-!
# The goals directory of a scheme

Writing quota goals changes the files below the goals directory of their scheme
and nothing else.  The number of goals decides which of them exist, so once it
is as before, the files have the attributes that they had.
-/

namespace DamonRs

open Library Sysfs

/-! ## Paths -/

/-- The directory of the quota goals of a scheme. -/
def goalsPath (kdamond context scheme : Nat) : Path :=
  (((DamonAdmin.kdamond kdamond).context context).scheme scheme).quotas.path ++ ["goals"]

/-- How many quota goals a scheme has. -/
def goalCountPath (kdamond context scheme : Nat) : Path :=
  goalsPath kdamond context scheme ++ ["nr_goals"]

/-- The attributes of the goals directory: those there were, or those of default goals that the
count has been written for. -/
def GoalsShaped (kernel : Kernel) (count : Path) (source files : Files) : Prop :=
  (∀ path, files.mode path = source.mode path) ∨
    ∃ text number, files.get? count = some ⟨.text text, true⟩ ∧
      Text.parseUnsigned intBound text.value = some number ∧
      ∀ path, files.mode path =
        if (indexedChild? count.dropLast path).isSome then
          (Store.find path (Files.defaultChildren kernel count.dropLast number)).map File.writable
        else source.mode path

/-- Nothing but the goals of a scheme has changed. -/
structure GoalsOnly (kernel : Kernel) (kdamond context scheme : Nat) (source files : Files) :
    Prop where
  outside : ∀ path, (∀ rest, path ≠ goalsPath kdamond context scheme ++ rest) →
    files.get? path = source.get? path
  shaped : GoalsShaped kernel (goalCountPath kdamond context scheme) source files

section Goals

variable {kernel : Kernel} {k i j : Nat} {source files after : Files} {path : Path}
  {value : String}

theorem GoalsOnly.refl (files : Files) : GoalsOnly kernel k i j files files :=
  ⟨fun _ _ => rfl, .inl fun _ => rfl⟩

theorem goalCountPath_directory : (goalCountPath k i j).dropLast = goalsPath k i j := by
  unfold goalCountPath
  rw [List.dropLast_concat]

/-- A written goal changes nothing outside of the goals. -/
theorem GoalsOnly.write (only : GoalsOnly kernel k i j source files)
    (below : ∃ rest, path = goalsPath k i j ++ rest)
    (counts : Path.isReconstructionCount path = true → path = goalCountPath k i j)
    (written : files.write kernel path value = .ok after) :
    GoalsOnly kernel k i j source after := by
  have shows := Files.write_get? written
  constructor
  · intro other outside
    have different : other ≠ path := by
      obtain ⟨rest, rfl⟩ := below
      exact outside rest
    rw [← only.outside other outside, shows other, Files.written, if_neg different]
    cases Text.parseUnsigned intBound value with
    | none => rfl
    | some number =>
        dsimp only
        rw [if_neg]
        rw [Bool.and_eq_true]
        rintro ⟨isCount, child⟩
        rw [counts isCount, goalCountPath_directory] at child
        obtain ⟨rest, same⟩ := exists_rest_of_indexedChild child
        exact outside rest same
  · by_cases isCount : Path.isReconstructionCount path = true
    · obtain rfl := counts isCount
      obtain ⟨present, counted⟩ := Files.write_requires written
      obtain ⟨number, parsed⟩ := counted isCount
      obtain ⟨⟨text, found, shows⟩, children, others⟩ := Restored.of_write present written
      have same : text.value = value :=
        (Content.shows_text (Text.parseUnsigned_single parsed)).mp shows
      refine .inr ⟨text, number, found, by rw [same]; exact parsed, fun other => ?_⟩
      by_cases child : (indexedChild? (goalCountPath k i j).dropLast other).isSome = true
      · rw [if_pos child, Files.mode, children number isCount parsed other child]
      · rw [if_neg child]
        have kept : after.mode other = files.mode other := by
          by_cases isThis : other = goalCountPath k i j
          · rw [isThis, present, Files.mode, found, Option.map_some]
          · rw [Files.mode, others other isThis fun _ => (Bool.not_eq_true _).mp child]
            rfl
        rw [kept]
        rcases only.shaped with unchanged | ⟨_, _, _, _, shaped⟩
        · exact unchanged other
        · rw [shaped other, if_neg child]
    · have leaf := Bool.eq_false_iff.mpr isCount
      have modes := Files.write_leaf_mode leaf written
      rcases only.shaped with same | ⟨text, number, found, parsed, shaped⟩
      · exact .inl fun other => (modes other).trans (same other)
      · refine .inr ⟨text, number, ?_, parsed, fun other => (modes other).trans (shaped other)⟩
        have different : goalCountPath k i j ≠ path := by
          rintro rfl
          exact isCount (by simp [goalCountPath, Path.isReconstructionCount, Path.isCountName])
        rw [← found, shows, Files.written, if_neg different, leaf]
        cases Text.parseUnsigned intBound value <;> rfl

/-- Below the goals of a scheme, only their number is a count. -/
def GoalsFlat (files : Files) (kdamond context scheme : Nat) : Prop :=
  ∀ count, files.IsCount count → (∃ rest, count = goalsPath kdamond context scheme ++ rest) →
    count = goalCountPath kdamond context scheme

theorem goalCountPath_isCount : Path.isReconstructionCount (goalCountPath k i j) = true := by
  simp [goalCountPath, Path.isReconstructionCount, Path.isCountName]

/-- What a count further in owns lies below the goals only when the count does. -/
theorem GoalsFlat.owns (flat : GoalsFlat source k i j) {inner : Path} (owns : source.Owns inner path)
    (child : (indexedChild? (goalsPath k i j) path).isSome = true) :
    inner.length ≤ (goalCountPath k i j).length := by
  by_contra longer
  rw [Nat.not_le] at longer
  obtain ⟨rest, whole⟩ := exists_rest_of_indexedChild child
  obtain ⟨inside, same⟩ := exists_rest_of_indexedChild owns.2
  have length : (goalCountPath k i j).length = (goalsPath k i j).length + 1 := by
    simp [goalCountPath]
  have deeper : (goalsPath k i j).length ≤ inner.dropLast.length := by
    rw [List.length_dropLast]
    omega
  have below : goalsPath k i j <+: inner.dropLast :=
    List.prefix_of_prefix_length_le ⟨rest, whole.symm⟩ ⟨inside, same.symm⟩ deeper
  obtain ⟨further, higher⟩ := below.trans (List.dropLast_prefix inner)
  have isGoals := flat inner owns.1 ⟨further, higher.symm⟩
  rw [isGoals] at longer
  exact Nat.lt_irrefl _ longer

/-- Once the number of goals is as before, so are the attributes. -/
theorem GoalsOnly.modes (only : GoalsOnly kernel k i j source files)
    (numbered : source.NumberedBy kernel) (flat : GoalsFlat source k i j)
    (count : source.Configures (goalCountPath k i j) → ∀ text : AttributeText,
      files.get? (goalCountPath k i j) = some ⟨.text text, true⟩ →
        text.value = source.shownValue (goalCountPath k i j)) (path : Path) :
    files.mode path = source.mode path := by
  rcases only.shaped with same | ⟨text, number, found, parsed, shaped⟩
  · exact same path
  rw [shaped path]
  rw [goalCountPath_directory] at shaped ⊢
  by_cases child : (indexedChild? (goalsPath k i j) path).isSome = true
  · have writable : source.mode (goalCountPath k i j) = some true := by
      have kept := shaped (goalCountPath k i j)
      have own := indexedChild?_own (goalCountPath k i j)
      rw [goalCountPath_directory] at own
      rw [own] at kept
      rw [← kept.trans (if_neg Bool.false_ne_true), Files.mode, found]
      rfl
    have configures : source.Configures (goalCountPath k i j) := by
      refine ⟨by simp [goalCountPath], ?_, Option.map_eq_some_iff.mp writable⟩
      have regions : ∀ index, "tried_regions" ≠ Path.indexName index := Path.indexName_ne rfl
      refine Path.isRuntimeAttribute_append (by simp) ?_ ?_ rfl
      · simp [goalsPath, Scheme.quotas, Context.scheme, Kdamond.context, DamonAdmin.kdamond,
          regions]
      · simp [goalsPath]
    obtain ⟨before, amount, there, counted, children⟩ :=
      numbered.counted _ ⟨goalCountPath_isCount, configures⟩
    have same : amount = number := by
      have value : text.value = before.value := by
        rw [count configures text found, Files.shownValue, there]
      rw [value, counted] at parsed
      exact Option.some.inj parsed
    rw [if_pos child, ← same, Files.mode]
    have sourceChildren := children path (by rwa [goalCountPath_directory]) fun inner owns =>
      flat.owns owns child
    rw [goalCountPath_directory] at sourceChildren
    exact sourceChildren.symm
  · rw [if_neg child]

/-- The files show every value below the goals that they showed before. -/
def ShowsGoals (kdamond context scheme : Nat) (source files : Files) : Prop :=
  ∀ path, source.Configures path → (∃ rest, path = goalsPath kdamond context scheme ++ rest) →
    ∀ text : AttributeText, files.get? path = some ⟨.text text, true⟩ →
      text.value = source.shownValue path

/-- When the goals show what they showed before, everything is captured as before. -/
theorem GoalsOnly.captured (only : GoalsOnly kernel k i j source files)
    (numbered : source.NumberedBy kernel) (flat : GoalsFlat source k i j)
    (readable : files.Readable) (shown : ShowsGoals k i j source files) :
    files.captured = source.captured := by
  have modes := only.modes numbered flat fun configures => shown _ configures ⟨["nr_goals"], rfl⟩
  refine Files.captured_congr (fun path => Files.configures_of_mode (modes path)) fun path there => ?_
  by_cases below : ∃ rest, path = goalsPath k i j ++ rest
  · obtain ⟨text, found⟩ := readable path there
    rw [← shown path ((Files.configures_of_mode (modes path)).mp there) below text found,
      Files.shownValue, found]
  · unfold Files.shownValue
    rw [only.outside path fun rest same => below ⟨rest, same⟩]

/-- Then every writable goal holds what it held. -/
theorem GoalsOnly.holds (only : GoalsOnly kernel k i j source files)
    (numbered : source.NumberedBy kernel) (flat : GoalsFlat source k i j)
    (before : source.Readable) (readable : files.Readable) (shown : ShowsGoals k i j source files)
    (rest : Path) (configuration : Path.isRuntimeAttribute (goalsPath k i j ++ rest) = false) :
    ((files.get? (goalsPath k i j ++ rest)).filter File.writable).map File.shown =
      ((source.get? (goalsPath k i j ++ rest)).filter File.writable).map File.shown := by
  have mode := only.modes numbered flat (fun configures => shown _ configures ⟨["nr_goals"], rfl⟩)
    (goalsPath k i j ++ rest)
  by_cases configures : source.Configures (goalsPath k i j ++ rest)
  · obtain ⟨text, found⟩ := readable _ ((Files.configures_of_mode mode).mpr configures)
    obtain ⟨old, there⟩ := before _ configures
    have value := shown _ configures ⟨rest, rfl⟩ text found
    rw [Files.shownValue, there] at value
    rw [found, there]
    simp only [Option.filter_some, if_true, Option.map_some, File.shown]
    rw [show text.value = old.value from value]
  · have readOnly : ∀ {other : Files}, ¬other.Configures (goalsPath k i j ++ rest) →
        (other.get? (goalsPath k i j ++ rest)).filter File.writable = none := by
      intro other refused
      rw [Option.filter_eq_none_iff]
      intro file found writable
      exact refused ⟨by simp [goalsPath], configuration, file, found, writable⟩
    rw [readOnly configures, readOnly fun there =>
      configures ((Files.configures_of_mode mode).mp there)]

end Goals

end DamonRs
