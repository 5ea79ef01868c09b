import DamonRs.Monitor.Rollback
import DamonRs.Sysfs.Shortfall

/-!
# Undoing a journal

What a sequence of writes can change are the attributes its journal names, and
what lies in the numbered children of the counts among them.  The affected
paths of a snapshot cover all of it, so restoring them undoes the sequence;
what the sequence cannot have changed is compared and not written.
-/

namespace DamonRs

open Library Sysfs

/-! ## What a sequence of writes can change -/

namespace Path

theorem indexedChild?_isSome_iff {directory path : Path} :
    (indexedChild? directory path).isSome = true ↔ ∃ name first rest,
      (nameIndex? name).isSome = true ∧ path = directory ++ name :: first :: rest := by
  unfold indexedChild?
  constructor
  · intro child
    cases stripped : stripPrefix? directory path with
    | none =>
        rw [stripped] at child
        cases child
    | some relative =>
        rw [stripped] at child
        obtain rfl := stripPrefix?_eq_some.mp stripped
        rcases relative with _ | ⟨name, _ | ⟨first, rest⟩⟩
        · cases child
        · cases child
        · dsimp only at child
          split at child
          · rename_i index
            exact ⟨name, first, rest, index, rfl⟩
          · cases child
  · rintro ⟨name, first, rest, index, rfl⟩
    rw [stripPrefix?_append]
    dsimp only
    rw [if_pos index]
    rfl

/-- Writing a count rebuilds what lies in a numbered child of its directory. -/
def Rebuilds (count path : Path) : Prop :=
  isReconstructionCount count = true ∧ (indexedChild? count.dropLast path).isSome = true

namespace Rebuilds

variable {outer inner path : Path}

theorem iff : Rebuilds outer path ↔ isReconstructionCount outer = true ∧
    ∃ name first rest, (nameIndex? name).isSome = true ∧
      path = outer.dropLast ++ name :: first :: rest := by
  rw [Rebuilds, indexedChild?_isSome_iff]

theorem below (rebuilds : Rebuilds outer path) : outer.dropLast <+: path := by
  obtain ⟨-, name, first, rest, -, rfl⟩ := iff.mp rebuilds
  exact List.prefix_append _ _

/-- A directory that continues into a numbered child. -/
theorem of_append (isCount : isReconstructionCount outer = true) {name : String}
    (index : (nameIndex? name).isSome = true) {rest : Path} (nonempty : rest ≠ []) :
    Rebuilds outer (outer.dropLast ++ name :: rest) := by
  obtain ⟨first, others, rfl⟩ := List.exists_cons_of_ne_nil nonempty
  exact iff.mpr ⟨isCount, name, first, others, index, rfl⟩

theorem below_child (one : Rebuilds outer inner) (inside : inner.dropLast <+: path)
    (further : inner.dropLast.length + 1 < path.length) : Rebuilds outer path := by
  obtain ⟨isCount, name, first, rest, index, rfl⟩ := iff.mp one
  have whole : (outer.dropLast ++ name :: first :: rest).dropLast =
      outer.dropLast ++ name :: (first :: rest).dropLast := by
    rw [List.dropLast_append_of_ne_nil (by simp)]
    rfl
  rw [whole] at inside further
  obtain ⟨last, rfl⟩ := inside
  rw [List.append_assoc, List.cons_append]
  apply of_append isCount index
  intro empty
  rw [List.append_eq_nil_iff] at empty
  rw [empty.2, List.append_nil] at further
  omega

theorem trans (one : Rebuilds outer inner) (two : Rebuilds inner path) : Rebuilds outer path := by
  apply one.below_child two.below
  obtain ⟨-, name, first, rest, -, rfl⟩ := iff.mp two
  simp only [List.length_append, List.length_cons]
  omega

/-- Of two counts that rebuild a path the shorter one rebuilds the other. -/
theorem of_longer (one : Rebuilds outer path) (two : Rebuilds inner path)
    (longer : outer.length < inner.length) : Rebuilds outer inner := by
  obtain ⟨isCount, name, first, rest, index, same⟩ := iff.mp one
  have nonempty : inner ≠ [] := by
    rintro rfl
    simp at longer
  have lengths : outer.dropLast.length < inner.dropLast.length := by
    have positive : 0 < outer.length := by
      apply List.length_pos_of_ne_nil
      rintro rfl
      cases isCount
    rw [List.length_dropLast, List.length_dropLast]
    omega
  obtain ⟨between, joined⟩ :=
    List.prefix_of_prefix_length_le one.below two.below (le_of_lt lengths)
  have inside : between ≠ [] := by
    rintro rfl
    rw [List.append_nil] at joined
    rw [joined] at lengths
    exact absurd lengths (lt_irrefl _)
  obtain ⟨head, others, rfl⟩ := List.exists_cons_of_ne_nil inside
  obtain ⟨last, ends⟩ := two.below
  have named : head = name := by
    rw [← joined, same, List.append_assoc, List.append_cancel_left_eq] at ends
    exact (List.cons.inj ends).1
  rw [← List.dropLast_append_getLast nonempty, ← joined, List.append_assoc, named]
  exact of_append isCount index (by simp)

theorem shorter (rebuilds : Rebuilds outer path) : outer.length < path.length := by
  obtain ⟨isCount, name, first, rest, -, rfl⟩ := iff.mp rebuilds
  simp only [List.length_append, List.length_cons, List.length_dropLast]
  omega

end Rebuilds

/-- What a sequence of writes can change. -/
def Changes (writes : List Path) (path : Path) : Prop :=
  ∃ write ∈ writes, path = write ∨ Rebuilds write path

theorem Changes.rebuilt {writes : List Path} {count path : Path} (changes : Changes writes count)
    (rebuilds : Rebuilds count path) : Changes writes path := by
  obtain ⟨write, member, rfl | outer⟩ := changes
  · exact ⟨_, member, .inr rebuilds⟩
  · exact ⟨write, member, .inr (outer.trans rebuilds)⟩

end Path

open DamonRs.Path

namespace Files

theorem owns_iff {files : Files} {count path : Path} :
    files.Owns count path ↔ files.Configures count ∧ Rebuilds count path := by
  unfold Owns IsCount Rebuilds
  tauto

section Written

variable {kernel : Kernel} {files after : Files} {path other : Path} {value : String}

/-- An accepted write changes its attribute and what it rebuilds. -/
theorem write_others (written : files.write kernel path value = .ok after)
    (outside : ¬Rebuilds path other) :
    after.mode other = files.mode other ∧
      (other ≠ path → after.get? other = files.get? other) := by
  have kept : Files.written kernel path value (files.get? other) other =
      if other = path then (files.get? other).map fun file =>
        { file with content := .text (.ofWritten value) } else files.get? other := by
    unfold Files.written
    cases Text.parseUnsigned intBound value with
    | none => rfl
    | some number =>
        have spared : ¬(Path.isReconstructionCount path &&
            (indexedChild? path.dropLast other).isSome) = true := by
          rwa [Bool.and_eq_true]
        dsimp only
        rw [if_neg spared]
  constructor
  · unfold mode
    rw [write_get? written, kept]
    split
    · rw [Option.map_map]
      rfl
    · rfl
  · intro different
    rw [write_get? written, kept, if_neg different]

end Written

end Files

/-- Files that a sequence of writes has made of others. -/
structure Rewritten (source : Files) (writes : List Path) (files : Files) : Prop where
  modes : ∀ path, (∀ write ∈ writes, ¬Rebuilds write path) → files.mode path = source.mode path
  values : ∀ path, ¬Changes writes path → files.get? path = source.get? path
  /-- What has been written was there before, or lies in a child that another count rebuilt. -/
  origin : ∀ write ∈ writes, source.Configures write ∨
    ∃ count ∈ writes, source.IsCount count ∧ Rebuilds count write
  genuine : files.Genuine

namespace Rewritten

variable {kernel : Kernel} {source files after : Files} {writes : List Path} {path : Path}
  {value : String}

theorem refl (genuine : source.Genuine) : Rewritten source [] source where
  modes := fun _ _ => rfl
  values := fun _ _ => rfl
  origin := by
    intro write member
    cases member
  genuine := genuine

/-- A count that rebuilds a path has been there before, or lies in a child of one that was. -/
theorem owner (rewritten : Rewritten source writes files) {count : Path} (member : count ∈ writes)
    (rebuilds : Rebuilds count path) : ∃ outer ∈ writes, source.Owns outer path := by
  rcases rewritten.origin count member with configures | ⟨outer, among, isCount, inside⟩
  · exact ⟨count, member, Files.owns_iff.mpr ⟨configures, rebuilds⟩⟩
  · exact ⟨outer, among, Files.owns_iff.mpr ⟨isCount.2, inside.trans rebuilds⟩⟩

theorem write (rewritten : Rewritten source writes files)
    (configuration : Path.isRuntimeAttribute path = false) (nonempty : path ≠ [])
    (written : files.write kernel path value = .ok after) :
    Rewritten source (writes ++ [path]) after where
  modes := by
    intro other outside
    rw [(Files.write_others written (outside path (by simp))).1]
    exact rewritten.modes other fun write member => outside write (List.mem_append_left _ member)
  values := by
    intro other unchanged
    have different : other ≠ path := fun same => unchanged ⟨path, by simp, .inl same⟩
    have outside : ¬Rebuilds path other := fun inside => unchanged ⟨path, by simp, .inr inside⟩
    rw [(Files.write_others written outside).2 different]
    apply rewritten.values
    rintro ⟨write, member, reason⟩
    exact unchanged ⟨write, List.mem_append_left _ member, reason⟩
  origin := by
    intro write member
    rcases List.mem_append.mp member with earlier | last
    · rcases rewritten.origin write earlier with configures | ⟨count, among, isCount, inside⟩
      · exact .inl configures
      · exact .inr ⟨count, List.mem_append_left _ among, isCount, inside⟩
    · obtain rfl := List.mem_singleton.mp last
      by_cases rebuilt : ∃ count ∈ writes, Rebuilds count write
      · obtain ⟨count, among, inside⟩ := rebuilt
        obtain ⟨outer, first, owns⟩ := rewritten.owner among inside
        exact .inr ⟨outer, List.mem_append_left _ first, owns.1, (Files.owns_iff.mp owns).2⟩
      · left
        have present := (Files.write_requires written).1
        rw [rewritten.modes write fun count among inside => rebuilt ⟨count, among, inside⟩]
          at present
        obtain ⟨file, found, writable⟩ := Option.map_eq_some_iff.mp present
        exact ⟨nonempty, configuration, file, found, writable⟩
  genuine := rewritten.genuine.write written

end Rewritten

/-! ## Sequences of writes -/

/-- Write values in order. -/
def writeAll (sequence : List (Path × String)) : Sysfs Unit :=
  Exec.forEach (fun write => writeBytes write.1 write.2) sequence

section Sequences

variable {env : Env} {kernel : Kernel} {world after : World}

/-- A write that returns has been accepted, and is in the journal. -/
theorem writeBytes_accepted (quiet : env.Quiet kernel) {path : Path} {value : String}
    (configuration : Path.isRuntimeAttribute path = false)
    (run : writeBytes path value env world = (.ok (), after)) :
    world.sys.files.write kernel path value = .ok after.sys.files ∧
      after.journal = world.journal.map (· ++ [path]) := by
  have ordinary := System.kdamondOfState?_of_configuration configuration
  constructor
  · rcases writeBytes_steady world value quiet.steady ordinary with
      ⟨-, ⟨clock, failing, fault, failed⟩, -⟩ | ⟨returned, state⟩
    · rw [quiet.reliable] at failed
      cases failed
    · rw [run] at returned state
      unfold writeStep at returned state
      cases written : world.sys.files.write kernel path value with
      | error errno =>
          simp only [written] at returned
          cases returned
      | ok files =>
          simp only [written] at state
          rw [state]
  · rcases writeBytes_cases path value env world with ⟨error, failed, -⟩ | ⟨done, -⟩
    · rw [failed] at run
      cases run
    · rw [done] at run
      cases run
      rfl

theorem writeAll_rewritten (quiet : env.Quiet kernel) {source : Files} {earlier : List Path}
    {sequence : List (Path × String)}
    (configuration : ∀ write ∈ sequence, write.1 ≠ [] ∧ Path.isRuntimeAttribute write.1 = false)
    (journal : world.journal = some earlier) (rewritten : Rewritten source earlier world.sys.files)
    (run : writeAll sequence env world = (.ok (), after)) :
    after.journal = some (earlier ++ sequence.map Prod.fst) ∧
      Rewritten source (earlier ++ sequence.map Prod.fst) after.sys.files := by
  induction sequence generalizing world earlier with
  | nil =>
      cases run
      simpa using ⟨journal, rewritten⟩
  | cons write rest ih =>
      obtain ⟨_, middle, here, others⟩ := Exec.bind_eq_ok run
      obtain ⟨nonempty, plain⟩ := configuration write List.mem_cons_self
      obtain ⟨accepted, noted⟩ := writeBytes_accepted quiet plain here
      rw [journal, Option.map_some] at noted
      have next := rewritten.write plain nonempty accepted
      have done := ih (fun other member => configuration other (List.mem_cons_of_mem _ member))
        noted next others
      simpa using done

/-- The journal of a sequence names what it wrote. -/
theorem collectWrites_writeAll (quiet : env.Quiet kernel) (genuine : world.sys.files.Genuine)
    {sequence : List (Path × String)} {writes : List Path}
    (configuration : ∀ write ∈ sequence, write.1 ≠ [] ∧ Path.isRuntimeAttribute write.1 = false)
    (run : collectWrites (writeAll sequence) env world = (.ok (.ok (), writes), after)) :
    writes = sequence.map Prod.fst ∧ Rewritten world.sys.files writes after.sys.files := by
  unfold collectWrites at run
  cases ran : writeAll sequence env { world with journal := some [] } with
  | mk outcome last =>
      rw [ran] at run
      cases run
      have noted : ({ world with journal := some [] } : World).journal = some [] := rfl
      have start : Rewritten world.sys.files []
          ({ world with journal := some [] } : World).sys.files := .refl genuine
      obtain ⟨journal, rewritten⟩ := writeAll_rewritten quiet configuration noted start ran
      rw [journal, Option.getD_some]
      simpa using rewritten

end Sequences

/-! ## Undoing -/

/-- In the interface a count shares its directory with nothing but its numbered children, so no other
count is there. -/
def Files.CountsAlone (files : Files) : Prop :=
  ∀ count other, files.IsCount count → files.IsCount other → count.dropLast <+: other →
    other = count ∨ Rebuilds count other

/-- A program writes only what a sequence of writes can have changed. -/
def WritesChanged (writes : List Path) : Access → Prop
  | .write path _ => Changes writes path
  | _ => True

/-- The entries restored so far, of those that a sequence of writes can have changed. -/
structure UndoneUpTo (source : Files) (writes ignored : List Path)
    (done : List ConfigurationEntry) (files : Files) : Prop where
  settled : ∀ path, (∀ count, source.Owns count path → Changes writes count →
    ∃ entry ∈ done, entry.path = count) → files.mode path = source.mode path
  shown : ∀ entry ∈ done, containsPath ignored entry.path = false → ∃ text : AttributeText,
    files.get? entry.path = some ⟨.text text, true⟩ ∧ (Content.text text).Shows entry.value
  kept : ∀ path, ¬Changes writes path → files.get? path = source.get? path
  genuine : files.Genuine

section Affected

variable {source files : Files} {writes : List Path} {path : Path}

theorem Path.Rebuilds.directory {outer inner : Path} (rebuilds : Rebuilds outer inner) :
    outer.dropLast <+: inner.dropLast := by
  apply List.prefix_of_prefix_length_le rebuilds.below (List.dropLast_prefix inner)
  have shorter := rebuilds.shorter
  rw [List.length_dropLast, List.length_dropLast]
  omega

theorem affected_of_changes (captured : ∃ entry ∈ source.captured.entries, entry.path = path)
    (changes : Changes writes path) :
    path ∈ ConfigurationSnapshot.pathsAffectedByWrites ⟨[], source.captured⟩ writes := by
  rw [ConfigurationSnapshot.mem_pathsAffectedByWrites rfl]
  obtain ⟨write, member, same | rebuilds⟩ := changes
  · exact ⟨write, member, .inl same⟩
  · exact ⟨write, member, .inr ⟨rebuilds.1, rebuilds.below, captured⟩⟩

/-- A count that is affected can have been changed. -/
theorem Rewritten.changes_of_affected (rewritten : Rewritten source writes files)
    (alone : source.CountsAlone) (isCount : source.IsCount path)
    (affected : path ∈ ConfigurationSnapshot.pathsAffectedByWrites ⟨[], source.captured⟩ writes) :
    Changes writes path := by
  rw [ConfigurationSnapshot.mem_pathsAffectedByWrites rfl] at affected
  obtain ⟨write, member, rfl | ⟨writeCount, inside, -⟩⟩ := affected
  · exact ⟨_, member, .inl rfl⟩
  · have shared : ∀ count ∈ writes, source.IsCount count → count.dropLast <+: path →
        Changes writes path := by
      intro count among known below
      rcases alone count path known isCount below with same | rebuilds
      · exact ⟨count, among, .inl same⟩
      · exact ⟨count, among, .inr rebuilds⟩
    rcases rewritten.origin write member with configures | ⟨outer, among, known, rebuilds⟩
    · exact shared write member ⟨writeCount, configures⟩ inside
    · exact shared outer among known (rebuilds.directory.trans inside)

end Affected

namespace UndoneUpTo

variable {kernel : Kernel} {source files after : Files} {writes ignored : List Path}
  {done : List ConfigurationEntry} {entry : ConfigurationEntry}

theorem start (rewritten : Rewritten source writes files) :
    UndoneUpTo source writes ignored [] files where
  settled := by
    intro path owners
    apply rewritten.modes
    intro write member rebuilds
    obtain ⟨outer, among, owns⟩ := rewritten.owner member rebuilds
    obtain ⟨entry, nothing, -⟩ := owners outer owns ⟨outer, among, .inl rfl⟩
    cases nothing
  shown := by
    intro entry nothing
    cases nothing
  kept := rewritten.values
  genuine := rewritten.genuine

/-- An ignored leaf owns nothing. -/
theorem skip (upTo : UndoneUpTo source writes ignored done files)
    (leaf : Path.isReconstructionCount entry.path = false)
    (skipped : containsPath ignored entry.path = true) :
    UndoneUpTo source writes ignored (done ++ [entry]) files where
  settled := by
    intro path owners
    apply upTo.settled
    intro count owns changes
    obtain ⟨other, member, same⟩ := owners count owns changes
    rcases List.mem_append.mp member with isDone | isThis
    · exact ⟨other, isDone, same⟩
    · rw [List.mem_singleton.mp isThis] at same
      rw [same] at leaf
      rw [owns.1.1] at leaf
      cases leaf
  shown := by
    intro other member heeded
    rcases List.mem_append.mp member with isDone | isThis
    · exact upTo.shown other isDone heeded
    · rw [List.mem_singleton.mp isThis, skipped] at heeded
      cases heeded
  kept := upTo.kept
  genuine := upTo.genuine

/-- Restoring an entry after all shallower counts keeps what has been restored. -/
theorem step (upTo : UndoneUpTo source writes ignored done files)
    (numbered : source.NumberedBy kernel) (configures : source.Configures entry.path)
    (value : entry.value = source.shownValue entry.path)
    (counts : Path.isReconstructionCount entry.path = true → Changes writes entry.path)
    (sorted : ∀ earlier ∈ done,
      earlier.path.length ≤ entry.path.length ∧ earlier.path ≠ entry.path)
    (restored : Restored kernel files entry after)
    (still : ¬Changes writes entry.path → after = files) (genuine : after.Genuine) :
    UndoneUpTo source writes ignored (done ++ [entry]) after where
  settled := by
    intro path owners
    by_cases child : Rebuilds entry.path path
    · -- The path lies in a default child, and no other count stands between.
      have isCount := child.1
      have inside := child.2
      obtain ⟨text, number, found, parsed, children⟩ :=
        numbered.counted entry.path ⟨isCount, configures⟩
      have written : entry.value = text.value := by
        rw [value, Files.shownValue, found]
      have fixed : ∀ inner, source.Owns inner path → inner.length ≤ entry.path.length := by
        intro inner owns
        by_contra longer
        have between := child.of_longer (Files.owns_iff.mp owns).2 (lt_of_not_ge longer)
        obtain ⟨earlier, member, rfl⟩ := owners inner owns ((counts isCount).rebuilt between)
        rcases List.mem_append.mp member with isDone | isThis
        · exact longer (sorted earlier isDone).1
        · rw [List.mem_singleton.mp isThis] at longer
          exact longer (le_refl _)
      rw [children path inside fixed, Files.mode,
        restored.children number isCount (written ▸ parsed) path inside]
    · have earlier : ∀ count, source.Owns count path → Changes writes count →
          ∃ entry ∈ done, entry.path = count := by
        intro count owns changes
        obtain ⟨other, member, rfl⟩ := owners count owns changes
        rcases List.mem_append.mp member with isDone | isThis
        · exact ⟨other, isDone, rfl⟩
        · rw [List.mem_singleton.mp isThis] at owns
          exact absurd (Files.owns_iff.mp owns).2 child
      by_cases same : path = entry.path
      · subst same
        obtain ⟨text, shown, -⟩ := restored.shown
        obtain ⟨-, -, file, found, writable⟩ := configures
        rw [Files.mode, Files.mode, shown, found, Option.map_some, Option.map_some, writable]
      · rw [← upTo.settled path earlier, Files.mode, Files.mode, restored.others path same]
        intro isCount
        by_contra inside
        exact child ⟨isCount, (Bool.not_eq_false _).mp inside⟩
  shown := by
    intro other member heeded
    rcases List.mem_append.mp member with isDone | isThis
    · obtain ⟨text, shown, same⟩ := upTo.shown other isDone heeded
      obtain ⟨depth, different⟩ := sorted other isDone
      refine ⟨text, ?_, same⟩
      rw [restored.others other.path different, shown]
      intro isCount
      by_contra inside
      have rebuilds : Rebuilds entry.path other.path := ⟨isCount, (Bool.not_eq_false _).mp inside⟩
      exact absurd rebuilds.shorter (not_lt_of_ge depth)
    · rw [List.mem_singleton.mp isThis]
      exact restored.shown
  kept := by
    intro path unchanged
    by_cases same : path = entry.path
    · rw [still (same ▸ unchanged)]
      exact upTo.kept path unchanged
    · rw [restored.others path same]
      · exact upTo.kept path unchanged
      · intro isCount
        by_contra inside
        exact unchanged ((counts isCount).rebuilt ⟨isCount, (Bool.not_eq_false _).mp inside⟩)
  genuine := genuine

end UndoneUpTo

section Runs

variable {env : Env} {kernel : Kernel} {world : World} {source : Files}
  {writes ignored : List Path} {done rest : List ConfigurationEntry}

/-- Restoring one entry of a rewritten hierarchy. -/
theorem undoEntry_quiet (quiet : env.QuietSince kernel world.clock) (numbered : source.NumberedBy kernel)
    (entry : ConfigurationEntry) {text : AttributeText}
    (found : source.get? entry.path = some ⟨.text text, true⟩) (value : text.value = entry.value)
    (configures : source.Configures entry.path)
    (counts : Path.isReconstructionCount entry.path = true → Changes writes entry.path)
    (leaves : ∀ path, containsPath ignored path = true → Path.isReconstructionCount path = false)
    (sorted : ∀ earlier ∈ done,
      earlier.path.length ≤ entry.path.length ∧ earlier.path ≠ entry.path)
    (owners : ∀ count, source.Owns count entry.path → Changes writes count →
      ∃ entry ∈ done, entry.path = count)
    (upTo : UndoneUpTo source writes ignored done world.sys.files) :
    ∃ after, restoreEntry ignored entry env world = (.ok (), after) ∧
      UndoneUpTo source writes ignored (done ++ [entry]) after.sys.files ∧
      World.Extends (WritesChanged writes) world after := by
  have shownValue : entry.value = source.shownValue entry.path := by
    rw [Files.shownValue, found]
    exact value.symm
  cases skipped : containsPath ignored entry.path with
  | true =>
      refine ⟨world, ?_, upTo.skip (leaves _ skipped) skipped, .refl world⟩
      unfold restoreEntry
      rw [skipped, if_pos rfl]
      rfl
  | false =>
      by_cases changes : Changes writes entry.path
      · have present : world.sys.files.mode entry.path = some true := by
          rw [upTo.settled _ owners, Files.mode, found, Option.map_some]
        have counted : Path.isReconstructionCount entry.path = true →
            ∃ number, Text.parseUnsigned intBound entry.value = some number := by
          intro isCount
          obtain ⟨other, number, hit, parsed, -⟩ :=
            numbered.counted entry.path ⟨isCount, configures⟩
          rw [found] at hit
          cases hit
          exact ⟨number, value ▸ parsed⟩
        obtain ⟨after, run, restored, genuine, -⟩ := restoreEntry_quiet quiet skipped
          configures.2.1 present counted upTo.genuine
        have confined : Confined (WritesChanged writes) (restoreEntry ignored entry) :=
          restoreEntry_confined (fun _ => trivial) changes
        have accesses := confined.accesses (fun _ => trivial) env world
        rw [run] at accesses
        exact ⟨after, run, upTo.step numbered configures shownValue counts sorted restored
          (fun unchanged => absurd changes unchanged) genuine, accesses⟩
      · -- What cannot have been changed is compared and found as it was.
        have leaf : Path.isReconstructionCount entry.path = false := by
          cases isCount : Path.isReconstructionCount entry.path with
          | false => rfl
          | true => exact absurd (counts isCount) changes
        have same := (upTo.kept _ changes).trans found
        have shows : (Content.text text).Shows entry.value := value ▸ Content.shows_value text
        obtain ⟨after, compared, still, -⟩ :=
          readConfigurationValueEquals_quiet quiet.solitary same entry.value
        rw [decide_eq_true shows] at compared
        have confined : Confined (WritesChanged writes)
            (readConfigurationValueEquals entry.path entry.value) :=
          readConfigurationValueEquals_confined trivial _
        have accesses := confined.accesses (fun _ => trivial) env world
        rw [compared] at accesses
        have restored : Restored kernel world.sys.files entry world.sys.files :=
          .of_shown upTo.genuine same rfl shows leaf
        refine ⟨after, ?_, ?_, accesses⟩
        · unfold restoreEntry
          rw [skipped, if_neg Bool.false_ne_true, leaf, if_neg Bool.false_ne_true,
            Exec.bind_run_ok compared, if_pos rfl]
          rfl
        · rw [still]
          exact upTo.step numbered configures shownValue counts sorted restored
            (fun _ => rfl) upTo.genuine

/-- Restoring entries in their order, after some of them. -/
theorem undoEntries_quiet (quiet : env.QuietSince kernel world.clock) (numbered : source.NumberedBy kernel)
    (readable : source.Readable)
    (leaves : ∀ path, containsPath ignored path = true → Path.isReconstructionCount path = false)
    (ordered : (done ++ rest).Pairwise fun first second =>
      first.path.length ≤ second.path.length ∧ first.path ≠ second.path)
    (captured : ∀ entry ∈ done ++ rest, entry ∈ source.captured.entries)
    (complete : ∀ count, source.IsCount count → Changes writes count →
      ∃ entry ∈ done ++ rest, entry.path = count)
    (counts : ∀ entry ∈ done ++ rest, Path.isReconstructionCount entry.path = true →
      Changes writes entry.path)
    (upTo : UndoneUpTo source writes ignored done world.sys.files) :
    ∃ after, Exec.forEach (restoreEntry ignored) rest env world = (.ok (), after) ∧
      UndoneUpTo source writes ignored (done ++ rest) after.sys.files ∧
      World.Extends (WritesChanged writes) world after := by
  induction rest generalizing done world with
  | nil => exact ⟨world, rfl, by rwa [List.append_nil], .refl world⟩
  | cons entry rest ih =>
      obtain ⟨path, configures, rfl⟩ := Files.exists_of_captured (captured entry (by simp))
      obtain ⟨text, found⟩ := readable path configures
      have value : text.value = source.shownValue path := by
        rw [Files.shownValue, found]
      have sorted : ∀ earlier ∈ done, earlier.path.length ≤ path.length ∧ earlier.path ≠ path :=
        fun earlier isDone => (List.pairwise_append.mp ordered).2.2 earlier isDone _
          List.mem_cons_self
      -- The counts that own the path are shallower, so they are restored.
      have owners : ∀ count, source.Owns count path → Changes writes count →
          ∃ entry ∈ done, entry.path = count := by
        intro count owns changes
        obtain ⟨other, listed, rfl⟩ := complete count owns.1 changes
        rcases List.mem_append.mp listed with isDone | later
        · exact ⟨other, isDone, rfl⟩
        · have deeper : path.length ≤ other.path.length := by
            rcases List.mem_cons.mp later with rfl | isLater
            · exact le_refl _
            · have tail := (List.pairwise_append.mp ordered).2.1
              exact ((List.pairwise_cons.mp tail).1 _ isLater).1
          exact absurd owns.shallower (not_lt_of_ge deeper)
      obtain ⟨middle, run, next, first⟩ := undoEntry_quiet quiet numbered
        ⟨path, source.shownValue path⟩ found value configures (counts _ (by simp)) leaves sorted
        owners upTo
      rw [List.append_cons] at ordered captured complete counts
      have anything : Confined (fun _ => True) (restoreEntry ignored ⟨path, source.shownValue path⟩) :=
        restoreEntry_confined (fun _ => trivial) trivial
      have passes := anything.clock env world
      rw [run] at passes
      obtain ⟨after, ran, all, second⟩ := ih (quiet.later passes) ordered captured complete counts next
      refine ⟨after, ?_, by simpa using all, first.trans second⟩
      unfold Exec.forEach
      rw [Exec.bind_run_ok run, ran]

end Runs

namespace ConfigurationSnapshot

/-- Restoring what a journal affects undoes the sequence of writes that it names.  The restoration
succeeds, what is there has been captured, nothing is written that the sequence cannot have changed,
and every captured value outside of the ignored leaves is back exactly when no affected leaf falls
short. -/
theorem restorePathsExcept_exact {kernel : Kernel} {first env : Env}
    {world captured target : World} {snapshot : ConfigurationSnapshot}
    {sequence : List (Path × String)} {writes ignored : List Path}
    (before : first.Quiet kernel) (quiet : env.Quiet kernel)
    (capture : DamonAdmin.configurationSnapshot first world = (.ok snapshot, captured))
    (numbered : world.sys.files.NumberedBy kernel) (alone : world.sys.files.CountsAlone)
    (genuine : world.sys.files.Genuine)
    (configuration : ∀ write ∈ sequence, write.1 ≠ [] ∧ Path.isRuntimeAttribute write.1 = false)
    (applied : collectWrites (writeAll sequence) first captured = (.ok (.ok (), writes), target))
    (sorted : ignored.Pairwise (· < ·))
    (leaves : ∀ path ∈ ignored, Path.isReconstructionCount path = false) :
    ∃ restored, snapshot.restorePathsExcept (snapshot.pathsAffectedByWrites writes) ignored env
        target = (.ok (), restored) ∧
      (∀ path, restored.sys.files.Configures path ↔
        ∃ entry ∈ snapshot.entries, entry.path = path) ∧
      World.Extends (WritesChanged writes) target restored ∧
      ((∀ entry ∈ snapshot.entries, entry.path ∉ ignored → ∃ text : AttributeText,
          restored.sys.files.get? entry.path = some ⟨.text text, true⟩ ∧
            text.value = entry.value) ↔
        ∀ entry ∈ snapshot.affectedEntries writes, entry.path ∉ ignored →
          ¬snapshot.FallsShort kernel target.sys.files (snapshot.affectedEntries writes) entry) := by
  obtain ⟨fingerprint, after, captures, made⟩ := Exec.bind_eq_ok capture
  cases made
  have readable := captureConfiguration_readable before.solitary captures
  obtain ⟨again, observed, still⟩ :=
    captureConfiguration_observes before.solitary readable world rfl
  rw [observed] at captures
  cases captures
  rw [← still] at genuine
  obtain ⟨-, rewritten⟩ := collectWrites_writeAll before genuine configuration applied
  rw [still] at rewritten
  let affected : List Path := pathsAffectedByWrites ⟨[], world.sys.files.captured⟩ writes
  let selected := affectedEntries ⟨[], world.sys.files.captured⟩ writes
  let order := restorationOrder ⟨[], world.sys.files.captured⟩ selected
  have part : selected.Sublist world.sys.files.captured.entries := List.filter_sublist
  have selects : ∀ entry, entry ∈ selected ↔
      entry ∈ world.sys.files.captured.entries ∧ entry.path ∈ affected := by
    intro entry
    rw [← containsPath_affected]
    exact List.mem_filter
  have member : ∀ entry, entry ∈ order ↔
      entry ∈ world.sys.files.captured.entries ∧ entry.path ∈ affected :=
    fun entry => restorationOrder_mem.trans (selects entry)
  have complete : ∀ count, world.sys.files.IsCount count → Changes writes count →
      ∃ entry ∈ order, entry.path = count := by
    intro count isCount changes
    have listed := isCount.2.captured
    exact ⟨_, (member _).mpr ⟨listed, affected_of_changes ⟨_, listed, rfl⟩ changes⟩, rfl⟩
  have counts : ∀ entry ∈ order, Path.isReconstructionCount entry.path = true →
      Changes writes entry.path := by
    intro entry inside isCount
    obtain ⟨listed, affects⟩ := (member entry).mp inside
    obtain ⟨path, configures, rfl⟩ := Files.exists_of_captured listed
    exact rewritten.changes_of_affected alone ⟨isCount, configures⟩ affects
  have skips : ∀ path, containsPath ignored path = true →
      Path.isReconstructionCount path = false := fun path skipped =>
    leaves path ((containsPath_iff sorted path).mp skipped)
  have heeds : ∀ path, path ∉ ignored → containsPath ignored path = false := by
    intro path outside
    rw [← Bool.not_eq_true, containsPath_iff sorted]
    exact outside
  obtain ⟨middle, ran, all, writesOnly⟩ := undoEntries_quiet (quiet.since _) numbered readable skips
    (restorationOrder_ordered part)
    (fun entry inside => ((member entry).mp inside).1) complete counts (.start rewritten)
  rw [List.nil_append] at all
  obtain ⟨restored, matched, unchanged, -⟩ := entriesMatch_quiet quiet.solitary
    fun entry (inside : entry ∈ selected) (heeded : containsPath ignored entry.path = false) =>
      all.shown entry (restorationOrder_mem.mpr inside) heeded
  have compares : Confined (WritesChanged writes) (entriesMatch (containsPath ignored) selected) :=
    entriesMatch_confined (fun _ => trivial) _ _
  have compared := compares.accesses (fun _ => trivial) env middle
  rw [matched] at compared
  have modes : ∀ path, restored.sys.files.mode path = world.sys.files.mode path := by
    intro path
    rw [unchanged]
    exact all.settled path fun count owns changes => complete count owns.1 changes
  refine ⟨restored, ?_, ?_, writesOnly.trans compared, ?_⟩
  · unfold restorePathsExcept
    refine (Exec.bind_run_ok ran _).trans ?_
    exact Exec.bind_run_ok matched _
  · intro path
    rw [Files.configures_of_mode (modes path)]
    constructor
    · intro there
      exact ⟨_, there.captured, rfl⟩
    · rintro ⟨entry, listed, rfl⟩
      obtain ⟨path, configures, rfl⟩ := Files.exists_of_captured listed
      exact configures
  have back : ∀ entry ∈ selected, entry.path ∉ ignored → ((∃ text : AttributeText,
      restored.sys.files.get? entry.path = some ⟨.text text, true⟩ ∧ text.value = entry.value) ↔
        ¬FallsShort ⟨[], world.sys.files.captured⟩ kernel target.sys.files selected entry) := by
    intro entry inside outside
    have heeded := heeds entry.path outside
    obtain ⟨text, found, shows⟩ := all.shown entry (restorationOrder_mem.mpr inside) heeded
    have value := restored_value quiet.solitary numbered part skips ran (part.subset inside)
      (fun _ => heeded) found shows
    rw [quiet.kernel] at value
    refine Iff.trans ?_ value
    rw [unchanged, found]
    simp
  constructor
  · intro values entry inside outside
    exact (back entry inside outside).mp (values entry ((selects entry).mp inside).1 outside)
  · intro whole entry listed outside
    by_cases affects : entry.path ∈ affected
    · have inside := (selects entry).mpr ⟨listed, affects⟩
      exact (back entry inside outside).mpr (whole entry inside outside)
    · -- What no write affects has kept its file.
      have kept := all.kept entry.path fun changes =>
        affects (affected_of_changes ⟨entry, listed, rfl⟩ changes)
      rw [unchanged]
      obtain ⟨path, configures, rfl⟩ := Files.exists_of_captured listed
      obtain ⟨text, found⟩ := readable path configures
      refine ⟨text, kept.trans found, ?_⟩
      rw [Files.shownValue, found]

end ConfigurationSnapshot

/-- Whether no other count is in the directory of a count. -/
def Files.aloneCheck (files : Files) : Bool :=
  files.paths.all fun count => files.paths.all fun other =>
    !decide (files.IsCount count ∧ files.IsCount other ∧ count.dropLast <+: other) ||
      decide (other = count) || (indexedChild? count.dropLast other).isSome

theorem Files.countsAlone_of_check {files : Files} (checked : files.aloneCheck = true) :
    files.CountsAlone := by
  intro count other isCount isOther below
  have row := List.all_eq_true.mp checked count isCount.2.mem_paths
  have here := List.all_eq_true.mp row other isOther.2.mem_paths
  rw [decide_eq_true ⟨isCount, isOther, below⟩, Bool.not_true, Bool.false_or, Bool.or_eq_true,
    decide_eq_true_iff] at here
  rcases here with same | child
  · exact .inl same
  · exact .inr ⟨isCount.1, child⟩

namespace RestoreFixture

/-- Kdamonds and contexts are added, filled and removed again, and the label is another one. -/
def sequence (label : String) : List (Path × String) :=
  [(["kdamonds", "nr_kdamonds"], "2"), (["kdamonds", "1", "contexts", "nr_contexts"], "2"),
    (["kdamonds", "1", "contexts", "1", "targets", "nr_targets"], "0"),
    (["kdamonds", "0", "contexts", "nr_contexts"], "1"),
    (["kdamonds", "0", "contexts", "0", "operations"], "fvaddr"),
    (["kdamonds", "0", "contexts", "nr_contexts"], "0"), (["label"], label)]

/-- An operation set that is left to somebody else. -/
def ignored : List Path := [["kdamonds", "0", "contexts", "0", "operations"]]

/-- The writes of the sequence have been made, and what they affect is restored. -/
def undone (label : String) : Sysfs (ConfigurationSnapshot × ConfigurationSnapshot) := do
  let before ← DamonAdmin.configurationSnapshot
  let (outcome, writes) ← collectWrites (writeAll (sequence label))
  Exec.ofExcept outcome
  before.restorePathsExcept (before.pathsAffectedByWrites writes) ignored
  let after ← DamonAdmin.configurationSnapshot
  pure (before, after)

end RestoreFixture

open RestoreFixture in
/-- All of a sequence is undone but for one leaf. -/
theorem ConfigurationSnapshot.restorePathsExcept_exact_rebuilt :
    ∃ snapshot captured target restored writes,
      DamonAdmin.configurationSnapshot (.undisturbed kernel) source = (.ok snapshot, captured) ∧
      collectWrites (writeAll (sequence "b")) (.undisturbed kernel) captured =
        (.ok (.ok (), writes), target) ∧
      snapshot.restorePathsExcept (snapshot.pathsAffectedByWrites writes) ignored
        (.undisturbed kernel) target = (.ok (), restored) ∧
      (∀ path, restored.sys.files.Configures path ↔
        ∃ entry ∈ snapshot.entries, entry.path = path) ∧
      ∀ entry ∈ snapshot.entries, entry.path ∉ ignored → ∃ text : AttributeText,
        restored.sys.files.get? entry.path = some ⟨.text text, true⟩ ∧
          text.value = entry.value := by
  have returns : (DamonAdmin.configurationSnapshot (.undisturbed kernel) source).1.toBool = true := by
    decide +kernel
  have applies : ((collectWrites (writeAll (sequence "b")) (.undisturbed kernel)
      (DamonAdmin.configurationSnapshot (.undisturbed kernel) source).2).1.toOption.map
        fun result => result.1.toBool) = some true := by
    decide +kernel
  have whole : (DamonAdmin.configurationSnapshot (.undisturbed kernel) source).1.toOption.all
      (fun snapshot => ∀ writes ∈ (collectWrites (writeAll (sequence "b")) (.undisturbed kernel)
        (DamonAdmin.configurationSnapshot (.undisturbed kernel) source).2).1.toOption.map Prod.snd,
          ∀ entry ∈ snapshot.affectedEntries writes, ¬snapshot.FallsShort kernel
            (collectWrites (writeAll (sequence "b")) (.undisturbed kernel)
              (DamonAdmin.configurationSnapshot (.undisturbed kernel) source).2).2.sys.files
            (snapshot.affectedEntries writes) entry) = true := by
    decide +kernel
  cases run : DamonAdmin.configurationSnapshot (.undisturbed kernel) source with
  | mk outcome captured =>
      rw [run] at returns applies whole
      cases outcome with
      | error error => cases returns
      | ok snapshot =>
          cases applied : collectWrites (writeAll (sequence "b")) (.undisturbed kernel) captured with
          | mk result target =>
              dsimp only at applies whole
              rw [applied] at applies whole
              rcases result with error | ⟨outcome, writes⟩
              · cases applies
              cases outcome with
              | error error => cases applies
              | ok done =>
                  have leaves : ∀ path ∈ ignored, Path.isReconstructionCount path = false := by
                    decide
                  obtain ⟨restored, restores, there, -, back⟩ :=
                    ConfigurationSnapshot.restorePathsExcept_exact (Env.undisturbed_quiet kernel)
                      (Env.undisturbed_quiet kernel) run
                      (Files.numberedBy_of_check (by decide +kernel))
                      (Files.countsAlone_of_check (by decide +kernel))
                      (Files.genuine_ofAttributes _) (by decide) applied
                      (List.pairwise_singleton _ _) leaves
                  have heeded := of_decide_eq_true whole writes rfl
                  exact ⟨snapshot, captured, target, restored, writes, rfl, applied, restores, there,
                    back.mpr fun entry member _ => heeded entry member⟩

open RestoreFixture in
/-- A label captured with two newlines and written with one is left so, and the restoration
succeeds. -/
theorem ConfigurationSnapshot.restorePathsExcept_withoutNewline :
    ∃ before after, (undone "a" (.undisturbed kernel) source).1 = .ok (before, after) ∧
      ⟨["label"], "a\n"⟩ ∈ before.entries ∧ ⟨["label"], "a"⟩ ∈ after.entries := by
  have differs : (undone "a" (.undisturbed kernel) source).1.toOption.any (fun result =>
      result.1.entries.contains ⟨["label"], "a\n"⟩ &&
        result.2.entries.contains ⟨["label"], "a"⟩) = true := by
    decide +kernel
  cases ended : (undone "a" (.undisturbed kernel) source).1 with
  | error error =>
      rw [ended] at differs
      cases differs
  | ok result =>
      rw [ended] at differs
      obtain ⟨captured, left⟩ := Bool.and_eq_true_iff.mp differs
      exact ⟨result.1, result.2, rfl, List.contains_iff_mem.mp captured,
        List.contains_iff_mem.mp left⟩

end DamonRs
