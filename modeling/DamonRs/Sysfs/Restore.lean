import DamonRs.Sysfs.Capture
import DamonRs.Sysfs.Fixture
import DamonRs.Sysfs.Written

/-!
# Restoring a captured hierarchy

A count of a hierarchy stands for numbered children, and writing it replaces
them by default children.  A restoration writes shallow counts first, so each
count recreates the children whose attributes come later, and by then the
paths of a child are those it had when it was captured.  What is restored this
way shows the captured configuration, whatever the hierarchy held before.
-/

namespace DamonRs

open Library Sysfs

namespace Files

/-- The permission of the attribute at a path. -/
def mode (files : Files) (path : Path) : Option Bool := (files.get? path).map File.writable

/-- A count whose write rebuilds the numbered children of its directory. -/
def IsCount (files : Files) (path : Path) : Prop :=
  Path.isReconstructionCount path = true ∧ files.Configures path

/-- A path lies in a numbered child that a count stands for. -/
def Owns (files : Files) (count path : Path) : Prop :=
  files.IsCount count ∧ (indexedChild? count.dropLast path).isSome = true

/-- The numbered children of a kernel: those below a count are as many as it says, numbered from
zero, and each has the attributes of a default child, but for the children of counts further in. -/
structure NumberedBy (kernel : Kernel) (files : Files) : Prop where
  counted : ∀ count, files.IsCount count → ∃ text number,
    files.get? count = some ⟨.text text, true⟩ ∧
      Text.parseUnsigned intBound text.value = some number ∧
      ∀ path, (indexedChild? count.dropLast path).isSome = true →
        (∀ inner, files.Owns inner path → inner.length ≤ count.length) →
          files.mode path =
            (Store.find path (defaultChildren kernel count.dropLast number)).map File.writable

/-- Other files have the attributes that lie in no numbered child. -/
def SameFixed (files other : Files) : Prop :=
  ∀ path, (∀ count, ¬files.Owns count path) → other.mode path = files.mode path

/-- What is no text is the encoding of none. -/
def Genuine (files : Files) : Prop :=
  ∀ path bytes writable, files.get? path = some ⟨.undecodable bytes, writable⟩ →
    Text.ofUtf8Bytes? bytes = none

/-- What a count stands for lies deeper than the count. -/
theorem deeper_of_indexedChild {count path : Path}
    (child : (indexedChild? count.dropLast path).isSome = true) : count.length < path.length := by
  unfold indexedChild? at child
  cases stripped : stripPrefix? count.dropLast path with
  | none =>
      rw [stripped] at child
      cases child
  | some rest =>
      rw [stripped] at child
      obtain rfl := stripPrefix?_eq_some.mp stripped
      rcases rest with _ | ⟨name, _ | ⟨inner, rest⟩⟩
      · cases child
      · cases child
      · simp only [List.length_append, List.length_dropLast, List.length_cons]
        omega

theorem Owns.shallower {files : Files} {count path : Path} (owns : files.Owns count path) :
    count.length < path.length :=
  deeper_of_indexedChild owns.2

end Files

/-! ## What restoring an entry does -/

/-- Files after an entry has been restored. -/
structure Restored (kernel : Kernel) (files : Files) (entry : ConfigurationEntry) (after : Files) :
    Prop where
  shown : ∃ text : AttributeText, after.get? entry.path = some ⟨.text text, true⟩ ∧
    (Content.text text).Shows entry.value
  children : ∀ number, Path.isReconstructionCount entry.path = true →
    Text.parseUnsigned intBound entry.value = some number →
      ∀ path, (indexedChild? entry.path.dropLast path).isSome = true →
        after.get? path = Store.find path (Files.defaultChildren kernel entry.path.dropLast number)
  others : ∀ path, path ≠ entry.path →
    (Path.isReconstructionCount entry.path = true →
      (indexedChild? entry.path.dropLast path).isSome = false) →
        after.get? path = files.get? path

/-- The entries restored so far, of all in their order. -/
structure RestoredUpTo (source : Files) (done : List ConfigurationEntry) (files : Files) : Prop where
  settled : ∀ path, (∀ count, source.Owns count path → ∃ entry ∈ done, entry.path = count) →
    files.mode path = source.mode path
  shown : ∀ entry ∈ done, ∃ text : AttributeText,
    files.get? entry.path = some ⟨.text text, true⟩ ∧ (Content.text text).Shows entry.value
  genuine : files.Genuine

section Written

variable {kernel : Kernel} {files after : Files} {path : Path} {value : String}

/-- No path lies in a numbered child of its own directory. -/
theorem indexedChild?_own (path : Path) : indexedChild? path.dropLast path = none := by
  rcases List.eq_nil_or_concat path with rfl | ⟨directory, name, rfl⟩
  · rfl
  · rw [List.concat_eq_append, List.dropLast_concat]
    unfold indexedChild?
    rw [stripPrefix?_append]

theorem exists_rest_of_indexedChild {directory path : Path}
    (child : (indexedChild? directory path).isSome = true) : ∃ rest, path = directory ++ rest := by
  obtain ⟨inner, found⟩ := Option.isSome_iff_exists.mp child
  obtain ⟨rest, same⟩ := indexedChild?_below found
  exact ⟨rest, same.symm⟩

/-- What has been written is shown. -/
theorem Content.shows_ofWritten (value : String) :
    (Content.text (.ofWritten value)).Shows value :=
  shows_text_iff.mpr (.inr (AttributeText.raw_ofWritten value))

theorem Files.defaultChildren_text {directory : Path} {count : Nat} {file : File}
    (found : Store.find path (Files.defaultChildren kernel directory count) = some file) :
    ∃ text, file.content = .text text := by
  have inside := Store.mem_of_find found
  simp only [Files.defaultChildren, List.mem_flatMap, List.mem_filterMap] at inside
  obtain ⟨index, -, ⟨inner, text, writable⟩, -, same⟩ := inside
  dsimp only at same
  split at same
  · cases same
    exact ⟨text, rfl⟩
  · cases same

/-- A writable attribute takes every value that, for a count, is a number. -/
theorem Files.write_accepted (present : files.mode path = some true)
    (counted : Path.isReconstructionCount path = true →
      ∃ number, Text.parseUnsigned intBound value = some number) :
    ∃ after, files.write kernel path value = .ok after := by
  unfold Files.mode at present
  obtain ⟨file, found, writable⟩ := Option.map_eq_some_iff.mp present
  unfold Files.write
  rw [found]
  dsimp only
  rw [writable, Bool.not_true, if_neg Bool.false_ne_true]
  by_cases isCount : Path.isReconstructionCount path = true
  · obtain ⟨number, parsed⟩ := counted isCount
    rw [if_pos isCount, parsed]
    exact ⟨_, rfl⟩
  · rw [if_neg isCount]
    exact ⟨_, rfl⟩

/-- What an accepted write requires. -/
theorem Files.write_requires (written : files.write kernel path value = .ok after) :
    files.mode path = some true ∧ (Path.isReconstructionCount path = true →
      ∃ number, Text.parseUnsigned intBound value = some number) := by
  unfold Files.write at written
  unfold Files.mode
  cases found : files.get? path with
  | none =>
      rw [found] at written
      cases written
  | some file =>
      rw [found] at written
      dsimp only at written
      cases writable : file.writable with
      | false =>
          rw [writable] at written
          cases written
      | true =>
          rw [writable, Bool.not_true, if_neg Bool.false_ne_true] at written
          refine ⟨by rw [Option.map_some, writable], fun isCount => ?_⟩
          rw [if_pos isCount] at written
          cases parsed : Text.parseUnsigned intBound value with
          | none =>
              rw [parsed] at written
              cases written
          | some number => exact ⟨number, rfl⟩

/-- A leaf keeps every permission. -/
theorem Files.write_leaf_mode (leaf : Path.isReconstructionCount path = false)
    (written : files.write kernel path value = .ok after) (other : Path) :
    after.mode other = files.mode other := by
  unfold Files.mode
  rw [Files.write_get? written, Files.written, leaf]
  have kept : ∀ found : Option File,
      (if other = path then found.map fun file =>
        { file with content := .text (.ofWritten value) } else found).map File.writable =
      found.map File.writable := by
    intro found
    split
    · rw [Option.map_map]
      rfl
    · rfl
  cases Text.parseUnsigned intBound value with
  | none => exact kept _
  | some number => exact kept _

theorem Restored.of_write (present : files.mode path = some true)
    (written : files.write kernel path value = .ok after) :
    Restored kernel files ⟨path, value⟩ after := by
  have shows := Files.write_get? written
  unfold Files.mode at present
  obtain ⟨file, found, writable⟩ := Option.map_eq_some_iff.mp present
  constructor
  · refine ⟨.ofWritten value, ?_, Content.shows_ofWritten value⟩
    rw [shows path, Files.written]
    rw [if_pos rfl, indexedChild?_own, Option.isSome_none, Bool.and_false, found]
    cases Text.parseUnsigned intBound value <;> simp [writable]
  · intro number isCount parsed other child
    have different : other ≠ path := by
      rintro rfl
      dsimp only at child
      rw [indexedChild?_own] at child
      cases child
    dsimp only at isCount parsed child
    rw [shows other, Files.written, parsed]
    rw [if_neg different, isCount, child, Bool.and_true]
    exact if_pos rfl
  · intro other different outside
    dsimp only at different outside
    rw [shows other, Files.written]
    rw [if_neg different]
    cases Text.parseUnsigned intBound value with
    | none => rfl
    | some number =>
        dsimp only
        rw [if_neg]
        rw [Bool.and_eq_true]
        rintro ⟨isCount, child⟩
        rw [outside isCount] at child
        cases child

theorem Files.Genuine.write (genuine : files.Genuine)
    (written : files.write kernel path value = .ok after) : after.Genuine := by
  intro other bytes writable found
  rw [Files.write_get? written, Files.written] at found
  by_cases same : other = path
  · rw [if_pos same] at found
    obtain ⟨file, -, changed⟩ := Option.map_eq_some_iff.mp found
    cases changed
  · rw [if_neg same] at found
    cases parsed : Text.parseUnsigned intBound value with
    | none =>
        rw [parsed] at found
        exact genuine other bytes writable found
    | some number =>
        rw [parsed] at found
        dsimp only at found
        split at found
        · obtain ⟨text, isText⟩ := defaultChildren_text found
          cases isText
        · exact genuine other bytes writable found

/-- An attribute that already shows its value needs no write. -/
theorem Restored.of_shown {file : File} (genuine : files.Genuine) (found : files.get? path = some file)
    (writable : file.writable = true) (shown : file.content.Shows value)
    (leaf : Path.isReconstructionCount path = false) : Restored kernel files ⟨path, value⟩ files := by
  obtain ⟨content, mode⟩ := file
  obtain rfl : mode = true := writable
  constructor
  · cases content with
    | text text => exact ⟨text, found, shown⟩
    | undecodable bytes =>
        have newline : [0x0a] = Text.utf8Bytes "\n" := by decide
        have foreign := genuine path bytes true found
        rcases shown with same | same
        · rw [Content.bytes] at same
          rw [same, Text.ofUtf8Bytes?_utf8Bytes] at foreign
          cases foreign
        · rw [Content.bytes, newline, ← utf8Bytes_append] at same
          rw [same, Text.ofUtf8Bytes?_utf8Bytes] at foreign
          cases foreign
  · intro number isCount
    dsimp only at isCount
    rw [leaf] at isCount
    cases isCount
  · exact fun other _ _ => rfl

end Written

/-- Restoring an entry after all shallower counts keeps what has been restored. -/
theorem RestoredUpTo.step {kernel : Kernel} {source files after : Files}
    {done : List ConfigurationEntry} {entry : ConfigurationEntry}
    (upTo : RestoredUpTo source done files) (numbered : source.NumberedBy kernel)
    (configures : source.Configures entry.path) (value : entry.value = source.shownValue entry.path)
    (sorted : ∀ earlier ∈ done,
      earlier.path.length ≤ entry.path.length ∧ earlier.path ≠ entry.path)
    (restored : Restored kernel files entry after) (genuine : after.Genuine) :
    RestoredUpTo source (done ++ [entry]) after := by
  constructor
  · intro path owners
    by_cases child : Path.isReconstructionCount entry.path = true ∧
        (indexedChild? entry.path.dropLast path).isSome = true
    · -- The path lies in a default child, and no other count stands between.
      obtain ⟨isCount, inside⟩ := child
      obtain ⟨text, number, found, parsed, children⟩ :=
        numbered.counted entry.path ⟨isCount, configures⟩
      have written : entry.value = text.value := by
        rw [value, Files.shownValue, found]
      have fixed : ∀ inner, source.Owns inner path → inner.length ≤ entry.path.length := by
        intro inner owns
        obtain ⟨earlier, member, rfl⟩ := owners inner owns
        rcases List.mem_append.mp member with isDone | isThis
        · exact (sorted earlier isDone).1
        · rw [List.mem_singleton.mp isThis]
      rw [children path inside fixed, Files.mode,
        restored.children number isCount (written ▸ parsed) path inside]
    · have earlier : ∀ count, source.Owns count path → ∃ entry ∈ done, entry.path = count := by
        intro count owns
        obtain ⟨other, member, rfl⟩ := owners count owns
        rcases List.mem_append.mp member with isDone | isThis
        · exact ⟨other, isDone, rfl⟩
        · rw [List.mem_singleton.mp isThis] at owns
          exact absurd ⟨owns.1.1, owns.2⟩ child
      by_cases same : path = entry.path
      · subst same
        obtain ⟨text, shown, -⟩ := restored.shown
        obtain ⟨-, -, file, found, writable⟩ := configures
        rw [Files.mode, Files.mode, shown, found, Option.map_some, Option.map_some, writable]
      · rw [← upTo.settled path earlier, Files.mode, Files.mode, restored.others path same]
        intro isCount
        by_contra inside
        exact child ⟨isCount, (Bool.not_eq_false _).mp inside⟩
  · intro other member
    rcases List.mem_append.mp member with isDone | isThis
    · obtain ⟨text, shown, value⟩ := upTo.shown other isDone
      obtain ⟨depth, different⟩ := sorted other isDone
      refine ⟨text, ?_, value⟩
      rw [restored.others other.path different, shown]
      intro isCount
      by_contra inside
      have owns : source.Owns entry.path other.path :=
        ⟨⟨isCount, configures⟩, (Bool.not_eq_false _).mp inside⟩
      exact absurd owns.shallower (not_lt_of_ge depth)
    · rw [List.mem_singleton.mp isThis]
      exact restored.shown
  · exact genuine

/-- Writable configuration is where the attributes and their permissions are the same. -/
theorem Files.configures_of_mode {files source : Files} {path : Path}
    (same : files.mode path = source.mode path) :
    files.Configures path ↔ source.Configures path := by
  unfold Files.Configures
  simp only [← Option.map_eq_some_iff]
  unfold Files.mode at same
  rw [same]

/-- Once every entry is restored, every attribute is there as it was. -/
theorem RestoredUpTo.modes {source files : Files} {done : List ConfigurationEntry}
    (upTo : RestoredUpTo source done files)
    (complete : ∀ entry, entry ∈ done ↔ entry ∈ source.captured.entries) (path : Path) :
    files.mode path = source.mode path := by
  refine upTo.settled path fun count owns => ?_
  exact ⟨⟨count, source.shownValue count⟩, (complete _).mpr owns.1.2.captured, rfl⟩

/-- Once every entry is restored, the files can be captured, and show what was captured. -/
theorem RestoredUpTo.shows {source files : Files} {done : List ConfigurationEntry}
    (upTo : RestoredUpTo source done files)
    (complete : ∀ entry, entry ∈ done ↔ entry ∈ source.captured.entries) {path : Path}
    (configures : source.Configures path) : ∃ text : AttributeText,
      files.get? path = some ⟨.text text, true⟩ ∧
        (Content.text text).Shows (source.shownValue path) :=
  upTo.shown ⟨path, source.shownValue path⟩ ((complete _).mpr configures.captured)

theorem RestoredUpTo.readable {source files : Files} {done : List ConfigurationEntry}
    (upTo : RestoredUpTo source done files)
    (complete : ∀ entry, entry ∈ done ↔ entry ∈ source.captured.entries) : files.Readable := by
  intro path there
  obtain ⟨text, shown, -⟩ := upTo.shows complete
    ((Files.configures_of_mode (upTo.modes complete path)).mp there)
  exact ⟨text, shown⟩

/-- Files that are captured alike read alike. -/
theorem Files.shownValue_of_captured {source files : Files} (same : files.captured = source.captured)
    {entry : ConfigurationEntry} (member : entry ∈ source.captured.entries) :
    files.shownValue entry.path = entry.value := by
  rw [← same] at member
  obtain ⟨path, -, rfl⟩ := List.mem_map.mp member
  rfl

/-- Files with the same attributes are captured alike exactly when each captured value is read. -/
theorem Files.captured_iff {source files : Files}
    (same : ∀ path, files.Configures path ↔ source.Configures path) :
    files.captured = source.captured ↔
      ∀ entry ∈ source.captured.entries, files.shownValue entry.path = entry.value := by
  constructor
  · exact fun captured entry member => shownValue_of_captured captured member
  · intro values
    refine Files.captured_congr same fun path there => ?_
    exact values ⟨path, source.shownValue path⟩ ((same path).mp there).captured

/-! ## Runs that only access what exists -/

/-- The path of an access. -/
def Access.path : Access → Path
  | .inspect path | .read path | .compare path | .write path _ => path

/-- A run makes accesses, and each finds its path. -/
structure World.Finds (env : Env) (before after : World) : Prop where
  advances : World.Advances env before after
  found : ∀ moment ∈ World.history env before after,
    (moment.file? moment.access.path).isSome = true

/-- Nobody else acts, and from some time on no access fails. -/
structure Env.QuietSince (env : Env) (kernel : Kernel) (since : Nat) : Prop where
  kernel : env.kernel = kernel
  solitary : env.Solitary
  reliable : ∀ clock access, since ≤ clock → env.fault clock access = none

theorem Env.Quiet.since {env : Env} {kernel : Kernel} (quiet : env.Quiet kernel) (since : Nat) :
    env.QuietSince kernel since where
  kernel := quiet.kernel
  solitary := quiet.solitary
  reliable := fun clock access _ => quiet.reliable clock access

theorem Env.QuietSince.later {env : Env} {kernel : Kernel} {since later : Nat}
    (quiet : env.QuietSince kernel since) (after : since ≤ later) : env.QuietSince kernel later where
  kernel := quiet.kernel
  solitary := quiet.solitary
  reliable := fun clock access late => quiet.reliable clock access (le_trans after late)

section Runs

variable {env : Env} {kernel : Kernel} {world : World}

theorem World.Finds.refl (world : World) : World.Finds env world world := by
  constructor
  · exact .refl world
  · rw [World.history_self]
    intro moment member
    cases member

theorem World.Finds.trans {first second third : World} (one : World.Finds env first second)
    (two : World.Finds env second third) : World.Finds env first third := by
  constructor
  · exact one.advances.trans two.advances
  · rw [one.advances.history_append two.advances]
    intro moment member
    rcases List.mem_append.mp member with early | late
    · exact one.found moment early
    · exact two.found moment late

/-- Time passes. -/
theorem World.Finds.clock {after : World} (finds : World.Finds env world after) :
    world.clock ≤ after.clock := by
  obtain ⟨accesses, journal, rfl⟩ := finds.advances
  exact env.advanceAll_clock world accesses

/-- A run of one access finds what exists in its world. -/
theorem World.Finds.one (solitary : env.Solitary) {after : World} {event : Event}
    (advances : World.Advances env world after) (trace : after.trace = event :: world.trace)
    (present : (world.sys.files.get? event.access.path).isSome = true) :
    World.Finds env world after := by
  have history : World.history env world after = [env.moment world event.access] := by
    unfold World.history World.accessesSince
    rw [trace, List.length_cons, Nat.add_sub_cancel_left]
    rfl
  constructor
  · exact advances
  · rw [history]
    intro moment member
    obtain rfl := List.mem_singleton.mp member
    rw [Moment.file?, solitary.moment_system]
    exact present

/-- Comparing one attribute in a hierarchy that nobody changes. -/
theorem Env.Solitary.compare {env : Env} (solitary : env.Solitary) (world : World) (path : Path)
    (value : String) : readConfigurationValueEquals path value env world =
      (.ok (decide (world.sys.Shows path value)), env.advance world (.compare path)) := by
  have reads : ReadsOnly (.compare path) := trivial
  unfold readConfigurationValueEquals
  rw [Exec.bind_run, perform_run]
  cases found : world.sys.files.get? path with
  | none =>
      have served : (env.serve world (.compare path)).1 = .failed ⟨.opening, enoent⟩ := by
        rw [solitary.reliable.serve reads, solitary.still]
        simp only [Env.respond, found]
      have absent : ¬world.sys.Shows path value := by
        rintro ⟨file, present, -⟩
        rw [found] at present
        cases present
      rw [served, decide_eq_false absent]
      rfl
  | some file =>
      have served : (env.serve world (.compare path)).1 = .content file.content := by
        rw [solitary.reliable.serve reads, solitary.still]
        simp only [Env.respond, found]
      simp only [served]
      rw [Exec.pure_run]
      congr 2
      rw [Bool.eq_iff_iff, matchConfigurationChunks_eq_true, bufferChunks_flatten,
        decide_eq_true_iff, System.shows_of_found found value]
      rfl

/-- Comparing an attribute that exists. -/
theorem readConfigurationValueEquals_quiet (solitary : env.Solitary) {path : Path} {file : File}
    (found : world.sys.files.get? path = some file) (value : String) :
    ∃ after, readConfigurationValueEquals path value env world =
        (.ok (decide (file.content.Shows value)), after) ∧
      after.sys = world.sys ∧ World.Finds env world after := by
  refine ⟨env.advance world (.compare path), ?_, solitary.advance_sys world trivial, ?_⟩
  · rw [solitary.compare]
    congr 2
    exact decide_eq_decide.mpr (System.shows_of_found found value)
  · exact .one solitary (.advance world _) rfl (by rw [Access.path, found]; rfl)

/-- Writing an attribute that exists. -/
theorem writeBytes_quiet (quiet : env.QuietSince kernel world.clock) {path : Path} {value : String}
    {files : Files} (configuration : Path.isRuntimeAttribute path = false)
    (written : world.sys.files.write kernel path value = .ok files) :
    ∃ after, writeBytes path value env world = (.ok (), after) ∧ after.sys.files = files ∧
      World.Finds env world after := by
  have ordinary := System.kdamondOfState?_of_configuration configuration
  have present : (world.sys.files.get? path).isSome = true := by
    unfold Files.write at written
    cases found : world.sys.files.get? path with
    | none =>
        rw [found] at written
        cases written
    | some file => rfl
  have served : env.serve world (.write path value) =
      (.done, { world.sys with files := files }) := by
    unfold Env.serve
    rw [quiet.solitary.still, quiet.reliable _ _ (le_refl _)]
    dsimp only [Env.respond]
    rw [System.write_ordinary ordinary, quiet.kernel, written]
    rfl
  have advances : World.Advances env world
      ((env.advance world (.write path value)).recordWrite path) :=
    (World.Advances.advance world (.write path value)).trans ⟨[], _, rfl⟩
  refine ⟨_, ?_, ?_, .one quiet.solitary advances rfl present⟩
  · unfold writeBytes
    rw [Exec.bind_run, perform_run, served]
    rfl
  · show (env.serve world (.write path value)).2.files = files
    rw [served]

/-- Restoring an entry whose attribute exists. -/
theorem restoreEntry_quiet (quiet : env.QuietSince kernel world.clock)
    {entry : ConfigurationEntry} {ignored : List Path} (heeded : containsPath ignored entry.path = false)
    (configuration : Path.isRuntimeAttribute entry.path = false)
    (present : world.sys.files.mode entry.path = some true)
    (counted : Path.isReconstructionCount entry.path = true →
      ∃ number, Text.parseUnsigned intBound entry.value = some number)
    (genuine : world.sys.files.Genuine) :
    ∃ after, restoreEntry ignored entry env world = (.ok (), after) ∧
      Restored kernel world.sys.files entry after.sys.files ∧ after.sys.files.Genuine ∧
      World.Finds env world after := by
  obtain ⟨files, written⟩ : ∃ files,
      world.sys.files.write kernel entry.path entry.value = .ok files :=
    Files.write_accepted present counted
  unfold restoreEntry
  rw [heeded, if_neg Bool.false_ne_true]
  by_cases isCount : Path.isReconstructionCount entry.path = true
  · rw [if_pos isCount]
    obtain ⟨after, run, rfl, finds⟩ := writeBytes_quiet quiet configuration written
    exact ⟨after, run, .of_write present written, genuine.write written, finds⟩
  · rw [if_neg isCount]
    unfold Files.mode at present
    obtain ⟨file, found, writable⟩ := Option.map_eq_some_iff.mp present
    obtain ⟨middle, compared, still, first⟩ :=
      readConfigurationValueEquals_quiet quiet.solitary found entry.value
    rw [Exec.bind_run_ok compared]
    by_cases shown : file.content.Shows entry.value
    · rw [decide_eq_true shown, if_pos rfl]
      refine ⟨middle, rfl, ?_, still ▸ genuine, first⟩
      rw [still]
      exact .of_shown genuine found writable shown (Bool.eq_false_iff.mpr isCount)
    · rw [decide_eq_false shown, if_neg Bool.false_ne_true]
      rw [← still] at written
      obtain ⟨after, run, rfl, second⟩ :=
        writeBytes_quiet (quiet.later first.clock) configuration written
      rw [still] at written
      exact ⟨after, run, .of_write present written, genuine.write written,
        first.trans second⟩

/-- Restoring entries in their order, after some of them. -/
theorem restoreEntries_quiet (quiet : env.QuietSince kernel world.clock) {source : Files}
    (numbered : source.NumberedBy kernel) {done rest : List ConfigurationEntry}
    (ordered : (done ++ rest).Pairwise fun first second =>
      first.path.length ≤ second.path.length ∧ first.path ≠ second.path)
    (complete : ∀ entry, entry ∈ done ++ rest ↔ entry ∈ source.captured.entries)
    (readable : source.Readable) (upTo : RestoredUpTo source done world.sys.files) :
    ∃ after, Exec.forEach (restoreEntry []) rest env world = (.ok (), after) ∧
      RestoredUpTo source (done ++ rest) after.sys.files ∧ World.Finds env world after := by
  induction rest generalizing done world with
  | nil => exact ⟨world, rfl, by rwa [List.append_nil], .refl world⟩
  | cons entry rest ih =>
      obtain ⟨path, configures, same⟩ := Files.exists_of_captured ((complete entry).mp (by simp))
      obtain ⟨text, found⟩ := readable path configures
      obtain rfl : entry = ⟨path, text.value⟩ := by
        rw [same, Files.shownValue, found]
      have sorted : ∀ earlier ∈ done, earlier.path.length ≤ path.length ∧ earlier.path ≠ path :=
        fun earlier isDone => (List.pairwise_append.mp ordered).2.2 earlier isDone _
          (List.mem_cons_self ..)
      -- The counts that own the path are shallower, so they are restored.
      have present : world.sys.files.mode path = some true := by
        have owners : ∀ count, source.Owns count path → ∃ entry ∈ done, entry.path = count := by
          intro count owns
          have listed : (⟨count, source.shownValue count⟩ : ConfigurationEntry) ∈
              source.captured.entries :=
            owns.1.2.captured
          refine ⟨⟨count, source.shownValue count⟩, ?_, rfl⟩
          rcases List.mem_append.mp ((complete _).mpr listed) with isDone | later
          · exact isDone
          · have deeper : path.length ≤ count.length := by
              rcases List.mem_cons.mp later with isThis | isLater
              · rw [show count = path from congrArg ConfigurationEntry.path isThis]
              · have tail := (List.pairwise_append.mp ordered).2.1
                exact ((List.pairwise_cons.mp tail).1 _ isLater).1
            exact absurd owns.shallower (not_lt_of_ge deeper)
        rw [upTo.settled path owners, Files.mode, found, Option.map_some]
      have counted : Path.isReconstructionCount path = true →
          ∃ number, Text.parseUnsigned intBound text.value = some number := by
        intro isCount
        obtain ⟨other, number, hit, parsed, -⟩ := numbered.counted path ⟨isCount, configures⟩
        rw [found] at hit
        cases hit
        exact ⟨number, parsed⟩
      obtain ⟨middle, run, restored, genuine, first⟩ : ∃ middle,
          restoreEntry [] ⟨path, text.value⟩ env world = (.ok (), middle) ∧
            Restored kernel world.sys.files ⟨path, text.value⟩ middle.sys.files ∧
            middle.sys.files.Genuine ∧ World.Finds env world middle :=
        restoreEntry_quiet quiet rfl configures.2.1 present counted upTo.genuine
      have next := upTo.step numbered configures (by rw [Files.shownValue, found]) sorted restored
        genuine
      rw [List.append_cons] at ordered complete
      obtain ⟨after, ran, all, second⟩ := ih (quiet.later first.clock) ordered complete next
      refine ⟨after, ?_, by simpa using all, first.trans second⟩
      unfold Exec.forEach
      rw [Exec.bind_run_ok run, ran]

/-- Reading back what has been restored. -/
theorem entriesMatch_quiet (solitary : env.Solitary) {skip : Path → Bool}
    {entries : List ConfigurationEntry}
    (shown : ∀ entry ∈ entries, skip entry.path = false → ∃ text : AttributeText,
      world.sys.files.get? entry.path = some ⟨.text text, true⟩ ∧
        (Content.text text).Shows entry.value) :
    ∃ after, entriesMatch skip entries env world = (.ok true, after) ∧
      after.sys = world.sys ∧ World.Finds env world after := by
  induction entries generalizing world with
  | nil => exact ⟨world, rfl, rfl, .refl world⟩
  | cons entry rest ih =>
      unfold entriesMatch
      cases skipped : skip entry.path with
      | true =>
          rw [if_pos rfl]
          exact ih fun other member => shown other (List.mem_cons_of_mem entry member)
      | false =>
          obtain ⟨text, found, shows⟩ := shown entry (List.mem_cons_self ..) skipped
          obtain ⟨middle, compared, still, first⟩ :=
            readConfigurationValueEquals_quiet solitary found entry.value
          rw [decide_eq_true shows] at compared
          have later : ∀ other ∈ rest, skip other.path = false → ∃ text : AttributeText,
              middle.sys.files.get? other.path = some ⟨.text text, true⟩ ∧
                (Content.text text).Shows other.value := by
            intro other member
            rw [still]
            exact shown other (List.mem_cons_of_mem entry member)
          obtain ⟨after, run, last, second⟩ := ih later
          refine ⟨after, ?_, last.trans still, first.trans second⟩
          rw [if_neg Bool.false_ne_true, Exec.bind_run_ok compared, if_pos rfl, run]

end Runs

/-! ## Restoring a snapshot -/

/-- The order of a restoration: shallow entries first, and none twice. -/
theorem restorationOrder_ordered {files : Files} {entries : List ConfigurationEntry}
    (part : entries.Sublist files.captured.entries) :
    (ConfigurationSnapshot.restorationOrder ⟨[], files.captured⟩ entries).Pairwise
      fun first second =>
        first.path.length ≤ second.path.length ∧ first.path ≠ second.path := by
  have sorted : (ConfigurationSnapshot.restorationOrder ⟨[], files.captured⟩ entries).Pairwise
      fun first second => restorationKey [] first ≤ restorationKey [] second :=
    List.pairwise_insertionSort _ _
  have once : ((ConfigurationSnapshot.restorationOrder ⟨[], files.captured⟩ entries).map
      ConfigurationEntry.path).Nodup := by
    have same : files.captured.entries.map ConfigurationEntry.path = files.configurationPaths := by
      simp [Files.captured, Function.comp_def]
    have perm : (ConfigurationSnapshot.restorationOrder ⟨[], files.captured⟩ entries).Perm
        entries := List.perm_insertionSort _ _
    rw [(perm.map ConfigurationEntry.path).nodup_iff]
    refine (part.map ConfigurationEntry.path).nodup ?_
    rw [same]
    exact files.configurationPaths_strict.nodup
  have different := List.pairwise_map.mp once
  refine sorted.imp₂ (fun one two below distinct => ⟨?_, distinct⟩) different
  exact Prod.Lex.monotone_fst _ _ below

/-- Restoring what has been captured from other files of the kernel. -/
theorem ConfigurationSnapshot.restore_quiet {kernel : Kernel} {env : Env} {source : Files}
    {target : World} (quiet : env.QuietSince kernel target.clock)
    (numbered : source.NumberedBy kernel) (readable : source.Readable)
    (fixed : source.SameFixed target.sys.files) (genuine : target.sys.files.Genuine) :
    ∃ done middle restored, (⟨[], source.captured⟩ : ConfigurationSnapshot).restore env target =
        (.ok (), restored) ∧ World.Finds env target restored ∧
      RestoredUpTo source done restored.sys.files ∧
      (∀ entry, entry ∈ done ↔ entry ∈ source.captured.entries) ∧
      Exec.forEach (restoreEntry []) (ConfigurationSnapshot.restorationOrder ⟨[], source.captured⟩
        source.captured.entries) env target = (.ok (), middle) ∧ restored.sys = middle.sys := by
  let order := ConfigurationSnapshot.restorationOrder ⟨[], source.captured⟩ source.captured.entries
  have complete : ∀ entry, entry ∈ ([] : List ConfigurationEntry) ++ order ↔
      entry ∈ source.captured.entries := by
    intro entry
    exact (List.perm_insertionSort _ _).mem_iff
  have start : RestoredUpTo source [] target.sys.files := by
    constructor
    · refine fun path owners => fixed path fun count owns => ?_
      obtain ⟨entry, member, -⟩ := owners count owns
      cases member
    · intro entry member
      cases member
    · exact genuine
  obtain ⟨middle, ran, all, writes⟩ :=
    restoreEntries_quiet quiet numbered (restorationOrder_ordered (List.Sublist.refl _)) complete
      readable start
  have shown : ∀ entry ∈ source.captured.entries, ∃ text : AttributeText,
      middle.sys.files.get? entry.path = some ⟨.text text, true⟩ ∧
        (Content.text text).Shows entry.value :=
    fun entry member => all.shown entry ((complete entry).mpr member)
  obtain ⟨restored, matched, still, reads⟩ :=
    entriesMatch_quiet quiet.solitary fun entry member (_ : containsPath [] entry.path = false) =>
      shown entry member
  refine ⟨_, middle, restored, ?_, writes.trans reads, still ▸ all, complete, ran, still⟩
  unfold ConfigurationSnapshot.restore ConfigurationSnapshot.restoreExcept
  refine (Exec.bind_run_ok ran _).trans ?_
  exact Exec.bind_run_ok matched _

/-! ## Deciding what a hierarchy is -/

namespace Files

instance (files : Files) (path : Path) : Decidable (files.Configures path) :=
  decidable_of_iff (path ≠ [] ∧ Path.isRuntimeAttribute path = false ∧
    (files.get? path).any File.writable = true) (by
      unfold Configures
      rw [Option.any_eq_true])

instance (files : Files) (path : Path) : Decidable (files.IsCount path) :=
  inferInstanceAs (Decidable (_ ∧ _))

instance (files : Files) (count path : Path) : Decidable (files.Owns count path) :=
  inferInstanceAs (Decidable (_ ∧ _))

theorem Configures.mem_paths {files : Files} {path : Path} (configures : files.Configures path) :
    path ∈ files.paths := by
  obtain ⟨-, -, file, found, -⟩ := configures
  rw [Files.mem_paths, found]
  rfl

theorem mode_of_not_mem {files : Files} {path : Path} (absent : path ∉ files.paths) :
    files.mode path = none := by
  rw [Files.mem_paths, Bool.not_eq_true, Option.isSome_eq_false_iff, Option.isNone_iff_eq_none]
    at absent
  rw [mode, absent]
  rfl

/-- Whether the children of one count are those a kernel makes. -/
def childrenCheck (kernel : Kernel) (files : Files) (count : Path) (number : Nat) : Bool :=
  (files.paths ++ (defaultChildren kernel count.dropLast number).map Prod.fst).all fun path =>
    !(indexedChild? count.dropLast path).isSome ||
      files.paths.any (fun inner => files.Owns inner path ∧ count.length < inner.length) ||
      files.mode path ==
        (Store.find path (defaultChildren kernel count.dropLast number)).map File.writable

/-- Whether the numbered children of a hierarchy are those of a kernel. -/
def numberedCheck (kernel : Kernel) (files : Files) : Bool :=
  files.paths.all fun count => !decide (files.IsCount count) ||
    match files.get? count with
    | some ⟨.text text, true⟩ =>
        match Text.parseUnsigned intBound text.value with
        | some number => files.childrenCheck kernel count number
        | none => false
    | _ => false

theorem childrenCheck_sound {kernel : Kernel} {files : Files} {count : Path} {number : Nat}
    (checked : files.childrenCheck kernel count number = true) {path : Path}
    (child : (indexedChild? count.dropLast path).isSome = true)
    (fixed : ∀ inner, files.Owns inner path → inner.length ≤ count.length) :
    files.mode path =
      (Store.find path (defaultChildren kernel count.dropLast number)).map File.writable := by
  by_cases listed : path ∈ files.paths ++
      (defaultChildren kernel count.dropLast number).map Prod.fst
  · have here := List.all_eq_true.mp checked path listed
    rw [child, Bool.not_true, Bool.false_or, Bool.or_eq_true, List.any_eq_true] at here
    rcases here with ⟨inner, -, owned⟩ | same
    · obtain ⟨owns, deeper⟩ := of_decide_eq_true owned
      exact absurd deeper (not_lt_of_ge (fixed inner owns))
    · exact eq_of_beq same
  · rw [List.mem_append, not_or] at listed
    rw [mode_of_not_mem listed.1, (Store.find_eq_none path _).mpr listed.2]
    rfl

theorem numberedBy_of_check {kernel : Kernel} {files : Files}
    (checked : files.numberedCheck kernel = true) : files.NumberedBy kernel := by
  constructor
  intro count isCount
  have here := List.all_eq_true.mp checked count isCount.2.mem_paths
  rw [decide_eq_true isCount, Bool.not_true, Bool.false_or] at here
  split at here
  · rename_i text found
    split at here
    · rename_i number parsed
      exact ⟨text, number, found, parsed, fun path child fixed =>
        childrenCheck_sound here child fixed⟩
    · cases here
  · cases here

/-- Whether other files have the same attributes outside of numbered children. -/
def fixedCheck (files other : Files) : Bool :=
  (files.paths ++ other.paths).all fun path =>
    files.paths.any (fun count => files.Owns count path) || other.mode path == files.mode path

theorem sameFixed_of_check {files other : Files} (checked : files.fixedCheck other = true) :
    files.SameFixed other := by
  intro path fixed
  by_cases listed : path ∈ files.paths ++ other.paths
  · have here := List.all_eq_true.mp checked path listed
    rw [Bool.or_eq_true, List.any_eq_true] at here
    rcases here with ⟨count, -, owned⟩ | same
    · exact absurd (of_decide_eq_true owned) (fixed count)
    · exact eq_of_beq same
  · rw [List.mem_append, not_or] at listed
    rw [mode_of_not_mem listed.1, mode_of_not_mem listed.2]

theorem genuine_ofAttributes (attributes : List (Path × String × Bool)) :
    (Files.ofAttributes attributes).Genuine := by
  intro path bytes writable found
  have shown : (Store.empty.insertAll ((attributes.filter fun entry =>
      entry.1.length < pathDepth).map fun entry =>
        (entry.1, (⟨.text (.ofWritten entry.2.1), entry.2.2⟩ : File)))).get? path =
      some ⟨.undecodable bytes, writable⟩ := found
  have none : (Store.empty : Store Path File).get? path = none := rfl
  rw [Store.get?_insertAll, none, Option.none_or] at shown
  obtain ⟨entry, -, same⟩ := List.mem_map.mp (Store.mem_of_find shown)
  cases same

end Files

namespace RestoreFixture

/-- A kernel that creates stopped kdamonds without contexts, and contexts without targets. -/
def kernel : Kernel where
  child directory _ :=
    if directory = ["kdamonds"] then
      [(["state"], .ofWritten "off", true), (["pid"], .ofWritten "-1", false),
        (["contexts", "nr_contexts"], .ofWritten "0", true)]
    else if directory.getLast? = some "contexts" then
      [(["operations"], .ofWritten "vaddr", true),
        (["targets", "nr_targets"], .ofWritten "0", true)]
    else []

/-- One kdamond with one context, next to an attribute that nobody knows. -/
def source : World := .initial (.settled (.ofAttributes
  [(["kdamonds", "nr_kdamonds"], "1", true), (["kdamonds", "0", "state"], "off", true),
    (["kdamonds", "0", "pid"], "-1", false),
    (["kdamonds", "0", "contexts", "nr_contexts"], "1", true),
    (["kdamonds", "0", "contexts", "0", "operations"], "paddr", true),
    (["kdamonds", "0", "contexts", "0", "targets", "nr_targets"], "0", true),
    (["label"], "a\n", true)]))

/-- No kdamonds. -/
def target (label : String) : World := .initial (.settled (.ofAttributes
  [(["kdamonds", "nr_kdamonds"], "0", true), (["label"], label, true)]))

end RestoreFixture

end DamonRs
