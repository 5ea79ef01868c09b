import DamonRs.Sysfs.Cut

/-!
# Captures of a hierarchy that nobody changes

In a quiet environment a capture is a function of the files: it lists every
writable attribute below the root that holds configuration, once and in the
order of the paths, with the value it shows.
-/

namespace DamonRs

open Library Sysfs

/-- In every world with some system a program returns a value and leaves the system as it is. -/
def Observes {α : Type} (env : Env) (system : System) (program : Sysfs α) (value : α) : Prop :=
  ∀ world, world.sys = system →
    ∃ after, program env world = (.ok value, after) ∧ after.sys = system

namespace Observes

variable {env : Env} {system : System} {α β : Type}

theorem pure (value : α) : Observes env system (Pure.pure value) value :=
  fun world same => ⟨world, rfl, same⟩

theorem bind {program : Sysfs α} {next : α → Sysfs β} {value : α} {result : β}
    (first : Observes env system program value) (second : Observes env system (next value) result) :
    Observes env system (program >>= next) result := by
  intro world same
  obtain ⟨middle, ran, still⟩ := first world same
  obtain ⟨after, rest, last⟩ := second middle still
  exact ⟨after, by rw [Exec.bind_run_ok ran, rest], last⟩

theorem mapEach {body : α → Sysfs β} {result : α → β} {items : List α}
    (each : ∀ item ∈ items, Observes env system (body item) (result item)) :
    Observes env system (Exec.mapEach body items) (items.map result) := by
  induction items with
  | nil => exact pure []
  | cons item rest ih =>
      have here := each item (List.mem_cons_self ..)
      have others := ih fun other member => each other (List.mem_cons_of_mem item member)
      exact here.bind (others.bind (pure _))

theorem forEach {body : α → Sysfs Unit} {items : List α}
    (each : ∀ item ∈ items, Observes env system (body item) ()) :
    Observes env system (Exec.forEach body items) () := by
  induction items with
  | nil => exact pure ()
  | cons item rest ih =>
      have here := each item (List.mem_cons_self ..)
      exact here.bind (ih fun other member => each other (List.mem_cons_of_mem item member))

/-- What returns is not repeated. -/
theorem retry {program : Sysfs α} {value : α} (observes : Observes env system program value) :
    Observes env system (retryBusy program) value := by
  intro world same
  obtain ⟨after, run, still⟩ := observes world same
  exact ⟨after, Exec.retry_run_ok run _, still⟩

theorem inspect (solitary : env.Solitary) (path : Path) (observe : Files → α) :
    Observes env system (Sysfs.inspect path observe) (.ok (observe system.files)) := by
  rintro world rfl
  have seen : Sysfs.inspect path observe env world = _ := inspect_run solitary.reliable path observe
  rw [solitary.moment_system] at seen
  exact ⟨_, seen, solitary.advance_sys world trivial⟩

theorem present (solitary : env.Solitary) (path : Path) :
    Observes env system (pathExists path) (system.files.pathExists path) :=
  (inspect solitary path _).bind (pure _)

theorem content (solitary : env.Solitary) {path : Path} {file : File}
    (found : system.files.get? path = some file) :
    Observes env system (perform (.read path)) (.content file.content) := by
  rintro world rfl
  have replied := solitary.reliable.read_reply world path
  unfold Moment.file? at replied
  rw [solitary.moment_system, found] at replied
  refine ⟨env.advance world (.read path), ?_, solitary.advance_sys world trivial⟩
  rw [perform_run, replied]

theorem text (solitary : env.Solitary) {path : Path} {text : AttributeText}
    {writable : Bool} (found : system.files.get? path = some ⟨.text text, writable⟩) :
    Observes env system (readText path) text.raw :=
  (content solitary found).bind (pure _)

end Observes

namespace Files

/-- The files below a directory of limited depth. -/
def walk (files : Files) : Nat → Path → List Path
  | 0, _ => []
  | budget + 1, directory =>
      let names := (files.entries directory).filterMap fun (name, isDirectory) =>
        if isDirectory then none else some (directory ++ [name])
      let directories := (files.entries directory).filterMap fun (name, isDirectory) =>
        if isDirectory then some (directory ++ [name]) else none
      names ++ (directories.reverse.map (files.walk budget)).flatten

theorem isDirectory_of_entry {files : Files} {directory : Path} {name : String}
    (listed : (name, true) ∈ files.entries directory) :
    files.isDirectory (directory ++ [name]) = true := by
  unfold entries at listed
  rw [List.mem_dedup, List.mem_filterMap] at listed
  obtain ⟨path, member, same⟩ := listed
  cases stripped : stripPrefix? directory path with
  | none =>
      rw [stripped] at same
      cases same
  | some relative =>
      rw [stripped] at same
      have whole := stripPrefix?_eq_some.mp stripped
      rcases relative with _ | ⟨first, _ | ⟨second, rest⟩⟩
      · cases same
      · cases same
      · cases same
        refine isDirectory_iff.mpr ⟨second, rest, ?_⟩
        rw [List.append_assoc]
        exact mem_paths.mp (whole ▸ member)

/-- The deepest directory of the files is less deep than a path can be. -/
theorem isDirectory_depth {files : Files} {directory : Path}
    (isDirectory : files.isDirectory directory = true) : directory.length + 1 < pathDepth := by
  obtain ⟨name, rest, present⟩ := isDirectory_iff.mp isDirectory
  have small := files.addressable _ (mem_paths.mpr present)
  rw [List.length_append, List.length_cons] at small
  omega

theorem of_mem_walk {files : Files} {budget : Nat} {directory path : Path}
    (member : path ∈ files.walk budget directory) :
    ∃ name rest, path = directory ++ name :: rest ∧ (files.get? path).isSome = true := by
  induction budget generalizing directory with
  | zero => cases member
  | succ budget ih =>
      unfold walk at member
      simp only [List.mem_append, List.mem_filterMap, List.mem_flatten, List.mem_map,
        List.mem_reverse] at member
      rcases member with ⟨⟨name, isDirectory⟩, listed, named⟩ |
        ⟨_, ⟨_, ⟨⟨name, isDirectory⟩, listed, named⟩, rfl⟩, inner⟩
      · cases isDirectory with
        | true => cases named
        | false =>
            cases named
            exact ⟨name, [], rfl, mem_entries_file.mp listed⟩
      · cases isDirectory with
        | false => cases named
        | true =>
            cases named
            obtain ⟨next, rest, rfl, present⟩ := ih inner
            exact ⟨name, next :: rest, by simp, present⟩

theorem mem_walk {files : Files} {budget : Nat} {directory path : Path}
    (fits : pathDepth ≤ directory.length + budget) :
    path ∈ files.walk budget directory ↔
      ∃ name rest, path = directory ++ name :: rest ∧ (files.get? path).isSome = true := by
  constructor
  · exact of_mem_walk
  rintro ⟨name, rest, rfl, present⟩
  induction budget generalizing directory name rest with
  | zero =>
      have small := isDirectory_depth (isDirectory_iff.mpr ⟨name, rest, present⟩)
      omega
  | succ budget ih =>
      unfold walk
      simp only [List.mem_append, List.mem_filterMap, List.mem_flatten, List.mem_map,
        List.mem_reverse]
      cases rest with
      | nil => exact .inl ⟨(name, false), mem_entries_file.mpr present, rfl⟩
      | cons next rest =>
          refine .inr ⟨_, ⟨_, ⟨(name, true), mem_entries_directory present, rfl⟩, rfl⟩, ?_⟩
          have deeper : pathDepth ≤ (directory ++ [name]).length + budget := by
            rw [List.length_append, List.length_singleton]
            omega
          have found := ih deeper next rest (by simpa using present)
          simpa using found

/-- A walk comes to every file once. -/
theorem walk_nodup (files : Files) (budget : Nat) (directory : Path) :
    (files.walk budget directory).Nodup := by
  induction budget generalizing directory with
  | zero => exact List.nodup_nil
  | succ budget ih =>
      have listed : (files.entries directory).Nodup := List.nodup_dedup _
      unfold walk
      refine List.Nodup.append ?_ ?_ ?_
      · refine listed.filterMap ?_
        rintro ⟨first, _ | _⟩ ⟨second, _ | _⟩ path one two <;> simp_all
        simpa using one.trans two.symm
      · have directories : ((files.entries directory).filterMap fun (name, isDirectory) =>
            if isDirectory then some (directory ++ [name]) else none).reverse.Nodup := by
          refine List.nodup_reverse.mpr (listed.filterMap ?_)
          rintro ⟨first, _ | _⟩ ⟨second, _ | _⟩ path one two <;> simp_all
          simpa using one.trans two.symm
        refine List.nodup_flatten.mpr ⟨?_, List.pairwise_map.mpr ?_⟩
        · intro walked member
          obtain ⟨child, -, rfl⟩ := List.mem_map.mp member
          exact ih child
        · refine directories.imp_of_mem fun {one two} inOne inTwo different path here there => ?_
          -- Both children are one step below the directory, so a path below both makes them equal.
          have sameLength : one.length = two.length := by
            simp only [List.mem_reverse, List.mem_filterMap] at inOne inTwo
            obtain ⟨⟨first, isFirst⟩, -, firstNamed⟩ := inOne
            obtain ⟨⟨second, isSecond⟩, -, secondNamed⟩ := inTwo
            cases isFirst <;> cases isSecond <;> cases firstNamed <;> cases secondNamed
            simp
          obtain ⟨name, rest, rfl, -⟩ := of_mem_walk here
          obtain ⟨other, inner, same, -⟩ := of_mem_walk there
          exact different (List.append_inj_left same sameLength)
      · intro path direct nested
        simp only [List.mem_filterMap, List.mem_flatten, List.mem_map, List.mem_reverse] at direct nested
        obtain ⟨⟨name, isDirectory⟩, -, named⟩ := direct
        obtain ⟨_, ⟨_, ⟨⟨other, isOther⟩, -, below⟩, rfl⟩, inner⟩ := nested
        obtain ⟨next, rest, rfl, -⟩ := of_mem_walk inner
        cases isDirectory with
        | true => cases named
        | false =>
            cases isOther with
            | false => cases below
            | true =>
                cases below
                have lengths := congrArg List.length (Option.some.inj named)
                simp at lengths

/-- The path itself, when its file is writable configuration. -/
def keptPath (files : Files) (path : Path) : Option Path :=
  if Path.isRuntimeAttribute path then none
  else if (files.get? path).any File.writable then some path else none

/-- The paths of the writable configuration, in their order. -/
def configurationPaths (files : Files) : List Path :=
  ((files.walk pathDepth []).map files.keptPath).reduceOption.insertionSort (· ≤ ·)

/-- The value that a text attribute shows. -/
def shownValue (files : Files) (path : Path) : String :=
  match files.get? path with
  | some ⟨.text text, _⟩ => text.value
  | _ => ""

/-- What a capture of the files returns. -/
def captured (files : Files) : ConfigurationFingerprint :=
  ⟨files.configurationPaths.map fun path => ⟨path, files.shownValue path⟩⟩

/-- Writable configuration is at a path. -/
def Configures (files : Files) (path : Path) : Prop :=
  path ≠ [] ∧ Path.isRuntimeAttribute path = false ∧
    ∃ file, files.get? path = some file ∧ file.writable = true

theorem keptPath_eq_some {files : Files} {path kept : Path} :
    files.keptPath path = some kept ↔ kept = path ∧ Path.isRuntimeAttribute path = false ∧
      ∃ file, files.get? path = some file ∧ file.writable = true := by
  unfold keptPath
  by_cases runtime : Path.isRuntimeAttribute path = true
  · simp [runtime]
  · rw [if_neg runtime]
    by_cases writable : (files.get? path).any File.writable = true
    · rw [if_pos writable]
      rw [Option.any_eq_true] at writable
      obtain ⟨file, found, writable⟩ := writable
      constructor
      · intro same
        exact ⟨(Option.some.inj same).symm, Bool.eq_false_iff.mpr runtime, file, found, writable⟩
      · rintro ⟨rfl, -⟩
        rfl
    · rw [if_neg writable]
      rw [Option.any_eq_true] at writable
      constructor
      · intro same
        cases same
      · rintro ⟨-, -, file, found, isWritable⟩
        exact absurd ⟨file, found, isWritable⟩ writable

theorem mem_configurationPaths {files : Files} {path : Path} :
    path ∈ files.configurationPaths ↔ files.Configures path := by
  have fits : pathDepth ≤ ([] : Path).length + pathDepth := Nat.le_add_left ..
  unfold configurationPaths Configures
  rw [(List.perm_insertionSort (· ≤ ·) _).mem_iff]
  simp only [List.reduceOption, List.mem_filterMap, id_eq, exists_eq_right, List.mem_map,
    keptPath_eq_some, mem_walk fits,
    List.nil_append]
  constructor
  · rintro ⟨_, ⟨name, rest, rfl, -⟩, rfl, configuration, writable⟩
    exact ⟨by simp, configuration, writable⟩
  · rintro ⟨nonempty, configuration, file, found, writable⟩
    obtain ⟨name, rest, rfl⟩ := List.exists_cons_of_ne_nil nonempty
    exact ⟨_, ⟨name, rest, rfl, by rw [found]; rfl⟩, rfl, configuration, file, found, writable⟩

theorem configurationPaths_strict (files : Files) :
    files.configurationPaths.Pairwise (· < ·) := by
  have sorted : files.configurationPaths.Pairwise (· ≤ ·) :=
    List.pairwise_insertionSort (· ≤ ·) _
  have once : files.configurationPaths.Nodup := by
    unfold configurationPaths
    rw [(List.perm_insertionSort (· ≤ ·) _).nodup_iff]
    unfold List.reduceOption
    rw [List.filterMap_map]
    refine (walk_nodup files pathDepth []).filterMap ?_
    intro first second path one two
    rw [(keptPath_eq_some.mp one).1.symm, (keptPath_eq_some.mp two).1]
  exact sorted.imp₂ (fun _ _ below different => lt_of_le_of_ne below different) once

/-- What is configured is captured with the value that it shows. -/
theorem Configures.captured {files : Files} {path : Path} (configures : files.Configures path) :
    ⟨path, files.shownValue path⟩ ∈ files.captured.entries :=
  List.mem_map_of_mem (mem_configurationPaths.mpr configures)

/-- Nothing else is captured. -/
theorem exists_of_captured {files : Files} {entry : ConfigurationEntry}
    (member : entry ∈ files.captured.entries) :
    ∃ path, files.Configures path ∧ entry = ⟨path, files.shownValue path⟩ := by
  obtain ⟨path, listed, rfl⟩ := List.mem_map.mp member
  exact ⟨path, mem_configurationPaths.mp listed, rfl⟩

/-- Files with the same writable configuration are captured alike. -/
theorem captured_congr {first second : Files}
    (configures : ∀ path, first.Configures path ↔ second.Configures path)
    (values : ∀ path, first.Configures path → first.shownValue path = second.shownValue path) :
    first.captured = second.captured := by
  have paths : first.configurationPaths = second.configurationPaths := by
    refine strict_ext first.configurationPaths_strict second.configurationPaths_strict fun path => ?_
    rw [mem_configurationPaths, mem_configurationPaths]
    exact configures path
  unfold captured
  rw [← paths]
  congr 1
  refine List.map_congr_left fun path member => ?_
  rw [values path (mem_configurationPaths.mp member)]

/-- Every writable configuration is text. -/
def Readable (files : Files) : Prop :=
  ∀ path, files.Configures path → ∃ text, files.get? path = some ⟨.text text, true⟩

end Files

section Captures

variable {env : Env} {system : System}

theorem readDir_observes (solitary : env.Solitary) {directory : Path}
    (there : directory = [] ∨ system.files.isDirectory directory = true) :
    Observes env system (readDir directory) (.ok (system.files.entries directory)) := by
  refine (Observes.inspect solitary directory _).bind ?_
  unfold Files.list?
  rw [if_pos there]
  exact .pure _

theorem walkFiles_observes (solitary : env.Solitary) {budget : Nat} {directory : Path}
    (there : directory = [] ∨ system.files.isDirectory directory = true)
    (fits : pathDepth ≤ directory.length + budget) :
    Observes env system (walkFiles budget directory) (system.files.walk budget directory) := by
  induction budget generalizing directory with
  | zero =>
      rcases there with rfl | isDirectory
      · exact absurd fits (by decide)
      · have small := Files.isDirectory_depth isDirectory
        omega
  | succ budget ih =>
      refine (readDir_observes solitary there).bind ?_
      refine Observes.bind (Observes.mapEach fun child member => ?_) (.pure _)
      obtain ⟨⟨name, isDirectory⟩, listed, named⟩ :=
        List.mem_filterMap.mp (List.mem_reverse.mp member)
      cases isDirectory with
      | false => cases named
      | true =>
          cases named
          refine ih (.inr (Files.isDirectory_of_entry listed)) ?_
          rw [List.length_append, List.length_singleton]
          omega

theorem configurationFile?_observes (solitary : env.Solitary) {path : Path}
    (present : (system.files.get? path).isSome = true) :
    Observes env system (configurationFile? [] path) (system.files.keptPath path) := by
  unfold configurationFile? Files.keptPath
  rw [show stripPrefix? [] path = some path from rfl]
  dsimp only
  by_cases runtime : Path.isRuntimeAttribute path = true
  · rw [if_pos runtime, if_pos runtime]
    exact .pure none
  · rw [if_neg runtime, if_neg runtime]
    obtain ⟨file, found⟩ := Option.isSome_iff_exists.mp present
    have writable : Observes env system (pathIsWritable path) file.writable := by
      refine (Observes.inspect solitary path _).bind ?_
      unfold Files.writable?
      rw [found]
      exact .pure _
    rw [found]
    exact writable.bind (.pure _)

theorem writableConfigurationFiles_observes (solitary : env.Solitary) :
    Observes env system (writableConfigurationFiles []) system.files.configurationPaths := by
  have fits : pathDepth ≤ ([] : Path).length + pathDepth := Nat.le_add_left ..
  refine (walkFiles_observes solitary (.inl rfl) fits).bind (Observes.bind ?_ (.pure _))
  refine Observes.mapEach fun path member => configurationFile?_observes solitary ?_
  obtain ⟨name, rest, -, present⟩ := (Files.mem_walk fits).mp member
  exact present

theorem readConfigurationEntry_observes (solitary : env.Solitary) {path : Path}
    {text : AttributeText} {writable : Bool}
    (found : system.files.get? path = some ⟨.text text, writable⟩) :
    Observes env system (readConfigurationEntry path) ⟨path, text.value⟩ := by
  exact Observes.bind ((Observes.text solitary found).bind (.pure _)) (.pure _)

/-- A capture of readable files. -/
theorem captureConfiguration_observes (solitary : env.Solitary)
    (readable : system.files.Readable) :
    Observes env system (captureConfiguration []) system.files.captured := by
  refine (writableConfigurationFiles_observes solitary).bind (Observes.bind ?_ (.pure _))
  refine Observes.mapEach fun path member => ?_
  obtain ⟨text, found⟩ := readable path (Files.mem_configurationPaths.mp member)
  unfold Files.shownValue
  rw [found]
  exact readConfigurationEntry_observes solitary found

/-- Only readable files are captured. -/
theorem captureConfiguration_readable (solitary : env.Solitary) {world after : World}
    {fingerprint : ConfigurationFingerprint}
    (run : captureConfiguration [] env world = (.ok fingerprint, after)) :
    world.sys.files.Readable := by
  have confined := (captureConfiguration_reads []).mono fun _ => ReadsConfiguration.readsOnly
  have still := solitary.history_system confined run
  obtain ⟨walk, inspections, reads, parts, captures⟩ :=
    captureConfiguration_run solitary.reliable run
  rw [parts] at still
  have shows : ∀ {moment path}, moment ∈ walk ++ inspections ++ reads →
      moment.file? path = world.sys.files.get? path := by
    intro moment path member
    unfold Moment.file?
    rw [still moment member]
  intro path ⟨nonempty, configuration, file, found, writable⟩
  rcases captures.missing path nonempty configuration with
    ⟨entry, member, rfl⟩ | ⟨moment, during, absent⟩ | ⟨moment, during, other, there, readOnly⟩
  · obtain ⟨moment, during, text, mode, shown, -⟩ := captures.read entry member
    rw [shows (List.mem_append_right _ during), found] at shown
    obtain rfl := Option.some.inj shown
    obtain rfl : mode = true := writable
    exact ⟨text, found⟩
  · rw [shows (List.mem_append_left _ (List.mem_append_left _ during)), found] at absent
    cases absent
  · rw [shows (List.mem_append_left _ (List.mem_append_right _ during)), found] at there
    obtain rfl := Option.some.inj there
    rw [writable] at readOnly
    cases readOnly

end Captures

end DamonRs
