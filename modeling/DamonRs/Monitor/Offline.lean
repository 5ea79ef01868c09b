import DamonRs.Monitor.Fixture
import DamonRs.Monitor.GoalUpdate
import DamonRs.Monitor.Undo
import DamonRs.Sysfs.Failures
import DamonRs.Sysfs.Stored

/-!
# Staging a stopped hierarchy

A configuration is staged on a stopped hierarchy as a whole or not at all.
Whatever its writes have done by the time one of them fails, the numbered
children are those of the kernel and no kdamond runs, so the captured
hierarchy is restored from there, and the caller gets the error of the write.
-/

namespace DamonRs

open Library Sysfs

/-! ## Stopped hierarchies -/

/-- The kdamonds that a kernel creates do not run. -/
structure Kernel.StartsStopped (kernel : Kernel) : Prop where
  shown : ∀ index, ∃ entry ∈ kernel.child ["kdamonds"] index, entry.1 = ["state"]
  off : ∀ index, ∀ entry ∈ kernel.child ["kdamonds"] index, entry.1 = ["state"] →
    Text.trim entry.2.1.raw = "off"

namespace Files

/-- No kdamond runs. -/
def AllOff (files : Files) : Prop :=
  ∀ index file, files.get? (Path.stateOf index) = some file →
    ∃ text, file.content = .text text ∧ Text.trim text.raw = "off"

/-- The hierarchy shows how many kdamonds it has, and each has a state. -/
def Counted (files : Files) : Prop :=
  ∃ count text, files.get? DamonAdmin.countPath = some ⟨.text text, true⟩ ∧
    text.value = toString count ∧ count < intBound ∧
      ∀ index < count, (files.get? (Path.stateOf index)).isSome = true

/-- A hierarchy whose kdamonds are counted and do not run. -/
structure Stopped (files : Files) : Prop where
  counted : files.Counted
  off : files.AllOff

end Files

section Writes

variable {kernel : Kernel} {files after : Files} {path : Path} {value : String}

theorem Files.write_rebuilt {other : Path} (rebuilds : Path.Rebuilds path other)
    (written : files.write kernel path value = .ok after) :
    ∃ number, Text.parseUnsigned intBound value = some number ∧
      after.get? other = Store.find other (defaultChildren kernel path.dropLast number) := by
  obtain ⟨number, parsed⟩ := (write_requires written).2 rebuilds.1
  refine ⟨number, parsed, ?_⟩
  have different : other ≠ path := by
    rintro rfl
    exact absurd rebuilds.shorter (lt_irrefl _)
  have child : (Path.isReconstructionCount path && (indexedChild? path.dropLast other).isSome) =
      true := by
    rw [rebuilds.1, rebuilds.2]
    rfl
  rw [write_get? written, Files.written, parsed, if_neg different]
  exact if_pos child

/-- Only the children of the kdamonds directory have the state of a kdamond. -/
theorem Path.Rebuilds.directory_of_state {index : Nat}
    (rebuilds : Path.Rebuilds path (Path.stateOf index)) : path.dropLast = ["kdamonds"] := by
  obtain ⟨-, name, first, rest, isIndex, same⟩ := Path.Rebuilds.iff.mp rebuilds
  have shape : Path.stateOf index = ["kdamonds", Path.indexName index, "state"] := rfl
  rw [shape] at same
  generalize path.dropLast = directory at same ⊢
  rcases directory with _ | ⟨one, _ | ⟨two, others⟩⟩
  · injection same with named
    rw [← named] at isIndex
    cases isIndex
  · injection same with named
    rw [named]
  · have lengths := congrArg List.length same
    simp only [List.length_cons, List.length_nil, List.length_append] at lengths
    omega

theorem Files.defaultChildren_off {index count : Nat} {file : File} (starts : kernel.StartsStopped)
    (found : Store.find (Path.stateOf index) (defaultChildren kernel ["kdamonds"] count) =
      some file) : ∃ text, file.content = .text text ∧ Text.trim text.raw = "off" := by
  have inside := Store.mem_of_find found
  simp only [defaultChildren, List.mem_flatMap, List.mem_filterMap] at inside
  obtain ⟨child, -, ⟨inner, text, writable⟩, listed, same⟩ := inside
  dsimp only at same
  split at same
  · rename_i fits
    injection same with same
    obtain ⟨paths, rfl⟩ := Prod.mk.inj same
    have shape : Path.stateOf index = "kdamonds" :: Path.indexName index :: ["state"] := rfl
    rw [shape, List.singleton_append] at paths
    have state : inner = ["state"] := (List.cons.inj (List.cons.inj paths).2).2
    exact ⟨text, rfl, starts.off child (inner, text, writable) listed state⟩
  · cases same

theorem Files.defaultChildren_shown {index count : Nat} (starts : kernel.StartsStopped)
    (counted : index < count) :
    (Store.find (Path.stateOf index) (defaultChildren kernel ["kdamonds"] count)).isSome = true := by
  rw [Store.find_isSome]
  obtain ⟨⟨inner, text, writable⟩, listed, same⟩ := starts.shown index
  dsimp only at same
  subst same
  refine List.mem_map.mpr ⟨(Path.stateOf index, ⟨.text text, writable⟩), ?_, rfl⟩
  simp only [defaultChildren, List.mem_flatMap, List.mem_filterMap, List.mem_range]
  exact ⟨index, counted, _, listed, rfl⟩

/-- No write of configuration makes a kdamond run. -/
theorem Files.AllOff.write (off : files.AllOff) (starts : kernel.StartsStopped)
    (configuration : Path.isRuntimeAttribute path = false)
    (written : files.write kernel path value = .ok after) : after.AllOff := by
  intro index file found
  by_cases rebuilds : Path.Rebuilds path (Path.stateOf index)
  · obtain ⟨number, -, rebuilt⟩ := Files.write_rebuilt rebuilds written
    rw [rebuilds.directory_of_state, found] at rebuilt
    exact defaultChildren_off starts rebuilt.symm
  · have different : Path.stateOf index ≠ path := by
      rintro rfl
      rw [Path.stateOf_runtime] at configuration
      cases configuration
    rw [(Files.write_others written rebuilds).2 different] at found
    exact off index file found

/-- A count of kdamonds that is written counts default kdamonds. -/
theorem Files.counted_of_write {count : Nat} (starts : kernel.StartsStopped)
    (written : files.write kernel DamonAdmin.countPath (toString count) = .ok after) :
    after.Counted := by
  have trimmed := Text.trimmed_toString count
  have present := (Files.write_requires written).1
  have shown := (Restored.of_write present written).shown
  obtain ⟨number, parsed⟩ := (Files.write_requires written).2 rfl
  have small := Text.lt_of_parseUnsigned_toString parsed
  have same : number = count := by
    rw [Text.parseUnsigned_toString _ _ small] at parsed
    exact (Option.some.inj parsed).symm
  obtain ⟨text, found, shows⟩ := shown
  have value := (Content.shows_text trimmed.single).mp shows
  refine ⟨count, text, found, value, small, fun index counted => ?_⟩
  have rebuilds : Path.Rebuilds DamonAdmin.countPath (Path.stateOf index) := by
    refine Path.Rebuilds.iff.mpr ⟨rfl, Path.indexName index, "state", [], ?_, rfl⟩
    rw [Path.nameIndex?_indexName (lt_trans counted (lt_trans small (by decide)))]
    rfl
  obtain ⟨other, also, rebuilt⟩ := Files.write_rebuilt rebuilds written
  rw [parsed] at also
  cases also
  rw [rebuilt, same]
  exact defaultChildren_shown starts counted

/-- Inside of a kdamond nothing is written that counts kdamonds. -/
theorem Files.Counted.write (counted : files.Counted) (inside : 3 ≤ path.length)
    (configuration : Path.isRuntimeAttribute path = false)
    (written : files.write kernel path value = .ok after) : after.Counted := by
  obtain ⟨count, text, found, value, small, states⟩ := counted
  have spared : ∀ other : Path, other ≠ path → other.length ≤ 3 →
      after.get? other = files.get? other := by
    intro other different short
    refine (Files.write_others written fun rebuilds => ?_).2 different
    have deeper := rebuilds.shorter
    omega
  refine ⟨count, text, ?_, value, small, fun index counted => ?_⟩
  · rw [spared _ ?_ (by decide), found]
    rintro rfl
    exact absurd inside (by decide)
  · rw [spared _ ?_ (le_refl _)]
    · exact states index counted
    · rintro rfl
      rw [Path.stateOf_runtime] at configuration
      cases configuration

end Writes

/-! ## Reading a stopped hierarchy -/

/-- A number is read, with or without a final newline. -/
theorem Content.numbers_of_value {text : AttributeText} {writable : Bool} {number : Nat}
    (shown : text.value = toString number) (small : number < u64Bound) :
    Content.Numbers (some ⟨.text text, writable⟩) number := by
  refine ⟨_, rfl, ?_⟩
  have trimmed := Text.trimmed_toString number
  have digits : (Text.utf8Bytes (toString number)).length ≤ 20 :=
    Text.utf8Bytes_toString_length small
  obtain ⟨raw⟩ := text
  rcases stripFinalNewline_eq_iff.mp shown with same | ⟨same, -⟩
  · obtain rfl : raw = toString number ++ "\n" := same
    exact Content.unsigned?_ofWritten small
  · obtain rfl : raw = toString number := same
    have bytes : (Content.text ⟨toString number⟩).bytes = Text.utf8Bytes (toString number) := rfl
    have short : ¬(Content.text ⟨toString number⟩).bytes.length ≥ 64 := by
      rw [bytes]
      omega
    rw [Content.unsigned?, if_neg short, trimmed.trim, Text.parseUnsigned_toString _ _ small]

/-- A stopped hierarchy is found stopped. -/
theorem ensureHierarchyStopped_observes {env : Env} {system : System} (solitary : env.Solitary)
    (stopped : system.files.Stopped) : Observes env system ensureHierarchyStopped () := by
  obtain ⟨count, text, found, shown, small, states⟩ := stopped.counted
  have wide : count < u64Bound := lt_trans small (by decide)
  have counts : Observes env system DamonAdmin.kdamondCount count :=
    Observes.usize solitary wide (found ▸ Content.numbers_of_value shown wide)
  refine counts.bind ((Observes.forEach fun index member => ?_).bind (counts.bind ?_))
  · obtain ⟨file, here⟩ := Option.isSome_iff_exists.mp (states index (List.mem_range.mp member))
    obtain ⟨line, isText, off⟩ := stopped.off index file here
    obtain ⟨content, writable⟩ := file
    dsimp only at isText
    subst isText
    have state : Observes env system (DamonAdmin.kdamond index).state .off := by
      refine (Observes.text solitary here).bind ?_
      rw [off]
      exact .pure _
    exact state.bind (.pure _)
  · rw [if_neg (not_not.mpr rfl)]
    exact .pure _

/-! ## What staging reaches -/

/-- What staging accesses: it writes the count of kdamonds, and configuration inside of them. -/
def StagesKdamonds : Access → Prop
  | .write path value =>
      (path = DamonAdmin.countPath ∧ ∃ count : Nat, value = toString count) ∨
        3 ≤ path.length ∧ Path.isRuntimeAttribute path = false
  | access => ReadsConfiguration access

/-- Files that staging reaches from others. -/
structure Files.StagedFrom (source files : Files) : Prop where
  fixed : source.SameFixed files
  genuine : files.Genuine
  stopped : files.Stopped

theorem Files.StagedFrom.write {kernel : Kernel} {source files after : Files} {path : Path}
    {value : String} (staged : StagedFrom source files) (starts : kernel.StartsStopped)
    (permitted : StagesKdamonds (.write path value))
    (written : files.write kernel path value = .ok after) : StagedFrom source after := by
  have configuration : Path.isRuntimeAttribute path = false := by
    rcases permitted with ⟨rfl, -⟩ | ⟨-, configuration⟩
    · rfl
    · exact configuration
  have nonempty : path ≠ [] := by
    rintro rfl
    rcases permitted with ⟨same, -⟩ | ⟨inside, -⟩
    · cases same
    · cases inside
  constructor
  · intro other fixed
    have kept : ¬Path.Rebuilds path other := by
      intro rebuilds
      by_cases owned : ∃ count, source.Owns count path
      · obtain ⟨count, owns⟩ := owned
        obtain ⟨configures, outer⟩ := owns_iff.mp owns
        exact fixed count (owns_iff.mpr ⟨configures, outer.trans rebuilds⟩)
      · have present := (write_requires written).1
        rw [staged.fixed path fun count owns => owned ⟨count, owns⟩] at present
        obtain ⟨file, found, writable⟩ := Option.map_eq_some_iff.mp present
        exact fixed path (owns_iff.mpr ⟨⟨nonempty, configuration, file, found, writable⟩, rebuilds⟩)
    rw [(write_others written kept).1]
    exact staged.fixed other fixed
  · exact staged.genuine.write written
  · constructor
    · rcases permitted with ⟨rfl, count, rfl⟩ | ⟨inside, -⟩
      · exact counted_of_write starts written
      · exact staged.stopped.counted.write inside configuration written
    · exact staged.stopped.off.write starts configuration written

/-- A program that stages reaches such files, whichever of its writes fail. -/
theorem Sysfs.Confined.stagedFrom {α : Type} {program : Sysfs α} {env : Env} {source : Files}
    {world : World} (confined : Confined StagesKdamonds program) (solitary : env.Solitary)
    (starts : env.kernel.StartsStopped) (staged : source.StagedFrom world.sys.files) :
    source.StagedFrom (program env world).2.sys.files := by
  have lasting : Lasting (fun sys => source.StagedFrom sys.files) env world :=
    ⟨staged, fun clock sys _ holds => by rwa [solitary.still]⟩
  refine (confined.lastingOn env.kernel (fun path value permitted pid sys after holds written => ?_)
    env world rfl lasting).now
  have ordinary : System.kdamondOfState? path = none := by
    rcases permitted with ⟨rfl, -⟩ | ⟨-, configuration⟩
    · rfl
    · exact System.kdamondOfState?_of_configuration configuration
  rw [System.write_ordinary ordinary] at written
  cases stored : sys.files.write env.kernel path value with
  | error errno =>
      rw [stored] at written
      cases written
  | ok files =>
      rw [stored] at written
      cases written
      exact holds.write starts permitted stored

/-- A program that writes configuration makes no kdamond run. -/
theorem Sysfs.Confined.allOff {α : Type} {program : Sysfs α} {env : Env} {world : World}
    (confined : Confined StagesConfiguration program) (solitary : env.Solitary)
    (starts : env.kernel.StartsStopped) (off : world.sys.files.AllOff) :
    (program env world).2.sys.files.AllOff := by
  have lasting : Lasting (fun sys => sys.files.AllOff) env world :=
    ⟨off, fun clock sys _ holds => by rwa [solitary.still]⟩
  refine (confined.lastingOn env.kernel (fun path value permitted pid sys after holds written => ?_)
    env world rfl lasting).now
  rw [System.write_ordinary (System.kdamondOfState?_of_configuration permitted)] at written
  cases stored : sys.files.write env.kernel path value with
  | error errno =>
      rw [stored] at written
      cases written
  | ok files =>
      rw [stored] at written
      cases written
      exact holds.write starts permitted stored

/-- Staging writes the count of kdamonds, and configuration inside of them. -/
theorem DamonAdmin.stageConfigurationFrom_stagesKdamonds (config : DamonConfig)
    (observed : Option DamonConfig) :
    Confined StagesKdamonds (DamonAdmin.stageConfigurationFrom config observed) := by
  have regions : ∀ index, "tried_regions" ≠ Path.indexName index := Path.indexName_ne rfl
  have stats : ∀ index, Path.indexName index ≠ "stats" := fun index =>
    (Path.indexName_ne rfl index).symm
  have leaf : ∀ i suffix value, suffix ≠ [] → suffix.all Path.isPlainName = true →
      StagesKdamonds (.write ((DamonAdmin.kdamond i).path ++ suffix) value) := by
    intro i suffix value nonempty plain
    refine .inr ⟨?_, Path.isRuntimeAttribute_append nonempty
      (by simp [DamonAdmin.kdamond, regions]) (by simp [DamonAdmin.kdamond, stats]) plain⟩
    have positive : 0 < suffix.length := List.length_pos_of_ne_nil nonempty
    simp only [DamonAdmin.kdamond, List.length_append, List.length_cons, List.length_nil]
    omega
  have contexts : ∀ i, StagesBelow StagesKdamonds ((DamonAdmin.kdamond i).path ++ ["contexts"]) := by
    intro i
    have below : StagesBelow StagesConfiguration ((DamonAdmin.kdamond i).path ++ ["contexts"]) :=
      stagesConfiguration_below (by simp [DamonAdmin.kdamond])
        (by simp [DamonAdmin.kdamond, regions]) (by simp [DamonAdmin.kdamond])
    have deep : ∀ suffix : Path,
        3 ≤ ((DamonAdmin.kdamond i).path ++ ["contexts"] ++ suffix).length := by
      intro suffix
      simp [DamonAdmin.kdamond]
    constructor
    · exact below.reads
    · exact fun suffix value nonempty plain noCount =>
        .inr ⟨deep suffix, below.writes suffix value nonempty plain noCount⟩
    · intro suffix name count value plain isLeaf plainCount
      refine .inr ⟨?_, below.counts suffix name count value plain isLeaf plainCount⟩
      rw [List.append_assoc]
      exact deep _
    · intro suffix value plain
      refine .inr ⟨?_, below.limits suffix value plain⟩
      rw [List.append_assoc]
      exact deep _
  exact stageConfigurationFrom_within (show StagesKdamonds (.read _) from rfl)
    (fun number => .inl ⟨rfl, number, rfl⟩) (fun i value => leaf i ["refresh_ms"] value (by simp) rfl)
    contexts (fun i value => leaf i ["contexts", "nr_contexts"] value (by simp) rfl) config observed

theorem stageAndVerifyConfiguration_stagesKdamonds (config : DamonConfig)
    (observed : Option DamonConfig) :
    Confined StagesKdamonds (stageAndVerifyConfiguration config observed) := by
  have reads : ∀ access, ReadsConfiguration access → StagesKdamonds access := by
    intro access reads
    cases access with
    | write path value => exact reads.elim
    | _ => exact reads
  refine .seq (.retry (.seq (ensureHierarchyStopped_reads.mono reads)
    (DamonAdmin.stageConfigurationFrom_stagesKdamonds config observed))) ?_
  refine .seq (.retry (ensureHierarchyStopped_reads.mono reads)) (Confined.mono ?_ reads)
  refine .bind (.retry DamonAdmin.configurationSnapshot_confined) fun staged => ?_
  refine .bind (.retry DamonAdmin.configuration_confined) fun _ => ?_
  refine .seq (requireEquivalent_confined _ _) (.seq (requireOwned_confined
    (.retry staged.valuesMatchCurrent_confined)) ?_)
  exact .seq (.retry ensureHierarchyStopped_reads) (.pure staged)

/-! ## Restoring -/

/-- Every attribute is there as it was, and every captured value is shown again. -/
structure Files.Unchanged (files after : Files) : Prop where
  modes : ∀ path, after.mode path = files.mode path
  captured : after.captured = files.captured

theorem Files.Unchanged.refl (files : Files) : files.Unchanged files := ⟨fun _ => rfl, rfl⟩

/-- A stopped hierarchy is stopped after it has been restored. -/
theorem RestoredUpTo.stopped {source files : Files} {done : List ConfigurationEntry}
    (upTo : RestoredUpTo source done files)
    (complete : ∀ entry, entry ∈ done ↔ entry ∈ source.captured.entries)
    (stopped : source.Stopped) (off : files.AllOff) : files.Stopped := by
  constructor
  · obtain ⟨count, text, found, value, small, states⟩ := stopped.counted
    have configures : source.Configures DamonAdmin.countPath := ⟨by simp [DamonAdmin.countPath], rfl,
      _, found, rfl⟩
    have entry : (⟨DamonAdmin.countPath, source.shownValue DamonAdmin.countPath⟩ :
        ConfigurationEntry) ∈ done :=
      (complete _).mpr configures.captured
    obtain ⟨shown, there, shows⟩ := upTo.shown _ entry
    have captured : source.shownValue DamonAdmin.countPath = toString count := by
      rw [Files.shownValue, found]
      exact value
    rw [captured] at shows
    refine ⟨count, shown, there, ?_, small, fun index counted => ?_⟩
    · exact (Content.shows_text (Text.trimmed_toString count).single).mp shows
    · have kept := upTo.modes complete (Path.stateOf index)
      unfold Files.mode at kept
      rw [← Option.isSome_map (f := File.writable), kept, Option.isSome_map]
      exact states index counted
  · exact off

/-- No captured leaf falls short when captured files are restored from others. -/
def Files.RestoredWhole (kernel : Kernel) (source files : Files) : Prop :=
  ∀ entry ∈ source.captured.entries,
    ¬ConfigurationSnapshot.FallsShort ⟨[], source.captured⟩ kernel files source.captured.entries entry

instance (kernel : Kernel) (source files : Files) : Decidable (source.RestoredWhole kernel files) :=
  inferInstanceAs (Decidable (∀ entry ∈ _, ¬_))

/-- What has been reached by staging is restored to the captured hierarchy, when no leaf falls short
as the restoration starts. -/
theorem restoreConfiguration_quiet {kernel : Kernel} {env : Env} {world : World} {source : Files}
    (quiet : env.QuietSince kernel world.clock) (starts : kernel.StartsStopped)
    (numbered : source.NumberedBy kernel) (readable : source.Readable) (stopped : source.Stopped)
    (staged : source.StagedFrom world.sys.files)
    (whole : source.RestoredWhole kernel world.sys.files) :
    ∃ after, restoreConfiguration ⟨[], source.captured⟩ env world = (.ok (), after) ∧
      source.Unchanged after.sys.files := by
  have solitary := quiet.solitary
  have reads : Confined (fun _ => True) ensureHierarchyStopped :=
    ensureHierarchyStopped_reads.mono fun _ _ => trivial
  obtain ⟨checked, first, same⟩ :=
    (ensureHierarchyStopped_observes solitary staged.stopped).retry world rfl
  obtain ⟨again, second, still⟩ :=
    ensureHierarchyStopped_observes solitary staged.stopped checked same
  have passes : world.clock ≤ again.clock := by
    have one := (Confined.retry reads).clock env world
    have two := reads.clock env checked
    rw [first] at one
    rw [second] at two
    exact le_trans one two
  obtain ⟨done, middle, restored, restores, -, upTo, complete, ran, ended⟩ :=
    ConfigurationSnapshot.restore_quiet (quiet.later passes) numbered readable
      (still ▸ staged.fixed) (still ▸ staged.genuine)
  have captured := source.snapshot_captured
  have writes : Confined StagesConfiguration (⟨[], source.captured⟩ : ConfigurationSnapshot).restore :=
    restore_confined (fun _ => trivial) captured.entries
  have off : restored.sys.files.AllOff := by
    have kept := writes.allOff solitary (quiet.kernel ▸ starts) (still ▸ staged.stopped.off)
    rwa [restores] at kept
  have stoppedAgain := upTo.stopped complete stopped off
  have readableAgain := upTo.readable complete
  have capturedAgain : restored.sys.files.captured = source.captured := by
    refine (Files.captured_iff fun path =>
      Files.configures_of_mode (upTo.modes complete path)).mpr fun entry member => ?_
    obtain ⟨path, configures, rfl⟩ := Files.exists_of_captured member
    obtain ⟨text, found, shows⟩ := upTo.shows complete configures
    have value := ConfigurationSnapshot.restored_value solitary numbered (List.Sublist.refl _)
      (fun _ skipped => by cases skipped) ran member (fun _ => rfl) (ended ▸ found) shows
    rw [quiet.kernel, still] at value
    rw [Files.shownValue, found]
    exact value.mpr (whole _ member)
  have comparing : Observes env restored.sys
      (⟨[], source.captured⟩ : ConfigurationSnapshot).matchesCurrent true := by
    refine (captureConfiguration_observes solitary readableAgain).bind ?_
    rw [capturedAgain, decide_eq_true rfl]
    exact .pure true
  obtain ⟨last, third, lastSame⟩ :=
    (ensureHierarchyStopped_observes solitary stoppedAgain).retry restored rfl
  obtain ⟨after, fourth, unchanged⟩ := comparing.retry last lastSame
  refine ⟨after, ?_, ?_⟩
  · have attempt : (ensureHierarchyStopped >>= fun _ =>
        (⟨[], source.captured⟩ : ConfigurationSnapshot).restore) env checked = (.ok (), restored) :=
      (Exec.bind_run_ok second _).trans restores
    refine (Exec.bind_run_ok first _).trans ((Exec.bind_run_ok (Exec.retry_run_ok attempt _) _).trans
      ((Exec.bind_run_ok third _).trans ?_))
    exact (Exec.bind_run_ok fourth _).trans (by rw [if_pos rfl]; rfl)
  · rw [unchanged]
    exact ⟨upTo.modes complete, capturedAgain⟩

/-! ## The call -/

namespace Damon

/-- What a call does before it stages anything. -/
def prepareStaging (damon : Damon) (config : DamonConfig) :
    Sysfs (ConfigurationSnapshot × Option DamonConfig) := do
  let env ← environment
  Exec.ofExcept (config.validate env.pageSize)
  SessionLock.acquire damon.lockPath
  retryBusy ensureHierarchyStopped
  let previous ← retryBusy DamonAdmin.configurationSnapshot
  let observed ← observeForStaging
  requireOwned "the DAMON hierarchy changed while it was being captured"
    (retryBusy previous.valuesMatchCurrent)
  retryBusy ensureHierarchyStopped
  pure (previous, observed)

theorem stageConfiguration_eq (damon : Damon) (config : DamonConfig) :
    damon.stageConfiguration config = (damon.prepareStaging config >>= fun prepared =>
      if prepared.2.any config.equivalentAfterKernelNormalization then pure ()
      else stageOrRestore config prepared.2 prepared.1 >>= fun _ => pure ()) := by
  unfold stageConfiguration prepareStaging stageValidatedConfigurationLocked
  simp only [Exec.bind_assoc, Exec.ite_bind, Exec.pure_bind]

/-- The system is as before, when nobody else acts. -/
def Unchanging (env : Env) (before after : World) : Prop := env.Solitary → after.sys = before.sys

namespace Unchanging

variable {α : Type} {program : Sysfs α}

theorem refl (env : Env) (world : World) : Unchanging env world world := fun _ => rfl

theorem trans (env : Env) (first second third : World) (one : Unchanging env first second)
    (two : Unchanging env second third) : Unchanging env first third :=
  fun solitary => (two solitary).trans (one solitary)

theorem of_reads (confined : Confined ReadsOnly program) : Exec.Moves Unchanging program :=
  fun env world solitary =>
    (confined.looked solitary.still (rfl : program env world = (_, (program env world).2))).sys

end Unchanging

section Preparing

variable {damon : Damon} {config : DamonConfig} {env : Env} {world start : World}

theorem acquire_unchanging (lockPath : PathBuf) :
    Exec.Moves Unchanging (SessionLock.acquire lockPath) := by
  refine Exec.moves_bind Unchanging.trans (fun env world => .refl env world) fun env => ?_
  refine Exec.moves_bind Unchanging.trans (fun env world => .refl env world) fun world => ?_
  have inspects : Exec.Moves Unchanging (perform (.inspect lockPath.toPath)) :=
    fun env world solitary => solitary.advance_sys world trivial
  refine Exec.moves_bind Unchanging.trans inspects fun reply => ?_
  have decided : Exec.Moves Unchanging (if env.lockHeld world.clock then
      Exec.fail (.sessionLockBusy lockPath.toPath) else pure () : Sysfs Unit) :=
    Unchanging.of_reads (.ite (fun _ => .fail _) fun _ => .pure ())
  cases reply with
  | failed fault => exact Unchanging.of_reads (.ite (fun _ => .fail _) fun _ => .fail _)
  | done => exact decided
  | content content => exact decided

/-- Until something is staged, nothing changes. -/
theorem prepareStaging_unchanging (damon : Damon) (config : DamonConfig) :
    Exec.Moves Unchanging (damon.prepareStaging config) := by
  have stopped : Exec.Moves Unchanging (retryBusy ensureHierarchyStopped) :=
    .of_reads ensureHierarchyStopped_reads.retry.readsOnly
  refine Exec.moves_bind Unchanging.trans Unchanging.refl fun env => ?_
  refine Exec.moves_bind Unchanging.trans (Exec.moves_ofExcept Unchanging.refl _) fun _ => ?_
  refine Exec.moves_bind Unchanging.trans (acquire_unchanging _) fun _ => ?_
  refine Exec.moves_bind Unchanging.trans stopped fun _ => ?_
  refine Exec.moves_bind Unchanging.trans
    (Unchanging.of_reads DamonAdmin.configurationSnapshot_confined.retry.readsOnly) fun previous => ?_
  refine Exec.moves_bind Unchanging.trans ?_ fun observed => ?_
  · refine Exec.moves_bind Unchanging.trans (Exec.moves_attempt
      (Unchanging.of_reads DamonAdmin.configuration_confined.retry.readsOnly)) fun outcome => ?_
    cases outcome with
    | ok observed => exact Unchanging.refl
    | error error => exact Unchanging.of_reads (.ite (fun _ => .pure _) fun _ => .fail _)
  refine Exec.moves_bind Unchanging.trans (Unchanging.of_reads
    (requireOwned_confined previous.valuesMatchCurrent_confined.retry).readsOnly) fun _ => ?_
  exact Exec.moves_bind Unchanging.trans stopped fun _ => Unchanging.refl

/-- What the preparation of a call has found out. -/
theorem prepareStaging_ok (solitary : env.Solitary) {previous : ConfigurationSnapshot}
    {observed : Option DamonConfig}
    (run : damon.prepareStaging config env world = (.ok (previous, observed), start)) :
    start.sys = world.sys ∧ previous = ⟨[], world.sys.files.captured⟩ ∧
      world.sys.files.Readable ∧
      ∀ found, observed = some found → Shows DamonAdmin.configuration world.sys.files found := by
  have whole := prepareStaging_unchanging damon config env world solitary
  rw [run] at whole
  obtain ⟨_, _, ⟨⟩, rest⟩ := Exec.bind_eq_ok run
  obtain ⟨_, validated, validates, rest⟩ := Exec.bind_eq_ok rest
  obtain ⟨_, locked, locks, rest⟩ := Exec.bind_eq_ok rest
  obtain ⟨_, checked, checks, rest⟩ := Exec.bind_eq_ok rest
  obtain ⟨snapshot, captured, capture, rest⟩ := Exec.bind_eq_ok rest
  obtain ⟨reading, read, reads, rest⟩ := Exec.bind_eq_ok rest
  obtain ⟨_, _, _, rest⟩ := Exec.bind_eq_ok rest
  obtain ⟨_, _, _, last⟩ := Exec.bind_eq_ok rest
  cases last
  have first : validated.sys = world.sys := by
    cases valid : config.validate env.pageSize with
    | error error =>
        rw [valid] at validates
        cases validates
    | ok value =>
        rw [valid] at validates
        cases validates
        rfl
  have second := acquire_unchanging damon.lockPath env validated solitary
  rw [locks] at second
  have third := (ensureHierarchyStopped_reads.retry.readsOnly.looked solitary.still checks).sys
  have same : checked.sys = world.sys := third.trans (second.trans first)
  obtain ⟨made, readable⟩ := solitary.snapshot capture
  have fourth := (DamonAdmin.configurationSnapshot_confined.retry.readsOnly.looked solitary.still
    capture).sys
  rw [same] at made readable
  refine ⟨whole, made, readable, ?_⟩
  rintro found rfl
  obtain ⟨outcome, attempted, attempts, decided⟩ := Exec.bind_eq_ok reads
  rw [Exec.attempt_run] at attempts
  cases ran : retryBusy DamonAdmin.configuration env captured with
  | mk result ended =>
    rw [ran] at attempts
    cases attempts
    have shows : ∀ value, result = .ok value →
        Shows DamonAdmin.configuration world.sys.files value := by
      rintro value rfl
      rw [← same, ← fourth]
      exact solitary.shows_retry DamonAdmin.configuration_confined.readsOnly ran
    cases result with
    | ok value =>
        cases decided
        exact shows _ rfl
    | error error =>
        dsimp only at decided
        split at decided
        · cases decided
        · cases decided

/-- A verified staging reads back as requested. -/
theorem stageAndVerify_ok (solitary : env.Solitary) {observed : Option DamonConfig}
    {current : ConfigurationSnapshot} {after : World}
    (run : stageAndVerifyConfiguration config observed env start = (.ok current, after)) :
    ∃ found, Shows DamonAdmin.configuration after.sys.files found ∧
      config.equivalentAfterKernelNormalization found = true := by
  obtain ⟨_, staged, _, rest⟩ := Exec.bind_eq_ok run
  obtain ⟨_, checked, _, rest⟩ := Exec.bind_eq_ok rest
  obtain ⟨snapshot, captured, capture, rest⟩ := Exec.bind_eq_ok rest
  obtain ⟨found, read, reads, rest⟩ := Exec.bind_eq_ok rest
  obtain ⟨_, matched, matching, rest⟩ := Exec.bind_eq_ok rest
  obtain ⟨_, compared, comparison, rest⟩ := Exec.bind_eq_ok rest
  obtain ⟨_, last, stops, ended⟩ := Exec.bind_eq_ok rest
  cases ended
  have shows := solitary.shows_retry DamonAdmin.configuration_confined.readsOnly reads
  have still := solitary.still
  have first := (DamonAdmin.configuration_confined.retry.readsOnly.looked still reads).sys
  have second := ((requireEquivalent_confined config found).looked still matching).sys
  have third := ((requireOwned_confined
    current.valuesMatchCurrent_confined.retry).readsOnly.looked still comparison).sys
  have fourth := (ensureHierarchyStopped_reads.retry.readsOnly.looked still stops).sys
  refine ⟨found, ?_, ?_⟩
  · rwa [fourth, third, second, first]
  · rw [← DamonConfig.mismatchError_eq_none_iff]
    unfold requireEquivalent at matching
    cases different : config.mismatchError found with
    | none => rfl
    | some error =>
        rw [different] at matching
        cases matching

end Preparing

/-- A call that gets to its transaction, with the worlds between which the transaction runs and how
it ends. -/
def Transacts (damon : Damon) (config : DamonConfig) (env : Env) (world start : World)
    (result : Except Error ConfigurationSnapshot) (ended : World) : Prop :=
  ∃ previous observed, damon.prepareStaging config env world = (.ok (previous, observed), start) ∧
    observed.any config.equivalentAfterKernelNormalization = false ∧
      stageAndVerifyConfiguration config observed env start = (result, ended)

theorem transacts_iff {damon : Damon} {config : DamonConfig} {env : Env} {world start : World}
    {previous : ConfigurationSnapshot} {observed : Option DamonConfig}
    (prepares : damon.prepareStaging config env world = (.ok (previous, observed), start))
    (differs : observed.any config.equivalentAfterKernelNormalization = false) {first : World}
    {result : Except Error ConfigurationSnapshot} {ended : World} :
    damon.Transacts config env world first result ended ↔
      first = start ∧ stageAndVerifyConfiguration config observed env start = (result, ended) := by
  constructor
  · rintro ⟨_, _, also, -, run⟩
    rw [prepares] at also
    cases also
    exact ⟨rfl, run⟩
  · rintro ⟨rfl, run⟩
    exact ⟨previous, observed, prepares, differs, run⟩

/-- Staging that fails is undone. -/
theorem stageOrRestore_error {config : DamonConfig} {env : Env} {start ended : World}
    {source : Files} {observed : Option DamonConfig} {error : Error}
    (quiet : env.QuietSince env.kernel ended.clock) (starts : env.kernel.StartsStopped)
    (numbered : source.NumberedBy env.kernel) (readable : source.Readable)
    (stopped : source.Stopped) (staged : source.StagedFrom start.sys.files)
    (whole : source.RestoredWhole env.kernel ended.sys.files)
    (run : stageAndVerifyConfiguration config observed env start = (.error error, ended)) :
    ∃ after, stageOrRestore config observed ⟨[], source.captured⟩ env start =
        (.error error, after) ∧ source.Unchanged after.sys.files := by
  have reached := (stageAndVerifyConfiguration_stagesKdamonds config observed).stagedFrom
    quiet.solitary starts staged
  rw [run] at reached
  obtain ⟨after, restores, unchanged⟩ :=
    restoreConfiguration_quiet quiet starts numbered readable stopped reached whole
  refine ⟨after, ?_, unchanged⟩
  unfold stageOrRestore
  rw [Exec.bind_run, Exec.attempt_run, run]
  dsimp only
  rw [Exec.bind_run, Exec.attempt_run, restores]
  rfl

/-- Staging that fails makes the call fail. -/
theorem stageOrRestore_fails {config : DamonConfig} {env : Env} {start ended : World}
    {previous : ConfigurationSnapshot} {observed : Option DamonConfig} {error : Error}
    (run : stageAndVerifyConfiguration config observed env start = (.error error, ended)) :
    ∃ failure after, stageOrRestore config observed previous env start = (.error failure, after) := by
  unfold stageOrRestore
  rw [Exec.bind_run, Exec.attempt_run, run]
  dsimp only
  rw [Exec.bind_run, Exec.attempt_run]
  cases (restoreConfiguration previous env ended).1 with
  | ok done => exact ⟨_, _, rfl⟩
  | error failure => exact ⟨_, _, rfl⟩

end Damon

namespace OfflineFixture

/-- A stopped kdamond with one context and one scheme, for regions up to a size. -/
def attributes (largest : String) : List (Path × String × Bool) :=
  let scheme : List (Path × String) := [(["action"], "stat"),
    (["access_pattern", "sz", "min"], "0"), (["access_pattern", "sz", "max"], largest),
    (["access_pattern", "nr_accesses", "min"], "0"),
    (["access_pattern", "nr_accesses", "max"], "8"), (["access_pattern", "age", "min"], "0"),
    (["access_pattern", "age", "max"], "16"), (["quotas", "ms"], "10"), (["quotas", "bytes"], "0"),
    (["quotas", "reset_interval_ms"], "1000"), (["quotas", "weights", "sz_permil"], "0"),
    (["quotas", "weights", "nr_accesses_permil"], "0"), (["quotas", "weights", "age_permil"], "0"),
    (["watermarks", "metric"], "none"), (["watermarks", "interval_us"], "0"),
    (["watermarks", "high"], "0"), (["watermarks", "mid"], "0"), (["watermarks", "low"], "0")]
  (["kdamonds", "nr_kdamonds"], "1", true) :: Fixture.kdamond 0 "off" "-1"
    ((Fixture.context "5000" "100000" "0").dropLast ++ [(["schemes", "nr_schemes"], "1")] ++
      scheme.map fun (inner, value) => (["schemes", "0"] ++ inner, value))

/-- Each child is created with the attributes of the first. -/
def kernel : Kernel :=
  ⟨fun directory _ => (attributes "0").filterMap fun (path, value, writable) =>
    (stripPrefix? (directory ++ ["0"]) path).map fun inner => (inner, .ofWritten value, writable)⟩

def world : World := .initial (.settled (.ofAttributes (attributes "4096")))

/-- The same configuration, for regions up to another size. -/
def request (largest : UInt64) (ordered : 0 ≤ largest) : DamonConfig :=
  let scheme : SchemeConfig :=
    { SchemeConfig.new .stat ⟨⟨0, largest, ordered⟩, ⟨0, 8, by decide⟩, ⟨0, 16, by decide⟩⟩ with
      quota := { QuotaConfig.default with time := .ofMillis 10, resetInterval := .ofMillis 1000 } }
  ⟨[⟨⟨0⟩, [{ Fixture.contextConfig .default 0 with schemes := [scheme] }]⟩]⟩

def largest : Path :=
  ["kdamonds", "0", "contexts", "0", "schemes", "0", "access_pattern", "sz", "max"]

/-- Until a time the largest size is refused. -/
def refusing (value : String) (errno until_ : Nat) : Env :=
  { Fixture.calm with
    kernel := kernel
    fault := fun clock access =>
      if clock < until_ ∧ access = .write largest value then some ⟨.transfer, errno⟩ else none }

theorem solitary (value : String) (errno until_ : Nat) :
    (refusing value errno until_).Solitary := by
  refine ⟨fun _ _ => rfl, fun clock access reads => ?_⟩
  cases access with
  | write path value => exact reads.elim
  | _ => exact if_neg fun both => nomatch both.2

theorem startsStopped : kernel.StartsStopped := by
  have children : ∀ index, kernel.child ["kdamonds"] index = kernel.child ["kdamonds"] 0 :=
    fun _ => rfl
  constructor
  · intro index
    rw [children index]
    exact ⟨(["state"], .ofWritten "off", true), by decide +kernel, rfl⟩
  · intro index entry member state
    rw [children index] at member
    have all : ∀ entry ∈ kernel.child ["kdamonds"] 0, entry.1 = ["state"] →
        Text.trim entry.2.1.raw = "off" := by decide +kernel
    exact all entry member state

theorem stopped : world.sys.files.Stopped := by
  constructor
  · refine ⟨1, .ofWritten "1", by decide +kernel, rfl, by decide, fun index below => ?_⟩
    obtain rfl : index = 0 := by omega
    decide +kernel
  · have states : ∀ path ∈ world.sys.files.paths, path.length = 3 → path.getLast? = some "state" →
        (world.sys.files.get? path).all (fun file =>
          (Reply.content file.content).ShowsOff) = true := by
      decide +kernel
    intro index file found
    have shown := states (Path.stateOf index)
      (Files.mem_paths.mpr (Option.isSome_iff_exists.mpr ⟨file, found⟩)) rfl rfl
    rw [found, Option.all_some] at shown
    cases content : file.content with
    | text text =>
        rw [content] at shown
        exact ⟨text, rfl, of_decide_eq_true shown⟩
    | undecodable bytes =>
        rw [content] at shown
        cases shown

end OfflineFixture

end DamonRs
