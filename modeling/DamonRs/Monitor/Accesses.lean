import DamonRs.Monitor.Runtime
import DamonRs.Sysfs.Trace

/-!
# What the operations of a session access

Ownership checks only read, and of thread identifiers only those they compare.
Staging and rolling back write configuration only.
-/

namespace DamonRs

open Library Sysfs

/-! ## Checks of the configuration -/

theorem requireOwned_confined {allowed : Access → Prop} {reason : String}
    {comparison : Sysfs Bool} (confined : Confined allowed comparison) :
    Confined allowed (requireOwned reason comparison) :=
  .bind confined fun _ => .ite (fun _ => .pure ()) fun _ => .fail _

theorem requireEquivalent_confined {allowed : Access → Prop} (config observed : DamonConfig) :
    Confined allowed (requireEquivalent config observed) := by
  unfold requireEquivalent
  cases config.mismatchError observed with
  | some error => exact .fail error
  | none => exact .pure ()

theorem ensureHierarchyStopped_reads : Confined ReadsConfiguration ensureHierarchyStopped := by
  refine .bind DamonAdmin.kdamondCount_confined fun count => ?_
  refine .seq (.forEach _ fun index _ => ?_) (.bind DamonAdmin.kdamondCount_confined fun _ =>
    .ite (fun _ => .fail _) fun _ => .pure ())
  refine .bind (Kdamond.state_confined index) fun state => ?_
  cases state with
  | off => exact .pure ()
  | on => exact .fail _
  | unknown name => exact .fail _

namespace StagedOwnership

theorem verifyCount_reads (staged : StagedOwnership) :
    Confined ReadsConfiguration staged.verifyCount :=
  .bind DamonAdmin.kdamondCount_confined fun _ => .ite (fun _ => .fail _) fun _ => .pure ()

theorem verify_reads (staged : StagedOwnership) : Confined ReadsConfiguration staged.verify :=
  .seq staged.verifyCount_reads
    (requireOwned_confined (ConfigurationSnapshot.matchesCurrentExcept_confined _ _))

theorem verifyComplete_reads (staged : StagedOwnership) :
    Confined ReadsConfiguration staged.verifyComplete :=
  .seq staged.verifyCount_reads
    (requireOwned_confined (ConfigurationSnapshot.matchesCompleteCurrentExcept_confined _ _))

theorem verifyKdamondConfiguration_reads (staged : StagedOwnership) (index : Nat) :
    Confined ReadsConfiguration (staged.verifyKdamondConfiguration index) :=
  requireOwned_confined (ConfigurationSnapshot.matchesCurrentUnderExcept_confined _ _ _)

end StagedOwnership

/-! ## Checks of identities -/

theorem Kdamond.pid_confined {allowed : Access → Prop} {index : Nat}
    (permitted : allowed (.read (Path.pidOf index))) :
    Confined allowed (DamonAdmin.kdamond index).pid := by
  refine .bind (readI32_confined permitted) fun raw => .ite (fun _ => .pure none) fun _ => ?_
  cases Pid.new (UInt32.ofNat raw.toInt.toNat) with
  | ok pid => exact .pure _
  | error error => exact .fail _

/-- Accesses that read configuration, or the thread identifier of one kdamond. -/
def ChecksThread (index : Nat) (access : Access) : Prop :=
  ReadsConfiguration access ∨ access = .read (Path.pidOf index)

theorem ChecksThread.readsOnly {index : Nat} {access : Access}
    (checks : ChecksThread index access) : ReadsOnly access := by
  rcases checks with reads | rfl
  · exact reads.readsOnly
  · trivial

section Identities

variable {allowed : Access → Prop}

theorem Sysfs.Confined.checks {α : Type} {program : Sysfs α} {index : Nat}
    (confined : Confined ReadsConfiguration program) : Confined (ChecksThread index) program :=
  confined.mono fun _ => .inl

theorem Sysfs.Confined.readsOnly {α : Type} {program : Sysfs α}
    (confined : Confined ReadsConfiguration program) : Confined ReadsOnly program :=
  confined.mono fun _ => ReadsConfiguration.readsOnly

theorem Sysfs.Confined.stages {α : Type} {program : Sysfs α}
    (confined : Confined ReadsConfiguration program) : Confined StagesConfiguration program :=
  confined.mono fun _ => ReadsConfiguration.stages

theorem Sysfs.Confined.threadReadsOnly {α : Type} {program : Sysfs α} {index : Nat}
    (confined : Confined (ChecksThread index) program) : Confined ReadsOnly program :=
  confined.mono fun _ => ChecksThread.readsOnly

theorem runningThreadPid_checks (index : Nat) :
    Confined (ChecksThread index) (runningThreadPid (DamonAdmin.kdamond index)) := by
  refine .bind (Confined.checks (.retry (Kdamond.state_confined index))) fun state => ?_
  cases state with
  | off => exact .fail _
  | unknown name => exact .fail _
  | on =>
      refine .bind (.retry (Kdamond.pid_confined (.inr rfl))) fun found => ?_
      cases found with
      | some pid => exact .pure pid
      | none => exact .fail _

namespace ManagedHierarchy

theorem validateKdamondIndex_confined (index : Nat) :
    Confined allowed (validateKdamondIndex index) :=
  .bind .self fun _ => .ite (fun _ => .fail _) fun _ => .pure ()

theorem expectedRunningPid_confined (index : Nat) :
    Confined allowed (expectedRunningPid index) := by
  refine .seq (validateKdamondIndex_confined index) (.bind .self fun self => ?_)
  cases self.state index with
  | running pid => exact .pure pid
  | staged => exact .fail _
  | unidentifiedRunning => exact .fail _

theorem requireSamePid_confined (current expected : Pid) :
    Confined allowed (requireSamePid current expected) :=
  .ite (fun _ => .fail _) fun _ => .pure ()

theorem currentPid_checks (index : Nat) :
    Confined (ChecksThread index) (currentPid index) := by
  refine .bind (.retry (Kdamond.pid_confined (.inr rfl))) fun found => ?_
  cases found with
  | some pid => exact .pure pid
  | none => exact .fail _

theorem verifyManagedCount_reads : Confined ReadsConfiguration verifyManagedCount :=
  .bind DamonAdmin.kdamondCount_confined fun _ => .bind .self fun _ =>
    .ite (fun _ => .fail _) fun _ => .pure ()

theorem verifyRunningIdentityWithoutCount_checks (index : Nat) :
    Confined (ChecksThread index) (verifyRunningIdentityWithoutCount index) :=
  .bind (expectedRunningPid_confined index) fun _ => .bind (currentPid_checks index) fun _ =>
    requireSamePid_confined _ _

theorem verifyRunningIdentityOnly_checks (index : Nat) :
    Confined (ChecksThread index) (verifyRunningIdentityOnly index) :=
  .seq (validateKdamondIndex_confined index) (.seq (Confined.checks verifyManagedCount_reads)
    (verifyRunningIdentityWithoutCount_checks index))

theorem verifyRunningStateAndIdentityWithoutCount_checks (index : Nat) :
    Confined (ChecksThread index) (verifyRunningStateAndIdentityWithoutCount index) :=
  .bind (expectedRunningPid_confined index) fun _ => .bind (runningThreadPid_checks index) fun _ =>
    requireSamePid_confined _ _

theorem verifyStaged_reads : Confined ReadsConfiguration verifyStaged :=
  .bind .self fun self => self.staged.verify_reads

theorem verifyRunning_checks (index : Nat) :
    Confined (ChecksThread index) (verifyRunning index) :=
  .seq (validateKdamondIndex_confined index) (.seq (Confined.checks verifyStaged_reads)
    (verifyRunningStateAndIdentityWithoutCount_checks index))

theorem verifyRunningIdentity_checks (index : Nat) :
    Confined (ChecksThread index) (verifyRunningIdentity index) :=
  .seq (Confined.checks verifyStaged_reads) (verifyRunningIdentityOnly_checks index)

theorem requireStagedOff_reads (index : Nat) :
    Confined ReadsConfiguration (requireStagedOff index) := by
  refine .bind (.retry (Kdamond.state_confined index)) fun state => ?_
  cases state with
  | off => exact .pure ()
  | on => exact .fail _
  | unknown name => exact .fail _

theorem verifyOwnedKdamond_checks (index : Nat) :
    Confined (ChecksThread index) (verifyOwnedKdamond index) := by
  refine .bind .self fun self => ?_
  cases self.state index with
  | staged => exact Confined.checks (requireStagedOff_reads index)
  | running pid => exact verifyRunningStateAndIdentityWithoutCount_checks index
  | unidentifiedRunning => exact .fail _

theorem verifyOwnedState_readsOnly : Confined ReadsOnly verifyOwnedState := by
  refine .bind .self fun self => .ite (fun _ => .fail _) fun _ => ?_
  exact .seq (Confined.readsOnly self.staged.verify_reads)
    (.forEach _ fun index _ => Confined.threadReadsOnly (verifyOwnedKdamond_checks index))

theorem verifyOwnedIdentity_checks (index : Nat) :
    Confined (ChecksThread index) (verifyOwnedIdentity index) := by
  refine .bind .self fun self => ?_
  cases self.state index with
  | staged =>
      refine .bind (Confined.checks (.retry (Kdamond.state_confined index))) fun state => ?_
      cases state with
      | off => exact .pure ()
      | on => exact .fail _
      | unknown name => exact .fail _
  | running pid => exact verifyRunningIdentityWithoutCount_checks index
  | unidentifiedRunning => exact .fail _

theorem verifyOwnedIdentitiesOnly_readsOnly : Confined ReadsOnly verifyOwnedIdentitiesOnly :=
  .seq (Confined.readsOnly verifyManagedCount_reads) (.bind .self fun _ =>
    .forEach _ fun index _ => Confined.threadReadsOnly (verifyOwnedIdentity_checks index))

theorem requireUnchanged_reads (snapshot : ConfigurationSnapshot) (reason : String) :
    Confined ReadsConfiguration (requireUnchanged snapshot reason) :=
  .bind .self fun _ => requireOwned_confined (.retry (snapshot.matchesCurrentExcept_confined _))

theorem verifyRollbackBoundary_reads (snapshot : ConfigurationSnapshot) (writes : List Path) :
    Confined ReadsConfiguration (verifyRollbackBoundary snapshot writes) :=
  .bind .self fun _ => requireOwned_confined (.retry (snapshot.matchesCurrentExcept_confined _))

theorem configuration_readsOnly : Confined ReadsOnly configuration :=
  .seq verifyOwnedState_readsOnly (.bind
    (Confined.readsOnly (.retry DamonAdmin.configuration_confined)) fun _ =>
      .seq verifyOwnedState_readsOnly (.pure _))

theorem observedConfiguration_readsOnly : Confined ReadsOnly observedConfiguration := by
  refine .seq verifyOwnedState_readsOnly (.bind (Confined.readsOnly (.retry ?_)) fun _ =>
    .seq verifyOwnedState_readsOnly (.pure _))
  refine .bind DamonAdmin.configurationSnapshot_confined fun snapshot => ?_
  exact .bind DamonAdmin.configuration_confined fun _ =>
    .bind (snapshot.matchesCompleteCurrentExcept_confined []) fun _ =>
      .ite (fun _ => .pure _) fun _ => .fail _

end ManagedHierarchy

end Identities

/-! ## Commands -/

/-- Accesses that read anything or send one command to one kdamond. -/
def SendsOnly (command : KdamondCommand) (index : Nat) : Access → Prop
  | .write path value => path = Path.stateOf index ∧ value = command.kernelName
  | _ => True

theorem ReadsOnly.sendsOnly {command : KdamondCommand} {index : Nat} {access : Access}
    (reads : ReadsOnly access) : SendsOnly command index access := by
  cases access with
  | write path value => exact reads.elim
  | _ => trivial

/-- A command other than `off` stops nothing. -/
theorem SendsOnly.noStop {command : KdamondCommand} {index : Nat} {access : Access}
    (other : command.kernelName ≠ "off") (sends : SendsOnly command index access) :
    NoStop access := by
  cases access with
  | write path value =>
      obtain ⟨_, rfl⟩ := sends
      exact fun stop => absurd stop other
  | _ => trivial

theorem Kdamond.command_confined {allowed : Access → Prop} (index : Nat)
    (command : KdamondCommand)
    (permitted : allowed (.write (Path.stateOf index) command.kernelName)) :
    Confined allowed ((DamonAdmin.kdamond index).command command) :=
  .seq (.ofExcept _) (.write _ _ permitted)

/-! ## Affected paths -/

/-- What a search finds is there. -/
theorem mem_of_containsPath {paths : List Path} {path : Path}
    (found : containsPath paths path = true) : path ∈ paths := by
  simpa using binarySearchByKey_mem paths id path found

theorem containsPath_iff {paths : List Path} (strict : paths.Pairwise (· < ·)) (path : Path) :
    containsPath paths path = true ↔ path ∈ paths := by
  have sorted : (paths.map id).Pairwise (· < ·) := by rwa [List.map_id]
  simpa [containsPath] using binarySearchByKey_found_iff paths id path sorted

@[simp] theorem containsPath_sortDedup (paths : List Path) (path : Path) :
    containsPath (sortDedup paths) path = true ↔ path ∈ paths :=
  (containsPath_iff (sortDedup_strict paths) path).trans (mem_sortDedup paths path)

@[simp] theorem ConfigurationSnapshot.containsPath_affected (snapshot : ConfigurationSnapshot)
    (writes : List Path) (path : Path) :
    containsPath (snapshot.pathsAffectedByWrites writes) path = true ↔
      path ∈ snapshot.pathsAffectedByWrites writes :=
  containsPath_iff (sortDedup_strict _) path

/-! ## Restoring a captured configuration -/

/-- A snapshot of configuration below the admin root. -/
structure ConfigurationSnapshot.Captured (snapshot : ConfigurationSnapshot) : Prop where
  root : snapshot.root = []
  entries : ∀ entry ∈ snapshot.entries, Path.isRuntimeAttribute entry.path = false

theorem ConfigurationSnapshot.restorationOrder_mem {snapshot : ConfigurationSnapshot}
    {entries : List ConfigurationEntry} {entry : ConfigurationEntry} :
    entry ∈ snapshot.restorationOrder entries ↔ entry ∈ entries :=
  (List.perm_insertionSort _ entries).mem_iff

theorem captureConfiguration_returns {root : Path} {fingerprint : ConfigurationFingerprint}
    (returns : Exec.Returns (captureConfiguration root) fingerprint) :
    ∀ entry ∈ fingerprint.entries, ConfigurationBelow root entry.path := by
  obtain ⟨paths, found, rest⟩ := Exec.returns_bind returns
  obtain ⟨entries, read, last⟩ := Exec.returns_bind rest
  rw [Exec.returns_pure last]
  intro entry member
  obtain ⟨path, pathMember, readPath⟩ := Exec.returns_mapEach read entry member
  obtain ⟨value, _, made⟩ := Exec.returns_bind readPath
  rw [Exec.returns_pure made]
  exact writableConfigurationFiles_returns found path pathMember

theorem DamonAdmin.configurationSnapshot_returns {snapshot : ConfigurationSnapshot}
    (returns : Exec.Returns DamonAdmin.configurationSnapshot snapshot) : snapshot.Captured := by
  obtain ⟨fingerprint, captured, last⟩ := Exec.returns_bind returns
  rw [Exec.returns_pure last]
  refine ⟨rfl, fun entry member => ?_⟩
  obtain ⟨name, rest, same, configuration⟩ := captureConfiguration_returns captured entry member
  rw [same]
  exact configuration

section Restoring

variable {allowed : Access → Prop} (compares : ∀ path, allowed (.compare path))
include compares

theorem restoreEntry_confined {ignored : List Path} {entry : ConfigurationEntry}
    (write : allowed (.write entry.path entry.value)) :
    Confined allowed (restoreEntry ignored entry) :=
  .ite (fun _ => .pure ()) fun _ => .ite (fun _ => .write _ _ write) fun _ =>
    .bind (readConfigurationValueEquals_confined (compares _) _) fun _ =>
      .ite (fun _ => .pure ()) fun _ => .write _ _ write

variable {snapshot : ConfigurationSnapshot}
  (writes : ∀ entry ∈ snapshot.entries, allowed (.write entry.path entry.value))
include writes

theorem restore_confined : Confined allowed snapshot.restore := by
  refine .seq (.forEach _ fun entry member => restoreEntry_confined compares
    (writes entry (ConfigurationSnapshot.restorationOrder_mem.mp member))) ?_
  exact .bind (entriesMatch_confined compares _ _) fun _ =>
    .ite (fun _ => .pure ()) fun _ => .fail _

/-- Restoring a hierarchy reads configuration and writes captured entries. -/
theorem restoreConfiguration_confined
    (reads : ∀ access, ReadsConfiguration access → allowed access) :
    Confined allowed (restoreConfiguration snapshot) := by
  have stopped : Confined allowed (retryBusy ensureHierarchyStopped) :=
    (ensureHierarchyStopped_reads.mono reads).retry
  refine .seq stopped (.seq (.retry (.seq (ensureHierarchyStopped_reads.mono reads)
    (restore_confined compares writes))) (.seq stopped (requireOwned_confined (.retry ?_))))
  exact snapshot.matchesCurrent_confined.mono reads

end Restoring

theorem restorePathsExcept_confined {allowed : Access → Prop}
    (compares : ∀ path, allowed (.compare path)) {snapshot : ConfigurationSnapshot}
    {paths : List Path}
    (writes : ∀ entry ∈ snapshot.entries, containsPath paths entry.path = true →
      allowed (.write entry.path entry.value)) (ignored : List Path) :
    Confined allowed (snapshot.restorePathsExcept paths ignored) := by
  refine .seq (.forEach _ fun entry member => restoreEntry_confined compares ?_) ?_
  · obtain ⟨captured, chosen⟩ := List.mem_filter.mp
      (ConfigurationSnapshot.restorationOrder_mem.mp member)
    exact writes entry captured chosen
  · exact .bind (entriesMatch_confined compares _ _) fun _ =>
      .ite (fun _ => .pure ()) fun _ => .fail _

/-- Undoing a transaction writes captured entries that it may have changed. -/
theorem ManagedHierarchy.restoreWritten_confined {allowed : Access → Prop}
    (compares : ∀ path, allowed (.compare path)) {snapshot : ConfigurationSnapshot}
    {written : List Path}
    (writes : ∀ entry ∈ snapshot.entries, entry.path ∈ snapshot.pathsAffectedByWrites written →
      allowed (.write entry.path entry.value)) :
    Confined allowed (ManagedHierarchy.restoreWritten snapshot written) :=
  .bind .self fun _ => .retry (restorePathsExcept_confined compares
    (fun entry captured chosen => writes entry captured
      ((snapshot.containsPath_affected written entry.path).mp chosen)) _)

/-! ## Staging and refreshing -/

theorem Sysfs.Confined.writesConfiguration {α : Type} {program : Sysfs α}
    (confined : Confined ReadsOnly program) : Confined WritesConfiguration program :=
  confined.mono fun _ => ReadsOnly.writesConfiguration

theorem Sysfs.Confined.writes {α : Type} {program : Sysfs α}
    (confined : Confined StagesConfiguration program) : Confined WritesConfiguration program :=
  confined.mono fun _ => StagesConfiguration.writesConfiguration

theorem refreshedPathsExcept_confined {snapshot : ConfigurationSnapshot} {paths ignored : List Path}
    (configuration : ∀ path ∈ paths, path.isIdentity = false) :
    Confined ReadsConfiguration (snapshot.refreshedPathsExcept paths ignored) := by
  refine .map (.bind (.foldEach _ _ fun fingerprint path member => ?_) fun refreshed => ?_)
  · unfold ConfigurationFingerprint.refreshPath
    cases binarySearchByKey fingerprint.entries ConfigurationEntry.path path with
    | missing position => exact .fail _
    | found index => exact (readConfigurationValue_confined (configuration path member)).map
  · exact .bind (entriesMatch_confined (fun _ => trivial) _ _) fun _ =>
      .ite (fun _ => .pure _) fun _ => .fail _

theorem stageAndVerifyConfiguration_stages (config : DamonConfig)
    (observed : Option DamonConfig) :
    Confined StagesConfiguration (stageAndVerifyConfiguration config observed) := by
  refine .seq (.retry (.seq ensureHierarchyStopped_reads.stages
    (DamonAdmin.stageConfigurationFrom_stages config observed))) ?_
  refine .seq (.retry ensureHierarchyStopped_reads.stages) (Confined.stages ?_)
  refine .bind (.retry DamonAdmin.configurationSnapshot_confined) fun staged => ?_
  refine .bind (.retry DamonAdmin.configuration_confined) fun _ => ?_
  refine .seq (requireEquivalent_confined _ _) (.seq (requireOwned_confined
    (.retry staged.valuesMatchCurrent_confined)) ?_)
  exact .seq (.retry ensureHierarchyStopped_reads) (.pure staged)

theorem restoreConfiguration_stages {snapshot : ConfigurationSnapshot}
    (captured : snapshot.Captured) :
    Confined StagesConfiguration (restoreConfiguration snapshot) :=
  restoreConfiguration_confined (fun _ => trivial) captured.entries
    fun _ => ReadsConfiguration.stages

namespace ManagedHierarchy

theorem stageRunning_writes (config : DamonConfig) (observed : Option DamonConfig) :
    Confined WritesConfiguration (stageRunning config observed) :=
  .seq (.retry (.seq verifyOwnedIdentitiesOnly_readsOnly.writesConfiguration
    (DamonAdmin.stageConfigurationFrom_stages config observed).writes))
    verifyOwnedIdentitiesOnly_readsOnly.writesConfiguration

theorem verifyStagedRunning_readsOnly (config : DamonConfig) (observed : Option DamonConfig)
    (reason : String) : Confined ReadsOnly (verifyStagedRunning config observed reason) := by
  refine .bind (Confined.readsOnly (.retry DamonAdmin.configurationSnapshot_confined))
    fun snapshot => ?_
  refine .bind (Confined.readsOnly (.retry DamonAdmin.configuration_confined)) fun _ => ?_
  refine .bind (.ofExcept _) fun _ => .seq (requireEquivalent_confined _ _) ?_
  refine .seq (requireOwned_confined (Confined.readsOnly
    (.retry snapshot.valuesMatchCurrent_confined))) ?_
  exact .seq verifyOwnedIdentitiesOnly_readsOnly (.pure snapshot)

theorem recordOwnership_reads (snapshot : ConfigurationSnapshot) (config : DamonConfig) :
    Confined ReadsConfiguration (recordOwnership snapshot config) :=
  .seq (StagedOwnership.verify_reads _) (.pure _)

theorem restoreWritten_stages {snapshot : ConfigurationSnapshot} (captured : snapshot.Captured)
    (writes : List Path) : Confined StagesConfiguration (restoreWritten snapshot writes) :=
  restoreWritten_confined (fun _ => trivial) fun entry member _ => captured.entries entry member

theorem scheme_reads (kdamondIndex contextIndex schemeIndex : Nat) :
    Confined ReadsConfiguration (scheme kdamondIndex contextIndex schemeIndex) := by
  refine .seq (validateKdamondIndex_confined kdamondIndex) (.bind
    (Kdamond.contextCount_confined (readsConfiguration_below kdamondIndex)) fun _ => ?_)
  refine .ite (fun _ => .fail _) fun _ => .bind (readUsize_confined rfl) fun _ => ?_
  exact .ite (fun _ => .fail _) fun _ => .pure _

theorem scheme_returns {kdamondIndex contextIndex schemeIndex : Nat} {found : Scheme}
    (returns : Exec.Returns (scheme kdamondIndex contextIndex schemeIndex) found) :
    found = ((DamonAdmin.kdamond kdamondIndex).context contextIndex).scheme schemeIndex := by
  obtain ⟨_, _, returns⟩ := Exec.returns_bind returns
  obtain ⟨contextCount, _, returns⟩ := Exec.returns_bind returns
  by_cases large : contextIndex ≥ contextCount
  · rw [if_pos large] at returns
    obtain ⟨_, _, _, run⟩ := returns
    cases run
  · rw [if_neg large] at returns
    obtain ⟨schemeCount, _, returns⟩ := Exec.returns_bind returns
    by_cases many : schemeIndex ≥ schemeCount
    · rw [if_pos many] at returns
      obtain ⟨_, _, _, run⟩ := returns
      cases run
    · rw [if_neg many] at returns
      exact Exec.returns_pure returns

/-- The quotas of a scheme lie below the contexts of its kdamond. -/
theorem schemeQuotas_below (kdamondIndex contextIndex schemeIndex : Nat) :
    ReadsBelow ReadsConfiguration
      (((DamonAdmin.kdamond kdamondIndex).context contextIndex).scheme schemeIndex).quotas.path := by
  intro name rest
  rfl

theorem setPaused_stages (i j : Nat) (paused : Bool) :
    Confined StagesConfiguration (((kdamond i).context j).setPaused paused) := by
  have regions : ∀ index, "tried_regions" ≠ Path.indexName index := Path.indexName_ne rfl
  have stats : ∀ index, Path.indexName index ≠ "stats" := fun index =>
    (Path.indexName_ne rfl index).symm
  refine writeBool_confined paused fun text => ?_
  show Path.isRuntimeAttribute (((kdamond i).context j).path ++ ["pause"]) = false
  refine Path.isRuntimeAttribute_append (by simp) ?_ ?_ rfl
  · simp [kdamond, Kdamond.context, DamonAdmin.kdamond, regions]
  · simp [kdamond, Kdamond.context, DamonAdmin.kdamond, stats]

theorem refreshPaused_reads (snapshot : ConfigurationSnapshot) (i j : Nat)
    (ignored : List Path) :
    Confined ReadsConfiguration
      (snapshot.refreshedPathsExcept [((kdamond i).context j).path ++ ["pause"]] ignored) :=
  refreshedPathsExcept_confined fun path member => by
    rw [List.mem_singleton.mp member]
    rfl

theorem unchangedOutsideGoals_reads (quotas : SchemeQuotas)
    (goals observed : List QuotaGoalConfig) :
    Confined ReadsConfiguration (unchangedOutsideGoals quotas goals observed) :=
  .bind .self fun _ => .ite
    (fun _ => ConfigurationSnapshot.matchesCurrentExcept_confined _ _)
    fun _ => ConfigurationSnapshot.matchesCurrentOutsideExcept_confined _ _ _

end ManagedHierarchy

/-! ## Receipts and the session lock -/

theorem currentBootId_accesses {allowed : Access → Prop}
    (inspects : ∀ path, allowed (.inspect path)) : Accesses allowed currentBootId := by
  refine Accesses.bind (Confined.environment.accesses inspects) fun env => ?_
  refine (Accesses.perform (inspects _)).bind fun reply => ?_
  have validated : Accesses allowed (do
      let value := Text.trim env.bootId
      Exec.ofExcept (Receipt.validateBootId value)
      pure value) :=
    Confined.accesses (.seq (.ofExcept _) (.pure _)) inspects
  cases reply with
  | failed fault => exact .fail _
  | done => exact validated
  | content content => exact validated

theorem SessionLock.acquire_accesses {allowed : Access → Prop}
    (inspects : ∀ path, allowed (.inspect path)) (lockPath : PathBuf) :
    Accesses allowed (SessionLock.acquire lockPath) := by
  refine Accesses.bind (Confined.environment.accesses inspects) fun env => ?_
  refine Accesses.bind (fun _ world => .refl world) fun world => ?_
  refine (Accesses.perform (inspects _)).bind fun reply => ?_
  have decided : Accesses allowed
      (if env.lockHeld world.clock then Exec.fail (.sessionLockBusy lockPath.toPath)
        else pure () : Sysfs Unit) :=
    Confined.accesses (.ite (fun _ => .fail _) fun _ => .pure ()) inspects
  cases reply with
  | failed fault => exact Confined.accesses (.ite (fun _ => .fail _) fun _ => .fail _) inspects
  | done => exact decided
  | content content => exact decided

theorem verifyBinding_accesses {allowed : Access → Prop}
    (inspects : ∀ path, allowed (.inspect path)) (receipt : PersistentReceipt) (damon : Damon) :
    Accesses allowed (receipt.verifyBinding damon) := by
  unfold PersistentReceipt.verifyBinding
  split
  · exact .fail _
  · split
    · exact .fail _
    · exact (currentBootId_accesses inspects).bind fun bootId =>
        Confined.accesses (.ite (fun _ => .fail _) fun _ => .pure ()) inspects

/-! ## Runtime results -/

section Runtime

variable {allowed : Access → Prop}

theorem Scheme.stats_confined (reads : ∀ path, allowed (.read path)) (scheme : Scheme) :
    Confined allowed scheme.stats := by
  have number : ∀ path, Confined allowed (readU64 path) := fun path =>
    readU64_confined (reads path)
  refine .bind (number _) fun _ => .bind (number _) fun _ => .bind (number _) fun _ => ?_
  refine .bind (number _) fun _ => .bind (optionalRead_confined (number _)) fun _ => ?_
  refine .bind (number _) fun _ => .bind (optionalRead_confined (number _)) fun _ => ?_
  exact (optionalRead_confined (number _)).map

theorem numericDirectoryIndices_confined (path : Path) :
    Confined allowed (numericDirectoryIndices path) := by
  refine .bind (readDir_confined path) fun outcome => ?_
  cases outcome with
  | error fault => exact .ite (fun _ => .pure _) fun _ => .fail _
  | ok entries => exact .pure _

theorem Scheme.readRegionProbes_confined (reads : ∀ path, allowed (.read path)) (region : Path) :
    Confined allowed (Scheme.readRegionProbes region) := by
  refine .bind (pathIsDir_confined _) fun _ => .ite (fun _ => ?_) fun _ => .pure _
  refine .bind (numericDirectoryIndices_confined _) fun indices => ?_
  refine (Confined.mapEach _ fun index _ => ?_).map
  exact (optionalRead_confined (.bind (readU64_confined (reads _)) fun _ =>
    .ite (fun _ => .pure _) fun _ => .fail _)).map

theorem Scheme.triedRegions_confined (reads : ∀ path, allowed (.read path)) (scheme : Scheme) :
    Confined allowed scheme.triedRegions := by
  have number : ∀ path, Confined allowed (readU64 path) := fun path =>
    readU64_confined (reads path)
  have small : ∀ path, Confined allowed (readU32 path) := fun path =>
    readU32_confined (reads path)
  refine .bind (optionalRead_confined (number _)) fun _ => ?_
  refine .bind (numericDirectoryIndices_confined _) fun indices => ?_
  refine (Confined.foldEach _ _ fun total index _ => .bind ?_ fun _ => ?_).map
  · refine .bind (number _) fun _ => .bind (number _) fun _ => .bind (small _) fun _ => ?_
    refine .bind (small _) fun _ => .bind (optionalRead_confined (number _)) fun _ => ?_
    exact .bind (Scheme.readRegionProbes_confined reads _) fun _ => .ofExcept _
  · exact .ite (fun _ => .pure _) fun _ => .fail _

end Runtime

/-- The command that a runtime operation issues. -/
def RuntimeRead.command : RuntimeRead → KdamondCommand
  | .schemeStats _ _ _ => .updateSchemesStats
  | .triedRegions _ _ _ => .updateSchemesTriedRegions
  | .triedBytesUnits _ _ _ => .updateSchemesTriedBytes
  | .effectiveQuotaUnits _ _ _ => .updateSchemesEffectiveQuotas
  | .updateTunedIntervals => .updateTunedIntervals
  | .clearTriedRegions => .clearSchemesTriedRegions

theorem RuntimeRead.command_ne_off (read : RuntimeRead) : read.command.kernelName ≠ "off" := by
  cases read <;> simp [RuntimeRead.command, KdamondCommand.kernelName]

namespace ManagedHierarchy

theorem verifyIdentityInBatch_checks (index : Nat) :
    Confined (ChecksThread index) (verifyIdentityInBatch index) :=
  .seq verifyManagedCount_reads.checks (verifyRunningIdentityWithoutCount_checks index)

theorem issueCommand_sends (index : Nat) (command : KdamondCommand) :
    Confined (SendsOnly command index) (issueCommand index command) :=
  .seq ((verifyIdentityInBatch_checks index).threadReadsOnly.mono fun _ => ReadsOnly.sendsOnly)
    (.retry (Kdamond.command_confined index command ⟨rfl, rfl⟩))

theorem readScheme_sends {α : Type} {index context scheme : Nat} {refresh : Bool}
    {command : KdamondCommand} {read : Scheme → Sysfs α}
    (reads : ∀ scheme, Confined (SendsOnly command index) (read scheme)) :
    Confined (SendsOnly command index)
      (readScheme index context scheme refresh command read) := by
  have sends : ∀ access, ReadsOnly access → SendsOnly command index access :=
    fun _ => ReadsOnly.sendsOnly
  refine .bind ((scheme_reads index context scheme).readsOnly.mono sends) fun found => ?_
  refine .seq (stageWhen_confined fun _ => issueCommand_sends index command) ?_
  exact .bind (reads found) fun _ =>
    .seq ((verifyIdentityInBatch_checks index).threadReadsOnly.mono sends) (.pure _)

/-- A runtime operation sends at most its own command. -/
theorem runtimeRead_sends (index : Nat) (read : RuntimeRead) :
    Confined (SendsOnly read.command index) (runtimeRead index read) := by
  have checks : ∀ command, Confined (SendsOnly command index) (verifyIdentityInBatch index) :=
    fun command => (verifyIdentityInBatch_checks index).threadReadsOnly.mono
      fun _ => ReadsOnly.sendsOnly
  cases read with
  | schemeStats context scheme refresh =>
      exact (readScheme_sends fun scheme => Scheme.stats_confined (fun _ => trivial) scheme).map
  | triedRegions context scheme refresh =>
      exact (readScheme_sends fun scheme => Scheme.triedRegions_confined (fun _ => trivial) scheme).map
  | triedBytesUnits context scheme refresh =>
      exact (readScheme_sends fun scheme => readU64_confined trivial).map
  | effectiveQuotaUnits context scheme refresh =>
      exact (readScheme_sends fun scheme => readU64_confined trivial).map
  | updateTunedIntervals => exact .seq (issueCommand_sends index _) (.seq (checks _) (.pure _))
  | clearTriedRegions => exact .seq (issueCommand_sends index _) (.seq (checks _) (.pure _))

end ManagedHierarchy

end DamonRs
