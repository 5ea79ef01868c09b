import DamonRs.Monitor.Accesses

/-!
# Transactions on running kdamonds

The two calls that change running kdamonds prepare a transaction, which holds
the state to roll back to, and then run it.  The preparation only reads; the
forward part stages configuration and sends its own kind of commit.
-/

namespace DamonRs

open Library Sysfs

namespace ManagedHierarchy

/-! ## Preparation -/

/-- A forward part, the rollback of what it wrote, and the state before it. -/
structure Transaction where
  previous : ConfigurationSnapshot
  forward : Sysfs StagedOwnership
  rollback : List Path → Sysfs StagedOwnership

def Transaction.run (transaction : Transaction) : Sysfs Unit :=
  transact transaction.forward transaction.rollback

/-- What an update has found out before it stages anything. -/
structure PreparedUpdate where
  previousSnapshot : ConfigurationSnapshot
  previous : DamonConfig
  effective : DamonConfig
  selected : List Nat

def PreparedUpdate.transaction (prepared : PreparedUpdate) : Transaction where
  previous := prepared.previousSnapshot
  forward := stageAndCommitRunning prepared.effective (some prepared.previous) prepared.selected
  rollback := fun writes =>
    restoreAndCommitRunning prepared.previousSnapshot prepared.previous prepared.selected writes

/-- The state before an update. -/
structure CapturedUpdate where
  previousSnapshot : ConfigurationSnapshot
  previous : DamonConfig
  selected : List Nat

/-- Capture the state before an update, up to the last ownership check. -/
def captureUpdate (config : DamonConfig) (indices : List Nat) : Sysfs CapturedUpdate := do
  let env ← environment
  Exec.ofExcept (config.validateRunningUpdate env.pageSize)
  let self ← getSelf
  let selected ← Exec.ofExcept
    (validateSelectedIndices indices self.states.length config.kdamonds.length)
  Exec.ofExcept
    (requireField (!selected.isEmpty) "selected kdamond indexes" "must contain at least one index")
  Exec.forEach (fun index => do let _ ← expectedRunningPid index) selected
  verifyOwnedState
  let previousSnapshot ← retryBusy DamonAdmin.configurationSnapshot
  let previous ← retryBusy DamonAdmin.configuration
  requireUnchanged previousSnapshot
    "the running DAMON hierarchy changed while its rollback state was captured"
  pure ⟨previousSnapshot, previous, selected⟩

/-- The update of a captured state: kdamonds that are not selected keep their configuration. -/
def CapturedUpdate.plan (captured : CapturedUpdate) (config : DamonConfig) :
    Except Error PreparedUpdate := do
  let comparablePrevious ←
    normalizeRunningTunedIntervals config (some captured.previous) captured.previous
  let kdamonds ← effectiveKdamonds captured.selected 0 config.kdamonds captured.previous.kdamonds
    comparablePrevious.kdamonds
  validateObsoleteTargetUpdates captured.previous ⟨kdamonds⟩
  pure ⟨captured.previousSnapshot, captured.previous, ⟨kdamonds⟩, captured.selected⟩

def prepareUpdate (config : DamonConfig) (indices : List Nat) : Sysfs PreparedUpdate := do
  let captured ← captureUpdate config indices
  verifyOwnedState
  Exec.ofExcept (captured.plan config)

theorem updateConfiguration_eq (config : DamonConfig) (indices : List Nat) :
    updateConfiguration config indices =
      prepareUpdate config indices >>= fun prepared => prepared.transaction.run := by
  simp only [updateConfiguration, prepareUpdate, captureUpdate, CapturedUpdate.plan,
    Exec.bind_assoc, Exec.pure_bind, Exec.ofExcept_bind]
  rfl

/-- What a quota-goal update has found out before it stages anything. -/
structure PreparedGoals where
  previousSnapshot : ConfigurationSnapshot
  quotas : SchemeQuotas
  goals : List QuotaGoalConfig
  observed : List QuotaGoalConfig
  index : Nat

def PreparedGoals.transaction (prepared : PreparedGoals) : Transaction where
  previous := prepared.previousSnapshot
  forward := stageAndCommitQuotaGoals prepared.quotas prepared.goals prepared.observed
    prepared.index
  rollback := fun writes =>
    restoreAndCommitQuotaGoals prepared.previousSnapshot prepared.index writes

def prepareQuotaGoals (kdamondIndex contextIndex schemeIndex : Nat)
    (goals : List QuotaGoalConfig) : Sysfs PreparedGoals := do
  validateKdamondIndex kdamondIndex
  Exec.ofExcept (SchemeQuotas.validateGoals goals)
  let _ ← expectedRunningPid kdamondIndex
  verifyOwnedState
  let previousSnapshot ← retryBusy DamonAdmin.configurationSnapshot
  let scheme ← scheme kdamondIndex contextIndex schemeIndex
  let quotas := scheme.quotas
  let quota ← retryBusy quotas.configuration
  requireUnchanged previousSnapshot
    "the running DAMON hierarchy changed while its rollback state was captured"
  verifyOwnedState
  Exec.ofExcept (QuotaConfig.validate { quota with goals := goals })
  pure ⟨previousSnapshot, quotas, goals, quota.goals, kdamondIndex⟩

/-- Goals that are already staged need no transaction. -/
theorem updateSchemeQuotaGoals_eq (kdamondIndex contextIndex schemeIndex : Nat)
    (goals : List QuotaGoalConfig) :
    updateSchemeQuotaGoals kdamondIndex contextIndex schemeIndex goals =
      prepareQuotaGoals kdamondIndex contextIndex schemeIndex goals >>= fun prepared =>
        if goals = prepared.observed then pure () else prepared.transaction.run := by
  simp only [updateSchemeQuotaGoals, prepareQuotaGoals, Exec.bind_assoc, Exec.pure_bind]
  rfl

/-! ## Accesses -/

section Accesses

variable {allowed : Access → Prop} (reads : ∀ access, ReadsOnly access → allowed access)
include reads

theorem commandIdentified_confined {command : KdamondCommand} {index : Nat}
    (sends : allowed (.write (Path.stateOf index) command.kernelName)) :
    Confined allowed (commandIdentified command index) := by
  have verifies : Confined allowed (verifyRunningIdentityOnly index) :=
    (verifyRunningIdentityOnly_checks index).threadReadsOnly.mono reads
  exact .seq verifies (.seq (.retry (Kdamond.command_confined index command sends)) verifies)

theorem stageRunning_confined {config : DamonConfig} {observed : Option DamonConfig}
    (stages : Confined allowed (DamonAdmin.stageConfigurationFrom config observed)) :
    Confined allowed (stageRunning config observed) := by
  have verifies := verifyOwnedIdentitiesOnly_readsOnly.mono reads
  exact .seq (.retry (.seq verifies stages)) verifies

/-- The forward part of an update stages twice at most and commits the selected kdamonds. -/
theorem stageAndCommitRunning_confined {config : DamonConfig} {observed : Option DamonConfig}
    {selected : List Nat}
    (stages : Confined allowed (DamonAdmin.stageConfigurationFrom config observed))
    (cleans : Confined allowed (DamonAdmin.stageConfigurationFrom
      (withoutObsoleteTargets config selected) (some config)))
    (commits : ∀ index ∈ selected,
      allowed (.write (Path.stateOf index) KdamondCommand.commit.kernelName)) :
    Confined allowed (stageAndCommitRunning config observed selected) := by
  have records : ∀ snapshot config, Confined allowed (recordOwnership snapshot config) :=
    fun snapshot config => (recordOwnership_reads snapshot config).readsOnly.mono reads
  have verifies : ∀ config observed reason,
      Confined allowed (verifyStagedRunning config observed reason) :=
    fun config observed reason => (verifyStagedRunning_readsOnly config observed reason).mono reads
  refine .seq (verifyOwnedIdentitiesOnly_readsOnly.mono reads) ?_
  refine .seq (stageRunning_confined reads stages) (.bind (verifies _ _ _) fun snapshot => ?_)
  refine .seq (.forEach _ fun index member =>
    commandIdentified_confined reads (commits index member)) (.ite (fun _ => ?_) fun _ => ?_)
  · exact .seq (stageRunning_confined reads cleans) (.bind (verifies _ _ _) fun _ => records _ _)
  · exact records _ _

/-- The forward part of a quota-goal update stages the goals and commits one kdamond. -/
theorem stageAndCommitQuotaGoals_confined {quotas : SchemeQuotas}
    {goals observed : List QuotaGoalConfig} {index : Nat}
    (stages : Confined allowed (quotas.stageGoalsFrom goals (some observed)))
    (goalReads : Confined allowed quotas.goalConfigurations)
    (commits : allowed
      (.write (Path.stateOf index) KdamondCommand.commitSchemesQuotaGoals.kernelName)) :
    Confined allowed (stageAndCommitQuotaGoals quotas goals observed index) := by
  have verifies := verifyOwnedIdentitiesOnly_readsOnly.mono reads
  refine .seq verifies (.seq (.retry (.seq verifies stages)) (.seq verifies ?_))
  refine .seq (requireOwned_confined
    ((unchangedOutsideGoals_reads quotas goals observed).readsOnly.mono reads)) ?_
  refine .bind (.retry (DamonAdmin.configurationSnapshot_confined.readsOnly.mono reads))
    fun snapshot => .bind (.retry goalReads) fun staged => .ite (fun _ => .fail _) fun _ => ?_
  refine .seq (requireOwned_confined (.retry
    (snapshot.valuesMatchCurrent_confined.readsOnly.mono reads))) (.seq verifies ?_)
  refine .seq (commandIdentified_confined reads commits) (.bind .self fun self => ?_)
  exact .seq ((StagedOwnership.verify_reads _).readsOnly.mono reads) (.pure _)

/-- What a rollback does after its boundary check. -/
theorem restoresRunning_confined {snapshot : ConfigurationSnapshot} {config : DamonConfig}
    {selected : List Nat} {writes : List Path}
    (restores : Confined allowed (restoreWritten snapshot writes))
    (commits : ∀ index ∈ selected,
      allowed (.write (Path.stateOf index) KdamondCommand.commit.kernelName)) :
    Confined allowed (do
      restoreWritten snapshot writes
      verifyOwnedIdentitiesOnly
      requireUnchanged snapshot "the running DAMON hierarchy changed during rollback"
      Exec.forEach (commandIdentified .commit) selected
      let current ← retryBusy DamonAdmin.configurationSnapshot
      requireUnchanged snapshot "the running DAMON hierarchy changed after rollback commit"
      let staged := StagedOwnership.new current config
      staged.verify
      pure staged) := by
  have unchanged : ∀ reason, Confined allowed (requireUnchanged snapshot reason) :=
    fun reason => (requireUnchanged_reads snapshot reason).readsOnly.mono reads
  refine .seq restores (.seq (verifyOwnedIdentitiesOnly_readsOnly.mono reads) ?_)
  refine .seq (unchanged _) (.seq (.forEach _ fun index member =>
    commandIdentified_confined reads (commits index member)) ?_)
  refine .bind (.retry (DamonAdmin.configurationSnapshot_confined.readsOnly.mono reads))
    fun current => .seq (unchanged _) ?_
  exact .seq ((StagedOwnership.verify_reads _).readsOnly.mono reads) (.pure _)

theorem restoresQuotaGoals_confined {snapshot : ConfigurationSnapshot} {index : Nat}
    {writes : List Path} (restores : Confined allowed (restoreWritten snapshot writes))
    (commits : allowed
      (.write (Path.stateOf index) KdamondCommand.commitSchemesQuotaGoals.kernelName)) :
    Confined allowed (do
      restoreWritten snapshot writes
      commandIdentified .commitSchemesQuotaGoals index
      requireUnchanged snapshot "the running DAMON hierarchy changed after quota-goal rollback"
      let current ← retryBusy DamonAdmin.configurationSnapshot
      let self ← getSelf
      let staged := self.staged.withConfiguration current
      staged.verify
      pure staged) := by
  refine .seq restores (.seq (commandIdentified_confined reads commits) ?_)
  refine .seq ((requireUnchanged_reads snapshot _).readsOnly.mono reads) ?_
  refine .bind (.retry (DamonAdmin.configurationSnapshot_confined.readsOnly.mono reads))
    fun current => .bind .self fun self => ?_
  exact .seq ((StagedOwnership.verify_reads _).readsOnly.mono reads) (.pure _)

/-- A rollback accesses what its restoration and its commits do. -/
theorem restoreAndCommitRunning_accesses {snapshot : ConfigurationSnapshot} {config : DamonConfig}
    {selected : List Nat} {writes : List Path}
    (restores : Confined allowed (restoreWritten snapshot writes))
    (commits : ∀ index ∈ selected,
      allowed (.write (Path.stateOf index) KdamondCommand.commit.kernelName)) :
    Accesses allowed (restoreAndCommitRunning snapshot config selected writes) := by
  have confined : ∀ {α : Type} {program : Sysfs α}, Confined allowed program →
      Accesses allowed program := fun confined => confined.accesses fun _ => reads _ trivial
  have commit : Confined allowed (Exec.forEach (commandIdentified .commit) selected) :=
    .forEach _ fun index member => commandIdentified_confined reads (commits index member)
  refine (confined (verifyOwnedIdentitiesOnly_readsOnly.mono reads)).bind fun _ => ?_
  refine Accesses.bind (.bind (.attempt (confined
    ((verifyRollbackBoundary_reads snapshot writes).readsOnly.mono reads))) fun boundary => ?_)
    fun _ => confined (restoresRunning_confined reads restores commits)
  cases boundary with
  | ok value => exact confined (.pure ())
  | error boundary => exact .bind (.attempt (confined (.seq restores commit))) fun _ => .fail _

theorem restoreAndCommitQuotaGoals_accesses {snapshot : ConfigurationSnapshot} {index : Nat}
    {writes : List Path} (restores : Confined allowed (restoreWritten snapshot writes))
    (commits : allowed
      (.write (Path.stateOf index) KdamondCommand.commitSchemesQuotaGoals.kernelName)) :
    Accesses allowed (restoreAndCommitQuotaGoals snapshot index writes) := by
  have confined : ∀ {α : Type} {program : Sysfs α}, Confined allowed program →
      Accesses allowed program := fun confined => confined.accesses fun _ => reads _ trivial
  have commit := commandIdentified_confined reads commits
  refine (confined (verifyOwnedIdentitiesOnly_readsOnly.mono reads)).bind fun _ => ?_
  refine Accesses.bind (.bind (.attempt (confined
    ((verifyRollbackBoundary_reads snapshot writes).readsOnly.mono reads))) fun boundary => ?_)
    fun _ => confined (restoresQuotaGoals_confined reads restores commits)
  cases boundary with
  | ok value => exact confined (.pure ())
  | error boundary => exact .bind (.attempt (confined (.seq restores commit))) fun _ => .fail _

end Accesses

end ManagedHierarchy

end DamonRs
