import DamonRs.Monitor.Ownership

/-!
# The managed hierarchy

The lifecycle of a cooperatively owned hierarchy: starting and stopping its
kdamonds, the ownership checks, transactional updates of running kdamonds with
their rollback, and closing.
-/

namespace DamonRs

open Library Sysfs

/-! ## Comparing requests with running configurations -/

def validateSelectedIndices (requested : List Nat) (managedCount requestedCount : Nat) :
    Except Error (List Nat) := do
  if requestedCount ≠ managedCount then
    throw (.invalidConfiguration "managed hierarchy kdamond count" "must match the owned hierarchy")
  visit [] requested
where
  /-- The requested indexes after those already seen. -/
  visit (seen : List Nat) : List Nat → Except Error (List Nat)
    | [] => .ok []
    | index :: rest => do
        if index ≥ managedCount then throw (.indexOutOfBounds "kdamond" index managedCount)
        if seen.contains index then
          throw (.invalidConfiguration "selected kdamond indexes" "must not contain duplicates")
        let selected ← visit (index :: seen) rest
        pure (index :: selected)

/-- An obsolete target must otherwise be the existing target at its index. -/
def validateObsoleteTarget (previous : Option TargetConfig) (requested : TargetConfig) :
    Except Error Unit :=
  if requested.obsolete then
    match previous with
    | none =>
        invalid "obsolete target" "must identify an existing target at the same index"
    | some previous =>
        requireField (!(previous.obsolete || { requested with obsolete := false } ≠ previous))
          "obsolete target" "must match the existing target at the same index"
  else .ok ()

def validateObsoleteTargetUpdates (previous requested : DamonConfig) : Except Error Unit :=
  (previous.kdamonds.zip requested.kdamonds).forM fun (previous, requested) =>
    (previous.contexts.zip requested.contexts).forM fun (previous, requested) =>
      requested.targets.zipIdx.forM fun (target, index) =>
        validateObsoleteTarget previous.targets[index]? target

def kdamondConfigurationsEquivalent (expected observed : KdamondConfig) : Bool :=
  DamonConfig.equivalentAfterKernelNormalization ⟨[expected]⟩ ⟨[observed]⟩

def containsObsoleteTargets (config : DamonConfig) (selected : List Nat) : Bool :=
  selected.any fun index =>
    (config.kdamonds[index]?).any fun kdamond =>
      kdamond.contexts.any fun context => context.targets.any TargetConfig.obsolete

namespace ContextConfig

def withoutObsoleteTargets (context : ContextConfig) : ContextConfig :=
  { context with targets := context.targets.filter fun target => !target.obsolete }

end ContextConfig

def withoutObsoleteTargets (config : DamonConfig) (selected : List Nat) : DamonConfig where
  kdamonds := config.kdamonds.zipIdx.map fun (kdamond, index) =>
    if selected.contains index then
      { kdamond with contexts := kdamond.contexts.map ContextConfig.withoutObsoleteTargets }
    else kdamond

/-- Change each observed item that has a requested partner, next to the previous one. -/
def zipNormalize {α : Type} (change : Option α → α → α → Except Error α) :
    List α → List α → List α → Except Error (List α)
  | previous, requested :: requestedRest, observed :: observedRest => do
      let first ← change previous.head? requested observed
      let rest ← zipNormalize change previous.tail requestedRest observedRest
      pure (first :: rest)
  | _, _, observed => .ok observed

/-- Take over the requested values of interval leaves that the kernel tunes. -/
def normalizeTunedContext (previous : Option ContextConfig) (requested observed : ContextConfig) :
    Except Error ContextConfig :=
  let wasTuned := previous.any fun context => context.intervalsGoal.aggregationIntervals ≠ 0
  if requested.intervalsGoal.aggregationIntervals = 0 && !wasTuned then .ok observed
  else do
    let intervals ← MonitoringIntervals.new requested.intervals.sample
      requested.intervals.aggregation observed.intervals.update
    pure { observed with intervals := intervals }

def normalizeTunedKdamond (previous : Option KdamondConfig) (requested observed : KdamondConfig) :
    Except Error KdamondConfig := do
  let contexts ← zipNormalize normalizeTunedContext
    ((previous.map KdamondConfig.contexts).getD []) requested.contexts observed.contexts
  pure { observed with contexts := contexts }

def normalizeRunningTunedIntervals (requested : DamonConfig) (previous : Option DamonConfig)
    (observed : DamonConfig) : Except Error DamonConfig := do
  let kdamonds ← zipNormalize normalizeTunedKdamond
    ((previous.map DamonConfig.kdamonds).getD []) requested.kdamonds observed.kdamonds
  pure { observed with kdamonds := kdamonds }

/-- The request in which kdamonds that are not selected keep their previous configuration. -/
def effectiveKdamonds (selected : List Nat) :
    Nat → List KdamondConfig → List KdamondConfig → List KdamondConfig →
      Except Error (List KdamondConfig)
  | index, requested :: rest, previous :: previousRest, comparable :: comparableRest => do
      let kdamond ←
        if selected.contains index then pure requested
        else if kdamondConfigurationsEquivalent requested comparable then pure previous
        else
          (invalid "unselected kdamond configuration"
            "must match the currently staged configuration")
      let kdamonds ← effectiveKdamonds selected (index + 1) rest previousRest comparableRest
      pure (kdamond :: kdamonds)
  | _, [], _, _ => .ok []
  | index, requested :: rest, _, _ =>
      -- fewer kdamonds were observed than requested: the source indexes out of bounds
      if selected.contains index then do
        let kdamonds ← effectiveKdamonds selected (index + 1) rest [] []
        pure (requested :: kdamonds)
      else .error (.indexOutOfBounds "kdamond" index index)

namespace ManagedHierarchy

/-! ## Ownership checks -/

def kdamond (index : Nat) : Kdamond := DamonAdmin.kdamond index

/-- What the session records about a kdamond. -/
def state (self : ManagedHierarchy) (index : Nat) : KdamondSessionState :=
  (self.states[index]?).getD .staged

def setState (index : Nat) (state : KdamondSessionState) : Sysfs Unit :=
  modifySelf fun self => { self with states := self.states.set index state }

def setStaged (staged : StagedOwnership) : Sysfs Unit :=
  modifySelf fun self => { self with staged := staged }

def startedByAnother : Error :=
  .ownershipLost "the staged kdamond was started by another controller"

def identityNotCaptured : Error :=
  .ownershipLost "the kdamond started but its identity was not captured"

def threadChanged : Error := .ownershipLost "the kdamond kernel-thread ID changed"

def validateKdamondIndex (index : Nat) : Sysfs Unit := do
  let self ← getSelf
  if index ≥ self.states.length then
    Exec.fail (.indexOutOfBounds "kdamond" index self.states.length)
  else pure ()

def expectedRunningPid (index : Nat) : Sysfs Pid := do
  validateKdamondIndex index
  let self ← getSelf
  match self.state index with
  | .running pid => pure pid
  | .staged => Exec.fail .notRunning
  | .unidentifiedRunning => Exec.fail identityNotCaptured

/-- Compare the current thread of a kdamond with the recorded one. -/
def requireSamePid (current expected : Pid) : Sysfs Unit :=
  if current ≠ expected then Exec.fail threadChanged else pure ()

/-- The current thread of a kdamond, which must have one. -/
def currentPid (index : Nat) : Sysfs Pid := do
  match ← retryBusy (kdamond index).pid with
  | some pid => pure pid
  | none => Exec.fail .notRunning

def verifyManagedCount : Sysfs Unit := do
  let count ← DamonAdmin.kdamondCount
  let self ← getSelf
  if count ≠ self.states.length then
    Exec.fail (.ownershipLost "the staged kdamond count changed")
  else pure ()

def verifyRunningIdentityWithoutCount (index : Nat) : Sysfs Unit := do
  let expected ← expectedRunningPid index
  let current ← currentPid index
  requireSamePid current expected

def verifyRunningIdentityOnly (index : Nat) : Sysfs Unit := do
  validateKdamondIndex index
  verifyManagedCount
  verifyRunningIdentityWithoutCount index

def verifyRunningStateAndIdentityWithoutCount (index : Nat) : Sysfs Unit := do
  let expected ← expectedRunningPid index
  let current ← runningThreadPid (kdamond index)
  requireSamePid current expected

def verifyStaged : Sysfs Unit := do
  let self ← getSelf
  self.staged.verify

def verifyRunning (index : Nat) : Sysfs Unit := do
  validateKdamondIndex index
  verifyStaged
  verifyRunningStateAndIdentityWithoutCount index

def verifyRunningIdentity (index : Nat) : Sysfs Unit := do
  verifyStaged
  verifyRunningIdentityOnly index

/-- A kdamond recorded as staged must be off. -/
def requireStagedOff (index : Nat) : Sysfs Unit := do
  match ← retryBusy (kdamond index).state with
  | .off => pure ()
  | .on => Exec.fail startedByAnother
  | .unknown state => Exec.fail (.unexpectedKdamondState state)

def verifyOwnedKdamond (index : Nat) : Sysfs Unit := do
  let self ← getSelf
  match self.state index with
  | .staged => requireStagedOff index
  | .running _ => verifyRunningStateAndIdentityWithoutCount index
  | .unidentifiedRunning => Exec.fail identityNotCaptured

def verifyOwnedState : Sysfs Unit := do
  let self ← getSelf
  if !self.ownsHierarchy then Exec.fail .notRunning
  else do
    self.staged.verify
    Exec.forEach verifyOwnedKdamond (List.range self.states.length)

def verifyOwnedIdentity (index : Nat) : Sysfs Unit := do
  let self ← getSelf
  match self.state index with
  | .staged => do
      match ← retryBusy (kdamond index).state with
      | .off => pure ()
      | _ => Exec.fail (.ownershipLost "a staged kdamond state changed")
  | .running _ => verifyRunningIdentityWithoutCount index
  | .unidentifiedRunning => Exec.fail identityNotCaptured

def verifyOwnedIdentitiesOnly : Sysfs Unit := do
  verifyManagedCount
  let self ← getSelf
  Exec.forEach verifyOwnedIdentity (List.range self.states.length)

/-! ## Starting and stopping -/

def startOne (index : Nat) : Sysfs Unit := do
  retryBusy ((kdamond index).command .on)
  setState index .unidentifiedRunning
  let pid ← runningThreadPid (kdamond index)
  setState index (.running pid)
  verifyRunningIdentityOnly index
  let self ← getSelf
  self.staged.verifyKdamondConfiguration index

/-- Send `off` to a kdamond that runs with the recorded thread. -/
def stopIdentified (index : Nat) (expected : Pid) : Sysfs Unit := do
  let current ← currentPid index
  requireSamePid current expected
  retryBusy ((kdamond index).command .off)
  match ← retryBusy (kdamond index).state with
  | .off => setState index .staged
  | .on => Exec.fail (.ownershipLost "the kdamond restarted while it was being stopped")
  | .unknown state => Exec.fail (.unexpectedKdamondState state)

/-- A kdamond that is off is staged; one that is on needs more. -/
def stopUnlessOff (index : Nat) (whileOn : Sysfs Unit) : Sysfs Unit := do
  match ← retryBusy (kdamond index).state with
  | .off => setState index .staged
  | .on => whileOn
  | .unknown state => Exec.fail (.unexpectedKdamondState state)

def stopOne (index : Nat) : Sysfs Unit := do
  let self ← getSelf
  match self.state index with
  | .staged => requireStagedOff index
  | .running expected => stopUnlessOff index (stopIdentified index expected)
  | .unidentifiedRunning => stopUnlessOff index (Exec.fail (.ownershipLost
      "cannot safely stop a kdamond before its kernel-thread ID was captured"))

/-- The error of an outcome, unless an earlier one is known. -/
def firstError (first : Option Error) (outcome : Except Error Unit) : Option Error :=
  match outcome with
  | .ok () => first
  | .error error => first.or (some error)

/-- Verify one kdamond and stop it. -/
def verifyAndStop (index : Nat) : Sysfs Unit := do
  let self ← getSelf
  self.staged.verifyKdamondConfiguration index
  stopOne index

def rollbackStartedEach (first : Option Error) : List Nat → Sysfs (Option Error)
  | [] => pure first
  | index :: rest => do
      let self ← getSelf
      if self.state index = .staged then rollbackStartedEach first rest
      else do
        let outcome ← Exec.attempt (verifyAndStop index)
        rollbackStartedEach (firstError first outcome) rest

/-- Return the first error, if there is one. -/
def reportFirst (first : Option Error) : Sysfs Unit :=
  match first with
  | some error => Exec.fail error
  | none => pure ()

def rollbackStarted : Sysfs Unit := do
  let self ← getSelf
  if self.states.all (· = .staged) then pure ()
  else do
    self.staged.verifyCount
    let first ← rollbackStartedEach none (List.range self.states.length).reverse
    reportFirst first

/-- Run a step of the start; its failure stops what was started before. -/
def orRollbackStarted (step : Sysfs Unit) : Sysfs Unit := do
  match ← Exec.attempt step with
  | .ok () => pure ()
  | .error operation => do
      let rollback ← Exec.attempt rollbackStarted
      Exec.fail (withRollback operation rollback)

/-- Only a hierarchy in which every kdamond is staged can be started. -/
def requireAllStaged : List (KdamondSessionState × Nat) → Except Error Unit
  | [] => .ok ()
  | (.staged, _) :: rest => requireAllStaged rest
  | (.running _, index) :: _ => .error (.kdamondRunning index)
  | (.unidentifiedRunning, _) :: _ => .error identityNotCaptured

def verifyBeforeStart (index : Nat) : Sysfs Unit := do
  let self ← getSelf
  self.staged.verifyCount
  self.staged.verifyKdamondConfiguration index

def startAll : Sysfs Unit := do
  let self ← getSelf
  if !self.ownsHierarchy then Exec.fail .notRunning
  else do
    Exec.ofExcept (requireAllStaged self.states.zipIdx)
    verifyStaged
    Exec.forEach requireStagedOff (List.range self.states.length)
    Exec.forEach (fun index => do
      orRollbackStarted (verifyBeforeStart index)
      orRollbackStarted (startOne index)) (List.range self.states.length)
    orRollbackStarted verifyOwnedState

def stopEach (first : Option Error) : List Nat → Sysfs (Option Error)
  | [] => pure first
  | index :: rest => do
      let self ← getSelf
      match ← Exec.attempt self.staged.verifyCount with
      | .error error => pure (first.or (some error))
      | .ok () => do
          let outcome ← Exec.attempt (verifyAndStop index)
          stopEach (firstError first outcome) rest

def stopAll : Sysfs Unit := do
  let self ← getSelf
  if !self.ownsHierarchy then pure ()
  else do
    self.staged.verifyCount
    let first ← stopEach none (List.range self.states.length).reverse
    reportFirst first
    verifyStaged

/-- Release the hierarchy without restoring it. -/
def disarmCleanup : Sysfs Unit :=
  modifySelf fun self => { self with previous := none, ownsHierarchy := false }

def closeInner : Sysfs Unit := do
  let self ← getSelf
  if !self.ownsHierarchy then pure ()
  else do
    stopAll
    verifyStaged
    match self.previous with
    | none => Exec.fail (.ownershipLost "the managed hierarchy has no restoration snapshot")
    | some previous => do
        if ← retryBusy previous.matchesCurrent then pure ()
        else restoreConfiguration previous
        modifySelf fun self => { self with ownsHierarchy := false }

/-- The handle is gone. -/
def release : Sysfs Unit := setSelf .released

/-- Closing consumes the handle; dropping it repeats a close that failed. -/
def drop : Sysfs Unit := do
  let self ← getSelf
  if self.previous.isSome then do
    let _ ← Exec.attempt closeInner
    release
  else release

def close : Sysfs Unit := do
  let outcome ← Exec.attempt closeInner
  drop
  Exec.ofExcept outcome

def isRunning (index : Nat) : Sysfs Bool := do
  validateKdamondIndex index
  let self ← getSelf
  match self.state index with
  | .staged => do
      self.staged.verify
      requireStagedOff index
      pure false
  | .running _ => do
      match ← Exec.attempt (verifyRunning index) with
      | .ok () => pure true
      | .error .notRunning => pure false
      | .error error => Exec.fail error
  | .unidentifiedRunning => Exec.fail identityNotCaptured

/-! ## Reading -/

/-- Run a program between two complete ownership checks. -/
def betweenChecks {α : Type} (program : Sysfs α) : Sysfs α := do
  verifyOwnedState
  let value ← program
  verifyOwnedState
  pure value

def configuration : Sysfs DamonConfig := betweenChecks (retryBusy DamonAdmin.configuration)

def observedConfiguration : Sysfs ObservedConfiguration :=
  betweenChecks (retryBusy DamonAdmin.observedConfiguration)

/-! ## Rolling a transaction back -/

/-- Whether a comparison with the ownership record of the session finds no difference. -/
def requireUnchanged (snapshot : ConfigurationSnapshot) (reason : String) : Sysfs Unit := do
  let self ← getSelf
  requireOwned reason (retryBusy (snapshot.matchesCurrentExcept self.staged.volatilePaths))

def verifyRollbackBoundary (snapshot : ConfigurationSnapshot) (writes : List Path) :
    Sysfs Unit := do
  let self ← getSelf
  let allowed := sortDedup (snapshot.pathsAffectedByWrites writes ++ self.staged.volatilePaths)
  requireOwned "an unrelated writable value changed during the transaction"
    (retryBusy (snapshot.matchesCurrentExcept allowed))

/-- Restore what a transaction may have changed, apart from the volatile leaves. -/
def restoreWritten (snapshot : ConfigurationSnapshot) (writes : List Path) : Sysfs Unit := do
  let self ← getSelf
  let affected := snapshot.pathsAffectedByWrites writes
  retryBusy (snapshot.restorePathsExcept affected self.staged.volatilePaths)

/-- Send a command to a kdamond whose thread is the recorded one before and after it. -/
def commandIdentified (command : KdamondCommand) (index : Nat) : Sysfs Unit := do
  verifyRunningIdentityOnly index
  retryBusy ((kdamond index).command command)
  verifyRunningIdentityOnly index

def restoreWrittenAndCommitRunning (snapshot : ConfigurationSnapshot) (writes : List Path)
    (selected : List Nat) : Sysfs Unit := do
  restoreWritten snapshot writes
  Exec.forEach (commandIdentified .commit) selected

def restoreWrittenAndCommitQuotaGoals (snapshot : ConfigurationSnapshot) (writes : List Path)
    (index : Nat) : Sysfs Unit := do
  restoreWritten snapshot writes
  commandIdentified .commitSchemesQuotaGoals index

/-- A failed boundary check still restores what the transaction wrote itself. -/
def verifyBoundaryOr (snapshot : ConfigurationSnapshot) (writes : List Path)
    (restoration : Sysfs Unit) : Sysfs Unit := do
  match ← Exec.attempt (verifyRollbackBoundary snapshot writes) with
  | .ok () => pure ()
  | .error boundary => do
      let outcome ← Exec.attempt restoration
      Exec.fail (withRollback boundary outcome)

def restoreAndCommitRunning (snapshot : ConfigurationSnapshot) (config : DamonConfig)
    (selected : List Nat) (writes : List Path) : Sysfs StagedOwnership := do
  verifyOwnedIdentitiesOnly
  verifyBoundaryOr snapshot writes (restoreWrittenAndCommitRunning snapshot writes selected)
  restoreWritten snapshot writes
  verifyOwnedIdentitiesOnly
  requireUnchanged snapshot "the running DAMON hierarchy changed during rollback"
  Exec.forEach (commandIdentified .commit) selected
  let current ← retryBusy DamonAdmin.configurationSnapshot
  requireUnchanged snapshot "the running DAMON hierarchy changed after rollback commit"
  let staged := StagedOwnership.new current config
  staged.verify
  pure staged

def restoreAndCommitQuotaGoals (snapshot : ConfigurationSnapshot) (index : Nat)
    (writes : List Path) : Sysfs StagedOwnership := do
  verifyOwnedIdentitiesOnly
  verifyBoundaryOr snapshot writes (restoreWrittenAndCommitQuotaGoals snapshot writes index)
  restoreWritten snapshot writes
  commandIdentified .commitSchemesQuotaGoals index
  requireUnchanged snapshot "the running DAMON hierarchy changed after quota-goal rollback"
  let current ← retryBusy DamonAdmin.configurationSnapshot
  let self ← getSelf
  let staged := self.staged.withConfiguration current
  staged.verify
  pure staged

/-- Run a transaction; its failure is followed by a rollback that gets the written paths. -/
def transact (transaction : Sysfs StagedOwnership)
    (rollback : List Path → Sysfs StagedOwnership) : Sysfs Unit := do
  match ← collectWrites transaction with
  | (.ok staged, _) => setStaged staged
  | (.error operation, writes) => do
      match ← Exec.attempt (rollback writes) with
      | .ok staged => do
          setStaged staged
          Exec.fail operation
      | .error failure => Exec.fail (.rollback operation failure)

/-! ## Updating running kdamonds -/

/-- Stage a configuration while every identity is the recorded one. -/
def stageRunning (config : DamonConfig) (observed : Option DamonConfig) : Sysfs Unit := do
  retryBusy do
    verifyOwnedIdentitiesOnly
    DamonAdmin.stageConfigurationFrom config observed
  verifyOwnedIdentitiesOnly

/-- Capture a staged configuration and compare it with the request. -/
def verifyStagedRunning (config : DamonConfig) (observed : Option DamonConfig) (reason : String) :
    Sysfs ConfigurationSnapshot := do
  let snapshot ← retryBusy DamonAdmin.configurationSnapshot
  let staged ← retryBusy DamonAdmin.configuration
  let normalized ← Exec.ofExcept (normalizeRunningTunedIntervals config observed staged)
  requireEquivalent config normalized
  requireOwned reason (retryBusy snapshot.valuesMatchCurrent)
  verifyOwnedIdentitiesOnly
  pure snapshot

/-- Record the ownership of a captured configuration. -/
def recordOwnership (snapshot : ConfigurationSnapshot) (config : DamonConfig) :
    Sysfs StagedOwnership := do
  let staged := StagedOwnership.new snapshot config
  staged.verify
  pure staged

def stageAndCommitRunning (config : DamonConfig) (observed : Option DamonConfig)
    (selected : List Nat) : Sysfs StagedOwnership := do
  verifyOwnedIdentitiesOnly
  stageRunning config observed
  let snapshot ← verifyStagedRunning config observed
    "the running DAMON hierarchy changed during staging"
  Exec.forEach (commandIdentified .commit) selected
  if containsObsoleteTargets config selected then do
    let cleaned := withoutObsoleteTargets config selected
    stageRunning cleaned (some config)
    let cleanedSnapshot ← verifyStagedRunning cleaned (some config)
      "the running DAMON hierarchy changed during obsolete-target cleanup"
    recordOwnership cleanedSnapshot cleaned
  else recordOwnership snapshot config

def updateConfiguration (config : DamonConfig) (indices : List Nat) : Sysfs Unit := do
  let env ← environment
  Exec.ofExcept (config.validateRunningUpdate env.pageSize)
  let self ← getSelf
  let selected ← Exec.ofExcept
    (validateSelectedIndices indices self.states.length config.kdamonds.length)
  Exec.ofExcept
    (requireField (!selected.isEmpty) "selected kdamond indexes" "must contain at least one index")
  Exec.forEach (fun index => do let _ ← expectedRunningPid index) selected
  verifyOwnedState
  let previousSnapshot ← retryBusy DamonAdmin.configurationSnapshot
  let previous ← retryBusy DamonAdmin.configuration
  requireUnchanged previousSnapshot
    "the running DAMON hierarchy changed while its rollback state was captured"
  verifyOwnedState
  let comparablePrevious ← Exec.ofExcept
    (normalizeRunningTunedIntervals config (some previous) previous)
  let kdamonds ← Exec.ofExcept
    (effectiveKdamonds selected 0 config.kdamonds previous.kdamonds comparablePrevious.kdamonds)
  let effective : DamonConfig := ⟨kdamonds⟩
  Exec.ofExcept (validateObsoleteTargetUpdates previous effective)
  transact (stageAndCommitRunning effective (some previous) selected)
    fun writes => restoreAndCommitRunning previousSnapshot previous selected writes

/-! ## Updating quota goals -/

def scheme (kdamondIndex contextIndex schemeIndex : Nat) : Sysfs Scheme := do
  validateKdamondIndex kdamondIndex
  let contextCount ← (kdamond kdamondIndex).contextCount
  if contextIndex ≥ contextCount then
    Exec.fail (.indexOutOfBounds "context" contextIndex contextCount)
  else do
    let context := (kdamond kdamondIndex).context contextIndex
    let schemeCount ← context.schemeCount
    if schemeIndex ≥ schemeCount then
      Exec.fail (.indexOutOfBounds "scheme" schemeIndex schemeCount)
    else pure (context.scheme schemeIndex)

/-- The leaves that staging a quota goal writes. -/
def quotaGoalLeaves (goal : QuotaGoal) (config : QuotaGoalConfig) : List Path :=
  [goal.path ++ ["target_metric"], goal.path ++ ["target_value"],
    goal.path ++ ["current_value"]] ++
    (if config.nodeId.isSome then [goal.path ++ ["nid"]] else []) ++
    (if config.cgroupPath.isSome then [goal.path ++ ["path"]] else [])

/-- Compare everything that staging quota goals leaves alone with the ownership record. -/
def unchangedOutsideGoals (quotas : SchemeQuotas) (goals observed : List QuotaGoalConfig) :
    Sysfs Bool := do
  let self ← getSelf
  if observed.length = goals.length then
    let changed := (goals.zipIdx.filter fun (goal, index) => observed[index]? ≠ some goal).flatMap
      fun (goal, index) => quotaGoalLeaves (quotas.goal index) goal
    self.staged.configuration.matchesCurrentExcept
      (sortDedup (self.staged.volatilePaths ++ changed))
  else
    self.staged.configuration.matchesCurrentOutsideExcept (quotas.path ++ ["goals"])
      self.staged.volatilePaths

def stageAndCommitQuotaGoals (quotas : SchemeQuotas) (goals observed : List QuotaGoalConfig)
    (index : Nat) : Sysfs StagedOwnership := do
  verifyOwnedIdentitiesOnly
  retryBusy do
    verifyOwnedIdentitiesOnly
    quotas.stageGoalsFrom goals (some observed)
  verifyOwnedIdentitiesOnly
  requireOwned "the running DAMON hierarchy changed during quota-goal staging"
    (unchangedOutsideGoals quotas goals observed)
  let snapshot ← retryBusy DamonAdmin.configurationSnapshot
  let stagedGoals ← retryBusy quotas.goalConfigurations
  if stagedGoals ≠ goals then
    Exec.fail (configurationMismatch "quotas/goals" goals stagedGoals)
  else do
    requireOwned "the running DAMON hierarchy changed during quota-goal staging"
      (retryBusy snapshot.valuesMatchCurrent)
    verifyOwnedIdentitiesOnly
    commandIdentified .commitSchemesQuotaGoals index
    let self ← getSelf
    let staged := self.staged.withConfiguration snapshot
    staged.verify
    pure staged

def updateSchemeQuotaGoals (kdamondIndex contextIndex schemeIndex : Nat)
    (goals : List QuotaGoalConfig) : Sysfs Unit := do
  validateKdamondIndex kdamondIndex
  Exec.ofExcept (SchemeQuotas.validateGoals goals)
  let _ ← expectedRunningPid kdamondIndex
  verifyOwnedState
  let previousSnapshot ← retryBusy DamonAdmin.configurationSnapshot
  let scheme ← scheme kdamondIndex contextIndex schemeIndex
  let quotas := scheme.quotas
  let quota ← retryBusy quotas.configuration
  requireUnchanged previousSnapshot
    "the running DAMON hierarchy changed while its rollback state was captured"
  verifyOwnedState
  Exec.ofExcept (QuotaConfig.validate { quota with goals := goals })
  if goals = quota.goals then pure ()
  else
    transact (stageAndCommitQuotaGoals quotas goals quota.goals kdamondIndex)
      fun writes => restoreAndCommitQuotaGoals previousSnapshot kdamondIndex writes

/-! ## Pausing contexts -/

/-- Commit a written pause attribute and refresh its recorded value. -/
def commitPaused (index contextIndex : Nat) (paused : Bool) : Sysfs Unit := do
  let context := (kdamond index).context contextIndex
  retryBusy ((kdamond index).command .commit)
  verifyRunningIdentityOnly index
  let observed ← context.isPaused
  if observed ≠ paused then
    Exec.fail (configurationMismatch s!"contexts/{contextIndex}/pause" paused observed)
  else do
    let self ← getSelf
    let refreshed ← self.staged.configuration.refreshedPathsExcept [context.path ++ ["pause"]]
      self.staged.volatilePaths
    verifyRunningIdentityOnly index
    modifySelf fun self => { self with staged := self.staged.withConfiguration refreshed }

/-- Write the previous pause attribute back and commit it. -/
def restorePaused (index contextIndex : Nat) (previous : Bool)
    (previousFingerprint : ConfigurationSnapshot) : Sysfs Unit := do
  let context := (kdamond index).context contextIndex
  context.setPaused previous
  retryBusy ((kdamond index).command .commit)
  let self ← getSelf
  let restored ← previousFingerprint.refreshedPathsExcept [context.path ++ ["pause"]]
    self.staged.volatilePaths
  verifyRunningIdentityOnly index
  modifySelf fun self => { self with staged := self.staged.withConfiguration restored }

def setContextPaused (index contextIndex : Nat) (paused : Bool) : Sysfs Unit := do
  verifyRunning index
  let contextCount ← (kdamond index).contextCount
  if contextIndex ≥ contextCount then
    Exec.fail (.indexOutOfBounds "context" contextIndex contextCount)
  else do
    let context := (kdamond index).context contextIndex
    if !(← context.pauseControlAvailable) then
      Exec.fail (.unsupportedFeature "DAMON context pause")
    else do
      let previous ← context.isPaused
      if previous = paused then verifyRunningIdentity index
      else do
        let self ← getSelf
        context.setPaused paused
        match ← Exec.attempt (commitPaused index contextIndex paused) with
        | .ok () => pure ()
        | .error operation => do
            let rollback ← Exec.attempt
              (restorePaused index contextIndex previous self.staged.configuration)
            Exec.fail (withRollback operation rollback)

/-! ## Replacing the staged configuration -/

/-- Every kdamond must be staged. -/
def firstNotStaged (states : List KdamondSessionState) : Option Nat :=
  states.findIdx? (· ≠ .staged)

def replaceStagedConfiguration (config : DamonConfig) : Sysfs Unit := do
  let env ← environment
  Exec.ofExcept (config.validateRunnable env.pageSize)
  let self ← getSelf
  if config.kdamonds.length ≠ self.states.length then
    Exec.fail (.invalidConfiguration "managed hierarchy kdamond count"
      "cannot change while the hierarchy is owned")
  else
    match firstNotStaged self.states with
    | some index => Exec.fail (.kdamondRunning index)
    | none => do
        self.staged.verify
        retryBusy ensureHierarchyStopped
        let previous ← retryBusy DamonAdmin.configuration
        self.staged.verify
        match ← Exec.attempt (stageAndVerifyConfiguration config (some previous)) with
        | .ok current => setStaged (.new current config)
        | .error operation => do
            match ← Exec.attempt (stageAndVerifyConfiguration previous none) with
            | .ok current => do
                setStaged (.new current previous)
                Exec.fail operation
            | .error rollback => Exec.fail (.rollback operation rollback)

/-! ## Creation -/

/-- Take over a staged configuration; a failed verification restores the preceding one. -/
def new (staged : StagedConfiguration) (config : DamonConfig) : Sysfs Unit := do
  let ownership := StagedOwnership.new staged.current config
  match ← Exec.attempt ownership.verify with
  | .error operation => do
      let outcome ← Exec.attempt (restoreConfiguration staged.previous)
      Exec.fail (withRollback operation outcome)
  | .ok () =>
      setSelf
        { previous := some staged.previous
          staged := ownership
          states := List.replicate config.kdamonds.length .staged
          ownsHierarchy := true }

/-- The session states that recorded identities describe. -/
def attachedStates : Option Nat → List (Nat × Pid) → List KdamondSessionState →
    Except Error (List KdamondSessionState)
  | _, [], states => .ok states
  | previous, (index, pid) :: rest, states =>
      if index ≥ states.length then
        .error (.invalidReceipt "a running kdamond identity is outside the hierarchy")
      else if previous.any (· ≥ index) then
        .error (.invalidReceipt "running kdamond identities are not distinct and ordered")
      else attachedStates (some index) rest (states.set index (.running pid))

def attachPersistent (staged : StagedOwnership) (identities : List (Nat × Pid)) : Sysfs Unit := do
  staged.verifyComplete
  let states ← Exec.ofExcept
    (attachedStates none identities (List.replicate staged.kdamondCount .staged))
  setSelf { previous := none, staged := staged, states := states, ownsHierarchy := true }
  match ← Exec.attempt verifyOwnedState with
  | .ok () => pure ()
  | .error error => do
      drop
      Exec.fail error

end ManagedHierarchy

end DamonRs
