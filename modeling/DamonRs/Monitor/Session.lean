import DamonRs.Monitor.Hierarchy

/-!
# Sessions

Entry points that take the advisory lock: staging a configuration with the
restoration of the preceding hierarchy, and taking over a managed hierarchy.
-/

namespace DamonRs

open Library Sysfs

namespace Damon

/-- The configuration observed before staging, unless it can only be replaced. -/
def observeForStaging : Sysfs (Option DamonConfig) := do
  match ← Exec.attempt (retryBusy DamonAdmin.configuration) with
  | .ok observed => pure (some observed)
  | .error error =>
      if replaceableConfigurationReadError error then pure none else Exec.fail error

/-- Stage a configuration; a failure restores the captured hierarchy. -/
def stageOrRestore (config : DamonConfig) (observed : Option DamonConfig)
    (previous : ConfigurationSnapshot) : Sysfs StagedConfiguration := do
  match ← Exec.attempt (stageAndVerifyConfiguration config observed) with
  | .ok current => pure ⟨previous, current⟩
  | .error operation => do
      let outcome ← Exec.attempt (restoreConfiguration previous)
      Exec.fail (withRollback operation outcome)

def stageValidatedConfigurationLocked (config : DamonConfig) : Sysfs StagedConfiguration := do
  retryBusy ensureHierarchyStopped
  let previous ← retryBusy DamonAdmin.configurationSnapshot
  let observed ← observeForStaging
  requireOwned "the DAMON hierarchy changed while it was being captured"
    (retryBusy previous.valuesMatchCurrent)
  retryBusy ensureHierarchyStopped
  if observed.any config.equivalentAfterKernelNormalization then pure ⟨previous, previous⟩
  else stageOrRestore config observed previous

def stageConfiguration (damon : Damon) (config : DamonConfig) : Sysfs Unit := do
  let env ← environment
  Exec.ofExcept (config.validate env.pageSize)
  SessionLock.acquire damon.lockPath
  let _ ← stageValidatedConfigurationLocked config

def managedHierarchy (damon : Damon) (config : DamonConfig) : Sysfs Unit := do
  let env ← environment
  Exec.ofExcept (config.validateRunnable env.pageSize)
  SessionLock.acquire damon.lockPath
  let staged ← stageValidatedConfigurationLocked config
  ManagedHierarchy.new staged config

end Damon

end DamonRs
