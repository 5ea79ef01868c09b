import DamonRs.Monitor.Persistent
import DamonRs.Sysfs.Runtime

/-!
# Sessions of a managed hierarchy

The runtime operations of a running kdamond, and sessions: a hierarchy is taken
over or attached from a receipt and then goes through any sequence of
operations, each of which may fail.
-/

namespace DamonRs

open Library Sysfs

/-! ## Runtime operations -/

/-- A read or a refresh of the runtime results of one kdamond. -/
inductive RuntimeRead where
  | schemeStats (context scheme : Nat) (refresh : Bool)
  | triedRegions (context scheme : Nat) (refresh : Bool)
  | triedBytesUnits (context scheme : Nat) (refresh : Bool)
  | effectiveQuotaUnits (context scheme : Nat) (refresh : Bool)
  | updateTunedIntervals
  | clearTriedRegions
  deriving Repr, DecidableEq

/-- What a runtime operation returns. -/
inductive RuntimeResult where
  | stats (stats : SchemeStats)
  | regions (snapshot : RawSnapshot)
  | units (units : UInt64)
  | nothing
  deriving DecidableEq

namespace ManagedHierarchy

def verifyIdentityInBatch (index : Nat) : Sysfs Unit := do
  verifyManagedCount
  verifyRunningIdentityWithoutCount index

def issueCommand (index : Nat) (command : KdamondCommand) : Sysfs Unit := do
  verifyIdentityInBatch index
  retryBusy ((kdamond index).command command)

/-- Look a scheme up, refresh its results if asked to, and read them. -/
def readScheme {α : Type} (index context scheme : Nat) (refresh : Bool)
    (command : KdamondCommand) (read : Scheme → Sysfs α) : Sysfs α := do
  let scheme ← ManagedHierarchy.scheme index context scheme
  stageWhen refresh (issueCommand index command)
  let value ← read scheme
  verifyIdentityInBatch index
  pure value

def runtimeRead (index : Nat) : RuntimeRead → Sysfs RuntimeResult
  | .schemeStats context scheme refresh => do
      let stats ← readScheme index context scheme refresh .updateSchemesStats Scheme.stats
      pure (.stats stats)
  | .triedRegions context scheme refresh => do
      let snapshot ← readScheme index context scheme refresh .updateSchemesTriedRegions
        Scheme.triedRegions
      pure (.regions snapshot)
  | .triedBytesUnits context scheme refresh => do
      let units ← readScheme index context scheme refresh .updateSchemesTriedBytes
        Scheme.triedBytesUnits
      pure (.units units)
  | .effectiveQuotaUnits context scheme refresh => do
      let units ← readScheme index context scheme refresh .updateSchemesEffectiveQuotas
        fun scheme => scheme.quotas.effectiveSizeUnits
      pure (.units units)
  | .updateTunedIntervals => do
      issueCommand index .updateTunedIntervals
      verifyIdentityInBatch index
      pure .nothing
  | .clearTriedRegions => do
      issueCommand index .clearSchemesTriedRegions
      verifyIdentityInBatch index
      pure .nothing

/-- Run an operation between complete ownership checks of one kdamond. -/
def runtimeBatch {α : Type} (index : Nat) (operation : Sysfs α) : Sysfs α := do
  let _ ← expectedRunningPid index
  verifyRunning index
  let result ← Exec.attempt operation
  verifyRunningIdentity index
  Exec.ofExcept result

end ManagedHierarchy

/-! ## Sessions -/

/-- An operation on a managed hierarchy. -/
inductive SessionOp where
  | startAll
  | stopAll
  | updateConfiguration (config : DamonConfig) (indices : List Nat)
  | updateSchemeQuotaGoals (kdamond context scheme : Nat) (goals : List QuotaGoalConfig)
  | pauseContext (kdamond context : Nat)
  | resumeContext (kdamond context : Nat)
  | runtime (kdamond : Nat) (read : RuntimeRead)
  | isRunning (kdamond : Nat)
  | configuration
  | observedConfiguration
  | replaceStagedConfiguration (config : DamonConfig)
  | captureReceipt
  | close
  | drop
  deriving DecidableEq

namespace SessionOp

/-- Ignore the value of an operation. -/
def discard {α : Type} (program : Sysfs α) : Sysfs Unit := do
  let _ ← program

def program (damon : Damon) : SessionOp → Sysfs Unit
  | startAll => ManagedHierarchy.startAll
  | stopAll => ManagedHierarchy.stopAll
  | updateConfiguration config indices => ManagedHierarchy.updateConfiguration config indices
  | updateSchemeQuotaGoals kdamond context scheme goals =>
      ManagedHierarchy.updateSchemeQuotaGoals kdamond context scheme goals
  | pauseContext kdamond context => ManagedHierarchy.setContextPaused kdamond context true
  | resumeContext kdamond context => ManagedHierarchy.setContextPaused kdamond context false
  | runtime kdamond read =>
      discard (ManagedHierarchy.runtimeBatch kdamond (ManagedHierarchy.runtimeRead kdamond read))
  | isRunning kdamond => discard (ManagedHierarchy.isRunning kdamond)
  | configuration => discard ManagedHierarchy.configuration
  | observedConfiguration => discard ManagedHierarchy.observedConfiguration
  | replaceStagedConfiguration config => ManagedHierarchy.replaceStagedConfiguration config
  | captureReceipt => discard (PersistentReceipt.capture damon)
  | close => ManagedHierarchy.close
  | drop => ManagedHierarchy.drop

end SessionOp

/-- How a session begins. -/
inductive SessionStart where
  | managed (config : DamonConfig)
  | attached (receipt : PersistentReceipt)

namespace SessionStart

def program (damon : Damon) : SessionStart → Sysfs Unit
  | managed config => damon.managedHierarchy config
  | attached receipt => receipt.openManaged damon

/-- The thread that a receipt records for a kdamond. -/
def records (start : SessionStart) (index : Nat) (pid : Pid) : Prop :=
  match start with
  | managed _ => False
  | attached receipt => (index, pid) ∈ receipt.identityPairs

end SessionStart

/-- The operations of a session one after the other, whether or not they fail. -/
def runOperations (damon : Damon) : List SessionOp → Sysfs Unit
  | [] => pure ()
  | operation :: rest => do
      let _ ← Exec.attempt (operation.program damon)
      runOperations damon rest

/-- A session: its beginning, and the operations on the hierarchy it took over. -/
def runSession (damon : Damon) (start : SessionStart) (operations : List SessionOp) :
    Sysfs Unit := do
  start.program damon
  runOperations damon operations

end DamonRs
