import DamonRs.Receipt.Format
import DamonRs.Sysfs.Ownership
import DamonRs.Sysfs.Staging

/-!
# Locking, transactions and ownership checks

The advisory lock, staging a stopped hierarchy with its verification, its
restoration, and the ownership record that later operations compare against.
-/

namespace DamonRs

open Library Sysfs

/-- The paths a session is bound to. -/
structure Damon where
  adminPath : PathBuf
  lockPath : PathBuf
  deriving Repr, DecidableEq

/-! ## Paths of receipts -/

/-- A name as text; one that is not UTF-8 keeps its bytes behind a NUL, which no name contains. -/
def Component.name (component : Component) : String :=
  match Text.ofUtf8Bytes? component.asOsStr with
  | some text => text
  | none =>
      String.ofList (Char.ofNat 0 :: component.asOsStr.map fun byte => Char.ofNat byte.toNat)

def PathBuf.toPath (path : PathBuf) : Path := path.components.map Component.name

def Path.toPathBuf (path : Path) : PathBuf := .ofString ("/".intercalate path)

/-! ## The session lock -/

namespace SessionLock

def acquire (lockPath : PathBuf) : Sysfs Unit := do
  let env ← environment
  let world ← Exec.get
  match ← perform (.inspect lockPath.toPath) with
  | .failed fault =>
      if fault.stage = .opening then
        Exec.fail (.io "open session lock" lockPath.toPath (.os fault.errno))
      else Exec.fail (.io "lock session" lockPath.toPath (.os fault.errno))
  | _ =>
      if env.lockHeld world.clock then Exec.fail (.sessionLockBusy lockPath.toPath) else pure ()

end SessionLock

/-! ## Transactions on a stopped hierarchy -/

/-- A staged hierarchy with the one that preceded it. -/
structure StagedConfiguration where
  previous : ConfigurationSnapshot
  current : ConfigurationSnapshot

def replaceableConfigurationReadError : Error → Bool
  | .invalidConfiguration _ _ => true
  | .invalidKernelValue _ _ _ => true
  | _ => false

def ensureKdamondStopped (index : Nat) : Sysfs Unit := do
  match ← (DamonAdmin.kdamond index).state with
  | .off => pure ()
  | .on => Exec.fail (.kdamondRunning index)
  | .unknown state => Exec.fail (.unexpectedKdamondState state)

def ensureHierarchyStopped : Sysfs Unit := do
  let count ← DamonAdmin.kdamondCount
  Exec.forEach ensureKdamondStopped (List.range count)
  let current ← DamonAdmin.kdamondCount
  if current ≠ count then
    Exec.fail (.ownershipLost "the kdamond count changed while checking transaction safety")
  else pure ()

/-- Fail with the first difference between a request and an observation. -/
def requireEquivalent (config observed : DamonConfig) : Sysfs Unit :=
  match config.mismatchError observed with
  | some error => Exec.fail error
  | none => pure ()

/-- Fail when a comparison has found a difference. -/
def requireOwned (reason : String) (comparison : Sysfs Bool) : Sysfs Unit := do
  if ← comparison then pure () else Exec.fail (.ownershipLost reason)

def stageAndVerifyConfiguration (config : DamonConfig) (observed : Option DamonConfig) :
    Sysfs ConfigurationSnapshot := do
  retryBusy do
    ensureHierarchyStopped
    DamonAdmin.stageConfigurationFrom config observed
  retryBusy ensureHierarchyStopped
  let staged ← retryBusy DamonAdmin.configurationSnapshot
  let observed ← retryBusy DamonAdmin.configuration
  requireEquivalent config observed
  requireOwned "the staged DAMON hierarchy changed during verification"
    (retryBusy staged.valuesMatchCurrent)
  retryBusy ensureHierarchyStopped
  pure staged

def restoreConfiguration (snapshot : ConfigurationSnapshot) : Sysfs Unit := do
  retryBusy ensureHierarchyStopped
  retryBusy do
    ensureHierarchyStopped
    snapshot.restore
  retryBusy ensureHierarchyStopped
  requireOwned "the restored DAMON hierarchy changed during verification"
    (retryBusy snapshot.matchesCurrent)

/-! ## The ownership record -/

namespace StagedOwnership

/-- The interval leaves that the kernel tunes in a context. -/
def tunedLeaves (context : Context) (config : ContextConfig) : List Path :=
  if config.intervalsGoal.aggregationIntervals = 0 then []
  else [context.intervalsPath ++ ["sample_us"], context.intervalsPath ++ ["aggr_us"]]

def new (configuration : ConfigurationSnapshot) (config : DamonConfig) : StagedOwnership where
  configuration := configuration
  volatilePaths := (config.kdamonds.zipIdx.flatMap fun (kdamond, kdamondIndex) =>
    kdamond.contexts.zipIdx.flatMap fun (context, contextIndex) =>
      tunedLeaves ((DamonAdmin.kdamond kdamondIndex).context contextIndex) context).insertionSort
        (· ≤ ·)
  kdamondCount := config.kdamonds.length

def fromParts (configuration : ConfigurationSnapshot) (volatilePaths : List Path)
    (kdamondCount : Nat) : StagedOwnership where
  configuration := configuration
  volatilePaths := sortDedup volatilePaths
  kdamondCount := kdamondCount

def verifyCount (staged : StagedOwnership) : Sysfs Unit := do
  let count ← DamonAdmin.kdamondCount
  if count ≠ staged.kdamondCount then
    Exec.fail (.ownershipLost "the staged kdamond count changed")
  else pure ()

def verify (staged : StagedOwnership) : Sysfs Unit := do
  staged.verifyCount
  requireOwned "the staged writable configuration changed"
    (staged.configuration.matchesCurrentExcept staged.volatilePaths)

def verifyComplete (staged : StagedOwnership) : Sysfs Unit := do
  staged.verifyCount
  requireOwned "the complete staged writable hierarchy changed"
    (staged.configuration.matchesCompleteCurrentExcept staged.volatilePaths)

def verifyKdamondConfiguration (staged : StagedOwnership) (index : Nat) : Sysfs Unit :=
  requireOwned "the staged writable configuration changed"
    (staged.configuration.matchesCurrentUnderExcept (DamonAdmin.kdamond index).path
      staged.volatilePaths)

def withConfiguration (staged : StagedOwnership) (configuration : ConfigurationSnapshot) :
    StagedOwnership :=
  { staged with configuration := configuration }

end StagedOwnership

def runningThreadPid (kdamond : Kdamond) : Sysfs Pid := do
  match ← retryBusy kdamond.state with
  | .off => Exec.fail .notRunning
  | .unknown state => Exec.fail (.unexpectedKdamondState state)
  | .on => do
      match ← retryBusy kdamond.pid with
      | some pid => pure pid
      | none =>
          Exec.fail (.ownershipLost "a running kdamond did not expose a kernel-thread ID")

def withRollback (operation : Error) (rollback : Except Error Unit) : Error :=
  match rollback with
  | .ok () => operation
  | .error rollback => .rollback operation rollback

end DamonRs
