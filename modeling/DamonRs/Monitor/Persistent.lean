import DamonRs.Monitor.Session

/-!
# Persistent hierarchies

A receipt of a running hierarchy can be opened again: it is checked against
the paths and the boot it is bound to, and the hierarchy against the receipt.
Every operation on an attached hierarchy opens the receipt and captures a new
one afterwards.
-/

namespace DamonRs

open Library Sysfs

/-- The file that identifies the current boot. -/
def bootIdPath : Path := ["/", "proc", "sys", "kernel", "random", "boot_id"]

def currentBootId : Sysfs String := do
  let env ← environment
  match ← perform (.inspect bootIdPath) with
  | .failed fault => Exec.fail (.io "read Linux boot identifier" bootIdPath (.os fault.errno))
  | _ => do
      let value := Text.trim env.bootId
      Exec.ofExcept (Receipt.validateBootId value)
      pure value

namespace ConfigurationSnapshot

/-- Every component of a relative path names a child. -/
def isNormalPath (path : PathBuf) : Bool :=
  !path.bytes.isEmpty && !path.isAbsolute && path.components.all Component.isNormal

def fromWritableValues (values : List WritableConfigurationValue) :
    Except Error ConfigurationSnapshot := do
  if !values.all fun value => isNormalPath value.path then
    throw (.invalidReceipt "contains a non-relative writable path")
  let entries := (values.map fun value =>
    ConfigurationEntry.mk value.path.toPath value.value).insertionSort fun first second =>
      first.path ≤ second.path
  if !(entries.map ConfigurationEntry.path).Nodup then
    throw (.invalidReceipt "contains duplicate writable paths")
  pure ⟨[], ⟨entries⟩⟩

end ConfigurationSnapshot

namespace ManagedHierarchy

/-- The identities of the running kdamonds, each of which must be known. -/
def runningIdentities : List (KdamondSessionState × Nat) →
    Except Error (List PersistentKdamondIdentity)
  | [] => .ok []
  | (.running pid, index) :: rest => do
      let identities ← runningIdentities rest
      pure (⟨index, pid⟩ :: identities)
  | (.staged, _) :: rest => runningIdentities rest
  | (.unidentifiedRunning, _) :: _ => .error identityNotCaptured

end ManagedHierarchy

namespace PersistentReceipt

def capture (damon : Damon) : Sysfs PersistentReceipt := do
  ManagedHierarchy.verifyOwnedState
  let self ← getSelf
  self.staged.verifyComplete
  let identities ← Exec.ofExcept (ManagedHierarchy.runningIdentities self.states.zipIdx)
  let bootId ← currentBootId
  pure
    { adminPath := damon.adminPath
      lockPath := damon.lockPath
      bootId := bootId
      writableValues := self.staged.configuration.writableValues.map fun entry =>
        ⟨entry.path.toPathBuf, entry.value⟩
      volatilePaths := self.staged.volatilePaths.map Path.toPathBuf
      kdamondCount := self.states.length
      identities := identities }

def verifyBinding (receipt : PersistentReceipt) (damon : Damon) : Sysfs Unit := do
  if receipt.adminPath.components ≠ damon.adminPath.components then
    Exec.fail (.receiptMismatch "DAMON admin path differs")
  else if receipt.lockPath.components ≠ damon.lockPath.components then
    Exec.fail (.receiptMismatch "advisory lock path differs")
  else do
    let bootId ← currentBootId
    if receipt.bootId ≠ bootId then
      Exec.fail (.receiptMismatch "Linux boot identifier differs")
    else pure ()

/-- The recorded identities as pairs. -/
def identityPairs (receipt : PersistentReceipt) : List (Nat × Pid) :=
  receipt.identities.map fun identity => (identity.index, identity.pid)

def openManaged (receipt : PersistentReceipt) (damon : Damon) : Sysfs Unit := do
  receipt.verifyBinding damon
  SessionLock.acquire damon.lockPath
  let configuration ← Exec.ofExcept
    (ConfigurationSnapshot.fromWritableValues receipt.writableValues)
  let staged := StagedOwnership.fromParts configuration
    (receipt.volatilePaths.map PathBuf.toPath) receipt.kdamondCount
  ManagedHierarchy.attachPersistent staged receipt.identityPairs

end PersistentReceipt

/-- A handle that verifies its receipt for each operation. -/
structure AttachedHierarchy where
  damon : Damon
  receipt : PersistentReceipt
  deriving DecidableEq

namespace AttachedHierarchy

/-- Run an operation on the opened hierarchy and let go of it. -/
def withManaged {α : Type} (attached : AttachedHierarchy) (operation : Sysfs α) : Sysfs α := do
  attached.receipt.openManaged attached.damon
  let outcome ← Exec.attempt operation
  ManagedHierarchy.disarmCleanup
  ManagedHierarchy.release
  Exec.ofExcept outcome

def configuration (attached : AttachedHierarchy) : Sysfs DamonConfig :=
  attached.withManaged ManagedHierarchy.configuration

def observedConfiguration (attached : AttachedHierarchy) : Sysfs ObservedConfiguration :=
  attached.withManaged ManagedHierarchy.observedConfiguration

/-- Run a mutation and capture a new receipt, whatever the outcome of the mutation. -/
def mutate (attached : AttachedHierarchy) (mutation : Sysfs Unit) :
    Sysfs (Except Error Unit × AttachedHierarchy) := do
  match ← Exec.attempt (attached.receipt.openManaged attached.damon) with
  | .error error => pure (.error error, attached)
  | .ok () => do
      let operation ← Exec.attempt mutation
      let receipt ← Exec.attempt (PersistentReceipt.capture attached.damon)
      ManagedHierarchy.disarmCleanup
      ManagedHierarchy.release
      match operation, receipt with
      | .ok (), .ok receipt => pure (.ok (), { attached with receipt := receipt })
      | .error operation, .ok receipt =>
          pure (.error operation, { attached with receipt := receipt })
      | .ok (), .error verification =>
          pure (.error (.stateUncertain none verification), attached)
      | .error operation, .error verification =>
          pure (.error (.stateUncertain (some operation) verification), attached)

def updateSelected (attached : AttachedHierarchy) (config : DamonConfig) (indices : List Nat) :
    Sysfs (Except Error Unit × AttachedHierarchy) :=
  attached.mutate (ManagedHierarchy.updateConfiguration config indices)

def update (attached : AttachedHierarchy) (config : DamonConfig) :
    Sysfs (Except Error Unit × AttachedHierarchy) :=
  attached.updateSelected config
    (attached.receipt.identities.map PersistentKdamondIdentity.index)

def stop (attached : AttachedHierarchy) : Sysfs (Except Error Unit × AttachedHierarchy) :=
  attached.mutate ManagedHierarchy.stopAll

end AttachedHierarchy

namespace Damon

def startPersistent (damon : Damon) (config : DamonConfig) : Sysfs PersistentReceipt := do
  damon.managedHierarchy config
  match ← Exec.attempt ManagedHierarchy.startAll with
  | .error error => do
      ManagedHierarchy.drop
      Exec.fail error
  | .ok () => do
      match ← Exec.attempt (PersistentReceipt.capture damon) with
      | .ok receipt => do
          ManagedHierarchy.disarmCleanup
          ManagedHierarchy.release
          pure receipt
      | .error operation => do
          let outcome ← Exec.attempt ManagedHierarchy.closeInner
          ManagedHierarchy.drop
          Exec.fail (withRollback operation outcome)

def attach (damon : Damon) (receipt : PersistentReceipt) : Sysfs AttachedHierarchy := do
  receipt.openManaged damon
  ManagedHierarchy.disarmCleanup
  ManagedHierarchy.release
  pure ⟨damon, receipt⟩

end Damon

end DamonRs
