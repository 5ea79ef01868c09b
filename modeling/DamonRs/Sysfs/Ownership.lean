import DamonRs.Library.Search
import DamonRs.Library.Sorted
import DamonRs.Sysfs.Reading
import Mathlib.Data.List.Lex
import Mathlib.Data.List.ReduceOption
import Mathlib.Data.Prod.Lex
import Mathlib.Data.String.Basic

/-!
# Captured configurations

Capturing, comparing and restoring the writable attributes of a hierarchy.
Comparisons may ignore an ordered list of paths; a restoration rewrites counts
before leaves, shallow paths before deep ones, and reads back what it restored.
-/

namespace DamonRs

open Library Sysfs

/-- Whether an ordered list of paths contains a path. -/
def containsPath (paths : List Path) (path : Path) : Bool :=
  (binarySearchByKey paths id path).found?.isSome

/-! ## Capturing -/

/-- The path itself, when it holds configuration. -/
def configurationFile? (root path : Path) : Sysfs (Option Path) :=
  match stripPrefix? root path with
  | none => Exec.fail (.io "inspect configuration path" path .invalidData)
  | some relative =>
      if Path.isRuntimeAttribute relative then pure none
      else do
        let writable ← pathIsWritable path
        pure (if writable then some path else none)

def writableConfigurationFiles (root : Path) : Sysfs (List Path) := do
  let files ← allFilesRecursive root
  let paths ← Exec.mapEach (configurationFile? root) files
  pure (paths.reduceOption.insertionSort (· ≤ ·))

def readConfigurationEntry (path : Path) : Sysfs ConfigurationEntry := do
  let value ← readConfigurationValue path
  pure ⟨path, value⟩

def captureConfiguration (root : Path) : Sysfs ConfigurationFingerprint := do
  let paths ← writableConfigurationFiles root
  let entries ← Exec.mapEach readConfigurationEntry paths
  pure ⟨entries⟩

/-! ## Comparing -/

/-- Whether every entry that is not skipped has its captured value. -/
def entriesMatch (skip : Path → Bool) : List ConfigurationEntry → Sysfs Bool
  | [] => pure true
  | entry :: rest => do
      if skip entry.path then entriesMatch skip rest
      else if ← readConfigurationValueEquals entry.path entry.value then entriesMatch skip rest
      else pure false

/-- The order in which entries are restored. -/
def restorationKey (root : Path) (entry : ConfigurationEntry) : Nat ×ₗ Bool ×ₗ Path :=
  let relative := (stripPrefix? root entry.path).getD entry.path
  toLex (relative.length, toLex (!Path.isReconstructionCount relative, entry.path))

/-- Write an entry back; a count always, a leaf only if its value differs. -/
def restoreEntry (ignored : List Path) (entry : ConfigurationEntry) : Sysfs Unit := do
  if containsPath ignored entry.path then pure ()
  else if Path.isReconstructionCount entry.path then writeBytes entry.path entry.value
  else if ← readConfigurationValueEquals entry.path entry.value then pure ()
  else writeBytes entry.path entry.value

namespace ConfigurationFingerprint

def matchesCurrentExcept (fingerprint : ConfigurationFingerprint) (ignored : List Path) :
    Sysfs Bool :=
  entriesMatch (containsPath ignored) fingerprint.entries

def matchesCurrent (fingerprint : ConfigurationFingerprint) : Sysfs Bool :=
  fingerprint.matchesCurrentExcept []

def equalsExcept (fingerprint other : ConfigurationFingerprint) (ignored : List Path) : Bool :=
  fingerprint.entries.filter (fun entry => !containsPath ignored entry.path) =
    other.entries.filter fun entry => !containsPath ignored entry.path

def matchesCurrentUnderExcept (fingerprint : ConfigurationFingerprint) (root : Path)
    (ignored : List Path) : Sysfs Bool :=
  let first := partitionPoint fingerprint.entries fun entry => entry.path < root
  entriesMatch (containsPath ignored)
    ((fingerprint.entries.drop first).takeWhile fun entry => root.isPrefixOf entry.path)

def matchesCurrentOutsideExcept (fingerprint : ConfigurationFingerprint) (ignoredRoot : Path)
    (ignored : List Path) : Sysfs Bool :=
  entriesMatch (fun path => ignoredRoot.isPrefixOf path || containsPath ignored path)
    fingerprint.entries

/-- Replace the entry of a captured path by its current value. -/
def refreshPath (fingerprint : ConfigurationFingerprint) (path : Path) :
    Sysfs ConfigurationFingerprint :=
  match binarySearchByKey fingerprint.entries ConfigurationEntry.path path with
  | .missing _ => Exec.fail (.ownershipLost "a controlled configuration path disappeared")
  | .found index => do
      let value ← readConfigurationValue path
      pure ⟨fingerprint.entries.modify index fun entry => { entry with value := value }⟩

def refreshedPathsExcept (fingerprint : ConfigurationFingerprint) (paths ignored : List Path) :
    Sysfs ConfigurationFingerprint := do
  let refreshed ← Exec.foldEach refreshPath fingerprint paths
  if ← refreshed.matchesCurrentExcept ignored then pure refreshed
  else Exec.fail (.ownershipLost "the staged writable configuration changed")

end ConfigurationFingerprint

/-! ## Snapshots -/

/-- A typed observation with every writable value. -/
structure ObservedConfiguration where
  configuration : DamonConfig
  writableValues : List ConfigurationEntry
  deriving DecidableEq

namespace ConfigurationSnapshot

def capture (root : Path) : Sysfs ConfigurationSnapshot := do
  let fingerprint ← captureConfiguration root
  pure ⟨root, fingerprint⟩

def entries (snapshot : ConfigurationSnapshot) : List ConfigurationEntry :=
  snapshot.fingerprint.entries

def matchesCurrentExcept (snapshot : ConfigurationSnapshot) (ignored : List Path) : Sysfs Bool :=
  snapshot.fingerprint.matchesCurrentExcept ignored

def matchesCompleteCurrentExcept (snapshot : ConfigurationSnapshot) (ignored : List Path) :
    Sysfs Bool := do
  let current ← captureConfiguration snapshot.root
  pure (snapshot.fingerprint.equalsExcept current ignored)

def matchesCurrentUnderExcept (snapshot : ConfigurationSnapshot) (root : Path)
    (ignored : List Path) : Sysfs Bool :=
  snapshot.fingerprint.matchesCurrentUnderExcept root ignored

def matchesCurrentOutsideExcept (snapshot : ConfigurationSnapshot) (ignoredRoot : Path)
    (ignored : List Path) : Sysfs Bool :=
  snapshot.fingerprint.matchesCurrentOutsideExcept ignoredRoot ignored

def refreshedPathsExcept (snapshot : ConfigurationSnapshot) (paths ignored : List Path) :
    Sysfs ConfigurationSnapshot := do
  let fingerprint ← snapshot.fingerprint.refreshedPathsExcept paths ignored
  pure ⟨snapshot.root, fingerprint⟩

/-- The entries with paths relative to the captured root. -/
def writableValues (snapshot : ConfigurationSnapshot) : List ConfigurationEntry :=
  snapshot.entries.map fun entry =>
    { entry with path := (stripPrefix? snapshot.root entry.path).getD entry.path }

def intoObserved (snapshot : ConfigurationSnapshot) (configuration : DamonConfig) :
    ObservedConfiguration :=
  ⟨configuration, snapshot.writableValues⟩

/-- The paths that a transaction may have changed, given the paths it wrote. -/
def pathsAffectedByWrites (snapshot : ConfigurationSnapshot) (writes : List Path) : List Path :=
  sortDedup (writes.flatMap fun write =>
    let relative := (stripPrefix? snapshot.root write).getD write
    if Path.isReconstructionCount relative then
      write :: (snapshot.entries.filter fun entry =>
        write.dropLast.isPrefixOf entry.path).map ConfigurationEntry.path
    else [write])

def matchesCurrent (snapshot : ConfigurationSnapshot) : Sysfs Bool := do
  let current ← captureConfiguration snapshot.root
  pure (current = snapshot.fingerprint)

/-- Compare the captured values without walking the directories again. -/
def valuesMatchCurrent (snapshot : ConfigurationSnapshot) : Sysfs Bool :=
  snapshot.fingerprint.matchesCurrent

/-- Entries in the order of their restoration. -/
def restorationOrder (snapshot : ConfigurationSnapshot) (entries : List ConfigurationEntry) :
    List ConfigurationEntry :=
  entries.insertionSort fun first second =>
    restorationKey snapshot.root first ≤ restorationKey snapshot.root second

def restoreExcept (snapshot : ConfigurationSnapshot) (ignored : List Path) : Sysfs Unit := do
  Exec.forEach (restoreEntry ignored) (snapshot.restorationOrder snapshot.entries)
  if ← snapshot.matchesCurrentExcept ignored then pure ()
  else Exec.fail (.ownershipLost
    "the restored hierarchy does not match its captured configuration")

def restore (snapshot : ConfigurationSnapshot) : Sysfs Unit := snapshot.restoreExcept []

def restorePathsExcept (snapshot : ConfigurationSnapshot) (paths ignored : List Path) :
    Sysfs Unit := do
  let selected := snapshot.entries.filter fun entry => containsPath paths entry.path
  Exec.forEach (restoreEntry ignored) (snapshot.restorationOrder selected)
  if ← entriesMatch (containsPath ignored) selected then pure ()
  else Exec.fail (.ownershipLost "a transaction path changed during partial rollback")

end ConfigurationSnapshot

namespace DamonAdmin

def configurationSnapshot : Sysfs ConfigurationSnapshot := ConfigurationSnapshot.capture []

def observedConfiguration : Sysfs ObservedConfiguration := do
  let snapshot ← configurationSnapshot
  let configuration ← configuration
  if ← snapshot.matchesCompleteCurrentExcept [] then pure (snapshot.intoObserved configuration)
  else Exec.fail (.ownershipLost "the DAMON hierarchy changed while it was being observed")

end DamonAdmin

end DamonRs
