import DamonRs.Monitor.Batch
import DamonRs.Monitor.Restoring
import DamonRs.Monitor.SelectedUpdate
import DamonRs.Monitor.Workflow

/-!
# Monitors

A monitor runs a workflow on one kdamond of an exclusive session.  It takes
snapshots through query schemes that are installed for good, or only while a
snapshot is taken.  Whatever a monitor does, the snapshots it holds are those
of its query, and stopping it restores what the session found.
-/

namespace DamonRs

open Library Sysfs

/-! ## Exclusive sessions -/

namespace ExclusiveSession

def requireOneKdamond (config : DamonConfig) (operation : Sysfs Unit) : Sysfs Unit :=
  if config.kdamonds.length ≠ 1 then
    Exec.fail (.invalidConfiguration "exclusive session kdamond count"
      "must contain exactly one kdamond")
  else operation

def updateConfiguration (config : DamonConfig) : Sysfs Unit :=
  requireOneKdamond config (ManagedHierarchy.updateConfiguration config [0])

def setPaused (paused : Bool) : Sysfs Unit := do
  let _ ← ManagedHierarchy.expectedRunningPid 0
  ManagedHierarchy.setContextPaused 0 0 paused

def runtimeBatch {α : Type} (closure : ManagedHierarchy.BatchClosure α) : Sysfs α :=
  ManagedHierarchy.runtimeBatch 0 (closure.operation 0)

/-- A batch that refreshes nothing, between checks of the whole session. -/
def readBatch {α : Type} (closure : ManagedHierarchy.BatchClosure α) : Sysfs α := do
  ManagedHierarchy.verifyOwnedState
  let result ← Exec.attempt do
    let _ ← ManagedHierarchy.expectedRunningPid 0
    closure.operation 0
  ManagedHierarchy.verifyOwnedState
  Exec.ofExcept result

def scheme (context scheme : Nat) : Sysfs Scheme := do
  let kdamond := ManagedHierarchy.kdamond 0
  let contextCount ← kdamond.contextCount
  if context ≥ contextCount then Exec.fail (.indexOutOfBounds "context" context contextCount)
  else do
    let schemeCount ← (kdamond.context context).schemeCount
    if scheme ≥ schemeCount then Exec.fail (.indexOutOfBounds "scheme" scheme schemeCount)
    else pure ((kdamond.context context).scheme scheme)

/-- Read what a scheme shows without a refresh. -/
def cachedRead {α : Type} (index : Nat) (read : Scheme → Sysfs α) : Sysfs α := do
  ManagedHierarchy.verifyRunning 0
  let scheme ← scheme 0 index
  let value ← read scheme
  ManagedHierarchy.verifyRunningIdentity 0
  pure value

def isRunning : Sysfs Bool := ManagedHierarchy.isRunning 0

end ExclusiveSession

/-! ## Batches of a monitor -/

namespace ManagedHierarchy.BatchClosure

variable {α : Type}

/-- Go on with the value of a call; every failure ends the batch. -/
def collect (call : RuntimeRead) (value? : RuntimeResult → Option α)
    (next : α → BatchClosure (List α)) : BatchClosure (List α) :=
  .call call fun outcome =>
    match outcome with
    | .error error => .done (.error error)
    | .ok result =>
        match value? result with
        | some value => next value
        -- The result of a call is of the kind that the call returns.
        | none => .done (.error .notRunning)

/-- Make calls for several schemes, of which only the first may refresh. -/
def eachScheme (call : Nat → Bool → RuntimeRead) (value? : RuntimeResult → Option α) :
    Bool → List α → List Nat → BatchClosure (List α)
  | _, values, [] => .done (.ok values)
  | refresh, values, index :: rest =>
      collect (call index refresh) value? fun value =>
        eachScheme call value? false (values ++ [value]) rest

end ManagedHierarchy.BatchClosure

namespace RuntimeResult

def stats? : RuntimeResult → Option SchemeStats
  | .stats found => some found
  | _ => none

def regions? : RuntimeResult → Option RawSnapshot
  | .regions found => some found
  | _ => none

def units? : RuntimeResult → Option UInt64
  | .units found => some found
  | _ => none

end RuntimeResult

/-! ## Snapshots -/

/-- A point-in-time set of results with a known byte scale. -/
structure Snapshot where
  raw : RawSnapshot
  addressUnit : AddressUnit
  deriving DecidableEq

structure ScopedSnapshot where
  kdamondIndex : Nat
  contextIndex : Nat
  schemeIndex : Nat
  scope : SnapshotScope
  snapshot : Snapshot
  deriving DecidableEq

namespace ScopedSnapshot

def new (addressUnit : AddressUnit) (descriptor : SnapshotDescriptor) (raw : RawSnapshot) :
    ScopedSnapshot :=
  ⟨0, 0, descriptor.schemeIndex, descriptor.scope, ⟨raw, addressUnit⟩⟩

/-- Where a snapshot comes from. -/
def descriptor (snapshot : ScopedSnapshot) : SnapshotDescriptor :=
  ⟨snapshot.schemeIndex, snapshot.scope⟩

end ScopedSnapshot

/-- Refresh the tried regions once and read those of every query scheme. -/
def materializeScopedSnapshots (descriptors : List SnapshotDescriptor)
    (addressUnit : AddressUnit) : Sysfs (List ScopedSnapshot) :=
  if descriptors.isEmpty then
    Exec.fail (.invalidConfiguration "snapshot query schemes" "requires at least one scheme")
  else do
    let snapshots ← ExclusiveSession.runtimeBatch (.eachScheme (.triedRegions 0)
      RuntimeResult.regions? true [] (descriptors.map SnapshotDescriptor.schemeIndex))
    pure ((descriptors.zip snapshots).map fun pair => .new addressUnit pair.1 pair.2)

/-! ## Monitors -/

inductive SnapshotQuery where
  | unsupported
  | permanent (descriptors : List SnapshotDescriptor)
  | onDemand (baseConfig queryConfig : DamonConfig) (descriptors : List SnapshotDescriptor)
      (installed : Bool)
  deriving DecidableEq

/-- A running monitor; stopping consumes it together with its session. -/
structure Monitor where
  /-- Whether the kernel reports the effective bytes of quotas. -/
  effectiveQuotaSupported : Bool
  effectiveAddressUnit : AddressUnit
  snapshotQuery : SnapshotQuery
  customSchemeCount : Nat
  cachedSnapshots : List ScopedSnapshot
  deriving DecidableEq

namespace SnapshotQuery

/-- The query schemes of a monitor; there are none where snapshots are not supported. -/
def descriptors : SnapshotQuery → List SnapshotDescriptor
  | unsupported => []
  | permanent descriptors => descriptors
  | onDemand _ _ descriptors _ => descriptors

def resultCount : SnapshotQuery → Option Nat
  | unsupported => none
  | permanent descriptors => some descriptors.length
  | onDemand _ _ descriptors _ => some descriptors.length

/-- Remember whether the query is installed. -/
def withInstalled (installed : Bool) : SnapshotQuery → SnapshotQuery
  | onDemand base query descriptors _ => onDemand base query descriptors installed
  | other => other

end SnapshotQuery

namespace Monitor

/-- What a call of a monitor returns, and the monitor after it. -/
abbrev Call (α : Type) := Monitor → Sysfs (Except Error α × Monitor)

/-- A call that leaves the monitor as it is. -/
def unchanged {α : Type} (program : Monitor → Sysfs α) : Call α := fun monitor => do
  let outcome ← Exec.attempt (program monitor)
  pure (outcome, monitor)

def validateCustomSchemeIndex (monitor : Monitor) (index : Nat) : Sysfs Unit :=
  if index ≥ monitor.customSchemeCount then
    Exec.fail (.indexOutOfBounds "custom scheme" index monitor.customSchemeCount)
  else pure ()

def ensureEffectiveQuotaSupported (monitor : Monitor) : Sysfs Unit :=
  if monitor.effectiveQuotaSupported then pure ()
  else Exec.fail (.unsupportedFeature "DAMOS effective quota reporting")

def schemeStats (index : Nat) : Call RuntimeResult := unchanged fun monitor => do
  monitor.validateCustomSchemeIndex index
  ManagedHierarchy.runtimeBatch 0 (ManagedHierarchy.runtimeRead 0 (.schemeStats 0 index true))

def cachedSchemeStats (index : Nat) : Call SchemeStats := unchanged fun monitor => do
  monitor.validateCustomSchemeIndex index
  ExclusiveSession.cachedRead index Scheme.stats

def schemeStatsAll : Call (List SchemeStats) := unchanged fun monitor =>
  ExclusiveSession.runtimeBatch (.eachScheme (.schemeStats 0) RuntimeResult.stats? true []
    (List.range monitor.customSchemeCount))

def cachedSchemeStatsAll : Call (List SchemeStats) := unchanged fun monitor =>
  ExclusiveSession.readBatch (.eachScheme (.schemeStats 0) RuntimeResult.stats? false []
    (List.range monitor.customSchemeCount))

def effectiveQuotaUnits (index : Nat) : Call RuntimeResult := unchanged fun monitor => do
  monitor.validateCustomSchemeIndex index
  monitor.ensureEffectiveQuotaSupported
  ManagedHierarchy.runtimeBatch 0
    (ManagedHierarchy.runtimeRead 0 (.effectiveQuotaUnits 0 index true))

def cachedEffectiveQuotaUnits (index : Nat) : Call UInt64 := unchanged fun monitor => do
  monitor.validateCustomSchemeIndex index
  monitor.ensureEffectiveQuotaSupported
  ExclusiveSession.cachedRead index fun scheme => scheme.quotas.effectiveSizeUnits

def effectiveQuotaUnitsAll : Call (List UInt64) := unchanged fun monitor => do
  monitor.ensureEffectiveQuotaSupported
  ExclusiveSession.runtimeBatch (.eachScheme (.effectiveQuotaUnits 0) RuntimeResult.units? true []
    (List.range monitor.customSchemeCount))

def cachedEffectiveQuotaUnitsAll : Call (List UInt64) := unchanged fun monitor => do
  monitor.ensureEffectiveQuotaSupported
  ExclusiveSession.readBatch (.eachScheme (.effectiveQuotaUnits 0) RuntimeResult.units? false []
    (List.range monitor.customSchemeCount))

def pause : Call Unit := unchanged fun _ => ExclusiveSession.setPaused true

def resume : Call Unit := unchanged fun _ => ExclusiveSession.setPaused false

def isRunning : Call Bool := unchanged fun _ => ExclusiveSession.isRunning

/-- Keep the snapshots of a successful call. -/
def cache (monitor : Monitor) (snapshots : List ScopedSnapshot) : Monitor :=
  { monitor with cachedSnapshots := snapshots }

def withInstalled (monitor : Monitor) (installed : Bool) : Monitor :=
  { monitor with snapshotQuery := monitor.snapshotQuery.withInstalled installed }

/-- Put the workflow back after a snapshot was taken, or was not. -/
def uninstall (base : DamonConfig) (operation : Except Error (List ScopedSnapshot)) : Call Unit :=
  fun monitor => do
    match ← Exec.attempt (ExclusiveSession.updateConfiguration base), operation with
    | .ok (), .ok snapshots => pure (.ok (), (monitor.withInstalled false).cache snapshots)
    | .ok (), .error operation => pure (.error operation, monitor.withInstalled false)
    | .error restoration, .ok _ => pure (.error restoration, monitor)
    | .error restoration, .error operation =>
        pure (.error (.rollback operation restoration), monitor)

/-- Take snapshots through an installed query, and remove it unless the ownership was lost. -/
def materializeInstalled (base : DamonConfig) (descriptors : List SnapshotDescriptor) :
    Call Unit := fun monitor => do
  match ← Exec.attempt (materializeScopedSnapshots descriptors monitor.effectiveAddressUnit) with
  | .error (.ownershipLost reason) => pure (.error (.ownershipLost reason), monitor)
  | operation => uninstall base operation monitor

/-- Install the query of a monitor, unless it still is. -/
def install (query : DamonConfig) (installed : Bool) : Sysfs Unit :=
  if installed then pure () else ExclusiveSession.updateConfiguration query

def materializeSnapshots : Call Unit := fun monitor =>
  match monitor.snapshotQuery with
  | .unsupported => pure (.error (.unsupportedFeature "DAMOS tried-region queries"), monitor)
  | .permanent descriptors => do
      match ← Exec.attempt
        (materializeScopedSnapshots descriptors monitor.effectiveAddressUnit) with
      | .ok snapshots => pure (.ok (), monitor.cache snapshots)
      | .error error => pure (.error error, monitor)
  | .onDemand base query descriptors installed => do
      match ← Exec.attempt (install query installed) with
      | .error error => pure (.error error, monitor)
      | .ok () => materializeInstalled base descriptors (monitor.withInstalled true)

/-- A call for a single snapshot fails where the query has another number of results. -/
def singular {α : Type} (call : Call α) : Call α := fun monitor =>
  match monitor.snapshotQuery.resultCount.filter (· ≠ 1) with
  | some count => pure (.error (.multipleSnapshotResults count), monitor)
  | none => call monitor

def noResult : Error :=
  .ownershipLost "a successful singular snapshot request returned no result"

def materializeSnapshot : Call ScopedSnapshot := singular fun monitor => do
  match ← materializeSnapshots monitor with
  | (.error error, monitor) => pure (.error error, monitor)
  | (.ok (), monitor) =>
      match monitor.cachedSnapshots.head? with
      | some snapshot => pure (.ok snapshot, monitor)
      | none => pure (.error noResult, monitor)

/-- The last snapshot goes to the caller. -/
def materializeSnapshotOwned : Call ScopedSnapshot := singular fun monitor => do
  match ← materializeSnapshots monitor with
  | (.error error, monitor) => pure (.error error, monitor)
  | (.ok (), monitor) =>
      match monitor.cachedSnapshots.getLast? with
      | some snapshot => pure (.ok snapshot, monitor.cache monitor.cachedSnapshots.dropLast)
      | none => pure (.error noResult, monitor)

def takeCachedSnapshots : Call (List ScopedSnapshot) := fun monitor =>
  pure (.ok monitor.cachedSnapshots, monitor.cache [])

/-- All snapshots go to the caller. -/
def materializeSnapshotsOwned : Call (List ScopedSnapshot) := fun monitor => do
  match ← materializeSnapshots monitor with
  | (.error error, monitor) => pure (.error error, monitor)
  | (.ok (), monitor) => takeCachedSnapshots monitor

/-- Stopping closes the session. -/
def stop : Sysfs Unit := ManagedHierarchy.close

end Monitor

/-- A call on a monitor. -/
inductive MonitorOp where
  | schemeStats (index : Nat)
  | cachedSchemeStats (index : Nat)
  | schemeStatsAll
  | cachedSchemeStatsAll
  | effectiveQuotaUnits (index : Nat)
  | cachedEffectiveQuotaUnits (index : Nat)
  | effectiveQuotaUnitsAll
  | cachedEffectiveQuotaUnitsAll
  | pause
  | resume
  | isRunning
  | materializeSnapshot
  | materializeSnapshots
  | materializeSnapshotOwned
  | materializeSnapshotsOwned
  | takeCachedSnapshots
  deriving DecidableEq

namespace MonitorOp

/-- The monitor after a call, whatever the call returned. -/
def after {α : Type} (call : Monitor.Call α) : Monitor → Sysfs Monitor := fun monitor => do
  let result ← call monitor
  pure result.2

def program : MonitorOp → Monitor → Sysfs Monitor
  | schemeStats index => after (Monitor.schemeStats index)
  | cachedSchemeStats index => after (Monitor.cachedSchemeStats index)
  | schemeStatsAll => after Monitor.schemeStatsAll
  | cachedSchemeStatsAll => after Monitor.cachedSchemeStatsAll
  | effectiveQuotaUnits index => after (Monitor.effectiveQuotaUnits index)
  | cachedEffectiveQuotaUnits index => after (Monitor.cachedEffectiveQuotaUnits index)
  | effectiveQuotaUnitsAll => after Monitor.effectiveQuotaUnitsAll
  | cachedEffectiveQuotaUnitsAll => after Monitor.cachedEffectiveQuotaUnitsAll
  | pause => after Monitor.pause
  | resume => after Monitor.resume
  | isRunning => after Monitor.isRunning
  | materializeSnapshot => after Monitor.materializeSnapshot
  | materializeSnapshots => after Monitor.materializeSnapshots
  | materializeSnapshotOwned => after Monitor.materializeSnapshotOwned
  | materializeSnapshotsOwned => after Monitor.materializeSnapshotsOwned
  | takeCachedSnapshots => after Monitor.takeCachedSnapshots

end MonitorOp

/-- Calls on a monitor one after the other. -/
def runMonitor : List MonitorOp → Monitor → Sysfs Monitor
  | [], monitor => pure monitor
  | operation :: rest, monitor => do
      let monitor ← operation.program monitor
      runMonitor rest monitor

/-! ## What a monitor holds -/

section Batches

variable {α : Type} {index : Nat} {result : List α}

open ManagedHierarchy

/-- A batch returns one value for each scheme, after those it had. -/
theorem eachScheme_returns {call : Nat → Bool → RuntimeRead} {value? : RuntimeResult → Option α}
    {refresh : Bool} {values : List α} {schemes : List Nat} {counts : BatchCache}
    (returns : Exec.Returns ((BatchClosure.eachScheme call value? refresh values schemes).runWith
      index counts) result) : result.length = values.length + schemes.length := by
  induction schemes generalizing refresh values counts with
  | nil =>
      obtain ⟨env, world, after, run⟩ := returns
      cases run
      rfl
  | cons scheme rest ih =>
      obtain ⟨called, -, continued⟩ := Exec.returns_bind returns
      obtain ⟨outcome, counts⟩ := called
      cases outcome with
      | error error =>
          obtain ⟨env, world, after, run⟩ := continued
          cases run
      | ok found =>
          dsimp only at continued
          cases known : value? found with
          | none =>
              rw [known] at continued
              obtain ⟨env, world, after, run⟩ := continued
              cases run
          | some value =>
              rw [known] at continued
              rw [ih continued, List.length_append, List.length_singleton, List.length_cons]
              omega

theorem runtimeBatch_returns {value : α} {program : Sysfs α}
    (returns : Exec.Returns (ManagedHierarchy.runtimeBatch index program) value) :
    Exec.Returns program value := by
  obtain ⟨_, -, returns⟩ := Exec.returns_bind returns
  obtain ⟨_, -, returns⟩ := Exec.returns_bind returns
  obtain ⟨outcome, attempted, returns⟩ := Exec.returns_bind returns
  obtain ⟨_, -, env, world, after, run⟩ := Exec.returns_bind returns
  cases outcome with
  | ok found =>
      cases run
      exact Exec.returns_of_attempt attempted
  | error error => cases run

end Batches

/-- Snapshots of a query, in the order of its schemes. -/
structure ScopedTo (descriptors : List SnapshotDescriptor) (addressUnit : AddressUnit)
    (snapshots : List ScopedSnapshot) : Prop where
  listed : snapshots.map ScopedSnapshot.descriptor = descriptors
  placed : ∀ snapshot ∈ snapshots, snapshot.kdamondIndex = 0 ∧ snapshot.contextIndex = 0 ∧
    snapshot.snapshot.addressUnit = addressUnit

theorem materializeScopedSnapshots_returns {descriptors : List SnapshotDescriptor}
    {addressUnit : AddressUnit} {snapshots : List ScopedSnapshot}
    (returns : Exec.Returns (materializeScopedSnapshots descriptors addressUnit) snapshots) :
    ScopedTo descriptors addressUnit snapshots := by
  unfold materializeScopedSnapshots at returns
  split at returns
  · exact absurd returns Exec.not_returns_fail
  obtain ⟨raw, read, made⟩ := Exec.returns_bind returns
  rw [Exec.returns_pure made]
  have lengths : raw.length = descriptors.length := by
    have counted := eachScheme_returns (runtimeBatch_returns read)
    rwa [List.length_map, List.length_nil, Nat.zero_add] at counted
  constructor
  · rw [List.map_map]
    have each : (ScopedSnapshot.descriptor ∘ fun pair : SnapshotDescriptor × RawSnapshot =>
        ScopedSnapshot.new addressUnit pair.1 pair.2) = Prod.fst := rfl
    rw [each, List.map_fst_zip (le_of_eq lengths.symm)]
  · intro snapshot member
    obtain ⟨pair, -, rfl⟩ := List.mem_map.mp member
    exact ⟨rfl, rfl, rfl⟩

namespace Monitor

/-- What stays the same of a monitor, and what it may hold. -/
structure Holds (descriptors : List SnapshotDescriptor) (addressUnit : AddressUnit)
    (monitor : Monitor) : Prop where
  query : monitor.snapshotQuery.descriptors = descriptors
  unit : monitor.effectiveAddressUnit = addressUnit
  cached : monitor.cachedSnapshots = [] ∨
    ScopedTo descriptors addressUnit monitor.cachedSnapshots

section Holds

variable {descriptors : List SnapshotDescriptor} {addressUnit : AddressUnit}

theorem Holds.cache {monitor : Monitor} (holds : Holds descriptors addressUnit monitor)
    {snapshots : List ScopedSnapshot}
    (listed : snapshots = [] ∨ ScopedTo descriptors addressUnit snapshots) :
    Holds descriptors addressUnit (monitor.cache snapshots) :=
  ⟨holds.query, holds.unit, listed⟩

theorem SnapshotQuery.withInstalled_descriptors (query : SnapshotQuery) (installed : Bool) :
    (query.withInstalled installed).descriptors = query.descriptors := by
  cases query <;> rfl

theorem Holds.withInstalled {monitor : Monitor} (holds : Holds descriptors addressUnit monitor)
    (installed : Bool) : Holds descriptors addressUnit (monitor.withInstalled installed) :=
  ⟨(SnapshotQuery.withInstalled_descriptors _ _).trans holds.query, holds.unit,
    holds.cached⟩

/-- A call that keeps what a monitor holds, and takes all snapshots when it succeeds. -/
structure Takes (descriptors : List SnapshotDescriptor) (addressUnit : AddressUnit)
    (outcome : Except Error Unit) (monitor : Monitor) : Prop where
  holds : Holds descriptors addressUnit monitor
  taken : outcome = .ok () → ScopedTo descriptors addressUnit monitor.cachedSnapshots

theorem Takes.failed {monitor : Monitor} (holds : Holds descriptors addressUnit monitor)
    (error : Error) : Takes descriptors addressUnit (.error error) monitor :=
  ⟨holds, fun succeeded => nomatch succeeded⟩

theorem Takes.succeeded {monitor : Monitor} (holds : Holds descriptors addressUnit monitor)
    {snapshots : List ScopedSnapshot} (listed : ScopedTo descriptors addressUnit snapshots) :
    Takes descriptors addressUnit (.ok ()) (monitor.cache snapshots) :=
  ⟨holds.cache (.inr listed), fun _ => listed⟩

theorem uninstall_takes {base : DamonConfig} {operation : Except Error (List ScopedSnapshot)}
    {monitor after : Monitor} {outcome : Except Error Unit}
    (holds : Holds descriptors addressUnit monitor)
    (listed : ∀ snapshots, operation = .ok snapshots → ScopedTo descriptors addressUnit snapshots)
    (returns : Exec.Returns (uninstall base operation monitor) (outcome, after)) :
    Takes descriptors addressUnit outcome after := by
  obtain ⟨restoration, -, decided⟩ := Exec.returns_bind returns
  cases restoration with
  | ok value =>
      cases operation with
      | ok snapshots =>
          cases Exec.returns_pure decided
          exact .succeeded (holds.withInstalled false) (listed snapshots rfl)
      | error error =>
          cases Exec.returns_pure decided
          exact .failed (holds.withInstalled false) error
  | error restoration =>
      cases operation with
      | ok snapshots =>
          cases Exec.returns_pure decided
          exact .failed holds restoration
      | error error =>
          cases Exec.returns_pure decided
          exact .failed holds _

theorem materializeInstalled_takes {base : DamonConfig} {monitor after : Monitor}
    {outcome : Except Error Unit} (holds : Holds descriptors addressUnit monitor)
    (returns : Exec.Returns (materializeInstalled base descriptors monitor) (outcome, after)) :
    Takes descriptors addressUnit outcome after := by
  obtain ⟨operation, attempted, decided⟩ := Exec.returns_bind returns
  have listed : ∀ snapshots, operation = .ok snapshots →
      ScopedTo descriptors addressUnit snapshots := by
    rintro snapshots rfl
    rw [holds.unit] at attempted
    exact materializeScopedSnapshots_returns (Exec.returns_of_attempt attempted)
  split at decided
  · cases Exec.returns_pure decided
    exact .failed holds _
  · exact uninstall_takes holds listed decided

/-- However snapshots are taken, they are those of the query. -/
theorem materializeSnapshots_takes {monitor after : Monitor} {outcome : Except Error Unit}
    (holds : Holds descriptors addressUnit monitor)
    (returns : Exec.Returns (materializeSnapshots monitor) (outcome, after)) :
    Takes descriptors addressUnit outcome after := by
  have same := holds.query
  unfold materializeSnapshots at returns
  split at returns
  · cases Exec.returns_pure returns
    exact .failed holds _
  · rename_i known query
    rw [query] at same
    obtain rfl : known = descriptors := same
    obtain ⟨operation, attempted, decided⟩ := Exec.returns_bind returns
    cases operation with
    | ok snapshots =>
        cases Exec.returns_pure decided
        rw [holds.unit] at attempted
        exact .succeeded holds (materializeScopedSnapshots_returns
          (Exec.returns_of_attempt attempted))
    | error error =>
        cases Exec.returns_pure decided
        exact .failed holds error
  · rename_i base requested known installed query
    rw [query] at same
    obtain rfl : known = descriptors := same
    obtain ⟨installation, -, decided⟩ := Exec.returns_bind returns
    cases installation with
    | ok value => exact materializeInstalled_takes (holds.withInstalled true) decided
    | error error =>
        cases Exec.returns_pure decided
        exact .failed holds error

/-- A call that keeps what a monitor holds, whatever it returns. -/
def Preserves {α : Type} (descriptors : List SnapshotDescriptor) (addressUnit : AddressUnit)
    (call : Call α) : Prop :=
  ∀ monitor outcome after, Holds descriptors addressUnit monitor →
    Exec.Returns (call monitor) (outcome, after) → Holds descriptors addressUnit after

theorem unchanged_preserves {α : Type} (program : Monitor → Sysfs α) :
    Preserves descriptors addressUnit (unchanged program) := by
  intro monitor outcome after holds returns
  obtain ⟨_, -, made⟩ := Exec.returns_bind returns
  cases Exec.returns_pure made
  exact holds

theorem materializeSnapshots_preserves :
    Preserves descriptors addressUnit materializeSnapshots :=
  fun _ _ _ holds returns => (materializeSnapshots_takes holds returns).holds

theorem takeCachedSnapshots_preserves : Preserves descriptors addressUnit takeCachedSnapshots := by
  intro monitor outcome after holds returns
  cases Exec.returns_pure returns
  exact holds.cache (.inl rfl)

/-- A call for a single snapshot goes on where the query has no second scheme. -/
theorem SnapshotQuery.descriptors_single {query : SnapshotQuery}
    (single : query.resultCount.filter (· ≠ 1) = none) : query.descriptors.length ≤ 1 := by
  cases query with
  | unsupported => exact Nat.zero_le 1
  | permanent descriptors =>
      have one : descriptors.length = 1 := by simpa [SnapshotQuery.resultCount] using single
      exact one.le
  | onDemand base requested descriptors installed =>
      have one : descriptors.length = 1 := by simpa [SnapshotQuery.resultCount] using single
      exact one.le

theorem singular_preserves {α : Type} {call : Call α}
    (preserves : ∀ monitor outcome after, Holds descriptors addressUnit monitor →
      descriptors.length ≤ 1 → Exec.Returns (call monitor) (outcome, after) →
      Holds descriptors addressUnit after) :
    Preserves descriptors addressUnit (singular call) := by
  intro monitor outcome after holds returns
  unfold singular at returns
  split at returns
  · cases Exec.returns_pure returns
    exact holds
  · rename_i single
    have one : descriptors.length ≤ 1 := by
      rw [← holds.query]
      exact SnapshotQuery.descriptors_single single
    exact preserves monitor outcome after holds one returns

theorem materializeSnapshot_preserves :
    Preserves descriptors addressUnit materializeSnapshot := by
  refine singular_preserves fun monitor outcome after holds _ returns => ?_
  obtain ⟨taken, takes, decided⟩ := Exec.returns_bind returns
  obtain ⟨result, middle⟩ := taken
  have kept := (materializeSnapshots_takes holds takes).holds
  cases result with
  | error error =>
      cases Exec.returns_pure decided
      exact kept
  | ok value =>
      dsimp only at decided
      split at decided
      · cases Exec.returns_pure decided
        exact kept
      · cases Exec.returns_pure decided
        exact kept

/-- The last of at most one snapshot leaves none. -/
theorem materializeSnapshotOwned_preserves :
    Preserves descriptors addressUnit materializeSnapshotOwned := by
  refine singular_preserves fun monitor outcome after holds single returns => ?_
  obtain ⟨taken, takes, decided⟩ := Exec.returns_bind returns
  obtain ⟨result, middle⟩ := taken
  have kept := materializeSnapshots_takes holds takes
  cases result with
  | error error =>
      cases Exec.returns_pure decided
      exact kept.holds
  | ok value =>
      dsimp only at decided
      split at decided
      · cases Exec.returns_pure decided
        refine kept.holds.cache (.inl ?_)
        have length := congrArg List.length (kept.taken rfl).listed
        rw [List.length_map] at length
        refine List.eq_nil_of_length_eq_zero ?_
        rw [List.length_dropLast]
        omega
      · cases Exec.returns_pure decided
        exact kept.holds

theorem materializeSnapshotsOwned_preserves :
    Preserves descriptors addressUnit materializeSnapshotsOwned := by
  intro monitor outcome after holds returns
  obtain ⟨taken, takes, decided⟩ := Exec.returns_bind returns
  obtain ⟨result, middle⟩ := taken
  have kept := (materializeSnapshots_takes holds takes).holds
  cases result with
  | error error =>
      cases Exec.returns_pure decided
      exact kept
  | ok value => exact takeCachedSnapshots_preserves middle outcome after kept decided

end Holds

end Monitor

section Runs

variable {descriptors : List SnapshotDescriptor} {addressUnit : AddressUnit}

namespace MonitorOp

open Monitor

theorem after_holds {α : Type} {call : Call α} {monitor next : Monitor}
    (preserves : Preserves descriptors addressUnit call) (holds : Holds descriptors addressUnit monitor)
    (returns : Exec.Returns (after call monitor) next) : Holds descriptors addressUnit next := by
  obtain ⟨result, taken, made⟩ := Exec.returns_bind returns
  cases Exec.returns_pure made
  exact preserves monitor result.1 result.2 holds taken

theorem program_holds {operation : MonitorOp} {monitor next : Monitor}
    (holds : Holds descriptors addressUnit monitor)
    (returns : Exec.Returns (operation.program monitor) next) :
    Holds descriptors addressUnit next := by
  cases operation with
  | materializeSnapshot => exact after_holds materializeSnapshot_preserves holds returns
  | materializeSnapshots => exact after_holds materializeSnapshots_preserves holds returns
  | materializeSnapshotOwned => exact after_holds materializeSnapshotOwned_preserves holds returns
  | materializeSnapshotsOwned => exact after_holds materializeSnapshotsOwned_preserves holds returns
  | takeCachedSnapshots => exact after_holds takeCachedSnapshots_preserves holds returns
  | schemeStats index => exact after_holds (unchanged_preserves _) holds returns
  | cachedSchemeStats index => exact after_holds (unchanged_preserves _) holds returns
  | schemeStatsAll => exact after_holds (unchanged_preserves _) holds returns
  | cachedSchemeStatsAll => exact after_holds (unchanged_preserves _) holds returns
  | effectiveQuotaUnits index => exact after_holds (unchanged_preserves _) holds returns
  | cachedEffectiveQuotaUnits index => exact after_holds (unchanged_preserves _) holds returns
  | effectiveQuotaUnitsAll => exact after_holds (unchanged_preserves _) holds returns
  | cachedEffectiveQuotaUnitsAll => exact after_holds (unchanged_preserves _) holds returns
  | pause => exact after_holds (unchanged_preserves _) holds returns
  | resume => exact after_holds (unchanged_preserves _) holds returns
  | isRunning => exact after_holds (unchanged_preserves _) holds returns

end MonitorOp

theorem runMonitor_materializeSnapshots {monitor taken : Monitor} {outcome : Except Error Unit}
    {env : Env} {world ended : World}
    (takes : Monitor.materializeSnapshots monitor env world = (.ok (outcome, taken), ended)) :
    runMonitor [.materializeSnapshots] monitor env world = (.ok taken, ended) := by
  have after : MonitorOp.after Monitor.materializeSnapshots monitor env world =
      (.ok taken, ended) := by
    unfold MonitorOp.after
    rw [Exec.bind_run_ok takes]
    rfl
  have program : MonitorOp.program .materializeSnapshots monitor env world = (.ok taken, ended) :=
    after
  unfold runMonitor
  rw [Exec.bind_run_ok program]
  rfl

/-- Whatever the environment does and however the calls of a monitor end: the snapshots it holds
are none, or one for each scheme of its query, in their order and under their scopes. -/
theorem runMonitor_holds {operations : List MonitorOp} {monitor ended : Monitor} {env : Env}
    {world after : World} (holds : monitor.Holds descriptors addressUnit)
    (ran : runMonitor operations monitor env world = (.ok ended, after)) :
    ended.Holds descriptors addressUnit := by
  induction operations generalizing monitor world with
  | nil =>
      cases ran
      exact holds
  | cons operation rest ih =>
      obtain ⟨next, middle, called, others⟩ := Exec.bind_eq_ok ran
      exact ih (MonitorOp.program_holds holds ⟨env, world, middle, called⟩) others

end Runs

/-! ## What a monitor commits -/

namespace Monitor

theorem updateConfiguration_ok {config : DamonConfig} {env : Env} {world after : World}
    (run : ExclusiveSession.updateConfiguration config env world = (.ok (), after)) :
    Nonempty (ManagedHierarchy.SelectedUpdate config [0] env world after) := by
  unfold ExclusiveSession.updateConfiguration ExclusiveSession.requireOneKdamond at run
  split at run
  · cases run
  · exact ManagedHierarchy.updateConfiguration_selectedUpdate run

/-- Whatever the environment does: on-demand snapshots that were taken were read after the query
had been committed and read back, and before the workflow was committed and read back again. -/
theorem materializeSnapshots_reinstates {base query : DamonConfig}
    {descriptors : List SnapshotDescriptor} {installed : Bool} {monitor after : Monitor} {env : Env}
    {world ended : World}
    (onDemand : monitor.snapshotQuery = .onDemand base query descriptors installed)
    (taken : materializeSnapshots monitor env world = (.ok (.ok (), after), ended)) :
    after.snapshotQuery = .onDemand base query descriptors false ∧
      ∃ ready read, (installed = false →
          Nonempty (ManagedHierarchy.SelectedUpdate query [0] env world ready)) ∧
        materializeScopedSnapshots descriptors monitor.effectiveAddressUnit env ready =
          (.ok after.cachedSnapshots, read) ∧
        Nonempty (ManagedHierarchy.SelectedUpdate base [0] env read ended) := by
  unfold materializeSnapshots at taken
  rw [onDemand] at taken
  dsimp only at taken
  obtain ⟨installation, ready, attempted, taken⟩ := Exec.bind_eq_ok taken
  rw [Exec.attempt_run] at attempted
  obtain ⟨installs, rfl⟩ := Prod.mk.inj attempted
  cases installation with
  | error error => cases taken
  | ok value =>
      obtain ⟨operation, read, reading, taken⟩ := Exec.bind_eq_ok taken
      rw [Exec.attempt_run] at reading
      obtain ⟨reads, rfl⟩ := Prod.mk.inj reading
      split at taken
      · cases taken
      · obtain ⟨restoration, last, restores, taken⟩ := Exec.bind_eq_ok taken
        rw [Exec.attempt_run] at restores
        obtain ⟨restored, rfl⟩ := Prod.mk.inj restores
        cases restoration with
        | error error => cases operation <;> cases taken
        | ok value =>
            cases operation with
            | error error => cases taken
            | ok snapshots =>
                cases taken
                refine ⟨by simp [cache, withInstalled, onDemand, SnapshotQuery.withInstalled],
                  _, _, fun absent => ?_, Prod.ext (Except.ok.inj reads) rfl,
                  updateConfiguration_ok (Prod.ext (Except.ok.inj restored) rfl)⟩
                subst absent
                exact updateConfiguration_ok (Prod.ext (Except.ok.inj installs) rfl)

end Monitor

/-! ## What a monitor leaves behind -/

section Remembering

variable {found : Option ConfigurationSnapshot} {α : Type}

theorem closure_remembers (closure : ManagedHierarchy.BatchClosure α)
    (counts : ManagedHierarchy.BatchCache) :
    Exec.Keeps (Remembers found) (closure.runWith 0 counts) := by
  intro env world remembers
  have checks : World.Checks 0 env world (closure.runWith 0 counts env world).2 :=
    ManagedHierarchy.BatchClosure.runWith_checks closure counts env world
  have same := checks.advances.self
  exact ⟨by rw [same]; exact remembers.previous, by rw [same]; exact remembers.record⟩

namespace ExclusiveSession

theorem updateConfiguration_remembers (config : DamonConfig) :
    Exec.Keeps (Remembers found) (updateConfiguration config) :=
  Exec.keeps_ite (Exec.keeps_fail _) (ManagedHierarchy.updateConfiguration_remembers config [0])

theorem expectedRunningPid_remembers :
    Exec.Keeps (Remembers found) (ManagedHierarchy.expectedRunningPid 0) :=
  Confined.remembersAny (ManagedHierarchy.expectedRunningPid_confined 0)

theorem setPaused_remembers (paused : Bool) : Exec.Keeps (Remembers found) (setPaused paused) :=
  Exec.keeps_bind expectedRunningPid_remembers fun _ =>
    ManagedHierarchy.setContextPaused_remembers 0 0 paused

theorem runtimeBatch_remembers (closure : ManagedHierarchy.BatchClosure α) :
    Exec.Keeps (Remembers found) (runtimeBatch closure) := by
  refine Exec.keeps_bind expectedRunningPid_remembers fun _ => ?_
  refine Exec.keeps_bind (ManagedHierarchy.verifyRunning_checks 0).remembers fun _ => ?_
  refine Exec.keeps_bind (Exec.keeps_attempt (closure_remembers closure .empty)) fun result => ?_
  exact Exec.keeps_bind (ManagedHierarchy.verifyRunningIdentity_checks 0).remembers
    fun _ => Exec.keeps_ofExcept result

theorem readBatch_remembers (closure : ManagedHierarchy.BatchClosure α) :
    Exec.Keeps (Remembers found) (readBatch closure) := by
  have owned : Exec.Keeps (Remembers found) ManagedHierarchy.verifyOwnedState :=
    ManagedHierarchy.verifyOwnedState_readsOnly.remembers
  refine Exec.keeps_bind owned fun _ => Exec.keeps_bind (Exec.keeps_attempt
    (Exec.keeps_bind expectedRunningPid_remembers fun _ => closure_remembers closure .empty))
    fun result => ?_
  exact Exec.keeps_bind owned fun _ => Exec.keeps_ofExcept result

theorem scheme_reads (context index : Nat) :
    Confined ReadsConfiguration (scheme context index) := by
  refine .bind (Kdamond.contextCount_confined (readsConfiguration_below 0)) fun _ =>
    .ite (fun _ => .fail _) fun _ => ?_
  exact .bind (readUsize_confined rfl) fun _ =>
    .ite (fun _ => .fail _) fun _ => .pure _

theorem cachedRead_remembers (index : Nat) {read : Scheme → Sysfs α}
    (reads : ∀ scheme, Confined (fun _ => True) (read scheme)) :
    Exec.Keeps (Remembers found) (cachedRead index read) := by
  refine Exec.keeps_bind (ManagedHierarchy.verifyRunning_checks 0).remembers fun _ => ?_
  refine Exec.keeps_bind (scheme_reads 0 index).remembers fun scheme => ?_
  refine Exec.keeps_bind (reads scheme).remembers fun value => ?_
  exact Exec.keeps_bind (ManagedHierarchy.verifyRunningIdentity_checks 0).remembers
    fun _ => Exec.keeps_pure value

end ExclusiveSession

namespace Monitor

theorem materializeScopedSnapshots_remembers (descriptors : List SnapshotDescriptor)
    (addressUnit : AddressUnit) :
    Exec.Keeps (Remembers found) (materializeScopedSnapshots descriptors addressUnit) :=
  Exec.keeps_ite (Exec.keeps_fail _) (Exec.keeps_bind
    (ExclusiveSession.runtimeBatch_remembers _) fun _ => Exec.keeps_pure _)

theorem uninstall_remembers (base : DamonConfig) (operation : Except Error (List ScopedSnapshot))
    (monitor : Monitor) : Exec.Keeps (Remembers found) (uninstall base operation monitor) := by
  refine Exec.keeps_bind (Exec.keeps_attempt
    (ExclusiveSession.updateConfiguration_remembers base)) fun restoration => ?_
  cases restoration <;> cases operation <;> exact Exec.keeps_pure _

theorem materializeInstalled_remembers (base : DamonConfig) (descriptors : List SnapshotDescriptor)
    (monitor : Monitor) :
    Exec.Keeps (Remembers found) (materializeInstalled base descriptors monitor) := by
  refine Exec.keeps_bind (Exec.keeps_attempt
    (materializeScopedSnapshots_remembers descriptors _)) fun operation => ?_
  split
  · exact Exec.keeps_pure _
  · exact uninstall_remembers base _ monitor

theorem materializeSnapshots_remembers (monitor : Monitor) :
    Exec.Keeps (Remembers found) (materializeSnapshots monitor) := by
  unfold materializeSnapshots
  split
  · exact Exec.keeps_pure _
  · refine Exec.keeps_bind (Exec.keeps_attempt
      (materializeScopedSnapshots_remembers _ _)) fun operation => ?_
    cases operation <;> exact Exec.keeps_pure _
  · refine Exec.keeps_bind (Exec.keeps_attempt (Exec.keeps_ite (Exec.keeps_pure ())
      (ExclusiveSession.updateConfiguration_remembers _))) fun installation => ?_
    cases installation with
    | error error => exact Exec.keeps_pure _
    | ok value => exact materializeInstalled_remembers _ _ _

theorem validateCustomSchemeIndex_remembers (monitor : Monitor) (index : Nat) :
    Exec.Keeps (Remembers found) (monitor.validateCustomSchemeIndex index) :=
  Exec.keeps_ite (Exec.keeps_fail _) (Exec.keeps_pure ())

theorem ensureEffectiveQuotaSupported_remembers (monitor : Monitor) :
    Exec.Keeps (Remembers found) monitor.ensureEffectiveQuotaSupported :=
  Exec.keeps_ite (Exec.keeps_pure ()) (Exec.keeps_fail _)

theorem unchanged_remembers {program : Monitor → Sysfs α} {monitor : Monitor}
    (keeps : Exec.Keeps (Remembers found) (program monitor)) :
    Exec.Keeps (Remembers found) (unchanged program monitor) :=
  Exec.keeps_bind (Exec.keeps_attempt keeps) fun _ => Exec.keeps_pure _

/-- A call on one scheme checks its index first. -/
theorem indexed_remembers {monitor : Monitor} {program : Sysfs α} (index : Nat)
    (keeps : Exec.Keeps (Remembers found) program) :
    Exec.Keeps (Remembers found) (do monitor.validateCustomSchemeIndex index; program) :=
  Exec.keeps_bind (validateCustomSchemeIndex_remembers monitor index) fun _ => keeps

theorem supported_remembers {monitor : Monitor} {program : Sysfs α}
    (keeps : Exec.Keeps (Remembers found) program) :
    Exec.Keeps (Remembers found) (do monitor.ensureEffectiveQuotaSupported; program) :=
  Exec.keeps_bind (ensureEffectiveQuotaSupported_remembers monitor) fun _ => keeps

theorem singular_remembers {call : Call α} {monitor : Monitor}
    (keeps : Exec.Keeps (Remembers found) (call monitor)) :
    Exec.Keeps (Remembers found) (singular call monitor) := by
  unfold singular
  split
  · exact Exec.keeps_pure _
  · exact keeps

theorem materializeSnapshot_remembers (monitor : Monitor) :
    Exec.Keeps (Remembers found) (materializeSnapshot monitor) := by
  refine singular_remembers (Exec.keeps_bind (materializeSnapshots_remembers monitor)
    fun taken => ?_)
  obtain ⟨outcome, after⟩ := taken
  cases outcome with
  | error error => exact Exec.keeps_pure _
  | ok value =>
      dsimp only
      split <;> exact Exec.keeps_pure _

theorem materializeSnapshotOwned_remembers (monitor : Monitor) :
    Exec.Keeps (Remembers found) (materializeSnapshotOwned monitor) := by
  refine singular_remembers (Exec.keeps_bind (materializeSnapshots_remembers monitor)
    fun taken => ?_)
  obtain ⟨outcome, after⟩ := taken
  cases outcome with
  | error error => exact Exec.keeps_pure _
  | ok value =>
      dsimp only
      split <;> exact Exec.keeps_pure _

theorem materializeSnapshotsOwned_remembers (monitor : Monitor) :
    Exec.Keeps (Remembers found) (materializeSnapshotsOwned monitor) := by
  refine Exec.keeps_bind (materializeSnapshots_remembers monitor) fun taken => ?_
  obtain ⟨outcome, after⟩ := taken
  cases outcome <;> exact Exec.keeps_pure _

end Monitor

namespace MonitorOp

open Monitor ExclusiveSession

theorem after_remembers {call : Call α} {monitor : Monitor}
    (keeps : Exec.Keeps (Remembers found) (call monitor)) :
    Exec.Keeps (Remembers found) (after call monitor) :=
  Exec.keeps_bind keeps fun _ => Exec.keeps_pure _

theorem program_remembers (operation : MonitorOp) (monitor : Monitor) :
    Exec.Keeps (Remembers found) (operation.program monitor) := by
  cases operation with
  | schemeStats index =>
      exact after_remembers (unchanged_remembers (indexed_remembers index
        (DamonRs.runtimeBatch_remembers 0 _)))
  | cachedSchemeStats index =>
      exact after_remembers (unchanged_remembers (indexed_remembers index
        (cachedRead_remembers index (Scheme.stats_confined fun _ => trivial))))
  | schemeStatsAll =>
      exact after_remembers (unchanged_remembers (ExclusiveSession.runtimeBatch_remembers _))
  | cachedSchemeStatsAll => exact after_remembers (unchanged_remembers (readBatch_remembers _))
  | effectiveQuotaUnits index =>
      exact after_remembers (unchanged_remembers (indexed_remembers index
        (supported_remembers (DamonRs.runtimeBatch_remembers 0 _))))
  | cachedEffectiveQuotaUnits index =>
      exact after_remembers (unchanged_remembers (indexed_remembers index
        (supported_remembers (cachedRead_remembers index fun _ => readU64_confined trivial))))
  | effectiveQuotaUnitsAll =>
      exact after_remembers (unchanged_remembers (supported_remembers
        (ExclusiveSession.runtimeBatch_remembers _)))
  | cachedEffectiveQuotaUnitsAll =>
      exact after_remembers (unchanged_remembers (supported_remembers (readBatch_remembers _)))
  | pause => exact after_remembers (unchanged_remembers (setPaused_remembers true))
  | resume => exact after_remembers (unchanged_remembers (setPaused_remembers false))
  | isRunning =>
      exact after_remembers (unchanged_remembers (ManagedHierarchy.isRunning_remembers 0))
  | materializeSnapshot => exact after_remembers (materializeSnapshot_remembers monitor)
  | materializeSnapshots => exact after_remembers (materializeSnapshots_remembers monitor)
  | materializeSnapshotOwned => exact after_remembers (materializeSnapshotOwned_remembers monitor)
  | materializeSnapshotsOwned => exact after_remembers (materializeSnapshotsOwned_remembers monitor)
  | takeCachedSnapshots => exact after_remembers (Exec.keeps_pure _)

end MonitorOp

theorem runMonitor_remembers (operations : List MonitorOp) (monitor : Monitor) :
    Exec.Keeps (Remembers found) (runMonitor operations monitor) := by
  induction operations generalizing monitor with
  | nil => exact Exec.keeps_pure monitor
  | cons operation rest ih =>
      exact Exec.keeps_bind (operation.program_remembers monitor) fun next => ih next

end Remembering

/-- Stopping a monitor that reports success has captured, as its last accesses, the snapshot that
the session took before its first write, however the monitor was used and whatever the environment
did; where nobody else acts, the configuration is what it was before the session. -/
theorem Monitor.stop_restores {damon : Damon} {config : DamonConfig}
    {operations : List SessionOp} {calls : List MonitorOp} {monitor : Monitor} {env : Env}
    {sys : System} {opened prepared ended closed : World} {outcome : Except Error Unit}
    {last : Except Error Monitor}
    (started : damon.managedHierarchy config env (World.initial sys) = (.ok (), opened))
    (prepares : runOperations damon operations env opened = (outcome, prepared))
    (ran : runMonitor calls monitor env prepared = (last, ended))
    (owned : ended.self.ownsHierarchy = true)
    (stops : Monitor.stop env ended = (.ok (), closed)) :
    (∃ snapshot, FoundAtStart env sys opened snapshot ∧
      ∃ begun found, DamonAdmin.configurationSnapshot env begun = (.ok snapshot, found) ∧
        closed = { found with self := .released }) ∧
      (env.Solitary → closed.sys.files.captured = sys.files.captured) := by
  obtain ⟨snapshot, found, remembers⟩ := runOperations_found started prepares
  have kept : Remembers (some snapshot) (runMonitor calls monitor env prepared).2 :=
    runMonitor_remembers calls monitor env prepared remembers
  rw [ran] at kept
  exact ⟨⟨snapshot, found, ManagedHierarchy.close_captures found.root kept owned stops⟩,
    fun solitary => found.restored solitary kept owned stops⟩

/-! ## A monitor of one process -/

namespace MonitorFixture

/-- What the kernel puts into a new scheme. -/
def schemeAttributes : List (Path × String × Bool) :=
  [(["action"], "stat", true), (["access_pattern", "sz", "min"], "0", true),
    (["access_pattern", "sz", "max"], "0", true),
    (["access_pattern", "nr_accesses", "min"], "0", true),
    (["access_pattern", "nr_accesses", "max"], "0", true),
    (["access_pattern", "age", "min"], "0", true), (["access_pattern", "age", "max"], "0", true),
    (["quotas", "ms"], "0", true), (["quotas", "bytes"], "0", true),
    (["quotas", "reset_interval_ms"], "0", true), (["quotas", "weights", "sz_permil"], "0", true),
    (["quotas", "weights", "nr_accesses_permil"], "0", true),
    (["quotas", "weights", "age_permil"], "0", true), (["watermarks", "metric"], "none", true),
    (["watermarks", "interval_us"], "0", true), (["watermarks", "high"], "0", true),
    (["watermarks", "mid"], "0", true), (["watermarks", "low"], "0", true),
    (["tried_regions", "total_bytes"], "0", false)]

def env : Env :=
  { Fixture.calm with
    kernel := ⟨fun directory _ =>
      if directory.getLast? = some "schemes" then
        schemeAttributes.map fun (inner, value, writable) => (inner, .ofWritten value, writable)
      else []⟩ }

def base : DamonConfig := Fixture.config [Fixture.contextConfig .default 0]

def query : DamonConfig × List SnapshotDescriptor :=
  snapshotQueryConfiguration base [⟨0, some Fixture.process⟩] (.ofMicros 0) false

/-- The workflow runs, and no query is installed. -/
def world : World := Fixture.session (Fixture.running [Fixture.context "5000" "100000" "0"]) base

def monitor : Monitor :=
  ⟨false, AddressUnit.one, .onDemand base query.1 query.2 false, 0, []⟩

/-- The monitor once a snapshot was taken. -/
def taken : Monitor :=
  ((Monitor.materializeSnapshots monitor env world).1.toOption.map Prod.snd).getD monitor

def ended : World := (Monitor.materializeSnapshots monitor).leads env world

theorem takes : Monitor.materializeSnapshots monitor env world = (.ok (.ok (), taken), ended) :=
  Exec.run_of_outcome (by decide +kernel)

theorem runs : runMonitor [.materializeSnapshots] monitor env world = (.ok taken, ended) :=
  runMonitor_materializeSnapshots takes

theorem holds : monitor.Holds query.2 .one :=
  ⟨rfl, rfl, .inl rfl⟩

end MonitorFixture

open MonitorFixture in
theorem runMonitor_holds_process : taken.Holds query.2 .one :=
  runMonitor_holds holds runs

open MonitorFixture in
theorem Monitor.materializeSnapshots_reinstates_process :
    taken.snapshotQuery = .onDemand base query.1 query.2 false ∧
      ∃ ready read,
        Nonempty (ManagedHierarchy.SelectedUpdate query.1 [0] env world ready) ∧
        materializeScopedSnapshots query.2 monitor.effectiveAddressUnit env ready =
          (.ok taken.cachedSnapshots, read) ∧
        Nonempty (ManagedHierarchy.SelectedUpdate base [0] env read ended) := by
  obtain ⟨uninstalled, ready, read, installs, reads, reinstates⟩ :=
    Monitor.materializeSnapshots_reinstates rfl takes
  exact ⟨uninstalled, ready, read, installs rfl, reads, reinstates⟩

namespace StopFixture

/-- A stopped kdamond with one context, before the session. -/
def attributes : List (Path × String × Bool) :=
  (["kdamonds", "nr_kdamonds"], "1", true) ::
    Fixture.kdamond 0 "off" "-1" (Fixture.context "5000" "100000" "0")

/-- What the kernel puts into the first child of each directory. -/
def created : List (Path × String × Bool) :=
  attributes ++ MonitorFixture.schemeAttributes.map fun (inner, value, writable) =>
    (["kdamonds", "0", "contexts", "0", "schemes", "0"] ++ inner, value, writable)

def env : Env :=
  { Fixture.calm with
    kernel := ⟨fun directory _ => created.filterMap fun (path, value, writable) =>
      (stripPrefix? (directory ++ ["0"]) path).map fun inner => (inner, .ofWritten value, writable)⟩ }

def sys : System := .settled (.ofAttributes attributes)

def config : DamonConfig :=
  Fixture.config [Fixture.contextConfig ⟨6000, 120000, 60000000, Fixture.intervals_ordered⟩ 0]

def query : DamonConfig × List SnapshotDescriptor :=
  snapshotQueryConfiguration config [⟨0, some Fixture.process⟩] (.ofMicros 0) false

def monitor : Monitor :=
  ⟨false, AddressUnit.one, .onDemand config query.1 query.2 false, 0, []⟩

def calls : List MonitorOp := [.materializeSnapshots, .takeCachedSnapshots]

def opened : World := (Fixture.damon.managedHierarchy config).leads env (World.initial sys)

/-- The kdamond runs with the other intervals. -/
def prepared : World := (runOperations Fixture.damon [.startAll]).leads env opened

/-- A query scheme was installed for a snapshot, and removed. -/
def left : World := (runMonitor calls monitor).leads env prepared

def stopped : World := Monitor.stop.leads env left

/-- The session begins, the monitor still owns the hierarchy after its calls, and it stops. -/
theorem session_succeeds :
    (Fixture.damon.managedHierarchy config env (World.initial sys)).1 = .ok () ∧
      left.self.ownsHierarchy = true ∧ (Monitor.stop env left).1 = .ok () := by
  decide +kernel

theorem started : Fixture.damon.managedHierarchy config env (World.initial sys) =
    (.ok (), opened) :=
  Exec.run_of_outcome session_succeeds.1

theorem prepares : runOperations Fixture.damon [.startAll] env opened =
    ((runOperations Fixture.damon [.startAll] env opened).1, prepared) :=
  Exec.run_of_outcome rfl

theorem calls_run : runMonitor calls monitor env prepared =
    ((runMonitor calls monitor env prepared).1, left) :=
  Exec.run_of_outcome rfl

theorem stops : Monitor.stop env left = (.ok (), stopped) :=
  Exec.run_of_outcome session_succeeds.2.2

end StopFixture

open StopFixture in
theorem Monitor.stop_restores_queried :
    (∃ snapshot, FoundAtStart env sys opened snapshot ∧
      ∃ begun found, DamonAdmin.configurationSnapshot env begun = (.ok snapshot, found) ∧
        stopped = { found with self := .released }) ∧
      (env.Solitary → stopped.sys.files.captured = sys.files.captured) :=
  Monitor.stop_restores started prepares calls_run session_succeeds.2.1 stops

end DamonRs
