import DamonRs.Config.Validate
import DamonRs.Sysfs.Io

/-!
# Typed handles and their read-back

A handle is the path of a sysfs directory.  Reading a configuration visits the
attributes in the order of the fields they fill, and attributes a kernel does
not expose take their default value.
-/

namespace DamonRs

open Library Sysfs

structure Kdamond where
  path : Path
  deriving Repr, DecidableEq

structure Context where
  path : Path
  deriving Repr, DecidableEq

structure Target where
  path : Path
  deriving Repr, DecidableEq

structure InitialRegion where
  path : Path
  deriving Repr, DecidableEq

structure Probe where
  path : Path
  deriving Repr, DecidableEq

structure ProbeFilter where
  path : Path
  deriving Repr, DecidableEq

structure ProbePreparation where
  path : Path
  deriving Repr, DecidableEq

structure OperationAttributes where
  path : Path
  deriving Repr, DecidableEq

structure SampleControl where
  path : Path
  deriving Repr, DecidableEq

structure SampleFilter where
  path : Path
  deriving Repr, DecidableEq

structure Scheme where
  path : Path
  deriving Repr, DecidableEq

structure SchemeQuotas where
  path : Path
  deriving Repr, DecidableEq

structure QuotaGoal where
  path : Path
  deriving Repr, DecidableEq

structure SchemeWatermarks where
  path : Path
  deriving Repr, DecidableEq

structure SchemeFilter where
  path : Path
  deriving Repr, DecidableEq

structure MigrationDestination where
  path : Path
  deriving Repr, DecidableEq

/-! ## Reading helpers -/

def readIndexed {α : Type} (count : Nat) (read : Nat → Sysfs α) : Sysfs (List α) :=
  Exec.mapEach read (List.range count)

def optionalRead {α : Type} (path : Path) (read : Sysfs α) : Sysfs (Option α) := do
  if ← pathExists path then do
    let value ← read
    pure (some value)
  else pure none

def optionalPair {α : Type} (first second : Path) (read : Sysfs α) : Sysfs (Option α) := do
  if ← pathExists first then
    if ← pathExists second then do
      let value ← read
      pure (some value)
    else pure none
  else pure none

/-- An optional attribute with the value it has where it is missing. -/
def optionalReadOr {α : Type} (path : Path) (read : Sysfs α) (missing : α) : Sysfs α := do
  let value ← optionalRead path read
  pure (value.getD missing)

/-- The configurations of counted children, or none without a count. -/
def readCounted {α : Type} (countPath : Path) (read : Nat → Sysfs α) : Sysfs (List α) := do
  if ← pathExists countPath then do
    let count ← readUsize countPath
    readIndexed count read
  else pure []

/-! ## Targets -/

namespace InitialRegion

def start (region : InitialRegion) : Sysfs UInt64 := readU64 (region.path ++ ["start"])

def stop (region : InitialRegion) : Sysfs UInt64 := readU64 (region.path ++ ["end"])

def configuration (region : InitialRegion) : Sysfs InitialRegionConfig := do
  let start ← region.start
  let stop ← region.stop
  pure ⟨start, stop⟩

end InitialRegion

namespace Target

def pid (target : Target) : Sysfs (Option Pid) := do
  let path := target.path ++ ["pid_target"]
  let raw ← readI32 path
  if raw = 0 then pure none
  else if raw < 0 then invalidKernelValue path (toString raw.toInt) "a process ID or zero"
  else
    match Pid.new (UInt32.ofNat raw.toInt.toNat) with
    | .ok pid => pure (some pid)
    | .error _ => invalidKernelValue path (toString raw.toInt) "a process ID"

def isObsolete (target : Target) : Sysfs Bool := readBool (target.path ++ ["obsolete_target"])

def initialRegion (target : Target) (index : Nat) : InitialRegion :=
  ⟨target.path ++ ["regions", Path.indexName index]⟩

def configuration (target : Target) : Sysfs TargetConfig := do
  let initialRegions ← readCounted (target.path ++ ["regions", "nr_regions"]) fun index =>
    (target.initialRegion index).configuration
  let pid ← target.pid
  let obsolete ← optionalReadOr (target.path ++ ["obsolete_target"]) target.isObsolete false
  pure ⟨pid, obsolete, initialRegions⟩

end Target

/-! ## Probes and samples -/

namespace ProbeFilter

def filterType (filter : ProbeFilter) : Sysfs ProbeFilterType :=
  readEnum (filter.path ++ ["type"]) ProbeFilterType.parse

def matching (filter : ProbeFilter) : Sysfs Bool := readBool (filter.path ++ ["matching"])

def allowed (filter : ProbeFilter) : Sysfs Bool := readBool (filter.path ++ ["allow"])

def cgroupPath (filter : ProbeFilter) : Sysfs String := readSysfsString (filter.path ++ ["path"])

/-- The control-group path, for the filter types that have one. -/
def cgroupPathFor (filter : ProbeFilter) : ProbeFilterType → Sysfs (Option String)
  | .memoryControlGroup | .unknown _ => do
      let path ← filter.cgroupPath
      pure (some path)
  | _ => pure none

def configuration (filter : ProbeFilter) : Sysfs ProbeFilterConfig := do
  let filterType ← filter.filterType
  let cgroupPath ← filter.cgroupPathFor filterType
  let matching ← filter.matching
  let allow ← filter.allowed
  pure ⟨filterType, matching, allow, cgroupPath⟩

end ProbeFilter

namespace ProbePreparation

def action (preparation : ProbePreparation) : Sysfs ProbePreparationAction :=
  readEnum (preparation.path ++ ["prep_action"]) ProbePreparationAction.parse

def configuration (preparation : ProbePreparation) : Sysfs ProbePreparationConfig := do
  let action ← preparation.action
  pure ⟨action⟩

end ProbePreparation

namespace Probe

def filterCount (probe : Probe) : Sysfs Nat := readUsize (probe.path ++ ["filters", "nr_filters"])

def filter (probe : Probe) (index : Nat) : ProbeFilter :=
  ⟨probe.path ++ ["filters", Path.indexName index]⟩

def weight (probe : Probe) : Sysfs UInt32 := readU32 (probe.path ++ ["weight"])

def preparation (probe : Probe) (index : Nat) : ProbePreparation :=
  ⟨probe.path ++ ["preps", Path.indexName index]⟩

def configuration (probe : Probe) : Sysfs ProbeConfig := do
  let filterCount ← probe.filterCount
  let filters ← readIndexed filterCount fun index => (probe.filter index).configuration
  let weight ← optionalReadOr (probe.path ++ ["weight"]) probe.weight 0
  let preparations ← readCounted (probe.path ++ ["preps", "nr_preps"]) fun index =>
    (probe.preparation index).configuration
  pure ⟨filters, weight, preparations⟩

end Probe

namespace OperationAttributes

def useReports (attributes : OperationAttributes) : Sysfs Bool :=
  readBool (attributes.path ++ ["use_reports"])

def writeOnly (attributes : OperationAttributes) : Sysfs Bool :=
  readBool (attributes.path ++ ["write_only"])

def cpus (attributes : OperationAttributes) : Sysfs String :=
  readSysfsString (attributes.path ++ ["cpus"])

def threadIds (attributes : OperationAttributes) : Sysfs String :=
  readSysfsString (attributes.path ++ ["tids"])

def configuration (attributes : OperationAttributes) : Sysfs OperationAttributesConfig := do
  let useReports ← attributes.useReports
  let writeOnly ← attributes.writeOnly
  let cpus ← attributes.cpus
  let threadIds ← attributes.threadIds
  pure ⟨useReports, writeOnly, cpus, threadIds⟩

end OperationAttributes

namespace SampleFilter

def filterType (filter : SampleFilter) : Sysfs SampleFilterType :=
  readEnum (filter.path ++ ["type"]) SampleFilterType.parse

def matching (filter : SampleFilter) : Sysfs Bool := readBool (filter.path ++ ["matching"])

def allowed (filter : SampleFilter) : Sysfs Bool := readBool (filter.path ++ ["allow"])

def cpuMask (filter : SampleFilter) : Sysfs String :=
  readSysfsString (filter.path ++ ["cpumask"])

def threadIds (filter : SampleFilter) : Sysfs String :=
  readSysfsString (filter.path ++ ["tid_arr"])

def configuration (filter : SampleFilter) : Sysfs SampleFilterConfig := do
  let filterType ← filter.filterType
  let matching ← filter.matching
  let allow ← filter.allowed
  match filterType with
  | .cpuMask => do
      let cpuMask ← filter.cpuMask
      pure ⟨filterType, matching, allow, some cpuMask, none⟩
  | .threads => do
      let threadIds ← filter.threadIds
      pure ⟨filterType, matching, allow, none, some threadIds⟩
  | .unknown _ => do
      let cpuMask ← optionalRead (filter.path ++ ["cpumask"]) filter.cpuMask
      let threadIds ← optionalRead (filter.path ++ ["tid_arr"]) filter.threadIds
      pure ⟨filterType, matching, allow, cpuMask, threadIds⟩
  | .write => pure ⟨filterType, matching, allow, none, none⟩

end SampleFilter

namespace SampleControl

def pageTableEnabled (control : SampleControl) : Sysfs Bool :=
  readBool (control.path ++ ["primitives", "page_table"])

def pageFaultEnabled (control : SampleControl) : Sysfs Bool :=
  readBool (control.path ++ ["primitives", "page_fault"])

def filterCount (control : SampleControl) : Sysfs Nat :=
  readUsize (control.path ++ ["filters", "nr_filters"])

def filter (control : SampleControl) (index : Nat) : SampleFilter :=
  ⟨control.path ++ ["filters", Path.indexName index]⟩

def configuration (control : SampleControl) : Sysfs SampleControlConfig := do
  let pageTable ← control.pageTableEnabled
  let pageFault ← control.pageFaultEnabled
  let filterCount ← control.filterCount
  let filters ← readIndexed filterCount fun index => (control.filter index).configuration
  pure ⟨⟨pageTable, pageFault⟩, filters⟩

end SampleControl

/-! ## Schemes -/

namespace SchemeFilter

def filterType (filter : SchemeFilter) : Sysfs SchemeFilterType :=
  readEnum (filter.path ++ ["type"]) SchemeFilterType.parse

def matching (filter : SchemeFilter) : Sysfs Bool := readBool (filter.path ++ ["matching"])

/-- The attribute that allows selected memory, under its current or its first name. -/
def allowPath (filter : SchemeFilter) : Sysfs (Option Path) :=
  Exec.findEach (fun name => do
    let path := filter.path ++ [name]
    if ← pathExists path then pure (some path) else pure none) ["allow", "pass"]

def allowed (filter : SchemeFilter) : Sysfs Bool := do
  match ← filter.allowPath with
  | some path => readBool path
  | none => pure false

def cgroupPath (filter : SchemeFilter) : Sysfs String :=
  readSysfsString (filter.path ++ ["memcg_path"])

def addressRange (filter : SchemeFilter) : Sysfs (UInt64 × UInt64) := do
  let start ← readU64 (filter.path ++ ["addr_start"])
  let stop ← readU64 (filter.path ++ ["addr_end"])
  pure (start, stop)

/-- The bounds shared by the size and the weighted-sum filters. -/
def range (filter : SchemeFilter) (new : UInt64 → UInt64 → Except Error Range64) :
    Sysfs Range64 := do
  let minimum ← readU64 (filter.path ++ ["min"])
  let maximum ← readU64 (filter.path ++ ["max"])
  Exec.ofExcept (new minimum maximum)

def targetIndex (filter : SchemeFilter) : Sysfs Nat := do
  let path := filter.path ++ ["damon_target_idx"]
  let value ← readI32 path
  if value < 0 then
    invalidKernelValue path (toString value.toInt) "a non-negative target index"
  else pure value.toInt.toNat

def configuration (filter : SchemeFilter) : Sysfs FilterConfig := do
  let filterType ← filter.filterType
  let matching ← filter.matching
  let allow ← filter.allowed
  let config := FilterConfig.new filterType matching allow
  match filterType with
  | .memoryControlGroup => do
      let path ← filter.cgroupPath
      pure { config with cgroupPath := some path }
  | .address => do
      let range ← filter.addressRange
      pure { config with addressRange := some range }
  | .hugePageSize => do
      let range ← filter.range ByteSizeRange.new
      pure { config with sizeRange := some range }
  | .target => do
      let index ← filter.targetIndex
      pure { config with targetIndex := some index }
  | .probeHitsWeightedSum => do
      let range ← filter.range ProbeHitsWeightedSumRange.new
      pure { config with probeHitsWeightedSumRange := some range }
  | .unknown _ => do
      let cgroupPath ← optionalRead (filter.path ++ ["memcg_path"]) filter.cgroupPath
      let addressRange ← optionalPair (filter.path ++ ["addr_start"]) (filter.path ++ ["addr_end"])
        filter.addressRange
      let sizeRange ← optionalPair (filter.path ++ ["min"]) (filter.path ++ ["max"])
        (filter.range ByteSizeRange.new)
      let targetIndex ← optionalRead (filter.path ++ ["damon_target_idx"]) filter.targetIndex
      pure { config with
        cgroupPath := cgroupPath
        addressRange := addressRange
        sizeRange := sizeRange
        targetIndex := targetIndex }
  | _ => pure config

end SchemeFilter

namespace MigrationDestination

def nodeId (destination : MigrationDestination) : Sysfs UInt32 :=
  readU32 (destination.path ++ ["id"])

def weight (destination : MigrationDestination) : Sysfs UInt32 :=
  readU32 (destination.path ++ ["weight"])

def configuration (destination : MigrationDestination) : Sysfs DestinationConfig := do
  let nodeId ← destination.nodeId
  let weight ← destination.weight
  pure ⟨nodeId, weight⟩

end MigrationDestination

namespace QuotaGoal

def metric (goal : QuotaGoal) : Sysfs QuotaGoalMetric :=
  readEnum (goal.path ++ ["target_metric"]) QuotaGoalMetric.parse

def targetValue (goal : QuotaGoal) : Sysfs UInt64 := readU64 (goal.path ++ ["target_value"])

def currentValue (goal : QuotaGoal) : Sysfs UInt64 := readU64 (goal.path ++ ["current_value"])

def nodeId (goal : QuotaGoal) : Sysfs Int32 := readI32 (goal.path ++ ["nid"])

def cgroupPath (goal : QuotaGoal) : Sysfs String := readSysfsString (goal.path ++ ["path"])

/-- Whether a metric is an unknown one. -/
def isUnknownMetric : QuotaGoalMetric → Bool
  | .unknown _ => true
  | _ => false

/-- The node, for the metrics that have one. -/
def nodeIdFor (goal : QuotaGoal) (metric : QuotaGoalMetric) : Sysfs (Option Int32) :=
  if metric.requiresNode || isUnknownMetric metric then do
    let nodeId ← goal.nodeId
    pure (some nodeId)
  else pure none

/-- The control-group path, for the metrics that have one. -/
def cgroupPathFor (goal : QuotaGoal) (metric : QuotaGoalMetric) : Sysfs (Option String) :=
  if metric.requiresCgroupPath || isUnknownMetric metric then do
    let path ← goal.cgroupPath
    pure (some path)
  else pure none

def configuration (goal : QuotaGoal) : Sysfs QuotaGoalConfig := do
  let metric ← optionalReadOr (goal.path ++ ["target_metric"]) goal.metric .userInput
  let nodeId ← goal.nodeIdFor metric
  let cgroupPath ← goal.cgroupPathFor metric
  let targetValue ← goal.targetValue
  let currentValue ← goal.currentValue
  pure ⟨metric, targetValue, currentValue, nodeId, cgroupPath⟩

end QuotaGoal

namespace SchemeQuotas

def time (quotas : SchemeQuotas) : Sysfs Duration := do
  let millis ← readU64 (quotas.path ++ ["ms"])
  pure (.ofMillis millis.toNat)

def sizeUnits (quotas : SchemeQuotas) : Sysfs UInt64 := readU64 (quotas.path ++ ["bytes"])

def resetInterval (quotas : SchemeQuotas) : Sysfs Duration := do
  let millis ← readU64 (quotas.path ++ ["reset_interval_ms"])
  pure (.ofMillis millis.toNat)

def weights (quotas : SchemeQuotas) : Sysfs QuotaWeights := do
  let path := quotas.path ++ ["weights"]
  let size ← readU32 (path ++ ["sz_permil"])
  let accesses ← readU32 (path ++ ["nr_accesses_permil"])
  let age ← readU32 (path ++ ["age_permil"])
  pure ⟨size, accesses, age⟩

def goalTuner (quotas : SchemeQuotas) : Sysfs QuotaGoalTuner :=
  readEnum (quotas.path ++ ["goal_tuner"]) QuotaGoalTuner.parse

def failureChargeNumerator (quotas : SchemeQuotas) : Sysfs UInt32 :=
  readU32 (quotas.path ++ ["fail_charge_num"])

def failureChargeDenominator (quotas : SchemeQuotas) : Sysfs UInt32 :=
  readU32 (quotas.path ++ ["fail_charge_denom"])

def goal (quotas : SchemeQuotas) (index : Nat) : QuotaGoal :=
  ⟨quotas.path ++ ["goals", Path.indexName index]⟩

def goalConfigurations (quotas : SchemeQuotas) : Sysfs (List QuotaGoalConfig) :=
  readCounted (quotas.path ++ ["goals", "nr_goals"]) fun index => (quotas.goal index).configuration

def configuration (quotas : SchemeQuotas) : Sysfs QuotaConfig := do
  let time ← quotas.time
  let sizeUnits ← quotas.sizeUnits
  let resetInterval ← quotas.resetInterval
  let weights ← quotas.weights
  let goals ← quotas.goalConfigurations
  let goalTuner ← optionalReadOr (quotas.path ++ ["goal_tuner"]) quotas.goalTuner .consistent
  let numerator ←
    optionalReadOr (quotas.path ++ ["fail_charge_num"]) quotas.failureChargeNumerator 0
  let denominator ←
    optionalReadOr (quotas.path ++ ["fail_charge_denom"]) quotas.failureChargeDenominator 0
  pure ⟨time, sizeUnits, resetInterval, weights, goals, goalTuner, numerator, denominator⟩

end SchemeQuotas

namespace SchemeWatermarks

def metric (watermarks : SchemeWatermarks) : Sysfs WatermarkMetric :=
  readEnum (watermarks.path ++ ["metric"]) WatermarkMetric.parse

def interval (watermarks : SchemeWatermarks) : Sysfs Duration := do
  let micros ← readU64 (watermarks.path ++ ["interval_us"])
  pure (.ofMicros micros.toNat)

def high (watermarks : SchemeWatermarks) : Sysfs UInt64 := readU64 (watermarks.path ++ ["high"])

def middle (watermarks : SchemeWatermarks) : Sysfs UInt64 := readU64 (watermarks.path ++ ["mid"])

def low (watermarks : SchemeWatermarks) : Sysfs UInt64 := readU64 (watermarks.path ++ ["low"])

def configuration (watermarks : SchemeWatermarks) : Sysfs WatermarksConfig := do
  let metric ← watermarks.metric
  let interval ← watermarks.interval
  let high ← watermarks.high
  let middle ← watermarks.middle
  let low ← watermarks.low
  pure ⟨metric, interval, high, middle, low⟩

end SchemeWatermarks

namespace Scheme

def action (scheme : Scheme) : Sysfs Action :=
  readEnum (scheme.path ++ ["action"]) Action.parse

def readRegionSizeRange (path : Path) : Sysfs RegionSizeRange := do
  let min ← readU64 (path ++ ["min"])
  let max ← readU64 (path ++ ["max"])
  Exec.ofExcept (RegionSizeRange.new min max)

/-- The bounds of an access-count or an age range. -/
def readRange32 (new : UInt32 → UInt32 → Except Error Range32) (path : Path) : Sysfs Range32 := do
  let min ← readU32 (path ++ ["min"])
  let max ← readU32 (path ++ ["max"])
  Exec.ofExcept (new min max)

def readAccessCountRange (path : Path) : Sysfs AccessCountRange :=
  readRange32 AccessCountRange.new path

def readAgeRange (path : Path) : Sysfs AgeRange := readRange32 AgeRange.new path

def accessPattern (scheme : Scheme) : Sysfs AccessPattern := do
  let pattern := scheme.path ++ ["access_pattern"]
  let size ← readRegionSizeRange (pattern ++ ["sz"])
  let accesses ← readAccessCountRange (pattern ++ ["nr_accesses"])
  let age ← readAgeRange (pattern ++ ["age"])
  pure ⟨size, accesses, age⟩

def applyInterval (scheme : Scheme) : Sysfs Duration := do
  let micros ← readU64 (scheme.path ++ ["apply_interval_us"])
  pure (.ofMicros micros.toNat)

def targetNode (scheme : Scheme) : Sysfs Int32 := readI32 (scheme.path ++ ["target_nid"])

def quotas (scheme : Scheme) : SchemeQuotas := ⟨scheme.path ++ ["quotas"]⟩

def watermarks (scheme : Scheme) : SchemeWatermarks := ⟨scheme.path ++ ["watermarks"]⟩

def filter (scheme : Scheme) (layer : FilterLayer) (index : Nat) : SchemeFilter :=
  ⟨scheme.path ++ [layer.directory, Path.indexName index]⟩

def destination (scheme : Scheme) (index : Nat) : MigrationDestination :=
  ⟨scheme.path ++ ["dests", Path.indexName index]⟩

def applicationSnapshotLimit (scheme : Scheme) : Sysfs UInt64 :=
  readU64 (scheme.path ++ ["stats", "max_nr_snapshots"])

def readFilterLayer (scheme : Scheme) (layer : FilterLayer) : Sysfs (List FilterConfig) :=
  readCounted (scheme.path ++ [layer.directory, "nr_filters"]) fun index => do
    let config ← (scheme.filter layer index).configuration
    pure { config with placement := FilterPlacement.fromLayer layer }

def readDestinations (scheme : Scheme) : Sysfs (List DestinationConfig) :=
  readCounted (scheme.path ++ ["dests", "nr_dests"]) fun index =>
    (scheme.destination index).configuration

def configuration (scheme : Scheme) : Sysfs SchemeConfig := do
  let core ← scheme.readFilterLayer .core
  let operations ← scheme.readFilterLayer .operations
  let unified ← scheme.readFilterLayer .unified
  let action ← scheme.action
  let accessPattern ← scheme.accessPattern
  let applyInterval ←
    optionalReadOr (scheme.path ++ ["apply_interval_us"]) scheme.applyInterval ⟨0⟩
  let targetNode ← optionalRead (scheme.path ++ ["target_nid"]) scheme.targetNode
  let quota ← scheme.quotas.configuration
  let watermarks ← scheme.watermarks.configuration
  let destinations ← scheme.readDestinations
  let limit ← optionalReadOr (scheme.path ++ ["stats", "max_nr_snapshots"])
    scheme.applicationSnapshotLimit 0
  pure ⟨action, accessPattern, applyInterval, targetNode.filter (· ≠ -1), quota, watermarks,
    core ++ operations ++ unified, destinations, limit⟩

end Scheme

/-! ## Contexts -/

namespace Context

def operation (context : Context) : Sysfs Operation :=
  readEnum (context.path ++ ["operations"]) Operation.parse

def addressUnit (context : Context) : Sysfs AddressUnit := do
  let path := context.path ++ ["addr_unit"]
  let bytes ← readU64 path
  match AddressUnit.new bytes with
  | .ok unit => pure unit
  | .error _ => invalidKernelValue path (toString bytes.toNat) "a non-zero address unit"

def isPaused (context : Context) : Sysfs Bool := readBool (context.path ++ ["pause"])

def pauseControlAvailable (context : Context) : Sysfs Bool :=
  pathExists (context.path ++ ["pause"])

def intervalsPath (context : Context) : Path := context.path ++ ["monitoring_attrs", "intervals"]

def intervals (context : Context) : Sysfs MonitoringIntervals := do
  let sample ← readU64 (context.intervalsPath ++ ["sample_us"])
  let aggregation ← readU64 (context.intervalsPath ++ ["aggr_us"])
  let update ← readU64 (context.intervalsPath ++ ["update_us"])
  Exec.ofExcept (MonitoringIntervals.new (.ofMicros sample.toNat) (.ofMicros aggregation.toNat)
    (.ofMicros update.toNat))

def regionBounds (context : Context) : Sysfs RegionBounds := do
  let path := context.path ++ ["monitoring_attrs", "nr_regions"]
  let min ← readU64 (path ++ ["min"])
  let max ← readU64 (path ++ ["max"])
  Exec.ofExcept (RegionBounds.new min max)

def probe (context : Context) (index : Nat) : Probe :=
  ⟨context.path ++ ["monitoring_attrs", "probes", Path.indexName index]⟩

def targetCount (context : Context) : Sysfs Nat :=
  readUsize (context.path ++ ["targets", "nr_targets"])

def target (context : Context) (index : Nat) : Target :=
  ⟨context.path ++ ["targets", Path.indexName index]⟩

def schemeCount (context : Context) : Sysfs Nat :=
  readUsize (context.path ++ ["schemes", "nr_schemes"])

def scheme (context : Context) (index : Nat) : Scheme :=
  ⟨context.path ++ ["schemes", Path.indexName index]⟩

def operationAttributes (context : Context) : OperationAttributes :=
  ⟨context.path ++ ["operations_attrs"]⟩

def sampleControl (context : Context) : SampleControl :=
  ⟨context.path ++ ["monitoring_attrs", "sample"]⟩

def intervalsGoalPath (context : Context) : Path := context.intervalsPath ++ ["intervals_goal"]

def intervalsGoal (context : Context) : Sysfs IntervalsGoalConfig := do
  let accessBasisPoints ← readU64 (context.intervalsGoalPath ++ ["access_bp"])
  let aggregationIntervals ← readU64 (context.intervalsGoalPath ++ ["aggrs"])
  let minimum ← readU64 (context.intervalsGoalPath ++ ["min_sample_us"])
  let maximum ← readU64 (context.intervalsGoalPath ++ ["max_sample_us"])
  pure ⟨accessBasisPoints, aggregationIntervals, .ofMicros minimum.toNat, .ofMicros maximum.toNat⟩

/-- The attributes of a directory that some kernels do not have. -/
def readDirectoryOr {α : Type} (path : Path) (read : Sysfs α) (missing : α) : Sysfs α := do
  if ← pathExists path then read else pure missing

def configuration (context : Context) : Sysfs ContextConfig := do
  let targetCount ← context.targetCount
  let targets ← readIndexed targetCount fun index => (context.target index).configuration
  let schemeCount ← context.schemeCount
  let schemes ← readIndexed schemeCount fun index => (context.scheme index).configuration
  let probes ← readCounted (context.path ++ ["monitoring_attrs", "probes", "nr_probes"])
    fun index => (context.probe index).configuration
  let operation ← context.operation
  let addressUnit ← optionalReadOr (context.path ++ ["addr_unit"]) context.addressUnit .one
  let paused ← optionalReadOr (context.path ++ ["pause"]) context.isPaused false
  let operationAttributes ← readDirectoryOr (context.path ++ ["operations_attrs"])
    context.operationAttributes.configuration .default
  let intervals ← context.intervals
  let intervalsGoal ← optionalReadOr (context.intervalsGoalPath ++ ["access_bp"])
    context.intervalsGoal .default
  let regionBounds ← context.regionBounds
  let sampleControl ← readDirectoryOr (context.path ++ ["monitoring_attrs", "sample"])
    context.sampleControl.configuration .default
  pure ⟨operation, addressUnit, paused, operationAttributes, intervals, intervalsGoal,
    regionBounds, probes, sampleControl, targets, schemes⟩

end Context

/-! ## Kdamonds and the admin root -/

namespace Kdamond

def state (kdamond : Kdamond) : Sysfs KdamondState := do
  let value ← readText (kdamond.path ++ ["state"])
  Exec.ofExcept (KdamondState.fromStr (Text.trim value))

def command (kdamond : Kdamond) (command : KdamondCommand) : Sysfs Unit := do
  Exec.ofExcept (validateToken "kdamond command" command.kernelName)
  writeBytes (kdamond.path ++ ["state"]) command.kernelName

def pid (kdamond : Kdamond) : Sysfs (Option Pid) := do
  let path := kdamond.path ++ ["pid"]
  let raw ← readI32 path
  if raw < 0 then pure none
  else
    match Pid.new (UInt32.ofNat raw.toInt.toNat) with
    | .ok pid => pure (some pid)
    | .error _ => invalidKernelValue path (toString raw.toInt) "a process ID or -1"

def refreshInterval (kdamond : Kdamond) : Sysfs Duration := do
  let millis ← readU32 (kdamond.path ++ ["refresh_ms"])
  pure (.ofMillis millis.toNat)

def contextCount (kdamond : Kdamond) : Sysfs Nat :=
  readUsize (kdamond.path ++ ["contexts", "nr_contexts"])

def context (kdamond : Kdamond) (index : Nat) : Context :=
  ⟨kdamond.path ++ ["contexts", Path.indexName index]⟩

def configuration (kdamond : Kdamond) : Sysfs KdamondConfig := do
  let refreshInterval ←
    optionalReadOr (kdamond.path ++ ["refresh_ms"]) kdamond.refreshInterval ⟨0⟩
  let contextCount ← kdamond.contextCount
  let contexts ← readIndexed contextCount fun index => (kdamond.context index).configuration
  pure ⟨refreshInterval, contexts⟩

end Kdamond

namespace DamonAdmin

def countPath : Path := ["kdamonds", "nr_kdamonds"]

def kdamondCount : Sysfs Nat := readUsize countPath

def kdamond (index : Nat) : Kdamond := ⟨["kdamonds", Path.indexName index]⟩

def configuration : Sysfs DamonConfig := do
  let kdamondCount ← kdamondCount
  let kdamonds ← readIndexed kdamondCount fun index => (kdamond index).configuration
  pure ⟨kdamonds⟩

end DamonAdmin

end DamonRs
