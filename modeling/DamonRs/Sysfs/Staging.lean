import DamonRs.Config.Equivalence
import DamonRs.Sysfs.Reading

/-!
# Staging a configuration

A requested configuration is written next to what was observed before: fields
that already have their value are left alone, children whose number changes are
staged anew, and attributes that a kernel does not expose must be requested
with their neutral value.
-/

namespace DamonRs

open Library Sysfs

/-! ## Staging helpers -/

/-- Run a program only when a condition holds. -/
def stageWhen (condition : Bool) (program : Sysfs Unit) : Sysfs Unit :=
  if condition then program else pure ()

/-- Write a count unless it already has the requested value. -/
def ensureCount (path : Path) (count : Nat) : Sysfs Unit := do
  Exec.ofExcept (validateCount "indexed child count" count)
  let current ← readUsize path
  stageWhen (current ≠ count) (writeValue path count)

def stageOptionalDefault {α : Type} [DecidableEq α] (path : Path) (requested neutral : α)
    (feature : String) (stage : Sysfs Unit) : Sysfs Unit := do
  if ← pathExists path then stage
  else if requested = neutral then pure ()
  else Exec.fail (.unsupportedFeature feature)

/-- The observed children, when there are as many as requested. -/
def comparable {α : Type} (observed : Option (List α)) (requested : List α) : Option (List α) :=
  observed.filter fun values => values.length = requested.length

/-- Stage children in order, each next to the observed child with its index. -/
def stageChildren {α : Type} (stage : Nat → α → Option α → Sysfs Unit) :
    Nat → List α → Option (List α) → Sysfs Unit
  | _, [], _ => pure ()
  | index, requested :: rest, observed => do
      stage index requested (observed.bind List.head?)
      stageChildren stage (index + 1) rest (observed.map List.tail)

/-- Stage a counted list of children. -/
def stageCounted {α : Type} (countPath : Path) (requested : List α) (observed : Option (List α))
    (stage : Nat → α → Option α → Sysfs Unit) : Sysfs Unit := do
  ensureCount countPath requested.length
  stageChildren stage 0 requested (comparable observed requested)

/-- Stage a counted list of children that a kernel may not expose. -/
def stageOptionalCounted {α : Type} (countPath : Path) (requested : List α)
    (observed : Option (List α)) (feature : String) (stage : Nat → α → Option α → Sysfs Unit) :
    Sysfs Unit := do
  if ← pathExists countPath then stageCounted countPath requested observed stage
  else if requested.isEmpty then pure ()
  else Exec.fail (.unsupportedFeature feature)

/-- Stage a child as a whole unless it was observed as requested. -/
def stageChanged {α : Type} [DecidableEq α] (stage : Nat → α → Sysfs Unit) (index : Nat)
    (requested : α) (observed : Option α) : Sysfs Unit :=
  stageWhen (observed ≠ some requested) (stage index requested)

/-- Write a text attribute whose value must be one line. -/
def writeSysfsString (field : String) (path : Path) (value : String) : Sysfs Unit := do
  Exec.ofExcept (validateSysfsString field value)
  writeBytes path value

/-- Write an enumeration value that must be one token. -/
def writeToken (field : String) (path : Path) (kernelName : String) : Sysfs Unit := do
  Exec.ofExcept (validateToken field kernelName)
  writeBytes path kernelName

/-- Write a value of the payload of a filter, when the payload is given. -/
def stagePayload {α : Type} (payload : Option α) (write : α → Sysfs Unit) : Sysfs Unit :=
  match payload with
  | some value => write value
  | none => pure ()

/-! ## Targets -/

namespace InitialRegion

def setStart (region : InitialRegion) (start : UInt64) : Sysfs Unit :=
  writeValue (region.path ++ ["start"]) start.toNat

def setStop (region : InitialRegion) (stop : UInt64) : Sysfs Unit :=
  writeValue (region.path ++ ["end"]) stop.toNat

def stageConfiguration (region : InitialRegion) (config : InitialRegionConfig) : Sysfs Unit := do
  let _ ← Exec.ofExcept (InitialRegionConfig.new config.start config.stop)
  region.setStart config.start
  region.setStop config.stop

end InitialRegion

namespace Target

def setPid (target : Target) (pid : Pid) : Sysfs Unit :=
  writeValue (target.path ++ ["pid_target"]) pid.get.toNat

def clearPid (target : Target) : Sysfs Unit := writeValue (target.path ++ ["pid_target"]) 0

def setObsolete (target : Target) (obsolete : Bool) : Sysfs Unit :=
  writeBool (target.path ++ ["obsolete_target"]) obsolete

def stageConfigurationFrom (target : Target) (config : TargetConfig)
    (observed : Option TargetConfig) : Sysfs Unit :=
  stageWhen (observed ≠ some config) do
    stageWhen (needsStage (observed.map TargetConfig.pid) config.pid)
      (match config.pid with
        | some pid => target.setPid pid
        | none => target.clearPid)
    stageWhen (needsStage (observed.map TargetConfig.obsolete) config.obsolete)
      (stageOptionalDefault (target.path ++ ["obsolete_target"]) config.obsolete false
        "obsolete DAMON targets" (target.setObsolete config.obsolete))
    stageOptionalCounted (target.path ++ ["regions", "nr_regions"]) config.initialRegions
      (observed.map TargetConfig.initialRegions) "DAMON initial regions"
      (stageChanged fun index region => (target.initialRegion index).stageConfiguration region)

end Target

/-! ## Probes and samples -/

namespace ProbeFilter

def setFilterType (filter : ProbeFilter) (filterType : ProbeFilterType) : Sysfs Unit :=
  writeToken "probe filter type" (filter.path ++ ["type"]) filterType.kernelName

def setMatching (filter : ProbeFilter) (matching : Bool) : Sysfs Unit :=
  writeBool (filter.path ++ ["matching"]) matching

def setAllowed (filter : ProbeFilter) (allowed : Bool) : Sysfs Unit :=
  writeBool (filter.path ++ ["allow"]) allowed

def setCgroupPath (filter : ProbeFilter) (path : String) : Sysfs Unit :=
  writeSysfsString "probe filter cgroup path" (filter.path ++ ["path"]) path

def stageConfiguration (filter : ProbeFilter) (config : ProbeFilterConfig) : Sysfs Unit := do
  filter.setFilterType config.filterType
  filter.setMatching config.matching
  filter.setAllowed config.allow
  stagePayload config.cgroupPath filter.setCgroupPath

end ProbeFilter

namespace ProbePreparation

def setAction (preparation : ProbePreparation) (action : ProbePreparationAction) : Sysfs Unit :=
  writeEnum (preparation.path ++ ["prep_action"]) action.kernelName

def stageConfiguration (preparation : ProbePreparation) (config : ProbePreparationConfig) :
    Sysfs Unit :=
  preparation.setAction config.action

end ProbePreparation

namespace Probe

def setWeight (probe : Probe) (value : UInt32) : Sysfs Unit :=
  writeValue (probe.path ++ ["weight"]) value.toNat

def stageConfigurationFrom (probe : Probe) (config : ProbeConfig)
    (observed : Option ProbeConfig) : Sysfs Unit :=
  stageWhen (observed ≠ some config) do
    stageCounted (probe.path ++ ["filters", "nr_filters"]) config.filters
      (observed.map ProbeConfig.filters)
      (stageChanged fun index filter => (probe.filter index).stageConfiguration filter)
    stageWhen (needsStage (observed.map ProbeConfig.weight) config.weight)
      (stageOptionalDefault (probe.path ++ ["weight"]) config.weight 0 "DAMON probe weights"
        (probe.setWeight config.weight))
    stageOptionalCounted (probe.path ++ ["preps", "nr_preps"]) config.preparations
      (observed.map ProbeConfig.preparations) "DAMON probe preparations"
      (stageChanged fun index preparation =>
        (probe.preparation index).stageConfiguration preparation)

end Probe

namespace OperationAttributes

def setUseReports (attributes : OperationAttributes) (value : Bool) : Sysfs Unit :=
  writeBool (attributes.path ++ ["use_reports"]) value

def setWriteOnly (attributes : OperationAttributes) (value : Bool) : Sysfs Unit :=
  writeBool (attributes.path ++ ["write_only"]) value

def setCpus (attributes : OperationAttributes) (value : String) : Sysfs Unit :=
  writeSysfsString "operation CPU list" (attributes.path ++ ["cpus"]) value

def setThreadIds (attributes : OperationAttributes) (value : String) : Sysfs Unit :=
  writeSysfsString "operation thread list" (attributes.path ++ ["tids"]) value

def stageConfiguration (attributes : OperationAttributes) (config : OperationAttributesConfig) :
    Sysfs Unit := do
  attributes.setUseReports config.useReports
  attributes.setWriteOnly config.writeOnly
  attributes.setCpus config.cpus
  attributes.setThreadIds config.threadIds

end OperationAttributes

namespace SampleFilter

def setFilterType (filter : SampleFilter) (value : SampleFilterType) : Sysfs Unit :=
  writeEnum (filter.path ++ ["type"]) value.kernelName

def setMatching (filter : SampleFilter) (value : Bool) : Sysfs Unit :=
  writeBool (filter.path ++ ["matching"]) value

def setAllowed (filter : SampleFilter) (value : Bool) : Sysfs Unit :=
  writeBool (filter.path ++ ["allow"]) value

def setCpuMask (filter : SampleFilter) (value : String) : Sysfs Unit :=
  writeSysfsString "sample filter CPU mask" (filter.path ++ ["cpumask"]) value

def setThreadIds (filter : SampleFilter) (value : String) : Sysfs Unit :=
  writeSysfsString "sample filter thread list" (filter.path ++ ["tid_arr"]) value

def stageConfiguration (filter : SampleFilter) (config : SampleFilterConfig) : Sysfs Unit := do
  filter.setFilterType config.filterType
  filter.setMatching config.matching
  filter.setAllowed config.allow
  stagePayload config.cpuMask filter.setCpuMask
  stagePayload config.threadIds filter.setThreadIds

end SampleFilter

namespace SampleControl

def setPageTableEnabled (control : SampleControl) (value : Bool) : Sysfs Unit :=
  writeBool (control.path ++ ["primitives", "page_table"]) value

def setPageFaultEnabled (control : SampleControl) (value : Bool) : Sysfs Unit :=
  writeBool (control.path ++ ["primitives", "page_fault"]) value

/-- Unlike other children, sample filters are always staged anew. -/
def stageConfiguration (control : SampleControl) (config : SampleControlConfig) :
    Sysfs Unit := do
  control.setPageTableEnabled config.primitives.pageTable
  control.setPageFaultEnabled config.primitives.pageFault
  stageCounted (control.path ++ ["filters", "nr_filters"]) config.filters none
    fun index filter _ => (control.filter index).stageConfiguration filter

end SampleControl

/-! ## Schemes -/

namespace SchemeFilter

def setFilterType (filter : SchemeFilter) (value : SchemeFilterType) : Sysfs Unit :=
  writeEnum (filter.path ++ ["type"]) value.kernelName

def setMatching (filter : SchemeFilter) (value : Bool) : Sysfs Unit :=
  writeBool (filter.path ++ ["matching"]) value

/-- Kernels without the control reject what a filter selects, so only `false` can be set. -/
def setAllowed (filter : SchemeFilter) (value : Bool) : Sysfs Unit := do
  match ← filter.allowPath with
  | some path => writeBool path value
  | none =>
      if value then Exec.fail (.unsupportedFeature "DAMOS filter allow control") else pure ()

def setCgroupPath (filter : SchemeFilter) (value : String) : Sysfs Unit :=
  writeSysfsString "scheme filter cgroup path" (filter.path ++ ["memcg_path"]) value

def setAddressRange (filter : SchemeFilter) (range : UInt64 × UInt64) : Sysfs Unit := do
  writeValue (filter.path ++ ["addr_start"]) range.1.toNat
  writeValue (filter.path ++ ["addr_end"]) range.2.toNat

/-- Both bounds of a size or a weighted-sum filter. -/
def setRange (filter : SchemeFilter) (range : Range64) : Sysfs Unit := do
  writeValue (filter.path ++ ["min"]) range.min.toNat
  writeValue (filter.path ++ ["max"]) range.max.toNat

def setTargetIndex (filter : SchemeFilter) (value : Nat) : Sysfs Unit := do
  Exec.ofExcept (validateCount "target filter index" value)
  writeValue (filter.path ++ ["damon_target_idx"]) value

def stageConfiguration (filter : SchemeFilter) (config : FilterConfig) : Sysfs Unit := do
  filter.setFilterType config.filterType
  filter.setMatching config.matching
  filter.setAllowed config.allow
  stagePayload config.cgroupPath filter.setCgroupPath
  stagePayload config.addressRange filter.setAddressRange
  stagePayload config.sizeRange filter.setRange
  stagePayload config.targetIndex filter.setTargetIndex
  stagePayload config.probeHitsWeightedSumRange filter.setRange

end SchemeFilter

namespace MigrationDestination

def stageConfiguration (destination : MigrationDestination) (config : DestinationConfig) :
    Sysfs Unit := do
  writeValue (destination.path ++ ["id"]) config.nodeId.toNat
  writeValue (destination.path ++ ["weight"]) config.weight.toNat

end MigrationDestination

namespace QuotaGoal

def setMetric (goal : QuotaGoal) (metric : QuotaGoalMetric) : Sysfs Unit :=
  writeEnum (goal.path ++ ["target_metric"]) metric.kernelName

def setNodeId (goal : QuotaGoal) (value : Int32) : Sysfs Unit :=
  writeBytes (goal.path ++ ["nid"]) (toString value.toInt)

def setCgroupPath (goal : QuotaGoal) (value : String) : Sysfs Unit :=
  writeSysfsString "quota goal cgroup path" (goal.path ++ ["path"]) value

def stageConfiguration (goal : QuotaGoal) (config : QuotaGoalConfig) : Sysfs Unit := do
  stageOptionalDefault (goal.path ++ ["target_metric"]) config.metric .userInput
    "DAMOS quota goal metrics" (goal.setMetric config.metric)
  writeValue (goal.path ++ ["target_value"]) config.targetValue.toNat
  writeValue (goal.path ++ ["current_value"]) config.currentValue.toNat
  stagePayload config.nodeId goal.setNodeId
  stagePayload config.cgroupPath goal.setCgroupPath

end QuotaGoal

namespace SchemeQuotas

def validateGoals (goals : List QuotaGoalConfig) : Except Error Unit := do
  validateCount "quota goal count" goals.length
  goals.forM QuotaGoalConfig.validate

def setTime (quotas : SchemeQuotas) (value : Duration) : Sysfs Unit := do
  let millis ← Exec.ofExcept (exactMillis "quota time" value)
  writeValue (quotas.path ++ ["ms"]) millis.toNat

def setSizeUnits (quotas : SchemeQuotas) (value : UInt64) : Sysfs Unit :=
  writeValue (quotas.path ++ ["bytes"]) value.toNat

def setResetInterval (quotas : SchemeQuotas) (value : Duration) : Sysfs Unit := do
  let millis ← Exec.ofExcept (exactMillis "quota reset interval" value)
  writeValue (quotas.path ++ ["reset_interval_ms"]) millis.toNat

def setWeights (quotas : SchemeQuotas) (weights : QuotaWeights) : Sysfs Unit := do
  writeValue (quotas.path ++ ["weights", "sz_permil"]) weights.sizePerThousand.toNat
  writeValue (quotas.path ++ ["weights", "nr_accesses_permil"])
    weights.accessesPerThousand.toNat
  writeValue (quotas.path ++ ["weights", "age_permil"]) weights.agePerThousand.toNat

def setGoalTuner (quotas : SchemeQuotas) (tuner : QuotaGoalTuner) : Sysfs Unit :=
  writeEnum (quotas.path ++ ["goal_tuner"]) tuner.kernelName

def setFailureChargeNumerator (quotas : SchemeQuotas) (value : UInt32) : Sysfs Unit :=
  writeValue (quotas.path ++ ["fail_charge_num"]) value.toNat

def setFailureChargeDenominator (quotas : SchemeQuotas) (value : UInt32) : Sysfs Unit :=
  writeValue (quotas.path ++ ["fail_charge_denom"]) value.toNat

def stageGoalsFrom (quotas : SchemeQuotas) (goals : List QuotaGoalConfig)
    (observed : Option (List QuotaGoalConfig)) : Sysfs Unit := do
  Exec.ofExcept (validateGoals goals)
  stageWhen (observed ≠ some goals)
    (stageOptionalCounted (quotas.path ++ ["goals", "nr_goals"]) goals observed
      "DAMOS quota goals" (stageChanged fun index goal =>
        (quotas.goal index).stageConfiguration goal))

def stageConfigurationFrom (quotas : SchemeQuotas) (config : QuotaConfig)
    (observed : Option QuotaConfig) : Sysfs Unit :=
  stageWhen (observed ≠ some config) do
    stageWhen (needsStage (observed.map QuotaConfig.time) config.time) (quotas.setTime config.time)
    stageWhen (needsStage (observed.map QuotaConfig.sizeUnits) config.sizeUnits)
      (quotas.setSizeUnits config.sizeUnits)
    stageWhen (needsStage (observed.map QuotaConfig.resetInterval) config.resetInterval)
      (quotas.setResetInterval config.resetInterval)
    stageWhen (needsStage (observed.map QuotaConfig.weights) config.weights)
      (quotas.setWeights config.weights)
    stageWhen (needsStage (observed.map QuotaConfig.goals) config.goals)
      (quotas.stageGoalsFrom config.goals (observed.map QuotaConfig.goals))
    stageWhen (needsStage (observed.map QuotaConfig.goalTuner) config.goalTuner)
      (stageOptionalDefault (quotas.path ++ ["goal_tuner"]) config.goalTuner .consistent
        "DAMOS quota goal tuner" (quotas.setGoalTuner config.goalTuner))
    stageWhen
      (needsStage (observed.map QuotaConfig.failureChargeNumerator) config.failureChargeNumerator)
      (stageOptionalDefault (quotas.path ++ ["fail_charge_num"]) config.failureChargeNumerator 0
        "DAMOS failure charge ratio"
        (quotas.setFailureChargeNumerator config.failureChargeNumerator))
    stageWhen
      (needsStage (observed.map QuotaConfig.failureChargeDenominator)
        config.failureChargeDenominator)
      (stageOptionalDefault (quotas.path ++ ["fail_charge_denom"])
        config.failureChargeDenominator 0 "DAMOS failure charge ratio"
        (quotas.setFailureChargeDenominator config.failureChargeDenominator))

end SchemeQuotas

namespace SchemeWatermarks

def setMetric (watermarks : SchemeWatermarks) (metric : WatermarkMetric) : Sysfs Unit :=
  writeEnum (watermarks.path ++ ["metric"]) metric.kernelName

def setInterval (watermarks : SchemeWatermarks) (value : Duration) : Sysfs Unit := do
  let micros ← Exec.ofExcept (exactMicros "watermark interval" value)
  writeValue (watermarks.path ++ ["interval_us"]) micros.toNat

def setHigh (watermarks : SchemeWatermarks) (value : UInt64) : Sysfs Unit :=
  writeValue (watermarks.path ++ ["high"]) value.toNat

def setMiddle (watermarks : SchemeWatermarks) (value : UInt64) : Sysfs Unit :=
  writeValue (watermarks.path ++ ["mid"]) value.toNat

def setLow (watermarks : SchemeWatermarks) (value : UInt64) : Sysfs Unit :=
  writeValue (watermarks.path ++ ["low"]) value.toNat

def stageConfigurationFrom (watermarks : SchemeWatermarks) (config : WatermarksConfig)
    (observed : Option WatermarksConfig) : Sysfs Unit :=
  stageWhen (observed ≠ some config) do
    stageWhen (needsStage (observed.map WatermarksConfig.metric) config.metric)
      (watermarks.setMetric config.metric)
    stageWhen (needsStage (observed.map WatermarksConfig.interval) config.interval)
      (watermarks.setInterval config.interval)
    stageWhen (needsStage (observed.map WatermarksConfig.high) config.high)
      (watermarks.setHigh config.high)
    stageWhen (needsStage (observed.map WatermarksConfig.middle) config.middle)
      (watermarks.setMiddle config.middle)
    stageWhen (needsStage (observed.map WatermarksConfig.low) config.low)
      (watermarks.setLow config.low)

end SchemeWatermarks

namespace Scheme

def setAction (scheme : Scheme) (action : Action) : Sysfs Unit :=
  writeToken "scheme action" (scheme.path ++ ["action"]) action.kernelName

/-- Both bounds of an access-count or an age range. -/
def writeRange32 (path : Path) (range : Range32) : Sysfs Unit := do
  writeValue (path ++ ["min"]) range.min.toNat
  writeValue (path ++ ["max"]) range.max.toNat

def setAccessPatternAdaptive (scheme : Scheme) (pattern : AccessPattern) : Sysfs Unit := do
  let path := scheme.path ++ ["access_pattern"]
  let size := path ++ ["sz"]
  writeValue (size ++ ["min"]) pattern.size.min.toNat
  if pattern.size.max.toNat = u64Bound - 1 then do
    let _ ← writeKernelUlongMax (size ++ ["max"])
  else writeValue (size ++ ["max"]) pattern.size.max.toNat
  writeRange32 (path ++ ["nr_accesses"]) pattern.accesses
  writeRange32 (path ++ ["age"]) pattern.age

def setApplyInterval (scheme : Scheme) (interval : Duration) : Sysfs Unit := do
  let micros ← Exec.ofExcept (durationMicros "apply interval" interval)
  writeValue (scheme.path ++ ["apply_interval_us"]) micros.toNat

def setTargetNode (scheme : Scheme) (node : Int32) : Sysfs Unit :=
  writeBytes (scheme.path ++ ["target_nid"]) (toString node.toInt)

def setApplicationSnapshotLimit (scheme : Scheme) (value : UInt64) : Sysfs Unit :=
  writeValue (scheme.path ++ ["stats", "max_nr_snapshots"]) value.toNat

def stageTargetNode (scheme : Scheme) (node : Option Int32) : Sysfs Unit := do
  if ← pathExists (scheme.path ++ ["target_nid"]) then scheme.setTargetNode (node.getD (-1))
  else if node.isSome then Exec.fail (.unsupportedFeature "DAMOS migration")
  else pure ()

def stageFilterLayer (scheme : Scheme) (layer : FilterLayer) (filters : List FilterConfig) :
    Sysfs Unit :=
  stageCounted (scheme.path ++ [layer.directory, "nr_filters"]) filters none
    fun index filter _ => (scheme.filter layer index).stageConfiguration filter

def missingLayerFeature : FilterLayer → String
  | .unified => "unified DAMOS filters"
  | .core => "core DAMOS filters"
  | .operations => "operations DAMOS filters"

def stageFilterLayerIfPresent (scheme : Scheme) (layer : FilterLayer)
    (filters : List FilterConfig) (present : Bool) : Sysfs Unit :=
  if present then scheme.stageFilterLayer layer filters
  else if filters.isEmpty then pure ()
  else Exec.fail (.unsupportedFeature (missingLayerFeature layer))

/-- The split layer that takes a filter, when there are split layers. -/
def splitLayer (filter : FilterConfig) : FilterLayer :=
  match filter.placement with
  | .core => .core
  | .operations => .operations
  | .unified => .unified
  | .adaptive =>
      if filter.filterType.handledByOperations = some false then .core else .operations

def stageSemanticFilters (scheme : Scheme) (filters : List FilterConfig) : Sysfs Unit := do
  let hasCore ← pathExists (scheme.path ++ ["core_filters", "nr_filters"])
  let hasOperations ← pathExists (scheme.path ++ ["ops_filters", "nr_filters"])
  let hasUnified ← pathExists (scheme.path ++ ["filters", "nr_filters"])
  if hasCore || hasOperations then do
    scheme.stageFilterLayerIfPresent .core (filters.filter (splitLayer · = .core)) hasCore
    scheme.stageFilterLayerIfPresent .operations (filters.filter (splitLayer · = .operations))
      hasOperations
    scheme.stageFilterLayerIfPresent .unified (filters.filter (splitLayer · = .unified))
      hasUnified
  else if hasUnified then
    if filters.any fun filter => filter.placement = .core || filter.placement = .operations then
      Exec.fail (.unsupportedFeature "split DAMOS filter placement")
    else scheme.stageFilterLayer .unified filters
  else if filters.isEmpty then pure ()
  else Exec.fail (.unsupportedFeature "DAMOS filters")

def stageConfigurationFrom (scheme : Scheme) (config : SchemeConfig)
    (observed : Option SchemeConfig) : Sysfs Unit :=
  stageWhen (observed ≠ some config) do
    stageWhen (needsStage (observed.map SchemeConfig.action) config.action)
      (scheme.setAction config.action)
    stageWhen (!observed.any fun value =>
        config.accessPattern.equivalentAfterKernelNormalization value.accessPattern)
      (scheme.setAccessPatternAdaptive config.accessPattern)
    stageWhen (needsStage (observed.map SchemeConfig.applyInterval) config.applyInterval)
      (stageOptionalDefault (scheme.path ++ ["apply_interval_us"]) config.applyInterval ⟨0⟩
        "DAMOS apply intervals" (scheme.setApplyInterval config.applyInterval))
    stageWhen (needsStage (observed.map SchemeConfig.targetNode) config.targetNode)
      (scheme.stageTargetNode config.targetNode)
    scheme.quotas.stageConfigurationFrom config.quota (observed.map SchemeConfig.quota)
    scheme.watermarks.stageConfigurationFrom config.watermarks
      (observed.map SchemeConfig.watermarks)
    stageWhen (!observed.any fun value => semanticFiltersMatch config.filters value.filters)
      (scheme.stageSemanticFilters config.filters)
    stageWhen (needsStage (observed.map SchemeConfig.destinations) config.destinations)
      (stageOptionalCounted (scheme.path ++ ["dests", "nr_dests"]) config.destinations
        (observed.map SchemeConfig.destinations) "DAMOS migration destinations"
        (stageChanged fun index destination =>
          (scheme.destination index).stageConfiguration destination))
    stageWhen
      (needsStage (observed.map SchemeConfig.applicationSnapshotLimit)
        config.applicationSnapshotLimit)
      (stageOptionalDefault (scheme.path ++ ["stats", "max_nr_snapshots"])
        config.applicationSnapshotLimit 0 "DAMOS application snapshot limit"
        (scheme.setApplicationSnapshotLimit config.applicationSnapshotLimit))

end Scheme

/-! ## Contexts -/

namespace Context

def setOperation (context : Context) (operation : Operation) : Sysfs Unit :=
  writeToken "monitoring operation" (context.path ++ ["operations"]) operation.kernelName

def setAddressUnit (context : Context) (unit : AddressUnit) : Sysfs Unit :=
  writeValue (context.path ++ ["addr_unit"]) unit.bytes.toNat

def setPaused (context : Context) (paused : Bool) : Sysfs Unit :=
  writeBool (context.path ++ ["pause"]) paused

def setIntervals (context : Context) (intervals : MonitoringIntervals) : Sysfs Unit := do
  writeValue (context.intervalsPath ++ ["sample_us"]) intervals.sampleUs.toNat
  writeValue (context.intervalsPath ++ ["aggr_us"]) intervals.aggregationUs.toNat
  writeValue (context.intervalsPath ++ ["update_us"]) intervals.updateUs.toNat

def setRegionBounds (context : Context) (bounds : RegionBounds) : Sysfs Unit := do
  writeValue (context.path ++ ["monitoring_attrs", "nr_regions", "min"]) bounds.min.toNat
  writeValue (context.path ++ ["monitoring_attrs", "nr_regions", "max"]) bounds.max.toNat

def writeIntervalsGoal (context : Context) (goal : IntervalsGoalConfig) : Sysfs Unit := do
  let (access, aggregations, minimum, maximum) ← Exec.ofExcept goal.values
  writeValue (context.intervalsGoalPath ++ ["access_bp"]) access.toNat
  writeValue (context.intervalsGoalPath ++ ["aggrs"]) aggregations.toNat
  writeValue (context.intervalsGoalPath ++ ["min_sample_us"]) minimum.toNat
  writeValue (context.intervalsGoalPath ++ ["max_sample_us"]) maximum.toNat

def stageScalarConfigurationFrom (context : Context) (config : ContextConfig)
    (observed : Option ContextConfig) : Sysfs Unit := do
  stageWhen (needsStage (observed.map ContextConfig.operation) config.operation)
    (context.setOperation config.operation)
  stageWhen (needsStage (observed.map ContextConfig.addressUnit) config.addressUnit)
    (stageOptionalDefault (context.path ++ ["addr_unit"]) config.addressUnit .one
      "DAMON address units" (context.setAddressUnit config.addressUnit))
  stageWhen (needsStage (observed.map ContextConfig.paused) config.paused)
    (stageOptionalDefault (context.path ++ ["pause"]) config.paused false "DAMON context pause"
      (context.setPaused config.paused))
  stageWhen (needsStage (observed.map ContextConfig.operationAttributes) config.operationAttributes)
    (stageOptionalDefault (context.path ++ ["operations_attrs"]) config.operationAttributes
      .default "DAMON operation attributes"
      (context.operationAttributes.stageConfiguration config.operationAttributes))
  stageWhen (needsStage (observed.map ContextConfig.intervals) config.intervals)
    (context.setIntervals config.intervals)
  stageWhen (needsStage (observed.map ContextConfig.intervalsGoal) config.intervalsGoal)
    (stageOptionalDefault (context.intervalsGoalPath ++ ["access_bp"]) config.intervalsGoal
      .default "DAMON monitoring intervals goal"
      (context.writeIntervalsGoal config.intervalsGoal))
  stageWhen (needsStage (observed.map ContextConfig.regionBounds) config.regionBounds)
    (context.setRegionBounds config.regionBounds)

def stageChildConfigurationFrom (context : Context) (config : ContextConfig)
    (observed : Option ContextConfig) : Sysfs Unit := do
  stageOptionalCounted (context.path ++ ["monitoring_attrs", "probes", "nr_probes"])
    config.probes (observed.map ContextConfig.probes) "DAMON monitoring probes"
    fun index probe => (context.probe index).stageConfigurationFrom probe
  stageWhen (needsStage (observed.map ContextConfig.sampleControl) config.sampleControl)
    (stageOptionalDefault (context.path ++ ["monitoring_attrs", "sample"]) config.sampleControl
      .default "DAMON sample controls"
      (context.sampleControl.stageConfiguration config.sampleControl))
  stageCounted (context.path ++ ["targets", "nr_targets"]) config.targets
    (observed.map ContextConfig.targets)
    fun index target => (context.target index).stageConfigurationFrom target
  stageCounted (context.path ++ ["schemes", "nr_schemes"]) config.schemes
    (observed.map ContextConfig.schemes)
    fun index scheme => (context.scheme index).stageConfigurationFrom scheme

def stageConfigurationFrom (context : Context) (config : ContextConfig)
    (observed : Option ContextConfig) : Sysfs Unit :=
  stageWhen (observed ≠ some config) do
    context.stageScalarConfigurationFrom config observed
    context.stageChildConfigurationFrom config observed

end Context

/-! ## Kdamonds and the admin root -/

namespace Kdamond

def setRefreshInterval (kdamond : Kdamond) (interval : Duration) : Sysfs Unit := do
  let millis ← Exec.ofExcept (durationMillis interval)
  writeValue (kdamond.path ++ ["refresh_ms"]) millis.toNat

def stageConfigurationFrom (kdamond : Kdamond) (config : KdamondConfig)
    (observed : Option KdamondConfig) : Sysfs Unit :=
  stageWhen (observed ≠ some config) do
    stageWhen (needsStage (observed.map KdamondConfig.refreshInterval) config.refreshInterval)
      (stageOptionalDefault (kdamond.path ++ ["refresh_ms"]) config.refreshInterval ⟨0⟩
        "periodic DAMON sysfs refresh" (kdamond.setRefreshInterval config.refreshInterval))
    stageCounted (kdamond.path ++ ["contexts", "nr_contexts"]) config.contexts
      (observed.map KdamondConfig.contexts)
      fun index context => (kdamond.context index).stageConfigurationFrom context

end Kdamond

namespace DamonAdmin

def stageConfigurationFrom (config : DamonConfig) (observed : Option DamonConfig) : Sysfs Unit :=
  stageWhen (observed ≠ some config)
    (stageCounted countPath config.kdamonds (observed.map DamonConfig.kdamonds)
      fun index kdamond => (DamonAdmin.kdamond index).stageConfigurationFrom kdamond)

end DamonAdmin

end DamonRs
