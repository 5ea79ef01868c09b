import DamonRs.Config.Model

/-!
# Validation

The checks made on a configuration before the first access to sysfs.  The size
of a host page is a parameter, since alignment rules depend on it.
-/

namespace DamonRs

/-- The largest index of the kernel's signed count type. -/
def kernelIndexMax : Nat := 2147483647

def invalid {α : Type} (field reason : String) : Except Error α :=
  .error (.invalidConfiguration field reason)

def validateCount (field : String) (count : Nat) : Except Error Unit :=
  requireField (count ≤ kernelIndexMax) field "must fit the kernel's signed count type"

def validateSysfsString (field value : String) : Except Error Unit :=
  requireField (value.toList.all fun c => c ≠ '\n' && c ≠ '\r' && c ≠ Char.ofNat 0) field
    "must not contain NUL or line separators"

def validateRequiredPath (field : String) (value : Option String) : Except Error Unit :=
  match value with
  | none => invalid field "is required by the selected type"
  | some value => do
      requireField (value ≠ "") field "must not be empty"
      validateSysfsString field value

def exactMicros (field : String) (duration : Duration) : Except Error UInt64 :=
  durationMicros field duration

def exactMillis (field : String) (duration : Duration) : Except Error UInt64 :=
  if duration.asMillis < u64Bound then
    if Duration.ofMillis duration.asMillis = duration then .ok (UInt64.ofNat duration.asMillis)
    else invalid field "must be exactly representable in whole milliseconds"
  else invalid field "does not fit in 64-bit milliseconds"

def exactRefreshMillis (duration : Duration) : Except Error UInt32 := do
  let millis ← exactMillis "refresh interval" duration
  if millis.toNat < u32Bound then pure (UInt32.ofNat millis.toNat)
  else invalid "refresh interval" "does not fit the kernel unsigned-int range"

/-! ## Address units and alignment -/

def isPowerOfTwo (value : Nat) : Bool := value ≠ 0 && value &&& (value - 1) == 0

def validateAddressUnitForHost (pageSize : Nat) (unit : AddressUnit) : Except Error Unit :=
  requireField (!(unit.bytes.toNat < pageSize && !isPowerOfTwo unit.bytes.toNat)) "address unit"
    "units smaller than the host page size must be a power of two"

namespace AddressUnit

def toBytes (unit : AddressUnit) (units : UInt64) : Except Error UInt64 :=
  if units.toNat * unit.bytes.toNat < u64Bound then .ok (units * unit.bytes)
  else .error (.addressConversionOverflow units.toNat unit.bytes.toNat)

end AddressUnit

def validateScaledInitialRegions (targets : List TargetConfig) (unit : AddressUnit) :
    Except Error Unit :=
  (targets.flatMap TargetConfig.initialRegions).forM fun region => do
    let _ ← unit.toBytes region.start
    let _ ← unit.toBytes region.stop

def minimumRegionUnits (pageSize : Nat) (operation : Operation) (unit : AddressUnit) :
    Option Nat :=
  match operation with
  | .virtualAddress | .fixedVirtualAddress => some pageSize
  | .physicalAddress => some (max (pageSize / unit.bytes.toNat) 1)
  | .unknown _ => none

/-- The regions of one target after the end of the previous one. -/
def validateAlignedRegions (alignment : Nat) :
    Option Nat → List InitialRegionConfig → Except Error Unit
  | _, [] => .ok ()
  | previousEnd, region :: rest => do
      let alignedStart := region.start.toNat - region.start.toNat % alignment
      let remainder := region.stop.toNat % alignment
      let alignedEnd ←
        if remainder = 0 then pure region.stop.toNat
        else if region.stop.toNat + (alignment - remainder) < u64Bound then
          pure (region.stop.toNat + (alignment - remainder))
        else invalid "initial region" "end overflows after kernel minimum-region alignment"
      requireField (!previousEnd.any (· > alignedStart)) "initial regions"
        "regions overlap after kernel minimum-region alignment"
      validateAlignedRegions alignment (some alignedEnd) rest

def validateKernelAlignedInitialRegions (targets : List TargetConfig)
    (minimumRegionUnits : Option Nat) : Except Error Unit :=
  match minimumRegionUnits with
  | none => .ok ()
  | some alignment =>
      targets.forM fun target => validateAlignedRegions alignment none target.initialRegions

/-! ## Targets, probes and samples -/

namespace TargetConfig

/-- The regions of a target after the end of the previous one. -/
def validateRegions : Option UInt64 → List InitialRegionConfig → Except Error Unit
  | _, [] => .ok ()
  | previousEnd, region :: rest => do
      requireField (region.start < region.stop) "initial region"
        "start must be less than the exclusive end"
      requireField (!previousEnd.any (· > region.start)) "initial regions"
        "regions must be sorted and must not overlap"
      validateRegions (some region.stop) rest

def validate (target : TargetConfig) : Except Error Unit := do
  validateCount "initial region count" target.initialRegions.length
  validateRegions none target.initialRegions

end TargetConfig

namespace ProbeFilterConfig

def validate (filter : ProbeFilterConfig) : Except Error Unit := do
  validateToken "probe filter type" filter.filterType.kernelName
  match filter.filterType, filter.cgroupPath with
  | .memoryControlGroup, path => validateRequiredPath "probe filter cgroup path" path
  | .unknown _, some path => validateSysfsString "probe filter cgroup path" path
  | _, some _ =>
      invalid "probe filter payload" "a cgroup path belongs only to a memcg or unknown filter"
  | _, none => pure ()

end ProbeFilterConfig

namespace ProbePreparationConfig

def validate (preparation : ProbePreparationConfig) : Except Error Unit :=
  validateToken "probe preparation action" preparation.action.kernelName

end ProbePreparationConfig

namespace ProbeConfig

def validate (probe : ProbeConfig) : Except Error Unit := do
  validateCount "probe filter count" probe.filters.length
  validateCount "probe preparation count" probe.preparations.length
  probe.filters.forM ProbeFilterConfig.validate
  probe.preparations.forM ProbePreparationConfig.validate

end ProbeConfig

namespace OperationAttributesConfig

def validate (attributes : OperationAttributesConfig) : Except Error Unit := do
  validateSysfsString "operation CPU list" attributes.cpus
  validateSysfsString "operation thread list" attributes.threadIds

end OperationAttributesConfig

namespace SampleFilterConfig

def validate (filter : SampleFilterConfig) : Except Error Unit := do
  validateToken "sample filter type" filter.filterType.kernelName
  match filter.filterType with
  | .cpuMask =>
      validateRequiredPath "sample filter CPU mask" filter.cpuMask
      requireField filter.threadIds.isNone "sample filter payload"
        "a thread list does not belong to a cpumask filter"
  | .threads =>
      validateRequiredPath "sample filter thread list" filter.threadIds
      requireField filter.cpuMask.isNone "sample filter payload"
        "a CPU mask does not belong to a threads filter"
  | .write =>
      requireField (filter.cpuMask.isNone && filter.threadIds.isNone) "sample filter payload"
        "write filters do not accept a CPU mask or thread list"
  | .unknown _ => pure ()
  filter.cpuMask.forM (validateSysfsString "sample filter CPU mask")
  filter.threadIds.forM (validateSysfsString "sample filter thread list")

end SampleFilterConfig

namespace SampleControlConfig

def validate (control : SampleControlConfig) : Except Error Unit := do
  validateCount "sample filter count" control.filters.length
  control.filters.forM SampleFilterConfig.validate

end SampleControlConfig

namespace IntervalsGoalConfig

def values (goal : IntervalsGoalConfig) : Except Error (UInt64 × UInt64 × UInt64 × UInt64) := do
  let minimum ← exactMicros "minimum sample interval" goal.minimumSample
  let maximum ← exactMicros "maximum sample interval" goal.maximumSample
  pure (goal.accessBasisPoints, goal.aggregationIntervals, minimum, maximum)

def validateFor (goal : IntervalsGoalConfig) (intervals : MonitoringIntervals) :
    Except Error Unit := do
  let (accessBasisPoints, aggregationIntervals, minimum, maximum) ← goal.values
  if aggregationIntervals = 0 then pure ()
  else
    requireField (accessBasisPoints ≤ 10000) "monitoring intervals goal access rate"
      "must be at most 10000 basis points"
    requireField (minimum ≤ maximum) "monitoring intervals goal"
      "minimum sample interval must not exceed maximum"
    requireField (minimum ≤ intervals.sampleUs && intervals.sampleUs ≤ maximum)
      "monitoring intervals goal" "current sample interval must be within the tuning range"

end IntervalsGoalConfig

/-! ## Schemes -/

/-- The type-specific field a filter type may carry. -/
inductive FilterPayload where
  | none
  | cgroupPath
  | addressRange
  | sizeRange
  | targetIndex
  | probeHitsWeightedSumRange
  deriving Repr, DecidableEq

namespace FilterConfig

def validatePayloadFields (filter : FilterConfig) (payload : FilterPayload) : Except Error Unit :=
  requireField
    ((payload == .cgroupPath || filter.cgroupPath.isNone) &&
      (payload == .addressRange || filter.addressRange.isNone) &&
      (payload == .sizeRange || filter.sizeRange.isNone) &&
      (payload == .targetIndex || filter.targetIndex.isNone) &&
      (payload == .probeHitsWeightedSumRange || filter.probeHitsWeightedSumRange.isNone))
    "scheme filter payload" "contains data that does not belong to the selected filter type"

def validateInLayer (filter : FilterConfig) (layer : FilterLayer) (targetCount : Nat) :
    Except Error Unit := do
  validateToken "scheme filter type" filter.filterType.kernelName
  match layer, filter.filterType.handledByOperations with
  | .core, some true =>
      invalid "scheme filter layer" "operations-handled filter cannot be staged in core_filters"
  | .operations, some false =>
      invalid "scheme filter layer" "core-handled filter cannot be staged in ops_filters"
  | _, _ => pure ()
  match filter.filterType with
  | .memoryControlGroup => filter.validatePayloadFields .cgroupPath
  | .address => filter.validatePayloadFields .addressRange
  | .hugePageSize => filter.validatePayloadFields .sizeRange
  | .target => filter.validatePayloadFields .targetIndex
  | .probeHitsWeightedSum => filter.validatePayloadFields .probeHitsWeightedSumRange
  | .unknown _ =>
      requireField filter.probeHitsWeightedSumRange.isNone "scheme filter payload"
        "a weighted-sum range requires the probe_hits_wsum filter type"
  | _ => filter.validatePayloadFields .none
  match filter.filterType with
  | .memoryControlGroup => validateRequiredPath "scheme filter cgroup path" filter.cgroupPath
  | .address =>
      match filter.addressRange with
      | none => invalid "scheme address filter" "requires an address range"
      | some (start, stop) =>
          requireField (start ≤ stop) "scheme address filter"
            "start must not exceed the exclusive end boundary"
  | .hugePageSize =>
      requireField filter.sizeRange.isSome "huge-page-size filter" "requires a size range"
  | .target =>
      match filter.targetIndex with
      | none => invalid "target filter" "requires a target index"
      | some index =>
          validateCount "target filter index" index
          requireField (index < targetCount) "target filter index"
            "must refer to a configured target"
  | .probeHitsWeightedSum =>
      requireField filter.probeHitsWeightedSumRange.isSome "probe hits weighted sum filter"
        "requires a weighted-sum range"
  | _ => pure ()
  filter.cgroupPath.forM (validateSysfsString "scheme filter cgroup path")
  filter.targetIndex.forM (validateCount "target filter index")

def validate (filter : FilterConfig) (targetCount : Nat) : Except Error Unit :=
  filter.validateInLayer (filter.placement.exactLayer.getD .unified) targetCount

end FilterConfig

namespace QuotaGoalConfig

def validate (goal : QuotaGoalConfig) : Except Error Unit := do
  validateToken "quota goal metric" goal.metric.kernelName
  let enabled := goal.targetValue != 0
  requireField (!(enabled && goal.metric.usesBasisPoints && goal.targetValue > 10000))
    "quota goal target value" "basis-point metrics must not exceed 10000"
  requireField (!(enabled && goal.metric.requiresNode && goal.nodeId.isNone))
    "quota goal node" "is required by the selected metric"
  requireField (!goal.nodeId.any (· < 0)) "quota goal node" "must be non-negative"
  if enabled && goal.metric.requiresCgroupPath then
    validateRequiredPath "quota goal cgroup path" goal.cgroupPath
  else goal.cgroupPath.forM (validateSysfsString "quota goal cgroup path")

end QuotaGoalConfig

namespace QuotaConfig

def validate (quota : QuotaConfig) : Except Error Unit := do
  let _ ← exactMillis "quota time" quota.time
  let _ ← exactMillis "quota reset interval" quota.resetInterval
  requireField
    (quota.weights.sizePerThousand ≤ 1000 && quota.weights.accessesPerThousand ≤ 1000 &&
      quota.weights.agePerThousand ≤ 1000)
    "quota prioritization weights" "each weight must be at most 1000 parts per thousand"
  validateCount "quota goal count" quota.goals.length
  quota.goals.forM QuotaGoalConfig.validate
  let hasActiveGoal := quota.goals.any fun goal => goal.targetValue != 0
  requireField
    (!((quota.time ≠ ⟨0⟩ || quota.sizeUnits != 0 || hasActiveGoal) && quota.resetInterval = ⟨0⟩))
    "quota reset interval" "must be non-zero when a time, size, or goal quota is enabled"
  validateToken "quota goal tuner" quota.goalTuner.kernelName

end QuotaConfig

namespace WatermarksConfig

def validate (watermarks : WatermarksConfig) : Except Error Unit := do
  validateToken "watermark metric" watermarks.metric.kernelName
  let _ ← exactMicros "watermark interval" watermarks.interval
  if watermarks.metric = .freeMemoryRate then
    requireField (watermarks.interval ≠ ⟨0⟩) "watermark interval"
      "must be non-zero when free-memory watermarks are enabled"
    requireField (watermarks.high ≤ 1000 && watermarks.middle ≤ 1000 && watermarks.low ≤ 1000)
      "free-memory watermarks" "values must be at most 1000 parts per thousand"
    requireField (watermarks.middle ≤ watermarks.high && watermarks.low ≤ watermarks.middle)
      "watermarks" "values must be ordered high >= middle >= low"

end WatermarksConfig

namespace SchemeConfig

/-- The sum of destination weights, in the kernel's unsigned-int accumulator. -/
def validateDestinations : Nat → List DestinationConfig → Except Error Nat
  | totalWeight, [] => .ok totalWeight
  | totalWeight, destination :: rest => do
      requireField (destination.nodeId ≤ 2147483647) "migration destination node"
        "must fit the kernel's signed NUMA node identifier"
      requireField (totalWeight + destination.weight.toNat < u32Bound)
        "migration destination weights" "sum must fit the kernel's unsigned-int accumulator"
      validateDestinations (totalWeight + destination.weight.toNat) rest

def validateFor (scheme : SchemeConfig) (targetCount : Nat) : Except Error Unit := do
  validateToken "scheme action" scheme.action.kernelName
  let _ ← exactMicros "scheme apply interval" scheme.applyInterval
  scheme.quota.validate
  scheme.watermarks.validate
  validateCount "scheme filter count" scheme.filters.length
  scheme.filters.forM fun filter => filter.validate targetCount
  validateCount "migration destination count" scheme.destinations.length
  let totalWeight ← validateDestinations 0 scheme.destinations
  requireField (scheme.destinations.isEmpty || totalWeight ≠ 0) "migration destination weights"
    "at least one destination must have non-zero weight"
  requireField (!scheme.targetNode.any (· < 0)) "migration target node"
    "must be non-negative, or None for NUMA_NO_NODE"

/-- Whether the current kernel applies an action with an operations set. -/
def knownSupported (operation : Operation) (action : Action) : Bool :=
  match operation with
  | .virtualAddress | .fixedVirtualAddress =>
      match action with
      | .willNeed | .cold | .pageOut | .hugePage | .noHugePage | .collapse | .migrateHot
      | .migrateCold | .stat | .unknown _ => true
      | _ => false
  | .physicalAddress =>
      match action with
      | .pageOut | .lruPrioritize | .lruDeprioritize | .migrateHot | .migrateCold
      | .damosAllocate | .damosFree | .stat | .unknown _ => true
      | _ => false
  | .unknown _ => true

def validateRunnableFor (scheme : SchemeConfig) (operation : Operation) (targetCount : Nat) :
    Except Error Unit := do
  scheme.validateFor targetCount
  requireField (knownSupported operation scheme.action) "scheme action"
    "is not supported by the selected monitoring operation"
  let migration := scheme.action = .migrateHot || scheme.action = .migrateCold
  requireField (migration || (scheme.targetNode.isNone && scheme.destinations.isEmpty))
    "migration destination" "requires a migrate_hot or migrate_cold scheme action"
  let physical := match operation with
    | .physicalAddress | .unknown _ => true
    | _ => false
  requireField
    (physical ||
      !scheme.quota.goals.any fun goal => goal.metric = .nodeEligibleMemoryBasisPoints)
    "quota goal metric" "node_eligible_mem_bp requires physical-address monitoring"

end SchemeConfig

/-! ## Contexts and the hierarchy -/

namespace ContextConfig

def validate (pageSize : Nat) (context : ContextConfig) : Except Error Unit := do
  validateToken "monitoring operation" context.operation.kernelName
  validateCount "target count" context.targets.length
  validateCount "scheme count" context.schemes.length
  context.intervalsGoal.validateFor context.intervals
  context.operationAttributes.validate
  context.sampleControl.validate
  validateCount "monitoring probe count" context.probes.length
  context.probes.forM ProbeConfig.validate
  context.targets.forM TargetConfig.validate
  match context.operation with
  | .virtualAddress | .fixedVirtualAddress =>
      requireField (context.addressUnit = .one) "address unit"
        "only physical-address monitoring supports non-one units"
  | .physicalAddress =>
      validateAddressUnitForHost pageSize context.addressUnit
      validateScaledInitialRegions context.targets context.addressUnit
  | .unknown _ => pure ()
  validateKernelAlignedInitialRegions context.targets
    (minimumRegionUnits pageSize context.operation context.addressUnit)
  context.schemes.forM fun scheme => scheme.validateFor context.targets.length

/-- The weighted hits of the probes, in an unsigned 32-bit accumulator. -/
def validateProbeWeights (maximumHits : Nat) : Nat → List ProbeConfig → Except Error Unit
  | _, [] => .ok ()
  | total, probe :: rest => do
      let weightedHits := probe.weight.toNat * maximumHits
      requireField (weightedHits < u32Bound) "weighted monitoring probes"
        "each weight multiplied by maximum hits must fit u32"
      requireField (total + weightedHits < u32Bound) "weighted monitoring probes"
        "sum of weighted maximum hits must fit u32"
      validateProbeWeights maximumHits (total + weightedHits) rest

def validateWeightedProbes (context : ContextConfig) : Except Error Unit :=
  if context.probes.all fun probe => probe.weight = 0 then .ok ()
  else do
    let sampleUs := max context.intervals.sampleUs.toNat 1
    let aggregationUs := context.intervals.aggregationUs.toNat
    let maximumHits := min (max (aggregationUs / sampleUs) 1) (u32Bound - 1)
    requireField (maximumHits ≤ 255) "weighted monitoring probes"
      "samples per aggregation interval must fit an 8-bit hit count"
    validateProbeWeights maximumHits 0 context.probes

def validateRunnableSampleControl (context : ContextConfig) : Except Error Unit := do
  let primitives := context.sampleControl.primitives
  requireField (primitives.pageTable != primitives.pageFault) "sample primitives"
    "exactly one of page-table and page-fault sampling must be enabled"
  requireField
    (!(primitives.pageFault &&
      (context.operation = .virtualAddress || context.operation = .fixedVirtualAddress)))
    "page-fault sampling" "is supported only for physical-address monitoring"
  requireField (context.sampleControl.filters.isEmpty || primitives.pageFault) "sample filters"
    "require page-fault sampling to have an effect"

def validateRunnableForLifecycle (pageSize : Nat) (context : ContextConfig)
    (allowObsoleteTargets : Bool) : Except Error Unit := do
  context.validate pageSize
  requireField (allowObsoleteTargets || !context.targets.any TargetConfig.obsolete)
    "obsolete target" "is valid only as a one-shot update to a running context"
  let retained := context.targets.filter fun target => !target.obsolete
  requireField (!retained.isEmpty) "monitoring targets"
    "a running context requires at least one non-obsolete target"
  context.validateWeightedProbes
  context.validateRunnableSampleControl
  match context.operation with
  | .virtualAddress =>
      requireField (retained.all fun target => target.pid.isSome) "virtual-address target"
        "requires a process identifier"
  | .fixedVirtualAddress =>
      requireField (retained.all fun target => target.pid.isSome) "fixed virtual-address target"
        "requires a process identifier"
      requireField (retained.all fun target => !target.initialRegions.isEmpty)
        "fixed virtual-address target regions"
        "requires at least one initial region per target"
  | .physicalAddress =>
      match context.targets with
      | [target] =>
          requireField (retained.length = 1) "physical-address targets"
            "requires exactly one target on current DAMON kernels"
          requireField target.pid.isNone "physical-address target"
            "must not contain a process identifier"
          requireField (!target.initialRegions.isEmpty) "physical-address target regions"
            "requires at least one initial region"
      | _ =>
          invalid "physical-address targets"
            "requires exactly one target on current DAMON kernels"
  | .unknown _ => pure ()
  context.schemes.forM fun scheme =>
    scheme.validateRunnableFor context.operation retained.length

end ContextConfig

namespace KdamondConfig

def validate (pageSize : Nat) (kdamond : KdamondConfig) : Except Error Unit := do
  validateCount "context count" kdamond.contexts.length
  let _ ← exactRefreshMillis kdamond.refreshInterval
  kdamond.contexts.forM (ContextConfig.validate pageSize)

end KdamondConfig

namespace DamonConfig

def validate (pageSize : Nat) (config : DamonConfig) : Except Error Unit := do
  validateCount "kdamond count" config.kdamonds.length
  config.kdamonds.forM (KdamondConfig.validate pageSize)

def validateRunnableForLifecycle (pageSize : Nat) (config : DamonConfig)
    (allowObsoleteTargets : Bool) : Except Error Unit := do
  config.validate pageSize
  requireField (!config.kdamonds.isEmpty) "kdamond count" "requires at least one kdamond"
  config.kdamonds.forM fun kdamond =>
    match kdamond.contexts with
    | [context] => context.validateRunnableForLifecycle pageSize allowObsoleteTargets
    | _ =>
        invalid "kdamond context count"
          "current DAMON requires exactly one context per running kdamond"

def validateRunnable (pageSize : Nat) (config : DamonConfig) : Except Error Unit :=
  config.validateRunnableForLifecycle pageSize false

def validateRunningUpdate (pageSize : Nat) (config : DamonConfig) : Except Error Unit :=
  config.validateRunnableForLifecycle pageSize true

end DamonConfig

end DamonRs
