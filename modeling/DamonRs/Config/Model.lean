import DamonRs.Config.Enums
import DamonRs.Values

/-!
# Owned configuration values

The typed configuration of the complete admin hierarchy.  Ranges carry the
order of their bounds.
-/

namespace DamonRs

/-- An inclusive range of 64-bit values. -/
@[ext]
structure Range64 where
  min : UInt64
  max : UInt64
  ordered : min ≤ max

instance : DecidableEq Range64 := fun _ _ => decidable_of_decidable_of_iff Range64.ext_iff.symm

/-- An inclusive range of 32-bit values. -/
structure Range32 where
  min : UInt32
  max : UInt32
  ordered : min ≤ max
  deriving DecidableEq

namespace Range64

def new (field : String) (min max : UInt64) : Except Error Range64 :=
  if ordered : min ≤ max then .ok ⟨min, max, ordered⟩
  else .error (.invalidConfiguration field "minimum must not exceed maximum")

end Range64

namespace Range32

def new (field : String) (min max : UInt32) : Except Error Range32 :=
  if ordered : min ≤ max then .ok ⟨min, max, ordered⟩
  else .error (.invalidConfiguration field "minimum must not exceed maximum")

end Range32

/-- A region-size range in core address units. -/
abbrev RegionSizeRange := Range64

/-- A range of byte sizes, which is not scaled by an address unit. -/
abbrev ByteSizeRange := Range64

/-- A range of monitoring-probe hit weighted sums. -/
abbrev ProbeHitsWeightedSumRange := Range64

abbrev AccessCountRange := Range32

abbrev AgeRange := Range32

namespace RegionSizeRange

def new (min max : UInt64) : Except Error RegionSizeRange := Range64.new "region size range" min max

end RegionSizeRange

namespace ByteSizeRange

def new (min max : UInt64) : Except Error ByteSizeRange := Range64.new "byte size range" min max

end ByteSizeRange

namespace ProbeHitsWeightedSumRange

def new (min max : UInt64) : Except Error ProbeHitsWeightedSumRange :=
  Range64.new "probe hits weighted sum range" min max

end ProbeHitsWeightedSumRange

namespace AccessCountRange

def new (min max : UInt32) : Except Error AccessCountRange :=
  Range32.new "access count range" min max

end AccessCountRange

namespace AgeRange

def new (min max : UInt32) : Except Error AgeRange := Range32.new "age range" min max

end AgeRange

structure AccessPattern where
  size : RegionSizeRange
  accesses : AccessCountRange
  age : AgeRange
  deriving DecidableEq

structure InitialRegionConfig where
  start : UInt64
  stop : UInt64
  deriving Repr, DecidableEq

namespace InitialRegionConfig

def new (start stop : UInt64) : Except Error InitialRegionConfig :=
  if start ≥ stop then
    .error (.invalidConfiguration "initial region" "start must be less than the exclusive end")
  else .ok ⟨start, stop⟩

end InitialRegionConfig

structure ProbeFilterConfig where
  filterType : ProbeFilterType
  matching : Bool
  allow : Bool
  cgroupPath : Option String
  deriving Repr, DecidableEq

structure ProbePreparationConfig where
  action : ProbePreparationAction
  deriving Repr, DecidableEq

structure ProbeConfig where
  filters : List ProbeFilterConfig
  weight : UInt32
  preparations : List ProbePreparationConfig
  deriving Repr, DecidableEq

structure OperationAttributesConfig where
  useReports : Bool
  writeOnly : Bool
  cpus : String
  threadIds : String
  deriving Repr, DecidableEq

structure SampleFilterConfig where
  filterType : SampleFilterType
  matching : Bool
  allow : Bool
  cpuMask : Option String
  threadIds : Option String
  deriving Repr, DecidableEq

structure SamplePrimitivesConfig where
  pageTable : Bool
  pageFault : Bool
  deriving Repr, DecidableEq

structure SampleControlConfig where
  primitives : SamplePrimitivesConfig
  filters : List SampleFilterConfig
  deriving Repr, DecidableEq

structure TargetConfig where
  pid : Option Pid
  obsolete : Bool
  initialRegions : List InitialRegionConfig
  deriving DecidableEq

/-- Auto-tuning settings for the sampling interval; zero aggregation intervals disable it. -/
structure IntervalsGoalConfig where
  accessBasisPoints : UInt64
  aggregationIntervals : UInt64
  minimumSample : Duration
  maximumSample : Duration
  deriving Repr, DecidableEq

structure FilterConfig where
  placement : FilterPlacement
  filterType : SchemeFilterType
  matching : Bool
  allow : Bool
  cgroupPath : Option String
  addressRange : Option (UInt64 × UInt64)
  sizeRange : Option ByteSizeRange
  targetIndex : Option Nat
  probeHitsWeightedSumRange : Option ProbeHitsWeightedSumRange
  deriving DecidableEq

structure QuotaWeights where
  sizePerThousand : UInt32
  accessesPerThousand : UInt32
  agePerThousand : UInt32
  deriving Repr, DecidableEq

structure QuotaGoalConfig where
  metric : QuotaGoalMetric
  targetValue : UInt64
  currentValue : UInt64
  nodeId : Option Int32
  cgroupPath : Option String
  deriving Repr, DecidableEq

structure QuotaConfig where
  time : Duration
  sizeUnits : UInt64
  resetInterval : Duration
  weights : QuotaWeights
  goals : List QuotaGoalConfig
  goalTuner : QuotaGoalTuner
  failureChargeNumerator : UInt32
  failureChargeDenominator : UInt32
  deriving Repr, DecidableEq

structure WatermarksConfig where
  metric : WatermarkMetric
  interval : Duration
  high : UInt64
  middle : UInt64
  low : UInt64
  deriving Repr, DecidableEq

/-- One weighted migration destination. -/
structure DestinationConfig where
  nodeId : UInt32
  weight : UInt32
  deriving Repr, DecidableEq

structure SchemeConfig where
  action : Action
  accessPattern : AccessPattern
  applyInterval : Duration
  targetNode : Option Int32
  quota : QuotaConfig
  watermarks : WatermarksConfig
  filters : List FilterConfig
  destinations : List DestinationConfig
  applicationSnapshotLimit : UInt64
  deriving DecidableEq

structure ContextConfig where
  operation : Operation
  addressUnit : AddressUnit
  paused : Bool
  operationAttributes : OperationAttributesConfig
  intervals : MonitoringIntervals
  intervalsGoal : IntervalsGoalConfig
  regionBounds : RegionBounds
  probes : List ProbeConfig
  sampleControl : SampleControlConfig
  targets : List TargetConfig
  schemes : List SchemeConfig
  deriving DecidableEq

structure KdamondConfig where
  refreshInterval : Duration
  contexts : List ContextConfig
  deriving DecidableEq

/-- Complete staged configuration of the admin hierarchy. -/
structure DamonConfig where
  kdamonds : List KdamondConfig
  deriving DecidableEq

/-! ## Default values -/

namespace OperationAttributesConfig

def default : OperationAttributesConfig := ⟨false, false, "all", ""⟩

end OperationAttributesConfig

namespace SampleControlConfig

def default : SampleControlConfig := ⟨⟨true, false⟩, []⟩

end SampleControlConfig

namespace IntervalsGoalConfig

def default : IntervalsGoalConfig := ⟨0, 0, ⟨0⟩, ⟨0⟩⟩

end IntervalsGoalConfig

namespace QuotaConfig

def default : QuotaConfig := ⟨⟨0⟩, 0, ⟨0⟩, ⟨0, 0, 0⟩, [], .consistent, 0, 0⟩

end QuotaConfig

namespace WatermarksConfig

def default : WatermarksConfig := ⟨.none, ⟨0⟩, 0, 0, 0⟩

end WatermarksConfig

namespace MonitoringIntervals

def default : MonitoringIntervals := ⟨5000, 100000, 60000000, by decide⟩

end MonitoringIntervals

namespace RegionBounds

def default : RegionBounds := ⟨10, 1000, by decide, by decide⟩

end RegionBounds

namespace ContextConfig

/-- A context with kernel-style default intervals and region bounds. -/
def new (operation : Operation) : ContextConfig where
  operation := operation
  addressUnit := .one
  paused := false
  operationAttributes := .default
  intervals := .default
  intervalsGoal := .default
  regionBounds := .default
  probes := []
  sampleControl := .default
  targets := []
  schemes := []

end ContextConfig

namespace SchemeConfig

/-- A scheme with disabled quotas and watermarks. -/
def new (action : Action) (accessPattern : AccessPattern) : SchemeConfig where
  action := action
  accessPattern := accessPattern
  applyInterval := ⟨0⟩
  targetNode := none
  quota := .default
  watermarks := .default
  filters := []
  destinations := []
  applicationSnapshotLimit := 0

end SchemeConfig

namespace FilterConfig

/-- A filter without type-specific data. -/
def new (filterType : SchemeFilterType) (matching allow : Bool) : FilterConfig where
  placement := .adaptive
  filterType := filterType
  matching := matching
  allow := allow
  cgroupPath := none
  addressRange := none
  sizeRange := none
  targetIndex := none
  probeHitsWeightedSumRange := none

end FilterConfig

end DamonRs
