import DamonRs.Library.Text
import DamonRs.Error

/-!
# Kernel names

Enumerations of the kernel interface.  Every open enumeration has one list of
known values with their kernel names and keeps any other name as it was read.
-/

namespace DamonRs

open Library

/-- The known value with a kernel name, or the name itself. -/
def parseKernelName {α : Type} (known : List α) (kernelName : α → String)
    (unknown : String → α) (value : String) : α :=
  match known.find? fun candidate => kernelName candidate == value with
  | some candidate => candidate
  | none => unknown value

inductive SchemeFilterType where
  | anonymous
  | active
  | memoryControlGroup
  | young
  | hugePageSize
  | unmapped
  | address
  | target
  | probeHitsWeightedSum
  | unknown (name : String)
  deriving Repr, DecidableEq

namespace SchemeFilterType

def kernelName : SchemeFilterType → String
  | anonymous => "anon"
  | active => "active"
  | memoryControlGroup => "memcg"
  | young => "young"
  | hugePageSize => "hugepage_size"
  | unmapped => "unmapped"
  | address => "addr"
  | target => "target"
  | probeHitsWeightedSum => "probe_hits_wsum"
  | unknown name => name

def known : List SchemeFilterType :=
  [anonymous, active, memoryControlGroup, young, hugePageSize, unmapped, address, target,
    probeHitsWeightedSum]

def parse (value : String) : SchemeFilterType := parseKernelName known kernelName unknown value

def handledByOperations : SchemeFilterType → Option Bool
  | address | target | probeHitsWeightedSum => some false
  | anonymous | active | memoryControlGroup | young | hugePageSize | unmapped => some true
  | unknown _ => none

end SchemeFilterType

inductive ProbePreparationAction where
  | setPageIdle
  | unknown (name : String)
  deriving Repr, DecidableEq

namespace ProbePreparationAction

def kernelName : ProbePreparationAction → String
  | setPageIdle => "set_pgidle"
  | unknown name => name

def parse (value : String) : ProbePreparationAction :=
  parseKernelName [setPageIdle] kernelName unknown value

end ProbePreparationAction

inductive SampleFilterType where
  | cpuMask
  | threads
  | write
  | unknown (name : String)
  deriving Repr, DecidableEq

namespace SampleFilterType

def kernelName : SampleFilterType → String
  | cpuMask => "cpumask"
  | threads => "threads"
  | write => "write"
  | unknown name => name

def parse (value : String) : SampleFilterType :=
  parseKernelName [cpuMask, threads, write] kernelName unknown value

end SampleFilterType

inductive WatermarkMetric where
  | none
  | freeMemoryRate
  | unknown (name : String)
  deriving Repr, DecidableEq

namespace WatermarkMetric

def kernelName : WatermarkMetric → String
  | none => "none"
  | freeMemoryRate => "free_mem_rate"
  | unknown name => name

def parse (value : String) : WatermarkMetric :=
  parseKernelName [none, freeMemoryRate] kernelName unknown value

end WatermarkMetric

inductive QuotaGoalMetric where
  | userInput
  | someMemoryPressureMicroseconds
  | nodeMemoryUsedBasisPoints
  | nodeMemoryFreeBasisPoints
  | nodeMemoryControlGroupUsedBasisPoints
  | nodeMemoryControlGroupFreeBasisPoints
  | activeMemoryBasisPoints
  | inactiveMemoryBasisPoints
  | nodeEligibleMemoryBasisPoints
  | hugePageMemoryBasisPoints
  | unknown (name : String)
  deriving Repr, DecidableEq

namespace QuotaGoalMetric

def kernelName : QuotaGoalMetric → String
  | userInput => "user_input"
  | someMemoryPressureMicroseconds => "some_mem_psi_us"
  | nodeMemoryUsedBasisPoints => "node_mem_used_bp"
  | nodeMemoryFreeBasisPoints => "node_mem_free_bp"
  | nodeMemoryControlGroupUsedBasisPoints => "node_memcg_used_bp"
  | nodeMemoryControlGroupFreeBasisPoints => "node_memcg_free_bp"
  | activeMemoryBasisPoints => "active_mem_bp"
  | inactiveMemoryBasisPoints => "inactive_mem_bp"
  | nodeEligibleMemoryBasisPoints => "node_eligible_mem_bp"
  | hugePageMemoryBasisPoints => "hugepage_mem_bp"
  | unknown name => name

def known : List QuotaGoalMetric :=
  [userInput, someMemoryPressureMicroseconds, nodeMemoryUsedBasisPoints,
    nodeMemoryFreeBasisPoints, nodeMemoryControlGroupUsedBasisPoints,
    nodeMemoryControlGroupFreeBasisPoints, activeMemoryBasisPoints, inactiveMemoryBasisPoints,
    nodeEligibleMemoryBasisPoints, hugePageMemoryBasisPoints]

def parse (value : String) : QuotaGoalMetric := parseKernelName known kernelName unknown value

def requiresNode : QuotaGoalMetric → Bool
  | nodeMemoryUsedBasisPoints | nodeMemoryFreeBasisPoints
  | nodeMemoryControlGroupUsedBasisPoints | nodeMemoryControlGroupFreeBasisPoints
  | nodeEligibleMemoryBasisPoints => true
  | _ => false

def requiresCgroupPath : QuotaGoalMetric → Bool
  | nodeMemoryControlGroupUsedBasisPoints | nodeMemoryControlGroupFreeBasisPoints => true
  | _ => false

def usesBasisPoints : QuotaGoalMetric → Bool
  | nodeMemoryUsedBasisPoints | nodeMemoryFreeBasisPoints
  | nodeMemoryControlGroupUsedBasisPoints | nodeMemoryControlGroupFreeBasisPoints
  | activeMemoryBasisPoints | inactiveMemoryBasisPoints
  | nodeEligibleMemoryBasisPoints | hugePageMemoryBasisPoints => true
  | _ => false

end QuotaGoalMetric

inductive QuotaGoalTuner where
  | consistent
  | temporal
  | unknown (name : String)
  deriving Repr, DecidableEq

namespace QuotaGoalTuner

def kernelName : QuotaGoalTuner → String
  | consistent => "consist"
  | temporal => "temporal"
  | unknown name => name

def parse (value : String) : QuotaGoalTuner :=
  parseKernelName [consistent, temporal] kernelName unknown value

end QuotaGoalTuner

/-- A monitoring data-probe filter type. -/
inductive ProbeFilterType where
  | anonymous
  | memoryControlGroup
  | pageIdleUnset
  | pageIdleSet
  | unknown (name : String)
  deriving Repr, DecidableEq

namespace ProbeFilterType

def kernelName : ProbeFilterType → String
  | anonymous => "anon"
  | memoryControlGroup => "memcg"
  | pageIdleUnset => "pgidle_unset"
  | pageIdleSet => "pgidle_set"
  | unknown name => name

def parse (value : String) : ProbeFilterType :=
  parseKernelName [anonymous, memoryControlGroup, pageIdleUnset, pageIdleSet] kernelName unknown
    value

end ProbeFilterType

/-- A DAMOS action. -/
inductive Action where
  | willNeed
  | cold
  | pageOut
  | hugePage
  | noHugePage
  | collapse
  | lruPrioritize
  | lruDeprioritize
  | migrateHot
  | migrateCold
  | damosAllocate
  | damosFree
  | stat
  | unknown (name : String)
  deriving Repr, DecidableEq

namespace Action

def kernelName : Action → String
  | willNeed => "willneed"
  | cold => "cold"
  | pageOut => "pageout"
  | hugePage => "hugepage"
  | noHugePage => "nohugepage"
  | collapse => "collapse"
  | lruPrioritize => "lru_prio"
  | lruDeprioritize => "lru_deprio"
  | migrateHot => "migrate_hot"
  | migrateCold => "migrate_cold"
  | damosAllocate => "damos_alloc"
  | damosFree => "damos_free"
  | stat => "stat"
  | unknown name => name

def known : List Action :=
  [willNeed, cold, pageOut, hugePage, noHugePage, collapse, lruPrioritize, lruDeprioritize,
    migrateHot, migrateCold, damosAllocate, damosFree, stat]

def parse (value : String) : Action := parseKernelName known kernelName unknown value

end Action

/-- One of the filter directories of a scheme. -/
inductive FilterLayer where
  | unified
  | core
  | operations
  deriving Repr, DecidableEq

namespace FilterLayer

def directory : FilterLayer → String
  | unified => "filters"
  | core => "core_filters"
  | operations => "ops_filters"

end FilterLayer

/-- Requested or observed placement of a filter. -/
inductive FilterPlacement where
  | adaptive
  | unified
  | core
  | operations
  deriving Repr, DecidableEq

namespace FilterPlacement

def exactLayer : FilterPlacement → Option FilterLayer
  | adaptive => none
  | unified => some .unified
  | core => some .core
  | operations => some .operations

def fromLayer : FilterLayer → FilterPlacement
  | .unified => unified
  | .core => core
  | .operations => operations

end FilterPlacement

/-- A command accepted by a kdamond state file. -/
inductive KdamondCommand where
  | on
  | off
  | commit
  | commitSchemesQuotaGoals
  | updateSchemesStats
  | updateSchemesTriedBytes
  | updateSchemesTriedRegions
  | clearSchemesTriedRegions
  | updateSchemesEffectiveQuotas
  | updateTunedIntervals
  | unknown (name : String)
  deriving Repr, DecidableEq

namespace KdamondCommand

def kernelName : KdamondCommand → String
  | on => "on"
  | off => "off"
  | commit => "commit"
  | commitSchemesQuotaGoals => "commit_schemes_quota_goals"
  | updateSchemesStats => "update_schemes_stats"
  | updateSchemesTriedBytes => "update_schemes_tried_bytes"
  | updateSchemesTriedRegions => "update_schemes_tried_regions"
  | clearSchemesTriedRegions => "clear_schemes_tried_regions"
  | updateSchemesEffectiveQuotas => "update_schemes_effective_quotas"
  | updateTunedIntervals => "update_tuned_intervals"
  | unknown name => name

end KdamondCommand

/-- Current state reported by a kdamond. -/
inductive KdamondState where
  | on
  | off
  | unknown (name : String)
  deriving Repr, DecidableEq

/-- A nonempty text without NUL bytes and ASCII white space. -/
def validateToken (field value : String) : Except Error Unit := do
  requireField (value ≠ "") field "must not be empty"
  requireField
    (value.toList.all fun c => c ≠ Char.ofNat 0 && !Text.isAsciiWhitespace c) field
    "must be one non-whitespace, non-NUL kernel token"

namespace KdamondState

def fromStr (value : String) : Except Error KdamondState := do
  validateToken "kdamond state" value
  if value = "on" then pure on
  else if value = "off" then pure off
  else pure (unknown value)

end KdamondState

end DamonRs
