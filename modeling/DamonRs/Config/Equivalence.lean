import DamonRs.Config.Model
import Mathlib.Data.List.Sort

/-!
# Equivalence after kernel normalization

The kernel may narrow an unbounded region size to 32 bits, and a filter whose
placement is adaptive reads back in a concrete directory.  A request and an
observation are equivalent when they agree after both adjustments; otherwise
the first difference is reported.
-/

namespace DamonRs

/-- Change each item that has a partner. -/
def zipModify {α β : Type} (change : α → β → α) : List α → List β → List α
  | item :: items, partner :: partners => change item partner :: zipModify change items partners
  | items, _ => items

namespace AccessPattern

def equivalentAfterKernelNormalization (pattern observed : AccessPattern) : Bool :=
  pattern = observed ||
    (pattern.size.min = observed.size.min && pattern.size.max = 18446744073709551615 &&
      observed.size.max = 4294967295 && pattern.accesses = observed.accesses &&
      pattern.age = observed.age)

def normalizeKernelWidth (pattern observed : AccessPattern) : AccessPattern :=
  if pattern.equivalentAfterKernelNormalization observed then
    { pattern with size := observed.size }
  else pattern

end AccessPattern

/-- Whether observed filters stand in the split directories. -/
def hasSplitFilters (observed : List FilterConfig) : Bool :=
  observed.any fun filter => filter.placement = .core || filter.placement = .operations

namespace FilterConfig

/-- The concrete placement of a filter on a kernel with or without split directories. -/
def settle (split : Bool) (filter : FilterConfig) : FilterConfig :=
  if filter.placement = .adaptive then
    { filter with
      placement :=
        if split then
          if filter.filterType.handledByOperations = some false then .core else .operations
        else .unified }
  else filter

/-- The position of a placement in a split directory order. -/
def placementRank (filter : FilterConfig) : Nat :=
  match filter.placement with
  | .core => 0
  | .operations => 1
  | .unified => 2
  | .adaptive => 3

end FilterConfig

def canonicalizeFilterPlacements (filters observed : List FilterConfig) : List FilterConfig :=
  let split := hasSplitFilters observed
  let settled := filters.map (FilterConfig.settle split)
  if split then
    settled.insertionSort fun first second => first.placementRank ≤ second.placementRank
  else settled

def semanticFiltersMatch (requested observed : List FilterConfig) : Bool :=
  requested = observed || canonicalizeFilterPlacements requested observed = observed

def needsStage {α : Type} [DecidableEq α] (observed : Option α) (requested : α) : Bool :=
  observed ≠ some requested

namespace SchemeConfig

/-- Adjust a requested scheme to the observed one. -/
def canonicalize (scheme observed : SchemeConfig) : SchemeConfig :=
  { scheme with
    accessPattern := scheme.accessPattern.normalizeKernelWidth observed.accessPattern
    filters := canonicalizeFilterPlacements scheme.filters observed.filters }

end SchemeConfig

namespace ContextConfig

def canonicalize (context observed : ContextConfig) : ContextConfig :=
  { context with
    schemes := zipModify SchemeConfig.canonicalize context.schemes observed.schemes }

end ContextConfig

namespace KdamondConfig

def canonicalize (kdamond observed : KdamondConfig) : KdamondConfig :=
  { kdamond with
    contexts := zipModify ContextConfig.canonicalize kdamond.contexts observed.contexts }

end KdamondConfig

namespace DamonConfig

def canonicalize (config observed : DamonConfig) : DamonConfig :=
  { config with
    kdamonds := zipModify KdamondConfig.canonicalize config.kdamonds observed.kdamonds }

def equivalentAfterKernelNormalization (config observed : DamonConfig) : Bool :=
  config = observed || config.canonicalize observed = observed

end DamonConfig

/-! ## Reporting a difference -/

-- the debug texts of the two values are no part of the error here
def configurationMismatch {α : Type} (path : String) (_expected _observed : α) : Error :=
  .configurationMismatch path

/-- The mismatch of a field, when its values differ. -/
def fieldDifference {α : Type} [DecidableEq α] (path : String)
    (expected observed : α) : Option Error :=
  if expected = observed then none else some (configurationMismatch path expected observed)

/-- The first difference between partners at the same index. -/
def firstIndexedDifference {α : Type} [DecidableEq α] (base : String)
    (difference : String → α → α → Option Error) : Nat → List α → List α → Option Error
  | index, expected :: expectedRest, observed :: observedRest =>
      (difference s!"{base}/{index}" expected observed).orElse fun _ =>
        firstIndexedDifference base difference (index + 1) expectedRest observedRest
  | _, _, _ => none

def firstTargetDifference (base : String) (expected observed : TargetConfig) : Error :=
  ((fieldDifference s!"{base}/pid_target" expected.pid observed.pid).orElse fun _ =>
    fieldDifference s!"{base}/obsolete_target" expected.obsolete observed.obsolete).getD
    (configurationMismatch s!"{base}/regions" expected.initialRegions observed.initialRegions)

def firstSchemeDifference (base : String) (expected observed : SchemeConfig) : Error :=
  ([fieldDifference s!"{base}/action" expected.action observed.action,
    fieldDifference s!"{base}/access_pattern" expected.accessPattern observed.accessPattern,
    fieldDifference s!"{base}/apply_interval_us" expected.applyInterval observed.applyInterval,
    fieldDifference s!"{base}/target_nid" expected.targetNode observed.targetNode,
    fieldDifference s!"{base}/quotas" expected.quota observed.quota,
    fieldDifference s!"{base}/watermarks" expected.watermarks observed.watermarks,
    fieldDifference s!"{base}/filters" expected.filters observed.filters,
    fieldDifference s!"{base}/dests" expected.destinations observed.destinations,
    fieldDifference s!"{base}/stats/max_nr_snapshots" expected.applicationSnapshotLimit
      observed.applicationSnapshotLimit].findSome? id).getD
    (configurationMismatch base expected observed)

/-- A difference of children, reported only when the children differ. -/
def differing {α : Type} [DecidableEq α] (report : String → α → α → Error) (path : String)
    (expected observed : α) : Option Error :=
  if expected = observed then none else some (report path expected observed)

def firstContextDifference (base : String) (expected observed : ContextConfig) : Error :=
  ([fieldDifference s!"{base}/operations" expected.operation observed.operation,
    fieldDifference s!"{base}/addr_unit" expected.addressUnit observed.addressUnit,
    fieldDifference s!"{base}/pause" expected.paused observed.paused,
    fieldDifference s!"{base}/operations_attrs" expected.operationAttributes
      observed.operationAttributes,
    fieldDifference s!"{base}/monitoring_attrs/intervals" expected.intervals observed.intervals,
    fieldDifference s!"{base}/monitoring_attrs/intervals/intervals_goal" expected.intervalsGoal
      observed.intervalsGoal,
    fieldDifference s!"{base}/monitoring_attrs/nr_regions" expected.regionBounds
      observed.regionBounds,
    fieldDifference s!"{base}/monitoring_attrs/sample" expected.sampleControl
      observed.sampleControl,
    fieldDifference s!"{base}/monitoring_attrs/probes/nr_probes" expected.probes.length
      observed.probes.length,
    firstIndexedDifference s!"{base}/monitoring_attrs/probes" (differing configurationMismatch) 0
      expected.probes observed.probes,
    fieldDifference s!"{base}/targets/nr_targets" expected.targets.length
      observed.targets.length,
    firstIndexedDifference s!"{base}/targets" (differing firstTargetDifference) 0
      expected.targets observed.targets,
    fieldDifference s!"{base}/schemes/nr_schemes" expected.schemes.length
      observed.schemes.length,
    firstIndexedDifference s!"{base}/schemes" (differing firstSchemeDifference) 0
      expected.schemes observed.schemes].findSome? id).getD
    (configurationMismatch base expected observed)

/-- The first difference of a kdamond whose index is part of the base path. -/
def firstKdamondDifference (base : String) (expected observed : KdamondConfig) : Option Error :=
  [fieldDifference s!"{base}/refresh_ms" expected.refreshInterval observed.refreshInterval,
    fieldDifference s!"{base}/contexts/nr_contexts" expected.contexts.length
      observed.contexts.length,
    firstIndexedDifference s!"{base}/contexts" (differing firstContextDifference) 0
      expected.contexts observed.contexts].findSome? id

def firstDamonDifference (expected observed : DamonConfig) : Option Error :=
  [fieldDifference "kdamonds/nr_kdamonds" expected.kdamonds.length observed.kdamonds.length,
    firstIndexedDifference "kdamonds" firstKdamondDifference 0 expected.kdamonds
      observed.kdamonds].findSome? id

namespace DamonConfig

def mismatchError (config observed : DamonConfig) : Option Error :=
  if config.equivalentAfterKernelNormalization observed then none
  else some ((firstDamonDifference config observed).getD
    (configurationMismatch "kdamonds" config observed))

theorem mismatchError_eq_none_iff (config observed : DamonConfig) :
    config.mismatchError observed = none ↔
      config.equivalentAfterKernelNormalization observed = true := by
  unfold mismatchError
  split
  · rename_i equivalent
    simp [equivalent]
  · rename_i different
    simp [different]

end DamonConfig

end DamonRs
