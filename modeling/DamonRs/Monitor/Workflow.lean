import DamonRs.Config.Accepted

/-!
# Monitoring workflows

The configuration of a workflow builder and the snapshot queries derived from
it.  A query appends private statistics schemes to the schemes of the user, and
labels a result with a target only when no other target can contribute to it.
-/

namespace DamonRs

open Library

/-! ## Builders -/

namespace TargetConfig

def forPid (pid : Pid) : TargetConfig := ⟨some pid, false, []⟩

def addressSpace : TargetConfig := ⟨none, false, []⟩

end TargetConfig

namespace FilterConfig

/-- A target-index filter. -/
def target (index : Nat) (matching allow : Bool) : FilterConfig :=
  { FilterConfig.new .target matching allow with targetIndex := some index }

end FilterConfig

structure ProcessTarget where
  pid : Pid
  /-- Without regions of its own a target inherits those of the builder. -/
  initialRegions : Option (List InitialRegionConfig)
  deriving DecidableEq

structure WorkflowOptions where
  sample : Duration
  aggregation : Duration
  update : Duration
  refresh : Duration
  minRegions : UInt64
  maxRegions : UInt64
  initialRegions : List InitialRegionConfig
  probes : List ProbeConfig
  schemes : List SchemeConfig

/-- A target proven by the staged query configuration. -/
structure TargetIdentity where
  targetIndex : Nat
  pid : Option Pid
  deriving DecidableEq

/-- The strongest scope that can be proven for a snapshot. -/
inductive SnapshotScope where
  | target (identity : TargetIdentity)
  | scheme
  | ungrouped
  deriving DecidableEq

structure SnapshotDescriptor where
  schemeIndex : Nat
  scope : SnapshotScope
  deriving DecidableEq

structure PreparedWorkflow where
  baseConfig : DamonConfig
  capabilityConfig : DamonConfig
  snapshotSchemeIndex : Nat
  targetIdentities : List TargetIdentity
  customSchemeCount : Nat
  capacityHint : Nat
  sampleInterval : Duration
  refreshInterval : Duration

/-- A statistics scheme for all regions. -/
def snapshotQueryScheme (applyInterval : Duration) : SchemeConfig :=
  { SchemeConfig.new .stat
      ⟨⟨0, 18446744073709551615, by decide⟩, ⟨0, 4294967295, by decide⟩,
        ⟨0, 4294967295, by decide⟩⟩ with
    applyInterval := applyInterval }

/-- The targets of a workflow with their identities: the processes, or one address space. -/
def workflowTargets (options : WorkflowOptions) (processTargets : List ProcessTarget) :
    List TargetConfig × List TargetIdentity :=
  if processTargets.isEmpty then
    ([{ TargetConfig.addressSpace with initialRegions := options.initialRegions }], [⟨0, none⟩])
  else
    (processTargets.map fun process =>
      { TargetConfig.forPid process.pid with
        initialRegions := process.initialRegions.getD options.initialRegions },
      processTargets.zipIdx.map fun (process, index) => ⟨index, some process.pid⟩)

def prepareWorkflow (pageSize : Nat) (options : WorkflowOptions) (operation : Operation)
    (processTargets : List ProcessTarget) (addressUnit : AddressUnit) :
    Except Error PreparedWorkflow := do
  let intervals ← MonitoringIntervals.new options.sample options.aggregation options.update
  let regionBounds ← RegionBounds.new options.minRegions options.maxRegions
  let (targets, targetIdentities) := workflowTargets options processTargets
  let context :=
    { ContextConfig.new operation with
      addressUnit := addressUnit
      intervals := intervals
      regionBounds := regionBounds
      probes := options.probes
      targets := targets
      schemes := options.schemes }
  let baseConfig : DamonConfig := ⟨[⟨options.refresh, [context]⟩]⟩
  baseConfig.validateRunnable pageSize
  let capabilityContext :=
    { context with schemes := context.schemes ++ [snapshotQueryScheme ⟨0⟩] }
  let capabilityConfig : DamonConfig := ⟨[⟨options.refresh, [capabilityContext]⟩]⟩
  capabilityConfig.validateRunnable pageSize
  pure {
    baseConfig := baseConfig
    capabilityConfig := capabilityConfig
    snapshotSchemeIndex := options.schemes.length
    targetIdentities := targetIdentities
    customSchemeCount := options.schemes.length
    capacityHint := regionBounds.max.toNat
    sampleInterval := intervals.sample
    refreshInterval := options.refresh }

/-! ## Snapshot queries -/

/-- The query scheme of one target, which rejects the memory of all others. -/
def isolatedQueryScheme (applyInterval : Duration) (identity : TargetIdentity) : SchemeConfig :=
  { snapshotQueryScheme applyInterval with
    filters := [FilterConfig.target identity.targetIndex false false] }

/-- Append one query scheme for each target, described by the index it gets. -/
def isolateTargets (applyInterval : Duration) :
    List SchemeConfig → List TargetIdentity → List SchemeConfig × List SnapshotDescriptor
  | schemes, [] => (schemes, [])
  | schemes, identity :: rest =>
      let (extended, descriptors) :=
        isolateTargets applyInterval (schemes ++ [isolatedQueryScheme applyInterval identity]) rest
      (extended, ⟨schemes.length, .target identity⟩ :: descriptors)

/-- The schemes of a context with its query schemes, and what their results describe. -/
def snapshotQuerySchemes (schemes : List SchemeConfig) (targetIdentities : List TargetIdentity)
    (applyInterval : Duration) (isolate : Bool) : List SchemeConfig × List SnapshotDescriptor :=
  match targetIdentities with
  | [identity] =>
      (schemes ++ [snapshotQueryScheme applyInterval], [⟨schemes.length, .target identity⟩])
  | _ =>
      if isolate then isolateTargets applyInterval schemes targetIdentities
      else (schemes ++ [snapshotQueryScheme applyInterval], [⟨schemes.length, .scheme⟩])

/-- The query configuration; the source indexes the first context, which a workflow has. -/
def snapshotQueryConfiguration (baseConfig : DamonConfig)
    (targetIdentities : List TargetIdentity) (applyInterval : Duration) (isolate : Bool) :
    DamonConfig × List SnapshotDescriptor :=
  match baseConfig.kdamonds with
  | { refreshInterval, contexts := context :: contexts } :: kdamonds =>
      let (schemes, descriptors) :=
        snapshotQuerySchemes context.schemes targetIdentities applyInterval isolate
      (⟨⟨refreshInterval, { context with schemes := schemes } :: contexts⟩ :: kdamonds⟩,
        descriptors)
  | _ => (baseConfig, [])

/-! ## What a filter does to targets -/

namespace FilterConfig

/-- A target filter matches the memory of its target, or that of all others. -/
def matchesTarget (filter : FilterConfig) (target : Nat) : Bool :=
  if filter.matching then filter.targetIndex = some target else filter.targetIndex ≠ some target

/-- The memory of a target is rejected when a filter matches it and does not allow it. -/
def rejectsTarget (filter : FilterConfig) (target : Nat) : Bool :=
  filter.filterType = .target && filter.matchesTarget target && !filter.allow

theorem rejectsTarget_target (index target : Nat) :
    (FilterConfig.target index false false).rejectsTarget target = true ↔ target ≠ index := by
  have other : some index ≠ some target ↔ target ≠ index := by
    rw [ne_eq, Option.some.injEq, eq_comm]
  simpa [rejectsTarget, matchesTarget, FilterConfig.target, FilterConfig.new] using other

end FilterConfig

/-- A scope label is justified: the target is the only one, or the scheme rejects all others. -/
def SnapshotDescriptor.Justified (schemes : List SchemeConfig) (targetCount : Nat)
    (descriptor : SnapshotDescriptor) : Prop :=
  ∀ identity, descriptor.scope = .target identity →
    identity.targetIndex < targetCount ∧
      (targetCount = 1 ∨ ∃ scheme filter, schemes[descriptor.schemeIndex]? = some scheme ∧
        filter ∈ scheme.filters ∧
        ∀ target, filter.rejectsTarget target = true ↔ target ≠ identity.targetIndex)

/-! ## Prepared workflows -/

/-- The identities of a workflow number its targets. -/
theorem workflowTargets_numbered (options : WorkflowOptions) (processTargets : List ProcessTarget) :
    (workflowTargets options processTargets).2.length =
        (workflowTargets options processTargets).1.length ∧
      (workflowTargets options processTargets).1 ≠ [] ∧
      ∀ identity ∈ (workflowTargets options processTargets).2,
        identity.targetIndex < (workflowTargets options processTargets).1.length := by
  unfold workflowTargets
  by_cases empty : processTargets.isEmpty = true
  · rw [if_pos empty]
    simp
  · rw [if_neg empty]
    refine ⟨by simp, by simpa using empty, ?_⟩
    intro identity member
    obtain ⟨⟨process, index⟩, numbered, rfl⟩ := List.mem_map.mp member
    rw [List.length_map]
    exact List.snd_lt_of_mem_zipIdx numbered

/-- A prepared workflow has one kdamond with one runnable context, and its identities number the
targets of that context. -/
theorem prepareWorkflow_ok {pageSize : Nat} {options : WorkflowOptions} {operation : Operation}
    {processTargets : List ProcessTarget} {addressUnit : AddressUnit}
    {prepared : PreparedWorkflow}
    (ready : prepareWorkflow pageSize options operation processTargets addressUnit =
      .ok prepared) :
    ∃ kdamond context, prepared.baseConfig = ⟨[⟨kdamond, [context]⟩]⟩ ∧
      prepared.baseConfig.validateRunnable pageSize = .ok () ∧
      prepared.customSchemeCount = context.schemes.length ∧
      prepared.targetIdentities.length = context.targets.length ∧ context.targets ≠ [] ∧
      ∀ identity ∈ prepared.targetIdentities, identity.targetIndex < context.targets.length := by
  obtain ⟨intervals, _, ready⟩ := Checks.bind_ok ready
  obtain ⟨regionBounds, _, ready⟩ := Checks.bind_ok ready
  obtain ⟨runnable, ready⟩ := Checks.seq_ok ready
  obtain ⟨_, ready⟩ := Checks.seq_ok ready
  cases ready
  obtain ⟨length, some, numbered⟩ := workflowTargets_numbered options processTargets
  exact ⟨_, _, rfl, runnable, rfl, length, some, numbered⟩

/-! ## Query schemes run -/

section Schemes

variable {applyInterval : Duration} {micros : UInt64}

/-- The query scheme passes every check of a scheme when its interval is one of whole
microseconds. -/
theorem snapshotQueryScheme_valid
    (whole : exactMicros "scheme apply interval" applyInterval = .ok micros)
    {targetCount : Nat} (filters : List FilterConfig) (few : filters.length ≤ kernelIndexMax)
    (valid : ∀ filter ∈ filters, filter.validate targetCount = .ok ()) :
    { snapshotQueryScheme applyInterval with filters := filters }.validateFor targetCount =
      .ok () := by
  have passed : filters.forM (fun filter => filter.validate targetCount) = .ok () :=
    Checks.forM_eq_ok_iff.mpr valid
  have counted : validateCount "scheme filter count" filters.length = .ok () := by
    rw [validateCount, requireField_eq_ok_iff]
    exact decide_eq_true few
  have token : validateToken "scheme action" Action.stat.kernelName = .ok () := by decide +kernel
  have quota : QuotaConfig.default.validate = .ok () := by decide +kernel
  have watermarks : WatermarksConfig.default.validate = .ok () := by decide +kernel
  show (do
    validateToken "scheme action" Action.stat.kernelName
    let _ ← exactMicros "scheme apply interval" applyInterval
    QuotaConfig.default.validate
    WatermarksConfig.default.validate
    validateCount "scheme filter count" filters.length
    filters.forM fun filter => filter.validate targetCount
    validateCount "migration destination count" 0
    let totalWeight ← SchemeConfig.validateDestinations 0 []
    requireField (([] : List DestinationConfig).isEmpty || totalWeight ≠ 0)
      "migration destination weights" "at least one destination must have non-zero weight"
    requireField (!(none : Option Int32).any (· < 0)) "migration target node"
      "must be non-negative, or None for NUMA_NO_NODE") = _
  rw [token, whole, quota, watermarks, counted, passed]
  rfl

theorem snapshotQueryScheme_runnable
    (whole : exactMicros "scheme apply interval" applyInterval = .ok micros)
    {operation : Operation} {targetCount : Nat} (filters : List FilterConfig)
    (few : filters.length ≤ kernelIndexMax)
    (valid : ∀ filter ∈ filters, filter.validate targetCount = .ok ()) :
    { snapshotQueryScheme applyInterval with filters := filters }.validateRunnableFor operation
      targetCount = .ok () := by
  unfold SchemeConfig.validateRunnableFor
  rw [snapshotQueryScheme_valid whole filters few valid]
  cases operation <;> rfl

theorem targetFilter_valid {index targetCount : Nat} (inside : index < targetCount)
    (counted : targetCount ≤ kernelIndexMax) :
    (FilterConfig.target index false false).validate targetCount = .ok () := by
  have small : validateCount "target filter index" index = .ok () := by
    rw [validateCount, requireField_eq_ok_iff, decide_eq_true_eq]
    exact le_trans (le_of_lt inside) counted
  have configured : requireField (decide (index < targetCount)) "target filter index"
      "must refer to a configured target" = .ok () := by
    rw [requireField_eq_ok_iff, decide_eq_true_eq]
    exact inside
  show (do
    validateToken "scheme filter type" SchemeFilterType.target.kernelName
    (FilterConfig.target index false false).validatePayloadFields .targetIndex
    validateCount "target filter index" index
    requireField (decide (index < targetCount)) "target filter index"
      "must refer to a configured target"
    (none : Option String).forM (validateSysfsString "scheme filter cgroup path")
    (some index).forM (validateCount "target filter index")) = _
  rw [small, configured]
  exact small

end Schemes

/-! ## Soundness of a query -/

/-- What the query schemes of a context and their descriptors promise. -/
structure QueriesSound (operation : Operation) (targetCount : Nat) (schemes : List SchemeConfig)
    (query : List SchemeConfig × List SnapshotDescriptor) : Prop where
  appends : ∃ more, query.1 = schemes ++ more ∧ more.length ≤ targetCount ∧
    ∀ scheme ∈ more, scheme.validateRunnableFor operation targetCount = .ok ()
  distinct : (query.2.map SnapshotDescriptor.schemeIndex).Nodup
  bounded : ∀ descriptor ∈ query.2,
    schemes.length ≤ descriptor.schemeIndex ∧ descriptor.schemeIndex < query.1.length
  justified : ∀ descriptor ∈ query.2, descriptor.Justified query.1 targetCount

section Queries

variable {applyInterval : Duration} {micros : UInt64} {operation : Operation} {targetCount : Nat}
  {schemes : List SchemeConfig} {identities : List TargetIdentity}

/-- The isolated queries stand after the schemes, one for each target in order. -/
theorem isolateTargets_eq (applyInterval : Duration) (schemes : List SchemeConfig)
    (identities : List TargetIdentity) :
    isolateTargets applyInterval schemes identities =
      (schemes ++ identities.map (isolatedQueryScheme applyInterval),
        (identities.zipIdx schemes.length).map fun (identity, index) =>
          ⟨index, .target identity⟩) := by
  induction identities generalizing schemes with
  | nil => simp [isolateTargets]
  | cons identity rest ih => simp [isolateTargets, ih]

theorem isolateTargets_sound
    (whole : exactMicros "scheme apply interval" applyInterval = .ok micros)
    (counted : targetCount ≤ kernelIndexMax) (length : identities.length = targetCount)
    (numbered : ∀ identity ∈ identities, identity.targetIndex < targetCount) :
    QueriesSound operation targetCount schemes
      (isolateTargets applyInterval schemes identities) := by
  rw [isolateTargets_eq]
  refine ⟨⟨_, rfl, by simp [length], fun scheme member => ?_⟩, ?_, ?_, ?_⟩
  · obtain ⟨identity, inside, rfl⟩ := List.mem_map.mp member
    have single : 1 ≤ kernelIndexMax := by decide
    apply snapshotQueryScheme_runnable whole
      [FilterConfig.target identity.targetIndex false false] single
    intro filter only
    obtain rfl := List.mem_singleton.mp only
    exact targetFilter_valid (numbered identity inside) counted
  · have indexes : ((identities.zipIdx schemes.length).map fun (identity, index) =>
        (⟨index, .target identity⟩ : SnapshotDescriptor)).map SnapshotDescriptor.schemeIndex =
          (identities.zipIdx schemes.length).map Prod.snd := by
      rw [List.map_map]
      rfl
    rw [indexes, List.zipIdx_map_snd]
    exact List.nodup_range'
  · intro descriptor member
    obtain ⟨⟨identity, index⟩, numberedAt, rfl⟩ := List.mem_map.mp member
    constructor
    · exact List.le_snd_of_mem_zipIdx numberedAt
    · rw [List.length_append, List.length_map]
      exact List.snd_lt_add_of_mem_zipIdx numberedAt
  · intro descriptor member identity labelled
    obtain ⟨⟨found, index⟩, numberedAt, rfl⟩ := List.mem_map.mp member
    cases labelled
    have at' := List.mk_mem_zipIdx_iff_le_and_getElem?_sub.mp numberedAt
    refine ⟨numbered identity (List.mem_of_getElem? at'.2), .inr
      ⟨isolatedQueryScheme applyInterval identity,
        FilterConfig.target identity.targetIndex false false, ?_, List.mem_singleton.mpr rfl,
        FilterConfig.rejectsTarget_target identity.targetIndex⟩⟩
    rw [List.getElem?_append_right at'.1, List.getElem?_map, at'.2]
    rfl

theorem snapshotQuerySchemes_single
    (whole : exactMicros "scheme apply interval" applyInterval = .ok micros)
    (positive : 0 < targetCount) {scope : SnapshotScope}
    (justified : ∀ identity, scope = .target identity →
      identity.targetIndex < targetCount ∧ targetCount = 1) :
    QueriesSound operation targetCount schemes
      (schemes ++ [snapshotQueryScheme applyInterval], [⟨schemes.length, scope⟩]) := by
  refine ⟨⟨_, rfl, positive, fun scheme member => ?_⟩, by simp, ?_, ?_⟩
  · obtain rfl := List.mem_singleton.mp member
    exact snapshotQueryScheme_runnable whole [] (Nat.zero_le _) (by simp)
  · intro descriptor member
    obtain rfl := List.mem_singleton.mp member
    simp
  · intro descriptor member identity labelled
    obtain rfl := List.mem_singleton.mp member
    obtain ⟨inside, sole⟩ := justified identity labelled
    exact ⟨inside, .inl sole⟩

theorem snapshotQuerySchemes_sound
    (whole : exactMicros "scheme apply interval" applyInterval = .ok micros)
    (counted : targetCount ≤ kernelIndexMax) (positive : 0 < targetCount)
    (length : identities.length = targetCount)
    (numbered : ∀ identity ∈ identities, identity.targetIndex < targetCount) (isolate : Bool) :
    QueriesSound operation targetCount schemes
      (snapshotQuerySchemes schemes identities applyInterval isolate) := by
  unfold snapshotQuerySchemes
  split
  · rename_i identity
    apply snapshotQuerySchemes_single whole positive
    intro other same
    cases same
    exact ⟨numbered identity List.mem_cons_self, length.symm⟩
  · cases isolate with
    | true => exact isolateTargets_sound whole counted length numbered
    | false =>
        apply snapshotQuerySchemes_single whole positive
        intro identity same
        cases same

end Queries

/-- Runnable schemes may be appended to a runnable context up to the count limit. -/
theorem ContextConfig.Runnable.append {pageSize : Nat} {context : ContextConfig}
    (runnable : context.Runnable pageSize false) {more : List SchemeConfig}
    (few : context.schemes.length + more.length ≤ kernelIndexMax)
    (runs : ∀ scheme ∈ more,
      scheme.validateRunnableFor context.operation context.targets.length = .ok ()) :
    { context with schemes := context.schemes ++ more }.Runnable pageSize false := by
  have kept : context.retained = context.targets := by
    rcases runnable.obsolete with allowed | none
    · cases allowed
    · exact List.filter_eq_self.mpr fun target member => by simp [none target member]
  have counted : validateCount "scheme count" (context.schemes ++ more).length = .ok () := by
    rw [validateCount, requireField_eq_ok_iff, decide_eq_true_eq, List.length_append]
    exact few
  refine {
    valid := { runnable.valid with schemeCount := counted, schemes := fun scheme member => ?_ }
    obsolete := runnable.obsolete
    monitored := runnable.monitored
    weighted := runnable.weighted
    sampled := runnable.sampled
    operation := runnable.operation
    schemes := fun scheme member => ?_ }
  · rcases List.mem_append.mp member with old | new
    · exact runnable.valid.schemes scheme old
    · exact SchemeConfig.validateFor_of_runnable (runs scheme new)
  · rcases List.mem_append.mp member with old | new
    · exact runnable.schemes scheme old
    · show scheme.validateRunnableFor context.operation context.retained.length = .ok ()
      rw [kept]
      exact runs scheme new

/-- A snapshot query of a prepared workflow is runnable, only appends schemes to the base, gives
each descriptor a scheme of its own among them, and scopes a result to a target only when no other
target can contribute. -/
theorem snapshotQueryConfiguration_sound {pageSize : Nat} {options : WorkflowOptions}
    {operation : Operation} {processTargets : List ProcessTarget} {addressUnit : AddressUnit}
    {prepared : PreparedWorkflow}
    (ready : prepareWorkflow pageSize options operation processTargets addressUnit = .ok prepared)
    (few : prepared.customSchemeCount + prepared.targetIdentities.length ≤ kernelIndexMax)
    {applyInterval : Duration} {micros : UInt64}
    (whole : exactMicros "scheme apply interval" applyInterval = .ok micros) (isolate : Bool) :
    let query := snapshotQueryConfiguration prepared.baseConfig prepared.targetIdentities
      applyInterval isolate
    query.1.validateRunnable pageSize = .ok () ∧
      ∃ refresh context more, prepared.baseConfig = ⟨[⟨refresh, [context]⟩]⟩ ∧
        query.1 = ⟨[⟨refresh, [{ context with schemes := context.schemes ++ more }]⟩]⟩ ∧
        (query.2.map SnapshotDescriptor.schemeIndex).Nodup ∧
        ∀ descriptor ∈ query.2, context.schemes.length ≤ descriptor.schemeIndex ∧
          descriptor.schemeIndex < (context.schemes ++ more).length ∧
          descriptor.Justified (context.schemes ++ more) context.targets.length := by
  intro query
  obtain ⟨refresh, context, base, runnable, customs, identities, some, numbered⟩ :=
    prepareWorkflow_ok ready
  rw [customs, identities] at few
  have positive : 0 < context.targets.length := List.length_pos_iff.mpr some
  have counted : context.targets.length ≤ kernelIndexMax := le_trans (Nat.le_add_left _ _) few
  have sound : QueriesSound context.operation context.targets.length context.schemes
      (snapshotQuerySchemes context.schemes prepared.targetIdentities applyInterval isolate) :=
    snapshotQuerySchemes_sound whole counted positive identities numbered isolate
  obtain ⟨⟨more, extended, fewer, runs⟩, distinct, bounded, justified⟩ := sound
  have result : query =
      (⟨[⟨refresh, [{ context with schemes := context.schemes ++ more }]⟩]⟩,
        (snapshotQuerySchemes context.schemes prepared.targetIdentities applyInterval
          isolate).2) := by
    rw [← extended]
    show snapshotQueryConfiguration prepared.baseConfig _ _ _ = _
    rw [base]
    rfl
  rw [extended] at bounded justified
  rw [result]
  refine ⟨?_, refresh, context, more, base, rfl, distinct, fun descriptor member =>
    ⟨(bounded descriptor member).1, (bounded descriptor member).2, justified descriptor member⟩⟩
  rw [base] at runnable
  obtain ⟨length, _, kdamonds⟩ := DamonConfig.validateRunnableForLifecycle_ok_iff.mp runnable
  obtain ⟨refreshes, only, single, runs'⟩ := kdamonds _ (List.mem_singleton.mpr rfl)
  cases single
  apply DamonConfig.validateRunnableForLifecycle_ok_iff.mpr
  refine ⟨length, by simp, fun kdamond member => ?_⟩
  obtain rfl := List.mem_singleton.mp member
  exact ⟨refreshes, _, rfl, runs'.append (le_trans (Nat.add_le_add_left fewer _) few) runs⟩

/-- Two processes without custom schemes. -/
def twoProcesses : Except Error PreparedWorkflow :=
  prepareWorkflow 4096 ⟨.ofMicros 5000, .ofMicros 100000, .ofMicros 1000000, ⟨0⟩, 10, 1000, [], [],
    []⟩ .virtualAddress [⟨⟨7, by decide⟩, none⟩, ⟨⟨8, by decide⟩, none⟩] .one

theorem snapshotQueryConfiguration_sound_processes :
    ∃ prepared, twoProcesses = .ok prepared ∧
      (snapshotQueryConfiguration prepared.baseConfig prepared.targetIdentities (.ofMicros 5000)
        true).1.validateRunnable 4096 = .ok () := by
  have prepares : twoProcesses.isOk = true := by decide +kernel
  cases ready : twoProcesses with
  | error error =>
      rw [ready] at prepares
      cases prepares
  | ok prepared =>
      have few : twoProcesses.toOption.all (fun prepared =>
          prepared.customSchemeCount + prepared.targetIdentities.length ≤ kernelIndexMax) = true := by
        decide +kernel
      rw [ready] at few
      have whole : exactMicros "scheme apply interval" (.ofMicros 5000) = .ok 5000 := by
        decide +kernel
      exact ⟨prepared, rfl,
        (snapshotQueryConfiguration_sound ready (of_decide_eq_true few) whole true).1⟩

end DamonRs
