import DamonRs.Config.Validate
import DamonRs.Library.Checks

/-!
# Accepted configurations

What the chains of checks say when they pass, as one structure for each of
them: a context that validates, a context that may run, and weighted probes
whose scores no 32-bit sum overflows.
-/

namespace DamonRs

open Library

namespace ContextConfig

/-! ## Valid contexts -/

/-- The address-unit checks that belong to an operation. -/
def validateAddressing (pageSize : Nat) (context : ContextConfig) : Except Error Unit :=
  match context.operation with
  | .virtualAddress | .fixedVirtualAddress =>
      requireField (context.addressUnit = .one) "address unit"
        "only physical-address monitoring supports non-one units"
  | .physicalAddress => do
      validateAddressUnitForHost pageSize context.addressUnit
      validateScaledInitialRegions context.targets context.addressUnit
  | .unknown _ => .ok ()

/-- A context that its own validation accepts. -/
structure Valid (pageSize : Nat) (context : ContextConfig) : Prop where
  operation : validateToken "monitoring operation" context.operation.kernelName = .ok ()
  targetCount : validateCount "target count" context.targets.length = .ok ()
  schemeCount : validateCount "scheme count" context.schemes.length = .ok ()
  intervalsGoal : context.intervalsGoal.validateFor context.intervals = .ok ()
  attributes : context.operationAttributes.validate = .ok ()
  sampleControl : context.sampleControl.validate = .ok ()
  probeCount : validateCount "monitoring probe count" context.probes.length = .ok ()
  probes : ∀ probe ∈ context.probes, probe.validate = .ok ()
  targets : ∀ target ∈ context.targets, target.validate = .ok ()
  addressing : context.validateAddressing pageSize = .ok ()
  aligned : validateKernelAlignedInitialRegions context.targets
    (minimumRegionUnits pageSize context.operation context.addressUnit) = .ok ()
  schemes : ∀ scheme ∈ context.schemes, scheme.validateFor context.targets.length = .ok ()

theorem validate_ok_iff {pageSize : Nat} {context : ContextConfig} :
    context.validate pageSize = .ok () ↔ context.Valid pageSize := by
  have chain : context.validate pageSize = (do
      validateToken "monitoring operation" context.operation.kernelName
      validateCount "target count" context.targets.length
      validateCount "scheme count" context.schemes.length
      context.intervalsGoal.validateFor context.intervals
      context.operationAttributes.validate
      context.sampleControl.validate
      validateCount "monitoring probe count" context.probes.length
      context.probes.forM ProbeConfig.validate
      context.targets.forM TargetConfig.validate
      context.validateAddressing pageSize
      validateKernelAlignedInitialRegions context.targets
        (minimumRegionUnits pageSize context.operation context.addressUnit)
      context.schemes.forM fun scheme => scheme.validateFor context.targets.length) := by
    unfold validate validateAddressing
    cases context.operation with
    | virtualAddress => rfl
    | fixedVirtualAddress => rfl
    | unknown name => rfl
    | physicalAddress => simp only [bind_assoc]
  rw [chain]
  simp only [Checks.seq_eq_ok_iff, Checks.forM_eq_ok_iff]
  constructor
  · rintro ⟨operation, targetCount, schemeCount, intervalsGoal, attributes, sampleControl,
      probeCount, probes, targets, addressing, aligned, schemes⟩
    exact ⟨operation, targetCount, schemeCount, intervalsGoal, attributes, sampleControl,
      probeCount, probes, targets, addressing, aligned, schemes⟩
  · rintro ⟨operation, targetCount, schemeCount, intervalsGoal, attributes, sampleControl,
      probeCount, probes, targets, addressing, aligned, schemes⟩
    exact ⟨operation, targetCount, schemeCount, intervalsGoal, attributes, sampleControl,
      probeCount, probes, targets, addressing, aligned, schemes⟩

/-! ## Runnable contexts -/

/-- The targets that remain after an update. -/
def retained (context : ContextConfig) : List TargetConfig :=
  context.targets.filter fun target => !target.obsolete

/-- What an operation asks of the targets it monitors. -/
def OperationRunnable (context : ContextConfig) : Prop :=
  match context.operation with
  | .virtualAddress => ∀ target ∈ context.retained, target.pid.isSome = true
  | .fixedVirtualAddress =>
      ∀ target ∈ context.retained, target.pid.isSome = true ∧ target.initialRegions ≠ []
  | .physicalAddress =>
      ∃ target, context.targets = [target] ∧ target.obsolete = false ∧ target.pid = none ∧
        target.initialRegions ≠ []
  | .unknown _ => True

/-- A context that may run, with or without targets that an update removes. -/
structure Runnable (pageSize : Nat) (allowObsoleteTargets : Bool) (context : ContextConfig) :
    Prop where
  valid : context.Valid pageSize
  obsolete : allowObsoleteTargets = true ∨ ∀ target ∈ context.targets, target.obsolete = false
  monitored : context.retained ≠ []
  weighted : context.validateWeightedProbes = .ok ()
  sampled : context.validateRunnableSampleControl = .ok ()
  operation : context.OperationRunnable
  schemes : ∀ scheme ∈ context.schemes,
    scheme.validateRunnableFor context.operation context.retained.length = .ok ()

/-- The checks an operation makes of its targets. -/
def validateOperation (context : ContextConfig) : Except Error Unit :=
  match context.operation with
  | .virtualAddress =>
      requireField (context.retained.all fun target => target.pid.isSome) "virtual-address target"
        "requires a process identifier"
  | .fixedVirtualAddress => do
      requireField (context.retained.all fun target => target.pid.isSome)
        "fixed virtual-address target" "requires a process identifier"
      requireField (context.retained.all fun target => !target.initialRegions.isEmpty)
        "fixed virtual-address target regions"
        "requires at least one initial region per target"
  | .physicalAddress =>
      match context.targets with
      | [target] => do
          requireField (context.retained.length = 1) "physical-address targets"
            "requires exactly one target on current DAMON kernels"
          requireField target.pid.isNone "physical-address target"
            "must not contain a process identifier"
          requireField (!target.initialRegions.isEmpty) "physical-address target regions"
            "requires at least one initial region"
      | _ =>
          invalid "physical-address targets"
            "requires exactly one target on current DAMON kernels"
  | .unknown _ => .ok ()

theorem validateOperation_ok_iff {context : ContextConfig} :
    context.validateOperation = .ok () ↔ context.OperationRunnable := by
  unfold validateOperation OperationRunnable
  cases context.operation with
  | virtualAddress =>
      dsimp only
      rw [requireField_eq_ok_iff, List.all_eq_true]
  | fixedVirtualAddress =>
      dsimp only
      rw [Checks.seq_eq_ok_iff, requireField_eq_ok_iff, requireField_eq_ok_iff, List.all_eq_true,
        List.all_eq_true]
      simp only [Bool.not_eq_true', List.isEmpty_eq_false_iff, ne_eq, forall_and]
  | unknown name => simp
  | physicalAddress =>
      dsimp only
      unfold retained
      rcases context.targets with _ | ⟨target, _ | ⟨other, rest⟩⟩
      · simp [invalid]
      · dsimp only
        rw [Checks.seq_eq_ok_iff, Checks.seq_eq_ok_iff, requireField_eq_ok_iff,
          requireField_eq_ok_iff, requireField_eq_ok_iff]
        cases obsolete : target.obsolete <;> simp [obsolete]
      · simp [invalid]

theorem validateRunnableForLifecycle_ok_iff {pageSize : Nat} {context : ContextConfig}
    {allowObsoleteTargets : Bool} :
    context.validateRunnableForLifecycle pageSize allowObsoleteTargets = .ok () ↔
      context.Runnable pageSize allowObsoleteTargets := by
  have chain : context.validateRunnableForLifecycle pageSize allowObsoleteTargets = (do
      context.validate pageSize
      requireField (allowObsoleteTargets || !context.targets.any TargetConfig.obsolete)
        "obsolete target" "is valid only as a one-shot update to a running context"
      requireField (!context.retained.isEmpty) "monitoring targets"
        "a running context requires at least one non-obsolete target"
      context.validateWeightedProbes
      context.validateRunnableSampleControl
      context.validateOperation
      context.schemes.forM fun scheme =>
        scheme.validateRunnableFor context.operation context.retained.length) := by
    unfold validateRunnableForLifecycle validateOperation retained
    cases context.operation with
    | virtualAddress => rfl
    | fixedVirtualAddress => simp only [bind_assoc]
    | unknown name => rfl
    | physicalAddress =>
        rcases context.targets with _ | ⟨target, _ | ⟨other, rest⟩⟩
        · rfl
        · simp only [bind_assoc]
        · rfl
  have allowed : requireField (allowObsoleteTargets || !context.targets.any TargetConfig.obsolete)
      "obsolete target" "is valid only as a one-shot update to a running context" = .ok () ↔
      (allowObsoleteTargets = true ∨ ∀ target ∈ context.targets, target.obsolete = false) := by
    rw [requireField_eq_ok_iff]
    cases allowObsoleteTargets <;> simp
  have some : requireField (!context.retained.isEmpty) "monitoring targets"
      "a running context requires at least one non-obsolete target" = .ok () ↔
      context.retained ≠ [] := by
    rw [requireField_eq_ok_iff]
    simp
  rw [chain]
  simp only [Checks.seq_eq_ok_iff, Checks.forM_eq_ok_iff, validate_ok_iff, allowed, some,
    validateOperation_ok_iff]
  constructor
  · rintro ⟨valid, obsolete, monitored, weighted, sampled, operation, schemes⟩
    exact ⟨valid, obsolete, monitored, weighted, sampled, operation, schemes⟩
  · rintro ⟨valid, obsolete, monitored, weighted, sampled, operation, schemes⟩
    exact ⟨valid, obsolete, monitored, weighted, sampled, operation, schemes⟩

/-! ## Weighted probes -/

/-- The most hits a probe can count in one aggregation interval. -/
def maximumHits (context : ContextConfig) : Nat :=
  max 1 (context.intervals.aggregationUs.toNat / max 1 context.intervals.sampleUs.toNat)

/-- The weighted hits of the probes, one for each hit count. -/
def weightedHits (context : ContextConfig) (hits : List Nat) : List Nat :=
  List.zipWith (fun probe count => probe.weight.toNat * count) context.probes hits

/-- Every partial sum of numbers fits an unsigned 32-bit value. -/
def PartialSumsFit (numbers : List Nat) : Prop :=
  ∀ length, (numbers.take length).sum < u32Bound

theorem partialSumsFit_iff (numbers : List Nat) :
    PartialSumsFit numbers ↔ numbers.sum < u32Bound := by
  constructor
  · intro fits
    have whole := fits numbers.length
    rwa [List.take_length] at whole
  · intro small length
    calc
      (numbers.take length).sum ≤ (numbers.take length).sum + (numbers.drop length).sum :=
        Nat.le_add_right _ _
      _ = numbers.sum := by rw [← List.sum_append, List.take_append_drop]
      _ < u32Bound := small

/-- The accumulator of the weights overflows nowhere exactly when the whole sum fits. -/
theorem validateProbeWeights_ok_iff {hits total : Nat} {probes : List ProbeConfig}
    (fits : total < u32Bound) :
    validateProbeWeights hits total probes = .ok () ↔
      total + (probes.map fun probe => probe.weight.toNat * hits).sum < u32Bound := by
  induction probes generalizing total with
  | nil => simpa [validateProbeWeights] using fits
  | cons probe rest ih =>
      rw [validateProbeWeights, Checks.seq_eq_ok_iff, Checks.seq_eq_ok_iff, requireField_eq_ok_iff,
        requireField_eq_ok_iff, decide_eq_true_eq, decide_eq_true_eq, List.map_cons, List.sum_cons,
        ← Nat.add_assoc]
      constructor
      · rintro ⟨_, first, others⟩
        exact (ih first).mp others
      · intro sum
        have first : total + probe.weight.toNat * hits < u32Bound :=
          lt_of_le_of_lt (Nat.le_add_right _ _) sum
        exact ⟨lt_of_le_of_lt (Nat.le_add_left _ _) first, first, (ih first).mpr sum⟩

theorem weightedHits_replicate (context : ContextConfig) (count : Nat) :
    context.weightedHits (List.replicate context.probes.length count) =
      context.probes.map fun probe => probe.weight.toNat * count := by
  unfold weightedHits
  induction context.probes with
  | nil => rfl
  | cons probe rest ih =>
      rw [List.length_cons, List.replicate_succ, List.zipWith_cons_cons, List.map_cons, ih]

/-- With a weighted probe, the check passes exactly when the greatest hits fit both limits. -/
theorem validateWeightedProbes_ok_iff {context : ContextConfig}
    (weighted : ∃ probe ∈ context.probes, probe.weight ≠ 0) :
    context.validateWeightedProbes = .ok () ↔
      context.maximumHits ≤ 255 ∧
        (context.probes.map fun probe => probe.weight.toNat * context.maximumHits).sum <
          u32Bound := by
  have some : ¬ (context.probes.all fun probe => probe.weight = 0) = true := by
    simpa using weighted
  have hits : max (context.intervals.aggregationUs.toNat /
      max context.intervals.sampleUs.toNat 1) 1 = context.maximumHits := by
    rw [maximumHits, max_comm, max_comm context.intervals.sampleUs.toNat]
  rw [validateWeightedProbes, if_neg some]
  dsimp only
  rw [hits]
  by_cases small : context.maximumHits ≤ 255
  · have clamped : min context.maximumHits (u32Bound - 1) = context.maximumHits :=
      min_eq_left (le_trans small (by decide))
    rw [clamped, Checks.seq_eq_ok_iff, requireField_eq_ok_iff, decide_eq_true_eq,
      validateProbeWeights_ok_iff (by decide), Nat.zero_add]
  · have clamped : ¬ min context.maximumHits (u32Bound - 1) ≤ 255 := by
      rw [min_le_iff]
      rintro (below | below)
      · exact small below
      · exact absurd below (by decide)
    rw [Checks.seq_eq_ok_iff, requireField_eq_ok_iff, decide_eq_true_eq]
    exact ⟨fun passed => absurd passed.1 clamped, fun fits => absurd fits.1 small⟩

/-- Fewer hits have smaller weighted sums. -/
theorem weightedHits_sum_le {context : ContextConfig} {hits : List Nat} {most : Nat}
    (bounded : ∀ count ∈ hits, count ≤ most) :
    (context.weightedHits hits).sum ≤
      (context.probes.map fun probe => probe.weight.toNat * most).sum := by
  unfold weightedHits
  induction context.probes generalizing hits with
  | nil => simp
  | cons probe rest ih =>
      cases hits with
      | nil => simp
      | cons count others =>
          rw [List.zipWith_cons_cons, List.map_cons, List.sum_cons, List.sum_cons]
          apply Nat.add_le_add
          · exact Nat.mul_le_mul_left _ (bounded count List.mem_cons_self)
          · exact ih fun other member => bounded other (List.mem_cons_of_mem count member)

/-- No weighted score of a runnable context overflows, and the check refuses no context whose
greatest score does not. -/
theorem weightedProbes_exact {context : ContextConfig}
    (weighted : ∃ probe ∈ context.probes, probe.weight ≠ 0) :
    (∀ pageSize, context.validateRunnableForLifecycle pageSize false = .ok () →
      ∀ hits : List Nat, hits.length = context.probes.length →
        (∀ count ∈ hits, count ≤ context.maximumHits) →
          (∀ count ∈ hits, count ≤ 255) ∧ PartialSumsFit (context.weightedHits hits)) ∧
    (context.maximumHits ≤ 255 →
      PartialSumsFit
        (context.weightedHits (List.replicate context.probes.length context.maximumHits)) →
      context.validateWeightedProbes = .ok ()) := by
  constructor
  · intro pageSize runnable hits _ bounded
    obtain ⟨small, sum⟩ := (validateWeightedProbes_ok_iff weighted).mp
      (validateRunnableForLifecycle_ok_iff.mp runnable).weighted
    constructor
    · exact fun count member => le_trans (bounded count member) small
    · rw [partialSumsFit_iff]
      exact lt_of_le_of_lt (weightedHits_sum_le bounded) sum
  · intro small fits
    rw [partialSumsFit_iff, weightedHits_replicate] at fits
    exact (validateWeightedProbes_ok_iff weighted).mpr ⟨small, fits⟩

/-- Two probes, the second with the greatest weight that twenty hits allow. -/
def weightedMemory : ContextConfig :=
  { ContextConfig.new .physicalAddress with
    probes := [⟨[], 0, []⟩, ⟨[], 214748364, []⟩]
    targets := [⟨none, false, [⟨0, 4096⟩]⟩] }

theorem weightedProbes_exact_twenty :
    PartialSumsFit (weightedMemory.weightedHits [7, 20]) ∧
      weightedMemory.validateWeightedProbes = .ok () := by
  have runnable : weightedMemory.validateRunnableForLifecycle 4096 false = .ok () := by
    decide +kernel
  have weighted : ∃ probe ∈ weightedMemory.probes, probe.weight ≠ 0 :=
    ⟨⟨[], 214748364, []⟩, by simp [weightedMemory], by decide⟩
  obtain ⟨sound, complete⟩ := weightedProbes_exact weighted
  constructor
  · exact (sound 4096 runnable [7, 20] rfl (by decide)).2
  · exact complete (by decide) ((partialSumsFit_iff _).mpr (by decide))

end ContextConfig

/-! ## Schemes and filters -/

namespace SchemeConfig

theorem filters_of_validateFor {scheme : SchemeConfig} {targetCount : Nat}
    (valid : scheme.validateFor targetCount = .ok ()) :
    ∀ filter ∈ scheme.filters, filter.validate targetCount = .ok () := by
  obtain ⟨_, others⟩ := Checks.seq_ok valid
  obtain ⟨_, _, others⟩ := Checks.bind_ok others
  obtain ⟨_, others⟩ := Checks.seq_ok others
  obtain ⟨_, others⟩ := Checks.seq_ok others
  obtain ⟨_, others⟩ := Checks.seq_ok others
  obtain ⟨filters, _⟩ := Checks.seq_ok others
  exact Checks.forM_ok filters

theorem validateFor_of_runnable {scheme : SchemeConfig} {operation : Operation} {targetCount : Nat}
    (runnable : scheme.validateRunnableFor operation targetCount = .ok ()) :
    scheme.validateFor targetCount = .ok () :=
  (Checks.seq_ok runnable).1

end SchemeConfig

namespace FilterConfig

/-- A valid target filter names one of the targets. -/
theorem targetIndex_of_validate {filter : FilterConfig} {targetCount : Nat}
    (valid : filter.validate targetCount = .ok ()) (target : filter.filterType = .target) :
    ∃ index, filter.targetIndex = some index ∧ index < targetCount := by
  obtain ⟨_, others⟩ := Checks.seq_ok valid
  extract_lets last required payloads at others
  -- each of the three decisions continues with the next
  have continues : ∀ {check : Except Error Unit} {next : Unit → Except Error Unit},
      (check >>= next) = .ok () → next () = .ok () := fun passed => (Checks.seq_ok passed).2
  have requiredPassed : required () = .ok () := by
    have payloadsPassed : payloads () = .ok () := by
      split at others
      · exact continues others
      · exact continues others
      · exact others
    unfold payloads at payloadsPassed
    split at payloadsPassed
    all_goals exact continues payloadsPassed
  unfold required at requiredPassed
  rw [target] at requiredPassed
  cases known : filter.targetIndex with
  | none =>
      rw [known] at requiredPassed
      cases (Checks.seq_ok requiredPassed).1
  | some index =>
      rw [known] at requiredPassed
      obtain ⟨_, others⟩ := Checks.seq_ok requiredPassed
      obtain ⟨inside, _⟩ := Checks.seq_ok others
      rw [requireField_eq_ok_iff, decide_eq_true_eq] at inside
      exact ⟨index, rfl, inside⟩

end FilterConfig

/-! ## Runnable hierarchies -/

/-- A kdamond with one context that may run. -/
structure KdamondConfig.Runnable (pageSize : Nat) (allowObsoleteTargets : Bool)
    (kdamond : KdamondConfig) : Prop where
  refresh : ∃ millis, exactRefreshMillis kdamond.refreshInterval = .ok millis
  context : ∃ context, kdamond.contexts = [context] ∧
    context.Runnable pageSize allowObsoleteTargets

theorem KdamondConfig.Runnable.validates {pageSize : Nat} {allowObsoleteTargets : Bool}
    {kdamond : KdamondConfig} (runnable : kdamond.Runnable pageSize allowObsoleteTargets) :
    kdamond.validate pageSize = .ok () := by
  obtain ⟨millis, refresh⟩ := runnable.refresh
  obtain ⟨context, single, valid⟩ := runnable.context
  have contextValid := ContextConfig.validate_ok_iff.mpr valid.valid
  have passed : [context].forM (ContextConfig.validate pageSize) = .ok () := by
    rw [Checks.forM_eq_ok_iff]
    simpa using contextValid
  rw [validate, single, refresh]
  exact passed

namespace DamonConfig

theorem validateRunnableForLifecycle_ok_iff {pageSize : Nat} {config : DamonConfig}
    {allowObsoleteTargets : Bool} :
    config.validateRunnableForLifecycle pageSize allowObsoleteTargets = .ok () ↔
      config.kdamonds.length ≤ kernelIndexMax ∧ config.kdamonds ≠ [] ∧
        ∀ kdamond ∈ config.kdamonds, kdamond.Runnable pageSize allowObsoleteTargets := by
  rw [validateRunnableForLifecycle, Checks.seq_eq_ok_iff, Checks.seq_eq_ok_iff, validate,
    Checks.seq_eq_ok_iff, validateCount, requireField_eq_ok_iff, requireField_eq_ok_iff,
    decide_eq_true_eq, Checks.forM_eq_ok_iff, Checks.forM_eq_ok_iff]
  constructor
  · rintro ⟨⟨counted, valid⟩, nonempty, runs⟩
    refine ⟨counted, by simpa using nonempty, fun kdamond member => ?_⟩
    obtain ⟨_, refreshed⟩ := Checks.seq_ok (valid kdamond member)
    obtain ⟨millis, refresh, _⟩ := Checks.bind_ok refreshed
    have run := runs kdamond member
    split at run
    · rename_i context single
      exact ⟨⟨millis, refresh⟩, context, single,
        ContextConfig.validateRunnableForLifecycle_ok_iff.mp run⟩
    · cases run
  · rintro ⟨counted, nonempty, runs⟩
    refine ⟨⟨counted, fun kdamond member => (runs kdamond member).validates⟩,
      by simpa using nonempty, fun kdamond member => ?_⟩
    obtain ⟨context, single, runnable⟩ := (runs kdamond member).context
    rw [single]
    exact ContextConfig.validateRunnableForLifecycle_ok_iff.mpr runnable

end DamonConfig

end DamonRs
