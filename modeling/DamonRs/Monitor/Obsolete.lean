import DamonRs.Config.Accepted
import DamonRs.Monitor.Agreement

/-!
# Removing obsolete targets

The update that follows a one-shot removal stages the request without its
obsolete targets and does not validate it again.  Every rule about targets is
closed under that removal, so the cleaned request is a valid one.
-/

namespace DamonRs

open Library

theorem validateCount_of_le {field : String} {count smaller : Nat} (less : smaller ≤ count)
    (passed : validateCount field count = .ok ()) : validateCount field smaller = .ok () := by
  rw [validateCount, requireField_eq_ok_iff, decide_eq_true_eq] at passed ⊢
  exact le_trans less passed

theorem validateScaledInitialRegions_of_subset {targets fewer : List TargetConfig}
    {unit : AddressUnit} (subset : fewer ⊆ targets)
    (passed : validateScaledInitialRegions targets unit = .ok ()) :
    validateScaledInitialRegions fewer unit = .ok () := by
  apply Checks.forM_eq_ok_iff.mpr
  intro region member
  obtain ⟨target, kept, initial⟩ := List.mem_flatMap.mp member
  exact Checks.forM_ok passed region (List.mem_flatMap.mpr ⟨target, subset kept, initial⟩)

theorem validateKernelAlignedInitialRegions_of_subset {targets fewer : List TargetConfig}
    {alignment : Option Nat} (subset : fewer ⊆ targets)
    (passed : validateKernelAlignedInitialRegions targets alignment = .ok ()) :
    validateKernelAlignedInitialRegions fewer alignment = .ok () := by
  cases alignment with
  | none => rfl
  | some alignment =>
      apply Checks.forM_eq_ok_iff.mpr
      exact fun target kept => Checks.forM_ok passed target (subset kept)

namespace ContextConfig

theorem withoutObsoleteTargets_targets (context : ContextConfig) :
    context.withoutObsoleteTargets.targets = context.retained := rfl

@[simp] theorem withoutObsoleteTargets_retained (context : ContextConfig) :
    context.withoutObsoleteTargets.retained = context.retained := by
  simp [retained, withoutObsoleteTargets, List.filter_filter]

theorem retained_subset (context : ContextConfig) : context.retained ⊆ context.targets :=
  List.filter_subset_self _

theorem retained_not_obsolete {context : ContextConfig} :
    ∀ target ∈ context.retained, target.obsolete = false := by
  intro target member
  simpa using (List.mem_filter.mp member).2

/-- Every check of a target is made of that target alone, and the filters of a scheme were checked
against the targets that remain. -/
theorem Runnable.valid_withoutObsoleteTargets {pageSize : Nat} {context : ContextConfig}
    {allowed : Bool} (runnable : context.Runnable pageSize allowed) :
    context.withoutObsoleteTargets.Valid pageSize where
  operation := runnable.valid.operation
  targetCount := validateCount_of_le (List.length_filter_le _ _) runnable.valid.targetCount
  schemeCount := runnable.valid.schemeCount
  intervalsGoal := runnable.valid.intervalsGoal
  attributes := runnable.valid.attributes
  sampleControl := runnable.valid.sampleControl
  probeCount := runnable.valid.probeCount
  probes := runnable.valid.probes
  targets target member := runnable.valid.targets target (context.retained_subset member)
  addressing := by
    have addressing := runnable.valid.addressing
    unfold validateAddressing at addressing ⊢
    have same : context.withoutObsoleteTargets.operation = context.operation := rfl
    rw [same]
    cases operation : context.operation with
    | virtualAddress =>
        rw [operation] at addressing
        exact addressing
    | fixedVirtualAddress =>
        rw [operation] at addressing
        exact addressing
    | unknown name => rfl
    | physicalAddress =>
        rw [operation] at addressing
        obtain ⟨unit, scaled⟩ := Checks.seq_ok addressing
        exact Checks.seq_eq_ok_iff.mpr
          ⟨unit, validateScaledInitialRegions_of_subset context.retained_subset scaled⟩
  aligned :=
    validateKernelAlignedInitialRegions_of_subset context.retained_subset runnable.valid.aligned
  schemes scheme member := SchemeConfig.validateFor_of_runnable (runnable.schemes scheme member)

/-- What an operation asks of its targets it asks of the targets that remain. -/
theorem OperationRunnable.withoutObsoleteTargets {context : ContextConfig}
    (runnable : context.OperationRunnable) :
    context.withoutObsoleteTargets.OperationRunnable := by
  unfold OperationRunnable at runnable ⊢
  have same : context.withoutObsoleteTargets.operation = context.operation := rfl
  rw [same, withoutObsoleteTargets_retained]
  cases operation : context.operation with
  | virtualAddress =>
      rw [operation] at runnable
      exact runnable
  | fixedVirtualAddress =>
      rw [operation] at runnable
      exact runnable
  | unknown name => trivial
  | physicalAddress =>
      rw [operation] at runnable
      obtain ⟨target, single, kept, rest⟩ := runnable
      refine ⟨target, ?_, kept, rest⟩
      rw [withoutObsoleteTargets_targets, retained, single]
      simp [kept]

/-- A runnable context stays runnable without its obsolete targets, in either lifecycle. -/
theorem Runnable.withoutObsoleteTargets {pageSize : Nat} {context : ContextConfig}
    {allowed : Bool} (runnable : context.Runnable pageSize allowed) (other : Bool) :
    context.withoutObsoleteTargets.Runnable pageSize other where
  valid := runnable.valid_withoutObsoleteTargets
  obsolete := .inr retained_not_obsolete
  monitored := by
    rw [withoutObsoleteTargets_retained]
    exact runnable.monitored
  weighted := runnable.weighted
  sampled := runnable.sampled
  operation := runnable.operation.withoutObsoleteTargets
  schemes := by
    rw [withoutObsoleteTargets_retained]
    exact runnable.schemes

theorem Runnable.of_none_obsolete {pageSize : Nat} {context : ContextConfig} {allowed : Bool}
    (runnable : context.Runnable pageSize allowed)
    (none : ∀ target ∈ context.targets, target.obsolete = false) (other : Bool) :
    context.Runnable pageSize other :=
  { runnable with obsolete := .inr none }

end ContextConfig

/-! ## The whole hierarchy -/

/-- The kdamond that an index holds after the removal. -/
def KdamondConfig.cleaned (selected : List Nat) (index : Nat) (kdamond : KdamondConfig) :
    KdamondConfig :=
  if selected.contains index then
    { kdamond with contexts := kdamond.contexts.map ContextConfig.withoutObsoleteTargets }
  else kdamond

theorem withoutObsoleteTargets_cleaned (config : DamonConfig) (selected : List Nat)
    (index : Nat) :
    (withoutObsoleteTargets config selected).kdamonds[index]? =
      (config.kdamonds[index]?).map (KdamondConfig.cleaned selected index) := by
  simp only [withoutObsoleteTargets, List.getElem?_map, List.getElem?_zipIdx, Option.map_map]
  rw [Nat.zero_add]
  rfl

/-- A kdamond stays runnable, and its obsolete targets matter only when it is not selected. -/
theorem KdamondConfig.Runnable.cleaned {pageSize : Nat} {kdamond : KdamondConfig}
    {selected : List Nat} {index : Nat} {allowed other : Bool}
    (runnable : kdamond.Runnable pageSize allowed)
    (permits : index ∉ selected → allowed = other ∨
      ∀ context ∈ kdamond.contexts, ∀ target ∈ context.targets, target.obsolete = false) :
    (kdamond.cleaned selected index).Runnable pageSize other := by
  obtain ⟨context, single, contextRunnable⟩ := runnable.context
  unfold KdamondConfig.cleaned
  by_cases chosen : index ∈ selected
  · rw [if_pos (List.contains_iff_mem.mpr chosen)]
    refine ⟨runnable.refresh, context.withoutObsoleteTargets, ?_,
      contextRunnable.withoutObsoleteTargets other⟩
    rw [single]
    rfl
  · rw [if_neg (fun contained => chosen (List.contains_iff_mem.mp contained))]
    rcases permits chosen with rfl | none
    · exact runnable
    · exact ⟨runnable.refresh, context, single,
        contextRunnable.of_none_obsolete (none context (by simp [single])) other⟩

theorem withoutObsoleteTargets_runnable {pageSize : Nat} {config : DamonConfig}
    {selected : List Nat} {allowed other : Bool}
    (valid : config.validateRunnableForLifecycle pageSize allowed = .ok ())
    (permits : ∀ index kdamond, config.kdamonds[index]? = some kdamond → index ∉ selected →
      allowed = other ∨
        ∀ context ∈ kdamond.contexts, ∀ target ∈ context.targets, target.obsolete = false) :
    (withoutObsoleteTargets config selected).validateRunnableForLifecycle pageSize other =
      .ok () := by
  rw [DamonConfig.validateRunnableForLifecycle_ok_iff] at valid ⊢
  obtain ⟨counted, nonempty, runs⟩ := valid
  rw [← List.length_pos_iff, withoutObsoleteTargets_length, List.length_pos_iff]
  refine ⟨counted, nonempty, fun cleaned member => ?_⟩
  obtain ⟨index, found⟩ := List.mem_iff_getElem?.mp member
  rw [withoutObsoleteTargets_cleaned, Option.map_eq_some_iff] at found
  obtain ⟨kdamond, before, rfl⟩ := found
  exact (runs kdamond (List.mem_of_getElem? before)).cleaned (permits index kdamond before)

/-- What the removal does to the kdamond at an index. -/
structure CleanedFrom (selected : List Nat) (index : Nat) (before after : KdamondConfig) :
    Prop where
  /-- The targets of each context keep their order, and only obsolete ones go. -/
  ordered : List.Forall₂ (fun first second : ContextConfig =>
    second.targets.Sublist first.targets ∧
      ∀ target ∈ first.targets, target.obsolete = false → target ∈ second.targets)
    before.contexts after.contexts
  /-- The target filters of a selected kdamond still name a target. -/
  filters : index ∈ selected → ∀ context ∈ after.contexts, ∀ scheme ∈ context.schemes,
    ∀ filter ∈ scheme.filters, filter.filterType = .target →
      ∃ target, filter.targetIndex = some target ∧ target < context.targets.length

theorem KdamondConfig.Runnable.cleanedFrom {pageSize : Nat} {kdamond : KdamondConfig}
    {selected : List Nat} {index : Nat} {allowed : Bool}
    (runnable : kdamond.Runnable pageSize allowed) :
    CleanedFrom selected index kdamond (kdamond.cleaned selected index) := by
  obtain ⟨context, single, contextRunnable⟩ := runnable.context
  unfold KdamondConfig.cleaned
  by_cases chosen : index ∈ selected
  · rw [if_pos (List.contains_iff_mem.mpr chosen)]
    constructor
    · rw [single]
      refine .cons ⟨List.filter_sublist, fun target member kept => ?_⟩ .nil
      exact List.mem_filter.mpr ⟨member, by simp [kept]⟩
    · intro _ cleaned member scheme kept filter used target
      rw [single] at member
      obtain rfl := List.mem_singleton.mp member
      have valid := SchemeConfig.validateFor_of_runnable (contextRunnable.schemes scheme kept)
      exact FilterConfig.targetIndex_of_validate
        (SchemeConfig.filters_of_validateFor valid filter used) target
  · rw [if_neg (fun contained => chosen (List.contains_iff_mem.mp contained))]
    constructor
    · exact List.forall₂_same.mpr fun _ _ => ⟨List.Sublist.refl _, fun _ member _ => member⟩
    · exact fun inside => absurd inside chosen

/-- The cleaned request of a running update is a valid request again: for a running update always,
and for a start when no obsolete target is left; targets keep their order and filters name one of
those that remain. -/
theorem withoutObsoleteTargets_valid {pageSize : Nat} {config : DamonConfig}
    (valid : config.validateRunningUpdate pageSize = .ok ()) (selected : List Nat) :
    (withoutObsoleteTargets config selected).validateRunningUpdate pageSize = .ok () ∧
      ((∀ index kdamond, config.kdamonds[index]? = some kdamond → index ∉ selected →
          ∀ context ∈ kdamond.contexts, ∀ target ∈ context.targets, target.obsolete = false) →
        (withoutObsoleteTargets config selected).validateRunnable pageSize = .ok ()) ∧
      ∀ index kdamond, config.kdamonds[index]? = some kdamond →
        ∃ cleaned, (withoutObsoleteTargets config selected).kdamonds[index]? = some cleaned ∧
          CleanedFrom selected index kdamond cleaned := by
  refine ⟨?_, ?_, ?_⟩
  · exact withoutObsoleteTargets_runnable valid fun _ _ _ _ => .inl rfl
  · intro none
    exact withoutObsoleteTargets_runnable valid fun index kdamond before outside =>
      .inr (none index kdamond before outside)
  · intro index kdamond before
    refine ⟨kdamond.cleaned selected index, ?_, ?_⟩
    · rw [withoutObsoleteTargets_cleaned, before]
      rfl
    · have runs := (DamonConfig.validateRunnableForLifecycle_ok_iff.mp valid).2.2
      exact (runs kdamond (List.mem_of_getElem? before)).cleanedFrom

theorem seven_valid : (0 : UInt32) < 7 ∧ (7 : UInt32) ≤ 2147483647 := by decide

theorem eight_valid : (0 : UInt32) < 8 ∧ (8 : UInt32) ≤ 2147483647 := by decide

/-- Two processes, the first of which leaves, and a scheme that applies to the first target. -/
def departingProcess : DamonConfig where
  kdamonds := [{
    refreshInterval := ⟨0⟩
    contexts := [{ ContextConfig.new .virtualAddress with
      targets := [⟨some ⟨7, seven_valid⟩, true, []⟩, ⟨some ⟨8, eight_valid⟩, false, []⟩]
      schemes := [{
        SchemeConfig.new .stat ⟨⟨0, 4096, by decide⟩, ⟨0, 9, by decide⟩, ⟨0, 9, by decide⟩⟩ with
          filters := [{ FilterConfig.new .target true true with targetIndex := some 0 }] }] }] }]

theorem withoutObsoleteTargets_valid_departing :
    (withoutObsoleteTargets departingProcess [0]).validateRunnable 4096 = .ok () := by
  have valid : departingProcess.validateRunningUpdate 4096 = .ok () := by decide +kernel
  apply (withoutObsoleteTargets_valid valid [0]).2.1
  rintro (_ | index) kdamond found outside
  · exact absurd (List.mem_singleton.mpr rfl) outside
  · cases found

end DamonRs
