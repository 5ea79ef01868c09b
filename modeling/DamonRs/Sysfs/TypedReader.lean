import DamonRs.Sysfs.Reader

/-!
# The typed read is a function of the files

Every typed read looks at attributes and makes values of what they show.  It
reads whole values and asks whether paths exist, so all of them are readers.
-/

namespace DamonRs

open Library Sysfs

section Parts

variable {α β : Type}

instance findEach_reader {body : α → Sysfs (Option β)} {items : List α}
    [each : ∀ item, Reader (body item)] : Reader (Exec.findEach body items) := by
  induction items with
  | nil => exact Reader.pure none
  | cons item rest ih =>
      refine @Reader.bind _ _ _ _ (each item) fun found => ?_
      cases found with
      | some value => exact Reader.pure (some value)
      | none => exact ih

end Parts

/-! ## Targets -/

instance InitialRegion.configuration_reader (region : InitialRegion) :
    Reader region.configuration := by
  unfold InitialRegion.configuration InitialRegion.start InitialRegion.stop
  infer_instance

instance Target.pid_reader (target : Target) : Reader target.pid := by
  unfold Target.pid
  refine @Reader.bind _ _ _ _ _ fun raw => ?_
  refine @Reader.ite _ _ _ _ _ _ (@Reader.ite _ _ _ _ _ _ ?_)
  cases Pid.new (UInt32.ofNat raw.toInt.toNat) with
  | ok pid => exact Reader.pure _
  | error error => exact Reader.invalidValue ..

instance Target.configuration_reader (target : Target) : Reader target.configuration := by
  unfold Target.configuration Target.isObsolete
  infer_instance

/-! ## Probes and samples -/

instance ProbeFilter.cgroupPathFor_reader (filter : ProbeFilter) (filterType : ProbeFilterType) :
    Reader (filter.cgroupPathFor filterType) := by
  unfold ProbeFilter.cgroupPathFor ProbeFilter.cgroupPath
  split <;> infer_instance

instance ProbeFilter.configuration_reader (filter : ProbeFilter) :
    Reader filter.configuration := by
  unfold ProbeFilter.configuration ProbeFilter.filterType ProbeFilter.matching ProbeFilter.allowed
  infer_instance

instance ProbePreparation.configuration_reader (preparation : ProbePreparation) :
    Reader preparation.configuration := by
  unfold ProbePreparation.configuration ProbePreparation.action
  infer_instance

instance Probe.configuration_reader (probe : Probe) : Reader probe.configuration := by
  unfold Probe.configuration Probe.filterCount Probe.weight
  infer_instance

instance OperationAttributes.configuration_reader (attributes : OperationAttributes) :
    Reader attributes.configuration := by
  unfold OperationAttributes.configuration OperationAttributes.useReports
    OperationAttributes.writeOnly OperationAttributes.cpus OperationAttributes.threadIds
  infer_instance

instance SampleFilter.configuration_reader (filter : SampleFilter) :
    Reader filter.configuration := by
  unfold SampleFilter.configuration SampleFilter.filterType SampleFilter.matching
    SampleFilter.allowed SampleFilter.cpuMask SampleFilter.threadIds
  refine @Reader.bind _ _ _ _ _ fun filterType => @Reader.bind _ _ _ _ _ fun matching =>
    @Reader.bind _ _ _ _ _ fun allow => ?_
  cases filterType <;> infer_instance

instance SampleControl.configuration_reader (control : SampleControl) :
    Reader control.configuration := by
  unfold SampleControl.configuration SampleControl.pageTableEnabled
    SampleControl.pageFaultEnabled SampleControl.filterCount
  infer_instance

/-! ## Schemes -/

instance SchemeFilter.allowed_reader (filter : SchemeFilter) : Reader filter.allowed := by
  unfold SchemeFilter.allowed SchemeFilter.allowPath
  refine @Reader.bind _ _ _ _ _ fun found => ?_
  cases found <;> infer_instance

instance SchemeFilter.addressRange_reader (filter : SchemeFilter) :
    Reader filter.addressRange := by
  unfold SchemeFilter.addressRange
  infer_instance

instance SchemeFilter.targetIndex_reader (filter : SchemeFilter) : Reader filter.targetIndex := by
  unfold SchemeFilter.targetIndex
  infer_instance

instance MigrationDestination.configuration_reader (destination : MigrationDestination) :
    Reader destination.configuration := by
  unfold MigrationDestination.configuration MigrationDestination.nodeId MigrationDestination.weight
  infer_instance

instance QuotaGoal.nodeIdFor_reader (goal : QuotaGoal) (metric : QuotaGoalMetric) :
    Reader (goal.nodeIdFor metric) := by
  unfold QuotaGoal.nodeIdFor QuotaGoal.nodeId
  infer_instance

instance QuotaGoal.cgroupPathFor_reader (goal : QuotaGoal) (metric : QuotaGoalMetric) :
    Reader (goal.cgroupPathFor metric) := by
  unfold QuotaGoal.cgroupPathFor QuotaGoal.cgroupPath
  infer_instance

instance QuotaGoal.configuration_reader (goal : QuotaGoal) : Reader goal.configuration := by
  unfold QuotaGoal.configuration QuotaGoal.metric QuotaGoal.targetValue QuotaGoal.currentValue
  infer_instance

instance SchemeQuotas.configuration_reader (quotas : SchemeQuotas) :
    Reader quotas.configuration := by
  unfold SchemeQuotas.configuration SchemeQuotas.time SchemeQuotas.sizeUnits
    SchemeQuotas.resetInterval SchemeQuotas.weights SchemeQuotas.goalConfigurations
    SchemeQuotas.goalTuner SchemeQuotas.failureChargeNumerator
    SchemeQuotas.failureChargeDenominator
  infer_instance

instance SchemeWatermarks.configuration_reader (watermarks : SchemeWatermarks) :
    Reader watermarks.configuration := by
  unfold SchemeWatermarks.configuration SchemeWatermarks.metric SchemeWatermarks.interval
    SchemeWatermarks.high SchemeWatermarks.middle SchemeWatermarks.low
  infer_instance

/-- A check of values that were read reports no busy resource. -/
theorem range64_reader (field : String) (min max : UInt64) :
    Reader (Exec.ofExcept (Range64.new field min max)) := by
  refine Reader.ofExcept fun error failed => ?_
  unfold Range64.new at failed
  split at failed
  · cases failed
  · cases failed
    rfl

theorem range32_reader (field : String) (min max : UInt32) :
    Reader (Exec.ofExcept (Range32.new field min max)) := by
  refine Reader.ofExcept fun error failed => ?_
  unfold Range32.new at failed
  split at failed
  · cases failed
  · cases failed
    rfl

instance SchemeFilter.configuration_reader (filter : SchemeFilter) :
    Reader filter.configuration := by
  have byteSize : Reader (filter.range ByteSizeRange.new) :=
    @Reader.bind _ _ _ _ _ fun _ => @Reader.bind _ _ _ _ _ fun _ => range64_reader ..
  have weightedSum : Reader (filter.range ProbeHitsWeightedSumRange.new) :=
    @Reader.bind _ _ _ _ _ fun _ => @Reader.bind _ _ _ _ _ fun _ => range64_reader ..
  unfold SchemeFilter.configuration SchemeFilter.filterType SchemeFilter.matching
    SchemeFilter.cgroupPath
  refine @Reader.bind _ _ _ _ _ fun filterType => @Reader.bind _ _ _ _ _ fun matching =>
    @Reader.bind _ _ _ _ _ fun allow => ?_
  cases filterType <;> infer_instance

instance Scheme.accessPattern_reader (scheme : Scheme) : Reader scheme.accessPattern := by
  have size : ∀ path, Reader (Scheme.readRegionSizeRange path) := fun path =>
    @Reader.bind _ _ _ _ _ fun _ => @Reader.bind _ _ _ _ _ fun _ => range64_reader ..
  have accesses : ∀ path, Reader (Scheme.readAccessCountRange path) := fun path =>
    @Reader.bind _ _ _ _ _ fun _ => @Reader.bind _ _ _ _ _ fun _ => range32_reader ..
  have age : ∀ path, Reader (Scheme.readAgeRange path) := fun path =>
    @Reader.bind _ _ _ _ _ fun _ => @Reader.bind _ _ _ _ _ fun _ => range32_reader ..
  unfold Scheme.accessPattern
  infer_instance

instance Scheme.readFilterLayer_reader (scheme : Scheme) (layer : FilterLayer) :
    Reader (scheme.readFilterLayer layer) := by
  unfold Scheme.readFilterLayer
  infer_instance

instance Scheme.configuration_reader (scheme : Scheme) : Reader scheme.configuration := by
  unfold Scheme.configuration Scheme.action Scheme.applyInterval Scheme.targetNode
    Scheme.readDestinations Scheme.applicationSnapshotLimit
  infer_instance

/-! ## Contexts and kdamonds -/

instance Context.addressUnit_reader (context : Context) : Reader context.addressUnit := by
  unfold Context.addressUnit
  refine @Reader.bind _ _ _ _ _ fun bytes => ?_
  cases AddressUnit.new bytes with
  | ok unit => exact Reader.pure unit
  | error error => exact Reader.invalidValue ..

instance Context.intervals_reader (context : Context) : Reader context.intervals := by
  unfold Context.intervals
  refine @Reader.bind _ _ _ _ _ fun sample => @Reader.bind _ _ _ _ _ fun aggregation =>
    @Reader.bind _ _ _ _ _ fun update => Reader.ofExcept fun error failed => ?_
  rw [MonitoringIntervals.new_ofMicros, MonitoringIntervals.ofMicros] at failed
  split at failed
  · cases failed
  · cases failed
    rfl

instance Context.regionBounds_reader (context : Context) : Reader context.regionBounds := by
  unfold Context.regionBounds
  refine @Reader.bind _ _ _ _ _ fun min => @Reader.bind _ _ _ _ _ fun max =>
    Reader.ofExcept fun error failed => ?_
  unfold RegionBounds.new at failed
  split at failed
  · split at failed
    · cases failed
    · cases failed
      rfl
  · cases failed
    rfl

instance Context.intervalsGoal_reader (context : Context) : Reader context.intervalsGoal := by
  unfold Context.intervalsGoal
  infer_instance

instance readDirectoryOr_reader {α : Type} {path : Path} {read : Sysfs α} {missing : α}
    [Reader read] : Reader (Context.readDirectoryOr path read missing) := by
  unfold Context.readDirectoryOr
  infer_instance

instance Context.configuration_reader (context : Context) : Reader context.configuration := by
  unfold Context.configuration Context.targetCount Context.schemeCount Context.operation
    Context.isPaused
  -- Too many parts for one search.
  refine @Reader.bind _ _ _ _ _ fun targetCount => @Reader.bind _ _ _ _ _ fun targets =>
    @Reader.bind _ _ _ _ _ fun schemeCount => @Reader.bind _ _ _ _ _ fun schemes => ?_
  infer_instance

instance Kdamond.configuration_reader (kdamond : Kdamond) : Reader kdamond.configuration := by
  unfold Kdamond.configuration Kdamond.refreshInterval Kdamond.contextCount
  infer_instance

instance DamonAdmin.configuration_reader : Reader DamonAdmin.configuration := by
  unfold DamonAdmin.configuration DamonAdmin.kdamondCount
  infer_instance

end DamonRs
