import DamonRs.Library.Checks
import DamonRs.Sysfs.AccessErrors
import DamonRs.Sysfs.Fixture
import DamonRs.Sysfs.Staging

/-!
# Validation is complete before staging

The setters used by staging check counts, tokens, lines and durations once more.
None of these checks can fail for a validated configuration, whatever the
hierarchy contains, whatever was observed and whichever accesses fail.
-/

namespace DamonRs

open Library Sysfs

namespace Error

def isInvalidConfiguration : Error → Bool
  | invalidConfiguration _ _ => true
  | _ => false

end Error

namespace Sysfs

/-- No run of the program ends with a refused configuration. -/
def Unrefused {α : Type} (program : Sysfs α) : Prop :=
  Exec.FailsAs (fun error => error.isInvalidConfiguration = false) program

namespace Unrefused

variable {α β : Type}

theorem pure (value : α) : Unrefused (pure value : Sysfs α) := Exec.FailsAs.pure value

theorem fail {error : Error} (known : error.isInvalidConfiguration = false) :
    Unrefused (Exec.fail error : Sysfs α) := Exec.FailsAs.fail known

theorem bind {program : Sysfs α} {next : α → Sysfs β} (first : Unrefused program)
    (second : ∀ value, Unrefused (next value)) : Unrefused (program >>= next) :=
  Exec.FailsAs.bind first second

theorem seq {program : Sysfs Unit} {next : Sysfs β} (first : Unrefused program)
    (second : Unrefused next) : Unrefused (program >>= fun _ => next) :=
  first.bind fun _ => second

theorem ite {condition : Prop} [Decidable condition] {first second : Sysfs α}
    (holds : condition → Unrefused first) (fails : ¬condition → Unrefused second) :
    Unrefused (if condition then first else second) :=
  Exec.FailsAs.ite holds fails

/-- A check that passes is followed by the rest of the program. -/
theorem checked {outcome : Except Error α} {value : α} {next : α → Sysfs β}
    (passed : outcome = .ok value) (rest : Unrefused (next value)) :
    Unrefused (Exec.ofExcept outcome >>= next) := by
  subst passed
  exact rest

/-! ## Accesses -/

theorem ofAccess {program : Sysfs α} (fails : Exec.FailsAs Error.OfAccess program) :
    Unrefused program :=
  fails.imp fun error known => by cases known <;> rfl

theorem pathExists (path : Path) : Unrefused (pathExists path) := ofAccess (.pathExists path)

theorem readUsize (path : Path) : Unrefused (readUsize path) := ofAccess (.readUsize path)

theorem writeBytes (path : Path) (value : String) : Unrefused (writeBytes path value) := by
  refine bind (ofAccess (.perform _)) fun reply => ?_
  have recorded : Unrefused (recordWrite path) := Exec.FailsAs.total fun _ _ => ⟨_, rfl⟩
  cases reply with
  | failed fault => dsimp only; split <;> exact fail rfl
  | done => exact recorded
  | content content => exact recorded

theorem writeValue (path : Path) (value : Nat) : Unrefused (writeValue path value) :=
  writeBytes path _

theorem writeBool (path : Path) (value : Bool) : Unrefused (writeBool path value) :=
  writeBytes path _

theorem writeKernelUlongMax (path : Path) : Unrefused (writeKernelUlongMax path) := by
  refine Exec.FailsAs.attempt (writeValue path _) (fun _ => pure _) fun error known => ?_
  exact ite (fun _ => seq (writeValue path _) (pure _)) fun _ => fail known

end Unrefused

end Sysfs

/-! ## Staging helpers -/

section Helpers

variable {α : Type}

theorem stageWhen_unrefused {condition : Bool} {program : Sysfs Unit}
    (staged : Unrefused program) : Unrefused (stageWhen condition program) :=
  .ite (fun _ => staged) fun _ => .pure ()

theorem stagePayload_unrefused {payload : Option α} {write : α → Sysfs Unit}
    (written : ∀ value, payload = some value → Unrefused (write value)) :
    Unrefused (stagePayload payload write) := by
  cases payload with
  | none => exact .pure ()
  | some value => exact written value rfl

theorem stageOptionalDefault_unrefused [DecidableEq α] {path : Path} {requested neutral : α}
    {feature : String} {stage : Sysfs Unit} (staged : Unrefused stage) :
    Unrefused (stageOptionalDefault path requested neutral feature stage) :=
  (Unrefused.pathExists path).bind fun _ =>
    .ite (fun _ => staged) fun _ => .ite (fun _ => .pure ()) fun _ => .fail rfl

theorem stageChildren_unrefused {stage : Nat → α → Option α → Sysfs Unit} {requested : List α}
    (staged : ∀ index, ∀ item ∈ requested, ∀ observed, Unrefused (stage index item observed))
    (start : Nat) (observed : Option (List α)) :
    Unrefused (stageChildren stage start requested observed) := by
  induction requested generalizing start observed with
  | nil => exact .pure ()
  | cons item rest ih =>
      refine .seq (staged start item (List.mem_cons_self ..) _) ?_
      exact ih (fun index other member => staged index other (List.mem_cons_of_mem item member)) _ _

/-- A count is checked under a name of its own. -/
theorem validateCount_ok {field : String} {count : Nat} (passed : validateCount field count = .ok ())
    (other : String) : validateCount other count = .ok () := by
  unfold validateCount at passed ⊢
  rwa [requireField_eq_ok_iff] at passed ⊢

theorem stageCounted_unrefused {path : Path} {requested : List α} {observed : Option (List α)}
    {stage : Nat → α → Option α → Sysfs Unit} {field : String}
    (counted : validateCount field requested.length = .ok ())
    (staged : ∀ index, ∀ item ∈ requested, ∀ observed, Unrefused (stage index item observed)) :
    Unrefused (stageCounted path requested observed stage) := by
  refine .seq (.checked (validateCount_ok counted _) ?_) (stageChildren_unrefused staged 0 _)
  exact (Unrefused.readUsize path).bind fun _ => stageWhen_unrefused (.writeValue path _)

theorem stageOptionalCounted_unrefused {path : Path} {requested : List α}
    {observed : Option (List α)} {feature field : String} {stage : Nat → α → Option α → Sysfs Unit}
    (counted : validateCount field requested.length = .ok ())
    (staged : ∀ index, ∀ item ∈ requested, ∀ observed, Unrefused (stage index item observed)) :
    Unrefused (stageOptionalCounted path requested observed feature stage) :=
  (Unrefused.pathExists path).bind fun _ =>
    .ite (fun _ => stageCounted_unrefused counted staged) fun _ =>
      .ite (fun _ => .pure ()) fun _ => .fail rfl

theorem stageChanged_unrefused [DecidableEq α] {stage : Nat → α → Sysfs Unit}
    {requested : List α} (staged : ∀ index, ∀ item ∈ requested, Unrefused (stage index item))
    (index : Nat) (item : α) (member : item ∈ requested) (observed : Option α) :
    Unrefused (stageChanged stage index item observed) :=
  stageWhen_unrefused (staged index item member)

theorem writeSysfsString_unrefused {field other value : String} {path : Path}
    (oneLine : validateSysfsString other value = .ok ()) :
    Unrefused (writeSysfsString field path value) := by
  suffices passed : validateSysfsString field value = .ok () from
    .checked passed (.writeBytes path value)
  unfold validateSysfsString at oneLine ⊢
  rwa [requireField_eq_ok_iff] at oneLine ⊢

theorem validateToken_ok {field value : String} (passed : validateToken field value = .ok ())
    (other : String) : validateToken other value = .ok () := by
  obtain ⟨present, plain⟩ := Checks.seq_ok passed
  rw [requireField_eq_ok_iff] at present plain
  unfold validateToken requireField
  rw [if_pos present]
  exact if_pos plain

theorem writeToken_unrefused {field other value : String} {path : Path}
    (oneToken : validateToken other value = .ok ()) : Unrefused (writeToken field path value) :=
  .checked (validateToken_ok oneToken _) (.writeBytes path value)

theorem writeEnum_unrefused {other value : String} {path : Path}
    (oneToken : validateToken other value = .ok ()) : Unrefused (writeEnum path value) :=
  .checked (validateToken_ok oneToken _) (.writeBytes path value)

end Helpers

/-! ## Targets -/

theorem validateRegions_ok {previous : Option UInt64} {regions : List InitialRegionConfig}
    (valid : TargetConfig.validateRegions previous regions = .ok ()) :
    ∀ region ∈ regions, region.start < region.stop := by
  induction regions generalizing previous with
  | nil => simp
  | cons first rest ih =>
      obtain ⟨ordered, others⟩ := Checks.seq_ok valid
      obtain ⟨_, tail⟩ := Checks.seq_ok others
      rw [requireField_eq_ok_iff, decide_eq_true_eq] at ordered
      rintro region (_ | ⟨_, member⟩)
      · exact ordered
      · exact ih tail region member

theorem InitialRegion.stageConfiguration_unrefused {region : InitialRegion}
    {config : InitialRegionConfig} (ordered : config.start < config.stop) :
    Unrefused (region.stageConfiguration config) := by
  have made : InitialRegionConfig.new config.start config.stop = .ok config := by
    unfold InitialRegionConfig.new
    rw [if_neg (by rw [ge_iff_le, UInt64.not_le]; exact ordered)]
  exact .checked made (.seq (.writeValue _ _) (.writeValue _ _))

theorem Target.stageConfigurationFrom_unrefused {target : Target} {config : TargetConfig}
    (valid : config.validate = .ok ()) (observed : Option TargetConfig) :
    Unrefused (target.stageConfigurationFrom config observed) := by
  obtain ⟨counted, regions⟩ := Checks.seq_ok valid
  have ordered := validateRegions_ok regions
  refine stageWhen_unrefused (.seq (stageWhen_unrefused ?_) (.seq ?_ ?_))
  · cases config.pid with
    | none => exact .writeValue _ _
    | some pid => exact .writeValue _ _
  · exact stageWhen_unrefused (stageOptionalDefault_unrefused (.writeBool _ _))
  · refine stageOptionalCounted_unrefused counted fun index region member =>
      stageChanged_unrefused (fun index region member => ?_) index region member
    exact InitialRegion.stageConfiguration_unrefused (ordered region member)

/-! ## Probes and samples -/

theorem validateRequiredPath_ok {field : String} {path : Option String}
    (valid : validateRequiredPath field path = .ok ()) :
    ∀ value, path = some value → validateSysfsString field value = .ok () := by
  rintro value rfl
  exact (Checks.seq_ok valid).2

theorem ProbeFilter.stageConfiguration_unrefused {filter : ProbeFilter}
    {config : ProbeFilterConfig} (valid : config.validate = .ok ()) :
    Unrefused (filter.stageConfiguration config) := by
  obtain ⟨token, payload⟩ := Checks.seq_ok valid
  refine .seq (writeToken_unrefused token) (.seq (.writeBool _ _) (.seq (.writeBool _ _) ?_))
  refine stagePayload_unrefused fun path given => ?_
  have oneLine : validateSysfsString "probe filter cgroup path" path = .ok () := by
    rw [given] at payload
    split at payload
    · exact validateRequiredPath_ok payload path rfl
    · rename_i same
      injection same with same
      exact same ▸ payload
    · cases payload
    · rename_i absent _
      cases absent
  exact writeSysfsString_unrefused oneLine

theorem Probe.stageConfigurationFrom_unrefused {probe : Probe} {config : ProbeConfig}
    (valid : config.validate = .ok ()) (observed : Option ProbeConfig) :
    Unrefused (probe.stageConfigurationFrom config observed) := by
  obtain ⟨filterCount, others⟩ := Checks.seq_ok valid
  obtain ⟨preparationCount, others⟩ := Checks.seq_ok others
  obtain ⟨filters, preparations⟩ := Checks.seq_ok others
  refine stageWhen_unrefused (.seq ?_ (.seq ?_ ?_))
  · refine stageCounted_unrefused filterCount fun index filter member =>
      stageChanged_unrefused (fun index filter member => ?_) index filter member
    exact ProbeFilter.stageConfiguration_unrefused (Checks.forM_ok filters filter member)
  · exact stageWhen_unrefused (stageOptionalDefault_unrefused (.writeValue _ _))
  · refine stageOptionalCounted_unrefused preparationCount fun index preparation member =>
      stageChanged_unrefused (fun index preparation member => ?_) index preparation member
    have token := Checks.forM_ok preparations preparation member
    exact writeEnum_unrefused token

theorem OperationAttributes.stageConfiguration_unrefused {attributes : OperationAttributes}
    {config : OperationAttributesConfig} (valid : config.validate = .ok ()) :
    Unrefused (attributes.stageConfiguration config) := by
  obtain ⟨cpus, threads⟩ := Checks.seq_ok valid
  refine .seq (.writeBool _ _) (.seq (.writeBool _ _) (.seq ?_ ?_))
  · exact writeSysfsString_unrefused cpus
  · exact writeSysfsString_unrefused threads

theorem SampleFilter.stageConfiguration_unrefused {filter : SampleFilter}
    {config : SampleFilterConfig} (valid : config.validate = .ok ()) :
    Unrefused (filter.stageConfiguration config) := by
  obtain ⟨token, others⟩ := Checks.seq_ok valid
  have payload : (do
      config.cpuMask.forM (validateSysfsString "sample filter CPU mask")
      config.threadIds.forM (validateSysfsString "sample filter thread list")) = .ok () := by
    dsimp only at others
    split at others
    · exact (Checks.seq_ok (Checks.seq_ok others).2).2
    · exact (Checks.seq_ok (Checks.seq_ok others).2).2
    · exact (Checks.seq_ok others).2
    · exact others
  obtain ⟨mask, threads⟩ := Checks.seq_ok payload
  refine .seq (writeEnum_unrefused token) (.seq (.writeBool _ _) (.seq (.writeBool _ _) ?_))
  refine .seq (stagePayload_unrefused fun value given => ?_)
    (stagePayload_unrefused fun value given => ?_)
  · exact writeSysfsString_unrefused (Checks.optional_ok mask value given)
  · exact writeSysfsString_unrefused (Checks.optional_ok threads value given)

theorem SampleControl.stageConfiguration_unrefused {control : SampleControl}
    {config : SampleControlConfig} (valid : config.validate = .ok ()) :
    Unrefused (control.stageConfiguration config) := by
  obtain ⟨counted, filters⟩ := Checks.seq_ok valid
  refine .seq (.writeBool _ _) (.seq (.writeBool _ _) ?_)
  refine stageCounted_unrefused counted fun index filter member _ => ?_
  exact SampleFilter.stageConfiguration_unrefused (Checks.forM_ok filters filter member)

/-! ## Schemes -/

theorem SchemeFilter.setAllowed_unrefused {filter : SchemeFilter} (value : Bool) :
    Unrefused (filter.setAllowed value) := by
  refine .bind (Exec.FailsAs.findEach _ fun name _ => ?_) fun found => ?_
  · exact (Unrefused.pathExists _).bind fun _ => .ite (fun _ => .pure _) fun _ => .pure _
  · cases found with
    | some path => exact .writeBool path value
    | none => exact .ite (fun _ => .fail rfl) fun _ => .pure ()

/-- What a validated filter says about the values that are written for it. -/
structure FilterConfig.Writable (config : FilterConfig) : Prop where
  token : validateToken "scheme filter type" config.filterType.kernelName = .ok ()
  cgroupPath : ∀ path, config.cgroupPath = some path →
    validateSysfsString "scheme filter cgroup path" path = .ok ()
  targetIndex : ∀ index, config.targetIndex = some index →
    validateCount "target filter index" index = .ok ()

theorem FilterConfig.writable_of_validateInLayer {config : FilterConfig} {layer : FilterLayer}
    {targetCount : Nat} (valid : config.validateInLayer layer targetCount = .ok ()) :
    config.Writable := by
  obtain ⟨token, others⟩ := Checks.seq_ok valid
  extract_lets last required payloads at others
  -- each of the three decisions continues with the next, and the last with the two checks
  have continues : ∀ {check : Except Error Unit} {next : Unit → Except Error Unit},
      (check >>= next) = .ok () → next () = .ok () := fun passed => (Checks.seq_ok passed).2
  have payload : last () = .ok () := by
    have requiredPassed : payloads () = .ok () := by
      split at others
      · exact continues others
      · exact continues others
      · exact others
    unfold payloads at requiredPassed
    have lastPassed : required () = .ok () := by
      split at requiredPassed
      all_goals exact continues requiredPassed
    unfold required at lastPassed
    split at lastPassed
    · exact continues lastPassed
    · split at lastPassed
      · exact continues lastPassed
      · exact continues lastPassed
    · exact continues lastPassed
    · split at lastPassed
      · exact continues lastPassed
      · exact continues (continues lastPassed)
    · exact continues lastPassed
    · exact lastPassed
  obtain ⟨path, index⟩ := Checks.seq_ok payload
  exact ⟨token, Checks.optional_ok path, Checks.optional_ok index⟩

theorem SchemeFilter.stageConfiguration_unrefused {filter : SchemeFilter} {config : FilterConfig}
    (writable : config.Writable) : Unrefused (filter.stageConfiguration config) := by
  have range : ∀ bounds, Unrefused (filter.setRange bounds) := fun bounds =>
    .seq (.writeValue _ _) (.writeValue _ _)
  refine .seq (writeEnum_unrefused writable.token) (.seq (.writeBool _ _) ?_)
  refine .seq (setAllowed_unrefused _) (.seq (stagePayload_unrefused fun path given => ?_) ?_)
  · exact writeSysfsString_unrefused (writable.cgroupPath path given)
  refine .seq (stagePayload_unrefused fun _ _ => .seq (.writeValue _ _) (.writeValue _ _)) ?_
  refine .seq (stagePayload_unrefused fun _ _ => range _) ?_
  refine .seq (stagePayload_unrefused fun index given => ?_)
    (stagePayload_unrefused fun _ _ => range _)
  exact .checked (writable.targetIndex index given) (.writeValue _ _)

theorem QuotaGoalConfig.path_ok {config : QuotaGoalConfig} (valid : config.validate = .ok ()) :
    ∀ path, config.cgroupPath = some path →
      validateSysfsString "quota goal cgroup path" path = .ok () := by
  obtain ⟨_, others⟩ := Checks.seq_ok valid
  obtain ⟨_, others⟩ := Checks.seq_ok others
  obtain ⟨_, others⟩ := Checks.seq_ok others
  obtain ⟨_, others⟩ := Checks.seq_ok others
  split at others
  · exact validateRequiredPath_ok others
  · exact Checks.optional_ok others

theorem QuotaGoal.stageConfiguration_unrefused {goal : QuotaGoal} {config : QuotaGoalConfig}
    (valid : config.validate = .ok ()) : Unrefused (goal.stageConfiguration config) := by
  obtain ⟨token, _⟩ := Checks.seq_ok valid
  refine .seq (stageOptionalDefault_unrefused (writeEnum_unrefused token)) ?_
  refine .seq (.writeValue _ _) (.seq (.writeValue _ _) ?_)
  refine .seq (stagePayload_unrefused fun _ _ => .writeBytes _ _) ?_
  refine stagePayload_unrefused fun path given => ?_
  exact writeSysfsString_unrefused (QuotaGoalConfig.path_ok valid path given)

/-- What a validated quota says about the values that are written for it. -/
structure QuotaConfig.Writable (config : QuotaConfig) : Prop where
  time : ∃ millis, exactMillis "quota time" config.time = .ok millis
  resetInterval : ∃ millis, exactMillis "quota reset interval" config.resetInterval = .ok millis
  goalCount : validateCount "quota goal count" config.goals.length = .ok ()
  goals : config.goals.forM QuotaGoalConfig.validate = .ok ()
  goalTuner : validateToken "quota goal tuner" config.goalTuner.kernelName = .ok ()

theorem QuotaConfig.writable_of_validate {config : QuotaConfig}
    (valid : config.validate = .ok ()) : config.Writable := by
  obtain ⟨millis, time, others⟩ := Checks.bind_ok valid
  obtain ⟨reset, resetInterval, others⟩ := Checks.bind_ok others
  obtain ⟨_, others⟩ := Checks.seq_ok others
  obtain ⟨goalCount, others⟩ := Checks.seq_ok others
  obtain ⟨goals, others⟩ := Checks.seq_ok others
  obtain ⟨_, goalTuner⟩ := Checks.seq_ok others
  exact ⟨⟨millis, time⟩, ⟨reset, resetInterval⟩, goalCount, goals, goalTuner⟩

theorem SchemeQuotas.stageGoalsFrom_unrefused {quotas : SchemeQuotas}
    {goals : List QuotaGoalConfig} (counted : validateCount "quota goal count" goals.length = .ok ())
    (valid : goals.forM QuotaGoalConfig.validate = .ok ())
    (observed : Option (List QuotaGoalConfig)) :
    Unrefused (quotas.stageGoalsFrom goals observed) := by
  have checked : validateGoals goals = .ok () := by
    unfold validateGoals
    rw [counted]
    exact valid
  refine .checked checked (stageWhen_unrefused ?_)
  refine stageOptionalCounted_unrefused counted fun index goal member =>
    stageChanged_unrefused (fun index goal member => ?_) index goal member
  exact QuotaGoal.stageConfiguration_unrefused (Checks.forM_ok valid goal member)

theorem SchemeQuotas.stageConfigurationFrom_unrefused {quotas : SchemeQuotas}
    {config : QuotaConfig} (valid : config.validate = .ok ()) (observed : Option QuotaConfig) :
    Unrefused (quotas.stageConfigurationFrom config observed) := by
  obtain ⟨⟨_, time⟩, ⟨_, resetInterval⟩, goalCount, goals, goalTuner⟩ :=
    QuotaConfig.writable_of_validate valid
  refine stageWhen_unrefused ?_
  refine .seq (stageWhen_unrefused (.checked time (.writeValue _ _))) ?_
  refine .seq (stageWhen_unrefused (.writeValue _ _)) ?_
  refine .seq (stageWhen_unrefused (.checked resetInterval (.writeValue _ _))) ?_
  refine .seq (stageWhen_unrefused
    (.seq (.writeValue _ _) (.seq (.writeValue _ _) (.writeValue _ _)))) ?_
  refine .seq (stageWhen_unrefused (stageGoalsFrom_unrefused goalCount goals _)) ?_
  refine .seq (stageWhen_unrefused
    (stageOptionalDefault_unrefused (writeEnum_unrefused goalTuner))) ?_
  refine .seq (stageWhen_unrefused (stageOptionalDefault_unrefused (.writeValue _ _))) ?_
  exact stageWhen_unrefused (stageOptionalDefault_unrefused (.writeValue _ _))

theorem SchemeWatermarks.stageConfigurationFrom_unrefused {watermarks : SchemeWatermarks}
    {config : WatermarksConfig} (valid : config.validate = .ok ())
    (observed : Option WatermarksConfig) :
    Unrefused (watermarks.stageConfigurationFrom config observed) := by
  obtain ⟨metric, others⟩ := Checks.seq_ok valid
  obtain ⟨_, interval, _⟩ := Checks.bind_ok others
  refine stageWhen_unrefused ?_
  refine .seq (stageWhen_unrefused (writeEnum_unrefused metric)) ?_
  refine .seq (stageWhen_unrefused (.checked interval (.writeValue _ _))) ?_
  refine .seq (stageWhen_unrefused (.writeValue _ _)) ?_
  exact .seq (stageWhen_unrefused (.writeValue _ _)) (stageWhen_unrefused (.writeValue _ _))

/-- Microseconds are counted under a name of their own. -/
theorem durationMicros_ok {field : String} {duration : Duration} {micros : UInt64}
    (counted : durationMicros field duration = .ok micros) (other : String) :
    durationMicros other duration = .ok micros := by
  unfold durationMicros at counted ⊢
  split at counted
  · rename_i small
    split at counted
    · rename_i whole
      rwa [if_pos small, if_pos whole]
    · cases counted
  · cases counted

theorem Scheme.stageFilterLayer_unrefused {scheme : Scheme} {layer : FilterLayer}
    {filters : List FilterConfig}
    (counted : validateCount "scheme filter count" filters.length = .ok ())
    (writable : ∀ filter ∈ filters, filter.Writable) :
    Unrefused (scheme.stageFilterLayer layer filters) :=
  stageCounted_unrefused counted fun _ filter member _ =>
    SchemeFilter.stageConfiguration_unrefused (writable filter member)

theorem Scheme.stageSemanticFilters_unrefused {scheme : Scheme} {filters : List FilterConfig}
    (counted : validateCount "scheme filter count" filters.length = .ok ())
    (writable : ∀ filter ∈ filters, filter.Writable) :
    Unrefused (scheme.stageSemanticFilters filters) := by
  have layer : ∀ layer (chosen : FilterConfig → Bool) present,
      Unrefused (scheme.stageFilterLayerIfPresent layer (filters.filter chosen) present) := by
    intro layer chosen present
    refine .ite (fun _ => stageFilterLayer_unrefused ?_ fun filter member => ?_) fun _ =>
      .ite (fun _ => .pure ()) fun _ => .fail rfl
    · unfold validateCount at counted ⊢
      rw [requireField_eq_ok_iff, decide_eq_true_eq] at counted ⊢
      exact le_trans (List.length_filter_le chosen filters) counted
    · exact writable filter (List.mem_filter.mp member).1
  refine .bind (.pathExists _) fun _ => .bind (.pathExists _) fun _ =>
    .bind (.pathExists _) fun _ => ?_
  refine .ite (fun _ => .seq (layer _ _ _) (.seq (layer _ _ _) (layer _ _ _))) fun _ => ?_
  refine .ite (fun _ => .ite (fun _ => .fail rfl) fun _ => ?_) fun _ =>
    .ite (fun _ => .pure ()) fun _ => .fail rfl
  exact stageFilterLayer_unrefused counted writable

theorem Scheme.setAccessPatternAdaptive_unrefused {scheme : Scheme} (pattern : AccessPattern) :
    Unrefused (scheme.setAccessPatternAdaptive pattern) := by
  have range : ∀ path bounds, Unrefused (writeRange32 path bounds) := fun _ _ =>
    .seq (.writeValue _ _) (.writeValue _ _)
  refine .seq (.writeValue _ _) (.ite (fun _ => ?_) fun _ => ?_)
  · exact .bind (.writeKernelUlongMax _) fun _ => .seq (range _ _) (range _ _)
  · exact .seq (.writeValue _ _) (.seq (range _ _) (range _ _))

theorem Scheme.stageConfigurationFrom_unrefused {scheme : Scheme} {config : SchemeConfig}
    {targetCount : Nat} (valid : config.validateFor targetCount = .ok ())
    (observed : Option SchemeConfig) :
    Unrefused (scheme.stageConfigurationFrom config observed) := by
  obtain ⟨action, others⟩ := Checks.seq_ok valid
  obtain ⟨_, interval, others⟩ := Checks.bind_ok others
  obtain ⟨quota, others⟩ := Checks.seq_ok others
  obtain ⟨watermarks, others⟩ := Checks.seq_ok others
  obtain ⟨filterCount, others⟩ := Checks.seq_ok others
  obtain ⟨filters, others⟩ := Checks.seq_ok others
  obtain ⟨destinationCount, _⟩ := Checks.seq_ok others
  have writable : ∀ filter ∈ config.filters, filter.Writable := fun filter member =>
    FilterConfig.writable_of_validateInLayer (Checks.forM_ok filters filter member)
  refine stageWhen_unrefused ?_
  refine .seq (stageWhen_unrefused (writeToken_unrefused action)) ?_
  refine .seq (stageWhen_unrefused (setAccessPatternAdaptive_unrefused _)) ?_
  refine .seq (stageWhen_unrefused (stageOptionalDefault_unrefused
    (.checked (durationMicros_ok interval _) (.writeValue _ _)))) ?_
  refine .seq (stageWhen_unrefused (.bind (.pathExists _) fun _ =>
    .ite (fun _ => .writeBytes _ _) fun _ => .ite (fun _ => .fail rfl) fun _ => .pure ())) ?_
  refine .seq (SchemeQuotas.stageConfigurationFrom_unrefused quota _) ?_
  refine .seq (SchemeWatermarks.stageConfigurationFrom_unrefused watermarks _) ?_
  refine .seq (stageWhen_unrefused (stageSemanticFilters_unrefused filterCount writable)) ?_
  refine .seq (stageWhen_unrefused ?_)
    (stageWhen_unrefused (stageOptionalDefault_unrefused (.writeValue _ _)))
  refine stageOptionalCounted_unrefused destinationCount fun index destination member =>
    stageChanged_unrefused (fun _ _ _ => ?_) index destination member
  exact .seq (.writeValue _ _) (.writeValue _ _)

/-! ## Contexts and kdamonds -/

theorem Context.writeIntervalsGoal_unrefused {context : Context} {goal : IntervalsGoalConfig}
    {intervals : MonitoringIntervals} (valid : goal.validateFor intervals = .ok ()) :
    Unrefused (context.writeIntervalsGoal goal) := by
  obtain ⟨values, counted, _⟩ := Checks.bind_ok valid
  exact .checked counted (.seq (.writeValue _ _) (.seq (.writeValue _ _)
    (.seq (.writeValue _ _) (.writeValue _ _))))

theorem Context.stageConfigurationFrom_unrefused {context : Context} {config : ContextConfig}
    {pageSize : Nat} (valid : config.validate pageSize = .ok ())
    (observed : Option ContextConfig) :
    Unrefused (context.stageConfigurationFrom config observed) := by
  obtain ⟨operation, others⟩ := Checks.seq_ok valid
  obtain ⟨targetCount, others⟩ := Checks.seq_ok others
  obtain ⟨schemeCount, others⟩ := Checks.seq_ok others
  obtain ⟨goal, others⟩ := Checks.seq_ok others
  obtain ⟨attributes, others⟩ := Checks.seq_ok others
  obtain ⟨sample, others⟩ := Checks.seq_ok others
  obtain ⟨probeCount, others⟩ := Checks.seq_ok others
  obtain ⟨probes, others⟩ := Checks.seq_ok others
  obtain ⟨targets, others⟩ := Checks.seq_ok others
  have schemes : (config.schemes.forM fun scheme =>
      scheme.validateFor config.targets.length) = .ok () := by
    extract_lets aligned at others
    have alignedPassed : aligned () = .ok () := by
      split at others
      · exact (Checks.seq_ok others).2
      · exact (Checks.seq_ok others).2
      · exact (Checks.seq_ok (Checks.seq_ok others).2).2
      · exact others
    exact (Checks.seq_ok alignedPassed).2
  refine stageWhen_unrefused (.seq ?_ ?_)
  · refine .seq (stageWhen_unrefused (writeToken_unrefused operation)) ?_
    refine .seq (stageWhen_unrefused (stageOptionalDefault_unrefused (.writeValue _ _))) ?_
    refine .seq (stageWhen_unrefused (stageOptionalDefault_unrefused (.writeBool _ _))) ?_
    refine .seq (stageWhen_unrefused (stageOptionalDefault_unrefused
      (OperationAttributes.stageConfiguration_unrefused attributes))) ?_
    refine .seq (stageWhen_unrefused
      (.seq (.writeValue _ _) (.seq (.writeValue _ _) (.writeValue _ _)))) ?_
    refine .seq (stageWhen_unrefused (stageOptionalDefault_unrefused
      (writeIntervalsGoal_unrefused goal))) ?_
    exact stageWhen_unrefused (.seq (.writeValue _ _) (.writeValue _ _))
  · refine .seq (stageOptionalCounted_unrefused probeCount fun _ probe member _ =>
      Probe.stageConfigurationFrom_unrefused (Checks.forM_ok probes probe member) _) ?_
    refine .seq (stageWhen_unrefused (stageOptionalDefault_unrefused
      (SampleControl.stageConfiguration_unrefused sample))) ?_
    refine .seq (stageCounted_unrefused targetCount fun _ target member _ =>
      Target.stageConfigurationFrom_unrefused (Checks.forM_ok targets target member) _) ?_
    exact stageCounted_unrefused schemeCount fun _ scheme member _ =>
      Scheme.stageConfigurationFrom_unrefused (Checks.forM_ok schemes scheme member) _

theorem durationMillis_of_exactRefreshMillis {interval : Duration} {millis : UInt32}
    (valid : exactRefreshMillis interval = .ok millis) :
    ∃ counted, durationMillis interval = .ok counted := by
  obtain ⟨wide, exact, fits⟩ := Checks.bind_ok valid
  unfold exactMillis at exact
  split at exact
  · rename_i small
    split at exact
    · rename_i whole
      injection exact with same
      have represented : wide.toNat = interval.asMillis := by
        rw [← same, UInt64.toNat_ofNat_of_lt' small]
      split at fits
      · rename_i narrow
        unfold durationMillis
        rw [represented] at narrow
        exact ⟨_, by rw [if_pos narrow, if_pos whole]⟩
      · cases fits
    · cases exact
  · cases exact

theorem Kdamond.stageConfigurationFrom_unrefused {kdamond : Kdamond} {config : KdamondConfig}
    {pageSize : Nat} (valid : config.validate pageSize = .ok ())
    (observed : Option KdamondConfig) :
    Unrefused (kdamond.stageConfigurationFrom config observed) := by
  obtain ⟨contextCount, others⟩ := Checks.seq_ok valid
  obtain ⟨_, interval, contexts⟩ := Checks.bind_ok others
  obtain ⟨_, counted⟩ := durationMillis_of_exactRefreshMillis interval
  refine stageWhen_unrefused (.seq (stageWhen_unrefused
    (stageOptionalDefault_unrefused (.checked counted (.writeValue _ _)))) ?_)
  exact stageCounted_unrefused contextCount fun _ context member _ =>
    Context.stageConfigurationFrom_unrefused (Checks.forM_ok contexts context member) _

/-- Staging a validated configuration ends with no error about the configuration. -/
theorem DamonAdmin.stageConfigurationFrom_neverRefuses {config : DamonConfig} {pageSize : Nat}
    (valid : config.validate pageSize = .ok ()) (observed : Option DamonConfig) (env : Env)
    (world after : World) (field reason : String) :
    DamonAdmin.stageConfigurationFrom config observed env world ≠
      (.error (.invalidConfiguration field reason), after) := by
  obtain ⟨kdamondCount, kdamonds⟩ := Checks.seq_ok valid
  have unrefused : Unrefused (DamonAdmin.stageConfigurationFrom config observed) :=
    stageWhen_unrefused (stageCounted_unrefused kdamondCount fun _ kdamond member _ =>
      Kdamond.stageConfigurationFrom_unrefused (Checks.forM_ok kdamonds kdamond member) _)
  intro run
  cases unrefused env world _ after run

namespace ValidatedFixture

theorem zero_ordered : (0 : UInt32) ≤ 0 := by decide

/-- A physical-address context with one region and a scheme that is given a filter and a goal. -/
def context : ContextConfig :=
  { ContextConfig.new .physicalAddress with
    targets := [⟨none, false, [⟨4096, 8192⟩]⟩]
    schemes := [
      { SchemeConfig.new .pageOut ⟨⟨4096, 18446744073709551615, by decide⟩,
          ⟨0, 0, zero_ordered⟩, ⟨5, 4294967295, by decide⟩⟩ with
        quota := { QuotaConfig.default with
          resetInterval := .ofMillis 1000, goals := [⟨.userInput, 100, 7, none, none⟩] }
        filters := [FilterConfig.new .anonymous true false] }] }

def config : DamonConfig := ⟨[⟨.ofMillis 250, [context]⟩]⟩

theorem pid_valid : (0 : UInt32) < 1 ∧ (1 : UInt32) ≤ 2147483647 := by decide

/-- Every write is refused. -/
def refusing : Env :=
  { Env.calm .bare ⟨1, pid_valid⟩ with
    fault := fun _ access => match access with
      | .write _ _ => some ⟨.transfer, einval⟩
      | _ => none }

def empty : World :=
  .initial (.settled (.ofAttributes [(["kdamonds", "nr_kdamonds"], "0", true)]))

end ValidatedFixture

open ValidatedFixture in
/-- A configuration for which the first write already fails. -/
theorem DamonAdmin.stageConfigurationFrom_neverRefuses_refusing :
    DamonAdmin.stageConfigurationFrom config none refusing empty ≠
      (.error (.invalidConfiguration "kernel enum value" "must not be empty"), empty) :=
  DamonAdmin.stageConfigurationFrom_neverRefuses (by decide +kernel : config.validate 4096 = .ok ())
    none refusing empty empty _ _

end DamonRs
