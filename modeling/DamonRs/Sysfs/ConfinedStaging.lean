import DamonRs.Sysfs.ConfinedReading
import DamonRs.Sysfs.Staging

/-!
# Staging is confined

Staging a handle only writes configuration attributes below it.  No written
path is a runtime attribute, so no staging program sends a command.
-/

namespace DamonRs

open Library Sysfs

namespace Path

/-- Names that make a path a runtime attribute, or might do so for the names below. -/
def reservedNames : List String :=
  ["state", "pid", "avail_operations", "tried_regions", "effective_bytes", "stats"]

def isPlainName (name : String) : Bool := !reservedNames.contains name

/-- A plain name that is no count. -/
def isLeafName (name : String) : Bool := isPlainName name && !isCountName name

theorem isLeafName_plain {name : String} (leaf : isLeafName name = true) :
    isPlainName name = true := (Bool.and_eq_true_iff.mp leaf).1

theorem isLeafName_noCount {name : String} (leaf : isLeafName name = true) :
    isCountName name = false := by simpa using (Bool.and_eq_true_iff.mp leaf).2

theorem isReconstructionCount_append {directory suffix : Path} (nonempty : suffix ≠ []) :
    isReconstructionCount (directory ++ suffix) = isReconstructionCount suffix := by
  unfold isReconstructionCount
  rw [List.getLast?_append_of_ne_nil _ nonempty]

@[simp] theorem isPlainName_indexName (index : Nat) : isPlainName (indexName index) = true := by
  have distinct : ∀ name : String, (∃ c ∈ name.toList, c.isDigit = false) →
      name ≠ indexName index := by
    rintro name ⟨c, member, letter⟩ rfl
    rw [indexName_digits index c member] at letter
    cases letter
  have missing : indexName index ∉ reservedNames := by
    intro member
    simp only [reservedNames, List.mem_cons, List.not_mem_nil, or_false] at member
    rcases member with same | same | same | same | same | same
    · exact distinct _ ⟨'t', by decide, by decide⟩ same.symm
    · exact distinct _ ⟨'p', by decide, by decide⟩ same.symm
    · exact distinct _ ⟨'a', by decide, by decide⟩ same.symm
    · exact distinct _ ⟨'t', by decide, by decide⟩ same.symm
    · exact distinct _ ⟨'b', by decide, by decide⟩ same.symm
    · exact distinct _ ⟨'s', by decide, by decide⟩ same.symm
  simpa [isPlainName] using missing

theorem indexName_ne {name : String} (reserved : isPlainName name = false) (index : Nat) :
    name ≠ indexName index := by
  rintro rfl
  rw [isPlainName_indexName] at reserved
  cases reserved

theorem all_plain_indexed {name : String} (plain : isPlainName name = true) (index : Nat) :
    [name, indexName index].all isPlainName = true := by
  simp [plain]

theorem isPlainName_iff (name : String) : isPlainName name = true ↔ name ∉ reservedNames := by
  simp [isPlainName]

/-- Plain names below a directory of configuration name configuration. -/
theorem isRuntimeAttribute_append {directory suffix : Path} (nonempty : suffix ≠ [])
    (regions : "tried_regions" ∉ directory) (stats : directory.getLast? ≠ some "stats")
    (plain : suffix.all isPlainName = true) :
    isRuntimeAttribute (directory ++ suffix) = false := by
  have plainNames : ∀ name ∈ suffix, name ∉ reservedNames := fun name member =>
    (isPlainName_iff name).mp (List.all_eq_true.mp plain name member)
  obtain ⟨inner, last, rfl⟩ : ∃ inner last, suffix = inner ++ [last] :=
    ⟨suffix.dropLast, suffix.getLast nonempty, (List.dropLast_append_getLast nonempty).symm⟩
  have lastPlain := plainNames last (by simp)
  have noRegions : "tried_regions" ∉ directory ++ (inner ++ [last]) := by
    intro member
    rcases List.mem_append.mp member with inDirectory | inSuffix
    · exact regions inDirectory
    · exact plainNames _ inSuffix (by decide)
  have noStats : (directory ++ inner).getLast? ≠ some "stats" := by
    intro isStats
    by_cases empty : inner = []
    · exact stats (by simpa [empty] using isStats)
    · rw [List.getLast?_append_of_ne_nil _ empty] at isStats
      have member := List.mem_of_getLast? isStats
      exact plainNames "stats" (List.mem_append_left _ member) (by decide)
  simp only [reservedNames, List.mem_cons, List.not_mem_nil, or_false, not_or] at lastPlain
  have suffixed : ∀ names : List String, names.isSuffixOf (directory ++ (inner ++ [last])) = true →
      names.getLast? = none ∨ names.getLast? = some last := by
    intro names isSuffix
    obtain ⟨front, same⟩ := List.isSuffixOf_iff_suffix.mp isSuffix
    by_cases empty : names = []
    · exact .inl (by simp [empty])
    · have lasts := congrArg List.getLast? same
      rw [List.getLast?_append_of_ne_nil _ empty] at lasts
      exact .inr (by simpa [← List.append_assoc] using lasts)
  have noEffective : (["quotas", "effective_bytes"].isSuffixOf
      (directory ++ (inner ++ [last]))) = false := by
    cases isSuffix : ["quotas", "effective_bytes"].isSuffixOf (directory ++ (inner ++ [last])) with
    | false => rfl
    | true =>
        have := suffixed _ isSuffix
        simp only [List.getLast?_cons_cons, List.getLast?_singleton, reduceCtorEq, false_or,
          Option.some.injEq] at this
        exact absurd this.symm lastPlain.2.2.2.2.1
  have noStatsParent : (["stats"].isSuffixOf (directory ++ (inner ++ [last])).dropLast) = false := by
    cases isSuffix : ["stats"].isSuffixOf (directory ++ (inner ++ [last])).dropLast with
    | false => rfl
    | true =>
        obtain ⟨front, same⟩ := List.isSuffixOf_iff_suffix.mp isSuffix
        rw [← List.append_assoc, List.dropLast_concat] at same
        exact absurd (by rw [← same]; simp) noStats
  have lastName : (directory ++ (inner ++ [last])).getLast? = some last := by
    simp [← List.append_assoc]
  unfold isRuntimeAttribute
  rw [lastName, noEffective, noStatsParent]
  simp [lastPlain, noRegions]

end Path

/-- The attributes of a directory may be read, and its configuration written. -/
structure StagesBelow (allowed : Access → Prop) (directory : Path) : Prop where
  reads : ReadsBelow allowed directory
  writes : ∀ suffix value, suffix ≠ [] → suffix.all Path.isPlainName = true →
    Path.isReconstructionCount suffix = false → allowed (.write (directory ++ suffix) value)
  /-- A count lies in a directory that is not named like one. -/
  counts : ∀ suffix name count value, suffix.all Path.isPlainName = true →
    Path.isLeafName name = true → Path.isPlainName count = true →
    allowed (.write (directory ++ suffix ++ [name, count]) value)
  /-- The one attribute of a statistics directory that holds configuration. -/
  limits : ∀ suffix value, suffix.all Path.isPlainName = true →
    allowed (.write (directory ++ suffix ++ ["stats", "max_nr_snapshots"]) value)

namespace StagesBelow

variable {allowed : Access → Prop} {directory : Path}

/-- A leaf below the directory. -/
theorem write (below : StagesBelow allowed directory) (inner : Path) (name : String)
    (plain : inner.all Path.isPlainName = true) (leaf : Path.isLeafName name = true)
    (value : String) : allowed (.write (directory ++ (inner ++ [name])) value) := by
  refine below.writes _ value (by simp) ?_ ?_
  · rw [List.all_append, plain]
    simpa using Path.isLeafName_plain leaf
  · rw [Path.isReconstructionCount_append (by simp)]
    exact Path.isLeafName_noCount leaf

theorem leaf (below : StagesBelow allowed directory) (name : String)
    (leaf : Path.isLeafName name = true) (value : String) :
    allowed (.write (directory ++ [name]) value) :=
  below.write [] name rfl leaf value

theorem count (below : StagesBelow allowed directory) (name count : String)
    (leaf : Path.isLeafName name = true) (plain : Path.isPlainName count = true)
    (value : String) : allowed (.write (directory ++ [name, count]) value) := by
  have write := below.counts [] name count value rfl leaf plain
  rwa [List.append_nil] at write

theorem child (below : StagesBelow allowed directory) (inner : Path)
    (plain : inner.all Path.isPlainName = true) : StagesBelow allowed (directory ++ inner) where
  reads := below.reads.child inner
  writes := by
    intro suffix value nonempty plainSuffix noCount
    rw [List.append_assoc]
    exact below.writes _ value (by simp [nonempty])
      (by rw [List.all_append, plain, plainSuffix]; rfl)
      ((Path.isReconstructionCount_append nonempty).trans noCount)
  counts := by
    intro suffix name count value plainSuffix leaf plainCount
    rw [List.append_assoc directory]
    exact below.counts _ name count value (by rw [List.all_append, plain, plainSuffix]; rfl) leaf
      plainCount
  limits := by
    intro suffix value plainSuffix
    rw [List.append_assoc directory]
    exact below.limits _ value (by rw [List.all_append, plain, plainSuffix]; rfl)

/-- The child with an index below a named directory. -/
theorem indexed (below : StagesBelow allowed directory) (name : String)
    (plain : Path.isPlainName name = true) (index : Nat) :
    StagesBelow allowed (directory ++ [name, Path.indexName index]) :=
  below.child _ (by simp [plain])

end StagesBelow

section Helpers

variable {allowed : Access → Prop} {α : Type}

theorem stageWhen_confined {condition : Bool} {program : Sysfs Unit}
    (confined : condition = true → Confined allowed program) :
    Confined allowed (stageWhen condition program) :=
  .ite confined fun _ => .pure ()

theorem ensureCount_confined {path : Path} {count : Nat} (reads : allowed (.read path))
    (writes : ∀ number : Nat, allowed (.write path (toString number))) :
    Confined allowed (ensureCount path count) :=
  .seq (.ofExcept _) <| .bind (readUsize_confined reads) fun _ =>
    stageWhen_confined fun _ => writeValue_confined (writes _)

theorem stageOptionalDefault_confined [DecidableEq α] {path : Path} {requested neutral : α}
    {feature : String} {stage : Sysfs Unit} (confined : Confined allowed stage) :
    Confined allowed (stageOptionalDefault path requested neutral feature stage) :=
  .bind (pathExists_confined path) fun _ =>
    .ite (fun _ => confined) fun _ => .ite (fun _ => .pure ()) fun _ => .fail _

/-- Children are staged next to the observed child with their index. -/
theorem stageChildren_confined_at {stage : Nat → α → Option α → Sysfs Unit} (index : Nat)
    (requested : List α) (observed : Option (List α))
    (each : ∀ i value, requested[i]? = some value →
      Confined allowed (stage (index + i) value (observed.bind fun values => values[i]?))) :
    Confined allowed (stageChildren stage index requested observed) := by
  induction requested generalizing index observed with
  | nil => exact .pure ()
  | cons first rest ih =>
      refine .seq ?_ (ih _ _ fun i value hit => ?_)
      · have here := each 0 first rfl
        cases observed with
        | none => exact here
        | some values => simpa [List.head?_eq_getElem?] using here
      · have there := each (i + 1) value hit
        rw [show index + (i + 1) = index + 1 + i by omega] at there
        cases observed with
        | none => exact there
        | some values => simpa [List.getElem?_tail] using there

theorem stageCounted_confined_at {countPath : Path} {requested : List α}
    {observed : Option (List α)} {stage : Nat → α → Option α → Sysfs Unit}
    (reads : allowed (.read countPath))
    (writes : ∀ number : Nat, allowed (.write countPath (toString number)))
    (each : ∀ i value, requested[i]? = some value → Confined allowed
      (stage i value ((comparable observed requested).bind fun values => values[i]?))) :
    Confined allowed (stageCounted countPath requested observed stage) := by
  refine .seq (ensureCount_confined reads writes) (stageChildren_confined_at 0 _ _ ?_)
  intro i value hit
  rw [Nat.zero_add]
  exact each i value hit

theorem stageCounted_confined {countPath : Path} {requested : List α}
    {observed : Option (List α)} {stage : Nat → α → Option α → Sysfs Unit}
    (reads : allowed (.read countPath)) (writes : ∀ value, allowed (.write countPath value))
    (each : ∀ index requested observed, Confined allowed (stage index requested observed)) :
    Confined allowed (stageCounted countPath requested observed stage) :=
  stageCounted_confined_at reads (fun _ => writes _) fun index value _ => each index value _

theorem stageOptionalCounted_confined {countPath : Path} {requested : List α}
    {observed : Option (List α)} {feature : String} {stage : Nat → α → Option α → Sysfs Unit}
    (reads : allowed (.read countPath)) (writes : ∀ value, allowed (.write countPath value))
    (each : ∀ index requested observed, Confined allowed (stage index requested observed)) :
    Confined allowed (stageOptionalCounted countPath requested observed feature stage) :=
  .bind (pathExists_confined _) fun _ =>
    .ite (fun _ => stageCounted_confined reads writes each) fun _ =>
      .ite (fun _ => .pure ()) fun _ => .fail _

theorem stageChanged_confined [DecidableEq α] {stage : Nat → α → Sysfs Unit}
    (each : ∀ index requested, Confined allowed (stage index requested)) (index : Nat)
    (requested : α) (observed : Option α) :
    Confined allowed (stageChanged stage index requested observed) :=
  stageWhen_confined fun _ => each index requested

theorem writeSysfsString_confined {field : String} {path : Path} {value : String}
    (permitted : allowed (.write path value)) :
    Confined allowed (writeSysfsString field path value) :=
  .seq (.ofExcept _) (.write path value permitted)

theorem writeToken_confined {field : String} {path : Path} {kernelName : String}
    (permitted : allowed (.write path kernelName)) :
    Confined allowed (writeToken field path kernelName) :=
  .seq (.ofExcept _) (.write path kernelName permitted)

theorem stagePayload_confined {payload : Option α} {write : α → Sysfs Unit}
    (confined : ∀ value, Confined allowed (write value)) :
    Confined allowed (stagePayload payload write) := by
  cases payload with
  | none => exact .pure ()
  | some value => exact confined value

end Helpers

section Attributes

variable {allowed : Access → Prop} {directory : Path}

/-- Write a number to an attribute directly below a directory. -/
theorem StagesBelow.number (below : StagesBelow allowed directory) (name : String) (value : Nat)
    (leaf : Path.isLeafName name = true) :
    Confined allowed (writeValue (directory ++ [name]) value) :=
  writeValue_confined (below.leaf name leaf _)

/-- Write a truth value to an attribute directly below a directory. -/
theorem StagesBelow.flag (below : StagesBelow allowed directory) (name : String) (value : Bool)
    (leaf : Path.isLeafName name = true) :
    Confined allowed (writeBool (directory ++ [name]) value) :=
  writeBool_confined value fun _ => below.leaf name leaf _

theorem StagesBelow.enum (below : StagesBelow allowed directory) (name kernelName : String)
    (leaf : Path.isLeafName name = true) :
    Confined allowed (writeEnum (directory ++ [name]) kernelName) :=
  writeEnum_confined (below.leaf name leaf _)

theorem StagesBelow.line (below : StagesBelow allowed directory) (field name value : String)
    (leaf : Path.isLeafName name = true) :
    Confined allowed (writeSysfsString field (directory ++ [name]) value) :=
  writeSysfsString_confined (below.leaf name leaf _)

theorem StagesBelow.token (below : StagesBelow allowed directory) (field name value : String)
    (leaf : Path.isLeafName name = true) :
    Confined allowed (writeToken field (directory ++ [name]) value) :=
  writeToken_confined (below.leaf name leaf _)

/-- Stage counted children of a named directory. -/
theorem StagesBelow.counted {α : Type} (below : StagesBelow allowed directory)
    (name count : String) (leaf : Path.isLeafName name = true)
    (plain : Path.isPlainName count = true)
    {requested : List α} {observed : Option (List α)} {stage : Nat → α → Option α → Sysfs Unit}
    (each : ∀ index requested observed, Confined allowed (stage index requested observed)) :
    Confined allowed (stageCounted (directory ++ [name, count]) requested observed stage) :=
  stageCounted_confined (below.reads name _) (below.count name count leaf plain) each

theorem StagesBelow.optionalCounted {α : Type} (below : StagesBelow allowed directory)
    (name count : String) (leaf : Path.isLeafName name = true)
    (plain : Path.isPlainName count = true)
    {requested : List α} {observed : Option (List α)} {feature : String}
    {stage : Nat → α → Option α → Sysfs Unit}
    (each : ∀ index requested observed, Confined allowed (stage index requested observed)) :
    Confined allowed
      (stageOptionalCounted (directory ++ [name, count]) requested observed feature stage) :=
  stageOptionalCounted_confined (below.reads name _) (below.count name count leaf plain) each

end Attributes

section Configurations

variable {allowed : Access → Prop}

theorem InitialRegion.stageConfiguration_confined {region : InitialRegion}
    (below : StagesBelow allowed region.path) (config : InitialRegionConfig) :
    Confined allowed (region.stageConfiguration config) :=
  .bind (.ofExcept _) fun _ => .seq (below.number "start" _ rfl) (below.number "end" _ rfl)

theorem Target.stageConfigurationFrom_confined {target : Target}
    (below : StagesBelow allowed target.path) (config : TargetConfig)
    (observed : Option TargetConfig) :
    Confined allowed (target.stageConfigurationFrom config observed) := by
  refine stageWhen_confined fun _ => .seq (stageWhen_confined fun _ => ?_) ?_
  · cases config.pid with
    | some pid => exact below.number "pid_target" _ rfl
    | none => exact below.number "pid_target" _ rfl
  refine .seq (stageWhen_confined fun _ =>
    stageOptionalDefault_confined (below.flag "obsolete_target" _ rfl)) ?_
  refine below.optionalCounted "regions" "nr_regions" rfl rfl (stageChanged_confined fun index region => ?_)
  exact InitialRegion.stageConfiguration_confined (below.indexed "regions" rfl index) region

theorem ProbeFilter.stageConfiguration_confined {filter : ProbeFilter}
    (below : StagesBelow allowed filter.path) (config : ProbeFilterConfig) :
    Confined allowed (filter.stageConfiguration config) :=
  .seq (below.token _ "type" _ rfl) <| .seq (below.flag "matching" _ rfl) <|
    .seq (below.flag "allow" _ rfl) <| stagePayload_confined fun _ => below.line _ "path" _ rfl

theorem ProbePreparation.stageConfiguration_confined {preparation : ProbePreparation}
    (below : StagesBelow allowed preparation.path) (config : ProbePreparationConfig) :
    Confined allowed (preparation.stageConfiguration config) :=
  below.enum "prep_action" _ rfl

theorem Probe.stageConfigurationFrom_confined {probe : Probe}
    (below : StagesBelow allowed probe.path) (config : ProbeConfig)
    (observed : Option ProbeConfig) :
    Confined allowed (probe.stageConfigurationFrom config observed) := by
  refine stageWhen_confined fun _ => .seq ?_ (.seq ?_ ?_)
  · exact below.counted "filters" "nr_filters" rfl rfl (stageChanged_confined fun index filter =>
      ProbeFilter.stageConfiguration_confined (below.indexed "filters" rfl index) filter)
  · exact stageWhen_confined fun _ => stageOptionalDefault_confined (below.number "weight" _ rfl)
  · exact below.optionalCounted "preps" "nr_preps" rfl rfl (stageChanged_confined fun index prep =>
      ProbePreparation.stageConfiguration_confined (below.indexed "preps" rfl index) prep)

theorem OperationAttributes.stageConfiguration_confined {attributes : OperationAttributes}
    (below : StagesBelow allowed attributes.path) (config : OperationAttributesConfig) :
    Confined allowed (attributes.stageConfiguration config) :=
  .seq (below.flag "use_reports" _ rfl) <| .seq (below.flag "write_only" _ rfl) <|
    .seq (below.line _ "cpus" _ rfl) <| below.line _ "tids" _ rfl

theorem SampleFilter.stageConfiguration_confined {filter : SampleFilter}
    (below : StagesBelow allowed filter.path) (config : SampleFilterConfig) :
    Confined allowed (filter.stageConfiguration config) :=
  .seq (below.enum "type" _ rfl) <| .seq (below.flag "matching" _ rfl) <|
    .seq (below.flag "allow" _ rfl) <|
    .seq (stagePayload_confined fun _ => below.line _ "cpumask" _ rfl) <|
    stagePayload_confined fun _ => below.line _ "tid_arr" _ rfl

theorem SampleControl.stageConfiguration_confined {control : SampleControl}
    (below : StagesBelow allowed control.path) (config : SampleControlConfig) :
    Confined allowed (control.stageConfiguration config) := by
  have primitive : ∀ name value, Path.isLeafName name = true →
      Confined allowed (writeBool (control.path ++ ["primitives", name]) value) :=
    fun name value leaf => writeBool_confined value fun _ =>
      below.write ["primitives"] name rfl leaf _
  refine .seq (primitive _ _ rfl) (.seq (primitive _ _ rfl) ?_)
  exact below.counted "filters" "nr_filters" rfl rfl fun index filter _ =>
    SampleFilter.stageConfiguration_confined (below.indexed "filters" rfl index) filter

theorem SchemeFilter.setAllowed_confined {filter : SchemeFilter}
    (below : StagesBelow allowed filter.path) (value : Bool) :
    Confined allowed (filter.setAllowed value) := by
  refine SchemeFilter.allowPath_bind (fun name member => ?_) ?_
  · have leaf : Path.isLeafName name = true := by
      simp only [List.mem_cons, List.not_mem_nil, or_false] at member
      rcases member with rfl | rfl <;> rfl
    exact below.flag name value leaf
  · exact .ite (fun _ => .fail _) fun _ => .pure ()

theorem SchemeFilter.stageConfiguration_confined {filter : SchemeFilter}
    (below : StagesBelow allowed filter.path) (config : FilterConfig) :
    Confined allowed (filter.stageConfiguration config) := by
  have range : ∀ bounds, Confined allowed (filter.setRange bounds) := fun bounds =>
    .seq (below.number "min" _ rfl) (below.number "max" _ rfl)
  refine .seq (below.enum "type" _ rfl) (.seq (below.flag "matching" _ rfl) ?_)
  refine .seq (setAllowed_confined below _) ?_
  refine .seq (stagePayload_confined fun _ => below.line _ "memcg_path" _ rfl) ?_
  refine .seq (stagePayload_confined fun _ =>
    .seq (below.number "addr_start" _ rfl) (below.number "addr_end" _ rfl)) ?_
  refine .seq (stagePayload_confined range) ?_
  refine .seq (stagePayload_confined fun _ =>
    .seq (.ofExcept _) (below.number "damon_target_idx" _ rfl)) ?_
  exact stagePayload_confined range

theorem MigrationDestination.stageConfiguration_confined {destination : MigrationDestination}
    (below : StagesBelow allowed destination.path) (config : DestinationConfig) :
    Confined allowed (destination.stageConfiguration config) :=
  .seq (below.number "id" _ rfl) (below.number "weight" _ rfl)

theorem QuotaGoal.stageConfiguration_confined {goal : QuotaGoal}
    (below : StagesBelow allowed goal.path) (config : QuotaGoalConfig) :
    Confined allowed (goal.stageConfiguration config) :=
  .seq (stageOptionalDefault_confined (below.enum "target_metric" _ rfl)) <|
    .seq (below.number "target_value" _ rfl) <| .seq (below.number "current_value" _ rfl) <|
    .seq (stagePayload_confined fun _ => .write _ _ (below.leaf "nid" rfl _)) <|
    stagePayload_confined fun _ => below.line _ "path" _ rfl

theorem SchemeQuotas.stageGoalsFrom_confined {quotas : SchemeQuotas}
    (below : StagesBelow allowed quotas.path) (goals : List QuotaGoalConfig)
    (observed : Option (List QuotaGoalConfig)) :
    Confined allowed (quotas.stageGoalsFrom goals observed) := by
  refine .seq (.ofExcept _) (stageWhen_confined fun _ => ?_)
  refine below.optionalCounted "goals" "nr_goals" rfl rfl (stageChanged_confined fun index goal => ?_)
  exact QuotaGoal.stageConfiguration_confined (below.indexed "goals" rfl index) goal

theorem SchemeQuotas.setWeights_confined {quotas : SchemeQuotas}
    (below : StagesBelow allowed quotas.path) (weights : QuotaWeights) :
    Confined allowed (quotas.setWeights weights) := by
  have weight : ∀ name value, Path.isLeafName name = true →
      Confined allowed (writeValue (quotas.path ++ ["weights", name]) value) :=
    fun name value leaf => writeValue_confined (below.write ["weights"] name rfl leaf _)
  exact .seq (weight _ _ rfl) (.seq (weight _ _ rfl) (weight _ _ rfl))

theorem SchemeQuotas.stageConfigurationFrom_confined {quotas : SchemeQuotas}
    (below : StagesBelow allowed quotas.path) (config : QuotaConfig)
    (observed : Option QuotaConfig) :
    Confined allowed (quotas.stageConfigurationFrom config observed) := by
  refine stageWhen_confined fun _ => ?_
  refine .seq (stageWhen_confined fun _ => .bind (.ofExcept _) fun _ => below.number "ms" _ rfl) ?_
  refine .seq (stageWhen_confined fun _ => below.number "bytes" _ rfl) ?_
  refine .seq (stageWhen_confined fun _ =>
    .bind (.ofExcept _) fun _ => below.number "reset_interval_ms" _ rfl) ?_
  refine .seq (stageWhen_confined fun _ => setWeights_confined below _) ?_
  refine .seq (stageWhen_confined fun _ => stageGoalsFrom_confined below _ _) ?_
  refine .seq (stageWhen_confined fun _ =>
    stageOptionalDefault_confined (below.enum "goal_tuner" _ rfl)) ?_
  refine .seq (stageWhen_confined fun _ =>
    stageOptionalDefault_confined (below.number "fail_charge_num" _ rfl)) ?_
  exact stageWhen_confined fun _ =>
    stageOptionalDefault_confined (below.number "fail_charge_denom" _ rfl)

theorem SchemeWatermarks.stageConfigurationFrom_confined {watermarks : SchemeWatermarks}
    (below : StagesBelow allowed watermarks.path) (config : WatermarksConfig)
    (observed : Option WatermarksConfig) :
    Confined allowed (watermarks.stageConfigurationFrom config observed) := by
  refine stageWhen_confined fun _ => ?_
  refine .seq (stageWhen_confined fun _ => below.enum "metric" _ rfl) ?_
  refine .seq (stageWhen_confined fun _ =>
    .bind (.ofExcept _) fun _ => below.number "interval_us" _ rfl) ?_
  refine .seq (stageWhen_confined fun _ => below.number "high" _ rfl) ?_
  refine .seq (stageWhen_confined fun _ => below.number "mid" _ rfl) ?_
  exact stageWhen_confined fun _ => below.number "low" _ rfl

theorem Scheme.writeRange32_confined {path : Path} (below : StagesBelow allowed path)
    (range : Range32) : Confined allowed (Scheme.writeRange32 path range) :=
  .seq (below.number "min" _ rfl) (below.number "max" _ rfl)

theorem Scheme.setAccessPatternAdaptive_confined {scheme : Scheme}
    (below : StagesBelow allowed scheme.path) (pattern : AccessPattern) :
    Confined allowed (scheme.setAccessPatternAdaptive pattern) := by
  have inner : ∀ name, Path.isPlainName name = true →
      StagesBelow allowed (scheme.path ++ ["access_pattern"] ++ [name]) := fun name plain =>
    (below.child ["access_pattern"] rfl).child [name] (by rw [List.all_cons, plain]; rfl)
  have ranges : Confined allowed (do
      Scheme.writeRange32 (scheme.path ++ ["access_pattern"] ++ ["nr_accesses"]) pattern.accesses
      Scheme.writeRange32 (scheme.path ++ ["access_pattern"] ++ ["age"]) pattern.age) :=
    .seq (writeRange32_confined (inner _ rfl) _) (writeRange32_confined (inner _ rfl) _)
  have size := inner "sz" rfl
  refine .seq (size.number "min" _ rfl) (.ite (fun _ => ?_) fun _ => ?_)
  · refine .bind (.widest _ (size.leaf "max" rfl _) (size.leaf "max" rfl _)) fun _ => ?_
    exact ranges
  · exact .seq (size.number "max" _ rfl) ranges

theorem Scheme.stageTargetNode_confined {scheme : Scheme}
    (below : StagesBelow allowed scheme.path) (node : Option Int32) :
    Confined allowed (scheme.stageTargetNode node) :=
  .bind (pathExists_confined _) fun _ =>
    .ite (fun _ => .write _ _ (below.leaf "target_nid" rfl _)) fun _ =>
      .ite (fun _ => .fail _) fun _ => .pure ()

theorem FilterLayer.directory_leaf (layer : FilterLayer) :
    Path.isLeafName layer.directory = true := by
  cases layer <;> rfl

theorem Scheme.stageFilterLayer_confined {scheme : Scheme} (layer : FilterLayer)
    (below : StagesBelow allowed scheme.path) (filters : List FilterConfig) :
    Confined allowed (scheme.stageFilterLayer layer filters) := by
  exact below.counted layer.directory "nr_filters" layer.directory_leaf rfl
    fun index filter _ => SchemeFilter.stageConfiguration_confined
      (below.indexed _ (Path.isLeafName_plain layer.directory_leaf) index) filter

theorem Scheme.stageFilterLayerIfPresent_confined {scheme : Scheme} (layer : FilterLayer)
    (below : StagesBelow allowed scheme.path) (filters : List FilterConfig) (present : Bool) :
    Confined allowed (scheme.stageFilterLayerIfPresent layer filters present) :=
  .ite (fun _ => stageFilterLayer_confined layer below filters) fun _ =>
    .ite (fun _ => .pure ()) fun _ => .fail _

theorem Scheme.stageSemanticFilters_confined {scheme : Scheme}
    (below : StagesBelow allowed scheme.path) (filters : List FilterConfig) :
    Confined allowed (scheme.stageSemanticFilters filters) := by
  refine .bind (pathExists_confined _) fun _ => .bind (pathExists_confined _) fun _ =>
    .bind (pathExists_confined _) fun _ => .ite (fun _ => ?_) fun _ => ?_
  · exact .seq (stageFilterLayerIfPresent_confined _ below _ _) <|
      .seq (stageFilterLayerIfPresent_confined _ below _ _) <|
      stageFilterLayerIfPresent_confined _ below _ _
  · refine .ite (fun _ => .ite (fun _ => .fail _) fun _ => ?_) fun _ =>
      .ite (fun _ => .pure ()) fun _ => .fail _
    exact stageFilterLayer_confined _ below filters

theorem Scheme.stageConfigurationFrom_confined {scheme : Scheme}
    (below : StagesBelow allowed scheme.path) (config : SchemeConfig)
    (observed : Option SchemeConfig) :
    Confined allowed (scheme.stageConfigurationFrom config observed) := by
  refine stageWhen_confined fun _ => ?_
  refine .seq (stageWhen_confined fun _ => below.token _ "action" _ rfl) ?_
  refine .seq (stageWhen_confined fun _ => setAccessPatternAdaptive_confined below _) ?_
  refine .seq (stageWhen_confined fun _ => stageOptionalDefault_confined
    (.bind (.ofExcept _) fun _ => below.number "apply_interval_us" _ rfl)) ?_
  refine .seq (stageWhen_confined fun _ => stageTargetNode_confined below _) ?_
  refine .seq (SchemeQuotas.stageConfigurationFrom_confined (below.child ["quotas"] rfl) _ _) ?_
  refine .seq (SchemeWatermarks.stageConfigurationFrom_confined
    (below.child ["watermarks"] rfl) _ _) ?_
  refine .seq (stageWhen_confined fun _ => stageSemanticFilters_confined below _) ?_
  refine .seq (stageWhen_confined fun _ => below.optionalCounted "dests" "nr_dests" rfl rfl
    (stageChanged_confined fun index destination =>
      MigrationDestination.stageConfiguration_confined
        (below.indexed "dests" rfl index) destination)) ?_
  refine stageWhen_confined fun _ => stageOptionalDefault_confined (writeValue_confined ?_)
  have limit := below.limits [] (toString config.applicationSnapshotLimit.toNat) rfl
  rwa [List.append_nil] at limit

/-- The interval leaves, relative to their context. -/
def Context.intervalLeaves : List Path :=
  [["monitoring_attrs", "intervals", "sample_us"], ["monitoring_attrs", "intervals", "aggr_us"]]

/-- Staging a context may write its interval leaves only with the requested values. -/
structure StagesContext (allowed : Access → Prop) (context : Context) (config : ContextConfig)
    (observed : Option ContextConfig) : Prop where
  reads : ReadsBelow allowed context.path
  writes : ∀ suffix value, suffix ≠ [] → suffix.all Path.isPlainName = true →
    Path.isReconstructionCount suffix = false → suffix ∉ Context.intervalLeaves →
    allowed (.write (context.path ++ suffix) value)
  counts : ∀ suffix name count value, suffix.all Path.isPlainName = true →
    Path.isLeafName name = true → Path.isPlainName count = true →
    suffix ++ [name, count] ∉ Context.intervalLeaves →
    allowed (.write (context.path ++ suffix ++ [name, count]) value)
  limits : ∀ suffix value, suffix.all Path.isPlainName = true →
    allowed (.write (context.path ++ suffix ++ ["stats", "max_nr_snapshots"]) value)
  intervals : observed.map ContextConfig.intervals ≠ some config.intervals →
    allowed (.write (context.intervalsPath ++ ["sample_us"])
      (toString config.intervals.sampleUs.toNat)) ∧
    allowed (.write (context.intervalsPath ++ ["aggr_us"])
      (toString config.intervals.aggregationUs.toNat))

namespace StagesContext

variable {context : Context} {config : ContextConfig} {observed : Option ContextConfig}

theorem ofBelow (below : StagesBelow allowed context.path) :
    StagesContext allowed context config observed where
  reads := below.reads
  writes := fun suffix value nonempty plain noCount _ =>
    below.writes suffix value nonempty plain noCount
  counts := fun suffix name count value plain leaf plainCount _ =>
    below.counts suffix name count value plain leaf plainCount
  limits := below.limits
  intervals := fun _ => by
    have inner := below.child ["monitoring_attrs", "intervals"] rfl
    exact ⟨inner.leaf "sample_us" rfl _, inner.leaf "aggr_us" rfl _⟩

/-- A directory that holds no interval leaf is staged freely. -/
theorem child (stages : StagesContext allowed context config observed) (inner : Path)
    (plain : inner.all Path.isPlainName = true)
    (apart : ∀ leaf ∈ Context.intervalLeaves, inner.isPrefixOf leaf = false) :
    StagesBelow allowed (context.path ++ inner) where
  reads := stages.reads.child inner
  writes := by
    intro suffix value nonempty plainSuffix noCount
    rw [List.append_assoc]
    refine stages.writes _ value (by simp [nonempty])
      (by rw [List.all_append, plain, plainSuffix]; rfl)
      ((Path.isReconstructionCount_append nonempty).trans noCount) fun member => ?_
    have outside := apart _ member
    rw [List.isPrefixOf_iff_prefix.mpr (List.prefix_append inner suffix)] at outside
    cases outside
  counts := by
    intro suffix name count value plainSuffix leaf plainCount
    rw [List.append_assoc context.path]
    refine stages.counts _ name count value (by rw [List.all_append, plain, plainSuffix]; rfl) leaf
      plainCount fun member => ?_
    have outside := apart _ member
    rw [List.append_assoc, List.isPrefixOf_iff_prefix.mpr (List.prefix_append inner _)] at outside
    cases outside
  limits := by
    intro suffix value plainSuffix
    rw [List.append_assoc context.path]
    exact stages.limits _ value (by rw [List.all_append, plain, plainSuffix]; rfl)

/-- Every attribute and directory directly below the context holds no interval leaf, except one. -/
theorem leaf (stages : StagesContext allowed context config observed) (name : String)
    (value : String) (leaf : Path.isLeafName name = true) :
    allowed (.write (context.path ++ [name]) value) :=
  stages.writes [name] value (by simp) (by simpa using Path.isLeafName_plain leaf)
    (Path.isLeafName_noCount leaf) (by simp [Context.intervalLeaves])

theorem directory (stages : StagesContext allowed context config observed) (name : String)
    (rest : Path) (plain : (name :: rest).all Path.isPlainName = true)
    (apart : name ≠ "monitoring_attrs") :
    StagesBelow allowed (context.path ++ name :: rest) := by
  refine stages.child _ plain fun leaf member => ?_
  simp only [Context.intervalLeaves, List.mem_cons, List.not_mem_nil, or_false] at member
  rcases member with rfl | rfl <;> simp [List.isPrefixOf, apart]

theorem monitoring (stages : StagesContext allowed context config observed) (name : String)
    (rest : Path) (plain : (name :: rest).all Path.isPlainName = true)
    (apart : name ≠ "intervals") :
    StagesBelow allowed (context.path ++ "monitoring_attrs" :: name :: rest) := by
  refine stages.child _ ?_ fun leaf member => ?_
  · rw [List.all_cons, plain]
    rfl
  · simp only [Context.intervalLeaves, List.mem_cons, List.not_mem_nil, or_false] at member
    rcases member with rfl | rfl <;> simp [List.isPrefixOf, apart]

theorem goal (stages : StagesContext allowed context config observed) :
    StagesBelow allowed context.intervalsGoalPath := by
  have inner := stages.child ["monitoring_attrs", "intervals", "intervals_goal"] rfl (by decide)
  unfold Context.intervalsGoalPath Context.intervalsPath
  rwa [List.append_assoc]

end StagesContext

theorem Context.writeIntervalsGoal_confined {context : Context}
    (below : StagesBelow allowed context.intervalsGoalPath) (goal : IntervalsGoalConfig) :
    Confined allowed (context.writeIntervalsGoal goal) :=
  .bind (.ofExcept _) fun _ => .seq (below.number "access_bp" _ rfl) <|
    .seq (below.number "aggrs" _ rfl) <| .seq (below.number "min_sample_us" _ rfl) <|
    below.number "max_sample_us" _ rfl

theorem Context.setIntervals_confined {context : Context} {config : ContextConfig}
    {observed : Option ContextConfig} (stages : StagesContext allowed context config observed)
    (changed : observed.map ContextConfig.intervals ≠ some config.intervals) :
    Confined allowed (context.setIntervals config.intervals) := by
  obtain ⟨sample, aggregation⟩ := stages.intervals changed
  refine .seq (writeValue_confined sample) (.seq (writeValue_confined aggregation) ?_)
  have update := stages.writes ["monitoring_attrs", "intervals", "update_us"]
    (toString config.intervals.updateUs.toNat) (by simp) rfl rfl (by decide)
  refine writeValue_confined ?_
  unfold Context.intervalsPath
  rwa [List.append_assoc]

/-- The scalar fields staged before the intervals. -/
def Context.stageBeforeIntervals (context : Context) (config : ContextConfig)
    (observed : Option ContextConfig) : Sysfs Unit := do
  stageWhen (needsStage (observed.map ContextConfig.operation) config.operation)
    (context.setOperation config.operation)
  stageWhen (needsStage (observed.map ContextConfig.addressUnit) config.addressUnit)
    (stageOptionalDefault (context.path ++ ["addr_unit"]) config.addressUnit .one
      "DAMON address units" (context.setAddressUnit config.addressUnit))
  stageWhen (needsStage (observed.map ContextConfig.paused) config.paused)
    (stageOptionalDefault (context.path ++ ["pause"]) config.paused false "DAMON context pause"
      (context.setPaused config.paused))
  stageWhen (needsStage (observed.map ContextConfig.operationAttributes) config.operationAttributes)
    (stageOptionalDefault (context.path ++ ["operations_attrs"]) config.operationAttributes
      .default "DAMON operation attributes"
      (context.operationAttributes.stageConfiguration config.operationAttributes))

/-- The scalar fields staged after the intervals. -/
def Context.stageAfterIntervals (context : Context) (config : ContextConfig)
    (observed : Option ContextConfig) : Sysfs Unit := do
  stageWhen (needsStage (observed.map ContextConfig.intervalsGoal) config.intervalsGoal)
    (stageOptionalDefault (context.intervalsGoalPath ++ ["access_bp"]) config.intervalsGoal
      .default "DAMON monitoring intervals goal"
      (context.writeIntervalsGoal config.intervalsGoal))
  stageWhen (needsStage (observed.map ContextConfig.regionBounds) config.regionBounds)
    (context.setRegionBounds config.regionBounds)

theorem Context.stageScalarConfigurationFrom_eq (context : Context) (config : ContextConfig)
    (observed : Option ContextConfig) :
    context.stageScalarConfigurationFrom config observed = (do
      context.stageBeforeIntervals config observed
      stageWhen (needsStage (observed.map ContextConfig.intervals) config.intervals)
        (context.setIntervals config.intervals)
      context.stageAfterIntervals config observed) := by
  simp only [stageScalarConfigurationFrom, stageBeforeIntervals, stageAfterIntervals,
    Exec.bind_assoc]

theorem Context.stageBeforeIntervals_confined {context : Context} {config : ContextConfig}
    {observed other : Option ContextConfig}
    (stages : StagesContext allowed context config other) :
    Confined allowed (context.stageBeforeIntervals config observed) := by
  refine .seq (stageWhen_confined fun _ => writeToken_confined (stages.leaf _ _ rfl)) ?_
  refine .seq (stageWhen_confined fun _ =>
    stageOptionalDefault_confined (writeValue_confined (stages.leaf _ _ rfl))) ?_
  refine .seq (stageWhen_confined fun _ => stageOptionalDefault_confined
    (writeBool_confined _ fun _ => stages.leaf _ _ rfl)) ?_
  exact stageWhen_confined fun _ => stageOptionalDefault_confined
    (OperationAttributes.stageConfiguration_confined
      (stages.directory "operations_attrs" [] rfl (by decide)) _)

theorem Context.stageAfterIntervals_confined {context : Context} {config : ContextConfig}
    {observed other : Option ContextConfig}
    (stages : StagesContext allowed context config other) :
    Confined allowed (context.stageAfterIntervals config observed) := by
  refine .seq (stageWhen_confined fun _ => stageOptionalDefault_confined
    (writeIntervalsGoal_confined stages.goal _)) ?_
  have bounds := stages.monitoring "nr_regions" [] rfl (by decide)
  have bound : ∀ name value, Path.isLeafName name = true → Confined allowed
      (writeValue (context.path ++ ["monitoring_attrs", "nr_regions", name]) value) := by
    intro name value leaf
    have number := bounds.number name value leaf
    rwa [List.append_assoc] at number
  exact stageWhen_confined fun _ => .seq (bound _ _ rfl) (bound _ _ rfl)

theorem Context.stageScalarConfigurationFrom_confined {context : Context}
    {config : ContextConfig} {observed : Option ContextConfig}
    (stages : StagesContext allowed context config observed) :
    Confined allowed (context.stageScalarConfigurationFrom config observed) := by
  rw [stageScalarConfigurationFrom_eq]
  refine .seq (stageBeforeIntervals_confined stages) (.seq (stageWhen_confined fun changed =>
    setIntervals_confined stages ?_) (stageAfterIntervals_confined stages))
  simpa [needsStage] using changed

theorem Context.stageChildConfigurationFrom_confined {context : Context}
    {config : ContextConfig} {observed other : Option ContextConfig}
    (stages : StagesContext allowed context config other) :
    Confined allowed (context.stageChildConfigurationFrom config observed) := by
  have count : ∀ name nr, Path.isLeafName name = true → Path.isPlainName nr = true →
      ∀ value, allowed (.write (context.path ++ [name, nr]) value) := by
    intro name nr leaf plain value
    have write := stages.counts [] name nr value rfl leaf plain (by simp [Context.intervalLeaves])
    rwa [List.append_nil] at write
  have probeCount : ∀ value, allowed
      (.write (context.path ++ ["monitoring_attrs", "probes", "nr_probes"]) value) := by
    intro value
    have write := stages.counts ["monitoring_attrs"] "probes" "nr_probes" value rfl rfl rfl
      (by decide)
    rwa [List.append_assoc] at write
  refine .seq (stageOptionalCounted_confined (stages.reads _ _) probeCount
    fun index probe observed => ?_) ?_
  · exact Probe.stageConfigurationFrom_confined
      (stages.monitoring "probes" [Path.indexName index] (Path.all_plain_indexed rfl index)
        (by decide)) probe _
  refine .seq (stageWhen_confined fun _ => stageOptionalDefault_confined
    (SampleControl.stageConfiguration_confined
      (stages.monitoring "sample" [] rfl (by decide)) _)) ?_
  refine .seq (stageCounted_confined (stages.reads _ _) (count _ _ rfl rfl)
    fun index target observed => ?_) ?_
  · exact Target.stageConfigurationFrom_confined
      (stages.directory "targets" [Path.indexName index] (Path.all_plain_indexed rfl index)
        (by decide)) target _
  · exact stageCounted_confined (stages.reads _ _) (count _ _ rfl rfl)
      fun index scheme observed => Scheme.stageConfigurationFrom_confined
        (stages.directory "schemes" [Path.indexName index] (Path.all_plain_indexed rfl index)
          (by decide)) scheme _

theorem Context.stageConfigurationFrom_confined {context : Context} {config : ContextConfig}
    {observed : Option ContextConfig} (stages : StagesContext allowed context config observed) :
    Confined allowed (context.stageConfigurationFrom config observed) :=
  stageWhen_confined fun _ =>
    .seq (stageScalarConfigurationFrom_confined stages) (stageChildConfigurationFrom_confined stages)

/-- Staging a kdamond writes something only when it differs from the observed one. -/
theorem Kdamond.stageConfigurationFrom_confined {kdamond : Kdamond} {config : KdamondConfig}
    {observed : Option KdamondConfig}
    (stages : observed ≠ some config →
      (∀ value, allowed (.write (kdamond.path ++ ["refresh_ms"]) value)) ∧
      allowed (.read (kdamond.path ++ ["contexts", "nr_contexts"])) ∧
      (∀ value, allowed (.write (kdamond.path ++ ["contexts", "nr_contexts"]) value)) ∧
      ∀ i context, config.contexts[i]? = some context →
        StagesContext allowed (kdamond.context i) context
          ((comparable (observed.map KdamondConfig.contexts) config.contexts).bind
            fun values => values[i]?)) :
    Confined allowed (kdamond.stageConfigurationFrom config observed) := by
  refine stageWhen_confined fun changed => ?_
  obtain ⟨refresh, read, write, contexts⟩ := stages (by simpa using changed)
  refine .seq (stageWhen_confined fun _ => stageOptionalDefault_confined
    (.bind (.ofExcept _) fun _ => writeValue_confined (refresh _))) ?_
  exact stageCounted_confined_at read (fun _ => write _) fun i context hit =>
    Context.stageConfigurationFrom_confined (contexts i context hit)

theorem DamonAdmin.stageConfigurationFrom_confined {config : DamonConfig}
    {observed : Option DamonConfig} (read : allowed (.read DamonAdmin.countPath))
    (write : ∀ number : Nat, allowed (.write DamonAdmin.countPath (toString number)))
    (kdamonds : ∀ i kdamond, config.kdamonds[i]? = some kdamond →
      Confined allowed ((DamonAdmin.kdamond i).stageConfigurationFrom kdamond
        ((comparable (observed.map DamonConfig.kdamonds) config.kdamonds).bind
          fun values => values[i]?))) :
    Confined allowed (DamonAdmin.stageConfigurationFrom config observed) :=
  stageWhen_confined fun _ => stageCounted_confined_at read write kdamonds

end Configurations

/-! ## What staging accesses -/

/-- Accesses that write configuration only, and read no thread identifier. -/
def StagesConfiguration : Access → Prop
  | .write path _ => Path.isRuntimeAttribute path = false
  | access => ReadsConfiguration access

theorem stagesConfiguration_below {directory : Path} (long : 3 ≤ directory.length)
    (regions : "tried_regions" ∉ directory) (stats : directory.getLast? ≠ some "stats") :
    StagesBelow StagesConfiguration directory where
  reads := by
    intro name rest
    have deep : 4 ≤ (directory ++ name :: rest).length := by
      rw [List.length_append, List.length_cons]
      omega
    show (directory ++ name :: rest).isIdentity = false
    unfold Path.isIdentity
    split
    · rename_i same
      simp [same] at deep
    · rfl
  writes := fun suffix value nonempty plain _ =>
    Path.isRuntimeAttribute_append nonempty regions stats plain
  counts := by
    intro suffix name count value plain leaf plainCount
    show Path.isRuntimeAttribute _ = false
    rw [List.append_assoc]
    refine Path.isRuntimeAttribute_append (by simp) regions stats ?_
    simp [List.all_append, plain, Path.isLeafName_plain leaf, plainCount]
  limits := by
    intro suffix value plain
    have noRegions : "tried_regions" ∉ directory ++ suffix := by
      intro member
      rcases List.mem_append.mp member with inDirectory | inSuffix
      · exact regions inDirectory
      · have isPlain := List.all_eq_true.mp plain _ inSuffix
        exact absurd isPlain (by decide)
    have ends := List.suffix_append (directory ++ suffix) ["stats", "max_nr_snapshots"]
    have isLimit : ["stats", "max_nr_snapshots"].isSuffixOf
        (directory ++ suffix ++ ["stats", "max_nr_snapshots"]) = true :=
      List.isSuffixOf_iff_suffix.mpr ends
    have noEffective : ["quotas", "effective_bytes"].isSuffixOf
        (directory ++ suffix ++ ["stats", "max_nr_snapshots"]) = false := by
      cases isSuffix : ["quotas", "effective_bytes"].isSuffixOf
          (directory ++ suffix ++ ["stats", "max_nr_snapshots"]) with
      | false => rfl
      | true =>
          obtain ⟨front, same⟩ := List.isSuffixOf_iff_suffix.mp isSuffix
          have lasts := congrArg List.getLast? same
          simp at lasts
    show Path.isRuntimeAttribute _ = false
    unfold Path.isRuntimeAttribute
    rw [isLimit, noEffective]
    simpa using noRegions

/-- Staging the hierarchy accesses its count, the refresh intervals and the contexts. -/
theorem DamonAdmin.stageConfigurationFrom_within {allowed : Access → Prop}
    (read : allowed (.read DamonAdmin.countPath))
    (write : ∀ number : Nat, allowed (.write DamonAdmin.countPath (toString number)))
    (refresh : ∀ i value, allowed (.write ((DamonAdmin.kdamond i).path ++ ["refresh_ms"]) value))
    (contexts : ∀ i, StagesBelow allowed ((DamonAdmin.kdamond i).path ++ ["contexts"]))
    (counts : ∀ i value,
      allowed (.write ((DamonAdmin.kdamond i).path ++ ["contexts", "nr_contexts"]) value))
    (config : DamonConfig) (observed : Option DamonConfig) :
    Confined allowed (DamonAdmin.stageConfigurationFrom config observed) := by
  refine stageConfigurationFrom_confined read write fun i kdamond _ => ?_
  refine Kdamond.stageConfigurationFrom_confined fun _ => ⟨refresh i, ?_, counts i, ?_⟩
  · have below := (contexts i).reads "nr_contexts" []
    rwa [List.append_assoc] at below
  · intro index context _
    refine .ofBelow ?_
    have inner := (contexts i).child [Path.indexName index] (by simp)
    rwa [List.append_assoc] at inner

/-- Staging the hierarchy writes configuration only. -/
theorem DamonAdmin.stageConfigurationFrom_stages (config : DamonConfig)
    (observed : Option DamonConfig) :
    Confined StagesConfiguration (DamonAdmin.stageConfigurationFrom config observed) := by
  have regions : ∀ index, "tried_regions" ≠ Path.indexName index := Path.indexName_ne rfl
  have stats : ∀ index, Path.indexName index ≠ "stats" := fun index =>
    (Path.indexName_ne rfl index).symm
  have below : ∀ i suffix, suffix ≠ [] → suffix.all Path.isPlainName = true →
      Path.isRuntimeAttribute ((DamonAdmin.kdamond i).path ++ suffix) = false :=
    fun i suffix nonempty plain => Path.isRuntimeAttribute_append nonempty
      (by simp [DamonAdmin.kdamond, regions]) (by simp [DamonAdmin.kdamond, stats]) plain
  have count : ∀ value, StagesConfiguration (.write DamonAdmin.countPath value) := fun _ => rfl
  refine stageConfigurationFrom_within (show StagesConfiguration (.read _) from rfl)
    (fun _ => count _) (fun i _ => below i ["refresh_ms"] (by simp) rfl) (fun i => ?_)
    (fun i _ => below i ["contexts", "nr_contexts"] (by simp) rfl) config observed
  exact stagesConfiguration_below (by simp [DamonAdmin.kdamond])
    (by simp [DamonAdmin.kdamond, regions]) (by simp [DamonAdmin.kdamond])

/-- Staging the quota goals of a scheme writes configuration only. -/
theorem SchemeQuotas.stageGoalsFrom_stages (i j k : Nat) (goals : List QuotaGoalConfig)
    (observed : Option (List QuotaGoalConfig)) :
    Confined StagesConfiguration
      ((((DamonAdmin.kdamond i).context j).scheme k).quotas.stageGoalsFrom goals observed) := by
  refine stageGoalsFrom_confined (stagesConfiguration_below ?_ ?_ ?_) goals observed
  · simp [Scheme.quotas, Context.scheme, Kdamond.context, DamonAdmin.kdamond]
  · have regions : ∀ index, "tried_regions" ≠ Path.indexName index := Path.indexName_ne rfl
    simp [Scheme.quotas, Context.scheme, Kdamond.context, DamonAdmin.kdamond, regions]
  · simp [Scheme.quotas, Context.scheme, Kdamond.context, DamonAdmin.kdamond]

/-! ## Counts -/

/-- Accesses that write a count only into a directory that is not named like one. -/
def CountsApart : Access → Prop
  | .write path _ =>
      Path.isReconstructionCount path = true → Path.isReconstructionCount path.dropLast = false
  | _ => True

theorem countsApart_of_leaf {path : Path} {value : String}
    (leaf : Path.isReconstructionCount path = false) : CountsApart (.write path value) :=
  fun isCount => by simp [leaf] at isCount

theorem countsApart_of_named {directory : Path} {name count value : String}
    (leaf : Path.isLeafName name = true) : CountsApart (.write (directory ++ [name, count]) value) := by
  intro _
  rw [show directory ++ [name, count] = directory ++ [name] ++ [count] by simp, List.dropLast_concat,
    Path.isReconstructionCount_append (by simp)]
  exact Path.isLeafName_noCount leaf

theorem countsApart_below (directory : Path) : StagesBelow CountsApart directory where
  reads := fun _ _ => trivial
  writes := fun suffix value nonempty _ noCount =>
    countsApart_of_leaf ((Path.isReconstructionCount_append nonempty).trans noCount)
  counts := fun suffix name count value _ leaf _ => countsApart_of_named leaf
  limits := fun suffix value _ => countsApart_of_leaf (by
    rw [Path.isReconstructionCount_append (by simp)]
    rfl)

theorem DamonAdmin.stageConfigurationFrom_countsApart (config : DamonConfig)
    (observed : Option DamonConfig) :
    Confined CountsApart (DamonAdmin.stageConfigurationFrom config observed) :=
  stageConfigurationFrom_within trivial (fun _ _ => rfl)
    (fun i value => (countsApart_below (DamonAdmin.kdamond i).path).leaf "refresh_ms" rfl value)
    (fun _ => countsApart_below _)
    (fun _ _ => countsApart_of_named rfl) config observed

theorem SchemeQuotas.stageGoalsFrom_countsApart (quotas : SchemeQuotas)
    (goals : List QuotaGoalConfig) (observed : Option (List QuotaGoalConfig)) :
    Confined CountsApart (quotas.stageGoalsFrom goals observed) :=
  stageGoalsFrom_confined (countsApart_below _) goals observed

end DamonRs
