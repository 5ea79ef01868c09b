import DamonRs.Config.Normalization
import DamonRs.Sysfs.Paths

/-!
# What a mismatch report names

Equivalence is decided after the kernel normalization, and the difference that
is reported is searched for before it.  A report names a place, and the place
still differs after the normalization unless a difference that the
normalization removes stands before all others.
-/

namespace DamonRs

open Library

/-! ## Paths of a report -/

/-- The path of a name below another path. -/
def below (base name : String) : String := base ++ "/" ++ name

/-- The segments of a path between its separators. -/
def pathSegments (path : String) : List String := (path.toList.splitOn '/').map String.ofList

theorem append_eq_below {name suffix : String} (base : String) (slash : suffix = "/" ++ name) :
    base ++ suffix = below base name := by
  rw [slash, below, String.append_assoc]

@[simp] theorem pathSegments_below (base name : String) :
    pathSegments (below base name) = pathSegments base ++ pathSegments name := by
  have characters : (below base name).toList = base.toList ++ '/' :: name.toList := by
    simp [below]
  rw [pathSegments, characters, List.splitOn_append_cons_self, List.map_append]
  rfl

@[simp] theorem pathSegments_indexName (index : Nat) :
    pathSegments (Path.indexName index) = [Path.indexName index] := by
  have whole : '/' ∉ (Path.indexName index).toList := by
    intro member
    exact absurd (Path.indexName_digits index '/' member) (by decide)
  rw [pathSegments, List.splitOn_eq_singleton whole, List.map_singleton, String.ofList_toList]

/-- A word with a letter is no index. -/
theorem indexName_ne_word (index : Nat) {word : String}
    (letter : ∃ c ∈ word.toList, c.isDigit = false) : Path.indexName index ≠ word := by
  rintro rfl
  obtain ⟨c, member, notDigit⟩ := letter
  rw [Path.indexName_digits index c member] at notDigit
  cases notDigit

/-! ## Places -/

/-- A field of a scheme. -/
inductive SchemeField where
  | action
  | accessPattern
  | applyInterval
  | targetNode
  | quota
  | watermarks
  | filters
  | destinations
  | applicationSnapshotLimit
  deriving DecidableEq

namespace SchemeField

def name : SchemeField → String
  | action => "action"
  | accessPattern => "access_pattern"
  | applyInterval => "apply_interval_us"
  | targetNode => "target_nid"
  | quota => "quotas"
  | watermarks => "watermarks"
  | filters => "filters"
  | destinations => "dests"
  | applicationSnapshotLimit => "stats/max_nr_snapshots"

/-- Two schemes differ in a field. -/
def Differs (expected observed : SchemeConfig) : SchemeField → Prop
  | action => expected.action ≠ observed.action
  | accessPattern => expected.accessPattern ≠ observed.accessPattern
  | applyInterval => expected.applyInterval ≠ observed.applyInterval
  | targetNode => expected.targetNode ≠ observed.targetNode
  | quota => expected.quota ≠ observed.quota
  | watermarks => expected.watermarks ≠ observed.watermarks
  | filters => expected.filters ≠ observed.filters
  | destinations => expected.destinations ≠ observed.destinations
  | applicationSnapshotLimit =>
      expected.applicationSnapshotLimit ≠ observed.applicationSnapshotLimit

end SchemeField

/-- A field of a target. -/
inductive TargetField where
  | pid
  | obsolete
  | initialRegions
  deriving DecidableEq

namespace TargetField

def name : TargetField → String
  | pid => "pid_target"
  | obsolete => "obsolete_target"
  | initialRegions => "regions"

/-- Two targets differ in a field. -/
def Differs (expected observed : TargetConfig) : TargetField → Prop
  | pid => expected.pid ≠ observed.pid
  | obsolete => expected.obsolete ≠ observed.obsolete
  | initialRegions => expected.initialRegions ≠ observed.initialRegions

end TargetField

/-- A field of a context outside of its probes, targets and schemes, or one of their counts. -/
inductive ContextField where
  | operation
  | addressUnit
  | paused
  | operationAttributes
  | intervals
  | intervalsGoal
  | regionBounds
  | sampleControl
  | probeCount
  | targetCount
  | schemeCount
  deriving DecidableEq

namespace ContextField

def name : ContextField → String
  | operation => "operations"
  | addressUnit => "addr_unit"
  | paused => "pause"
  | operationAttributes => "operations_attrs"
  | intervals => "monitoring_attrs/intervals"
  | intervalsGoal => "monitoring_attrs/intervals/intervals_goal"
  | regionBounds => "monitoring_attrs/nr_regions"
  | sampleControl => "monitoring_attrs/sample"
  | probeCount => "monitoring_attrs/probes/nr_probes"
  | targetCount => "targets/nr_targets"
  | schemeCount => "schemes/nr_schemes"

/-- Two contexts differ in a field or a count. -/
def Differs (expected observed : ContextConfig) : ContextField → Prop
  | operation => expected.operation ≠ observed.operation
  | addressUnit => expected.addressUnit ≠ observed.addressUnit
  | paused => expected.paused ≠ observed.paused
  | operationAttributes => expected.operationAttributes ≠ observed.operationAttributes
  | intervals => expected.intervals ≠ observed.intervals
  | intervalsGoal => expected.intervalsGoal ≠ observed.intervalsGoal
  | regionBounds => expected.regionBounds ≠ observed.regionBounds
  | sampleControl => expected.sampleControl ≠ observed.sampleControl
  | probeCount => expected.probes.length ≠ observed.probes.length
  | targetCount => expected.targets.length ≠ observed.targets.length
  | schemeCount => expected.schemes.length ≠ observed.schemes.length

end ContextField

/-- A relation between the items that two lists hold at an index. -/
def AtIndex {α : Type} (related : α → α → Prop) (expected observed : List α) (index : Nat) : Prop :=
  ∃ first second, expected[index]? = some first ∧ observed[index]? = some second ∧
    related first second

/-- A place below a context. -/
inductive ContextPlace where
  | setting (field : ContextField)
  | probe (index : Nat)
  | target (index : Nat) (field : TargetField)
  | scheme (index : Nat) (field : SchemeField)

namespace ContextPlace

def path (base : String) : ContextPlace → String
  | .setting field => below base field.name
  | .probe index => below (below base "monitoring_attrs/probes") (Path.indexName index)
  | .target index field => below (below (below base "targets") (Path.indexName index)) field.name
  | .scheme index field => below (below (below base "schemes") (Path.indexName index)) field.name

def Differs (expected observed : ContextConfig) : ContextPlace → Prop
  | .setting field => field.Differs expected observed
  | .probe index => AtIndex (· ≠ ·) expected.probes observed.probes index
  | .target index field =>
      AtIndex (fun first second => field.Differs first second) expected.targets observed.targets
        index
  | .scheme index field =>
      AtIndex (fun first second => field.Differs first second) expected.schemes observed.schemes
        index

end ContextPlace

/-- A place below a kdamond. -/
inductive KdamondPlace where
  | refreshInterval
  | contextCount
  | context (index : Nat) (place : ContextPlace)

namespace KdamondPlace

def path (base : String) : KdamondPlace → String
  | refreshInterval => below base "refresh_ms"
  | contextCount => below base "contexts/nr_contexts"
  | context index place => place.path (below (below base "contexts") (Path.indexName index))

def Differs (expected observed : KdamondConfig) : KdamondPlace → Prop
  | refreshInterval => expected.refreshInterval ≠ observed.refreshInterval
  | contextCount => expected.contexts.length ≠ observed.contexts.length
  | context index place =>
      AtIndex (fun first second => place.Differs first second) expected.contexts
        observed.contexts index

end KdamondPlace

/-- A place of the hierarchy: a field or a count. -/
inductive Place where
  | kdamondCount
  | kdamond (index : Nat) (place : KdamondPlace)

namespace Place

def path : Place → String
  | kdamondCount => "kdamonds/nr_kdamonds"
  | kdamond index place => place.path (below "kdamonds" (Path.indexName index))

def Differs (expected observed : DamonConfig) : Place → Prop
  | kdamondCount => expected.kdamonds.length ≠ observed.kdamonds.length
  | kdamond index place =>
      AtIndex (fun first second => place.Differs first second) expected.kdamonds
        observed.kdamonds index

end Place

/-! ## Distinct paths -/

namespace SchemeField

def segments : SchemeField → List String
  | applicationSnapshotLimit => ["stats", "max_nr_snapshots"]
  | field => [field.name]

theorem pathSegments_name (field : SchemeField) : pathSegments field.name = field.segments := by
  cases field <;> decide

theorem segments_injective {first second : SchemeField}
    (same : first.segments = second.segments) : first = second := by
  revert same
  cases first <;> cases second <;> decide

end SchemeField

namespace TargetField

theorem pathSegments_name (field : TargetField) : pathSegments field.name = [field.name] := by
  cases field <;> decide

theorem name_injective {first second : TargetField} (same : first.name = second.name) :
    first = second := by
  revert same
  cases first <;> cases second <;> decide

end TargetField

namespace ContextField

def segments : ContextField → List String
  | intervals => ["monitoring_attrs", "intervals"]
  | intervalsGoal => ["monitoring_attrs", "intervals", "intervals_goal"]
  | regionBounds => ["monitoring_attrs", "nr_regions"]
  | sampleControl => ["monitoring_attrs", "sample"]
  | probeCount => ["monitoring_attrs", "probes", "nr_probes"]
  | targetCount => ["targets", "nr_targets"]
  | schemeCount => ["schemes", "nr_schemes"]
  | field => [field.name]

theorem pathSegments_name (field : ContextField) : pathSegments field.name = field.segments := by
  cases field <;> decide

theorem segments_injective {first second : ContextField}
    (same : first.segments = second.segments) : first = second := by
  revert same
  cases first <;> cases second <;> decide

end ContextField

namespace ContextPlace

def segments : ContextPlace → List String
  | setting field => field.segments
  | probe index => ["monitoring_attrs", "probes", Path.indexName index]
  | target index field => ["targets", Path.indexName index, field.name]
  | scheme index field => "schemes" :: Path.indexName index :: field.segments

theorem pathSegments_path (base : String) (place : ContextPlace) :
    pathSegments (place.path base) = pathSegments base ++ place.segments := by
  have probes : pathSegments "monitoring_attrs/probes" = ["monitoring_attrs", "probes"] := by
    decide
  have targets : pathSegments "targets" = ["targets"] := by decide
  have schemes : pathSegments "schemes" = ["schemes"] := by decide
  cases place with
  | setting field => simp [path, segments, ContextField.pathSegments_name]
  | probe index => simp [path, segments, probes]
  | target index field => simp [path, segments, targets, TargetField.pathSegments_name]
  | scheme index field => simp [path, segments, schemes, SchemeField.pathSegments_name]

/-- A setting is no indexed place: its last segment but one or its first tells them apart. -/
theorem setting_segments_ne {field : ContextField} {place : ContextPlace}
    (indexed : ∀ other, place ≠ setting other) : (setting field).segments ≠ place.segments := by
  have count (index : Nat) : Path.indexName index ≠ "nr_probes" ∧
      Path.indexName index ≠ "nr_targets" ∧ Path.indexName index ≠ "nr_schemes" :=
    ⟨indexName_ne_word index ⟨'n', by decide, by decide⟩,
      indexName_ne_word index ⟨'n', by decide, by decide⟩,
      indexName_ne_word index ⟨'n', by decide, by decide⟩⟩
  cases place with
  | setting other => exact absurd rfl (indexed other)
  | probe index =>
      cases field <;> simp [segments, ContextField.segments, ContextField.name,
        eq_comm (b := Path.indexName index), count index]
  | target index other =>
      cases field <;> simp [segments, ContextField.segments, ContextField.name]
  | scheme index other =>
      cases field <;> simp [segments, ContextField.segments, ContextField.name,
        eq_comm (b := Path.indexName index), count index]

theorem segments_injective {first second : ContextPlace}
    (same : first.segments = second.segments) : first = second := by
  cases first with
  | setting field =>
      cases second with
      | setting other => rw [ContextField.segments_injective same]
      | probe index => exact absurd same (setting_segments_ne (by simp))
      | target index other => exact absurd same (setting_segments_ne (by simp))
      | scheme index other => exact absurd same (setting_segments_ne (by simp))
  | probe index =>
      cases second with
      | setting other => exact absurd same.symm (setting_segments_ne (by simp))
      | probe other => simpa [segments, Path.indexName_injective.eq_iff] using same
      | target other field => simp [segments] at same
      | scheme other field => simp [segments] at same
  | target index field =>
      cases second with
      | setting other => exact absurd same.symm (setting_segments_ne (by simp))
      | probe other => simp [segments] at same
      | target other field =>
          obtain ⟨index, name⟩ : index = other ∧ _ := by
            simpa [segments, Path.indexName_injective.eq_iff] using same
          rw [index, TargetField.name_injective name]
      | scheme other field => simp [segments] at same
  | scheme index field =>
      cases second with
      | setting other => exact absurd same.symm (setting_segments_ne (by simp))
      | probe other => simp [segments] at same
      | target other field => simp [segments] at same
      | scheme other field =>
          obtain ⟨index, names⟩ : index = other ∧ _ := by
            simpa [segments, Path.indexName_injective.eq_iff] using same
          rw [index, SchemeField.segments_injective names]

end ContextPlace

namespace KdamondPlace

def segments : KdamondPlace → List String
  | refreshInterval => ["refresh_ms"]
  | contextCount => ["contexts", "nr_contexts"]
  | context index place => "contexts" :: Path.indexName index :: place.segments

theorem pathSegments_path (base : String) (place : KdamondPlace) :
    pathSegments (place.path base) = pathSegments base ++ place.segments := by
  have refresh : pathSegments "refresh_ms" = ["refresh_ms"] := by decide
  have count : pathSegments "contexts/nr_contexts" = ["contexts", "nr_contexts"] := by decide
  have contexts : pathSegments "contexts" = ["contexts"] := by decide
  cases place with
  | refreshInterval => simp [path, segments, refresh]
  | contextCount => simp [path, segments, count]
  | context index place => simp [path, segments, contexts, ContextPlace.pathSegments_path]

theorem segments_injective {first second : KdamondPlace}
    (same : first.segments = second.segments) : first = second := by
  have count (index : Nat) : Path.indexName index ≠ "nr_contexts" :=
    indexName_ne_word index ⟨'n', by decide, by decide⟩
  cases first with
  | refreshInterval =>
      cases second with
      | refreshInterval => rfl
      | contextCount => simp [segments] at same
      | context index place => simp [segments] at same
  | contextCount =>
      cases second with
      | refreshInterval => simp [segments] at same
      | contextCount => rfl
      | context index place =>
          have word : "nr_contexts" = Path.indexName index := by
            have second := congrArg (·[1]?) same
            simpa [segments] using second
          exact absurd word.symm (count index)
  | context index place =>
      cases second with
      | refreshInterval => simp [segments] at same
      | contextCount =>
          have word : Path.indexName index = "nr_contexts" := by
            have second := congrArg (·[1]?) same
            simpa [segments] using second
          exact absurd word (count index)
      | context other another =>
          obtain ⟨index, names⟩ : index = other ∧ _ := by
            simpa [segments, Path.indexName_injective.eq_iff] using same
          rw [index, ContextPlace.segments_injective names]

end KdamondPlace

/-- A path names at most one place. -/
theorem Place.path_injective : Function.Injective Place.path := by
  intro first second same
  have segments := congrArg pathSegments same
  have count : pathSegments "kdamonds/nr_kdamonds" = ["kdamonds", "nr_kdamonds"] := by decide
  have kdamonds : pathSegments "kdamonds" = ["kdamonds"] := by decide
  have word (index : Nat) : Path.indexName index ≠ "nr_kdamonds" :=
    indexName_ne_word index ⟨'n', by decide, by decide⟩
  cases first with
  | kdamondCount =>
      cases second with
      | kdamondCount => rfl
      | kdamond index place =>
          have second := congrArg (·[1]?) segments
          simp [path, KdamondPlace.pathSegments_path, count, kdamonds] at second
          exact absurd second.symm (word index)
  | kdamond index place =>
      cases second with
      | kdamondCount =>
          have second := congrArg (·[1]?) segments
          simp [path, KdamondPlace.pathSegments_path, count, kdamonds] at second
          exact absurd second (word index)
      | kdamond other another =>
          obtain ⟨index, names⟩ : index = other ∧ _ := by
            simpa [path, KdamondPlace.pathSegments_path, kdamonds,
              Path.indexName_injective.eq_iff] using segments
          rw [index, KdamondPlace.segments_injective names]

/-! ## Differences that the normalization removes -/

/-- The first items at which two lists of one length differ are related. -/
def FirstAmong {α : Type} (related : α → α → Prop) (expected observed : List α) : Prop :=
  expected.length = observed.length ∧
    ∃ index, expected.take index = observed.take index ∧ AtIndex related expected observed index

/-- The first difference of two schemes is one of access-pattern width or filter placement. -/
def SchemeConfig.NormalizedFirst (expected observed : SchemeConfig) : Prop :=
  expected.action = observed.action ∧
    (expected.accessPattern ≠ observed.accessPattern ∧
        expected.accessPattern.normalizeKernelWidth observed.accessPattern =
          observed.accessPattern ∨
      expected.accessPattern = observed.accessPattern ∧
        expected.applyInterval = observed.applyInterval ∧
        expected.targetNode = observed.targetNode ∧ expected.quota = observed.quota ∧
        expected.watermarks = observed.watermarks ∧ expected.filters ≠ observed.filters ∧
        canonicalizeFilterPlacements expected.filters observed.filters = observed.filters)

/-- Two contexts agree up to such a scheme. -/
def ContextConfig.NormalizedFirst (expected observed : ContextConfig) : Prop :=
  { expected with schemes := [] } = { observed with schemes := [] } ∧
    FirstAmong SchemeConfig.NormalizedFirst expected.schemes observed.schemes

/-- Two kdamonds agree up to such a scheme. -/
def KdamondConfig.NormalizedFirst (expected observed : KdamondConfig) : Prop :=
  expected.refreshInterval = observed.refreshInterval ∧
    FirstAmong ContextConfig.NormalizedFirst expected.contexts observed.contexts

/-- Two hierarchies agree up to such a scheme. -/
def DamonConfig.NormalizedFirst (expected observed : DamonConfig) : Prop :=
  FirstAmong KdamondConfig.NormalizedFirst expected.kdamonds observed.kdamonds

section Among

variable {α : Type} {related : α → α → Prop} {expected observed : List α}

theorem FirstAmong.ne (differ : ∀ first second, related first second → first ≠ second)
    (first : FirstAmong related expected observed) : expected ≠ observed := by
  rintro rfl
  obtain ⟨_, index, _, left, right, atLeft, atRight, holds⟩ := first
  rw [atLeft] at atRight
  cases atRight
  exact differ left left holds rfl

theorem firstAmong_singleton {first second : α} :
    FirstAmong related [first] [second] ↔ related first second := by
  constructor
  · rintro ⟨_, index, _, left, right, atLeft, atRight, holds⟩
    cases index with
    | zero =>
        cases atLeft
        cases atRight
        exact holds
    | succ index => cases atLeft
  · exact fun holds => ⟨rfl, 0, rfl, first, second, rfl, rfl, holds⟩

/-- The first difference of two lists is the only candidate. -/
theorem firstAmong_iff (differ : ∀ first second, related first second → first ≠ second)
    {index : Nat} {left right : α} (length : expected.length = observed.length)
    (before : expected.take index = observed.take index) (atLeft : expected[index]? = some left)
    (atRight : observed[index]? = some right) (different : left ≠ right) :
    FirstAmong related expected observed ↔ related left right := by
  -- lists that agree up to an index agree at each index below it
  have agrees {low high : Nat} (less : low < high)
      (same : expected.take high = observed.take high) : expected[low]? = observed[low]? := by
    rw [← List.getElem?_take_of_lt less, same, List.getElem?_take_of_lt less]
  constructor
  · rintro ⟨_, other, otherBefore, first, second, atFirst, atSecond, holds⟩
    rcases lt_trichotomy other index with less | rfl | more
    · have same := agrees less before
      rw [atFirst, atSecond] at same
      injection same with same
      exact absurd same (differ first second holds)
    · rw [atFirst] at atLeft
      rw [atSecond] at atRight
      cases atLeft
      cases atRight
      exact holds
    · have same := agrees more otherBefore
      rw [atLeft, atRight] at same
      injection same with same
      exact absurd same different
  · intro holds
    exact ⟨length, index, before, left, right, atLeft, atRight, holds⟩

end Among

/-! ## Reports -/

/-- An error that names a path. -/
def Error.Names (error : Error) (path : String) : Prop :=
  error = .configurationMismatch path

theorem fieldDifference_eq_some {α : Type} [DecidableEq α] {path : String}
    {expected observed : α} {error : Error}
    (reported : fieldDifference path expected observed = some error) :
    expected ≠ observed ∧ error.Names path := by
  unfold fieldDifference at reported
  split at reported
  · cases reported
  · rename_i different
    cases reported
    exact ⟨different, rfl⟩

theorem fieldDifference_eq_none {α : Type} [DecidableEq α] {path : String}
    {expected observed : α} (silent : fieldDifference path expected observed = none) :
    expected = observed := by
  unfold fieldDifference at silent
  split at silent
  · assumption
  · cases silent

/-- A list of checks reports what its first reporting check does. -/
theorem firstReport_cons {check : Option Error} {rest : List (Option Error)} {fallback : Error}
    {holds : Error → Prop} (here : ∀ error, check = some error → holds error)
    (later : check = none → holds ((rest.findSome? id).getD fallback)) :
    holds (((check :: rest).findSome? id).getD fallback) := by
  cases check with
  | none => exact later rfl
  | some error => exact here error rfl

/-- A report on children names the first of them that differ. -/
theorem firstIndexedDifference_some {α : Type} [DecidableEq α] {base : String}
    {difference : String → α → α → Option Error} {start : Nat} {expected observed : List α}
    {error : Error}
    (reported : firstIndexedDifference base difference start expected observed = some error)
    (silent : ∀ path first second, difference path first second = none → first = second) :
    ∃ index first second, expected.take index = observed.take index ∧
      expected[index]? = some first ∧ observed[index]? = some second ∧
      difference (below base (Path.indexName (start + index))) first second = some error := by
  induction expected generalizing start observed with
  | nil => cases reported
  | cons first expected ih =>
      cases observed with
      | nil => cases reported
      | cons second observed =>
          unfold firstIndexedDifference at reported
          cases here : difference s!"{base}/{start}" first second with
          | some found =>
              rw [here] at reported
              cases reported
              exact ⟨0, first, second, rfl, rfl, rfl, here⟩
          | none =>
              rw [here] at reported
              obtain ⟨index, left, right, before, atLeft, atRight, found⟩ := ih reported
              refine ⟨index + 1, left, right, ?_, atLeft, atRight, ?_⟩
              · rw [List.take_succ_cons, List.take_succ_cons, silent _ _ _ here, before]
              · rwa [Nat.add_right_comm] at found

theorem firstIndexedDifference_none {α : Type} [DecidableEq α] {base : String}
    {difference : String → α → α → Option Error} {start : Nat} {expected observed : List α}
    (length : expected.length = observed.length)
    (quiet : firstIndexedDifference base difference start expected observed = none)
    (silent : ∀ path first second, difference path first second = none → first = second) :
    expected = observed := by
  induction expected generalizing start observed with
  | nil => exact (List.length_eq_zero_iff.mp length.symm).symm
  | cons first expected ih =>
      cases observed with
      | nil => cases length
      | cons second observed =>
          unfold firstIndexedDifference at quiet
          cases here : difference s!"{base}/{start}" first second with
          | some found =>
              rw [here] at quiet
              cases quiet
          | none =>
              rw [here] at quiet
              rw [silent _ _ _ here, ih (Nat.succ.inj length) quiet]

theorem firstIndexedDifference_self {α : Type} [DecidableEq α] {base : String}
    {difference : String → α → α → Option Error} (silent : ∀ path item, difference path item item = none)
    (start : Nat) (items : List α) : firstIndexedDifference base difference start items items = none := by
  induction items generalizing start with
  | nil => rfl
  | cons item items ih =>
      rw [firstIndexedDifference, silent]
      exact ih (start + 1)

theorem differing_eq_none {α : Type} [DecidableEq α] {report : String → α → α → Error}
    {path : String} {expected observed : α} (silent : differing report path expected observed = none) :
    expected = observed := by
  unfold differing at silent
  split at silent
  · assumption
  · cases silent

theorem differing_eq_some {α : Type} [DecidableEq α] {report : String → α → α → Error}
    {path : String} {expected observed : α} {error : Error}
    (reported : differing report path expected observed = some error) :
    expected ≠ observed ∧ error = report path expected observed := by
  unfold differing at reported
  split at reported
  · cases reported
  · rename_i different
    cases reported
    exact ⟨different, rfl⟩

/-- A list of checks whose first one is about a field below the base. -/
theorem firstReport_field {α : Type} [DecidableEq α] {base suffix : String}
    {expected observed : α} {rest : List (Option Error)} {fallback : Error}
    {holds : Error → Prop} (name : String) (slash : suffix = "/" ++ name)
    (here : expected ≠ observed → ∀ error : Error, error.Names (below base name) → holds error)
    (later : expected = observed → holds ((rest.findSome? id).getD fallback)) :
    holds (((fieldDifference (base ++ suffix) expected observed :: rest).findSome? id).getD
      fallback) := by
  apply firstReport_cons
  · intro error reported
    obtain ⟨differs, names⟩ := fieldDifference_eq_some reported
    rw [append_eq_below base slash] at names
    exact here differs error names
  · exact fun silent => later (fieldDifference_eq_none silent)

/-- A report of two schemes names a field, which the normalization leaves different unless it
removes the first difference. -/
theorem firstSchemeDifference_names {base : String} {expected observed : SchemeConfig}
    (different : expected ≠ observed) :
    ∃ field : SchemeField,
      (firstSchemeDifference base expected observed).Names (below base field.name) ∧
        (field.Differs (expected.canonicalize observed) observed ↔
          ¬ expected.NormalizedFirst observed) := by
  let holds (error : Error) : Prop := ∃ field : SchemeField,
    error.Names (below base field.name) ∧
      (field.Differs (expected.canonicalize observed) observed ↔
        ¬ expected.NormalizedFirst observed)
  show holds _
  unfold firstSchemeDifference
  apply firstReport_field "action" rfl
  · intro differs error names
    refine ⟨.action, names, ?_⟩
    simp [SchemeField.Differs, SchemeConfig.canonicalize, SchemeConfig.NormalizedFirst, differs]
  intro action
  apply firstReport_field "access_pattern" rfl
  · intro differs error names
    refine ⟨.accessPattern, names, ?_⟩
    simp [SchemeField.Differs, SchemeConfig.canonicalize, SchemeConfig.NormalizedFirst, differs,
      action]
  intro accessPattern
  apply firstReport_field "apply_interval_us" rfl
  · intro differs error names
    refine ⟨.applyInterval, names, ?_⟩
    simp [SchemeField.Differs, SchemeConfig.canonicalize, SchemeConfig.NormalizedFirst, differs,
      accessPattern]
  intro applyInterval
  apply firstReport_field "target_nid" rfl
  · intro differs error names
    refine ⟨.targetNode, names, ?_⟩
    simp [SchemeField.Differs, SchemeConfig.canonicalize, SchemeConfig.NormalizedFirst, differs,
      accessPattern]
  intro targetNode
  apply firstReport_field "quotas" rfl
  · intro differs error names
    refine ⟨.quota, names, ?_⟩
    simp [SchemeField.Differs, SchemeConfig.canonicalize, SchemeConfig.NormalizedFirst, differs,
      accessPattern]
  intro quota
  apply firstReport_field "watermarks" rfl
  · intro differs error names
    refine ⟨.watermarks, names, ?_⟩
    simp [SchemeField.Differs, SchemeConfig.canonicalize, SchemeConfig.NormalizedFirst, differs,
      accessPattern]
  intro watermarks
  apply firstReport_field "filters" rfl
  · intro differs error names
    refine ⟨.filters, names, ?_⟩
    simp [SchemeField.Differs, SchemeConfig.canonicalize, SchemeConfig.NormalizedFirst, differs,
      action, accessPattern, applyInterval, targetNode, quota, watermarks]
  intro filters
  apply firstReport_field "dests" rfl
  · intro differs error names
    refine ⟨.destinations, names, ?_⟩
    simp [SchemeField.Differs, SchemeConfig.canonicalize, SchemeConfig.NormalizedFirst, differs,
      accessPattern, filters]
  intro destinations
  apply firstReport_field "stats/max_nr_snapshots" rfl
  · intro differs error names
    refine ⟨.applicationSnapshotLimit, names, ?_⟩
    simp [SchemeField.Differs, SchemeConfig.canonicalize, SchemeConfig.NormalizedFirst, differs,
      accessPattern, filters]
  intro applicationSnapshotLimit
  exfalso
  apply different
  cases expected
  cases observed
  simp_all

theorem firstTargetDifference_names {base : String} {expected observed : TargetConfig}
    (different : expected ≠ observed) :
    ∃ field : TargetField,
      (firstTargetDifference base expected observed).Names (below base field.name) ∧
        field.Differs expected observed := by
  let holds (error : Error) : Prop := ∃ field : TargetField,
    error.Names (below base field.name) ∧ field.Differs expected observed
  have chain : firstTargetDifference base expected observed =
      ([fieldDifference s!"{base}/pid_target" expected.pid observed.pid,
        fieldDifference s!"{base}/obsolete_target" expected.obsolete
          observed.obsolete].findSome? id).getD
        (configurationMismatch s!"{base}/regions" expected.initialRegions
          observed.initialRegions) := by
    unfold firstTargetDifference
    cases fieldDifference s!"{base}/pid_target" expected.pid observed.pid with
    | some error => rfl
    | none => cases fieldDifference s!"{base}/obsolete_target" expected.obsolete observed.obsolete <;> rfl
  show holds _
  rw [chain]
  apply firstReport_field "pid_target" rfl
  · exact fun differs error names => ⟨.pid, names, differs⟩
  intro pid
  apply firstReport_field "obsolete_target" rfl
  · exact fun differs error names => ⟨.obsolete, names, differs⟩
  intro obsolete
  have path : s!"{base}/regions" = below base "regions" := append_eq_below base rfl
  have names : (configurationMismatch s!"{base}/regions" expected.initialRegions
      observed.initialRegions).Names (below base "regions") := path ▸ rfl
  refine ⟨.initialRegions, names, fun same => different ?_⟩
  cases expected
  cases observed
  simp_all

/-! ## Normalized partners -/

theorem zipModify_getElem? {α : Type} {change : α → α → α} {items partners : List α}
    {index : Nat} {item partner : α} (atItem : items[index]? = some item)
    (atPartner : partners[index]? = some partner) :
    (zipModify change items partners)[index]? = some (change item partner) := by
  induction items generalizing partners index with
  | nil => cases atItem
  | cons first items ih =>
      cases partners with
      | nil => cases atPartner
      | cons second partners =>
          cases index with
          | zero =>
              cases atItem
              cases atPartner
              rfl
          | succ index => exact ih atItem atPartner

/-- A relation holds of normalized items at an index when it holds of the normalized item there. -/
theorem atIndex_zipModify {α : Type} {change : α → α → α} {related : α → α → Prop}
    {items partners : List α} {index : Nat} {item partner : α}
    (atItem : items[index]? = some item) (atPartner : partners[index]? = some partner) :
    AtIndex related (zipModify change items partners) partners index ↔
      related (change item partner) partner := by
  have changed : (zipModify change items partners)[index]? = some (change item partner) :=
    zipModify_getElem? atItem atPartner
  constructor
  · rintro ⟨first, second, atFirst, atSecond, holds⟩
    rw [changed] at atFirst
    rw [atPartner] at atSecond
    cases atFirst
    cases atSecond
    exact holds
  · exact fun holds => ⟨_, _, changed, atPartner, holds⟩

theorem SchemeConfig.NormalizedFirst.ne {expected observed : SchemeConfig}
    (first : expected.NormalizedFirst observed) : expected ≠ observed := by
  rintro rfl
  obtain ⟨_, ⟨differs, _⟩ | ⟨_, _, _, _, _, differs, _⟩⟩ := first
  · exact differs rfl
  · exact differs rfl

theorem ContextConfig.NormalizedFirst.ne {expected observed : ContextConfig}
    (first : expected.NormalizedFirst observed) : expected ≠ observed := by
  rintro rfl
  exact first.2.ne (fun _ _ => SchemeConfig.NormalizedFirst.ne) rfl

theorem KdamondConfig.NormalizedFirst.ne {expected observed : KdamondConfig}
    (first : expected.NormalizedFirst observed) : expected ≠ observed := by
  rintro rfl
  exact first.2.ne (fun _ _ => ContextConfig.NormalizedFirst.ne) rfl

/-! ## Contexts -/

/-- The normalization changes no setting, and a setting that differs comes before every scheme. -/
theorem ContextField.Differs.survives {expected observed : ContextConfig} {field : ContextField}
    (differs : field.Differs expected observed) :
    field.Differs (expected.canonicalize observed) observed ↔
      ¬ expected.NormalizedFirst observed := by
  have kept : field.Differs (expected.canonicalize observed) observed := by
    cases field with
    | schemeCount =>
        intro same
        apply differs
        rwa [ContextConfig.canonicalize, zipModify_length] at same
    | _ => exact differs
  refine iff_of_true kept fun first => ?_
  obtain ⟨operation, addressUnit, paused, operationAttributes, intervals, intervalsGoal,
    regionBounds, probes, sampleControl, targets, _⟩ := ContextConfig.mk.inj first.1
  cases field with
  | operation => exact differs operation
  | addressUnit => exact differs addressUnit
  | paused => exact differs paused
  | operationAttributes => exact differs operationAttributes
  | intervals => exact differs intervals
  | intervalsGoal => exact differs intervalsGoal
  | regionBounds => exact differs regionBounds
  | sampleControl => exact differs sampleControl
  | probeCount => exact differs (congrArg List.length probes)
  | targetCount => exact differs (congrArg List.length targets)
  | schemeCount => exact differs first.2.1

theorem firstContextDifference_names {base : String} {expected observed : ContextConfig}
    (different : expected ≠ observed) :
    ∃ place : ContextPlace,
      (firstContextDifference base expected observed).Names (place.path base) ∧
        (place.Differs (expected.canonicalize observed) observed ↔
          ¬ expected.NormalizedFirst observed) := by
  let holds (error : Error) : Prop := ∃ place : ContextPlace, error.Names (place.path base) ∧
    (place.Differs (expected.canonicalize observed) observed ↔
      ¬ expected.NormalizedFirst observed)
  have setting (field : ContextField) (differs : field.Differs expected observed) (error : Error)
      (names : error.Names (below base field.name)) : holds error :=
    ⟨.setting field, names, differs.survives⟩
  show holds _
  unfold firstContextDifference
  apply firstReport_field "operations" rfl
  · exact setting .operation
  intro operation
  apply firstReport_field "addr_unit" rfl
  · exact setting .addressUnit
  intro addressUnit
  apply firstReport_field "pause" rfl
  · exact setting .paused
  intro paused
  apply firstReport_field "operations_attrs" rfl
  · exact setting .operationAttributes
  intro operationAttributes
  apply firstReport_field "monitoring_attrs/intervals" rfl
  · exact setting .intervals
  intro intervals
  apply firstReport_field "monitoring_attrs/intervals/intervals_goal" rfl
  · exact setting .intervalsGoal
  intro intervalsGoal
  apply firstReport_field "monitoring_attrs/nr_regions" rfl
  · exact setting .regionBounds
  intro regionBounds
  apply firstReport_field "monitoring_attrs/sample" rfl
  · exact setting .sampleControl
  intro sampleControl
  apply firstReport_field "monitoring_attrs/probes/nr_probes" rfl
  · exact setting .probeCount
  intro probeCount
  have probesPath : s!"{base}/monitoring_attrs/probes" = below base "monitoring_attrs/probes" :=
    append_eq_below base rfl
  apply firstReport_cons
  · intro error reported
    obtain ⟨index, first, second, before, atFirst, atSecond, found⟩ :=
      firstIndexedDifference_some reported fun _ _ _ => differing_eq_none
    obtain ⟨differs, rfl⟩ := differing_eq_some found
    rw [Nat.zero_add, probesPath]
    refine ⟨.probe index, rfl, iff_of_true ⟨first, second, atFirst, atSecond, differs⟩ ?_⟩
    intro normalized
    have same : expected.probes = observed.probes := (ContextConfig.mk.inj normalized.1).2.2.2.2.2.2.2.1
    rw [same, atSecond] at atFirst
    cases atFirst
    exact differs rfl
  intro quiet
  have probes := firstIndexedDifference_none probeCount quiet fun _ _ _ => differing_eq_none
  apply firstReport_field "targets/nr_targets" rfl
  · exact setting .targetCount
  intro targetCount
  have targetsPath : s!"{base}/targets" = below base "targets" := append_eq_below base rfl
  apply firstReport_cons
  · intro error reported
    obtain ⟨index, first, second, before, atFirst, atSecond, found⟩ :=
      firstIndexedDifference_some reported fun _ _ _ => differing_eq_none
    obtain ⟨differs, rfl⟩ := differing_eq_some found
    rw [Nat.zero_add, targetsPath]
    obtain ⟨field, names, fieldDiffers⟩ := firstTargetDifference_names differs
    refine ⟨.target index field, names,
      iff_of_true ⟨first, second, atFirst, atSecond, fieldDiffers⟩ ?_⟩
    intro normalized
    have same : expected.targets = observed.targets :=
      (ContextConfig.mk.inj normalized.1).2.2.2.2.2.2.2.2.2.1
    rw [same, atSecond] at atFirst
    cases atFirst
    exact differs rfl
  intro quiet
  have targets := firstIndexedDifference_none targetCount quiet fun _ _ _ => differing_eq_none
  apply firstReport_field "schemes/nr_schemes" rfl
  · exact setting .schemeCount
  intro schemeCount
  have settings : { expected with schemes := [] } = { observed with schemes := [] } := by
    simp only [operation, addressUnit, paused, operationAttributes, intervals, intervalsGoal,
      regionBounds, sampleControl, probes, targets]
  have schemesPath : s!"{base}/schemes" = below base "schemes" := append_eq_below base rfl
  apply firstReport_cons
  · intro error reported
    obtain ⟨index, first, second, before, atFirst, atSecond, found⟩ :=
      firstIndexedDifference_some reported fun _ _ _ => differing_eq_none
    obtain ⟨differs, rfl⟩ := differing_eq_some found
    rw [Nat.zero_add, schemesPath]
    obtain ⟨field, names, survives⟩ := firstSchemeDifference_names differs
    refine ⟨.scheme index field, names, ?_⟩
    have removed := firstAmong_iff (fun _ _ => SchemeConfig.NormalizedFirst.ne) schemeCount before
      atFirst atSecond differs
    rw [ContextConfig.NormalizedFirst, removed, and_iff_right settings]
    exact (atIndex_zipModify atFirst atSecond).trans survives
  intro quiet
  have schemes := firstIndexedDifference_none schemeCount quiet fun _ _ _ => differing_eq_none
  exfalso
  apply different
  cases expected
  cases observed
  simp_all

/-! ## Kdamonds and the hierarchy -/

theorem firstKdamondDifference_eq_none {base : String} {expected observed : KdamondConfig}
    (silent : firstKdamondDifference base expected observed = none) : expected = observed := by
  unfold firstKdamondDifference at silent
  rw [List.findSome?_eq_none_iff] at silent
  have refreshInterval := fieldDifference_eq_none (silent _ List.mem_cons_self)
  have count := fieldDifference_eq_none
    (silent _ (List.mem_cons_of_mem _ List.mem_cons_self))
  have quiet := silent _ (List.mem_cons_of_mem _ (List.mem_cons_of_mem _ List.mem_cons_self))
  have contexts := firstIndexedDifference_none count quiet fun _ _ _ => differing_eq_none
  cases expected
  cases observed
  simp_all

theorem firstKdamondDifference_self (base : String) (kdamond : KdamondConfig) :
    firstKdamondDifference base kdamond kdamond = none := by
  have quiet : ∀ path (context : ContextConfig),
      differing firstContextDifference path context context = none := by simp [differing]
  simp [firstKdamondDifference, fieldDifference, firstIndexedDifference_self quiet]

theorem firstKdamondDifference_names {base : String} {expected observed : KdamondConfig}
    {error : Error} (reported : firstKdamondDifference base expected observed = some error) :
    ∃ place : KdamondPlace, error.Names (place.path base) ∧
      (place.Differs (expected.canonicalize observed) observed ↔
        ¬ expected.NormalizedFirst observed) := by
  let holds (error : Error) : Prop := ∃ place : KdamondPlace, error.Names (place.path base) ∧
    (place.Differs (expected.canonicalize observed) observed ↔
      ¬ expected.NormalizedFirst observed)
  have found : (firstKdamondDifference base expected observed).getD error = error := by
    rw [reported]
    rfl
  show holds error
  rw [← found]
  unfold firstKdamondDifference
  apply firstReport_field "refresh_ms" rfl
  · intro differs error names
    exact ⟨.refreshInterval, names, iff_of_true differs fun first => differs first.1⟩
  intro refreshInterval
  apply firstReport_field "contexts/nr_contexts" rfl
  · intro differs error names
    refine ⟨.contextCount, names, iff_of_true ?_ fun first => differs first.2.1⟩
    intro same
    rw [KdamondConfig.canonicalize, zipModify_length] at same
    exact differs same
  intro contextCount
  have contextsPath : s!"{base}/contexts" = below base "contexts" := append_eq_below base rfl
  apply firstReport_cons
  · intro error reported
    obtain ⟨index, first, second, before, atFirst, atSecond, found⟩ :=
      firstIndexedDifference_some reported fun _ _ _ => differing_eq_none
    obtain ⟨differs, rfl⟩ := differing_eq_some found
    rw [Nat.zero_add, contextsPath]
    obtain ⟨place, names, survives⟩ := firstContextDifference_names differs
    refine ⟨.context index place, names, ?_⟩
    have removed := firstAmong_iff (fun _ _ => ContextConfig.NormalizedFirst.ne) contextCount
      before atFirst atSecond differs
    rw [KdamondConfig.NormalizedFirst, removed, and_iff_right refreshInterval]
    exact (atIndex_zipModify atFirst atSecond).trans survives
  intro quiet
  have contexts := firstIndexedDifference_none contextCount quiet fun _ _ _ => differing_eq_none
  have silent : firstKdamondDifference base expected observed = none := by
    simp [firstKdamondDifference, fieldDifference, refreshInterval, contextCount, quiet]
  rw [silent] at reported
  cases reported

namespace DamonConfig

theorem mismatchError_names {expected observed : DamonConfig} {error : Error}
    (mismatch : expected.mismatchError observed = some error) :
    ∃ place : Place, error.Names place.path ∧
      (place.Differs (expected.canonicalize observed) observed ↔
        ¬ expected.NormalizedFirst observed) := by
  let holds (error : Error) : Prop := ∃ place : Place, error.Names place.path ∧
    (place.Differs (expected.canonicalize observed) observed ↔
      ¬ expected.NormalizedFirst observed)
  have different : expected ≠ observed := by
    rintro rfl
    simp [mismatchError, equivalentAfterKernelNormalization] at mismatch
  unfold mismatchError at mismatch
  split at mismatch
  · cases mismatch
  injection mismatch with reported
  show holds error
  rw [← reported]
  unfold firstDamonDifference
  apply firstReport_cons
  · intro error reported
    obtain ⟨differs, names⟩ := fieldDifference_eq_some reported
    refine ⟨.kdamondCount, names, iff_of_true ?_ fun first => differs first.1⟩
    intro same
    rw [canonicalize, zipModify_length] at same
    exact differs same
  intro silent
  have kdamondCount := fieldDifference_eq_none silent
  apply firstReport_cons
  · intro error reported
    obtain ⟨index, first, second, before, atFirst, atSecond, found⟩ :=
      firstIndexedDifference_some reported fun _ _ _ => firstKdamondDifference_eq_none
    rw [Nat.zero_add] at found
    obtain ⟨place, names, survives⟩ := firstKdamondDifference_names found
    refine ⟨.kdamond index place, names, ?_⟩
    have differs : first ≠ second := by
      rintro rfl
      rw [firstKdamondDifference_self] at found
      cases found
    have removed := firstAmong_iff (fun _ _ => KdamondConfig.NormalizedFirst.ne) kdamondCount
      before atFirst atSecond differs
    rw [NormalizedFirst, removed]
    exact (atIndex_zipModify atFirst atSecond).trans survives
  intro quiet
  have kdamonds := firstIndexedDifference_none kdamondCount quiet
    fun _ _ _ => firstKdamondDifference_eq_none
  exfalso
  apply different
  cases expected
  cases observed
  simp_all

/-- A reported path denotes a field or a count that still differs after the kernel normalization,
unless the first difference is one that the normalization removes. -/
theorem mismatchError_real_iff {expected observed : DamonConfig} {path : String}
    (mismatch : expected.mismatchError observed = some (.configurationMismatch path)) :
    (∃ place : Place, place.path = path ∧
      place.Differs (expected.canonicalize observed) observed) ↔
      ¬ expected.NormalizedFirst observed := by
  obtain ⟨place, names, survives⟩ := mismatchError_names mismatch
  injection names with reported
  rw [← survives]
  constructor
  · rintro ⟨other, same, differs⟩
    have unique : other = place := Place.path_injective (same.trans reported)
    exact unique ▸ differs
  · exact fun differs => ⟨place, reported.symm, differs⟩

/-- A kdamond with one scheme for regions of any size. -/
def unboundedScheme (largest : UInt64) (bounded : 0 ≤ largest) (applyInterval : Duration) :
    DamonConfig where
  kdamonds := [⟨⟨0⟩, [{ ContextConfig.new .physicalAddress with
    schemes := [{
      SchemeConfig.new .stat ⟨⟨0, largest, bounded⟩, ⟨0, 0, by decide⟩, ⟨0, 0, by decide⟩⟩ with
        applyInterval := applyInterval }] }]⟩]

/-- The kernel narrows the size range and another interval is read back; the report names the
range, which is right. -/
theorem mismatchError_names_normalized :
    ¬ ∀ (expected observed : DamonConfig) (path : String),
      expected.mismatchError observed = some (.configurationMismatch path) →
        ∃ place : Place, place.path = path ∧
          place.Differs (expected.canonicalize observed) observed := by
  intro real
  let expected := unboundedScheme 18446744073709551615 (by decide) ⟨0⟩
  let observed := unboundedScheme 4294967295 (by decide) ⟨1000⟩
  let named : Place := .kdamond 0 (.context 0 (.scheme 0 .accessPattern))
  have mismatch : expected.mismatchError observed = some (.configurationMismatch named.path) := rfl
  obtain ⟨place, same, differs⟩ := real expected observed _ mismatch
  obtain rfl : place = named := Place.path_injective same
  obtain ⟨kdamond, other, atKdamond, atOther, context⟩ := differs
  cases atKdamond
  cases atOther
  obtain ⟨context, other, atContext, atOther, scheme⟩ := context
  cases atContext
  cases atOther
  obtain ⟨scheme, other, atScheme, atOther, pattern⟩ := scheme
  cases atScheme
  cases atOther
  exact pattern (by decide)

/-- The apply interval alone is reported as such. -/
theorem mismatchError_real_iff_interval :
    ∃ place : Place, place.path = "kdamonds/0/contexts/0/schemes/0/apply_interval_us" ∧
      place.Differs ((unboundedScheme 7 (by decide) ⟨0⟩).canonicalize
        (unboundedScheme 7 (by decide) ⟨1000⟩)) (unboundedScheme 7 (by decide) ⟨1000⟩) := by
  have mismatch : (unboundedScheme 7 (by decide) ⟨0⟩).mismatchError
      (unboundedScheme 7 (by decide) ⟨1000⟩) =
        some (.configurationMismatch "kdamonds/0/contexts/0/schemes/0/apply_interval_us") := by
    decide +kernel
  apply (mismatchError_real_iff mismatch).mpr
  rw [NormalizedFirst, unboundedScheme, unboundedScheme, firstAmong_singleton,
    KdamondConfig.NormalizedFirst, firstAmong_singleton, ContextConfig.NormalizedFirst,
    firstAmong_singleton]
  rintro ⟨_, _, _, ⟨different, _⟩ | ⟨_, applyInterval, _⟩⟩
  · exact different rfl
  · cases applyInterval

end DamonConfig

end DamonRs
