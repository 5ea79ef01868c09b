import DamonRs.Library.Checks
import DamonRs.Sysfs.Stored

/-!
# Kernel tokens

Every open enumeration is written and read as one token.  A token may contain
no ASCII white space; a read drops white space of any kind at both ends.
-/

namespace DamonRs

open Library Sysfs

/-! ## Accepting a token -/

/-- The value of an accepted token. -/
def parseToken {α : Type} (field : String) (parse : String → α) (value : String) :
    Except Error α := do
  validateToken field value
  pure (parse value)

def Operation.fromStr : String → Except Error Operation :=
  parseToken "monitoring operation" Operation.parse

def Action.fromStr : String → Except Error Action := parseToken "DAMOS action" Action.parse

def ProbeFilterType.fromStr : String → Except Error ProbeFilterType :=
  parseToken "monitoring probe filter type" ProbeFilterType.parse

def SchemeFilterType.fromStr : String → Except Error SchemeFilterType :=
  parseToken "kernel enum value" SchemeFilterType.parse

def ProbePreparationAction.fromStr : String → Except Error ProbePreparationAction :=
  parseToken "kernel enum value" ProbePreparationAction.parse

def SampleFilterType.fromStr : String → Except Error SampleFilterType :=
  parseToken "kernel enum value" SampleFilterType.parse

def WatermarkMetric.fromStr : String → Except Error WatermarkMetric :=
  parseToken "kernel enum value" WatermarkMetric.parse

def QuotaGoalMetric.fromStr : String → Except Error QuotaGoalMetric :=
  parseToken "kernel enum value" QuotaGoalMetric.parse

def QuotaGoalTuner.fromStr : String → Except Error QuotaGoalTuner :=
  parseToken "kernel enum value" QuotaGoalTuner.parse

theorem parseToken_eq_ok_iff {α : Type} {field value : String} {parse : String → α} {token : α} :
    parseToken field parse value = .ok token ↔
      validateToken field value = .ok () ∧ parse value = token := by
  unfold parseToken
  cases validateToken field value with
  | ok done =>
      constructor
      · rintro ⟨⟩
        exact ⟨rfl, rfl⟩
      · rintro ⟨-, rfl⟩
        rfl
  | error error =>
      constructor
      · intro accepted
        cases accepted
      · rintro ⟨valid, -⟩
        cases valid

/-- Whether a text is one token does not depend on the field it is for. -/
theorem validateToken_field {field other value : String}
    (valid : validateToken field value = .ok ()) : validateToken other value = .ok () := by
  unfold validateToken at valid ⊢
  rw [Checks.seq_eq_ok_iff, requireField_eq_ok_iff, requireField_eq_ok_iff] at valid ⊢
  exact valid

/-- A token does not end in a newline. -/
theorem validateToken_single {field value : String} (valid : validateToken field value = .ok ()) :
    value.toList.getLast? ≠ some '\n' := by
  intro ends
  unfold validateToken at valid
  rw [Checks.seq_eq_ok_iff, requireField_eq_ok_iff, requireField_eq_ok_iff] at valid
  have newline := List.all_eq_true.mp valid.2 '\n' (List.mem_of_getLast? ends)
  exact absurd newline (by decide)

/-- The name of what a text was parsed to is the text. -/
theorem kernelName_parseKernelName {α : Type} {known : List α} {kernelName : α → String}
    {unknown : String → α} (kept : ∀ value, kernelName (unknown value) = value) (value : String) :
    kernelName (parseKernelName known kernelName unknown value) = value := by
  unfold parseKernelName
  cases found : known.find? fun candidate => kernelName candidate == value with
  | some candidate => simpa using List.find?_some found
  | none => exact kept value

theorem Operation.kernelName_parse (value : String) : (parse value).kernelName = value := by
  unfold parse
  split <;> rfl

/-! ## Attributes that hold a token -/

/-- An attribute that holds one token: how the token is accepted and named, and the access to it. -/
structure TokenAttribute (α : Type) where
  directory : Path
  name : String
  fromStr : String → Except Error α
  kernelName : α → String
  set : α → Sysfs Unit
  get : Sysfs α

def Context.operationToken (context : Context) : TokenAttribute Operation where
  directory := context.path
  name := "operations"
  fromStr := Operation.fromStr
  kernelName := Operation.kernelName
  set := context.setOperation
  get := context.operation

def Scheme.actionToken (scheme : Scheme) : TokenAttribute Action where
  directory := scheme.path
  name := "action"
  fromStr := Action.fromStr
  kernelName := Action.kernelName
  set := scheme.setAction
  get := scheme.action

def ProbeFilter.typeToken (filter : ProbeFilter) : TokenAttribute ProbeFilterType where
  directory := filter.path
  name := "type"
  fromStr := ProbeFilterType.fromStr
  kernelName := ProbeFilterType.kernelName
  set := filter.setFilterType
  get := filter.filterType

def SchemeFilter.typeToken (filter : SchemeFilter) : TokenAttribute SchemeFilterType where
  directory := filter.path
  name := "type"
  fromStr := SchemeFilterType.fromStr
  kernelName := SchemeFilterType.kernelName
  set := filter.setFilterType
  get := filter.filterType

def ProbePreparation.actionToken (preparation : ProbePreparation) :
    TokenAttribute ProbePreparationAction where
  directory := preparation.path
  name := "prep_action"
  fromStr := ProbePreparationAction.fromStr
  kernelName := ProbePreparationAction.kernelName
  set := preparation.setAction
  get := preparation.action

def SampleFilter.typeToken (filter : SampleFilter) : TokenAttribute SampleFilterType where
  directory := filter.path
  name := "type"
  fromStr := SampleFilterType.fromStr
  kernelName := SampleFilterType.kernelName
  set := filter.setFilterType
  get := filter.filterType

def SchemeWatermarks.metricToken (watermarks : SchemeWatermarks) :
    TokenAttribute WatermarkMetric where
  directory := watermarks.path
  name := "metric"
  fromStr := WatermarkMetric.fromStr
  kernelName := WatermarkMetric.kernelName
  set := watermarks.setMetric
  get := watermarks.metric

def QuotaGoal.metricToken (goal : QuotaGoal) : TokenAttribute QuotaGoalMetric where
  directory := goal.path
  name := "target_metric"
  fromStr := QuotaGoalMetric.fromStr
  kernelName := QuotaGoalMetric.kernelName
  set := goal.setMetric
  get := goal.metric

def SchemeQuotas.goalTunerToken (quotas : SchemeQuotas) : TokenAttribute QuotaGoalTuner where
  directory := quotas.path
  name := "goal_tuner"
  fromStr := QuotaGoalTuner.fromStr
  kernelName := QuotaGoalTuner.kernelName
  set := quotas.setGoalTuner
  get := quotas.goalTuner

namespace TokenAttribute

/-- The attributes of the hierarchy that hold a token. -/
inductive InHierarchy : {α : Type} → TokenAttribute α → Prop
  | operation (context : Context) : InHierarchy context.operationToken
  | action (scheme : Scheme) : InHierarchy scheme.actionToken
  | probeFilter (filter : ProbeFilter) : InHierarchy filter.typeToken
  | schemeFilter (filter : SchemeFilter) : InHierarchy filter.typeToken
  | preparation (preparation : ProbePreparation) : InHierarchy preparation.actionToken
  | sampleFilter (filter : SampleFilter) : InHierarchy filter.typeToken
  | watermarks (watermarks : SchemeWatermarks) : InHierarchy watermarks.metricToken
  | goal (goal : QuotaGoal) : InHierarchy goal.metricToken
  | tuner (quotas : SchemeQuotas) : InHierarchy quotas.goalTunerToken

variable {α : Type} {file : TokenAttribute α}

def path (file : TokenAttribute α) : Path := file.directory ++ [file.name]

/-- What all these attributes have in common. -/
structure Uniform (file : TokenAttribute α) (field checked : String) (parse : String → α) :
    Prop where
  accepts : file.fromStr = parseToken field parse
  names : ∀ value, file.kernelName (parse value) = value
  writes : ∀ token, file.set token =
    writeToken checked file.path (file.kernelName token)
  reads : file.get = readEnum file.path parse
  stored : isStoredName file.name = true

theorem InHierarchy.uniform (inside : file.InHierarchy) :
    ∃ field checked parse, Uniform file field checked parse := by
  cases inside with
  | operation context =>
      exact ⟨_, _, _, rfl, Operation.kernelName_parse, fun _ => rfl, rfl, (by decide : isStoredName "operations" = true)⟩
  | action scheme =>
      exact ⟨_, _, _, rfl, kernelName_parseKernelName fun _ => rfl, fun _ => rfl, rfl, (by decide : isStoredName "action" = true)⟩
  | probeFilter filter =>
      exact ⟨_, _, _, rfl, kernelName_parseKernelName fun _ => rfl, fun _ => rfl, rfl, (by decide : isStoredName "type" = true)⟩
  | schemeFilter filter =>
      exact ⟨_, _, _, rfl, kernelName_parseKernelName fun _ => rfl, fun _ => rfl, rfl, (by decide : isStoredName "type" = true)⟩
  | preparation preparation =>
      exact ⟨_, _, _, rfl, kernelName_parseKernelName fun _ => rfl, fun _ => rfl, rfl, (by decide : isStoredName "prep_action" = true)⟩
  | sampleFilter filter =>
      exact ⟨_, _, _, rfl, kernelName_parseKernelName fun _ => rfl, fun _ => rfl, rfl, (by decide : isStoredName "type" = true)⟩
  | watermarks watermarks =>
      exact ⟨_, _, _, rfl, kernelName_parseKernelName fun _ => rfl, fun _ => rfl, rfl, (by decide : isStoredName "metric" = true)⟩
  | goal goal =>
      exact ⟨_, _, _, rfl, kernelName_parseKernelName fun _ => rfl, fun _ => rfl, rfl, (by decide : isStoredName "target_metric" = true)⟩
  | tuner quotas =>
      exact ⟨_, _, _, rfl, kernelName_parseKernelName fun _ => rfl, fun _ => rfl, rfl, (by decide : isStoredName "goal_tuner" = true)⟩

end TokenAttribute

/-- An attribute that may be written takes over what is written. -/
theorem System.write_accepted {kernel : Kernel} {pid : Pid} {sys : System} {directory : Path}
    {name value : String} {content : Content} (stored : isStoredName name = true)
    (found : sys.files.get? (directory ++ [name]) = some ⟨content, true⟩) :
    ∃ after, sys.write kernel pid (directory ++ [name]) value = .ok after := by
  obtain ⟨noCommand, noCount⟩ := isStoredName_path stored directory
  unfold write
  simp only [found, noCommand, noCount]
  exact ⟨_, rfl⟩

namespace TokenAttribute

variable {α : Type} {file : TokenAttribute α}

/-- A write without a failure is accepted. -/
theorem writes_leaf {kernel : Kernel} {env : Env} (quiet : env.Quiet kernel) {world : World}
    {directory : Path} {name value : String} {content : Content} (stored : isStoredName name = true)
    (found : world.sys.files.get? (directory ++ [name]) = some ⟨content, true⟩) :
    ∃ after, writeBytes (directory ++ [name]) value env world = (.ok (), after) := by
  have accepts : ∃ after, System.write env.kernel (env.freshPid world.clock) world.sys
      (directory ++ [name]) value = .ok after := System.write_accepted stored found
  obtain ⟨after, written⟩ := accepts
  have served : env.serve world (.write (directory ++ [name]) value) = (.done, after) := by
    unfold Env.serve
    rw [quiet.still, quiet.reliable]
    dsimp only [Env.respond]
    rw [written]
  unfold writeBytes
  rw [Exec.bind_run, perform_run, served]
  exact ⟨_, rfl⟩

/-- An accepted token is named like the text it was given as.  Written and read back it is the same
token exactly when neither end of the text is white space. -/
theorem roundTrip_iff (inside : file.InHierarchy) {value : String} {token : α}
    (accepted : file.fromStr value = .ok token) {kernel : Kernel} {env : Env}
    (quiet : env.Quiet kernel) {world : World} {content : Content}
    (found : world.sys.files.get? file.path = some ⟨content, true⟩) :
    (file.kernelName token = value ∧ ∃ middle after, file.set token env world = (.ok (), middle) ∧
      file.get env middle = (.ok token, after)) ↔ Text.Trimmed value := by
  obtain ⟨field, checked, parse, uniform⟩ := inside.uniform
  rw [uniform.accepts, parseToken_eq_ok_iff] at accepted
  obtain ⟨valid, rfl⟩ := accepted
  have single := validateToken_single valid
  have written : ∃ after, writeBytes file.path value env world = (.ok (), after) :=
    writes_leaf quiet uniform.stored found
  obtain ⟨middle, written⟩ := written
  have sets : file.set (parse value) env world = (.ok (), middle) := by
    rw [uniform.writes, uniform.names]
    unfold writeToken
    rw [validateToken_field valid]
    exact written
  obtain ⟨-, leaf⟩ := Stores.write quiet.solitary uniform.stored value world middle written
  have observes : Observes env middle.sys (readEnum file.path parse)
      (parse (Text.trim (value ++ "\n"))) := by
    refine (Observes.leaf quiet.solitary leaf).bind ?_
    exact .pure _
  obtain ⟨ended, reads, -⟩ := observes middle rfl
  have gets : file.get env middle = (.ok (parse (Text.trim (value ++ "\n"))), ended) := by
    rw [uniform.reads]
    exact reads
  rw [← Text.trim_newline_eq_iff]
  constructor
  · rintro ⟨-, other, after, also, read⟩
    rw [sets] at also
    cases also
    rw [gets] at read
    have same := congrArg file.kernelName (Except.ok.inj (Prod.ext_iff.mp read).1)
    rwa [uniform.names, uniform.names] at same
  · intro same
    refine ⟨uniform.names value, middle, ended, sets, ?_⟩
    rw [gets, same]

end TokenAttribute

namespace TokenFixture

def context : Context := (DamonAdmin.kdamond 0).context 0

def world : World := .initial (.settled (.ofAttributes
  [(["kdamonds", "0", "contexts", "0", "operations"], "paddr", true)]))

end TokenFixture

open TokenFixture in
theorem TokenAttribute.roundTrip_vaddr :
    context.operationToken.kernelName .virtualAddress = "vaddr" ∧
      ∃ middle after,
        context.operationToken.set .virtualAddress (.undisturbed .bare) world = (.ok (), middle) ∧
        context.operationToken.get (.undisturbed .bare) middle = (.ok .virtualAddress, after) := by
  have found : world.sys.files.get? context.operationToken.path =
      some ⟨.text (.ofWritten "paddr"), true⟩ := by
    decide +kernel
  exact (TokenAttribute.roundTrip_iff (.operation context) (by decide +kernel)
    (Env.undisturbed_quiet .bare) found).mpr (.of_ends (by decide) (by decide))

open TokenFixture in
/-- A vertical tab is accepted, and lost when the token is read back. -/
theorem Operation.fromStr_verticalTab :
    Operation.fromStr "\x0bvaddr" = .ok (.unknown "\x0bvaddr") ∧
      (context.setOperation (.unknown "\x0bvaddr") (.undisturbed .bare) world).1 = .ok () ∧
      (context.operation (.undisturbed .bare) (context.setOperation (.unknown "\x0bvaddr")
        (.undisturbed .bare) world).2).1 = .ok .virtualAddress := by
  refine ⟨?_, ?_, ?_⟩
  · decide +kernel
  · decide +kernel
  · decide +kernel

end DamonRs
