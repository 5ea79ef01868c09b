import DamonRs.Library.Collect
import DamonRs.Monitor.SelectedUpdate
import DamonRs.Sysfs.Written

/-!
# The intervals of updated contexts

The intervals of a context are staged only if an earlier read showed other
ones, and the read-back of a context that was tuned is not compared with the
request.  So the first commit activates the requested intervals exactly when
the last change to each of them is not one that tunes it away.
-/

namespace DamonRs

open Library Sysfs
open ManagedHierarchy (Anything)

/-! ## Paths left alone -/

/-- A write below a directory leaves alone what does not lie below it. -/
theorem Path.LeavesAlone.of_below {directory suffix other : Path} (nonempty : suffix ≠ [])
    (outside : ¬directory <+: other) : Path.LeavesAlone (directory ++ suffix) other := by
  refine ⟨fun same => outside ⟨suffix, same.symm⟩, fun _ => ?_⟩
  rw [List.dropLast_append_of_ne_nil nonempty]
  cases child : indexedChild? (directory ++ suffix.dropLast) other with
  | none => rfl
  | some found => exact absurd ((List.prefix_append _ _).trans (indexedChild?_below child)) outside

/-- A write of a leaf leaves every other attribute alone. -/
theorem Path.LeavesAlone.of_leaf {path other : Path} (different : other ≠ path)
    (leaf : Path.isReconstructionCount path = false) : Path.LeavesAlone path other :=
  ⟨different, fun isCount => absurd (leaf.symm.trans isCount) (by simp)⟩

namespace Access

/-- Accesses that leave a list of attributes alone. -/
def SparesAll (kept : List Path) (access : Access) : Prop := ∀ path ∈ kept, access.Spares path

variable {kept : List Path}

theorem SparesAll.of_reads {access : Access} (reads : ReadsOnly access) :
    access.SparesAll kept := fun _ _ => .of_reads reads

/-- An accepted write keeps the attributes that it leaves alone. -/
theorem SparesAll.write_other {path : Path} {value : String}
    (spares : (Access.write path value).SparesAll kept)
    (configuration : ∀ other ∈ kept, Path.isRuntimeAttribute other = false) {kernel : Kernel}
    {pid : Pid} {sys after : System} (written : sys.write kernel pid path value = .ok after) :
    ∀ other ∈ kept, after.files.get? other = sys.files.get? other := fun other member =>
  System.write_other written (spares other member).1 (configuration other member)
    (spares other member).2

end Access

section Below

variable {kept : List Path} {directory : Path}

theorem sparesAll_below (outside : ∀ other ∈ kept, ¬directory <+: other) :
    StagesBelow (Access.SparesAll kept) directory where
  reads := fun _ _ _ _ => trivial
  writes := fun _ _ nonempty _ _ other member => .of_below nonempty (outside other member)
  counts := by
    intro suffix name count value _ _ _ other member
    rw [List.append_assoc]
    exact .of_below (by simp) (outside other member)
  limits := by
    intro suffix value _ other member
    rw [List.append_assoc]
    exact .of_below (by simp) (outside other member)

end Below

/-! ## The intervals of a context -/

namespace Context

/-- The interval leaves of a context with the numbers they are requested to show. -/
def requestedLeaves (context : Context) (intervals : MonitoringIntervals) : List (Path × Nat) :=
  [(context.intervalsPath ++ ["sample_us"], intervals.sampleUs.toNat),
    (context.intervalsPath ++ ["aggr_us"], intervals.aggregationUs.toNat)]

variable {context : Context} {intervals : MonitoringIntervals} {leaf : Path × Nat}

theorem requestedLeaves_bounded (member : leaf ∈ context.requestedLeaves intervals) :
    leaf.2 < u64Bound := by
  simp only [requestedLeaves, List.mem_cons, List.not_mem_nil, or_false] at member
  rcases member with rfl | rfl
  · exact intervals.sampleUs.toNat_lt
  · exact intervals.aggregationUs.toNat_lt

/-- An interval leaf lies below its context. -/
theorem requestedLeaves_inner (member : leaf ∈ context.requestedLeaves intervals) :
    ∃ inner ∈ intervalLeaves, leaf.1 = context.path ++ inner := by
  simp only [requestedLeaves, intervalsPath, List.append_assoc, List.mem_cons, List.not_mem_nil,
    or_false] at member
  rcases member with rfl | rfl
  · exact ⟨_, List.mem_cons_self .., rfl⟩
  · exact ⟨_, List.mem_cons_of_mem _ (List.mem_cons_self ..), rfl⟩

theorem intervalLeaves_unindexed {inner : Path} (member : inner ∈ intervalLeaves) :
    ∀ name ∈ inner, Path.nameIndex? name = none := by
  simp only [intervalLeaves, List.mem_cons, List.not_mem_nil, or_false] at member
  rcases member with rfl | rfl <;> decide

end Context

namespace Kdamond

/-- Interval leaves of the hierarchy are configuration and no counts. -/
theorem context_requestedLeaves {kdamond index : Nat} {intervals : MonitoringIntervals}
    {leaf : Path × Nat}
    (member : leaf ∈ ((DamonAdmin.kdamond kdamond).context index).requestedLeaves intervals) :
    Path.isRuntimeAttribute leaf.1 = false ∧ Path.isReconstructionCount leaf.1 = false := by
  obtain ⟨inner, isLeaf, same⟩ := Context.requestedLeaves_inner member
  have shape : inner ≠ [] ∧ inner.all Path.isPlainName = true ∧
      Path.isReconstructionCount inner = false := by
    simp only [Context.intervalLeaves, List.mem_cons, List.not_mem_nil, or_false] at isLeaf
    rcases isLeaf with rfl | rfl <;> decide
  have regions : ∀ index, "tried_regions" ≠ Path.indexName index := Path.indexName_ne rfl
  have stats : ∀ index, Path.indexName index ≠ "stats" := fun index =>
    (Path.indexName_ne rfl index).symm
  rw [same, Path.isReconstructionCount_append shape.1]
  refine ⟨Path.isRuntimeAttribute_append shape.1 ?_ ?_ shape.2.1, shape.2.2⟩
  · simp [context, DamonAdmin.kdamond, regions]
  · simp [context, DamonAdmin.kdamond, stats]

end Kdamond

/-- Staging a context spares the interval leaves that it finds as requested, and what lies
elsewhere. -/
theorem Context.stages_sparesAll {context : Context} {config : ContextConfig}
    {observed : Option ContextConfig} {kept : List Path}
    (outside : ∀ other ∈ kept, ¬context.path <+: other ∨
      ∃ inner ∈ intervalLeaves, other = context.path ++ inner)
    (unchanged : observed.map ContextConfig.intervals = some config.intervals) :
    StagesContext (Access.SparesAll kept) context config observed where
  reads := fun _ _ _ _ => trivial
  writes := by
    intro suffix value nonempty _ noCount apart other member
    rcases outside other member with elsewhere | ⟨inner, isLeaf, rfl⟩
    · exact .of_below nonempty elsewhere
    · refine .of_leaf (fun same => ?_) ((Path.isReconstructionCount_append nonempty).trans noCount)
      rw [List.append_cancel_left_eq] at same
      exact apart (same ▸ isLeaf)
  counts := by
    intro suffix name count value _ _ _ apart other member
    rw [List.append_assoc]
    rcases outside other member with elsewhere | ⟨inner, isLeaf, rfl⟩
    · exact .of_below (by simp) elsewhere
    · refine ⟨fun same => ?_, fun _ => ?_⟩
      · rw [List.append_cancel_left_eq] at same
        exact apart (same ▸ isLeaf)
      · rw [List.dropLast_append_of_ne_nil (by simp),
          indexedChild?_eq_none (intervalLeaves_unindexed isLeaf)]
        rfl
  limits := by
    intro suffix value _ other member
    rw [List.append_assoc]
    rcases outside other member with elsewhere | ⟨inner, isLeaf, rfl⟩
    · exact .of_below (by simp) elsewhere
    · refine .of_leaf (fun same => ?_) ?_
      · rw [List.append_cancel_left_eq] at same
        have lasts := congrArg List.getLast? same
        simp only [intervalLeaves, List.mem_cons, List.not_mem_nil, or_false] at isLeaf
        rcases isLeaf with rfl | rfl <;> simp at lasts
      · rw [Path.isReconstructionCount_append (by simp),
          Path.isReconstructionCount_append (by simp)]
        rfl
  intervals := fun changed => absurd unchanged changed

/-! ## Leaves that settle -/

/-- A leaf shows a number. -/
def System.ShowsLeaf (leaf : Path × Nat) (sys : System) : Prop :=
  Content.Numbers (sys.files.get? leaf.1) leaf.2

/-- A leaf shows a number, and nothing that the update does concerns it until later. -/
structure SettledLeaf (env : Env) (leaf : Path × Nat) (settled later : World) : Prop where
  shows : System.ShowsLeaf leaf settled.sys
  advances : World.Advances env settled later
  spares : World.Since (Access.Spares leaf.1) settled later

namespace SettledLeaf

variable {env : Env} {leaf : Path × Nat}

/-- A leaf that is read or written stays settled until it is accessed again. -/
theorem of_reaches {settled later : World} (shows : System.ShowsLeaf leaf settled.sys)
    (reaches : World.Reaches (Access.Spares leaf.1) env settled later) :
    SettledLeaf env leaf settled later :=
  ⟨shows, reaches.advances, reaches.since fun _ => trivial⟩

theorem then_run {settled middle later : World} (first : SettledLeaf env leaf settled middle)
    (reaches : World.Reaches (Access.Spares leaf.1) env middle later) :
    SettledLeaf env leaf settled later :=
  ⟨first.shows, first.advances.trans reaches.advances,
    first.spares.trans (reaches.since fun _ => trivial)⟩

end SettledLeaf

/-- The last that happens to a leaf is that the kernel tunes it away from a number. -/
def TunedAway (leaf : Path × Nat) (moments : List Moment) : Prop :=
  ∃ earlier tuned later, moments = earlier ++ tuned :: later ∧
    ¬tuned.Keeps id leaf.1 ∧ ¬System.ShowsLeaf leaf tuned.system ∧ tuned.Spares leaf.1 ∧
    ∀ moment ∈ later, moment.Keeps id leaf.1 ∧ moment.Spares leaf.1

section LastChange

variable {env : Env} {leaf : Path × Nat} {before after : World}

/-- A leaf is as the last change has left it. -/
theorem World.Advances.last_change (advances : World.Advances env before after)
    (configuration : Path.isRuntimeAttribute leaf.1 = false) {earlier later : List Moment}
    {changed : Moment} (cut : World.history env before after = earlier ++ changed :: later)
    (spared : changed.Spares leaf.1)
    (kept : ∀ moment ∈ later, moment.Keeps id leaf.1 ∧ moment.Spares leaf.1) :
    after.sys.files.get? leaf.1 = changed.system.files.get? leaf.1 := by
  obtain ⟨middle, -, -, here, follows, rfl⟩ := advances.split cut
  have stays : id (after.sys.files.get? leaf.1) =
      id ((env.advance middle changed.access).sys.files.get? leaf.1) :=
    follows.keeps configuration (fun moment member => (kept moment member).2)
      fun moment member => (kept moment member).1
  rw [here] at spared
  calc after.sys.files.get? leaf.1
      = (env.advance middle changed.access).sys.files.get? leaf.1 := stays
    _ = (env.moment middle changed.access).system.files.get? leaf.1 :=
        env.advance_spared configuration spared
    _ = changed.system.files.get? leaf.1 := by rw [← here]

/-- A settled leaf shows its number later, unless it is tuned away. -/
theorem SettledLeaf.shows_iff {first : World} (settles : SettledLeaf env leaf before after)
    (configuration : Path.isRuntimeAttribute leaf.1 = false)
    (starts : World.Advances env first before) :
    System.ShowsLeaf leaf after.sys ↔ ¬TunedAway leaf (World.history env first after) := by
  have whole := starts.trans settles.advances
  constructor
  · rintro shows ⟨earlier, tuned, later, cut, -, away, spared, kept⟩
    rw [System.ShowsLeaf, whole.last_change configuration cut spared kept] at shows
    exact away shows
  · intro stays
    have spares : ∀ moment ∈ World.history env before after, moment.Spares leaf.1 :=
      fun moment member => .of_access (settles.advances.history_accesses settles.spares moment member)
    by_cases calm : ∀ moment ∈ World.history env before after, moment.Keeps id leaf.1
    · have same : id (after.sys.files.get? leaf.1) = id (before.sys.files.get? leaf.1) :=
        settles.advances.keeps configuration spares calm
      rw [System.ShowsLeaf, show after.sys.files.get? leaf.1 = before.sys.files.get? leaf.1 from same]
      exact settles.shows
    · obtain ⟨earlier, tuned, later, cut, changes, kept⟩ := exists_last_not calm
      have spared := spares tuned (by simp [cut])
      have keeps : ∀ moment ∈ later, moment.Keeps id leaf.1 ∧ moment.Spares leaf.1 :=
        fun moment member => ⟨kept moment member, spares moment (by simp [cut, member])⟩
      rw [System.ShowsLeaf, settles.advances.last_change configuration cut spared keeps]
      by_contra away
      refine stays ⟨World.history env first before ++ earlier, tuned, later, ?_, changes, away,
        spared, keeps⟩
      rw [starts.history_append settles.advances, cut, List.append_assoc]

end LastChange

/-! ## The typed read -/

section Reads

variable {env : Env} {before after : World}

/-- The interval leaves show what the typed read returns. -/
theorem Context.intervals_ok {context : Context} {intervals : MonitoringIntervals}
    (run : context.intervals env before = (.ok intervals, after)) {leaf : Path × Nat}
    (member : leaf ∈ context.requestedLeaves intervals) :
    ∃ settled, World.Reaches ReadsOnly env before settled ∧ System.ShowsLeaf leaf settled.sys ∧
      World.Reaches ReadsOnly env settled after := by
  have number : ∀ path : Path, Confined ReadsOnly (readU64 path) := fun _ =>
    readU64_confined trivial
  obtain ⟨sample, sampled, one, readSample, run⟩ := World.Reaches.of_reading (number _) run
  obtain ⟨aggregation, aggregated, two, readAggregation, run⟩ :=
    World.Reaches.of_reading (number _) run
  obtain ⟨update, updated, three, -, made⟩ := World.Reaches.of_reading (number _) run
  rw [MonitoringIntervals.new_ofMicros, MonitoringIntervals.ofMicros] at made
  split at made
  · cases made
    simp only [requestedLeaves, List.mem_cons, List.not_mem_nil, or_false] at member
    rcases member with rfl | rfl
    · exact ⟨sampled, one, (readU64_ok readSample).2, two.trans three⟩
    · exact ⟨aggregated, one.trans two, (readU64_ok readAggregation).2, three⟩
  · cases made

theorem Context.configuration_intervals {context : Context} {config : ContextConfig}
    (run : context.configuration env before = (.ok config, after)) :
    ∃ reading read, World.Reaches ReadsOnly env before reading ∧
      context.intervals env reading = (.ok config.intervals, read) ∧
      World.Reaches ReadsOnly env read after := by
  have below : ∀ directory : Path, ReadsBelow ReadsOnly directory := fun _ _ _ => trivial
  obtain ⟨_, _, first, -, run⟩ := World.Reaches.of_reading (readUsize_confined trivial) run
  obtain ⟨_, _, second, -, run⟩ := World.Reaches.of_reading (readIndexed_confined fun _ =>
    Target.configuration_confined (below _)) run
  obtain ⟨_, _, third, -, run⟩ := World.Reaches.of_reading (readUsize_confined trivial) run
  obtain ⟨_, _, fourth, -, run⟩ := World.Reaches.of_reading (readIndexed_confined fun _ =>
    Scheme.configuration_confined (below _)) run
  obtain ⟨_, _, fifth, -, run⟩ := World.Reaches.of_reading (readCounted_confined trivial fun _ =>
    Probe.configuration_confined (below _)) run
  obtain ⟨_, _, sixth, -, run⟩ := World.Reaches.of_reading (readEnum_confined trivial _) run
  obtain ⟨_, _, seventh, -, run⟩ := World.Reaches.of_reading
    (optionalReadOr_confined (addressUnit_confined (below _))) run
  obtain ⟨_, _, eighth, -, run⟩ := World.Reaches.of_reading
    (optionalReadOr_confined (readBool_confined trivial)) run
  obtain ⟨_, reading, ninth, -, run⟩ := World.Reaches.of_reading (readDirectoryOr_confined
    (OperationAttributes.configuration_confined (below _))) run
  obtain ⟨intervals, read, intervalsRead, run⟩ := Exec.bind_eq_ok run
  obtain ⟨_, _, tenth, -, run⟩ := World.Reaches.of_reading
    (optionalReadOr_confined (intervalsGoal_confined (below _))) run
  obtain ⟨_, _, eleventh, -, run⟩ := World.Reaches.of_reading (regionBounds_confined (below _)) run
  obtain ⟨_, _, twelfth, -, made⟩ := World.Reaches.of_reading (readDirectoryOr_confined
    (SampleControl.configuration_confined (below _))) run
  cases made
  refine ⟨reading, read, ?_, intervalsRead, (tenth.trans eleventh).trans twelfth⟩
  exact ((((((((first.trans second).trans third).trans fourth).trans fifth).trans sixth).trans
    seventh).trans eighth).trans ninth)

/-- The typed read of a kdamond within that of the hierarchy. -/
theorem DamonAdmin.configuration_kdamond {config : DamonConfig} {i : Nat} {kdamond : KdamondConfig}
    (run : DamonAdmin.configuration env before = (.ok config, after))
    (hit : config.kdamonds[i]? = some kdamond) :
    ∃ reading read, World.Reaches ReadsOnly env before reading ∧
      (DamonAdmin.kdamond i).configuration env reading = (.ok kdamond, read) ∧
      World.Reaches ReadsOnly env read after := by
  have each : ∀ index, Confined ReadsOnly (DamonAdmin.kdamond index).configuration := fun index =>
    Kdamond.configuration_confined trivial fun _ _ => trivial
  obtain ⟨count, counted, counts, -, run⟩ :=
    World.Reaches.of_reading (readUsize_confined trivial) run
  obtain ⟨kdamonds, _, mapped, made⟩ := Exec.bind_eq_ok run
  cases made
  obtain ⟨index, start, done, at', starts, ran, finishes⟩ := World.Reaches.of_mapEach
    (fun index _ => each index) mapped hit
  obtain rfl : i = index := by
    have found := List.getElem?_eq_some_iff.mp at'
    simpa using found.2
  exact ⟨start, done, counts.trans starts, ran, finishes⟩

/-- The typed read of a context within that of its kdamond, after the count of contexts. -/
theorem Kdamond.configuration_context {kdamond : Kdamond} {config : KdamondConfig} {j : Nat}
    {context : ContextConfig} (run : kdamond.configuration env before = (.ok config, after))
    (hit : config.contexts[j]? = some context) :
    ∃ counted reading read, World.Reaches ReadsOnly env before counted ∧
      Content.Numbers (counted.sys.files.get? (kdamond.path ++ ["contexts", "nr_contexts"]))
        config.contexts.length ∧
      World.Reaches ReadsOnly env counted reading ∧
      (kdamond.context j).configuration env reading = (.ok context, read) ∧
      World.Reaches ReadsOnly env read after := by
  have each : ∀ index, Confined ReadsOnly (kdamond.context index).configuration := fun index =>
    Context.configuration_confined fun _ _ => trivial
  obtain ⟨_, _, refresh, -, run⟩ := World.Reaches.of_reading
    (optionalReadOr_confined (readU32_confined trivial).map) run
  obtain ⟨count, counted, counts, counting, run⟩ :=
    World.Reaches.of_reading (readUsize_confined trivial) run
  obtain ⟨contexts, _, mapped, made⟩ := Exec.bind_eq_ok run
  cases made
  obtain ⟨index, start, done, at', starts, ran, finishes⟩ := World.Reaches.of_mapEach
    (fun index _ => each index) mapped hit
  obtain rfl : j = index := by
    have found := List.getElem?_eq_some_iff.mp at'
    simpa using found.2
  refine ⟨counted, start, done, refresh.trans counts, ?_, starts, ran, finishes⟩
  rw [Exec.mapEach_length mapped, List.length_range]
  exact (readUsize_ok counting).2

end Reads

/-! ## Observed as requested -/

theorem comparable_getElem? {α : Type} {observed requested : List α}
    (lengths : observed.length = requested.length) (i : Nat) :
    ((comparable (some observed) requested).bind fun values => values[i]?) = observed[i]? := by
  simp [comparable, Option.filter, lengths]

/-- The children found next to a request are as many as requested. -/
theorem comparable_some {α : Type} {observed : Option (List α)} {requested : List α} {i : Nat}
    {value : α}
    (found : ((comparable observed requested).bind fun values => values[i]?) = some value) :
    ∃ values, observed = some values ∧ values.length = requested.length ∧
      values[i]? = some value := by
  obtain ⟨values, isComparable, hit⟩ := Option.bind_eq_some_iff.mp found
  obtain ⟨isObserved, lengths⟩ := Option.filter_eq_some_iff.mp isComparable
  exact ⟨values, isObserved, by simpa using lengths, hit⟩

/-- The counts above a context and one of its interval leaves. -/
def Kdamond.keptPaths (kdamond : Kdamond) (leaf : Path × Nat) : List Path :=
  [DamonAdmin.countPath, kdamond.path ++ ["contexts", "nr_contexts"], leaf.1]

section Kept

variable {i j : Nat} {intervals : MonitoringIntervals} {leaf : Path × Nat}

/-- Nothing that is kept lies below another kdamond. -/
theorem DamonAdmin.keptPaths_outside
    (member : leaf ∈ ((DamonAdmin.kdamond i).context j).requestedLeaves intervals) {other : Nat}
    (different : other ≠ i) :
    ∀ path ∈ (DamonAdmin.kdamond i).keptPaths leaf, ¬(DamonAdmin.kdamond other).path <+: path := by
  obtain ⟨inner, -, same⟩ := Context.requestedLeaves_inner member
  have named : ∀ rest, ¬(DamonAdmin.kdamond other).path <+: (DamonAdmin.kdamond i).path ++ rest := by
    rintro rest ⟨suffix, joined⟩
    simp only [DamonAdmin.kdamond, List.cons_append, List.nil_append, List.cons.injEq,
      true_and] at joined
    exact different (Path.indexName_injective joined.1)
  intro path kept
  simp only [Kdamond.keptPaths, List.mem_cons, List.not_mem_nil, or_false] at kept
  rcases kept with rfl | rfl | rfl
  · rintro ⟨suffix, joined⟩
    simp only [DamonAdmin.kdamond, DamonAdmin.countPath, List.cons_append, List.nil_append,
      List.cons.injEq, true_and] at joined
    have isCount := Path.isCountName_indexName other
    rw [joined.1] at isCount
    cases isCount
  · exact named _
  · rw [same]
    simpa only [Kdamond.context, List.append_assoc] using named _

/-- Of what is kept only the leaf lies below a context, and only below its own. -/
theorem Kdamond.keptPaths_outside
    (member : leaf ∈ ((DamonAdmin.kdamond i).context j).requestedLeaves intervals) (other : Nat) :
    ∀ path ∈ (DamonAdmin.kdamond i).keptPaths leaf,
      ¬((DamonAdmin.kdamond i).context other).path <+: path ∨ other = j ∧
        ∃ inner ∈ Context.intervalLeaves,
          path = ((DamonAdmin.kdamond i).context other).path ++ inner := by
  obtain ⟨inner, isLeaf, same⟩ := Context.requestedLeaves_inner member
  intro path kept
  simp only [Kdamond.keptPaths, List.mem_cons, List.not_mem_nil, or_false] at kept
  rcases kept with rfl | rfl | rfl
  · left
    rintro ⟨suffix, joined⟩
    have lengths := congrArg List.length joined
    simp only [Kdamond.context, DamonAdmin.kdamond, DamonAdmin.countPath, List.length_append,
      List.length_cons, List.length_nil] at lengths
    omega
  · left
    rintro ⟨suffix, joined⟩
    simp only [Kdamond.context, DamonAdmin.kdamond, List.cons_append, List.nil_append,
      List.cons.injEq, true_and] at joined
    have isCount := Path.isCountName_indexName other
    rw [joined.1] at isCount
    cases isCount
  · by_cases own : other = j
    · subst own
      exact .inr ⟨rfl, inner, isLeaf, same⟩
    · left
      rw [same]
      rintro ⟨suffix, joined⟩
      simp only [Kdamond.context, DamonAdmin.kdamond, List.cons_append, List.nil_append,
        List.cons.injEq, true_and] at joined
      exact own (Path.indexName_injective joined.1)

/-- A context of a kdamond is staged without writing what is kept, unless it is the leaf's own
and was observed with other intervals. -/
theorem Kdamond.stagesContext_sparesAll
    (member : leaf ∈ ((DamonAdmin.kdamond i).context j).requestedLeaves intervals) {other : Nat}
    {config : ContextConfig} {observed : Option ContextConfig}
    (unchanged : other = j → observed.map ContextConfig.intervals = some config.intervals) :
    Confined (Access.SparesAll ((DamonAdmin.kdamond i).keptPaths leaf))
      (((DamonAdmin.kdamond i).context other).stageConfigurationFrom config observed) := by
  refine Context.stageConfigurationFrom_confined ?_
  by_cases own : other = j
  · refine Context.stages_sparesAll (fun path kept => ?_) (unchanged own)
    exact (Kdamond.keptPaths_outside member other path kept).imp id And.right
  · refine .ofBelow (sparesAll_below fun path kept => ?_)
    exact (Kdamond.keptPaths_outside member other path kept).resolve_right fun own' => own own'.1

/-- Another kdamond is staged without writing what is kept. -/
theorem DamonAdmin.stagesKdamond_sparesAll
    (member : leaf ∈ ((DamonAdmin.kdamond i).context j).requestedLeaves intervals) {other : Nat}
    (different : other ≠ i) (config : KdamondConfig) (observed : Option KdamondConfig) :
    Confined (Access.SparesAll ((DamonAdmin.kdamond i).keptPaths leaf))
      ((DamonAdmin.kdamond other).stageConfigurationFrom config observed) := by
  have below := sparesAll_below (DamonAdmin.keptPaths_outside member different)
  refine Kdamond.stageConfigurationFrom_confined fun _ => ⟨below.leaf "refresh_ms" rfl,
    below.reads _ _, below.count "contexts" "nr_contexts" rfl rfl, fun index context _ => ?_⟩
  exact .ofBelow (below.indexed "contexts" rfl index)

end Kept

/-- What is observed next to the request for a context. -/
def observedContext (observed : Option KdamondConfig) (request : KdamondConfig) (j : Nat) :
    Option ContextConfig :=
  (comparable (observed.map KdamondConfig.contexts) request.contexts).bind fun values => values[j]?

/-- What is observed next to the request for a kdamond. -/
def observedKdamond (observed config : DamonConfig) (i : Nat) : Option KdamondConfig :=
  (comparable (some observed.kdamonds) config.kdamonds).bind fun values => values[i]?

section Unchanged

variable {env : Env} {start : World} {holds : System → Prop} {i j : Nat} {leaf : Path × Nat}
  {config observed : DamonConfig} {request : KdamondConfig} {wanted : ContextConfig}

/-- While the counts last that were observed as requested, staging spares an interval leaf that
was observed as requested. -/
theorem DamonAdmin.stageConfigurationFrom_spares
    (member : leaf ∈ ((DamonAdmin.kdamond i).context j).requestedLeaves wanted.intervals)
    (atConfig : config.kdamonds[i]? = some request) (atRequest : request.contexts[j]? = some wanted)
    (unchanged : (observedContext (observedKdamond observed config i) request j).map
      ContextConfig.intervals = some wanted.intervals)
    (kdamonds : ∀ sys, holds sys →
      Content.Numbers (sys.files.get? DamonAdmin.countPath) config.kdamonds.length)
    (contexts : ∀ sys, holds sys → Content.Numbers
      (sys.files.get? ((DamonAdmin.kdamond i).path ++ ["contexts", "nr_contexts"]))
      request.contexts.length)
    (writes : ∀ path value,
      (Access.write path value).SparesAll ((DamonAdmin.kdamond i).keptPaths leaf) →
      ∀ kernel pid sys after, holds sys →
        System.write kernel pid sys path value = .ok after → holds after) :
    Exec.Triple env
      (World.Within (Access.SparesAll ((DamonAdmin.kdamond i).keptPaths leaf)) holds env start)
      (DamonAdmin.stageConfigurationFrom config (some observed)) fun _ =>
      World.Within (Access.SparesAll ((DamonAdmin.kdamond i).keptPaths leaf)) holds env start := by
  have inspects : ∀ path,
      Access.SparesAll ((DamonAdmin.kdamond i).keptPaths leaf) (.inspect path) :=
    fun _ _ _ => trivial
  have stays : ∀ world,
      World.Within (Access.SparesAll ((DamonAdmin.kdamond i).keptPaths leaf)) holds env start world →
      World.Within (Access.SparesAll ((DamonAdmin.kdamond i).keptPaths leaf)) holds env start
        world := fun _ within_ => within_
  -- the kdamond of the leaf: its contexts are not rebuilt, and the leaf's own was as requested
  have own : ∀ seen, observedKdamond observed config i = seen → Exec.Triple env
      (World.Within (Access.SparesAll ((DamonAdmin.kdamond i).keptPaths leaf)) holds env start)
      ((DamonAdmin.kdamond i).stageConfigurationFrom request seen) fun _ =>
      World.Within (Access.SparesAll ((DamonAdmin.kdamond i).keptPaths leaf)) holds env start := by
    rintro seen rfl
    unfold Kdamond.stageConfigurationFrom
    unfold stageWhen
    split
    · refine Exec.triple_seq ((Confined.within ?_ inspects writes) : _) (fun _ => ?_) stays
      · refine stageWhen_confined fun _ => stageOptionalDefault_confined
          (.bind (.ofExcept _) fun _ => writeValue_confined fun path kept => ?_)
        refine .of_leaf ?_ ?_
        · rintro rfl
          obtain ⟨inner, isLeaf, same⟩ := Context.requestedLeaves_inner member
          simp only [Kdamond.keptPaths, List.mem_cons, List.not_mem_nil, or_false] at kept
          rcases kept with kept | kept | kept
          · simp [DamonAdmin.kdamond, DamonAdmin.countPath] at kept
          · simp [DamonAdmin.kdamond] at kept
          · rw [same] at kept
            simp [Kdamond.context, DamonAdmin.kdamond] at kept
        · rw [Path.isReconstructionCount_append (by simp)]
          rfl
      · refine stageCounted_within inspects writes (fun _ _ => trivial) contexts
          fun other context hit => ?_
        refine (Kdamond.stagesContext_sparesAll member fun same => ?_).within inspects writes
        subst same
        cases atRequest.symm.trans hit
        exact unchanged
    · exact fun _ within_ => within_
  have counted : Exec.Triple env
      (World.Within (Access.SparesAll ((DamonAdmin.kdamond i).keptPaths leaf)) holds env start)
      (stageCounted DamonAdmin.countPath config.kdamonds
        ((some observed).map DamonConfig.kdamonds)
        fun index kdamond => (DamonAdmin.kdamond index).stageConfigurationFrom kdamond)
      fun _ =>
      World.Within (Access.SparesAll ((DamonAdmin.kdamond i).keptPaths leaf)) holds env start := by
    refine stageCounted_within inspects writes (fun _ _ => trivial) kdamonds fun other kdamond hit => ?_
    by_cases same : other = i
    · subst same
      cases atConfig.symm.trans hit
      exact own _ rfl
    · exact (DamonAdmin.stagesKdamond_sparesAll member same _ _).within inspects writes
  unfold DamonAdmin.stageConfigurationFrom stageWhen
  split
  · exact counted
  · exact fun _ within_ => within_

end Unchanged

/-! ## Observed otherwise -/

theorem anything_below (directory : Path) : StagesBelow Anything directory where
  reads := fun _ _ => trivial
  writes := fun _ _ _ _ _ => trivial
  counts := fun _ _ _ _ _ _ _ => trivial
  limits := fun _ _ _ => trivial

/-- A leaf shows a number at some point of a run, and is left alone from there on. -/
def SettlesWithin (env : Env) (leaf : Path × Nat) (before after : World) : Prop :=
  ∃ settled, World.Reaches Anything env before settled ∧ System.ShowsLeaf leaf settled.sys ∧
    World.Reaches (Access.Spares leaf.1) env settled after

namespace SettlesWithin

variable {env : Env} {leaf : Path × Nat}

theorem after_run {first before after : World} (reaches : World.Reaches Anything env first before)
    (settles : SettlesWithin env leaf before after) : SettlesWithin env leaf first after := by
  obtain ⟨settled, starts, shows, ends⟩ := settles
  exact ⟨settled, reaches.trans starts, shows, ends⟩

theorem then_run {before after last : World} (settles : SettlesWithin env leaf before after)
    (reaches : World.Reaches (Access.Spares leaf.1) env after last) :
    SettlesWithin env leaf before last := by
  obtain ⟨settled, starts, shows, ends⟩ := settles
  exact ⟨settled, starts, shows, ends.trans reaches⟩

end SettlesWithin

/-- A number that is written settles. -/
theorem writeValue_shows {env : Env} {leaf : Path × Nat} {before after : World}
    (run : writeValue leaf.1 leaf.2 env before = (.ok (), after)) (bounded : leaf.2 < u64Bound)
    (kind : Path.isRuntimeAttribute leaf.1 = false ∧ Path.isReconstructionCount leaf.1 = false) :
    System.ShowsLeaf leaf after.sys :=
  ⟨_, writeBytes_stores run kind.1 kind.2, Content.unsigned?_ofWritten bounded⟩

section Changed

variable {env : Env} {before after : World} {i j : Nat} {leaf : Path × Nat}
  {wanted : ContextConfig}

/-- The intervals are written one after the other, and settle. -/
theorem Context.setIntervals_settles
    (member : leaf ∈ ((DamonAdmin.kdamond i).context j).requestedLeaves wanted.intervals)
    (run : ((DamonAdmin.kdamond i).context j).setIntervals wanted.intervals env before =
      (.ok (), after)) : SettlesWithin env leaf before after := by
  have kind := Kdamond.context_requestedLeaves member
  have bounded := requestedLeaves_bounded member
  have anything : ∀ (path : Path) (value : Nat), Confined Anything (writeValue path value) :=
    fun _ _ => writeValue_confined trivial
  have sparing : ∀ (name : String) (value : Nat),
      leaf.1 ≠ ((DamonAdmin.kdamond i).context j).intervalsPath ++ [name] →
      Path.isCountName name = false → Confined (Access.Spares leaf.1)
        (writeValue (((DamonAdmin.kdamond i).context j).intervalsPath ++ [name]) value) :=
    fun name value different noCount => writeValue_confined (.of_leaf different (by
      rw [Path.isReconstructionCount_append (by simp)]
      exact noCount))
  obtain ⟨_, sampled, sample, run⟩ := Exec.bind_eq_ok run
  obtain ⟨_, aggregated, aggregation, update⟩ := Exec.bind_eq_ok run
  simp only [requestedLeaves, List.mem_cons, List.not_mem_nil, or_false] at member
  rcases member with rfl | rfl
  · refine ⟨sampled, .of_run (anything _ _) sample, writeValue_shows sample bounded kind, ?_⟩
    exact .trans (.of_run (sparing "aggr_us" _ (by simp) (by decide)) aggregation)
      (.of_run (sparing "update_us" _ (by simp) (by decide)) update)
  · refine ⟨aggregated, .trans (.of_run (anything _ _) sample)
      (.of_run (anything _ _) aggregation), writeValue_shows aggregation bounded kind, ?_⟩
    exact .of_run (sparing "update_us" _ (by simp) (by decide)) update

/-- Intervals that were observed otherwise are staged, and settle. -/
theorem Context.stageConfigurationFrom_settles {observed : Option ContextConfig}
    (member : leaf ∈ ((DamonAdmin.kdamond i).context j).requestedLeaves wanted.intervals)
    (changed : observed.map ContextConfig.intervals ≠ some wanted.intervals)
    (run : ((DamonAdmin.kdamond i).context j).stageConfigurationFrom wanted observed env before =
      (.ok (), after)) : SettlesWithin env leaf before after := by
  have isChanged : observed ≠ some wanted := by
    rintro rfl
    exact changed rfl
  have needed : needsStage (observed.map ContextConfig.intervals) wanted.intervals = true := by
    simpa [needsStage] using changed
  have others : StagesContext (Access.SparesAll [leaf.1]) ((DamonAdmin.kdamond i).context j) wanted
      (some wanted) := by
    refine stages_sparesAll (fun path kept => .inr ?_) rfl
    rw [List.mem_singleton.mp kept]
    exact requestedLeaves_inner member
  have anything : StagesContext Anything ((DamonAdmin.kdamond i).context j) wanted observed :=
    .ofBelow (anything_below _)
  rw [stageConfigurationFrom, stageWhen, if_pos (by simpa using isChanged)] at run
  obtain ⟨_, scaled, scalars, children⟩ := Exec.bind_eq_ok run
  rw [stageScalarConfigurationFrom_eq] at scalars
  obtain ⟨_, starting, first, scalars⟩ := Exec.bind_eq_ok scalars
  obtain ⟨_, set, sets, last⟩ := Exec.bind_eq_ok scalars
  rw [stageWhen, if_pos needed] at sets
  have settles := setIntervals_settles member sets
  have single : ∀ access, Access.SparesAll [leaf.1] access → Access.Spares leaf.1 access :=
    fun _ spares => spares leaf.1 (List.mem_singleton_self _)
  refine (settles.after_run (.of_run (stageBeforeIntervals_confined anything) first)).then_run ?_
  refine .trans (.of_run ((stageAfterIntervals_confined others).mono single) last)
    (.of_run ((stageChildConfigurationFrom_confined others).mono single) children)

theorem Kdamond.stageConfigurationFrom_settles {request : KdamondConfig}
    {observed : Option KdamondConfig}
    (member : leaf ∈ ((DamonAdmin.kdamond i).context j).requestedLeaves wanted.intervals)
    (atRequest : request.contexts[j]? = some wanted)
    (changed : (observedContext observed request j).map ContextConfig.intervals ≠
      some wanted.intervals)
    (run : (DamonAdmin.kdamond i).stageConfigurationFrom request observed env before =
      (.ok (), after)) : SettlesWithin env leaf before after := by
  have isChanged : observed ≠ some request := by
    rintro rfl
    refine changed ?_
    rw [observedContext, Option.map_some, comparable_getElem? rfl, atRequest]
    rfl
  rw [stageConfigurationFrom, stageWhen, if_pos (by simpa using isChanged)] at run
  obtain ⟨_, refreshed, refresh, counted⟩ := Exec.bind_eq_ok run
  obtain ⟨_, counting, counts, children⟩ := Exec.bind_eq_ok counted
  have starts : World.Reaches Anything env before counting := by
    refine .trans (.of_run (stageWhen_confined fun _ => stageOptionalDefault_confined
      (.bind (.ofExcept _) fun _ => writeValue_confined trivial)) refresh) ?_
    exact .of_run (ensureCount_confined trivial fun _ => trivial) counts
  have each : ∀ index context observed, Confined Anything
      (((DamonAdmin.kdamond i).context index).stageConfigurationFrom context observed) :=
    fun _ _ _ => Context.stageConfigurationFrom_confined (.ofBelow (anything_below _))
  obtain ⟨start, done, begins, ran, ends⟩ := stageChildren_ok children atRequest each
    fun index context observed beyond => (Kdamond.stagesContext_sparesAll member
      fun same => absurd same (by omega)).mono fun access spares =>
        spares leaf.1 (by simp [keptPaths])
  rw [Nat.zero_add] at ran
  exact ((Context.stageConfigurationFrom_settles member changed ran).after_run
    (starts.trans begins)).then_run ends

theorem DamonAdmin.stageConfigurationFrom_settles {config observed : DamonConfig}
    {request : KdamondConfig}
    (member : leaf ∈ ((DamonAdmin.kdamond i).context j).requestedLeaves wanted.intervals)
    (atConfig : config.kdamonds[i]? = some request) (atRequest : request.contexts[j]? = some wanted)
    (changed : (observedContext (observedKdamond observed config i) request j).map
      ContextConfig.intervals ≠ some wanted.intervals)
    (run : DamonAdmin.stageConfigurationFrom config (some observed) env before =
      (.ok (), after)) : SettlesWithin env leaf before after := by
  have isChanged : some observed ≠ some config := by
    rintro same
    cases same
    refine changed ?_
    rw [observedKdamond, comparable_getElem? rfl, atConfig, observedContext, Option.map_some,
      comparable_getElem? rfl, atRequest]
    rfl
  rw [stageConfigurationFrom, stageWhen, if_pos (by simpa using isChanged)] at run
  obtain ⟨_, counting, counts, children⟩ := Exec.bind_eq_ok run
  have each : ∀ index kdamond observed, Confined Anything
      ((DamonAdmin.kdamond index).stageConfigurationFrom kdamond observed) := fun _ _ _ =>
    Kdamond.stageConfigurationFrom_confined fun _ =>
      ⟨fun _ => trivial, trivial, fun _ => trivial, fun _ _ _ => .ofBelow (anything_below _)⟩
  obtain ⟨start, done, begins, ran, ends⟩ := stageChildren_ok children atConfig each
    fun index kdamond observed beyond => (DamonAdmin.stagesKdamond_sparesAll member (by omega)
      kdamond observed).mono fun access spares => spares leaf.1 (by simp [Kdamond.keptPaths])
  rw [Nat.zero_add] at ran
  have starts : World.Reaches Anything env before counting :=
    .of_run (ensureCount_confined trivial fun _ => trivial) counts
  exact ((Kdamond.stageConfigurationFrom_settles member atRequest changed ran).after_run
    (starts.trans begins)).then_run ends

end Changed

/-! ## The first commit -/

theorem Content.Numbers.bounded {found : Option File} {number : Nat}
    (numbers : Content.Numbers found number) : number < u64Bound := by
  obtain ⟨file, -, shows⟩ := numbers
  unfold unsigned? at shows
  split at shows
  · split at shows
    · cases shows
    · exact Text.parseUnsigned_lt shows
  · cases shows

/-- A commit takes over what is staged below its kdamond. -/
theorem System.write_commit {kernel : Kernel} {pid : Pid} {sys after : System} {index : Nat}
    (small : index < 2 ^ 64)
    (written : sys.write kernel pid (Path.stateOf index) KdamondCommand.commit.kernelName =
      .ok after) (inner : Path) :
    after.committed ((DamonAdmin.kdamond index).path ++ inner) =
      sys.files.get? ((DamonAdmin.kdamond index).path ++ inner) := by
  have kind : kdamondOfState? (Path.stateOf index) = some (DamonAdmin.kdamond index).path := by
    simp [Path.stateOf, DamonAdmin.kdamond, kdamondOfState?, Path.nameIndex?_indexName small]
  have name : KdamondCommand.commit.kernelName = "commit" := rfl
  rcases write_cases written with ⟨directory, isState, sent⟩ | ⟨isState, -⟩ | ⟨isState, -⟩
  · obtain rfl : (DamonAdmin.kdamond index).path = directory :=
      Option.some.inj (kind.symm.trans isState)
    rw [name, command, if_neg (by decide), if_neg (by decide)] at sent
    split at sent
    · rw [if_pos rfl] at sent
      cases sent
      simp [commit]
    · cases sent
  · rw [kind] at isState
    cases isState
  · rw [kind] at isState
    cases isState

namespace ManagedHierarchy

/-- A command leaves every leaf of the configuration alone. -/
theorem CommandsOnly.spares {selected : List Nat} {access : Access} {path : Path}
    (commands : CommandsOnly selected access)
    (configuration : Path.isRuntimeAttribute path = false) : access.Spares path := by
  cases access with
  | write other value =>
      obtain ⟨index, -, rfl⟩ := commands
      refine .of_leaf ?_ (Path.stateOf_noCount index)
      rintro rfl
      rw [Path.stateOf_runtime] at configuration
      cases configuration
  | _ => trivial

/-- The first commit of a selected kdamond. -/
theorem commitEach_first {selected : List Nat} {env : Env} {before after : World} {i : Nat}
    (run : Exec.forEach (commandIdentified .commit) selected env before = (.ok (), after))
    (member : i ∈ selected) :
    ∃ (others : List Nat) (committing sent : World), i ∉ others ∧
      World.Reaches (CommandsOnly selected) env before committing ∧
      World.Sends (others.map fun index => (Path.stateOf index, KdamondCommand.commit.kernelName))
        before committing ∧
      (DamonAdmin.kdamond i).command .commit env committing = (.ok (), sent) ∧
      World.Reaches (CommandsOnly selected) env sent after := by
  obtain ⟨earlier, later, start, done, rfl, outside, others, own, follow⟩ :=
    Exec.forEach_first run member
  have identified : ∀ index ∈ earlier ++ i :: later,
      Confined (CommandsOnly (earlier ++ i :: later)) (commandIdentified .commit index) :=
    fun index member => commandIdentified_confined (fun _ => ReadsOnly.commandsOnly)
      ⟨index, member, rfl⟩
  have verifies : Confined (CommandsOnly (earlier ++ i :: later)) (verifyRunningIdentityOnly i) :=
    (verifyRunningIdentityOnly_checks i).threadReadsOnly.mono fun _ => ReadsOnly.commandsOnly
  obtain ⟨_, verified, verify, own⟩ := Exec.bind_eq_ok own
  obtain ⟨_, sent, send, reverify⟩ := Exec.bind_eq_ok own
  obtain ⟨committing, attempts, silent, last⟩ :=
    Kdamond.retryCommand_last (show CommandsOnly (earlier ++ i :: later) _ from
      ⟨i, member, rfl⟩) send
  have checks : World.Sends [] start verified :=
    .of_reads ((verifyRunningIdentityOnly_checks i).threadReadsOnly.since (fun _ => trivial) verify)
  refine ⟨earlier, committing, sent, outside, ?_, ?_, last, ?_⟩
  · refine .trans (.of_run (.forEach _ fun index inEarlier =>
      identified index (List.mem_append_left _ inEarlier)) others) (.trans ?_ attempts)
    exact .of_run verifies verify
  · exact (commitEach_sends others).trans_nil (checks.nil_trans silent)
  · refine .trans (.of_run verifies reverify) (.of_run (.forEach _ fun index inLater => ?_) follow)
    exact identified index (List.mem_append_right _ (List.mem_cons_of_mem _ inLater))

/-! ## Staged intervals -/

/-- What has been read while nothing is written lasts, unless the kernel tunes it. -/
theorem numbers_lasting {env : Env} (tunes : env.OnlyTunes) {path : Path} {number : Nat}
    (untuned : Path.isTunable path = false) {counted later : World}
    (numbers : Content.Numbers (counted.sys.files.get? path) number)
    (reaches : World.Reaches ReadsOnly env counted later) :
    Lasting (fun sys => Content.Numbers (sys.files.get? path) number) env later :=
  reaches.lasting ⟨numbers, fun clock sys _ shown => by rwa [tunes clock sys path untuned]⟩

section Staged

variable {env : Env} {i j : Nat} {leaf : Path × Nat} {config previous : DamonConfig}
  {request : KdamondConfig} {wanted : ContextConfig}

/-- Staging settles an interval leaf that an earlier read found otherwise. -/
theorem stageRunning_settles {before after : World}
    (member : leaf ∈ ((DamonAdmin.kdamond i).context j).requestedLeaves wanted.intervals)
    (atConfig : config.kdamonds[i]? = some request) (atRequest : request.contexts[j]? = some wanted)
    (changed : (observedContext (observedKdamond previous config i) request j).map
      ContextConfig.intervals ≠ some wanted.intervals)
    (run : stageRunning config (some previous) env before = (.ok (), after)) :
    SettlesWithin env leaf before after := by
  obtain ⟨_, staged, attempts, verify⟩ := Exec.bind_eq_ok run
  have verifies : ∀ allowed : Access → Prop, (∀ access, ReadsOnly access → allowed access) →
      Confined allowed verifyOwnedIdentitiesOnly := fun _ => verifyOwnedIdentitiesOnly_readsOnly.mono
  have stages : Confined Anything (DamonAdmin.stageConfigurationFrom config (some previous)) :=
    (DamonAdmin.stageConfigurationFrom_stages _ _).mono fun _ _ => trivial
  obtain ⟨start, starts, last⟩ :=
    World.Reaches.of_retry (.seq (verifies Anything fun _ _ => trivial) stages) attempts
  obtain ⟨_, verified, first, staging⟩ := Exec.bind_eq_ok last
  refine ((DamonAdmin.stageConfigurationFrom_settles member atConfig atRequest changed
    staging).after_run (starts.trans (.of_run (verifies _ fun _ _ => trivial) first))).then_run ?_
  refine .of_run (verifies _ fun access reads => ?_) verify
  exact .of_reads reads

/-- Where a typed read found the requested intervals, their leaves are settled, and the counts
above them last as they were found. -/
theorem configuration_settles {observing observed : World} (tunes : env.OnlyTunes)
    (member : leaf ∈ ((DamonAdmin.kdamond i).context j).requestedLeaves wanted.intervals)
    (reads : DamonAdmin.configuration env observing = (.ok previous, observed))
    (unchanged : (observedContext (observedKdamond previous config i) request j).map
      ContextConfig.intervals = some wanted.intervals) :
    ∃ settled, World.Reaches ReadsOnly env observing settled ∧
      SettledLeaf env leaf settled observed ∧
      Lasting (fun sys => Content.Numbers (sys.files.get? DamonAdmin.countPath)
        config.kdamonds.length) env observed ∧
      Lasting (fun sys => Content.Numbers
        (sys.files.get? ((DamonAdmin.kdamond i).path ++ ["contexts", "nr_contexts"]))
        request.contexts.length) env observed := by
  obtain ⟨found, isFound, same⟩ := Option.map_eq_some_iff.mp unchanged
  obtain ⟨contexts, isContexts, contextCount, atContexts⟩ := comparable_some isFound
  obtain ⟨seen, isSeen, rfl⟩ := Option.map_eq_some_iff.mp isContexts
  obtain ⟨_, isKdamonds, kdamondCount, atKdamonds⟩ := comparable_some isSeen
  cases isKdamonds
  obtain ⟨counted, -, kdamonds, counting⟩ := configuration_count reads
  obtain ⟨_, _, startKdamond, readsKdamond, endKdamond⟩ :=
    DamonAdmin.configuration_kdamond reads atKdamonds
  obtain ⟨_, _, _, startCount, contexts, startContext, readsContext, endContext⟩ :=
    Kdamond.configuration_context readsKdamond atContexts
  obtain ⟨_, _, startIntervals, readsIntervals, endIntervals⟩ :=
    Context.configuration_intervals readsContext
  obtain ⟨settled, startLeaf, shows, endLeaf⟩ :=
    Context.intervals_ok readsIntervals (same ▸ member)
  have leads : World.Reaches ReadsOnly env settled observed :=
    ((endLeaf.trans endIntervals).trans endContext).trans endKdamond
  refine ⟨settled, ?_, .of_reaches shows (leads.mono fun _ => .of_reads), ?_, ?_⟩
  · exact startKdamond.trans (startCount.trans (startContext.trans (startIntervals.trans startLeaf)))
  · rw [← kdamondCount]
    exact numbers_lasting tunes rfl kdamonds counting
  · rw [← contextCount]
    have below : ReadsBelow ReadsOnly ((DamonAdmin.kdamond i).context j).path := fun _ _ => trivial
    have contextRead := World.Reaches.of_run (Context.configuration_confined below) readsContext
    exact numbers_lasting tunes rfl contexts
      (((startContext.trans contextRead).trans endContext).trans endKdamond)

/-- While the counts last that were observed as requested, staging leaves an interval leaf
settled that was observed as requested. -/
theorem stageRunning_staysSettled {settled start after : World}
    (member : leaf ∈ ((DamonAdmin.kdamond i).context j).requestedLeaves wanted.intervals)
    (atConfig : config.kdamonds[i]? = some request) (atRequest : request.contexts[j]? = some wanted)
    (unchanged : (observedContext (observedKdamond previous config i) request j).map
      ContextConfig.intervals = some wanted.intervals)
    (kdamonds : Lasting (fun sys => Content.Numbers (sys.files.get? DamonAdmin.countPath)
      config.kdamonds.length) env start)
    (contexts : Lasting (fun sys => Content.Numbers
      (sys.files.get? ((DamonAdmin.kdamond i).path ++ ["contexts", "nr_contexts"]))
      request.contexts.length) env start)
    (settles : SettledLeaf env leaf settled start)
    (run : stageRunning config (some previous) env start = (.ok (), after)) :
    SettledLeaf env leaf settled after := by
  have configuration : ∀ path ∈ (DamonAdmin.kdamond i).keptPaths leaf,
      Path.isRuntimeAttribute path = false := by
    intro path kept
    simp only [Kdamond.keptPaths, List.mem_cons, List.not_mem_nil, or_false] at kept
    rcases kept with rfl | rfl | rfl
    · rfl
    · have regions : ∀ index, "tried_regions" ≠ Path.indexName index := Path.indexName_ne rfl
      have stats : ∀ index, Path.indexName index ≠ "stats" := fun index =>
        (Path.indexName_ne rfl index).symm
      exact Path.isRuntimeAttribute_append (by simp) (by simp [DamonAdmin.kdamond, regions])
        (by simp [DamonAdmin.kdamond, stats]) rfl
    · exact (Kdamond.context_requestedLeaves member).1
  let holds : System → Prop := fun sys =>
    Content.Numbers (sys.files.get? DamonAdmin.countPath) config.kdamonds.length ∧
    Content.Numbers (sys.files.get? ((DamonAdmin.kdamond i).path ++ ["contexts", "nr_contexts"]))
      request.contexts.length
  have writes : ∀ path value,
      (Access.write path value).SparesAll ((DamonAdmin.kdamond i).keptPaths leaf) →
      ∀ kernel pid sys after, holds sys →
        System.write kernel pid sys path value = .ok after → holds after := by
    rintro path value spares kernel pid sys after ⟨one, two⟩ written
    have same := spares.write_other configuration written
    refine ⟨?_, ?_⟩
    · rwa [same _ (by simp [Kdamond.keptPaths])]
    · rwa [same _ (by simp [Kdamond.keptPaths])]
  have lasting : Lasting holds env start :=
    ⟨⟨kdamonds.now, contexts.now⟩, fun clock sys later held =>
      ⟨kdamonds.later clock sys later held.1, contexts.later clock sys later held.2⟩⟩
  have inspects : ∀ path,
      Access.SparesAll ((DamonAdmin.kdamond i).keptPaths leaf) (.inspect path) :=
    fun _ _ _ => trivial
  have verifies : Exec.Triple env
      (World.Within (Access.SparesAll ((DamonAdmin.kdamond i).keptPaths leaf)) holds env start)
      verifyOwnedIdentitiesOnly fun _ =>
      World.Within (Access.SparesAll ((DamonAdmin.kdamond i).keptPaths leaf)) holds env start :=
    (verifyOwnedIdentitiesOnly_readsOnly.mono fun _ => .of_reads).within inspects writes
  have stages : Exec.Triple env
      (World.Within (Access.SparesAll ((DamonAdmin.kdamond i).keptPaths leaf)) holds env start)
      (DamonAdmin.stageConfigurationFrom config (some previous)) fun _ =>
      World.Within (Access.SparesAll ((DamonAdmin.kdamond i).keptPaths leaf)) holds env start :=
    DamonAdmin.stageConfigurationFrom_spares member atConfig atRequest unchanged
      (fun _ held => held.1) (fun _ held => held.2) writes
  have whole : Exec.Triple env
      (World.Within (Access.SparesAll ((DamonAdmin.kdamond i).keptPaths leaf)) holds env start)
      (stageRunning config (some previous)) fun _ =>
      World.Within (Access.SparesAll ((DamonAdmin.kdamond i).keptPaths leaf)) holds env start := by
    refine Exec.triple_seq (Exec.triple_retry ?_ maxRetries) (fun _ => verifies) fun _ h => h
    refine Exec.Triple.weaken (Exec.triple_seq verifies (fun _ => stages) fun _ h => h)
      (fun _ within_ => within_) fun _ _ within_ => ⟨within_, within_⟩
  have within_ := whole.run (.refl lasting) run
  have staging : World.Reaches Anything env start after := .of_run (stageRunning_anything _ _) run
  exact ⟨settles.shows, settles.advances.trans staging.advances,
    settles.spares.trans (within_.accesses.since.mono fun access spares =>
      spares leaf.1 (by simp [Kdamond.keptPaths]))⟩

end Staged

/-! ## Updated intervals -/

/-- The first commit of a kdamond in a successful update. -/
structure UpdateRun.FirstCommit {config : DamonConfig} {indices : List Nat} {env : Env}
    {world : World} (run : UpdateRun config indices env world) (i : Nat)
    (committing sent : World) : Prop where
  /-- The commands before it go to other kdamonds. -/
  earlier : ∃ others : List Nat, i ∉ others ∧ World.Sends
    (others.map fun index => (Path.stateOf index, KdamondCommand.commit.kernelName)) world committing
  reached : World.Advances env world committing
  sends : (DamonAdmin.kdamond i).command .commit env committing = (.ok (), sent)
  follows : World.Since Anything sent run.last

/-- A commit activates what an interval leaf shows when it is sent, and leaves it as it is. -/
theorem command_activates {env : Env} {i j : Nat} {intervals : MonitoringIntervals}
    {leaf : Path × Nat} {committing sent : World} (small : i < 2 ^ 64)
    (member : leaf ∈ ((DamonAdmin.kdamond i).context j).requestedLeaves intervals)
    (sends : (DamonAdmin.kdamond i).command .commit env committing = (.ok (), sent)) :
    sent.sys.committed leaf.1 = sent.sys.files.get? leaf.1 := by
  obtain ⟨_, middle, valid, write⟩ := Exec.bind_eq_ok sends
  obtain rfl : committing = middle := (Prod.ext_iff.mp valid).2
  have kind := Kdamond.context_requestedLeaves member
  obtain ⟨inner, -, same⟩ := Context.requestedLeaves_inner member
  rcases writeBytes_cases (Path.stateOf i) KdamondCommand.commit.kernelName env committing with
    ⟨error, failed, -⟩ | ⟨done, written⟩
  · cases failed.symm.trans write
  · cases done.symm.trans write
    have active := System.write_commit small written ("contexts" :: Path.indexName j :: inner)
    have commands : CommandsOnly [i]
        (.write (Path.stateOf i) KdamondCommand.commit.kernelName) := ⟨i, List.mem_singleton_self i, rfl⟩
    have spared := commands.spares kind.1
    have untouched := System.write_other written spared.1 kind.1 spared.2
    have path : leaf.1 =
        (DamonAdmin.kdamond i).path ++ "contexts" :: Path.indexName j :: inner := by
      rw [same]
      simp [Kdamond.context]
    rw [← path] at active
    exact active.trans untouched.symm

/-- The first commit of a kdamond in a successful update activates the requested intervals of its
contexts, unless the last that has happened to an interval by then is that the kernel tunes it to
another number. -/
theorem updateConfiguration_appliesIntervals (config : DamonConfig) (indices : List Nat)
    (env : Env) (tunes : env.OnlyTunes) (world : World) (run : UpdateRun config indices env world)
    {i j : Nat} {request : KdamondConfig} {wanted : ContextConfig} (selected : i ∈ indices)
    (atConfig : config.kdamonds[i]? = some request)
    (atRequest : request.contexts[j]? = some wanted) :
    ∃ committing sent, run.FirstCommit i committing sent ∧
      ∀ leaf ∈ ((DamonAdmin.kdamond i).context j).requestedLeaves wanted.intervals,
        Content.Numbers (sent.sys.committed leaf.1) leaf.2 ↔
          ¬TunedAway leaf (World.history env world sent) := by
  obtain ⟨chosen, length, observing, observed, before, reads, captures⟩ :=
    captureUpdate_ok run.captures
  obtain ⟨-, isPrevious, isSelected, _, -, plans⟩ := CapturedUpdate.plan_ok run.plans
  obtain ⟨final, forward, -, last⟩ := collectWrites_ok run.commits
  have forward : stageAndCommitRunning run.prepared.effective (some run.prepared.previous)
      run.prepared.selected env { run.checked with journal := some [] } =
        (.ok run.staged, final) := forward
  rw [isSelected, chosen, isPrevious] at forward
  rw [chosen] at plans
  have atEffective := (effectiveKdamonds_selected plans selected).symm.trans atConfig
  obtain ⟨_, identified, identifies, forward⟩ := Exec.bind_eq_ok forward
  obtain ⟨_, staged, stages, forward⟩ := Exec.bind_eq_ok forward
  obtain ⟨snapshot, compared, verifies, forward⟩ := Exec.bind_eq_ok forward
  obtain ⟨_, committed, commits, ends⟩ := Exec.bind_eq_ok forward
  obtain ⟨others, committing, sent, outside, commanding, commands, sends, follow⟩ :=
    commitEach_first commits selected
  have checking : World.Reaches ReadsOnly env observed run.checked :=
    captures.trans (.of_run verifyOwnedState_readsOnly run.checks)
  have identifying : World.Reaches ReadsOnly env { run.checked with journal := some [] }
      identified := .of_run verifyOwnedIdentitiesOnly_readsOnly identifies
  have comparing : World.Reaches ReadsOnly env staged compared :=
    .of_run (verifyStagedRunning_readsOnly _ _ _) verifies
  have reading : ∀ {first second : World}, World.Reaches ReadsOnly env first second →
      World.Since ReadsOnly first second := fun reaches => reaches.since fun _ => trivial
  have anything : ∀ access, ReadsOnly access → Anything access := fun _ _ => trivial
  have observes : World.Reaches ReadsOnly env observing observed :=
    .of_run DamonAdmin.configuration_confined.readsOnly reads
  have journaled : World.Advances env run.checked { run.checked with journal := some [] } :=
    ⟨[], some [], rfl⟩
  have starting : World.Advances env world identified :=
    (((before.trans observes).trans checking).advances.trans journaled).trans identifying.advances
  have stagings : World.Reaches Anything env identified staged :=
    .of_run (stageRunning_anything _ _) stages
  have small : i < 2 ^ 64 := by
    obtain ⟨_, _, count, -⟩ := Exec.bind_eq_ok identifies
    have bounded := (verifyManagedCount_ok count).bounded
    have self := ((prepareUpdate_reads config indices).accesses (fun _ => trivial) env world).self
    rw [run.prepares] at self
    have inConfig := (List.getElem?_eq_some_iff.mp atConfig).1
    rw [length, ← self] at inConfig
    exact inConfig.trans bounded
  refine ⟨committing, sent, ⟨⟨others, outside, ?_⟩, ?_, sends, ?_⟩, fun leaf member => ?_⟩
  · have starts : World.Since ReadsOnly world identified :=
      (reading ((before.trans observes).trans checking)).trans ((reading identifying).congr rfl rfl)
    have writes : World.Since WritesConfiguration world compared :=
      ((starts.mono fun _ => ReadsOnly.writesConfiguration).trans
        ((stageRunning_writes _ _).since (fun _ => trivial) stages)).trans
        ((reading comparing).mono fun _ => ReadsOnly.writesConfiguration)
    exact (World.Sends.of_since writes).nil_trans commands
  · exact ((starting.trans stagings.advances).trans comparing.advances).trans commanding.advances
  · have records : ∀ snapshot config, Confined Anything (recordOwnership snapshot config) :=
      fun snapshot config => (recordOwnership_reads snapshot config).readsOnly.mono anything
    have rest : World.Since Anything committed final := by
      refine Confined.since (.ite (fun _ => .seq (stageRunning_anything _ _) ?_) fun _ => records _ _)
        (fun _ => trivial) ends
      exact .bind ((verifyStagedRunning_readsOnly _ _ _).mono anything) fun _ => records _ _
    exact (((follow.mono fun _ _ => trivial).since fun _ => trivial).trans rest).congr rfl
      (by rw [last])
  have kind := Kdamond.context_requestedLeaves member
  have spares : ∀ access, ReadsOnly access → Access.Spares leaf.1 access := fun _ => .of_reads
  have settles : ∃ settled, World.Advances env world settled ∧
      SettledLeaf env leaf settled staged := by
    by_cases unchanged : (observedContext (observedKdamond run.captured.previous
        run.prepared.effective i) request j).map ContextConfig.intervals = some wanted.intervals
    · -- the update's own read found the requested intervals, and as many children as requested
      obtain ⟨settled, begins, found, kdamonds, contexts⟩ :=
        configuration_settles tunes member reads unchanged
      have checked := found.then_run (checking.mono spares)
      have collecting : SettledLeaf env leaf settled { run.checked with journal := some [] } :=
        ⟨checked.shows, checked.advances.trans journaled, checked.spares.congr rfl rfl⟩
      have identified : ∀ {holds : System → Prop}, Lasting holds env observed →
          Lasting holds env identified := fun lasting =>
        have checked := checking.lasting lasting
        identifying.lasting ⟨checked.now, checked.later⟩
      exact ⟨settled, (before.trans begins).advances, stageRunning_staysSettled member atEffective
        atRequest unchanged (identified kdamonds) (identified contexts)
        (collecting.then_run (identifying.mono spares)) stages⟩
    · obtain ⟨settled, begins, shows, reaches⟩ :=
        stageRunning_settles member atEffective atRequest unchanged stages
      exact ⟨settled, starting.trans begins.advances, .of_reaches shows reaches⟩
  obtain ⟨settled, starts, settles⟩ := settles
  have sending : World.Reaches (CommandsOnly [i]) env committing sent :=
    .of_run (Kdamond.command_confined i .commit ⟨i, List.mem_singleton_self i, rfl⟩) sends
  have committed := ((settles.then_run (comparing.mono spares)).then_run
    (commanding.mono fun access commands => commands.spares kind.1)).then_run
    (sending.mono fun access commands => commands.spares kind.1)
  rw [command_activates small member sends]
  exact committed.shows_iff kind.1 starts

/-! ## Tuning that ends -/

namespace EndOfTuning

/-- A context is tuned. -/
def before : DamonConfig := Fixture.config [Fixture.contextConfig .default 3]

/-- The request ends the tuning, and asks for the intervals that were staged at first. -/
def request : DamonConfig := Fixture.config [Fixture.contextConfig .default 0]

/-- A session whose context shows given intervals. -/
def world (sample aggregation : String) : World :=
  Fixture.session (Fixture.running [Fixture.context sample aggregation "3"]) before

def sample : Path := ["kdamonds", "0", "contexts", "0", "monitoring_attrs", "intervals", "sample_us"]

/-- The kernel tunes the sampling interval before the accesses with given numbers. -/
def tunedAt (moments : List Nat) : Env :=
  { Fixture.calm with
    interfere := fun clock sys =>
      if clock ∈ moments then { sys with files := sys.files.setText sample (.ofWritten "7000") }
      else sys }

theorem tunedAt_onlyTunes (moments : List Nat) : (tunedAt moments).OnlyTunes := by
  intro clock sys path untuned
  dsimp only [tunedAt]
  split
  · refine Files.get?_setText_of_ne _ ?_
    rintro rfl
    exact absurd untuned (by decide)
  · rfl

end EndOfTuning

open EndOfTuning in
/-- An interval that the kernel tunes between the update's read and its first commit is not
staged again, and the commit activates it. -/
theorem updateConfiguration_missesIntervals :
    (tunedAt [120]).OnlyTunes ∧
      let result := updateConfiguration request [0] (tunedAt [120]) (world "5000" "100000")
      (prepareUpdate request [0] (tunedAt [120]) (world "5000" "100000")).2.clock ≤ 120 ∧
        (result.2.trace.filter fun event => event.access = .write (Path.stateOf 0) "commit").length =
          1 ∧
        result.1 = .ok () ∧
        result.2.sys.committed sample = some ⟨.text (.ofWritten "7000"), true⟩ ∧
        request.kdamonds.map (fun kdamond => kdamond.contexts.map fun context =>
          (context.intervals.sampleUs, context.intervalsGoal.aggregationIntervals)) =
            [[(5000, 0)]] :=
  ⟨tunedAt_onlyTunes [120], by decide +kernel⟩

open EndOfTuning in
/-- The kernel tunes an interval before the update reads it and after it has been committed. -/
theorem updateConfiguration_appliesIntervals_tuned :
    (updateConfiguration request [0] (tunedAt [60, 235]) (world "5000" "100000")).2.sys.committed
        sample = some ⟨.text (.ofWritten "5000"), true⟩ ∧
      ∃ run : UpdateRun request [0] (tunedAt [60, 235]) (world "5000" "100000"),
        ∃ committing sent, run.FirstCommit 0 committing sent ∧
          ∀ leaf ∈ ((DamonAdmin.kdamond 0).context 0).requestedLeaves .default,
            Content.Numbers (sent.sys.committed leaf.1) leaf.2 ↔
              ¬TunedAway leaf (World.history (tunedAt [60, 235]) (world "5000" "100000") sent) := by
  have result : (updateConfiguration request [0] (tunedAt [60, 235]) (world "5000" "100000")).1 =
        .ok () ∧
      (updateConfiguration request [0] (tunedAt [60, 235]) (world "5000" "100000")).2.sys.committed
        sample = some ⟨.text (.ofWritten "5000"), true⟩ := by
    decide +kernel
  obtain ⟨run⟩ := UpdateRun.of_ok (Prod.ext result.1 rfl)
  have context : [Fixture.contextConfig .default 0][0]? = some (Fixture.contextConfig .default 0) :=
    rfl
  exact ⟨result.2, run, updateConfiguration_appliesIntervals request [0] (tunedAt [60, 235])
    (tunedAt_onlyTunes _) _ run (List.mem_singleton_self 0) rfl context⟩

end ManagedHierarchy

end DamonRs
