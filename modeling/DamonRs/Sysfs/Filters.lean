import DamonRs.Config.Placement
import DamonRs.Sysfs.Stored
import DamonRs.Sysfs.Validated

/-!
# Staged filters are read back

Staging puts every filter below the directory of its layer, in the order of the
request, and a read concatenates the layers.  On a kernel that stores what is
written the filters that are read are the requested ones in canonical order.
-/

namespace DamonRs

open Library Sysfs

/-! ## The data of a filter -/

/-- A filter of a known type carries the data of its type and no other. -/
structure FilterConfig.Carried (config : FilterConfig) : Prop where
  known : ∀ name, config.filterType ≠ .unknown name
  cgroupPath : config.cgroupPath.isSome = true ↔ config.filterType = .memoryControlGroup
  addressRange : config.addressRange.isSome = true ↔ config.filterType = .address
  sizeRange : config.sizeRange.isSome = true ↔ config.filterType = .hugePageSize
  targetIndex : config.targetIndex.isSome = true ↔ config.filterType = .target
  weightedSumRange : config.probeHitsWeightedSumRange.isSome = true ↔
    config.filterType = .probeHitsWeightedSum
  index : ∀ index, config.targetIndex = some index → index < intBound

theorem FilterConfig.carried_of_validate {config : FilterConfig} {targetCount : Nat}
    (valid : config.validate targetCount = .ok ())
    (known : ∀ name, config.filterType ≠ .unknown name) : config.Carried := by
  have writable := writable_of_validateInLayer valid
  obtain ⟨_, others⟩ := Checks.seq_ok valid
  extract_lets last required payloads at others
  -- the first decision continues with the next
  have payloadsPassed : payloads () = .ok () := by
    split at others
    · exact (Checks.seq_ok others).2
    · exact (Checks.seq_ok others).2
    · exact others
  unfold payloads at payloadsPassed
  have parts : ∀ payload, (config.validatePayloadFields payload >>= fun _ => required ()) = .ok () →
      config.validatePayloadFields payload = .ok () ∧ required () = .ok () :=
    fun payload passed => Checks.seq_ok passed
  have index : ∀ index, config.targetIndex = some index → index < intBound := by
    intro index given
    have counted := writable.targetIndex index given
    rw [validateCount, requireField_eq_ok_iff, decide_eq_true_eq] at counted
    have bound : kernelIndexMax < intBound := by decide
    omega
  -- the second decision leaves no data but that of the type, and the third demands it
  simp only [validatePayloadFields, requireField_eq_ok_iff, Bool.and_eq_true, Bool.or_eq_true,
    beq_iff_eq, Option.isNone_iff_eq_none] at parts
  unfold required at parts payloadsPassed
  cases type : config.filterType with
  | unknown name => exact absurd type (known name)
  | memoryControlGroup =>
      rw [type] at payloadsPassed parts
      obtain ⟨⟨⟨⟨⟨_, range⟩, size⟩, target⟩, sum⟩, need⟩ := parts .cgroupPath payloadsPassed
      have given : config.cgroupPath.isSome = true := by
        cases path : config.cgroupPath with
        | some value => rfl
        | none =>
            rw [path] at need
            cases need
      exact ⟨by simp [type], by simp [type, given], by simp_all, by simp_all, by simp_all,
        by simp_all, index⟩
  | address =>
      rw [type] at payloadsPassed parts
      obtain ⟨⟨⟨⟨⟨cgroup, _⟩, size⟩, target⟩, sum⟩, need⟩ := parts .addressRange payloadsPassed
      have given : config.addressRange.isSome = true := by
        cases range : config.addressRange with
        | some value => rfl
        | none =>
            rw [range] at need
            cases need
      exact ⟨by simp [type], by simp_all, by simp [type, given], by simp_all, by simp_all,
        by simp_all, index⟩
  | hugePageSize =>
      rw [type] at payloadsPassed parts
      obtain ⟨⟨⟨⟨⟨cgroup, range⟩, _⟩, target⟩, sum⟩, need⟩ := parts .sizeRange payloadsPassed
      have given := (Checks.seq_ok need).1
      rw [requireField_eq_ok_iff] at given
      exact ⟨by simp [type], by simp_all, by simp_all, by simp [type, given], by simp_all,
        by simp_all, index⟩
  | target =>
      rw [type] at payloadsPassed parts
      obtain ⟨⟨⟨⟨⟨cgroup, range⟩, size⟩, _⟩, sum⟩, need⟩ := parts .targetIndex payloadsPassed
      have given : config.targetIndex.isSome = true := by
        cases target : config.targetIndex with
        | some value => rfl
        | none =>
            rw [target] at need
            cases need
      exact ⟨by simp [type], by simp_all, by simp_all, by simp_all, by simp [type, given],
        by simp_all, index⟩
  | probeHitsWeightedSum =>
      rw [type] at payloadsPassed parts
      obtain ⟨⟨⟨⟨⟨cgroup, range⟩, size⟩, target⟩, _⟩, need⟩ :=
        parts .probeHitsWeightedSumRange payloadsPassed
      have given := (Checks.seq_ok need).1
      rw [requireField_eq_ok_iff] at given
      exact ⟨by simp [type], by simp_all, by simp_all, by simp_all, by simp_all,
        by simp [type, given], index⟩
  | anonymous | active | young | unmapped =>
      rw [type] at payloadsPassed parts
      obtain ⟨⟨⟨⟨⟨cgroup, range⟩, size⟩, target⟩, sum⟩, _⟩ := parts .none payloadsPassed
      exact ⟨by simp [type], by simp_all, by simp_all, by simp_all, by simp_all, by simp_all,
        index⟩

/-! ## Staging one filter -/

namespace SchemeFilter

/-- The name under which a kernel exposes what a filter selects. -/
def allowName (filter : SchemeFilter) (files : Files) : Option String :=
  if files.pathExists (filter.path ++ ["allow"]) then some "allow"
  else if files.pathExists (filter.path ++ ["pass"]) then some "pass"
  else none

/-- What a filter selects is stored, or cannot be and is the default. -/
def AllowStored (filter : SchemeFilter) (allow : Bool) (files : Files) : Prop :=
  match filter.allowName files with
  | some name => files.Leaf (filter.path ++ [name]) (flagText allow)
  | none => allow = false

/-- The attributes of a filter show its configuration. -/
structure Stored (filter : SchemeFilter) (config : FilterConfig) (files : Files) : Prop where
  filterType : files.Leaf (filter.path ++ ["type"]) config.filterType.kernelName
  matching : files.Leaf (filter.path ++ ["matching"]) (flagText config.matching)
  allow : filter.AllowStored config.allow files
  cgroupPath : ∀ path, config.cgroupPath = some path →
    files.Leaf (filter.path ++ ["memcg_path"]) path
  addressRange : ∀ range, config.addressRange = some range →
    files.Leaf (filter.path ++ ["addr_start"]) (toString range.1.toNat) ∧
      files.Leaf (filter.path ++ ["addr_end"]) (toString range.2.toNat)
  sizeRange : ∀ range, config.sizeRange = some range →
    files.Leaf (filter.path ++ ["min"]) (toString range.min.toNat) ∧
      files.Leaf (filter.path ++ ["max"]) (toString range.max.toNat)
  targetIndex : ∀ index, config.targetIndex = some index →
    files.Leaf (filter.path ++ ["damon_target_idx"]) (toString index)
  weightedSumRange : ∀ range, config.probeHitsWeightedSumRange = some range →
    files.Leaf (filter.path ++ ["min"]) (toString range.min.toNat) ∧
      files.Leaf (filter.path ++ ["max"]) (toString range.max.toNat)

variable {env : Env} {filter : SchemeFilter} {names : List String}

theorem allowName_of_rewrites {before after : Files}
    (rewrites : Rewrites filter.path names before after) :
    filter.allowName after = filter.allowName before := by
  unfold allowName
  rw [rewrites.present, rewrites.present]

theorem AllowStored.of_rewrites {allow : Bool} {before after : Files}
    (stored : filter.AllowStored allow before)
    (rewrites : Rewrites filter.path names before after) (apart : "allow" ∉ names ∧ "pass" ∉ names) :
    filter.AllowStored allow after := by
  unfold AllowStored at stored ⊢
  rw [allowName_of_rewrites rewrites]
  unfold allowName at stored ⊢
  split_ifs at stored ⊢ with first second
  · exact rewrites.leaf apart.1 stored
  · exact rewrites.leaf apart.2 stored
  · exact stored

variable (filter) in
theorem allowPath_observes (solitary : env.Solitary) {system : System} :
    Observes env system filter.allowPath
      ((filter.allowName system.files).map fun name => filter.path ++ [name]) := by
  have looks : ∀ name, Observes env system
      (do
        let path := filter.path ++ [name]
        if ← pathExists path then pure (some path) else pure none)
      (if system.files.pathExists (filter.path ++ [name]) then some (filter.path ++ [name])
        else none) := by
    intro name
    refine (Observes.present solitary _).bind ?_
    split <;> exact .pure _
  unfold allowPath allowName
  refine (looks "allow").bind ?_
  by_cases first : system.files.pathExists (filter.path ++ ["allow"]) = true
  · rw [if_pos first, if_pos first]
    exact .pure _
  · rw [if_neg first, if_neg first]
    refine (looks "pass").bind ?_
    by_cases second : system.files.pathExists (filter.path ++ ["pass"]) = true
    · rw [if_pos second, if_pos second]
      exact .pure _
    · rw [if_neg second, if_neg second]
      exact .pure _

theorem setAllowed_stores (solitary : env.Solitary) (allow : Bool) :
    Stores env filter.path ["allow", "pass"] (filter.setAllowed allow)
      (filter.AllowStored allow) := by
  intro world after run
  unfold setAllowed at run
  obtain ⟨middle, looked, same⟩ := allowPath_observes filter solitary world rfl
  rw [Exec.bind_run_ok looked] at run
  rw [← same] at run ⊢
  -- Writing one of the two names rewrites neither existence nor the choice between them.
  have writes : ∀ name ∈ ["allow", "pass"], filter.allowName middle.sys.files = some name →
      writeBool (filter.path ++ [name]) allow env middle = (.ok (), after) →
      Rewrites filter.path ["allow", "pass"] middle.sys.files after.sys.files ∧
        filter.AllowStored allow after.sys.files := by
    intro name among chosen written
    have stored : isStoredName name = true := by
      rcases List.mem_pair.mp among with rfl | rfl <;> decide
    obtain ⟨rewrites, leaf⟩ := Stores.write solitary stored (flagText allow) middle after written
    constructor
    · constructor
      · intro path outside
        apply rewrites.others
        intro other member
        rw [List.mem_singleton.mp member]
        exact outside name among
      · exact rewrites.present
    · unfold AllowStored
      rw [allowName_of_rewrites rewrites, chosen]
      exact leaf
  cases chosen : filter.allowName middle.sys.files with
  | some name =>
      rw [chosen] at run
      have among : name ∈ ["allow", "pass"] := by
        unfold allowName at chosen
        split_ifs at chosen <;> cases chosen <;> decide
      exact writes name among chosen run
  | none =>
      rw [chosen] at run
      cases allow with
      | true => cases run
      | false =>
          cases run
          refine ⟨Rewrites.refl _, ?_⟩
          unfold AllowStored
          rw [chosen]

variable (filter) in
theorem setRange_stores (solitary : env.Solitary) (range : Range64) :
    Stores env filter.path ["min", "max"] (filter.setRange range)
      fun files => files.Leaf (filter.path ++ ["min"]) (toString range.min.toNat) ∧
        files.Leaf (filter.path ++ ["max"]) (toString range.max.toNat) :=
  (Stores.write solitary (by decide) _).seq (Stores.write solitary (by decide) _)
    fun _ _ rewrites => rewrites.leaf (by decide)

variable (filter) in
theorem setTargetIndex_stores (solitary : env.Solitary) (index : Nat) :
    Stores env filter.path ["damon_target_idx"] (filter.setTargetIndex index)
      (·.Leaf (filter.path ++ ["damon_target_idx"]) (toString index)) :=
  (Stores.write solitary (by decide) _).checked.mono fun _ stored => stored.2

/-- The two ranges share their attributes, and a filter has one of them. -/
theorem stageRanges_stores (solitary : env.Solitary) {config : FilterConfig}
    (carried : config.Carried) :
    Stores env filter.path ["min", "max", "damon_target_idx"]
      (do
        stagePayload config.sizeRange filter.setRange
        stagePayload config.targetIndex filter.setTargetIndex
        stagePayload config.probeHitsWeightedSumRange filter.setRange)
      fun files =>
        (∀ range, config.sizeRange = some range →
          files.Leaf (filter.path ++ ["min"]) (toString range.min.toNat) ∧
            files.Leaf (filter.path ++ ["max"]) (toString range.max.toNat)) ∧
        (∀ index, config.targetIndex = some index →
          files.Leaf (filter.path ++ ["damon_target_idx"]) (toString index)) ∧
        (∀ range, config.probeHitsWeightedSumRange = some range →
          files.Leaf (filter.path ++ ["min"]) (toString range.min.toNat) ∧
            files.Leaf (filter.path ++ ["max"]) (toString range.max.toNat)) := by
  have target := Stores.payload config.targetIndex fun index =>
    setTargetIndex_stores filter solitary index
  have weighted := Stores.payload config.probeHitsWeightedSumRange fun range =>
    setRange_stores filter solitary range
  have rest := target.seq weighted fun before after rewrites holds index given =>
    rewrites.leaf (by decide) (holds index given)
  cases sized : config.sizeRange with
  | none =>
      refine Stores.widen (Stores.skip.seq rest fun _ _ _ _ => trivial) (by decide) |>.mono ?_
      rintro files ⟨-, stored⟩
      exact ⟨fun _ absent => (by cases absent), stored⟩
  | some range =>
      have unsummed : config.probeHitsWeightedSumRange = none := by
        have huge := carried.sizeRange.mp (by rw [sized]; rfl)
        cases summed : config.probeHitsWeightedSumRange with
        | none => rfl
        | some other =>
            have sum := carried.weightedSumRange.mp (by rw [summed]; rfl)
            rw [huge] at sum
            cases sum
      rw [unsummed]
      refine Stores.widen ((setRange_stores filter solitary range).seq
        (target.seq Stores.skip fun before after rewrites holds index given =>
          rewrites.leaf (by decide) (holds index given)) ?_) (by decide) |>.mono ?_
      · intro before after rewrites stored
        exact ⟨rewrites.leaf (by decide) stored.1, rewrites.leaf (by decide) stored.2⟩
      · rintro files ⟨stored, indexed, -⟩
        refine ⟨?_, indexed, fun _ absent => (by cases absent)⟩
        rintro _ ⟨⟩
        exact stored

/-- A filter whose staging succeeds is stored. -/
theorem stageConfiguration_stores (solitary : env.Solitary) {config : FilterConfig}
    (carried : config.Carried) :
    Stores env filter.path ["type", "matching", "allow", "pass", "memcg_path", "addr_start",
      "addr_end", "min", "max", "damon_target_idx"] (filter.stageConfiguration config)
      (filter.Stored config) := by
  have filterType : Stores env filter.path ["type"] (filter.setFilterType config.filterType)
      (·.Leaf (filter.path ++ ["type"]) config.filterType.kernelName) :=
    (Stores.write solitary (by decide) _).checked.mono fun _ stored => stored.2
  have matching : Stores env filter.path ["matching"] (filter.setMatching config.matching)
      (·.Leaf (filter.path ++ ["matching"]) (flagText config.matching)) :=
    Stores.write solitary (by decide) _
  have cgroup : ∀ path, Stores env filter.path ["memcg_path"] (filter.setCgroupPath path)
      (·.Leaf (filter.path ++ ["memcg_path"]) path) := fun path =>
    (Stores.write solitary (by decide) _).checked.mono fun _ stored => stored.2
  have address : ∀ range, Stores env filter.path ["addr_start", "addr_end"]
      (filter.setAddressRange range)
      fun files => files.Leaf (filter.path ++ ["addr_start"]) (toString range.1.toNat) ∧
        files.Leaf (filter.path ++ ["addr_end"]) (toString range.2.toNat) := fun range =>
    (Stores.write solitary (by decide) _).seq (Stores.write solitary (by decide) _)
      fun _ _ rewrites => rewrites.leaf (by decide)
  have ranges := (Stores.payload config.addressRange address).seq (stageRanges_stores solitary carried)
    fun _ _ rewrites stored range given =>
      ⟨rewrites.leaf (by decide) (stored range given).1,
        rewrites.leaf (by decide) (stored range given).2⟩
  have payloads := (Stores.payload config.cgroupPath cgroup).seq ranges
    fun _ _ rewrites stored path given => rewrites.leaf (by decide) (stored path given)
  have selected := (setAllowed_stores solitary config.allow).seq payloads
    fun _ _ rewrites stored => stored.of_rewrites rewrites (by decide)
  have all := filterType.seq
    (matching.seq selected fun _ _ rewrites => rewrites.leaf (by decide))
    fun _ _ rewrites => rewrites.leaf (by decide)
  refine (all.widen (by decide)).mono ?_
  rintro files ⟨hasType, hasMatching, hasAllow, hasPath, hasAddress, hasSize, hasIndex, hasSum⟩
  exact ⟨hasType, hasMatching, hasAllow, hasPath, hasAddress, hasSize, hasIndex, hasSum⟩

end SchemeFilter

/-! ## Reading one filter -/

namespace SchemeFilterType

theorem trimmed_kernelName {filterType : SchemeFilterType}
    (known : ∀ name, filterType ≠ .unknown name) : Text.Trimmed filterType.kernelName := by
  cases filterType with
  | unknown name => exact absurd rfl (known name)
  | _ => exact .of_ends (by decide) (by decide)

theorem parse_kernelName {filterType : SchemeFilterType}
    (known : ∀ name, filterType ≠ .unknown name) : parse filterType.kernelName = filterType := by
  cases filterType with
  | unknown name => exact absurd rfl (known name)
  | _ => rfl

end SchemeFilterType

namespace SchemeFilter

variable {env : Env} {filter : SchemeFilter} {config : FilterConfig} {system : System}

theorem allowed_observes (solitary : env.Solitary)
    (stored : filter.AllowStored config.allow system.files) :
    Observes env system filter.allowed config.allow := by
  unfold AllowStored at stored
  refine (allowPath_observes filter solitary).bind ?_
  cases chosen : filter.allowName system.files with
  | some name =>
      rw [chosen] at stored
      exact Observes.flag solitary stored
  | none =>
      rw [chosen] at stored
      rw [stored]
      exact .pure false

theorem range_observes (solitary : env.Solitary) {range : Range64}
    {new : UInt64 → UInt64 → Except Error Range64} (made : new range.min range.max = .ok range)
    (stored : system.files.Leaf (filter.path ++ ["min"]) (toString range.min.toNat) ∧
      system.files.Leaf (filter.path ++ ["max"]) (toString range.max.toNat)) :
    Observes env system (filter.range new) range := by
  refine (Observes.number solitary stored.1).bind ((Observes.number solitary stored.2).bind ?_)
  rw [made]
  exact .pure _

theorem targetIndex_observes (solitary : env.Solitary) {index : Nat} (small : index < intBound)
    (stored : system.files.Leaf (filter.path ++ ["damon_target_idx"]) (toString index)) :
    Observes env system filter.targetIndex index := by
  have kept : (Int32.ofInt index).toInt = index :=
    Int32.toInt_ofInt_of_le (by omega) (by unfold intBound at small; omega)
  have positive : ¬Int32.ofInt index < 0 := by
    rw [Int32.lt_iff_toInt_lt, kept]
    exact not_lt_of_ge (Int.natCast_nonneg index)
  refine (Observes.i32 solitary small stored).bind ?_
  rw [if_neg positive, kept, Int.toNat_natCast]
  exact .pure _

/-- A stored filter is read as it was requested, without a placement. -/
theorem configuration_observes (solitary : env.Solitary) (carried : config.Carried)
    (stored : filter.Stored config system.files) :
    Observes env system filter.configuration { config with placement := .adaptive } := by
  have filterType : Observes env system filter.filterType config.filterType := by
    have observed : Observes env system filter.filterType
        (SchemeFilterType.parse config.filterType.kernelName) :=
      Observes.enum solitary (SchemeFilterType.trimmed_kernelName carried.known) stored.filterType
    rwa [SchemeFilterType.parse_kernelName carried.known] at observed
  refine filterType.bind ((Observes.flag solitary stored.matching).bind
    ((allowed_observes solitary stored.allow).bind ?_))
  obtain ⟨placement, type, matching, allow, path, address, size, index, sum⟩ := config
  obtain ⟨known, hasPath, hasAddress, hasSize, hasIndex, hasSum, small⟩ := carried
  obtain ⟨_, _, _, atPath, atAddress, atSize, atIndex, atSum⟩ := stored
  dsimp only at *
  cases type with
  | unknown name => exact absurd rfl (known name)
  | memoryControlGroup =>
      simp only [reduceCtorEq, iff_true, iff_false, Option.not_isSome_iff_eq_none] at *
      subst hasAddress hasSize hasIndex hasSum
      obtain ⟨path, rfl⟩ := Option.isSome_iff_exists.mp hasPath
      exact (Observes.line solitary (atPath path rfl)).bind (.pure _)
  | address =>
      simp only [reduceCtorEq, iff_true, iff_false, Option.not_isSome_iff_eq_none] at *
      subst hasPath hasSize hasIndex hasSum
      obtain ⟨range, rfl⟩ := Option.isSome_iff_exists.mp hasAddress
      have bounds := atAddress range rfl
      exact Observes.bind ((Observes.number solitary bounds.1).bind
        ((Observes.number solitary bounds.2).bind (.pure _))) (.pure _)
  | hugePageSize =>
      simp only [reduceCtorEq, iff_true, iff_false, Option.not_isSome_iff_eq_none] at *
      subst hasPath hasAddress hasIndex hasSum
      obtain ⟨range, rfl⟩ := Option.isSome_iff_exists.mp hasSize
      exact (range_observes solitary (dif_pos range.ordered) (atSize range rfl)).bind (.pure _)
  | target =>
      simp only [reduceCtorEq, iff_true, iff_false, Option.not_isSome_iff_eq_none] at *
      subst hasPath hasAddress hasSize hasSum
      obtain ⟨index, rfl⟩ := Option.isSome_iff_exists.mp hasIndex
      exact (targetIndex_observes solitary (small index rfl) (atIndex index rfl)).bind (.pure _)
  | probeHitsWeightedSum =>
      simp only [reduceCtorEq, iff_true, iff_false, Option.not_isSome_iff_eq_none] at *
      subst hasPath hasAddress hasSize hasIndex
      obtain ⟨range, rfl⟩ := Option.isSome_iff_exists.mp hasSum
      exact (range_observes solitary (dif_pos range.ordered) (atSum range rfl)).bind (.pure _)
  | anonymous | active | young | unmapped =>
      simp only [reduceCtorEq, iff_false, Option.not_isSome_iff_eq_none] at *
      subst hasPath hasAddress hasSize hasIndex hasSum
      exact .pure _

end SchemeFilter

/-! ## Layers -/

theorem SchemeFilter.Stored.of_same {filter : SchemeFilter} {config : FilterConfig}
    {before after : Files} (stored : filter.Stored config before)
    (same : ∀ inner, after.get? (filter.path ++ inner) = before.get? (filter.path ++ inner)) :
    filter.Stored config after := by
  have leaf : ∀ {name value : String}, before.Leaf (filter.path ++ [name]) value →
      after.Leaf (filter.path ++ [name]) value :=
    fun leaf => (same _).trans leaf
  have present : ∀ name, after.pathExists (filter.path ++ [name]) =
      before.pathExists (filter.path ++ [name]) := by
    intro name
    apply Files.pathExists_congr
    intro inner
    rw [List.append_assoc, same]
  have allow : filter.AllowStored config.allow after := by
    have selected := stored.allow
    unfold AllowStored allowName at selected ⊢
    rw [present, present]
    split_ifs at selected ⊢ with first second
    · exact leaf selected
    · exact leaf selected
    · exact selected
  exact
    { filterType := leaf stored.filterType
      matching := leaf stored.matching
      allow := allow
      cgroupPath := fun path given => leaf (stored.cgroupPath path given)
      addressRange := fun range given =>
        ⟨leaf (stored.addressRange range given).1, leaf (stored.addressRange range given).2⟩
      sizeRange := fun range given =>
        ⟨leaf (stored.sizeRange range given).1, leaf (stored.sizeRange range given).2⟩
      targetIndex := fun index given => leaf (stored.targetIndex index given)
      weightedSumRange := fun range given =>
        ⟨leaf (stored.weightedSumRange range given).1,
          leaf (stored.weightedSumRange range given).2⟩ }

namespace Scheme

variable {env : Env} {scheme : Scheme} {layer : FilterLayer} {filters : List FilterConfig}

def filterDirectory (scheme : Scheme) (layer : FilterLayer) : Path :=
  scheme.path ++ [layer.directory]

theorem filterCount_path (scheme : Scheme) (layer : FilterLayer) :
    scheme.path ++ [layer.directory, "nr_filters"] =
      scheme.filterDirectory layer ++ ["nr_filters"] := by
  simp [filterDirectory]

theorem filter_path (scheme : Scheme) (layer : FilterLayer) (index : Nat) :
    (scheme.filter layer index).path = scheme.filterDirectory layer ++ [Path.indexName index] := by
  simp [filterDirectory, filter]

/-- A layer holds filters in their order. -/
structure LayerStored (scheme : Scheme) (layer : FilterLayer) (filters : List FilterConfig)
    (files : Files) : Prop where
  counted : Content.Numbers (files.get? (scheme.path ++ [layer.directory, "nr_filters"]))
    filters.length
  each : ∀ index filter, filters[index]? = some filter →
    (scheme.filter layer index).Stored filter files
  small : filters.length < intBound

/-- Staging children stores each of them and changes nothing outside the layer. -/
theorem stageChildren_stores (solitary : env.Solitary) {start : Nat}
    (carried : ∀ filter ∈ filters, filter.Carried) {world after : World}
    (run : stageChildren (fun index filter _ =>
      (scheme.filter layer index).stageConfiguration filter) start filters none env world =
        (.ok (), after)) :
    (∀ offset filter, filters[offset]? = some filter →
      (scheme.filter layer (start + offset)).Stored filter after.sys.files) ∧
    (∀ path, (∀ index, start ≤ index → ¬(scheme.filter layer index).path <+: path) →
      after.sys.files.get? path = world.sys.files.get? path) := by
  induction filters generalizing start world with
  | nil =>
      cases run
      exact ⟨fun _ _ absent => by simp at absent, fun _ _ => rfl⟩
  | cons filter rest ih =>
      obtain ⟨_, middle, here, others⟩ := Exec.bind_eq_ok run
      obtain ⟨rewrites, stored⟩ := SchemeFilter.stageConfiguration_stores solitary
        (carried filter List.mem_cons_self) world middle here
      obtain ⟨each, same⟩ := ih (fun other member => carried other (List.mem_cons_of_mem _ member))
        others
      constructor
      · intro offset other hit
        cases offset with
        | zero =>
            cases hit
            apply stored.of_same
            intro inner
            apply same
            -- Later children have names of their own.
            intro index later below
            rw [filter_path, filter_path, List.append_assoc,
              List.prefix_append_right_inj] at below
            have equal := Path.indexName_injective (List.cons_prefix_cons.mp below).1
            omega
        | succ offset =>
            have inRest := each offset other hit
            rwa [Nat.add_assoc, Nat.add_comm 1 offset] at inRest
      · intro path apart
        rw [same path fun index later => apart index (by omega)]
        exact rewrites.outside path (apart start (le_refl _))

theorem stageFilterLayer_stores (solitary : env.Solitary)
    (carried : ∀ filter ∈ filters, filter.Carried) {world after : World}
    (run : scheme.stageFilterLayer layer filters env world = (.ok (), after)) :
    scheme.LayerStored layer filters after.sys.files ∧
      Outside (scheme.filterDirectory layer) world.sys.files after.sys.files := by
  obtain ⟨_, middle, counts, children⟩ := Exec.bind_eq_ok run
  rw [filterCount_path] at counts
  obtain ⟨numbers, outside, small⟩ := ensureCount_stores solitary (by decide) counts
  obtain ⟨each, same⟩ := stageChildren_stores solitary carried children
  constructor
  · refine ⟨?_, fun index filter hit => ?_, small⟩
    · rw [filterCount_path, same]
      · exact numbers
      · intro index _ below
        rw [filter_path, List.prefix_append_right_inj] at below
        have equal := (List.cons_prefix_cons.mp below).1
        have counted := Path.isCountName_indexName index
        rw [equal] at counted
        exact absurd counted (by decide)
    · have stored := each index filter hit
      rwa [Nat.zero_add] at stored
  · refine outside.trans fun path apart => same path fun index _ below => apart ?_
    rw [filter_path] at below
    exact (List.prefix_append _ _).trans below

/-- What a read of a layer finds: its filters, or none where there is no such layer. -/
def LayerReads (scheme : Scheme) (layer : FilterLayer) (filters : List FilterConfig)
    (files : Files) : Prop :=
  if files.pathExists (scheme.path ++ [layer.directory, "nr_filters"]) then
    scheme.LayerStored layer filters files
  else filters = []

theorem LayerStored.reads {files : Files} (stored : scheme.LayerStored layer filters files) :
    scheme.LayerReads layer filters files := by
  unfold LayerReads
  rw [if_pos]
  · exact stored
  · obtain ⟨file, hit, -⟩ := stored.counted
    rw [Files.pathExists_iff]
    exact ⟨[], by rw [List.append_nil, hit]; rfl⟩

/-- The directories of different layers have nothing in common. -/
theorem filterDirectory_apart {other : FilterLayer} (different : other ≠ layer) (inner : Path) :
    ¬scheme.filterDirectory other <+: scheme.filterDirectory layer ++ inner := by
  have names : other.directory ≠ layer.directory := by
    cases other <;> cases layer <;> first | exact absurd rfl different | decide
  rw [filterDirectory, filterDirectory, List.append_assoc]
  exact not_prefix_of_ne names

theorem filterCount_apart {other : FilterLayer} (different : other ≠ layer) (inner : Path) :
    ¬scheme.filterDirectory other <+:
      scheme.path ++ [layer.directory, "nr_filters"] ++ inner := by
  rw [filterCount_path, List.append_assoc]
  exact filterDirectory_apart different _

/-- A layer whose directory stays as it is reads as before. -/
theorem LayerReads.of_same {before after : Files} (reads : scheme.LayerReads layer filters before)
    (same : ∀ inner, after.get? (scheme.filterDirectory layer ++ inner) =
      before.get? (scheme.filterDirectory layer ++ inner)) :
    scheme.LayerReads layer filters after := by
  have present : after.pathExists (scheme.path ++ [layer.directory, "nr_filters"]) =
      before.pathExists (scheme.path ++ [layer.directory, "nr_filters"]) := by
    apply Files.pathExists_congr
    intro inner
    rw [filterCount_path, List.append_assoc, same]
  unfold LayerReads at reads ⊢
  rw [present]
  split_ifs at reads ⊢
  · obtain ⟨counted, each, small⟩ := reads
    refine ⟨?_, fun index filter hit => (each index filter hit).of_same fun inner => ?_, small⟩
    · rw [filterCount_path] at counted ⊢
      rwa [same]
    · rw [filter_path, List.append_assoc]
      exact same _
  · exact reads

theorem LayerReads.of_outside {other : FilterLayer} (different : other ≠ layer)
    {before after : Files} (reads : scheme.LayerReads layer filters before)
    (outside : Outside (scheme.filterDirectory other) before after) :
    scheme.LayerReads layer filters after :=
  reads.of_same fun inner => outside _ (filterDirectory_apart different inner)

theorem stageFilterLayerIfPresent_reads (solitary : env.Solitary)
    (carried : ∀ filter ∈ filters, filter.Carried) {present : Bool} {world after : World}
    (exists' : present =
      world.sys.files.pathExists (scheme.path ++ [layer.directory, "nr_filters"]))
    (run : scheme.stageFilterLayerIfPresent layer filters present env world = (.ok (), after)) :
    scheme.LayerReads layer filters after.sys.files ∧
      Outside (scheme.filterDirectory layer) world.sys.files after.sys.files := by
  unfold stageFilterLayerIfPresent at run
  split_ifs at run with there empty
  · obtain ⟨stored, outside⟩ := stageFilterLayer_stores solitary carried run
    exact ⟨stored.reads, outside⟩
  · cases run
    refine ⟨?_, Outside.refl _⟩
    unfold LayerReads
    rw [← exists', if_neg there]
    exact List.isEmpty_iff.mp empty
  · cases run

/-- A filter as a layer shows it. -/
def layered (layer : FilterLayer) (filter : FilterConfig) : FilterConfig :=
  { filter with placement := .fromLayer layer }

theorem readFilterLayer_observes (solitary : env.Solitary) {system : System}
    (carried : ∀ filter ∈ filters, filter.Carried)
    (reads : scheme.LayerReads layer filters system.files) :
    Observes env system (scheme.readFilterLayer layer) (filters.map (layered layer)) := by
  unfold LayerReads at reads
  refine (Observes.present solitary _).bind ?_
  split_ifs at reads ⊢
  · obtain ⟨counted, each, small⟩ := reads
    refine (Observes.usize solitary (lt_trans small (by decide)) counted).bind ?_
    have same : filters.map (layered layer) =
        (List.range filters.length).map fun index =>
          layered layer (filters.getD index (.new .active false false)) := by
      apply List.ext_getElem?
      intro index
      rw [List.getElem?_map, List.getElem?_map]
      by_cases inside : index < filters.length
      · rw [List.getElem?_range inside, List.getElem?_eq_getElem inside]
        simp [List.getD, List.getElem?_eq_getElem inside]
      · rw [List.getElem?_eq_none (by simpa using inside),
          List.getElem?_eq_none (by simpa using inside)]
        rfl
    rw [same]
    refine Observes.mapEach fun index member => ?_
    have inside := List.mem_range.mp member
    have hit := List.getElem?_eq_getElem inside
    have known := carried filters[index] (List.getElem_mem inside)
    refine (SchemeFilter.configuration_observes solitary known (each index _ hit)).bind ?_
    rw [List.getD, hit]
    exact .pure _
  · rw [reads]
    exact .pure []

/-- Layers that read back canonically. -/
structure ReadsCanonical (scheme : Scheme) (filters : List FilterConfig) (files : Files)
    (layers : FilterLayer → List FilterConfig) : Prop where
  reads : ∀ layer, scheme.LayerReads layer (layers layer) files
  carried : ∀ layer, ∀ filter ∈ layers layer, filter.Carried
  canonical : canonicalizeFilterPlacements filters
      ((layers .core).map (layered .core) ++ (layers .operations).map (layered .operations) ++
        (layers .unified).map (layered .unified)) =
    (layers .core).map (layered .core) ++ (layers .operations).map (layered .operations) ++
      (layers .unified).map (layered .unified)

/-- Where there are split layers, a filter settles in the layer that takes it. -/
theorem settle_eq_layered (filter : FilterConfig) :
    filter.settle true = layered (splitLayer filter) filter := by
  obtain ⟨placement, type, matching, allow, path, address, size, index, sum⟩ := filter
  unfold FilterConfig.settle layered splitLayer
  cases placement with
  | adaptive =>
      dsimp only
      rw [if_pos rfl, if_pos rfl]
      split <;> rfl
  | core | operations | unified => rfl

theorem filter_settle (filters : List FilterConfig) (layer : FilterLayer) :
    (filters.map (FilterConfig.settle true)).filter (·.placement = .fromLayer layer) =
      (filters.filter (splitLayer · = layer)).map (layered layer) := by
  have placed : ∀ filter : FilterConfig, (filter.settle true).placement = .fromLayer layer ↔
      splitLayer filter = layer := by
    intro filter
    rw [settle_eq_layered]
    unfold layered
    cases splitLayer filter <;> cases layer <;> simp [FilterPlacement.fromLayer]
  rw [List.filter_map]
  have same : filters.filter ((fun filter : FilterConfig =>
      decide (filter.placement = .fromLayer layer)) ∘ FilterConfig.settle true) =
      filters.filter (splitLayer · = layer) := by
    apply List.filter_congr
    intro filter _
    simp [placed]
  rw [same]
  apply List.map_congr_left
  intro filter member
  rw [settle_eq_layered]
  congr
  simpa using (List.mem_filter.mp member).2

/-- A successful staging leaves layers that read back canonically. -/
theorem stageSemanticFilters_canonical (solitary : env.Solitary)
    (carried : ∀ filter ∈ filters, filter.Carried) {world after : World}
    (run : scheme.stageSemanticFilters filters env world = (.ok (), after)) :
    ∃ layers, scheme.ReadsCanonical filters after.sys.files layers := by
  unfold stageSemanticFilters at run
  obtain ⟨one, looked, sameOne⟩ :=
    Observes.present solitary (scheme.path ++ ["core_filters", "nr_filters"]) world rfl
  rw [Exec.bind_run_ok looked] at run
  obtain ⟨two, looked, sameTwo⟩ := Observes.present solitary
    (scheme.path ++ ["ops_filters", "nr_filters"]) one sameOne
  rw [Exec.bind_run_ok looked] at run
  obtain ⟨three, looked, sameThree⟩ := Observes.present solitary
    (scheme.path ++ ["filters", "nr_filters"]) two sameTwo
  rw [Exec.bind_run_ok looked] at run
  rw [← sameThree] at run
  split_ifs at run with split only placed empty
  · obtain ⟨_, afterCore, core, run⟩ := Exec.bind_eq_ok run
    obtain ⟨_, afterOperations, operations, unified⟩ := Exec.bind_eq_ok run
    have inLayer : ∀ layer, ∀ filter ∈ filters.filter (splitLayer · = layer), filter.Carried :=
      fun layer filter member => carried filter (List.mem_filter.mp member).1
    obtain ⟨coreReads, outsideCore⟩ :=
      stageFilterLayerIfPresent_reads solitary (inLayer .core) rfl core
    have operationsPresent := outsideCore.present
      fun inner => filterCount_apart (show FilterLayer.core ≠ .operations by decide) inner
    obtain ⟨operationsReads, outsideOperations⟩ := stageFilterLayerIfPresent_reads solitary
      (inLayer .operations) operationsPresent.symm operations
    have unifiedPresent := (outsideOperations.present
      fun inner => filterCount_apart (show FilterLayer.operations ≠ .unified by decide) inner).trans
      (outsideCore.present
        fun inner => filterCount_apart (show FilterLayer.core ≠ .unified by decide) inner)
    obtain ⟨unifiedReads, outsideUnified⟩ := stageFilterLayerIfPresent_reads solitary
      (inLayer .unified) unifiedPresent.symm unified
    refine ⟨fun layer => filters.filter (splitLayer · = layer), ?_, inLayer, ?_⟩
    · intro layer
      cases layer with
      | core =>
          exact (coreReads.of_outside (by decide) outsideOperations).of_outside (by decide)
            outsideUnified
      | operations => exact operationsReads.of_outside (by decide) outsideUnified
      | unified => exact unifiedReads
    · simp only [← filter_settle]
      exact canonicalizeFilterPlacements_split rfl
  · cases run
  · rw [Bool.or_eq_true, not_or] at split
    obtain ⟨stored, outside⟩ := stageFilterLayer_stores solitary carried run
    have absent : ∀ layer, layer ≠ .unified → scheme.LayerReads layer [] three.sys.files := by
      intro layer different
      unfold LayerReads
      rw [if_neg]
      cases layer with
      | core => exact split.1
      | operations => exact split.2
      | unified => exact absurd rfl different
    have unsplit : hasSplitFilters filters = false := by
      unfold hasSplitFilters
      simpa using placed
    have settled : filters.map (layered .unified) = filters.map (FilterConfig.settle false) := by
      apply List.map_congr_left
      intro filter member
      have outside := hasSplitFilters_eq_false_iff.mp unsplit filter member
      obtain ⟨placement, type, matching, allow, path, address, size, index, sum⟩ := filter
      unfold layered FilterConfig.settle
      cases placement with
      | adaptive => rfl
      | unified => rfl
      | core => exact absurd rfl outside.1
      | operations => exact absurd rfl outside.2
    refine ⟨fun layer => if layer = .unified then filters else [], ?_, ?_, ?_⟩
    · intro layer
      by_cases same : layer = .unified
      · subst same
        exact stored.reads
      · rw [if_neg same]
        exact (absent layer same).of_outside (Ne.symm same) outside
    · intro layer filter member
      split_ifs at member
      · exact carried filter member
      · cases member
    · simp only [reduceCtorEq, if_false, if_true, List.map_nil, List.nil_append, settled]
      exact canonicalizeFilterPlacements_unified unsplit
  · cases run
    rw [Bool.or_eq_true, not_or] at split
    refine ⟨fun _ => [], ?_, fun _ _ member => (by cases member), ?_⟩
    · intro layer
      unfold LayerReads
      rw [if_neg]
      cases layer with
      | core => exact split.1
      | operations => exact split.2
      | unified => exact only
    · rw [List.isEmpty_iff.mp empty]
      rfl
  · cases run

/-- A scheme whose layers read back canonically is read with these layers. -/
theorem ReadsCanonical.configuration (solitary : env.Solitary) {world after : World}
    {layers : FilterLayer → List FilterConfig} {observed : SchemeConfig}
    (canonical : scheme.ReadsCanonical filters world.sys.files layers)
    (run : scheme.configuration env world = (.ok observed, after)) :
    canonicalizeFilterPlacements filters observed.filters = observed.filters := by
  have reads : ∀ layer, Observes env world.sys (scheme.readFilterLayer layer)
      ((layers layer).map (layered layer)) := fun layer =>
    readFilterLayer_observes solitary (canonical.carried layer) (canonical.reads layer)
  unfold Scheme.configuration at run
  obtain ⟨one, core, sameOne⟩ := reads .core world rfl
  rw [Exec.bind_run_ok core] at run
  obtain ⟨two, operations, sameTwo⟩ := reads .operations one sameOne
  rw [Exec.bind_run_ok operations] at run
  obtain ⟨three, unified, -⟩ := reads .unified two sameTwo
  rw [Exec.bind_run_ok unified] at run
  obtain ⟨action, _, -, run⟩ := Exec.bind_eq_ok run
  obtain ⟨pattern, _, -, run⟩ := Exec.bind_eq_ok run
  obtain ⟨interval, _, -, run⟩ := Exec.bind_eq_ok run
  obtain ⟨node, _, -, run⟩ := Exec.bind_eq_ok run
  obtain ⟨quota, _, -, run⟩ := Exec.bind_eq_ok run
  obtain ⟨watermarks, _, -, run⟩ := Exec.bind_eq_ok run
  obtain ⟨destinations, _, -, run⟩ := Exec.bind_eq_ok run
  obtain ⟨limit, _, -, run⟩ := Exec.bind_eq_ok run
  cases run
  exact canonical.canonical

end Scheme

theorem SchemeConfig.canonicalize_of_filters {observed : SchemeConfig}
    {filters : List FilterConfig}
    (canonical : canonicalizeFilterPlacements filters observed.filters = observed.filters) :
    { observed with filters := filters }.canonicalize observed = observed := by
  rw [canonicalize_eq_iff]
  refine ⟨rfl, ?_, canonical⟩
  simp [AccessPattern.equivalentAfterKernelNormalization]

/-- Canonicalization covers every staging that succeeds.  The filters of a scheme that are read
after it, however often anything else has changed since, match the request and pass the final
verification; and filters that match are the requested ones, each in a concrete layer and in the
requested order there. -/
theorem Scheme.stageSemanticFilters_covered :
    (∀ (env : Env) (scheme : Scheme) (filters : List FilterConfig) (targetCount : Nat)
      (world staged start after : World) (observed : SchemeConfig), env.Solitary →
      (∀ filter ∈ filters, filter.validate targetCount = .ok ()) →
      (∀ filter ∈ filters, ∀ name, filter.filterType ≠ .unknown name) →
      scheme.stageSemanticFilters filters env world = (.ok (), staged) →
      (∀ layer inner, start.sys.files.get? (scheme.filterDirectory layer ++ inner) =
        staged.sys.files.get? (scheme.filterDirectory layer ++ inner)) →
      scheme.configuration env start = (.ok observed, after) →
      semanticFiltersMatch filters observed.filters = true ∧
        { observed with filters := filters }.canonicalize observed = observed) ∧
    ∀ requested observed : List FilterConfig,
      (∀ filter ∈ observed, filter.placement ≠ .adaptive) →
      semanticFiltersMatch requested observed = true →
      ∃ placed, List.Forall₂ FilterConfig.PlacedAs requested placed ∧ placed.Perm observed ∧
        ∀ placement, observed.filter (·.placement = placement) =
          placed.filter (·.placement = placement) := by
  constructor
  · intro env scheme filters targetCount world staged start after observed solitary valid known
      stages same reads
    have carried : ∀ filter ∈ filters, filter.Carried := fun filter member =>
      FilterConfig.carried_of_validate (valid filter member) (known filter member)
    obtain ⟨layers, canonical⟩ := stageSemanticFilters_canonical solitary carried stages
    have still : scheme.ReadsCanonical filters start.sys.files layers :=
      { canonical with reads := fun layer => (canonical.reads layer).of_same (same layer) }
    have filtersSame := still.configuration solitary reads
    exact ⟨semanticFiltersMatch_of_canonical filtersSame,
      SchemeConfig.canonicalize_of_filters filtersSame⟩
  · intro requested observed concrete matching
    exact placed_of_semanticFiltersMatch concrete matching

namespace FilterFixture

def scheme : Scheme := ⟨["schemes", "0"]⟩

/-- A scheme whose kernel has both split layers, and one filter left from before. -/
def files : Files :=
  let leaves : List (Path × String) := [(["action"], "stat"),
    (["access_pattern", "sz", "min"], "0"), (["access_pattern", "sz", "max"], "4096"),
    (["access_pattern", "nr_accesses", "min"], "0"),
    (["access_pattern", "nr_accesses", "max"], "8"), (["access_pattern", "age", "min"], "0"),
    (["access_pattern", "age", "max"], "16"), (["quotas", "ms"], "10"), (["quotas", "bytes"], "0"),
    (["quotas", "reset_interval_ms"], "1000"), (["quotas", "weights", "sz_permil"], "0"),
    (["quotas", "weights", "nr_accesses_permil"], "0"), (["quotas", "weights", "age_permil"], "0"),
    (["watermarks", "metric"], "none"), (["watermarks", "interval_us"], "0"),
    (["watermarks", "high"], "0"), (["watermarks", "mid"], "0"), (["watermarks", "low"], "0"),
    (["core_filters", "nr_filters"], "1"), (["core_filters", "0", "type"], "target"),
    (["core_filters", "0", "damon_target_idx"], "3"), (["core_filters", "0", "matching"], "N"),
    (["core_filters", "0", "allow"], "N"), (["core_filters", "0", "addr_start"], "0"),
    (["core_filters", "0", "addr_end"], "0"), (["ops_filters", "nr_filters"], "0")]
  .ofAttributes (leaves.map fun (inner, value) => (scheme.path ++ inner, value, true))

/-- Each filter is created with the attributes of this kernel. -/
def kernel : Kernel :=
  ⟨fun _ _ => ["type", "matching", "allow", "memcg_path"].map fun name =>
    ([name], .ofWritten "", true)⟩

theorem pid_valid : (0 : UInt32) < 100 ∧ (100 : UInt32) ≤ 2147483647 := by decide

def env : Env := .calm kernel ⟨100, pid_valid⟩

def world : World := .initial (.settled files)

/-- Two filters of the operations layer around one of the core layer. -/
def filters : List FilterConfig :=
  [.new .young true false,
    { FilterConfig.new .address false true with addressRange := some (4096, 8192) },
    { FilterConfig.new .memoryControlGroup true true with
      placement := .operations, cgroupPath := some "/work load" }]

/-- The filters as the kernel shows them. -/
def observed : List FilterConfig :=
  [{ FilterConfig.new .address false true with
      placement := .core, addressRange := some (4096, 8192) },
    { FilterConfig.new .young true false with placement := .operations },
    { FilterConfig.new .memoryControlGroup true true with
      placement := .operations, cgroupPath := some "/work load" }]

theorem known : ∀ filter ∈ filters, ∀ name, filter.filterType ≠ .unknown name := by
  intro filter member name
  simp only [filters, List.mem_cons, List.not_mem_nil, or_false] at member
  rcases member with rfl | rfl | rfl <;> simp [FilterConfig.new]

theorem solitary : env.Solitary := by
  refine ⟨fun _ _ => rfl, fun clock access reads => ?_⟩
  cases access with
  | write path value => exact reads.elim
  | _ => rfl

end FilterFixture

open FilterFixture in
/-- Filters of both layers, staged in another order than they are read. -/
theorem Scheme.stageSemanticFilters_covered_layers :
    ∃ staged after scheme', FilterFixture.scheme.stageSemanticFilters filters env world =
        (.ok (), staged) ∧
      FilterFixture.scheme.configuration env staged = (.ok scheme', after) ∧
      scheme'.filters = observed ∧ semanticFiltersMatch filters scheme'.filters = true ∧
      ∃ placed, List.Forall₂ FilterConfig.PlacedAs filters placed ∧ placed.Perm observed := by
  obtain ⟨covers, exact⟩ := Scheme.stageSemanticFilters_covered
  have stages : (FilterFixture.scheme.stageSemanticFilters filters env world).1 = .ok () := by
    decide +kernel
  have reads : ((FilterFixture.scheme.configuration env
      (FilterFixture.scheme.stageSemanticFilters filters env world).2).1.toOption.map
        SchemeConfig.filters) = some observed := by
    decide +kernel
  cases run : FilterFixture.scheme.stageSemanticFilters filters env world with
  | mk outcome staged =>
      rw [run] at stages reads
      dsimp only at stages reads
      subst stages
      cases shown : FilterFixture.scheme.configuration env staged with
      | mk outcome after =>
          rw [shown] at reads
          cases outcome with
          | error error => cases reads
          | ok scheme' =>
              have same : scheme'.filters = observed := Option.some.inj reads
              have matching := (covers env FilterFixture.scheme filters 1 world staged staged after
                scheme' solitary (by decide) known run (fun _ _ => rfl) shown).1
              obtain ⟨placed, places, perm, -⟩ := exact filters observed (by decide)
                (same ▸ matching)
              exact ⟨staged, after, scheme', rfl, shown, same, matching, placed, places, perm⟩

end DamonRs
