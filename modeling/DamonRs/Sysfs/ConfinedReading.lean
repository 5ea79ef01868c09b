import DamonRs.Sysfs.Confined
import DamonRs.Sysfs.Ownership

/-!
# Reading and capturing are confined

Reading a configuration reads attributes below its handle and writes nothing.
Capturing and comparing configurations only reads.
-/

namespace DamonRs

open Library Sysfs

/-- Every attribute below a directory may be read. -/
def ReadsBelow (allowed : Access → Prop) (directory : Path) : Prop :=
  ∀ name rest, allowed (.read (directory ++ name :: rest))

namespace ReadsBelow

variable {allowed : Access → Prop} {directory : Path}

theorem at_ (below : ReadsBelow allowed directory) (suffix : Path) (nonempty : suffix ≠ []) :
    allowed (.read (directory ++ suffix)) := by
  cases suffix with
  | nil => exact absurd rfl nonempty
  | cons name rest => exact below name rest

theorem child (below : ReadsBelow allowed directory) (inner : Path) :
    ReadsBelow allowed (directory ++ inner) := by
  intro name rest
  rw [List.append_assoc]
  exact below.at_ _ (by simp)

end ReadsBelow

section Helpers

variable {allowed : Access → Prop} {α : Type}

theorem readIndexed_confined {count : Nat} {read : Nat → Sysfs α}
    (each : ∀ index, Confined allowed (read index)) : Confined allowed (readIndexed count read) :=
  .mapEach _ fun index _ => each index

theorem optionalRead_confined {path : Path} {read : Sysfs α} (confined : Confined allowed read) :
    Confined allowed (optionalRead path read) :=
  .bind (pathExists_confined path) fun _ => .ite (fun _ => confined.map) fun _ => .pure none

theorem optionalReadOr_confined {path : Path} {read : Sysfs α} {missing : α}
    (confined : Confined allowed read) : Confined allowed (optionalReadOr path read missing) :=
  (optionalRead_confined confined).map

theorem optionalPair_confined {first second : Path} {read : Sysfs α}
    (confined : Confined allowed read) : Confined allowed (optionalPair first second read) :=
  .bind (pathExists_confined first) fun _ =>
    .ite (fun _ => optionalRead_confined confined) fun _ => .pure none

theorem readCounted_confined {countPath : Path} {read : Nat → Sysfs α}
    (permitted : allowed (.read countPath)) (each : ∀ index, Confined allowed (read index)) :
    Confined allowed (readCounted countPath read) :=
  .bind (pathExists_confined countPath) fun _ =>
    .ite (fun _ => .bind (readUsize_confined permitted) fun _ => readIndexed_confined each)
      fun _ => .pure []

end Helpers

section Configurations

variable {allowed : Access → Prop}

theorem InitialRegion.configuration_confined {region : InitialRegion}
    (below : ReadsBelow allowed region.path) : Confined allowed region.configuration :=
  .bind (readU64_confined (below "start" [])) fun _ => (readU64_confined (below "end" [])).map

theorem Target.pid_confined {target : Target} (below : ReadsBelow allowed target.path) :
    Confined allowed target.pid := by
  refine .bind (readI32_confined (below "pid_target" [])) fun raw => ?_
  refine .ite (fun _ => .pure none) fun _ => .ite (fun _ => .fail _) fun _ => ?_
  cases Pid.new (UInt32.ofNat raw.toInt.toNat) with
  | ok pid => exact .pure _
  | error error => exact .fail _

theorem Target.configuration_confined {target : Target} (below : ReadsBelow allowed target.path) :
    Confined allowed target.configuration := by
  have regions : Confined allowed (readCounted (target.path ++ ["regions", "nr_regions"])
      fun index => (target.initialRegion index).configuration) :=
    readCounted_confined (below _ _) fun index =>
      InitialRegion.configuration_confined (below.child _)
  refine .bind regions fun _ => .bind (pid_confined below) fun _ => ?_
  exact (optionalReadOr_confined (readBool_confined (below _ _))).map

theorem ProbeFilter.configuration_confined {filter : ProbeFilter}
    (below : ReadsBelow allowed filter.path) : Confined allowed filter.configuration := by
  have cgroup : Confined allowed filter.cgroupPath := readSysfsString_confined (below _ _)
  have cgroupFor : ∀ filterType, Confined allowed (filter.cgroupPathFor filterType) := by
    intro filterType
    cases filterType with
    | memoryControlGroup => exact cgroup.map
    | unknown name => exact cgroup.map
    | _ => exact .pure none
  refine .bind (readEnum_confined (below _ _) _) fun filterType => ?_
  refine .bind (cgroupFor filterType) fun _ => .bind (readBool_confined (below _ _)) fun _ => ?_
  exact (readBool_confined (below _ _)).map

theorem ProbePreparation.configuration_confined {preparation : ProbePreparation}
    (below : ReadsBelow allowed preparation.path) : Confined allowed preparation.configuration :=
  (readEnum_confined (below _ _) _).map

theorem Probe.configuration_confined {probe : Probe} (below : ReadsBelow allowed probe.path) :
    Confined allowed probe.configuration := by
  refine .bind (readUsize_confined (below _ _)) fun _ => ?_
  refine .bind (readIndexed_confined fun index =>
    ProbeFilter.configuration_confined (below.child _)) fun _ => ?_
  refine .bind (optionalReadOr_confined (readU32_confined (below _ _))) fun _ => ?_
  exact (readCounted_confined (below _ _) fun index =>
    ProbePreparation.configuration_confined (below.child _)).map

theorem OperationAttributes.configuration_confined {attributes : OperationAttributes}
    (below : ReadsBelow allowed attributes.path) : Confined allowed attributes.configuration :=
  .bind (readBool_confined (below _ _)) fun _ => .bind (readBool_confined (below _ _)) fun _ =>
    .bind (readSysfsString_confined (below _ _)) fun _ =>
      (readSysfsString_confined (below _ _)).map

theorem SampleFilter.configuration_confined {filter : SampleFilter}
    (below : ReadsBelow allowed filter.path) : Confined allowed filter.configuration := by
  have cpuMask : Confined allowed filter.cpuMask := readSysfsString_confined (below _ _)
  have threadIds : Confined allowed filter.threadIds := readSysfsString_confined (below _ _)
  refine .bind (readEnum_confined (below _ _) _) fun filterType => ?_
  refine .bind (readBool_confined (below _ _)) fun _ => .bind (readBool_confined (below _ _))
    fun _ => ?_
  cases filterType with
  | cpuMask => exact cpuMask.map
  | threads => exact threadIds.map
  | unknown name =>
      exact .bind (optionalRead_confined cpuMask) fun _ => (optionalRead_confined threadIds).map
  | write => exact .pure _

theorem SampleControl.configuration_confined {control : SampleControl}
    (below : ReadsBelow allowed control.path) : Confined allowed control.configuration := by
  refine .bind (readBool_confined (below _ _)) fun _ => ?_
  refine .bind (readBool_confined (below _ _)) fun _ => ?_
  refine .bind (readUsize_confined (below _ _)) fun _ => ?_
  exact (readIndexed_confined fun index =>
    SampleFilter.configuration_confined (below.child _)).map

/-- What follows the lookup of the attribute that allows selected memory gets one of its names. -/
theorem SchemeFilter.allowPath_bind {α : Type} {filter : SchemeFilter}
    {next : Option Path → Sysfs α}
    (found : ∀ name ∈ ["allow", "pass"], Confined allowed (next (some (filter.path ++ [name]))))
    (missing : Confined allowed (next none)) : Confined allowed (filter.allowPath >>= next) := by
  have unfolded : filter.allowPath >>= next =
      pathExists (filter.path ++ ["allow"]) >>= fun current =>
        if current = true then next (some (filter.path ++ ["allow"]))
        else pathExists (filter.path ++ ["pass"]) >>= fun first =>
          if first = true then next (some (filter.path ++ ["pass"])) else next none := by
    simp only [SchemeFilter.allowPath, Exec.findEach, Exec.bind_assoc, Exec.ite_bind,
      Exec.pure_bind]
  rw [unfolded]
  refine .bind (pathExists_confined _) fun _ => .ite (fun _ => found _ (by simp)) fun _ => ?_
  exact .bind (pathExists_confined _) fun _ => .ite (fun _ => found _ (by simp)) fun _ => missing

theorem SchemeFilter.allowed_confined {filter : SchemeFilter}
    (below : ReadsBelow allowed filter.path) : Confined allowed filter.allowed :=
  allowPath_bind (fun _ _ => readBool_confined (below _ [])) (.pure false)

theorem SchemeFilter.addressRange_confined {filter : SchemeFilter}
    (below : ReadsBelow allowed filter.path) : Confined allowed filter.addressRange :=
  .bind (readU64_confined (below _ _)) fun _ => (readU64_confined (below _ _)).map

theorem SchemeFilter.range_confined {filter : SchemeFilter}
    (below : ReadsBelow allowed filter.path) (new : UInt64 → UInt64 → Except Error Range64) :
    Confined allowed (filter.range new) :=
  .bind (readU64_confined (below _ _)) fun _ => .bind (readU64_confined (below _ _)) fun _ =>
    .ofExcept _

theorem SchemeFilter.targetIndex_confined {filter : SchemeFilter}
    (below : ReadsBelow allowed filter.path) : Confined allowed filter.targetIndex :=
  .bind (readI32_confined (below _ _)) fun _ => .ite (fun _ => .fail _) fun _ => .pure _

theorem SchemeFilter.configuration_confined {filter : SchemeFilter}
    (below : ReadsBelow allowed filter.path) : Confined allowed filter.configuration := by
  have cgroup : Confined allowed filter.cgroupPath := readSysfsString_confined (below _ _)
  have address := addressRange_confined below
  have target := targetIndex_confined below
  refine .bind (readEnum_confined (below _ _) _) fun filterType => ?_
  refine .bind (readBool_confined (below _ _)) fun _ => .bind (allowed_confined below) fun _ => ?_
  cases filterType with
  | memoryControlGroup => exact cgroup.map
  | address => exact address.map
  | hugePageSize => exact (range_confined below _).map
  | target => exact target.map
  | probeHitsWeightedSum => exact (range_confined below _).map
  | unknown name =>
      refine .bind (optionalRead_confined cgroup) fun _ => ?_
      refine .bind (optionalPair_confined address) fun _ => ?_
      refine .bind (optionalPair_confined (range_confined below _)) fun _ => ?_
      exact (optionalRead_confined target).map
  | _ => exact .pure _

theorem MigrationDestination.configuration_confined {destination : MigrationDestination}
    (below : ReadsBelow allowed destination.path) : Confined allowed destination.configuration :=
  .bind (readU32_confined (below _ _)) fun _ => (readU32_confined (below _ _)).map

theorem QuotaGoal.configuration_confined {goal : QuotaGoal}
    (below : ReadsBelow allowed goal.path) : Confined allowed goal.configuration := by
  have node : ∀ metric, Confined allowed (goal.nodeIdFor metric) := fun _ =>
    .ite (fun _ => (readI32_confined (below _ _)).map) fun _ => .pure none
  have cgroup : ∀ metric, Confined allowed (goal.cgroupPathFor metric) := fun _ =>
    .ite (fun _ => (readSysfsString_confined (below _ _)).map) fun _ => .pure none
  refine .bind (optionalReadOr_confined (readEnum_confined (below _ _) _)) fun metric => ?_
  refine .bind (node metric) fun _ => .bind (cgroup metric) fun _ => ?_
  exact .bind (readU64_confined (below _ _)) fun _ => (readU64_confined (below _ _)).map

theorem SchemeQuotas.goalConfigurations_confined {quotas : SchemeQuotas}
    (below : ReadsBelow allowed quotas.path) : Confined allowed quotas.goalConfigurations :=
  readCounted_confined (below _ _) fun _ => QuotaGoal.configuration_confined (below.child _)

theorem SchemeQuotas.weights_confined {quotas : SchemeQuotas}
    (below : ReadsBelow allowed quotas.path) : Confined allowed quotas.weights := by
  have weight : ∀ name, Confined allowed (readU32 (quotas.path ++ ["weights"] ++ [name])) :=
    fun name => readU32_confined (below.child ["weights"] name [])
  exact .bind (weight _) fun _ => .bind (weight _) fun _ => (weight _).map

theorem SchemeQuotas.configuration_confined {quotas : SchemeQuotas}
    (below : ReadsBelow allowed quotas.path) : Confined allowed quotas.configuration := by
  refine .bind (readU64_confined (below _ _)).map fun _ => ?_
  refine .bind (readU64_confined (below _ _)) fun _ => ?_
  refine .bind (readU64_confined (below _ _)).map fun _ => ?_
  refine .bind (weights_confined below) fun _ => ?_
  refine .bind (goalConfigurations_confined below) fun _ => ?_
  refine .bind (optionalReadOr_confined (readEnum_confined (below _ _) _)) fun _ => ?_
  refine .bind (optionalReadOr_confined (readU32_confined (below _ _))) fun _ => ?_
  exact (optionalReadOr_confined (readU32_confined (below _ _))).map

theorem SchemeWatermarks.configuration_confined {watermarks : SchemeWatermarks}
    (below : ReadsBelow allowed watermarks.path) : Confined allowed watermarks.configuration := by
  refine .bind (readEnum_confined (below _ _) _) fun _ => ?_
  refine .bind (readU64_confined (below _ _)).map fun _ => ?_
  refine .bind (readU64_confined (below _ _)) fun _ => ?_
  exact .bind (readU64_confined (below _ _)) fun _ => (readU64_confined (below _ _)).map

theorem Scheme.readRange32_confined {path : Path} (below : ReadsBelow allowed path)
    (new : UInt32 → UInt32 → Except Error Range32) :
    Confined allowed (Scheme.readRange32 new path) :=
  .bind (readU32_confined (below _ _)) fun _ => .bind (readU32_confined (below _ _)) fun _ =>
    .ofExcept _

theorem Scheme.accessPattern_confined {scheme : Scheme}
    (below : ReadsBelow allowed scheme.path) : Confined allowed scheme.accessPattern := by
  have inner : ∀ name, ReadsBelow allowed (scheme.path ++ ["access_pattern"] ++ [name]) :=
    fun name => (below.child _).child _
  have size : Confined allowed
      (Scheme.readRegionSizeRange (scheme.path ++ ["access_pattern"] ++ ["sz"])) :=
    .bind (readU64_confined (inner _ _ _)) fun _ =>
      .bind (readU64_confined (inner _ _ _)) fun _ => .ofExcept _
  refine .bind size fun _ => .bind (readRange32_confined (inner _) _) fun _ => ?_
  exact (readRange32_confined (inner _) _).map

theorem Scheme.readFilterLayer_confined {scheme : Scheme} (layer : FilterLayer)
    (below : ReadsBelow allowed scheme.path) : Confined allowed (scheme.readFilterLayer layer) :=
  readCounted_confined (below _ _) fun _ =>
    (SchemeFilter.configuration_confined (below.child _)).map

theorem Scheme.readDestinations_confined {scheme : Scheme}
    (below : ReadsBelow allowed scheme.path) : Confined allowed scheme.readDestinations :=
  readCounted_confined (below _ _) fun _ =>
    MigrationDestination.configuration_confined (below.child _)

theorem Scheme.configuration_confined {scheme : Scheme}
    (below : ReadsBelow allowed scheme.path) : Confined allowed scheme.configuration := by
  refine .bind (readFilterLayer_confined _ below) fun _ => ?_
  refine .bind (readFilterLayer_confined _ below) fun _ => ?_
  refine .bind (readFilterLayer_confined _ below) fun _ => ?_
  refine .bind (readEnum_confined (below _ _) _) fun _ => ?_
  refine .bind (accessPattern_confined below) fun _ => ?_
  refine .bind (optionalReadOr_confined (readU64_confined (below _ _)).map) fun _ => ?_
  refine .bind (optionalRead_confined (readI32_confined (below _ _))) fun _ => ?_
  refine .bind (SchemeQuotas.configuration_confined (below.child _)) fun _ => ?_
  refine .bind (SchemeWatermarks.configuration_confined (below.child _)) fun _ => ?_
  refine .bind (readDestinations_confined below) fun _ => ?_
  exact (optionalReadOr_confined (readU64_confined (below _ _))).map

theorem Context.addressUnit_confined {context : Context}
    (below : ReadsBelow allowed context.path) : Confined allowed context.addressUnit := by
  refine .bind (readU64_confined (below _ _)) fun bytes => ?_
  cases AddressUnit.new bytes with
  | ok unit => exact .pure unit
  | error error => exact .fail _

theorem Context.intervals_confined {context : Context}
    (below : ReadsBelow allowed context.path) : Confined allowed context.intervals := by
  have inner : ReadsBelow allowed context.intervalsPath := below.child _
  refine .bind (readU64_confined (inner _ _)) fun _ => ?_
  refine .bind (readU64_confined (inner _ _)) fun _ => ?_
  exact .bind (readU64_confined (inner _ _)) fun _ => .ofExcept _

theorem Context.regionBounds_confined {context : Context}
    (below : ReadsBelow allowed context.path) : Confined allowed context.regionBounds := by
  have inner : ReadsBelow allowed (context.path ++ ["monitoring_attrs", "nr_regions"]) :=
    below.child _
  refine .bind (readU64_confined (inner _ _)) fun _ => ?_
  exact .bind (readU64_confined (inner _ _)) fun _ => .ofExcept _

theorem Context.intervalsGoal_confined {context : Context}
    (below : ReadsBelow allowed context.path) : Confined allowed context.intervalsGoal := by
  have inner : ReadsBelow allowed context.intervalsGoalPath := (below.child _).child _
  refine .bind (readU64_confined (inner _ _)) fun _ => ?_
  refine .bind (readU64_confined (inner _ _)) fun _ => ?_
  exact .bind (readU64_confined (inner _ _)) fun _ => (readU64_confined (inner _ _)).map

theorem Context.readDirectoryOr_confined {α : Type} {path : Path} {read : Sysfs α} {missing : α}
    (confined : Confined allowed read) :
    Confined allowed (Context.readDirectoryOr path read missing) :=
  .bind (pathExists_confined path) fun _ => .ite (fun _ => confined) fun _ => .pure _

theorem Context.configuration_confined {context : Context}
    (below : ReadsBelow allowed context.path) : Confined allowed context.configuration := by
  refine .bind (readUsize_confined (below _ _)) fun _ => ?_
  refine .bind (readIndexed_confined fun _ => Target.configuration_confined (below.child _))
    fun _ => ?_
  refine .bind (readUsize_confined (below _ _)) fun _ => ?_
  refine .bind (readIndexed_confined fun _ => Scheme.configuration_confined (below.child _))
    fun _ => ?_
  refine .bind (readCounted_confined (below _ _) fun _ =>
    Probe.configuration_confined (below.child _)) fun _ => ?_
  refine .bind (readEnum_confined (below _ _) _) fun _ => ?_
  refine .bind (optionalReadOr_confined (addressUnit_confined below)) fun _ => ?_
  refine .bind (optionalReadOr_confined (readBool_confined (below _ _))) fun _ => ?_
  refine .bind (readDirectoryOr_confined
    (OperationAttributes.configuration_confined (below.child _))) fun _ => ?_
  refine .bind (intervals_confined below) fun _ => ?_
  refine .bind (optionalReadOr_confined (intervalsGoal_confined below)) fun _ => ?_
  refine .bind (regionBounds_confined below) fun _ => ?_
  exact (readDirectoryOr_confined (SampleControl.configuration_confined (below.child _))).map

theorem Kdamond.contextCount_confined {kdamond : Kdamond}
    (permitted : ReadsBelow allowed (kdamond.path ++ ["contexts"])) :
    Confined allowed kdamond.contextCount := by
  have read := permitted "nr_contexts" []
  rw [List.append_assoc] at read
  exact readUsize_confined read

/-- A kdamond reads its refresh interval and what lies below its contexts. -/
theorem Kdamond.configuration_confined {kdamond : Kdamond}
    (refresh : allowed (.read (kdamond.path ++ ["refresh_ms"])))
    (below : ReadsBelow allowed (kdamond.path ++ ["contexts"])) :
    Confined allowed kdamond.configuration := by
  refine .bind (optionalReadOr_confined (readU32_confined refresh).map) fun _ => ?_
  refine .bind (contextCount_confined below) fun _ => ?_
  refine (readIndexed_confined fun index => Context.configuration_confined ?_).map
  have inner := below.child [Path.indexName index]
  rw [List.append_assoc] at inner
  exact inner

end Configurations

/-! ## Accesses that only read configuration -/

/-- Whether a path is the thread identifier of a kdamond. -/
def Path.isIdentity (path : Path) : Bool :=
  match path with
  | ["kdamonds", _, "pid"] => true
  | _ => false

/-- Accesses that write nothing and read no thread identifier. -/
def ReadsConfiguration : Access → Prop
  | .inspect _ => True
  | .read path => path.isIdentity = false
  | .compare _ => True
  | .write _ _ => False

section Capture

theorem readsConfiguration_below (index : Nat) :
    ReadsBelow ReadsConfiguration ((DamonAdmin.kdamond index).path ++ ["contexts"]) :=
  fun _ _ => rfl

theorem DamonAdmin.kdamondCount_confined :
    Confined ReadsConfiguration DamonAdmin.kdamondCount := readUsize_confined rfl

theorem DamonAdmin.configuration_confined :
    Confined ReadsConfiguration DamonAdmin.configuration := by
  refine .bind kdamondCount_confined fun _ => (readIndexed_confined fun index => ?_).map
  exact Kdamond.configuration_confined rfl (readsConfiguration_below index)

theorem Kdamond.state_confined (index : Nat) :
    Confined ReadsConfiguration (DamonAdmin.kdamond index).state :=
  .bind (readText_confined rfl) fun _ => .ofExcept _

variable {allowed : Access → Prop}

theorem configurationFile?_confined (root path : Path) :
    Confined allowed (configurationFile? root path) := by
  unfold configurationFile?
  cases stripPrefix? root path with
  | none => exact .fail _
  | some relative =>
      exact .ite (fun _ => .pure none) fun _ => (pathIsWritable_confined path).map

theorem writableConfigurationFiles_confined (root : Path) :
    Confined allowed (writableConfigurationFiles root) :=
  .bind (allFilesRecursive_confined root) fun _ =>
    (Confined.mapEach _ fun path _ => configurationFile?_confined root path).map

/-- A walk finds files strictly below its directory. -/
theorem walkFiles_returns {budget : Nat} {directory : Path} {files : List Path}
    (returns : Exec.Returns (walkFiles budget directory) files) :
    ∀ file ∈ files, ∃ name rest, file = directory ++ name :: rest := by
  induction budget generalizing directory files with
  | zero =>
      obtain ⟨env, world, after, run⟩ := returns
      simp [walkFiles] at run
  | succ budget ih =>
      obtain ⟨outcome, _, listed⟩ := Exec.returns_bind returns
      cases outcome with
      | error fault =>
          obtain ⟨env, world, after, run⟩ := listed
          simp at run
      | ok entries =>
          obtain ⟨inner, innerReturns, last⟩ := Exec.returns_bind listed
          rw [Exec.returns_pure last]
          intro file member
          rcases List.mem_append.mp member with direct | nested
          · obtain ⟨entry, _, named⟩ := List.mem_filterMap.mp direct
            cases isDirectory : entry.2 with
            | true => simp [isDirectory] at named
            | false => exact ⟨entry.1, [], by simpa [isDirectory] using named.symm⟩
          · obtain ⟨group, groupMember, inGroup⟩ := List.mem_flatten.mp nested
            obtain ⟨child, childMember, childReturns⟩ :=
              Exec.returns_mapEach innerReturns group groupMember
            obtain ⟨entry, _, named⟩ := List.mem_filterMap.mp (List.mem_reverse.mp childMember)
            cases isDirectory : entry.2 with
            | false => simp [isDirectory] at named
            | true =>
                have childPath : directory ++ [entry.1] = child := by
                  simpa [isDirectory] using named
                obtain ⟨name, rest, below⟩ := ih childReturns file inGroup
                exact ⟨entry.1, name :: rest, by rw [below, ← childPath, List.append_assoc]; rfl⟩

theorem configurationFile?_returns {root path kept : Path}
    (returns : Exec.Returns (configurationFile? root path) (some kept)) :
    kept = path ∧ ∃ relative, stripPrefix? root path = some relative ∧
      Path.isRuntimeAttribute relative = false := by
  unfold configurationFile? at returns
  cases stripped : stripPrefix? root path with
  | none =>
      obtain ⟨env, world, after, run⟩ := returns
      simp [stripped] at run
  | some relative =>
      simp only [stripped] at returns
      by_cases runtime : Path.isRuntimeAttribute relative = true
      · rw [if_pos runtime] at returns
        cases Exec.returns_pure returns
      · rw [if_neg runtime] at returns
        obtain ⟨writable, _, last⟩ := Exec.returns_bind returns
        have same := Exec.returns_pure last
        cases writable with
        | false => cases same
        | true =>
            injection same with same
            exact ⟨same, relative, rfl, by simpa using runtime⟩

/-- A path of configuration strictly below a root. -/
def ConfigurationBelow (root path : Path) : Prop :=
  ∃ name rest, path = root ++ name :: rest ∧ Path.isRuntimeAttribute (name :: rest) = false

theorem writableConfigurationFiles_returns {root : Path} {paths : List Path}
    (returns : Exec.Returns (writableConfigurationFiles root) paths) :
    ∀ path ∈ paths, ConfigurationBelow root path := by
  obtain ⟨files, filesReturn, rest⟩ := Exec.returns_bind returns
  obtain ⟨kept, keptReturns, last⟩ := Exec.returns_bind rest
  rw [Exec.returns_pure last]
  intro path member
  have inKept : some path ∈ kept := by
    simpa [List.reduceOption] using
      (List.perm_insertionSort (· ≤ ·) kept.reduceOption).mem_iff.mp member
  obtain ⟨file, fileMember, fileReturns⟩ := Exec.returns_mapEach keptReturns _ inKept
  obtain ⟨same, relative, stripped, configuration⟩ := configurationFile?_returns fileReturns
  obtain ⟨name, inner, below⟩ := walkFiles_returns filesReturn file fileMember
  rw [below, stripPrefix?_append] at stripped
  injection stripped with stripped
  exact ⟨name, inner, by rw [same, below], stripped ▸ configuration⟩

theorem captureConfiguration_confined {root : Path}
    (reads : ∀ path, ConfigurationBelow root path → allowed (.read path)) :
    Confined allowed (captureConfiguration root) := by
  refine .bindReturned (writableConfigurationFiles_confined root) fun paths returned => ?_
  refine (Confined.mapEach _ fun path member => ?_).map
  have below := writableConfigurationFiles_returns returned path member
  exact (readConfigurationValue_confined (reads path below)).map

theorem entriesMatch_confined (compares : ∀ path, allowed (.compare path)) (skip : Path → Bool)
    (entries : List ConfigurationEntry) : Confined allowed (entriesMatch skip entries) := by
  induction entries with
  | nil => exact .pure true
  | cons entry rest ih =>
      refine .ite (fun _ => ih) fun _ => ?_
      exact .bind (readConfigurationValueEquals_confined (compares _) _) fun _ =>
        .ite (fun _ => ih) fun _ => .pure false

end Capture

/-- An attribute that holds configuration is no thread identifier. -/
theorem ConfigurationBelow.isIdentity {root path : Path} (below : ConfigurationBelow root path) :
    path.isIdentity = false := by
  obtain ⟨name, rest, same, configuration⟩ := below
  cases identity : path.isIdentity with
  | false => rfl
  | true =>
      have last : path.getLast? = some "pid" := by
        unfold Path.isIdentity at identity
        split at identity
        · rfl
        · cases identity
      rw [same, List.getLast?_append_of_ne_nil _ (by simp)] at last
      simp [Path.isRuntimeAttribute, last] at configuration

theorem captureConfiguration_reads (root : Path) :
    Confined ReadsConfiguration (captureConfiguration root) :=
  captureConfiguration_confined fun _ below => below.isIdentity

theorem DamonAdmin.configurationSnapshot_confined :
    Confined ReadsConfiguration DamonAdmin.configurationSnapshot :=
  (captureConfiguration_reads []).map

namespace ConfigurationSnapshot

theorem matchesCurrentExcept_confined (snapshot : ConfigurationSnapshot) (ignored : List Path) :
    Confined ReadsConfiguration (snapshot.matchesCurrentExcept ignored) :=
  entriesMatch_confined (fun _ => trivial) _ _

theorem matchesCurrentUnderExcept_confined (snapshot : ConfigurationSnapshot) (root : Path)
    (ignored : List Path) :
    Confined ReadsConfiguration (snapshot.matchesCurrentUnderExcept root ignored) :=
  entriesMatch_confined (fun _ => trivial) _ _

theorem matchesCurrentOutsideExcept_confined (snapshot : ConfigurationSnapshot) (root : Path)
    (ignored : List Path) :
    Confined ReadsConfiguration (snapshot.matchesCurrentOutsideExcept root ignored) :=
  entriesMatch_confined (fun _ => trivial) _ _

theorem valuesMatchCurrent_confined (snapshot : ConfigurationSnapshot) :
    Confined ReadsConfiguration snapshot.valuesMatchCurrent :=
  entriesMatch_confined (fun _ => trivial) _ _

theorem matchesCompleteCurrentExcept_confined (snapshot : ConfigurationSnapshot)
    (ignored : List Path) :
    Confined ReadsConfiguration (snapshot.matchesCompleteCurrentExcept ignored) :=
  (captureConfiguration_reads _).map

theorem matchesCurrent_confined (snapshot : ConfigurationSnapshot) :
    Confined ReadsConfiguration snapshot.matchesCurrent :=
  (captureConfiguration_reads _).map

end ConfigurationSnapshot

end DamonRs
