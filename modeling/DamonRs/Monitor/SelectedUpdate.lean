import DamonRs.Monitor.Adoption
import DamonRs.Monitor.Agreement
import DamonRs.Sysfs.Within

/-!
# Updates of selected kdamonds

An update stages the whole hierarchy, but a kdamond that is not selected keeps
the configuration observed before, and nothing of it is written while the
kdamond count lasts.  A selected kdamond gets its commit after the read-back of
the whole request.
-/

namespace DamonRs

open Library Sysfs

/-! ## Writes below selected kdamonds -/

/-- Accesses that write below selected kdamonds only. -/
def Access.BelowSelected (selected : List Nat) : Access → Prop
  | .write path _ => ∃ index ∈ selected, (DamonAdmin.kdamond index).path <+: path
  | _ => True

theorem ReadsOnly.belowSelected {selected : List Nat} {access : Access} (reads : ReadsOnly access) :
    access.BelowSelected selected := by
  cases access with
  | write path value => exact reads.elim
  | _ => trivial

theorem belowSelected_below {selected : List Nat} {index : Nat} (member : index ∈ selected)
    (suffix : Path) : StagesBelow (Access.BelowSelected selected)
      ((DamonAdmin.kdamond index).path ++ suffix) where
  reads := fun _ _ => trivial
  writes := fun inner value _ _ _ =>
    ⟨index, member, suffix ++ inner, by simp only [List.append_assoc]⟩
  counts := fun inner name count value _ _ _ =>
    ⟨index, member, suffix ++ inner ++ [name, count], by simp only [List.append_assoc]⟩
  limits := fun inner value _ => ⟨index, member, suffix ++ inner ++ ["stats", "max_nr_snapshots"],
    by simp only [List.append_assoc]⟩

/-- A kdamond is a directory, so a count below it lies in the kdamond or deeper. -/
theorem kdamond_prefix_dropLast {index : Nat} {path : Path}
    (below : (DamonAdmin.kdamond index).path <+: path)
    (isCount : Path.isReconstructionCount path = true) :
    (DamonAdmin.kdamond index).path <+: path.dropLast := by
  obtain ⟨inner, rfl⟩ := below
  have nonempty : inner ≠ [] := by
    rintro rfl
    rw [List.append_nil] at isCount
    exact Bool.false_ne_true ((Path.isCountName_indexName index).symm.trans isCount)
  rw [List.dropLast_append_of_ne_nil nonempty]
  exact List.prefix_append _ _

/-- Nothing below a kdamond rebuilds the hierarchy. -/
theorem Access.BelowSelected.keepsCount {selected : List Nat} {found : Option File}
    {path : Path} {value : String} (below : (Access.write path value).BelowSelected selected)
    (kernel : Kernel) (pid : Pid) (sys after : System)
    (counted : sys.files.get? DamonAdmin.countPath = found)
    (written : sys.write kernel pid path value = .ok after) :
    after.files.get? DamonAdmin.countPath = found := by
  obtain ⟨index, _, below⟩ := below
  have different : ∀ {directory : Path}, (DamonAdmin.kdamond index).path <+: directory →
      ¬directory <+: DamonAdmin.countPath := by
    rintro directory ⟨inner, rfl⟩ ⟨rest, same⟩
    have names : Path.indexName index = "nr_kdamonds" := by
      simp only [DamonAdmin.kdamond, DamonAdmin.countPath, List.cons_append, List.nil_append,
        List.cons.injEq, true_and] at same
      exact same.1
    have isCount := Path.isCountName_indexName index
    rw [names] at isCount
    cases isCount
  rw [System.write_other written ?_ rfl fun isCount => ?_]
  · exact counted
  · rintro rfl
    exact different below (List.prefix_refl _)
  · cases child : indexedChild? path.dropLast DamonAdmin.countPath with
    | none => rfl
    | some found =>
        exact absurd (indexedChild?_below child) (different (kdamond_prefix_dropLast below isCount))

/-- The interval leaves that the kernel may tune. -/
def Path.isTunable : Path → Bool
  | ["kdamonds", _, "contexts", _, "monitoring_attrs", "intervals", name] =>
      name = "sample_us" || name = "aggr_us"
  | _ => false

/-- No other writer: nothing outside changes a file but the kernel, which tunes intervals. -/
def Env.OnlyTunes (env : Env) : Prop :=
  ∀ clock sys path, Path.isTunable path = false →
    (env.interfere clock sys).files.get? path = sys.files.get? path

/-- The kdamond count lasts when nothing else is written. -/
theorem Env.OnlyTunes.count {env : Env} (tunes : env.OnlyTunes) (world : World) :
    Lasting (fun sys => sys.files.get? DamonAdmin.countPath =
      world.sys.files.get? DamonAdmin.countPath) env world :=
  ⟨rfl, fun clock sys _ same => (tunes clock sys _ rfl).trans same⟩

namespace ManagedHierarchy

/-! ## The frame -/

/-- A request that leaves every kdamond that is not selected as it was observed. -/
def LeavesUnselected (selected : List Nat) (config observed : DamonConfig) : Prop :=
  ∀ (i : Nat) (kdamond : KdamondConfig), config.kdamonds[i]? = some kdamond → i ∉ selected →
    observed.kdamonds[i]? = some kdamond

theorem leavesUnselected_withoutObsolete (config : DamonConfig) (selected : List Nat) :
    LeavesUnselected selected (withoutObsoleteTargets config selected) config := by
  intro i kdamond hit unselected
  rw [withoutObsoleteTargets_getElem?] at hit
  obtain ⟨found, at', same⟩ := Option.map_eq_some_iff.mp hit
  rw [if_neg unselected] at same
  rw [at', same]

section Frame

variable {selected : List Nat} {found : Option File} {env : Env} {start : World}

/-- The runs of an update: the count lasts and writes stay below the selected kdamonds. -/
abbrev Framed (selected : List Nat) (found : Option File) (env : Env) (start : World) :
    World → Prop :=
  World.Within (Access.BelowSelected selected)
    (fun sys => sys.files.get? DamonAdmin.countPath = found) env start

theorem framed_of_confined {α : Type} {program : Sysfs α}
    (confined : Confined (Access.BelowSelected selected) program) :
    Exec.Triple env (Framed selected found env start) program
      fun _ => Framed selected found env start :=
  confined.within (fun _ => trivial) fun _ _ => Access.BelowSelected.keepsCount

theorem framed_of_reads {α : Type} {program : Sysfs α} (confined : Confined ReadsOnly program) :
    Exec.Triple env (Framed selected found env start) program
      fun _ => Framed selected found env start :=
  framed_of_confined (confined.mono fun _ => ReadsOnly.belowSelected)

/-- Staging next to what was observed touches the selected kdamonds only. -/
theorem stageConfigurationFrom_framed {config observed : DamonConfig}
    (leaves : LeavesUnselected selected config observed)
    (lengths : observed.kdamonds.length = config.kdamonds.length)
    (numbers : Content.Numbers found config.kdamonds.length) :
    Exec.Triple env (Framed selected found env start)
      (DamonAdmin.stageConfigurationFrom config (some observed))
      fun _ => Framed selected found env start := by
  have counted : Exec.Triple env (Framed selected found env start)
      (stageCounted DamonAdmin.countPath config.kdamonds
        ((some observed).map DamonConfig.kdamonds)
        fun index kdamond => (DamonAdmin.kdamond index).stageConfigurationFrom kdamond)
      fun _ => Framed selected found env start := by
    refine stageCounted_within (fun _ => trivial) (fun _ _ => Access.BelowSelected.keepsCount)
      trivial (fun sys same => by rwa [same]) fun i kdamond hit => ?_
    refine framed_of_confined (Kdamond.stageConfigurationFrom_confined fun changed => ?_)
    have member : i ∈ selected := by
      by_contra unselected
      refine changed ?_
      simpa [comparable, Option.filter, lengths] using leaves i kdamond hit unselected
    refine ⟨fun value => ⟨i, member, List.prefix_append _ _⟩, trivial,
      fun value => ⟨i, member, List.prefix_append _ _⟩, fun index context _ => .ofBelow ?_⟩
    exact belowSelected_below member ["contexts", Path.indexName index]
  unfold DamonAdmin.stageConfigurationFrom stageWhen
  split
  · exact counted
  · exact fun _ framed => framed

/-- A verified count is the number of recorded states. -/
theorem verifyManagedCount_ok {world after : World}
    (run : verifyManagedCount env world = (.ok (), after)) :
    Content.Numbers (after.sys.files.get? DamonAdmin.countPath) world.self.states.length := by
  obtain ⟨number, read, count, decided⟩ := Exec.bind_eq_ok run
  obtain ⟨rfl, numbers⟩ := readUsize_ok count
  obtain ⟨self, _, isSelf, decided⟩ := Exec.bind_eq_ok decided
  cases isSelf
  split at decided
  · cases decided
  · rename_i same
    cases decided
    rw [not_not.mp same] at numbers
    exact numbers

/-- Each attempt finds the recorded number of kdamonds before it stages. -/
theorem stageRunning_framed {config observed : DamonConfig}
    (leaves : LeavesUnselected selected config observed)
    (lengths : Content.Numbers found config.kdamonds.length →
      observed.kdamonds.length = config.kdamonds.length)
    (length : config.kdamonds.length = start.self.states.length) :
    Exec.Triple env (Framed selected found env start) (stageRunning config (some observed))
      fun _ => Framed selected found env start := by
  have verifies : Exec.Triple env (Framed selected found env start) verifyOwnedIdentitiesOnly
      fun _ => Framed selected found env start :=
    framed_of_reads verifyOwnedIdentitiesOnly_readsOnly
  refine Exec.triple_seq (Exec.triple_retry ?_ maxRetries) (fun _ => verifies) fun _ h => h
  intro world framed
  have checked := verifies world framed
  cases run : verifyOwnedIdentitiesOnly env world with
  | mk outcome after =>
      rw [run] at checked
      cases outcome with
      | error error =>
          rw [Exec.bind_run_error run]
          exact ⟨checked, checked⟩
      | ok value =>
          rw [Exec.bind_run_ok run]
          obtain ⟨_, counted, count, _⟩ := Exec.bind_eq_ok run
          have counting : Framed selected found env start counted :=
            (framed_of_reads verifyManagedCount_reads.readsOnly).run framed count
          have numbers := verifyManagedCount_ok count
          rw [counting.lasting.now, framed.accesses.self, ← length] at numbers
          have ends := stageConfigurationFrom_framed leaves (lengths numbers) numbers after checked
          exact ⟨ends, ends⟩

/-- The forward part of an update touches the selected kdamonds only. -/
theorem stageAndCommitRunning_framed {config previous : DamonConfig}
    (leaves : LeavesUnselected selected config previous)
    (counted : Content.Numbers found previous.kdamonds.length)
    (length : config.kdamonds.length = start.self.states.length) :
    Exec.Triple env (Framed selected found env start)
      (stageAndCommitRunning config (some previous) selected)
      fun _ => Framed selected found env start := by
  have failed : ∀ world, Framed selected found env start world →
      Framed selected found env start world := fun _ framed => framed
  have verifies : ∀ config observed reason, Exec.Triple env (Framed selected found env start)
      (verifyStagedRunning config observed reason) fun _ => Framed selected found env start :=
    fun config observed reason => framed_of_reads (verifyStagedRunning_readsOnly config observed reason)
  have records : ∀ snapshot config, Exec.Triple env (Framed selected found env start)
      (recordOwnership snapshot config) fun _ => Framed selected found env start :=
    fun snapshot config => framed_of_reads (recordOwnership_reads snapshot config).readsOnly
  have commits : Exec.Triple env (Framed selected found env start)
      (Exec.forEach (commandIdentified .commit) selected)
      fun _ => Framed selected found env start :=
    framed_of_confined (.forEach _ fun index member => commandIdentified_confined
      (fun _ => ReadsOnly.belowSelected) ⟨index, member, List.prefix_append _ _⟩)
  have cleaned := leavesUnselected_withoutObsolete config selected
  have cleanedLength := withoutObsoleteTargets_length config selected
  refine Exec.triple_seq (framed_of_reads verifyOwnedIdentitiesOnly_readsOnly) (fun _ => ?_) failed
  refine Exec.triple_seq (stageRunning_framed leaves counted.unique length) (fun _ => ?_) failed
  refine Exec.triple_seq (verifies _ _ _) (fun snapshot => ?_) failed
  refine Exec.triple_seq commits (fun _ => ?_) failed
  split
  · refine Exec.triple_seq (stageRunning_framed cleaned (fun _ => cleanedLength.symm)
      (cleanedLength.trans length)) (fun _ => ?_) failed
    exact Exec.triple_seq (verifies _ _ _) (fun _ => records _ _) failed
  · exact records _ _

end Frame

/-- The selected indexes are those requested, and the hierarchy has as many kdamonds as requested. -/
theorem validateSelectedIndices_ok {requested selected : List Nat} {managed count : Nat}
    (run : validateSelectedIndices requested managed count = .ok selected) :
    selected = requested ∧ count = managed := by
  have visited : ∀ (requested seen selected : List Nat),
      validateSelectedIndices.visit managed seen requested = .ok selected →
        selected = requested := by
    intro requested
    induction requested with
    | nil =>
        intro seen selected run
        simpa [validateSelectedIndices.visit] using run.symm
    | cons index rest ih =>
        intro seen selected run
        unfold validateSelectedIndices.visit at run
        by_cases outside : index ≥ managed
        · simp [outside, bind, Except.bind, throw, throwThe, MonadExceptOf.throw] at run
        by_cases repeated : seen.contains index = true
        · simp [outside, List.contains_iff_mem.mp repeated, bind, Except.bind, throw, throwThe,
            MonadExceptOf.throw] at run
        rw [if_neg outside, if_neg repeated] at run
        cases others : validateSelectedIndices.visit managed (index :: seen) rest with
        | error error => simp [others, bind, Except.bind] at run
        | ok found =>
            rw [others] at run
            rw [ih _ _ others] at run
            simpa [bind, Except.bind, pure, Except.pure] using run.symm
  unfold validateSelectedIndices at run
  by_cases same : count = managed
  · rw [if_neg (not_not.mpr same)] at run
    exact ⟨visited _ _ _ run, same⟩
  · simp [same, bind, Except.bind, throw, throwThe, MonadExceptOf.throw] at run

/-- A typed read finds as many kdamonds as the count that it reads first. -/
theorem configuration_count {env : Env} {world after : World} {config : DamonConfig}
    (run : DamonAdmin.configuration env world = (.ok config, after)) :
    ∃ counted, World.Reaches ReadsOnly env world counted ∧
      Content.Numbers (counted.sys.files.get? DamonAdmin.countPath) config.kdamonds.length ∧
      World.Reaches ReadsOnly env counted after := by
  obtain ⟨count, counted, counting, counts, run⟩ :=
    World.Reaches.of_reading (readUsize_confined trivial) run
  obtain ⟨kdamonds, _, read, made⟩ := Exec.bind_eq_ok run
  cases made
  refine ⟨counted, counting, ?_, .of_run (readIndexed_confined fun index =>
    Kdamond.configuration_confined trivial fun _ _ => trivial) read⟩
  rw [Exec.mapEach_length read, List.length_range]
  exact (readUsize_ok counts).2

/-- What is captured before an update: a typed read of as many kdamonds as are requested. -/
theorem captureUpdate_ok {config : DamonConfig} {indices : List Nat} {env : Env}
    {world after : World} {captured : CapturedUpdate}
    (run : captureUpdate config indices env world = (.ok captured, after)) :
    captured.selected = indices ∧ config.kdamonds.length = world.self.states.length ∧
      ∃ start read, World.Reaches ReadsOnly env world start ∧
        DamonAdmin.configuration env start = (.ok captured.previous, read) ∧
        World.Reaches ReadsOnly env read after := by
  obtain ⟨_, _, isEnv, run⟩ := Exec.bind_eq_ok run
  cases isEnv
  obtain ⟨_, validated, valid, run⟩ := Exec.bind_eq_ok run
  obtain rfl : world = validated := (Prod.ext_iff.mp valid).2
  obtain ⟨self, _, isSelf, run⟩ := Exec.bind_eq_ok run
  cases isSelf
  obtain ⟨selected, selecting, selects, run⟩ := Exec.bind_eq_ok run
  obtain ⟨chosen, rfl⟩ := Prod.ext_iff.mp selects
  obtain ⟨_, required, requires, run⟩ := Exec.bind_eq_ok run
  obtain ⟨_, expected, expects, run⟩ := Exec.bind_eq_ok run
  obtain ⟨_, verified, verifies, run⟩ := Exec.bind_eq_ok run
  obtain ⟨snapshot, snapped, captures, run⟩ := Exec.bind_eq_ok run
  obtain ⟨previous, read, reads, run⟩ := Exec.bind_eq_ok run
  obtain ⟨_, compared, compares, made⟩ := Exec.bind_eq_ok run
  cases made
  obtain ⟨start, retries, reading⟩ :=
    World.Reaches.of_retry DamonAdmin.configuration_confined.readsOnly reads
  obtain ⟨same, length⟩ := validateSelectedIndices_ok chosen
  refine ⟨same, length, start, read, ?_, reading,
    .of_run (requireUnchanged_reads snapshot _).readsOnly compares⟩
  have expecting : Confined ReadsOnly
      (Exec.forEach (fun index => do let _ ← expectedRunningPid index) selected) :=
    .forEach _ fun index _ => .bind (expectedRunningPid_confined index) fun _ => .pure ()
  exact ((((World.Reaches.of_run (.ofExcept _) requires).trans (.of_run expecting expects)).trans
    (.of_run verifyOwnedState_readsOnly verifies)).trans
    (.of_run (Confined.retry DamonAdmin.configurationSnapshot_confined.readsOnly) captures)).trans
    retries

/-- What is prepared leaves the kdamonds alone that are not selected. -/
theorem plan_leaves {captured : CapturedUpdate} {config : DamonConfig} {prepared : PreparedUpdate}
    (planned : captured.plan config = .ok prepared) :
    prepared.effective.kdamonds.length = config.kdamonds.length ∧
      LeavesUnselected prepared.selected prepared.effective prepared.previous := by
  obtain ⟨-, previous, selected, comparable, -, effective⟩ := CapturedUpdate.plan_ok planned
  obtain ⟨length, each⟩ := effectiveKdamonds_ok effective
  refine ⟨length, fun i kdamond hit unselected => ?_⟩
  have inConfig : i < config.kdamonds.length := length ▸ (List.getElem?_eq_some_iff.mp hit).1
  rcases each i _ kdamond (List.getElem?_eq_getElem inConfig) hit with
    ⟨chosen, _⟩ | ⟨_, takenOver, _⟩
  · rw [Nat.zero_add, ← selected] at chosen
    exact absurd chosen unselected
  · rw [previous]
    exact takenOver

/-- The rollback of what was written below selected kdamonds stays below them. -/
theorem rollback_belowSelected {prepared : PreparedUpdate} {writes : List Path}
    (captured : prepared.previousSnapshot.Captured)
    (below : ∀ path ∈ writes, ∃ value,
      (Access.write path value).BelowSelected prepared.selected) :
    Accesses (Access.BelowSelected prepared.selected) (prepared.transaction.rollback writes) := by
  refine restoreAndCommitRunning_accesses (fun _ => ReadsOnly.belowSelected)
    (restoreWritten_confined (fun _ => trivial) fun entry _ affected => ?_)
    fun index member => ⟨index, member, List.prefix_append _ _⟩
  obtain ⟨write, written, reason⟩ :=
    (ConfigurationSnapshot.mem_pathsAffectedByWrites captured.root _).mp affected
  obtain ⟨_, index, member, inside⟩ := below write written
  rcases reason with same | ⟨isCount, above, -⟩
  · exact ⟨index, member, same ▸ inside⟩
  · exact ⟨index, member, (kdamond_prefix_dropLast inside isCount).trans above⟩

/-- A transaction accesses what its forward part does, and what a rollback of those writes does. -/
theorem transact_since {allowed : Access → Prop} {holds : System → Prop} {env : Env}
    {world : World} {forward : Sysfs StagedOwnership} {rollback : List Path → Sysfs StagedOwnership}
    (forwards : World.Within allowed holds env { world with journal := some [] }
      (forward env { world with journal := some [] }).2)
    (rolls : ∀ writes, (∀ path ∈ writes, ∃ value, allowed (.write path value)) →
      Accesses allowed (rollback writes)) :
    World.Since allowed world (transact forward rollback env world).2 := by
  cases run : forward env { world with journal := some [] } with
  | mk outcome final =>
      rw [run] at forwards
      have since : World.Since allowed world final := forwards.accesses.since
      have collected : collectWrites forward env world =
          (.ok (outcome, final.journal.getD []), { final with journal := none }) := by
        simp only [collectWrites, run]
      unfold transact
      rw [Exec.bind_run_ok collected]
      cases outcome with
      | ok staged => exact since
      | error operation =>
          obtain ⟨later, journal, written⟩ := forwards.journals [] rfl
          have extends_ := rolls (final.journal.getD []) (by rw [journal]; exact written) env
            { final with journal := none }
          dsimp only
          rw [Exec.bind_run, Exec.attempt_run]
          cases rolled : rollback (final.journal.getD []) env { final with journal := none } with
          | mk outcome after =>
              rw [rolled] at extends_
              have ends : World.Since allowed world after := since.trans extends_.since
              cases outcome with
              | ok staged => exact ends
              | error failure => exact ends

/-- Whatever an update returns, it writes below the selected kdamonds only. -/
theorem updateConfiguration_framed (config : DamonConfig) (indices : List Nat) {env : Env}
    (tunes : env.OnlyTunes) (world : World) :
    World.Since (Access.BelowSelected indices) world
      (updateConfiguration config indices env world).2 := by
  have prepares : ∀ {outcome after},
      prepareUpdate config indices env world = (outcome, after) →
      World.Reaches ReadsOnly env world after := fun run => .of_run (prepareUpdate_reads _ _) run
  have reading : ∀ {first second : World}, World.Reaches ReadsOnly env first second →
      World.Since (Access.BelowSelected indices) first second := fun reaches =>
    (reaches.since fun _ => trivial).mono fun _ => ReadsOnly.belowSelected
  rw [updateConfiguration_eq]
  cases run : prepareUpdate config indices env world with
  | mk outcome checked =>
    cases outcome with
    | error error =>
        rw [Exec.bind_run_error run]
        exact reading (prepares run)
    | ok prepared =>
        rw [Exec.bind_run_ok run]
        refine (reading (prepares run)).trans ?_
        obtain ⟨captured, checking, captures, checks⟩ := Exec.bind_eq_ok run
        obtain ⟨_, verified, _, plans⟩ := Exec.bind_eq_ok checks
        have planned : captured.plan config = .ok prepared := (Prod.ext_iff.mp plans).1
        obtain ⟨chosen, length, start, read, before, reads, -⟩ := captureUpdate_ok captures
        obtain ⟨snapshot, previous, selected, -⟩ := CapturedUpdate.plan_ok planned
        obtain ⟨effectiveLength, leaves⟩ := plan_leaves planned
        obtain ⟨counted, counting, numbers, -⟩ := configuration_count reads
        have lasting := tunes.count world
        rw [((before.trans counting).lasting lasting).now] at numbers
        have self := ((prepareUpdate_reads config indices).accesses (fun _ => trivial) env world).self
        rw [run] at self
        rw [← previous] at numbers
        obtain rfl : prepared.selected = indices := selected.trans chosen
        have captures := prepareUpdate_captured ⟨env, world, checked, run⟩
        refine transact_since (stageAndCommitRunning_framed leaves numbers ?_ _ (.refl ?_))
          fun writes below => rollback_belowSelected captures below
        · rw [effectiveLength, length]
          exact congrArg (fun self => self.states.length) self.symm
        · have kept := (prepares run).lasting lasting
          exact ⟨kept.now, kept.later⟩

end ManagedHierarchy

/-! ## Commands in the order of their sending -/

/-- The command that an event has sent to a state file. -/
def Event.command? (event : Event) : Option (Path × String) :=
  match event.access, event.reply with
  | .write path value, .done => if path.getLast? = some "state" then some (path, value) else none
  | _, _ => none

/-- The commands sent in a part of a trace, the earliest first. -/
def commandsOf (later : List Event) : List (Path × String) :=
  (later.filterMap Event.command?).reverse

/-- The commands sent from one world to another. -/
def World.Sends (commands : List (Path × String)) (before after : World) : Prop :=
  ∃ later, after.trace = later ++ before.trace ∧ commandsOf later = commands

namespace World.Sends

theorem trans {commands next : List (Path × String)} {first second third : World}
    (one : World.Sends commands first second) (two : World.Sends next second third) :
    World.Sends (commands ++ next) first third := by
  obtain ⟨later, trace, sent⟩ := one
  obtain ⟨latest, nextTrace, nextSent⟩ := two
  refine ⟨latest ++ later, by rw [nextTrace, trace, List.append_assoc], ?_⟩
  rw [← sent, ← nextSent]
  simp [commandsOf]

theorem nil_trans {commands : List (Path × String)} {first second third : World}
    (one : World.Sends [] first second) (two : World.Sends commands second third) :
    World.Sends commands first third :=
  one.trans two

theorem trans_nil {commands : List (Path × String)} {first second third : World}
    (one : World.Sends commands first second) (two : World.Sends [] second third) :
    World.Sends commands first third := by
  have both := one.trans two
  rwa [List.append_nil] at both

/-- A write of configuration is no command. -/
theorem of_since {before after : World} (since : World.Since WritesConfiguration before after) :
    World.Sends [] before after := by
  obtain ⟨later, trace, accesses⟩ := since
  refine ⟨later, trace, ?_⟩
  rw [commandsOf, List.reverse_eq_nil_iff, List.filterMap_eq_nil_iff]
  intro event member
  have writes := accesses event member
  unfold Event.command?
  split
  · rename_i path value access _
    rw [access] at writes
    refine if_neg fun state => ?_
    have configuration : Path.isRuntimeAttribute path = false := writes
    unfold Path.isRuntimeAttribute at configuration
    simp [state] at configuration
  · rfl

theorem of_reads {before after : World} (since : World.Since ReadsOnly before after) :
    World.Sends [] before after :=
  of_since (since.mono fun _ => ReadsOnly.writesConfiguration)

end World.Sends

namespace Kdamond

variable {index : Nat} {command : KdamondCommand} {env : Env} {world after : World}

theorem command_ok
    (run : (DamonAdmin.kdamond index).command command env world = (.ok (), after)) :
    World.Sends [(Path.stateOf index, command.kernelName)] world after := by
  obtain ⟨_, middle, valid, run⟩ := Exec.bind_eq_ok run
  obtain rfl : world = middle := (Prod.ext_iff.mp valid).2
  obtain ⟨-, event, trace, access, reply⟩ := writeBytes_ok run
  refine ⟨[event], trace, ?_⟩
  simp [commandsOf, Event.command?, access, reply, DamonAdmin.kdamond, Path.stateOf]

theorem command_error {error : Error}
    (run : (DamonAdmin.kdamond index).command command env world = (.error error, after)) :
    World.Sends [] world after := by
  rcases Exec.bind_eq_error run with valid | ⟨_, middle, valid, run⟩
  · obtain rfl : world = after := (Prod.ext_iff.mp valid).2
    exact ⟨[], rfl, rfl⟩
  · obtain rfl : world = middle := (Prod.ext_iff.mp valid).2
    obtain ⟨-, event, trace, access, fault, reply⟩ := writeBytes_error run
    refine ⟨[event], trace, ?_⟩
    simp [commandsOf, Event.command?, access, reply]

/-- The attempts before the one that succeeds send nothing. -/
theorem retryCommand_last {allowed : Access → Prop}
    (permitted : allowed (.write (Path.stateOf index) command.kernelName))
    (run : retryBusy ((DamonAdmin.kdamond index).command command) env world = (.ok (), after)) :
    ∃ start, World.Reaches allowed env world start ∧ World.Sends [] world start ∧
      (DamonAdmin.kdamond index).command command env start = (.ok (), after) := by
  obtain ⟨start, attempts, ends⟩ := Exec.retry_ends Error.isResourceBusy
    ((DamonAdmin.kdamond index).command command) maxRetries env world
  refine ⟨start, ?_, ?_, ends.symm.trans run⟩
  all_goals clear ends run
  · induction attempts with
    | refl => exact .refl world
    | tail _ attempt ih =>
        obtain ⟨error, -, failed⟩ := attempt
        exact ih.trans (.of_run (Kdamond.command_confined index command permitted) failed)
  · induction attempts with
    | refl => exact ⟨[], rfl, rfl⟩
    | tail _ attempt ih =>
        obtain ⟨error, -, failed⟩ := attempt
        exact ih.nil_trans (command_error failed)

/-- A command that is repeated until it succeeds is sent once. -/
theorem retryCommand_ok
    (run : retryBusy ((DamonAdmin.kdamond index).command command) env world = (.ok (), after)) :
    World.Sends [(Path.stateOf index, command.kernelName)] world after := by
  have permitted : ManagedHierarchy.Anything
      (.write (Path.stateOf index) command.kernelName) := trivial
  obtain ⟨start, -, failed, last⟩ := retryCommand_last permitted run
  exact failed.nil_trans (command_ok last)

end Kdamond

namespace ManagedHierarchy

theorem commandIdentified_sends {command : KdamondCommand} {index : Nat} {env : Env}
    {world after : World}
    (run : commandIdentified command index env world = (.ok (), after)) :
    World.Sends [(Path.stateOf index, command.kernelName)] world after := by
  obtain ⟨_, verified, verify, run⟩ := Exec.bind_eq_ok run
  obtain ⟨_, sent, send, reverify⟩ := Exec.bind_eq_ok run
  have checks : ∀ {first second : World},
      verifyRunningIdentityOnly index env first = (.ok (), second) →
      World.Sends [] first second := fun run =>
    .of_reads ((verifyRunningIdentityOnly_checks index).threadReadsOnly.since (fun _ => trivial) run)
  exact ((checks verify).nil_trans (Kdamond.retryCommand_ok send)).trans_nil (checks reverify)

/-- Commits are sent in the order of the selection. -/
theorem commitEach_sends {selected : List Nat} {env : Env} {world after : World}
    (run : Exec.forEach (commandIdentified .commit) selected env world = (.ok (), after)) :
    World.Sends (selected.map fun index => (Path.stateOf index, KdamondCommand.commit.kernelName))
      world after := by
  induction selected generalizing world with
  | nil =>
      cases run
      exact ⟨[], rfl, rfl⟩
  | cons index rest ih =>
      obtain ⟨_, middle, first, others⟩ := Exec.bind_eq_ok run
      exact (commandIdentified_sends first).trans (ih others)

/-! ## Successful updates -/

/-- Accesses that write commands to selected kdamonds and nothing else. -/
def CommandsOnly (selected : List Nat) : Access → Prop
  | .write path _ => ∃ index ∈ selected, path = Path.stateOf index
  | _ => True

theorem ReadsOnly.commandsOnly {selected : List Nat} {access : Access} (reads : ReadsOnly access) :
    CommandsOnly selected access := by
  cases access with
  | write path value => exact reads.elim
  | _ => trivial

/-- A successful update: three typed reads of the hierarchy with what happens between them. -/
structure SelectedUpdate (config : DamonConfig) (indices : List Nat) (env : Env)
    (world after : World) where
  /-- What is read before anything is staged. -/
  previous : DamonConfig
  /-- What is read back before the first commit. -/
  staged : DamonConfig
  /-- What is read back after the last write of configuration. -/
  readback : DamonConfig
  observing : World
  observed : World
  verifying : World
  verified : World
  settling : World
  settled : World
  observes : World.Since ReadsOnly world observing
  readsPrevious : DamonAdmin.configuration env observing = (.ok previous, observed)
  stages : World.Since WritesConfiguration observed verifying
  readsStaged : DamonAdmin.configuration env verifying = (.ok staged, verified)
  stagedAgrees : config.AgreesWith previous staged
  /-- The commits, and no other commands, are sent in the order of the selection, after the whole
  request has been read back. -/
  commits : World.Sends
    (indices.map fun index => (Path.stateOf index, KdamondCommand.commit.kernelName)) verified after
  readsBack : DamonAdmin.configuration env settling = (.ok readback, settled)
  settles : World.Since (CommandsOnly indices) settled after
  agrees : (withoutObsoleteTargets config indices).AgreesWith previous readback

theorem requireEquivalent_ok {request observed : DamonConfig} {env : Env} {world after : World}
    (run : requireEquivalent request observed env world = (.ok (), after)) :
    request.mismatchError observed = none ∧ after = world := by
  unfold requireEquivalent at run
  cases found : request.mismatchError observed with
  | some error =>
      rw [found] at run
      cases run
  | none =>
      rw [found] at run
      cases run
      exact ⟨rfl, rfl⟩

theorem verifyStagedRunning_agrees {config previous : DamonConfig} {reason : String} {env : Env}
    {world after : World} {snapshot : ConfigurationSnapshot}
    (run : verifyStagedRunning config (some previous) reason env world = (.ok snapshot, after)) :
    ∃ staged verifying verified, World.Since ReadsOnly world verifying ∧
      DamonAdmin.configuration env verifying = (.ok staged, verified) ∧
      World.Since ReadsOnly verified after ∧ config.AgreesWith previous staged := by
  obtain ⟨taken, captured, captures, run⟩ := Exec.bind_eq_ok run
  obtain ⟨staged, read, reads, run⟩ := Exec.bind_eq_ok run
  obtain ⟨normalized, normal, normalizes, run⟩ := Exec.bind_eq_ok run
  obtain ⟨_, compared, equivalent, run⟩ := Exec.bind_eq_ok run
  obtain ⟨_, matched, matches_, run⟩ := Exec.bind_eq_ok run
  obtain ⟨_, identified, identifies, run⟩ := Exec.bind_eq_ok run
  obtain ⟨-, same⟩ := Prod.ext_iff.mp run
  obtain rfl : identified = after := same
  obtain rfl : read = normal := (Prod.ext_iff.mp normalizes).2
  have isNormal : normalizeRunningTunedIntervals config (some previous) staged = .ok normalized :=
    (Prod.ext_iff.mp normalizes).1
  obtain ⟨matched', rfl⟩ := requireEquivalent_ok equivalent
  obtain ⟨verifying, attempts, reading⟩ :=
    World.Reaches.of_retry DamonAdmin.configuration_confined.readsOnly reads
  have reaching : ∀ {first second : World}, World.Reaches ReadsOnly env first second →
      World.Since ReadsOnly first second := fun reaches => reaches.since fun _ => trivial
  have values : Confined ReadsOnly (requireOwned reason (retryBusy taken.valuesMatchCurrent)) :=
    requireOwned_confined (.retry taken.valuesMatchCurrent_confined.readsOnly)
  refine ⟨staged, verifying, compared, reaching ?_, reading, reaching ?_,
    DamonConfig.agreesWith_of_normalized isNormal matched'⟩
  · exact (World.Reaches.of_run
      (Confined.retry DamonAdmin.configurationSnapshot_confined.readsOnly) captures).trans attempts
  · exact (World.Reaches.of_run values matches_).trans
      (.of_run verifyOwnedIdentitiesOnly_readsOnly identifies)

/-- What the forward part of a successful update does in turn. -/
theorem stageAndCommitRunning_selected {config previous : DamonConfig} {selected : List Nat}
    {env : Env} {world after : World} {record : StagedOwnership}
    (run : stageAndCommitRunning config (some previous) selected env world = (.ok record, after)) :
    ∃ staged verifying verified readback settling settled,
      World.Since WritesConfiguration world verifying ∧
      DamonAdmin.configuration env verifying = (.ok staged, verified) ∧
      config.AgreesWith previous staged ∧
      World.Sends (selected.map fun index =>
        (Path.stateOf index, KdamondCommand.commit.kernelName)) verified after ∧
      DamonAdmin.configuration env settling = (.ok readback, settled) ∧
      World.Since (CommandsOnly selected) settled after ∧
      (withoutObsoleteTargets config selected).AgreesWith previous readback := by
  obtain ⟨_, identified, identifies, run⟩ := Exec.bind_eq_ok run
  obtain ⟨_, staging, stages, run⟩ := Exec.bind_eq_ok run
  obtain ⟨snapshot, compared, verifies, run⟩ := Exec.bind_eq_ok run
  obtain ⟨_, committed, commits, run⟩ := Exec.bind_eq_ok run
  obtain ⟨staged, verifying, verified, before, reads, compares, agrees⟩ :=
    verifyStagedRunning_agrees verifies
  have writes : World.Since WritesConfiguration world verifying :=
    ((verifyOwnedIdentitiesOnly_readsOnly.writesConfiguration.since (fun _ => trivial)
      identifies).trans ((stageRunning_writes _ _).since (fun _ => trivial) stages)).trans
      (before.mono fun _ => ReadsOnly.writesConfiguration)
  have sends := (World.Sends.of_reads compares).nil_trans (commitEach_sends commits)
  have records : ∀ {snapshot config start}, recordOwnership snapshot config env start =
      (.ok record, after) → World.Since ReadsOnly start after := fun run =>
    (recordOwnership_reads _ _).readsOnly.since (fun _ => trivial) run
  split at run
  · -- the obsolete targets are removed by a second staging, which is not committed
    obtain ⟨_, restaged, restages, run⟩ := Exec.bind_eq_ok run
    obtain ⟨cleaned, recompared, reverifies, recording⟩ := Exec.bind_eq_ok run
    obtain ⟨readback, settling, settled, rereading, rereads, settles, cleanedAgrees⟩ :=
      verifyStagedRunning_agrees reverifies
    have cleaning : World.Since WritesConfiguration committed restaged :=
      (stageRunning_writes _ _).since (fun _ => trivial) restages
    have reverifying : World.Since ReadsOnly restaged recompared :=
      (verifyStagedRunning_readsOnly _ _ _).since (fun _ => trivial) reverifies
    refine ⟨staged, verifying, verified, readback, settling, settled, writes, reads, agrees, ?_,
      rereads, (settles.trans (records recording)).mono fun _ => ReadsOnly.commandsOnly,
      cleanedAgrees.weaken fun i context tuned => .inl (tuned.withoutObsoleteTargets selected)⟩
    exact sends.trans_nil ((World.Sends.of_since cleaning).nil_trans
      (.of_reads (reverifying.trans (records recording))))
  · rename_i noObsolete
    have commands : Confined (CommandsOnly selected)
        (Exec.forEach (commandIdentified .commit) selected) :=
      .forEach _ fun index member => commandIdentified_confined (fun _ => ReadsOnly.commandsOnly)
        ⟨index, member, rfl⟩
    have committing := commands.since (fun _ => trivial) commits
    refine ⟨staged, verifying, verified, staged, verifying, verified, writes, reads, agrees,
      sends.trans_nil (.of_reads (records run)), reads, ?_, ?_⟩
    · exact ((compares.mono fun _ => ReadsOnly.commandsOnly).trans committing).trans
        ((records run).mono fun _ => ReadsOnly.commandsOnly)
    · rwa [withoutObsoleteTargets_of_none (by simpa using noObsolete)]

/-- A successful update commits the selected kdamonds in their order after the whole request has
been staged, and leaves a hierarchy that agrees with the request without its obsolete targets. -/
theorem updateConfiguration_selectedUpdate {config : DamonConfig} {indices : List Nat} {env : Env}
    {world after : World}
    (succeeds : updateConfiguration config indices env world = (.ok (), after)) :
    Nonempty (SelectedUpdate config indices env world after) := by
  obtain ⟨run⟩ := UpdateRun.of_ok succeeds
  rw [run.succeeds] at succeeds
  obtain ⟨-, rfl⟩ := Prod.ext_iff.mp succeeds
  obtain ⟨chosen, length, observing, observed, before, reads, captures⟩ :=
    captureUpdate_ok run.captures
  obtain ⟨-, previous, selected, comparable, normalized, plans⟩ := CapturedUpdate.plan_ok run.plans
  obtain ⟨final, forward, -, last⟩ := collectWrites_ok run.commits
  rw [← previous] at reads normalized plans
  rw [chosen] at plans selected
  have forward : stageAndCommitRunning run.prepared.effective (some run.prepared.previous)
      run.prepared.selected env { run.checked with journal := some [] } =
        (.ok run.staged, final) := forward
  rw [selected] at forward
  obtain ⟨staged, verifying, verified, readback, settling, settled, stages, readsStaged, agrees,
    commits, readsBack, settles, cleaned⟩ := stageAndCommitRunning_selected forward
  have checks : World.Since ReadsOnly run.checking run.checked :=
    verifyOwnedState_readsOnly.since (fun _ => trivial) run.checks
  have starts : World.Since ReadsOnly observed run.checked :=
    (captures.since fun _ => trivial).trans checks
  have ends : final.trace = run.last.trace := by rw [last]
  have effectiveLength := (effectiveKdamonds_ok plans).1
  refine ⟨⟨run.prepared.previous, staged, readback, observing, observed, verifying, verified,
    settling, settled, before.since fun _ => trivial, reads, ?_, readsStaged, ?_, ?_, readsBack, ?_,
    ?_⟩⟩
  · exact (starts.mono fun _ => ReadsOnly.writesConfiguration).trans stages
  · exact agrees.requested normalized plans effectiveLength.symm
      (fun i => effectiveKdamonds_selected plans) fun i _ => ⟨rfl, rfl⟩
  · rw [World.Sends, ← ends]
    exact commits
  · exact settles.congr rfl ends.symm
  · refine cleaned.requested normalized plans ?_ ?_ ?_
    · rw [withoutObsoleteTargets_length, withoutObsoleteTargets_length, effectiveLength]
    · intro i member
      rw [withoutObsoleteTargets_getElem?, withoutObsoleteTargets_getElem?,
        effectiveKdamonds_selected plans member]
    · intro i unselected
      rw [withoutObsoleteTargets_getElem?, withoutObsoleteTargets_getElem?]
      simp [unselected]

/-- Without another writer an update writes below the selected kdamonds only, and when it succeeds
it has committed them in their order and left what was requested. -/
theorem updateConfiguration_selected (config : DamonConfig) (indices : List Nat) (env : Env)
    (tunes : env.OnlyTunes) (world : World) :
    World.Since (Access.BelowSelected indices) world
      (updateConfiguration config indices env world).2 ∧
    ((updateConfiguration config indices env world).1 = .ok () →
      Nonempty (SelectedUpdate config indices env world
        (updateConfiguration config indices env world).2)) :=
  ⟨updateConfiguration_framed config indices tunes world,
    fun succeeds => updateConfiguration_selectedUpdate (Prod.ext succeeds rfl)⟩

/-! ## One of two kdamonds -/

namespace OneOfTwo

/-- Both kdamonds have one context; the second one is tuned. -/
def before : DamonConfig :=
  Fixture.config [Fixture.contextConfig .default 0, Fixture.contextConfig .default 3]

/-- New intervals for the first kdamond. -/
def request : DamonConfig :=
  Fixture.config [Fixture.contextConfig ⟨6000, 120000, 60000000, Fixture.intervals_ordered⟩ 0,
    Fixture.contextConfig .default 3]

def world : World :=
  Fixture.session (Fixture.running [Fixture.context "5000" "100000" "0",
    Fixture.context "5000" "100000" "3"]) before

end OneOfTwo

open OneOfTwo in
/-- The first of two kdamonds is updated, and nothing is written below the second one. -/
theorem updateConfiguration_selected_oneOfTwo :
    (updateConfiguration request [0] Fixture.calm world).1 = .ok () ∧
      World.Since (Access.BelowSelected [0]) world
        (updateConfiguration request [0] Fixture.calm world).2 ∧
      Nonempty (SelectedUpdate request [0] Fixture.calm world
        (updateConfiguration request [0] Fixture.calm world).2) := by
  have tunes : Fixture.calm.OnlyTunes := fun _ _ _ _ => rfl
  have succeeds : (updateConfiguration request [0] Fixture.calm world).1 = .ok () := by
    decide +kernel
  have selected := updateConfiguration_selected request [0] Fixture.calm tunes world
  exact ⟨succeeds, selected.1, selected.2 succeeds⟩

end ManagedHierarchy

end DamonRs
