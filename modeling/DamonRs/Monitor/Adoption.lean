import DamonRs.Monitor.Rollback
import DamonRs.Sysfs.Cut

/-!
# What an update adopts

The snapshot taken after staging becomes the ownership record of the session
without a comparison with the record before.  So it holds what the attributes
had when the last ownership check ended, but also whatever others put there
between the check and the capture.
-/

namespace DamonRs

open Library Sysfs

/-! ## Values that are recorded -/

/-- Equal, but for a final newline that the recorded value may still have. -/
def SameValue (recorded value : String) : Prop := value = recorded ∨ recorded = value ++ "\n"

/-- A content that shows a recorded value is read as the value. -/
theorem sameValue_of_shows {content : Content} {recorded value : String}
    (shows : content.Shows recorded) (read : content.value? = some value) :
    SameValue recorded value := by
  have newline : [0x0a] = Text.utf8Bytes "\n" := by decide
  unfold Content.value? at read
  rcases shows with same | same
  · rw [same, Text.ofUtf8Bytes?_utf8Bytes, Option.map_some, Option.some_inj,
      stripFinalNewline_eq_iff] at read
    exact read.symm.imp (fun exactly => exactly.1.symm) id
  · rw [same, newline, ← utf8Bytes_append, Text.ofUtf8Bytes?_utf8Bytes, Option.map_some,
      Option.some_inj, stripFinalNewline_eq_iff] at read
    rcases read with terminated | ⟨same, ends⟩
    · exact .inl (String.append_left_inj _ |>.mp terminated).symm
    · exact absurd (by rw [← same]; simp) ends

section Captured

variable {env : Env} {world after : World}

theorem readConfigurationEntry_reads (path : Path) :
    Confined ReadsOnly (readConfigurationEntry path) :=
  .map (.map (readText_confined trivial))

/-- What a snapshot holds of an attribute is the value that it has when it is read. -/
theorem DamonAdmin.configurationSnapshot_read {snapshot : ConfigurationSnapshot}
    (run : retryBusy configurationSnapshot env world = (.ok snapshot, after)) :
    ∀ entry ∈ snapshot.entries, ∃ read, World.Reaches ReadsOnly env world read ∧
      read.sys.files.value? entry.path = some entry.value ∧
      World.Reaches ReadsOnly env read after := by
  intro entry member
  obtain ⟨start, attempts, run⟩ :=
    World.Reaches.of_retry configurationSnapshot_confined.readsOnly run
  obtain ⟨fingerprint, last, captured, made⟩ := Exec.bind_eq_ok run
  cases made
  obtain ⟨paths, walked, walk, capture⟩ := Exec.bind_eq_ok captured
  obtain ⟨entries, _, captured, made⟩ := Exec.bind_eq_ok capture
  cases made
  obtain ⟨i, hit⟩ := List.getElem?_of_mem member
  obtain ⟨path, before, read, -, starts, reads, ends⟩ := World.Reaches.of_mapEach
    (fun path _ => readConfigurationEntry_reads path) captured hit
  obtain ⟨rfl, rfl, text, writable, found, value⟩ := readConfigurationEntry_run reads
  refine ⟨_, (attempts.trans (.of_run (writableConfigurationFiles_confined _) walk)).trans
    (starts.trans (.of_run (readConfigurationEntry_reads _) reads)), ?_, ends⟩
  have here : (env.advance before (.read entry.path)).sys.files.get? entry.path =
      some ⟨.text text, writable⟩ := by
    rw [env.advance_sys before (show ReadsOnly (.read entry.path) from trivial)]
    exact found
  rw [Files.value?, here, readableValue, Option.bind_some, Content.value?_text, value]

end Captured

namespace ManagedHierarchy

section Updates

variable {path : Path} {value : String} {env : Env}

/-- A complete ownership check finds each recorded value shown that is not tuned. -/
theorem verifyOwnedState_found {world after : World}
    (member : ⟨path, value⟩ ∈ world.self.staged.configuration.entries)
    (untuned : path ∉ world.self.staged.volatilePaths)
    (run : verifyOwnedState env world = (.ok (), after)) :
    FoundShown path value env world after := by
  obtain ⟨self, start, isSelf, run⟩ := Exec.bind_eq_ok run
  cases isSelf
  split at run
  · cases run
  obtain ⟨_, verified, verify, each⟩ := Exec.bind_eq_ok run
  obtain ⟨_, counted, count, compare⟩ := Exec.bind_eq_ok verify
  have counting : World.Reaches ReadsOnly env world counted :=
    .of_run (StagedOwnership.verifyCount_reads _).readsOnly count
  have compared : containsPath world.self.staged.volatilePaths path = false :=
    Bool.eq_false_iff.mpr fun found => untuned (mem_of_containsPath found)
  have matching : World.Reaches ReadsOnly env counted verified :=
    .of_run (entriesMatch_confined (fun _ => trivial) _ _) (requireOwned_ok compare)
  have checking : World.Reaches ReadsOnly env verified after :=
    .of_run (.forEach _ fun index _ => (verifyOwnedKdamond_checks index).threadReadsOnly) each
  have found := entriesMatch_found compared member (requireOwned_ok compare)
  exact (found.after_run counting.advances matching.advances).then_run
    (counting.trans matching).advances checking.advances

/-- What a run finds shown is read as the same value after it, when nobody changes it. -/
theorem FoundShown.sameValue {world after : World} {read : String}
    (found : FoundShown path value env world after) (advances : World.Advances env world after)
    (configuration : Path.isRuntimeAttribute path = false)
    (spares : ∀ moment ∈ World.history env world after, moment.Spares path)
    (kept : ∀ moment ∈ World.history env world after, moment.Keeps readableValue path)
    (reads : after.sys.files.value? path = some read) : SameValue value read := by
  obtain ⟨moment, member, compares, file, isFile, shows⟩ := found
  obtain ⟨earlier, later, cut⟩ := List.append_of_mem member
  obtain ⟨middle, -, -, here, follows, rest⟩ := advances.split cut
  have inside : World.history env (env.advance middle moment.access) after ⊆
      World.history env world after := by
    rw [rest, cut]
    exact List.Subset.trans (List.subset_cons_self _ _) (List.subset_append_right _ _)
  have same := follows.keeps configuration (fun other member => spares other (inside member))
    fun other member => kept other (inside member)
  have untouched : (env.advance middle moment.access).sys = moment.system := by
    rw [compares, env.advance_sys middle (show ReadsOnly (.compare path) from trivial), ← compares,
      ← here]
  rw [untouched, isFile] at same
  exact sameValue_of_shows shows (same.symm.trans reads)

/-- Any accesses at all. -/
def Anything (_ : Access) : Prop := True

/-- The verification of what has been staged begins with the capture that it returns. -/
theorem verifyStagedRunning_captures {request : DamonConfig} {observed : Option DamonConfig}
    {reason : String} {world after : World} {snapshot : ConfigurationSnapshot}
    (run : verifyStagedRunning request observed reason env world = (.ok snapshot, after)) :
    ∃ taken, retryBusy DamonAdmin.configurationSnapshot env world = (.ok snapshot, taken) ∧
      World.Reaches ReadsOnly env taken after := by
  obtain ⟨found, taken, capture, run⟩ := Exec.bind_eq_ok run
  obtain ⟨staged, _, first, -, run⟩ := World.Reaches.of_reading
    (Confined.retry DamonAdmin.configuration_confined.readsOnly) run
  obtain ⟨normalized, _, second, -, run⟩ := World.Reaches.of_reading (.ofExcept _) run
  obtain ⟨_, _, third, -, run⟩ := World.Reaches.of_reading (requireEquivalent_confined _ _) run
  obtain ⟨_, _, fourth, -, run⟩ := World.Reaches.of_reading
    (requireOwned_confined (.retry found.valuesMatchCurrent_confined.readsOnly)) run
  obtain ⟨_, _, fifth, -, run⟩ := World.Reaches.of_reading verifyOwnedIdentitiesOnly_readsOnly run
  cases run
  exact ⟨taken, capture, first.trans (second.trans (third.trans (fourth.trans fifth)))⟩

/-- Staging makes only accesses of a session. -/
theorem stageRunning_anything (config : DamonConfig) (observed : Option DamonConfig) :
    Confined Anything (stageRunning config observed) :=
  stageRunning_confined (fun _ _ => trivial)
    ((DamonAdmin.stageConfigurationFrom_stages config observed).mono fun _ _ => trivial)

/-- The record of a successful forward part comes from its last capture. -/
theorem stageAndCommitRunning_ok {config : DamonConfig} {observed : Option DamonConfig}
    {selected : List Nat} {world after : World} {staged : StagedOwnership}
    (run : stageAndCommitRunning config observed selected env world = (.ok staged, after)) :
    ∃ capturing taken, World.Reaches Anything env world capturing ∧
      retryBusy DamonAdmin.configurationSnapshot env capturing =
        (.ok staged.configuration, taken) ∧
      World.Reaches Anything env taken after := by
  have anything : ∀ access, ReadsOnly access → Anything access := fun _ _ => trivial
  have commits : Confined Anything (Exec.forEach (commandIdentified .commit) selected) :=
    .forEach _ fun index _ => commandIdentified_confined anything trivial
  have verifies : ∀ request previous reason,
      Confined Anything (verifyStagedRunning request previous reason) :=
    fun _ _ _ => (verifyStagedRunning_readsOnly _ _ _).mono anything
  have records : ∀ {snapshot config env} {world after : World} {staged : StagedOwnership},
      recordOwnership snapshot config env world = (.ok staged, after) →
        World.Reaches Anything env world after ∧ staged.configuration = snapshot := by
    intro snapshot config env world after staged run
    refine ⟨.of_run ((recordOwnership_reads _ _).readsOnly.mono anything) run, ?_⟩
    obtain ⟨_, _, _, made⟩ := Exec.bind_eq_ok run
    cases made
    rfl
  obtain ⟨_, checked, check, run⟩ := Exec.bind_eq_ok run
  obtain ⟨_, stagedWorld, stage, run⟩ := Exec.bind_eq_ok run
  obtain ⟨snapshot, verified, verify, run⟩ := Exec.bind_eq_ok run
  obtain ⟨_, committed, commit, run⟩ := Exec.bind_eq_ok run
  have staging : World.Reaches Anything env world stagedWorld :=
    (World.Reaches.of_run (verifyOwnedIdentitiesOnly_readsOnly.mono anything) check).trans
      (.of_run (stageRunning_anything _ _) stage)
  have committing : World.Reaches Anything env verified committed := .of_run commits commit
  split at run
  · obtain ⟨_, restaged, restage, run⟩ := Exec.bind_eq_ok run
    obtain ⟨cleanedSnapshot, reverified, reverify, record⟩ := Exec.bind_eq_ok run
    obtain ⟨recording, rfl⟩ := records record
    obtain ⟨taken, takes, ends⟩ := verifyStagedRunning_captures reverify
    refine ⟨restaged, taken, ?_, takes, (ends.mono anything).trans recording⟩
    exact ((staging.trans (.of_run (verifies _ _ _) verify)).trans committing).trans
      (.of_run (stageRunning_anything _ _) restage)
  · obtain ⟨recording, rfl⟩ := records run
    obtain ⟨taken, takes, ends⟩ := verifyStagedRunning_captures verify
    exact ⟨stagedWorld, taken, staging, takes,
      (ends.mono anything).trans (committing.trans recording)⟩

end Updates

/-! ## Successful updates -/

/-- A run of an update that succeeds, split at its last ownership check and at the capture that
becomes the ownership record. -/
structure UpdateRun (config : DamonConfig) (indices : List Nat) (env : Env) (world : World) where
  captured : CapturedUpdate
  /-- The world in which the last ownership check begins. -/
  checking : World
  checked : World
  prepared : PreparedUpdate
  staged : StagedOwnership
  /-- The paths that the update writes. -/
  writes : List Path
  /-- The world in which the capture begins. -/
  capturing : World
  taken : World
  last : World
  captures : captureUpdate config indices env world = (.ok captured, checking)
  checks : verifyOwnedState env checking = (.ok (), checked)
  plans : captured.plan config = .ok prepared
  commits : collectWrites prepared.transaction.forward env checked = (.ok (.ok staged, writes), last)
  leads : World.Reaches Anything env { checked with journal := some [] } capturing
  takes : retryBusy DamonAdmin.configurationSnapshot env capturing =
    (.ok staged.configuration, taken)
  ends : World.Reaches Anything env taken { last with journal := some writes }

namespace UpdateRun

variable {config : DamonConfig} {indices : List Nat} {env : Env} {world : World}

theorem prepares (run : UpdateRun config indices env world) :
    prepareUpdate config indices env world = (.ok run.prepared, run.checked) := by
  unfold prepareUpdate
  rw [Exec.bind_run_ok run.captures, Exec.bind_run_ok run.checks, Exec.ofExcept_run, run.plans]

/-- Such a run is that of a call which succeeds and records what it has staged. -/
theorem succeeds (run : UpdateRun config indices env world) :
    updateConfiguration config indices env world =
      (.ok (), { run.last with self := { run.last.self with staged := run.staged } }) := by
  rw [updateConfiguration_eq, Exec.bind_run_ok run.prepares]
  show transact _ _ env run.checked = _
  rw [transact, Exec.bind_run_ok run.commits]
  rfl

/-- Every call that succeeds has such a run. -/
theorem of_ok {after : World}
    (succeeds : updateConfiguration config indices env world = (.ok (), after)) :
    Nonempty (UpdateRun config indices env world) := by
  rw [updateConfiguration_eq] at succeeds
  obtain ⟨prepared, checked, prepares, transacts⟩ := Exec.bind_eq_ok succeeds
  obtain ⟨captured, checking, captures, prepares⟩ := Exec.bind_eq_ok prepares
  obtain ⟨_, afterCheck, checks, plans⟩ := Exec.bind_eq_ok prepares
  cases planned : captured.plan config with
  | error error =>
      rw [planned] at plans
      cases plans
  | ok found =>
      rw [planned] at plans
      cases plans
      obtain ⟨⟨outcome, writes⟩, last, commits, finishes⟩ := Exec.bind_eq_ok transacts
      cases outcome with
      | ok staged =>
          obtain ⟨final, forward, collected, rfl⟩ := collectWrites_ok commits
          obtain ⟨capturing, taken, leads, takes, ends⟩ := stageAndCommitRunning_ok forward
          refine ⟨⟨captured, checking, checked, prepared, staged, writes, capturing, taken, _,
            captures, checks, planned, commits, leads, takes, ?_⟩⟩
          have capture : World.Reaches Anything env capturing taken :=
            .of_run (.retry (DamonAdmin.configurationSnapshot_confined.mono fun _ _ => trivial)) takes
          have journaled := ((leads.trans capture).trans ends).records.journal [] rfl
          rw [journaled] at collected
          have same : final = { final with journal := some writes } := by
            rw [← collected, Option.getD_some, ← journaled]
          exact same ▸ ends
      | error operation =>
          obtain ⟨rolled, _, _, fails⟩ := Exec.bind_eq_ok finishes
          cases rolled with
          | ok staged =>
              obtain ⟨_, _, _, fails⟩ := Exec.bind_eq_ok fails
              cases fails
          | error failure => cases fails

/-- What a run reaches up to its capture, with its history from the end of the check on. -/
theorem history_checked (run : UpdateRun config indices env world) (later : World) :
    World.history env { run.checked with journal := some [] } later =
      World.history env run.checked later :=
  env.moments_journal _ _ _

/-- The accesses of a run up to the end of its capture. -/
theorem reaches_taken (run : UpdateRun config indices env world) :
    World.Reaches Anything env { run.checked with journal := some [] } run.taken :=
  run.leads.trans <| .of_run
    (.retry (DamonAdmin.configurationSnapshot_confined.mono fun _ _ => trivial)) run.takes

theorem advances (run : UpdateRun config indices env world) :
    World.Advances env run.checked run.taken :=
  .trans ⟨[], some [], rfl⟩ run.reaches_taken.advances

/-- The writes before the capture are among those of the update. -/
theorem spares (run : UpdateRun config indices env world) {path : Path}
    (spared : ∀ write ∈ run.writes, Path.LeavesAlone write path) :
    ∀ moment ∈ World.history env run.checked run.taken, moment.Spares path := by
  have early := run.reaches_taken.records.journal [] rfl
  have all := run.ends.records.journal _ early
  rw [List.nil_append, history_checked] at all
  intro moment member other written
  refine spared other ?_
  rw [Option.some.inj all]
  exact List.mem_append_left _ (List.mem_filterMap.mpr ⟨moment, member, written⟩)

/-- What the update writes is in the trace of its call. -/
theorem traced (run : UpdateRun config indices env world) {path : Path} (member : path ∈ run.writes) :
    ∃ event ∈ (updateConfiguration config indices env world).2.trace,
      ∃ value, event.access = .write path value := by
  have whole := (run.reaches_taken.trans run.ends).records
  rw [Option.some.inj (whole.journal [] rfl), List.nil_append] at member
  obtain ⟨moment, inside, written⟩ := List.mem_filterMap.mp member
  rw [run.succeeds]
  refine ⟨⟨moment.access, moment.reply, run.checked.self.states⟩, ?_, ?_⟩
  · show _ ∈ ({ run.last with journal := some run.writes } : World).trace
    rw [whole.advances.trace_eq]
    exact List.mem_append_left _ (List.mem_reverse.mpr (List.mem_map_of_mem inside))
  · obtain ⟨before, system, access, reply⟩ := moment
    unfold Moment.written at written
    split at written
    · rename_i value isAccess _
      cases written
      exact ⟨value, isAccess⟩
    · cases written

/-- When nobody changes an attribute that the update spares, the record holds the value that it
had when the check ended. -/
theorem adopts_checked (run : UpdateRun config indices env world) {path : Path}
    (configuration : Path.isRuntimeAttribute path = false)
    (spared : ∀ write ∈ run.writes, Path.LeavesAlone write path)
    (kept : ∀ moment ∈ World.history env run.checked run.taken, moment.Keeps readableValue path) :
    ∀ adopted ∈ run.staged.configuration.entries, adopted.path = path →
      run.checked.sys.files.value? path = some adopted.value := by
  rintro adopted member rfl
  obtain ⟨read, starts, value, ends⟩ :=
    DamonAdmin.configurationSnapshot_read run.takes adopted member
  have begins := run.leads.advances.trans starts.advances
  have inside : World.history env { run.checked with journal := some [] } read ⊆
      World.history env run.checked run.taken := by
    rw [← run.history_checked]
    exact begins.history_first ends.advances
  rw [← value]
  exact (begins.keeps configuration (fun moment member => run.spares spared moment (inside member))
    fun moment member => kept moment (inside member)).symm

end UpdateRun

/-- A command to take over what is staged. -/
def CommitsAt (moment : Moment) : Prop :=
  ∃ index, moment.access = .write (Path.stateOf index) KdamondCommand.commit.kernelName

/-- Others change the value of an attribute when nothing has been committed yet. -/
def ChangedBeforeCommit (path : Path) (moments : List Moment) : Prop :=
  ∃ earlier moment later, moments = earlier ++ moment :: later ∧
    ¬moment.Keeps readableValue path ∧ ∀ other ∈ earlier, ¬CommitsAt other

/-- Others change the value of an attribute after a commit. -/
def ChangedAfterCommit (path : Path) (moments : List Moment) : Prop :=
  ∃ earlier moment later, moments = earlier ++ moment :: later ∧
    ¬moment.Keeps readableValue path ∧ ∃ other ∈ earlier, CommitsAt other

theorem ChangedBeforeCommit.changes {path : Path} {moments : List Moment}
    (changed : ChangedBeforeCommit path moments) :
    ∃ moment ∈ moments, ¬moment.Keeps readableValue path := by
  obtain ⟨earlier, moment, later, rfl, changes, -⟩ := changed
  exact ⟨moment, by simp, changes⟩

theorem ChangedAfterCommit.changes {path : Path} {moments : List Moment}
    (changed : ChangedAfterCommit path moments) :
    ∃ moment ∈ moments, ¬moment.Keeps readableValue path := by
  obtain ⟨earlier, moment, later, rfl, changes, -⟩ := changed
  exact ⟨moment, by simp, changes⟩

namespace ForeignAttribute

/-- New intervals for the one context of a session. -/
def config : DamonConfig :=
  Fixture.config [Fixture.contextConfig ⟨6000, 120000, 60000000, Fixture.intervals_ordered⟩ 0]

def vendor : Path := ["kdamonds", "0", "contexts", "0", "vendor"]

/-- A session whose record holds an attribute that ends in no newline. -/
def world : World :=
  Fixture.session
    ((Fixture.running [Fixture.context "5000" "100000" "0"]).setText vendor ⟨"0"⟩)
    (Fixture.config [Fixture.contextConfig .default 0])

/-- Another controller changes the attribute before the access with a given number. -/
def changedAt (moment : Nat) : Env :=
  { Fixture.calm with
    interfere := fun clock sys =>
      if clock = moment then { sys with files := sys.files.setText vendor (.ofWritten "1") }
      else sys }

/-- Another controller writes the value of the attribute anew, with a newline at its end. -/
def rewrittenAt (moment : Nat) : Env :=
  { Fixture.calm with
    interfere := fun clock sys =>
      if clock = moment then
        { sys with files := (sys.files.value? vendor).elim sys.files fun value =>
            sys.files.setText vendor (.ofWritten value) }
      else sys }

/-- A newline at the end of the value leaves it as it is. -/
theorem rewrittenAt_keeps (moment clock : Nat) (sys : System) :
    ((rewrittenAt moment).interfere clock sys).files.value? vendor = sys.files.value? vendor := by
  dsimp only [rewrittenAt]
  split
  · cases read : sys.files.value? vendor with
    | none => exact read
    | some value =>
        obtain ⟨file, found, -⟩ := Option.bind_eq_some_iff.mp read
        dsimp only [Option.elim_some]
        rw [Files.value?, Files.get?_setText, if_pos rfl, found, Option.map_some, readableValue,
          Option.bind_some, Content.value?_text, AttributeText.ofWritten_value]
  · rfl

/-- Every moment of a run with such a controller keeps the value. -/
theorem rewrittenAt_history {moment : Nat} {before after : World}
    (advances : World.Advances (rewrittenAt moment) before after) :
    ∀ instant ∈ World.history (rewrittenAt moment) before after,
      instant.Keeps readableValue vendor := by
  intro instant member
  obtain ⟨earlier, later, cut⟩ := List.append_of_mem member
  obtain ⟨middle, -, -, here, -⟩ := advances.split cut
  rw [here]
  exact rewrittenAt_keeps moment middle.clock middle.sys

end ForeignAttribute

end ManagedHierarchy

end DamonRs
