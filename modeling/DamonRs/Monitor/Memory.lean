import DamonRs.Monitor.StopSafety
import DamonRs.Sysfs.Ordered
import Mathlib.Data.List.Basic
import Mathlib.Data.List.Nodup

/-!
# What a session remembers

While a session owns its hierarchy it keeps the snapshot that it took when it
began, and its ownership record stays in the order that its searches rely on.
Neither depends on what the environment does or on which accesses fail.
-/

namespace DamonRs

open Library Sysfs

/-! ## Ordered records -/

namespace StagedOwnership

/-- The lists of a record are in strict order. -/
structure Ordered (staged : StagedOwnership) : Prop where
  entries : staged.configuration.fingerprint.Ordered
  volatilePaths : staged.volatilePaths.Pairwise (· < ·)

theorem mem_tunedLeaves {kdamond context : Nat} {config : ContextConfig} {path : Path}
    (leaf : path ∈ tunedLeaves ((DamonAdmin.kdamond kdamond).context context) config) :
    ∃ last, path = ["kdamonds", Path.indexName kdamond, "contexts", Path.indexName context,
      "monitoring_attrs", "intervals", last] := by
  unfold tunedLeaves at leaf
  split at leaf
  · cases leaf
  · rcases List.mem_cons.mp leaf with rfl | other
    · exact ⟨"sample_us", rfl⟩
    · exact ⟨"aggr_us", List.mem_singleton.mp other⟩

theorem tunedLeaves_nodup (context : Context) (config : ContextConfig) :
    (tunedLeaves context config).Nodup := by
  unfold tunedLeaves
  split
  · exact List.nodup_nil
  · refine List.nodup_cons.mpr ⟨fun same => ?_, List.nodup_singleton _⟩
    have last := List.append_cancel_left (List.mem_singleton.mp same)
    exact absurd last (by decide)

/-- The indexes of a list are different. -/
theorem zipIdx_apart {α : Type} (items : List α) :
    items.zipIdx.Pairwise fun first second => first.2 ≠ second.2 := by
  have indexes : (items.zipIdx.map Prod.snd).Nodup := by
    rw [List.zipIdx_map_snd]
    exact List.nodup_range'
  exact List.pairwise_map.mp indexes

/-- The leaves that a configuration leaves to the kernel are all different. -/
theorem new_ordered {snapshot : ConfigurationSnapshot} (ordered : snapshot.fingerprint.Ordered)
    (config : DamonConfig) : (StagedOwnership.new snapshot config).Ordered := by
  refine ⟨ordered, ?_⟩
  have once : (config.kdamonds.zipIdx.flatMap fun kdamond =>
      kdamond.1.contexts.zipIdx.flatMap fun context =>
        tunedLeaves ((DamonAdmin.kdamond kdamond.2).context context.2) context.1).Nodup := by
    refine List.nodup_flatMap.mpr ⟨fun kdamond _ => List.nodup_flatMap.mpr
      ⟨fun context _ => tunedLeaves_nodup _ _, (zipIdx_apart _).imp ?_⟩, (zipIdx_apart _).imp ?_⟩
    · intro first second different path here there
      obtain ⟨_, rfl⟩ := mem_tunedLeaves here
      obtain ⟨_, same⟩ := mem_tunedLeaves there
      injection same with _ rest
      injection rest with _ rest
      injection rest with _ rest
      injection rest with name _
      exact different (Path.indexName_injective name)
    · intro first second different path here there
      obtain ⟨one, _, here⟩ := List.mem_flatMap.mp here
      obtain ⟨two, _, there⟩ := List.mem_flatMap.mp there
      obtain ⟨_, rfl⟩ := mem_tunedLeaves here
      obtain ⟨_, same⟩ := mem_tunedLeaves there
      injection same with _ rest
      injection rest with name _
      exact different (Path.indexName_injective name)
  have sorted := List.pairwise_insertionSort (· ≤ ·) (config.kdamonds.zipIdx.flatMap fun kdamond =>
      kdamond.1.contexts.zipIdx.flatMap fun context =>
        tunedLeaves ((DamonAdmin.kdamond kdamond.2).context context.2) context.1)
  exact sorted.imp₂ (fun _ _ below different => lt_of_le_of_ne below different)
    ((List.perm_insertionSort (· ≤ ·) _).nodup_iff.mpr once)

theorem Ordered.withConfiguration {staged : StagedOwnership} (ordered : staged.Ordered)
    {snapshot : ConfigurationSnapshot} (captured : snapshot.fingerprint.Ordered) :
    (staged.withConfiguration snapshot).Ordered :=
  ⟨captured, ordered.volatilePaths⟩

end StagedOwnership

theorem DamonAdmin.configurationSnapshot_ordered {snapshot : ConfigurationSnapshot}
    (returns : Exec.Returns (retryBusy DamonAdmin.configurationSnapshot) snapshot) :
    snapshot.fingerprint.Ordered := by
  obtain ⟨fingerprint, captured, last⟩ := Exec.returns_bind (Exec.returns_retry returns)
  rw [Exec.returns_pure last]
  exact ConfigurationFingerprint.ordered_of_capture captured

theorem ConfigurationSnapshot.refreshedPathsExcept_ordered
    {snapshot refreshed : ConfigurationSnapshot} {paths ignored : List Path}
    (ordered : snapshot.fingerprint.Ordered)
    (returns : Exec.Returns (snapshot.refreshedPathsExcept paths ignored) refreshed) :
    refreshed.fingerprint.Ordered := by
  obtain ⟨fingerprint, made, last⟩ := Exec.returns_bind returns
  rw [Exec.returns_pure last]
  exact ordered.refreshed made

theorem stageAndVerifyConfiguration_ordered {config : DamonConfig} {observed : Option DamonConfig}
    {staged : ConfigurationSnapshot}
    (returns : Exec.Returns (stageAndVerifyConfiguration config observed) staged) :
    staged.fingerprint.Ordered := by
  obtain ⟨_, -, returns⟩ := Exec.returns_bind returns
  obtain ⟨_, -, returns⟩ := Exec.returns_bind returns
  obtain ⟨snapshot, captured, returns⟩ := Exec.returns_bind returns
  obtain ⟨_, -, returns⟩ := Exec.returns_bind returns
  obtain ⟨_, -, returns⟩ := Exec.returns_bind returns
  obtain ⟨_, -, returns⟩ := Exec.returns_bind returns
  obtain ⟨_, -, returns⟩ := Exec.returns_bind returns
  rw [Exec.returns_pure returns]
  exact DamonAdmin.configurationSnapshot_ordered captured

/-! ## The invariant of the memory -/

/-- What an owned hierarchy was, and a record that can be searched. -/
structure Remembers (found : Option ConfigurationSnapshot) (world : World) : Prop where
  previous : world.self.ownsHierarchy = true → world.self.previous = found
  record : world.self.staged.Ordered

section Keeps

variable {found : Option ConfigurationSnapshot}

/-- Accesses leave the memory alone. -/
theorem Sysfs.Confined.remembers {allowed : Access → Prop} {α : Type} {program : Sysfs α}
    (confined : Confined allowed program) : Exec.Keeps (Remembers found) program := by
  have anything : Confined (fun _ => True) program := confined.mono fun _ _ => trivial
  intro env world remembers
  have extends_ : World.Extends (fun _ => True) world (program env world).2 :=
    anything.accesses (fun _ => trivial) env world
  exact ⟨by rw [extends_.self]; exact remembers.previous,
    by rw [extends_.self]; exact remembers.record⟩

theorem Sysfs.Confined.remembersAny {α : Type} {program : Sysfs α}
    (confined : Confined (fun _ => True) program) : Exec.Keeps (Remembers found) program :=
  confined.remembers

theorem Accesses.remembers {allowed : Access → Prop} {α : Type} {program : Sysfs α}
    (accesses : Accesses allowed program) : Exec.Keeps (Remembers found) program := by
  intro env world remembers
  have extends_ := accesses env world
  exact ⟨by rw [extends_.self]; exact remembers.previous,
    by rw [extends_.self]; exact remembers.record⟩

/-- The memory that a program reads has an ordered record. -/
theorem remembers_getSelf {α : Type} {next : ManagedHierarchy → Sysfs α}
    (keeps : ∀ self, self.staged.Ordered → Exec.Keeps (Remembers found) (next self)) :
    Exec.Keeps (Remembers found) (getSelf >>= next) :=
  fun env world remembers => keeps world.self remembers.record env world remembers

namespace ManagedHierarchy

/-- Changes of the memory that keep what it remembers. -/
theorem modifySelf_remembers {change : ManagedHierarchy → ManagedHierarchy}
    (previous : ∀ self, (change self).ownsHierarchy = true →
      self.ownsHierarchy = true ∧ (change self).previous = self.previous)
    (record : ∀ self, self.staged.Ordered → (change self).staged.Ordered) :
    Exec.Keeps (Remembers found) (modifySelf change) :=
  fun _ world remembers => ⟨fun owns => (previous world.self owns).2.trans
    (remembers.previous (previous world.self owns).1), record world.self remembers.record⟩

theorem setState_remembers (index : Nat) (state : KdamondSessionState) :
    Exec.Keeps (Remembers found) (setState index state) :=
  modifySelf_remembers (fun _ owns => ⟨owns, rfl⟩) fun _ ordered => ordered

theorem setStaged_remembers {staged : StagedOwnership} (ordered : staged.Ordered) :
    Exec.Keeps (Remembers found) (setStaged staged) :=
  modifySelf_remembers (fun _ owns => ⟨owns, rfl⟩) fun _ _ => ordered

theorem disown_remembers :
    Exec.Keeps (Remembers found) (modifySelf fun self => { self with ownsHierarchy := false }) :=
  modifySelf_remembers (fun _ owns => nomatch owns) fun _ ordered => ordered

theorem release_remembers : Exec.Keeps (Remembers found) release :=
  fun _ _ _ => ⟨fun owns => (nomatch owns), List.Pairwise.nil, List.Pairwise.nil⟩

/-! ## Starting and stopping -/

/-- A command is one confined program, whichever it is. -/
theorem command_remembers (index : Nat) (command : KdamondCommand) :
    Exec.Keeps (Remembers found) (retryBusy ((kdamond index).command command)) :=
  have anything : Confined (fun _ => True) ((kdamond index).command command) :=
    Kdamond.command_confined index command trivial
  anything.retry.remembers

theorem startOne_remembers (index : Nat) : Exec.Keeps (Remembers found) (startOne index) := by
  refine Exec.keeps_bind (command_remembers index .on) fun _ => ?_
  refine Exec.keeps_bind (setState_remembers index _) fun _ => ?_
  refine Exec.keeps_bind (runningThreadPid_checks index).remembers fun pid => ?_
  refine Exec.keeps_bind (setState_remembers index _) fun _ => ?_
  refine Exec.keeps_bind (verifyRunningIdentityOnly_checks index).remembers fun _ => ?_
  exact remembers_getSelf fun self _ => (self.staged.verifyKdamondConfiguration_reads index).remembers

theorem stopUnlessOff_remembers (index : Nat) {whileOn : Sysfs Unit}
    (keeps : Exec.Keeps (Remembers found) whileOn) :
    Exec.Keeps (Remembers found) (stopUnlessOff index whileOn) := by
  refine Exec.keeps_bind (Kdamond.state_confined index).retry.remembers fun state => ?_
  cases state with
  | off => exact setState_remembers index _
  | on => exact keeps
  | unknown name => exact Exec.keeps_fail _

theorem stopIdentified_remembers (index : Nat) (expected : Pid) :
    Exec.Keeps (Remembers found) (stopIdentified index expected) := by
  refine Exec.keeps_bind (currentPid_checks index).remembers fun current => ?_
  refine Exec.keeps_bind (Confined.remembersAny
    (requireSamePid_confined current expected)) fun _ => ?_
  refine Exec.keeps_bind (command_remembers index .off) fun _ => ?_
  refine Exec.keeps_bind (Kdamond.state_confined index).retry.remembers fun state => ?_
  cases state with
  | off => exact setState_remembers index _
  | on => exact Exec.keeps_fail _
  | unknown name => exact Exec.keeps_fail _

theorem stopOne_remembers (index : Nat) : Exec.Keeps (Remembers found) (stopOne index) := by
  refine remembers_getSelf fun self _ => ?_
  cases self.state index with
  | staged => exact (requireStagedOff_reads index).remembers
  | running expected =>
      exact stopUnlessOff_remembers index (stopIdentified_remembers index expected)
  | unidentifiedRunning => exact stopUnlessOff_remembers index (Exec.keeps_fail _)

theorem verifyAndStop_remembers (index : Nat) :
    Exec.Keeps (Remembers found) (verifyAndStop index) :=
  remembers_getSelf fun self _ => Exec.keeps_bind
    (self.staged.verifyKdamondConfiguration_reads index).remembers fun _ => stopOne_remembers index

theorem reportFirst_remembers (first : Option Error) :
    Exec.Keeps (Remembers found) (reportFirst first) := by
  cases first with
  | none => exact Exec.keeps_pure ()
  | some error => exact Exec.keeps_fail error

theorem rollbackStartedEach_remembers (first : Option Error) (indices : List Nat) :
    Exec.Keeps (Remembers found) (rollbackStartedEach first indices) := by
  induction indices generalizing first with
  | nil => exact Exec.keeps_pure first
  | cons index rest ih =>
      refine remembers_getSelf fun self _ => Exec.keeps_ite (ih first) ?_
      exact Exec.keeps_bind (Exec.keeps_attempt (verifyAndStop_remembers index))
        fun outcome => ih _

theorem rollbackStarted_remembers : Exec.Keeps (Remembers found) rollbackStarted := by
  refine remembers_getSelf fun self _ => Exec.keeps_ite (Exec.keeps_pure ()) ?_
  refine Exec.keeps_bind self.staged.verifyCount_reads.remembers fun _ => ?_
  exact Exec.keeps_bind (rollbackStartedEach_remembers none _) fun first =>
    reportFirst_remembers first

theorem orRollbackStarted_remembers {step : Sysfs Unit}
    (keeps : Exec.Keeps (Remembers found) step) :
    Exec.Keeps (Remembers found) (orRollbackStarted step) := by
  refine Exec.keeps_bind (Exec.keeps_attempt keeps) fun outcome => ?_
  cases outcome with
  | ok value => exact Exec.keeps_pure ()
  | error operation =>
      exact Exec.keeps_bind (Exec.keeps_attempt rollbackStarted_remembers) fun _ =>
        Exec.keeps_fail _

theorem startAll_remembers : Exec.Keeps (Remembers found) startAll := by
  refine remembers_getSelf fun self _ => Exec.keeps_ite (Exec.keeps_fail _) ?_
  refine Exec.keeps_bind (Exec.keeps_ofExcept _) fun _ => ?_
  refine Exec.keeps_bind verifyStaged_reads.remembers fun _ => ?_
  refine Exec.keeps_bind (Exec.keeps_forEach _ fun index _ =>
    (requireStagedOff_reads index).remembers) fun _ => ?_
  refine Exec.keeps_bind (Exec.keeps_forEach _ fun index _ => ?_) fun _ =>
    orRollbackStarted_remembers verifyOwnedState_readsOnly.remembers
  refine Exec.keeps_bind (orRollbackStarted_remembers ?_) fun _ =>
    orRollbackStarted_remembers (startOne_remembers index)
  exact remembers_getSelf fun self _ => Exec.keeps_bind self.staged.verifyCount_reads.remembers
    fun _ => (self.staged.verifyKdamondConfiguration_reads index).remembers

theorem stopEach_remembers (first : Option Error) (indices : List Nat) :
    Exec.Keeps (Remembers found) (stopEach first indices) := by
  induction indices generalizing first with
  | nil => exact Exec.keeps_pure first
  | cons index rest ih =>
      refine remembers_getSelf fun self _ => Exec.keeps_bind (Exec.keeps_attempt
        self.staged.verifyCount_reads.remembers) fun outcome => ?_
      cases outcome with
      | error error => exact Exec.keeps_pure _
      | ok value =>
          exact Exec.keeps_bind (Exec.keeps_attempt (verifyAndStop_remembers index))
            fun outcome => ih _

theorem stopAll_remembers : Exec.Keeps (Remembers found) stopAll := by
  refine remembers_getSelf fun self _ => Exec.keeps_ite (Exec.keeps_pure ()) ?_
  refine Exec.keeps_bind self.staged.verifyCount_reads.remembers fun _ => ?_
  refine Exec.keeps_bind (stopEach_remembers none _) fun first => ?_
  exact Exec.keeps_bind (reportFirst_remembers first) fun _ => verifyStaged_reads.remembers

/-! ## Closing -/

theorem restoreConfiguration_remembers (snapshot : ConfigurationSnapshot) :
    Exec.Keeps (Remembers found) (restoreConfiguration snapshot) := by
  have anything : Confined (fun _ => True) (restoreConfiguration snapshot) :=
    restoreConfiguration_confined (fun _ => trivial) (fun _ _ => trivial) fun _ _ => trivial
  exact anything.remembers

theorem closeInner_remembers : Exec.Keeps (Remembers found) closeInner := by
  refine remembers_getSelf fun self _ => Exec.keeps_ite (Exec.keeps_pure ()) ?_
  refine Exec.keeps_bind stopAll_remembers fun _ => ?_
  refine Exec.keeps_bind verifyStaged_reads.remembers fun _ => ?_
  cases self.previous with
  | none => exact Exec.keeps_fail _
  | some snapshot =>
      refine Exec.keeps_bind (ConfigurationSnapshot.matchesCurrent_confined
        snapshot).retry.remembers fun matched => ?_
      refine Exec.keeps_ite disown_remembers (Exec.keeps_bind ?_ fun _ => disown_remembers)
      exact restoreConfiguration_remembers snapshot

theorem drop_remembers : Exec.Keeps (Remembers found) drop :=
  remembers_getSelf fun _ _ => Exec.keeps_ite (Exec.keeps_bind
    (Exec.keeps_attempt closeInner_remembers) fun _ => release_remembers) release_remembers

theorem close_remembers : Exec.Keeps (Remembers found) close :=
  Exec.keeps_bind (Exec.keeps_attempt closeInner_remembers) fun _ =>
    Exec.keeps_bind drop_remembers fun _ => Exec.keeps_ofExcept _

theorem isRunning_remembers (index : Nat) : Exec.Keeps (Remembers found) (isRunning index) := by
  refine Exec.keeps_bind (Confined.remembersAny (validateKdamondIndex_confined index)) fun _ => remembers_getSelf fun self _ => ?_
  cases self.state index with
  | staged =>
      exact Exec.keeps_bind self.staged.verify_reads.remembers fun _ =>
        Exec.keeps_bind (requireStagedOff_reads index).remembers fun _ => Exec.keeps_pure false
  | running pid =>
      refine Exec.keeps_bind (Exec.keeps_attempt (verifyRunning_checks index).remembers)
        fun outcome => ?_
      split
      · exact Exec.keeps_pure true
      · exact Exec.keeps_pure false
      · exact Exec.keeps_fail _
  | unidentifiedRunning => exact Exec.keeps_fail _

/-! ## Transactions -/

theorem commandIdentified_remembers (command : KdamondCommand) (index : Nat) :
    Exec.Keeps (Remembers found) (commandIdentified command index) :=
  Exec.keeps_bind (verifyRunningIdentityOnly_checks index).remembers fun _ =>
    Exec.keeps_bind (command_remembers index command) fun _ =>
      (verifyRunningIdentityOnly_checks index).remembers

theorem verifyBoundaryOr_remembers (snapshot : ConfigurationSnapshot) (writes : List Path)
    {restoration : Sysfs Unit} (keeps : Exec.Keeps (Remembers found) restoration) :
    Exec.Keeps (Remembers found) (verifyBoundaryOr snapshot writes restoration) := by
  refine Exec.keeps_bind (Exec.keeps_attempt
    (verifyRollbackBoundary_reads snapshot writes).remembers) fun outcome => ?_
  cases outcome with
  | ok value => exact Exec.keeps_pure ()
  | error boundary =>
      exact Exec.keeps_bind (Exec.keeps_attempt keeps) fun _ => Exec.keeps_fail _

/-- A program that keeps the memory and returns records in order. -/
def Records (found : Option ConfigurationSnapshot) (program : Sysfs StagedOwnership) : Prop :=
  ∀ env, Exec.Triple env (Remembers found) program fun outcome world =>
    Remembers found world ∧ ∀ staged, outcome = .ok staged → staged.Ordered

theorem Records.bind {α : Type} {program : Sysfs α} {next : α → Sysfs StagedOwnership}
    (keeps : Exec.Keeps (Remembers found) program)
    (records : ∀ value, Exec.Returns program value → Records found (next value)) :
    Records found (program >>= next) := by
  intro env world remembers
  have first := keeps env world remembers
  rw [Exec.bind_run]
  cases run : program env world with
  | mk outcome middle =>
      rw [run] at first
      cases outcome with
      | ok value => exact records value ⟨env, world, middle, run⟩ env middle first
      | error error => exact ⟨first, fun _ failed => nomatch failed⟩

theorem Records.getSelf {next : ManagedHierarchy → Sysfs StagedOwnership}
    (records : ∀ self, self.staged.Ordered → Records found (next self)) :
    Records found (getSelf >>= next) :=
  fun env world remembers => records world.self remembers.record env world remembers

/-- A record is verified before it is returned. -/
theorem Records.verified {staged : StagedOwnership} (ordered : staged.Ordered) :
    Records found (do staged.verify; pure staged) :=
  .bind staged.verify_reads.remembers fun _ _ _ _ remembers =>
    ⟨remembers, fun _ same => Except.ok.inj same ▸ ordered⟩

theorem Records.ite {condition : Prop} [Decidable condition] {first second : Sysfs StagedOwnership}
    (holds : Records found first) (fails : Records found second) :
    Records found (if condition then first else second) := by
  by_cases decided : condition
  · rw [if_pos decided]
    exact holds
  · rw [if_neg decided]
    exact fails

theorem Records.fail (error : Error) : Records found (Exec.fail error) :=
  fun _ _ remembers => ⟨remembers, fun _ failed => nomatch failed⟩

/-- A transaction and its rollback both leave an ordered record. -/
theorem transact_remembers {transaction : Sysfs StagedOwnership}
    {rollback : List Path → Sysfs StagedOwnership} (forward : Records found transaction)
    (backward : ∀ writes, Records found (rollback writes)) :
    Exec.Keeps (Remembers found) (transact transaction rollback) := by
  intro env world remembers
  obtain ⟨kept, ordered⟩ :=
    forward env { world with journal := some [] } ⟨remembers.previous, remembers.record⟩
  cases run : transaction env { world with journal := some [] } with
  | mk outcome middle =>
      rw [run] at kept ordered
      have after : Remembers found { middle with journal := none } := ⟨kept.previous, kept.record⟩
      have collected : collectWrites transaction env world =
          (.ok (outcome, middle.journal.getD []), { middle with journal := none }) := by
        unfold collectWrites
        rw [run]
      unfold transact
      rw [Exec.bind_run_ok collected]
      cases outcome with
      | ok staged => exact setStaged_remembers (ordered staged rfl) env _ after
      | error operation =>
          obtain ⟨back, restored⟩ := backward (middle.journal.getD []) env _ after
          dsimp only
          rw [Exec.bind_run, Exec.attempt_run]
          dsimp only
          cases undone : rollback (middle.journal.getD []) env { middle with journal := none } with
          | mk second last =>
              rw [undone] at back restored
              cases second with
              | ok staged => exact setStaged_remembers (restored staged rfl) env last back
              | error failure => exact back

theorem restoreWritten_remembers (snapshot : ConfigurationSnapshot) (writes : List Path) :
    Exec.Keeps (Remembers found) (restoreWritten snapshot writes) := by
  have anything : Confined (fun _ => True) (restoreWritten snapshot writes) :=
    restoreWritten_confined (fun _ => trivial) fun _ _ _ => trivial
  exact anything.remembers

theorem restoreAndCommitRunning_records (snapshot : ConfigurationSnapshot) (config : DamonConfig)
    (selected : List Nat) (writes : List Path) :
    Records found (restoreAndCommitRunning snapshot config selected writes) := by
  have identities : Exec.Keeps (Remembers found) verifyOwnedIdentitiesOnly :=
    verifyOwnedIdentitiesOnly_readsOnly.remembers
  have restores : Exec.Keeps (Remembers found) (restoreWritten snapshot writes) :=
    restoreWritten_remembers snapshot writes
  have commits : Exec.Keeps (Remembers found)
      (Exec.forEach (commandIdentified .commit) selected) :=
    Exec.keeps_forEach _ fun index _ => commandIdentified_remembers .commit index
  refine .bind identities fun _ _ => ?_
  refine .bind (verifyBoundaryOr_remembers snapshot writes
    (Exec.keeps_bind restores fun _ => commits)) fun _ _ => ?_
  refine .bind restores fun _ _ => .bind identities fun _ _ => ?_
  refine .bind (requireUnchanged_reads snapshot _).remembers fun _ _ => ?_
  refine .bind commits fun _ _ => ?_
  refine .bind DamonAdmin.configurationSnapshot_confined.retry.remembers fun current captured => ?_
  refine .bind (requireUnchanged_reads snapshot _).remembers fun _ _ => ?_
  exact Records.verified (StagedOwnership.new_ordered (DamonAdmin.configurationSnapshot_ordered captured) config)

theorem restoreAndCommitQuotaGoals_records (snapshot : ConfigurationSnapshot) (index : Nat)
    (writes : List Path) :
    Records found (restoreAndCommitQuotaGoals snapshot index writes) := by
  have restores : Exec.Keeps (Remembers found) (restoreWritten snapshot writes) :=
    restoreWritten_remembers snapshot writes
  have commits : Exec.Keeps (Remembers found)
      (commandIdentified .commitSchemesQuotaGoals index) :=
    commandIdentified_remembers .commitSchemesQuotaGoals index
  refine .bind verifyOwnedIdentitiesOnly_readsOnly.remembers fun _ _ => ?_
  refine .bind (verifyBoundaryOr_remembers snapshot writes
    (Exec.keeps_bind restores fun _ => commits)) fun _ _ => ?_
  refine .bind restores fun _ _ => .bind commits fun _ _ => ?_
  refine .bind (requireUnchanged_reads snapshot _).remembers fun _ _ => ?_
  refine .bind DamonAdmin.configurationSnapshot_confined.retry.remembers fun current captured => ?_
  exact .getSelf fun self ordered => .verified
    (ordered.withConfiguration (DamonAdmin.configurationSnapshot_ordered captured))

theorem verifyStagedRunning_ordered {config : DamonConfig} {observed : Option DamonConfig}
    {reason : String} {snapshot : ConfigurationSnapshot}
    (returns : Exec.Returns (verifyStagedRunning config observed reason) snapshot) :
    snapshot.fingerprint.Ordered := by
  obtain ⟨captured, taken, returns⟩ := Exec.returns_bind returns
  obtain ⟨_, -, returns⟩ := Exec.returns_bind returns
  obtain ⟨_, -, returns⟩ := Exec.returns_bind returns
  obtain ⟨_, -, returns⟩ := Exec.returns_bind returns
  obtain ⟨_, -, returns⟩ := Exec.returns_bind returns
  obtain ⟨_, -, returns⟩ := Exec.returns_bind returns
  rw [Exec.returns_pure returns]
  exact DamonAdmin.configurationSnapshot_ordered taken

theorem stageAndCommitRunning_records (config : DamonConfig) (observed : Option DamonConfig)
    (selected : List Nat) : Records found (stageAndCommitRunning config observed selected) := by
  refine .bind verifyOwnedIdentitiesOnly_readsOnly.remembers fun _ _ => ?_
  refine .bind (stageRunning_writes config observed).remembers fun _ _ => ?_
  refine .bind (verifyStagedRunning_readsOnly config observed _).remembers
    fun snapshot captured => ?_
  refine .bind (Exec.keeps_forEach _ fun index _ =>
    commandIdentified_remembers .commit index) fun _ _ => .ite ?_ ?_
  · refine .bind (stageRunning_writes _ _).remembers fun _ _ => ?_
    refine .bind (verifyStagedRunning_readsOnly _ _ _).remembers fun cleaned taken => ?_
    exact Records.verified (StagedOwnership.new_ordered (verifyStagedRunning_ordered taken) _)
  · exact Records.verified (StagedOwnership.new_ordered (verifyStagedRunning_ordered captured) config)

theorem updateConfiguration_remembers (config : DamonConfig) (indices : List Nat) :
    Exec.Keeps (Remembers found) (updateConfiguration config indices) := by
  have owned : Exec.Keeps (Remembers found) verifyOwnedState :=
    verifyOwnedState_readsOnly.remembers
  have looks : Exec.Keeps (Remembers found) environment := fun _ _ remembers => remembers
  refine Exec.keeps_bind looks fun env => ?_
  refine Exec.keeps_bind (Exec.keeps_ofExcept _) fun _ => remembers_getSelf fun self _ => ?_
  refine Exec.keeps_bind (Exec.keeps_ofExcept _) fun selected => ?_
  refine Exec.keeps_bind (Exec.keeps_ofExcept _) fun _ => ?_
  refine Exec.keeps_bind (Exec.keeps_forEach _ fun index _ => Exec.keeps_bind
    (Confined.remembersAny (expectedRunningPid_confined index))
    fun _ => Exec.keeps_pure ()) fun _ => ?_
  refine Exec.keeps_bind owned fun _ => ?_
  refine Exec.keeps_bind DamonAdmin.configurationSnapshot_confined.retry.remembers
    fun snapshot => ?_
  refine Exec.keeps_bind DamonAdmin.configuration_confined.retry.remembers fun previous => ?_
  refine Exec.keeps_bind (requireUnchanged_reads snapshot _).remembers fun _ => ?_
  refine Exec.keeps_bind owned fun _ => ?_
  refine Exec.keeps_bind (Exec.keeps_ofExcept _) fun comparable => ?_
  refine Exec.keeps_bind (Exec.keeps_ofExcept _) fun kdamonds => ?_
  refine Exec.keeps_bind (Exec.keeps_ofExcept _) fun _ => ?_
  exact transact_remembers (stageAndCommitRunning_records _ _ _)
    fun writes => restoreAndCommitRunning_records snapshot previous selected writes

theorem stageAndCommitQuotaGoals_records (i j k : Nat) (goals observed : List QuotaGoalConfig)
    (index : Nat) :
    Records found (stageAndCommitQuotaGoals
      (((DamonAdmin.kdamond i).context j).scheme k).quotas goals observed index) := by
  have identities : Exec.Keeps (Remembers found) verifyOwnedIdentitiesOnly :=
    verifyOwnedIdentitiesOnly_readsOnly.remembers
  have stages := SchemeQuotas.stageGoalsFrom_stages i j k goals (some observed)
  refine .bind identities fun _ _ => ?_
  refine .bind (Exec.keeps_retry (Exec.keeps_bind identities fun _ => stages.remembers)
    maxRetries) fun _ _ => ?_
  refine .bind identities fun _ _ => ?_
  refine .bind (requireOwned_confined
    (unchangedOutsideGoals_reads _ goals observed)).remembers fun _ _ => ?_
  refine .bind DamonAdmin.configurationSnapshot_confined.retry.remembers fun snapshot captured => ?_
  refine .bind (SchemeQuotas.goalConfigurations_confined
    (schemeQuotas_below i j k)).retry.remembers fun stagedGoals _ => ?_
  refine .ite (.fail _) (.bind (requireOwned_confined
    snapshot.valuesMatchCurrent_confined.retry).remembers fun _ _ => ?_)
  refine .bind identities fun _ _ => .bind
    (commandIdentified_remembers .commitSchemesQuotaGoals index) fun _ _ => ?_
  exact .getSelf fun self ordered => .verified
    (ordered.withConfiguration (DamonAdmin.configurationSnapshot_ordered captured))

theorem updateSchemeQuotaGoals_remembers (kdamondIndex contextIndex schemeIndex : Nat)
    (goals : List QuotaGoalConfig) :
    Exec.Keeps (Remembers found)
      (updateSchemeQuotaGoals kdamondIndex contextIndex schemeIndex goals) := by
  have owned : Exec.Keeps (Remembers found) verifyOwnedState :=
    verifyOwnedState_readsOnly.remembers
  refine Exec.keeps_bind (Confined.remembersAny (validateKdamondIndex_confined kdamondIndex)) fun _ => ?_
  refine Exec.keeps_bind (Exec.keeps_ofExcept _) fun _ => ?_
  refine Exec.keeps_bind (Confined.remembersAny (expectedRunningPid_confined kdamondIndex)) fun _ => ?_
  refine Exec.keeps_bind owned fun _ => ?_
  refine Exec.keeps_bind DamonAdmin.configurationSnapshot_confined.retry.remembers
    fun snapshot => ?_
  refine Exec.keeps_bind_returned (scheme_reads _ _ _).remembers fun scheme returned => ?_
  rw [scheme_returns returned]
  refine Exec.keeps_bind (SchemeQuotas.configuration_confined
    (schemeQuotas_below _ _ _)).retry.remembers fun quota => ?_
  refine Exec.keeps_bind (requireUnchanged_reads snapshot _).remembers fun _ => ?_
  refine Exec.keeps_bind owned fun _ => Exec.keeps_bind (Exec.keeps_ofExcept _) fun _ => ?_
  refine Exec.keeps_ite (Exec.keeps_pure ()) (transact_remembers ?_ fun writes => ?_)
  · exact stageAndCommitQuotaGoals_records _ _ _ _ _ _
  · exact restoreAndCommitQuotaGoals_records snapshot _ writes

/-! ## Pausing -/

theorem withConfiguration_remembers {snapshot : ConfigurationSnapshot}
    (ordered : snapshot.fingerprint.Ordered) :
    Exec.Keeps (Remembers found) (modifySelf fun self =>
      { self with staged := self.staged.withConfiguration snapshot }) :=
  modifySelf_remembers (fun _ owns => ⟨owns, rfl⟩) fun _ record => record.withConfiguration ordered

theorem isPaused_remembers (index contextIndex : Nat) :
    Exec.Keeps (Remembers found) ((kdamond index).context contextIndex).isPaused := by
  have anything : Confined (fun _ => True) ((kdamond index).context contextIndex).isPaused :=
    readBool_confined trivial
  exact anything.remembers

theorem commitPaused_remembers (index contextIndex : Nat) (paused : Bool) :
    Exec.Keeps (Remembers found) (commitPaused index contextIndex paused) := by
  have checks : Exec.Keeps (Remembers found) (verifyRunningIdentityOnly index) :=
    (verifyRunningIdentityOnly_checks index).remembers
  refine Exec.keeps_bind (command_remembers index .commit) fun _ => Exec.keeps_bind checks fun _ => ?_
  refine Exec.keeps_bind (isPaused_remembers index contextIndex) fun observed =>
    Exec.keeps_ite (Exec.keeps_fail _) (remembers_getSelf fun self record => ?_)
  refine Exec.keeps_bind_returned (refreshPaused_reads _ index contextIndex _).remembers
    fun refreshed returned => Exec.keeps_bind checks fun _ => withConfiguration_remembers ?_
  exact ConfigurationSnapshot.refreshedPathsExcept_ordered record.entries returned

theorem restorePaused_remembers (index contextIndex : Nat) (previous : Bool)
    {snapshot : ConfigurationSnapshot} (ordered : snapshot.fingerprint.Ordered) :
    Exec.Keeps (Remembers found) (restorePaused index contextIndex previous snapshot) := by
  refine Exec.keeps_bind (setPaused_stages index contextIndex previous).remembers fun _ => ?_
  refine Exec.keeps_bind (command_remembers index .commit) fun _ =>
    remembers_getSelf fun self _ => ?_
  refine Exec.keeps_bind_returned (refreshPaused_reads _ index contextIndex _).remembers
    fun restored returned => ?_
  exact Exec.keeps_bind (verifyRunningIdentityOnly_checks index).remembers fun _ =>
    withConfiguration_remembers
      (ConfigurationSnapshot.refreshedPathsExcept_ordered ordered returned)

theorem setContextPaused_remembers (index contextIndex : Nat) (paused : Bool) :
    Exec.Keeps (Remembers found) (setContextPaused index contextIndex paused) := by
  refine Exec.keeps_bind (verifyRunning_checks index).remembers fun _ => ?_
  refine Exec.keeps_bind (Kdamond.contextCount_confined
    (readsConfiguration_below index)).remembers fun contextCount => ?_
  refine Exec.keeps_ite (Exec.keeps_fail _) ?_
  have available : Confined ReadsOnly
      ((kdamond index).context contextIndex).pauseControlAvailable := pathExists_confined _
  refine Exec.keeps_bind available.remembers fun available => Exec.keeps_ite (Exec.keeps_fail _) ?_
  refine Exec.keeps_bind (isPaused_remembers index contextIndex) fun previous =>
    Exec.keeps_ite (verifyRunningIdentity_checks index).remembers
      (remembers_getSelf fun self record => ?_)
  refine Exec.keeps_bind (setPaused_stages index contextIndex paused).remembers fun _ => ?_
  refine Exec.keeps_bind (Exec.keeps_attempt
    (commitPaused_remembers index contextIndex paused)) fun outcome => ?_
  cases outcome with
  | ok value => exact Exec.keeps_pure ()
  | error operation =>
      exact Exec.keeps_bind (Exec.keeps_attempt
        (restorePaused_remembers index contextIndex previous record.entries)) fun _ =>
          Exec.keeps_fail _

/-! ## Replacing the staged configuration -/

theorem replaceStagedConfiguration_remembers (config : DamonConfig) :
    Exec.Keeps (Remembers found) (replaceStagedConfiguration config) := by
  have looks : Exec.Keeps (Remembers found) environment := fun _ _ remembers => remembers
  refine Exec.keeps_bind looks fun env => ?_
  refine Exec.keeps_bind (Exec.keeps_ofExcept _) fun _ => remembers_getSelf fun self _ => ?_
  refine Exec.keeps_ite (Exec.keeps_fail _) ?_
  cases firstNotStaged self.states with
  | some index => exact Exec.keeps_fail _
  | none =>
      have verified : Exec.Keeps (Remembers found) self.staged.verify :=
        self.staged.verify_reads.remembers
      refine Exec.keeps_bind verified fun _ => ?_
      refine Exec.keeps_bind ensureHierarchyStopped_reads.retry.remembers fun _ => ?_
      refine Exec.keeps_bind DamonAdmin.configuration_confined.retry.remembers fun previous => ?_
      refine Exec.keeps_bind verified fun _ => ?_
      refine Exec.keeps_bind_returned (Exec.keeps_attempt
        (stageAndVerifyConfiguration_stages config _).remembers) fun outcome returned => ?_
      cases outcome with
      | ok current =>
          exact setStaged_remembers (StagedOwnership.new_ordered
            (stageAndVerifyConfiguration_ordered (Exec.returns_of_attempt returned)) config)
      | error operation =>
          refine Exec.keeps_bind_returned (Exec.keeps_attempt
            (stageAndVerifyConfiguration_stages previous none).remembers)
            fun outcome returned => ?_
          cases outcome with
          | ok current =>
              exact Exec.keeps_bind (setStaged_remembers (StagedOwnership.new_ordered
                (stageAndVerifyConfiguration_ordered (Exec.returns_of_attempt returned)) previous))
                fun _ => Exec.keeps_fail _
          | error rollback => exact Exec.keeps_fail _

end ManagedHierarchy

/-! ## Receipts and runtime results -/

theorem capture_remembers (damon : Damon) :
    Exec.Keeps (Remembers found) (PersistentReceipt.capture damon) := by
  refine Exec.keeps_bind ManagedHierarchy.verifyOwnedState_readsOnly.remembers
    fun _ => remembers_getSelf fun self _ => ?_
  refine Exec.keeps_bind self.staged.verifyComplete_reads.remembers fun _ => ?_
  refine Exec.keeps_bind (Exec.keeps_ofExcept _) fun identities => ?_
  have boots : Accesses (fun _ => True) currentBootId := currentBootId_accesses fun _ => trivial
  exact Exec.keeps_bind boots.remembers fun bootId => Exec.keeps_pure _

theorem runtimeBatch_remembers (index : Nat) (read : RuntimeRead) :
    Exec.Keeps (Remembers found)
      (ManagedHierarchy.runtimeBatch index (ManagedHierarchy.runtimeRead index read)) := by
  refine Exec.keeps_bind (Confined.remembersAny (ManagedHierarchy.expectedRunningPid_confined index)) fun _ => ?_
  refine Exec.keeps_bind (ManagedHierarchy.verifyRunning_checks index).remembers fun _ => ?_
  refine Exec.keeps_bind (Exec.keeps_attempt
    (ManagedHierarchy.runtimeRead_sends index read).remembers) fun result => ?_
  exact Exec.keeps_bind (ManagedHierarchy.verifyRunningIdentity_checks index).remembers
    fun _ => Exec.keeps_ofExcept result

/-! ## Whole sessions -/

/-- Every operation keeps the invariant, whether or not it succeeds. -/
theorem SessionOp.program_remembers (damon : Damon) (operation : SessionOp) :
    Exec.Keeps (Remembers found) (operation.program damon) := by
  have discards : ∀ {α : Type} {program : Sysfs α}, Exec.Keeps (Remembers found) program →
      Exec.Keeps (Remembers found) (SessionOp.discard program) :=
    fun keeps => Exec.keeps_bind keeps fun _ => Exec.keeps_pure ()
  cases operation with
  | startAll => exact ManagedHierarchy.startAll_remembers
  | stopAll => exact ManagedHierarchy.stopAll_remembers
  | updateConfiguration config indices =>
      exact ManagedHierarchy.updateConfiguration_remembers config indices
  | updateSchemeQuotaGoals kdamond context scheme goals =>
      exact ManagedHierarchy.updateSchemeQuotaGoals_remembers kdamond context scheme goals
  | pauseContext kdamond context =>
      exact ManagedHierarchy.setContextPaused_remembers kdamond context true
  | resumeContext kdamond context =>
      exact ManagedHierarchy.setContextPaused_remembers kdamond context false
  | runtime kdamond read => exact discards (runtimeBatch_remembers kdamond read)
  | isRunning kdamond => exact discards (ManagedHierarchy.isRunning_remembers kdamond)
  | configuration => exact discards ManagedHierarchy.configuration_readsOnly.remembers
  | observedConfiguration => exact discards ManagedHierarchy.observedConfiguration_readsOnly.remembers
  | replaceStagedConfiguration config =>
      exact ManagedHierarchy.replaceStagedConfiguration_remembers config
  | captureReceipt => exact discards (capture_remembers damon)
  | close => exact ManagedHierarchy.close_remembers
  | drop => exact ManagedHierarchy.drop_remembers

theorem runOperations_remembers (damon : Damon) (operations : List SessionOp) :
    Exec.Keeps (Remembers found) (runOperations damon operations) := by
  induction operations with
  | nil => exact Exec.keeps_pure ()
  | cons operation rest ih =>
      exact Exec.keeps_bind (Exec.keeps_attempt (operation.program_remembers damon)) fun _ => ih

end Keeps

end DamonRs
