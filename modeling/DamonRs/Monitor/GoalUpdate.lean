import DamonRs.Monitor.Lifecycle
import DamonRs.Monitor.Rollback
import DamonRs.Monitor.Subtrees
import DamonRs.Sysfs.Goals
import DamonRs.Sysfs.Shortfall

/-!
# Updating quota goals while nobody else acts

Writes may fail at any time, but nobody else changes the hierarchy.  What an
update reports as done was read back before the commit; what it undid was
compared with the state before, and with the number of goals the same goals
exist again.
-/

namespace DamonRs

open Library Sysfs

/-! ## Accesses -/

/-- Accesses that read anything or commit the quota goals of a kdamond. -/
def CommitsGoals (kdamond : Nat) : Access → Prop
  | .write path value => path = Path.stateOf kdamond ∧
      value = KdamondCommand.commitSchemesQuotaGoals.kernelName
  | _ => True

/-- Accesses that read anything, write the goals of a scheme or commit them. -/
def WritesGoals (kdamond context scheme : Nat) : Access → Prop
  | .write path value =>
      ((∃ rest, path = goalsPath kdamond context scheme ++ rest) ∧
        (Path.isReconstructionCount path = true → path = goalCountPath kdamond context scheme)) ∨
      CommitsGoals kdamond (.write path value)
  | _ => True

/-! ## Programs -/

section Programs

variable {k i j : Nat} {source : Files} {α : Type}

theorem goalsPath_ordinary (rest : Path) :
    System.kdamondOfState? (goalsPath k i j ++ rest) = none := by
  simp [goalsPath, Scheme.quotas, Context.scheme, Kdamond.context, DamonAdmin.kdamond,
    System.kdamondOfState?]

/-- The command takes over the staged goals and leaves the files alone. -/
theorem System.write_commitGoals {kernel : Kernel} {pid : Pid} {sys after : System}
    (small : k < 2 ^ 64) (written : sys.write kernel pid (Path.stateOf k)
      KdamondCommand.commitSchemesQuotaGoals.kernelName = .ok after) :
    after = sys.commit (DamonAdmin.kdamond k).path System.isQuotaGoal := by
  have kind : System.kdamondOfState? (Path.stateOf k) = some (DamonAdmin.kdamond k).path := by
    simp [Path.stateOf, DamonAdmin.kdamond, System.kdamondOfState?, Path.nameIndex?_indexName small]
  rcases System.write_cases written with ⟨directory, isState, sent⟩ | ⟨none, _⟩ | ⟨none, _⟩
  · rw [kind] at isState
    cases isState
    unfold System.command KdamondCommand.kernelName at sent
    simp only [String.reduceEq, if_false, if_true] at sent
    split at sent
    · exact (Except.ok.inj sent).symm
    · cases sent
  · rw [kind] at none
    cases none
  · rw [kind] at none
    cases none

/-- Committing goals leaves the files alone. -/
theorem Sysfs.Confined.commits {program : Sysfs α} (small : k < 2 ^ 64)
    (confined : Confined (CommitsGoals k) program) :
    StillMoves (fun before after => after.sys.files = before.sys.files) program := by
  have performs : ∀ access, ReadsOnly access →
      Exec.Moves (fun env before after => env.Still → after.sys.files = before.sys.files)
        (perform access) := by
    intro access reads env world still
    exact congrArg System.files (still.advance_sys world reads)
  refine confined.moves (fun _ _ _ => rfl)
    (fun _ _ _ _ one two still => (two still).trans (one still)) (fun _ => performs _ trivial)
    (fun _ _ => performs _ trivial) (fun _ _ => performs _ trivial) fun path value sends => ?_
  obtain ⟨rfl, rfl⟩ := sends
  intro env world still
  rcases writeBytes_cases (Path.stateOf k) KdamondCommand.commitSchemesQuotaGoals.kernelName env
    world with ⟨error, run, same⟩ | ⟨run, written⟩
  · rw [run]
    exact congrArg System.files (same.trans (still _ _))
  · rw [run]
    rw [still] at written
    have sent := System.write_commitGoals small written
    show (env.advance world _).sys.files = world.sys.files
    rw [sent]
    rfl

/-- A program that writes goals changes nothing else. -/
theorem Sysfs.Confined.goalsOnly {program : Sysfs α} (confined : Confined (WritesGoals k i j) program)
    (small : k < 2 ^ 64) (source : Files) :
    Exec.Moves (fun env before after => env.Still →
      GoalsOnly env.kernel k i j source before.sys.files →
        GoalsOnly env.kernel k i j source after.sys.files) program := by
  have performs : ∀ access, ReadsOnly access →
      Exec.Moves (fun env before after => env.Still →
        GoalsOnly env.kernel k i j source before.sys.files →
          GoalsOnly env.kernel k i j source after.sys.files) (perform access) := by
    intro access reads env world still only
    show GoalsOnly env.kernel k i j source (env.advance world access).sys.files
    rw [still.advance_sys world reads]
    exact only
  refine confined.moves (fun _ _ _ only => only)
    (fun _ _ _ _ one two still only => two still (one still only)) (fun _ => performs _ trivial)
    (fun _ _ => performs _ trivial) (fun _ _ => performs _ trivial) fun path value writes => ?_
  intro env world still only
  rcases writeBytes_cases path value env world with ⟨error, run, same⟩ | ⟨run, written⟩
  · rw [run]
    show GoalsOnly env.kernel k i j source (env.advance world (.write path value)).sys.files
    rw [same, still]
    exact only
  · rw [run]
    show GoalsOnly env.kernel k i j source (env.advance world (.write path value)).sys.files
    rw [still] at written
    rcases writes with ⟨⟨rest, rfl⟩, counts⟩ | ⟨rfl, rfl⟩
    · rw [System.write_ordinary (goalsPath_ordinary rest)] at written
      cases stored : world.sys.files.write env.kernel (goalsPath k i j ++ rest) value with
      | error errno =>
          rw [stored] at written
          cases written
      | ok files =>
          rw [stored] at written
          rw [← Except.ok.inj written]
          exact only.write ⟨rest, rfl⟩ counts stored
    · rw [System.write_commitGoals small written]
      exact only

/-- The goals of a kdamond are committed as they are staged. -/
theorem System.commit_goals (sys : System) (rest : Path) :
    (sys.commit (DamonAdmin.kdamond k).path System.isQuotaGoal).committed
      (goalsPath k i j ++ rest) = sys.files.get? (goalsPath k i j ++ rest) := by
  have below : goalsPath k i j ++ rest = (DamonAdmin.kdamond k).path ++
      (["contexts", Path.indexName i, "schemes", Path.indexName j, "quotas", "goals"] ++ rest) := by
    simp [goalsPath, Scheme.quotas, Context.scheme, Kdamond.context]
  have selected : System.isQuotaGoal (goalsPath k i j ++ rest) = true := by
    simp [goalsPath, Scheme.quotas, Context.scheme, Kdamond.context, DamonAdmin.kdamond,
      System.isQuotaGoal]
  unfold System.commit
  dsimp only
  rw [selected, Bool.and_true, below, stripPrefix?_append, Option.isSome_some, if_pos rfl]

/-- What a read-only part of a run leaves. -/
theorem Sysfs.Confined.looked {program : Sysfs α} (confined : Confined ReadsOnly program)
    {env : Env} (still : env.Still) {world after : World} {outcome : Except Error α}
    (run : program env world = (outcome, after)) : World.Looks world after :=
  confined.looks.run still run

theorem ManagedHierarchy.commandIdentified_commits {env : Env} (still : env.Still)
    (small : k < 2 ^ 64) {world after : World}
    (run : commandIdentified .commitSchemesQuotaGoals k env world = (.ok (), after)) :
    after.self = world.self ∧ after.sys.files = world.sys.files ∧
      ∀ rest, after.sys.committed (goalsPath k i j ++ rest) =
        after.sys.files.get? (goalsPath k i j ++ rest) := by
  have verifies : Confined ReadsOnly (verifyRunningIdentityOnly k) :=
    (verifyRunningIdentityOnly_checks k).threadReadsOnly
  have commands : Confined (CommitsGoals k)
      ((kdamond k).command .commitSchemesQuotaGoals) :=
    Kdamond.command_confined k _ ⟨rfl, rfl⟩
  obtain ⟨_, checked, verified, rest⟩ := Exec.bind_eq_ok run
  obtain ⟨_, sent, commanded, last⟩ := Exec.bind_eq_ok rest
  have first := verifies.looked still verified
  have final := verifies.looked still last
  have self := (commands.retry.self_run commanded)
  obtain ⟨start, attempts, ends⟩ := World.Reaches.of_retry commands commanded
  have relation : (fun (env : Env) (before after : World) => env.Still →
      after.sys.files = before.sys.files) env checked start :=
    attempts.moves (fun _ _ => rfl) (fun _ _ _ one two still => (two still).trans (one still))
      fun confined => confined.commits small
  obtain ⟨_, middle, validated, wrote⟩ := Exec.bind_eq_ok ends
  obtain rfl : middle = start := (Prod.ext_iff.mp validated).2.symm
  rcases writeBytes_cases (Path.stateOf k) KdamondCommand.commitSchemesQuotaGoals.kernelName env
    middle with ⟨error, ran, -⟩ | ⟨ran, written⟩
  · have both := ran.symm.trans wrote
    cases both
  · have both := ran.symm.trans wrote
    rw [still] at written
    have committed : sent.sys = middle.sys.commit (DamonAdmin.kdamond k).path
        System.isQuotaGoal := by
      have ended : (env.advance middle (.write (Path.stateOf k)
          KdamondCommand.commitSchemesQuotaGoals.kernelName)).recordWrite (Path.stateOf k) = sent :=
        (Prod.ext_iff.mp both).2
      rw [← ended]
      exact System.write_commitGoals small written
    refine ⟨final.self.trans (self.trans first.self), ?_, fun rest => ?_⟩
    · rw [final.sys, committed]
      exact (relation still).trans (congrArg System.files first.sys)
    · rw [final.sys, committed]
      exact System.commit_goals middle.sys rest

/-- A comparison that succeeds has seen every value that it does not skip. -/
theorem entriesMatch_shows {env : Env} (still : env.Still) {skip : Path → Bool}
    {entries : List ConfigurationEntry} {world after : World}
    (run : entriesMatch skip entries env world = (.ok true, after)) :
    ∀ entry ∈ entries, skip entry.path = false → world.sys.Shows entry.path entry.value := by
  induction entries generalizing world with
  | nil =>
      intro entry member
      cases member
  | cons first rest ih =>
      intro entry member compared
      unfold entriesMatch at run
      by_cases skipped : skip first.path = true
      · rw [if_pos skipped] at run
        rcases List.mem_cons.mp member with rfl | inRest
        · rw [skipped] at compared
          cases compared
        · exact ih run entry inRest compared
      · rw [if_neg skipped] at run
        obtain ⟨equal, middle, read, others⟩ := Exec.bind_eq_ok run
        obtain ⟨rfl, shows⟩ := readConfigurationValueEquals_ok read
        have untouched := still.advance_sys world
          (show ReadsOnly (.compare first.path) from trivial)
        cases equal with
        | false => cases others
        | true =>
            rcases List.mem_cons.mp member with rfl | inRest
            · exact untouched ▸ shows rfl
            · rw [← untouched]
              exact ih others entry inRest compared

theorem ManagedHierarchy.requireUnchanged_shows {env : Env} (still : env.Still)
    {snapshot : ConfigurationSnapshot} {reason : String} {world after : World}
    (run : requireUnchanged snapshot reason env world = (.ok (), after)) :
    ∀ entry ∈ snapshot.entries, containsPath world.self.staged.volatilePaths entry.path = false →
      world.sys.Shows entry.path entry.value := by
  obtain ⟨self, middle, read, rest⟩ := Exec.bind_eq_ok run
  cases read
  obtain ⟨equal, compared, matched, decided⟩ := Exec.bind_eq_ok rest
  cases equal with
  | false => cases decided
  | true =>
      obtain ⟨start, looks, ends⟩ := retryBusy_looks
        (ConfigurationSnapshot.matchesCurrentExcept_confined snapshot _).readsOnly still world
      rw [ends] at matched
      rw [← looks.sys]
      exact entriesMatch_shows still matched

/-- Staging a goal writes its leaves, and staging goals their count. -/
theorem SchemeQuotas.stageGoalsFrom_writesGoals (k i j : Nat) (goals : List QuotaGoalConfig)
    (observed : Option (List QuotaGoalConfig)) :
    Confined (WritesGoals k i j)
      ((((DamonAdmin.kdamond k).context i).scheme j).quotas.stageGoalsFrom goals observed) := by
  have count : (((DamonAdmin.kdamond k).context i).scheme j).quotas.path ++ ["goals", "nr_goals"] =
      goalCountPath k i j := by
    simp [goalCountPath, goalsPath]
  have leaf : ∀ index name value, Path.isCountName name = false → WritesGoals k i j
      (.write (((((DamonAdmin.kdamond k).context i).scheme j).quotas.goal index).path ++ [name])
        value) := by
    intro index name value leaf
    refine .inl ⟨⟨[Path.indexName index, name], by simp [SchemeQuotas.goal, goalsPath]⟩, ?_⟩
    intro isCount
    rw [Path.isReconstructionCount_append (List.cons_ne_nil _ _)] at isCount
    rw [Path.isReconstructionCount] at isCount
    simp only [List.getLast?_singleton] at isCount
    rw [leaf] at isCount
    cases isCount
  unfold SchemeQuotas.stageGoalsFrom
  rw [count]
  refine .seq (.ofExcept _) (stageWhen_confined fun _ => ?_)
  refine stageOptionalCounted_confined trivial (fun value => ?_) (stageChanged_confined
    fun index goal => ?_)
  · exact .inl ⟨⟨["nr_goals"], rfl⟩, fun _ => rfl⟩
  refine .seq (stageOptionalDefault_confined (writeEnum_confined (leaf index _ _ rfl))) ?_
  refine .seq (writeValue_confined (leaf index _ _ rfl)) ?_
  refine .seq (writeValue_confined (leaf index _ _ rfl)) ?_
  refine .seq (stagePayload_confined fun _ => .write _ _ (leaf index _ _ rfl)) ?_
  exact stagePayload_confined fun _ => writeSysfsString_confined (leaf index _ _ rfl)

/-- Undoing what was written below the goals writes below the goals. -/
theorem ManagedHierarchy.restoreWritten_writesGoals {snapshot : ConfigurationSnapshot}
    (same : snapshot = ⟨[], source.captured⟩) (flat : GoalsFlat source k i j) {writes : List Path}
    (written : ∀ path ∈ writes, ∃ value, WritesGoals k i j (.write path value)) :
    Confined (WritesGoals k i j) (restoreWritten snapshot writes) := by
  subst same
  refine restoreWritten_confined (fun _ => trivial) fun entry member affected => .inl ?_
  obtain ⟨path, configures, rfl⟩ := Files.exists_of_captured member
  obtain ⟨write, wrote, reason⟩ :=
    (ConfigurationSnapshot.mem_pathsAffectedByWrites rfl path).mp affected
  obtain ⟨value, allowed⟩ := written write wrote
  rcases reason with rfl | ⟨isCount, below, -⟩
  · rcases allowed with below | ⟨isState, -⟩
    · exact below
    · have configuration := configures.2.1
      rw [isState] at configuration
      simp [Path.stateOf, Path.isRuntimeAttribute] at configuration
  · rcases allowed with ⟨-, counts⟩ | ⟨isState, -⟩
    · rw [counts isCount, goalCountPath_directory] at below
      obtain ⟨rest, rfl⟩ := below
      exact ⟨⟨rest, rfl⟩, fun isCount => flat _ ⟨isCount, configures⟩ ⟨rest, rfl⟩⟩
    · rw [isState, Path.stateOf_noCount] at isCount
      cases isCount

/-- What a reading program returns is what the files show. -/
theorem Env.Solitary.shows {env : Env} (solitary : env.Solitary) {program : Sysfs α}
    [Reader program] (confined : Confined ReadsOnly program) {world after : World} {value : α}
    (run : program env world = (.ok value, after)) : Shows program world.sys.files value := by
  refine Reader.replay solitary.reliable run fun moment member => ?_
  have same := solitary.history_system confined run moment member
  unfold Moment.Agrees Moment.file?
  rw [same]
  cases moment.access <;> rfl

/-- A program that is repeated while a resource is busy returns what the files show, too. -/
theorem Env.Solitary.shows_retry {env : Env} (solitary : env.Solitary) {program : Sysfs α}
    [Reader program] (confined : Confined ReadsOnly program) {world after : World} {value : α}
    (run : retryBusy program env world = (.ok value, after)) :
    Shows program world.sys.files value := by
  obtain ⟨start, looks, ends⟩ := retryBusy_looks confined solitary.still world
  rw [← looks.sys]
  exact solitary.shows confined (ends.symm.trans run)

/-- Without anyone else a capture is that of the files. -/
theorem Env.Solitary.snapshot {env : Env} (solitary : env.Solitary) {world after : World}
    {snapshot : ConfigurationSnapshot}
    (run : retryBusy DamonAdmin.configurationSnapshot env world = (.ok snapshot, after)) :
    snapshot = ⟨[], world.sys.files.captured⟩ ∧ world.sys.files.Readable := by
  obtain ⟨start, looks, ends⟩ :=
    retryBusy_looks DamonAdmin.configurationSnapshot_confined.readsOnly solitary.still world
  obtain ⟨fingerprint, middle, captures, made⟩ := Exec.bind_eq_ok (ends.symm.trans run)
  cases made
  rw [← looks.sys]
  have readable := captureConfiguration_readable solitary captures
  obtain ⟨again, observed, -⟩ := captureConfiguration_observes solitary readable start rfl
  rw [observed] at captures
  cases captures
  exact ⟨rfl, readable⟩

/-- While no access fails, no restoration finds its resource busy. -/
theorem restoreEntry_lasting {env : Env} {kernel : Kernel} {world : World} {ignored : List Path}
    {entry : ConfigurationEntry} (quiet : env.QuietSince kernel world.clock)
    (configuration : Path.isRuntimeAttribute entry.path = false) :
    ¬EndsBusy (restoreEntry ignored entry env world).1 := by
  have writes : ∀ {start : World}, world.clock ≤ start.clock →
      ¬EndsBusy (writeBytes entry.path entry.value env start).1 := by
    intro start later
    rw [(writeBytes_answered start entry.value rfl quiet.solitary.still
      (quiet.reliable _ _ later) (System.kdamondOfState?_of_configuration configuration)).1]
    exact writeStep_free entry.path entry.value start.sys.files
  unfold restoreEntry
  split
  · exact not_endsBusy_ok ()
  · split
    · exact writes (le_refl _)
    · rw [Exec.bind_run_ok (quiet.solitary.compare _ _ _)]
      split
      · exact not_endsBusy_ok ()
      · exact writes (Nat.le_succ _)

theorem restoreEntries_lasting {env : Env} {kernel : Kernel} {world : World} {ignored : List Path}
    {entries : List ConfigurationEntry}
    (quiet : env.QuietSince kernel world.clock)
    (configuration : ∀ entry ∈ entries, Path.isRuntimeAttribute entry.path = false) :
    ¬EndsBusy (Exec.forEach (restoreEntry ignored) entries env world).1 := by
  induction entries generalizing world with
  | nil => exact not_endsBusy_ok ()
  | cons entry rest ih =>
      have free : ¬EndsBusy (restoreEntry ignored entry env world).1 :=
        restoreEntry_lasting quiet (configuration entry (by simp))
      have anything : Confined (fun _ => True) (restoreEntry ignored entry) :=
        restoreEntry_confined (fun _ => trivial) trivial
      have passes := anything.clock env world
      unfold Exec.forEach
      cases run : restoreEntry ignored entry env world with
      | mk outcome middle =>
          rw [run] at free passes
          cases outcome with
          | error error =>
              rw [Exec.bind_run_error run]
              exact free
          | ok done =>
              rw [Exec.bind_run_ok run]
              exact ih (quiet.later passes) fun other member =>
                configuration other (List.mem_cons_of_mem entry member)

/-- Restoring written paths restores the entries that they affect, and needs no second attempt. -/
theorem ManagedHierarchy.restoreWritten_entries {env : Env} {kernel : Kernel} {world restored : World}
    {snapshot : ConfigurationSnapshot} {writes : List Path}
    (quiet : env.QuietSince kernel world.clock) (captured : snapshot.Captured)
    (run : restoreWritten snapshot writes env world = (.ok (), restored)) :
    ∃ middle, Exec.forEach (restoreEntry world.self.staged.volatilePaths)
        (snapshot.restorationOrder (snapshot.affectedEntries writes)) env world = (.ok (), middle) ∧
      restored.sys = middle.sys := by
  have configuration : ∀ entry ∈ snapshot.restorationOrder (snapshot.affectedEntries writes),
      Path.isRuntimeAttribute entry.path = false := by
    intro entry inside
    have selected := (List.perm_insertionSort _ _).mem_iff.mp inside
    exact captured.entries entry (List.mem_of_mem_filter selected)
  have free : ¬EndsBusy (Exec.forEach (restoreEntry world.self.staged.volatilePaths)
      (snapshot.restorationOrder (snapshot.affectedEntries writes)) env world).1 :=
    restoreEntries_lasting quiet configuration
  obtain ⟨self, _, gets, attempts⟩ := Exec.bind_eq_ok run
  cases gets
  cases ran : Exec.forEach (restoreEntry world.self.staged.volatilePaths)
      (snapshot.restorationOrder (snapshot.affectedEntries writes)) env world with
  | mk outcome middle =>
      rw [ran] at free
      have stops : ∀ {error last}, snapshot.restorePathsExcept (snapshot.pathsAffectedByWrites writes)
          world.self.staged.volatilePaths env world = (.error error, last) →
            error.isResourceBusy ≠ true → False := by
        intro error last failed lasting
        rw [retryBusy, Exec.retry_run_stop failed lasting] at attempts
        cases attempts
      cases outcome with
      | error error =>
          exact (stops (Exec.bind_run_error ran _) (mt (endsBusy_error error).mpr free)).elim
      | ok done =>
          obtain ⟨equal, last, matched⟩ : ∃ equal last, entriesMatch
              (containsPath world.self.staged.volatilePaths) (snapshot.affectedEntries writes) env
                middle = (.ok equal, last) := by
            rw [entriesMatch_filter, quiet.solitary.entriesMatch_run]
            exact ⟨_, _, rfl⟩
          have reads : Confined ReadsOnly (entriesMatch
              (containsPath world.self.staged.volatilePaths) (snapshot.affectedEntries writes)) :=
            entriesMatch_confined (fun _ => trivial) _ _
          have looks := reads.looked quiet.solitary.still matched
          refine ⟨middle, rfl, ?_⟩
          cases equal with
          | true =>
              have attempt : snapshot.restorePathsExcept (snapshot.pathsAffectedByWrites writes)
                  world.self.staged.volatilePaths env world = (.ok (), last) :=
                (Exec.bind_run_ok ran _).trans (Exec.bind_run_ok matched _)
              rw [retryBusy, Exec.retry_run_ok attempt] at attempts
              cases attempts
              exact looks.sys
          | false =>
              have attempt : snapshot.restorePathsExcept (snapshot.pathsAffectedByWrites writes)
                  world.self.staged.volatilePaths env world = (.error (.ownershipLost
                    "a transaction path changed during partial rollback"), last) :=
                (Exec.bind_run_ok ran _).trans (Exec.bind_run_ok matched _)
              exact (stops attempt Bool.false_ne_true).elim

/-- Captured files are configuration. -/
theorem Files.snapshot_captured (source : Files) :
    (⟨[], source.captured⟩ : ConfigurationSnapshot).Captured := by
  refine ⟨rfl, fun entry member => ?_⟩
  obtain ⟨path, configures, rfl⟩ := Files.exists_of_captured member
  exact configures.2.1

/-- A rollback that succeeds shows the captured values again, and commits the goals. -/
theorem ManagedHierarchy.restoreAndCommitQuotaGoals_restores {env : Env} {world after : World}
    (quiet : env.QuietSince env.kernel world.clock) (small : k < 2 ^ 64)
    {snapshot : ConfigurationSnapshot} {staged : StagedOwnership} {writes : List Path}
    (same : snapshot = ⟨[], source.captured⟩) (flat : GoalsFlat source k i j)
    (written : ∀ path ∈ writes, ∃ value, WritesGoals k i j (.write path value))
    (only : GoalsOnly env.kernel k i j source world.sys.files)
    (run : restoreAndCommitQuotaGoals snapshot k writes env world = (.ok staged, after)) :
    GoalsOnly env.kernel k i j source after.sys.files ∧ after.sys.files.Readable ∧
      (∀ rest, after.sys.committed (goalsPath k i j ++ rest) =
        after.sys.files.get? (goalsPath k i j ++ rest)) ∧
      (∀ entry ∈ snapshot.entries, containsPath world.self.staged.volatilePaths entry.path = false →
        after.sys.Shows entry.path entry.value) ∧
      ∃ begun restored, begun.sys = world.sys ∧ restored.sys.files = after.sys.files ∧
        Exec.forEach (restoreEntry world.self.staged.volatilePaths)
          (snapshot.restorationOrder (snapshot.affectedEntries writes)) env begun =
            (.ok (), restored) := by
  have solitary := quiet.solitary
  have still := solitary.still
  have restores := restoreWritten_writesGoals same flat written
  obtain ⟨_, identified, identities, rest⟩ := Exec.bind_eq_ok run
  obtain ⟨_, bounded, boundary, rest⟩ := Exec.bind_eq_ok rest
  obtain ⟨_, restored, restoration, rest⟩ := Exec.bind_eq_ok rest
  obtain ⟨_, committed, commits, rest⟩ := Exec.bind_eq_ok rest
  obtain ⟨_, compared, comparison, rest⟩ := Exec.bind_eq_ok rest
  obtain ⟨current, recaptured, capture, rest⟩ := Exec.bind_eq_ok rest
  obtain ⟨self, _, gets, rest⟩ := Exec.bind_eq_ok rest
  cases gets
  obtain ⟨_, verified, verification, last⟩ := Exec.bind_eq_ok rest
  cases last
  have first := verifyOwnedIdentitiesOnly_readsOnly.looked still identities
  have second : World.Looks identified bounded ∧ identified.clock ≤ bounded.clock := by
    obtain ⟨outcome, attempted, attempt, decided⟩ := Exec.bind_eq_ok boundary
    cases outcome with
    | ok value =>
        cases decided
        have ran : verifyRollbackBoundary snapshot writes env identified = (.ok value, bounded) :=
          Prod.ext (Except.ok.inj (Prod.ext_iff.mp attempt).1) (Prod.ext_iff.mp attempt).2
        have reads := (verifyRollbackBoundary_reads snapshot writes).readsOnly
        have passes := reads.clock env identified
        rw [ran] at passes
        exact ⟨reads.looked still ran, passes⟩
    | error error =>
        obtain ⟨_, _, _, failed⟩ := Exec.bind_eq_ok decided
        cases failed
  have third := (restores.goalsOnly small source) env bounded
  rw [restoration] at third
  have onlyRestored := third still (by rwa [second.1.sys, first.sys])
  have passes := verifyOwnedIdentitiesOnly_readsOnly.clock env world
  rw [identities] at passes
  obtain ⟨middle, ran, files⟩ := restoreWritten_entries
    (quiet.later (le_trans passes second.2)) (same ▸ source.snapshot_captured) restoration
  obtain ⟨selfCommitted, filesCommitted, goalsCommitted⟩ := commandIdentified_commits (i := i)
    (j := j) still small commits
  have fourth := (requireUnchanged_reads snapshot _).readsOnly.looked still comparison
  obtain ⟨-, readable⟩ := solitary.snapshot capture
  have fifth := (Confined.retry DamonAdmin.configurationSnapshot_confined.readsOnly).looked still
    capture
  have sixth := (StagedOwnership.verify_reads _).readsOnly.looked still verification
  have unchanged : after.sys = committed.sys :=
    sixth.sys.trans (fifth.sys.trans fourth.sys)
  have self : committed.self = world.self := by
    rw [selfCommitted, restores.self_run restoration, second.1.self, first.self]
  have begun : bounded.self = world.self := second.1.self.trans first.self
  rw [begun] at ran
  refine ⟨?_, ?_, ?_, ?_, bounded, middle, second.1.sys.trans first.sys, ?_, ran⟩
  · rw [unchanged, filesCommitted]
    exact onlyRestored
  · rw [unchanged, ← fourth.sys]
    exact readable
  · rw [unchanged]
    exact goalsCommitted
  · rw [unchanged, ← self]
    exact requireUnchanged_shows still comparison
  · rw [unchanged, filesCommitted, files]

/-- A transaction that succeeds has returned an ownership record, and one that fails has been rolled
back, unless it reports that the rollback failed. -/
theorem ManagedHierarchy.transact_ends {forward : Sysfs StagedOwnership}
    {rollback : List Path → Sysfs StagedOwnership} {env : Env} {world after : World}
    {outcome : Except Error Unit} (run : transact forward rollback env world = (outcome, after)) :
    ∃ result writes start, collectWrites forward env world = (.ok (result, writes), start) ∧
      match result with
      | .ok _ => outcome = .ok () ∧ after.sys = start.sys
      | .error operation =>
          (∃ staged final, rollback writes env start = (.ok staged, final) ∧
            outcome = .error operation ∧ after.sys = final.sys) ∨
          ∃ failure, outcome = .error (.rollback operation failure) := by
  cases ran : forward env { world with journal := some [] } with
  | mk result final =>
      have collected : collectWrites forward env world =
          (.ok (result, final.journal.getD []), { final with journal := none }) := by
        simp only [collectWrites, ran]
      refine ⟨result, final.journal.getD [], { final with journal := none }, collected, ?_⟩
      unfold transact at run
      rw [Exec.bind_run_ok collected] at run
      cases result with
      | ok staged =>
          cases run
          exact ⟨rfl, rfl⟩
      | error operation =>
          dsimp only at run
          rw [Exec.bind_run, Exec.attempt_run] at run
          cases rolled : rollback (final.journal.getD []) env { final with journal := none } with
          | mk undone last =>
              rw [rolled] at run
              cases undone with
              | ok staged =>
                  cases run
                  exact .inl ⟨staged, last, rfl, rfl, rfl⟩
              | error failure =>
                  cases run
                  exact .inr ⟨failure, rfl⟩

instance SchemeQuotas.goalConfigurations_reader (quotas : SchemeQuotas) :
    Reader quotas.goalConfigurations := by
  unfold SchemeQuotas.goalConfigurations
  infer_instance

theorem SchemeQuotas.goalConfigurations_readsOnly (quotas : SchemeQuotas) :
    Confined ReadsOnly quotas.goalConfigurations :=
  SchemeQuotas.goalConfigurations_confined fun _ _ => trivial

/-- The forward part writes goals and commits them. -/
theorem ManagedHierarchy.stageAndCommitQuotaGoals_writesGoals (k i j : Nat)
    (goals observed : List QuotaGoalConfig) :
    Confined (WritesGoals k i j) (stageAndCommitQuotaGoals
      (((DamonAdmin.kdamond k).context i).scheme j).quotas goals observed k) := by
  refine stageAndCommitQuotaGoals_confined (fun access reads => ?_)
    (SchemeQuotas.stageGoalsFrom_writesGoals k i j goals (some observed))
    (SchemeQuotas.goalConfigurations_confined fun _ _ => trivial) (.inr ⟨rfl, rfl⟩)
  cases access with
  | write path value => exact reads.elim
  | _ => trivial

/-- What the forward part reports as done has been read back, and is committed. -/
theorem ManagedHierarchy.stageAndCommitQuotaGoals_commits {env : Env} (solitary : env.Solitary)
    (small : k < 2 ^ 64) {quotas : SchemeQuotas} {goals observed : List QuotaGoalConfig}
    {world after : World} {staged : StagedOwnership}
    (run : stageAndCommitQuotaGoals quotas goals observed k env world = (.ok staged, after)) :
    Shows quotas.goalConfigurations after.sys.files goals ∧
      ∀ rest, after.sys.committed (goalsPath k i j ++ rest) =
        after.sys.files.get? (goalsPath k i j ++ rest) := by
  have still := solitary.still
  obtain ⟨_, _, _, rest⟩ := Exec.bind_eq_ok run
  obtain ⟨_, _, _, rest⟩ := Exec.bind_eq_ok rest
  obtain ⟨_, _, _, rest⟩ := Exec.bind_eq_ok rest
  obtain ⟨_, _, _, rest⟩ := Exec.bind_eq_ok rest
  obtain ⟨snapshot, captured, _, rest⟩ := Exec.bind_eq_ok rest
  obtain ⟨stagedGoals, read, reading, rest⟩ := Exec.bind_eq_ok rest
  by_cases different : stagedGoals ≠ goals
  · rw [if_pos different] at rest
    cases rest
  rw [if_neg different] at rest
  have same : stagedGoals = goals := not_not.mp different
  obtain ⟨_, compared, comparison, rest⟩ := Exec.bind_eq_ok rest
  obtain ⟨_, identified, identities, rest⟩ := Exec.bind_eq_ok rest
  obtain ⟨_, committed, commits, rest⟩ := Exec.bind_eq_ok rest
  obtain ⟨self, _, gets, rest⟩ := Exec.bind_eq_ok rest
  cases gets
  obtain ⟨_, verified, verification, last⟩ := Exec.bind_eq_ok rest
  cases last
  obtain ⟨start, looks, ends⟩ :=
    retryBusy_looks quotas.goalConfigurations_readsOnly still captured
  have shows := solitary.shows quotas.goalConfigurations_readsOnly (ends.symm.trans reading)
  have first := (Confined.retry quotas.goalConfigurations_readsOnly).looked still reading
  have second := (requireOwned_confined (.retry
    snapshot.valuesMatchCurrent_confined.readsOnly)).looked still comparison
  have third := verifyOwnedIdentitiesOnly_readsOnly.looked still identities
  obtain ⟨-, files, goalsCommitted⟩ := commandIdentified_commits (i := i) (j := j) still small
    commits
  have last := (StagedOwnership.verify_reads _).readsOnly.looked still verification
  rw [last.sys]
  refine ⟨?_, goalsCommitted⟩
  rwa [files, third.sys, second.sys, first.sys, ← looks.sys, ← same]

/-- The goals of a quota are those that are read by themselves. -/
theorem SchemeQuotas.configuration_goals {env : Env} (solitary : env.Solitary)
    {quotas : SchemeQuotas} {quota : QuotaConfig} {world after : World}
    (run : quotas.configuration env world = (.ok quota, after)) :
    Shows quotas.goalConfigurations world.sys.files quota.goals := by
  have still := solitary.still
  have reads : ReadsBelow ReadsOnly quotas.path := fun _ _ => trivial
  obtain ⟨time, timed, first, rest⟩ := Exec.bind_eq_ok run
  obtain ⟨size, sized, second, rest⟩ := Exec.bind_eq_ok rest
  obtain ⟨reset, waited, third, rest⟩ := Exec.bind_eq_ok rest
  obtain ⟨weights, weighed, fourth, rest⟩ := Exec.bind_eq_ok rest
  obtain ⟨goals, read, reading, rest⟩ := Exec.bind_eq_ok rest
  obtain ⟨tuner, _, _, rest⟩ := Exec.bind_eq_ok rest
  obtain ⟨numerator, _, _, rest⟩ := Exec.bind_eq_ok rest
  obtain ⟨denominator, _, _, last⟩ := Exec.bind_eq_ok rest
  have timing : Confined ReadsOnly quotas.time := (readU64_confined (reads _ _)).map
  have sizing : Confined ReadsOnly quotas.sizeUnits := readU64_confined (reads _ _)
  have waiting : Confined ReadsOnly quotas.resetInterval := (readU64_confined (reads _ _)).map
  have looks := ((timing.looked still first).trans (sizing.looked still second)).trans
    ((waiting.looked still third).trans ((SchemeQuotas.weights_confined reads).looked still fourth))
  rw [← looks.sys]
  cases last
  exact solitary.shows quotas.goalConfigurations_readsOnly reading

/-- What the preparation of an update has found out. -/
theorem ManagedHierarchy.prepareQuotaGoals_ok {env : Env} (solitary : env.Solitary)
    {goals : List QuotaGoalConfig} {world after : World} {prepared : PreparedGoals}
    (run : prepareQuotaGoals k i j goals env world = (.ok prepared, after)) :
    World.Looks world after ∧ prepared.previousSnapshot = ⟨[], world.sys.files.captured⟩ ∧
      world.sys.files.Readable ∧
      prepared.quotas = (((DamonAdmin.kdamond k).context i).scheme j).quotas ∧
      prepared.goals = goals ∧ prepared.index = k ∧
      Shows prepared.quotas.goalConfigurations world.sys.files prepared.observed := by
  have still := solitary.still
  have whole := (prepareQuotaGoals_reads k i j goals).looked still run
  obtain ⟨_, _, validated, rest⟩ := Exec.bind_eq_ok run
  obtain ⟨_, _, checked, rest⟩ := Exec.bind_eq_ok rest
  obtain ⟨_, _, expected, rest⟩ := Exec.bind_eq_ok rest
  obtain ⟨_, verified, owned, rest⟩ := Exec.bind_eq_ok rest
  obtain ⟨snapshot, captured, capture, rest⟩ := Exec.bind_eq_ok rest
  obtain ⟨scheme, found, finds, rest⟩ := Exec.bind_eq_ok rest
  obtain ⟨quota, read, reading, rest⟩ := Exec.bind_eq_ok rest
  obtain ⟨_, _, _, rest⟩ := Exec.bind_eq_ok rest
  obtain ⟨_, _, _, rest⟩ := Exec.bind_eq_ok rest
  obtain ⟨_, _, _, last⟩ := Exec.bind_eq_ok rest
  cases last
  have first : World.Looks world verified :=
    (((validateKdamondIndex_confined _).looked still validated).trans
      ((Confined.ofExcept _).looked still checked)).trans
      (((expectedRunningPid_confined _).looked still expected).trans
        (verifyOwnedState_readsOnly.looked still owned))
  have second := (Confined.retry DamonAdmin.configurationSnapshot_confined.readsOnly).looked still
    capture
  have third := (scheme_reads k i j).readsOnly.looked still finds
  obtain ⟨same, readable⟩ := solitary.snapshot capture
  have quotaReads : Confined ReadsOnly scheme.quotas.configuration :=
    SchemeQuotas.configuration_confined fun _ _ => trivial
  obtain ⟨start, looks, ends⟩ := retryBusy_looks quotaReads still found
  have scheme_eq := scheme_returns ⟨env, captured, found, finds⟩
  rw [first.sys] at same readable
  refine ⟨whole, same, readable, by rw [scheme_eq], rfl, rfl, ?_⟩
  have shows := SchemeQuotas.configuration_goals solitary (ends.symm.trans reading)
  rw [looks.sys, third.sys, second.sys, first.sys] at shows
  exact shows

end Programs

/-! ## The update -/

/-- What a committed writable attribute holds. -/
def System.committedValue (sys : System) (path : Path) : Option (String ⊕ List UInt8) :=
  ((sys.committed path).filter File.writable).map File.shown

/-- The goals that a scheme works with are the staged ones. -/
def System.RunsStagedGoals (sys : System) (kdamond context scheme : Nat) : Prop :=
  ∀ rest, sys.committed (goalsPath kdamond context scheme ++ rest) =
    sys.files.get? (goalsPath kdamond context scheme ++ rest)

theorem System.runsStagedGoals_settled (files : Files) (kdamond context scheme : Nat) :
    (System.settled files).RunsStagedGoals kdamond context scheme :=
  fun _ => rfl

/-- Only intervals are left to the kernel. -/
def ManagedHierarchy.TunesIntervals (self : ManagedHierarchy) : Prop :=
  ∀ path ∈ self.staged.volatilePaths, ∃ kdamond context config,
    path ∈ StagedOwnership.tunedLeaves ((DamonAdmin.kdamond kdamond).context context) config

section Update

variable {k i j : Nat}

/-- No goal is left to the kernel. -/
theorem ManagedHierarchy.TunesIntervals.goals {self : ManagedHierarchy}
    (tunes : self.TunesIntervals) (rest : Path) :
    containsPath self.staged.volatilePaths (goalsPath k i j ++ rest) = false := by
  rw [Bool.eq_false_iff]
  intro contained
  obtain ⟨kdamond, context, config, leaf⟩ := tunes _ (mem_of_containsPath contained)
  unfold StagedOwnership.tunedLeaves at leaf
  split at leaf
  · cases leaf
  · simp [goalsPath, Scheme.quotas, Context.scheme, Kdamond.context, DamonAdmin.kdamond,
      Context.intervalsPath] at leaf

/-- What a session has staged leaves intervals to the kernel, and nothing else. -/
theorem ManagedHierarchy.TunesIntervals.of_new {self : ManagedHierarchy}
    {snapshot : ConfigurationSnapshot} {config : DamonConfig}
    (staged : self.staged = .new snapshot config) : self.TunesIntervals := by
  intro path tuned
  rw [staged] at tuned
  have member := (List.perm_insertionSort (· ≤ ·) _).mem_iff.mp tuned
  simp only [List.mem_flatMap] at member
  obtain ⟨⟨kdamondConfig, kdamond⟩, -, ⟨context, index⟩, -, leaf⟩ := member
  exact ⟨kdamond, index, context, leaf⟩

/-- An update that has been undone: every captured value and the committed goals are as before. -/
structure GoalsUndone (kdamond context scheme : Nat) (before after : System) : Prop where
  captured : after.files.captured = before.files.captured
  committed : ∀ rest, Path.isRuntimeAttribute (goalsPath kdamond context scheme ++ rest) = false →
    after.committedValue (goalsPath kdamond context scheme ++ rest) =
      before.committedValue (goalsPath kdamond context scheme ++ rest)

/-- An update that is done: the goals read back as requested, are committed as they are staged, and
nothing outside of their directory has changed. -/
structure GoalsDone (kdamond context scheme : Nat) (goals : List QuotaGoalConfig)
    (before after : System) : Prop where
  staged : Shows (((DamonAdmin.kdamond kdamond).context context).scheme scheme).quotas.goalConfigurations
    after.files goals
  committed : after.RunsStagedGoals kdamond context scheme
  outside : ∀ path, (∀ rest, path ≠ goalsPath kdamond context scheme ++ rest) →
    after.files.get? path = before.files.get? path

/-- A goal falls short when what written paths affect is restored to captured files. -/
def GoalsFallShort (kernel : Kernel) (kdamond context scheme : Nat) (source files : Files)
    (writes : List Path) : Prop :=
  ∃ entry ∈ source.captured.entries, goalsPath kdamond context scheme <+: entry.path ∧
    ConfigurationSnapshot.FallsShort ⟨[], source.captured⟩ kernel files
      (ConfigurationSnapshot.affectedEntries ⟨[], source.captured⟩ writes) entry

instance (kernel : Kernel) (kdamond context scheme : Nat) (source files : Files)
    (writes : List Path) : Decidable (GoalsFallShort kernel kdamond context scheme source files writes) :=
  inferInstanceAs (Decidable (∃ entry ∈ _, _ ∧ _))

/-- When a restoration shows the captured goals again, they read as captured but for those that fall
short. -/
theorem GoalsOnly.showsGoals_iff {env : Env} {source : Files} {begun restored : World}
    {ignored writes : List Path} (solitary : env.Solitary)
    (only : GoalsOnly env.kernel k i j source restored.sys.files)
    (numbered : source.NumberedBy env.kernel) (flat : GoalsFlat source k i j)
    (readable : restored.sys.files.Readable)
    (leaves : ∀ path, containsPath ignored path = true → Path.isReconstructionCount path = false)
    (heeded : ∀ rest, containsPath ignored (goalsPath k i j ++ rest) = false)
    (shows : ∀ entry ∈ source.captured.entries, (∃ rest, entry.path = goalsPath k i j ++ rest) →
      ∃ file, restored.sys.files.get? entry.path = some file ∧ file.content.Shows entry.value)
    (run : Exec.forEach (restoreEntry ignored) (ConfigurationSnapshot.restorationOrder
      ⟨[], source.captured⟩ (ConfigurationSnapshot.affectedEntries ⟨[], source.captured⟩ writes))
        env begun = (.ok (), restored)) :
    ShowsGoals k i j source restored.sys.files ↔
      ¬GoalsFallShort env.kernel k i j source begun.sys.files writes := by
  have value : ∀ {path} {text : AttributeText}, source.Configures path →
      (∃ rest, path = goalsPath k i j ++ rest) →
      restored.sys.files.get? path = some ⟨.text text, true⟩ →
        (text.value = source.shownValue path ↔
          ¬ConfigurationSnapshot.FallsShort ⟨[], source.captured⟩ env.kernel begun.sys.files
            (ConfigurationSnapshot.affectedEntries ⟨[], source.captured⟩ writes)
            ⟨path, source.shownValue path⟩) := by
    rintro path text configures ⟨rest, rfl⟩ found
    obtain ⟨file, there, shown⟩ := shows _ configures.captured ⟨rest, rfl⟩
    rw [found] at there
    cases there
    exact ConfigurationSnapshot.restored_value solitary numbered List.filter_sublist leaves run
      configures.captured (fun _ => heeded rest) found shown
  have counted : source.Configures (goalCountPath k i j) → ∀ text : AttributeText,
      restored.sys.files.get? (goalCountPath k i j) = some ⟨.text text, true⟩ →
        text.value = source.shownValue (goalCountPath k i j) := by
    intro configures text found
    refine (value configures ⟨["nr_goals"], rfl⟩ found).mpr ?_
    rintro ⟨leaf, -⟩
    rw [goalCountPath_isCount] at leaf
    cases leaf
  have modes := only.modes numbered flat counted
  constructor
  · rintro shown ⟨entry, member, ⟨rest, same⟩, short⟩
    have below : ∃ rest, entry.path = goalsPath k i j ++ rest := ⟨rest, same.symm⟩
    obtain ⟨path, configures, rfl⟩ := Files.exists_of_captured member
    obtain ⟨text, found⟩ := readable path ((Files.configures_of_mode (modes path)).mpr configures)
    exact (value configures below found).mp (shown path configures below text found) short
  · intro whole path configures below text found
    obtain ⟨rest, same⟩ := below
    exact (value configures ⟨rest, same⟩ found).mpr fun short =>
      whole ⟨_, configures.captured, ⟨rest, same.symm⟩, short⟩

/-- Intervals are no counts. -/
theorem ManagedHierarchy.TunesIntervals.leaves {self : ManagedHierarchy}
    (tunes : self.TunesIntervals) (path : Path)
    (tuned : containsPath self.staged.volatilePaths path = true) :
    Path.isReconstructionCount path = false := by
  obtain ⟨kdamond, context, config, leaf⟩ := tunes _ (mem_of_containsPath tuned)
  unfold StagedOwnership.tunedLeaves at leaf
  split at leaf
  · cases leaf
  · rcases List.mem_cons.mp leaf with rfl | last
    · rw [Path.isReconstructionCount_append (List.cons_ne_nil _ _)]
      rfl
    · rw [List.mem_singleton.mp last, Path.isReconstructionCount_append (List.cons_ne_nil _ _)]
      rfl

/-- The transaction of an update is done, reports a failed rollback, or is undone unless a goal falls
short when its rollback starts. -/
theorem ManagedHierarchy.transactGoals_atomic {env : Env} {world after : World}
    {goals observed : List QuotaGoalConfig} {outcome : Except Error Unit}
    (solitary : env.Solitary) (small : k < 2 ^ 64) (tunes : world.self.TunesIntervals)
    (numbered : world.sys.files.NumberedBy env.kernel) (flat : GoalsFlat world.sys.files k i j)
    (current : world.sys.RunsStagedGoals k i j) (readable : world.sys.files.Readable)
    (recovers : ∀ operation writes start, collectWrites (stageAndCommitQuotaGoals
        (((DamonAdmin.kdamond k).context i).scheme j).quotas goals observed k) env world =
          (.ok (.error operation, writes), start) →
      ∀ clock access, start.clock ≤ clock → env.fault clock access = none)
    (run : transact (stageAndCommitQuotaGoals
        (((DamonAdmin.kdamond k).context i).scheme j).quotas goals observed k)
      (restoreAndCommitQuotaGoals ⟨[], world.sys.files.captured⟩ k) env world = (outcome, after)) :
    (outcome = .ok () ∧ GoalsDone k i j goals world.sys after.sys) ∨
      (∃ operation failure, outcome = .error (.rollback operation failure)) ∨
      ∃ operation writes start, outcome = .error operation ∧
        collectWrites (stageAndCommitQuotaGoals
          (((DamonAdmin.kdamond k).context i).scheme j).quotas goals observed k) env world =
            (.ok (.error operation, writes), start) ∧
        (GoalsUndone k i j world.sys after.sys ↔
          ¬GoalsFallShort env.kernel k i j world.sys.files start.sys.files writes) := by
  have still := solitary.still
  have forward := stageAndCommitQuotaGoals_writesGoals k i j goals observed
  obtain ⟨result, writes, start, collected, ends⟩ := transact_ends run
  obtain ⟨final, ran, -, rfl⟩ := collectWrites_ok collected
  have moved := forward.goalsOnly small world.sys.files env
    { world with journal := some [] }
  rw [ran] at moved
  have only : GoalsOnly env.kernel k i j world.sys.files final.sys.files := moved still (.refl _)
  cases result with
  | ok staged =>
      obtain ⟨done, ended⟩ := ends
      obtain ⟨shows, committed⟩ := stageAndCommitQuotaGoals_commits solitary small ran
      refine .inl ⟨done, ?_⟩
      rw [ended]
      exact ⟨shows, committed, only.outside⟩
  | error operation =>
      rcases ends with ⟨staged, last, rolled, failed, ended⟩ | ⟨failure, failed⟩
      · have begins : GoalsOnly env.kernel k i j world.sys.files
            ({ final with journal := none } : World).sys.files := only
        obtain ⟨onlyAgain, readableAgain, committed, shows, begun, restored, begunAs, restoredAs,
          restores⟩ :=
          restoreAndCommitQuotaGoals_restores ⟨rfl, solitary, recovers _ _ _ collected⟩ small rfl flat
            (forward.collected collected) begins rolled
        have self := forward.self_run ran
        have tuned : final.self.TunesIntervals := by
          rw [self]
          exact tunes
        have goalsShown := (restoredAs ▸ onlyAgain).showsGoals_iff solitary numbered flat
          (restoredAs ▸ readableAgain) tuned.leaves tuned.goals (fun entry member below => by
            obtain ⟨rest, same⟩ := below
            rw [restoredAs]
            exact shows entry member (same ▸ tuned.goals rest)) restores
        rw [restoredAs, begunAs] at goalsShown
        refine .inr (.inr ⟨operation, writes, _, failed, collected, ?_⟩)
        rw [ended]
        refine Iff.trans ⟨fun undone => ?_, fun shown => ?_⟩ goalsShown
        · intro path configures below text found
          have read := Files.shownValue_of_captured undone.captured configures.captured
          rw [Files.shownValue, found] at read
          exact read
        · refine ⟨onlyAgain.captured numbered flat readableAgain shown, fun rest configuration => ?_⟩
          unfold System.committedValue
          rw [committed rest, current rest]
          exact onlyAgain.holds numbered flat readable readableAgain shown rest configuration
      · exact .inr (.inl ⟨operation, failure, failed⟩)

/-- An update that has goals to change fails after its transaction has begun where the forward part
of that transaction does. -/
theorem ManagedHierarchy.PreparedGoals.failsAfter_iff {env : Env} {world checked start : World}
    {goals : List QuotaGoalConfig} {prepared : PreparedGoals} {transaction : Transaction}
    {operation : Error} {writes : List Path}
    (prepares : prepareQuotaGoals k i j goals env world = (.ok prepared, checked))
    (changed : goals ≠ prepared.observed) :
    (RunningCall.updateSchemeQuotaGoals k i j goals).FailsAfter env world transaction operation
        writes start ↔
      transaction = prepared.transaction ∧
        collectWrites prepared.transaction.forward env checked =
          (.ok (.error operation, writes), start) := by
  have ends : (RunningCall.updateSchemeQuotaGoals k i j goals).prepare env world =
      (.ok (some prepared.transaction), checked) := by
    rw [RunningCall.prepare, Exec.bind_run_ok prepares, if_neg changed]
    rfl
  constructor
  · rintro ⟨_, also, collected⟩
    rw [ends] at also
    cases also
    exact ⟨rfl, collected⟩
  · rintro ⟨rfl, collected⟩
    exact ⟨checked, ends, collected⟩

end Update

namespace GoalFixture

/-- A kdamond with one context, one scheme, and the goals of its quotas. -/
def attributes (goals : List (Path × String)) : List (Path × String × Bool) :=
  let scheme : Path := ["schemes", "0", "quotas"]
  let quotas : List (Path × String) := [(["ms"], "10"), (["bytes"], "0"),
    (["reset_interval_ms"], "1000"), (["weights", "sz_permil"], "0"),
    (["weights", "nr_accesses_permil"], "0"), (["weights", "age_permil"], "0")]
  (["kdamonds", "nr_kdamonds"], "1", true) :: Fixture.kdamond 0 "on" "100"
    ((Fixture.context "5000" "100000" "0").dropLast ++ [(["schemes", "nr_schemes"], "1")] ++
      (quotas ++ goals).map fun (inner, value) => (scheme ++ inner, value))

def goal (index target : String) : List (Path × String) :=
  [(["goals", index, "target_metric"], "user_input"), (["goals", index, "target_value"], target),
    (["goals", index, "current_value"], "0")]

/-- One goal, with what else is in its directory. -/
def world (rest : List (Path × String)) : World :=
  Fixture.session (.ofAttributes (attributes ((["goals", "nr_goals"], "1") :: goal "0" "50" ++ rest)))
    (Fixture.config [Fixture.contextConfig .default 0])

/-- Each child is created with the attributes of the first. -/
def kernel : Kernel :=
  ⟨fun directory _ => (attributes ((["goals", "nr_goals"], "1") :: goal "0" "0")).filterMap
    fun (path, value, writable) =>
      (stripPrefix? (directory ++ ["0"]) path).map fun inner => (inner, .ofWritten value, writable)⟩

/-- Until a time a value is refused. -/
def env (path : Path) (value : String) (until_ : Nat) : Env :=
  { Fixture.calm with
    kernel := kernel
    fault := fun clock access =>
      if clock < until_ ∧ access = .write path value then some ⟨.transfer, 5⟩ else none }

/-- Two goals instead of one. -/
def twoGoals : List QuotaGoalConfig :=
  [⟨.userInput, 60, 0, none, none⟩, ⟨.userInput, 70, 0, none, none⟩]

/-- A goal for a control group. -/
def groupGoal : List QuotaGoalConfig :=
  [⟨.nodeMemoryControlGroupUsedBasisPoints, 60, 0, some 0, some "foo"⟩]

/-- The forward part of an update. -/
def forward (goals : List QuotaGoalConfig) :
    Sysfs (Option (Except Error StagedOwnership × List Path)) := do
  match ← (ManagedHierarchy.RunningCall.updateSchemeQuotaGoals 0 0 0 goals).prepare with
  | none => pure none
  | some transaction => do
      let ended ← collectWrites transaction.forward
      pure (some ended)

theorem forward_of_fails {goals : List QuotaGoalConfig} {env : Env} {world start : World}
    {transaction : ManagedHierarchy.Transaction} {operation : Error} {writes : List Path}
    (fails : (ManagedHierarchy.RunningCall.updateSchemeQuotaGoals 0 0 0 goals).FailsAfter env world
      transaction operation writes start) :
    forward goals env world = (.ok (some (.error operation, writes)), start) := by
  obtain ⟨prepared, prepares, collected⟩ := fails
  exact (Exec.bind_run_ok prepares _).trans (Exec.bind_run_ok collected _)

theorem solitary (path : Path) (value : String) (until_ : Nat) :
    (env path value until_).Solitary := by
  refine ⟨fun _ _ => rfl, fun clock access reads => ?_⟩
  cases access with
  | write path value => exact reads.elim
  | _ => exact if_neg fun both => nomatch both.2

theorem flat : GoalsFlat (world []).sys.files 0 0 0 := by
  have listed : ∀ count ∈ (world []).sys.files.paths, (world []).sys.files.IsCount count →
      (stripPrefix? (goalsPath 0 0 0) count).isSome = true → count = goalCountPath 0 0 0 := by
    decide +kernel
  rintro count isCount ⟨rest, same⟩
  refine listed count isCount.2.mem_paths isCount ?_
  rw [same, stripPrefix?_append]
  rfl

/-- Where the second goal is refused. -/
def target : Path := goalsPath 0 0 0 ++ ["1", "target_value"]

/-- The path of a group that the goal does not need, with a newline at its end. -/
def stale : World := world [(["goals", "0", "nid"], "0"), (["goals", "0", "path"], "foo\n")]

/-- The commit is refused. -/
def refusedCommit : Env := env (Path.stateOf 0) "commit_schemes_quota_goals" 331

end GoalFixture

end DamonRs
