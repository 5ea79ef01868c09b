import DamonRs.Monitor.Fixture
import DamonRs.Monitor.Transaction
import DamonRs.Sysfs.Reaches

/-!
# What a rollback touches

The paths affected by the writes of a transaction are closed under the counts
that a rollback writes back, so a rollback leaves every other captured value
alone.  It fails when one of those differs from its captured value.
-/

namespace DamonRs

open Library Sysfs

/-! ## Affected paths are closed -/

namespace ConfigurationSnapshot

variable {snapshot : ConfigurationSnapshot} {writes : List Path}

theorem mem_pathsAffectedByWrites (root : snapshot.root = []) (path : Path) :
    path ∈ snapshot.pathsAffectedByWrites writes ↔ ∃ write ∈ writes, path = write ∨
      (Path.isReconstructionCount write = true ∧ write.dropLast <+: path ∧
        ∃ entry ∈ snapshot.entries, entry.path = path) := by
  simp only [pathsAffectedByWrites, mem_sortDedup, List.mem_flatMap, root, stripPrefix?,
    Option.getD_some]
  refine exists_congr fun write => and_congr_right fun _ => ?_
  by_cases isCount : Path.isReconstructionCount write = true
  · rw [if_pos isCount, List.mem_cons]
    refine or_congr_right ?_
    simp only [isCount, true_and, List.mem_map, List.mem_filter, List.isPrefixOf_iff_prefix]
    constructor
    · rintro ⟨entry, ⟨member, below⟩, rfl⟩
      exact ⟨below, entry, member, rfl⟩
    · rintro ⟨below, entry, member, rfl⟩
      exact ⟨entry, ⟨member, below⟩, rfl⟩
  · rw [if_neg isCount]
    simp [isCount]

/-- What a captured count rebuilds is affected when the count is. -/
theorem affected_closed (root : snapshot.root = [])
    (apart : ∀ path ∈ writes, ∃ value, CountsApart (.write path value)) {count path : Path}
    (isCount : Path.isReconstructionCount count = true)
    (affected : count ∈ snapshot.pathsAffectedByWrites writes) (below : count.dropLast <+: path)
    (captured : ∃ entry ∈ snapshot.entries, entry.path = path) :
    path ∈ snapshot.pathsAffectedByWrites writes := by
  rw [mem_pathsAffectedByWrites root] at affected ⊢
  obtain ⟨write, member, reason⟩ := affected
  refine ⟨write, member, .inr ?_⟩
  rcases reason with rfl | ⟨isWriteCount, inside, -⟩
  · exact ⟨isCount, below, captured⟩
  · have strict : write.dropLast ≠ count := by
      rintro rfl
      obtain ⟨value, separate⟩ := apart write member
      exact Bool.false_ne_true ((separate isWriteCount).symm.trans isCount)
    have nonempty : count ≠ [] := by
      rintro rfl
      cases isCount
    have higher : write.dropLast <+: count.dropLast := by
      have whole := List.dropLast_append_getLast nonempty
      rw [← whole, List.prefix_concat_iff] at inside
      exact inside.resolve_left fun same => strict (same.trans whole)
    exact ⟨isWriteCount, higher.trans below, captured⟩

end ConfigurationSnapshot

/-! ## Calls that change running kdamonds -/

namespace ManagedHierarchy

/-- A call that stages and commits a change of running kdamonds. -/
inductive RunningCall where
  | updateConfiguration (config : DamonConfig) (indices : List Nat)
  | updateSchemeQuotaGoals (kdamond context scheme : Nat) (goals : List QuotaGoalConfig)

namespace RunningCall

def program : RunningCall → Sysfs Unit
  | updateConfiguration config indices => ManagedHierarchy.updateConfiguration config indices
  | updateSchemeQuotaGoals kdamond context scheme goals =>
      ManagedHierarchy.updateSchemeQuotaGoals kdamond context scheme goals

/-- The transaction of a call, unless nothing has to change. -/
def prepare : RunningCall → Sysfs (Option Transaction)
  | updateConfiguration config indices => do
      let prepared ← prepareUpdate config indices
      pure (some prepared.transaction)
  | updateSchemeQuotaGoals kdamond context scheme goals => do
      let prepared ← prepareQuotaGoals kdamond context scheme goals
      pure (if goals = prepared.observed then none else some prepared.transaction)

/-- Run a transaction that has been prepared. -/
def runPrepared : Option Transaction → Sysfs Unit
  | none => pure ()
  | some transaction => transaction.run

theorem program_eq (call : RunningCall) : call.program = call.prepare >>= runPrepared := by
  cases call with
  | updateConfiguration config indices =>
      simp only [program, prepare, updateConfiguration_eq, Exec.bind_assoc, Exec.pure_bind]
      rfl
  | updateSchemeQuotaGoals kdamond context scheme goals =>
      simp only [program, prepare, updateSchemeQuotaGoals_eq, Exec.bind_assoc, Exec.pure_bind]
      congr 1
      funext prepared
      split <;> rfl

/-- The call captures a state to roll back to, and then its forward part fails with an error
after it has written some paths. -/
def FailsAfter (call : RunningCall) (env : Env) (world : World) (transaction : Transaction)
    (operation : Error) (writes : List Path) (start : World) : Prop :=
  ∃ prepared, call.prepare env world = (.ok (some transaction), prepared) ∧
    collectWrites transaction.forward env prepared = (.ok (.error operation, writes), start)

/-- Such a call returns what the rollback makes of the error. -/
theorem FailsAfter.program {call : RunningCall} {env : Env} {world : World}
    {transaction : Transaction} {operation : Error} {writes : List Path} {start : World}
    (fails : call.FailsAfter env world transaction operation writes start) :
    (call.program env world).2.trace = (transaction.rollback writes env start).2.trace ∧
      ∀ failure after, transaction.rollback writes env start = (.error failure, after) →
        (call.program env world).1 = .error (.rollback operation failure) := by
  obtain ⟨prepared, prepares, forward⟩ := fails
  rw [program_eq, Exec.bind_run_ok prepares]
  show (transact _ _ env prepared).2.trace = _ ∧ _
  rw [runPrepared, Transaction.run, transact, Exec.bind_run_ok forward]
  dsimp only
  cases ran : transaction.rollback writes env start with
  | mk outcome after =>
      rw [Exec.bind_run, Exec.attempt_run, ran]
      cases outcome with
      | ok staged => exact ⟨rfl, fun failure after same => by cases same⟩
      | error failure =>
          refine ⟨rfl, fun failure after same => ?_⟩
          cases same
          rfl

end RunningCall

/-! ## Foreign changes -/

/-- A captured value ends in a newline, and the attribute holds nothing else when it is compared
with it. -/
def Mistakes (path : Path) (value : String) (moment : Moment) : Prop :=
  moment.access = .compare path ∧ value.toList.getLast? = some '\n' ∧
    (moment.system.files.get? path).map (fun file => file.content.bytes) =
      some (Text.utf8Bytes value)

instance (path : Path) (value : String) (moment : Moment) :
    Decidable (Mistakes path value moment) :=
  inferInstanceAs (Decidable (_ ∧ _ ∧ _))

section Foreign

variable {env : Env} {path : Path} {value : String} {world after : World}

/-- At some moment of a run an attribute is compared with a captured value and shows it. -/
def FoundShown (path : Path) (value : String) (env : Env) (before after : World) : Prop :=
  ∃ moment ∈ World.history env before after,
    moment.access = .compare path ∧ moment.system.Shows path value

namespace FoundShown

theorem then_run {last : World} (found : FoundShown path value env world after)
    (one : World.Advances env world after) (two : World.Advances env after last) :
    FoundShown path value env world last := by
  obtain ⟨moment, member, shows⟩ := found
  exact ⟨moment, one.history_first two member, shows⟩

theorem after_run {first : World} (found : FoundShown path value env world after)
    (one : World.Advances env first world) (two : World.Advances env world after) :
    FoundShown path value env first after := by
  obtain ⟨moment, member, shows⟩ := found
  exact ⟨moment, one.history_second two member, shows⟩

/-- What is found shown has the captured value, unless the comparison mistakes it. -/
theorem holds_or_mistaken (found : FoundShown path value env world after) :
    ∃ moment ∈ World.history env world after,
      moment.system.files.value? path = some value ∨ Mistakes path value moment := by
  obtain ⟨moment, member, compares, file, isFile, shows⟩ := found
  refine ⟨moment, member, ?_⟩
  rw [Files.value?, isFile, readableValue, Option.bind_some, Content.value?_eq_iff shows,
    or_iff_not_imp_left, not_not]
  exact fun ⟨ends, exactly⟩ => ⟨compares, ends, by rw [isFile, Option.map_some, exactly]⟩

end FoundShown

theorem requireOwned_ok {reason : String} {comparison : Sysfs Bool}
    (run : requireOwned reason comparison env world = (.ok (), after)) :
    comparison env world = (.ok true, after) := by
  obtain ⟨equal, middle, compared, decided⟩ := Exec.bind_eq_ok run
  cases equal with
  | false => cases decided
  | true =>
      cases decided
      exact compared

/-- A comparison of all entries that succeeds finds each of them shown. -/
theorem entriesMatch_found {skip : Path → Bool} (compared : skip path = false)
    {entries : List ConfigurationEntry} (member : ⟨path, value⟩ ∈ entries)
    (run : entriesMatch skip entries env world = (.ok true, after)) :
    FoundShown path value env world after := by
  induction entries generalizing world with
  | nil => cases member
  | cons entry rest ih =>
      unfold entriesMatch at run
      by_cases skipped : skip entry.path = true
      · rw [if_pos skipped] at run
        refine ih ((List.mem_cons.mp member).resolve_left fun same => ?_) run
        rw [← same] at skipped
        exact Bool.false_ne_true (compared.symm.trans skipped)
      rw [if_neg skipped] at run
      obtain ⟨shown, middle, compare, continues⟩ := Exec.bind_eq_ok run
      obtain ⟨rfl, shows⟩ := readConfigurationValueEquals_ok compare
      cases shown with
      | false => cases continues
      | true =>
          rw [if_pos rfl] at continues
          have first : World.Advances env world (env.advance world (.compare entry.path)) :=
            .advance world _
          have matching : Confined ReadsOnly (entriesMatch skip rest) :=
            entriesMatch_confined (fun _ => trivial) _ _
          have following : World.Advances env (env.advance world (.compare entry.path)) after :=
            World.Reaches.advances (.of_run matching continues)
          by_cases same : entry = ⟨path, value⟩
          · subst same
            have here : FoundShown path value env world (env.advance world (.compare path)) := by
              refine ⟨env.moment world (.compare path), ?_, rfl, ?_⟩
              · rw [World.history_advance]
                exact List.mem_singleton_self _
              · rw [← env.advance_sys world (show ReadsOnly (.compare path) from trivial)]
                exact shows rfl
            exact here.then_run first following
          · have later := ih ((List.mem_cons.mp member).resolve_left fun equal => same equal.symm)
              continues
            exact later.after_run first following

/-- The boundary check passes only when it has found every unaffected value that is neither
restored nor tuned. -/
theorem verifyRollbackBoundary_found {snapshot : ConfigurationSnapshot} {writes : List Path}
    (member : ⟨path, value⟩ ∈ snapshot.entries)
    (unaffected : path ∉ snapshot.pathsAffectedByWrites writes)
    (untuned : path ∉ world.self.staged.volatilePaths)
    (run : verifyRollbackBoundary snapshot writes env world = (.ok (), after)) :
    FoundShown path value env world after := by
  obtain ⟨self, _, isSelf, run⟩ := Exec.bind_eq_ok run
  cases isSelf
  have compared : containsPath
      (sortDedup (snapshot.pathsAffectedByWrites writes ++ world.self.staged.volatilePaths)) path =
        false := by
    rw [Bool.eq_false_iff, ne_eq, containsPath_sortDedup, List.mem_append, not_or]
    exact ⟨unaffected, untuned⟩
  have matching : Confined ReadsOnly (snapshot.matchesCurrentExcept
      (sortDedup (snapshot.pathsAffectedByWrites writes ++ world.self.staged.volatilePaths))) :=
    entriesMatch_confined (fun _ => trivial) _ _
  obtain ⟨start, attempts, last⟩ := World.Reaches.of_retry matching (requireOwned_ok run)
  exact (entriesMatch_found compared member last).after_run attempts.advances
    (World.Reaches.advances (.of_run matching last))

/-- What comes after the check does not undo its failure. -/
theorem afterBoundary_found {α : Type} {snapshot : ConfigurationSnapshot} {writes : List Path}
    (member : ⟨path, value⟩ ∈ snapshot.entries)
    (unaffected : path ∉ snapshot.pathsAffectedByWrites writes)
    (untuned : path ∉ world.self.staged.volatilePaths) {restoration : Sysfs Unit} {rest : Sysfs α}
    (confined : Confined (fun _ => True) rest) {result : α}
    (run : (do
        verifyOwnedIdentitiesOnly
        verifyBoundaryOr snapshot writes restoration
        rest) env world = (.ok result, after)) :
    FoundShown path value env world after := by
  obtain ⟨_, identified, identifies, run⟩ := Exec.bind_eq_ok run
  obtain ⟨_, bounded, bounds, run⟩ := Exec.bind_eq_ok run
  obtain ⟨outcome, checked, check, bounds⟩ := Exec.bind_eq_ok bounds
  have identifying : World.Reaches ReadsOnly env world identified :=
    .of_run verifyOwnedIdentitiesOnly_readsOnly identifies
  have same : identified.self = world.self := identifying.advances.self
  cases ran : verifyRollbackBoundary snapshot writes env identified with
  | mk verdict passed =>
      rw [Exec.attempt_run, ran] at check
      cases check
      cases verdict with
      | error error =>
          obtain ⟨_, _, _, fails⟩ := Exec.bind_eq_ok bounds
          cases fails
      | ok value =>
          cases bounds
          have checking : World.Reaches ReadsOnly env identified passed :=
            .of_run (verifyRollbackBoundary_reads snapshot writes).readsOnly ran
          have following : World.Advances env passed after := World.Reaches.advances
            (.of_run confined run)
          have found := verifyRollbackBoundary_found member unaffected (same ▸ untuned) ran
          exact (found.then_run checking.advances following).after_run identifying.advances
            (checking.advances.trans following)

end Foreign

/-! ## Sound transactions -/

/-- Accesses that read anything, write affected captured paths and send commands. -/
def Transaction.RollsBack (transaction : Transaction) (writes : List Path) : Access → Prop
  | .write path _ =>
      (path ∈ transaction.previous.pathsAffectedByWrites writes ∧
        ∃ entry ∈ transaction.previous.entries, entry.path = path) ∨
      ∃ index, path = Path.stateOf index
  | _ => True

/-- What both kinds of transactions have in common. -/
structure Transaction.Sound (transaction : Transaction) : Prop where
  captured : transaction.previous.Captured
  forward : Confined CountsApart transaction.forward
  rollback : ∀ writes, Accesses (transaction.RollsBack writes) (transaction.rollback writes)
  boundary : ∀ {env : Env} {path value writes} {start after : World} {staged : StagedOwnership},
    ⟨path, value⟩ ∈ transaction.previous.entries →
    path ∉ transaction.previous.pathsAffectedByWrites writes →
    path ∉ start.self.staged.volatilePaths →
    transaction.rollback writes env start = (.ok staged, after) →
    FoundShown path value env start after

theorem Transaction.rollsBack_restores (transaction : Transaction) (writes : List Path) :
    Confined (transaction.RollsBack writes) (restoreWritten transaction.previous writes) :=
  restoreWritten_confined (fun _ => trivial) fun entry member affected =>
    .inl ⟨affected, entry, member, rfl⟩

theorem ReadsOnly.rollsBack {transaction : Transaction} {writes : List Path} {access : Access}
    (reads : ReadsOnly access) : transaction.RollsBack writes access := by
  cases access with
  | write path value => exact reads.elim
  | _ => trivial

theorem ReadsOnly.countsApart {access : Access} (reads : ReadsOnly access) : CountsApart access := by
  cases access with
  | write path value => exact reads.elim
  | _ => trivial

theorem PreparedUpdate.transaction_sound {prepared : PreparedUpdate}
    (captured : prepared.previousSnapshot.Captured) : prepared.transaction.Sound where
  captured := captured
  forward := stageAndCommitRunning_confined (fun _ => ReadsOnly.countsApart)
    (DamonAdmin.stageConfigurationFrom_countsApart _ _)
    (DamonAdmin.stageConfigurationFrom_countsApart _ _) fun index _ =>
      countsApart_of_leaf (Path.stateOf_noCount index)
  rollback := fun writes => restoreAndCommitRunning_accesses (fun _ => ReadsOnly.rollsBack)
    (prepared.transaction.rollsBack_restores writes) fun index _ => .inr ⟨index, rfl⟩
  boundary := fun member unaffected untuned => afterBoundary_found member unaffected untuned <|
    restoresRunning_confined (fun _ _ => trivial) ((prepared.transaction.rollsBack_restores _).mono
      fun _ _ => trivial) fun _ _ => trivial

theorem PreparedGoals.transaction_sound {prepared : PreparedGoals}
    (captured : prepared.previousSnapshot.Captured) : prepared.transaction.Sound where
  captured := captured
  forward := stageAndCommitQuotaGoals_confined (fun _ => ReadsOnly.countsApart)
    (SchemeQuotas.stageGoalsFrom_countsApart _ _ _)
    (SchemeQuotas.goalConfigurations_confined fun _ _ => trivial)
    (countsApart_of_leaf (Path.stateOf_noCount prepared.index))
  rollback := fun writes => restoreAndCommitQuotaGoals_accesses (fun _ => ReadsOnly.rollsBack)
    (prepared.transaction.rollsBack_restores writes) (.inr ⟨prepared.index, rfl⟩)
  boundary := fun member unaffected untuned => afterBoundary_found member unaffected untuned <|
    restoresQuotaGoals_confined (fun _ _ => trivial)
      ((prepared.transaction.rollsBack_restores _).mono fun _ _ => trivial) trivial

/-! ## Rolled back calls -/

theorem captureUpdate_reads (config : DamonConfig) (indices : List Nat) :
    Confined ReadsOnly (captureUpdate config indices) := by
  refine .bind .environment fun env => .seq (.ofExcept _) (.bind .self fun self => ?_)
  refine .bind (.ofExcept _) fun selected => .seq (.ofExcept _) ?_
  refine .seq (.forEach _ fun index _ => .bind (expectedRunningPid_confined index) fun _ =>
    .pure ()) (.seq verifyOwnedState_readsOnly ?_)
  refine .bind (.retry DamonAdmin.configurationSnapshot_confined.readsOnly) fun snapshot => ?_
  refine .bind (.retry DamonAdmin.configuration_confined.readsOnly) fun previous => ?_
  exact .seq (requireUnchanged_reads _ _).readsOnly (.pure _)

theorem prepareUpdate_reads (config : DamonConfig) (indices : List Nat) :
    Confined ReadsOnly (prepareUpdate config indices) :=
  .bind (captureUpdate_reads config indices) fun _ => .seq verifyOwnedState_readsOnly (.ofExcept _)

theorem prepareQuotaGoals_reads (kdamondIndex contextIndex schemeIndex : Nat)
    (goals : List QuotaGoalConfig) :
    Confined ReadsOnly (prepareQuotaGoals kdamondIndex contextIndex schemeIndex goals) := by
  refine .seq (validateKdamondIndex_confined _) (.seq (.ofExcept _) ?_)
  refine .bind (expectedRunningPid_confined _) fun _ => .seq verifyOwnedState_readsOnly ?_
  refine .bind (.retry DamonAdmin.configurationSnapshot_confined.readsOnly) fun snapshot => ?_
  refine .bind (scheme_reads _ _ _).readsOnly fun scheme => ?_
  refine .bind (.retry (SchemeQuotas.configuration_confined fun _ _ => trivial)) fun quota => ?_
  refine .seq (requireUnchanged_reads _ _).readsOnly (.seq verifyOwnedState_readsOnly ?_)
  exact .seq (.ofExcept _) (.pure _)

theorem captureUpdate_captured {config : DamonConfig} {indices : List Nat}
    {captured : CapturedUpdate} (returns : Exec.Returns (captureUpdate config indices) captured) :
    captured.previousSnapshot.Captured := by
  obtain ⟨_, _, returns⟩ := Exec.returns_bind returns
  obtain ⟨_, _, returns⟩ := Exec.returns_bind returns
  obtain ⟨_, _, returns⟩ := Exec.returns_bind returns
  obtain ⟨_, _, returns⟩ := Exec.returns_bind returns
  obtain ⟨_, _, returns⟩ := Exec.returns_bind returns
  obtain ⟨_, _, returns⟩ := Exec.returns_bind returns
  obtain ⟨_, _, returns⟩ := Exec.returns_bind returns
  obtain ⟨snapshot, captured, returns⟩ := Exec.returns_bind returns
  obtain ⟨_, _, returns⟩ := Exec.returns_bind returns
  obtain ⟨_, _, returns⟩ := Exec.returns_bind returns
  rw [Exec.returns_pure returns]
  exact DamonAdmin.configurationSnapshot_returns (Exec.returns_retry captured)

/-- What is planned rolls back to what was captured. -/
theorem CapturedUpdate.plan_ok {captured : CapturedUpdate} {config : DamonConfig}
    {prepared : PreparedUpdate} (planned : captured.plan config = .ok prepared) :
    prepared.previousSnapshot = captured.previousSnapshot ∧
      prepared.previous = captured.previous ∧ prepared.selected = captured.selected ∧
      ∃ comparable,
        normalizeRunningTunedIntervals config (some captured.previous) captured.previous =
          .ok comparable ∧
        effectiveKdamonds captured.selected 0 config.kdamonds captured.previous.kdamonds
          comparable.kdamonds = .ok prepared.effective.kdamonds := by
  unfold plan at planned
  cases normalized : normalizeRunningTunedIntervals config (some captured.previous)
      captured.previous with
  | error error =>
      rw [normalized] at planned
      cases planned
  | ok comparable =>
      rw [normalized] at planned
      cases chosen : effectiveKdamonds captured.selected 0 config.kdamonds
          captured.previous.kdamonds comparable.kdamonds with
      | error error => simp [chosen, bind, Except.bind] at planned
      | ok kdamonds =>
          cases valid : validateObsoleteTargetUpdates captured.previous ⟨kdamonds⟩ with
          | error error => simp [chosen, valid, bind, Except.bind] at planned
          | ok _ =>
              simp only [chosen, valid, bind, Except.bind] at planned
              cases planned
              exact ⟨rfl, rfl, rfl, comparable, rfl, chosen⟩

theorem prepareUpdate_captured {config : DamonConfig} {indices : List Nat}
    {prepared : PreparedUpdate} (returns : Exec.Returns (prepareUpdate config indices) prepared) :
    prepared.previousSnapshot.Captured := by
  obtain ⟨captured, first, returns⟩ := Exec.returns_bind returns
  obtain ⟨_, _, env, world, after, last⟩ := Exec.returns_bind returns
  have planned : captured.plan config = .ok prepared := (Prod.ext_iff.mp last).1
  rw [(CapturedUpdate.plan_ok planned).1]
  exact captureUpdate_captured first

theorem prepareQuotaGoals_captured {kdamondIndex contextIndex schemeIndex : Nat}
    {goals : List QuotaGoalConfig} {prepared : PreparedGoals}
    (returns : Exec.Returns (prepareQuotaGoals kdamondIndex contextIndex schemeIndex goals)
      prepared) : prepared.previousSnapshot.Captured := by
  obtain ⟨_, _, returns⟩ := Exec.returns_bind returns
  obtain ⟨_, _, returns⟩ := Exec.returns_bind returns
  obtain ⟨_, _, returns⟩ := Exec.returns_bind returns
  obtain ⟨_, _, returns⟩ := Exec.returns_bind returns
  obtain ⟨snapshot, captured, returns⟩ := Exec.returns_bind returns
  obtain ⟨_, _, returns⟩ := Exec.returns_bind returns
  obtain ⟨_, _, returns⟩ := Exec.returns_bind returns
  obtain ⟨_, _, returns⟩ := Exec.returns_bind returns
  obtain ⟨_, _, returns⟩ := Exec.returns_bind returns
  obtain ⟨_, _, returns⟩ := Exec.returns_bind returns
  rw [Exec.returns_pure returns]
  exact DamonAdmin.configurationSnapshot_returns (Exec.returns_retry captured)

namespace RunningCall

theorem prepare_reads (call : RunningCall) : Confined ReadsOnly call.prepare := by
  cases call with
  | updateConfiguration config indices => exact (prepareUpdate_reads config indices).map
  | updateSchemeQuotaGoals kdamond context scheme goals =>
      exact (prepareQuotaGoals_reads kdamond context scheme goals).map

theorem prepare_sound {call : RunningCall} {transaction : Transaction}
    (returns : Exec.Returns call.prepare (some transaction)) : transaction.Sound := by
  cases call with
  | updateConfiguration config indices =>
      obtain ⟨prepared, prepares, last⟩ := Exec.returns_bind returns
      injection Exec.returns_pure last with same
      exact same ▸ PreparedUpdate.transaction_sound (prepareUpdate_captured prepares)
  | updateSchemeQuotaGoals kdamond context scheme goals =>
      obtain ⟨prepared, prepares, last⟩ := Exec.returns_bind returns
      have same := Exec.returns_pure last
      split at same
      · cases same
      · injection same with same
        exact same ▸ PreparedGoals.transaction_sound (prepareQuotaGoals_captured prepares)

/-- The memory of the session is the same when the rollback begins. -/
theorem FailsAfter.self {call : RunningCall} {env : Env} {world : World}
    {transaction : Transaction} {operation : Error} {writes : List Path} {start : World}
    (fails : call.FailsAfter env world transaction operation writes start) :
    start.self = world.self := by
  obtain ⟨prepared, prepares, forward⟩ := fails
  have sound := prepare_sound ⟨env, world, prepared, prepares⟩
  have first := (call.prepare_reads.accesses (fun _ => trivial) env world).self
  have second := (sound.forward.accesses (fun _ => trivial) env
    { prepared with journal := some [] }).self
  rw [prepares] at first
  obtain ⟨final, ran, -, rfl⟩ := collectWrites_ok forward
  rw [ran] at second
  exact second.trans first

/-- A rollback writes affected paths only, and so leaves every other captured value alone.  It
fails when one of those is not a tuned interval and differs from its captured value throughout,
unless a comparison mistakes it. -/
theorem rollback_touchesAffected (call : RunningCall) (env : Env) (world start : World)
    (transaction : Transaction) (operation : Error) (writes : List Path)
    (fails : call.FailsAfter env world transaction operation writes start) :
    ∃ events, (call.program env world).2.trace = events ++ start.trace ∧
      (∀ event ∈ events, ∀ path value, event.access = .write path value →
        path ∈ transaction.previous.pathsAffectedByWrites writes ∨
          ∃ index, path = Path.stateOf index) ∧
      ∀ entry ∈ transaction.previous.entries,
        entry.path ∉ transaction.previous.pathsAffectedByWrites writes →
        (∀ event ∈ events, ∀ path value, event.access = .write path value →
          ∀ kernel pid sys after, System.write kernel pid sys path value = .ok after →
            after.files.get? entry.path = sys.files.get? entry.path) ∧
        (entry.path ∉ world.self.staged.volatilePaths →
          (∀ moment ∈ World.history env start (transaction.rollback writes env start).2,
            moment.system.files.value? entry.path ≠ some entry.value) →
          (∀ moment ∈ World.history env start (transaction.rollback writes env start).2,
            ¬Mistakes entry.path entry.value moment) →
          ∃ failure, (call.program env world).1 = .error (.rollback operation failure)) := by
  obtain ⟨prepared, prepares, forward⟩ := id fails
  have sound := prepare_sound ⟨env, world, prepared, prepares⟩
  have apart := sound.forward.collected forward
  obtain ⟨_, events, trace, accesses⟩ := sound.rollback writes env start
  refine ⟨events, fails.program.1.trans trace, ?_, ?_⟩
  · intro event member path value access
    have permitted := (accesses event member).1
    rw [access] at permitted
    exact permitted.imp And.left id
  intro entry captured unaffected
  refine ⟨?_, ?_⟩
  · intro event member path value access kernel pid sys after written
    have configuration := sound.captured.entries entry captured
    have permitted := (accesses event member).1
    rw [access] at permitted
    rcases permitted with ⟨affected, _⟩ | ⟨index, rfl⟩
    · refine System.write_other written (fun same => unaffected (same ▸ affected)) configuration
        fun isCount => ?_
      by_contra inside
      obtain ⟨child, found⟩ := Option.isSome_iff_exists.mp (Bool.eq_true_of_not_eq_false inside)
      exact unaffected (ConfigurationSnapshot.affected_closed sound.captured.root apart isCount
        affected (indexedChild?_below found) ⟨entry, captured, rfl⟩)
    · refine System.write_other written ?_ configuration fun isCount => ?_
      · intro same
        rw [same, Path.stateOf_runtime] at configuration
        cases configuration
      · rw [Path.stateOf_noCount] at isCount
        cases isCount
  · intro untuned differs noMistake
    cases rolled : transaction.rollback writes env start with
    | mk outcome after =>
        rw [rolled] at differs noMistake
        cases outcome with
        | error failure => exact ⟨failure, fails.program.2 failure _ rolled⟩
        | ok staged =>
            have found := sound.boundary captured unaffected (fails.self ▸ untuned) rolled
            obtain ⟨moment, member, same | mistaken⟩ := found.holds_or_mistaken
            · exact absurd same (differs moment member)
            · exact absurd mistaken (noMistake moment member)

/-- The transaction, the error, the written paths and the world of a failed forward part. -/
def failure? (call : RunningCall) (env : Env) (world : World) :
    Option (Transaction × Error × List Path × World) :=
  match call.prepare env world with
  | (.ok (some transaction), prepared) =>
      match collectWrites transaction.forward env prepared with
      | (.ok (.error operation, writes), start) => some (transaction, operation, writes, start)
      | _ => none
  | _ => none

theorem failsAfter_of_failure? {call : RunningCall} {env : Env} {world start : World}
    {transaction : Transaction} {operation : Error} {writes : List Path}
    (failed : call.failure? env world = some (transaction, operation, writes, start)) :
    call.FailsAfter env world transaction operation writes start := by
  unfold failure? at failed
  split at failed
  · rename_i found prepared prepares
    split at failed
    · rename_i error written after forward
      cases failed
      exact ⟨prepared, prepares, forward⟩
    · cases failed
  · cases failed

end RunningCall

/-! ## A commit that fails -/

namespace FailingCommit

/-- New intervals for the one context of a session. -/
def call : RunningCall :=
  .updateConfiguration
    (Fixture.config [Fixture.contextConfig ⟨6000, 120000, 60000000, Fixture.intervals_ordered⟩ 0]) [0]

def vendor : Path := ["kdamonds", "0", "contexts", "0", "vendor"]

/-- A session that has captured a given text of an attribute. -/
def world (text : AttributeText) : World :=
  Fixture.session
    ((Fixture.running [Fixture.context "5000" "100000" "0"]).setText vendor text)
    (Fixture.config [Fixture.contextConfig .default 0])

/-- Another controller changes the attribute after it has been captured, and the first commit
fails. -/
def changing (text : AttributeText) : Env :=
  { Fixture.calm with
    interfere := fun clock sys =>
      if clock = 125 then { sys with files := sys.files.setText vendor text } else sys
    fault := fun clock access =>
      if clock < 240 ∧ access = .write (Path.stateOf 0) "commit" then some ⟨.transfer, 5⟩
      else none }

/-- What is found of the attribute while the failed call is rolled back. -/
def FoundWhile (changed text : AttributeText) (found : Transaction × Error × List Path × World) :
    Prop :=
  ⟨vendor, text.value⟩ ∈ found.1.previous.entries ∧
    vendor ∉ found.1.previous.pathsAffectedByWrites found.2.2.1 ∧
    vendor ∉ (world text).self.staged.volatilePaths ∧
    ∀ moment ∈ World.history (changing changed) found.2.2.2
      (found.1.rollback found.2.2.1 (changing changed) found.2.2.2).2,
      moment.system.files.value? vendor = some changed.value

instance (changed text : AttributeText) (found : Transaction × Error × List Path × World) :
    Decidable (FoundWhile changed text found) :=
  inferInstanceAs (Decidable (_ ∧ _ ∧ _ ∧ _))

end FailingCommit

open FailingCommit in
/-- A captured value that ends in a newline is mistaken for what another controller has put there
without it, and the call does not report the change. -/
theorem RunningCall.rollback_mistakesForeign :
    ∃ transaction operation writes start,
      call.FailsAfter (changing (.ofWritten "a")) (world (.ofWritten "a\n")) transaction operation
        writes start ∧
      FoundWhile (.ofWritten "a") (.ofWritten "a\n") (transaction, operation, writes, start) ∧
      (call.program (changing (.ofWritten "a")) (world (.ofWritten "a\n"))).1 =
        .error (.io "write" (Path.stateOf 0) (.os 5)) := by
  have runs : (call.failure? (changing (.ofWritten "a")) (world (.ofWritten "a\n"))).isSome = true ∧
      (∀ found ∈ call.failure? (changing (.ofWritten "a")) (world (.ofWritten "a\n")),
        FoundWhile (.ofWritten "a") (.ofWritten "a\n") found) ∧
      (call.program (changing (.ofWritten "a")) (world (.ofWritten "a\n"))).1 =
        .error (.io "write" (Path.stateOf 0) (.os 5)) := by
    decide +kernel
  obtain ⟨⟨transaction, operation, writes, start⟩, failed⟩ := Option.isSome_iff_exists.mp runs.1
  exact ⟨transaction, operation, writes, start, RunningCall.failsAfter_of_failure? failed,
    runs.2.1 _ failed, runs.2.2⟩

open FailingCommit in
/-- Where nothing is mistaken the foreign change is reported. -/
theorem RunningCall.rollback_touchesAffected_foreign :
    ∃ transaction operation writes start failure,
      call.FailsAfter (changing (.ofWritten "1")) (world (.ofWritten "0")) transaction operation
        writes start ∧
      (call.program (changing (.ofWritten "1")) (world (.ofWritten "0"))).1 =
        .error (.rollback operation failure) := by
  have runs : (call.failure? (changing (.ofWritten "1")) (world (.ofWritten "0"))).isSome = true ∧
      ∀ found ∈ call.failure? (changing (.ofWritten "1")) (world (.ofWritten "0")),
        FoundWhile (.ofWritten "1") (.ofWritten "0") found := by
    decide +kernel
  obtain ⟨⟨transaction, operation, writes, start⟩, failed⟩ := Option.isSome_iff_exists.mp runs.1
  obtain ⟨member, unaffected, untuned, changed⟩ := runs.2 _ failed
  have fails := RunningCall.failsAfter_of_failure? failed
  obtain ⟨events, -, -, entries⟩ := RunningCall.rollback_touchesAffected call _ _ start transaction
    operation writes fails
  obtain ⟨failure, returned⟩ := (entries _ member unaffected).2 untuned
    (fun moment inside same => by
      rw [changed moment inside] at same
      exact absurd same (by decide))
    fun moment _ mistaken => absurd mistaken.2.1 (by decide)
  exact ⟨transaction, operation, writes, start, failure, fails, returned⟩

end ManagedHierarchy

end DamonRs
