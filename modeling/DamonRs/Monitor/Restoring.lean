import DamonRs.Monitor.Memory
import DamonRs.Monitor.Offline
import DamonRs.Monitor.StopIsolation

/-!
# A closed session leaves what it found

Closing either finds the hierarchy as it was captured when the session began,
or restores it, and captures it once more before it reports success.  Nothing
that happens in between makes a session forget what it has to restore.
-/

namespace DamonRs

open Library Sysfs

/-- The snapshot that an opened session restores: it was taken before the first write, by the run
that opened the session. -/
structure FoundAtStart (env : Env) (sys : System) (opened : World)
    (snapshot : ConfigurationSnapshot) : Prop where
  recorded : opened.self.previous = some snapshot
  taken : ∃ begun after ready, World.Reaches ReadsOnly env (World.initial sys) begun ∧
    retryBusy DamonAdmin.configurationSnapshot env begun = (.ok snapshot, after) ∧
    World.Reaches StagesConfiguration env after ready ∧ opened = { ready with self := opened.self }

namespace FoundAtStart

variable {env : Env} {sys : System} {opened : World} {snapshot : ConfigurationSnapshot}

theorem returned (found : FoundAtStart env sys opened snapshot) :
    Exec.Returns (retryBusy DamonAdmin.configurationSnapshot) snapshot := by
  obtain ⟨begun, after, _, -, run, -⟩ := found.taken
  exact ⟨env, begun, after, run⟩

theorem root (found : FoundAtStart env sys opened snapshot) : snapshot.root = [] :=
  (DamonAdmin.configurationSnapshot_returns (Exec.returns_retry found.returned)).root

/-- Where nobody else acts, it holds the configuration before the session. -/
theorem captured (found : FoundAtStart env sys opened snapshot) (solitary : env.Solitary) :
    snapshot = ⟨[], sys.files.captured⟩ := by
  obtain ⟨begun, after, _, reads, run, -⟩ := found.taken
  have unchanged : Damon.Unchanging env (World.initial sys) begun :=
    reads.moves (.refl env) (.trans env) Damon.Unchanging.of_reads
  rw [(solitary.snapshot run).1, unchanged solitary]
  rfl

end FoundAtStart

/-! ## Beginning a session -/

section Beginning

variable {env : Env} {world after : World} {config : DamonConfig}

/-- What is observed before a staging is read. -/
theorem observeForStaging_reads {observed : Option DamonConfig}
    (run : Damon.observeForStaging env world = (.ok observed, after)) :
    World.Reaches ReadsConfiguration env world after := by
  obtain ⟨outcome, read, attempts, decided⟩ := Exec.bind_eq_ok run
  have reads : World.Reaches ReadsConfiguration env world read :=
    .of_attempt DamonAdmin.configuration_confined.retry attempts
  cases outcome with
  | ok found =>
      cases decided
      exact reads
  | error error =>
      dsimp only at decided
      split at decided
      · cases decided
        exact reads
      · cases decided

/-- A staging returns the snapshot that it took first. -/
theorem stageValidatedConfigurationLocked_ok {staged : StagedConfiguration}
    (run : Damon.stageValidatedConfigurationLocked config env world = (.ok staged, after)) :
    staged.current.fingerprint.Ordered ∧ ∃ checked taken,
      World.Reaches ReadsOnly env world checked ∧
      retryBusy DamonAdmin.configurationSnapshot env checked = (.ok staged.previous, taken) ∧
      World.Reaches StagesConfiguration env taken after := by
  obtain ⟨_, checked, checks, rest⟩ := Exec.bind_eq_ok run
  obtain ⟨previous, taken, takes, rest⟩ := Exec.bind_eq_ok rest
  have ordered := DamonAdmin.configurationSnapshot_ordered ⟨env, checked, taken, takes⟩
  have checking : World.Reaches ReadsOnly env world checked :=
    .of_run ensureHierarchyStopped_reads.retry.readsOnly checks
  obtain ⟨observed, _, observes, rest⟩ := Exec.bind_eq_ok rest
  obtain ⟨_, _, compares, rest⟩ := Exec.bind_eq_ok rest
  obtain ⟨_, ready, stopped, last⟩ := Exec.bind_eq_ok rest
  have preparing : World.Reaches StagesConfiguration env taken ready :=
    (((observeForStaging_reads observes).trans (.of_run (requireOwned_confined (.retry
      previous.valuesMatchCurrent_confined)) compares)).trans
        (.of_run ensureHierarchyStopped_reads.retry stopped)).mono fun _ => ReadsConfiguration.stages
  split at last
  · cases last
    exact ⟨ordered, checked, taken, checking, takes, preparing⟩
  · obtain ⟨outcome, middle, attempted, decided⟩ := Exec.bind_eq_ok last
    cases outcome with
    | ok current =>
        cases decided
        have staging : World.Reaches StagesConfiguration env ready after :=
          .of_attempt (stageAndVerifyConfiguration_stages config observed) attempted
        exact ⟨stageAndVerifyConfiguration_ordered
          (Exec.returns_of_attempt ⟨env, _, _, attempted⟩), checked, taken, checking, takes,
          preparing.trans staging⟩
    | error operation =>
        obtain ⟨_, _, -, failed⟩ := Exec.bind_eq_ok decided
        cases failed

/-- Taking the lock is one access, which writes nothing. -/
theorem acquire_reaches {lockPath : PathBuf} {outcome : Except Error Unit}
    (run : SessionLock.acquire lockPath env world = (outcome, after)) :
    World.Reaches ReadsOnly env world after := by
  let access : Access := .inspect lockPath.toPath
  have decided : World.Reaches ReadsOnly env (env.advance world access) after := by
    unfold SessionLock.acquire at run
    rw [Exec.bind_run, environment_run] at run
    dsimp only at run
    rw [Exec.bind_run, Exec.get_run] at run
    dsimp only at run
    rw [Exec.bind_run, perform_run] at run
    dsimp only at run
    have locks : Confined ReadsOnly (if env.lockHeld world.clock then
        Exec.fail (.sessionLockBusy lockPath.toPath) else pure () : Sysfs Unit) :=
      .ite (fun _ => .fail _) fun _ => .pure ()
    cases reply : (env.serve world (.inspect lockPath.toPath)).1 with
    | failed fault =>
        rw [reply] at run
        exact .of_run (.ite (fun _ => .fail _) fun _ => .fail _) run
    | done =>
        rw [reply] at run
        exact .of_run locks run
    | content content =>
        rw [reply] at run
        exact .of_run locks run
  exact (World.Reaches.inspect world _).trans decided

/-- A managed hierarchy is owned with the snapshot that was taken first. -/
theorem managedHierarchy_ok {damon : Damon} {sys : System} {opened : World}
    (run : damon.managedHierarchy config env (World.initial sys) = (.ok (), opened)) :
    opened.self.ownsHierarchy = true ∧ ∃ snapshot, FoundAtStart env sys opened snapshot ∧
      Remembers (some snapshot) opened := by
  obtain ⟨_, _, ⟨⟩, rest⟩ := Exec.bind_eq_ok run
  obtain ⟨_, validated, validates, rest⟩ := Exec.bind_eq_ok rest
  obtain ⟨_, locked, locks, rest⟩ := Exec.bind_eq_ok rest
  obtain ⟨staged, ready, stages, takes⟩ := Exec.bind_eq_ok rest
  obtain ⟨ordered, checked, taken, checks, captures, staging⟩ :=
    stageValidatedConfigurationLocked_ok stages
  have start : validated = World.initial sys := (Prod.ext_iff.mp validates).2.symm
  subst start
  obtain ⟨outcome, verified, verifies, decided⟩ := Exec.bind_eq_ok takes
  have verifying : World.Reaches StagesConfiguration env ready verified :=
    .of_attempt (StagedOwnership.verify_reads _).stages verifies
  cases outcome with
  | error operation =>
      obtain ⟨_, _, -, failed⟩ := Exec.bind_eq_ok decided
      cases failed
  | ok value =>
      cases decided
      exact ⟨rfl, staged.previous, ⟨rfl, checked, taken, verified,
        (acquire_reaches locks).trans checks, captures, staging.trans verifying, rfl⟩,
        fun _ => rfl, StagedOwnership.new_ordered ordered config⟩

/-- The values of a receipt become entries in order. -/
theorem ConfigurationSnapshot.fromWritableValues_ordered {values : List WritableConfigurationValue}
    {snapshot : ConfigurationSnapshot}
    (made : ConfigurationSnapshot.fromWritableValues values = .ok snapshot) :
    snapshot.fingerprint.Ordered := by
  unfold ConfigurationSnapshot.fromWritableValues at made
  split at made
  · cases made
  dsimp only [bind, Except.bind, pure, Except.pure] at made
  split at made
  · cases made
  · rename_i once
    cases made
    have distinct : (((values.map fun value => ConfigurationEntry.mk value.path.toPath
        value.value).insertionSort fun first second => first.path ≤ second.path).map
          ConfigurationEntry.path).Nodup := by
      simpa using once
    have sorted := List.pairwise_insertionSort
      (fun first second : ConfigurationEntry => first.path ≤ second.path)
      (values.map fun value => ConfigurationEntry.mk value.path.toPath value.value)
    exact (List.pairwise_map.mpr sorted).imp₂
      (fun _ _ below different => lt_of_le_of_ne below different) distinct

/-- An attached hierarchy has nothing to restore. -/
theorem openManaged_ok {damon : Damon} {receipt : PersistentReceipt}
    (run : receipt.openManaged damon env world = (.ok (), after)) : Remembers none after := by
  obtain ⟨_, _, -, rest⟩ := Exec.bind_eq_ok run
  obtain ⟨_, _, -, rest⟩ := Exec.bind_eq_ok rest
  obtain ⟨configuration, _, made, rest⟩ := Exec.bind_eq_ok rest
  obtain ⟨_, _, -, rest⟩ := Exec.bind_eq_ok rest
  obtain ⟨states, ready, -, rest⟩ := Exec.bind_eq_ok rest
  have ordered := ConfigurationSnapshot.fromWritableValues_ordered (Prod.ext_iff.mp made).1
  obtain ⟨_, taken, takes, rest⟩ := Exec.bind_eq_ok rest
  obtain ⟨outcome, checked, checks, decided⟩ := Exec.bind_eq_ok rest
  cases takes
  have begins : Remembers none { ready with self :=
      ⟨none, .fromParts configuration (receipt.volatilePaths.map PathBuf.toPath)
        receipt.kdamondCount, states, true⟩ } :=
    ⟨fun _ => rfl, ordered, sortDedup_strict _⟩
  have kept := Exec.keeps_attempt ManagedHierarchy.verifyOwnedState_readsOnly.remembers env _ begins
  rw [checks] at kept
  cases outcome with
  | ok value =>
      cases decided
      exact kept
  | error error =>
      obtain ⟨_, _, -, failed⟩ := Exec.bind_eq_ok decided
      cases failed

/-- A session begins with something to remember. -/
theorem SessionStart.program_ok {damon : Damon} {start : SessionStart} {sys : System}
    {opened : World} (run : start.program damon env (World.initial sys) = (.ok (), opened)) :
    ∃ found, Remembers found opened := by
  cases start with
  | managed config =>
      obtain ⟨-, snapshot, -, remembers⟩ := managedHierarchy_ok run
      exact ⟨some snapshot, remembers⟩
  | attached receipt => exact ⟨none, openManaged_ok run⟩

end Beginning

/-! ## Closing it -/

section Closing

variable {env : Env} {world after : World} {snapshot : ConfigurationSnapshot}

/-- A comparison that holds is a capture of the same snapshot. -/
theorem matchesCurrent_captures (root : snapshot.root = [])
    (run : retryBusy snapshot.matchesCurrent env world = (.ok true, after)) :
    ∃ last, DamonAdmin.configurationSnapshot env last = (.ok snapshot, after) := by
  obtain ⟨last, -, ends⟩ := Exec.retry_ends Error.isResourceBusy snapshot.matchesCurrent
    maxRetries env world
  obtain ⟨current, middle, captured, compared⟩ := Exec.bind_eq_ok (ends.symm.trans run)
  obtain ⟨same, rfl⟩ := Prod.mk.inj compared
  have equal : current = snapshot.fingerprint := of_decide_eq_true (Except.ok.inj same)
  rw [root] at captured
  refine ⟨last, ?_⟩
  unfold DamonAdmin.configurationSnapshot ConfigurationSnapshot.capture
  rw [Exec.bind_run_ok captured, equal, ← root]
  rfl

/-- A restoration ends with a capture of the restored snapshot. -/
theorem restoreConfiguration_captures (root : snapshot.root = [])
    (run : restoreConfiguration snapshot env world = (.ok (), after)) :
    ∃ last, DamonAdmin.configurationSnapshot env last = (.ok snapshot, after) := by
  obtain ⟨_, _, -, rest⟩ := Exec.bind_eq_ok run
  obtain ⟨_, _, -, rest⟩ := Exec.bind_eq_ok rest
  obtain ⟨_, _, -, compares⟩ := Exec.bind_eq_ok rest
  obtain ⟨same, middle, compared, decided⟩ := Exec.bind_eq_ok compares
  cases same with
  | false => cases decided
  | true =>
      cases decided
      exact matchesCurrent_captures root compared

namespace ManagedHierarchy

/-- Closing captures the hierarchy last, and finds what the session remembers. -/
theorem closeInner_captures (root : snapshot.root = []) (remembers : Remembers (some snapshot) world)
    (owned : world.self.ownsHierarchy = true)
    (run : closeInner env world = (.ok (), after)) :
    ∃ last found, DamonAdmin.configurationSnapshot env last = (.ok snapshot, found) ∧
      after = { found with self := { found.self with ownsHierarchy := false } } := by
  unfold closeInner at run
  rw [Exec.bind_run, getSelf_run] at run
  dsimp only at run
  rw [if_neg (by simp [owned]), remembers.previous owned] at run
  obtain ⟨_, _, -, rest⟩ := Exec.bind_eq_ok run
  obtain ⟨_, _, -, rest⟩ := Exec.bind_eq_ok rest
  obtain ⟨same, middle, compared, decided⟩ := Exec.bind_eq_ok rest
  cases same with
  | true =>
      cases decided
      obtain ⟨last, captures⟩ := matchesCurrent_captures root compared
      exact ⟨last, middle, captures, rfl⟩
  | false =>
      obtain ⟨_, restored, restores, disowned⟩ := Exec.bind_eq_ok decided
      cases disowned
      obtain ⟨last, captures⟩ := restoreConfiguration_captures root restores
      exact ⟨last, restored, captures, rfl⟩

/-- Dropping a hierarchy that is not owned only forgets it. -/
theorem drop_disowned (disowned : world.self.ownsHierarchy = false) :
    drop env world = (.ok (), { world with self := .released }) := by
  have nothing : closeInner env world = (.ok (), world) := by
    unfold closeInner
    rw [Exec.bind_run, getSelf_run]
    dsimp only
    rw [if_pos (by simp [disowned])]
    rfl
  unfold drop
  rw [Exec.bind_run, getSelf_run]
  dsimp only
  split
  · rw [Exec.bind_run, Exec.attempt_run, nothing]
    rfl
  · rfl

theorem close_captures (root : snapshot.root = []) (remembers : Remembers (some snapshot) world)
    (owned : world.self.ownsHierarchy = true) (run : close env world = (.ok (), after)) :
    ∃ last found, DamonAdmin.configurationSnapshot env last = (.ok snapshot, found) ∧
      after = { found with self := .released } := by
  cases inner : closeInner env world with
  | mk outcome middle =>
      rw [close_run inner] at run
      obtain ⟨rfl, rfl⟩ := Prod.mk.inj run
      obtain ⟨last, found, captures, rfl⟩ := closeInner_captures root remembers owned inner
      refine ⟨last, found, captures, ?_⟩
      rw [drop_disowned rfl]

end ManagedHierarchy

end Closing

/-! ## Whole sessions -/

section Sessions

variable {damon : Damon} {config : DamonConfig} {operations : List SessionOp} {env : Env}
  {sys : System} {opened ended closed : World} {outcome : Except Error Unit}

/-- What a session remembers after any operations. -/
theorem runOperations_found (started : damon.managedHierarchy config env (World.initial sys) =
      (.ok (), opened)) (ran : runOperations damon operations env opened = (outcome, ended)) :
    ∃ snapshot, FoundAtStart env sys opened snapshot ∧ Remembers (some snapshot) ended := by
  obtain ⟨-, snapshot, found, remembers⟩ := managedHierarchy_ok started
  have kept : Remembers (some snapshot) (runOperations damon operations env opened).2 :=
    runOperations_remembers damon operations env opened remembers
  rw [ran] at kept
  exact ⟨snapshot, found, kept⟩

/-- Whatever the environment does, whichever accesses fail and whatever a session did: a close
that reports success has captured, as its last accesses, the very snapshot that the session took
before its first write. -/
theorem close_findsStart (started : damon.managedHierarchy config env (World.initial sys) =
      (.ok (), opened)) (ran : runOperations damon operations env opened = (outcome, ended))
    (owned : ended.self.ownsHierarchy = true)
    (closes : ManagedHierarchy.close env ended = (.ok (), closed)) :
    ∃ snapshot, FoundAtStart env sys opened snapshot ∧
      ∃ last found, DamonAdmin.configurationSnapshot env last = (.ok snapshot, found) ∧
        closed = { found with self := .released } := by
  obtain ⟨snapshot, found, remembers⟩ := runOperations_found started ran
  exact ⟨snapshot, found, ManagedHierarchy.close_captures found.root remembers owned closes⟩

/-- Where nobody else acts, what is captured last is what was there before the session. -/
theorem FoundAtStart.restored {snapshot : ConfigurationSnapshot}
    (found : FoundAtStart env sys opened snapshot) (solitary : env.Solitary)
    (remembers : Remembers (some snapshot) ended) (owned : ended.self.ownsHierarchy = true)
    (closes : ManagedHierarchy.close env ended = (.ok (), closed)) :
    closed.sys.files.captured = sys.files.captured := by
  obtain ⟨last, current, captures, rfl⟩ :=
    ManagedHierarchy.close_captures found.root remembers owned closes
  have same := (DamonAdmin.configurationSnapshot_confined.readsOnly.looked solitary.still
    captures).sys
  have retried : retryBusy DamonAdmin.configurationSnapshot env last = (.ok snapshot, current) :=
    Exec.retry_run_ok captures maxRetries
  have now := (solitary.snapshot retried).1
  rw [found.captured solitary] at now
  have equal : sys.files.captured = last.sys.files.captured := by injection now
  dsimp only
  rw [same, equal]

/-- Where nobody else acts, whichever writes of the session failed, a close that reports success
leaves every writable value as it was before the session, and no writable path more or less. -/
theorem close_restoresConfiguration (solitary : env.Solitary)
    (started : damon.managedHierarchy config env (World.initial sys) = (.ok (), opened))
    (ran : runOperations damon operations env opened = (outcome, ended))
    (owned : ended.self.ownsHierarchy = true)
    (closes : ManagedHierarchy.close env ended = (.ok (), closed)) :
    closed.sys.files.captured = sys.files.captured := by
  obtain ⟨snapshot, found, remembers⟩ := runOperations_found started ran
  exact found.restored solitary remembers owned closes

end Sessions

/-- In every state that a session reaches, whatever happens to the hierarchy and whichever
accesses fail, the searches of its ownership record find exactly what it lists. -/
theorem session_searchable {damon : Damon} {start : SessionStart} {operations : List SessionOp}
    {env : Env} {sys : System} {opened ended : World} {outcome : Except Error Unit}
    (started : start.program damon env (World.initial sys) = (.ok (), opened))
    (ran : runOperations damon operations env opened = (outcome, ended)) :
    Searchable ended.self.staged.configuration.entries ConfigurationEntry.path ∧
      Searchable ended.self.staged.volatilePaths id := by
  obtain ⟨found, remembers⟩ := SessionStart.program_ok started
  have kept : Remembers found (runOperations damon operations env opened).2 :=
    runOperations_remembers damon operations env opened remembers
  rw [ran] at kept
  refine ⟨.of_ordered kept.record.entries, .of_ordered ?_⟩
  rw [List.map_id]
  exact kept.record.volatilePaths

/-! ## A session that could not start its kdamond -/

namespace CloseFixture

/-- A stopped kdamond with one context. -/
def attributes : List (Path × String × Bool) :=
  (["kdamonds", "nr_kdamonds"], "1", true) ::
    Fixture.kdamond 0 "off" "-1" (Fixture.context "5000" "100000" "0")

/-- Each child is created with the attributes of the first, and no kdamond starts. -/
def env : Env :=
  { Fixture.calm with
    kernel := ⟨fun directory _ => attributes.filterMap fun (path, value, writable) =>
      (stripPrefix? (directory ++ ["0"]) path).map fun inner => (inner, .ofWritten value, writable)⟩
    fault := fun _ access =>
      if access = .write (Path.stateOf 0) "on" then some ⟨.transfer, eperm⟩ else none }

theorem solitary : env.Solitary := by
  refine ⟨fun _ _ => rfl, fun clock access reads => ?_⟩
  cases access with
  | write path value => exact reads.elim
  | inspect path => rfl
  | read path => rfl
  | compare path => rfl

def sys : System := .settled (.ofAttributes attributes)

def config : DamonConfig :=
  Fixture.config [Fixture.contextConfig ⟨6000, 120000, 60000000, Fixture.intervals_ordered⟩
    0]

def opened : World := (Fixture.damon.managedHierarchy config).leads env (World.initial sys)

def ended : World := (runOperations Fixture.damon [.startAll]).leads env opened

def closed : World := ManagedHierarchy.close.leads env ended

/-- The session begins, it still owns the hierarchy where its kdamond did not start, and it
closes. -/
theorem session_succeeds :
    (Fixture.damon.managedHierarchy config env (World.initial sys)).1 = .ok () ∧
      ended.self.ownsHierarchy = true ∧ (ManagedHierarchy.close env ended).1 = .ok () := by
  decide +kernel

theorem started : Fixture.damon.managedHierarchy config env (World.initial sys) =
    (.ok (), opened) :=
  Exec.run_of_outcome session_succeeds.1

theorem ran : runOperations Fixture.damon [.startAll] env opened =
    ((runOperations Fixture.damon [.startAll] env opened).1, ended) :=
  Exec.run_of_outcome rfl

theorem closes : ManagedHierarchy.close env ended = (.ok (), closed) :=
  Exec.run_of_outcome session_succeeds.2.2

end CloseFixture

open CloseFixture in
theorem close_findsStart_unstarted :
    ∃ snapshot, FoundAtStart env sys opened snapshot ∧
      ∃ last found, DamonAdmin.configurationSnapshot env last = (.ok snapshot, found) ∧
        closed = { found with self := .released } :=
  close_findsStart started ran session_succeeds.2.1 closes

open CloseFixture in
theorem close_restoresConfiguration_unstarted : closed.sys.files.captured = sys.files.captured :=
  close_restoresConfiguration solitary started ran session_succeeds.2.1 closes

open CloseFixture in
theorem session_searchable_unstarted :
    Searchable ended.self.staged.configuration.entries ConfigurationEntry.path ∧
      Searchable ended.self.staged.volatilePaths id :=
  session_searchable (show (SessionStart.managed config).program Fixture.damon env
    (World.initial sys) = (.ok (), opened) from started) ran

end DamonRs
