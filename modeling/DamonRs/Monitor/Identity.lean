import DamonRs.Monitor.Accesses

/-!
# Identity checks

A check that succeeds ends with a read of the thread identifier of its kdamond,
and that read shows the thread the session has recorded.
-/

namespace DamonRs

open Library Sysfs

/-! ## What a kdamond shows -/

namespace System

/-- The state file of a kdamond shows a state. -/
def ShowsState (system : System) (index : Nat) (state : KdamondState) : Prop :=
  ∃ line writable, system.files.get? (Path.stateOf index) = some ⟨.text line, writable⟩ ∧
    KdamondState.fromStr (Text.trim line.raw) = .ok state

/-- The file with the thread identifier of a kdamond shows a thread. -/
def ShowsThread (system : System) (index : Nat) (pid : Pid) : Prop :=
  ∃ file, system.files.get? (Path.pidOf index) = some file ∧ (Reply.content file.content).Reports pid

end System

/-! ## Checks -/

/-- The memory is unchanged and the last access read a thread of a kdamond. -/
def World.EndsReading (index : Nat) (pid : Pid) (before after : World) : Prop :=
  ∃ middle event, World.Extends (ChecksThread index) before middle ∧
    after.self = before.self ∧ after.trace = event :: middle.trace ∧
    event.ReadsPid index pid ∧ event.states = before.self.states

namespace World.EndsReading

variable {index : Nat} {pid : Pid} {before after : World}

theorem lastReported (reading : EndsReading index pid before after) :
    LastReported index pid after.trace := by
  obtain ⟨middle, event, _, _, trace, reads, _⟩ := reading
  rw [trace]
  exact lastReported_cons_read reads

theorem prepend {start : World} (first : Extends (ChecksThread index) start before)
    (reading : EndsReading index pid before after) : EndsReading index pid start after := by
  obtain ⟨middle, event, rest, self, trace, reads, states⟩ := reading
  exact ⟨middle, event, first.trans rest, self.trans first.self, trace, reads,
    states.trans (congrArg _ first.self)⟩

end World.EndsReading

section Checks

variable {index : Nat} {pid : Pid} {env : Env} {world after : World}

/-- A run of a confined program, with its outcome. -/
theorem Sysfs.Confined.extends_ {allowed : Access → Prop} {α : Type} {program : Sysfs α}
    (confined : Confined allowed program) (inspects : ∀ path, allowed (.inspect path))
    {outcome : Except Error α} (run : program env world = (outcome, after)) :
    World.Extends allowed world after := by
  have moves := confined.accesses inspects env world
  rwa [run] at moves

theorem retryBusy_pid_ok
    (run : retryBusy (DamonAdmin.kdamond index).pid env world = (.ok (some pid), after)) :
    World.EndsReading index pid world after := by
  obtain ⟨start, path, ends⟩ := Exec.retry_ends Error.isResourceBusy
    (DamonAdmin.kdamond index).pid maxRetries env world
  have failures : World.Extends (ChecksThread index) world start := by
    clear ends
    induction path with
    | refl => exact .refl world
    | tail _ last ih =>
        obtain ⟨error, _, failed⟩ := last
        exact ih.trans ((Kdamond.pid_confined (.inr rfl)).extends_ (fun _ => .inl trivial) failed)
  obtain ⟨self, event, trace, reads, states⟩ := Kdamond.pid_ok (ends.symm.trans run)
  exact ⟨start, event, failures, self.trans failures.self, trace, reads,
    states.trans (congrArg _ failures.self)⟩

/-- A state `off` is the last access of its run. -/
theorem retryBusy_state_off
    (run : retryBusy (DamonAdmin.kdamond index).state env world = (.ok .off, after)) :
    ∃ middle event, World.Extends ReadsConfiguration world middle ∧ after.self = world.self ∧
      after.trace = event :: middle.trace ∧ event.ReadsOff index := by
  obtain ⟨start, path, ends⟩ := Exec.retry_ends Error.isResourceBusy
    (DamonAdmin.kdamond index).state maxRetries env world
  have failures : World.Extends ReadsConfiguration world start := by
    clear ends
    induction path with
    | refl => exact .refl world
    | tail _ last ih =>
        obtain ⟨error, _, failed⟩ := last
        exact ih.trans ((Kdamond.state_confined index).extends_ (fun _ => trivial) failed)
  obtain ⟨self, event, trace, reads⟩ := Kdamond.state_off (ends.symm.trans run)
  exact ⟨start, event, failures, self.trans failures.self, trace, reads⟩

theorem runningThreadPid_ok
    (run : runningThreadPid (DamonAdmin.kdamond index) env world = (.ok pid, after)) :
    World.EndsReading index pid world after := by
  obtain ⟨state, middle, stateRun, rest⟩ := Exec.bind_eq_ok run
  have first := (Kdamond.state_confined index).retry.extends_ (fun _ => trivial) stateRun
  cases state with
  | off => cases rest
  | unknown name => cases rest
  | on =>
      obtain ⟨found, last, pidRun, shown⟩ := Exec.bind_eq_ok rest
      cases found with
      | none => cases shown
      | some found =>
          cases shown
          exact (retryBusy_pid_ok pidRun).prepend (first.mono fun _ => .inl)

namespace ManagedHierarchy

theorem currentPid_ok (run : currentPid index env world = (.ok pid, after)) :
    World.EndsReading index pid world after := by
  obtain ⟨found, last, pidRun, shown⟩ := Exec.bind_eq_ok run
  cases found with
  | none => cases shown
  | some found =>
      cases shown
      exact retryBusy_pid_ok pidRun

theorem requireSamePid_ok {current expected : Pid}
    (run : requireSamePid current expected env world = (.ok (), after)) :
    current = expected ∧ after = world := by
  unfold requireSamePid at run
  by_cases different : current ≠ expected
  · rw [if_pos different] at run
    cases run
  · rw [if_neg different] at run
    cases run
    exact ⟨not_not.mp different, rfl⟩

/-- The state of a kdamond as the list of states has it. -/
theorem state_eq_running {self : ManagedHierarchy} :
    self.state index = .running pid ↔ self.states[index]? = some (.running pid) := by
  unfold state
  cases self.states[index]? with
  | none => simp
  | some recorded => simp

theorem expectedRunningPid_ok (run : expectedRunningPid index env world = (.ok pid, after)) :
    world.self.states[index]? = some (.running pid) ∧ after = world := by
  obtain ⟨_, middle, valid, rest⟩ := Exec.bind_eq_ok run
  have same : middle = world := by
    obtain ⟨self, _, read, decided⟩ := Exec.bind_eq_ok valid
    cases read
    by_cases large : index ≥ world.self.states.length
    · rw [if_pos large] at decided
      cases decided
    · rw [if_neg large] at decided
      cases decided
      rfl
  subst same
  obtain ⟨self, _, read, decided⟩ := Exec.bind_eq_ok rest
  cases read
  cases recorded : middle.self.state index with
  | running expected =>
      rw [recorded] at decided
      cases decided
      exact ⟨state_eq_running.mp recorded, rfl⟩
  | staged =>
      rw [recorded] at decided
      cases decided
  | unidentifiedRunning =>
      rw [recorded] at decided
      cases decided

/-- A successful identity check read the recorded thread last. -/
theorem verifyRunningIdentityWithoutCount_ok
    (run : verifyRunningIdentityWithoutCount index env world = (.ok (), after)) :
    ∃ pid, world.self.states[index]? = some (.running pid) ∧
      World.EndsReading index pid world after := by
  obtain ⟨expected, _, expectedRun, rest⟩ := Exec.bind_eq_ok run
  obtain ⟨recorded, rfl⟩ := expectedRunningPid_ok expectedRun
  obtain ⟨current, middle, currentRun, compared⟩ := Exec.bind_eq_ok rest
  obtain ⟨rfl, rfl⟩ := requireSamePid_ok compared
  exact ⟨current, recorded, currentPid_ok currentRun⟩

theorem verifyRunningStateAndIdentityWithoutCount_ok
    (run : verifyRunningStateAndIdentityWithoutCount index env world = (.ok (), after)) :
    ∃ pid, world.self.states[index]? = some (.running pid) ∧
      World.EndsReading index pid world after := by
  obtain ⟨expected, _, expectedRun, rest⟩ := Exec.bind_eq_ok run
  obtain ⟨recorded, rfl⟩ := expectedRunningPid_ok expectedRun
  obtain ⟨current, middle, currentRun, compared⟩ := Exec.bind_eq_ok rest
  obtain ⟨rfl, rfl⟩ := requireSamePid_ok compared
  exact ⟨current, recorded, runningThreadPid_ok currentRun⟩

theorem verifyRunningIdentityOnly_ok
    (run : verifyRunningIdentityOnly index env world = (.ok (), after)) :
    ∃ pid, world.self.states[index]? = some (.running pid) ∧
      World.EndsReading index pid world after := by
  obtain ⟨_, first, valid, rest⟩ := Exec.bind_eq_ok run
  obtain ⟨_, second, counted, checked⟩ := Exec.bind_eq_ok rest
  have one : World.Extends (ChecksThread index) world first :=
    (validateKdamondIndex_confined index).extends_ (fun _ => .inl trivial) valid
  have two := one.trans ((Confined.checks verifyManagedCount_reads).extends_
    (fun _ => .inl trivial) counted)
  obtain ⟨pid, recorded, reading⟩ := verifyRunningIdentityWithoutCount_ok checked
  exact ⟨pid, two.self ▸ recorded, reading.prepend two⟩

/-- What a stop does to a kdamond, from what reading its state keeps. -/
theorem stopUnlessOff_triple {whileOn : Sysfs Unit} {pre stopped : World → Prop}
    {post : Except Error Unit → World → Prop}
    (reads : ∀ before after outcome, pre before →
      retryBusy (kdamond index).state env before = (outcome, after) →
      pre after ∧ (outcome = .ok .off → stopped after))
    (off : Exec.Triple env stopped (setState index .staged) post)
    (on : Exec.Triple env pre whileOn post)
    (failed : ∀ error world, pre world → post (.error error) world) :
    Exec.Triple env pre (stopUnlessOff index whileOn) post := by
  intro world initial
  unfold stopUnlessOff
  rw [Exec.bind_run]
  cases run : retryBusy (kdamond index).state env world with
  | mk outcome middle =>
      obtain ⟨kept, off'⟩ := reads world middle outcome initial run
      cases outcome with
      | error error => exact failed error middle kept
      | ok state =>
          cases state with
          | off => exact off middle (off' rfl)
          | on => exact on middle kept
          | unknown name => exact failed _ middle kept

/-- Stopping depends on what is recorded. -/
theorem stopOne_triple {pre : World → Prop} {post : Except Error Unit → World → Prop}
    (staged : Exec.Triple env
      (fun world => pre world ∧ world.self.state index = .staged) (requireStagedOff index) post)
    (running : ∀ expected, Exec.Triple env
      (fun world => pre world ∧ world.self.states[index]? = some (.running expected))
      (stopUnlessOff index (stopIdentified index expected)) post)
    (unidentified : Exec.Triple env
      (fun world => pre world ∧ world.self.state index = .unidentifiedRunning)
      (stopUnlessOff index (Exec.fail (.ownershipLost
        "cannot safely stop a kdamond before its kernel-thread ID was captured"))) post) :
    Exec.Triple env pre (stopOne index) post := by
  intro world initial
  unfold stopOne
  rw [Exec.bind_run, getSelf_run]
  dsimp only
  cases recorded : world.self.state index with
  | staged => exact staged world ⟨initial, recorded⟩
  | running expected => exact running expected world ⟨initial, state_eq_running.mp recorded⟩
  | unidentifiedRunning => exact unidentified world ⟨initial, recorded⟩

end ManagedHierarchy

end Checks

end DamonRs
