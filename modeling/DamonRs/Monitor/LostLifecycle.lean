import DamonRs.Monitor.LostThreads

/-!
# Starting, stopping and closing with lost threads

A kdamond is stopped only after its recorded thread was read again, and the preceding hierarchy
is restored only after every kdamond was stopped or seen off.
-/

namespace DamonRs

open Library Sysfs

namespace ManagedHierarchy

/-! ## The recorded threads -/

/-- A lost thread belongs to the hierarchy, and no other is recorded in its place. -/
def NotReplaced (index : Nat) (pid : Pid) (states : List KdamondSessionState) : Prop :=
  index < states.length ∧ ∀ other, states[index]? = some (.running other) → other = pid

theorem notReplaced_agreement : Agreement NotReplaced where
  recorded := by
    intro index pid states recorded
    refine ⟨(List.getElem?_eq_some_iff.mp recorded).1, fun other found => ?_⟩
    have same := Option.some.inj (recorded.symm.trans found)
    injection same with same
    exact same.symm
  unique := fun agreed recorded => agreed.2 _ recorded

section Lifecycle

variable {excuse : Event → Prop} {index : Nat}

theorem setState_guarded (other : Nat) {state : KdamondSessionState}
    (unknown : ∀ pid, state ≠ .running pid) :
    Exec.Keeps (Guarded excuse NotReplaced index) (setState other state) := by
  intro env world guarded
  refine ⟨guarded.safe, fun pid lost => ?_⟩
  obtain ⟨inside, agreed⟩ := guarded.lost pid lost
  refine ⟨by simpa [setState] using inside, fun found running => ?_⟩
  have entry : (world.self.states.set other state)[index]? = some (.running found) := running
  rw [List.getElem?_set] at entry
  split at entry
  · split at entry
    · injection entry with same
      exact absurd same (unknown found)
    · cases entry
  · exact agreed found entry

theorem writesNot_command {other : Nat} (different : other ≠ index)
    (command : KdamondCommand) :
    Confined (WritesNot index) (retryBusy ((kdamond other).command command)) := by
  refine .retry (Kdamond.command_confined other command fun below => different ?_)
  obtain ⟨rest, same⟩ := below
  simp only [Path.stateOf, DamonAdmin.kdamond, List.cons_append, List.nil_append,
    List.cons.injEq] at same
  exact Path.indexName_injective same.2.1.symm

theorem readsState_guarded (other : Nat) :
    Exec.Keeps (Guarded excuse NotReplaced index) (retryBusy (kdamond other).state) :=
  (Kdamond.state_confined other).retry.readsOnly.guardedReads notReplaced_agreement

theorem readsState_clear (other : Nat) :
    Exec.Keeps (Clear excuse index) (retryBusy (kdamond other).state) :=
  (Kdamond.state_confined other).retry.clearReads

/-- Reading a state changes no record. -/
theorem readsState_states {env : Env} {before after : World} {other : Nat}
    {outcome : Except Error KdamondState}
    (run : retryBusy (kdamond other).state env before = (outcome, after)) :
    after.self = before.self :=
  ((Kdamond.state_confined other).retry.extends_ (fun _ => trivial) run).self

/-- What follows on the identification of a kdamond that is stopped. -/
def stopRecorded (other : Nat) : Sysfs Unit := do
  retryBusy ((kdamond other).command .off)
  match ← retryBusy (kdamond other).state with
  | .off => setState other .staged
  | .on => Exec.fail (.ownershipLost "the kdamond restarted while it was being stopped")
  | .unknown state => Exec.fail (.unexpectedKdamondState state)

theorem stopIdentified_eq (other : Nat) (expected : Pid) :
    stopIdentified other expected = (currentPid other >>= fun current =>
      requireSamePid current expected >>= fun _ => stopRecorded other) := rfl

theorem stopRecorded_clear (other : Nat) :
    Exec.Keeps (Clear excuse index) (stopRecorded other) := by
  refine Exec.keeps_bind (command_clear other .off) fun _ => ?_
  refine Exec.keeps_bind (readsState_clear other) fun state => ?_
  cases state with
  | off => exact modifySelf_clear _
  | on => exact Exec.keeps_fail _
  | unknown name => exact Exec.keeps_fail _

theorem stopRecorded_guarded {other : Nat} (different : other ≠ index) :
    Exec.Keeps (Guarded excuse NotReplaced index) (stopRecorded other) := by
  refine Exec.keeps_bind (Accesses.guarded notReplaced_agreement
    ((writesNot_command different .off).accesses WritesNot.inspects)) fun _ => ?_
  refine Exec.keeps_bind (readsState_guarded other) fun state => ?_
  cases state with
  | off => exact setState_guarded other (by simp)
  | on => exact Exec.keeps_fail _
  | unknown name => exact Exec.keeps_fail _

/-- Stopping a kdamond by its recorded thread finds that thread, or fails. -/
theorem stopIdentified_settles {env : Env} {expected : Pid} :
    Exec.Triple env
      (fun world => Guarded excuse NotReplaced index world ∧
        world.self.states[index]? = some (.running expected))
      (stopIdentified index expected) (Settles excuse NotReplaced index) := by
  rintro world ⟨guarded, recorded⟩
  have reads : Guarded excuse NotReplaced index (currentPid index env world).2 :=
    (currentPid_checks index).threadReadsOnly.guardedReads notReplaced_agreement env world guarded
  rw [stopIdentified_eq, Exec.bind_run]
  cases run : currentPid index env world with
  | mk outcome middle =>
      rw [run] at reads
      cases outcome with
      | error error => exact reads
      | ok current =>
          by_cases same : current = expected
          · subst same
            have clear := guarded.reading notReplaced_agreement recorded (currentPid_ok run)
            have proceeds : Proceeds excuse NotReplaced index
                (requireSamePid current current >>= fun _ => stopRecorded index) :=
              (Proceeds.ite (.fail _) (.pure ())).bind fun _ =>
                Exec.Keeps.proceeds (stopRecorded_clear index)
            exact proceeds env middle clear
          · have stops : requireSamePid current expected = Exec.fail threadChanged := if_pos same
            simp only [stops]
            exact reads

theorem stopIdentified_guarded {other : Nat} (different : other ≠ index) (expected : Pid) :
    Exec.Keeps (Guarded excuse NotReplaced index) (stopIdentified other expected) := by
  rw [stopIdentified_eq]
  refine Exec.keeps_bind ((currentPid_checks other).threadReadsOnly.guardedReads
    notReplaced_agreement) fun current => ?_
  exact Exec.keeps_bind (Exec.keeps_ite (Exec.keeps_fail _) (Exec.keeps_pure ())) fun _ =>
    stopRecorded_guarded different

theorem stopIdentified_clear {other : Nat} (different : other ≠ index) (expected : Pid) :
    Exec.Keeps (Clear excuse index) (stopIdentified other expected) := by
  rw [stopIdentified_eq]
  refine Exec.keeps_bind ((currentPid_checks other).clearChecks different) fun current => ?_
  exact Exec.keeps_bind (Exec.keeps_ite (Exec.keeps_fail _) (Exec.keeps_pure ())) fun _ =>
    stopRecorded_clear other

/-- Stopping writes nothing below a kdamond that may be lost. -/
theorem stopOne_guarded (other : Nat) :
    Exec.Keeps (Guarded excuse NotReplaced index) (stopOne other) := by
  intro env
  have forgets : Exec.Keeps (Guarded excuse NotReplaced index) (setState other .staged) :=
    setState_guarded other (by simp)
  show Exec.Triple env (Guarded excuse NotReplaced index) (stopOne other)
    fun _ => Guarded excuse NotReplaced index
  refine stopOne_triple (fun world held => ?_) (fun expected => ?_) ?_
  · exact (requireStagedOff_reads other).readsOnly.guardedReads notReplaced_agreement env world
      held.1
  · refine stopUnlessOff_triple (fun before after outcome held run => ?_) (forgets.triple env) ?_ fun _ _ held => held.1
    · have kept := ((readsState_guarded other).triple env).run held.1 run
      exact ⟨⟨kept, by rw [readsState_states run]; exact held.2⟩, fun _ => kept⟩
    · by_cases same : other = index
      · subst same
        exact stopIdentified_settles.weaken (fun _ held => held) fun _ _ settled => settled.guarded
      · exact fun world held => stopIdentified_guarded same expected env world held.1
  · refine stopUnlessOff_triple (fun before after outcome held run => ?_) (forgets.triple env) (fun world held => held.1)
      fun _ _ held => held.1
    have kept := ((readsState_guarded other).triple env).run held.1 run
    exact ⟨⟨kept, by rw [readsState_states run]; exact held.2⟩, fun _ => kept⟩

/-- From where no thread is lost, a successful stop leaves none lost. -/
theorem stopOne_proceeds (other : Nat) :
    Proceeds excuse NotReplaced index (stopOne other) := by
  intro env
  have forgets : Proceeds excuse NotReplaced index (setState other .staged) :=
    Exec.Keeps.proceeds (modifySelf_clear _)
  refine stopOne_triple (fun world held => ?_) (fun expected => ?_) ?_
  · exact (requireStagedOff_reads other).proceedsReads env world held.1
  · refine stopUnlessOff_triple (fun before after outcome held run => ?_) (forgets env) ?_ fun _ _ held => held.1.guarded
    · have kept := ((readsState_clear other).triple env).run held.1 run
      exact ⟨⟨kept, by rw [readsState_states run]; exact held.2⟩, fun _ => kept⟩
    · by_cases same : other = index
      · subst same
        exact stopIdentified_settles.weaken (fun _ held => ⟨held.1.guarded, held.2⟩)
          fun _ _ settled => settled
      · exact fun world held =>
          Exec.Keeps.proceeds (stopIdentified_clear same expected) env world held.1
  · refine stopUnlessOff_triple (fun before after outcome held run => ?_) (forgets env)
      (fun world held => held.1.guarded) fun _ _ held => held.1.guarded
    have kept := ((readsState_clear other).triple env).run held.1 run
    exact ⟨⟨kept, by rw [readsState_states run]; exact held.2⟩, fun _ => kept⟩

/-! ### A kdamond that was seen off -/

section SeenOff

variable (seen : ∀ event : Event, event.ReadsOff index → excuse event)
include seen

/-- Reading the state `off` excuses every lost thread. -/
theorem guarded_readsOff {env : Env} {before after : World}
    (guarded : Guarded excuse NotReplaced index before)
    (run : retryBusy (kdamond index).state env before = (.ok .off, after)) :
    Clear excuse index after := by
  obtain ⟨middle, event, first, _, trace, reads⟩ := retryBusy_state_off run
  have between := guarded.extends_ notReplaced_agreement
    (first.mono fun _ reads => reads.readsOnly.writesNot)
  refine ⟨fun pid => ?_, fun pid lost => ?_⟩
  · rw [trace]
    refine ⟨fun writes => ?_, between.safe pid⟩
    rw [reads.access] at writes
    exact writes.elim
  · rw [trace] at lost
    rcases lost with finds | ⟨_, _, missed⟩
    · have same := reads.access.symm.trans finds.access
      injection same with same
      simp [Path.stateOf, Path.pidOf] at same
    · exact missed (seen event reads)

theorem requireStagedOff_verifies :
    Verifies excuse NotReplaced index (requireStagedOff index) := by
  intro env world guarded
  have reads : Guarded excuse NotReplaced index (requireStagedOff index env world).2 :=
    (requireStagedOff_reads index).readsOnly.guardedReads notReplaced_agreement env world guarded
  cases run : requireStagedOff index env world with
  | mk outcome final =>
      rw [run] at reads
      cases outcome with
      | error error => exact reads
      | ok value =>
          obtain ⟨state, middle, stateRun, shown⟩ := Exec.bind_eq_ok run
          cases state with
          | off =>
              cases shown
              exact guarded_readsOff seen guarded stateRun
          | on => cases shown
          | unknown name => cases shown

/-- Where `off` excuses, a successful stop leaves nothing lost. -/
theorem stopOne_verifies : Verifies excuse NotReplaced index (stopOne index) := by
  intro env
  have forgets : Proceeds excuse NotReplaced index (setState index .staged) :=
    Exec.Keeps.proceeds (modifySelf_clear _)
  refine stopOne_triple (fun world held => ?_) (fun expected => ?_) ?_
  · exact requireStagedOff_verifies seen env world held.1
  · refine stopUnlessOff_triple (fun before after outcome held run => ?_) (forgets env)
      (stopIdentified_settles.weaken (fun _ held => held) fun _ _ settled => settled)
      fun _ _ held => held.1
    have kept := ((readsState_guarded index).triple env).run held.1 run
    refine ⟨⟨kept, by rw [readsState_states run]; exact held.2⟩, fun off => ?_⟩
    exact guarded_readsOff seen held.1 (off ▸ run)
  · refine stopUnlessOff_triple (fun before after outcome held run => ?_) (forgets env)
      (fun world held => held.1) fun _ _ held => held.1
    have kept := ((readsState_guarded index).triple env).run held.1 run
    refine ⟨⟨kept, by rw [readsState_states run]; exact held.2⟩, fun off => ?_⟩
    exact guarded_readsOff seen held.1 (off ▸ run)

end SeenOff

/-! ### Stopping several kdamonds -/

theorem verifyAndStop_guarded (other : Nat) :
    Exec.Keeps (Guarded excuse NotReplaced index) (verifyAndStop other) :=
  Exec.keeps_bind (fun _ _ guarded => guarded) fun self => Exec.keeps_bind
    ((self.staged.verifyKdamondConfiguration_reads other).readsOnly.guardedReads
      notReplaced_agreement) fun _ => stopOne_guarded other

theorem verifyAndStop_proceeds (other : Nat) :
    Proceeds excuse NotReplaced index (verifyAndStop other) :=
  Proceeds.getSelf fun self =>
    (self.staged.verifyKdamondConfiguration_reads other).proceedsReads.bind fun _ =>
      stopOne_proceeds other

theorem verifyAndStop_verifies (seen : ∀ event : Event, event.ReadsOff index → excuse event) :
    Verifies excuse NotReplaced index (verifyAndStop index) :=
  Verifies.after (fun _ _ guarded => guarded) fun self => Verifies.after
    ((self.staged.verifyKdamondConfiguration_reads index).readsOnly.guardedReads
      notReplaced_agreement) fun _ => stopOne_verifies seen

theorem reportFirst_guarded (first : Option Error) :
    Exec.Keeps (Guarded excuse NotReplaced index) (reportFirst first) := by
  cases first with
  | none => exact Exec.keeps_pure ()
  | some error => exact Exec.keeps_fail error

theorem rollbackStartedEach_guarded (first : Option Error) (indices : List Nat) :
    Exec.Keeps (Guarded excuse NotReplaced index) (rollbackStartedEach first indices) := by
  induction indices generalizing first with
  | nil => exact Exec.keeps_pure first
  | cons other rest ih =>
      refine Exec.keeps_bind (fun _ _ guarded => guarded) fun self => Exec.keeps_ite (ih first) ?_
      exact Exec.keeps_bind (Exec.keeps_attempt (verifyAndStop_guarded other)) fun outcome => ih _

theorem rollbackStarted_guarded :
    Exec.Keeps (Guarded excuse NotReplaced index) rollbackStarted := by
  refine Exec.keeps_bind (fun _ _ guarded => guarded) fun self =>
    Exec.keeps_ite (Exec.keeps_pure ()) ?_
  refine Exec.keeps_bind (self.staged.verifyCount_reads.readsOnly.guardedReads
    notReplaced_agreement) fun _ => ?_
  exact Exec.keeps_bind (rollbackStartedEach_guarded none _) fun first => reportFirst_guarded first

theorem stopEach_guarded (first : Option Error) (indices : List Nat) :
    Exec.Keeps (Guarded excuse NotReplaced index) (stopEach first indices) := by
  induction indices generalizing first with
  | nil => exact Exec.keeps_pure first
  | cons other rest ih =>
      refine Exec.keeps_bind (fun _ _ guarded => guarded) fun self => Exec.keeps_bind
        (Exec.keeps_attempt (self.staged.verifyCount_reads.readsOnly.guardedReads
          notReplaced_agreement)) fun outcome => ?_
      cases outcome with
      | error error => exact Exec.keeps_pure _
      | ok value =>
          exact Exec.keeps_bind (Exec.keeps_attempt (verifyAndStop_guarded other))
            fun outcome => ih _

theorem stopAll_guarded : Exec.Keeps (Guarded excuse NotReplaced index) stopAll := by
  refine Exec.keeps_bind (fun _ _ guarded => guarded) fun self =>
    Exec.keeps_ite (Exec.keeps_pure ()) ?_
  refine Exec.keeps_bind (self.staged.verifyCount_reads.readsOnly.guardedReads
    notReplaced_agreement) fun _ => ?_
  refine Exec.keeps_bind (stopEach_guarded none _) fun first => ?_
  exact Exec.keeps_bind (reportFirst_guarded first) fun _ =>
    verifyStaged_reads.readsOnly.guardedReads notReplaced_agreement

/-! ### Starting -/

/-- Where no thread is recorded, reading finds none replaced. -/
theorem clear_unrecorded {before after : World} (clear : Clear excuse index before)
    (unrecorded : ∀ pid, before.self.states[index]? ≠ some (.running pid))
    (extends_ : World.Extends ReadsOnly before after) : Clear excuse index after := by
  have kept := extends_.induct
    (fun trace => ∀ pid, NoWriteWhileLost excuse index pid trace ∧
      ¬LostAs excuse index pid trace)
    (fun pid => ⟨clear.safe pid, clear.found pid⟩)
    (fun event earlier _ states holds pid => by
      refine ⟨⟨fun _ => (holds pid).2, (holds pid).1⟩, fun lost => ?_⟩
      rcases lost with finds | ⟨before, _⟩
      · exact unrecorded pid (states ▸ finds.recorded)
      · exact (holds pid).2 before)
  exact ⟨fun pid => (kept pid).1, fun pid => (kept pid).2⟩

/-- The thread of a started kdamond is read while none is recorded. -/
theorem identifyStarted_proceeds (other : Nat) :
    Proceeds excuse NotReplaced index (setState other .unidentifiedRunning >>= fun _ =>
      runningThreadPid (kdamond other)) := by
  have forgets : Exec.Keeps (Clear excuse index) (setState other .unidentifiedRunning) :=
    modifySelf_clear _
  by_cases same : other = index
  · subst same
    refine Exec.Keeps.proceeds fun env world clear => ?_
    have unrecorded : ∀ pid,
        (setState other .unidentifiedRunning env world).2.self.states[other]? ≠
          some (.running pid) := by
      intro pid running
      have entry : (world.self.states.set other .unidentifiedRunning)[other]? =
          some (.running pid) := running
      rw [List.getElem?_set] at entry
      split at entry
      · split at entry <;> cases entry
      · contradiction
    exact clear_unrecorded (forgets env world clear) unrecorded
      ((runningThreadPid_checks other).threadReadsOnly.accesses (fun _ => trivial) env _)
  · exact (Exec.Keeps.proceeds forgets).bind fun _ =>
      Exec.Keeps.proceeds ((runningThreadPid_checks other).clearChecks same)

theorem startOne_proceeds (other : Nat) :
    Proceeds excuse NotReplaced index (startOne other) := by
  refine (Exec.Keeps.proceeds (command_clear other .on)).bind fun _ => ?_
  have reading : Proceeds excuse NotReplaced index
      (setState other .unidentifiedRunning >>= fun _ => runningThreadPid (kdamond other)) :=
    identifyStarted_proceeds other
  have identified := reading.bind fun pid =>
     (Exec.Keeps.proceeds (modifySelf_clear fun self =>
      { self with states := self.states.set other (.running pid) })).bind fun _ =>
        (verifyRunningIdentityOnly_proceeds notReplaced_agreement other).bind fun _ =>
          Proceeds.getSelf fun self =>
            (self.staged.verifyKdamondConfiguration_reads other).proceedsReads
  rw [Exec.bind_assoc] at identified
  exact identified

/-- A failed step leads to a rollback, which stops only what it identifies. -/
theorem orRollbackStarted_proceeds {step : Sysfs Unit}
    (proceeds : Proceeds excuse NotReplaced index step) :
    Proceeds excuse NotReplaced index (orRollbackStarted step) := by
  intro env world clear
  have settled := proceeds env world clear
  unfold orRollbackStarted
  rw [Exec.bind_run, Exec.attempt_run]
  cases run : step env world with
  | mk outcome middle =>
      rw [run] at settled
      cases outcome with
      | ok value => exact settled
      | error operation =>
          exact Exec.keeps_bind (Exec.keeps_attempt rollbackStarted_guarded)
            (fun _ => Exec.keeps_fail _) env middle settled

theorem orRollbackStarted_guarded {step : Sysfs Unit}
    (keeps : Exec.Keeps (Guarded excuse NotReplaced index) step) :
    Exec.Keeps (Guarded excuse NotReplaced index) (orRollbackStarted step) := by
  refine Exec.keeps_bind (Exec.keeps_attempt keeps) fun outcome => ?_
  cases outcome with
  | ok value => exact Exec.keeps_pure ()
  | error operation =>
      exact Exec.keeps_bind (Exec.keeps_attempt rollbackStarted_guarded) fun _ =>
        Exec.keeps_fail _

theorem startAll_concludes : Concludes excuse NotReplaced index startAll := by
  refine Concludes.getSelf fun self => Concludes.ite (Proceeds.fail _).concludes ?_
  refine Concludes.after (Proceeds.ofExcept _) fun _ => ?_
  refine Concludes.after verifyStaged_reads.proceedsReads fun _ => ?_
  refine Concludes.after (Proceeds.forEach _ fun other _ =>
    (requireStagedOff_reads other).proceedsReads) fun _ => ?_
  refine Concludes.after (Proceeds.forEach _ fun other _ =>
    (orRollbackStarted_proceeds ?_).bind fun _ =>
      orRollbackStarted_proceeds (startOne_proceeds other)) fun _ => ?_
  · exact Proceeds.getSelf fun self => self.staged.verifyCount_reads.proceedsReads.bind fun _ =>
      (self.staged.verifyKdamondConfiguration_reads other).proceedsReads
  · exact Exec.Keeps.concludes (orRollbackStarted_guarded
      (verifyOwnedState_readsOnly.guardedReads notReplaced_agreement))

/-! ### Closing -/

/-- A known error is the first error. -/
theorem stopEach_some (error : Error) (indices : List Nat) (env : Env) (world : World) :
    (stopEach (some error) indices env world).1 = .ok (some error) := by
  induction indices generalizing world with
  | nil => rfl
  | cons other rest ih =>
      unfold stopEach
      rw [Exec.bind_run, getSelf_run]
      dsimp only
      rw [Exec.bind_run, Exec.attempt_run]
      dsimp only
      cases (world.self.staged.verifyCount env world).1 with
      | error failure => rfl
      | ok value =>
          dsimp only
          rw [Exec.bind_run, Exec.attempt_run]
          dsimp only
          cases (verifyAndStop other env (world.self.staged.verifyCount env world).2).1 with
          | error failure => exact ih _
          | ok value => exact ih _

/-- Stopping without an error leaves no thread lost. -/
def StopsSettled (excuse : Event → Prop) (index : Nat) (outcome : Except Error (Option Error))
    (world : World) : Prop :=
  Guarded excuse NotReplaced index world ∧ (outcome = .ok none → Clear excuse index world)

theorem stopEach_cons {env : Env} {pre middle : World → Prop} {first : Option Error}
    {other : Nat} {rest : List Nat}
    (count : ∀ staged : StagedOwnership, Exec.Triple env pre staged.verifyCount fun _ => pre)
    (guarded : ∀ world, pre world → Guarded excuse NotReplaced index world)
    (stop : Exec.Triple env pre (verifyAndStop other) fun outcome world =>
      Guarded excuse NotReplaced index world ∧ (outcome = .ok () → middle world))
    (next : Exec.Triple env middle (stopEach first rest) (StopsSettled excuse index)) :
    Exec.Triple env pre (stopEach first (other :: rest)) (StopsSettled excuse index) := by
  intro world initial
  unfold stopEach
  rw [Exec.bind_run, getSelf_run]
  dsimp only
  rw [Exec.bind_run, Exec.attempt_run]
  dsimp only
  have counted := count world.self.staged world initial
  cases (world.self.staged.verifyCount env world).1 with
  | error failure =>
      refine ⟨guarded _ counted, fun none => ?_⟩
      cases first <;> cases none
  | ok value =>
      dsimp only
      rw [Exec.bind_run, Exec.attempt_run]
      dsimp only
      have stopped := stop _ counted
      cases outcome : (verifyAndStop other env (world.self.staged.verifyCount env world).2).1 with
      | ok value =>
          exact next _ (stopped.2 outcome)
      | error failure =>
          refine ⟨stopEach_guarded _ rest env _ stopped.1, fun none => ?_⟩
          cases first with
          | none => cases (stopEach_some failure rest env _).symm.trans none
          | some known => cases (stopEach_some known rest env _).symm.trans none

theorem Settles.both {α : Type} {outcome : Except Error α} {world : World}
    (settles : Settles excuse NotReplaced index outcome world) :
    Guarded excuse NotReplaced index world ∧
      ∀ value, outcome = .ok value → Clear excuse index world :=
  ⟨settles.guarded, fun value succeeded => by rwa [succeeded] at settles⟩

theorem stopEach_clear (first : Option Error) (indices : List Nat) (env : Env) :
    Exec.Triple env (Clear excuse index) (stopEach first indices) (StopsSettled excuse index) := by
  induction indices with
  | nil => exact fun world clear => ⟨clear.guarded, fun _ => clear⟩
  | cons other rest ih =>
      exact stopEach_cons (fun staged => staged.verifyCount_reads.clearReads.triple env)
        (fun _ clear => clear.guarded) ((verifyAndStop_proceeds other env).weaken
          (fun _ clear => clear) fun _ _ settles => ⟨settles.guarded, (Settles.both settles).2 ()⟩) ih

section Closing

variable (seen : ∀ event : Event, event.ReadsOff index → excuse event)
include seen

theorem stopEach_verifies (first : Option Error) (indices : List Nat) (member : index ∈ indices)
    (env : Env) :
    Exec.Triple env (Guarded excuse NotReplaced index) (stopEach first indices)
      (StopsSettled excuse index) := by
  induction indices with
  | nil => cases member
  | cons other rest ih =>
      have count : ∀ staged : StagedOwnership,
          Exec.Triple env (Guarded excuse NotReplaced index) staged.verifyCount
            fun _ => Guarded excuse NotReplaced index := fun staged =>
        (staged.verifyCount_reads.readsOnly.guardedReads notReplaced_agreement).triple env
      by_cases same : other = index
      · subst same
        exact stopEach_cons count (fun _ guarded => guarded)
          ((verifyAndStop_verifies seen env).weaken (fun _ guarded => guarded)
            fun _ _ settles => ⟨settles.guarded, (Settles.both settles).2 ()⟩)
          (stopEach_clear first rest env)
      · exact stopEach_cons count (fun _ guarded => guarded)
          (((verifyAndStop_guarded other).triple env).weaken (fun _ guarded => guarded)
            fun _ _ guarded => ⟨guarded, fun _ => guarded⟩)
          (ih ((List.mem_cons.mp member).resolve_left (Ne.symm same)))

omit seen in
/-- What follows on the stops reports their first error. -/
theorem stopsReported {env : Env} {pre : World → Prop} {indices : List Nat}
    (stops : Exec.Triple env pre (stopEach none indices) (StopsSettled excuse index)) :
    Exec.Triple env pre (stopEach none indices >>= fun first =>
      reportFirst first >>= fun _ => verifyStaged) (Settles excuse NotReplaced index) := by
  refine Exec.triple_bind stops (fun first => ?_) fun error world settled => settled.1
  rintro world ⟨guarded, clear⟩
  cases first with
  | none => exact verifyStaged_reads.proceedsReads env world (clear rfl)
  | some error => exact guarded

/-- Stopping an owned hierarchy without an error leaves no thread lost. -/
theorem stopAll_settles (env : Env) :
    Exec.Triple env
      (fun world => Guarded excuse NotReplaced index world ∧ world.self.ownsHierarchy = true)
      stopAll (Settles excuse NotReplaced index) := by
  rintro world ⟨guarded, owns⟩
  have unfolded : stopAll env world = (world.self.staged.verifyCount >>= fun _ =>
      stopEach none (List.range world.self.states.length).reverse >>= fun first =>
        reportFirst first >>= fun _ => verifyStaged) env world := by
    simp only [stopAll, Exec.bind_run, getSelf_run, owns]
    rfl
  rw [unfolded]
  by_cases inside : index < world.self.states.length
  · refine Verifies.after (world.self.staged.verifyCount_reads.readsOnly.guardedReads
      notReplaced_agreement) (fun _ => ?_) env world guarded
    exact fun env => stopsReported (stopEach_verifies seen none _ (by simpa using inside) env)
  · have clear : Clear excuse index world :=
      ⟨guarded.safe, fun pid lost => inside (guarded.lost pid lost).1⟩
    refine Proceeds.bind world.self.staged.verifyCount_reads.proceedsReads (fun _ => ?_) env world
      clear
    exact fun env => stopsReported (stopEach_clear none _ env)

/-- Closing restores only where every lost thread has been seen again, or off. -/
theorem closeInner_guarded : Exec.Keeps (Guarded excuse NotReplaced index) closeInner := by
  intro env world guarded
  unfold closeInner
  rw [Exec.bind_run, getSelf_run]
  dsimp only
  cases owns : world.self.ownsHierarchy with
  | false => exact guarded
  | true =>
      refine (Exec.triple_bind (stopAll_settles seen env) (fun _ => ?_)
        (fun _ _ failed => failed) world ⟨guarded, owns⟩).guarded
      · refine Proceeds.bind verifyStaged_reads.proceedsReads (fun _ => ?_) env
        cases world.self.previous with
        | none => exact .fail _
        | some previous =>
            have released : Proceeds excuse NotReplaced index
                (modifySelf fun self => { self with ownsHierarchy := false }) :=
              Exec.Keeps.proceeds (modifySelf_clear _)
            have restores : Confined (ChecksNot index) (restoreConfiguration previous) :=
              restoreConfiguration_confined (by simp [ChecksNot]) (by simp [ChecksNot])
                fun _ reads => (ReadsConfiguration.stages reads).checksNot
            refine previous.matchesCurrent_confined.retry.proceedsReads.bind fun _ => ?_
            exact Proceeds.ite released ((Exec.Keeps.proceeds (Accesses.clear
              (restores.accesses ChecksNot.inspects))).bind fun _ => released)

end Closing

end Lifecycle

end ManagedHierarchy

end DamonRs
