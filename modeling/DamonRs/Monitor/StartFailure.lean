import DamonRs.Monitor.Fixture
import DamonRs.Monitor.Lifecycle

/-!
# A failed start

Starting a hierarchy turns its kdamonds on one after the other.  A step that
fails stops what was started before, and an error that is not a rollback error
means that every stop has succeeded: no kdamond is left running.
-/

namespace DamonRs

open Library Sysfs

namespace ManagedHierarchy

section Spec

variable {index : Nat} {env : Env} {world after : World}

/-- A kdamond recorded as staged is off. -/
def StagedOff (index : Nat) (world : World) : Prop :=
  world.self.state index = .staged → world.sys.ShowsState index .off

theorem StagedOff.looks {before : World} (staged : StagedOff index before)
    (looks : World.Looks before after) : StagedOff index after := by
  unfold StagedOff
  rw [looks.self, looks.sys]
  exact staged

theorem StagedOff.touches {other : Nat} {before : World} (staged : StagedOff index before)
    (touches : World.Touches other before after) (different : index ≠ other) :
    StagedOff index after := by
  unfold StagedOff
  rw [touches.state different, touches.showsState different]
  exact staged

/-- What a stop leaves: a kdamond that is staged is off, and a successful stop leaves it staged. -/
def Stopped (index : Nat) (outcome : Except Error Unit) (world : World) : Prop :=
  StagedOff index world ∧ (outcome = .ok () → world.self.state index = .staged)

theorem stopped_of_error {error : Error} (staged : StagedOff index world) :
    Stopped index (.error error) world := ⟨staged, fun succeeded => by cases succeeded⟩

theorem setState_staged (off : world.sys.ShowsState index .off) :
    Stopped index (.ok ()) (setState index .staged env world).2 := by
  refine ⟨fun _ => off, fun _ => ?_⟩
  show ((world.self.states.set index .staged)[index]?).getD .staged = .staged
  rw [List.getElem?_set_self']
  cases world.self.states[index]? <;> rfl

/-- Reading the state first, then doing what it calls for. -/
theorem stopUnlessOff_stopped (still : env.Still) {whileOn : Sysfs Unit}
    {pre : World → Prop} (initially : ∀ world, pre world → StagedOff index world)
    (looking : ∀ before after, World.Looks before after → pre before → pre after)
    (on : Exec.Triple env pre whileOn (Stopped index)) :
    Exec.Triple env pre (stopUnlessOff index whileOn) (Stopped index) := by
  intro world initial
  unfold stopUnlessOff
  rw [Exec.bind_run]
  cases run : retryBusy (kdamond index).state env world with
  | mk outcome middle =>
      have looks := (Confined.readsOnly (.retry (Kdamond.state_confined index))).looks.run still run
      cases outcome with
      | error error =>
          exact stopped_of_error (initially _ (looking _ _ looks initial))
      | ok state =>
          cases state with
          | off => exact setState_staged (looks.sys ▸ retryBusy_state_shows still run)
          | on => exact on middle (looking _ _ looks initial)
          | unknown name =>
              exact stopped_of_error (initially _ (looking _ _ looks initial))

theorem command_sends {command : KdamondCommand} :
    Confined (SendsOnly command index) (retryBusy ((kdamond index).command command)) :=
  .retry (Kdamond.command_confined index command ⟨rfl, rfl⟩)

/-- A command that fails changes nothing. -/
theorem command_fails (still : env.Still) {command : KdamondCommand} {error : Error}
    (run : retryBusy ((kdamond index).command command) env world = (.error error, after)) :
    World.Looks world after := by
  have once : ∀ {before ended : World} {error : Error},
      (kdamond index).command command env before = (.error error, ended) →
        World.Looks before ended := by
    intro before ended error failed
    rcases Exec.bind_eq_error failed with invalid | ⟨_, middle, valid, failed⟩
    · obtain rfl : before = ended := (Prod.ext_iff.mp invalid).2
      exact .refl before
    · obtain rfl : before = middle := (Prod.ext_iff.mp valid).2
      rcases writeBytes_cases ((kdamond index).path ++ ["state"]) command.kernelName env before with
        ⟨other, ends, same⟩ | ⟨ends, _⟩
      · rw [ends] at failed
        cases failed
        exact ⟨rfl, same.trans (still _ _)⟩
      · rw [ends] at failed
        cases failed
  obtain ⟨start, path, ends⟩ :=
    Exec.retry_ends Error.isResourceBusy ((kdamond index).command command) maxRetries env world
  refine World.Looks.trans ?_ (once (ends.symm.trans run))
  clear ends
  induction path with
  | refl => exact .refl world
  | tail _ last ih =>
      obtain ⟨error, _, failed⟩ := last
      exact ih.trans (once failed)

theorem stopIdentified_stopped (still : env.Still) (expected : Pid) :
    Exec.Triple env
      (fun world => StagedOff index world ∧ world.self.state index ≠ .staged)
      (stopIdentified index expected) (Stopped index) := by
  rintro world ⟨initial, recorded⟩
  cases whole : stopIdentified index expected env world with
  | mk outcome after =>
      dsimp only
      cases outcome with
      | ok value =>
          obtain ⟨current, first, _, rest⟩ := Exec.bind_eq_ok whole
          obtain ⟨_, second, _, rest⟩ := Exec.bind_eq_ok rest
          obtain ⟨_, third, _, rest⟩ := Exec.bind_eq_ok rest
          obtain ⟨state, last, read, decided⟩ := Exec.bind_eq_ok rest
          have looks := (Confined.readsOnly
            (.retry (Kdamond.state_confined index))).looks.run still read
          cases state with
          | on => cases decided
          | unknown name => cases decided
          | off =>
              have off : last.sys.ShowsState index .off :=
                looks.sys ▸ retryBusy_state_shows still read
              have stopped : Stopped index (.ok ()) (setState index .staged env last).2 :=
                setState_staged off
              have same : setState index .staged env last = (.ok value, after) := decided
              rwa [same] at stopped
      | error error =>
          refine stopped_of_error fun staged => absurd staged ?_
          have kept : after.self = world.self := by
            rcases Exec.bind_eq_error whole with failed | ⟨current, first, read, rest⟩
            · exact (currentPid_checks index).self_run failed
            have one := (currentPid_checks index).self_run read
            have compares : Confined ReadsOnly (requireSamePid current expected) :=
              requireSamePid_confined current expected
            rcases Exec.bind_eq_error rest with failed | ⟨_, second, same, rest⟩
            · exact (compares.self_run failed).trans one
            have two := (compares.self_run same).trans one
            rcases Exec.bind_eq_error rest with failed | ⟨_, third, sent, rest⟩
            · exact (command_fails still failed).self.trans two
            have three := (command_sends.self_run sent).trans two
            rcases Exec.bind_eq_error rest with failed | ⟨state, last, read, decided⟩
            · exact ((Kdamond.state_confined index).retry.self_run failed).trans three
            have four := ((Kdamond.state_confined index).retry.self_run read).trans three
            cases state with
            | off => cases decided
            | on =>
                cases decided
                exact four
            | unknown name =>
                cases decided
                exact four
          rw [kept]
          exact recorded

/-- Stopping a kdamond leaves it staged and off, or fails. -/
theorem stopOne_stopped (still : env.Still) :
    Exec.Triple env (StagedOff index) (stopOne index) (Stopped index) := by
  refine stopOne_triple ?_ (fun expected => ?_) ?_
  · rintro world ⟨initial, recorded⟩
    have looks := (Confined.readsOnly (requireStagedOff_reads index)).looks env world still
    refine ⟨initial.looks looks, fun _ => ?_⟩
    rw [looks.self]
    exact recorded
  · refine stopUnlessOff_stopped still (fun _ pre => pre.1) (fun _ _ looks pre => ?_) ?_
    · exact ⟨pre.1.looks looks, by rw [looks.self]; exact pre.2⟩
    · refine (stopIdentified_stopped still expected).weaken (fun world pre => ?_)
        fun _ _ stopped => stopped
      refine ⟨pre.1, ?_⟩
      rw [state_eq_running.mpr pre.2]
      simp
  · refine stopUnlessOff_stopped still (fun _ pre => pre.1) (fun _ _ looks pre => ?_)
      fun world pre => stopped_of_error pre.1
    exact ⟨pre.1.looks looks, by rw [looks.self]; exact pre.2⟩

theorem verifyAndStop_stopped (still : env.Still) :
    Exec.Triple env (StagedOff index) (verifyAndStop index) (Stopped index) := by
  intro world initial
  unfold verifyAndStop
  rw [Exec.bind_run, getSelf_run]
  dsimp only
  rw [Exec.bind_run]
  cases run : world.self.staged.verifyKdamondConfiguration index env world with
  | mk outcome middle =>
      have looks := (Confined.readsOnly
        (world.self.staged.verifyKdamondConfiguration_reads index)).looks.run still run
      cases outcome with
      | error error => exact stopped_of_error (initial.looks looks)
      | ok value => exact stopOne_stopped still middle (initial.looks looks)

/-- A kdamond recorded as staged stays so. -/
theorem verifyAndStop_staged (still : env.Still) {other : Nat}
    (staged : world.self.state other = .staged) :
    (verifyAndStop index env world).2.self.state other = .staged := by
  by_cases same : other = index
  · subst same
    unfold verifyAndStop
    rw [Exec.bind_run, getSelf_run]
    dsimp only
    rw [Exec.bind_run]
    cases run : world.self.staged.verifyKdamondConfiguration other env world with
    | mk outcome middle =>
        have checked := (world.self.staged.verifyKdamondConfiguration_reads other).self_run run
        cases outcome with
        | error error => rwa [← checked] at staged
        | ok value =>
            rw [← checked] at staged
            dsimp only
            unfold stopOne
            rw [Exec.bind_run, getSelf_run]
            dsimp only
            rw [staged]
            have looks := (Confined.readsOnly (requireStagedOff_reads other)).looks env middle still
            rw [looks.self]
            exact staged
  · rw [(verifyAndStop_touches env world still).state same]
    exact staged

/-- A command that was accepted makes the start record a thread, or the lack of one. -/
theorem startOne_recorded {outcome : Except Error Unit}
    (managed : index < world.self.states.length)
    (run : startOne index env world = (outcome, after)) (still : env.Still) :
    (World.Looks world after ∧ outcome ≠ .ok ()) ∨ (after.self.state index ≠ .staged ∧
      (outcome = .ok () → ∃ pid, after.self.state index = .running pid)) := by
  cases sent : retryBusy ((kdamond index).command .on) env world with
  | mk answer first =>
      cases answer with
      | error error =>
          have failed : startOne index env world = (.error error, first) :=
            Exec.bind_run_error sent _
          obtain rfl : first = after := (Prod.ext_iff.mp (failed.symm.trans run)).2
          obtain ⟨rfl, -⟩ := Prod.ext_iff.mp (failed.symm.trans run)
          exact .inl ⟨command_fails still sent, by simp⟩
      | ok value =>
          right
          have sentSelf : first.self = world.self := command_sends.self_run sent
          have within : index < first.self.states.length := by rwa [sentSelf]
          have unidentified : (setState index .unidentifiedRunning env first).2.self.state index =
              .unidentifiedRunning := setState_state within
          have continues := (Exec.bind_run_ok sent _).symm.trans run
          obtain ⟨second, marked⟩ : ∃ second,
              setState index .unidentifiedRunning env first = (.ok (), second) := ⟨_, rfl⟩
          rw [marked] at unidentified
          have marks : World.Touches index first second :=
            (setState_touches .unidentifiedRunning).run still marked
          have counted : index < second.self.states.length := marks.length ▸ within
          have captures := (Exec.bind_run_ok marked _).symm.trans continues
          rcases Exec.bind_cases captures with
            ⟨error, failed, rfl⟩ | ⟨pid, third, captured, rest⟩
          · rw [(runningThreadPid_checks index).self_run failed, unidentified]
            exact ⟨by simp, fun succeeded => by cases succeeded⟩
          · have kept := (runningThreadPid_checks index).self_run captured
            have recorded : after.self.state index = .running pid := by
              obtain ⟨fourth, noted⟩ : ∃ fourth,
                  setState index (.running pid) env third = (.ok (), fourth) := ⟨_, rfl⟩
              have last := (Exec.bind_run_ok noted _).symm.trans rest
              have checks : Confined ReadsOnly (do
                  verifyRunningIdentityOnly index
                  let self ← getSelf
                  self.staged.verifyKdamondConfiguration index) :=
                .seq (verifyRunningIdentityOnly_checks index).threadReadsOnly
                  (.bind .self fun self => Confined.readsOnly
                    (self.staged.verifyKdamondConfiguration_reads index))
              have named : (setState index (.running pid) env third).2.self.state index =
                  .running pid := setState_state (kept ▸ counted)
              rw [noted] at named
              unfold ManagedHierarchy.state at named ⊢
              rw [checks.self_run last]
              exact named
            rw [recorded]
            exact ⟨by simp, fun _ => ⟨pid, rfl⟩⟩

end Spec

/-! ## The whole start -/

/-- What holds throughout a start: what is staged is off, and only kdamonds were touched. -/
structure Accounted (start world : World) : Prop where
  length : world.self.states.length = start.self.states.length
  off : ∀ index < start.self.states.length, StagedOff index world
  files : ∀ path, (∀ index, path ≠ Path.stateOf index) → (∀ index, path ≠ Path.pidOf index) →
    world.sys.files.get? path = start.sys.files.get? path

section Start

variable {index : Nat} {env : Env} {start before world after : World}

theorem Accounted.touches (accounted : Accounted start before)
    (touches : World.Touches index before after)
    (off : index < start.self.states.length → StagedOff index after) : Accounted start after where
  length := touches.length.trans accounted.length
  off other managed := by
    by_cases same : other = index
    · subst same
      exact off managed
    · exact (accounted.off other managed).touches touches same
  files path state pid :=
    (touches.files path (state index) (pid index)).trans (accounted.files path state pid)

theorem Accounted.looks (accounted : Accounted start before) (looks : World.Looks before after) :
    Accounted start after :=
  accounted.touches (looks.touches 0) fun managed => (accounted.off 0 managed).looks looks

/-- Stopping a kdamond keeps the account, and a successful stop leaves it staged. -/
theorem verifyAndStop_accounted (still : env.Still) (managed : index < start.self.states.length) :
    Exec.Triple env (Accounted start) (verifyAndStop index) fun outcome world =>
      Accounted start world ∧ (outcome = .ok () → world.self.state index = .staged) := by
  intro world accounted
  have stopped := verifyAndStop_stopped still world (accounted.off index managed)
  have touches : World.Touches index world (verifyAndStop index env world).2 :=
    verifyAndStop_touches env world still
  exact ⟨accounted.touches touches fun _ => stopped.1, stopped.2⟩

theorem startOne_accounted (still : env.Still) (managed : index < start.self.states.length) :
    Exec.Triple env (Accounted start) (startOne index) fun _ world => Accounted start world := by
  intro world accounted
  cases run : startOne index env world with
  | mk outcome after =>
      have within : index < world.self.states.length := accounted.length ▸ managed
      rcases startOne_recorded within run still with ⟨looks, _⟩ | ⟨recorded, _⟩
      · exact accounted.looks looks
      · exact accounted.touches (startOne_touches.run still run) fun _ staged =>
          absurd staged recorded

theorem rollbackStartedEach_staged (still : env.Still) (indices : List Nat)
    (first : Option Error) (staged : world.self.state index = .staged) :
    (rollbackStartedEach first indices env world).2.self.state index = .staged := by
  induction indices generalizing first world with
  | nil => exact staged
  | cons item rest ih =>
      unfold rollbackStartedEach
      rw [Exec.bind_run, getSelf_run]
      dsimp only
      by_cases recorded : world.self.state item = .staged
      · rw [if_pos recorded]
        exact ih first staged
      · rw [if_neg recorded, Exec.bind_run, Exec.attempt_run]
        exact ih _ (verifyAndStop_staged still staged)

theorem firstError_eq_none {first : Option Error} {outcome : Except Error Unit} :
    firstError first outcome = none ↔ first = none ∧ outcome = .ok () := by
  cases outcome with
  | ok value => simp [firstError]
  | error error => cases first <;> simp [firstError]

/-- The stops of a rollback: without an error, every kdamond they are about is staged. -/
theorem rollbackStartedEach_accounted (still : env.Still) (indices : List Nat)
    (managed : ∀ index ∈ indices, index < start.self.states.length) (first : Option Error) :
    Exec.Triple env (Accounted start) (rollbackStartedEach first indices) fun outcome world =>
      Accounted start world ∧ (outcome = .ok none → first = none ∧
        ∀ index ∈ indices, world.self.state index = .staged) := by
  induction indices generalizing first with
  | nil =>
      intro world accounted
      refine ⟨accounted, fun ends => ⟨?_, by simp⟩⟩
      cases ends
      rfl
  | cons index rest ih =>
      have others : ∀ other ∈ rest, other < start.self.states.length :=
        fun other member => managed other (List.mem_cons_of_mem index member)
      intro world accounted
      unfold rollbackStartedEach
      rw [Exec.bind_run, getSelf_run]
      dsimp only
      by_cases recorded : world.self.state index = .staged
      · rw [if_pos recorded]
        obtain ⟨accounted, stopped⟩ := ih others first world accounted
        refine ⟨accounted, fun ends => ?_⟩
        obtain ⟨unset, staged⟩ := stopped ends
        refine ⟨unset, List.forall_mem_cons.mpr ⟨?_, staged⟩⟩
        exact rollbackStartedEach_staged still rest first recorded
      · rw [if_neg recorded, Exec.bind_run, Exec.attempt_run]
        dsimp only
        have here := verifyAndStop_accounted still (managed index (List.mem_cons_self ..)) world
          accounted
        obtain ⟨accounted, stopped⟩ := ih others
          (firstError first (verifyAndStop index env world).1) _ here.1
        refine ⟨accounted, fun ends => ?_⟩
        obtain ⟨unset, staged⟩ := stopped ends
        obtain ⟨none, succeeded⟩ := firstError_eq_none.mp unset
        refine ⟨none, List.forall_mem_cons.mpr ⟨?_, staged⟩⟩
        exact rollbackStartedEach_staged still rest _ (here.2 succeeded)

/-- Every managed kdamond is recorded as staged. -/
def AllStaged (start world : World) : Prop :=
  ∀ index < start.self.states.length, world.self.state index = .staged

/-- A rollback that succeeds leaves every kdamond staged. -/
theorem rollbackStarted_accounted (still : env.Still) :
    Exec.Triple env (Accounted start) rollbackStarted fun outcome world =>
      Accounted start world ∧ (outcome = .ok () → AllStaged start world) := by
  intro world accounted
  cases run : rollbackStarted env world with
  | mk outcome after =>
      dsimp only
      unfold rollbackStarted at run
      rw [Exec.bind_run, getSelf_run] at run
      dsimp only at run
      by_cases all : world.self.states.all (· = .staged) = true
      · rw [if_pos all] at run
        cases run
        refine ⟨accounted, fun _ index managed => ?_⟩
        have within : index < world.self.states.length := accounted.length ▸ managed
        have staged := List.all_eq_true.mp all _ (List.getElem_mem within)
        unfold ManagedHierarchy.state
        rw [List.getElem?_eq_getElem within]
        simpa using staged
      · rw [if_neg all] at run
        rcases Exec.bind_cases run with ⟨error, failed, rfl⟩ | ⟨_, first, counted, rest⟩
        · have looks := (Confined.readsOnly world.self.staged.verifyCount_reads).looks.run still
            failed
          exact ⟨accounted.looks looks, fun succeeded => by cases succeeded⟩
        · have looks := (Confined.readsOnly world.self.staged.verifyCount_reads).looks.run still
            counted
          have inside : ∀ index ∈ (List.range world.self.states.length).reverse,
              index < start.self.states.length := by
            simp [accounted.length]
          have each := rollbackStartedEach_accounted still _ inside none
          rcases Exec.bind_cases rest with ⟨error, failed, rfl⟩ | ⟨found, last, ran, decided⟩
          · exact ⟨(each.run (accounted.looks looks) failed).1, fun succeeded => by
              cases succeeded⟩
          · have stopped := each.run (accounted.looks looks) ran
            cases found with
            | some error =>
                cases decided
                exact ⟨stopped.1, fun succeeded => by cases succeeded⟩
            | none =>
                cases decided
                refine ⟨stopped.1, fun _ index managed => (stopped.2 rfl).2 index ?_⟩
                simpa [accounted.length] using managed

/-- How a start may end: an error that is no rollback error leaves every kdamond staged. -/
def Ended (start : World) (outcome : Except Error Unit) (world : World) : Prop :=
  Accounted start world ∧
    ∀ error, outcome = .error error → error.isRollback = false → AllStaged start world

theorem orRollbackStarted_ended (still : env.Still) {step : Sysfs Unit}
    (accounts : Exec.Triple env (Accounted start) step fun _ world => Accounted start world) :
    Exec.Triple env (Accounted start) (orRollbackStarted step) (Ended start) := by
  intro world accounted
  unfold orRollbackStarted
  rw [Exec.bind_run, Exec.attempt_run]
  cases run : step env world with
  | mk outcome middle =>
      have kept := accounts.run accounted run
      cases outcome with
      | ok value => exact ⟨kept, fun error failed => by cases failed⟩
      | error operation =>
          dsimp only
          rw [Exec.bind_run, Exec.attempt_run]
          cases rolled : rollbackStarted env middle with
          | mk answer last =>
              have stopped := (rollbackStarted_accounted still).run kept rolled
              refine ⟨stopped.1, fun error failed fine => stopped.2 ?_⟩
              cases answer with
              | ok value => rfl
              | error rollback =>
                  cases failed
                  cases fine

theorem Ended.of_ok (accounted : Accounted start world) : Ended start (.ok ()) world :=
  ⟨accounted, fun _ failed => by cases failed⟩

/-- Reading keeps the account. -/
theorem reads_accounted (still : env.Still) {program : Sysfs Unit}
    (confined : Confined ReadsOnly program) :
    Exec.Triple env (Accounted start) program fun _ world => Accounted start world :=
  fun world accounted => accounted.looks (confined.looks env world still)

/-- The two steps by which one kdamond is started. -/
def startStep (index : Nat) : Sysfs Unit := do
  orRollbackStarted (verifyBeforeStart index)
  orRollbackStarted (startOne index)

theorem verifyBeforeStart_reads (index : Nat) : Confined ReadsOnly (verifyBeforeStart index) :=
  .bind .self fun self => .seq (Confined.readsOnly self.staged.verifyCount_reads)
    (Confined.readsOnly (self.staged.verifyKdamondConfiguration_reads index))

theorem startStep_ended (still : env.Still) (managed : index < start.self.states.length) :
    Exec.Triple env (Accounted start) (startStep index) (Ended start) := by
  refine Exec.triple_bind (orRollbackStarted_ended still
    (reads_accounted still (verifyBeforeStart_reads index))) (fun _ => ?_) fun _ _ ended => ended
  exact (orRollbackStarted_ended still (startOne_accounted still managed)).weaken
    (fun _ ended => ended.1) fun _ _ ended => ended

theorem startLoop_ended (still : env.Still) (indices : List Nat)
    (managed : ∀ index ∈ indices, index < start.self.states.length) :
    Exec.Triple env (Accounted start) (Exec.forEach startStep indices) (Ended start) := by
  induction indices with
  | nil => exact fun world accounted => .of_ok accounted
  | cons index rest ih =>
      refine Exec.triple_bind (startStep_ended still (managed index (List.mem_cons_self ..)))
        (fun _ => ?_) fun _ _ ended => ended
      exact (ih fun other member => managed other (List.mem_cons_of_mem index member)).weaken
        (fun _ ended => ended.1) fun _ _ ended => ended

theorem orRollbackStarted_ok {step : Sysfs Unit}
    (run : orRollbackStarted step env world = (.ok (), after)) :
    step env world = (.ok (), after) := by
  unfold orRollbackStarted at run
  rw [Exec.bind_run, Exec.attempt_run] at run
  cases ran : step env world with
  | mk outcome middle =>
      rw [ran] at run
      cases outcome with
      | ok value => exact run
      | error operation =>
          dsimp only at run
          rw [Exec.bind_run, Exec.attempt_run] at run
          cases run

/-- A start that succeeds records a thread, and touches no other kdamond. -/
theorem startStep_ok (still : env.Still) (managed : index < world.self.states.length)
    (run : startStep index env world = (.ok (), after)) :
    World.Touches index world after ∧ ∃ pid, after.self.state index = .running pid := by
  obtain ⟨_, middle, verified, rest⟩ := Exec.bind_eq_ok run
  have looks := (verifyBeforeStart_reads index).looks.run still (orRollbackStarted_ok verified)
  have started := orRollbackStarted_ok rest
  have touches := (looks.touches index).trans (startOne_touches.run still started)
  refine ⟨touches, ?_⟩
  have within : index < middle.self.states.length := looks.self ▸ managed
  rcases startOne_recorded within started still with ⟨_, failed⟩ | ⟨_, running⟩
  · exact absurd rfl failed
  · exact running rfl

theorem startLoop_others (still : env.Still) {indices : List Nat} (other : index ∉ indices)
    (managed : ∀ index ∈ indices, index < world.self.states.length)
    (run : Exec.forEach startStep indices env world = (.ok (), after)) :
    after.self.state index = world.self.state index := by
  induction indices generalizing world with
  | nil =>
      cases run
      rfl
  | cons item rest ih =>
      obtain ⟨_, middle, here, others⟩ := Exec.bind_eq_ok run
      obtain ⟨touches, _⟩ := startStep_ok still (managed item (List.mem_cons_self ..)) here
      rw [ih (fun member => other (List.mem_cons_of_mem item member)) ?_ others]
      · exact touches.state fun same => other (same ▸ List.mem_cons_self ..)
      · intro index member
        rw [touches.length]
        exact managed index (List.mem_cons_of_mem item member)

/-- A loop of starts that succeeds leaves every kdamond recorded with a thread. -/
theorem startLoop_ok (still : env.Still) {indices : List Nat} (once : indices.Nodup)
    (managed : ∀ index ∈ indices, index < world.self.states.length)
    (run : Exec.forEach startStep indices env world = (.ok (), after)) :
    ∀ index ∈ indices, ∃ pid, after.self.state index = .running pid := by
  induction indices generalizing world with
  | nil => simp
  | cons item rest ih =>
      obtain ⟨_, middle, here, others⟩ := Exec.bind_eq_ok run
      obtain ⟨touches, pid, running⟩ :=
        startStep_ok still (managed item (List.mem_cons_self ..)) here
      obtain ⟨outside, once⟩ := List.nodup_cons.mp once
      have counted : ∀ index ∈ rest, index < middle.self.states.length := by
        intro index member
        rw [touches.length]
        exact managed index (List.mem_cons_of_mem item member)
      refine List.forall_mem_cons.mpr ⟨⟨pid, ?_⟩, ih once counted others⟩
      rw [startLoop_others still outside counted others]
      exact running

/-- The thread of a running kdamond is one that it shows. -/
theorem runningThreadPid_shows (still : env.Still) {pid : Pid}
    (run : runningThreadPid (kdamond index) env world = (.ok pid, after)) :
    world.sys.ShowsState index .on ∧ world.sys.ShowsThread index pid := by
  obtain ⟨state, middle, read, rest⟩ := Exec.bind_eq_ok run
  have looks := (Confined.readsOnly (.retry (Kdamond.state_confined index))).looks.run still read
  cases state with
  | off => cases rest
  | unknown name => cases rest
  | on =>
      obtain ⟨found, last, shown, decided⟩ := Exec.bind_eq_ok rest
      cases found with
      | none => cases decided
      | some found =>
          cases decided
          exact ⟨retryBusy_state_shows still read, looks.sys ▸ retryBusy_pid_shows still shown⟩

/-- A complete check finds every kdamond recorded with a thread on, with this thread. -/
theorem verifyOwnedState_shows (still : env.Still) {pid : Pid}
    (run : verifyOwnedState env world = (.ok (), after))
    (recorded : world.self.state index = .running pid)
    (managed : index < world.self.states.length) :
    world.sys.ShowsState index .on ∧ world.sys.ShowsThread index pid := by
  obtain ⟨self, _, isSelf, run⟩ := Exec.bind_eq_ok run
  cases isSelf
  split at run
  · cases run
  obtain ⟨_, verified, verify, each⟩ := Exec.bind_eq_ok run
  have checked := (Confined.readsOnly world.self.staged.verify_reads).looks.run still verify
  obtain ⟨earlier, later, before, done, _, _, ahead, here, _⟩ :=
    Exec.forEach_first each (List.mem_range.mpr managed)
  have looks := checked.trans ((Confined.forEach earlier fun index _ =>
    (verifyOwnedKdamond_checks index).threadReadsOnly).looks.run still ahead)
  unfold verifyOwnedKdamond at here
  rw [Exec.bind_run, getSelf_run] at here
  dsimp only at here
  rw [looks.self, recorded] at here
  obtain ⟨expected, middle, wanted, rest⟩ := Exec.bind_eq_ok here
  obtain ⟨expects, rfl⟩ := expectedRunningPid_ok wanted
  rw [looks.self, state_eq_running.mp recorded] at expects
  cases expects
  obtain ⟨current, last, read, same⟩ := Exec.bind_eq_ok rest
  obtain ⟨rfl, _⟩ := requireSamePid_ok same
  exact looks.sys ▸ runningThreadPid_shows still read

end Start

/-! ## Whatever happens -/

/-- The kdamonds of a hierarchy that is staged and off. -/
def Idle (world : World) : Prop :=
  ∀ index < world.self.states.length,
    world.self.state index = .staged ∧ world.sys.ShowsState index .off

theorem Idle.accounted {world : World} (idle : Idle world) : Accounted world world :=
  ⟨rfl, fun index managed _ => (idle index managed).2, fun _ _ _ => rfl⟩

section Whatever

variable {env : Env} {world after : World}

/-- The checks before a start leave everything as it is. -/
theorem startAll_cases (still : env.Still) {outcome : Except Error Unit}
    (run : startAll env world = (outcome, after)) :
    (World.Looks world after ∧ outcome ≠ .ok ()) ∨ ∃ checked, World.Looks world checked ∧
      (do Exec.forEach startStep (List.range world.self.states.length)
          orRollbackStarted verifyOwnedState : Sysfs Unit) env checked = (outcome, after) := by
  unfold startAll at run
  rw [Exec.bind_run, getSelf_run] at run
  dsimp only at run
  by_cases owns : (!world.self.ownsHierarchy) = true
  · rw [if_pos owns] at run
    cases run
    exact .inl ⟨.refl world, by simp⟩
  · rw [if_neg owns] at run
    rcases Exec.bind_cases run with ⟨error, failed, rfl⟩ | ⟨_, same, passed, run⟩
    · obtain ⟨_, rfl⟩ := Prod.ext_iff.mp failed
      exact .inl ⟨.refl _, by simp⟩
    · obtain ⟨_, rfl⟩ := Prod.ext_iff.mp passed
      have verifies := (Confined.readsOnly verifyStaged_reads).looks
      rcases Exec.bind_cases run with ⟨error, failed, rfl⟩ | ⟨_, verified, verify, run⟩
      · exact .inl ⟨verifies.run still failed, by simp⟩
      · have looks := verifies.run still verify
        have reads : Confined ReadsOnly
            (Exec.forEach requireStagedOff (List.range world.self.states.length)) :=
          .forEach _ fun index _ => Confined.readsOnly (requireStagedOff_reads index)
        rcases Exec.bind_cases run with ⟨error, failed, rfl⟩ | ⟨_, checked, check, run⟩
        · exact .inl ⟨looks.trans (reads.looks.run still failed), by simp⟩
        · exact .inr ⟨checked, looks.trans (reads.looks.run still check), run⟩

theorem startAll_ended (still : env.Still) (idle : Idle world) :
    Ended world (startAll env world).1 (startAll env world).2 := by
  cases run : startAll env world with
  | mk outcome after =>
      rcases startAll_cases still run with ⟨looks, _⟩ | ⟨checked, looks, rest⟩
      · refine ⟨idle.accounted.looks looks, fun _ _ _ index managed => ?_⟩
        rw [looks.self]
        exact (idle index managed).1
      · have loop : Exec.Triple env (Accounted world)
            (Exec.forEach startStep (List.range world.self.states.length)) (Ended world) :=
          startLoop_ended still _ fun index => List.mem_range.mp
        have whole := Exec.triple_bind loop (fun _ => (orRollbackStarted_ended still
          (reads_accounted still verifyOwnedState_readsOnly)).weaken
            (fun _ ended => ended.1) fun _ _ ended => ended) fun _ _ ended => ended
        exact whole.run (idle.accounted.looks looks) rest

/-- A start that succeeds leaves every kdamond on, recorded with its thread. -/
theorem startAll_ok (still : env.Still) (run : startAll env world = (.ok (), after)) :
    ∀ index < world.self.states.length, ∃ pid, after.self.state index = .running pid ∧
      after.sys.ShowsState index .on ∧ after.sys.ShowsThread index pid := by
  intro index managed
  rcases startAll_cases still run with ⟨_, failed⟩ | ⟨checked, looks, rest⟩
  · exact absurd rfl failed
  · obtain ⟨_, started, loop, verified⟩ := Exec.bind_eq_ok rest
    have counted : ∀ index ∈ List.range world.self.states.length,
        index < checked.self.states.length := by
      simp [looks.self]
    obtain ⟨pid, running⟩ := startLoop_ok still List.nodup_range counted loop index
      (List.mem_range.mpr managed)
    have verify := orRollbackStarted_ok verified
    have same := verifyOwnedState_readsOnly.looks.run still verify
    have within : index < started.self.states.length := managed_of_running running
    refine ⟨pid, ?_, same.sys ▸ verifyOwnedState_shows still verify running within⟩
    rw [same.self]
    exact running

end Whatever

/-- A failed start leaves nothing running.  Nobody else acts, and accesses fail in any way:
unless a rollback failed as well, every kdamond is staged and off again; a start that
succeeds leaves every kdamond on, recorded with its thread.  No other file is changed. -/
theorem startAll_allOrNothing {env : Env} {world : World} (still : env.Still)
    (idle : Idle world) :
    (∀ error, (startAll env world).1 = .error error → error.isRollback = false →
      Idle (startAll env world).2) ∧
    ((startAll env world).1 = .ok () → ∀ index < world.self.states.length, ∃ pid,
      (startAll env world).2.self.state index = .running pid ∧
      (startAll env world).2.sys.ShowsState index .on ∧
      (startAll env world).2.sys.ShowsThread index pid) ∧
    (startAll env world).2.self.states.length = world.self.states.length ∧
    ∀ path, (∀ index, path ≠ Path.stateOf index) → (∀ index, path ≠ Path.pidOf index) →
      (startAll env world).2.sys.files.get? path = world.sys.files.get? path := by
  obtain ⟨accounted, stopped⟩ := startAll_ended still idle
  refine ⟨fun error failed fine index managed => ?_, fun succeeded => ?_, accounted.length,
    accounted.files⟩
  · have within : index < world.self.states.length := accounted.length ▸ managed
    have staged := stopped error failed fine index within
    exact ⟨staged, accounted.off index within staged⟩
  · exact startAll_ok still (Prod.ext succeeded rfl)

namespace FailingStart

/-- Two staged kdamonds. -/
def world : World :=
  let contexts := List.replicate 2 (Fixture.context "5000" "100000" "0")
  let session := Fixture.session (Fixture.stopped contexts)
    (Fixture.config (List.replicate 2 (Fixture.contextConfig .default 0)))
  { session with self := { session.self with states := [.staged, .staged] } }

/-- The second kdamond cannot be turned on. -/
def env : Env :=
  { Fixture.calm with
    fault := fun _ access =>
      if access = .write (Path.stateOf 1) "on" then some ⟨.transfer, 5⟩ else none }

theorem idle : Idle world := by
  intro index managed
  have numbered : index = 0 ∨ index = 1 := by
    have managed : index < 2 := managed
    omega
  rcases numbered with rfl | rfl
  all_goals exact ⟨rfl, .ofWritten "off", true, by decide +kernel, by decide +kernel⟩

end FailingStart

open FailingStart in
/-- The first kdamond is stopped again after the second one could not be started. -/
theorem startAll_allOrNothing_failing : Idle (startAll env world).2 := by
  have failed : (startAll env world).1 =
      .error (.io "write" (Path.stateOf 1) (.os 5)) := by decide +kernel
  exact (startAll_allOrNothing (fun _ _ => rfl) idle).1 _ failed rfl

end ManagedHierarchy

end DamonRs
