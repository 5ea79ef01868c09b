import DamonRs.Monitor.LostLifecycle
import DamonRs.Monitor.LostPause
import DamonRs.Sysfs.Fixture

/-!
# Calls that lose a kdamond

Every operation of a session, from any state of it, under any environment.
-/

namespace DamonRs

open Library Sysfs

/-! ## Calls -/

section Calls

variable {excuse : Event → Prop} {index : Nat}

open ManagedHierarchy

theorem drop_safe (seen : ∀ event : Event, event.ReadsOff index → excuse event) (env : Env) :
    Exec.Triple env (Guarded excuse NotReplaced index) ManagedHierarchy.drop
      fun _ world => ∀ pid, NoWriteWhileLost excuse index pid world.trace := by
  intro world guarded
  unfold ManagedHierarchy.drop
  rw [Exec.bind_run, getSelf_run]
  dsimp only
  split
  · exact (closeInner_guarded seen env world guarded).safe
  · exact guarded.safe

/-- Closing tries twice before it lets go of the hierarchy. -/
theorem close_safe (seen : ∀ event : Event, event.ReadsOff index → excuse event) (env : Env) :
    Exec.Triple env (Clear excuse index) ManagedHierarchy.close
      fun _ world => ∀ pid, NoWriteWhileLost excuse index pid world.trace := by
  intro world clear
  have first := Exec.keeps_attempt (closeInner_guarded seen) env world clear.guarded
  unfold ManagedHierarchy.close
  rw [Exec.bind_run, Exec.attempt_run]
  dsimp only
  have second := drop_safe seen env _ first
  rw [Exec.bind_run]
  cases run : ManagedHierarchy.drop env (closeInner env world).2 with
  | mk outcome after =>
      rw [show (Exec.attempt closeInner env world).2 = (closeInner env world).2 from rfl,
        run] at second
      cases outcome with
      | ok value => exact second
      | error error => exact second

/-- A kdamond was seen off while its recorded thread was lost. -/
def SeenOffWhileLost (index : Nat) (pid : Pid) : List Event → Prop
  | [] => False
  | event :: earlier =>
      (event.ReadsOff index ∧ LostAs (fun _ => False) index pid earlier) ∨
        SeenOffWhileLost index pid earlier

theorem lostAs_of_unseen {pid : Pid} {trace : List Event}
    (unseen : ¬SeenOffWhileLost index pid trace)
    (lost : LostAs (fun _ => False) index pid trace) :
    LostAs (fun event => event.ReadsOff index) index pid trace := by
  induction trace with
  | nil => exact lost
  | cons event earlier ih =>
      rcases lost with finds | ⟨before, missed, _⟩
      · exact .inl finds
      · exact .inr ⟨ih (fun seen => unseen (.inr seen)) before, missed,
          fun off => unseen (.inl ⟨off, before⟩)⟩

theorem noWriteWhileLost_of_unseen {pid : Pid} {trace : List Event}
    (unseen : ¬SeenOffWhileLost index pid trace)
    (safe : NoWriteWhileLost (fun event => event.ReadsOff index) index pid trace) :
    NoWriteWhileLost (fun _ => False) index pid trace := by
  induction trace with
  | nil => exact trivial
  | cons event earlier ih =>
      have unseenBefore : ¬SeenOffWhileLost index pid earlier := fun seen => unseen (.inr seen)
      exact ⟨fun writes lost => safe.1 writes (lostAs_of_unseen unseenBefore lost),
        ih unseenBefore safe.2⟩

theorem issueCommand_guarded (other : Nat) (command : KdamondCommand) :
    Exec.Keeps (Guarded excuse StillRecorded index) (issueCommand other command) := by
  by_cases same : other = index
  · subst same
    have verifies : Verifies excuse StillRecorded other (verifyIdentityInBatch other) :=
      Verifies.after (verifyManagedCount_reads.readsOnly.guardedReads stillRecorded_agreement)
        fun _ => verifies_of_reading stillRecorded_agreement
          (verifyRunningIdentityWithoutCount_checks other).threadReadsOnly
          fun _ _ _ => verifyRunningIdentityWithoutCount_ok
    exact (verifies.bind fun _ => Exec.Keeps.proceeds (command_clear other command)).keeps
  · exact Exec.keeps_bind ((verifyIdentityInBatch_checks other).threadReadsOnly.guardedReads
      stillRecorded_agreement) fun _ => Accesses.guarded stillRecorded_agreement
        ((writesNot_command same command).accesses WritesNot.inspects)

theorem readScheme_guarded {α : Type} {other context scheme : Nat} {refresh : Bool}
    {command : KdamondCommand} {read : Scheme → Sysfs α}
    (reads : ∀ scheme, Confined ReadsOnly (read scheme)) :
    Exec.Keeps (Guarded excuse StillRecorded index)
      (readScheme other context scheme refresh command read) := by
  refine Exec.keeps_bind ((scheme_reads other context scheme).readsOnly.guardedReads
    stillRecorded_agreement) fun found => ?_
  refine Exec.keeps_bind (Exec.keeps_ite (issueCommand_guarded other command)
    (Exec.keeps_pure ())) fun _ => ?_
  refine Exec.keeps_bind ((reads found).guardedReads stillRecorded_agreement) fun _ => ?_
  exact Exec.keeps_bind ((verifyIdentityInBatch_checks other).threadReadsOnly.guardedReads
    stillRecorded_agreement) fun _ => Exec.keeps_pure _

theorem runtimeRead_guarded (other : Nat) (read : RuntimeRead) :
    Exec.Keeps (Guarded excuse StillRecorded index) (runtimeRead other read) := by
  have checks : Exec.Keeps (Guarded excuse StillRecorded index) (verifyIdentityInBatch other) :=
    (verifyIdentityInBatch_checks other).threadReadsOnly.guardedReads stillRecorded_agreement
  have issues : ∀ command, Exec.Keeps (Guarded excuse StillRecorded index) (do
      issueCommand other command
      verifyIdentityInBatch other
      pure .nothing : Sysfs RuntimeResult) := fun command =>
    Exec.keeps_bind (issueCommand_guarded other command) fun _ =>
      Exec.keeps_bind checks fun _ => Exec.keeps_pure _
  cases read with
  | schemeStats context scheme refresh =>
      exact Exec.keeps_bind (readScheme_guarded fun scheme =>
        scheme.stats_confined fun _ => trivial) fun _ => Exec.keeps_pure _
  | triedRegions context scheme refresh =>
      exact Exec.keeps_bind (readScheme_guarded fun scheme =>
        scheme.triedRegions_confined fun _ => trivial) fun _ => Exec.keeps_pure _
  | triedBytesUnits context scheme refresh =>
      exact Exec.keeps_bind (readScheme_guarded fun scheme => readU64_confined trivial)
        fun _ => Exec.keeps_pure _
  | effectiveQuotaUnits context scheme refresh =>
      exact Exec.keeps_bind (readScheme_guarded fun scheme => readU64_confined trivial)
        fun _ => Exec.keeps_pure _
  | updateTunedIntervals => exact issues _
  | clearTriedRegions => exact issues _

theorem runtimeBatch_guarded (other : Nat) (read : RuntimeRead) :
    Exec.Keeps (Guarded excuse StillRecorded index)
      (runtimeBatch other (runtimeRead other read)) := by
  have reads : ∀ {α : Type} {program : Sysfs α}, Confined ReadsOnly program →
      Exec.Keeps (Guarded excuse StillRecorded index) program :=
    fun confined => confined.guardedReads stillRecorded_agreement
  refine Exec.keeps_bind (reads (expectedRunningPid_confined other)) fun _ => ?_
  refine Exec.keeps_bind (reads (verifyRunning_checks other).threadReadsOnly) fun _ => ?_
  refine Exec.keeps_bind (Exec.keeps_attempt (runtimeRead_guarded other read)) fun result => ?_
  exact Exec.keeps_bind (reads (verifyRunningIdentity_checks other).threadReadsOnly)
    fun _ => Exec.keeps_ofExcept result

theorem isRunning_guarded (other : Nat) :
    Exec.Keeps (Guarded excuse StillRecorded index) (isRunning other) := by
  have reads : ∀ {α : Type} {program : Sysfs α}, Confined ReadsOnly program →
      Exec.Keeps (Guarded excuse StillRecorded index) program :=
    fun confined => confined.guardedReads stillRecorded_agreement
  refine Exec.keeps_bind (reads (validateKdamondIndex_confined other)) fun _ =>
    Exec.keeps_bind (reads .self) fun self => ?_
  cases self.state other with
  | staged =>
      exact Exec.keeps_bind (reads self.staged.verify_reads.readsOnly) fun _ =>
        Exec.keeps_bind (reads (requireStagedOff_reads other).readsOnly) fun _ =>
          Exec.keeps_pure false
  | running pid =>
      refine Exec.keeps_bind (Exec.keeps_attempt
        (reads (verifyRunning_checks other).threadReadsOnly)) fun outcome => ?_
      split
      · exact Exec.keeps_pure true
      · exact Exec.keeps_pure false
      · exact Exec.keeps_fail _
  | unidentifiedRunning => exact Exec.keeps_fail _

/-- Replacing a staged configuration checks no identity. -/
theorem replaceStagedConfiguration_clear (config : DamonConfig) :
    Exec.Keeps (Clear excuse index) (replaceStagedConfiguration config) := by
  have reads : ∀ {α : Type} {program : Sysfs α}, Confined ReadsConfiguration program →
      Exec.Keeps (Clear excuse index) program := fun confined => confined.clearReads
  refine Exec.keeps_bind (reads .environment) fun env => ?_
  refine Exec.keeps_bind (Exec.keeps_ofExcept _) fun _ => Exec.keeps_bind (reads .self)
    fun self => ?_
  refine Exec.keeps_ite (Exec.keeps_fail _) ?_
  cases firstNotStaged self.states with
  | some index => exact Exec.keeps_fail _
  | none =>
      refine Exec.keeps_bind (reads self.staged.verify_reads) fun _ => ?_
      refine Exec.keeps_bind (reads ensureHierarchyStopped_reads.retry) fun _ => ?_
      refine Exec.keeps_bind (reads DamonAdmin.configuration_confined.retry) fun previous => ?_
      refine Exec.keeps_bind (reads self.staged.verify_reads) fun _ => ?_
      refine Exec.keeps_bind (Exec.keeps_attempt
        (stageAndVerifyConfiguration_stages config _).clearStages) fun outcome => ?_
      cases outcome with
      | ok current => exact modifySelf_clear _
      | error operation =>
          refine Exec.keeps_bind (Exec.keeps_attempt
            (stageAndVerifyConfiguration_stages previous none).clearStages) fun outcome => ?_
          cases outcome with
          | ok current =>
              exact Exec.keeps_bind (modifySelf_clear _) fun _ => Exec.keeps_fail _
          | error rollback => exact Exec.keeps_fail _

theorem capture_guarded (damon : Damon) :
    Exec.Keeps (Guarded excuse StillRecorded index) (PersistentReceipt.capture damon) := by
  have reads : ∀ {α : Type} {program : Sysfs α}, Confined ReadsOnly program →
      Exec.Keeps (Guarded excuse StillRecorded index) program :=
    fun confined => confined.guardedReads stillRecorded_agreement
  refine Exec.keeps_bind (reads verifyOwnedState_readsOnly) fun _ =>
    Exec.keeps_bind (reads .self) fun self => ?_
  refine Exec.keeps_bind (reads self.staged.verifyComplete_reads.readsOnly) fun _ => ?_
  refine Exec.keeps_bind (Exec.keeps_ofExcept _) fun identities => ?_
  exact Exec.keeps_bind (Accesses.guarded stillRecorded_agreement
    (currentBootId_accesses WritesNot.inspects)) fun bootId => Exec.keeps_pure _

end Calls

/-- The world at the beginning of a call whose accesses are looked at. -/
def World.beginCall (world : World) : World := { world with trace := [] }

theorem clear_beginCall (excuse : Event → Prop) (index : Nat) (world : World) :
    Clear excuse index world.beginCall :=
  ⟨fun _ => trivial, fun _ lost => lost⟩

/-- What happens to a kdamond during a call that is not undone safely: its thread is replaced
while it is being paused, or it goes off again after its thread was replaced while the session is
being closed. -/
def SessionOp.Disturbed (index : Nat) (pid : Pid) (trace : List Event) : SessionOp → Prop
  | pauseContext kdamond context | resumeContext kdamond context =>
      kdamond = index ∧ ManagedHierarchy.FoundWhilePausing index context pid trace
  | close | drop => SeenOffWhileLost index pid trace
  | _ => False

/-- A call writes nothing below a kdamond after it found that its thread was replaced, unless the
kdamond goes off while the session is being closed, or its thread is replaced while it is being
paused. -/
theorem call_noWriteWhileLost (damon : Damon) (operation : SessionOp) (index : Nat) (env : Env)
    (world : World)
    (undisturbed : ∀ pid, ¬operation.Disturbed index pid
      (operation.program damon env world.beginCall).2.trace) :
    ∀ pid, NoWriteWhileLost (fun _ => False) index pid
      (operation.program damon env world.beginCall).2.trace := by
  have clear := clear_beginCall (fun _ => False) index world
  have discards : ∀ {agrees : Nat → Pid → List KdamondSessionState → Prop} {α : Type}
      {program : Sysfs α}, Exec.Keeps (Guarded (fun _ => False) agrees index) program →
      ∀ pid, NoWriteWhileLost (fun _ => False) index pid
        (SessionOp.discard program env world.beginCall).2.trace :=
    fun keeps => (Exec.keeps_bind keeps (fun _ => Exec.keeps_pure ()) env _ clear.guarded).safe
  have reads : ∀ {α : Type} {program : Sysfs α}, Confined ReadsOnly program →
      Exec.Keeps (Guarded (fun _ => False) ManagedHierarchy.StillRecorded index) program :=
    fun confined => confined.guardedReads ManagedHierarchy.stillRecorded_agreement
  have paused : ∀ kdamond context paused, (∀ pid, ¬(kdamond = index ∧
        ManagedHierarchy.FoundWhilePausing index context pid
          (ManagedHierarchy.setContextPaused kdamond context paused env world.beginCall).2.trace)) →
      ∀ pid, NoWriteWhileLost (fun _ => False) index pid
        (ManagedHierarchy.setContextPaused kdamond context paused env world.beginCall).2.trace := by
    intro kdamond context paused unfound
    by_cases same : index = kdamond
    · subst same
      rcases ManagedHierarchy.setContextPaused_ends paused env world.beginCall
        ⟨clear, rfl⟩ with ⟨pid, found⟩ | safe
      · exact absurd ⟨rfl, found⟩ (unfound pid)
      · exact safe
    · exact (ManagedHierarchy.setContextPaused_clear same context paused env _ clear).safe
  cases operation with
  | startAll => exact (ManagedHierarchy.startAll_concludes env _ clear).safe
  | stopAll => exact (ManagedHierarchy.stopAll_guarded env _ clear.guarded).safe
  | updateConfiguration config indices =>
      exact (ManagedHierarchy.updateConfiguration_guarded config indices env _ clear.guarded).safe
  | updateSchemeQuotaGoals kdamond context scheme goals =>
      exact (ManagedHierarchy.updateSchemeQuotaGoals_guarded kdamond context scheme goals env _
        clear.guarded).safe
  | pauseContext kdamond context => exact paused kdamond context true undisturbed
  | resumeContext kdamond context => exact paused kdamond context false undisturbed
  | runtime kdamond read => exact discards (runtimeBatch_guarded kdamond read)
  | isRunning kdamond => exact discards (isRunning_guarded kdamond)
  | configuration => exact discards (reads ManagedHierarchy.configuration_readsOnly)
  | observedConfiguration =>
      exact discards (reads ManagedHierarchy.observedConfiguration_readsOnly)
  | replaceStagedConfiguration config =>
      exact (replaceStagedConfiguration_clear config env _ clear).safe
  | captureReceipt => exact discards (capture_guarded damon)
  | close =>
      exact fun pid => noWriteWhileLost_of_unseen (undisturbed pid)
        (close_safe (fun _ off => off) env _ (clear_beginCall _ index world) pid)
  | drop =>
      exact fun pid => noWriteWhileLost_of_unseen (undisturbed pid)
        (drop_safe (fun _ off => off) env _ (clear_beginCall _ index world).guarded pid)

/-! ## A thread replaced during a pause -/

namespace PauseFixture

theorem pid_valid : (0 : UInt32) < 100 ∧ (100 : UInt32) ≤ 2147483647 := by decide

def pid : Pid := ⟨100, pid_valid⟩

def pausePath : Path := ["kdamonds", "0", "contexts", "0", "pause"]

/-- One running kdamond with one context. -/
def files : Files := .ofAttributes
  [(["kdamonds", "nr_kdamonds"], "1", true), (["kdamonds", "0", "state"], "on", true),
    (["kdamonds", "0", "pid"], "100", false),
    (["kdamonds", "0", "contexts", "nr_contexts"], "1", true), (pausePath, "N", true)]

/-- The session that started the kdamond. -/
def self : ManagedHierarchy where
  previous := none
  staged := ⟨⟨[], ⟨[⟨pausePath, "N"⟩, ⟨["kdamonds", "0", "contexts", "nr_contexts"], "1"⟩,
    ⟨["kdamonds", "nr_kdamonds"], "1"⟩]⟩⟩, [], 1⟩
  states := [.running pid]
  ownsHierarchy := true

def world : World := ⟨.settled files, 0, self, none, []⟩

/-- The kdamond is restarted by another controller right before the access with a given number. -/
def restartedAt (moment : Nat) : Env :=
  { Env.calm .bare pid with
    interfere := fun clock sys =>
      if clock = moment then sys.showState ["kdamonds", "0"] "on" "200" else sys }

def damon : Damon := ⟨.ofString "/sys/kernel/mm/damon/admin", .ofString "/run/lock/damon.lock"⟩

end PauseFixture

open PauseFixture in
/-- A thread replaced after the commit of a pause: the rollback writes the pause attribute. -/
theorem pauseContext_writesWhileLost :
    ¬NoWriteWhileLost (fun _ => False) 0 pid
      ((SessionOp.pauseContext 0 0).program damon (restartedAt 11) world.beginCall).2.trace := by
  decide +kernel

open PauseFixture in
/-- A thread replaced before the first check of a pause: the call finds it, and writes nothing. -/
theorem call_noWriteWhileLost_pause :
    NoWriteWhileLost (fun _ => False) 0 PauseFixture.pid
      ((SessionOp.pauseContext 0 0).program damon (restartedAt 3) world.beginCall).2.trace := by
  have unwritten : ∀ event ∈
      ((SessionOp.pauseContext 0 0).program damon (restartedAt 3) world.beginCall).2.trace,
      ManagedHierarchy.Event.writesPause event 0 0 = false := by
    decide +kernel
  have undisturbed : ∀ pid, ¬(SessionOp.pauseContext 0 0).Disturbed 0 pid
      ((SessionOp.pauseContext 0 0).program damon (restartedAt 3) world.beginCall).2.trace := by
    intro pid disturbed
    obtain ⟨event, inside, writes⟩ := ManagedHierarchy.FoundWhilePausing.written disturbed.2
    rw [unwritten event inside] at writes
    cases writes
  exact call_noWriteWhileLost damon (.pauseContext 0 0) 0 (restartedAt 3) world undisturbed
    PauseFixture.pid

end DamonRs
