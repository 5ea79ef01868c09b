import DamonRs.Monitor.LostThreads

/-!
# Pausing with lost threads

A pause that fails is undone without another identity check.  Nothing is written into a lost
kdamond unless its thread is replaced between the write of the pause attribute and its
restoration.
-/

namespace DamonRs

open Library Sysfs

namespace ManagedHierarchy

/-! ## The pause attribute -/

/-- The pause attribute of a context. -/
def pausePath (index contextIndex : Nat) : Path :=
  ((kdamond index).context contextIndex).path ++ ["pause"]

/-- Whether an event is a write of the pause attribute of a context. -/
def Event.writesPause (event : Event) (index contextIndex : Nat) : Bool :=
  match event.access with
  | .write path _ => path == pausePath index contextIndex
  | _ => false

/-- Another thread was found after the pause attribute was written, and before it was restored. -/
def FoundWhilePausing (index contextIndex : Nat) (pid : Pid) : List Event → Prop
  | [] => False
  | event :: earlier =>
      (event.FindsOther index pid ∧
        earlier.countP (fun event => Event.writesPause event index contextIndex) = 1) ∨
        FoundWhilePausing index contextIndex pid earlier

theorem FoundWhilePausing.written {index contextIndex : Nat} {pid : Pid} {trace : List Event}
    (found : FoundWhilePausing index contextIndex pid trace) :
    ∃ event ∈ trace, Event.writesPause event index contextIndex = true := by
  induction trace with
  | nil => exact found.elim
  | cons event earlier ih =>
      rcases found with ⟨_, once⟩ | before
      · obtain ⟨write, inside, writes⟩ := List.countP_pos_iff.mp (once ▸ Nat.one_pos)
        exact ⟨write, List.mem_cons_of_mem event inside, writes⟩
      · obtain ⟨write, inside, writes⟩ := ih before
        exact ⟨write, List.mem_cons_of_mem event inside, writes⟩

section Pausing

variable {excuse : Event → Prop} {index contextIndex : Nat}

/-- Between the write of the pause attribute and its restoration: no thread is lost, or one was
found replaced. -/
structure Pausing (excuse : Event → Prop) (index contextIndex : Nat) (world : World) : Prop where
  once : world.trace.countP (fun event => Event.writesPause event index contextIndex) = 1
  found : (∃ pid, FoundWhilePausing index contextIndex pid world.trace) ∨
    Clear excuse index world

/-- Accesses that leave the pause attribute of a context alone. -/
def PauseNot (index contextIndex : Nat) (access : Access) : Prop :=
  ∀ value, access ≠ .write (pausePath index contextIndex) value

omit excuse in
theorem writesPause_of_pauseNot {event : Event} (permitted : PauseNot index contextIndex event.access) :
    Event.writesPause event index contextIndex = false := by
  unfold Event.writesPause
  cases access : event.access with
  | write path value =>
      have different : path ≠ pausePath index contextIndex := by
        rintro rfl
        exact permitted value access
      simpa using different
  | _ => rfl

theorem Pausing.extends_ {before after : World}
    (pausing : Pausing excuse index contextIndex before)
    (extends_ : World.Extends (PauseNot index contextIndex) before after) :
    Pausing excuse index contextIndex after := by
  have kept := extends_.induct
    (fun trace => trace.countP (fun event => Event.writesPause event index contextIndex) = 1 ∧
      ((∃ pid, FoundWhilePausing index contextIndex pid trace) ∨ ∀ pid,
        NoWriteWhileLost excuse index pid trace ∧ ¬LostAs excuse index pid trace))
    ⟨pausing.once, pausing.found.imp id fun clear pid => ⟨clear.safe pid, clear.found pid⟩⟩
    (fun event earlier permitted _ holds => by
      obtain ⟨once, found⟩ := holds
      refine ⟨?_, ?_⟩
      · rw [List.countP_cons, writesPause_of_pauseNot permitted, once]
        rfl
      rcases found with ⟨pid, found⟩ | clear
      · exact .inl ⟨pid, .inr found⟩
      · by_cases finds : ∃ pid, event.FindsOther index pid
        · obtain ⟨pid, finds⟩ := finds
          exact .inl ⟨pid, .inl ⟨finds, once⟩⟩
        · refine .inr fun pid => ⟨⟨fun _ => (clear pid).2, (clear pid).1⟩, fun lost => ?_⟩
          rcases lost with other | ⟨before, _⟩
          · exact finds ⟨pid, other⟩
          · exact (clear pid).2 before)
  exact ⟨kept.1, kept.2.imp id fun clear => ⟨fun pid => (clear pid).1, fun pid => (clear pid).2⟩⟩

theorem Accesses.pausing {α : Type} {program : Sysfs α}
    (accesses : Accesses (PauseNot index contextIndex) program) :
    Exec.Keeps (Pausing excuse index contextIndex) program :=
  fun env world pausing => pausing.extends_ (accesses env world)

theorem modifySelf_pausing (change : ManagedHierarchy → ManagedHierarchy) :
    Exec.Keeps (Pausing excuse index contextIndex) (modifySelf change) :=
  fun _ _ pausing => ⟨pausing.once, pausing.found.imp id fun clear => ⟨clear.safe, clear.found⟩⟩

/-! ### The accesses of a pause -/

/-- Accesses that check one kdamond, or make it commit. -/
def CommitsOnly (other : Nat) (access : Access) : Prop :=
  ChecksThread other access ∨ access = .write (Path.stateOf other) "commit"

omit contextIndex excuse in
theorem checksThread_checksNot {other : Nat} (different : index ≠ other) {access : Access}
    (checks : ChecksThread other access) : ChecksNot index access := by
  rcases checks with reads | rfl
  · exact (ReadsConfiguration.stages reads).checksNot
  · intro same
    injection same with same
    exact different (Path.pidOf_injective same).symm

omit contextIndex excuse in
theorem CommitsOnly.checksNot {other : Nat} (different : index ≠ other) {access : Access}
    (commits : CommitsOnly other access) : ChecksNot index access := by
  rcases commits with checks | rfl
  · exact checksThread_checksNot different checks
  · simp [ChecksNot]

omit excuse in
theorem CommitsOnly.pauseNot {access : Access} (commits : CommitsOnly index access) :
    PauseNot index contextIndex access := by
  rintro value rfl
  rcases commits with (reads | same) | same
  · exact reads
  · cases same
  · injection same with same
    simp [pausePath, kdamond, Kdamond.context, DamonAdmin.kdamond, Path.stateOf] at same

/-- An invariant of checks and commits is one of the commit of a pause. -/
theorem commitPaused_keeps {invariant : World → Prop} {other : Nat}
    (accesses : ∀ {α : Type} {program : Sysfs α}, Confined (CommitsOnly other) program →
      Exec.Keeps invariant program)
    (modifies : ∀ change, Exec.Keeps invariant (modifySelf change)) (contextIndex : Nat)
    (paused : Bool) : Exec.Keeps invariant (commitPaused other contextIndex paused) := by
  have reads : ∀ {α : Type} {program : Sysfs α}, Confined (ChecksThread other) program →
      Exec.Keeps invariant program := fun confined => accesses (confined.mono fun _ => .inl)
  have checks : Exec.Keeps invariant (verifyRunningIdentityOnly other) :=
    reads (verifyRunningIdentityOnly_checks other)
  have commits : Confined (CommitsOnly other) ((kdamond other).command .commit) :=
    Kdamond.command_confined other .commit (.inr rfl)
  have isPaused : Confined ReadsConfiguration ((kdamond other).context contextIndex).isPaused :=
    readBool_confined rfl
  refine Exec.keeps_bind (accesses commits.retry) fun _ => Exec.keeps_bind checks fun _ => ?_
  refine Exec.keeps_bind (reads isPaused.checks) fun observed =>
    Exec.keeps_ite (Exec.keeps_fail _) (Exec.keeps_bind (reads .self) fun self => ?_)
  refine Exec.keeps_bind (reads (refreshPaused_reads _ other contextIndex _).checks)
    fun refreshed => ?_
  exact Exec.keeps_bind checks fun _ => modifies _

/-- Restoring a pause checks only its own kdamond. -/
theorem restorePaused_clear {other : Nat} (different : index ≠ other) (contextIndex : Nat)
    (previous : Bool) (snapshot : ConfigurationSnapshot) :
    Exec.Keeps (Clear excuse index) (restorePaused other contextIndex previous snapshot) := by
  refine Exec.keeps_bind (setPaused_stages other contextIndex previous).clearStages fun _ => ?_
  refine Exec.keeps_bind (command_clear other .commit) fun _ =>
    Exec.keeps_bind (fun _ _ clear => clear) fun self => ?_
  refine Exec.keeps_bind (refreshPaused_reads _ other contextIndex _).clearReads
    fun restored => ?_
  exact Exec.keeps_bind ((verifyRunningIdentityOnly_checks other).clearChecks different.symm)
    fun _ => modifySelf_clear _

/-- Restoring a pause writes before it checks, and not afterwards. -/
theorem restorePaused_proceeds (previous : Bool) (snapshot : ConfigurationSnapshot) :
    Proceeds excuse StillRecorded index
      (restorePaused index contextIndex previous snapshot) := by
  refine (setPaused_stages index contextIndex previous).proceedsStages.bind fun _ => ?_
  refine (Exec.Keeps.proceeds (command_clear index .commit)).bind fun _ =>
    Proceeds.getSelf fun self => ?_
  refine (refreshPaused_reads _ index contextIndex _).proceedsReads.bind fun restored => ?_
  exact (verifyRunningIdentityOnly_proceeds stillRecorded_agreement index).bind fun _ =>
    Exec.Keeps.proceeds (modifySelf_clear _)

/-- Pausing another kdamond checks no identity of this one. -/
theorem setContextPaused_clear {other : Nat} (different : index ≠ other) (contextIndex : Nat)
    (paused : Bool) :
    Exec.Keeps (Clear excuse index) (setContextPaused other contextIndex paused) := by
  have available : Confined ReadsConfiguration
      ((kdamond other).context contextIndex).pauseControlAvailable := pathExists_confined _
  have isPaused : Confined ReadsConfiguration ((kdamond other).context contextIndex).isPaused :=
    readBool_confined rfl
  have commits : Exec.Keeps (Clear excuse index) (commitPaused other contextIndex paused) :=
    commitPaused_keeps (fun confined => Accesses.clear
      ((confined.mono fun _ => CommitsOnly.checksNot different).accesses ChecksNot.inspects))
      modifySelf_clear contextIndex paused
  refine Exec.keeps_bind ((verifyRunning_checks other).clearChecks different.symm) fun _ => ?_
  refine Exec.keeps_bind (Kdamond.contextCount_confined
    (readsConfiguration_below other)).clearReads fun contextCount => ?_
  refine Exec.keeps_ite (Exec.keeps_fail _) (Exec.keeps_bind available.clearReads fun available =>
    Exec.keeps_ite (Exec.keeps_fail _) ?_)
  refine Exec.keeps_bind isPaused.clearReads fun previous => Exec.keeps_ite
    ((verifyRunningIdentity_checks other).clearChecks different.symm)
    (Exec.keeps_bind (fun _ _ clear => clear) fun self => ?_)
  refine Exec.keeps_bind (setPaused_stages other contextIndex paused).clearStages fun _ => ?_
  refine Exec.keeps_bind (Exec.keeps_attempt commits) fun outcome => ?_
  cases outcome with
  | ok value => exact Exec.keeps_pure ()
  | error operation =>
      exact Exec.keeps_bind (Exec.keeps_attempt
        (restorePaused_clear different contextIndex previous _)) fun _ => Exec.keeps_fail _

/-- What holds after a pause: nothing was written into a lost kdamond, or another thread was
found between the write of the pause attribute and its restoration. -/
def PauseEnds (excuse : Event → Prop) (index contextIndex : Nat) (world : World) : Prop :=
  (∃ pid, FoundWhilePausing index contextIndex pid world.trace) ∨
    ∀ pid, NoWriteWhileLost excuse index pid world.trace

/-- What was found while pausing stays found. -/
theorem FoundWhilePausing.extends_ {allowed : Access → Prop} {before after : World} {pid : Pid}
    (found : FoundWhilePausing index contextIndex pid before.trace)
    (extends_ : World.Extends allowed before after) :
    FoundWhilePausing index contextIndex pid after.trace :=
  extends_.induct _ found fun _ _ _ _ found => .inr found

theorem verifyRunning_proceeds : Proceeds excuse StillRecorded index (verifyRunning index) :=
  (validateKdamondIndex_confined index).proceedsReads.bind fun _ =>
    verifyStaged_reads.proceedsReads.bind fun _ =>
      (verifies_of_reading stillRecorded_agreement
        (verifyRunningStateAndIdentityWithoutCount_checks index).threadReadsOnly
        fun _ _ _ => verifyRunningStateAndIdentityWithoutCount_ok).proceeds

/-- Before the pause attribute is written. -/
structure Unpaused (excuse : Event → Prop) (index contextIndex : Nat) (world : World) : Prop where
  clear : Clear excuse index world
  none : world.trace.countP (fun event => Event.writesPause event index contextIndex) = 0

theorem countPaused_extends {before after : World}
    (extends_ : World.Extends (PauseNot index contextIndex) before after) :
    after.trace.countP (fun event => Event.writesPause event index contextIndex) =
      before.trace.countP (fun event => Event.writesPause event index contextIndex) := by
  refine extends_.induct (fun trace => trace.countP
    (fun event => Event.writesPause event index contextIndex) = _) rfl
    fun event earlier permitted _ same => ?_
  rw [List.countP_cons, writesPause_of_pauseNot permitted, same]
  rfl

theorem setPaused_pausing (paused : Bool) (env : Env) :
    Exec.Triple env (Unpaused excuse index contextIndex)
      (((kdamond index).context contextIndex).setPaused paused) fun outcome world =>
        Clear excuse index world ∧ (outcome = .ok () → Pausing excuse index contextIndex world) := by
  intro world unpaused
  have after := (setPaused_stages index contextIndex paused).clearStages env world unpaused.clear
  refine ⟨after, fun succeeded => ⟨?_, .inr after⟩⟩
  have run : writeBytes (pausePath index contextIndex) (if paused then "Y" else "N") env world =
      (.ok (), (((kdamond index).context contextIndex).setPaused paused env world).2) :=
    Prod.ext succeeded rfl
  obtain ⟨_, event, trace, access, _⟩ := writeBytes_ok run
  have writes : Event.writesPause event index contextIndex = true := by
    simp [Event.writesPause, access]
  rw [trace, List.countP_cons, unpaused.none, writes]
  rfl

/-- What was found stays found while the pause is restored. -/
theorem restorePaused_found (previous : Bool) (snapshot : ConfigurationSnapshot) :
    Exec.Keeps (fun world => ∃ pid, FoundWhilePausing index contextIndex pid world.trace)
      (restorePaused index contextIndex previous snapshot) := by
  have accesses : ∀ {α : Type} {program : Sysfs α}, Confined (fun _ => True) program →
      Exec.Keeps (fun world => ∃ pid, FoundWhilePausing index contextIndex pid world.trace)
        program := by
    rintro α program confined env world ⟨pid, found⟩
    exact ⟨pid, found.extends_ (confined.accesses (fun _ => trivial) env world)⟩
  have any : ∀ {α : Type} {allowed : Access → Prop} {program : Sysfs α},
      Confined allowed program → Confined (fun _ => True) program :=
    fun confined => confined.mono fun _ _ => trivial
  refine Exec.keeps_bind (accesses (any (setPaused_stages index contextIndex previous)))
    fun _ => ?_
  refine Exec.keeps_bind (accesses (.retry (Kdamond.command_confined index .commit trivial)))
    fun _ => Exec.keeps_bind (accesses .self) fun self => ?_
  refine Exec.keeps_bind (accesses (any (refreshPaused_reads _ index contextIndex _)))
    fun restored => ?_
  exact Exec.keeps_bind (accesses (any (verifyRunningIdentityOnly_checks index)))
    fun _ _ _ found => found

/-- What follows on the read of the pause attribute. -/
theorem changePaused_ends (paused previous : Bool) (snapshot : ConfigurationSnapshot) (env : Env) :
    Exec.Triple env (Unpaused excuse index contextIndex) (do
      ((kdamond index).context contextIndex).setPaused paused
      match ← Exec.attempt (commitPaused index contextIndex paused) with
      | .ok () => pure ()
      | .error operation => do
          let rollback ← Exec.attempt
            (restorePaused index contextIndex previous snapshot)
          Exec.fail (withRollback operation rollback) : Sysfs Unit)
      fun _ => PauseEnds excuse index contextIndex := by
  have commits : Exec.Keeps (Pausing excuse index contextIndex)
      (commitPaused index contextIndex paused) :=
    commitPaused_keeps (fun confined => Accesses.pausing
      ((confined.mono fun _ => CommitsOnly.pauseNot).accesses fun path => by simp [PauseNot]))
      modifySelf_pausing contextIndex paused
  refine Exec.triple_bind (setPaused_pausing paused env) (fun _ => ?_)
    fun _ _ held => .inr held.1.safe
  refine Exec.Triple.weaken (Exec.triple_seq ((Exec.keeps_attempt commits).triple env)
    (fun outcome => ?_) fun _ pausing => pausing.found.imp id fun clear => clear.safe)
    (fun _ held => held.2 rfl) fun _ _ held => held
  cases outcome with
  | ok value => exact fun _ pausing => pausing.found.imp id fun clear => clear.safe
  | error operation =>
      intro world pausing
      rcases pausing.found with found | clear
      · exact .inl (restorePaused_found previous snapshot env world found)
      · exact .inr ((restorePaused_proceeds previous snapshot).guarded clear).safe

/-- A pause writes into no lost kdamond, or another thread was found while pausing. -/
theorem setContextPaused_ends (paused : Bool) (env : Env) :
    Exec.Triple env (Unpaused excuse index contextIndex)
      (setContextPaused index contextIndex paused)
      fun _ => PauseEnds excuse index contextIndex := by
  have keeps : ∀ {α : Type} {program : Sysfs α}, Confined ReadsOnly program →
      Proceeds excuse StillRecorded index program →
      Exec.Triple env (Unpaused excuse index contextIndex) program fun outcome world =>
        PauseEnds excuse index contextIndex world ∧
          ∀ value, outcome = .ok value → Unpaused excuse index contextIndex world := by
    intro α program reads proceeds world unpaused
    have settles := proceeds env world unpaused.clear
    refine ⟨.inr settles.guarded.safe, fun value succeeded => ⟨?_, ?_⟩⟩
    · rwa [succeeded] at settles
    · rw [countPaused_extends ((reads.accesses (fun _ => trivial) env world).mono
        fun access reads value same => by rw [same] at reads; exact reads)]
      exact unpaused.none
  have step : ∀ {α β : Type} {program : Sysfs α} {next : α → Sysfs β},
      Confined ReadsOnly program → Proceeds excuse StillRecorded index program →
      (∀ value, Exec.Triple env (Unpaused excuse index contextIndex) (next value)
        fun _ => PauseEnds excuse index contextIndex) →
      Exec.Triple env (Unpaused excuse index contextIndex) (program >>= next)
        fun _ => PauseEnds excuse index contextIndex :=
    fun reads proceeds second => Exec.triple_bind (keeps reads proceeds)
      (fun value => (second value).weaken (fun _ held => held.2 value rfl) fun _ _ held => held)
      fun _ _ held => held.1
  have fails : ∀ error : Error, Exec.Triple env (Unpaused excuse index contextIndex)
      (Exec.fail error : Sysfs Unit) fun _ => PauseEnds excuse index contextIndex :=
    fun _ _ unpaused => .inr unpaused.clear.safe
  have available : Confined ReadsConfiguration
      ((kdamond index).context contextIndex).pauseControlAvailable := pathExists_confined _
  have isPaused : Confined ReadsConfiguration ((kdamond index).context contextIndex).isPaused :=
    readBool_confined rfl
  have counts := Kdamond.contextCount_confined (readsConfiguration_below index)
  refine step (verifyRunning_checks index).threadReadsOnly verifyRunning_proceeds fun _ => ?_
  refine step counts.readsOnly counts.proceedsReads fun contextCount => ?_
  split
  · exact fails _
  refine step available.readsOnly available.proceedsReads fun available => ?_
  split
  · exact fails _
  refine step isPaused.readsOnly isPaused.proceedsReads fun previous => ?_
  split
  · refine (keeps (verifyRunningIdentity_checks index).threadReadsOnly
      (verifyStaged_reads.proceedsReads.bind fun _ =>
        verifyRunningIdentityOnly_proceeds stillRecorded_agreement index)).weaken
      (fun _ held => held) fun _ _ held => held.1
  · exact fun world => changePaused_ends paused previous _ env world

end Pausing

end ManagedHierarchy

end DamonRs
