import DamonRs.Monitor.Identity

/-!
# Only identified kdamonds are stopped

A session sends `off` only to a kdamond whose thread it has recorded: a thread
that it read after its own successful start, or that came from a receipt, and
that the latest read before the command shows once more.
-/

namespace DamonRs

open Library Sysfs

/-! ## Properties of traces -/

/-- The kernel accepted a start that the session asked for. -/
structure Event.Starts (event : Event) (index : Nat) : Prop where
  access : event.access = .write (Path.stateOf index) "on"
  reply : event.reply = .done

/-- A thread was read from a kdamond after the session had started it. -/
def StartedAs (index : Nat) (pid : Pid) (trace : List Event) : Prop :=
  ∃ later event earlier, trace = later ++ event :: earlier ∧ event.ReadsPid index pid ∧
    ∃ first ∈ earlier, first.Starts index

/-- Where a recorded thread may come from. -/
def Origin (start : SessionStart) (index : Nat) (pid : Pid) (trace : List Event) : Prop :=
  start.records index pid ∨ StartedAs index pid trace

/-- A stop of a kdamond follows on the identification of its recorded thread. -/
def IdentifiedStop (start : SessionStart) (index : Nat) (event : Event)
    (earlier : List Event) : Prop :=
  ∃ pid, event.states[index]? = some (.running pid) ∧ Origin start index pid earlier ∧
    LastReported index pid earlier

/-- Every stop in a trace follows on an identification. -/
def IdentifiedStops (start : SessionStart) : List Event → Prop
  | [] => True
  | event :: earlier =>
      (∀ index, event.access = .write (Path.stateOf index) "off" →
        IdentifiedStop start index event earlier) ∧ IdentifiedStops start earlier

theorem StartedAs.cons {index : Nat} {pid : Pid} {trace : List Event}
    (started : StartedAs index pid trace) (event : Event) :
    StartedAs index pid (event :: trace) := by
  obtain ⟨later, read, earlier, rfl, reads, starts⟩ := started
  exact ⟨event :: later, read, earlier, rfl, reads, starts⟩

theorem Origin.cons {start : SessionStart} {index : Nat} {pid : Pid} {trace : List Event}
    (origin : Origin start index pid trace) (event : Event) :
    Origin start index pid (event :: trace) :=
  origin.imp id fun started => started.cons event

theorem Origin.extends_ {allowed : Access → Prop} {start : SessionStart} {index : Nat} {pid : Pid}
    {before after : World} (origin : Origin start index pid before.trace)
    (extends_ : World.Extends allowed before after) : Origin start index pid after.trace :=
  extends_.induct _ origin fun event _ _ _ origin => origin.cons event

/-! ## The invariant of a session -/

/-- Recorded threads have an origin, and so does everything that was stopped. -/
structure Identified (start : SessionStart) (world : World) : Prop where
  recorded : ∀ index pid, world.self.states[index]? = some (.running pid) →
    Origin start index pid world.trace
  stops : IdentifiedStops start world.trace
  previous : ∀ snapshot, world.self.previous = some snapshot → snapshot.Captured

namespace Identified

variable {start : SessionStart}

theorem initial (sys : System) : Identified start (World.initial sys) where
  recorded := by simp [World.initial, ManagedHierarchy.released]
  stops := trivial
  previous := by simp [World.initial, ManagedHierarchy.released]

/-- Accesses other than stops keep the invariant. -/
theorem extends_ {before after : World} (identified : Identified start before)
    (extends_ : World.Extends NoStop before after) : Identified start after where
  recorded := by
    intro index pid running
    rw [extends_.self] at running
    exact (identified.recorded index pid running).extends_ extends_
  stops := by
    refine extends_.induct _ identified.stops fun event earlier permitted _ stops => ⟨?_, stops⟩
    intro index stop
    rw [stop] at permitted
    exact absurd rfl (permitted rfl index)
  previous := by
    rw [extends_.self]
    exact identified.previous

end Identified

section Keeps

variable {start : SessionStart}

theorem Accesses.identified {α : Type} {program : Sysfs α} (accesses : Accesses NoStop program) :
    Exec.Keeps (Identified start) program :=
  fun env world identified => identified.extends_ (accesses env world)

theorem NoStop.inspects (path : Path) : NoStop (.inspect path) := trivial

/-- Reading keeps the invariant. -/
theorem Sysfs.Confined.identifiedReads {α : Type} {program : Sysfs α}
    (confined : Confined ReadsOnly program) : Exec.Keeps (Identified start) program :=
  ((confined.mono fun _ => ReadsOnly.noStop).accesses NoStop.inspects).identified

/-- Writing configuration keeps the invariant. -/
theorem Sysfs.Confined.identifiedWrites {α : Type} {program : Sysfs α}
    (confined : Confined WritesConfiguration program) : Exec.Keeps (Identified start) program :=
  ((confined.mono fun _ => WritesConfiguration.noStop).accesses NoStop.inspects).identified

/-- A command other than `off` keeps the invariant. -/
theorem command_noStop (index : Nat) {command : KdamondCommand}
    (other : command.kernelName ≠ "off") :
    Confined NoStop (retryBusy ((DamonAdmin.kdamond index).command command)) :=
  .retry (Kdamond.command_confined index command fun stop => absurd stop other)

/-- The memory that a program reads satisfies the invariant. -/
theorem keeps_getSelf {α : Type} {next : ManagedHierarchy → Sysfs α}
    (keeps : ∀ self, (∀ snapshot, self.previous = some snapshot → snapshot.Captured) →
      Exec.Keeps (Identified start) (next self)) :
    Exec.Keeps (Identified start) (getSelf >>= next) :=
  fun env world identified => keeps world.self identified.previous env world identified

namespace ManagedHierarchy

/-- Forgetting the thread of a kdamond keeps the invariant. -/
theorem setState_identified (index : Nat) {state : KdamondSessionState}
    (unknown : ∀ pid, state ≠ .running pid) :
    Exec.Keeps (Identified start) (setState index state) := by
  intro env world identified
  refine ⟨fun other pid running => ?_, identified.stops, identified.previous⟩
  have entry : (world.self.states.set index state)[other]? = some (.running pid) := running
  rw [List.getElem?_set] at entry
  split at entry
  · split at entry
    · injection entry with same
      exact absurd same (unknown pid)
    · cases entry
  · exact identified.recorded other pid entry

theorem setState_running {env : Env} (index : Nat) (pid : Pid) :
    Exec.Triple env (fun world => Identified start world ∧ Origin start index pid world.trace)
      (setState index (.running pid)) fun _ => Identified start := by
  rintro world ⟨identified, origin⟩
  refine ⟨fun other found running => ?_, identified.stops, identified.previous⟩
  have entry : (world.self.states.set index (.running pid))[other]? = some (.running found) :=
    running
  rw [List.getElem?_set] at entry
  split at entry
  · rename_i same
    split at entry
    · injection entry with samePid
      injection samePid with samePid
      exact same ▸ samePid ▸ origin
    · cases entry
  · exact identified.recorded other found entry

/-! ## Starting -/

/-- After a successful start, the trace holds it. -/
theorem start_identified {env : Env} (index : Nat) :
    Exec.Triple env (Identified start) (retryBusy ((kdamond index).command .on))
      fun outcome world => Identified start world ∧
        (outcome = .ok () → ∃ first ∈ world.trace, first.Starts index) := by
  intro world identified
  have sends : Confined NoStop (retryBusy ((kdamond index).command .on)) :=
    command_noStop index (by decide)
  have keeps := (sends.accesses NoStop.inspects).identified env world identified
  refine ⟨keeps, fun succeeded => ?_⟩
  obtain ⟨before, _, ends⟩ := Exec.retry_ends Error.isResourceBusy
    ((kdamond index).command .on) maxRetries env world
  have run : (kdamond index).command .on env before =
      (.ok (), (retryBusy ((kdamond index).command .on) env world).2) :=
    ends.symm.trans (Prod.ext succeeded rfl)
  obtain ⟨_, middle, valid, written⟩ := Exec.bind_eq_ok run
  obtain ⟨_, event, trace, access, reply⟩ := writeBytes_ok written
  exact ⟨event, by rw [trace]; exact List.mem_cons_self .., access, reply⟩

/-- A start records only the thread it reads afterwards. -/
theorem startOne_identified (index : Nat) :
    Exec.Keeps (Identified start) (startOne index) := by
  intro env
  show Exec.Triple env (Identified start) (startOne index) fun _ => Identified start
  refine Exec.triple_bind (start_identified index) (fun _ => ?_) fun _ _ failed => failed.1
  have started : Exec.Triple env
      (fun world => Identified start world ∧ ∃ first ∈ world.trace, first.Starts index)
      (setState index .unidentifiedRunning) fun _ world =>
        Identified start world ∧ ∃ first ∈ world.trace, first.Starts index :=
    fun world held => ⟨setState_identified index (by simp) env world held.1, held.2⟩
  refine Exec.Triple.weaken (Exec.triple_seq started (fun _ => ?_) fun _ held => held.1)
    (fun world held => ⟨held.1, held.2 rfl⟩) fun _ _ held => held
  have read : Exec.Triple env
      (fun world => Identified start world ∧ ∃ first ∈ world.trace, first.Starts index)
      (runningThreadPid (kdamond index)) fun outcome world => Identified start world ∧
        ∀ pid, outcome = .ok pid → Origin start index pid world.trace := by
    rintro world ⟨identified, first, member, starts⟩
    refine ⟨(runningThreadPid_checks index).threadReadsOnly.identifiedReads env world identified,
      fun pid succeeded => ?_⟩
    obtain ⟨middle, event, extends_, _, trace, reads, _⟩ :=
      runningThreadPid_ok (Prod.ext succeeded rfl)
    obtain ⟨_, later, earlier, _⟩ := extends_
    refine .inr ⟨[], event, middle.trace, trace, reads, first, ?_, starts⟩
    rw [earlier]
    exact List.mem_append_right _ member
  refine Exec.triple_bind read (fun pid => ?_) fun _ _ failed => failed.1
  refine Exec.Triple.weaken (Exec.triple_seq (setState_running index pid) (fun _ => ?_)
    fun _ held => held) (fun world held => ⟨held.1, held.2 pid rfl⟩) fun _ _ held => held
  refine Exec.Keeps.triple (Exec.keeps_bind
    (verifyRunningIdentityOnly_checks index).threadReadsOnly.identifiedReads fun _ => ?_) env
  exact keeps_getSelf fun self _ =>
    (self.staged.verifyKdamondConfiguration_reads index).readsOnly.identifiedReads

/-! ## Stopping -/

/-- The thread of a kdamond is recorded, and was read last. -/
structure ReadyToStop (start : SessionStart) (index : Nat) (pid : Pid) (world : World) : Prop where
  identified : Identified start world
  running : world.self.states[index]? = some (.running pid)
  reported : LastReported index pid world.trace

/-- Accesses that inspect, or stop one kdamond. -/
def StopsOne (index : Nat) (access : Access) : Prop :=
  (∃ path, access = .inspect path) ∨ access = .write (Path.stateOf index) "off"

/-- A stop of an identified kdamond, repeated or not, is identified. -/
theorem off_readyToStop (index : Nat) (pid : Pid) :
    Exec.Keeps (ReadyToStop start index pid)
      (retryBusy ((kdamond index).command .off)) := by
  intro env world ready
  have sends : Confined (StopsOne index) ((kdamond index).command .off) :=
    Kdamond.command_confined index .off (.inr rfl)
  have extends_ : World.Extends (StopsOne index) world
      (retryBusy ((kdamond index).command .off) env world).2 :=
    sends.retry.accesses (fun path => .inl ⟨path, rfl⟩) env world
  have origin := ready.identified.recorded index pid ready.running
  have kept : IdentifiedStops start (retryBusy ((kdamond index).command .off) env world).2.trace ∧
      Origin start index pid (retryBusy ((kdamond index).command .off) env world).2.trace ∧
      LastReported index pid (retryBusy ((kdamond index).command .off) env world).2.trace := by
    refine extends_.induct (fun trace => IdentifiedStops start trace ∧
      Origin start index pid trace ∧ LastReported index pid trace)
      ⟨ready.identified.stops, origin, ready.reported⟩ ?_
    · rintro event earlier permitted states ⟨stops, origin, reported⟩
      refine ⟨⟨fun other stop => ?_, stops⟩, origin.cons event, reported.cons ?_⟩
      · rcases permitted with ⟨path, inspected⟩ | sent
        · cases inspected.symm.trans stop
        · rw [sent] at stop
          injection stop with same
          obtain rfl := Path.stateOf_injective same
          exact ⟨pid, by rw [states]; exact ready.running, origin, reported⟩
      · rcases permitted with ⟨path, inspected⟩ | sent
        · rw [inspected]
          simp
        · rw [sent]
          simp
  refine ⟨⟨?_, kept.1, ?_⟩, ?_, kept.2.2⟩
  · intro other found running
    rw [extends_.self] at running
    exact (ready.identified.recorded other found running).extends_ extends_
  · rw [extends_.self]
    exact ready.identified.previous
  · rw [extends_.self]
    exact ready.running

/-- A stop is sent only after the recorded thread has been read again. -/
theorem stopIdentified_identified {env : Env} (index : Nat) (expected : Pid) :
    Exec.Triple env
      (fun world => Identified start world ∧
        world.self.states[index]? = some (.running expected))
      (stopIdentified index expected) fun _ => Identified start := by
  have read : Exec.Triple env
      (fun world => Identified start world ∧
        world.self.states[index]? = some (.running expected))
      (currentPid index) fun outcome world => Identified start world ∧
        world.self.states[index]? = some (.running expected) ∧
        ∀ pid, outcome = .ok pid → LastReported index pid world.trace := by
    rintro world ⟨identified, running⟩
    have moves := (currentPid_checks index).threadReadsOnly.accesses (fun _ => trivial) env world
    refine ⟨(currentPid_checks index).threadReadsOnly.identifiedReads env world identified,
      by rw [moves.self]; exact running, fun pid succeeded => ?_⟩
    exact (currentPid_ok (Prod.ext succeeded rfl)).lastReported
  refine Exec.triple_bind read (fun current => ?_) fun _ _ failed => failed.1
  have compared : Exec.Triple env
      (fun world => Identified start world ∧
        world.self.states[index]? = some (.running expected) ∧
        LastReported index current world.trace)
      (requireSamePid current expected) fun outcome world =>
        Identified start world ∧ (outcome = .ok () → ReadyToStop start index expected world) := by
    rintro world ⟨identified, running, reported⟩
    unfold requireSamePid
    by_cases different : current ≠ expected
    · rw [if_pos different]
      exact ⟨identified, fun succeeded => nomatch succeeded⟩
    · rw [if_neg different]
      exact ⟨identified, fun _ => ⟨identified, running, not_not.mp different ▸ reported⟩⟩
  refine Exec.Triple.weaken (Exec.triple_bind compared (fun _ => ?_) fun _ _ failed => failed.1)
    (fun world held => ⟨held.1, held.2.1, held.2.2 current rfl⟩) fun _ _ held => held
  refine Exec.Triple.weaken (Exec.triple_seq ((off_readyToStop index expected).triple env)
    (fun _ => ?_) fun _ ready => ready.identified) (fun world held => held.2 rfl)
    fun _ _ held => held
  refine Exec.Triple.weaken (Exec.Keeps.triple (Exec.keeps_bind
    (Kdamond.state_confined index).retry.readsOnly.identifiedReads fun state => ?_) env)
    (fun world ready => ready.identified) fun _ _ held => held
  cases state with
  | off => exact setState_identified index (by simp)
  | on => exact Exec.keeps_fail _
  | unknown name => exact Exec.keeps_fail _

theorem stopOne_identified (index : Nat) : Exec.Keeps (Identified start) (stopOne index) := by
  intro env world identified
  have reads := (Kdamond.state_confined index).retry
  have read : Exec.Keeps (Identified start) (retryBusy (kdamond index).state) :=
    reads.readsOnly.identifiedReads
  have forgets : Exec.Keeps (Identified start) (setState index .staged) :=
    setState_identified index (by simp)
  unfold stopOne
  rw [Exec.bind_run, getSelf_run]
  dsimp only
  cases recorded : world.self.state index with
  | staged => exact (requireStagedOff_reads index).readsOnly.identifiedReads env world identified
  | unidentifiedRunning =>
      refine Exec.keeps_bind read (fun state => ?_) env world identified
      cases state with
      | off => exact forgets
      | on => exact Exec.keeps_fail _
      | unknown name => exact Exec.keeps_fail _
  | running expected =>
      have running := state_eq_running.mp recorded
      have first : Exec.Triple env
          (fun world => Identified start world ∧
            world.self.states[index]? = some (.running expected))
          (retryBusy (kdamond index).state) fun _ world => Identified start world ∧
            world.self.states[index]? = some (.running expected) := by
        rintro world ⟨identified, running⟩
        have moves : World.Extends ReadsConfiguration world
            (retryBusy (kdamond index).state env world).2 :=
          reads.accesses (fun _ => trivial) env world
        exact ⟨read env world identified, by rw [moves.self]; exact running⟩
      refine Exec.triple_seq first (fun state => ?_) (fun _ held => held.1) world
        ⟨identified, running⟩
      cases state with
      | off => exact fun world held => forgets env world held.1
      | on => exact stopIdentified_identified index expected
      | unknown name => exact fun world held => held.1

theorem verifyAndStop_identified (index : Nat) :
    Exec.Keeps (Identified start) (verifyAndStop index) :=
  keeps_getSelf fun self _ => Exec.keeps_bind
    (self.staged.verifyKdamondConfiguration_reads index).readsOnly.identifiedReads
    fun _ => stopOne_identified index

theorem reportFirst_identified (first : Option Error) :
    Exec.Keeps (Identified start) (reportFirst first) := by
  cases first with
  | none => exact Exec.keeps_pure ()
  | some error => exact Exec.keeps_fail error

theorem rollbackStartedEach_identified (first : Option Error) (indices : List Nat) :
    Exec.Keeps (Identified start) (rollbackStartedEach first indices) := by
  induction indices generalizing first with
  | nil => exact Exec.keeps_pure first
  | cons index rest ih =>
      refine keeps_getSelf fun self _ => Exec.keeps_ite (ih first) ?_
      exact Exec.keeps_bind (Exec.keeps_attempt (verifyAndStop_identified index))
        fun outcome => ih _

theorem rollbackStarted_identified : Exec.Keeps (Identified start) rollbackStarted := by
  refine keeps_getSelf fun self _ => Exec.keeps_ite (Exec.keeps_pure ()) ?_
  refine Exec.keeps_bind self.staged.verifyCount_reads.readsOnly.identifiedReads fun _ => ?_
  exact Exec.keeps_bind (rollbackStartedEach_identified none _) fun first =>
    reportFirst_identified first

theorem orRollbackStarted_identified {step : Sysfs Unit}
    (keeps : Exec.Keeps (Identified start) step) :
    Exec.Keeps (Identified start) (orRollbackStarted step) := by
  refine Exec.keeps_bind (Exec.keeps_attempt keeps) fun outcome => ?_
  cases outcome with
  | ok value => exact Exec.keeps_pure ()
  | error operation =>
      exact Exec.keeps_bind (Exec.keeps_attempt rollbackStarted_identified) fun _ =>
        Exec.keeps_fail _

theorem startAll_identified : Exec.Keeps (Identified start) startAll := by
  refine keeps_getSelf fun self _ => Exec.keeps_ite (Exec.keeps_fail _) ?_
  refine Exec.keeps_bind (Exec.keeps_ofExcept _) fun _ => ?_
  refine Exec.keeps_bind verifyStaged_reads.readsOnly.identifiedReads fun _ => ?_
  refine Exec.keeps_bind (Exec.keeps_forEach _ fun index _ =>
    (requireStagedOff_reads index).readsOnly.identifiedReads) fun _ => ?_
  refine Exec.keeps_bind (Exec.keeps_forEach _ fun index _ => ?_) fun _ =>
    orRollbackStarted_identified verifyOwnedState_readsOnly.identifiedReads
  refine Exec.keeps_bind (orRollbackStarted_identified ?_) fun _ =>
    orRollbackStarted_identified (startOne_identified index)
  exact keeps_getSelf fun self _ => Exec.keeps_bind
    self.staged.verifyCount_reads.readsOnly.identifiedReads fun _ =>
      (self.staged.verifyKdamondConfiguration_reads index).readsOnly.identifiedReads

theorem stopEach_identified (first : Option Error) (indices : List Nat) :
    Exec.Keeps (Identified start) (stopEach first indices) := by
  induction indices generalizing first with
  | nil => exact Exec.keeps_pure first
  | cons index rest ih =>
      refine keeps_getSelf fun self _ => Exec.keeps_bind (Exec.keeps_attempt
        self.staged.verifyCount_reads.readsOnly.identifiedReads) fun outcome => ?_
      cases outcome with
      | error error => exact Exec.keeps_pure _
      | ok value =>
          exact Exec.keeps_bind (Exec.keeps_attempt (verifyAndStop_identified index))
            fun outcome => ih _

theorem stopAll_identified : Exec.Keeps (Identified start) stopAll := by
  refine keeps_getSelf fun self _ => Exec.keeps_ite (Exec.keeps_pure ()) ?_
  refine Exec.keeps_bind self.staged.verifyCount_reads.readsOnly.identifiedReads fun _ => ?_
  refine Exec.keeps_bind (stopEach_identified none _) fun first => ?_
  exact Exec.keeps_bind (reportFirst_identified first) fun _ =>
    verifyStaged_reads.readsOnly.identifiedReads

/-! ## Closing -/

/-- Changing parts of the memory other than the states and the captured hierarchy. -/
theorem modifySelf_identified {change : ManagedHierarchy → ManagedHierarchy}
    (states : ∀ (self : ManagedHierarchy) (index : Nat) (pid : Pid), (change self).states[index]? = some (.running pid) →
      self.states[index]? = some (.running pid))
    (previous : ∀ self snapshot, (change self).previous = some snapshot →
      self.previous = some snapshot) :
    Exec.Keeps (Identified start) (modifySelf change) :=
  fun _ world identified => ⟨fun index pid running =>
    identified.recorded index pid (states world.self index pid running), identified.stops,
    fun snapshot kept => identified.previous snapshot (previous world.self snapshot kept)⟩

theorem setStaged_identified (staged : StagedOwnership) :
    Exec.Keeps (Identified start) (setStaged staged) :=
  modifySelf_identified (fun _ _ _ running => running) fun _ _ kept => kept

theorem release_identified : Exec.Keeps (Identified start) release :=
  fun _ world identified => ⟨by simp [ManagedHierarchy.released, release], identified.stops,
    by simp [ManagedHierarchy.released, release]⟩

theorem closeInner_identified : Exec.Keeps (Identified start) closeInner := by
  refine keeps_getSelf fun self captured => Exec.keeps_ite (Exec.keeps_pure ()) ?_
  refine Exec.keeps_bind stopAll_identified fun _ => ?_
  refine Exec.keeps_bind verifyStaged_reads.readsOnly.identifiedReads fun _ => ?_
  cases previous : self.previous with
  | none => exact Exec.keeps_fail _
  | some snapshot =>
      refine Exec.keeps_bind (ConfigurationSnapshot.matchesCurrent_confined
        snapshot).retry.readsOnly.identifiedReads fun matched => ?_
      have last : Exec.Keeps (Identified start)
          (modifySelf fun self => { self with ownsHierarchy := false }) :=
        modifySelf_identified (fun _ _ _ running => running) fun _ _ kept => kept
      refine Exec.keeps_ite last (Exec.keeps_bind ?_ fun _ => last)
      exact (restoreConfiguration_stages (captured snapshot previous)).writes.identifiedWrites

theorem drop_identified : Exec.Keeps (Identified start) drop :=
  keeps_getSelf fun _ _ => Exec.keeps_ite (Exec.keeps_bind
    (Exec.keeps_attempt closeInner_identified) fun _ => release_identified) release_identified

theorem close_identified : Exec.Keeps (Identified start) close :=
  Exec.keeps_bind (Exec.keeps_attempt closeInner_identified) fun _ =>
    Exec.keeps_bind drop_identified fun _ => Exec.keeps_ofExcept _

theorem isRunning_identified (index : Nat) :
    Exec.Keeps (Identified start) (isRunning index) := by
  refine Exec.keeps_bind (Accesses.identified ((validateKdamondIndex_confined index).accesses
    NoStop.inspects)) fun _ => keeps_getSelf fun self _ => ?_
  cases self.state index with
  | staged =>
      exact Exec.keeps_bind self.staged.verify_reads.readsOnly.identifiedReads fun _ =>
        Exec.keeps_bind (requireStagedOff_reads index).readsOnly.identifiedReads fun _ =>
          Exec.keeps_pure false
  | running pid =>
      refine Exec.keeps_bind (Exec.keeps_attempt
        (verifyRunning_checks index).threadReadsOnly.identifiedReads) fun outcome => ?_
      split
      · exact Exec.keeps_pure true
      · exact Exec.keeps_pure false
      · exact Exec.keeps_fail _
  | unidentifiedRunning => exact Exec.keeps_fail _

/-! ## Transactions -/

theorem commandIdentified_identified {command : KdamondCommand}
    (other : command.kernelName ≠ "off") (index : Nat) :
    Exec.Keeps (Identified start) (commandIdentified command index) :=
  Exec.keeps_bind (verifyRunningIdentityOnly_checks index).threadReadsOnly.identifiedReads
    fun _ => Exec.keeps_bind ((command_noStop index other).accesses NoStop.inspects).identified
      fun _ => (verifyRunningIdentityOnly_checks index).threadReadsOnly.identifiedReads

theorem verifyBoundaryOr_identified (snapshot : ConfigurationSnapshot) (writes : List Path)
    {restoration : Sysfs Unit} (keeps : Exec.Keeps (Identified start) restoration) :
    Exec.Keeps (Identified start) (verifyBoundaryOr snapshot writes restoration) := by
  refine Exec.keeps_bind (Exec.keeps_attempt
    (verifyRollbackBoundary_reads snapshot writes).readsOnly.identifiedReads) fun outcome => ?_
  cases outcome with
  | ok value => exact Exec.keeps_pure ()
  | error boundary =>
      exact Exec.keeps_bind (Exec.keeps_attempt keeps) fun _ => Exec.keeps_fail _

theorem collectWrites_identified {α : Type} {operation : Sysfs α}
    (keeps : Exec.Keeps (Identified start) operation) :
    Exec.Keeps (Identified start) (collectWrites operation) := by
  intro env world identified
  have journalled : Identified start { world with journal := some [] } :=
    ⟨identified.recorded, identified.stops, identified.previous⟩
  have after := keeps env _ journalled
  exact ⟨after.recorded, after.stops, after.previous⟩

theorem transact_identified {transaction : Sysfs StagedOwnership}
    {rollback : List Path → Sysfs StagedOwnership}
    (forward : Exec.Keeps (Identified start) transaction)
    (backward : ∀ writes, Exec.Keeps (Identified start) (rollback writes)) :
    Exec.Keeps (Identified start) (transact transaction rollback) := by
  refine Exec.keeps_bind (collectWrites_identified forward) fun collected => ?_
  obtain ⟨outcome, writes⟩ := collected
  cases outcome with
  | ok staged => exact setStaged_identified staged
  | error operation =>
      refine Exec.keeps_bind (Exec.keeps_attempt (backward writes)) fun outcome => ?_
      cases outcome with
      | ok staged => exact Exec.keeps_bind (setStaged_identified staged) fun _ => Exec.keeps_fail _
      | error failure => exact Exec.keeps_fail _

section Transactions

variable {snapshot : ConfigurationSnapshot} (captured : snapshot.Captured)
include captured

theorem restoreAndCommitRunning_identified (config : DamonConfig) (selected : List Nat)
    (writes : List Path) :
    Exec.Keeps (Identified start) (restoreAndCommitRunning snapshot config selected writes) := by
  have identities : Exec.Keeps (Identified start) verifyOwnedIdentitiesOnly :=
    verifyOwnedIdentitiesOnly_readsOnly.identifiedReads
  have restores : Exec.Keeps (Identified start) (restoreWritten snapshot writes) :=
    (restoreWritten_stages captured writes).writes.identifiedWrites
  have commits : Exec.Keeps (Identified start)
      (Exec.forEach (commandIdentified .commit) selected) :=
    Exec.keeps_forEach _ fun index _ => commandIdentified_identified (by decide) index
  refine Exec.keeps_bind identities fun _ => ?_
  refine Exec.keeps_bind (verifyBoundaryOr_identified snapshot writes
    (Exec.keeps_bind restores fun _ => commits)) fun _ => ?_
  refine Exec.keeps_bind restores fun _ => Exec.keeps_bind identities fun _ => ?_
  refine Exec.keeps_bind (requireUnchanged_reads snapshot _).readsOnly.identifiedReads fun _ => ?_
  refine Exec.keeps_bind commits fun _ => ?_
  refine Exec.keeps_bind DamonAdmin.configurationSnapshot_confined.retry.readsOnly.identifiedReads
    fun current => ?_
  refine Exec.keeps_bind (requireUnchanged_reads snapshot _).readsOnly.identifiedReads fun _ => ?_
  exact (Confined.seq (StagedOwnership.verify_reads _) (.pure _)).readsOnly.identifiedReads

theorem restoreAndCommitQuotaGoals_identified (index : Nat) (writes : List Path) :
    Exec.Keeps (Identified start) (restoreAndCommitQuotaGoals snapshot index writes) := by
  have restores : Exec.Keeps (Identified start) (restoreWritten snapshot writes) :=
    (restoreWritten_stages captured writes).writes.identifiedWrites
  have commits : Exec.Keeps (Identified start)
      (commandIdentified .commitSchemesQuotaGoals index) :=
    commandIdentified_identified (by decide) index
  refine Exec.keeps_bind verifyOwnedIdentitiesOnly_readsOnly.identifiedReads fun _ => ?_
  refine Exec.keeps_bind (verifyBoundaryOr_identified snapshot writes
    (Exec.keeps_bind restores fun _ => commits)) fun _ => ?_
  refine Exec.keeps_bind restores fun _ => Exec.keeps_bind commits fun _ => ?_
  refine Exec.keeps_bind (requireUnchanged_reads snapshot _).readsOnly.identifiedReads fun _ => ?_
  refine Exec.keeps_bind DamonAdmin.configurationSnapshot_confined.retry.readsOnly.identifiedReads
    fun current => keeps_getSelf fun self _ => ?_
  exact (Confined.seq (StagedOwnership.verify_reads _) (.pure _)).readsOnly.identifiedReads

end Transactions

theorem stageAndCommitRunning_identified (config : DamonConfig) (observed : Option DamonConfig)
    (selected : List Nat) :
    Exec.Keeps (Identified start) (stageAndCommitRunning config observed selected) := by
  refine Exec.keeps_bind verifyOwnedIdentitiesOnly_readsOnly.identifiedReads fun _ => ?_
  refine Exec.keeps_bind (stageRunning_writes config observed).identifiedWrites fun _ => ?_
  refine Exec.keeps_bind (verifyStagedRunning_readsOnly config observed _).identifiedReads
    fun snapshot => ?_
  refine Exec.keeps_bind (Exec.keeps_forEach _ fun index _ =>
    commandIdentified_identified (by decide) index) fun _ => Exec.keeps_ite ?_ ?_
  · refine Exec.keeps_bind (stageRunning_writes _ _).identifiedWrites fun _ => ?_
    exact Exec.keeps_bind (verifyStagedRunning_readsOnly _ _ _).identifiedReads fun cleaned =>
      (recordOwnership_reads cleaned _).readsOnly.identifiedReads
  · exact (recordOwnership_reads snapshot config).readsOnly.identifiedReads

theorem updateConfiguration_identified (config : DamonConfig) (indices : List Nat) :
    Exec.Keeps (Identified start) (updateConfiguration config indices) := by
  have owned : Exec.Keeps (Identified start) verifyOwnedState :=
    verifyOwnedState_readsOnly.identifiedReads
  refine Exec.keeps_bind (Confined.environment.identifiedReads) fun env => ?_
  refine Exec.keeps_bind (Exec.keeps_ofExcept _) fun _ => keeps_getSelf fun self _ => ?_
  refine Exec.keeps_bind (Exec.keeps_ofExcept _) fun selected => ?_
  refine Exec.keeps_bind (Exec.keeps_ofExcept _) fun _ => ?_
  refine Exec.keeps_bind (Exec.keeps_forEach _ fun index _ => Exec.keeps_bind
    (expectedRunningPid_confined index).identifiedReads fun _ => Exec.keeps_pure ()) fun _ => ?_
  refine Exec.keeps_bind owned fun _ => ?_
  refine Exec.keeps_bind_returned
    DamonAdmin.configurationSnapshot_confined.retry.readsOnly.identifiedReads
    fun snapshot returned => ?_
  have captured := DamonAdmin.configurationSnapshot_returns (Exec.returns_retry returned)
  refine Exec.keeps_bind DamonAdmin.configuration_confined.retry.readsOnly.identifiedReads
    fun previous => ?_
  refine Exec.keeps_bind (requireUnchanged_reads snapshot _).readsOnly.identifiedReads fun _ => ?_
  refine Exec.keeps_bind owned fun _ => ?_
  refine Exec.keeps_bind (Exec.keeps_ofExcept _) fun comparable => ?_
  refine Exec.keeps_bind (Exec.keeps_ofExcept _) fun kdamonds => ?_
  refine Exec.keeps_bind (Exec.keeps_ofExcept _) fun _ => ?_
  exact transact_identified (stageAndCommitRunning_identified _ _ _)
    fun writes => restoreAndCommitRunning_identified captured previous selected writes

theorem stageAndCommitQuotaGoals_identified (i j k : Nat)
    (goals observed : List QuotaGoalConfig) (index : Nat) :
    Exec.Keeps (Identified start) (stageAndCommitQuotaGoals
      (((DamonAdmin.kdamond i).context j).scheme k).quotas goals observed index) := by
  have identities : Exec.Keeps (Identified start) verifyOwnedIdentitiesOnly :=
    verifyOwnedIdentitiesOnly_readsOnly.identifiedReads
  have stages := (SchemeQuotas.stageGoalsFrom_stages i j k goals (some observed)).writes
  refine Exec.keeps_bind identities fun _ => ?_
  refine Exec.keeps_bind (Exec.keeps_retry (Exec.keeps_bind identities fun _ =>
    stages.identifiedWrites) maxRetries) fun _ => ?_
  refine Exec.keeps_bind identities fun _ => ?_
  refine Exec.keeps_bind (requireOwned_confined
    (unchangedOutsideGoals_reads _ goals observed)).readsOnly.identifiedReads fun _ => ?_
  refine Exec.keeps_bind DamonAdmin.configurationSnapshot_confined.retry.readsOnly.identifiedReads
    fun snapshot => ?_
  refine Exec.keeps_bind (SchemeQuotas.goalConfigurations_confined
    (schemeQuotas_below i j k)).retry.readsOnly.identifiedReads fun stagedGoals => ?_
  refine Exec.keeps_ite (Exec.keeps_fail _) (Exec.keeps_bind (requireOwned_confined
    snapshot.valuesMatchCurrent_confined.retry).readsOnly.identifiedReads fun _ => ?_)
  refine Exec.keeps_bind identities fun _ => Exec.keeps_bind
    (commandIdentified_identified (by decide) index) fun _ => keeps_getSelf fun self _ => ?_
  exact (Confined.seq (StagedOwnership.verify_reads _) (.pure _)).readsOnly.identifiedReads

theorem updateSchemeQuotaGoals_identified (kdamondIndex contextIndex schemeIndex : Nat)
    (goals : List QuotaGoalConfig) :
    Exec.Keeps (Identified start)
      (updateSchemeQuotaGoals kdamondIndex contextIndex schemeIndex goals) := by
  have owned : Exec.Keeps (Identified start) verifyOwnedState :=
    verifyOwnedState_readsOnly.identifiedReads
  refine Exec.keeps_bind (validateKdamondIndex_confined kdamondIndex).identifiedReads fun _ => ?_
  refine Exec.keeps_bind (Exec.keeps_ofExcept _) fun _ => ?_
  refine Exec.keeps_bind (expectedRunningPid_confined kdamondIndex).identifiedReads fun _ => ?_
  refine Exec.keeps_bind owned fun _ => ?_
  refine Exec.keeps_bind_returned
    DamonAdmin.configurationSnapshot_confined.retry.readsOnly.identifiedReads
    fun snapshot returned => ?_
  have captured := DamonAdmin.configurationSnapshot_returns (Exec.returns_retry returned)
  refine Exec.keeps_bind_returned (scheme_reads _ _ _).readsOnly.identifiedReads
    fun found found_returned => ?_
  rw [scheme_returns found_returned]
  refine Exec.keeps_bind (SchemeQuotas.configuration_confined
    (schemeQuotas_below _ _ _)).retry.readsOnly.identifiedReads fun quota => ?_
  refine Exec.keeps_bind (requireUnchanged_reads snapshot _).readsOnly.identifiedReads fun _ => ?_
  refine Exec.keeps_bind owned fun _ => Exec.keeps_bind (Exec.keeps_ofExcept _) fun _ => ?_
  refine Exec.keeps_ite (Exec.keeps_pure ()) (transact_identified ?_ fun writes => ?_)
  · exact stageAndCommitQuotaGoals_identified _ _ _ _ _ _
  · exact restoreAndCommitQuotaGoals_identified captured _ writes

/-! ## Pausing -/

theorem withConfiguration_identified (configuration : ConfigurationSnapshot) :
    Exec.Keeps (Identified start) (modifySelf fun self =>
      { self with staged := self.staged.withConfiguration configuration }) :=
  modifySelf_identified (fun _ _ _ running => running) fun _ _ kept => kept

theorem commitPaused_identified (index contextIndex : Nat) (paused : Bool) :
    Exec.Keeps (Identified start) (commitPaused index contextIndex paused) := by
  have checks : Exec.Keeps (Identified start) (verifyRunningIdentityOnly index) :=
    (verifyRunningIdentityOnly_checks index).threadReadsOnly.identifiedReads
  refine Exec.keeps_bind ((command_noStop index (by decide)).accesses
    NoStop.inspects).identified fun _ => ?_
  refine Exec.keeps_bind checks fun _ => ?_
  have isPaused : Confined ReadsOnly ((kdamond index).context contextIndex).isPaused :=
    readBool_confined trivial
  refine Exec.keeps_bind isPaused.identifiedReads fun observed =>
    Exec.keeps_ite (Exec.keeps_fail _) (keeps_getSelf fun self _ => ?_)
  refine Exec.keeps_bind (refreshPaused_reads _ index contextIndex _).readsOnly.identifiedReads
    fun refreshed => ?_
  exact Exec.keeps_bind checks fun _ => withConfiguration_identified refreshed

theorem restorePaused_identified (index contextIndex : Nat) (previous : Bool)
    (snapshot : ConfigurationSnapshot) :
    Exec.Keeps (Identified start) (restorePaused index contextIndex previous snapshot) := by
  refine Exec.keeps_bind (setPaused_stages index contextIndex previous).writes.identifiedWrites
    fun _ => ?_
  refine Exec.keeps_bind ((command_noStop index (by decide)).accesses
    NoStop.inspects).identified fun _ => keeps_getSelf fun self _ => ?_
  refine Exec.keeps_bind (refreshPaused_reads _ index contextIndex _).readsOnly.identifiedReads
    fun restored => ?_
  exact Exec.keeps_bind (verifyRunningIdentityOnly_checks index).threadReadsOnly.identifiedReads
    fun _ => withConfiguration_identified restored

theorem setContextPaused_identified (index contextIndex : Nat) (paused : Bool) :
    Exec.Keeps (Identified start) (setContextPaused index contextIndex paused) := by
  refine Exec.keeps_bind (verifyRunning_checks index).threadReadsOnly.identifiedReads fun _ => ?_
  refine Exec.keeps_bind (Kdamond.contextCount_confined
    (readsConfiguration_below index)).readsOnly.identifiedReads fun contextCount => ?_
  refine Exec.keeps_ite (Exec.keeps_fail _) ?_
  have available : Confined ReadsOnly
      ((kdamond index).context contextIndex).pauseControlAvailable := pathExists_confined _
  have isPaused : Confined ReadsOnly ((kdamond index).context contextIndex).isPaused :=
    readBool_confined trivial
  refine Exec.keeps_bind available.identifiedReads fun available =>
    Exec.keeps_ite (Exec.keeps_fail _) ?_
  refine Exec.keeps_bind isPaused.identifiedReads fun previous =>
    Exec.keeps_ite ?_ (keeps_getSelf fun self _ => ?_)
  · exact (verifyRunningIdentity_checks index).threadReadsOnly.identifiedReads
  refine Exec.keeps_bind (setPaused_stages index contextIndex paused).writes.identifiedWrites
    fun _ => ?_
  refine Exec.keeps_bind (Exec.keeps_attempt
    (commitPaused_identified index contextIndex paused)) fun outcome => ?_
  cases outcome with
  | ok value => exact Exec.keeps_pure ()
  | error operation =>
      exact Exec.keeps_bind (Exec.keeps_attempt
        (restorePaused_identified index contextIndex previous _)) fun _ => Exec.keeps_fail _

/-! ## Replacing the staged configuration -/

theorem replaceStagedConfiguration_identified (config : DamonConfig) :
    Exec.Keeps (Identified start) (replaceStagedConfiguration config) := by
  refine Exec.keeps_bind Confined.environment.identifiedReads fun env => ?_
  refine Exec.keeps_bind (Exec.keeps_ofExcept _) fun _ => keeps_getSelf fun self _ => ?_
  refine Exec.keeps_ite (Exec.keeps_fail _) ?_
  cases firstNotStaged self.states with
  | some index => exact Exec.keeps_fail _
  | none =>
      have verified : Exec.Keeps (Identified start) self.staged.verify :=
        self.staged.verify_reads.readsOnly.identifiedReads
      refine Exec.keeps_bind verified fun _ => ?_
      refine Exec.keeps_bind ensureHierarchyStopped_reads.retry.readsOnly.identifiedReads
        fun _ => ?_
      refine Exec.keeps_bind DamonAdmin.configuration_confined.retry.readsOnly.identifiedReads
        fun previous => ?_
      refine Exec.keeps_bind verified fun _ => ?_
      refine Exec.keeps_bind (Exec.keeps_attempt
        (stageAndVerifyConfiguration_stages config _).writes.identifiedWrites) fun outcome => ?_
      cases outcome with
      | ok current => exact setStaged_identified _
      | error operation =>
          refine Exec.keeps_bind (Exec.keeps_attempt
            (stageAndVerifyConfiguration_stages previous none).writes.identifiedWrites) fun outcome => ?_
          cases outcome with
          | ok current =>
              exact Exec.keeps_bind (setStaged_identified _) fun _ => Exec.keeps_fail _
          | error rollback => exact Exec.keeps_fail _

end ManagedHierarchy

/-! ## Receipts and runtime results -/

theorem capture_identified (damon : Damon) :
    Exec.Keeps (Identified start) (PersistentReceipt.capture damon) := by
  refine Exec.keeps_bind ManagedHierarchy.verifyOwnedState_readsOnly.identifiedReads
    fun _ => keeps_getSelf fun self _ => ?_
  refine Exec.keeps_bind self.staged.verifyComplete_reads.readsOnly.identifiedReads fun _ => ?_
  refine Exec.keeps_bind (Exec.keeps_ofExcept _) fun identities => ?_
  exact Exec.keeps_bind (currentBootId_accesses NoStop.inspects).identified
    fun bootId => Exec.keeps_pure _

theorem runtimeBatch_identified (index : Nat) (read : RuntimeRead) :
    Exec.Keeps (Identified start)
      (ManagedHierarchy.runtimeBatch index (ManagedHierarchy.runtimeRead index read)) := by
  have sends := (ManagedHierarchy.runtimeRead_sends index read).mono fun _ =>
    SendsOnly.noStop read.command_ne_off
  refine Exec.keeps_bind (ManagedHierarchy.expectedRunningPid_confined index).identifiedReads
    fun _ => ?_
  refine Exec.keeps_bind
    (ManagedHierarchy.verifyRunning_checks index).threadReadsOnly.identifiedReads fun _ => ?_
  refine Exec.keeps_bind (Exec.keeps_attempt (sends.accesses NoStop.inspects).identified)
    fun result => ?_
  exact Exec.keeps_bind
    (ManagedHierarchy.verifyRunningIdentity_checks index).threadReadsOnly.identifiedReads
    fun _ => Exec.keeps_ofExcept result

/-! ## Whole sessions -/

/-- The captured hierarchy that a staging returns holds configuration only. -/
theorem stageValidatedConfigurationLocked_returns {config : DamonConfig}
    {staged : StagedConfiguration}
    (returns : Exec.Returns (Damon.stageValidatedConfigurationLocked config) staged) :
    staged.previous.Captured := by
  obtain ⟨_, _, returns⟩ := Exec.returns_bind returns
  obtain ⟨previous, captured, returns⟩ := Exec.returns_bind returns
  have isCaptured := DamonAdmin.configurationSnapshot_returns (Exec.returns_retry captured)
  obtain ⟨observed, _, returns⟩ := Exec.returns_bind returns
  obtain ⟨_, _, returns⟩ := Exec.returns_bind returns
  obtain ⟨_, _, returns⟩ := Exec.returns_bind returns
  split at returns
  · rw [Exec.returns_pure returns]
    exact isCaptured
  · obtain ⟨outcome, _, returns⟩ := Exec.returns_bind returns
    cases outcome with
    | ok current =>
        rw [Exec.returns_pure returns]
        exact isCaptured
    | error operation =>
        obtain ⟨_, _, returns⟩ := Exec.returns_bind returns
        obtain ⟨_, _, _, run⟩ := returns
        cases run

theorem stageValidatedConfigurationLocked_identified (config : DamonConfig) :
    Exec.Keeps (Identified start) (Damon.stageValidatedConfigurationLocked config) := by
  have stopped : Exec.Keeps (Identified start) (retryBusy ensureHierarchyStopped) :=
    ensureHierarchyStopped_reads.retry.readsOnly.identifiedReads
  refine Exec.keeps_bind stopped fun _ => ?_
  refine Exec.keeps_bind_returned
    DamonAdmin.configurationSnapshot_confined.retry.readsOnly.identifiedReads
    fun previous returned => ?_
  have captured := DamonAdmin.configurationSnapshot_returns (Exec.returns_retry returned)
  refine Exec.keeps_bind (Exec.keeps_bind (Exec.keeps_attempt
    DamonAdmin.configuration_confined.retry.readsOnly.identifiedReads) fun outcome => ?_)
    fun observed => ?_
  · cases outcome with
    | ok observed => exact Exec.keeps_pure _
    | error error => exact Exec.keeps_ite (Exec.keeps_pure _) (Exec.keeps_fail _)
  refine Exec.keeps_bind (requireOwned_confined
    previous.valuesMatchCurrent_confined.retry).readsOnly.identifiedReads fun _ => ?_
  refine Exec.keeps_bind stopped fun _ => Exec.keeps_ite (Exec.keeps_pure _) ?_
  refine Exec.keeps_bind (Exec.keeps_attempt
    (stageAndVerifyConfiguration_stages config observed).writes.identifiedWrites) fun outcome => ?_
  cases outcome with
  | ok current => exact Exec.keeps_pure _
  | error operation =>
      exact Exec.keeps_bind (Exec.keeps_attempt
        (restoreConfiguration_stages captured).writes.identifiedWrites) fun _ => Exec.keeps_fail _

theorem new_identified {staged : StagedConfiguration} (captured : staged.previous.Captured)
    (config : DamonConfig) : Exec.Keeps (Identified start) (ManagedHierarchy.new staged config) := by
  refine Exec.keeps_bind (Exec.keeps_attempt
    (StagedOwnership.verify_reads _).readsOnly.identifiedReads) fun outcome => ?_
  cases outcome with
  | error operation =>
      exact Exec.keeps_bind (Exec.keeps_attempt
        (restoreConfiguration_stages captured).writes.identifiedWrites) fun _ => Exec.keeps_fail _
  | ok value =>
      intro env world identified
      refine ⟨fun index pid running => ?_, identified.stops, ?_⟩
      · have recorded : (List.replicate config.kdamonds.length KdamondSessionState.staged)[index]? =
            some (.running pid) := running
        rw [List.getElem?_replicate] at recorded
        split at recorded <;> cases recorded
      · rintro snapshot ⟨⟩
        exact captured

theorem managedHierarchy_identified (damon : Damon) (config : DamonConfig) :
    Exec.Keeps (Identified start) (damon.managedHierarchy config) := by
  refine Exec.keeps_bind Confined.environment.identifiedReads fun env => ?_
  refine Exec.keeps_bind (Exec.keeps_ofExcept _) fun _ => ?_
  refine Exec.keeps_bind (SessionLock.acquire_accesses NoStop.inspects _).identified fun _ => ?_
  exact Exec.keeps_bind_returned (stageValidatedConfigurationLocked_identified config)
    fun staged returned => new_identified (stageValidatedConfigurationLocked_returns returned) config

/-- The threads of an attached hierarchy are those of its receipt. -/
theorem attachedStates_running {previous : Option Nat} {identities : List (Nat × Pid)}
    {states attached : List KdamondSessionState}
    (made : ManagedHierarchy.attachedStates previous identities states = .ok attached)
    {index : Nat} {pid : Pid} (running : attached[index]? = some (.running pid)) :
    (index, pid) ∈ identities ∨ states[index]? = some (.running pid) := by
  induction identities generalizing previous states with
  | nil =>
      cases made
      exact .inr running
  | cons identity rest ih =>
      unfold ManagedHierarchy.attachedStates at made
      split at made
      · cases made
      · split at made
        · cases made
        · rcases ih made with inRest | before
          · exact .inl (List.mem_cons_of_mem identity inRest)
          · rw [List.getElem?_set] at before
            split at before
            · rename_i same
              split at before
              · injection before with samePid
                injection samePid with samePid
                exact .inl (by rw [← same, ← samePid]; exact List.mem_cons_self ..)
              · cases before
            · exact .inr before

theorem openManaged_identified (damon : Damon) (receipt : PersistentReceipt) :
    Exec.Keeps (Identified (.attached receipt)) (receipt.openManaged damon) := by
  refine Exec.keeps_bind (verifyBinding_accesses NoStop.inspects receipt damon).identified
    fun _ => ?_
  refine Exec.keeps_bind (SessionLock.acquire_accesses NoStop.inspects _).identified fun _ => ?_
  refine Exec.keeps_bind (Exec.keeps_ofExcept _) fun configuration => ?_
  refine Exec.keeps_bind (StagedOwnership.verifyComplete_reads _).readsOnly.identifiedReads
    fun _ => ?_
  refine Exec.keeps_bind_returned (Exec.keeps_ofExcept _) fun states returned => ?_
  refine Exec.keeps_bind ?_ fun _ => Exec.keeps_bind (Exec.keeps_attempt
    ManagedHierarchy.verifyOwnedState_readsOnly.identifiedReads) fun outcome => ?_
  · intro env world identified
    refine ⟨fun index pid running => ?_, identified.stops, fun _ kept => nomatch kept⟩
    obtain ⟨_, _, _, run⟩ := returned
    rcases attachedStates_running (Prod.ext_iff.mp run).1 running with recorded | staged
    · exact .inl recorded
    · rw [List.getElem?_replicate] at staged
      split at staged <;> cases staged
  · cases outcome with
    | ok value => exact Exec.keeps_pure ()
    | error error =>
        exact Exec.keeps_bind ManagedHierarchy.drop_identified fun _ => Exec.keeps_fail _

theorem SessionStart.program_identified (damon : Damon) (start : SessionStart) :
    Exec.Keeps (Identified start) (start.program damon) := by
  cases start with
  | managed config => exact managedHierarchy_identified damon config
  | attached receipt => exact openManaged_identified damon receipt

/-- Every operation keeps the invariant, whether or not it succeeds. -/
theorem SessionOp.program_identified (damon : Damon) (operation : SessionOp) :
    Exec.Keeps (Identified start) (operation.program damon) := by
  have discards : ∀ {α : Type} {program : Sysfs α}, Exec.Keeps (Identified start) program →
      Exec.Keeps (Identified start) (SessionOp.discard program) :=
    fun keeps => Exec.keeps_bind keeps fun _ => Exec.keeps_pure ()
  cases operation with
  | startAll => exact ManagedHierarchy.startAll_identified
  | stopAll => exact ManagedHierarchy.stopAll_identified
  | updateConfiguration config indices =>
      exact ManagedHierarchy.updateConfiguration_identified config indices
  | updateSchemeQuotaGoals kdamond context scheme goals =>
      exact ManagedHierarchy.updateSchemeQuotaGoals_identified kdamond context scheme goals
  | pauseContext kdamond context =>
      exact ManagedHierarchy.setContextPaused_identified kdamond context true
  | resumeContext kdamond context =>
      exact ManagedHierarchy.setContextPaused_identified kdamond context false
  | runtime kdamond read => exact discards (runtimeBatch_identified kdamond read)
  | isRunning kdamond => exact discards (ManagedHierarchy.isRunning_identified kdamond)
  | configuration => exact discards ManagedHierarchy.configuration_readsOnly.identifiedReads
  | observedConfiguration =>
      exact discards ManagedHierarchy.observedConfiguration_readsOnly.identifiedReads
  | replaceStagedConfiguration config =>
      exact ManagedHierarchy.replaceStagedConfiguration_identified config
  | captureReceipt => exact discards (capture_identified damon)
  | close => exact ManagedHierarchy.close_identified
  | drop => exact ManagedHierarchy.drop_identified

theorem runOperations_identified (damon : Damon) (operations : List SessionOp) :
    Exec.Keeps (Identified start) (runOperations damon operations) := by
  induction operations with
  | nil => exact Exec.keeps_pure ()
  | cons operation rest ih =>
      exact Exec.keeps_bind (Exec.keeps_attempt (operation.program_identified damon))
        fun _ => ih

end Keeps

theorem runSession_identified (damon : Damon) (start : SessionStart)
    (operations : List SessionOp) :
    Exec.Keeps (Identified start) (runSession damon start operations) :=
  Exec.keeps_bind (start.program_identified damon) fun _ =>
    runOperations_identified damon operations

/-- Whatever the environment does and whichever accesses fail, a session stops a kdamond only
while it records the thread that it last read from it. -/
theorem runSession_identifiedStops (damon : Damon) (start : SessionStart)
    (operations : List SessionOp) (env : Env) (sys : System) :
    IdentifiedStops start (runSession damon start operations env (World.initial sys)).2.trace :=
  (runSession_identified damon start operations env _ (Identified.initial sys)).stops

end DamonRs
