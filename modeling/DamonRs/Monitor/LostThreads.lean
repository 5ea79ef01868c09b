import DamonRs.Monitor.StopSafety

/-!
# No write into a lost kdamond

A kdamond is lost once an identity check has read another thread than the
recorded one.  The calls of a session follow each such check by no write below
the kdamond, with two exceptions: undoing a pause, and closing once more.
-/

namespace DamonRs

open Library Sysfs

/-! ## Lost kdamonds -/

/-- A reply that shows something else than the identifier of a thread. -/
def Reply.ShowsOther (reply : Reply) (pid : Pid) : Prop :=
  match reply with
  | .content _ => ¬reply.Reports pid
  | _ => False

instance (reply : Reply) (pid : Pid) : Decidable (reply.ShowsOther pid) := by
  unfold Reply.ShowsOther
  split <;> infer_instance

/-- An identity check that found another thread than the recorded one. -/
structure Event.FindsOther (event : Event) (index : Nat) (pid : Pid) : Prop where
  recorded : event.states[index]? = some (.running pid)
  access : event.access = .read (Path.pidOf index)
  reply : event.reply.ShowsOther pid

instance (event : Event) (index : Nat) (pid : Pid) : Decidable (event.FindsOther index pid) :=
  decidable_of_iff (event.states[index]? = some (.running pid) ∧
      event.access = .read (Path.pidOf index) ∧ event.reply.ShowsOther pid)
    ⟨fun ⟨recorded, access, reply⟩ => ⟨recorded, access, reply⟩,
      fun finds => ⟨finds.recorded, finds.access, finds.reply⟩⟩

instance (event : Event) (index : Nat) (pid : Pid) : Decidable (event.ReadsPid index pid) :=
  decidable_of_iff (event.access = .read (Path.pidOf index) ∧ event.reply.Reports pid)
    ⟨fun ⟨access, reply⟩ => ⟨access, reply⟩, fun reads => ⟨reads.access, reads.reply⟩⟩

/-- A write of an attribute of a kdamond, which may be a command. -/
def Access.WritesBelow (index : Nat) : Access → Prop
  | .write path _ => (DamonAdmin.kdamond index).path <+: path
  | _ => False

instance (index : Nat) (access : Access) : Decidable (access.WritesBelow index) := by
  unfold Access.WritesBelow
  split <;> infer_instance

section Lost

variable (excuse : Event → Prop) (index : Nat) (pid : Pid)

/-- A thread was found replaced, and neither seen again nor excused afterwards. -/
def LostAs : List Event → Prop
  | [] => False
  | event :: earlier =>
      event.FindsOther index pid ∨
        (LostAs earlier ∧ ¬event.ReadsPid index pid ∧ ¬excuse event)

/-- Nothing was written below a kdamond while it was lost. -/
def NoWriteWhileLost : List Event → Prop
  | [] => True
  | event :: earlier =>
      (event.access.WritesBelow index → ¬LostAs excuse index pid earlier) ∧
        NoWriteWhileLost earlier

instance LostAs.decide [DecidablePred excuse] (trace : List Event) :
    Decidable (LostAs excuse index pid trace) :=
  match trace with
  | [] => .isFalse id
  | _ :: earlier =>
      have := LostAs.decide earlier
      inferInstanceAs (Decidable (_ ∨ _))

instance NoWriteWhileLost.decide [DecidablePred excuse] (trace : List Event) :
    Decidable (NoWriteWhileLost excuse index pid trace) :=
  match trace with
  | [] => .isTrue trivial
  | _ :: earlier =>
      have := NoWriteWhileLost.decide earlier
      inferInstanceAs (Decidable (_ ∧ _))

end Lost

/-- What holds at every moment of a call: lost threads are the recorded ones. -/
structure Guarded (excuse : Event → Prop) (agrees : Nat → Pid → List KdamondSessionState → Prop)
    (index : Nat) (world : World) : Prop where
  safe : ∀ pid, NoWriteWhileLost excuse index pid world.trace
  lost : ∀ pid, LostAs excuse index pid world.trace → agrees index pid world.self.states

/-- What holds where a call may write: no thread is lost. -/
structure Clear (excuse : Event → Prop) (index : Nat) (world : World) : Prop where
  safe : ∀ pid, NoWriteWhileLost excuse index pid world.trace
  found : ∀ pid, ¬LostAs excuse index pid world.trace

/-- Accesses that check no identity of a kdamond. -/
def ChecksNot (index : Nat) (access : Access) : Prop := access ≠ .read (Path.pidOf index)

/-- Accesses that write nothing below a kdamond. -/
def WritesNot (index : Nat) (access : Access) : Prop := ¬access.WritesBelow index

/-- The agreement of a lost thread with the recorded states that a kind of call maintains. -/
structure Agreement (agrees : Nat → Pid → List KdamondSessionState → Prop) : Prop where
  recorded : ∀ {index pid states}, states[index]? = some (.running pid) → agrees index pid states
  unique : ∀ {index pid other states}, agrees index pid states →
    states[index]? = some (.running other) → other = pid

section Rules

variable {excuse : Event → Prop} {agrees : Nat → Pid → List KdamondSessionState → Prop}
  {index : Nat}

theorem Clear.guarded {world : World} (clear : Clear excuse index world) :
    Guarded excuse agrees index world :=
  ⟨clear.safe, fun pid lost => absurd lost (clear.found pid)⟩

/-- Whatever writes nothing below the kdamond may be done at every moment. -/
theorem Guarded.extends_ {before after : World} (agreement : Agreement agrees)
    (guarded : Guarded excuse agrees index before)
    (extends_ : World.Extends (WritesNot index) before after) :
    Guarded excuse agrees index after := by
  have kept := extends_.induct
    (fun trace => ∀ pid, NoWriteWhileLost excuse index pid trace ∧
      (LostAs excuse index pid trace → agrees index pid before.self.states))
    (fun pid => ⟨guarded.safe pid, guarded.lost pid⟩)
    (fun event earlier permitted states holds pid => by
      refine ⟨⟨fun writes => absurd writes permitted, (holds pid).1⟩, fun lost => ?_⟩
      rcases lost with finds | ⟨before, _⟩
      · exact agreement.recorded (states ▸ finds.recorded)
      · exact (holds pid).2 before)
  exact ⟨fun pid => (kept pid).1, fun pid lost => extends_.self ▸ (kept pid).2 lost⟩

/-- Whatever checks no identity may be done where no thread is lost. -/
theorem Clear.extends_ {before after : World} (clear : Clear excuse index before)
    (extends_ : World.Extends (ChecksNot index) before after) : Clear excuse index after := by
  have kept := extends_.induct
    (fun trace => ∀ pid, NoWriteWhileLost excuse index pid trace ∧
      ¬LostAs excuse index pid trace)
    (fun pid => ⟨clear.safe pid, clear.found pid⟩)
    (fun event earlier permitted _ holds pid => by
      refine ⟨⟨fun _ => (holds pid).2, (holds pid).1⟩, fun lost => ?_⟩
      rcases lost with finds | ⟨before, _⟩
      · exact permitted finds.access
      · exact (holds pid).2 before)
  exact ⟨fun pid => (kept pid).1, fun pid => (kept pid).2⟩

/-- A read of the recorded thread finds every lost thread again. -/
theorem Guarded.reading {before after : World} (agreement : Agreement agrees)
    (guarded : Guarded excuse agrees index before) {pid : Pid}
    (recorded : before.self.states[index]? = some (.running pid))
    (reading : World.EndsReading index pid before after) : Clear excuse index after := by
  obtain ⟨middle, event, first, self, trace, reads, states⟩ := reading
  have between := guarded.extends_ agreement (first.mono fun access checks writes => by
    rcases checks with reads | rfl
    · cases access with
      | write path value => exact reads
      | _ => exact writes
    · exact writes)
  have shows : ∀ other, ¬event.FindsOther index other := by
    intro other finds
    have same : KdamondSessionState.running pid = .running other :=
      Option.some.inj (recorded.symm.trans (states ▸ finds.recorded))
    injection same with same
    have shown := finds.reply
    unfold Reply.ShowsOther at shown
    split at shown
    · exact shown (same ▸ reads.reply)
    · exact shown
  refine ⟨fun other => ?_, fun other lost => ?_⟩
  · rw [trace]
    refine ⟨fun writes => ?_, between.safe other⟩
    rw [reads.access] at writes
    exact writes.elim
  · rw [trace] at lost
    rcases lost with finds | ⟨lost, missed, _⟩
    · exact shows other finds
    · have agreed := between.lost other lost
      rw [first.self] at agreed
      obtain rfl := agreement.unique agreed recorded
      exact missed reads

end Rules

/-! ## Programs -/

section Programs

variable (excuse : Event → Prop) (agrees : Nat → Pid → List KdamondSessionState → Prop)
  (index : Nat)

/-- A success leaves no thread lost. -/
def Settles {α : Type} (outcome : Except Error α) (world : World) : Prop :=
  match outcome with
  | .ok _ => Clear excuse index world
  | .error _ => Guarded excuse agrees index world

/-- A program that may run where no thread is lost. -/
def Proceeds {α : Type} (program : Sysfs α) : Prop :=
  ∀ env, Exec.Triple env (Clear excuse index) program (Settles excuse agrees index)

/-- A program that may run where no thread is lost, and is followed by no write. -/
def Concludes {α : Type} (program : Sysfs α) : Prop :=
  ∀ env, Exec.Triple env (Clear excuse index) program fun _ => Guarded excuse agrees index

/-- A program that may run at every moment, and whose success finds every lost thread. -/
def Verifies {α : Type} (program : Sysfs α) : Prop :=
  ∀ env, Exec.Triple env (Guarded excuse agrees index) program (Settles excuse agrees index)

end Programs

section Rules

variable {excuse : Event → Prop} {agrees : Nat → Pid → List KdamondSessionState → Prop}
  {index : Nat} {α β : Type}

theorem Settles.guarded {outcome : Except Error α} {world : World}
    (settles : Settles excuse agrees index outcome world) :
    Guarded excuse agrees index world := by
  cases outcome with
  | ok value => exact Clear.guarded settles
  | error error => exact settles

theorem Verifies.proceeds {program : Sysfs α} (verifies : Verifies excuse agrees index program) :
    Proceeds excuse agrees index program :=
  fun env world clear => verifies env world clear.guarded

theorem Verifies.keeps {program : Sysfs α} (verifies : Verifies excuse agrees index program) :
    Exec.Keeps (Guarded excuse agrees index) program :=
  fun env world guarded => (verifies env world guarded).guarded

/-- From a clear world, a program that proceeds ends guarded. -/
theorem Proceeds.guarded {program : Sysfs α} (proceeds : Proceeds excuse agrees index program)
    {env : Env} {world : World} (clear : Clear excuse index world) :
    Guarded excuse agrees index (program env world).2 :=
  (proceeds env world clear).guarded

theorem Exec.Keeps.concludes {program : Sysfs α}
    (keeps : Exec.Keeps (Guarded excuse agrees index) program) :
    Concludes excuse agrees index program :=
  fun env world clear => keeps env world clear.guarded

theorem Proceeds.concludes {program : Sysfs α}
    (proceeds : Proceeds excuse agrees index program) : Concludes excuse agrees index program :=
  fun _ _ clear => proceeds.guarded clear

theorem Concludes.ite {condition : Prop} [Decidable condition] {first second : Sysfs α}
    (holds : Concludes excuse agrees index first) (fails : Concludes excuse agrees index second) :
    Concludes excuse agrees index (if condition then first else second) := by
  by_cases h : condition
  · rw [if_pos h]
    exact holds
  · rw [if_neg h]
    exact fails

theorem Concludes.getSelf {next : ManagedHierarchy → Sysfs α}
    (concludes : ∀ self, Concludes excuse agrees index (next self)) :
    Concludes excuse agrees index (Sysfs.getSelf >>= next) :=
  fun env world clear => concludes world.self env world clear

theorem Concludes.after {program : Sysfs α} {next : α → Sysfs β}
    (first : Proceeds excuse agrees index program)
    (second : ∀ value, Concludes excuse agrees index (next value)) :
    Concludes excuse agrees index (program >>= next) := by
  intro env
  exact Exec.triple_bind (first env) (fun value => second value env) fun _ _ failed => failed

theorem Proceeds.pure (value : α) : Proceeds excuse agrees index (Pure.pure value : Sysfs α) :=
  fun _ _ clear => clear

theorem Proceeds.fail (error : Error) :
    Proceeds excuse agrees index (Exec.fail error : Sysfs α) :=
  fun _ _ clear => clear.guarded

theorem Proceeds.ofExcept (outcome : Except Error α) :
    Proceeds excuse agrees index (Exec.ofExcept outcome : Sysfs α) := by
  cases outcome with
  | ok value => exact .pure value
  | error error => exact .fail error

theorem Proceeds.bindReturned {program : Sysfs α} {next : α → Sysfs β}
    (first : Proceeds excuse agrees index program)
    (second : ∀ value, Exec.Returns program value → Proceeds excuse agrees index (next value)) :
    Proceeds excuse agrees index (program >>= next) := by
  intro env world clear
  have settled := first env world clear
  rw [Exec.bind_run]
  cases run : program env world with
  | mk outcome middle =>
      rw [run] at settled
      cases outcome with
      | ok value => exact second value ⟨env, world, middle, run⟩ env middle settled
      | error error => exact settled

theorem Proceeds.bind {program : Sysfs α} {next : α → Sysfs β}
    (first : Proceeds excuse agrees index program)
    (second : ∀ value, Proceeds excuse agrees index (next value)) :
    Proceeds excuse agrees index (program >>= next) :=
  first.bindReturned fun value _ => second value

theorem Proceeds.ite {condition : Prop} [Decidable condition] {first second : Sysfs α}
    (holds : Proceeds excuse agrees index first) (fails : Proceeds excuse agrees index second) :
    Proceeds excuse agrees index (if condition then first else second) := by
  by_cases h : condition
  · rw [if_pos h]
    exact holds
  · rw [if_neg h]
    exact fails

theorem Proceeds.getSelf {next : ManagedHierarchy → Sysfs α}
    (proceeds : ∀ self, Proceeds excuse agrees index (next self)) :
    Proceeds excuse agrees index (Sysfs.getSelf >>= next) :=
  fun env world clear => proceeds world.self env world clear

theorem Proceeds.forEach {body : α → Sysfs Unit} (items : List α)
    (each : ∀ item ∈ items, Proceeds excuse agrees index (body item)) :
    Proceeds excuse agrees index (Exec.forEach body items) := by
  induction items with
  | nil => exact .pure ()
  | cons item rest ih =>
      exact (each item (List.mem_cons_self ..)).bind fun _ =>
        ih fun other member => each other (List.mem_cons_of_mem item member)

/-- Where no identity is checked, even a failure leaves no thread lost. -/
theorem Accesses.clear {program : Sysfs α} (accesses : Accesses (ChecksNot index) program) :
    Exec.Keeps (Clear excuse index) program :=
  fun env world clear => clear.extends_ (accesses env world)

theorem Exec.Keeps.proceeds {program : Sysfs α}
    (keeps : Exec.Keeps (Clear excuse index) program) : Proceeds excuse agrees index program := by
  intro env world clear
  have after := keeps env world clear
  cases run : program env world with
  | mk outcome middle =>
      rw [run] at after
      cases outcome with
      | ok value => exact after
      | error error => exact after.guarded

theorem ChecksNot.inspects (path : Path) : ChecksNot index (.inspect path) := by
  simp [ChecksNot]

theorem WritesNot.inspects (path : Path) : WritesNot index (.inspect path) := id

theorem StagesConfiguration.checksNot {access : Access} (stages : StagesConfiguration access) :
    ChecksNot index access := by
  rintro rfl
  cases stages

theorem ReadsOnly.writesNot {access : Access} (reads : ReadsOnly access) :
    WritesNot index access := by
  cases access with
  | write path value => exact reads.elim
  | _ => exact id

theorem Sysfs.Confined.clearStages {program : Sysfs α}
    (confined : Confined StagesConfiguration program) :
    Exec.Keeps (Clear excuse index) program :=
  Accesses.clear ((confined.mono fun _ => StagesConfiguration.checksNot).accesses
    ChecksNot.inspects)

theorem Sysfs.Confined.clearReads {program : Sysfs α}
    (confined : Confined ReadsConfiguration program) :
    Exec.Keeps (Clear excuse index) program :=
  confined.stages.clearStages

theorem Sysfs.Confined.clearChecks {program : Sysfs α} {other : Nat} (different : other ≠ index)
    (confined : Confined (ChecksThread other) program) :
    Exec.Keeps (Clear excuse index) program := by
  refine Accesses.clear ((confined.mono fun access checks => ?_).accesses ChecksNot.inspects)
  rcases checks with reads | rfl
  · exact (ReadsConfiguration.stages reads).checksNot
  · intro same
    injection same with same
    exact different (Path.pidOf_injective same)

theorem Sysfs.Confined.proceedsStages {program : Sysfs α}
    (confined : Confined StagesConfiguration program) : Proceeds excuse agrees index program :=
  Exec.Keeps.proceeds confined.clearStages

theorem Sysfs.Confined.proceedsReads {program : Sysfs α}
    (confined : Confined ReadsConfiguration program) : Proceeds excuse agrees index program :=
  confined.stages.proceedsStages

variable (agreement : Agreement agrees)
include agreement

theorem Accesses.guarded {program : Sysfs α} (accesses : Accesses (WritesNot index) program) :
    Exec.Keeps (Guarded excuse agrees index) program :=
  fun env world guarded => guarded.extends_ agreement (accesses env world)

theorem Sysfs.Confined.guardedReads {program : Sysfs α} (confined : Confined ReadsOnly program) :
    Exec.Keeps (Guarded excuse agrees index) program :=
  Accesses.guarded agreement ((confined.mono fun _ => ReadsOnly.writesNot).accesses
    WritesNot.inspects)

omit agreement in
theorem Verifies.bind {program : Sysfs α} {next : α → Sysfs β}
    (first : Verifies excuse agrees index program)
    (second : ∀ value, Proceeds excuse agrees index (next value)) :
    Verifies excuse agrees index (program >>= next) := by
  intro env
  exact Exec.triple_bind (first env) (fun value => second value env) fun _ _ failed => failed

omit agreement in
/-- What may run at every moment may precede a verification. -/
theorem Verifies.after {program : Sysfs α} {next : α → Sysfs β}
    (first : Exec.Keeps (Guarded excuse agrees index) program)
    (second : ∀ value, Verifies excuse agrees index (next value)) :
    Verifies excuse agrees index (program >>= next) := by
  intro env
  exact Exec.triple_bind (first.triple env) (fun value => second value env)
    fun _ _ failed => failed

omit agreement in
theorem Verifies.retry {program : Sysfs α} (verifies : Verifies excuse agrees index program) :
    Verifies excuse agrees index (retryBusy program) := by
  intro env world guarded
  obtain ⟨start, path, ends⟩ := Exec.retry_ends Error.isResourceBusy program maxRetries env world
  have began : Guarded excuse agrees index start := by
    clear ends
    induction path with
    | refl => exact guarded
    | tail _ last ih =>
        obtain ⟨error, _, failed⟩ := last
        exact (verifies env).run ih failed
  have settled := verifies env start began
  rwa [← show retryBusy program env world = _ from ends] at settled

/-- A check that reads the recorded thread on success. -/
theorem verifies_of_reading {program : Sysfs Unit} (reads : Confined ReadsOnly program)
    (ends : ∀ env world after, program env world = (.ok (), after) → ∃ pid,
      world.self.states[index]? = some (.running pid) ∧
        World.EndsReading index pid world after) :
    Verifies excuse agrees index program := by
  intro env world guarded
  have after := reads.guardedReads agreement env world guarded
  cases run : program env world with
  | mk outcome final =>
      rw [run] at after
      cases outcome with
      | ok value =>
          obtain ⟨pid, recorded, reading⟩ := ends env world final run
          exact guarded.reading agreement recorded reading
      | error error => exact after

end Rules

/-! ## Checks and commands -/

namespace ManagedHierarchy

section Commands

variable {excuse : Event → Prop} {agrees : Nat → Pid → List KdamondSessionState → Prop}
  {index : Nat} (agreement : Agreement agrees)
include agreement

theorem verifyRunningIdentityOnly_proceeds (other : Nat) :
    Proceeds excuse agrees index (verifyRunningIdentityOnly other) := by
  by_cases same : other = index
  · subst same
    exact (verifies_of_reading agreement (verifyRunningIdentityOnly_checks other).threadReadsOnly
      fun _ _ _ => verifyRunningIdentityOnly_ok).proceeds
  · exact Exec.Keeps.proceeds ((verifyRunningIdentityOnly_checks other).clearChecks same)

omit agreement in
theorem modifySelf_clear (change : ManagedHierarchy → ManagedHierarchy) :
    Exec.Keeps (Clear excuse index) (modifySelf change) :=
  fun _ _ clear => ⟨clear.safe, clear.found⟩

omit agreement in
theorem command_clear (other : Nat) (command : KdamondCommand) :
    Exec.Keeps (Clear excuse index) (retryBusy ((kdamond other).command command)) := by
  have sends : Confined (ChecksNot index) ((kdamond other).command command) :=
    Kdamond.command_confined other command (by simp [ChecksNot])
  exact Accesses.clear (sends.retry.accesses ChecksNot.inspects)

theorem commandIdentified_proceeds (command : KdamondCommand) (other : Nat) :
    Proceeds excuse agrees index (commandIdentified command other) :=
  (verifyRunningIdentityOnly_proceeds agreement other).bind fun _ =>
    (Exec.Keeps.proceeds (command_clear other command)).bind fun _ =>
      verifyRunningIdentityOnly_proceeds agreement other

end Commands

/-! ## Updating -/

/-- Lost threads are still recorded. -/
def StillRecorded (index : Nat) (pid : Pid) (states : List KdamondSessionState) : Prop :=
  states[index]? = some (.running pid)

theorem stillRecorded_agreement : Agreement StillRecorded where
  recorded := id
  unique := by
    intro index pid other states agreed recorded
    have same := Option.some.inj (agreed.symm.trans recorded)
    injection same with same
    exact same.symm

section Updates

variable {excuse : Event → Prop} {index : Nat}

/-- Where no thread is recorded, none is lost. -/
theorem clear_of_unrecorded {world : World}
    (guarded : Guarded excuse StillRecorded index world)
    (unrecorded : ∀ pid, world.self.states[index]? ≠ some (.running pid)) :
    Clear excuse index world :=
  ⟨guarded.safe, fun pid lost => unrecorded pid (guarded.lost pid lost)⟩

theorem verifyOwnedIdentity_verifies :
    Verifies excuse StillRecorded index (verifyOwnedIdentity index) := by
  intro env world guarded
  cases recorded : world.self.state index with
  | running pid =>
      have checks : (verifyOwnedIdentity index) env world =
          (verifyRunningIdentityWithoutCount index) env world := by
        simp only [verifyOwnedIdentity, Exec.bind_run, getSelf_run, recorded]
      rw [checks]
      exact verifies_of_reading stillRecorded_agreement
        (verifyRunningIdentityWithoutCount_checks index).threadReadsOnly
        (fun _ _ _ => verifyRunningIdentityWithoutCount_ok) env world guarded
  | staged =>
      have clear := clear_of_unrecorded guarded fun pid running => by
        cases recorded.symm.trans (state_eq_running.mpr running)
      unfold verifyOwnedIdentity
      rw [Exec.bind_run, getSelf_run]
      dsimp only
      rw [recorded]
      refine Proceeds.bind (Kdamond.state_confined index).retry.proceedsReads (fun state => ?_)
        env world clear
      cases state with
      | off => exact .pure ()
      | on => exact .fail _
      | unknown name => exact .fail _
  | unidentifiedRunning =>
      have checks : (verifyOwnedIdentity index) env world =
          (Exec.fail identityNotCaptured : Sysfs Unit) env world := by
        simp only [verifyOwnedIdentity, Exec.bind_run, getSelf_run, recorded]
      rw [checks]
      exact guarded

theorem verifyOwnedIdentity_proceeds (other : Nat) :
    Proceeds excuse StillRecorded index (verifyOwnedIdentity other) := by
  by_cases same : other = index
  · subst same
    exact Verifies.proceeds verifyOwnedIdentity_verifies
  · exact Exec.Keeps.proceeds ((verifyOwnedIdentity_checks other).clearChecks same)

/-- Checking every identity finds every lost thread. -/
theorem verifyOwnedIdentitiesOnly_verifies :
    Verifies excuse StillRecorded index verifyOwnedIdentitiesOnly := by
  have each : ∀ indices : List Nat, index ∈ indices →
      Verifies excuse StillRecorded index (Exec.forEach verifyOwnedIdentity indices) := by
    intro indices member
    induction indices with
    | nil => cases member
    | cons other rest ih =>
        have all : Proceeds excuse StillRecorded index (Exec.forEach verifyOwnedIdentity rest) :=
          Proceeds.forEach rest fun other _ => verifyOwnedIdentity_proceeds other
        rcases List.mem_cons.mp member with rfl | inRest
        · exact Verifies.bind verifyOwnedIdentity_verifies fun _ => all
        · exact Verifies.after ((verifyOwnedIdentity_checks other).threadReadsOnly.guardedReads
            stillRecorded_agreement) fun _ => ih inRest
  refine Verifies.after (verifyManagedCount_reads.readsOnly.guardedReads
    stillRecorded_agreement) fun _ => ?_
  intro env world guarded
  by_cases inside : index < world.self.states.length
  · exact each _ (List.mem_range.mpr inside) env world guarded
  · have clear := clear_of_unrecorded guarded fun pid running => by
      rw [List.getElem?_eq_none (Nat.le_of_not_lt inside)] at running
      cases running
    exact Proceeds.forEach _ (fun other _ => verifyOwnedIdentity_proceeds other) env world clear

theorem verifyBoundaryOr_proceeds (snapshot : ConfigurationSnapshot) (writes : List Path)
    {restoration : Sysfs Unit} (proceeds : Proceeds excuse StillRecorded index restoration) :
    Proceeds excuse StillRecorded index (verifyBoundaryOr snapshot writes restoration) := by
  have boundary : Exec.Keeps (Clear excuse index)
      (Exec.attempt (verifyRollbackBoundary snapshot writes)) :=
    Exec.keeps_attempt (verifyRollbackBoundary_reads snapshot writes).clearReads
  refine (Exec.Keeps.proceeds boundary).bind fun outcome => ?_
  cases outcome with
  | ok value => exact .pure ()
  | error failure =>
      exact fun env world clear => proceeds.guarded clear

theorem restoreWritten_proceeds (snapshot : ConfigurationSnapshot) (writes : List Path) :
    Proceeds excuse StillRecorded index (restoreWritten snapshot writes) := by
  have restores : Confined (ChecksNot index) (restoreWritten snapshot writes) :=
    restoreWritten_confined (by simp [ChecksNot]) (by simp [ChecksNot])
  exact Exec.Keeps.proceeds (Accesses.clear (restores.accesses ChecksNot.inspects))

theorem commits_proceeds (command : KdamondCommand) (selected : List Nat) :
    Proceeds excuse StillRecorded index
      (Exec.forEach (commandIdentified command) selected) :=
  Proceeds.forEach selected fun other _ =>
    commandIdentified_proceeds stillRecorded_agreement command other

theorem restoreAndCommitRunning_verifies (snapshot : ConfigurationSnapshot)
    (config : DamonConfig) (selected : List Nat) (writes : List Path) :
    Verifies excuse StillRecorded index
      (restoreAndCommitRunning snapshot config selected writes) := by
  have restores : Proceeds excuse StillRecorded index (restoreWritten snapshot writes) :=
    restoreWritten_proceeds snapshot writes
  refine Verifies.bind verifyOwnedIdentitiesOnly_verifies fun _ => ?_
  refine (verifyBoundaryOr_proceeds snapshot writes
    (restores.bind fun _ => commits_proceeds .commit selected)).bind fun _ => ?_
  refine restores.bind fun _ => (Verifies.proceeds verifyOwnedIdentitiesOnly_verifies).bind fun _ => ?_
  refine (requireUnchanged_reads snapshot _).proceedsReads.bind fun _ => ?_
  refine (commits_proceeds .commit selected).bind fun _ => ?_
  refine DamonAdmin.configurationSnapshot_confined.retry.proceedsReads.bind fun current => ?_
  refine (requireUnchanged_reads snapshot _).proceedsReads.bind fun _ => ?_
  exact (StagedOwnership.verify_reads _).proceedsReads.bind fun _ => .pure _

theorem restoreAndCommitQuotaGoals_verifies (snapshot : ConfigurationSnapshot) (other : Nat)
    (writes : List Path) :
    Verifies excuse StillRecorded index
      (restoreAndCommitQuotaGoals snapshot other writes) := by
  have restores : Proceeds excuse StillRecorded index (restoreWritten snapshot writes) :=
    restoreWritten_proceeds snapshot writes
  have commits : Proceeds excuse StillRecorded index
      (commandIdentified .commitSchemesQuotaGoals other) :=
    commandIdentified_proceeds stillRecorded_agreement .commitSchemesQuotaGoals other
  refine Verifies.bind verifyOwnedIdentitiesOnly_verifies fun _ => ?_
  refine (verifyBoundaryOr_proceeds snapshot writes (restores.bind fun _ => commits)).bind
    fun _ => restores.bind fun _ => commits.bind fun _ => ?_
  refine (requireUnchanged_reads snapshot _).proceedsReads.bind fun _ => ?_
  refine DamonAdmin.configurationSnapshot_confined.retry.proceedsReads.bind fun current => ?_
  exact Proceeds.getSelf fun self =>
    (StagedOwnership.verify_reads _).proceedsReads.bind fun _ => .pure _

theorem stageRunning_verifies (config : DamonConfig) (observed : Option DamonConfig) :
    Verifies excuse StillRecorded index (stageRunning config observed) :=
  (Verifies.bind verifyOwnedIdentitiesOnly_verifies fun _ =>
    (DamonAdmin.stageConfigurationFrom_stages config observed).proceedsStages).retry.bind
      fun _ => Verifies.proceeds verifyOwnedIdentitiesOnly_verifies

theorem verifyStagedRunning_proceeds (config : DamonConfig) (observed : Option DamonConfig)
    (reason : String) :
    Proceeds excuse StillRecorded index (verifyStagedRunning config observed reason) := by
  refine DamonAdmin.configurationSnapshot_confined.retry.proceedsReads.bind fun snapshot => ?_
  refine DamonAdmin.configuration_confined.retry.proceedsReads.bind fun _ => ?_
  refine (Proceeds.ofExcept _).bind fun _ => ?_
  refine (requireEquivalent_confined _ _).proceedsReads.bind fun _ => ?_
  refine (requireOwned_confined snapshot.valuesMatchCurrent_confined.retry).proceedsReads.bind
    fun _ => ?_
  exact (Verifies.proceeds verifyOwnedIdentitiesOnly_verifies).bind fun _ => .pure _

theorem stageAndCommitRunning_verifies (config : DamonConfig) (observed : Option DamonConfig)
    (selected : List Nat) :
    Verifies excuse StillRecorded index (stageAndCommitRunning config observed selected) := by
  refine Verifies.bind verifyOwnedIdentitiesOnly_verifies fun _ => ?_
  refine (stageRunning_verifies config observed).proceeds.bind fun _ => ?_
  refine (verifyStagedRunning_proceeds config observed _).bind fun snapshot => ?_
  refine (commits_proceeds .commit selected).bind fun _ => Proceeds.ite ?_ ?_
  · refine (stageRunning_verifies _ _).proceeds.bind fun _ => ?_
    exact (verifyStagedRunning_proceeds _ _ _).bind fun cleaned =>
      (recordOwnership_reads cleaned _).proceedsReads
  · exact (recordOwnership_reads snapshot config).proceedsReads

theorem stageAndCommitQuotaGoals_verifies (i j k : Nat) (goals observed : List QuotaGoalConfig)
    (other : Nat) :
    Verifies excuse StillRecorded index (stageAndCommitQuotaGoals
      (((DamonAdmin.kdamond i).context j).scheme k).quotas goals observed other) := by
  have identities : Verifies excuse StillRecorded index verifyOwnedIdentitiesOnly :=
    verifyOwnedIdentitiesOnly_verifies
  refine identities.bind fun _ => ?_
  refine (identities.bind fun _ => (SchemeQuotas.stageGoalsFrom_stages i j k goals
    (some observed)).proceedsStages).retry.proceeds.bind fun _ => ?_
  refine identities.proceeds.bind fun _ => ?_
  refine (requireOwned_confined
    (unchangedOutsideGoals_reads _ goals observed)).proceedsReads.bind fun _ => ?_
  refine DamonAdmin.configurationSnapshot_confined.retry.proceedsReads.bind fun snapshot => ?_
  refine (SchemeQuotas.goalConfigurations_confined
    (schemeQuotas_below i j k)).retry.proceedsReads.bind fun stagedGoals => ?_
  refine Proceeds.ite (.fail _) ((requireOwned_confined
    snapshot.valuesMatchCurrent_confined.retry).proceedsReads.bind fun _ => ?_)
  refine identities.proceeds.bind fun _ => ?_
  refine (commandIdentified_proceeds stillRecorded_agreement _ other).bind fun _ => ?_
  exact Proceeds.getSelf fun self =>
    (StagedOwnership.verify_reads _).proceedsReads.bind fun _ => .pure _

/-- A transaction and its rollback both check every identity first. -/
theorem transact_guarded {transaction : Sysfs StagedOwnership}
    {rollback : List Path → Sysfs StagedOwnership}
    (forward : Verifies excuse StillRecorded index transaction)
    (backward : ∀ writes, Verifies excuse StillRecorded index (rollback writes)) :
    Exec.Keeps (Guarded excuse StillRecorded index) (transact transaction rollback) := by
  have keeps : Exec.Keeps (Guarded excuse StillRecorded index) (collectWrites transaction) := by
    intro env world guarded
    have after := forward.keeps env { world with journal := some [] }
      ⟨guarded.safe, guarded.lost⟩
    exact ⟨after.safe, after.lost⟩
  have recording : ∀ staged, Exec.Keeps (Guarded excuse StillRecorded index)
      (setStaged staged) := fun _ _ _ guarded => ⟨guarded.safe, guarded.lost⟩
  refine Exec.keeps_bind keeps fun collected => ?_
  obtain ⟨outcome, writes⟩ := collected
  cases outcome with
  | ok staged => exact recording staged
  | error operation =>
      refine Exec.keeps_bind (Exec.keeps_attempt (backward writes).keeps) fun outcome => ?_
      cases outcome with
      | ok staged => exact Exec.keeps_bind (recording staged) fun _ => Exec.keeps_fail _
      | error failure => exact Exec.keeps_fail _

theorem updateConfiguration_guarded (config : DamonConfig) (indices : List Nat) :
    Exec.Keeps (Guarded excuse StillRecorded index) (updateConfiguration config indices) := by
  have reads : ∀ {α : Type} {program : Sysfs α}, Confined ReadsOnly program →
      Exec.Keeps (Guarded excuse StillRecorded index) program :=
    fun confined => confined.guardedReads stillRecorded_agreement
  refine Exec.keeps_bind (reads .environment) fun env => ?_
  refine Exec.keeps_bind (Exec.keeps_ofExcept _) fun _ => ?_
  refine Exec.keeps_bind (reads .self) fun self => ?_
  refine Exec.keeps_bind (Exec.keeps_ofExcept _) fun selected => ?_
  refine Exec.keeps_bind (Exec.keeps_ofExcept _) fun _ => ?_
  refine Exec.keeps_bind (Exec.keeps_forEach _ fun other _ => Exec.keeps_bind
    (reads (expectedRunningPid_confined other)) fun _ => Exec.keeps_pure ()) fun _ => ?_
  refine Exec.keeps_bind (reads verifyOwnedState_readsOnly) fun _ => ?_
  refine Exec.keeps_bind (reads DamonAdmin.configurationSnapshot_confined.retry.readsOnly)
    fun snapshot => ?_
  refine Exec.keeps_bind (reads DamonAdmin.configuration_confined.retry.readsOnly)
    fun previous => ?_
  refine Exec.keeps_bind (reads (requireUnchanged_reads snapshot _).readsOnly) fun _ => ?_
  refine Exec.keeps_bind (reads verifyOwnedState_readsOnly) fun _ => ?_
  refine Exec.keeps_bind (Exec.keeps_ofExcept _) fun comparable => ?_
  refine Exec.keeps_bind (Exec.keeps_ofExcept _) fun kdamonds => ?_
  refine Exec.keeps_bind (Exec.keeps_ofExcept _) fun _ => ?_
  exact transact_guarded (stageAndCommitRunning_verifies _ _ _)
    fun writes => restoreAndCommitRunning_verifies snapshot previous selected writes

theorem updateSchemeQuotaGoals_guarded (kdamondIndex contextIndex schemeIndex : Nat)
    (goals : List QuotaGoalConfig) :
    Exec.Keeps (Guarded excuse StillRecorded index)
      (updateSchemeQuotaGoals kdamondIndex contextIndex schemeIndex goals) := by
  have reads : ∀ {α : Type} {program : Sysfs α}, Confined ReadsOnly program →
      Exec.Keeps (Guarded excuse StillRecorded index) program :=
    fun confined => confined.guardedReads stillRecorded_agreement
  refine Exec.keeps_bind (reads (validateKdamondIndex_confined kdamondIndex)) fun _ => ?_
  refine Exec.keeps_bind (Exec.keeps_ofExcept _) fun _ => ?_
  refine Exec.keeps_bind (reads (expectedRunningPid_confined kdamondIndex)) fun _ => ?_
  refine Exec.keeps_bind (reads verifyOwnedState_readsOnly) fun _ => ?_
  refine Exec.keeps_bind (reads DamonAdmin.configurationSnapshot_confined.retry.readsOnly)
    fun snapshot => ?_
  refine Exec.keeps_bind_returned (reads (scheme_reads _ _ _).readsOnly) fun found returned => ?_
  rw [scheme_returns returned]
  refine Exec.keeps_bind (reads (SchemeQuotas.configuration_confined
    (schemeQuotas_below _ _ _)).retry.readsOnly) fun quota => ?_
  refine Exec.keeps_bind (reads (requireUnchanged_reads snapshot _).readsOnly) fun _ => ?_
  refine Exec.keeps_bind (reads verifyOwnedState_readsOnly) fun _ => ?_
  refine Exec.keeps_bind (Exec.keeps_ofExcept _) fun _ => ?_
  exact Exec.keeps_ite (Exec.keeps_pure ()) (transact_guarded
    (stageAndCommitQuotaGoals_verifies _ _ _ _ _ _)
    fun writes => restoreAndCommitQuotaGoals_verifies snapshot _ writes)

end Updates

end ManagedHierarchy

end DamonRs
