import DamonRs.Monitor.Fixture
import DamonRs.Monitor.Identity
import DamonRs.Monitor.Runtime
import DamonRs.Sysfs.Moments
import DamonRs.Sysfs.Within

/-!
# Runtime batches

A batch runs a closure between two complete checks of a kdamond.  The closure
makes calls that look a scheme up, may send one command, and read results; the
batch remembers the counts that it looked up.  Every command follows a light
check of its own call, and a batch that returns has kept to one thread.
-/

namespace DamonRs

open Library Sysfs

namespace ManagedHierarchy

/-! ## Calls -/

/-- The counts a batch has looked up: that of the contexts, and that of the schemes of one. -/
structure BatchCache where
  contextCount : Option Nat
  cachedContext : Option (Nat × Nat)
  deriving Repr, DecidableEq

def BatchCache.empty : BatchCache := ⟨none, none⟩

def cachedContextCount (index : Nat) (cache : BatchCache) : Sysfs (Except Error Nat × BatchCache) :=
  match cache.contextCount with
  | some count => pure (.ok count, cache)
  | none => do
      match ← Exec.attempt (kdamond index).contextCount with
      | .ok count => pure (.ok count, { cache with contextCount := some count })
      | .error error => pure (.error error, cache)

def cachedSchemeCount (index context : Nat) (cache : BatchCache) :
    Sysfs (Except Error Nat × BatchCache) :=
  match cache.cachedContext.filter fun cached => cached.1 = context with
  | some (_, count) => pure (.ok count, cache)
  | none => do
      match ← Exec.attempt ((kdamond index).context context).schemeCount with
      | .ok count => pure (.ok count, cache)
      | .error error => pure (.error error, cache)

/-- Look a scheme up; its context is remembered once the scheme is in it. -/
def cachedScheme (index context scheme : Nat) (cache : BatchCache) :
    Sysfs (Except Error Scheme × BatchCache) := do
  let (counted, cache) ← cachedContextCount index cache
  match counted with
  | .error error => pure (.error error, cache)
  | .ok count =>
      if context ≥ count then pure (.error (.indexOutOfBounds "context" context count), cache)
      else do
        let (counted, cache) ← cachedSchemeCount index context cache
        match counted with
        | .error error => pure (.error error, cache)
        | .ok count =>
            if scheme ≥ count then pure (.error (.indexOutOfBounds "scheme" scheme count), cache)
            else
              pure (.ok (((kdamond index).context context).scheme scheme),
                { cache with cachedContext := some (context, count) })

/-- Refresh the results of a scheme if asked to, and read them. -/
def batchScheme (index context scheme : Nat) (refresh : Bool) (command : KdamondCommand)
    (read : Scheme → Sysfs RuntimeResult) (cache : BatchCache) :
    Sysfs (Except Error RuntimeResult × BatchCache) := do
  let (found, cache) ← cachedScheme index context scheme cache
  let outcome ← Exec.attempt do
    let scheme ← Exec.ofExcept found
    stageWhen refresh (issueCommand index command)
    let result ← read scheme
    verifyIdentityInBatch index
    pure result
  pure (outcome, cache)

def batchCommand (index : Nat) (command : KdamondCommand) (cache : BatchCache) :
    Sysfs (Except Error RuntimeResult × BatchCache) := do
  let outcome ← Exec.attempt do
    issueCommand index command
    verifyIdentityInBatch index
    pure .nothing
  pure (outcome, cache)

/-- One operation of a batch; the read-only batches offer those that do not refresh. -/
def batchCall (index : Nat) (call : RuntimeRead) :
    BatchCache → Sysfs (Except Error RuntimeResult × BatchCache) :=
  match call with
  | .schemeStats context scheme refresh =>
      batchScheme index context scheme refresh .updateSchemesStats
        fun scheme => .stats <$> scheme.stats
  | .triedRegions context scheme refresh =>
      batchScheme index context scheme refresh .updateSchemesTriedRegions
        fun scheme => .regions <$> scheme.triedRegions
  | .triedBytesUnits context scheme refresh =>
      batchScheme index context scheme refresh .updateSchemesTriedBytes
        fun scheme => .units <$> scheme.triedBytesUnits
  | .effectiveQuotaUnits context scheme refresh =>
      batchScheme index context scheme refresh .updateSchemesEffectiveQuotas
        fun scheme => .units <$> scheme.quotas.effectiveSizeUnits
  | .updateTunedIntervals => batchCommand index .updateTunedIntervals
  | .clearTriedRegions => batchCommand index .clearSchemesTriedRegions

/-- A closure over a batch: it returns, or makes a call and goes on with its outcome. -/
inductive BatchClosure (α : Type) where
  | done (result : Except Error α)
  | call (call : RuntimeRead) (next : Except Error RuntimeResult → BatchClosure α)

namespace BatchClosure

def runWith {α : Type} (index : Nat) : BatchClosure α → BatchCache → Sysfs α
  | done result, _ => Exec.ofExcept result
  | call read next, cache => do
      let (outcome, cache) ← batchCall index read cache
      (next outcome).runWith index cache

/-- The operation of a batch. -/
def operation {α : Type} (index : Nat) (closure : BatchClosure α) : Sysfs α :=
  closure.runWith index .empty

end BatchClosure

end ManagedHierarchy

/-! ## Commands follow checks -/

/-- An event in which a number was read from the file with the number of kdamonds. -/
structure Event.ReadsCount (event : Event) (count : Nat) : Prop where
  access : event.access = .read DamonAdmin.countPath
  reply : ∃ content, event.reply = .content content ∧ content.unsigned? = some count

/-- Whatever is written is a command to a kdamond, after reads of the kdamond count and of its
thread that showed what is recorded.  The events come with the latest first. -/
def CommandsChecked (index : Nat) (self : ManagedHierarchy) (events : List Event) : Prop :=
  ∀ later event earlier path value, events = later ++ event :: earlier →
    event.access = .write path value →
      path = Path.stateOf index ∧
        (∃ counted ∈ earlier, counted.ReadsCount self.states.length) ∧
        ∃ pid, self.states[index]? = some (.running pid) ∧
          ∃ identified ∈ earlier, identified.ReadsPid index pid

namespace CommandsChecked

variable {index : Nat} {self : ManagedHierarchy} {events earlier : List Event}

theorem of_reads (reads : ∀ event ∈ events, ReadsOnly event.access) :
    CommandsChecked index self events := by
  rintro later event earlier path value rfl wrote
  have permitted := reads event (by simp)
  rw [wrote] at permitted
  exact permitted.elim

theorem append (checked : CommandsChecked index self events)
    (before : CommandsChecked index self earlier) :
    CommandsChecked index self (events ++ earlier) := by
  intro later event rest path value same wrote
  rcases List.append_eq_append_iff.mp same with ⟨middle, _, split⟩ | ⟨middle, split, tail⟩
  · exact before middle event rest path value split wrote
  · cases middle with
    | nil => exact before [] event rest path value (by simpa using tail.symm) wrote
    | cons first middle =>
        obtain ⟨rfl, rfl⟩ := List.cons.inj tail
        obtain ⟨state, ⟨counted, countedEarlier, counts⟩, pid, recorded, identified, idEarlier,
          identifies⟩ := checked later event middle path value split wrote
        exact ⟨state, ⟨counted, List.mem_append_left _ countedEarlier, counts⟩, pid, recorded,
          identified, List.mem_append_left _ idEarlier, identifies⟩

/-- Commands after both reads. -/
theorem append_commands (before : CommandsChecked index self earlier) {pid : Pid}
    (counted : ∃ event ∈ earlier, event.ReadsCount self.states.length)
    (recorded : self.states[index]? = some (.running pid))
    (identified : ∃ event ∈ earlier, event.ReadsPid index pid)
    (commands : ∀ event ∈ events, ∀ path value, event.access = .write path value →
      path = Path.stateOf index) :
    CommandsChecked index self (events ++ earlier) := by
  intro later event rest path value same wrote
  rcases List.append_eq_append_iff.mp same with ⟨middle, _, split⟩ | ⟨middle, split, tail⟩
  · exact before middle event rest path value split wrote
  · cases middle with
    | nil => exact before [] event rest path value (by simpa using tail.symm) wrote
    | cons first middle =>
        obtain ⟨rfl, rfl⟩ := List.cons.inj tail
        obtain ⟨count, countedEarlier, counts⟩ := counted
        obtain ⟨read, readEarlier, reads⟩ := identified
        exact ⟨commands event (by simp [split]) path value wrote,
          ⟨count, List.mem_append_right _ countedEarlier, counts⟩, pid, recorded, read,
          List.mem_append_right _ readEarlier, reads⟩

end CommandsChecked

/-- A world is reached by accesses of which each command is checked. -/
structure World.Checks (index : Nat) (env : Env) (before after : World) : Prop where
  advances : World.Advances env before after
  checked : ∃ events, after.trace = events ++ before.trace ∧
    CommandsChecked index before.self events

namespace World.Checks

variable {index : Nat} {env : Env} {first second third before after : World}

theorem refl (world : World) : World.Checks index env world world :=
  ⟨.refl world, [], rfl, .of_reads (by simp)⟩

theorem trans (one : World.Checks index env first second)
    (two : World.Checks index env second third) : World.Checks index env first third := by
  obtain ⟨advances, events, trace, checked⟩ := one
  obtain ⟨more, later, tail, rest⟩ := two
  rw [advances.self] at rest
  exact ⟨advances.trans more, later ++ events, by rw [tail, trace, List.append_assoc],
    rest.append checked⟩

end World.Checks

namespace ManagedHierarchy

variable {index : Nat} {α β : Type}

/-- Every command of the program follows a check of its own. -/
abbrev ChecksCommands (index : Nat) (program : Sysfs α) : Prop :=
  Exec.Moves (World.Checks index) program

theorem ChecksCommands.of_reads {allowed : Access → Prop} {program : Sysfs α}
    (confined : Confined allowed program) (reads : ∀ access, allowed access → ReadsOnly access) :
    ChecksCommands index program := by
  intro env world
  have readsOnly := confined.mono reads
  obtain ⟨_, events, trace, accesses⟩ := readsOnly.accesses (fun _ => trivial) env world
  exact ⟨readsOnly.advances env world, events, trace,
    .of_reads fun event member => (accesses event member).1⟩

theorem ChecksCommands.bind {program : Sysfs α} {next : α → Sysfs β}
    (first : ChecksCommands index program) (second : ∀ value, ChecksCommands index (next value)) :
    ChecksCommands index (program >>= next) :=
  Exec.moves_bind (fun _ _ _ _ => .trans) first second

theorem ChecksCommands.attempt {program : Sysfs α} (checks : ChecksCommands index program) :
    ChecksCommands index (Exec.attempt program) :=
  Exec.moves_attempt checks

theorem ChecksCommands.pure (value : α) : ChecksCommands index (Pure.pure value : Sysfs α) :=
  Exec.moves_pure (fun _ => .refl) value

theorem ChecksCommands.ofExcept (outcome : Except Error α) :
    ChecksCommands index (Exec.ofExcept outcome : Sysfs α) :=
  Exec.moves_ofExcept (fun _ => .refl) outcome

section Runs

variable {env : Env} {world after : World}

theorem verifyManagedCount_reading (run : verifyManagedCount env world = (.ok (), after)) :
    after.self = world.self ∧ ∃ event, after.trace = event :: world.trace ∧
      event.ReadsCount world.self.states.length := by
  obtain ⟨count, middle, counted, compared⟩ := Exec.bind_eq_ok run
  obtain ⟨value, last, read, made⟩ := Exec.bind_eq_ok counted
  cases made
  obtain ⟨rfl, content, replied, shows⟩ := readU64_replies read
  obtain ⟨self, _, found, decided⟩ := Exec.bind_eq_ok compared
  cases found
  split at decided
  · cases decided
  rename_i same
  cases decided
  exact ⟨rfl, _, rfl, rfl, content, replied, (not_not.mp same) ▸ shows⟩

/-- A check inside a batch reads the count and then the thread. -/
theorem verifyIdentityInBatch_ok (run : verifyIdentityInBatch index env world = (.ok (), after)) :
    ∃ pid events, world.self.states[index]? = some (.running pid) ∧ after.self = world.self ∧
      after.trace = events ++ world.trace ∧ (∀ event ∈ events, ReadsOnly event.access) ∧
      (∃ event ∈ events, event.ReadsCount world.self.states.length) ∧
      ∃ event ∈ events, event.ReadsPid index pid := by
  obtain ⟨_, middle, counted, identified⟩ := Exec.bind_eq_ok run
  obtain ⟨self, count, counts, reads⟩ := verifyManagedCount_reading counted
  obtain ⟨pid, recorded, last, event, ⟨_, events, trace, accesses⟩, _, tail, readsPid, _⟩ :=
    verifyRunningIdentityWithoutCount_ok identified
  have kept := (verifyIdentityInBatch_checks index).extends_ (fun _ => .inl trivial) run
  refine ⟨pid, event :: (events ++ [count]), self ▸ recorded, kept.self, ?_, ?_, ?_, ?_⟩
  · rw [tail, trace, counts]
    simp
  · intro other member
    rcases List.mem_cons.mp member with rfl | inside
    · rw [readsPid.access]
      trivial
    · rcases List.mem_append.mp inside with inEvents | isCount
      · exact (accesses other inEvents).1.readsOnly
      · rw [List.mem_singleton.mp isCount, reads.access]
        trivial
  · exact ⟨count, by simp, reads⟩
  · exact ⟨event, by simp, readsPid⟩

end Runs

theorem issueCommand_checks (command : KdamondCommand) :
    ChecksCommands index (issueCommand index command) := by
  have once : Confined (SendsOnly command index) ((kdamond index).command command) :=
    Kdamond.command_confined index command ⟨rfl, rfl⟩
  have sends := Confined.retry once
  intro env world
  have whole := (issueCommand_sends index command).advances env world
  have checks : ChecksCommands index (verifyIdentityInBatch index) :=
    .of_reads (verifyIdentityInBatch_checks index) fun _ => ChecksThread.readsOnly
  have checking := checks env world
  unfold issueCommand at whole ⊢
  rw [Exec.bind_run] at whole ⊢
  cases run : verifyIdentityInBatch index env world with
  | mk outcome middle =>
      rw [run] at whole checking
      cases outcome with
      | error error => exact checking
      | ok value =>
          obtain ⟨pid, events, recorded, self, trace, reads, counted, identified⟩ :=
            verifyIdentityInBatch_ok run
          obtain ⟨_, commands, tail, accesses⟩ := sends.accesses (fun _ => trivial) env middle
          refine ⟨whole, commands ++ events, ?_, ?_⟩
          · rw [List.append_assoc, ← trace]
            exact tail
          · refine (CommandsChecked.of_reads reads).append_commands counted recorded identified ?_
            intro event member path value wrote
            have permitted := (accesses event member).1
            rw [wrote] at permitted
            exact permitted.1

/-- A relation that composes and that holds of every run that only reads. -/
structure KeptByReads (relation : Env → World → World → Prop) : Prop where
  refl : ∀ env world, relation env world world
  trans : ∀ env first second third, relation env first second →
    relation env second third → relation env first third
  reads : ∀ {β : Type} {program : Sysfs β}, Confined ReadsOnly program →
    Exec.Moves relation program

section Lookups

variable {relation : Env → World → World → Prop} (kept : KeptByReads relation)
include kept

theorem cachedContextCount_moves (cache : BatchCache) :
    Exec.Moves relation (cachedContextCount index cache) := by
  unfold cachedContextCount
  split
  · exact Exec.moves_pure kept.refl _
  · have reads : Exec.Moves relation (kdamond index).contextCount :=
      kept.reads (Confined.mono (Kdamond.contextCount_confined (readsConfiguration_below index))
        fun _ => ReadsConfiguration.readsOnly)
    refine Exec.moves_bind kept.trans (Exec.moves_attempt reads) fun outcome => ?_
    cases outcome with
    | ok count => exact Exec.moves_pure kept.refl _
    | error error => exact Exec.moves_pure kept.refl _

theorem cachedSchemeCount_moves (context : Nat) (cache : BatchCache) :
    Exec.Moves relation (cachedSchemeCount index context cache) := by
  unfold cachedSchemeCount
  split
  · exact Exec.moves_pure kept.refl _
  · have reads : Exec.Moves relation ((kdamond index).context context).schemeCount :=
      kept.reads (readUsize_confined trivial)
    refine Exec.moves_bind kept.trans (Exec.moves_attempt reads) fun outcome => ?_
    cases outcome with
    | ok count => exact Exec.moves_pure kept.refl _
    | error error => exact Exec.moves_pure kept.refl _

/-- Looking a scheme up only reads. -/
theorem cachedScheme_moves (context scheme : Nat) (cache : BatchCache) :
    Exec.Moves relation (cachedScheme index context scheme cache) := by
  refine Exec.moves_bind kept.trans (cachedContextCount_moves kept cache)
    fun counted => ?_
  obtain ⟨counted, cache⟩ := counted
  cases counted with
  | error error => exact Exec.moves_pure kept.refl _
  | ok count =>
      dsimp only
      split
      · exact Exec.moves_pure kept.refl _
      refine Exec.moves_bind kept.trans
        (cachedSchemeCount_moves kept context cache) fun counted => ?_
      obtain ⟨counted, cache⟩ := counted
      cases counted with
      | error error => exact Exec.moves_pure kept.refl _
      | ok count =>
          dsimp only
          split
          · exact Exec.moves_pure kept.refl _
          · exact Exec.moves_pure kept.refl _

end Lookups

theorem ChecksCommands.keptByReads : KeptByReads (World.Checks index) where
  refl _ := .refl
  trans _ _ _ _ := .trans
  reads reads := ChecksCommands.of_reads reads fun _ permitted => permitted

theorem cachedScheme_checks (context scheme : Nat) (cache : BatchCache) :
    ChecksCommands index (cachedScheme index context scheme cache) :=
  cachedScheme_moves ChecksCommands.keptByReads context scheme cache

theorem batchScheme_checks {context scheme : Nat} {refresh : Bool} {command : KdamondCommand}
    {read : Scheme → Sysfs RuntimeResult} (reads : ∀ scheme, Confined ReadsOnly (read scheme))
    (cache : BatchCache) :
    ChecksCommands index (batchScheme index context scheme refresh command read cache) := by
  have identified : ChecksCommands index (verifyIdentityInBatch index) :=
    .of_reads (verifyIdentityInBatch_checks index) fun _ => ChecksThread.readsOnly
  refine .bind (cachedScheme_checks context scheme cache) fun (found, cache) => ?_
  refine .bind (.attempt ?_) fun _ => .pure _
  refine .bind (.ofExcept found) fun scheme => .bind ?_ fun _ => ?_
  · unfold stageWhen
    split
    · exact issueCommand_checks command
    · exact .pure ()
  · refine .bind (.of_reads (reads scheme) fun _ permitted => permitted) fun result => ?_
    exact .bind identified fun _ => .pure result

theorem batchCommand_checks (command : KdamondCommand) (cache : BatchCache) :
    ChecksCommands index (batchCommand index command cache) := by
  have identified : ChecksCommands index (verifyIdentityInBatch index) :=
    .of_reads (verifyIdentityInBatch_checks index) fun _ => ChecksThread.readsOnly
  refine .bind (.attempt ?_) fun _ => .pure _
  exact .bind (issueCommand_checks command) fun _ => .bind identified fun _ => .pure _

/-- Every call of a batch checks its command. -/
theorem batchCall_checks (call : RuntimeRead) (cache : BatchCache) :
    ChecksCommands index (batchCall index call cache) := by
  cases call with
  | schemeStats context scheme refresh =>
      exact batchScheme_checks
        (fun scheme => (Scheme.stats_confined (fun _ => trivial) scheme).map) cache
  | triedRegions context scheme refresh =>
      exact batchScheme_checks
        (fun scheme => (Scheme.triedRegions_confined (fun _ => trivial) scheme).map) cache
  | triedBytesUnits context scheme refresh =>
      exact batchScheme_checks (fun scheme => (readU64_confined trivial).map) cache
  | effectiveQuotaUnits context scheme refresh =>
      exact batchScheme_checks (fun scheme => (readU64_confined trivial).map) cache
  | updateTunedIntervals => exact batchCommand_checks _ cache
  | clearTriedRegions => exact batchCommand_checks _ cache

theorem BatchClosure.runWith_checks (closure : BatchClosure α) (cache : BatchCache) :
    ChecksCommands index (closure.runWith index cache) := by
  induction closure generalizing cache with
  | done result => exact .ofExcept result
  | call call next ih => exact .bind (batchCall_checks call cache) fun found => ih found.1 found.2

end ManagedHierarchy

/-! ## One thread -/

/-- A thread identifier that is no longer shown is not shown again. -/
def NoPidReuse (index : Nat) (moments : List Moment) : Prop :=
  ∀ pid before first inner last after, moments = before ++ first :: (inner ++ last :: after) →
    first.system.ShowsThread index pid → last.system.ShowsThread index pid →
      ∀ moment ∈ inner, moment.system.ShowsThread index pid

/-- A check that ends with a read of the thread ends at a moment that shows the thread. -/
theorem World.EndsReading.moment {index : Nat} {pid : Pid} {env : Env} {before after : World}
    (reading : World.EndsReading index pid before after)
    (advances : World.Advances env before after) :
    ∃ moments moment, World.history env before after = moments ++ [moment] ∧
      moment.access = .read (Path.pidOf index) ∧ moment.reply.Reports pid ∧
      moment.system.ShowsThread index pid := by
  obtain ⟨middle, event, ⟨_, events, grown, _⟩, _, trace, reads, _⟩ := reading
  obtain ⟨moments, moment, split, access, reply⟩ := advances.history_last trace (by simp [grown])
  have isRead := access.trans reads.access
  have reports : moment.reply.Reports pid := reply ▸ reads.reply
  refine ⟨moments, moment, split, isRead, reports, ?_⟩
  have member : moment ∈ World.history env before after := by simp [split]
  cases replied : moment.reply with
  | failed fault =>
      rw [replied] at reports
      exact reports.elim
  | done =>
      rw [replied] at reports
      exact reports.elim
  | content content =>
      obtain ⟨file, found, same⟩ := env.moments_content member isRead replied
      exact ⟨file, found, by rw [same, ← replied]; exact reports⟩

namespace ManagedHierarchy

variable {index : Nat} {env : Env} {world after : World}

theorem validateKdamondIndex_ok (run : validateKdamondIndex index env world = (.ok (), after)) :
    after = world := by
  obtain ⟨self, _, read, decided⟩ := Exec.bind_eq_ok run
  cases read
  split at decided
  · cases decided
  · cases decided
    rfl

theorem verifyRunning_ok (run : verifyRunning index env world = (.ok (), after)) :
    ∃ pid, world.self.states[index]? = some (.running pid) ∧
      World.EndsReading index pid world after := by
  obtain ⟨_, first, valid, rest⟩ := Exec.bind_eq_ok run
  obtain rfl := validateKdamondIndex_ok valid
  obtain ⟨_, second, staged, checked⟩ := Exec.bind_eq_ok rest
  have checks : Confined (ChecksThread index) verifyStaged := Confined.checks verifyStaged_reads
  have kept := checks.extends_ (fun _ => .inl trivial) staged
  obtain ⟨pid, recorded, reading⟩ := verifyRunningStateAndIdentityWithoutCount_ok checked
  exact ⟨pid, kept.self ▸ recorded, reading.prepend kept⟩

theorem verifyRunningIdentity_ok (run : verifyRunningIdentity index env world = (.ok (), after)) :
    ∃ pid, world.self.states[index]? = some (.running pid) ∧
      World.EndsReading index pid world after := by
  obtain ⟨_, middle, staged, checked⟩ := Exec.bind_eq_ok run
  have checks : Confined (ChecksThread index) verifyStaged := Confined.checks verifyStaged_reads
  have kept := checks.extends_ (fun _ => .inl trivial) staged
  obtain ⟨pid, recorded, reading⟩ := verifyRunningIdentityOnly_ok checked
  exact ⟨pid, kept.self ▸ recorded, reading.prepend kept⟩

/-- A batch that returned: its closure ran between two moments that read the recorded thread,
and at every moment from the one to the other the kdamond showed that thread. -/
structure OneThread {α : Type} (index : Nat) (closure : BatchClosure α) (env : Env)
    (world after : World) (result : α) (pid : Pid) (opened closed : World)
    (opening closing : List Moment) (first last : Moment) : Prop where
  recorded : world.self.states[index]? = some (.running pid)
  ran : closure.operation index env opened = (.ok result, closed)
  whole : World.history env world after = opening ++ first ::
    (World.history env opened closed ++ closing ++ [last])
  firstReads : first.access = .read (Path.pidOf index) ∧ first.reply.Reports pid
  lastReads : last.access = .read (Path.pidOf index) ∧ last.reply.Reports pid
  openingReads : ∀ moment ∈ opening, ReadsOnly moment.access
  shown : ∀ moment ∈ first :: (World.history env opened closed ++ closing ++ [last]),
    moment.system.ShowsThread index pid

/-- The parts of a batch that returned. -/
theorem runtimeBatch_parts {α : Type} {closure : BatchClosure α} {result : α}
    (run : runtimeBatch index (closure.operation index) env world = (.ok result, after)) :
    ∃ opened closed, verifyRunning index env world = (.ok (), opened) ∧
      closure.operation index env opened = (.ok result, closed) ∧
      verifyRunningIdentity index env closed = (.ok (), after) := by
  obtain ⟨pid, first, expected, rest⟩ := Exec.bind_eq_ok run
  obtain ⟨_, rfl⟩ := expectedRunningPid_ok expected
  obtain ⟨_, opened, checked, rest⟩ := Exec.bind_eq_ok rest
  obtain ⟨outcome, closed, ran, rest⟩ := Exec.bind_eq_ok rest
  obtain ⟨_, last, identified, returned⟩ := Exec.bind_eq_ok rest
  rw [Exec.attempt_run] at ran
  obtain ⟨outcomes, worlds⟩ := Prod.mk.inj ran
  injection outcomes with outcomes
  obtain ⟨rfl, rfl⟩ := Prod.mk.inj returned
  exact ⟨opened, closed, checked, Prod.ext outcomes worlds, identified⟩

theorem oneThread_of_run {α : Type} {closure : BatchClosure α} {result : α}
    (run : runtimeBatch index (closure.operation index) env world = (.ok result, after))
    (noReuse : NoPidReuse index (World.history env world after)) :
    ∃ pid opened closed opening closing first last,
      OneThread index closure env world after result pid opened closed opening closing first
        last := by
  obtain ⟨opened, closed, checked, ran, identified⟩ := runtimeBatch_parts run
  have one : World.Advances env world opened := by
    have moves := (verifyRunning_checks index).advances env world
    rwa [checked] at moves
  have two : World.Advances env opened closed := by
    have checks : ChecksCommands index (closure.runWith index .empty) :=
      BatchClosure.runWith_checks closure .empty
    have moves := checks env opened
    rw [show closure.runWith index .empty env opened = (.ok result, closed) from ran] at moves
    exact moves.advances
  have three : World.Advances env closed after := by
    have moves := (verifyRunningIdentity_checks index).advances env closed
    rwa [identified] at moves
  obtain ⟨pid, recorded, opens⟩ := verifyRunning_ok checked
  obtain ⟨same, stillRecorded, closes⟩ := verifyRunningIdentity_ok identified
  rw [two.self, one.self, recorded] at stillRecorded
  cases stillRecorded
  obtain ⟨opening, first, begins, firstAccess, firstReports, firstShows⟩ := opens.moment one
  obtain ⟨closing, last, ends, lastAccess, lastReports, lastShows⟩ := closes.moment three
  have whole : World.history env world after = opening ++ first ::
      (World.history env opened closed ++ closing ++ [last]) := by
    rw [(one.trans two).history_append three, one.history_append two, begins, ends]
    simp
  have between := noReuse pid opening first (World.history env opened closed ++ closing) last []
    whole firstShows lastShows
  have opensReading : ∀ moment ∈ opening, ReadsOnly moment.access := by
    have reads := (verifyRunning_checks index).threadReadsOnly.extends_ (fun _ => trivial) checked
    intro moment member
    exact one.history_accesses reads.since moment (by simp [begins, member])
  refine ⟨pid, opened, closed, opening, closing, first, last, recorded, ran, whole,
    ⟨firstAccess, firstReports⟩, ⟨lastAccess, lastReports⟩, opensReading, ?_⟩
  intro moment member
  rcases List.mem_cons.mp member with rfl | inside
  · exact firstShows
  · rcases List.mem_append.mp inside with inner | isLast
    · exact between moment inner
    · exact List.mem_singleton.mp isLast ▸ lastShows

end ManagedHierarchy

open ManagedHierarchy in
/-- The results of a batch belong to the thread that the session has recorded, and each of its
commands follows reads of the kdamond count and of that thread in its own call. -/
theorem runtimeBatch_ownedThread {α : Type} (index : Nat) (closure : BatchClosure α) (env : Env)
    (world : World) :
    (∀ result after, runtimeBatch index (closure.operation index) env world = (.ok result, after) →
      NoPidReuse index (World.history env world after) →
        ∃ pid opened closed opening closing first last,
          OneThread index closure env world after result pid opened closed opening closing first
            last) ∧
      ∀ call cache before, ∃ events,
        (batchCall index call cache env before).2.trace = events ++ before.trace ∧
          CommandsChecked index before.self events :=
  ⟨fun _ _ run noReuse => oneThread_of_run run noReuse, fun call cache before =>
    (batchCall_checks call cache env before).checked⟩

namespace BatchFixture

open Fixture

def scheme : Path := ["kdamonds", "0", "contexts", "0", "schemes", "0"]

def totalBytes : Path := scheme ++ ["tried_regions", "total_bytes"]

/-- One running kdamond with one scheme, whose intervals the kernel does not tune. -/
def world : World :=
  session (.ofAttributes ((["kdamonds", "nr_kdamonds"], "1", true) ::
    (["kdamonds", "0", "contexts", "0", "schemes", "nr_schemes"], "1", true) ::
    (scheme ++ ["quotas", "effective_bytes"], "8192", false) :: (totalBytes, "0", false) ::
      kdamond 0 "on" "100" (context "5000" "100000" "0"))) (config [contextConfig .default 0])

/-- The scheme tries regions between two reads of the batch. -/
def trying : Env :=
  { calm with
    interfere := fun clock sys =>
      if clock = 25 then { sys with files := sys.files.setText totalBytes (.ofWritten "4096") }
      else sys }

/-- Refresh and read the effective quota, read the tried bytes and clear the tried regions. -/
def watch : ManagedHierarchy.BatchClosure (List RuntimeResult) :=
  .call (.effectiveQuotaUnits 0 0 true) fun quota =>
    .call (.triedBytesUnits 0 0 false) fun tried =>
      .call .clearTriedRegions fun cleared => .done ([quota, tried, cleared].mapM id)

/-- The world after the batch. -/
def after : World := (ManagedHierarchy.runtimeBatch 0 (watch.operation 0)).leads trying world

theorem returns : ManagedHierarchy.runtimeBatch 0 (watch.operation 0) trying world =
    (.ok [.units 8192, .units 4096, .nothing], after) :=
  Exec.run_of_outcome (by decide +kernel)

theorem noReuse : NoPidReuse 0 (World.history trying world after) := by
  have same : ∀ moment ∈ World.history trying world after,
      moment.system.files.get? (Path.pidOf 0) = world.sys.files.get? (Path.pidOf 0) := by
    decide +kernel
  intro pid before first inner last tail split ⟨file, found, reports⟩ _ moment member
  refine ⟨file, ?_, reports⟩
  rw [same moment (by simp [split, member]), ← same first (by simp [split])]
  exact found

end BatchFixture

open BatchFixture in
/-- A batch of two reads and two commands, while the scheme goes on. -/
theorem runtimeBatch_ownedThread_watch :
    ∃ pid opened closed opening closing first last,
      ManagedHierarchy.OneThread 0 watch trying world after [.units 8192, .units 4096, .nothing] pid
        opened closed opening closing first last :=
  (runtimeBatch_ownedThread 0 watch trying world).1 _ after returns noReuse

end DamonRs
