import DamonRs.Monitor.Fixture
import DamonRs.Monitor.Lifecycle
import DamonRs.Monitor.LostLifecycle
import DamonRs.Sysfs.Within

/-!
# Stopping one kdamond whatever happens to the others

Stopping goes through the kdamonds from the last one to the first.  A kdamond
that is still the one the session started, with the configuration it staged, is
stopped, whatever is found at the others.  The first error that is met decides
what the whole stop returns.
-/

namespace DamonRs

open Library Sysfs

/-! ## What a reading program finds -/

/-- Nobody else acts and no read fails. -/
structure Env.Readable (env : Env) : Prop where
  still : env.Still
  reads : ∀ clock access, ReadsOnly access → env.fault clock access = none

/-- In every world that looks like a given one a program finds a value, and changes nothing. -/
def Sysfs.Finds {α : Type} (env : Env) (world : World) (program : Sysfs α) (value : α) : Prop :=
  ∀ before, World.Looks world before →
    ∃ after, program env before = (.ok value, after) ∧ World.Looks world after

section Finds

variable {α β : Type} {env : Env} {world : World}

namespace Sysfs.Finds

protected theorem pure (value : α) : Finds env world (pure value) value :=
  fun before looks => ⟨before, rfl, looks⟩

protected theorem bind {program : Sysfs α} {next : α → Sysfs β} {value : α} {result : β}
    (first : Finds env world program value) (second : Finds env world (next value) result) :
    Finds env world (program >>= next) result := by
  intro before looks
  obtain ⟨middle, run, looks⟩ := first before looks
  obtain ⟨after, rest, looks⟩ := second middle looks
  exact ⟨after, (Exec.bind_run_ok run _).trans rest, looks⟩

/-- What is found at the first attempt needs no other one. -/
protected theorem retry {program : Sysfs α} {value : α} (finds : Finds env world program value) :
    Finds env world (retryBusy program) value := by
  intro before looks
  obtain ⟨after, run, looks⟩ := finds before looks
  refine ⟨after, ?_, looks⟩
  unfold retryBusy maxRetries Exec.retry
  rw [run]

theorem run {program : Sysfs α} {value : α} (finds : Finds env world program value) :
    ∃ after, program env world = (.ok value, after) ∧ World.Looks world after :=
  finds world (.refl world)

end Sysfs.Finds

variable (readable : env.Readable)
include readable

theorem Env.Readable.serve {access : Access} (reads : ReadsOnly access) :
    env.serve world access = env.respond world.clock world.sys access := by
  unfold Env.serve
  rw [readable.still, readable.reads _ _ reads]

/-- Reading a file that exists returns its content. -/
theorem Sysfs.Finds.access {access : Access} {path : Path} {file : File}
    (reads : access = .read path ∨ access = .compare path)
    (found : world.sys.files.get? path = some file) :
    Finds env world (perform access) (.content file.content) := by
  have only : ReadsOnly access := by
    rcases reads with rfl | rfl <;> trivial
  intro before looks
  refine ⟨env.advance before access, ?_, ?_⟩
  · rw [perform_run, readable.serve only]
    rcases reads with rfl | rfl
    all_goals
      simp only [Env.respond, looks.sys, found]
  · exact looks.trans ⟨rfl, readable.still.advance_sys before only⟩

theorem Sysfs.Finds.readText {path : Path} {text : AttributeText} {writable : Bool}
    (found : world.sys.files.get? path = some ⟨.text text, writable⟩) :
    Finds env world (readText path) text.raw :=
  (Finds.access readable (.inl rfl) found).bind (.pure _)

theorem Sysfs.Finds.state {index : Nat} {state : KdamondState}
    (shows : world.sys.ShowsState index state) :
    Finds env world (DamonAdmin.kdamond index).state state := by
  obtain ⟨line, writable, found, parsed⟩ := shows
  refine (Finds.readText readable found).bind ?_
  rw [parsed]
  exact .pure state

theorem Sysfs.Finds.pid {index : Nat} {pid : Pid} (shows : world.sys.ShowsThread index pid) :
    Finds env world (DamonAdmin.kdamond index).pid (some pid) := by
  obtain ⟨⟨content, writable⟩, found, reports⟩ := shows
  cases content with
  | undecodable bytes => exact reports.elim
  | text text =>
      have shown : Text.parseSigned intBound (Text.trim text.raw) = some (pid.get.toNat : Int) :=
        reports
      have bounded := Text.parseSigned_range (by decide) shown
      have kept : (Int32.ofInt pid.get.toNat).toInt = pid.get.toNat :=
        Int32.toInt_ofInt_of_le bounded.1 bounded.2
      have raw : Finds env world (readI32 (Path.pidOf index)) (Int32.ofInt pid.get.toNat) := by
        refine (Finds.readText readable found).bind ?_
        simp only [shown]
        exact .pure _
      refine Finds.bind raw ?_
      have positive : ¬Int32.ofInt pid.get.toNat < 0 := by
        rw [Int32.lt_iff_toInt_lt, kept]
        simp
      rw [if_neg positive, kept, Int.toNat_natCast, UInt32.ofNat_toNat, Pid.new_get]
      exact .pure _

theorem Sysfs.Finds.usize {path : Path} {number : Nat}
    (shows : Content.Numbers (world.sys.files.get? path) number) :
    Finds env world (readUsize path) number := by
  obtain ⟨⟨content, writable⟩, found, numbers⟩ := shows
  cases content with
  | undecodable bytes => cases numbers
  | text text =>
      have numbers : (if (Content.text text).bytes.length ≥ 64 then none
          else Text.parseUnsigned u64Bound (Text.trim text.raw)) = some number := numbers
      split at numbers
      · cases numbers
      rename_i short
      have line : Finds env world (readNumberText path) (Text.trim text.raw) := by
        refine (Finds.access readable (.inl rfl) found).bind ?_
        simp only [if_neg short]
        exact .pure _
      have value : Finds env world (readU64 path) (UInt64.ofNat number) := by
        refine line.bind ?_
        simp only [numbers]
        exact .pure _
      refine value.bind ?_
      rw [UInt64.toNat_ofNat_of_lt' (Text.parseUnsigned_lt numbers)]
      exact .pure number

/-- A shown value compares equal. -/
theorem Sysfs.Finds.equal {path : Path} {value : String} (shows : world.sys.Shows path value) :
    Finds env world (readConfigurationValueEquals path value) true := by
  obtain ⟨file, found, same⟩ := shows
  refine (Finds.access readable (.inr rfl) found).bind ?_
  have equal : matchConfigurationChunks (Text.utf8Bytes value)
      (bufferChunks readBufferSize file.content.bytes.length file.content.bytes) 0 false = true := by
    rw [matchConfigurationChunks_eq_true, bufferChunks_flatten]
    exact same
  show Finds env world (pure (matchConfigurationChunks _ _ 0 false)) true
  rw [equal]
  exact .pure true

theorem Sysfs.Finds.entries {skip : Path → Bool} (entries : List ConfigurationEntry)
    (shown : ∀ entry ∈ entries, skip entry.path = false →
      world.sys.Shows entry.path entry.value) :
    Finds env world (entriesMatch skip entries) true := by
  induction entries with
  | nil => exact .pure true
  | cons entry rest ih =>
      have others := ih fun other member => shown other (List.mem_cons_of_mem entry member)
      unfold entriesMatch
      cases skipped : skip entry.path with
      | true => exact others
      | false =>
          exact (Finds.equal readable (shown entry (List.mem_cons_self ..) skipped)).bind others

end Finds

namespace ManagedHierarchy

/-! ## A kdamond that is still the one that was started -/

/-- Nobody disturbed a kdamond: it runs with the recorded thread, and everything that the session
captured below it is shown, except for the leaves that the kernel tunes. -/
structure Undisturbed (index : Nat) (pid : Pid) (world : World) : Prop where
  recorded : world.self.state index = .running pid
  on : ∃ text, world.sys.files.get? (Path.stateOf index) = some ⟨.text text, true⟩ ∧
    text.value = "on"
  thread : world.sys.ShowsThread index pid
  shown : ∀ entry ∈ world.self.staged.configuration.entries,
    (kdamond index).path.isPrefixOf entry.path = true →
      containsPath world.self.staged.volatilePaths entry.path = false →
        world.sys.Shows entry.path entry.value

/-- The kdamond count is the one that was staged. -/
def Counted (world : World) : Prop :=
  Content.Numbers (world.sys.files.get? DamonAdmin.countPath) world.self.staged.kdamondCount

/-- Writing `off` to the state file of a kdamond is accepted, maybe after it was busy for less
attempts than are made. -/
def OffAccepted (env : Env) (index : Nat) : Prop :=
  ∀ clock, ∃ busy ≤ maxRetries,
    (∀ earlier < busy, ∃ fault,
      env.fault (clock + earlier) (.write (Path.stateOf index) "off") = some fault ∧
        fault.errno = Error.linuxEbusy ∧ fault.stage = .transfer) ∧
      env.fault (clock + busy) (.write (Path.stateOf index) "off") = none

section One

variable {index : Nat} {pid : Pid} {env : Env} {world : World}

theorem Undisturbed.looks {before after : World} (undisturbed : Undisturbed index pid before)
    (looks : World.Looks before after) : Undisturbed index pid after where
  recorded := looks.self ▸ undisturbed.recorded
  on := looks.sys ▸ undisturbed.on
  thread := looks.sys ▸ undisturbed.thread
  shown := by
    rw [looks.self, looks.sys]
    exact undisturbed.shown

theorem Undisturbed.showsOn (undisturbed : Undisturbed index pid world) :
    world.sys.ShowsState index .on := by
  obtain ⟨text, found, value⟩ := undisturbed.on
  refine ⟨text, true, found, ?_⟩
  rcases stripFinalNewline_eq_iff.mp value with raw | ⟨raw, _⟩ <;> rw [raw] <;> decide

theorem Undisturbed.isRunning (undisturbed : Undisturbed index pid world) :
    world.sys.isRunning (kdamond index).path = true := by
  obtain ⟨text, found, value⟩ := undisturbed.on
  have shown : world.sys.value? (Path.stateOf index) = some "on" := by
    unfold System.value?
    rw [found]
    exact congrArg some value
  unfold System.isRunning
  rw [show (kdamond index).path ++ ["state"] = Path.stateOf index from rfl, shown]
  rfl

/-- The system after `off` has been accepted. -/
def turnedOff (sys : System) (index : Nat) : System :=
  sys.showState (kdamond index).path "off" "-1"

theorem turnedOff_shows {sys : System} {text : AttributeText}
    (found : sys.files.get? (Path.stateOf index) = some ⟨.text text, true⟩) :
    (turnedOff sys index).ShowsState index .off := by
  refine ⟨.ofWritten "off", true, ?_, by decide⟩
  have different : Path.stateOf index ≠ (kdamond index).path ++ ["pid"] := by
    simp [Path.stateOf]
  show ((sys.files.setText (Path.stateOf index) _).setText _ _).get? (Path.stateOf index) = _
  rw [Files.get?_setText_of_ne _ different, Files.get?_setText, if_pos rfl, found]
  rfl

theorem write_off {kernel : Kernel} {thread : Pid} {sys : System} {text : AttributeText}
    (word : index < 2 ^ 64)
    (found : sys.files.get? (Path.stateOf index) = some ⟨.text text, true⟩)
    (running : sys.isRunning (kdamond index).path = true) :
    sys.write kernel thread (Path.stateOf index) "off" = .ok (turnedOff sys index) := by
  have kind : System.kdamondOfState? (Path.stateOf index) =
      some (DamonAdmin.kdamond index).path := by
    simp [Path.stateOf, DamonAdmin.kdamond, System.kdamondOfState?,
      Path.nameIndex?_indexName word]
  unfold System.write
  rw [found]
  dsimp only
  rw [kind]
  have running : sys.isRunning (DamonAdmin.kdamond index).path = true := running
  simp [System.command, running]
  rfl

/-- One attempt to send `off`: refused because the kdamond is busy, or accepted. -/
theorem commandOff_run (readable : env.Readable) (word : index < 2 ^ 64)
    (undisturbed : Undisturbed index pid world) :
    (∀ fault, env.fault world.clock (.write (Path.stateOf index) "off") = some fault →
      fault.errno = Error.linuxEbusy → fault.stage = .transfer →
        ∃ after error, error.isResourceBusy = true ∧ after.clock = world.clock + 1 ∧
          World.Looks world after ∧
          (kdamond index).command .off env world = (.error error, after)) ∧
    (env.fault world.clock (.write (Path.stateOf index) "off") = none →
      ∃ after, (kdamond index).command .off env world = (.ok (), after) ∧
        after.self = world.self ∧ after.sys = turnedOff world.sys index) := by
  have sends : (kdamond index).command .off env world =
      writeBytes (Path.stateOf index) "off" env world := rfl
  rw [sends]
  constructor
  · intro fault failed busy stage
    refine ⟨env.advance world (.write (Path.stateOf index) "off"),
      .io "write" (Path.stateOf index) (.os Error.linuxEbusy), rfl, rfl, ⟨rfl, ?_⟩, ?_⟩
    · simp only [Env.advance, Env.serve, failed]
      exact readable.still _ _
    · unfold writeBytes
      rw [Exec.bind_run, perform_run]
      simp only [Env.serve, failed, stage, busy]
      rfl
  · intro accepted
    obtain ⟨text, found, value⟩ := undisturbed.on
    have served : env.serve world (.write (Path.stateOf index) "off") =
        (.done, turnedOff world.sys index) := by
      simp only [Env.serve, accepted, readable.still _ _, Env.respond,
        write_off word found undisturbed.isRunning]
    refine ⟨(env.advance world (.write (Path.stateOf index) "off")).recordWrite
      (Path.stateOf index), ?_, rfl, ?_⟩
    · unfold writeBytes
      rw [Exec.bind_run, perform_run]
      simp only [served]
      rfl
    · simp only [World.recordWrite, Env.advance, served]

/-- An attempt at a given time after attempts that found the kdamond busy is accepted. -/
theorem retryOff_run (readable : env.Readable) (word : index < 2 ^ 64) {busy budget : Nat}
    (within : busy ≤ budget) (undisturbed : Undisturbed index pid world)
    (refused : ∀ earlier < busy, ∃ fault,
      env.fault (world.clock + earlier) (.write (Path.stateOf index) "off") = some fault ∧
        fault.errno = Error.linuxEbusy ∧ fault.stage = .transfer)
    (accepted : env.fault (world.clock + busy) (.write (Path.stateOf index) "off") = none) :
    ∃ after, Exec.retry Error.isResourceBusy ((kdamond index).command .off) budget env world =
        (.ok (), after) ∧
      after.self = world.self ∧ after.sys = turnedOff world.sys index := by
  induction busy generalizing budget world with
  | zero =>
      obtain ⟨after, run, self, sys⟩ := (commandOff_run readable word undisturbed).2 accepted
      refine ⟨after, ?_, self, sys⟩
      cases budget with
      | zero => exact run
      | succ budget =>
          unfold Exec.retry
          rw [run]
  | succ busy ih =>
      obtain ⟨fault, failed, isBusy, stage⟩ := refused 0 (Nat.succ_pos busy)
      obtain ⟨middle, error, again, clock, looks, run⟩ :=
        (commandOff_run readable word undisturbed).1 fault failed isBusy stage
      obtain ⟨budget, rfl⟩ := Nat.exists_eq_add_of_le' (Nat.lt_of_lt_of_le (Nat.succ_pos busy) within)
      have later : ∀ count, middle.clock + count = world.clock + (count + 1) := fun count => by
        rw [clock]
        omega
      obtain ⟨after, ends, self, sys⟩ := ih (Nat.le_of_succ_le_succ within)
        (undisturbed.looks looks)
        (fun earlier before => by
          rw [later]
          exact refused (earlier + 1) (Nat.succ_lt_succ before))
        (by rw [later]; exact accepted)
      refine ⟨after, ?_, self.trans looks.self, looks.sys ▸ sys⟩
      unfold Exec.retry
      rw [run]
      simpa [again] using ends

/-- What a stop has to achieve: the kdamond is recorded as staged, and is off. -/
def StagedAndOff (index : Nat) (world : World) : Prop :=
  world.self.state index = .staged ∧ world.sys.ShowsState index .off

/-- Stopping an undisturbed kdamond works. -/
theorem stopIdentified_stops (readable : env.Readable) (word : index < 2 ^ 64)
    (accepted : OffAccepted env index) (undisturbed : Undisturbed index pid world) :
    ∃ after, stopIdentified index pid env world = (.ok (), after) ∧ StagedAndOff index after := by
  have identified : Finds env world (currentPid index) pid :=
    (Finds.pid readable undisturbed.thread).retry.bind (.pure pid)
  obtain ⟨first, run, looks⟩ := identified.run
  have same : requireSamePid pid pid env first = (.ok (), first) := by
    unfold requireSamePid
    rw [if_neg (by simp)]
    rfl
  have still := undisturbed.looks looks
  obtain ⟨busy, within, refused, accepts⟩ := accepted first.clock
  obtain ⟨second, sent, self, sys⟩ := retryOff_run readable word within still refused accepts
  obtain ⟨text, found, _⟩ := still.on
  have off : second.sys.ShowsState index .off := by
    rw [sys]
    exact turnedOff_shows found
  obtain ⟨third, read, shown⟩ := (Finds.state readable off).retry.run
  refine ⟨(setState index .staged env third).2, ?_, ?_, ?_⟩
  · unfold stopIdentified
    rw [Exec.bind_run_ok run, Exec.bind_run_ok same]
    refine (Exec.bind_run_ok (show retryBusy _ env first = (.ok (), second) from sent) _).trans ?_
    exact (Exec.bind_run_ok (show retryBusy (kdamond index).state env second = _ from read) _)
  · have kept : third.self = first.self := shown.self.trans self
    refine setState_state (kept ▸ managed_of_running still.recorded)
  · exact shown.sys ▸ off

theorem verifyAndStop_stops (readable : env.Readable) (word : index < 2 ^ 64)
    (accepted : OffAccepted env index) (undisturbed : Undisturbed index pid world) :
    StagedAndOff index (verifyAndStop index env world).2 := by
  have scanned : ∀ entry ∈ (world.self.staged.configuration.entries.drop
      (partitionPoint world.self.staged.configuration.entries fun entry =>
        entry.path < (kdamond index).path)).takeWhile
          (fun entry => (kdamond index).path.isPrefixOf entry.path),
      containsPath world.self.staged.volatilePaths entry.path = false →
        world.sys.Shows entry.path entry.value := by
    intro entry member
    have below := List.mem_takeWhile_imp member
    exact undisturbed.shown entry
      (List.mem_of_mem_drop ((List.takeWhile_prefix _).subset member)) below
  have unchanged : Finds env world (world.self.staged.verifyKdamondConfiguration index) () :=
    (Finds.entries readable _ scanned).bind (.pure ())
  obtain ⟨first, checked, looks⟩ := unchanged.run
  have still := undisturbed.looks looks
  obtain ⟨second, read, shown⟩ := (Finds.state readable still.showsOn).retry.run
  obtain ⟨after, stopped, done⟩ :=
    stopIdentified_stops readable word accepted (still.looks shown)
  have run : verifyAndStop index env world = (.ok (), after) := by
    unfold verifyAndStop
    rw [Exec.bind_run, getSelf_run]
    dsimp only
    rw [Exec.bind_run_ok checked]
    unfold stopOne
    rw [Exec.bind_run, getSelf_run]
    dsimp only
    rw [still.recorded]
    refine (Exec.bind_run_ok (show retryBusy (kdamond index).state env first = _ from read) _).trans ?_
    exact stopped
  rw [run]
  exact done

end One

/-! ## The loop -/

section Loop

variable {index other : Nat} {pid : Pid} {env : Env} {world before after : World}

theorem Counted.touches (counted : Counted before) (touches : World.Touches other before after) :
    Counted after := by
  unfold Counted
  rw [touches.staged, touches.files]
  · exact counted
  · simp [DamonAdmin.countPath, Path.stateOf, DamonAdmin.kdamond]
  · simp [DamonAdmin.countPath, Path.pidOf, DamonAdmin.kdamond]

/-- A file of a kdamond lies below no other kdamond. -/
theorem below_kdamond {name : String}
    (below : (kdamond index).path.isPrefixOf ((kdamond other).path ++ [name]) = true) :
    index = other := by
  have same : Path.indexName index = Path.indexName other := by
    simpa [kdamond, DamonAdmin.kdamond, List.isPrefixOf] using below
  exact Path.indexName_injective same

/-- What happens to another kdamond disturbs nothing. -/
theorem Undisturbed.touches (undisturbed : Undisturbed index pid before)
    (touches : World.Touches other before after) (different : index ≠ other) :
    Undisturbed index pid after where
  recorded := (touches.state different).trans undisturbed.recorded
  on := touches.stateFile different ▸ undisturbed.on
  thread := (touches.showsThread different).mpr undisturbed.thread
  shown := by
    intro entry member below compared
    rw [touches.staged] at member compared
    unfold System.Shows
    rw [touches.files]
    · exact undisturbed.shown entry member below compared
    · intro same
      exact different (below_kdamond (same ▸ below))
    · intro same
      exact different (below_kdamond (same ▸ below))

theorem StagedAndOff.touches (done : StagedAndOff index before)
    (touches : World.Touches other before after) (different : index ≠ other) :
    StagedAndOff index after :=
  ⟨(touches.state different).trans done.1, (touches.showsState different).mpr done.2⟩

theorem StagedAndOff.looks (done : StagedAndOff index before)
    (looks : World.Looks before after) : StagedAndOff index after :=
  ⟨looks.self ▸ done.1, looks.sys ▸ done.2⟩

/-- The count check of a hierarchy whose count is the staged one. -/
theorem verifyCount_finds (readable : env.Readable) (counted : Counted world) :
    Finds env world world.self.staged.verifyCount () := by
  refine (Finds.usize readable counted).bind ?_
  rw [if_neg (by simp)]
  exact .pure ()

/-- The stops of the other kdamonds leave alone what holds of one. -/
theorem stopEach_keeps (readable : env.Readable) {holds : World → Prop}
    (looks : ∀ before after, World.Looks before after → holds before → holds after)
    {indices : List Nat}
    (touches : ∀ other ∈ indices, ∀ before after, World.Touches other before after →
      holds before → holds after)
    (first : Option Error) (counted : Counted world) (initial : holds world) :
    Counted (stopEach first indices env world).2 ∧ holds (stopEach first indices env world).2 := by
  induction indices generalizing first world with
  | nil => exact ⟨counted, initial⟩
  | cons other rest ih =>
      obtain ⟨middle, run, same⟩ := (verifyCount_finds readable counted).run
      have stops : World.Touches other middle (verifyAndStop other env middle).2 :=
        verifyAndStop_touches env middle readable.still
      unfold stopEach
      rw [Exec.bind_run, getSelf_run]
      dsimp only
      rw [Exec.bind_run, Exec.attempt_run, run]
      dsimp only
      rw [Exec.bind_run, Exec.attempt_run]
      exact ih (fun item member => touches item (List.mem_cons_of_mem other member)) _
        ((counted.touches (same.touches other)).touches stops)
        (touches other (List.mem_cons_self ..) _ _ stops (looks _ _ same initial))

/-- An undisturbed kdamond is stopped when its turn comes. -/
theorem stopEach_isolates (readable : env.Readable) (word : index < 2 ^ 64)
    (accepted : OffAccepted env index) {indices : List Nat} (once : indices.Nodup)
    (member : index ∈ indices) (first : Option Error) (counted : Counted world)
    (undisturbed : Undisturbed index pid world) :
    StagedAndOff index (stopEach first indices env world).2 := by
  induction indices generalizing first world with
  | nil => cases member
  | cons other rest ih =>
      obtain ⟨outside, once⟩ := List.nodup_cons.mp once
      obtain ⟨middle, run, same⟩ := (verifyCount_finds readable counted).run
      have stops : World.Touches other middle (verifyAndStop other env middle).2 :=
        verifyAndStop_touches env middle readable.still
      have countedAfter : Counted (verifyAndStop other env middle).2 :=
        (counted.touches (same.touches other)).touches stops
      unfold stopEach
      rw [Exec.bind_run, getSelf_run]
      dsimp only
      rw [Exec.bind_run, Exec.attempt_run, run]
      dsimp only
      rw [Exec.bind_run, Exec.attempt_run]
      by_cases here : index = other
      · subst here
        have done := verifyAndStop_stops readable word accepted (undisturbed.looks same)
        refine (stopEach_keeps readable (fun _ _ looks done => StagedAndOff.looks done looks)
          (fun item later _ _ touches done => StagedAndOff.touches done touches ?_)
          _ countedAfter done).2
        rintro rfl
        exact outside later
      · exact ih once ((List.mem_cons.mp member).resolve_left here) _ countedAfter
          ((undisturbed.looks same).touches stops here)

/-- A stop whose first count check passes goes on to the loop, and only reads after it. -/
theorem stopAll_run (owns : world.self.ownsHierarchy = true)
    (run : world.self.staged.verifyCount env world = (.ok (), before)) :
    stopAll env world = (do
      let first ← stopEach none (List.range world.self.states.length).reverse
      reportFirst first
      verifyStaged : Sysfs Unit) env before := by
  unfold stopAll
  rw [Exec.bind_run, getSelf_run]
  dsimp only
  rw [if_neg (by simp [owns]), Exec.bind_run_ok run]

theorem reportFirst_reads (first : Option Error) : Confined ReadsOnly (reportFirst first) := by
  cases first with
  | none => exact .pure ()
  | some error => exact .fail error

/-- An undisturbed kdamond is stopped, whatever is found at the others. -/
theorem stopAll_isolates (readable : env.Readable) (owns : world.self.ownsHierarchy = true)
    (counted : Counted world) (word : index < 2 ^ 64) (accepted : OffAccepted env index)
    (undisturbed : Undisturbed index pid world) :
    StagedAndOff index (stopAll env world).2 := by
  obtain ⟨before, run, looks⟩ := (verifyCount_finds readable counted).run
  have member : index ∈ (List.range world.self.states.length).reverse := by
    simpa using managed_of_running undisturbed.recorded
  have done := stopEach_isolates readable word accepted
    (List.nodup_reverse.mpr List.nodup_range) member none
    (counted.touches (looks.touches 0)) (undisturbed.looks looks)
  rw [stopAll_run owns run, Exec.bind_run]
  cases ran : stopEach none (List.range world.self.states.length).reverse env before with
  | mk outcome after =>
      rw [ran] at done
      cases outcome with
      | error error => exact done
      | ok first =>
          have reads : Confined ReadsOnly (do
              reportFirst first
              verifyStaged) :=
            .seq (reportFirst_reads first) (Confined.readsOnly verifyStaged_reads)
          exact done.looks (reads.looks env after readable.still)

end Loop

/-! ## Which error is returned -/

/-- One turn of the loop: the count is checked, then the kdamond is verified and stopped. -/
def stopStep (index : Nat) : Sysfs Unit := do
  let self ← getSelf
  self.staged.verifyCount
  verifyAndStop index

/-- The world after some turns, whatever their outcomes. -/
def afterTurns (env : Env) (indices : List Nat) (world : World) : World :=
  indices.foldl (fun world index => (stopStep index env world).2) world

/-- The world in which the turn of a kdamond comes, after those with a higher index. -/
def turnOf (env : Env) (world : World) (index : Nat) : World :=
  afterTurns env (List.range' (index + 1) (world.self.states.length - (index + 1))).reverse
    (world.self.staged.verifyCount env world).2

/-- What one turn of a kdamond returns. -/
def turnOutcome (env : Env) (world : World) (index : Nat) : Except Error Unit :=
  (stopStep index env (turnOf env world index)).1

section Turns

variable {index : Nat} {env : Env} {world before after : World} {error : Error}

theorem stopEach_ok {first : Option Error} {rest : List Nat}
    (run : stopStep index env world = (.ok (), after)) :
    stopEach first (index :: rest) env world = stopEach first rest env after := by
  unfold stopStep at run
  rw [Exec.bind_run, getSelf_run] at run
  obtain ⟨_, middle, counted, stopped⟩ := Exec.bind_eq_ok run
  rw [stopEach, Exec.bind_run, getSelf_run]
  dsimp only
  rw [Exec.bind_run, Exec.attempt_run, counted]
  dsimp only
  rw [Exec.bind_run, Exec.attempt_run, stopped]
  rfl

theorem stopEach_error {rest : List Nat} (failed : (stopStep index env world).1 = .error error) :
    (stopEach none (index :: rest) env world).1 = .ok (some error) := by
  unfold stopStep at failed
  rw [Exec.bind_run, getSelf_run] at failed
  dsimp only at failed
  rw [Exec.bind_run] at failed
  unfold stopEach
  rw [Exec.bind_run, getSelf_run]
  dsimp only
  rw [Exec.bind_run, Exec.attempt_run]
  cases counted : world.self.staged.verifyCount env world with
  | mk outcome middle =>
      rw [counted] at failed
      cases outcome with
      | error other =>
          cases failed
          rfl
      | ok value =>
          dsimp only at failed ⊢
          rw [Exec.bind_run, Exec.attempt_run, failed]
          exact stopEach_some error rest env _

/-- While every turn succeeds, the loop goes on with the kdamonds below. -/
theorem stopEach_turns (count index : Nat) (within : index ≤ count)
    (succeeded : ∀ higher, index ≤ higher → higher < count →
      (stopStep higher env (afterTurns env
        (List.range' (higher + 1) (count - (higher + 1))).reverse before)).1 = .ok ()) :
    stopEach none (List.range count).reverse env before =
      stopEach none (List.range index).reverse env
        (afterTurns env (List.range' index (count - index)).reverse before) := by
  induction within using Nat.decreasingInduction with
  | self => simp [afterTurns]
  | of_succ index below ih =>
      rw [ih fun higher above => succeeded higher (Nat.le_of_succ_le above)]
      have turn := succeeded index (le_refl index) below
      have later : List.range' index (count - index) =
          index :: List.range' (index + 1) (count - (index + 1)) := by
        rw [show count - index = count - (index + 1) + 1 by omega, List.range'_succ]
      rw [List.range_succ, List.reverse_append, List.reverse_singleton, List.singleton_append,
        stopEach_ok (Prod.ext turn rfl), later, List.reverse_cons]
      simp [afterTurns]

/-- The first turn that fails decides what the stop returns. -/
theorem stopAll_returns (owns : world.self.ownsHierarchy = true)
    (counted : world.self.staged.verifyCount env world = (.ok (), before))
    (managed : index < world.self.states.length)
    (failed : turnOutcome env world index = .error error)
    (higher : ∀ higher, index < higher → higher < world.self.states.length →
      turnOutcome env world higher = .ok ()) :
    (stopAll env world).1 = .error error := by
  have start : (world.self.staged.verifyCount env world).2 = before := by rw [counted]
  unfold turnOutcome turnOf at failed higher
  rw [start] at failed higher
  have loop := stopEach_turns world.self.states.length (index + 1) managed
    fun other above => higher other above
  rw [List.range_succ, List.reverse_append, List.reverse_singleton, List.singleton_append] at loop
  have first : (stopEach none (index :: (List.range index).reverse) env _).1 =
      .ok (some error) := stopEach_error failed
  rw [← loop] at first
  rw [stopAll_run owns counted, Exec.bind_run]
  cases ran : stopEach none (List.range world.self.states.length).reverse env before with
  | mk outcome after =>
      rw [ran] at first
      cases first
      rfl

end Turns

/-! ## Closing after a failed stop -/

section Closing

variable {env : Env} {world after : World} {error : Error}

/-- A close that fails to stop the hierarchy ends there. -/
theorem closeInner_failedStop (owns : world.self.ownsHierarchy = true)
    (failed : stopAll env world = (.error error, after)) :
    closeInner env world = (.error error, after) := by
  unfold closeInner
  rw [Exec.bind_run, getSelf_run]
  dsimp only
  rw [if_neg (by simp [owns])]
  exact Exec.bind_run_error failed _

/-- Dropping a handle reports nothing. -/
theorem drop_outcome : (drop env world).1 = .ok () := by
  unfold drop
  rw [Exec.bind_run, getSelf_run]
  dsimp only
  split
  · rw [Exec.bind_run, Exec.attempt_run]
    rfl
  · rfl

/-- Closing returns the outcome of the first attempt, and ends where dropping the handle ends. -/
theorem close_run {outcome : Except Error Unit} (run : closeInner env world = (outcome, after)) :
    close env world = (outcome, (drop env after).2) := by
  have dropped : drop env after = (.ok (), (drop env after).2) := Prod.ext drop_outcome rfl
  unfold close
  rw [Exec.bind_run, Exec.attempt_run, run]
  dsimp only
  rw [Exec.bind_run_ok dropped]
  rfl

/-- Accesses that write to no file but the state files. -/
def CommandsAny : Access → Prop
  | .write path _ => ∃ index, path = Path.stateOf index
  | _ => True

/-- Every run of a program writes to state files only. -/
def SendsCommands {α : Type} (program : Sysfs α) : Prop :=
  Exec.Moves (fun _ => World.Since CommandsAny) program

theorem SendsCommands.bind {α β : Type} {program : Sysfs α} {next : α → Sysfs β}
    (first : SendsCommands program) (second : ∀ value, SendsCommands (next value)) :
    SendsCommands (program >>= next) := by
  have trans : ∀ (_ : Env) before middle after, World.Since CommandsAny before middle →
      World.Since CommandsAny middle after → World.Since CommandsAny before after :=
    fun _ _ _ _ => World.Since.trans
  exact Exec.moves_bind trans first second

theorem sendsCommands_of_confined {α : Type} {program : Sysfs α}
    (confined : Confined CommandsAny program) : SendsCommands program :=
  fun env world => (confined.accesses (fun _ => trivial) env world).since

theorem sendsCommands_of_reads {α : Type} {program : Sysfs α}
    (confined : Confined ReadsOnly program) : SendsCommands program :=
  sendsCommands_of_confined (confined.mono fun access reads => by
    cases access <;> trivial)

theorem setState_sendsCommands (index : Nat) (state : KdamondSessionState) :
    SendsCommands (setState index state) :=
  fun _ world => ⟨[], rfl, by simp⟩

theorem command_sendsCommands (index : Nat) (command : KdamondCommand) :
    SendsCommands (retryBusy ((kdamond index).command command)) := by
  have permitted : CommandsAny (.write (Path.stateOf index) command.kernelName) := ⟨index, rfl⟩
  exact sendsCommands_of_confined (.retry (Kdamond.command_confined index command permitted))

theorem state_sendsCommands (index : Nat) : SendsCommands (retryBusy (kdamond index).state) :=
  sendsCommands_of_reads (Confined.readsOnly (.retry (Kdamond.state_confined index)))

theorem stopUnlessOff_sendsCommands (index : Nat) {whileOn : Sysfs Unit}
    (on : SendsCommands whileOn) : SendsCommands (stopUnlessOff index whileOn) := by
  refine (state_sendsCommands index).bind fun state => ?_
  cases state with
  | off => exact setState_sendsCommands index .staged
  | on => exact on
  | unknown name => exact sendsCommands_of_reads (.fail _)

theorem stopIdentified_sendsCommands (index : Nat) (expected : Pid) :
    SendsCommands (stopIdentified index expected) := by
  refine (sendsCommands_of_reads (currentPid_checks index).threadReadsOnly).bind fun current => ?_
  refine SendsCommands.bind (sendsCommands_of_reads (requireSamePid_confined current expected))
    fun _ => (command_sendsCommands index .off).bind fun _ => ?_
  refine (state_sendsCommands index).bind fun state => ?_
  cases state with
  | off => exact setState_sendsCommands index .staged
  | on => exact sendsCommands_of_reads (.fail _)
  | unknown name => exact sendsCommands_of_reads (.fail _)

theorem verifyAndStop_sendsCommands (index : Nat) : SendsCommands (verifyAndStop index) := by
  refine (sendsCommands_of_reads .self).bind fun self => ?_
  refine SendsCommands.bind (sendsCommands_of_reads (Confined.readsOnly
    (self.staged.verifyKdamondConfiguration_reads index))) fun _ => ?_
  refine (sendsCommands_of_reads .self).bind fun self => ?_
  cases self.state index with
  | staged => exact sendsCommands_of_reads (Confined.readsOnly (requireStagedOff_reads index))
  | running expected =>
      exact stopUnlessOff_sendsCommands index (stopIdentified_sendsCommands index expected)
  | unidentifiedRunning =>
      exact stopUnlessOff_sendsCommands index (sendsCommands_of_reads (.fail _))

theorem stopEach_sendsCommands (first : Option Error) (indices : List Nat) :
    SendsCommands (stopEach first indices) := by
  induction indices generalizing first with
  | nil => exact sendsCommands_of_reads (.pure first)
  | cons index rest ih =>
      refine (sendsCommands_of_reads .self).bind fun self => ?_
      refine SendsCommands.bind (Exec.moves_attempt (sendsCommands_of_reads
        (Confined.readsOnly self.staged.verifyCount_reads))) fun outcome => ?_
      cases outcome with
      | error error => exact sendsCommands_of_reads (.pure _)
      | ok value =>
          exact SendsCommands.bind (Exec.moves_attempt (verifyAndStop_sendsCommands index))
            fun outcome => ih _

theorem stopAll_sendsCommands : SendsCommands stopAll := by
  refine (sendsCommands_of_reads .self).bind fun self => ?_
  split
  · exact sendsCommands_of_reads (.pure ())
  · refine SendsCommands.bind (sendsCommands_of_reads
      (Confined.readsOnly self.staged.verifyCount_reads)) fun _ => ?_
    refine (stopEach_sendsCommands none _).bind fun first => ?_
    exact SendsCommands.bind (sendsCommands_of_reads (reportFirst_reads first)) fun _ =>
      sendsCommands_of_reads (Confined.readsOnly verifyStaged_reads)

/-- A close that fails to stop the hierarchy writes to state files only. -/
theorem closeInner_since (failed : (stopAll env world).1 ≠ .ok ()) :
    World.Since CommandsAny world (closeInner env world).2 := by
  cases owns : world.self.ownsHierarchy with
  | false =>
      refine absurd ?_ failed
      unfold stopAll
      rw [Exec.bind_run, getSelf_run]
      dsimp only
      rw [if_pos (by simp [owns])]
      rfl
  | true =>
      cases run : stopAll env world with
      | mk outcome after =>
          rw [run] at failed
          cases outcome with
          | ok value => exact absurd rfl failed
          | error error =>
              rw [closeInner_failedStop owns run]
              have since := stopAll_sendsCommands env world
              rwa [run] at since

theorem drop_since (failed : (stopAll env world).1 ≠ .ok ()) :
    World.Since CommandsAny world (drop env world).2 := by
  unfold drop
  rw [Exec.bind_run, getSelf_run]
  dsimp only
  split
  · rw [Exec.bind_run, Exec.attempt_run]
    exact (closeInner_since failed).trans ⟨[], rfl, by simp⟩
  · exact ⟨[], rfl, by simp⟩

end Closing

/-- Stopping is isolated per kdamond.  Nobody else acts during the stop, no read fails, and the
kdamond count is the staged one.  Every undisturbed kdamond whose `off` is accepted is stopped;
the kdamond with the highest index that fails decides the error.  Closing then returns this error
after a first attempt that is the stop itself; only if stopping the hierarchy again while the
handle is dropped succeeds may anything but a state file be written. -/
theorem stopAll_isolated {env : Env} {world : World} (readable : env.Readable)
    (owns : world.self.ownsHierarchy = true) (counted : Counted world) :
    (∀ index pid, index < 2 ^ 64 → Undisturbed index pid world → OffAccepted env index →
      StagedAndOff index (stopAll env world).2) ∧
    (∀ index error, index < world.self.states.length →
      turnOutcome env world index = .error error →
      (∀ higher, index < higher → higher < world.self.states.length →
        turnOutcome env world higher = .ok ()) →
      (stopAll env world).1 = .error error) ∧
    ∀ error, (stopAll env world).1 = .error error →
      (close env world).1 = .error error ∧
      closeInner env world = stopAll env world ∧
      World.Since CommandsAny world (closeInner env world).2 ∧
      ((stopAll env (stopAll env world).2).1 ≠ .ok () →
        World.Since CommandsAny world (close env world).2) := by
  obtain ⟨before, run, _⟩ := (verifyCount_finds readable counted).run
  refine ⟨fun index pid word undisturbed accepted =>
    stopAll_isolates readable owns counted word accepted undisturbed,
    fun index error managed failed higher => stopAll_returns owns run managed failed higher,
    fun error failed => ?_⟩
  have ends : closeInner env world = (.error error, (stopAll env world).2) :=
    closeInner_failedStop owns (Prod.ext failed rfl)
  have first : World.Since CommandsAny world (stopAll env world).2 :=
    stopAll_sendsCommands env world
  rw [close_run ends, ends]
  exact ⟨rfl, Prod.ext failed.symm rfl, first, fun again => first.trans (drop_since again)⟩

namespace StopFixture

open Fixture

/-- The leaf that gives the sampling interval of the first context of a kdamond. -/
def sampleLeaf (index : Nat) : Path :=
  ["kdamonds", Path.indexName index, "contexts", "0", "monitoring_attrs", "intervals", "sample_us"]

/-- Two running kdamonds; another controller has changed the second one. -/
def world : World :=
  let staged := session (running (List.replicate 2 (context "5000" "100000" "0")))
    (config (List.replicate 2 (contextConfig .default 0)))
  { staged with
    sys := .settled (running [context "5000" "100000" "0", context "9000" "100000" "0"]) }

theorem readable : calm.Readable := ⟨fun _ _ => rfl, fun _ _ _ => rfl⟩

theorem counted : Counted world :=
  ⟨⟨.text (.ofWritten "2"), true⟩, by decide +kernel, by decide +kernel⟩

theorem undisturbed : Undisturbed 0 (threadOf 0) world where
  recorded := rfl
  on := ⟨.ofWritten "on", by decide +kernel, by decide +kernel⟩
  thread := ⟨⟨.text (.ofWritten "100"), false⟩, by decide +kernel, by decide +kernel⟩
  shown := by
    intro entry member below _
    have all : ∀ entry ∈ world.self.staged.configuration.entries,
        (ManagedHierarchy.kdamond 0).path.isPrefixOf entry.path = true →
          (world.sys.files.get? entry.path).any
            (fun file => decide (file.content.Shows entry.value)) = true := by decide +kernel
    have shows := all entry member below
    cases found : world.sys.files.get? entry.path with
    | none =>
        rw [found] at shows
        cases shows
    | some file =>
        rw [found] at shows
        exact ⟨file, found, of_decide_eq_true shows⟩

theorem accepted : OffAccepted calm 0 :=
  fun _ => ⟨0, Nat.zero_le _, fun _ impossible => absurd impossible (Nat.not_lt_zero _), rfl⟩

/-- A kernel whose default children are those of the hierarchies here. -/
def kernel : Kernel :=
  ⟨fun directory index =>
    (Fixture.kdamond index "off" "-1" (context "5000" "100000" "0")).filterMap
      fun (path, value, writable) =>
        (stripPrefix? (directory ++ [Path.indexName index]) path).map fun inner =>
          (inner, .ofWritten value, writable)⟩

/-- The first attempt to turn the kdamond off fails. -/
def env : Env :=
  { calm with
    kernel := kernel
    fault := fun clock access =>
      if clock < 30 ∧ access = .write (Path.stateOf 0) "off" then some ⟨.transfer, 5⟩ else none }

/-- A running kdamond, whose configuration was another one before. -/
def retried : World :=
  let staged := session (running [context "5000" "100000" "0"]) (config [contextConfig .default 0])
  { staged with self := { staged.self with
      previous := some (captured (stopped [context "7000" "100000" "0"])) } }

end StopFixture

open StopFixture in
/-- The first kdamond is stopped although the second one has been changed. -/
theorem stopAll_isolated_disturbed :
    StagedAndOff 0 (stopAll Fixture.calm world).2 ∧
      (stopAll Fixture.calm world).1 =
        .error (.ownershipLost "the staged writable configuration changed") := by
  have whole := stopAll_isolated readable rfl counted
  refine ⟨whole.1 0 (Fixture.threadOf 0) (by decide) undisturbed accepted, ?_⟩
  refine whole.2.1 1 _ (by decide) (by decide +kernel) fun higher above below => ?_
  have two : world.self.states.length = 2 := rfl
  omega

open StopFixture in
/-- A close whose stop has failed writes configuration when dropping the handle stops the
hierarchy after all. -/
theorem close_restoresAfterFailedStop :
    env.Readable ∧ retried.self.ownsHierarchy = true ∧ Counted retried ∧
      (stopAll env retried).1 = .error (.io "write" (Path.stateOf 0) (.os 5)) ∧
      ∃ event ∈ (close env retried).2.trace, event.access = .write (sampleLeaf 0) "7000" ∧
        Path.isRuntimeAttribute (sampleLeaf 0) = false := by
  refine ⟨⟨fun _ _ => rfl, fun clock access reads => ?_⟩, rfl,
    ⟨⟨.text (.ofWritten "1"), true⟩, by decide +kernel, by decide +kernel⟩, by decide +kernel, ?_⟩
  · refine if_neg fun both => ?_
    obtain ⟨_, rfl⟩ := both
    exact reads
  · have written : ((close env retried).2.trace.any fun event =>
        event.access = .write (sampleLeaf 0) "7000") = true := by decide +kernel
    obtain ⟨event, member, access⟩ := List.any_eq_true.mp written
    exact ⟨event, member, of_decide_eq_true access, by decide⟩

end ManagedHierarchy

end DamonRs
