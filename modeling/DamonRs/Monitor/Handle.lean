import DamonRs.Monitor.LostCalls
import DamonRs.Monitor.Opening
import DamonRs.Monitor.Fixture

/-!
# Handles on persistent hierarchies

A handle opens the receipt that it holds for each of its operations.  Nothing
is managed between them, a refused receipt changes nothing, and a receipt is
replaced only by one that was captured as the operation ended.  So a handle
stays bound to its instance and to the boot, and an operation stops a thread
only while that is the one in the receipt.
-/

namespace DamonRs

open Library Sysfs

/-- The operations of a handle. -/
inductive AttachedOp where
  | configuration
  | observedConfiguration
  | updateSelected (config : DamonConfig) (indices : List Nat)
  | update (config : DamonConfig)
  | stop
  deriving DecidableEq

namespace AttachedOp

/-- Reading leaves the handle as it is. -/
def reading {α : Type} (read : AttachedHierarchy → Sysfs α) (attached : AttachedHierarchy) :
    Sysfs (Except Error Unit × AttachedHierarchy) := do
  let outcome ← Exec.attempt (read attached)
  pure (outcome.map fun _ => (), attached)

/-- What an operation returns, and the handle after it. -/
def program (operation : AttachedOp) (attached : AttachedHierarchy) :
    Sysfs (Except Error Unit × AttachedHierarchy) :=
  match operation with
  | configuration => reading AttachedHierarchy.configuration attached
  | observedConfiguration => reading AttachedHierarchy.observedConfiguration attached
  | updateSelected config indices => attached.updateSelected config indices
  | update config => attached.update config
  | stop => attached.stop

end AttachedOp

/-- The operations of a handle one after the other, whether or not they fail. -/
def runAttached : List AttachedOp → AttachedHierarchy → Sysfs AttachedHierarchy
  | [], attached => pure attached
  | operation :: rest, attached => do
      let result ← operation.program attached
      runAttached rest result.2

/-! ## Which threads are stopped -/

section Keeps

variable {start : SessionStart}

theorem disarmCleanup_identified :
    Exec.Keeps (Identified start) ManagedHierarchy.disarmCleanup :=
  ManagedHierarchy.modifySelf_identified (fun _ _ _ running => running) fun _ _ kept => nomatch kept

theorem letGo_identified {α : Type} {last : Sysfs α} (keeps : Exec.Keeps (Identified start) last) :
    Exec.Keeps (Identified start) (do
      ManagedHierarchy.disarmCleanup
      ManagedHierarchy.release
      last) :=
  Exec.keeps_bind disarmCleanup_identified fun _ =>
    Exec.keeps_bind ManagedHierarchy.release_identified fun _ => keeps

namespace AttachedHierarchy

variable (attached : AttachedHierarchy)

theorem withManaged_identified {α : Type} {operation : Sysfs α}
    (keeps : Exec.Keeps (Identified (.attached attached.receipt)) operation) :
    Exec.Keeps (Identified (.attached attached.receipt)) (attached.withManaged operation) :=
  Exec.keeps_bind (openManaged_identified attached.damon attached.receipt) fun _ =>
    Exec.keeps_bind (Exec.keeps_attempt keeps) fun _ => letGo_identified (Exec.keeps_ofExcept _)

theorem mutate_identified {mutation : Sysfs Unit}
    (keeps : Exec.Keeps (Identified (.attached attached.receipt)) mutation) :
    Exec.Keeps (Identified (.attached attached.receipt)) (attached.mutate mutation) := by
  refine Exec.keeps_bind (Exec.keeps_attempt
    (openManaged_identified attached.damon attached.receipt)) fun opened => ?_
  cases opened with
  | error error => exact Exec.keeps_pure _
  | ok opened =>
      refine Exec.keeps_bind (Exec.keeps_attempt keeps) fun operation =>
        Exec.keeps_bind (Exec.keeps_attempt (capture_identified attached.damon)) fun receipt =>
          letGo_identified ?_
      cases operation <;> cases receipt <;> exact Exec.keeps_pure _

end AttachedHierarchy

/-- Operations of a handle keep the invariant of a session that its receipt begins. -/
theorem AttachedOp.program_identified (operation : AttachedOp) (attached : AttachedHierarchy) :
    Exec.Keeps (Identified (.attached attached.receipt)) (operation.program attached) := by
  have reads : ∀ {α : Type} {program : Sysfs α}, Confined ReadsOnly program →
      Exec.Keeps (Identified (.attached attached.receipt)) (reading
        (fun attached => attached.withManaged program) attached) :=
    fun confined => Exec.keeps_bind (Exec.keeps_attempt
      (attached.withManaged_identified confined.identifiedReads)) fun _ => Exec.keeps_pure _
  cases operation with
  | configuration => exact reads ManagedHierarchy.configuration_readsOnly
  | observedConfiguration => exact reads ManagedHierarchy.observedConfiguration_readsOnly
  | updateSelected config indices =>
      exact attached.mutate_identified
        (ManagedHierarchy.updateConfiguration_identified config indices)
  | update config =>
      exact attached.mutate_identified (ManagedHierarchy.updateConfiguration_identified config _)
  | stop => exact attached.mutate_identified ManagedHierarchy.stopAll_identified

/-- Starting a persistent hierarchy keeps the invariant of the session that it is. -/
theorem Damon.startPersistent_identified (damon : Damon) (config : DamonConfig) :
    Exec.Keeps (Identified (.managed config)) (damon.startPersistent config) := by
  refine Exec.keeps_bind (managedHierarchy_identified damon config) fun _ =>
    Exec.keeps_bind (Exec.keeps_attempt ManagedHierarchy.startAll_identified) fun started => ?_
  cases started with
  | error error => exact Exec.keeps_bind ManagedHierarchy.drop_identified fun _ => Exec.keeps_fail _
  | ok started =>
      refine Exec.keeps_bind (Exec.keeps_attempt (capture_identified damon)) fun receipt => ?_
      cases receipt with
      | ok receipt => exact letGo_identified (Exec.keeps_pure receipt)
      | error operation =>
          exact Exec.keeps_bind (Exec.keeps_attempt ManagedHierarchy.closeInner_identified)
            fun _ => Exec.keeps_bind ManagedHierarchy.drop_identified fun _ => Exec.keeps_fail _

end Keeps

/-- An operation of a handle stops a kdamond only while its receipt records the thread that was
last read from it. -/
theorem attachedOp_identifiedStops (operation : AttachedOp) (attached : AttachedHierarchy)
    (env : Env) (world : World) (released : world.self = .released) :
    IdentifiedStops (.attached attached.receipt)
      (operation.program attached env world.beginCall).2.trace := by
  have begins : Identified (.attached attached.receipt) world.beginCall := by
    refine ⟨fun index pid running => ?_, trivial, fun snapshot kept => ?_⟩
    · rw [World.beginCall, released] at running
      cases running
    · rw [World.beginCall, released] at kept
      cases kept
  exact (operation.program_identified attached env _ begins).stops

/-! ## Opened and captured receipts -/

/-- A receipt was captured as its hierarchy was let go of. -/
def PersistentReceipt.CapturedAt (receipt : PersistentReceipt) (damon : Damon) (env : Env)
    (world : World) : Prop :=
  ∃ begun done, PersistentReceipt.capture damon env begun = (.ok receipt, done) ∧
    world = { done with self := .released }

/-- A captured receipt is bound to its instance and to the boot. -/
theorem PersistentReceipt.CapturedAt.bound {receipt : PersistentReceipt} {damon : Damon} {env : Env}
    {world : World} (captured : receipt.CapturedAt damon env world) :
    receipt.BoundTo damon env := by
  obtain ⟨_, _, captures, -⟩ := captured
  obtain ⟨_, _, -, rest⟩ := Exec.bind_eq_ok captures
  obtain ⟨_, _, -, rest⟩ := Exec.bind_eq_ok rest
  obtain ⟨_, _, -, rest⟩ := Exec.bind_eq_ok rest
  obtain ⟨_, _, -, rest⟩ := Exec.bind_eq_ok rest
  obtain ⟨bootId, _, boots, made⟩ := Exec.bind_eq_ok rest
  cases made
  refine ⟨rfl, rfl, ?_⟩
  obtain ⟨_, failed⟩ | checked := currentBootId_cases boots
  · cases failed
  · obtain ⟨_, _, returned⟩ := Checks.bind_ok checked.symm
    cases returned
    rfl

/-- Dropping a hierarchy without a snapshot to restore only forgets it. -/
theorem ManagedHierarchy.drop_unrecorded {env : Env} {world : World}
    (nothing : world.self.previous = none) :
    ManagedHierarchy.drop env world = (.ok (), { world with self := .released }) := by
  unfold ManagedHierarchy.drop
  rw [Exec.bind_run, getSelf_run]
  dsimp only
  rw [nothing, if_neg (by simp)]
  rfl

/-- Nothing has been written, and nothing is managed. -/
def Untouched (start world : World) : Prop :=
  World.Since ReadsOnly start world ∧ world.self = .released

theorem Accesses.untouched {α : Type} {program : Sysfs α} (accesses : Accesses ReadsOnly program)
    (start : World) : Exec.Keeps (Untouched start) program := by
  rintro env world ⟨since, released⟩
  exact ⟨since.trans (accesses env world).since, (accesses env world).self.trans released⟩

section Opening

variable {damon : Damon} {env : Env} {world after : World} {receipt : PersistentReceipt}

/-- Opening a receipt writes nothing, and manages nothing when it fails. -/
theorem openManaged_triple (start : World) :
    Exec.Triple env (Untouched start) (receipt.openManaged damon) fun outcome world =>
      World.Since ReadsOnly start world ∧
        ∀ error, outcome = .error error → world.self = .released := by
  have inspects : ∀ path, ReadsOnly (.inspect path) := fun _ => trivial
  have failed : ∀ (error : Error) (world : World), Untouched start world →
      World.Since ReadsOnly start world ∧ ∀ other : Error, (.error error : Except Error Unit) =
        .error other → world.self = .released :=
    fun _ _ untouched => ⟨untouched.1, fun _ _ => untouched.2⟩
  refine Exec.triple_bind (((verifyBinding_accesses inspects receipt damon).untouched start).triple
    env) (fun _ => ?_) failed
  refine Exec.triple_bind (((SessionLock.acquire_accesses inspects _).untouched start).triple env)
    (fun _ => ?_) failed
  refine Exec.triple_bind ((Exec.keeps_ofExcept _).triple env) (fun configuration => ?_) failed
  refine Exec.triple_bind (((StagedOwnership.verifyComplete_reads _).readsOnly.accesses
    inspects).untouched start |>.triple env) (fun _ => ?_) failed
  refine Exec.triple_bind ((Exec.keeps_ofExcept _).triple env) (fun states => ?_) failed
  rintro world ⟨since, -⟩
  rw [Exec.bind_run, setSelf_run]
  dsimp only
  rw [Exec.bind_run, Exec.attempt_run]
  let opened : World := { world with self :=
    ⟨none, .fromParts configuration (receipt.volatilePaths.map PathBuf.toPath)
      receipt.kdamondCount, states, true⟩ }
  have reads := ManagedHierarchy.verifyOwnedState_readsOnly.accesses inspects env opened
  cases run : ManagedHierarchy.verifyOwnedState env opened with
  | mk outcome checked =>
      rw [run] at reads
      cases outcome with
      | ok value => exact ⟨since.trans reads.since, nofun⟩
      | error error =>
          have nothing : checked.self.previous = none :=
            congrArg ManagedHierarchy.previous reads.self
          dsimp only
          rw [Exec.bind_run, ManagedHierarchy.drop_unrecorded nothing]
          exact ⟨since.trans reads.since, fun _ _ => rfl⟩

end Opening

/-! ## What an operation leaves behind -/

/-- Nothing is managed after an operation, a refused receipt has changed nothing, and another
receipt has been captured as the operation ended. -/
structure AttachedHierarchy.Leaves (attached : AttachedHierarchy) (env : Env) (world : World)
    (result : Except Error Unit × AttachedHierarchy) (after : World) : Prop where
  released : after.self = .released
  refused : ∀ error, (attached.receipt.openManaged attached.damon env world).1 = .error error →
    result = (.error error, attached) ∧ World.Since ReadsOnly world after
  receipt : result.2 = attached ∨ ∃ receipt, result.2 = { attached with receipt := receipt } ∧
    receipt.CapturedAt attached.damon env after

namespace AttachedHierarchy

variable {attached : AttachedHierarchy} {env : Env} {world : World}

/-- A handle lets go of the hierarchy whatever it has read. -/
theorem reading_leaves {α : Type} {operation : Sysfs α} (released : world.self = .released) :
    ∃ result after,
      AttachedOp.reading (fun attached => attached.withManaged operation) attached env world =
        (.ok result, after) ∧ attached.Leaves env world result after := by
  obtain ⟨since, refused⟩ := openManaged_triple world world ⟨.refl world, released⟩
  have reads : AttachedOp.reading (fun attached => attached.withManaged operation) attached env world =
      (.ok ((attached.withManaged operation env world).1.map fun _ => (), attached),
        (attached.withManaged operation env world).2) := rfl
  refine ⟨_, _, reads, ?_⟩
  cases opens : attached.receipt.openManaged attached.damon env world with
  | mk outcome opened =>
      rw [opens] at since refused
      cases outcome with
      | error error =>
          have fails : attached.withManaged operation env world = (.error error, opened) :=
            Exec.bind_run_error opens _
          rw [fails]
          refine ⟨refused error rfl, fun other again => ?_, .inl rfl⟩
          rw [opens] at again
          cases again
          exact ⟨rfl, since⟩
      | ok value =>
          have manages : attached.withManaged operation env world =
              ((operation env opened).1, { (operation env opened).2 with self := .released }) :=
            Exec.bind_run_ok opens _
          rw [manages]
          refine ⟨rfl, fun error failed => ?_, .inl rfl⟩
          rw [opens] at failed
          cases failed

theorem mutate_leaves (mutation : Sysfs Unit) (released : world.self = .released) :
    ∃ result after, attached.mutate mutation env world = (.ok result, after) ∧
      attached.Leaves env world result after := by
  obtain ⟨since, refused⟩ := openManaged_triple world world ⟨.refl world, released⟩
  unfold mutate
  rw [Exec.bind_run, Exec.attempt_run]
  cases opens : attached.receipt.openManaged attached.damon env world with
  | mk outcome opened =>
      rw [opens] at since refused
      cases outcome with
      | error error =>
          refine ⟨_, _, rfl, refused error rfl, fun other again => ?_, .inl rfl⟩
          rw [opens] at again
          cases again
          exact ⟨rfl, since⟩
      | ok value =>
          have unrefused : ∀ {result after} error,
              (attached.receipt.openManaged attached.damon env world).1 = .error error →
                result = ((.error error, attached) : Except Error Unit × AttachedHierarchy) ∧
                  World.Since ReadsOnly world after := by
            intro result after error failed
            rw [opens] at failed
            cases failed
          dsimp only
          rw [Exec.bind_run, Exec.attempt_run]
          cases mutates : mutation env opened with
          | mk operation begun =>
          dsimp only
          rw [Exec.bind_run, Exec.attempt_run]
          cases captures : PersistentReceipt.capture attached.damon env begun with
          | mk receipt done =>
          cases operation <;> cases receipt
          · exact ⟨_, _, rfl, rfl, unrefused, .inl rfl⟩
          · exact ⟨_, _, rfl, rfl, unrefused, .inr ⟨_, rfl, begun, done, captures, rfl⟩⟩
          · exact ⟨_, _, rfl, rfl, unrefused, .inl rfl⟩
          · exact ⟨_, _, rfl, rfl, unrefused, .inr ⟨_, rfl, begun, done, captures, rfl⟩⟩

end AttachedHierarchy

/-- Every operation of a handle returns, and leaves nothing managed. -/
theorem AttachedOp.program_leaves (operation : AttachedOp) (attached : AttachedHierarchy) (env : Env)
    {world : World} (released : world.self = .released) :
    ∃ result after, operation.program attached env world = (.ok result, after) ∧
      attached.Leaves env world result after := by
  cases operation with
  | configuration => exact AttachedHierarchy.reading_leaves released
  | observedConfiguration => exact AttachedHierarchy.reading_leaves released
  | updateSelected config indices => exact AttachedHierarchy.mutate_leaves _ released
  | update config => exact AttachedHierarchy.mutate_leaves _ released
  | stop => exact AttachedHierarchy.mutate_leaves _ released

/-- Whatever happens to the hierarchy and however the operations end, a handle manages nothing and
stays with its instance, and its receipt is bound to the instance and to the boot if the first one
was. -/
theorem runAttached_bound (operations : List AttachedOp) (attached : AttachedHierarchy) (env : Env)
    {world : World} (released : world.self = .released) :
    ∃ ended after, runAttached operations attached env world = (.ok ended, after) ∧
      after.self = .released ∧ ended.damon = attached.damon ∧
      (attached.receipt.BoundTo attached.damon env → ended.receipt.BoundTo ended.damon env) := by
  induction operations generalizing attached world with
  | nil => exact ⟨attached, world, rfl, released, rfl, id⟩
  | cons operation rest ih =>
      obtain ⟨result, middle, runs, leaves⟩ := operation.program_leaves attached env released
      obtain ⟨ended, after, ran, letGo, damon, bound⟩ := ih result.2 leaves.released
      refine ⟨ended, after, ?_, letGo, ?_, fun first => bound ?_⟩
      · unfold runAttached
        rw [Exec.bind_run_ok runs, ran]
      · rcases leaves.receipt with same | ⟨receipt, same, -⟩ <;> rw [damon, same]
      · rcases leaves.receipt with same | ⟨receipt, same, captured⟩ <;> rw [same]
        · exact first
        · exact captured.bound

/-- An attached handle is bound to its instance and to the boot. -/
theorem Damon.attach_bound {damon : Damon} {receipt : PersistentReceipt} {env : Env}
    {world after : World} {attached : AttachedHierarchy}
    (run : damon.attach receipt env world = (.ok attached, after)) :
    attached = ⟨damon, receipt⟩ ∧ after.self = .released ∧ receipt.BoundTo damon env := by
  obtain ⟨_, opened, opens, letGo⟩ := Exec.bind_eq_ok run
  obtain ⟨_, _, binds, -⟩ := Exec.bind_eq_ok opens
  cases letGo
  exact ⟨rfl, rfl, .of_verifyBinding binds⟩

/-- After any operations of an attached handle, whatever happened to the hierarchy meanwhile, the
next one leaves nothing managed, has changed nothing if the receipt is refused, stops a kdamond only
while the receipt records the thread that was last read from it, and keeps the handle bound to its
instance and to the boot. -/
theorem Damon.attach_leaves {damon : Damon} {receipt : PersistentReceipt} {env : Env}
    {world begun : World} {attached : AttachedHierarchy}
    (run : damon.attach receipt env world = (.ok attached, begun)) (operations : List AttachedOp)
    (operation : AttachedOp) :
    ∃ held before result after,
      runAttached operations attached env begun = (.ok held, before) ∧
      operation.program held env before = (.ok result, after) ∧
      held.Leaves env before result after ∧
      IdentifiedStops (.attached held.receipt)
        (operation.program held env before.beginCall).2.trace ∧
      result.2.damon = damon ∧ result.2.receipt.BoundTo damon env := by
  obtain ⟨rfl, released, first⟩ := damon.attach_bound run
  obtain ⟨held, before, ran, letGo, same, bound⟩ := runAttached_bound operations _ env released
  obtain ⟨result, after, ends, leaves⟩ := operation.program_leaves held env letGo
  refine ⟨held, before, result, after, ran, ends, leaves,
    attachedOp_identifiedStops operation held env before letGo, ?_⟩
  obtain ⟨instance', receipt⟩ := held
  obtain rfl : instance' = damon := same
  rcases leaves.receipt with same | ⟨receipt, same, captured⟩ <;> rw [same]
  · exact ⟨rfl, bound first⟩
  · exact ⟨rfl, captured.bound⟩

namespace HandleFixture

/-- A running kdamond with one tuned context. -/
def managed : World :=
  Fixture.session (Fixture.running [Fixture.context "5000" "100000" "3"])
    (Fixture.config [Fixture.contextConfig .default 3])

/-- The receipt of its session. -/
def receipt : PersistentReceipt where
  adminPath := Fixture.damon.adminPath
  lockPath := Fixture.damon.lockPath
  bootId := Fixture.calm.bootId
  writableValues := managed.self.staged.configuration.writableValues.map fun entry =>
    ⟨entry.path.toPathBuf, entry.value⟩
  volatilePaths := managed.self.staged.volatilePaths.map Path.toPathBuf
  kdamondCount := 1
  identities := [⟨0, Fixture.threadOf 0⟩]

def world : World := .initial managed.sys

/-- Another controller restarts the kdamond during the first operation of the handle. -/
def replaced : Env :=
  { Fixture.calm with
    interfere := fun clock sys =>
      if clock = 150 then sys.showState ["kdamonds", "0"] "on" "200" else sys }

/-- The world after the handle has been attached. -/
def begun : World := (Fixture.damon.attach receipt).leads replaced world

end HandleFixture

open HandleFixture in
/-- Another controller restarts the kdamond before the handle is asked to stop it. -/
theorem Damon.attach_leaves_replaced :
    ∃ held before result after,
      runAttached [.configuration] ⟨Fixture.damon, receipt⟩ replaced begun = (.ok held, before) ∧
      AttachedOp.stop.program held replaced before = (.ok result, after) ∧
      held.Leaves replaced before result after ∧
      IdentifiedStops (.attached held.receipt)
        (AttachedOp.stop.program held replaced before.beginCall).2.trace ∧
      result.2.damon = Fixture.damon ∧ result.2.receipt.BoundTo Fixture.damon replaced := by
  have attaches : (Fixture.damon.attach receipt replaced world).1 =
      .ok ⟨Fixture.damon, receipt⟩ := by
    decide +kernel
  exact attach_leaves (Exec.run_of_outcome attaches) [.configuration] .stop

/-- The receipt of a started hierarchy is captured as the hierarchy is let go of. -/
theorem Damon.startPersistent_ok {damon : Damon} {config : DamonConfig} {env : Env}
    {world after : World} {receipt : PersistentReceipt}
    (run : damon.startPersistent config env world = (.ok receipt, after)) :
    receipt.CapturedAt damon env after := by
  obtain ⟨_, opened, -, rest⟩ := Exec.bind_eq_ok run
  obtain ⟨started, begun, -, rest⟩ := Exec.bind_eq_ok rest
  cases started with
  | error error =>
      obtain ⟨_, _, -, failed⟩ := Exec.bind_eq_ok rest
      cases failed
  | ok started =>
      obtain ⟨captured, done, captures, rest⟩ := Exec.bind_eq_ok rest
      cases captured with
      | error operation =>
          obtain ⟨_, _, -, rest⟩ := Exec.bind_eq_ok rest
          obtain ⟨_, _, -, failed⟩ := Exec.bind_eq_ok rest
          cases failed
      | ok captured =>
          cases rest
          rw [Exec.attempt_run] at captures
          obtain ⟨outcome, rfl⟩ := Prod.mk.inj captures
          exact ⟨begun, _, Prod.ext (Except.ok.inj outcome) rfl, rfl⟩

end DamonRs
