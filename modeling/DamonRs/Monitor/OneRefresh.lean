import DamonRs.Monitor.Snapshots

/-!
# One refresh

A monitor that returns the results of several schemes refreshed them once.  All
that it returns was read after that refresh, and nothing was written since.
-/

namespace DamonRs

open Library Sysfs

namespace ManagedHierarchy

/-! ## Looking schemes up -/

section Lookups

variable {α : Type} {index context scheme : Nat} {env : Env} {world after : World}

/-- Every run of the program only reads. -/
abbrev Watches (program : Sysfs α) : Prop :=
  Exec.Moves (fun _ => World.Since ReadsOnly) program

theorem Watches.of_reads {program : Sysfs α} (reads : Confined ReadsOnly program) : Watches program :=
  fun _ _ => reads.since (fun _ => trivial) (Prod.mk.eta).symm

theorem Watches.run {program : Sysfs α} (looks : Watches program) {outcome : Except Error α}
    (run : program env world = (outcome, after)) : World.Since ReadsOnly world after := by
  have moved : World.Since ReadsOnly world (program env world).2 := looks env world
  rwa [run] at moved

theorem Watches.keptByReads : KeptByReads fun _ => World.Since ReadsOnly where
  refl _ := .refl
  trans _ _ _ _ := .trans
  reads := Watches.of_reads

/-- Whatever counts are remembered, a scheme that was looked up is the one asked for. -/
theorem cachedScheme_found {cache next : BatchCache} {found : Scheme}
    (returns : Exec.Returns (cachedScheme index context scheme cache) (.ok found, next)) :
    found = ((kdamond index).context context).scheme scheme := by
  obtain ⟨counted, -, decided⟩ := Exec.returns_bind returns
  obtain ⟨counted, cache⟩ := counted
  cases counted with
  | error error => cases Exec.returns_pure decided
  | ok count =>
      dsimp only at decided
      split at decided
      · cases Exec.returns_pure decided
      obtain ⟨counted, -, decided⟩ := Exec.returns_bind decided
      obtain ⟨counted, cache⟩ := counted
      cases counted with
      | error error => cases Exec.returns_pure decided
      | ok count =>
          dsimp only at decided
          split at decided
          · cases Exec.returns_pure decided
          · cases Exec.returns_pure decided
            rfl

theorem verifyIdentityInBatch_watches : Watches (verifyIdentityInBatch index) :=
  .of_reads (Confined.mono (verifyIdentityInBatch_checks index) fun _ => ChecksThread.readsOnly)

/-- A refresh that succeeds sends its command once. -/
theorem issueCommand_sends_once {command : KdamondCommand}
    (run : issueCommand index command env world = (.ok (), after)) :
    World.Sends [(Path.stateOf index, command.kernelName)] world after := by
  obtain ⟨_, checked, checks, sends⟩ := Exec.bind_eq_ok run
  exact (World.Sends.of_reads (Watches.run verifyIdentityInBatch_watches checks)).nil_trans
    (Kdamond.retryCommand_ok sends)

/-- A call that returned has looked the scheme up, refreshed it if asked to, and read it. -/
theorem batchScheme_ok {refresh : Bool} {command : KdamondCommand}
    {read : Scheme → Sysfs RuntimeResult} {cache next : BatchCache} {result : RuntimeResult}
    (run : batchScheme index context scheme refresh command read cache env world =
      (.ok (.ok result, next), after)) :
    ∃ looked refreshed last, World.Since ReadsOnly world looked ∧
      stageWhen refresh (issueCommand index command) env looked = (.ok (), refreshed) ∧
      read (((kdamond index).context context).scheme scheme) env refreshed = (.ok result, last) ∧
      World.Since ReadsOnly last after := by
  obtain ⟨found, looked, looks, rest⟩ := Exec.bind_eq_ok run
  obtain ⟨found, remembered⟩ := found
  obtain ⟨outcome, ended, attempted, made⟩ := Exec.bind_eq_ok rest
  cases made
  rw [Exec.attempt_run] at attempted
  obtain ⟨outcomes, rfl⟩ := Prod.mk.inj attempted
  obtain ⟨resolved, first, resolves, called⟩ :=
    Exec.bind_eq_ok (Prod.ext (Except.ok.inj outcomes) rfl)
  cases found with
  | error error => cases resolves
  | ok found =>
      cases resolves
      obtain rfl := cachedScheme_found ⟨env, world, looked, looks⟩
      obtain ⟨_, refreshed, refreshes, called⟩ := Exec.bind_eq_ok called
      obtain ⟨value, last, reads, called⟩ := Exec.bind_eq_ok called
      obtain ⟨_, checked, checks, made⟩ := Exec.bind_eq_ok called
      obtain ⟨same, worlds⟩ := Prod.mk.inj made
      cases same
      have lookup : Watches (cachedScheme index context scheme cache) :=
        cachedScheme_moves Watches.keptByReads context scheme cache
      refine ⟨looked, refreshed, last, Watches.run lookup looks, refreshes, reads, ?_⟩
      have kept : World.Since ReadsOnly last checked :=
        Watches.run verifyIdentityInBatch_watches checks
      exact kept.congr rfl (congrArg World.trace worlds.symm)

end Lookups

/-! ## Batches over schemes -/

section Batches

variable {α : Type} {call : Nat → Bool → RuntimeRead} {command : KdamondCommand}
  {read : Scheme → Sysfs RuntimeResult} {value? : RuntimeResult → Option α} {env : Env}
  {world ended : World} {result : List α}

/-- Calls for the schemes of the first context that refresh with one command and read one thing. -/
structure Refreshing (call : Nat → Bool → RuntimeRead) (command : KdamondCommand)
    (read : Scheme → Sysfs RuntimeResult) : Prop where
  runs : ∀ scheme refresh, batchCall 0 (call scheme refresh) =
    batchScheme 0 0 scheme refresh command read
  reads : ∀ scheme, Confined ReadsOnly (read scheme)

/-- A value was read of a scheme between two worlds, while nothing was written. -/
def ReadBetween (read : Scheme → Sysfs RuntimeResult) (value? : RuntimeResult → Option α)
    (env : Env) (start ended : World) (scheme : Nat) (value : α) : Prop :=
  ∃ begun last found, World.Since ReadsOnly start begun ∧
    read (((kdamond 0).context 0).scheme scheme) env begun = (.ok found, last) ∧
    value? found = some value ∧ World.Since ReadsOnly last ended

theorem ReadBetween.widen {start begun last ended : World} {scheme : Nat} {value : α}
    (between : ReadBetween read value? env begun last scheme value)
    (before : World.Since ReadsOnly start begun) (after : World.Since ReadsOnly last ended) :
    ReadBetween read value? env start ended scheme value := by
  obtain ⟨opened, closed, found, looks, reads, known, rest⟩ := between
  exact ⟨opened, closed, found, before.trans looks, reads, known, rest.trans after⟩

theorem collect_ok (refreshing : Refreshing call command read) {scheme : Nat} {refresh : Bool}
    {next : α → BatchClosure (List α)} {cache : BatchCache}
    (run : (BatchClosure.collect (call scheme refresh) value? next).runWith 0 cache env world =
      (.ok result, ended)) :
    ∃ looked refreshed middle value remembered, World.Since ReadsOnly world looked ∧
      stageWhen refresh (issueCommand 0 command) env looked = (.ok (), refreshed) ∧
      ReadBetween read value? env refreshed middle scheme value ∧
      World.Since ReadsOnly refreshed middle ∧
      (next value).runWith 0 remembered env middle = (.ok result, ended) := by
  obtain ⟨called, middle, calls, continued⟩ := Exec.bind_eq_ok run
  obtain ⟨outcome, remembered⟩ := called
  cases outcome with
  | error error => cases continued
  | ok found =>
      rw [refreshing.runs] at calls
      obtain ⟨looked, refreshed, last, looks, refreshes, reads, rest⟩ := batchScheme_ok calls
      dsimp only at continued
      cases known : value? found with
      | none =>
          rw [known] at continued
          cases continued
      | some value =>
          rw [known] at continued
          have reading : World.Since ReadsOnly refreshed last :=
            (refreshing.reads _).since (fun _ => trivial) reads
          exact ⟨looked, refreshed, middle, value, remembered, looks, refreshes,
            ⟨refreshed, last, found, .refl refreshed, reads, known, rest⟩, reading.trans rest,
            continued⟩

/-- Results that are not refreshed are read while nothing is written. -/
theorem eachScheme_cached (refreshing : Refreshing call command read) {values : List α}
    {schemes : List Nat} {cache : BatchCache}
    (run : (BatchClosure.eachScheme call value? false values schemes).runWith 0 cache env world =
      (.ok result, ended)) :
    World.Since ReadsOnly world ended ∧ ∃ later, result = values ++ later ∧
      List.Forall₂ (ReadBetween read value? env world ended) schemes later := by
  induction schemes generalizing values cache world with
  | nil =>
      cases run
      exact ⟨.refl _, [], (List.append_nil _).symm, .nil⟩
  | cons scheme rest ih =>
      obtain ⟨looked, refreshed, middle, value, remembered, looks, refreshes, between, reads,
        continued⟩ := collect_ok refreshing run
      cases refreshes
      obtain ⟨following, later, rfl, others⟩ := ih continued
      have before : World.Since ReadsOnly world middle := looks.trans reads
      refine ⟨before.trans following, value :: later, List.append_assoc values [value] later, ?_⟩
      refine .cons (between.widen looks following) (others.imp fun other found read => ?_)
      exact read.widen before (.refl ended)

/-- What a batch returns was read after one refresh, with nothing written since. -/
theorem eachScheme_refreshed (refreshing : Refreshing call command read) {scheme : Nat}
    {rest : List Nat} {cache : BatchCache}
    (run : (BatchClosure.eachScheme call value? true [] (scheme :: rest)).runWith 0 cache env world =
      (.ok result, ended)) :
    ∃ refreshed, World.Sends [(Path.stateOf 0, command.kernelName)] world refreshed ∧
      World.Since ReadsOnly refreshed ended ∧
      List.Forall₂ (ReadBetween read value? env refreshed ended) (scheme :: rest) result := by
  obtain ⟨looked, refreshed, middle, value, remembered, looks, refreshes, between, reads,
    continued⟩ := collect_ok refreshing run
  obtain ⟨following, later, rfl, others⟩ := eachScheme_cached refreshing continued
  have sends : World.Sends [(Path.stateOf 0, command.kernelName)] looked refreshed :=
    issueCommand_sends_once refreshes
  refine ⟨refreshed, (World.Sends.of_reads looks).nil_trans sends, reads.trans following, ?_⟩
  refine .cons (between.widen (.refl refreshed) following) (others.imp fun other found read => ?_)
  exact read.widen reads (.refl ended)

end Batches

end ManagedHierarchy

/-! ## Calls of a monitor -/

section Calls

open ManagedHierarchy

variable {α : Type} {env : Env} {world ended : World}

/-- What was read of every scheme after the one command that was sent. -/
structure RefreshedOnce (command : KdamondCommand) (read : Scheme → Sysfs RuntimeResult)
    (value? : RuntimeResult → Option α) (schemes : List Nat) (values : List α) (env : Env)
    (world ended : World) (refreshed : World) : Prop where
  sends : World.Sends [(Path.stateOf 0, command.kernelName)] world refreshed
  quiet : World.Since ReadsOnly refreshed ended
  reads : List.Forall₂ (ReadBetween read value? env refreshed ended) schemes values

theorem runtimeBatch_refreshedOnce {call : Nat → Bool → RuntimeRead} {command : KdamondCommand}
    {read : Scheme → Sysfs RuntimeResult} {value? : RuntimeResult → Option α} {schemes : List Nat}
    {values : List α} (refreshing : Refreshing call command read) (nonempty : schemes ≠ [])
    (run : ExclusiveSession.runtimeBatch (.eachScheme call value? true [] schemes) env world =
      (.ok values, ended)) :
    ∃ refreshed, RefreshedOnce command read value? schemes values env world ended refreshed := by
  obtain ⟨opened, closed, opens, ran, closes⟩ := runtimeBatch_parts run
  obtain ⟨scheme, rest, rfl⟩ := List.exists_cons_of_ne_nil nonempty
  obtain ⟨refreshed, sends, quiet, reads⟩ := eachScheme_refreshed refreshing ran
  have opening : World.Since ReadsOnly world opened :=
    Watches.run (.of_reads (Confined.mono (verifyRunning_checks 0) fun _ => ChecksThread.readsOnly))
      opens
  have closing : World.Since ReadsOnly closed ended :=
    Watches.run (.of_reads (Confined.mono (verifyRunningIdentity_checks 0)
      fun _ => ChecksThread.readsOnly)) closes
  refine ⟨refreshed, (World.Sends.of_reads opening).nil_trans sends, quiet.trans closing, ?_⟩
  exact reads.imp fun scheme value read => read.widen (.refl refreshed) closing

theorem batchCall_triedRegions : Refreshing (.triedRegions 0) .updateSchemesTriedRegions
    (fun scheme => .regions <$> scheme.triedRegions) :=
  ⟨fun _ _ => rfl, fun scheme => (Scheme.triedRegions_confined (fun _ => trivial) scheme).map⟩

theorem batchCall_schemeStats : Refreshing (.schemeStats 0) .updateSchemesStats
    (fun scheme => .stats <$> scheme.stats) :=
  ⟨fun _ _ => rfl, fun scheme => (Scheme.stats_confined (fun _ => trivial) scheme).map⟩

theorem batchCall_effectiveQuotaUnits :
    Refreshing (.effectiveQuotaUnits 0) .updateSchemesEffectiveQuotas
      (fun scheme => .units <$> scheme.quotas.effectiveSizeUnits) :=
  ⟨fun _ _ => rfl, fun _ => (readU64_confined trivial).map⟩

namespace Monitor

variable {monitor after : Monitor}

/-- A call that leaves the monitor as it is returns what its program does. -/
theorem unchanged_ok {program : Monitor → Sysfs α} {value : α}
    (called : unchanged program monitor env world = (.ok (.ok value, after), ended)) :
    program monitor env world = (.ok value, ended) := by
  obtain ⟨outcome, middle, attempted, made⟩ := Exec.bind_eq_ok called
  cases made
  rw [Exec.attempt_run] at attempted
  obtain ⟨outcomes, worlds⟩ := Prod.mk.inj attempted
  exact Prod.ext (Except.ok.inj outcomes) worlds

/-- The statistics of all schemes come from one refresh. -/
theorem schemeStatsAll_refreshedOnce {stats : List SchemeStats}
    (custom : monitor.customSchemeCount ≠ 0)
    (called : schemeStatsAll monitor env world = (.ok (.ok stats, after), ended)) :
    ∃ refreshed, RefreshedOnce .updateSchemesStats (fun scheme => .stats <$> scheme.stats)
      RuntimeResult.stats? (List.range monitor.customSchemeCount) stats env world ended refreshed :=
  runtimeBatch_refreshedOnce batchCall_schemeStats (by simpa using custom) (unchanged_ok called)

/-- The effective quotas of all schemes come from one refresh. -/
theorem effectiveQuotaUnitsAll_refreshedOnce {units : List UInt64}
    (custom : monitor.customSchemeCount ≠ 0)
    (called : effectiveQuotaUnitsAll monitor env world = (.ok (.ok units, after), ended)) :
    ∃ refreshed, RefreshedOnce .updateSchemesEffectiveQuotas
      (fun scheme => .units <$> scheme.quotas.effectiveSizeUnits) RuntimeResult.units?
      (List.range monitor.customSchemeCount) units env world ended refreshed := by
  obtain ⟨_, middle, supported, batch⟩ := Exec.bind_eq_ok (unchanged_ok called)
  unfold ensureEffectiveQuotaSupported at supported
  split at supported
  · cases supported
    exact runtimeBatch_refreshedOnce batchCall_effectiveQuotaUnits (by simpa using custom) batch
  · cases supported

end Monitor

/-- Related items stay related to what is made of them pairwise. -/
theorem forall₂_zip {β γ : Type} {related : β → α → Prop} {items : List β} {values : List α}
    (all : List.Forall₂ related items values) (make : β × α → γ) :
    List.Forall₂ (fun item made => ∃ value, related item value ∧ made = make (item, value)) items
      ((items.zip values).map make) := by
  induction all with
  | nil => exact .nil
  | cons holds _ ih => exact .cons ⟨_, holds, rfl⟩ ih

/-- A snapshot of a query scheme is what its tried regions showed between two worlds. -/
structure ScopedSnapshot.ShownBetween (env : Env) (start ended : World)
    (descriptor : SnapshotDescriptor) (snapshot : ScopedSnapshot) : Prop where
  describes : snapshot.descriptor = descriptor
  shown : ∃ begun last, World.Since ReadsOnly start begun ∧
    (((kdamond 0).context 0).scheme descriptor.schemeIndex).triedRegions env begun =
      (.ok snapshot.snapshot.raw, last) ∧
    World.Since ReadsOnly last ended

/-- Whatever the environment does: snapshots that were taken together were all read after one
refresh that the kernel accepted, and nothing was written from it to the end. -/
theorem materializeScopedSnapshots_refreshedOnce {descriptors : List SnapshotDescriptor}
    {addressUnit : AddressUnit} {snapshots : List ScopedSnapshot}
    (run : materializeScopedSnapshots descriptors addressUnit env world = (.ok snapshots, ended)) :
    ∃ refreshed,
      World.Sends [(Path.stateOf 0, KdamondCommand.updateSchemesTriedRegions.kernelName)] world
        refreshed ∧
      World.Since ReadsOnly refreshed ended ∧
      List.Forall₂ (ScopedSnapshot.ShownBetween env refreshed ended) descriptors snapshots := by
  unfold materializeScopedSnapshots at run
  split at run
  · cases run
  rename_i requested
  obtain ⟨raw, middle, batch, made⟩ := Exec.bind_eq_ok run
  cases made
  have nonempty : descriptors.map SnapshotDescriptor.schemeIndex ≠ [] := by
    simpa using requested
  obtain ⟨refreshed, sends, quiet, reads⟩ :=
    runtimeBatch_refreshedOnce batchCall_triedRegions nonempty batch
  refine ⟨refreshed, sends, quiet, ?_⟩
  refine (forall₂_zip (List.forall₂_map_left_iff.mp reads) _).imp fun descriptor snapshot shown => ?_
  obtain ⟨regions, ⟨begun, last, found, before, read, known, rest⟩, rfl⟩ := shown
  have mapped : ((((kdamond 0).context 0).scheme descriptor.schemeIndex).triedRegions >>=
      fun value => Pure.pure (RuntimeResult.regions value)) env begun = (.ok found, last) := read
  obtain ⟨value, closed, shows, returned⟩ := Exec.bind_eq_ok mapped
  cases returned
  cases known
  exact ⟨rfl, begun, _, before, shows, rest⟩

end Calls

/-! ## The query of one process -/

namespace QueryFixture

open MonitorFixture

/-- The query is installed. -/
def ready : World := (ExclusiveSession.updateConfiguration query.1).leads env world

def snapshots : List ScopedSnapshot :=
  (materializeScopedSnapshots query.2 .one env ready).1.toOption.getD []

def ended : World := (materializeScopedSnapshots query.2 .one).leads env ready

theorem taken : materializeScopedSnapshots query.2 .one env ready = (.ok snapshots, ended) :=
  Exec.run_of_outcome (by decide +kernel)

end QueryFixture

open QueryFixture in
theorem materializeScopedSnapshots_refreshedOnce_process :
    ∃ refreshed,
      World.Sends [(Path.stateOf 0, KdamondCommand.updateSchemesTriedRegions.kernelName)] ready
        refreshed ∧
      World.Since ReadsOnly refreshed QueryFixture.ended ∧
      List.Forall₂ (ScopedSnapshot.ShownBetween MonitorFixture.env refreshed QueryFixture.ended)
        MonitorFixture.query.2 snapshots :=
  materializeScopedSnapshots_refreshedOnce taken

end DamonRs
