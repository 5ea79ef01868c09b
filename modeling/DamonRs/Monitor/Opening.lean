import DamonRs.Monitor.Attach
import DamonRs.Sysfs.AccessErrors
import DamonRs.Sysfs.Fixture

/-!
# Opening an accepted receipt

Opening checks the binding, rebuilds the ownership record and compares the
hierarchy with it.  Whatever fails on the way, the receipt is not to blame.
-/

namespace DamonRs

open Library Sysfs Receipt

/-! ## Which steps can reject a receipt -/

namespace Error

def isInvalidReceipt : Error → Bool
  | invalidReceipt _ => true
  | _ => false

end Error

namespace Sysfs

/-- No run of the program ends with a rejected receipt. -/
def Unrejected {α : Type} (program : Sysfs α) : Prop :=
  Exec.FailsAs (fun error => error.isInvalidReceipt = false) program

namespace Unrejected

variable {α : Type}

theorem ofAccess {program : Sysfs α} (fails : Exec.FailsAs Error.OfAccess program) :
    Unrejected program :=
  fails.imp fun error known => by cases known <;> rfl

theorem getSelf : Unrejected getSelf := Exec.FailsAs.total fun _ _ => ⟨_, rfl⟩

theorem setSelf (self : ManagedHierarchy) : Unrejected (setSelf self) :=
  Exec.FailsAs.total fun _ _ => ⟨_, rfl⟩

theorem requireOwned (reason : String) {comparison : Sysfs Bool}
    (compared : Unrejected comparison) : Unrejected (requireOwned reason comparison) :=
  .bind compared fun _ => .ite (fun _ => .pure ()) fun _ => .fail rfl

theorem requireField (condition : Bool) (field reason : String) :
    Unrejected (Exec.ofExcept (requireField condition field reason)) := by
  unfold DamonRs.requireField
  split
  · exact .pure ()
  · exact .fail rfl

theorem kdamondState (kdamond : Kdamond) : Unrejected kdamond.state := by
  refine .bind (ofAccess (.readText _)) fun value => ?_
  unfold KdamondState.fromStr validateToken
  rw [Exec.ofExcept_bind, Exec.ofExcept_bind]
  refine .bind (.bind (requireField _ _ _) fun _ => requireField _ _ _) fun _ => ?_
  split
  · exact .pure _
  split
  · exact .pure _
  · exact .pure _

theorem runningThreadPid (kdamond : Kdamond) : Unrejected (runningThreadPid kdamond) := by
  refine .bind (.retry (kdamondState kdamond) _) fun state => ?_
  cases state with
  | off => exact .fail rfl
  | unknown state => exact .fail rfl
  | on =>
      refine .bind (.retry (ofAccess (.pid kdamond)) _) fun pid => ?_
      cases pid with
      | some pid => exact .pure pid
      | none => exact .fail rfl

theorem acquire (lockPath : PathBuf) : Unrejected (SessionLock.acquire lockPath) := by
  refine .bind (.total fun _ _ => ⟨_, rfl⟩) fun env => .bind .get fun world =>
    .bind (ofAccess (.perform _)) fun reply => ?_
  cases reply with
  | failed fault => exact .ite (fun _ => .fail rfl) fun _ => .fail rfl
  | done => exact .ite (fun _ => .fail rfl) fun _ => .pure ()
  | content content => exact .ite (fun _ => .fail rfl) fun _ => .pure ()

theorem verifyCount (staged : StagedOwnership) : Unrejected staged.verifyCount :=
  .bind (ofAccess .kdamondCount) fun _ => .ite (fun _ => .fail rfl) fun _ => .pure ()

theorem verify (staged : StagedOwnership) : Unrejected staged.verify :=
  .bind (verifyCount staged) fun _ => requireOwned _ (ofAccess (.matchesCurrentExcept _ _))

theorem verifyComplete (staged : StagedOwnership) : Unrejected staged.verifyComplete :=
  .bind (verifyCount staged) fun _ => requireOwned _ (ofAccess (.matchesCompleteCurrentExcept _ _))

open ManagedHierarchy in
theorem verifyOwnedKdamond (index : Nat) :
    Unrejected (ManagedHierarchy.verifyOwnedKdamond index) := by
  have staged : Unrejected (requireStagedOff index) := by
    refine .bind (.retry (kdamondState _) _) fun state => ?_
    cases state with
    | off => exact .pure ()
    | on => exact .fail rfl
    | unknown state => exact .fail rfl
  have expected : Unrejected (expectedRunningPid index) := by
    refine .bind ?_ fun _ => .bind getSelf fun self => ?_
    · exact .bind getSelf fun self => .ite (fun _ => .fail rfl) fun _ => .pure ()
    · cases self.state index with
      | running pid => exact .pure pid
      | staged => exact .fail rfl
      | unidentifiedRunning => exact .fail rfl
  refine .bind getSelf fun self => ?_
  cases self.state index with
  | staged => exact staged
  | running pid =>
      exact .bind expected fun _ => .bind (runningThreadPid _) fun _ =>
        .ite (fun _ => .fail rfl) fun _ => .pure ()
  | unidentifiedRunning => exact .fail rfl

theorem verifyOwnedState : Unrejected ManagedHierarchy.verifyOwnedState :=
  .bind getSelf fun self => .ite (fun _ => .fail rfl) fun _ =>
    .bind (verify self.staged) fun _ => .forEach verifyOwnedKdamond _

theorem drop : Unrejected ManagedHierarchy.drop :=
  .bind getSelf fun _ => .ite
    (fun _ => .bind (.total fun _ _ => ⟨_, rfl⟩) fun _ => setSelf _) fun _ => setSelf _

theorem attachPersistent {staged : StagedOwnership} {identities : List (Nat × Pid)}
    {states : List KdamondSessionState}
    (attached : ManagedHierarchy.attachedStates none identities
      (List.replicate staged.kdamondCount .staged) = .ok states) :
    Unrejected (ManagedHierarchy.attachPersistent staged identities) := by
  refine .bind (verifyComplete staged) fun _ => .bind (.ofExcept attached) fun states =>
    .bind (setSelf _) fun _ => ?_
  refine .attempt verifyOwnedState (fun _ => .pure ()) fun error known => ?_
  exact .bind drop fun _ => .fail known

end Unrejected

end Sysfs

theorem ManagedHierarchy.attachedStates_ok {previous : Option Nat} {identities : List (Nat × Pid)}
    {states : List KdamondSessionState}
    (ordered : (identities.map Prod.fst).Pairwise (· < ·))
    (inside : ∀ identity ∈ identities, identity.1 < states.length)
    (later : ∀ identity ∈ identities, ∀ last, previous = some last → last < identity.1) :
    ∃ attached, attachedStates previous identities states = .ok attached := by
  induction identities generalizing previous states with
  | nil => exact ⟨states, rfl⟩
  | cons identity rest ih =>
      obtain ⟨index, pid⟩ := identity
      rw [List.map_cons, List.pairwise_cons] at ordered
      have here : ¬index ≥ states.length := Nat.not_le_of_lt (inside _ (List.mem_cons_self ..))
      have after : ¬previous.any (· ≥ index) = true := by
        intro found
        obtain ⟨last, same, above⟩ := Option.any_eq_true _ _ |>.mp found
        have below := later _ (List.mem_cons_self ..) last same
        exact absurd (of_decide_eq_true above) (Nat.not_le_of_lt below)
      unfold attachedStates
      rw [if_neg here, if_neg after]
      refine ih ordered.2 (fun other member => ?_) fun other member last same => ?_
      · rw [List.length_set]
        exact inside other (List.mem_cons_of_mem _ member)
      · cases same
        exact ordered.1 _ (List.mem_map_of_mem member)

/-- The current boot is read, unless that fails, and checked. -/
theorem currentBootId_cases {env : Env} {world after : World} {outcome : Except Error String}
    (run : currentBootId env world = (outcome, after)) :
    (∃ errno, outcome = .error (.io "read Linux boot identifier" bootIdPath (.os errno))) ∨
      outcome = validateBootId (Text.trim env.bootId) >>= fun _ => pure (Text.trim env.bootId) := by
  have checked : ∀ {start}, (Exec.ofExcept (validateBootId (Text.trim env.bootId)) >>= fun _ =>
      pure (Text.trim env.bootId) : Sysfs String) env start = (outcome, after) →
      outcome = validateBootId (Text.trim env.bootId) >>= fun _ => pure (Text.trim env.bootId) := by
    intro start run
    cases valid : validateBootId (Text.trim env.bootId) with
    | ok _ =>
        rw [valid] at run
        exact (Prod.ext_iff.mp run).1.symm
    | error error =>
        rw [valid] at run
        exact (Prod.ext_iff.mp run).1.symm
  obtain ⟨_, failed, -⟩ | ⟨_, _, known, run⟩ := Exec.bind_cases run
  · cases failed
  cases known
  obtain ⟨_, failed, -⟩ | ⟨reply, _, -, run⟩ := Exec.bind_cases run
  · cases failed
  cases reply with
  | failed fault => exact .inl ⟨fault.errno, (Prod.ext_iff.mp run).1.symm⟩
  | done => exact .inr (checked run)
  | content content => exact .inr (checked run)

/-! ## Accepted receipts -/

/-- What the binding compares: the paths of the instance and the current boot. -/
structure PersistentReceipt.BoundTo (receipt : PersistentReceipt) (damon : Damon) (env : Env) :
    Prop where
  adminPath : receipt.adminPath.components = damon.adminPath.components
  lockPath : receipt.lockPath.components = damon.lockPath.components
  bootId : receipt.bootId = Text.trim env.bootId

theorem PersistentReceipt.BoundTo.of_verifyBinding {receipt : PersistentReceipt} {damon : Damon}
    {env : Env} {world after : World}
    (run : receipt.verifyBinding damon env world = (.ok (), after)) : receipt.BoundTo damon env := by
  unfold PersistentReceipt.verifyBinding at run
  split at run
  · cases run
  rename_i adminPath
  split at run
  · cases run
  rename_i lockPath
  obtain ⟨bootId, middle, read, compared⟩ := Exec.bind_eq_ok run
  split at compared
  · cases compared
  rename_i same
  refine ⟨not_not.mp adminPath, not_not.mp lockPath, (not_not.mp same).trans ?_⟩
  obtain ⟨_, failed⟩ | checked := currentBootId_cases read
  · cases failed
  · obtain ⟨_, _, returned⟩ := Checks.bind_ok checked.symm
    cases returned
    rfl

/-- The binding of a bound receipt does not reject it. -/
theorem PersistentReceipt.BoundTo.verifyBinding_error {receipt : PersistentReceipt} {damon : Damon}
    {env : Env} (bound : receipt.BoundTo damon env) (valid : validateBootId receipt.bootId = .ok ())
    {world after : World} {error : Error}
    (run : receipt.verifyBinding damon env world = (.error error, after)) :
    error.isInvalidReceipt = false := by
  unfold PersistentReceipt.verifyBinding at run
  rw [if_neg (not_not.mpr bound.adminPath), if_neg (not_not.mpr bound.lockPath)] at run
  rcases Exec.bind_eq_error run with failed | ⟨bootId, middle, -, failed⟩
  · obtain ⟨errno, same⟩ | checked := currentBootId_cases failed
    · cases same
      rfl
    · rw [← bound.bootId, valid] at checked
      cases checked
  · split at failed
    · cases failed
      rfl
    · cases failed

/-- The lists of a record can be searched, and what is ignored is recorded. -/
structure AbsoluteOwnership.Indexed (record : AbsoluteOwnership) : Prop where
  entries : Searchable record.entries fun entry => entry.path.components
  volatilePaths : Searchable record.volatilePaths PathBuf.components
  volatileRecorded : ∀ path ∈ record.volatilePaths,
    ∃ entry ∈ record.entries, entry.path.components = path.components

/-- The entry without the root, under the names of its components. -/
def AbsoluteEntry.below (root : PathBuf) (entry : AbsoluteEntry) : ConfigurationEntry :=
  ⟨(entry.path.components.drop root.components.length).map Component.name, entry.value⟩

structure StagedOwnership.Indexed (staged : StagedOwnership) : Prop where
  entries : Searchable staged.configuration.entries ConfigurationEntry.path
  volatilePaths : Searchable staged.volatilePaths id
  volatileRecorded : ∀ path ∈ staged.volatilePaths,
    ∃ entry ∈ staged.configuration.entries, entry.path = path

namespace Receipt.Decoded

variable {receipt : PersistentReceipt} (decoded : Decoded receipt)

include decoded

theorem ownershipAt {root : PathBuf} (absolute : root.isAbsolute = true) :
    receipt.ownershipAt root = .ok
      { entries := receipt.writableValues.map fun value => ⟨root.join value.path, value.value⟩
        volatilePaths := receipt.volatilePaths.map root.join
        kdamondCount := receipt.kdamondCount } := by
  have volatileOrdered :=
    join_ordered absolute decoded.volatileRelative decoded.validated.volatileOrdered
  unfold PersistentReceipt.ownershipAt
  rw [AbsoluteEntry.fromWritableValues_ok absolute decoded.writableRelative
    decoded.validated.writableOrdered, ← AbsoluteOwnership.fromParts_ordered volatileOrdered]
  rfl

theorem indexed {root : PathBuf} (absolute : root.isAbsolute = true) {record : AbsoluteOwnership}
    (rebuilt : receipt.ownershipAt root = .ok record) : record.Indexed := by
  rw [decoded.ownershipAt absolute] at rebuilt
  cases rebuilt
  refine ⟨.of_ordered ?_, .of_ordered ?_, ?_⟩
  · exact AbsoluteEntry.joined_ordered absolute decoded.writableRelative decoded.validated.writableOrdered
  · exact join_ordered absolute decoded.volatileRelative decoded.validated.volatileOrdered
  · intro path member
    obtain ⟨relative, recorded, rfl⟩ := List.mem_map.mp member
    obtain ⟨value, inside, same⟩ :=
      List.mem_map.mp (decoded.validated.volatileRecorded relative recorded)
    refine ⟨_, List.mem_map_of_mem inside, ?_⟩
    have normal := normal_of_relative (decoded.writableRelative value inside)
    have volatileNormal := normal_of_relative (decoded.volatileRelative relative recorded)
    dsimp only
    rw [PathBuf.join_components absolute normal, PathBuf.join_components absolute volatileNormal,
      same]

/-- The record of the session names the same entries below the root. -/
theorem session {root : PathBuf} (absolute : root.isAbsolute = true) :
    ∃ configuration record,
      ConfigurationSnapshot.fromWritableValues receipt.writableValues = .ok configuration ∧
      receipt.ownershipAt root = .ok record ∧
      configuration.entries.Perm (record.entries.map fun entry => entry.below root) ∧
      (StagedOwnership.fromParts configuration (receipt.volatilePaths.map PathBuf.toPath)
        receipt.kdamondCount).Indexed := by
  obtain ⟨entries, made, ordered, perm⟩ := ConfigurationSnapshot.fromWritableValues_ok
    decoded.writableRelative decoded.validated.writableOrdered
  refine ⟨_, _, made, decoded.ownershipAt absolute, ?_, .of_ordered ordered, .of_ordered ?_, ?_⟩
  · rw [List.map_map]
    refine perm.trans (List.Perm.of_eq (List.map_congr_left fun value inside => ?_))
    have normal := normal_of_relative (decoded.writableRelative value inside)
    dsimp only [Function.comp, AbsoluteEntry.below]
    rw [PathBuf.join_components absolute normal, List.drop_left]
    rfl
  · rw [List.map_id]
    exact sortDedup_strict _
  · intro path member
    obtain ⟨relative, recorded, rfl⟩ := List.mem_map.mp ((mem_sortDedup _ _).mp member)
    obtain ⟨value, inside, same⟩ :=
      List.mem_map.mp (decoded.validated.volatileRecorded relative recorded)
    refine ⟨_, perm.mem_iff.mpr (List.mem_map_of_mem inside), ?_⟩
    dsimp only [PathBuf.toPath]
    rw [same]

theorem attachedStates : ∃ states, ManagedHierarchy.attachedStates none receipt.identityPairs
    (List.replicate receipt.kdamondCount .staged) = .ok states := by
  refine ManagedHierarchy.attachedStates_ok ?_ ?_ ?_
  · simpa [PersistentReceipt.identityPairs, Function.comp_def] using decoded.identitiesOrdered
  · intro pair member
    obtain ⟨identity, inside, rfl⟩ := List.mem_map.mp member
    simpa using decoded.identitiesInside identity inside
  · intro pair member last same
    cases same

theorem openManaged {damon : Damon} {env : Env} (bound : receipt.BoundTo damon env) (world : World)
    (reason : String) : (receipt.openManaged damon env world).1 ≠ .error (.invalidReceipt reason) := by
  obtain ⟨entries, made, -, -⟩ := ConfigurationSnapshot.fromWritableValues_ok
    decoded.writableRelative decoded.validated.writableOrdered
  obtain ⟨states, attached⟩ := decoded.attachedStates
  have opened : Unrejected (do
      SessionLock.acquire damon.lockPath
      let configuration ← Exec.ofExcept
        (ConfigurationSnapshot.fromWritableValues receipt.writableValues)
      let staged := StagedOwnership.fromParts configuration
        (receipt.volatilePaths.map PathBuf.toPath) receipt.kdamondCount
      ManagedHierarchy.attachPersistent staged receipt.identityPairs) := by
    rw [made]
    exact .bind (Unrejected.acquire _) fun _ => .bind (.ofExcept rfl) fun _ =>
      Unrejected.attachPersistent attached
  intro rejected
  have known : Error.isInvalidReceipt (.invalidReceipt reason) = false := by
    rcases Exec.bind_eq_error (Prod.ext rejected rfl) with failed | ⟨_, middle, -, failed⟩
    · exact bound.verifyBinding_error decoded.bootIdValid failed
    · exact opened env middle _ _ failed
  cases known

end Receipt.Decoded

/-- Decoding a receipt establishes what opening it relies on: the configuration and the
identities are accepted again, the record under the admin root can be searched and holds every
ignored path, and no run of the opening rejects the receipt. -/
theorem PersistentReceipt.openManaged_accepts {bytes : List UInt8} {receipt : PersistentReceipt}
    (accepted : fromBytes bytes = .ok receipt) {damon : Damon} {env : Env}
    (bound : receipt.BoundTo damon env) :
    (∃ record, receipt.ownershipAt damon.adminPath = .ok record ∧ record.Indexed ∧
      ∃ configuration,
        ConfigurationSnapshot.fromWritableValues receipt.writableValues = .ok configuration ∧
        configuration.entries.Perm (record.entries.map fun entry => entry.below damon.adminPath) ∧
        (StagedOwnership.fromParts configuration (receipt.volatilePaths.map PathBuf.toPath)
          receipt.kdamondCount).Indexed) ∧
    (∃ states, ManagedHierarchy.attachedStates none receipt.identityPairs
      (List.replicate receipt.kdamondCount .staged) = .ok states) ∧
    ∀ world reason, (receipt.openManaged damon env world).1 ≠ .error (.invalidReceipt reason) := by
  have decoded := Decoded.of_fromBytes accepted
  have absolute : damon.adminPath.isAbsolute = true :=
    PathBuf.isAbsolute_of_components decoded.adminAbsolute bound.adminPath
  obtain ⟨configuration, record, made, rebuilt, same, searchable⟩ := decoded.session absolute
  exact ⟨⟨record, rebuilt, decoded.indexed absolute rebuilt, configuration, made, same, searchable⟩,
    decoded.attachedStates, decoded.openManaged bound⟩

/-- The receipt of a kdamond whose intervals are tuned, opened in the boot it names. -/
theorem PersistentReceipt.openManaged_accepts_running :
    (runningReceipt.openManaged
        ⟨.ofString "/sys/kernel/mm//damon/admin/", .ofString "/run/lock/damon"⟩
        { Env.calm .bare ⟨1, by decide⟩ with bootId := "6f1c9f0e-3a52-4d1b-9a44-0c9a5e7d2b31\n" }
        (.initial (.settled (.ofAttributes [(["kdamonds", "nr_kdamonds"], "1", true)])))).1 ≠
      .error (.invalidReceipt "contains duplicate writable paths") :=
  (openManaged_accepts runningReceipt_accepted
    ⟨by decide +kernel, by decide +kernel, by decide +kernel⟩).2.2 _ _

end DamonRs
