import DamonRs.Library.Checks
import DamonRs.Receipt.RoundTrip

/-!
# What an accepted receipt says

The facts about a decoded receipt that later operations rely on without
checking them again.
-/

namespace DamonRs

open Library Library.Parser

namespace Receipt

/-! ## Validation -/

theorem pairwise_of_anyDescent {paths : List (List Component)}
    (ordered : ¬anyDescent paths = true) : paths.Pairwise (· < ·) := by
  induction paths with
  | nil => exact .nil
  | cons first rest ih =>
      cases rest with
      | nil => exact List.pairwise_singleton _ _
      | cons second rest =>
          unfold anyDescent at ordered ih
          simp only [List.tail_cons, List.zip_cons_cons, List.any_cons, Bool.or_eq_true,
            decide_eq_true_eq, not_or, not_le] at ordered ih
          have later := ih ordered.2
          refine List.pairwise_cons.mpr ⟨fun path member => ?_, later⟩
          rcases List.mem_cons.mp member with rfl | inRest
          · exact ordered.1
          · exact ordered.1.trans (List.rel_of_pairwise_cons later inRest)

theorem pushTunedLeaves_recorded {values : List WritableConfigurationValue}
    {intervalsPath : List Component} {names : List String} {paths : List (List Component)}
    (pushed : pushTunedLeaves values intervalsPath names = .ok paths) :
    ∀ path ∈ paths, path ∈ values.map fun value => value.path.components := by
  induction names generalizing paths with
  | nil =>
      cases pushed
      simp
  | cons name names ih =>
      unfold pushTunedLeaves at pushed
      dsimp only at pushed
      split at pushed
      · cases pushed
      rename_i found
      obtain ⟨others, rest, pushed⟩ := Checks.bind_ok pushed
      cases pushed
      rintro path (_ | ⟨_, member⟩)
      · refine binarySearchByKey_mem values _ _ ?_
        simpa [searchPath, Option.isSome_iff_ne_none] using found
      · exact ih rest path member

theorem collectVolatilePaths_recorded {values : List WritableConfigurationValue}
    {kdamondCount : Nat} {rest : List WritableConfigurationValue} {paths : List (List Component)}
    (collected : collectVolatilePaths values kdamondCount rest = .ok paths) :
    ∀ path ∈ paths, path ∈ values.map fun value => value.path.components := by
  induction rest generalizing paths with
  | nil =>
      cases collected
      simp
  | cons value rest ih =>
      unfold collectVolatilePaths at collected
      split at collected
      · exact ih collected
      · split at collected
        · cases collected
        · split at collected
          · exact ih collected
          · obtain ⟨leaves, pushed, collected⟩ := Checks.bind_ok collected
            obtain ⟨others, later, collected⟩ := Checks.bind_ok collected
            cases collected
            intro path member
            rcases List.mem_append.mp member with leaf | other
            · exact pushTunedLeaves_recorded pushed path leaf
            · exact ih later path other

/-- What the validation of a decoded configuration establishes. -/
structure Validated (values : List WritableConfigurationValue) (volatilePaths : List PathBuf) :
    Prop where
  writableOrdered : (values.map fun value => value.path.components).Pairwise (· < ·)
  volatileOrdered : (volatilePaths.map PathBuf.components).Pairwise (· < ·)
  volatileRecorded : ∀ path ∈ volatilePaths,
    path.components ∈ values.map fun value => value.path.components

theorem Validated.of_ok {values : List WritableConfigurationValue} {volatilePaths : List PathBuf}
    {kdamondCount : Nat}
    (valid : validateReceiptConfiguration values volatilePaths kdamondCount = .ok ()) :
    Validated values volatilePaths := by
  unfold validateReceiptConfiguration at valid
  dsimp only at valid
  split at valid
  · cases valid
  rename_i writableOrdered
  split at valid
  · cases valid
  rename_i volatileOrdered
  split at valid
  case h_2 => cases valid
  obtain ⟨countIndex, -, valid⟩ := Checks.bind_ok valid
  split at valid
  case h_2 => cases valid
  obtain ⟨recordedCount, -, valid⟩ := Checks.bind_ok valid
  split at valid
  · cases valid
  obtain ⟨expected, collected, valid⟩ := Checks.bind_ok valid
  split at valid
  · cases valid
  rename_i same
  obtain ⟨paths, found, sorted⟩ := Checks.bind_ok collected
  cases sorted
  refine ⟨pairwise_of_anyDescent writableOrdered, pairwise_of_anyDescent volatileOrdered, ?_⟩
  intro path member
  have expected : path.components ∈ sortDedup paths := by
    rw [← not_not.mp same]
    exact List.mem_map_of_mem member
  exact collectVolatilePaths_recorded found _ ((mem_sortDedup _ _).mp expected)

/-! ## Decoding -/

/-- What the decoder establishes about a receipt. -/
structure Decoded (receipt : PersistentReceipt) : Prop where
  adminAbsolute : receipt.adminPath.isAbsolute = true
  bootIdValid : validateBootId receipt.bootId = .ok ()
  writableRelative : ∀ value ∈ receipt.writableValues, isRelativePath value.path = true
  volatileRelative : ∀ path ∈ receipt.volatilePaths, isRelativePath path = true
  validated : Validated receipt.writableValues receipt.volatilePaths
  identitiesOrdered : (receipt.identities.map PersistentKdamondIdentity.index).Pairwise (· < ·)
  identitiesInside : ∀ identity ∈ receipt.identities, identity.index < receipt.kdamondCount

namespace Decoder

theorem ensures_liftResult {α : Type} (result : Except Error α) :
    Ensures (liftResult result) fun value => result = .ok value := by
  intro cursor value after run
  cases result with
  | error error => cases run
  | ok known =>
      cases run
      rfl

theorem ensures_fail {α : Type} {good : α → Prop} (reason : String) :
    Ensures (fail reason : Decoder α) good :=
  .never fun _ _ _ run => by cases run

theorem ensures_unless {α : Type} {condition : Prop} [Decidable condition] {reason : String}
    {parser : Decoder α} {good : α → Prop} (otherwise : ¬condition → Ensures parser good) :
    Ensures (if condition then fail reason else parser) good := by
  by_cases taken : condition
  · rw [if_pos taken]
    exact ensures_fail reason
  · rw [if_neg taken]
    exact otherwise taken

theorem relative_of_ok {path : PathBuf} (valid : validateRelativePath path = .ok ()) :
    isRelativePath path = true := by
  unfold validateRelativePath at valid
  split at valid
  · assumption
  · cases valid

theorem ensures_writableValue :
    Ensures readWritableValue fun value => isRelativePath value.path = true := by
  refine (Ensures.any _).bind fun path _ => ?_
  refine (ensures_liftResult _).bind fun _ valid => ?_
  exact (Ensures.any _).bind fun value _ => .pure (relative_of_ok valid)

theorem ensures_volatilePath : Ensures readVolatilePath fun path => isRelativePath path = true := by
  refine (Ensures.any _).bind fun path _ => ?_
  exact (ensures_liftResult _).bind fun _ valid => .pure (relative_of_ok valid)

theorem ensures_binding : Ensures readBinding fun binding =>
    binding.1.isAbsolute = true ∧ validateBootId binding.2.2 = .ok () := by
  refine (Ensures.any _).bind fun adminPath _ => (Ensures.any _).bind fun lockPath _ =>
    (Ensures.any _).bind fun bootId _ => ensures_unless fun absolute => ?_
  refine (ensures_liftResult _).bind fun _ valid => .pure ⟨?_, valid⟩
  simp only [Bool.or_eq_true, Bool.not_eq_true', not_or, Bool.not_eq_false] at absolute
  exact absolute.1.1.1

theorem ensures_identity (kdamondCount : Nat) (previous : Option Nat) :
    Ensures (readIdentity kdamondCount previous) fun identity =>
      identity.index < kdamondCount ∧ ∀ last, previous = some last → last < identity.index := by
  refine (Ensures.any _).bind fun index _ => ensures_unless fun inside =>
    ensures_unless fun after => (Ensures.any _).bind fun raw _ => ?_
  split
  · refine .pure ⟨Nat.lt_of_not_le inside, ?_⟩
    rintro last rfl
    simpa using after
  · exact ensures_fail _

theorem ensures_identities (kdamondCount count : Nat) (previous : Option Nat) :
    Ensures (readIdentities kdamondCount count previous) fun identities =>
      (identities.map PersistentKdamondIdentity.index).Pairwise (· < ·) ∧
      (∀ identity ∈ identities, identity.index < kdamondCount) ∧
      ∀ identity ∈ identities, ∀ last, previous = some last → last < identity.index := by
  induction count generalizing previous with
  | zero => exact .pure ⟨by simp, by simp, by simp⟩
  | succ count ih =>
      refine (ensures_identity kdamondCount previous).bind fun identity ⟨inside, above⟩ => ?_
      refine (ih (some identity.index)).bind fun identities ⟨ordered, others, later⟩ => .pure ?_
      refine ⟨?_, ?_, ?_⟩
      · rw [List.map_cons, List.pairwise_cons]
        refine ⟨fun index member => ?_, ordered⟩
        obtain ⟨other, inside, rfl⟩ := List.mem_map.mp member
        exact later other inside _ rfl
      · rintro other (_ | ⟨_, member⟩)
        · exact inside
        · exact others other member
      · rintro other (_ | ⟨_, member⟩) last same
        · exact above last same
        · exact (above last same).trans (later other member _ rfl)

theorem ensures_running (kdamondCount : Nat) :
    Ensures (readRunning kdamondCount) fun identities =>
      (identities.map PersistentKdamondIdentity.index).Pairwise (· < ·) ∧
      ∀ identity ∈ identities, identity.index < kdamondCount := by
  refine (Ensures.any _).bind fun identityCount _ => ensures_unless fun _ => ?_
  refine (ensures_identities kdamondCount identityCount none).bind
    fun identities ⟨ordered, inside, _⟩ => ?_
  exact (Ensures.any _).bind fun _ _ => ensures_unless fun _ => .pure ⟨ordered, inside⟩

theorem ensures_receipt : Ensures readReceipt Decoded := by
  refine (Ensures.any _).bind fun _ _ => ensures_binding.bind fun binding ⟨absolute, boot⟩ => ?_
  have values : Ensures readWritableValues fun values =>
      ∀ value ∈ values, isRelativePath value.path = true :=
    (Ensures.any _).bind fun count _ => ensures_writableValue.times count
  have paths : Ensures readVolatilePaths fun paths =>
      ∀ path ∈ paths, isRelativePath path = true :=
    (Ensures.any _).bind fun count _ => ensures_volatilePath.times count
  refine values.bind fun values writable => paths.bind fun paths volatile => ?_
  refine (Ensures.any _).bind fun kdamondCount _ => ensures_unless fun _ => ?_
  refine (ensures_liftResult _).bind fun _ valid => ?_
  refine (ensures_running kdamondCount).bind fun identities ⟨ordered, inside⟩ => .pure ?_
  exact ⟨absolute, boot, writable, volatile, .of_ok valid, ordered, inside⟩

end Decoder

/-- Every accepted receipt is consistent. -/
theorem Decoded.of_fromBytes {bytes : List UInt8} {receipt : PersistentReceipt}
    (accepted : PersistentReceipt.fromBytes bytes = .ok receipt) : Decoded receipt := by
  unfold PersistentReceipt.fromBytes at accepted
  split at accepted
  · rename_i found cursor run
    cases accepted
    exact Decoder.ensures_receipt _ _ _ run
  · cases accepted

end Receipt

end DamonRs
