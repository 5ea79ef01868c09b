import DamonRs.Monitor.Persistent
import DamonRs.Receipt.Absolute
import Mathlib.Data.List.Destutter

/-!
# Attaching to an accepted receipt

What the decoder has checked over relative paths is what opening the receipt
needs over absolute ones: the second checks pass, and the rebuilt record is
ordered, so that every search in it is right.
-/

namespace DamonRs

open Library Sysfs Receipt

/-! ## The record under the admin root -/

/-- An entry of a fingerprint with its absolute path. -/
structure AbsoluteEntry where
  path : PathBuf
  value : String
  deriving DecidableEq

namespace AbsoluteEntry

/-- The loop of `from_writable_values`. -/
def pushAll (root : PathBuf) :
    List WritableConfigurationValue → Except Error (List AbsoluteEntry)
  | [] => .ok []
  | value :: rest =>
      if !ConfigurationSnapshot.isNormalPath value.path then
        .error (.invalidReceipt "contains a non-relative writable path")
      else do
        let entries ← pushAll root rest
        pure (⟨root.join value.path, value.value⟩ :: entries)

def fromWritableValues (root : PathBuf) (values : List WritableConfigurationValue) :
    Except Error (List AbsoluteEntry) := do
  let entries ← pushAll root values
  let entries := entries.insertionSort fun first second =>
    first.path.components ≤ second.path.components
  if (entries.zip entries.tail).any fun (first, second) =>
      first.path.components = second.path.components then
    throw (.invalidReceipt "contains duplicate writable paths")
  pure entries

end AbsoluteEntry

/-- The ownership record of an opened receipt. -/
structure AbsoluteOwnership where
  entries : List AbsoluteEntry
  volatilePaths : List PathBuf
  kdamondCount : Nat
  deriving DecidableEq

def AbsoluteOwnership.fromParts (entries : List AbsoluteEntry) (volatilePaths : List PathBuf)
    (kdamondCount : Nat) : AbsoluteOwnership where
  entries := entries
  volatilePaths := (volatilePaths.insertionSort fun first second =>
    first.components ≤ second.components).destutter fun first second =>
      first.components ≠ second.components
  kdamondCount := kdamondCount

/-- The record that `open_managed` rebuilds under an admin root. -/
def PersistentReceipt.ownershipAt (receipt : PersistentReceipt) (root : PathBuf) :
    Except Error AbsoluteOwnership := do
  let entries ← AbsoluteEntry.fromWritableValues root receipt.writableValues
  pure (.fromParts entries (receipt.volatilePaths.map root.join) receipt.kdamondCount)

/-! ## The second checks pass -/

theorem isNormalPath_of_relative {path : PathBuf} (relative : isRelativePath path = true) :
    ConfigurationSnapshot.isNormalPath path = true := by
  simp only [isRelativePath, Bool.and_eq_true] at relative
  simp only [ConfigurationSnapshot.isNormalPath, Bool.and_eq_true]
  exact ⟨⟨relative.1.1.1, relative.1.1.2⟩, relative.2⟩

theorem normal_of_relative {path : PathBuf} (relative : isRelativePath path = true) :
    ∀ c ∈ path.components, c.isNormal = true := by
  simp only [isRelativePath, Bool.and_eq_true, List.all_eq_true] at relative
  exact relative.2

theorem AbsoluteEntry.pushAll_ok {root : PathBuf} {values : List WritableConfigurationValue}
    (relative : ∀ value ∈ values, isRelativePath value.path = true) :
    pushAll root values = .ok (values.map fun value => ⟨root.join value.path, value.value⟩) := by
  induction values with
  | nil => rfl
  | cons value rest ih =>
      have normal := isNormalPath_of_relative (relative value (List.mem_cons_self ..))
      unfold pushAll
      rw [normal, ih fun other member => relative other (List.mem_cons_of_mem value member)]
      rfl

/-- What holds of every pair in order holds of neighbours. -/
theorem neighbours_of_pairwise {α : Type} {related : α → α → Prop} {items : List α}
    (ordered : items.Pairwise related) : ∀ pair ∈ items.zip items.tail, related pair.1 pair.2 := by
  induction items with
  | nil => simp
  | cons first rest ih =>
      cases rest with
      | nil => simp
      | cons second rest =>
          rintro pair (_ | ⟨_, later⟩)
          · exact List.rel_of_pairwise_cons ordered (List.mem_cons_self ..)
          · exact ih ordered.of_cons pair later

/-- Joining keeps the order. -/
theorem join_ordered {root : PathBuf} (absolute : root.isAbsolute = true) {paths : List PathBuf}
    (relative : ∀ path ∈ paths, isRelativePath path = true)
    (ordered : (paths.map PathBuf.components).Pairwise (· < ·)) :
    ((paths.map root.join).map PathBuf.components).Pairwise (· < ·) := by
  rw [List.pairwise_map] at ordered
  rw [List.map_map, List.pairwise_map]
  refine ordered.imp_of_mem fun {first second} inFirst inSecond below => ?_
  dsimp only [Function.comp]
  rw [PathBuf.join_components absolute (normal_of_relative (relative first inFirst)),
    PathBuf.join_components absolute (normal_of_relative (relative second inSecond))]
  exact List.append_left_lt below

theorem AbsoluteEntry.joined_ordered {root : PathBuf} (absolute : root.isAbsolute = true)
    {values : List WritableConfigurationValue}
    (relative : ∀ value ∈ values, isRelativePath value.path = true)
    (ordered : (values.map fun value => value.path.components).Pairwise (· < ·)) :
    ((values.map fun value => AbsoluteEntry.mk (root.join value.path) value.value).map
      fun entry => entry.path.components).Pairwise (· < ·) := by
  have paths : (((values.map WritableConfigurationValue.path).map root.join).map
      PathBuf.components).Pairwise (· < ·) :=
    join_ordered absolute (by simpa using relative) (by simpa [Function.comp_def] using ordered)
  simpa only [List.map_map, Function.comp_def] using paths

theorem AbsoluteEntry.fromWritableValues_ok {root : PathBuf} (absolute : root.isAbsolute = true)
    {values : List WritableConfigurationValue}
    (relative : ∀ value ∈ values, isRelativePath value.path = true)
    (ordered : (values.map fun value => value.path.components).Pairwise (· < ·)) :
    fromWritableValues root values =
      .ok (values.map fun value => ⟨root.join value.path, value.value⟩) := by
  have joined := List.pairwise_map.mp (joined_ordered absolute relative ordered)
  unfold fromWritableValues
  rw [pushAll_ok relative]
  dsimp only [bind, Except.bind]
  rw [List.Pairwise.insertionSort_eq (joined.imp fun below => le_of_lt below), if_neg]
  · rfl
  · rw [List.any_eq_true]
    rintro ⟨pair, member, same⟩
    exact (neighbours_of_pairwise joined pair member).ne (of_decide_eq_true same)

/-- Ordered paths stay as they are. -/
theorem AbsoluteOwnership.fromParts_ordered {entries : List AbsoluteEntry}
    {volatilePaths : List PathBuf} {kdamondCount : Nat}
    (ordered : (volatilePaths.map PathBuf.components).Pairwise (· < ·)) :
    fromParts entries volatilePaths kdamondCount = ⟨entries, volatilePaths, kdamondCount⟩ := by
  rw [List.pairwise_map] at ordered
  unfold fromParts
  rw [List.Pairwise.insertionSort_eq (ordered.imp fun below => le_of_lt below),
    List.destutter_of_isChain _ _ (ordered.imp fun below => ne_of_lt below).isChain]

/-! ## The record of a session -/

/-- Components without NUL bytes have the bytes of their names. -/
theorem Component.asOsStr_of_name {first second : Component}
    (firstFree : (0 : UInt8) ∉ first.asOsStr) (secondFree : (0 : UInt8) ∉ second.asOsStr)
    (same : first.name = second.name) : first.asOsStr = second.asOsStr := by
  -- a name that is kept behind a NUL is the name of no NUL-free component
  have apart : ∀ {bytes : List UInt8} {text : String} {rest : List Char}, (0 : UInt8) ∉ bytes →
      Text.ofUtf8Bytes? bytes = some text → text ≠ String.ofList (Char.ofNat 0 :: rest) := by
    rintro bytes text rest free decoded rfl
    exact free (Text.utf8Bytes_of_ofUtf8Bytes? decoded ▸ Text.zero_mem_utf8Bytes rest)
  unfold name at same
  split at same
  · rename_i decodedFirst
    split at same
    · rename_i decodedSecond
      rw [← Text.utf8Bytes_of_ofUtf8Bytes? decodedFirst,
        ← Text.utf8Bytes_of_ofUtf8Bytes? decodedSecond, same]
    · exact absurd same (apart firstFree decodedFirst)
  · split at same
    · rename_i decodedSecond
      exact absurd same.symm (apart secondFree decodedSecond)
    · rw [String.ofList_inj, List.cons.injEq] at same
      exact List.map_injective_iff.mpr Text.charOfByte_injective same.2

theorem Component.eq_of_map_name {first second : List Component}
    (firstFree : ∀ c ∈ first, ∃ name, c = .normal name ∧ (0 : UInt8) ∉ name)
    (secondFree : ∀ c ∈ second, ∃ name, c = .normal name ∧ (0 : UInt8) ∉ name)
    (same : first.map Component.name = second.map Component.name) : first = second := by
  induction first generalizing second with
  | nil => exact (List.map_eq_nil_iff.mp same.symm).symm
  | cons c rest ih =>
      cases second with
      | nil => cases same
      | cons other others =>
          rw [List.map_cons, List.map_cons, List.cons.injEq] at same
          obtain ⟨bytes, rfl, free⟩ := firstFree c (List.mem_cons_self ..)
          obtain ⟨otherBytes, rfl, otherFree⟩ := secondFree other (List.mem_cons_self ..)
          have head : bytes = otherBytes :=
            @asOsStr_of_name (.normal bytes) (.normal otherBytes) free otherFree same.1
          have tail := ih (fun x member => firstFree x (List.mem_cons_of_mem _ member))
            (fun x member => secondFree x (List.mem_cons_of_mem _ member)) same.2
          rw [head, tail]

/-- Different relative paths have different names. -/
theorem PathBuf.components_of_toPath {first second : PathBuf}
    (firstRelative : isRelativePath first = true) (secondRelative : isRelativePath second = true)
    (same : first.toPath = second.toPath) : first.components = second.components :=
  Component.eq_of_map_name (isRelativePath_components firstRelative)
    (isRelativePath_components secondRelative) same

theorem ConfigurationSnapshot.fromWritableValues_ok {values : List WritableConfigurationValue}
    (relative : ∀ value ∈ values, isRelativePath value.path = true)
    (ordered : (values.map fun value => value.path.components).Pairwise (· < ·)) :
    ∃ entries, fromWritableValues values = .ok ⟨[], ⟨entries⟩⟩ ∧
      (entries.map ConfigurationEntry.path).Pairwise (· < ·) ∧
      entries.Perm (values.map fun value => ⟨value.path.toPath, value.value⟩) := by
  have normal : values.all (fun value => isNormalPath value.path) = true :=
    List.all_eq_true.mpr fun value member => isNormalPath_of_relative (relative value member)
  let made := values.map fun value => ConfigurationEntry.mk value.path.toPath value.value
  let entries := made.insertionSort fun first second => first.path ≤ second.path
  have perm : entries.Perm made := List.perm_insertionSort _ made
  have distinct : (entries.map ConfigurationEntry.path).Nodup := by
    refine (perm.map _).nodup_iff.mpr ?_
    rw [List.map_map]
    rw [List.pairwise_map] at ordered
    refine List.pairwise_map.mpr (ordered.imp_of_mem fun {first second} left right below => ?_)
    intro same
    exact below.ne (PathBuf.components_of_toPath (relative first left) (relative second right) same)
  have sorted : (entries.map ConfigurationEntry.path).Pairwise (· ≤ ·) :=
    List.pairwise_map.mpr (List.pairwise_insertionSort _ made)
  refine ⟨entries, ?_, ?_, perm⟩
  · unfold fromWritableValues
    have rest : ¬(!decide (entries.map ConfigurationEntry.path).Nodup) = true := by simpa using distinct
    rw [normal]
    exact if_neg rest
  · exact (sorted.and distinct).imp fun ⟨below, different⟩ => lt_of_le_of_ne below different

end DamonRs
