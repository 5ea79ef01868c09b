import DamonRs.Library.Returned
import DamonRs.Sysfs.ConfinedReading
import Mathlib.Data.List.Nodup

/-!
# Captures are ordered

However the hierarchy changes while it is walked, a walk comes to no path twice.
So every capture lists its paths in strict order, and so does whatever is
refreshed from one.
-/

namespace DamonRs

open Library Sysfs

namespace Sysfs

/-- What an inspection returns, it observes of some files. -/
theorem inspect_returns {α : Type} {path : Path} {observe : Files → α} {value : α}
    (returns : Exec.Returns (inspect path observe) (.ok value)) :
    ∃ files, value = observe files := by
  obtain ⟨reply, -, observed⟩ := Exec.returns_bind returns
  cases reply with
  | failed fault => cases Exec.returns_pure observed
  | done =>
      obtain ⟨world, -, made⟩ := Exec.returns_bind observed
      exact ⟨world.sys.files, Except.ok.inj (Exec.returns_pure made)⟩
  | content content =>
      obtain ⟨world, -, made⟩ := Exec.returns_bind observed
      exact ⟨world.sys.files, Except.ok.inj (Exec.returns_pure made)⟩

/-- A listing has every entry once. -/
theorem readDir_returns {directory : Path} {entries : List (String × Bool)}
    (returns : Exec.Returns (readDir directory) (.ok entries)) : entries.Nodup := by
  obtain ⟨outcome, inspected, last⟩ := Exec.returns_bind returns
  cases outcome with
  | error fault => cases Exec.returns_pure last
  | ok found =>
      obtain ⟨files, same⟩ := inspect_returns inspected
      cases found with
      | none => cases Exec.returns_pure last
      | some listed =>
          cases Exec.returns_pure last
          unfold Files.list? at same
          split at same
          · cases same
            exact List.nodup_dedup _
          · cases same

/-- The directories of a listing are different. -/
theorem directories_nodup (directory : Path) {entries : List (String × Bool)}
    (listed : entries.Nodup) :
    (entries.filterMap fun (name, isDirectory) =>
      if isDirectory then some (directory ++ [name]) else none).Nodup := by
  refine listed.filterMap ?_
  rintro ⟨first, _ | _⟩ ⟨second, _ | _⟩ path one two <;> simp_all
  simpa using one.trans two.symm

/-- The files of a listing are different. -/
theorem files_nodup {directory : Path} {entries : List (String × Bool)}
    (listed : entries.Nodup) :
    (entries.filterMap fun (name, isDirectory) =>
      if isDirectory then none else some (directory ++ [name])).Nodup := by
  refine listed.filterMap ?_
  rintro ⟨first, _ | _⟩ ⟨second, _ | _⟩ path one two <;> simp_all
  simpa using one.trans two.symm

/-- Whatever happens during a walk, it comes to every path once. -/
theorem walkFiles_nodup {budget : Nat} {directory : Path} {paths : List Path}
    (returns : Exec.Returns (walkFiles budget directory) paths) : paths.Nodup := by
  induction budget generalizing directory paths with
  | zero => exact absurd returns Exec.not_returns_fail
  | succ budget ih =>
      obtain ⟨outcome, listing, walked⟩ := Exec.returns_bind returns
      cases outcome with
      | error fault => exact absurd walked Exec.not_returns_fail
      | ok entries =>
          have listed := readDir_returns listing
          obtain ⟨inner, each, last⟩ := Exec.returns_bind walked
          cases Exec.returns_pure last
          have partners := Exec.returns_mapEach_forall₂ each
          have children : ∀ child ∈ (entries.filterMap fun (name, isDirectory) =>
              if isDirectory then some (directory ++ [name]) else none).reverse,
              ∃ name, child = directory ++ [name] := by
            intro child member
            simp only [List.mem_reverse, List.mem_filterMap] at member
            obtain ⟨⟨name, isDirectory⟩, -, named⟩ := member
            cases isDirectory with
            | false => cases named
            | true => exact ⟨name, (Option.some.inj named).symm⟩
          refine List.Nodup.append (files_nodup listed) (List.nodup_flatten.mpr ⟨?_, ?_⟩) ?_
          · intro walk member
            obtain ⟨child, -, returned⟩ := exists_partner partners member
            exact ih returned
          · -- A path below two children would make them equal.
            have apart := (List.nodup_reverse.mpr (directories_nodup directory
              listed)).imp_of_mem fun inOne inTwo different =>
                And.intro different (And.intro (children _ inOne) (children _ inTwo))
            refine pairwise_of_forall₂ partners apart ?_
            rintro _ _ one two ⟨different, ⟨name, rfl⟩, ⟨other, rfl⟩⟩ here there path inOne inTwo
            obtain ⟨next, rest, below⟩ := walkFiles_returns here path inOne
            obtain ⟨inner, more, same⟩ := walkFiles_returns there path inTwo
            exact different (List.append_inj_left (below.symm.trans same) (by simp))
          · intro path direct nested
            obtain ⟨walk, member, inside⟩ := List.mem_flatten.mp nested
            obtain ⟨child, among, returned⟩ := exists_partner partners member
            obtain ⟨name, rfl⟩ := children child among
            obtain ⟨next, rest, below⟩ := walkFiles_returns returned path inside
            obtain ⟨⟨other, isDirectory⟩, -, named⟩ := List.mem_filterMap.mp direct
            cases isDirectory with
            | true => cases named
            | false =>
                have lengths := congrArg List.length ((Option.some.inj named).trans below)
                simp at lengths

/-- The paths to capture come in strict order. -/
theorem writableConfigurationFiles_strict {root : Path} {paths : List Path}
    (returns : Exec.Returns (writableConfigurationFiles root) paths) :
    paths.Pairwise (· < ·) := by
  obtain ⟨files, walked, kept⟩ := Exec.returns_bind returns
  obtain ⟨options, each, last⟩ := Exec.returns_bind kept
  cases Exec.returns_pure last
  have offered : options.Pairwise fun first second =>
      ∀ path, first = some path → second ≠ some path := by
    refine pairwise_of_forall₂ (Exec.returns_mapEach_forall₂ each) (walkFiles_nodup walked) ?_
    rintro first second _ _ different one two path rfl rfl
    exact different ((configurationFile?_returns one).1.symm.trans (configurationFile?_returns two).1)
  have once : (options.reduceOption.insertionSort (· ≤ ·)).Nodup := by
    rw [(List.perm_insertionSort (· ≤ ·) _).nodup_iff]
    refine List.pairwise_filterMap.mpr (offered.imp ?_)
    rintro first second separate one rfl two rfl same
    exact separate one rfl (congrArg some same.symm)
  have sorted : (options.reduceOption.insertionSort (· ≤ ·)).Pairwise (· ≤ ·) :=
    List.pairwise_insertionSort (· ≤ ·) _
  exact sorted.imp₂ (fun _ _ below different => lt_of_le_of_ne below different) once

end Sysfs

/-! ## Ordered captures -/

namespace ConfigurationFingerprint

/-- The captured paths are in strict order, so that searches find them. -/
def Ordered (fingerprint : ConfigurationFingerprint) : Prop :=
  (fingerprint.entries.map ConfigurationEntry.path).Pairwise (· < ·)

theorem ordered_of_capture {root : Path} {fingerprint : ConfigurationFingerprint}
    (returns : Exec.Returns (captureConfiguration root) fingerprint) : fingerprint.Ordered := by
  obtain ⟨paths, listed, captured⟩ := Exec.returns_bind returns
  obtain ⟨entries, each, last⟩ := Exec.returns_bind captured
  cases Exec.returns_pure last
  refine List.pairwise_map.mpr (pairwise_of_forall₂ (Exec.returns_mapEach_forall₂ each)
    (writableConfigurationFiles_strict listed) ?_)
  intro first second one two below here there
  obtain ⟨value, -, made⟩ := Exec.returns_bind here
  obtain ⟨other, -, found⟩ := Exec.returns_bind there
  rw [Exec.returns_pure made, Exec.returns_pure found]
  exact below

/-- Refreshing a path replaces a value and leaves the paths. -/
theorem refreshPath_paths {fingerprint refreshed : ConfigurationFingerprint} {path : Path}
    (returns : Exec.Returns (fingerprint.refreshPath path) refreshed) :
    refreshed.entries.map ConfigurationEntry.path =
      fingerprint.entries.map ConfigurationEntry.path := by
  unfold refreshPath at returns
  split at returns
  · exact absurd returns Exec.not_returns_fail
  · obtain ⟨value, -, last⟩ := Exec.returns_bind returns
    rw [Exec.returns_pure last]
    refine List.ext_getElem? fun place => ?_
    rw [List.getElem?_map, List.getElem?_map, List.getElem?_modify]
    cases fingerprint.entries[place]? with
    | none => rfl
    | some entry =>
        dsimp only [Option.map_some]
        split <;> rfl

theorem Ordered.refreshed {fingerprint refreshed : ConfigurationFingerprint}
    {paths ignored : List Path} (ordered : fingerprint.Ordered)
    (returns : Exec.Returns (fingerprint.refreshedPathsExcept paths ignored) refreshed) :
    refreshed.Ordered := by
  obtain ⟨last, folded, compared⟩ := Exec.returns_bind returns
  obtain ⟨same, -, ended⟩ := Exec.returns_bind compared
  have stays : last.Ordered := by
    clear ended compared same returns
    induction paths generalizing fingerprint with
    | nil => exact Exec.returns_pure folded ▸ ordered
    | cons path rest ih =>
        obtain ⟨next, first, others⟩ := Exec.returns_bind folded
        refine ih ?_ others
        unfold Ordered
        rw [refreshPath_paths first]
        exact ordered
  cases same with
  | false => exact absurd ended Exec.not_returns_fail
  | true => exact Exec.returns_pure ended ▸ stays

end ConfigurationFingerprint

end DamonRs
