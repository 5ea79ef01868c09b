import DamonRs.Monitor.Accesses
import DamonRs.Sysfs.Restore

/-!
# Comparing a subtree

The entries below a directory are one range of the captured entries, so
comparing that range and comparing all other entries is the same as comparing
the whole capture.
-/

namespace DamonRs

open Library Sysfs

/-! ## Comparing entries -/

/-- The paths that a comparison looks at: those of the entries up to the first difference. -/
def inspectedPaths (sys : System) : List ConfigurationEntry → List Path
  | [] => []
  | entry :: rest =>
      if sys.Shows entry.path entry.value then entry.path :: inspectedPaths sys rest
      else [entry.path]

theorem inspectedPaths_leading (sys : System) (entries : List ConfigurationEntry) :
    inspectedPaths sys entries <+: entries.map ConfigurationEntry.path := by
  induction entries with
  | nil => exact List.nil_prefix
  | cons first rest ih =>
      unfold inspectedPaths
      rw [List.map_cons]
      split
      · exact (List.prefix_cons_inj first.path).mpr ih
      · exact (List.prefix_cons_inj first.path).mpr List.nil_prefix

theorem inspectedPaths_complete {sys : System} {entries : List ConfigurationEntry}
    (shown : ∀ entry ∈ entries, sys.Shows entry.path entry.value) :
    inspectedPaths sys entries = entries.map ConfigurationEntry.path := by
  induction entries with
  | nil => rfl
  | cons first rest ih =>
      rw [List.forall_mem_cons] at shown
      unfold inspectedPaths
      rw [if_pos shown.1, List.map_cons, ih shown.2]

/-- Skipped entries might as well not be there. -/
theorem entriesMatch_filter (skip : Path → Bool) (entries : List ConfigurationEntry) :
    entriesMatch skip entries =
      entriesMatch (fun _ => false) (entries.filter fun entry => !skip entry.path) := by
  induction entries with
  | nil => rfl
  | cons first rest ih =>
      rw [List.filter_cons, entriesMatch, ih]
      cases skip first.path with
      | true => rfl
      | false => rfl

/-- The entries are compared one after the other, up to the first difference. -/
theorem Env.Solitary.entriesMatch_run {env : Env} (solitary : env.Solitary) (world : World)
    (entries : List ConfigurationEntry) :
    entriesMatch (fun _ => false) entries env world =
      (.ok (entries.all fun entry => world.sys.Shows entry.path entry.value),
        env.advanceAll world ((inspectedPaths world.sys entries).map .compare)) := by
  induction entries generalizing world with
  | nil => rfl
  | cons first rest ih =>
      have still := solitary.advance_sys world (show ReadsOnly (.compare first.path) from trivial)
      unfold entriesMatch inspectedPaths
      rw [if_neg Bool.false_ne_true,
        Exec.bind_run_ok (solitary.compare world first.path first.value), List.all_cons]
      by_cases shown : world.sys.Shows first.path first.value
      · rw [decide_eq_true shown, if_pos rfl, if_pos shown, ih, still]
        rfl
      · rw [decide_eq_false shown, if_neg Bool.false_ne_true, if_neg shown]
        rfl

/-! ## Subtrees -/

namespace ConfigurationFingerprint

variable {fingerprint : ConfigurationFingerprint} {root : Path} {ignored : List Path}

/-- The entries below a directory that are not ignored. -/
def below (fingerprint : ConfigurationFingerprint) (root : Path) (ignored : List Path) :
    List ConfigurationEntry :=
  fingerprint.entries.filter fun entry =>
    !containsPath ignored entry.path && root.isPrefixOf entry.path

/-- The entries outside of a directory that are not ignored. -/
def outside (fingerprint : ConfigurationFingerprint) (root : Path) (ignored : List Path) :
    List ConfigurationEntry :=
  fingerprint.entries.filter fun entry =>
    !(root.isPrefixOf entry.path || containsPath ignored entry.path)

theorem matchesCurrentUnderExcept_eq
    (sorted : (fingerprint.entries.map ConfigurationEntry.path).Pairwise (· < ·)) :
    fingerprint.matchesCurrentUnderExcept root ignored =
      entriesMatch (fun _ => false) (fingerprint.below root ignored) := by
  unfold matchesCurrentUnderExcept below
  dsimp only
  rw [extensions_range (sorted.imp le_of_lt), entriesMatch_filter, List.filter_filter]

theorem matchesCurrentOutsideExcept_eq :
    fingerprint.matchesCurrentOutsideExcept root ignored =
      entriesMatch (fun _ => false) (fingerprint.outside root ignored) :=
  entriesMatch_filter _ _

/-- What holds of the entries below a directory and of the others holds of all. -/
theorem all_partition (holds : ConfigurationEntry → Bool) :
    (fingerprint.entries.filter fun entry => !containsPath ignored entry.path).all holds =
      ((fingerprint.below root ignored).all holds && (fingerprint.outside root ignored).all holds) := by
  rw [Bool.eq_iff_iff, Bool.and_eq_true, List.all_eq_true, List.all_eq_true, List.all_eq_true]
  constructor
  · intro whole
    constructor
    · intro entry member
      obtain ⟨inside, kept⟩ := List.mem_filter.mp member
      exact whole entry (List.mem_filter.mpr ⟨inside, (Bool.and_eq_true_iff.mp kept).1⟩)
    · intro entry member
      obtain ⟨inside, kept⟩ := List.mem_filter.mp member
      rw [Bool.not_or, Bool.and_eq_true] at kept
      exact whole entry (List.mem_filter.mpr ⟨inside, kept.2⟩)
  · rintro ⟨under, apart⟩ entry member
    obtain ⟨inside, kept⟩ := List.mem_filter.mp member
    cases extension : root.isPrefixOf entry.path with
    | true => exact under entry (List.mem_filter.mpr ⟨inside, by rw [kept, extension]; rfl⟩)
    | false => exact apart entry (List.mem_filter.mpr ⟨inside, by rw [extension]; exact kept⟩)

theorem mem_below (ordered : ignored.Pairwise (· < ·)) {entry : ConfigurationEntry} :
    entry ∈ fingerprint.below root ignored ↔
      entry ∈ fingerprint.entries ∧ root <+: entry.path ∧ entry.path ∉ ignored := by
  unfold below
  rw [List.mem_filter, Bool.and_eq_true, Bool.not_eq_true', ← Bool.not_eq_true,
    containsPath_iff ordered, List.isPrefixOf_iff_prefix]
  tauto

end ConfigurationFingerprint

/-- A kdamond is verified by comparing the entries below it. -/
theorem StagedOwnership.verifyKdamondConfiguration_run {env : Env} (solitary : env.Solitary)
    (world : World) {staged : StagedOwnership}
    (sorted : (staged.configuration.entries.map ConfigurationEntry.path).Pairwise (· < ·))
    (index : Nat) :
    let entries := staged.configuration.fingerprint.below (DamonAdmin.kdamond index).path
      staged.volatilePaths
    staged.verifyKdamondConfiguration index env world =
      (if entries.all fun entry => world.sys.Shows entry.path entry.value then .ok ()
        else .error (.ownershipLost "the staged writable configuration changed"),
        env.advanceAll world ((inspectedPaths world.sys entries).map .compare)) := by
  intro entries
  have compared : staged.configuration.fingerprint.matchesCurrentUnderExcept
      (DamonAdmin.kdamond index).path staged.volatilePaths = entriesMatch (fun _ => false) entries :=
    ConfigurationFingerprint.matchesCurrentUnderExcept_eq sorted
  unfold verifyKdamondConfiguration requireOwned ConfigurationSnapshot.matchesCurrentUnderExcept
  rw [compared, Exec.bind_run_ok (solitary.entriesMatch_run world entries)]
  split <;> rfl

/-- Comparing everything is comparing what is below a directory and comparing the rest.  Verifying a
kdamond looks at the entries below its directory, up to the first one that has changed. -/
theorem ConfigurationFingerprint.subtrees_partition {fingerprint : ConfigurationFingerprint}
    (sorted : (fingerprint.entries.map ConfigurationEntry.path).Pairwise (· < ·)) (root : Path)
    {ignored : List Path} (ordered : ignored.Pairwise (· < ·)) {env : Env}
    (solitary : env.Solitary) (world : World) :
    (∃ inside outside : Bool,
      (fingerprint.matchesCurrentExcept ignored env world).1 = .ok (inside && outside) ∧
      (fingerprint.matchesCurrentUnderExcept root ignored env world).1 = .ok inside ∧
      (fingerprint.matchesCurrentOutsideExcept root ignored env world).1 = .ok outside) ∧
    ∀ (captured : Path) (count index : Nat) (outcome : Except Error Unit) (after : World),
      StagedOwnership.verifyKdamondConfiguration ⟨⟨captured, fingerprint⟩, ignored, count⟩ index env
        world = (outcome, after) →
      (outcome = .ok () ↔ ∀ entry ∈ fingerprint.entries,
        (DamonAdmin.kdamond index).path <+: entry.path → entry.path ∉ ignored →
          world.sys.Shows entry.path entry.value) ∧
      (∀ access ∈ World.accessesSince world after, ∃ entry ∈ fingerprint.entries,
        access = .compare entry.path ∧ (DamonAdmin.kdamond index).path <+: entry.path ∧
          entry.path ∉ ignored ∧
          ∀ other ≠ index, ¬(DamonAdmin.kdamond other).path <+: entry.path) ∧
      (outcome = .ok () → World.accessesSince world after =
        (fingerprint.entries.filter fun entry =>
          (DamonAdmin.kdamond index).path.isPrefixOf entry.path ∧ entry.path ∉ ignored).map
            fun entry => .compare entry.path) := by
  constructor
  · refine ⟨(fingerprint.below root ignored).all fun entry => world.sys.Shows entry.path entry.value,
      (fingerprint.outside root ignored).all fun entry => world.sys.Shows entry.path entry.value,
      ?_, ?_, ?_⟩
    · unfold matchesCurrentExcept
      rw [entriesMatch_filter, solitary.entriesMatch_run, all_partition]
    · rw [matchesCurrentUnderExcept_eq sorted, solitary.entriesMatch_run]
    · rw [matchesCurrentOutsideExcept_eq, solitary.entriesMatch_run]
  · intro captured count index outcome after run
    have verifies := @StagedOwnership.verifyKdamondConfiguration_run env solitary world
      ⟨⟨captured, fingerprint⟩, ignored, count⟩ sorted index
    dsimp only at verifies
    rw [verifies] at run
    obtain ⟨decides, rfl⟩ := Prod.ext_iff.mp run
    dsimp only at decides
    have accesses : World.accessesSince world (env.advanceAll world ((inspectedPaths world.sys
        (fingerprint.below (DamonAdmin.kdamond index).path ignored)).map .compare)) =
        (inspectedPaths world.sys
          (fingerprint.below (DamonAdmin.kdamond index).path ignored)).map .compare :=
      World.Advances.accessesSince_eq
    have shown : outcome = .ok () ↔
        ∀ entry ∈ fingerprint.below (DamonAdmin.kdamond index).path ignored,
          world.sys.Shows entry.path entry.value := by
      rw [← decides]
      split
      · rename_i all
        exact ⟨fun _ entry member => of_decide_eq_true (List.all_eq_true.mp all entry member),
          fun _ => rfl⟩
      · rename_i differs
        refine ⟨nofun, fun shown => absurd ?_ differs⟩
        exact List.all_eq_true.mpr fun entry member => decide_eq_true (shown entry member)
    rw [accesses]
    refine ⟨shown.trans ?_, ?_, ?_⟩
    · constructor
      · exact fun shows entry member inside kept => shows entry ((mem_below ordered).mpr
          ⟨member, inside, kept⟩)
      · intro shows entry member
        obtain ⟨member, inside, kept⟩ := (mem_below ordered).mp member
        exact shows entry member inside kept
    · intro access member
      obtain ⟨path, inspected, rfl⟩ := List.mem_map.mp member
      obtain ⟨entry, here, rfl⟩ := List.mem_map.mp ((inspectedPaths_leading _ _).subset inspected)
      obtain ⟨inside, extension, kept⟩ := (mem_below ordered).mp here
      refine ⟨entry, inside, rfl, extension, kept, fun other different also => ?_⟩
      obtain ⟨rest, same⟩ := extension
      obtain ⟨more, joined⟩ := also
      rw [← same] at joined
      simp only [DamonAdmin.kdamond, List.cons_append, List.nil_append, List.cons.injEq,
        true_and] at joined
      exact different (Path.indexName_injective joined.1)
    · intro ended
      rw [inspectedPaths_complete (shown.mp ended), List.map_map]
      unfold below
      congr 1
      refine List.filter_congr fun entry _ => ?_
      rw [Bool.eq_iff_iff, Bool.and_eq_true, Bool.not_eq_true', ← Bool.not_eq_true,
        containsPath_iff ordered, decide_eq_true_iff]
      tauto

namespace SubtreeFixture

/-- Three kdamonds whose names share a prefix. -/
def fingerprint : ConfigurationFingerprint :=
  ⟨[⟨["kdamonds", "1", "refresh_ms"], "0"⟩, ⟨["kdamonds", "10", "refresh_ms"], "0"⟩,
    ⟨["kdamonds", "11", "refresh_ms"], "0"⟩]⟩

/-- The second of them has changed. -/
def world : World := .initial (.settled (.ofAttributes
  [(["kdamonds", "1", "refresh_ms"], "0", true), (["kdamonds", "10", "refresh_ms"], "5", true),
    (["kdamonds", "11", "refresh_ms"], "0", true)]))

end SubtreeFixture

open SubtreeFixture in
theorem ConfigurationFingerprint.subtrees_partition_siblings :
    ∃ after, StagedOwnership.verifyKdamondConfiguration ⟨⟨[], fingerprint⟩, [], 12⟩ 1
        (.undisturbed .bare) world = (.ok (), after) ∧
      World.accessesSince world after = [.compare ["kdamonds", "1", "refresh_ms"]] := by
  have returns : (StagedOwnership.verifyKdamondConfiguration ⟨⟨[], fingerprint⟩, [], 12⟩ 1
      (.undisturbed .bare) world).1 = .ok () := by
    decide +kernel
  cases run : StagedOwnership.verifyKdamondConfiguration ⟨⟨[], fingerprint⟩, [], 12⟩ 1
      (.undisturbed .bare) world with
  | mk outcome after =>
    rw [run] at returns
    dsimp only at returns
    subst returns
    have sorted : (fingerprint.entries.map ConfigurationEntry.path).Pairwise (· < ·) := by
      decide +kernel
    have verified := (subtrees_partition sorted [] List.Pairwise.nil
      (Env.undisturbed_quiet .bare).solitary world).2 [] 12 1 (.ok ()) after run
    refine ⟨after, rfl, (verified.2.2 rfl).trans ?_⟩
    decide +kernel

end DamonRs
