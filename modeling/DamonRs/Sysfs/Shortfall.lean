import DamonRs.Sysfs.Restore

/-!
# Where a restoration falls short

A restoration leaves a leaf alone that holds its captured value to the last
byte.  When that value ends in a newline, the leaf reads as something shorter.
Which file a leaf is when its turn comes depends on the counts restored before
it, and on nothing else that is restored.
-/

namespace DamonRs

open Library Sysfs

namespace Files

/-- What the counts among restored entries make of the file at a path. -/
def rebuiltBy (kernel : Kernel) (path : Path) :
    List ConfigurationEntry → Option File → Option File
  | [], found => found
  | entry :: rest, found =>
      rebuiltBy kernel path rest
        (if Path.isReconstructionCount entry.path then
          written kernel entry.path entry.value found path
        else found)

/-- The captured value of a leaf ends in a newline, and the leaf holds nothing else when its turn
comes among restored entries. -/
def FallsShort (kernel : Kernel) (files : Files) (restored : List ConfigurationEntry)
    (entry : ConfigurationEntry) : Prop :=
  Path.isReconstructionCount entry.path = false ∧ entry.value.toList.getLast? = some '\n' ∧
    (rebuiltBy kernel entry.path restored (files.get? entry.path)).map
      (fun file => file.content.bytes) = some (Text.utf8Bytes entry.value)

instance (kernel : Kernel) (files : Files) (restored : List ConfigurationEntry)
    (entry : ConfigurationEntry) : Decidable (FallsShort kernel files restored entry) :=
  inferInstanceAs (Decidable (_ ∧ _ ∧ _))

end Files

/-- A captured leaf falls short when selected entries are restored. -/
def ConfigurationSnapshot.FallsShort (snapshot : ConfigurationSnapshot) (kernel : Kernel)
    (files : Files) (selected : List ConfigurationEntry) (entry : ConfigurationEntry) : Prop :=
  files.FallsShort kernel (snapshot.restorationOrder selected) entry

/-- The captured entries that a restoration of written paths restores. -/
def ConfigurationSnapshot.affectedEntries (snapshot : ConfigurationSnapshot) (writes : List Path) :
    List ConfigurationEntry :=
  snapshot.entries.filter fun entry => containsPath (snapshot.pathsAffectedByWrites writes) entry.path

instance (snapshot : ConfigurationSnapshot) (kernel : Kernel) (files : Files)
    (selected : List ConfigurationEntry) (entry : ConfigurationEntry) :
    Decidable (snapshot.FallsShort kernel files selected entry) :=
  inferInstanceAs (Decidable (Files.FallsShort _ _ _ _))

namespace Files

variable {kernel : Kernel} {path : Path}

/-- Entries at least as deep as a path leave its file alone. -/
theorem rebuiltBy_deep {entries : List ConfigurationEntry}
    (deep : ∀ entry ∈ entries, path.length ≤ entry.path.length ∧ path ≠ entry.path)
    (found : Option File) : rebuiltBy kernel path entries found = found := by
  induction entries generalizing found with
  | nil => rfl
  | cons entry rest ih =>
      obtain ⟨longer, different⟩ := deep entry (by simp)
      have spared : ¬(Path.isReconstructionCount entry.path &&
          (indexedChild? entry.path.dropLast path).isSome) = true := by
        rw [Bool.and_eq_true]
        rintro ⟨-, child⟩
        exact absurd (deeper_of_indexedChild child) (not_lt_of_ge longer)
      rw [rebuiltBy, ih fun other member => deep other (List.mem_cons_of_mem entry member)]
      split
      · unfold written
        rw [if_neg different]
        cases Text.parseUnsigned intBound entry.value with
        | none => rfl
        | some number => exact if_neg spared
      · rfl

end Files

/-- A text that shows a value reads as something else exactly when it is a value with a newline at
its end. -/
theorem Content.value_eq_iff {text : AttributeText} {value : String}
    (shows : (Content.text text).Shows value) :
    text.value = value ↔
      ¬(value.toList.getLast? = some '\n' ∧ (Content.text text).bytes = Text.utf8Bytes value) := by
  rw [← Content.value?_eq_iff shows, Content.value?_text, Option.some_inj]

/-! ## Restored entries -/

section Runs

variable {env : Env} {world after : World} {ignored : List Path} {entry : ConfigurationEntry}
  {path : Path}

/-- What an accepted write leaves. -/
theorem writeBytes_found (solitary : env.Solitary) {value : String}
    (configuration : Path.isRuntimeAttribute path = false)
    (run : writeBytes path value env world = (.ok (), after)) (other : Path) :
    world.sys.files.mode path = some true ∧
      after.sys.files.get? other =
        Files.written env.kernel path value (world.sys.files.get? other) other := by
  rcases writeBytes_cases path value env world with ⟨error, failed, -⟩ | ⟨done, written⟩
  · rw [failed] at run
    cases run
  · rw [done] at run
    cases run
    rw [solitary.still,
      System.write_ordinary (System.kdamondOfState?_of_configuration configuration)] at written
    cases stored : world.sys.files.write env.kernel path value with
    | error errno =>
        rw [stored] at written
        cases written
    | ok files =>
        rw [stored] at written
        have same : (env.advance world (.write path value)).sys.files = files :=
          (congrArg System.files (Except.ok.inj written)).symm
        refine ⟨(Files.write_requires stored).1, ?_⟩
        show (env.advance world (.write path value)).sys.files.get? other = _
        rw [same]
        exact Files.write_get? stored other

/-- A leaf that is written keeps other files. -/
theorem Files.written_leaf {kernel : Kernel} {value : String} {found : Option File} {other : Path}
    (leaf : Path.isReconstructionCount path = false) (different : other ≠ path) :
    Files.written kernel path value found other = found := by
  unfold Files.written
  rw [if_neg different]
  cases Text.parseUnsigned intBound value with
  | none => rfl
  | some number =>
      dsimp only
      rw [leaf, Bool.false_and, if_neg Bool.false_ne_true]

/-- An entry that has been restored is written but for a leaf that shows its value, and a count
rebuilds its children. -/
theorem restoreEntry_found (solitary : env.Solitary)
    (configuration : Path.isRuntimeAttribute entry.path = false)
    (heeded : Path.isReconstructionCount entry.path = true → containsPath ignored entry.path = false)
    (run : restoreEntry ignored entry env world = (.ok (), after)) :
    (∀ other, other ≠ entry.path → after.sys.files.get? other =
      if Path.isReconstructionCount entry.path then
        Files.written env.kernel entry.path entry.value (world.sys.files.get? other) other
      else world.sys.files.get? other) ∧
    (containsPath ignored entry.path = false → Path.isReconstructionCount entry.path = false →
      ∃ file, world.sys.files.get? entry.path = some file ∧ after.sys.files.get? entry.path =
        if file.content.Shows entry.value then some file
        else some ⟨.text (.ofWritten entry.value), true⟩) := by
  unfold restoreEntry at run
  by_cases skipped : containsPath ignored entry.path = true
  · rw [if_pos skipped] at run
    cases run
    refine ⟨fun other _ => ?_, fun compared => ?_⟩
    · rw [if_neg fun isCount => by rw [heeded isCount] at skipped; cases skipped]
    · rw [skipped] at compared
      cases compared
  rw [if_neg skipped] at run
  cases kind : Path.isReconstructionCount entry.path with
  | true =>
      rw [kind, if_pos rfl] at run
      refine ⟨fun other _ => ?_, fun _ leaf => by cases leaf⟩
      rw [if_pos rfl]
      exact (writeBytes_found solitary configuration run other).2
  | false =>
      rw [kind, if_neg Bool.false_ne_true] at run
      simp only [if_neg Bool.false_ne_true]
      obtain ⟨equal, middle, compared, rest⟩ := Exec.bind_eq_ok run
      obtain ⟨rfl, -⟩ := readConfigurationValueEquals_ok compared
      have still : (env.advance world (.compare entry.path)).sys = world.sys :=
        solitary.advance_sys world trivial
      rw [solitary.compare] at compared
      obtain rfl := Except.ok.inj (Prod.ext_iff.mp compared).1
      cases found : world.sys.files.get? entry.path with
      | none =>
          have absent : ¬world.sys.Shows entry.path entry.value := by
            rintro ⟨file, there, -⟩
            rw [found] at there
            cases there
          rw [decide_eq_false absent, if_neg Bool.false_ne_true] at rest
          have present := (writeBytes_found solitary configuration rest entry.path).1
          rw [still, Files.mode, found] at present
          cases present
      | some file =>
          rw [decide_eq_decide.mpr (System.shows_of_found found entry.value)] at rest
          by_cases shown : file.content.Shows entry.value
          · rw [decide_eq_true shown, if_pos rfl] at rest
            cases rest
            refine ⟨fun other _ => by rw [still], fun _ _ => ⟨file, rfl, ?_⟩⟩
            rw [still, found, if_pos shown]
          · rw [decide_eq_false shown, if_neg Bool.false_ne_true] at rest
            have wrote := writeBytes_found solitary configuration rest
            rw [still] at wrote
            refine ⟨fun other different => ?_, fun _ _ => ⟨file, rfl, ?_⟩⟩
            · rw [(wrote other).2, Files.written_leaf kind different]
            · obtain ⟨present, stored⟩ := wrote entry.path
              rw [Files.mode, found, Option.map_some] at present
              have writable : file.writable = true := Option.some.inj present
              rw [if_neg shown, stored, Files.written, if_pos rfl, found]
              cases Text.parseUnsigned intBound entry.value <;> simp [kind, writable]

/-- A leaf that has been restored among others is what the counts before it have made of it, unless
that does not show its value. -/
theorem restoreEntries_found (solitary : env.Solitary) {entries : List ConfigurationEntry}
    (ordered : entries.Pairwise fun first second =>
      first.path.length ≤ second.path.length ∧ first.path ≠ second.path)
    (configuration : ∀ entry ∈ entries, Path.isRuntimeAttribute entry.path = false)
    (leaves : ∀ path, containsPath ignored path = true → Path.isReconstructionCount path = false)
    (run : Exec.forEach (restoreEntry ignored) entries env world = (.ok (), after)) :
    (∀ path, (∀ entry ∈ entries, path ≠ entry.path) → after.sys.files.get? path =
      Files.rebuiltBy env.kernel path entries (world.sys.files.get? path)) ∧
    ∀ entry ∈ entries, containsPath ignored entry.path = false →
      Path.isReconstructionCount entry.path = false → ∃ file,
        Files.rebuiltBy env.kernel entry.path entries (world.sys.files.get? entry.path) =
            some file ∧
          after.sys.files.get? entry.path =
            if file.content.Shows entry.value then some file
            else some ⟨.text (.ofWritten entry.value), true⟩ := by
  induction entries generalizing world with
  | nil =>
      cases run
      exact ⟨fun path _ => rfl, fun entry member => by cases member⟩
  | cons entry rest ih =>
      obtain ⟨_, middle, here, others⟩ := Exec.bind_eq_ok run
      obtain ⟨deeper, tail⟩ := List.pairwise_cons.mp ordered
      have heeded : Path.isReconstructionCount entry.path = true →
          containsPath ignored entry.path = false := by
        intro isCount
        by_contra skipped
        rw [Bool.not_eq_false] at skipped
        rw [leaves _ skipped] at isCount
        cases isCount
      obtain ⟨kept, shown⟩ :=
        restoreEntry_found solitary (configuration entry (by simp)) heeded here
      obtain ⟨left, restored⟩ :=
        ih tail (fun other member => configuration other (List.mem_cons_of_mem entry member)) others
      constructor
      · intro path outside
        rw [left path fun other member => outside other (List.mem_cons_of_mem entry member),
          kept path (outside entry (by simp))]
        rfl
      · intro other member compared leaf
        rcases List.mem_cons.mp member with rfl | inRest
        · -- Nothing that is restored later touches the leaf.
          obtain ⟨file, found, ended⟩ := shown compared leaf
          have later : ∀ next ∈ rest, other.path.length ≤ next.path.length ∧
              other.path ≠ next.path := deeper
          refine ⟨file, ?_, ?_⟩
          · rw [Files.rebuiltBy, leaf, if_neg Bool.false_ne_true, Files.rebuiltBy_deep later, found]
          · rw [left other.path fun next member => (later next member).2,
              Files.rebuiltBy_deep later, ended]
        · obtain ⟨file, found, ended⟩ := restored other inRest compared leaf
          refine ⟨file, ?_, ended⟩
          rw [← found, kept other.path (deeper other inRest).2.symm]
          rfl

/-- After a restoration a leaf that shows its value reads as captured exactly when it does not fall
short, whether it was among the restored entries or not. -/
theorem restoreEntries_value (solitary : env.Solitary) {entries : List ConfigurationEntry}
    (ordered : entries.Pairwise fun first second =>
      first.path.length ≤ second.path.length ∧ first.path ≠ second.path)
    (configuration : ∀ entry ∈ entries, Path.isRuntimeAttribute entry.path = false)
    (leaves : ∀ path, containsPath ignored path = true → Path.isReconstructionCount path = false)
    (run : Exec.forEach (restoreEntry ignored) entries env world = (.ok (), after))
    (once : ∀ other ∈ entries, other.path = entry.path → other = entry)
    (heeded : entry ∈ entries → containsPath ignored entry.path = false)
    (counted : Path.isReconstructionCount entry.path = true →
      entry.value.toList.getLast? ≠ some '\n')
    {text : AttributeText} {writable : Bool}
    (found : after.sys.files.get? entry.path = some ⟨.text text, writable⟩)
    (shows : (Content.text text).Shows entry.value) :
    text.value = entry.value ↔ ¬world.sys.files.FallsShort env.kernel entries entry := by
  cases kind : Path.isReconstructionCount entry.path with
  | true =>
      refine iff_of_true ((Content.shows_text (counted kind)).mp shows) ?_
      rintro ⟨leaf, -⟩
      rw [kind] at leaf
      cases leaf
  | false =>
      obtain ⟨left, restored⟩ :=
        restoreEntries_found solitary ordered configuration leaves run
      unfold Files.FallsShort
      by_cases member : entry ∈ entries
      swap
      · have turn := left entry.path fun other inside same =>
          member (once other inside same.symm ▸ inside)
        rw [← turn, found, Option.map_some, Option.some_inj, Content.value_eq_iff shows]
        tauto
      obtain ⟨file, turn, ended⟩ := restored entry member (heeded member) kind
      rw [found] at ended
      rw [turn, Option.map_some, Option.some_inj]
      by_cases shown : file.content.Shows entry.value
      · rw [if_pos shown] at ended
        obtain rfl := Option.some.inj ended
        rw [Content.value_eq_iff shows]
        tauto
      · rw [if_neg shown] at ended
        cases ended
        refine iff_of_true (AttributeText.ofWritten_value _) ?_
        rintro ⟨-, -, same⟩
        exact shown (.inl same)

end Runs

/-! ## Restoring a snapshot -/

/-- A captured count is a number, so that its value ends in no newline. -/
theorem Files.NumberedBy.single {kernel : Kernel} {source : Files}
    (numbered : source.NumberedBy kernel) {entry : ConfigurationEntry}
    (member : entry ∈ source.captured.entries)
    (isCount : Path.isReconstructionCount entry.path = true) :
    entry.value.toList.getLast? ≠ some '\n' := by
  obtain ⟨path, configures, rfl⟩ := Files.exists_of_captured member
  obtain ⟨text, number, found, parsed, -⟩ := numbered.counted path ⟨isCount, configures⟩
  rw [Files.shownValue, found]
  exact Text.parseUnsigned_single parsed

/-- Once selected entries are restored, captured values that are shown are read but for those that
fall short. -/
theorem ConfigurationSnapshot.restored_value {kernel : Kernel} {env : Env} {source : Files}
    {target restored : World} {selected : List ConfigurationEntry} {ignored : List Path}
    (solitary : env.Solitary) (numbered : source.NumberedBy kernel)
    (part : selected.Sublist source.captured.entries)
    (leaves : ∀ path, containsPath ignored path = true → Path.isReconstructionCount path = false)
    (run : Exec.forEach (restoreEntry ignored)
      (restorationOrder ⟨[], source.captured⟩ selected) env target = (.ok (), restored))
    {entry : ConfigurationEntry} (member : entry ∈ source.captured.entries)
    (heeded : entry ∈ selected → containsPath ignored entry.path = false) {text : AttributeText}
    {writable : Bool} (found : restored.sys.files.get? entry.path = some ⟨.text text, writable⟩)
    (shows : (Content.text text).Shows entry.value) :
    text.value = entry.value ↔
      ¬FallsShort ⟨[], source.captured⟩ env.kernel target.sys.files selected entry := by
  have among : ∀ {other}, other ∈ restorationOrder ⟨[], source.captured⟩ selected →
      other ∈ selected := fun inside => (List.perm_insertionSort _ _).mem_iff.mp inside
  refine restoreEntries_value solitary (restorationOrder_ordered part) (fun other inside => ?_)
    leaves run (fun other inside same => ?_) (fun inside => heeded (among inside))
    (numbered.single member) found shows
  · obtain ⟨path, configures, rfl⟩ := Files.exists_of_captured (part.subset (among inside))
    exact configures.2.1
  · obtain ⟨path, -, rfl⟩ := List.mem_map.mp (part.subset (among inside))
    obtain ⟨path, -, rfl⟩ := List.mem_map.mp member
    obtain rfl : _ = path := same
    rfl

/-- A captured hierarchy is restored from any other one of its kernel: every access of the
restoration finds its path, and a capture taken afterwards returns the same snapshot exactly when no
captured leaf falls short. -/
theorem restore_fromAnyHierarchy {kernel : Kernel} {first env : Env} {source captured target : World}
    {snapshot : ConfigurationSnapshot} (before : first.Quiet kernel) (quiet : env.Quiet kernel)
    (capture : DamonAdmin.configurationSnapshot first source = (.ok snapshot, captured))
    (numbered : source.sys.files.NumberedBy kernel)
    (fixed : source.sys.files.SameFixed target.sys.files) (genuine : target.sys.files.Genuine) :
    ∃ restored, snapshot.restore env target = (.ok (), restored) ∧
      World.Finds env target restored ∧
      ((∃ recaptured, DamonAdmin.configurationSnapshot env restored = (.ok snapshot, recaptured)) ↔
        ∀ entry ∈ snapshot.entries,
          ¬snapshot.FallsShort kernel target.sys.files snapshot.entries entry) := by
  obtain ⟨fingerprint, after, captures, made⟩ := Exec.bind_eq_ok capture
  cases made
  have readable := captureConfiguration_readable before.solitary captures
  obtain ⟨again, observed, -⟩ := captureConfiguration_observes before.solitary readable source rfl
  rw [observed] at captures
  cases captures
  obtain ⟨done, middle, restored, ran, finds, all, complete, entries, same⟩ :=
    ConfigurationSnapshot.restore_quiet (quiet.since _) numbered readable fixed genuine
  obtain ⟨recaptured, last, -⟩ :=
    captureConfiguration_observes quiet.solitary (all.readable complete) restored rfl
  refine ⟨restored, ran, finds, ?_⟩
  have recaptures : (∃ recaptured, DamonAdmin.configurationSnapshot env restored =
      (.ok ⟨[], source.sys.files.captured⟩, recaptured)) ↔
        restored.sys.files.captured = source.sys.files.captured := by
    have ends : DamonAdmin.configurationSnapshot env restored =
        (.ok ⟨[], restored.sys.files.captured⟩, recaptured) := Exec.bind_run_ok last _
    rw [ends]
    simp
  rw [recaptures, Files.captured_iff fun path =>
    Files.configures_of_mode (all.modes complete path)]
  refine forall₂_congr fun entry member => ?_
  obtain ⟨path, configures, rfl⟩ := Files.exists_of_captured member
  obtain ⟨text, found, shows⟩ := all.shows complete configures
  have value := ConfigurationSnapshot.restored_value quiet.solitary numbered
    (List.Sublist.refl _) (fun _ skipped => by cases skipped) entries member (fun _ => rfl)
    (same ▸ found) shows
  rw [quiet.kernel] at value
  refine Iff.trans ?_ value
  rw [Files.shownValue, found]

open RestoreFixture in
/-- A kdamond with its context is restored where there was none, and a label that ends in a newline
where there was another one. -/
theorem restore_fromAnyHierarchy_empty :
    ∃ snapshot restored recaptured,
      (DamonAdmin.configurationSnapshot (.undisturbed kernel) source).1 = .ok snapshot ∧
      snapshot.restore (.undisturbed kernel) (target "b") = (.ok (), restored) ∧
      World.Finds (.undisturbed kernel) (target "b") restored ∧
      DamonAdmin.configurationSnapshot (.undisturbed kernel) restored =
        (.ok snapshot, recaptured) := by
  have returns : (DamonAdmin.configurationSnapshot (.undisturbed kernel) source).1.toBool = true := by
    decide +kernel
  have whole : (DamonAdmin.configurationSnapshot (.undisturbed kernel) source).1.toOption.all
      (fun snapshot => ∀ entry ∈ snapshot.entries, ¬snapshot.FallsShort kernel
        (target "b").sys.files snapshot.entries entry) = true := by
    decide +kernel
  cases run : DamonAdmin.configurationSnapshot (.undisturbed kernel) source with
  | mk outcome captured =>
      rw [run] at returns whole
      cases outcome with
      | error error => cases returns
      | ok snapshot =>
          have numbered : source.sys.files.NumberedBy kernel :=
            Files.numberedBy_of_check (by decide +kernel)
          have fixed : source.sys.files.SameFixed (target "b").sys.files :=
            Files.sameFixed_of_check (by decide +kernel)
          have genuine : (target "b").sys.files.Genuine := Files.genuine_ofAttributes _
          obtain ⟨restored, ran, finds, again⟩ :=
            restore_fromAnyHierarchy (Env.undisturbed_quiet kernel) (Env.undisturbed_quiet kernel)
              run numbered fixed genuine
          obtain ⟨recaptured, same⟩ := again.mpr (of_decide_eq_true whole)
          exact ⟨snapshot, restored, recaptured, rfl, ran, finds, same⟩

open RestoreFixture in
/-- A label that was captured with two newlines, and of which one is there, stays without the other:
the restoration succeeds, and a capture returns another snapshot. -/
theorem restore_withoutNewline :
    ∃ snapshot restored other,
      (DamonAdmin.configurationSnapshot (.undisturbed kernel) source).1 = .ok snapshot ∧
      snapshot.restore (.undisturbed kernel) (target "a") = (.ok (), restored) ∧
      (DamonAdmin.configurationSnapshot (.undisturbed kernel) restored).1 = .ok other ∧
      other ≠ snapshot := by
  let snapshot (label : String) : ConfigurationSnapshot :=
    ⟨[], ⟨[⟨["kdamonds", "0", "contexts", "0", "operations"], "paddr"⟩,
      ⟨["kdamonds", "0", "contexts", "0", "targets", "nr_targets"], "0"⟩,
      ⟨["kdamonds", "0", "contexts", "nr_contexts"], "1"⟩,
      ⟨["kdamonds", "nr_kdamonds"], "1"⟩, ⟨["label"], label⟩]⟩⟩
  have captures : (DamonAdmin.configurationSnapshot (.undisturbed kernel) source).1 =
      .ok (snapshot "a\n") := by
    decide +kernel
  have succeeds : ((snapshot "a\n").restore (.undisturbed kernel) (target "a")).1 = .ok () := by
    decide +kernel
  have recaptures : (DamonAdmin.configurationSnapshot (.undisturbed kernel)
      ((snapshot "a\n").restore (.undisturbed kernel) (target "a")).2).1 = .ok (snapshot "a") := by
    decide +kernel
  cases ended : (snapshot "a\n").restore (.undisturbed kernel) (target "a") with
  | mk outcome restored =>
      rw [ended] at succeeds recaptures
      obtain rfl : outcome = .ok () := succeeds
      exact ⟨snapshot "a\n", restored, snapshot "a", captures, ended, recaptures, by decide⟩

end DamonRs
