import DamonRs.Sysfs.Moments
import DamonRs.Sysfs.Frame
import DamonRs.Sysfs.TypedReader
import DamonRs.Sysfs.ConfinedReading
import DamonRs.Sysfs.Fixture

/-!
# Consistent observations

An observation walks the hierarchy, reads what it found, and walks and reads
again.  Where no path returns to a value it had before, two equal captures pin
down every path in between: at every moment between them the hierarchy shows
what was captured, and nothing else.
-/

namespace DamonRs

open Library Sysfs

/-- What an attribute shows, whatever ends it. -/
def File.shown (file : File) : String ⊕ List UInt8 :=
  match file.content with
  | .text text => .inl text.value
  | .undecodable bytes => .inr bytes

namespace Moment

/-- The file at a path at a moment. -/
def file? (moment : Moment) (path : Path) : Option File := moment.system.files.get? path

end Moment

/-- No path returns to a value, or to presence or absence, that it had earlier: where it shows the
same at two moments, nobody has touched it in between. -/
structure Unrepeated (history : List Moment) : Prop where
  values : ∀ first middle last : Moment, [first, middle, last].Sublist history → ∀ path,
    (first.file? path).map File.shown = (last.file? path).map File.shown →
      middle.file? path = first.file? path
  presence : ∀ first middle last : Moment, [first, middle, last].Sublist history → ∀ path,
    (first.file? path).isSome = true → (last.file? path).isSome = true →
      (middle.file? path).isSome = true

/-- The kernel decides once and for all whether an attribute is writable. -/
def FixedModes (history : List Moment) : Prop :=
  ∀ first ∈ history, ∀ last ∈ history, ∀ path one two,
    first.file? path = some one → last.file? path = some two → one.writable = two.writable

/-! ## What a run sees -/

/-- No access that reads fails on its way. -/
def Env.Reliable (env : Env) : Prop :=
  ∀ clock access, ReadsOnly access → env.fault clock access = none

section Runs

variable {env : Env} {world after : World}

theorem Env.Reliable.serve (reliable : env.Reliable) {access : Access} (reads : ReadsOnly access) :
    env.serve world access =
      env.respond world.clock (env.interfere world.clock world.sys) access := by
  unfold Env.serve
  rw [reliable _ _ reads]

/-- An inspection observes the files of its moment. -/
theorem inspect_run (reliable : env.Reliable) {α : Type} (path : Path) (observe : Files → α) :
    inspect path observe env world =
      (.ok (.ok (observe (env.moment world (.inspect path)).system.files)),
        env.advance world (.inspect path)) := by
  unfold inspect
  rw [Exec.bind_run, perform_run]
  have served : (env.serve world (.inspect path)).1 = .done := by
    rw [reliable.serve (show ReadsOnly (.inspect path) from trivial)]
    rfl
  have seen : (env.advance world (.inspect path)).sys =
      (env.moment world (.inspect path)).system := env.advance_sys world trivial
  simp only [served]
  rw [Exec.bind_run, Exec.get_run]
  simp only [seen]
  rfl

theorem mapEach_advances {α β : Type} {body : α → Sysfs β} {items : List α} {values : List β}
    (advances : ∀ item, Exec.Moves World.Advances (body item))
    (run : Exec.mapEach body items env world = (.ok values, after)) :
    World.Advances env world after := by
  have moves := Exec.moves_mapEach (fun _ => .refl) (fun _ _ _ _ => .trans) items
    (fun item _ => advances item) env world
  rwa [run] at moves

/-- A part of a loop: its run for one item, all of whose moments are moments of the whole. -/
def PartOf {α β : Type} (body : α → Sysfs β) (env : Env) (world after : World) (item : α)
    (value : β) : Prop :=
  ∃ start done, body item env start = (.ok value, done) ∧
    World.history env start done ⊆ World.history env world after

/-- Every item has its part in a loop, and every value comes from one. -/
theorem mapEach_parts {α β : Type} {body : α → Sysfs β} {items : List α} {values : List β}
    (advances : ∀ item, Exec.Moves World.Advances (body item))
    (run : Exec.mapEach body items env world = (.ok values, after)) :
    (∀ item ∈ items, ∃ value ∈ values, PartOf body env world after item value) ∧
      ∀ value ∈ values, ∃ item ∈ items, PartOf body env world after item value := by
  induction items generalizing world values with
  | nil =>
      cases run
      simp
  | cons item rest ih =>
      obtain ⟨value, middle, here, others⟩ := Exec.bind_eq_ok run
      obtain ⟨found, last, mapped, made⟩ := Exec.bind_eq_ok others
      cases made
      have one : World.Advances env world middle := by
        have moves := advances item env world
        rwa [here] at moves
      have whole := one.history_append (mapEach_advances advances mapped)
      have first : PartOf body env world after item value := by
        refine ⟨world, middle, here, ?_⟩
        rw [whole]
        exact List.subset_append_left _ _
      have later : ∀ {item value}, PartOf body env middle after item value →
          PartOf body env world after item value := by
        rintro item value ⟨start, done, ran, inside⟩
        refine ⟨start, done, ran, ?_⟩
        rw [whole]
        exact List.Subset.trans inside (List.subset_append_right _ _)
      obtain ⟨items, values⟩ := ih mapped
      constructor
      · intro other member
        rcases List.mem_cons.mp member with rfl | inRest
        · exact ⟨value, List.mem_cons_self .., first⟩
        · obtain ⟨result, among, part⟩ := items other inRest
          exact ⟨result, List.mem_cons_of_mem value among, later part⟩
      · intro result member
        rcases List.mem_cons.mp member with rfl | inRest
        · exact ⟨item, List.mem_cons_self .., first⟩
        · obtain ⟨other, among, part⟩ := values result inRest
          exact ⟨other, List.mem_cons_of_mem item among, later part⟩

/-- A listing is made from the files of its moment. -/
theorem readDir_ok (reliable : env.Reliable) {path : Path} {entries : List (String × Bool)}
    (run : readDir path env world = (.ok (.ok entries), after)) :
    after = env.advance world (.inspect path) ∧
      entries = (env.moment world (.inspect path)).system.files.entries path := by
  unfold readDir at run
  rw [Exec.bind_run, inspect_run reliable] at run
  dsimp only at run
  cases listed : (env.moment world (.inspect path)).system.files.list? path with
  | none =>
      rw [listed] at run
      cases run
  | some found =>
      rw [listed] at run
      cases run
      refine ⟨rfl, ?_⟩
      unfold Files.list? at listed
      split at listed
      · exact (Option.some.inj listed).symm
      · cases listed

theorem Files.mem_paths {files : Files} {path : Path} :
    path ∈ files.paths ↔ (files.get? path).isSome = true :=
  (Store.get?_isSome files.store path).symm

theorem Files.mem_entries_file {files : Files} {directory : Path} {name : String} :
    (name, false) ∈ files.entries directory ↔
      (files.get? (directory ++ [name])).isSome = true := by
  unfold Files.entries
  rw [List.mem_dedup, List.mem_filterMap, ← Files.mem_paths]
  constructor
  · rintro ⟨path, member, same⟩
    cases stripped : stripPrefix? directory path with
    | none =>
        rw [stripped] at same
        cases same
    | some relative =>
        rw [stripped] at same
        have whole := stripPrefix?_eq_some.mp stripped
        rcases relative with _ | ⟨first, _ | ⟨second, rest⟩⟩
        · cases same
        · cases same
          exact whole ▸ member
        · cases same
  · intro member
    exact ⟨directory ++ [name], member, by rw [stripPrefix?_append]⟩

theorem Files.mem_entries_directory {files : Files} {directory : Path} {name next : String}
    {rest : Path} (present : (files.get? (directory ++ name :: next :: rest)).isSome = true) :
    (name, true) ∈ files.entries directory := by
  unfold Files.entries
  rw [List.mem_dedup, List.mem_filterMap]
  exact ⟨_, Files.mem_paths.mpr present, by rw [stripPrefix?_append]⟩

/-- A walk lists what is there at every moment of it, and only what is there at some moment. -/
theorem walkFiles_run (reliable : env.Reliable) {budget : Nat} {directory : Path}
    {paths : List Path} (run : walkFiles budget directory env world = (.ok paths, after)) :
    (∀ path ∈ paths, ∃ moment ∈ World.history env world after,
      (moment.file? path).isSome = true) ∧
    ∀ name rest, directory ++ name :: rest ∈ paths ∨
      ∃ moment ∈ World.history env world after,
        moment.file? (directory ++ name :: rest) = none := by
  induction budget generalizing directory paths world after with
  | zero => cases run
  | succ budget ih =>
      let listing := env.moment world (.inspect directory)
      obtain ⟨listed, middle, read, rest⟩ := Exec.bind_eq_ok run
      cases listed with
      | error fault => cases rest
      | ok listedEntries =>
          obtain ⟨rfl, shown⟩ := readDir_ok reliable read
          obtain ⟨inner, last, mapped, made⟩ := Exec.bind_eq_ok rest
          cases made
          have first : World.Advances env world (env.advance world (.inspect directory)) :=
            .advance world _
          have bodies : ∀ path, Exec.Moves World.Advances (walkFiles budget path) := by
            intro path
            have anything : Confined (fun _ => True) (walkFiles budget path) :=
              walkFiles_confined budget path
            exact anything.advances
          have second := mapEach_advances bodies mapped
          have whole := first.history_append second
          rw [World.history_advance] at whole
          have here : listing ∈ World.history env world after := by
            rw [whole]
            exact List.mem_append_left _ (List.mem_singleton_self listing)
          obtain ⟨items, groups⟩ := mapEach_parts bodies mapped
          have inside : World.history env (env.advance world (.inspect directory)) after ⊆
              World.history env world after := by
            rw [whole]
            exact List.subset_append_right _ _
          constructor
          · intro path member
            rcases List.mem_append.mp member with direct | nested
            · obtain ⟨⟨name, isDirectory⟩, listed, named⟩ := List.mem_filterMap.mp direct
              cases isDirectory with
              | true => cases named
              | false =>
                  cases named
                  exact ⟨listing, here, Files.mem_entries_file.mp (shown ▸ listed)⟩
            · obtain ⟨group, groupMember, inGroup⟩ := List.mem_flatten.mp nested
              obtain ⟨child, _, start, done, ran, part⟩ := groups group groupMember
              obtain ⟨moment, during, present⟩ := (ih ran).1 path inGroup
              exact ⟨moment, inside (part during), present⟩
          · intro name rest
            by_cases present : (listing.file? (directory ++ name :: rest)).isSome = true
            · cases rest with
              | nil =>
                  left
                  refine List.mem_append_left _ (List.mem_filterMap.mpr ⟨(name, false), ?_, rfl⟩)
                  rw [shown]
                  exact Files.mem_entries_file.mpr present
              | cons next tail =>
                  have listed : (name, true) ∈ listedEntries := by
                    rw [shown]
                    exact Files.mem_entries_directory present
                  obtain ⟨group, groupMember, start, done, ran, part⟩ :=
                    items _ (List.mem_reverse.mpr
                      (List.mem_filterMap.mpr ⟨(name, true), listed, rfl⟩))
                  rcases (ih ran).2 next tail with walked | ⟨moment, during, absent⟩
                  · left
                    refine List.mem_append_right _ (List.mem_flatten.mpr ⟨group, groupMember, ?_⟩)
                    simpa using walked
                  · exact .inr ⟨moment, inside (part during), by simpa using absent⟩
            · right
              refine ⟨listing, here, ?_⟩
              simpa using present

/-- A named path that is not writable names a file. -/
theorem Files.writable?_false {files : Files} {path : Path}
    (found : files.writable? path = some false) :
    ∃ file, files.get? path = some file ∧ file.writable = false := by
  unfold Files.writable? at found
  cases hit : files.get? path with
  | some file =>
      rw [hit] at found
      exact ⟨file, rfl, Option.some.inj found⟩
  | none =>
      rw [hit] at found
      dsimp only at found
      split at found <;> simp at found

theorem pathIsWritable_ok (reliable : env.Reliable) {path : Path} {writable : Bool}
    (run : pathIsWritable path env world = (.ok writable, after)) :
    after = env.advance world (.inspect path) ∧
      (env.moment world (.inspect path)).system.files.writable? path = some writable := by
  unfold pathIsWritable at run
  rw [Exec.bind_run, inspect_run reliable] at run
  dsimp only at run
  cases found : (env.moment world (.inspect path)).system.files.writable? path with
  | none =>
      rw [found] at run
      cases run
  | some known =>
      rw [found] at run
      cases run
      exact ⟨rfl, rfl⟩

/-- What is read of an entry is the value that its attribute has at that moment. -/
theorem readConfigurationEntry_run {path : Path} {entry : ConfigurationEntry}
    (run : readConfigurationEntry path env world = (.ok entry, after)) :
    after = env.advance world (.read path) ∧ entry.path = path ∧ ∃ text writable,
      (env.moment world (.read path)).file? path = some ⟨.text text, writable⟩ ∧
        text.value = entry.value := by
  obtain ⟨value, middle, read, made⟩ := Exec.bind_eq_ok run
  obtain ⟨raw, last, readRaw, stripped⟩ := Exec.bind_eq_ok read
  obtain ⟨rfl, text, replied, rfl⟩ := readText_ok readRaw
  cases stripped
  cases made
  obtain ⟨⟨content, writable⟩, hit, same⟩ := Env.advance_content (.inl rfl) replied
  obtain rfl : content = .text text := same
  have seen : (env.advance world (.read path)).sys = (env.moment world (.read path)).system :=
    env.advance_sys world trivial
  rw [seen] at hit
  exact ⟨rfl, rfl, text, writable, hit, rfl⟩

/-- What a capture saw: its walk, its inspections and its reads, one after the other. -/
structure Captures (entries : List ConfigurationEntry) (walk inspections reads : List Moment) :
    Prop where
  below : ∀ entry ∈ entries, entry.path ≠ [] ∧ Path.isRuntimeAttribute entry.path = false
  walked : ∀ entry ∈ entries, ∃ moment ∈ walk, (moment.file? entry.path).isSome = true
  inspected : ∀ entry ∈ entries, ∃ moment ∈ inspections,
    moment.system.files.writable? entry.path = some true
  read : ∀ entry ∈ entries, ∃ moment ∈ reads, ∃ text writable,
    moment.file? entry.path = some ⟨.text text, writable⟩ ∧ text.value = entry.value
  missing : ∀ path, path ≠ [] → Path.isRuntimeAttribute path = false →
    (∃ entry ∈ entries, entry.path = path) ∨
    (∃ moment ∈ walk, moment.file? path = none) ∨
    ∃ moment ∈ inspections, ∃ file, moment.file? path = some file ∧ file.writable = false

/-- Where a kept path was inspected. -/
theorem configurationFile?_part {path : Path} {kept : Option Path} (reliable : env.Reliable)
    (part : PartOf (configurationFile? []) env world after path kept) :
    (Path.isRuntimeAttribute path = true ∧ kept = none) ∨
      (Path.isRuntimeAttribute path = false ∧ ∃ moment ∈ World.history env world after,
        ∃ writable, moment.system.files.writable? path = some writable ∧
          kept = if writable then some path else none) := by
  obtain ⟨start, done, run, inside⟩ := part
  unfold configurationFile? at run
  rw [show stripPrefix? [] path = some path from rfl] at run
  dsimp only at run
  by_cases runtime : Path.isRuntimeAttribute path = true
  · rw [if_pos runtime] at run
    cases run
    exact .inl ⟨runtime, rfl⟩
  · rw [if_neg runtime] at run
    obtain ⟨writable, middle, inspected, made⟩ := Exec.bind_eq_ok run
    cases made
    obtain ⟨rfl, found⟩ := pathIsWritable_ok reliable inspected
    refine .inr ⟨Bool.eq_false_iff.mpr runtime, env.moment start (.inspect path), ?_, writable,
      found, rfl⟩
    rw [World.history_advance] at inside
    exact inside (List.mem_singleton_self _)

theorem captureConfiguration_run (reliable : env.Reliable) {fingerprint : ConfigurationFingerprint}
    (run : captureConfiguration [] env world = (.ok fingerprint, after)) :
    ∃ walk inspections reads, World.history env world after = walk ++ inspections ++ reads ∧
      Captures fingerprint.entries walk inspections reads := by
  obtain ⟨paths, second, found, rest⟩ := Exec.bind_eq_ok run
  have returned : Exec.Returns (writableConfigurationFiles []) paths := ⟨env, world, second, found⟩
  obtain ⟨entries, third, read, made⟩ := Exec.bind_eq_ok rest
  cases made
  obtain ⟨files, first, walked, kept⟩ := Exec.bind_eq_ok found
  have walkReturned : Exec.Returns (walkFiles pathDepth []) files := ⟨env, world, first, walked⟩
  obtain ⟨options, last, inspected, sorted⟩ := Exec.bind_eq_ok kept
  cases sorted
  -- The three phases follow each other.
  have walks : World.Advances env world first := by
    have anything : Confined (fun _ => True) (walkFiles pathDepth []) :=
      walkFiles_confined pathDepth []
    have moves := anything.advances env world
    rwa [show walkFiles pathDepth [] env world = (.ok files, first) from walked] at moves
  have inspecting : ∀ path, Exec.Moves World.Advances (configurationFile? [] path) := by
    intro path
    have anything : Confined (fun _ => True) (configurationFile? [] path) :=
      configurationFile?_confined [] path
    exact anything.advances
  have reading : ∀ path, Exec.Moves World.Advances (readConfigurationEntry path) := by
    intro path
    have anything : Confined (fun _ => True) (readConfigurationEntry path) :=
      (readConfigurationValue_confined trivial).map
    exact anything.advances
  have inspections := mapEach_advances inspecting inspected
  have readings := mapEach_advances reading read
  refine ⟨World.history env world first, World.history env first second,
    World.history env second after, ?_, ?_⟩
  · rw [(walks.trans inspections).history_append readings, walks.history_append inspections]
  obtain ⟨listed, missed⟩ := walkFiles_run reliable walked
  obtain ⟨offered, taken⟩ := mapEach_parts inspecting inspected
  obtain ⟨readAll, readFrom⟩ := mapEach_parts reading read
  -- An entry comes from a kept path, and this one from a walked one.
  have keptPath : ∀ path, path ∈ options.reduceOption.insertionSort (· ≤ ·) ↔
      some path ∈ options := by
    intro path
    rw [(List.perm_insertionSort (· ≤ ·) options.reduceOption).mem_iff]
    simp [List.reduceOption]
  have origin : ∀ entry ∈ entries, entry.path ∈ options.reduceOption.insertionSort (· ≤ ·) ∧
      ∃ moment ∈ World.history env second after, ∃ text writable,
        moment.file? entry.path = some ⟨.text text, writable⟩ ∧ text.value = entry.value := by
    intro entry member
    obtain ⟨path, among, start, done, ran, inside⟩ := readFrom entry member
    obtain ⟨rfl, rfl, text, writable, shown, value⟩ := readConfigurationEntry_run ran
    rw [World.history_advance] at inside
    exact ⟨among, _, inside (List.mem_singleton_self _), text, writable, shown, value⟩
  have source : ∀ entry ∈ entries, entry.path ∈ files ∧
      ∃ moment ∈ World.history env first second,
        moment.system.files.writable? entry.path = some true := by
    intro entry member
    obtain ⟨path, among, part⟩ := taken _ ((keptPath entry.path).mp (origin entry member).1)
    rcases configurationFile?_part reliable part with
      ⟨_, dropped⟩ | ⟨_, moment, during, writable, found, same⟩
    · cases dropped
    · cases writable with
      | false => cases same
      | true =>
          cases same
          exact ⟨among, moment, during, found⟩
  constructor
  · intro entry member
    obtain ⟨name, rest, same, configuration⟩ :=
      writableConfigurationFiles_returns returned entry.path (origin entry member).1
    rw [List.nil_append] at same
    exact ⟨by simp [same], same ▸ configuration⟩
  · exact fun entry member => listed entry.path (source entry member).1
  · exact fun entry member => (source entry member).2
  · exact fun entry member => (origin entry member).2
  · intro path nonempty configuration
    obtain ⟨name, rest, rfl⟩ := List.exists_cons_of_ne_nil nonempty
    rcases missed name rest with walkedPath | absent
    · obtain ⟨option, among, part⟩ := offered _ walkedPath
      rw [List.nil_append] at part
      rcases configurationFile?_part reliable part with
        ⟨runtime, _⟩ | ⟨_, moment, during, writable, found, same⟩
      · rw [configuration] at runtime
        cases runtime
      · cases writable with
        | true =>
            rw [if_pos rfl] at same
            subst same
            obtain ⟨entry, inEntries, start, done, ran, _⟩ :=
              readAll _ ((keptPath (name :: rest)).mpr among)
            obtain ⟨_, same, _⟩ := readConfigurationEntry_run ran
            exact .inl ⟨entry, inEntries, same⟩
        | false =>
            refine .inr (.inr ⟨moment, during, ?_⟩)
            exact Files.writable?_false found
    · exact .inr (.inl absent)

end Runs

/-! ## Replaying a typed read -/

namespace Moment

/-- What an access sees of its path at a moment is what some files show. -/
def Agrees (moment : Moment) (files : Files) : Prop :=
  match moment.access with
  | .inspect path => moment.system.files.pathExists path = files.pathExists path
  | .read path | .compare path | .write path _ => moment.file? path = files.get? path

end Moment

section Replay

variable {env : Env} {world after : World} {files : Files}

theorem pathExists_run (reliable : env.Reliable) {path : Path} {present : Bool}
    (run : pathExists path env world = (.ok present, after)) :
    after = env.advance world (.inspect path) ∧
      present = (env.moment world (.inspect path)).system.files.pathExists path := by
  unfold pathExists inspectPresence at run
  rw [Exec.bind_run, inspect_run reliable] at run
  cases run
  exact ⟨rfl, rfl⟩

/-- The reply to a read is the content of the file at its moment. -/
theorem Env.Reliable.read_reply (reliable : env.Reliable) (world : World) (path : Path) :
    (env.serve world (.read path)).1 =
      match (env.moment world (.read path)).file? path with
      | some file => .content file.content
      | none => .failed ⟨.opening, enoent⟩ := by
  rw [reliable.serve (show ReadsOnly (.read path) from trivial)]
  simp only [Env.respond, Moment.file?, Env.moment]
  cases (env.interfere world.clock world.sys).files.get? path <;> rfl

theorem readText_run (reliable : env.Reliable) {path : Path} {value : String}
    (run : readText path env world = (.ok value, after)) :
    after = env.advance world (.read path) ∧
      (env.moment world (.read path)).system.files.text path = .ok value := by
  have replied := reliable.read_reply world path
  unfold Moment.file? at replied
  unfold readText at run
  rw [Exec.bind_run, perform_run] at run
  unfold Files.text
  cases found : (env.moment world (.read path)).system.files.get? path with
  | none =>
      rw [found] at replied
      rw [replied] at run
      cases run
  | some file =>
      rw [found] at replied
      rw [replied] at run
      rcases file with ⟨text | bytes, writable⟩ <;> cases run
      exact ⟨rfl, rfl⟩

theorem readNumberText_run (reliable : env.Reliable) {path : Path} {value : String}
    (run : readNumberText path env world = (.ok value, after)) :
    after = env.advance world (.read path) ∧
      (env.moment world (.read path)).system.files.numberText path = .ok value := by
  have replied := reliable.read_reply world path
  unfold Moment.file? at replied
  unfold readNumberText at run
  rw [Exec.bind_run, perform_run] at run
  unfold Files.numberText
  cases found : (env.moment world (.read path)).system.files.get? path with
  | none =>
      rw [found] at replied
      rw [replied] at run
      cases run
  | some file =>
      rw [found] at replied
      rw [replied] at run
      dsimp only at run ⊢
      by_cases long : file.content.bytes.length ≥ 64
      · rw [if_pos long] at run
        cases run
      · rw [if_neg long] at run ⊢
        cases content : file.content with
        | undecodable bytes =>
            rw [content] at run
            cases run
        | text text =>
            rw [content] at run
            cases run
            exact ⟨rfl, rfl⟩

/-- A reading program whose accesses all see what some files show returns what they show. -/
theorem Reader.replay {α : Type} {program : Sysfs α} [reader : Reader program] {value : α}
    (reliable : env.Reliable) (run : program env world = (.ok value, after))
    (agree : ∀ moment ∈ World.history env world after, moment.Agrees files) :
    Shows program files value := by
  have replays : ∀ {α : Type} {program : Sysfs α}, Plain ReadsOnly program →
      ∀ {world after value}, program env world = (.ok value, after) →
        (∀ moment ∈ World.history env world after, moment.Agrees files) →
          Shows program files value := by
    intro α program plain
    induction plain with
    | pure value =>
        intro world after result run agree
        cases run
        exact shows_pure.mpr rfl
    | fail error lasting =>
        intro world after result run agree
        cases run
    | present path permitted =>
        intro world after result run agree
        obtain ⟨rfl, rfl⟩ := pathExists_run reliable run
        rw [World.history_advance] at agree
        exact shows_pathExists.mpr (agree _ (List.mem_singleton_self _)).symm
    | readText path permitted =>
        intro world after result run agree
        obtain ⟨rfl, shown⟩ := readText_run reliable run
        rw [World.history_advance] at agree
        have same : _ = files.get? path := agree _ (List.mem_singleton_self _)
        unfold Files.text at shown
        unfold Moment.file? at same
        rw [same] at shown
        rw [Shows, seen_readText]
        exact shown
    | readNumberText path permitted =>
        intro world after result run agree
        obtain ⟨rfl, shown⟩ := readNumberText_run reliable run
        rw [World.history_advance] at agree
        have same : _ = files.get? path := agree _ (List.mem_singleton_self _)
        unfold Files.numberText at shown
        unfold Moment.file? at same
        rw [same] at shown
        rw [Shows, seen_readNumberText]
        exact shown
    | write path value permitted _ => exact permitted.elim
    | widest path permitted _ _ => exact (permitted "").elim
    | bind first second one two =>
        intro world after result run agree
        obtain ⟨value, middle, ran, rest⟩ := Exec.bind_eq_ok run
        have early := first.confined.advances env world
        rw [ran] at early
        have late := (second value).confined.advances env middle
        rw [rest] at late
        rw [early.history_append late] at agree
        have here := one ran fun moment member => agree moment (List.mem_append_left _ member)
        have there := two value rest fun moment member =>
          agree moment (List.mem_append_right _ member)
        have readers : ∀ value, Reader _ := fun value => ⟨second value⟩
        exact (@shows_bind _ _ _ _ ⟨first⟩ readers _ _).mpr ⟨value, here, there⟩
  exact replays reader.plain run agree

end Replay

/-! ## Two equal captures -/

section Cut

variable {entries : List ConfigurationEntry} {walk inspections reads middle again
  inspectedAgain readAgain : List Moment}

/-- Two captures of the same entries with moments in between, where nothing is repeated. -/
structure Collected (entries : List ConfigurationEntry)
    (walk inspections reads middle again inspectedAgain readAgain : List Moment) : Prop where
  first : Captures entries walk inspections reads
  second : Captures entries again inspectedAgain readAgain
  unrepeated : Unrepeated
    ((walk ++ inspections ++ reads) ++ middle ++ (again ++ inspectedAgain ++ readAgain))
  modes : FixedModes
    ((walk ++ inspections ++ reads) ++ middle ++ (again ++ inspectedAgain ++ readAgain))

namespace Moment

/-- A writable attribute that holds configuration is at a path at a moment. -/
def Holds (moment : Moment) (path : Path) : Prop :=
  path ≠ [] ∧ Path.isRuntimeAttribute path = false ∧
    ∃ file, moment.file? path = some file ∧ file.writable = true

end Moment

/-- Moments of three parts in their order. -/
theorem threeMoments {early late : List Moment} {first last moment : Moment}
    (start : first ∈ early) (during : moment ∈ middle) (finish : last ∈ late) :
    [first, moment, last].Sublist (early ++ middle ++ late) := by
  have one : [first].Sublist early := List.singleton_sublist.mpr start
  have two : [moment].Sublist middle := List.singleton_sublist.mpr during
  have three : [last].Sublist late := List.singleton_sublist.mpr finish
  exact (one.append two).append three

namespace Collected

variable (collected : Collected entries walk inspections reads middle again inspectedAgain
  readAgain)

include collected

theorem mode {first last : Moment} {path : Path} {one two : File}
    (start : first ∈ walk ++ inspections ++ reads ∨ first ∈ middle ∨
      first ∈ again ++ inspectedAgain ++ readAgain)
    (finish : last ∈ walk ++ inspections ++ reads ∨ last ∈ middle ∨
      last ∈ again ++ inspectedAgain ++ readAgain)
    (found : first.file? path = some one) (also : last.file? path = some two) :
    one.writable = two.writable := by
  refine collected.modes first ?_ last ?_ path one two found also
  · simpa only [List.mem_append, or_assoc] using start
  · simpa only [List.mem_append, or_assoc] using finish

/-- What was captured is there unchanged at every moment in between. -/
theorem captured {entry : ConfigurationEntry} (member : entry ∈ entries) :
    ∃ text : AttributeText, text.value = entry.value ∧
      ∀ moment ∈ middle, moment.file? entry.path = some ⟨.text text, true⟩ := by
  obtain ⟨walked, inWalk, there⟩ := collected.first.walked entry member
  obtain ⟨inspected, inInspections, mode⟩ := collected.first.inspected entry member
  obtain ⟨read, inReads, text, writable, found, value⟩ := collected.first.read entry member
  obtain ⟨last, inLast, lastText, lastWritable, lastFound, lastValue⟩ :=
    collected.second.read entry member
  -- The path was there when it was inspected, so it was a writable file.
  have stayed : (inspected.file? entry.path).isSome = true := by
    have inOrder := threeMoments inWalk inInspections inReads
    exact collected.unrepeated.presence walked inspected read
      (inOrder.trans ((List.sublist_append_left _ _).trans (List.sublist_append_left _ _)))
      entry.path there (by rw [found]; rfl)
  obtain ⟨file, inspectedFile⟩ := Option.isSome_iff_exists.mp stayed
  have isWritable : writable = true := by
    have same := collected.mode
      (.inl (List.mem_append_left _ (List.mem_append_right _ inInspections)))
      (.inl (List.mem_append_right _ inReads)) inspectedFile found
    unfold Files.writable? at mode
    rw [show inspected.system.files.get? entry.path = some file from inspectedFile] at mode
    exact same.symm.trans (Option.some.inj mode)
  subst isWritable
  refine ⟨text, value, fun moment during => ?_⟩
  have inOrder := threeMoments (List.mem_append_right (walk ++ inspections) inReads) during
    (List.mem_append_right (again ++ inspectedAgain) inLast)
  have shown : (read.file? entry.path).map File.shown =
      (last.file? entry.path).map File.shown := by
    rw [found, lastFound]
    simp only [Option.map_some, File.shown, value, lastValue]
  rw [collected.unrepeated.values read moment last inOrder entry.path shown, found]

/-- What was not captured is no writable configuration at any moment in between. -/
theorem complete {moment : Moment} (during : moment ∈ middle) {path : Path}
    (holds : moment.Holds path) : ∃ entry ∈ entries, entry.path = path := by
  obtain ⟨nonempty, configuration, file, found, isWritable⟩ := holds
  have readOnly : ∀ {other : Moment} {inspected : File},
      (other ∈ walk ++ inspections ++ reads ∨ other ∈ middle ∨
        other ∈ again ++ inspectedAgain ++ readAgain) →
      other.file? path = some inspected → inspected.writable = false → False := by
    intro other inspected member there mode
    have same := collected.mode member (.inr (.inl during)) there found
    rw [mode, isWritable] at same
    cases same
  rcases collected.first.missing path nonempty configuration with
    captured | ⟨before, inWalk, absent⟩ | ⟨other, inspected, kept, there, mode⟩
  · exact captured
  · rcases collected.second.missing path nonempty configuration with
      captured | ⟨later, inAgain, absentAgain⟩ | ⟨other, inspected, kept, there, mode⟩
    · exact captured
    · have inOrder := threeMoments
        (List.mem_append_left reads (List.mem_append_left inspections inWalk)) during
        (List.mem_append_left readAgain (List.mem_append_left inspectedAgain inAgain))
      have still := collected.unrepeated.values before moment later inOrder path
        (by rw [absent, absentAgain])
      rw [found, absent] at still
      cases still
    · exact (readOnly (.inr (.inr (List.mem_append_left _ (List.mem_append_right _ inspected))))
        there mode).elim
  · exact (readOnly (.inl (List.mem_append_left _ (List.mem_append_right _ inspected)))
      there mode).elim

end Collected

end Cut

/-! ## Observations -/

namespace Moment

/-- The writable configuration at a moment is exactly a list of values. -/
structure ShowsExactly (moment : Moment) (entries : List ConfigurationEntry) : Prop where
  shown : ∀ entry ∈ entries, moment.Holds entry.path ∧ ∃ text : AttributeText,
    moment.file? entry.path = some ⟨.text text, true⟩ ∧ text.value = entry.value
  complete : ∀ path, moment.Holds path → ∃ entry ∈ entries, entry.path = path

end Moment

/-- Every attribute that the accesses of a typed read look at is captured as writable. -/
def TypedWritable (history : List Moment) : Prop :=
  ∀ moment ∈ history, ∀ other ∈ history,
    match moment.access with
    | .inspect path => other.system.files.pathExists path = true →
        ∃ inner, other.Holds (path ++ inner)
    | .read path | .compare path | .write path _ =>
        (other.file? path).isSome = true → other.Holds path

/-- Where captured attributes keep still, a typed read of them sees every moment alike. -/
theorem TypedWritable.agrees {history : List Moment} (writable : TypedWritable history)
    (still : ∀ path, ∀ moment ∈ history, moment.Holds path →
      ∀ other ∈ history, other.file? path = moment.file? path)
    {moment instant : Moment} (inside : moment ∈ history) (atInstant : instant ∈ history) :
    moment.Agrees instant.system.files := by
  have looked := writable moment inside
  have shownAlike : ∀ path, (∀ other ∈ history,
      (other.file? path).isSome = true → other.Holds path) →
      moment.file? path = instant.file? path := by
    intro path holds
    by_cases here : (moment.file? path).isSome = true
    · exact (still path moment inside (holds moment inside here) instant atInstant).symm
    · by_cases there : (instant.file? path).isSome = true
      · exact still path instant atInstant (holds instant atInstant there) moment inside
      · rw [Option.not_isSome_iff_eq_none.mp here, Option.not_isSome_iff_eq_none.mp there]
  unfold Moment.Agrees
  cases access : moment.access with
  | inspect path =>
      rw [access] at looked
      have shows : ∀ first ∈ history, ∀ second ∈ history,
          first.system.files.pathExists path = true →
            second.system.files.pathExists path = true := by
        intro first one second two present
        obtain ⟨inner, holds⟩ := looked first one present
        obtain ⟨-, -, file, found, -⟩ := id holds
        have same := still (path ++ inner) first one holds second two
        rw [found] at same
        refine Files.pathExists_iff.mpr ⟨inner, ?_⟩
        rw [show second.system.files.get? (path ++ inner) = some file from same]
        rfl
      exact Bool.eq_iff_iff.mpr ⟨shows moment inside instant atInstant,
        shows instant atInstant moment inside⟩
  | read path =>
      rw [access] at looked
      exact shownAlike path looked
  | compare path =>
      rw [access] at looked
      exact shownAlike path looked
  | write path value =>
      rw [access] at looked
      exact shownAlike path looked

theorem captureConfiguration_advances {env : Env} {world after : World}
    {fingerprint : ConfigurationFingerprint}
    (run : captureConfiguration [] env world = (.ok fingerprint, after)) :
    World.Advances env world after := by
  have moves := (captureConfiguration_reads []).advances env world
  rwa [run] at moves

/-- A typed read looks at something. -/
theorem DamonAdmin.configuration_looks {env : Env} {world after : World} {value : DamonConfig}
    (reliable : env.Reliable) (run : DamonAdmin.configuration env world = (.ok value, after)) :
    ∃ moment, moment ∈ World.history env world after := by
  by_contra nothing
  -- Otherwise it would return the same from no files at all.
  let none : Files := .ofAttributes []
  have shown : Shows DamonAdmin.configuration none value :=
    Reader.replay reliable run fun moment member => (nothing ⟨moment, member⟩).elim
  have fails : (seen DamonAdmin.configuration none).toBool = false := by decide +kernel
  rw [Shows] at shown
  rw [shown] at fails
  cases fails

theorem DamonAdmin.observedConfiguration_confined :
    Confined ReadsConfiguration DamonAdmin.observedConfiguration := by
  refine .bind configurationSnapshot_confined fun snapshot => ?_
  refine .bind configuration_confined fun configuration => ?_
  refine .bind (snapshot.matchesCompleteCurrentExcept_confined []) fun same => ?_
  exact .ite (fun _ => .pure _) fun _ => .fail _

/-- An observation among external changes that never lead a path back: at one moment of its typed
read the writable configuration is exactly what is returned, every writable attribute is the same
during the whole typed read, and the typed configuration is the typed read at that moment. -/
theorem observedConfiguration_consistentCut {env : Env} {world after : World}
    {observed : ObservedConfiguration} (reliable : env.Reliable)
    (run : DamonAdmin.observedConfiguration env world = (.ok observed, after))
    (unrepeated : Unrepeated (World.history env world after))
    (modes : FixedModes (World.history env world after)) :
    ∃ started ended,
      DamonAdmin.configuration env started = (.ok observed.configuration, ended) ∧
      World.history env started ended ⊆ World.history env world after ∧
      ∃ instant ∈ World.history env started ended,
        instant.ShowsExactly observed.writableValues ∧
        (∀ moment ∈ World.history env started ended, ∀ path,
          moment.Holds path ∨ instant.Holds path → moment.file? path = instant.file? path) ∧
        (TypedWritable (World.history env started ended) →
          Shows DamonAdmin.configuration instant.system.files observed.configuration) := by
  obtain ⟨snapshot, started, captures, rest⟩ := Exec.bind_eq_ok run
  obtain ⟨first, _, captured, made⟩ := Exec.bind_eq_ok captures
  cases made
  obtain ⟨configuration, ended, typed, rest⟩ := Exec.bind_eq_ok rest
  obtain ⟨same, last, compared, returned⟩ := Exec.bind_eq_ok rest
  obtain ⟨second, _, recaptured, decided⟩ := Exec.bind_eq_ok compared
  cases decided
  by_cases equal : first.equalsExcept second [] = true
  swap
  · rw [if_neg equal] at returned
    cases returned
  rw [if_pos equal] at returned
  cases returned
  have nothing : ∀ path, containsPath [] path = false := fun _ => rfl
  have entries : first.entries = second.entries := by
    simpa [ConfigurationFingerprint.equalsExcept, nothing] using equal
  have before := captureConfiguration_advances captured
  have during : World.Advances env started ended := by
    have moves := DamonAdmin.configuration_confined.advances env started
    rwa [typed] at moves
  have later := captureConfiguration_advances recaptured
  have whole := (before.trans during).history_append later
  rw [before.history_append during] at whole
  obtain ⟨walk, inspections, reads, parts, captures⟩ := captureConfiguration_run reliable captured
  obtain ⟨again, inspectedAgain, readAgain, partsAgain, capturesAgain⟩ :=
    captureConfiguration_run reliable recaptured
  rw [whole, parts, partsAgain] at unrepeated modes
  have collected : Collected first.entries walk inspections reads (World.history env started ended)
      again inspectedAgain readAgain :=
    ⟨captures, entries ▸ capturesAgain, unrepeated, modes⟩
  obtain ⟨instant, atInstant⟩ := DamonAdmin.configuration_looks reliable typed
  refine ⟨started, ended, typed, ?_, instant, atInstant, ?_, ?_, ?_⟩
  · rw [whole]
    exact List.Subset.trans (List.subset_append_right _ _) (List.subset_append_left _ _)
  · have values : (ConfigurationSnapshot.intoObserved ⟨[], first⟩ configuration).writableValues =
        first.entries := by
      exact List.map_id first.entries
    rw [values]
    constructor
    · intro entry member
      obtain ⟨text, value, same⟩ := collected.captured member
      have found := same instant atInstant
      obtain ⟨nonempty, kept⟩ := captures.below entry member
      exact ⟨⟨nonempty, kept, _, found, rfl⟩, text, found, value⟩
    · exact fun path holds => collected.complete atInstant holds
  · intro moment inside path holds
    obtain ⟨entry, member, rfl⟩ : ∃ entry ∈ first.entries, entry.path = path := by
      rcases holds with here | there
      · exact collected.complete inside here
      · exact collected.complete atInstant there
    obtain ⟨text, -, same⟩ := collected.captured member
    rw [same moment inside, same instant atInstant]
  · intro writable
    have still : ∀ path, ∀ moment ∈ World.history env started ended, moment.Holds path →
        ∀ other ∈ World.history env started ended, other.file? path = moment.file? path := by
      intro path moment inside holds other also
      obtain ⟨entry, member, rfl⟩ := collected.complete inside holds
      obtain ⟨text, -, same⟩ := collected.captured member
      rw [same moment inside, same other also]
    exact Reader.replay reliable typed fun moment inside =>
      writable.agrees still inside atInstant

/-! ## A hierarchy that nobody changes -/

/-- The accesses of a reading run read. -/
theorem reads_since {α : Type} {program : Sysfs α} (confined : Confined ReadsOnly program)
    {env : Env} {world after : World} {outcome : Except Error α}
    (run : program env world = (outcome, after)) :
    ∀ access ∈ World.accessesSince world after, ReadsOnly access := by
  have advances := confined.advances env world
  have extended := confined.accesses (fun _ => trivial) env world
  rw [run] at advances extended
  intro access member
  rw [← env.moments_access world (World.accessesSince world after)] at member
  obtain ⟨moment, inside, rfl⟩ := List.mem_map.mp member
  exact advances.history_accesses extended.since moment inside

/-- Nobody else acts and no access that reads fails. -/
structure Env.Solitary (env : Env) : Prop where
  still : ∀ clock sys, env.interfere clock sys = sys
  reliable : env.Reliable

theorem Env.Quiet.solitary {env : Env} {kernel : Kernel} (quiet : env.Quiet kernel) :
    env.Solitary :=
  ⟨quiet.still, fun clock access _ => quiet.reliable clock access⟩

namespace Env.Solitary

variable {env : Env} (solitary : env.Solitary)
include solitary

theorem moment_system (world : World) (access : Access) :
    (env.moment world access).system = world.sys :=
  solitary.still world.clock world.sys

theorem advance_sys (world : World) {access : Access} (reads : ReadsOnly access) :
    (env.advance world access).sys = world.sys :=
  (env.advance_sys world reads).trans (solitary.moment_system world access)

/-- Every moment of a reading run shows the same system. -/
theorem moments_system {world : World} {accesses : List Access}
    (reads : ∀ access ∈ accesses, ReadsOnly access) :
    ∀ moment ∈ env.moments world accesses, moment.system = world.sys := by
  induction accesses generalizing world with
  | nil =>
      intro moment member
      cases member
  | cons access rest ih =>
      intro moment member
      rcases List.mem_cons.mp member with rfl | later
      · exact solitary.still world.clock world.sys
      · rw [← solitary.advance_sys world (reads access (List.mem_cons_self ..))]
        exact ih (fun other inRest => reads other (List.mem_cons_of_mem access inRest)) moment later

theorem history_system {α : Type} {program : Sysfs α} (confined : Confined ReadsOnly program)
    {world after : World} {outcome : Except Error α} (run : program env world = (outcome, after)) :
    ∀ moment ∈ World.history env world after, moment.system = world.sys :=
  solitary.moments_system (reads_since confined run)

end Env.Solitary

/-! ## A hierarchy that changes once -/

/-- Others change the system once in a history. -/
structure ChangedOnce (history : List Moment) (former latter : System) : Prop where
  found : ∀ moment ∈ history, moment.system = former ∨ moment.system = latter
  lasting : ∀ first last : Moment, [first, last].Sublist history →
    first.system = latter → last.system = latter

namespace ChangedOnce

variable {history : List Moment} {former latter : System}

/-- Where a changed file shows something else, no path returns to what it showed. -/
theorem unrepeated (once : ChangedOnce history former latter)
    (told : ∀ path, (former.files.get? path).map File.shown =
      (latter.files.get? path).map File.shown →
        former.files.get? path = latter.files.get? path)
    (present : ∀ path, (former.files.get? path).isSome = (latter.files.get? path).isSome) :
    Unrepeated history := by
  have members : ∀ {first middle last : Moment}, [first, middle, last].Sublist history →
      first ∈ history ∧ middle ∈ history ∧ last ∈ history := fun inOrder =>
    ⟨inOrder.subset (by simp), inOrder.subset (by simp), inOrder.subset (by simp)⟩
  constructor
  · intro first middle last inOrder path same
    obtain ⟨inFirst, inMiddle, inLast⟩ := members inOrder
    have start : [first, middle].Sublist history := .trans (by simp) inOrder
    have rest : [middle, last].Sublist history := .trans (by simp) inOrder
    unfold Moment.file? at same ⊢
    rcases once.found first inFirst with former | latter
    · rcases once.found middle inMiddle with still | changed
      · rw [former, still]
      · rw [former, once.lasting middle last rest changed] at same
        rw [former, changed, told path same]
    · rw [latter, once.lasting first middle start latter]
  · intro first middle last inOrder path there _
    obtain ⟨inFirst, inMiddle, -⟩ := members inOrder
    have alike : ∀ moment ∈ history,
        (moment.file? path).isSome = (former.files.get? path).isSome := by
      intro moment member
      unfold Moment.file?
      rcases once.found moment member with former | latter
      · rw [former]
      · rw [latter, present path]
    rwa [alike middle inMiddle, ← alike first inFirst]

/-- The modes are fixed where the change keeps them. -/
theorem fixedModes (once : ChangedOnce history former latter)
    (kept : ∀ path one two, former.files.get? path = some one →
      latter.files.get? path = some two → one.writable = two.writable) :
    FixedModes history := by
  intro first inFirst last inLast path one two found also
  unfold Moment.file? at found also
  rcases once.found first inFirst with start | start <;>
    rcases once.found last inLast with rest | rest <;> rw [start] at found <;> rw [rest] at also
  · rw [found] at also
    rw [Option.some.inj also]
  · exact kept path one two found also
  · exact (kept path two one also found).symm
  · rw [found] at also
    rw [Option.some.inj also]

end ChangedOnce

namespace Env

variable {env : Env} {turn : Nat} {change : System → System}

/-- After the turn of the change a reading run finds one system. -/
theorem moments_later
    (acts : ∀ clock sys, env.interfere clock sys = if clock = turn then change sys else sys)
    {world : World} {accesses : List Access} (reads : ∀ access ∈ accesses, ReadsOnly access)
    (later : turn < world.clock) : ∀ moment ∈ env.moments world accesses,
      moment.system = world.sys := by
  induction accesses generalizing world with
  | nil => simp
  | cons access rest ih =>
      have here : (env.moment world access).system = world.sys := by
        refine (acts world.clock world.sys).trans (if_neg ?_)
        omega
      have left := (env.advance_sys world (reads access (List.mem_cons_self ..))).trans here
      intro moment member
      rcases List.mem_cons.mp member with rfl | among
      · exact here
      · rw [← left]
        exact ih (fun other inRest => reads other (List.mem_cons_of_mem access inRest))
          (Nat.lt_succ_of_lt later) moment among

/-- A change before one access divides the moments of a reading run in two. -/
theorem moments_changedOnce
    (acts : ∀ clock sys, env.interfere clock sys = if clock = turn then change sys else sys)
    {world : World} {accesses : List Access} (reads : ∀ access ∈ accesses, ReadsOnly access)
    (early : world.clock ≤ turn) :
    ChangedOnce (env.moments world accesses) world.sys (change world.sys) := by
  induction accesses generalizing world with
  | nil => exact ⟨by simp, by simp⟩
  | cons access rest ih =>
      have reading : ∀ other ∈ rest, ReadsOnly other := fun other inRest =>
        reads other (List.mem_cons_of_mem access inRest)
      have left := env.advance_sys world (reads access (List.mem_cons_self ..))
      have acted : (env.moment world access).system =
          if world.clock = turn then change world.sys else world.sys :=
        acts world.clock world.sys
      by_cases now : world.clock = turn
      · rw [if_pos now] at acted
        have all : ∀ moment ∈ env.moments world (access :: rest),
            moment.system = change world.sys := by
          intro moment member
          rcases List.mem_cons.mp member with rfl | among
          · exact acted
          · rw [← acted, ← left]
            exact moments_later acts reading (Nat.lt_succ_of_le (ge_of_eq now)) moment among
        exact ⟨fun moment member => .inr (all moment member),
          fun _ last inOrder _ => all last (inOrder.subset (by simp))⟩
      · rw [if_neg now] at acted
        have others := @ih (env.advance world access) reading
          (Nat.lt_of_le_of_ne early now)
        rw [left, acted] at others
        constructor
        · intro moment member
          rcases List.mem_cons.mp member with rfl | among
          · exact .inl acted
          · exact others.found moment among
        · intro first last inOrder changed
          rcases List.sublist_cons_iff.mp inOrder with later | ⟨tail, same, later⟩
          · exact others.lasting first last later changed
          · obtain ⟨rfl, rfl⟩ := List.cons.inj same
            have none := acted.symm.trans changed
            rcases others.found last (later.subset (by simp)) with former | latter
            · exact former.trans none
            · exact latter

end Env

namespace CutFixture

def context : Path := ["kdamonds", "0", "contexts", "0"]

def sample : Path := context ++ ["monitoring_attrs", "intervals", "sample_us"]

/-- One stopped kdamond with one context. -/
def files : Files := .ofAttributes
  ([(["kdamonds", "nr_kdamonds"], "1", true), (["kdamonds", "0", "state"], "off", true),
    (["kdamonds", "0", "pid"], "-1", false),
    (["kdamonds", "0", "contexts", "nr_contexts"], "1", true), (sample, "5000", true)] ++
  [(["operations"], "paddr"), (["monitoring_attrs", "intervals", "aggr_us"], "100000"),
    (["monitoring_attrs", "intervals", "update_us"], "60000000"),
    (["monitoring_attrs", "nr_regions", "min"], "10"),
    (["monitoring_attrs", "nr_regions", "max"], "1000"), (["targets", "nr_targets"], "0"),
    (["schemes", "nr_schemes"], "0")].map fun entry => (context ++ entry.1, entry.2, true))

def world : World := .initial (.settled files)

/-- Another controller writes the sampling interval. -/
def rewrite (sys : System) : System :=
  { sys with files := sys.files.setText sample (.ofWritten "6000") }

/-- It does so right before the fourth access. -/
def rewritten : Env :=
  { Env.undisturbed .bare with
    interfere := fun clock sys => if clock = 3 then rewrite sys else sys }

/-- Whether a path has a writable attribute that holds configuration. -/
def holds (path : Path) : Bool :=
  path ≠ [] && !Path.isRuntimeAttribute path && (files.get? path).map File.writable = some true

/-- Whether what an access looks at is writable configuration. -/
def looksAtWritable : Access → Bool
  | .inspect path => !files.pathExists path || files.paths.any fun other =>
      (stripPrefix? path other).isSome && holds other
  | .read path | .compare path => (files.get? path).isNone || holds path
  | .write _ _ => false

/-- The change is one of the value that a file shows. -/
theorem rewrite_get? (path : Path) :
    (rewrite (.settled files)).files.get? path =
      if path = sample then some ⟨.text (.ofWritten "6000"), true⟩ else files.get? path := by
  have before : files.get? sample = some ⟨.text (.ofWritten "5000"), true⟩ := by decide
  refine (Files.get?_setText files sample path (.ofWritten "6000")).trans ?_
  split
  next same => rw [same, before]; rfl
  next => rfl

/-- Both systems have the same paths. -/
theorem pathExists_either {sys : System}
    (either : sys = .settled files ∨ sys = rewrite (.settled files)) (path : Path) :
    sys.files.pathExists path = files.pathExists path := by
  rcases either with rfl | rfl
  · rfl
  · exact Files.pathExists_setText files sample path (.ofWritten "6000")

/-- Both systems have the same files with the same modes. -/
theorem rewrite_writable (path : Path) :
    ((rewrite (.settled files)).files.get? path).map File.writable =
      (files.get? path).map File.writable := by
  rw [rewrite_get?]
  split
  next same => rw [same]; decide
  next => rfl

theorem rewrite_present (path : Path) : (files.get? path).isSome =
    ((rewrite (.settled files)).files.get? path).isSome := by
  have same := congrArg Option.isSome (rewrite_writable path)
  rw [Option.isSome_map, Option.isSome_map] at same
  exact same.symm

theorem rewrite_modes (path : Path) (one two : File) (found : files.get? path = some one)
    (also : (rewrite (.settled files)).files.get? path = some two) :
    one.writable = two.writable := by
  have same := rewrite_writable path
  rw [found, also] at same
  exact (Option.some.inj same).symm

theorem rewrite_told (path : Path) (same : (files.get? path).map File.shown =
    ((rewrite (.settled files)).files.get? path).map File.shown) :
    files.get? path = (rewrite (.settled files)).files.get? path := by
  rw [rewrite_get?] at same ⊢
  split
  next here =>
    rw [if_pos here, here] at same
    exact absurd same (by decide)
  next => rfl

theorem get?_either {sys : System}
    (either : sys = .settled files ∨ sys = rewrite (.settled files)) (path : Path) :
    (sys.files.get? path).map File.writable = (files.get? path).map File.writable := by
  rcases either with rfl | rfl
  · rfl
  · exact rewrite_writable path

theorem holds_iff {moment : Moment}
    (either : moment.system = .settled files ∨ moment.system = rewrite (.settled files))
    {path : Path} : moment.Holds path ↔ holds path = true := by
  unfold Moment.Holds Moment.file? holds
  rw [← get?_either either path]
  simp [and_assoc]

theorem typedWritable {history : List Moment}
    (either : ∀ moment ∈ history,
      moment.system = .settled files ∨ moment.system = rewrite (.settled files))
    (looks : ∀ moment ∈ history, looksAtWritable moment.access = true) :
    TypedWritable history := by
  intro moment inside other also
  have looked := looks moment inside
  cases access : moment.access with
  | inspect path =>
      rw [access] at looked
      intro present
      rw [pathExists_either (either other also)] at present
      simp only [looksAtWritable, Bool.or_eq_true, Bool.not_eq_true', List.any_eq_true,
        Bool.and_eq_true] at looked
      rcases looked with absent | ⟨found, _, below, held⟩
      · rw [present] at absent
        cases absent
      · obtain ⟨inner, stripped⟩ := Option.isSome_iff_exists.mp below
        obtain rfl := stripPrefix?_eq_some.mp stripped
        exact ⟨inner, (holds_iff (either other also)).mpr held⟩
  | write path value =>
      rw [access] at looked
      cases looked
  | read path | compare path =>
      rw [access] at looked
      intro there
      simp only [looksAtWritable, Bool.or_eq_true] at looked
      rcases looked with absent | held
      · have modes := congrArg Option.isSome (get?_either (either other also) path)
        rw [Option.isSome_map, Option.isSome_map] at modes
        unfold Moment.file? at there
        rw [there] at modes
        rw [Option.isNone_iff_eq_none] at absent
        rw [absent] at modes
        cases modes
      · exact (holds_iff (either other also)).mpr held

/-- The world after an observation. -/
def after : World := DamonAdmin.observedConfiguration.leads rewritten world

end CutFixture

open CutFixture in
/-- A change before the second listing, of an attribute that is read afterwards: the observation
shows one moment, with the new value. -/
theorem observedConfiguration_consistentCut_rewritten :
    ∃ observed instant,
      DamonAdmin.observedConfiguration rewritten world = (.ok observed, after) ∧
      instant ∈ World.history rewritten world after ∧
      instant.ShowsExactly observed.writableValues ∧
      ⟨sample, "6000"⟩ ∈ observed.writableValues ∧
      Shows DamonAdmin.configuration instant.system.files observed.configuration := by
  have observes : ((DamonAdmin.observedConfiguration rewritten world).1.toOption.any fun observed =>
      observed.writableValues.contains ⟨sample, "6000"⟩) = true ∧
      ∀ access ∈ World.accessesSince world after, looksAtWritable access = true := by
    decide +kernel
  obtain ⟨returns, looks⟩ := observes
  cases outcome : (DamonAdmin.observedConfiguration rewritten world).1 with
  | error error =>
      rw [outcome] at returns
      cases returns
  | ok observed =>
      rw [outcome] at returns
      have run : DamonAdmin.observedConfiguration rewritten world = (.ok observed, after) :=
        Exec.run_of_outcome outcome
      have reads := reads_since (DamonAdmin.observedConfiguration_confined.mono
        fun _ => ReadsConfiguration.readsOnly) run
      have once : ChangedOnce (World.history rewritten world after) (.settled files)
          (rewrite (.settled files)) :=
        Env.moments_changedOnce (fun _ _ => rfl) reads (Nat.zero_le 3)
      have looked : ∀ moment ∈ World.history rewritten world after,
          looksAtWritable moment.access = true := by
        intro moment member
        refine looks moment.access ?_
        rw [← rewritten.moments_access world (World.accessesSince world after)]
        exact List.mem_map_of_mem member
      obtain ⟨started, ended, -, part, instant, inside, exactly, -, shows⟩ :=
        observedConfiguration_consistentCut (fun _ _ _ => rfl) run
          (once.unrepeated rewrite_told rewrite_present) (once.fixedModes rewrite_modes)
      refine ⟨observed, instant, run, part inside, exactly, ?_, shows ?_⟩
      · exact List.contains_iff_mem.mp returns
      · exact typedWritable (fun moment member => once.found moment (part member))
          fun moment member => looked moment (part member)

end DamonRs
