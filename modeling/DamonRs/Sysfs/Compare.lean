import DamonRs.Sysfs.Trace

/-!
# Comparison with captured values

The chunks of a read are compared with a captured value one after the other.
However the bytes are cut, the comparison finds out whether they are the value,
with or without a final newline.
-/

namespace DamonRs

open Library Sysfs

/-! ## Comparing chunks -/

section Chunks

variable {expected : List UInt8}

theorem matchConfigurationChunk_append (first second : List UInt8) (matched : Nat) (seen : Bool) :
    matchConfigurationChunk expected (first ++ second) matched seen =
      (matchConfigurationChunk expected first matched seen).bind fun (matched, seen) =>
        matchConfigurationChunk expected second matched seen := by
  induction first generalizing matched seen with
  | nil => rfl
  | cons byte bytes ih =>
      simp only [List.cons_append, matchConfigurationChunk]
      split
      · split
        · exact ih _ _
        · rfl
      · split
        · rfl
        · exact ih _ _

/-- Where the cuts are does not matter. -/
theorem matchConfigurationChunks_flatten (chunks : List (List UInt8)) (matched : Nat)
    (seen : Bool) :
    matchConfigurationChunks expected chunks matched seen =
      (matchConfigurationChunk expected chunks.flatten matched seen).any
        fun (matched, _) => matched == expected.length := by
  induction chunks generalizing matched seen with
  | nil => rfl
  | cons chunk chunks ih =>
      rw [List.flatten_cons, matchConfigurationChunk_append, matchConfigurationChunks]
      cases matchConfigurationChunk expected chunk matched seen with
      | none => rfl
      | some state => exact ih _ _

/-- Nothing may follow a final newline. -/
theorem matchConfigurationChunk_afterNewline (bytes : List UInt8) :
    (matchConfigurationChunk expected bytes expected.length true).any
        (fun (matched, _) => matched == expected.length) = true ↔ bytes = [] := by
  cases bytes with
  | nil => simp [matchConfigurationChunk]
  | cons byte bytes => simp [matchConfigurationChunk]

/-- From a matched position on, the rest of the value must follow. -/
theorem matchConfigurationChunk_rest (bytes : List UInt8) (matched : Nat)
    (within : matched ≤ expected.length) :
    (matchConfigurationChunk expected bytes matched false).any
        (fun (matched, _) => matched == expected.length) = true ↔
      bytes = expected.drop matched ∨ bytes = expected.drop matched ++ [0x0a] := by
  induction bytes generalizing matched with
  | nil =>
      have ends : ([] = expected.drop matched) ↔ matched = expected.length := by
        rw [eq_comm, List.drop_eq_nil_iff]
        exact ⟨fun above => le_antisymm within above, fun same => same ▸ le_refl _⟩
      simp [matchConfigurationChunk, ends]
  | cons byte bytes ih =>
      rcases lt_or_eq_of_le within with below | rfl
      · have unfolded : expected.drop matched = expected[matched] :: expected.drop (matched + 1) :=
          (List.drop_eq_getElem_cons below)
        have next : expected[matched]? = some expected[matched] := List.getElem?_eq_getElem below
        rw [unfolded, List.cons_append, List.cons.injEq, List.cons.injEq, matchConfigurationChunk,
          if_pos below, next, ← and_or_left, ← ih (matched + 1) below]
        by_cases same : byte = expected[matched]
        · simp [same]
        · simp [same]
      · rw [List.drop_length, List.nil_append, matchConfigurationChunk, if_neg (lt_irrefl _)]
        by_cases newline : byte = 0x0a
        · simp [newline, matchConfigurationChunk_afterNewline]
        · simp [newline]

theorem bufferChunks_flatten (size fuel : Nat) (bytes : List UInt8) :
    (bufferChunks size fuel bytes).flatten = bytes := by
  induction fuel generalizing bytes with
  | zero => cases bytes <;> simp [bufferChunks]
  | succ fuel ih =>
      cases bytes with
      | nil => rfl
      | cons byte bytes => simp [bufferChunks, ih]

/-- Comparing in chunks is comparing the value, with or without a final newline. -/
theorem matchConfigurationChunks_eq_true (chunks : List (List UInt8)) :
    matchConfigurationChunks expected chunks 0 false = true ↔
      chunks.flatten = expected ∨ chunks.flatten = expected ++ [0x0a] := by
  rw [matchConfigurationChunks_flatten]
  exact matchConfigurationChunk_rest _ 0 (Nat.zero_le _)

end Chunks

/-! ## Shown values -/

/-- The bytes of an attribute show a value, with or without a final newline. -/
def Content.Shows (content : Content) (value : String) : Prop :=
  content.bytes = Text.utf8Bytes value ∨ content.bytes = Text.utf8Bytes value ++ [0x0a]

instance (content : Content) (value : String) : Decidable (content.Shows value) :=
  inferInstanceAs (Decidable (_ ∨ _))

theorem utf8Bytes_append (first second : String) :
    Text.utf8Bytes (first ++ second) = Text.utf8Bytes first ++ Text.utf8Bytes second := by
  simp [Text.utf8Bytes]

theorem utf8Bytes_injective : Function.Injective Text.utf8Bytes := by
  intro first second same
  have decoded := congrArg Text.ofUtf8Bytes? same
  rw [Text.ofUtf8Bytes?_utf8Bytes, Text.ofUtf8Bytes?_utf8Bytes] at decoded
  injection decoded

/-- A text shows its value, and itself. -/
theorem Content.shows_text_iff {text : AttributeText} {value : String} :
    (Content.text text).Shows value ↔ text.raw = value ∨ text.raw = value ++ "\n" := by
  have newline : [0x0a] = Text.utf8Bytes "\n" := by decide
  unfold Content.Shows Content.bytes
  rw [newline, ← utf8Bytes_append, utf8Bytes_injective.eq_iff, utf8Bytes_injective.eq_iff]

/-- A text shows a value that ends with no newline exactly when it is its value. -/
theorem Content.shows_text {text : AttributeText} {value : String}
    (single : value.toList.getLast? ≠ some '\n') :
    (Content.text text).Shows value ↔ text.value = value := by
  rw [shows_text_iff, AttributeText.value, stripFinalNewline_eq_iff, or_comm,
    and_iff_left single]

/-- A text shows its value. -/
theorem Content.shows_value (text : AttributeText) : (Content.text text).Shows text.value := by
  rcases stripFinalNewline_eq_iff.mp (rfl : text.value = text.value) with ended | ⟨same, _⟩
  · exact shows_text_iff.mpr (.inr ended)
  · exact shows_text_iff.mpr (.inl same)

/-- The value that a read of a content returns, if its bytes are a text. -/
def Content.value? (content : Content) : Option String :=
  (Text.ofUtf8Bytes? content.bytes).map stripFinalNewline

@[simp] theorem Content.value?_text (text : AttributeText) :
    (Content.text text).value? = some text.value := by
  unfold value? bytes
  rw [Text.ofUtf8Bytes?_utf8Bytes]
  rfl

/-- A content that shows a value is read as the value, unless the value ends in a newline and is the
whole content. -/
theorem Content.value?_eq_iff {content : Content} {value : String} (shows : content.Shows value) :
    content.value? = some value ↔
      ¬(value.toList.getLast? = some '\n' ∧ content.bytes = Text.utf8Bytes value) := by
  have newline : [0x0a] = Text.utf8Bytes "\n" := by decide
  have longer : value ≠ value ++ "\n" := by
    intro same
    have lengths := congrArg String.length same
    simp at lengths
  unfold value?
  rcases shows with same | same
  · rw [same, Text.ofUtf8Bytes?_utf8Bytes, Option.map_some, Option.some_inj,
      stripFinalNewline_eq_iff]
    tauto
  · rw [same, newline, ← utf8Bytes_append, Text.ofUtf8Bytes?_utf8Bytes, Option.map_some,
      Option.some_inj, stripFinalNewline_eq_iff, utf8Bytes_injective.eq_iff]
    tauto

/-- The value that a read returns of what is found at a path, if that is a text. -/
def readableValue (found : Option File) : Option String :=
  found.bind fun file => file.content.value?

/-- The value that a read of an attribute returns. -/
def Files.value? (files : Files) (path : Path) : Option String := readableValue (files.get? path)

/-- An attribute exists and shows a value. -/
def System.Shows (sys : System) (path : Path) (value : String) : Prop :=
  ∃ file, sys.files.get? path = some file ∧ file.content.Shows value

theorem System.shows_of_found {sys : System} {path : Path} {file : File}
    (found : sys.files.get? path = some file) (value : String) :
    sys.Shows path value ↔ file.content.Shows value := by
  constructor
  · rintro ⟨other, present, shown⟩
    rw [found] at present
    cases present
    exact shown
  · exact fun shown => ⟨file, found, shown⟩

instance (sys : System) (path : Path) (value : String) : Decidable (sys.Shows path value) :=
  decidable_of_iff ((sys.files.get? path).any fun file => decide (file.content.Shows value)) (by
    unfold System.Shows
    rw [Option.any_eq_true]
    simp only [decide_eq_true_iff])

/-- What an access that reads an attribute returns is the content of its file. -/
theorem Env.advance_content {env : Env} {world : World} {access : Access} {path : Path}
    {content : Content} (reads : access = .read path ∨ access = .compare path)
    (replied : (env.serve world access).1 = .content content) :
    ∃ file, (env.advance world access).sys.files.get? path = some file ∧
      file.content = content := by
  have responds : env.respond world.clock (env.interfere world.clock world.sys) access =
      env.respond world.clock (env.interfere world.clock world.sys) (.read path) := by
    rcases reads with rfl | rfl <;> rfl
  revert replied
  simp only [Env.advance, Env.serve]
  cases env.fault world.clock access with
  | some fault => exact fun failed => by cases failed
  | none =>
      dsimp only
      rw [responds, Env.respond]
      cases hit : (env.interfere world.clock world.sys).files.get? path with
      | none => exact fun failed => by cases failed
      | some file =>
          intro same
          cases same
          exact ⟨file, hit, rfl⟩

/-- A comparison is one access, which finds out whether the value is shown. -/
theorem Sysfs.readConfigurationValueEquals_ok {path : Path} {value : String} {env : Env}
    {world after : World} {shown : Bool}
    (run : readConfigurationValueEquals path value env world = (.ok shown, after)) :
    after = env.advance world (.compare path) ∧
      (shown = true → (env.advance world (.compare path)).sys.Shows path value) := by
  obtain ⟨reply, served, performed, decided⟩ := Exec.bind_eq_ok run
  cases performed
  cases replied : (env.serve world (.compare path)).1 with
  | failed fault =>
      simp only [replied] at decided
      split at decided
      · split at decided
        · cases decided
          exact ⟨rfl, fun h => by cases h⟩
        · cases decided
      · cases decided
  | done =>
      simp only [replied] at decided
      cases decided
      exact ⟨rfl, fun h => by cases h⟩
  | content content =>
      simp only [replied] at decided
      cases decided
      refine ⟨rfl, fun equal => ?_⟩
      rw [matchConfigurationChunks_eq_true, bufferChunks_flatten] at equal
      obtain ⟨file, hit, rfl⟩ := Env.advance_content (.inr rfl) replied
      exact ⟨file, hit, equal⟩

/-! ## Comparison and recapture -/

/-- Comparing the chunks of a file with a captured value is capturing it again and comparing the
values, unless the value ends in a newline and is the whole file. -/
theorem streamedComparison_iff (earlier later : String) (chunks : List (List UInt8))
    (cut : chunks.flatten = Text.utf8Bytes later) :
    let value := stripFinalNewline earlier
    (matchConfigurationChunks (Text.utf8Bytes value) chunks 0 false = true ↔
      stripFinalNewline later = value) ↔
      ¬ (value.toList.getLast? = some '\n' ∧ later = value) := by
  intro value
  have newline : [0x0a] = Text.utf8Bytes "\n" := by decide
  rw [matchConfigurationChunks_eq_true, cut, newline, ← utf8Bytes_append,
    utf8Bytes_injective.eq_iff, utf8Bytes_injective.eq_iff, stripFinalNewline_eq_iff]
  have longer : value ≠ value ++ "\n" := by
    intro same
    have lengths := congrArg String.length same
    simp at lengths
  constructor
  · rintro agree ⟨ends, same⟩
    rcases agree.mp (.inl same) with terminated | ⟨_, single⟩
    · exact longer (same.symm.trans terminated)
    · exact single ends
  · intro apart
    constructor
    · rintro (same | terminated)
      · exact .inr ⟨same, fun ends => apart ⟨ends, same⟩⟩
      · exact .inl terminated
    · rintro (terminated | ⟨same, _⟩)
      · exact .inr terminated
      · exact .inl same

/-- A value captured before two final newlines is found again after one of them is gone, and would
be captured as another value. -/
theorem streamedComparison_newlines :
    ¬ ∀ (earlier later : String) (chunks : List (List UInt8)),
      chunks.flatten = Text.utf8Bytes later →
        (matchConfigurationChunks (Text.utf8Bytes (stripFinalNewline earlier)) chunks 0 false =
            true ↔ stripFinalNewline later = stripFinalNewline earlier) := by
  intro agree
  have found := agree "a\n\n" "a\n" [[0x61], [0x0a]] (by decide)
  exact absurd (found.mp (by decide)) (by decide)

/-- One value read in two chunks. -/
theorem streamedComparison_iff_chunks :
    matchConfigurationChunks (Text.utf8Bytes (stripFinalNewline "42\n")) [[0x34], [0x32, 0x0a]] 0
      false = true ↔ stripFinalNewline "42\n" = stripFinalNewline "42\n" := by
  have cut : [[0x34], [0x32, 0x0a]].flatten = Text.utf8Bytes "42\n" := by decide
  exact (streamedComparison_iff "42\n" "42\n" _ cut).mpr (by decide)

end DamonRs
