import DamonRs.Config.Normalization
import DamonRs.Sysfs.Plain
import DamonRs.Sysfs.Reading

/-!
# What a hierarchy shows

A program that only reads is a function of the files.  Its successful results
are those of its parts, so what a typed read returns comes down to what the
single attributes show.
-/

namespace DamonRs

open Library Sysfs

/-- A plain program that writes nothing. -/
class Reader {α : Type} (program : Sysfs α) : Prop where
  plain : Plain ReadsOnly program

/-- What a reading program returns on some files. -/
def seen {α : Type} (program : Sysfs α) (files : Files) : Except Error α :=
  ((step ⟨fun _ _ => []⟩ program).run files).returned

/-- A reading program returns a value on some files. -/
def Shows {α : Type} (program : Sysfs α) (files : Files) (value : α) : Prop :=
  seen program files = .ok value

namespace Reader

variable {α β : Type} {kernel : Kernel}

instance pure (value : α) : Reader (Pure.pure value : Sysfs α) := ⟨.pure value⟩

instance present (path : Path) : Reader (pathExists path) := ⟨.present path trivial⟩

instance text (path : Path) : Reader (readText path) := ⟨.readText path trivial⟩

instance numberText (path : Path) : Reader (readNumberText path) := ⟨.readNumberText path trivial⟩

instance invalidValue (path : Path) (value expected : String) :
    Reader (invalidKernelValue path value expected : Sysfs α) := ⟨.fail _ rfl⟩

instance bind {program : Sysfs α} {next : α → Sysfs β} [first : Reader program]
    [second : ∀ value, Reader (next value)] : Reader (program >>= next) :=
  ⟨.bind first.plain fun value => (second value).plain⟩

instance ite {condition : Prop} [Decidable condition] {first second : Sysfs α}
    [one : Reader first] [two : Reader second] :
    Reader (if condition then first else second) := by
  split
  · exact one
  · exact two

theorem ofExcept {outcome : Except Error α}
    (lasting : ∀ error, outcome = .error error → error.isResourceBusy = false) :
    Reader (Exec.ofExcept outcome : Sysfs α) := by
  cases outcome with
  | ok value => exact ⟨.pure value⟩
  | error error => exact ⟨.fail error (lasting error rfl)⟩

instance mapEach {body : α → Sysfs β} {items : List α} [each : ∀ item, Reader (body item)] :
    Reader (Exec.mapEach body items) := by
  induction items with
  | nil => exact pure []
  | cons item rest ih => exact @bind _ _ _ _ _ fun value => bind

/-- The step of a reading program looks at the files. -/
theorem step (program : Sysfs α) [reader : Reader program] :
    (Sysfs.step kernel program).Refines (.observe (seen program)) := by
  have same : ∀ {α : Type} {program : Sysfs α}, Plain ReadsOnly program →
      ∃ look, ∀ kernel, (Sysfs.step kernel program).Refines (.observe look) := by
    intro α program plain
    induction plain with
    | pure value => exact ⟨fun _ => .ok value, fun _ => (pure_step value).2⟩
    | fail error lasting => exact ⟨fun _ => .error error, fun _ => (fail_step lasting).2⟩
    | present path _ => exact ⟨_, fun kernel => (pathExists_step kernel path).2⟩
    | readText path _ => exact ⟨_, fun kernel => (readText_step kernel path).2⟩
    | readNumberText path _ => exact ⟨_, fun kernel => (readNumberText_step kernel path).2⟩
    | write path value permitted _ => exact permitted.elim
    | widest path permitted _ _ => exact (permitted "").elim
    | bind first second one two =>
        obtain ⟨look, refines⟩ := one
        choose looks each using two
        refine ⟨fun files => look files >>= fun value => looks value files, fun kernel => ?_⟩
        refine (first.step_bind second kernel).trans
          (((refines kernel).bind fun value => each value kernel).trans ⟨?_, ?_⟩)
        · funext files
          cases found : look files <;> simp [Step.bind, Step.observe, found] <;> rfl
        · rintro files written left (early | ⟨_, _, _, late, _⟩)
          · exact early.elim
          · exact late.elim
  obtain ⟨look, refines⟩ := same reader.plain
  have looked : seen program = look := by
    funext files
    simp only [seen, (refines _).run, Step.observe]
  rw [looked]
  exact refines kernel

theorem run (program : Sysfs α) [Reader program] (files : Files) :
    (Sysfs.step kernel program).run files = ⟨seen program files, ∅, files⟩ := by
  rw [(step program).run]
  rfl

end Reader

/-! ## Results of compositions -/

section Seen

variable {α β : Type}

@[simp] theorem seen_pathExists (path : Path) (files : Files) :
    seen (pathExists path) files = .ok (files.pathExists path) := by
  simp only [seen, (pathExists_step _ path).2.run, Step.observe]

@[simp] theorem seen_readText (path : Path) (files : Files) :
    seen (readText path) files = files.text path := by
  simp only [seen, (readText_step _ path).2.run, Step.observe]

@[simp] theorem seen_readNumberText (path : Path) (files : Files) :
    seen (readNumberText path) files = files.numberText path := by
  simp only [seen, (readNumberText_step _ path).2.run, Step.observe]

theorem seen_bind {program : Sysfs α} {next : α → Sysfs β} [first : Reader program]
    [second : ∀ value, Reader (next value)] (files : Files) :
    seen (program >>= next) files = seen program files >>= fun value => seen (next value) files := by
  unfold seen
  rw [(first.plain.step_bind (fun value => (second value).plain) _).run]
  cases found : seen program files with
  | ok value =>
      have ok : ((step ⟨fun _ _ => []⟩ program).run files).returned = .ok value := found
      rw [Step.bind_run_ok ok, Reader.run program, found]
      rfl
  | error error =>
      have failed : ((step ⟨fun _ _ => []⟩ program).run files).returned = .error error := found
      rw [Step.bind_run_error failed, Reader.run program, found]
      rfl

/-- A composition shows what its parts show. -/
theorem shows_bind {program : Sysfs α} {next : α → Sysfs β} [Reader program]
    [∀ value, Reader (next value)] {files : Files} {result : β} :
    Shows (program >>= next) files result ↔
      ∃ value, Shows program files value ∧ Shows (next value) files result := by
  unfold Shows
  rw [seen_bind]
  cases seen program files with
  | ok value =>
      constructor
      · exact fun shown => ⟨value, rfl, shown⟩
      · rintro ⟨_, same, shown⟩
        cases same
        exact shown
  | error error =>
      constructor
      · intro shown
        cases shown
      · rintro ⟨_, other, _⟩
        cases other

@[simp] theorem shows_pure {value result : α} {files : Files} :
    Shows (pure value : Sysfs α) files result ↔ value = result :=
  ⟨Except.ok.inj, congrArg Except.ok⟩

@[simp] theorem shows_pathExists {path : Path} {files : Files} {result : Bool} :
    Shows (pathExists path) files result ↔ files.pathExists path = result := by
  simp [Shows]

end Seen

/-! ## Reading helpers -/

section Helpers

variable {α : Type}

instance readIndexed_reader {count : Nat} {read : Nat → Sysfs α} [∀ index, Reader (read index)] :
    Reader (readIndexed count read) := by
  unfold readIndexed
  infer_instance

instance optionalRead_reader {path : Path} {read : Sysfs α} [Reader read] :
    Reader (optionalRead path read) := by
  unfold optionalRead
  infer_instance

instance optionalPair_reader {first second : Path} {read : Sysfs α} [Reader read] :
    Reader (optionalPair first second read) := by
  unfold optionalPair
  infer_instance

instance optionalReadOr_reader {path : Path} {read : Sysfs α} {missing : α} [Reader read] :
    Reader (optionalReadOr path read missing) := by
  unfold optionalReadOr
  infer_instance

instance readU64_reader (path : Path) : Reader (readU64 path) := by
  unfold readU64
  refine @Reader.bind _ _ _ _ _ fun value => ?_
  cases Text.parseUnsigned u64Bound value with
  | some number => exact Reader.pure _
  | none => exact Reader.invalidValue ..

instance readUsize_reader (path : Path) : Reader (readUsize path) := by
  unfold readUsize
  infer_instance

instance readU32_reader (path : Path) : Reader (readU32 path) := by
  unfold readU32
  infer_instance

instance readI32_reader (path : Path) : Reader (readI32 path) := by
  unfold readI32
  refine @Reader.bind _ _ _ _ _ fun text => ?_
  dsimp only
  cases Text.parseSigned intBound (Text.trim text) with
  | some number => exact Reader.pure _
  | none => exact Reader.invalidValue ..

instance readBool_reader (path : Path) : Reader (readBool path) := by
  unfold readBool
  infer_instance

instance readEnum_reader (path : Path) (parse : String → α) : Reader (readEnum path parse) := by
  unfold readEnum
  infer_instance

instance readSysfsString_reader (path : Path) : Reader (readSysfsString path) := by
  unfold readSysfsString
  infer_instance

instance readCounted_reader {countPath : Path} {read : Nat → Sysfs α}
    [∀ index, Reader (read index)] : Reader (readCounted countPath read) := by
  unfold readCounted
  infer_instance

end Helpers

end DamonRs
