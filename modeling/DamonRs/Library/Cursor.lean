import Mathlib.Data.List.Basic
import Mathlib.Tactic.Ring

/-!
# Cursor parsers

A cursor is a fixed input together with an offset into it, and a parser is a
fallible step on cursors.  The relation `Reads` says that a parser consumes
exactly one chunk wherever that chunk stands in front of a given suffix.  The
suffix is part of the relation because a parser may look at how much input is
left before it accepts a length.  `Rejects` is the failing counterpart.
-/

namespace DamonRs.Library

/-- A fixed input and the number of items already consumed. -/
structure Cursor (β : Type) where
  items : List β
  offset : Nat
  deriving Repr, DecidableEq

namespace Cursor

variable {β : Type}

/-- The cursor that stands at the start of its input. -/
def start (items : List β) : Cursor β := ⟨items, 0⟩

/-- The number of items that have not been consumed. -/
def remaining (cursor : Cursor β) : Nat := cursor.items.length - cursor.offset

/-- The cursor between `before` and `after`. -/
def between (before after : List β) : Cursor β := ⟨before ++ after, before.length⟩

@[simp] theorem between_items (before after : List β) :
    (between before after).items = before ++ after := rfl

@[simp] theorem between_offset (before after : List β) :
    (between before after).offset = before.length := rfl

@[simp] theorem between_nil (after : List β) : between [] after = start after := rfl

@[simp] theorem remaining_between (before after : List β) :
    (between before after).remaining = after.length := by
  simp [remaining]

end Cursor

/-- A fallible step on cursors. -/
abbrev Parser (β ε α : Type) := StateT (Cursor β) (Except ε) α

namespace Parser

variable {β ε α γ : Type}

/-- The parser consumes `chunk`, standing before `suffix`, and returns `value`. -/
def Reads (limit : Nat) (parser : Parser β ε α) (chunk suffix : List β) (value : α) : Prop :=
  ∀ before : List β, (before ++ (chunk ++ suffix)).length ≤ limit →
    parser (Cursor.between before (chunk ++ suffix)) =
      .ok (value, Cursor.between (before ++ chunk) suffix)

/-- The parser stops with `error` in front of `suffix`. -/
def Rejects (limit : Nat) (parser : Parser β ε α) (suffix : List β) (error : ε) : Prop :=
  ∀ before : List β, (before ++ suffix).length ≤ limit →
    parser (Cursor.between before suffix) = .error error

theorem reads_pure (limit : Nat) (value : α) (suffix : List β) :
    Reads limit (pure value : Parser β ε α) [] suffix value := by
  intro before _
  rw [List.append_nil]
  rfl

/-- Sequential composition reads the two chunks in order. -/
theorem Reads.bind {limit : Nat} {parser : Parser β ε α} {next : α → Parser β ε γ}
    {first second suffix : List β} {value : α} {result : γ}
    (reads : Reads limit parser first (second ++ suffix) value)
    (nextReads : Reads limit (next value) second suffix result) :
    Reads limit (parser >>= next) (first ++ second) suffix result := by
  intro before bounded
  have firstRun := reads before (by simpa [List.append_assoc] using bounded)
  have secondRun := nextReads (before ++ first) (by simpa [List.append_assoc] using bounded)
  simp only [Bind.bind, StateT.bind, Except.bind, List.append_assoc, firstRun]
  simpa [List.append_assoc] using secondRun

/-- A first step that consumes nothing leaves the whole chunk to its successor. -/
theorem Reads.bind_nil {limit : Nat} {parser : Parser β ε α} {next : α → Parser β ε γ}
    {chunk suffix : List β} {value : α} {result : γ}
    (reads : Reads limit parser [] (chunk ++ suffix) value)
    (nextReads : Reads limit (next value) chunk suffix result) :
    Reads limit (parser >>= next) chunk suffix result := by
  have composed : Reads limit (parser >>= next) ([] ++ chunk) suffix result :=
    reads.bind nextReads
  simpa using composed

/-- A successor that consumes nothing leaves the whole chunk to the first step. -/
theorem Reads.bind_last {limit : Nat} {parser : Parser β ε α} {next : α → Parser β ε γ}
    {chunk suffix : List β} {value : α} {result : γ}
    (reads : Reads limit parser chunk suffix value)
    (nextReads : Reads limit (next value) [] suffix result) :
    Reads limit (parser >>= next) chunk suffix result := by
  have composed : Reads limit (parser >>= next) (chunk ++ []) suffix result :=
    Reads.bind (by simpa using reads) nextReads
  simpa using composed

/-- After a chunk has been read the successor runs behind it. -/
theorem Reads.run_bind {limit : Nat} {parser : Parser β ε α} {first suffix : List β} {value : α}
    (reads : Reads limit parser first suffix value) (next : α → Parser β ε γ) (before : List β)
    (bounded : (before ++ (first ++ suffix)).length ≤ limit) :
    (parser >>= next) (Cursor.between before (first ++ suffix)) =
      next value (Cursor.between (before ++ first) suffix) := by
  simp only [Bind.bind, StateT.bind, Except.bind, reads before bounded]

/-- A failure after a chunk has been read is a failure of the composition. -/
theorem Reads.bind_rejects {limit : Nat} {parser : Parser β ε α} {next : α → Parser β ε γ}
    {first suffix : List β} {value : α} {error : ε}
    (reads : Reads limit parser first suffix value)
    (nextRejects : Rejects limit (next value) suffix error) :
    Rejects limit (parser >>= next) (first ++ suffix) error := by
  intro before bounded
  rw [reads.run_bind next before bounded]
  exact nextRejects (before ++ first) (by simpa [List.append_assoc] using bounded)

/-- A failure after a check that consumes nothing. -/
theorem Reads.nil_rejects {limit : Nat} {parser : Parser β ε α} {next : α → Parser β ε γ}
    {suffix : List β} {value : α} {error : ε} (reads : Reads limit parser [] suffix value)
    (nextRejects : Rejects limit (next value) suffix error) :
    Rejects limit (parser >>= next) suffix error := by
  have composed : Rejects limit (parser >>= next) ([] ++ suffix) error :=
    reads.bind_rejects nextRejects
  simpa using composed

theorem Rejects.bind {limit : Nat} {parser : Parser β ε α} {next : α → Parser β ε γ}
    {suffix : List β} {error : ε} (rejects : Rejects limit parser suffix error) :
    Rejects limit (parser >>= next) suffix error := by
  intro before bounded
  simp only [Bind.bind, StateT.bind, Except.bind, rejects before bounded]

/-- Run a parser a fixed number of times and collect its results. -/
def times (parser : Parser β ε α) : Nat → Parser β ε (List α)
  | 0 => pure []
  | count + 1 => do
      let value ← parser
      let values ← times parser count
      pure (value :: values)

/-- Repetition reads the concatenation of the chunks of its results. -/
theorem reads_times {limit : Nat} {parser : Parser β ε α} (chunk : α → List β)
    (values : List α) (suffix : List β)
    (reads : ∀ value ∈ values, ∀ after, Reads limit parser (chunk value) after value) :
    Reads limit (times parser values.length) (values.flatMap chunk) suffix values := by
  induction values with
  | nil => exact reads_pure limit [] suffix
  | cons value rest ih =>
      have restReads := ih fun item member => reads item (List.mem_cons_of_mem value member)
      have headReads := reads value (List.mem_cons_self ..)
      simp only [List.length_cons, times, List.flatMap_cons]
      apply (headReads (rest.flatMap chunk ++ suffix)).bind
      exact restReads.bind_last (reads_pure limit (value :: rest) suffix)

/-! ## What an accepted input consists of -/

/-- Whatever the parser accepts starts with the chunk of its result, which is `good`, and it
accepts the same when more input follows. -/
def Delimits (parser : Parser β ε α) (chunk : α → List β) (good : α → Prop) : Prop :=
  ∀ before rest value cursor, parser (Cursor.between before rest) = .ok (value, cursor) →
    good value ∧ ∃ suffix, rest = chunk value ++ suffix ∧
      cursor = Cursor.between (before ++ chunk value) suffix ∧
      ∀ more, parser (Cursor.between before (rest ++ more)) =
        .ok (value, Cursor.between (before ++ chunk value) (suffix ++ more))

theorem delimits_pure (value : α) :
    Delimits (pure value : Parser β ε α) (fun _ => []) (· = value) := by
  intro before rest result cursor run
  cases run
  refine ⟨rfl, rest, rfl, by simp, fun more => ?_⟩
  rw [List.append_nil]
  rfl

/-- A composition is accepted when both parts are. -/
theorem bind_run_ok {parser : Parser β ε α} {next : α → Parser β ε γ} {cursor after : Cursor β}
    {result : γ} (run : (parser >>= next) cursor = .ok (result, after)) :
    ∃ value middle, parser cursor = .ok (value, middle) ∧ next value middle = .ok (result, after) := by
  simp only [Bind.bind, StateT.bind, Except.bind] at run
  cases first : parser cursor with
  | error error => simp [first] at run
  | ok pair => exact ⟨pair.1, pair.2, rfl, by simpa [first] using run⟩

theorem bind_run {parser : Parser β ε α} {next : α → Parser β ε γ} {cursor middle : Cursor β}
    {value : α} (run : parser cursor = .ok (value, middle)) :
    (parser >>= next) cursor = next value middle := by
  simp only [Bind.bind, StateT.bind, Except.bind, run]

/-- The chunks of two parts follow each other. -/
theorem Delimits.bind {parser : Parser β ε α} {next : α → Parser β ε γ} {first : α → List β}
    {chunk : γ → List β} {good : α → Prop} {best : γ → Prop} (delimits : Delimits parser first good)
    (second : α → γ → List β) (better : α → γ → Prop)
    (nextDelimits : ∀ value, good value → Delimits (next value) (second value) (better value))
    (joins : ∀ value result, good value → better value result →
      best result ∧ chunk result = first value ++ second value result) :
    Delimits (parser >>= next) chunk best := by
  intro before rest result cursor run
  obtain ⟨value, middle, firstRun, secondRun⟩ := bind_run_ok run
  obtain ⟨isGood, suffix, rfl, rfl, again⟩ := delimits before rest value middle firstRun
  obtain ⟨isBetter, last, rfl, rfl, nextAgain⟩ :=
    nextDelimits value isGood _ suffix result cursor secondRun
  obtain ⟨isBest, whole⟩ := joins value result isGood isBetter
  rw [whole]
  refine ⟨isBest, last, by rw [List.append_assoc], by rw [List.append_assoc], fun more => ?_⟩
  rw [bind_run (again more), nextAgain more, List.append_assoc]

/-- A result that is computed from the value of a parser. -/
theorem Delimits.map {parser : Parser β ε α} {result : α → γ} {first : α → List β}
    {good : α → Prop} (delimits : Delimits parser first good) (chunk : γ → List β)
    (best : γ → Prop)
    (joins : ∀ value, good value → best (result value) ∧ chunk (result value) = first value) :
    Delimits (parser >>= fun value => pure (result value)) chunk best := by
  refine delimits.bind (fun _ _ => []) (fun value made => made = result value)
    (fun value _ => delimits_pure (result value)) ?_
  rintro value _ isGood rfl
  rw [List.append_nil]
  exact joins value isGood

/-- A parser that accepts nothing. -/
theorem delimits_never {parser : Parser β ε α} {chunk : α → List β} {good : α → Prop}
    (never : ∀ cursor value after, parser cursor ≠ .ok (value, after)) :
    Delimits parser chunk good :=
  fun _ _ _ _ run => absurd run (never _ _ _)

/-- Repetition delimits the concatenation of the chunks. -/
theorem delimits_times {parser : Parser β ε α} {chunk : α → List β} {good : α → Prop}
    (delimits : Delimits parser chunk good) (count : Nat) :
    Delimits (times parser count) (fun values => values.flatMap chunk)
      fun values => values.length = count ∧ ∀ value ∈ values, good value := by
  induction count with
  | zero =>
      intro before rest values cursor run
      obtain ⟨rfl, others⟩ := delimits_pure [] before rest values cursor run
      exact ⟨⟨rfl, by simp⟩, others⟩
  | succ count ih =>
      refine delimits.bind (fun _ values => values.tail.flatMap chunk)
        (fun value values => ∃ tail, values = value :: tail ∧ tail.length = count ∧
          ∀ other ∈ tail, good other)
        (fun value isGood => ih.map _ _ fun values counted => ?_) ?_
      · exact ⟨⟨values, rfl, counted⟩, rfl⟩
      · rintro value _ isGood ⟨tail, rfl, counted, others⟩
        refine ⟨⟨by simp [counted], ?_⟩, by simp⟩
        rintro other (_ | ⟨_, member⟩)
        · exact isGood
        · exact others other member

/-! ## What an accepted input says about its value -/

/-- Whatever the parser accepts, its value is good. -/
def Ensures (parser : Parser β ε α) (good : α → Prop) : Prop :=
  ∀ cursor value after, parser cursor = .ok (value, after) → good value

namespace Ensures

variable {good : α → Prop} {best : γ → Prop}

protected theorem pure {value : α} (holds : good value) :
    Ensures (pure value : Parser β ε α) good := by
  intro cursor result after run
  cases run
  exact holds

theorem any (parser : Parser β ε α) : Ensures parser fun _ => True :=
  fun _ _ _ _ => trivial

theorem never {parser : Parser β ε α}
    (fails : ∀ cursor value after, parser cursor ≠ .ok (value, after)) : Ensures parser good :=
  fun cursor value after run => absurd run (fails cursor value after)

protected theorem bind {parser : Parser β ε α} {next : α → Parser β ε γ}
    (first : Ensures parser good) (second : ∀ value, good value → Ensures (next value) best) :
    Ensures (parser >>= next) best := by
  intro cursor result after run
  obtain ⟨value, middle, firstRun, secondRun⟩ := bind_run_ok run
  exact second value (first cursor value middle firstRun) middle result after secondRun

theorem times {parser : Parser β ε α} (each : Ensures parser good) (count : Nat) :
    Ensures (times parser count) fun values => ∀ value ∈ values, good value := by
  induction count with
  | zero => exact .pure (by simp)
  | succ count ih =>
      refine each.bind fun value holds => ih.bind fun values others => .pure ?_
      rintro other (_ | ⟨_, member⟩)
      · exact holds
      · exact others other member

end Ensures

end Parser

/-- Nonempty chunks are at least as many items as values. -/
theorem length_le_flatMap {α β : Type} (chunk : α → List β) (values : List α)
    (nonempty : ∀ value ∈ values, 1 ≤ (chunk value).length) :
    values.length ≤ (values.flatMap chunk).length := by
  induction values with
  | nil => simp
  | cons value rest ih =>
      have head := nonempty value (List.mem_cons_self ..)
      have tail := ih fun other member => nonempty other (List.mem_cons_of_mem value member)
      simp only [List.length_cons, List.flatMap_cons, List.length_append]
      omega

theorem length_le_length_flatMap {α β : Type} (chunk : α → List β) {values : List α} {value : α}
    (member : value ∈ values) : (chunk value).length ≤ (values.flatMap chunk).length := by
  obtain ⟨first, second, rfl⟩ := List.append_of_mem member
  simp only [List.flatMap_append, List.flatMap_cons, List.length_append]
  omega

/-! ## Little-endian numbers -/

/-- The `width` low bytes of a number, least significant first. -/
def toLeBytes : Nat → Nat → List UInt8
  | 0, _ => []
  | width + 1, value => UInt8.ofNat (value % 256) :: toLeBytes width (value / 256)

/-- The number whose bytes are given least significant first. -/
def fromLeBytes : List UInt8 → Nat
  | [] => 0
  | byte :: rest => byte.toNat + 256 * fromLeBytes rest

@[simp] theorem toLeBytes_length (width value : Nat) : (toLeBytes width value).length = width := by
  induction width generalizing value with
  | zero => rfl
  | succ width ih => simp [toLeBytes, ih]

theorem fromLeBytes_toLeBytes (width value : Nat) (fits : value < 256 ^ width) :
    fromLeBytes (toLeBytes width value) = value := by
  induction width generalizing value with
  | zero =>
      have zero : value = 0 := by simpa using fits
      simp [toLeBytes, fromLeBytes, zero]
  | succ width ih =>
      have quotientFits : value / 256 < 256 ^ width := by
        rw [pow_succ] at fits
        exact Nat.div_lt_of_lt_mul (by rwa [Nat.mul_comm] at fits)
      have low : (UInt8.ofNat (value % 256)).toNat = value % 256 := by
        simp [UInt8.toNat_ofNat']
      simp only [toLeBytes, fromLeBytes, low, ih _ quotientFits]
      omega

theorem fromLeBytes_lt (bytes : List UInt8) : fromLeBytes bytes < 256 ^ bytes.length := by
  induction bytes with
  | nil => simp [fromLeBytes]
  | cons byte rest ih =>
      have small := byte.toNat_lt
      simp only [fromLeBytes, List.length_cons, pow_succ]
      omega

/-- Numbers are written as they were read. -/
theorem toLeBytes_fromLeBytes (bytes : List UInt8) :
    toLeBytes bytes.length (fromLeBytes bytes) = bytes := by
  induction bytes with
  | nil => rfl
  | cons byte rest ih =>
      have small := byte.toNat_lt
      have low : (byte.toNat + 256 * fromLeBytes rest) % 256 = byte.toNat := by omega
      have high : (byte.toNat + 256 * fromLeBytes rest) / 256 = fromLeBytes rest := by omega
      simp only [List.length_cons, toLeBytes, fromLeBytes, low, high, ih, UInt8.ofNat_toNat]

end DamonRs.Library
