import Mathlib.Data.List.Induction
import Mathlib.Data.List.TakeWhile
import Mathlib.Data.Nat.Digits.Defs
import Mathlib.Data.String.Basic
import Mathlib.Tactic.IntervalCases

/-!
# Text values

Trimming and decimal parsing of text as the standard library of the modelled
program performs them: trimming removes every Unicode white-space character,
and a decimal number may carry one leading plus sign.
-/

namespace DamonRs.Library.Text

/-- The Unicode `White_Space` property. -/
def isUnicodeWhitespace (c : Char) : Bool :=
  let code := c.toNat
  (0x09 ≤ code && code ≤ 0x0d) || code == 0x20 || code == 0x85 || code == 0xa0 ||
    code == 0x1680 || (0x2000 ≤ code && code ≤ 0x200a) || code == 0x2028 || code == 0x2029 ||
    code == 0x202f || code == 0x205f || code == 0x3000

/-- The ASCII white-space characters: space, tab, line feed, form feed and carriage return. -/
def isAsciiWhitespace (c : Char) : Bool :=
  let code := c.toNat
  code == 0x20 || code == 0x09 || code == 0x0a || code == 0x0c || code == 0x0d

/-- Remove characters satisfying `drop` from both ends. -/
def trimChars (drop : Char → Bool) (chars : List Char) : List Char :=
  (((chars.dropWhile drop).reverse).dropWhile drop).reverse

/-- Remove surrounding Unicode white space. -/
def trim (text : String) : String :=
  String.ofList (trimChars isUnicodeWhitespace text.toList)

/-- The value of a decimal digit. -/
def digitValue (c : Char) : Option Nat :=
  if 0x30 ≤ c.toNat ∧ c.toNat ≤ 0x39 then some (c.toNat - 0x30) else none

/-- Accumulate decimal digits, most significant first. -/
def parseDigits : Nat → List Char → Option Nat
  | total, [] => some total
  | total, c :: rest =>
      match digitValue c with
      | some digit => parseDigits (10 * total + digit) rest
      | none => none

/-- Digits after an optional plus sign; a sign alone or nothing is rejected. -/
def parseDecimal (chars : List Char) : Option Nat :=
  match chars with
  | [] => none
  | '+' :: [] => none
  | '+' :: rest => parseDigits 0 rest
  | chars => parseDigits 0 chars

/-- Parse an unsigned integer type whose values are below `bound`. -/
def parseUnsigned (bound : Nat) (text : String) : Option Nat :=
  match parseDecimal text.toList with
  | some value => if value < bound then some value else none
  | none => none

/-- Parse a signed integer type with `bound` non-negative values. -/
def parseSigned (bound : Nat) (text : String) : Option Int :=
  match text.toList with
  | '-' :: [] => none
  | '-' :: rest =>
      match parseDigits 0 rest with
      | some value => if value ≤ bound then some (-(value : Int)) else none
      | none => none
  | _ => (parseUnsigned bound text).map Int.ofNat

theorem parseUnsigned_lt {bound : Nat} {text : String} {value : Nat}
    (parsed : parseUnsigned bound text = some value) : value < bound := by
  unfold parseUnsigned at parsed
  split at parsed
  · split at parsed
    · rename_i small
      injection parsed with same
      exact same ▸ small
    · cases parsed
  · cases parsed

theorem parseSigned_range {bound : Nat} (positive : 0 < bound) {text : String} {number : Int}
    (parsed : parseSigned bound text = some number) :
    -(bound : Int) ≤ number ∧ number < bound := by
  unfold parseSigned at parsed
  split at parsed
  · cases parsed
  · split at parsed
    · split at parsed
      · injection parsed with same
        omega
      · cases parsed
    · cases parsed
  · obtain ⟨value, unsigned, same⟩ := Option.map_eq_some_iff.mp parsed
    have small := parseUnsigned_lt unsigned
    rw [← same]
    constructor
    · exact le_trans (neg_nonpos.mpr (Int.natCast_nonneg bound)) (Int.natCast_nonneg value)
    · exact Int.ofNat_lt.mpr small

/-- The UTF-8 encoding. -/
def utf8Bytes (text : String) : List UInt8 := text.toUTF8.data.toList

/-- The text encoded by UTF-8 bytes. -/
def ofUtf8Bytes? (bytes : List UInt8) : Option String := String.fromUTF8? bytes.toByteArray

theorem ofUtf8Bytes?_utf8Bytes (text : String) : ofUtf8Bytes? (utf8Bytes text) = some text := by
  have same : (utf8Bytes text).toByteArray = text.toUTF8 := by
    ext1
    simp [utf8Bytes, List.data_toByteArray]
  simp only [ofUtf8Bytes?, same, String.fromUTF8?]
  exact dif_pos text.isValidUTF8

/-- A decoded text is encoded by the bytes it was decoded from. -/
theorem utf8Bytes_of_ofUtf8Bytes? {bytes : List UInt8} {text : String}
    (decoded : ofUtf8Bytes? bytes = some text) : utf8Bytes text = bytes := by
  unfold ofUtf8Bytes? String.fromUTF8? at decoded
  split at decoded
  · injection decoded with same
    rw [← same]
    simp [utf8Bytes, String.fromUTF8, List.data_toByteArray]
  · cases decoded

/-- Different bytes are the codes of different characters. -/
theorem charOfByte_injective : Function.Injective fun byte : UInt8 => Char.ofNat byte.toNat := by
  have code : ∀ byte : UInt8, (Char.ofNat byte.toNat).toNat = byte.toNat := by
    intro byte
    have small := byte.toNat_lt
    have valid : byte.toNat.isValidChar := .inl (by omega)
    rw [Char.ofNat, dif_pos valid]
    rfl
  intro byte other same
  exact UInt8.toNat_inj.mp ((code byte).symm.trans ((congrArg Char.toNat same).trans (code other)))

/-- A text that starts with a NUL character has a NUL byte. -/
theorem zero_mem_utf8Bytes (rest : List Char) :
    (0 : UInt8) ∈ utf8Bytes (String.ofList (Char.ofNat 0 :: rest)) := by
  have first : [Char.ofNat 0].utf8Encode = [(0 : UInt8)].toByteArray := by
    rw [List.utf8Encode_singleton]
    decide
  rw [utf8Bytes, String.toUTF8_eq_toByteArray, String.toByteArray_ofList, List.utf8Encode_cons,
    first]
  simp

/-! ## Trimming -/

/-- Neither the first nor the last character of a text would be trimmed. -/
structure Trimmed (text : String) : Prop where
  first : ∀ c, text.toList.head? = some c → isUnicodeWhitespace c = false
  last : ∀ c, text.toList.getLast? = some c → isUnicodeWhitespace c = false

theorem trimChars_append {drop : Char → Bool} {chars rest : List Char}
    (first : ∀ c, chars.head? = some c → drop c = false)
    (last : ∀ c, chars.getLast? = some c → drop c = false) (dropped : rest.all drop = true) :
    trimChars drop (chars ++ rest) = chars := by
  have allDropped : ∀ others : List Char, others.all drop = true →
      others.dropWhile drop = [] := fun others all =>
    List.dropWhile_eq_nil_iff.mpr fun x member => List.all_eq_true.mp all x member
  cases chars with
  | nil => simp [trimChars, allDropped rest dropped]
  | cons c chars =>
      have kept : ¬drop c = true := by simp [first c rfl]
      have ends : ((c :: chars) ++ rest).dropWhile drop = (c :: chars) ++ rest := by
        rw [List.cons_append, List.dropWhile_cons_of_neg kept]
      have reversed : (rest.reverse ++ (c :: chars).reverse).dropWhile drop =
          (c :: chars).reverse := by
        rw [List.dropWhile_append_of_pos fun x member =>
          List.all_eq_true.mp dropped x (List.mem_reverse.mp member)]
        cases backwards : (c :: chars).reverse with
        | nil => simp at backwards
        | cons l others =>
            have isLast : (c :: chars).getLast? = some l := by
              rw [← List.head?_reverse, backwards]
              rfl
            exact List.dropWhile_cons_of_neg (by simp [last l isLast])
      rw [trimChars, ends, List.reverse_append, reversed, List.reverse_reverse]

/-- A trimmed text is what is left of it with a final newline. -/
theorem Trimmed.trim_newline {text : String} (trimmed : Trimmed text) :
    trim (text ++ "\n") = text := by
  have newline : ("\n" : String).toList.all isUnicodeWhitespace = true := by decide
  rw [trim, String.toList_append, trimChars_append trimmed.first trimmed.last newline,
    String.ofList_toList]

theorem Trimmed.trim {text : String} (trimmed : Trimmed text) : trim text = text := by
  have none : ([] : List Char).all isUnicodeWhitespace = true := rfl
  have whole := trimChars_append trimmed.first trimmed.last none
  rw [List.append_nil] at whole
  rw [Text.trim, whole, String.ofList_toList]

/-- What is left of a text after trimming is trimmed. -/
theorem trimmed_trim (text : String) : Trimmed (trim text) := by
  have kept : ∀ (chars : List Char) (c : Char),
      (chars.dropWhile isUnicodeWhitespace).head? = some c →
        isUnicodeWhitespace c = false := by
    intro chars c leads
    have stops := List.head?_dropWhile_not isUnicodeWhitespace chars
    rwa [leads] at stops
  constructor
  · intro c leads
    unfold trim trimChars at leads
    rw [String.toList_ofList] at leads
    refine kept text.toList c ?_
    have inside := List.reverse_prefix.mpr
      (List.dropWhile_suffix isUnicodeWhitespace
        (l := (text.toList.dropWhile isUnicodeWhitespace).reverse))
    rw [List.reverse_reverse] at inside
    obtain ⟨rest, whole⟩ := inside
    rw [← whole, List.head?_append, leads, Option.some_or]
  · intro c ends
    unfold trim trimChars at ends
    rw [String.toList_ofList, List.getLast?_reverse] at ends
    exact kept _ c ends

/-- A text survives being shown with a final newline and trimmed exactly when it is trimmed. -/
theorem trim_newline_eq_iff (text : String) :
    trim (text ++ "\n") = text ↔ Trimmed text := by
  constructor
  · intro same
    rw [← same]
    exact trimmed_trim _
  · exact Trimmed.trim_newline

/-- Digits are no white space. -/
theorem isUnicodeWhitespace_digit {c : Char} (digit : c.isDigit = true) :
    isUnicodeWhitespace c = false := by
  simp only [Char.isDigit, Bool.and_eq_true, decide_eq_true_eq] at digit
  have low : 48 ≤ c.toNat := digit.1
  have high : c.toNat ≤ 57 := digit.2
  have code : c.toNat = 48 ∨ c.toNat = 49 ∨ c.toNat = 50 ∨ c.toNat = 51 ∨ c.toNat = 52 ∨
      c.toNat = 53 ∨ c.toNat = 54 ∨ c.toNat = 55 ∨ c.toNat = 56 ∨ c.toNat = 57 := by omega
  simp only [isUnicodeWhitespace]
  rcases code with h | h | h | h | h | h | h | h | h | h <;> rw [h] <;> rfl

/-! ## Decimal round trip -/

theorem digitValue_digitChar (digit : Nat) (small : digit < 10) :
    digitValue digit.digitChar = some digit := by
  interval_cases digit <;> rfl

theorem parseDigits_append (total : Nat) (first second : List Char) :
    parseDigits total (first ++ second) =
      (parseDigits total first).bind fun value => parseDigits value second := by
  induction first generalizing total with
  | nil => rfl
  | cons c rest ih =>
      simp only [List.cons_append, parseDigits]
      cases digitValue c with
      | none => rfl
      | some digit => exact ih _

/-- Reading the decimal digits of a number returns the number. -/
theorem parseDigits_toDigits (value : Nat) :
    parseDigits 0 (Nat.toDigits 10 value) = some value := by
  induction value using Nat.strongRecOn with
  | _ value ih =>
      rcases Nat.lt_or_ge value 10 with small | large
      · rw [Nat.toDigits_of_lt_base small]
        simp [parseDigits, digitValue_digitChar value small]
      · have quotient : value / 10 < value := Nat.div_lt_self (by omega) (by omega)
        have digit : value % 10 < 10 := Nat.mod_lt _ (by omega)
        have split : Nat.toDigits 10 value =
            Nat.toDigits 10 (value / 10) ++ [(value % 10).digitChar] := by
          rw [Nat.toDigits_eq_if (by omega), if_neg (by omega)]
        rw [split, parseDigits_append, ih _ quotient]
        simp only [Option.bind_some, parseDigits, digitValue_digitChar _ digit]
        congr 1
        omega

theorem parseDecimal_toDigits (value : Nat) :
    parseDecimal (Nat.toDigits 10 value) = some value := by
  have digits := parseDigits_toDigits value
  unfold parseDecimal
  split
  · rename_i empty
    exact absurd empty Nat.toDigits_ne_nil
  · rename_i sign
    simp [sign, parseDigits, digitValue] at digits
  · rename_i sign
    simp [sign, parseDigits, digitValue] at digits
  · exact digits

/-- Decimal text parses back to the number it was printed from. -/
theorem parseUnsigned_toString (bound value : Nat) (small : value < bound) :
    parseUnsigned bound (toString value) = some value := by
  simp [parseUnsigned, parseDecimal_toDigits, small]

/-- Only a small number parses back. -/
theorem lt_of_parseUnsigned_toString {bound value number : Nat}
    (parsed : parseUnsigned bound (toString value) = some number) : value < bound := by
  by_contra large
  simp [parseUnsigned, parseDecimal_toDigits, large] at parsed

theorem toString_digits (value : Nat) (c : Char) (member : c ∈ (toString value).toList) :
    c.isDigit = true := by
  have digits : (toString value).toList = Nat.toDigits 10 value := by
    simp [toString, Nat.repr]
  rw [digits] at member
  exact Nat.isDigit_of_mem_toDigits (by decide : 0 < 10) (by decide) member

theorem trimmed_toString (value : Nat) : Trimmed (toString value) where
  first := fun c head =>
    isUnicodeWhitespace_digit (toString_digits value c (List.mem_of_head? head))
  last := fun c last =>
    isUnicodeWhitespace_digit (toString_digits value c (List.mem_of_getLast? last))

/-- ASCII text has as many bytes as characters. -/
theorem utf8Bytes_length_of_ascii {text : String} (ascii : ∀ c ∈ text.toList, c.val ≤ 127) :
    (utf8Bytes text).length = text.toList.length := by
  have sizes : ∀ chars : List Char, (∀ c ∈ chars, c.val ≤ 127) →
      (String.ofList chars).utf8ByteSize = chars.length := by
    intro chars ascii
    induction chars using List.reverseRecOn with
    | nil => rfl
    | append_singleton front c ih =>
        have one : c.utf8Size = 1 := Char.utf8Size_eq_one_iff.mpr (ascii c (by simp))
        rw [show String.ofList (front ++ [c]) = (String.ofList front).push c by
          rw [← String.toList_inj]; simp, String.utf8ByteSize_push, one,
          ih fun other member => ascii other (by simp [member])]
        simp
  have bytes : (utf8Bytes text).length = text.utf8ByteSize := by
    rw [utf8Bytes, String.toUTF8_eq_toByteArray]
    rfl
  rw [bytes, ← sizes _ ascii, String.ofList_toList]

/-- Decimal numbers of 64 bits have at most 20 digits. -/
theorem toString_length {value : Nat} (small : value < 2 ^ 64) :
    (toString value).toList.length ≤ 20 := by
  have digits : (toString value).toList = Nat.toDigits 10 value := by
    simp [toString, Nat.repr]
  rw [digits, Nat.length_toDigits_le_iff (by decide) (by decide)]
  exact lt_trans small (by decide)

theorem utf8Bytes_toString_length {value : Nat} (small : value < 2 ^ 64) :
    (utf8Bytes (toString value)).length ≤ 20 := by
  rw [utf8Bytes_length_of_ascii fun c member => ?_]
  · exact toString_length small
  · have digit := toString_digits value c member
    simp only [Char.isDigit, Bool.and_eq_true, decide_eq_true_eq] at digit
    have below : c.toNat ≤ 57 := digit.2
    exact UInt32.le_iff_toNat_le.mpr (le_trans below (by decide))

theorem parseDigits_digits {total number : Nat} {chars : List Char}
    (parsed : parseDigits total chars = some number) : ∀ c ∈ chars, (digitValue c).isSome = true := by
  induction chars generalizing total with
  | nil =>
      intro c member
      cases member
  | cons first rest ih =>
      unfold parseDigits at parsed
      cases digit : digitValue first with
      | none =>
          rw [digit] at parsed
          cases parsed
      | some value =>
          rw [digit] at parsed
          intro c member
          rcases List.mem_cons.mp member with rfl | inRest
          · rw [digit]
            rfl
          · exact ih parsed c inRest

/-- A number does not end in a newline. -/
theorem parseUnsigned_single {bound number : Nat} {text : String}
    (parsed : parseUnsigned bound text = some number) : text.toList.getLast? ≠ some '\n' := by
  intro last
  have noDigit : (digitValue '\n').isSome = false := by decide
  have refused : ∀ total, parseDigits total text.toList = none := by
    intro total
    by_contra found
    obtain ⟨value, found⟩ := Option.ne_none_iff_exists'.mp found
    have digit := parseDigits_digits found '\n' (List.mem_of_getLast? last)
    rw [noDigit] at digit
    cases digit
  unfold parseUnsigned parseDecimal at parsed
  split at parsed
  · rename_i decimal
    split at decimal
    · rename_i empty
      rw [empty] at last
      cases last
    · rename_i sign
      rw [sign] at last
      cases last
    · rename_i rest nonempty plus
      rw [plus, List.getLast?_cons_of_ne_nil nonempty] at last
      have digit := parseDigits_digits decimal '\n' (List.mem_of_getLast? last)
      rw [noDigit] at digit
      cases digit
    · rw [refused 0] at decimal
      cases decimal
  · cases parsed

end DamonRs.Library.Text
