import DamonRs.Receipt.RoundTrip

/-!
# Accepted receipts are canonical

Whatever the decoder accepts is the encoding of its result.  Up to the final
check for trailing data it accepts the same in front of any further bytes, so
no accepted input is a proper beginning of another one.
-/

namespace DamonRs

open Library Library.Parser

namespace Receipt

namespace Decoder

/-! ## Numbers and byte strings -/

theorem delimits_take (len : Nat) :
    Delimits (take len) (fun bytes => bytes) fun bytes => bytes.length = len := by
  intro before rest bytes cursor run
  unfold take at run
  rw [Cursor.between_offset, Cursor.between_items] at run
  split at run
  · rename_i addressable
    split at run
    · rename_i inside
      cases run
      have fits : len ≤ rest.length := by simpa using inside
      have taken : ((before ++ rest).drop before.length).take len = rest.take len := by simp
      rw [taken]
      refine ⟨by simp [fits], rest.drop len, by simp, ?_, fun more => ?_⟩
      · simp only [Cursor.between, List.append_assoc, List.take_append_drop, List.length_append,
          List.length_take, Nat.min_eq_left fits]
      · unfold take
        rw [Cursor.between_offset, Cursor.between_items, if_pos addressable,
          if_pos (by simp only [List.length_append]; omega)]
        have same : ((before ++ (rest ++ more)).drop before.length).take len = rest.take len := by
          rw [List.drop_left, List.take_append_of_le_length fits]
        have whole : before ++ (rest ++ more) =
            before ++ rest.take len ++ (rest.drop len ++ more) := by
          rw [List.append_assoc, ← List.append_assoc (rest.take len), List.take_append_drop]
        rw [same]
        simp only [Cursor.between, whole, List.length_append, List.length_take,
          Nat.min_eq_left fits]
    · cases run
  · cases run

theorem delimits_number (width : Nat) :
    Delimits (take width >>= fun bytes => pure (fromLeBytes bytes)) (toLeBytes width)
      fun value => value < 256 ^ width := by
  refine (delimits_take width).map _ _ ?_
  rintro bytes rfl
  exact ⟨fromLeBytes_lt bytes, toLeBytes_fromLeBytes bytes⟩

theorem delimits_u64 : Delimits readU64 (toLeBytes 8) (· < u64Bound) := delimits_number 8

theorem delimits_u32 : Delimits readU32 (toLeBytes 4) (· < u32Bound) := delimits_number 4

theorem fail_never {α : Type} (reason : String) (cursor : Cursor UInt8) (value : α)
    (after : Cursor UInt8) : (fail reason : Decoder α) cursor ≠ .ok (value, after) := by
  intro run
  cases run

/-- A check that consumes nothing. -/
theorem delimits_liftResult {α : Type} (result : Except Error α) :
    Delimits (liftResult result) (fun _ => []) fun value => result = .ok value := by
  intro before rest value cursor run
  cases result with
  | error error => cases run
  | ok known =>
      cases run
      refine ⟨rfl, rest, rfl, by simp, fun more => ?_⟩
      rw [List.append_nil]
      rfl

/-- A branch that fails is never taken by an accepted input. -/
theorem delimits_unless {α : Type} {condition : Prop} [Decidable condition] {reason : String}
    {parser : Decoder α} {chunk : α → List UInt8} {good : α → Prop}
    (otherwise : ¬condition → Delimits parser chunk good) :
    Delimits (if condition then fail reason else parser) chunk good := by
  by_cases taken : condition
  · rw [if_pos taken]
    exact delimits_never (fail_never reason)
  · rw [if_neg taken]
    exact otherwise taken

theorem delimits_count : Delimits readCount (toLeBytes 8) (· < u64Bound) := by
  intro before rest count cursor run
  obtain ⟨value, middle, numberRun, checked⟩ := bind_run_ok run
  obtain ⟨small, suffix, rfl, rfl, again⟩ := delimits_u64 before rest value middle numberRun
  obtain ⟨left, after, remainingRun, decided⟩ := bind_run_ok checked
  cases remainingRun
  split at decided
  · cases decided
  rename_i possible
  cases decided
  refine ⟨small, suffix, rfl, rfl, fun more => ?_⟩
  unfold readCount
  rw [bind_run (again more)]
  have stillPossible : ¬count >
      (Cursor.between (before ++ toLeBytes 8 count) (suffix ++ more)).remaining := by
    simp only [Cursor.remaining_between, List.length_append] at possible ⊢
    omega
  have looked : remaining (Cursor.between (before ++ toLeBytes 8 count) (suffix ++ more)) =
      .ok ((Cursor.between (before ++ toLeBytes 8 count) (suffix ++ more)).remaining,
        Cursor.between (before ++ toLeBytes 8 count) (suffix ++ more)) := rfl
  rw [bind_run looked, if_neg stillPossible]
  rfl

theorem delimits_bytes : Delimits readBytes bytesChunk fun bytes => bytes.length < u64Bound := by
  refine Delimits.bind delimits_count _ _ (fun len _ => delimits_take len) ?_
  rintro len bytes small rfl
  exact ⟨small, rfl⟩

theorem delimits_path : Delimits readPath pathChunk fun path => path.bytes.length < u64Bound :=
  Delimits.map delimits_bytes _ _ fun _ small => ⟨small, rfl⟩

theorem delimits_text (reason : String) :
    Delimits (readText reason) (fun text => bytesChunk (Text.utf8Bytes text))
      fun text => (Text.utf8Bytes text).length < u64Bound := by
  refine Delimits.bind delimits_bytes (fun _ _ => [])
    (fun bytes text => Text.utf8Bytes text = bytes) (fun bytes _ => ?_) ?_
  · cases found : Text.ofUtf8Bytes? bytes with
    | none => exact delimits_never (fail_never reason)
    | some text =>
        intro before rest value cursor run
        obtain ⟨rfl, others⟩ := delimits_pure text before rest value cursor run
        exact ⟨Text.utf8Bytes_of_ofUtf8Bytes? found, others⟩
  · rintro _ text small rfl
    exact ⟨small, by rw [List.append_nil]⟩

/-! ## Sections -/

theorem delimits_writableValue : Delimits readWritableValue valueChunk fun value =>
    value.path.bytes.length < u64Bound ∧ (Text.utf8Bytes value.value).length < u64Bound := by
  refine Delimits.bind delimits_path (fun _ value => bytesChunk (Text.utf8Bytes value.value))
    (fun path value => value.path = path ∧ (Text.utf8Bytes value.value).length < u64Bound)
    (fun path _ => ?_) ?_
  · refine (delimits_liftResult _).bind
      (fun _ (value : WritableConfigurationValue) => bytesChunk (Text.utf8Bytes value.value))
      (fun _ value => value.path = path ∧ (Text.utf8Bytes value.value).length < u64Bound)
      (fun _ _ => (delimits_text _).map _ _ fun text small => ⟨⟨rfl, small⟩, rfl⟩) ?_
    exact fun _ _ _ better => ⟨better, rfl⟩
  · rintro _ value small ⟨rfl, valueSmall⟩
    exact ⟨⟨small, valueSmall⟩, rfl⟩

theorem delimits_volatilePath :
    Delimits readVolatilePath pathChunk fun path => path.bytes.length < u64Bound := by
  refine Delimits.bind delimits_path (fun _ _ => []) (fun path made => made = path)
    (fun path _ => ?_) ?_
  · refine (delimits_liftResult _).bind _ _ (fun _ _ => delimits_pure path) ?_
    exact fun _ _ _ same => ⟨same, rfl⟩
  · rintro path _ small rfl
    exact ⟨small, by rw [List.append_nil]⟩

/-- A counted section. -/
theorem delimits_counted {α : Type} {parser : Decoder α} {chunk : α → List UInt8}
    {good : α → Prop} (delimits : Delimits parser chunk good) :
    Delimits (readCount >>= fun count => Parser.times parser count)
      (fun values => toLeBytes 8 values.length ++ values.flatMap chunk)
      fun values => values.length < u64Bound ∧ ∀ value ∈ values, good value := by
  refine Delimits.bind delimits_count _ _ (fun count _ => delimits_times delimits count) ?_
  rintro _ values small ⟨rfl, each⟩
  exact ⟨⟨small, each⟩, rfl⟩

theorem delimits_identity (kdamondCount : Nat) (previous : Option Nat) :
    Delimits (readIdentity kdamondCount previous) identityChunk
      fun identity => identity.index < u64Bound := by
  refine delimits_u64.bind
    (fun _ (identity : PersistentKdamondIdentity) => toLeBytes 4 identity.pid.get.toNat)
    (fun index identity => identity.index = index) (fun index _ => ?_) ?_
  · refine delimits_unless fun _ => delimits_unless fun _ => ?_
    refine Delimits.bind delimits_u32 (fun _ _ => [])
      (fun raw identity => identity.index = index ∧ identity.pid.get.toNat = raw)
      (fun raw small => ?_) ?_
    · cases made : Pid.new (UInt32.ofNat raw) with
      | error error => exact delimits_never (fail_never _)
      | ok pid =>
          intro before rest value cursor run
          obtain ⟨rfl, others⟩ := delimits_pure _ before rest value cursor run
          refine ⟨⟨rfl, ?_⟩, others⟩
          rw [Pid.new_ok made, UInt32.toNat_ofNat_of_lt' small]
    · rintro raw identity - ⟨same, rfl⟩
      exact ⟨same, by rw [List.append_nil]⟩
  · rintro _ identity small rfl
    exact ⟨small, rfl⟩

theorem delimits_identities (kdamondCount count : Nat) (previous : Option Nat) :
    Delimits (readIdentities kdamondCount count previous)
      (fun identities => identities.flatMap identityChunk) fun identities =>
        identities.length = count ∧ ∀ identity ∈ identities, identity.index < u64Bound := by
  induction count generalizing previous with
  | zero =>
      intro before rest identities cursor run
      obtain ⟨rfl, others⟩ := delimits_pure [] before rest identities cursor run
      exact ⟨⟨rfl, by simp⟩, others⟩
  | succ count ih =>
      refine (delimits_identity kdamondCount previous).bind
        (fun _ identities => identities.tail.flatMap identityChunk)
        (fun identity identities => ∃ tail, identities = identity :: tail ∧
          tail.length = count ∧ ∀ other ∈ tail, other.index < u64Bound)
        (fun identity _ => (ih (some identity.index)).map _ _
          fun identities counted => ⟨⟨identities, rfl, counted⟩, rfl⟩) ?_
      rintro identity _ small ⟨tail, rfl, counted, others⟩
      refine ⟨⟨by simp [counted], ?_⟩, by simp⟩
      rintro other (_ | ⟨_, member⟩)
      · exact small
      · exact others other member

theorem delimits_header : Delimits readHeader (fun _ => headerChunk) fun _ => True := by
  refine (delimits_take _).bind (fun _ _ => toLeBytes 4 receiptVersion)
    (fun magic _ => magic = receiptMagic) (fun magic _ => ?_) ?_
  · by_cases marked : magic = receiptMagic
    · rw [if_neg (by simpa using marked)]
      refine Delimits.bind delimits_u32 (fun _ _ => []) (fun version _ => version = receiptVersion)
        (fun version _ => ?_) ?_
      · by_cases known : version = receiptVersion
        · rw [if_neg (by simpa using known)]
          intro before rest value cursor run
          exact ⟨known, (delimits_pure () before rest value cursor run).2⟩
        · rw [if_pos known]
          exact delimits_never (fail_never _)
      · rintro _ _ - rfl
        exact ⟨marked, rfl⟩
    · rw [if_pos marked]
      exact delimits_never (fail_never _)
  · rintro _ _ - rfl
    exact ⟨trivial, rfl⟩

/-- The bytes of a binding. -/
def pathsChunk (binding : PathBuf × PathBuf × String) : List UInt8 :=
  pathChunk binding.1 ++ (pathChunk binding.2.1 ++ bytesChunk (Text.utf8Bytes binding.2.2))

theorem delimits_binding : Delimits readBinding pathsChunk fun binding =>
    binding.1.bytes.length < u64Bound ∧ binding.2.1.bytes.length < u64Bound ∧
      (Text.utf8Bytes binding.2.2).length < u64Bound := by
  refine delimits_path.bind
    (fun _ binding => pathChunk binding.2.1 ++ bytesChunk (Text.utf8Bytes binding.2.2))
    (fun admin binding => binding.1 = admin ∧ binding.2.1.bytes.length < u64Bound ∧
      (Text.utf8Bytes binding.2.2).length < u64Bound) (fun admin _ => ?_) ?_
  · refine Delimits.bind delimits_path (fun _ binding => bytesChunk (Text.utf8Bytes binding.2.2))
      (fun lock binding => binding.1 = admin ∧ binding.2.1 = lock ∧
        (Text.utf8Bytes binding.2.2).length < u64Bound) (fun lock _ => ?_) ?_
    · refine (delimits_text _).bind (fun _ _ => [])
        (fun boot binding => binding = (admin, lock, boot)) (fun boot _ => ?_) ?_
      · refine delimits_unless fun _ => (delimits_liftResult _).bind _ _
          (fun _ _ => delimits_pure (admin, lock, boot)) ?_
        exact fun _ _ _ same => ⟨same, rfl⟩
      · rintro boot _ small rfl
        exact ⟨⟨rfl, rfl, small⟩, by rw [List.append_nil]⟩
    · rintro _ binding small ⟨same, rfl, bootSmall⟩
      exact ⟨⟨same, small, bootSmall⟩, rfl⟩
  · rintro _ binding small ⟨rfl, others⟩
    exact ⟨⟨small, others⟩, rfl⟩

/-! ## The whole receipt -/

/-- The parser accepts only inputs that end where it stops. -/
def Exhausts {α : Type} (parser : Decoder α) (chunk : α → List UInt8) (good : α → Prop) : Prop :=
  ∀ before rest value cursor, parser (Cursor.between before rest) = .ok (value, cursor) →
    good value ∧ rest = chunk value ∧
      ∀ more value' cursor', more ≠ [] →
        parser (Cursor.between before (rest ++ more)) ≠ .ok (value', cursor')

theorem Exhausts.after {α γ : Type} {parser : Decoder α} {next : α → Decoder γ}
    {first : α → List UInt8} {chunk : γ → List UInt8} {good : α → Prop} {best : γ → Prop}
    (delimits : Delimits parser first good) (second : α → γ → List UInt8)
    (better : α → γ → Prop)
    (exhausts : ∀ value, good value → Exhausts (next value) (second value) (better value))
    (joins : ∀ value result, good value → better value result →
      best result ∧ chunk result = first value ++ second value result) :
    Exhausts (parser >>= next) chunk best := by
  intro before rest result cursor run
  obtain ⟨value, middle, firstRun, secondRun⟩ := bind_run_ok run
  obtain ⟨isGood, suffix, rfl, rfl, again⟩ := delimits before rest value middle firstRun
  obtain ⟨isBetter, rfl, refuses⟩ :=
    exhausts value isGood _ suffix result cursor secondRun
  obtain ⟨isBest, whole⟩ := joins value result isGood isBetter
  refine ⟨isBest, whole.symm, fun more value' cursor' present => ?_⟩
  rw [bind_run (again more)]
  exact refuses more value' cursor' present

/-- Nothing may be left at the end. -/
theorem exhausts_end {α : Type} (value : α) :
    Exhausts (remaining >>= fun left =>
      if left ≠ 0 then fail "contains trailing data" else pure value)
      (fun _ => []) (· = value) := by
  intro before rest result cursor run
  obtain ⟨left, middle, looked, decided⟩ := bind_run_ok run
  cases looked
  split at decided
  · cases decided
  rename_i nothingLeft
  cases decided
  have empty : rest = [] := by simpa using nothingLeft
  refine ⟨rfl, empty, fun more value' cursor' present => ?_⟩
  have looked : remaining (Cursor.between before (rest ++ more)) =
      .ok ((Cursor.between before (rest ++ more)).remaining,
        Cursor.between before (rest ++ more)) := rfl
  rw [bind_run looked, if_pos (by simpa [empty] using present)]
  exact fail_never _ _ _ _

theorem exhausts_running (kdamondCount : Nat) :
    Exhausts (readRunning kdamondCount) runningChunk fun identities =>
      identities.length < u64Bound ∧ ∀ identity ∈ identities, identity.index < u64Bound := by
  have bounded : ∀ count, Exhausts
      (if count > kdamondCount then
        fail "contains more running identities than configured kdamonds"
      else readIdentities kdamondCount count none >>= fun identities => remaining >>= fun left =>
        if left ≠ 0 then fail "contains trailing data" else pure identities)
      (fun identities => identities.flatMap identityChunk) fun identities =>
        identities.length = count ∧ ∀ identity ∈ identities, identity.index < u64Bound := by
    intro count
    by_cases tooMany : count > kdamondCount
    · rw [if_pos tooMany]
      intro before rest value cursor run
      exact absurd run (fail_never _ _ _ _)
    · rw [if_neg tooMany]
      refine Exhausts.after (delimits_identities kdamondCount count none) (fun _ _ => [])
        (fun identities result => result = identities) (fun identities _ => exhausts_end identities)
        ?_
      rintro identities _ counted rfl
      exact ⟨counted, by rw [List.append_nil]⟩
  refine Exhausts.after delimits_count _ _ (fun count _ => bounded count) ?_
  rintro _ identities small ⟨rfl, others⟩
  exact ⟨⟨small, others⟩, rfl⟩

/-- What is accepted behind the volatile paths. -/
structure Remaining (binding : PathBuf × PathBuf × String)
    (values : List WritableConfigurationValue) (paths : List PathBuf)
    (receipt : PersistentReceipt) : Prop where
  admin : receipt.adminPath = binding.1
  lock : receipt.lockPath = binding.2.1
  boot : receipt.bootId = binding.2.2
  values : receipt.writableValues = values
  paths : receipt.volatilePaths = paths
  kdamonds : receipt.kdamondCount < u64Bound
  identityCount : receipt.identities.length < u64Bound
  identities : ∀ identity ∈ receipt.identities, identity.index < u64Bound

theorem exhausts_remainder (binding : PathBuf × PathBuf × String)
    (values : List WritableConfigurationValue) (paths : List PathBuf) :
    Exhausts (readRemainder binding.1 binding.2.1 binding.2.2 values paths)
      (fun receipt => toLeBytes 8 receipt.kdamondCount ++ runningChunk receipt.identities)
      (Remaining binding values paths) := by
  have running : ∀ count, count < u64Bound → Exhausts
      (readRunning count >>= fun identities => pure
        (⟨binding.1, binding.2.1, binding.2.2, values, paths, count, identities⟩ :
          PersistentReceipt))
      (fun receipt => runningChunk receipt.identities)
      fun receipt => Remaining binding values paths receipt ∧ receipt.kdamondCount = count := by
    intro count small before rest receipt cursor run
    obtain ⟨identities, middle, identitiesRun, made⟩ := bind_run_ok run
    obtain ⟨⟨identityCount, others⟩, same, refuses⟩ :=
      exhausts_running count before rest identities middle identitiesRun
    cases made
    refine ⟨⟨⟨rfl, rfl, rfl, rfl, rfl, small, identityCount, others⟩, rfl⟩, same, ?_⟩
    intro more value' cursor' present again
    obtain ⟨identities', middle', againRun, -⟩ := bind_run_ok again
    exact refuses more identities' middle' present againRun
  refine Exhausts.after delimits_count (fun _ receipt => runningChunk receipt.identities)
    (fun count receipt => Remaining binding values paths receipt ∧ receipt.kdamondCount = count)
    (fun count small => ?_) ?_
  · by_cases none : count = 0
    · rw [if_pos none]
      intro before rest value cursor run
      exact absurd run (fail_never _ _ _ _)
    · rw [if_neg none]
      refine Exhausts.after (delimits_liftResult _) _ _ (fun _ _ => running count small) ?_
      exact fun _ _ _ accepted => ⟨accepted, rfl⟩
  · rintro _ receipt - ⟨accepted, rfl⟩
    exact ⟨accepted, rfl⟩

theorem exhausts_receipt : Exhausts readReceipt encoding Fits := by
  refine Exhausts.after delimits_header
    (fun _ receipt => bindingChunk receipt ++ (valuesChunk receipt.writableValues ++
      (volatileChunk receipt.volatilePaths ++ (toLeBytes 8 receipt.kdamondCount ++
        runningChunk receipt.identities))))
    (fun _ receipt => Fits receipt) (fun _ _ => ?_) fun _ receipt _ fits => ⟨fits, rfl⟩
  refine Exhausts.after delimits_binding
    (fun _ receipt => valuesChunk receipt.writableValues ++
      (volatileChunk receipt.volatilePaths ++ (toLeBytes 8 receipt.kdamondCount ++
        runningChunk receipt.identities)))
    (fun binding receipt => Fits receipt ∧
      (receipt.adminPath, receipt.lockPath, receipt.bootId) = binding) (fun binding bound => ?_) ?_
  · refine Exhausts.after (delimits_counted delimits_writableValue)
      (fun _ receipt => volatileChunk receipt.volatilePaths ++
        (toLeBytes 8 receipt.kdamondCount ++ runningChunk receipt.identities))
      (fun values receipt => (Fits receipt ∧
        (receipt.adminPath, receipt.lockPath, receipt.bootId) = binding) ∧
          receipt.writableValues = values) (fun values known => ?_) ?_
    · refine Exhausts.after (delimits_counted delimits_volatilePath)
        (fun _ receipt => toLeBytes 8 receipt.kdamondCount ++ runningChunk receipt.identities)
        (fun paths receipt => Remaining binding values paths receipt)
        (fun paths _ => exhausts_remainder binding values paths) ?_
      rintro paths ⟨admin, lock, boot, recorded, volatile, count, identities⟩ few
        ⟨rfl, rfl, rfl, rfl, rfl, small, identityCount, others⟩
      exact ⟨⟨⟨⟨bound.1, bound.2.1, bound.2.2, known.1, known.2, few.1, few.2, small,
        identityCount, others⟩, rfl⟩, rfl⟩, by rw [volatileChunk]⟩
    · rintro _ receipt - ⟨accepted, rfl⟩
      exact ⟨accepted, rfl⟩
  · rintro _ receipt - ⟨fits, rfl⟩
    exact ⟨fits, rfl⟩

end Decoder

end Receipt

open Receipt

/-- What the decoder accepts is the serialization of its result, and nothing shorter or longer
is accepted beside it. -/
theorem receipt_canonical (bytes : List UInt8) (receipt : PersistentReceipt)
    (accepted : PersistentReceipt.fromBytes bytes = .ok receipt) :
    receipt.toBytes = .ok bytes ∧
      (∀ shorter more, bytes = shorter ++ more → more ≠ [] →
        ∀ other, PersistentReceipt.fromBytes shorter ≠ .ok other) ∧
      ∀ more, more ≠ [] → ∀ other, PersistentReceipt.fromBytes (bytes ++ more) ≠ .ok other := by
  have runs : ∀ {input result}, PersistentReceipt.fromBytes input = .ok result →
      ∃ cursor, Decoder.readReceipt (Cursor.between [] input) = .ok (result, cursor) := by
    intro input result decoded
    unfold PersistentReceipt.fromBytes at decoded
    split at decoded
    · rename_i found cursor run
      injection decoded with same
      exact ⟨cursor, by rw [← same]; exact run⟩
    · cases decoded
  obtain ⟨cursor, run⟩ := runs accepted
  obtain ⟨fits, whole, refuses⟩ := Decoder.exhausts_receipt [] bytes receipt cursor run
  refine ⟨by rw [toBytes_of_fits fits, whole], ?_, ?_⟩
  · rintro shorter more rfl present other decoded
    obtain ⟨shortCursor, shortRun⟩ := runs decoded
    obtain ⟨-, -, shortRefuses⟩ :=
      Decoder.exhausts_receipt [] shorter other shortCursor shortRun
    exact shortRefuses more receipt cursor present run
  · intro more present other decoded
    obtain ⟨longCursor, longRun⟩ := runs decoded
    exact refuses more other longCursor present longRun

/-- The receipt of a kdamond whose intervals are tuned, without its last byte and with another
one. -/
theorem receipt_canonical_running :
    runningReceipt.toBytes = .ok (encoding runningReceipt) ∧
      (∀ other, PersistentReceipt.fromBytes (encoding runningReceipt).dropLast ≠ .ok other) ∧
      ∀ other, PersistentReceipt.fromBytes (encoding runningReceipt ++ [0]) ≠ .ok other := by
  obtain ⟨same, shorter, longer⟩ := receipt_canonical _ _ runningReceipt_accepted
  have whole : encoding runningReceipt =
      (encoding runningReceipt).dropLast ++ [(encoding runningReceipt).getLast (by decide +kernel)] :=
    (List.dropLast_append_getLast _).symm
  exact ⟨same, shorter _ _ whole (by simp), longer [0] (by simp)⟩

end DamonRs
