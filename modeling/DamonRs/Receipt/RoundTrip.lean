import DamonRs.Receipt.Format

/-!
# The receipt round trip

A well-formed receipt is serialized without loss, and its serialization is
parsed back exactly when the kdamond count passes the bound that the decoder
puts on element counts: the count is compared with the bytes that are left,
which only grow with the recorded identities.
-/

namespace DamonRs

open Library Library.Parser

namespace Receipt

/-! ## Well-formed receipts -/

/-- An interval leaf whose context records a nonzero interval-goal aggregation count. -/
def ImpliedVolatile (values : List WritableConfigurationValue) (kdamondCount : Nat)
    (path : List Component) : Prop :=
  ∃ value ∈ values, ∃ intervalsPath aggregationIntervals,
    tunedIntervalsPath value.path.components kdamondCount = some intervalsPath ∧
    Text.parseUnsigned u64Bound (Text.trim value.value) = some aggregationIntervals ∧
    aggregationIntervals ≠ 0 ∧
    (path = intervalsPath ++ [.named "aggr_us"] ∨ path = intervalsPath ++ [.named "sample_us"])

/-- The bytes of a length-prefixed section. -/
def bytesChunk (bytes : List UInt8) : List UInt8 := toLeBytes 8 bytes.length ++ bytes

def valueChunk (value : WritableConfigurationValue) : List UInt8 :=
  bytesChunk value.path.bytes ++ bytesChunk (Text.utf8Bytes value.value)

def pathChunk (path : PathBuf) : List UInt8 := bytesChunk path.bytes

def identityChunk (identity : PersistentKdamondIdentity) : List UInt8 :=
  toLeBytes 8 identity.index ++ toLeBytes 4 identity.pid.get.toNat

def headerChunk : List UInt8 := receiptMagic ++ toLeBytes 4 receiptVersion

def bindingChunk (receipt : PersistentReceipt) : List UInt8 :=
  pathChunk receipt.adminPath ++
    (pathChunk receipt.lockPath ++ bytesChunk (Text.utf8Bytes receipt.bootId))

def valuesChunk (values : List WritableConfigurationValue) : List UInt8 :=
  toLeBytes 8 values.length ++ values.flatMap valueChunk

def volatileChunk (paths : List PathBuf) : List UInt8 :=
  toLeBytes 8 paths.length ++ paths.flatMap pathChunk

def runningChunk (identities : List PersistentKdamondIdentity) : List UInt8 :=
  toLeBytes 8 identities.length ++ identities.flatMap identityChunk

/-- The complete serialization of a receipt. -/
def encoding (receipt : PersistentReceipt) : List UInt8 :=
  headerChunk ++ (bindingChunk receipt ++ (valuesChunk receipt.writableValues ++
    (volatileChunk receipt.volatilePaths ++ (toLeBytes 8 receipt.kdamondCount ++
      runningChunk receipt.identities))))

/-- The receipts the persistent operations leave behind. -/
structure WellFormed (receipt : PersistentReceipt) : Prop where
  adminAbsolute : receipt.adminPath.isAbsolute = true
  adminNulFree : receipt.adminPath.containsNul = false
  lockAbsolute : receipt.lockPath.isAbsolute = true
  lockNulFree : receipt.lockPath.containsNul = false
  bootIdValid : isBootId receipt.bootId = true
  writableRelative : ∀ value ∈ receipt.writableValues, isRelativePath value.path = true
  writableOrdered :
    (receipt.writableValues.map fun value => value.path.components).Pairwise (· < ·)
  countRecorded : ∃ value ∈ receipt.writableValues, value.path.components = nrKdamondsPath ∧
    Text.parseUnsigned usizeBound (Text.trim value.value) = some receipt.kdamondCount
  countPositive : 1 ≤ receipt.kdamondCount
  aggrsNumeric : ∀ value ∈ receipt.writableValues,
    (tunedIntervalsPath value.path.components receipt.kdamondCount).isSome = true →
      (Text.parseUnsigned u64Bound (Text.trim value.value)).isSome = true
  tunedRecorded : ∀ path, ImpliedVolatile receipt.writableValues receipt.kdamondCount path →
    path ∈ receipt.writableValues.map fun value => value.path.components
  volatileOrdered : (receipt.volatilePaths.map PathBuf.components).Pairwise (· < ·)
  volatileImplied : ∀ path, path ∈ receipt.volatilePaths.map PathBuf.components ↔
    ImpliedVolatile receipt.writableValues receipt.kdamondCount path
  identitiesOrdered : (receipt.identities.map PersistentKdamondIdentity.index).Pairwise (· < ·)
  identitiesInside : ∀ identity ∈ receipt.identities, identity.index < receipt.kdamondCount
  /-- The serialization fits one allocation. -/
  addressable : (encoding receipt).length ≤ isizeMax

/-! ## Validation accepts well-formed receipts -/

theorem anyDescent_eq_false (paths : List (List Component)) (ordered : paths.Pairwise (· < ·)) :
    anyDescent paths = false := by
  induction paths with
  | nil => rfl
  | cons first rest ih =>
      cases rest with
      | nil => rfl
      | cons second rest =>
          have below : first < second :=
            List.rel_of_pairwise_cons ordered (List.mem_cons_self ..)
          have tail := ih ordered.of_cons
          unfold anyDescent at tail ⊢
          simp only [List.tail_cons, List.zip_cons_cons, List.any_cons] at tail ⊢
          simpa [below] using tail

/-- A recorded path is found, with an entry of that path. -/
theorem searchPath_found {values : List WritableConfigurationValue} {path : List Component}
    (ordered : (values.map fun value => value.path.components).Pairwise (· < ·))
    {value : WritableConfigurationValue} (member : value ∈ values)
    (same : value.path.components = path) :
    ∃ index, searchPath values path = .found index ∧ values[index]? = some value := by
  obtain ⟨index, hit⟩ := List.mem_iff_getElem?.mp member
  subst same
  exact ⟨index, binarySearchByKey_of_getElem? values _ ordered index value hit, hit⟩

theorem pushTunedLeaves_eq_ok {values : List WritableConfigurationValue}
    (ordered : (values.map fun value => value.path.components).Pairwise (· < ·))
    (intervalsPath : List Component) (names : List String)
    (recorded : ∀ name ∈ names, intervalsPath ++ [.named name] ∈
      values.map fun value => value.path.components) :
    pushTunedLeaves values intervalsPath names =
      .ok (names.map fun name => intervalsPath ++ [.named name]) := by
  induction names with
  | nil => rfl
  | cons name rest ih =>
      obtain ⟨value, member, same⟩ := List.mem_map.mp (recorded name (List.mem_cons_self ..))
      obtain ⟨index, found, _⟩ := searchPath_found ordered member same
      have restOk := ih fun other inRest => recorded other (List.mem_cons_of_mem name inRest)
      simp [pushTunedLeaves, found, restOk, bind, Except.bind, pure, Except.pure]

/-- The collected paths are the implied ones of the remaining values. -/
theorem collectVolatilePaths_ok {values : List WritableConfigurationValue} {kdamondCount : Nat}
    (ordered : (values.map fun value => value.path.components).Pairwise (· < ·))
    (rest : List WritableConfigurationValue)
    (numeric : ∀ value ∈ rest,
      (tunedIntervalsPath value.path.components kdamondCount).isSome = true →
        (Text.parseUnsigned u64Bound (Text.trim value.value)).isSome = true)
    (recorded : ∀ path, ImpliedVolatile rest kdamondCount path →
      path ∈ values.map fun value => value.path.components) :
    ∃ paths, collectVolatilePaths values kdamondCount rest = .ok paths ∧
      ∀ path, path ∈ paths ↔ ImpliedVolatile rest kdamondCount path := by
  induction rest with
  | nil => exact ⟨[], rfl, by simp [ImpliedVolatile]⟩
  | cons value rest ih =>
      have widen : ∀ path, ImpliedVolatile rest kdamondCount path →
          ImpliedVolatile (value :: rest) kdamondCount path := by
        rintro path ⟨other, member, witness⟩
        exact ⟨other, List.mem_cons_of_mem value member, witness⟩
      obtain ⟨paths, collected, members⟩ := ih
        (fun other member => numeric other (List.mem_cons_of_mem value member))
        (fun path implied => recorded path (widen path implied))
      have splitImplied : ∀ path, ImpliedVolatile (value :: rest) kdamondCount path ↔
          ImpliedVolatile [value] kdamondCount path ∨
            ImpliedVolatile rest kdamondCount path := by
        intro path
        simp [ImpliedVolatile]
      cases tuned : tunedIntervalsPath value.path.components kdamondCount with
      | none =>
          refine ⟨paths, by simp [collectVolatilePaths, tuned, collected], fun path => ?_⟩
          rw [splitImplied, members]
          simp [ImpliedVolatile, tuned]
      | some intervalsPath =>
          cases parsed : Text.parseUnsigned u64Bound (Text.trim value.value) with
          | none =>
              have contradiction := numeric value (List.mem_cons_self ..) (by simp [tuned])
              simp [parsed] at contradiction
          | some aggregationIntervals =>
              by_cases zero : aggregationIntervals = 0
              · refine ⟨paths, by simp [collectVolatilePaths, tuned, parsed, zero, collected],
                  fun path => ?_⟩
                rw [splitImplied, members]
                simp [ImpliedVolatile, tuned, parsed, zero]
              · have here : ∀ path, ImpliedVolatile [value] kdamondCount path ↔
                    path = intervalsPath ++ [.named "aggr_us"] ∨
                      path = intervalsPath ++ [.named "sample_us"] := by
                  intro path
                  simp [ImpliedVolatile, tuned, parsed, zero]
                have leaves := pushTunedLeaves_eq_ok ordered intervalsPath
                  ["aggr_us", "sample_us"] (by
                    intro name member
                    apply recorded
                    rw [splitImplied, here]
                    have leaf : name = "aggr_us" ∨ name = "sample_us" := by simpa using member
                    rcases leaf with rfl | rfl <;> simp)
                refine ⟨_, by
                  simp only [collectVolatilePaths, tuned, parsed, if_neg zero, leaves, collected,
                    bind, Except.bind, pure, Except.pure]
                  rfl, fun path => ?_⟩
                rw [splitImplied, here, ← members]
                simp [or_assoc]

theorem expectedVolatilePaths_eq_ok {receipt : PersistentReceipt} (wellFormed : WellFormed receipt) :
    expectedVolatilePaths receipt.writableValues receipt.kdamondCount =
      .ok (receipt.volatilePaths.map PathBuf.components) := by
  obtain ⟨paths, collected, members⟩ := collectVolatilePaths_ok wellFormed.writableOrdered
    receipt.writableValues wellFormed.aggrsNumeric wellFormed.tunedRecorded
  have sorted : sortDedup paths = receipt.volatilePaths.map PathBuf.components :=
    sortDedup_eq_of_mem_iff wellFormed.volatileOrdered fun path =>
      (members path).trans (wellFormed.volatileImplied path).symm
  simp [expectedVolatilePaths, collected, sorted, bind, Except.bind, pure, Except.pure]

theorem validateReceiptConfiguration_eq_ok {receipt : PersistentReceipt}
    (wellFormed : WellFormed receipt) :
    validateReceiptConfiguration receipt.writableValues receipt.volatilePaths
      receipt.kdamondCount = .ok () := by
  obtain ⟨value, member, path, parsed⟩ := wellFormed.countRecorded
  obtain ⟨index, found, hit⟩ := searchPath_found wellFormed.writableOrdered member path
  simp [validateReceiptConfiguration, anyDescent_eq_false _ wellFormed.writableOrdered,
    anyDescent_eq_false _ wellFormed.volatileOrdered, found, hit, parsed,
    expectedVolatilePaths_eq_ok wellFormed, bind, Except.bind, pure, Except.pure]

/-- Being relative and NUL-free depends on the components only. -/
theorem isRelativePath_of_components {path : PathBuf} (nonempty : path.components ≠ [])
    (names : ∀ c ∈ path.components, ∃ name, c = .normal name ∧ (0 : UInt8) ∉ name) :
    isRelativePath path = true := by
  have normal : ∀ c ∈ path.components, c.isNormal = true := by
    intro c member
    obtain ⟨name, rfl, _⟩ := names c member
    rfl
  have hasBytes : path.bytes ≠ [] := by
    intro empty
    apply nonempty
    simp [PathBuf.components, PathBuf.isAbsolute, empty, PathBuf.innerComponent]
  have relative := PathBuf.isAbsolute_of_normal normal
  have nulFree : path.containsNul = false := by
    cases nul : path.containsNul with
    | false => rfl
    | true =>
        obtain ⟨name, member, zero⟩ := (path.containsNul_iff normal).mp nul
        obtain ⟨other, same, free⟩ := names _ member
        injection same with same
        exact absurd (same ▸ zero) free
  simp only [isRelativePath, relative, nulFree]
  simpa [hasBytes] using normal

theorem isRelativePath_components {path : PathBuf} (relative : isRelativePath path = true) :
    ∀ c ∈ path.components, ∃ name, c = .normal name ∧ (0 : UInt8) ∉ name := by
  simp only [isRelativePath, Bool.and_eq_true, List.all_eq_true, Bool.not_eq_true'] at relative
  obtain ⟨⟨_, nulFree⟩, normal⟩ := relative
  intro c member
  have ordinary := normal c member
  cases c with
  | normal name =>
      refine ⟨name, rfl, fun zero => ?_⟩
      have nul := (path.containsNul_iff normal).mpr ⟨name, member, zero⟩
      simp [nul] at nulFree
  | rootDir => simp [Component.isNormal] at ordinary
  | curDir => simp [Component.isNormal] at ordinary
  | parentDir => simp [Component.isNormal] at ordinary

theorem volatileRelative {receipt : PersistentReceipt} (wellFormed : WellFormed receipt) :
    ∀ path ∈ receipt.volatilePaths, isRelativePath path = true := by
  intro path member
  have implied := (wellFormed.volatileImplied path.components).mp (List.mem_map_of_mem member)
  obtain ⟨value, recorded, same⟩ :=
    List.mem_map.mp (wellFormed.tunedRecorded path.components implied)
  have relative := isRelativePath_components (wellFormed.writableRelative value recorded)
  rw [same] at relative
  refine isRelativePath_of_components ?_ relative
  obtain ⟨_, _, _, _, _, _, _, leaf | leaf⟩ := implied <;> simp [leaf]

/-! ## Decoding the encoded sections -/

namespace Decoder

theorem reads_take (chunk suffix : List UInt8) :
    Reads isizeMax (take chunk.length) chunk suffix chunk := by
  intro before bounded
  have fits : before.length + chunk.length < usizeBound := by
    have limit : isizeMax < usizeBound := by decide
    simp only [List.length_append] at bounded
    omega
  have inside : before.length + chunk.length ≤ (before ++ (chunk ++ suffix)).length := by
    simp only [List.length_append]
    omega
  unfold take
  rw [Cursor.between_offset, Cursor.between_items, if_pos fits, if_pos inside]
  simp [Cursor.between]

theorem reads_u64 (value : Nat) (suffix : List UInt8) (fits : value < u64Bound) :
    Reads isizeMax readU64 (toLeBytes 8 value) suffix value := by
  have taken := reads_take (toLeBytes 8 value) suffix
  rw [toLeBytes_length] at taken
  have decoded : fromLeBytes (toLeBytes 8 value) = value :=
    fromLeBytes_toLeBytes 8 value (by simpa [u64Bound] using fits)
  refine taken.bind_last ?_
  rw [decoded]
  exact reads_pure isizeMax value suffix

theorem reads_u32 (value : Nat) (suffix : List UInt8) (fits : value < u32Bound) :
    Reads isizeMax readU32 (toLeBytes 4 value) suffix value := by
  have taken := reads_take (toLeBytes 4 value) suffix
  rw [toLeBytes_length] at taken
  have decoded : fromLeBytes (toLeBytes 4 value) = value :=
    fromLeBytes_toLeBytes 4 value (by simpa [u32Bound] using fits)
  refine taken.bind_last ?_
  rw [decoded]
  exact reads_pure isizeMax value suffix

theorem reads_remaining (suffix : List UInt8) :
    Reads isizeMax remaining [] suffix suffix.length := by
  intro before _
  simp [remaining]

/-- A count is accepted when at least that many bytes follow it. -/
theorem reads_count (count : Nat) (suffix : List UInt8) (fits : count < u64Bound)
    (allowed : count ≤ suffix.length) :
    Reads isizeMax readCount (toLeBytes 8 count) suffix count := by
  refine (reads_u64 count suffix fits).bind_last ?_
  refine (reads_remaining suffix).bind_last ?_
  rw [if_neg (by omega)]
  exact reads_pure isizeMax count suffix

/-- A count is refused when fewer bytes follow it. -/
theorem rejects_count (count : Nat) (suffix : List UInt8) (fits : count < u64Bound)
    (tooLarge : suffix.length < count) :
    Rejects isizeMax readCount (toLeBytes 8 count ++ suffix)
      (.invalidReceipt "contains an impossible element count") := by
  refine Reads.bind_rejects (reads_u64 count suffix fits) ?_
  refine Reads.nil_rejects (reads_remaining suffix) ?_
  rw [if_pos (by omega)]
  intro before _
  rfl

theorem reads_bytes (bytes suffix : List UInt8) (fits : bytes.length < u64Bound) :
    Reads isizeMax readBytes (bytesChunk bytes) suffix bytes := by
  refine Reads.bind (reads_count bytes.length (bytes ++ suffix) fits ?_) (reads_take bytes suffix)
  simp

theorem reads_path (path : PathBuf) (suffix : List UInt8)
    (fits : path.bytes.length < u64Bound) :
    Reads isizeMax readPath (pathChunk path) suffix path := by
  exact (reads_bytes path.bytes suffix fits).bind_last (reads_pure isizeMax path suffix)

theorem reads_text (reason text : String) (suffix : List UInt8)
    (fits : (Text.utf8Bytes text).length < u64Bound) :
    Reads isizeMax (readText reason) (bytesChunk (Text.utf8Bytes text)) suffix text := by
  refine (reads_bytes (Text.utf8Bytes text) suffix fits).bind_last ?_
  rw [Text.ofUtf8Bytes?_utf8Bytes]
  exact reads_pure isizeMax text suffix

theorem reads_liftResult {α : Type} {result : Except Error α} {value : α}
    (suffix : List UInt8) (accepted : result = .ok value) :
    Reads isizeMax (liftResult result) [] suffix value := by
  intro before _
  simp [liftResult, accepted]

theorem reads_writableValue {value : WritableConfigurationValue}
    (relative : isRelativePath value.path = true) (fits : (valueChunk value).length < u64Bound)
    (suffix : List UInt8) :
    Reads isizeMax readWritableValue (valueChunk value) suffix value := by
  simp only [valueChunk, bytesChunk, List.length_append, toLeBytes_length] at fits
  have accepted : validateRelativePath value.path = .ok () := by
    simp [validateRelativePath, relative]
  refine Reads.bind (reads_path value.path _ (by omega)) ?_
  refine (reads_liftResult _ accepted).bind_nil ?_
  exact (reads_text _ value.value _ (by omega)).bind_last (reads_pure isizeMax value suffix)

theorem reads_volatilePath {path : PathBuf} (relative : isRelativePath path = true)
    (fits : (pathChunk path).length < u64Bound) (suffix : List UInt8) :
    Reads isizeMax readVolatilePath (pathChunk path) suffix path := by
  simp only [pathChunk, bytesChunk, List.length_append, toLeBytes_length] at fits
  have accepted : validateRelativePath path = .ok () := by
    simp [validateRelativePath, relative]
  refine (reads_path path _ (by omega)).bind_last ?_
  exact (reads_liftResult _ accepted).bind_last (reads_pure isizeMax path suffix)

/-- A counted section of nonempty chunks passes the bound on its count. -/
theorem reads_counted {α : Type} {parser : Decoder α} (chunk : α → List UInt8) (values : List α)
    (suffix : List UInt8) (nonempty : ∀ value ∈ values, 1 ≤ (chunk value).length)
    (fits : (values.flatMap chunk).length < u64Bound)
    (reads : ∀ value ∈ values, ∀ after, Reads isizeMax parser (chunk value) after value) :
    Reads isizeMax (readCount >>= times parser)
      (toLeBytes 8 values.length ++ values.flatMap chunk) suffix values := by
  have many := length_le_flatMap chunk values nonempty
  refine Reads.bind (reads_count values.length _ (by omega) ?_) (reads_times chunk values suffix reads)
  simp only [List.length_append]
  omega

theorem reads_identities (kdamondCount : Nat) (identities : List PersistentKdamondIdentity)
    (previous : Option Nat) (suffix : List UInt8) (bound : kdamondCount ≤ u64Bound)
    (inside : ∀ identity ∈ identities, identity.index < kdamondCount)
    (ordered : (identities.map PersistentKdamondIdentity.index).Pairwise (· < ·))
    (after : ∀ identity ∈ identities, previous.any (· ≥ identity.index) = false) :
    Reads isizeMax (readIdentities kdamondCount identities.length previous)
      (identities.flatMap identityChunk) suffix identities := by
  induction identities generalizing previous with
  | nil => exact reads_pure isizeMax [] suffix
  | cons identity rest ih =>
      have headInside := inside identity (List.mem_cons_self ..)
      have headAfter := after identity (List.mem_cons_self ..)
      have restReads := ih (some identity.index)
        (fun other member => inside other (List.mem_cons_of_mem identity member))
        (by simpa using ordered.of_cons) (by
          intro other member
          have below : identity.index < other.index :=
            List.rel_of_pairwise_cons ordered (List.mem_map_of_mem member)
          simpa using below)
      have pidFits : identity.pid.get.toNat < u32Bound := identity.pid.get.toNat_lt
      have headReads : Reads isizeMax (readIdentity kdamondCount previous)
          (identityChunk identity) (rest.flatMap identityChunk ++ suffix) identity := by
        refine Reads.bind (reads_u64 identity.index _ (by omega)) ?_
        rw [if_neg (by omega), headAfter, if_neg (by simp)]
        refine (reads_u32 _ _ pidFits).bind_last ?_
        rw [UInt32.ofNat_toNat, Pid.new_get]
        exact reads_pure isizeMax identity _
      simp only [List.length_cons, readIdentities, List.flatMap_cons]
      apply headReads.bind
      exact restReads.bind_last (reads_pure isizeMax (identity :: rest) suffix)

theorem reads_header (suffix : List UInt8) :
    Reads isizeMax readHeader headerChunk suffix () := by
  refine Reads.bind (reads_take receiptMagic _) ?_
  rw [if_neg (by simp)]
  refine (reads_u32 receiptVersion _ (by decide)).bind_last ?_
  rw [if_neg (by simp)]
  exact reads_pure isizeMax () suffix

theorem reads_binding {receipt : PersistentReceipt} (wellFormed : WellFormed receipt)
    (fits : (bindingChunk receipt).length < u64Bound) (suffix : List UInt8) :
    Reads isizeMax readBinding (bindingChunk receipt) suffix
      (receipt.adminPath, receipt.lockPath, receipt.bootId) := by
  simp only [bindingChunk, pathChunk, bytesChunk, List.length_append, toLeBytes_length] at fits
  have accepted : validateBootId receipt.bootId = .ok () := by
    simp [validateBootId, wellFormed.bootIdValid]
  refine Reads.bind (reads_path receipt.adminPath _ (by omega)) ?_
  refine Reads.bind (reads_path receipt.lockPath _ (by omega)) ?_
  refine (reads_text _ receipt.bootId _ (by omega)).bind_last ?_
  rw [if_neg (by simp [wellFormed.adminAbsolute, wellFormed.lockAbsolute,
    wellFormed.adminNulFree, wellFormed.lockNulFree])]
  exact (reads_liftResult _ accepted).bind_last (reads_pure isizeMax _ suffix)

theorem reads_writableValues {receipt : PersistentReceipt} (wellFormed : WellFormed receipt)
    (fits : (valuesChunk receipt.writableValues).length < u64Bound) (suffix : List UInt8) :
    Reads isizeMax readWritableValues (valuesChunk receipt.writableValues) suffix
      receipt.writableValues := by
  simp only [valuesChunk, List.length_append, toLeBytes_length] at fits
  refine reads_counted valueChunk receipt.writableValues suffix
    (by simp [valueChunk, bytesChunk]; omega) (by omega) fun value member after => ?_
  have part := length_le_length_flatMap valueChunk member
  exact reads_writableValue (wellFormed.writableRelative value member) (by omega) after

theorem reads_volatilePaths {receipt : PersistentReceipt} (wellFormed : WellFormed receipt)
    (fits : (volatileChunk receipt.volatilePaths).length < u64Bound) (suffix : List UInt8) :
    Reads isizeMax readVolatilePaths (volatileChunk receipt.volatilePaths) suffix
      receipt.volatilePaths := by
  simp only [volatileChunk, List.length_append, toLeBytes_length] at fits
  refine reads_counted pathChunk receipt.volatilePaths suffix
    (by simp [pathChunk, bytesChunk]; omega) (by omega) fun path member after => ?_
  have part := length_le_length_flatMap pathChunk member
  exact reads_volatilePath (volatileRelative wellFormed path member) (by omega) after

theorem reads_running {receipt : PersistentReceipt} (wellFormed : WellFormed receipt)
    (bound : receipt.kdamondCount ≤ u64Bound)
    (fits : (runningChunk receipt.identities).length < u64Bound) :
    Reads isizeMax (readRunning receipt.kdamondCount) (runningChunk receipt.identities) []
      receipt.identities := by
  simp only [runningChunk, List.length_append, toLeBytes_length] at fits
  have many := length_le_flatMap identityChunk receipt.identities (by simp [identityChunk])
  have few : receipt.identities.length ≤ receipt.kdamondCount := by
    have short := strict_bounded_length _ wellFormed.identitiesOrdered receipt.kdamondCount (by
      simpa using wellFormed.identitiesInside)
    simpa using short
  refine Reads.bind (reads_count receipt.identities.length _ (by omega) ?_) ?_
  · simp only [List.length_append]
    omega
  rw [if_neg (by omega)]
  refine (reads_identities receipt.kdamondCount receipt.identities none _ bound
    wellFormed.identitiesInside wellFormed.identitiesOrdered (by simp)).bind_last ?_
  refine (reads_remaining _).bind_last ?_
  rw [if_neg (by simp)]
  exact reads_pure isizeMax _ []

end Decoder

/-! ## Encoding well-formed receipts -/

theorem encodeBytes_eq_ok (output bytes : List UInt8) (fits : bytes.length < u64Bound) :
    encodeBytes output bytes = .ok (output ++ bytesChunk bytes) := by
  simp [encodeBytes, encodeLen, fits, bytesChunk, bind, Except.bind, pure, Except.pure]

theorem encodeValues_eq_ok (output : List UInt8) (values : List WritableConfigurationValue)
    (fits : ∀ value ∈ values, value.path.bytes.length < u64Bound ∧
      (Text.utf8Bytes value.value).length < u64Bound) :
    encodeValues output values = .ok (output ++ values.flatMap valueChunk) := by
  induction values generalizing output with
  | nil => simp [encodeValues]
  | cons value rest ih =>
      obtain ⟨pathFits, valueFits⟩ := fits value (List.mem_cons_self ..)
      have restFits := fun other member => fits other (List.mem_cons_of_mem value member)
      simp only [encodeValues, encodePath, bind, Except.bind,
        encodeBytes_eq_ok _ value.path.bytes pathFits,
        encodeBytes_eq_ok _ (Text.utf8Bytes value.value) valueFits, ih _ restFits]
      simp [valueChunk]

theorem encodePaths_eq_ok (output : List UInt8) (paths : List PathBuf)
    (fits : ∀ path ∈ paths, path.bytes.length < u64Bound) :
    encodePaths output paths = .ok (output ++ paths.flatMap pathChunk) := by
  induction paths generalizing output with
  | nil => simp [encodePaths]
  | cons path rest ih =>
      have restFits := fun other member => fits other (List.mem_cons_of_mem path member)
      simp only [encodePaths, encodePath, bind, Except.bind,
        encodeBytes_eq_ok _ path.bytes (fits path (List.mem_cons_self ..)), ih _ restFits]
      simp [pathChunk]

theorem encodeIdentities_eq_ok (output : List UInt8)
    (identities : List PersistentKdamondIdentity)
    (inside : ∀ identity ∈ identities, identity.index < u64Bound) :
    encodeIdentities output identities = .ok (output ++ identities.flatMap identityChunk) := by
  induction identities generalizing output with
  | nil => simp [encodeIdentities]
  | cons identity rest ih =>
      rw [encodeIdentities, if_pos (inside identity (List.mem_cons_self ..)),
        ih _ fun other member => inside other (List.mem_cons_of_mem identity member)]
      simp [identityChunk]

theorem kdamondCount_lt {receipt : PersistentReceipt} (wellFormed : WellFormed receipt) :
    receipt.kdamondCount < u64Bound := by
  obtain ⟨value, _, _, parsed⟩ := wellFormed.countRecorded
  unfold Text.parseUnsigned at parsed
  split at parsed
  · split at parsed
    · rename_i small
      injection parsed with same
      exact same ▸ small
    · cases parsed
  · cases parsed

/-- The section sizes of a well-formed receipt. -/
theorem sections_fit {receipt : PersistentReceipt} (wellFormed : WellFormed receipt) :
    (bindingChunk receipt).length < u64Bound ∧
    (valuesChunk receipt.writableValues).length < u64Bound ∧
    (volatileChunk receipt.volatilePaths).length < u64Bound ∧
    (runningChunk receipt.identities).length < u64Bound := by
  have addressable := wellFormed.addressable
  have limit : isizeMax < u64Bound := by decide
  simp only [encoding, List.length_append] at addressable
  omega

/-- Every length and every number of a receipt fits its field of eight bytes. -/
structure Fits (receipt : PersistentReceipt) : Prop where
  admin : receipt.adminPath.bytes.length < u64Bound
  lock : receipt.lockPath.bytes.length < u64Bound
  boot : (Text.utf8Bytes receipt.bootId).length < u64Bound
  valueCount : receipt.writableValues.length < u64Bound
  values : ∀ value ∈ receipt.writableValues, value.path.bytes.length < u64Bound ∧
    (Text.utf8Bytes value.value).length < u64Bound
  pathCount : receipt.volatilePaths.length < u64Bound
  paths : ∀ path ∈ receipt.volatilePaths, path.bytes.length < u64Bound
  kdamonds : receipt.kdamondCount < u64Bound
  identityCount : receipt.identities.length < u64Bound
  identities : ∀ identity ∈ receipt.identities, identity.index < u64Bound

theorem toBytes_of_fits {receipt : PersistentReceipt} (fits : Fits receipt) :
    receipt.toBytes = .ok (encoding receipt) := by
  simp only [PersistentReceipt.toBytes, encodePath, encodeLen, bind, Except.bind,
    encodeBytes_eq_ok _ receipt.adminPath.bytes fits.admin,
    encodeBytes_eq_ok _ receipt.lockPath.bytes fits.lock,
    encodeBytes_eq_ok _ (Text.utf8Bytes receipt.bootId) fits.boot, if_pos fits.valueCount,
    encodeValues_eq_ok _ _ fits.values, if_pos fits.pathCount, encodePaths_eq_ok _ _ fits.paths,
    if_pos fits.kdamonds, if_pos fits.identityCount,
    encodeIdentities_eq_ok _ receipt.identities fits.identities]
  simp [encoding, headerChunk, bindingChunk, pathChunk, bytesChunk, valuesChunk, volatileChunk,
    runningChunk]

theorem WellFormed.fits {receipt : PersistentReceipt} (wellFormed : WellFormed receipt) :
    Fits receipt := by
  obtain ⟨binding, values, volatile, running⟩ := sections_fit wellFormed
  have count := kdamondCount_lt wellFormed
  have manyValues := length_le_flatMap valueChunk receipt.writableValues
    (by simp [valueChunk, bytesChunk]; omega)
  have manyPaths := length_le_flatMap pathChunk receipt.volatilePaths
    (by simp [pathChunk, bytesChunk]; omega)
  have manyIdentities := length_le_flatMap identityChunk receipt.identities
    (by simp [identityChunk])
  simp only [valuesChunk, List.length_append] at values
  simp only [volatileChunk, List.length_append] at volatile
  simp only [bindingChunk, pathChunk, bytesChunk, List.length_append, toLeBytes_length] at binding
  simp only [runningChunk, List.length_append] at running
  refine ⟨by omega, by omega, by omega, by omega, fun value member => ?_, by omega,
    fun path member => ?_, count, by omega,
    fun identity member => lt_trans (wellFormed.identitiesInside identity member) count⟩
  · have inner := length_le_length_flatMap valueChunk member
    simp only [valueChunk, bytesChunk, List.length_append] at inner
    omega
  · have inner := length_le_length_flatMap pathChunk member
    simp only [pathChunk, bytesChunk, List.length_append] at inner
    omega

theorem toBytes_eq_encoding {receipt : PersistentReceipt} (wellFormed : WellFormed receipt) :
    receipt.toBytes = .ok (encoding receipt) := toBytes_of_fits wellFormed.fits

/-! ## The bound on the kdamond count -/

theorem runningChunk_length (identities : List PersistentKdamondIdentity) :
    (runningChunk identities).length = 8 + 12 * identities.length := by
  simp [runningChunk, identityChunk]
  omega

/-- The decoder reaches the kdamond count with everything before it read back. -/
theorem readReceipt_encoding {receipt : PersistentReceipt} (wellFormed : WellFormed receipt) :
    ∃ before : List UInt8,
      (before ++ (toLeBytes 8 receipt.kdamondCount ++ runningChunk receipt.identities)).length ≤
        isizeMax ∧
      Decoder.readReceipt (Cursor.start (encoding receipt)) =
        Decoder.readRemainder receipt.adminPath receipt.lockPath receipt.bootId
          receipt.writableValues receipt.volatilePaths
          (Cursor.between before
            (toLeBytes 8 receipt.kdamondCount ++ runningChunk receipt.identities)) := by
  obtain ⟨binding, values, volatile, _⟩ := sections_fit wellFormed
  have addressable := wellFormed.addressable
  refine ⟨((headerChunk ++ bindingChunk receipt) ++ valuesChunk receipt.writableValues) ++
    volatileChunk receipt.volatilePaths, by simpa [encoding] using addressable, ?_⟩
  rw [← Cursor.between_nil, encoding, Decoder.readReceipt,
    (Decoder.reads_header _).run_bind _ [] (by simpa [encoding] using addressable),
    (Decoder.reads_binding wellFormed binding _).run_bind _ _
      (by simpa [encoding] using addressable)]
  simp only
  rw [(Decoder.reads_writableValues wellFormed values _).run_bind _ _
      (by simpa [encoding] using addressable),
    (Decoder.reads_volatilePaths wellFormed volatile _).run_bind _ _
      (by simpa [encoding] using addressable)]
  rfl

/-- A count that the remaining bytes allow is accepted, and the receipt is read back. -/
theorem fromBytes_encoding {receipt : PersistentReceipt} (wellFormed : WellFormed receipt)
    (allowed : receipt.kdamondCount ≤ 8 + 12 * receipt.identities.length) :
    PersistentReceipt.fromBytes (encoding receipt) = .ok receipt := by
  obtain ⟨before, bounded, run⟩ := readReceipt_encoding wellFormed
  obtain ⟨_, _, _, running⟩ := sections_fit wellFormed
  have count := kdamondCount_lt wellFormed
  have positive := wellFormed.countPositive
  have remainder : Reads isizeMax (Decoder.readRemainder receipt.adminPath receipt.lockPath
      receipt.bootId receipt.writableValues receipt.volatilePaths)
      (toLeBytes 8 receipt.kdamondCount ++ runningChunk receipt.identities) [] receipt := by
    refine Reads.bind (Decoder.reads_count receipt.kdamondCount _ count ?_) ?_
    · simpa [runningChunk_length] using allowed
    rw [if_neg (by omega)]
    refine (Decoder.reads_liftResult _ (validateReceiptConfiguration_eq_ok wellFormed)).bind_nil ?_
    exact (Decoder.reads_running wellFormed (le_of_lt count) running).bind_last
      (reads_pure isizeMax receipt [])
  have finished := remainder before (by simpa using bounded)
  rw [List.append_nil] at finished
  simp only [PersistentReceipt.fromBytes, run, finished]

/-- A count above the number of remaining bytes is refused as impossible. -/
theorem fromBytes_encoding_error {receipt : PersistentReceipt} (wellFormed : WellFormed receipt)
    (tooLarge : 8 + 12 * receipt.identities.length < receipt.kdamondCount) :
    PersistentReceipt.fromBytes (encoding receipt) =
      .error (.invalidReceipt "contains an impossible element count") := by
  obtain ⟨before, bounded, run⟩ := readReceipt_encoding wellFormed
  have refused : Rejects isizeMax (Decoder.readRemainder receipt.adminPath receipt.lockPath
      receipt.bootId receipt.writableValues receipt.volatilePaths)
      (toLeBytes 8 receipt.kdamondCount ++ runningChunk receipt.identities)
      (.invalidReceipt "contains an impossible element count") :=
    (Decoder.rejects_count receipt.kdamondCount (runningChunk receipt.identities)
      (kdamondCount_lt wellFormed) (by simpa [runningChunk_length] using tooLarge)).bind
  have failed := refused before bounded
  simp only [PersistentReceipt.fromBytes, run, failed]

/-! ## A fully stopped hierarchy -/

/-- The recorded values of one stopped kdamond with one context and no interval tuning. -/
def stoppedValues (index : Nat) : List WritableConfigurationValue :=
  [⟨.ofString s!"kdamonds/{index}/contexts/0/monitoring_attrs/intervals/intervals_goal/aggrs", "0"⟩,
    ⟨.ofString s!"kdamonds/{index}/contexts/0/operations", "paddr"⟩,
    ⟨.ofString s!"kdamonds/{index}/contexts/nr_contexts", "1"⟩]

/-- The receipt left behind once every one of `count` kdamonds has been stopped. -/
def stoppedReceipt (count : Nat) : PersistentReceipt where
  adminPath := .ofString "/sys/kernel/mm/damon/admin"
  lockPath := .ofString "/run/lock/damon"
  bootId := "6f1c9f0e-3a52-4d1b-9a44-0c9a5e7d2b31"
  writableValues := (List.range count).flatMap stoppedValues ++
    [⟨.ofString "kdamonds/nr_kdamonds", toString count⟩]
  volatilePaths := []
  kdamondCount := count
  identities := []

/-- Decidable form of the implied volatile paths being empty. -/
theorem not_impliedVolatile {values : List WritableConfigurationValue} {kdamondCount : Nat}
    (untuned : ∀ value ∈ values,
      tunedIntervalsPath value.path.components kdamondCount = none ∨
        Text.parseUnsigned u64Bound (Text.trim value.value) = some 0)
    (path : List Component) : ¬ImpliedVolatile values kdamondCount path := by
  rintro ⟨value, member, intervalsPath, aggregationIntervals, tuned, parsed, nonzero, _⟩
  rcases untuned value member with outside | zero
  · rw [tuned] at outside
    cases outside
  · rw [parsed] at zero
    injection zero with zero
    exact nonzero zero

theorem stoppedReceipt_wellFormed (count : Nat) (small : count = 1 ∨ count = 9) :
    WellFormed (stoppedReceipt count) := by
  have untuned : ∀ value ∈ (stoppedReceipt count).writableValues,
      tunedIntervalsPath value.path.components count = none ∨
        Text.parseUnsigned u64Bound (Text.trim value.value) = some 0 := by
    rcases small with rfl | rfl <;> decide +kernel
  have nothing := not_impliedVolatile untuned
  constructor
  case aggrsNumeric => rcases small with rfl | rfl <;> decide +kernel
  case tunedRecorded => exact fun path implied => absurd implied (nothing path)
  case volatileImplied =>
    exact fun path => ⟨fun member => absurd member List.not_mem_nil,
      fun implied => absurd implied (nothing path)⟩
  all_goals rcases small with rfl | rfl <;> decide +kernel

/-! ## A running hierarchy -/

/-- The receipt of one running kdamond, with one context whose intervals the kernel tunes. -/
def runningReceipt : PersistentReceipt where
  adminPath := .ofString "/sys/kernel/mm/damon/admin"
  lockPath := .ofString "/run/lock/damon"
  bootId := "6f1c9f0e-3a52-4d1b-9a44-0c9a5e7d2b31"
  writableValues :=
    let intervals := "kdamonds/0/contexts/0/monitoring_attrs/intervals"
    [⟨.ofString s!"{intervals}/aggr_us", "100000"⟩,
      ⟨.ofString s!"{intervals}/intervals_goal/aggrs", "3"⟩,
      ⟨.ofString s!"{intervals}/sample_us", "5000"⟩,
      ⟨.ofString "kdamonds/0/contexts/0/operations", "vaddr"⟩,
      ⟨.ofString "kdamonds/0/contexts/nr_contexts", "1"⟩, ⟨.ofString "kdamonds/nr_kdamonds", "1"⟩]
  volatilePaths := [.ofString "kdamonds/0/contexts/0/monitoring_attrs/intervals/aggr_us",
    .ofString "kdamonds/0/contexts/0/monitoring_attrs/intervals/sample_us"]
  kdamondCount := 1
  identities := [⟨0, ⟨4242, by decide⟩⟩]

theorem runningReceipt_accepted :
    PersistentReceipt.fromBytes (encoding runningReceipt) = .ok runningReceipt := by
  decide +kernel

end Receipt

open Receipt

/-- A well-formed receipt survives serialization exactly when its kdamond count is at most the
number of bytes that follow the count: eight, and twelve for every running kdamond. -/
theorem receipt_roundTrip_iff (receipt : PersistentReceipt) (wellFormed : WellFormed receipt) :
    (∃ bytes, receipt.toBytes = .ok bytes ∧ PersistentReceipt.fromBytes bytes = .ok receipt) ↔
      receipt.kdamondCount ≤ 8 + 12 * receipt.identities.length := by
  constructor
  · rintro ⟨bytes, encoded, decoded⟩
    rw [toBytes_eq_encoding wellFormed] at encoded
    injection encoded with encoded
    by_contra tooLarge
    rw [← encoded, fromBytes_encoding_error wellFormed (by omega)] at decoded
    cases decoded
  · intro allowed
    exact ⟨encoding receipt, toBytes_eq_encoding wellFormed,
      fromBytes_encoding wellFormed allowed⟩

theorem receipt_roundTrip_iff_stopped :
    (∃ bytes, (stoppedReceipt 1).toBytes = .ok bytes ∧
      PersistentReceipt.fromBytes bytes = .ok (stoppedReceipt 1)) ↔ 1 ≤ 8 + 12 * 0 :=
  receipt_roundTrip_iff (stoppedReceipt 1) (stoppedReceipt_wellFormed 1 (.inl rfl))

/-- Nine kdamonds, all stopped: the receipt is well formed, and its serialization is refused. -/
theorem receipt_roundTrip_fails :
    ¬∀ receipt, WellFormed receipt →
      ∃ bytes, receipt.toBytes = .ok bytes ∧ PersistentReceipt.fromBytes bytes = .ok receipt := by
  intro roundTrip
  have wellFormed := stoppedReceipt_wellFormed 9 (.inr rfl)
  obtain ⟨bytes, encoded, decoded⟩ := roundTrip (stoppedReceipt 9) wellFormed
  rw [toBytes_eq_encoding wellFormed] at encoded
  injection encoded with encoded
  rw [← encoded, fromBytes_encoding_error wellFormed (by decide)] at decoded
  cases decoded

end DamonRs
