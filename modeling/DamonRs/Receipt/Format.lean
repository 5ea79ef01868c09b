import DamonRs.Library.Cursor
import DamonRs.Library.Search
import DamonRs.Library.Text
import DamonRs.Receipt.Path
import DamonRs.Values

/-!
# The binary receipt format

Receipts of persistent hierarchies with their encoder and their decoder.  The
decoder bounds every element count by the number of bytes that are left, and
checks the recorded values against each other before it accepts a receipt.
-/

namespace DamonRs

open Library

/-- A running kdamond identity recorded in a persistent receipt. -/
structure PersistentKdamondIdentity where
  index : Nat
  pid : Pid
  deriving DecidableEq

/-- One writable configuration value captured at a path relative to the admin root. -/
structure WritableConfigurationValue where
  path : PathBuf
  value : String
  deriving Repr, DecidableEq

structure PersistentReceipt where
  adminPath : PathBuf
  lockPath : PathBuf
  bootId : String
  writableValues : List WritableConfigurationValue
  volatilePaths : List PathBuf
  kdamondCount : Nat
  identities : List PersistentKdamondIdentity
  deriving DecidableEq

namespace Receipt

/-- The number of values of the platform word type. -/
def usizeBound : Nat := 2 ^ 64

/-- The largest size of an allocation. -/
def isizeMax : Nat := 2 ^ 63 - 1

def receiptMagic : List UInt8 := Text.utf8Bytes "DAMONR01"

def receiptVersion : Nat := 1

/-! ## Validation -/

def isBootId (value : String) : Bool :=
  let bytes := Text.utf8Bytes value
  bytes.length == 36 && bytes.zipIdx.all fun (byte, index) =>
    if index = 8 ∨ index = 13 ∨ index = 18 ∨ index = 23 then byte == 0x2d
    else (0x30 ≤ byte && byte ≤ 0x39) || (0x41 ≤ byte && byte ≤ 0x46) ||
      (0x61 ≤ byte && byte ≤ 0x66)

def validateBootId (value : String) : Except Error Unit :=
  if isBootId value then .ok ()
  else .error (.invalidReceipt "contains an invalid Linux boot identifier")

def isRelativePath (path : PathBuf) : Bool :=
  !path.bytes.isEmpty && !path.isAbsolute && !path.containsNul &&
    path.components.all Component.isNormal

def validateRelativePath (path : PathBuf) : Except Error Unit :=
  if isRelativePath path then .ok ()
  else .error (.invalidReceipt "contains a non-relative configuration path")

/-- A path component as an unsigned number of the platform word type. -/
def parseIndex (component : Component) : Option Nat := do
  let text ← Text.ofUtf8Bytes? component.asOsStr
  Text.parseUnsigned usizeBound text

/-- The `intervals` directory of an interval-goal aggregation count inside the hierarchy. -/
def tunedIntervalsPath (path : List Component) (kdamondCount : Nat) : Option (List Component) :=
  match path with
  | kdamonds :: kdamond :: contexts :: context :: rest =>
      if kdamonds.asOsStr = Text.utf8Bytes "kdamonds" then
        match parseIndex kdamond with
        | some kdamondIndex =>
            if kdamondIndex ≥ kdamondCount ∨ contexts.asOsStr ≠ Text.utf8Bytes "contexts" then none
            else
              match parseIndex context with
              | some _ =>
                  if rest.map Component.asOsStr =
                      ["monitoring_attrs", "intervals", "intervals_goal", "aggrs"].map
                        (fun name => Text.utf8Bytes name) then
                    some path.dropLast.dropLast
                  else none
              | none => none
        | none => none
      else none
  | _ => none

/-- Look a path up among ordered values. -/
def searchPath (values : List WritableConfigurationValue) (path : List Component) :
    SearchResult :=
  binarySearchByKey values (fun value => value.path.components) path

/-- The interval leaves below one tuned `intervals` directory, each present among the values. -/
def pushTunedLeaves (values : List WritableConfigurationValue) (intervalsPath : List Component) :
    List String → Except Error (List (List Component))
  | [] => .ok []
  | name :: names => do
      let path := intervalsPath ++ [.named name]
      if (searchPath values path).found?.isNone then
        throw (.invalidReceipt "omits an auto-tuned writable interval")
      let paths ← pushTunedLeaves values intervalsPath names
      pure (path :: paths)

/-- The loop of `expectedVolatilePaths` over the remaining values. -/
def collectVolatilePaths (values : List WritableConfigurationValue) (kdamondCount : Nat) :
    List WritableConfigurationValue → Except Error (List (List Component))
  | [] => .ok []
  | value :: rest =>
      match tunedIntervalsPath value.path.components kdamondCount with
      | none => collectVolatilePaths values kdamondCount rest
      | some intervalsPath =>
          match Text.parseUnsigned u64Bound (Text.trim value.value) with
          | none =>
              .error (.invalidReceipt "contains an invalid interval-goal aggregation count")
          | some aggregationIntervals =>
              if aggregationIntervals = 0 then collectVolatilePaths values kdamondCount rest
              else do
                let leaves ← pushTunedLeaves values intervalsPath ["aggr_us", "sample_us"]
                let paths ← collectVolatilePaths values kdamondCount rest
                pure (leaves ++ paths)

def expectedVolatilePaths (values : List WritableConfigurationValue) (kdamondCount : Nat) :
    Except Error (List (List Component)) := do
  let paths ← collectVolatilePaths values kdamondCount values
  pure (sortDedup paths)

/-- Whether some pair of neighbours is not strictly increasing. -/
def anyDescent (paths : List (List Component)) : Bool :=
  (paths.zip paths.tail).any fun (first, second) => first ≥ second

def nrKdamondsPath : List Component := [.named "kdamonds", .named "nr_kdamonds"]

def validateReceiptConfiguration (values : List WritableConfigurationValue)
    (volatilePaths : List PathBuf) (kdamondCount : Nat) : Except Error Unit := do
  if anyDescent (values.map fun value => value.path.components) then
    throw (.invalidReceipt "writable configuration paths are not distinct and ordered")
  if anyDescent (volatilePaths.map PathBuf.components) then
    throw (.invalidReceipt "volatile configuration paths are not distinct and ordered")
  let countIndex ← match searchPath values nrKdamondsPath with
    | .found index => pure index
    | .missing _ => throw (.invalidReceipt "does not contain the kdamond count")
  let recordedCount ←
    match (values[countIndex]?).bind fun value =>
        Text.parseUnsigned usizeBound (Text.trim value.value) with
    | some count => pure count
    | none => throw (.invalidReceipt "contains an invalid writable kdamond count")
  if recordedCount ≠ kdamondCount then
    throw (.invalidReceipt "contains inconsistent kdamond counts")
  let expectedVolatile ← expectedVolatilePaths values kdamondCount
  if volatilePaths.map PathBuf.components ≠ expectedVolatile then
    throw (.invalidReceipt "contains inconsistent auto-tuned interval paths")

/-! ## Encoding -/

def encodeLen (output : List UInt8) (len : Nat) : Except Error (List UInt8) :=
  if len < u64Bound then .ok (output ++ toLeBytes 8 len)
  else .error (.invalidReceipt "contains a value too large to serialize")

def encodeBytes (output bytes : List UInt8) : Except Error (List UInt8) := do
  let output ← encodeLen output bytes.length
  pure (output ++ bytes)

def encodePath (output : List UInt8) (path : PathBuf) : Except Error (List UInt8) :=
  encodeBytes output path.bytes

def encodeValues (output : List UInt8) :
    List WritableConfigurationValue → Except Error (List UInt8)
  | [] => .ok output
  | value :: rest => do
      let output ← encodePath output value.path
      let output ← encodeBytes output (Text.utf8Bytes value.value)
      encodeValues output rest

def encodePaths (output : List UInt8) : List PathBuf → Except Error (List UInt8)
  | [] => .ok output
  | path :: rest => do
      let output ← encodePath output path
      encodePaths output rest

def encodeIdentities (output : List UInt8) :
    List PersistentKdamondIdentity → Except Error (List UInt8)
  | [] => .ok output
  | identity :: rest =>
      if identity.index < u64Bound then
        encodeIdentities (output ++ toLeBytes 8 identity.index ++
          toLeBytes 4 identity.pid.get.toNat) rest
      else .error (.invalidReceipt "a kdamond index cannot be serialized")

/-! ## Decoding -/

/-- A decoder over the bytes of a receipt. -/
abbrev Decoder := Parser UInt8 Error

namespace Decoder

def fail {α : Type} (reason : String) : Decoder α := fun _ => .error (.invalidReceipt reason)

def liftResult {α : Type} (result : Except Error α) : Decoder α := fun cursor =>
  match result with
  | .ok value => .ok (value, cursor)
  | .error error => .error error

def take (len : Nat) : Decoder (List UInt8) := fun cursor =>
  if cursor.offset + len < usizeBound then
    if cursor.offset + len ≤ cursor.items.length then
      .ok ((cursor.items.drop cursor.offset).take len, ⟨cursor.items, cursor.offset + len⟩)
    else .error (.invalidReceipt "is truncated")
  else .error (.invalidReceipt "contains an overflowing length")

def readU32 : Decoder Nat := do
  let bytes ← take 4
  pure (fromLeBytes bytes)

def readU64 : Decoder Nat := do
  let bytes ← take 8
  pure (fromLeBytes bytes)

/-- The number of bytes that have not been read. -/
def remaining : Decoder Nat := fun cursor => .ok (cursor.remaining, cursor)

def readCount : Decoder Nat := do
  let count ← readU64
  let remaining ← remaining
  if count > remaining then fail "contains an impossible element count"
  else pure count

def readBytes : Decoder (List UInt8) := do
  let len ← readCount
  take len

def readPath : Decoder PathBuf := do
  let bytes ← readBytes
  pure ⟨bytes⟩

def readText (reason : String) : Decoder String := do
  let bytes ← readBytes
  match Text.ofUtf8Bytes? bytes with
  | some text => pure text
  | none => fail reason

def readWritableValue : Decoder WritableConfigurationValue := do
  let path ← readPath
  liftResult (validateRelativePath path)
  let value ← readText "contains a non-UTF-8 configuration value"
  pure ⟨path, value⟩

def readVolatilePath : Decoder PathBuf := do
  let path ← readPath
  liftResult (validateRelativePath path)
  pure path

/-- One identity after `previous`, the index read before it. -/
def readIdentity (kdamondCount : Nat) (previous : Option Nat) :
    Decoder PersistentKdamondIdentity := do
  let index ← readU64
  if index ≥ kdamondCount then fail "contains a running identity outside the hierarchy"
  else if previous.any (· ≥ index) then
    fail "running kdamond identities are not distinct and ordered"
  else
    let raw ← readU32
    match Pid.new (UInt32.ofNat raw) with
    | .ok pid => pure ⟨index, pid⟩
    | .error _ => fail "contains an invalid kdamond kernel-thread ID"

def readIdentities (kdamondCount : Nat) :
    Nat → Option Nat → Decoder (List PersistentKdamondIdentity)
  | 0, _ => pure []
  | count + 1, previous => do
      let identity ← readIdentity kdamondCount previous
      let identities ← readIdentities kdamondCount count (some identity.index)
      pure (identity :: identities)

/-- The format marker and version. -/
def readHeader : Decoder Unit := do
  let magic ← take receiptMagic.length
  if magic ≠ receiptMagic then fail "has an invalid format marker"
  else
    let version ← readU32
    if version ≠ receiptVersion then fail "uses an unsupported format version"
    else pure ()

/-- The admin path, the lock path and the boot identifier. -/
def readBinding : Decoder (PathBuf × PathBuf × String) := do
  let adminPath ← readPath
  let lockPath ← readPath
  let bootId ← readText "contains a non-UTF-8 boot identifier"
  if !adminPath.isAbsolute || !lockPath.isAbsolute || adminPath.containsNul ||
      lockPath.containsNul then
    fail "admin and lock paths must be absolute and contain no NUL bytes"
  else
    liftResult (validateBootId bootId)
    pure (adminPath, lockPath, bootId)

def readWritableValues : Decoder (List WritableConfigurationValue) := do
  let valueCount ← readCount
  Parser.times readWritableValue valueCount

def readVolatilePaths : Decoder (List PathBuf) := do
  let volatileCount ← readCount
  Parser.times readVolatilePath volatileCount

/-- The running identities and the end of the input. -/
def readRunning (kdamondCount : Nat) : Decoder (List PersistentKdamondIdentity) := do
  let identityCount ← readCount
  if identityCount > kdamondCount then
    fail "contains more running identities than configured kdamonds"
  else
    let identities ← readIdentities kdamondCount identityCount none
    let remaining ← remaining
    if remaining ≠ 0 then fail "contains trailing data"
    else pure identities

/-- The kdamond count, its validation, and the running identities. -/
def readRemainder (adminPath lockPath : PathBuf) (bootId : String)
    (writableValues : List WritableConfigurationValue) (volatilePaths : List PathBuf) :
    Decoder PersistentReceipt := do
  let kdamondCount ← readCount
  if kdamondCount = 0 then fail "contains no configured kdamonds"
  else
    liftResult (validateReceiptConfiguration writableValues volatilePaths kdamondCount)
    let identities ← readRunning kdamondCount
    pure ⟨adminPath, lockPath, bootId, writableValues, volatilePaths, kdamondCount, identities⟩

def readReceipt : Decoder PersistentReceipt := do
  readHeader
  let (adminPath, lockPath, bootId) ← readBinding
  let writableValues ← readWritableValues
  let volatilePaths ← readVolatilePaths
  readRemainder adminPath lockPath bootId writableValues volatilePaths

end Decoder

end Receipt

namespace PersistentReceipt

open Receipt

/-- Serialize a receipt into its binary representation. -/
def toBytes (receipt : PersistentReceipt) : Except Error (List UInt8) := do
  let output := receiptMagic ++ toLeBytes 4 receiptVersion
  let output ← encodePath output receipt.adminPath
  let output ← encodePath output receipt.lockPath
  let output ← encodeBytes output (Text.utf8Bytes receipt.bootId)
  let output ← encodeLen output receipt.writableValues.length
  let output ← encodeValues output receipt.writableValues
  let output ← encodeLen output receipt.volatilePaths.length
  let output ← encodePaths output receipt.volatilePaths
  let output ← encodeLen output receipt.kdamondCount
  let output ← encodeLen output receipt.identities.length
  encodeIdentities output receipt.identities

/-- Parse a serialized receipt. -/
def fromBytes (bytes : List UInt8) : Except Error PersistentReceipt :=
  match Decoder.readReceipt (Cursor.start bytes) with
  | .ok (receipt, _) => .ok receipt
  | .error error => .error error

end PersistentReceipt

end DamonRs
