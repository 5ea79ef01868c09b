import DamonRs.Sysfs.World
import Mathlib.Data.List.Sort

/-!
# Reading and writing attributes

The access functions with the errors they report.  The comparison of an
attribute with a captured value works on the chunks in which the file is read
and ignores one final newline.
-/

namespace DamonRs

open Library

namespace Sysfs

/-! ## Inspection -/

/-- Look at the files, unless the inspection of a path fails. -/
def inspect {α : Type} (path : Path) (observe : Files → α) : Sysfs (Except Fault α) := do
  match ← perform (.inspect path) with
  | .failed fault => pure (.error fault)
  | _ => do
      let world ← Exec.get
      pure (.ok (observe world.sys.files))

/-- A yes-or-no inspection to which a missing path answers no. -/
def inspectPresence (path : Path) (observe : Files → Bool) : Sysfs Bool := do
  match ← inspect path observe with
  | .ok present => pure present
  | .error fault =>
      if fault.errno = enoent then pure false
      else Exec.fail (.io "inspect" path (.os fault.errno))

def pathExists (path : Path) : Sysfs Bool := inspectPresence path fun files => files.pathExists path

def pathIsDir (path : Path) : Sysfs Bool := inspectPresence path fun files => files.isDirectory path

def pathIsWritable (path : Path) : Sysfs Bool := do
  match ← inspect path fun files => files.writable? path with
  | .error fault => Exec.fail (.io "inspect permissions" path (.os fault.errno))
  | .ok none => Exec.fail (.io "inspect permissions" path (.os enoent))
  | .ok (some writable) => pure writable

/-- The entries of a directory, or the failure to list them. -/
def readDir (path : Path) : Sysfs (Except Fault (List (String × Bool))) := do
  match ← inspect path fun files => files.list? path with
  | .error fault => pure (.error fault)
  | .ok none => pure (.error ⟨.opening, enoent⟩)
  | .ok (some entries) => pure (.ok entries)

/-- The error of a failed listing. -/
def listingError (path : Path) (fault : Fault) : Error :=
  match fault.stage with
  | .opening => .io "list directory" path (.os fault.errno)
  | .entry name => .io "inspect directory entry" (path ++ [name]) (.os fault.errno)
  | _ => .io "read directory entry" path (.os fault.errno)

def numericDirectoryIndices (path : Path) : Sysfs (List Nat) := do
  match ← readDir path with
  | .error fault =>
      if fault.stage = .opening ∧ fault.errno = enoent then pure []
      else Exec.fail (listingError path fault)
  | .ok entries =>
      pure ((entries.filterMap fun (name, directory) =>
        if directory then Path.nameIndex? name else none).insertionSort (· ≤ ·))

/-- The files below a directory of limited depth. -/
def walkFiles : Nat → Path → Sysfs (List Path)
  | 0, directory => Exec.fail (.io "list directory" directory (.os enametoolong))
  | budget + 1, directory => do
      match ← readDir directory with
      | .error fault => Exec.fail (listingError directory fault)
      | .ok entries =>
          let files := entries.filterMap fun (name, isDirectory) =>
            if isDirectory then none else some (directory ++ [name])
          let directories := entries.filterMap fun (name, isDirectory) =>
            if isDirectory then some (directory ++ [name]) else none
          let inner ← Exec.mapEach (walkFiles budget) directories.reverse
          pure (files ++ inner.flatten)

def allFilesRecursive (root : Path) : Sysfs (List Path) := walkFiles pathDepth root

/-! ## Reading -/

def invalidKernelValue {α : Type} (path : Path) (value expected : String) : Sysfs α :=
  Exec.fail (.invalidKernelValue path value expected)

def readText (path : Path) : Sysfs String := do
  match ← perform (.read path) with
  | .failed fault => Exec.fail (.io "read" path (.os fault.errno))
  | .content (.text text) => pure text.raw
  | _ => Exec.fail (.io "read" path .invalidData)

/-- Compare a chunk with what is left of the expected bytes. -/
def matchConfigurationChunk (expected : List UInt8) :
    List UInt8 → Nat → Bool → Option (Nat × Bool)
  | [], matched, newlineSeen => some (matched, newlineSeen)
  | byte :: bytes, matched, newlineSeen =>
      if matched < expected.length then
        if some byte = expected[matched]? then
          matchConfigurationChunk expected bytes (matched + 1) newlineSeen
        else none
      else if newlineSeen ∨ byte ≠ 0x0a then none
      else matchConfigurationChunk expected bytes matched true

/-- Compare the chunks in which a file is read with the expected bytes. -/
def matchConfigurationChunks (expected : List UInt8) :
    List (List UInt8) → Nat → Bool → Bool
  | [], matched, _ => matched == expected.length
  | chunk :: chunks, matched, newlineSeen =>
      match matchConfigurationChunk expected chunk matched newlineSeen with
      | some (matched, newlineSeen) =>
          matchConfigurationChunks expected chunks matched newlineSeen
      | none => false

/-- The size of the read buffer. -/
def readBufferSize : Nat := 256

/-- The bytes in buffers of a given size; `fuel` is at least the number of buffers. -/
def bufferChunks (size : Nat) : Nat → List UInt8 → List (List UInt8)
  | _, [] => []
  | 0, bytes => [bytes]
  | fuel + 1, bytes => bytes.take size :: bufferChunks size fuel (bytes.drop size)

end Sysfs

namespace Content

/-- The bytes a read returns. -/
def bytes : Content → List UInt8
  | .text line => Text.utf8Bytes line.raw
  | .undecodable bytes => bytes

end Content

namespace Sysfs

def readConfigurationValueEquals (path : Path) (expected : String) : Sysfs Bool := do
  match ← perform (.compare path) with
  | .failed fault =>
      if fault.stage = .opening then
        if fault.errno = enoent then pure false
        else Exec.fail (.io "open for reading" path (.os fault.errno))
      else Exec.fail (.io "read" path (.os fault.errno))
  | .content content =>
      let bytes := content.bytes
      pure (matchConfigurationChunks (Text.utf8Bytes expected)
        (bufferChunks readBufferSize bytes.length bytes) 0 false)
  | .done => pure false

/-- The text of an unsigned number: at most 63 bytes of UTF-8. -/
def readNumberText (path : Path) : Sysfs String := do
  match ← perform (.read path) with
  | .failed fault =>
      if fault.stage = .opening then Exec.fail (.io "open for reading" path (.os fault.errno))
      else Exec.fail (.io "read" path (.os fault.errno))
  | .content content =>
      if content.bytes.length ≥ 64 then invalidKernelValue path "<value too long>" "u64"
      else
        match content with
        | .text text => pure (Text.trim text.raw)
        | .undecodable _ => invalidKernelValue path "<non-UTF-8 value>" "u64"
  | .done => invalidKernelValue path "" "u64"

def readU64 (path : Path) : Sysfs UInt64 := do
  let value ← readNumberText path
  match Text.parseUnsigned u64Bound value with
  | some number => pure (UInt64.ofNat number)
  | none => invalidKernelValue path value "u64"

/-- A count; every 64-bit value fits the platform word type. -/
def readUsize (path : Path) : Sysfs Nat := do
  let value ← readU64 path
  pure value.toNat

def readU32 (path : Path) : Sysfs UInt32 := do
  let value ← readU64 path
  if value.toNat < u32Bound then pure (UInt32.ofNat value.toNat)
  else invalidKernelValue path (toString value.toNat) "u32"

def readU8 (path : Path) : Sysfs UInt8 := do
  let value ← readU64 path
  if value.toNat < 256 then pure (UInt8.ofNat value.toNat)
  else invalidKernelValue path (toString value.toNat) "u8"

def readI32 (path : Path) : Sysfs Int32 := do
  let text ← readText path
  let value := Text.trim text
  match Text.parseSigned intBound value with
  | some number => pure (Int32.ofInt number)
  | none => invalidKernelValue path value "i32"

def readBool (path : Path) : Sysfs Bool := do
  let text ← readText path
  let value := Text.trim text
  if ["1", "Y", "y", "yes", "true", "on"].contains value then pure true
  else if ["0", "N", "n", "no", "false", "off"].contains value then pure false
  else invalidKernelValue path value "a Linux boolean"

def readEnum {α : Type} (path : Path) (parse : String → α) : Sysfs α := do
  let text ← readText path
  pure (parse (Text.trim text))

def readSysfsString (path : Path) : Sysfs String := do
  let text ← readText path
  pure (stripFinalNewline text)

def readConfigurationValue (path : Path) : Sysfs String := do
  let text ← readText path
  pure (stripFinalNewline text)

/-! ## Writing -/

def writeBytes (path : Path) (value : String) : Sysfs Unit := do
  match ← perform (.write path value) with
  | .failed fault =>
      match fault.stage with
      | .opening => Exec.fail (.io "open for writing" path (.os fault.errno))
      | .short written =>
          Exec.fail (.io "write complete value" path (.writeZero
            s!"short sysfs write: wrote {written} of {value.utf8ByteSize} bytes"))
      | _ => Exec.fail (.io "write" path (.os fault.errno))
  | _ => recordWrite path

def writeValue (path : Path) (value : Nat) : Sysfs Unit := writeBytes path (toString value)

/-- Whether a kernel rejected a value for its width. -/
def isKernelUlongWidthError : Error → Bool
  | .io _ _ source => source.rawOsError == some einval || source.rawOsError == some erange
  | _ => false

/-- The largest value that the kernel's `unsigned long` can hold. -/
def selectKernelUlongMax (write : Nat → Sysfs Unit) : Sysfs Nat := do
  match ← Exec.attempt (write (u64Bound - 1)) with
  | .ok () => pure (u64Bound - 1)
  | .error error =>
      if isKernelUlongWidthError error then do
        write (u32Bound - 1)
        pure (u32Bound - 1)
      else Exec.fail error

def writeKernelUlongMax (path : Path) : Sysfs Nat := selectKernelUlongMax (writeValue path)

def writeBool (path : Path) (value : Bool) : Sysfs Unit :=
  writeBytes path (if value then "Y" else "N")

def writeEnum (path : Path) (kernelName : String) : Sysfs Unit := do
  Exec.ofExcept (validateToken "kernel enum value" kernelName)
  writeBytes path kernelName

end Sysfs

end DamonRs
