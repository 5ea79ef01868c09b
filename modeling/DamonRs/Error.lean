import Mathlib.Data.List.Basic

/-!
# Errors

The error type of the crate.  A path is the list of components below the DAMON
admin root; files outside of it, the advisory lock and the boot identifier,
keep a leading "/" component.
-/

namespace DamonRs

/-- The components of a path below the DAMON admin root. -/
abbrev Path := List String

/-- A DAMON monitoring operations set. -/
inductive Operation where
  | virtualAddress
  | fixedVirtualAddress
  | physicalAddress
  | unknown (name : String)
  deriving Repr, DecidableEq

namespace Operation

def kernelName : Operation → String
  | virtualAddress => "vaddr"
  | fixedVirtualAddress => "fvaddr"
  | physicalAddress => "paddr"
  | unknown name => name

def parse : String → Operation
  | "vaddr" => virtualAddress
  | "fvaddr" => fixedVirtualAddress
  | "paddr" => physicalAddress
  | other => unknown other

end Operation

/-- The cause carried by a filesystem error. -/
inductive IoSource where
  | os (errno : Nat)
  | writeZero (message : String)
  | invalidData
  deriving Repr, DecidableEq

namespace IoSource

def rawOsError : IoSource → Option Nat
  | os errno => some errno
  | _ => none

end IoSource

inductive Error where
  | unavailable (path : Path)
  | unsupportedPlatform
  | invalidConfiguration (field reason : String)
  | unsupportedOperation (operation : Operation)
  | unsupportedFeature (feature : String)
  | inUse (kdamonds : Nat)
  | kdamondRunning (index : Nat)
  | configurationMismatch (path : String)
  | notRunning
  | unexpectedKdamondState (state : String)
  | invalidKernelValue (path : Path) (value expected : String)
  | invalidRegion (start stop : Nat)
  | snapshotSizeOverflow
  | multipleSnapshotResults (count : Nat)
  | addressConversionOverflow (units unitBytes : Nat)
  | addressConversionInexact (bytes unitBytes : Nat)
  | indexOutOfBounds (kind : String) (index count : Nat)
  | sessionLockBusy (path : Path)
  | invalidReceipt (reason : String)
  | receiptMismatch (reason : String)
  | snapshotWorkerSpawn (source : IoSource)
  | snapshotWorkerDisconnected
  /-- A mutation succeeded but its resulting state could not be verified. -/
  | persistentStateUncertain (verification : Error)
  /-- A mutation failed and its resulting state could not be verified. -/
  | persistentStateUncertainAfter (operation verification : Error)
  | ownershipLost (reason : String)
  | io (operation : String) (path : Path) (source : IoSource)
  | rollback (operation rollback : Error)
  deriving Repr, DecidableEq

namespace Error

/-- Linux `EBUSY`. -/
def linuxEbusy : Nat := 16

def isResourceBusy : Error → Bool
  | io _ _ source => source.rawOsError == some linuxEbusy
  | _ => false

/-- Whether the error reports a failed restoration. -/
def isRollback : Error → Bool
  | rollback _ _ => true
  | _ => false

/-- An optional mutation error paired with the failure to verify the resulting state. -/
def stateUncertain (operation : Option Error) (verification : Error) : Error :=
  match operation with
  | none => persistentStateUncertain verification
  | some operation => persistentStateUncertainAfter operation verification

end Error

/-- A field check: the configuration error naming the field when the condition fails. -/
def requireField (condition : Bool) (field reason : String) : Except Error Unit :=
  if condition then .ok () else .error (.invalidConfiguration field reason)

theorem requireField_eq_ok_iff (condition : Bool) (field reason : String) :
    requireField condition field reason = .ok () ↔ condition = true := by
  cases condition <;> simp [requireField]

end DamonRs
