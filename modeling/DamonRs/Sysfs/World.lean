import DamonRs.Library.Exec
import DamonRs.Config.Enums
import DamonRs.Sysfs.System

/-!
# Programs over the interface

Every access to the interface is one step.  Before it the environment may
change the system, during it an access may fail, and after it the access is
part of the trace.  The memory of the managed hierarchy and the write journal
survive failures, so they belong to the world.
-/

namespace DamonRs

open Library

/-! ## Captured configurations -/

structure ConfigurationEntry where
  path : Path
  value : String
  deriving Repr, DecidableEq

structure ConfigurationFingerprint where
  entries : List ConfigurationEntry
  deriving Repr, DecidableEq

structure ConfigurationSnapshot where
  root : Path
  fingerprint : ConfigurationFingerprint
  deriving Repr, DecidableEq

structure StagedOwnership where
  configuration : ConfigurationSnapshot
  volatilePaths : List Path
  kdamondCount : Nat
  deriving Repr, DecidableEq

/-! ## The memory of a managed hierarchy -/

inductive KdamondSessionState where
  | staged
  | running (pid : Pid)
  | unidentifiedRunning
  deriving DecidableEq

structure ManagedHierarchy where
  previous : Option ConfigurationSnapshot
  staged : StagedOwnership
  states : List KdamondSessionState
  ownsHierarchy : Bool
  deriving DecidableEq

namespace ManagedHierarchy

/-- The memory while no hierarchy is managed. -/
def released : ManagedHierarchy where
  previous := none
  staged := ⟨⟨[], ⟨[]⟩⟩, [], 0⟩
  states := []
  ownsHierarchy := false

end ManagedHierarchy

/-! ## Accesses -/

/-- One access to the interface. -/
inductive Access where
  | inspect (path : Path)
  /-- A read of a whole value. -/
  | read (path : Path)
  /-- A read in chunks that are compared with an expected value. -/
  | compare (path : Path)
  | write (path : Path) (value : String)
  deriving Repr, DecidableEq

/-- Where an access fails. -/
inductive FaultStage where
  | opening
  | transfer
  | entry (name : String)
  | short (written : Nat)
  deriving Repr, DecidableEq

structure Fault where
  stage : FaultStage
  errno : Nat
  deriving Repr, DecidableEq

/-- What an access returned. -/
inductive Reply where
  | failed (fault : Fault)
  | done
  | content (content : Content)
  deriving DecidableEq

/-- An access with its reply and what the session recorded at that time. -/
structure Event where
  access : Access
  reply : Reply
  states : List KdamondSessionState
  deriving DecidableEq

/-- Everything outside of the program. -/
structure Env where
  kernel : Kernel
  /-- What happens to the system before the access with a given number. -/
  interfere : Nat → System → System
  /-- Whether and how the access with a given number fails. -/
  fault : Nat → Access → Option Fault
  freshPid : Nat → Pid
  /-- Whether another process holds the session lock at the access with a given number. -/
  lockHeld : Nat → Bool
  bootId : String
  pageSize : Nat

structure World where
  sys : System
  clock : Nat
  self : ManagedHierarchy
  journal : Option (List Path)
  /-- The accesses made so far, the latest first. -/
  trace : List Event

/-- Programs over the interface. -/
abbrev Sysfs (α : Type) := Exec Env World Error α

namespace World

/-- The world before any access. -/
def initial (sys : System) : World := ⟨sys, 0, .released, none, []⟩

/-- Remember a successful write while a journal is kept. -/
def recordWrite (world : World) (path : Path) : World :=
  { world with journal := world.journal.map (· ++ [path]) }

end World

namespace Env

/-- What the system replies to an access that does not fail on the way. -/
def respond (env : Env) (clock : Nat) (sys : System) : Access → Reply × System
  | .inspect _ => (.done, sys)
  | .read path | .compare path =>
      match sys.files.get? path with
      | some file => (.content file.content, sys)
      | none => (.failed ⟨.opening, enoent⟩, sys)
  | .write path value =>
      match sys.write env.kernel (env.freshPid clock) path value with
      | .ok after => (.done, after)
      | .error errno =>
          (.failed ⟨if (sys.files.get? path).any File.writable then .transfer else .opening, errno⟩,
            sys)

/-- The reply to the next access and the system after it. -/
def serve (env : Env) (world : World) (access : Access) : Reply × System :=
  let sys := env.interfere world.clock world.sys
  match env.fault world.clock access with
  | some fault => (.failed fault, sys)
  | none => env.respond world.clock sys access

/-- The world after the next access. -/
def advance (env : Env) (world : World) (access : Access) : World :=
  let served := env.serve world access
  { world with
    sys := served.2
    clock := world.clock + 1
    trace := ⟨access, served.1, world.self.states⟩ :: world.trace }

end Env

namespace Sysfs

/-- Make one access. -/
def perform (access : Access) : Sysfs Reply := fun env world =>
  (.ok (env.serve world access).1, env.advance world access)

/-- Return an outcome computed from the environment. -/
def environment : Sysfs Env := fun env world => (.ok env, world)

def getSelf : Sysfs ManagedHierarchy := fun _ world => (.ok world.self, world)

def setSelf (self : ManagedHierarchy) : Sysfs Unit := fun _ world =>
  (.ok (), { world with self := self })

/-- Change the memory of the managed hierarchy. -/
def modifySelf (change : ManagedHierarchy → ManagedHierarchy) : Sysfs Unit := fun _ world =>
  (.ok (), { world with self := change world.self })

def recordWrite (path : Path) : Sysfs Unit := fun _ world => (.ok (), world.recordWrite path)

/-- Run an operation with a fresh journal and return its outcome with the paths it wrote. -/
def collectWrites {α : Type} (operation : Sysfs α) : Sysfs (Except Error α × List Path) :=
  fun env world =>
    let (outcome, after) := operation env { world with journal := some [] }
    (.ok (outcome, after.journal.getD []), { after with journal := none })

/-- The largest number of repetitions of an operation that fails with a busy error. -/
def maxRetries : Nat := 5

/-- Repeat an operation while a resource is busy. -/
def retryBusy {α : Type} (operation : Sysfs α) : Sysfs α :=
  Exec.retry Error.isResourceBusy operation maxRetries

@[simp] theorem perform_run (access : Access) (env : Env) (world : World) :
    perform access env world = (.ok (env.serve world access).1, env.advance world access) := rfl

@[simp] theorem environment_run (env : Env) (world : World) :
    environment env world = (.ok env, world) := rfl

@[simp] theorem getSelf_run (env : Env) (world : World) :
    getSelf env world = (.ok world.self, world) := rfl

@[simp] theorem setSelf_run (self : ManagedHierarchy) (env : Env) (world : World) :
    setSelf self env world = (.ok (), { world with self := self }) := rfl

@[simp] theorem modifySelf_run (change : ManagedHierarchy → ManagedHierarchy) (env : Env)
    (world : World) :
    modifySelf change env world = (.ok (), { world with self := change world.self }) := rfl

@[simp] theorem recordWrite_run (path : Path) (env : Env) (world : World) :
    recordWrite path env world = (.ok (), world.recordWrite path) := rfl

end Sysfs

end DamonRs
