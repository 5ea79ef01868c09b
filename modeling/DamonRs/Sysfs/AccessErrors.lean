import DamonRs.Sysfs.Ownership

/-!
# How accesses fail

A program that only accesses the interface fails because the filesystem did or
because the kernel showed a value that it does not understand.  It never speaks
of configurations, receipts or ownership.
-/

namespace DamonRs

open Library Sysfs
open Library.Exec (FailsAs)

namespace Error

/-- The errors of an access. -/
inductive OfAccess : Error → Prop where
  | io (operation : String) (path : Path) (source : IoSource) : OfAccess (.io operation path source)
  | kernelValue (path : Path) (value expected : String) :
      OfAccess (.invalidKernelValue path value expected)

namespace OfAccess

/-! ## Inspection -/

theorem perform (access : Access) : FailsAs OfAccess (perform access) := by
  intro env world error after run
  cases run

theorem inspect {α : Type} (path : Path) (observe : Files → α) :
    FailsAs OfAccess (inspect path observe) := by
  refine .bind (perform _) fun reply => ?_
  cases reply with
  | failed fault => exact .pure _
  | done => exact .bind .get fun _ => .pure _
  | content content => exact .bind .get fun _ => .pure _

theorem inspectPresence (path : Path) (observe : Files → Bool) :
    FailsAs OfAccess (inspectPresence path observe) := by
  refine .bind (inspect _ _) fun looked => ?_
  cases looked with
  | ok present => exact .pure present
  | error fault => exact .ite (fun _ => .pure false) fun _ => .fail (.io _ _ _)

theorem pathExists (path : Path) : FailsAs OfAccess (pathExists path) := inspectPresence path _

theorem pathIsWritable (path : Path) : FailsAs OfAccess (pathIsWritable path) := by
  refine .bind (inspect _ _) fun looked => ?_
  rcases looked with fault | _ | writable
  · exact .fail (.io _ _ _)
  · exact .fail (.io _ _ _)
  · exact .pure writable

theorem readDir (path : Path) : FailsAs OfAccess (readDir path) := by
  refine .bind (inspect _ _) fun looked => ?_
  rcases looked with fault | _ | entries
  · exact .pure _
  · exact .pure _
  · exact .pure _

theorem listingError (path : Path) (fault : Fault) : OfAccess (listingError path fault) := by
  unfold Sysfs.listingError
  split <;> exact .io _ _ _

theorem walkFiles (budget : Nat) (directory : Path) :
    FailsAs OfAccess (walkFiles budget directory) := by
  induction budget generalizing directory with
  | zero => exact .fail (.io _ _ _)
  | succ budget ih =>
      refine .bind (readDir _) fun listed => ?_
      cases listed with
      | error fault => exact .fail (listingError _ _)
      | ok entries => exact .bind (.mapEach ih _) fun inner => .pure _

theorem allFilesRecursive (root : Path) : FailsAs OfAccess (allFilesRecursive root) :=
  walkFiles pathDepth root

/-! ## Reading -/

theorem readText (path : Path) : FailsAs OfAccess (readText path) := by
  refine .bind (perform _) fun reply => ?_
  cases reply with
  | failed fault => exact .fail (.io _ _ _)
  | done => exact .fail (.io _ _ _)
  | content content =>
      cases content with
      | text text => exact .pure _
      | undecodable bytes => exact .fail (.io _ _ _)

theorem readNumberText (path : Path) : FailsAs OfAccess (readNumberText path) := by
  refine .bind (perform _) fun reply => ?_
  cases reply with
  | failed fault => exact .ite (fun _ => .fail (.io _ _ _)) fun _ => .fail (.io _ _ _)
  | done => exact .fail (.kernelValue _ _ _)
  | content content =>
      refine .ite (fun _ => .fail (.kernelValue _ _ _)) fun _ => ?_
      cases content with
      | text text => exact .pure _
      | undecodable bytes => exact .fail (.kernelValue _ _ _)

theorem readU64 (path : Path) : FailsAs OfAccess (readU64 path) := by
  refine .bind (readNumberText path) fun value => ?_
  split
  · exact .pure _
  · exact .fail (.kernelValue _ _ _)

theorem readUsize (path : Path) : FailsAs OfAccess (readUsize path) :=
  .bind (readU64 path) fun _ => .pure _

theorem readI32 (path : Path) : FailsAs OfAccess (readI32 path) := by
  refine .bind (readText path) fun text => ?_
  dsimp only
  split
  · exact .pure _
  · exact .fail (.kernelValue _ _ _)

theorem readConfigurationValue (path : Path) : FailsAs OfAccess (readConfigurationValue path) :=
  .bind (readText path) fun _ => .pure _

theorem readConfigurationValueEquals (path : Path) (expected : String) :
    FailsAs OfAccess (readConfigurationValueEquals path expected) := by
  refine .bind (perform _) fun reply => ?_
  cases reply with
  | failed fault =>
      exact .ite (fun _ => .ite (fun _ => .pure false) fun _ => .fail (.io _ _ _))
        fun _ => .fail (.io _ _ _)
  | content content => exact .pure _
  | done => exact .pure false

theorem kdamondCount : FailsAs OfAccess DamonAdmin.kdamondCount := readUsize _

theorem pid (kdamond : Kdamond) : FailsAs OfAccess kdamond.pid := by
  refine .bind (readI32 _) fun raw => .ite (fun _ => .pure none) fun _ => ?_
  split
  · exact .pure _
  · exact .fail (.kernelValue _ _ _)

/-! ## Captures and comparisons -/

theorem configurationFile? (root path : Path) : FailsAs OfAccess (configurationFile? root path) := by
  unfold DamonRs.configurationFile?
  split
  · exact .fail (.io _ _ _)
  · exact .ite (fun _ => .pure none) fun _ => .bind (pathIsWritable path) fun _ => .pure _

theorem captureConfiguration (root : Path) : FailsAs OfAccess (captureConfiguration root) := by
  have paths : FailsAs OfAccess (writableConfigurationFiles root) :=
    .bind (allFilesRecursive root) fun _ =>
      .bind (.mapEach (configurationFile? root) _) fun _ => .pure _
  refine .bind paths fun paths => .bind (.mapEach (fun path => ?_) _) fun _ => .pure _
  exact .bind (readConfigurationValue path) fun _ => .pure _

theorem entriesMatch (skip : Path → Bool) (entries : List ConfigurationEntry) :
    FailsAs OfAccess (entriesMatch skip entries) := by
  induction entries with
  | nil => exact .pure true
  | cons entry rest ih =>
      refine .ite (fun _ => ih) fun _ => ?_
      exact .bind (readConfigurationValueEquals _ _) fun _ => .ite (fun _ => ih) fun _ => .pure false

theorem matchesCurrentExcept (snapshot : ConfigurationSnapshot) (ignored : List Path) :
    FailsAs OfAccess (snapshot.matchesCurrentExcept ignored) :=
  entriesMatch _ _

theorem matchesCompleteCurrentExcept (snapshot : ConfigurationSnapshot) (ignored : List Path) :
    FailsAs OfAccess (snapshot.matchesCompleteCurrentExcept ignored) :=
  .bind (captureConfiguration _) fun _ => .pure _

end OfAccess

end Error

end DamonRs
