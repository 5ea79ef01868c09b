import DamonRs.Library.Checks
import DamonRs.Library.Cursor
import DamonRs.Library.Exec
import DamonRs.Library.Search
import DamonRs.Library.Sorted
import DamonRs.Library.Step
import DamonRs.Library.Store
import DamonRs.Library.Text
import DamonRs.Library.Align
import DamonRs.Library.Channel
import DamonRs.Library.Collect
import DamonRs.Error
import DamonRs.Values
import DamonRs.Config.Enums
import DamonRs.Config.Model
import DamonRs.Config.Equivalence
import DamonRs.Config.Normalization
import DamonRs.Config.Validate
import DamonRs.Sysfs.Paths
import DamonRs.Sysfs.System
import DamonRs.Sysfs.World
import DamonRs.Sysfs.Io
import DamonRs.Sysfs.Confined
import DamonRs.Sysfs.Reading
import DamonRs.Sysfs.Ownership
import DamonRs.Sysfs.ConfinedReading
import DamonRs.Sysfs.Staging
import DamonRs.Sysfs.ConfinedStaging
import DamonRs.Sysfs.Runtime
import DamonRs.Sysfs.Trace
import DamonRs.Sysfs.Compare
import DamonRs.Sysfs.Fixture
import DamonRs.Sysfs.Frame
import DamonRs.Sysfs.Moments
import DamonRs.Sysfs.Reaches
import DamonRs.Sysfs.Within
import DamonRs.Sysfs.Stepping
import DamonRs.Sysfs.Plain
import DamonRs.Sysfs.Reader
import DamonRs.Sysfs.Validated
import DamonRs.Sysfs.Written
import DamonRs.Receipt.Path
import DamonRs.Receipt.Format
import DamonRs.Monitor.Ownership
import DamonRs.Monitor.Handle
import DamonRs.Monitor.Hierarchy
import DamonRs.Monitor.Session
import DamonRs.Monitor.Persistent
import DamonRs.Monitor.Runtime
import DamonRs.Monitor.Accesses
import DamonRs.Monitor.Fixture
import DamonRs.Monitor.Transaction
import DamonRs.Monitor.Rollback
import DamonRs.Monitor.Adoption
import DamonRs.Monitor.Agreement
import DamonRs.Monitor.Identity
import DamonRs.Monitor.Batch
import DamonRs.Monitor.Lifecycle
import DamonRs.Monitor.StopSafety
import DamonRs.Monitor.LostThreads
import DamonRs.Monitor.LostLifecycle
import DamonRs.Monitor.LostPause
import DamonRs.Monitor.LostCalls
import DamonRs.Monitor.SelectedUpdate
import DamonRs.Monitor.StartFailure
import DamonRs.Monitor.StopIsolation
import DamonRs.Monitor.TunedUpdate
import DamonRs.Receipt.RoundTrip
import DamonRs.Receipt.Canonical
import DamonRs.Sysfs.TypedReader
import DamonRs.Sysfs.Cut
import DamonRs.Sysfs.Capture
import DamonRs.Sysfs.Restore
import DamonRs.Sysfs.Goals
import DamonRs.Monitor.GoalUpdate
import DamonRs.Config.Accepted
import DamonRs.Config.Regions
import DamonRs.Monitor.Obsolete
import DamonRs.Config.Mismatch
import DamonRs.Monitor.Workflow
import DamonRs.Config.Placement
import DamonRs.Sysfs.Stored
import DamonRs.Sysfs.Filters
import DamonRs.Monitor.Undo
import DamonRs.Sysfs.Failures
import DamonRs.Monitor.Offline
import DamonRs.Monitor.Subtrees
import DamonRs.Sysfs.Tokens
import DamonRs.Monitor.SnapshotRequest
import DamonRs.Sysfs.Answers
import DamonRs.Sysfs.TriedRegions
import DamonRs.Receipt.Decoded
import DamonRs.Receipt.Absolute
import DamonRs.Sysfs.AccessErrors
import DamonRs.Monitor.Attach
import DamonRs.Monitor.Opening
import DamonRs.Library.Returned
import DamonRs.Sysfs.Ordered
import DamonRs.Monitor.Memory
import DamonRs.Monitor.Restoring
import DamonRs.Monitor.Snapshots
import DamonRs.Monitor.OneRefresh
