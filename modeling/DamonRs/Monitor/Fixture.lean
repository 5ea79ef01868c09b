import DamonRs.Monitor.Session
import DamonRs.Sysfs.Fixture

/-!
# Concrete sessions

Hierarchies of kdamonds that each monitor one process, and the session that
has staged and started them, to run calls of the model on.
-/

namespace DamonRs

open Library Sysfs

namespace Fixture

/-! ## Hierarchies -/

/-- The thread of the kdamond with an index. -/
def threadOf (index : Nat) : Pid := if small : index < 100 then
  ⟨UInt32.ofNat (100 + index), by
    have bound : 100 + index < 4294967296 := by omega
    refine ⟨?_, ?_⟩
    · rw [UInt32.lt_iff_toNat_lt, UInt32.toNat_ofNat_of_lt' bound]
      simp
    · rw [UInt32.le_iff_toNat_le, UInt32.toNat_ofNat_of_lt' bound]
      simp
      omega⟩
  else ⟨100, by decide⟩

/-- The monitored process. -/
def process : Pid := ⟨42, by decide⟩

/-- Intervals that differ from the default ones are in order. -/
theorem intervals_ordered : (6000 : UInt64) ≤ 120000 := by decide

/-- The attributes of a context with given intervals, tuned when `aggrs` is not zero, below it. -/
def context (sample aggregation aggrs : String) : List (Path × String) :=
  [(["operations"], "vaddr"), (["vendor"], "0"),
    (["monitoring_attrs", "intervals", "sample_us"], sample),
    (["monitoring_attrs", "intervals", "aggr_us"], aggregation),
    (["monitoring_attrs", "intervals", "update_us"], "60000000"),
    (["monitoring_attrs", "intervals", "intervals_goal", "access_bp"], "400"),
    (["monitoring_attrs", "intervals", "intervals_goal", "aggrs"], aggrs),
    (["monitoring_attrs", "intervals", "intervals_goal", "min_sample_us"], "5000"),
    (["monitoring_attrs", "intervals", "intervals_goal", "max_sample_us"], "10000000"),
    (["monitoring_attrs", "nr_regions", "min"], "10"),
    (["monitoring_attrs", "nr_regions", "max"], "1000"), (["targets", "nr_targets"], "1"),
    (["targets", "0", "pid_target"], "42"), (["schemes", "nr_schemes"], "0")]

/-- The attributes of a kdamond with one context. -/
def kdamond (index : Nat) (state thread : String) (context : List (Path × String)) :
    List (Path × String × Bool) :=
  let base := ["kdamonds", Path.indexName index]
  [(base ++ ["state"], state, true), (base ++ ["pid"], thread, false),
    (base ++ ["contexts", "nr_contexts"], "1", true)] ++
    context.map fun (inner, value) => (base ++ ["contexts", "0"] ++ inner, value, true)

/-- A hierarchy of kdamonds that run with their threads. -/
def running (contexts : List (List (Path × String))) : Files :=
  .ofAttributes ((["kdamonds", "nr_kdamonds"], toString contexts.length, true) ::
    contexts.zipIdx.flatMap fun (context, index) =>
      kdamond index "on" (toString (threadOf index).get.toNat) context)

/-- A hierarchy of stopped kdamonds. -/
def stopped (contexts : List (List (Path × String))) : Files :=
  .ofAttributes ((["kdamonds", "nr_kdamonds"], toString contexts.length, true) ::
    contexts.zipIdx.flatMap fun (context, index) => kdamond index "off" "-1" context)

/-! ## Configurations -/

def contextConfig (intervals : MonitoringIntervals) (aggrs : UInt64) : ContextConfig :=
  { ContextConfig.new .virtualAddress with
    intervals := intervals
    intervalsGoal := ⟨400, aggrs, .ofMicros 5000, .ofMicros 10000000⟩
    targets := [⟨some process, false, []⟩] }

def config (contexts : List ContextConfig) : DamonConfig :=
  ⟨contexts.map fun context => ⟨⟨0⟩, [context]⟩⟩

/-- The captured writable configuration of a hierarchy. -/
def captured (files : Files) : ConfigurationSnapshot :=
  ⟨[], ⟨(files.paths.insertionSort (· ≤ ·)).filterMap fun path =>
    match files.get? path with
    | some ⟨.text text, true⟩ =>
        if Path.isRuntimeAttribute path then none else some ⟨path, text.value⟩
    | _ => none⟩⟩

/-- The session that has staged and started every kdamond of a hierarchy. -/
def session (files : Files) (config : DamonConfig) : World where
  sys := .settled files
  clock := 0
  self :=
    { previous := some (captured files)
      staged := .new (captured files) config
      states := (List.range config.kdamonds.length).map fun index => .running (threadOf index)
      ownsHierarchy := true }
  journal := none
  trace := []

def damon : Damon := ⟨.ofString "/sys/kernel/mm/damon/admin", .ofString "/run/lock/damon.lock"⟩

/-- Nothing else happens and no access fails. -/
def calm : Env := .calm .bare (threadOf 0)

end Fixture

end DamonRs
