import DamonRs.Sysfs.Reading

/-!
# Runtime results

The counters and the tried regions that a running scheme reports.  A region
carries the order of its ends; the total of a snapshot is checked for overflow
while it is summed up.
-/

namespace DamonRs

open Library Sysfs

/-- Runtime counters reported by a scheme. -/
structure SchemeStats where
  regionsTried : UInt64
  sizeTriedUnits : UInt64
  regionsApplied : UInt64
  sizeAppliedUnits : UInt64
  operationsFilterPassedUnits : Option UInt64
  quotaExceeds : UInt64
  applicationSnapshots : Option UInt64
  applicationSnapshotLimit : Option UInt64
  deriving Repr, DecidableEq

/-- A materialized region in core address units. -/
@[ext]
structure RawRegion where
  start : UInt64
  stop : UInt64
  nrAccesses : UInt32
  age : UInt32
  filterPassedUnits : Option UInt64
  /-- The hits of the probes that reported some, with their indexes. -/
  probeHits : List (Nat × UInt8)
  ordered : start ≤ stop

instance : DecidableEq RawRegion := fun _ _ =>
  decidable_of_decidable_of_iff RawRegion.ext_iff.symm

namespace RawRegion

def fromKernel (start stop : UInt64) (nrAccesses age : UInt32)
    (filterPassedUnits : Option UInt64) (probeHits : List (Nat × UInt8)) :
    Except Error RawRegion :=
  if ordered : start ≤ stop then
    .ok ⟨start, stop, nrAccesses, age, filterPassedUnits, probeHits, ordered⟩
  else .error (.invalidRegion start.toNat stop.toNat)

def lenUnits (region : RawRegion) : UInt64 := region.stop - region.start

end RawRegion

structure RawSnapshot where
  regions : List RawRegion
  reportedTotalUnits : Option UInt64
  materializedTotalUnits : UInt64
  deriving DecidableEq

namespace RawSnapshot

end RawSnapshot

namespace Scheme

def stats (scheme : Scheme) : Sysfs SchemeStats := do
  let path := scheme.path ++ ["stats"]
  let regionsTried ← readU64 (path ++ ["nr_tried"])
  let sizeTried ← readU64 (path ++ ["sz_tried"])
  let regionsApplied ← readU64 (path ++ ["nr_applied"])
  let sizeApplied ← readU64 (path ++ ["sz_applied"])
  let passed ← optionalRead (path ++ ["sz_ops_filter_passed"])
    (readU64 (path ++ ["sz_ops_filter_passed"]))
  let quotaExceeds ← readU64 (path ++ ["qt_exceeds"])
  let snapshots ← optionalRead (path ++ ["nr_snapshots"]) (readU64 (path ++ ["nr_snapshots"]))
  let limit ← optionalRead (path ++ ["max_nr_snapshots"])
    (readU64 (path ++ ["max_nr_snapshots"]))
  pure ⟨regionsTried, sizeTried, regionsApplied, sizeApplied, passed, quotaExceeds, snapshots,
    limit⟩

/-- The hits of one probe of a region, where the kernel exposes them. -/
def readProbeHits (probes : Path) (index : Nat) : Sysfs (Option (Nat × UInt8)) := do
  let hits := probes ++ [Path.indexName index, "hits"]
  let value ← optionalRead hits (readU8 hits)
  pure (value.map fun hits => (index, hits))

def readRegionProbes (region : Path) : Sysfs (List (Nat × UInt8)) := do
  let probes := region ++ ["probes"]
  if ← pathIsDir probes then do
    let indices ← numericDirectoryIndices probes
    let hits ← Exec.mapEach (readProbeHits probes) indices
    pure hits.reduceOption
  else pure []

def readTriedRegion (base : Path) (index : Nat) : Sysfs RawRegion := do
  let path := base ++ [Path.indexName index]
  let start ← readU64 (path ++ ["start"])
  let stop ← readU64 (path ++ ["end"])
  let nrAccesses ← readU32 (path ++ ["nr_accesses"])
  let age ← readU32 (path ++ ["age"])
  let passed ← optionalRead (path ++ ["sz_filter_passed"])
    (readU64 (path ++ ["sz_filter_passed"]))
  let probeHits ← readRegionProbes path
  Exec.ofExcept (RawRegion.fromKernel start stop nrAccesses age passed probeHits)

/-- Read one more region and add its length to the total. -/
def addTriedRegion (base : Path) (total : UInt64 × List RawRegion) (index : Nat) :
    Sysfs (UInt64 × List RawRegion) := do
  let region ← readTriedRegion base index
  if total.1.toNat + region.lenUnits.toNat < u64Bound then
    pure (total.1 + region.lenUnits, total.2 ++ [region])
  else Exec.fail .snapshotSizeOverflow

def triedRegions (scheme : Scheme) : Sysfs RawSnapshot := do
  let base := scheme.path ++ ["tried_regions"]
  let reported ← optionalRead (base ++ ["total_bytes"]) (readU64 (base ++ ["total_bytes"]))
  let indices ← numericDirectoryIndices base
  let total ← Exec.foldEach (addTriedRegion base) (0, []) indices
  pure ⟨total.2, reported, total.1⟩

def triedBytesUnits (scheme : Scheme) : Sysfs UInt64 :=
  readU64 (scheme.path ++ ["tried_regions", "total_bytes"])

end Scheme

namespace SchemeQuotas

def effectiveSizeUnits (quotas : SchemeQuotas) : Sysfs UInt64 :=
  readU64 (quotas.path ++ ["effective_bytes"])

end SchemeQuotas

end DamonRs
