import DamonRs.Error
import Mathlib.Algebra.Group.Nat.Defs

/-!
# Validated values

Durations, process identifiers, address units, monitoring intervals and region
bounds.  Each structure carries the check its constructor makes, so a value of
the type is a value the constructor accepted.
-/

namespace DamonRs

/-- The number of unsigned 64-bit values. -/
def u64Bound : Nat := 2 ^ 64

/-- The number of unsigned 32-bit values. -/
def u32Bound : Nat := 2 ^ 32

/-- A non-negative time span in nanoseconds. -/
structure Duration where
  nanos : Nat
  deriving Repr, DecidableEq

namespace Duration

def ofMicros (micros : Nat) : Duration := ⟨1000 * micros⟩

def ofMillis (millis : Nat) : Duration := ⟨1000000 * millis⟩

def asMicros (duration : Duration) : Nat := duration.nanos / 1000

def asMillis (duration : Duration) : Nat := duration.nanos / 1000000

end Duration

/-- Whole microseconds of a duration, in the range of an unsigned 64-bit value. -/
def durationMicros (field : String) (duration : Duration) : Except Error UInt64 :=
  if duration.asMicros < u64Bound then
    if Duration.ofMicros duration.asMicros = duration then
      .ok (UInt64.ofNat duration.asMicros)
    else .error (.invalidConfiguration field "must be exactly representable in whole microseconds")
  else .error (.invalidConfiguration field "does not fit in 64-bit microseconds")

/-- Whole milliseconds of a refresh interval, in the range of the kernel's unsigned int. -/
def durationMillis (duration : Duration) : Except Error UInt32 :=
  if duration.asMillis < u32Bound then
    if Duration.ofMillis duration.asMillis = duration then
      .ok (UInt32.ofNat duration.asMillis)
    else .error (.invalidConfiguration "refresh interval"
      "must be exactly representable in whole milliseconds")
  else .error (.invalidConfiguration "refresh interval"
    "does not fit in the kernel unsigned-int range")

/-- Whole microseconds are counted exactly. -/
theorem durationMicros_ofMicros (field : String) (micros : UInt64) :
    durationMicros field (.ofMicros micros.toNat) = .ok micros := by
  have whole : (Duration.ofMicros micros.toNat).asMicros = micros.toNat := by
    simp [Duration.ofMicros, Duration.asMicros]
  have small : micros.toNat < u64Bound := micros.toNat_lt
  rw [durationMicros, whole, if_pos small, if_pos rfl, UInt64.ofNat_toNat]

/-- A Linux process identifier. -/
structure Pid where
  raw : UInt32
  valid : 0 < raw ∧ raw ≤ 2147483647
  deriving DecidableEq

namespace Pid

def new (raw : UInt32) : Except Error Pid :=
  if valid : 0 < raw ∧ raw ≤ 2147483647 then .ok ⟨raw, valid⟩
  else .error (.invalidConfiguration "pid" "must be between 1 and i32::MAX")

def get (pid : Pid) : UInt32 := pid.raw

@[simp] theorem new_get (pid : Pid) : new pid.get = .ok pid := by
  simp [new, get, pid.valid]

theorem new_ok {raw : UInt32} {pid : Pid} (made : new raw = .ok pid) : pid.get = raw := by
  unfold new at made
  split at made
  · cases made
    rfl
  · cases made

end Pid

/-- Scale factor from core address units to bytes. -/
structure AddressUnit where
  bytes : UInt64
  nonzero : bytes ≠ 0
  deriving DecidableEq

namespace AddressUnit

def one : AddressUnit := ⟨1, by decide⟩

def new (bytes : UInt64) : Except Error AddressUnit :=
  if nonzero : bytes ≠ 0 then .ok ⟨bytes, nonzero⟩
  else .error (.invalidConfiguration "address unit" "must be greater than zero")

end AddressUnit

/-- Sampling, aggregation and operations-update intervals in microseconds. -/
structure MonitoringIntervals where
  sampleUs : UInt64
  aggregationUs : UInt64
  updateUs : UInt64
  ordered : sampleUs ≤ aggregationUs
  deriving DecidableEq

namespace MonitoringIntervals

def ofMicros (sampleUs aggregationUs updateUs : UInt64) : Except Error MonitoringIntervals :=
  if ordered : sampleUs ≤ aggregationUs then .ok ⟨sampleUs, aggregationUs, updateUs, ordered⟩
  else .error (.invalidConfiguration "monitoring intervals"
    "sample interval must not exceed aggregation interval")

def new (sample aggregation update : Duration) : Except Error MonitoringIntervals := do
  let sampleUs ← durationMicros "sample interval" sample
  let aggregationUs ← durationMicros "aggregation interval" aggregation
  let updateUs ← durationMicros "operations update interval" update
  ofMicros sampleUs aggregationUs updateUs

def sample (intervals : MonitoringIntervals) : Duration := .ofMicros intervals.sampleUs.toNat

def aggregation (intervals : MonitoringIntervals) : Duration :=
  .ofMicros intervals.aggregationUs.toNat

def update (intervals : MonitoringIntervals) : Duration := .ofMicros intervals.updateUs.toNat

/-- Intervals of whole microseconds need only be ordered. -/
theorem new_ofMicros (sampleUs aggregationUs updateUs : UInt64) :
    new (.ofMicros sampleUs.toNat) (.ofMicros aggregationUs.toNat) (.ofMicros updateUs.toNat) =
      ofMicros sampleUs aggregationUs updateUs := by
  simp only [new, durationMicros_ofMicros]
  rfl

end MonitoringIntervals

/-- Lower and upper bounds for the adaptive number of monitoring regions. -/
structure RegionBounds where
  min : UInt64
  max : UInt64
  least : 3 ≤ min
  ordered : min ≤ max
  deriving DecidableEq

namespace RegionBounds

def new (min max : UInt64) : Except Error RegionBounds :=
  if least : 3 ≤ min then
    if ordered : min ≤ max then .ok ⟨min, max, least, ordered⟩
    else .error (.invalidConfiguration "region bounds" "minimum must not exceed maximum")
  else .error (.invalidConfiguration "minimum regions" "must be at least 3")

end RegionBounds

end DamonRs
