import DamonRs.Config.Accepted
import DamonRs.Library.Align
import Mathlib.Data.List.Chain

/-!
# Initial regions

Byte ranges become regions of core address units, and the kernel rounds the
ends of a region to its minimum region size.  The conversions are tight, the
acceptance check is exact for every pair of regions, and the end of an accepted
region may still leave the 64-bit range once it is rounded and scaled.
-/

namespace DamonRs

open Library

/-! ## Conversions from bytes -/

namespace AddressUnit

def unitsFromBytesExact (unit : AddressUnit) (bytes : UInt64) : Except Error UInt64 :=
  if bytes % unit.bytes ≠ 0 then
    .error (.addressConversionInexact bytes.toNat unit.bytes.toNat)
  else .ok (bytes / unit.bytes)

def floorUnits (unit : AddressUnit) (bytes : UInt64) : UInt64 := bytes / unit.bytes

def ceilUnits (unit : AddressUnit) (bytes : UInt64) : UInt64 :=
  let quotient := bytes / unit.bytes
  if bytes % unit.bytes = 0 then quotient else quotient + 1

theorem bytes_pos (unit : AddressUnit) : 0 < unit.bytes.toNat := by
  apply Nat.pos_of_ne_zero
  intro zero
  exact unit.nonzero (UInt64.toNat_inj.mp zero)

theorem toBytes_ok {unit : AddressUnit} {units bytes : UInt64} :
    unit.toBytes units = .ok bytes ↔ units.toNat * unit.bytes.toNat = bytes.toNat := by
  have scaled : (units * unit.bytes).toNat = units.toNat * unit.bytes.toNat % u64Bound :=
    UInt64.toNat_mul _ _
  have small : bytes.toNat < u64Bound := bytes.toNat_lt
  unfold toBytes
  split
  · rename_i fits
    rw [Nat.mod_eq_of_lt fits] at scaled
    rw [Except.ok.injEq, ← UInt64.toNat_inj, scaled]
  · rename_i overflows
    constructor
    · intro failed
      cases failed
    · intro same
      exact absurd (same ▸ small) overflows

/-- Rounding down is exact division of the number below. -/
theorem floorUnits_mul (unit : AddressUnit) (bytes : UInt64) :
    (unit.floorUnits bytes).toNat * unit.bytes.toNat =
      Align.down unit.bytes.toNat bytes.toNat := by
  rw [floorUnits, UInt64.toNat_div, Align.down_eq, Nat.mul_comm]

/-- Rounding up does not wrap: a unit that leaves a remainder is larger than one byte. -/
theorem ceilUnits_mul (unit : AddressUnit) (bytes : UInt64) :
    (unit.ceilUnits bytes).toNat * unit.bytes.toNat =
      Align.up unit.bytes.toNat bytes.toNat := by
  have zero : bytes % unit.bytes = 0 ↔ bytes.toNat % unit.bytes.toNat = 0 := by
    rw [← UInt64.toNat_inj, UInt64.toNat_mod]
    rfl
  by_cases remains : bytes.toNat % unit.bytes.toNat = 0
  · have division := Nat.div_add_mod bytes.toNat unit.bytes.toNat
    rw [remains, Nat.add_zero] at division
    rw [ceilUnits, if_pos (zero.mpr remains), UInt64.toNat_div, Align.up, if_pos remains,
      Nat.mul_comm, division]
  · have large : 2 ≤ unit.bytes.toNat := by
      have positive := unit.bytes_pos
      by_contra single
      have one : unit.bytes.toNat = 1 := by omega
      exact remains (by rw [one, Nat.mod_one])
    have small : bytes.toNat < 2 ^ 64 := bytes.toNat_lt
    have quotient : bytes.toNat / unit.bytes.toNat ≤ bytes.toNat / 2 :=
      Nat.div_le_div_left large (by decide)
    rw [ceilUnits, if_neg (fun none => remains (zero.mp none)), UInt64.toNat_add,
      UInt64.toNat_div, Align.up_of_remainder unit.bytes_pos remains, Nat.mul_comm]
    congr 1
    apply Nat.mod_eq_of_lt
    have unitValue : (1 : UInt64).toNat = 1 := rfl
    omega

end AddressUnit

namespace InitialRegionConfig

def fromByteRangeExact (startBytes endBytes : UInt64) (unit : AddressUnit) :
    Except Error InitialRegionConfig := do
  let start ← unit.unitsFromBytesExact startBytes
  let stop ← unit.unitsFromBytesExact endBytes
  new start stop

def fromByteRangeCovering (startBytes endBytes : UInt64) (unit : AddressUnit) :
    Except Error InitialRegionConfig :=
  if startBytes ≥ endBytes then
    .error (.invalidConfiguration "initial byte region"
      "start must be less than the exclusive end")
  else new (unit.floorUnits startBytes) (unit.ceilUnits endBytes)

/-- The core address units of a region. -/
def units (region : InitialRegionConfig) : Set Nat :=
  Set.Ico region.start.toNat region.stop.toNat

/-- The bytes of a region, counted without wrapping. -/
def byteExtent (region : InitialRegionConfig) (unit : AddressUnit) : Set Nat :=
  Set.Ico (region.start.toNat * unit.bytes.toNat) (region.stop.toNat * unit.bytes.toNat)

theorem new_ok {start stop : UInt64} (ordered : start < stop) :
    new start stop = .ok ⟨start, stop⟩ := by
  rw [new, if_neg (UInt64.not_le.mpr ordered)]

theorem covers_iff {region : InitialRegionConfig} {unit : AddressUnit} {start stop : UInt64}
    (ordered : start < stop) :
    Set.Ico start.toNat stop.toNat ⊆ region.byteExtent unit ↔
      region.start.toNat * unit.bytes.toNat ≤ start.toNat ∧
        stop.toNat ≤ region.stop.toNat * unit.bytes.toNat :=
  Set.Ico_subset_Ico_iff (UInt64.lt_iff_toNat_lt.mp ordered)

/-- The ends of the covering region are the scaled ends of the range, rounded outwards. -/
theorem covering_ordered {unit : AddressUnit} {start stop : UInt64} (ordered : start < stop) :
    unit.floorUnits start < unit.ceilUnits stop := by
  apply UInt64.lt_iff_toNat_lt.mpr
  apply Nat.lt_of_mul_lt_mul_right (a := unit.bytes.toNat)
  rw [unit.floorUnits_mul, unit.ceilUnits_mul]
  calc
    Align.down unit.bytes.toNat start.toNat ≤ start.toNat := Align.down_le _ _
    _ < stop.toNat := UInt64.lt_iff_toNat_lt.mp ordered
    _ ≤ Align.up unit.bytes.toNat stop.toNat := Align.le_up _ _

theorem fromByteRangeCovering_eq {unit : AddressUnit} {start stop : UInt64}
    (ordered : start < stop) :
    fromByteRangeCovering start stop unit =
      .ok ⟨unit.floorUnits start, unit.ceilUnits stop⟩ := by
  rw [fromByteRangeCovering, if_neg (UInt64.not_le.mpr ordered), new_ok (covering_ordered ordered)]

/-- What covers a range reaches the rounded ends. -/
theorem covers_rounded {unit : AddressUnit} {start stop : UInt64} {region : InitialRegionConfig}
    (ordered : start < stop) (covers : Set.Ico start.toNat stop.toNat ⊆ region.byteExtent unit) :
    region.start ≤ unit.floorUnits start ∧ unit.ceilUnits stop ≤ region.stop := by
  obtain ⟨below, above⟩ := (covers_iff ordered).mp covers
  constructor
  · apply UInt64.le_iff_toNat_le.mpr
    apply Nat.le_of_mul_le_mul_right _ unit.bytes_pos
    rw [unit.floorUnits_mul]
    exact (Align.le_down_iff unit.bytes_pos (Nat.dvd_mul_left _ _) _).mpr below
  · apply UInt64.le_iff_toNat_le.mpr
    apply Nat.le_of_mul_le_mul_right _ unit.bytes_pos
    rw [unit.ceilUnits_mul]
    exact (Align.up_le_iff unit.bytes_pos (Nat.dvd_mul_left _ _) _).mpr above

/-- A range is converted exactly when the unit divides both of its ends. -/
theorem unitsFromBytesExact_eq (unit : AddressUnit) (bytes : UInt64) :
    unit.unitsFromBytesExact bytes =
      if unit.bytes.toNat ∣ bytes.toNat then .ok (unit.floorUnits bytes)
      else .error (.addressConversionInexact bytes.toNat unit.bytes.toNat) := by
  have zero : bytes % unit.bytes = 0 ↔ unit.bytes.toNat ∣ bytes.toNat := by
    rw [← UInt64.toNat_inj, UInt64.toNat_mod, Nat.dvd_iff_mod_eq_zero]
    rfl
  unfold AddressUnit.unitsFromBytesExact
  by_cases divides : unit.bytes.toNat ∣ bytes.toNat
  · rw [if_neg (not_not.mpr (zero.mpr divides)), if_pos divides]
    rfl
  · rw [if_pos (fun none => divides (zero.mp none)), if_neg divides]

/-- Without a remainder both roundings are the same exact division. -/
theorem ceilUnits_of_dvd {unit : AddressUnit} {bytes : UInt64}
    (divides : unit.bytes.toNat ∣ bytes.toNat) : unit.ceilUnits bytes = unit.floorUnits bytes := by
  apply UInt64.toNat_inj.mp
  apply Nat.eq_of_mul_eq_mul_right unit.bytes_pos
  rw [unit.ceilUnits_mul, unit.floorUnits_mul, Align.up, Align.down,
    if_pos (Nat.dvd_iff_mod_eq_zero.mp divides), Nat.dvd_iff_mod_eq_zero.mp divides, Nat.sub_zero]

theorem toBytes_of_dvd {unit : AddressUnit} {bytes : UInt64}
    (divides : unit.bytes.toNat ∣ bytes.toNat) :
    unit.toBytes (unit.floorUnits bytes) = .ok bytes := by
  rw [AddressUnit.toBytes_ok, unit.floorUnits_mul, Align.down,
    Nat.dvd_iff_mod_eq_zero.mp divides, Nat.sub_zero]

theorem fromByteRangeExact_eq {unit : AddressUnit} {start stop : UInt64} (ordered : start < stop)
    (startDivides : unit.bytes.toNat ∣ start.toNat) (stopDivides : unit.bytes.toNat ∣ stop.toNat) :
    fromByteRangeExact start stop unit =
      .ok ⟨unit.floorUnits start, unit.ceilUnits stop⟩ := by
  rw [fromByteRangeExact, unitsFromBytesExact_eq, unitsFromBytesExact_eq, if_pos startDivides,
    if_pos stopDivides, ← new_ok (covering_ordered ordered), ceilUnits_of_dvd stopDivides]
  rfl

theorem dvd_of_fromByteRangeExact {unit : AddressUnit} {start stop : UInt64}
    {region : InitialRegionConfig} (made : fromByteRangeExact start stop unit = .ok region) :
    unit.bytes.toNat ∣ start.toNat ∧ unit.bytes.toNat ∣ stop.toNat := by
  obtain ⟨_, startMade, rest⟩ := Checks.bind_ok made
  obtain ⟨_, stopMade, _⟩ := Checks.bind_ok rest
  rw [unitsFromBytesExact_eq] at startMade stopMade
  constructor
  · by_contra remains
    rw [if_neg remains] at startMade
    cases startMade
  · by_contra remains
    rw [if_neg remains] at stopMade
    cases stopMade

/-- Converting a byte range is tight: the covering region contains it and lies in every region
that does, and the exact conversion succeeds when nothing is rounded. -/
theorem fromByteRange_tight (unit : AddressUnit) {start stop : UInt64} (ordered : start < stop) :
    (∃ region, fromByteRangeCovering start stop unit = .ok region ∧ region.start < region.stop ∧
      Set.Ico start.toNat stop.toNat ⊆ region.byteExtent unit ∧
      ∀ other : InitialRegionConfig, Set.Ico start.toNat stop.toNat ⊆ other.byteExtent unit →
        region.units ⊆ other.units) ∧
    ((∃ region, fromByteRangeExact start stop unit = .ok region) ↔
      unit.bytes.toNat ∣ start.toNat ∧ unit.bytes.toNat ∣ stop.toNat) ∧
    ∀ region, fromByteRangeExact start stop unit = .ok region →
      fromByteRangeCovering start stop unit = .ok region ∧
        unit.toBytes region.start = .ok start ∧ unit.toBytes region.stop = .ok stop := by
  have covering : fromByteRangeCovering start stop unit =
      .ok ⟨unit.floorUnits start, unit.ceilUnits stop⟩ := fromByteRangeCovering_eq ordered
  refine ⟨⟨_, covering, covering_ordered ordered, ?_, ?_⟩, ?_, ?_⟩
  · rw [covers_iff ordered, unit.floorUnits_mul, unit.ceilUnits_mul]
    exact ⟨Align.down_le _ _, Align.le_up _ _⟩
  · intro other covers
    obtain ⟨below, above⟩ := covers_rounded ordered covers
    exact Set.Ico_subset_Ico (UInt64.le_iff_toNat_le.mp below) (UInt64.le_iff_toNat_le.mp above)
  · constructor
    · rintro ⟨region, made⟩
      exact dvd_of_fromByteRangeExact made
    · rintro ⟨startDivides, stopDivides⟩
      exact ⟨_, fromByteRangeExact_eq ordered startDivides stopDivides⟩
  · intro region made
    obtain ⟨startDivides, stopDivides⟩ := dvd_of_fromByteRangeExact made
    rw [fromByteRangeExact_eq ordered startDivides stopDivides] at made
    cases made
    refine ⟨covering, toBytes_of_dvd startDivides, ?_⟩
    rw [ceilUnits_of_dvd stopDivides]
    exact toBytes_of_dvd stopDivides

/-- Bytes 10 to 20 in units of three. -/
theorem fromByteRange_tight_threes :
    fromByteRangeCovering 10 20 ⟨3, by decide⟩ = .ok ⟨3, 7⟩ ∧
      ∀ other : InitialRegionConfig,
        Set.Ico 10 20 ⊆ other.byteExtent ⟨3, by decide⟩ → Set.Ico 3 7 ⊆ other.units := by
  have ordered : (10 : UInt64) < 20 := by decide
  obtain ⟨⟨region, made, _, _, least⟩, _⟩ := fromByteRange_tight ⟨3, by decide⟩ ordered
  have converted : fromByteRangeCovering 10 20 ⟨3, by decide⟩ = .ok ⟨3, 7⟩ := by rfl
  rw [converted] at made
  cases made
  exact ⟨converted, least⟩

end InitialRegionConfig

/-! ## Kernel alignment -/

namespace InitialRegionConfig

/-- The start of a region, rounded down to the kernel's minimum region size. -/
def alignedStart (alignment : Nat) (region : InitialRegionConfig) : Nat :=
  Align.down alignment region.start.toNat

/-- The end of a region, rounded up to the kernel's minimum region size. -/
def alignedEnd (alignment : Nat) (region : InitialRegionConfig) : Nat :=
  Align.up alignment region.stop.toNat

/-- Two regions share nothing once their ends are rounded outwards. -/
def Apart (alignment : Nat) (first second : InitialRegionConfig) : Prop :=
  first.alignedEnd alignment ≤ second.alignedStart alignment

instance (alignment : Nat) (first second : InitialRegionConfig) :
    Decidable (first.Apart alignment second) :=
  inferInstanceAs (Decidable (_ ≤ _))

/-- Regions that stay apart after rounding were in order before it. -/
theorem stop_le_start {alignment : Nat} {first second : InitialRegionConfig}
    (apart : first.Apart alignment second) : first.stop ≤ second.start := by
  apply UInt64.le_iff_toNat_le.mpr
  calc
    first.stop.toNat ≤ first.alignedEnd alignment := Align.le_up _ _
    _ ≤ second.alignedStart alignment := apart
    _ ≤ second.start.toNat := Align.down_le _ _

/-- A nonempty region between two others keeps them apart. -/
theorem Apart.trans {alignment : Nat} {first second third : InitialRegionConfig}
    (one : first.Apart alignment second) (nonempty : second.start < second.stop)
    (two : second.Apart alignment third) : first.Apart alignment third := by
  calc
    first.alignedEnd alignment ≤ second.alignedStart alignment := one
    _ ≤ second.start.toNat := Align.down_le _ _
    _ ≤ second.stop.toNat := le_of_lt (UInt64.lt_iff_toNat_lt.mp nonempty)
    _ ≤ second.alignedEnd alignment := Align.le_up _ _
    _ ≤ third.alignedStart alignment := two

end InitialRegionConfig

/-- The rounded end of a region, when 64 bits hold it. -/
def roundedEnd (alignment : Nat) (region : InitialRegionConfig) : Except Error Nat :=
  if region.alignedEnd alignment < u64Bound then .ok (region.alignedEnd alignment)
  else invalid "initial region" "end overflows after kernel minimum-region alignment"

/-- One region is rounded, compared with the end before it, and leaves its own end behind. -/
theorem validateAlignedRegions_step (alignment : Nat) (previousEnd : Option Nat)
    (region : InitialRegionConfig) (rest : List InitialRegionConfig) :
    validateAlignedRegions alignment previousEnd (region :: rest) = (do
      let alignedEnd ← roundedEnd alignment region
      requireField (!previousEnd.any (· > region.alignedStart alignment)) "initial regions"
        "regions overlap after kernel minimum-region alignment"
      validateAlignedRegions alignment (some alignedEnd) rest) := by
  have small : region.stop.toNat < u64Bound := region.stop.toNat_lt
  by_cases whole : region.stop.toNat % alignment = 0
  · have rounded : region.alignedEnd alignment = region.stop.toNat := if_pos whole
    rw [validateAlignedRegions, roundedEnd, rounded, if_pos whole, if_pos small]
    rfl
  · have rounded : region.alignedEnd alignment =
        region.stop.toNat + (alignment - region.stop.toNat % alignment) := if_neg whole
    rw [validateAlignedRegions, roundedEnd, rounded, if_neg whole]
    split
    · rfl
    · rfl

/-- The check of one target passes when every region fits and is apart from the one before. -/
theorem validateAlignedRegions_cons {alignment : Nat} {previousEnd : Option Nat}
    {region : InitialRegionConfig} {rest : List InitialRegionConfig} :
    validateAlignedRegions alignment previousEnd (region :: rest) = .ok () ↔
      region.alignedEnd alignment < u64Bound ∧
        (∀ stop, previousEnd = some stop → stop ≤ region.alignedStart alignment) ∧
        validateAlignedRegions alignment (some (region.alignedEnd alignment)) rest = .ok () := by
  have overlap : requireField (!previousEnd.any (· > region.alignedStart alignment))
      "initial regions" "regions overlap after kernel minimum-region alignment" = .ok () ↔
      ∀ stop, previousEnd = some stop → stop ≤ region.alignedStart alignment := by
    rw [requireField_eq_ok_iff]
    cases previousEnd <;> simp
  rw [validateAlignedRegions_step, roundedEnd, ← overlap]
  by_cases fits : region.alignedEnd alignment < u64Bound
  · rw [if_pos fits]
    simp only [fits, true_and]
    exact Checks.seq_eq_ok_iff
  · rw [if_neg fits]
    simp only [fits, false_and, iff_false]
    intro passed
    cases passed

theorem validateAlignedRegions_ok_iff {alignment : Nat} {previousEnd : Option Nat}
    {regions : List InitialRegionConfig} :
    validateAlignedRegions alignment previousEnd regions = .ok () ↔
      (∀ region ∈ regions, region.alignedEnd alignment < u64Bound) ∧
        (∀ stop, previousEnd = some stop → ∀ first, regions.head? = some first →
          stop ≤ first.alignedStart alignment) ∧
        regions.IsChain (InitialRegionConfig.Apart alignment) := by
  induction regions generalizing previousEnd with
  | nil => simp [validateAlignedRegions]
  | cons region rest ih =>
      rw [validateAlignedRegions_cons, ih, List.isChain_cons]
      simp only [List.mem_cons, forall_eq_or_imp, List.head?_cons, Option.some.injEq,
        forall_eq', InitialRegionConfig.Apart, Option.mem_def]
      constructor
      · rintro ⟨fits, before, others, after, chained⟩
        exact ⟨⟨fits, others⟩, before, after, chained⟩
      · rintro ⟨⟨fits, others⟩, before, after, chained⟩
        exact ⟨fits, before, others, after, chained⟩

namespace TargetConfig

theorem validateRegions_ok_iff {previousEnd : Option UInt64} {regions : List InitialRegionConfig} :
    validateRegions previousEnd regions = .ok () ↔
      (∀ region ∈ regions, region.start < region.stop) ∧
        (∀ stop, previousEnd = some stop → ∀ first, regions.head? = some first →
          stop ≤ first.start) ∧
        regions.IsChain fun first second => first.stop ≤ second.start := by
  induction regions generalizing previousEnd with
  | nil => simp [validateRegions]
  | cons region rest ih =>
      have overlap : requireField (!previousEnd.any (· > region.start)) "initial regions"
          "regions must be sorted and must not overlap" = .ok () ↔
          ∀ stop, previousEnd = some stop → stop ≤ region.start := by
        rw [requireField_eq_ok_iff]
        cases previousEnd <;> simp
      rw [validateRegions, Checks.seq_eq_ok_iff, Checks.seq_eq_ok_iff, overlap, ih,
        requireField_eq_ok_iff, decide_eq_true_eq, List.isChain_cons]
      simp only [List.mem_cons, forall_eq_or_imp, List.head?_cons, Option.some.injEq,
        forall_eq', Option.mem_def]
      constructor
      · rintro ⟨ordered, before, others, after, chained⟩
        exact ⟨⟨ordered, others⟩, before, after, chained⟩
      · rintro ⟨⟨ordered, others⟩, before, after, chained⟩
        exact ⟨ordered, before, others, after, chained⟩

/-- The initial regions of a target that the kernel can represent. -/
structure RegionsFit (alignment : Nat) (target : TargetConfig) : Prop where
  counted : target.initialRegions.length ≤ kernelIndexMax
  nonempty : ∀ region ∈ target.initialRegions, region.start < region.stop
  representable : ∀ region ∈ target.initialRegions, region.alignedEnd alignment < u64Bound
  apart : target.initialRegions.Pairwise (InitialRegionConfig.Apart alignment)

end TargetConfig

/-- Neighbours that are apart keep all pairs apart, since no region is empty. -/
theorem pairwise_apart_iff {alignment : Nat} {regions : List InitialRegionConfig}
    (nonempty : ∀ region ∈ regions, region.start < region.stop) :
    regions.Pairwise (InitialRegionConfig.Apart alignment) ↔
      regions.IsChain (InitialRegionConfig.Apart alignment) := by
  constructor
  · exact List.Pairwise.isChain
  · intro chained
    induction regions with
    | nil => exact .nil
    | cons first rest ih =>
        have others : rest.Pairwise (InitialRegionConfig.Apart alignment) :=
          ih (fun region member => nonempty region (List.mem_cons_of_mem first member))
            chained.tail
        apply List.pairwise_cons.mpr
        constructor
        · cases rest with
          | nil => simp
          | cons second rest =>
              have next : first.Apart alignment second := List.IsChain.rel chained
              rintro region (_ | ⟨_, member⟩)
              · exact next
              · exact next.trans (nonempty second (by simp))
                  (List.rel_of_pairwise_cons others member)
        · exact others

/-! ## Machine arithmetic

The check divides, takes remainders and subtracts in unsigned machine words.
Here each of these operations is undefined where the machine would trap.
-/

def divWord (dividend divisor : Nat) : Option Nat :=
  if divisor = 0 then none else some (dividend / divisor)

def remWord (dividend divisor : Nat) : Option Nat :=
  if divisor = 0 then none else some (dividend % divisor)

def subWord (minuend subtrahend : Nat) : Option Nat :=
  if subtrahend ≤ minuend then some (minuend - subtrahend) else none

/-- The minimum region size, when its division is defined. -/
def minimumRegionUnitsTrapping (pageSize : Nat) (operation : Operation) (unit : AddressUnit) :
    Option (Option Nat) :=
  match operation with
  | .virtualAddress | .fixedVirtualAddress => some (some pageSize)
  | .physicalAddress =>
      (divWord pageSize unit.bytes.toNat).map fun units => some (max units 1)
  | .unknown _ => some none

/-- The end of a region after alignment, when its operations are defined. -/
def alignedEndTrapping (alignment : Nat) (region : InitialRegionConfig) :
    Option (Except Error Nat) := do
  let remainder ← remWord region.stop.toNat alignment
  if remainder = 0 then some (.ok region.stop.toNat)
  else
    let padding ← subWord alignment remainder
    some (if region.stop.toNat + padding < u64Bound then .ok (region.stop.toNat + padding)
      else invalid "initial region" "end overflows after kernel minimum-region alignment")

/-- The alignment check of one target, when its operations are defined. -/
def validateAlignedRegionsTrapping (alignment : Nat) :
    Option Nat → List InitialRegionConfig → Option (Except Error Unit)
  | _, [] => some (.ok ())
  | previousEnd, region :: rest => do
      let offset ← remWord region.start.toNat alignment
      let alignedStart ← subWord region.start.toNat offset
      match ← alignedEndTrapping alignment region with
      | .error error => some (.error error)
      | .ok alignedEnd =>
          if previousEnd.any (· > alignedStart) then
            some (invalid "initial regions"
              "regions overlap after kernel minimum-region alignment")
          else validateAlignedRegionsTrapping alignment (some alignedEnd) rest

theorem minimumRegionUnitsTrapping_eq (pageSize : Nat) (operation : Operation)
    (unit : AddressUnit) :
    minimumRegionUnitsTrapping pageSize operation unit =
      some (minimumRegionUnits pageSize operation unit) := by
  cases operation with
  | virtualAddress => rfl
  | fixedVirtualAddress => rfl
  | unknown name => rfl
  | physicalAddress =>
      have divisor : unit.bytes.toNat ≠ 0 := unit.bytes_pos.ne'
      simp [minimumRegionUnitsTrapping, minimumRegionUnits, divWord, divisor]

theorem alignedEndTrapping_eq {alignment : Nat} (positive : 0 < alignment)
    (region : InitialRegionConfig) :
    alignedEndTrapping alignment region = some (roundedEnd alignment region) := by
  have small : region.stop.toNat < u64Bound := region.stop.toNat_lt
  have padding : region.stop.toNat % alignment ≤ alignment := (Nat.mod_lt _ positive).le
  by_cases whole : region.stop.toNat % alignment = 0
  · have rounded : region.alignedEnd alignment = region.stop.toNat := if_pos whole
    simp [alignedEndTrapping, remWord, positive.ne', whole, roundedEnd, rounded, small]
  · have rounded : region.alignedEnd alignment =
        region.stop.toNat + (alignment - region.stop.toNat % alignment) := if_neg whole
    simp [alignedEndTrapping, remWord, subWord, positive.ne', whole, padding, roundedEnd, rounded]

/-- With a positive alignment the check never divides by zero or underflows. -/
theorem validateAlignedRegionsTrapping_eq {alignment : Nat} (positive : 0 < alignment)
    (previousEnd : Option Nat) (regions : List InitialRegionConfig) :
    validateAlignedRegionsTrapping alignment previousEnd regions =
      some (validateAlignedRegions alignment previousEnd regions) := by
  induction regions generalizing previousEnd with
  | nil => rfl
  | cons region rest ih =>
      have offset : region.start.toNat % alignment ≤ region.start.toNat := Nat.mod_le _ _
      have start : subWord region.start.toNat (region.start.toNat % alignment) =
          some (region.alignedStart alignment) := if_pos offset
      simp only [validateAlignedRegionsTrapping, remWord, positive.ne', if_false,
        Option.bind_eq_bind, Option.bind_some, start, alignedEndTrapping_eq positive,
        validateAlignedRegions_step]
      cases roundedEnd alignment region with
      | error error => rfl
      | ok alignedEnd =>
          cases overlap : previousEnd.any (· > region.alignedStart alignment) with
          | true => rfl
          | false => exact ih (some alignedEnd)

/-! ## Acceptance -/

theorem minimumRegionUnits_pos {pageSize : Nat} (positive : 0 < pageSize) {operation : Operation}
    {unit : AddressUnit} {alignment : Nat}
    (chosen : minimumRegionUnits pageSize operation unit = some alignment) : 0 < alignment := by
  cases operation with
  | virtualAddress =>
      cases chosen
      exact positive
  | fixedVirtualAddress =>
      cases chosen
      exact positive
  | unknown name => cases chosen
  | physicalAddress =>
      cases chosen
      exact lt_of_lt_of_le Nat.zero_lt_one (le_max_right _ _)

theorem minimumRegionUnits_known (pageSize : Nat) {operation : Operation} (unit : AddressUnit)
    (known : ∀ name, operation ≠ .unknown name) :
    ∃ alignment, minimumRegionUnits pageSize operation unit = some alignment := by
  cases operation with
  | virtualAddress => exact ⟨_, rfl⟩
  | fixedVirtualAddress => exact ⟨_, rfl⟩
  | physicalAddress => exact ⟨_, rfl⟩
  | unknown name => exact absurd rfl (known name)

namespace TargetConfig

/-- The two checks of one target together are exact for all pairs of its regions. -/
theorem regionsFit_iff {alignment : Nat} {target : TargetConfig} :
    target.validate = .ok () ∧
        validateAlignedRegions alignment none target.initialRegions = .ok () ↔
      target.RegionsFit alignment := by
  rw [validate, Checks.seq_eq_ok_iff, validateCount, requireField_eq_ok_iff, decide_eq_true_eq,
    validateRegions_ok_iff, validateAlignedRegions_ok_iff]
  constructor
  · rintro ⟨⟨counted, nonempty, _, _⟩, representable, _, chained⟩
    exact ⟨counted, nonempty, representable, (pairwise_apart_iff nonempty).mpr chained⟩
  · rintro ⟨counted, nonempty, representable, apart⟩
    have chained := (pairwise_apart_iff nonempty).mp apart
    have sorted := chained.imp fun _ _ => InitialRegionConfig.stop_le_start
    exact ⟨⟨counted, nonempty, fun _ none => (by cases none), sorted⟩, representable,
      fun _ none => (by cases none), chained⟩

end TargetConfig

/-- Regions are accepted exactly when each target has a representable number of nonempty regions
whose rounded ends fit 64 bits and which all stay apart, and no operation of the check traps. -/
theorem acceptsRegions_exact {pageSize : Nat} (page : ∃ exponent, pageSize = 2 ^ exponent)
    {operation : Operation} (known : ∀ name, operation ≠ .unknown name) (unit : AddressUnit)
    (targets : List TargetConfig) :
    ∃ alignment, minimumRegionUnitsTrapping pageSize operation unit = some (some alignment) ∧
      (∀ target ∈ targets,
        validateAlignedRegionsTrapping alignment none target.initialRegions =
          some (validateAlignedRegions alignment none target.initialRegions)) ∧
      ((do
          targets.forM TargetConfig.validate
          validateKernelAlignedInitialRegions targets
            (minimumRegionUnits pageSize operation unit)) = Except.ok () ↔
        ∀ target ∈ targets, target.RegionsFit alignment) := by
  obtain ⟨alignment, chosen⟩ := minimumRegionUnits_known pageSize unit known
  obtain ⟨exponent, rfl⟩ := page
  have positive : 0 < alignment := minimumRegionUnits_pos (Nat.two_pow_pos exponent) chosen
  refine ⟨alignment, ?_, ?_, ?_⟩
  · rw [minimumRegionUnitsTrapping_eq, chosen]
  · intro target member
    exact validateAlignedRegionsTrapping_eq positive none target.initialRegions
  · rw [chosen, Checks.seq_eq_ok_iff, validateKernelAlignedInitialRegions, Checks.forM_eq_ok_iff,
      Checks.forM_eq_ok_iff]
    constructor
    · rintro ⟨valid, aligned⟩ target member
      exact TargetConfig.regionsFit_iff.mp ⟨valid target member, aligned target member⟩
    · intro fit
      constructor
      · exact fun target member => (TargetConfig.regionsFit_iff.mpr (fit target member)).1
      · exact fun target member => (TargetConfig.regionsFit_iff.mpr (fit target member)).2

/-- Physical memory in units of eight bytes, where regions are rounded to 512 units. -/
theorem acceptsRegions_exact_eights :
    ∃ alignment,
      minimumRegionUnitsTrapping 4096 .physicalAddress ⟨8, by decide⟩ = some (some alignment) ∧
      ((do
          [(⟨none, false, [⟨1, 512⟩, ⟨1000, 2000⟩]⟩ : TargetConfig)].forM TargetConfig.validate
          validateKernelAlignedInitialRegions [⟨none, false, [⟨1, 512⟩, ⟨1000, 2000⟩]⟩]
            (minimumRegionUnits 4096 .physicalAddress ⟨8, by decide⟩)) = Except.ok () ↔
        ∀ target ∈ [(⟨none, false, [⟨1, 512⟩, ⟨1000, 2000⟩]⟩ : TargetConfig)],
          target.RegionsFit alignment) := by
  have page : ∃ exponent, 4096 = 2 ^ exponent := ⟨12, rfl⟩
  have known : ∀ name, Operation.physicalAddress ≠ .unknown name := by simp
  obtain ⟨alignment, chosen, _, exact⟩ := acceptsRegions_exact page known ⟨8, by decide⟩
    [⟨none, false, [⟨1, 512⟩, ⟨1000, 2000⟩]⟩]
  exact ⟨alignment, chosen, exact⟩

/-! ## Scaled ends

The scaling is checked before the ends are rounded, and the rounding is checked
before they are scaled, so neither check bounds the rounded and scaled end.
-/

/-- The last boundary of scaled minimum regions that an unsigned 64-bit value holds. -/
def lastRegionBoundary (pageSize : Nat) (unit : AddressUnit) : Nat :=
  Align.down (max (pageSize / unit.bytes.toNat) 1 * unit.bytes.toNat) (u64Bound - 1)

/-- A unit below the page size that divides it leaves exactly the last page out. -/
theorem lastRegionBoundary_of_dvd {pageSize : Nat} {unit : AddressUnit}
    (small : unit.bytes.toNat ≤ pageSize) (divides : unit.bytes.toNat ∣ pageSize)
    (page : pageSize ∣ u64Bound) : lastRegionBoundary pageSize unit = u64Bound - pageSize := by
  have positive : 0 < pageSize := lt_of_lt_of_le unit.bytes_pos small
  have several : 1 ≤ pageSize / unit.bytes.toNat := Nat.div_pos small unit.bytes_pos
  obtain ⟨factor, total⟩ := page
  have inside : 0 < factor := by
    apply Nat.pos_of_ne_zero
    rintro rfl
    cases total
  rw [lastRegionBoundary, max_eq_left several, Nat.div_mul_cancel divides, total]
  apply le_antisymm
  · apply Nat.le_of_lt_add_one
    obtain ⟨quotient, multiple⟩ := Align.dvd_down pageSize (pageSize * factor - 1)
    have below := Align.down_le pageSize (pageSize * factor - 1)
    have area : 0 < pageSize * factor := Nat.mul_pos positive inside
    rw [multiple] at below ⊢
    have fewer : quotient < factor := by
      apply Nat.lt_of_mul_lt_mul_left (a := pageSize)
      omega
    have last : pageSize * quotient ≤ pageSize * (factor - 1) :=
      Nat.mul_le_mul_left _ (Nat.le_sub_one_of_lt fewer)
    rw [Nat.mul_sub_one] at last
    omega
  · rw [Align.le_down_iff positive (Nat.dvd_sub (Nat.dvd_mul_right _ _) (dvd_refl _))]
    omega

namespace ContextConfig

/-- The ends of an accepted region were scaled before they were rounded. -/
theorem scaled_of_validate {pageSize : Nat} {context : ContextConfig}
    (physical : context.operation = .physicalAddress) (valid : context.validate pageSize = .ok ())
    {target : TargetConfig} (member : target ∈ context.targets) {region : InitialRegionConfig}
    (initial : region ∈ target.initialRegions) :
    region.start.toNat * context.addressUnit.bytes.toNat < u64Bound := by
  have addressing := (validate_ok_iff.mp valid).addressing
  rw [validateAddressing, physical] at addressing
  obtain ⟨_, scaled⟩ := Checks.seq_ok addressing
  have converted := Checks.forM_ok scaled region (List.mem_flatMap.mpr ⟨target, member, initial⟩)
  obtain ⟨bytes, start, _⟩ := Checks.bind_ok converted
  rw [AddressUnit.toBytes_ok] at start
  rw [start]
  exact bytes.toNat_lt

/-- The rounded and scaled ends of the regions of an accepted physical-address context fit 64 bits
exactly when no region ends in the bytes above the last boundary. -/
theorem scaledRegions_representable_iff {pageSize : Nat} {context : ContextConfig}
    (physical : context.operation = .physicalAddress) (valid : context.validate pageSize = .ok ())
    {alignment : Nat}
    (chosen : minimumRegionUnits pageSize context.operation context.addressUnit =
      some alignment) :
    (∀ target ∈ context.targets, ∀ region ∈ target.initialRegions,
      region.alignedStart alignment * context.addressUnit.bytes.toNat < u64Bound ∧
        region.alignedEnd alignment * context.addressUnit.bytes.toNat < u64Bound) ↔
      ∀ target ∈ context.targets, ∀ region ∈ target.initialRegions,
        region.stop.toNat * context.addressUnit.bytes.toNat ≤
          lastRegionBoundary pageSize context.addressUnit := by
  have size : alignment = max (pageSize / context.addressUnit.bytes.toNat) 1 := by
    rw [physical] at chosen
    cases chosen
    rfl
  have positive : 0 < alignment := size ▸ lt_of_lt_of_le Nat.zero_lt_one (le_max_right _ _)
  have rounded (region : InitialRegionConfig) :
      region.alignedEnd alignment * context.addressUnit.bytes.toNat < u64Bound ↔
        region.stop.toNat * context.addressUnit.bytes.toNat ≤
          lastRegionBoundary pageSize context.addressUnit := by
    rw [lastRegionBoundary, ← size,
      ← Align.up_mul_le_iff positive context.addressUnit.bytes_pos]
    exact Nat.lt_iff_le_pred (by decide)
  constructor
  · intro fits target member region initial
    exact (rounded region).mp (fits target member region initial).2
  · intro below target member region initial
    constructor
    · calc
        region.alignedStart alignment * context.addressUnit.bytes.toNat ≤
            region.start.toNat * context.addressUnit.bytes.toNat :=
          Nat.mul_le_mul_right _ (Align.down_le _ _)
        _ < u64Bound := scaled_of_validate physical valid member initial
    · exact (rounded region).mpr (below target member region initial)

/-- Physical memory in units of two bytes, up to the last unit that can be scaled. -/
def topOfMemory : ContextConfig :=
  { ContextConfig.new .physicalAddress with
    addressUnit := ⟨2, by decide⟩
    targets := [⟨none, false, [⟨0, 9223372036854775807⟩]⟩] }

/-- The region is accepted, and its end is rounded up to the first byte that does not fit. -/
theorem scaledRegions_overflow :
    ¬ ∀ context : ContextConfig, context.operation = .physicalAddress →
      context.validate 4096 = .ok () → ∀ alignment,
        minimumRegionUnits 4096 context.operation context.addressUnit = some alignment →
        ∀ target ∈ context.targets, ∀ region ∈ target.initialRegions,
          region.alignedStart alignment * context.addressUnit.bytes.toNat < u64Bound ∧
            region.alignedEnd alignment * context.addressUnit.bytes.toNat < u64Bound := by
  intro representable
  have accepted : topOfMemory.validate 4096 = .ok () := by decide +kernel
  have fits := (representable topOfMemory rfl accepted 2048 rfl _ List.mem_cons_self _
    List.mem_cons_self).2
  exact absurd fits (by decide)

/-- One mebibyte of the same memory stays below the last boundary. -/
theorem scaledRegions_representable_iff_mebibyte :
    (⟨0, 524288⟩ : InitialRegionConfig).alignedStart 2048 * 2 < u64Bound ∧
      (⟨0, 524288⟩ : InitialRegionConfig).alignedEnd 2048 * 2 < u64Bound := by
  let context : ContextConfig := { topOfMemory with targets := [⟨none, false, [⟨0, 524288⟩]⟩] }
  have valid : context.validate 4096 = .ok () := by decide +kernel
  have chosen : minimumRegionUnits 4096 context.operation context.addressUnit = some 2048 := by
    decide +kernel
  exact (scaledRegions_representable_iff rfl valid chosen).mpr (by decide) _ List.mem_cons_self _
    List.mem_cons_self

end ContextConfig

end DamonRs
