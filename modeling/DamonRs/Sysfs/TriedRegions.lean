import DamonRs.Library.Collect
import DamonRs.Sysfs.Answers
import DamonRs.Sysfs.Fixture
import DamonRs.Sysfs.Runtime

/-!
# Tried regions

The loop over the materialized regions with the buffers that it reuses from one
region to the next, and what its result says about the files.
-/

namespace DamonRs

open Library Sysfs

/-! ## Probe results -/

/-- The number of probe results that are kept without an allocation. -/
def inlineProbeHits : Nat := 4

/-- The probe results of a region. -/
inductive ProbeHits where
  | inline (indices : Vector Nat inlineProbeHits) (hits : Vector UInt8 inlineProbeHits)
      (len : Nat)
  | heap (indices : List Nat) (hits : List UInt8)

namespace ProbeHits

def fromKernel (values : List (Nat × UInt8)) : ProbeHits :=
  if values.length ≤ inlineProbeHits then
    let (indices, hits) := values.zipIdx.foldl
      (fun (indices, hits) ((index, value), offset) =>
        (indices.setIfInBounds offset index, hits.setIfInBounds offset value))
      (Vector.replicate inlineProbeHits 0, Vector.replicate inlineProbeHits 0)
    .inline indices hits values.length
  else .heap values.unzip.1 values.unzip.2

def indices : ProbeHits → List Nat
  | .inline indices _ len => indices.toList.take len
  | .heap indices _ => indices

def hits : ProbeHits → List UInt8
  | .inline _ hits len => hits.toList.take len
  | .heap _ hits => hits

def results (probes : ProbeHits) : List (Nat × UInt8) := probes.indices.zip probes.hits

/-- Both representations keep every result in its place. -/
theorem results_fromKernel (values : List (Nat × UInt8)) : (fromKernel values).results = values := by
  unfold fromKernel
  split
  · rename_i small
    rcases values with _ | ⟨_, _ | ⟨_, _ | ⟨_, _ | ⟨_, _ | ⟨_, _⟩⟩⟩⟩⟩
    · rfl
    · rfl
    · rfl
    · rfl
    · rfl
    · simp only [List.length_cons, inlineProbeHits] at small
      omega
  · exact List.zip_unzip values

end ProbeHits

/-- The probe results as a region stores them. -/
def RawRegion.probeResults (region : RawRegion) : List (Nat × UInt8) :=
  (ProbeHits.fromKernel region.probeHits).results

/-! ## Completeness -/

/-- Whether every unit counted by the kernel has a region. -/
inductive SnapshotCompleteness where
  | complete
  /-- `Partial`: the kernel counted more units than the regions have. -/
  | incomplete (reportedUnits materializedUnits : UInt64)
  | inconsistent (reportedUnits materializedUnits : UInt64)
  | unverifiable
  deriving DecidableEq

def RawSnapshot.completeness (snapshot : RawSnapshot) : SnapshotCompleteness :=
  match snapshot.reportedTotalUnits with
  | some reported =>
      if reported = snapshot.materializedTotalUnits then .complete
      else if reported > snapshot.materializedTotalUnits then
        .incomplete reported snapshot.materializedTotalUnits
      else .inconsistent reported snapshot.materializedTotalUnits
  | none => .unverifiable

/-! ## Listing into a buffer -/

namespace Sysfs

def pushIndex (indices : Vec Nat) (entry : String × Bool) : Vec Nat :=
  if entry.2 then
    match Path.nameIndex? entry.1 with
    | some index => indices.push index
    | none => indices
  else indices

def numericDirectoryIndicesInto (path : Path) (indices : Vec Nat) : Sysfs (Vec Nat) := do
  match ← readDir path with
  | .error fault =>
      if fault.stage = .opening ∧ fault.errno = enoent then pure indices.clear
      else Exec.fail (listingError path fault)
  | .ok entries => pure (entries.foldl pushIndex indices.clear).sort

theorem numericDirectoryIndicesInto_represents (path : Path) (indices : Vec Nat) :
    Exec.Represents Vec.items (numericDirectoryIndicesInto path indices)
      (numericDirectoryIndices path) := by
  have pushed (entries : List (String × Bool)) (indices : Vec Nat) :
      (entries.foldl pushIndex indices).items = indices.items ++
        entries.filterMap fun entry => if entry.2 then Path.nameIndex? entry.1 else none := by
    induction entries generalizing indices with
    | nil => simp
    | cons entry rest ih =>
        obtain ⟨name, directory⟩ := entry
        rw [List.foldl_cons, ih, pushIndex]
        cases directory with
        | false => simp
        | true => cases named : Path.nameIndex? name <;> simp [named]
  refine .step fun listed => ?_
  cases listed with
  | error fault => exact .ite (fun _ => .pure rfl) fun _ => .fail _
  | ok entries =>
      have sorted : (entries.foldl pushIndex indices.clear).sort.items =
          (entries.filterMap fun entry =>
            if entry.2 then Path.nameIndex? entry.1 else none).insertionSort (· ≤ ·) := by
        rw [Vec.sort_items, pushed, Vec.clear_items, List.nil_append]
      exact .pure sorted

end Sysfs

/-! ## The loop with its buffers -/

namespace Scheme

/-- The most regions that room is reserved for in advance. -/
def maxInitialRegionCapacity : Nat := 4096

/-- Push a name to the path, read and pop the name. -/
def readPushed {α : Type} (read : Path → Sysfs α) (path : Path) (name : String) :
    Sysfs (α × Path) := do
  let path := path ++ [name]
  let value ← read path
  pure (value, path.dropLast)

def pushProbeHits (probes : Path) (probeHits : Vec (Nat × UInt8)) (index : Nat) :
    Sysfs (Vec (Nat × UInt8)) := do
  let hits := probes ++ [Path.indexName index, "hits"]
  if ← pathExists hits then do
    let value ← readU8 hits
    pure (probeHits.push (index, value))
  else pure probeHits

/-- What one round of the loop hands to the next. -/
structure TriedLoop where
  computedTotalUnits : UInt64
  regions : Vec RawRegion
  probeIndices : Vec Nat
  probeHits : Vec (Nat × UInt8)

def readProbesInto (path : Path) (loop : TriedLoop) : Sysfs TriedLoop := do
  let probes := path ++ ["probes"]
  let loop := { loop with probeHits := loop.probeHits.clear }
  if ← pathIsDir probes then do
    let probeIndices ← numericDirectoryIndicesInto probes loop.probeIndices
    let probeHits ← Exec.foldEach (pushProbeHits probes) loop.probeHits probeIndices.items
    pure { loop with probeIndices, probeHits }
  else pure loop

def addTriedRegionInto (base : Path) (loop : TriedLoop) (index : Nat) : Sysfs TriedLoop := do
  let path := base ++ [Path.indexName index]
  let (start, path) ← readPushed readU64 path "start"
  let (stop, path) ← readPushed readU64 path "end"
  let (nrAccesses, path) ← readPushed readU32 path "nr_accesses"
  let (age, path) ← readPushed readU32 path "age"
  let (passed, path) ← readPushed (fun path => optionalRead path (readU64 path)) path
    "sz_filter_passed"
  let loop ← readProbesInto path loop
  let region ← Exec.ofExcept
    (RawRegion.fromKernel start stop nrAccesses age passed loop.probeHits.items)
  if loop.computedTotalUnits.toNat + region.lenUnits.toNat < u64Bound then
    pure { loop with
      computedTotalUnits := loop.computedTotalUnits + region.lenUnits
      regions := loop.regions.push region }
  else Exec.fail .snapshotSizeOverflow

/-- `tried_regions`; the hint reserves room for the regions. -/
def triedRegionsReserving (scheme : Scheme) (capacityHint : Nat) : Sysfs RawSnapshot := do
  let base := scheme.path ++ ["tried_regions"]
  let reported ← optionalRead (base ++ ["total_bytes"]) (readU64 (base ++ ["total_bytes"]))
  let indices ← numericDirectoryIndicesInto base (.withCapacity 0)
  let capacity := min (min capacityHint indices.items.length) maxInitialRegionCapacity
  let loop ← Exec.foldEach (addTriedRegionInto base)
    ⟨0, .withCapacity capacity, .withCapacity 4, .withCapacity 4⟩ indices.items
  pure ⟨loop.regions.items, reported, loop.computedTotalUnits⟩

/-! ## Nothing is left over in the buffers -/

def TriedLoop.total (loop : TriedLoop) : UInt64 × List RawRegion :=
  (loop.computedTotalUnits, loop.regions.items)

/-- What a round uses after it has read the probes. -/
def TriedLoop.probed (loop : TriedLoop) : UInt64 × Vec RawRegion × List (Nat × UInt8) :=
  (loop.computedTotalUnits, loop.regions, loop.probeHits.items)

theorem pushProbeHits_represents (probes : Path) (probeHits : Vec (Nat × UInt8)) (index : Nat) :
    Exec.Represents Vec.items (pushProbeHits probes probeHits index) (do
      let hits ← readProbeHits probes index
      pure (probeHits.items ++ hits.toList)) := by
  unfold pushProbeHits readProbeHits optionalRead
  simp only [Exec.bind_assoc]
  refine .step fun present => ?_
  cases present with
  | false =>
      simp only [Bool.false_eq_true, if_false, Exec.pure_bind, Option.map_none, Option.toList_none,
        List.append_nil]
      exact .pure rfl
  | true =>
      simp only [if_true, Exec.bind_assoc, Exec.pure_bind, Option.map_some, Option.toList_some]
      exact .step fun value => .pure rfl

theorem probeHits_represents (probes : Path) (probeHits : Vec (Nat × UInt8))
    (indices : List Nat) :
    Exec.Represents Vec.items (Exec.foldEach (pushProbeHits probes) probeHits indices) (do
      let hits ← Exec.mapEach (readProbeHits probes) indices
      pure (probeHits.items ++ hits.reduceOption)) := by
  rw [← Exec.foldEach_append]
  refine .foldEach (fun probeHits index => ?_) probeHits indices
  exact pushProbeHits_represents probes probeHits index

theorem readPushed_represents {α β γ : Type} {project : β → γ} {read : Path → Sysfs α}
    {path : Path} {name : String} {next : α × Path → Sysfs β} {rest : α → Sysfs γ}
    (later : ∀ value, Exec.Represents project (next (value, path)) (rest value)) :
    Exec.Represents project (readPushed read path name >>= next)
      (read (path ++ [name]) >>= rest) := by
  unfold readPushed
  rw [Exec.bind_assoc]
  refine .step fun value => ?_
  rw [Exec.pure_bind, List.dropLast_concat]
  exact later value

/-- Every round starts with no probe results of its own. -/
theorem readProbesInto_represents (path : Path) (loop : TriedLoop) :
    Exec.Represents TriedLoop.probed (readProbesInto path loop) (do
        let probeHits ← readRegionProbes path
        pure (loop.computedTotalUnits, loop.regions, probeHits)) := by
  unfold readProbesInto readRegionProbes
  simp only [Exec.bind_assoc]
  refine .step fun isDirectory => ?_
  cases isDirectory with
  | false => exact .pure rfl
  | true =>
      rw [if_pos rfl, if_pos rfl, Exec.bind_assoc]
      refine (numericDirectoryIndicesInto_represents _ _).bind fun indices => ?_
      have collected := probeHits_represents (path ++ ["probes"]) loop.probeHits.clear indices.items
      refine collected.bind fun probeHits => ?_
      exact .pure rfl

/-- The end of a round, once the probes are read. -/
def addProbed (start stop : UInt64) (nrAccesses age : UInt32) (passed : Option UInt64)
    (probed : UInt64 × Vec RawRegion × List (Nat × UInt8)) : Sysfs (UInt64 × List RawRegion) := do
  let region ← Exec.ofExcept (RawRegion.fromKernel start stop nrAccesses age passed probed.2.2)
  if probed.1.toNat + region.lenUnits.toNat < u64Bound then
    pure (probed.1 + region.lenUnits, probed.2.1.items ++ [region])
  else Exec.fail .snapshotSizeOverflow

theorem addTriedRegionInto_represents (base : Path) (loop : TriedLoop) (index : Nat) :
    Exec.Represents TriedLoop.total (addTriedRegionInto base loop index)
      (addTriedRegion base loop.total index) := by
  unfold addTriedRegionInto addTriedRegion readTriedRegion
  simp only [Exec.bind_assoc]
  refine readPushed_represents fun start => readPushed_represents fun stop =>
    readPushed_represents fun nrAccesses => readPushed_represents fun age =>
    readPushed_represents fun passed => ?_
  have probed := readProbesInto_represents (base ++ [Path.indexName index]) loop
  have later (after : TriedLoop) : Exec.Represents TriedLoop.total
      (do
        let region ← Exec.ofExcept
          (RawRegion.fromKernel start stop nrAccesses age passed after.probeHits.items)
        if after.computedTotalUnits.toNat + region.lenUnits.toNat < u64Bound then
          pure { after with
            computedTotalUnits := after.computedTotalUnits + region.lenUnits
            regions := after.regions.push region }
        else Exec.fail .snapshotSizeOverflow)
      (addProbed start stop nrAccesses age passed after.probed) := by
    refine .step fun region => ?_
    exact .ite (fun _ => .pure rfl) fun _ => .fail _
  have whole := probed.bind later
  rw [Exec.bind_assoc] at whole
  exact whole

/-- Neither the hint nor the buffers are seen in the result. -/
theorem triedRegionsReserving_eq (scheme : Scheme) (capacityHint : Nat) :
    scheme.triedRegionsReserving capacityHint = scheme.triedRegions := by
  refine Exec.Represents.eq (.step fun reported => ?_)
  refine (numericDirectoryIndicesInto_represents _ _).bind fun indices => ?_
  refine Exec.Represents.bind (Exec.Represents.foldEach (addTriedRegionInto_represents _) _ _)
    fun loop => ?_
  exact .pure rfl

end Scheme

/-! ## What the files of the regions say -/

namespace Files

/-- The probe results below a region. -/
def probeHits? (files : Files) (region : Path) : Option (List (Nat × UInt8)) :=
  ((files.numbered (region ++ ["probes"])).mapM fun index =>
    (files.optional? files.u8? (region ++ ["probes"] ++ [Path.indexName index, "hits"])).map
      fun hits => hits.map fun hits => (index, hits)).map List.reduceOption

def region? (files : Files) (directory : Path) : Option RawRegion := do
  let start ← files.u64? (directory ++ ["start"])
  let stop ← files.u64? (directory ++ ["end"])
  let nrAccesses ← files.u32? (directory ++ ["nr_accesses"])
  let age ← files.u32? (directory ++ ["age"])
  let passed ← files.optional? files.u64? (directory ++ ["sz_filter_passed"])
  let probeHits ← files.probeHits? directory
  (RawRegion.fromKernel start stop nrAccesses age passed probeHits).toOption

/-- The files of a region hold what its reading needs. -/
structure ValidRegion (files : Files) (directory : Path) : Prop where
  ordered : ∃ start stop, files.u64? (directory ++ ["start"]) = some start ∧
    files.u64? (directory ++ ["end"]) = some stop ∧ start ≤ stop
  nrAccesses : (files.u32? (directory ++ ["nr_accesses"])).isSome = true
  age : (files.u32? (directory ++ ["age"])).isSome = true
  passed : files.pathExists (directory ++ ["sz_filter_passed"]) = true →
    (files.u64? (directory ++ ["sz_filter_passed"])).isSome = true
  probes : ∀ index ∈ files.numbered (directory ++ ["probes"]),
    files.pathExists (directory ++ ["probes"] ++ [Path.indexName index, "hits"]) = true →
      (files.u8? (directory ++ ["probes"] ++ [Path.indexName index, "hits"])).isSome = true

/-- A region has the values of its own files. -/
structure ShowsRegion (files : Files) (directory : Path) (region : RawRegion) : Prop where
  start : files.u64? (directory ++ ["start"]) = some region.start
  stop : files.u64? (directory ++ ["end"]) = some region.stop
  nrAccesses : files.u32? (directory ++ ["nr_accesses"]) = some region.nrAccesses
  age : files.u32? (directory ++ ["age"]) = some region.age
  passed : files.u64? (directory ++ ["sz_filter_passed"]) = region.filterPassedUnits
  ascending : (region.probeResults.map Prod.fst).Pairwise (· < ·)
  probes : ∀ index hits, (index, hits) ∈ region.probeResults ↔
    index ∈ files.numbered (directory ++ ["probes"]) ∧
      files.u8? (directory ++ ["probes"] ++ [Path.indexName index, "hits"]) = some hits

theorem pathExists_of_unsigned? {files : Files} {path : Path} {number : Nat}
    (shown : files.unsigned? path = some number) : files.pathExists path = true := by
  obtain ⟨file, found, -⟩ := Option.bind_eq_some_iff.mp shown
  unfold pathExists
  rw [found]
  rfl

theorem pathExists_of_u64? {files : Files} {path : Path} {value : UInt64}
    (shown : files.u64? path = some value) : files.pathExists path = true := by
  obtain ⟨number, shown, -⟩ := Option.map_eq_some_iff.mp shown
  exact pathExists_of_unsigned? shown

theorem pathExists_of_u8? {files : Files} {path : Path} {value : UInt8}
    (shown : files.u8? path = some value) : files.pathExists path = true := by
  obtain ⟨number, shown, -⟩ := Option.bind_eq_some_iff.mp shown
  exact pathExists_of_u64? shown

theorem optional?_eq_some {α : Type} {files : Files} {look : Path → Option α} {path : Path}
    {value : Option α} (there : ∀ value, look path = some value → files.pathExists path = true) :
    files.optional? look path = some value ↔
      (files.pathExists path = true → (look path).isSome = true) ∧ value = look path := by
  unfold optional?
  cases found : look path with
  | some shown => simp [there shown found, eq_comm]
  | none => cases files.pathExists path <;> simp [eq_comm]

theorem probeHits?_eq_some {files : Files} {region : Path} {probeHits : List (Nat × UInt8)} :
    files.probeHits? region = some probeHits ↔
      (∀ index ∈ files.numbered (region ++ ["probes"]),
        files.pathExists (region ++ ["probes"] ++ [Path.indexName index, "hits"]) = true →
          (files.u8? (region ++ ["probes"] ++ [Path.indexName index, "hits"])).isSome = true) ∧
      probeHits = (files.numbered (region ++ ["probes"])).filterMap fun index =>
        (files.u8? (region ++ ["probes"] ++ [Path.indexName index, "hits"])).map (index, ·) := by
  have single (index : Nat) (entry : Option (Nat × UInt8)) :
      (files.optional? files.u8? (region ++ ["probes"] ++ [Path.indexName index, "hits"])).map
          (fun hits => hits.map fun hits => (index, hits)) = some entry ↔
        (files.pathExists (region ++ ["probes"] ++ [Path.indexName index, "hits"]) = true →
          (files.u8? (region ++ ["probes"] ++ [Path.indexName index, "hits"])).isSome = true) ∧
        entry = (files.u8? (region ++ ["probes"] ++ [Path.indexName index, "hits"])).map
          (index, ·) := by
    rw [Option.map_eq_some_iff]
    simp only [optional?_eq_some fun _ => pathExists_of_u8?]
    constructor
    · rintro ⟨hits, ⟨valid, rfl⟩, rfl⟩
      exact ⟨valid, rfl⟩
    · rintro ⟨valid, rfl⟩
      exact ⟨_, ⟨valid, rfl⟩, rfl⟩
  unfold probeHits?
  rw [Option.map_eq_some_iff]
  simp only [mapM_eq_some, single, forall₂_image]
  constructor
  · rintro ⟨_, ⟨valid, rfl⟩, rfl⟩
    exact ⟨valid, List.filterMap_map⟩
  · rintro ⟨valid, rfl⟩
    exact ⟨_, ⟨valid, rfl⟩, List.filterMap_map⟩

theorem region?_eq_some {files : Files} {directory : Path} {region : RawRegion} :
    files.region? directory = some region ↔
      files.u64? (directory ++ ["start"]) = some region.start ∧
      files.u64? (directory ++ ["end"]) = some region.stop ∧
      files.u32? (directory ++ ["nr_accesses"]) = some region.nrAccesses ∧
      files.u32? (directory ++ ["age"]) = some region.age ∧
      files.optional? files.u64? (directory ++ ["sz_filter_passed"]) =
        some region.filterPassedUnits ∧
      files.probeHits? directory = some region.probeHits := by
  unfold region?
  simp only [Option.bind_eq_bind, Option.bind_eq_some_iff]
  constructor
  · rintro ⟨start, hasStart, stop, hasStop, nrAccesses, hasAccesses, age, hasAge, passed, hasPassed,
      probeHits, hasProbes, made⟩
    unfold RawRegion.fromKernel at made
    split at made <;> cases made
    exact ⟨hasStart, hasStop, hasAccesses, hasAge, hasPassed, hasProbes⟩
  · rintro ⟨hasStart, hasStop, hasAccesses, hasAge, hasPassed, hasProbes⟩
    refine ⟨_, hasStart, _, hasStop, _, hasAccesses, _, hasAge, _, hasPassed, _, hasProbes, ?_⟩
    unfold RawRegion.fromKernel
    rw [dif_pos region.ordered]
    rfl

theorem ShowsRegion.of_region? {files : Files} {directory : Path} {region : RawRegion}
    (canonical : files.Canonical (directory ++ ["probes"]))
    (read : files.region? directory = some region) : files.ShowsRegion directory region := by
  obtain ⟨start, stop, nrAccesses, age, passed, probes⟩ := region?_eq_some.mp read
  have collected := (probeHits?_eq_some.mp probes).2
  have results : region.probeResults = region.probeHits := ProbeHits.results_fromKernel _
  refine ⟨start, stop, nrAccesses, age, ?_, ?_, ?_⟩
  · exact ((optional?_eq_some fun _ => pathExists_of_u64?).mp passed).2.symm
  · rw [results, collected, List.pairwise_map, List.pairwise_filterMap]
    refine (numbered_strict canonical).imp fun below entry here other there => ?_
    obtain ⟨hits, -, rfl⟩ := Option.map_eq_some_iff.mp here
    obtain ⟨more, -, rfl⟩ := Option.map_eq_some_iff.mp there
    exact below
  · intro index hits
    rw [results, collected, List.mem_filterMap]
    constructor
    · rintro ⟨_, listed, shown⟩
      obtain ⟨_, shown, ⟨⟩⟩ := Option.map_eq_some_iff.mp shown
      exact ⟨listed, shown⟩
    · rintro ⟨listed, shown⟩
      exact ⟨index, listed, by rw [shown]; rfl⟩

theorem region?_isSome_iff {files : Files} {directory : Path} :
    (files.region? directory).isSome = true ↔ files.ValidRegion directory := by
  rw [Option.isSome_iff_exists]
  simp only [region?_eq_some, optional?_eq_some fun _ => pathExists_of_u64?, probeHits?_eq_some]
  constructor
  · rintro ⟨region, start, stop, nrAccesses, age, ⟨passed, -⟩, probes, -⟩
    exact ⟨⟨_, _, start, stop, region.ordered⟩, by rw [nrAccesses]; rfl, by rw [age]; rfl, passed,
      probes⟩
  · rintro ⟨⟨start, stop, hasStart, hasStop, ordered⟩, hasAccesses, hasAge, passed, probes⟩
    obtain ⟨nrAccesses, hasAccesses⟩ := Option.isSome_iff_exists.mp hasAccesses
    obtain ⟨age, hasAge⟩ := Option.isSome_iff_exists.mp hasAge
    exact ⟨⟨start, stop, nrAccesses, age, _, _, ordered⟩, hasStart, hasStop, hasAccesses, hasAge,
      ⟨passed, rfl⟩, probes, rfl⟩

/-! ## The loop over the regions -/

/-- The length of a region from its own files. -/
def triedLength (files : Files) (directory : Path) : Nat :=
  match files.u64? (directory ++ ["start"]), files.u64? (directory ++ ["end"]) with
  | some start, some stop => stop.toNat - start.toNat
  | _, _ => 0

theorem lenUnits_toNat (region : RawRegion) :
    region.lenUnits.toNat = region.stop.toNat - region.start.toNat :=
  UInt64.toNat_sub_of_le _ _ region.ordered

theorem triedLength_eq {files : Files} {directory : Path} {region : RawRegion}
    (read : files.region? directory = some region) :
    files.triedLength directory = region.lenUnits.toNat := by
  obtain ⟨start, stop, -⟩ := region?_eq_some.mp read
  unfold triedLength
  rw [start, stop, lenUnits_toNat]

/-- The lengths in the files are those of the regions read from them. -/
theorem sum_triedLength {files : Files} {base : Path} {indices : List Nat}
    {regions : List RawRegion}
    (read : List.Forall₂ (fun index region =>
      files.region? (base ++ [Path.indexName index]) = some region) indices regions) :
    (indices.map fun index => files.triedLength (base ++ [Path.indexName index])).sum =
      (regions.map fun region => region.lenUnits.toNat).sum := by
  induction read with
  | nil => rfl
  | cons here _ ih => rw [List.map_cons, List.map_cons, List.sum_cons, List.sum_cons, ih,
      triedLength_eq here]

theorem toNat_add_of_fits {first second : UInt64}
    (fits : first.toNat + second.toNat < u64Bound) :
    (first + second).toNat = first.toNat + second.toNat := by
  rw [UInt64.toNat_add]
  exact Nat.mod_eq_of_lt fits

def addRegion? (files : Files) (base : Path) (total : UInt64 × List RawRegion) (index : Nat) :
    Option (UInt64 × List RawRegion) :=
  (files.region? (base ++ [Path.indexName index])).bind fun region =>
    if total.1.toNat + region.lenUnits.toNat < u64Bound then
      some (total.1 + region.lenUnits, total.2 ++ [region])
    else none

/-- The loop returns exactly when every region is read and the exact total fits. -/
theorem foldlM_addRegion? {files : Files} {base : Path} {indices : List Nat}
    {total last : UInt64 × List RawRegion} :
    indices.foldlM (files.addRegion? base) total = some last ↔
      ∃ regions, List.Forall₂ (fun index region =>
          files.region? (base ++ [Path.indexName index]) = some region) indices regions ∧
        last.2 = total.2 ++ regions ∧
        last.1.toNat = total.1.toNat + (regions.map fun region => region.lenUnits.toNat).sum := by
  induction indices generalizing total with
  | nil =>
      rw [List.foldlM_nil]
      constructor
      · rintro ⟨⟩
        exact ⟨[], .nil, by simp, by simp⟩
      · rintro ⟨_, ⟨⟩, same, sum⟩
        refine congrArg some (Prod.ext (UInt64.toNat_inj.mp ?_) ?_)
        · simpa using sum.symm
        · simpa using same.symm
  | cons index rest ih =>
      rw [List.foldlM_cons]
      constructor
      · intro folded
        obtain ⟨next, added, folded⟩ := Option.bind_eq_some_iff.mp folded
        obtain ⟨region, read, added⟩ := Option.bind_eq_some_iff.mp added
        obtain ⟨regions, others, listed, summed⟩ := ih.mp folded
        split at added
        · rename_i fits
          cases added
          refine ⟨region :: regions, .cons read others, by simpa using listed, ?_⟩
          rw [summed, toNat_add_of_fits fits, List.map_cons, List.sum_cons,
            Nat.add_assoc]
        · cases added
      · rintro ⟨_, _ | ⟨read, others⟩, listed, summed⟩
        rename_i region regions
        rw [List.map_cons, List.sum_cons, ← Nat.add_assoc] at summed
        have fits : total.1.toNat + region.lenUnits.toNat < u64Bound := by
          have bounded : last.1.toNat < u64Bound := last.1.toNat_lt
          omega
        refine Option.bind_eq_some_iff.mpr ⟨(total.1 + region.lenUnits, total.2 ++ [region]), ?_, ?_⟩
        · exact Option.bind_eq_some_iff.mpr ⟨region, read, if_pos fits⟩
        · refine ih.mpr ⟨regions, others, by simpa using listed, ?_⟩
          rw [summed, toNat_add_of_fits fits]

def triedRegions? (files : Files) (base : Path) : Option RawSnapshot :=
  (files.optional? files.u64? (base ++ ["total_bytes"])).bind fun reported =>
    ((files.numbered base).foldlM (files.addRegion? base) (0, [])).bind fun total =>
      some ⟨total.2, reported, total.1⟩

theorem triedRegions?_eq_some {files : Files} {base : Path} {snapshot : RawSnapshot} :
    files.triedRegions? base = some snapshot ↔
      files.optional? files.u64? (base ++ ["total_bytes"]) = some snapshot.reportedTotalUnits ∧
      List.Forall₂ (fun index region =>
          files.region? (base ++ [Path.indexName index]) = some region)
        (files.numbered base) snapshot.regions ∧
      snapshot.materializedTotalUnits.toNat =
        (snapshot.regions.map fun region => region.lenUnits.toNat).sum := by
  unfold triedRegions?
  simp only [Option.bind_eq_some_iff, foldlM_addRegion?]
  constructor
  · rintro ⟨reported, optional, total, ⟨regions, read, listed, summed⟩, ⟨⟩⟩
    rw [List.nil_append] at listed
    subst listed
    exact ⟨optional, read, by simpa using summed⟩
  · rintro ⟨optional, read, summed⟩
    exact ⟨_, optional, (snapshot.materializedTotalUnits, snapshot.regions),
      ⟨_, read, rfl, by simpa using summed⟩, rfl⟩

/-- The regions of a directory hold what their reading needs, and their exact total fits. -/
structure ValidTriedRegions (files : Files) (base : Path) : Prop where
  reported : files.pathExists (base ++ ["total_bytes"]) = true →
    (files.u64? (base ++ ["total_bytes"])).isSome = true
  regions : ∀ index ∈ files.numbered base, files.ValidRegion (base ++ [Path.indexName index])
  total : ((files.numbered base).map fun index =>
    files.triedLength (base ++ [Path.indexName index])).sum < u64Bound

end Files

/-- The completeness of regions with an exact total. -/
inductive SnapshotCompleteness.Classifies (materialized : Nat) :
    Option UInt64 → SnapshotCompleteness → Prop
  | complete (reported : UInt64) (same : reported.toNat = materialized) :
      Classifies materialized (some reported) .complete
  | incomplete (reported total : UInt64) (same : total.toNat = materialized)
      (more : materialized < reported.toNat) :
      Classifies materialized (some reported) (.incomplete reported total)
  | inconsistent (reported total : UInt64) (same : total.toNat = materialized)
      (less : reported.toNat < materialized) :
      Classifies materialized (some reported) (.inconsistent reported total)
  | unverifiable : Classifies materialized none .unverifiable

theorem RawSnapshot.completeness_classifies (snapshot : RawSnapshot) :
    SnapshotCompleteness.Classifies snapshot.materializedTotalUnits.toNat
      snapshot.reportedTotalUnits snapshot.completeness := by
  unfold completeness
  cases snapshot.reportedTotalUnits with
  | none => exact .unverifiable
  | some reported =>
      dsimp only
      by_cases same : reported = snapshot.materializedTotalUnits
      · rw [if_pos same]
        exact .complete reported (congrArg UInt64.toNat same)
      · rw [if_neg same]
        by_cases more : reported > snapshot.materializedTotalUnits
        · rw [if_pos more]
          exact .incomplete reported _ rfl (UInt64.lt_iff_toNat_lt.mp more)
        · rw [if_neg more]
          refine .inconsistent reported _ rfl ?_
          have different : reported.toNat ≠ snapshot.materializedTotalUnits.toNat :=
            fun equal => same (UInt64.toNat_inj.mp equal)
          have below : ¬snapshot.materializedTotalUnits.toNat < reported.toNat :=
            fun above => more (UInt64.lt_iff_toNat_lt.mpr above)
          omega

/-- A snapshot has one region for each numbered directory, in ascending order and with the values
of its own files, and the exact total. -/
structure Files.ShowsTriedRegions (files : Files) (base : Path) (snapshot : RawSnapshot) : Prop where
  regions : ∃ indices : List Nat, indices.Pairwise (· < ·) ∧
    (∀ index, index ∈ indices ↔
      index < 2 ^ 64 ∧ files.isDirectory (base ++ [Path.indexName index]) = true) ∧
    List.Forall₂ (fun index region => files.ShowsRegion (base ++ [Path.indexName index]) region)
      indices snapshot.regions
  reported : files.u64? (base ++ ["total_bytes"]) = snapshot.reportedTotalUnits
  total : snapshot.materializedTotalUnits.toNat =
    (snapshot.regions.map fun region => region.stop.toNat - region.start.toNat).sum
  completeness : SnapshotCompleteness.Classifies
    (snapshot.regions.map fun region => region.stop.toNat - region.start.toNat).sum
    snapshot.reportedTotalUnits snapshot.completeness

/-- The regions and the probes of each of them are numbered canonically. -/
structure Files.CanonicalRegions (files : Files) (base : Path) : Prop where
  regions : files.Canonical base
  probes : ∀ index ∈ files.numbered base,
    files.Canonical (base ++ [Path.indexName index] ++ ["probes"])

theorem Files.ShowsTriedRegions.of_triedRegions? {files : Files} {base : Path}
    {snapshot : RawSnapshot} (canonical : files.CanonicalRegions base)
    (read : files.triedRegions? base = some snapshot) : files.ShowsTriedRegions base snapshot := by
  obtain ⟨reported, regions, total⟩ := Files.triedRegions?_eq_some.mp read
  simp only [Files.lenUnits_toNat] at total
  refine ⟨⟨files.numbered base, Files.numbered_strict canonical.regions,
    fun index => Files.mem_numbered_iff canonical.regions, ?_⟩, ?_, total, ?_⟩
  · have numbered := (List.forall₂_and_left _ _).mpr ⟨canonical.probes, regions⟩
    exact numbered.imp fun index region read => .of_region? read.1 read.2
  · exact ((Files.optional?_eq_some fun _ => Files.pathExists_of_u64?).mp reported).2.symm
  · rw [← total]
    exact snapshot.completeness_classifies

theorem Files.triedRegions?_isSome_iff {files : Files} {base : Path} :
    (files.triedRegions? base).isSome = true ↔ files.ValidTriedRegions base := by
  rw [Option.isSome_iff_exists]
  simp only [Files.triedRegions?_eq_some]
  constructor
  · rintro ⟨snapshot, reported, regions, total⟩
    refine ⟨((Files.optional?_eq_some fun _ => Files.pathExists_of_u64?).mp reported).1, ?_, ?_⟩
    · intro index member
      obtain ⟨region, read⟩ := exists_of_forall₂ regions member
      exact Files.region?_isSome_iff.mp (Option.isSome_iff_exists.mpr ⟨region, read⟩)
    · rw [Files.sum_triedLength regions, ← total]
      exact snapshot.materializedTotalUnits.toNat_lt
  · rintro ⟨reported, regions, fits⟩
    obtain ⟨materialized, read⟩ := exists_forall₂_some fun index member =>
      Files.region?_isSome_iff.mpr (regions index member)
    rw [Files.sum_triedLength read] at fits
    refine ⟨⟨materialized, files.u64? (base ++ ["total_bytes"]), UInt64.ofNat
      (materialized.map fun region => region.lenUnits.toNat).sum⟩, ?_, read, ?_⟩
    · exact (Files.optional?_eq_some fun _ => Files.pathExists_of_u64?).mpr ⟨reported, rfl⟩
    · exact UInt64.toNat_ofNat_of_lt' fits

namespace Scheme

variable {env : Env} (solitary : env.Solitary) {system : System}
include solitary

theorem readRegionProbes_answers (region : Path) :
    Answers env system (readRegionProbes region) (system.files.probeHits? region) := by
  refine .after (Answers.isDirectory solitary _) ?_
  by_cases there : system.files.isDirectory (region ++ ["probes"]) = true
  · rw [if_pos there]
    refine .after (Answers.numbered solitary _) ?_
    unfold Files.probeHits?
    rw [Option.map_eq_bind]
    refine (Answers.mapEach (fun index => ?_) _).bind fun hits => .pure _
    rw [Option.map_eq_bind]
    exact (Answers.optional solitary (Answers.u8 solitary _)).bind fun hits => .pure _
  · rw [if_neg there, Files.probeHits?, Files.numbered_eq_nil there]
    exact .pure []

theorem readTriedRegion_answers (base : Path) (index : Nat) :
    Answers env system (readTriedRegion base index)
      (system.files.region? (base ++ [Path.indexName index])) := by
  refine (Answers.u64 solitary _).bind fun start => ?_
  refine (Answers.u64 solitary _).bind fun stop => ?_
  refine (Answers.u32 solitary _).bind fun nrAccesses => ?_
  refine (Answers.u32 solitary _).bind fun age => ?_
  refine (Answers.optional solitary (Answers.u64 solitary _)).bind fun passed => ?_
  refine (readRegionProbes_answers solitary _).bind fun probeHits => ?_
  exact .ofExcept _

theorem addTriedRegion_answers (base : Path) (total : UInt64 × List RawRegion) (index : Nat) :
    Answers env system (addTriedRegion base total index)
      (system.files.addRegion? base total index) := by
  refine (readTriedRegion_answers solitary base index).bind fun region => ?_
  by_cases fits : total.1.toNat + region.lenUnits.toNat < u64Bound
  · rw [if_pos fits, if_pos fits]
    exact .pure _
  · rw [if_neg fits, if_neg fits]
    exact .fail _

theorem triedRegions_answers (scheme : Scheme) :
    Answers env system scheme.triedRegions
      (system.files.triedRegions? (scheme.path ++ ["tried_regions"])) := by
  refine (Answers.optional solitary (Answers.u64 solitary _)).bind fun reported => ?_
  refine .after (Answers.numbered solitary _) ?_
  exact (Answers.foldEach (addTriedRegion_answers solitary _) _ _).bind fun total => .pure _

/-- Reading the tried regions loses and reorders nothing, whatever room is reserved. -/
theorem triedRegionsReserving_exact (scheme : Scheme) (capacityHint : Nat) {world : World}
    (canonical : world.sys.files.CanonicalRegions (scheme.path ++ ["tried_regions"])) :
    ((∃ snapshot after,
        scheme.triedRegionsReserving capacityHint env world = (.ok snapshot, after)) ↔
      world.sys.files.ValidTriedRegions (scheme.path ++ ["tried_regions"])) ∧
    ∀ snapshot after, scheme.triedRegionsReserving capacityHint env world = (.ok snapshot, after) →
      world.sys.files.ShowsTriedRegions (scheme.path ++ ["tried_regions"]) snapshot := by
  rw [triedRegionsReserving_eq]
  have answers : Answers env world.sys scheme.triedRegions _ := triedRegions_answers solitary scheme
  constructor
  · simp only [answers.returns_iff]
    rw [← Option.isSome_iff_exists]
    exact Files.triedRegions?_isSome_iff
  · intro snapshot after run
    exact .of_triedRegions? canonical (answers.returns_iff.mp ⟨after, run⟩)

end Scheme

instance (files : Files) (directory : Path) : Decidable (files.Canonical directory) :=
  decidable_of_iff (∀ entry ∈ files.entries directory, entry.2 = true →
      (Path.nameIndex? entry.1).all (fun index => entry.1 == Path.indexName index) = true) (by
    constructor
    · intro all name index listed named
      simpa [named] using all (name, true) listed rfl
    · rintro canonical ⟨name, _⟩ listed rfl
      cases named : Path.nameIndex? name with
      | none => rfl
      | some index => simpa using canonical name index listed named)

namespace TriedFixture

def scheme : Scheme := ((DamonAdmin.kdamond 0).context 0).scheme 0

/-- Region 10 is listed before region 2, and its probe 11 before probe 3. -/
def world : World := .initial (.settled (.ofAttributes
  ([(["10", "probes", "11", "hits"], "5"), (["10", "probes", "3", "hits"], "7"),
    (["10", "start"], "64"), (["10", "end"], "96"), (["10", "nr_accesses"], "1"),
    (["10", "age"], "4"), (["2", "sz_filter_passed"], "8"), (["2", "start"], "16"),
    (["2", "end"], "32"), (["2", "nr_accesses"], "0"), (["2", "age"], "9"),
    (["total_bytes"], "50")].map fun (name, value) =>
      (scheme.path ++ "tried_regions" :: name, value, false))))

end TriedFixture

open TriedFixture in
/-- Two regions of which only the second has probes. -/
theorem Scheme.triedRegionsReserving_two :
    world.sys.files.ShowsTriedRegions (scheme.path ++ ["tried_regions"])
      ⟨[⟨16, 32, 0, 9, some 8, [], by decide⟩, ⟨64, 96, 1, 4, none, [(3, 7), (11, 5)], by decide⟩],
        some 50, 48⟩ := by
  have canonical : world.sys.files.CanonicalRegions (scheme.path ++ ["tried_regions"]) :=
    ⟨by decide +kernel, by decide +kernel⟩
  have returned : (scheme.triedRegionsReserving 0 (.undisturbed .bare) world).1 =
      .ok ⟨[⟨16, 32, 0, 9, some 8, [], by decide⟩,
        ⟨64, 96, 1, 4, none, [(3, 7), (11, 5)], by decide⟩], some 50, 48⟩ := by
    decide +kernel
  exact (Scheme.triedRegionsReserving_exact (Env.undisturbed_quiet .bare).solitary scheme 0
    canonical).2 _ _ (Prod.ext returned rfl)

end DamonRs
