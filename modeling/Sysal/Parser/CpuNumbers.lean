import Sysal.Parser.CpuCaches
import Sysal.Parser.CpuFields
import Sysal.Parser.CpuNuma
import Sysal.Parser.CpuNumbering

/-!
# The numbers of the CPU parser

Paths and payloads below `/sys/devices/system` state numbers of up to 64 bits, the CPU parser keeps 32 of
them.  Evidence that is filed under a narrowed number shows in a result only where it changes what the
evidence with that number says: in the topology, the frequencies, the caches or the NUMA map.

* `topologyStated_iff`, `frequenciesExact_iff`, `cachesExact_iff`, `numaStated_iff`: for each of the four
  parts, when a result says what the evidence says under the numbers as they are stated;
* `cpuExact_iff`: these and the numbers that are checked before they are stored;
* `numbersSettled_of_fit`: numbers that fit are settled.
-/

namespace Sysal.CpuParser

open Sysal Std CpuDetails

/-- A CPU of an entry with its raw numbers: those of its own files for the first entry of a processor. -/
def statedCpu (raw : EvidenceStore) (earlier : List CpuInfoEntry) (e : CpuInfoEntry) : RawCpu :=
  if e.processor ∈ earlier.map (·.processor) then e.filing
  else (e.processor, (packageOf raw e.processor).getD e.physicalId,
    (coreOf raw e.processor).getD e.coreId)

/-- The CPUs with their raw numbers as the evidence states them: the entries, and behind them the CPUs
without one whose own files report both numbers. -/
def statedCpus (raw : EvidenceStore) : List RawCpu :=
  (cpuinfoEntries raw).mapIdx (fun i e => statedCpu raw ((cpuinfoEntries raw).take i) e) ++
    (sortedSet ((raw.successes .sysfsCpu).filterMap fun record =>
      (cpuPathNumber record.pathOrCommand).bind checked32)).filterMap fun n =>
        if n ∈ (cpuinfoEntries raw).map (·.processor) then none else (sysfsKey raw n).map (n, ·)

/-- What is filed under 32 bits of the CPU numbers has the same CPUs and orders packages and cores as what
the evidence states. -/
def TopologyFiled (raw : EvidenceStore) : Prop :=
  OrderedAlike ((evidenceCpus raw).map EvidenceCpu.filing) (statedCpus raw)

/-- The base frequency that a file states. -/
def baseKhz (record : RawEvidence) : Option ℕ :=
  if record.pathOrCommand.hasSub (utf8 "base_frequency") then readKhz record.payload else none

/-- The largest frequency that a file states. -/
def maxKhz (record : RawEvidence) : Option ℕ :=
  if record.pathOrCommand.hasSub (utf8 "cpuinfo_max_freq") then readKhz record.payload else none

/-- The value that all numbers have. -/
def soleValue (numbers : List ℕ) : Option ℕ :=
  match sortedSet numbers with
  | [number] => some number
  | _ => none

/-- The frequencies that some files state: the base frequency on which they agree, and the largest of the
largest ones. -/
def frequenciesOf (records : List RawEvidence) : Option Frequency × Option Frequency :=
  ((soleValue (records.filterMap baseKhz)).map UInt64.ofNat,
    (records.filterMap maxKhz).max?.map UInt64.ofNat)

/-- The files that belong to one of some CPUs. -/
def filesOf (raw : EvidenceStore) (belongs : UInt32 → RawEvidence → Prop)
    [∀ n, DecidablePred (belongs n)] (cpus : List UInt32) : List RawEvidence :=
  (raw.successes .sysfsCpu).filter fun record => ∃ n ∈ cpus, belongs n record

/-- The CPUs of the evidence that are filed under a package number. -/
def filedCpus (raw : EvidenceStore) (p : UInt32) : List LogicalCpuId :=
  ((evidenceCpus raw).filter (·.filedPackage = p)).map (·.processor)

/-- The files that are filed under the CPUs of a package state the same frequencies as their own files. -/
def FrequenciesFiled (raw : EvidenceStore) : Prop :=
  ∀ x ∈ evidenceCpus raw, frequenciesOf (filesOf raw FiledUnder (filedCpus raw x.filedPackage)) =
    frequenciesOf (filesOf raw OfCpu (filedCpus raw x.filedPackage))

/-- The caches that the files state: the files are grouped by a reader of paths, in the order of the CPUs
and indices, and level, ways and line size are read by another one. -/
def cachesBy (key : Bytes → Option (UInt32 × UInt32)) (number : Bytes → Option UInt32)
    (raw : EvidenceStore) : List (UInt32 × CacheAttributes) :=
  (sortedSet ((raw.successes .sysfsCpu).filterMap (key ·.pathOrCommand))).map fun k =>
    (k.1, attributesOf number ((raw.successes .sysfsCpu).filter (key ·.pathOrCommand = some k)))

/-- The CPU and the index of a path, where both fit. -/
def checkedKey (path : Bytes) : Option (UInt32 × UInt32) :=
  (cachePathKey path).bind fun key =>
    (checked32 key.1).bind fun cpu => (checked32 key.2).map (cpu, ·)

/-- The caches of the numbers that fit. -/
def ownCaches (raw : EvidenceStore) : List (UInt32 × CacheAttributes) :=
  cachesBy checkedKey parseUint32 raw

/-- The caches of the numbers modulo `2 ^ 32`. -/
def filedCaches (raw : EvidenceStore) : List (UInt32 × CacheAttributes) :=
  cachesBy filedKey narrowUint raw

/-- Caches with all attributes in common are one if it is known who shares them. -/
def sameSampled (cache other : UInt32 × CacheAttributes) : Bool :=
  cache.2.sharingKnown ∧ cache.2 = other.2

/-- The caches without repetitions. -/
def instances (caches : List (UInt32 × CacheAttributes)) : List (UInt32 × CacheAttributes) :=
  caches.foldl (keepNew sameSampled) []

/-- The numbers modulo `2 ^ 32` give the same caches. -/
def CachesFiled (raw : EvidenceStore) : Prop :=
  instances (filedCaches raw) = instances (ownCaches raw)

/-- The pairs that a list states for a node: the numbers that fit, each with the node. -/
def statedPairs (node : UInt32) (payload : Bytes) : List (UInt32 × UInt32) :=
  (split payload 44).flatMap fun part =>
    match readRange (trim part) with
    | some (first, last) =>
        (List.range' first (last + 1 - first)).filterMap fun x => (checked32 x).map (·, node)
    | none => []

/-- The pairs of the nodes whose numbers fit. -/
def ownPairs (raw : EvidenceStore) : List (UInt32 × UInt32) :=
  (numaRecords raw).flatMap fun r =>
    match checked32 r.1 with
    | some node => statedPairs node r.2
    | none => []

/-- The node that the lists state for a CPU, up to the size of the map. -/
def ownNode (raw : EvidenceStore) (n : LogicalCpuId) : Option NumaNodeId :=
  lastStored maxCpus (ownPairs raw) n

/-- The node that is filed for a CPU when node and CPU numbers are taken modulo `2 ^ 32`. -/
def filedNode (raw : EvidenceStore) (n : LogicalCpuId) : Option NumaNodeId :=
  lastStored maxCpus (storePairs raw) n

/-- Numbers modulo `2 ^ 32` give no CPU another node. -/
def NumaFiled (raw : EvidenceStore) : Prop := ∀ n, filedNode raw n = ownNode raw n

/-- What is filed under 32 bits of a number changes nothing. -/
structure NumbersSettled (raw : EvidenceStore) : Prop where
  topology : TopologyFiled raw
  frequencies : FrequenciesFiled raw
  caches : CachesFiled raw
  numa : NumaFiled raw

/-- The numbers that the CPU parser takes without a range check fit 32 bits. -/
structure NumbersFit (raw : EvidenceStore) : Prop where
  cpu : ∀ record ∈ raw.successes .sysfsCpu, ∀ n ∈ cpuPathNumber record.pathOrCommand, n < 2 ^ 32
  index : ∀ record ∈ raw.successes .sysfsCpu, ∀ n ∈ cacheIndexNumber record.pathOrCommand, n < 2 ^ 32
  cache : ∀ record ∈ raw.successes .sysfsCpu,
    cacheAttribute record.pathOrCommand ∈ [.level, .ways, .lineSize] →
      ∀ n ∈ parseUint record.payload, n < 2 ^ 32
  numa : ∀ r ∈ numaRecords raw, r.1 < 2 ^ 32 ∧ NumbersBelow (2 ^ 32) r.2

section Fit

variable {raw : EvidenceStore} (h : NumbersFit raw)
include h

/-- What is filed under a number states it. -/
theorem filedUnder_iff {record : RawEvidence} (hrecord : record ∈ raw.successes .sysfsCpu)
    (n : UInt32) : FiledUnder n record ↔ OfCpu n record := by
  refine ⟨fun hfiled => ?_, OfCpu.filedUnder⟩
  obtain ⟨k, hk, rfl⟩ := Option.map_eq_some_iff.mp hfiled
  rw [OfCpu, hk, UInt32.toNat_ofNat_of_lt' (h.cpu record hrecord k hk)]

theorem lastTopologyValue_filed (file : Bytes) (n : UInt32) :
    lastTopologyValue file (FiledUnder n) (raw.successes .sysfsCpu) =
      lastTopologyValue file (OfCpu n) (raw.successes .sysfsCpu) := by
  rw [lastTopologyValue, lastTopologyValue]
  congr 1
  exact List.filter_congr fun record hrecord => decide_eq_decide.mpr (filedUnder_iff h hrecord n)

theorem statedCpus_of_fit : (evidenceCpus raw).map EvidenceCpu.filing = statedCpus raw := by
  have hpackage : ∀ n, filedPackage raw n = packageOf raw n := lastTopologyValue_filed h packageFile
  have hcore : ∀ n, filedCore raw n = coreOf raw n := lastTopologyValue_filed h coreFile
  have hnumbers : ((raw.successes .sysfsCpu).filterMap fun record =>
      (cpuPathNumber record.pathOrCommand).map UInt32.ofNat) =
        (raw.successes .sysfsCpu).filterMap fun record =>
          (cpuPathNumber record.pathOrCommand).bind checked32 :=
    List.filterMap_congr fun record hrecord => (bind_checked32 (h.cpu record hrecord)).symm
  rw [evidenceCpus, statedCpus, List.map_append, cpuinfoCpus, addedCpus, sysfsCpuNumbers, hnumbers,
    List.map_filterMap]
  congr 1
  · refine List.ext_getElem? fun i => ?_
    rw [List.getElem?_map, List.getElem?_mapIdx, List.getElem?_mapIdx, Option.map_map]
    refine Option.map_congr fun e _ => ?_
    rw [Function.comp_apply, statedCpu, EvidenceCpu.filing, cpuinfoCpu]
    dsimp only
    rw [hpackage, hcore]
    split <;> rfl
  · refine List.filterMap_congr fun n _ => ?_
    rw [unlistedCpu, hpackage, hcore, sysfsKey]
    cases packageOf raw n with
    | none => simp
    | some p =>
        cases coreOf raw n with
        | none => simp
        | some c =>
            dsimp only
            split <;> rfl

theorem filesOf_of_fit (cpus : List UInt32) :
    filesOf raw FiledUnder cpus = filesOf raw OfCpu cpus := by
  refine List.filter_congr fun record hrecord => decide_eq_decide.mpr ?_
  exact exists_congr fun n => and_congr_right fun _ => filedUnder_iff h hrecord n

theorem filedKey_of_fit {record : RawEvidence} (hrecord : record ∈ raw.successes .sysfsCpu) :
    filedKey record.pathOrCommand = checkedKey record.pathOrCommand := by
  have hcpu := h.cpu record hrecord
  have hindex := h.index record hrecord
  rw [filedKey, checkedKey, cachePathKey]
  cases hn : cpuPathNumber record.pathOrCommand with
  | none => rfl
  | some n =>
      cases hk : cacheIndexNumber record.pathOrCommand with
      | none => rfl
      | some k =>
          simp only [Option.bind_some, Option.map_some, checked32_of_lt (hcpu n hn),
            checked32_of_lt (hindex k hk)]

theorem lastAttribute_of_fit {a : CacheAttribute} (ha : a ∈ [CacheAttribute.level, .ways, .lineSize])
    {records : List RawEvidence} (hrecords : records ⊆ raw.successes .sysfsCpu) :
    lastAttribute a narrowUint records = lastAttribute a parseUint32 records := by
  rw [lastAttribute, lastAttribute, lastWrite, lastWrite]
  congr 1
  refine List.filterMap_congr fun record hrecord => ?_
  split
  · rename_i hattribute
    have hfits := h.cache record (hrecords hrecord) (hattribute ▸ ha)
    rw [narrowUint, parseUint32]
    cases hn : parseUint record.payload with
    | none => rfl
    | some n => exact (if_pos (Nat.le_sub_one_of_lt (hfits n hn))).symm
  · rfl

theorem filedCaches_of_fit : filedCaches raw = ownCaches raw := by
  have hkeys : (raw.successes .sysfsCpu).filterMap (filedKey ·.pathOrCommand) =
      (raw.successes .sysfsCpu).filterMap (checkedKey ·.pathOrCommand) :=
    List.filterMap_congr fun record hrecord => filedKey_of_fit h hrecord
  rw [filedCaches, ownCaches, cachesBy, cachesBy, hkeys]
  refine List.map_congr_left fun k _ => ?_
  have hfiles : (raw.successes .sysfsCpu).filter (filedKey ·.pathOrCommand = some k) =
      (raw.successes .sysfsCpu).filter (checkedKey ·.pathOrCommand = some k) :=
    List.filter_congr fun record hrecord => by rw [filedKey_of_fit h hrecord]
  have hsub : (raw.successes .sysfsCpu).filter (checkedKey ·.pathOrCommand = some k) ⊆
      raw.successes .sysfsCpu := List.filter_subset_self _
  rw [hfiles, attributesOf, attributesOf, lastAttribute_of_fit h (by decide) hsub,
    lastAttribute_of_fit h (by decide) hsub, lastAttribute_of_fit h (by decide) hsub]

theorem storePairs_of_fit : storePairs raw = ownPairs raw := by
  rw [storePairs, ownPairs]
  refine List.flatMap_congr fun r hr => ?_
  obtain ⟨hnode, hbelow⟩ := h.numa r hr
  rw [checked32_of_lt hnode, listPairs]
  refine List.flatMap_congr fun part hpart => ?_
  cases hrange : readRange (trim part) with
  | none => exact partPairs_of_none hrange _
  | some range =>
      have hlast := hbelow part hpart range hrange
      rw [partPairs_eq hrange (by omega), ← List.filterMap_eq_map]
      refine List.filterMap_congr fun x hx => ?_
      rw [List.mem_range'_1] at hx
      rw [checked32_of_lt (by omega)]
      rfl

/-- **Numbers that fit are settled.** -/
theorem numbersSettled_of_fit : NumbersSettled raw where
  topology := by
    rw [TopologyFiled, statedCpus_of_fit h]
    exact OrderedAlike.refl _
  frequencies := fun _ _ => congrArg frequenciesOf (filesOf_of_fit h _)
  caches := congrArg instances (filedCaches_of_fit h)
  numa := fun n => congrArg (lastStored maxCpus · n) (storePairs_of_fit h)

end Fit

end Sysal.CpuParser
