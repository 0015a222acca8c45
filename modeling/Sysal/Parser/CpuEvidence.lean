import Sysal.Foundation.LastWrite
import Sysal.Parser.Cpu

/-!
# What the records say about the CPUs

`/proc/cpuinfo` and the topology files of sysfs name CPUs and give them raw package and core numbers.
The paths of the files state numbers of up to 64 bits, the parser files them under 32 bits.

* `packageOf`, `coreOf`: what the files of a CPU say last; `filedPackage`, `filedCore`: what the files
  that are filed under its number say last;
* `getElem?_sysfsTopology`, `getElem?_overrideEntries`: the topology map and the merge loop in these
  terms;
* `filing_mergedEntries`: the entries of the topology are the CPUs of the evidence, under the numbers they
  are filed under.
-/

namespace Sysal.CpuParser

open Sysal Std

/-! ### Numbers in paths -/

/-- The number after the first `cpu/cpu` of a path. -/
def cpuPathNumber (path : Bytes) : Option ℕ :=
  (path.after (utf8 "cpu/cpu")).bind fun rest => parseUint (rest.takeWhile isDigit)

/-- The number after the first `/cache/index` of a path. -/
def cacheIndexNumber (path : Bytes) : Option ℕ :=
  (path.after (utf8 "/cache/index")).bind fun rest => parseUint (rest.takeWhile isDigit)

theorem extractCpuNumberFromPath_eq (path : Bytes) :
    extractCpuNumberFromPath path = (cpuPathNumber path).map UInt32.ofNat := by
  rw [extractCpuNumberFromPath, cpuPathNumber]
  cases path.after (utf8 "cpu/cpu") with
  | none => rfl
  | some rest =>
      simp only [Option.bind_eq_bind, Option.bind_some]
      cases parseUint (rest.takeWhile isDigit) <;> rfl

theorem extractCacheKey_eq (path : Bytes) :
    extractCacheKey path = (cpuPathNumber path).bind fun cpu =>
      (cacheIndexNumber path).map fun index => (UInt32.ofNat cpu, UInt32.ofNat index) := by
  rw [extractCacheKey, cpuPathNumber, cacheIndexNumber]
  cases path.after (utf8 "cpu/cpu") with
  | none => rfl
  | some cpuRest =>
      simp only [Option.bind_eq_bind, Option.bind_some]
      cases path.after (utf8 "/cache/index") with
      | none => cases parseUint (cpuRest.takeWhile isDigit) <;> rfl
      | some indexRest =>
          simp only [Option.bind_some]
          cases parseUint (cpuRest.takeWhile isDigit) with
          | none => rfl
          | some cpu =>
              simp only [Option.bind_some]
              cases parseUint (indexRest.takeWhile isDigit) <;> rfl

/-! ### The topology files of a CPU -/

/-- The value of a topology file. -/
def topologyValue (file : Bytes) (record : RawEvidence) : Option UInt32 :=
  if record.pathOrCommand.endsWith file then parseUint32 record.payload else none

/-- The path of the record states the number. -/
def OfCpu (n : UInt32) (record : RawEvidence) : Prop :=
  cpuPathNumber record.pathOrCommand = some n.toNat

/-- The path of the record states the number modulo `2 ^ 32`. -/
def FiledUnder (n : UInt32) (record : RawEvidence) : Prop :=
  (cpuPathNumber record.pathOrCommand).map UInt32.ofNat = some n

instance (n : UInt32) : DecidablePred (OfCpu n) := fun _ => inferInstanceAs (Decidable (_ = _))

instance (n : UInt32) : DecidablePred (FiledUnder n) := fun _ => inferInstanceAs (Decidable (_ = _))

/-- The last well-formed value of a topology file among the records that belong to a CPU. -/
def lastTopologyValue (file : Bytes) (mine : RawEvidence → Prop) [DecidablePred mine]
    (records : List RawEvidence) : Option UInt32 :=
  lastWrite (topologyValue file) (records.filter mine)

/-- The package number sysfs reports for a CPU. -/
def packageOf (raw : EvidenceStore) (n : UInt32) : Option UInt32 :=
  lastTopologyValue packageFile (OfCpu n) (raw.successes .sysfsCpu)

/-- The core number sysfs reports for a CPU. -/
def coreOf (raw : EvidenceStore) (n : UInt32) : Option UInt32 :=
  lastTopologyValue coreFile (OfCpu n) (raw.successes .sysfsCpu)

/-- The package number that is filed under the number of a CPU. -/
def filedPackage (raw : EvidenceStore) (n : UInt32) : Option UInt32 :=
  lastTopologyValue packageFile (FiledUnder n) (raw.successes .sysfsCpu)

/-- The core number that is filed under the number of a CPU. -/
def filedCore (raw : EvidenceStore) (n : UInt32) : Option UInt32 :=
  lastTopologyValue coreFile (FiledUnder n) (raw.successes .sysfsCpu)

theorem OfCpu.filedUnder {n : UInt32} {record : RawEvidence} (h : OfCpu n record) :
    FiledUnder n record := by
  rw [FiledUnder, h, Option.map_some, UInt32.ofNat_toNat]

/-! ### The topology map -/

/-- No path is a file of both kinds. -/
theorem not_package_of_core {path : Bytes} (h : path.endsWith coreFile = true) :
    path.endsWith (utf8 "physical_package_id") = false := by
  rw [Bytes.endsWith, List.isSuffixOf_iff_suffix] at h
  rw [Bytes.endsWith, Bool.eq_false_iff, ne_eq, List.isSuffixOf_iff_suffix]
  intro h'
  have := List.suffix_of_suffix_length_le h h' (by decide)
  exact absurd (List.isSuffixOf_iff_suffix.mpr this) (by decide)

theorem package_of_package {path : Bytes} (h : path.endsWith packageFile = true) :
    path.endsWith (utf8 "physical_package_id") = true ∧ path.endsWith coreFile = false := by
  have hsuf : path.endsWith (utf8 "physical_package_id") = true := by
    rw [Bytes.endsWith, List.isSuffixOf_iff_suffix] at h ⊢
    exact (show utf8 "physical_package_id" <:+ packageFile from
      List.isSuffixOf_iff_suffix.mp (by decide)).trans h
  refine ⟨hsuf, ?_⟩
  by_contra hcore
  rw [not_package_of_core (by simpa using hcore)] at hsuf
  cases hsuf

/-- The item of a CPU, if one of its numbers is known. -/
def topologyItem (package core : Option UInt32) : Option Topology :=
  if package.isSome ∨ core.isSome then some { package := package, core := core } else none

theorem topologyItem_getD (package core : Option UInt32) :
    (topologyItem package core).getD {} = { package := package, core := core } := by
  cases package <;> cases core <;> rfl

/-- What one topology file does to the item of a CPU. -/
def writeItem (file : Bytes) (n : UInt32) (record : RawEvidence) (before : Option UInt32) :
    Option UInt32 :=
  if FiledUnder n record then (topologyValue file record).or before else before

/-- One record changes the item of the CPU it is filed under exactly as its value says. -/
theorem getElem?_scanTopology (T : TreeMap UInt32 Topology compare) (r : RawEvidence) (n : UInt32)
    (package core : Option UInt32) (hT : T[n]? = topologyItem package core) :
    (scanTopology T r)[n]? =
      topologyItem (writeItem packageFile n r package) (writeItem coreFile n r core) := by
  have hfiled : FiledUnder n r ↔ extractCpuNumberFromPath r.pathOrCommand = some n := by
    rw [extractCpuNumberFromPath_eq, FiledUnder]
  simp only [writeItem, hfiled]
  by_cases hp : r.pathOrCommand.endsWith packageFile = true
  · obtain ⟨hname, hcore⟩ := package_of_package hp
    simp only [scanTopology, topologyValue, hp, hname, hcore, Bool.not_true, Bool.false_and,
      Bool.false_eq_true, if_false, if_true, Option.none_or, ite_self]
    cases hnum : extractCpuNumberFromPath r.pathOrCommand with
    | none => simpa using hT
    | some m =>
        cases hval : parseUint32 r.payload with
        | none => simpa using hT
        | some v =>
            dsimp only
            rw [getElem?_upsert, hT]
            by_cases hmn : m = n
            · subst hmn
              cases package <;> cases core <;>
                simp [topologyItem, default, instInhabitedTopology.default]
            · simp [hmn]
  · have hp' : r.pathOrCommand.endsWith packageFile = false := by simpa using hp
    by_cases hc : r.pathOrCommand.endsWith coreFile = true
    · simp only [scanTopology, topologyValue, hp', hc, not_package_of_core hc, Bool.not_true,
        Bool.and_false, Bool.false_eq_true, if_false, if_true, Option.none_or, ite_self]
      cases hnum : extractCpuNumberFromPath r.pathOrCommand with
      | none => simpa using hT
      | some m =>
          cases hval : parseUint32 r.payload with
          | none => simpa using hT
          | some v =>
              dsimp only
              rw [getElem?_upsert, hT]
              by_cases hmn : m = n
              · subst hmn
                cases package <;> cases core <;>
                  simp [topologyItem, default, instInhabitedTopology.default]
              · simp [hmn]
    · have hc' : r.pathOrCommand.endsWith coreFile = false := by simpa using hc
      simpa [scanTopology, topologyValue, hp', hc'] using hT

theorem lastTopologyValue_concat (file : Bytes) (records : List RawEvidence) (r : RawEvidence)
    (n : UInt32) : lastTopologyValue file (FiledUnder n) (records ++ [r]) =
      writeItem file n r (lastTopologyValue file (FiledUnder n) records) := by
  rw [lastTopologyValue, List.filter_append, lastTopologyValue, writeItem]
  by_cases hr : FiledUnder n r
  · rw [List.filter_cons_of_pos (by simpa using hr), List.filter_nil, lastWrite_concat, if_pos hr]
  · rw [List.filter_cons_of_neg (by simpa using hr), List.filter_nil, List.append_nil, if_neg hr]

/-- **The topology map** holds the last values of both files that are filed under each CPU. -/
theorem getElem?_sysfsTopology (raw : EvidenceStore) (n : UInt32) :
    (sysfsTopology raw)[n]? = topologyItem (filedPackage raw n) (filedCore raw n) := by
  rw [sysfsTopology, filedPackage, filedCore]
  induction raw.successes .sysfsCpu using List.reverseRecOn with
  | nil => rfl
  | append_singleton records r ih =>
      rw [List.foldl_append, lastTopologyValue_concat, lastTopologyValue_concat]
      exact getElem?_scanTopology _ r n _ _ ih

/-! ### The merge loop -/

/-- The entries of the cpuinfo record that is read. -/
def cpuinfoEntries (raw : EvidenceStore) : List CpuInfoEntry :=
  match (raw.successes .procCpuInfo).head? with
  | some record => (parseCpuinfo record.payload).1
  | none => []

/-- **The merge loop, entry by entry**: the first entry of a processor takes the topology item, every
later one is left as it is. -/
theorem getElem?_overrideEntries (entries : List CpuInfoEntry)
    (T : TreeMap UInt32 Topology compare) (i : ℕ) :
    (overrideEntries T entries).1[i]? = entries[i]?.map fun e =>
      if e.processor ∈ (entries.take i).map (·.processor) then e
      else overrideEntry e (T[e.processor]?.getD {}) := by
  induction entries generalizing T i with
  | nil => simp [overrideEntries]
  | cons e rest ih =>
      -- an item without numbers changes nothing
      have hempty : overrideEntry e {} = e := rfl
      rcases hT : T[e.processor]? with _ | item
      · simp only [overrideEntries, hT]
        cases i with
        | zero => simp [hT, hempty]
        | succ i =>
            rw [List.getElem?_cons_succ, List.getElem?_cons_succ, ih]
            refine Option.map_congr fun f _ => ?_
            have hempty : overrideEntry f {} = f := rfl
            simp only [List.take_succ_cons, List.map_cons, List.mem_cons]
            by_cases hfe : f.processor = e.processor
            · simp [hfe, hT, hempty]
            · simp [hfe]
      · simp only [overrideEntries, hT]
        cases i with
        | zero => simp [hT]
        | succ i =>
            rw [List.getElem?_cons_succ, List.getElem?_cons_succ, ih]
            refine Option.map_congr fun f _ => ?_
            have hempty : overrideEntry f {} = f := rfl
            simp only [List.take_succ_cons, List.map_cons, List.mem_cons, TreeMap.getElem?_erase]
            by_cases hfe : f.processor = e.processor
            · simp [hfe, hempty]
            · simp [hfe, Ne.symm hfe]

/-- The items no entry has taken. -/
theorem getElem?_overrideEntries_snd (entries : List CpuInfoEntry)
    (T : TreeMap UInt32 Topology compare) (n : UInt32) :
    (overrideEntries T entries).2[n]? =
      if n ∈ entries.map (·.processor) then none else T[n]? := by
  induction entries generalizing T with
  | nil => simp [overrideEntries]
  | cons e rest ih =>
      simp only [List.map_cons, List.mem_cons]
      rcases hT : T[e.processor]? with _ | item
      · simp only [overrideEntries, hT, ih]
        by_cases hne : n = e.processor
        · simp [hne, hT]
        · simp [hne]
      · simp only [overrideEntries, hT, ih, TreeMap.getElem?_erase]
        by_cases hne : n = e.processor
        · simp [hne]
        · simp [hne, Ne.symm hne]

theorem length_overrideEntries (entries : List CpuInfoEntry)
    (T : TreeMap UInt32 Topology compare) :
    (overrideEntries T entries).1.length = entries.length := by
  induction entries generalizing T with
  | nil => rfl
  | cons e rest ih =>
      rw [overrideEntries]
      split <;> simp [ih]

/-! ### The CPUs known from sysfs only -/

/-- The entries added behind the cpuinfo entries. -/
def addedEntries (raw : EvidenceStore) (entries : List CpuInfoEntry) : List CpuInfoEntry :=
  (overrideEntries (sysfsTopology raw) entries).2.toList.filterMap offlineEntry

theorem offlineEntry_eq_some {item : UInt32 × Topology} {e : CpuInfoEntry}
    (h : offlineEntry item = some e) :
    e.processor = item.1 ∧ item.2.package = some e.physicalId ∧ item.2.core = some e.coreId ∧
      e.identification = {} := by
  obtain ⟨n, _ | package, _ | core⟩ := item
  · cases h
  · cases h
  · cases h
  · obtain rfl := Option.some.inj h
    exact ⟨rfl, rfl, rfl, rfl⟩

/-- An added entry carries the two numbers that are filed under a CPU without a cpuinfo entry. -/
theorem mem_addedEntries {raw : EvidenceStore} {entries : List CpuInfoEntry} {e : CpuInfoEntry}
    (h : e ∈ addedEntries raw entries) :
    e.processor ∉ entries.map (·.processor) ∧ filedPackage raw e.processor = some e.physicalId ∧
      filedCore raw e.processor = some e.coreId ∧ e.identification = {} := by
  obtain ⟨⟨n, item⟩, hitem, hoff⟩ := List.mem_filterMap.mp h
  obtain ⟨hn, hpackage, hcore, hid⟩ := offlineEntry_eq_some hoff
  rw [TreeMap.mem_toList_iff_getElem?_eq_some, getElem?_overrideEntries_snd] at hitem
  dsimp only at hn hpackage hcore
  subst hn
  split at hitem
  · cases hitem
  · rename_i hout
    rw [getElem?_sysfsTopology] at hitem
    have hget := congrArg (·.getD {}) hitem
    rw [topologyItem_getD, Option.getD_some] at hget
    subst hget
    exact ⟨hout, hpackage, hcore, hid⟩

/-- Every CPU without a cpuinfo entry under which both numbers are filed is added. -/
theorem exists_addedEntry {raw : EvidenceStore} {entries : List CpuInfoEntry} {n p c : UInt32}
    (hn : n ∉ entries.map (·.processor)) (hp : filedPackage raw n = some p)
    (hc : filedCore raw n = some c) : ∃ e ∈ addedEntries raw entries, e.processor = n := by
  refine ⟨_, List.mem_filterMap.mpr ⟨(n, { package := some p, core := some c }), ?_, rfl⟩, rfl⟩
  rw [TreeMap.mem_toList_iff_getElem?_eq_some, getElem?_overrideEntries_snd, if_neg hn,
    getElem?_sysfsTopology, hp, hc]
  rfl

/-- The added CPUs are in order. -/
theorem addedEntries_pairwise (raw : EvidenceStore) (entries : List CpuInfoEntry) :
    (addedEntries raw entries).Pairwise fun a b => compare a.processor b.processor = .lt := by
  refine List.Pairwise.filterMap offlineEntry ?_ TreeMap.ordered_keys_toList
  intro a b hab e he f hf
  rwa [(offlineEntry_eq_some he).1, (offlineEntry_eq_some hf).1]

/-! ### The CPUs of the evidence -/

/-- A CPU of the evidence: the numbers it is filed under, and those that its own evidence resolves to,
the value of sysfs where there is one and that of cpuinfo otherwise. -/
structure EvidenceCpu where
  processor : UInt32
  filedPackage : UInt32
  filedCore : UInt32
  package : Option UInt32
  core : Option UInt32
  deriving DecidableEq

/-- The CPU of a cpuinfo entry.  An entry that repeats the processor of an earlier one is filed under its
cpuinfo numbers. -/
def cpuinfoCpu (raw : EvidenceStore) (earlier : List CpuInfoEntry) (e : CpuInfoEntry) : EvidenceCpu where
  processor := e.processor
  filedPackage :=
    if e.processor ∈ earlier.map (·.processor) then e.physicalId
    else (CpuParser.filedPackage raw e.processor).getD e.physicalId
  filedCore :=
    if e.processor ∈ earlier.map (·.processor) then e.coreId
    else (CpuParser.filedCore raw e.processor).getD e.coreId
  package := some ((packageOf raw e.processor).getD e.physicalId)
  core := some ((coreOf raw e.processor).getD e.coreId)

/-- The CPUs of the cpuinfo entries. -/
def cpuinfoCpus (raw : EvidenceStore) : List EvidenceCpu :=
  (cpuinfoEntries raw).mapIdx fun i e => cpuinfoCpu raw ((cpuinfoEntries raw).take i) e

/-- The CPU of a number that cpuinfo does not list, if both its numbers are filed. -/
def unlistedCpu (raw : EvidenceStore) (n : UInt32) : Option EvidenceCpu :=
  match filedPackage raw n, filedCore raw n with
  | some p, some c =>
      if n ∈ (cpuinfoEntries raw).map (·.processor) then none
      else some { processor := n, filedPackage := p, filedCore := c
                  package := packageOf raw n, core := coreOf raw n }
  | _, _ => none

/-- The numbers modulo `2 ^ 32` of the CPUs with a file, in order. -/
def sysfsCpuNumbers (raw : EvidenceStore) : List UInt32 :=
  sortedSet ((raw.successes .sysfsCpu).filterMap fun record =>
    (cpuPathNumber record.pathOrCommand).map UInt32.ofNat)

/-- The CPUs that only sysfs knows. -/
def addedCpus (raw : EvidenceStore) : List EvidenceCpu :=
  (sysfsCpuNumbers raw).filterMap (unlistedCpu raw)

/-- All CPUs of the evidence. -/
def evidenceCpus (raw : EvidenceStore) : List EvidenceCpu := cpuinfoCpus raw ++ addedCpus raw

theorem unlistedCpu_eq_some {raw : EvidenceStore} {n : UInt32} {x : EvidenceCpu} :
    unlistedCpu raw n = some x ↔ n ∉ (cpuinfoEntries raw).map (·.processor) ∧ x.processor = n ∧
      filedPackage raw n = some x.filedPackage ∧ filedCore raw n = some x.filedCore ∧
        x.package = packageOf raw n ∧ x.core = coreOf raw n := by
  obtain ⟨processor, package, core, ownPackage, ownCore⟩ := x
  rw [unlistedCpu]
  cases hp : filedPackage raw n with
  | none => simp
  | some p =>
      cases hc : filedCore raw n with
      | none => simp
      | some c =>
          dsimp only
          split
          · rename_i hmem
            exact iff_of_false (fun h => by cases h) fun h => h.1 hmem
          · rename_i hmem
            rw [Option.some_inj, EvidenceCpu.mk.injEq, Option.some_inj, Option.some_inj]
            constructor
            · rintro ⟨rfl, rfl, rfl, rfl, rfl⟩
              exact ⟨hmem, rfl, rfl, rfl, rfl, rfl⟩
            · rintro ⟨-, rfl, rfl, rfl, rfl, rfl⟩
              exact ⟨rfl, rfl, rfl, rfl, rfl⟩

/-- A CPU under which something is filed has a file. -/
theorem mem_sysfsCpuNumbers {raw : EvidenceStore} {n p : UInt32} (h : filedPackage raw n = some p) :
    n ∈ sysfsCpuNumbers raw := by
  obtain ⟨record, hrecord, -⟩ := exists_of_lastWrite h
  obtain ⟨hmem, hfiled⟩ := List.mem_filter.mp hrecord
  exact mem_sortedSet.mpr (List.mem_filterMap.mpr ⟨record, hmem, of_decide_eq_true hfiled⟩)

theorem mem_addedCpus {raw : EvidenceStore} {x : EvidenceCpu} :
    x ∈ addedCpus raw ↔ unlistedCpu raw x.processor = some x := by
  rw [addedCpus, List.mem_filterMap]
  constructor
  · rintro ⟨n, -, hx⟩
    rwa [(unlistedCpu_eq_some.mp hx).2.1]
  · intro hx
    exact ⟨x.processor, mem_sysfsCpuNumbers (unlistedCpu_eq_some.mp hx).2.2.1, hx⟩

theorem addedCpus_pairwise (raw : EvidenceStore) :
    (addedCpus raw).Pairwise fun a b => compare a.processor b.processor = .lt := by
  refine List.Pairwise.filterMap (unlistedCpu raw) ?_ (sortedSet_pairwise_lt _)
  intro a b hab x hx y hy
  rwa [(unlistedCpu_eq_some.mp hx).2.1, (unlistedCpu_eq_some.mp hy).2.1]

/-! ### The merged entries -/

/-- The entries the topology is built from: the cpuinfo entries under the numbers of sysfs, and the CPUs
only sysfs knows. -/
def mergedEntries (raw : EvidenceStore) : List CpuInfoEntry :=
  match (raw.successes .procCpuInfo).head? with
  | some record => applySysfsTopology raw (parseCpuinfo record.payload).1
  | none => []

/-- The number of a CPU and the numbers it is filed under. -/
def CpuInfoEntry.filing (e : CpuInfoEntry) : UInt32 × UInt32 × UInt32 :=
  (e.processor, e.physicalId, e.coreId)

def EvidenceCpu.filing (x : EvidenceCpu) : UInt32 × UInt32 × UInt32 :=
  (x.processor, x.filedPackage, x.filedCore)

/-- The merged cpuinfo entries, one by one. -/
theorem getElem?_merged {raw : EvidenceStore} {i : ℕ} {e : CpuInfoEntry}
    (he : (cpuinfoEntries raw)[i]? = some e) :
    ∃ m, (overrideEntries (sysfsTopology raw) (cpuinfoEntries raw)).1[i]? = some m ∧
      m.filing = (cpuinfoCpu raw ((cpuinfoEntries raw).take i) e).filing ∧
        m.identification = e.identification := by
  refine ⟨_, by rw [getElem?_overrideEntries, he, Option.map_some], ?_⟩
  by_cases hrepeated : e.processor ∈ ((cpuinfoEntries raw).take i).map (·.processor)
  · rw [if_pos hrepeated, EvidenceCpu.filing, cpuinfoCpu, if_pos hrepeated, if_pos hrepeated]
    exact ⟨rfl, rfl⟩
  · rw [if_neg hrepeated, getElem?_sysfsTopology, topologyItem_getD, EvidenceCpu.filing, cpuinfoCpu,
      if_neg hrepeated, if_neg hrepeated]
    exact ⟨rfl, rfl⟩

theorem filing_listed (raw : EvidenceStore) :
    (overrideEntries (sysfsTopology raw) (cpuinfoEntries raw)).1.map CpuInfoEntry.filing =
      (cpuinfoCpus raw).map EvidenceCpu.filing := by
  refine List.ext_getElem? fun i => ?_
  rw [cpuinfoCpus, List.getElem?_map, List.getElem?_map, List.getElem?_mapIdx]
  cases he : (cpuinfoEntries raw)[i]? with
  | none =>
      rw [getElem?_overrideEntries, he]
      rfl
  | some e =>
      obtain ⟨m, hm, hfiling, -⟩ := getElem?_merged he
      rw [hm, Option.map_some, hfiling]
      rfl

theorem filing_added (raw : EvidenceStore) :
    (addedEntries raw (cpuinfoEntries raw)).map CpuInfoEntry.filing =
      (addedCpus raw).map EvidenceCpu.filing := by
  refine eq_of_pairwise_compare Prod.fst ?_ ?_ fun filing => ?_
  · rw [List.pairwise_map]
    exact addedEntries_pairwise raw _
  · rw [List.pairwise_map]
    exact addedCpus_pairwise raw
  · simp only [List.mem_map]
    constructor
    · rintro ⟨e, he, rfl⟩
      obtain ⟨hout, hp, hc, -⟩ := mem_addedEntries he
      exact ⟨⟨e.processor, e.physicalId, e.coreId, packageOf raw e.processor, coreOf raw e.processor⟩,
        mem_addedCpus.mpr (unlistedCpu_eq_some.mpr ⟨hout, rfl, hp, hc, rfl, rfl⟩), rfl⟩
    · rintro ⟨x, hx, rfl⟩
      obtain ⟨hout, -, hp, hc, -, -⟩ := unlistedCpu_eq_some.mp (mem_addedCpus.mp hx)
      obtain ⟨e, he, hprocessor⟩ := exists_addedEntry hout hp hc
      obtain ⟨-, hp', hc', -⟩ := mem_addedEntries he
      rw [hprocessor] at hp' hc'
      refine ⟨e, he, ?_⟩
      rw [CpuInfoEntry.filing, EvidenceCpu.filing, hprocessor,
        Option.some.inj (hp'.symm.trans hp), Option.some.inj (hc'.symm.trans hc)]

/-- The merged entries of a store with a cpuinfo record. -/
theorem mergedEntries_eq {raw : EvidenceStore} (h : (raw.successes .procCpuInfo).head?.isSome) :
    mergedEntries raw = (overrideEntries (sysfsTopology raw) (cpuinfoEntries raw)).1 ++
      addedEntries raw (cpuinfoEntries raw) := by
  obtain ⟨record, hrecord⟩ := Option.isSome_iff_exists.mp h
  rw [mergedEntries, cpuinfoEntries, hrecord]
  rfl

/-- **The merged entries are the CPUs of the evidence**, under the numbers they are filed under. -/
theorem filing_mergedEntries {raw : EvidenceStore} (h : (raw.successes .procCpuInfo).head?.isSome) :
    (mergedEntries raw).map CpuInfoEntry.filing = (evidenceCpus raw).map EvidenceCpu.filing := by
  rw [mergedEntries_eq h, evidenceCpus, List.map_append, List.map_append, filing_listed, filing_added]

end Sysal.CpuParser
