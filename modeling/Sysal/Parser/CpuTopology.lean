import Mathlib.Algebra.BigOperators.Group.Finset.Basic
import Mathlib.Algebra.BigOperators.Group.Finset.Piecewise
import Sysal.Foundation.FixedWidth
import Sysal.Foundation.Ranks
import Sysal.Parser.CpuEvidence

/-!
# The topology of a parsed CPU

The raw package and core numbers are arbitrary 32-bit numbers; the parser replaces each by its
position in the ordered list of distinct keys, and counts members in 32 bits.

* `dense_buildTopology`: as long as the counters do not wrap, identifiers are `0 .. n-1`, links point to
  existing objects, and the counts are the sizes of what they count;
* `Topology.Dense.of_same`: the later stages, which fill frequencies, NUMA nodes and online flags, keep
  all of it;
* `parseCpu_topology_iff`: a result is grouped by the numbers that the evidence of its CPUs resolves to
  exactly when the numbers they are filed under group them alike.

The merge loop erases the topology item of a processor when its first entry has used it, and files are
filed under 32 bits of the number in their path; `repeatedStore` shows the first.
-/

namespace Sysal.CpuParser

open Sysal Std

/-! ### Sums of counts -/

/-- Counting by a bounded key and adding the counts up counts everything. -/
theorem sum_countP_range {α : Type*} (l : List α) (f : α → ℕ) (n : ℕ) (h : ∀ x ∈ l, f x < n) :
    ((List.range n).map fun i => l.countP fun x => f x = i).sum = l.length := by
  have hsum : ((List.range n).map fun i => l.countP fun x => f x = i).sum =
      ∑ i ∈ Finset.range n, l.countP fun x => f x = i := rfl
  rw [hsum]
  induction l with
  | nil => simp
  | cons x l ih =>
      have hx : f x ∈ Finset.range n := Finset.mem_range.mpr (h x List.mem_cons_self)
      simp only [List.countP_cons, Finset.sum_add_distrib, List.length_cons, decide_eq_true_eq]
      rw [ih (fun y hy => h y (List.mem_cons_of_mem _ hy)) rfl, Finset.sum_ite_eq, if_pos hx]

theorem map_snd_zipIdx {α : Type*} (l : List α) : l.zipIdx.map Prod.snd = List.range l.length := by
  rw [List.zipIdx_map_snd, List.range_eq_range']

theorem toNat_countOf {α : Type} {p : α → Bool} {l : List α} (h : l.countP p < 2 ^ 32) :
    (countOf p l).toNat = l.countP p :=
  UInt32.toNat_ofNat_of_lt' h

/-- A result comes from the merged entries, of which there is at least one. -/
theorem parseCpu_some {raw : EvidenceStore} {cpu : Cpu} (h : (parseCpu raw).1 = some cpu) :
    (raw.successes .procCpuInfo).head?.isSome ∧ cpu = (buildCpu raw (mergedEntries raw)).1 := by
  rw [parseCpu] at h
  rw [mergedEntries]
  split at h
  · cases h
  · rename_i record hrecord
    rw [hrecord]
    dsimp only at h ⊢
    split at h
    · cases h
    · exact ⟨rfl, (Option.some.inj h).symm⟩

/-! ### The statement -/

/-- The consistency of packages, cores and logical CPUs with each other. -/
structure Topology.Dense (cpu : Cpu) : Prop where
  /-- Package identifiers are `0 .. n-1` in list order. -/
  packageIds : cpu.packages.map (·.id.toNat) = List.range cpu.packages.length
  /-- Core identifiers are `0 .. m-1` in list order. -/
  coreIds : cpu.cores.map (·.id.toNat) = List.range cpu.cores.length
  /-- Every core belongs to an existing package. -/
  corePackage : ∀ core ∈ cpu.cores, ∃ pkg ∈ cpu.packages, pkg.id = core.packageId
  /-- Every logical CPU belongs to an existing core of its own package, and to an existing package. -/
  logicalCore : ∀ lc ∈ cpu.logicalCpus,
    (∃ core ∈ cpu.cores, core.id = lc.coreId ∧ core.packageId = lc.packageId) ∧
      ∃ pkg ∈ cpu.packages, pkg.id = lc.packageId
  /-- The counts of a core. -/
  coreCounts : ∀ core ∈ cpu.cores,
    core.logicalThreads.toNat = cpu.logicalCpus.countP (·.coreId = core.id) ∧
      0 < core.logicalThreads.toNat
  /-- The counts of a package. -/
  packageCounts : ∀ pkg ∈ cpu.packages,
    pkg.logicalThreads.toNat = cpu.logicalCpus.countP (·.packageId = pkg.id) ∧
      pkg.physicalCores.toNat = cpu.cores.countP (·.packageId = pkg.id) ∧
        0 < pkg.logicalThreads.toNat
  /-- The packages account for all logical CPUs and all cores. -/
  totals : (cpu.packages.map (·.logicalThreads.toNat)).sum = cpu.logicalCpus.length ∧
    (cpu.packages.map (·.physicalCores.toNat)).sum = cpu.cores.length

/-- Both numbers exist and are equal. -/
def SameNumber (a b : Option UInt32) : Prop := a.isSome ∧ a = b

instance (a b : Option UInt32) : Decidable (SameNumber a b) := inferInstanceAs (Decidable (_ ∧ _))

theorem SameNumber.comm {a b : Option UInt32} : SameNumber a b ↔ SameNumber b a := by
  constructor
  · rintro ⟨h, rfl⟩
    exact ⟨h, rfl⟩
  · rintro ⟨h, rfl⟩
    exact ⟨h, rfl⟩

/-- Two CPUs of the evidence have the same package number, resolved from their own evidence. -/
def EvidenceCpu.SamePackage (x y : EvidenceCpu) : Prop := SameNumber x.package y.package

/-- The same for package and core number. -/
def EvidenceCpu.SameCore (x y : EvidenceCpu) : Prop :=
  SameNumber x.package y.package ∧ SameNumber x.core y.core

instance (x y : EvidenceCpu) : Decidable (x.SamePackage y) := inferInstanceAs (Decidable (SameNumber _ _))

instance (x y : EvidenceCpu) : Decidable (x.SameCore y) := inferInstanceAs (Decidable (_ ∧ _))

/-- The integrity of the topology: it is consistent, its logical CPUs are those of the evidence, and two of
them share a package exactly for equal resolved package numbers, and a core exactly for equal resolved
package and core numbers. -/
structure Topology.Integrity (raw : EvidenceStore) (cpu : Cpu) : Prop extends
    Topology.Dense cpu where
  logicalIds : cpu.logicalCpus.map (·.id) = (evidenceCpus raw).map (·.processor)
  grouped : ∀ (i j : ℕ) (a b : LogicalCpu) (x y : EvidenceCpu), i ≠ j →
    cpu.logicalCpus[i]? = some a → (evidenceCpus raw)[i]? = some x →
    cpu.logicalCpus[j]? = some b → (evidenceCpus raw)[j]? = some y →
    (a.packageId = b.packageId ↔ x.SamePackage y) ∧ (a.coreId = b.coreId ↔ x.SameCore y)

/-- The package and the core number a CPU is filed under. -/
def EvidenceCpu.filedKey (x : EvidenceCpu) : UInt32 × UInt32 := (x.filedPackage, x.filedCore)

/-- The numbers that two CPUs are filed under group them like the numbers they resolve to. -/
def EvidenceCpu.FiledAlike (x y : EvidenceCpu) : Prop :=
  (x.filedPackage = y.filedPackage ↔ x.SamePackage y) ∧ (x.filedKey = y.filedKey ↔ x.SameCore y)

instance (x y : EvidenceCpu) : Decidable (x.FiledAlike y) := inferInstanceAs (Decidable (_ ∧ _))

/-- No repeated entry and no number beyond 32 bits changes the grouping, and the 32-bit counters suffice. -/
structure TopologySettled (raw : EvidenceStore) : Prop where
  grouped : (evidenceCpus raw).Pairwise EvidenceCpu.FiledAlike
  cores : ((evidenceCpus raw).map EvidenceCpu.filedKey).dedup.length ≤ 2 ^ 32
  threads : ∀ x ∈ evidenceCpus raw,
    (evidenceCpus raw).countP (·.filedPackage = x.filedPackage) < 2 ^ 32

/-! ### Packages and cores by key -/

variable (entries : List CpuInfoEntry)

theorem packageIds_nodup : (packageIds entries).Nodup := sortedSet_nodup _

theorem coreKeys_nodup : (coreKeys entries).Nodup := sortedSet_nodup _

/-- There are no more packages than numbers of 32 bits. -/
theorem length_packageIds_le : (packageIds entries).length ≤ 2 ^ 32 :=
  length_sortedSet32_le _

/-- The identifier of a package number. -/
def packageNumber (p : UInt32) : CpuPackageId := .ofNat ((packageIds entries).idxOf p)

/-- The identifier of a package and core number. -/
def coreNumber (key : UInt32 × UInt32) : CpuCoreId := .ofNat ((coreKeys entries).idxOf key)

variable {entries}

theorem physicalId_mem {e : CpuInfoEntry} (he : e ∈ entries) : e.physicalId ∈ packageIds entries :=
  mem_sortedSet.mpr (List.mem_map_of_mem he)

theorem coreKey_mem {e : CpuInfoEntry} (he : e ∈ entries) : e.coreKey ∈ coreKeys entries :=
  mem_sortedSet.mpr (List.mem_map_of_mem he)

theorem exists_of_mem_packageIds {p : UInt32} (h : p ∈ packageIds entries) :
    ∃ e ∈ entries, e.physicalId = p :=
  List.mem_map.mp (mem_sortedSet.mp h)

theorem exists_of_mem_coreKeys {k : UInt32 × UInt32} (h : k ∈ coreKeys entries) :
    ∃ e ∈ entries, e.coreKey = k :=
  List.mem_map.mp (mem_sortedSet.mp h)

theorem toNat_packageNumber {p : UInt32} (hp : p ∈ packageIds entries) :
    (packageNumber entries p).toNat = (packageIds entries).idxOf p :=
  UInt32.toNat_ofNat_of_lt'
    ((List.idxOf_lt_length_iff.mpr hp).trans_le (length_packageIds_le entries))

theorem packageNumber_inj {p q : UInt32} (hp : p ∈ packageIds entries) (hq : q ∈ packageIds entries) :
    packageNumber entries p = packageNumber entries q ↔ p = q := by
  rw [← UInt32.toNat_inj, toNat_packageNumber hp, toNat_packageNumber hq, List.idxOf_inj hp]

theorem toNat_coreNumber (hcores : (coreKeys entries).length ≤ 2 ^ 32) {k : UInt32 × UInt32}
    (hk : k ∈ coreKeys entries) : (coreNumber entries k).toNat = (coreKeys entries).idxOf k :=
  UInt32.toNat_ofNat_of_lt' ((List.idxOf_lt_length_iff.mpr hk).trans_le hcores)

theorem coreNumber_inj (hcores : (coreKeys entries).length ≤ 2 ^ 32) {k k' : UInt32 × UInt32}
    (hk : k ∈ coreKeys entries) (hk' : k' ∈ coreKeys entries) :
    coreNumber entries k = coreNumber entries k' ↔ k = k' := by
  rw [← UInt32.toNat_inj, toNat_coreNumber hcores hk, toNat_coreNumber hcores hk', List.idxOf_inj hk]

/-- The logical CPU of an entry. -/
def logicalOf (entries : List CpuInfoEntry) (e : CpuInfoEntry) : LogicalCpu :=
  { id := e.processor
    coreId := coreNumber entries e.coreKey
    packageId := packageNumber entries e.physicalId
    visibleToCurrentProcess := some true
    identification := e.identification }

theorem idxOf?_of_mem {α : Type*} [BEq α] [LawfulBEq α] {l : List α} {a : α} (h : a ∈ l) :
    l.idxOf? a = some (l.idxOf a) := by
  obtain ⟨i, hi⟩ := Option.isSome_iff_exists.mp (List.isSome_idxOf?.mpr h)
  rw [List.idxOf_eq_getD_idxOf?, hi]
  rfl

theorem buildLogicalCpu_of_mem {e : CpuInfoEntry} (he : e ∈ entries) :
    buildLogicalCpu entries e = .ok (logicalOf entries e) := by
  rw [buildLogicalCpu, idxOf?_of_mem (coreKey_mem he), idxOf?_of_mem (physicalId_mem he)]
  rfl

/-- Every entry gives its logical CPU; the warnings about missing numbers are never issued. -/
theorem buildLogicalCpus_eq (entries : List CpuInfoEntry) :
    buildLogicalCpus entries = (entries.map (logicalOf entries), []) := by
  rw [buildLogicalCpus, Prod.mk.injEq]
  constructor
  · rw [← List.filterMap_eq_map]
    refine List.filterMap_congr fun e he => ?_
    rw [buildLogicalCpu_of_mem he]
    rfl
  · refine List.filterMap_eq_nil_iff.mpr fun e he => ?_
    rw [buildLogicalCpu_of_mem he]

/-- A list without repetitions by the positions of its elements. -/
theorem map_idxOf {α : Type*} [BEq α] [LawfulBEq α] {l : List α} (h : l.Nodup) :
    l.map l.idxOf = List.range l.length := by
  refine List.ext_getElem (by simp) fun i hi _ => ?_
  rw [List.getElem_map, List.getElem_range, h.idxOf_getElem]

theorem buildPackages_ids (entries : List CpuInfoEntry) :
    (buildPackages entries).map (·.id) = (packageIds entries).map (packageNumber entries) := by
  have hids : (packageIds entries).map (packageNumber entries) =
      ((packageIds entries).map (packageIds entries).idxOf).map UInt32.ofNat := by
    rw [List.map_map]
    rfl
  rw [hids, map_idxOf (packageIds_nodup entries), buildPackages, ← map_snd_zipIdx, List.map_map,
    List.map_map]
  refine List.map_congr_left fun p _ => ?_
  simp only [Function.comp_apply]
  split <;> rfl

theorem buildCores_keys (entries : List CpuInfoEntry) :
    (buildCores entries).map (fun core => (core.id, core.packageId)) =
      (coreKeys entries).map fun k => (coreNumber entries k, packageNumber entries k.1) := by
  rw [buildCores, List.map_map]
  refine List.ext_getElem (by simp) fun i hi hi' => ?_
  simp only [List.getElem_map, List.getElem_zipIdx, Function.comp_apply, Nat.zero_add, coreNumber]
  rw [(coreKeys_nodup entries).idxOf_getElem]
  rfl

/-! ### The topology -/

theorem buildTopology_logicalCpus (entries : List CpuInfoEntry) :
    (buildTopology entries).logicalCpus = entries.map (logicalOf entries) := by
  rw [buildTopology, buildLogicalCpus_eq]
  rfl

theorem buildTopology_packageIds (entries : List CpuInfoEntry) :
    (buildTopology entries).packages.map (·.id) =
      (packageIds entries).map (packageNumber entries) := by
  rw [← buildPackages_ids]
  simp only [buildTopology, countMembers, List.map_map]
  rfl

theorem buildTopology_coreKeys (entries : List CpuInfoEntry) :
    (buildTopology entries).cores.map (fun core => (core.id, core.packageId)) =
      (coreKeys entries).map fun k => (coreNumber entries k, packageNumber entries k.1) := by
  rw [← buildCores_keys]
  simp only [buildTopology, countMembers, List.map_map]
  rfl

theorem exists_package {p : UInt32} (hp : p ∈ packageIds entries) :
    ∃ pkg ∈ (buildTopology entries).packages, pkg.id = packageNumber entries p := by
  have hmem := List.mem_map_of_mem (f := packageNumber entries) hp
  rwa [← buildTopology_packageIds, List.mem_map] at hmem

/-- A package of the topology and the number it stands for. -/
theorem mem_packages {pkg : CpuPackage} (hpkg : pkg ∈ (buildTopology entries).packages) :
    ∃ p ∈ packageIds entries, packageNumber entries p = pkg.id := by
  have hmem := List.mem_map_of_mem (f := (·.id)) hpkg
  rwa [buildTopology_packageIds, List.mem_map] at hmem

theorem exists_core {k : UInt32 × UInt32} (hk : k ∈ coreKeys entries) :
    ∃ core ∈ (buildTopology entries).cores,
      core.id = coreNumber entries k ∧ core.packageId = packageNumber entries k.1 := by
  have hmem := List.mem_map_of_mem
    (f := fun k => (coreNumber entries k, packageNumber entries k.1)) hk
  rw [← buildTopology_coreKeys, List.mem_map] at hmem
  obtain ⟨core, hcore, heq⟩ := hmem
  exact ⟨core, hcore, congrArg Prod.fst heq, congrArg Prod.snd heq⟩

/-- A core of the topology and the key it stands for. -/
theorem mem_cores {core : CpuCore} (hcore : core ∈ (buildTopology entries).cores) :
    ∃ k ∈ coreKeys entries,
      core.id = coreNumber entries k ∧ core.packageId = packageNumber entries k.1 := by
  have hmem := List.mem_map_of_mem (f := fun core : CpuCore => (core.id, core.packageId)) hcore
  rw [buildTopology_coreKeys, List.mem_map] at hmem
  obtain ⟨k, hk, heq⟩ := hmem
  exact ⟨k, hk, (congrArg Prod.fst heq).symm, (congrArg Prod.snd heq).symm⟩

/-- The logical CPUs of a package are the entries with its number. -/
theorem countP_packageId {p : UInt32} (hp : p ∈ packageIds entries) :
    (buildTopology entries).logicalCpus.countP (·.packageId = packageNumber entries p) =
      entries.countP (·.physicalId = p) := by
  rw [buildTopology_logicalCpus, List.countP_map]
  refine List.countP_congr fun e he => ?_
  simp [logicalOf, packageNumber_inj (physicalId_mem he) hp]

/-- The logical CPUs of a core are the entries with its key. -/
theorem countP_coreId (hcores : (coreKeys entries).length ≤ 2 ^ 32) {k : UInt32 × UInt32}
    (hk : k ∈ coreKeys entries) :
    (buildTopology entries).logicalCpus.countP (·.coreId = coreNumber entries k) =
      entries.countP (·.coreKey = k) := by
  rw [buildTopology_logicalCpus, List.countP_map]
  refine List.countP_congr fun e he => ?_
  simp [logicalOf, coreNumber_inj hcores (coreKey_mem he) hk]

/-- The cores of a package are the keys with its number, each of which some entry has. -/
theorem countP_cores_le {p : UInt32} (hp : p ∈ packageIds entries) :
    (buildTopology entries).cores.countP (·.packageId = packageNumber entries p) ≤
      entries.countP (·.physicalId = p) := by
  have hkeys : (buildTopology entries).cores.countP (·.packageId = packageNumber entries p) =
      ((coreKeys entries).filter (·.1 = p)).length := by
    have hmap := congrArg (List.countP fun t => decide (t.2 = packageNumber entries p))
      (buildTopology_coreKeys entries)
    rw [List.countP_map, List.countP_map] at hmap
    rw [← List.countP_eq_length_filter]
    refine hmap.trans (List.countP_congr fun k hk => ?_)
    obtain ⟨e, he, rfl⟩ := exists_of_mem_coreKeys hk
    simp [packageNumber_inj (show e.coreKey.1 ∈ _ from physicalId_mem he) hp]
  have hsub : (coreKeys entries).filter (·.1 = p) ⊆
      (entries.filter (·.physicalId = p)).map CpuInfoEntry.coreKey := by
    intro k hk
    obtain ⟨hmem, hfst⟩ := List.mem_filter.mp hk
    obtain ⟨e, he, rfl⟩ := exists_of_mem_coreKeys hmem
    exact List.mem_map_of_mem (List.mem_filter.mpr ⟨he, hfst⟩)
  rw [hkeys, List.countP_eq_length_filter]
  simpa using (((coreKeys_nodup entries).filter _).subperm hsub).length_le

theorem logicalThreads_of_mem_cores {core : CpuCore}
    (hcore : core ∈ (buildTopology entries).cores) :
    core.logicalThreads =
      countOf (·.coreId = core.id) (buildTopology entries).logicalCpus := by
  obtain ⟨core', -, rfl⟩ := List.mem_map.mp hcore
  rfl

/-- The package counts are the counts over the finished cores and logical CPUs. -/
theorem counts_of_mem_packages {pkg : CpuPackage}
    (hpkg : pkg ∈ (buildTopology entries).packages) :
    pkg.logicalThreads =
        countOf (·.packageId = pkg.id) (buildTopology entries).logicalCpus ∧
      pkg.physicalCores = countOf (·.packageId = pkg.id) (buildTopology entries).cores := by
  obtain ⟨pkg', -, rfl⟩ := List.mem_map.mp hpkg
  refine ⟨rfl, ?_⟩
  simp only [buildTopology, countMembers, countOf, List.countP_map]
  rfl

/-- The two counters of 32 bits that can wrap do not. -/
structure Topology.Countable (entries : List CpuInfoEntry) : Prop where
  cores : (coreKeys entries).length ≤ 2 ^ 32
  threads : ∀ e ∈ entries, entries.countP (·.physicalId = e.physicalId) < 2 ^ 32

theorem Topology.Countable.package (h : Topology.Countable entries) {p : UInt32}
    (hp : p ∈ packageIds entries) : entries.countP (·.physicalId = p) < 2 ^ 32 := by
  obtain ⟨e, he, rfl⟩ := exists_of_mem_packageIds hp
  exact h.threads e he

theorem Topology.Countable.core (h : Topology.Countable entries) {k : UInt32 × UInt32}
    (hk : k ∈ coreKeys entries) : entries.countP (·.coreKey = k) < 2 ^ 32 := by
  obtain ⟨e, he, rfl⟩ := exists_of_mem_coreKeys hk
  refine (List.countP_mono_left fun f _ hf => ?_).trans_lt (h.threads e he)
  exact decide_eq_true (congrArg Prod.fst (of_decide_eq_true hf))

/-- The identifiers of the packages are their positions. -/
theorem toNat_packageIds (entries : List CpuInfoEntry) :
    (buildTopology entries).packages.map (·.id.toNat) = List.range (packageIds entries).length := by
  have hids := congrArg (List.map UInt32.toNat) (buildTopology_packageIds entries)
  rw [List.map_map, List.map_map] at hids
  rw [← map_idxOf (packageIds_nodup entries)]
  exact hids.trans (List.map_congr_left fun p hp => toNat_packageNumber hp)

theorem toNat_coreIds (hcores : (coreKeys entries).length ≤ 2 ^ 32) :
    (buildTopology entries).cores.map (·.id.toNat) = List.range (coreKeys entries).length := by
  have hids := congrArg (List.map fun t => t.1.toNat) (buildTopology_coreKeys entries)
  rw [List.map_map, List.map_map] at hids
  rw [← map_idxOf (coreKeys_nodup entries)]
  exact hids.trans (List.map_congr_left fun k hk => toNat_coreNumber hcores hk)

theorem length_cores (entries : List CpuInfoEntry) :
    (buildTopology entries).cores.length = (coreKeys entries).length := by
  simpa using congrArg List.length (buildTopology_coreKeys entries)

theorem length_packages (entries : List CpuInfoEntry) :
    (buildTopology entries).packages.length = (packageIds entries).length := by
  simpa using congrArg List.length (buildTopology_packageIds entries)

/-- Counting by package and adding the counts of the packages up counts everything. -/
theorem sum_packages {α : Type} (l : List α) (package : α → CpuPackageId)
    (h : ∀ x ∈ l, ∃ p ∈ packageIds entries, package x = packageNumber entries p) :
    ((buildTopology entries).packages.map fun pkg => l.countP (package · = pkg.id)).sum =
      l.length := by
  have hcount : (buildTopology entries).packages.map (fun pkg => l.countP (package · = pkg.id)) =
      (List.range (packageIds entries).length).map fun i =>
        l.countP fun x => (package x).toNat = i := by
    rw [← toNat_packageIds, List.map_map]
    refine List.map_congr_left fun pkg _ => List.countP_congr fun x _ => ?_
    simp only [decide_eq_true_eq, UInt32.toNat_inj]
  rw [hcount]
  refine sum_countP_range l (fun x => (package x).toNat) _ fun x hx => ?_
  obtain ⟨p, hp, heq⟩ := h x hx
  rw [heq, toNat_packageNumber hp]
  exact List.idxOf_lt_length_iff.mpr hp

/-- **The topology built from any entries is consistent**, as long as they can be counted. -/
theorem dense_buildTopology (h : Topology.Countable entries) :
    Topology.Dense (buildTopology entries) := by
  have hthreads : ∀ pkg ∈ (buildTopology entries).packages,
      pkg.logicalThreads.toNat =
        (buildTopology entries).logicalCpus.countP (·.packageId = pkg.id) := by
    intro pkg hpkg
    obtain ⟨p, hp, heq⟩ := mem_packages hpkg
    rw [(counts_of_mem_packages hpkg).1, toNat_countOf]
    rw [← heq, countP_packageId hp]
    exact h.package hp
  have hcores : ∀ pkg ∈ (buildTopology entries).packages,
      pkg.physicalCores.toNat = (buildTopology entries).cores.countP (·.packageId = pkg.id) := by
    intro pkg hpkg
    obtain ⟨p, hp, heq⟩ := mem_packages hpkg
    rw [(counts_of_mem_packages hpkg).2, toNat_countOf]
    rw [← heq]
    exact (countP_cores_le hp).trans_lt (h.package hp)
  constructor
  · rw [toNat_packageIds, length_packages]
  · rw [toNat_coreIds h.cores, length_cores]
  · intro core hcore
    obtain ⟨k, hk, -, hpkg⟩ := mem_cores hcore
    obtain ⟨e, he, rfl⟩ := exists_of_mem_coreKeys hk
    rw [hpkg]
    exact exists_package (physicalId_mem he)
  · intro lc hlc
    rw [buildTopology_logicalCpus] at hlc
    obtain ⟨e, he, rfl⟩ := List.mem_map.mp hlc
    exact ⟨exists_core (coreKey_mem he), exists_package (physicalId_mem he)⟩
  · intro core hcore
    obtain ⟨k, hk, hid, -⟩ := mem_cores hcore
    obtain ⟨e, he, hkey⟩ := exists_of_mem_coreKeys hk
    have hcount := countP_coreId h.cores hk
    rw [logicalThreads_of_mem_cores hcore, hid, toNat_countOf (hcount ▸ h.core hk), hcount]
    exact ⟨rfl, List.countP_pos_iff.mpr ⟨e, he, decide_eq_true hkey⟩⟩
  · intro pkg hpkg
    obtain ⟨p, hp, heq⟩ := mem_packages hpkg
    obtain ⟨e, he, hphysical⟩ := exists_of_mem_packageIds hp
    refine ⟨hthreads pkg hpkg, hcores pkg hpkg, ?_⟩
    rw [hthreads pkg hpkg, ← heq, countP_packageId hp]
    exact List.countP_pos_iff.mpr ⟨e, he, decide_eq_true hphysical⟩
  · rw [List.map_congr_left hthreads, List.map_congr_left hcores]
    constructor
    · refine sum_packages _ LogicalCpu.packageId fun lc hlc => ?_
      rw [buildTopology_logicalCpus] at hlc
      obtain ⟨e, he, rfl⟩ := List.mem_map.mp hlc
      exact ⟨e.physicalId, physicalId_mem he, rfl⟩
    · refine sum_packages _ CpuCore.packageId fun core hcore => ?_
      obtain ⟨k, hk, -, hpkg⟩ := mem_cores hcore
      obtain ⟨e, he, rfl⟩ := exists_of_mem_coreKeys hk
      exact ⟨e.physicalId, physicalId_mem he, hpkg⟩

/-! ### The later stages -/

/-- The topology part of a CPU: identifiers, links and counts. -/
structure SameTopology (cpu cpu' : Cpu) : Prop where
  packages : cpu'.packages.map (fun p => (p.id, p.physicalCores, p.logicalThreads)) =
    cpu.packages.map fun p => (p.id, p.physicalCores, p.logicalThreads)
  cores : cpu'.cores.map (fun c => (c.id, c.packageId, c.logicalThreads)) =
    cpu.cores.map fun c => (c.id, c.packageId, c.logicalThreads)
  logicalCpus : cpu'.logicalCpus.map (fun l => (l.id, l.coreId, l.packageId, l.identification)) =
    cpu.logicalCpus.map fun l => (l.id, l.coreId, l.packageId, l.identification)

theorem SameTopology.trans {a b c : Cpu} (h : SameTopology a b) (h' : SameTopology b c) :
    SameTopology a c where
  packages := h'.packages.trans h.packages
  cores := h'.cores.trans h.cores
  logicalCpus := h'.logicalCpus.trans h.logicalCpus

/-- A projection that factors through the compared part of two lists agrees on them. -/
theorem map_eq_of_map_eq {α β γ : Type*} {f : α → β} {l l' : List α} (h : l'.map f = l.map f)
    (g : β → γ) : l'.map (fun a => g (f a)) = l.map fun a => g (f a) := by
  have := congrArg (List.map g) h
  rwa [List.map_map, List.map_map] at this

theorem exists_of_map_eq {α β : Type*} {f : α → β} {l l' : List α} (h : l'.map f = l.map f) {a : α}
    (ha : a ∈ l') : ∃ b ∈ l, f b = f a := by
  have := List.mem_map_of_mem (f := f) ha
  rw [h] at this
  exact List.mem_map.mp this

theorem countP_of_map_eq {α β : Type*} {f : α → β} {l l' : List α} (h : l'.map f = l.map f)
    (p : β → Bool) : l'.countP (fun a => p (f a)) = l.countP fun a => p (f a) := by
  have := congrArg (List.countP p) h
  rwa [List.countP_map, List.countP_map] at this

/-- Consistency depends on the topology part only. -/
theorem Topology.Dense.of_same {cpu cpu' : Cpu} (h : Topology.Dense cpu)
    (hs : SameTopology cpu cpu') : Topology.Dense cpu' := by
  have hpackages := congrArg List.length hs.packages
  have hcores := congrArg List.length hs.cores
  have hlogical := congrArg List.length hs.logicalCpus
  rw [List.length_map, List.length_map] at hpackages hcores hlogical
  constructor
  · rw [map_eq_of_map_eq hs.packages fun t => t.1.toNat, hpackages]
    exact h.packageIds
  · rw [map_eq_of_map_eq hs.cores fun t => t.1.toNat, hcores]
    exact h.coreIds
  · intro core hcore
    obtain ⟨core₀, hcore₀, heq⟩ := exists_of_map_eq hs.cores hcore
    obtain ⟨pkg₀, hpkg₀, hid⟩ := h.corePackage core₀ hcore₀
    obtain ⟨pkg, hpkg, heq'⟩ := exists_of_map_eq hs.packages.symm hpkg₀
    simp only [Prod.mk.injEq] at heq heq'
    exact ⟨pkg, hpkg, by rw [heq'.1, hid, heq.2.1]⟩
  · intro lc hlc
    obtain ⟨lc₀, hlc₀, heq⟩ := exists_of_map_eq hs.logicalCpus hlc
    obtain ⟨⟨core₀, hcore₀, hcid, hcpkg⟩, pkg₀, hpkg₀, hpid⟩ := h.logicalCore lc₀ hlc₀
    obtain ⟨core, hcore, heqc⟩ := exists_of_map_eq hs.cores.symm hcore₀
    obtain ⟨pkg, hpkg, heqp⟩ := exists_of_map_eq hs.packages.symm hpkg₀
    simp only [Prod.mk.injEq] at heq heqc heqp
    refine ⟨⟨core, hcore, ?_, ?_⟩, pkg, hpkg, ?_⟩
    · rw [heqc.1, hcid, heq.2.1]
    · rw [heqc.2.1, hcpkg, heq.2.2.1]
    · rw [heqp.1, hpid, heq.2.2.1]
  · intro core hcore
    obtain ⟨core₀, hcore₀, heq⟩ := exists_of_map_eq hs.cores hcore
    obtain ⟨hcount, hpos⟩ := h.coreCounts core₀ hcore₀
    simp only [Prod.mk.injEq] at heq
    rw [← heq.2.2, ← heq.1]
    refine ⟨hcount.trans ?_, hpos⟩
    exact (countP_of_map_eq hs.logicalCpus fun t => decide (t.2.1 = core₀.id)).symm
  · intro pkg hpkg
    obtain ⟨pkg₀, hpkg₀, heq⟩ := exists_of_map_eq hs.packages hpkg
    obtain ⟨hthreads, hcount, hpos⟩ := h.packageCounts pkg₀ hpkg₀
    simp only [Prod.mk.injEq] at heq
    rw [← heq.2.2, ← heq.2.1, ← heq.1]
    refine ⟨hthreads.trans ?_, hcount.trans ?_, hpos⟩
    · exact (countP_of_map_eq hs.logicalCpus fun t => decide (t.2.2.1 = pkg₀.id)).symm
    · exact (countP_of_map_eq hs.cores fun t => decide (t.2.1 = pkg₀.id)).symm
  · rw [map_eq_of_map_eq hs.packages fun t => t.2.2.toNat,
      map_eq_of_map_eq hs.packages fun t => t.2.1.toNat, hlogical, hcores]
    exact h.totals

theorem sameTopology_withFrequencies (raw : EvidenceStore) (entries : List CpuInfoEntry)
    (cpu : Cpu) : SameTopology cpu (withFrequencies raw entries cpu) where
  packages := by simp only [withFrequencies, List.map_map]; rfl
  cores := rfl
  logicalCpus := rfl

theorem sameTopology_withNuma (m : TreeMap UInt32 UInt32 compare) (cpu : Cpu) :
    SameTopology cpu (withNuma m cpu) where
  packages := rfl
  cores := by
    simp only [withNuma, List.map_map]
    refine List.map_congr_left fun core _ => ?_
    simp only [Function.comp_apply]
    split
    · split <;> rfl
    · rfl
  logicalCpus := by
    simp only [withNuma, List.map_map]
    refine List.map_congr_left fun lc _ => ?_
    simp only [Function.comp_apply]
    split <;> rfl

/-- One record of the detail scan leaves packages, cores, logical CPUs and NUMA nodes alone. -/
theorem scanDetail_topology (modern : Bool) (s : CpuDetails.DetailScan) (record : RawEvidence) :
    (CpuDetails.scanDetail modern s record).cpu.packages = s.cpu.packages ∧
      (CpuDetails.scanDetail modern s record).cpu.cores = s.cpu.cores ∧
      (CpuDetails.scanDetail modern s record).cpu.logicalCpus = s.cpu.logicalCpus ∧
      (CpuDetails.scanDetail modern s record).cpu.numaNodes = s.cpu.numaNodes := by
  rw [CpuDetails.scanDetail]
  split
  · dsimp only
    split <;> exact ⟨rfl, rfl, rfl, rfl⟩
  · split
    · exact ⟨rfl, rfl, rfl, rfl⟩
    · split
      · split
        · dsimp only
          split <;> exact ⟨rfl, rfl, rfl, rfl⟩
        · exact ⟨rfl, rfl, rfl, rfl⟩
      · split
        · dsimp only
          split <;> exact ⟨rfl, rfl, rfl, rfl⟩
        · split <;> exact ⟨rfl, rfl, rfl, rfl⟩

theorem foldl_scanDetail_topology (modern : Bool) (records : List RawEvidence)
    (s : CpuDetails.DetailScan) :
    (records.foldl (CpuDetails.scanDetail modern) s).cpu.packages = s.cpu.packages ∧
      (records.foldl (CpuDetails.scanDetail modern) s).cpu.cores = s.cpu.cores ∧
      (records.foldl (CpuDetails.scanDetail modern) s).cpu.logicalCpus = s.cpu.logicalCpus ∧
      (records.foldl (CpuDetails.scanDetail modern) s).cpu.numaNodes = s.cpu.numaNodes := by
  induction records generalizing s with
  | nil => exact ⟨rfl, rfl, rfl, rfl⟩
  | cons record records ih =>
      rw [List.foldl_cons]
      obtain ⟨hp, hc, hl, hn⟩ := ih (CpuDetails.scanDetail modern s record)
      obtain ⟨hp', hc', hl', hn'⟩ := scanDetail_topology modern s record
      exact ⟨hp.trans hp', hc.trans hc', hl.trans hl', hn.trans hn'⟩

theorem onlineState_topology (ids : Option (List LogicalCpuId))
    (reported : TreeMap UInt32 Bool compare) (lc : LogicalCpu) :
    CpuDetails.onlineState ids reported lc =
      { lc with online := (CpuDetails.onlineState ids reported lc).online } := by
  simp only [CpuDetails.onlineState]
  split <;> split <;> rfl

theorem sameTopology_readCpuDetails (raw : EvidenceStore) (cpu : Cpu) :
    SameTopology cpu (CpuDetails.readCpuDetails raw cpu).1 := by
  obtain ⟨hp, hc, hl, -⟩ := foldl_scanDetail_topology
    ((raw.successes .sysfsCpu).any fun r => r.pathOrCommand.startsWith CpuDetails.policyPrefix)
    (raw.successes .sysfsCpu) { cpu := cpu }
  constructor
  · simp only [CpuDetails.readCpuDetails, hp]
  · simp only [CpuDetails.readCpuDetails, hc]
  · simp only [CpuDetails.readCpuDetails, hl, List.map_map]
    refine List.map_congr_left fun lc _ => ?_
    rw [Function.comp_apply, onlineState_topology]

theorem sameTopology_buildCpu (raw : EvidenceStore) (entries : List CpuInfoEntry) :
    SameTopology (buildTopology entries) (buildCpu raw entries).1 := by
  refine ((sameTopology_withFrequencies raw entries _).trans
    (sameTopology_withNuma (buildNumaMapping raw) _)).trans ?_
  obtain ⟨hp, hc, hl⟩ := sameTopology_readCpuDetails raw
    (withNuma (buildNumaMapping raw) (withFrequencies raw entries (buildTopology entries)))
  exact ⟨hp, hc, hl⟩

/-! ### The parse result -/

/-- The topology part of the logical CPUs of a result. -/
theorem logicalCpus_of_parseCpu {raw : EvidenceStore} {cpu : Cpu}
    (h : (parseCpu raw).1 = some cpu) :
    cpu.logicalCpus.map (fun l => (l.id, l.coreId, l.packageId, l.identification)) =
      (mergedEntries raw).map fun e =>
        (e.processor, coreNumber (mergedEntries raw) e.coreKey,
          packageNumber (mergedEntries raw) e.physicalId, e.identification) := by
  rw [(parseCpu_some h).2, (sameTopology_buildCpu raw _).logicalCpus, buildTopology_logicalCpus,
    List.map_map]
  rfl

/-- The CPU of the evidence in the place of a merged entry. -/
theorem getElem?_evidenceCpus {raw : EvidenceStore} {cpu : Cpu} (h : (parseCpu raw).1 = some cpu)
    {i : ℕ} {x : EvidenceCpu} (hx : (evidenceCpus raw)[i]? = some x) :
    ∃ e, (mergedEntries raw)[i]? = some e ∧ e.filing = x.filing := by
  have hget := congrArg (fun l => l[i]?) (filing_mergedEntries (parseCpu_some h).1)
  simp only [List.getElem?_map, hx, Option.map_some] at hget
  exact Option.map_eq_some_iff.mp hget

/-- The logical CPU in the place of a CPU of the evidence. -/
theorem exists_logical {raw : EvidenceStore} {cpu : Cpu} (h : (parseCpu raw).1 = some cpu) {i : ℕ}
    {x : EvidenceCpu} (hx : (evidenceCpus raw)[i]? = some x) :
    ∃ lc, cpu.logicalCpus[i]? = some lc ∧ lc.id = x.processor ∧
      lc.packageId = packageNumber (mergedEntries raw) x.filedPackage ∧
        lc.coreId = coreNumber (mergedEntries raw) x.filedKey := by
  obtain ⟨e, he, hfiling⟩ := getElem?_evidenceCpus h hx
  have hget := congrArg (fun l => l[i]?) (logicalCpus_of_parseCpu h)
  simp only [List.getElem?_map, he, Option.map_some] at hget
  obtain ⟨lc, hlc, heq⟩ := Option.map_eq_some_iff.mp hget
  simp only [Prod.mk.injEq, CpuInfoEntry.filing, EvidenceCpu.filing] at heq hfiling
  refine ⟨lc, hlc, heq.1.trans hfiling.1, ?_, ?_⟩
  · rw [heq.2.2.1, hfiling.2.1]
  · rw [heq.2.1, EvidenceCpu.filedKey, CpuInfoEntry.coreKey, hfiling.2.1, hfiling.2.2]

theorem filedPackage_mem {raw : EvidenceStore} {cpu : Cpu} (h : (parseCpu raw).1 = some cpu)
    {x : EvidenceCpu} (hx : x ∈ evidenceCpus raw) :
    x.filedPackage ∈ packageIds (mergedEntries raw) ∧
      x.filedKey ∈ coreKeys (mergedEntries raw) := by
  obtain ⟨i, hi⟩ := List.mem_iff_getElem?.mp hx
  obtain ⟨e, he, hfiling⟩ := getElem?_evidenceCpus h hi
  simp only [CpuInfoEntry.filing, EvidenceCpu.filing, Prod.mk.injEq] at hfiling
  have hmem := List.mem_of_getElem? he
  rw [← hfiling.2.1, EvidenceCpu.filedKey, ← hfiling.2.1, ← hfiling.2.2]
  exact ⟨physicalId_mem hmem, coreKey_mem hmem⟩

/-- The keys of the merged entries are those the CPUs of the evidence are filed under. -/
theorem length_coreKeys {raw : EvidenceStore} {cpu : Cpu} (h : (parseCpu raw).1 = some cpu) :
    (coreKeys (mergedEntries raw)).length =
      ((evidenceCpus raw).map EvidenceCpu.filedKey).dedup.length := by
  have hkeys : (mergedEntries raw).map CpuInfoEntry.coreKey =
      (evidenceCpus raw).map EvidenceCpu.filedKey := by
    have hfiling := congrArg (List.map Prod.snd) (filing_mergedEntries (parseCpu_some h).1)
    rwa [List.map_map, List.map_map] at hfiling
  rw [coreKeys, hkeys]
  refine ((List.perm_ext_iff_of_nodup (sortedSet_nodup _) (List.nodup_dedup _)).mpr
    fun k => ?_).length_eq
  rw [mem_sortedSet, List.mem_dedup]

theorem countP_physicalId {raw : EvidenceStore} {cpu : Cpu} (h : (parseCpu raw).1 = some cpu)
    (p : UInt32) : (mergedEntries raw).countP (·.physicalId = p) =
      (evidenceCpus raw).countP (·.filedPackage = p) := by
  have hfiling := congrArg (List.countP fun t => decide (t.2.1 = p))
    (filing_mergedEntries (parseCpu_some h).1)
  rwa [List.countP_map, List.countP_map] at hfiling

/-- The counters suffice for the merged entries exactly if they do for the CPUs of the evidence. -/
theorem TopologySettled.countable {raw : EvidenceStore} {cpu : Cpu} (h : (parseCpu raw).1 = some cpu)
    (hs : TopologySettled raw) : Topology.Countable (mergedEntries raw) := by
  refine ⟨(length_coreKeys h).trans_le hs.cores, fun e he => ?_⟩
  have hfiling := List.mem_map_of_mem (f := CpuInfoEntry.filing) he
  rw [filing_mergedEntries (parseCpu_some h).1] at hfiling
  obtain ⟨x, hx, heq⟩ := List.mem_map.mp hfiling
  simp only [CpuInfoEntry.filing, EvidenceCpu.filing, Prod.mk.injEq] at heq
  rw [countP_physicalId h, ← heq.2.1]
  exact hs.threads x hx

theorem EvidenceCpu.FiledAlike.symm {x y : EvidenceCpu} (h : x.FiledAlike y) : y.FiledAlike x := by
  obtain ⟨hpackage, hcore⟩ := h
  refine ⟨eq_comm.trans (hpackage.trans SameNumber.comm), eq_comm.trans (hcore.trans ?_)⟩
  exact and_congr SameNumber.comm SameNumber.comm

/-- Two places of the evidence are grouped as the numbers they are filed under. -/
theorem grouped_iff {raw : EvidenceStore} {cpu : Cpu} (h : (parseCpu raw).1 = some cpu)
    (hcores : (coreKeys (mergedEntries raw)).length ≤ 2 ^ 32) {i j : ℕ} {a b : LogicalCpu}
    {x y : EvidenceCpu} (ha : cpu.logicalCpus[i]? = some a) (hx : (evidenceCpus raw)[i]? = some x)
    (hb : cpu.logicalCpus[j]? = some b) (hy : (evidenceCpus raw)[j]? = some y) :
    (a.packageId = b.packageId ↔ x.filedPackage = y.filedPackage) ∧
      (a.coreId = b.coreId ↔ x.filedKey = y.filedKey) := by
  obtain ⟨a', ha', -, hapackage, hacore⟩ := exists_logical h hx
  obtain ⟨b', hb', -, hbpackage, hbcore⟩ := exists_logical h hy
  obtain rfl := Option.some.inj (ha.symm.trans ha')
  obtain rfl := Option.some.inj (hb.symm.trans hb')
  obtain ⟨hxpackage, hxcore⟩ := filedPackage_mem h (List.mem_of_getElem? hx)
  obtain ⟨hypackage, hycore⟩ := filedPackage_mem h (List.mem_of_getElem? hy)
  rw [hapackage, hbpackage, hacore, hbcore]
  exact ⟨packageNumber_inj hxpackage hypackage, coreNumber_inj hcores hxcore hycore⟩

/-- The cores of a consistent result can be numbered. -/
theorem Topology.Dense.length_cores_le {cpu : Cpu} (h : Topology.Dense cpu) :
    cpu.cores.length ≤ 2 ^ 32 := by
  by_contra hlarge
  have hmem : 2 ^ 32 ∈ cpu.cores.map (·.id.toNat) := by
    rw [h.coreIds, List.mem_range]
    omega
  obtain ⟨core, -, hid⟩ := List.mem_map.mp hmem
  have hlt := core.id.toNat_lt
  omega

theorem settled_of_integrity {raw : EvidenceStore} {cpu : Cpu} (h : (parseCpu raw).1 = some cpu)
    (hi : Topology.Integrity raw cpu) : TopologySettled raw := by
  have hsame := sameTopology_buildCpu raw (mergedEntries raw)
  rw [← (parseCpu_some h).2] at hsame
  have hcores : (coreKeys (mergedEntries raw)).length ≤ 2 ^ 32 := by
    have hlength := congrArg List.length hsame.cores
    rw [List.length_map, List.length_map, length_cores] at hlength
    exact hlength ▸ hi.toDense.length_cores_le
  refine ⟨?_, (length_coreKeys h).symm.trans_le hcores, fun x hx => ?_⟩
  · rw [List.pairwise_iff_getElem]
    intro i j hi' hj' hlt
    obtain ⟨a, ha, -⟩ := exists_logical h (List.getElem?_eq_getElem hi')
    obtain ⟨b, hb, -⟩ := exists_logical h (List.getElem?_eq_getElem hj')
    obtain ⟨hpackage, hcore⟩ := hi.grouped i j a b _ _ hlt.ne ha (List.getElem?_eq_getElem hi') hb
      (List.getElem?_eq_getElem hj')
    obtain ⟨hpackage', hcore'⟩ := grouped_iff h hcores ha (List.getElem?_eq_getElem hi') hb
      (List.getElem?_eq_getElem hj')
    exact ⟨hpackage'.symm.trans hpackage, hcore'.symm.trans hcore⟩
  · obtain ⟨i, hx'⟩ := List.mem_iff_getElem?.mp hx
    obtain ⟨lc, hlc, -, hpackage, -⟩ := exists_logical h hx'
    obtain ⟨-, pkg, hpkg, hid⟩ := hi.logicalCore lc (List.mem_of_getElem? hlc)
    have hcount := (hi.packageCounts pkg hpkg).1
    have hsum : cpu.logicalCpus.countP (·.packageId = pkg.id) =
        (buildTopology (mergedEntries raw)).logicalCpus.countP (·.packageId = pkg.id) :=
      countP_of_map_eq hsame.logicalCpus fun t => decide (t.2.2.1 = pkg.id)
    rw [hsum, hid, hpackage, countP_packageId (filedPackage_mem h hx).1, countP_physicalId h] at hcount
    rw [← hcount]
    exact pkg.logicalThreads.toNat_lt

/-- **Topology integrity, exactly.**  Whatever the records say, a CPU that `parse_cpu` returns is
consistent and grouped by the resolved numbers if and only if repeated entries and numbers beyond 32 bits
do not change the grouping and the counters suffice. -/
theorem parseCpu_topology_iff (raw : EvidenceStore) (cpu : Cpu) (h : (parseCpu raw).1 = some cpu) :
    Topology.Integrity raw cpu ↔ TopologySettled raw := by
  refine ⟨settled_of_integrity h, fun hs => ?_⟩
  have hsame := sameTopology_buildCpu raw (mergedEntries raw)
  rw [← (parseCpu_some h).2] at hsame
  have hcount := hs.countable h
  refine { toDense := (dense_buildTopology hcount).of_same hsame, logicalIds := ?_, grouped := ?_ }
  · have hids := congrArg (List.map Prod.fst) (logicalCpus_of_parseCpu h)
    have hfiling := congrArg (List.map Prod.fst) (filing_mergedEntries (parseCpu_some h).1)
    rw [List.map_map, List.map_map] at hids hfiling
    exact hids.trans hfiling
  · intro i j a b x y hne ha hx hb hy
    obtain ⟨hpackage, hcore⟩ := grouped_iff h hcount.cores ha hx hb hy
    have halike : x.FiledAlike y := by
      obtain ⟨hi, rfl⟩ := List.getElem?_eq_some_iff.mp hx
      obtain ⟨hj, rfl⟩ := List.getElem?_eq_some_iff.mp hy
      have hpairs := List.pairwise_iff_getElem.mp hs.grouped
      rcases Nat.lt_or_gt_of_ne hne with hlt | hgt
      · exact hpairs i j hi hj hlt
      · exact EvidenceCpu.FiledAlike.symm (hpairs j i hj hi hgt)
    exact ⟨hpackage.trans halike.1, hcore.trans halike.2⟩

/-- Two threads of one core under sparse raw numbers. -/
def sparseStore : EvidenceStore :=
  { records := [{
      source := .procCpuInfo
      pathOrCommand := utf8 "/proc/cpuinfo"
      payload := utf8 "processor: 4\nphysical id: 70\ncore id: 9\n\nprocessor: 6\nphysical id: 70\ncore id: 9\n"
      status := .success }] }

theorem parseCpu_topology_iff_sparse :
    Topology.Integrity sparseStore ((parseCpu sparseStore).1.get (by decide)) :=
  (parseCpu_topology_iff sparseStore _ (Option.some_get _).symm).mpr
    ⟨by decide +kernel, by decide +kernel, by decide +kernel⟩

/-- Processor 0 listed twice by cpuinfo in package 1 and core 1; sysfs puts it into package 0. -/
def repeatedStore : EvidenceStore :=
  { records := [
      { source := .procCpuInfo
        pathOrCommand := utf8 "/proc/cpuinfo"
        payload := utf8 "processor: 0\nphysical id: 1\ncore id: 1\n\nprocessor: 0\nphysical id: 1\ncore id: 1\n"
        status := .success },
      { source := .sysfsCpu
        pathOrCommand := utf8 "/sys/devices/system/cpu/cpu0/topology/physical_package_id"
        payload := utf8 "0\n"
        status := .success }] }

/-- Both entries of processor 0 resolve to package 0, and are in different packages. -/
theorem repeatedStore_not_integrity :
    (evidenceCpus repeatedStore).map (·.package) = [some 0, some 0] ∧
      ((parseCpu repeatedStore).1.get (by decide)).logicalCpus.map (·.packageId) = [0, 1] ∧
        ¬Topology.Integrity repeatedStore ((parseCpu repeatedStore).1.get (by decide)) := by
  refine ⟨by decide +kernel, by decide +kernel, fun hi => ?_⟩
  have hsettled := settled_of_integrity (Option.some_get _).symm hi
  exact absurd hsettled.grouped (by decide +kernel)

end Sysal.CpuParser
