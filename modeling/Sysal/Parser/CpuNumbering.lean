import Sysal.Parser.CpuPrecedence

/-!
# The numbering of a parsed CPU

A result does not have the raw package and core numbers of its CPUs, it counts packages and cores in the
order of these.

* `numberingIn_eq`: a result is numbered by the raw numbers that its CPUs are filed under;
* `numberingOf_eq_iff`: two lists of raw numbers give the same numbering exactly when they list the same
  CPUs and order them alike.  The identifiers have 32 bits, which is enough to tell the cores of one
  package apart.
-/

namespace Sysal.CpuParser

open Sysal Std

/-! ### Numberings -/

/-- The numbers of CPUs, cores and packages in a result, and what belongs to what. -/
structure Numbering where
  cpus : List (LogicalCpuId × CpuPackageId × CpuCoreId)
  cores : List (CpuCoreId × CpuPackageId)
  packages : List CpuPackageId
  deriving DecidableEq

/-- A CPU with its raw package and core numbers. -/
abbrev RawCpu := UInt32 × UInt32 × UInt32

/-- The package numbers of some CPUs. -/
def rawPackages (cpus : List RawCpu) : List UInt32 := cpus.map fun t => t.2.1

/-- The package and core numbers of some CPUs. -/
def rawCores (cpus : List RawCpu) : List (UInt32 × UInt32) := cpus.map Prod.snd

/-- The numbering of CPUs with their raw numbers: packages and cores are counted in the order of these. -/
def numberingOf (cpus : List RawCpu) : Numbering where
  cpus := cpus.map fun t =>
    (t.1, UInt32.ofNat (rank (rawPackages cpus) t.2.1), UInt32.ofNat (rank (rawCores cpus) t.2))
  cores := (sortedSet (rawCores cpus)).map fun key =>
    (UInt32.ofNat (rank (rawCores cpus) key), UInt32.ofNat (rank (rawPackages cpus) key.1))
  packages := (sortedSet (rawPackages cpus)).map fun package =>
    UInt32.ofNat (rank (rawPackages cpus) package)

theorem numberingOf_map {ι : Type*} (f : ι → RawCpu) (l : List ι) : numberingOf (l.map f) =
    { cpus := l.map fun x =>
        ((f x).1, UInt32.ofNat (rank (l.map fun x => (f x).2.1) (f x).2.1),
          UInt32.ofNat (rank (l.map fun x => (f x).2) (f x).2))
      cores := (sortedSet (l.map fun x => (f x).2)).map fun key =>
        (UInt32.ofNat (rank (l.map fun x => (f x).2) key),
          UInt32.ofNat (rank (l.map fun x => (f x).2.1) key.1))
      packages := (sortedSet (l.map fun x => (f x).2.1)).map fun package =>
        UInt32.ofNat (rank (l.map fun x => (f x).2.1) package) } := by
  rw [numberingOf, rawPackages, rawCores, List.map_map, List.map_map, List.map_map]
  rfl

/-- Two lists have the same CPUs, and their raw numbers order packages and cores alike. -/
structure OrderedAlike (cpus cpus' : List RawCpu) : Prop where
  processors : cpus.map Prod.fst = cpus'.map Prod.fst
  packages : Alike (cpus.zip cpus') (fun x => x.1.2.1) fun x => x.2.2.1
  cores : Alike (cpus.zip cpus') (fun x => x.1.2) fun x => x.2.2

section Pairs

variable {pairs : List (RawCpu × RawCpu)}

/-- CPUs that are ordered alike have the same numbering. -/
theorem numberingOf_eq_of_alike (hprocessors : ∀ x ∈ pairs, x.1.1 = x.2.1)
    (hpackages : Alike pairs (fun x => x.1.2.1) fun x => x.2.2.1)
    (hcores : Alike pairs (fun x => x.1.2) fun x => x.2.2) :
    numberingOf (pairs.map Prod.fst) = numberingOf (pairs.map Prod.snd) := by
  rw [numberingOf_map, numberingOf_map, Numbering.mk.injEq]
  refine ⟨?_, ?_, ?_⟩
  · refine List.map_congr_left fun x hx => ?_
    rw [hprocessors x hx, rank_eq_of_alike hpackages hx, rank_eq_of_alike hcores hx]
  · obtain ⟨ranked, hmem, hleft, hright⟩ := exists_ranked hcores
    rw [← hleft, ← hright, List.map_map, List.map_map]
    refine List.map_congr_left fun x hx => ?_
    rw [Function.comp_apply, Function.comp_apply, rank_eq_of_alike hcores (hmem x hx),
      rank_eq_of_alike hpackages (hmem x hx)]
  · obtain ⟨ranked, hmem, hleft, hright⟩ := exists_ranked hpackages
    rw [← hleft, ← hright, List.map_map, List.map_map]
    refine List.map_congr_left fun x hx => ?_
    rw [Function.comp_apply, Function.comp_apply, rank_eq_of_alike hpackages (hmem x hx)]

section Equal

variable (h : numberingOf (pairs.map Prod.fst) = numberingOf (pairs.map Prod.snd))
include h

theorem packageRank_eq {x : RawCpu × RawCpu} (hx : x ∈ pairs) :
    rank (pairs.map fun x => x.1.2.1) x.1.2.1 = rank (pairs.map fun x => x.2.2.1) x.2.2.1 := by
  rw [numberingOf_map, numberingOf_map, Numbering.mk.injEq] at h
  have hcpu := List.map_inj_left.mp h.1 x hx
  simp only [Prod.mk.injEq] at hcpu
  rw [← toNat_rank32 (List.mem_map_of_mem hx), hcpu.2.1, toNat_rank32 (List.mem_map_of_mem hx)]

/-- The core at a position belongs to a package of the same rank in both orders. -/
theorem exists_coreKey {j : ℕ} {key' : UInt32 × UInt32}
    (hkey' : (sortedSet (pairs.map fun x => x.2.2))[j]? = some key') :
    ∃ key, (sortedSet (pairs.map fun x => x.1.2))[j]? = some key ∧
      rank (pairs.map fun x => x.1.2.1) key.1 = rank (pairs.map fun x => x.2.2.1) key'.1 := by
  rw [numberingOf_map, numberingOf_map, Numbering.mk.injEq] at h
  have hget := congrArg (·[j]?) h.2.1
  simp only [List.getElem?_map, hkey', Option.map_some, Option.map_eq_some_iff, Prod.mk.injEq] at hget
  obtain ⟨key, hkey, -, hrank⟩ := hget
  obtain ⟨x, hx, rfl⟩ := List.mem_map.mp (mem_sortedSet.mp (List.mem_of_getElem? hkey))
  obtain ⟨y, hy, rfl⟩ := List.mem_map.mp (mem_sortedSet.mp (List.mem_of_getElem? hkey'))
  refine ⟨x.1.2, hkey, ?_⟩
  rw [← toNat_rank32 (List.mem_map.mpr ⟨x, hx, rfl⟩), hrank,
    toNat_rank32 (List.mem_map.mpr ⟨y, hy, rfl⟩)]

/-- The ranks of cores are the same, since 32 bits tell the cores of one package apart. -/
theorem coreRank_eq {x : RawCpu × RawCpu} (hx : x ∈ pairs) :
    rank (pairs.map fun x => x.1.2) x.1.2 = rank (pairs.map fun x => x.2.2) x.2.2 := by
  have hmem := List.mem_map_of_mem (f := fun x : RawCpu × RawCpu => x.1.2) hx
  have hmem' := List.mem_map_of_mem (f := fun x : RawCpu × RawCpu => x.2.2) hx
  obtain ⟨key, hkey, hpackage⟩ := exists_coreKey h (getElem?_rank hmem')
  have hsame : x.1.2.1 = key.1 := by
    rw [← packageRank_eq h hx] at hpackage
    exact (rank_inj (List.mem_map.mpr ⟨x, hx, rfl⟩)).mp hpackage.symm
  refine rank_eq_of_ofNat_eq hmem hkey hsame ?_
  rw [numberingOf_map, numberingOf_map, Numbering.mk.injEq] at h
  have hcpu := List.map_inj_left.mp h.1 x hx
  simp only [Prod.mk.injEq] at hcpu
  exact hcpu.2.2

end Equal

end Pairs

theorem fst_eq_of_mem_zip {cpus cpus' : List RawCpu} (h : cpus.map Prod.fst = cpus'.map Prod.fst)
    {x : RawCpu × RawCpu} (hx : x ∈ cpus.zip cpus') : x.1.1 = x.2.1 := by
  obtain ⟨i, hi⟩ := List.mem_iff_getElem?.mp hx
  obtain ⟨hleft, hright⟩ := List.getElem?_zip_eq_some.mp hi
  have hget := congrArg (·[i]?) h
  rw [List.getElem?_map, List.getElem?_map, hleft, hright] at hget
  exact Option.some.inj hget

/-- **Equal numberings** are those of CPUs that are ordered alike. -/
theorem numberingOf_eq_iff {cpus cpus' : List RawCpu} :
    numberingOf cpus = numberingOf cpus' ↔ OrderedAlike cpus cpus' := by
  have hzip : cpus.length = cpus'.length →
      (cpus.zip cpus').map Prod.fst = cpus ∧ (cpus.zip cpus').map Prod.snd = cpus' :=
    fun h => ⟨List.map_fst_zip (Nat.le_of_eq h), List.map_snd_zip (Nat.le_of_eq h.symm)⟩
  constructor
  · intro h
    have hprocessors : cpus.map Prod.fst = cpus'.map Prod.fst := by
      have hcpus := congrArg (fun numbering => numbering.cpus.map Prod.fst) h
      rw [numberingOf, numberingOf, List.map_map, List.map_map] at hcpus
      exact hcpus
    have hlength : cpus.length = cpus'.length := by simpa using congrArg List.length hprocessors
    have hpairs : numberingOf ((cpus.zip cpus').map Prod.fst) =
        numberingOf ((cpus.zip cpus').map Prod.snd) := by
      rw [(hzip hlength).1, (hzip hlength).2, h]
    exact ⟨hprocessors, alike_of_rank_eq fun x hx => packageRank_eq hpairs hx,
      alike_of_rank_eq fun x hx => coreRank_eq hpairs hx⟩
  · intro h
    have hlength : cpus.length = cpus'.length := by simpa using congrArg List.length h.processors
    have hpairs := numberingOf_eq_of_alike (fun x hx => fst_eq_of_mem_zip h.processors hx) h.packages
      h.cores
    rwa [(hzip hlength).1, (hzip hlength).2] at hpairs

/-- Raw numbers order themselves alike. -/
theorem OrderedAlike.refl (cpus : List RawCpu) : OrderedAlike cpus cpus :=
  numberingOf_eq_iff.mp rfl

end Sysal.CpuParser
