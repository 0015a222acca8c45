import Sysal.Parser.CpuTopology

/-!
# Sysfs numbers take precedence over `/proc/cpuinfo`

The documentation says that a valid sysfs topology number overrides the number `/proc/cpuinfo` gives,
and that a CPU known from sysfs only is added when both its numbers are known.  `SysfsPrecedence` states
the rule for a parse result, with the numbers that the files of the CPU itself report last.

The merge loop erases the topology item of a processor when its first entry has used it, so a second
entry of the same processor keeps its cpuinfo numbers; and files are filed under 32 bits of the number in
their path.  `parseCpu_precedence_iff` says exactly when neither shows.
-/

namespace Sysal.CpuParser

open Sysal Std

/-! ### The rule -/

/-- A logical CPU is grouped by the raw package number `p` and the raw core number `c`: of all numbers of
the parse, `p` alone stands for its package, and `p` with `c` alone for its core. -/
def GroupedBy (raw : EvidenceStore) (lc : LogicalCpu) (p c : UInt32) : Prop :=
  (∀ q ∈ packageIds (mergedEntries raw),
      packageNumber (mergedEntries raw) q = lc.packageId ↔ q = p) ∧
    ∀ key ∈ coreKeys (mergedEntries raw), coreNumber (mergedEntries raw) key = lc.coreId ↔ key = (p, c)

/-- The package and the core number of sysfs for a CPU, when both are known. -/
def sysfsKey (raw : EvidenceStore) (n : UInt32) : Option (UInt32 × UInt32) :=
  (packageOf raw n).bind fun p => (coreOf raw n).map (p, ·)

/-- The precedence rule for a parse result. -/
structure SysfsPrecedence (raw : EvidenceStore) (cpu : Cpu) : Prop where
  /-- Every cpuinfo entry is a logical CPU, grouped by the sysfs numbers where they exist and by its
  cpuinfo numbers otherwise. -/
  listed : ∀ (i : ℕ) (e : CpuInfoEntry), (cpuinfoEntries raw)[i]? = some e →
    ∃ lc, cpu.logicalCpus[i]? = some lc ∧ lc.id = e.processor ∧
      lc.identification = e.identification ∧
      GroupedBy raw lc ((packageOf raw e.processor).getD e.physicalId)
        ((coreOf raw e.processor).getD e.coreId)
  /-- The logical CPUs behind them are, once each, the CPUs without an entry for which sysfs reports
  both numbers. -/
  added : ((cpu.logicalCpus.drop (cpuinfoEntries raw).length).map (·.id)).Nodup ∧
    ∀ n, n ∈ (cpu.logicalCpus.drop (cpuinfoEntries raw).length).map (·.id) ↔
      n ∉ (cpuinfoEntries raw).map (·.processor) ∧ (sysfsKey raw n).isSome
  /-- They are grouped by these numbers and nothing is known about them. -/
  unidentified : ∀ lc ∈ cpu.logicalCpus.drop (cpuinfoEntries raw).length,
    lc.identification = {} ∧ ∀ key ∈ sysfsKey raw lc.id, GroupedBy raw lc key.1 key.2

/-- The numbers a CPU is filed under are those its own evidence resolves to. -/
def EvidenceCpu.Settled (x : EvidenceCpu) : Prop :=
  x.package = some x.filedPackage ∧ x.core = some x.filedCore

instance (x : EvidenceCpu) : Decidable x.Settled := inferInstanceAs (Decidable (_ ∧ _))

/-- When the rule holds.  For a cpuinfo entry the numbers it is filed under are its own: those filed under
its processor for the first entry of the processor, its cpuinfo numbers for a later one.  For any other
CPU the numbers filed under it, if both are, are its own. -/
structure PrecedenceSettled (raw : EvidenceStore) : Prop where
  listed : ∀ x ∈ cpuinfoCpus raw, x.Settled
  added : ∀ x ∈ addedCpus raw, x.Settled
  /-- The identifiers of the cores fit. -/
  cores : ((evidenceCpus raw).map EvidenceCpu.filedKey).dedup.length ≤ 2 ^ 32

/-! ### Filed numbers -/

theorem sysfsKey_eq_some {raw : EvidenceStore} {n p c : UInt32} :
    sysfsKey raw n = some (p, c) ↔ packageOf raw n = some p ∧ coreOf raw n = some c := by
  rw [sysfsKey]
  cases packageOf raw n <;> cases coreOf raw n <;> simp

/-- What the files of a CPU report is filed under it, though something else may be filed after it. -/
theorem lastTopologyValue_isSome {file : Bytes} {n : UInt32} {records : List RawEvidence}
    (h : (lastTopologyValue file (OfCpu n) records).isSome) :
    (lastTopologyValue file (FiledUnder n) records).isSome := by
  obtain ⟨v, hv⟩ := Option.isSome_iff_exists.mp h
  obtain ⟨record, hrecord, hvalue⟩ := exists_of_lastWrite hv
  obtain ⟨hmem, hown⟩ := List.mem_filter.mp hrecord
  rw [← Option.ne_none_iff_isSome]
  intro hnone
  have hquiet := lastWrite_eq_none.mp hnone record
    (List.mem_filter.mpr ⟨hmem, decide_eq_true (OfCpu.filedUnder (of_decide_eq_true hown))⟩)
  rw [hvalue] at hquiet
  cases hquiet

/-- A CPU without a cpuinfo entry whose own files report both numbers is added. -/
theorem exists_addedCpu {raw : EvidenceStore} {n : UInt32}
    (hn : n ∉ (cpuinfoEntries raw).map (·.processor)) (h : (sysfsKey raw n).isSome) :
    ∃ x ∈ addedCpus raw, x.processor = n := by
  obtain ⟨⟨p, c⟩, hkey⟩ := Option.isSome_iff_exists.mp h
  obtain ⟨hp, hc⟩ := sysfsKey_eq_some.mp hkey
  obtain ⟨p', hp'⟩ := Option.isSome_iff_exists.mp
    (lastTopologyValue_isSome (n := n) (Option.isSome_iff_exists.mpr ⟨p, hp⟩))
  obtain ⟨c', hc'⟩ := Option.isSome_iff_exists.mp
    (lastTopologyValue_isSome (n := n) (Option.isSome_iff_exists.mpr ⟨c, hc⟩))
  exact ⟨⟨n, p', c', packageOf raw n, coreOf raw n⟩,
    mem_addedCpus.mpr (unlistedCpu_eq_some.mpr ⟨hn, rfl, hp', hc', rfl, rfl⟩), rfl⟩

/-- An added CPU with its own numbers. -/
theorem settled_iff_sysfsKey {raw : EvidenceStore} {x : EvidenceCpu} (hx : x ∈ addedCpus raw) :
    x.Settled ↔ sysfsKey raw x.processor = some x.filedKey := by
  obtain ⟨-, -, -, -, hpackage, hcore⟩ := unlistedCpu_eq_some.mp (mem_addedCpus.mp hx)
  rw [EvidenceCpu.Settled, hpackage, hcore, EvidenceCpu.filedKey, sysfsKey_eq_some]

theorem length_cpuinfoCpus (raw : EvidenceStore) :
    (cpuinfoCpus raw).length = (cpuinfoEntries raw).length := by
  rw [cpuinfoCpus, List.length_mapIdx]

/-! ### Logical CPUs by key -/

/-- A logical CPU is grouped by the numbers it is filed under, if no other core has its identifier, and by
no others. -/
theorem groupedBy_iff {raw : EvidenceStore} {cpu : Cpu} (h : (parseCpu raw).1 = some cpu) {i : ℕ}
    {x : EvidenceCpu} (hx : (evidenceCpus raw)[i]? = some x) {lc : LogicalCpu}
    (hlc : cpu.logicalCpus[i]? = some lc) {p c : UInt32} :
    GroupedBy raw lc p c ↔ x.filedKey = (p, c) ∧ ∀ key ∈ coreKeys (mergedEntries raw),
      coreNumber (mergedEntries raw) key = coreNumber (mergedEntries raw) x.filedKey →
        key = x.filedKey := by
  obtain ⟨lc', hlc', -, hpackage, hcore⟩ := exists_logical h hx
  obtain rfl := Option.some.inj (hlc.symm.trans hlc')
  obtain ⟨hpmem, hkmem⟩ := filedPackage_mem h (List.mem_of_getElem? hx)
  rw [GroupedBy, hpackage, hcore]
  constructor
  · rintro ⟨-, hcores⟩
    have hown := (hcores _ hkmem).mp rfl
    rw [hown] at hcores ⊢
    exact ⟨rfl, fun key hkey heq => (hcores key hkey).mp heq⟩
  · rintro ⟨hown, hcores⟩
    refine ⟨fun q hq => ?_, fun key hkey => ?_⟩
    · rw [packageNumber_inj hq hpmem, ← show x.filedPackage = p from congrArg Prod.fst hown]
    · rw [← hown]
      exact ⟨hcores key hkey, fun heq => by rw [heq]⟩

/-- The identifiers of the cores are distinct exactly if there are enough of them. -/
theorem coreNumbers_distinct_iff (entries : List CpuInfoEntry) :
    (∀ k ∈ coreKeys entries, ∀ key ∈ coreKeys entries,
        coreNumber entries key = coreNumber entries k → key = k) ↔
      (coreKeys entries).length ≤ 2 ^ 32 := by
  constructor
  · intro hinj
    have hnodup : ((coreKeys entries).map fun k => (coreNumber entries k).toNat).Nodup :=
      (coreKeys_nodup entries).map_on fun k hk k' hk' heq =>
        hinj k' hk' k hk (UInt32.toNat_inj.mp heq)
    have hsub : ((coreKeys entries).map fun k => (coreNumber entries k).toNat) ⊆
        List.range (2 ^ 32) := by
      intro n hn
      obtain ⟨k, -, rfl⟩ := List.mem_map.mp hn
      exact List.mem_range.mpr (coreNumber entries k).toNat_lt
    simpa using (hnodup.subperm hsub).length_le
  · intro hlength k hk key hkey heq
    exact (coreNumber_inj hlength hkey hk).mp heq

/-- The logical CPU of a cpuinfo entry, in its place. -/
theorem exists_logical_cpuinfo {raw : EvidenceStore} {cpu : Cpu} (h : (parseCpu raw).1 = some cpu)
    {i : ℕ} {e : CpuInfoEntry} (he : (cpuinfoEntries raw)[i]? = some e) :
    (evidenceCpus raw)[i]? = some (cpuinfoCpu raw ((cpuinfoEntries raw).take i) e) ∧
      ∃ lc, cpu.logicalCpus[i]? = some lc ∧ lc.id = e.processor ∧
        lc.identification = e.identification := by
  have hi := (List.getElem?_eq_some_iff.mp he).1
  constructor
  · rw [evidenceCpus, List.getElem?_append_left (by rwa [length_cpuinfoCpus]), cpuinfoCpus,
      List.getElem?_mapIdx, he]
    rfl
  · obtain ⟨m, hm, hfiling, hidentification⟩ := getElem?_merged he
    have hmerged : (mergedEntries raw)[i]? = some m := by
      rw [mergedEntries_eq (parseCpu_some h).1, List.getElem?_append_left, hm]
      rwa [length_overrideEntries]
    have hget := congrArg (fun l => l[i]?) (logicalCpus_of_parseCpu h)
    simp only [List.getElem?_map, hmerged, Option.map_some] at hget
    obtain ⟨lc, hlc, heq⟩ := Option.map_eq_some_iff.mp hget
    simp only [Prod.mk.injEq] at heq
    refine ⟨lc, hlc, heq.1.trans ?_, heq.2.2.2.trans hidentification⟩
    simp only [CpuInfoEntry.filing, EvidenceCpu.filing, Prod.mk.injEq] at hfiling
    exact hfiling.1

/-- A logical CPU behind those of the cpuinfo entries, with its CPU of the evidence. -/
theorem exists_addedCpu_of_logical {raw : EvidenceStore} {cpu : Cpu}
    (h : (parseCpu raw).1 = some cpu) {lc : LogicalCpu}
    (hlc : lc ∈ cpu.logicalCpus.drop (cpuinfoEntries raw).length) :
    ∃ i : ℕ, ∃ x ∈ addedCpus raw, (evidenceCpus raw)[i]? = some x ∧ cpu.logicalCpus[i]? = some lc ∧
      lc.id = x.processor ∧ lc.identification = {} := by
  obtain ⟨j, hj⟩ := List.mem_iff_getElem?.mp hlc
  rw [List.getElem?_drop] at hj
  have hget := congrArg (fun l => l[(cpuinfoEntries raw).length + j]?) (logicalCpus_of_parseCpu h)
  simp only [List.getElem?_map, hj, Option.map_some] at hget
  obtain ⟨e, he, heq⟩ := Option.map_eq_some_iff.mp hget.symm
  have hadded : (addedEntries raw (cpuinfoEntries raw))[j]? = some e := by
    rwa [mergedEntries_eq (parseCpu_some h).1, List.getElem?_append_right (by
      rw [length_overrideEntries]
      omega), length_overrideEntries, Nat.add_sub_cancel_left] at he
  have hfiling := congrArg (fun l => l[j]?) (filing_added raw)
  simp only [List.getElem?_map, hadded, Option.map_some] at hfiling
  obtain ⟨x, hx, hxe⟩ := Option.map_eq_some_iff.mp hfiling.symm
  simp only [CpuInfoEntry.filing, EvidenceCpu.filing, Prod.mk.injEq] at heq hxe
  refine ⟨_, x, List.mem_of_getElem? hx, ?_, hj, heq.1.symm.trans hxe.1.symm,
    heq.2.2.2.symm.trans (mem_addedEntries (List.mem_of_getElem? hadded)).2.2.2⟩
  rw [evidenceCpus, List.getElem?_append_right (by
    rw [length_cpuinfoCpus]
    omega), length_cpuinfoCpus, Nat.add_sub_cancel_left]
  exact hx

/-- The logical CPUs behind those of the cpuinfo entries are the added ones. -/
theorem added_ids {raw : EvidenceStore} {cpu : Cpu} (h : (parseCpu raw).1 = some cpu) :
    (cpu.logicalCpus.drop (cpuinfoEntries raw).length).map (·.id) =
      (addedCpus raw).map (·.processor) := by
  have hids := congrArg (List.map Prod.fst) (logicalCpus_of_parseCpu h)
  have hfiling := congrArg (List.map Prod.fst) (filing_mergedEntries (parseCpu_some h).1)
  rw [List.map_map, List.map_map] at hids hfiling
  have hall := congrArg (List.drop (cpuinfoEntries raw).length) (hids.trans hfiling)
  rw [evidenceCpus, List.map_append, ← List.map_drop,
    List.drop_left' (by rw [List.length_map, length_cpuinfoCpus])] at hall
  exact hall

/-! ### The theorem -/

theorem settled_of_precedence {raw : EvidenceStore} {cpu : Cpu} (h : (parseCpu raw).1 = some cpu)
    (hrule : SysfsPrecedence raw cpu) : PrecedenceSettled raw := by
  -- every CPU of the evidence is grouped by its own numbers
  have hlisted : ∀ x ∈ cpuinfoCpus raw, x.Settled ∧ ∀ key ∈ coreKeys (mergedEntries raw),
      coreNumber (mergedEntries raw) key = coreNumber (mergedEntries raw) x.filedKey →
        key = x.filedKey := by
    intro x hx
    obtain ⟨i, hi⟩ := List.mem_iff_getElem?.mp hx
    rw [cpuinfoCpus, List.getElem?_mapIdx] at hi
    obtain ⟨e, he, rfl⟩ := Option.map_eq_some_iff.mp hi
    obtain ⟨hevidence, -⟩ := exists_logical_cpuinfo h he
    obtain ⟨lc, hlc, -, -, hgroup⟩ := hrule.listed i e he
    obtain ⟨hkey, hcores⟩ := (groupedBy_iff h hevidence hlc).mp hgroup
    exact ⟨⟨congrArg some (congrArg Prod.fst hkey).symm, congrArg some (congrArg Prod.snd hkey).symm⟩,
      hcores⟩
  have hadded : ∀ x ∈ addedCpus raw, x.Settled ∧ ∀ key ∈ coreKeys (mergedEntries raw),
      coreNumber (mergedEntries raw) key = coreNumber (mergedEntries raw) x.filedKey →
        key = x.filedKey := by
    intro x hx
    obtain ⟨j, hj⟩ := List.mem_iff_getElem?.mp hx
    have hevidence : (evidenceCpus raw)[(cpuinfoEntries raw).length + j]? = some x := by
      rw [evidenceCpus, ← length_cpuinfoCpus, List.getElem?_append_right (by omega),
        Nat.add_sub_cancel_left]
      exact hj
    obtain ⟨lc, hlc, hid, -⟩ := exists_logical h hevidence
    have hdrop : lc ∈ cpu.logicalCpus.drop (cpuinfoEntries raw).length := by
      refine List.mem_iff_getElem?.mpr ⟨j, ?_⟩
      rwa [List.getElem?_drop]
    obtain ⟨-, hknown⟩ := (hrule.added.2 lc.id).mp (List.mem_map_of_mem hdrop)
    obtain ⟨key, hkey⟩ := Option.isSome_iff_exists.mp hknown
    obtain ⟨hown, hcores⟩ :=
      (groupedBy_iff h hevidence hlc).mp ((hrule.unidentified lc hdrop).2 key hkey)
    rw [hid] at hkey
    exact ⟨(settled_iff_sysfsKey hx).mpr (hown ▸ hkey), hcores⟩
  refine ⟨fun x hx => (hlisted x hx).1, fun x hx => (hadded x hx).1, ?_⟩
  rw [← length_coreKeys h]
  refine (coreNumbers_distinct_iff _).mp fun k hk => ?_
  obtain ⟨e, he, rfl⟩ := exists_of_mem_coreKeys hk
  have hfiling := List.mem_map_of_mem (f := CpuInfoEntry.filing) he
  rw [filing_mergedEntries (parseCpu_some h).1] at hfiling
  obtain ⟨x, hx, heq⟩ := List.mem_map.mp hfiling
  have hkey : x.filedKey = e.coreKey := congrArg Prod.snd heq
  rw [← hkey]
  rcases List.mem_append.mp hx with hmem | hmem
  · exact (hlisted x hmem).2
  · exact (hadded x hmem).2

theorem precedence_of_settled {raw : EvidenceStore} {cpu : Cpu} (h : (parseCpu raw).1 = some cpu)
    (hs : PrecedenceSettled raw) : SysfsPrecedence raw cpu := by
  have hcores := (coreNumbers_distinct_iff (mergedEntries raw)).mpr
    ((length_coreKeys h).trans_le hs.cores)
  have hgroup : ∀ {i : ℕ} {x : EvidenceCpu} {lc : LogicalCpu}, (evidenceCpus raw)[i]? = some x →
      cpu.logicalCpus[i]? = some lc → GroupedBy raw lc x.filedPackage x.filedCore :=
    fun hx hlc => (groupedBy_iff h hx hlc).mpr
      ⟨rfl, hcores _ (filedPackage_mem h (List.mem_of_getElem? hx)).2⟩
  refine ⟨fun i e he => ?_, ⟨?_, fun n => ?_⟩, fun lc hlc => ?_⟩
  · obtain ⟨hevidence, lc, hlc, hid, hidentification⟩ := exists_logical_cpuinfo h he
    obtain ⟨hpackage, hcore⟩ := hs.listed (cpuinfoCpu raw ((cpuinfoEntries raw).take i) e) (by
      refine List.mem_iff_getElem?.mpr ⟨i, ?_⟩
      rw [cpuinfoCpus, List.getElem?_mapIdx, he]
      rfl)
    refine ⟨lc, hlc, hid, hidentification, ?_⟩
    rw [Option.some.inj hpackage, Option.some.inj hcore]
    exact hgroup hevidence hlc
  · rw [added_ids h, List.Nodup, List.pairwise_map]
    refine (addedCpus_pairwise raw).imp fun {x y} hlt heq => ?_
    rw [heq, ReflOrd.compare_self] at hlt
    cases hlt
  · rw [added_ids h, List.mem_map]
    constructor
    · rintro ⟨x, hx, rfl⟩
      refine ⟨(unlistedCpu_eq_some.mp (mem_addedCpus.mp hx)).1, ?_⟩
      rw [(settled_iff_sysfsKey hx).mp (hs.added x hx)]
      rfl
    · rintro ⟨hout, hknown⟩
      exact exists_addedCpu hout hknown
  · obtain ⟨i, x, hx, hevidence, hi, hid, hidentification⟩ := exists_addedCpu_of_logical h hlc
    refine ⟨hidentification, fun key hkey => ?_⟩
    rw [hid, (settled_iff_sysfsKey hx).mp (hs.added x hx)] at hkey
    obtain rfl := Option.some.inj hkey
    exact hgroup hevidence hi

/-- **Precedence, exactly.** The precedence rule holds for a result if and only if every CPU of the
evidence is filed under its own numbers. -/
theorem parseCpu_precedence_iff (raw : EvidenceStore) (cpu : Cpu)
    (h : (parseCpu raw).1 = some cpu) : SysfsPrecedence raw cpu ↔ PrecedenceSettled raw :=
  ⟨settled_of_precedence h, precedence_of_settled h⟩

theorem parseCpu_precedence_iff_sparse :
    SysfsPrecedence sparseStore ((parseCpu sparseStore).1.get (by decide)) :=
  (parseCpu_precedence_iff sparseStore _ (Option.some_get _).symm).mpr
    ⟨by decide +kernel, by decide +kernel, by decide +kernel⟩

/-- The second entry of processor 0 keeps its cpuinfo package. -/
theorem repeatedStore_not_precedence :
    ¬SysfsPrecedence repeatedStore ((parseCpu repeatedStore).1.get (by decide)) := by
  intro hrule
  have hsettled := settled_of_precedence (Option.some_get _).symm hrule
  exact absurd hsettled.listed (by decide +kernel)

end Sysal.CpuParser
