import Sysal.Foundation.CappedMap
import Sysal.Parser.CpuList
import Sysal.Parser.CpuTopology

/-!
# The NUMA map and the CPU lists

`build_numa_mapping` reads the CPU lists of the NUMA nodes with a reader of its own: it splits at
commas only, and its map takes 1024 CPUs over all nodes.  Here it is compared with the reader every
other consumer uses:

* `mapNumaParts_eq_foldl` — the nested loops store the written numbers one after another until the
  map is full;
* `loopFor_numaRange_exits` — no range takes more than 1024 passes;
* `numaExact_iff` — for lists the other reader accepts, the result is exact if and only if every CPU
  stands in a comma-separated number or range and all lists together have at most 1024 CPUs;
* `mapNumaParts_only_written` — for any list without a number beyond 32 bits, only written CPUs are
  mapped.
-/

namespace Sysal.CpuParser

open Sysal Std CpuDetails

/-! ### The range loop -/

/-- After `i` passes the counter stands `i` numbers further and these numbers are mapped. -/
theorem iterate_numaRangeStep (node : UInt32) (first : ℕ) (m : TreeMap UInt32 UInt32 compare)
    (i : ℕ) :
    UInt32.ofNat ((numaRangeStep node)^[i] (first, m)).1 = UInt32.ofNat (first + i) ∧
      ∀ j < i, UInt32.ofNat (first + j) ∈ ((numaRangeStep node)^[i] (first, m)).2 := by
  induction i with
  | zero => exact ⟨rfl, fun j hj => absurd hj (Nat.not_lt_zero j)⟩
  | succ i ih =>
      rw [Function.iterate_succ_apply']
      generalize (numaRangeStep node)^[i] (first, m) = s at ih
      obtain ⟨hcounter, hmem⟩ := ih
      refine ⟨?_, fun j hj => ?_⟩
      · have hmod := congrArg UInt32.toNat hcounter
        rw [UInt32.toNat_ofNat', UInt32.toNat_ofNat'] at hmod
        rw [← UInt32.toNat_inj, UInt32.toNat_ofNat', UInt32.toNat_ofNat', numaRangeStep]
        omega
      · rw [numaRangeStep, TreeMap.mem_insert]
        rcases Nat.lt_succ_iff_lt_or_eq.mp hj with hj | rfl
        · exact .inr (hmem j hj)
        · left
          rw [← hcounter, Std.compare_eq_iff_eq]

/-- **Termination**: after at most 1024 passes the map is full or the range is done, whatever the range
and the map. -/
theorem loopFor_numaRange_exits (node : UInt32) (first last : ℕ)
    (m : TreeMap UInt32 UInt32 compare) :
    numaRangeCond last (loopFor (numaRangeCond last) (numaRangeStep node) maxCpus (first, m)) =
      false := by
  refine loopFor_exits fun _ => ?_
  obtain ⟨-, hmem⟩ := iterate_numaRangeStep node first m maxCpus
  have hnodup : ((List.range maxCpus).map fun j => UInt32.ofNat (first + j)).Nodup := by
    refine List.Nodup.map_on ?_ List.nodup_range
    intro i hi j hj heq
    rw [List.mem_range, maxCpus] at hi hj
    rw [← UInt32.toNat_inj, UInt32.toNat_ofNat', UInt32.toNat_ofNat'] at heq
    omega
  have hsize := length_le_size hnodup (m := ((numaRangeStep node)^[maxCpus] (first, m)).2) (by
    intro k hk
    obtain ⟨j, hj, rfl⟩ := List.mem_map.mp hk
    exact hmem j (List.mem_range.mp hj))
  rw [List.length_map, List.length_range] at hsize
  rw [numaRangeCond, Bool.and_eq_false_iff]
  right
  simpa using hsize

/-- The numbers that the counter of a range goes through.  It stops behind the range, unless that ends at
the largest number: then it wraps, and goes on until the map is full. -/
def rangeNumbers (first last : ℕ) : List ℕ :=
  List.range' first (if last = 2 ^ 64 - 1 then maxCpus else last + 1 - first)

/-- The numbers of the counter in 32 bits, each with the node. -/
def rangePairs (node : UInt32) (first last : ℕ) : List (UInt32 × UInt32) :=
  (rangeNumbers first last).map fun x => (UInt32.ofNat x, node)

/-- A range that stops. -/
theorem loopFor_numaRange (node : UInt32) {last : ℕ} (hlast : last < 2 ^ 64 - 1) (n first k : ℕ)
    (m : TreeMap UInt32 UInt32 compare) (hn : n = last + 1 - first) :
    (loopFor (numaRangeCond last) (numaRangeStep node) (n + k) (first, m)).2 =
      (rangePairs node first last).foldl (cappedInsert maxCpus) m := by
  rw [rangePairs, rangeNumbers, if_neg (by omega), ← hn]
  induction n generalizing first m with
  | zero =>
      have hdone : numaRangeCond last (first, m) = false := by
        rw [numaRangeCond, Bool.and_eq_false_iff]
        left
        simp only [decide_eq_false_iff_not]
        omega
      rw [loopFor_of_false hdone]
      rfl
  | succ n ih =>
      rw [Nat.succ_add, loopFor, List.range'_succ, List.map_cons]
      by_cases hfull : m.size < maxCpus
      · have hcond : numaRangeCond last (first, m) = true := by
          rw [numaRangeCond, Bool.and_eq_true]
          exact ⟨by simp; omega, by simpa using hfull⟩
        have hstep : numaRangeStep node (first, m) =
            (first + 1, m.insert (UInt32.ofNat first) node) := by
          rw [numaRangeStep, Nat.mod_eq_of_lt (by omega)]
        rw [if_pos hcond, hstep, ih (first + 1) _ (by omega), List.foldl_cons]
        congr 1
        rw [cappedInsert, if_pos hfull]
      · have hcond : numaRangeCond last (first, m) = false := by
          rw [numaRangeCond, Bool.and_eq_false_iff]
          right
          simpa using hfull
        rw [hcond, foldl_cappedInsert_full (by omega)]
        rfl

/-- A range that ends at the largest number: the counter never exceeds it. -/
theorem loopFor_numaRange_wraps (node : UInt32) (n counter first : ℕ)
    (m : TreeMap UInt32 UInt32 compare) (hcounter : counter < 2 ^ 64)
    (hfirst : UInt32.ofNat counter = UInt32.ofNat first) :
    (loopFor (numaRangeCond (2 ^ 64 - 1)) (numaRangeStep node) n (counter, m)).2 =
      ((List.range' first n).map fun x => (UInt32.ofNat x, node)).foldl (cappedInsert maxCpus) m := by
  induction n generalizing counter first m with
  | zero => rfl
  | succ n ih =>
      rw [loopFor, List.range'_succ, List.map_cons]
      by_cases hfull : m.size < maxCpus
      · have hcond : numaRangeCond (2 ^ 64 - 1) (counter, m) = true := by
          rw [numaRangeCond, Bool.and_eq_true]
          exact ⟨by simp; omega, by simpa using hfull⟩
        have hnext : UInt32.ofNat ((counter + 1) % 2 ^ 64) = UInt32.ofNat (first + 1) := by
          have hmod := congrArg UInt32.toNat hfirst
          rw [UInt32.toNat_ofNat', UInt32.toNat_ofNat'] at hmod
          rw [← UInt32.toNat_inj, UInt32.toNat_ofNat', UInt32.toNat_ofNat']
          omega
        rw [if_pos hcond, numaRangeStep, ih _ _ _ (Nat.mod_lt _ (Nat.two_pow_pos 64)) hnext,
          List.foldl_cons, cappedInsert, if_pos hfull, hfirst]
      · have hcond : numaRangeCond (2 ^ 64 - 1) (counter, m) = false := by
          rw [numaRangeCond, Bool.and_eq_false_iff]
          right
          simpa using hfull
        rw [hcond, foldl_cappedInsert_full (by omega)]
        rfl

/-- **The range loop** stores the numbers of its counter until the map is full. -/
theorem mapNumaRange_eq_foldl (node : UInt32) {first last : ℕ} (hfirst : first < 2 ^ 64)
    (hlast : last < 2 ^ 64) (m : TreeMap UInt32 UInt32 compare) :
    mapNumaRange node first last m = (rangePairs node first last).foldl (cappedInsert maxCpus) m := by
  by_cases htop : last = 2 ^ 64 - 1
  · subst htop
    rw [mapNumaRange, loopFor_numaRange_wraps node _ first first m hfirst rfl, rangePairs,
      rangeNumbers, if_pos rfl]
  · rw [mapNumaRange, ← loopFor_stable (loopFor_numaRange_exits node first last m)
      (last + 1 - first), Nat.add_comm, loopFor_numaRange node (by omega) _ _ _ _ rfl]

/-! ### The parts of a list -/

/-- The pairs that a comma-separated part stores. -/
def partPairs (node : UInt32) (part : Bytes) : List (UInt32 × UInt32) :=
  match Bytes.cut (trim part) 45 with
  | some (left, right) =>
      match parseUint left, parseUint right with
      | some first, some last => rangePairs node first last
      | _, _ => []
  | none =>
      match parseUint (trim part) with
      | some cpu => [(UInt32.ofNat cpu, node)]
      | none => []

/-- **The parts of a list** store their pairs one after another until the map is full. -/
theorem mapNumaParts_eq_foldl (node : UInt32) (parts : List Bytes)
    (m : TreeMap UInt32 UInt32 compare) :
    mapNumaParts node parts m =
      (parts.flatMap (partPairs node)).foldl (cappedInsert maxCpus) m := by
  induction parts generalizing m with
  | nil => rfl
  | cons part parts ih =>
      rw [List.flatMap_cons, List.foldl_append, mapNumaParts, partPairs]
      rcases Bytes.cut (trim part) 45 with _ | ⟨left, right⟩
      · rcases parseUint (trim part) with _ | cpu
        · exact ih m
        · dsimp only
          rw [List.foldl_cons, List.foldl_nil]
          by_cases hfull : maxCpus ≤ m.size
          · rw [if_pos hfull, cappedInsert_full hfull, foldl_cappedInsert_full hfull]
          · rw [if_neg hfull, cappedInsert, if_pos (by omega), ih]
      · dsimp only
        rcases hleft : parseUint left with _ | first
        · exact ih m
        · rcases hright : parseUint right with _ | last
          · exact ih m
          · dsimp only
            rw [mapNumaRange_eq_foldl node (parseUint_lt hleft) (parseUint_lt hright)]
            split
            · rename_i hbreak
              exact (foldl_cappedInsert_full hbreak.1 _).symm
            · exact ih _

/-- A part that is read as a range has the numbers of the range, if it stops. -/
theorem partPairs_eq {part : Bytes} {r : ℕ × ℕ} (h : readRange (trim part) = some r)
    (hlast : r.2 < 2 ^ 64 - 1) (node : UInt32) :
    partPairs node part = (List.range' r.1 (r.2 + 1 - r.1)).map fun x => (UInt32.ofNat x, node) := by
  rw [readRange] at h
  rw [partPairs]
  rcases hcut : Bytes.cut (trim part) 45 with _ | ⟨left, right⟩
  · rw [hcut] at h
    obtain ⟨n, hn, rfl⟩ := Option.map_eq_some_iff.mp h
    dsimp only
    rw [hn, Nat.add_sub_cancel_left, List.range'_one, List.map_singleton]
  · rw [hcut] at h
    simp only [Option.bind_eq_bind] at h
    obtain ⟨first, hfirst, h⟩ := Option.bind_eq_some_iff.mp h
    obtain ⟨last, hright, h⟩ := Option.bind_eq_some_iff.mp h
    obtain rfl := Option.some.inj h
    dsimp only at hlast ⊢
    rw [hfirst, hright]
    dsimp only
    rw [rangePairs, rangeNumbers, if_neg (by omega)]

theorem partPairs_of_none {part : Bytes} (h : readRange (trim part) = none) (node : UInt32) :
    partPairs node part = [] := by
  rw [readRange] at h
  rw [partPairs]
  rcases hcut : Bytes.cut (trim part) 45 with _ | ⟨left, right⟩
  · rw [hcut] at h
    dsimp only
    rw [Option.map_eq_none_iff.mp h]
  · rw [hcut] at h
    dsimp only at h ⊢
    cases hleft : parseUint left with
    | none => rfl
    | some first =>
        cases hright : parseUint right with
        | none => rfl
        | some last =>
            rw [hleft, hright] at h
            cases h

/-- No number or range end of a list reaches `bound`. -/
def NumbersBelow (bound : ℕ) (payload : Bytes) : Prop :=
  ∀ part ∈ split payload 44, ∀ r, readRange (trim part) = some r → r.2 < bound

/-- The CPU numbers a list writes: those in a comma-separated part that spells a number or range. -/
def Written (payload : Bytes) (n : UInt32) : Prop :=
  ∃ part ∈ split payload 44, ∃ r, readRange (trim part) = some r ∧ r.1 ≤ n.toNat ∧ n.toNat ≤ r.2

/-- The pairs of a list, for any node. -/
def listPairs (node : UInt32) (payload : Bytes) : List (UInt32 × UInt32) :=
  (split payload 44).flatMap (partPairs node)

theorem mem_listPairs {node : UInt32} {payload : Bytes} (h : NumbersBelow (2 ^ 32) payload)
    {n v : UInt32} : (n, v) ∈ listPairs node payload ↔ v = node ∧ Written payload n := by
  constructor
  · intro hmem
    obtain ⟨part, hpart, hmem⟩ := List.mem_flatMap.mp hmem
    cases hr : readRange (trim part) with
    | none =>
        rw [partPairs_of_none hr] at hmem
        cases hmem
    | some r =>
        have hlt := h part hpart r hr
        rw [partPairs_eq hr (by omega)] at hmem
        obtain ⟨x, hx, heq⟩ := List.mem_map.mp hmem
        rw [Prod.mk.injEq] at heq
        rw [List.mem_range'_1] at hx
        have hval : n.toNat = x := by
          rw [← heq.1, UInt32.toNat_ofNat_of_lt' (by rw [UInt32.size]; omega)]
        exact ⟨heq.2.symm, part, hpart, r, hr, by omega, by omega⟩
  · rintro ⟨rfl, part, hpart, r, hr, hlow, hup⟩
    refine List.mem_flatMap.mpr ⟨part, hpart, ?_⟩
    have hlt := h part hpart r hr
    rw [partPairs_eq hr (by omega)]
    exact List.mem_map.mpr ⟨n.toNat, List.mem_range'_1.mpr (by omega), by rw [UInt32.ofNat_toNat]⟩

/-- **Only written CPUs are mapped**: a list whose numbers fit 32 bits changes the map at numbers it
writes only. -/
theorem mapNumaParts_only_written {payload : Bytes} (h : NumbersBelow (2 ^ 32) payload)
    (node n : UInt32) (m : TreeMap UInt32 UInt32 compare)
    (hn : (mapNumaParts node (split payload 44) m)[n]? ≠ m[n]?) : Written payload n := by
  rw [mapNumaParts_eq_foldl] at hn
  rcases hget : ((listPairs node payload).foldl (cappedInsert maxCpus) m)[n]? with _ | v
  · have hnone : m[n]? = none := by
      by_contra hsome
      have hin : n ∈ m :=
        TreeMap.mem_iff_isSome_getElem?.mpr (Option.isSome_iff_ne_none.mpr hsome)
      have hmem : n ∈ (listPairs node payload).foldl (cappedInsert maxCpus) m :=
        mem_foldl_cappedInsert hin _
      rw [TreeMap.mem_iff_isSome_getElem?, hget] at hmem
      cases hmem
    exact absurd (hget.trans hnone.symm) hn
  · rcases getElem?_foldl_cappedInsert _ hget with hm | hl
    · exact absurd (hget.trans hm.symm) hn
    · exact ((mem_listPairs h).mp hl).2

/-! ### The records of a store -/

/-- The CPU lists of the NUMA nodes: node number and payload of the successful records. -/
def numaRecords (raw : EvidenceStore) : List (ℕ × Bytes) :=
  (raw.successes .sysfsNuma).filterMap fun record =>
    (numaNodeNumber record.pathOrCommand).map fun node => (node, record.payload)

/-- The lists are accepted by the other reader, node numbers fit 32 bits, and the lists of different
nodes have no CPU in common. -/
structure NumaListed (raw : EvidenceStore) : Prop where
  accepted : ∀ r ∈ numaRecords raw, r.1 < 2 ^ 32 ∧ (parseCpuIdList r.2).isSome
  disjoint : ∀ r ∈ numaRecords raw, ∀ s ∈ numaRecords raw, r.1 ≠ s.1 →
    ∀ ids ids', parseCpuIdList r.2 = some ids → parseCpuIdList s.2 = some ids' → ids.Disjoint ids'

/-- The CPUs the other reader finds for a node, over all its records. -/
def nodeCpus (raw : EvidenceStore) (node : NumaNodeId) : List LogicalCpuId :=
  sortedSet (((numaRecords raw).filter (·.1 = node.toNat)).flatMap fun r =>
    (parseCpuIdList r.2).getD [])

/-- All CPUs the other reader finds. -/
def listedCpus (raw : EvidenceStore) : List LogicalCpuId :=
  sortedSet ((numaRecords raw).flatMap fun r => (parseCpuIdList r.2).getD [])

/-- The nodes that have a CPU, in order. -/
def listedNodes (raw : EvidenceStore) : List NumaNode :=
  ((sortedSet ((numaRecords raw).map fun r => (UInt32.ofNat r.1))).filter
    fun node => nodeCpus raw node ≠ []).map fun node => { id := node, cpus := nodeCpus raw node }

/-- The NUMA part of a result agrees with the other reader. -/
structure NumaExact (raw : EvidenceStore) (cpu : Cpu) : Prop where
  /-- The nodes are those with a nonempty list, each with exactly the CPUs of its list. -/
  nodes : cpu.numaNodes = listedNodes raw
  /-- A logical CPU is in a node exactly if the list of the node has it. -/
  logical : ∀ lc ∈ cpu.logicalCpus, ∀ node, lc.numaNode = some node ↔ lc.id ∈ nodeCpus raw node

/-- Every listed CPU stands in a comma-separated number or range of its node. -/
def CommaListed (raw : EvidenceStore) : Prop :=
  ∀ node, ∀ n ∈ nodeCpus raw node, ∃ r ∈ numaRecords raw, r.1 = node.toNat ∧ Written r.2 n

/-- The pairs of all records. -/
def storePairs (raw : EvidenceStore) : List (UInt32 × UInt32) :=
  (numaRecords raw).flatMap fun r => listPairs (UInt32.ofNat r.1) r.2

/-- **The NUMA map** holds the pairs of all records, one after another until it is full. -/
theorem buildNumaMapping_eq (raw : EvidenceStore) :
    buildNumaMapping raw = (storePairs raw).foldl (cappedInsert maxCpus) ∅ := by
  rw [buildNumaMapping, storePairs, numaRecords]
  generalize (∅ : TreeMap UInt32 UInt32 compare) = m
  induction raw.successes .sysfsNuma generalizing m with
  | nil => rfl
  | cons record records ih =>
      rw [List.foldl_cons, ih, scanNuma]
      rcases hnode : numaNodeNumber record.pathOrCommand with _ | node
      · rw [List.filterMap_cons_none (by rw [hnode]; rfl)]
      · rw [List.filterMap_cons_some (b := (node, record.payload)) (by rw [hnode]; rfl),
          List.flatMap_cons, List.foldl_append]
        dsimp only
        rw [mapNumaParts_eq_foldl]
        rfl

/-- In an accepted list the comma-separated numbers and ranges are tokens of the list. -/
theorem written_of_accepted {payload : Bytes} (h : (parseCpuIdList payload).isSome) :
    NumbersBelow (2 ^ 32) payload ∧
      ∀ n, Written payload n → n ∈ (parseCpuIdList payload).getD [] := by
  obtain ⟨ids, hids⟩ := Option.isSome_iff_exists.mp h
  obtain ⟨hall, hmem, -⟩ := mem_parseCpuIdList hids
  have hpart : ∀ part ∈ split payload 44, ∀ r, readRange (trim part) = some r →
      parseCpuToken (trim part) = some r ∧ trim part ∈ cpuListTokens payload := by
    intro part hpart r hr
    have hall' : ∀ t ∈ part.splitOnP isSpace, t ≠ [] → (parseCpuToken t).isSome := by
      intro t ht
      exact hall t (by rw [cpuListTokens_eq]; exact List.mem_flatMap.mpr ⟨part, hpart, ht⟩)
    refine ⟨parseCpuToken_trim hall' hr, ?_⟩
    rw [cpuListTokens_eq]
    exact List.mem_flatMap.mpr ⟨part, hpart, trim_mem_splitOnP hall' hr⟩
  refine ⟨fun part hp r hr => ?_, fun n hn => ?_⟩
  · have := (parseCpuToken_eq_some.mp (hpart part hp r hr).1).2.2.1
    rw [maxUInt32] at this
    omega
  · obtain ⟨part, hp, r, hr, hn⟩ := hn
    obtain ⟨htoken, hin⟩ := hpart part hp r hr
    rw [hids, Option.getD_some, hmem]
    exact ⟨_, hin, r, htoken, hn⟩

theorem mem_nodeCpus {raw : EvidenceStore} {node : NumaNodeId} {n : UInt32} :
    n ∈ nodeCpus raw node ↔
      ∃ r ∈ numaRecords raw, r.1 = node.toNat ∧ n ∈ (parseCpuIdList r.2).getD [] := by
  rw [nodeCpus, mem_sortedSet, List.mem_flatMap]
  simp only [List.mem_filter, decide_eq_true_eq, and_assoc]

theorem mem_listedCpus {raw : EvidenceStore} {n : UInt32} :
    n ∈ listedCpus raw ↔ ∃ r ∈ numaRecords raw, n ∈ (parseCpuIdList r.2).getD [] := by
  rw [listedCpus, mem_sortedSet, List.mem_flatMap]

section listed

variable {raw : EvidenceStore} (hlisted : NumaListed raw)
include hlisted

theorem numaNode_toNat {r : ℕ × Bytes} (hr : r ∈ numaRecords raw) :
    (UInt32.ofNat r.1).toNat = r.1 :=
  UInt32.toNat_ofNat_of_lt' (hlisted.accepted r hr).1

theorem mem_storePairs {n node : UInt32} :
    (n, node) ∈ storePairs raw ↔ ∃ r ∈ numaRecords raw, r.1 = node.toNat ∧ Written r.2 n := by
  rw [storePairs, List.mem_flatMap]
  constructor
  · rintro ⟨r, hr, hmem⟩
    obtain ⟨rfl, hwritten⟩ := (mem_listPairs (written_of_accepted (hlisted.accepted r hr).2).1).mp hmem
    exact ⟨r, hr, (numaNode_toNat hlisted hr).symm, hwritten⟩
  · rintro ⟨r, hr, hnode, hwritten⟩
    refine ⟨r, hr, (mem_listPairs (written_of_accepted (hlisted.accepted r hr).2).1).mpr ⟨?_, hwritten⟩⟩
    rw [hnode, UInt32.ofNat_toNat]

/-- A mapped CPU is in the list of its node. -/
theorem mem_nodeCpus_of_mapped {n node : UInt32} (h : (buildNumaMapping raw)[n]? = some node) :
    n ∈ nodeCpus raw node ∧ (n, node) ∈ storePairs raw := by
  rw [buildNumaMapping_eq] at h
  rcases getElem?_foldl_cappedInsert _ h with hempty | hmem
  · rw [TreeMap.getElem?_emptyc] at hempty
    cases hempty
  · obtain ⟨r, hr, hnode, hwritten⟩ := (mem_storePairs hlisted).mp hmem
    exact ⟨mem_nodeCpus.mpr ⟨r, hr, hnode,
      (written_of_accepted (hlisted.accepted r hr).2).2 n hwritten⟩, hmem⟩

/-- The list of one node only has a given CPU. -/
theorem node_unique {n node node' : UInt32} (h : n ∈ nodeCpus raw node)
    (h' : n ∈ nodeCpus raw node') : node = node' := by
  obtain ⟨r, hr, hnode, hn⟩ := mem_nodeCpus.mp h
  obtain ⟨s, hs, hnode', hn'⟩ := mem_nodeCpus.mp h'
  by_contra hne
  have hne' : r.1 ≠ s.1 := by
    rw [hnode, hnode']
    exact fun heq => hne (UInt32.toNat_inj.mp heq)
  obtain ⟨ids, hids⟩ := Option.isSome_iff_exists.mp (hlisted.accepted r hr).2
  obtain ⟨ids', hids'⟩ := Option.isSome_iff_exists.mp (hlisted.accepted s hs).2
  rw [hids] at hn
  rw [hids'] at hn'
  exact hlisted.disjoint r hr s hs hne' ids ids' hids hids' hn hn'

/-- **The map is exact when everything fits**: with at most 1024 comma-listed CPUs it maps exactly the
listed CPUs, each to its node. -/
theorem mapped_iff (hcomma : CommaListed raw) (hfits : (listedCpus raw).length ≤ maxCpus)
    (n node : UInt32) : (buildNumaMapping raw)[n]? = some node ↔ n ∈ nodeCpus raw node := by
  refine ⟨fun h => (mem_nodeCpus_of_mapped hlisted h).1, fun hn => ?_⟩
  have hkeys : ∀ e ∈ storePairs raw, e.1 ∈ listedCpus raw := by
    intro e he
    obtain ⟨r, hr, -, hwritten⟩ := (mem_storePairs hlisted).mp he
    exact mem_listedCpus.mpr ⟨r, hr, (written_of_accepted (hlisted.accepted r hr).2).2 _ hwritten⟩
  have hmem : n ∈ buildNumaMapping raw := by
    rw [buildNumaMapping_eq]
    exact mem_foldl_cappedInsert_of_fits hfits _
      (fun k hk => absurd hk TreeMap.not_mem_emptyc) hkeys (n, node)
      ((mem_storePairs hlisted).mpr (hcomma node n hn))
  rw [TreeMap.mem_iff_isSome_getElem?] at hmem
  obtain ⟨node', hnode'⟩ := Option.isSome_iff_exists.mp hmem
  rw [hnode', node_unique hlisted (mem_nodeCpus_of_mapped hlisted hnode').1 hn]

end listed

/-! ### The result -/

/-- The NUMA part of a result comes from the map. -/
theorem numa_of_parseCpu {raw : EvidenceStore} {cpu : Cpu} (h : (parseCpu raw).1 = some cpu) :
    cpu.numaNodes = buildNumaNodes (buildNumaMapping raw) ∧
      ∀ lc ∈ cpu.logicalCpus, lc.numaNode = (buildNumaMapping raw)[lc.id]? := by
  rw [(parseCpu_some h).2]
  obtain ⟨-, -, hl, hn⟩ := foldl_scanDetail_topology
    ((raw.successes .sysfsCpu).any fun r => r.pathOrCommand.startsWith CpuDetails.policyPrefix)
    (raw.successes .sysfsCpu)
    { cpu := withNuma (buildNumaMapping raw)
        (withFrequencies raw (mergedEntries raw) (buildTopology (mergedEntries raw))) }
  refine ⟨hn, fun lc hlc => ?_⟩
  simp only [buildCpu, withFirstEntry, readCpuDetails, hl] at hlc
  obtain ⟨lc₁, hlc₁, rfl⟩ := List.mem_map.mp hlc
  obtain ⟨lc₀, hlc₀, rfl⟩ := List.mem_map.mp hlc₁
  rw [onlineState_topology]
  have hnone : lc₀.numaNode = none := by
    rw [withFrequencies, buildTopology_logicalCpus] at hlc₀
    obtain ⟨e, -, rfl⟩ := List.mem_map.mp hlc₀
    rfl
  rcases hmap : (buildNumaMapping raw)[lc₀.id]? with _ | node
  · simp [hmap, hnone]
  · simp [hmap]

theorem mem_node_iff (m : TreeMap UInt32 UInt32 compare) (n node : UInt32) :
    n ∈ ((m.toList.filter (·.2 = node)).map Prod.fst) ↔ m[n]? = some node := by
  rw [← TreeMap.mem_toList_iff_getElem?_eq_some, List.mem_map]
  constructor
  · rintro ⟨⟨k, v⟩, hmem, rfl⟩
    obtain ⟨hmem, hv⟩ := List.mem_filter.mp hmem
    have hv' : v = node := by simpa using hv
    exact hv' ▸ hmem
  · intro hmem
    exact ⟨(n, node), List.mem_filter.mpr ⟨hmem, by simp⟩, rfl⟩

/-- A map that maps exactly the listed CPUs gives exactly the listed nodes. -/
theorem buildNumaNodes_eq {raw : EvidenceStore} {m : TreeMap UInt32 UInt32 compare}
    (h : ∀ n node, m[n]? = some node ↔ n ∈ nodeCpus raw node) :
    buildNumaNodes m = listedNodes raw := by
  have hcpus : ∀ node, (m.toList.filter (·.2 = node)).map Prod.fst = nodeCpus raw node := by
    intro node
    refine eq_of_pairwise_lt ?_ (sortedSet_pairwise_lt _) fun n => (mem_node_iff m n node).trans (h n node)
    rw [List.pairwise_map]
    exact List.Pairwise.filter _ TreeMap.ordered_keys_toList
  have hnodes : sortedSet (m.toList.map Prod.snd) =
      (sortedSet ((numaRecords raw).map fun r => (UInt32.ofNat r.1))).filter
        fun node => nodeCpus raw node ≠ [] := by
    refine eq_of_pairwise_lt (sortedSet_pairwise_lt _)
      ((sortedSet_pairwise_lt _).filter _) fun node => ?_
    rw [mem_sortedSet, List.mem_filter, mem_sortedSet, decide_eq_true_eq]
    constructor
    · intro hmem
      obtain ⟨⟨n, v⟩, hpair, rfl⟩ := List.mem_map.mp hmem
      rw [TreeMap.mem_toList_iff_getElem?_eq_some, h] at hpair
      obtain ⟨r, hr, hnode, -⟩ := mem_nodeCpus.mp hpair
      exact ⟨List.mem_map.mpr ⟨r, hr, by rw [hnode, UInt32.ofNat_toNat]⟩, List.ne_nil_of_mem hpair⟩
    · rintro ⟨-, hne⟩
      obtain ⟨n, hn⟩ := List.exists_mem_of_ne_nil _ hne
      rw [← h, ← TreeMap.mem_toList_iff_getElem?_eq_some] at hn
      exact List.mem_map.mpr ⟨_, hn, rfl⟩
  rw [buildNumaNodes, listedNodes, hnodes]
  exact List.map_congr_left fun node _ => by rw [hcpus]

/-- **Agreement of the two readers.** For accepted, disjoint lists the NUMA part of a result is exact if
and only if every listed CPU stands in a comma-separated number or range of its node and the lists
have at most 1024 CPUs in all. -/
theorem numaExact_iff {raw : EvidenceStore} {cpu : Cpu} (h : (parseCpu raw).1 = some cpu)
    (hlisted : NumaListed raw) :
    NumaExact raw cpu ↔ CommaListed raw ∧ (listedCpus raw).length ≤ maxCpus := by
  obtain ⟨hnodes, hlogical⟩ := numa_of_parseCpu h
  constructor
  · intro hexact
    have hmapped : ∀ n node, n ∈ nodeCpus raw node → (buildNumaMapping raw)[n]? = some node := by
      intro n node hn
      have hmem : { id := node, cpus := nodeCpus raw node } ∈ listedNodes raw := by
        obtain ⟨r, hr, hnode, -⟩ := mem_nodeCpus.mp hn
        refine List.mem_map.mpr ⟨node, List.mem_filter.mpr ⟨mem_sortedSet.mpr ?_, ?_⟩, rfl⟩
        · exact List.mem_map.mpr ⟨r, hr, by rw [hnode, UInt32.ofNat_toNat]⟩
        · simpa using List.ne_nil_of_mem hn
      rw [← hexact.nodes, hnodes, buildNumaNodes] at hmem
      obtain ⟨node', -, heq⟩ := List.mem_map.mp hmem
      rw [NumaNode.mk.injEq] at heq
      rw [← mem_node_iff, ← heq.1, heq.2]
      exact hn
    constructor
    · intro node n hn
      exact (mem_storePairs hlisted).mp (mem_nodeCpus_of_mapped hlisted (hmapped n node hn)).2
    · refine (length_le_size (sortedSet_nodup _) fun n hn => ?_).trans
        ((buildNumaMapping_eq raw).symm ▸
          size_foldl_cappedInsert_le (Nat.zero_le _) (storePairs raw))
      obtain ⟨r, hr, hn⟩ := mem_listedCpus.mp hn
      rw [TreeMap.mem_iff_isSome_getElem?,
        hmapped n _ (mem_nodeCpus.mpr ⟨r, hr, (numaNode_toNat hlisted hr).symm, hn⟩)]
      rfl
  · rintro ⟨hcomma, hfits⟩
    have hiff := mapped_iff hlisted hcomma hfits
    refine ⟨by rw [hnodes, buildNumaNodes_eq hiff], fun lc hlc node => ?_⟩
    rw [hlogical lc hlc]
    exact hiff lc.id node

/-- **The two readers, summed up**: exactness for accepted lists, only written CPUs for rejected ones
whose numbers fit 32 bits, and termination of every range. -/
theorem numa_agreement (raw : EvidenceStore) (cpu : Cpu) (h : (parseCpu raw).1 = some cpu) :
    (NumaListed raw →
      (NumaExact raw cpu ↔ CommaListed raw ∧ (listedCpus raw).length ≤ maxCpus)) ∧
    (∀ r ∈ numaRecords raw, parseCpuIdList r.2 = none → NumbersBelow (2 ^ 32) r.2 →
      ∀ (node n : UInt32) (m : TreeMap UInt32 UInt32 compare),
        (mapNumaParts node (split r.2 44) m)[n]? ≠ m[n]? → Written r.2 n) ∧
    ∀ (node : UInt32) (first last : ℕ) (m : TreeMap UInt32 UInt32 compare),
      numaRangeCond last
        (loopFor (numaRangeCond last) (numaRangeStep node) maxCpus (first, m)) = false :=
  ⟨numaExact_iff h, fun _ _ _ hbelow => mapNumaParts_only_written hbelow,
    loopFor_numaRange_exits⟩

/-- Two CPUs and the list of their node. -/
def numaStore (payload : Bytes) : EvidenceStore :=
  { records := [
      { source := .procCpuInfo
        pathOrCommand := utf8 "/proc/cpuinfo"
        payload := utf8 "processor: 0\n\nprocessor: 1\n"
        status := .success },
      { source := .sysfsNuma
        pathOrCommand := utf8 "/sys/devices/system/node/node0/cpulist"
        payload := payload
        status := .success }] }

theorem numaRecords_numaStore (payload : Bytes) :
    numaRecords (numaStore payload) = [(0, payload)] := by
  have hnode : numaNodeNumber (utf8 "/sys/devices/system/node/node0/cpulist") = some 0 := by decide
  show List.filterMap _ _ = _
  rw [show (numaStore payload).successes .sysfsNuma = [{
      source := .sysfsNuma
      pathOrCommand := utf8 "/sys/devices/system/node/node0/cpulist"
      payload := payload
      status := .success }] from rfl, List.filterMap_cons_some (b := (0, payload)) (by rw [hnode]; rfl)]
  rfl

theorem numaListed_numaStore {payload : Bytes} (h : (parseCpuIdList payload).isSome) :
    NumaListed (numaStore payload) := by
  constructor
  · intro r hr
    rw [numaRecords_numaStore, List.mem_singleton] at hr
    subst hr
    exact ⟨Nat.two_pow_pos 32, h⟩
  · intro r hr s hs hne
    rw [numaRecords_numaStore, List.mem_singleton] at hr hs
    exact absurd (by rw [hr, hs]) hne

theorem numa_agreement_range :
    NumaExact (numaStore (utf8 "0-1\n")) ((parseCpu (numaStore (utf8 "0-1\n"))).1.get (by decide)) := by
  refine ((numa_agreement _ _ (Option.some_get _).symm).1 (numaListed_numaStore (by decide))).mpr
    ⟨fun node n hn => ?_, by decide⟩
  obtain ⟨r, hr, hnode, hn⟩ := mem_nodeCpus.mp hn
  refine ⟨r, hr, hnode, utf8 "0-1\n", ?_, (0, 1), by decide, ?_⟩
  · rw [numaRecords_numaStore, List.mem_singleton] at hr
    subst hr
    decide
  · rw [numaRecords_numaStore, List.mem_singleton] at hr
    subst hr
    have hids : (parseCpuIdList (utf8 "0-1\n")).getD [] = [0, 1] := by decide
    rw [hids, List.mem_cons, List.mem_singleton] at hn
    rcases hn with rfl | rfl <;> decide

/-- A blank-separated list is accepted by the other reader, and no node is found. -/
theorem numa_blank_separated :
    NumaListed (numaStore (utf8 "0 1\n")) ∧
      ¬ NumaExact (numaStore (utf8 "0 1\n"))
        ((parseCpu (numaStore (utf8 "0 1\n"))).1.get (by decide)) := by
  refine ⟨numaListed_numaStore (by decide), fun hexact => ?_⟩
  have hnodes := hexact.nodes
  revert hnodes
  decide

end Sysal.CpuParser
