import Sysal.Foundation.LastWrite
import Sysal.Parser.Memory

/-!
# The numbers of `meminfo`

`/proc/meminfo` and the `meminfo` of a NUMA node are scanned line by line, and a later line about the
same size replaces an earlier one.  So each size is the last number that can be read for it, and a node
is listed when its total is not zero.

* `parseMeminfo_total`, `parseMeminfo_available`: the sizes of `/proc/meminfo`;
* `parseNumaMeminfo_total`, `parseNumaMeminfo_free`: the sizes of a node;
* `parseMemory_sizes`, `parseMemory_isSome`: the sizes of a memory, and when there is one.
-/

namespace Sysal.MemoryParser

open Sysal

/-! ### Lines -/

/-- The number of kilobytes that a value states. -/
def kbNumber (value : Bytes) : Option ℕ := parseUint (trim ((split value 32).headD []))

/-- The same in bytes, whatever their number. -/
def kbBytes (value : Bytes) : Option ℕ := (kbNumber value).map (· * 1024)

theorem kbField_eq (value : Bytes) : kbField value = (kbBytes value).map UInt64.ofNat := by
  rw [kbField, parseKbToBytes, kbBytes, kbNumber, Option.map_map]
  rfl

/-- The bytes that a line of `/proc/meminfo` states under a key. -/
def meminfoBytes (key line : Bytes) : Option ℕ :=
  if (parseKv line 58).1 = key then kbBytes (parseKv line 58).2 else none

/-- The bytes that a line about a NUMA node states for a field. -/
def numaBytes (node : NumaNodeId) (field line : Bytes) : Option ℕ :=
  if trim (parseKv line 58).1 = numaKey node field then kbBytes (parseKv line 58).2 else none

/-! ### `/proc/meminfo` -/

theorem scanMeminfoLine_total (s : MeminfoScan) (line : Bytes) :
    (scanMeminfoLine s line).total =
      ((meminfoBytes (utf8 "MemTotal") line).map UInt64.ofNat).getD s.total := by
  rcases hkv : parseKv line 58 with ⟨key, value⟩
  rw [scanMeminfoLine, meminfoBytes, hkv]
  dsimp only
  by_cases htotal : key = utf8 "MemTotal"
  · rw [if_pos htotal, if_pos htotal, ← kbField_eq]
    cases kbField value <;> rfl
  · rw [if_neg htotal, if_neg htotal]
    split
    · cases kbField value <;> rfl
    · rfl

theorem scanMeminfoLine_available (s : MeminfoScan) (line : Bytes) :
    (scanMeminfoLine s line).available =
      ((meminfoBytes (utf8 "MemAvailable") line).map fun n => some (UInt64.ofNat n)).getD
        s.available := by
  rcases hkv : parseKv line 58 with ⟨key, value⟩
  rw [scanMeminfoLine, meminfoBytes, hkv]
  dsimp only
  by_cases htotal : key = utf8 "MemTotal"
  · rw [if_pos htotal, if_neg (by rw [htotal]; decide)]
    cases kbField value <;> rfl
  · rw [if_neg htotal]
    split
    · rw [kbField_eq]
      cases kbBytes value <;> rfl
    · rfl

/-- The total is the last one that can be read. -/
theorem parseMeminfo_total (payload : Bytes) :
    (parseMeminfo payload).total =
      ((lastWrite (meminfoBytes (utf8 "MemTotal")) (split payload 10)).map UInt64.ofNat).getD 0 := by
  rw [parseMeminfo, foldl_lastWrite MeminfoScan.total scanMeminfoLine_total, lastWrite_map]

theorem parseMeminfo_available (payload : Bytes) :
    (parseMeminfo payload).available =
      (lastWrite (meminfoBytes (utf8 "MemAvailable")) (split payload 10)).map UInt64.ofNat := by
  rw [parseMeminfo, foldl_lastWrite MeminfoScan.available scanMeminfoLine_available, lastWrite_map]
  cases lastWrite (meminfoBytes (utf8 "MemAvailable")) (split payload 10) <;> rfl

/-! ### NUMA nodes -/

theorem numaKey_ne (node : NumaNodeId) :
    numaKey node (utf8 "MemTotal") ≠ numaKey node (utf8 "MemFree") := by
  rw [numaKey, numaKey]
  intro h
  exact absurd (List.append_cancel_left h) (by decide)

theorem scanNumaLine_node (node : NumaNodeId) (s : NumaMemory × List Bytes) (line : Bytes) :
    (scanNumaLine node s line).1.node = s.1.node := by
  rw [scanNumaLine]
  dsimp only
  split
  · split <;> rfl
  · split
    · split <;> rfl
    · rfl

theorem scanNumaLine_total (node : NumaNodeId) (s : NumaMemory × List Bytes) (line : Bytes) :
    (scanNumaLine node s line).1.total =
      ((numaBytes node (utf8 "MemTotal") line).map UInt64.ofNat).getD s.1.total := by
  rcases hkv : parseKv line 58 with ⟨key, value⟩
  rw [scanNumaLine, numaBytes, hkv]
  dsimp only
  by_cases htotal : trim key = numaKey node (utf8 "MemTotal")
  · rw [if_pos htotal, if_pos htotal, ← kbField_eq]
    cases kbField value <;> rfl
  · rw [if_neg htotal, if_neg htotal]
    split
    · cases kbField value <;> rfl
    · rfl

theorem scanNumaLine_free (node : NumaNodeId) (s : NumaMemory × List Bytes) (line : Bytes) :
    (scanNumaLine node s line).1.free =
      ((numaBytes node (utf8 "MemFree") line).map fun n => some (UInt64.ofNat n)).getD s.1.free := by
  rcases hkv : parseKv line 58 with ⟨key, value⟩
  rw [scanNumaLine, numaBytes, hkv]
  dsimp only
  by_cases htotal : trim key = numaKey node (utf8 "MemTotal")
  · rw [if_pos htotal, if_neg (by rw [htotal]; exact numaKey_ne node)]
    cases kbField value <;> rfl
  · rw [if_neg htotal]
    split
    · rw [kbField_eq]
      cases kbBytes value <;> rfl
    · rfl

theorem parseNumaMeminfo_node (payload : Bytes) (node : NumaNodeId) :
    (parseNumaMeminfo payload node).1.node = node := by
  rw [parseNumaMeminfo]
  refine List.foldlRecOn (motive := fun s : NumaMemory × List Bytes => s.1.node = node) _ _ rfl ?_
  intro s hs line _
  rw [scanNumaLine_node, hs]

/-- The sizes of a node are the last ones that can be read. -/
theorem parseNumaMeminfo_total (payload : Bytes) (node : NumaNodeId) :
    (parseNumaMeminfo payload node).1.total =
      ((lastWrite (numaBytes node (utf8 "MemTotal")) (split payload 10)).map UInt64.ofNat).getD 0 := by
  rw [parseNumaMeminfo, foldl_lastWrite (fun s : NumaMemory × List Bytes => s.1.total)
    (scanNumaLine_total node), lastWrite_map]

theorem parseNumaMeminfo_free (payload : Bytes) (node : NumaNodeId) :
    (parseNumaMeminfo payload node).1.free =
      (lastWrite (numaBytes node (utf8 "MemFree")) (split payload 10)).map UInt64.ofNat := by
  rw [parseNumaMeminfo, foldl_lastWrite (fun s : NumaMemory × List Bytes => s.1.free)
    (scanNumaLine_free node), lastWrite_map]
  cases lastWrite (numaBytes node (utf8 "MemFree")) (split payload 10) <;> rfl

/-- The node that a record lists: one with a total. -/
def listedNode (record : RawEvidence) : Option NumaMemory :=
  ((meminfoNodeNumber record.pathOrCommand).map fun number =>
    (parseNumaMeminfo record.payload (UInt32.ofNat number)).1).filter fun node => 0 < node.total

theorem foldl_scanNumaMeminfo (records : List RawEvidence) (s : List NumaMemory × List Bytes) :
    (records.foldl scanNumaMeminfo s).1 = s.1 ++ records.filterMap listedNode := by
  induction records generalizing s with
  | nil => simp
  | cons record records ih =>
      rw [List.foldl_cons, ih, scanNumaMeminfo, List.filterMap_cons, listedNode]
      cases meminfoNodeNumber record.pathOrCommand with
      | none => rfl
      | some number =>
          rw [Option.map_some, Option.filter_some]
          dsimp only
          by_cases htotal : 0 < (parseNumaMeminfo record.payload (UInt32.ofNat number)).1.total
          · rw [if_pos htotal, if_pos (decide_eq_true htotal), List.append_assoc]
            rfl
          · rw [if_neg htotal, if_neg (by simpa using htotal)]

/-! ### The parser -/

/-- The last number that can be read does not vanish in 64 bits. -/
def Totals (bytes : Bytes → Option ℕ) (payload : Bytes) : Prop :=
  ∃ n ∈ lastWrite bytes (split payload 10), ¬2 ^ 64 ∣ n

instance (bytes : Bytes → Option ℕ) (payload : Bytes) : Decidable (Totals bytes payload) :=
  inferInstanceAs (Decidable (∃ n ∈ lastWrite bytes (split payload 10), ¬2 ^ 64 ∣ n))

theorem ofNat64_ne_zero {n : ℕ} : UInt64.ofNat n ≠ 0 ↔ ¬2 ^ 64 ∣ n := by
  rw [ne_eq, ← UInt64.toNat_inj, UInt64.toNat_ofNat', Nat.dvd_iff_mod_eq_zero]
  rfl

theorem getD_ofNat64_ne_zero {number : Option ℕ} :
    (number.map UInt64.ofNat).getD 0 ≠ 0 ↔ ∃ n ∈ number, ¬2 ^ 64 ∣ n := by
  cases number with
  | none => simp
  | some n => simpa using ofNat64_ne_zero

theorem total_ne_zero_iff (payload : Bytes) :
    (parseMeminfo payload).total ≠ 0 ↔ Totals (meminfoBytes (utf8 "MemTotal")) payload := by
  rw [parseMeminfo_total, getD_ofNat64_ne_zero, Totals]

/-- A record lists the node with the number in its path, if its total counts. -/
theorem mem_listedNode {record : RawEvidence} {node : NumaMemory} :
    node ∈ listedNode record ↔ ∃ number ∈ meminfoNodeNumber record.pathOrCommand,
      Totals (numaBytes (UInt32.ofNat number) (utf8 "MemTotal")) record.payload ∧
        node = (parseNumaMeminfo record.payload (UInt32.ofNat number)).1 := by
  rw [listedNode, Option.mem_def, Option.filter_eq_some_iff, Option.map_eq_some_iff]
  have htotal : ∀ number, 0 < (parseNumaMeminfo record.payload (UInt32.ofNat number)).1.total ↔
      Totals (numaBytes (UInt32.ofNat number) (utf8 "MemTotal")) record.payload := by
    intro number
    rw [UInt64.pos_iff_ne_zero, parseNumaMeminfo_total, getD_ofNat64_ne_zero, Totals]
  constructor
  · rintro ⟨⟨number, hnumber, rfl⟩, hpos⟩
    exact ⟨number, hnumber, (htotal number).mp (of_decide_eq_true hpos), rfl⟩
  · rintro ⟨number, hnumber, htotals, rfl⟩
    exact ⟨⟨number, hnumber, rfl⟩, decide_eq_true ((htotal number).mpr htotals)⟩

theorem applyEdacInventory_sizes (raw : EvidenceStore) (s : Memory × Bytes) :
    (applyEdacInventory raw s).1.totalMemory = s.1.totalMemory ∧
      (applyEdacInventory raw s).1.availableMemory = s.1.availableMemory ∧
      (applyEdacInventory raw s).1.numaMemory = s.1.numaMemory := by
  rw [applyEdacInventory]
  dsimp only
  split <;> exact ⟨rfl, rfl, rfl⟩

theorem countDimms_sizes (memory : Memory) :
    (countDimms memory).totalMemory = memory.totalMemory ∧
      (countDimms memory).availableMemory = memory.availableMemory ∧
      (countDimms memory).numaMemory = memory.numaMemory := by
  rw [countDimms]
  split <;> exact ⟨rfl, rfl, rfl⟩

/-- The reports about modules and controllers change no size. -/
theorem applyMemoryTopology_sizes (raw : EvidenceStore) (memory : Memory) :
    (applyMemoryTopology raw memory).totalMemory = memory.totalMemory ∧
      (applyMemoryTopology raw memory).availableMemory = memory.availableMemory ∧
      (applyMemoryTopology raw memory).numaMemory = memory.numaMemory :=
  ⟨foldl_scanArrayLine_keeps (·.totalMemory) (fun _ _ _ _ _ => rfl) _ _,
    foldl_scanArrayLine_keeps (·.availableMemory) (fun _ _ _ _ _ => rfl) _ _,
    foldl_scanArrayLine_keeps (·.numaMemory) (fun _ _ _ _ _ => rfl) _ _⟩

/-- **The sizes of a memory**: those of `/proc/meminfo`, and the nodes that are listed, record by
record. -/
theorem parseMemory_sizes {raw : EvidenceStore} {memory : Memory}
    (h : (parseMemory raw).1 = some memory) :
    ∃ record ∈ (raw.successes .procMemInfo).head?,
      Totals (meminfoBytes (utf8 "MemTotal")) record.payload ∧
        memory.totalMemory = (parseMeminfo record.payload).total ∧
        memory.availableMemory = (parseMeminfo record.payload).available ∧
        memory.numaMemory = (raw.successes .sysfsNuma).filterMap listedNode := by
  rw [parseMemory] at h
  cases hrecord : (raw.successes .procMemInfo).head? with
  | none =>
      rw [hrecord] at h
      cases h
  | some record =>
      rw [hrecord] at h
      dsimp only at h
      split at h
      · cases h
      · rename_i htotal
        obtain rfl := Option.some.inj h
        refine ⟨record, rfl, (total_ne_zero_iff _).mp htotal, ?_⟩
        simp only [applyMemoryTopology_sizes, countDimms_sizes, applyEdacInventory_sizes,
          foldl_scanNumaMeminfo, List.nil_append, and_self]

/-- There is a memory as soon as the total counts. -/
theorem parseMemory_isSome {raw : EvidenceStore} {record : RawEvidence}
    (hrecord : record ∈ (raw.successes .procMemInfo).head?)
    (htotal : Totals (meminfoBytes (utf8 "MemTotal")) record.payload) :
    ∃ memory, (parseMemory raw).1 = some memory := by
  rw [parseMemory, Option.mem_def.mp hrecord]
  dsimp only
  rw [if_neg ((total_ne_zero_iff _).mpr htotal)]
  exact ⟨_, rfl⟩

end Sysal.MemoryParser
