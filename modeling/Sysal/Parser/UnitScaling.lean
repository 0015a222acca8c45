import Sysal.Parser.BlockDevices
import Sysal.Parser.MeminfoNumbers
import Sysal.Parser.NumericEvidence
import Sysal.Parser.Network

/-!
# Unit factors

Sizes, frequencies and rates come in kilobytes, sectors, kilohertz and megabits and are stored in bytes,
hertz and bits.  Every conversion but one divides before it multiplies; the one for kilobytes, which
`/proc/meminfo` and the memory of the NUMA nodes go through, multiplies modulo `2 ^ 64`.

* `sizesExact_iff`: when the sizes of a memory are the last ones that fit 64 bits;
* `unitScalingExact_iff`: the same for all conversions, of which the others are always exact;
* `unitScalingExact_fails`: a total of 16 exbibytes and a kilobyte becomes a kilobyte.
-/

namespace Sysal

open Std

/-! ### Kilobytes -/

namespace MemoryParser

/-- The bytes of the last line that fits 64 bits. -/
def statedSize (bytes : Bytes → Option ℕ) (payload : Bytes) : Option ℕ :=
  lastFitting (· < 2 ^ 64) bytes (split payload 10)

/-- The last line fits 64 bits, or what is left of its bytes is what the last line that fits says. -/
def SizeSettled (bytes : Bytes → Option ℕ) (payload : Bytes) : Prop :=
  Settled (· < 2 ^ 64) bytes (fun n => some (n % 2 ^ 64)) some none (split payload 10)

theorem map_ofNat64_iff (bytes : Bytes → Option ℕ) (payload : Bytes) :
    ((lastWrite bytes (split payload 10)).map UInt64.ofNat).map UInt64.toNat =
        statedSize bytes payload ↔ SizeSettled bytes payload := by
  rw [SizeSettled, ← narrowed_eq_iff fun n hn => congrArg some (Nat.mod_eq_of_lt hn), statedSize,
    Option.map_map]
  cases lastWrite bytes (split payload 10) <;>
    cases lastFitting (· < 2 ^ 64) bytes (split payload 10) <;> simp

/-- A size that counts is the last one that fits exactly when it is settled. -/
theorem getD_ofNat64_iff {bytes : Bytes → Option ℕ} {payload : Bytes} (h : Totals bytes payload) :
    some (((lastWrite bytes (split payload 10)).map UInt64.ofNat).getD 0).toNat =
        statedSize bytes payload ↔ SizeSettled bytes payload := by
  obtain ⟨n, hn, -⟩ := h
  rw [← map_ofNat64_iff, Option.mem_def.mp hn, Option.map_some, Option.map_some, Option.getD_some]

/-- The sizes of a node are those of the last lines about them that fit. -/
structure NodeSizesExact (payload : Bytes) (node : NumaMemory) : Prop where
  total : some node.total.toNat = statedSize (numaBytes node.node (utf8 "MemTotal")) payload
  free : node.free.map UInt64.toNat = statedSize (numaBytes node.node (utf8 "MemFree")) payload

/-- The sizes of a memory are those of the last lines about them that fit, and so are those of every
node that a record lists. -/
structure SizesExact (raw : EvidenceStore) (memory : Memory) : Prop where
  total : ∀ record ∈ (raw.successes .procMemInfo).head?,
    some memory.totalMemory.toNat = statedSize (meminfoBytes (utf8 "MemTotal")) record.payload
  available : ∀ record ∈ (raw.successes .procMemInfo).head?,
    memory.availableMemory.map UInt64.toNat =
      statedSize (meminfoBytes (utf8 "MemAvailable")) record.payload
  listed : memory.numaMemory = (raw.successes .sysfsNuma).filterMap listedNode
  nodes : ∀ record ∈ raw.successes .sysfsNuma, ∀ node ∈ listedNode record,
    NodeSizesExact record.payload node

/-- Where `/proc/meminfo` and a node have a total that counts, the kilobytes are settled. -/
structure KilobytesSettled (raw : EvidenceStore) : Prop where
  meminfo : ∀ record ∈ (raw.successes .procMemInfo).head?,
    Totals (meminfoBytes (utf8 "MemTotal")) record.payload →
      SizeSettled (meminfoBytes (utf8 "MemTotal")) record.payload ∧
        SizeSettled (meminfoBytes (utf8 "MemAvailable")) record.payload
  nodes : ∀ record ∈ (raw.successes .procMemInfo).head?,
    Totals (meminfoBytes (utf8 "MemTotal")) record.payload → ∀ record ∈ raw.successes .sysfsNuma,
      ∀ number ∈ meminfoNodeNumber record.pathOrCommand,
        Totals (numaBytes (UInt32.ofNat number) (utf8 "MemTotal")) record.payload →
          SizeSettled (numaBytes (UInt32.ofNat number) (utf8 "MemTotal")) record.payload ∧
            SizeSettled (numaBytes (UInt32.ofNat number) (utf8 "MemFree")) record.payload

theorem nodeSizesExact_iff {payload : Bytes} {node : NumaNodeId}
    (h : Totals (numaBytes node (utf8 "MemTotal")) payload) :
    NodeSizesExact payload (parseNumaMeminfo payload node).1 ↔
      SizeSettled (numaBytes node (utf8 "MemTotal")) payload ∧
        SizeSettled (numaBytes node (utf8 "MemFree")) payload := by
  rw [← getD_ofNat64_iff h, ← map_ofNat64_iff (numaBytes node (utf8 "MemFree")),
    ← parseNumaMeminfo_total, ← parseNumaMeminfo_free]
  have hnode := parseNumaMeminfo_node payload node
  constructor
  · intro h
    have htotal := h.total
    have hfree := h.free
    rw [hnode] at htotal hfree
    exact ⟨htotal, hfree⟩
  · rintro ⟨htotal, hfree⟩
    refine ⟨?_, ?_⟩
    · rw [hnode]
      exact htotal
    · rw [hnode]
      exact hfree

/-- **The sizes of a memory** are exact exactly when the kilobytes are settled. -/
theorem sizesExact_iff (raw : EvidenceStore) :
    (∀ memory, (parseMemory raw).1 = some memory → SizesExact raw memory) ↔
      KilobytesSettled raw := by
  constructor
  · intro h
    refine ⟨fun record hrecord htotal => ?_, fun record hrecord htotal noderecord hnode number hnumber
      hlisted => ?_⟩
    · obtain ⟨memory, hmemory⟩ := parseMemory_isSome hrecord htotal
      obtain ⟨record', hrecord', -, hsize, havailable, -⟩ := parseMemory_sizes hmemory
      obtain rfl := Option.mem_unique hrecord' hrecord
      have hexact := h memory hmemory
      have htotal' := hexact.total record' hrecord'
      have havailable' := hexact.available record' hrecord'
      rw [hsize, parseMeminfo_total] at htotal'
      rw [havailable, parseMeminfo_available] at havailable'
      exact ⟨(getD_ofNat64_iff htotal).mp htotal', (map_ofNat64_iff _ _).mp havailable'⟩
    · obtain ⟨memory, hmemory⟩ := parseMemory_isSome hrecord htotal
      exact (nodeSizesExact_iff hlisted).mp ((h memory hmemory).nodes noderecord hnode _
        (mem_listedNode.mpr ⟨number, hnumber, hlisted, rfl⟩))
  · intro h memory hmemory
    obtain ⟨record, hrecord, htotal, hsize, havailable, hnuma⟩ := parseMemory_sizes hmemory
    have hsettled := h.meminfo record hrecord htotal
    constructor
    · intro record' hrecord'
      obtain rfl := Option.mem_unique hrecord' hrecord
      rw [hsize, parseMeminfo_total]
      exact (getD_ofNat64_iff htotal).mpr hsettled.1
    · intro record' hrecord'
      obtain rfl := Option.mem_unique hrecord' hrecord
      rw [havailable, parseMeminfo_available]
      exact (map_ofNat64_iff _ _).mpr hsettled.2
    · exact hnuma
    · intro noderecord hnode node hmem
      obtain ⟨number, hnumber, hlisted, rfl⟩ := mem_listedNode.mp hmem
      exact (nodeSizesExact_iff hlisted).mpr
        (h.nodes record hrecord htotal noderecord hnode number hnumber hlisted)

/-! ### EDAC mebibytes -/

/-- A size of an EDAC device or controller is its mebibytes in bytes. -/
structure MebibytesExact (record : RawEvidence) : Prop where
  device : ∀ device field,
    Faithful optionalValue64 ((parseUint (trim record.payload)).map (· * (1024 * 1024)))
      device.size (readDeviceField device field record.payload).size
  controller : ∀ controller name,
    Faithful optionalValue64 ((parseUint (trim record.payload)).map (· * (1024 * 1024)))
      controller.capacity (readControllerField controller name record.payload).capacity

theorem mebibytesExact (record : RawEvidence) : MebibytesExact record := by
  have hscaled := faithful_mulChecked (show 0 < 1024 * 1024 by decide)
    (parseUint (trim record.payload))
  constructor
  · intro device field
    simp only [readDeviceField, apply_ite EdacMemoryDevice.size]
    repeat' apply Faithful.ite
    all_goals try exact Faithful.refl _ _ _
    have hsize := hscaled device.size
    rw [show mulChecked (1024 * 1024) = mebibytes from rfl] at hsize
    split
    · rename_i size hset
      rwa [hset] at hsize
    · exact Faithful.refl _ _ _
  · intro controller name
    simp only [readControllerField, apply_ite MemoryController.capacity]
    repeat' apply Faithful.ite
    all_goals try exact Faithful.refl _ _ _
    · have hcapacity := hscaled controller.capacity
      rw [show mulChecked (1024 * 1024) = mebibytes from rfl] at hcapacity
      split
      · rename_i size hset
        rwa [hset] at hcapacity
      · exact Faithful.refl _ _ _
    · split <;> exact Faithful.refl _ _ _
    · split <;> exact Faithful.refl _ _ _

end MemoryParser

/-! ### Kilohertz -/

namespace CpuParser

open CpuDetails

/-- A kilohertz value is converted behind a division check. -/
theorem readKhz_eq_some {payload : Bytes} {f : ℕ} (h : readKhz payload = some f) :
    ∃ n, parseUint payload = some n ∧ f = n * 1000 ∧ f < 2 ^ 64 := by
  rw [readKhz] at h
  cases hn : parseUint payload with
  | none =>
      rw [hn] at h
      cases h
  | some n =>
      rw [hn] at h
      dsimp only at h
      split at h
      · rename_i hguard
        obtain rfl := Option.some.inj h
        exact ⟨n, rfl, rfl, (le_div_iff_mul_lt (by decide)).mp hguard.2⟩
      · cases h

/-- A frequency in hertz that one of the records states in kilohertz. -/
def StatedKhz (records : List RawEvidence) (f : ℕ) : Prop :=
  ∃ record ∈ records, ∃ n, parseUint record.payload = some n ∧ f = n * 1000 ∧ f < 2 ^ 64

theorem StatedKhz.mono {records more : List RawEvidence} {f : ℕ} (h : StatedKhz records f)
    (hsub : ∀ record ∈ records, record ∈ more) : StatedKhz more f := by
  obtain ⟨record, hrecord, hstated⟩ := h
  exact ⟨record, hsub record hrecord, hstated⟩

/-- The frequencies of a scan, as far as they come from a list of records. -/
structure ScanStated (records : List RawEvidence) (before after : FrequencyScan) : Prop where
  base : ∀ f, f ∈ after.base → f ∈ before.base ∨ StatedKhz records f
  max : ∀ f, after.max = some f → before.max = some f ∨ StatedKhz records f

theorem ScanStated.refl (records : List RawEvidence) (s : FrequencyScan) : ScanStated records s s :=
  ⟨fun _ h => Or.inl h, fun _ h => Or.inl h⟩

/-- One record adds only what it states. -/
theorem scanFrequency_stated (ids : List UInt32) (s : FrequencyScan) (record : RawEvidence) :
    ScanStated [record] s (scanFrequency ids s record) := by
  have hkeep := ScanStated.refl [record] s
  rw [scanFrequency]
  cases extractCpuNumberFromPath record.pathOrCommand with
  | none => exact hkeep
  | some cpu =>
      dsimp only
      split
      · exact hkeep
      cases hkhz : readKhz record.payload with
      | none =>
          dsimp only
          rw [ite_self, ite_self]
          exact hkeep
      | some f =>
          have hstated : StatedKhz [record] f :=
            ⟨record, List.mem_singleton_self record, readKhz_eq_some hkhz⟩
          have hbase : ∀ g, g ∈ s.base.insert f → g ∈ s.base ∨ StatedKhz [record] g := by
            intro g hg
            rcases TreeSet.mem_insert.mp hg with heq | hmem
            · exact Or.inr (Std.compare_eq_iff_eq.mp heq ▸ hstated)
            · exact Or.inl hmem
          have hmax : ∀ g, some (Nat.max (s.max.getD 0) f) = some g →
              s.max = some g ∨ StatedKhz [record] g := by
            intro g hg
            have hlargest : max (s.max.getD 0) f = g := Option.some.inj hg
            cases hm : s.max with
            | none =>
                rw [hm, Option.getD_none, Nat.zero_max] at hlargest
                exact Or.inr (hlargest ▸ hstated)
            | some m =>
                rw [hm, Option.getD_some] at hlargest
                rcases Nat.le_total f m with hle | hle
                · rw [Nat.max_eq_left hle] at hlargest
                  exact Or.inl (congrArg some hlargest)
                · rw [Nat.max_eq_right hle] at hlargest
                  exact Or.inr (hlargest ▸ hstated)
          dsimp only
          split <;> split
          · exact ⟨hbase, hmax⟩
          · exact ⟨hkeep.base, hmax⟩
          · exact ⟨hbase, hkeep.max⟩
          · exact hkeep

/-- A scan adds only what its records state. -/
theorem foldl_scanFrequency_stated (ids : List UInt32) (records : List RawEvidence)
    (s : FrequencyScan) : ScanStated records s (records.foldl (scanFrequency ids) s) := by
  induction records generalizing s with
  | nil => exact ScanStated.refl [] s
  | cons record records ih =>
      rw [List.foldl_cons]
      have hstep := scanFrequency_stated ids s record
      have hrest := ih (scanFrequency ids s record)
      have hhead : ∀ f, StatedKhz [record] f → StatedKhz (record :: records) f :=
        fun f h => h.mono fun r hr => by rw [List.mem_singleton.mp hr]; exact List.mem_cons_self
      have htail : ∀ f, StatedKhz records f → StatedKhz (record :: records) f :=
        fun f h => h.mono fun r hr => List.mem_cons_of_mem _ hr
      refine ⟨fun f hf => ?_, fun f hf => ?_⟩
      · rcases hrest.base f hf with hmid | hlater
        · exact (hstep.base f hmid).imp_right (hhead f)
        · exact Or.inr (htail f hlater)
      · rcases hrest.max f hf with hmid | hlater
        · exact (hstep.max f hmid).imp_right (hhead f)
        · exact Or.inr (htail f hlater)

/-- The frequencies of a package are ones that the records state. -/
theorem readCpufreq_stated (raw : EvidenceStore) (ids : List UInt32) :
    (∀ f ∈ (readCpufreq raw ids).1, StatedKhz (raw.successes .sysfsCpu) f.toNat) ∧
      ∀ f ∈ (readCpufreq raw ids).2, StatedKhz (raw.successes .sysfsCpu) f.toNat := by
  have hscan := foldl_scanFrequency_stated ids (raw.successes .sysfsCpu) {}
  have hvalue : ∀ f, StatedKhz (raw.successes .sysfsCpu) f →
      StatedKhz (raw.successes .sysfsCpu) (UInt64.ofNat f).toNat := by
    rintro f ⟨record, hrecord, n, hn, hf, hlt⟩
    rw [UInt64.toNat_ofNat', Nat.mod_eq_of_lt hlt]
    exact ⟨record, hrecord, n, hn, hf, hlt⟩
  rw [readCpufreq]
  generalize (raw.successes .sysfsCpu).foldl (scanFrequency ids) {} = s at hscan
  dsimp only
  refine ⟨fun f hf => ?_, fun f hf => ?_⟩
  · split at hf
    · rename_i g hlist
      obtain rfl := Option.some.inj hf
      refine hvalue g ((hscan.base g ?_).resolve_left TreeSet.not_mem_emptyc)
      rw [← TreeSet.mem_toList, hlist]
      exact List.mem_singleton_self g
    · cases hf
  · obtain ⟨g, hg, rfl⟩ := Option.map_eq_some_iff.mp hf
    refine hvalue g ((hscan.max g hg).resolve_left ?_)
    intro hnone
    cases hnone

/-! ### Frequency policies and cache sizes -/

/-- The frequencies of a policy. -/
def policyFrequencies : List (CpuFrequencyPolicy → Option Frequency) :=
  [(·.baseFrequency), (·.hardwareMinFrequency), (·.hardwareMaxFrequency), (·.scalingMinFrequency),
   (·.scalingMaxFrequency), (·.scalingCurrentFrequency), (·.hardwareCurrentFrequency)]

theorem khzToFrequency_eq_some {payload : Bytes} {f : Frequency}
    (h : khzToFrequency payload = some f) :
    (parseUint payload).map (· * 1000) = some f.toNat := by
  rw [khzToFrequency] at h
  cases hn : parseUint payload with
  | none =>
      rw [hn] at h
      cases h
  | some n =>
      rw [hn] at h
      dsimp only at h
      split at h
      · rename_i hguard
        obtain rfl := Option.some.inj h
        have hlt := (le_div_iff_mul_lt (by decide)).mp hguard.2
        rw [Option.map_some, UInt64.toNat_ofNat', Nat.mod_eq_of_lt hlt]
      · cases h

/-- A frequency attribute sets one frequency of a policy. -/
theorem frequencyFields_set {entry : Bytes × (CpuFrequencyPolicy → Frequency → CpuFrequencyPolicy)}
    (hentry : entry ∈ frequencyFields) {field : CpuFrequencyPolicy → Option Frequency}
    (hfield : field ∈ policyFrequencies) (policy : CpuFrequencyPolicy) (f : Frequency) :
    field (entry.2 policy f) = field policy ∨ field (entry.2 policy f) = some f := by
  simp only [frequencyFields, List.mem_cons, List.not_mem_nil, or_false] at hentry
  simp only [policyFrequencies, List.mem_cons, List.not_mem_nil, or_false] at hfield
  rcases hentry with rfl | rfl | rfl | rfl | rfl | rfl | rfl <;>
    rcases hfield with rfl | rfl | rfl | rfl | rfl | rfl | rfl <;>
    first
    | exact Or.inl rfl
    | exact Or.inr rfl

/-- Texts and CPU lists are no frequencies. -/
theorem policyFrequencies_eq {before after : CpuFrequencyPolicy}
    (h : policyFrequencies.map (· after) = policyFrequencies.map (· before)) :
    ∀ field ∈ policyFrequencies, field after = field before :=
  List.map_inj_left.mp h

/-- An attribute sets at most one frequency of a policy, to the hertz of its kilohertz. -/
theorem readPolicyField_exact (policy : CpuFrequencyPolicy) (record : RawEvidence) :
    ∀ field ∈ policyFrequencies,
      Faithful optionalValue64 ((parseUint record.payload).map (· * 1000)) (field policy)
        (field (readPolicyField policy record).1) := by
  intro field hfield
  rw [readPolicyField]
  split
  · split
    · split
      · exact Or.inl (policyFrequencies_eq (by rfl) field hfield)
      · exact Or.inl (policyFrequencies_eq (by rfl) field hfield)
    · exact Faithful.refl _ _ _
  split
  · rename_i name set hfind
    cases hkhz : khzToFrequency record.payload with
    | none => exact Faithful.refl _ _ _
    | some f =>
        rcases frequencyFields_set (List.mem_of_find?_eq_some hfind) hfield policy f with
          hkeep | hset
        · exact Or.inl hkeep
        · refine Faithful.stored (khzToFrequency_eq_some hkhz) ?_
          dsimp only at hset ⊢
          rw [hset]
          rfl
  · left
    refine policyFrequencies_eq ?_ field hfield
    split
    · rfl
    split
    · rfl
    split
    · rfl
    · rfl

/-- The bytes that a cache size states. -/
def cacheSizeNumber (payload : Bytes) : Option ℕ :=
  (parseUint (cacheSizeUnit (trim payload)).2).map (· * (cacheSizeUnit (trim payload)).1)

theorem cacheSizeUnit_pos (s : Bytes) : 0 < (cacheSizeUnit s).1 := by
  rw [cacheSizeUnit]
  repeat' split
  all_goals simp

theorem parseCacheSize_eq_some {payload : Bytes} {size : MemorySize}
    (h : parseCacheSize payload = some size) : cacheSizeNumber payload = some size.toNat := by
  rw [parseCacheSize] at h
  rw [cacheSizeNumber]
  cases hn : parseUint (cacheSizeUnit (trim payload)).2 with
  | none =>
      rw [hn] at h
      cases h
  | some n =>
      rw [hn] at h
      dsimp only at h
      split at h
      · cases h
      · rename_i hguard
        obtain rfl := Option.some.inj h
        have hlt := (le_div_iff_mul_lt (cacheSizeUnit_pos (trim payload))).mp (Nat.le_of_not_lt hguard)
        rw [Option.map_some, UInt64.toNat_ofNat', Nat.mod_eq_of_lt hlt]

/-- The size of a cache is the one a file states. -/
theorem readCacheField_size (cache : CpuCache) (path payload : Bytes) :
    Faithful fieldValue64 (cacheSizeNumber payload) cache.size
      (readCacheField cache path payload).size := by
  rw [readCacheField_eq]
  cases cacheAttribute path with
  | size =>
      rw [setCacheAttribute]
      cases hsize : parseCacheSize payload with
      | none => exact Faithful.refl _ _ _
      | some size => exact Faithful.stored (parseCacheSize_eq_some hsize) rfl
  | _ => exact Faithful.refl _ _ _

end CpuParser

/-! ### Sectors, megabits and gigabits -/

namespace StorageParser

theorem parseSectors_eq_some {payload : Bytes} {bytes : MemorySize}
    (h : parseSectors payload = some bytes) :
    ∃ n, parseUint (trim payload) = some n ∧ bytes.toNat = n * 512 := by
  obtain ⟨n, hn, hproduct⟩ := Option.bind_eq_some_iff.mp h
  exact ⟨n, hn, (mulChecked_eq_some (by decide)).mp hproduct⟩

/-- The capacity of a device is its sectors in bytes. -/
def CapacityExact (raw : EvidenceStore) (device : StorageDevice) : Prop :=
  ∀ bytes ∈ device.capacity,
    ∃ payload ∈ ((deviceAttributes raw).getD device.name ∅)[utf8 "size"]?,
      ∃ n, parseUint (trim payload) = some n ∧ bytes.toNat = n * 512

theorem capacityExact {raw : EvidenceStore} {device : StorageDevice}
    (h : device ∈ (blockDevices raw).1) : CapacityExact raw device := by
  intro bytes hbytes
  obtain ⟨⟨⟨name, attributes⟩, id⟩, hmem, rfl⟩ := List.mem_map.mp h
  have hget : (deviceAttributes raw)[name]? = some attributes :=
    TreeMap.mem_toList_iff_getElem?_eq_some.mp (List.fst_mem_of_mem_zipIdx hmem)
  obtain ⟨payload, hpayload, hsectors⟩ := Option.bind_eq_some_iff.mp hbytes
  refine ⟨payload, ?_, parseSectors_eq_some hsectors⟩
  rw [TreeMap.getD_eq_getD_getElem?]
  show payload ∈ (((deviceAttributes raw)[name]?).getD ∅)[utf8 "size"]?
  rw [hget]
  exact hpayload

end StorageParser

namespace NetworkParser

/-- The speed of an interface is its megabits in bits. -/
theorem readInterfaceFile_speed (iface : NetworkInterface) (filename payload : Bytes) :
    Faithful optionalValue64 ((parseUint (trim payload)).map (· * 1000000)) iface.speed
      (readInterfaceFile iface filename payload).speed := by
  have hspeed : Faithful optionalValue64 ((parseUint (trim payload)).map (· * 1000000)) iface.speed
      ((parseSpeed payload).or iface.speed) := by
    rw [parseSpeed]
    cases hn : parseUint (trim payload) with
    | none => exact Faithful.refl _ _ _
    | some n =>
        by_cases hpos : 0 < n
        · rw [Option.filter_some, if_pos (decide_eq_true hpos)]
          exact faithful_mulChecked (by decide) (some n) iface.speed
        · rw [Option.filter_some, if_neg (by simpa using hpos)]
          exact Faithful.refl _ _ _
  simp only [readInterfaceFile, apply_ite NetworkInterface.speed]
  repeat' apply Faithful.ite
  all_goals first
    | exact Faithful.refl _ _ _
    | exact hspeed

end NetworkParser

namespace RdmaParser

theorem parseRate_eq_some {report : Bytes} {rate : Bandwidth} (h : parseRate report = some rate) :
    ∃ whole fraction, rateNumbers report = some (whole, fraction) ∧
      rate.toNat = whole * rateScale + fraction := by
  rw [parseRate] at h
  cases hnumbers : rateNumbers report with
  | none =>
      rw [hnumbers] at h
      cases h
  | some numbers =>
      rw [hnumbers] at h
      obtain ⟨whole, fraction⟩ := numbers
      dsimp only at h
      split at h
      · cases h
      · rename_i hguard
        obtain rfl := Option.some.inj h
        have hlt := (le_div_iff_mul_lt (n := whole) (show 0 < rateScale by decide)).mp
          (Nat.le_of_not_lt (not_or.mp hguard).1)
        have hsum := (not_or.mp hguard).2
        refine ⟨whole, fraction, rfl, ?_⟩
        rw [maxUInt64] at hsum
        rw [UInt64.toNat_ofNat', Nat.mod_eq_of_lt (by omega)]

/-- The rate of a port is the decimal number of gigabits that is reported, or unknown. -/
theorem parsePort_rate (port : RdmaPort) (field payload : Bytes) :
    ∀ rate ∈ (parsePort port field payload).rate, port.rate = some rate ∨
      ∃ whole fraction, rateNumbers (hardwareText payload) = some (whole, fraction) ∧
        rate.toNat = whole * rateScale + fraction := by
  intro rate hrate
  by_cases hfield : field = utf8 "rate"
  · rw [parsePort, if_neg (by rw [hfield]; decide), if_neg (by rw [hfield]; decide),
      if_neg (by rw [hfield]; decide), if_pos hfield] at hrate
    exact Or.inr (parseRate_eq_some hrate)
  · left
    simp only [parsePort, apply_ite RdmaPort.rate, if_neg hfield, ite_self] at hrate
    exact hrate

end RdmaParser

/-! ### `nvidia-smi` units -/

namespace AcceleratorParser

/-- The number and the factor of a memory size. -/
def smiNumber (field : Bytes) : Option ℕ :=
  (parseUint (trim ((split (trim field) 32).headD []))).map fun number =>
    number * ((((split (trim field) 32)[1]?).map trim).map unitMultiplier).getD (1024 * 1024)

theorem unitMultiplier_pos (unit : Bytes) : 0 < unitMultiplier unit := by
  rw [unitMultiplier]
  split
  · rename_i name multiplier hfind
    have hmem := List.mem_of_find?_eq_some hfind
    simp only [unitMultipliers, List.mem_cons, List.not_mem_nil, or_false, Prod.mk.injEq] at hmem
    omega
  · decide

theorem nvidiaSmiMemory_eq_some {field : Bytes} {size : MemorySize}
    (h : (nvidiaSmiMemory field).1 = some size) : smiNumber field = some size.toNat := by
  rw [nvidiaSmiMemory] at h
  rw [smiNumber]
  dsimp only at h
  cases hn : parseUint (trim ((split (trim field) 32).headD [])) with
  | none =>
      rw [hn] at h
      cases h
  | some n =>
      rw [hn] at h
      have hpos : 0 < ((((split (trim field) 32)[1]?).map trim).map unitMultiplier).getD
          (1024 * 1024) := by
        cases (split (trim field) 32)[1]? with
        | none => decide
        | some unit => exact unitMultiplier_pos (trim unit)
      dsimp only at h
      split at h
      · rename_i hguard
        obtain rfl := Option.some.inj h
        have hlt := (le_div_iff_mul_lt hpos).mp hguard
        rw [Option.map_some, UInt64.toNat_ofNat', Nat.mod_eq_of_lt hlt]
      · cases h

/-- The memory of a device is the number in the third column in its unit. -/
theorem parseNvidiaSmiRow_memory {line : Bytes} {device : AcceleratorDevice}
    (h : (parseNvidiaSmiRow line).1 = some device) :
    ∀ size ∈ device.memorySize, ((split line 44)[2]?).bind smiNumber = some size.toNat := by
  intro size hsize
  rw [parseNvidiaSmiRow] at h
  split at h
  · rename_i index name memory bus rest hsplit
    split at h
    · cases h
    · obtain rfl := Option.some.inj h
      rw [hsplit]
      exact nvidiaSmiMemory_eq_some hsize
  · cases h

end AcceleratorParser

/-! ### All conversions -/

/-- Every conversion of the evidence is exact.  The sizes of the memory are those that the lines state
and 64 bits can hold.  At every other site, from whatever state it is reached, a field has the product
of the number that was read and the factor, or is left alone. -/
structure UnitScalingExact (raw : EvidenceStore) : Prop where
  memory : ∀ memory, (MemoryParser.parseMemory raw).1 = some memory →
    MemoryParser.SizesExact raw memory
  edac : ∀ record ∈ raw.successes .sysfsEdac, MemoryParser.MebibytesExact record
  frequency : ∀ ids,
    (∀ f ∈ (CpuParser.readCpufreq raw ids).1,
        CpuParser.StatedKhz (raw.successes .sysfsCpu) f.toNat) ∧
      ∀ f ∈ (CpuParser.readCpufreq raw ids).2,
        CpuParser.StatedKhz (raw.successes .sysfsCpu) f.toNat
  policy : ∀ record ∈ raw.successes .sysfsCpu, ∀ policy, ∀ field ∈ CpuParser.policyFrequencies,
    Faithful optionalValue64 ((parseUint record.payload).map (· * 1000)) (field policy)
      (field (CpuDetails.readPolicyField policy record).1)
  cache : ∀ record ∈ raw.successes .sysfsCpu, ∀ cache : CpuCache,
    Faithful fieldValue64 (CpuParser.cacheSizeNumber record.payload) cache.size
      (CpuParser.readCacheField cache record.pathOrCommand record.payload).size
  storage : ∀ device ∈ (StorageParser.blockDevices raw).1, StorageParser.CapacityExact raw device
  network : ∀ record ∈ raw.successes .sysfsNet, ∀ (iface : NetworkInterface) filename,
    Faithful optionalValue64 ((parseUint (trim record.payload)).map (· * 1000000)) iface.speed
      (NetworkParser.readInterfaceFile iface filename record.payload).speed
  rdma : ∀ record ∈ raw.successes .sysfsRdma, ∀ (port : RdmaPort) field,
    ∀ rate ∈ (RdmaParser.parsePort port field record.payload).rate, port.rate = some rate ∨
      ∃ whole fraction, RdmaParser.rateNumbers (hardwareText record.payload) =
          some (whole, fraction) ∧ rate.toNat = whole * RdmaParser.rateScale + fraction
  nvidiaSmi : ∀ record ∈ raw.successes .nvidiaSmi, ∀ line ∈ split record.payload 10,
    ∀ device ∈ (AcceleratorParser.parseNvidiaSmiRow line).1, ∀ size ∈ device.memorySize,
      ((split line 44)[2]?).bind AcceleratorParser.smiNumber = some size.toNat

/-- **Unit scaling is exact** exactly where the kilobytes are settled. -/
theorem unitScalingExact_iff (raw : EvidenceStore) :
    UnitScalingExact raw ↔ MemoryParser.KilobytesSettled raw := by
  rw [← MemoryParser.sizesExact_iff]
  refine ⟨fun h => h.memory, fun h => ?_⟩
  exact {
    memory := h
    edac := fun record _ => MemoryParser.mebibytesExact record
    frequency := fun ids => CpuParser.readCpufreq_stated raw ids
    policy := fun record _ policy => CpuParser.readPolicyField_exact policy record
    cache := fun record _ cache => CpuParser.readCacheField_size cache _ _
    storage := fun device hdevice => StorageParser.capacityExact hdevice
    network := fun record _ iface filename =>
      NetworkParser.readInterfaceFile_speed iface filename record.payload
    rdma := fun record _ port field => RdmaParser.parsePort_rate port field record.payload
    nvidiaSmi := fun record _ line _ device hdevice =>
      AcceleratorParser.parseNvidiaSmiRow_memory hdevice }

/-- A total of 16 exbibytes and a kilobyte. -/
def overflowingStore : EvidenceStore :=
  { records := [evidenceOf .procMemInfo "/proc/meminfo" "MemTotal: 18014398509481985 kB\n"] }

/-- The total that is stored is a kilobyte, and no line says so. -/
theorem unitScalingExact_fails :
    (MemoryParser.parseMemory overflowingStore).1.map (·.totalMemory) = some 1024 ∧
      ¬UnitScalingExact overflowingStore := by
  have htotal : (MemoryParser.parseMemory overflowingStore).1.map (·.totalMemory) = some 1024 := by
    decide +kernel
  refine ⟨htotal, fun h => ?_⟩
  obtain ⟨memory, hmemory, hsize⟩ := Option.map_eq_some_iff.mp htotal
  have hstated := (h.memory memory hmemory).total
    (evidenceOf .procMemInfo "/proc/meminfo" "MemTotal: 18014398509481985 kB\n") (by decide +kernel)
  rw [hsize] at hstated
  exact absurd hstated (by decide +kernel)

end Sysal
