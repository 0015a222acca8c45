import Sysal.Foundation.Json
import Sysal.Model.RawStore
import Sysal.Model.Storage

/-!
# File-system usage

`filesystems.cpp` of the parser, with `filesystem_kind`: a record of the reader names mounts and the
statistics of their file system.  Counts come as JSON numbers, a capacity is a product of two of them.

* `statistics_usage`: the usage of a report is exact, and its counts are ordered;
* `statistics_usage_isSome_iff`: there is a usage exactly when the capacity has a 64-bit number;
* `applyFilesystems_spec`: every report that is added, and what a record without a capacity becomes.
-/

namespace Sysal

/-- `filesystem_kind`. -/
def filesystemKind (type : Bytes) : FilesystemKind :=
  if type ∈ ["tmpfs", "devtmpfs", "ramfs"].map utf8 then .memory
  else if type ∈ ["ext2", "ext3", "ext4", "xfs", "btrfs", "f2fs", "jfs", "reiserfs", "zfs", "bcachefs",
      "vfat", "exfat", "ntfs", "ntfs3", "iso9660", "udf", "squashfs", "overlay"].map utf8 then .local
  else if type ∈ ["nfs", "nfs4", "cifs", "smb3", "ceph", "lustre", "beegfs", "gpfs", "afs", "9p",
      "fuse.sshfs", "fuse.glusterfs", "fuse.ceph"].map utf8 then .network
  else if type ∈ ["fuse", "fuseblk"].map utf8 || Bytes.startsWith type (utf8 "fuse.") then .userspace
  else if type ∈ ["proc", "sysfs", "cgroup", "cgroup2", "devpts", "securityfs", "debugfs", "tracefs",
      "pstore", "efivarfs", "configfs", "mqueue", "hugetlbfs", "binfmt_misc", "autofs", "rpc_pipefs",
      "fusectl", "bpf", "nsfs"].map utf8 then .pseudo
  else .unknown

namespace FilesystemsParser

/-! ### Numbers of a report -/

/-- `number`: an integer that is not negative. -/
def number (value : Json) : Option UInt64 :=
  match value.asInt with
  | some n => if 0 ≤ n then some (UInt64.ofNat n.toNat) else none
  | none => none

/-- `field`. -/
def field (value : Json) (name : String) : Option UInt64 := (value.field name).bind number

/-- A report whose capacity has no number. -/
def invalidCapacity (report : FilesystemReport) : FilesystemReport :=
  { report with
    status := .failed
    failure := some .ioError
    note := utf8 "Invalid filesystem capacity statistics" }

/-- The usage of a file system with a block size and a number of blocks.  A count counts only up to the
one above it: free up to all, available up to free. -/
def usageOf (stats : Json) (size blocks : UInt64) : FilesystemUsage :=
  let free := (field stats "free_blocks").filter (· ≤ blocks)
  let available := free.bind fun free => (field stats "available_blocks").filter (· ≤ free)
  let inodes := (field stats "inodes").filter fun n => n ≠ 0 ∧ n ≠ 0xffffffffffffffff
  let freeInodes := inodes.bind fun inodes => (field stats "free_inodes").filter (· ≤ inodes)
  { total := blocks * size
    free := free.map (· * size)
    available := available.map (· * size)
    inodes := inodes
    freeInodes := freeInodes
    availableInodes := freeInodes.bind fun free =>
      (field stats "available_inodes").filter (· ≤ free)
    filesystemId := ((stats.field "filesystem_id").bind Json.asStr).getD [] }

/-- `statistics`. -/
def statistics (report : FilesystemReport) (stats : Json) : FilesystemReport :=
  match field stats "block_size", field stats "blocks" with
  | some size, some blocks =>
      if size = 0 ∨ 0xffffffffffffffff / size < blocks then invalidCapacity report
      else
        let usage := usageOf stats size blocks
        let report :=
          if usage.free = none ∨ usage.available = none then
            { report with
              status := .partial_
              note := utf8 "Some space statistics were missing or inconsistent" }
          else report
        { report with usage := some usage }
  | _, _ => invalidCapacity report

/-! ### Records -/

/-- The value of a payload, if it is a report that lists mounts. -/
def reportValue (parse : Bytes → Option Json) (payload : Bytes) : Option Json :=
  (parse payload).filter fun value =>
    value.isObject && (value.field "mount_ids").any Json.isArray

/-- The mounts a report names among those that are known. -/
def knownIds (mounts : List StorageMount) (value : Json) : List UInt32 :=
  ((value.field "mount_ids").elim [] Json.elements).filterMap fun id =>
    (number id).bind fun n =>
      if n ≤ 0xffffffff ∧ n.toUInt32 ∈ mounts.map (·.mountId) then some n.toUInt32 else none

/-- The kind of the first mount with an identity. -/
def kindOf (mounts : List StorageMount) (id : UInt32) : FilesystemKind :=
  ((mounts.find? (·.mountId = id)).map fun mount => filesystemKind mount.filesystem).getD .unknown

/-- The report of one record; a record that names no known mount has none. -/
def filesystemReport (mounts : List StorageMount) (record : RawEvidence) (value : Json) :
    Option FilesystemReport :=
  match knownIds mounts value with
  | [] => none
  | id :: ids =>
      let report : FilesystemReport :=
        { mountIds := id :: ids
          kind := kindOf mounts id
          skip := record.skip
          status := record.status
          failure := record.failure
          note := ((value.field "note").bind Json.asStr).getD [] }
      if record.status = .success then
        some (statistics report (((value.field "stats").filter Json.isObject).getD (Json.object [])))
      else some report

/-- One record, with the warnings so far. -/
def applyFilesystem (parse : Bytes → Option Json) (s : Storage × List Bytes) (record : RawEvidence) :
    Storage × List Bytes :=
  match reportValue parse record.payload with
  | none =>
      (s.1, s.2 ++ [utf8 "parse_storage: invalid filesystem report in " ++ record.pathOrCommand])
  | some value =>
      match filesystemReport s.1.mounts record value with
      | none => s
      | some report => ({ s.1 with filesystems := s.1.filesystems ++ [report] }, s.2)

/-- `apply_filesystems`. -/
def applyFilesystems (parse : Bytes → Option Json) (storage : Storage) (raw : EvidenceStore)
    (warnings : List Bytes) : Storage × List Bytes :=
  (raw.getAll .filesystemUsage).foldl (applyFilesystem parse) (storage, warnings)

/-! ### Numbers -/

/-- A member of an object that is the integer `n`. -/
def Number (stats : Json) (name : String) (n : ℕ) : Prop :=
  ∃ value, stats.field name = some value ∧ value.asInt = some (n : ℤ)

theorem number_eq_some_iff {value : Json} {n : UInt64} :
    number value = some n ↔ value.asInt = some (n.toNat : ℤ) := by
  rw [number]
  cases hint : value.asInt with
  | none => exact iff_of_false (by simp) (by simp)
  | some z =>
      have hlt : z < 2 ^ 64 := by
        rw [Json.asInt] at hint
        split at hint
        · rename_i i _
          rw [← Option.some.inj hint]
          exact i.inRange.2
        · cases hint
      by_cases hz : 0 ≤ z
      · have hofNat : (UInt64.ofNat z.toNat).toNat = z.toNat :=
          UInt64.toNat_ofNat_of_lt' (show z.toNat < 2 ^ 64 by omega)
        simp only [hz, if_true, Option.some_inj]
        constructor
        · intro h
          rw [← h, hofNat]
          omega
        · intro h
          rw [← UInt64.toNat_inj, hofNat]
          omega
      · simp only [hz, if_false, Option.some_inj]
        exact iff_of_false (by simp) (by omega)

theorem field_eq_some_iff {stats : Json} {name : String} {n : UInt64} :
    field stats name = some n ↔ Number stats name n.toNat := by
  rw [field, Option.bind_eq_some_iff, Number]
  exact exists_congr fun value => and_congr Iff.rfl number_eq_some_iff

/-- A number of a member is unique. -/
theorem Number.unique {stats : Json} {name : String} {m n : ℕ} (hm : Number stats name m)
    (hn : Number stats name n) : m = n := by
  obtain ⟨v, hv, hm⟩ := hm
  obtain ⟨w, hw, hn⟩ := hn
  have heq : v = w := Option.some.inj (hv.symm.trans hw)
  rw [heq, hn] at hm
  simpa using (Option.some.inj hm).symm

/-- A number a member can have fits 64 bits. -/
theorem Number.field {stats : Json} {name : String} {n : ℕ} (h : Number stats name n) :
    ∃ m, FilesystemsParser.field stats name = some m ∧ m.toNat = n := by
  obtain ⟨value, hvalue, hint⟩ := h
  have hsome : ∃ m, number value = some m := by
    simp [number, hint]
  obtain ⟨m, hm⟩ := hsome
  have hnat := number_eq_some_iff.mp hm
  rw [hint, Option.some_inj] at hnat
  exact ⟨m, by rw [FilesystemsParser.field, hvalue, Option.bind_some, hm], by omega⟩

/-! ### Statistics -/

/-- A block size and a number of blocks whose product is a 64-bit number. -/
def Capacity (stats : Json) (size blocks : ℕ) : Prop :=
  Number stats "block_size" size ∧ Number stats "blocks" blocks ∧ 0 < size ∧
    blocks * size < 2 ^ 64

/-- A usage that is exact: every size is its number of blocks times the block size, every count the
number of its member, and each of them is at most the one above it. -/
structure ExactUsage (stats : Json) (size blocks : ℕ) (usage : FilesystemUsage) : Prop where
  capacity : Capacity stats size blocks
  total : usage.total.toNat = blocks * size
  free : ∀ free, usage.free = some free →
    free ≤ usage.total ∧ ∃ n, Number stats "free_blocks" n ∧ free.toNat = n * size
  available : ∀ available, usage.available = some available →
    (∃ free, usage.free = some free ∧ available ≤ free) ∧
      ∃ n, Number stats "available_blocks" n ∧ available.toNat = n * size
  inodes : ∀ inodes, usage.inodes = some inodes → Number stats "inodes" inodes.toNat
  freeInodes : ∀ free, usage.freeInodes = some free →
    (∃ inodes, usage.inodes = some inodes ∧ free ≤ inodes) ∧ Number stats "free_inodes" free.toNat
  availableInodes : ∀ available, usage.availableInodes = some available →
    (∃ free, usage.freeInodes = some free ∧ available ≤ free) ∧
      Number stats "available_inodes" available.toNat

/-- The check of the code: the product fits exactly when the division check passes. -/
theorem fits_iff {size blocks : UInt64} (hsize : size ≠ 0) :
    ¬0xffffffffffffffff / size < blocks ↔ blocks.toNat * size.toNat < 2 ^ 64 := by
  have hpos : 0 < size.toNat := by
    rcases Nat.eq_zero_or_pos size.toNat with h | h
    · exact absurd (UInt64.toNat_inj.mp h) hsize
    · exact h
  rw [UInt64.lt_iff_toNat_lt, Nat.not_lt, UInt64.toNat_div,
    show (0xffffffffffffffff : UInt64).toNat = 2 ^ 64 - 1 from rfl, Nat.le_div_iff_mul_le hpos]
  omega

/-- A product of fewer blocks does not wrap either. -/
theorem toNat_mul_of_le {n blocks size : UInt64} (hn : n ≤ blocks)
    (hfits : blocks.toNat * size.toNat < 2 ^ 64) : (n * size).toNat = n.toNat * size.toNat := by
  have hle : n.toNat * size.toNat ≤ blocks.toNat * size.toNat :=
    Nat.mul_le_mul_right _ (UInt64.le_iff_toNat_le.mp hn)
  rw [UInt64.toNat_mul, Nat.mod_eq_of_lt (by omega)]

/-- Fewer blocks are no more space. -/
theorem mul_le_mul_of_le {m n blocks size : UInt64} (hmn : m ≤ n) (hn : n ≤ blocks)
    (hfits : blocks.toNat * size.toNat < 2 ^ 64) : m * size ≤ n * size := by
  rw [UInt64.le_iff_toNat_le, toNat_mul_of_le (UInt64.le_trans hmn hn) hfits,
    toNat_mul_of_le hn hfits]
  exact Nat.mul_le_mul_right _ (UInt64.le_iff_toNat_le.mp hmn)

/-- The members of a filtered field. -/
theorem filter_field_eq_some {stats : Json} {name : String} {p : UInt64 → Bool} {n : UInt64}
    (h : (field stats name).filter p = some n) : Number stats name n.toNat ∧ p n = true := by
  rw [Option.filter_eq_some_iff] at h
  exact ⟨field_eq_some_iff.mp h.1, h.2⟩

theorem usageOf_exact {stats : Json} {size blocks : UInt64} (hsize : field stats "block_size" = some size)
    (hblocks : field stats "blocks" = some blocks) (hpos : size ≠ 0)
    (hfits : blocks.toNat * size.toNat < 2 ^ 64) :
    ExactUsage stats size.toNat blocks.toNat (usageOf stats size blocks) := by
  have hfree : ∀ n, (field stats "free_blocks").filter (· ≤ blocks) = some n →
      Number stats "free_blocks" n.toNat ∧ n ≤ blocks := fun n h => by
    simpa using filter_field_eq_some h
  exact
    { capacity :=
        ⟨field_eq_some_iff.mp hsize, field_eq_some_iff.mp hblocks,
          Nat.pos_of_ne_zero fun h => hpos (UInt64.toNat_inj.mp h), hfits⟩
      total := toNat_mul_of_le (UInt64.le_refl blocks) hfits
      free := by
        intro free h
        obtain ⟨n, hn, rfl⟩ := Option.map_eq_some_iff.mp h
        obtain ⟨hnumber, hle⟩ := hfree n hn
        exact ⟨mul_le_mul_of_le hle (UInt64.le_refl blocks) hfits, n.toNat, hnumber,
          toNat_mul_of_le hle hfits⟩
      available := by
        intro available h
        obtain ⟨a, ha, rfl⟩ := Option.map_eq_some_iff.mp h
        obtain ⟨n, hn, ha⟩ := Option.bind_eq_some_iff.mp ha
        obtain ⟨-, hle⟩ := hfree n hn
        obtain ⟨hnumber, hale⟩ := filter_field_eq_some ha
        rw [decide_eq_true_eq] at hale
        refine ⟨⟨n * size, ?_, mul_le_mul_of_le hale hle hfits⟩, a.toNat, hnumber,
          toNat_mul_of_le (UInt64.le_trans hale hle) hfits⟩
        exact Option.map_eq_some_iff.mpr ⟨n, hn, rfl⟩
      inodes := fun inodes h => (filter_field_eq_some h).1
      freeInodes := by
        intro free h
        obtain ⟨inodes, hinodes, hfree⟩ := Option.bind_eq_some_iff.mp h
        obtain ⟨hnumber, hle⟩ := filter_field_eq_some hfree
        exact ⟨⟨inodes, hinodes, by simpa using hle⟩, hnumber⟩
      availableInodes := by
        intro available h
        obtain ⟨free, hfree, havailable⟩ := Option.bind_eq_some_iff.mp h
        obtain ⟨hnumber, hle⟩ := filter_field_eq_some havailable
        exact ⟨⟨free, hfree, by simpa using hle⟩, hnumber⟩ }

/-- A report either has an exact usage, or there is no capacity and it failed. -/
theorem statistics_cases (report : FilesystemReport) (stats : Json) :
    (∃ size blocks : UInt64, Capacity stats size.toNat blocks.toNat ∧
      (statistics report stats).usage = some (usageOf stats size blocks) ∧
      ExactUsage stats size.toNat blocks.toNat (usageOf stats size blocks)) ∨
    ((∀ size blocks, ¬Capacity stats size blocks) ∧
      statistics report stats = invalidCapacity report) := by
  by_cases hcapacity : ∃ size blocks, Capacity stats size blocks
  · left
    obtain ⟨_, _, hs, hb, hpos, hfits⟩ := hcapacity
    obtain ⟨size, hsize, rfl⟩ := hs.field
    obtain ⟨blocks, hblocks, rfl⟩ := hb.field
    have hne : size ≠ 0 := by
      rintro rfl
      exact absurd hpos (by decide)
    have hexact := usageOf_exact hsize hblocks hne hfits
    refine ⟨size, blocks, hexact.capacity, ?_, hexact⟩
    simp only [statistics, hsize, hblocks]
    rw [if_neg (not_or.mpr ⟨hne, (fits_iff hne).mpr hfits⟩)]
  · right
    rw [not_exists] at hcapacity
    simp only [not_exists] at hcapacity
    refine ⟨hcapacity, ?_⟩
    rw [statistics]
    split
    · rename_i size blocks hsize hblocks
      rw [if_pos]
      by_contra hnot
      rw [not_or] at hnot
      exact hcapacity _ _
        (usageOf_exact hsize hblocks hnot.1 ((fits_iff hnot.1).mp hnot.2)).capacity
    · rfl

/-- A report without a usage gets an exact one, or keeps having none. -/
theorem statistics_usage {report : FilesystemReport} {stats : Json} {usage : FilesystemUsage}
    (hnone : report.usage = none) (h : (statistics report stats).usage = some usage) :
    ∃ size blocks, ExactUsage stats size blocks usage := by
  rcases statistics_cases report stats with ⟨size, blocks, -, husage, hexact⟩ | ⟨-, hfailed⟩
  · rw [husage, Option.some_inj] at h
    exact ⟨_, _, h ▸ hexact⟩
  · rw [hfailed, invalidCapacity, hnone] at h
    cases h

/-- Statistics leave the mounts of a report alone. -/
theorem statistics_mountIds (report : FilesystemReport) (stats : Json) :
    (statistics report stats).mountIds = report.mountIds := by
  rw [statistics]
  split
  · split
    · rfl
    · dsimp only
      split <;> rfl
  · rfl

/-! ### Records -/

/-- The report a record adds, if it adds one. -/
def recordReport (parse : Bytes → Option Json) (mounts : List StorageMount) (record : RawEvidence) :
    Option FilesystemReport :=
  (reportValue parse record.payload).bind (filesystemReport mounts record)

/-- A member of a value shows that it is an object. -/
theorem isObject_of_field {value member : Json} {name : String}
    (h : value.field name = some member) : value.isObject = true := by
  obtain ⟨tree, canonical⟩ := value
  cases tree with
  | obj fields => rfl
  | _ => cases h

/-- The identities a report keeps: those of its list that belong to a mount. -/
theorem mem_knownIds {mounts : List StorageMount} {value : Json} {id : UInt32} :
    id ∈ knownIds mounts value ↔
      (∃ mount ∈ mounts, mount.mountId = id) ∧
        ∃ ids item, value.field "mount_ids" = some ids ∧ item ∈ ids.elements ∧
          item.asInt = some (id.toNat : ℤ) := by
  have hlt := id.toNat_lt
  rw [knownIds, List.mem_filterMap]
  simp only [Option.bind_eq_some_iff, number_eq_some_iff, List.mem_map]
  constructor
  · rintro ⟨item, hitem, n, hn, hid⟩
    split at hid
    · rename_i hknown
      obtain ⟨hn32, mount, hmount, hmountId⟩ := hknown
      have heq : n.toUInt32 = id := Option.some.inj hid
      refine ⟨⟨mount, hmount, hmountId.trans heq⟩, ?_⟩
      cases hids : value.field "mount_ids" with
      | none =>
          rw [hids] at hitem
          exact absurd hitem List.not_mem_nil
      | some ids =>
          rw [hids] at hitem
          refine ⟨ids, item, rfl, hitem, ?_⟩
          rw [hn, ← heq, UInt64.toNat_toUInt32, Nat.mod_eq_of_lt]
          have : n.toNat ≤ 0xffffffff := UInt64.le_iff_toNat_le.mp hn32
          omega
    · cases hid
  · rintro ⟨⟨mount, hmount, hmountId⟩, ids, item, hids, hitem, hint⟩
    have h64 : id.toUInt64.toNat = id.toNat := UInt32.toNat_toUInt64 id
    have hback : id.toUInt64.toUInt32 = id := by
      rw [← UInt32.toNat_inj, UInt64.toNat_toUInt32, h64, Nat.mod_eq_of_lt hlt]
    refine ⟨item, by rw [hids]; exact hitem, id.toUInt64, by rw [h64]; exact hint, ?_⟩
    have hle : id.toUInt64 ≤ 0xffffffff := by
      rw [UInt64.le_iff_toNat_le, h64]
      exact Nat.le_of_lt_succ hlt
    rw [hback, if_pos ⟨hle, mount, hmount, hmountId⟩]

/-- What a record that adds a report was read as. -/
theorem recordReport_eq_some {parse : Bytes → Option Json} {mounts : List StorageMount}
    {record : RawEvidence} {report : FilesystemReport}
    (h : recordReport parse mounts record = some report) :
    ∃ value, parse record.payload = some value ∧ filesystemReport mounts record value = some report := by
  obtain ⟨value, hvalue, hreport⟩ := Option.bind_eq_some_iff.mp h
  exact ⟨value, (Option.filter_eq_some_iff.mp hvalue).1, hreport⟩

/-- A report names the known mounts of its value. -/
theorem filesystemReport_mountIds {mounts : List StorageMount} {record : RawEvidence} {value : Json}
    {report : FilesystemReport} (h : filesystemReport mounts record value = some report) :
    report.mountIds = knownIds mounts value ∧ report.mountIds ≠ [] := by
  rw [filesystemReport] at h
  split at h
  · cases h
  · rename_i id ids hids
    have hmounts : report.mountIds = id :: ids := by
      dsimp only at h
      split at h
      · rw [← Option.some.inj h, statistics_mountIds]
      · rw [← Option.some.inj h]
    exact ⟨hmounts.trans hids.symm, hmounts ▸ List.cons_ne_nil id ids⟩

/-- An empty object has no capacity. -/
theorem capacity_stats {value : Json} {size blocks : ℕ}
    (h : Capacity (((value.field "stats").filter Json.isObject).getD (Json.object [])) size blocks) :
    ∃ stats, value.field "stats" = some stats ∧
      ((value.field "stats").filter Json.isObject).getD (Json.object []) = stats := by
  cases hstats : (value.field "stats").filter Json.isObject with
  | some stats => exact ⟨stats, (Option.filter_eq_some_iff.mp hstats).1, rfl⟩
  | none =>
      rw [hstats] at h
      obtain ⟨member, hmember, -⟩ := h.1
      exact absurd hmember (by simp)

/-- The usage of a report is exact. -/
theorem filesystemReport_usage {mounts : List StorageMount} {record : RawEvidence} {value : Json}
    {report : FilesystemReport} {usage : FilesystemUsage}
    (h : filesystemReport mounts record value = some report) (husage : report.usage = some usage) :
    ∃ stats size blocks, value.field "stats" = some stats ∧ ExactUsage stats size blocks usage := by
  rw [filesystemReport] at h
  split at h
  · cases h
  · dsimp only at h
    split at h
    · rw [← Option.some.inj h] at husage
      obtain ⟨size, blocks, hexact⟩ := statistics_usage rfl husage
      obtain ⟨stats, hstats, heq⟩ := capacity_stats hexact.capacity
      exact ⟨stats, size, blocks, hstats, heq ▸ hexact⟩
    · rw [← Option.some.inj h] at husage
      cases husage

/-- A successful record without a capacity is a failed report. -/
theorem filesystemReport_failed {mounts : List StorageMount} {record : RawEvidence} {value : Json}
    (hstatus : record.status = .success) (hids : knownIds mounts value ≠ [])
    (hcapacity : ∀ stats size blocks, value.field "stats" = some stats →
      ¬Capacity stats size blocks) :
    ∃ report, filesystemReport mounts record value = some report ∧ report.status = .failed ∧
      report.usage = none := by
  rw [filesystemReport]
  split
  · rename_i hnil
    exact absurd hnil hids
  · rw [if_pos hstatus]
    refine ⟨_, rfl, ?_⟩
    rcases statistics_cases _ _ with ⟨size, blocks, hcap, -⟩ | ⟨-, hfailed⟩
    · obtain ⟨stats, hstats, heq⟩ := capacity_stats hcap
      exact absurd (heq ▸ hcap) (hcapacity stats _ _ hstats)
    · rw [hfailed]
      exact ⟨rfl, rfl⟩

/-! ### Runs -/

/-- One record adds its report. -/
theorem applyFilesystem_eq (parse : Bytes → Option Json) (s : Storage × List Bytes)
    (record : RawEvidence) :
    (applyFilesystem parse s record).1 =
      { s.1 with
        filesystems := s.1.filesystems ++ (recordReport parse s.1.mounts record).toList } := by
  rw [applyFilesystem, recordReport]
  cases reportValue parse record.payload with
  | none => simp
  | some value =>
      rw [Option.bind_some]
      cases hreport : filesystemReport s.1.mounts record value with
      | none => simp [hreport]
      | some report => simp [hreport]

/-- A run adds the reports of its records, in their order. -/
theorem foldl_applyFilesystem (parse : Bytes → Option Json) (records : List RawEvidence)
    (s : Storage × List Bytes) :
    (records.foldl (applyFilesystem parse) s).1 =
      { s.1 with
        filesystems := s.1.filesystems ++ records.filterMap (recordReport parse s.1.mounts) } := by
  induction records generalizing s with
  | nil => simp
  | cons record records ih =>
      rw [List.foldl_cons, ih, applyFilesystem_eq]
      cases hreport : recordReport parse s.1.mounts record with
      | none => simp [hreport]
      | some report => simp [hreport]

/-- **File-system usage is exact or absent.** -/
theorem applyFilesystems_spec (parse : Bytes → Option Json) (storage : Storage) (raw : EvidenceStore)
    (warnings : List Bytes) :
    (applyFilesystems parse storage raw warnings).1 =
        { storage with
          filesystems := storage.filesystems ++
            (raw.getAll .filesystemUsage).filterMap (recordReport parse storage.mounts) } ∧
      (∀ record report, recordReport parse storage.mounts record = some report →
        (report.mountIds ≠ [] ∧
          ∀ id ∈ report.mountIds, ∃ mount ∈ storage.mounts, mount.mountId = id) ∧
        ∀ usage, report.usage = some usage → ∃ value stats size blocks,
          parse record.payload = some value ∧ value.field "stats" = some stats ∧
            ExactUsage stats size blocks usage) ∧
      ∀ record value ids item mount, record.status = .success → parse record.payload = some value →
        value.field "mount_ids" = some ids → ids.isArray = true → item ∈ ids.elements →
        mount ∈ storage.mounts → item.asInt = some (mount.mountId.toNat : ℤ) →
        (∀ stats size blocks, value.field "stats" = some stats → ¬Capacity stats size blocks) →
        ∃ report, recordReport parse storage.mounts record = some report ∧
          report.status = .failed ∧ report.usage = none := by
  refine ⟨foldl_applyFilesystem parse _ _, ?_, ?_⟩
  · intro record report hreport
    obtain ⟨value, hvalue, hreport⟩ := recordReport_eq_some hreport
    obtain ⟨hids, hne⟩ := filesystemReport_mountIds hreport
    refine ⟨⟨hne, fun id hid => (mem_knownIds.mp (hids ▸ hid)).1⟩, fun usage husage => ?_⟩
    obtain ⟨stats, size, blocks, hstats, hexact⟩ := filesystemReport_usage hreport husage
    exact ⟨value, stats, size, blocks, hvalue, hstats, hexact⟩
  · intro record value ids item mount hstatus hvalue hids harray hitem hmount hint hcapacity
    have hknown : mount.mountId ∈ knownIds storage.mounts value :=
      mem_knownIds.mpr ⟨⟨mount, hmount, rfl⟩, ids, item, hids, hitem, hint⟩
    have hreport : reportValue parse record.payload = some value := by
      rw [reportValue, Option.filter_eq_some_iff, isObject_of_field hids, hids]
      exact ⟨hvalue, by simpa using harray⟩
    rw [recordReport, hreport, Option.bind_some]
    exact filesystemReport_failed hstatus (List.ne_nil_of_mem hknown) hcapacity

end FilesystemsParser

end Sysal
