import Sysal.Parser.Storage
import Sysal.Reader.Filesystems

/-!
# File systems from the query to the report

The reader asks every group of mounts once and prints the answer, and the parser reads what was printed.
The library in between is a parameter, which reads back what it prints.

* `knownIds_queryPayload`, `usageOf_statsJson`: the mounts and the numbers pass through a payload;
* `recordReport_query`: the report of a query;
* `parseStorage_readFilesystems`: every mount of a storage is in one report.
-/

namespace Sysal.FilesystemsReader

open FilesystemsParser MountInfo StorageParser

/-! ### Mounts of a payload -/

theorem number_ofUInt64 (n : UInt64) : number (Json.ofUInt64 n) = some n :=
  number_eq_some_iff.mpr (Json.asInt_ofUInt64 n)

theorem number_ofUInt32 (n : UInt32) : number (Json.ofUInt32 n) = some n.toUInt64 := by
  rw [number_eq_some_iff, Json.asInt_ofUInt32, UInt32.toNat_toUInt64]

/-- The identity of a known mount passes through the payload. -/
theorem knownIds_queryPayload {mounts : List StorageMount} {group : AliasGroup}
    (hknown : ∀ mount ∈ group.mounts, mount.mountId ∈ mounts.map (·.mountId)) (note : String)
    (stats : Option Statvfs) :
    knownIds mounts (queryPayload group note stats) = group.mounts.map (·.mountId) := by
  have hread : ∀ mount ∈ group.mounts, ((number (Json.ofUInt32 mount.mountId)).bind fun n =>
      if n ≤ 0xffffffff ∧ n.toUInt32 ∈ mounts.map (·.mountId) then some n.toUInt32 else none) =
        some mount.mountId := by
    intro mount hmount
    have hback : mount.mountId.toUInt64.toUInt32 = mount.mountId := by
      rw [← UInt32.toNat_inj, UInt64.toNat_toUInt32, UInt32.toNat_toUInt64,
        Nat.mod_eq_of_lt mount.mountId.toNat_lt]
    have hle : mount.mountId.toUInt64 ≤ 0xffffffff := by
      rw [UInt64.le_iff_toNat_le, UInt32.toNat_toUInt64]
      exact Nat.le_of_lt_succ mount.mountId.toNat_lt
    rw [number_ofUInt32, Option.bind_some, hback, if_pos ⟨hle, hknown mount hmount⟩]
  rw [knownIds, queryPayload_mountIds, Option.elim_some, Json.array_elements, List.filterMap_map]
  exact (List.filterMap_congr hread).trans (by rw [List.filterMap_eq_map'])

/-- A payload is a report. -/
theorem reportValue_queryPayload {parse : Bytes → Option Json} {payload : Bytes} {group : AliasGroup}
    {note : String} {stats : Option Statvfs}
    (hparse : parse payload = some (queryPayload group note stats)) :
    reportValue parse payload = some (queryPayload group note stats) := by
  rw [reportValue, hparse, Option.filter_eq_some_iff]
  refine ⟨rfl, ?_⟩
  rw [isObject_of_field (queryPayload_mountIds group note stats), queryPayload_mountIds]
  rfl

/-! ### Numbers of a payload -/

/-- The unit `statvfs` counts blocks in. -/
def Statvfs.unit (values : Statvfs) : UInt64 :=
  if values.fragmentSize ≠ 0 then values.fragmentSize else values.blockSize

/-- The bytes and the files of an answer.  A number that is larger than the one above it is no number. -/
def Statvfs.usage (values : Statvfs) : FilesystemUsage :=
  { total := values.blocks * values.unit
    free := if values.freeBlocks ≤ values.blocks then some (values.freeBlocks * values.unit) else none
    available :=
      if values.freeBlocks ≤ values.blocks ∧ values.availableBlocks ≤ values.freeBlocks then
        some (values.availableBlocks * values.unit)
      else none
    inodes :=
      if values.files ≠ 0 ∧ values.files ≠ 0xffffffffffffffff then some values.files else none
    freeInodes :=
      if (values.files ≠ 0 ∧ values.files ≠ 0xffffffffffffffff) ∧
        values.freeFiles ≤ values.files then some values.freeFiles else none
    availableInodes :=
      if ((values.files ≠ 0 ∧ values.files ≠ 0xffffffffffffffff) ∧
        values.freeFiles ≤ values.files) ∧ values.availableFiles ≤ values.freeFiles then
          some values.availableFiles
      else none
    filesystemId := decimal values.filesystemId.toNat }

section Numbers

variable (values : Statvfs)

theorem field_statsJson :
    field (statsJson values) "block_size" = some values.unit ∧
      field (statsJson values) "blocks" = some values.blocks ∧
      field (statsJson values) "free_blocks" = some values.freeBlocks ∧
      field (statsJson values) "available_blocks" = some values.availableBlocks ∧
      field (statsJson values) "inodes" = some values.files ∧
      field (statsJson values) "free_inodes" = some values.freeFiles ∧
      field (statsJson values) "available_inodes" = some values.availableFiles := by
  simp [field, statsJson, number_ofUInt64, Statvfs.unit]

/-- A number with a condition, and one that is compared to it. -/
theorem bind_if {α β : Type*} {p : Prop} {q : α → Prop} [Decidable p] [DecidablePred q] (a : α)
    (b : β) :
    ((if p then some a else none).bind fun x => if q x then some b else none) =
      if p ∧ q a then some b else none := by
  by_cases hp : p
  · rw [if_pos hp, Option.bind_some, if_congr (and_iff_right hp) rfl rfl]
  · rw [if_neg hp, Option.bind_none, if_neg fun h => hp h.1]

/-- The usage that is read is the one that was answered. -/
theorem usageOf_statsJson :
    usageOf (statsJson values) values.unit values.blocks = values.usage := by
  obtain ⟨-, -, hfree, havailable, hinodes, hfreeInodes, havailableInodes⟩ := field_statsJson values
  have hid : (statsJson values).field "filesystem_id" =
      some (Json.str (decimal values.filesystemId.toNat)) := by
    simp [statsJson]
  rw [usageOf, Statvfs.usage, hfree, havailable, hinodes, hfreeInodes, havailableInodes, hid]
  simp only [Option.filter_some, decide_eq_true_eq, Option.map_if, bind_if]
  rfl

/-- An answer has a capacity if the unit is not zero and the product fits. -/
theorem capacity_statsJson {size blocks : ℕ} :
    Capacity (statsJson values) size blocks ↔
      size = values.unit.toNat ∧ blocks = values.blocks.toNat ∧ values.unit ≠ 0 ∧
        values.blocks.toNat * values.unit.toNat < 2 ^ 64 := by
  have hsize := field_eq_some_iff.mp (field_statsJson values).1
  have hblocks := field_eq_some_iff.mp (field_statsJson values).2.1
  have hpos : values.unit ≠ 0 ↔ 0 < values.unit.toNat := by
    rw [Nat.pos_iff_ne_zero, ne_eq, ne_eq, ← UInt64.toNat_inj]
    rfl
  constructor
  · rintro ⟨hs, hb, hne, hfits⟩
    obtain rfl := hs.unique hsize
    obtain rfl := hb.unique hblocks
    exact ⟨rfl, rfl, hpos.mpr hne, hfits⟩
  · rintro ⟨rfl, rfl, hne, hfits⟩
    exact ⟨hsize, hblocks, hpos.mp hne, hfits⟩

/-- The statistics of an answer, for a report on it. -/
theorem statistics_statsJson (report : FilesystemReport) :
    (values.unit ≠ 0 ∧ values.blocks.toNat * values.unit.toNat < 2 ^ 64 →
        (FilesystemsParser.statistics report (statsJson values)).usage = some values.usage) ∧
      (¬(values.unit ≠ 0 ∧ values.blocks.toNat * values.unit.toNat < 2 ^ 64) →
        FilesystemsParser.statistics report (statsJson values) = invalidCapacity report) := by
  rcases statistics_cases report (statsJson values) with ⟨size, blocks, hcap, husage, -⟩ | ⟨hno, hfailed⟩
  · obtain ⟨hsize, hblocks, hfits⟩ := (capacity_statsJson values).mp hcap
    refine ⟨fun _ => ?_, fun hnot => absurd hfits hnot⟩
    rw [husage, UInt64.toNat_inj.mp hsize, UInt64.toNat_inj.mp hblocks, usageOf_statsJson]
  · refine ⟨fun hfits => ?_, fun _ => hfailed⟩
    exact absurd ((capacity_statsJson values).mpr ⟨rfl, rfl, hfits⟩) (hno _ _)

end Numbers

/-! ### One query -/

variable (statistics : StorageMount → FilesystemStatistics) (dump : Json → Bytes)
  (policy : FilesystemQuery) (group : AliasGroup)

/-- What a query prints is about its group, and has the numbers of a successful answer. -/
theorem query_payload :
    ∃ note stats, (query statistics dump policy group).payload = queryPayload group note stats ∧
      ((query statistics dump policy group).record.status = .success →
        stats = some (statistics group.target).values) := by
  cases hskip : skipReason policy group.target with
  | some skip =>
      simp only [query, hskip]
      exact ⟨_, _, rfl, fun h => by cases h⟩
  | none =>
      simp only [query, hskip]
      split
      · exact ⟨_, _, rfl, fun h => by cases h⟩
      · split
        · exact ⟨_, _, rfl, fun h => by cases h⟩
        · exact ⟨_, _, rfl, fun _ => rfl⟩

/-- A query succeeds when it is allowed and answered. -/
theorem query_success :
    (query statistics dump policy group).record.status = .success ↔
      ¬Excluded policy group.target ∧ (statistics group.target).failure = none ∧
        (statistics group.target).skip = none := by
  rw [← skipReason_eq_none_iff]
  cases hskip : skipReason policy group.target with
  | some skip => simp [query, hskip]
  | none =>
      simp only [query, hskip]
      split
      · rename_i hfailure
        simp [hfailure]
      · rename_i hfailure
        rw [not_ne_iff] at hfailure
        split
        · rename_i hskipped
          simp [hskipped]
        · rename_i hskipped
          rw [not_ne_iff] at hskipped
          simp [hfailure, hskipped]

/-! ### One report -/

/-- What a report says of a group, from the record of its query and the answer. -/
structure Reports (answer : Statvfs) (record : RawEvidence) (group : AliasGroup)
    (report : FilesystemReport) : Prop where
  mountIds : report.mountIds = group.mounts.map (·.mountId)
  /-- Without an answer the report has the outcome of the query. -/
  outcome : record.status ≠ .success → report.status = record.status ∧
    report.failure = record.failure ∧ report.skip = record.skip ∧ report.usage = none
  usage : record.status = .success →
    answer.unit ≠ 0 ∧ answer.blocks.toNat * answer.unit.toNat < 2 ^ 64 →
      report.usage = some answer.usage
  invalid : record.status = .success →
    ¬(answer.unit ≠ 0 ∧ answer.blocks.toNat * answer.unit.toNat < 2 ^ 64) →
      report.status = .failed ∧ report.usage = none

theorem reports_statistics {answer : Statvfs} {record : RawEvidence} {report : FilesystemReport}
    (hstatus : record.status = .success) (hids : report.mountIds = group.mounts.map (·.mountId))
    (husage : report.usage = none) :
    Reports answer record group (FilesystemsParser.statistics report (statsJson answer)) where
  mountIds := by rw [statistics_mountIds, hids]
  outcome := fun hnot => absurd hstatus hnot
  usage := fun _ => (statistics_statsJson answer report).1
  invalid := by
    intro _ hnot
    rw [(statistics_statsJson answer report).2 hnot]
    exact ⟨rfl, husage⟩

/-- The record of a query is read as a report on its group. -/
theorem recordReport_query {parse : Bytes → Option Json} {mounts : List StorageMount}
    (hprint : (query statistics dump policy group).payload.IsUtf8 →
      parse (query statistics dump policy group).record.payload =
        some (query statistics dump policy group).payload)
    (hknown : ∀ mount ∈ group.mounts, mount.mountId ∈ mounts.map (·.mountId)) :
    ∃ report, recordReport parse mounts (query statistics dump policy group).record = some report ∧
      Reports (statistics group.target).values (query statistics dump policy group).record group
        report := by
  obtain ⟨note, stats, hpayload, hstats⟩ := query_payload statistics dump policy group
  rw [hpayload] at hprint
  generalize (query statistics dump policy group).record = record at hprint hstats ⊢
  have hids := knownIds_queryPayload hknown note stats
  rw [recordReport, reportValue_queryPayload (hprint (queryPayload_isUtf8 group note stats)),
    Option.bind_some, filesystemReport, hids]
  obtain ⟨first, rest, hgroup⟩ := List.exists_cons_of_ne_nil group.nonempty
  rw [hgroup, List.map_cons]
  dsimp only
  by_cases hstatus : record.status = .success
  · rw [if_pos hstatus]
    refine ⟨_, rfl, ?_⟩
    have hvalues : ((queryPayload group note stats).field "stats").filter Json.isObject =
        some (statsJson (statistics group.target).values) := by
      rw [hstats hstatus]
      simp [queryPayload, statsJson]
    rw [hvalues, Option.getD_some]
    exact reports_statistics group hstatus (by rw [hgroup, List.map_cons]) rfl
  · rw [if_neg hstatus]
    refine ⟨_, rfl, ?_⟩
    exact
      { mountIds := by rw [hgroup, List.map_cons]
        outcome := fun _ => ⟨rfl, rfl, rfl, rfl⟩
        usage := fun h => absurd h hstatus
        invalid := fun h => absurd h hstatus }

/-! ### A collection -/

/-- Reading the file systems adds the records of the queries. -/
theorem getAll_readFilesystems {raw : EvidenceStore} (hfresh : raw.getAll .filesystemUsage = []) :
    (readFilesystems statistics dump policy raw).getAll .filesystemUsage =
      (filesystemQueries statistics dump policy raw).map (·.record) := by
  rw [readFilesystems, EvidenceStore.getAll, List.filter_append]
  rw [EvidenceStore.getAll] at hfresh
  rw [hfresh, List.nil_append, List.filter_eq_self]
  intro record hrecord
  obtain ⟨q, hq, rfl⟩ := List.mem_map.mp hrecord
  obtain ⟨group, -, rfl⟩ := List.mem_map.mp hq
  exact decide_eq_true (query_record statistics dump policy group).1

/-- It leaves the mount table alone. -/
theorem tableMounts_readFilesystems (raw : EvidenceStore) :
    tableMounts (readFilesystems statistics dump policy raw) = parsedMounts raw := by
  have hrecords : ((filesystemQueries statistics dump policy raw).map (·.record)).filter
      (fun record => record.source = .storageMountInfo) = [] := by
    rw [List.filter_eq_nil_iff]
    intro record hrecord
    obtain ⟨q, hq, rfl⟩ := List.mem_map.mp hrecord
    obtain ⟨group, -, rfl⟩ := List.mem_map.mp hq
    rw [(query_record statistics dump policy group).1]
    decide
  rw [tableMounts, parsedMounts, EvidenceStore.successes, EvidenceStore.getAll, readFilesystems,
    List.filter_append, hrecords, List.append_nil]
  rfl

/-- **Every group that is queried is reported on**, whatever the answers, and every mount of the storage
is in one report. -/
theorem parseStorage_readFilesystems {parse : Bytes → Option Json} {raw : EvidenceStore}
    {storage : Storage} (hfresh : raw.getAll .filesystemUsage = [])
    (hprint : ∀ q ∈ filesystemQueries statistics dump policy raw,
      q.payload.IsUtf8 → parse q.record.payload = some q.payload)
    (h : (parseStorage parse (readFilesystems statistics dump policy raw)).1 = some storage) :
    List.Forall₂ (fun group report =>
        Reports (statistics group.target).values (query statistics dump policy group).record group
          report) (aliasGroups (parsedMounts raw)) storage.filesystems ∧
      (storage.filesystems.flatMap (·.mountIds)).Perm (storage.mounts.map (·.mountId)) := by
  obtain ⟨devices, mounts, -, hmounts, rfl⟩ := parseStorage_eq h
  rw [tableMounts_readFilesystems] at hmounts
  have hids : (parsedMounts raw).map (·.mountId) = mounts.map (·.mountId) := by
    refine map_eq_of_forall₂ ?_ hmounts
    intro parsed mount hsame
    rw [SameButDevice] at hsame
    rw [hsame]
  have hreports : List.Forall₂ (fun group report =>
      Reports (statistics group.target).values (query statistics dump policy group).record group
        report) (aliasGroups (parsedMounts raw))
      (((readFilesystems statistics dump policy raw).getAll .filesystemUsage).filterMap
        (recordReport parse mounts)) := by
    rw [getAll_readFilesystems statistics dump policy hfresh, filesystemQueries, List.map_map,
      List.filterMap_map]
    refine forall₂_filterMap fun group hgroup => ?_
    refine recordReport_query statistics dump policy group
      (hprint _ (List.mem_map_of_mem hgroup)) fun mount hmount => ?_
    have hsub : group.mounts.Sublist (parsedMounts raw) := by
      rw [aliasGroups_filter hgroup (List.head_mem group.nonempty)]
      exact List.filter_sublist
    rw [← hids]
    exact List.mem_map_of_mem (hsub.subset hmount)
  refine ⟨hreports, ?_⟩
  have hmap := map_eq_of_forall₂ (fun group report hreport => hreport.mountIds.symm) hreports
  dsimp only
  rw [List.flatMap_def, ← hmap, ← hids]
  have hperm := (aliasGroups_perm (parsedMounts raw)).map (·.mountId)
  rwa [List.map_flatten, List.map_map] at hperm

end Sysal.FilesystemsReader
