import Sysal.Foundation.Decimal
import Sysal.Foundation.Grouping
import Sysal.Foundation.JsonLibrary
import Sysal.Parser.Filesystems
import Sysal.Parser.MountInfo
import Sysal.Serialization.JsonValues

/-!
# Querying the file systems

`filesystems.cpp` of the Linux reader: the mounts of the process are grouped by the file system they
show, and each group is asked once, if the policy allows it.  `statvfs` on a path is an oracle; a query
says which mount it asked, so that what is never touched can be stated.

* `aliasGroups_mounts`: the groups are the mounts of one key each;
* `query_asked`: what is asked, and `query_congr`: nothing else is;
* `readFilesystems_spec`: the groups partition the mounts, and every one is a record.
-/

namespace Sysal

namespace FilesystemsReader

open MountInfo

/-! ### Groups -/

/-- What two mounts of one file system have in common. -/
abbrev ViewKey := UInt32 × UInt32 × Bytes × Bytes

/-- Device number, type and source of a mount. -/
def viewKey (mount : StorageMount) : ViewKey :=
  (mount.deviceNumber.major, mount.deviceNumber.minor, mount.filesystem, mount.source)

/-- The mounts under their keys. -/
def aliasMap (mounts : List StorageMount) : Std.TreeMap ViewKey (List StorageMount) compare :=
  mounts.foldl (fileUnder (fun mount => some (viewKey mount)) fun _ group mount => group ++ [mount]) ∅

theorem foldl_append_singleton (group mounts : List StorageMount) :
    mounts.foldl (fun group mount => group ++ [mount]) group = group ++ mounts := by
  induction mounts generalizing group with
  | nil => simp
  | cons mount mounts ih => rw [List.foldl_cons, ih, List.append_assoc, List.singleton_append]

theorem aliasMap_toList (mounts : List StorageMount) :
    (aliasMap mounts).toList =
      (sortedSet (mounts.map viewKey)).map fun k => (k, mounts.filter (viewKey · = k)) := by
  rw [aliasMap, toList_foldl_fileUnder, List.filterMap_eq_map']
  refine List.map_congr_left fun k _ => ?_
  rw [groupOf, foldl_append_singleton]
  simp [show (default : List StorageMount) = [] from rfl]

/-- The mounts of one file system. -/
structure AliasGroup where
  mounts : List StorageMount
  nonempty : mounts ≠ []
  aliases : ∀ a ∈ mounts, ∀ b ∈ mounts, viewKey a = viewKey b

theorem aliasMap_group {mounts : List StorageMount} :
    ∀ entry ∈ (aliasMap mounts).toList,
      entry.2 ≠ [] ∧ ∀ a ∈ entry.2, ∀ b ∈ entry.2, viewKey a = viewKey b := by
  intro entry hentry
  rw [aliasMap_toList, List.mem_map] at hentry
  obtain ⟨k, hk, rfl⟩ := hentry
  obtain ⟨mount, hmount, hkey⟩ := List.mem_map.mp (mem_sortedSet.mp hk)
  constructor
  · exact List.ne_nil_of_mem (List.mem_filter.mpr ⟨hmount, by simpa using hkey⟩)
  · intro a ha b hb
    have hka : viewKey a = k := by simpa using (List.mem_filter.mp ha).2
    have hkb : viewKey b = k := by simpa using (List.mem_filter.mp hb).2
    exact hka.trans hkb.symm

/-- The groups by increasing key. -/
def aliasGroups (mounts : List StorageMount) : List AliasGroup :=
  (aliasMap mounts).toList.pmap (fun entry h => ⟨entry.2, h.1, h.2⟩) aliasMap_group

/-- The groups hold the mounts of one key each, in the order of the table. -/
theorem aliasGroups_mounts (mounts : List StorageMount) :
    (aliasGroups mounts).map (·.mounts) =
      (sortedSet (mounts.map viewKey)).map fun k => mounts.filter (viewKey · = k) := by
  rw [aliasGroups, List.map_pmap, List.pmap_eq_map, aliasMap_toList, List.map_map]
  rfl

/-! ### Queries -/

/-- What `statvfs` returns. -/
structure Statvfs where
  blockSize : UInt64 := 0
  fragmentSize : UInt64 := 0
  blocks : UInt64 := 0
  freeBlocks : UInt64 := 0
  availableBlocks : UInt64 := 0
  files : UInt64 := 0
  freeFiles : UInt64 := 0
  availableFiles : UInt64 := 0
  filesystemId : UInt64 := 0
  deriving DecidableEq, Inhabited

/-- The outcome of `read_filesystem_statistics`. -/
structure FilesystemStatistics where
  values : Statvfs := {}
  failure : Option ReadFailure := none
  skip : Option SkipReason := none
  note : String := ""
  deriving DecidableEq, Inhabited

/-- The mount of a group that is asked: the one at the root, else the first. -/
def AliasGroup.target (group : AliasGroup) : StorageMount :=
  (group.mounts.find? (·.path = utf8 "/")).getD (group.mounts.head group.nonempty)

/-- Why a mount is not asked, if it is not. -/
def skipReason (policy : FilesystemQuery) (mount : StorageMount) : Option SkipReason :=
  let kind := filesystemKind mount.filesystem
  if kind = .pseudo ∨ mount.filesystem = utf8 "ramfs" then some .notApplicable
  else if policy = .none then some .notRequested
  else if policy = .local ∧ kind ≠ .local ∧ kind ≠ .memory then some .policyExcluded
  else none

/-- The statistics of a record. -/
def statsJson (values : Statvfs) : Json :=
  Json.object
    [("block_size", some (Json.ofUInt64
        (if values.fragmentSize ≠ 0 then values.fragmentSize else values.blockSize))),
     ("blocks", some (Json.ofUInt64 values.blocks)),
     ("free_blocks", some (Json.ofUInt64 values.freeBlocks)),
     ("available_blocks", some (Json.ofUInt64 values.availableBlocks)),
     ("inodes", some (Json.ofUInt64 values.files)),
     ("free_inodes", some (Json.ofUInt64 values.freeFiles)),
     ("available_inodes", some (Json.ofUInt64 values.availableFiles)),
     ("filesystem_id", some (Json.str (decimal values.filesystemId.toNat)))]

/-- The payload of a record before it is printed. -/
def queryPayload (group : AliasGroup) (note : String) (stats : Option Statvfs) : Json :=
  Json.object
    [("kind", some (Json.ofEnum (filesystemKind group.target.filesystem))),
     ("mount_ids", some (Json.array (group.mounts.map fun mount => Json.ofUInt32 mount.mountId))),
     ("note", if note = "" then none else some (Json.str (utf8 note))),
     ("stats", stats.map statsJson)]

/-- A record, its payload before it is printed, and the mount that was asked for it. -/
structure Query where
  record : RawEvidence
  payload : Json
  asked : Option StorageMount

/-- `query`. -/
def query (statistics : StorageMount → FilesystemStatistics) (dump : Json → Bytes)
    (policy : FilesystemQuery) (group : AliasGroup) : Query :=
  let mount := group.target
  let result (payload : Json) (status : CollectStatus) (failure : Option ReadFailure)
      (skip : Option SkipReason) (asked : Option StorageMount) : Query :=
    { record :=
        { source := .filesystemUsage
          pathOrCommand := utf8 "statvfs/" ++ decimal mount.mountId.toNat
          payload := dump payload
          status := status
          failure := failure
          skip := skip }
      payload := payload
      asked := asked }
  match skipReason policy mount with
  | some skip => result (queryPayload group "" none) .notCollected none (some skip) none
  | none =>
      let answer := statistics mount
      if answer.failure ≠ none then
        result (queryPayload group answer.note none) .failed answer.failure answer.skip (some mount)
      else if answer.skip ≠ none then
        result (queryPayload group answer.note none) .notCollected none answer.skip (some mount)
      else
        result (queryPayload group answer.note (some answer.values)) .success none none (some mount)

/-! ### The reader -/

/-- The mounts of the first mount table that was read. -/
def parsedMounts (raw : EvidenceStore) : List StorageMount :=
  match raw.successes .storageMountInfo with
  | [] => []
  | record :: _ => (parseMountinfo record.payload).1

/-- The queries of a collection, in their order. -/
def filesystemQueries (statistics : StorageMount → FilesystemStatistics) (dump : Json → Bytes)
    (policy : FilesystemQuery) (raw : EvidenceStore) : List Query :=
  (aliasGroups (parsedMounts raw)).map (query statistics dump policy)

/-- `read_filesystems`. -/
def readFilesystems (statistics : StorageMount → FilesystemStatistics) (dump : Json → Bytes)
    (policy : FilesystemQuery) (raw : EvidenceStore) : EvidenceStore :=
  { raw with
    records := raw.records ++ (filesystemQueries statistics dump policy raw).map (·.record) }

/-! ### One query -/

theorem viewKey_eq_iff {a b : StorageMount} :
    viewKey a = viewKey b ↔
      a.deviceNumber = b.deviceNumber ∧ a.filesystem = b.filesystem ∧ a.source = b.source := by
  have hnumber : a.deviceNumber = b.deviceNumber ↔
      a.deviceNumber.major = b.deviceNumber.major ∧ a.deviceNumber.minor = b.deviceNumber.minor := by
    cases a.deviceNumber
    cases b.deviceNumber
    exact DeviceNumber.mk.injEq .. ▸ Iff.rfl
  rw [hnumber, viewKey, viewKey, Prod.mk.injEq, Prod.mk.injEq, Prod.mk.injEq, and_assoc]

/-- The mount a group should be asked about: one at the root, or the first of a group without one. -/
def IsTarget (group : AliasGroup) (mount : StorageMount) : Prop :=
  mount ∈ group.mounts ∧
    (mount.path = utf8 "/" ∨
      group.mounts.head? = some mount ∧ ∀ other ∈ group.mounts, other.path ≠ utf8 "/")

theorem AliasGroup.isTarget_target (group : AliasGroup) : IsTarget group group.target := by
  rw [AliasGroup.target]
  cases hfind : group.mounts.find? (·.path = utf8 "/") with
  | some mount =>
      exact ⟨List.mem_of_find?_eq_some hfind, Or.inl (by simpa using List.find?_some hfind)⟩
  | none =>
      refine ⟨List.head_mem group.nonempty, Or.inr ⟨List.head?_eq_some_head group.nonempty, ?_⟩⟩
      intro other hother
      simpa using List.find?_eq_none.mp hfind other hother

/-- The mounts that are never to be asked under a policy. -/
def Excluded (policy : FilesystemQuery) (mount : StorageMount) : Prop :=
  filesystemKind mount.filesystem = .pseudo ∨ mount.filesystem = utf8 "ramfs" ∨ policy = .none ∨
    (policy = .local ∧ filesystemKind mount.filesystem ≠ .local ∧
      filesystemKind mount.filesystem ≠ .memory)

theorem skipReason_eq_none_iff {policy : FilesystemQuery} {mount : StorageMount} :
    skipReason policy mount = none ↔ ¬Excluded policy mount := by
  rw [skipReason, Excluded]
  by_cases hnever : filesystemKind mount.filesystem = .pseudo ∨ mount.filesystem = utf8 "ramfs"
  · rw [if_pos hnever]
    exact iff_of_false (by simp) fun h => h (hnever.elim Or.inl fun h => Or.inr (Or.inl h))
  · rw [if_neg hnever]
    rw [not_or] at hnever
    by_cases hnone : policy = .none
    · rw [if_pos hnone]
      exact iff_of_false (by simp) fun h => h (Or.inr (Or.inr (Or.inl hnone)))
    · rw [if_neg hnone]
      split
      · rename_i hlocal
        exact iff_of_false (by simp) fun h => h (Or.inr (Or.inr (Or.inr hlocal)))
      · rename_i hlocal
        refine iff_of_true rfl ?_
        rintro (h | h | h | h)
        · exact hnever.1 h
        · exact hnever.2 h
        · exact hnone h
        · exact hlocal h

/-- The mounts of a group are excluded together. -/
theorem AliasGroup.excluded_iff (group : AliasGroup) {policy : FilesystemQuery} {mount : StorageMount}
    (hmount : mount ∈ group.mounts) : Excluded policy mount ↔ Excluded policy group.target := by
  have hkey := group.aliases mount hmount group.target group.isTarget_target.1
  rw [Excluded, Excluded, (viewKey_eq_iff.mp hkey).2.1]

variable (statistics : StorageMount → FilesystemStatistics) (dump : Json → Bytes)
  (policy : FilesystemQuery) (group : AliasGroup)

/-- A query of a group whose target is excluded asks nothing. -/
theorem query_of_skip {skip : SkipReason} (h : skipReason policy group.target = some skip) :
    (query statistics dump policy group).asked = none ∧
      (query statistics dump policy group).record.status = .notCollected ∧
      (query statistics dump policy group).record.failure = none ∧
      (query statistics dump policy group).record.skip = some skip := by
  simp only [query, h, and_self]

/-- Every other query asks its target. -/
theorem query_asked (h : skipReason policy group.target = none) :
    (query statistics dump policy group).asked = some group.target := by
  simp only [query, h]
  split
  · rfl
  · split <;> rfl

/-- The record of a query says which mount was the target, and holds the payload. -/
theorem query_record :
    (query statistics dump policy group).record.source = .filesystemUsage ∧
      (query statistics dump policy group).record.pathOrCommand =
        utf8 "statvfs/" ++ decimal group.target.mountId.toNat ∧
      (query statistics dump policy group).record.payload =
        dump (query statistics dump policy group).payload := by
  cases hskip : skipReason policy group.target with
  | some skip =>
      simp only [query, hskip, and_self]
  | none =>
      simp only [query, hskip]
      split
      · exact ⟨rfl, rfl, rfl⟩
      · split <;> exact ⟨rfl, rfl, rfl⟩

/-- A payload lists the mounts of its group. -/
theorem queryPayload_mountIds (note : String) (stats : Option Statvfs) :
    (queryPayload group note stats).field "mount_ids" =
      some (Json.array (group.mounts.map fun mount => Json.ofUInt32 mount.mountId)) := by
  simp [queryPayload]

theorem query_mountIds :
    (query statistics dump policy group).payload.field "mount_ids" =
      some (Json.array (group.mounts.map fun mount => Json.ofUInt32 mount.mountId)) := by
  cases hskip : skipReason policy group.target with
  | some skip =>
      simp only [query, hskip]
      exact queryPayload_mountIds group _ _
  | none =>
      simp only [query, hskip]
      split
      · exact queryPayload_mountIds group _ _
      · split <;> exact queryPayload_mountIds group _ _

/-- A query depends on the mount it asked and on no other. -/
theorem query_congr {statistics' : StorageMount → FilesystemStatistics}
    (h : ∀ mount ∈ (query statistics dump policy group).asked, statistics' mount = statistics mount) :
    query statistics' dump policy group = query statistics dump policy group := by
  cases hskip : skipReason policy group.target with
  | some skip => simp only [query, hskip]
  | none =>
      have htarget := h _ (query_asked statistics dump policy group hskip)
      simp only [query, hskip, htarget]

theorem decimal_isUtf8 (n : ℕ) : IsUtf8 (decimal n) := by
  refine isUtf8_of_ascii (List.all_eq_true.mpr fun c hc => ?_)
  have hdigit := List.all_eq_true.mp (decimal_all_isDigit n) c hc
  rw [isDigit, Bool.and_eq_true, decide_eq_true_eq, decide_eq_true_eq] at hdigit
  exact decide_eq_true (UInt8.lt_of_le_of_lt hdigit.2 (by decide))

/-- The text of a payload can always be printed. -/
theorem queryPayload_isUtf8 (note : String) (stats : Option Statvfs) :
    (queryPayload group note stats).IsUtf8 := by
  refine Json.isUtf8_object_of_fields ?_
  intro f hf v hv
  simp only [List.mem_cons, List.not_mem_nil, or_false] at hf
  rcases hf with rfl | rfl | rfl | rfl
  · obtain rfl := Option.some.inj hv
    exact Json.isUtf8_ofUInt32 _
  · obtain rfl := Option.some.inj hv
    rw [Json.isUtf8_array]
    intro j hj
    obtain ⟨mount, -, rfl⟩ := List.mem_map.mp hj
    exact Json.isUtf8_ofUInt32 _
  · dsimp only at hv
    split at hv
    · cases hv
    · obtain rfl := Option.some.inj hv
      exact Json.isUtf8_str.mpr (isUtf8_utf8 note)
  · obtain ⟨values, -, rfl⟩ := Option.map_eq_some_iff.mp hv
    refine Json.isUtf8_object_of_fields ?_
    intro f hf v hv
    simp only [List.mem_cons, List.not_mem_nil, or_false] at hf
    rcases hf with rfl | rfl | rfl | rfl | rfl | rfl | rfl | rfl
    all_goals obtain rfl := Option.some.inj hv
    all_goals first
      | exact Json.isUtf8_int _
      | exact Json.isUtf8_str.mpr (decimal_isUtf8 _)

/-! ### Runs -/

/-- What a group and its query have to do with each other. -/
structure Queries (statistics : StorageMount → FilesystemStatistics) (dump : Json → Bytes)
    (policy : FilesystemQuery) (group : AliasGroup) (q : Query) : Prop where
  /-- The record lists the mounts of the group. -/
  mountIds : q.payload.field "mount_ids" =
    some (Json.array (group.mounts.map fun mount => Json.ofUInt32 mount.mountId))
  printed : q.record.source = .filesystemUsage ∧ q.record.payload = dump q.payload
  /-- A group that is excluded is not asked, and says why. -/
  excluded : ∀ mount ∈ group.mounts, Excluded policy mount →
    q.asked = none ∧ q.record.status = .notCollected ∧ ∃ skip, q.record.skip = some skip
  /-- Every other group is asked once. -/
  asked : (∀ mount ∈ group.mounts, ¬Excluded policy mount) → ∃ mount, q.asked = some mount
  /-- The mount that is asked is the target, which the record names. -/
  target : ∃ mount, IsTarget group mount ∧ (∀ m ∈ q.asked, m = mount) ∧
    q.record.pathOrCommand = utf8 "statvfs/" ++ decimal mount.mountId.toNat
  /-- Nothing else is asked: the query is the same for any answers on other mounts. -/
  untouched : ∀ statistics' : StorageMount → FilesystemStatistics,
    (∀ mount ∈ q.asked, statistics' mount = statistics mount) →
      query statistics' dump policy group = q

theorem query_queries : Queries statistics dump policy group (query statistics dump policy group) where
  mountIds := query_mountIds statistics dump policy group
  printed :=
    ⟨(query_record statistics dump policy group).1, (query_record statistics dump policy group).2.2⟩
  excluded := by
    intro mount hmount hexcluded
    rw [group.excluded_iff hmount] at hexcluded
    cases hskip : skipReason policy group.target with
    | none => exact absurd hexcluded (skipReason_eq_none_iff.mp hskip)
    | some skip =>
        obtain ⟨hasked, hstatus, -, hreason⟩ := query_of_skip statistics dump policy group hskip
        exact ⟨hasked, hstatus, skip, hreason⟩
  asked := by
    intro hallowed
    have hskip := skipReason_eq_none_iff.mpr (hallowed _ group.isTarget_target.1)
    exact ⟨group.target, query_asked statistics dump policy group hskip⟩
  target := by
    refine ⟨group.target, group.isTarget_target, ?_,
      (query_record statistics dump policy group).2.1⟩
    intro mount hmount
    cases hskip : skipReason policy group.target with
    | none =>
        rw [query_asked statistics dump policy group hskip, Option.mem_some_iff] at hmount
        exact hmount.symm
    | some skip =>
        rw [(query_of_skip statistics dump policy group hskip).1] at hmount
        exact absurd hmount (Option.not_mem_none mount)
  untouched := fun _ => query_congr statistics dump policy group

/-- The groups partition the mounts. -/
theorem aliasGroups_perm (mounts : List StorageMount) :
    ((aliasGroups mounts).map (·.mounts)).flatten.Perm mounts := by
  rw [aliasGroups_mounts, ← List.flatMap_def]
  exact flatMap_sortedSet_perm mounts

/-- A group has all mounts with the key of one of them, in the order of the table. -/
theorem aliasGroups_filter {mounts : List StorageMount} {group : AliasGroup} {a : StorageMount}
    (hgroup : group ∈ aliasGroups mounts) (ha : a ∈ group.mounts) :
    group.mounts = mounts.filter (viewKey · = viewKey a) := by
  have hmem : group.mounts ∈ (aliasGroups mounts).map (·.mounts) := List.mem_map_of_mem hgroup
  rw [aliasGroups_mounts] at hmem
  obtain ⟨k, -, hk⟩ := List.mem_map.mp hmem
  have hak : viewKey a = k := by
    rw [← hk] at ha
    simpa using (List.mem_filter.mp ha).2
  rw [← hk, hak]

/-- Two groups have no key in common. -/
theorem aliasGroups_pairwise (mounts : List StorageMount) :
    (aliasGroups mounts).Pairwise fun g h =>
      ∀ a ∈ g.mounts, ∀ b ∈ h.mounts, viewKey a ≠ viewKey b := by
  have hmap : ((aliasGroups mounts).map (·.mounts)).Pairwise fun g h =>
      ∀ a ∈ g, ∀ b ∈ h, viewKey a ≠ viewKey b := by
    rw [aliasGroups_mounts, List.pairwise_map]
    refine List.Pairwise.imp ?_ (sortedSet_nodup _)
    intro k k' hne a ha b hb heq
    have hka : viewKey a = k := by simpa using (List.mem_filter.mp ha).2
    have hkb : viewKey b = k' := by simpa using (List.mem_filter.mp hb).2
    exact hne (hka.symm.trans (heq.trans hkb))
  exact List.pairwise_map.mp hmap

/-- **Every mount is in one record**, with exactly the mounts of its device, type and source, and only
the targets of groups that are not excluded are asked. -/
theorem readFilesystems_spec (raw : EvidenceStore) :
    ∃ groups : List AliasGroup,
      readFilesystems statistics dump policy raw =
          { raw with
            records := raw.records ++
              groups.map fun group => (query statistics dump policy group).record } ∧
        (groups.map (·.mounts)).flatten.Perm (parsedMounts raw) ∧
        (∀ group ∈ groups, ∀ a ∈ group.mounts, ∀ b ∈ parsedMounts raw, b ∈ group.mounts ↔
          b.deviceNumber = a.deviceNumber ∧ b.filesystem = a.filesystem ∧ b.source = a.source) ∧
        (groups.Pairwise fun g h => ∀ a ∈ g.mounts, a ∉ h.mounts) ∧
        ∀ group ∈ groups, group.mounts.Sublist (parsedMounts raw) ∧
          Queries statistics dump policy group (query statistics dump policy group) := by
  refine ⟨aliasGroups (parsedMounts raw), ?_, aliasGroups_perm _, ?_, ?_, ?_⟩
  · rw [readFilesystems, filesystemQueries, List.map_map]
    rfl
  · intro group hgroup a ha b hb
    rw [aliasGroups_filter hgroup ha, List.mem_filter, decide_eq_true_eq, viewKey_eq_iff]
    exact and_iff_right hb
  · exact (aliasGroups_pairwise _).imp fun hne a hg hh => hne a hg a hh rfl
  · intro group hgroup
    refine ⟨?_, query_queries statistics dump policy group⟩
    rw [aliasGroups_filter hgroup (List.head_mem group.nonempty)]
    exact List.filter_sublist

/-- The mount table of a root with a second view of it and a network file system. -/
def viewsStore : EvidenceStore :=
  { records :=
      [{ source := .storageMountInfo, pathOrCommand := utf8 "/proc/self/mountinfo", status := .success
         payload :=
           utf8 ("22 1 8:1 / / rw - ext4 /dev/sda1 rw\n23 22 0:40 / /net rw - nfs4 host:/x rw\n" ++
             "24 22 8:1 /home /home rw - ext4 /dev/sda1 rw\n") }] }

/-- Two views of the root are one record, and the server is not asked. -/
theorem readFilesystems_spec_views :
    ((readFilesystems (fun _ => {}) (fun _ => []) .local viewsStore).records.drop 1).map
        (fun record => (record.pathOrCommand, record.status)) =
      [(utf8 "statvfs/23", .notCollected), (utf8 "statvfs/22", .success)] ∧
    (parsedMounts viewsStore).length = 3 ∧
      ∃ groups : List AliasGroup, (groups.map (·.mounts)).flatten.Perm (parsedMounts viewsStore) ∧
        ∀ group ∈ groups, Queries (fun _ => {}) (fun _ => []) .local group
          (query (fun _ => {}) (fun _ => []) .local group) := by
  obtain ⟨groups, -, hperm, -, -, hgroups⟩ :=
    readFilesystems_spec (fun _ => {}) (fun _ => []) .local viewsStore
  exact ⟨by decide +kernel, by decide +kernel, groups, hperm, fun group hgroup => (hgroups group hgroup).2⟩

end FilesystemsReader

end Sysal
