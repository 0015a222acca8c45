import Sysal.Pipeline.FilesystemReports
import Sysal.Reader.FilesystemStats

/-!
# From the mount point to the report

The groups of mounts are asked with the walk of the reader, and what is printed is read by the parser.  The
system may be another one at every query.

* `collected_calls`: what a collection asks of the system;
* `usage_iff`: a report has numbers exactly if its mount point was reached, and they are its own.
-/

namespace Sysal.FilesystemStats

open FilesystemsReader StorageParser

variable {D : Type*} (os : StorageMount → Os D) (dump : Json → Bytes) (policy : FilesystemQuery)

/-- The statistics of a mount, from the system at the time of its query. -/
def walkedStatistics (mount : StorageMount) : FilesystemStatistics :=
  (readFilesystemStatistics (os mount) mount).1

/-- The file system of a group: it is reached at the mount point of the target, and it has the device of
every mount of the group. -/
def Found (group : AliasGroup) (values : Statvfs) : Prop :=
  ∃ fd, Reached (os group.target) group.target (fd, []) ∧ Plain (os group.target) fd ∧
    (∀ mount ∈ group.mounts, Mounted (os group.target) mount fd) ∧
      (os group.target).statvfs fd = .ok values

/-- A group is answered for by its file system. -/
theorem answers_iff_found (group : AliasGroup) (values : Statvfs) :
    Answers (walkedStatistics os group.target) values ↔ Found os group values := by
  have hspec := (queried_readFilesystemStatistics (os group.target) group.target).answers values
  rw [walkedStatistics, hspec]
  have htarget := group.isTarget_target.1
  constructor
  · rintro ⟨fd, hreached, hplain, ⟨identity, hidentity, hlink, hdevice⟩, hvalues⟩
    refine ⟨fd, hreached, hplain, fun mount hmount => ?_, hvalues⟩
    have hsame := (viewKey_eq_iff.mp (group.aliases mount hmount _ htarget)).1
    exact ⟨identity, hidentity, hlink, hdevice.trans hsame.symm⟩
  · rintro ⟨fd, hreached, hplain, hmounted, hvalues⟩
    exact ⟨fd, hreached, hplain, hmounted _ htarget, hvalues⟩

/-! ### A collection -/

/-- The system calls of a collection: those of the mounts that are asked, one after another. -/
def collectionCalls (raw : EvidenceStore) : List (Call D) :=
  (filesystemQueries (walkedStatistics os) dump policy raw).flatMap fun q =>
    (q.asked.map fun mount => (readFilesystemStatistics (os mount) mount).2).getD []

/-- Calls that close what they open, in its order, and never have more than two descriptors open. -/
structure Tidy (calls : List (Call D)) : Prop where
  closed : calls.filterMap Call.closed = calls.filterMap Call.opened
  open_le : ∀ before, before <+: calls →
    (before.filterMap Call.opened).length ≤ (before.filterMap Call.closed).length + 2

theorem Tidy.nil : Tidy ([] : List (Call D)) where
  closed := rfl
  open_le := by
    intro before hbefore
    rw [List.prefix_nil.mp hbefore]
    exact Nat.zero_le _

theorem Tidy.append {calls calls' : List (Call D)} (h : Tidy calls) (h' : Tidy calls') :
    Tidy (calls ++ calls') where
  closed := by rw [List.filterMap_append, List.filterMap_append, h.closed, h'.closed]
  open_le := by
    intro before hbefore
    rcases List.prefix_or_prefix_of_prefix hbefore (List.prefix_append calls calls') with
      hbefore | ⟨after, rfl⟩
    · exact h.open_le before hbefore
    · have hle := h'.open_le after ((List.prefix_append_right_inj calls).mp hbefore)
      rw [List.filterMap_append, List.filterMap_append, List.length_append, List.length_append,
        h.closed]
      omega

theorem tidy_flatMap {α : Type*} {items : List α} {f : α → List (Call D)}
    (h : ∀ item ∈ items, Tidy (f item)) : Tidy (items.flatMap f) := by
  induction items with
  | nil => exact .nil
  | cons item items ih =>
      rw [List.flatMap_cons]
      exact (h item List.mem_cons_self).append (ih fun i hi => h i (List.mem_cons_of_mem _ hi))

/-- **What a collection asks of the system**: it touches the targets of the groups that the policy does not
exclude, each on the way to its mount point only, and it leaves no descriptor open. -/
theorem collection_calls (raw : EvidenceStore) :
    (∀ call ∈ collectionCalls os dump policy raw, ∃ group ∈ aliasGroups (parsedMounts raw),
        (∀ mount ∈ group.mounts, ¬Excluded policy mount) ∧
          Allowed (os group.target) group.target (Reached (os group.target) group.target) call) ∧
      Tidy (collectionCalls os dump policy raw) := by
  have hquery : ∀ q ∈ filesystemQueries (walkedStatistics os) dump policy raw,
      ∀ mount ∈ q.asked, ∃ group ∈ aliasGroups (parsedMounts raw), mount = group.target ∧
        ∀ other ∈ group.mounts, ¬Excluded policy other := by
    intro q hq mount hmount
    obtain ⟨group, hgroup, rfl⟩ := List.mem_map.mp hq
    cases hskip : skipReason policy group.target with
    | some skip =>
        rw [(query_of_skip _ dump policy group hskip).1] at hmount
        cases hmount
    | none =>
        rw [query_asked _ dump policy group hskip, Option.mem_some_iff] at hmount
        refine ⟨group, hgroup, hmount.symm, fun other hother => ?_⟩
        rw [group.excluded_iff hother]
        exact skipReason_eq_none_iff.mp hskip
  constructor
  · intro call hcall
    obtain ⟨q, hq, hcall⟩ := List.mem_flatMap.mp hcall
    cases hasked : q.asked with
    | none =>
        rw [hasked] at hcall
        exact absurd hcall List.not_mem_nil
    | some mount =>
        rw [hasked] at hcall
        obtain ⟨group, hgroup, rfl, hallowed⟩ := hquery q hq mount hasked
        exact ⟨group, hgroup, hallowed, (queried_readFilesystemStatistics _ _).calls call hcall⟩
  · refine tidy_flatMap fun q hq => ?_
    cases q.asked with
    | none => exact .nil
    | some mount =>
        have hspec := queried_readFilesystemStatistics (os mount) mount
        exact ⟨hspec.closed, hspec.open_le⟩

/-! ### From the walk to the report -/

/-- A report on a group has the numbers of its file system if that is found, and they make a capacity; it
has none otherwise. -/
structure UsageOf (group : AliasGroup) (report : FilesystemReport) : Prop where
  mountIds : report.mountIds = group.mounts.map (·.mountId)
  usage : ∀ usage, report.usage = some usage ↔
    (∀ mount ∈ group.mounts, ¬Excluded policy mount) ∧ ∃ values, Found os group values ∧
      values.unit ≠ 0 ∧ values.blocks.toNat * values.unit.toNat < 2 ^ 64 ∧ usage = values.usage

theorem usageOf_reports {group : AliasGroup} {report : FilesystemReport}
    (h : Reports (walkedStatistics os group.target).values
      (query (walkedStatistics os) dump policy group).record group report) :
    UsageOf os policy group report where
  mountIds := h.mountIds
  usage := by
    intro usage
    have hsuccess := query_success (walkedStatistics os) dump policy group
    have hexcluded : (∀ mount ∈ group.mounts, ¬Excluded policy mount) ↔
        ¬Excluded policy group.target :=
      ⟨fun hall => hall _ group.isTarget_target.1,
        fun hnot mount hmount => (group.excluded_iff hmount).not.mpr hnot⟩
    rw [hexcluded]
    constructor
    · intro husage
      by_cases hstatus : (query (walkedStatistics os) dump policy group).record.status = .success
      · obtain ⟨hallowed, hfailure, hskip⟩ := hsuccess.mp hstatus
        by_cases hfits : (walkedStatistics os group.target).values.unit ≠ 0 ∧
            (walkedStatistics os group.target).values.blocks.toNat *
              (walkedStatistics os group.target).values.unit.toNat < 2 ^ 64
        · have hvalue := husage.symm.trans (h.usage hstatus hfits)
          exact ⟨hallowed, _, (answers_iff_found os group _).mp ⟨hfailure, hskip, rfl⟩, hfits.1,
            hfits.2, Option.some.inj hvalue⟩
        · cases husage.symm.trans (h.invalid hstatus hfits).2
      · cases husage.symm.trans (h.outcome hstatus).2.2.2
    · rintro ⟨hallowed, values, hfound, hunit, hfits, rfl⟩
      obtain ⟨hfailure, hskip, rfl⟩ := (answers_iff_found os group values).mpr hfound
      exact h.usage (hsuccess.mpr ⟨hallowed, hfailure, hskip⟩) ⟨hunit, hfits⟩

/-- **A report has numbers exactly if its mount point was reached**, and they are those of the file system
that every mount of the report names. -/
theorem usage_iff {parse : Bytes → Option Json} {raw : EvidenceStore} {storage : Storage}
    (hfresh : raw.getAll .filesystemUsage = [])
    (hprint : ∀ q ∈ filesystemQueries (walkedStatistics os) dump policy raw,
      q.payload.IsUtf8 → parse q.record.payload = some q.payload)
    (h : (parseStorage parse (readFilesystems (walkedStatistics os) dump policy raw)).1 =
      some storage) :
    List.Forall₂ (UsageOf os policy) (aliasGroups (parsedMounts raw)) storage.filesystems :=
  (parseStorage_readFilesystems (walkedStatistics os) dump policy hfresh hprint h).1.imp
    fun _ _ hreport => usageOf_reports os dump policy hreport

/-- A system with one file system, mounted beneath the root. -/
def mountedOs : Os ℕ where
  openRoot := .ok 0
  openAt := fun fd component _ => if fd = 0 ∧ component = utf8 "mnt" then .ok 1 else .error 2
  filesystemType := fun _ => .ok 0xef53
  identity := fun fd => .ok { mode := 0o40755, device := if fd = 1 then 0x801 else 0x802 }
  statvfs := fun _ => .ok { blockSize := 4096, blocks := 100, freeBlocks := 40, availableBlocks := 30 }

/-- Its mount table. -/
def mountedEvidence : EvidenceStore :=
  { records :=
      [{ source := .storageMountInfo
         pathOrCommand := utf8 "/proc/self/mountinfo"
         payload := utf8 "22 1 8:1 / /mnt rw - ext4 /dev/sda1 rw\n"
         status := .success }] }

/-- The text of a payload, without line breaks. -/
def compactDump (v : Json) : Bytes := v.tree.print (-1) 0

/-- The queries of that table. -/
def mountedQueries : List Query :=
  filesystemQueries (walkedStatistics fun _ => mountedOs) compactDump .local mountedEvidence

/-- A parser that knows the payloads of the queries. -/
def mountedParse (text : Bytes) : Option Json :=
  (mountedQueries.find? fun q => compactDump q.payload = text).map (·.payload)

theorem usage_iff_mounted : ∃ storage : Storage,
    (parseStorage mountedParse
      (readFilesystems (walkedStatistics fun _ => mountedOs) compactDump .local
        mountedEvidence)).1 = some storage ∧
      List.Forall₂ (UsageOf (fun _ => mountedOs) .local)
        (aliasGroups (parsedMounts mountedEvidence)) storage.filesystems := by
  have hone : mountedQueries.length = 1 := by decide +kernel
  obtain ⟨q, hq⟩ := List.length_eq_one_iff.mp hone
  have hsome : ((parseStorage mountedParse (readFilesystems (walkedStatistics fun _ => mountedOs)
      compactDump .local mountedEvidence)).1).isSome := by
    decide +kernel
  obtain ⟨storage, hstorage⟩ := Option.isSome_iff_exists.mp hsome
  refine ⟨storage, hstorage, usage_iff _ _ _ (by decide) (fun q' hq' _ => ?_) hstorage⟩
  obtain ⟨group, -, rfl⟩ := List.mem_map.mp hq'
  rw [(query_record _ compactDump .local group).2.2, mountedParse]
  have hmem : query (walkedStatistics fun _ => mountedOs) compactDump .local group ∈ mountedQueries :=
    hq'
  rw [hq, List.mem_singleton] at hmem
  rw [hq, hmem]
  simp

end Sysal.FilesystemStats
