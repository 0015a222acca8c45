import Sysal.Parser.HealthReports
import Sysal.Reader.StorageHealth

/-!
# From the query of a drive to its report

The reader ties block devices to drives and asks every drive once; the parser reads back what was
recorded, from the last record about a drive.

* `devices_readStorageHealth`, `recordedProtocol_readStorageHealth`: what is known of a drive passes
  through the records;
* `lastNamed_readStorageHealth`: the last record about a drive is the answer it was asked for;
* `parse_readStorageHealth`: the reports are those of the drives, each from its own answer.
-/

namespace Sysal.StorageHealthReader

open Sysal Std FsPath ShellCommands CommandReader StorageHealthParser

/-! ### Paths -/

/-- A path below a directory that does not end with a separator. -/
theorem append_below {directory name : Bytes} (hdirectory : fileName directory ≠ [])
    (hname : name.head? ≠ some 47) : append directory name = directory ++ 47 :: name := by
  rw [append, isAbsolute, decide_eq_false hname, if_neg Bool.false_ne_true, if_neg hdirectory]

theorem head_ne_slash {name : Bytes} (h : 47 ∉ name) : name.head? ≠ some 47 :=
  fun hhead => h (List.mem_of_head? hhead)

/-- The path of the record that ties a block device to a drive. -/
theorem associate_path (name : FileName) (target : Bytes) :
    (associate name target).pathOrCommand =
      utf8 "/sys/class/block/" ++ name.bytes ++ utf8 "/health_target" := by
  have hblock : fileName blockDirectory ≠ [] := by decide +kernel
  have hfile : (utf8 "health_target").head? ≠ some 47 := by decide +kernel
  have hslash : ∀ c ∈ name.bytes, c ≠ 47 := fun c hc heq => name.single (heq ▸ hc)
  have hentry : fileName (append blockDirectory name.bytes) ≠ [] := by
    rw [fileName_append hslash]
    exact name.nonempty
  have hdirectory : utf8 "/sys/class/block/" = blockDirectory ++ [47] := by decide +kernel
  have hsuffix : utf8 "/health_target" = 47 :: utf8 "health_target" := by decide +kernel
  rw [associate, append_below hentry hfile, append_below hblock (head_ne_slash name.single),
    hdirectory, hsuffix]
  simp

/-! ### Which records are about what -/

/-- A record that is about a drive is one of a tool. -/
theorem ne_health_of_names {record : RawEvidence} {target : Bytes} (h : Names record target) :
    record.source ≠ .storageHealthSysfs := by
  intro heq
  have hsource := h.source
  rw [heq] at hsource
  exact hsource.elim (fun h => by cases h) fun h => by cases h

section Records

variable (tree : SysTree) (parse : Bytes → Option Json) (execute : Bytes → CommandResult)

/-- The answer a drive is judged by: the fallback where there was one. -/
def answerRecord (drive : Bytes × Bytes) : RawEvidence :=
  let record := smartctlRecord parse execute drive.1 drive.2
  if drive.2 = utf8 "nvme" ∧ record.failure = some .toolUnavailable then nvmeRecord execute drive.1
  else record

/-- The answer is the last record of a drive. -/
theorem driveRecords_eq (drive : Bytes × Bytes) :
    ∃ before, driveRecords parse execute drive = before ++ [answerRecord parse execute drive] := by
  rw [driveRecords, query, answerRecord]
  split
  · exact ⟨[_, _], rfl⟩
  · exact ⟨[_], rfl⟩

/-- A name of a drive, as the reader records it. -/
structure DriveName (name : Bytes) : Prop where
  nonempty : name ≠ []
  single : 47 ∉ name

variable {parse execute}

theorem mem_query {record : RawEvidence} {drive : Bytes × Bytes}
    (h : record ∈ query parse execute drive.1 drive.2) :
    record = smartctlRecord parse execute drive.1 drive.2 ∨ record = nvmeRecord execute drive.1 := by
  rw [query] at h
  split at h
  · simpa using h
  · exact Or.inl (List.mem_singleton.mp h)

/-- The records of the tools are about their drive. -/
theorem names_query {record : RawEvidence} {drive : Bytes × Bytes} (hname : DriveName drive.1)
    (h : record ∈ query parse execute drive.1 drive.2) : Names record drive.1 := by
  have hsmartctl : utf8 "smartctl/" = utf8 "smartctl" ++ [47] := by decide +kernel
  have hnvme : utf8 "nvme-smart-log/" = utf8 "nvme-smart-log" ++ [47] := by decide +kernel
  rcases mem_query h with rfl | rfl
  · refine ⟨Or.inl rfl, ⟨utf8 "smartctl", by decide +kernel, ?_⟩, hname.nonempty, hname.single⟩
    rw [smartctlRecord, hsmartctl]
    simp
  · refine ⟨Or.inr rfl, ⟨utf8 "nvme-smart-log", by decide +kernel, ?_⟩, hname.nonempty, hname.single⟩
    rw [nvmeRecord, hnvme]
    simp

theorem names_unique {record : RawEvidence} {target target' : Bytes} (h : Names record target)
    (h' : Names record target') : target = target' :=
  Option.some.inj ((healthTarget_eq_some.mpr h).symm.trans (healthTarget_eq_some.mpr h'))

theorem answerRecord_mem (drive : Bytes × Bytes) :
    answerRecord parse execute drive ∈ query parse execute drive.1 drive.2 := by
  rw [answerRecord, query]
  split
  · exact List.mem_cons_of_mem _ (List.mem_singleton_self _)
  · exact List.mem_singleton_self _

/-- A record of a drive is about no other. -/
theorem not_names_driveRecords {record : RawEvidence} {drive : Bytes × Bytes} {target : Bytes}
    (hname : DriveName drive.1) (hne : drive.1 ≠ target)
    (h : record ∈ driveRecords parse execute drive) : ¬Names record target := by
  intro hnames
  rcases List.mem_cons.mp h with rfl | h
  · exact ne_health_of_names hnames rfl
  · exact hne (names_unique (names_query hname h) hnames)

end Records

/-! ### The records of a collection -/

section Collection

variable (tree : SysTree) (parse : Bytes → Option Json) (execute : Bytes → CommandResult)
  (raw : EvidenceStore)

/-- A store without records on drive health. -/
def Fresh : Prop :=
  ∀ record ∈ raw.records, record.source ≠ .storageHealthSysfs ∧ record.source ≠ .smartctl ∧
    record.source ≠ .nvmeSmartLog

variable {tree parse execute raw}

theorem driveName {drive : Bytes × Bytes} (h : drive ∈ drives tree) : DriveName drive.1 :=
  ⟨(target_name (mem_drives.mp h)).1.1, (target_name (mem_drives.mp h)).1.2⟩

/-- Where a record about drive health comes from. -/
inductive From (tree : SysTree) (parse : Bytes → Option Json) (execute : Bytes → CommandResult) :
    RawEvidence → Prop
  | device {name : FileName} {target : Bytes} : From tree parse execute (associate name target)
  | drive {drive : Bytes × Bytes} {record : RawEvidence} (mem : drive ∈ drives tree)
      (record_mem : record ∈ driveRecords parse execute drive) : From tree parse execute record
  | failed {record : RawEvidence} (source : record.source = .storageHealthSysfs)
      (status : record.status ≠ .success) : From tree parse execute record

theorem from_blockRecord {name : FileName} {record : RawEvidence}
    (h : blockRecord tree name = some record) : From tree parse execute record := by
  rw [blockRecord] at h
  split at h
  · cases h
  · exact Option.some.inj h ▸ .device
  · exact Option.some.inj h ▸ .failed rfl (fun h => by cases h)
  · exact Option.some.inj h ▸ .device

/-- The records before those of the drives. -/
def deviceRecords (tree : SysTree) : List RawEvidence :=
  directoryFailure .storageHealthSysfs nvmeDirectory (tree.entries nvmeDirectory).2 ++
    (tree.entries blockDirectory).1.filterMap (blockRecord tree) ++
    match (tree.entries blockDirectory).2 with
    | some error =>
        [⟨.storageHealthSysfs, blockDirectory, [], .failed, some (fileFailure error), none⟩]
    | none => []

/-- The record of a collection that found no drive. -/
def absentRecord (tree : SysTree) : List RawEvidence :=
  if (targets tree).isEmpty then
    [⟨.storageHealthSysfs, utf8 "storage-health", [], .notCollected, some .notPresent, none⟩]
  else []

theorem healthRecords_eq :
    healthRecords tree parse execute =
      deviceRecords tree ++ (drives tree).flatMap (driveRecords parse execute) ++ absentRecord tree :=
  rfl

theorem from_directoryFailure {record : RawEvidence}
    (h : record ∈ directoryFailure .storageHealthSysfs nvmeDirectory (tree.entries nvmeDirectory).2) :
    From tree parse execute record := by
  unfold directoryFailure at h
  split at h
  · exact List.mem_singleton.mp h ▸ .failed rfl (fun h => by cases h)
  · cases h

theorem from_healthRecords {record : RawEvidence} (h : record ∈ healthRecords tree parse execute) :
    From tree parse execute record := by
  rw [healthRecords_eq, List.mem_append, List.mem_append, deviceRecords, List.mem_append,
    List.mem_append] at h
  rcases h with (((h | h) | h) | h) | h
  · exact from_directoryFailure h
  · obtain ⟨name, -, hrecord⟩ := List.mem_filterMap.mp h
    exact from_blockRecord hrecord
  · split at h
    · exact List.mem_singleton.mp h ▸ .failed rfl (fun h => by cases h)
    · cases h
  · obtain ⟨drive, hdrive, hrecord⟩ := List.mem_flatMap.mp h
    exact .drive hdrive hrecord
  · rw [absentRecord] at h
    split at h
    · exact List.mem_singleton.mp h ▸ .failed rfl (fun h => by cases h)
    · cases h

/-! ### Protocols -/

theorem protocol_trim {protocol : Bytes} (h : protocol ∈ protocols) : trim protocol = protocol := by
  rw [protocols, List.mem_cons, List.mem_cons, List.mem_singleton] at h
  rcases h with rfl | rfl | rfl <;> decide +kernel

/-- A successful record of a protocol is that of the drive. -/
theorem payload_of_protocolPath {record : RawEvidence} {drive : Bytes × Bytes}
    (hdrive : drive ∈ drives tree) (hfrom : From tree parse execute record)
    (habout : AboutTargets record)
    (hpath : record.pathOrCommand = utf8 "/dev/" ++ drive.1 ++ utf8 "/protocol") :
    record.payload = drive.2 := by
  cases hfrom with
  | @device name target =>
      rw [associate_path] at hpath
      have hdev : utf8 "/dev/" = 47 :: 100 :: utf8 "ev/" := by decide +kernel
      have hsys : utf8 "/sys/class/block/" = 47 :: 115 :: utf8 "ys/class/block/" := by decide +kernel
      rw [hdev, hsys] at hpath
      exact absurd (List.cons.inj (List.cons.inj hpath).2).1 (by decide)
  | @drive other record hother hmem =>
      rcases List.mem_cons.mp hmem with rfl | hmem
      · have hname : other.1 = drive.1 := by simpa [protocolRecord] using hpath
        have hprotocol := mem_drives.mp hother
        rw [hname, mem_drives.mp hdrive] at hprotocol
        exact (Option.some.inj hprotocol).symm
      · exact absurd habout.1 (ne_health_of_names (names_query (driveName hother) hmem))
  | failed _ hstatus => exact absurd habout.2 hstatus

/-- **The protocol of a drive** passes through the records. -/
theorem recordedProtocol_readStorageHealth (hfresh : Fresh raw) {drive : Bytes × Bytes}
    (hdrive : drive ∈ drives tree) :
    recordedProtocol (readStorageHealth tree parse execute raw) drive.1 =
      some (healthProtocol drive.2) := by
  have hall : ∀ record ∈ ((readStorageHealth tree parse execute raw).records.filter fun record =>
      AboutTargets record ∧
        record.pathOrCommand = utf8 "/dev/" ++ drive.1 ++ utf8 "/protocol"),
      record.payload = drive.2 := by
    intro record hrecord
    obtain ⟨hmem, hkey⟩ := List.mem_filter.mp hrecord
    obtain ⟨habout, hpath⟩ := of_decide_eq_true hkey
    rcases List.mem_append.mp hmem with hmem | hmem
    · exact absurd habout.1 (hfresh record hmem).1
    · exact payload_of_protocolPath hdrive (from_healthRecords hmem) habout hpath
  have hone : ((readStorageHealth tree parse execute raw).records.filter fun record =>
      AboutTargets record ∧
        record.pathOrCommand = utf8 "/dev/" ++ drive.1 ++ utf8 "/protocol") ≠ [] := by
    have hkey : AboutTargets (protocolRecord drive) ∧ (protocolRecord drive).pathOrCommand =
        utf8 "/dev/" ++ drive.1 ++ utf8 "/protocol" := ⟨⟨rfl, rfl⟩, rfl⟩
    have hmem : protocolRecord drive ∈ (drives tree).flatMap (driveRecords parse execute) :=
      List.mem_flatMap.mpr ⟨drive, hdrive, List.mem_cons_self⟩
    refine List.ne_nil_of_mem (List.mem_filter.mpr ⟨?_, decide_eq_true hkey⟩)
    exact List.mem_append_right _ (List.mem_append_left _ (List.mem_append_right _ hmem))
  rw [recordedProtocol, List.getLast?_eq_getLast_of_ne_nil hone, Option.map_some,
    hall _ (List.getLast_mem hone), protocol_trim (target_name (mem_drives.mp hdrive)).2]

/-! ### Devices -/

/-- What the parser reads of a record about the devices. -/
def deviceOf (record : RawEvidence) : Option (Bytes × Bytes) :=
  if AboutTargets record then deviceReport record else none

theorem deviceOf_associate (name : FileName) (target : Bytes) :
    deviceOf (associate name target) = some (trim target, name.bytes) := by
  rw [deviceOf, if_pos ⟨rfl, rfl⟩, deviceReport_eq_some]
  exact ⟨associate_path name target, name.single, rfl⟩

theorem deviceOf_of_not {record : RawEvidence} (h : ¬AboutTargets record) : deviceOf record = none :=
  if_neg h

theorem deviceOf_blockRecord (name : FileName) :
    (blockRecord tree name).bind deviceOf =
      (blockTarget tree name).map fun target => (trim target, name.bytes) := by
  rw [blockRecord, blockTarget]
  cases blockEntry tree name with
  | ignored => rfl
  | ofController controller => exact deviceOf_associate name controller
  | unsupported => exact deviceOf_of_not fun h => by cases h.2
  | drive protocol => exact deviceOf_associate name name.bytes

theorem deviceOf_driveRecords {record : RawEvidence} {drive : Bytes × Bytes}
    (hname : DriveName drive.1) (h : record ∈ driveRecords parse execute drive) :
    deviceOf record = none := by
  rcases List.mem_cons.mp h with rfl | h
  · rw [deviceOf, if_pos ⟨rfl, rfl⟩, deviceReport, Option.map_eq_none_iff, Option.eq_none_iff_forall_ne_some]
    intro device hdevice
    have hpath := (devicePath_eq_some.mp hdevice).1
    have hdev : utf8 "/dev/" = 47 :: 100 :: utf8 "ev/" := by decide +kernel
    have hsys : utf8 "/sys/class/block/" = 47 :: 115 :: utf8 "ys/class/block/" := by decide +kernel
    rw [protocolRecord, hdev, hsys] at hpath
    exact absurd (List.cons.inj (List.cons.inj hpath).2).1 (by decide)
  · exact deviceOf_of_not fun habout => ne_health_of_names (names_query hname h) habout.1

theorem filterMap_deviceOf_healthRecords :
    (healthRecords tree parse execute).filterMap deviceOf =
      (tree.entries blockDirectory).1.filterMap fun name =>
        (blockTarget tree name).map fun target => (trim target, name.bytes) := by
  have hfailure : (directoryFailure .storageHealthSysfs nvmeDirectory
      (tree.entries nvmeDirectory).2).filterMap deviceOf = [] := by
    unfold directoryFailure
    split
    · exact List.filterMap_cons_none (deviceOf_of_not fun h => by cases h.2)
    · rfl
  have hblock : (match (tree.entries blockDirectory).2 with
      | some error =>
          [(⟨.storageHealthSysfs, blockDirectory, [], .failed, some (fileFailure error), none⟩ :
            RawEvidence)]
      | none => []).filterMap deviceOf = [] := by
    split
    · exact List.filterMap_cons_none (deviceOf_of_not fun h => by cases h.2)
    · rfl
  have hdrives : ((drives tree).flatMap (driveRecords parse execute)).filterMap deviceOf = [] := by
    rw [List.filterMap_eq_nil_iff]
    intro record hrecord
    obtain ⟨drive, hdrive, hmem⟩ := List.mem_flatMap.mp hrecord
    exact deviceOf_driveRecords (driveName hdrive) hmem
  have habsent : (absentRecord tree).filterMap deviceOf = [] := by
    rw [absentRecord]
    split
    · exact List.filterMap_cons_none (deviceOf_of_not fun h => by cases h.2)
    · rfl
  rw [healthRecords_eq, deviceRecords, List.filterMap_append, List.filterMap_append,
    List.filterMap_append, List.filterMap_append, hfailure, hblock, hdrives, habsent,
    List.filterMap_filterMap]
  simp only [deviceOf_blockRecord, List.nil_append, List.append_nil]

theorem scannedDevices_eq (raw : EvidenceStore) : (scannedTargets raw).devices =
    (raw.successes .storageHealthSysfs).foldl (collectReport deviceReport) ∅ :=
  (List.foldl_hom HealthTargets.devices fun targets record =>
    (scanTarget_devices targets record).symm).symm

/-- **The devices of a drive** pass through the records. -/
theorem devices_readStorageHealth (hfresh : Fresh raw) (target : Bytes) :
    (scannedTargets (readStorageHealth tree parse execute raw)).devices.getD target [] =
      tiedDevices tree target := by
  have hold : raw.records.filterMap deviceOf = [] := by
    rw [List.filterMap_eq_nil_iff]
    exact fun record hrecord => deviceOf_of_not fun h => (hfresh record hrecord).1 h.1
  have hsuccesses : ((readStorageHealth tree parse execute raw).successes
      .storageHealthSysfs).filterMap deviceReport =
        (readStorageHealth tree parse execute raw).records.filterMap deviceOf := by
    rw [EvidenceStore.successes, EvidenceStore.getAll, List.filter_filter, List.filterMap_filter]
    refine List.filterMap_congr fun record _ => ?_
    rw [deviceOf]
    by_cases habout : AboutTargets record
    · rw [if_pos habout, if_pos (by simp [habout.1, habout.2])]
    · rw [if_neg habout, if_neg fun h => habout (by simpa [AboutTargets, and_comm] using h)]
  rw [scannedDevices_eq, getD_foldl_collectReport, hsuccesses, readStorageHealth,
    List.filterMap_append, hold, List.nil_append, filterMap_deviceOf_healthRecords, tiedDevices]
  refine filter_filterMap_report _ (fun name => decide ((blockTarget tree name).map trim = some target))
    (·.bytes) (fun name device => ?_) _
  rw [decide_eq_true_eq, Option.map_eq_some_iff, Option.map_eq_some_iff]
  simp only [Prod.mk.injEq]
  constructor
  · rintro ⟨target, htarget, htrim, hname⟩
    exact ⟨⟨target, htarget, htrim⟩, hname⟩
  · rintro ⟨⟨target, htarget, htrim⟩, hname⟩
    exact ⟨target, htarget, htrim, hname⟩

/-! ### Answers -/

theorem lastNamed_unique {records : List RawEvidence} {record record' : RawEvidence} {target : Bytes}
    (h : LastNamed records record target) (h' : LastNamed records record' target) :
    record = record' :=
  Option.some.inj
    ((getLast?_filter_healthTarget.mpr h).symm.trans (getLast?_filter_healthTarget.mpr h'))

/-- **The answer of a drive** is the last record about it. -/
theorem lastNamed_readStorageHealth {drive : Bytes × Bytes} (hdrive : drive ∈ drives tree) :
    LastNamed (readStorageHealth tree parse execute raw).records
      (answerRecord parse execute drive) drive.1 := by
  have hname := driveName hdrive
  obtain ⟨earlier, later, hsplit⟩ := List.append_of_mem hdrive
  obtain ⟨before, hrecords⟩ := driveRecords_eq parse execute drive
  have hlater : ∀ other ∈ later, other.1 ≠ drive.1 := by
    have hordered : (drives tree).Pairwise fun a b => compare a.1 b.1 = .lt :=
      TreeMap.ordered_keys_toList
    rw [hsplit] at hordered
    intro other hother heq
    have hlt := List.rel_of_pairwise_cons (List.pairwise_append.mp hordered).2.1 hother
    rw [heq, ReflOrd.compare_self] at hlt
    cases hlt
  refine ⟨names_query hname (answerRecord_mem drive),
    raw.records ++ deviceRecords tree ++ earlier.flatMap (driveRecords parse execute) ++ before,
    later.flatMap (driveRecords parse execute) ++ absentRecord tree, ?_, ?_⟩
  · rw [readStorageHealth, healthRecords_eq, hsplit, List.flatMap_append, List.flatMap_cons, hrecords]
    simp only [List.append_assoc, List.cons_append, List.nil_append]
  · intro record hrecord
    rcases List.mem_append.mp hrecord with hrecord | hrecord
    · obtain ⟨other, hother, hmem⟩ := List.mem_flatMap.mp hrecord
      have hotherName : DriveName other.1 :=
        driveName (hsplit ▸ List.mem_append_right _ (List.mem_cons_of_mem _ hother))
      exact not_names_driveRecords hotherName (hlater other hother) hmem
    · rw [absentRecord] at hrecord
      split at hrecord
      · rw [List.mem_singleton.mp hrecord]
        exact fun h => ne_health_of_names h rfl
      · cases hrecord

/-- A target that a record is about is a drive that was asked. -/
theorem drive_of_names (hfresh : Fresh raw) {record : RawEvidence} {target : Bytes}
    (hmem : record ∈ (readStorageHealth tree parse execute raw).records)
    (hnames : Names record target) : ∃ protocol, (target, protocol) ∈ drives tree := by
  have hnot := ne_health_of_names hnames
  rcases List.mem_append.mp hmem with hmem | hmem
  · obtain ⟨-, hsmartctl, hnvme⟩ := hfresh record hmem
    exact absurd hnames.source (not_or.mpr ⟨hsmartctl, hnvme⟩)
  · cases from_healthRecords hmem with
    | device => exact absurd rfl hnot
    | @drive drive record hdrive hrecord =>
        by_cases hne : drive.1 = target
        · exact ⟨drive.2, hne ▸ hdrive⟩
        · exact absurd hnames (not_names_driveRecords (driveName hdrive) hne hrecord)
    | failed hsource => exact absurd hsource hnot

/-! ### Reports -/

variable (tree parse execute) in
/-- The report on a drive. -/
def driveReport (drive : Bytes × Bytes) : StorageHealthReport :=
  (healthReport parse (tiedDevices tree drive.1) (healthProtocol drive.2) drive.1
    (answerRecord parse execute drive)).1

theorem mem_reportsByTarget (hfresh : Fresh raw) {entry : Bytes × StorageHealthReport} :
    entry ∈ (reportsByTarget parse (readStorageHealth tree parse execute raw)).toList ↔
      ∃ drive ∈ drives tree, (drive.1, driveReport tree parse execute drive) = entry := by
  rw [TreeMap.mem_toList_iff_getElem?_eq_some, getElem?_reportsByTarget]
  constructor
  · rintro ⟨record, protocol, hlast, hprotocol, hreport⟩
    obtain ⟨before, after, hrecords, -⟩ := hlast.last
    have hmem : record ∈ (readStorageHealth tree parse execute raw).records :=
      hrecords ▸ List.mem_append_right _ List.mem_cons_self
    obtain ⟨asked, hdrive⟩ := drive_of_names hfresh hmem hlast.names
    have hrecord := lastNamed_unique hlast (lastNamed_readStorageHealth hdrive)
    rw [recordedProtocol_readStorageHealth hfresh hdrive] at hprotocol
    refine ⟨_, hdrive, Prod.ext rfl ?_⟩
    rw [hreport, driveReport, hrecord, ← Option.some.inj hprotocol,
      devices_readStorageHealth hfresh]
  · rintro ⟨drive, hdrive, rfl⟩
    refine ⟨answerRecord parse execute drive, healthProtocol drive.2,
      lastNamed_readStorageHealth hdrive, recordedProtocol_readStorageHealth hfresh hdrive, ?_⟩
    rw [driveReport, devices_readStorageHealth hfresh]

/-- **One report for every drive that is asked**, by increasing name, from its own answer and with the
block devices that are tied to it. -/
theorem parse_readStorageHealth (hfresh : Fresh raw) (storage : Storage) :
    (parseStorageHealth parse storage (readStorageHealth tree parse execute raw)).1 =
      { storage with
        health := storage.health ++ (drives tree).map (driveReport tree parse execute) } := by
  have hreports : (reportsByTarget parse (readStorageHealth tree parse execute raw)).toList =
      (drives tree).map fun drive => (drive.1, driveReport tree parse execute drive) := by
    refine eq_of_pairwise_compare Prod.fst TreeMap.ordered_keys_toList ?_ fun entry => ?_
    · rw [List.pairwise_map]
      exact TreeMap.ordered_keys_toList
    · rw [mem_reportsByTarget hfresh, List.mem_map]
  rw [parseStorageHealth_fst, hreports, List.map_map]
  rfl

end Collection

/-! ### What a report says -/

section Outcome

variable (tree : SysTree) (parse : Bytes → Option Json) (execute : Bytes → CommandResult)

/-- The run of `smartctl` for a drive, and the one of the tool for NVMe drives. -/
def smartctlRun (drive : Bytes × Bytes) : CommandResult := execute (smartctlCommand drive.1 drive.2)

def nvmeRun (drive : Bytes × Bytes) : CommandResult := execute (nvmeSmartLogCommand drive.1)

/-- The second tool is run for an NVMe drive where the first one is not installed. -/
structure FellBack (drive : Bytes × Bytes) : Prop where
  protocol : drive.2 = utf8 "nvme"
  absent : (smartctlRun execute drive).exitCode = some 127
  ended : (smartctlRun execute drive).status ≠ .timedOut
  permitted : ¬denied (smartctlRun execute drive)
  unusable : ∀ code j, ¬Usable parse (smartctlRun execute drive) code j

/-- A report before anything is read from a document. -/
def bareReport (drive : Bytes × Bytes) (record : RawEvidence) : StorageHealthReport :=
  { target := drive.1
    devices := tiedDevices tree drive.1
    protocol := healthProtocol drive.2
    source := record.source
    origin := record.pathOrCommand
    status := record.status
    failure := record.failure }

/-- The report on a drive from what the tools said. -/
structure Reported (drive : Bytes × Bytes) (report : StorageHealthReport) : Prop where
  target : report.target = drive.1
  protocol : report.protocol = healthProtocol drive.2
  devices : report.devices = tiedDevices tree drive.1
  success : ¬FellBack parse execute drive → (report.status = .success ↔
    ∃ code j, Usable parse (smartctlRun execute drive) code j ∧ code &&& 7 = 0)
  partly : ¬FellBack parse execute drive → (report.status = .partial_ ↔
    ∃ code j, Usable parse (smartctlRun execute drive) code j ∧ code &&& 7 = 4)
  asleep : ¬FellBack parse execute drive → (report.status = .notCollected ↔
    ∃ code j, Usable parse (smartctlRun execute drive) code j ∧ Asleep drive.2 code)
  /-- The data of a report is that of the document. -/
  document : ¬FellBack parse execute drive → report.status = .success ∨ report.status = .partial_ →
    ∃ j, parse (smartctlRun execute drive).output = some j ∧
      report = smartHealth
        (bareReport tree drive (smartctlRecord parse execute drive.1 drive.2)) j
  /-- The report of the second tool succeeds or fails. -/
  fallback : FellBack parse execute drive →
    (∃ j, (nvmeRun execute drive).successful ∧ parse (nvmeRun execute drive).output = some j ∧
        j.isObject ∧ report.status = .success ∧ report.nvme = some (nvmeHealth j true)) ∨
      report.status = .failed ∧ (∀ j, (nvmeRun execute drive).successful →
        parse (nvmeRun execute drive).output = some j → j.isObject = false)
  /-- Without success there is no data. -/
  silent : report.status ≠ .success → report.status ≠ .partial_ → NoHealth report

variable {tree parse execute}

theorem exitVerdict_ne_toolUnavailable (protocol : Bytes) (code : UInt8) :
    (exitVerdict protocol code).failure ≠ some .toolUnavailable := by
  rw [exitVerdict]
  split_ifs <;> exact fun h => by cases h

theorem commandFailure_eq_toolUnavailable {result : CommandResult} :
    commandFailure result = some .toolUnavailable ↔
      result.status ≠ .timedOut ∧ result.exitCode = some 127 := by
  rw [commandFailure]
  split_ifs with htime hcode <;> simp_all

/-- The condition of the code. -/
theorem fellBack_iff {drive : Bytes × Bytes} :
    FellBack parse execute drive ↔ drive.2 = utf8 "nvme" ∧
      (smartctlRecord parse execute drive.1 drive.2).failure = some .toolUnavailable := by
  have hfailure : (smartctlRecord parse execute drive.1 drive.2).failure =
      (verdict parse drive.2 (smartctlRun execute drive)).failure := rfl
  rw [hfailure, verdict]
  constructor
  · intro h
    rw [if_neg h.permitted, runVerdict_of_not h.unusable]
    exact ⟨h.protocol, commandFailure_eq_toolUnavailable.mpr ⟨h.ended, h.absent⟩⟩
  · rintro ⟨hprotocol, habsent⟩
    split at habsent
    · cases habsent
    · rename_i hdenied
      have hnone : ∀ code j, ¬Usable parse (smartctlRun execute drive) code j := by
        intro code j h
        rw [runVerdict_of_usable h] at habsent
        exact exitVerdict_ne_toolUnavailable _ _ habsent
      rw [runVerdict_of_not hnone] at habsent
      obtain ⟨hended, hcode⟩ := commandFailure_eq_toolUnavailable.mp habsent
      exact ⟨hprotocol, hcode, hended, hdenied, hnone⟩

theorem answerRecord_of_fellBack {drive : Bytes × Bytes} (h : FellBack parse execute drive) :
    answerRecord parse execute drive = nvmeRecord execute drive.1 := by
  rw [answerRecord]
  exact if_pos (fellBack_iff.mp h)

theorem answerRecord_of_not {drive : Bytes × Bytes} (h : ¬FellBack parse execute drive) :
    answerRecord parse execute drive = smartctlRecord parse execute drive.1 drive.2 := by
  rw [answerRecord]
  exact if_neg fun hfell => h (fellBack_iff.mpr hfell)

theorem noHealth_bareReport (drive : Bytes × Bytes) (record : RawEvidence) :
    NoHealth (bareReport tree drive record) :=
  ⟨rfl, rfl, rfl, rfl, rfl, rfl⟩

/-- A record that is not read gives a bare report. -/
theorem driveReport_of_unread {drive : Bytes × Bytes}
    (h : ¬((answerRecord parse execute drive).status = .success ∨
      (answerRecord parse execute drive).status = .partial_)) :
    driveReport tree parse execute drive =
      bareReport tree drive (answerRecord parse execute drive) := by
  rw [driveReport, healthReport, if_neg h]
  rfl

/-- With data there is a usable document. -/
theorem usable_of_status {drive : Bytes × Bytes}
    (h : (smartctlRecord parse execute drive.1 drive.2).status = .success ∨
      (smartctlRecord parse execute drive.1 drive.2).status = .partial_) :
    ∃ code j, Usable parse (smartctlRun execute drive) code j := by
  obtain ⟨hsuccess, hpartial, -⟩ :=
    @verdict_status_iff parse drive.2 (smartctlRun execute drive)
  rcases h with h | h
  · obtain ⟨code, j, husable, -⟩ := hsuccess.mp h
    exact ⟨code, j, husable⟩
  · obtain ⟨code, j, husable, -⟩ := hpartial.mp h
    exact ⟨code, j, husable⟩

theorem driveReport_of_document {drive : Bytes × Bytes} (hfell : ¬FellBack parse execute drive)
    (h : (smartctlRecord parse execute drive.1 drive.2).status = .success ∨
      (smartctlRecord parse execute drive.1 drive.2).status = .partial_) {code : UInt8} {j : Json}
    (husable : Usable parse (smartctlRun execute drive) code j) :
    driveReport tree parse execute drive = smartHealth
      (bareReport tree drive (smartctlRecord parse execute drive.1 drive.2)) j := by
  have hparse : (parse (smartctlRecord parse execute drive.1 drive.2).payload).filter Json.isObject =
      some j := Option.filter_eq_some_iff.mpr ⟨husable.parsed, husable.object⟩
  rw [driveReport, answerRecord_of_not hfell, healthReport, if_pos h, hparse]
  dsimp only
  rw [if_neg (fun h => by cases h)]
  rfl

theorem smartHealth_kept (report : StorageHealthReport) (j : Json) :
    (smartHealth report j).target = report.target ∧
      (smartHealth report j).protocol = report.protocol ∧
        (smartHealth report j).devices = report.devices ∧
          (smartHealth report j).status = report.status :=
  ⟨rfl, rfl, rfl, rfl⟩

/-- The status of a report that did not need the second tool is that of the run. -/
theorem driveReport_status {drive : Bytes × Bytes} (hfell : ¬FellBack parse execute drive) :
    (driveReport tree parse execute drive).status =
      (verdict parse drive.2 (smartctlRun execute drive)).status := by
  by_cases hread : (smartctlRecord parse execute drive.1 drive.2).status = .success ∨
      (smartctlRecord parse execute drive.1 drive.2).status = .partial_
  · obtain ⟨code, j, husable⟩ := usable_of_status hread
    rw [driveReport_of_document hfell hread husable, (smartHealth_kept _ j).2.2.2]
    rfl
  · rw [driveReport_of_unread (by rwa [answerRecord_of_not hfell]), answerRecord_of_not hfell]
    rfl

/-- The report of the second tool. -/
theorem driveReport_of_fellBack {drive : Bytes × Bytes} (hfell : FellBack parse execute drive) :
    (∃ j, (nvmeRun execute drive).successful ∧ parse (nvmeRun execute drive).output = some j ∧
        j.isObject ∧ driveReport tree parse execute drive =
          { bareReport tree drive (nvmeRecord execute drive.1) with
            nvme := some (nvmeHealth j true) } ∧
          (nvmeRecord execute drive.1).status = .success) ∨
      (driveReport tree parse execute drive).status = .failed ∧
        (∀ j, (nvmeRun execute drive).successful →
          parse (nvmeRun execute drive).output = some j → j.isObject = false) ∧
          NoHealth (driveReport tree parse execute drive) := by
  have hstatus : (nvmeRecord execute drive.1).status =
      if (nvmeRun execute drive).successful then .success else .failed := rfl
  have hpayload : (nvmeRecord execute drive.1).payload = (nvmeRun execute drive).output := rfl
  have hbare := @noHealth_bareReport tree drive (nvmeRecord execute drive.1)
  by_cases hsuccess : (nvmeRun execute drive).successful
  · rw [if_pos hsuccess] at hstatus
    rw [driveReport, answerRecord_of_fellBack hfell, healthReport, if_pos (Or.inl hstatus), hpayload]
    cases hparse : (parse (nvmeRun execute drive).output).filter Json.isObject with
    | some j =>
        obtain ⟨hj, hobject⟩ := Option.filter_eq_some_iff.mp hparse
        exact Or.inl ⟨j, hsuccess, hj, hobject, rfl, hstatus⟩
    | none =>
        refine Or.inr ⟨rfl, fun j _ hj => ?_, hbare.1, hbare.2, hbare.3, hbare.4, hbare.5, hbare.6⟩
        rw [hj, Option.filter_some] at hparse
        split at hparse
        · cases hparse
        · rename_i hobject
          exact Bool.eq_false_iff.mpr hobject
  · rw [if_neg hsuccess] at hstatus
    have hunread : ¬((answerRecord parse execute drive).status = .success ∨
        (answerRecord parse execute drive).status = .partial_) := by
      rw [answerRecord_of_fellBack hfell, hstatus]
      simp
    rw [driveReport_of_unread hunread, answerRecord_of_fellBack hfell]
    exact Or.inr ⟨hstatus, fun j hdone => absurd hdone hsuccess, hbare⟩

theorem reported_drive (drive : Bytes × Bytes) :
    Reported tree parse execute drive (driveReport tree parse execute drive) := by
  obtain ⟨htarget, hdevices, hprotocol⟩ := healthReport_target parse (tiedDevices tree drive.1)
    (healthProtocol drive.2) drive.1 (answerRecord parse execute drive)
  obtain ⟨hsuccess, hpartial, hasleep⟩ :=
    @verdict_status_iff parse drive.2 (smartctlRun execute drive)
  refine
    { target := htarget
      protocol := hprotocol
      devices := hdevices
      success := fun hfell => by rw [driveReport_status hfell, hsuccess]
      partly := fun hfell => by rw [driveReport_status hfell, hpartial]
      asleep := fun hfell => by rw [driveReport_status hfell, hasleep]
      document := fun hfell hread => ?_
      fallback := fun hfell => ?_
      silent := fun hne hne' => ?_ }
  · rw [driveReport_status hfell] at hread
    obtain ⟨code, j, husable⟩ := usable_of_status hread
    exact ⟨j, husable.parsed, driveReport_of_document hfell hread husable⟩
  · rcases @driveReport_of_fellBack tree parse execute drive hfell with
      ⟨j, hdone, hj, hobject, hreport, hstatus⟩ | ⟨hstatus, hno, -⟩
    · refine Or.inl ⟨j, hdone, hj, hobject, ?_, ?_⟩
      · rw [hreport]
        exact hstatus
      · rw [hreport]
    · exact Or.inr ⟨hstatus, hno⟩
  · by_cases hfell : FellBack parse execute drive
    · rcases @driveReport_of_fellBack tree parse execute drive hfell with
        ⟨j, -, -, -, hreport, hstatus⟩ | ⟨-, -, hnone⟩
      · rw [hreport] at hne
        exact absurd hstatus hne
      · exact hnone
    · rw [driveReport_status hfell] at hne hne'
      have hunread : ¬((answerRecord parse execute drive).status = .success ∨
          (answerRecord parse execute drive).status = .partial_) := by
        rw [answerRecord_of_not hfell]
        exact not_or.mpr ⟨hne, hne'⟩
      rw [driveReport_of_unread hunread]
      exact noHealth_bareReport drive _

/-- **One report for every drive that is asked**, each with the outcome of its own run. -/
theorem healthReports_of_drives {raw : EvidenceStore} (hfresh : Fresh raw) (storage : Storage) :
    ∃ reports,
      (parseStorageHealth parse storage (readStorageHealth tree parse execute raw)).1 =
          { storage with health := storage.health ++ reports } ∧
        List.Forall₂ (Reported tree parse execute) (drives tree) reports := by
  refine ⟨_, parse_readStorageHealth hfresh storage, ?_⟩
  rw [List.forall₂_map_right_iff, List.forall₂_same]
  exact fun drive _ => reported_drive drive

end Outcome

/-- A machine with one disk on an ATA port. -/
def ataTree : SysTree where
  entries := fun directory =>
    if directory = blockDirectory then ([⟨utf8 "sda", by decide +kernel, by decide +kernel⟩], none)
    else ([], some 2)
  canonical := fun _ => .ok (utf8 "/sys/devices/pci0000:00/0000:00:17.0/ata1/host0/block/sda")
  existence := fun _ => .ok false
  isDirectory := fun _ => .ok true
  isSymlink := fun _ => .ok false
  readFile := fun _ => .ok (utf8 "0\n")
  readSymlink := fun _ => .error 2

/-- Its `smartctl`, which finds a worn disk. -/
def ataRun (_ : Bytes) : CommandResult := { status := .failed, exitCode := some 8, output := utf8 "{}" }

/-- A parser that knows the text. -/
def ataParse (text : Bytes) : Option Json := if text = utf8 "{}" then some (.object []) else none

theorem healthReports_of_drives_ata :
    drives ataTree = [(utf8 "sda", utf8 "ata")] ∧
      ∃ reports,
        (parseStorageHealth ataParse {} (readStorageHealth ataTree ataParse ataRun
          { records := [⟨.sysfsBlock, utf8 "/sys/block/sda/size", utf8 "8", .success, none, none⟩] })).1 =
            { health := [] ++ reports } ∧
          List.Forall₂ (Reported ataTree ataParse ataRun) (drives ataTree) reports :=
  ⟨by decide +kernel, healthReports_of_drives (by unfold Fresh; decide +kernel) {}⟩

end Sysal.StorageHealthReader
