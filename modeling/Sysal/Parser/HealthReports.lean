import Sysal.Foundation.Cuts
import Sysal.Foundation.Grouping
import Sysal.Parser.StorageHealth

/-!
# Drive health reports

Three streams of evidence meet in a report: the block devices that name a target, the protocol of the
target, and what the tools say about it.

* `pathPart_eq_some`: which paths name a device or a target;
* `scannedTargets_spec`: the devices and the protocol of a target;
* `nvmeHealth_exact`, `ataAttribute_exact`: the integers of a document;
* `parseStorageHealth_spec`: the reports that are appended, and what each says.
-/

namespace Sysal.StorageHealthParser

open Sysal Json Std

/-! ### Paths -/

/-- A path has the part at a position exactly if it is made of the directory, the part and the file. -/
theorem pathPart_eq_some {path directory name : Bytes} (front : List Bytes) (file : Bytes)
    (hfront : ∀ rest, split (directory ++ rest) 47 = front ++ split rest 47) (hfile : 47 ∉ file) :
    pathPart path directory (47 :: file) front.length = some name ↔
      path = directory ++ name ++ 47 :: file ∧ 47 ∉ name := by
  simp only [pathPart, Bytes.startsWith, Bytes.endsWith, List.isPrefixOf_iff_prefix,
    List.isSuffixOf_iff_suffix]
  constructor
  · intro h
    split_ifs at h with hpath
    obtain ⟨⟨rest, rfl⟩, ⟨before, hsuffix⟩, hlength⟩ := hpath
    rw [hfront, List.length_append, Nat.add_left_cancel_iff] at hlength
    obtain ⟨left, right, hsplit⟩ := List.length_eq_two.mp hlength
    obtain ⟨rfl, hleft, hright⟩ := split_eq_pair_iff.mp hsplit
    rw [hfront, hsplit, List.getElem?_append_right (Nat.le_refl _), Nat.sub_self] at h
    obtain rfl := Option.some.inj h
    rw [← List.append_assoc] at hsuffix
    obtain ⟨-, rfl⟩ := append_cons_inj_right hfile hright hsuffix
    exact ⟨(List.append_assoc _ _ _).symm, hleft⟩
  · rintro ⟨rfl, hname⟩
    have hsplit : split (directory ++ name ++ 47 :: file) 47 = front ++ [name, file] := by
      rw [List.append_assoc, hfront, split_eq_pair_iff.mpr ⟨rfl, hname, hfile⟩]
    rw [hsplit, if_pos, List.getElem?_append_right (Nat.le_refl _), Nat.sub_self]
    · rfl
    · refine ⟨⟨name ++ 47 :: file, (List.append_assoc _ _ _).symm⟩, ⟨_, rfl⟩, ?_⟩
      rw [List.length_append]
      rfl

theorem split_cons_append (part : Bytes) (hpart : 47 ∉ part) (rest : Bytes) :
    split (part ++ 47 :: rest) 47 = part :: split rest 47 :=
  List.splitOn_append_cons_self_of_not_mem hpart rest

theorem devicePath_eq_some {path device : Bytes} :
    pathPart path (utf8 "/sys/class/block/") (utf8 "/health_target") 4 = some device ↔
      path = utf8 "/sys/class/block/" ++ device ++ utf8 "/health_target" ∧ 47 ∉ device := by
  refine pathPart_eq_some [[], utf8 "sys", utf8 "class", utf8 "block"] (utf8 "health_target")
    (fun rest => ?_) (by decide +kernel)
  have hsys := split_cons_append (utf8 "sys") (by decide +kernel)
  have hclass := split_cons_append (utf8 "class") (by decide +kernel)
  have hblock := split_cons_append (utf8 "block") (by decide +kernel) rest
  exact (split_cons_append [] (by simp) _).trans
    (congrArg _ ((hsys _).trans (congrArg _ ((hclass _).trans (congrArg _ hblock)))))

theorem protocolPath_eq_some {path target : Bytes} :
    pathPart path (utf8 "/dev/") (utf8 "/protocol") 2 = some target ↔
      path = utf8 "/dev/" ++ target ++ utf8 "/protocol" ∧ 47 ∉ target := by
  refine pathPart_eq_some [[], utf8 "dev"] (utf8 "protocol") (fun rest => ?_) (by decide +kernel)
  have hdev := split_cons_append (utf8 "dev") (by decide +kernel) rest
  exact (split_cons_append [] (by simp) _).trans (congrArg _ hdev)

/-! ### Targets -/

/-- The target a record ties a block device to, and the device. -/
def deviceReport (record : RawEvidence) : Option (Bytes × Bytes) :=
  (pathPart record.pathOrCommand (utf8 "/sys/class/block/") (utf8 "/health_target") 4).map
    fun device => (trim record.payload, device)

/-- The target whose protocol a record states, and the protocol. -/
def protocolReport (record : RawEvidence) : Option (Bytes × StorageProtocol) :=
  (pathPart record.pathOrCommand (utf8 "/dev/") (utf8 "/protocol") 2).map
    fun target => (target, healthProtocol (trim record.payload))

theorem scanTarget_devices (targets : HealthTargets) (record : RawEvidence) :
    (scanTarget targets record).devices = collectReport deviceReport targets.devices record := by
  rw [scanTarget, collectReport, deviceReport]
  cases pathPart record.pathOrCommand (utf8 "/sys/class/block/") (utf8 "/health_target") 4 with
  | none => cases pathPart record.pathOrCommand (utf8 "/dev/") (utf8 "/protocol") 2 <;> rfl
  | some device => cases pathPart record.pathOrCommand (utf8 "/dev/") (utf8 "/protocol") 2 <;> rfl

theorem scanTarget_protocols (targets : HealthTargets) (record : RawEvidence) :
    (scanTarget targets record).protocols =
      insertReport protocolReport targets.protocols record := by
  rw [scanTarget, insertReport, protocolReport]
  cases pathPart record.pathOrCommand (utf8 "/sys/class/block/") (utf8 "/health_target") 4 with
  | none => cases pathPart record.pathOrCommand (utf8 "/dev/") (utf8 "/protocol") 2 <;> rfl
  | some device => cases pathPart record.pathOrCommand (utf8 "/dev/") (utf8 "/protocol") 2 <;> rfl

/-- The devices and protocols of the targets of a store. -/
def scannedTargets (raw : EvidenceStore) : HealthTargets :=
  (raw.successes .storageHealthSysfs).foldl scanTarget {}

/-- A successful record about targets. -/
def AboutTargets (record : RawEvidence) : Prop :=
  record.source = .storageHealthSysfs ∧ record.status = .success

instance (record : RawEvidence) : Decidable (AboutTargets record) :=
  inferInstanceAs (Decidable (_ ∧ _))

/-- A record that ties a block device to a target. -/
structure NamesDevice (record : RawEvidence) (target device : Bytes) : Prop where
  about : AboutTargets record
  path : record.pathOrCommand = utf8 "/sys/class/block/" ++ device ++ utf8 "/health_target"
  single : 47 ∉ device
  target : trim record.payload = target

theorem mem_successes {raw : EvidenceStore} {record : RawEvidence} :
    record ∈ raw.successes .storageHealthSysfs ↔ record ∈ raw.records ∧ AboutTargets record := by
  rw [EvidenceStore.successes, EvidenceStore.getAll, List.mem_filter, List.mem_filter, AboutTargets]
  simp only [decide_eq_true_eq, and_assoc]

theorem deviceReport_eq_some {record : RawEvidence} {target device : Bytes} :
    deviceReport record = some (target, device) ↔
      record.pathOrCommand = utf8 "/sys/class/block/" ++ device ++ utf8 "/health_target" ∧
        47 ∉ device ∧ trim record.payload = target := by
  rw [deviceReport, Option.map_eq_some_iff]
  simp only [devicePath_eq_some, Prod.mk.injEq]
  constructor
  · rintro ⟨device, ⟨hpath, hsingle⟩, htarget, rfl⟩
    exact ⟨hpath, hsingle, htarget⟩
  · rintro ⟨hpath, hsingle, htarget⟩
    exact ⟨device, ⟨hpath, hsingle⟩, htarget, rfl⟩

/-- **The block devices of a target** are the ones of the records that name it. -/
theorem mem_scannedDevices {raw : EvidenceStore} {target device : Bytes} :
    device ∈ (scannedTargets raw).devices.getD target [] ↔
      ∃ record ∈ raw.records, NamesDevice record target device := by
  have hdevices : (scannedTargets raw).devices =
      (raw.successes .storageHealthSysfs).foldl (collectReport deviceReport) ∅ :=
    (List.foldl_hom HealthTargets.devices fun targets record =>
      (scanTarget_devices targets record).symm).symm
  rw [hdevices, getD_foldl_collectReport, List.mem_map]
  simp only [List.mem_filter, List.mem_filterMap, decide_eq_true_eq]
  constructor
  · rintro ⟨⟨target', device'⟩, ⟨⟨record, hrecord, hreport⟩, rfl⟩, rfl⟩
    obtain ⟨hmem, habout⟩ := mem_successes.mp hrecord
    obtain ⟨hpath, hsingle, htarget⟩ := deviceReport_eq_some.mp hreport
    exact ⟨record, hmem, habout, hpath, hsingle, htarget⟩
  · rintro ⟨record, hmem, habout, hpath, hsingle, htarget⟩
    exact ⟨(target, device), ⟨⟨record, mem_successes.mpr ⟨hmem, habout⟩,
      deviceReport_eq_some.mpr ⟨hpath, hsingle, htarget⟩⟩, rfl⟩, rfl⟩

/-- The last successful record that states the protocol of a target. -/
def recordedProtocol (raw : EvidenceStore) (target : Bytes) : Option StorageProtocol :=
  ((raw.records.filter fun record => AboutTargets record ∧
    record.pathOrCommand = utf8 "/dev/" ++ target ++ utf8 "/protocol").getLast?).map
      fun record => healthProtocol (trim record.payload)

theorem protocolReport_eq_some {record : RawEvidence} {target : Bytes} (htarget : 47 ∉ target)
    {protocol : StorageProtocol} :
    protocolReport record = some (target, protocol) ↔
      record.pathOrCommand = utf8 "/dev/" ++ target ++ utf8 "/protocol" ∧
        healthProtocol (trim record.payload) = protocol := by
  rw [protocolReport, Option.map_eq_some_iff]
  simp only [protocolPath_eq_some, Prod.mk.injEq]
  constructor
  · rintro ⟨target, ⟨hpath, -⟩, rfl, hprotocol⟩
    exact ⟨hpath, hprotocol⟩
  · rintro ⟨hpath, hprotocol⟩
    exact ⟨target, ⟨hpath, htarget⟩, rfl, hprotocol⟩

theorem getElem?_scannedProtocols (raw : EvidenceStore) {target : Bytes} (htarget : 47 ∉ target) :
    (scannedTargets raw).protocols[target]? = recordedProtocol raw target := by
  have hprotocols : (scannedTargets raw).protocols =
      (raw.successes .storageHealthSysfs).foldl (insertReport protocolReport) ∅ :=
    (List.foldl_hom HealthTargets.protocols fun targets record =>
      (scanTarget_protocols targets record).symm).symm
  have hreports := getElem?_foldl_insertReport_of protocolReport
    (fun record => record.pathOrCommand = utf8 "/dev/" ++ target ++ utf8 "/protocol")
    (fun record => healthProtocol (trim record.payload))
    (fun record protocol => by rw [protocolReport_eq_some htarget, decide_eq_true_eq])
    (raw.successes .storageHealthSysfs)
  rw [hprotocols, hreports, recordedProtocol, EvidenceStore.successes, EvidenceStore.getAll,
    List.filter_filter, List.filter_filter]
  congr 3
  funext record
  rw [Bool.eq_iff_iff, decide_eq_true_iff, AboutTargets]
  simp only [Bool.and_eq_true, decide_eq_true_eq]
  tauto

/-! ### Reports by target -/

/-- A record of a tool about a target. -/
structure Names (record : RawEvidence) (target : Bytes) : Prop where
  source : record.source = .smartctl ∨ record.source = .nvmeSmartLog
  path : ∃ tool : Bytes, 47 ∉ tool ∧ record.pathOrCommand = tool ++ 47 :: target
  nonempty : target ≠ []
  single : 47 ∉ target

theorem healthTarget_eq_some {record : RawEvidence} {target : Bytes} :
    healthTarget record = some target ↔ Names record target := by
  rw [healthTarget]
  constructor
  · intro h
    split_ifs at h with hsource
    split at h
    · rename_i tool rest hcut
      obtain ⟨hpath, htool⟩ := cut_eq_some_iff.mp hcut
      split_ifs at h with hname
      obtain rfl := Option.some.inj h
      rw [not_or, List.isEmpty_iff] at hname
      rw [not_and_or, not_not, not_not] at hsource
      exact ⟨hsource, ⟨tool, htool, hpath⟩, hname.1, hname.2⟩
    · cases h
  · rintro ⟨hsource, ⟨tool, htool, hpath⟩, hne, hsingle⟩
    have hnot : ¬(record.source ≠ .smartctl ∧ record.source ≠ .nvmeSmartLog) := by
      rw [not_and_or, not_not, not_not]
      exact hsource
    rw [if_neg hnot, hpath, cut_append htool]
    exact if_neg (by rw [not_or, List.isEmpty_iff]; exact ⟨hne, hsingle⟩)

/-- The last record about a target. -/
structure LastNamed (records : List RawEvidence) (record : RawEvidence) (target : Bytes) : Prop where
  names : Names record target
  last : ∃ before after, records = before ++ record :: after ∧ ∀ later ∈ after, ¬Names later target

theorem getLast?_filter_healthTarget {records : List RawEvidence} {record : RawEvidence}
    {target : Bytes} :
    (records.filter (healthTarget · = some target)).getLast? = some record ↔
      LastNamed records record target := by
  rw [List.getLast?_filter, List.find?_eq_some_iff_append]
  simp only [decide_eq_true_eq, healthTarget_eq_some, Bool.not_eq_true', decide_eq_false_iff_not]
  constructor
  · rintro ⟨hnames, before, after, hrecords, hlater⟩
    refine ⟨hnames, after.reverse, before.reverse, ?_, fun later h => hlater later (by simpa using h)⟩
    rw [← List.reverse_reverse records, hrecords]
    simp
  · rintro ⟨hnames, before, after, rfl, hlater⟩
    exact ⟨hnames, after.reverse, before.reverse, by simp, fun later h => hlater later (by simpa using h)⟩

section Reports

variable (parse : Bytes → Option Json)

/-- The report a record gives, if its target has a protocol. -/
def targetReport (targets : HealthTargets) (record : RawEvidence) :
    Option (Bytes × StorageHealthReport) :=
  (healthTarget record).bind fun target =>
    (targets.protocols[target]?).map fun protocol =>
      (target, (healthReport parse (targets.devices.getD target []) protocol target record).1)

theorem targetReport_eq_some {targets : HealthTargets} {record : RawEvidence} {target : Bytes}
    {report : StorageHealthReport} :
    targetReport parse targets record = some (target, report) ↔
      healthTarget record = some target ∧ ∃ protocol, targets.protocols[target]? = some protocol ∧
        (healthReport parse (targets.devices.getD target []) protocol target record).1 = report := by
  rw [targetReport, Option.bind_eq_some_iff]
  constructor
  · rintro ⟨target', htarget, hmap⟩
    obtain ⟨protocol, hprotocol, heq⟩ := Option.map_eq_some_iff.mp hmap
    obtain ⟨rfl, hreport⟩ := Prod.mk.inj heq
    exact ⟨htarget, protocol, hprotocol, hreport⟩
  · rintro ⟨htarget, protocol, hprotocol, hreport⟩
    exact ⟨target, htarget, Option.map_eq_some_iff.mpr ⟨protocol, hprotocol, by rw [hreport]⟩⟩

theorem scanHealth_reports (targets : HealthTargets) (s : HealthScan) (record : RawEvidence) :
    (scanHealth parse targets s record).reports =
      insertReport (targetReport parse targets) s.reports record := by
  rw [scanHealth, insertReport, targetReport]
  cases healthTarget record with
  | none => rfl
  | some target =>
      rw [Option.bind_some]
      dsimp only
      cases targets.protocols[target]? <;> rfl

/-- The reports that are appended. -/
def reportsByTarget (raw : EvidenceStore) : TreeMap Bytes StorageHealthReport compare :=
  raw.records.foldl (insertReport (targetReport parse (scannedTargets raw))) ∅

theorem parseStorageHealth_fst (storage : Storage) (raw : EvidenceStore) :
    (parseStorageHealth parse storage raw).1 =
      { storage with health := storage.health ++ (reportsByTarget parse raw).toList.map Prod.snd } := by
  have hreports : (raw.records.foldl (scanHealth parse (scannedTargets raw)) {}).reports =
      reportsByTarget parse raw :=
    (List.foldl_hom HealthScan.reports fun s record =>
      (scanHealth_reports parse (scannedTargets raw) s record).symm).symm
  rw [← hreports]
  rfl

/-- **The report on a target** is the one of the last record about it. -/
theorem getElem?_reportsByTarget {raw : EvidenceStore} {target : Bytes}
    {report : StorageHealthReport} :
    (reportsByTarget parse raw)[target]? = some report ↔
      ∃ record protocol, LastNamed raw.records record target ∧
        recordedProtocol raw target = some protocol ∧
        report = (healthReport parse ((scannedTargets raw).devices.getD target []) protocol target
          record).1 := by
  rw [reportsByTarget]
  cases hprotocol : (scannedTargets raw).protocols[target]? with
  | none =>
      rw [getElem?_foldl_insertReport_of (targetReport parse (scannedTargets raw)) (fun _ => false)
        (fun _ => report) (fun record report => by
          rw [targetReport_eq_some, hprotocol]
          simp)]
      refine iff_of_false (by simp) ?_
      rintro ⟨record, protocol, hlast, hrecorded, -⟩
      rw [← getElem?_scannedProtocols raw hlast.names.single, hprotocol] at hrecorded
      cases hrecorded
  | some protocol =>
      rw [getElem?_foldl_insertReport_of (targetReport parse (scannedTargets raw))
        (fun record => healthTarget record = some target)
        (fun record =>
          (healthReport parse ((scannedTargets raw).devices.getD target []) protocol target record).1)
        (fun record report => by
          rw [targetReport_eq_some, decide_eq_true_eq, hprotocol]
          simp), Option.map_eq_some_iff]
      constructor
      · rintro ⟨record, hlast, rfl⟩
        have hnamed := getLast?_filter_healthTarget.mp hlast
        rw [getElem?_scannedProtocols raw hnamed.names.single] at hprotocol
        exact ⟨record, protocol, hnamed, hprotocol, rfl⟩
      · rintro ⟨record, protocol', hlast, hrecorded, rfl⟩
        rw [getElem?_scannedProtocols raw hlast.names.single, hrecorded] at hprotocol
        obtain rfl := Option.some.inj hprotocol
        exact ⟨record, getLast?_filter_healthTarget.mpr hlast, rfl⟩

end Reports

/-! ### Documents -/

/-- A byte is the integer of a member with one of some names. -/
def IntegerAt (j : Json) (keys : List String) (v : UInt8) : Prop :=
  ∃ key ∈ keys, (j.field key).bind asInt = some (v.toNat : ℤ)

theorem byteMember_eq_some {j : Json} {key : String} {v : UInt8} :
    byteMember j key = some v ↔ (j.field key).bind asInt = some (v.toNat : ℤ) := by
  have hv := v.toNat_lt
  rw [byteMember, Option.map_eq_some_iff]
  cases j.field key with
  | none => simp
  | some member =>
      rw [Option.bind_some, Option.bind_some]
      constructor
      · rintro ⟨n, hn, rfl⟩
        obtain ⟨hint, hle⟩ := healthInteger_eq_some.mp hn
        rw [hint, UInt8.toNat_ofNat', Nat.mod_eq_of_lt (by omega)]
      · intro hint
        exact ⟨v.toNat, healthInteger_of_asInt hint (by omega), UInt8.ofNat_toNat⟩

theorem integerAt_of_byteMember {j : Json} {key : String} {v : UInt8} (h : v ∈ byteMember j key) :
    IntegerAt j [key] v := ⟨key, List.mem_singleton_self key, byteMember_eq_some.mp h⟩

/-- A member under its name or the one older tools have for it. -/
theorem integerAt_of_or {j : Json} {key older : String} {v : UInt8}
    (h : v ∈ (byteMember j key).or (byteMember j older)) : IntegerAt j [key, older] v := by
  rcases Option.or_eq_some_iff.mp h with hkey | ⟨-, holder⟩
  · exact ⟨key, List.mem_cons_self, byteMember_eq_some.mp hkey⟩
  · exact ⟨older, by simp, byteMember_eq_some.mp holder⟩

/-- The bytes of NVMe health data are integers of a document. -/
structure NvmeExact (j : Json) (health : NvmeHealth) : Prop where
  criticalWarning : ∀ v ∈ health.criticalWarning, IntegerAt j ["critical_warning"] v
  availableSpare : ∀ v ∈ health.availableSpare,
    IntegerAt j ["available_spare", "avail_spare"] v ∧ v ≤ 100
  spareThreshold : ∀ v ∈ health.spareThreshold,
    IntegerAt j ["available_spare_threshold", "spare_thresh"] v ∧ v ≤ 100
  percentageUsed : ∀ v ∈ health.percentageUsed,
    IntegerAt j ["percentage_used", "percent_used"] v

theorem nvmeHealth_exact (j : Json) (kelvin : Bool) : NvmeExact j (nvmeHealth j kelvin) where
  criticalWarning _ hv := integerAt_of_byteMember hv
  availableSpare _ hv := by
    obtain ⟨hor, hle⟩ := Option.filter_eq_some_iff.mp hv
    exact ⟨integerAt_of_or hor, of_decide_eq_true hle⟩
  spareThreshold _ hv := by
    obtain ⟨hor, hle⟩ := Option.filter_eq_some_iff.mp hv
    exact ⟨integerAt_of_or hor, of_decide_eq_true hle⟩
  percentageUsed _ hv := integerAt_of_or hv

/-- The bytes of an ATA attribute are integers of a row of the table. -/
structure AtaExact (row : Json) (health : AtaHealthAttribute) : Prop where
  id : IntegerAt row ["id"] health.id
  value : ∀ v ∈ health.value, IntegerAt row ["value"] v
  worst : ∀ v ∈ health.worst, IntegerAt row ["worst"] v
  threshold : ∀ v ∈ health.threshold, IntegerAt row ["thresh"] v

theorem ataAttribute_exact {row : Json} {health : AtaHealthAttribute}
    (h : ataAttribute row = some health) : AtaExact row health := by
  rw [ataAttribute] at h
  split at h
  · rename_i id hid
    split_ifs at h
    obtain rfl := Option.some.inj h
    exact ⟨integerAt_of_byteMember hid, fun _ hv => integerAt_of_byteMember hv,
      fun _ hv => integerAt_of_byteMember hv, fun _ hv => integerAt_of_byteMember hv⟩
  · cases h

/-! ### One report -/

/-- A report without health data. -/
structure NoHealth (report : StorageHealthReport) : Prop where
  smartAvailable : report.smartAvailable = none
  smartEnabled : report.smartEnabled = none
  passed : report.passed = none
  nvme : report.nvme = none
  ataAttributes : report.ataAttributes = []
  scsi : report.scsi = none

/-- The object with the NVMe fields in the output of a tool. -/
def nvmeObject (source : RawSource) (j : Json) : Json :=
  if source = .nvmeSmartLog then j else objectMember j "nvme_smart_health_information_log"

/-- What a report says from a record: the data of its document, or none. -/
structure FromRecord (parse : Bytes → Option Json) (record : RawEvidence)
    (report : StorageHealthReport) : Prop where
  source : report.source = record.source
  origin : report.origin = record.pathOrCommand
  ata : report.ataAttributes ≠ [] → report.protocol = .ata
  scsi : report.scsi ≠ none → report.protocol = .scsi
  nvme : report.nvme ≠ none → report.protocol = .nvme ∨ record.source = .nvmeSmartLog
  document : record.status = .success ∨ record.status = .partial_ →
    ∀ j, parse record.payload = some j → j.isObject = true →
      report.status = record.status ∧ report.failure = record.failure ∧
        (∀ health ∈ report.nvme, NvmeExact (nvmeObject record.source j) health) ∧
        ∀ health ∈ report.ataAttributes, ∃ row ∈ attributeTable j, AtaExact row health
  invalid : record.status ≠ .notCollected →
    (∀ j, parse record.payload = some j → j.isObject = false) →
      report.status = .failed ∧ NoHealth report
  unread : record.status = .failed ∨ record.status = .notCollected →
    report.status = record.status ∧ NoHealth report

section Single

variable {parse : Bytes → Option Json} {devices : List Bytes} {protocol : StorageProtocol}
  {target : Bytes} {record : RawEvidence}

/-- A record that is read has not failed and was not left out. -/
theorem not_unread (h : record.status = .success ∨ record.status = .partial_) :
    ¬(record.status = .failed ∨ record.status = .notCollected) := by
  rcases h with h | h <;> simp [h]

theorem fromRecord_unread (h : ¬(record.status = .success ∨ record.status = .partial_)) :
    FromRecord parse record (healthReport parse devices protocol target record).1 := by
  rw [healthReport, if_neg h]
  have hfailed : record.status ≠ .notCollected → record.status = .failed := by
    intro hne
    cases hstatus : record.status with
    | success => exact absurd (.inl hstatus) h
    | partial_ => exact absurd (.inr hstatus) h
    | failed => rfl
    | notCollected => exact absurd hstatus hne
  exact
    { source := rfl
      origin := rfl
      ata := fun hne => absurd rfl hne
      scsi := fun hne => absurd rfl hne
      nvme := fun hne => absurd rfl hne
      document := fun hread => absurd hread h
      invalid := fun hne _ => ⟨hfailed hne, rfl, rfl, rfl, rfl, rfl, rfl⟩
      unread := fun _ => ⟨rfl, rfl, rfl, rfl, rfl, rfl, rfl⟩ }

theorem fromRecord_invalid (h : record.status = .success ∨ record.status = .partial_)
    (hparse : (parse record.payload).filter isObject = none) :
    FromRecord parse record (healthReport parse devices protocol target record).1 := by
  rw [healthReport, if_pos h, hparse]
  exact
    { source := rfl
      origin := rfl
      ata := fun hne => absurd rfl hne
      scsi := fun hne => absurd rfl hne
      nvme := fun hne => absurd rfl hne
      document := fun _ j hj hobject => by
        rw [hj, Option.filter_some, if_pos hobject] at hparse
        cases hparse
      invalid := fun _ _ => ⟨rfl, rfl, rfl, rfl, rfl, rfl, rfl⟩
      unread := fun hunread => absurd hunread (not_unread h) }

theorem fromRecord_document (h : record.status = .success ∨ record.status = .partial_) {j : Json}
    (hj : parse record.payload = some j) (hobject : j.isObject = true) :
    FromRecord parse record (healthReport parse devices protocol target record).1 := by
  have hparse : (parse record.payload).filter isObject = some j := by
    rw [hj, Option.filter_some, if_pos hobject]
  have hvalid : ¬∀ j', parse record.payload = some j' → j'.isObject = false := fun hall => by
    rw [hall j hj] at hobject
    cases hobject
  rw [healthReport, if_pos h, hparse]
  dsimp only
  by_cases hsource : record.source = .nvmeSmartLog
  · rw [if_pos hsource]
    exact
      { source := rfl
        origin := rfl
        ata := fun hne => absurd rfl hne
        scsi := fun hne => absurd rfl hne
        nvme := fun _ => .inr hsource
        document := fun _ j' hj' _ => by
          obtain rfl := Option.some.inj (hj.symm.trans hj')
          refine ⟨rfl, rfl, fun health hhealth => ?_, fun _ hmem => absurd hmem List.not_mem_nil⟩
          obtain rfl := Option.some.inj hhealth
          rw [nvmeObject, if_pos hsource]
          exact nvmeHealth_exact j true
        invalid := fun _ hall => absurd hall hvalid
        unread := fun hunread => absurd hunread (not_unread h) }
  · rw [if_neg hsource]
    exact
      { source := rfl
        origin := rfl
        ata := fun hne => by
          by_contra hprotocol
          exact hne (if_neg hprotocol)
        scsi := fun hne => by
          by_contra hprotocol
          exact hne (if_neg fun hboth => hprotocol hboth.1)
        nvme := fun hne => by
          by_contra hprotocol
          exact hne (if_neg fun hboth => hprotocol (.inl hboth.1))
        document := fun _ j' hj' _ => by
          obtain rfl := Option.some.inj (hj.symm.trans hj')
          refine ⟨rfl, rfl, fun health hhealth => ?_, fun health hmem => ?_⟩
          · rw [smartHealth] at hhealth
            dsimp only at hhealth
            split_ifs at hhealth with hnvme
            · obtain rfl := Option.some.inj hhealth
              rw [nvmeObject, if_neg hsource]
              exact nvmeHealth_exact _ false
            · cases hhealth
          · rw [smartHealth] at hmem
            dsimp only at hmem
            split_ifs at hmem with hata
            · obtain ⟨row, hrow, hhealth⟩ := List.mem_filterMap.mp hmem
              exact ⟨row, hrow, ataAttribute_exact hhealth⟩
            · cases hmem
        invalid := fun _ hall => absurd hall hvalid
        unread := fun hunread => absurd hunread (not_unread h) }

theorem healthReport_fromRecord :
    FromRecord parse record (healthReport parse devices protocol target record).1 := by
  by_cases h : record.status = .success ∨ record.status = .partial_
  · cases hparse : (parse record.payload).filter isObject with
    | none => exact fromRecord_invalid h hparse
    | some j =>
        obtain ⟨hj, hobject⟩ := Option.filter_eq_some_iff.mp hparse
        exact fromRecord_document h hj hobject
  · exact fromRecord_unread h

/-- A report keeps what is known of its target. -/
theorem healthReport_target (parse : Bytes → Option Json) (devices : List Bytes)
    (protocol : StorageProtocol) (target : Bytes) (record : RawEvidence) :
    (healthReport parse devices protocol target record).1.target = target ∧
      (healthReport parse devices protocol target record).1.devices = devices ∧
      (healthReport parse devices protocol target record).1.protocol = protocol := by
  rw [healthReport]
  split_ifs
  · split <;> exact ⟨rfl, rfl, rfl⟩
  · split <;> exact ⟨rfl, rfl, rfl⟩
  · exact ⟨rfl, rfl, rfl⟩

end Single

/-! ### The parser -/

/-- What a report says about its target, from the last record about it. -/
structure HealthSpec (parse : Bytes → Option Json) (raw : EvidenceStore)
    (report : StorageHealthReport) (record : RawEvidence) : Prop where
  last : LastNamed raw.records record report.target
  protocol : recordedProtocol raw report.target = some report.protocol
  devices : ∀ device, device ∈ report.devices ↔
    ∃ record ∈ raw.records, NamesDevice record report.target device
  reflects : report =
    (healthReport parse report.devices report.protocol report.target record).1
  data : FromRecord parse record report

/-- The reports that are appended to a storage: by increasing target, one for every target with a
protocol that a record of a tool is about. -/
structure AppendsReports (parse : Bytes → Option Json) (raw : EvidenceStore)
    (before after : Storage) (reports : List StorageHealthReport) : Prop where
  appended : after = { before with health := before.health ++ reports }
  increasing : reports.Pairwise fun a b => compare a.target b.target = .lt
  reported : ∀ target, (∃ report ∈ reports, report.target = target) ↔
    (recordedProtocol raw target).isSome ∧ ∃ record ∈ raw.records, Names record target
  each : ∀ report ∈ reports, ∃ record, HealthSpec parse raw report record

theorem mem_toList_reportsByTarget {parse : Bytes → Option Json} {raw : EvidenceStore} {target : Bytes}
    {report : StorageHealthReport} (h : (target, report) ∈ (reportsByTarget parse raw).toList) :
    report.target = target ∧ ∃ record, HealthSpec parse raw report record := by
  rw [TreeMap.mem_toList_iff_getElem?_eq_some, getElem?_reportsByTarget] at h
  obtain ⟨record, protocol, hlast, hprotocol, rfl⟩ := h
  obtain ⟨htarget, hdevices, hown⟩ := healthReport_target parse
    ((scannedTargets raw).devices.getD target []) protocol target record
  refine ⟨htarget, record, ?_, ?_, fun device => ?_, ?_, healthReport_fromRecord⟩
  · rwa [htarget]
  · rw [htarget, hown]
    exact hprotocol
  · rw [hdevices, htarget]
    exact mem_scannedDevices
  · rw [hdevices, hown, htarget]

/-- A target with a record about it has a last one. -/
theorem exists_lastNamed {records : List RawEvidence} {target : Bytes} :
    (∃ record, LastNamed records record target) ↔ ∃ record ∈ records, Names record target := by
  constructor
  · rintro ⟨record, hnames, before, after, rfl, -⟩
    exact ⟨record, List.mem_append_right _ List.mem_cons_self, hnames⟩
  · rintro ⟨record, hmem, hnames⟩
    have hne : records.filter (healthTarget · = some target) ≠ [] :=
      List.ne_nil_of_mem (List.mem_filter.mpr
        ⟨hmem, decide_eq_true (healthTarget_eq_some.mpr hnames)⟩)
    exact ⟨_, getLast?_filter_healthTarget.mp (List.getLast?_eq_getLast_of_ne_nil hne)⟩

/-- **Drive health reports are assembled from the last record of each target.** -/
theorem parseStorageHealth_spec (parse : Bytes → Option Json) (storage : Storage)
    (raw : EvidenceStore) :
    ∃ reports, AppendsReports parse raw storage (parseStorageHealth parse storage raw).1 reports := by
  refine ⟨(reportsByTarget parse raw).toList.map Prod.snd, parseStorageHealth_fst parse storage raw,
    ?_, fun target => ?_, fun report hmem => ?_⟩
  · rw [List.pairwise_map]
    refine TreeMap.ordered_keys_toList.imp_of_mem fun {a b} ha hb hlt => ?_
    rw [(mem_toList_reportsByTarget ha).1, (mem_toList_reportsByTarget hb).1]
    exact hlt
  · rw [← exists_lastNamed, Option.isSome_iff_exists]
    constructor
    · rintro ⟨report, hmem, rfl⟩
      obtain ⟨⟨target, report⟩, hentry, rfl⟩ := List.mem_map.mp hmem
      obtain ⟨-, record, hspec⟩ := mem_toList_reportsByTarget hentry
      exact ⟨⟨_, hspec.protocol⟩, record, hspec.last⟩
    · rintro ⟨⟨protocol, hprotocol⟩, record, hlast⟩
      have hentry := TreeMap.mem_toList_iff_getElem?_eq_some.mpr
        ((getElem?_reportsByTarget parse).mpr ⟨record, protocol, hlast, hprotocol, rfl⟩)
      exact ⟨_, List.mem_map_of_mem hentry, (mem_toList_reportsByTarget hentry).1⟩
  · obtain ⟨⟨target, report⟩, hentry, rfl⟩ := List.mem_map.mp hmem
    exact (mem_toList_reportsByTarget hentry).2

/-- A drive in standby, for which the tool has no document. -/
def standbyStore : EvidenceStore :=
  { records :=
      [⟨.storageHealthSysfs, utf8 "/dev/sda/protocol", utf8 "ata", .success, none, none⟩,
       ⟨.smartctl, utf8 "smartctl/sda", utf8 "standby", .notCollected, some .lowPower, none⟩] }

/-- A parser that knows no document. -/
def noDocument (_ : Bytes) : Option Json := none

/-- A report from a text that is no JSON without having failed. -/
theorem standby_not_failed :
    ¬∀ report ∈ (parseStorageHealth noDocument {} standbyStore).1.health,
      ∀ record, LastNamed standbyStore.records record report.target →
        noDocument record.payload = none → report.status = .failed := by
  intro h
  have hreports : (parseStorageHealth noDocument {} standbyStore).1.health =
      [{ target := utf8 "sda"
         protocol := .ata
         origin := utf8 "smartctl/sda"
         failure := some .lowPower }] := by
    decide +kernel
  have hlast : LastNamed standbyStore.records
      ⟨.smartctl, utf8 "smartctl/sda", utf8 "standby", .notCollected, some .lowPower, none⟩
      (utf8 "sda") :=
    getLast?_filter_healthTarget.mp (by decide +kernel)
  rw [hreports] at h
  exact absurd (h _ (List.mem_singleton_self _) _ hlast rfl) (by decide)

end Sysal.StorageHealthParser
