import Sysal.Foundation.OrderedContainers
import Sysal.Parser.ParseUtils
import Sysal.Serialization.StorageHealth

/-!
# The drive health parser

`storage_health.cpp`: which drives have health data and through which protocol, and what the tools say
about them.  The parser of the JSON library is a parameter; a text that is no JSON has no value.
-/

namespace Sysal.StorageHealthParser

open Sysal Json Std

/-! ### Members -/

/-- The object without members. -/
def emptyObject : Json := .object []

/-- `object`: the member of a name, if it is an object. -/
def objectMember (j : Json) (key : String) : Json :=
  match j.field key with
  | some member => if member.isObject then member else emptyObject
  | none => emptyObject

/-- `boolean`. -/
def booleanMember (j : Json) (key : String) : Option Bool := (j.field key).bind asBool

/-- `text`. -/
def textMember (j : Json) (key : String) : Bytes := ((j.field key).bind asStr).getD []

/-- `health_integer` on the 8-bit value of a member. -/
def byteMember (j : Json) (key : String) : Option UInt8 :=
  ((j.field key).bind (healthInteger 0xff)).map UInt8.ofNat

/-- `health_counter`: the exact decimal beside a number counts, where there is one. -/
def counterMember (j : Json) (key : String) : Option StorageCounter :=
  match j.field (key ++ "_s") with
  | some exact => storageCounter exact
  | none => (j.field key).bind storageCounter

/-! ### Health data -/

/-- The temperature of a drive in millidegrees, from degrees or kelvin. -/
def driveTemperature (kelvin : Bool) (j : Json) : Option SensorTemperature :=
  match (j.field "temperature").bind asInt with
  | some value =>
      if (if kelvin then 1 else -273) ≤ value ∧ value ≤ 65535 then
        some (Int64.ofInt (value * 1000 - if kelvin then 273150 else 0))
      else none
  | none => none

/-- `nvme_health`: older tools have shorter names for three of the fields. -/
def nvmeHealth (j : Json) (kelvin : Bool) : NvmeHealth :=
  { criticalWarning := byteMember j "critical_warning"
    availableSpare :=
      ((byteMember j "available_spare").or (byteMember j "avail_spare")).filter (· ≤ 100)
    spareThreshold :=
      ((byteMember j "available_spare_threshold").or (byteMember j "spare_thresh")).filter (· ≤ 100)
    percentageUsed := (byteMember j "percentage_used").or (byteMember j "percent_used")
    temperature := driveTemperature kelvin j
    powerOnHours := counterMember j "power_on_hours"
    powerCycles := counterMember j "power_cycles"
    unsafeShutdowns := counterMember j "unsafe_shutdowns"
    mediaErrors := counterMember j "media_errors"
    errorLogEntries := counterMember j "num_err_log_entries"
    dataUnitsRead := counterMember j "data_units_read"
    dataUnitsWritten := counterMember j "data_units_written" }

/-- A row of the attribute table; what is no object has no members, and the number zero stands for none. -/
def ataAttribute (row : Json) : Option AtaHealthAttribute :=
  match byteMember row "id" with
  | some id =>
      if id = 0 then none
      else some
        { id := id
          name := textMember row "name"
          raw := textMember (objectMember row "raw") "string"
          whenFailed := textMember row "when_failed"
          value := byteMember row "value"
          worst := byteMember row "worst"
          threshold := byteMember row "thresh" }
  | none => none

/-- The rows of the attribute table of an ATA drive. -/
def attributeTable (j : Json) : List Json :=
  match (objectMember j "ata_smart_attributes").field "table" with
  | some table => if table.isArray then table.elements else []
  | none => []

/-- The uncorrected errors of a SCSI drive. -/
def scsiHealth (errors : Json) : ScsiHealth :=
  { readUncorrected := counterMember (objectMember errors "read") "total_uncorrected_errors"
    writeUncorrected := counterMember (objectMember errors "write") "total_uncorrected_errors"
    verifyUncorrected := counterMember (objectMember errors "verify") "total_uncorrected_errors" }

/-- `smart_health`. -/
def smartHealth (report : StorageHealthReport) (j : Json) : StorageHealthReport :=
  let support := objectMember j "smart_support"
  let nvme := objectMember j "nvme_smart_health_information_log"
  let errors := objectMember j "scsi_error_counter_log"
  { report with
    smartAvailable := booleanMember support "available"
    smartEnabled := booleanMember support "enabled"
    passed := booleanMember (objectMember j "smart_status") "passed"
    nvme := if report.protocol = .nvme ∧ ¬nvme.members.isEmpty then some (nvmeHealth nvme false)
      else report.nvme
    ataAttributes := report.ataAttributes ++
      if report.protocol = .ata then (attributeTable j).filterMap ataAttribute else []
    scsi := if report.protocol = .scsi ∧ ¬errors.members.isEmpty then some (scsiHealth errors)
      else report.scsi }

/-! ### Targets -/

/-- The block devices and the protocol of every target. -/
structure HealthTargets where
  devices : TreeMap Bytes (List Bytes) compare := ∅
  protocols : TreeMap Bytes StorageProtocol compare := ∅

/-- The protocol a name stands for. -/
def healthProtocol (name : Bytes) : StorageProtocol :=
  if name = utf8 "nvme" then .nvme
  else if name = utf8 "ata" then .ata
  else if name = utf8 "scsi" then .scsi
  else .unknown

/-- The part at a position of a path that begins with a directory and ends with the file behind that
part. -/
def pathPart (path directory file : Bytes) (position : ℕ) : Option Bytes :=
  if path.startsWith directory ∧ path.endsWith file ∧ (split path 47).length = position + 2 then
    (split path 47)[position]?
  else none

/-- One record about a target. -/
def scanTarget (targets : HealthTargets) (record : RawEvidence) : HealthTargets :=
  let path := record.pathOrCommand
  let targets :=
    match pathPart path (utf8 "/sys/class/block/") (utf8 "/health_target") 4 with
    | some device =>
        { targets with devices := upsert targets.devices (trim record.payload) (· ++ [device]) }
    | none => targets
  match pathPart path (utf8 "/dev/") (utf8 "/protocol") 2 with
  | some target =>
      { targets with
        protocols := targets.protocols.insert target (healthProtocol (trim record.payload)) }
  | none => targets

/-! ### Reports -/

section Reports

variable (parse : Bytes → Option Json)

/-- The report on a target from one record, and a warning. -/
def healthReport (devices : List Bytes) (protocol : StorageProtocol) (target : Bytes)
    (record : RawEvidence) : StorageHealthReport × List Bytes :=
  let report : StorageHealthReport :=
    { target := target
      devices := devices
      protocol := protocol
      source := record.source
      origin := record.pathOrCommand
      status := record.status
      failure := record.failure }
  if record.status = .success ∨ record.status = .partial_ then
    match (parse record.payload).filter isObject with
    | none =>
        ({ report with status := .failed, failure := some .unsupported },
          [utf8 "storage health: invalid JSON from " ++ record.pathOrCommand])
    | some j =>
        if record.source = .nvmeSmartLog then ({ report with nvme := some (nvmeHealth j true) }, [])
        else (smartHealth report j, [])
  else (report, [])

/-- The target a record of a tool is about. -/
def healthTarget (record : RawEvidence) : Option Bytes :=
  if record.source ≠ .smartctl ∧ record.source ≠ .nvmeSmartLog then none
  else
    match Bytes.cut record.pathOrCommand 47 with
    | some (_, target) => if target.isEmpty ∨ 47 ∈ target then none else some target
    | none => none

/-- The reports by target, and the warnings. -/
structure HealthScan where
  reports : TreeMap Bytes StorageHealthReport compare := ∅
  warnings : List Bytes := []

/-- One record of a tool; a later record on a target replaces an earlier one. -/
def scanHealth (targets : HealthTargets) (s : HealthScan) (record : RawEvidence) : HealthScan :=
  match healthTarget record with
  | none => s
  | some target =>
      match targets.protocols[target]? with
      | none => s
      | some protocol =>
          let (report, warnings) :=
            healthReport parse (targets.devices.getD target []) protocol target record
          { reports := s.reports.insert target report, warnings := s.warnings ++ warnings }

/-- `parse_storage_health`: the storage with the reports, and the warnings. -/
def parseStorageHealth (storage : Storage) (raw : EvidenceStore) : Storage × List Bytes :=
  let targets := (raw.successes .storageHealthSysfs).foldl scanTarget {}
  let s := raw.records.foldl (scanHealth parse targets) {}
  ({ storage with health := storage.health ++ s.reports.toList.map Prod.snd }, s.warnings)

end Reports

end Sysal.StorageHealthParser
