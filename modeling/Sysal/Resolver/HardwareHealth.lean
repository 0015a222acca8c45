import Sysal.Model.System

/-!
# Health findings

`hardware_health.cpp` and `storage_health.cpp` of the resolver: the sensor alerts, degraded arrays,
memory error events and drive findings, and for each of the four domains the coverage they rest on.
The coverage counters are 32-bit and wrap.

Every kind of item is one function on one element (`sensorAlert`, `storageAlert`, `memoryEvent`,
`driveFindings`), next to the evidence that element adds to its counter.
-/

namespace Sysal

namespace HealthFindings

/-! ### Sensors -/

section SensorAlerts

variable {Unit : Type} [LT Unit] [DecidableLT Unit]

/-- Whether a reading counts as usable. -/
def usableReading (sensor : SensorReading Unit) : Bool :=
  (sensor.input.isSome || sensor.average.isSome) && sensor.enabled.getD true &&
    !sensor.fault.getD false

/-- How many alarm reports a reading carries. -/
def alarmReportsOf (sensor : SensorReading Unit) : ℕ :=
  sensor.alarms.length + sensor.fault.isSome.toNat

def isCriticalAlarm (alarm : SensorAlarm) : Bool :=
  Bytes.endsWith alarm.attributeName (utf8 "crit_alarm") ||
    Bytes.endsWith alarm.attributeName (utf8 "emergency_alarm")

/-- The alarm that is reported: the first active critical one, else the first active one. -/
def reportedAlarm (alarms : List SensorAlarm) : Option SensorAlarm :=
  (alarms.find? fun alarm => alarm.active && isCriticalAlarm alarm).or (alarms.find? (·.active))

/-- A path up to and including its last slash. -/
def directoryOf (origin : Bytes) : Bytes :=
  match Bytes.rcut origin 47 with
  | some (directory, _) => directory ++ [47]
  | none => []

/-- Whether the minimum lies above the maximum. -/
def limitsReversed (sensor : SensorReading Unit) : Bool :=
  match sensor.minimum, sensor.maximum with
  | some minimum, some maximum => maximum < minimum
  | _, _ => false

/-- The limit a reading violates, the critical one first. -/
def limitAlert (sensor : SensorReading Unit) (input : Unit) :
    Option (SensorAlertKind × HealthSeverity) :=
  if sensor.critical.any fun critical => !decide (input < critical) then
    some (.criticalLimit, .critical)
  else if sensor.maximum.any (· < input) then some (.aboveMaximum, .warning)
  else if sensor.minimum.any (input < ·) then some (.belowMinimum, .warning)
  else none

/-- The alert of one reading. -/
def sensorAlert (sensor : SensorReading Unit) : Option SensorAlert :=
  let alert (kind : SensorAlertKind) (severity : HealthSeverity) (origin : Bytes) : SensorAlert :=
    ⟨sensor.identity.id, kind, severity, origin⟩
  if sensor.fault.getD false then
    some (alert .fault .warning (sensor.identity.id ++ utf8 "_fault"))
  else match reportedAlarm sensor.alarms with
    | some alarm =>
        some (alert .driverAlarm (if isCriticalAlarm alarm then .critical else .warning)
          (directoryOf sensor.identity.origin ++ alarm.attributeName))
    | none =>
        match sensor.input with
        | none => none
        | some input =>
            if !sensor.enabled.getD true || !sensor.unitSupported || limitsReversed sensor then none
            else (limitAlert sensor input).map fun (kind, severity) =>
              alert kind severity sensor.identity.origin

/-- `sensor_alerts`: the alerts of a list of readings and the counters with its evidence. -/
def sensorAlerts (sensors : List (SensorReading Unit)) (health : HardwareHealth)
    (coverage : HealthCoverage) : HardwareHealth × HealthCoverage :=
  ({ health with sensorAlerts := health.sensorAlerts ++ sensors.filterMap sensorAlert },
   sensors.foldl (fun c sensor =>
     { c with
       usableReadings := c.usableReadings + (usableReading sensor).toNat.toUInt32
       alarmReports := c.alarmReports + (alarmReportsOf sensor).toUInt32 }) coverage)

end SensorAlerts

/-- `status`: an empty count is unavailable, a failure makes it partial. -/
def coverageStatus (requested : Bool) (count : UInt32) (failed : Bool) : HealthCoverageStatus :=
  if !requested then .notRequested
  else if count = 0 then .unavailable
  else if failed then .partial_
  else .available

/-- Whether some sensor record failed. -/
def sensorFailure (raw : EvidenceStore) : Bool :=
  raw.records.any fun record =>
    (record.source = .sysfsHwmon || record.source = .sysfsThermal) && record.status = .failed

/-- The sensor part: alerts and coverage. -/
def sensorHealth (sensors : Sensors) (flags : Collect) (raw : EvidenceStore) : HardwareHealth :=
  let start : HardwareHealth × HealthCoverage := ({}, { domain := utf8 "sensors" })
  let (health, coverage) :=
    if has flags Collect.sensors then
      let (health, coverage) := sensorAlerts sensors.temperatures start.1 start.2
      let (health, coverage) := sensorAlerts sensors.fans health coverage
      sensorAlerts sensors.powers health coverage
    else start
  let covered := { coverage with
    status := coverageStatus (has flags Collect.sensors)
      (coverage.usableReadings + coverage.alarmReports) (sensorFailure raw) }
  { health with coverage := health.coverage ++ [covered] }

/-! ### Arrays -/

/-- The alert of one block device: a positive number of degraded members. -/
def storageAlert (device : StorageDevice) : Option StorageAlert :=
  match device.raidDegraded with
  | some degraded =>
      if degraded > 0 then
        some ⟨device.name, degraded, .warning,
          utf8 "/sys/class/block/" ++ device.name ++ utf8 "/md/degraded"⟩
      else none
  | none => none

/-- The array part: a device of layer `md` without a count makes it incomplete. -/
def arrayHealth (storage : Storage) (flags : Collect) (health : HardwareHealth) : HardwareHealth :=
  let usable : UInt32 := storage.devices.foldl
    (fun c device => c + device.raidDegraded.isSome.toNat.toUInt32) 0
  let incomplete := storage.devices.any fun device =>
    device.layer = utf8 "md" && device.raidDegraded.isNone
  { health with
    storageAlerts := health.storageAlerts ++ storage.devices.filterMap storageAlert
    coverage := health.coverage ++
      [{ domain := utf8 "md"
         status := coverageStatus (has flags Collect.storage) usable incomplete
         usableReadings := usable }] }

/-! ### Memory controllers -/

/-- The error event of one memory controller. -/
def memoryEvent (controller : MemoryController) : Option MemoryErrorEvent :=
  if controller.correctedErrors.getD 0 > 0 ∨ controller.uncorrectedErrors.getD 0 > 0 then
    some ⟨controller.index, controller.correctedErrors, controller.uncorrectedErrors,
      if controller.uncorrectedErrors.getD 0 > 0 then .warning else .information,
      utf8 "/sys/devices/system/edac/mc/mc" ++ decimal controller.index.toNat⟩
  else none

/-- Whether a controller reports a counter. -/
def reportsErrors (controller : MemoryController) : Bool :=
  controller.correctedErrors.isSome || controller.uncorrectedErrors.isSome

def memoryHealth (memory : Memory) (flags : Collect) (health : HardwareHealth) : HardwareHealth :=
  let usable : UInt32 := memory.controllers.foldl
    (fun c controller => c + (reportsErrors controller).toNat.toUInt32) 0
  let incomplete := memory.controllers.any fun controller =>
    controller.correctedErrors.isNone || controller.uncorrectedErrors.isNone
  { health with
    memoryEvents := health.memoryEvents ++ memory.controllers.filterMap memoryEvent
    coverage := health.coverage ++
      [{ domain := utf8 "edac"
         status := coverageStatus (has flags Collect.memory) usable incomplete
         usableReadings := usable }] }

/-! ### Drives -/

/-- A counter other than zero. -/
def positive (counter : Option StorageCounter) : Bool :=
  counter.any (·.decimal ≠ utf8 "0")

/-- Whether a report says anything about the health of its drive. -/
def evidence (report : StorageHealthReport) : Bool :=
  report.passed.isSome || !report.ataAttributes.isEmpty ||
    report.nvme.any (fun h => h.criticalWarning.isSome || h.availableSpare.isSome ||
      h.percentageUsed.isSome || h.mediaErrors.isSome || h.powerOnHours.isSome) ||
    report.scsi.any fun h =>
      h.readUncorrected.isSome || h.writeUncorrected.isSome || h.verifyUncorrected.isSome

/-- The findings of one report are built from a kind, a severity and a field below the origin. -/
def finding (report : StorageHealthReport) (kind : DriveFindingKind) (severity : HealthSeverity)
    (field : Bytes) (attributeId : Option UInt8) : DriveFinding :=
  ⟨report.target, kind, severity, report.origin ++ utf8 "#" ++ field, attributeId⟩

/-- The findings of the NVMe log of a report. -/
def nvmeFindings (report : StorageHealthReport) (nvme : NvmeHealth) : List DriveFinding :=
  let prefixed (field : String) : Bytes :=
    (if report.source = .smartctl then utf8 "nvme_smart_health_information_log/" else []) ++ utf8 field
  let warning := nvme.criticalWarning.getD 0
  (if warning > 0 then
    [finding report .nvmeWarning .critical (prefixed "critical_warning") none] else []) ++
  (match nvme.availableSpare, nvme.spareThreshold with
    | some spare, some threshold =>
        if spare < threshold ∧ warning &&& 1 = 0 then
          [finding report .spareLow .warning (prefixed "available_spare") none]
        else []
    | _, _ => []) ++
  (if nvme.percentageUsed.getD 0 ≥ 100 then
    [finding report .enduranceEstimate .warning
      (prefixed (if report.source = .smartctl then "percentage_used" else "percent_used")) none]
    else []) ++
  (if positive nvme.mediaErrors then
    [finding report .nvmeMediaHistory .information (prefixed "media_errors") none] else [])

def ataFinding (report : StorageHealthReport) (entry : AtaHealthAttribute) :
    Option DriveFinding :=
  if entry.whenFailed = utf8 "now" then
    some (finding report .ataCurrent .warning (utf8 "ata_smart_attributes") (some entry.id))
  else if entry.whenFailed = utf8 "past" then
    some (finding report .ataHistorical .information (utf8 "ata_smart_attributes")
      (some entry.id))
  else none

def scsiFindings (report : StorageHealthReport) (scsi : ScsiHealth) : List DriveFinding :=
  [("read", scsi.readUncorrected), ("write", scsi.writeUncorrected),
   ("verify", scsi.verifyUncorrected)].filterMap fun (operation, counter) =>
    if positive counter then
      some (finding report .scsiHistory .information
        (utf8 "scsi_error_counter_log/" ++ utf8 operation ++ utf8 "/total_uncorrected_errors") none)
    else none

/-- A drive failed its self-test; an NVMe warning says so already. -/
def smartFailed (report : StorageHealthReport) : Bool :=
  !report.passed.getD true && report.nvme.all fun h => h.criticalWarning.getD 0 = 0

/-- All findings of one report, in the order they are added. -/
def driveFindings (report : StorageHealthReport) : List DriveFinding :=
  (if smartFailed report then
    [finding report .smartFailed .critical (utf8 "smart_status/passed") none] else []) ++
  (match report.nvme with
    | some nvme => nvmeFindings report nvme
    | none => []) ++
  report.ataAttributes.filterMap (ataFinding report) ++
  (match report.scsi with
    | some scsi => scsiFindings report scsi
    | none => [])

/-- Whether some health target could not be read. -/
def healthFailure (raw : EvidenceStore) : Bool :=
  raw.records.any fun record => record.source = .storageHealthSysfs && record.status ≠ .success

/-- The alarm reports of one drive report. -/
def driveAlarmReports (report : StorageHealthReport) : ℕ :=
  report.passed.isSome.toNat + (report.nvme.any (·.criticalWarning.isSome)).toNat

/-- `storage_findings`: the drive part. -/
def storageFindings (storage : Storage) (flags : Collect) (raw : EvidenceStore)
    (health : HardwareHealth) : HardwareHealth :=
  let usable : UInt32 := storage.health.foldl
    (fun c report => c + (evidence report).toNat.toUInt32) 0
  let alarms : UInt32 := storage.health.foldl
    (fun c report => c + (driveAlarmReports report).toUInt32) 0
  let incomplete := healthFailure raw ||
    storage.health.any fun report => report.status ≠ .success || !evidence report
  { health with
    driveFindings := health.driveFindings ++ storage.health.flatMap driveFindings
    coverage := health.coverage ++
      [{ domain := utf8 "storage_health"
         status := coverageStatus (has flags Collect.storageHealth) usable incomplete
         usableReadings := usable
         alarmReports := alarms }] }

end HealthFindings

open HealthFindings

/-- `hardware_health`: the four parts in order. -/
def hardwareHealth (info : SystemInfo) (flags : Collect) (raw : EvidenceStore) : HardwareHealth :=
  sensorHealth info.sensors flags raw
    |> arrayHealth info.storage flags
    |> memoryHealth info.memory flags
    |> storageFindings info.storage flags raw

end Sysal
