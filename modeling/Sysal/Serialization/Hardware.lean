import Sysal.Model.System
import Sysal.Serialization.JsonValues

/-!
# Sensors and hardware health as JSON

`hardware.cpp` of the serialization.  The measurements are checked integers; the codes, the PCI
address of a sensor and the counters of the health entries are read through the leaf reader and
compared with their bound afterwards.

* `sensorsFromJson_toJson`, `healthFromJson_toJson`: both come back from their JSON values.
-/

namespace Sysal

open Json

/-- `checked`, on the member it reads: an enumerator from a 64-bit number up to the last one. -/
def checkedFromJson {α : Type} [CEnum α] (leaf : LeafReader) (maximum : α) (key : String)
    (j : Json) : Decode α := do
  let number ← leaf.uint64 j
  match if number.toNat ≤ CEnum.code maximum then CEnum.ofCode α number.toNat else none with
  | some a => .ok a
  | none => .error (.invalid (utf8 "invalid " ++ utf8 key))

theorem library_uint64_ofEnum {α : Type} [CEnum α] (a : α) :
    LeafReader.library.uint64 (.ofEnum a) = .ok (UInt64.ofNat (CEnum.code a)) := by
  have hlt := CEnum.code_lt a
  have hle := CEnum.size_le (α := α)
  have hcode : CEnum.code a < 2 ^ 64 := by omega
  have hint : Json.ofEnum a = .ofUInt64 (UInt64.ofNat (CEnum.code a)) := by
    simp only [Json.ofEnum, Json.ofUInt32, Json.ofUInt64,
      UInt32.toNat_ofNat_of_lt' (show CEnum.code a < 2 ^ 32 by omega),
      UInt64.toNat_ofNat_of_lt' hcode]
  rw [hint, library_uint64]

theorem checkedFromJson_ofEnum_of_le {α : Type} [CEnum α] {a maximum : α} (key : String)
    (h : CEnum.code a ≤ CEnum.code maximum) :
    checkedFromJson .library maximum key (.ofEnum a) = .ok a := by
  have hlt := CEnum.code_lt a
  have hle := CEnum.size_le (α := α)
  rw [checkedFromJson, library_uint64_ofEnum, ok_bind,
    UInt64.toNat_ofNat_of_lt' (show CEnum.code a < 2 ^ 64 by omega), if_pos h, CEnum.ofCode_code]

@[simp] theorem checkedFromJson_ofEnum {α : Type} [CEnum α] (maximum : α) [CEnum.IsLast maximum]
    (key : String) (a : α) : checkedFromJson .library maximum key (.ofEnum a) = .ok a :=
  checkedFromJson_ofEnum_of_le _ (CEnum.code_le_last maximum a)

/-! ### Sensors -/

/-- The address of a sensor: four 64-bit numbers, compared with their bounds together. -/
def sensorPciAddressFromJson (leaf : LeafReader) (j : Json) : Decode PciAddress := do
  let domain ← j.read leaf.uint64 "domain"
  let bus ← j.read leaf.uint64 "bus"
  let device ← j.read leaf.uint64 "device"
  let function ← j.read leaf.uint64 "function"
  if domain > 65535 ∨ bus > 255 ∨ device > 31 ∨ function > 7 then
    .error (.invalid (utf8 "invalid sensor PCI address"))
  else
    .ok {
      domain := .ofNat domain.toNat
      bus := .ofNat bus.toNat
      device := .ofNat device.toNat
      function := .ofNat function.toNat }

def identityToJson (identity : SensorIdentity) : Json :=
  .object [
    ("id", some (.str identity.id)),
    ("chip", some (.str identity.chip)),
    ("driver", some (.str identity.driver)),
    ("channel", some (.str identity.channel)),
    ("label", some (.str identity.label)),
    ("source", some (.ofEnum identity.source)),
    ("origin", some (.str identity.origin)),
    ("device_path", some (.str identity.devicePath)),
    ("pci_address", identity.pciAddress.map pciAddressToJson)]

def identityFromJson (leaf : LeafReader) (j : Json) : Decode SensorIdentity := do
  return {
    id := ← j.read getString "id"
    chip := ← j.readDefault getString [] "chip"
    driver := ← j.readDefault getString [] "driver"
    channel := ← j.readDefault getString [] "channel"
    label := ← j.readDefault getString [] "label"
    origin := ← j.readDefault getString [] "origin"
    devicePath := ← j.readDefault getString [] "device_path"
    source := ← j.read (checkedFromJson leaf RawSource.sysfsHwmon "source") "source"
    pciAddress := ← j.readOptional (sensorPciAddressFromJson leaf) "pci_address" }

/-- The source of a sensor is at most `sysfsHwmon`; its address is in range. -/
structure SensorIdentity.InRange (identity : SensorIdentity) : Prop where
  source : CEnum.code identity.source ≤ CEnum.code RawSource.sysfsHwmon
  pciAddress : ∀ a ∈ identity.pciAddress, a.InRange

theorem library_uint64_ofUInt8 (x : UInt8) :
    LeafReader.library.uint64 (.ofUInt8 x) = .ok x.toUInt64 := by
  rw [show Json.ofUInt8 x = .ofUInt64 x.toUInt64 from rfl, library_uint64]

theorem library_uint64_ofUInt16 (x : UInt16) :
    LeafReader.library.uint64 (.ofUInt16 x) = .ok x.toUInt64 := by
  rw [show Json.ofUInt16 x = .ofUInt64 x.toUInt64 from rfl, library_uint64]

theorem sensorPciAddressFromJson_toJson {address : PciAddress} (h : address.InRange) :
    sensorPciAddressFromJson .library (pciAddressToJson address) = .ok address := by
  have hdomain := address.domain.toNat_lt
  have hbus := address.bus.toNat_lt
  have hdevice : address.device.toNat ≤ 31 := UInt8.le_iff_toNat_le.mp h.1
  have hfunction : address.function.toNat ≤ 7 := UInt8.le_iff_toNat_le.mp h.2
  have hbounds : ¬(address.domain.toUInt64 > 65535 ∨ address.bus.toUInt64 > 255 ∨
      address.device.toUInt64 > 31 ∨ address.function.toUInt64 > 7) := by
    simp only [gt_iff_lt, UInt64.lt_iff_toNat_lt, UInt16.toNat_toUInt64, UInt8.toNat_toUInt64]
    show ¬(65535 < address.domain.toNat ∨ 255 < address.bus.toNat ∨ 31 < address.device.toNat ∨
      7 < address.function.toNat)
    omega
  simp [sensorPciAddressFromJson, pciAddressToJson, library_uint64_ofUInt8,
    library_uint64_ofUInt16, -UInt64.not_lt, -gt_iff_lt, hbounds]

theorem identityFromJson_toJson {identity : SensorIdentity} (h : identity.InRange) :
    identityFromJson .library (identityToJson identity) = .ok identity := by
  have hsource := checkedFromJson_ofEnum_of_le "source" h.source
  have hpci : readPresent (sensorPciAddressFromJson .library)
      (identity.pciAddress.map pciAddressToJson) = .ok identity.pciAddress :=
    readPresent_map fun a ha => sensorPciAddressFromJson_toJson (h.pciAddress a ha)
  simp [identityFromJson, identityToJson, hsource, hpci]

/-- `unit_from_json` on a signed unit. -/
def temperatureFromJson (j : Json) : Decode SensorTemperature :=
  match j.asInt with
  | some n =>
      if n < 2 ^ 63 then .ok (Int64.ofInt n)
      else .error (.invalid (utf8 "sensor measurement out of range"))
  | none => .error (.invalid (utf8 "sensor measurement must be an integer"))

/-- `unit_from_json` on an unsigned unit. -/
def measurementFromJson (j : Json) : Decode UInt64 :=
  match j.asInt with
  | some n =>
      if n < 0 then .error (.invalid (utf8 "negative unsigned sensor measurement"))
      else .ok (UInt64.ofNat n.toNat)
  | none => .error (.invalid (utf8 "sensor measurement must be an integer"))

@[simp] theorem temperatureFromJson_ofInt64 (x : SensorTemperature) :
    temperatureFromJson (.ofInt64 x) = .ok x := by
  have hx := x.toInt_lt
  simp only [temperatureFromJson, asInt_ofInt64, hx, if_true, Int64.ofInt_toInt]

@[simp] theorem measurementFromJson_ofUInt64 (x : UInt64) :
    measurementFromJson (.ofUInt64 x) = .ok x := by
  have hx : ¬((x.toNat : ℤ) < 0) := by omega
  simp only [measurementFromJson, asInt_ofUInt64, hx, if_false, Int.toNat_natCast,
    UInt64.ofNat_toNat]

def sensorAlarmToJson (alarm : SensorAlarm) : Json :=
  .object [("attribute", some (.str alarm.attributeName)), ("active", some (.bool alarm.active))]

def sensorAlarmFromJson (j : Json) : Decode SensorAlarm := do
  return {
    attributeName := ← j.read getString "attribute"
    active := ← j.read getBool "active" }

@[simp] theorem sensorAlarmFromJson_toJson (alarm : SensorAlarm) :
    sensorAlarmFromJson (sensorAlarmToJson alarm) = .ok alarm := by
  simp [sensorAlarmFromJson, sensorAlarmToJson]

def sensorToJson {Unit : Type} (unitToJson : Unit → Json) (sensor : SensorReading Unit) : Json :=
  .object [
    ("identity", some (identityToJson sensor.identity)),
    ("unit_supported", some (.bool sensor.unitSupported)),
    ("alarms", some (.array (sensor.alarms.map sensorAlarmToJson))),
    ("input", sensor.input.map unitToJson),
    ("average", sensor.average.map unitToJson),
    ("minimum", sensor.minimum.map unitToJson),
    ("maximum", sensor.maximum.map unitToJson),
    ("critical", sensor.critical.map unitToJson),
    ("enabled", sensor.enabled.map .bool),
    ("fault", sensor.fault.map .bool)]

def sensorFromJson {Unit : Type} (unitFromJson : Json → Decode Unit) (leaf : LeafReader)
    (j : Json) : Decode (SensorReading Unit) := do
  return {
    identity := ← j.read (identityFromJson leaf) "identity"
    unitSupported := ← j.readDefault getBool true "unit_supported"
    input := ← j.readOptional unitFromJson "input"
    average := ← j.readOptional unitFromJson "average"
    minimum := ← j.readOptional unitFromJson "minimum"
    maximum := ← j.readOptional unitFromJson "maximum"
    critical := ← j.readOptional unitFromJson "critical"
    enabled := ← j.readOptional getBool "enabled"
    fault := ← j.readOptional getBool "fault"
    alarms := ← j.readOr (readItems sensorAlarmFromJson) [] "alarms" }

theorem sensorFromJson_toJson {Unit : Type} {unitToJson : Unit → Json}
    {unitFromJson : Json → Decode Unit} (hunit : ∀ x, unitFromJson (unitToJson x) = .ok x)
    {sensor : SensorReading Unit} (h : sensor.identity.InRange) :
    sensorFromJson unitFromJson .library (sensorToJson unitToJson sensor) = .ok sensor := by
  have hidentity := identityFromJson_toJson h
  have hreading : ∀ o : Option Unit, readPresent unitFromJson (o.map unitToJson) = .ok o :=
    fun o => readPresent_map fun x _ => hunit x
  simp [sensorFromJson, sensorToJson, hidentity, hreading]

def sensorsToJson (sensors : Sensors) : Json :=
  .object [
    ("temperatures", some (.array (sensors.temperatures.map (sensorToJson .ofInt64)))),
    ("fans", some (.array (sensors.fans.map (sensorToJson .ofUInt64)))),
    ("powers", some (.array (sensors.powers.map (sensorToJson .ofUInt64))))]

def sensorsFromJson (leaf : LeafReader) (j : Json) : Decode Sensors := do
  return {
    temperatures :=
      ← j.readOr (readItems (sensorFromJson temperatureFromJson leaf)) [] "temperatures"
    fans := ← j.readOr (readItems (sensorFromJson measurementFromJson leaf)) [] "fans"
    powers := ← j.readOr (readItems (sensorFromJson measurementFromJson leaf)) [] "powers" }

structure Sensors.InRange (sensors : Sensors) : Prop where
  temperatures : ∀ s ∈ sensors.temperatures, s.identity.InRange
  fans : ∀ s ∈ sensors.fans, s.identity.InRange
  powers : ∀ s ∈ sensors.powers, s.identity.InRange

/-- The sensors come back from their JSON value. -/
theorem sensorsFromJson_toJson {sensors : Sensors} (h : sensors.InRange) :
    sensorsFromJson .library (sensorsToJson sensors) = .ok sensors := by
  have htemperatures := readItems_map
    fun s hs => sensorFromJson_toJson temperatureFromJson_ofInt64 (h.temperatures s hs)
  have hfans := readItems_map
    fun s hs => sensorFromJson_toJson measurementFromJson_ofUInt64 (h.fans s hs)
  have hpowers := readItems_map
    fun s hs => sensorFromJson_toJson measurementFromJson_ofUInt64 (h.powers s hs)
  simp [sensorsFromJson, sensorsToJson, htemperatures, hfans, hpowers]

/-! ### Health -/

instance : CEnum.IsLast HealthSeverity.critical := ⟨rfl⟩
instance : CEnum.IsLast SensorAlertKind.aboveMaximum := ⟨rfl⟩
instance : CEnum.IsLast HealthCoverageStatus.available := ⟨rfl⟩
instance : CEnum.IsLast DriveFindingKind.scsiHistory := ⟨rfl⟩

def sensorAlertToJson (alert : SensorAlert) : Json :=
  .object [
    ("sensor", some (.str alert.sensor)),
    ("kind", some (.ofEnum alert.kind)),
    ("severity", some (.ofEnum alert.severity)),
    ("origin", some (.str alert.origin))]

def sensorAlertFromJson (leaf : LeafReader) (j : Json) : Decode SensorAlert := do
  return {
    sensor := ← j.read getString "sensor"
    kind := ← j.read (checkedFromJson leaf SensorAlertKind.aboveMaximum "kind") "kind"
    severity := ← j.read (checkedFromJson leaf HealthSeverity.critical "severity") "severity"
    origin := ← j.read getString "origin" }

@[simp] theorem sensorAlertFromJson_toJson (alert : SensorAlert) :
    sensorAlertFromJson .library (sensorAlertToJson alert) = .ok alert := by
  simp [sensorAlertFromJson, sensorAlertToJson]

def storageAlertToJson (alert : StorageAlert) : Json :=
  .object [
    ("device", some (.str alert.device)),
    ("degraded_members", some (.ofUInt32 alert.degradedMembers)),
    ("severity", some (.ofEnum alert.severity)),
    ("origin", some (.str alert.origin))]

def storageAlertFromJson (leaf : LeafReader) (j : Json) : Decode StorageAlert := do
  return {
    device := ← j.read getString "device"
    degradedMembers := ← j.read leaf.uint32 "degraded_members"
    severity := ← j.read (checkedFromJson leaf HealthSeverity.critical "severity") "severity"
    origin := ← j.read getString "origin" }

@[simp] theorem storageAlertFromJson_toJson (alert : StorageAlert) :
    storageAlertFromJson .library (storageAlertToJson alert) = .ok alert := by
  simp [storageAlertFromJson, storageAlertToJson]

def memoryEventToJson (event : MemoryErrorEvent) : Json :=
  .object [
    ("controller_index", some (.ofUInt32 event.controllerIndex)),
    ("severity", some (.ofEnum event.severity)),
    ("origin", some (.str event.origin)),
    ("period", some (.str (utf8 "since initialization/reset"))),
    ("corrected", event.corrected.map .ofUInt64),
    ("uncorrected", event.uncorrected.map .ofUInt64)]

def memoryEventFromJson (leaf : LeafReader) (j : Json) : Decode MemoryErrorEvent := do
  return {
    controllerIndex := ← j.read leaf.uint32 "controller_index"
    corrected := ← j.readOptional leaf.uint64 "corrected"
    uncorrected := ← j.readOptional leaf.uint64 "uncorrected"
    severity := ← j.read (checkedFromJson leaf HealthSeverity.critical "severity") "severity"
    origin := ← j.read getString "origin" }

@[simp] theorem memoryEventFromJson_toJson (event : MemoryErrorEvent) :
    memoryEventFromJson .library (memoryEventToJson event) = .ok event := by
  simp [memoryEventFromJson, memoryEventToJson]

def driveFindingToJson (finding : DriveFinding) : Json :=
  .object [
    ("target", some (.str finding.target)),
    ("kind", some (.ofEnum finding.kind)),
    ("severity", some (.ofEnum finding.severity)),
    ("origin", some (.str finding.origin)),
    ("attribute_id", finding.attributeId.map .ofUInt8)]

/-- The attribute number of a finding: from one to 255. -/
def findingAttributeIdFromJson (leaf : LeafReader) (j : Json) : Decode UInt8 := do
  let value ← leaf.uint64 j
  if value = 0 ∨ value > 255 then .error (.invalid (utf8 "invalid finding attribute ID"))
  else .ok (.ofNat value.toNat)

def driveFindingFromJson (leaf : LeafReader) (j : Json) : Decode DriveFinding := do
  return {
    target := ← j.read getString "target"
    kind := ← j.read (checkedFromJson leaf DriveFindingKind.scsiHistory "kind") "kind"
    severity := ← j.read (checkedFromJson leaf HealthSeverity.critical "severity") "severity"
    origin := ← j.read getString "origin"
    attributeId := ← j.readOptional (findingAttributeIdFromJson leaf) "attribute_id" }

def DriveFinding.InRange (finding : DriveFinding) : Prop := ∀ id ∈ finding.attributeId, id ≠ 0

theorem findingAttributeIdFromJson_ofUInt8 {x : UInt8} (h : x ≠ 0) :
    findingAttributeIdFromJson .library (.ofUInt8 x) = .ok x := by
  have hx := x.toNat_lt
  have h0 : x.toNat ≠ 0 := fun h0 => h (UInt8.toNat_inj.mp h0)
  have hbounds : ¬(x.toUInt64 = 0 ∨ x.toUInt64 > 255) := by
    simp only [gt_iff_lt, ← UInt64.toNat_inj, UInt64.lt_iff_toNat_lt, UInt8.toNat_toUInt64]
    show ¬(x.toNat = 0 ∨ 255 < x.toNat)
    omega
  rw [findingAttributeIdFromJson, library_uint64_ofUInt8, ok_bind, if_neg hbounds,
    UInt8.toNat_toUInt64, UInt8.ofNat_toNat]

theorem driveFindingFromJson_toJson {finding : DriveFinding} (h : finding.InRange) :
    driveFindingFromJson .library (driveFindingToJson finding) = .ok finding := by
  have hid := readPresent_map
    fun id (hid : id ∈ finding.attributeId) => findingAttributeIdFromJson_ofUInt8 (h id hid)
  simp [driveFindingFromJson, driveFindingToJson, hid]

def coverageToJson (coverage : HealthCoverage) : Json :=
  .object [
    ("domain", some (.str coverage.domain)),
    ("status", some (.ofEnum coverage.status)),
    ("usable_readings", some (.ofUInt32 coverage.usableReadings)),
    ("alarm_reports", some (.ofUInt32 coverage.alarmReports))]

def coverageFromJson (leaf : LeafReader) (j : Json) : Decode HealthCoverage := do
  return {
    domain := ← j.read getString "domain"
    status := ← j.read (checkedFromJson leaf HealthCoverageStatus.available "status") "status"
    usableReadings := ← j.read leaf.uint32 "usable_readings"
    alarmReports := ← j.read leaf.uint32 "alarm_reports" }

@[simp] theorem coverageFromJson_toJson (coverage : HealthCoverage) :
    coverageFromJson .library (coverageToJson coverage) = .ok coverage := by
  simp [coverageFromJson, coverageToJson]

def healthToJson (health : HardwareHealth) : Json :=
  .object [
    ("sensor_alerts", some (.array (health.sensorAlerts.map sensorAlertToJson))),
    ("storage_alerts", some (.array (health.storageAlerts.map storageAlertToJson))),
    ("memory_events", some (.array (health.memoryEvents.map memoryEventToJson))),
    ("coverage", some (.array (health.coverage.map coverageToJson))),
    ("drive_findings", some (.array (health.driveFindings.map driveFindingToJson)))]

def healthFromJson (leaf : LeafReader) (j : Json) : Decode HardwareHealth := do
  return {
    sensorAlerts := ← j.readOr (readItems (sensorAlertFromJson leaf)) [] "sensor_alerts"
    storageAlerts := ← j.readOr (readItems (storageAlertFromJson leaf)) [] "storage_alerts"
    memoryEvents := ← j.readOr (readItems (memoryEventFromJson leaf)) [] "memory_events"
    driveFindings := ← j.readOr (readItems (driveFindingFromJson leaf)) [] "drive_findings"
    coverage := ← j.readOr (readItems (coverageFromJson leaf)) [] "coverage" }

def HardwareHealth.InRange (health : HardwareHealth) : Prop :=
  ∀ finding ∈ health.driveFindings, finding.InRange

/-- The hardware health comes back from its JSON value. -/
theorem healthFromJson_toJson {health : HardwareHealth} (h : health.InRange) :
    healthFromJson .library (healthToJson health) = .ok health := by
  have hfindings := readItems_map fun f hf => driveFindingFromJson_toJson (h f hf)
  simp [healthFromJson, healthToJson, hfindings]

end Sysal
