import Sysal.Foundation.Decimal
import Sysal.Model.Errors
import Sysal.Model.Storage
import Sysal.Serialization.JsonValues

/-!
# Drive health as JSON

`storage_health.cpp` and `storage_health_values.hpp` of the serialization.  The counters of a drive
have up to 128 bits, so they are stored as decimal texts, and the encoder refuses a text that is no
such numeral.

* `counterOfText_decimal`: the numeral of a number below `2 ^ 128` is its own normal form.
* `storageHealthFromJson_toJson`: a report with canonical counters is encoded and read back.
-/

namespace Sysal

open Json

/-! ### Integers and counters -/

/-- `health_integer`: an integer from zero to a maximum, if the value is one. -/
def healthInteger (maximum : ℕ) (j : Json) : Option ℕ :=
  (j.asInt.filter fun n : ℤ => 0 ≤ n ∧ n ≤ maximum).map Int.toNat

theorem healthInteger_of_asInt {maximum : ℕ} {j : Json} {n : ℕ} (hj : j.asInt = some (n : ℤ))
    (hn : n ≤ maximum) : healthInteger maximum j = some n := by
  simp [healthInteger, hj, hn]

theorem healthInteger_eq_some {maximum : ℕ} {j : Json} {n : ℕ} :
    healthInteger maximum j = some n ↔ j.asInt = some (n : ℤ) ∧ n ≤ maximum := by
  constructor
  · intro h
    simp only [healthInteger, Option.map_eq_some_iff, Option.filter_eq_some_iff,
      decide_eq_true_eq] at h
    obtain ⟨m, ⟨hm, hlo, hhi⟩, rfl⟩ := h
    rw [hm, Int.toNat_of_nonneg hlo]
    exact ⟨rfl, by omega⟩
  · exact fun h => healthInteger_of_asInt h.1 h.2

/-- The largest number of 128 bits. -/
def maximumCounter : Bytes := decimal (2 ^ 128 - 1)

/-- A text of digits without its leading zeros; zero keeps one digit. -/
def stripZeros (s : Bytes) : Bytes :=
  match s.dropWhile (· = 48) with
  | [] => [48]
  | digits => digits

/-- The text half of `storage_counter`: digits only, no leading zeros, at most 128 bits. -/
def counterOfText (s : Bytes) : Option StorageCounter :=
  if s.isEmpty || !s.all isDigit then none
  else if maximumCounter.length < (stripZeros s).length ∨
      (stripZeros s).length = maximumCounter.length ∧ maximumCounter < stripZeros s then none
  else some ⟨stripZeros s⟩

/-- `storage_counter`: a counter from a text or from an integer. -/
def storageCounter (j : Json) : Option StorageCounter :=
  match j.asStr with
  | some s => counterOfText s
  | none => (healthInteger (2 ^ 64 - 1) j).bind fun n => counterOfText (decimal n)

/-- A canonical decimal of at most 128 bits. -/
def StorageCounter.Canonical (c : StorageCounter) : Prop := ∃ n : ℕ, n < 2 ^ 128 ∧ c.decimal = Sysal.decimal n

theorem stripZeros_decimal (n : ℕ) : stripZeros (decimal n) = decimal n := by
  rcases Nat.eq_zero_or_pos n with rfl | hn
  · decide
  · rw [stripZeros, decimal_dropZeros hn]
    cases h : decimal n with
    | nil => exact absurd h (decimal_ne_nil n)
    | cons c s => rfl

/-- A numeral of at most 128 bits is accepted as it stands. -/
theorem counterOfText_decimal {n : ℕ} (h : n < 2 ^ 128) :
    counterOfText (decimal n) = some ⟨decimal n⟩ := by
  have hmax : maximumCounter.length = 39 := by decide
  have hempty : (decimal n).isEmpty = false := by
    cases hs : decimal n with
    | nil => exact absurd hs (decimal_ne_nil n)
    | cons c s => rfl
  have hlen : (decimal n).length ≤ maximumCounter.length := by
    rw [hmax, decimal_length_le (by decide)]
    omega
  -- a larger numeral of the same length would stand for a larger number
  have hlt : ¬((decimal n).length = maximumCounter.length ∧ maximumCounter < decimal n) := by
    rintro ⟨heq, hgt⟩
    have := numeralValue_lt_of_lt (decimal_all_isDigit _) (decimal_all_isDigit n) heq.symm hgt
    rw [numeralValue_decimal, numeralValue_decimal] at this
    omega
  rw [counterOfText, hempty, decimal_all_isDigit, stripZeros_decimal, if_neg (by decide), if_neg]
  rintro (hlong | hlarge)
  · omega
  · exact hlt hlarge

theorem counterOfText_canonical {c : StorageCounter} (h : c.Canonical) :
    counterOfText c.decimal = some c := by
  obtain ⟨n, hn, hc⟩ := h
  obtain ⟨text⟩ := c
  subst hc
  exact counterOfText_decimal hn

/-! ### Optional fields -/

/-- A value that was found, or a refusal. -/
def orInvalid {α : Type} (message : String) : Option α → Decode α
  | some a => .ok a
  | none => .error (.invalid (utf8 message))

/-- `enumeration`. -/
def healthEnumFromJson {α : Type} [CEnum α] (maximum : α) (j : Json) : Decode α :=
  orInvalid "invalid storage health enum"
    (((healthInteger (2 ^ 64 - 1) j).filter (· ≤ CEnum.code maximum)).bind (CEnum.ofCode α))

/-- `integer` on an 8-bit target. -/
def healthUInt8FromJson (j : Json) : Decode UInt8 :=
  orInvalid "invalid storage health integer" ((healthInteger 0xff j).map UInt8.ofNat)

/-- `counter`. -/
def counterFromJson (j : Json) : Decode StorageCounter :=
  orInvalid "invalid storage health counter" (storageCounter j)

/-- `put` on a counter: the text is normalised once more, and refused when it is no numeral. -/
def counterToJson : Option StorageCounter → Except Thrown (Option Json)
  | none => .ok none
  | some c =>
      match counterOfText c.decimal with
      | some validated => .ok (some (.str validated.decimal))
      | none => .error (.sysalError .serializationError (utf8 "invalid storage health counter"))

theorem healthEnumFromJson_ofEnum_of_le {α : Type} [CEnum α] {a maximum : α}
    (h : CEnum.code a ≤ CEnum.code maximum) : healthEnumFromJson maximum (.ofEnum a) = .ok a := by
  have hlt := CEnum.code_lt a
  have hle := CEnum.size_le (α := α)
  rw [healthEnumFromJson, healthInteger_of_asInt (asInt_ofEnum a) (by omega)]
  simp only [Option.filter_some, h, decide_true, if_true, Option.bind_some, CEnum.ofCode_code,
    orInvalid]

@[simp] theorem healthEnumFromJson_ofEnum {α : Type} [CEnum α] (maximum : α)
    [CEnum.IsLast maximum] (a : α) : healthEnumFromJson maximum (.ofEnum a) = .ok a :=
  healthEnumFromJson_ofEnum_of_le (CEnum.code_le_last maximum a)

@[simp] theorem healthUInt8FromJson_ofUInt8 (x : UInt8) :
    healthUInt8FromJson (.ofUInt8 x) = .ok x := by
  have hx := x.toNat_lt
  rw [healthUInt8FromJson, healthInteger_of_asInt (Json.asInt_ofUInt8 x) (by omega),
    Option.map_some, UInt8.ofNat_toNat, orInvalid]

theorem counterToJson_canonical {o : Option StorageCounter} (h : ∀ c ∈ o, c.Canonical) :
    counterToJson o = .ok (o.map fun c => .str c.decimal) := by
  cases o with
  | none => rfl
  | some c => simp only [counterToJson, counterOfText_canonical (h c rfl), Option.map_some]

theorem readPresent_counter {o : Option StorageCounter} (h : ∀ c ∈ o, c.Canonical) :
    readPresent counterFromJson (o.map fun c => .str c.decimal) = .ok o :=
  readPresent_map fun c hc => by
    simp only [counterFromJson, storageCounter, asStr_str, counterOfText_canonical (h c hc),
      orInvalid]

/-! ### NVMe -/

/-- The temperature of a drive: any integer that fits 64 bits with a sign. -/
def driveTemperatureFromJson (j : Json) : Decode SensorTemperature :=
  orInvalid "invalid storage temperature" ((j.asInt.filter (· < 2 ^ 63)).map Int64.ofInt)

@[simp] theorem driveTemperatureFromJson_ofInt64 (x : Int64) :
    driveTemperatureFromJson (.ofInt64 x) = .ok x := by
  have hx := x.toInt_lt
  simp only [driveTemperatureFromJson, Json.asInt_ofInt64, Option.filter_some, hx, decide_true,
    if_true, Option.map_some, Int64.ofInt_toInt, orInvalid]

def nvmeToJson (h : NvmeHealth) : Except Thrown Json := do
  let powerOnHours ← counterToJson h.powerOnHours
  let powerCycles ← counterToJson h.powerCycles
  let unsafeShutdowns ← counterToJson h.unsafeShutdowns
  let mediaErrors ← counterToJson h.mediaErrors
  let errorLogEntries ← counterToJson h.errorLogEntries
  let dataUnitsRead ← counterToJson h.dataUnitsRead
  let dataUnitsWritten ← counterToJson h.dataUnitsWritten
  return .object [
    ("critical_warning", h.criticalWarning.map .ofUInt8),
    ("available_spare", h.availableSpare.map .ofUInt8),
    ("spare_threshold", h.spareThreshold.map .ofUInt8),
    ("percentage_used", h.percentageUsed.map .ofUInt8),
    ("temperature", h.temperature.map .ofInt64),
    ("power_on_hours", powerOnHours),
    ("power_cycles", powerCycles),
    ("unsafe_shutdowns", unsafeShutdowns),
    ("media_errors", mediaErrors),
    ("error_log_entries", errorLogEntries),
    ("data_units_read", dataUnitsRead),
    ("data_units_written", dataUnitsWritten)]

def nvmeFromJson (j : Json) : Decode NvmeHealth := do
  return {
    criticalWarning := ← j.readOptional healthUInt8FromJson "critical_warning"
    availableSpare := ← j.readOptional healthUInt8FromJson "available_spare"
    spareThreshold := ← j.readOptional healthUInt8FromJson "spare_threshold"
    percentageUsed := ← j.readOptional healthUInt8FromJson "percentage_used"
    temperature := ← j.readOptional driveTemperatureFromJson "temperature"
    powerOnHours := ← j.readOptional counterFromJson "power_on_hours"
    powerCycles := ← j.readOptional counterFromJson "power_cycles"
    unsafeShutdowns := ← j.readOptional counterFromJson "unsafe_shutdowns"
    mediaErrors := ← j.readOptional counterFromJson "media_errors"
    errorLogEntries := ← j.readOptional counterFromJson "error_log_entries"
    dataUnitsRead := ← j.readOptional counterFromJson "data_units_read"
    dataUnitsWritten := ← j.readOptional counterFromJson "data_units_written" }

/-- Every counter is a canonical decimal. -/
structure NvmeHealth.InRange (h : NvmeHealth) : Prop where
  powerOnHours : ∀ c ∈ h.powerOnHours, c.Canonical
  powerCycles : ∀ c ∈ h.powerCycles, c.Canonical
  unsafeShutdowns : ∀ c ∈ h.unsafeShutdowns, c.Canonical
  mediaErrors : ∀ c ∈ h.mediaErrors, c.Canonical
  errorLogEntries : ∀ c ∈ h.errorLogEntries, c.Canonical
  dataUnitsRead : ∀ c ∈ h.dataUnitsRead, c.Canonical
  dataUnitsWritten : ∀ c ∈ h.dataUnitsWritten, c.Canonical

theorem nvmeFromJson_toJson {h : NvmeHealth} (hr : h.InRange) :
    ∃ j, nvmeToJson h = .ok j ∧ nvmeFromJson j = .ok h := by
  rw [nvmeToJson, counterToJson_canonical hr.powerOnHours, counterToJson_canonical hr.powerCycles,
    counterToJson_canonical hr.unsafeShutdowns, counterToJson_canonical hr.mediaErrors,
    counterToJson_canonical hr.errorLogEntries, counterToJson_canonical hr.dataUnitsRead,
    counterToJson_canonical hr.dataUnitsWritten]
  refine ⟨_, rfl, ?_⟩
  simp [nvmeFromJson, readPresent_counter hr.powerOnHours, readPresent_counter hr.powerCycles,
    readPresent_counter hr.unsafeShutdowns, readPresent_counter hr.mediaErrors,
    readPresent_counter hr.errorLogEntries, readPresent_counter hr.dataUnitsRead,
    readPresent_counter hr.dataUnitsWritten]

/-! ### ATA and SCSI -/

def ataAttributeToJson (a : AtaHealthAttribute) : Json :=
  .object [
    ("id", some (.ofUInt8 a.id)),
    ("name", some (.str a.name)),
    ("raw", some (.str a.raw)),
    ("when_failed", some (.str a.whenFailed)),
    ("value", a.value.map .ofUInt8),
    ("worst", a.worst.map .ofUInt8),
    ("threshold", a.threshold.map .ofUInt8)]

/-- The number of an attribute: a byte other than zero. -/
def ataAttributeIdFromJson (j : Json) : Decode UInt8 :=
  orInvalid "invalid ATA attribute ID" (((healthInteger 0xff j).filter (· ≠ 0)).map UInt8.ofNat)

def ataAttributeFromJson (j : Json) : Decode AtaHealthAttribute := do
  return {
    id := ← j.read ataAttributeIdFromJson "id"
    name := ← j.read getString "name"
    raw := ← j.read getString "raw"
    whenFailed := ← j.read getString "when_failed"
    value := ← j.readOptional healthUInt8FromJson "value"
    worst := ← j.readOptional healthUInt8FromJson "worst"
    threshold := ← j.readOptional healthUInt8FromJson "threshold" }

def AtaHealthAttribute.InRange (a : AtaHealthAttribute) : Prop := a.id ≠ 0

theorem ataAttributeIdFromJson_ofUInt8 {x : UInt8} (h : x ≠ 0) :
    ataAttributeIdFromJson (.ofUInt8 x) = .ok x := by
  have hx := x.toNat_lt
  have h0 : x.toNat ≠ 0 := fun h0 => h (UInt8.toNat_inj.mp h0)
  rw [ataAttributeIdFromJson, healthInteger_of_asInt (Json.asInt_ofUInt8 x) (by omega)]
  simp only [Option.filter_some, h0, ne_eq, not_false_eq_true, decide_true, if_true, Option.map_some,
    UInt8.ofNat_toNat, orInvalid]

theorem ataAttributeFromJson_toJson {a : AtaHealthAttribute} (h : a.InRange) :
    ataAttributeFromJson (ataAttributeToJson a) = .ok a := by
  simp [ataAttributeFromJson, ataAttributeToJson, ataAttributeIdFromJson_ofUInt8 h]

def scsiHealthToJson (s : ScsiHealth) : Except Thrown Json := do
  let readUncorrected ← counterToJson s.readUncorrected
  let writeUncorrected ← counterToJson s.writeUncorrected
  let verifyUncorrected ← counterToJson s.verifyUncorrected
  return .object [
    ("read_uncorrected", readUncorrected),
    ("write_uncorrected", writeUncorrected),
    ("verify_uncorrected", verifyUncorrected)]

def scsiHealthFromJson (j : Json) : Decode ScsiHealth := do
  return {
    readUncorrected := ← j.readOptional counterFromJson "read_uncorrected"
    writeUncorrected := ← j.readOptional counterFromJson "write_uncorrected"
    verifyUncorrected := ← j.readOptional counterFromJson "verify_uncorrected" }

structure ScsiHealth.InRange (s : ScsiHealth) : Prop where
  readUncorrected : ∀ c ∈ s.readUncorrected, c.Canonical
  writeUncorrected : ∀ c ∈ s.writeUncorrected, c.Canonical
  verifyUncorrected : ∀ c ∈ s.verifyUncorrected, c.Canonical

theorem scsiHealthFromJson_toJson {s : ScsiHealth} (hr : s.InRange) :
    ∃ j, scsiHealthToJson s = .ok j ∧ scsiHealthFromJson j = .ok s := by
  rw [scsiHealthToJson, counterToJson_canonical hr.readUncorrected,
    counterToJson_canonical hr.writeUncorrected, counterToJson_canonical hr.verifyUncorrected]
  refine ⟨_, rfl, ?_⟩
  simp [scsiHealthFromJson, readPresent_counter hr.readUncorrected,
    readPresent_counter hr.writeUncorrected, readPresent_counter hr.verifyUncorrected]

/-! ### Reports -/

/-- An optional part of a report whose encoder may refuse it. -/
def encodePresent {α : Type} (encode : α → Except Thrown Json) :
    Option α → Except Thrown (Option Json)
  | none => .ok none
  | some a => (encode a).map some

theorem readPresent_encodePresent {α : Type} {encode : α → Except Thrown Json}
    {decode : Json → Decode α} {o : Option α}
    (h : ∀ a ∈ o, ∃ j, encode a = .ok j ∧ decode j = .ok a) :
    ∃ v, encodePresent encode o = .ok v ∧ readPresent decode v = .ok o := by
  cases o with
  | none => exact ⟨none, rfl, rfl⟩
  | some a =>
      obtain ⟨j, hencode, hdecode⟩ := h a rfl
      exact ⟨some j, by rw [encodePresent, hencode, map_ok],
        by rw [readPresent_some, hdecode, map_ok]⟩

instance : CEnum.IsLast StorageProtocol.scsi := ⟨rfl⟩

def storageHealthToJson (h : StorageHealthReport) : Except Thrown Json := do
  let nvme ← encodePresent nvmeToJson h.nvme
  let scsi ← encodePresent scsiHealthToJson h.scsi
  return .object [
    ("target", some (.str h.target)),
    ("devices", some (strings h.devices)),
    ("protocol", some (.ofEnum h.protocol)),
    ("source", some (.ofEnum h.source)),
    ("origin", some (.str h.origin)),
    ("status", some (.ofEnum h.status)),
    ("failure", h.failure.map .ofEnum),
    ("smart_available", h.smartAvailable.map .bool),
    ("smart_enabled", h.smartEnabled.map .bool),
    ("passed", h.passed.map .bool),
    ("nvme", nvme),
    ("ata_attributes", nonemptyArray (h.ataAttributes.map ataAttributeToJson)),
    ("scsi", scsi)]

def storageHealthFromJson (j : Json) : Decode StorageHealthReport := do
  return {
    target := ← j.read getString "target"
    devices := ← j.read (readItems getString) "devices"
    protocol := ← j.read (healthEnumFromJson StorageProtocol.scsi) "protocol"
    source := ← j.read (healthEnumFromJson RawSource.nvmeSmartLog) "source"
    origin := ← j.read getString "origin"
    status := ← j.read (healthEnumFromJson CollectStatus.notCollected) "status"
    failure := ← j.readOptional (healthEnumFromJson ReadFailure.lowPower) "failure"
    smartAvailable := ← j.readOptional getBool "smart_available"
    smartEnabled := ← j.readOptional getBool "smart_enabled"
    passed := ← j.readOptional getBool "passed"
    nvme := ← j.readOptional nvmeFromJson "nvme"
    ataAttributes := ← j.readOr (readItems ataAttributeFromJson) [] "ata_attributes"
    scsi := ← j.readOptional scsiHealthFromJson "scsi" }

/-- The source of a report is at most the last health tool; the parts are in range. -/
structure StorageHealthReport.InRange (h : StorageHealthReport) : Prop where
  source : CEnum.code h.source ≤ CEnum.code RawSource.nvmeSmartLog
  nvme : ∀ n ∈ h.nvme, n.InRange
  ataAttributes : ∀ a ∈ h.ataAttributes, a.InRange
  scsi : ∀ s ∈ h.scsi, s.InRange

/-- A report within the ranges is encoded, and comes back from its JSON value. -/
theorem storageHealthFromJson_toJson {h : StorageHealthReport} (hr : h.InRange) :
    ∃ j, storageHealthToJson h = .ok j ∧ storageHealthFromJson j = .ok h := by
  obtain ⟨nvme, hnvme, hnvme'⟩ :=
    readPresent_encodePresent fun n hn => nvmeFromJson_toJson (hr.nvme n hn)
  obtain ⟨scsi, hscsi, hscsi'⟩ :=
    readPresent_encodePresent fun s hs => scsiHealthFromJson_toJson (hr.scsi s hs)
  have hattributes := readPresent_nonemptyArray
    (readItems_map fun a ha => ataAttributeFromJson_toJson (hr.ataAttributes a ha))
  rw [storageHealthToJson, hnvme, ok_bind, hscsi, ok_bind]
  refine ⟨_, rfl, ?_⟩
  simp [storageHealthFromJson, hnvme', hscsi', hattributes,
    healthEnumFromJson_ofEnum_of_le hr.source]

end Sysal
