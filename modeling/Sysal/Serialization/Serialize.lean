import Sysal.Model.System
import Sysal.Serialization.Accelerator
import Sysal.Serialization.Cpu
import Sysal.Serialization.Execution
import Sysal.Serialization.Hardware
import Sysal.Serialization.Memory
import Sysal.Serialization.Network
import Sysal.Serialization.Pci
import Sysal.Serialization.Platform
import Sysal.Serialization.RawStore
import Sysal.Serialization.Software
import Sysal.Serialization.Storage

/-!
# Snapshots as JSON

The public entries of `serialize.cpp`: `toJson` writes a system, `fromJson` reads it back.

* `systemFromJson_toJson`: the document of a system within the ranges is decoded to what the snapshot
  stores of it.
* `fromJson_toJson`: the same through the text, for every choice of options.
-/

namespace Sysal

open Json

/-! ### Metadata -/

instance : CEnum.IsLast InventoryCompleteness.complete := ⟨rfl⟩

def observationToJson (o : CollectionObservation) : Json :=
  .object [
    ("domain", some (.str o.domain)),
    ("source", some (.ofEnum o.source)),
    ("origin", some (.str o.origin)),
    ("status", some (.ofEnum o.status)),
    ("failure", o.failure.map .ofEnum),
    ("skip", o.skip.map .ofEnum)]

def observationFromJson (j : Json) : Decode CollectionObservation := do
  return {
    domain := ← j.read getString "domain"
    source := ← j.read (enumFromJson RawSource.filesystemUsage "source") "source"
    origin := ← j.read getString "origin"
    status := ← j.read (enumFromJson CollectStatus.notCollected "status") "status"
    failure := ← j.readOptional (enumFromJson ReadFailure.lowPower "failure") "failure"
    skip := ← j.readOptional (enumFromJson SkipReason.notApplicable "skip") "skip" }

@[simp] theorem observationFromJson_toJson (o : CollectionObservation) :
    observationFromJson (observationToJson o) = .ok o := by
  simp [observationFromJson, observationToJson]

def inventoryToJson (report : InventoryReport) : Json :=
  .object [
    ("inventory", some (.ofEnum report.inventory)),
    ("completeness", some (.ofEnum report.completeness)),
    ("origin", some (.str report.origin))]

def inventoryFromJson (j : Json) : Decode InventoryReport := do
  return {
    inventory := ← inventoryKindFromJson j
    completeness :=
      ← j.read (enumFromJson InventoryCompleteness.complete "completeness") "completeness"
    origin := ← j.read getString "origin" }

@[simp] theorem inventoryFromJson_toJson (report : InventoryReport) :
    inventoryFromJson (inventoryToJson report) = .ok report := by
  simp [inventoryFromJson, inventoryToJson, inventoryKindFromJson]

def metaToJson (m : SnapshotMeta) : Json :=
  .object [
    ("collect_time", some (.ofInt64 (timePointToMs m.collectTime))),
    ("sysal_version", some (.str m.sysalVersion)),
    ("collect_duration", some (.float m.collectDuration)),
    ("requested_flags", some (.ofUInt32 m.requestedFlags)),
    ("succeeded_collectors", some (strings m.succeededCollectors)),
    ("failed_collectors", some (strings m.failedCollectors)),
    ("collection_request", m.collectionRequest.map collectionRequestToJson),
    ("inventories", some (.array (m.inventories.map inventoryToJson))),
    ("observations", nonemptyArray (m.observations.map observationToJson))]

def metaFromJson (leaf : LeafReader) (j : Json) : Decode SnapshotMeta := do
  return {
    collectTime := ← j.read leaf.timePoint "collect_time"
    sysalVersion := ← j.read getString "sysal_version"
    collectDuration := ← j.read getDouble "collect_duration"
    requestedFlags := ← j.read (uint32FromJson "requested_flags") "requested_flags"
    succeededCollectors := ← j.read (readItems getString) "succeeded_collectors"
    failedCollectors := ← j.read (readItems getString) "failed_collectors"
    collectionRequest := ← j.readOptional collectionRequestFromJson "collection_request"
    inventories := ← j.readOr (readArray inventoryFromJson) [] "inventories"
    observations := ← j.readOr (readItems observationFromJson) [] "observations" }

/-- The metadata with the time of the collection truncated to milliseconds. -/
def SnapshotMeta.truncated (m : SnapshotMeta) : SnapshotMeta :=
  { m with collectTime := truncateToMs m.collectTime }

/-- `MAJOR.MINOR.` of the library. -/
def versionPrefix : Bytes := utf8 "0.0."

/-- The version is one this library reads, and the request names known domains only. -/
structure SnapshotMeta.InRange (m : SnapshotMeta) : Prop where
  version : m.sysalVersion.startsWith versionPrefix
  request : ∀ r ∈ m.collectionRequest, r.valid

theorem metaFromJson_toJson {m : SnapshotMeta} (h : m.InRange) :
    metaFromJson .library (metaToJson m) = .ok m.truncated := by
  have hrequest := readPresent_map
    fun r (hr : r ∈ m.collectionRequest) => collectionRequestFromJson_toJson (h.request r hr)
  have hobservations := readPresent_nonemptyArray
    (readItems_map (l := m.observations) fun o _ => observationFromJson_toJson o)
  simp [metaFromJson, metaToJson, SnapshotMeta.truncated, truncateToMs, hrequest, hobservations]

/-! ### Domains -/

def systemInfoToJson (info : SystemInfo) : Except Thrown Json := do
  let storage ← storageToJson info.storage
  return .object [
    ("platform", some (platformToJson info.platform)),
    ("cpu", some (cpuToJson info.cpu)),
    ("memory", some (memoryToJson info.memory)),
    ("accelerators", some (acceleratorsToJson info.accelerators)),
    ("network", some (networkToJson info.network)),
    ("storage", some storage),
    ("pci", some (pciToJson info.pci)),
    ("software", some (softwareToJson info.software)),
    ("execution", some (executionToJson info.execution)),
    ("sensors", some (sensorsToJson info.sensors)),
    ("hardware_health", some (healthToJson info.hardwareHealth))]

def systemInfoFromJson (leaf : LeafReader) (j : Json) : Decode SystemInfo := do
  return {
    platform := ← j.read platformFromJson "platform"
    cpu := ← j.read cpuFromJson "cpu"
    memory := ← j.read memoryFromJson "memory"
    accelerators := ← j.read acceleratorsFromJson "accelerators"
    network := ← j.read networkFromJson "network"
    storage := ← j.read storageFromJson "storage"
    pci := ← j.read pciFromJson "pci"
    software := ← j.read softwareFromJson "software"
    execution := ← j.read (executionFromJson leaf) "execution"
    sensors := ← j.readOr (sensorsFromJson leaf) {} "sensors"
    hardwareHealth := ← j.readOr (healthFromJson leaf) {} "hardware_health" }

/-- Every domain lies in the ranges its decoder checks. -/
structure SystemInfo.InRange (info : SystemInfo) : Prop where
  memory : info.memory.InRange
  accelerators : info.accelerators.InRange
  network : info.network.InRange
  storage : info.storage.InRange
  pci : info.pci.InRange
  sensors : info.sensors.InRange
  hardwareHealth : info.hardwareHealth.InRange

/-- The eleven domains are encoded, and come back from their JSON value. -/
theorem systemInfoFromJson_toJson {info : SystemInfo} (h : info.InRange) :
    ∃ j, systemInfoToJson info = .ok j ∧ systemInfoFromJson .library j = .ok info := by
  obtain ⟨storage, hencode, hdecode⟩ := storageFromJson_toJson h.storage
  rw [systemInfoToJson, hencode, ok_bind]
  refine ⟨_, rfl, ?_⟩
  simp [systemInfoFromJson, hdecode, memoryFromJson_toJson h.memory,
    acceleratorsFromJson_toJson h.accelerators, networkFromJson_toJson h.network,
    pciFromJson_toJson h.pci, sensorsFromJson_toJson h.sensors,
    healthFromJson_toJson h.hardwareHealth]

/-! ### Systems -/

structure SerializationOptions where
  prettyPrint : Bool := false
  includeRaw : Bool := false
  includeMeta : Bool := true
  deriving DecidableEq

/-- The indentation of the printed text. -/
def SerializationOptions.indent (options : SerializationOptions) : ℤ :=
  if options.prettyPrint then 4 else -1

/-- The document `to_json` prints. -/
def systemToJson (options : SerializationOptions) (s : System) : Except Thrown Json := do
  let info ← systemInfoToJson s.info
  return .object [
    ("info", some info),
    ("meta", if options.includeMeta then some (metaToJson s.snapshot) else none),
    ("warnings", some (strings s.warnings)),
    ("raw", if options.includeRaw then s.raw.map rawStoreToJson else none)]

/-- A member that is read only when it has the expected type. -/
def typedField (j : Json) (isType : Json → Bool) (key : String) : Option Json :=
  (j.field key).filter isType

/-- The version check: a version that the metadata names has to start with the prefix. -/
def checkVersion (root : Json) : Decode Unit :=
  match (typedField root isObject "meta").bind fun m => (m.field "sysal_version").bind asStr with
  | some version =>
      if version.startsWith versionPrefix then .ok ()
      else .error (.invalid (utf8 "incompatible version: " ++ version))
  | none => .ok ()

/-- The decoder of a document, after its root was checked to be an object. -/
def systemFromJson (leaf : LeafReader) (root : Json) : Decode System := do
  checkVersion root
  return {
    info := ← root.read (systemInfoFromJson leaf) "info"
    snapshot :=
      ← (readPresent (metaFromJson leaf) (typedField root isObject "meta")).map (·.getD {})
    warnings :=
      ← (readPresent (readItems getString) (typedField root isArray "warnings")).map (·.getD [])
    raw := ← readPresent (rawStoreFromJson leaf) (typedField root isObject "raw") }

/-- `to_json`. -/
def toJson (json : JsonLibrary) (options : SerializationOptions) (s : System) :
    Except Thrown Bytes := do
  let document ← systemToJson options s
  match json.dump options.indent document with
  | some text => .ok text
  | none => .error (.jsonException json.what)

/-- `from_json`, with the reader of the unchecked integers. -/
def decodeSystem (json : JsonLibrary) (leaf : LeafReader) (text : Bytes) : Except Thrown System :=
  match json.parse text with
  | none => .error (DecodeError.library.thrown json)
  | some root =>
      if root.isObject then (systemFromJson leaf root).mapError (DecodeError.thrown json)
      else .error (.sysalError .deserializationError (utf8 "JSON root must be an object"))

/-- `from_json`. -/
def fromJson (json : JsonLibrary) (text : Bytes) : Except Thrown System :=
  decodeSystem json .library text

/-! ### Round trip -/

/-- Every value of a system lies in the ranges the decoder checks. -/
structure System.InRange (s : System) : Prop where
  info : s.info.InRange
  snapshot : s.snapshot.InRange
  raw : ∀ raw ∈ s.raw, raw.InRange

/-- What a snapshot stores of a system: times in milliseconds, metadata and raw evidence on request. -/
def System.stored (options : SerializationOptions) (s : System) : System :=
  { info := s.info
    snapshot := if options.includeMeta then s.snapshot.truncated else {}
    warnings := s.warnings
    raw := if options.includeRaw then s.raw.map RawStore.truncated else none }

/-- The options under which everything is written. -/
def SerializationOptions.complete : SerializationOptions :=
  { includeRaw := true, includeMeta := true }

/-- Every string of a system, all of them members of its complete document, is UTF-8. -/
def System.IsUtf8 (s : System) : Prop :=
  ∀ document, systemToJson .complete s = .ok document → document.IsUtf8

theorem readPresent_meta (options : SerializationOptions) {m : SnapshotMeta} (h : m.InRange) :
    (readPresent (metaFromJson .library)
      ((if options.includeMeta then some (metaToJson m) else none).filter isObject)).map
        (·.getD {}) = .ok (if options.includeMeta then m.truncated else {}) := by
  cases options.includeMeta
  · rfl
  · show (readPresent (metaFromJson .library) (some (metaToJson m))).map _ = _
    rw [readPresent_some, metaFromJson_toJson h]
    rfl

theorem readPresent_raw (options : SerializationOptions) {raw : Option RawStore}
    (h : ∀ r ∈ raw, r.InRange) :
    readPresent (rawStoreFromJson .library)
      ((if options.includeRaw then raw.map rawStoreToJson else none).filter isObject) =
        .ok (if options.includeRaw then raw.map RawStore.truncated else none) := by
  cases options.includeRaw
  · rfl
  · cases raw with
    | none => rfl
    | some r =>
        show readPresent (rawStoreFromJson .library) (some (rawStoreToJson r)) = _
        rw [readPresent_some, rawStoreFromJson_toJson (h r rfl)]
        rfl

/-- The fields of the document of a system. -/
def documentFields (options : SerializationOptions) (s : System) (info : Json) :
    List (String × Option Json) :=
  [("info", some info),
   ("meta", if options.includeMeta then some (metaToJson s.snapshot) else none),
   ("warnings", some (strings s.warnings)),
   ("raw", if options.includeRaw then s.raw.map rawStoreToJson else none)]

theorem systemToJson_eq (options : SerializationOptions) {s : System} {info : Json}
    (h : systemInfoToJson s.info = .ok info) :
    systemToJson options s = .ok (.object (documentFields options s info)) := by
  rw [systemToJson, h, ok_bind]
  rfl

theorem checkVersion_document (options : SerializationOptions) (info : Json) {s : System}
    (h : s.snapshot.InRange) : checkVersion (.object (documentFields options s info)) = .ok () := by
  have hfield : typedField (.object (documentFields options s info)) isObject "meta" =
      if options.includeMeta then some (metaToJson s.snapshot) else none := by
    rw [typedField, object_field]
    show Option.filter isObject (if options.includeMeta then _ else none) = _
    cases options.includeMeta <;> rfl
  rw [checkVersion, hfield]
  cases options.includeMeta
  · rfl
  · have hversion : (metaToJson s.snapshot).field "sysal_version" =
        some (.str s.snapshot.sysalVersion) := object_field _ _
    simp only [if_true, Option.bind_some, hversion, asStr_str, h.version]

/-- The document of a system within the ranges is decoded to what the snapshot stores. -/
theorem systemFromJson_document {options : SerializationOptions} {s : System} {info : Json}
    (h : s.InRange) (hinfo : systemInfoFromJson .library info = .ok s.info) :
    systemFromJson .library (.object (documentFields options s info)) = .ok (s.stored options) := by
  have hversion := checkVersion_document options info h.snapshot
  have hmeta := readPresent_meta options h.snapshot
  have hraw := readPresent_raw options h.raw
  have hwarnings : Option.filter isArray (some (strings s.warnings)) = some (strings s.warnings) :=
    rfl
  rw [systemFromJson, hversion, ok_bind]
  simp [documentFields, typedField, hinfo, hmeta, hwarnings, hraw, System.stored]

/-- A document holds no string that the complete document does not hold. -/
theorem isUtf8_document {options : SerializationOptions} {s : System} {info : Json}
    (h : (Json.object (documentFields .complete s info)).IsUtf8) :
    (Json.object (documentFields options s info)).IsUtf8 := by
  rw [isUtf8_object] at h ⊢
  intro key v hv
  refine h key v ?_
  simp only [documentFields, findField_cons, findField_nil] at hv ⊢
  split_ifs at hv ⊢ <;> simp_all [SerializationOptions.complete]

/-- **Round trip of snapshots**: a system whose values lie in the ranges of the decoder is written,
and its text is read back as what the snapshot stores, every domain, warning, metadata field and raw
record of it, with the times truncated to milliseconds. -/
theorem fromJson_toJson {json : JsonLibrary} {options : SerializationOptions} {s : System}
    (h : s.InRange) (hutf8 : s.IsUtf8)
    (hjson : ∀ document, systemToJson options s = .ok document →
      json.Faithful options.indent document) :
    ∃ text, toJson json options s = .ok text ∧ fromJson json text = .ok (s.stored options) := by
  obtain ⟨info, hencode, hdecode⟩ := systemInfoFromJson_toJson h.info
  have hdocument := systemToJson_eq options hencode
  obtain ⟨text, hdump, hparse⟩ :=
    hjson _ hdocument (isUtf8_document (hutf8 _ (systemToJson_eq _ hencode)))
  refine ⟨text, ?_, ?_⟩
  · rw [toJson, hdocument, ok_bind]
    simp only [hdump]
  · rw [fromJson, decodeSystem, hparse]
    simp only [isObject_object, if_true, systemFromJson_document h hdecode]
    rfl

/-- A system with a drive, its health and one raw record. -/
def driveSystem : System where
  info :=
    { storage :=
        { devices :=
            [{ name := utf8 "nvme0n1", pciAddress := some { bus := 1 },
               nvmeNamespace := some { id := 1 } }]
          health :=
            [{ target := utf8 "nvme0", source := .nvmeSmartLog,
               nvme := some { temperature := some 310, mediaErrors := some ⟨decimal (2 ^ 64)⟩ } }] }
      hardwareHealth := { driveFindings := [{ target := utf8 "nvme0", kind := .nvmeMediaHistory }] } }
  snapshot := { collectTime := 1700000000123456789, sysalVersion := utf8 "0.0.26" }
  warnings := [utf8 "udevadm"]
  raw := some { records := [⟨⟨.nvmeSmartLog, utf8 "nvme0", [], .success, none, none⟩, 1999999⟩] }

theorem driveSystem_inRange : driveSystem.InRange where
  info :=
    { memory := by simp [driveSystem, Memory.InRange]
      accelerators := by simp [driveSystem, Accelerators.InRange]
      network := ⟨by simp [driveSystem], by simp [driveSystem, RdmaInventory.InRange]⟩
      storage :=
        { devices := by
            simp only [driveSystem, List.mem_singleton, forall_eq]
            exact ⟨by simp; decide, by simp [NvmeNamespaceInfo.InRange]⟩
          health := by
            simp only [driveSystem, List.mem_singleton, forall_eq]
            refine ⟨by decide, ?_, by simp, by simp⟩
            simp only [Option.mem_some, forall_eq']
            exact ⟨by simp, by simp, by simp, by simpa using ⟨2 ^ 64, by decide, rfl⟩,
              by simp, by simp, by simp⟩
          controllers := by simp [driveSystem]
          nvmeControllers := by simp [driveSystem]
          scsiHosts := by simp [driveSystem] }
      pci := by simp [driveSystem, Pci.InRange]
      sensors := ⟨by simp [driveSystem], by simp [driveSystem], by simp [driveSystem]⟩
      hardwareHealth := by simp [driveSystem, HardwareHealth.InRange, DriveFinding.InRange] }
  snapshot := ⟨by decide, by simp [driveSystem]⟩
  raw := by simp [driveSystem, RawStore.InRange]

theorem driveSystem_isUtf8 : driveSystem.IsUtf8 := by
  have hascii : (systemToJson .complete driveSystem).toOption.all
      (fun d => d.tree.strings.all fun s => s.all (· < 128)) = true := by decide +kernel
  intro document hdocument
  rw [hdocument] at hascii
  exact Json.isUtf8_of_ascii hascii

/-- A library that parses the text of the drive's document. -/
def driveLibrary : JsonLibrary :=
  .ofDocument (-1) ((systemToJson .complete driveSystem).toOption.getD .null)

theorem fromJson_toJson_drive :
    ∃ text, toJson driveLibrary .complete driveSystem = .ok text ∧
      fromJson driveLibrary text = .ok (driveSystem.stored .complete) := by
  refine fromJson_toJson driveSystem_inRange driveSystem_isUtf8 fun document hdocument => ?_
  rw [driveLibrary, hdocument]
  exact JsonLibrary.ofDocument_faithful _ _

end Sysal
