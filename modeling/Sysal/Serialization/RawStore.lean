import Sysal.Foundation.JsonLibrary
import Sysal.Model.RawStore
import Sysal.Model.Errors
import Sysal.Serialization.JsonValues

/-!
# Raw evidence as JSON

The raw-store part of `serialize.cpp`, with `collect_options.cpp` and the enumerations of
`inventory.cpp`.  A time stamp is stored in milliseconds and read through the leaf reader.

* `rawStoreFromJson_toJson`: a store comes back with its time stamps truncated to milliseconds.
* `loadRawStore_saveRawStore`: the same through the text of a file.
* `evidence_truncated`: what parsers and resolvers see is unchanged.
-/

namespace Sysal

open Json

/-! ### Time stamps -/

/-- Milliseconds since the epoch; the division drops the fraction towards zero. -/
def timePointToMs (time : Int64) : Int64 := time / 1000000

/-- A time without its part below a millisecond. -/
def truncateToMs (time : Int64) : Int64 := msToTimePoint (timePointToMs time)

/-- Rounding towards zero never leaves the range. -/
theorem tdiv_mul_bounds (t : ℤ) :
    (0 ≤ t → 0 ≤ t.tdiv 1000000 * 1000000 ∧ t.tdiv 1000000 * 1000000 ≤ t) ∧
      (t ≤ 0 → t ≤ t.tdiv 1000000 * 1000000 ∧ t.tdiv 1000000 * 1000000 ≤ 0) := by
  have hdiv := Int.mul_tdiv_add_tmod t 1000000
  constructor
  · intro ht
    have hmod := Int.tmod_nonneg 1000000 ht
    have hquot : 0 ≤ t.tdiv 1000000 := Int.tdiv_nonneg ht (by decide)
    omega
  · intro ht
    have hmod := Int.tmod_nonneg 1000000 (show 0 ≤ -t by omega)
    rw [Int.neg_tmod] at hmod
    have hquot : 0 ≤ (-t).tdiv 1000000 := Int.tdiv_nonneg (by omega) (by decide)
    rw [Int.neg_tdiv] at hquot
    omega

/-- Only the part below a millisecond is dropped, and nothing wraps around. -/
theorem truncateToMs_toInt (time : Int64) :
    (truncateToMs time).toInt = time.toInt - time.toInt.tmod 1000000 := by
  have hlo := time.le_toInt
  have hhi := time.toInt_lt
  have hfactor : (1000000 : Int64).toInt = 1000000 := by decide
  have hdiv : (timePointToMs time).toInt = time.toInt.tdiv 1000000 := by
    rw [timePointToMs, Int64.toInt_div_of_ne_right _ _ (by decide), hfactor]
  have hmod := Int.mul_tdiv_add_tmod time.toInt 1000000
  obtain ⟨hpos, hneg⟩ := tdiv_mul_bounds time.toInt
  rw [truncateToMs, msToTimePoint, Int64.toInt_mul, hdiv, hfactor,
    Int.bmod_eq_of_le (by omega) (by omega)]
  omega

/-! ### Requests -/

instance : CEnum.IsLast FilesystemQuery.allMounted := ⟨rfl⟩
instance : CEnum.IsLast SensorDevices.excludeDisplay := ⟨rfl⟩
instance : CEnum.IsLast RawSource.filesystemUsage := ⟨rfl⟩
instance : CEnum.IsLast InventoryKind.acceleratorDevices := ⟨rfl⟩

def collectOptionsToJson (options : CollectOptions) : Json :=
  .object [
    ("filesystems", some (.ofEnum options.filesystems)),
    ("sensors", some (.ofEnum options.sensors))]

def collectOptionsFromJson (j : Json) : Decode CollectOptions := do
  return {
    filesystems :=
      ← j.read (enumFromJson FilesystemQuery.allMounted "filesystem query policy") "filesystems"
    sensors :=
      ← j.read (enumFromJson SensorDevices.excludeDisplay "sensor device policy") "sensors" }

@[simp] theorem collectOptionsFromJson_toJson (options : CollectOptions) :
    collectOptionsFromJson (collectOptionsToJson options) = .ok options := by
  simp [collectOptionsFromJson, collectOptionsToJson]

def collectionRequestToJson (request : CollectionRequest) : Json :=
  .object [
    ("flags", some (.ofUInt32 request.flags)),
    ("options", some (collectOptionsToJson request.options))]

/-- The flags of a request: no bit outside of the known mask. -/
def requestFlagsFromJson (j : Json) : Decode Collect := do
  let flags ← uint32FromJson "collection request flags" j
  if flags &&& ~~~Collect.full ≠ 0 then .error (.invalid (utf8 "unknown acquisition flags"))
  else .ok flags

def collectionRequestFromJson (j : Json) : Decode CollectionRequest := do
  return {
    flags := ← j.read requestFlagsFromJson "flags"
    options := ← j.read collectOptionsFromJson "options" }

theorem collectionRequestFromJson_toJson {request : CollectionRequest} (h : request.valid) :
    collectionRequestFromJson (collectionRequestToJson request) = .ok request := by
  have hmask : request.flags &&& ~~~Collect.full = 0 := by
    simpa [CollectionRequest.valid] using h
  have hflags : requestFlagsFromJson (.ofUInt32 request.flags) = .ok request.flags := by
    rw [requestFlagsFromJson, uint32FromJson_ofUInt32, ok_bind, if_neg (not_not.mpr hmask)]
  simp [collectionRequestFromJson, collectionRequestToJson, hflags]

/-! ### Enumerations -/

/-- `inventory_kind`, on the member it reads. -/
def inventoryKindFromJson (j : Json) : Decode InventoryKind :=
  j.read (enumFromJson InventoryKind.acceleratorDevices "inventory") "inventory"

def enumerationToJson (e : InventoryEnumeration) : Json :=
  .object [
    ("inventory", some (.ofEnum e.inventory)),
    ("source", some (.ofEnum e.source)),
    ("origin", some (.str e.origin)),
    ("entries", some (strings e.entries)),
    ("status", some (.ofEnum e.status)),
    ("failure", e.failure.map .ofEnum)]

def enumerationFromJson (j : Json) : Decode InventoryEnumeration := do
  return {
    inventory := ← inventoryKindFromJson j
    source := ← j.read (enumFromJson RawSource.filesystemUsage "source") "source"
    origin := ← j.read getString "origin"
    entries := ← j.read (readArray getString) "entries"
    status := ← j.read (enumFromJson CollectStatus.notCollected "status") "status"
    failure := ← j.readOptional (enumFromJson ReadFailure.lowPower "failure") "failure" }

@[simp] theorem enumerationFromJson_toJson (e : InventoryEnumeration) :
    enumerationFromJson (enumerationToJson e) = .ok e := by
  simp [enumerationFromJson, enumerationToJson, inventoryKindFromJson]

/-! ### Records and stores -/

def rawRecordToJson (rec : RawRecord) : Json :=
  .object [
    ("source", some (.ofEnum rec.source)),
    ("path_or_command", some (.str rec.pathOrCommand)),
    ("payload", some (.str rec.payload)),
    ("status", some (.ofEnum rec.status)),
    ("collected_at", some (.ofInt64 (timePointToMs rec.collectedAt))),
    ("failure", rec.failure.map .ofEnum),
    ("skip", rec.skip.map .ofEnum)]

def rawRecordFromJson (leaf : LeafReader) (j : Json) : Decode RawRecord := do
  return {
    source := ← j.read (enumFromJson RawSource.filesystemUsage "source") "source"
    pathOrCommand := ← j.read getString "path_or_command"
    payload := ← j.read getString "payload"
    status := ← j.read (enumFromJson CollectStatus.notCollected "status") "status"
    collectedAt := ← j.read leaf.timePoint "collected_at"
    failure := ← j.readOptional (enumFromJson ReadFailure.lowPower "failure") "failure"
    skip := ← j.readOptional (enumFromJson SkipReason.notApplicable "skip") "skip" }

/-- A record without the part of its time stamp below a millisecond. -/
def RawRecord.truncated (rec : RawRecord) : RawRecord :=
  { rec with collectedAt := truncateToMs rec.collectedAt }

@[simp] theorem rawRecordFromJson_toJson (rec : RawRecord) :
    rawRecordFromJson .library (rawRecordToJson rec) = .ok rec.truncated := by
  simp [rawRecordFromJson, rawRecordToJson, RawRecord.truncated, truncateToMs]

def rawStoreToJson (store : RawStore) : Json :=
  .object [
    ("records", some (.array (store.records.map rawRecordToJson))),
    ("enumerations", some (.array (store.enumerations.map enumerationToJson))),
    ("collection_request", store.collectionRequest.map collectionRequestToJson)]

def rawStoreFromJson (leaf : LeafReader) (root : Json) : Decode RawStore := do
  return {
    records := ← root.read (readItems (rawRecordFromJson leaf)) "records"
    enumerations := ← root.readOr (readArray enumerationFromJson) [] "enumerations"
    collectionRequest := ← root.readOptional collectionRequestFromJson "collection_request" }

/-- The request of a store names known domains only. -/
def RawStore.InRange (store : RawStore) : Prop := ∀ r ∈ store.collectionRequest, r.valid

/-- A store whose time stamps are truncated to milliseconds. -/
def RawStore.truncated (store : RawStore) : RawStore :=
  { store with records := store.records.map RawRecord.truncated }

theorem readItems_rawRecords (records : List RawRecord) :
    (array (records.map rawRecordToJson)).readItems (rawRecordFromJson .library) =
      .ok (records.map RawRecord.truncated) := by
  rw [readItems, array_items]
  induction records with
  | nil => rfl
  | cons rec records ih =>
      rw [List.map_cons, List.mapM_cons, rawRecordFromJson_toJson, ih]
      rfl

/-- **The codec of raw evidence**: number and order of records and enumerations, every field of
them and the request come back; only the time stamps are truncated. -/
theorem rawStoreFromJson_toJson {store : RawStore} (h : store.InRange) :
    rawStoreFromJson .library (rawStoreToJson store) = .ok store.truncated := by
  have hrequest := readPresent_map
    fun r (hr : r ∈ store.collectionRequest) => collectionRequestFromJson_toJson (h r hr)
  simp [rawStoreFromJson, rawStoreToJson, RawStore.truncated, readItems_rawRecords, hrequest,
    -List.map_map]

theorem toRawEvidence_mk (e : RawEvidence) (time : Int64) :
    (RawRecord.mk e time).toRawEvidence = e := rfl

-- stated through a general record: by `rfl` the kernel would compare the two time stamps first
@[simp] theorem toRawEvidence_truncated (rec : RawRecord) :
    rec.truncated.toRawEvidence = rec.toRawEvidence :=
  toRawEvidence_mk rec.toRawEvidence (truncateToMs rec.collectedAt)

/-- What parsers and resolvers see does not contain the time stamps. -/
@[simp] theorem evidence_truncated (store : RawStore) : store.truncated.evidence = store.evidence := by
  have hrecords : store.truncated.records.map RawRecord.toRawEvidence =
      store.records.map RawRecord.toRawEvidence := by
    rw [RawStore.truncated, List.map_map]
    exact List.map_congr_left fun rec _ => toRawEvidence_truncated rec
  rw [RawStore.evidence, hrecords]
  rfl

/-! ### Texts -/

/-- Every string of a store is UTF-8. -/
structure RawStore.IsUtf8 (store : RawStore) : Prop where
  records : ∀ rec ∈ store.records, Sysal.IsUtf8 rec.pathOrCommand ∧ Sysal.IsUtf8 rec.payload
  enumerations : ∀ e ∈ store.enumerations, Sysal.IsUtf8 e.origin ∧
    ∀ entry ∈ e.entries, Sysal.IsUtf8 entry

theorem isUtf8_ofEnum {α : Type} [CEnum α] (a : α) : (Json.ofEnum a).IsUtf8 := isUtf8_ofUInt32 _

theorem isUtf8_rawRecordToJson {rec : RawRecord}
    (h : IsUtf8 rec.pathOrCommand ∧ IsUtf8 rec.payload) : (rawRecordToJson rec).IsUtf8 := by
  refine isUtf8_object_of_fields ?_
  simp [isUtf8_ofEnum, h.1, h.2]

theorem isUtf8_enumerationToJson {e : InventoryEnumeration}
    (h : IsUtf8 e.origin ∧ ∀ entry ∈ e.entries, IsUtf8 entry) : (enumerationToJson e).IsUtf8 := by
  refine isUtf8_object_of_fields ?_
  simpa [isUtf8_ofEnum, strings, h.1] using h.2

theorem isUtf8_collectionRequestToJson (request : CollectionRequest) :
    (collectionRequestToJson request).IsUtf8 := by
  have hoptions : (collectOptionsToJson request.options).IsUtf8 := by
    refine isUtf8_object_of_fields ?_
    simp [isUtf8_ofEnum]
  refine isUtf8_object_of_fields ?_
  simp [hoptions]

theorem isUtf8_rawStoreToJson {store : RawStore} (h : store.IsUtf8) :
    (rawStoreToJson store).IsUtf8 := by
  have hrecords : ∀ rec ∈ store.records, (rawRecordToJson rec).IsUtf8 :=
    fun rec hrec => isUtf8_rawRecordToJson (h.records rec hrec)
  have henumerations : ∀ e ∈ store.enumerations, (enumerationToJson e).IsUtf8 :=
    fun e he => isUtf8_enumerationToJson (h.enumerations e he)
  refine isUtf8_object_of_fields ?_
  simpa [isUtf8_collectionRequestToJson] using And.intro hrecords henumerations

/-! ### Files -/

/-- What a decoding error is thrown as. -/
def DecodeError.thrown (json : JsonLibrary) : DecodeError → Thrown
  | .library => .sysalError .deserializationError json.what
  | .invalid message => .sysalError .deserializationError message

/-- `save_raw_store`: the text written to the file. -/
def saveRawStore (json : JsonLibrary) (raw : RawStore) : Except Thrown Bytes :=
  match json.dump 4 (rawStoreToJson raw) with
  | some text => .ok text
  | none => .error (.jsonException json.what)

/-- `load_raw_store`, on the text of the file. -/
def loadRawStore (json : JsonLibrary) (text : Bytes) : Except Thrown RawStore :=
  match json.parse text with
  | none => .error (DecodeError.library.thrown json)
  | some root =>
      if root.isObject then (rawStoreFromJson .library root).mapError (DecodeError.thrown json)
      else .error (.sysalError .deserializationError (utf8 "RawStore JSON root must be an object"))

/-- A store that was saved is loaded with its time stamps truncated. -/
theorem loadRawStore_saveRawStore {json : JsonLibrary} {raw : RawStore} (h : raw.InRange)
    (hutf8 : raw.IsUtf8) (hjson : json.Faithful 4 (rawStoreToJson raw)) :
    ∃ text, saveRawStore json raw = .ok text ∧ loadRawStore json text = .ok raw.truncated := by
  obtain ⟨text, hdump, hparse⟩ := hjson (isUtf8_rawStoreToJson hutf8)
  have hobject : (rawStoreToJson raw).isObject = true := rfl
  refine ⟨text, by rw [saveRawStore, hdump], ?_⟩
  rw [loadRawStore, hparse]
  simp only [hobject, if_true, rawStoreFromJson_toJson h]
  rfl

end Sysal
