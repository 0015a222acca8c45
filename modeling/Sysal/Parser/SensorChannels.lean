import Sysal.Foundation.Cuts
import Sysal.Foundation.Grouping
import Sysal.Parser.Sensors

/-!
# Sensor channels

A directory has one reading for every channel its attributes name, and the reading is made of the
attributes of this channel and of the chip.

* `attributesOf_getElem?`: the attributes of a directory are the last reports of its files;
* `readings_perm`: the readings are the ones of the directories;
* `channelReading_congr`: what a reading depends on;
* `parseSensors_spec`: completeness, distinct identities, isolation and alarms.
-/

namespace Sysal.SensorParser

open Sysal Std

/-! ### Directories -/

instance : TransOrd RawSource where
  eq_swap := OrientedOrd.eq_swap (α := ℕ)
  isLE_trans := TransOrd.isLE_trans (α := ℕ)

instance : LawfulEqOrd RawSource where
  compare_self := ReflOrd.compare_self (α := ℕ)
  eq_of_compare h := CEnum.code_injective (LawfulEqOrd.eq_of_compare h)

/-- The directory a record is about. -/
def sensorDirectory (record : RawEvidence) : Option (RawSource × Bytes) :=
  if (record.source = .sysfsHwmon ∨ record.source = .sysfsThermal) ∧ record.status = .success then
    (Bytes.rcut record.pathOrCommand 47).map fun cut => (record.source, cut.1)
  else none

/-- The attribute a record reports. -/
def sensorAttribute (record : RawEvidence) : Option (Bytes × Bytes) :=
  (Bytes.rcut record.pathOrCommand 47).map fun cut => (cut.2, record.payload)

theorem scanSensorRecord_eq :
    scanSensorRecord = fileUnder sensorDirectory fun _ attributes record =>
      insertReport sensorAttribute attributes record := by
  funext groups record
  rw [scanSensorRecord, fileUnder, sensorDirectory]
  split_ifs
  · cases hcut : Bytes.rcut record.pathOrCommand 47 with
    | none => rfl
    | some cut =>
        simp only [Option.map_some, insertReport, sensorAttribute, hcut]
  · rfl

/-- The attributes of a directory. -/
def attributesOf (raw : EvidenceStore) (source : RawSource) (path : Bytes) : Attributes :=
  groupOf sensorDirectory (fun _ attributes record => insertReport sensorAttribute attributes record)
    raw.records (source, path)

/-- The last report of a file of a directory. -/
def attributeText (raw : EvidenceStore) (source : RawSource) (path field : Bytes) : Option Bytes :=
  ((raw.records.filter fun record => record.source = source ∧ record.status = .success ∧
    Bytes.rcut record.pathOrCommand 47 = some (path, field)).getLast?).map (·.payload)

/-- A source with sensors. -/
def HasSensors (source : RawSource) : Prop := source = .sysfsHwmon ∨ source = .sysfsThermal

theorem sensorDirectory_eq_some {record : RawEvidence} {source : RawSource} {path : Bytes} :
    sensorDirectory record = some (source, path) ↔
      HasSensors source ∧ record.source = source ∧ record.status = .success ∧
        ∃ field, Bytes.rcut record.pathOrCommand 47 = some (path, field) := by
  rw [sensorDirectory]
  split_ifs with h
  · rw [Option.map_eq_some_iff]
    constructor
    · rintro ⟨⟨directory, field⟩, hcut, heq⟩
      obtain ⟨rfl, rfl⟩ := Prod.mk.inj heq
      exact ⟨h.1, rfl, h.2, field, hcut⟩
    · rintro ⟨-, rfl, -, field, hcut⟩
      exact ⟨(path, field), hcut, rfl⟩
  · refine iff_of_false (by simp) ?_
    rintro ⟨hsource, rfl, hstatus, -⟩
    exact h ⟨hsource, hstatus⟩

/-- **The attributes of a directory** are the last reports of its files. -/
theorem attributesOf_getElem? (raw : EvidenceStore) {source : RawSource} (hsource : HasSensors source)
    (path field : Bytes) :
    (attributesOf raw source path)[field]? = attributeText raw source path field := by
  have hfile := getElem?_foldl_insertReport_of (k := field) sensorAttribute
    (fun record => (Bytes.rcut record.pathOrCommand 47).map Prod.snd = some field) (·.payload)
    (fun record payload => by
      rw [sensorAttribute]
      cases Bytes.rcut record.pathOrCommand 47 <;> simp)
    (raw.records.filter (sensorDirectory · = some (source, path)))
  refine hfile.trans ?_
  rw [attributeText, List.filter_filter]
  congr 3
  funext record
  rw [Bool.eq_iff_iff, Bool.and_eq_true, decide_eq_true_iff, decide_eq_true_iff, decide_eq_true_iff,
    sensorDirectory_eq_some, Option.map_eq_some_iff]
  constructor
  · rintro ⟨⟨⟨directory, _⟩, hcut, rfl⟩, -, hrecord, hstatus, last, hcut'⟩
    obtain ⟨rfl, -⟩ := Prod.mk.inj (Option.some.inj (hcut.symm.trans hcut'))
    exact ⟨hrecord, hstatus, hcut⟩
  · rintro ⟨hrecord, hstatus, hcut⟩
    exact ⟨⟨(path, field), hcut, rfl⟩, hsource, hrecord, hstatus, field, hcut⟩

theorem attributeText_isSome {raw : EvidenceStore} {source : RawSource} {path field : Bytes} :
    (attributeText raw source path field).isSome ↔
      ∃ record ∈ raw.records, record.source = source ∧ record.status = .success ∧
        Bytes.rcut record.pathOrCommand 47 = some (path, field) := by
  rw [attributeText, Option.isSome_map, List.getLast?_isSome, ne_eq, List.filter_eq_nil_iff]
  push Not
  simp only [decide_eq_true_eq]

/-- The directories with an attribute. -/
def directories (raw : EvidenceStore) : List (RawSource × Bytes) :=
  sortedSet (raw.records.filterMap sensorDirectory)

theorem mem_directories {raw : EvidenceStore} {source : RawSource} {path : Bytes} :
    (source, path) ∈ directories raw ↔
      HasSensors source ∧ ∃ field, (attributeText raw source path field).isSome := by
  rw [directories, mem_sortedSet, List.mem_filterMap]
  simp only [sensorDirectory_eq_some, attributeText_isSome]
  constructor
  · rintro ⟨record, hmem, hsource, hrecord, hstatus, field, hcut⟩
    exact ⟨hsource, field, record, hmem, hrecord, hstatus, hcut⟩
  · rintro ⟨hsource, field, record, hmem, hrecord, hstatus, hcut⟩
    exact ⟨record, hmem, hsource, hrecord, hstatus, field, hcut⟩

/-! ### Readings -/

/-- All readings of a result. -/
def readings (sensors : Sensors) : List Reading :=
  sensors.temperatures.map .temperature ++ sensors.fans.map .fan ++ sensors.powers.map .power

theorem readings_addReading (sensors : Sensors) (reading : Reading) :
    (readings (addReading sensors reading)).Perm (readings sensors ++ [reading]) := by
  cases reading with
  | temperature r =>
      simp only [readings, addReading, List.map_append, List.append_assoc]
      refine List.Perm.append_left _ ?_
      exact List.perm_append_comm.trans (by simp)
  | fan r =>
      simp only [readings, addReading, List.map_append, List.append_assoc]
      refine List.Perm.append_left _ (List.Perm.append_left _ ?_)
      exact List.perm_append_comm
  | power r =>
      simp only [readings, addReading, List.map_append, List.append_assoc]
      rfl

theorem readings_foldl_addReading (l : List Reading) (sensors : Sensors) :
    (readings (l.foldl addReading sensors)).Perm (readings sensors ++ l) := by
  induction l generalizing sensors with
  | nil => simp
  | cons reading l ih =>
      rw [List.foldl_cons]
      refine (ih _).trans (((readings_addReading sensors reading).append_right l).trans ?_)
      rw [List.append_assoc]
      rfl

/-- **The readings** are the ones of the directories. -/
theorem readings_perm (raw : EvidenceStore) :
    (readings (parseSensors raw)).Perm ((directories raw).flatMap fun key =>
      groupReadings (key, attributesOf raw key.1 key.2)) := by
  have hgroups : (raw.records.foldl scanSensorRecord ∅).toList =
      (directories raw).map fun key => (key, attributesOf raw key.1 key.2) := by
    rw [scanSensorRecord_eq, toList_foldl_fileUnder]
    rfl
  have hfold : parseSensors raw =
      ((directories raw).flatMap fun key => groupReadings (key, attributesOf raw key.1 key.2)).foldl
        addReading {} := by
    rw [parseSensors, hgroups, List.foldl_map, List.foldl_flatMap]
  rw [hfold]
  exact readings_foldl_addReading _ {}

/-! ### Channels -/

/-- The kinds of channels. -/
def channelKinds : List Bytes := [utf8 "temp", utf8 "fan", utf8 "power"]

/-- The name of a channel: its kind and its number. -/
def IsChannel (name : Bytes) : Prop :=
  ∃ kind ∈ channelKinds, ∃ number : Bytes, number ≠ [] ∧ number.all isDigit = true ∧
    name = kind ++ number

/-- A channel name has letters and digits only. -/
theorem IsChannel.notMem {name : Bytes} (h : IsChannel name) : (95 : UInt8) ∉ name ∧ (47 : UInt8) ∉ name := by
  obtain ⟨kind, hkind, number, -, hdigits, rfl⟩ := h
  have hnumber : ∀ c ∈ number, isDigit c = true := List.all_eq_true.mp hdigits
  have hletters : ∀ kind ∈ channelKinds, (95 : UInt8) ∉ kind ∧ (47 : UInt8) ∉ kind := by
    decide +kernel
  rw [List.mem_append, List.mem_append, not_or, not_or]
  refine ⟨⟨(hletters kind hkind).1, fun hmem => ?_⟩, (hletters kind hkind).2, fun hmem => ?_⟩
  · exact absurd (hnumber _ hmem) (by decide)
  · exact absurd (hnumber _ hmem) (by decide)

theorem channelStart_append {kind : Bytes} (hkind : kind ∈ channelKinds) (number : Bytes) :
    channelStart (kind ++ number) = kind.length ∧ kind.length ≠ 0 := by
  simp only [channelKinds, List.mem_cons, List.not_mem_nil, or_false] at hkind
  rcases hkind with rfl | rfl | rfl
  · exact ⟨rfl, by decide +kernel⟩
  · exact ⟨rfl, by decide +kernel⟩
  · exact ⟨rfl, by decide +kernel⟩

/-- A name with the length of its kind begins with a kind. -/
theorem exists_kind_of_channelStart {name : Bytes} (h : channelStart name ≠ 0) :
    ∃ kind ∈ channelKinds, ∃ number, name = kind ++ number := by
  rw [channelStart] at h
  split_ifs at h with htemp hfan hpower
  · obtain ⟨number, rfl⟩ := List.isPrefixOf_iff_prefix.mp htemp
    exact ⟨utf8 "temp", by decide +kernel, number, rfl⟩
  · obtain ⟨number, rfl⟩ := List.isPrefixOf_iff_prefix.mp hfan
    exact ⟨utf8 "fan", by decide +kernel, number, rfl⟩
  · obtain ⟨number, rfl⟩ := List.isPrefixOf_iff_prefix.mp hpower
    exact ⟨utf8 "power", by decide +kernel, number, rfl⟩
  · exact absurd rfl h

theorem isChannel_iff {name : Bytes} :
    IsChannel name ↔ channelStart name ≠ 0 ∧ channelStart name < name.length ∧
      (name.drop (channelStart name)).all isDigit = true := by
  constructor
  · rintro ⟨kind, hkind, number, hne, hdigits, rfl⟩
    obtain ⟨hstart, hlength⟩ := channelStart_append hkind number
    rw [hstart, List.drop_left, List.length_append]
    have hpos : 0 < number.length := List.length_pos_iff.mpr hne
    exact ⟨hlength, by omega, hdigits⟩
  · rintro ⟨hstart, hlength, hdigits⟩
    obtain ⟨kind, hkind, number, rfl⟩ := exists_kind_of_channelStart hstart
    rw [(channelStart_append hkind number).1] at hlength hdigits
    rw [List.drop_left] at hdigits
    rw [List.length_append] at hlength
    exact ⟨kind, hkind, number, List.length_pos_iff.mp (by omega), hdigits, rfl⟩

/-- An attribute of a channel: an underscore follows the name of the channel. -/
def Belongs (name field : Bytes) : Prop := name ++ utf8 "_" <+: field

/-- **The channel of an attribute** stands before an underscore of its name. -/
theorem channelName_eq_some {field name : Bytes} :
    channelName field = some name ↔ IsChannel name ∧ Belongs name field := by
  rw [channelName]
  constructor
  · intro h
    split at h
    · rename_i left rest hcut
      obtain ⟨rfl, -⟩ := cut_eq_some_iff.mp hcut
      dsimp only at h
      split_ifs at h with hchannel
      obtain rfl := Option.some.inj h
      exact ⟨isChannel_iff.mpr hchannel, rest, by rw [List.append_assoc]; rfl⟩
    · cases h
  · rintro ⟨hname, rest, rfl⟩
    have hfield : name ++ utf8 "_" ++ rest = name ++ 95 :: rest := by
      rw [List.append_assoc]
      rfl
    rw [hfield, cut_append hname.notMem.1]
    exact if_pos (isChannel_iff.mp hname)

theorem mem_channels {attributes : Attributes} {name : Bytes} :
    name ∈ channels attributes ↔
      IsChannel name ∧ ∃ field, Belongs name field ∧ (attributes[field]?).isSome := by
  rw [channels, mem_sortedSet, List.mem_filterMap]
  simp only [TreeMap.mem_keys, channelName_eq_some, ← TreeMap.isSome_getElem?_iff_mem]
  constructor
  · rintro ⟨field, hsome, hname, hprefix⟩
    exact ⟨hname, field, hprefix, hsome⟩
  · rintro ⟨hname, field, hprefix, hsome⟩
    exact ⟨field, hsome, hname, hprefix⟩

/-! ### What a reading depends on -/

/-- The attributes that describe the chip. -/
def chipAttributes : List Bytes := [utf8 "name", utf8 "driver", utf8 "device_path"]

section Congruence

variable {U : Type} {quantity : Quantity U} {attributes attributes' : Attributes} {name : Bytes}

theorem value_congr {key : Bytes} (h : attributes[key]? = attributes'[key]?) :
    value attributes key = value attributes' key := by
  rw [value, value, TreeMap.getD_eq_getD_getElem?, TreeMap.getD_eq_getD_getElem?, h]

theorem flag_congr {key : Bytes} (h : attributes[key]? = attributes'[key]?) :
    flag attributes key = flag attributes' key := by
  rw [flag, flag, value_congr h]

/-- Directories with the same chip and the same attributes of a channel. -/
structure SameChannel (attributes attributes' : Attributes) (name : Bytes) : Prop where
  own : ∀ field, Belongs name field → attributes[field]? = attributes'[field]?
  chip : ∀ field ∈ chipAttributes, attributes[field]? = attributes'[field]?

theorem SameChannel.suffix (h : SameChannel attributes attributes' name) (suffix : Bytes)
    (hsuffix : utf8 "_" <+: suffix) :
    attributes[name ++ suffix]? = attributes'[name ++ suffix]? :=
  h.own _ ((List.prefix_append_right_inj name).mpr hsuffix)

theorem unitSupported_congr (h : SameChannel attributes attributes' name) :
    unitSupported quantity attributes name = unitSupported quantity attributes' name := by
  rw [unitSupported, unitSupported, value_congr (h.suffix _ (by decide +kernel)),
    value_congr (h.chip (utf8 "driver") (by decide +kernel))]

theorem supportedMeasurement_congr (h : SameChannel attributes attributes' name) (suffix : Bytes)
    (hsuffix : utf8 "_" <+: suffix) :
    supportedMeasurement quantity attributes name suffix =
      supportedMeasurement quantity attributes' name suffix := by
  rw [supportedMeasurement, supportedMeasurement, unitSupported_congr h, measurement, measurement,
    value_congr (h.suffix suffix hsuffix)]

theorem originSuffix_congr (h : SameChannel attributes attributes' name) :
    originSuffix attributes name = originSuffix attributes' name := by
  rw [originSuffix, originSuffix, TreeMap.contains_eq_isSome_getElem?,
    TreeMap.contains_eq_isSome_getElem?, TreeMap.contains_eq_isSome_getElem?,
    TreeMap.contains_eq_isSome_getElem?, h.suffix _ (by decide +kernel), h.suffix _ (by decide +kernel)]

theorem isAlarm_iff {key : Bytes} :
    isAlarm name key = true ↔ Belongs name key ∧ utf8 "_alarm" <:+ key := by
  rw [isAlarm, Bool.and_eq_true, Bytes.startsWith, Bytes.endsWith, List.isPrefixOf_iff_prefix,
    List.isSuffixOf_iff_suffix]
  rfl

theorem alarms_congr (h : SameChannel attributes attributes' name) :
    alarms attributes name = alarms attributes' name := by
  have hentries : attributes.toList.filter (isAlarm name ·.1) =
      attributes'.toList.filter (isAlarm name ·.1) :=
    filter_toList_congr fun key hkey => h.own key (isAlarm_iff.mp hkey).1
  rw [alarms, alarms, hentries]
  refine List.filterMap_congr fun entry hentry => ?_
  rw [flag_congr (h.own _ (isAlarm_iff.mp (List.mem_filter.mp hentry).2).1)]

/-- **A reading depends** on the attributes of its channel and of the chip. -/
theorem channel_congr (h : SameChannel attributes attributes' name) (path : Bytes)
    (source : RawSource) :
    channel quantity attributes path name source = channel quantity attributes' path name source := by
  rw [channel, channel, originSuffix_congr h, unitSupported_congr h, alarms_congr h,
    value_congr (h.chip (utf8 "name") (by decide +kernel)),
    value_congr (h.chip (utf8 "driver") (by decide +kernel)),
    value_congr (h.chip (utf8 "device_path") (by decide +kernel)),
    value_congr (h.suffix (utf8 "_label") (by decide +kernel)),
    flag_congr (h.suffix (utf8 "_enable") (by decide +kernel)),
    flag_congr (h.suffix (utf8 "_fault") (by decide +kernel)),
    supportedMeasurement_congr h (utf8 "_input") (by decide +kernel),
    supportedMeasurement_congr h (utf8 "_average") (by decide +kernel),
    supportedMeasurement_congr h (utf8 "_min") (by decide +kernel),
    supportedMeasurement_congr h (utf8 "_max") (by decide +kernel),
    supportedMeasurement_congr h (utf8 "_crit") (by decide +kernel)]

theorem channelReading_congr (h : SameChannel attributes attributes' name) (path : Bytes)
    (source : RawSource) :
    channelReading attributes path source name = channelReading attributes' path source name := by
  rw [channelReading, channelReading, channel_congr h, channel_congr h, channel_congr h]

/-- A channel is there as long as it has an attribute. -/
theorem mem_channels_congr (h : SameChannel attributes attributes' name) :
    name ∈ channels attributes ↔ name ∈ channels attributes' := by
  rw [mem_channels, mem_channels]
  refine and_congr_right fun _ => exists_congr fun field => and_congr_right fun hfield => ?_
  rw [h.own field hfield]

end Congruence

/-! ### Identities -/

def Reading.identity : Reading → SensorIdentity
  | .temperature reading => reading.identity
  | .fan reading => reading.identity
  | .power reading => reading.identity

def Reading.alarms : Reading → List SensorAlarm
  | .temperature reading => reading.alarms
  | .fan reading => reading.alarms
  | .power reading => reading.alarms

/-- Where a reading comes from, and its identity. -/
def Reading.place (reading : Reading) : RawSource × Bytes × Bytes :=
  (reading.identity.source, reading.identity.id, reading.identity.channel)

theorem channelReading_place (attributes : Attributes) (path : Bytes) (source : RawSource)
    (name : Bytes) :
    (channelReading attributes path source name).place = (source, path ++ 47 :: name, name) := by
  rw [channelReading]
  split_ifs <;> rfl

theorem channelReading_alarms (attributes : Attributes) (path : Bytes) (source : RawSource)
    (name : Bytes) :
    (channelReading attributes path source name).alarms = alarms attributes name := by
  rw [channelReading]
  split_ifs <;> rfl

/-- The channels of a directory of either source. -/
def channelNames (source : RawSource) (attributes : Attributes) : List Bytes :=
  if source = .sysfsThermal then
    if attributes.contains (utf8 "temp") then [utf8 "temp1"] else []
  else channels attributes

theorem groupReadings_place (source : RawSource) (path : Bytes) (attributes : Attributes) :
    (groupReadings ((source, path), attributes)).map Reading.place =
      (channelNames source attributes).map fun name => (source, path ++ 47 :: name, name) := by
  rw [groupReadings, channelNames]
  split_ifs with hsource htemp
  · rw [hsource]
    rfl
  · rfl
  · rw [List.map_map]
    exact List.map_congr_left fun name _ => channelReading_place attributes path source name

/-- The channels the store reports: what stands before an underscore of an attribute of an `hwmon`
directory, and the one channel of a thermal directory with a temperature. -/
inductive Reported (raw : EvidenceStore) : RawSource → Bytes → Bytes → Prop
  | hwmon {path name field : Bytes} (channel : IsChannel name) (own : Belongs name field)
      (reported : (attributeText raw .sysfsHwmon path field).isSome) :
      Reported raw .sysfsHwmon path name
  | thermal {path : Bytes} (reported : (attributeText raw .sysfsThermal path (utf8 "temp")).isSome) :
      Reported raw .sysfsThermal path (utf8 "temp1")

/-- The channels of all directories. -/
def sensorChannels (raw : EvidenceStore) : List (RawSource × Bytes × Bytes) :=
  (directories raw).flatMap fun key =>
    (channelNames key.1 (attributesOf raw key.1 key.2)).map fun name => (key.1, key.2, name)

theorem mem_channels_attributesOf {raw : EvidenceStore} {path name : Bytes} :
    name ∈ channels (attributesOf raw .sysfsHwmon path) ↔ Reported raw .sysfsHwmon path name := by
  simp only [mem_channels, attributesOf_getElem? raw (.inl rfl)]
  constructor
  · rintro ⟨hname, field, hown, hsome⟩
    exact .hwmon hname hown hsome
  · rintro (⟨hname, hown, hsome⟩ | _)
    exact ⟨hname, _, hown, hsome⟩

theorem mem_channelNames {raw : EvidenceStore} {source : RawSource} {path name : Bytes} :
    (source, path) ∈ directories raw ∧ name ∈ channelNames source (attributesOf raw source path) ↔
      Reported raw source path name := by
  rw [mem_directories]
  constructor
  · rintro ⟨⟨rfl | rfl, field, hfield⟩, hname⟩
    · exact mem_channels_attributesOf.mp hname
    · rw [channelNames, if_pos rfl, TreeMap.contains_eq_isSome_getElem?,
        attributesOf_getElem? raw (.inr rfl)] at hname
      split_ifs at hname with htemp
      · rw [List.mem_singleton.mp hname]
        exact .thermal htemp
      · cases hname
  · intro h
    cases h with
    | hwmon hname hown hsome =>
        exact ⟨⟨.inl rfl, _, hsome⟩, mem_channels_attributesOf.mpr (.hwmon hname hown hsome)⟩
    | thermal hsome =>
        refine ⟨⟨.inr rfl, _, hsome⟩, ?_⟩
        rw [channelNames, if_pos rfl, TreeMap.contains_eq_isSome_getElem?,
          attributesOf_getElem? raw (.inr rfl), if_pos hsome]
        exact List.mem_singleton_self _

theorem mem_sensorChannels {raw : EvidenceStore} {source : RawSource} {path name : Bytes} :
    (source, path, name) ∈ sensorChannels raw ↔ Reported raw source path name := by
  rw [← mem_channelNames, sensorChannels, List.mem_flatMap]
  constructor
  · rintro ⟨⟨source', path'⟩, hkey, hmem⟩
    obtain ⟨name', hname, heq⟩ := List.mem_map.mp hmem
    obtain ⟨rfl, rfl, rfl⟩ : source' = source ∧ path' = path ∧ name' = name := by
      simpa using heq
    exact ⟨hkey, hname⟩
  · rintro ⟨hkey, hname⟩
    exact ⟨(source, path), hkey, List.mem_map_of_mem hname⟩

theorem nodup_channelNames (source : RawSource) (attributes : Attributes) :
    (channelNames source attributes).Nodup := by
  rw [channelNames]
  split_ifs
  · exact List.nodup_singleton _
  · exact List.nodup_nil
  · exact sortedSet_nodup _

theorem nodup_sensorChannels (raw : EvidenceStore) : (sensorChannels raw).Nodup := by
  rw [sensorChannels, List.nodup_flatMap]
  constructor
  · intro key _
    refine (nodup_channelNames _ _).map fun name name' heq => ?_
    simpa using heq
  · refine (sortedSet_nodup _).imp fun {key key'} hne => ?_
    intro channel hchannel hchannel'
    obtain ⟨name, -, rfl⟩ := List.mem_map.mp hchannel
    obtain ⟨name', -, heq⟩ := List.mem_map.mp hchannel'
    obtain ⟨hsource, hpath, -⟩ : key'.1 = key.1 ∧ key'.2 = key.2 ∧ name' = name := by
      simpa using heq
    exact hne (Prod.ext hsource hpath).symm

/-- **Every channel has one reading**, and there are no others. -/
theorem readings_place (raw : EvidenceStore) :
    ((readings (parseSensors raw)).map Reading.place).Perm
      ((sensorChannels raw).map fun channel =>
        (channel.1, channel.2.1 ++ 47 :: channel.2.2, channel.2.2)) := by
  refine ((readings_perm raw).map Reading.place).trans (List.Perm.of_eq ?_)
  rw [sensorChannels, List.map_flatMap, List.map_flatMap]
  refine List.flatMap_congr fun key _ => ?_
  rw [groupReadings_place, List.map_map]
  rfl

/-! ### The parser -/

/-- No directory is reported under both sources. -/
def Separate (raw : EvidenceStore) : Prop :=
  ∀ path field field', (attributeText raw .sysfsHwmon path field).isSome →
    ¬(attributeText raw .sysfsThermal path field').isSome

/-- The reading of a channel of an `hwmon` directory. -/
structure IsAt (path name : Bytes) (reading : Reading) : Prop where
  source : reading.identity.source = .sysfsHwmon
  id : reading.identity.id = path ++ 47 :: name
  channel : reading.identity.channel = name

/-- Stores that report the same about the chip and a channel of a directory. -/
structure AgreeOn (raw raw' : EvidenceStore) (path name : Bytes) : Prop where
  own : ∀ field, Belongs name field →
    attributeText raw .sysfsHwmon path field = attributeText raw' .sysfsHwmon path field
  chip : ∀ field ∈ chipAttributes,
    attributeText raw .sysfsHwmon path field = attributeText raw' .sysfsHwmon path field

/-- Stores that report the same about a directory but for the attributes of one channel. -/
def AgreeExcept (raw raw' : EvidenceStore) (path changed : Bytes) : Prop :=
  ∀ field, ¬Belongs changed field →
    attributeText raw .sysfsHwmon path field = attributeText raw' .sysfsHwmon path field

theorem Reported.notMem {raw : EvidenceStore} {source : RawSource} {path name : Bytes}
    (h : Reported raw source path name) : (47 : UInt8) ∉ name := by
  cases h with
  | hwmon hname _ _ => exact hname.notMem.2
  | thermal _ => decide +kernel

/-- In separate directories the name of a channel and its directory tell it apart. -/
theorem Reported.source_unique {raw : EvidenceStore} (hseparate : Separate raw)
    {source source' : RawSource} {path name name' : Bytes} (h : Reported raw source path name)
    (h' : Reported raw source' path name') : source = source' := by
  cases h with
  | hwmon _ _ hsome =>
      cases h' with
      | hwmon _ _ _ => rfl
      | thermal hsome' => exact absurd hsome' (hseparate _ _ _ hsome)
  | thermal hsome =>
      cases h' with
      | hwmon _ _ hsome' => exact absurd hsome (hseparate _ _ _ hsome')
      | thermal _ => rfl

/-- **The identities of the readings are distinct** where the directories are separate. -/
theorem nodup_ids {raw : EvidenceStore} (hseparate : Separate raw) :
    ((readings (parseSensors raw)).map (·.identity.id)).Nodup := by
  have hids : ((readings (parseSensors raw)).map (·.identity.id)).Perm
      ((sensorChannels raw).map fun channel => channel.2.1 ++ 47 :: channel.2.2) := by
    have h := (readings_place raw).map (fun place => place.2.1)
    rwa [List.map_map, List.map_map] at h
  rw [hids.nodup_iff]
  refine (nodup_sensorChannels raw).map_on ?_
  rintro ⟨source, path, name⟩ h ⟨source', path', name'⟩ h' heq
  rw [mem_sensorChannels] at h h'
  obtain ⟨rfl, rfl⟩ := append_cons_inj_right h.notMem h'.notMem heq
  rw [h.source_unique hseparate h']

/-- A reading of a channel is made of the attributes of its directory. -/
theorem mem_readings_iff {raw : EvidenceStore} {path name : Bytes} {reading : Reading}
    (hat : IsAt path name reading) :
    reading ∈ readings (parseSensors raw) ↔
      name ∈ channels (attributesOf raw .sysfsHwmon path) ∧
        reading = channelReading (attributesOf raw .sysfsHwmon path) path .sysfsHwmon name := by
  rw [(readings_perm raw).mem_iff, List.mem_flatMap]
  constructor
  · rintro ⟨⟨source, path'⟩, -, hmem⟩
    have hplace := List.mem_map_of_mem (f := Reading.place) hmem
    rw [groupReadings_place] at hplace
    obtain ⟨name', -, heq⟩ := List.mem_map.mp hplace
    obtain rfl : source = .sysfsHwmon := (congrArg (·.1) heq).trans hat.source
    obtain rfl : name' = name := (congrArg (·.2.2) heq).trans hat.channel
    obtain rfl : path' = path :=
      List.append_cancel_right ((congrArg (·.2.1) heq).trans hat.id)
    obtain ⟨own, hown, rfl⟩ := List.mem_map.mp hmem
    obtain rfl : own = name' := by
      have hchannel := congrArg (·.2.2) (channelReading_place
        (attributesOf raw .sysfsHwmon path') path' .sysfsHwmon own)
      exact hchannel.symm.trans hat.channel
    exact ⟨hown, rfl⟩
  · rintro ⟨hname, rfl⟩
    refine ⟨(.sysfsHwmon, path), ?_, List.mem_map_of_mem hname⟩
    exact (mem_channelNames.mpr (mem_channels_attributesOf.mp hname)).1

theorem AgreeOn.sameChannel {raw raw' : EvidenceStore} {path name : Bytes}
    (h : AgreeOn raw raw' path name) :
    SameChannel (attributesOf raw .sysfsHwmon path) (attributesOf raw' .sysfsHwmon path) name where
  own field hfield := by
    rw [attributesOf_getElem? raw (.inl rfl), attributesOf_getElem? raw' (.inl rfl), h.own field hfield]
  chip field hfield := by
    rw [attributesOf_getElem? raw (.inl rfl), attributesOf_getElem? raw' (.inl rfl), h.chip field hfield]

/-- **Isolation**: stores that agree on a channel have the same reading for it. -/
theorem mem_readings_congr {raw raw' : EvidenceStore} {path name : Bytes}
    (h : AgreeOn raw raw' path name) {reading : Reading} (hat : IsAt path name reading) :
    reading ∈ readings (parseSensors raw) ↔ reading ∈ readings (parseSensors raw') := by
  rw [mem_readings_iff hat, mem_readings_iff hat, mem_channels_congr h.sameChannel,
    channelReading_congr h.sameChannel]

/-- An attribute belongs to one channel at most, and the attributes of the chip to none. -/
theorem AgreeExcept.agreeOn {raw raw' : EvidenceStore} {path changed name : Bytes}
    (h : AgreeExcept raw raw' path changed) (hchanged : IsChannel changed) (hname : IsChannel name)
    (hne : name ≠ changed) : AgreeOn raw raw' path name where
  own field hfield := by
    refine h field fun hfield' => hne ?_
    have hown := channelName_eq_some.mpr ⟨hname, hfield⟩
    rw [channelName_eq_some.mpr ⟨hchanged, hfield'⟩] at hown
    exact (Option.some.inj hown).symm
  chip field hfield := by
    refine h field fun hfield' => ?_
    have hnone : ∀ field ∈ chipAttributes, channelName field = none := by decide +kernel
    have hown := channelName_eq_some.mpr ⟨hchanged, hfield'⟩
    rw [hnone field hfield] at hown
    cases hown

/-- An alarm of a channel: an attribute of the channel that ends in `_alarm` and says zero or one. -/
structure IsAlarm (raw : EvidenceStore) (path name : Bytes) (alarm : SensorAlarm) : Prop where
  own : Belongs name alarm.attributeName
  suffix : utf8 "_alarm" <:+ alarm.attributeName
  active : ∃ payload, attributeText raw .sysfsHwmon path alarm.attributeName = some payload ∧
    trim payload = if alarm.active then utf8 "1" else utf8 "0"

/-- A flag is an attribute that says zero or one. -/
theorem flag_eq_some {attributes : Attributes} {key : Bytes} {active : Bool} :
    flag attributes key = some active ↔
      ∃ payload, attributes[key]? = some payload ∧
        trim payload = if active then utf8 "1" else utf8 "0" := by
  have hdistinct : utf8 "0" ≠ utf8 "1" := by decide +kernel
  rw [flag, value, TreeMap.getD_eq_getD_getElem?]
  cases attributes[key]? with
  | none =>
      rw [Option.getD_none, if_neg (by decide +kernel), if_neg (by decide +kernel)]
      simp
  | some payload =>
      rw [Option.getD_some]
      simp only [Option.some.injEq, exists_eq_left']
      by_cases hzero : trim payload = utf8 "0"
      · rw [if_pos hzero, hzero]
        cases active <;> simp [hdistinct]
      · rw [if_neg hzero]
        by_cases hone : trim payload = utf8 "1"
        · rw [if_pos hone, hone]
          cases active <;> simp [hdistinct.symm]
        · rw [if_neg hone]
          cases active <;> simp [hzero, hone]

theorem mem_alarms {raw : EvidenceStore} {path name : Bytes} {alarm : SensorAlarm} :
    alarm ∈ alarms (attributesOf raw .sysfsHwmon path) name ↔ IsAlarm raw path name alarm := by
  rw [alarms, List.mem_filterMap]
  constructor
  · rintro ⟨⟨key, text⟩, hentry, halarm⟩
    obtain ⟨active, hflag, rfl⟩ := Option.map_eq_some_iff.mp halarm
    obtain ⟨hown, hsuffix⟩ := isAlarm_iff.mp (List.mem_filter.mp hentry).2
    obtain ⟨payload, hpayload, htext⟩ := flag_eq_some.mp hflag
    rw [attributesOf_getElem? raw (.inl rfl)] at hpayload
    exact ⟨hown, hsuffix, payload, hpayload, htext⟩
  · rintro ⟨hown, hsuffix, payload, hpayload, htext⟩
    rw [← attributesOf_getElem? raw (.inl rfl)] at hpayload
    refine ⟨(alarm.attributeName, payload), List.mem_filter.mpr
      ⟨TreeMap.mem_toList_iff_getElem?_eq_some.mpr hpayload, isAlarm_iff.mpr ⟨hown, hsuffix⟩⟩, ?_⟩
    rw [flag_eq_some.mpr ⟨payload, hpayload, htext⟩]
    rfl

theorem nodup_alarms (attributes : Attributes) (name : Bytes) :
    ((alarms attributes name).map (·.attributeName)).Nodup := by
  have hkeys : (attributes.toList.filter (isAlarm name ·.1)).Pairwise fun a b => a.1 ≠ b.1 := by
    refine (TreeMap.ordered_keys_toList.filter _).imp fun {a b} hlt heq => ?_
    rw [heq, ReflOrd.compare_self] at hlt
    exact absurd hlt (by decide)
  rw [List.Nodup, List.pairwise_map, alarms]
  refine hkeys.filterMap _ fun a b hne alarm halarm alarm' halarm' heq => hne ?_
  obtain ⟨active, -, rfl⟩ := Option.map_eq_some_iff.mp halarm
  obtain ⟨active', -, rfl⟩ := Option.map_eq_some_iff.mp halarm'
  exact heq

/-- What the readings of a store are. -/
structure SensorsSpec (raw : EvidenceStore) : Prop where
  complete : ∃ reported : List (RawSource × Bytes × Bytes), reported.Nodup ∧
    (∀ source path name, (source, path, name) ∈ reported ↔ Reported raw source path name) ∧
    ((readings (parseSensors raw)).map Reading.place).Perm
      (reported.map fun channel => (channel.1, channel.2.1 ++ 47 :: channel.2.2, channel.2.2))
  distinct : Separate raw → ((readings (parseSensors raw)).map (·.identity.id)).Nodup
  isolated : ∀ raw' path name, AgreeOn raw raw' path name → ∀ reading, IsAt path name reading →
    (reading ∈ readings (parseSensors raw) ↔ reading ∈ readings (parseSensors raw'))
  unaffected : ∀ raw' path changed name, IsChannel changed → IsChannel name → name ≠ changed →
    AgreeExcept raw raw' path changed → ∀ reading, IsAt path name reading →
      (reading ∈ readings (parseSensors raw) ↔ reading ∈ readings (parseSensors raw'))
  alarms : ∀ reading ∈ readings (parseSensors raw), ∀ path name, IsAt path name reading →
    (∀ alarm, alarm ∈ reading.alarms ↔ IsAlarm raw path name alarm) ∧
      (reading.alarms.map (·.attributeName)).Nodup

/-- **Sensor channels are complete and isolated.** -/
theorem parseSensors_spec (raw : EvidenceStore) : SensorsSpec raw where
  complete := ⟨sensorChannels raw, nodup_sensorChannels raw, fun _ _ _ => mem_sensorChannels,
    readings_place raw⟩
  distinct := nodup_ids
  isolated _ _ _ h _ hat := mem_readings_congr h hat
  unaffected _ _ _ _ hchanged hname hne h _ hat :=
    mem_readings_congr (h.agreeOn hchanged hname hne) hat
  alarms reading hmem path name hat := by
    obtain ⟨-, rfl⟩ := (mem_readings_iff hat).mp hmem
    rw [channelReading_alarms]
    exact ⟨fun _ => mem_alarms, nodup_alarms _ _⟩

/-- A successful record of an attribute of a chip. -/
def chipRecord (field payload : String) : RawEvidence :=
  { source := .sysfsHwmon, pathOrCommand := utf8 "/sys/class/hwmon/hwmon0/" ++ utf8 field
    payload := utf8 payload, status := .success }

/-- A chip with two temperatures and a fan. -/
def chipStore : EvidenceStore :=
  { records :=
      [chipRecord "name" "k10temp\n", chipRecord "temp1_input" "45000\n",
       chipRecord "temp1_crit_alarm" "1\n", chipRecord "fan2_input" "900\n",
       chipRecord "temp10_input" "50000\n", chipRecord "temp10_crit_alarm" "1\n"] }

/-- The alarm of `temp10` is no alarm of `temp1`. -/
theorem parseSensors_spec_chip :
    (readings (parseSensors chipStore)).map (fun reading =>
        (reading.identity.channel, reading.alarms.map (·.attributeName))) =
      [(utf8 "temp1", [utf8 "temp1_crit_alarm"]), (utf8 "temp10", [utf8 "temp10_crit_alarm"]),
       (utf8 "fan2", [])] ∧
    ∀ reading ∈ readings (parseSensors chipStore), ∀ path name, IsAt path name reading →
      ∀ alarm, alarm ∈ reading.alarms ↔ IsAlarm chipStore path name alarm :=
  ⟨by decide +kernel, fun reading hmem path name hat =>
    ((parseSensors_spec chipStore).alarms reading hmem path name hat).1⟩

end Sysal.SensorParser
