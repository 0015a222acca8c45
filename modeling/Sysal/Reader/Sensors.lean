import Sysal.Foundation.PartialLists
import Sysal.Parser.ParseUtils
import Sysal.Reader.FileUtils

/-!
# Reading the sensors

`sensors.cpp` of the Linux reader: the devices of the `hwmon` and thermal classes with the attributes that
are read of them.  Devices of display controllers can be left out; a class code too short to have its
first two characters dropped makes the reader throw.

* `ofSources_scanEntry` and the ones behind it: the records of a reader are of its own sources.
-/

namespace Sysal.SensorReader

open FsPath

/-- `channel_attribute`. -/
def channelAttribute (name : Bytes) : Bool :=
  match Bytes.cut name 95 with
  | none => false
  | some (channel, field) =>
      let start := if channel.startsWith (utf8 "temp") then 4
        else if channel.startsWith (utf8 "fan") then 3
        else if channel.startsWith (utf8 "power") then 5
        else 0
      (start ≠ 0 ∧ start < channel.length ∧ (channel.drop start).all isDigit) &&
        (field ∈ [utf8 "input", utf8 "average", utf8 "label", utf8 "type", utf8 "min", utf8 "max",
          utf8 "crit", utf8 "enable", utf8 "fault", utf8 "alarm"] ||
          Bytes.endsWith field (utf8 "_alarm"))

example : channelAttribute (utf8 "temp1_crit_alarm") = true := by decide +kernel
example : channelAttribute (utf8 "temp_input") = false := by decide +kernel

/-- The attributes of a device that are read. -/
def accepted (source : RawSource) (field : Bytes) : Bool :=
  if source = .sysfsHwmon then field = utf8 "name" || channelAttribute field
  else
    field = utf8 "type" || field = utf8 "temp" ||
      (field.startsWith (utf8 "trip_point_") &&
        (Bytes.endsWith field (utf8 "_type") || Bytes.endsWith field (utf8 "_temp")))

/-- A path and the paths above it, up to the root. -/
def ancestors (path : Bytes) : List Bytes := List.iterate parentPath path (relativeElements path).length

section Scan

variable (tree : SysTree)

/-- What the directory of a PCI function says of a display controller, if it says something; without an
answer the reader throws. -/
def displayAnswer (path : Bytes) : Option (Option Bool) :=
  match parsePciAddress (fileName path), tree.readFile (append path (utf8 "class")) with
  | some _, .ok value =>
      if (trim value).length < 2 then some none
      else (parseHex ((trim value).drop 2)).map fun code => some (code >>> 16 = 3)
  | _, _ => none

/-- `display_device`. -/
def displayDevice (device : Bytes) : Option Bool :=
  ((ancestors device).findSome? (displayAnswer tree)).getD (some false)

/-- The device behind an entry. -/
def entryDevice (entry : Bytes) : Option Bytes :=
  match tree.canonical (append entry (utf8 "device")) with
  | .ok device => some device
  | .error _ => (tree.canonical entry).toOption

/-- The path of a device and the nearest driver above it. -/
def deviceRecords (source : RawSource) (entry device : Bytes) : List RawEvidence :=
  ⟨source, append entry (utf8 "device_path"), device, .success, none, none⟩ ::
    (((ancestors device).findSome? fun path =>
        (tree.readSymlink (append path (utf8 "driver"))).toOption).map fun driver =>
      (⟨source, append entry (utf8 "driver"), fileName driver, .success, none, none⟩ :
        RawEvidence)).toList

/-- The attributes of an entry. -/
def attributeRecords (source : RawSource) (entry : Bytes) : List RawEvidence :=
  ((tree.entries entry).1.filter fun name => accepted source name.bytes).map (fun name =>
      readFileRecord tree source (append entry name.bytes)) ++
    match (tree.entries entry).2 with
    | some error => [⟨source, entry, [], .failed, some (fileFailure error), none⟩]
    | none => []

/-- The records of an entry that is not left out. -/
def entryRecords (source : RawSource) (entry : Bytes) : List RawEvidence :=
  (match entryDevice tree entry with
    | some device => deviceRecords tree source entry device
    | none => []) ++ attributeRecords tree source entry

/-- The record of an entry that is left out. -/
def excludedRecord (source : RawSource) (entry : Bytes) : RawEvidence :=
  ⟨source, entry, [], .notCollected, none, some .policyExcluded⟩

/-- One entry of a class. -/
def scanEntry (source : RawSource) (policy : SensorDevices) (entry : Bytes) :
    Option (List RawEvidence) :=
  match policy, entryDevice tree entry with
  | .excludeDisplay, some device =>
      (displayDevice tree device).map fun display =>
        if display then [excludedRecord source entry] else entryRecords tree source entry
  | _, _ => some (entryRecords tree source entry)

/-- The entries of a class that are devices. -/
def devices (base : Bytes) (source : RawSource) : List Bytes :=
  ((tree.entries base).1.filter fun name =>
    source ≠ .sysfsThermal || name.bytes.startsWith (utf8 "thermal_zone")).map fun name =>
      append base name.bytes

/-- `scan`. -/
def scan (base : Bytes) (source : RawSource) (policy : SensorDevices) : Option (List RawEvidence) :=
  match tree.entries base with
  | ([], some error) => some [⟨source, base, [], .notCollected, some (fileFailure error), none⟩]
  | (_, error) =>
      ((devices tree base source).mapM (scanEntry tree source policy)).map fun records =>
        records.flatten ++ directoryFailure source base error ++
          if devices tree base source = [] ∧ error = none then
            [⟨source, base, [], .notCollected, some .notPresent, none⟩]
          else []

def hwmonBase : Bytes := utf8 "/sys/class/hwmon"
def thermalBase : Bytes := utf8 "/sys/class/thermal"

/-- `read_thermal_sensors`. -/
def readThermalSensors (policy : SensorDevices) : Option (List RawEvidence) :=
  scan tree thermalBase .sysfsThermal policy

/-- `read_sensors`. -/
def readSensors (policy : SensorDevices) : Option (List RawEvidence) := do
  let hwmon ← scan tree hwmonBase .sysfsHwmon policy
  let thermal ← readThermalSensors tree policy
  return hwmon ++ thermal

end Scan

/-! ### Sources -/

section Sources

variable {tree : SysTree} {source : RawSource} {policy : SensorDevices} {records : List RawEvidence}

theorem ofSources_entryRecords (entry : Bytes) :
    OfSources [source] (entryRecords tree source entry) := by
  have h : source ∈ [source] := List.mem_singleton_self _
  refine .append ?_ (.append (.map fun name _ => readFileRecord_source tree h _) ?_)
  · split
    · refine .cons h fun record hrecord => ?_
      obtain ⟨driver, -, rfl⟩ := Option.map_eq_some_iff.mp (Option.mem_toList.mp hrecord)
      exact h
    · exact .nil
  · split
    · exact .cons h .nil
    · exact .nil

theorem ofSources_scanEntry {entry : Bytes} (h : scanEntry tree source policy entry = some records) :
    OfSources [source] records := by
  unfold scanEntry at h
  split at h
  · obtain ⟨display, -, rfl⟩ := Option.map_eq_some_iff.mp h
    exact .ite (.cons (List.mem_singleton_self _) .nil) (ofSources_entryRecords _)
  · rw [← Option.some.inj h]
    exact ofSources_entryRecords _

theorem ofSources_scan {base : Bytes} (h : scan tree base source policy = some records) :
    OfSources [source] records := by
  have hsource : source ∈ [source] := List.mem_singleton_self _
  rw [scan] at h
  split at h
  · rw [← Option.some.inj h]
    exact .cons hsource .nil
  · obtain ⟨found, hfound, rfl⟩ := Option.map_eq_some_iff.mp h
    refine .append (.append ?_ (ofSources_directoryFailure hsource _ _))
      (.ite (.cons hsource .nil) .nil)
    intro record hrecord
    obtain ⟨own, hown, hmem⟩ := List.mem_flatten.mp hrecord
    obtain ⟨entry, -, hentry⟩ := exists_of_mapM hfound hown
    exact ofSources_scanEntry hentry record hmem

end Sources

end Sysal.SensorReader
