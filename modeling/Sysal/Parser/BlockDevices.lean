import Sysal.Foundation.FixedWidth
import Sysal.Foundation.OrderedContainers
import Sysal.Model.Storage
import Sysal.Parser.ParseUtils

/-!
# Block devices

The device loop of `storage.cpp`: the attributes below `/sys/block` and `/sys/class/block`, grouped by
device, with the deprecated names of `storage_compatibility.cpp`.
-/

namespace Sysal.StorageParser

open Sysal Std

/-- The attributes of a device by file name. -/
abbrev Attributes := TreeMap Bytes Bytes compare

/-- `extract_device_name`; a path elsewhere has the empty name. -/
def extractDeviceName (path : Bytes) : Bytes :=
  let directory := if path.startsWith (utf8 "/sys/class/block/") then utf8 "/sys/class/block/"
    else utf8 "/sys/block/"
  match Bytes.after path directory with
  | some rest => rest.takeWhile (· ≠ 47)
  | none => []

/-- One record: the attributes are grouped by device, a repeated one replaces the one before. -/
def groupAttribute (devices : TreeMap Bytes Attributes compare) (record : RawEvidence) :
    TreeMap Bytes Attributes compare :=
  let name := extractDeviceName record.pathOrCommand
  if name.isEmpty then devices
  else upsert devices name fun attributes =>
    attributes.insert (extractFilename record.pathOrCommand) record.payload

/-- The attributes of every device of a store. -/
def deviceAttributes (raw : EvidenceStore) : TreeMap Bytes Attributes compare :=
  (raw.successes .sysfsBlock).foldl groupAttribute ∅

/-! ### Attributes -/

/-- An attribute without the blanks around it, empty where there is none. -/
def trimmedAttribute (attributes : Attributes) (field : Bytes) : Bytes := trim (attributes.getD field [])

/-- A number of 512-byte sectors as bytes. -/
def parseSectors (payload : Bytes) : Option MemorySize :=
  (parseUint (trim payload)).bind (mulChecked 512)

/-- The text of the last of several attributes that has one. -/
def textAttribute (attributes : Attributes) (fields : List Bytes) : Bytes :=
  fields.foldl (fun before field =>
    let value := hardwareText (attributes.getD field [])
    if value.isEmpty then before else value) []

/-- A size in bytes. -/
def sizeAttribute (attributes : Attributes) (field : Bytes) : Option MemorySize :=
  (parseUint (trimmedAttribute attributes field)).map UInt64.ofNat

/-- `"0"` and `"1"`. -/
def flagAttribute (attributes : Attributes) (field : Bytes) : Option Bool :=
  if trimmedAttribute attributes field = utf8 "0" then some false
  else if trimmedAttribute attributes field = utf8 "1" then some true
  else none

/-- The active scheduler, between brackets. -/
def parseScheduler (payload : Bytes) : Bytes :=
  match (Bytes.cut payload 91).bind fun parts => Bytes.cut parts.2 93 with
  | some (scheduler, _) => scheduler
  | none => if trim payload = utf8 "none" then utf8 "none" else []

/-- The kernel block layer, from the attributes a device has. -/
def blockLayer (attributes : Attributes) (partitionNumber : Option UInt32) : BlockDeviceLayer :=
  let target := trimmedAttribute attributes (utf8 "device")
  if partitionNumber.isSome then .partition
  else if attributes.contains (utf8 "partition") then .unknown
  else if attributes.contains (utf8 "name") ∨ attributes.contains (utf8 "uuid") then .deviceMapper
  else if attributes.contains (utf8 "level") ∨ attributes.contains (utf8 "array_state") then .raid
  else if trimmedAttribute attributes (utf8 "loop_present") = utf8 "1" then .loop
  else if target.hasSub (utf8 "/virtual/") then .virtual
  else if target.isEmpty then .unknown
  else .device

/-! ### Deprecated names -/

/-- The layer under its former name. -/
def compatibilityLayer (device : StorageDevice) (target : Bytes) : Bytes :=
  if device.partitionNumber.isSome then utf8 "partition"
  else if device.mapperUuid ≠ [] ∨ device.mapperName ≠ [] then utf8 "device-mapper"
  else if device.raidLevel ≠ [] then utf8 "md"
  else if target.hasSub (utf8 "/virtual/") then utf8 "virtual"
  else if target.isEmpty then utf8 "unknown"
  else utf8 "disk"

/-- The names of devices without a kind. -/
def kindlessPrefixes : List Bytes :=
  [utf8 "loop", utf8 "ram", utf8 "sr", utf8 "dm-", utf8 "md", utf8 "zram", utf8 "fd"]

/-- The kind that a device name suggests. -/
def compatibilityKind (device : StorageDevice) : StorageKind :=
  if device.name.startsWith (utf8 "nvme") then .nvme
  else if kindlessPrefixes.any device.name.startsWith then .other
  else
    match device.rotational with
    | some true => .hdd
    | some false => .ssd
    | none => .other

/-- `apply_storage_compatibility`. -/
def applyStorageCompatibility (device : StorageDevice) (target : Bytes) : StorageDevice :=
  { device with layer := compatibilityLayer device target, kind := compatibilityKind device }

/-! ### Devices -/

/-- A device from its attributes, under a number. -/
def readBlockDevice (id : StorageId) (name : Bytes) (attributes : Attributes) : StorageDevice :=
  let partitionNumber := (parseUint32 (trimmedAttribute attributes (utf8 "partition"))).filter (0 < ·)
  let parent := trimmedAttribute attributes (utf8 "parent")
  let target := trimmedAttribute attributes (utf8 "device")
  applyStorageCompatibility
    { id := id
      name := name
      capacity := (attributes[utf8 "size"]?).bind parseSectors
      pciAddress := (attributes[utf8 "device"]?).bind lastPciAddress
      deviceNumber := parseDeviceNumber (trimmedAttribute attributes (utf8 "dev"))
      partitionNumber := partitionNumber
      parent := if parent.isEmpty then none else some parent
      slaves := (split (trimmedAttribute attributes (utf8 "slaves")) 10).filter (· ≠ [])
      mapperName := hardwareText (trimmedAttribute attributes (utf8 "name"))
      mapperUuid := hardwareText (trimmedAttribute attributes (utf8 "uuid"))
      raidLevel := hardwareText (trimmedAttribute attributes (utf8 "level"))
      raidState := hardwareText (trimmedAttribute attributes (utf8 "array_state"))
      raidDisks := parseUint32 (trimmedAttribute attributes (utf8 "raid_disks"))
      raidDegraded := parseUint32 (trimmedAttribute attributes (utf8 "degraded"))
      classification := { layer := blockLayer attributes partitionNumber }
      driver := hardwareText (trimmedAttribute attributes (utf8 "driver"))
      model := textAttribute attributes [utf8 "model"]
      vendor := textAttribute attributes [utf8 "vendor"]
      serial := textAttribute attributes [utf8 "serial"]
      firmwareRevision := textAttribute attributes [utf8 "rev", utf8 "firmware_rev"]
      wwid := textAttribute attributes [utf8 "wwid"]
      transport := textAttribute attributes [utf8 "transport"]
      logicalBlockSize := sizeAttribute attributes (utf8 "logical_block_size")
      physicalBlockSize := sizeAttribute attributes (utf8 "physical_block_size")
      minimumIoSize := sizeAttribute attributes (utf8 "minimum_io_size")
      optimalIoSize := sizeAttribute attributes (utf8 "optimal_io_size")
      rotational := flagAttribute attributes (utf8 "rotational")
      readOnly := flagAttribute attributes (utf8 "ro")
      removable := flagAttribute attributes (utf8 "removable")
      numaNode := parseUint32 (trimmedAttribute attributes (utf8 "numa_node"))
      scheduler := parseScheduler (attributes.getD (utf8 "scheduler") []) }
    target

/-- The warning about a size that is no number of sectors. -/
def sizeWarning (name : Bytes) (attributes : Attributes) : List Bytes :=
  match attributes[utf8 "size"]? with
  | none => []
  | some payload =>
      if (parseSectors payload).isSome then []
      else [utf8 "parse_storage: 块设备 " ++ name ++ utf8 " 的 size 解析失败: " ++ trim payload]

/-- The block devices in name order, numbered, and the warnings. -/
def blockDevices (raw : EvidenceStore) : List StorageDevice × List Bytes :=
  let devices := (deviceAttributes raw).toList
  (devices.zipIdx.map fun (device, id) => readBlockDevice (UInt32.ofNat id) device.1 device.2,
    devices.flatMap fun device => sizeWarning device.1 device.2)

end Sysal.StorageParser
