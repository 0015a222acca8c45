import Sysal.Foundation.FixedWidth
import Sysal.Foundation.OrderedContainers
import Sysal.Model.Network
import Sysal.Parser.ParseUtils

/-!
# The RDMA parser

`rdma.cpp`: the devices below `/sys/class/infiniband` with their ports.
-/

namespace Sysal.RdmaParser

open Sysal Std

def root : Bytes := utf8 "/sys/class/infiniband"
def devicePrefix : Bytes := utf8 "/sys/class/infiniband/"

/-- `reported_enum`: the enumerator of the number before the first colon. -/
def reportedEnum (α : Type) [CEnum α] [Inhabited α] (payload : Bytes) : α :=
  ((parseUint (payload.takeWhile (· ≠ 58))).bind (CEnum.ofCode α)).getD default

/-- `append_interface`: names of interfaces, each one once; a path is no name. -/
def appendInterface (interfaces : List Bytes) (payload : Bytes) : List Bytes :=
  let name := trim payload
  if name.isEmpty ∨ 47 ∈ name ∨ name = utf8 "." ∨ name = utf8 ".." ∨ name ∈ interfaces then interfaces
  else interfaces ++ [name]

/-! ### Rates -/

/-- Bits per second of a gigabit per second. -/
def rateScale : ℕ := 1000000000

/-- The whole part of a decimal text and its decimals. -/
def decimalParts (text : Bytes) : Bytes × Option Bytes :=
  match Bytes.cut text 46 with
  | some (whole, decimals) => (whole, some decimals)
  | none => (text, none)

/-- At most nine decimals, as billionths. -/
def billionths (decimals : Bytes) : Option ℕ :=
  match parseUint decimals with
  | some value =>
      if 9 < decimals.length ∨ ¬decimals.all isDigit then none
      else some (value * 10 ^ (9 - decimals.length))
  | none => none

/-- The numbers in a rate report: gigabits, and billionths of one. -/
def rateNumbers (report : Bytes) : Option (ℕ × ℕ) := do
  let (text, _) ← Bytes.cutSub report (utf8 " Gb/sec")
  let whole ← parseUint (decimalParts text).1
  let fraction ← match (decimalParts text).2 with
    | some decimals => billionths decimals
    | none => some 0
  return (whole, fraction)

/-- `parse_rate`. -/
def parseRate (report : Bytes) : Option Bandwidth :=
  match rateNumbers report with
  | none => none
  | some (whole, fraction) =>
      if maxUInt64 / rateScale < whole ∨ maxUInt64 - whole * rateScale < fraction then none
      else some (UInt64.ofNat (whole * rateScale + fraction))

example : parseRate (utf8 "2.5 Gb/sec (1X SDR)") = some 2500000000 := by decide

/-! ### Ports -/

/-- A hexadecimal number of 32 bits, with or without `0x`. -/
def parseHex32 (payload : Bytes) : Option UInt32 :=
  let value := trim payload
  let digits := if value.startsWith (utf8 "0x") ∨ value.startsWith (utf8 "0X") then value.drop 2
    else value
  ((parseHex digits).filter (· ≤ maxUInt32)).map UInt32.ofNat

/-- A number up to a bound below 256. -/
def parseSmall (maximum : ℕ) (payload : Bytes) : Option UInt8 :=
  ((parseUint (trim payload)).filter (· ≤ maximum)).map UInt8.ofNat

/-- `parse_port`: one attribute of a port. -/
def parsePort (port : RdmaPort) (field payload : Bytes) : RdmaPort :=
  if field = utf8 "state" then { port with state := reportedEnum RdmaPortState payload }
  else if field = utf8 "phys_state" then
    { port with physicalState := reportedEnum RdmaPhysicalState payload }
  else if field = utf8 "link_layer" then
    { port with
      linkLayer :=
        if trim payload = utf8 "InfiniBand" then .infiniBand
        else if trim payload = utf8 "Ethernet" then .ethernet
        else port.linkLayer }
  else if field = utf8 "rate" then
    { port with rateReport := hardwareText payload, rate := parseRate (hardwareText payload) }
  else if field = utf8 "cap_mask" then
    { port with capabilityMask := (parseHex32 payload).or port.capabilityMask }
  else if field = utf8 "lid" then { port with lid := (parseHex32 payload).or port.lid }
  else if field = utf8 "sm_lid" then
    { port with subnetManagerLid := (parseHex32 payload).or port.subnetManagerLid }
  else if field = utf8 "sm_sl" then
    { port with subnetManagerSl := (parseSmall 15 payload).or port.subnetManagerSl }
  else if field = utf8 "lid_mask_count" then
    { port with lidMaskCount := (parseSmall 7 payload).or port.lidMaskCount }
  else if field.startsWith (utf8 "gid_attrs/ndevs/") ∧ (parseUint (field.drop 16)).isSome then
    { port with networkInterfaces := appendInterface port.networkInterfaces payload }
  else port

/-! ### Devices -/

/-- The state of the scan over the records of a device. -/
structure DeviceScan where
  device : RdmaDevice := {}
  ports : TreeMap UInt32 RdmaPort compare := ∅

/-- One attribute below `ports/`. -/
def scanPort (ports : TreeMap UInt32 RdmaPort compare) (tail payload : Bytes) :
    TreeMap UInt32 RdmaPort compare :=
  match parseUint32 (tail.takeWhile (· ≠ 47)) with
  | none => ports
  | some number =>
      upsert ports number fun port =>
        match Bytes.cut tail 47 with
        | some (_, field) => parsePort { port with number := number } field payload
        | none => { port with number := number }

/-- One attribute of a device. -/
def scanDeviceField (s : DeviceScan) (field payload : Bytes) : DeviceScan :=
  if field = utf8 "node_type" then
    { s with device := { s.device with nodeType := reportedEnum RdmaNodeType payload } }
  else if field = utf8 "node_guid" then
    { s with device := { s.device with nodeGuid := hardwareText payload } }
  else if field = utf8 "sys_image_guid" then
    { s with device := { s.device with systemImageGuid := hardwareText payload } }
  else if field = utf8 "node_desc" then
    { s with device := { s.device with description := hardwareText payload } }
  else if field = utf8 "fw_ver" then
    { s with device := { s.device with firmwareVersion := hardwareText payload } }
  else if field = utf8 "device/driver" then
    { s with device := { s.device with driver := extractFilename (trim payload) } }
  else if field = utf8 "sysfs_path" then
    { s with device := { s.device with
        pciAddress := (lastPciAddress (trim payload)).or s.device.pciAddress } }
  else if field.startsWith (utf8 "device/net/") ∧ 47 ∉ field.drop 11 then
    { s with device := { s.device with
        networkInterfaces := appendInterface s.device.networkInterfaces (field.drop 11) } }
  else if field.startsWith (utf8 "ports/") then
    { s with ports := scanPort s.ports (field.drop 6) payload }
  else s

/-- One record of a device; the record of its directory has no attribute. -/
def scanDeviceRecord (base : Bytes) (s : DeviceScan) (record : RawEvidence) : DeviceScan :=
  if record.pathOrCommand.length ≤ base.length then s
  else scanDeviceField s (record.pathOrCommand.drop (base.length + 1)) record.payload

/-- `parse_device`. -/
def parseDevice (name : Bytes) (records : List RawEvidence) (id : RdmaDeviceId) : RdmaDevice :=
  let s := records.foldl (scanDeviceRecord (devicePrefix ++ name))
    { device := { id := id, name := name } }
  { s.device with ports := s.device.ports ++ s.ports.toList.map Prod.snd }

/-! ### The inventory -/

/-- The name of the device a record belongs to. -/
def deviceName (record : RawEvidence) : Option Bytes :=
  if record.status = .success ∧ record.pathOrCommand.startsWith devicePrefix then
    some ((record.pathOrCommand.drop devicePrefix.length).takeWhile (· ≠ 47)) |>.filter fun name =>
      name ≠ [] ∧ name ≠ utf8 "." ∧ name ≠ utf8 ".."
  else none

/-- The records by the name of their device. -/
def groupRecord (devices : TreeMap Bytes (List RawEvidence) compare) (record : RawEvidence) :
    TreeMap Bytes (List RawEvidence) compare :=
  match deviceName record with
  | some name => upsert devices name (· ++ [record])
  | none => devices

/-- `parse_rdma`: the last record of the root directory has the status of the inventory. -/
def parseRdma (raw : EvidenceStore) : RdmaInventory :=
  let records := raw.getAll .sysfsRdma
  let devices := (records.foldl groupRecord ∅).toList.zipIdx.map fun (group, id) =>
    parseDevice group.1 group.2 (UInt32.ofNat id)
  match (records.filter (·.pathOrCommand = root)).getLast? with
  | some record => { status := record.status, failure := record.failure, devices := devices }
  | none => { devices := devices }

end Sysal.RdmaParser
