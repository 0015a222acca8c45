import Sysal.Foundation.OrderedContainers
import Sysal.Model.Pci
import Sysal.Parser.CpuDetails

/-!
# Reading the PCI devices

`pci.cpp`: the successful records below `/sys/bus/pci/devices` are grouped by directory name, a group
whose name is read as an address becomes a device, and the lines of `lspci` then name the devices of the
groups and add the devices that have no group.

* `readPciFile_address`: the files of a device do not change its address.
-/

namespace Sysal.PciParser

open Sysal Std

/-! ### Names -/

def pciDevicesDir : Bytes := utf8 "/sys/bus/pci/devices/"

/-- The directory name of a device; the empty one for a path elsewhere. -/
def extractPciAddressFromPath (path : Bytes) : Bytes :=
  if Bytes.startsWith path pciDevicesDir then
    (path.drop pciDevicesDir.length).takeWhile (· ≠ 47)
  else []

/-- An address of `lspci` without a domain is one of domain zero. -/
def normalizeLspciAddress (addrRaw : Bytes) : Bytes :=
  match Bytes.cut addrRaw 58 with
  | some (_, rest) => if 58 ∈ rest then addrRaw else utf8 "0000:" ++ addrRaw
  | none => utf8 "0000:" ++ addrRaw

/-- The name in front of the last bracket, which has to hold a pair of numbers. -/
def lspciName (tail : Bytes) : Option Bytes := do
  let (beforeBracket, afterBracket) ← Bytes.rcut tail 91
  let (inner, _) ← Bytes.cut afterBracket 93
  let (vendor, device) ← Bytes.cut inner 58
  let _ ← parseHex vendor
  let _ ← parseHex device
  let name := trim beforeBracket
  if name.isEmpty then none else some name

/-- One line of `lspci -nn`: the normalised address and the name. -/
def parseLspciLine (line : Bytes) : Option (Bytes × Bytes) := do
  let (addrRaw, rest) ← Bytes.cut (trim line) 32
  let addrStr := normalizeLspciAddress addrRaw
  let _ ← parsePciAddress addrStr
  let (_, tail) ← Bytes.cutSub rest (utf8 "]: ")
  let name ← lspciName tail
  return (addrStr, name)

example : parseLspciLine (utf8 "41:00.0 VGA [0300]: NVIDIA GP102 [GTX 1080] [10de:1b06] (rev a1)") =
    some (utf8 "0000:41:00.0", utf8 "NVIDIA GP102 [GTX 1080]") := by decide +kernel

/-! ### One device -/

/-- A link width; zero and 255 stand for an unknown one. -/
def linkWidth (payload : Bytes) : Option UInt32 :=
  (parseUint32 (trim payload)).filter fun number => 0 < number ∧ number ≠ 0xff

/-- The parent directory in the resolved path of the device at an address. -/
def upstreamAddress (dev : PciDevice) (payload : Bytes) : Option PciAddress :=
  match (split (trim payload) 47).reverse with
  | last :: parent :: _ =>
      if parsePciAddress last = some dev.address then parsePciAddress parent else dev.upstreamAddress
  | _ => dev.upstreamAddress

/-- The node of a device and what is reported about it; `-1` is no node. -/
def readNumaNode (dev : PciDevice) (payload : Bytes) : PciDevice × List Bytes :=
  match parseUint32 (trim payload) with
  | some node => ({ dev with numaNode := some node }, [])
  | none =>
      if trim payload = utf8 "-1" then ({ dev with numaNode := none }, [])
      else (dev, [utf8 "parse_pci: numa_node 值解析失败: " ++ trim payload])

/-- One file of a device, the node apart. -/
def readPciField (dev : PciDevice) (filename payload : Bytes) : PciDevice :=
  if filename = utf8 "vendor" then { dev with vendor := trim payload }
  else if filename = utf8 "device" then { dev with deviceName := trim payload }
  else if filename = utf8 "class" then { dev with deviceClass := trim payload }
  else if filename = utf8 "physical_slot" then { dev with physicalSlot := hardwareText payload }
  else if filename = utf8 "label" then { dev with firmwareLabel := hardwareText payload }
  else if filename = utf8 "sysfs_path" then
    { dev with upstreamAddress := upstreamAddress dev payload }
  else if filename = utf8 "physfn" then
    { dev with physicalFunction := parsePciAddress (extractFilename (trim payload)) }
  else if filename = utf8 "driver" then { dev with driverName := extractFilename (trim payload) }
  else if filename = utf8 "local_cpulist" then
    { dev with localCpus := (CpuDetails.parseCpuIdList payload).getD dev.localCpus }
  else if filename = utf8 "sriov_totalvfs" then
    { dev with
      maximumVirtualFunctions := (parseUint32 (trim payload)).or dev.maximumVirtualFunctions }
  else if filename = utf8 "sriov_numvfs" then
    { dev with
      enabledVirtualFunctions := (parseUint32 (trim payload)).or dev.enabledVirtualFunctions }
  else if filename = utf8 "current_link_speed" then
    { dev with currentLinkSpeed := hardwareText payload }
  else if filename = utf8 "max_link_speed" then { dev with maxLinkSpeed := hardwareText payload }
  else if filename = utf8 "current_link_width" then
    { dev with currentLinkWidth := (linkWidth payload).or dev.currentLinkWidth }
  else if filename = utf8 "max_link_width" then
    { dev with maxLinkWidth := (linkWidth payload).or dev.maxLinkWidth }
  else dev

/-- One file of a device, and what is reported about it. -/
def readPciFile (dev : PciDevice) (record : RawEvidence) : PciDevice × List Bytes :=
  let filename := extractFilename record.pathOrCommand
  if filename = utf8 "numa_node" then readNumaNode dev record.payload
  else (readPciField dev filename record.payload, [])

/-- The files of a device one after the other. -/
def readPciFiles (dev : PciDevice) : List RawEvidence → PciDevice × List Bytes
  | [] => (dev, [])
  | record :: records =>
      let (dev', warnings) := readPciFile dev record
      let (dev'', warnings') := readPciFiles dev' records
      (dev'', warnings ++ warnings')

/-- Equality in the address and the node. -/
structure SamePlace (dev other : PciDevice) : Prop where
  address : dev.address = other.address
  numaNode : dev.numaNode = other.numaNode

theorem SamePlace.ite {p : Prop} [Decidable p] {a b dev : PciDevice} (ha : SamePlace a dev)
    (hb : SamePlace b dev) : SamePlace (if p then a else b) dev := by
  split
  · exact ha
  · exact hb

theorem readPciField_samePlace (dev : PciDevice) (filename payload : Bytes) :
    SamePlace (readPciField dev filename payload) dev := by
  unfold readPciField
  repeat' apply SamePlace.ite
  all_goals exact ⟨rfl, rfl⟩

theorem readPciFile_address (dev : PciDevice) (record : RawEvidence) :
    (readPciFile dev record).1.address = dev.address := by
  simp only [readPciFile]
  split
  · rw [readNumaNode]
    split
    · rfl
    · split <;> rfl
  · exact (readPciField_samePlace dev _ _).address

theorem readPciFiles_address (dev : PciDevice) (records : List RawEvidence) :
    (readPciFiles dev records).1.address = dev.address := by
  induction records generalizing dev with
  | nil => rfl
  | cons record records ih => exact (ih _).trans (readPciFile_address dev record)

/-! ### The list of devices -/

/-- The devices so far, their positions by address text, and the warnings. -/
structure PciScan where
  devices : List PciDevice := []
  addrIndex : TreeMap Bytes ℕ compare := ∅
  warnings : List Bytes := []

/-- A device behind the others. -/
def PciScan.push (s : PciScan) (addrStr : Bytes) (dev : PciDevice) : PciScan :=
  { s with
    devices := s.devices ++ [dev]
    addrIndex := s.addrIndex.insert addrStr s.devices.length }

/-- The files of the devices by directory name. -/
def groupPciRecord (groups : TreeMap Bytes (List RawEvidence) compare) (record : RawEvidence) :
    TreeMap Bytes (List RawEvidence) compare :=
  upsert groups (extractPciAddressFromPath record.pathOrCommand) (· ++ [record])

/-- One directory. -/
def scanPciGroup (s : PciScan) (group : Bytes × List RawEvidence) : PciScan :=
  match parsePciAddress group.1 with
  | none =>
      { s with warnings := s.warnings ++ [utf8 "parse_pci: 无法解析 PCI 地址: " ++ group.1] }
  | some address =>
      let (dev, warnings) := readPciFiles { address := address } group.2
      { s with warnings := s.warnings ++ warnings }.push group.1 dev

/-- One line of `lspci`. -/
def scanLspciLine (s : PciScan) (line : Bytes) : PciScan :=
  match parseLspciLine line with
  | none => s
  | some (addrStr, name) =>
      match s.addrIndex[addrStr]? with
      | some index =>
          { s with devices := s.devices.modify index fun dev => { dev with deviceName := name } }
      | none =>
          match parsePciAddress addrStr with
          | none => s
          | some address =>
              { s with
                warnings := s.warnings ++
                  [utf8 "parse_pci: lspci 独有设备 " ++ addrStr ++ utf8 "，sysfs 数据缺失"] }.push
                addrStr { address := address, deviceName := name }

/-- The devices of sysfs. -/
def scanSysfs (raw : EvidenceStore) : PciScan :=
  ((raw.successes .sysfsPci).foldl groupPciRecord ∅).toList.foldl scanPciGroup {}

/-- The lines of `lspci`. -/
def lspciLines (raw : EvidenceStore) : List Bytes :=
  (raw.successes .lspci).flatMap fun record => split record.payload 10

/-- `parse_pci`: the devices, if there is evidence about them, and the warnings. -/
def parsePci (raw : EvidenceStore) : Option Pci × List Bytes :=
  if (raw.getAll .sysfsPci).isEmpty ∧ raw.enumeration .pciDevices = none then
    (none, [utf8 "parse_pci: 缺少 SysfsPci 数据"])
  else
    let s := (lspciLines raw).foldl scanLspciLine (scanSysfs raw)
    (some { devices := s.devices }, s.warnings)

end Sysal.PciParser
