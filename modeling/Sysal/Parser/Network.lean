import Mathlib.Data.List.Lookmap
import Sysal.Parser.Rdma

/-!
# The network parser

`network.cpp` and `network_details.cpp`: the interfaces below `/sys/class/net` with their addresses,
what `ethtool` reports of them, and the VLAN table.
-/

namespace Sysal.NetworkParser

open Sysal Std

/-! ### Interfaces -/

/-- `extract_interface_name_from_path`; a path elsewhere has the empty name. -/
def extractInterfaceNameFromPath (path : Bytes) : Bytes :=
  match Bytes.after path (utf8 "/sys/class/net/") with
  | some rest => rest.takeWhile (· ≠ 47)
  | none => []

/-- `parse_interface_state`. -/
def parseInterfaceState (state : Bytes) : InterfaceState :=
  if trim state = utf8 "up" then .up
  else if trim state = utf8 "down" then .down
  else .unknown

/-- `"0"` and `"1"`. -/
def parseBit (value : Bytes) : Option Bool :=
  if value = utf8 "0" then some false
  else if value = utf8 "1" then some true
  else none

/-- Megabits per second as bits per second; zero is no speed. -/
def parseSpeed (payload : Bytes) : Option Bandwidth :=
  ((parseUint (trim payload)).filter (0 < ·)).bind (mulChecked 1000000)

/-- One attribute of an interface. -/
def readInterfaceFile (iface : NetworkInterface) (filename payload : Bytes) : NetworkInterface :=
  let value := trim payload
  if filename = utf8 "address" then { iface with mac := value }
  else if filename = utf8 "operstate" then { iface with state := parseInterfaceState payload }
  else if filename = utf8 "speed" then
    { iface with speed := (parseSpeed payload).or iface.speed }
  else if filename = utf8 "mtu" then
    { iface with
      mtu := (((parseUint value).filter (0 < ·)).map UInt64.ofNat).or iface.mtu }
  else if filename = utf8 "carrier" then
    { iface with carrier := (parseBit value).or iface.carrier }
  else if filename = utf8 "duplex" then
    { iface with
      duplex := if value = utf8 "full" ∨ value = utf8 "half" then value else iface.duplex }
  else if filename = utf8 "driver" then { iface with driver := hardwareText payload }
  else if filename = utf8 "phys_port_name" then
    { iface with physicalPortName := hardwareText payload }
  else if filename = utf8 "numa_node" then
    { iface with numaNode := (parseUint32 value).or iface.numaNode }
  else if filename = utf8 "ifindex" then
    { iface with interfaceIndex := (parseUint32 value).or iface.interfaceIndex }
  else if filename = utf8 "master" then { iface with master := some value }
  else if filename = utf8 "lower_interfaces" then
    { iface with
      lowerInterfaces := iface.lowerInterfaces ++ (split payload 10).filter (· ≠ []) }
  else if filename = utf8 "kind" then { iface with interfaceKind := value }
  else if filename = utf8 "mode" then { iface with bondMode := value }
  else if filename = utf8 "device" then
    { iface with pciAddress := (lastPciAddress value).or iface.pciAddress }
  else iface

/-- The records by interface, and the warnings about paths without a name. -/
structure InterfaceScan where
  groups : TreeMap Bytes (List RawEvidence) compare := ∅
  warnings : List Bytes := []

/-- One record of the grouping. -/
def groupInterface (s : InterfaceScan) (record : RawEvidence) : InterfaceScan :=
  let name := extractInterfaceNameFromPath record.pathOrCommand
  if name.isEmpty then
    { s with warnings := s.warnings ++
        [utf8 "parse_network: 无法从路径提取接口名: " ++ record.pathOrCommand] }
  else { s with groups := upsert s.groups name (· ++ [record]) }

/-! ### Addresses -/

/-- The addresses by interface, and the warnings about lines without one. -/
structure AddressScan where
  addresses : TreeMap Bytes (List Bytes) compare := ∅
  warnings : List Bytes := []

/-- One line `interface address`. -/
def scanAddressLine (s : AddressScan) (line : Bytes) : AddressScan :=
  if line.isEmpty then s
  else
    match Bytes.cut line 32 with
    | none =>
        { s with warnings := s.warnings ++ [utf8 "parse_network: IfAddrs 行无空格分隔: " ++ line] }
    | some (left, right) =>
        if (trim left).isEmpty ∨ (trim right).isEmpty then
          { s with warnings := s.warnings ++
              [utf8 "parse_network: IfAddrs 行接口名或 IP 为空: " ++ line] }
        else { s with addresses := upsert s.addresses (trim left) (· ++ [trim right]) }

/-- One record of addresses. -/
def scanAddresses (s : AddressScan) (record : RawEvidence) : AddressScan :=
  if record.payload.isEmpty then s else (split record.payload 10).foldl scanAddressLine s

/-- An interface from its records. -/
def buildInterface (addresses : TreeMap Bytes (List Bytes) compare) (name : Bytes)
    (records : List RawEvidence) : NetworkInterface :=
  let iface := records.foldl (fun iface record =>
      readInterfaceFile iface (extractFilename record.pathOrCommand) record.payload)
    { name := name, visibleToCurrentProcess := true }
  { iface with addresses := iface.addresses ++ addresses.getD name [] }

/-! ### `ethtool` -/

/-- The lists of link modes. -/
inductive LinkModes where
  | supported | advertised | peer
  deriving DecidableEq

/-- The list that a key opens. -/
def linkModes (key : Bytes) : Option LinkModes :=
  if key = utf8 "Supported link modes" then some .supported
  else if key = utf8 "Advertised link modes" then some .advertised
  else if key = utf8 "Link partner advertised link modes" then some .peer
  else none

/-- The new modes among the words of a text; a mode has a slash. -/
def appendModes (modes : List Bytes) (text : Bytes) : List Bytes :=
  (words text).foldl
    (fun modes mode => if 47 ∈ mode ∧ mode ∉ modes then modes ++ [mode] else modes) modes

/-- The words of a text go to a list of link modes. -/
def addModes (iface : NetworkInterface) (text : Bytes) : Option LinkModes → NetworkInterface
  | some .supported =>
      { iface with supportedLinkModes := appendModes iface.supportedLinkModes text }
  | some .advertised =>
      { iface with advertisedLinkModes := appendModes iface.advertisedLinkModes text }
  | some .peer => { iface with peerLinkModes := appendModes iface.peerLinkModes text }
  | none => iface

/-- A key with a value of its own. -/
def readEthtoolKey (iface : NetworkInterface) (key value : Bytes) : NetworkInterface :=
  if key = utf8 "firmware-version" then { iface with firmwareVersion := hardwareText value }
  else if key = utf8 "version" then { iface with driverVersion := hardwareText value }
  else if key = utf8 "Auto-negotiation" ∧ (value = utf8 "on" ∨ value = utf8 "off") then
    { iface with autonegotiation := some (decide (value = utf8 "on")) }
  else if key = utf8 "Permanent address" ∧ value.any (fun c => c ≠ 48 ∧ c ≠ 58) ∧ 58 ∈ value then
    -- A placeholder address of zeros is none.
    { iface with permanentMac := some value }
  else iface

/-- One line of the report; a line without a key continues the list of link modes. -/
def scanEthtoolLine (s : NetworkInterface × Option LinkModes) (line : Bytes) :
    NetworkInterface × Option LinkModes :=
  if 58 ∈ line then
    let (key, value) := parseKv line 58
    (addModes (readEthtoolKey s.1 key value) value (linkModes key), linkModes key)
  else (addModes s.1 (trim line) s.2, s.2)

/-- `parse_ethtool`. -/
def parseEthtool (iface : NetworkInterface) (payload : Bytes) : NetworkInterface :=
  ((split payload 10).foldl scanEthtoolLine (iface, none)).1

/-- The first interface with a name, changed. -/
def modifyInterface (interfaces : List NetworkInterface) (name : Bytes)
    (f : NetworkInterface → NetworkInterface) : List NetworkInterface :=
  interfaces.lookmap fun iface => if iface.name = name then some (f iface) else none

def ethtoolPrefix : Bytes := utf8 "ethtool/"

/-- One `ethtool` record; a partial one counts. -/
def applyEthtool (interfaces : List NetworkInterface) (record : RawEvidence) :
    List NetworkInterface :=
  if (record.status = .success ∨ record.status = .partial_) ∧
      record.pathOrCommand.startsWith ethtoolPrefix then
    modifyInterface interfaces
      ((record.pathOrCommand.drop ethtoolPrefix.length).takeWhile (· ≠ 47))
      (parseEthtool · record.payload)
  else interfaces

/-! ### VLANs -/

/-- One line of the VLAN table: name, number and parent. -/
def applyVlanLine (interfaces : List NetworkInterface) (line : Bytes) : List NetworkInterface :=
  match split line 124 with
  | [name, number, parent] =>
      match (parseUint number).filter (· ≤ 4095) with
      | none => interfaces
      | some id =>
          if (trim parent).isEmpty then interfaces
          else modifyInterface interfaces (trim name) fun iface =>
            { iface with
              interfaceKind := utf8 "vlan"
              vlanId := some (UInt32.ofNat id)
              vlanParent := some (trim parent) }
  | _ => interfaces

/-- `apply_network_details`. -/
def applyNetworkDetails (raw : EvidenceStore) (interfaces : List NetworkInterface) :
    List NetworkInterface :=
  (raw.successes .procNetVlan).foldl
    (fun interfaces record => (split record.payload 10).foldl applyVlanLine interfaces)
    ((raw.getAll .ethtool).foldl applyEthtool interfaces)

/-! ### The parser -/

/-- `parse_network`: the network if there is any evidence for it, and the warnings. -/
def parseNetwork (raw : EvidenceStore) : Option Network × List Bytes :=
  if !raw.hasSource .sysfsNet && !raw.hasSource .sysfsRdma &&
      (raw.enumeration .networkInterfaces).isNone then
    (none, [utf8 "parse_network: 缺少 SysfsNet 数据"])
  else
    let scan := (raw.successes .sysfsNet).foldl groupInterface {}
    let addresses := (raw.successes .ifAddrs).foldl scanAddresses {}
    let interfaces := scan.groups.toList.map fun group =>
      buildInterface addresses.addresses group.1 group.2
    (some
      { interfaces := applyNetworkDetails raw interfaces
        rdma := RdmaParser.parseRdma raw },
      scan.warnings ++ addresses.warnings)

end Sysal.NetworkParser
