import Sysal.Model.Network
import Sysal.Serialization.JsonValues

/-!
# Network interfaces and RDMA devices as JSON

`network.cpp` and `rdma.cpp` of the serialization.  The RDMA inventory of a document without one is
the one that was not collected; a document with a status overwrites its failure.
-/

namespace Sysal

open Json

/-! ### RDMA -/

instance : CEnum.IsLast RdmaPortState.activeDeferred := ⟨rfl⟩
instance : CEnum.IsLast RdmaPhysicalState.phyTest := ⟨rfl⟩
instance : CEnum.IsLast RdmaLinkLayer.ethernet := ⟨rfl⟩
instance : CEnum.IsLast RdmaNodeType.usnicUdp := ⟨rfl⟩
instance : CEnum.IsLast InterfaceState.unknown := ⟨rfl⟩

/-- `enumeration`: an enumerator straight from a checked number. -/
def rdmaEnumFromJson {α : Type} [CEnum α] (maximum : α) (j : Json) : Decode α :=
  castEnumFromJson maximum "RDMA enum" j

@[simp] theorem rdmaEnumFromJson_ofEnum {α : Type} [CEnum α] (maximum : α) [CEnum.IsLast maximum]
    (a : α) : rdmaEnumFromJson maximum (.ofEnum a) = .ok a :=
  castEnumFromJson_ofEnum maximum _ a

/-- `optional_integer` for the fields of fewer than eight bits. -/
def smallFromJson (maximum : ℕ) (key : String) (j : Json) : Decode UInt8 :=
  (checkedUnsigned maximum key j).map UInt8.ofNat

theorem smallFromJson_ofUInt8 {maximum : ℕ} (key : String) {x : UInt8} (h : x.toNat ≤ maximum) :
    smallFromJson maximum key (.ofUInt8 x) = .ok x := by
  rw [smallFromJson, checkedUnsigned_of_asInt (asInt_ofUInt8 x) h, map_ok, UInt8.ofNat_toNat]

def portToJson (port : RdmaPort) : Json :=
  .object [
    ("number", some (.ofUInt32 port.number)),
    ("state", some (.ofEnum port.state)),
    ("physical_state", some (.ofEnum port.physicalState)),
    ("link_layer", some (.ofEnum port.linkLayer)),
    ("rate_report", some (.str port.rateReport)),
    ("network_interfaces", some (strings port.networkInterfaces)),
    ("rate", port.rate.map .ofUInt64),
    ("lid", port.lid.map .ofUInt32),
    ("subnet_manager_lid", port.subnetManagerLid.map .ofUInt32),
    ("subnet_manager_sl", port.subnetManagerSl.map .ofUInt8),
    ("lid_mask_count", port.lidMaskCount.map .ofUInt8),
    ("capability_mask", port.capabilityMask.map .ofUInt32)]

def portFromJson (j : Json) : Decode RdmaPort := do
  return {
    number := ← j.read (uint32FromJson "RDMA port") "number"
    state := ← j.readOr (rdmaEnumFromJson RdmaPortState.activeDeferred) .unknown "state"
    physicalState := ← j.readOr (rdmaEnumFromJson RdmaPhysicalState.phyTest) .unknown "physical_state"
    linkLayer := ← j.readOr (rdmaEnumFromJson RdmaLinkLayer.ethernet) .unknown "link_layer"
    rateReport := ← j.readDefault getString [] "rate_report"
    rate := ← j.readOptional (uint64FromJson "rate") "rate"
    lid := ← j.readOptional (uint32FromJson "lid") "lid"
    subnetManagerLid := ← j.readOptional (uint32FromJson "subnet_manager_lid") "subnet_manager_lid"
    subnetManagerSl := ← j.readOptional (smallFromJson 15 "subnet_manager_sl") "subnet_manager_sl"
    lidMaskCount := ← j.readOptional (smallFromJson 7 "lid_mask_count") "lid_mask_count"
    capabilityMask := ← j.readOptional (uint32FromJson "capability_mask") "capability_mask"
    networkInterfaces := ← j.readOr (readArray getString) [] "network_interfaces" }

structure RdmaPort.InRange (port : RdmaPort) : Prop where
  subnetManagerSl : ∀ x ∈ port.subnetManagerSl, x.toNat ≤ 15
  lidMaskCount : ∀ x ∈ port.lidMaskCount, x.toNat ≤ 7

theorem portFromJson_toJson {port : RdmaPort} (h : port.InRange) :
    portFromJson (portToJson port) = .ok port := by
  have hsl := readPresent_map fun x hx =>
    smallFromJson_ofUInt8 "subnet_manager_sl" (h.subnetManagerSl x hx)
  have hlmc := readPresent_map fun x hx =>
    smallFromJson_ofUInt8 "lid_mask_count" (h.lidMaskCount x hx)
  simp [portFromJson, portToJson, hsl, hlmc]

def rdmaDeviceToJson (device : RdmaDevice) : Json :=
  .object [
    ("id", some (.ofUInt32 device.id)),
    ("name", some (.str device.name)),
    ("node_type", some (.ofEnum device.nodeType)),
    ("description", some (.str device.description)),
    ("node_guid", some (.str device.nodeGuid)),
    ("system_image_guid", some (.str device.systemImageGuid)),
    ("firmware_version", some (.str device.firmwareVersion)),
    ("driver", some (.str device.driver)),
    ("vendor", some (.str device.vendor)),
    ("device_name", some (.str device.deviceName)),
    ("network_interfaces", some (strings device.networkInterfaces)),
    ("ports", some (.array (device.ports.map portToJson))),
    ("pci_address", device.pciAddress.map pciAddressToJson),
    ("numa_node", device.numaNode.map .ofUInt32)]

def rdmaDeviceFromJson (j : Json) : Decode RdmaDevice := do
  return {
    id := ← j.read (uint32FromJson "RDMA id") "id"
    name := ← j.read getString "name"
    nodeType := ← j.readOr (rdmaEnumFromJson RdmaNodeType.usnicUdp) .unknown "node_type"
    description := ← j.readDefault getString [] "description"
    nodeGuid := ← j.readDefault getString [] "node_guid"
    systemImageGuid := ← j.readDefault getString [] "system_image_guid"
    firmwareVersion := ← j.readDefault getString [] "firmware_version"
    driver := ← j.readDefault getString [] "driver"
    vendor := ← j.readDefault getString [] "vendor"
    deviceName := ← j.readDefault getString [] "device_name"
    pciAddress := ← j.readOptional pciAddressFromJson "pci_address"
    numaNode := ← j.readOptional (uint32FromJson "RDMA NUMA") "numa_node"
    networkInterfaces := ← j.readOr (readArray getString) [] "network_interfaces"
    ports := ← j.readOr (readArray portFromJson) [] "ports" }

structure RdmaDevice.InRange (device : RdmaDevice) : Prop where
  pciAddress : ∀ a ∈ device.pciAddress, a.InRange
  ports : ∀ port ∈ device.ports, port.InRange

theorem rdmaDeviceFromJson_toJson {device : RdmaDevice} (h : device.InRange) :
    rdmaDeviceFromJson (rdmaDeviceToJson device) = .ok device := by
  have hpci := readPresent_pciAddress h.pciAddress
  have hports := readArray_map fun port hport => portFromJson_toJson (h.ports port hport)
  simp [rdmaDeviceFromJson, rdmaDeviceToJson, hpci, hports]

def rdmaInventoryToJson (inventory : RdmaInventory) : Json :=
  .object [
    ("status", some (.ofEnum inventory.status)),
    ("devices", some (.array (inventory.devices.map rdmaDeviceToJson))),
    ("failure", inventory.failure.map .ofEnum)]

/-- The status and the failure, which only a document without a status leaves at its default. -/
def rdmaStatusFromJson (j : Json) : Decode (CollectStatus × Option ReadFailure) := do
  let status ← j.readOptional (rdmaEnumFromJson CollectStatus.notCollected) "status"
  let failure ← j.readOptional (rdmaEnumFromJson ReadFailure.lowPower) "failure"
  return match status with
    | some status => (status, failure)
    | none => (.notCollected, failure.or (some .notProvided))

def rdmaInventoryFromJson (j : Json) : Decode RdmaInventory := do
  let (status, failure) ← rdmaStatusFromJson j
  let devices ← j.readOr (readArray rdmaDeviceFromJson) [] "devices"
  return { status, failure, devices }

def RdmaInventory.InRange (inventory : RdmaInventory) : Prop :=
  ∀ device ∈ inventory.devices, device.InRange

theorem rdmaInventoryFromJson_toJson {inventory : RdmaInventory} (h : inventory.InRange) :
    rdmaInventoryFromJson (rdmaInventoryToJson inventory) = .ok inventory := by
  have hdevices := readArray_map fun device hd => rdmaDeviceFromJson_toJson (h device hd)
  simp [rdmaInventoryFromJson, rdmaInventoryToJson, rdmaStatusFromJson, hdevices]

/-! ### Interfaces -/

def netIfaceToJson (ni : NetworkInterface) : Json :=
  .object [
    ("name", some (.str ni.name)),
    ("mac", some (.str ni.mac)),
    ("state", some (.ofEnum ni.state)),
    ("visible_to_current_process", some (.bool ni.visibleToCurrentProcess)),
    ("speed", ni.speed.map .ofUInt64),
    ("addresses", some (strings ni.addresses)),
    ("pci_address", ni.pciAddress.map pciAddressToJson),
    ("duplex", nonempty ni.duplex),
    ("driver", nonempty ni.driver),
    ("physical_port_name", nonempty ni.physicalPortName),
    ("mtu", ni.mtu.map .ofUInt64),
    ("carrier", ni.carrier.map .bool),
    ("numa_node", ni.numaNode.map .ofUInt32),
    ("interface_index", ni.interfaceIndex.map .ofUInt32),
    ("vendor", nonempty ni.vendor),
    ("device_name", nonempty ni.deviceName),
    ("firmware_version", nonempty ni.firmwareVersion),
    ("driver_version", nonempty ni.driverVersion),
    ("interface_kind", nonempty ni.interfaceKind),
    ("bond_mode", nonempty ni.bondMode),
    ("permanent_mac", ni.permanentMac.map .str),
    ("autonegotiation", ni.autonegotiation.map .bool),
    ("master", ni.master.map .str),
    ("vlan_id", ni.vlanId.map .ofUInt32),
    ("vlan_parent", ni.vlanParent.map .str),
    ("lower_interfaces", nonemptyArray (ni.lowerInterfaces.map .str)),
    ("supported_link_modes", nonemptyArray (ni.supportedLinkModes.map .str)),
    ("advertised_link_modes", nonemptyArray (ni.advertisedLinkModes.map .str)),
    ("peer_link_modes", nonemptyArray (ni.peerLinkModes.map .str))]

def netIfaceFromJson (j : Json) : Decode NetworkInterface := do
  return {
    name := ← j.read getString "name"
    mac := ← j.read getString "mac"
    state := ← j.read (enumFromJson InterfaceState.unknown "state") "state"
    speed := ← j.readOptional (uint64FromJson "speed") "speed"
    addresses := ← j.readOr (readItems getString) [] "addresses"
    pciAddress := ← j.readOptional pciAddressFromJson "pci_address"
    visibleToCurrentProcess := ← j.read getBool "visible_to_current_process"
    duplex := ← j.readDefault getString [] "duplex"
    driver := ← j.readDefault getString [] "driver"
    physicalPortName := ← j.readDefault getString [] "physical_port_name"
    mtu := ← j.readOptional (uint64FromJson "mtu") "mtu"
    carrier := ← j.readOptional getBool "carrier"
    numaNode := ← j.readOptional (uint32FromJson "numa_node") "numa_node"
    interfaceIndex := ← j.readOptional (uint32FromJson "interface_index") "interface_index"
    vendor := ← j.readDefault getString [] "vendor"
    deviceName := ← j.readDefault getString [] "device_name"
    firmwareVersion := ← j.readDefault getString [] "firmware_version"
    driverVersion := ← j.readDefault getString [] "driver_version"
    interfaceKind := ← j.readDefault getString [] "interface_kind"
    bondMode := ← j.readDefault getString [] "bond_mode"
    permanentMac := ← j.readOptional getString "permanent_mac"
    autonegotiation := ← j.readOptional getBool "autonegotiation"
    master := ← j.readOptional getString "master"
    vlanId := ← j.readOptional (uint32FromJson "vlan_id") "vlan_id"
    vlanParent := ← j.readOptional getString "vlan_parent"
    lowerInterfaces := ← j.readOr (readItems getString) [] "lower_interfaces"
    supportedLinkModes := ← j.readOr (readItems getString) [] "supported_link_modes"
    advertisedLinkModes := ← j.readOr (readItems getString) [] "advertised_link_modes"
    peerLinkModes := ← j.readOr (readItems getString) [] "peer_link_modes" }

def NetworkInterface.InRange (ni : NetworkInterface) : Prop := ∀ a ∈ ni.pciAddress, a.InRange

theorem netIfaceFromJson_toJson {ni : NetworkInterface} (h : ni.InRange) :
    netIfaceFromJson (netIfaceToJson ni) = .ok ni := by
  have hpci := readPresent_pciAddress h
  simp [netIfaceFromJson, netIfaceToJson, hpci]

def networkToJson (n : Network) : Json :=
  .object [
    ("interfaces", some (.array (n.interfaces.map netIfaceToJson))),
    ("rdma", some (rdmaInventoryToJson n.rdma))]

def networkFromJson (j : Json) : Decode Network := do
  return {
    interfaces := ← j.read (readItems netIfaceFromJson) "interfaces"
    rdma := ← j.readOr rdmaInventoryFromJson {} "rdma" }

structure Network.InRange (n : Network) : Prop where
  interfaces : ∀ ni ∈ n.interfaces, ni.InRange
  rdma : n.rdma.InRange

/-- The network comes back from its JSON value. -/
theorem networkFromJson_toJson {n : Network} (h : n.InRange) :
    networkFromJson (networkToJson n) = .ok n := by
  have hinterfaces := readItems_map fun ni hni => netIfaceFromJson_toJson (h.interfaces ni hni)
  have hrdma := rdmaInventoryFromJson_toJson h.rdma
  simp [networkFromJson, networkToJson, hinterfaces, hrdma]

end Sysal
