import Sysal.Model.Pci
import Sysal.Serialization.JsonValues

/-!
# PCI devices as JSON

`pci.cpp` of the serialization.
-/

namespace Sysal

open Json

def pciDeviceToJson (pd : PciDevice) : Json :=
  .object [
    ("address", some (pciAddressToJson pd.address)),
    ("vendor", some (.str pd.vendor)),
    ("device_name", some (.str pd.deviceName)),
    ("device_class", some (.str pd.deviceClass)),
    ("numa_node", pd.numaNode.map .ofUInt32),
    ("physical_slot", nonempty pd.physicalSlot),
    ("firmware_label", nonempty pd.firmwareLabel),
    ("current_link_speed", nonempty pd.currentLinkSpeed),
    ("max_link_speed", nonempty pd.maxLinkSpeed),
    ("current_link_width", pd.currentLinkWidth.map .ofUInt32),
    ("max_link_width", pd.maxLinkWidth.map .ofUInt32),
    ("upstream_address", pd.upstreamAddress.map pciAddressToJson),
    ("physical_function", pd.physicalFunction.map pciAddressToJson),
    ("driver_name", nonempty pd.driverName),
    ("local_cpus", nonemptyArray (pd.localCpus.map .ofUInt32)),
    ("maximum_virtual_functions", pd.maximumVirtualFunctions.map .ofUInt32),
    ("enabled_virtual_functions", pd.enabledVirtualFunctions.map .ofUInt32)]

def pciDeviceFromJson (j : Json) : Decode PciDevice := do
  return {
    address := ← j.read pciAddressFromJson "address"
    vendor := ← j.read getString "vendor"
    deviceName := ← j.read getString "device_name"
    deviceClass := ← j.read getString "device_class"
    numaNode := ← j.readOptional (uint32FromJson "numa_node") "numa_node"
    physicalSlot := ← j.readDefault getString [] "physical_slot"
    firmwareLabel := ← j.readDefault getString [] "firmware_label"
    currentLinkSpeed := ← j.readDefault getString [] "current_link_speed"
    maxLinkSpeed := ← j.readDefault getString [] "max_link_speed"
    currentLinkWidth := ← j.readOptional (uint32FromJson "current_link_width") "current_link_width"
    maxLinkWidth := ← j.readOptional (uint32FromJson "max_link_width") "max_link_width"
    upstreamAddress := ← j.readOptional pciAddressFromJson "upstream_address"
    physicalFunction := ← j.readOptional pciAddressFromJson "physical_function"
    driverName := ← j.readDefault getString [] "driver_name"
    localCpus := ← j.readOr (readArray (uint32FromJson "PCI local CPU")) [] "local_cpus"
    maximumVirtualFunctions :=
      ← j.readOptional (uint32FromJson "PCI maximum VFs") "maximum_virtual_functions"
    enabledVirtualFunctions :=
      ← j.readOptional (uint32FromJson "PCI enabled VFs") "enabled_virtual_functions" }

structure PciDevice.InRange (pd : PciDevice) : Prop where
  address : pd.address.InRange
  upstreamAddress : ∀ a ∈ pd.upstreamAddress, a.InRange
  physicalFunction : ∀ a ∈ pd.physicalFunction, a.InRange

theorem pciDeviceFromJson_toJson {pd : PciDevice} (h : pd.InRange) :
    pciDeviceFromJson (pciDeviceToJson pd) = .ok pd := by
  have haddress := pciAddressFromJson_toJson h.address
  have hupstream := readPresent_pciAddress h.upstreamAddress
  have hfunction := readPresent_pciAddress h.physicalFunction
  simp [pciDeviceFromJson, pciDeviceToJson, haddress, hupstream, hfunction,
    readPresent_nonemptyArray]

def pciToJson (p : Pci) : Json :=
  .object [("devices", some (.array (p.devices.map pciDeviceToJson)))]

def pciFromJson (j : Json) : Decode Pci := do
  return { devices := ← j.read (readItems pciDeviceFromJson) "devices" }

def Pci.InRange (p : Pci) : Prop := ∀ pd ∈ p.devices, pd.InRange

/-- The PCI devices come back from their JSON value. -/
theorem pciFromJson_toJson {p : Pci} (h : p.InRange) : pciFromJson (pciToJson p) = .ok p := by
  have hdevices := readItems_map fun pd hpd => pciDeviceFromJson_toJson (h pd hpd)
  simp [pciFromJson, pciToJson, hdevices]

end Sysal
