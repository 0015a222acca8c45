import Sysal.Model.Accelerator
import Sysal.Serialization.JsonValues

/-!
# Accelerators as JSON

`accelerator.cpp` of the serialization.
-/

namespace Sysal

open Json

instance : CEnum.IsLast AcceleratorKind.other := ⟨rfl⟩

def accelDeviceToJson (d : AcceleratorDevice) : Json :=
  .object [
    ("id", some (.ofUInt32 d.id)),
    ("kind", some (.ofEnum d.kind)),
    ("vendor", some (.str d.vendor)),
    ("name", some (.str d.name)),
    ("visible_to_current_process", some (.bool d.visibleToCurrentProcess)),
    ("pci_address", d.pciAddress.map pciAddressToJson),
    ("nearest_numa_node", d.nearestNumaNode.map .ofUInt32),
    ("memory_size", d.memorySize.map .ofUInt64),
    ("driver", d.driver.map .ofUInt32),
    ("uuid", d.uuid.map .str),
    ("parent_uuid", d.parentUuid.map .str),
    ("gpu_instance_id", d.gpuInstanceId.map .ofUInt32),
    ("compute_instance_id", d.computeInstanceId.map .ofUInt32)]

def accelDeviceFromJson (j : Json) : Decode AcceleratorDevice := do
  return {
    id := ← j.read (uint32FromJson "id") "id"
    kind := ← j.read (enumFromJson AcceleratorKind.other "kind") "kind"
    vendor := ← j.read getString "vendor"
    name := ← j.read getString "name"
    pciAddress := ← j.readOptional pciAddressFromJson "pci_address"
    nearestNumaNode := ← j.readOptional (uint32FromJson "nearest_numa_node") "nearest_numa_node"
    memorySize := ← j.readOptional (uint64FromJson "memory_size") "memory_size"
    driver := ← j.readOptional (uint32FromJson "driver") "driver"
    visibleToCurrentProcess := ← j.read getBool "visible_to_current_process"
    uuid := ← j.readOptional getString "uuid"
    parentUuid := ← j.readOptional getString "parent_uuid"
    gpuInstanceId := ← j.readOptional (uint32FromJson "gpu_instance_id") "gpu_instance_id"
    computeInstanceId :=
      ← j.readOptional (uint32FromJson "compute_instance_id") "compute_instance_id" }

def AcceleratorDevice.InRange (d : AcceleratorDevice) : Prop := ∀ a ∈ d.pciAddress, a.InRange

theorem accelDeviceFromJson_toJson {d : AcceleratorDevice} (h : d.InRange) :
    accelDeviceFromJson (accelDeviceToJson d) = .ok d := by
  have hpci := readPresent_pciAddress h
  simp [accelDeviceFromJson, accelDeviceToJson, hpci]

def acceleratorsToJson (a : Accelerators) : Json :=
  .object [("devices", some (.array (a.devices.map accelDeviceToJson)))]

def acceleratorsFromJson (j : Json) : Decode Accelerators := do
  return { devices := ← j.read (readItems accelDeviceFromJson) "devices" }

def Accelerators.InRange (a : Accelerators) : Prop := ∀ d ∈ a.devices, d.InRange

/-- The accelerators come back from their JSON value. -/
theorem acceleratorsFromJson_toJson {a : Accelerators} (h : a.InRange) :
    acceleratorsFromJson (acceleratorsToJson a) = .ok a := by
  have hdevices := readItems_map fun d hd => accelDeviceFromJson_toJson (h d hd)
  simp [acceleratorsFromJson, acceleratorsToJson, hdevices]

end Sysal
