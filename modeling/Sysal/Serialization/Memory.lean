import Sysal.Model.Memory
import Sysal.Serialization.JsonValues

/-!
# The memory subsystem as JSON

`memory.cpp` and `memory_topology.cpp` of the serialization.
-/

namespace Sysal

open Json

/-! ### EDAC topology -/

instance : CEnum.IsLast EdacLocationLayer.allMemory := ⟨rfl⟩
instance : CEnum.IsLast EdacMemoryDeviceKind.rank := ⟨rfl⟩
instance : CEnum.IsLast DimmEdacAssociation.labelAndCapacity := ⟨rfl⟩

def edacCoordinateToJson (coordinate : EdacLocationCoordinate) : Json :=
  .object [
    ("layer", some (.ofEnum coordinate.layer)),
    ("index", some (.ofUInt32 coordinate.index))]

def edacCoordinateFromJson (j : Json) : Decode EdacLocationCoordinate := do
  return {
    layer := ← j.read (castEnumFromJson EdacLocationLayer.allMemory "EDAC layer") "layer"
    index := ← j.read (uint32FromJson "EDAC coordinate") "index" }

@[simp] theorem edacCoordinateFromJson_toJson (c : EdacLocationCoordinate) :
    edacCoordinateFromJson (edacCoordinateToJson c) = .ok c := by
  simp [edacCoordinateFromJson, edacCoordinateToJson]

def edacLocationToJson (location : EdacLocation) : Json :=
  .object [
    ("report", some (.str location.report)),
    ("coordinates", some (.array (location.coordinates.map edacCoordinateToJson)))]

def edacLocationFromJson (j : Json) : Decode EdacLocation := do
  return {
    report := ← j.readDefault getString [] "report"
    coordinates := ← j.readOr (readArray edacCoordinateFromJson) [] "coordinates" }

@[simp] theorem edacLocationFromJson_toJson (location : EdacLocation) :
    edacLocationFromJson (edacLocationToJson location) = .ok location := by
  simp [edacLocationFromJson, edacLocationToJson]

def edacDeviceToJson (device : EdacMemoryDevice) : Json :=
  .object [
    ("controller_index", some (.ofUInt32 device.controllerIndex)),
    ("index", some (.ofUInt32 device.index)),
    ("kind", some (.ofEnum device.kind)),
    ("label", some (.str device.label)),
    ("location", some (edacLocationToJson device.location)),
    ("memory_type", some (.str device.memoryType)),
    ("edac_mode", some (.str device.edacMode)),
    ("device_width", some (.str device.deviceWidth)),
    ("size", device.size.map .ofUInt64),
    ("numa_node", device.numaNode.map .ofUInt32)]

def edacDeviceFromJson (j : Json) : Decode EdacMemoryDevice := do
  return {
    controllerIndex := ← j.read (uint32FromJson "EDAC controller") "controller_index"
    index := ← j.read (uint32FromJson "EDAC device") "index"
    kind := ← j.read (castEnumFromJson EdacMemoryDeviceKind.rank "EDAC device kind") "kind"
    label := ← j.readDefault getString [] "label"
    memoryType := ← j.readDefault getString [] "memory_type"
    edacMode := ← j.readDefault getString [] "edac_mode"
    deviceWidth := ← j.readDefault getString [] "device_width"
    location := ← j.readOr edacLocationFromJson {} "location"
    size := ← j.readOptional (uint64FromJson "EDAC size") "size"
    numaNode := ← j.readOptional (uint32FromJson "EDAC NUMA node") "numa_node" }

@[simp] theorem edacDeviceFromJson_toJson (device : EdacMemoryDevice) :
    edacDeviceFromJson (edacDeviceToJson device) = .ok device := by
  simp [edacDeviceFromJson, edacDeviceToJson]

/-! ### Controllers, nodes and modules -/

/-- The location limit of a controller is left out when nothing is known of it. -/
def maxLocationToJson (location : EdacLocation) : Option Json :=
  if location.report.isEmpty && location.coordinates.isEmpty then none
  else some (edacLocationToJson location)

@[simp] theorem readPresent_maxLocation (location : EdacLocation) :
    (readPresent edacLocationFromJson (maxLocationToJson location)).map (·.getD {}) =
      .ok location := by
  rcases location with ⟨_ | ⟨c, report⟩, _ | ⟨d, coordinates⟩⟩ <;>
    simp [maxLocationToJson]

def memoryControllerToJson (m : MemoryController) : Json :=
  .object [
    ("index", some (.ofUInt32 m.index)),
    ("name", some (.str m.name)),
    ("capacity", m.capacity.map .ofUInt64),
    ("corrected_errors", m.correctedErrors.map .ofUInt64),
    ("uncorrected_errors", m.uncorrectedErrors.map .ofUInt64),
    ("numa_node", m.numaNode.map .ofUInt32),
    ("pci_address", m.pciAddress.map pciAddressToJson),
    ("max_location", maxLocationToJson m.maxLocation)]

def memoryControllerFromJson (j : Json) : Decode MemoryController := do
  return {
    index := ← j.read (uint32FromJson "index") "index"
    name := ← j.readDefault getString [] "name"
    capacity := ← j.readOptional (uint64FromJson "capacity") "capacity"
    correctedErrors := ← j.readOptional (uint64FromJson "corrected_errors") "corrected_errors"
    uncorrectedErrors := ← j.readOptional (uint64FromJson "uncorrected_errors") "uncorrected_errors"
    numaNode := ← j.readOptional (uint32FromJson "numa_node") "numa_node"
    pciAddress := ← j.readOptional pciAddressFromJson "pci_address"
    maxLocation := ← j.readOr edacLocationFromJson {} "max_location" }

def MemoryController.InRange (m : MemoryController) : Prop := ∀ a ∈ m.pciAddress, a.InRange

theorem memoryControllerFromJson_toJson {m : MemoryController} (h : m.InRange) :
    memoryControllerFromJson (memoryControllerToJson m) = .ok m := by
  have hpci := readPresent_pciAddress h
  simp [memoryControllerFromJson, memoryControllerToJson, hpci]

def numaMemoryToJson (nm : NumaMemory) : Json :=
  .object [
    ("node", some (.ofUInt32 nm.node)),
    ("total", some (.ofUInt64 nm.total)),
    ("available", nm.available.map .ofUInt64),
    ("free", nm.free.map .ofUInt64)]

def numaMemoryFromJson (j : Json) : Decode NumaMemory := do
  return {
    node := ← j.read (uint32FromJson "node") "node"
    total := ← j.read (uint64FromJson "total") "total"
    available := ← j.readOptional (uint64FromJson "available") "available"
    free := ← j.readOptional (uint64FromJson "free") "free" }

@[simp] theorem numaMemoryFromJson_toJson (nm : NumaMemory) :
    numaMemoryFromJson (numaMemoryToJson nm) = .ok nm := by
  simp [numaMemoryFromJson, numaMemoryToJson]

/-- The association is left out when it is unknown. -/
def associationToJson (association : DimmEdacAssociation) : Option Json :=
  if association = .unknown then none else some (.ofEnum association)

@[simp] theorem readPresent_association (association : DimmEdacAssociation) :
    (readPresent (castEnumFromJson DimmEdacAssociation.labelAndCapacity "EDAC association")
      (associationToJson association)).map (·.getD .unknown) = .ok association := by
  cases association <;> simp [associationToJson]

def dimmInfoToJson (d : DimmInfo) : Json :=
  .object [
    ("locator", some (.str d.locator)),
    ("bank_locator", some (.str d.bankLocator)),
    ("size", some (.ofUInt64 d.size)),
    ("present", some (.bool d.present)),
    ("speed_mts", d.speedMts.map .ofUInt64),
    ("manufacturer", d.manufacturer.map .str),
    ("part_number", d.partNumber.map .str),
    ("rank", d.rank.map .ofUInt32),
    ("total_width", d.totalWidth.map .ofUInt32),
    ("data_width", d.dataWidth.map .ofUInt32),
    ("form_factor", d.formFactor.map .str),
    ("memory_type", nonempty d.memoryType),
    ("serial", nonempty d.serial),
    ("asset_tag", nonempty d.assetTag),
    ("type_detail", nonempty d.typeDetail),
    ("edac_mode", nonempty d.edacMode),
    ("device_width", nonempty d.deviceWidth),
    ("configured_speed_mts", d.configuredSpeedMts.map .ofUInt64),
    ("configured_voltage_mv", d.configuredVoltageMv.map .ofUInt64),
    ("controller_index", d.controllerIndex.map .ofUInt32),
    ("numa_node", d.numaNode.map .ofUInt32),
    ("edac_device_index", d.edacDeviceIndex.map .ofUInt32),
    ("edac_association", associationToJson d.edacAssociation)]

def dimmInfoFromJson (j : Json) : Decode DimmInfo := do
  return {
    locator := ← j.read getString "locator"
    bankLocator := ← j.read getString "bank_locator"
    size := ← j.read (uint64FromJson "size") "size"
    present := ← j.read getBool "present"
    speedMts := ← j.readOptional (uint64FromJson "speed_mts") "speed_mts"
    manufacturer := ← j.readOptional getString "manufacturer"
    partNumber := ← j.readOptional getString "part_number"
    rank := ← j.readOptional (uint32FromJson "rank") "rank"
    totalWidth := ← j.readOptional (uint32FromJson "total_width") "total_width"
    dataWidth := ← j.readOptional (uint32FromJson "data_width") "data_width"
    formFactor := ← j.readOptional getString "form_factor"
    memoryType := ← j.readDefault getString [] "memory_type"
    serial := ← j.readDefault getString [] "serial"
    assetTag := ← j.readDefault getString [] "asset_tag"
    typeDetail := ← j.readDefault getString [] "type_detail"
    edacMode := ← j.readDefault getString [] "edac_mode"
    deviceWidth := ← j.readDefault getString [] "device_width"
    configuredSpeedMts :=
      ← j.readOptional (uint64FromJson "configured_speed_mts") "configured_speed_mts"
    configuredVoltageMv :=
      ← j.readOptional (uint64FromJson "configured_voltage_mv") "configured_voltage_mv"
    controllerIndex := ← j.readOptional (uint32FromJson "controller_index") "controller_index"
    numaNode := ← j.readOptional (uint32FromJson "numa_node") "numa_node"
    edacDeviceIndex := ← j.readOptional (uint32FromJson "EDAC device index") "edac_device_index"
    edacAssociation :=
      ← j.readOr (castEnumFromJson DimmEdacAssociation.labelAndCapacity "EDAC association") .unknown
          "edac_association" }

@[simp] theorem dimmInfoFromJson_toJson (d : DimmInfo) :
    dimmInfoFromJson (dimmInfoToJson d) = .ok d := by
  simp [dimmInfoFromJson, dimmInfoToJson]

def memoryToJson (m : Memory) : Json :=
  .object [
    ("total_memory", some (.ofUInt64 m.totalMemory)),
    ("available_memory", m.availableMemory.map .ofUInt64),
    ("memory_type", nonempty m.memoryType),
    ("configured_speed_mts", m.configuredSpeedMts.map .ofUInt64),
    ("numa_memory", some (.array (m.numaMemory.map numaMemoryToJson))),
    ("dimms", some (.array (m.dimms.map dimmInfoToJson))),
    ("dimm_count", m.dimmCount.map .ofUInt32),
    ("populated_dimms", m.populatedDimms.map .ofUInt32),
    ("dimm_inventory_source", nonempty m.dimmInventorySource),
    ("reported_slot_count", m.reportedSlotCount.map .ofUInt32),
    ("reported_slots_complete", m.reportedSlotsComplete.map .bool),
    ("controllers", nonemptyArray (m.controllers.map memoryControllerToJson)),
    ("reported_array_location", nonempty m.reportedArrayLocation),
    ("reported_array_error_correction", nonempty m.reportedArrayErrorCorrection),
    ("reported_array_max_capacity", m.reportedArrayMaxCapacity.map .ofUInt64),
    ("edac_devices", nonemptyArray (m.edacDevices.map edacDeviceToJson))]

def memoryFromJson (j : Json) : Decode Memory := do
  return {
    totalMemory := ← j.read (uint64FromJson "total_memory") "total_memory"
    availableMemory := ← j.readOptional (uint64FromJson "available_memory") "available_memory"
    memoryType := ← j.readOr getString [] "memory_type"
    configuredSpeedMts :=
      ← j.readOptional (uint64FromJson "configured_speed_mts") "configured_speed_mts"
    numaMemory := ← j.readOr (readItems numaMemoryFromJson) [] "numa_memory"
    dimms := ← j.readOr (readItems dimmInfoFromJson) [] "dimms"
    dimmCount := ← j.readOptional (uint32FromJson "dimm_count") "dimm_count"
    populatedDimms := ← j.readOptional (uint32FromJson "populated_dimms") "populated_dimms"
    dimmInventorySource := ← j.readDefault getString [] "dimm_inventory_source"
    reportedSlotCount := ← j.readOptional (uint32FromJson "reported_slot_count") "reported_slot_count"
    reportedSlotsComplete := ← j.readOptional getBool "reported_slots_complete"
    controllers := ← j.readOr (readItems memoryControllerFromJson) [] "controllers"
    reportedArrayLocation := ← j.readDefault getString [] "reported_array_location"
    reportedArrayErrorCorrection := ← j.readDefault getString [] "reported_array_error_correction"
    reportedArrayMaxCapacity :=
      ← j.readOptional (uint64FromJson "reported_array_max_capacity") "reported_array_max_capacity"
    edacDevices := ← j.readOr (readArray edacDeviceFromJson) [] "edac_devices" }

def Memory.InRange (m : Memory) : Prop := ∀ c ∈ m.controllers, c.InRange

/-- The memory subsystem comes back from its JSON value. -/
theorem memoryFromJson_toJson {m : Memory} (h : m.InRange) :
    memoryFromJson (memoryToJson m) = .ok m := by
  have hcontrollers := readPresent_nonemptyArray
    (readItems_map fun c hc => memoryControllerFromJson_toJson (h c hc))
  have hdevices := readPresent_nonemptyArray
    (readArray_map (l := m.edacDevices) fun d _ => edacDeviceFromJson_toJson d)
  simp [memoryFromJson, memoryToJson, hcontrollers, hdevices]

end Sysal
