import Mathlib.Data.List.Lookmap
import Sysal.Foundation.FixedWidth
import Sysal.Model.Memory
import Sysal.Parser.ParseUtils

/-!
# EDAC devices and memory controllers

`memory_edac.cpp` and `memory_topology.cpp`: the memory devices of the EDAC driver, which stand in for
the modules where firmware reports none and are tied to the reported modules otherwise, the memory
controllers, and what firmware says about the memory array.
-/

namespace Sysal.MemoryParser

open Sysal Std

/-- Mebibytes to bytes. -/
def mebibytes (n : ℕ) : Option MemorySize := mulChecked (1024 * 1024) n

/-! ### Locations -/

/-- `location_layer`. -/
def locationLayer (name : Bytes) : EdacLocationLayer :=
  if name = utf8 "branch" then .branch
  else if name = utf8 "channel" then .channel
  else if name = utf8 "slot" then .slot
  else if name = utf8 "csrow" then .chipSelect
  else if name = utf8 "memory" then .allMemory
  else .unknown

/-- The coordinates that the words of a report spell, after the ones read so far. -/
def edacCoordinates : List Bytes → List EdacLocationCoordinate → Option (List EdacLocationCoordinate)
  | [], coordinates => some coordinates
  | [_], _ => none
  | name :: value :: rest, coordinates =>
      let layer := locationLayer name
      match parseUint32 value with
      | none => none
      | some index =>
          if layer = .unknown ∨ coordinates.any (·.layer = layer) then none
          else edacCoordinates rest (coordinates ++ [{ layer := layer, index := index }])

/-- `parse_edac_location`: a report in another format has no coordinates. -/
def parseEdacLocation (report : Bytes) : EdacLocation :=
  { report := trim report
    coordinates := (edacCoordinates (words (trim report)) []).getD [] }

example : (parseEdacLocation (utf8 "channel 1 slot 0\n")).coordinates =
    [⟨.channel, 1⟩, ⟨.slot, 0⟩] := by decide

/-! ### Identities -/

/-- The number text of the controller in a path. -/
def edacControllerText (path : Bytes) : Option Bytes :=
  (Bytes.after path (utf8 "/mc/mc")).map fun rest => rest.takeWhile (· ≠ 47)

/-- `edac_controller_index`. -/
def edacControllerIndex (path : Bytes) : Option UInt32 :=
  (edacControllerText path).bind parseUint32

/-- The kind of a device directory. -/
def edacDeviceKind (name : Bytes) : EdacMemoryDeviceKind :=
  if name.startsWith (utf8 "dimm") then .dimm
  else if name.startsWith (utf8 "rank") then .rank
  else .unknown

/-- The part of a path before its last slash, or the path. -/
def parentDirectory (path : Bytes) : Bytes :=
  match Bytes.rcut path 47 with
  | some (parent, _) => parent
  | none => path

/-- `device_identity`: only direct children of a controller have one. -/
def deviceIdentity (directory : Bytes) : Option EdacMemoryDevice :=
  match edacControllerIndex directory with
  | none => none
  | some controller =>
      let name := extractFilename directory
      if edacDeviceKind name = .unknown then none
      else
        match parseUint32 (name.drop 4) with
        | none => none
        | some index =>
            if extractFilename (parentDirectory directory) ≠
                utf8 "mc" ++ decimal controller.toNat then none
            else some
              { controllerIndex := controller
                index := index
                kind := edacDeviceKind name }

/-! ### The EDAC inventory -/

/-- One attribute of a device. -/
def readDeviceField (device : EdacMemoryDevice) (field payload : Bytes) : EdacMemoryDevice :=
  let value := hardwareText payload
  if field = utf8 "dimm_label" then { device with label := value }
  else if field = utf8 "dimm_location" then { device with location := parseEdacLocation payload }
  else if field = utf8 "dimm_mem_type" then { device with memoryType := value }
  else if field = utf8 "dimm_edac_mode" then { device with edacMode := value }
  else if field = utf8 "dimm_dev_type" then { device with deviceWidth := value }
  else if field = utf8 "size" then
    match (parseUint (trim payload)).bind mebibytes with
    | some size => { device with size := some size }
    | none => device
  else device

/-- One record of the device scan; the devices are grouped by directory. -/
def scanDevice (grouped : TreeMap Bytes EdacMemoryDevice compare) (record : RawEvidence) :
    TreeMap Bytes EdacMemoryDevice compare :=
  match Bytes.rcut record.pathOrCommand 47 with
  | none => grouped
  | some (directory, field) =>
      match deviceIdentity directory with
      | none => grouped
      | some identity =>
          grouped.insert directory
            (readDeviceField (grouped.getD directory identity) field record.payload)

/-- The order of the devices in the result: controller, kind, number. -/
def deviceOrder (left right : EdacMemoryDevice) : Bool :=
  if left.controllerIndex ≠ right.controllerIndex then left.controllerIndex < right.controllerIndex
  else if left.kind ≠ right.kind then CEnum.code left.kind < CEnum.code right.kind
  else left.index ≤ right.index

/-- The EDAC devices of a store, by directory. -/
def edacDevices (raw : EvidenceStore) : List EdacMemoryDevice :=
  ((raw.successes .sysfsEdac).foldl scanDevice ∅).toList.map Prod.snd

/-- `inventory_dimm`: a device in the place of a module. -/
def inventoryDimm (device : EdacMemoryDevice) (size : MemorySize) : DimmInfo :=
  { locator := device.label
    bankLocator := device.location.report
    size := size
    present := 0 < size
    memoryType := device.memoryType
    edacMode := device.edacMode
    deviceWidth := device.deviceWidth
    controllerIndex := some device.controllerIndex
    edacDeviceIndex := some device.index
    edacAssociation := .edacInventory }

/-- The memory type of several modules: the common one, or `mixed`. -/
def mergeMemoryType (memoryType value : Bytes) : Bytes :=
  if memoryType.isEmpty then value
  else if memoryType = value then memoryType
  else utf8 "mixed"

/-- A module that a device describes by label and capacity. -/
def matchesDimm (label : Bytes) (size : MemorySize) (dimm : DimmInfo) : Bool :=
  dimm.present && dimm.locator = label && dimm.size = size

/-- A device with a given label and capacity. -/
def matchesEdac (device other : EdacMemoryDevice) : Bool :=
  other.kind = .dimm && other.label = device.label && other.size = device.size

/-- A module under the names a device has for it. -/
def associateDimm (device : EdacMemoryDevice) (dimm : DimmInfo) : DimmInfo :=
  { dimm with
    edacMode := device.edacMode
    deviceWidth := device.deviceWidth
    controllerIndex := some device.controllerIndex
    edacDeviceIndex := some device.index
    edacAssociation := .labelAndCapacity }

/-- One device, where it stands in for a module: the modules and the memory type after it. -/
def fallbackDimm (s : List DimmInfo × Bytes) (device : EdacMemoryDevice) : List DimmInfo × Bytes :=
  match device.size with
  | some size =>
      if device.kind ≠ .dimm then s
      else
        (s.1 ++ [inventoryDimm device size],
          if 0 < size ∧ ¬device.memoryType.isEmpty then mergeMemoryType s.2 device.memoryType
          else s.2)
  | none => s

/-- One device, where firmware reports modules: the unique pair of a label and a capacity is tied. -/
def tieDimm (devices : List EdacMemoryDevice) (dimms : List DimmInfo) (device : EdacMemoryDevice) :
    List DimmInfo :=
  match device.size with
  | some size =>
      if device.kind ≠ .dimm ∨ device.label.isEmpty ∨ size = 0 then dimms
      else if dimms.countP (matchesDimm device.label size) ≠ 1 ∨
          devices.countP (matchesEdac device) ≠ 1 then dimms
      else dimms.lookmap fun dimm =>
        if matchesDimm device.label size dimm then some (associateDimm device dimm) else none
  | none => dimms

/-- `apply_edac_inventory`: the memory and the memory type after it. -/
def applyEdacInventory (raw : EvidenceStore) (s : Memory × Bytes) : Memory × Bytes :=
  let devices := (s.1.edacDevices ++ edacDevices raw).mergeSort deviceOrder
  if s.1.dimms.isEmpty then
    let filled := devices.foldl fallbackDimm (s.1.dimms, s.2)
    ({ s.1 with
        edacDevices := devices
        dimms := filled.1
        dimmInventorySource :=
          if filled.1.isEmpty then s.1.dimmInventorySource else utf8 "edac" }, filled.2)
  else
    ({ s.1 with
        edacDevices := devices
        dimms := devices.foldl (tieDimm devices) s.1.dimms }, s.2)

/-! ### Controllers -/

/-- One attribute of a controller. -/
def readControllerField (controller : MemoryController) (name payload : Bytes) : MemoryController :=
  let value := trim payload
  let number := parseUint value
  if name = utf8 "max_location" then { controller with maxLocation := parseEdacLocation value }
  else if name = utf8 "mc_name" then { controller with name := hardwareText value }
  else if name = utf8 "size_mb" then
    match number.bind mebibytes with
    | some size => { controller with capacity := some size }
    | none => controller
  else if name = utf8 "ce_count" then
    { controller with correctedErrors := number.map UInt64.ofNat }
  else if name = utf8 "ue_count" then
    { controller with uncorrectedErrors := number.map UInt64.ofNat }
  else if name = utf8 "numa_node" then
    match parseUint32 value with
    | some node => { controller with numaNode := some node }
    | none => controller
  else if name = utf8 "device" then
    match lastPciAddress value with
    | some address => { controller with pciAddress := some address }
    | none => controller
  else controller

/-- One record of the controller scan; what belongs to a device is no attribute of a controller. -/
def scanController (controllers : TreeMap UInt32 MemoryController compare) (record : RawEvidence) :
    TreeMap UInt32 MemoryController compare :=
  let path := record.pathOrCommand
  if path.hasSub (utf8 "/dimm") ∨ path.hasSub (utf8 "/rank") then controllers
  else
    match edacControllerIndex path with
    | none => controllers
    | some index =>
        upsert controllers index fun controller =>
          readControllerField { controller with index := index } (extractFilename path)
            record.payload

/-- The node of the first controller with a number, if there is such a controller. -/
def controllerNode (controllers : List MemoryController) (index : UInt32) :
    Option (Option NumaNodeId) :=
  (controllers.find? (·.index = index)).map (·.numaNode)

/-- A module takes the node of its controller. -/
def placeDimm (controllers : List MemoryController) (dimm : DimmInfo) : DimmInfo :=
  match dimm.controllerIndex.bind (controllerNode controllers) with
  | some node => { dimm with numaNode := node }
  | none => dimm

/-- A device takes the node of its controller. -/
def placeDevice (controllers : List MemoryController) (device : EdacMemoryDevice) :
    EdacMemoryDevice :=
  match controllerNode controllers device.controllerIndex with
  | some node => { device with numaNode := node }
  | none => device

/-- One line of the `udev` report about the memory array. -/
def scanArrayLine (memory : Memory) (line : Bytes) : Memory :=
  let (key, value) := parseKv line 61
  if key = utf8 "E: MEMORY_ARRAY_LOCATION" then
    { memory with reportedArrayLocation := hardwareText value }
  else if key = utf8 "E: MEMORY_ARRAY_EC_TYPE" then
    { memory with reportedArrayErrorCorrection := hardwareText value }
  else if key = utf8 "E: MEMORY_ARRAY_MAX_CAPACITY" then
    match parseUint value with
    | some size => { memory with reportedArrayMaxCapacity := some (.ofNat size) }
    | none => memory
  else if key = utf8 "E: MEMORY_ARRAY_NUM_DEVICES" then
    match parseUint32 value with
    | some count => { memory with reportedSlotCount := some count }
    | none => memory
  else memory

/-- One line about the memory array changes nothing but what it is about. -/
theorem scanArrayLine_eq (memory : Memory) (line : Bytes) :
    ∃ location correction capacity count, scanArrayLine memory line =
      { memory with
        reportedArrayLocation := location
        reportedArrayErrorCorrection := correction
        reportedArrayMaxCapacity := capacity
        reportedSlotCount := count } := by
  rw [scanArrayLine]
  dsimp only
  split_ifs
  · exact ⟨_, _, _, _, rfl⟩
  · exact ⟨_, _, _, _, rfl⟩
  · split <;> exact ⟨_, _, _, _, rfl⟩
  · split <;> exact ⟨_, _, _, _, rfl⟩
  · exact ⟨_, _, _, _, rfl⟩

/-- What does not read the report about the memory array is the same behind it. -/
theorem foldl_scanArrayLine_keeps {β : Type} (get : Memory → β)
    (hget : ∀ (memory : Memory) location correction capacity count,
      get { memory with
        reportedArrayLocation := location
        reportedArrayErrorCorrection := correction
        reportedArrayMaxCapacity := capacity
        reportedSlotCount := count } = get memory)
    (records : List RawEvidence) (memory : Memory) :
    get (records.foldl (fun memory record => (split record.payload 10).foldl scanArrayLine memory)
      memory) = get memory := by
  have hline : ∀ (memory : Memory) (line : Bytes), get (scanArrayLine memory line) = get memory := by
    intro memory line
    obtain ⟨location, correction, capacity, count, heq⟩ := scanArrayLine_eq memory line
    rw [heq, hget]
  have hlines : ∀ (lines : List Bytes) (memory : Memory),
      get (lines.foldl scanArrayLine memory) = get memory := by
    intro lines
    induction lines with
    | nil => exact fun _ => rfl
    | cons line lines ih => exact fun memory => (ih _).trans (hline memory line)
  induction records generalizing memory with
  | nil => rfl
  | cons record records ih => exact (ih _).trans (hlines _ memory)

/-- `apply_memory_topology`. -/
def applyMemoryTopology (raw : EvidenceStore) (memory : Memory) : Memory :=
  let controllers := memory.controllers ++
    ((raw.successes .sysfsEdac).foldl scanController ∅).toList.map Prod.snd
  let memory := { memory with
    controllers := controllers
    dimms := memory.dimms.map (placeDimm controllers)
    edacDevices := memory.edacDevices.map (placeDevice controllers) }
  let memory := (raw.successes .udevadm).foldl
    (fun memory record => (split record.payload 10).foldl scanArrayLine memory) memory
  { memory with
    reportedSlotsComplete :=
      match memory.reportedSlotCount with
      | some count =>
          if memory.dimmInventorySource = utf8 "udev" then
            some (memory.dimms.length = count.toNat)
          else memory.reportedSlotsComplete
      | none => memory.reportedSlotsComplete }

end Sysal.MemoryParser
