import Sysal.Serialization.StorageHealth

/-!
# The storage subsystem as JSON

`storage.cpp`, `storage_classification.cpp`, `storage_connections.cpp` and `filesystems.cpp` of the
serialization.

* `storageFromJson_toJson`: a storage domain within the ranges is encoded and read back.
-/

namespace Sysal

open Json

instance : CEnum.IsLast BlockDeviceLayer.virtual := ⟨rfl⟩
instance : CEnum.IsLast StoragePurpose.other := ⟨rfl⟩
instance : CEnum.IsLast StorageTransport.parallelScsi := ⟨rfl⟩
instance : CEnum.IsLast StorageKind.other := ⟨rfl⟩
instance : CEnum.IsLast FilesystemKind.unknown := ⟨rfl⟩

/-! ### Mounts -/

def deviceNumberToJson (number : DeviceNumber) : Json :=
  .object [("major", some (.ofUInt32 number.major)), ("minor", some (.ofUInt32 number.minor))]

def deviceNumberFromJson (j : Json) : Decode DeviceNumber := do
  return {
    major := ← j.read (uint32FromJson "major") "major"
    minor := ← j.read (uint32FromJson "minor") "minor" }

@[simp] theorem deviceNumberFromJson_toJson (number : DeviceNumber) :
    deviceNumberFromJson (deviceNumberToJson number) = .ok number := by
  simp [deviceNumberFromJson, deviceNumberToJson]

def storageMountToJson (m : StorageMount) : Json :=
  .object [
    ("mount_id", some (.ofUInt32 m.mountId)),
    ("parent_mount_id", some (.ofUInt32 m.parentMountId)),
    ("device_number", some (deviceNumberToJson m.deviceNumber)),
    ("root", some (.str m.root)),
    ("path", some (.str m.path)),
    ("filesystem", some (.str m.filesystem)),
    ("source", some (.str m.source)),
    ("options", some (strings m.options)),
    ("read_only", some (.bool m.readOnly)),
    ("block_device", m.blockDevice.map .str)]

def storageMountFromJson (j : Json) : Decode StorageMount := do
  return {
    mountId := ← j.read (uint32FromJson "mount_id") "mount_id"
    parentMountId := ← j.read (uint32FromJson "parent_mount_id") "parent_mount_id"
    deviceNumber := ← j.read deviceNumberFromJson "device_number"
    root := ← j.read getString "root"
    path := ← j.read getString "path"
    filesystem := ← j.read getString "filesystem"
    source := ← j.read getString "source"
    options := ← j.read (readItems getString) "options"
    readOnly := ← j.read getBool "read_only"
    blockDevice := ← j.readOptional getString "block_device" }

@[simp] theorem storageMountFromJson_toJson (m : StorageMount) :
    storageMountFromJson (storageMountToJson m) = .ok m := by
  simp [storageMountFromJson, storageMountToJson]

/-! ### Classification -/

def storageClassificationToJson (c : StorageClassification) : Json :=
  .object [
    ("layer", some (.ofEnum c.layer)),
    ("purpose", some (.ofEnum c.purpose)),
    ("protocol", some (.ofEnum c.protocol)),
    ("transports", some (.array (c.transports.map .ofEnum)))]

def storageClassificationFromJson (j : Json) : Decode StorageClassification := do
  return {
    layer := ← j.read (enumFromJson BlockDeviceLayer.virtual "block layer") "layer"
    purpose := ← j.read (enumFromJson StoragePurpose.other "storage purpose") "purpose"
    protocol := ← j.read (enumFromJson StorageProtocol.scsi "storage protocol") "protocol"
    transports :=
      ← j.read (readArray (enumFromJson StorageTransport.parallelScsi "storage transport"))
          "transports" }

@[simp] theorem storageClassificationFromJson_toJson (c : StorageClassification) :
    storageClassificationFromJson (storageClassificationToJson c) = .ok c := by
  simp [storageClassificationFromJson, storageClassificationToJson]

/-! ### Connections -/

def nvmeNamespaceToJson (ns : NvmeNamespaceInfo) : Json :=
  .object [
    ("id", some (.ofUInt32 ns.id)),
    ("nguid", some (.str ns.nguid)),
    ("eui", some (.str ns.eui)),
    ("controllers", some (strings ns.controllers))]

/-- A namespace number: a 32-bit number other than zero. -/
def nvmeNamespaceIdFromJson (j : Json) : Decode UInt32 := do
  let id ← uint32FromJson "namespace ID" j
  if id = 0 then .error (.invalid (utf8 "NVMe namespace ID 不能为零")) else .ok id

def nvmeNamespaceFromJson (j : Json) : Decode NvmeNamespaceInfo := do
  return {
    id := ← j.read nvmeNamespaceIdFromJson "id"
    nguid := ← j.readDefault getString [] "nguid"
    eui := ← j.readDefault getString [] "eui"
    controllers := ← j.readOr (readArray getString) [] "controllers" }

def NvmeNamespaceInfo.InRange (ns : NvmeNamespaceInfo) : Prop := ns.id ≠ 0

theorem nvmeNamespaceFromJson_toJson {ns : NvmeNamespaceInfo} (h : ns.InRange) :
    nvmeNamespaceFromJson (nvmeNamespaceToJson ns) = .ok ns := by
  have hid : nvmeNamespaceIdFromJson (.ofUInt32 ns.id) = .ok ns.id := by
    rw [nvmeNamespaceIdFromJson, uint32FromJson_ofUInt32, ok_bind, if_neg h]
  simp [nvmeNamespaceFromJson, nvmeNamespaceToJson, hid]

def scsiAddressToJson (address : ScsiAddress) : Json :=
  .object [
    ("host", some (.ofUInt32 address.host)),
    ("channel", some (.ofUInt32 address.channel)),
    ("target", some (.ofUInt32 address.target)),
    ("lun", some (.ofUInt64 address.lun))]

def scsiAddressFromJson (j : Json) : Decode ScsiAddress := do
  return {
    host := ← j.read (uint32FromJson "SCSI host") "host"
    channel := ← j.read (uint32FromJson "SCSI channel") "channel"
    target := ← j.read (uint32FromJson "SCSI target") "target"
    lun := ← j.read (uint64FromJson "SCSI LUN") "lun" }

@[simp] theorem scsiAddressFromJson_toJson (address : ScsiAddress) :
    scsiAddressFromJson (scsiAddressToJson address) = .ok address := by
  simp [scsiAddressFromJson, scsiAddressToJson]

def scsiDeviceToJson (scsi : ScsiDeviceInfo) : Json :=
  .object [
    ("address", some (scsiAddressToJson scsi.address)),
    ("state", some (.str scsi.state)),
    ("peripheral_type", scsi.peripheralType.map .ofUInt32)]

def scsiDeviceFromJson (j : Json) : Decode ScsiDeviceInfo := do
  return {
    address := ← j.read scsiAddressFromJson "address"
    state := ← j.readDefault getString [] "state"
    peripheralType :=
      ← j.readOptional (uint32FromJson "SCSI peripheral type") "peripheral_type" }

@[simp] theorem scsiDeviceFromJson_toJson (scsi : ScsiDeviceInfo) :
    scsiDeviceFromJson (scsiDeviceToJson scsi) = .ok scsi := by
  simp [scsiDeviceFromJson, scsiDeviceToJson]

def storageControllerToJson (c : StorageController) : Json :=
  .object [
    ("pci_address", some (pciAddressToJson c.pciAddress)),
    ("class_code", some (.ofUInt32 c.classCode)),
    ("vendor", some (.str c.vendor)),
    ("model", some (.str c.model)),
    ("driver", some (.str c.driver)),
    ("numa_node", c.numaNode.map .ofUInt32)]

/-- A PCI class: 24 bits. -/
def classCodeFromJson (j : Json) : Decode UInt32 :=
  (checkedUnsigned 0xffffff "PCI class" j).map UInt32.ofNat

def storageControllerFromJson (j : Json) : Decode StorageController := do
  return {
    pciAddress := ← j.read pciAddressFromJson "pci_address"
    classCode := ← j.read classCodeFromJson "class_code"
    vendor := ← j.readDefault getString [] "vendor"
    model := ← j.readDefault getString [] "model"
    driver := ← j.readDefault getString [] "driver"
    numaNode := ← j.readOptional (uint32FromJson "NUMA node") "numa_node" }

structure StorageController.InRange (c : StorageController) : Prop where
  pciAddress : c.pciAddress.InRange
  classCode : c.classCode ≤ 0xffffff

theorem storageControllerFromJson_toJson {c : StorageController} (h : c.InRange) :
    storageControllerFromJson (storageControllerToJson c) = .ok c := by
  have hclass : classCodeFromJson (.ofUInt32 c.classCode) = .ok c.classCode := by
    have hle : c.classCode.toNat ≤ 0xffffff := UInt32.le_iff_toNat_le.mp h.classCode
    rw [classCodeFromJson, checkedUnsigned_of_asInt (asInt_ofUInt32 c.classCode) hle, map_ok,
      UInt32.ofNat_toNat]
  simp [storageControllerFromJson, storageControllerToJson, hclass,
    pciAddressFromJson_toJson h.pciAddress]

def nvmeControllerToJson (c : NvmeController) : Json :=
  .object [
    ("name", some (.str c.name)),
    ("transport", some (.str c.transport)),
    ("address", some (.str c.address)),
    ("model", some (.str c.model)),
    ("serial", some (.str c.serial)),
    ("firmware_revision", some (.str c.firmwareRevision)),
    ("state", some (.str c.state)),
    ("subsystem_nqn", some (.str c.subsystemNqn)),
    ("controller_id", c.controllerId.map .ofUInt16),
    ("pci_address", c.pciAddress.map pciAddressToJson),
    ("numa_node", c.numaNode.map .ofUInt32)]

def nvmeControllerFromJson (j : Json) : Decode NvmeController := do
  return {
    name := ← j.read getString "name"
    transport := ← j.readDefault getString [] "transport"
    address := ← j.readDefault getString [] "address"
    model := ← j.readDefault getString [] "model"
    serial := ← j.readDefault getString [] "serial"
    firmwareRevision := ← j.readDefault getString [] "firmware_revision"
    state := ← j.readDefault getString [] "state"
    subsystemNqn := ← j.readDefault getString [] "subsystem_nqn"
    controllerId := ← j.readOptional (uint16FromJson "NVMe controller ID") "controller_id"
    pciAddress := ← j.readOptional pciAddressFromJson "pci_address"
    numaNode := ← j.readOptional (uint32FromJson "NUMA node") "numa_node" }

def NvmeController.InRange (c : NvmeController) : Prop := ∀ a ∈ c.pciAddress, a.InRange

theorem nvmeControllerFromJson_toJson {c : NvmeController} (h : c.InRange) :
    nvmeControllerFromJson (nvmeControllerToJson c) = .ok c := by
  have hpci := readPresent_pciAddress h
  simp [nvmeControllerFromJson, nvmeControllerToJson, hpci]

def scsiHostToJson (host : ScsiHost) : Json :=
  .object [
    ("number", some (.ofUInt32 host.number)),
    ("proc_name", some (.str host.procName)),
    ("state", some (.str host.state)),
    ("supported_mode", some (.str host.supportedMode)),
    ("active_mode", some (.str host.activeMode)),
    ("ata_port", host.ataPort.map .ofUInt32),
    ("pci_address", host.pciAddress.map pciAddressToJson),
    ("numa_node", host.numaNode.map .ofUInt32)]

def scsiHostFromJson (j : Json) : Decode ScsiHost := do
  return {
    number := ← j.read (uint32FromJson "SCSI host") "number"
    procName := ← j.readDefault getString [] "proc_name"
    state := ← j.readDefault getString [] "state"
    supportedMode := ← j.readDefault getString [] "supported_mode"
    activeMode := ← j.readDefault getString [] "active_mode"
    ataPort := ← j.readOptional (uint32FromJson "ATA port") "ata_port"
    pciAddress := ← j.readOptional pciAddressFromJson "pci_address"
    numaNode := ← j.readOptional (uint32FromJson "NUMA node") "numa_node" }

def ScsiHost.InRange (host : ScsiHost) : Prop := ∀ a ∈ host.pciAddress, a.InRange

theorem scsiHostFromJson_toJson {host : ScsiHost} (h : host.InRange) :
    scsiHostFromJson (scsiHostToJson host) = .ok host := by
  have hpci := readPresent_pciAddress h
  simp [scsiHostFromJson, scsiHostToJson, hpci]

/-! ### Filesystems -/

def filesystemUsageToJson (usage : FilesystemUsage) : Json :=
  .object [
    ("total", some (.ofUInt64 usage.total)),
    ("filesystem_id", some (.str usage.filesystemId)),
    ("free", usage.free.map .ofUInt64),
    ("available", usage.available.map .ofUInt64),
    ("inodes", usage.inodes.map .ofUInt64),
    ("free_inodes", usage.freeInodes.map .ofUInt64),
    ("available_inodes", usage.availableInodes.map .ofUInt64)]

def filesystemUsageFromJson (j : Json) : Decode FilesystemUsage := do
  return {
    total := ← j.read (uint64FromJson "filesystem total") "total"
    filesystemId := ← j.readDefault getString [] "filesystem_id"
    free := ← j.readOptional (uint64FromJson "free") "free"
    available := ← j.readOptional (uint64FromJson "available") "available"
    inodes := ← j.readOptional (uint64FromJson "inodes") "inodes"
    freeInodes := ← j.readOptional (uint64FromJson "free_inodes") "free_inodes"
    availableInodes := ← j.readOptional (uint64FromJson "available_inodes") "available_inodes" }

@[simp] theorem filesystemUsageFromJson_toJson (usage : FilesystemUsage) :
    filesystemUsageFromJson (filesystemUsageToJson usage) = .ok usage := by
  simp [filesystemUsageFromJson, filesystemUsageToJson]

def filesystemReportToJson (report : FilesystemReport) : Json :=
  .object [
    ("mount_ids", some (.array (report.mountIds.map .ofUInt32))),
    ("kind", some (.ofEnum report.kind)),
    ("status", some (.ofEnum report.status)),
    ("note", some (.str report.note)),
    ("failure", report.failure.map .ofEnum),
    ("skip", report.skip.map .ofEnum),
    ("usage", report.usage.map filesystemUsageToJson)]

def filesystemReportFromJson (j : Json) : Decode FilesystemReport := do
  return {
    mountIds := ← j.read (readItems (uint32FromJson "filesystem mount id")) "mount_ids"
    kind := ← j.read (enumFromJson FilesystemKind.unknown "filesystem kind") "kind"
    status := ← j.read (enumFromJson CollectStatus.notCollected "filesystem status") "status"
    failure := ← j.readOptional (enumFromJson ReadFailure.lowPower "filesystem failure") "failure"
    skip := ← j.readOptional (enumFromJson SkipReason.notApplicable "filesystem skip") "skip"
    note := ← j.readDefault getString [] "note"
    usage := ← j.readOptional filesystemUsageFromJson "usage" }

@[simp] theorem filesystemReportFromJson_toJson (report : FilesystemReport) :
    filesystemReportFromJson (filesystemReportToJson report) = .ok report := by
  simp [filesystemReportFromJson, filesystemReportToJson]

/-! ### Block devices -/

def storageDeviceToJson (sd : StorageDevice) : Json :=
  .object [
    ("id", some (.ofUInt32 sd.id)),
    ("name", some (.str sd.name)),
    ("kind", some (.ofEnum sd.kind)),
    ("classification", some (storageClassificationToJson sd.classification)),
    ("capacity", sd.capacity.map .ofUInt64),
    ("pci_address", sd.pciAddress.map pciAddressToJson),
    ("mount_point", sd.mountPoint.map .str),
    ("fs_type", sd.fsType.map .str),
    ("model", nonempty sd.model),
    ("vendor", nonempty sd.vendor),
    ("serial", nonempty sd.serial),
    ("firmware_revision", nonempty sd.firmwareRevision),
    ("wwid", nonempty sd.wwid),
    ("scheduler", nonempty sd.scheduler),
    ("logical_block_size", sd.logicalBlockSize.map .ofUInt64),
    ("physical_block_size", sd.physicalBlockSize.map .ofUInt64),
    ("minimum_io_size", sd.minimumIoSize.map .ofUInt64),
    ("optimal_io_size", sd.optimalIoSize.map .ofUInt64),
    ("rotational", sd.rotational.map .bool),
    ("read_only", sd.readOnly.map .bool),
    ("removable", sd.removable.map .bool),
    ("numa_node", sd.numaNode.map .ofUInt32),
    ("transport", nonempty sd.transport),
    ("driver", nonempty sd.driver),
    ("controller_name", nonempty sd.controllerName),
    ("layer", nonempty sd.layer),
    ("mapper_name", nonempty sd.mapperName),
    ("mapper_uuid", nonempty sd.mapperUuid),
    ("raid_level", nonempty sd.raidLevel),
    ("raid_state", nonempty sd.raidState),
    ("partition_number", sd.partitionNumber.map .ofUInt32),
    ("parent", sd.parent.map .str),
    ("raid_disks", sd.raidDisks.map .ofUInt32),
    ("raid_degraded", sd.raidDegraded.map .ofUInt32),
    ("slaves", nonemptyArray (sd.slaves.map .str)),
    ("device_number", sd.deviceNumber.map deviceNumberToJson),
    ("nvme_namespace", sd.nvmeNamespace.map nvmeNamespaceToJson),
    ("scsi_device", sd.scsiDevice.map scsiDeviceToJson)]

def storageDeviceFromJson (j : Json) : Decode StorageDevice := do
  return {
    id := ← j.read (uint32FromJson "id") "id"
    name := ← j.read getString "name"
    capacity := ← j.readOptional (uint64FromJson "capacity") "capacity"
    pciAddress := ← j.readOptional pciAddressFromJson "pci_address"
    mountPoint := ← j.readOptional getString "mount_point"
    fsType := ← j.readOptional getString "fs_type"
    kind := ← j.read (enumFromJson StorageKind.other "kind") "kind"
    model := ← j.readDefault getString [] "model"
    vendor := ← j.readDefault getString [] "vendor"
    serial := ← j.readDefault getString [] "serial"
    firmwareRevision := ← j.readDefault getString [] "firmware_revision"
    wwid := ← j.readDefault getString [] "wwid"
    scheduler := ← j.readDefault getString [] "scheduler"
    logicalBlockSize := ← j.readOptional (uint64FromJson "logical_block_size") "logical_block_size"
    physicalBlockSize :=
      ← j.readOptional (uint64FromJson "physical_block_size") "physical_block_size"
    minimumIoSize := ← j.readOptional (uint64FromJson "minimum_io_size") "minimum_io_size"
    optimalIoSize := ← j.readOptional (uint64FromJson "optimal_io_size") "optimal_io_size"
    rotational := ← j.readOptional getBool "rotational"
    readOnly := ← j.readOptional getBool "read_only"
    removable := ← j.readOptional getBool "removable"
    numaNode := ← j.readOptional (uint32FromJson "numa_node") "numa_node"
    transport := ← j.readDefault getString [] "transport"
    driver := ← j.readDefault getString [] "driver"
    classification := ← j.readOr storageClassificationFromJson {} "classification"
    controllerName := ← j.readDefault getString [] "controller_name"
    layer := ← j.readDefault getString [] "layer"
    mapperName := ← j.readDefault getString [] "mapper_name"
    mapperUuid := ← j.readDefault getString [] "mapper_uuid"
    raidLevel := ← j.readDefault getString [] "raid_level"
    raidState := ← j.readDefault getString [] "raid_state"
    partitionNumber := ← j.readOptional (uint32FromJson "partition_number") "partition_number"
    parent := ← j.readOptional getString "parent"
    raidDisks := ← j.readOptional (uint32FromJson "raid_disks") "raid_disks"
    raidDegraded := ← j.readOptional (uint32FromJson "raid_degraded") "raid_degraded"
    slaves := ← j.readOr (readItems getString) [] "slaves"
    deviceNumber := ← j.readOptional deviceNumberFromJson "device_number"
    nvmeNamespace := ← j.readOptional nvmeNamespaceFromJson "nvme_namespace"
    scsiDevice := ← j.readOptional scsiDeviceFromJson "scsi_device" }

structure StorageDevice.InRange (sd : StorageDevice) : Prop where
  pciAddress : ∀ a ∈ sd.pciAddress, a.InRange
  nvmeNamespace : ∀ ns ∈ sd.nvmeNamespace, ns.InRange

theorem storageDeviceFromJson_toJson {sd : StorageDevice} (h : sd.InRange) :
    storageDeviceFromJson (storageDeviceToJson sd) = .ok sd := by
  have hpci := readPresent_pciAddress h.pciAddress
  have hnamespace := readPresent_map
    fun ns (hns : ns ∈ sd.nvmeNamespace) => nvmeNamespaceFromJson_toJson (h.nvmeNamespace ns hns)
  simp [storageDeviceFromJson, storageDeviceToJson, hpci, hnamespace]

/-! ### The domain -/

def storageToJson (s : Storage) : Except Thrown Json := do
  let health ← s.health.mapM storageHealthToJson
  return .object [
    ("devices", some (.array (s.devices.map storageDeviceToJson))),
    ("health", nonemptyArray health),
    ("mounts", nonemptyArray (s.mounts.map storageMountToJson)),
    ("controllers", nonemptyArray (s.controllers.map storageControllerToJson)),
    ("nvme_controllers", nonemptyArray (s.nvmeControllers.map nvmeControllerToJson)),
    ("scsi_hosts", nonemptyArray (s.scsiHosts.map scsiHostToJson)),
    ("filesystems", nonemptyArray (s.filesystems.map filesystemReportToJson))]

def storageFromJson (j : Json) : Decode Storage := do
  return {
    devices := ← j.read (readItems storageDeviceFromJson) "devices"
    health := ← j.readOr (readItems storageHealthFromJson) [] "health"
    mounts := ← j.readOr (readItems storageMountFromJson) [] "mounts"
    controllers := ← j.readOr (readArray storageControllerFromJson) [] "controllers"
    nvmeControllers := ← j.readOr (readArray nvmeControllerFromJson) [] "nvme_controllers"
    scsiHosts := ← j.readOr (readArray scsiHostFromJson) [] "scsi_hosts"
    filesystems := ← j.readOr (readItems filesystemReportFromJson) [] "filesystems" }

structure Storage.InRange (s : Storage) : Prop where
  devices : ∀ sd ∈ s.devices, sd.InRange
  health : ∀ h ∈ s.health, h.InRange
  controllers : ∀ c ∈ s.controllers, c.InRange
  nvmeControllers : ∀ c ∈ s.nvmeControllers, c.InRange
  scsiHosts : ∀ host ∈ s.scsiHosts, host.InRange

/-- A list whose elements are encoded and read back one by one. -/
theorem mapM_roundTrip {α : Type} {encode : α → Except Thrown Json} {decode : Json → Decode α}
    {l : List α} (h : ∀ a ∈ l, ∃ j, encode a = .ok j ∧ decode j = .ok a) :
    ∃ items, l.mapM encode = .ok items ∧ items.mapM decode = .ok l := by
  induction l with
  | nil => exact ⟨[], rfl, rfl⟩
  | cons a l ih =>
      obtain ⟨j, hj, hdecode⟩ := h a List.mem_cons_self
      obtain ⟨items, hitems, hrest⟩ := ih fun b hb => h b (List.mem_cons_of_mem _ hb)
      refine ⟨j :: items, ?_, ?_⟩
      · rw [List.mapM_cons, hj, hitems]
        rfl
      · rw [List.mapM_cons, hdecode, hrest]
        rfl

theorem readPresent_mapM {α : Type} {decode : Json → Decode α} {items : List Json} {l : List α}
    (h : items.mapM decode = .ok l) :
    (readPresent (readItems decode) (nonemptyArray items)).map (·.getD []) = .ok l := by
  cases items with
  | nil =>
      rw [← h]
      rfl
  | cons j items =>
      show (readPresent (readItems decode) (some (array (j :: items)))).map _ = _
      rw [readPresent_some, readItems, array_items, h, map_ok, map_ok]
      rfl

/-- A storage domain within the ranges is encoded, and comes back from its JSON value. -/
theorem storageFromJson_toJson {s : Storage} (h : s.InRange) :
    ∃ j, storageToJson s = .ok j ∧ storageFromJson j = .ok s := by
  obtain ⟨health, hhealth, hdecode⟩ :=
    mapM_roundTrip fun report hr => storageHealthFromJson_toJson (h.health report hr)
  have hhealth' := readPresent_mapM hdecode
  have hdevices := readItems_map fun sd hsd => storageDeviceFromJson_toJson (h.devices sd hsd)
  have hmounts := readPresent_nonemptyArray
    (readItems_map (l := s.mounts) fun m _ => storageMountFromJson_toJson m)
  have hcontrollers := readPresent_nonemptyArray
    (readArray_map fun c hc => storageControllerFromJson_toJson (h.controllers c hc))
  have hnvme := readPresent_nonemptyArray
    (readArray_map fun c hc => nvmeControllerFromJson_toJson (h.nvmeControllers c hc))
  have hhosts := readPresent_nonemptyArray
    (readArray_map fun host hh => scsiHostFromJson_toJson (h.scsiHosts host hh))
  have hfilesystems := readPresent_nonemptyArray
    (readItems_map (l := s.filesystems) fun r _ => filesystemReportFromJson_toJson r)
  rw [storageToJson, hhealth, ok_bind]
  refine ⟨_, rfl, ?_⟩
  simp [storageFromJson, hdevices, hhealth', hmounts, hcontrollers, hnvme, hhosts, hfilesystems]

end Sysal
