import Sysal.Model.Sensors

/-!
# The storage subsystem

Block devices, mounts, filesystem statistics, controllers and the health reports of drives.
-/

namespace Sysal

abbrev StorageId := UInt32

/-! ### Filesystems -/

inductive FilesystemKind where
  | local | network | memory | pseudo | userspace | unknown
  deriving DecidableEq, Inhabited

instance : CEnum FilesystemKind where
  enumerators := [.local, .network, .memory, .pseudo, .userspace, .unknown]
  code := FilesystemKind.ctorIdx
  enumerators_code := by intro a; cases a <;> rfl

structure FilesystemUsage where
  total : MemorySize := 0
  free : Option MemorySize := none
  available : Option MemorySize := none
  inodes : Option UInt64 := none
  freeInodes : Option UInt64 := none
  availableInodes : Option UInt64 := none
  filesystemId : Bytes := []
  deriving DecidableEq, Inhabited

structure FilesystemReport where
  mountIds : List UInt32 := []
  kind : FilesystemKind := .unknown
  status : CollectStatus := .notCollected
  failure : Option ReadFailure := none
  note : Bytes := []
  usage : Option FilesystemUsage := none
  skip : Option SkipReason := none
  deriving DecidableEq, Inhabited

/-- One mount the current process sees. -/
structure StorageMount where
  mountId : UInt32 := 0
  parentMountId : UInt32 := 0
  deviceNumber : DeviceNumber := {}
  root : Bytes := []
  path : Bytes := []
  filesystem : Bytes := []
  source : Bytes := []
  options : List Bytes := []
  blockDevice : Option Bytes := none
  readOnly : Bool := false
  deriving DecidableEq, Inhabited

/-! ### Classification and connections -/

/-- The kernel block layer of a device. -/
inductive BlockDeviceLayer where
  | unknown | device | partition | deviceMapper | raid | loop | virtual
  deriving DecidableEq, Inhabited

instance : CEnum BlockDeviceLayer where
  enumerators := [.unknown, .device, .partition, .deviceMapper, .raid, .loop, .virtual]
  code := BlockDeviceLayer.ctorIdx
  enumerators_code := by intro a; cases a <;> rfl

inductive StoragePurpose where
  | unknown | disk | optical | other
  deriving DecidableEq, Inhabited

instance : CEnum StoragePurpose where
  enumerators := [.unknown, .disk, .optical, .other]
  code := StoragePurpose.ctorIdx
  enumerators_code := by intro a; cases a <;> rfl

inductive StorageTransport where
  | unknown | pcie | sata | sas | usb | tcp | rdma | fibreChannel | iscsi | parallelScsi
  deriving DecidableEq, Inhabited

instance : CEnum StorageTransport where
  enumerators :=
    [.unknown, .pcie, .sata, .sas, .usb, .tcp, .rdma, .fibreChannel, .iscsi, .parallelScsi]
  code := StorageTransport.ctorIdx
  enumerators_code := by intro a; cases a <;> rfl

structure StorageClassification where
  layer : BlockDeviceLayer := .unknown
  purpose : StoragePurpose := .unknown
  protocol : StorageProtocol := .unknown
  transports : List StorageTransport := []
  deriving DecidableEq, Inhabited

/-- A PCI mass-storage function. -/
structure StorageController where
  pciAddress : PciAddress := {}
  classCode : UInt32 := 0
  vendor : Bytes := []
  model : Bytes := []
  driver : Bytes := []
  numaNode : Option NumaNodeId := none
  deriving DecidableEq, Inhabited

structure NvmeController where
  name : Bytes := []
  transport : Bytes := []
  address : Bytes := []
  model : Bytes := []
  serial : Bytes := []
  firmwareRevision : Bytes := []
  state : Bytes := []
  controllerId : Option UInt16 := none
  subsystemNqn : Bytes := []
  pciAddress : Option PciAddress := none
  numaNode : Option NumaNodeId := none
  deriving DecidableEq, Inhabited

structure ScsiHost where
  number : UInt32 := 0
  procName : Bytes := []
  state : Bytes := []
  supportedMode : Bytes := []
  activeMode : Bytes := []
  pciAddress : Option PciAddress := none
  numaNode : Option NumaNodeId := none
  ataPort : Option UInt32 := none
  deriving DecidableEq, Inhabited

structure ScsiAddress where
  host : UInt32 := 0
  channel : UInt32 := 0
  target : UInt32 := 0
  lun : UInt64 := 0
  deriving DecidableEq, Inhabited

structure ScsiDeviceInfo where
  address : ScsiAddress := {}
  peripheralType : Option UInt32 := none
  state : Bytes := []
  deriving DecidableEq, Inhabited

structure NvmeNamespaceInfo where
  id : UInt32 := 0
  nguid : Bytes := []
  eui : Bytes := []
  controllers : List Bytes := []
  deriving DecidableEq, Inhabited

structure StorageDevice where
  id : StorageId := 0
  name : Bytes := []
  capacity : Option MemorySize := none
  pciAddress : Option PciAddress := none
  kind : StorageKind := .other
  mountPoint : Option Bytes := none
  fsType : Option Bytes := none
  model : Bytes := []
  vendor : Bytes := []
  serial : Bytes := []
  firmwareRevision : Bytes := []
  wwid : Bytes := []
  logicalBlockSize : Option MemorySize := none
  physicalBlockSize : Option MemorySize := none
  minimumIoSize : Option MemorySize := none
  optimalIoSize : Option MemorySize := none
  rotational : Option Bool := none
  readOnly : Option Bool := none
  removable : Option Bool := none
  numaNode : Option NumaNodeId := none
  transport : Bytes := []
  controllerName : Bytes := []
  scheduler : Bytes := []
  deviceNumber : Option DeviceNumber := none
  partitionNumber : Option UInt32 := none
  parent : Option Bytes := none
  slaves : List Bytes := []
  layer : Bytes := []
  mapperName : Bytes := []
  mapperUuid : Bytes := []
  raidLevel : Bytes := []
  raidState : Bytes := []
  raidDisks : Option UInt32 := none
  raidDegraded : Option UInt32 := none
  nvmeNamespace : Option NvmeNamespaceInfo := none
  scsiDevice : Option ScsiDeviceInfo := none
  driver : Bytes := []
  classification : StorageClassification := {}
  deriving DecidableEq, Inhabited

/-! ### Drive health -/

/-- An exact unsigned count of up to 128 bits, as decimal text. -/
structure StorageCounter where
  decimal : Bytes := []
  deriving DecidableEq, Inhabited

structure NvmeHealth where
  criticalWarning : Option UInt8 := none
  availableSpare : Option UInt8 := none
  spareThreshold : Option UInt8 := none
  percentageUsed : Option UInt8 := none
  temperature : Option SensorTemperature := none
  powerOnHours : Option StorageCounter := none
  powerCycles : Option StorageCounter := none
  unsafeShutdowns : Option StorageCounter := none
  mediaErrors : Option StorageCounter := none
  errorLogEntries : Option StorageCounter := none
  dataUnitsRead : Option StorageCounter := none
  dataUnitsWritten : Option StorageCounter := none
  deriving DecidableEq, Inhabited

structure AtaHealthAttribute where
  id : UInt8 := 0
  name : Bytes := []
  value : Option UInt8 := none
  worst : Option UInt8 := none
  threshold : Option UInt8 := none
  raw : Bytes := []
  whenFailed : Bytes := []
  deriving DecidableEq, Inhabited

structure ScsiHealth where
  readUncorrected : Option StorageCounter := none
  writeUncorrected : Option StorageCounter := none
  verifyUncorrected : Option StorageCounter := none
  deriving DecidableEq, Inhabited

structure StorageHealthReport where
  target : Bytes := []
  devices : List Bytes := []
  protocol : StorageProtocol := .unknown
  source : RawSource := .smartctl
  origin : Bytes := []
  status : CollectStatus := .notCollected
  failure : Option ReadFailure := none
  smartAvailable : Option Bool := none
  smartEnabled : Option Bool := none
  passed : Option Bool := none
  nvme : Option NvmeHealth := none
  ataAttributes : List AtaHealthAttribute := []
  scsi : Option ScsiHealth := none
  deriving DecidableEq, Inhabited

structure Storage where
  devices : List StorageDevice := []
  filesystems : List FilesystemReport := []
  mounts : List StorageMount := []
  health : List StorageHealthReport := []
  controllers : List StorageController := []
  nvmeControllers : List NvmeController := []
  scsiHosts : List ScsiHost := []
  deriving DecidableEq, Inhabited

end Sysal
