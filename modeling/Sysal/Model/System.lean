import Sysal.Foundation.Json
import Sysal.Model.Accelerator
import Sysal.Model.Cpu
import Sysal.Model.Execution
import Sysal.Model.Memory
import Sysal.Model.Network
import Sysal.Model.Pci
import Sysal.Model.Platform
import Sysal.Model.RawStore
import Sysal.Model.Software
import Sysal.Model.Storage

/-!
# The snapshot

`SystemInfo` holds the eleven domains, the hardware health among them; `System` adds the metadata of
the collection, its warnings and, on request, the raw evidence.
-/

namespace Sysal

/-! ### Hardware health -/

inductive HealthSeverity where
  | information | warning | critical
  deriving DecidableEq, Inhabited

instance : CEnum HealthSeverity where
  enumerators := [.information, .warning, .critical]
  code := HealthSeverity.ctorIdx
  enumerators_code := by intro a; cases a <;> rfl

inductive SensorAlertKind where
  | driverAlarm | fault | criticalLimit | belowMinimum | aboveMaximum
  deriving DecidableEq, Inhabited

instance : CEnum SensorAlertKind where
  enumerators := [.driverAlarm, .fault, .criticalLimit, .belowMinimum, .aboveMaximum]
  code := SensorAlertKind.ctorIdx
  enumerators_code := by intro a; cases a <;> rfl

inductive HealthCoverageStatus where
  | notRequested | unavailable | partial_ | available
  deriving DecidableEq, Inhabited

instance : CEnum HealthCoverageStatus where
  enumerators := [.notRequested, .unavailable, .partial_, .available]
  code := HealthCoverageStatus.ctorIdx
  enumerators_code := by intro a; cases a <;> rfl

inductive DriveFindingKind where
  | smartFailed | nvmeWarning | spareLow | enduranceEstimate | ataCurrent | ataHistorical |
  nvmeMediaHistory | scsiHistory
  deriving DecidableEq, Inhabited

instance : CEnum DriveFindingKind where
  enumerators :=
    [.smartFailed, .nvmeWarning, .spareLow, .enduranceEstimate, .ataCurrent, .ataHistorical,
     .nvmeMediaHistory, .scsiHistory]
  code := DriveFindingKind.ctorIdx
  enumerators_code := by intro a; cases a <;> rfl

structure SensorAlert where
  sensor : Bytes := []
  kind : SensorAlertKind := .driverAlarm
  severity : HealthSeverity := .information
  origin : Bytes := []
  deriving DecidableEq, Inhabited

structure StorageAlert where
  device : Bytes := []
  degradedMembers : UInt32 := 0
  severity : HealthSeverity := .warning
  origin : Bytes := []
  deriving DecidableEq, Inhabited

structure MemoryErrorEvent where
  controllerIndex : UInt32 := 0
  corrected : Option UInt64 := none
  uncorrected : Option UInt64 := none
  severity : HealthSeverity := .information
  origin : Bytes := []
  deriving DecidableEq, Inhabited

/-- What the findings of a domain rest on. -/
structure HealthCoverage where
  domain : Bytes := []
  status : HealthCoverageStatus := .notRequested
  usableReadings : UInt32 := 0
  alarmReports : UInt32 := 0
  deriving DecidableEq, Inhabited

structure DriveFinding where
  target : Bytes := []
  kind : DriveFindingKind := .smartFailed
  severity : HealthSeverity := .information
  origin : Bytes := []
  attributeId : Option UInt8 := none
  deriving DecidableEq, Inhabited

structure HardwareHealth where
  sensorAlerts : List SensorAlert := []
  storageAlerts : List StorageAlert := []
  memoryEvents : List MemoryErrorEvent := []
  coverage : List HealthCoverage := []
  driveFindings : List DriveFinding := []
  deriving DecidableEq, Inhabited

/-! ### Metadata -/

/-- The completeness of one inventory. -/
structure InventoryReport where
  inventory : InventoryKind := .cpuPackages
  completeness : InventoryCompleteness := .unknown
  origin : Bytes := []
  deriving DecidableEq, Inhabited

/-- One read, without its payload. -/
structure CollectionObservation where
  domain : Bytes
  source : RawSource
  origin : Bytes
  status : CollectStatus
  failure : Option ReadFailure := none
  skip : Option SkipReason := none
  deriving DecidableEq, Inhabited

/-- The metadata of a collection; the time is in nanoseconds, the duration in seconds. -/
structure SnapshotMeta where
  collectTime : Int64 := 0
  sysalVersion : Bytes := []
  collectDuration : FiniteDouble := default
  requestedFlags : Collect := 0
  succeededCollectors : List Bytes := []
  failedCollectors : List Bytes := []
  observations : List CollectionObservation := []
  inventories : List InventoryReport := []
  collectionRequest : Option CollectionRequest := none
  deriving DecidableEq, Inhabited

/-! ### The system -/

structure SystemInfo where
  platform : Platform := {}
  cpu : Cpu := {}
  memory : Memory := {}
  accelerators : Accelerators := {}
  network : Network := {}
  storage : Storage := {}
  pci : Pci := {}
  software : SoftwareStack := {}
  execution : ExecutionContext := {}
  sensors : Sensors := {}
  hardwareHealth : HardwareHealth := {}
  deriving DecidableEq, Inhabited

structure System where
  info : SystemInfo := {}
  snapshot : SnapshotMeta := {}
  warnings : List Bytes := []
  raw : Option RawStore := none
  deriving DecidableEq, Inhabited

end Sysal
