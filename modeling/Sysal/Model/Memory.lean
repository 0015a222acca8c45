import Sysal.Model.Enums
import Sysal.Model.Values

/-!
# The memory subsystem

Totals, NUMA nodes, memory modules, and the EDAC controllers and devices of the kernel.  The number
of an EDAC controller is neither a NUMA nor a CPU number.
-/

namespace Sysal

structure NumaMemory where
  node : NumaNodeId := 0
  total : MemorySize := 0
  available : Option MemorySize := none
  free : Option MemorySize := none
  deriving DecidableEq, Inhabited

inductive EdacLocationLayer where
  | unknown | branch | channel | slot | chipSelect | allMemory
  deriving DecidableEq, Inhabited

instance : CEnum EdacLocationLayer where
  enumerators := [.unknown, .branch, .channel, .slot, .chipSelect, .allMemory]
  code := EdacLocationLayer.ctorIdx
  enumerators_code := by intro a; cases a <;> rfl

structure EdacLocationCoordinate where
  layer : EdacLocationLayer := .unknown
  index : UInt32 := 0
  deriving DecidableEq, Inhabited

/-- The coordinates in driver order; an unknown format keeps the report only. -/
structure EdacLocation where
  report : Bytes := []
  coordinates : List EdacLocationCoordinate := []
  deriving DecidableEq, Inhabited

inductive EdacMemoryDeviceKind where
  | unknown | dimm | rank
  deriving DecidableEq, Inhabited

instance : CEnum EdacMemoryDeviceKind where
  enumerators := [.unknown, .dimm, .rank]
  code := EdacMemoryDeviceKind.ctorIdx
  enumerators_code := by intro a; cases a <;> rfl

abbrev EdacMemoryDeviceIndex := UInt32

/-- Numbers are unique within one controller and kind only. -/
structure EdacMemoryDevice where
  controllerIndex : UInt32 := 0
  index : EdacMemoryDeviceIndex := 0
  kind : EdacMemoryDeviceKind := .unknown
  label : Bytes := []
  size : Option MemorySize := none
  location : EdacLocation := {}
  memoryType : Bytes := []
  edacMode : Bytes := []
  deviceWidth : Bytes := []
  numaNode : Option NumaNodeId := none
  deriving DecidableEq, Inhabited

/-- How a module is tied to an EDAC device. -/
inductive DimmEdacAssociation where
  | unknown | edacInventory | labelAndCapacity
  deriving DecidableEq, Inhabited

instance : CEnum DimmEdacAssociation where
  enumerators := [.unknown, .edacInventory, .labelAndCapacity]
  code := DimmEdacAssociation.ctorIdx
  enumerators_code := by intro a; cases a <;> rfl

structure MemoryController where
  index : UInt32 := 0
  name : Bytes := []
  capacity : Option MemorySize := none
  correctedErrors : Option UInt64 := none
  uncorrectedErrors : Option UInt64 := none
  numaNode : Option NumaNodeId := none
  pciAddress : Option PciAddress := none
  maxLocation : EdacLocation := {}
  deriving DecidableEq, Inhabited

structure DimmInfo where
  locator : Bytes := []
  bankLocator : Bytes := []
  size : MemorySize := 0
  speedMts : Option TransferRate := none
  manufacturer : Option Bytes := none
  partNumber : Option Bytes := none
  rank : Option UInt32 := none
  totalWidth : Option UInt32 := none
  dataWidth : Option UInt32 := none
  formFactor : Option Bytes := none
  present : Bool := false
  memoryType : Bytes := []
  configuredSpeedMts : Option TransferRate := none
  serial : Bytes := []
  assetTag : Bytes := []
  typeDetail : Bytes := []
  configuredVoltageMv : Option Millivolts := none
  edacMode : Bytes := []
  deviceWidth : Bytes := []
  controllerIndex : Option UInt32 := none
  numaNode : Option NumaNodeId := none
  edacDeviceIndex : Option EdacMemoryDeviceIndex := none
  edacAssociation : DimmEdacAssociation := .unknown
  deriving DecidableEq, Inhabited

structure Memory where
  totalMemory : MemorySize := 0
  availableMemory : Option MemorySize := none
  memoryType : Bytes := []
  configuredSpeedMts : Option TransferRate := none
  numaMemory : List NumaMemory := []
  dimms : List DimmInfo := []
  dimmCount : Option UInt32 := none
  populatedDimms : Option UInt32 := none
  controllers : List MemoryController := []
  dimmInventorySource : Bytes := []
  reportedSlotCount : Option UInt32 := none
  reportedArrayLocation : Bytes := []
  reportedArrayErrorCorrection : Bytes := []
  reportedArrayMaxCapacity : Option MemorySize := none
  reportedSlotsComplete : Option Bool := none
  edacDevices : List EdacMemoryDevice := []
  deriving DecidableEq, Inhabited

end Sysal
