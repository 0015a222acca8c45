import Sysal.Model.Enums
import Sysal.Model.Values

/-!
# Accelerators

The accelerator devices of a snapshot, and the vendors whose runtimes report visibility.
-/

namespace Sysal

/-- One accelerator device; `parentUuid` is set for MIG instances only. -/
structure AcceleratorDevice where
  id : AcceleratorId := 0
  kind : AcceleratorKind := .gpu
  vendor : Bytes := []
  name : Bytes := []
  pciAddress : Option PciAddress := none
  nearestNumaNode : Option NumaNodeId := none
  memorySize : Option MemorySize := none
  driver : Option DriverId := none
  visibleToCurrentProcess : Bool := false
  uuid : Option Bytes := none
  parentUuid : Option Bytes := none
  gpuInstanceId : Option UInt32 := none
  computeInstanceId : Option UInt32 := none
  deriving DecidableEq, Inhabited

structure Accelerators where
  devices : List AcceleratorDevice := []
  deriving DecidableEq, Inhabited

inductive AcceleratorVendor where
  | nvidia | amd | intel
  deriving DecidableEq, Inhabited

def vendorName : AcceleratorVendor → Bytes
  | .nvidia => utf8 "NVIDIA"
  | .amd => utf8 "AMD"
  | .intel => utf8 "Intel"

/-- A complete runtime enumeration; an empty list means no device is visible. -/
structure RuntimeVisibility where
  vendor : AcceleratorVendor
  visible : List AcceleratorId
  deriving DecidableEq, Inhabited

end Sysal
