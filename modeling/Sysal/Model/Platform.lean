import Sysal.Model.Enums
import Sysal.Model.Values

/-!
# The platform

Host, operating system, kernel, architecture, firmware and virtualization, as firmware and the kernel
report them.
-/

namespace Sysal

structure Host where
  hostname : Bytes := []
  machineId : Bytes := []
  productName : Bytes := []
  vendor : Bytes := []
  serial : Bytes := []
  productFamily : Bytes := []
  productVersion : Bytes := []
  productSku : Bytes := []
  productUuid : Bytes := []
  deriving DecidableEq, Inhabited

structure Baseboard where
  vendor : Bytes := []
  name : Bytes := []
  version : Bytes := []
  serial : Bytes := []
  assetTag : Bytes := []
  deriving DecidableEq, Inhabited

structure Chassis where
  vendor : Bytes := []
  type : Option UInt32 := none
  version : Bytes := []
  serial : Bytes := []
  assetTag : Bytes := []
  deriving DecidableEq, Inhabited

structure Os where
  name : Bytes := []
  version : Bytes := []
  distribution : Bytes := []
  distributionVersion : Bytes := []
  codename : Bytes := []
  deriving DecidableEq, Inhabited

structure Kernel where
  release : Bytes := []
  version : Bytes := []
  compiledAt : Bytes := []
  architecture : Bytes := []
  deriving DecidableEq, Inhabited

structure Architecture where
  name : Bytes := []
  bits : UInt32 := 0
  byteOrder : Bytes := []
  deriving DecidableEq, Inhabited

structure Firmware where
  biosVendor : Bytes := []
  biosVersion : Bytes := []
  biosDate : Bytes := []
  uefi : Bool := false
  biosRelease : Bytes := []
  ecFirmwareRelease : Bytes := []
  deriving DecidableEq, Inhabited

structure Virtualization where
  kind : VirtualizationKind := .none
  hypervisor : Bytes := []
  deriving DecidableEq, Inhabited

structure Platform where
  host : Host := {}
  os : Os := {}
  kernel : Kernel := {}
  architecture : Architecture := {}
  firmware : Option Firmware := none
  virtualization : Option Virtualization := none
  baseboard : Option Baseboard := none
  chassis : Option Chassis := none
  deriving DecidableEq, Inhabited

end Sysal
