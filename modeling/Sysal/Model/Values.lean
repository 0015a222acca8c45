import Sysal.Foundation.ByteString
import Sysal.Foundation.OrderedContainers

/-!
# Identifiers, units and small value types

The phantom tags of the identifier, unit and named-string templates carry no data, so a tagged value
is its underlying value.  Every number keeps the fixed width of its field.
-/

namespace Sysal

abbrev CpuPackageId := UInt32
abbrev CpuCoreId := UInt32
abbrev LogicalCpuId := UInt32
abbrev NumaNodeId := UInt32
abbrev AcceleratorId := UInt32
abbrev DriverId := UInt32

/-- Bytes. -/
abbrev MemorySize := UInt64
/-- Hertz. -/
abbrev Frequency := UInt64
/-- Bits per second. -/
abbrev Bandwidth := UInt64
/-- Megatransfers per second. -/
abbrev TransferRate := UInt64
/-- Unsigned millidegrees Celsius of the legacy thermal zones. -/
abbrev Temperature := UInt64
abbrev Millivolts := UInt64
abbrev Microseconds := UInt64

/-- A Linux device number. -/
structure DeviceNumber where
  major : UInt32 := 0
  minor : UInt32 := 0
  deriving DecidableEq, Inhabited

/-- A PCI address. -/
structure PciAddress where
  domain : UInt16 := 0
  bus : UInt8 := 0
  device : UInt8 := 0
  function : UInt8 := 0
  deriving DecidableEq, Inhabited

end Sysal
