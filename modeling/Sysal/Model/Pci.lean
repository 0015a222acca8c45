import Sysal.Model.Values

/-!
# PCI devices

The PCI functions of the system; every other domain refers to a function by its address.
-/

namespace Sysal

structure PciDevice where
  address : PciAddress := {}
  vendor : Bytes := []
  deviceName : Bytes := []
  deviceClass : Bytes := []
  numaNode : Option NumaNodeId := none
  physicalSlot : Bytes := []
  firmwareLabel : Bytes := []
  currentLinkSpeed : Bytes := []
  maxLinkSpeed : Bytes := []
  currentLinkWidth : Option UInt32 := none
  maxLinkWidth : Option UInt32 := none
  upstreamAddress : Option PciAddress := none
  physicalFunction : Option PciAddress := none
  driverName : Bytes := []
  localCpus : List LogicalCpuId := []
  maximumVirtualFunctions : Option UInt32 := none
  enabledVirtualFunctions : Option UInt32 := none
  deriving DecidableEq, Inhabited

structure Pci where
  devices : List PciDevice := []
  deriving DecidableEq, Inhabited

/-- `Pci::find`: the first device with an address. -/
def Pci.find (pci : Pci) (address : PciAddress) : Option PciDevice :=
  pci.devices.find? (·.address = address)

end Sysal
