import Sysal.Model.Pci
import Sysal.Model.Storage
import Sysal.Parser.ParseUtils

/-!
# Storage controllers and the PCI functions behind them

`storage_connections.cpp` of the resolver: every PCI function of class mass storage becomes a
controller, and the NVMe controllers and SCSI hosts take their NUMA node from their PCI function.
-/

namespace Sysal

/-- The class code of a PCI function, without the optional hexadecimal prefix. -/
def pciClassCode (deviceClass : Bytes) : Option ℕ :=
  parseHex
    (if Bytes.startsWith deviceClass (utf8 "0x") || Bytes.startsWith deviceClass (utf8 "0X") then
      deviceClass.drop 2
    else deviceClass)

/-- The controller of a PCI function of the mass-storage class. -/
def storageController (device : PciDevice) : Option StorageController :=
  match pciClassCode device.deviceClass with
  | some code =>
      if code > 0xffffff ∨ code >>> 16 ≠ 1 then none
      else some
        { pciAddress := device.address
          classCode := .ofNat code
          vendor := device.vendor
          model := device.deviceName
          driver := device.driverName
          numaNode := device.numaNode }
  | none => none

/-- The NUMA node of the PCI function at an address; without one, the value at hand stays. -/
def numaFromPci (pci : Pci) (address : Option PciAddress) (current : Option NumaNodeId) :
    Option NumaNodeId :=
  match address.bind pci.find with
  | some device => device.numaNode
  | none => current

def resolveStorageConnections (storage : Storage) (pci : Pci) : Storage :=
  { storage with
    controllers := storage.controllers ++ pci.devices.filterMap storageController
    nvmeControllers := storage.nvmeControllers.map fun controller =>
      { controller with numaNode := numaFromPci pci controller.pciAddress controller.numaNode }
    scsiHosts := storage.scsiHosts.map fun host =>
      { host with numaNode := numaFromPci pci host.pciAddress host.numaNode } }

/-- A controller comes with the class code of a mass-storage function, which has 24 bits. -/
theorem storageController_classCode {device : PciDevice} {controller : StorageController}
    (h : storageController device = some controller) :
    controller.classCode.toNat ≤ 0xffffff ∧ controller.classCode.toNat >>> 16 = 1 := by
  simp only [storageController] at h
  split at h
  · rename_i code _
    split at h
    · cases h
    · rename_i hcode
      have hle : code ≤ 0xffffff := by omega
      have hval : (UInt32.ofNat code).toNat = code :=
        UInt32.toNat_ofNat_of_lt' (by show code < 2 ^ 32; omega)
      rw [← Option.some.inj h]
      show (UInt32.ofNat code).toNat ≤ _ ∧ (UInt32.ofNat code).toNat >>> 16 = 1
      rw [hval]
      exact ⟨hle, by tauto⟩
  · cases h

end Sysal
