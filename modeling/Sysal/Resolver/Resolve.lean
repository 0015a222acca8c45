import Sysal.Model.System
import Sysal.Resolver.AcceleratorVisibility
import Sysal.Resolver.StorageConnections

/-!
# Merging the domains

`resolve.cpp`: the parsed domains become one `SystemInfo`.  The PCI functions lend their identity and
NUMA node to memory controllers, network interfaces, RDMA devices and storage; the execution context
decides what is visible.

Each fill-in is one function on one element, so that what `resolve` writes to a domain can be read off
its definition.
-/

namespace Sysal

/-- What the parsers produced; a domain is missing when it was not requested or failed. -/
structure ParseResult where
  platform : Option Platform := none
  cpu : Option Cpu := none
  memory : Option Memory := none
  pci : Option Pci := none
  network : Option Network := none
  accelerators : Option Accelerators := none
  storage : Option Storage := none
  software : Option SoftwareStack := none
  execution : Option ExecutionContext := none
  sensors : Option Sensors := none
  acceleratorRuntimeVisibility : List RuntimeVisibility := []
  deriving DecidableEq, Inhabited

namespace Resolve

/-! ### Links through PCI addresses -/

/-- A memory controller without a NUMA node takes the one of its PCI function. -/
def linkController (pci : Pci) (controller : MemoryController) : MemoryController :=
  if controller.numaNode.isNone then
    { controller with numaNode := numaFromPci pci controller.pciAddress controller.numaNode }
  else controller

/-- The NUMA node of the last controller with an index; without one, the value at hand stays. -/
def controllerNuma (controllers : List MemoryController) (index : UInt32)
    (current : Option NumaNodeId) : Option NumaNodeId :=
  controllers.foldl (fun acc controller =>
    if controller.index = index then controller.numaNode else acc) current

def linkDimm (controllers : List MemoryController) (dimm : DimmInfo) : DimmInfo :=
  match dimm.numaNode, dimm.controllerIndex with
  | none, some index => { dimm with numaNode := controllerNuma controllers index none }
  | _, _ => dimm

def linkEdacDevice (controllers : List MemoryController) (device : EdacMemoryDevice) :
    EdacMemoryDevice :=
  if device.numaNode.isNone then
    { device with numaNode := controllerNuma controllers device.controllerIndex none }
  else device

def linkMemory (pci : Pci) (memory : Memory) : Memory :=
  let controllers := memory.controllers.map (linkController pci)
  { memory with
    controllers := controllers
    dimms := memory.dimms.map (linkDimm controllers)
    edacDevices := memory.edacDevices.map (linkEdacDevice controllers) }

/-- An RDMA device takes the identity of its PCI function, and its driver if it has none. -/
def linkRdmaDevice (pci : Pci) (rdma : RdmaDevice) : RdmaDevice :=
  match rdma.pciAddress.bind pci.find with
  | some device =>
      { rdma with
        vendor := device.vendor
        deviceName := device.deviceName
        numaNode := device.numaNode
        driver := if rdma.driver.isEmpty then device.driverName else rdma.driver }
  | none => rdma

def linkInterface (pci : Pci) (interface : NetworkInterface) : NetworkInterface :=
  match interface.pciAddress.bind pci.find with
  | some device =>
      { interface with
        vendor := device.vendor
        deviceName := device.deviceName
        numaNode := interface.numaNode.or device.numaNode }
  | none => interface

def linkStorageDevice (pci : Pci) (storage : StorageDevice) : StorageDevice :=
  match storage.pciAddress.bind pci.find with
  | some device =>
      { storage with
        controllerName := device.deviceName
        numaNode := storage.numaNode.or device.numaNode }
  | none => storage

def linkNetwork (pci : Pci) (network : Network) : Network :=
  { network with
    rdma := { network.rdma with devices := network.rdma.devices.map (linkRdmaDevice pci) }
    interfaces := network.interfaces.map (linkInterface pci) }

/-- Controllers are only added to a storage domain that was parsed; devices are linked anyway. -/
def linkStorage (pci : Pci) (storage : Option Storage) : Storage :=
  let connected := match storage with
    | some storage => resolveStorageConnections storage pci
    | none => {}
  { connected with devices := connected.devices.map (linkStorageDevice pci) }

/-! ### Visibility -/

/-- `compute_cpu_visibility`: without affinity evidence nothing is inferred. -/
def cpuVisibility (execution : ExecutionContext) (logical : LogicalCpu) : LogicalCpu :=
  { logical with
    visibleToCurrentProcess :=
      if logical.online = some false then some false
      else if execution.cpuVisibilityKnown || !execution.visibleLogicalCpuIds.isEmpty then
        some (decide (logical.id ∈ execution.visibleLogicalCpuIds))
      else none }

def computeCpuVisibility (cpu : Cpu) (execution : ExecutionContext) : Cpu :=
  { cpu with logicalCpus := cpu.logicalCpus.map (cpuVisibility execution) }

def computeNetworkVisibility (network : Network) : Network :=
  { network with
    interfaces := network.interfaces.map fun i => { i with visibleToCurrentProcess := true } }

/-- Ids listed but unknown to the model, each with a warning. -/
def phantomIds (label listName noun : Bytes) (known listed : List UInt32) : List Bytes :=
  (listed.filter (· ∉ known)).map fun id =>
    utf8 "[visibility_mismatch] " ++ label ++ utf8 "_" ++ decimal id.toNat ++ utf8 ": in_" ++
      listName ++ utf8 " but " ++ noun ++ utf8 " does not exist in model"

/-- The hint that fewer elements are visible than exist. -/
def constraintHint (label : Bytes) (total visible : ℕ) : List Bytes :=
  if visible < total then
    [utf8 "[constraint] " ++ label ++ utf8 " visibility restricted: " ++ decimal total ++
      utf8 " total, " ++ decimal visible ++ utf8 " visible"]
  else []

/-- The cross-check of one convenience list against the model; an empty list says nothing. -/
def crossCheck (label listName noun : Bytes) (known listed : List UInt32) : List Bytes :=
  if listed.isEmpty then []
  else phantomIds label listName noun known listed ++ constraintHint noun known.length listed.length

def crossCheckCpuVisibility (cpu : Cpu) (execution : ExecutionContext) : List Bytes :=
  crossCheck (utf8 "cpu") (utf8 "visible_logical_cpu_ids") (utf8 "cpu")
    (cpu.logicalCpus.map (·.id)) execution.visibleLogicalCpuIds

def crossCheckAcceleratorVisibility (accelerators : Accelerators) (execution : ExecutionContext) :
    List Bytes :=
  crossCheck (utf8 "accelerator") (utf8 "visible_accelerator_ids") (utf8 "accelerator")
    (accelerators.devices.map (·.id)) execution.visibleAcceleratorIds

end Resolve

open Resolve AcceleratorVisibility

/-- `resolve`: the merged system and the warnings it adds. -/
def resolve (result : ParseResult) : SystemInfo × List Bytes :=
  let pci := result.pci.getD {}
  let execution := result.execution.getD {}
  let cpu := computeCpuVisibility (result.cpu.getD {}) execution
  let visibility := resolveAcceleratorVisibility (result.accelerators.getD {}) execution
    result.acceleratorRuntimeVisibility
  ({ platform := result.platform.getD {}
     cpu := cpu
     memory := linkMemory pci (result.memory.getD {})
     accelerators := visibility.devices
     network := computeNetworkVisibility (linkNetwork pci (result.network.getD {}))
     storage := linkStorage pci result.storage
     pci := pci
     software := result.software.getD {}
     execution := visibility.execution
     sensors := result.sensors.getD {} },
   visibility.warnings ++ crossCheckCpuVisibility cpu visibility.execution ++
     crossCheckAcceleratorVisibility visibility.devices visibility.execution)

end Sysal
