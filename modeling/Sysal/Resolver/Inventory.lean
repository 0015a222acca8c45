import Mathlib.Data.Finset.Card
import Sysal.Model.System
import Sysal.Parser.ParseUtils

/-!
# Completeness of inventories

`inventory.cpp`: an inventory is complete only when a successful enumeration lists exactly the names
of what was parsed, without repetitions on either side.
-/

namespace Sysal

namespace Inventory

/-- Unknown for an empty inventory, partial otherwise. -/
def observed (kind : InventoryKind) (empty : Bool) (origin : Bytes) : InventoryReport :=
  ⟨kind, if empty then .unknown else .partial_, origin⟩

/-- Whether a list of names and a list of entries are equal as sets and free of repetitions. -/
def sameNames (names entries : List Bytes) : Bool :=
  entries.toFinset.card = entries.length ∧ names.toFinset.card = names.length ∧
    entries.toFinset = names.toFinset

/-- The report on an inventory with names. -/
def report (raw : EvidenceStore) (kind : InventoryKind) (names : List Bytes) (origin : Bytes) :
    InventoryReport :=
  match raw.enumeration kind with
  | none => observed kind names.isEmpty origin
  | some enumeration =>
      if enumeration.status = .success ∧ enumeration.failure = none ∧
          sameNames names enumeration.entries then
        ⟨kind, .complete, enumeration.origin⟩
      else observed kind names.isEmpty enumeration.origin

/-- Whether one topology file of a CPU was read once and holds a 32-bit number. -/
def topologyFieldKnown (raw : EvidenceStore) (cpu : LogicalCpuId) (field : Bytes) : Bool :=
  match raw.get .sysfsCpu (utf8 "/sys/devices/system/cpu/cpu" ++ decimal cpu.toNat ++
      utf8 "/topology/" ++ field) with
  | [record] => record.status = .success && (parseUint (trim record.payload)).any (· ≤ maxUInt32)
  | _ => false

/-- Whether package and core of every logical CPU are known from the topology files. -/
def topologyKnown (cpu : Cpu) (raw : EvidenceStore) : Bool :=
  !cpu.logicalCpus.isEmpty && cpu.logicalCpus.all fun logical =>
    [utf8 "physical_package_id", utf8 "core_id"].all (topologyFieldKnown raw logical.id)

/-- A number in hexadecimal, filled with zeros up to a width. -/
def hexPadded (width n : ℕ) : Bytes :=
  let digits := (Nat.toDigits 16 n).map fun c => c.toNat.toUInt8
  List.replicate (width - digits.length) 48 ++ digits

/-- The sysfs name of a PCI function. -/
def pciName (address : PciAddress) : Bytes :=
  hexPadded 4 address.domain.toNat ++ utf8 ":" ++ hexPadded 2 address.bus.toNat ++ utf8 ":" ++
    hexPadded 2 address.device.toNat ++ utf8 "." ++ hexPadded 0 address.function.toNat

example : pciName ⟨0, 0x3b, 0x1f, 7⟩ = utf8 "0000:3b:1f.7" := by decide

/-- The reports of the CPU domain; packages and cores are as complete as the logical CPUs when the
topology is known. -/
def cpuReports (cpu : Cpu) (raw : EvidenceStore) : List InventoryReport :=
  let logical := report raw .logicalCpus
    (cpu.logicalCpus.map fun entry => utf8 "cpu" ++ decimal entry.id.toNat)
    (utf8 "/sys/devices/system/cpu")
  let promote (r : InventoryReport) : InventoryReport :=
    if topologyKnown cpu raw then { r with completeness := logical.completeness } else r
  [logical,
   promote (observed .cpuPackages cpu.packages.isEmpty logical.origin),
   promote (observed .cpuCores cpu.cores.isEmpty logical.origin),
   report raw .numaNodes (cpu.numaNodes.map fun entry => utf8 "node" ++ decimal entry.id.toNat)
     (utf8 "/sys/devices/system/node"),
   observed .cpuCaches cpu.caches.isEmpty (utf8 "observed CPU caches")]

end Inventory

open Inventory

/-- `inventory_reports`: the reports of the requested domains. -/
def inventoryReports (info : SystemInfo) (raw : EvidenceStore) (flags : Collect) :
    List InventoryReport :=
  (if has flags Collect.cpu then cpuReports info.cpu raw else []) ++
  (if has flags Collect.network then
    [report raw .networkInterfaces (info.network.interfaces.map (·.name)) (utf8 "/sys/class/net")]
    else []) ++
  (if has flags Collect.storage then
    [report raw .blockDevices (info.storage.devices.map (·.name)) (utf8 "/sys/class/block")]
    else []) ++
  (if has flags Collect.pci then
    [report raw .pciDevices (info.pci.devices.map fun entry => pciName entry.address)
      (utf8 "/sys/bus/pci/devices")] else []) ++
  (if has flags Collect.accelerator then
    [observed .acceleratorDevices info.accelerators.devices.isEmpty
      (utf8 "observed accelerator backends")] else [])

end Sysal
