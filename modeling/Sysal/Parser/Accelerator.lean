import Sysal.Foundation.Json
import Sysal.Parser.AcceleratorInventory
import Sysal.Parser.ParseUtils

/-!
# Reading the accelerators

`accelerator.cpp`: five backends are decoded one after the other into one inventory, which also takes
their warnings.  Evidence in JSON is read through `parse`, the parser of the JSON library on a payload;
it has no result for a text it discards.  An operation without a result is one in which a `next_id` call
of the inventory does not end.

* `uuidHex_length`: a normalised UUID is empty or has 32 characters.
-/

namespace Sysal.AcceleratorParser

open Sysal AcceleratorInventory

/-- The parser of the JSON library. -/
abbrev JsonParser := Bytes → Option Json

/-! ### Fields of the evidence -/

/-- A string member of an object. -/
def stringField (value : Json) (key : String) (fallback : Bytes) : Bytes :=
  ((value.field key).bind Json.asStr).getD fallback

/-- `is_number_unsigned` and the number. -/
def asUnsigned (value : Json) : Option ℕ :=
  match value.asInt with
  | some n => if 0 ≤ n then some n.toNat else none
  | none => none

/-- An unsigned number member of an object. -/
def unsignedField (value : Json) (key : String) : Option ℕ := (value.field key).bind asUnsigned

/-- The entries of a payload that lists devices, with the whole evidence. -/
def deviceEntries (parse : JsonParser) (payload : Bytes) : Option (Json × List Json) := do
  let evidence ← parse payload
  let entries ← evidence.field "devices"
  if evidence.isObject && entries.isArray then some (evidence, entries.items) else none

/-- The 32 characters of a UUID without its prefix and dashes, in lower case; a UUID with a slash or
of another length has none. -/
def uuidHex (value : Bytes) : Bytes :=
  let body := if Bytes.startsWith value (utf8 "GPU-") || Bytes.startsWith value (utf8 "MIG-") then
    value.drop 4 else value
  if 47 ∈ body then []
  else
    let hex := (body.filter (· ≠ 45)).map toLower
    if hex.length = 32 then hex else []

theorem uuidHex_length (value : Bytes) : uuidHex value = [] ∨ (uuidHex value).length = 32 := by
  simp only [uuidHex]
  generalize (if Bytes.startsWith value (utf8 "GPU-") || Bytes.startsWith value (utf8 "MIG-") then
    value.drop 4 else value) = body
  by_cases hslash : 47 ∈ body
  · rw [if_pos hslash]
    exact Or.inl rfl
  · rw [if_neg hslash]
    by_cases hlen : ((body.filter (· ≠ 45)).map toLower).length = 32
    · rw [if_pos hlen]
      exact Or.inr hlen
    · rw [if_neg hlen]
      exact Or.inl rfl

/-! ### NVML -/

/-- A device of the NVML evidence; children and physical devices are read in separate passes. -/
def nvmlDevice (children : Bool) (entry : Json) : Option AcceleratorDevice :=
  if !entry.isObject || (entry.field "parent_uuid").isSome != children then none
  else
    (unsignedField entry "index").map fun index =>
      { id := UInt32.ofNat index
        vendor := utf8 "NVIDIA"
        kind := .gpu
        name := stringField entry "name" (utf8 "NVIDIA GPU")
        uuid := (entry.field "uuid").bind Json.asStr
        parentUuid := if children then (entry.field "parent_uuid").bind Json.asStr else none
        pciAddress := ((entry.field "pci_bus_id").bind Json.asStr).bind parsePciAddress
        memorySize := (unsignedField entry "memory_total").map UInt64.ofNat
        gpuInstanceId := (unsignedField entry "gpu_instance_id").map UInt32.ofNat
        computeInstanceId := (unsignedField entry "compute_instance_id").map UInt32.ofNat }

/-- The additions of the devices that a list of entries describes. -/
def addEntries (device : Json → Option AcceleratorDevice) (entries : List Json) (s : Inventory) :
    Option Inventory :=
  (entries.filterMap device).foldlM add s

/-- A warning of the parser. -/
def warn (s : Inventory) (warnings : List Bytes) : Inventory :=
  { s with warnings := s.warnings ++ warnings }

/-- Physical ordinals are inserted first. -/
def decodeNvmlRecord (parse : JsonParser) (s : Inventory) (record : RawEvidence) :
    Option Inventory :=
  match deviceEntries parse record.payload with
  | none => some (warn s [utf8 "parse_accelerator: malformed NVML evidence"])
  | some (_, entries) =>
      (addEntries (nvmlDevice false) entries s).bind (addEntries (nvmlDevice true) entries)

def decodeNvml (parse : JsonParser) (raw : EvidenceStore) (s : Inventory) : Option Inventory :=
  (raw.successes .nvml).foldlM (decodeNvmlRecord parse) s

/-! ### `nvidia-smi` -/

/-- The units of `memory.total`, by their number of bytes. -/
def unitMultipliers : List (Bytes × ℕ) :=
  [(utf8 "MiB", 1024 * 1024), (utf8 "GiB", 1024 * 1024 * 1024), (utf8 "KiB", 1024), (utf8 "B", 1)]

/-- The multiplier of a unit; an unknown or missing one counts as MiB. -/
def unitMultiplier (unit : Bytes) : ℕ :=
  match unitMultipliers.find? (·.1 = unit) with
  | some (_, multiplier) => multiplier
  | none => 1024 * 1024

/-- The warning about an unknown unit. -/
def unitWarnings (unit : Bytes) : List Bytes :=
  if (unitMultipliers.find? (·.1 = unit)).isSome then []
  else [utf8 "parse_accelerator: nvidia-smi memory.total 未知单位: " ++ unit ++
    utf8 "，默认按 MiB 处理"]

/-- `memory.total`: a number and a unit. -/
def nvidiaSmiMemory (field : Bytes) : Option MemorySize × List Bytes :=
  let parts := split (trim field) 32
  match parseUint (trim (parts.headD [])) with
  | none =>
      (none, [utf8 "parse_accelerator: nvidia-smi memory.total 数值解析失败: " ++
        trim (parts.headD [])])
  | some num =>
      let unit := (parts[1]?).map trim
      let multiplier := (unit.map unitMultiplier).getD (1024 * 1024)
      let warnings := (unit.map unitWarnings).getD []
      if num ≤ maxUInt64 / multiplier then (some (UInt64.ofNat (num * multiplier)), warnings)
      else (none, warnings ++ [utf8 "parse_accelerator: nvidia-smi memory size out of range"])

/-- `parse_nvidia_smi_row`: `index, name, memory.total, pci.bus_id, driver_version, uuid`. -/
def parseNvidiaSmiRow (line : Bytes) : Option AcceleratorDevice × List Bytes :=
  match split line 44 with
  | index :: name :: memory :: bus :: rest =>
      match (parseUint (trim index)).filter (· < maxUInt32) with
      | none => (none, [utf8 "parse_accelerator: nvidia-smi index 解析失败: " ++ trim index])
      | some number =>
          let size := nvidiaSmiMemory memory
          let uuid := (rest[1]?).map trim
          let pci := parsePciAddress (trim bus)
          (some
            { id := UInt32.ofNat number
              kind := .gpu
              vendor := utf8 "NVIDIA"
              visibleToCurrentProcess := true
              name := trim name
              memorySize := size.1
              uuid := uuid.filter fun u => Bytes.startsWith u (utf8 "GPU-")
              pciAddress := pci },
            size.2 ++ (if pci.isSome then []
              else [utf8 "parse_accelerator: nvidia-smi pci.bus_id 解析失败: " ++ trim bus]))
  | _ => (none, [utf8 "parse_accelerator: nvidia-smi CSV 字段不足: " ++ line])

def isNvidiaSmiHeader (line : Bytes) : Bool :=
  Bytes.hasSub (trim line) (utf8 "index") || Bytes.hasSub (trim line) (utf8 "name")

def decodeNvidiaSmiLine (s : Inventory) (line : Bytes) : Option Inventory :=
  if (trim line).isEmpty || isNvidiaSmiHeader line then some s
  else
    match parseNvidiaSmiRow line with
    | (some device, warnings) => add (warn s warnings) device
    | (none, warnings) => some (warn s warnings)

def decodeNvidiaSmi (raw : EvidenceStore) (s : Inventory) : Option Inventory :=
  (raw.successes .nvidiaSmi).foldlM
    (fun s record => (split record.payload 10).foldlM decodeNvidiaSmiLine s) s

/-! ### The list of MIG devices -/

/-- The text between `(UUID: ` and the next parenthesis. -/
def migUuid (value : Bytes) : Option Bytes :=
  (Bytes.after value (utf8 "(UUID: ")).bind fun rest => (Bytes.cut rest 41).map (·.1)

/-- A physical device named by its index takes over the UUID of the list. -/
def assignUuid (index : Option ℕ) (uuid : Bytes) (device : AcceleratorDevice) : AcceleratorDevice :=
  if device.parentUuid.isNone ∧ device.vendor = utf8 "NVIDIA" ∧ index = some device.id.toNat then
    { device with uuid := some uuid }
  else device

/-- A MIG device of the list, at the place of its physical device. -/
def migDevice (devices : List AcceleratorDevice) (value uuid parent : Bytes) : AcceleratorDevice :=
  let physical := devices.reverse.find? (·.uuid = some parent)
  { vendor := utf8 "NVIDIA"
    kind := .gpu
    name := trim (((Bytes.cutSub value (utf8 "Device")).map (·.1)).getD value)
    uuid := some uuid
    parentUuid := some parent
    pciAddress := physical.bind (·.pciAddress)
    nearestNumaNode := physical.bind (·.nearestNumaNode) }

/-- One line of the list; the parent is the last physical device before it. -/
def decodeMigLine (state : Option Bytes × Inventory) (line : Bytes) :
    Option (Option Bytes × Inventory) :=
  let value := trim line
  match migUuid value with
  | none => some state
  | some uuid =>
      if Bytes.startsWith value (utf8 "GPU ") then
        let index := parseUint ((value.drop 4).takeWhile (· ≠ 58))
        some (some uuid,
          { state.2 with devices := state.2.devices.map (assignUuid index uuid) })
      else if Bytes.startsWith value (utf8 "MIG ") then
        match state.1 with
        | some parent =>
            (add state.2 (migDevice state.2.devices value uuid parent)).map (state.1, ·)
        | none => some state
      else some state

def decodeMigList (raw : EvidenceStore) (s : Inventory) : Option Inventory :=
  (raw.successes .nvidiaMigList).foldlM
    (fun s record => ((split record.payload 10).foldlM decodeMigLine (none, s)).map (·.2)) s

/-! ### Runtime inventories -/

/-- A UUID in its dashed spelling. -/
def formatUuid (hex : Bytes) : Bytes :=
  hex.take 8 ++ utf8 "-" ++ (hex.drop 8).take 4 ++ utf8 "-" ++ (hex.drop 12).take 4 ++ utf8 "-" ++
    (hex.drop 16).take 4 ++ utf8 "-" ++ hex.drop 20

/-- The UUID and the parent of a CUDA device: a device at the address of a physical one with another
UUID is a MIG instance of it. -/
def runtimeIdentity (devices : List AcceleratorDevice) (pci : PciAddress) (hex : Bytes) :
    Option Bytes × Option Bytes :=
  if hex.length = 32 then
    match devices.reverse.find? fun parent => parent.parentUuid.isNone &&
        parent.pciAddress = some pci && parent.uuid.any (uuidHex · ≠ hex) with
    | some parent => (some (utf8 "MIG-" ++ formatUuid hex), parent.uuid)
    | none => (some (utf8 "GPU-" ++ formatUuid hex), none)
  else (none, none)

/-- One entry of a runtime inventory. -/
def decodeRuntimeEntry (vendor : Bytes) (s : Inventory) (entry : Json) : Option Inventory :=
  if !entry.isObject then some s
  else
    match parsePciAddress (stringField entry "pci_bus_id" []) with
    | none => some s
    | some pci =>
        let hex := stringField entry "uuid_hex" []
        let nvidia := vendor = utf8 "NVIDIA"
        if nvidia ∧ s.devices.any (fun device => device.uuid.any (uuidHex · = hex)) then some s
        else
          (nextId s.devices).bind fun id =>
            let identity := if nvidia then runtimeIdentity s.devices pci hex else (none, none)
            add s
              { id := id
                vendor := vendor
                kind := .gpu
                name := stringField entry "name" (vendor ++ utf8 " GPU")
                pciAddress := some pci
                uuid := identity.1
                parentUuid := identity.2
                memorySize := (unsignedField entry "memory_total").map UInt64.ofNat }

def decodeRuntimeRecord (parse : JsonParser) (s : Inventory) (record : RawEvidence) :
    Option Inventory :=
  match deviceEntries parse record.payload with
  | none => some s
  | some (evidence, entries) =>
      let vendor := stringField evidence "vendor" []
      if vendor = utf8 "AMD" ∨ vendor = utf8 "Intel" ∨ vendor = utf8 "NVIDIA" then
        entries.foldlM (decodeRuntimeEntry vendor) s
      else some s

def decodeRuntimeInventory (parse : JsonParser) (raw : EvidenceStore) (s : Inventory) :
    Option Inventory :=
  (raw.successes .acceleratorRuntime).foldlM (decodeRuntimeRecord parse) s

/-! ### DRM -/

/-- A hexadecimal number in lower case, padded with zeros. -/
def hexPadded (width n : ℕ) : Bytes :=
  let digits := (Nat.toDigits 16 n).map fun c => c.toNat.toUInt8
  List.replicate (width - digits.length) 48 ++ digits

/-- The vendor of a PCI vendor number. -/
def drmVendor (number : ℕ) : Option Bytes :=
  if number = 0x1002 then some (utf8 "AMD")
  else if number = 0x8086 then some (utf8 "Intel")
  else if number = 0x10de then some (utf8 "NVIDIA")
  else none

/-- The device of one DRM entry, under an ordinal. -/
def drmDevice (vendor : Bytes) (entry : Json) (id : AcceleratorId) : AcceleratorDevice :=
  { id := id
    vendor := vendor
    kind := .gpu
    name := trim (stringField entry "product_name"
      (vendor ++ utf8 " GPU " ++ trim (stringField entry "device" [])))
    pciAddress := parsePciAddress (stringField entry "pci_bus_id" [])
    memorySize := (parseUint (trim (stringField entry "mem_info_vram_total" []))).map UInt64.ofNat
    nearestNumaNode := (parseUint (trim (stringField entry "numa_node" []))).map UInt32.ofNat
    uuid := ((parseHex (trim (stringField entry "unique_id" []))).filter (· ≠ 0)).map fun unique =>
      utf8 "GPU-" ++ hexPadded 16 unique }

def decodeDrmRecord (parse : JsonParser) (s : Inventory) (record : RawEvidence) :
    Option Inventory :=
  match (parse record.payload).filter (·.isObject) with
  | none => some (warn s [utf8 "parse_accelerator: malformed DRM evidence"])
  | some entry =>
      match (parseHex (trim (stringField entry "vendor" []))).bind drmVendor with
      | none => some s
      | some vendor => (nextId s.devices).bind fun id => add s (drmDevice vendor entry id)

/-- The records are read by increasing path. -/
def decodeDrm (parse : JsonParser) (raw : EvidenceStore) (s : Inventory) : Option Inventory :=
  let drm := (raw.getAll .sysfsDrm).mergeSort fun left right =>
    (compare left.pathOrCommand right.pathOrCommand).isLE
  (drm.filter (·.status = .success)).foldlM (decodeDrmRecord parse) s

/-! ### The parser -/

/-- A PCI address as sysfs spells it. -/
def pciText (a : PciAddress) : Bytes :=
  hexPadded 4 a.domain.toNat ++ utf8 ":" ++ hexPadded 2 a.bus.toNat ++ utf8 ":" ++
    hexPadded 2 a.device.toNat ++ utf8 "." ++ hexPadded 0 a.function.toNat

/-- The NUMA node of a PCI device: the first record of it that holds a number. -/
def findNumaNodeForPci (raw : EvidenceStore) (address : PciAddress) : Option NumaNodeId :=
  ((raw.successes .sysfsPci).filter fun record =>
    Bytes.hasSub record.pathOrCommand (pciText address) &&
      Bytes.hasSub record.pathOrCommand (utf8 "numa_node")).findSome? fun record =>
        (parseUint (trim record.payload)).map UInt32.ofNat

/-- Devices with an address but no node take the node of the address. -/
def fillNumaNode (raw : EvidenceStore) (device : AcceleratorDevice) : AcceleratorDevice :=
  match device.pciAddress with
  | some address =>
      if device.nearestNumaNode.isNone then
        { device with nearestNumaNode := findNumaNodeForPci raw address }
      else device
  | none => device

/-- The five backends in their order. -/
def decodeBackends (parse : JsonParser) (raw : EvidenceStore) : Option Inventory :=
  (decodeNvml parse raw {}).bind fun s => (decodeNvidiaSmi raw s).bind fun s =>
    (decodeMigList raw s).bind fun s => (decodeRuntimeInventory parse raw s).bind fun s =>
      decodeDrm parse raw s

/-- `parse_accelerator`: the accelerators, if a backend was readable, and the warnings. -/
def parseAccelerator (parse : JsonParser) (raw : EvidenceStore) :
    Option (Option Accelerators × List Bytes) :=
  (decodeBackends parse raw).map fun s =>
    let devices := s.devices.map (fillNumaNode raw)
    if devices.isEmpty && !raw.hasSuccess .sysfsDrm && !raw.hasSuccess .nvml then
      (none, s.warnings ++ [utf8 "parse_accelerator: no readable accelerator backend"])
    else (some { devices := devices }, s.warnings)

/-! ### Runtime visibility -/

/-- `accelerator_vendor`. -/
def acceleratorVendor (name : Bytes) : Option AcceleratorVendor :=
  if name = utf8 "NVIDIA" then some .nvidia
  else if name = utf8 "AMD" then some .amd
  else if name = utf8 "Intel" then some .intel
  else none

/-- Address and UUID of every entry, if all of them have an address. -/
def runtimeEntries : List Json → Option (List (PciAddress × Bytes))
  | [] => some []
  | entry :: entries =>
      if !entry.isObject then none
      else match parsePciAddress (stringField entry "pci_bus_id" []) with
        | none => none
        | some pci => (runtimeEntries entries).map ((pci, stringField entry "uuid_hex" []) :: ·)

/-- Whether an inventory device is the one an entry describes. -/
def matchesEntry (vendor : AcceleratorVendor) (entry : PciAddress × Bytes)
    (device : AcceleratorDevice) : Bool :=
  if device.vendor ≠ vendorName vendor then false
  else match vendor with
    | .nvidia => device.uuid.any (uuidHex · = entry.2)
    | _ => device.pciAddress = some entry.1

/-- The ids of the devices that match the entries; an entry without a device leaves none. -/
def visibleIds (vendor : AcceleratorVendor) (devices : Accelerators) :
    List (PciAddress × Bytes) → Option (List AcceleratorId)
  | [] => some []
  | entry :: entries =>
      let found := devices.devices.filter (matchesEntry vendor entry)
      if found.isEmpty then none
      else (visibleIds vendor devices entries).map (found.map (·.id) ++ ·)

/-- The observation of one record. -/
def observeRecord (parse : JsonParser) (devices : Accelerators) (record : RawEvidence) :
    Option RuntimeVisibility := do
  let (evidence, entries) ← deviceEntries parse record.payload
  let vendor ← acceleratorVendor (stringField evidence "vendor" [])
  let described ← runtimeEntries entries
  let visible ← visibleIds vendor devices described
  return { vendor := vendor, visible := visible }

/-- `parse_accelerator_runtime_visibility`. -/
def parseAcceleratorRuntimeVisibility (parse : JsonParser) (raw : EvidenceStore)
    (devices : Accelerators) : List RuntimeVisibility :=
  (raw.successes .acceleratorRuntime).filterMap (observeRecord parse devices)

end Sysal.AcceleratorParser
