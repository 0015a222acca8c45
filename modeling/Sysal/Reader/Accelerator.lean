import Sysal.Foundation.Decimal
import Sysal.Foundation.JsonLibrary
import Sysal.Foundation.PartialLists
import Sysal.Parser.Accelerator
import Sysal.Reader.FileUtils

/-!
# Reading the accelerators

`accelerator.cpp` and `accelerator_runtime.cpp` of the Linux reader: the management library, the DRM
directory and the three runtimes.  The libraries of the vendors are parameters: what a function of theirs
gives, or nothing where it is missing or fails.

* `ofSources_readAcceleratorBackends`: the records are of the three sources of the accelerators.
-/

namespace Sysal.AcceleratorReader

open FsPath

/-- The record of a document, if it can be written. -/
def documentRecord (json : JsonLibrary) (source : RawSource) (path : Bytes) (document : Json) :
    Option RawEvidence :=
  (json.dump (-1) document).map fun payload => ⟨source, path, payload, .success, none, none⟩

/-! ### The management library -/

/-- The functions of NVML on its device handles. -/
structure NvmlApi (D : Type) where
  /-- The library is there, with its first and last function, and was initialized. -/
  available : Bool
  count : Option ℕ
  /-- `nvmlDeviceGetHandleByIndex_v2`, if there is such a function. -/
  handle : Option (ℕ → Option D)
  name : D → Option Bytes
  uuid : D → Option Bytes
  pci : D → Option Bytes
  memory : D → Option UInt64
  migCount : D → Option ℕ
  migHandle : D → ℕ → Option D
  gpuInstance : D → Option UInt32
  computeInstance : D → Option UInt32
  driver : Option Bytes

section Nvml

variable {D : Type} (json : JsonLibrary) (api : NvmlApi D)

/-- The fields of `nvml_device`. -/
def nvmlFields (handle : D) (index : ℕ) : List (String × Option Json) :=
  [("index", some (Json.ofUInt32 (.ofNat index))), ("name", (api.name handle).map Json.str),
    ("uuid", (api.uuid handle).map Json.str), ("pci_bus_id", (api.pci handle).map Json.str),
    ("memory_total", (api.memory handle).map Json.ofUInt64)]

/-- An instance of a device; it has the UUID of its parent. -/
def nvmlInstance (child : D) (index inst : ℕ) (parent : Bytes) : Json :=
  Json.object (nvmlFields api child index ++
    [("parent_uuid", some (Json.str parent)), ("mig_index", some (Json.ofUInt32 (.ofNat inst))),
      ("gpu_instance_id", (api.gpuInstance child).map Json.ofUInt32),
      ("compute_instance_id", (api.computeInstance child).map Json.ofUInt32)])

/-- The instances of a device; without a UUID of its own it has none. -/
def nvmlInstances (handle : D) (index : ℕ) : List Json :=
  match api.uuid handle, api.migCount handle with
  | some uuid, some count =>
      if count > 1024 then []
      else
        (List.range count).filterMap fun inst =>
          (api.migHandle handle inst).map fun child => nvmlInstance api child index inst uuid
  | _, _ => []

/-- The entries of the device of an index. -/
def nvmlEntries (handle : ℕ → Option D) (index : ℕ) : List Json :=
  match handle index with
  | some device => Json.object (nvmlFields api device index) :: nvmlInstances api device index
  | none => []

/-- The evidence of the library, if it can be asked. -/
def nvmlEvidence : Option Json :=
  match api.available, api.count, api.handle with
  | true, some count, some handle =>
      if count > 65536 then none
      else
        some (Json.object
          [("devices", some (Json.array ((List.range count).flatMap (nvmlEntries api handle)))),
            ("driver_version", api.driver.map Json.str)])
  | _, _, _ => none

/-- `read_nvml`. -/
def readNvml : Option (List RawEvidence) :=
  match nvmlEvidence api with
  | some evidence =>
      (documentRecord json .nvml (utf8 "libnvidia-ml.so.1") evidence).map fun record => [record]
  | none => some []

end Nvml

/-! ### DRM -/

section Drm

variable (json : JsonLibrary) (tree : SysTree)

def drmRoot : Bytes := utf8 "/sys/class/drm"

/-- The evidence of a card with its device. -/
def drmEvidence (name device : Bytes) : Json :=
  Json.object
    (("card", some (Json.str name)) :: ("pci_bus_id", some (Json.str (fileName device))) ::
      (["vendor", "device", "product_name", "unique_id", "mem_info_vram_total", "numa_node"].map
        fun field => (field, (tree.readFile (append device (utf8 field))).toOption.map Json.str)) ++
      [("driver", (tree.readSymlink (append device (utf8 "driver"))).toOption.map fun driver =>
        Json.str (fileName driver))])

/-- The records of an entry. -/
def drmCard (name : FileName) : Option (List RawEvidence) :=
  let entry := append drmRoot name.bytes
  if numbered name.bytes (utf8 "card") then
    match tree.canonical (append entry (utf8 "device")) with
    | .ok device =>
        (documentRecord json .sysfsDrm entry (drmEvidence tree name.bytes device)).map fun record =>
          [record]
    | .error _ => some []
  else some []

/-- `read_drm`. -/
def readDrm : Option (List RawEvidence) :=
  match tree.existence drmRoot with
  | .ok true =>
      let (names, error) := tree.entries drmRoot
      (names.mapM (drmCard json tree)).map fun cards =>
        ⟨.sysfsDrm, drmRoot, utf8 "\x7b\x7d", if error = none then .success else .failed, none, none⟩ ::
          cards.flatten
  | _ => some []

end Drm

/-! ### Runtimes -/

/-- The functions of HIP, those that are needed among them. -/
structure HipApi where
  /-- The status and the number of devices. -/
  count : Int32 × Int32
  pci : ℕ → Option Bytes
  name : ℕ → Option Bytes
  memory : ℕ → Option UInt64
  version : Option Int32

/-- The functions of the CUDA driver, those that are needed among them; a device has a handle. -/
structure CudaApi where
  init : Int32
  count : Option Int32
  device : ℕ → Option Int32
  pci : Int32 → Option Bytes
  uuid : Int32 → Option (Vector UInt8 16)
  name : Int32 → Option Bytes
  memory : Int32 → Option UInt64

/-- The functions of Level Zero, those that are needed among them.  A list of handles is asked for
twice: for its length, and for as many as that. -/
structure LevelZeroApi (D E : Type) where
  init : Int32
  driverCount : Option ℕ
  drivers : ℕ → Option (List D)
  deviceCount : D → Option ℕ
  devices : D → ℕ → Option (List E)
  /-- Domain, bus, device and function. -/
  pci : E → Option (UInt32 × UInt32 × UInt32 × UInt32)
  version : D → Option UInt32

/-- The number of devices a runtime gives, unless the number or the status is out of the question; the
status 100 is that of a machine without devices. -/
def deviceCount (status : Int32) (count : Int32) : Option ℕ :=
  if (status ≠ 0 ∧ status ≠ 100) ∨ count < 0 ∨ 65536 < count then none
  else if status = 100 then some 0
  else some count.toInt.toNat

/-- The evidence of a runtime. -/
def runtimeEvidence (vendor : String) (devices : List Json) (extra : List (String × Option Json)) :
    Json :=
  Json.object (("vendor", some (Json.str (utf8 vendor))) :: ("devices", some (Json.array devices)) ::
    extra)

section Hip

variable (api : HipApi)

/-- A device of HIP; without an address the enumeration is given up. -/
def hipDevice (index : ℕ) : Option Json :=
  (api.pci index).map fun pci =>
    Json.object
      [("pci_bus_id", some (Json.str pci)), ("index", some (Json.ofUInt32 (.ofNat index))),
        ("name", (api.name index).map Json.str), ("memory_total", (api.memory index).map Json.ofUInt64)]

/-- The version of the runtime, out of the digits of one number. -/
def hipVersion (version : Int32) : Option Json :=
  if 0 < version then
    let n := version.toInt.toNat
    some (Json.str (decimal (n / 10000000) ++ 46 :: decimal (n / 100000 % 100) ++
      46 :: decimal (n % 100000)))
  else none

/-- `read_hip`: the evidence. -/
def hipEvidence : Option Json := do
  let count ← deviceCount api.count.1 api.count.2
  let devices ← (List.range count).mapM (hipDevice api)
  return runtimeEvidence "AMD" devices [("runtime_version", api.version.bind hipVersion)]

end Hip

section Cuda

variable (api : CudaApi)

/-- A device of CUDA; without an address or a UUID the enumeration is given up. -/
def cudaDevice (index : ℕ) : Option Json := do
  let device ← api.device index
  let pci ← api.pci device
  let uuid ← api.uuid device
  let hex := uuid.toList.flatMap fun byte => AcceleratorParser.hexPadded 2 byte.toNat
  return Json.object
    [("pci_bus_id", some (Json.str pci)), ("uuid_hex", some (Json.str hex)),
      ("name", (api.name device).map Json.str), ("memory_total", (api.memory device).map Json.ofUInt64)]

/-- `read_cuda`: the evidence; the devices are counted only once the driver is initialized. -/
def cudaEvidence : Option Json := do
  let count ← if api.init = 0 then api.count else some 0
  let count ← deviceCount api.init count
  let devices ← (List.range count).mapM (cudaDevice api)
  return runtimeEvidence "NVIDIA" devices []

end Cuda

section LevelZero

variable {D E : Type} (api : LevelZeroApi D E)

/-- The handles of a list with a length, which must not exceed a bound; the list itself may be shorter. -/
def handles {α : Type} (bound : ℕ) (count : Option ℕ) (list : ℕ → Option (List α)) :
    Option (List α) := do
  let count ← count.filter (· ≤ bound)
  if count = 0 then some [] else (list count).filter fun found => found.length ≤ count

/-- A device of Level Zero. -/
def levelZeroDevice (device : E) : Option Json :=
  (api.pci device).map fun (domain, bus, device, function) =>
    let hex := AcceleratorParser.hexPadded
    Json.object
      [("pci_bus_id", some (Json.str (hex 4 domain.toNat ++ 58 :: hex 2 bus.toNat ++
        58 :: hex 2 device.toNat ++ 46 :: hex 0 function.toNat)))]

/-- The devices of a driver. -/
def levelZeroDevices (driver : D) : Option (List Json) := do
  let devices ← handles 65536 (api.deviceCount driver) (api.devices driver)
  devices.mapM (levelZeroDevice api)

/-- The version of the interface of a driver. -/
def levelZeroVersion (driver : D) : Option Json :=
  (api.version driver).map fun version =>
    Json.str (decimal (version.toNat >>> 16) ++ 46 :: decimal (version.toNat &&& 0xffff))

/-- `read_level_zero`: the evidence; the last driver that tells its version counts. -/
def levelZeroEvidence : Option Json :=
  if api.init ≠ 0 then none
  else do
    let drivers ← handles 1024 api.driverCount api.drivers
    let devices ← drivers.mapM (levelZeroDevices api)
    return runtimeEvidence "Intel" devices.flatten
      [("api_version", drivers.reverse.findSome? (levelZeroVersion api))]

end LevelZero

/-- The libraries of the vendors.  The names of HIP are tried one after another; a library that is there
may lack a function that is needed. -/
structure Vendors where
  NvmlHandle : Type
  nvml : NvmlApi NvmlHandle
  cuda : Option CudaApi
  hip : Bytes → Option (Option HipApi)
  LevelZeroDriver : Type
  LevelZeroDevice : Type
  levelZero : Option (LevelZeroApi LevelZeroDriver LevelZeroDevice)

/-- The HIP library that is asked. -/
def Vendors.hipApi (vendors : Vendors) : Option HipApi :=
  ([utf8 "libamdhip64.so", utf8 "libamdhip64.so.7", utf8 "libamdhip64.so.6",
    utf8 "libamdhip64.so.5"].findSome? vendors.hip).join

section Backends

variable (json : JsonLibrary) (tree : SysTree) (vendors : Vendors)

/-- The record of a runtime, if there is evidence. -/
def runtimeRecords (name : String) (evidence : Option Json) : Option (List RawEvidence) :=
  match evidence with
  | some evidence =>
      (documentRecord json .acceleratorRuntime (utf8 name) evidence).map fun record => [record]
  | none => some []

/-- `read_accelerator_runtimes`. -/
def readAcceleratorRuntimes : Option (List RawEvidence) := do
  let cuda ← runtimeRecords json "CUDA Driver" (vendors.cuda.bind cudaEvidence)
  let hip ← runtimeRecords json "HIP" (vendors.hipApi.bind hipEvidence)
  let levelZero ← runtimeRecords json "Level Zero" (vendors.levelZero.bind levelZeroEvidence)
  return cuda ++ hip ++ levelZero

/-- `read_accelerator_backends`. -/
def readAcceleratorBackends : Option (List RawEvidence) := do
  let nvml ← readNvml json vendors.nvml
  let drm ← readDrm json tree
  let runtimes ← readAcceleratorRuntimes json vendors
  return nvml ++ drm ++ runtimes

end Backends

/-! ### Sources -/

section Sources

variable {json : JsonLibrary} {tree : SysTree} {vendors : Vendors} {records : List RawEvidence}

theorem documentRecord_source {source : RawSource} {path : Bytes} {document : Json}
    {record : RawEvidence} (h : documentRecord json source path document = some record) :
    record.source = source := by
  obtain ⟨payload, -, rfl⟩ := Option.map_eq_some_iff.mp h
  rfl

theorem ofSources_readNvml {D : Type} {api : NvmlApi D} (h : readNvml json api = some records) :
    OfSources [.nvml] records := by
  rw [readNvml] at h
  split at h
  · obtain ⟨record, hrecord, rfl⟩ := Option.map_eq_some_iff.mp h
    exact .cons (List.mem_singleton.mpr (documentRecord_source hrecord)) .nil
  · rw [← Option.some.inj h]
    exact .nil

theorem ofSources_drmCard {name : FileName} (h : drmCard json tree name = some records) :
    OfSources [.sysfsDrm] records := by
  simp only [drmCard] at h
  split at h
  · split at h
    · obtain ⟨record, hrecord, rfl⟩ := Option.map_eq_some_iff.mp h
      exact .cons (List.mem_singleton.mpr (documentRecord_source hrecord)) .nil
    · rw [← Option.some.inj h]
      exact .nil
  · rw [← Option.some.inj h]
    exact .nil

theorem ofSources_readDrm (h : readDrm json tree = some records) : OfSources [.sysfsDrm] records := by
  rw [readDrm] at h
  split at h
  · obtain ⟨cards, hcards, rfl⟩ := Option.map_eq_some_iff.mp h
    refine .cons (List.mem_singleton_self _) fun record hrecord => ?_
    obtain ⟨own, hown, hmem⟩ := List.mem_flatten.mp hrecord
    obtain ⟨name, -, hname⟩ := exists_of_mapM hcards hown
    exact ofSources_drmCard hname record hmem
  · rw [← Option.some.inj h]
    exact .nil

theorem ofSources_runtimeRecords {name : String} {evidence : Option Json}
    (h : runtimeRecords json name evidence = some records) :
    OfSources [.acceleratorRuntime] records := by
  unfold runtimeRecords at h
  split at h
  · obtain ⟨record, hrecord, rfl⟩ := Option.map_eq_some_iff.mp h
    exact .cons (List.mem_singleton.mpr (documentRecord_source hrecord)) .nil
  · rw [← Option.some.inj h]
    exact .nil

theorem ofSources_readAcceleratorBackends (h : readAcceleratorBackends json tree vendors = some records) :
    OfSources [.nvml, .sysfsDrm, .acceleratorRuntime] records := by
  rw [readAcceleratorBackends] at h
  obtain ⟨nvml, hnvml, hrest⟩ := Option.bind_eq_some_iff.mp h
  obtain ⟨drm, hdrm, hrest⟩ := Option.bind_eq_some_iff.mp hrest
  obtain ⟨runtimes, hruntimes, hrecords⟩ := Option.bind_eq_some_iff.mp hrest
  obtain ⟨cuda, hcuda, hruntimes⟩ := Option.bind_eq_some_iff.mp hruntimes
  obtain ⟨hip, hhip, hruntimes⟩ := Option.bind_eq_some_iff.mp hruntimes
  obtain ⟨levelZero, hlevelZero, hruntimes⟩ := Option.bind_eq_some_iff.mp hruntimes
  rw [← Option.some.inj hrecords, ← Option.some.inj hruntimes]
  have hown {found : List RawEvidence} (h : OfSources [.acceleratorRuntime] found) :
      OfSources [.nvml, .sysfsDrm, .acceleratorRuntime] found := h.mono (by decide)
  exact .append (.append ((ofSources_readNvml hnvml).mono (by decide))
    ((ofSources_readDrm hdrm).mono (by decide)))
    (.append (.append (hown (ofSources_runtimeRecords hcuda)) (hown (ofSources_runtimeRecords hhip)))
      (hown (ofSources_runtimeRecords hlevelZero)))

end Sources

end Sysal.AcceleratorReader
