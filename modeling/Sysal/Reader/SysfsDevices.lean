import Sysal.Reader.FileUtils

/-!
# Reading the device trees of sysfs

`pci.cpp`, `rdma.cpp`, `memory_topology.cpp` and `storage_connections.cpp` of the Linux reader.  Every
reader is the list of the records it adds, in their order.

* `ofSources_readPciSysfs` and the ones behind it: the records of a reader are of its own sources.
-/

namespace Sysal.SysfsReader

open FsPath

variable (tree : SysTree)

/-! ### PCI functions -/

def pciDirectory : Bytes := utf8 "/sys/bus/pci/devices"

/-- One entry of the PCI directory. -/
def readPciDevice (name : FileName) : List RawEvidence :=
  let directory := append pciDirectory name.bytes
  let link (field : String) : RawEvidence :=
    answerRecord .sysfsPci (append directory (utf8 field))
      (tree.readSymlink (append directory (utf8 field)))
  readFields tree .sysfsPci directory
      ["vendor", "device", "class", "numa_node", "physical_slot", "label", "current_link_speed",
       "max_link_speed", "current_link_width", "max_link_width", "local_cpulist", "sriov_totalvfs",
       "sriov_numvfs"] ++
    [link "driver", link "physfn",
      answerRecord .sysfsPci (append directory (utf8 "sysfs_path")) (tree.canonical directory)]

/-- `read_pci_sysfs`. -/
def readPciSysfs : List RawEvidence :=
  (tree.entries pciDirectory).1.flatMap (readPciDevice tree) ++
    directoryFailure .sysfsPci pciDirectory (tree.entries pciDirectory).2

def pciEnumeration : InventoryEnumeration :=
  inventoryEnumeration tree .sysfsPci .pciDevices pciDirectory []

/-! ### RDMA devices -/

def rdmaDirectory : Bytes := utf8 "/sys/class/infiniband"

/-- `directory_status`. -/
def directoryStatus (path : Bytes) (error : Option ℕ) : RawEvidence :=
  { source := .sysfsRdma
    pathOrCommand := path
    payload := []
    status := if error = none then .success else .notCollected
    failure := error.map fileFailure }

/-- A record that only says that a path is there. -/
def presentRecord (path : Bytes) : RawEvidence := ⟨.sysfsRdma, path, [], .success, none, none⟩

/-- The numeric names of a directory. -/
def numericNames (path : Bytes) : List FileName :=
  (tree.entries path).1.filter fun name => name.bytes.all isDigit

/-- `read_port`. -/
def readPort (path : Bytes) : List RawEvidence :=
  let ndevs := append path (utf8 "gid_attrs/ndevs")
  presentRecord path ::
    (readFields tree .sysfsRdma path
        ["state", "phys_state", "rate", "link_layer", "lid", "sm_lid", "sm_sl", "lid_mask_count",
         "cap_mask"] ++
      (numericNames tree ndevs).map (fun name =>
        readFileRecord tree .sysfsRdma (append ndevs name.bytes)) ++
      [directoryStatus ndevs (tree.entries ndevs).2])

/-- `read_device`. -/
def readRdmaDevice (path : Bytes) : List RawEvidence :=
  let driver := append path (utf8 "device/driver")
  let net := append path (utf8 "device/net")
  let ports := append path (utf8 "ports")
  presentRecord path ::
    (readFields tree .sysfsRdma path
        ["node_type", "node_guid", "sys_image_guid", "node_desc", "fw_ver"] ++
      [answerRecord .sysfsRdma (append path (utf8 "sysfs_path")) (tree.canonical path),
        answerRecord .sysfsRdma driver (tree.readSymlink driver)] ++
      (tree.entries net).1.map (fun name => presentRecord (append net name.bytes)) ++
      [directoryStatus net (tree.entries net).2] ++
      (numericNames tree ports).flatMap (fun name => readPort tree (append ports name.bytes)) ++
      [directoryStatus ports (tree.entries ports).2])

/-- `read_rdma_sysfs`. -/
def readRdmaSysfs : List RawEvidence :=
  let (names, error) := tree.entries rdmaDirectory
  names.flatMap (fun name => readRdmaDevice tree (append rdmaDirectory name.bytes)) ++
    match error with
    | some error =>
        if names = [] then [directoryStatus rdmaDirectory (some error)]
        else directoryFailure .sysfsRdma rdmaDirectory (some error)
    | none => [directoryStatus rdmaDirectory none]

/-! ### Memory controllers -/

def edacDirectory : Bytes := utf8 "/sys/devices/system/edac/mc"

/-- `read_devices`. -/
def readMemoryDevices (controller : Bytes) : List RawEvidence :=
  let (names, error) := tree.entries controller
  (names.flatMap fun name =>
    if numbered name.bytes (utf8 "dimm") ∨ numbered name.bytes (utf8 "rank") then
      let (isDirectory, failure) := entryIsDirectory tree .sysfsEdac (append controller name.bytes)
      failure ++
        if isDirectory then
          readFields tree .sysfsEdac (append controller name.bytes)
            ["dimm_mem_type", "size", "dimm_label", "dimm_location", "dimm_dev_type",
             "dimm_edac_mode"]
        else []
    else []) ++
    match error with
    | some error => [⟨.sysfsEdac, controller, [], .failed, some (fileFailure error), none⟩]
    | none => []

/-- One entry of the controller directory, and whether it is a controller. -/
def readMemoryController (name : FileName) : List RawEvidence × Bool :=
  let directory := append edacDirectory name.bytes
  if numbered name.bytes (utf8 "mc") then
    let (isDirectory, failure) := entryIsDirectory tree .sysfsEdac directory
    if isDirectory then
      let device := append directory (utf8 "device")
      (failure ++
        readFields tree .sysfsEdac directory
          ["mc_name", "size_mb", "ce_count", "ue_count", "device/numa_node", "max_location"] ++
        (match tree.readSymlink device with
          | .ok target => [⟨.sysfsEdac, device, target, .success, none, none⟩]
          | .error _ => []) ++
        readMemoryDevices tree directory, true)
    else (failure, false)
  else ([], false)

/-- `read_edac_sysfs`. -/
def readEdacSysfs : List RawEvidence :=
  let absent (error : Option ℕ) : RawEvidence :=
    ⟨.sysfsEdac, edacDirectory, [], .notCollected,
      some ((error.map fileFailure).getD .notPresent), none⟩
  match tree.isDirectory edacDirectory with
  | .error error => [absent (some error)]
  | .ok false => [absent none]
  | .ok true =>
      let (names, error) := tree.entries edacDirectory
      let controllers := names.map (readMemoryController tree)
      controllers.flatMap (·.1) ++
        if error ≠ none ∨ ¬controllers.any (·.2) then [absent error] else []

/-! ### Storage connections -/

section Connections

/-- A canonical path under the name it is asked for by. -/
def canonicalRecord (origin target : Bytes) : RawEvidence :=
  answerRecord .sysfsStorageConnections origin (tree.canonical target)

/-- `entries`: a directory that cannot be opened is left out, and one that ends early is partial. -/
def connectionEntries (root : Bytes) (read : FileName → List RawEvidence) : List RawEvidence :=
  match tree.entries root with
  | ([], some error) =>
      [⟨.sysfsStorageConnections, root, [], .notCollected, some (fileFailure error), none⟩]
  | (names, error) =>
      ⟨.sysfsStorageConnections, root, [], .success, none, none⟩ ::
        (names.flatMap read ++ directoryFailure .sysfsStorageConnections root error)

/-- `nvme_controller` and `scsi_host`: a numbered entry with its path and its fields. -/
def connectionDevice (root pat : Bytes) (fields : List String) (name : FileName) : List RawEvidence :=
  let path := append root name.bytes
  if numbered name.bytes pat then
    canonicalRecord tree (append path (utf8 "sysfs_path")) path ::
      readFields tree .sysfsStorageConnections path fields
  else []

def nvmeController (root : Bytes) : FileName → List RawEvidence :=
  connectionDevice tree root (utf8 "nvme")
    ["transport", "address", "model", "serial", "firmware_rev", "state", "cntlid", "subsysnqn"]

def scsiHost (root : Bytes) : FileName → List RawEvidence :=
  connectionDevice tree root (utf8 "host") ["proc_name", "state", "supported_mode", "active_mode"]

/-- The paths of a namespace with several controllers. -/
def multipathRecords (path : Bytes) : List RawEvidence :=
  let multipath := append path (utf8 "multipath")
  match tree.isDirectory multipath with
  | .ok true =>
      connectionEntries tree multipath fun name =>
        let entry := append multipath name.bytes
        match tree.isSymlink entry with
        | .ok true => [canonicalRecord tree entry entry]
        | _ => []
  | _ => []

/-- `block_connection`: partitions and virtual block layers have no connection of their own. -/
def blockConnection (root : Bytes) (name : FileName) : List RawEvidence :=
  let path := append root name.bytes
  match tree.existence (append path (utf8 "partition")),
      tree.existence (append path (utf8 "device")) with
  | .ok false, .ok true =>
      canonicalRecord tree (append path (utf8 "device_path")) (append path (utf8 "device")) ::
        match tree.existence (append path (utf8 "nsid")),
            tree.existence (append path (utf8 "device/type")) with
        | .ok true, _ =>
            readFields tree .sysfsStorageConnections path ["nsid", "nguid", "eui"] ++
              multipathRecords tree path
        | _, .ok true =>
            readFields tree .sysfsStorageConnections path ["device/type", "device/state"]
        | _, _ => []
  | _, _ => []

/-- `read_storage_connections`. -/
def readStorageConnections : List RawEvidence :=
  let nvme := utf8 "/sys/class/nvme"
  let hosts := utf8 "/sys/class/scsi_host"
  let blocks := utf8 "/sys/class/block"
  connectionEntries tree nvme (nvmeController tree nvme) ++
    connectionEntries tree hosts (scsiHost tree hosts) ++
    connectionEntries tree blocks (blockConnection tree blocks)

end Connections

/-! ### Sources -/

section Sources

variable {tree}

theorem ofSources_readPciSysfs : OfSources [.sysfsPci] (readPciSysfs tree) := by
  have h : RawSource.sysfsPci ∈ [RawSource.sysfsPci] := List.mem_singleton_self _
  exact .append (.flatMap fun name _ => .append (ofSources_readFields tree h _ _)
    (.cons (answerRecord_source h _ _) (.cons (answerRecord_source h _ _)
      (.cons (answerRecord_source h _ _) .nil)))) (ofSources_directoryFailure h _ _)

theorem ofSources_readPort (path : Bytes) : OfSources [.sysfsRdma] (readPort tree path) := by
  have h : RawSource.sysfsRdma ∈ [RawSource.sysfsRdma] := List.mem_singleton_self _
  exact .cons h (.append (.append (ofSources_readFields tree h _ _)
    (.map fun name _ => readFileRecord_source tree h _)) (.cons h .nil))

theorem ofSources_readRdmaDevice (path : Bytes) :
    OfSources [.sysfsRdma] (readRdmaDevice tree path) := by
  have h : RawSource.sysfsRdma ∈ [RawSource.sysfsRdma] := List.mem_singleton_self _
  exact .cons h (.append (.append (.append (.append (.append (ofSources_readFields tree h _ _)
    (.cons (answerRecord_source h _ _) (.cons (answerRecord_source h _ _) .nil)))
    (.map fun name _ => h)) (.cons h .nil)) (.flatMap fun name _ => ofSources_readPort _))
    (.cons h .nil))

theorem ofSources_readRdmaSysfs : OfSources [.sysfsRdma] (readRdmaSysfs tree) := by
  have h : RawSource.sysfsRdma ∈ [RawSource.sysfsRdma] := List.mem_singleton_self _
  refine .append (.flatMap fun name _ => ofSources_readRdmaDevice _) ?_
  split
  · exact .ite (.cons h .nil) (ofSources_directoryFailure h _ _)
  · exact .cons h .nil

theorem ofSources_readMemoryDevices (controller : Bytes) :
    OfSources [.sysfsEdac] (readMemoryDevices tree controller) := by
  have h : RawSource.sysfsEdac ∈ [RawSource.sysfsEdac] := List.mem_singleton_self _
  refine .append (.flatMap fun name _ => .ite (.append (ofSources_entryIsDirectory tree h _)
    (.ite (ofSources_readFields tree h _ _) .nil)) .nil) ?_
  split
  · exact .cons h .nil
  · exact .nil

theorem ofSources_readMemoryController (name : FileName) :
    OfSources [.sysfsEdac] (readMemoryController tree name).1 := by
  have h : RawSource.sysfsEdac ∈ [RawSource.sysfsEdac] := List.mem_singleton_self _
  rw [readMemoryController]
  split
  · have hfailure := ofSources_entryIsDirectory tree h (append edacDirectory name.bytes)
    split
    rename_i heq
    rw [heq] at hfailure
    split
    · refine .append (.append (.append hfailure (ofSources_readFields tree h _ _)) ?_)
        (ofSources_readMemoryDevices _)
      split
      · exact .cons h .nil
      · exact .nil
    · exact hfailure
  · exact .nil

theorem ofSources_readEdacSysfs : OfSources [.sysfsEdac] (readEdacSysfs tree) := by
  have h : RawSource.sysfsEdac ∈ [RawSource.sysfsEdac] := List.mem_singleton_self _
  rw [readEdacSysfs]
  split
  · exact .cons h .nil
  · exact .cons h .nil
  · refine .append (.flatMap fun controller hcontroller => ?_) (.ite (.cons h .nil) .nil)
    obtain ⟨name, -, rfl⟩ := List.mem_map.mp hcontroller
    exact ofSources_readMemoryController name

/-- A directory of connections is of the one source if its entries are. -/
theorem ofSources_connectionEntries {root : Bytes} {read : FileName → List RawEvidence}
    (hread : ∀ name, OfSources [.sysfsStorageConnections] (read name)) :
    OfSources [.sysfsStorageConnections] (connectionEntries tree root read) := by
  have h : RawSource.sysfsStorageConnections ∈ [RawSource.sysfsStorageConnections] :=
    List.mem_singleton_self _
  rw [connectionEntries]
  split
  · exact .cons h .nil
  · exact .cons h (.append (.flatMap fun name _ => hread name) (ofSources_directoryFailure h _ _))

theorem ofSources_connectionDevice (root pat : Bytes) (fields : List String) (name : FileName) :
    OfSources [.sysfsStorageConnections] (connectionDevice tree root pat fields name) := by
  have h : RawSource.sysfsStorageConnections ∈ [RawSource.sysfsStorageConnections] :=
    List.mem_singleton_self _
  exact .ite (.cons (answerRecord_source h _ _) (ofSources_readFields tree h _ _)) .nil

theorem ofSources_blockConnection (root : Bytes) (name : FileName) :
    OfSources [.sysfsStorageConnections] (blockConnection tree root name) := by
  have h : RawSource.sysfsStorageConnections ∈ [RawSource.sysfsStorageConnections] :=
    List.mem_singleton_self _
  have hmultipath : ∀ path, OfSources [.sysfsStorageConnections] (multipathRecords tree path) := by
    intro path
    rw [multipathRecords]
    split
    · refine ofSources_connectionEntries fun name => ?_
      dsimp only
      split
      · exact .cons (answerRecord_source h _ _) .nil
      · exact .nil
    · exact .nil
  rw [blockConnection]
  split
  · refine .cons (answerRecord_source h _ _) ?_
    split
    · exact .append (ofSources_readFields tree h _ _) (hmultipath _)
    · exact ofSources_readFields tree h _ _
    · exact .nil
  · exact .nil

theorem ofSources_readStorageConnections :
    OfSources [.sysfsStorageConnections] (readStorageConnections tree) :=
  .append (.append (ofSources_connectionEntries (ofSources_connectionDevice _ _ _))
    (ofSources_connectionEntries (ofSources_connectionDevice _ _ _)))
    (ofSources_connectionEntries (ofSources_blockConnection _))

end Sources

end Sysal.SysfsReader
