import Sysal.Reader.FileUtils
import Sysal.Reader.ShellCommands

/-!
# Reading the class directories of sysfs

`sysfs.cpp` and `network_capabilities.cpp` of the Linux reader: processors, NUMA nodes, network interfaces,
block devices and the firmware tables.  Every reader is the list of the records it adds, in their order.

* `ofSources_readCpuSysfs` and the ones behind it: the records of a reader are of its own sources.
-/

namespace Sysal.SysfsReader

open FsPath CommandReader ShellCommands

variable (tree : SysTree)

/-- The records of a link: its target, or nothing where it cannot be read. -/
def linkRecord (source : RawSource) (path : Bytes) : Except ℕ Bytes → List RawEvidence
  | .ok target => [⟨source, path, target, .success, none, none⟩]
  | .error _ => []

/-- The name a link points to. -/
def linkName (path : Bytes) : Except ℕ Bytes := (tree.readSymlink path).map fileName

/-- The entries of a directory that is there, and the error of looking or reading. -/
def listedEntries (path : Bytes) : List FileName × Option ℕ :=
  match tree.isDirectory path with
  | .ok true => tree.entries path
  | .ok false => ([], none)
  | .error error => ([], some error)

/-! ### Processors -/

def cpuDirectory : Bytes := utf8 "/sys/devices/system/cpu"

/-- `read_frequency_files`. -/
def readFrequencyFiles (directory : Bytes) : List RawEvidence :=
  readFields tree .sysfsCpu directory
    ["related_cpus", "affected_cpus", "base_frequency", "cpuinfo_min_freq", "cpuinfo_max_freq",
     "scaling_min_freq", "scaling_max_freq", "scaling_cur_freq", "cpuinfo_cur_freq", "scaling_driver",
     "scaling_governor", "energy_performance_preference"]

/-- The names of the frequency policies. -/
def policyNames : List FileName :=
  (listedEntries tree (append cpuDirectory (utf8 "cpufreq"))).1.filter fun name =>
    numbered name.bytes (utf8 "policy")

/-- The frequency files of one processor; without policies an older kernel has them here. -/
def cpuFrequency (directory : Bytes) : List RawEvidence :=
  let cpufreq := append directory (utf8 "cpufreq")
  if policyNames tree = [] then
    match tree.isDirectory cpufreq with
    | .ok true => readFrequencyFiles tree cpufreq
    | .ok false => []
    | .error error => directoryFailure .sysfsCpu cpufreq (some error)
  else readFields tree .sysfsCpu cpufreq ["base_frequency", "cpuinfo_max_freq"]

/-- The caches of one processor. -/
def cpuCaches (directory : Bytes) : List RawEvidence :=
  let caches := append directory (utf8 "cache")
  let (names, error) := listedEntries tree caches
  (names.flatMap fun name =>
    if name.bytes.length < 6 ∨ ¬name.bytes.startsWith (utf8 "index") then []
    else
      readFields tree .sysfsCpu (append caches name.bytes)
        ["id", "number_of_sets", "shared_cpu_list", "level", "type", "size", "ways_of_associativity",
         "coherency_line_size"]) ++ directoryFailure .sysfsCpu caches error

/-- One entry of the processor directory. -/
def readCpu (name : FileName) : List RawEvidence :=
  let directory := append cpuDirectory name.bytes
  let (isDirectory, failure) := entryIsDirectory tree .sysfsCpu directory
  failure ++
    if isDirectory ∧ numbered name.bytes (utf8 "cpu") then
      readFields tree .sysfsCpu directory
          ["topology/physical_package_id", "topology/core_id", "online"] ++
        cpuFrequency tree directory ++ cpuCaches tree directory
    else []

/-- `read_cpu_sysfs`. -/
def readCpuSysfs : List RawEvidence :=
  let policies := append cpuDirectory (utf8 "cpufreq")
  readFields tree .sysfsCpu cpuDirectory
      ["present", "online", "smt/active", "smt/control", "cpufreq/boost"] ++
    (policyNames tree).flatMap (fun name => readFrequencyFiles tree (append policies name.bytes)) ++
    directoryFailure .sysfsCpu policies (listedEntries tree policies).2 ++
    (tree.entries cpuDirectory).1.flatMap (readCpu tree) ++
    directoryFailure .sysfsCpu cpuDirectory (tree.entries cpuDirectory).2

def cpuEnumeration : InventoryEnumeration :=
  inventoryEnumeration tree .sysfsCpu .logicalCpus cpuDirectory (utf8 "cpu")

/-! ### NUMA nodes -/

def nodeDirectory : Bytes := utf8 "/sys/devices/system/node"

/-- One entry of the node directory. -/
def readNode (name : FileName) : List RawEvidence :=
  let directory := append nodeDirectory name.bytes
  let (isDirectory, failure) := entryIsDirectory tree .sysfsNuma directory
  failure ++
    if isDirectory ∧ numbered name.bytes (utf8 "node") then
      readFields tree .sysfsNuma directory ["cpulist", "meminfo"]
    else []

/-- `read_numa_sysfs`. -/
def readNumaSysfs : List RawEvidence :=
  (tree.entries nodeDirectory).1.flatMap (readNode tree) ++
    directoryFailure .sysfsNuma nodeDirectory (tree.entries nodeDirectory).2

def nodeEnumeration : InventoryEnumeration :=
  inventoryEnumeration tree .sysfsNuma .numaNodes nodeDirectory (utf8 "node")

/-! ### Network interfaces -/

def netDirectory : Bytes := utf8 "/sys/class/net"

/-- One query of `read_network_capabilities`, and whether the tool was there. -/
def ethtoolRecord (execute : Bytes → CommandResult) (interface : Bytes) (query : String × Bytes) :
    RawEvidence × Bool :=
  let result := execute (utf8 "LC_ALL=C ethtool " ++ query.2 ++ shellArgument interface)
  let failure := commandFailure result
  let status := if result.successful then (if failure.isSome then .partial_ else .success)
    else if result.output = [] then .failed else .partial_
  (⟨.ethtool, utf8 "ethtool/" ++ interface ++ 47 :: utf8 query.1, result.output, status, failure, none⟩,
    failure ≠ some .toolUnavailable)

/-- The queries up to the first that finds no tool. -/
def ethtoolRecords (execute : Bytes → CommandResult) (interface : Bytes) :
    List (String × Bytes) → List RawEvidence
  | [] => []
  | query :: queries =>
      let (record, available) := ethtoolRecord execute interface query
      record :: if available then ethtoolRecords execute interface queries else []

/-- `read_network_capabilities`. -/
def readNetworkCapabilities (execute : Bytes → CommandResult) (interface : Bytes) :
    List RawEvidence :=
  if interface = [] ∨ interface.head? = some 45 then
    [⟨.ethtool, utf8 "ethtool/" ++ interface, [], .notCollected, some .unsupported, none⟩]
  else
    ethtoolRecords execute interface
      [("settings", []), ("driver", utf8 "-i "), ("permanent_address", utf8 "-P ")]

/-- A list of names as one text, and the record of how it was read. -/
def namesRecord (source : RawSource) (path : Bytes) (names : List Bytes) (error : Option ℕ) :
    RawEvidence :=
  { source := source
    pathOrCommand := path
    payload := names.flatMap (· ++ [10])
    status := if error = none then .success else .failed
    failure := error.map fileFailure }

/-- The kind of an interface, where all of its marks can be told. -/
def interfaceKind (execute : Bytes → CommandResult) (name : FileName) : List RawEvidence :=
  let directory := append netDirectory name.bytes
  let (physical, failures) := pathExists tree .sysfsNet (append directory (utf8 "device"))
  let (bridge, failures') := pathExists tree .sysfsNet (append directory (utf8 "bridge"))
  let (bond, failures'') := pathExists tree .sysfsNet (append directory (utf8 "bonding"))
  failures ++ failures' ++ failures'' ++
    match physical, bridge, bond with
    | some physical, some bridge, some bond =>
        let kind := if bridge then "bridge" else if bond then "bond"
          else if physical then "physical" else "virtual"
        ⟨.sysfsNet, append directory (utf8 "kind"), utf8 kind, .success, none, none⟩ ::
          ((if bond then readFields tree .sysfsNet directory ["bonding/mode"] else []) ++
            if physical then readNetworkCapabilities execute name.bytes else [])
    | _, _, _ => []

/-- The device an interface belongs to; a missing one is no failure. -/
def interfaceDevice (directory : Bytes) : List RawEvidence :=
  let device := append directory (utf8 "device")
  match tree.canonical device with
  | .ok target => [⟨.sysfsNet, device, target, .success, none, none⟩]
  | .error error =>
      if error = 2 ∨ error = 20 then []
      else [⟨.sysfsNet, device, [], .failed, some (fileFailure error), none⟩]

/-- One entry of the network directory. -/
def readInterface (execute : Bytes → CommandResult) (name : FileName) : List RawEvidence :=
  let directory := append netDirectory name.bytes
  let (isDirectory, failure) := entryIsDirectory tree .sysfsNet directory
  failure ++
    if isDirectory then
      let (links, error) := tree.entries directory
      readFields tree .sysfsNet directory
          ["address", "operstate", "speed", "mtu", "carrier", "duplex", "ifindex", "phys_port_name",
           "device/numa_node"] ++
        linkRecord .sysfsNet (append directory (utf8 "driver"))
          (linkName tree (append directory (utf8 "device/driver"))) ++
        linkRecord .sysfsNet (append directory (utf8 "master"))
          (linkName tree (append directory (utf8 "master"))) ++
        namesRecord .sysfsNet (append directory (utf8 "lower_interfaces"))
          ((links.filter fun link => link.bytes.startsWith (utf8 "lower_")).map (·.bytes.drop 6))
          error ::
        (interfaceKind tree execute name ++ interfaceDevice tree directory)
    else []

/-- `read_net_sysfs`. -/
def readNetSysfs (execute : Bytes → CommandResult) : List RawEvidence :=
  (tree.entries netDirectory).1.flatMap (readInterface tree execute) ++
    directoryFailure .sysfsNet netDirectory (tree.entries netDirectory).2

def netEnumeration : InventoryEnumeration :=
  inventoryEnumeration tree .sysfsNet .networkInterfaces netDirectory []

/-! ### Block devices -/

def blockDirectory : Bytes := utf8 "/sys/class/block"

/-- The driver of a block device; a missing one is no failure. -/
def blockDriver (directory : Bytes) : List RawEvidence :=
  let path := append directory (utf8 "driver")
  match linkName tree (append directory (utf8 "device/driver")) with
  | .ok driver => [⟨.sysfsBlock, path, driver, .success, none, none⟩]
  | .error error =>
      if error = 2 ∨ error = 20 then []
      else [⟨.sysfsBlock, path, [], .failed, some (fileFailure error), none⟩]

/-- The device a partition is on. -/
def blockParent (directory : Bytes) : List RawEvidence :=
  let (partition?, failure) := pathExists tree .sysfsBlock (append directory (utf8 "partition"))
  failure ++
    if partition? = some true then
      linkRecord .sysfsBlock (append directory (utf8 "parent"))
        ((tree.canonical directory).map fun target => fileName (parentPath target))
    else []

/-- One entry of the block directory. -/
def readBlock (name : FileName) : List RawEvidence :=
  let directory := append blockDirectory name.bytes
  let (isDirectory, failure) := entryIsDirectory tree .sysfsBlock directory
  failure ++
    if isDirectory then
      let (loop, loopFailure) := pathExists tree .sysfsBlock (append directory (utf8 "loop"))
      let (slaves, error) := tree.entries (append directory (utf8 "slaves"))
      readFields tree .sysfsBlock directory ["size"] ++ loopFailure ++
        (match loop with
          | some loop =>
              [⟨.sysfsBlock, append directory (utf8 "loop_present"), utf8 (if loop then "1" else "0"),
                .success, none, none⟩]
          | none => []) ++
        blockDriver tree directory ++
        readFields tree .sysfsBlock directory
          ["queue/rotational", "ro", "removable", "wwid", "device/model", "device/vendor",
           "device/serial", "device/rev", "device/firmware_rev", "device/numa_node", "device/wwid",
           "device/transport", "queue/logical_block_size", "queue/physical_block_size",
           "queue/minimum_io_size", "queue/optimal_io_size", "queue/scheduler", "dev", "partition",
           "dm/name", "dm/uuid", "md/level", "md/array_state", "md/raid_disks", "md/degraded"] ++
        blockParent tree directory ++
        namesRecord .sysfsBlock (append directory (utf8 "slaves")) (slaves.map (·.bytes)) error ::
        linkRecord .sysfsBlock (append directory (utf8 "device")) (tree.readSymlink directory)
    else []

/-- `read_block_sysfs`. -/
def readBlockSysfs : List RawEvidence :=
  (tree.entries blockDirectory).1.flatMap (readBlock tree) ++
    directoryFailure .sysfsBlock blockDirectory (tree.entries blockDirectory).2

def blockEnumeration : InventoryEnumeration :=
  inventoryEnumeration tree .sysfsBlock .blockDevices blockDirectory []

/-! ### Firmware -/

/-- `read_dmi_sysfs`. -/
def readDmiSysfs : List RawEvidence :=
  let efi := utf8 "/sys/firmware/efi"
  let dmi := utf8 "/sys/class/dmi/id"
  let (booted, failure) := pathExists tree .sysfsDmi efi
  let (present, failure') := pathExists tree .sysfsDmi dmi
  failure ++ (if booted = some true then [⟨.sysfsDmi, efi, utf8 "1", .success, none, none⟩] else []) ++
    failure' ++
    match present with
    | none => []
    | some false => [⟨.sysfsDmi, dmi, [], .notCollected, some .notPresent, none⟩]
    | some true =>
        readFields tree .sysfsDmi dmi
          ["bios_vendor", "bios_version", "bios_date", "bios_release", "ec_firmware_release",
           "sys_vendor", "product_name", "product_serial", "product_family", "product_version",
           "product_sku", "product_uuid", "board_vendor", "board_name", "board_version",
           "board_serial", "board_asset_tag", "chassis_vendor", "chassis_type", "chassis_version",
           "chassis_serial", "chassis_asset_tag"]

/-- `read_hypervisor_type`. -/
def readHypervisorType : List RawEvidence :=
  [readFileRecord tree .sysHypervisor (utf8 "/sys/hypervisor/type")]

/-! ### Sources -/

section Sources

variable {tree} {execute : Bytes → CommandResult}

theorem ofSources_linkRecord {sources : List RawSource} {source : RawSource} (h : source ∈ sources)
    (path : Bytes) (answer : Except ℕ Bytes) :
    OfSources sources (linkRecord source path answer) := by
  cases answer
  · exact .nil
  · exact .cons h .nil

theorem ofSources_readCpu (name : FileName) : OfSources [.sysfsCpu] (readCpu tree name) := by
  have h : RawSource.sysfsCpu ∈ [RawSource.sysfsCpu] := List.mem_singleton_self _
  have hcaches : ∀ directory, OfSources [.sysfsCpu] (cpuCaches tree directory) := fun directory =>
    .append (.flatMap fun name _ => .ite .nil (ofSources_readFields tree h _ _))
      (ofSources_directoryFailure h _ _)
  have hfrequency : ∀ directory, OfSources [.sysfsCpu] (cpuFrequency tree directory) := by
    intro directory
    refine .ite ?_ (ofSources_readFields tree h _ _)
    split
    · exact ofSources_readFields tree h _ _
    · exact .nil
    · exact ofSources_directoryFailure h _ _
  exact .append (ofSources_entryIsDirectory tree h _)
    (.ite (.append (.append (ofSources_readFields tree h _ _) (hfrequency _)) (hcaches _)) .nil)

theorem ofSources_readCpuSysfs : OfSources [.sysfsCpu] (readCpuSysfs tree) := by
  have h : RawSource.sysfsCpu ∈ [RawSource.sysfsCpu] := List.mem_singleton_self _
  exact .append (.append (.append (.append (ofSources_readFields tree h _ _)
    (.flatMap fun name _ => ofSources_readFields tree h _ _)) (ofSources_directoryFailure h _ _))
    (.flatMap fun name _ => ofSources_readCpu name)) (ofSources_directoryFailure h _ _)

theorem ofSources_readNumaSysfs : OfSources [.sysfsNuma] (readNumaSysfs tree) := by
  have h : RawSource.sysfsNuma ∈ [RawSource.sysfsNuma] := List.mem_singleton_self _
  exact .append (.flatMap fun name _ => .append (ofSources_entryIsDirectory tree h _)
    (.ite (ofSources_readFields tree h _ _) .nil)) (ofSources_directoryFailure h _ _)

theorem ofSources_ethtoolRecords (interface : Bytes) (queries : List (String × Bytes)) :
    OfSources [.ethtool] (ethtoolRecords execute interface queries) := by
  induction queries with
  | nil => exact .nil
  | cons query queries ih => exact .cons (List.mem_singleton_self _) (.ite ih .nil)

theorem ofSources_interfaceKind (name : FileName) :
    OfSources [.sysfsNet, .ethtool] (interfaceKind tree execute name) := by
  have h : RawSource.sysfsNet ∈ [RawSource.sysfsNet, .ethtool] := List.mem_cons_self
  refine .append (.append (.append (ofSources_pathExists tree h _) (ofSources_pathExists tree h _))
    (ofSources_pathExists tree h _)) ?_
  split
  · refine .cons h (.append (.ite (ofSources_readFields tree h _ _) .nil) (.ite ?_ .nil))
    have hmono : [RawSource.ethtool] ⊆ [.sysfsNet, .ethtool] := List.subset_cons_self _ _
    exact .mono (.ite (.cons (List.mem_singleton_self _) .nil) (ofSources_ethtoolRecords _ _)) hmono
  · exact .nil

theorem ofSources_readInterface (name : FileName) :
    OfSources [.sysfsNet, .ethtool] (readInterface tree execute name) := by
  have h : RawSource.sysfsNet ∈ [RawSource.sysfsNet, .ethtool] := List.mem_cons_self
  have hdevice : ∀ directory, OfSources [.sysfsNet, .ethtool] (interfaceDevice tree directory) := by
    intro directory
    rw [interfaceDevice]
    split
    · exact .cons h .nil
    · exact .ite .nil (.cons h .nil)
  exact .append (ofSources_entryIsDirectory tree h _)
    (.ite (.append (.append (.append (ofSources_readFields tree h _ _) (ofSources_linkRecord h _ _))
      (ofSources_linkRecord h _ _))
      (.cons h (.append (ofSources_interfaceKind name) (hdevice _)))) .nil)

theorem ofSources_readNetSysfs : OfSources [.sysfsNet, .ethtool] (readNetSysfs tree execute) :=
  .append (.flatMap fun name _ => ofSources_readInterface name)
    (ofSources_directoryFailure List.mem_cons_self _ _)

theorem ofSources_readBlock (name : FileName) : OfSources [.sysfsBlock] (readBlock tree name) := by
  have h : RawSource.sysfsBlock ∈ [RawSource.sysfsBlock] := List.mem_singleton_self _
  have hdriver : ∀ directory, OfSources [.sysfsBlock] (blockDriver tree directory) := by
    intro directory
    rw [blockDriver]
    split
    · exact .cons h .nil
    · exact .ite .nil (.cons h .nil)
  have hparent : ∀ directory, OfSources [.sysfsBlock] (blockParent tree directory) := fun directory =>
    .append (ofSources_pathExists tree h _) (.ite (ofSources_linkRecord h _ _) .nil)
  have hloop : ∀ (loop : Option Bool) (path : Bytes), OfSources [.sysfsBlock]
      (match loop with
        | some loop => [⟨.sysfsBlock, path, utf8 (if loop then "1" else "0"), .success, none, none⟩]
        | none => []) := by
    intro loop path
    split
    · exact .cons h .nil
    · exact .nil
  exact .append (ofSources_entryIsDirectory tree h _)
    (.ite (.append (.append (.append (.append (.append (.append (ofSources_readFields tree h _ _)
      (ofSources_pathExists tree h _)) (hloop _ _)) (hdriver _)) (ofSources_readFields tree h _ _))
      (hparent _)) (.cons h (ofSources_linkRecord h _ _))) .nil)

theorem ofSources_readBlockSysfs : OfSources [.sysfsBlock] (readBlockSysfs tree) :=
  .append (.flatMap fun name _ => ofSources_readBlock name)
    (ofSources_directoryFailure (List.mem_singleton_self _) _ _)

theorem ofSources_readDmiSysfs : OfSources [.sysfsDmi] (readDmiSysfs tree) := by
  have h : RawSource.sysfsDmi ∈ [RawSource.sysfsDmi] := List.mem_singleton_self _
  refine .append (.append (.append (ofSources_pathExists tree h _) (.ite (.cons h .nil) .nil))
    (ofSources_pathExists tree h _)) ?_
  split
  · exact .nil
  · exact .cons h .nil
  · exact ofSources_readFields tree h _ _

theorem ofSources_readHypervisorType : OfSources [.sysHypervisor] (readHypervisorType tree) :=
  .cons (readFileRecord_source tree (List.mem_singleton_self _) _) .nil

end Sources

end Sysal.SysfsReader
