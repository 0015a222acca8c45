import Sysal.Parser.PciAddresses
import Sysal.Parser.PciDevices

/-!
# NUMA nodes of accelerators

An accelerator without a node of its own takes one from the PCI records.  The search for it looks for the
text of the address and for `numa_node` anywhere in a path and stops at the first number, while the PCI
parser reads the `numa_node` file of the directory whose name denotes the address.

* `parsedNode_eq`: the node the PCI parser gives a device;
* `findNumaNodeForPci_eq`: the record the search stops at;
* `nearestNumaNode_iff`: the stores in which both are the same.
-/

namespace Sysal.PciParser

open Sysal Std AcceleratorParser

/-- The sysfs records are attributes of devices, no file twice. -/
structure AttributeLayout (raw : EvidenceStore) : Prop where
  paths : ∀ record ∈ raw.getAll .sysfsPci, ∃ name file,
    record.pathOrCommand = pciDevicesDir ++ name ++ 47 :: file ∧ 47 ∉ name ∧ 47 ∉ file
  nodup : ((raw.getAll .sysfsPci).map (·.pathOrCommand)).Nodup

/-- The file of a device's node. -/
def numaNodePath (name : Bytes) : Bytes := pciDevicesDir ++ name ++ 47 :: utf8 "numa_node"

/-- The successful node file of the directory, the first by name that denotes an address. -/
def nodeFile (raw : EvidenceStore) (address : PciAddress) : Option RawEvidence :=
  ((sortedSet (sysfsNames raw)).find? (parsePciAddress · = some address)).bind fun name =>
    (raw.successes .sysfsPci).find? (·.pathOrCommand = numaNodePath name)

/-- The number in a record. -/
def recordNumber (record : RawEvidence) : Option ℕ := parseUint (trim record.payload)

/-- The first successful record with a number whose path has the text of an address and `numa_node` in
it. -/
def searchedRecord (raw : EvidenceStore) (address : PciAddress) : Option RawEvidence :=
  (raw.successes .sysfsPci).find? fun record =>
    Bytes.hasSub record.pathOrCommand (pciText address) &&
      Bytes.hasSub record.pathOrCommand (utf8 "numa_node") && (recordNumber record).isSome

/-- The node the PCI parser gives the device at an address. -/
def parsedNode (raw : EvidenceStore) (address : PciAddress) : Option NumaNodeId :=
  ((parsePci raw).1.bind (·.find address)).bind (·.numaNode)

/-! ### The node of a device -/

/-- The node of the first device at an address. -/
def nodeAt (devices : List PciDevice) (address : PciAddress) : Option NumaNodeId :=
  (devices.find? (·.address = address)).bind (·.numaNode)

/-- Only addresses and nodes count. -/
theorem nodeAt_eq (devices : List PciDevice) (address : PciAddress) :
    nodeAt devices address = ((devices.map fun dev => (dev.address, dev.numaNode)).find?
      (·.1 = address)).bind Prod.snd := by
  rw [nodeAt, List.find?_map, Option.bind_map]
  rfl

/-- A line of `lspci` brings no node. -/
theorem nodeAt_scanLspciLine (s : PciScan) (line : Bytes) (address : PciAddress) :
    nodeAt (scanLspciLine s line).devices address = nodeAt s.devices address := by
  rcases scanLspciLine_devices s line with heq | ⟨i, name, heq⟩ | ⟨a, name, heq⟩
  · rw [heq]
  · rw [heq, nodeAt_eq, nodeAt_eq]
    congr 2
    refine List.ext_getElem? fun j => ?_
    simp only [List.getElem?_map, List.getElem?_modify]
    cases s.devices[j]? with
    | none => rfl
    | some dev => by_cases hij : i = j <;> simp [hij]
  · rw [heq, nodeAt, nodeAt, List.find?_append]
    cases s.devices.find? (·.address = address) with
    | some dev => rfl
    | none =>
        rw [Option.none_or, List.find?_singleton]
        split <;> rfl

theorem nodeAt_scanLines (raw : EvidenceStore) (lines : List Bytes) (address : PciAddress) :
    nodeAt (lines.foldl scanLspciLine (scanSysfs raw)).devices address =
      nodeAt (scanSysfs raw).devices address := by
  induction lines using List.reverseRecOn with
  | nil => rfl
  | append_singleton lines line ih => rw [List.foldl_append, ← ih]; exact nodeAt_scanLspciLine _ _ _

/-- The devices of directories. -/
theorem scanGroups_devices (groups : List (Bytes × List RawEvidence)) (s : PciScan) :
    (groups.foldl scanPciGroup s).devices = s.devices ++ groups.filterMap fun group =>
      (parsePciAddress group.1).map fun address =>
        (readPciFiles { address := address } group.2).1 := by
  induction groups generalizing s with
  | nil => simp
  | cons group groups ih =>
      rw [List.foldl_cons, ih, scanPciGroup]
      cases haddress : parsePciAddress group.1 <;> simp [haddress, PciScan.push]

/-- Whether a record is the node file of its directory. -/
def isNodeFile (record : RawEvidence) : Bool :=
  extractFilename record.pathOrCommand = utf8 "numa_node"

theorem readPciFile_numaNode_of_not {dev : PciDevice} {record : RawEvidence}
    (h : isNodeFile record = false) : (readPciFile dev record).1.numaNode = dev.numaNode := by
  rw [isNodeFile, decide_eq_false_iff_not] at h
  simp only [readPciFile]
  rw [if_neg h]
  exact (readPciField_samePlace dev _ _).numaNode

/-- A node file gives the node, unless it holds no number. -/
theorem readPciFile_numaNode {dev : PciDevice} {record : RawEvidence} (hdev : dev.numaNode = none)
    (h : isNodeFile record = true) :
    (readPciFile dev record).1.numaNode = parseUint32 (trim record.payload) := by
  rw [isNodeFile, decide_eq_true_eq] at h
  simp only [readPciFile]
  rw [if_pos h, readNumaNode]
  cases parseUint32 (trim record.payload) with
  | some node => rfl
  | none =>
      dsimp only
      split
      · rfl
      · exact hdev

/-- Files with different paths: one of them gives the node. -/
theorem readPciFiles_numaNode {path : Bytes} {records : List RawEvidence}
    (hnodup : (records.map (·.pathOrCommand)).Nodup)
    (hpath : ∀ record ∈ records, isNodeFile record = true → record.pathOrCommand = path)
    {dev : PciDevice} (hdev : dev.numaNode = none) :
    (readPciFiles dev records).1.numaNode =
      (records.find? isNodeFile).bind fun record => parseUint32 (trim record.payload) := by
  have hnone {records : List RawEvidence} (h : ∀ record ∈ records, isNodeFile record = false)
      (dev : PciDevice) : (readPciFiles dev records).1.numaNode = dev.numaNode := by
    induction records generalizing dev with
    | nil => rfl
    | cons record records ih =>
        exact (ih (fun r hr => h r (List.mem_cons_of_mem _ hr)) _).trans
          (readPciFile_numaNode_of_not (h record List.mem_cons_self))
  induction records generalizing dev with
  | nil => exact hdev
  | cons record records ih =>
      rw [List.map_cons, List.nodup_cons] at hnodup
      have hrest := fun r hr => hpath r (List.mem_cons_of_mem _ hr)
      have hcons : (readPciFiles dev (record :: records)).1 =
          (readPciFiles (readPciFile dev record).1 records).1 := rfl
      rw [hcons]
      cases hfile : isNodeFile record with
      | true =>
          rw [List.find?_cons_of_pos hfile, Option.bind_some, ← readPciFile_numaNode hdev hfile]
          refine hnone (fun other hother => ?_) _
          by_contra hnode
          rw [Bool.not_eq_false] at hnode
          refine hnodup.1 (List.mem_map.mpr ⟨other, hother, ?_⟩)
          rw [hrest other hother hnode, hpath record List.mem_cons_self hfile]
      | false =>
          rw [List.find?_cons_of_neg (by simp [hfile])]
          exact ih hnodup.2 hrest ((readPciFile_numaNode_of_not hfile).trans hdev)

/-! ### Files of directories -/

theorem extractPciAddressFromPath_file {name file : Bytes} (h : 47 ∉ name) :
    extractPciAddressFromPath (pciDevicesDir ++ name ++ 47 :: file) = name := by
  have hne : ∀ c ∈ name, decide (c ≠ 47) = true := fun c hc =>
    decide_eq_true fun heq => h (heq ▸ hc)
  have hstart : Bytes.startsWith (pciDevicesDir ++ name ++ 47 :: file) pciDevicesDir = true := by
    rw [Bytes.startsWith, List.isPrefixOf_iff_prefix, List.append_assoc]
    exact List.prefix_append _ _
  rw [extractPciAddressFromPath, if_pos hstart, List.append_assoc, List.drop_left,
    List.takeWhile_append_of_pos hne]
  simp

theorem extractFilename_file {front file : Bytes} (h : 47 ∉ file) :
    extractFilename (front ++ 47 :: file) = file := by
  rw [extractFilename, rcut_append h]

variable {raw : EvidenceStore}

theorem AttributeLayout.mem_successes (hlayout : AttributeLayout raw) {record : RawEvidence}
    (h : record ∈ raw.successes .sysfsPci) : ∃ name file,
    record.pathOrCommand = pciDevicesDir ++ name ++ 47 :: file ∧ 47 ∉ name ∧ 47 ∉ file :=
  hlayout.paths record (List.mem_of_mem_filter h)

/-- The node file of a directory has one path. -/
theorem AttributeLayout.isNodeFile_iff (hlayout : AttributeLayout raw) {record : RawEvidence}
    (h : record ∈ raw.successes .sysfsPci) {name : Bytes} (hname : 47 ∉ name) :
    (extractPciAddressFromPath record.pathOrCommand = name ∧ isNodeFile record = true) ↔
      record.pathOrCommand = numaNodePath name := by
  have hfile : 47 ∉ utf8 "numa_node" := by decide +kernel
  obtain ⟨name', file, hpath, hname', hfile'⟩ := hlayout.mem_successes h
  rw [isNodeFile, decide_eq_true_eq, hpath, extractPciAddressFromPath_file hname',
    extractFilename_file hfile', numaNodePath]
  constructor
  · rintro ⟨rfl, rfl⟩
    rfl
  · intro heq
    have hn := congrArg extractPciAddressFromPath heq
    have hf := congrArg extractFilename heq
    rw [extractPciAddressFromPath_file hname', extractPciAddressFromPath_file hname] at hn
    rw [extractFilename_file hfile', extractFilename_file hfile] at hf
    exact ⟨hn, hf⟩

theorem AttributeLayout.noSlash (hlayout : AttributeLayout raw) {name : Bytes}
    (h : name ∈ sysfsNames raw) : 47 ∉ name := by
  obtain ⟨record, hrecord, rfl⟩ := List.mem_map.mp h
  obtain ⟨name, file, hpath, hname, -⟩ := hlayout.mem_successes hrecord
  rw [hpath, extractPciAddressFromPath_file hname]
  exact hname

theorem find?_congr_mem {α : Type} {l : List α} {p q : α → Bool} (h : ∀ x ∈ l, p x = q x) :
    l.find? p = l.find? q := by
  induction l with
  | nil => rfl
  | cons x l ih =>
      rw [List.find?_cons, List.find?_cons, h x List.mem_cons_self,
        ih fun y hy => h y (List.mem_cons_of_mem _ hy)]

/-- The node file among the records of a directory. -/
theorem AttributeLayout.find?_directoryRecords (hlayout : AttributeLayout raw) {name : Bytes}
    (hname : 47 ∉ name) : (directoryRecords raw name).find? isNodeFile =
      (raw.successes .sysfsPci).find? (·.pathOrCommand = numaNodePath name) := by
  rw [directoryRecords, List.find?_filter]
  refine find?_congr_mem fun record hrecord => ?_
  rw [Bool.eq_iff_iff, decide_eq_true_eq, decide_eq_true_eq, decide_eq_true_eq]
  exact hlayout.isNodeFile_iff hrecord hname

/-- **The node the PCI parser gives a device** is the number in the node file of the first directory that
denotes its address. -/
theorem parsedNode_eq (hlayout : AttributeLayout raw) (address : PciAddress) :
    parsedNode raw address =
      (nodeFile raw address).bind fun record => parseUint32 (trim record.payload) := by
  have hnode : parsedNode raw address = nodeAt (scanSysfs raw).devices address := by
    rw [parsedNode, parsePci]
    split
    · rename_i h
      have hempty : raw.successes .sysfsPci = [] := by
        rw [EvidenceStore.successes, List.isEmpty_iff.mp h.1]
        rfl
      rw [scanSysfs, hempty]
      rfl
    · exact nodeAt_scanLines raw _ address
  have hdevices : (scanSysfs raw).devices = (sortedSet (sysfsNames raw)).filterMap fun name =>
      (parsePciAddress name).map fun a =>
        (readPciFiles { address := a } (directoryRecords raw name)).1 := by
    rw [scanSysfs, toList_pciGroups, scanGroups_devices, List.filterMap_map]
    rfl
  have hfirst : (fun name => ((parsePciAddress name).map fun a => (readPciFiles { address := a }
      (directoryRecords raw name)).1).any fun dev => decide (dev.address = address)) =
        fun name => decide (parsePciAddress name = some address) := by
    funext name
    cases parsePciAddress name <;> simp [readPciFiles_address]
  rw [hnode, nodeAt, hdevices, List.find?_filterMap, hfirst, nodeFile]
  cases hname : (sortedSet (sysfsNames raw)).find? (parsePciAddress · = some address) with
  | none => rfl
  | some name =>
      have hparse : parsePciAddress name = some address := by simpa using List.find?_some hname
      have hslash := hlayout.noSlash (mem_sortedSet.mp (List.mem_of_find?_eq_some hname))
      have hsublist : (directoryRecords raw name).Sublist (raw.getAll .sysfsPci) :=
        List.filter_sublist.trans List.filter_sublist
      rw [Option.bind_some, hparse, Option.map_some, Option.bind_some, Option.bind_some,
        ← hlayout.find?_directoryRecords hslash]
      have hpath : ∀ record ∈ directoryRecords raw name, isNodeFile record = true →
          record.pathOrCommand = numaNodePath name := by
        intro record hrecord hfile
        obtain ⟨hmem, hdirectory⟩ := List.mem_filter.mp hrecord
        exact (hlayout.isNodeFile_iff hmem hslash).mp ⟨by simpa using hdirectory, hfile⟩
      exact readPciFiles_numaNode (hlayout.nodup.sublist (hsublist.map _)) hpath rfl

/-- The search stops at the first record with a number and takes the number in 32 bits. -/
theorem findNumaNodeForPci_eq (raw : EvidenceStore) (address : PciAddress) :
    findNumaNodeForPci raw address = (searchedRecord raw address).bind fun record =>
      (recordNumber record).map UInt32.ofNat := by
  rw [findNumaNodeForPci, searchedRecord]
  induction raw.successes .sysfsPci with
  | nil => rfl
  | cons record records ih =>
      rw [List.filter_cons, List.find?_cons]
      cases hpath : Bytes.hasSub record.pathOrCommand (pciText address) &&
          Bytes.hasSub record.pathOrCommand (utf8 "numa_node") with
      | false => simpa using ih
      | true =>
          rw [if_pos rfl, List.findSome?_cons]
          cases hnumber : recordNumber record with
          | none =>
              rw [recordNumber] at hnumber
              simpa [hnumber] using ih
          | some n =>
              rw [recordNumber] at hnumber
              simp [hnumber, recordNumber]

/-! ### Agreement -/

/-- The search finds what the PCI parser reads. -/
structure LookupAgrees (raw : EvidenceStore) (address : PciAddress) : Prop where
  /-- The search stops at another record only if that holds the number of the device's file. -/
  stray : ∀ record, searchedRecord raw address = some record → nodeFile raw address ≠ some record →
    ∃ file n, nodeFile raw address = some file ∧ recordNumber file = some n ∧ n < 2 ^ 32 ∧
      (recordNumber record).map (· % 2 ^ 32) = some n
  /-- At the device's file it finds a number of 32 bits. -/
  oversize : ∀ record, searchedRecord raw address = some record →
    nodeFile raw address = some record → ∀ n, recordNumber record = some n → n < 2 ^ 32
  /-- It stops somewhere when the device's file has a number of 32 bits. -/
  missed : ∀ file n, nodeFile raw address = some file → recordNumber file = some n → n < 2 ^ 32 →
    ∃ record, searchedRecord raw address = some record

theorem parsedNode_eq_some_iff (hlayout : AttributeLayout raw) {address : PciAddress}
    {node : NumaNodeId} : parsedNode raw address = some node ↔
      ∃ file, nodeFile raw address = some file ∧ recordNumber file = some node.toNat := by
  simp only [parsedNode_eq hlayout, Option.bind_eq_some_iff, parseUint32_eq_some, recordNumber]

theorem searchedRecord_number {address : PciAddress} {record : RawEvidence}
    (h : searchedRecord raw address = some record) : ∃ n, recordNumber record = some n := by
  have hfound := List.find?_some h
  rw [Bool.and_eq_true] at hfound
  exact Option.isSome_iff_exists.mp hfound.2

/-- **The search agrees with the PCI parser** exactly under `LookupAgrees`. -/
theorem findNumaNodeForPci_eq_parsedNode_iff (hlayout : AttributeLayout raw) (address : PciAddress) :
    findNumaNodeForPci raw address = parsedNode raw address ↔ LookupAgrees raw address := by
  have hmod (n : ℕ) : (UInt32.ofNat n).toNat = n % 2 ^ 32 := UInt32.toNat_ofNat'
  rw [findNumaNodeForPci_eq]
  cases hsearched : searchedRecord raw address with
  | none =>
      rw [Option.bind_none]
      constructor
      · intro h
        refine ⟨fun record hrecord => ?_, fun record hrecord => ?_, fun file n hfile hn hlt => ?_⟩
        · rw [hsearched] at hrecord
          cases hrecord
        · rw [hsearched] at hrecord
          cases hrecord
        · have hparsed : parsedNode raw address = some (UInt32.ofNat n) :=
            (parsedNode_eq_some_iff hlayout).mpr
              ⟨file, hfile, by rw [hn, hmod, Nat.mod_eq_of_lt hlt]⟩
          rw [hparsed] at h
          cases h
      · intro h
        rw [eq_comm, Option.eq_none_iff_forall_ne_some]
        intro node hnode
        obtain ⟨file, hfile, hn⟩ := (parsedNode_eq_some_iff hlayout).mp hnode
        obtain ⟨record, hrecord⟩ := h.missed file _ hfile hn node.toNat_lt
        rw [hsearched] at hrecord
        cases hrecord
  | some record =>
      obtain ⟨n, hn⟩ := searchedRecord_number hsearched
      rw [Option.bind_some, hn, Option.map_some, eq_comm, parsedNode_eq_some_iff hlayout, hmod]
      constructor
      · rintro ⟨file, hfile, hnumber⟩
        refine ⟨fun other hother hne => ?_, fun other hother hown m hm => ?_,
          fun _ _ _ _ _ => ⟨record, hsearched⟩⟩
        · obtain rfl := Option.some.inj (hsearched.symm.trans hother)
          exact ⟨file, n % 2 ^ 32, hfile, hnumber, Nat.mod_lt n (by decide), by rw [hn]; rfl⟩
        · obtain rfl := Option.some.inj (hown.symm.trans hfile)
          rw [hm] at hnumber
          rw [Option.some.inj hnumber]
          exact Nat.mod_lt n (by decide)
      · intro h
        by_cases hown : nodeFile raw address = some record
        · refine ⟨record, hown, ?_⟩
          rw [hn, Nat.mod_eq_of_lt (h.oversize record hsearched hown n hn)]
        · obtain ⟨file, m, hfile, hm, -, heq⟩ := h.stray record hsearched hown
          refine ⟨file, hfile, ?_⟩
          rw [hm, ← heq, hn]
          rfl

/-- **The node of an accelerator is the one of its PCI device** exactly when the search for it stops at
the device's file and finds a number of 32 bits there, or the number of that file elsewhere, or finds
nothing and there is no such number. -/
theorem nearestNumaNode_iff (hlayout : AttributeLayout raw) (parse : JsonParser)
    {s : AcceleratorInventory.Inventory}
    (hdecode : decodeBackends parse raw = some s) {accelerators : Accelerators} {warnings : List Bytes}
    (h : parseAccelerator parse raw = some (some accelerators, warnings)) (i : ℕ)
    (device : AcceleratorDevice) (hdevice : s.devices[i]? = some device) (address : PciAddress)
    (haddress : device.pciAddress = some address) (hnode : device.nearestNumaNode = none) :
    ∃ result, accelerators.devices[i]? = some result ∧
      (result.nearestNumaNode = parsedNode raw address ↔ LookupAgrees raw address) := by
  have hdevices : accelerators.devices = s.devices.map (fillNumaNode raw) := by
    rw [parseAccelerator, hdecode] at h
    simp only [Option.map_some, Option.some.injEq] at h
    split at h
    · cases h
    · obtain ⟨hacc, -⟩ := Prod.mk.inj h
      rw [← Option.some.inj hacc]
  refine ⟨fillNumaNode raw device, by rw [hdevices, List.getElem?_map, hdevice]; rfl, ?_⟩
  have hfill : (fillNumaNode raw device).nearestNumaNode = findNumaNodeForPci raw address := by
    rw [fillNumaNode, haddress]
    simp [hnode]
  rw [hfill, findNumaNodeForPci_eq_parsedNode_iff hlayout]

/-- A GPU of the first domain and a device of another domain, with the node of each. -/
def twoDomains (node node' : Bytes) : EvidenceStore :=
  { records := [
      { source := .nvidiaSmi
        pathOrCommand := utf8 "nvidia-smi"
        payload := utf8 "0, GPU, 16 MiB, 0000:01:00.0, 535"
        status := .success },
      { source := .sysfsPci
        pathOrCommand := utf8 "/sys/bus/pci/devices/0000:01:00.0/numa_node"
        payload := node
        status := .success },
      { source := .sysfsPci
        pathOrCommand := utf8 "/sys/bus/pci/devices/10000:01:00.0/numa_node"
        payload := node'
        status := .success }] }

theorem twoDomains_layout (node node' : Bytes) : AttributeLayout (twoDomains node node') where
  paths := by
    intro record h
    have hsplit : (utf8 "/sys/bus/pci/devices/0000:01:00.0/numa_node" =
          pciDevicesDir ++ utf8 "0000:01:00.0" ++ 47 :: utf8 "numa_node") ∧
        utf8 "/sys/bus/pci/devices/10000:01:00.0/numa_node" =
          pciDevicesDir ++ utf8 "10000:01:00.0" ++ 47 :: utf8 "numa_node" := by
      decide +kernel
    simp only [EvidenceStore.getAll, twoDomains, List.mem_filter, List.mem_cons, List.not_mem_nil,
      or_false] at h
    obtain ⟨rfl | rfl | rfl, hsource⟩ := h
    · exact absurd hsource (by decide)
    · exact ⟨utf8 "0000:01:00.0", utf8 "numa_node", hsplit.1, by decide +kernel, by decide +kernel⟩
    · exact ⟨utf8 "10000:01:00.0", utf8 "numa_node", hsplit.2, by decide +kernel, by decide +kernel⟩
  nodup := by
    have hpaths : ((twoDomains node node').getAll .sysfsPci).map (·.pathOrCommand) =
        [utf8 "/sys/bus/pci/devices/0000:01:00.0/numa_node",
          utf8 "/sys/bus/pci/devices/10000:01:00.0/numa_node"] := rfl
    rw [hpaths]
    decide +kernel

/-- The GPU of `twoDomains`. -/
def listedGpu : AcceleratorDevice where
  vendor := utf8 "NVIDIA"
  name := utf8 "GPU"
  pciAddress := some ⟨0, 1, 0, 0⟩
  memorySize := some 16777216
  visibleToCurrentProcess := true

/-- A device without a node takes the one of a device whose domain ends in the same digits. -/
theorem nearestNumaNode_otherDomain :
    ¬ ∀ (raw : EvidenceStore) (parse : JsonParser) (s : AcceleratorInventory.Inventory)
      (accelerators : Accelerators) (warnings : List Bytes), AttributeLayout raw →
      decodeBackends parse raw = some s →
      parseAccelerator parse raw = some (some accelerators, warnings) →
      ∀ (i : ℕ) (device : AcceleratorDevice), s.devices[i]? = some device → ∀ address,
        device.pciAddress = some address → device.nearestNumaNode = none →
          ∃ result : AcceleratorDevice, accelerators.devices[i]? = some result ∧
            result.nearestNumaNode = parsedNode raw address := by
  intro h
  obtain ⟨result, hresult, hnode⟩ := h (twoDomains (utf8 "-1") (utf8 "1")) (fun _ => none)
    ⟨[listedGpu], []⟩ ⟨[{ listedGpu with nearestNumaNode := some 1 }]⟩ [] (twoDomains_layout _ _)
    (by decide +kernel) (by decide +kernel) 0 listedGpu rfl ⟨0, 1, 0, 0⟩ rfl rfl
  have hparsed : parsedNode (twoDomains (utf8 "-1") (utf8 "1")) ⟨0, 1, 0, 0⟩ = none := by
    decide +kernel
  rw [hparsed, ← Option.some.inj hresult] at hnode
  cases hnode

theorem nearestNumaNode_iff_ownFile :
    ∃ result : AcceleratorDevice, [{ listedGpu with nearestNumaNode := some 0 }][0]? = some result ∧
      (result.nearestNumaNode = parsedNode (twoDomains (utf8 "0") (utf8 "1")) ⟨0, 1, 0, 0⟩ ↔
        LookupAgrees (twoDomains (utf8 "0") (utf8 "1")) ⟨0, 1, 0, 0⟩) := by
  have hdecode : decodeBackends (fun _ => none) (twoDomains (utf8 "0") (utf8 "1")) =
      some ⟨[listedGpu], []⟩ := by
    decide +kernel
  have hparse : parseAccelerator (fun _ => none) (twoDomains (utf8 "0") (utf8 "1")) =
      some (some ⟨[{ listedGpu with nearestNumaNode := some 0 }]⟩, []) := by
    decide +kernel
  exact nearestNumaNode_iff (twoDomains_layout _ _) _ hdecode hparse 0 listedGpu rfl ⟨0, 1, 0, 0⟩
    rfl rfl

end Sysal.PciParser
