import Mathlib.Data.List.Forall2
import Mathlib.Data.List.Sort
import Sysal.Foundation.Cuts
import Sysal.Foundation.Grouping
import Sysal.Model.RawStore
import Sysal.Model.Storage
import Sysal.Parser.ParseUtils

/-!
# Storage connections

`storage_connections.cpp` of the parser: the NVMe controllers, the SCSI hosts, and what a block device
says about its namespace or its SCSI address.  A namespace belongs to the controllers whose directory
its paths lie in.

* `inventory_recorded`: an attribute is the last record of its path;
* `below_iff`: a path lies in a directory when its components begin with those of the directory;
* `mem_namespaceControllers`: the controllers of a namespace;
* `applyStorageConnections_spec`: the namespaces of all devices; `multipathStore` has one with two paths.
-/

namespace Sysal.StorageConnectionsParser

open Sysal Std

/-! ### Inventories -/

/-- The attributes of an entry by name. -/
abbrev Attributes := TreeMap Bytes Bytes compare

/-- The entries of a directory by name. -/
abbrev Inventory := TreeMap Bytes Attributes compare

/-- Entry and attribute of a path below a directory. -/
def inventoryKey (root path : Bytes) : Option (Bytes × Bytes) :=
  if Bytes.startsWith path root then (Bytes.cut (path.drop root.length) 47).filter (·.1 ≠ []) else none

/-- One attribute of an entry; a repeated one replaces the one before. -/
def addAttribute (root : Bytes) (attributes : Attributes) (record : RawEvidence) : Attributes :=
  match inventoryKey root record.pathOrCommand with
  | some (_, field) => attributes.insert field (trim record.payload)
  | none => attributes

/-- `inventory`. -/
def inventory (raw : EvidenceStore) (root : Bytes) : Inventory :=
  (raw.successes .sysfsStorageConnections).foldl
    (fileUnder (fun record => (inventoryKey root record.pathOrCommand).map (·.1))
      fun _ attributes record => addAttribute root attributes record) ∅

/-- `attribute`: empty where there is none. -/
def attributeOf (attributes : Attributes) (key : Bytes) : Bytes := attributes.getD key []

/-- `numbered`: the number behind a prefix. -/
def numbered (value lead : Bytes) : Option UInt32 :=
  if Bytes.startsWith value lead then parseUint32 (value.drop lead.length) else none

/-! ### Evidence -/

/-- `ata_port`. -/
def ataPort (path : Bytes) : Option UInt32 :=
  (split path 47).findSome? fun part => numbered part (utf8 "ata")

/-- `scsi_address`. -/
def scsiAddress (path : Bytes) : Option ScsiAddress :=
  match split (extractFilename path) 58 with
  | [host, channel, target, lun] => do
      let host ← parseUint32 host
      let channel ← parseUint32 channel
      let target ← parseUint32 target
      let lun ← parseUint lun
      return { host, channel, target, lun := UInt64.ofNat lun }
  | _ => none

/-- `identifier`: a text of nothing but zeros and separators identifies nothing. -/
def identifier (value : Bytes) : Bytes :=
  if (hardwareText value).all (· ∈ utf8 "0 -:\t\n") then [] else hardwareText value

/-- The controller of an entry of the NVMe class. -/
def nvmeController (name : Bytes) (attributes : Attributes) : Option NvmeController :=
  if (numbered name (utf8 "nvme")).isNone then none
  else some
    { name := name
      transport := hardwareText (attributeOf attributes (utf8 "transport"))
      address := hardwareText (attributeOf attributes (utf8 "address"))
      model := hardwareText (attributeOf attributes (utf8 "model"))
      serial := hardwareText (attributeOf attributes (utf8 "serial"))
      firmwareRevision := hardwareText (attributeOf attributes (utf8 "firmware_rev"))
      state := hardwareText (attributeOf attributes (utf8 "state"))
      subsystemNqn := hardwareText (attributeOf attributes (utf8 "subsysnqn"))
      controllerId := ((parseUint32 (attributeOf attributes (utf8 "cntlid"))).filter
        (· ≤ 0xffff)).map (·.toUInt16)
      pciAddress := lastPciAddress (attributeOf attributes (utf8 "sysfs_path")) }

/-- The host of an entry of the SCSI class. -/
def scsiHost (name : Bytes) (attributes : Attributes) : Option ScsiHost :=
  (numbered name (utf8 "host")).map fun index =>
    let path := attributeOf attributes (utf8 "sysfs_path")
    { number := index
      procName := hardwareText (attributeOf attributes (utf8 "proc_name"))
      state := hardwareText (attributeOf attributes (utf8 "state"))
      supportedMode := hardwareText (attributeOf attributes (utf8 "supported_mode"))
      activeMode := hardwareText (attributeOf attributes (utf8 "active_mode"))
      pciAddress := lastPciAddress path
      ataPort := ataPort path }

/-! ### Devices -/

/-- One controller and one path: its name is added if the path is in its directory. -/
def attachEntry (path : Bytes) (names : List Bytes) (controller : Bytes × Attributes) : List Bytes :=
  let canonical := attributeOf controller.2 (utf8 "sysfs_path")
  if (numbered controller.1 (utf8 "nvme")).isNone then names
  else if canonical = [] ∨ (path ≠ canonical ∧ !Bytes.startsWith path (canonical ++ [47])) then names
  else if controller.1 ∈ names then names
  else names ++ [controller.1]

/-- `attach_controller`, on the names of a namespace. -/
def attachController (controllers : Inventory) (names : List Bytes) (path : Bytes) : List Bytes :=
  controllers.toList.foldl (attachEntry path) names

/-- The paths of a namespace: its own and the targets of its multipath links. -/
def namespacePaths (attributes : Attributes) : List Bytes :=
  attributeOf attributes (utf8 "device_path") ::
    (attributes.toList.filter fun entry => Bytes.startsWith entry.1 (utf8 "multipath/")).map (·.2)

/-- The controllers of a namespace, sorted by name. -/
def namespaceControllers (attributes : Attributes) (controllers : Inventory) : List Bytes :=
  ((namespacePaths attributes).foldl (attachController controllers) []).insertionSort
    fun left right => (compare left right).isLE

/-- `apply_block`. -/
def applyBlock (attributes : Attributes) (controllers : Inventory) (device : StorageDevice) :
    StorageDevice :=
  match (parseUint32 (attributeOf attributes (utf8 "nsid"))).filter (· ≠ 0) with
  | some nsid =>
      { device with
        nvmeNamespace := some
          { id := nsid
            nguid := identifier (attributeOf attributes (utf8 "nguid"))
            eui := identifier (attributeOf attributes (utf8 "eui"))
            controllers := namespaceControllers attributes controllers } }
  | none =>
      match scsiAddress (attributeOf attributes (utf8 "device_path")) with
      | some address =>
          { device with
            scsiDevice := some
              { address := address
                peripheralType := parseUint32 (attributeOf attributes (utf8 "device/type"))
                state := hardwareText (attributeOf attributes (utf8 "device/state")) } }
      | none => device

/-- A device with its entry of the block class; a partition has none of its own. -/
def connectDevice (blocks controllers : Inventory) (device : StorageDevice) : StorageDevice :=
  if device.partitionNumber.isSome then device
  else match blocks[device.name]? with
    | some attributes => applyBlock attributes controllers device
    | none => device

/-- `apply_storage_connections`.  The hosts are sorted by number; hosts of one number keep their order. -/
def applyStorageConnections (storage : Storage) (raw : EvidenceStore) : Storage :=
  let nvme := inventory raw (utf8 "/sys/class/nvme/")
  let hosts := inventory raw (utf8 "/sys/class/scsi_host/")
  { storage with
    nvmeControllers := storage.nvmeControllers ++
      nvme.toList.filterMap fun entry => nvmeController entry.1 entry.2
    scsiHosts := (storage.scsiHosts ++
      hosts.toList.filterMap fun entry => scsiHost entry.1 entry.2).insertionSort
        fun left right => left.number ≤ right.number
    devices := storage.devices.map
      (connectDevice (inventory raw (utf8 "/sys/class/block/")) nvme) }

/-! ### Records -/

/-- The attributes of an entry are the files below its directory. -/
theorem inventoryKey_eq_some {root path name field : Bytes} :
    inventoryKey root path = some (name, field) ↔
      path = root ++ name ++ 47 :: field ∧ name ≠ [] ∧ 47 ∉ name := by
  rw [inventoryKey]
  by_cases hroot : root <+: path
  · obtain ⟨tail, rfl⟩ := hroot
    have hstarts : Bytes.startsWith (root ++ tail) root = true :=
      List.isPrefixOf_iff_prefix.mpr (List.prefix_append root tail)
    rw [if_pos hstarts, List.drop_left, Option.filter_eq_some_iff, cut_eq_some_iff,
      decide_eq_true_eq, List.append_assoc, List.append_cancel_left_eq]
    tauto
  · have hstarts : ¬Bytes.startsWith path root = true := fun h =>
      hroot (List.isPrefixOf_iff_prefix.mp h)
    rw [if_neg hstarts]
    refine iff_of_false (by simp) ?_
    rintro ⟨rfl, -⟩
    exact hroot ⟨name ++ 47 :: field, by rw [List.append_assoc]⟩

/-- The record that counts for an attribute: the last one of the path, without the blanks around it.
The name of an entry is one component. -/
def recorded (raw : EvidenceStore) (root name field : Bytes) : Option Bytes :=
  ((raw.successes .sysfsStorageConnections).filter fun record =>
    name ≠ [] ∧ 47 ∉ name ∧ record.pathOrCommand = root ++ name ++ 47 :: field).getLast?.map
      fun record => trim record.payload

/-- The records of an attribute are those the inventory files under it. -/
theorem recorded_eq (raw : EvidenceStore) (root name field : Bytes) :
    recorded raw root name field =
      (((raw.successes .sysfsStorageConnections).filter fun record =>
        inventoryKey root record.pathOrCommand = some (name, field)).getLast?).map fun record =>
          trim record.payload := by
  rw [recorded]
  congr 2
  refine List.filter_congr fun record _ => decide_eq_decide.mpr ?_
  rw [inventoryKey_eq_some]
  tauto

/-- The attributes of an entry, one record after the other. -/
theorem getElem?_foldl_addAttribute (root name : Bytes) (records : List RawEvidence) (field : Bytes) :
    ((records.filter fun record => (inventoryKey root record.pathOrCommand).map (·.1) = some name).foldl
        (addAttribute root) ∅)[field]? =
      ((records.filter fun record =>
        inventoryKey root record.pathOrCommand = some (name, field)).getLast?).map fun record =>
          trim record.payload := by
  induction records using List.reverseRecOn with
  | nil => simp
  | append_singleton records record ih =>
      rw [List.filter_append, List.filter_append, List.foldl_append, List.getLast?_append]
      cases hkey : inventoryKey root record.pathOrCommand with
      | none => simpa [hkey] using ih
      | some key =>
          obtain ⟨name', field'⟩ := key
          by_cases hname : name' = name
          · subst hname
            rw [List.filter_cons_of_pos (by simp [hkey]), List.filter_nil, List.foldl_cons,
              List.foldl_nil, addAttribute, hkey]
            dsimp only
            rw [TreeMap.getElem?_insert]
            by_cases hfield : field' = field
            · subst hfield
              simp [hkey, ReflOrd.compare_self]
            · rw [if_neg (LawfulEqOrd.compare_eq_iff_eq.not.mpr hfield), ih]
              simp [hkey, hfield]
          · simpa [hkey, hname] using ih

/-- An attribute is the record that counts for it. -/
theorem inventory_recorded (raw : EvidenceStore) (root name field : Bytes) :
    ((inventory raw root)[name]?).bind (·[field]?) = recorded raw root name field := by
  rw [inventory, getElem?_foldl_fileUnder, recorded_eq]
  split
  · rw [Option.bind_some, groupOf]
    exact getElem?_foldl_addAttribute root name _ field
  · rename_i hno
    rw [Option.bind_none, eq_comm, Option.map_eq_none_iff, List.getLast?_eq_none_iff,
      List.filter_eq_nil_iff]
    intro record hrecord hkey
    refine hno (List.mem_filterMap.mpr ⟨record, hrecord, ?_⟩)
    rw [of_decide_eq_true hkey, Option.map_some]

/-! ### Directories -/

/-- A path is a directory or lies in it: its components begin with those of the directory. -/
def Below (directory path : Bytes) : Prop := split directory 47 <+: split path 47

/-- The boundary of a component: `nvme10` is not below `nvme1`. -/
theorem below_iff {directory path : Bytes} :
    Below directory path ↔ path = directory ∨ ∃ rest, path = directory ++ 47 :: rest := by
  rw [Below, split, split]
  constructor
  · rintro ⟨rest, hrest⟩
    have hpath : path = [47].intercalate (directory.splitOn 47 ++ rest) := by
      rw [hrest]
      exact (List.intercalate_splitOn 47).symm
    cases rest with
    | nil =>
        rw [List.append_nil, List.intercalate_splitOn] at hpath
        exact Or.inl hpath
    | cons part rest =>
        refine Or.inr ⟨[47].intercalate (part :: rest), hpath.trans ?_⟩
        have hjoin : ∀ parts : List Bytes, parts ≠ [] →
            [47].intercalate (parts ++ part :: rest) =
              [47].intercalate parts ++ 47 :: [47].intercalate (part :: rest) := by
          intro parts
          induction parts with
          | nil => exact fun h => absurd rfl h
          | cons first parts ih =>
              intro _
              cases parts with
              | nil => simp
              | cons second parts =>
                  rw [List.cons_append, List.cons_append, List.intercalate_cons_cons,
                    List.intercalate_cons_cons, ← List.cons_append, ih (List.cons_ne_nil _ _)]
                  simp
        rw [hjoin _ (List.splitOn_ne_nil 47 directory), List.intercalate_splitOn]
  · rintro (rfl | ⟨rest, rfl⟩)
    · exact List.prefix_refl _
    · rw [List.splitOn_append_cons_self]
      exact List.prefix_append _ _

example : ¬Below (utf8 "/sys/devices/nvme/nvme1") (utf8 "/sys/devices/nvme/nvme10/nvme10n1") := by
  rw [Below]
  decide +kernel

/-- Nothing but the empty path holds the empty path. -/
theorem Below.ne_nil {directory path : Bytes} (h : Below directory path) (hne : directory ≠ []) :
    path ≠ [] := by
  rcases below_iff.mp h with rfl | ⟨rest, rfl⟩
  · exact hne
  · exact List.append_ne_nil_of_right_ne_nil _ (List.cons_ne_nil _ _)

/-! ### Controllers of a namespace -/

section Additions

variable {α β : Type*} {step : List α → β → List α}

/-- A loop that adds elements adds those of every round. -/
theorem mem_foldl_of_step {adds : β → α → Prop}
    (hstep : ∀ names x a, a ∈ step names x ↔ a ∈ names ∨ adds x a) (l : List β) (names : List α)
    (a : α) : a ∈ l.foldl step names ↔ a ∈ names ∨ ∃ x ∈ l, adds x a := by
  induction l generalizing names with
  | nil => simp
  | cons x l ih => simp only [List.foldl_cons, ih, hstep, List.exists_mem_cons_iff, or_assoc]

/-- A loop that adds only new elements repeats none. -/
theorem nodup_foldl_of_step (hstep : ∀ names x, names.Nodup → (step names x).Nodup) (l : List β)
    {names : List α} (h : names.Nodup) : (l.foldl step names).Nodup := by
  induction l generalizing names with
  | nil => exact h
  | cons x l ih => exact ih (hstep _ _ h)

end Additions

/-- An entry of the NVMe class whose directory holds a path. -/
def HoldsPath (controller : Bytes × Attributes) (path : Bytes) : Prop :=
  (numbered controller.1 (utf8 "nvme")).isSome = true ∧
    attributeOf controller.2 (utf8 "sysfs_path") ≠ [] ∧
    Below (attributeOf controller.2 (utf8 "sysfs_path")) path

theorem startsWith_slash {path directory : Bytes} :
    Bytes.startsWith path (directory ++ [47]) = true ↔ ∃ rest, path = directory ++ 47 :: rest := by
  rw [Bytes.startsWith, List.isPrefixOf_iff_prefix]
  constructor
  · rintro ⟨rest, rfl⟩
    exact ⟨rest, by rw [List.append_assoc, List.singleton_append]⟩
  · rintro ⟨rest, rfl⟩
    exact ⟨rest, by rw [List.append_assoc, List.singleton_append]⟩

/-- One controller adds its own name, if its directory holds the path. -/
theorem attachEntry_eq (path : Bytes) (names : List Bytes) (controller : Bytes × Attributes) :
    (HoldsPath controller path ∧ controller.1 ∉ names ∧
        attachEntry path names controller = names ++ [controller.1]) ∨
      ((HoldsPath controller path → controller.1 ∈ names) ∧
        attachEntry path names controller = names) := by
  rw [attachEntry, HoldsPath]
  generalize attributeOf controller.2 (utf8 "sysfs_path") = canonical
  have houtside : (path ≠ canonical ∧ (!Bytes.startsWith path (canonical ++ [47])) = true) ↔
      ¬Below canonical path := by
    rw [below_iff, not_or, Bool.not_eq_true', ← Bool.not_eq_true, startsWith_slash]
  cases hnumbered : numbered controller.1 (utf8 "nvme") with
  | none => exact Or.inr ⟨fun h => absurd h.1 (by decide), rfl⟩
  | some number =>
      rw [if_neg (by simp)]
      by_cases hno : canonical = [] ∨
          (path ≠ canonical ∧ (!Bytes.startsWith path (canonical ++ [47])) = true)
      · rw [if_pos hno]
        rw [houtside] at hno
        exact Or.inr ⟨fun h => hno.elim (absurd · h.2.1) (absurd h.2.2), rfl⟩
      · rw [if_neg hno]
        rw [houtside, not_or, not_not] at hno
        by_cases hmem : controller.1 ∈ names
        · exact Or.inr ⟨fun _ => hmem, if_pos hmem⟩
        · exact Or.inl ⟨⟨rfl, hno⟩, hmem, if_neg hmem⟩

theorem mem_attachEntry {path : Bytes} (names : List Bytes) (controller : Bytes × Attributes)
    (name : Bytes) : name ∈ attachEntry path names controller ↔
      name ∈ names ∨ (name = controller.1 ∧ HoldsPath controller path) := by
  rcases attachEntry_eq path names controller with ⟨hholds, -, heq⟩ | ⟨hold, heq⟩
  · rw [heq, List.mem_append, List.mem_singleton]
    exact or_congr_right (and_iff_left hholds).symm
  · rw [heq]
    refine (or_iff_left_of_imp ?_).symm
    rintro ⟨rfl, hholds⟩
    exact hold hholds

theorem nodup_attachEntry {path : Bytes} (names : List Bytes) (controller : Bytes × Attributes)
    (h : names.Nodup) : (attachEntry path names controller).Nodup := by
  rcases attachEntry_eq path names controller with ⟨-, hnew, heq⟩ | ⟨-, heq⟩
  · rw [heq]
    exact List.nodup_append.mpr ⟨h, List.nodup_singleton _, fun a ha b hb heq =>
      hnew (by rw [← List.mem_singleton.mp hb, ← heq]; exact ha)⟩
  · rw [heq]
    exact h

/-- A path adds the controllers that hold it. -/
theorem mem_attachController {controllers : Inventory} (names : List Bytes) (path name : Bytes) :
    name ∈ attachController controllers names path ↔
      name ∈ names ∨ ∃ attributes, controllers[name]? = some attributes ∧
        HoldsPath (name, attributes) path := by
  rw [attachController, mem_foldl_of_step mem_attachEntry]
  refine or_congr_right ?_
  constructor
  · rintro ⟨⟨other, attributes⟩, hmem, rfl, hholds⟩
    exact ⟨attributes, TreeMap.mem_toList_iff_getElem?_eq_some.mp hmem, hholds⟩
  · rintro ⟨attributes, hsome, hholds⟩
    exact ⟨(name, attributes), TreeMap.mem_toList_iff_getElem?_eq_some.mpr hsome, rfl, hholds⟩

/-- The controllers of a namespace are those that hold one of its paths. -/
theorem mem_namespaceControllers {attributes : Attributes} {controllers : Inventory} {name : Bytes} :
    name ∈ namespaceControllers attributes controllers ↔
      ∃ path ∈ namespacePaths attributes, ∃ entry, controllers[name]? = some entry ∧
        HoldsPath (name, entry) path := by
  rw [namespaceControllers, List.mem_insertionSort, mem_foldl_of_step mem_attachController]
  simp

/-- They come in strictly increasing order. -/
theorem namespaceControllers_pairwise (attributes : Attributes) (controllers : Inventory) :
    (namespaceControllers attributes controllers).Pairwise fun a b => compare a b = .lt := by
  have htotal : Std.Total fun a b : Bytes => (compare a b).isLE = true :=
    ⟨fun a b => by
      rw [OrientedOrd.eq_swap (a := b), Ordering.isLE_swap]
      cases compare a b <;> simp⟩
  have htrans : IsTrans Bytes fun a b => (compare a b).isLE = true :=
    ⟨fun a b c => TransCmp.isLE_trans⟩
  have hsorted := List.pairwise_insertionSort (fun a b : Bytes => (compare a b).isLE = true)
    ((namespacePaths attributes).foldl (attachController controllers) [])
  have hnodup : (namespaceControllers attributes controllers).Nodup := by
    rw [namespaceControllers, (List.perm_insertionSort _ _).nodup_iff]
    refine nodup_foldl_of_step (fun names path h => ?_) _ List.nodup_nil
    exact nodup_foldl_of_step nodup_attachEntry _ h
  refine (List.Pairwise.and hsorted hnodup).imp fun {a b} h => ?_
  cases hcompare : compare a b with
  | lt => rfl
  | eq => exact absurd (LawfulEqOrd.eq_of_compare hcompare) h.2
  | gt =>
      rw [hcompare] at h
      exact absurd h.1 (by decide)

/-! ### Devices -/

/-- A controller whose recorded directory holds a path of a device: its own or a multipath target. -/
def Associated (raw : EvidenceStore) (device name : Bytes) : Prop :=
  (numbered name (utf8 "nvme")).isSome = true ∧
    ∃ canonical, recorded raw (utf8 "/sys/class/nvme/") name (utf8 "sysfs_path") = some canonical ∧
      canonical ≠ [] ∧ ∃ field path,
        (field = utf8 "device_path" ∨ Bytes.startsWith field (utf8 "multipath/") = true) ∧
          recorded raw (utf8 "/sys/class/block/") device field = some path ∧ Below canonical path

/-- What the evidence makes of a device: a partition stays as it is, and any other device with a number
of a namespace has that namespace, with the controllers it is associated with by name. -/
structure Connects (raw : EvidenceStore) (device after : StorageDevice) : Prop where
  partition : device.partitionNumber ≠ none → after = device
  namespaced : ∀ text nsid, device.partitionNumber = none →
    recorded raw (utf8 "/sys/class/block/") device.name (utf8 "nsid") = some text →
    parseUint32 text = some nsid → nsid ≠ 0 →
      ∃ ns, after.nvmeNamespace = some ns ∧ ns.id = nsid ∧
        (ns.controllers.Pairwise fun a b => compare a b = .lt) ∧
        ∀ name, name ∈ ns.controllers ↔ Associated raw device.name name

/-- The paths of a namespace, as they were recorded. -/
theorem mem_namespacePaths {raw : EvidenceStore} {root device path : Bytes} {attributes : Attributes}
    (hdevice : (inventory raw root)[device]? = some attributes) (hne : path ≠ []) :
    path ∈ namespacePaths attributes ↔ ∃ field,
      (field = utf8 "device_path" ∨ Bytes.startsWith field (utf8 "multipath/") = true) ∧
        recorded raw root device field = some path := by
  have hrecorded : ∀ field, recorded raw root device field = attributes[field]? := fun field => by
    rw [← inventory_recorded, hdevice, Option.bind_some]
  simp only [hrecorded, namespacePaths, List.mem_cons, List.mem_map, List.mem_filter]
  constructor
  · rintro (hpath | ⟨⟨field, target⟩, ⟨hmem, hstarts⟩, rfl⟩)
    · refine ⟨_, Or.inl rfl, ?_⟩
      rw [attributeOf, TreeMap.getD_eq_getD_getElem?] at hpath
      cases hsome : attributes[utf8 "device_path"]? with
      | none =>
          rw [hsome] at hpath
          exact absurd hpath hne
      | some value =>
          rw [hsome] at hpath
          exact congrArg some hpath.symm
    · exact ⟨field, Or.inr hstarts, TreeMap.mem_toList_iff_getElem?_eq_some.mp hmem⟩
  · rintro ⟨field, rfl | hstarts, hsome⟩
    · left
      rw [attributeOf, TreeMap.getD_eq_getD_getElem?, hsome, Option.getD_some]
    · exact Or.inr ⟨(field, path), ⟨TreeMap.mem_toList_iff_getElem?_eq_some.mpr hsome, hstarts⟩, rfl⟩

/-- The directory of a controller, as it was recorded. -/
theorem holdsPath_iff {raw : EvidenceStore} {root name path : Bytes} :
    (∃ entry, (inventory raw root)[name]? = some entry ∧ HoldsPath (name, entry) path) ↔
      (numbered name (utf8 "nvme")).isSome = true ∧ ∃ canonical,
        recorded raw root name (utf8 "sysfs_path") = some canonical ∧ canonical ≠ [] ∧
          Below canonical path := by
  rw [← inventory_recorded]
  constructor
  · rintro ⟨entry, hentry, hnumbered, hne, hbelow⟩
    refine ⟨hnumbered, attributeOf entry (utf8 "sysfs_path"), ?_, hne, hbelow⟩
    rw [hentry, Option.bind_some]
    rw [attributeOf, TreeMap.getD_eq_getD_getElem?] at hne ⊢
    cases hsome : entry[utf8 "sysfs_path"]? with
    | none =>
        rw [hsome] at hne
        exact absurd rfl hne
    | some canonical => rfl
  · rintro ⟨hnumbered, canonical, hcanonical, hne, hbelow⟩
    obtain ⟨entry, hentry, hfield⟩ := Option.bind_eq_some_iff.mp hcanonical
    have hattribute : attributeOf entry (utf8 "sysfs_path") = canonical := by
      rw [attributeOf, TreeMap.getD_eq_getD_getElem?, hfield, Option.getD_some]
    exact ⟨entry, hentry, hnumbered, hattribute ▸ hne, hattribute ▸ hbelow⟩

/-- The controllers of a namespace are the associated ones. -/
theorem mem_namespaceControllers_iff {raw : EvidenceStore} {device name : Bytes}
    {attributes : Attributes}
    (hdevice : (inventory raw (utf8 "/sys/class/block/"))[device]? = some attributes) :
    name ∈ namespaceControllers attributes (inventory raw (utf8 "/sys/class/nvme/")) ↔
      Associated raw device name := by
  simp only [mem_namespaceControllers, holdsPath_iff, Associated]
  constructor
  · rintro ⟨path, hpath, hnumbered, canonical, hcanonical, hne, hbelow⟩
    obtain ⟨field, hfield, hrecorded⟩ := (mem_namespacePaths hdevice (hbelow.ne_nil hne)).mp hpath
    exact ⟨hnumbered, canonical, hcanonical, hne, field, path, hfield, hrecorded, hbelow⟩
  · rintro ⟨hnumbered, canonical, hcanonical, hne, field, path, hfield, hrecorded, hbelow⟩
    refine ⟨path, ?_, hnumbered, canonical, hcanonical, hne, hbelow⟩
    exact (mem_namespacePaths hdevice (hbelow.ne_nil hne)).mpr ⟨field, hfield, hrecorded⟩

theorem connectDevice_connects (raw : EvidenceStore) (device : StorageDevice) :
    Connects raw device
      (connectDevice (inventory raw (utf8 "/sys/class/block/"))
        (inventory raw (utf8 "/sys/class/nvme/")) device) := by
  constructor
  · intro hpartition
    rw [connectDevice, if_pos (Option.isSome_iff_ne_none.mpr hpartition)]
  · intro text nsid hpartition htext hnsid hne
    rw [← inventory_recorded] at htext
    obtain ⟨attributes, hdevice, hfield⟩ := Option.bind_eq_some_iff.mp htext
    have hattribute : attributeOf attributes (utf8 "nsid") = text := by
      rw [attributeOf, TreeMap.getD_eq_getD_getElem?, hfield, Option.getD_some]
    have hfilter : (parseUint32 (attributeOf attributes (utf8 "nsid"))).filter (· ≠ 0) = some nsid := by
      rw [hattribute, hnsid, Option.filter_some, if_pos (by simpa using hne)]
    rw [connectDevice, hpartition, Option.isSome_none, if_neg (by decide), hdevice]
    dsimp only
    rw [applyBlock, hfilter]
    exact ⟨_, rfl, rfl, namespaceControllers_pairwise _ _, fun name =>
      mem_namespaceControllers_iff hdevice⟩

/-- **A namespace has the controllers whose directories hold its paths**, and a partition has none. -/
theorem applyStorageConnections_spec (storage : Storage) (raw : EvidenceStore) :
    List.Forall₂ (Connects raw) storage.devices (applyStorageConnections storage raw).devices := by
  rw [applyStorageConnections, List.forall₂_map_right_iff, List.forall₂_same]
  exact fun device _ => connectDevice_connects raw device

/-- One attribute of a class. -/
def connectionRecord (path payload : String) : RawEvidence :=
  { source := .sysfsStorageConnections
    pathOrCommand := utf8 "/sys/class/" ++ utf8 path
    payload := utf8 payload
    status := .success }

/-- A namespace with two paths, and two controllers whose names begin alike. -/
def multipathStore : EvidenceStore :=
  { records := [
      connectionRecord "nvme/nvme0/sysfs_path" "/sys/devices/pci0000:00/0000:01:00.0/nvme/nvme0\n",
      connectionRecord "nvme/nvme1/sysfs_path" "/sys/devices/pci0000:00/0000:02:00.0/nvme/nvme1\n",
      connectionRecord "nvme/nvme10/sysfs_path" "/sys/devices/pci0000:00/0000:02:00.0/nvme/nvme10\n",
      connectionRecord "block/nvme0n1/nsid" "1\n",
      connectionRecord "block/nvme0n1/device_path" "/sys/devices/virtual/nvme-subsystem/nvme-subsys0",
      connectionRecord "block/nvme0n1/multipath/nvme10c10n1"
        "/sys/devices/pci0000:00/0000:02:00.0/nvme/nvme10/nvme10c10n1",
      connectionRecord "block/nvme0n1/multipath/nvme0c0n1"
        "/sys/devices/pci0000:00/0000:01:00.0/nvme/nvme0/nvme0c0n1"] }

/-- The namespace belongs to the controllers of its two paths, and not to `nvme1`. -/
theorem applyStorageConnections_spec_multipath :
    (applyStorageConnections { devices := [{ name := utf8 "nvme0n1" }] } multipathStore).devices.map
        (·.nvmeNamespace.map (·.controllers)) = [some [utf8 "nvme0", utf8 "nvme10"]] ∧
      Associated multipathStore (utf8 "nvme0n1") (utf8 "nvme10") ∧
      ¬Associated multipathStore (utf8 "nvme0n1") (utf8 "nvme1") := by
  have hcontrollers : (applyStorageConnections { devices := [{ name := utf8 "nvme0n1" }] }
      multipathStore).devices.map (·.nvmeNamespace.map (·.controllers)) =
        [some [utf8 "nvme0", utf8 "nvme10"]] := by decide +kernel
  refine ⟨hcontrollers, ?_⟩
  obtain ⟨after, rest, hconnects, -, hdevices⟩ := List.forall₂_cons_left_iff.mp
    (applyStorageConnections_spec { devices := [{ name := utf8 "nvme0n1" }] } multipathStore)
  obtain ⟨ns, hns, -, -, hmem⟩ := hconnects.namespaced (utf8 "1") 1 rfl (by decide +kernel)
    (by decide +kernel) (by decide)
  have hnames : ns.controllers = [utf8 "nvme0", utf8 "nvme10"] := by
    rw [hdevices, List.map_cons, hns] at hcontrollers
    simpa using List.head_eq_of_cons_eq hcontrollers
  rw [← hmem, ← hmem, hnames]
  exact ⟨by decide, by decide⟩

end Sysal.StorageConnectionsParser
