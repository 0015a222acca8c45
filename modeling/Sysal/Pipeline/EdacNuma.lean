import Sysal.Foundation.Grouping
import Sysal.Parser.Memory
import Sysal.Pipeline.DomainIndependence

/-!
# NUMA nodes of the memory controllers

The parser reads the node of a memory controller from its own attribute and hands it to the modules
and devices of the controller.  The resolver asks the PCI function of a controller that has no node
yet, and hands the node it finds on where the parser had none to hand on.

* `scannedControllers`: the controllers and what their attributes say;
* `linkMemory_placed`: the second pass completes the first;
* `edacNuma_spec`: the controllers, modules and devices of a run.
-/

namespace Sysal.MemoryParser

open Sysal Std

/-! ### What is reported -/

/-- The controller a record is an attribute of. -/
def controllerKey (record : RawEvidence) : Option UInt32 :=
  if record.pathOrCommand.hasSub (utf8 "/dimm") ∨ record.pathOrCommand.hasSub (utf8 "/rank") then none
  else edacControllerIndex record.pathOrCommand

/-- The values an attribute of a controller has in a list of records, where they are valid. -/
def attributeValues {α : Type} (records : List RawEvidence) (index : UInt32) (name : Bytes)
    (read : Bytes → Option α) : List α :=
  records.filterMap fun record =>
    if controllerKey record = some index ∧ extractFilename record.pathOrCommand = name
    then read (trim record.payload) else none

/-- The node a controller reports itself: the last valid value. -/
def reportedNode (records : List RawEvidence) (index : UInt32) : Option NumaNodeId :=
  (attributeValues records index (utf8 "numa_node") parseUint32).getLast?

/-- The PCI function a controller reports. -/
def reportedAddress (records : List RawEvidence) (index : UInt32) : Option PciAddress :=
  (attributeValues records index (utf8 "device") lastPciAddress).getLast?

/-! ### The scan of the controllers -/

/-- One attribute under the number of its controller. -/
def addAttribute (index : UInt32) (controller : MemoryController) (record : RawEvidence) :
    MemoryController :=
  readControllerField { controller with index := index } (extractFilename record.pathOrCommand)
    record.payload

theorem scanController_eq : scanController = fileUnder controllerKey addAttribute := by
  funext controllers record
  rw [scanController, fileUnder, controllerKey]
  split_ifs
  · rfl
  · cases edacControllerIndex record.pathOrCommand <;> rfl

/-- An attribute of a controller leaves its number, and changes node and address only by its own
name. -/
theorem readControllerField_cases (controller : MemoryController) (name payload : Bytes) :
    (readControllerField controller name payload).index = controller.index ∧
      (readControllerField controller name payload).numaNode =
        (if name = utf8 "numa_node" then parseUint32 (trim payload) else none).or
          controller.numaNode ∧
      (readControllerField controller name payload).pciAddress =
        (if name = utf8 "device" then lastPciAddress (trim payload) else none).or
          controller.pciAddress := by
  by_cases hnode : name = utf8 "numa_node"
  · subst hnode
    rw [readControllerField, if_neg (by decide +kernel), if_neg (by decide +kernel), if_neg (by decide +kernel),
      if_neg (by decide +kernel), if_neg (by decide +kernel), if_pos rfl, if_pos rfl,
      if_neg (by decide +kernel)]
    cases parseUint32 (trim payload) <;> exact ⟨rfl, rfl, rfl⟩
  · by_cases hdevice : name = utf8 "device"
    · subst hdevice
      rw [readControllerField, if_neg (by decide +kernel), if_neg (by decide +kernel), if_neg (by decide +kernel),
        if_neg (by decide +kernel), if_neg (by decide +kernel), if_neg hnode, if_pos rfl,
        if_neg hnode, if_pos rfl]
      cases lastPciAddress (trim payload) <;> exact ⟨rfl, rfl, rfl⟩
    · rw [if_neg hnode, if_neg hdevice, Option.none_or, Option.none_or, readControllerField,
        if_neg hnode, if_neg hdevice]
      split_ifs
      · exact ⟨rfl, rfl, rfl⟩
      · exact ⟨rfl, rfl, rfl⟩
      · split <;> exact ⟨rfl, rfl, rfl⟩
      · exact ⟨rfl, rfl, rfl⟩
      · exact ⟨rfl, rfl, rfl⟩
      · exact ⟨rfl, rfl, rfl⟩

/-- A further attribute has the last word, if its value is valid. -/
theorem getLast?_attributeValues {α : Type} (name : Bytes) (read : Bytes → Option α)
    {record : RawEvidence} {index : UInt32} (hkey : controllerKey record = some index)
    (records : List RawEvidence) :
    (attributeValues (records ++ [record]) index name read).getLast? =
      (if extractFilename record.pathOrCommand = name then read (trim record.payload)
        else none).or (attributeValues records index name read).getLast? := by
  have hvalue : (if controllerKey record = some index ∧ extractFilename record.pathOrCommand = name
      then read (trim record.payload) else none) =
      if extractFilename record.pathOrCommand = name then read (trim record.payload) else none := by
    simp only [hkey, true_and]
  rw [attributeValues, attributeValues, List.filterMap_append, List.getLast?_append,
    List.filterMap_cons, List.filterMap_nil, hvalue]
  cases (if extractFilename record.pathOrCommand = name then read (trim record.payload) else none)
  · rfl
  · rfl

theorem attributeValues_filter {α : Type} (records : List RawEvidence) (index : UInt32)
    (name : Bytes) (read : Bytes → Option α) :
    attributeValues (records.filter (controllerKey · = some index)) index name read =
      attributeValues records index name read := by
  rw [attributeValues, attributeValues, List.filterMap_filter]
  refine List.filterMap_congr fun record _ => ?_
  by_cases hkey : controllerKey record = some index
  · simp [hkey]
  · simp [hkey]

/-- What the attributes of a controller make of it, one after the other. -/
theorem foldl_addAttribute (index : UInt32) (records : List RawEvidence)
    (hrecords : ∀ record ∈ records, controllerKey record = some index)
    (controller : MemoryController) :
    (records.foldl (addAttribute index) controller).numaNode =
        (reportedNode records index).or controller.numaNode ∧
      (records.foldl (addAttribute index) controller).pciAddress =
        (reportedAddress records index).or controller.pciAddress ∧
      (records ≠ [] → (records.foldl (addAttribute index) controller).index = index) := by
  induction records using List.reverseRecOn with
  | nil => exact ⟨rfl, rfl, fun h => absurd rfl h⟩
  | append_singleton records record ih =>
      rw [List.forall_mem_append, List.forall_mem_singleton] at hrecords
      obtain ⟨ihnode, ihaddress, -⟩ := ih hrecords.1
      obtain ⟨hindex, hnode, haddress⟩ := readControllerField_cases
        { records.foldl (addAttribute index) controller with index := index }
        (extractFilename record.pathOrCommand) record.payload
      rw [List.foldl_append, List.foldl_cons, List.foldl_nil, addAttribute, hnode, haddress, hindex,
        reportedNode, reportedAddress, getLast?_attributeValues _ _ hrecords.2,
        getLast?_attributeValues _ _ hrecords.2, Option.or_assoc, Option.or_assoc]
      exact ⟨by rw [ihnode]; rfl, by rw [ihaddress]; rfl, fun _ => rfl⟩

/-- A controller with what its own attributes say. -/
structure Reported (records : List RawEvidence) (controller : MemoryController) : Prop where
  node : controller.numaNode = reportedNode records controller.index
  address : controller.pciAddress = reportedAddress records controller.index

/-- The controllers the scan collects. -/
def scannedControllers (raw : EvidenceStore) : List MemoryController :=
  ((raw.successes .sysfsEdac).foldl scanController ∅).toList.map Prod.snd

theorem groupOf_addAttribute {records : List RawEvidence} {index : UInt32}
    (hindex : index ∈ records.filterMap controllerKey) :
    (groupOf controllerKey addAttribute records index).index = index ∧
      Reported records (groupOf controllerKey addAttribute records index) := by
  have hown : ∀ record ∈ records.filter (controllerKey · = some index),
      controllerKey record = some index := fun record hmem =>
    of_decide_eq_true (List.mem_filter.mp hmem).2
  have hne : records.filter (controllerKey · = some index) ≠ [] := by
    obtain ⟨record, hmem, hkey⟩ := List.mem_filterMap.mp hindex
    exact List.ne_nil_of_mem (List.mem_filter.mpr ⟨hmem, decide_eq_true hkey⟩)
  obtain ⟨hnode, haddress, hnumber⟩ := foldl_addAttribute index _ hown default
  rw [reportedNode, attributeValues_filter] at hnode
  rw [reportedAddress, attributeValues_filter] at haddress
  have hnumber' := hnumber hne
  refine ⟨hnumber', ?_, ?_⟩
  · rw [groupOf, hnode, hnumber']
    exact Option.or_none
  · rw [groupOf, haddress, hnumber']
    exact Option.or_none

/-- **The controllers come by number**, each once, with what their own attributes say. -/
theorem scannedControllers_spec (raw : EvidenceStore) :
    (scannedControllers raw).Pairwise (·.index < ·.index) ∧
      ∀ controller ∈ scannedControllers raw, Reported (raw.successes .sysfsEdac) controller := by
  have hlist : scannedControllers raw =
      (sortedSet ((raw.successes .sysfsEdac).filterMap controllerKey)).map
        (groupOf controllerKey addAttribute (raw.successes .sysfsEdac)) := by
    rw [scannedControllers, scanController_eq, toList_foldl_fileUnder, List.map_map]
    rfl
  rw [hlist]
  constructor
  · rw [List.pairwise_map]
    refine (sortedSet_pairwise_lt _).imp_of_mem fun {a b} ha hb hlt => ?_
    rw [(groupOf_addAttribute (mem_sortedSet.mp ha)).1, (groupOf_addAttribute (mem_sortedSet.mp hb)).1]
    exact compare_eq_lt.mp hlt
  · intro controller hmem
    obtain ⟨index, hindex, rfl⟩ := List.mem_map.mp hmem
    exact (groupOf_addAttribute (mem_sortedSet.mp hindex)).2

/-! ### The first pass -/

/-- Every module and device of a controller has the node of the controller. -/
structure Placed (memory : Memory) : Prop where
  dimms : ∀ dimm ∈ memory.dimms, ∀ controller ∈ memory.controllers,
    dimm.controllerIndex = some controller.index → dimm.numaNode = controller.numaNode
  devices : ∀ device ∈ memory.edacDevices, ∀ controller ∈ memory.controllers,
    device.controllerIndex = controller.index → device.numaNode = controller.numaNode

/-- Controllers with different numbers are told apart by them. -/
theorem controller_unique {controllers : List MemoryController}
    (hsorted : controllers.Pairwise (·.index < ·.index)) {a b : MemoryController}
    (ha : a ∈ controllers) (hb : b ∈ controllers) (h : a.index = b.index) : a = b := by
  have hnodup : (controllers.map (·.index)).Nodup := by
    rw [List.Nodup, List.pairwise_map]
    exact hsorted.imp fun {a b} (hlt : a.index < b.index) (heq : a.index = b.index) =>
      UInt32.lt_irrefl _ (heq ▸ hlt)
  exact List.inj_on_of_nodup_map hnodup ha hb h

/-- Of controllers with different numbers the search finds the one it is asked for. -/
theorem controllerNode_of_mem {controllers : List MemoryController}
    (hsorted : controllers.Pairwise (·.index < ·.index)) {controller : MemoryController}
    (hmem : controller ∈ controllers) :
    controllerNode controllers controller.index = some controller.numaNode := by
  rw [controllerNode]
  cases hfind : controllers.find? (·.index = controller.index) with
  | none => exact absurd (decide_eq_true rfl) (List.find?_eq_none.mp hfind controller hmem)
  | some found =>
      have hindex : found.index = controller.index := by simpa using List.find?_some hfind
      rw [controller_unique hsorted (List.mem_of_find?_eq_some hfind) hmem hindex]
      rfl

/-- What the report about the memory array leaves alone. -/
def inventoryOf (memory : Memory) :
    List MemoryController × List DimmInfo × List EdacMemoryDevice :=
  (memory.controllers, memory.dimms, memory.edacDevices)

theorem placeDimm_controllerIndex (controllers : List MemoryController) (dimm : DimmInfo) :
    (placeDimm controllers dimm).controllerIndex = dimm.controllerIndex := by
  rw [placeDimm]
  split <;> rfl

theorem placeDevice_controllerIndex (controllers : List MemoryController)
    (device : EdacMemoryDevice) :
    (placeDevice controllers device).controllerIndex = device.controllerIndex := by
  rw [placeDevice]
  split <;> rfl

/-- The inventory the topology leaves. -/
theorem applyMemoryTopology_inventory (raw : EvidenceStore) {memory : Memory}
    (hnone : memory.controllers = []) :
    inventoryOf (applyMemoryTopology raw memory) =
      (scannedControllers raw, memory.dimms.map (placeDimm (scannedControllers raw)),
        memory.edacDevices.map (placeDevice (scannedControllers raw))) := by
  refine (foldl_scanArrayLine_keeps inventoryOf (fun _ _ _ _ _ => rfl) _ _).trans ?_
  rw [hnone]
  rfl

/-- The first pass places every module and device. -/
theorem placed_applyMemoryTopology (raw : EvidenceStore) {memory : Memory}
    (hnone : memory.controllers = []) : Placed (applyMemoryTopology raw memory) := by
  obtain ⟨hcontrollers, hrest⟩ := Prod.mk.inj (applyMemoryTopology_inventory raw hnone)
  obtain ⟨hdimms, hdevices⟩ := Prod.mk.inj hrest
  have hsorted := (scannedControllers_spec raw).1
  constructor
  · intro dimm hdimm controller hcontroller hindex
    rw [hdimms, List.mem_map] at hdimm
    rw [hcontrollers] at hcontroller
    obtain ⟨before, -, rfl⟩ := hdimm
    rw [placeDimm_controllerIndex] at hindex
    rw [placeDimm, hindex, Option.bind_some, controllerNode_of_mem hsorted hcontroller]
  · intro device hdevice controller hcontroller hindex
    rw [hdevices, List.mem_map] at hdevice
    rw [hcontrollers] at hcontroller
    obtain ⟨before, -, rfl⟩ := hdevice
    rw [placeDevice_controllerIndex] at hindex
    rw [placeDevice, hindex, controllerNode_of_mem hsorted hcontroller]

theorem countDimms_controllers (memory : Memory) :
    (countDimms memory).controllers = memory.controllers := by
  rw [countDimms]
  split_ifs <;> rfl

theorem applyEdacInventory_controllers (raw : EvidenceStore) (s : Memory × Bytes) :
    (applyEdacInventory raw s).1.controllers = s.1.controllers := by
  rw [applyEdacInventory]
  split_ifs <;> rfl

/-- The memory the parser returns has been through the first pass. -/
theorem parseMemory_topology {raw : EvidenceStore} {memory : Memory}
    (h : (parseMemory raw).1 = some memory) :
    ∃ before, before.controllers = [] ∧ memory = applyMemoryTopology raw before := by
  rw [parseMemory] at h
  split at h
  · cases h
  · rename_i record _
    by_cases htotal : (parseMeminfo record.payload).total = 0
    · rw [if_pos htotal] at h
      cases h
    rw [if_neg htotal] at h
    refine ⟨_, ?_, (Option.some.inj h).symm⟩
    rw [countDimms_controllers]
    exact applyEdacInventory_controllers raw _

end Sysal.MemoryParser

namespace Sysal.Resolve

open Sysal MemoryParser

/-! ### The second pass -/

theorem linkController_index (pci : Pci) (controller : MemoryController) :
    (linkController pci controller).index = controller.index := by
  rw [linkController]
  split_ifs <;> rfl

/-- A controller has its own node, or the one of its PCI function. -/
theorem linkController_node (pci : Pci) (controller : MemoryController) :
    (linkController pci controller).numaNode =
      controller.numaNode.or
        (controller.pciAddress.bind fun address => (pci.find address).bind (·.numaNode)) := by
  rw [linkController]
  cases hnode : controller.numaNode with
  | some node =>
      rw [if_neg (by simp), hnode]
      rfl
  | none =>
      rw [Option.none_or]
      show numaFromPci pci controller.pciAddress none = _
      rw [numaFromPci]
      cases controller.pciAddress with
      | none => rfl
      | some address =>
          dsimp only [Option.bind_some]
          cases pci.find address <;> rfl

/-- Controllers without a number leave the node as it is. -/
theorem controllerNuma_of_notMem {controllers : List MemoryController} {index : UInt32}
    (h : ∀ controller ∈ controllers, controller.index ≠ index) (current : Option NumaNodeId) :
    controllerNuma controllers index current = current := by
  rw [controllerNuma]
  induction controllers with
  | nil => rfl
  | cons controller controllers ih =>
      rw [List.forall_mem_cons] at h
      rw [List.foldl_cons, if_neg h.1]
      exact ih h.2

/-- Of controllers with different numbers the one with the number counts. -/
theorem controllerNuma_of_mem {controllers : List MemoryController}
    (hsorted : controllers.Pairwise (·.index < ·.index)) {controller : MemoryController}
    (hmem : controller ∈ controllers) (current : Option NumaNodeId) :
    controllerNuma controllers controller.index current = controller.numaNode := by
  induction controllers generalizing current with
  | nil => cases hmem
  | cons other controllers ih =>
      rw [List.pairwise_cons] at hsorted
      rcases List.mem_cons.mp hmem with rfl | hrest
      · rw [controllerNuma, List.foldl_cons, if_pos rfl]
        exact controllerNuma_of_notMem (fun later hlater heq =>
          UInt32.lt_irrefl _ (heq ▸ hsorted.1 later hlater)) _
      · exact ih hsorted.2 hrest _

/-- **The second pass completes the first**: what had no node takes the one its controller has now,
and what had one had the one of its controller. -/
theorem linkMemory_placed (pci : Pci) {memory : Memory}
    (hsorted : memory.controllers.Pairwise (·.index < ·.index)) (hplaced : Placed memory) :
    Placed (linkMemory pci memory) := by
  have hsorted' : (memory.controllers.map (linkController pci)).Pairwise (·.index < ·.index) := by
    rw [List.pairwise_map]
    refine hsorted.imp fun {a b} hlt => ?_
    rw [linkController_index, linkController_index]
    exact hlt
  constructor
  · intro dimm hdimm controller hcontroller hindex
    obtain ⟨before, hbefore, rfl⟩ := List.mem_map.mp hdimm
    obtain ⟨original, horiginal, rfl⟩ := List.mem_map.mp hcontroller
    have hnuma := controllerNuma_of_mem hsorted' hcontroller none
    rw [linkController_index] at hindex hnuma
    have hbeforeIndex : before.controllerIndex = some original.index := by
      rw [← hindex, linkDimm]
      split <;> rfl
    have hfirst := hplaced.dimms before hbefore original horiginal hbeforeIndex
    rw [linkDimm, hbeforeIndex]
    cases hnode : before.numaNode with
    | none => exact hnuma
    | some node =>
        rw [hnode] at hfirst
        rw [linkController_node, ← hfirst, Option.some_or]
        exact hnode
  · intro device hdevice controller hcontroller hindex
    obtain ⟨before, hbefore, rfl⟩ := List.mem_map.mp hdevice
    obtain ⟨original, horiginal, rfl⟩ := List.mem_map.mp hcontroller
    have hnuma := controllerNuma_of_mem hsorted' hcontroller none
    rw [linkController_index] at hindex hnuma
    have hbeforeIndex : before.controllerIndex = original.index := by
      rw [← hindex, linkEdacDevice]
      split_ifs <;> rfl
    have hfirst := hplaced.devices before hbefore original horiginal hbeforeIndex
    rw [linkEdacDevice, hbeforeIndex]
    cases hnode : before.numaNode with
    | none => exact hnuma
    | some node =>
        rw [hnode] at hfirst
        rw [linkController_node, ← hfirst, Option.some_or]
        exact hnode

end Sysal.Resolve

namespace Sysal.Pipeline

open Sysal MemoryParser Resolve

/-! ### Runs -/

/-- The memory controllers of a system, with the nodes they have and hand on. -/
structure NodesPropagated (records : List RawEvidence) (pci : Pci) (memory : Memory) : Prop where
  increasing : memory.controllers.Pairwise (·.index < ·.index)
  node : ∀ controller ∈ memory.controllers, controller.numaNode =
    (reportedNode records controller.index).or
      ((reportedAddress records controller.index).bind fun address =>
        (pci.find address).bind (·.numaNode))
  placed : Placed memory

/-- The second pass on what the first pass left. -/
theorem nodesPropagated_of_topology (raw : EvidenceStore) (pci : Pci) {memory : Memory}
    (hnone : memory.controllers = []) :
    NodesPropagated (raw.successes .sysfsEdac) pci
      (linkMemory pci (applyMemoryTopology raw memory)) := by
  have hcontrollers := (Prod.mk.inj (applyMemoryTopology_inventory raw hnone)).1
  obtain ⟨hsorted, hreported⟩ := scannedControllers_spec raw
  rw [← hcontrollers] at hsorted hreported
  refine ⟨?_, ?_, linkMemory_placed pci hsorted (placed_applyMemoryTopology raw hnone)⟩
  · rw [linkMemory, List.pairwise_map]
    refine hsorted.imp fun {a b} hlt => ?_
    rw [linkController_index, linkController_index]
    exact hlt
  · intro controller hmem
    obtain ⟨before, hbefore, rfl⟩ := List.mem_map.mp hmem
    obtain ⟨hnode, haddress⟩ := hreported before hbefore
    rw [linkController_node, linkController_index, hnode, haddress]

/-- Without memory there is nothing to propagate. -/
theorem nodesPropagated_nil (records : List RawEvidence) (pci : Pci) :
    NodesPropagated records pci (linkMemory pci {}) :=
  ⟨List.Pairwise.nil, fun _ hmem => absurd hmem List.not_mem_nil,
    ⟨fun _ hmem => absurd hmem List.not_mem_nil, fun _ hmem => absurd hmem List.not_mem_nil⟩⟩

/-- The PCI functions of the result are the ones the resolver works with. -/
theorem mergedDomains_pci (parsers : Parsers) (flags : Collect) (raw : EvidenceStore) :
    (mergedDomains parsers flags raw).pci = resolverPci parsers flags raw := by
  simp only [mergedDomains, resolveDomains, resolve, parseDomains_fst, resolverPci]

/-- **In every run that asks for memory** the controllers come by number, have the node they report or
the one of their PCI function, and all their modules and devices have the same node. -/
theorem edacNuma_spec {parsers : Parsers} {clock : Clock} {raw : RawStore} {flags : Collect}
    {s : System}
    (h : collectFromRaw { parsers with memory := parseMemory } clock raw flags = .ok s)
    (hmemory : has flags Collect.memory = true) :
    NodesPropagated (raw.evidence.successes .sysfsEdac) s.info.pci s.info.memory := by
  have hinfo : s.info = mergedDomains { parsers with memory := parseMemory } flags raw.evidence :=
    runReplay_info (runReplay_of_collectFromRaw h)
  rw [hinfo, mergedDomains_memory flags hmemory, mergedDomains_pci]
  cases hparsed : (parseMemory raw.evidence).1 with
  | none => exact nodesPropagated_nil _ _
  | some memory =>
      obtain ⟨before, hnone, rfl⟩ := parseMemory_topology hparsed
      exact nodesPropagated_of_topology raw.evidence _ hnone

/-- A controller that knows its PCI function only, and one of its devices. -/
def controllerStore : RawStore :=
  { records :=
      [⟨⟨.procMemInfo, utf8 "/proc/meminfo", utf8 "MemTotal: 1 kB\n", .success, none, none⟩, 0⟩,
       ⟨⟨.sysfsEdac, utf8 "/edac/mc/mc1/device", utf8 "/0000:00:1f.0", .success, none, none⟩, 0⟩,
       ⟨⟨.sysfsEdac, utf8 "/edac/mc/mc1/dimm0/size", utf8 "8", .success, none, none⟩, 0⟩] }

/-- Parsers that find one PCI function, on the second node. -/
def onePciFunction : Parsers :=
  { cpuParsers with
    pci := fun _ => (some { devices := [{ address := ⟨0, 0, 31, 0⟩, numaNode := some 1 }] }, []) }

theorem edacNuma_spec_controllerStore :
    ∃ s, collectFromRaw { onePciFunction with memory := parseMemory } ⟨0, default⟩ controllerStore
        (Collect.memory ||| Collect.pci) = .ok s ∧
      s.info.memory.edacDevices.map (·.numaNode) = [some 1] ∧
      NodesPropagated (controllerStore.evidence.successes .sysfsEdac) s.info.pci s.info.memory := by
  have hs : (collectFromRaw { onePciFunction with memory := parseMemory } ⟨0, default⟩
      controllerStore (Collect.memory ||| Collect.pci)).toOption.map
        (fun s => s.info.memory.edacDevices.map (·.numaNode)) = some [some 1] := by
    decide +kernel
  cases h : collectFromRaw { onePciFunction with memory := parseMemory } ⟨0, default⟩
      controllerStore (Collect.memory ||| Collect.pci) with
  | error e =>
      rw [h] at hs
      cases hs
  | ok s =>
      rw [h] at hs
      exact ⟨s, rfl, Option.some.inj hs, edacNuma_spec h (by decide)⟩

end Sysal.Pipeline
