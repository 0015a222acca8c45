import Sysal.Pipeline.Pipeline

/-!
# A domain does not depend on what else is requested

Two replays of one store, the second asking for more: every domain the first one asked for has the
same value in both, up to the fields other domains are allowed to fill in.  These are the visibility
of CPUs and accelerators and the list of visible accelerators, the NUMA nodes of the memory
inventory, and the health reports of storage; the NUMA nodes and health reports of the smaller run are
all found again in the larger one.

* `collectFromRaw_sameDomains`: **domain independence**.
-/

namespace Sysal

/-! ### The fields other domains fill in -/

def Cpu.withoutVisibility (cpu : Cpu) : Cpu :=
  { cpu with
    logicalCpus := cpu.logicalCpus.map fun logical => { logical with visibleToCurrentProcess := none } }

def Memory.withoutNuma (memory : Memory) : Memory :=
  { memory with
    controllers := memory.controllers.map fun c => { c with numaNode := none }
    dimms := memory.dimms.map fun d => { d with numaNode := none }
    edacDevices := memory.edacDevices.map fun d => { d with numaNode := none } }

def Storage.withoutHealth (storage : Storage) : Storage := { storage with health := [] }

/-- Every NUMA node known on the left is the one on the right. -/
def KeepsNuma (a b : Option NumaNodeId) : Prop := ∀ node, a = some node → b = some node

/-- The NUMA nodes of one memory inventory are found again in another one. -/
structure Memory.NumaLe (a b : Memory) : Prop where
  controllers :
    List.Forall₂ (fun c d => KeepsNuma c.numaNode d.numaNode) a.controllers b.controllers
  dimms : List.Forall₂ (fun c d => KeepsNuma c.numaNode d.numaNode) a.dimms b.dimms
  edacDevices :
    List.Forall₂ (fun c d => KeepsNuma c.numaNode d.numaNode) a.edacDevices b.edacDevices

/-- Two systems agree on the requested domains. -/
structure SameDomains (flags : Collect) (s t : SystemInfo) : Prop where
  platform : has flags Collect.platform → s.platform = t.platform
  cpu : has flags Collect.cpu → s.cpu.withoutVisibility = t.cpu.withoutVisibility
  memory : has flags Collect.memory → s.memory.withoutNuma = t.memory.withoutNuma
  memoryNuma : has flags Collect.memory → s.memory.NumaLe t.memory
  accelerators : has flags Collect.accelerator →
    s.accelerators.withoutVisibility = t.accelerators.withoutVisibility
  network : has flags Collect.network → s.network = t.network
  storage : has flags Collect.storage → s.storage.withoutHealth = t.storage.withoutHealth
  storageReports : has flags Collect.storage → s.storage.health <+: t.storage.health
  storageHealth : has flags Collect.storageHealth → s.storage = t.storage
  pci : has flags Collect.pci → s.pci = t.pci
  software : has flags Collect.software → s.software = t.software
  execution : has flags Collect.execution →
    s.execution.withoutVisibleAccelerators = t.execution.withoutVisibleAccelerators
  sensors : has flags Collect.sensors → s.sensors = t.sensors

/-! ### Flags -/

/-- A requested flag stays requested in a larger set. -/
theorem has_mono {F G test : Collect} (hFG : F &&& G = F) (h : has F test) : has G test := by
  simp only [has, bne_iff_ne, ne_eq] at h ⊢
  intro hzero
  apply h
  rw [← hFG, UInt32.and_assoc, hzero, UInt32.and_zero]

/-- A flag is part of every mask that contains it. -/
theorem has_of_subset {flags test mask : Collect} (hmask : test &&& mask = test)
    (h : has flags test) : has flags mask := by
  simp only [has, bne_iff_ne, ne_eq] at h ⊢
  intro hzero
  apply h
  rw [← hmask, UInt32.and_comm test mask, ← UInt32.and_assoc, hzero, UInt32.zero_and]

/-! ### Links into the memory inventory -/

namespace Resolve

theorem linkMemory_withoutNuma (pci : Pci) (memory : Memory) :
    (linkMemory pci memory).withoutNuma = memory.withoutNuma := by
  have hcontroller : ∀ c : MemoryController,
      { linkController pci c with numaNode := none } = { c with numaNode := none } := by
    intro c
    simp only [linkController]
    split <;> rfl
  have hdimm : ∀ (controllers : List MemoryController) (d : DimmInfo),
      { linkDimm controllers d with numaNode := none } = { d with numaNode := none } := by
    intro controllers d
    simp only [linkDimm]
    split <;> rfl
  have hedac : ∀ (controllers : List MemoryController) (d : EdacMemoryDevice),
      { linkEdacDevice controllers d with numaNode := none } = { d with numaNode := none } := by
    intro controllers d
    simp only [linkEdacDevice]
    split <;> rfl
  simp only [Memory.withoutNuma, linkMemory, List.map_map, Function.comp_def, hcontroller, hdimm,
    hedac]

theorem KeepsNuma.rfl {a : Option NumaNodeId} : KeepsNuma a a := fun _ h => h

/-- Without PCI functions a controller keeps what it reported itself. -/
theorem linkController_empty (c : MemoryController) : linkController {} c = c := by
  have hfind : c.pciAddress.bind (Pci.find {}) = none := by
    cases c.pciAddress <;> rfl
  simp only [linkController, numaFromPci, hfind]
  split <;> rfl

theorem linkController_keeps (pci : Pci) (c : MemoryController) :
    KeepsNuma (linkController {} c).numaNode (linkController pci c).numaNode := by
  rw [linkController_empty]
  intro node hnode
  simp only [linkController, hnode, Option.isNone_some, Bool.false_eq_true, if_false]

/-- The lookup of a controller's NUMA node keeps a node when the controllers keep theirs. -/
theorem controllerNuma_keeps {controllers controllers' : List MemoryController} {index : UInt32}
    {a b : Option NumaNodeId} (hab : KeepsNuma a b)
    (h : List.Forall₂ (fun c d => c.index = d.index ∧ KeepsNuma c.numaNode d.numaNode)
      controllers controllers') :
    KeepsNuma (controllerNuma controllers index a) (controllerNuma controllers' index b) := by
  induction h generalizing a b with
  | nil => exact hab
  | cons hcd _ ih =>
      simp only [controllerNuma, List.foldl_cons] at ih ⊢
      rw [hcd.1]
      split
      · exact ih hcd.2
      · exact ih hab

theorem linkMemory_numaLe (pci : Pci) (memory : Memory) :
    (linkMemory {} memory).NumaLe (linkMemory pci memory) := by
  have hcontrollers : List.Forall₂ (fun c d => c.index = d.index ∧ KeepsNuma c.numaNode d.numaNode)
      (memory.controllers.map (linkController {})) (memory.controllers.map (linkController pci)) := by
    rw [List.forall₂_map_left_iff, List.forall₂_map_right_iff, List.forall₂_same]
    intro c _
    refine ⟨?_, linkController_keeps pci c⟩
    simp only [linkController]
    split <;> rfl
  constructor
  · exact hcontrollers.imp fun _ _ h => h.2
  · show List.Forall₂ _ (memory.dimms.map _) (memory.dimms.map _)
    rw [List.forall₂_map_left_iff, List.forall₂_map_right_iff, List.forall₂_same]
    intro d _
    simp only [linkDimm]
    split
    · exact controllerNuma_keeps KeepsNuma.rfl hcontrollers
    · exact KeepsNuma.rfl
  · show List.Forall₂ _ (memory.edacDevices.map _) (memory.edacDevices.map _)
    rw [List.forall₂_map_left_iff, List.forall₂_map_right_iff, List.forall₂_same]
    intro d _
    simp only [linkEdacDevice]
    split
    · exact controllerNuma_keeps KeepsNuma.rfl hcontrollers
    · exact KeepsNuma.rfl

theorem Memory.NumaLe.rfl (memory : Memory) : memory.NumaLe memory :=
  ⟨List.forall₂_same.mpr fun _ _ => KeepsNuma.rfl, List.forall₂_same.mpr fun _ _ => KeepsNuma.rfl,
   List.forall₂_same.mpr fun _ _ => KeepsNuma.rfl⟩

theorem computeCpuVisibility_withoutVisibility (cpu : Cpu) (execution : ExecutionContext) :
    (computeCpuVisibility cpu execution).withoutVisibility = cpu.withoutVisibility := by
  simp only [Cpu.withoutVisibility, computeCpuVisibility, List.map_map]
  rfl

/-- Health reports pass through the resolver untouched and steer nothing. -/
theorem linkStorage_health (pci : Pci) (storage : Storage) (health : List StorageHealthReport) :
    linkStorage pci (some { storage with health := health }) =
      { linkStorage pci (some storage) with health := health } :=
  rfl

end Resolve

/-! ### The two runs -/

namespace Pipeline

open Resolve AcceleratorVisibility

variable {parsers : Parsers} {raw : EvidenceStore} {F G : Collect}

/-- The merged domains of a flag set. -/
def mergedDomains (parsers : Parsers) (flags : Collect) (raw : EvidenceStore) : SystemInfo :=
  (resolveDomains flags raw (parseDomains parsers flags raw).1).1

/-- The PCI functions the resolver of a flag set works with. -/
def resolverPci (parsers : Parsers) (flags : Collect) (raw : EvidenceStore) : Pci :=
  (if has flags pciMask then (parsers.pci raw).1 else none).getD {}

/-- Both runs work with the same PCI functions, or the smaller one with none. -/
theorem resolverPci_cases (parsers : Parsers) (raw : EvidenceStore) (hFG : F &&& G = F) :
    resolverPci parsers F raw = resolverPci parsers G raw ∨ resolverPci parsers F raw = {} := by
  by_cases hF : has F pciMask
  · left
    simp only [resolverPci, hF, has_mono hFG hF, if_true]
  · right
    simp only [resolverPci, hF, Bool.false_eq_true, if_false, Option.getD_none]

/-- A domain whose table entry reads PCI functions works with the same ones in both runs. -/
theorem resolverPci_eq (hFG : F &&& G = F) {test : Collect} (hmask : test &&& pciMask = test)
    (hF : has F test) : resolverPci parsers F raw = resolverPci parsers G raw := by
  have hFp := has_of_subset hmask hF
  simp only [resolverPci, hFp, has_mono hFG hFp, if_true]

theorem mergedDomains_platform (hFG : F &&& G = F) (hF : has F Collect.platform) :
    (mergedDomains parsers F raw).platform = (mergedDomains parsers G raw).platform := by
  simp only [mergedDomains, resolveDomains, resolve, parseDomains_fst, hF, has_mono hFG hF, if_true]

theorem mergedDomains_cpu (hFG : F &&& G = F) (hF : has F Collect.cpu) :
    (mergedDomains parsers F raw).cpu.withoutVisibility =
      (mergedDomains parsers G raw).cpu.withoutVisibility := by
  simp only [mergedDomains, resolveDomains, resolve, parseDomains_fst,
    computeCpuVisibility_withoutVisibility, hF, has_mono hFG hF, if_true]

theorem mergedDomains_memory (flags : Collect) (h : has flags Collect.memory) :
    (mergedDomains parsers flags raw).memory =
      linkMemory (resolverPci parsers flags raw) ((parsers.memory raw).1.getD {}) := by
  simp only [mergedDomains, resolveDomains, resolve, parseDomains_fst, resolverPci, h, if_true]

theorem mergedDomains_network (flags : Collect) (h : has flags Collect.network) :
    (mergedDomains parsers flags raw).network =
      computeNetworkVisibility
        (linkNetwork (resolverPci parsers flags raw) ((parsers.network raw).1.getD {})) := by
  simp only [mergedDomains, resolveDomains, resolve, parseDomains_fst, resolverPci, h, if_true]

theorem mergedDomains_accelerators (hFG : F &&& G = F) (hF : has F Collect.accelerator) :
    (mergedDomains parsers F raw).accelerators.withoutVisibility =
      (mergedDomains parsers G raw).accelerators.withoutVisibility := by
  simp only [mergedDomains, resolveDomains, resolve, parseDomains_fst,
    resolveAcceleratorVisibility_devices, hF, has_mono hFG hF, if_true]

theorem mergedDomains_storage (flags : Collect) :
    (mergedDomains parsers flags raw).storage =
      linkStorage (resolverPci parsers flags raw) (parsedStorage parsers flags raw) := by
  simp only [mergedDomains, resolveDomains, resolve, parseDomains_fst, resolverPci]

theorem mergedDomains_execution (hFG : F &&& G = F) (hF : has F Collect.execution) :
    (mergedDomains parsers F raw).execution.withoutVisibleAccelerators =
      (mergedDomains parsers G raw).execution.withoutVisibleAccelerators := by
  simp only [mergedDomains, resolveDomains, resolve, parseDomains_fst,
    resolveAcceleratorVisibility_execution, hF, has_mono hFG hF, if_true]

/-- The storage domains of both runs differ at most in the health reports, which are only added. -/
theorem mergedDomains_storage_cases (hFG : F &&& G = F) {test : Collect}
    (hstorage : test &&& storageMask = test) (hpci : test &&& pciMask = test) (hF : has F test) :
    (mergedDomains parsers F raw).storage.withoutHealth =
        (mergedDomains parsers G raw).storage.withoutHealth ∧
      (mergedDomains parsers F raw).storage.health <+: (mergedDomains parsers G raw).storage.health ∧
      (has F Collect.storageHealth →
        (mergedDomains parsers F raw).storage = (mergedDomains parsers G raw).storage) := by
  have hFm := has_of_subset hstorage hF
  rw [mergedDomains_storage, mergedDomains_storage, resolverPci_eq hFG hpci hF]
  simp only [parsedStorage, hFm, has_mono hFG hFm, if_true]
  rcases (parsers.storage raw).1 with _ | storage
  · exact ⟨rfl, List.prefix_rfl, fun _ => rfl⟩
  · simp only [Option.map_some, linkStorage_health]
    refine ⟨rfl, ?_, fun hhealth => by rw [hhealth, has_mono hFG hhealth]⟩
    show storage.health ++ _ <+: storage.health ++ _
    by_cases hhealth : has F Collect.storageHealth
    · rw [hhealth, has_mono hFG hhealth]
    · simp only [hhealth, Bool.false_eq_true, if_false, List.append_nil]
      exact List.prefix_append _ _

theorem mergedDomains_same (hFG : F &&& G = F) :
    SameDomains F (mergedDomains parsers F raw) (mergedDomains parsers G raw) where
  platform := mergedDomains_platform hFG
  cpu := mergedDomains_cpu hFG
  memory hF := by
    rw [mergedDomains_memory F hF, mergedDomains_memory G (has_mono hFG hF),
      linkMemory_withoutNuma, linkMemory_withoutNuma]
  memoryNuma hF := by
    rw [mergedDomains_memory F hF, mergedDomains_memory G (has_mono hFG hF)]
    rcases resolverPci_cases parsers raw hFG with heq | hempty
    · rw [heq]
      exact Memory.NumaLe.rfl _
    · rw [hempty]
      exact linkMemory_numaLe _ _
  accelerators := mergedDomains_accelerators hFG
  network hF := by
    rw [mergedDomains_network F hF, mergedDomains_network G (has_mono hFG hF),
      resolverPci_eq hFG (by decide) hF]
  storage hF := (mergedDomains_storage_cases hFG (by decide) (by decide) hF).1
  storageReports hF := (mergedDomains_storage_cases hFG (by decide) (by decide) hF).2.1
  storageHealth hF := (mergedDomains_storage_cases hFG (by decide) (by decide) hF).2.2 hF
  pci hF := by
    simp only [mergedDomains, resolveDomains, resolve, parseDomains_fst]
    exact resolverPci_eq hFG (by decide) hF
  software hF := by
    simp only [mergedDomains, resolveDomains, resolve, parseDomains_fst, hF, has_mono hFG hF,
      if_true]
  execution := mergedDomains_execution hFG
  sensors hF := by
    simp only [mergedDomains, resolveDomains, resolve, parseDomains_fst, hF, has_mono hFG hF,
      if_true]

end Pipeline

open Pipeline

/-- **Domain independence**: when a store is collected from twice and the second request contains the
first, the domains of the first request come out the same. -/
theorem collectFromRaw_sameDomains {parsers : Parsers} {clock clock' : Clock} {raw : RawStore}
    {F G : Collect} {s t : System} (hFG : F &&& G = F)
    (hs : collectFromRaw parsers clock raw F = .ok s)
    (ht : collectFromRaw parsers clock' raw G = .ok t) :
    SameDomains F s.info t.info ∧ s.raw = t.raw := by
  have hrun := runReplay_of_collectFromRaw hs
  have hrun' := runReplay_of_collectFromRaw ht
  constructor
  · rw [runReplay_info hrun, runReplay_info hrun']
    exact mergedDomains_same hFG
  · rw [runReplay_raw hrun, runReplay_raw hrun']

/-- Evidence of one processor. -/
def processorStore : RawStore :=
  { records := [⟨⟨.procCpuInfo, utf8 "/proc/cpuinfo", utf8 "processor: 0\n", .success, none, none⟩,
      0⟩] }

/-- A collection from the processor's evidence. -/
def processorSystem (flags : Collect) : Except Thrown System :=
  collectFromRaw cpuParsers ⟨0, default⟩ processorStore flags

theorem collectFromRaw_sameDomains_processor :
    ∃ s t, processorSystem Collect.cpu = .ok s ∧
      processorSystem (Collect.cpu ||| Collect.sensors) = .ok t ∧
      SameDomains Collect.cpu s.info t.info ∧ s.raw = t.raw := by
  have hs : (processorSystem Collect.cpu).toBool = true := by decide
  have ht : (processorSystem (Collect.cpu ||| Collect.sensors)).toBool = true := by decide
  cases hs' : processorSystem Collect.cpu with
  | error e => rw [hs'] at hs; cases hs
  | ok s =>
      cases ht' : processorSystem (Collect.cpu ||| Collect.sensors) with
      | error e => rw [ht'] at ht; cases ht
      | ok t => exact ⟨s, t, rfl, rfl, collectFromRaw_sameDomains (by decide) hs' ht'⟩

end Sysal
