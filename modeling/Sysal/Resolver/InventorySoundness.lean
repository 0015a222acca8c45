import Sysal.Resolver.Inventory

/-!
# What a complete inventory rests on

A report says that an inventory is complete only on the evidence of one successful enumeration whose
names are the names of the model (`Exhaustive`); packages and cores borrow the evidence of the logical
CPUs, and need a topology record for each of them (`TopologyRecorded`).

* `mem_inventoryReports`: every requested inventory has the report `reportOf`.
* `report_complete_iff`: when an inventory with names is complete.
* `inventoryReports_sound`: what completeness says, inventory by inventory.
-/

namespace Sysal

open Inventory

/-! ### The report of each inventory -/

/-- The collection domain an inventory belongs to. -/
def inventoryDomain : InventoryKind → Collect
  | .cpuPackages | .cpuCores | .logicalCpus | .numaNodes | .cpuCaches => Collect.cpu
  | .networkInterfaces => Collect.network
  | .blockDevices => Collect.storage
  | .pciDevices => Collect.pci
  | .acceleratorDevices => Collect.accelerator

/-- The names the model gives to the entries of an inventory that is compared by name. -/
def modelNames (info : SystemInfo) : InventoryKind → Option (List Bytes)
  | .logicalCpus => some (info.cpu.logicalCpus.map fun entry => utf8 "cpu" ++ decimal entry.id.toNat)
  | .numaNodes => some (info.cpu.numaNodes.map fun entry => utf8 "node" ++ decimal entry.id.toNat)
  | .networkInterfaces => some (info.network.interfaces.map (·.name))
  | .blockDevices => some (info.storage.devices.map (·.name))
  | .pciDevices => some (info.pci.devices.map fun entry => pciName entry.address)
  | .cpuPackages | .cpuCores | .cpuCaches | .acceleratorDevices => none

/-- The report on the logical CPUs. -/
def logicalReport (cpu : Cpu) (raw : EvidenceStore) : InventoryReport :=
  report raw .logicalCpus (cpu.logicalCpus.map fun entry => utf8 "cpu" ++ decimal entry.id.toNat)
    (utf8 "/sys/devices/system/cpu")

/-- The report of an inventory that is requested. -/
def reportOf (info : SystemInfo) (raw : EvidenceStore) : InventoryKind → InventoryReport
  | .logicalCpus => logicalReport info.cpu raw
  | .cpuPackages =>
      let logical := logicalReport info.cpu raw
      let packages := observed .cpuPackages info.cpu.packages.isEmpty logical.origin
      if topologyKnown info.cpu raw then { packages with completeness := logical.completeness }
      else packages
  | .cpuCores =>
      let logical := logicalReport info.cpu raw
      let cores := observed .cpuCores info.cpu.cores.isEmpty logical.origin
      if topologyKnown info.cpu raw then { cores with completeness := logical.completeness }
      else cores
  | .numaNodes =>
      report raw .numaNodes
        (info.cpu.numaNodes.map fun entry => utf8 "node" ++ decimal entry.id.toNat)
        (utf8 "/sys/devices/system/node")
  | .cpuCaches => observed .cpuCaches info.cpu.caches.isEmpty (utf8 "observed CPU caches")
  | .networkInterfaces =>
      report raw .networkInterfaces (info.network.interfaces.map (·.name)) (utf8 "/sys/class/net")
  | .blockDevices =>
      report raw .blockDevices (info.storage.devices.map (·.name)) (utf8 "/sys/class/block")
  | .pciDevices =>
      report raw .pciDevices (info.pci.devices.map fun entry => pciName entry.address)
        (utf8 "/sys/bus/pci/devices")
  | .acceleratorDevices =>
      observed .acceleratorDevices info.accelerators.devices.isEmpty
        (utf8 "observed accelerator backends")

theorem report_inventory (raw : EvidenceStore) (kind : InventoryKind) (names : List Bytes)
    (origin : Bytes) : (report raw kind names origin).inventory = kind := by
  rw [report]
  split
  · rfl
  · split <;> rfl

theorem reportOf_inventory (info : SystemInfo) (raw : EvidenceStore) (kind : InventoryKind) :
    (reportOf info raw kind).inventory = kind := by
  cases kind with
  | cpuPackages | cpuCores =>
      rw [reportOf]
      split <;> rfl
  | cpuCaches | acceleratorDevices => rfl
  | logicalCpus | numaNodes | networkInterfaces | blockDevices | pciDevices =>
      exact report_inventory _ _ _ _

/-- **The reports**: one for every inventory of a requested domain. -/
theorem mem_inventoryReports (info : SystemInfo) (raw : EvidenceStore) (flags : Collect)
    (r : InventoryReport) :
    r ∈ inventoryReports info raw flags ↔
      has flags (inventoryDomain r.inventory) = true ∧ r = reportOf info raw r.inventory := by
  have hguard : ∀ (b : Bool) (l : List InventoryReport),
      r ∈ (if b = true then l else []) ↔ b = true ∧ r ∈ l := by
    intro b l
    cases b <;> simp
  have hkinds : r ∈ inventoryReports info raw flags ↔
      ∃ kind, has flags (inventoryDomain kind) = true ∧ r = reportOf info raw kind := by
    rw [inventoryReports]
    simp only [List.mem_append, hguard, cpuReports, List.mem_cons, List.not_mem_nil, or_false]
    constructor
    · rintro ((((⟨hf, rfl | rfl | rfl | rfl | rfl⟩ | ⟨hf, rfl⟩) | ⟨hf, rfl⟩) | ⟨hf, rfl⟩) |
        ⟨hf, rfl⟩)
      · exact ⟨.logicalCpus, hf, rfl⟩
      · exact ⟨.cpuPackages, hf, rfl⟩
      · exact ⟨.cpuCores, hf, rfl⟩
      · exact ⟨.numaNodes, hf, rfl⟩
      · exact ⟨.cpuCaches, hf, rfl⟩
      · exact ⟨.networkInterfaces, hf, rfl⟩
      · exact ⟨.blockDevices, hf, rfl⟩
      · exact ⟨.pciDevices, hf, rfl⟩
      · exact ⟨.acceleratorDevices, hf, rfl⟩
    · rintro ⟨kind, hf, rfl⟩
      cases kind with
      | logicalCpus => exact .inl (.inl (.inl (.inl ⟨hf, .inl rfl⟩)))
      | cpuPackages => exact .inl (.inl (.inl (.inl ⟨hf, .inr (.inl rfl)⟩)))
      | cpuCores => exact .inl (.inl (.inl (.inl ⟨hf, .inr (.inr (.inl rfl))⟩)))
      | numaNodes => exact .inl (.inl (.inl (.inl ⟨hf, .inr (.inr (.inr (.inl rfl)))⟩)))
      | cpuCaches => exact .inl (.inl (.inl (.inl ⟨hf, .inr (.inr (.inr (.inr rfl)))⟩)))
      | networkInterfaces => exact .inl (.inl (.inl (.inr ⟨hf, rfl⟩)))
      | blockDevices => exact .inl (.inl (.inr ⟨hf, rfl⟩))
      | pciDevices => exact .inl (.inr ⟨hf, rfl⟩)
      | acceleratorDevices => exact .inr ⟨hf, rfl⟩
  rw [hkinds]
  constructor
  · rintro ⟨kind, hf, rfl⟩
    rw [reportOf_inventory]
    exact ⟨hf, rfl⟩
  · rintro ⟨hf, heq⟩
    exact ⟨r.inventory, hf, heq⟩

/-! ### Inventories with names -/

/-- There is exactly one enumeration of a kind, and it succeeded without a failure. -/
def EnumeratedOnce (raw : EvidenceStore) (kind : InventoryKind) (e : InventoryEnumeration) : Prop :=
  raw.enumerations.filter (·.inventory = kind) = [e] ∧ e.status = .success ∧ e.failure = none

/-- The only enumeration of a kind lists exactly the given names, and nothing is listed twice. -/
def Exhaustive (raw : EvidenceStore) (kind : InventoryKind) (names : List Bytes) : Prop :=
  ∃ e, EnumeratedOnce raw kind e ∧ e.entries.Nodup ∧ names.Nodup ∧
    ∀ name, name ∈ e.entries ↔ name ∈ names

theorem enumeration_eq_some {raw : EvidenceStore} {kind : InventoryKind} {e : InventoryEnumeration} :
    raw.enumeration kind = some e ↔ raw.enumerations.filter (·.inventory = kind) = [e] := by
  rw [EvidenceStore.enumeration]
  constructor
  · intro h
    split at h
    · rename_i heq
      rw [heq, Option.some.inj h]
    · cases h
  · intro h
    rw [h]

theorem sameNames_iff {names entries : List Bytes} :
    sameNames names entries = true ↔
      entries.Nodup ∧ names.Nodup ∧ ∀ name, name ∈ entries ↔ name ∈ names := by
  have hcard : ∀ l : List Bytes, l.toFinset.card = l.length ↔ l.Nodup := fun l =>
    (Multiset.toFinset_card_eq_card_iff_nodup (m := (l : Multiset Bytes))).trans Multiset.coe_nodup
  rw [sameNames, decide_eq_true_iff, hcard, hcard, Finset.ext_iff]
  simp only [List.mem_toFinset]

theorem observed_ne_complete (kind : InventoryKind) (empty : Bool) (origin : Bytes) :
    (observed kind empty origin).completeness ≠ .complete := by
  cases empty <;> exact InventoryCompleteness.noConfusion

/-- **When an inventory with names is complete**. -/
theorem report_complete_iff (raw : EvidenceStore) (kind : InventoryKind) (names : List Bytes)
    (origin : Bytes) :
    (report raw kind names origin).completeness = .complete ↔ Exhaustive raw kind names := by
  rw [report, Exhaustive]
  simp only [EnumeratedOnce, ← enumeration_eq_some]
  rcases raw.enumeration kind with _ | e
  · exact iff_of_false (observed_ne_complete _ _ _) (by simp)
  · simp only [Option.some.injEq, exists_eq_left', and_assoc, ← sameNames_iff]
    by_cases h : e.status = .success ∧ e.failure = none ∧ sameNames names e.entries = true
    · rw [if_pos h]
      exact iff_of_true rfl h
    · rw [if_neg h]
      exact iff_of_false (observed_ne_complete _ _ _) h

/-! ### Packages and cores -/

/-- The topology files packages and cores are read from. -/
def topologyFields : List Bytes := [utf8 "physical_package_id", utf8 "core_id"]

/-- A topology file of a CPU was recorded once, successfully, with a 32-bit number. -/
def TopologyRecorded (raw : EvidenceStore) (cpu : LogicalCpuId) (field : Bytes) : Prop :=
  ∃ record n, raw.get .sysfsCpu (utf8 "/sys/devices/system/cpu/cpu" ++ decimal cpu.toNat ++
      utf8 "/topology/" ++ field) = [record] ∧
    record.status = .success ∧ parseUint (trim record.payload) = some n ∧ n ≤ 2 ^ 32 - 1

theorem topologyFieldKnown_iff (raw : EvidenceStore) (cpu : LogicalCpuId) (field : Bytes) :
    topologyFieldKnown raw cpu field = true ↔ TopologyRecorded raw cpu field := by
  rw [topologyFieldKnown, TopologyRecorded]
  split
  · rename_i record heq
    rw [heq, Bool.and_eq_true, decide_eq_true_iff, Option.any_eq_true]
    constructor
    · rintro ⟨hstatus, n, hn, hmax⟩
      exact ⟨record, n, rfl, hstatus, hn, of_decide_eq_true hmax⟩
    · rintro ⟨record', n, heq', hstatus, hn, hmax⟩
      rw [← (List.cons.inj heq').1] at hstatus hn
      exact ⟨hstatus, n, hn, decide_eq_true hmax⟩
  · rename_i hother
    refine iff_of_false Bool.false_ne_true ?_
    rintro ⟨record, n, heq, -⟩
    exact hother record heq

theorem topologyKnown_recorded {cpu : Cpu} {raw : EvidenceStore} (h : topologyKnown cpu raw = true) :
    ∀ logical ∈ cpu.logicalCpus, ∀ field ∈ topologyFields, TopologyRecorded raw logical.id field := by
  rw [topologyKnown, Bool.and_eq_true, List.all_eq_true] at h
  intro logical hlogical field hfield
  exact (topologyFieldKnown_iff _ _ _).mp (List.all_eq_true.mp (h.2 logical hlogical) field hfield)

/-- Packages and cores are complete only through the logical CPUs and their topology. -/
theorem reportOf_topology {info : SystemInfo} {raw : EvidenceStore} {kind : InventoryKind}
    (hkind : kind = .cpuPackages ∨ kind = .cpuCores)
    (h : (reportOf info raw kind).completeness = .complete) :
    (reportOf info raw .logicalCpus).completeness = .complete ∧ topologyKnown info.cpu raw = true := by
  rcases hkind with rfl | rfl
  all_goals
    rw [reportOf] at h
    split at h
    · rename_i hknown
      exact ⟨h, hknown⟩
    · exact absurd h (observed_ne_complete _ _ _)

/-! ### The soundness of completeness -/

/-- The inventory whose enumeration a report rests on. -/
def evidenceKind : InventoryKind → InventoryKind
  | .cpuPackages | .cpuCores => .logicalCpus
  | kind => kind

theorem reportOf_complete_iff {info : SystemInfo} {raw : EvidenceStore} {kind : InventoryKind}
    {names : List Bytes} (hnames : modelNames info kind = some names) :
    (reportOf info raw kind).completeness = .complete ↔ Exhaustive raw kind names := by
  cases kind with
  | cpuPackages | cpuCores | cpuCaches | acceleratorDevices => cases hnames
  | logicalCpus | numaNodes | networkInterfaces | blockDevices | pciDevices =>
      rw [← Option.some.inj hnames]
      exact report_complete_iff _ _ _ _

/-- Whatever is complete was enumerated once, without a failure. -/
theorem reportOf_enumeratedOnce {info : SystemInfo} {raw : EvidenceStore} {kind : InventoryKind}
    (h : (reportOf info raw kind).completeness = .complete) :
    ∃ e, EnumeratedOnce raw (evidenceKind kind) e := by
  have hnamed : ∀ {kind names}, modelNames info kind = some names →
      (reportOf info raw kind).completeness = .complete → ∃ e, EnumeratedOnce raw kind e := by
    intro kind names hnames h
    obtain ⟨e, he, -⟩ := (reportOf_complete_iff hnames).mp h
    exact ⟨e, he⟩
  cases kind with
  | cpuPackages => exact hnamed rfl (reportOf_topology (.inl rfl) h).1
  | cpuCores => exact hnamed rfl (reportOf_topology (.inr rfl) h).1
  | cpuCaches | acceleratorDevices => exact absurd h (observed_ne_complete _ _ _)
  | logicalCpus | numaNodes | networkInterfaces | blockDevices | pciDevices => exact hnamed rfl h

/-- **Completeness is sound**: there is a report for every inventory of a requested domain, and for
each of them: an inventory with names is complete exactly when the evidence is exhaustive; packages and
cores are complete only with the logical CPUs and a topology record for each of these; caches and
accelerators never are; and nothing is on the evidence of an enumeration that is repeated or not a
success. -/
theorem inventoryReports_sound (info : SystemInfo) (raw : EvidenceStore) (flags : Collect) :
    (∀ kind, (∃ r ∈ inventoryReports info raw flags, r.inventory = kind) ↔
        has flags (inventoryDomain kind) = true) ∧
      (∀ r ∈ inventoryReports info raw flags, ∀ names, modelNames info r.inventory = some names →
        (r.completeness = .complete ↔ Exhaustive raw r.inventory names)) ∧
      (∀ r ∈ inventoryReports info raw flags, r.inventory = .cpuPackages ∨ r.inventory = .cpuCores →
        r.completeness = .complete →
          (∃ l ∈ inventoryReports info raw flags,
            l.inventory = .logicalCpus ∧ l.completeness = .complete) ∧
          ∀ logical ∈ info.cpu.logicalCpus, ∀ field ∈ topologyFields,
            TopologyRecorded raw logical.id field) ∧
      (∀ r ∈ inventoryReports info raw flags,
        r.inventory = .cpuCaches ∨ r.inventory = .acceleratorDevices →
          r.completeness ≠ .complete) ∧
      ∀ r ∈ inventoryReports info raw flags, r.completeness = .complete →
        ∃ e, EnumeratedOnce raw (evidenceKind r.inventory) e := by
  refine ⟨fun kind => ?_, fun r hr names hnames => ?_, fun r hr hkind hcomplete => ?_,
    fun r hr hkind => ?_, fun r hr hcomplete => ?_⟩
  · constructor
    · rintro ⟨r, hr, rfl⟩
      exact ((mem_inventoryReports _ _ _ _).mp hr).1
    · intro hf
      refine ⟨reportOf info raw kind, (mem_inventoryReports _ _ _ _).mpr ?_,
        reportOf_inventory info raw kind⟩
      rw [reportOf_inventory]
      exact ⟨hf, rfl⟩
  all_goals obtain ⟨hf, heq⟩ := (mem_inventoryReports _ _ _ _).mp hr
  · rw [heq, reportOf_inventory]
    exact reportOf_complete_iff hnames
  · rw [heq] at hcomplete
    obtain ⟨hlogical, hknown⟩ := reportOf_topology hkind hcomplete
    have hdomain : inventoryDomain r.inventory = Collect.cpu := by
      rcases hkind with hkind | hkind <;> rw [hkind] <;> rfl
    rw [hdomain] at hf
    exact ⟨⟨reportOf info raw .logicalCpus,
      (mem_inventoryReports _ _ _ _).mpr ⟨by rw [reportOf_inventory]; exact hf,
        by rw [reportOf_inventory]⟩, reportOf_inventory _ _ _, hlogical⟩,
      topologyKnown_recorded hknown⟩
  · rw [heq]
    rcases hkind with hkind | hkind <;> rw [hkind] <;> exact observed_ne_complete _ _ _
  · rw [heq] at hcomplete
    exact reportOf_enumeratedOnce hcomplete

end Sysal
