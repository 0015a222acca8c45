import Sysal.Parser.BlockDevices
import Sysal.Parser.Pci
import Sysal.Pipeline.Pipeline
import Sysal.Resolver.HealthEvidence

/-!
# Health items and the coverage they rest on

Every alert, event and finding should come from a domain whose coverage is partial or available.  Items
and coverage are computed by separate passes over the parsed domains, so `Backed` is a property of their
agreement.

* `hardwareHealth_backed_iff`: for any resolved system, the items are backed exactly when each domain
  with an element that has an item was requested and its counter is not zero.
* `runReplay_backed_iff`: the same for a run, in terms of what the parsers find in the store.  A run
  that asked for drive health but not for storage parses the arrays all the same, reports their alerts,
  and calls their coverage not requested.
-/

namespace Sysal

namespace HealthFindings

/-! ### Coverage -/

/-- The coverage status of a domain. -/
def coverageOf (health : HardwareHealth) (domain : Bytes) : Option HealthCoverageStatus :=
  (health.coverage.find? (·.domain = domain)).map (·.status)

/-- A domain with evidence, complete or not. -/
def Covers (health : HardwareHealth) (domain : Bytes) : Prop :=
  coverageOf health domain = some .partial_ ∨ coverageOf health domain = some .available

/-- Every item of the health of a system comes from a domain with evidence. -/
structure Backed (health : HardwareHealth) : Prop where
  sensorAlerts : ∀ alert ∈ health.sensorAlerts, Covers health (utf8 "sensors")
  storageAlerts : ∀ alert ∈ health.storageAlerts, Covers health (utf8 "md")
  memoryEvents : ∀ event ∈ health.memoryEvents, Covers health (utf8 "edac")
  driveFindings : ∀ finding ∈ health.driveFindings, Covers health (utf8 "storage_health")

/-- A domain is covered when it was requested and its counter is not zero. -/
theorem covers_iff {health : HardwareHealth} {domain : Bytes} {requested failed : Bool}
    {count : UInt32} (h : coverageOf health domain = some (coverageStatus requested count failed)) :
    Covers health domain ↔ requested = true ∧ count ≠ 0 := by
  rw [Covers, h, coverageStatus]
  cases requested with
  | false => simp
  | true =>
      by_cases hzero : count = 0
      · simp [hzero]
      · cases failed <;> simp [hzero]

/-! ### Counters -/

section Sensors

variable {Unit : Type} [LT Unit] [DecidableLT Unit]

/-- The alerts and the counters of a list of readings. -/
theorem sensorAlerts_eq (sensors : List (SensorReading Unit)) (health : HardwareHealth)
    (coverage : HealthCoverage) :
    sensorAlerts sensors health coverage =
      ({ health with sensorAlerts := health.sensorAlerts ++ sensors.filterMap sensorAlert },
        { coverage with
          usableReadings := coverage.usableReadings +
            (sensors.map fun s => (usableReading s).toNat).sum.toUInt32
          alarmReports := coverage.alarmReports + (sensors.map alarmReportsOf).sum.toUInt32 }) := by
  rw [sensorAlerts, Prod.mk.injEq]
  refine ⟨rfl, ?_⟩
  induction sensors generalizing coverage with
  | nil => simp
  | cons sensor sensors ih =>
      rw [List.foldl_cons, ih]
      simp only [List.map_cons, List.sum_cons, UInt32.add_assoc, toUInt32_add]

end Sensors

theorem sum_sensorEvidence {Unit : Type} (sensors : List (SensorReading Unit)) :
    (sensors.map sensorEvidence).sum =
      (sensors.map fun s => (usableReading s).toNat).sum + (sensors.map alarmReportsOf).sum := by
  induction sensors with
  | nil => rfl
  | cons sensor sensors ih =>
      simp only [List.map_cons, List.sum_cons, ih, sensorEvidence]
      omega

/-- The evidence of all readings. -/
def sensorsEvidence (sensors : Sensors) : ℕ :=
  (sensors.temperatures.map sensorEvidence).sum + (sensors.fans.map sensorEvidence).sum +
    (sensors.powers.map sensorEvidence).sum

/-- Some reading is alarming. -/
def SomeAlarming (sensors : Sensors) : Prop :=
  (∃ sensor ∈ sensors.temperatures, Alarming sensor) ∨ (∃ sensor ∈ sensors.fans, Alarming sensor) ∨
    ∃ sensor ∈ sensors.powers, Alarming sensor

/-- The alerts of all readings, kind by kind. -/
def allSensorAlerts (sensors : Sensors) : List SensorAlert :=
  sensors.temperatures.filterMap sensorAlert ++ sensors.fans.filterMap sensorAlert ++
    sensors.powers.filterMap sensorAlert

theorem exists_mem_filterMap {α β : Type*} {f : α → Option β} {xs : List α} :
    (∃ y, y ∈ xs.filterMap f) ↔ ∃ x ∈ xs, (f x).isSome := by
  simp only [List.mem_filterMap, Option.isSome_iff_exists]
  constructor
  · rintro ⟨y, x, hx, hy⟩
    exact ⟨x, hx, y, hy⟩
  · rintro ⟨x, hx, y, hy⟩
    exact ⟨y, x, hx, hy⟩

theorem exists_sensorAlert {sensors : Sensors} :
    (∃ alert, alert ∈ allSensorAlerts sensors) ↔ SomeAlarming sensors := by
  simp only [allSensorAlerts, List.mem_append, exists_or, exists_mem_filterMap, sensorAlert_isSome,
    SomeAlarming, or_assoc]

/-- The sensor part in one equation. -/
theorem sensorHealth_eq (sensors : Sensors) (flags : Collect) (raw : EvidenceStore) :
    ∃ coverage : HealthCoverage, coverage.domain = utf8 "sensors" ∧
      coverage.status = coverageStatus (has flags Collect.sensors)
        (sensorsEvidence sensors).toUInt32 (sensorFailure raw) ∧
      sensorHealth sensors flags raw =
        { sensorAlerts := if has flags Collect.sensors then allSensorAlerts sensors else []
          coverage := [coverage] } := by
  rw [sensorHealth]
  cases has flags Collect.sensors with
  | false => exact ⟨_, rfl, rfl, rfl⟩
  | true =>
      simp only [if_true, sensorAlerts_eq]
      refine ⟨_, rfl, ?_, rfl⟩
      simp only [sensorsEvidence, sum_sensorEvidence, toUInt32_add, UInt32.zero_add]
      ac_rfl

/-! ### The items of a system -/

/-- Evidence that a 32-bit counter takes for none. -/
def WrapsToZero (n : ℕ) : Prop := 0 < n ∧ 2 ^ 32 ∣ n

theorem toUInt32_ne_zero_iff {n : ℕ} (h : 0 < n) : n.toUInt32 ≠ 0 ↔ ¬ WrapsToZero n := by
  rw [ne_eq, toUInt32_eq_zero_iff, WrapsToZero, not_and]
  exact ⟨fun hnot _ => hnot, fun himp => himp h⟩

theorem countP_toUInt32 {α : Type*} (p : α → Bool) (xs : List α) :
    xs.foldl (fun c x => c + (p x).toNat.toUInt32) 0 = (xs.countP p).toUInt32 := by
  rw [foldl_count, UInt32.zero_add]
  congr 1
  induction xs with
  | nil => rfl
  | cons x xs ih =>
      rw [List.map_cons, List.sum_cons, ih, List.countP_cons]
      cases p x <;> simp [Nat.add_comm]

/-- The health of a system: its items. -/
theorem hardwareHealth_items (info : SystemInfo) (flags : Collect) (raw : EvidenceStore) :
    let health := hardwareHealth info flags raw
    (health.sensorAlerts = if has flags Collect.sensors then allSensorAlerts info.sensors else []) ∧
      health.storageAlerts = info.storage.devices.filterMap storageAlert ∧
      health.memoryEvents = info.memory.controllers.filterMap memoryEvent ∧
      health.driveFindings = info.storage.health.flatMap driveFindings := by
  obtain ⟨coverage, -, -, hsensors⟩ := sensorHealth_eq info.sensors flags raw
  simp only [hardwareHealth, hsensors, arrayHealth, memoryHealth, storageFindings, List.nil_append,
    and_self]

/-- The health of a system: the domains that are covered. -/
theorem hardwareHealth_covers (info : SystemInfo) (flags : Collect) (raw : EvidenceStore) :
    let health := hardwareHealth info flags raw
    (Covers health (utf8 "sensors") ↔
        has flags Collect.sensors ∧ (sensorsEvidence info.sensors).toUInt32 ≠ 0) ∧
      (Covers health (utf8 "md") ↔
        has flags Collect.storage ∧
          (info.storage.devices.countP (·.raidDegraded.isSome)).toUInt32 ≠ 0) ∧
      (Covers health (utf8 "edac") ↔
        has flags Collect.memory ∧ (info.memory.controllers.countP reportsErrors).toUInt32 ≠ 0) ∧
      (Covers health (utf8 "storage_health") ↔
        has flags Collect.storageHealth ∧ (info.storage.health.countP evidence).toUInt32 ≠ 0) := by
  obtain ⟨coverage, hdomain, hstatus, hsensors⟩ := sensorHealth_eq info.sensors flags raw
  simp only [hardwareHealth, hsensors, arrayHealth, memoryHealth, storageFindings, countP_toUInt32,
    List.nil_append, List.cons_append]
  have hskip : ∀ (domain : Bytes) (rest : List HealthCoverage), utf8 "sensors" ≠ domain →
      (coverage :: rest).find? (fun c => decide (c.domain = domain)) =
        rest.find? fun c => decide (c.domain = domain) := by
    intro domain rest hne
    refine List.find?_cons_of_neg ?_
    rw [hdomain, decide_eq_true_iff]
    exact hne
  refine ⟨?_, ?_, ?_, ?_⟩
  · apply covers_iff
    rw [coverageOf, List.find?_cons_of_pos (by simpa using hdomain), Option.map_some, hstatus]
  · apply covers_iff
    rw [coverageOf, hskip _ _ (by decide +kernel)]
    rfl
  · apply covers_iff
    rw [coverageOf, hskip _ _ (by decide +kernel)]
    rfl
  · apply covers_iff
    rw [coverageOf, hskip _ _ (by decide +kernel)]
    rfl

theorem sum_sensorEvidence_pos {Unit : Type} [LT Unit] [DecidableLT Unit]
    {sensors : List (SensorReading Unit)} (h : ∃ sensor ∈ sensors, Alarming sensor) :
    0 < (sensors.map sensorEvidence).sum := by
  obtain ⟨sensor, hmem, h⟩ := h
  rw [List.sum_pos_iff_exists_pos_nat]
  exact ⟨_, List.mem_map_of_mem hmem, h.evidence⟩

theorem SomeAlarming.evidence {sensors : Sensors} (h : SomeAlarming sensors) :
    0 < sensorsEvidence sensors := by
  rw [sensorsEvidence]
  rcases h with h | h | h
  · have := sum_sensorEvidence_pos h
    omega
  · have := sum_sensorEvidence_pos h
    omega
  · have := sum_sensorEvidence_pos h
    omega

/-- The items of one domain are backed when the domain is requested and its counter does not wrap,
given that an element with an item has evidence. -/
theorem items_backed_iff {α : Type*} {items : List α} {covered requested some : Prop} {n : ℕ}
    (hitems : (∃ item, item ∈ items) ↔ some) (hcovered : covered ↔ requested ∧ n.toUInt32 ≠ 0)
    (hpos : some → 0 < n) :
    (∀ item ∈ items, covered) ↔ (some → requested ∧ ¬ WrapsToZero n) := by
  constructor
  · intro h hsome
    obtain ⟨item, hitem⟩ := hitems.mpr hsome
    obtain ⟨hrequested, hcount⟩ := hcovered.mp (h item hitem)
    exact ⟨hrequested, (toUInt32_ne_zero_iff (hpos hsome)).mp hcount⟩
  · intro h item hitem
    have hsome := hitems.mp ⟨item, hitem⟩
    obtain ⟨hrequested, hwraps⟩ := h hsome
    exact hcovered.mpr ⟨hrequested, (toUInt32_ne_zero_iff (hpos hsome)).mpr hwraps⟩

/-- Some array misses members. -/
def SomeDegraded (storage : Storage) : Prop :=
  ∃ device ∈ storage.devices, ∃ degraded ∈ device.raidDegraded, 0 < degraded

/-- Every element with an item belongs to a requested domain whose counter does not wrap to zero. -/
structure Supported (flags : Collect) (sensors : Sensors) (memory : Memory) (storage : Storage) :
    Prop where
  sensors : has flags Collect.sensors → SomeAlarming sensors → ¬ WrapsToZero (sensorsEvidence sensors)
  arrays : SomeDegraded storage →
    has flags Collect.storage ∧ ¬ WrapsToZero (storage.devices.countP (·.raidDegraded.isSome))
  memory : (∃ controller ∈ memory.controllers, Erroneous controller) →
    has flags Collect.memory ∧ ¬ WrapsToZero (memory.controllers.countP reportsErrors)
  drives : (∃ report ∈ storage.health, Warns report) →
    has flags Collect.storageHealth ∧ ¬ WrapsToZero (storage.health.countP evidence)

/-- **Backed items of a system**. -/
theorem hardwareHealth_backed_iff (info : SystemInfo) (flags : Collect) (raw : EvidenceStore) :
    Backed (hardwareHealth info flags raw) ↔
      Supported flags info.sensors info.memory info.storage := by
  obtain ⟨hsensors, harrays, hmemory, hdrives⟩ := hardwareHealth_items info flags raw
  obtain ⟨csensors, carrays, cmemory, cdrives⟩ := hardwareHealth_covers info flags raw
  have hsensorItems : (∃ alert, alert ∈ (hardwareHealth info flags raw).sensorAlerts) ↔
      has flags Collect.sensors = true ∧ SomeAlarming info.sensors := by
    rw [hsensors]
    cases has flags Collect.sensors with
    | false => simp
    | true => simpa using exists_sensorAlert
  have harrayItems : (∃ alert, alert ∈ (hardwareHealth info flags raw).storageAlerts) ↔
      SomeDegraded info.storage := by
    rw [harrays, exists_mem_filterMap]
    simp only [storageAlert_isSome, SomeDegraded]
  have hmemoryItems : (∃ event, event ∈ (hardwareHealth info flags raw).memoryEvents) ↔
      ∃ controller ∈ info.memory.controllers, Erroneous controller := by
    rw [hmemory, exists_mem_filterMap]
    simp only [memoryEvent_isSome]
  have hdriveItems : (∃ finding, finding ∈ (hardwareHealth info flags raw).driveFindings) ↔
      ∃ report ∈ info.storage.health, Warns report := by
    simp only [hdrives, List.mem_flatMap, ← driveFindings_ne_nil]
    constructor
    · rintro ⟨finding, report, hreport, hfinding⟩
      exact ⟨report, hreport, List.ne_nil_of_mem hfinding⟩
    · rintro ⟨report, hreport, hne⟩
      obtain ⟨finding, hfinding⟩ := List.exists_mem_of_ne_nil _ hne
      exact ⟨finding, report, hreport, hfinding⟩
  have hs := items_backed_iff hsensorItems csensors fun h => h.2.evidence
  have ha := items_backed_iff harrayItems carrays (by
    rintro ⟨device, hdevice, degraded, hmem, -⟩
    exact List.countP_pos_iff.mpr ⟨device, hdevice, Option.isSome_iff_exists.mpr ⟨degraded, hmem⟩⟩)
  have hm := items_backed_iff hmemoryItems cmemory (by
    rintro ⟨controller, hcontroller, h⟩
    exact List.countP_pos_iff.mpr ⟨controller, hcontroller, h.reportsErrors⟩)
  have hd := items_backed_iff hdriveItems cdrives (by
    rintro ⟨report, hreport, h⟩
    exact List.countP_pos_iff.mpr ⟨report, hreport, h.evidence⟩)
  constructor
  · rintro ⟨hsensor, harray, hevent, hfinding⟩
    exact ⟨fun hflag halarm => (hs.mp hsensor ⟨hflag, halarm⟩).2, ha.mp harray, hm.mp hevent,
      hd.mp hfinding⟩
  · rintro ⟨hsensor, harray, hevent, hfinding⟩
    exact ⟨hs.mpr fun h => ⟨h.1, hsensor h.1 h.2⟩, ha.mpr harray,
      hm.mpr hevent, hd.mpr hfinding⟩

end HealthFindings

open HealthFindings Pipeline

/-! ### The run -/

theorem linkStorageDevice_raidDegraded (pci : Pci) (device : StorageDevice) :
    (Resolve.linkStorageDevice pci device).raidDegraded = device.raidDegraded := by
  rw [Resolve.linkStorageDevice]
  split <;> rfl

theorem linkController_errors (pci : Pci) (controller : MemoryController) :
    (Resolve.linkController pci controller).correctedErrors = controller.correctedErrors ∧
      (Resolve.linkController pci controller).uncorrectedErrors = controller.uncorrectedErrors := by
  simp only [Resolve.linkController]
  split <;> exact ⟨rfl, rfl⟩

theorem linkStorage_devices (pci : Pci) (storage : Option Storage) :
    (Resolve.linkStorage pci storage).devices =
        (storage.getD {}).devices.map (Resolve.linkStorageDevice pci) ∧
      (Resolve.linkStorage pci storage).health = (storage.getD {}).health := by
  cases storage <;> exact ⟨rfl, rfl⟩

/-- The links of the resolver change nothing that an item is about. -/
theorem supported_resolve {flags : Collect} {result : ParseResult} :
    let info := (resolve result).1
    Supported flags info.sensors info.memory info.storage ↔
      Supported flags (result.sensors.getD {}) (result.memory.getD {}) (result.storage.getD {}) := by
  show Supported flags (result.sensors.getD {})
    (Resolve.linkMemory (result.pci.getD {}) (result.memory.getD {}))
    (Resolve.linkStorage (result.pci.getD {}) result.storage) ↔ _
  generalize result.pci.getD {} = pci
  obtain ⟨hdevices, hhealth⟩ := linkStorage_devices pci result.storage
  have hdegraded : SomeDegraded (Resolve.linkStorage pci result.storage) ↔
      SomeDegraded (result.storage.getD {}) := by
    simp only [SomeDegraded, hdevices, List.mem_map, exists_exists_and_eq_and,
      linkStorageDevice_raidDegraded]
  have harrays : ((Resolve.linkStorage pci result.storage).devices.countP (·.raidDegraded.isSome)) =
      (result.storage.getD {}).devices.countP (·.raidDegraded.isSome) := by
    simp only [hdevices, List.countP_map, Function.comp_def, linkStorageDevice_raidDegraded]
  have herroneous : (∃ controller ∈ (Resolve.linkMemory pci (result.memory.getD {})).controllers,
      Erroneous controller) ↔ ∃ controller ∈ (result.memory.getD {}).controllers,
      Erroneous controller := by
    simp only [Resolve.linkMemory, List.mem_map, exists_exists_and_eq_and, Erroneous,
      linkController_errors]
  have hreports : (Resolve.linkMemory pci (result.memory.getD {})).controllers.countP reportsErrors =
      (result.memory.getD {}).controllers.countP reportsErrors := by
    have hlink : ∀ c, reportsErrors (Resolve.linkController pci c) = reportsErrors c := fun c => by
      simp only [reportsErrors, linkController_errors]
    simp only [Resolve.linkMemory, List.countP_map, Function.comp_def, hlink]
  constructor
  · rintro ⟨hs, ha, hm, hd⟩
    rw [hdegraded, harrays] at ha
    rw [herroneous, hreports] at hm
    rw [hhealth] at hd
    exact ⟨hs, ha, hm, hd⟩
  · rintro ⟨hs, ha, hm, hd⟩
    rw [← hdegraded, ← harrays] at ha
    rw [← herroneous, ← hreports] at hm
    rw [← hhealth] at hd
    exact ⟨hs, ha, hm, hd⟩

/-- What the parsers find in a store, as far as the health of a run depends on it: an array is degraded
only where storage was requested, and no counter of a domain with an item wraps to zero. -/
structure EvidenceRequested (parsers : Parsers) (raw : EvidenceStore) (flags : Collect) : Prop where
  sensors : has flags Collect.sensors → SomeAlarming (parsers.sensors raw) →
    ¬ WrapsToZero (sensorsEvidence (parsers.sensors raw))
  arrays : has flags storageMask → ∀ storage ∈ (parsers.storage raw).1, SomeDegraded storage →
    has flags Collect.storage ∧ ¬ WrapsToZero (storage.devices.countP (·.raidDegraded.isSome))
  memory : has flags Collect.memory → ∀ memory ∈ (parsers.memory raw).1,
    (∃ controller ∈ memory.controllers, Erroneous controller) →
      ¬ WrapsToZero (memory.controllers.countP reportsErrors)
  drives : ∀ storage ∈ parsedStorage parsers flags raw, (∃ report ∈ storage.health, Warns report) →
    has flags Collect.storageHealth ∧ ¬ WrapsToZero (storage.health.countP evidence)

/-- What holds of a domain that is missing holds of it when it holds wherever it was parsed. -/
theorem getD_iff {α : Type*} (domain : Option α) (empty : α) (p : α → Prop) (hempty : p empty) :
    p (domain.getD empty) ↔ ∀ parsed ∈ domain, p parsed := by
  cases domain with
  | none => simpa using hempty
  | some parsed => simp

theorem forall_mem_requested {α : Type*} {requested : Bool} {domain : Option α} {p : α → Prop} :
    (∀ parsed ∈ if requested then domain else none, p parsed) ↔
      (requested → ∀ parsed ∈ domain, p parsed) := by
  cases requested <;> simp

/-- The parsed storage domain has the devices that the storage parser found. -/
theorem parsedStorage_devices {parsers : Parsers} {flags : Collect} {raw : EvidenceStore}
    (p : List StorageDevice → Prop) :
    (∀ storage ∈ parsedStorage parsers flags raw, p storage.devices) ↔
      (has flags storageMask → ∀ storage ∈ (parsers.storage raw).1, p storage.devices) := by
  rw [parsedStorage]
  cases has flags storageMask <;> cases (parsers.storage raw).1 <;> simp

/-- **Backed items of a run**: for any parsers, the items are backed exactly when the evidence of each
element with an item was requested and is counted. -/
theorem runReplay_backed_iff {parsers : Parsers} {clock : Clock} {raw : EvidenceStore}
    {flags : Collect} {s : System} (h : runReplay parsers clock raw flags = .ok s) :
    Backed s.info.hardwareHealth ↔ EvidenceRequested parsers raw flags := by
  rw [runReplay_info h]
  refine (hardwareHealth_backed_iff _ flags raw).trans (supported_resolve.trans ?_)
  rw [parseDomains_fst]
  have hsensors : (has flags Collect.sensors → SomeAlarming
      ((if has flags Collect.sensors then some (parsers.sensors raw) else none).getD {}) →
      ¬ WrapsToZero (sensorsEvidence
        ((if has flags Collect.sensors then some (parsers.sensors raw) else none).getD {}))) ↔
      (has flags Collect.sensors → SomeAlarming (parsers.sensors raw) →
        ¬ WrapsToZero (sensorsEvidence (parsers.sensors raw))) := by
    refine forall_congr' fun hflag => ?_
    rw [if_pos hflag, Option.getD_some]
  have harrays := (getD_iff (parsedStorage parsers flags raw) {}
    (fun storage => SomeDegraded storage → has flags Collect.storage ∧
      ¬ WrapsToZero (storage.devices.countP (·.raidDegraded.isSome))) (by simp [SomeDegraded])).trans
    (parsedStorage_devices fun devices =>
      (∃ device ∈ devices, ∃ degraded ∈ device.raidDegraded, 0 < degraded) →
        has flags Collect.storage ∧ ¬ WrapsToZero (devices.countP (·.raidDegraded.isSome)))
  have hmemory := (getD_iff (if has flags Collect.memory then (parsers.memory raw).1 else none) {}
    (fun memory => (∃ controller ∈ memory.controllers, Erroneous controller) →
      has flags Collect.memory ∧ ¬ WrapsToZero (memory.controllers.countP reportsErrors))
    (by simp)).trans forall_mem_requested
  have hdrives := getD_iff (parsedStorage parsers flags raw) {}
    (fun storage => (∃ report ∈ storage.health, Warns report) →
      has flags Collect.storageHealth ∧ ¬ WrapsToZero (storage.health.countP evidence)) (by simp)
  constructor
  · rintro ⟨hs, ha, hm, hd⟩
    exact ⟨hsensors.mp hs, harrays.mp ha,
      fun hflag memory hmem herr => (hmemory.mp hm hflag memory hmem herr).2, hdrives.mp hd⟩
  · rintro ⟨hs, ha, hm, hd⟩
    exact ⟨hsensors.mpr hs, harrays.mpr ha,
      hmemory.mpr fun hflag memory hmem herr => ⟨hflag, hm hflag memory hmem herr⟩, hdrives.mpr hd⟩

/-- The parsers on evidence of block devices alone: nothing else is found. -/
def blockParsers : Parsers :=
  { cpuParsers with
    pci := PciParser.parsePci
    storage := fun raw =>
      if (raw.getAll .sysfsBlock).isEmpty then (none, [utf8 "parse_storage: 缺少 SysfsBlock 数据"])
      else
        let (devices, warnings) := StorageParser.blockDevices raw
        (some { devices := devices }, warnings) }

/-- A mirror that misses one member. -/
def degradedArray : EvidenceStore where
  records :=
    [{ source := .sysfsBlock, pathOrCommand := utf8 "/sys/class/block/md0/md/level"
       payload := utf8 "raid1\n", status := .success },
     { source := .sysfsBlock, pathOrCommand := utf8 "/sys/class/block/md0/md/degraded"
       payload := utf8 "1\n", status := .success }]

/-- With storage requested the alert of the array is backed. -/
theorem runReplay_backed_iff_storage :
    ∃ s, runReplay blockParsers ⟨0, default⟩ degradedArray Collect.storage = .ok s ∧
      s.info.hardwareHealth.storageAlerts ≠ [] ∧ Backed s.info.hardwareHealth := by
  have hrun : ((runReplay blockParsers ⟨0, default⟩ degradedArray Collect.storage).toOption.map
      fun s => s.info.hardwareHealth.storageAlerts.map (·.device)) = some [utf8 "md0"] := by
    decide +kernel
  have hcount : (blockParsers.storage degradedArray).1.map
      (fun storage => storage.devices.countP (·.raidDegraded.isSome)) = some 1 := by
    decide +kernel
  have hhealth : (parsedStorage blockParsers Collect.storage degradedArray).map (·.health) =
      some [] := by
    decide +kernel
  cases hs : runReplay blockParsers ⟨0, default⟩ degradedArray Collect.storage with
  | error e =>
      rw [hs] at hrun
      cases hrun
  | ok s =>
      rw [hs] at hrun
      refine ⟨s, rfl, ?_, (runReplay_backed_iff hs).mpr ⟨?_, ?_, ?_, ?_⟩⟩
      · intro hnil
        simp [Except.toOption, hnil] at hrun
      · exact fun hflag => absurd hflag (by decide)
      · intro _ storage hstorage _
        rw [Option.mem_def.mp hstorage, Option.map_some, Option.some_inj] at hcount
        refine ⟨by decide, ?_⟩
        rw [hcount, WrapsToZero]
        decide
      · exact fun hflag => absurd hflag (by decide)
      · rintro storage hstorage ⟨report, hreport, -⟩
        rw [Option.mem_def.mp hstorage, Option.map_some, Option.some_inj] at hhealth
        rw [hhealth] at hreport
        cases hreport

/-- With sensors and drive health requested but not storage, it is not. -/
theorem runReplay_uncoveredArray :
    ∃ s, ({ flags := Collect.sensors ||| Collect.storageHealth } : CollectionRequest).valid = true ∧
      runReplay blockParsers ⟨0, default⟩ degradedArray (Collect.sensors ||| Collect.storageHealth) =
        .ok s ∧
      ¬ Backed s.info.hardwareHealth := by
  have hrun : ((runReplay blockParsers ⟨0, default⟩ degradedArray
      (Collect.sensors ||| Collect.storageHealth)).toOption.map fun s =>
        (s.info.hardwareHealth.storageAlerts.map (·.device),
          coverageOf s.info.hardwareHealth (utf8 "md"))) =
      some ([utf8 "md0"], some .notRequested) := by
    decide +kernel
  cases hs : runReplay blockParsers ⟨0, default⟩ degradedArray
      (Collect.sensors ||| Collect.storageHealth) with
  | error e =>
      rw [hs] at hrun
      cases hrun
  | ok s =>
      rw [hs] at hrun
      obtain ⟨halerts, hcoverage⟩ := Prod.mk.inj (Option.some.inj hrun)
      refine ⟨s, by decide, rfl, fun hbacked => ?_⟩
      cases hitems : s.info.hardwareHealth.storageAlerts with
      | nil => simp [hitems] at halerts
      | cons alert rest =>
          have hcovers := hbacked.storageAlerts alert (by rw [hitems]; exact List.mem_cons_self)
          rw [Covers, hcoverage] at hcovers
          simp at hcovers

end Sysal
