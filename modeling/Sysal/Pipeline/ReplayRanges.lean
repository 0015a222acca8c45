import Sysal.Parser.HealthReports
import Sysal.Parser.SensorChannels
import Sysal.Pipeline.HealthCoverage
import Sysal.Pipeline.Replay
import Sysal.Serialization.DecodedRanges

/-!
# A replayed system in the ranges of the decoder

The decoder checks more than the parsers do.  Except for PCI addresses, whatever is parsed passes:
port attributes, namespace numbers, class codes, counters, attribute numbers and sources.

* `otherRanges_of_replay`: everything but the addresses;
* `inRange_iff_addresses`: the addresses are the rest;
* `replay_readable_iff`: the snapshot of a replay can be read back exactly if all its PCI addresses have
  five bits of device and three of function.
-/

namespace Sysal

/-! ### RDMA ports -/

namespace RdmaParser

theorem parseSmall_le {maximum : ℕ} (hmaximum : maximum < 256) {payload : Bytes} {x : UInt8}
    (h : parseSmall maximum payload = some x) : x.toNat ≤ maximum := by
  obtain ⟨n, hn, rfl⟩ := Option.map_eq_some_iff.mp h
  have hle := of_decide_eq_true (Option.filter_eq_some_iff.mp hn).2
  rw [UInt8.toNat_ofNat_of_lt' (by show n < 2 ^ 8; omega)]
  exact hle

/-- An attribute leaves a port in range. -/
theorem parsePort_inRange {port : RdmaPort} (h : port.InRange) (field payload : Bytes) :
    (parsePort port field payload).InRange := by
  have hsmall : ∀ (maximum : ℕ), maximum < 256 → ∀ {before : Option UInt8},
      (∀ x ∈ before, x.toNat ≤ maximum) →
        ∀ x ∈ (parseSmall maximum payload).or before, x.toNat ≤ maximum := by
    intro maximum hmaximum before hbefore x hx
    cases hparsed : parseSmall maximum payload with
    | none => exact hbefore x (by simpa [hparsed] using hx)
    | some y =>
        obtain rfl : y = x := by simpa [hparsed] using hx
        exact parseSmall_le hmaximum hparsed
  rw [parsePort]
  -- two attributes set a checked field, the others leave both alone
  split_ifs <;> first
    | exact ⟨h.1, h.2⟩
    | exact ⟨hsmall 15 (by decide) h.1, h.2⟩
    | exact ⟨h.1, hsmall 7 (by decide) h.2⟩

/-- Every port of a map is in range. -/
def PortsInRange (ports : Std.TreeMap UInt32 RdmaPort compare) : Prop :=
  ∀ (number : UInt32) (port : RdmaPort), ports[number]? = some port → port.InRange

theorem scanPort_inRange {ports : Std.TreeMap UInt32 RdmaPort compare} (h : PortsInRange ports)
    (tail payload : Bytes) : PortsInRange (scanPort ports tail payload) := by
  rw [scanPort]
  cases parseUint32 (tail.takeWhile (· ≠ 47)) with
  | none => exact h
  | some written =>
      intro number port hport
      dsimp only at hport
      rw [getElem?_upsert] at hport
      split at hport
      · have hbefore : ((ports[number]?).getD default).InRange := by
          cases hfound : ports[number]? with
          | none => exact ⟨fun x hx => (by cases hx), fun x hx => (by cases hx)⟩
          | some before => exact h number before hfound
        obtain rfl := Option.some.inj hport
        split
        · refine parsePort_inRange ?_ _ payload
          exact ⟨hbefore.1, hbefore.2⟩
        · exact ⟨hbefore.1, hbefore.2⟩
      · exact h number port hport

/-- A record leaves the ports of the scan in range, and the device itself without ports. -/
theorem scanDeviceRecord_inRange {s : DeviceScan} (h : s.device.ports = [] ∧ PortsInRange s.ports)
    (base : Bytes) (record : RawEvidence) :
    (scanDeviceRecord base s record).device.ports = [] ∧
      PortsInRange (scanDeviceRecord base s record).ports := by
  rw [scanDeviceRecord]
  split
  · exact h
  · rw [scanDeviceField]
    split_ifs <;> first
      | exact h
      | exact ⟨h.1, scanPort_inRange h.2 _ _⟩

theorem parseDevice_ports (name : Bytes) (records : List RawEvidence) (id : RdmaDeviceId) :
    ∀ port ∈ (parseDevice name records id).ports, port.InRange := by
  have hscan : ∀ s : DeviceScan, s.device.ports = [] ∧ PortsInRange s.ports →
      (records.foldl (scanDeviceRecord (devicePrefix ++ name)) s).device.ports = [] ∧
        PortsInRange (records.foldl (scanDeviceRecord (devicePrefix ++ name)) s).ports := by
    induction records with
    | nil => exact fun s hs => hs
    | cons record records ih => exact fun s hs => ih _ (scanDeviceRecord_inRange hs _ record)
  obtain ⟨hdevice, hports⟩ := hscan { device := { id := id, name := name } }
    ⟨rfl, fun number port h => by simp at h⟩
  intro port hport
  simp only [parseDevice, hdevice, List.nil_append] at hport
  obtain ⟨entry, hentry, rfl⟩ := List.mem_map.mp hport
  exact hports entry.1 entry.2 (Std.TreeMap.mem_toList_iff_getElem?_eq_some.mp hentry)

theorem parseRdma_ports (raw : EvidenceStore) :
    ∀ device ∈ (parseRdma raw).devices, ∀ port ∈ device.ports, port.InRange := by
  intro device hdevice
  have hparsed : ∃ name records id, device = parseDevice name records id := by
    rw [parseRdma] at hdevice
    dsimp only at hdevice
    split at hdevice <;>
    · obtain ⟨⟨group, id⟩, -, rfl⟩ := List.mem_map.mp hdevice
      exact ⟨_, _, _, rfl⟩
  obtain ⟨name, records, id, rfl⟩ := hparsed
  exact parseDevice_ports name records id

end RdmaParser

/-! ### Storage -/

namespace StorageParser

theorem connectDevice_namespace {blocks controllers : StorageConnectionsParser.Inventory}
    {device : StorageDevice} (h : device.nvmeNamespace = none) :
    ∀ ns ∈ (StorageConnectionsParser.connectDevice blocks controllers device).nvmeNamespace,
      ns.InRange := by
  have hnone : ∀ ns ∈ device.nvmeNamespace, ns.InRange := by
    rw [h]
    exact fun ns hns => by cases hns
  rw [StorageConnectionsParser.connectDevice]
  split
  · exact hnone
  · split
    · rw [StorageConnectionsParser.applyBlock]
      split
      · rename_i nsid hnsid
        intro ns hns
        cases hns
        have hne : nsid ≠ 0 := of_decide_eq_true (Option.filter_eq_some_iff.mp hnsid).2
        exact hne
      · split <;> exact hnone
    · exact hnone

/-- A namespace has a number other than zero. -/
theorem parseStorage_namespaces {parse : Bytes → Option Json} {raw : EvidenceStore}
    {storage : Storage} (h : (parseStorage parse raw).1 = some storage) :
    ∀ device ∈ storage.devices, ∀ ns ∈ device.nvmeNamespace, ns.InRange := by
  have hconnected : ∀ device ∈ (connectedStorage raw).devices,
      ∀ ns ∈ device.nvmeNamespace, ns.InRange := by
    intro device hdevice
    rw [connectedStorage, applyStorageClassification,
      StorageConnectionsParser.applyStorageConnections] at hdevice
    dsimp only at hdevice
    rw [List.map_map] at hdevice
    obtain ⟨before, hbefore, rfl⟩ := List.mem_map.mp hdevice
    rw [Function.comp_apply]
    have hfresh : before.nvmeNamespace = none := by
      rw [blockDevices] at hbefore
      obtain ⟨entry, -, rfl⟩ := List.mem_map.mp hbefore
      rfl
    exact connectDevice_namespace hfresh
  obtain ⟨devices, mounts, hdevices, -, rfl⟩ := parseStorage_eq h
  refine forall_mem_of_forall₂ ?_ hdevices hconnected
  intro device after hafter hdevice
  rw [SameButMount] at hafter
  rw [hafter]
  exact hdevice

theorem parseStorage_controllers {parse : Bytes → Option Json} {raw : EvidenceStore}
    {storage : Storage} (h : (parseStorage parse raw).1 = some storage) :
    storage.controllers = [] ∧ storage.health = [] := by
  obtain ⟨devices, mounts, -, -, rfl⟩ := parseStorage_eq h
  exact ⟨rfl, rfl⟩

end StorageParser

namespace StorageHealthParser

theorem canonical_of_counterMember {j : Json} {key : String} {c : StorageCounter}
    (h : counterMember j key = some c) : c.Canonical := by
  rw [counterMember] at h
  split at h
  · exact canonical_of_storageCounter h
  · obtain ⟨v, -, hc⟩ := Option.bind_eq_some_iff.mp h
    exact canonical_of_storageCounter hc

theorem nvmeHealth_inRange (j : Json) (kelvin : Bool) : (nvmeHealth j kelvin).InRange := by
  constructor <;> exact fun c hc => canonical_of_counterMember hc

theorem scsiHealth_inRange (errors : Json) : (scsiHealth errors).InRange := by
  constructor <;> exact fun c hc => canonical_of_counterMember hc

theorem ataAttribute_inRange {row : Json} {a : AtaHealthAttribute} (h : ataAttribute row = some a) :
    a.InRange := by
  rw [ataAttribute] at h
  split at h
  · split at h
    · cases h
    · rename_i id _ hid
      cases h
      exact hid
  · cases h

theorem smartHealth_inRange {report : StorageHealthReport} (h : report.InRange) (j : Json) :
    (smartHealth report j).InRange := by
  refine ⟨h.source, fun n hn => ?_, fun a ha => ?_, fun s hs => ?_⟩
  · simp only [smartHealth] at hn
    split_ifs at hn
    · cases hn
      exact nvmeHealth_inRange _ _
    · exact h.nvme n hn
  · rcases List.mem_append.mp ha with ha | ha
    · exact h.ataAttributes a ha
    · split_ifs at ha
      · obtain ⟨row, -, hrow⟩ := List.mem_filterMap.mp ha
        exact ataAttribute_inRange hrow
      · cases ha
  · simp only [smartHealth] at hs
    split_ifs at hs
    · cases hs
      exact scsiHealth_inRange _
    · exact h.scsi s hs

/-- The report from a record of a tool. -/
theorem healthReport_inRange (parse : Bytes → Option Json) (devices : List Bytes)
    (protocol : StorageProtocol) (target : Bytes) {record : RawEvidence}
    (hsource : CEnum.code record.source ≤ CEnum.code RawSource.nvmeSmartLog) :
    (healthReport parse devices protocol target record).1.InRange := by
  have hempty : ∀ report : StorageHealthReport, report.source = record.source →
      report.nvme = none → report.ataAttributes = [] → report.scsi = none → report.InRange := by
    intro report hreport hnvme hata hscsi
    refine ⟨hreport ▸ hsource, ?_, ?_, ?_⟩
    · rw [hnvme]
      exact fun n hn => by cases hn
    · rw [hata]
      exact fun a ha => by cases ha
    · rw [hscsi]
      exact fun s hs => by cases hs
  rw [healthReport]
  dsimp only
  by_cases hstatus : record.status = .success ∨ record.status = .partial_
  · rw [if_pos hstatus]
    cases (parse record.payload).filter Json.isObject with
    | none => exact hempty _ rfl rfl rfl rfl
    | some j =>
        by_cases hnvme : record.source = .nvmeSmartLog
        · simp only [hnvme, if_true]
          refine ⟨le_refl _, fun n hn => ?_, fun a ha => (by cases ha), fun s hs => (by cases hs)⟩
          cases hn
          exact nvmeHealth_inRange _ _
        · simp only [hnvme, if_false]
          exact smartHealth_inRange (hempty _ rfl rfl rfl rfl) _
  · rw [if_neg hstatus]
    exact hempty _ rfl rfl rfl rfl

theorem parseStorageHealth_inRange (parse : Bytes → Option Json) (storage : Storage)
    (raw : EvidenceStore) (hstorage : ∀ report ∈ storage.health, report.InRange) :
    ∀ report ∈ (parseStorageHealth parse storage raw).1.health, report.InRange := by
  rw [parseStorageHealth_fst]
  intro report hreport
  rcases List.mem_append.mp hreport with hreport | hreport
  · exact hstorage report hreport
  · obtain ⟨entry, hentry, rfl⟩ := List.mem_map.mp hreport
    rw [Std.TreeMap.mem_toList_iff_getElem?_eq_some, getElem?_reportsByTarget] at hentry
    obtain ⟨record, protocol, hlast, -, heq⟩ := hentry
    rw [heq]
    refine healthReport_inRange _ _ _ _ ?_
    rcases hlast.names.source with hsource | hsource
    · rw [hsource]
      decide
    · rw [hsource]

end StorageHealthParser

/-! ### Sensors and findings -/

namespace SensorParser

/-- A reading comes from one of the two kinds of directories. -/
theorem source_of_mem_readings {raw : EvidenceStore} {reading : Reading}
    (h : reading ∈ readings (parseSensors raw)) :
    CEnum.code reading.identity.source ≤ CEnum.code RawSource.sysfsHwmon := by
  have hplace := (readings_place raw).mem_iff.mp (List.mem_map_of_mem h)
  obtain ⟨⟨source, path, name⟩, hchannel, heq⟩ := List.mem_map.mp hplace
  have hsource : source = reading.identity.source := congrArg Prod.fst heq
  rw [← hsource]
  have hreported := (mem_directories.mp (mem_channelNames.mpr (mem_sensorChannels.mp hchannel)).1).1
  rcases hreported with rfl | rfl <;> decide

theorem parseSensors_sources (raw : EvidenceStore) :
    (∀ s ∈ (parseSensors raw).temperatures,
        CEnum.code s.identity.source ≤ CEnum.code RawSource.sysfsHwmon) ∧
      (∀ s ∈ (parseSensors raw).fans,
        CEnum.code s.identity.source ≤ CEnum.code RawSource.sysfsHwmon) ∧
      ∀ s ∈ (parseSensors raw).powers,
        CEnum.code s.identity.source ≤ CEnum.code RawSource.sysfsHwmon := by
  refine ⟨fun s hs => ?_, fun s hs => ?_, fun s hs => ?_⟩
  · have hmem : Reading.temperature s ∈ readings (parseSensors raw) := by simp [readings, hs]
    exact source_of_mem_readings hmem
  · have hmem : Reading.fan s ∈ readings (parseSensors raw) := by simp [readings, hs]
    exact source_of_mem_readings hmem
  · have hmem : Reading.power s ∈ readings (parseSensors raw) := by simp [readings, hs]
    exact source_of_mem_readings hmem

end SensorParser

namespace HealthFindings

theorem attributeId_of_mem_if {c : Prop} [Decidable c] {f g : DriveFinding}
    (h : f ∈ if c then [g] else []) (hg : g.attributeId = none) : f.attributeId = none := by
  split at h
  · rwa [List.mem_singleton.mp h]
  · cases h

theorem nvmeFindings_attributeId {report : StorageHealthReport} {nvme : NvmeHealth} :
    ∀ f ∈ nvmeFindings report nvme, f.attributeId = none := by
  intro f hf
  simp only [nvmeFindings, List.mem_append] at hf
  rcases hf with ((hf | hf) | hf) | hf
  · exact attributeId_of_mem_if hf rfl
  · split at hf
    · exact attributeId_of_mem_if hf rfl
    · cases hf
  · exact attributeId_of_mem_if hf rfl
  · exact attributeId_of_mem_if hf rfl

theorem scsiFindings_attributeId {report : StorageHealthReport} {scsi : ScsiHealth} :
    ∀ f ∈ scsiFindings report scsi, f.attributeId = none := by
  intro f hf
  obtain ⟨⟨operation, counter⟩, -, hfinding⟩ := List.mem_filterMap.mp hf
  dsimp only at hfinding
  split at hfinding
  · cases hfinding
    rfl
  · cases hfinding

/-- A finding about an attribute has its number. -/
theorem driveFindings_inRange {report : StorageHealthReport} (h : report.InRange) :
    ∀ finding ∈ driveFindings report, finding.InRange := by
  intro f hf id hid
  rw [driveFindings] at hf
  rcases List.mem_append.mp hf with hf | hf
  · rcases List.mem_append.mp hf with hf | hf
    · have hnone : f.attributeId = none := by
        rcases List.mem_append.mp hf with hf | hf
        · exact attributeId_of_mem_if hf rfl
        · split at hf
          · exact nvmeFindings_attributeId f hf
          · cases hf
      rw [hnone] at hid
      cases hid
    · obtain ⟨a, ha, hfinding⟩ := List.mem_filterMap.mp hf
      rw [ataFinding] at hfinding
      split_ifs at hfinding <;>
      · cases hfinding
        cases hid
        exact h.ataAttributes a ha
  · split at hf
    · rw [scsiFindings_attributeId f hf] at hid
      cases hid
    · cases hf

end HealthFindings

/-! ### Addresses and the rest -/

/-- Every PCI address in a system. -/
def SystemInfo.pciAddresses (info : SystemInfo) : List PciAddress :=
  info.memory.controllers.filterMap (·.pciAddress) ++
    info.accelerators.devices.filterMap (·.pciAddress) ++
    info.network.interfaces.filterMap (·.pciAddress) ++
    info.network.rdma.devices.filterMap (·.pciAddress) ++
    info.storage.devices.filterMap (·.pciAddress) ++
    info.storage.controllers.map (·.pciAddress) ++
    info.storage.nvmeControllers.filterMap (·.pciAddress) ++
    info.storage.scsiHosts.filterMap (·.pciAddress) ++
    info.pci.devices.map (·.address) ++
    info.pci.devices.filterMap (·.upstreamAddress) ++
    info.pci.devices.filterMap (·.physicalFunction) ++
    info.sensors.temperatures.filterMap (·.identity.pciAddress) ++
    info.sensors.fans.filterMap (·.identity.pciAddress) ++
    info.sensors.powers.filterMap (·.identity.pciAddress)

/-- The ranges of a system apart from its PCI addresses. -/
structure SystemInfo.OtherRanges (info : SystemInfo) : Prop where
  ports : ∀ device ∈ info.network.rdma.devices, ∀ port ∈ device.ports, port.InRange
  namespaces : ∀ device ∈ info.storage.devices, ∀ ns ∈ device.nvmeNamespace, ns.InRange
  health : ∀ report ∈ info.storage.health, report.InRange
  classCodes : ∀ controller ∈ info.storage.controllers, controller.classCode ≤ 0xffffff
  temperatures : ∀ s ∈ info.sensors.temperatures,
    CEnum.code s.identity.source ≤ CEnum.code RawSource.sysfsHwmon
  fans : ∀ s ∈ info.sensors.fans, CEnum.code s.identity.source ≤ CEnum.code RawSource.sysfsHwmon
  powers : ∀ s ∈ info.sensors.powers, CEnum.code s.identity.source ≤ CEnum.code RawSource.sysfsHwmon
  findings : info.hardwareHealth.InRange

theorem forall_mem_filterMap {α β : Type} {l : List α} {f : α → Option β} {p : β → Prop} :
    (∀ b ∈ l.filterMap f, p b) ↔ ∀ a ∈ l, ∀ b ∈ f a, p b := by
  simp only [List.mem_filterMap, forall_exists_index, and_imp, Option.mem_def]
  exact ⟨fun h a ha b hb => h b a ha hb, fun h b a ha hb => h a ha b hb⟩

/-- **Apart from the other ranges, only the addresses are checked.** -/
theorem inRange_iff_addresses {info : SystemInfo} (h : info.OtherRanges) :
    info.InRange ↔ ∀ a ∈ info.pciAddresses, a.InRange := by
  simp only [SystemInfo.pciAddresses, List.forall_mem_append, forall_mem_filterMap,
    List.forall_mem_map]
  constructor
  · intro hrange
    exact ⟨⟨⟨⟨⟨⟨⟨⟨⟨⟨⟨⟨⟨hrange.memory, hrange.accelerators⟩, hrange.network.interfaces⟩,
      fun device hdevice => (hrange.network.rdma device hdevice).pciAddress⟩,
      fun device hdevice => (hrange.storage.devices device hdevice).pciAddress⟩,
      fun controller hmem => (hrange.storage.controllers controller hmem).pciAddress⟩,
      hrange.storage.nvmeControllers⟩, hrange.storage.scsiHosts⟩,
      fun device hdevice => (hrange.pci device hdevice).address⟩,
      fun device hdevice => (hrange.pci device hdevice).upstreamAddress⟩,
      fun device hdevice => (hrange.pci device hdevice).physicalFunction⟩,
      fun s hs => (hrange.sensors.temperatures s hs).pciAddress⟩,
      fun s hs => (hrange.sensors.fans s hs).pciAddress⟩,
      fun s hs => (hrange.sensors.powers s hs).pciAddress⟩
  · rintro ⟨⟨⟨⟨⟨⟨⟨⟨⟨⟨⟨⟨⟨hmemory, haccelerators⟩, hinterfaces⟩, hrdma⟩, hdevices⟩, hcontrollers⟩, hnvme⟩,
      hhosts⟩, haddress⟩, hupstream⟩, hfunction⟩, htemperatures⟩, hfans⟩, hpowers⟩
    exact
      { memory := hmemory
        accelerators := haccelerators
        network := ⟨hinterfaces, fun device hmem => ⟨hrdma device hmem, h.ports device hmem⟩⟩
        storage :=
          { devices := fun device hmem => ⟨hdevices device hmem, h.namespaces device hmem⟩
            health := h.health
            controllers := fun c hmem => ⟨hcontrollers c hmem, h.classCodes c hmem⟩
            nvmeControllers := hnvme
            scsiHosts := hhosts }
        pci := fun device hmem =>
          ⟨haddress device hmem, hupstream device hmem, hfunction device hmem⟩
        sensors :=
          { temperatures := fun s hs => ⟨h.temperatures s hs, htemperatures s hs⟩
            fans := fun s hs => ⟨h.fans s hs, hfans s hs⟩
            powers := fun s hs => ⟨h.powers s hs, hpowers s hs⟩ }
        hardwareHealth := h.findings }

/-! ### The replay -/

open AcceleratorParser Pipeline Resolve

/-- A replay that returns is a run of the pipeline with the library's parsers. -/
theorem collect_of_replay {parse : JsonParser} {clock : Clock} {raw : RawStore} {flags : Collect}
    {result : Except Thrown System} (h : replay parse clock raw flags = some result) :
    ∃ found, collectFromRaw (sysalParsers parse found) clock raw flags = result := by
  rw [replay] at h
  split at h
  · obtain ⟨found, -, hfound⟩ := Option.map_eq_some_iff.mp h
    exact ⟨found, hfound⟩
  · exact ⟨_, Option.some.inj h⟩

variable (parse : JsonParser) (found : Option Accelerators × List Bytes) (flags : Collect)
  (raw : EvidenceStore)

/-- The domains after the parser stage, with their ranges. -/
structure ParseResult.OtherRanges (result : ParseResult) : Prop where
  ports : ∀ network ∈ result.network, ∀ device ∈ network.rdma.devices,
    ∀ port ∈ device.ports, port.InRange
  namespaces : ∀ storage ∈ result.storage, ∀ device ∈ storage.devices,
    ∀ ns ∈ device.nvmeNamespace, ns.InRange
  health : ∀ storage ∈ result.storage, ∀ report ∈ storage.health, report.InRange
  controllers : ∀ storage ∈ result.storage, storage.controllers = []
  sensors : ∀ sensors ∈ result.sensors,
    (∀ s ∈ sensors.temperatures, CEnum.code s.identity.source ≤ CEnum.code RawSource.sysfsHwmon) ∧
      (∀ s ∈ sensors.fans, CEnum.code s.identity.source ≤ CEnum.code RawSource.sysfsHwmon) ∧
      ∀ s ∈ sensors.powers, CEnum.code s.identity.source ≤ CEnum.code RawSource.sysfsHwmon

theorem mem_of_mem_ite {α : Type} {c : Bool} {o : Option α} {a : α}
    (h : a ∈ if c then o else none) : a ∈ o := by
  split at h
  · exact h
  · cases h

/-- What is parsed of the storage. -/
theorem mem_parsedStorage {storage : Storage}
    (h : storage ∈ parsedStorage (sysalParsers parse found) flags raw) :
    ∃ parsed, (StorageParser.parseStorage parse raw).1 = some parsed ∧
      storage.devices = parsed.devices ∧ storage.controllers = parsed.controllers ∧
        ∀ report ∈ storage.health, report.InRange := by
  obtain ⟨parsed, hparsed, rfl⟩ := Option.map_eq_some_iff.mp (mem_of_mem_ite h)
  refine ⟨parsed, hparsed, rfl, rfl, fun report hreport => ?_⟩
  rcases List.mem_append.mp hreport with hreport | hreport
  · rw [(StorageParser.parseStorage_controllers hparsed).2] at hreport
    cases hreport
  · split at hreport
    · exact StorageHealthParser.parseStorageHealth_inRange parse { parsed with health := [] } raw
        (fun report hmem => by cases hmem) report hreport
    · cases hreport

theorem parseDomains_otherRanges :
    ((parseDomains (sysalParsers parse found) flags raw).1).OtherRanges := by
  rw [parseDomains_fst]
  constructor
  · intro network hnetwork
    have hparsed : network ∈ (NetworkParser.parseNetwork raw).1 := mem_of_mem_ite hnetwork
    rw [NetworkParser.parseNetwork] at hparsed
    split at hparsed
    · cases hparsed
    · cases hparsed
      exact RdmaParser.parseRdma_ports raw
  · intro storage hstorage
    obtain ⟨parsed, hparsed, hdevices, -, -⟩ := mem_parsedStorage parse found flags raw hstorage
    rw [hdevices]
    exact StorageParser.parseStorage_namespaces hparsed
  · intro storage hstorage
    obtain ⟨-, -, -, -, hhealth⟩ := mem_parsedStorage parse found flags raw hstorage
    exact hhealth
  · intro storage hstorage
    obtain ⟨parsed, hparsed, -, hcontrollers, -⟩ := mem_parsedStorage parse found flags raw hstorage
    rw [hcontrollers]
    exact (StorageParser.parseStorage_controllers hparsed).1
  · intro sensors hsensors
    have hparsed : sensors ∈ some (SensorParser.parseSensors raw) := mem_of_mem_ite hsensors
    cases hparsed
    exact SensorParser.parseSensors_sources raw

theorem getD_of_forall {α : Type} {p : α → Prop} {o : Option α} {fallback : α}
    (h : ∀ a ∈ o, p a) (hfallback : p fallback) : p (o.getD fallback) := by
  cases o with
  | none => exact hfallback
  | some a => exact h a rfl

theorem resolve_ports {result : ParseResult} (h : result.OtherRanges) :
    ∀ device ∈ (resolve result).1.network.rdma.devices, ∀ port ∈ device.ports, port.InRange := by
  have hparsed : ∀ device ∈ (result.network.getD {}).rdma.devices,
      ∀ port ∈ device.ports, port.InRange :=
    getD_of_forall (p := fun network : Network => ∀ device ∈ network.rdma.devices,
      ∀ port ∈ device.ports, port.InRange) h.ports fun device hdevice => by cases hdevice
  intro device hdevice
  obtain ⟨before, hbefore, rfl⟩ := List.mem_map.mp hdevice
  have hkept : (linkRdmaDevice (result.pci.getD {}) before).ports = before.ports := by
    rw [linkRdmaDevice]
    split <;> rfl
  rw [hkept]
  exact hparsed before hbefore

/-- The storage after its links: devices and reports as parsed, controllers from the PCI functions. -/
theorem resolve_storage {result : ParseResult} (h : result.OtherRanges) :
    (∀ device ∈ (resolve result).1.storage.devices, ∀ ns ∈ device.nvmeNamespace, ns.InRange) ∧
      (∀ report ∈ (resolve result).1.storage.health, report.InRange) ∧
        ∀ controller ∈ (resolve result).1.storage.controllers, controller.classCode ≤ 0xffffff := by
  have hlink : ∀ (pci : Pci) (device : StorageDevice),
      (linkStorageDevice pci device).nvmeNamespace = device.nvmeNamespace := by
    intro pci device
    rw [linkStorageDevice]
    split <;> rfl
  cases hparsed : result.storage with
  | none =>
      have hempty : (resolve result).1.storage = {} := by
        simp [resolve, hparsed, linkStorage]
      rw [hempty]
      exact ⟨by simp, by simp, by simp⟩
  | some storage =>
      have hlinked : (resolve result).1.storage =
          { resolveStorageConnections storage (result.pci.getD {}) with
            devices := storage.devices.map (linkStorageDevice (result.pci.getD {})) } := by
        simp only [resolve, hparsed, linkStorage]
        rfl
      rw [hlinked]
      refine ⟨fun device hdevice => ?_, h.health storage hparsed, fun controller hmem => ?_⟩
      · obtain ⟨before, hbefore, rfl⟩ := List.mem_map.mp hdevice
        rw [hlink]
        exact h.namespaces storage hparsed before hbefore
      · have hcontroller : controller ∈
            storage.controllers ++ (result.pci.getD {}).devices.filterMap storageController := hmem
        rw [h.controllers storage hparsed, List.nil_append] at hcontroller
        obtain ⟨device, -, hdevice⟩ := List.mem_filterMap.mp hcontroller
        exact UInt32.le_iff_toNat_le.mpr (storageController_classCode hdevice).1

/-- Merging the domains keeps the ranges, and so do the findings about them. -/
theorem resolveDomains_otherRanges {result : ParseResult} (h : result.OtherRanges) :
    (resolveDomains flags raw result).1.OtherRanges := by
  obtain ⟨hnamespaces, hhealth, hclass⟩ := resolve_storage h
  have hsensors := @getD_of_forall Sensors _ result.sensors {} h.sensors ⟨by simp, by simp, by simp⟩
  refine ⟨resolve_ports h, hnamespaces, hhealth, hclass, hsensors.1,
    hsensors.2.1, hsensors.2.2, fun finding hfinding => ?_⟩
  have hfindings : (hardwareHealth (resolve result).1 flags raw).driveFindings =
      (resolve result).1.storage.health.flatMap HealthFindings.driveFindings :=
    (HealthFindings.hardwareHealth_items _ flags raw).2.2.2
  have hmem : finding ∈ (hardwareHealth (resolve result).1 flags raw).driveFindings := hfinding
  rw [hfindings] at hmem
  obtain ⟨report, hreport, hfinding⟩ := List.mem_flatMap.mp hmem
  exact HealthFindings.driveFindings_inRange (hhealth report hreport) finding hfinding

/-- **Whatever a replay returns lies in the ranges of the decoder but for its addresses.** -/
theorem otherRanges_of_replay {clock : Clock} {store : RawStore} {s : System}
    (h : replay parse clock store flags = some (.ok s)) : s.info.OtherRanges := by
  obtain ⟨found, hcollect⟩ := collect_of_replay h
  have hinfo := runReplay_info (runReplay_of_collectFromRaw hcollect)
  rw [hinfo]
  exact resolveDomains_otherRanges flags store.evidence
    (parseDomains_otherRanges parse found flags store.evidence)

/-- The metadata of a replay is in range, and there is no raw evidence. -/
theorem snapshot_of_replay {clock : Clock} {store : RawStore} {s : System}
    (h : replay parse clock store flags = some (.ok s)) (hstore : store.InRange) :
    s.snapshot.InRange ∧ s.raw = none := by
  obtain ⟨found, hcollect⟩ := collect_of_replay h
  have hrun := runReplay_of_collectFromRaw hcollect
  refine ⟨?_, runReplay_raw hrun⟩
  simp only [runReplay] at hrun
  split at hrun
  · cases hrun
  · rw [← Except.ok.inj hrun]
    refine ⟨(by decide +kernel : versionString.startsWith versionPrefix = true), ?_⟩
    exact hstore

/-- Only a drive counter can keep a system from being written. -/
theorem systemInfoToJson_ok {info : SystemInfo}
    (h : ∀ report ∈ info.storage.health, report.InRange) : ∃ j, systemInfoToJson info = .ok j := by
  obtain ⟨items, hitems, -⟩ :=
    mapM_roundTrip fun report hreport => storageHealthFromJson_toJson (h report hreport)
  rw [systemInfoToJson, storageToJson, hitems]
  exact ⟨_, rfl⟩

/-- **A snapshot of a replay is written, and read back exactly if its PCI addresses are narrow**: five
bits of device and three of function, wherever an address stands. -/
theorem replay_readable_iff {clock : Clock} {store : RawStore} {s : System}
    (h : replay parse clock store flags = some (.ok s)) (hstore : store.InRange)
    (options : SerializationOptions) :
    ∃ document, systemToJson options s = .ok document ∧
      (systemFromJson .library document = .ok (s.stored options) ↔
        ∀ a ∈ s.info.pciAddresses, a.InRange) := by
  have hother := otherRanges_of_replay parse flags h
  obtain ⟨hsnapshot, hraw⟩ := snapshot_of_replay parse flags h hstore
  obtain ⟨info, hencode⟩ := systemInfoToJson_ok hother.health
  refine ⟨_, systemToJson_eq options hencode, ?_⟩
  rw [← inRange_iff_addresses hother]
  constructor
  · intro hread
    exact (yields_system _ _ hread).info
  · intro hrange
    obtain ⟨info', hencode', hdecode⟩ := systemInfoFromJson_toJson hrange
    obtain rfl : info' = info := Except.ok.inj (hencode'.symm.trans hencode)
    exact systemFromJson_document ⟨hrange, hsnapshot, by simp [hraw]⟩ hdecode

/-- A PCI function whose device number has six bits. -/
def wideStore : RawStore :=
  { records := [⟨⟨.sysfsPci, utf8 "/sys/bus/pci/devices/0000:00:3f.0/class", utf8 "0x010802\n",
      .success, none, none⟩, 0⟩] }

theorem replay_readable_iff_wide : ∃ s,
    replay (fun _ => none) ⟨0, default⟩ wideStore Collect.pci = some (.ok s) ∧
      ∃ document, systemToJson {} s = .ok document ∧
        (systemFromJson .library document = .ok (s.stored {}) ↔
          ∀ a ∈ s.info.pciAddresses, a.InRange) := by
  have hreturns : ((replay (fun _ => none) ⟨0, default⟩ wideStore Collect.pci).any fun result =>
      result.toOption.isSome) = true := by decide +kernel
  rw [Option.any_eq_true] at hreturns
  obtain ⟨result, hreplay, hresult⟩ := hreturns
  cases result with
  | error e => cases hresult
  | ok s => exact ⟨s, hreplay, replay_readable_iff _ _ hreplay (by simp [RawStore.InRange, wideStore]) {}⟩

end Sysal
