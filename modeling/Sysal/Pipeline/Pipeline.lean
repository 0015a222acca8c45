import Sysal.Model.Errors
import Sysal.Parser.Cpu
import Sysal.Resolver.HardwareHealth
import Sysal.Resolver.Inventory
import Sysal.Resolver.Resolve

/-!
# The replay pipeline

`pipeline.cpp`: `runReplay` parses the requested domains of a raw store, merges them, and adds health,
inventories and observations; `collectFromRaw` is its public entry.  The parsers are a parameter of
the pipeline: each is a function of the evidence that appends warnings, and nothing below depends on
which functions they are.  The two clocks are a parameter as well.

* `parseDomains_fst`: the dispatch table in one equation, domain by domain.
* `runReplay_info`: the domains of a run that returns are the merged ones.
-/

namespace Sysal

/-- The parsers the pipeline dispatches to; a domain that cannot be parsed is missing.  The parser of
storage health only appends reports to a parsed storage domain. -/
structure Parsers where
  sensors : EvidenceStore → Sensors
  platform : EvidenceStore → Option Platform × List Bytes
  cpu : EvidenceStore → Option Cpu × List Bytes
  memory : EvidenceStore → Option Memory × List Bytes
  pci : EvidenceStore → Option Pci × List Bytes
  network : EvidenceStore → Option Network × List Bytes
  accelerator : EvidenceStore → Option Accelerators × List Bytes
  acceleratorRuntimeVisibility : EvidenceStore → Accelerators → List RuntimeVisibility
  storage : EvidenceStore → Option Storage × List Bytes
  storageHealth : EvidenceStore → Storage → List StorageHealthReport × List Bytes
  software : EvidenceStore → Option SoftwareStack × List Bytes
  execution : EvidenceStore → Option ExecutionContext × List Bytes

/-- The parsers on evidence of the CPU alone: nothing else is found. -/
def cpuParsers : Parsers where
  sensors := fun _ => {}
  platform := fun _ => (none, [])
  cpu := CpuParser.parseCpu
  memory := fun _ => (none, [])
  pci := fun _ => (none, [])
  network := fun _ => (none, [])
  accelerator := fun _ => (none, [])
  acceleratorRuntimeVisibility := fun _ _ => []
  storage := fun _ => (none, [])
  storageHealth := fun _ _ => ([], [])
  software := fun _ => (none, [])
  execution := fun _ => (none, [])

/-- The readings of the two clocks: the time of the collection and its duration. -/
structure Clock where
  start : Int64
  duration : FiniteDouble

namespace Pipeline

/-! ### Parsing -/

/-- The masks of the dispatch table that name more than one domain. -/
def pciMask : Collect :=
  Collect.pci ||| Collect.network ||| Collect.storage ||| Collect.storageHealth

def storageMask : Collect := Collect.storage ||| Collect.storageHealth

/-- A parser entry works on the result so far and appends warnings. -/
abbrev ParserEntry := EvidenceStore → ParseResult → ParseResult × List Bytes

/-- The dispatch table. -/
def parserDispatch (parsers : Parsers) : List (Collect × ParserEntry) :=
  [(Collect.sensors, fun raw r => ({ r with sensors := some (parsers.sensors raw) }, [])),
   (Collect.platform, fun raw r =>
      ({ r with platform := (parsers.platform raw).1 }, (parsers.platform raw).2)),
   (Collect.cpu, fun raw r => ({ r with cpu := (parsers.cpu raw).1 }, (parsers.cpu raw).2)),
   (Collect.memory, fun raw r =>
      ({ r with memory := (parsers.memory raw).1 }, (parsers.memory raw).2)),
   (pciMask, fun raw r => ({ r with pci := (parsers.pci raw).1 }, (parsers.pci raw).2)),
   (Collect.network, fun raw r =>
      ({ r with network := (parsers.network raw).1 }, (parsers.network raw).2)),
   (Collect.accelerator, fun raw r =>
      ({ r with
          accelerators := (parsers.accelerator raw).1
          acceleratorRuntimeVisibility := match (parsers.accelerator raw).1 with
            | some devices => parsers.acceleratorRuntimeVisibility raw devices
            | none => r.acceleratorRuntimeVisibility },
       (parsers.accelerator raw).2)),
   (storageMask, fun raw r =>
      ({ r with storage := (parsers.storage raw).1 }, (parsers.storage raw).2)),
   (Collect.software, fun raw r =>
      ({ r with software := (parsers.software raw).1 }, (parsers.software raw).2)),
   (Collect.execution, fun raw r =>
      ({ r with execution := (parsers.execution raw).1 }, (parsers.execution raw).2))]

/-- One entry of the table: skipped unless one of its flags is requested. -/
def dispatch (flags : Collect) (raw : EvidenceStore) (state : ParseResult × List Bytes)
    (entry : Collect × ParserEntry) : ParseResult × List Bytes :=
  if has flags entry.1 then
    let step := entry.2 raw state.1
    (step.1, state.2 ++ step.2)
  else state

/-- `parse_storage_health` on a parsed storage domain. -/
def addStorageHealth (parsers : Parsers) (flags : Collect) (raw : EvidenceStore)
    (state : ParseResult × List Bytes) : ParseResult × List Bytes :=
  match has flags Collect.storageHealth, state.1.storage with
  | true, some storage =>
      let reports := parsers.storageHealth raw storage
      ({ state.1 with storage := some { storage with health := storage.health ++ reports.1 } },
       state.2 ++ reports.2)
  | _, _ => state

/-- The parser stage of a run. -/
def parseDomains (parsers : Parsers) (flags : Collect) (raw : EvidenceStore) :
    ParseResult × List Bytes :=
  addStorageHealth parsers flags raw ((parserDispatch parsers).foldl (dispatch flags raw) ({}, []))

theorem dispatch_fst (flags : Collect) (raw : EvidenceStore) (state : ParseResult × List Bytes)
    (entry : Collect × ParserEntry) :
    (dispatch flags raw state entry).1 =
      if has flags entry.1 then (entry.2 raw state.1).1 else state.1 := by
  simp only [dispatch]
  split <;> rfl

theorem foldl_dispatch_fst (flags : Collect) (raw : EvidenceStore)
    (entries : List (Collect × ParserEntry)) (state : ParseResult × List Bytes) :
    (entries.foldl (dispatch flags raw) state).1 =
      entries.foldl (fun r entry => if has flags entry.1 then (entry.2 raw r).1 else r) state.1 := by
  induction entries generalizing state with
  | nil => rfl
  | cons entry entries ih => rw [List.foldl_cons, ih, dispatch_fst, List.foldl_cons]

/-- The dispatch table, domain by domain. -/
theorem parserDispatch_fst (parsers : Parsers) (flags : Collect) (raw : EvidenceStore) :
    ((parserDispatch parsers).foldl (dispatch flags raw) ({}, [])).1 =
      { sensors := if has flags Collect.sensors then some (parsers.sensors raw) else none
        platform := if has flags Collect.platform then (parsers.platform raw).1 else none
        cpu := if has flags Collect.cpu then (parsers.cpu raw).1 else none
        memory := if has flags Collect.memory then (parsers.memory raw).1 else none
        pci := if has flags pciMask then (parsers.pci raw).1 else none
        network := if has flags Collect.network then (parsers.network raw).1 else none
        accelerators := if has flags Collect.accelerator then (parsers.accelerator raw).1 else none
        storage := if has flags storageMask then (parsers.storage raw).1 else none
        software := if has flags Collect.software then (parsers.software raw).1 else none
        execution := if has flags Collect.execution then (parsers.execution raw).1 else none
        acceleratorRuntimeVisibility :=
          if has flags Collect.accelerator then
            match (parsers.accelerator raw).1 with
            | some devices => parsers.acceleratorRuntimeVisibility raw devices
            | none => []
          else [] } := by
  rw [foldl_dispatch_fst]
  have hstep : ∀ (c : Bool) (r r' : ParseResult), (if c then r' else r) =
      ⟨if c then r'.platform else r.platform, if c then r'.cpu else r.cpu,
       if c then r'.memory else r.memory, if c then r'.pci else r.pci,
       if c then r'.network else r.network, if c then r'.accelerators else r.accelerators,
       if c then r'.storage else r.storage, if c then r'.software else r.software,
       if c then r'.execution else r.execution, if c then r'.sensors else r.sensors,
       if c then r'.acceleratorRuntimeVisibility else r.acceleratorRuntimeVisibility⟩ := by
    intro c r r'
    cases c <;> rfl
  simp only [parserDispatch, List.foldl_cons, List.foldl_nil, hstep, ite_self]

/-- The storage domain after the parser stage: health reports are appended on request. -/
def parsedStorage (parsers : Parsers) (flags : Collect) (raw : EvidenceStore) : Option Storage :=
  if has flags storageMask then
    (parsers.storage raw).1.map fun storage =>
      { storage with
        health := storage.health ++
          if has flags Collect.storageHealth then (parsers.storageHealth raw storage).1 else [] }
  else none

theorem addStorageHealth_fst (parsers : Parsers) (flags : Collect) (raw : EvidenceStore)
    (state : ParseResult × List Bytes) :
    (addStorageHealth parsers flags raw state).1 =
      { state.1 with
        storage := state.1.storage.map fun storage =>
          { storage with
            health := storage.health ++
              if has flags Collect.storageHealth then (parsers.storageHealth raw storage).1
              else [] } } := by
  obtain ⟨⟨platform, cpu, memory, pci, network, accelerators, storage, software, execution, sensors,
    visibility⟩, warnings⟩ := state
  simp only [addStorageHealth]
  cases has flags Collect.storageHealth <;> cases storage <;> simp

/-- **The parser stage, domain by domain**: every domain is what its parser says, present when one of
the flags of its table entry is requested. -/
theorem parseDomains_fst (parsers : Parsers) (flags : Collect) (raw : EvidenceStore) :
    (parseDomains parsers flags raw).1 =
      { sensors := if has flags Collect.sensors then some (parsers.sensors raw) else none
        platform := if has flags Collect.platform then (parsers.platform raw).1 else none
        cpu := if has flags Collect.cpu then (parsers.cpu raw).1 else none
        memory := if has flags Collect.memory then (parsers.memory raw).1 else none
        pci := if has flags pciMask then (parsers.pci raw).1 else none
        network := if has flags Collect.network then (parsers.network raw).1 else none
        accelerators := if has flags Collect.accelerator then (parsers.accelerator raw).1 else none
        storage := parsedStorage parsers flags raw
        software := if has flags Collect.software then (parsers.software raw).1 else none
        execution := if has flags Collect.execution then (parsers.execution raw).1 else none
        acceleratorRuntimeVisibility :=
          if has flags Collect.accelerator then
            match (parsers.accelerator raw).1 with
            | some devices => parsers.acceleratorRuntimeVisibility raw devices
            | none => []
          else [] } := by
  rw [parseDomains, addStorageHealth_fst, parserDispatch_fst]
  simp only [parsedStorage, apply_ite (Option.map _), Option.map_none]

/-! ### Status of the collectors -/

/-- Whether some drive report holds data. -/
def storageHealthAvailable (result : ParseResult) : Bool :=
  result.storage.any fun storage =>
    storage.health.any fun report => report.status = .success || report.status = .partial_

/-- Every collector with its flag and whether it succeeded, in the order they are recorded. -/
def collectorChecks (result : ParseResult) : List (Collect × Bytes × Bool) :=
  [(Collect.sensors, utf8 "sensors", result.sensors.isSome),
   (Collect.platform, utf8 "platform", result.platform.isSome),
   (Collect.cpu, utf8 "cpu", result.cpu.isSome),
   (Collect.memory, utf8 "memory", result.memory.isSome),
   (Collect.pci, utf8 "pci", result.pci.isSome),
   (Collect.network, utf8 "network", result.network.isSome),
   (Collect.accelerator, utf8 "accelerator", result.accelerators.isSome),
   (Collect.storage, utf8 "storage", result.storage.isSome),
   (Collect.storageHealth, utf8 "storage_health", storageHealthAvailable result),
   (Collect.software, utf8 "software", result.software.isSome),
   (Collect.execution, utf8 "execution", result.execution.isSome)]

/-- `record_collector_status`: the collectors that succeeded and those that failed. -/
def recordCollectorStatus (result : ParseResult) (flags : Collect) : List Bytes × List Bytes :=
  let requested := (collectorChecks result).filter fun check => has flags check.1
  ((requested.filter (·.2.2)).map (·.2.1), (requested.filter (!·.2.2)).map (·.2.1))

/-! ### Observations -/

/-- The domain a source is reported under; other sources are not reported. -/
def observationDomain : RawSource → Option Bytes
  | .sysfsHwmon | .sysfsThermal => some (utf8 "sensors")
  | .sysfsDmi => some (utf8 "system")
  | .procCpuInfo | .sysfsCpu => some (utf8 "cpu")
  | .procMemInfo | .sysfsNuma | .sysfsEdac | .udevadm => some (utf8 "memory")
  | .sysfsNet | .ifAddrs | .ethtool | .procNetVlan | .sysfsRdma => some (utf8 "network")
  | .storageHealthSysfs | .smartctl | .nvmeSmartLog => some (utf8 "storage_health")
  | .sysfsStorageConnections | .sysfsBlock | .storageMountInfo | .filesystemUsage =>
      some (utf8 "storage")
  | .sysfsPci | .lspci => some (utf8 "pci")
  | _ => none

/-- The observation of a record: a firmware placeholder is a partial read. -/
def observation (record : RawEvidence) : Option CollectionObservation :=
  (observationDomain record.source).map fun domain =>
    let placeholder := record.source = .sysfsDmi ∧ record.status = .success ∧
      (hardwareText record.payload).isEmpty
    { domain := domain
      source := record.source
      origin := record.pathOrCommand
      status := if placeholder then .partial_ else record.status
      failure := if placeholder then some .notProvided else record.failure
      skip := record.skip }

/-! ### The run -/

/-- The version of the library. -/
def versionString : Bytes := utf8 "0.0.26"

def collectionFailed (failed : List Bytes) : Thrown :=
  .sysalError .collectionFailed
    (utf8 "all requested collectors failed: " ++ decimal failed.length ++ utf8 " collectors")

/-- The resolver stage: the merged domains with their health. -/
def resolveDomains (flags : Collect) (raw : EvidenceStore) (result : ParseResult) :
    SystemInfo × List Bytes :=
  let (info, warnings) := resolve result
  ({ info with hardwareHealth := hardwareHealth info flags raw }, warnings)

/-- `run_replay`: the parser and the resolver stage and the metadata of the run. -/
def runReplay (parsers : Parsers) (clock : Clock) (raw : EvidenceStore) (flags : Collect) :
    Except Thrown System :=
  let (result, parseWarnings) := parseDomains parsers flags raw
  let (succeeded, failed) := recordCollectorStatus result flags
  if succeeded.isEmpty && !failed.isEmpty then .error (collectionFailed failed)
  else
    let (info, resolveWarnings) := resolveDomains flags raw result
    .ok
      { info := info
        snapshot :=
          { collectTime := clock.start
            sysalVersion := versionString
            collectDuration := clock.duration
            requestedFlags := flags
            succeededCollectors := succeeded
            failedCollectors := failed
            observations := raw.records.filterMap observation
            inventories := inventoryReports info raw flags
            collectionRequest := raw.collectionRequest }
        warnings := parseWarnings ++ resolveWarnings }

/-- The domains of a run that returns. -/
theorem runReplay_info {parsers : Parsers} {clock : Clock} {raw : EvidenceStore} {flags : Collect}
    {s : System} (h : runReplay parsers clock raw flags = .ok s) :
    s.info = (resolveDomains flags raw (parseDomains parsers flags raw).1).1 := by
  simp only [runReplay] at h
  split at h
  · cases h
  · rw [← Except.ok.inj h]

/-- Replay keeps no raw evidence. -/
theorem runReplay_raw {parsers : Parsers} {clock : Clock} {raw : EvidenceStore} {flags : Collect}
    {s : System} (h : runReplay parsers clock raw flags = .ok s) : s.raw = none := by
  simp only [runReplay] at h
  split at h
  · cases h
  · rw [← Except.ok.inj h]

end Pipeline

open Pipeline

/-- `collect_from_raw`: the flags are checked before anything is parsed. -/
def collectFromRaw (parsers : Parsers) (clock : Clock) (raw : RawStore) (flags : Collect) :
    Except Thrown System :=
  if !({ flags } : CollectionRequest).valid then
    .error (.invalidArgument (utf8 "unknown collection flags"))
  else runReplay parsers clock raw.evidence flags

/-- A store that is collected from was asked for known domains, and the replay returned. -/
theorem runReplay_of_collectFromRaw {parsers : Parsers} {clock : Clock} {raw : RawStore}
    {flags : Collect} {s : System} (h : collectFromRaw parsers clock raw flags = .ok s) :
    runReplay parsers clock raw.evidence flags = .ok s := by
  simp only [collectFromRaw] at h
  split at h
  · cases h
  · exact h

end Sysal
