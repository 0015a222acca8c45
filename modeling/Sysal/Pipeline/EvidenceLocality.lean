import Sysal.Parser.SensorChannels
import Sysal.Pipeline.Replay

/-!
# What a replay reads of its evidence

A domain is computed from the records of a few sources.  Of most of them only the successful records
count; of some the others count as well, because a failure is reported or because the source only has
to be there.  The records of one source keep their order, and the two drive tools are read as one
stream; the order between sources is never seen.

* `runReplay_agree`: **locality**, two stores that agree on the sources of the requested domains give
  the same domains, warnings and collector status;
* `replay_agree`: the same for the library's own parsers, the accelerator parser included.
-/

namespace Sysal

/-! ### Footprints -/

/-- The sources a domain is computed from: those of which the successful records count, and those of
which every record counts. -/
structure Footprint where
  successful : List RawSource
  every : List RawSource

/-- The footprints of the domains, with the flags that request them. -/
def footprints : List (Collect × Footprint) :=
  [(Collect.sensors, ⟨[], [.sysfsHwmon, .sysfsThermal]⟩),
   (Collect.platform,
     ⟨[.etcOsRelease, .procVersion, .uname, .sysfsDmi, .procHostname, .sysHypervisor, .procCpuInfo],
      []⟩),
   (Collect.cpu, ⟨[.procCpuInfo, .sysfsNuma, .sysfsThermal], [.sysfsCpu]⟩),
   (Collect.memory, ⟨[.procMemInfo, .sysfsNuma, .udevadm, .sysfsEdac], []⟩),
   (Pipeline.pciMask, ⟨[.lspci], [.sysfsPci]⟩),
   (Collect.network, ⟨[.ifAddrs, .procNetVlan], [.sysfsNet, .sysfsRdma, .ethtool]⟩),
   (Collect.accelerator,
     ⟨[.nvml, .nvidiaSmi, .nvidiaMigList, .acceleratorRuntime, .sysfsPci], [.sysfsDrm]⟩),
   (Pipeline.storageMask,
     ⟨[.storageMountInfo, .dfTh], [.sysfsBlock, .sysfsStorageConnections, .filesystemUsage]⟩),
   (Collect.storageHealth, ⟨[], [.storageHealthSysfs]⟩),
   (Collect.software,
     ⟨[.nvml, .rocmVersion, .packageLibrary, .acceleratorRuntime, .compilerPath, .compilerTarget,
       .mpiPath, .ibverbsLibdir, .ucxVersion, .nvccPath, .cudaHome],
      [.nvidiaSmi, .nvcc, .compilerVersion, .mpiVersion, .ibverbsVersion]⟩),
   (Collect.execution,
     ⟨[.procSelfStatus, .procSelfCgroup, .environment, .rootDockerenv, .procOneCgroup],
      [.cgroupFile]⟩)]

/-- Two stores agree on the sources of a footprint. -/
structure Footprint.Agree (footprint : Footprint) (raw raw' : EvidenceStore) : Prop where
  successful : ∀ source ∈ footprint.successful, raw.successes source = raw'.successes source
  every : ∀ source ∈ footprint.every, raw.getAll source = raw'.getAll source

/-- A record of one of the two drive tools. -/
def isTool (record : RawEvidence) : Bool :=
  record.source = .smartctl || record.source = .nvmeSmartLog

/-- The stream of the drive tools. -/
def EvidenceStore.toolRecords (raw : EvidenceStore) : List RawEvidence := raw.records.filter isTool

/-- Two stores agree on everything the requested domains are computed from. -/
structure AgreeFor (flags : Collect) (raw raw' : EvidenceStore) : Prop where
  request : raw.collectionRequest = raw'.collectionRequest
  enumeration : ∀ kind, raw.enumeration kind = raw'.enumeration kind
  footprint : ∀ entry ∈ footprints, has flags entry.1 → entry.2.Agree raw raw'
  tools : has flags Collect.storageHealth → raw.toolRecords = raw'.toolRecords

/-! ### The queries on one source -/

namespace EvidenceStore

variable {raw raw' : EvidenceStore} {source : RawSource}

theorem successes_of_getAll (h : raw.getAll source = raw'.getAll source) :
    raw.successes source = raw'.successes source := by
  rw [successes, h, successes]

theorem hasSource_of_getAll (h : raw.getAll source = raw'.getAll source) :
    raw.hasSource source = raw'.hasSource source := by
  have hany : ∀ store : EvidenceStore,
      store.hasSource source = (store.getAll source).any fun _ => true := by
    intro store
    rw [hasSource, getAll, List.any_filter]
    simp only [Bool.and_true]
  rw [hany, hany, h]

theorem hasSuccess_of_successes (h : raw.successes source = raw'.successes source) :
    raw.hasSuccess source = raw'.hasSuccess source := by
  have hany : ∀ store : EvidenceStore,
      store.hasSuccess source = (store.successes source).any fun _ => true := by
    intro store
    rw [hasSuccess, successes, getAll, List.any_filter, List.any_filter]
    simp only [Bool.and_true, Bool.decide_and]
  rw [hany, hany, h]

theorem get_of_getAll (h : raw.getAll source = raw'.getAll source) (path : Bytes) :
    raw.get source path = raw'.get source path := by
  have hfilter : ∀ store : EvidenceStore,
      store.get source path = (store.getAll source).filter (·.pathOrCommand = path) := by
    intro store
    rw [EvidenceStore.get, getAll, List.filter_filter]
    simp only [Bool.decide_and, Bool.and_comm]
  rw [hfilter, hfilter, h]

theorem any_of_getAll (h : raw.getAll source = raw'.getAll source) (p : RawEvidence → Bool) :
    raw.records.any (fun record => record.source = source && p record) =
      raw'.records.any fun record => record.source = source && p record := by
  have hany : ∀ store : EvidenceStore,
      store.records.any (fun record => record.source = source && p record) =
        (store.getAll source).any p := by
    intro store
    rw [getAll, List.any_filter]
  rw [hany, hany, h]

end EvidenceStore

open EvidenceStore

/-! ### The parsers -/

variable {raw raw' : EvidenceStore} {parse : AcceleratorParser.JsonParser}

theorem parsePlatform_agree
    (h : ∀ source ∈ [RawSource.etcOsRelease, .procVersion, .uname, .sysfsDmi, .procHostname,
      .sysHypervisor, .procCpuInfo], raw.successes source = raw'.successes source) :
    PlatformParser.parsePlatform raw = PlatformParser.parsePlatform raw' := by
  simp only [List.forall_mem_cons] at h
  obtain ⟨hos, hversion, huname, hdmi, hhost, hhypervisor, hcpuinfo, -⟩ := h
  have hsystem : PlatformParser.platformOs raw = PlatformParser.platformOs raw' := by
    simp only [PlatformParser.platformOs, hos]
  have hkernel : PlatformParser.platformKernel raw = PlatformParser.platformKernel raw' := by
    simp only [PlatformParser.platformKernel, hversion]
  have harch : PlatformParser.platformArchitecture raw =
      PlatformParser.platformArchitecture raw' := by
    funext platform
    simp only [PlatformParser.platformArchitecture, huname]
  have hfields : PlatformParser.parseDmi raw = PlatformParser.parseDmi raw' := by
    funext platform
    simp only [PlatformParser.parseDmi, hdmi]
  have hname : PlatformParser.platformHostname raw = PlatformParser.platformHostname raw' := by
    simp only [PlatformParser.platformHostname, hhost]
  have hguest : PlatformParser.detectVirtualization raw =
      PlatformParser.detectVirtualization raw' := by
    simp only [PlatformParser.detectVirtualization, PlatformParser.extractDmiVendorProduct, hdmi,
      hhypervisor, hcpuinfo]
  simp only [PlatformParser.parsePlatform, hsystem, hkernel, harch, hfields, hname, hguest]

theorem parseCpu_agree
    (h : ∀ source ∈ [RawSource.procCpuInfo, .sysfsNuma, .sysfsThermal],
      raw.successes source = raw'.successes source)
    (hcpu : raw.successes .sysfsCpu = raw'.successes .sysfsCpu) :
    CpuParser.parseCpu raw = CpuParser.parseCpu raw' := by
  simp only [List.forall_mem_cons] at h
  obtain ⟨hcpuinfo, hnuma, hthermal, -⟩ := h
  have hentries : CpuParser.applySysfsTopology raw = CpuParser.applySysfsTopology raw' := by
    funext entries
    simp only [CpuParser.applySysfsTopology, CpuParser.sysfsTopology, hcpu]
  have hfrequencies : CpuParser.readCpufreq raw = CpuParser.readCpufreq raw' := by
    funext ids
    simp only [CpuParser.readCpufreq, hcpu]
  have hdetails : CpuDetails.readCpuDetails raw = CpuDetails.readCpuDetails raw' := by
    funext cpu
    simp only [CpuDetails.readCpuDetails, hcpu]
  have hbuild : CpuParser.buildCpu raw = CpuParser.buildCpu raw' := by
    funext entries
    simp only [CpuParser.buildCpu, CpuParser.withFrequencies, CpuParser.buildNumaMapping,
      CpuParser.readCpuCaches, CpuParser.readCpuGovernor, CpuParser.readThermalZones, hfrequencies,
      hdetails, hnuma, hthermal, hcpu]
  simp only [CpuParser.parseCpu, hentries, hbuild, hcpuinfo]

theorem parseMemory_agree
    (h : ∀ source ∈ [RawSource.procMemInfo, .sysfsNuma, .udevadm, .sysfsEdac],
      raw.successes source = raw'.successes source) :
    MemoryParser.parseMemory raw = MemoryParser.parseMemory raw' := by
  simp only [List.forall_mem_cons] at h
  obtain ⟨hmeminfo, hnuma, hudev, hedac, -⟩ := h
  have hinventory : MemoryParser.applyEdacInventory raw = MemoryParser.applyEdacInventory raw' := by
    have hdevices : MemoryParser.edacDevices raw = MemoryParser.edacDevices raw' := by
      rw [MemoryParser.edacDevices, hedac, MemoryParser.edacDevices]
    funext s
    rw [MemoryParser.applyEdacInventory, hdevices, MemoryParser.applyEdacInventory]
  have htopology : MemoryParser.applyMemoryTopology raw = MemoryParser.applyMemoryTopology raw' := by
    funext memory
    simp only [MemoryParser.applyMemoryTopology, hedac, hudev]
  simp only [MemoryParser.parseMemory, hinventory, htopology, hmeminfo, hnuma, hudev]

theorem parsePci_agree (hlspci : raw.successes .lspci = raw'.successes .lspci)
    (hpci : raw.getAll .sysfsPci = raw'.getAll .sysfsPci)
    (henum : raw.enumeration .pciDevices = raw'.enumeration .pciDevices) :
    PciParser.parsePci raw = PciParser.parsePci raw' := by
  simp only [PciParser.parsePci, PciParser.scanSysfs, PciParser.lspciLines, hlspci, hpci, henum,
    successes_of_getAll hpci]

theorem parseNetwork_agree
    (h : ∀ source ∈ [RawSource.ifAddrs, .procNetVlan], raw.successes source = raw'.successes source)
    (hevery : ∀ source ∈ [RawSource.sysfsNet, .sysfsRdma, .ethtool],
      raw.getAll source = raw'.getAll source)
    (henum : raw.enumeration .networkInterfaces = raw'.enumeration .networkInterfaces) :
    NetworkParser.parseNetwork raw = NetworkParser.parseNetwork raw' := by
  simp only [List.forall_mem_cons] at h hevery
  obtain ⟨haddrs, hvlan, -⟩ := h
  obtain ⟨hnet, hrdma, hethtool, -⟩ := hevery
  simp only [NetworkParser.parseNetwork, NetworkParser.applyNetworkDetails, RdmaParser.parseRdma,
    haddrs, hvlan, hrdma, hethtool, henum, successes_of_getAll hnet, hasSource_of_getAll hnet,
    hasSource_of_getAll hrdma]

theorem parseAccelerator_agree
    (h : ∀ source ∈ [RawSource.nvml, .nvidiaSmi, .nvidiaMigList, .acceleratorRuntime, .sysfsPci],
      raw.successes source = raw'.successes source)
    (hdrm : raw.getAll .sysfsDrm = raw'.getAll .sysfsDrm) :
    AcceleratorParser.parseAccelerator parse raw = AcceleratorParser.parseAccelerator parse raw' ∧
      AcceleratorParser.parseAcceleratorRuntimeVisibility parse raw =
        AcceleratorParser.parseAcceleratorRuntimeVisibility parse raw' := by
  simp only [List.forall_mem_cons] at h
  obtain ⟨hnvml, hsmi, hmig, hruntime, hpci, -⟩ := h
  have hnuma : AcceleratorParser.fillNumaNode raw = AcceleratorParser.fillNumaNode raw' := by
    funext device
    simp only [AcceleratorParser.fillNumaNode, AcceleratorParser.findNumaNodeForPci, hpci]
  constructor
  · simp only [AcceleratorParser.parseAccelerator, AcceleratorParser.decodeBackends,
      AcceleratorParser.decodeNvml, AcceleratorParser.decodeNvidiaSmi,
      AcceleratorParser.decodeMigList, AcceleratorParser.decodeRuntimeInventory,
      AcceleratorParser.decodeDrm, hnvml, hsmi, hmig, hruntime, hdrm, hnuma,
      hasSuccess_of_successes hnvml, hasSuccess_of_successes (successes_of_getAll hdrm)]
  · funext devices
    simp only [AcceleratorParser.parseAcceleratorRuntimeVisibility, hruntime]

theorem parseStorage_agree
    (h : ∀ source ∈ [RawSource.storageMountInfo, .dfTh],
      raw.successes source = raw'.successes source)
    (hevery : ∀ source ∈ [RawSource.sysfsBlock, .sysfsStorageConnections, .filesystemUsage],
      raw.getAll source = raw'.getAll source)
    (henum : raw.enumeration .blockDevices = raw'.enumeration .blockDevices) :
    StorageParser.parseStorage parse raw = StorageParser.parseStorage parse raw' := by
  simp only [List.forall_mem_cons] at h hevery
  obtain ⟨hmounts, hdf, -⟩ := h
  obtain ⟨hblock, hconnections, husage, -⟩ := hevery
  have hattributes : StorageParser.deviceAttributes raw = StorageParser.deviceAttributes raw' := by
    simp only [StorageParser.deviceAttributes, successes_of_getAll hblock]
  have honly : StorageParser.onlyAttributes raw = StorageParser.onlyAttributes raw' := by
    simp only [StorageParser.onlyAttributes, hasSuccess_of_successes hmounts, henum]
  have hlegacy : ∀ storage warnings,
      StorageParser.applyLegacyStorageMounts storage raw warnings =
        StorageParser.applyLegacyStorageMounts storage raw' warnings := by
    intro storage warnings
    simp only [StorageParser.applyLegacyStorageMounts, StorageParser.dfOutput, hdf,
      hasSuccess_of_successes hmounts]
  have hmount : ∀ storage warnings, StorageParser.applyStorageMounts storage raw warnings =
      StorageParser.applyStorageMounts storage raw' warnings := by
    intro storage warnings
    simp only [StorageParser.applyStorageMounts, hmounts]
  have hconnect : ∀ storage, StorageConnectionsParser.applyStorageConnections storage raw =
      StorageConnectionsParser.applyStorageConnections storage raw' := by
    intro storage
    simp only [StorageConnectionsParser.applyStorageConnections, StorageConnectionsParser.inventory,
      successes_of_getAll hconnections]
  simp only [StorageParser.parseStorage, StorageParser.blockDevices, FilesystemsParser.applyFilesystems,
    hattributes, honly, hlegacy, hmount, hconnect, husage, hasSource_of_getAll hblock,
    hasSource_of_getAll hconnections]

theorem parseSoftware_agree
    (h : ∀ source ∈ [RawSource.nvml, .rocmVersion, .packageLibrary, .acceleratorRuntime,
      .compilerPath, .compilerTarget, .mpiPath, .ibverbsLibdir, .ucxVersion, .nvccPath, .cudaHome],
      raw.successes source = raw'.successes source)
    (hevery : ∀ source ∈ [RawSource.nvidiaSmi, .nvcc, .compilerVersion, .mpiVersion,
      .ibverbsVersion], raw.getAll source = raw'.getAll source) :
    SoftwareParser.parseSoftware parse raw = SoftwareParser.parseSoftware parse raw' := by
  simp only [List.forall_mem_cons] at h hevery
  obtain ⟨hnvml, hrocm, hpackages, hruntime, hpath, htarget, hmpiPath, hlibdir, hucx, hnvccPath,
    hhome, -⟩ := h
  obtain ⟨hsmi, hnvcc, hcompiler, hmpi, hibverbs, -⟩ := hevery
  have hlibrary : SoftwareParser.findLibrary raw = SoftwareParser.findLibrary raw' := by
    funext entry
    simp only [SoftwareParser.findLibrary, SoftwareParser.firstSuccessCmd, hpackages]
  have hfound : SoftwareParser.findCompiler raw = SoftwareParser.findCompiler raw' := by
    funext name
    simp only [SoftwareParser.findCompiler, SoftwareParser.firstSuccessCmd,
      successes_of_getAll hcompiler, hpath, htarget]
  have hhip : ∀ stack, SoftwareParser.addHipRuntime raw stack =
      SoftwareParser.addHipRuntime raw' stack := by
    intro stack
    simp only [SoftwareParser.addHipRuntime, SoftwareParser.hipconfigPath,
      SoftwareParser.firstSuccessCmd, hrocm]
  have hcuda : SoftwareParser.findCuda raw = SoftwareParser.findCuda raw' := by
    have hfirst : ∀ source, raw.successes source = raw'.successes source →
        SoftwareParser.firstSuccess raw source = SoftwareParser.firstSuccess raw' source := by
      intro source hsource
      funext text
      rw [SoftwareParser.firstSuccess, hsource, SoftwareParser.firstSuccess]
    funext cuda driver
    rw [SoftwareParser.findCuda, hfirst _ hnvccPath, hfirst _ hhome, SoftwareParser.findCuda]
  have hversions : SoftwareParser.driverVersion parse raw = SoftwareParser.driverVersion parse raw' ∧
      SoftwareParser.cudaVersion raw = SoftwareParser.cudaVersion raw' := by
    simp only [SoftwareParser.driverVersion, SoftwareParser.nvmlDriverVersion,
      SoftwareParser.cudaVersion, hnvml, successes_of_getAll hsmi, successes_of_getAll hnvcc,
      and_self]
  have hstack : SoftwareParser.acceleratorStack parse raw =
      SoftwareParser.acceleratorStack parse raw' := by
    simp only [SoftwareParser.acceleratorStack, SoftwareParser.rocmOfFiles,
      SoftwareParser.hipconfigPath, SoftwareParser.firstSuccessCmd, hlibrary, hhip, hrocm, hruntime]
  have hassemble : SoftwareParser.assembleStack parse raw =
      SoftwareParser.assembleStack parse raw' := by
    funext driver cuda
    simp only [SoftwareParser.assembleStack, SoftwareParser.findMpi, SoftwareParser.findRdma,
      SoftwareParser.firstSuccess, hstack, hfound, hcuda, hmpiPath, hlibdir, hucx,
      successes_of_getAll hmpi, successes_of_getAll hibverbs]
  have huntried : SoftwareParser.untried raw = SoftwareParser.untried raw' := by
    simp only [SoftwareParser.untried, List.all_cons, List.all_nil, hsmi, hnvcc, hcompiler, hmpi,
      hibverbs]
  rw [SoftwareParser.parseSoftware, hversions.1, hversions.2, hassemble, huntried,
    SoftwareParser.parseSoftware]

theorem parseExecution_agree
    (h : ∀ source ∈ [RawSource.procSelfStatus, .procSelfCgroup, .environment, .rootDockerenv,
      .procOneCgroup], raw.successes source = raw'.successes source)
    (hcgroup : raw.getAll .cgroupFile = raw'.getAll .cgroupFile) :
    parseExecution raw = parseExecution raw' := by
  simp only [List.forall_mem_cons] at h
  obtain ⟨hstatus, hself, henvironment, hdocker, hone, -⟩ := h
  simp only [parseExecution, parseCgroupLimits, ExecutionParser.detectContainer, hstatus, hself,
    henvironment, hone, hcgroup, hasSource_of_getAll hcgroup, hasSuccess_of_successes hdocker]

theorem parseSensors_agree
    (h : ∀ source ∈ [RawSource.sysfsHwmon, .sysfsThermal],
      raw.successes source = raw'.successes source) :
    SensorParser.parseSensors raw = SensorParser.parseSensors raw' := by
  have hfilter : ∀ key, raw.records.filter (SensorParser.sensorDirectory · = some key) =
      raw'.records.filter (SensorParser.sensorDirectory · = some key) := by
    rintro ⟨source, path⟩
    by_cases hsource : SensorParser.HasSensors source
    · have hrecords : ∀ store : EvidenceStore,
          store.records.filter (SensorParser.sensorDirectory · = some (source, path)) =
            (store.successes source).filter
              (SensorParser.sensorDirectory · = some (source, path)) := by
        intro store
        rw [successes, getAll, List.filter_filter, List.filter_filter]
        refine List.filter_congr fun record _ => ?_
        rw [Bool.eq_iff_iff, Bool.and_eq_true, Bool.and_eq_true, decide_eq_true_iff,
          decide_eq_true_iff, decide_eq_true_iff, SensorParser.sensorDirectory_eq_some]
        tauto
      rw [hrecords, hrecords, h source (by simpa [SensorParser.HasSensors] using hsource)]
    · have hnone : ∀ records : List RawEvidence,
          records.filter (SensorParser.sensorDirectory · = some (source, path)) = [] := by
        intro records
        rw [List.filter_eq_nil_iff]
        intro record _ heq
        exact hsource (SensorParser.sensorDirectory_eq_some.mp (of_decide_eq_true heq)).1
      rw [hnone, hnone]
  rw [SensorParser.parseSensors, SensorParser.scanSensorRecord_eq,
    toList_foldl_fileUnder_congr hfilter, SensorParser.parseSensors,
    SensorParser.scanSensorRecord_eq]

theorem parseStorageHealth_agree (htargets : raw.getAll .storageHealthSysfs =
      raw'.getAll .storageHealthSysfs) (htools : raw.toolRecords = raw'.toolRecords)
    (storage : Storage) :
    StorageHealthParser.parseStorageHealth parse storage raw =
      StorageHealthParser.parseStorageHealth parse storage raw' := by
  have hscan : ∀ (store : EvidenceStore) (targets : StorageHealthParser.HealthTargets) s,
      store.records.foldl (StorageHealthParser.scanHealth parse targets) s =
        store.toolRecords.foldl (StorageHealthParser.scanHealth parse targets) s := by
    intro store targets s
    rw [toolRecords, List.foldl_filter]
    congr 1
    funext s record
    cases htool : isTool record with
    | true => rfl
    | false =>
        have hnone : StorageHealthParser.healthTarget record = none := by
          rw [StorageHealthParser.healthTarget, if_pos]
          simpa [isTool] using htool
        rw [StorageHealthParser.scanHealth, hnone]
        rfl
  rw [StorageHealthParser.parseStorageHealth, StorageHealthParser.parseStorageHealth, hscan, hscan,
    successes_of_getAll htargets, htools]

/-! ### The stages of a run -/

namespace Pipeline

open HealthFindings Inventory

/-- A system without the observations, the one part of a result that lists every record. -/
def withoutObservations (s : System) : System :=
  { s with snapshot := { s.snapshot with observations := [] } }

theorem foldl_dispatch_congr {flags : Collect} {entries : List (Collect × ParserEntry)}
    (h : ∀ entry ∈ entries, has flags entry.1 → entry.2 raw = entry.2 raw')
    (state : ParseResult × List Bytes) :
    entries.foldl (dispatch flags raw) state = entries.foldl (dispatch flags raw') state := by
  induction entries generalizing state with
  | nil => rfl
  | cons entry entries ih =>
      have hstep : dispatch flags raw state entry = dispatch flags raw' state entry := by
        rw [dispatch, dispatch]
        by_cases hrequested : has flags entry.1
        · rw [h entry List.mem_cons_self hrequested]
        · rw [if_neg hrequested, if_neg hrequested]
      rw [List.foldl_cons, List.foldl_cons, hstep, ih fun e he => h e (List.mem_cons_of_mem _ he)]

theorem hardwareHealth_congr {flags : Collect} {info : SystemInfo}
    (hsensors : has flags Collect.sensors → sensorFailure raw = sensorFailure raw')
    (hdrives : has flags Collect.storageHealth → healthFailure raw = healthFailure raw') :
    hardwareHealth info flags raw = hardwareHealth info flags raw' := by
  have hsensor : sensorHealth info.sensors flags raw = sensorHealth info.sensors flags raw' := by
    simp only [sensorHealth]
    by_cases hrequested : has flags Collect.sensors
    · rw [hsensors hrequested]
    · simp only [hrequested, Bool.false_eq_true, if_false, coverageStatus, Bool.not_false, if_true]
  have hdrive : ∀ health, storageFindings info.storage flags raw health =
      storageFindings info.storage flags raw' health := by
    intro health
    simp only [storageFindings]
    by_cases hrequested : has flags Collect.storageHealth
    · rw [hdrives hrequested]
    · simp only [hrequested, coverageStatus, Bool.not_false, if_true]
  simp only [hardwareHealth, hsensor, hdrive]

theorem inventoryReports_congr {flags : Collect} {info : SystemInfo}
    (henum : ∀ kind, raw.enumeration kind = raw'.enumeration kind)
    (hcpu : has flags Collect.cpu → raw.getAll .sysfsCpu = raw'.getAll .sysfsCpu) :
    inventoryReports info raw flags = inventoryReports info raw' flags := by
  have hreport : report raw = report raw' := by
    funext kind names origin
    rw [report, henum, report]
  have hknown : has flags Collect.cpu → topologyKnown info.cpu raw = topologyKnown info.cpu raw' := by
    intro hrequested
    have hfield : topologyFieldKnown raw = topologyFieldKnown raw' := by
      funext cpu field
      rw [topologyFieldKnown, get_of_getAll (hcpu hrequested), topologyFieldKnown]
    rw [topologyKnown, hfield, topologyKnown]
  simp only [inventoryReports, hreport]
  by_cases hrequested : has flags Collect.cpu
  · rw [cpuReports, hreport, hknown hrequested, cpuReports]
  · rw [if_neg hrequested, if_neg hrequested]

variable {flags : Collect} {found : Option Accelerators × List Bytes} {clock : Clock}

/-- What two stores share on the sources of one entry of the footprints. -/
theorem agree_of_requested (h : AgreeFor flags raw raw') {i : ℕ} {mask : Collect}
    {footprint : Footprint} (hentry : footprints[i]? = some (mask, footprint))
    (hrequested : has flags mask) : footprint.Agree raw raw' :=
  h.footprint _ (List.mem_of_getElem? hentry) hrequested

/-- Every requested entry of the dispatch table does the same on both stores. -/
theorem parserDispatch_agree (h : AgreeFor flags raw raw') :
    ∀ entry ∈ parserDispatch (sysalParsers parse found), has flags entry.1 →
      entry.2 raw = entry.2 raw' := by
  simp only [parserDispatch, List.forall_mem_cons]
  refine ⟨fun hrequested => ?_, fun hrequested => ?_, fun hrequested => ?_, fun hrequested => ?_,
    fun hrequested => ?_, fun hrequested => ?_, fun hrequested => ?_, fun hrequested => ?_,
    fun hrequested => ?_, fun hrequested => ?_, List.forall_mem_nil _⟩
  · have hagree := agree_of_requested (i := 0) h rfl hrequested
    funext r
    simp only [sysalParsers, parseSensors_agree fun source hsource =>
      successes_of_getAll (hagree.every source hsource)]
  · have hagree := agree_of_requested (i := 1) h rfl hrequested
    funext r
    simp only [sysalParsers, parsePlatform_agree hagree.successful]
  · have hagree := agree_of_requested (i := 2) h rfl hrequested
    funext r
    simp only [sysalParsers, parseCpu_agree hagree.successful
      (successes_of_getAll (hagree.every .sysfsCpu List.mem_cons_self))]
  · have hagree := agree_of_requested (i := 3) h rfl hrequested
    funext r
    simp only [sysalParsers, parseMemory_agree hagree.successful]
  · have hagree := agree_of_requested (i := 4) h rfl hrequested
    funext r
    simp only [sysalParsers, parsePci_agree (hagree.successful .lspci List.mem_cons_self)
      (hagree.every .sysfsPci List.mem_cons_self) (h.enumeration .pciDevices)]
  · have hagree := agree_of_requested (i := 5) h rfl hrequested
    funext r
    simp only [sysalParsers, parseNetwork_agree hagree.successful hagree.every
      (h.enumeration .networkInterfaces)]
  · have hagree := agree_of_requested (i := 6) h rfl hrequested
    funext r
    simp only [sysalParsers, (parseAccelerator_agree hagree.successful
      (hagree.every .sysfsDrm List.mem_cons_self)).2]
  · have hagree := agree_of_requested (i := 7) h rfl hrequested
    funext r
    simp only [sysalParsers, parseStorage_agree hagree.successful hagree.every
      (h.enumeration .blockDevices)]
  · have hagree := agree_of_requested (i := 9) h rfl hrequested
    funext r
    simp only [sysalParsers, parseSoftware_agree hagree.successful hagree.every]
  · have hagree := agree_of_requested (i := 10) h rfl hrequested
    funext r
    simp only [sysalParsers, parseExecution_agree hagree.successful
      (hagree.every .cgroupFile List.mem_cons_self)]

/-- The parser stage is the same on both stores. -/
theorem parseDomains_agree (h : AgreeFor flags raw raw') :
    parseDomains (sysalParsers parse found) flags raw =
      parseDomains (sysalParsers parse found) flags raw' := by
  rw [parseDomains, foldl_dispatch_congr (parserDispatch_agree h), parseDomains]
  generalize (parserDispatch (sysalParsers parse found)).foldl (dispatch flags raw') ({}, []) = state
  simp only [addStorageHealth]
  by_cases hrequested : has flags Collect.storageHealth
  · have hagree := agree_of_requested (i := 8) h rfl hrequested
    have hreports : (sysalParsers parse found).storageHealth raw =
        (sysalParsers parse found).storageHealth raw' := by
      funext storage
      simp only [sysalParsers, parseStorageHealth_agree
        (hagree.every .storageHealthSysfs List.mem_cons_self) (h.tools hrequested)]
    rw [hreports]
  · simp only [hrequested]

/-- Sensor failures and unreadable drives are the same in both stores where they are asked for. -/
theorem hardwareHealth_agree (h : AgreeFor flags raw raw') (info : SystemInfo) :
    hardwareHealth info flags raw = hardwareHealth info flags raw' := by
  refine hardwareHealth_congr (fun hrequested => ?_) fun hrequested => ?_
  · have hagree := agree_of_requested (i := 0) h rfl hrequested
    have hfailure : ∀ store : EvidenceStore, sensorFailure store =
        ((store.records.any fun r => decide (r.source = .sysfsHwmon) && decide (r.status = .failed)) ||
          store.records.any fun r => decide (r.source = .sysfsThermal) && decide (r.status = .failed)) := by
      intro store
      rw [sensorFailure, Bool.eq_iff_iff, Bool.or_eq_true, List.any_eq_true, List.any_eq_true,
        List.any_eq_true, ← exists_or]
      simp only [Bool.and_eq_true, Bool.or_eq_true, and_or_left, or_and_right]
    rw [hfailure, hfailure, any_of_getAll (hagree.every .sysfsHwmon List.mem_cons_self),
      any_of_getAll (hagree.every .sysfsThermal (List.mem_cons_of_mem _ List.mem_cons_self))]
  · have hagree := agree_of_requested (i := 8) h rfl hrequested
    exact any_of_getAll (hagree.every .storageHealthSysfs List.mem_cons_self) _

/-- **Locality of a run**: two stores that agree on the sources of the requested domains give the same
system, apart from the list of observations. -/
theorem runReplay_agree (h : AgreeFor flags raw raw') :
    (runReplay (sysalParsers parse found) clock raw flags).map withoutObservations =
      (runReplay (sysalParsers parse found) clock raw' flags).map withoutObservations := by
  have hcpu : has flags Collect.cpu → raw.getAll .sysfsCpu = raw'.getAll .sysfsCpu :=
    fun hrequested => (agree_of_requested (i := 2) h rfl hrequested).every .sysfsCpu
      List.mem_cons_self
  have hresolve : ∀ result, resolveDomains flags raw result = resolveDomains flags raw' result := by
    intro result
    simp only [resolveDomains, hardwareHealth_agree h]
  simp only [runReplay, parseDomains_agree h, hresolve, h.request]
  split
  · rfl
  · simp only [Except.map, withoutObservations, inventoryReports_congr h.enumeration hcpu]

end Pipeline

open Pipeline

/-- **Locality of a replay**: two stores that agree on the sources of the requested domains are
replayed to the same outcome, apart from the list of observations. -/
theorem replay_agree {clock : Clock} {flags : Collect} {raw raw' : RawStore}
    (h : AgreeFor flags raw.evidence raw'.evidence) :
    (replay parse clock raw flags).map (Except.map withoutObservations) =
      (replay parse clock raw' flags).map (Except.map withoutObservations) := by
  have hcollect : ∀ found,
      (collectFromRaw (sysalParsers parse found) clock raw flags).map withoutObservations =
        (collectFromRaw (sysalParsers parse found) clock raw' flags).map withoutObservations := by
    intro found
    rw [collectFromRaw, collectFromRaw]
    split
    · rfl
    · exact runReplay_agree h
  rw [replay, replay]
  split
  · rename_i hrequested
    have hflag := (Bool.and_eq_true _ _ ▸ hrequested).1
    have hagree := agree_of_requested (i := 6) h rfl hflag
    rw [(parseAccelerator_agree hagree.successful
      (hagree.every .sysfsDrm List.mem_cons_self)).1, Option.map_map, Option.map_map]
    refine congrArg (fun f => Option.map f _) ?_
    funext found
    exact hcollect found
  · rw [Option.map_some, Option.map_some, hcollect]

/-- A successful record of a source. -/
def plainRecord (source : RawSource) (path payload : Bytes) : RawRecord :=
  ⟨⟨source, path, payload, .success, none, none⟩, 0⟩

/-- The host name alone, and the host name among records of other domains. -/
def hostOnly : RawStore :=
  { records := [plainRecord .procHostname (utf8 "/proc/sys/kernel/hostname") (utf8 "node1\n")] }

def hostAmongOthers : RawStore :=
  { records :=
      [plainRecord .procMemInfo (utf8 "/proc/meminfo") (utf8 "MemTotal: 1024 kB\n"),
       plainRecord .procHostname (utf8 "/proc/sys/kernel/hostname") (utf8 "node1\n"),
       { source := .procVersion, pathOrCommand := utf8 "uname", payload := [], status := .failed }] }

/-- Only the footprint of the platform is asked for. -/
theorem agreeFor_host : AgreeFor Collect.platform hostOnly.evidence hostAmongOthers.evidence := by
  refine ⟨rfl, fun _ => rfl, fun entry hentry hrequested => ?_, fun hrequested => absurd hrequested
    (by decide)⟩
  have hplatform : ∀ entry ∈ footprints, has Collect.platform entry.1 →
      (∀ source ∈ entry.2.successful,
        hostOnly.evidence.successes source = hostAmongOthers.evidence.successes source) ∧
      ∀ source ∈ entry.2.every,
        hostOnly.evidence.getAll source = hostAmongOthers.evidence.getAll source := by
    decide +kernel
  obtain ⟨hsuccessful, hevery⟩ := hplatform entry hentry hrequested
  exact ⟨hsuccessful, hevery⟩

theorem replay_agree_host :
    (replay (fun _ => none) ⟨0, default⟩ hostOnly Collect.platform).map
        (Except.map withoutObservations) =
      (replay (fun _ => none) ⟨0, default⟩ hostAmongOthers Collect.platform).map
        (Except.map withoutObservations) :=
  replay_agree agreeFor_host

end Sysal
