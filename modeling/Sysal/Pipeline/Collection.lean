import Sysal.Pipeline.Replay
import Sysal.Reader.Procfs
import Sysal.Reader.StorageHealth
import Sysal.Reader.Sysfs
import Sysal.Reader.SysfsDevices

/-!
# A collection from the machine

The reader stage of `run_pipeline`: the steps of procfs and those of sysfs.  Some sources serve several
domains, and a step stands in for another one where only the second domain is requested.

* `collectRaw_records`: **what a collection holds**, the records of the steps that are run, with the file
  systems of the mount table that was just read;
* `getAll_collectRaw`: **every source once**, a source is read if and only if one of its domains is
  requested, and then its records are the same whatever else is;
* `collectRaw_sources`: two collections from one machine.
-/

namespace Sysal

open ReadingStep ProcfsReader SysfsReader SensorReader FilesystemsReader

/-! ### The readers of sysfs -/

section Readers

variable (m : Machine) (options : CollectOptions)

theorem ofSources_healthRecords (tree : SysTree) (parse : Bytes → Option Json)
    (execute : Bytes → CommandReader.CommandResult) :
    OfSources [.storageHealthSysfs, .smartctl, .nvmeSmartLog]
      (StorageHealthReader.healthRecords tree parse execute) := by
  have h : RawSource.storageHealthSysfs ∈ [RawSource.storageHealthSysfs, .smartctl, .nvmeSmartLog] :=
    List.mem_cons_self
  have hsmartctl : RawSource.smartctl ∈ [RawSource.storageHealthSysfs, .smartctl, .nvmeSmartLog] := by
    decide
  have hnvme : RawSource.nvmeSmartLog ∈ [RawSource.storageHealthSysfs, .smartctl, .nvmeSmartLog] := by
    decide
  refine .append (.append (.append (.append (ofSources_directoryFailure h _ _) ?_) ?_)
    (.flatMap fun drive _ => .cons h (.ite (.cons hsmartctl (.cons hnvme .nil))
      (.cons hsmartctl .nil)))) (.ite (.cons h .nil) .nil)
  · intro record hrecord
    obtain ⟨name, -, hname⟩ := List.mem_filterMap.mp hrecord
    rw [StorageHealthReader.blockRecord] at hname
    split at hname
    · cases hname
    · rw [← Option.some.inj hname]
      exact h
    · rw [← Option.some.inj hname]
      exact h
    · rw [← Option.some.inj hname]
      exact h
  · split
    · exact .cons h .nil
    · exact .nil

/-- The dispatch table of sysfs, and the sensors behind it. -/
def sysfsSteps : List ReadingStep :=
  [{ records Collect.cpu [.sysfsCpu] (readCpuSysfs m.tree) ofSources_readCpuSysfs with
      enumerations := [cpuEnumeration m.tree] },
    { records (Collect.cpu ||| Collect.memory) [.sysfsNuma] (readNumaSysfs m.tree)
        ofSources_readNumaSysfs with
      enumerations := [nodeEnumeration m.tree] },
    { records Collect.network [.sysfsNet, .ethtool] (readNetSysfs m.tree m.execute)
        ofSources_readNetSysfs with
      enumerations := [netEnumeration m.tree] },
    records Collect.network [.sysfsRdma] (readRdmaSysfs m.tree) ofSources_readRdmaSysfs,
    { records Pipeline.pciMask [.sysfsPci] (readPciSysfs m.tree) ofSources_readPciSysfs with
      enumerations := [pciEnumeration m.tree] },
    { records Pipeline.storageMask [.sysfsBlock] (readBlockSysfs m.tree) ofSources_readBlockSysfs with
      enumerations := [blockEnumeration m.tree] },
    records Pipeline.storageMask [.sysfsStorageConnections] (readStorageConnections m.tree)
      ofSources_readStorageConnections,
    records Collect.platform [.sysfsDmi] (readDmiSysfs m.tree) ofSources_readDmiSysfs,
    records Collect.platform [.sysHypervisor] (readHypervisorType m.tree)
      ofSources_readHypervisorType,
    records Collect.memory [.sysfsEdac] (readEdacSysfs m.tree) ofSources_readEdacSysfs,
    records Collect.storageHealth [.storageHealthSysfs, .smartctl, .nvmeSmartLog]
      (StorageHealthReader.healthRecords m.tree m.json.parse m.execute) (ofSources_healthRecords _ _ _),
    .always Collect.sensors 0 [.sysfsHwmon] (scan m.tree hwmonBase .sysfsHwmon options.sensors)
      fun _ h => ofSources_scan h,
    .always Collect.sensors 0 [.sysfsThermal] (readThermalSensors m.tree options.sensors)
      fun _ h => ofSources_scan h,
    .always Collect.cpu Collect.sensors [.sysfsThermal] (readThermalSensors m.tree options.sensors)
      fun _ h => ofSources_scan h]

/-- Where sensors are requested, their two steps are `read_sensors`. -/
theorem run_sensorSteps {flags : Collect} (h : has flags Collect.sensors = true) (raw : EvidenceStore) :
    run flags [.always Collect.sensors 0 [.sysfsHwmon] (scan m.tree hwmonBase .sysfsHwmon options.sensors)
        fun _ h => ofSources_scan h,
      .always Collect.sensors 0 [.sysfsThermal] (readThermalSensors m.tree options.sensors)
        fun _ h => ofSources_scan h] raw =
      (readSensors m.tree options.sensors).map fun records =>
        { raw with records := raw.records ++ records } := by
  have henabled : (has flags Collect.sensors && !has flags 0) = true := by
    rw [h, Bool.true_and, has]
    simp
  simp only [run, List.foldlM_cons, List.foldlM_nil, ReadingStep.read, ReadingStep.enabled,
    ReadingStep.always, henabled, if_true, readSensors]
  cases scan m.tree hwmonBase .sysfsHwmon options.sensors with
  | none => rfl
  | some hwmon =>
      cases readThermalSensors m.tree options.sensors with
      | none => rfl
      | some thermal => simp

/-- `read_sysfs`. -/
def readSysfs (flags : Collect) (raw : EvidenceStore) : Option EvidenceStore :=
  run flags (sysfsSteps m options) raw

/-- The reader stage of `run_pipeline`, unless it throws. -/
def collectRaw (flags : Collect) : Option EvidenceStore :=
  (readProcfs m flags options { collectionRequest := some { flags, options } }).bind
    (readSysfs m options flags)

end Readers

namespace Collection

/-- The steps of a collection. -/
def steps (m : Machine) (options : CollectOptions) : List ReadingStep :=
  stepsBefore m ++ storageSteps m options.filesystems ++ stepsAfter m ++ sysfsSteps m options

/-- The store the file systems are asked on: the mount table alone. -/
def mounted (m : Machine) : EvidenceStore :=
  { records := [readFileRecord m.tree .storageMountInfo (utf8 "/proc/self/mountinfo")] }

/-- What the enabled ones of some steps add. -/
def enabledRecords (m : Machine) (flags : Collect) (steps : List ReadingStep) : List RawEvidence :=
  (steps.filter (·.enabled flags)).flatMap (recordsOn (mounted m))

variable {m : Machine} {options : CollectOptions} {flags : Collect} {raw raw' : EvidenceStore}

/-! ### Steps that do not look at the store -/

theorem static_stepsBefore : ∀ step ∈ stepsBefore m, step.Static := by
  simp only [stepsBefore, platformSteps, cpuSteps, memorySteps, acceleratorSteps, networkSteps,
    List.forall_mem_append, List.forall_mem_cons]
  repeat' apply And.intro
  all_goals first | exact always_static | exact List.forall_mem_nil _

theorem static_stepsAfter : ∀ step ∈ stepsAfter m, step.Static := by
  simp only [stepsAfter, pciSteps, softwareSteps, executionSteps, List.flatMap_cons, List.flatMap_nil,
    List.forall_mem_append, List.forall_mem_cons]
  repeat' apply And.intro
  all_goals first | exact always_static | exact List.forall_mem_nil _

theorem static_sysfsSteps : ∀ step ∈ sysfsSteps m options, step.Static := by
  simp only [sysfsSteps, List.forall_mem_cons]
  repeat' apply And.intro
  all_goals first | exact fun _ _ => rfl | exact List.forall_mem_nil _

/-! ### The records of a collection -/

theorem collectRaw_eq_run :
    collectRaw m options flags =
      run flags (steps m options) { collectionRequest := some { flags, options } } := by
  rw [collectRaw, readProcfs, steps, run_append flags _ (sysfsSteps m options)]
  rfl

/-- The mount table is not read in front of the file systems. -/
theorem unmounted_stepsBefore :
    ∀ step ∈ stepsBefore m, .storageMountInfo ∉ step.sources := by
  simp only [stepsBefore, platformSteps, cpuSteps, memorySteps, acceleratorSteps, networkSteps,
    backends, nvidiaSmi, command, file, records, always, List.forall_mem_append, List.forall_mem_cons]
  repeat' apply And.intro
  all_goals decide

/-- The file systems are those of the mount table that was just read. -/
theorem run_storageSteps {policy : FilesystemQuery} (hnone : raw.getAll .storageMountInfo = [])
    (h : run flags (storageSteps m policy) raw = some raw') :
    raw'.records = raw.records ++ enabledRecords m flags (storageSteps m policy) := by
  rw [storageSteps, run_cons] at h
  obtain ⟨next, hnext, h⟩ := Option.bind_eq_some_iff.mp h
  rw [run_cons] at h
  obtain ⟨last, hlast, h⟩ := Option.bind_eq_some_iff.mp h
  rw [← Option.some.inj h]
  rw [ReadingStep.read] at hnext hlast
  rw [enabledRecords, storageSteps]
  by_cases henabled : (mountTable m).enabled flags = true
  · have hsame : (filesystems m policy).enabled flags = true := henabled
    rw [if_pos henabled] at hnext
    rw [if_pos hsame] at hlast
    have hrecords : next.records = raw.records ++ (mounted m).records := by
      rw [← Option.some.inj hnext]
      rfl
    have hmounts : next.successes .storageMountInfo = (mounted m).successes .storageMountInfo := by
      rw [EvidenceStore.getAll] at hnone
      rw [EvidenceStore.successes, EvidenceStore.getAll, hrecords, List.filter_append, hnone,
        List.nil_append]
      rfl
    have hadds : (filesystems m policy).adds next = (filesystems m policy).adds (mounted m) := by
      show filesystemRecords m policy next = filesystemRecords m policy (mounted m)
      rw [filesystemRecords, filesystemRecords, filesystemQueries, filesystemQueries, parsedMounts,
        parsedMounts, hmounts]
    obtain ⟨found, hfound, rfl⟩ := Option.map_eq_some_iff.mp hlast
    have htable : recordsOn (mounted m) (mountTable m) = (mounted m).records := rfl
    have hsystems : recordsOn (mounted m) (filesystems m policy) = found := by
      rw [recordsOn, ← hadds, hfound]
      rfl
    simp [henabled, hsame, htable, hsystems, hrecords]
  · have hsame : ¬(filesystems m policy).enabled flags = true := henabled
    rw [if_neg henabled] at hnext
    rw [if_neg hsame] at hlast
    rw [← Option.some.inj hlast, ← Option.some.inj hnext]
    simp [henabled, hsame]

/-- **What a collection holds**: the records of the steps that are run, one after another, and the file
systems are asked for on the mount table alone. -/
theorem collectRaw_records (h : collectRaw m options flags = some raw) :
    raw.records = enabledRecords m flags (steps m options) := by
  rw [collectRaw_eq_run, steps, run_append, run_append, run_append] at h
  obtain ⟨third, h, hsysfs⟩ := Option.bind_eq_some_iff.mp h
  obtain ⟨second, h, hafter⟩ := Option.bind_eq_some_iff.mp h
  obtain ⟨first, hbefore, hstorage⟩ := Option.bind_eq_some_iff.mp h
  have hnone : first.getAll .storageMountInfo = [] := by
    rw [EvidenceStore.getAll, List.filter_eq_nil_iff]
    intro record hrecord hof
    rcases source_of_run hbefore record hrecord with hold | ⟨step, hstep, -, hsource⟩
    · cases hold
    · rw [of_decide_eq_true hof] at hsource
      exact unmounted_stepsBefore step hstep hsource
  have hmount := run_storageSteps hnone hstorage
  obtain ⟨-, rfl⟩ := run_static static_stepsBefore (mounted m) hbefore
  obtain ⟨-, rfl⟩ := run_static static_stepsAfter (mounted m) hafter
  obtain ⟨-, rfl⟩ := run_static static_sysfsSteps (mounted m) hsysfs
  dsimp only
  rw [hmount, enabledRecords, enabledRecords, steps]
  simp [List.filter_append, List.flatMap_append]

/-! ### What a request asks for -/

/-- The domains a source is collected for. -/
def demand : RawSource → Collect
  | .procCpuInfo => Collect.platform ||| Collect.cpu
  | .uname | .procVersion | .etcOsRelease | .procHostname | .rootDockerenv | .sysfsDmi
  | .sysHypervisor => Collect.platform
  | .procMemInfo | .udevadm | .sysfsEdac => Collect.memory
  | .nvml | .sysfsDrm | .acceleratorRuntime | .nvidiaSmi => Collect.accelerator ||| Collect.software
  | .nvidiaMigList => Collect.accelerator
  | .lspci => Collect.network ||| (Collect.pci ||| Collect.storage)
  | .ifAddrs | .procNetVlan | .sysfsNet | .ethtool | .sysfsRdma => Collect.network
  | .storageMountInfo | .filesystemUsage => Collect.storage
  | .nvcc | .nvccPath | .cudaHome | .compilerVersion | .compilerPath | .compilerTarget | .mpiVersion
  | .mpiPath | .ibverbsVersion | .ibverbsLibdir | .ucxVersion | .rocmVersion | .packageLibrary =>
      Collect.software
  | .cgroupMountInfo | .cgroupFile | .procSelfCgroup | .procSelfStatus | .procOneCgroup
  | .environment => Collect.execution
  | .sysfsCpu => Collect.cpu
  | .sysfsNuma => Collect.cpu ||| Collect.memory
  | .sysfsPci => Pipeline.pciMask
  | .sysfsBlock | .sysfsStorageConnections => Pipeline.storageMask
  | .storageHealthSysfs | .smartctl | .nvmeSmartLog => Collect.storageHealth
  | .sysfsHwmon => Collect.sensors
  | .sysfsThermal => Collect.sensors ||| Collect.cpu
  | .lsblk | .ibverbs | .hwinfoOutput | .dfTh => 0

/-! ### One source -/

/-- The steps that read a source. -/
def readersOf (source : RawSource) (steps : List ReadingStep) : List ReadingStep :=
  steps.filter fun step => source ∈ step.sources

/-- What a step adds of a source. -/
def share (m : Machine) (source : RawSource) (step : ReadingStep) : List RawEvidence :=
  (recordsOn (mounted m) step).filter (·.source = source)

theorem share_eq_nil {source : RawSource} {step : ReadingStep} (h : source ∉ step.sources) :
    share m source step = [] := by
  rw [share, List.filter_eq_nil_iff]
  intro record hrecord hof
  rw [recordsOn] at hrecord
  cases hadds : step.adds (mounted m) with
  | none =>
      rw [hadds] at hrecord
      cases hrecord
  | some records =>
      rw [hadds] at hrecord
      have hsource := step.ofSources (mounted m) records hadds record hrecord
      rw [of_decide_eq_true hof] at hsource
      exact h hsource

/-- The records of a source are those its own readers add. -/
theorem filter_enabledRecords (source : RawSource) (steps : List ReadingStep) :
    (enabledRecords m flags steps).filter (·.source = source) =
      ((readersOf source steps).filter (·.enabled flags)).flatMap (share m source) := by
  induction steps with
  | nil => rfl
  | cons step steps ih =>
      have hcons : enabledRecords m flags (step :: steps) =
          (if step.enabled flags then recordsOn (mounted m) step else []) ++
            enabledRecords m flags steps := by
        rw [enabledRecords, enabledRecords]
        by_cases henabled : step.enabled flags = true <;> simp [henabled]
      rw [hcons, List.filter_append, ih, readersOf, readersOf]
      by_cases hsource : source ∈ step.sources
      · by_cases henabled : step.enabled flags = true
        · simp [hsource, henabled, share]
        · simp [hsource, henabled]
      · have hnil := share_eq_nil (m := m) hsource
        rw [share] at hnil
        by_cases henabled : step.enabled flags = true
        · simp [hsource, henabled, hnil]
        · simp [hsource, henabled]

/-- A source whose records depend on nothing but whether one of its domains is requested. -/
def Steady (m : Machine) (options : CollectOptions) (source : RawSource) : Prop :=
  ∃ stream : List RawEvidence, ∀ flags,
    (enabledRecords m flags (steps m options)).filter (·.source = source) =
      if has flags (demand source) then stream else []

/-- The sources of two domains, with a step of the second one that stands in for the first one's. -/
def shared : List RawSource :=
  [.procCpuInfo, .lspci, .nvml, .sysfsDrm, .acceleratorRuntime, .nvidiaSmi, .sysfsThermal]

/-- Every reader of a source that is not shared is run for all its domains. -/
def Sole (step : ReadingStep) : Prop :=
  ∀ source ∈ step.sources, source ∉ shared → step.mask = demand source ∧ step.without = 0

theorem sole_procfs (policy : FilesystemQuery) :
    ∀ step ∈ stepsBefore m ++ storageSteps m policy ++ stepsAfter m, Sole step := by
  simp only [stepsBefore, platformSteps, cpuSteps, memorySteps, acceleratorSteps, networkSteps,
    storageSteps, mountTable, filesystems, stepsAfter, pciSteps, softwareSteps, executionSteps, backends,
    nvidiaSmi, command, file, records, always, List.flatMap_cons, List.flatMap_nil,
    List.forall_mem_append, List.forall_mem_cons, Sole]
  repeat' apply And.intro
  all_goals decide

theorem sole_sysfs : ∀ step ∈ sysfsSteps m options, Sole step := by
  simp only [sysfsSteps, records, always, List.forall_mem_cons, Sole]
  repeat' apply And.intro
  all_goals decide

theorem steady_of_not_shared {source : RawSource} (h : source ∉ shared) : Steady m options source := by
  refine ⟨(readersOf source (steps m options)).flatMap (share m source), fun flags => ?_⟩
  rw [filter_enabledRecords]
  have henabled : ∀ step ∈ readersOf source (steps m options),
      step.enabled flags = has flags (demand source) := by
    intro step hstep
    obtain ⟨hmem, hsource⟩ := List.mem_filter.mp hstep
    have hsole : Sole step := by
      rcases List.mem_append.mp hmem with hprocfs | hsysfs
      · exact sole_procfs _ step hprocfs
      · exact sole_sysfs step hsysfs
    obtain ⟨hmask, hwithout⟩ := hsole source (of_decide_eq_true hsource) h
    have hzero : has flags 0 = false := by
      simp [has]
    rw [enabled, hmask, hwithout, hzero, Bool.not_false, Bool.and_true]
  rw [List.filter_congr henabled]
  split
  · rename_i hdemand
    simp [hdemand]
  · rename_i hdemand
    simp [hdemand]

theorem has_or (flags a b : Collect) : has flags (a ||| b) = (has flags a || has flags b) := by
  have hsplit : flags &&& (a ||| b) = flags &&& a ||| flags &&& b := by
    apply UInt32.toBitVec_inj.mp
    simp only [UInt32.toBitVec_and, UInt32.toBitVec_or]
    exact BitVec.and_or_distrib_left
  rw [has, has, has, hsplit, Bool.eq_iff_iff]
  simp [← not_and_or]

/-- A step and its stand-in add the same records, and one of them is run for both domains. -/
theorem steady_of_pair (main standIn : ReadingStep) {source : RawSource}
    (hreaders : readersOf source (steps m options) = [main, standIn])
    (hmain : main.without = 0) (hstandIn : standIn.without = main.mask)
    (hdemand : demand source = main.mask ||| standIn.mask)
    (hadds : standIn.adds = main.adds) : Steady m options source := by
  refine ⟨share m source main, fun flags => ?_⟩
  have hshare : share m source standIn = share m source main := by
    rw [share, share, recordsOn, recordsOn, hadds]
  rw [filter_enabledRecords, hreaders, hdemand, has_or]
  have hzero : has flags 0 = false := by
    simp [has]
  have hfirst : main.enabled flags = has flags main.mask := by
    rw [enabled, hmain, hzero, Bool.not_false, Bool.and_true]
  have hsecond : standIn.enabled flags = (has flags standIn.mask && !has flags main.mask) := by
    rw [enabled, hstandIn]
  cases hm : has flags main.mask <;> cases hs : has flags standIn.mask <;>
    simp [hfirst, hsecond, hm, hs, hshare]

theorem steady (m : Machine) (options : CollectOptions) (source : RawSource) :
    Steady m options source := by
  by_cases h : source ∉ shared
  · exact steady_of_not_shared h
  · rw [not_not] at h
    simp only [shared, List.mem_cons, List.not_mem_nil, or_false] at h
    rcases h with rfl | rfl | rfl | rfl | rfl | rfl | rfl
    · exact steady_of_pair (file m Collect.platform 0 .procCpuInfo "/proc/cpuinfo")
        (file m Collect.cpu Collect.platform .procCpuInfo "/proc/cpuinfo") rfl rfl rfl rfl rfl
    · exact steady_of_pair (command m Collect.network 0 .lspci "lspci -nn")
        (command m (Collect.pci ||| Collect.storage) Collect.network .lspci "lspci -nn")
        rfl rfl rfl rfl rfl
    · exact steady_of_pair (backends m Collect.accelerator 0)
        (backends m Collect.software Collect.accelerator) rfl rfl rfl rfl rfl
    · exact steady_of_pair (backends m Collect.accelerator 0)
        (backends m Collect.software Collect.accelerator) rfl rfl rfl rfl rfl
    · exact steady_of_pair (backends m Collect.accelerator 0)
        (backends m Collect.software Collect.accelerator) rfl rfl rfl rfl rfl
    · exact steady_of_pair (nvidiaSmi m Collect.accelerator 0)
        (nvidiaSmi m Collect.software Collect.accelerator) rfl rfl rfl rfl rfl
    · exact steady_of_pair
        (.always Collect.sensors 0 [.sysfsThermal] (readThermalSensors m.tree options.sensors)
          fun _ h => ofSources_scan h)
        (.always Collect.cpu Collect.sensors [.sysfsThermal]
          (readThermalSensors m.tree options.sensors) fun _ h => ofSources_scan h) rfl rfl rfl rfl rfl

/-- **Every source once**: whether one of its domains is requested decides the records of a source, and
nothing else of the request does. -/
theorem getAll_collectRaw (m : Machine) (options : CollectOptions) (source : RawSource) :
    ∃ stream : List RawEvidence, ∀ flags, ∀ raw ∈ collectRaw m options flags,
      raw.getAll source = if has flags (demand source) then stream else [] := by
  obtain ⟨stream, hstream⟩ := steady m options source
  refine ⟨stream, fun flags raw h => ?_⟩
  rw [EvidenceStore.getAll, collectRaw_records h, hstream]

/-- **The sources of a collection**: one that no requested domain needs is not read, and one that two
requests need has the same records in both. -/
theorem collectRaw_sources {F G : Collect} (hF : collectRaw m options F = some raw)
    (hG : collectRaw m options G = some raw') (source : RawSource) :
    (has F (demand source) = false → raw.getAll source = []) ∧
      (has F (demand source) → has G (demand source) → raw.getAll source = raw'.getAll source) := by
  obtain ⟨stream, hstream⟩ := getAll_collectRaw m options source
  refine ⟨fun hunasked => ?_, fun haskedF haskedG => ?_⟩
  · rw [hstream F raw hF, hunasked, if_neg Bool.false_ne_true]
  · rw [hstream F raw hF, hstream G raw' hG, haskedF, haskedG]

/-- A machine with one PCI device and little else. -/
def bareMachine : Machine where
  tree :=
    { entries := fun _ => ([], some 2)
      canonical := fun _ => .error 2
      existence := fun _ => .ok false
      isDirectory := fun _ => .ok false
      isSymlink := fun _ => .ok false
      readFile := fun _ => .error 2
      readSymlink := fun _ => .error 2 }
  execute := fun command =>
    if command = utf8 "lspci -nn" then
      { status := .success
        exitCode := some 0
        output := utf8 "00:02.0 VGA compatible controller [0300]: Device [1234:1111] (rev 02)\n" }
    else { status := .failed, exitCode := some 127 }
  json := .ofDocument (-1) (.object [])
  vendors :=
    { NvmlHandle := Unit
      nvml :=
        { available := false
          count := none
          handle := none
          name := fun _ => none
          uuid := fun _ => none
          pci := fun _ => none
          memory := fun _ => none
          migCount := fun _ => none
          migHandle := fun _ _ => none
          gpuInstance := fun _ => none
          computeInstance := fun _ => none
          driver := none }
      cuda := none
      hip := fun _ => none
      LevelZeroDriver := Unit
      LevelZeroDevice := Unit
      levelZero := none }
  uname := none
  hostname := none
  interfaces := some [(utf8 "lo", some (utf8 "127.0.0.1"))]
  getenv := fun _ => none
  Descriptor := Unit
  os := fun _ =>
    { openRoot := .error 2
      openAt := fun _ _ _ => .error 2
      filesystemType := fun _ => .error 2
      identity := fun _ => .error 2
      statvfs := fun _ => .error 2 }

/-- The list of PCI devices is read for the network or for the devices themselves. -/
theorem collectRaw_sources_bare :
    ((collectRaw bareMachine {} Collect.network).get (by decide +kernel)).getAll .sysfsHwmon = [] ∧
      ((collectRaw bareMachine {} Collect.network).get (by decide +kernel)).getAll .lspci =
        ((collectRaw bareMachine {} Collect.pci).get (by decide +kernel)).getAll .lspci :=
  have hsources := collectRaw_sources (m := bareMachine) (Option.some_get _).symm (Option.some_get _).symm
  ⟨(hsources .sysfsHwmon).1 (by decide), (hsources .lspci).2 (by decide) (by decide)⟩

end Collection

end Sysal
