import Sysal.Reader.Machine

/-!
# Reading procfs, commands and the environment

`procfs.cpp` of the Linux reader as a list of steps.  Some sources belong to two domains: a step of the
second one is then run unless the first one is requested.

* `readProcfs`: the steps one after another.
-/

namespace Sysal.ProcfsReader

open AcceleratorReader CommandReader FilesystemsReader ReadingStep

variable (m : Machine)

/-- `read_uname`: one call, two records. -/
def readUname : List RawEvidence :=
  match m.uname with
  | some buf =>
      [⟨.uname, utf8 "uname", buf.machine, .success, none, none⟩,
        ⟨.procVersion, utf8 "uname", buf.release ++ 10 :: buf.version, .success, none, none⟩]
  | none =>
      [⟨.uname, utf8 "uname", [], .failed, none, none⟩,
        ⟨.procVersion, utf8 "uname", [], .failed, none, none⟩]

/-- `read_hostname`. -/
def readHostname : RawEvidence :=
  match m.hostname with
  | some name => ⟨.procHostname, utf8 "gethostname", name, .success, none, none⟩
  | none => ⟨.procHostname, utf8 "gethostname", [], .failed, none, none⟩

/-- The marker file of a container. -/
def readDockerenv : List RawEvidence :=
  let path := utf8 "/.dockerenv"
  let (marker, failure) := pathExists m.tree .rootDockerenv path
  failure ++
    match marker with
    | some true =>
        [⟨.rootDockerenv, path, (m.tree.readFile path).toOption.getD [], .success, none, none⟩]
    | some false => [⟨.rootDockerenv, path, [], .notCollected, none, none⟩]
    | none => []

/-- `read_ifaddrs`. -/
def readIfaddrs : RawEvidence :=
  match m.interfaces with
  | none => ⟨.ifAddrs, utf8 "getifaddrs", [], .failed, none, none⟩
  | some interfaces =>
      let payload := interfaces.flatMap fun (name, address) =>
        match address with
        | some text => name ++ 32 :: text ++ [10]
        | none => []
      ⟨.ifAddrs, utf8 "getifaddrs", payload, if payload = [] then .notCollected else .success, none, none⟩

/-- `read_filesystems` on the mounts of a store. -/
def filesystemRecords (policy : FilesystemQuery) (raw : EvidenceStore) : Option (List RawEvidence) :=
  let queries := filesystemQueries m.statistics m.dumped policy raw
  if queries.all fun q => (m.json.dump (-1) q.payload).isSome then some (queries.map (·.record))
  else none

/-! ### Steps -/

theorem ofSources_readUname : OfSources [.uname, .procVersion] (readUname m) := by
  rw [readUname]
  split <;> exact .cons List.mem_cons_self (.cons (List.mem_cons_of_mem _ List.mem_cons_self) .nil)

theorem ofSources_readHostname : OfSources [.procHostname] [readHostname m] := by
  rw [readHostname]
  split <;> exact .cons (List.mem_singleton_self _) .nil

theorem ofSources_readDockerenv : OfSources [.rootDockerenv] (readDockerenv m) := by
  have h : RawSource.rootDockerenv ∈ [RawSource.rootDockerenv] := List.mem_singleton_self _
  refine .append (ofSources_pathExists m.tree h _) ?_
  split
  · exact .cons h .nil
  · exact .cons h .nil
  · exact .nil

theorem ofSources_readIfaddrs : OfSources [.ifAddrs] [readIfaddrs m] := by
  rw [readIfaddrs]
  split <;> exact .cons (List.mem_singleton_self _) .nil

theorem ofSources_filesystemRecords (policy : FilesystemQuery) (raw : EvidenceStore) :
    ∀ records ∈ filesystemRecords m policy raw, OfSources [.filesystemUsage] records := by
  intro records h
  rw [filesystemRecords] at h
  split at h
  · rw [← Option.some.inj h]
    intro record hrecord
    obtain ⟨q, hq, rfl⟩ := List.mem_map.mp hrecord
    obtain ⟨group, -, rfl⟩ := List.mem_map.mp hq
    exact List.mem_singleton.mpr (query_record _ _ policy group).1
  · cases h

theorem ofSources_readCgroupLimits (tree : FileTree) :
    OfSources [.cgroupMountInfo, .cgroupFile] (readCgroupLimits tree) := by
  have hfile : ∀ mount current leaf name, ∀ record ∈ CgroupReader.readLimitFile tree mount current leaf name,
      record.source ∈ [RawSource.cgroupMountInfo, .cgroupFile] := by
    intro mount current leaf name record h
    have hsource : RawSource.cgroupFile ∈ [RawSource.cgroupMountInfo, .cgroupFile] :=
      List.mem_cons_of_mem _ List.mem_cons_self
    rw [CgroupReader.readLimitFile] at h
    split at h
    · cases h
    · split at h
      · cases h
      · dsimp only at h
        split at h
        · rw [← Option.some.inj h]
          exact hsource
        · split at h
          · rw [← Option.some.inj h]
            exact hsource
          · rw [← Option.some.inj h]
            exact hsource
  rw [readCgroupLimits]
  split
  · refine .cons List.mem_cons_self (.flatMap fun hierarchy _ => .flatMap fun level _ => ?_)
    intro record hrecord
    obtain ⟨name, -, hname⟩ := List.mem_filterMap.mp hrecord
    exact hfile _ _ _ _ record hname
  · exact .nil

/-- A reader that does not fail. -/
def records (mask : Collect) (sources : List RawSource) (records : List RawEvidence)
    (h : OfSources sources records) : ReadingStep :=
  .always mask 0 sources (some records) fun _ hrecords => by
    rw [← Option.some.inj hrecords]
    exact h

/-- The backends of the accelerators. -/
def backends (mask without : Collect) : ReadingStep :=
  .always mask without [.nvml, .sysfsDrm, .acceleratorRuntime]
    (readAcceleratorBackends m.json m.tree m.vendors) fun _ h => ofSources_readAcceleratorBackends h

/-- The devices of `nvidia-smi`. -/
def nvidiaSmi (mask without : Collect) : ReadingStep :=
  command m mask without .nvidiaSmi ("nvidia-smi --query-gpu=index,name,memory.total," ++
    "pci.bus_id,driver_version,uuid --format=csv,noheader")

def platformSteps : List ReadingStep :=
  let here := Collect.platform
  [file m here 0 .procCpuInfo "/proc/cpuinfo",
    records here [.uname, .procVersion] (readUname m) (ofSources_readUname m),
    file m here 0 .etcOsRelease "/etc/os-release",
    records here [.procHostname] [readHostname m] (ofSources_readHostname m),
    records here [.rootDockerenv] (readDockerenv m) (ofSources_readDockerenv m)]

def cpuSteps : List ReadingStep :=
  [file m Collect.cpu Collect.platform .procCpuInfo "/proc/cpuinfo"]

def memorySteps : List ReadingStep :=
  [file m Collect.memory 0 .procMemInfo "/proc/meminfo",
    command m Collect.memory 0 .udevadm "udevadm info -e"]

def acceleratorSteps : List ReadingStep :=
  [backends m Collect.accelerator 0, command m Collect.accelerator 0 .nvidiaMigList "nvidia-smi -L",
    nvidiaSmi m Collect.accelerator 0]

def networkSteps : List ReadingStep :=
  [command m Collect.network 0 .lspci "lspci -nn",
    records Collect.network [.ifAddrs] [readIfaddrs m] (ofSources_readIfaddrs m),
    file m Collect.network 0 .procNetVlan "/proc/net/vlan/config"]

/-- The mount table, and the file systems of the table that was just read. -/
def mountTable : ReadingStep := file m Collect.storage 0 .storageMountInfo "/proc/self/mountinfo"

def filesystems (policy : FilesystemQuery) : ReadingStep where
  mask := Collect.storage
  sources := [.filesystemUsage]
  adds := filesystemRecords m policy
  ofSources := ofSources_filesystemRecords m policy

def storageSteps (policy : FilesystemQuery) : List ReadingStep := [mountTable m, filesystems m policy]

def pciSteps : List ReadingStep :=
  [command m (Collect.pci ||| Collect.storage) Collect.network .lspci "lspci -nn"]

def softwareSteps : List ReadingStep :=
  let here := Collect.software
  let run := command m here 0
  [run .nvcc "nvcc --version", backends m here Collect.accelerator,
    nvidiaSmi m here Collect.accelerator,
    run .nvccPath "readlink -f $(command -v nvcc 2>/dev/null)", run .cudaHome "printenv CUDA_HOME"] ++
    ["gcc", "g++", "clang", "clang++", "gfortran"].flatMap (fun cc =>
      [run .compilerVersion (cc ++ " --version"), run .compilerPath ("command -v " ++ cc),
        run .compilerTarget (cc ++ " -dumpmachine")]) ++
    [run .mpiVersion "mpirun --version", run .mpiPath "command -v mpirun",
      run .ibverbsVersion "pkg-config --modversion libibverbs",
      run .ibverbsLibdir "pkg-config --variable=libdir libibverbs",
      run .ucxVersion "pkg-config --modversion ucx", run .rocmVersion "hipconfig --version",
      run .rocmVersion "command -v hipconfig", file m here 0 .rocmVersion "/opt/rocm/.info/version",
      file m here 0 .rocmVersion "/opt/rocm/.info/version-dev"] ++
    ["level-zero", "ze_loader", "OpenCL", "openblas", "blas", "lapack", "fftw3", "libfabric",
      "hwloc"].flatMap fun library =>
        [run .packageLibrary ("pkg-config --modversion " ++ library),
          run .packageLibrary ("pkg-config --variable=libdir " ++ library)]

def executionSteps : List ReadingStep :=
  let here := Collect.execution
  [records here [.cgroupMountInfo, .cgroupFile] (readCgroupLimits m.fileTree)
      (ofSources_readCgroupLimits _),
    file m here 0 .procSelfCgroup "/proc/self/cgroup", file m here 0 .procSelfStatus "/proc/self/status",
    file m here 0 .procOneCgroup "/proc/1/cgroup",
    records here [.environment] [readEnvVars m.getenv environmentNames]
      (.cons (List.mem_singleton_self _) .nil)]

/-- The steps in front of the file systems, and those behind. -/
def stepsBefore : List ReadingStep :=
  platformSteps m ++ cpuSteps m ++ memorySteps m ++ acceleratorSteps m ++ networkSteps m

def stepsAfter : List ReadingStep := pciSteps m ++ softwareSteps m ++ executionSteps m

/-- `read_procfs`. -/
def readProcfs (flags : Collect) (options : CollectOptions) (raw : EvidenceStore) :
    Option EvidenceStore :=
  run flags (stepsBefore m ++ storageSteps m options.filesystems ++ stepsAfter m) raw

end Sysal.ProcfsReader
