import Sysal.Model.Software
import Sysal.Parser.Accelerator

/-!
# Reading the software stack

`software.cpp`: versions scanned out of the output of tools, and the stack assembled from them.  A
record is asked for by its source and by the text of its command, in part (`firstSuccess`) or in full
(`firstSuccessCmd`).
-/

namespace Sysal.SoftwareParser

open Sysal AcceleratorParser

/-! ### Versions in tool output -/

/-- The driver version on one line of `nvidia-smi`: the fifth field. -/
def nvidiaDriverLine (line : Bytes) : Option Bytes :=
  if (trim line).isEmpty then none
  else ((split (trim line) 44)[4]?.map trim).filter (· ≠ [])

/-- `extract_nvidia_driver_version`. -/
def extractNvidiaDriverVersion (payload : Bytes) : Option Bytes :=
  (split payload 10).findSome? nvidiaDriverLine

/-- The release on one line of `nvcc --version`. -/
def cudaVersionLine (line : Bytes) : Option Bytes := do
  let rest ← Bytes.after (trim line) (utf8 "release ")
  let (version, _) ← Bytes.cut rest 44
  if (trim version).isEmpty then none else some (trim version)

/-- `extract_cuda_version`. -/
def extractCudaVersion (payload : Bytes) : Option Bytes :=
  (split payload 10).findSome? cudaVersionLine

/-- Three groups of digits between dots. -/
def isCompilerVersion (token : Bytes) : Bool :=
  let parts := split token 46
  parts.length = 3 && parts.all fun part => !part.isEmpty && part.all isDigit

/-- `extract_compiler_version`: the first token of the first line that looks like a version. -/
def extractCompilerVersion (payload : Bytes) : Option Bytes :=
  match split payload 10 with
  | [] => none
  | line :: _ => ((split (trim line) 32).map trim).find? fun token =>
      !token.isEmpty && isCompilerVersion token

/-- A byte of a version: a digit or a dot. -/
def isVersionByte (c : UInt8) : Bool := isDigit c || c = 46

/-- The scan of `runtime_version`, which jumps over the bytes of a run it has turned down and the byte
after it. -/
def scanVersion : ℕ → Bytes → Option Bytes
  | _, [] => none
  | skip + 1, _ :: rest => scanVersion skip rest
  | 0, c :: rest =>
      if isDigit c then
        let version := c :: rest.takeWhile isVersionByte
        if 46 ∈ version ∧ version.getLast? ≠ some 46 then some version
        else scanVersion version.length rest
      else scanVersion 0 rest

/-- `runtime_version`. -/
def runtimeVersion (value : Bytes) : Option Bytes := scanVersion 0 value

/-- What stands between the first parentheses. -/
def parenthesized (line : Bytes) : Bytes :=
  match Bytes.cut line 40 with
  | none => []
  | some (before, rest) =>
      if 41 ∈ before then []
      else match Bytes.cut rest 41 with
        | some (name, _) => trim name
        | none => []

/-- `extract_mpi_info`: the implementation and the version on the first line. -/
def extractMpiInfo (payload : Bytes) : Option (Bytes × Bytes) :=
  match split payload 10 with
  | [] => none
  | first :: _ =>
      let line := trim first
      let version := match Bytes.rcut line 32 with
        | some (_, version) => version
        | none => line
      if line.isEmpty || (parenthesized line).isEmpty || version.isEmpty then none
      else some (parenthesized line, version)

/-- `derive_cuda_home`: two levels above the compiler. -/
def deriveCudaHome (nvccPath : Bytes) : Bytes :=
  match Bytes.rcut nvccPath 47 with
  | none => nvccPath
  | some (directory, _) =>
      match Bytes.rcut directory 47 with
      | none => directory
      | some (home, _) => home

/-! ### Records -/

/-- `first_success`: the first successful record with the text in its command. -/
def firstSuccess (raw : EvidenceStore) (source : RawSource) (text : Bytes) : Option RawEvidence :=
  (raw.successes source).find? fun record => Bytes.hasSub record.pathOrCommand text

/-- `first_success_cmd`: the first successful record of the command. -/
def firstSuccessCmd (raw : EvidenceStore) (source : RawSource) (cmd : Bytes) :
    Option RawEvidence :=
  (raw.successes source).find? fun record => record.pathOrCommand = cmd

/-- The trimmed payload of a record, empty without one. -/
def payloadText (record : Option RawEvidence) : Bytes :=
  match record with
  | some record => trim record.payload
  | none => []

/-! ### Versions of the NVIDIA stack -/

/-- A string member of a record that holds an object. -/
def objectString (parse : JsonParser) (record : RawEvidence) (key : String) : Option Bytes :=
  (parse record.payload).bind fun value =>
    if value.isObject then (value.field key).bind Json.asStr else none

/-- The driver version NVML reports, the last one when there are several. -/
def nvmlDriverVersion (parse : JsonParser) (raw : EvidenceStore) : Option Bytes :=
  ((raw.successes .nvml).filterMap fun record => objectString parse record "driver_version").getLast?

/-- The driver version: `nvidia-smi`, then NVML. -/
def driverVersion (parse : JsonParser) (raw : EvidenceStore) : Option Bytes × List Bytes :=
  match (raw.successes .nvidiaSmi).head? with
  | none => (nvmlDriverVersion parse raw, [])
  | some record =>
      match extractNvidiaDriverVersion record.payload with
      | some version => (some version, [])
      | none =>
          (nvmlDriverVersion parse raw,
           [utf8 "parse_software: nvidia-smi 输出中未找到 Driver Version"])

/-- The version of CUDA. -/
def cudaVersion (raw : EvidenceStore) : Option Bytes × List Bytes :=
  match (raw.successes .nvcc).head? with
  | none => (none, [])
  | some record =>
      match extractCudaVersion record.payload with
      | some version => (some version, [])
      | none => (none, [utf8 "parse_software: nvcc --version 输出中未找到 release 版本"])

/-! ### ROCm, libraries and accelerator runtimes -/

/-- The path of `hipconfig`, when the shell knows it. -/
def hipconfigPath (raw : EvidenceStore) : Option RawEvidence :=
  firstSuccessCmd raw .rocmVersion (utf8 "command -v hipconfig")

/-- A version file of ROCm: the file and its version. -/
def rocmFile (record : RawEvidence) : Option (Bytes × Bytes) :=
  if Bytes.startsWith record.pathOrCommand (utf8 "command -v") ||
      !Bytes.startsWith record.pathOrCommand (utf8 "/") then none
  else (runtimeVersion record.payload).map fun version => (record.pathOrCommand, version)

/-- ROCm as the first version file describes it. -/
def rocmOfFiles (raw : EvidenceStore) : Option Rocm :=
  ((raw.successes .rocmVersion).findSome? rocmFile).map fun file =>
    { version := file.2
      hipPath := payloadText (hipconfigPath raw)
      rocmPath := if Bytes.startsWith file.1 (utf8 "/opt/rocm/") then utf8 "/opt/rocm" else [] }

/-- The libraries that are looked for, with their kinds. -/
def libraryKinds : List (Bytes × Bytes) :=
  [(utf8 "level-zero", utf8 "GPU"), (utf8 "ze_loader", utf8 "GPU"), (utf8 "OpenCL", utf8 "GPU"),
   (utf8 "openblas", utf8 "BLAS"), (utf8 "blas", utf8 "BLAS"), (utf8 "lapack", utf8 "LAPACK"),
   (utf8 "fftw3", utf8 "FFT"), (utf8 "libfabric", utf8 "Network"), (utf8 "hwloc", utf8 "Topology")]

/-- A library, if the package system knows its version. -/
def findLibrary (raw : EvidenceStore) (entry : Bytes × Bytes) : Option Library :=
  (firstSuccessCmd raw .packageLibrary (utf8 "pkg-config --modversion " ++ entry.1)).map fun version =>
    { name := entry.1
      kind := entry.2
      version := trim version.payload
      path := payloadText
        (firstSuccessCmd raw .packageLibrary (utf8 "pkg-config --variable=libdir " ++ entry.1)) }

/-- One library more; the loaders of Level Zero describe its stack as well. -/
def addLibrary (stack : SoftwareStack) (library : Library) : SoftwareStack :=
  { stack with
    levelZero := if library.name = utf8 "level-zero" || library.name = utf8 "ze_loader" then
        some
          { version := library.version
            loaderPath := if library.path.isEmpty then []
              else library.path ++ utf8 "/libze_loader.so.1" }
      else stack.levelZero
    libraries := stack.libraries ++ [library] }

/-- The runtime entry of Level Zero. -/
def addLevelZeroRuntime (stack : SoftwareStack) : SoftwareStack :=
  match stack.levelZero with
  | some zero =>
      { stack with runtimes := stack.runtimes ++
          [⟨utf8 "level-zero", zero.version, zero.loaderPath, utf8 "ZE_AFFINITY_MASK"⟩] }
  | none => stack

/-- The runtime entry of HIP, from `hipconfig`. -/
def addHipRuntime (raw : EvidenceStore) (stack : SoftwareStack) : SoftwareStack :=
  match (firstSuccessCmd raw .rocmVersion (utf8 "hipconfig --version")).bind fun hip =>
      runtimeVersion hip.payload with
  | none => stack
  | some version =>
      let rocm := stack.rocm.getD {}
      let rocm := match hipconfigPath raw with
        | some path => { rocm with hipPath := trim path.payload }
        | none => rocm
      { stack with
        rocm := some rocm
        runtimes := stack.runtimes ++ [⟨utf8 "hip", version, rocm.hipPath, utf8 "HIP_PATH"⟩] }

/-- The HIP version of a record of the accelerator runtimes. -/
def observedHip (parse : JsonParser) (record : RawEvidence) : Option Bytes :=
  if record.pathOrCommand = utf8 "HIP" then objectString parse record "runtime_version" else none

/-- The Level Zero version of a record of the accelerator runtimes. -/
def observedLevelZero (parse : JsonParser) (record : RawEvidence) : Option Bytes :=
  if record.pathOrCommand = utf8 "Level Zero" then objectString parse record "api_version" else none

/-- One record of the accelerator runtimes. -/
def addObservedRuntime (parse : JsonParser) (stack : SoftwareStack) (record : RawEvidence) :
    SoftwareStack :=
  match observedHip parse record, observedLevelZero parse record with
  | some version, _ =>
      { stack with
        rocm := some (stack.rocm.getD {})
        runtimes := if stack.runtimes.any (·.name = utf8 "hip") then stack.runtimes
          else stack.runtimes ++
            [⟨utf8 "hip", version, utf8 "libamdhip64.so", utf8 "HIP_PATH"⟩] }
  | none, some version =>
      { stack with
        levelZero := some (stack.levelZero.getD ⟨[], utf8 "libze_loader.so.1"⟩)
        runtimes := stack.runtimes ++
          [⟨utf8 "level-zero API", version, utf8 "libze_loader.so.1", utf8 "ZE_AFFINITY_MASK"⟩] }
  | none, none => stack

/-! ### Compilers, MPI and RDMA -/

def compilerNames : List Bytes :=
  [utf8 "gcc", utf8 "g++", utf8 "clang", utf8 "clang++", utf8 "gfortran"]

/-- A compiler, if the version it prints can be read. -/
def findCompiler (raw : EvidenceStore) (name : Bytes) : Option Compiler :=
  ((firstSuccessCmd raw .compilerVersion (name ++ utf8 " --version")).bind fun record =>
    extractCompilerVersion record.payload).map fun version =>
      { name := name
        version := version
        path := payloadText (firstSuccessCmd raw .compilerPath (utf8 "command -v " ++ name))
        target := payloadText (firstSuccessCmd raw .compilerTarget (name ++ utf8 " -dumpmachine")) }

def findMpi (raw : EvidenceStore) : Option Mpi :=
  ((firstSuccess raw .mpiVersion (utf8 "mpirun")).bind fun record =>
    extractMpiInfo record.payload).map fun info =>
      { implementation := info.1
        version := info.2
        path := payloadText (firstSuccess raw .mpiPath (utf8 "mpirun")) }

def findRdma (raw : EvidenceStore) : Option RdmaStack :=
  (firstSuccess raw .ibverbsVersion (utf8 "pkg-config")).map fun version =>
    { rdmaCoreVersion := trim version.payload
      ibverbsPath := payloadText (firstSuccess raw .ibverbsLibdir (utf8 "pkg-config"))
      ucxVersion := payloadText (firstSuccess raw .ucxVersion (utf8 "pkg-config")) }

/-! ### CUDA -/

/-- The stack of CUDA, when a version of the toolkit or of the driver is known. -/
def findCuda (raw : EvidenceStore) (cuda driver : Option Bytes) : Option Cuda :=
  if cuda.isSome || driver.isSome then
    let nvccPath := payloadText (firstSuccess raw .nvccPath (utf8 "readlink"))
    some
      { version := cuda.getD []
        driverVersion := driver.getD []
        nvccPath := nvccPath
        home := match firstSuccess raw .cudaHome (utf8 "printenv") with
          | some record => trim record.payload
          | none => if nvccPath.isEmpty then [] else deriveCudaHome nvccPath }
  else none

/-! ### The parser -/

/-- The accelerator side of the stack: ROCm, libraries and runtimes. -/
def acceleratorStack (parse : JsonParser) (raw : EvidenceStore) : SoftwareStack :=
  let stack := (libraryKinds.filterMap (findLibrary raw)).foldl addLibrary
    { rocm := rocmOfFiles raw }
  (raw.successes .acceleratorRuntime).foldl (addObservedRuntime parse)
    (addHipRuntime raw (addLevelZeroRuntime stack))

/-- The stack with everything that was found. -/
def assembleStack (parse : JsonParser) (raw : EvidenceStore) (driver cuda : Option Bytes) :
    SoftwareStack :=
  let stack := acceleratorStack parse raw
  { stack with
    compilers := compilerNames.filterMap (findCompiler raw)
    mpi := findMpi raw
    rdma := findRdma raw
    drivers := driver.toList.map fun version =>
      { id := 0, name := utf8 "nvidia", version := version, loaded := true }
    runtimes := stack.runtimes ++ cuda.toList.map fun version =>
      { name := utf8 "cuda", version := version, envVar := utf8 "CUDA_HOME" }
    cuda := findCuda raw cuda driver }

/-- Whether a stack has nothing the parser counts as software. -/
def isBare (stack : SoftwareStack) : Bool :=
  stack.drivers.isEmpty && stack.runtimes.isEmpty && stack.compilers.isEmpty &&
    stack.libraries.isEmpty && stack.mpi.isNone && stack.rdma.isNone

/-- Whether no tool that is missed was even tried. -/
def untried (raw : EvidenceStore) : Bool :=
  [RawSource.nvidiaSmi, .nvcc, .compilerVersion, .mpiVersion, .ibverbsVersion].all fun source =>
    (raw.getAll source).isEmpty

/-- `parse_software`: the stack, if anything was found, and the warnings. -/
def parseSoftware (parse : JsonParser) (raw : EvidenceStore) :
    Option SoftwareStack × List Bytes :=
  let (driver, driverWarnings) := driverVersion parse raw
  let (cuda, cudaWarnings) := cudaVersion raw
  let stack := assembleStack parse raw driver cuda
  if isBare stack then
    (none, driverWarnings ++ cudaWarnings ++
      if untried raw then [utf8 "parse_software: 无 nvidia-smi/nvcc/编译器/MPI/RDMA 数据"] else [])
  else (some stack, driverWarnings ++ cudaWarnings)

end Sysal.SoftwareParser
