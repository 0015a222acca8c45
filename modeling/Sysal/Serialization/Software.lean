import Sysal.Model.Software
import Sysal.Serialization.JsonValues

/-!
# The software stack as JSON

`software.cpp` of the serialization: flat records of texts, and the stack that collects them.
-/

namespace Sysal

open Json

def driverToJson (d : Driver) : Json :=
  .object [
    ("id", some (.ofUInt32 d.id)),
    ("name", some (.str d.name)),
    ("version", some (.str d.version)),
    ("loaded", some (.bool d.loaded)),
    ("path", some (.str d.path))]

def driverFromJson (j : Json) : Decode Driver := do
  return {
    id := ← j.read (uint32FromJson "id") "id"
    name := ← j.read getString "name"
    version := ← j.read getString "version"
    loaded := ← j.read getBool "loaded"
    path := ← j.read getString "path" }

@[simp] theorem driverFromJson_toJson (d : Driver) : driverFromJson (driverToJson d) = .ok d := by
  simp [driverFromJson, driverToJson]

def runtimeToJson (r : Runtime) : Json :=
  .object [
    ("name", some (.str r.name)),
    ("version", some (.str r.version)),
    ("path", some (.str r.path)),
    ("env_var", some (.str r.envVar))]

def runtimeFromJson (j : Json) : Decode Runtime := do
  return {
    name := ← j.read getString "name"
    version := ← j.read getString "version"
    path := ← j.read getString "path"
    envVar := ← j.read getString "env_var" }

@[simp] theorem runtimeFromJson_toJson (r : Runtime) : runtimeFromJson (runtimeToJson r) = .ok r := by
  simp [runtimeFromJson, runtimeToJson]

def compilerToJson (c : Compiler) : Json :=
  .object [
    ("name", some (.str c.name)),
    ("version", some (.str c.version)),
    ("path", some (.str c.path)),
    ("target", some (.str c.target))]

def compilerFromJson (j : Json) : Decode Compiler := do
  return {
    name := ← j.read getString "name"
    version := ← j.read getString "version"
    path := ← j.read getString "path"
    target := ← j.read getString "target" }

@[simp] theorem compilerFromJson_toJson (c : Compiler) : compilerFromJson (compilerToJson c) = .ok c := by
  simp [compilerFromJson, compilerToJson]

def libraryToJson (l : Library) : Json :=
  .object [
    ("name", some (.str l.name)),
    ("version", some (.str l.version)),
    ("path", some (.str l.path)),
    ("kind", some (.str l.kind))]

def libraryFromJson (j : Json) : Decode Library := do
  return {
    name := ← j.read getString "name"
    version := ← j.read getString "version"
    path := ← j.read getString "path"
    kind := ← j.read getString "kind" }

@[simp] theorem libraryFromJson_toJson (l : Library) : libraryFromJson (libraryToJson l) = .ok l := by
  simp [libraryFromJson, libraryToJson]

def cudaToJson (c : Cuda) : Json :=
  .object [
    ("version", some (.str c.version)),
    ("driver_version", some (.str c.driverVersion)),
    ("nvcc_path", some (.str c.nvccPath)),
    ("home", some (.str c.home))]

def cudaFromJson (j : Json) : Decode Cuda := do
  return {
    version := ← j.read getString "version"
    driverVersion := ← j.read getString "driver_version"
    nvccPath := ← j.read getString "nvcc_path"
    home := ← j.read getString "home" }

@[simp] theorem cudaFromJson_toJson (c : Cuda) : cudaFromJson (cudaToJson c) = .ok c := by
  simp [cudaFromJson, cudaToJson]

def rocmToJson (r : Rocm) : Json :=
  .object [
    ("version", some (.str r.version)),
    ("hip_path", some (.str r.hipPath)),
    ("rocm_path", some (.str r.rocmPath))]

def rocmFromJson (j : Json) : Decode Rocm := do
  return {
    version := ← j.read getString "version"
    hipPath := ← j.read getString "hip_path"
    rocmPath := ← j.read getString "rocm_path" }

@[simp] theorem rocmFromJson_toJson (r : Rocm) : rocmFromJson (rocmToJson r) = .ok r := by
  simp [rocmFromJson, rocmToJson]

def levelZeroToJson (lz : LevelZero) : Json :=
  .object [
    ("version", some (.str lz.version)),
    ("loader_path", some (.str lz.loaderPath))]

def levelZeroFromJson (j : Json) : Decode LevelZero := do
  return {
    version := ← j.read getString "version"
    loaderPath := ← j.read getString "loader_path" }

@[simp] theorem levelZeroFromJson_toJson (lz : LevelZero) : levelZeroFromJson (levelZeroToJson lz) = .ok lz := by
  simp [levelZeroFromJson, levelZeroToJson]

def mpiToJson (m : Mpi) : Json :=
  .object [
    ("implementation", some (.str m.implementation)),
    ("version", some (.str m.version)),
    ("path", some (.str m.path))]

def mpiFromJson (j : Json) : Decode Mpi := do
  return {
    implementation := ← j.read getString "implementation"
    version := ← j.read getString "version"
    path := ← j.read getString "path" }

@[simp] theorem mpiFromJson_toJson (m : Mpi) : mpiFromJson (mpiToJson m) = .ok m := by
  simp [mpiFromJson, mpiToJson]

def rdmaToJson (r : RdmaStack) : Json :=
  .object [
    ("rdma_core_version", some (.str r.rdmaCoreVersion)),
    ("ibverbs_path", some (.str r.ibverbsPath)),
    ("ucx_version", some (.str r.ucxVersion))]

def rdmaFromJson (j : Json) : Decode RdmaStack := do
  return {
    rdmaCoreVersion := ← j.read getString "rdma_core_version"
    ibverbsPath := ← j.read getString "ibverbs_path"
    ucxVersion := ← j.read getString "ucx_version" }

@[simp] theorem rdmaFromJson_toJson (r : RdmaStack) : rdmaFromJson (rdmaToJson r) = .ok r := by
  simp [rdmaFromJson, rdmaToJson]

def softwareToJson (sw : SoftwareStack) : Json :=
  .object [
    ("drivers", some (.array (sw.drivers.map driverToJson))),
    ("runtimes", some (.array (sw.runtimes.map runtimeToJson))),
    ("compilers", some (.array (sw.compilers.map compilerToJson))),
    ("libraries", some (.array (sw.libraries.map libraryToJson))),
    ("cuda", sw.cuda.map cudaToJson),
    ("rocm", sw.rocm.map rocmToJson),
    ("level_zero", sw.levelZero.map levelZeroToJson),
    ("mpi", sw.mpi.map mpiToJson),
    ("rdma", sw.rdma.map rdmaToJson)]

def softwareFromJson (j : Json) : Decode SoftwareStack := do
  return {
    drivers := ← j.read (readItems driverFromJson) "drivers"
    runtimes := ← j.read (readItems runtimeFromJson) "runtimes"
    compilers := ← j.read (readItems compilerFromJson) "compilers"
    libraries := ← j.read (readItems libraryFromJson) "libraries"
    cuda := ← j.readOptional cudaFromJson "cuda"
    rocm := ← j.readOptional rocmFromJson "rocm"
    levelZero := ← j.readOptional levelZeroFromJson "level_zero"
    mpi := ← j.readOptional mpiFromJson "mpi"
    rdma := ← j.readOptional rdmaFromJson "rdma" }

/-- The software stack comes back from its JSON value. -/
@[simp] theorem softwareFromJson_toJson (sw : SoftwareStack) :
    softwareFromJson (softwareToJson sw) = .ok sw := by
  simp [softwareFromJson, softwareToJson]

end Sysal
