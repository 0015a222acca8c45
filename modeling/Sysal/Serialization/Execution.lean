import Sysal.Model.Execution
import Sysal.Serialization.JsonValues

/-!
# The execution context as JSON

`execution.cpp` of the serialization.  The process ids are read without a check, through the leaf
reader.
-/

namespace Sysal

open Json

def processToJson (p : Process) : Json :=
  .object [
    ("pid", some (.ofInt32 p.pid)),
    ("ppid", some (.ofInt32 p.ppid)),
    ("uid", some (.ofUInt32 p.uid)),
    ("gid", some (.ofUInt32 p.gid)),
    ("comm", some (.str p.comm)),
    ("exe", some (.str p.exe)),
    ("cwd", some (.str p.cwd))]

def processFromJson (leaf : LeafReader) (j : Json) : Decode Process := do
  return {
    pid := ← j.read leaf.int32 "pid"
    ppid := ← j.read leaf.int32 "ppid"
    uid := ← j.read (uint32FromJson "uid") "uid"
    gid := ← j.read (uint32FromJson "gid") "gid"
    comm := ← j.read getString "comm"
    exe := ← j.read getString "exe"
    cwd := ← j.read getString "cwd" }

@[simp] theorem processFromJson_toJson (p : Process) :
    processFromJson .library (processToJson p) = .ok p := by
  simp [processFromJson, processToJson]

def entryToJson (entry : Bytes × Bytes) : Json :=
  .object [("key", some (.str entry.1)), ("value", some (.str entry.2))]

def entryFromJson (j : Json) : Decode (Bytes × Bytes) := do
  return (← j.read getString "key", ← j.read getString "value")

@[simp] theorem entryFromJson_toJson (entry : Bytes × Bytes) :
    entryFromJson (entryToJson entry) = .ok entry := by
  simp [entryFromJson, entryToJson]

def environmentToJson (e : Environment) : Json :=
  .object [("entries", some (.array (e.entries.map entryToJson)))]

def environmentFromJson (j : Json) : Decode Environment := do
  return { entries := ← j.read (readItems entryFromJson) "entries" }

@[simp] theorem environmentFromJson_toJson (e : Environment) :
    environmentFromJson (environmentToJson e) = .ok e := by
  simp [environmentFromJson, environmentToJson]

instance : CEnum.IsLast CgroupVersion.v2 := ⟨rfl⟩

def cgroupToJson (c : Cgroup) : Json :=
  .object [
    ("version", some (.ofEnum c.version)),
    ("path", some (.str c.path)),
    ("controllers", some (strings c.controllers)),
    ("cpu_limit_known", some (.bool c.cpuLimitKnown)),
    ("memory_limit_known", some (.bool c.memoryLimitKnown)),
    ("cpu_quota_us", c.cpuQuotaUs.map .ofUInt64),
    ("cpu_period_us", c.cpuPeriodUs.map .ofUInt64),
    ("memory_limit", c.memoryLimit.map .ofUInt64),
    ("memory_current", c.memoryCurrent.map .ofUInt64)]

def cgroupFromJson (j : Json) : Decode Cgroup := do
  return {
    version := ← j.read (enumFromJson CgroupVersion.v2 "version") "version"
    path := ← j.read getString "path"
    controllers := ← j.readOr (readItems getString) [] "controllers"
    cpuLimitKnown := ← j.readDefault getBool false "cpu_limit_known"
    memoryLimitKnown := ← j.readDefault getBool false "memory_limit_known"
    cpuQuotaUs := ← j.readOptional (uint64FromJson "cpu_quota_us") "cpu_quota_us"
    cpuPeriodUs := ← j.readOptional (uint64FromJson "cpu_period_us") "cpu_period_us"
    memoryLimit := ← j.readOptional (uint64FromJson "memory_limit") "memory_limit"
    memoryCurrent := ← j.readOptional (uint64FromJson "memory_current") "memory_current" }

@[simp] theorem cgroupFromJson_toJson (c : Cgroup) : cgroupFromJson (cgroupToJson c) = .ok c := by
  simp [cgroupFromJson, cgroupToJson]

def cpusetToJson (cs : Cpuset) : Json :=
  .object [
    ("cpus", some (.str cs.cpus)),
    ("mems", some (.str cs.mems)),
    ("cpus_effective", some (.str cs.cpusEffective)),
    ("mems_effective", some (.str cs.memsEffective))]

def cpusetFromJson (j : Json) : Decode Cpuset := do
  return {
    cpus := ← j.read getString "cpus"
    mems := ← j.read getString "mems"
    cpusEffective := ← j.read getString "cpus_effective"
    memsEffective := ← j.read getString "mems_effective" }

@[simp] theorem cpusetFromJson_toJson (cs : Cpuset) : cpusetFromJson (cpusetToJson cs) = .ok cs := by
  simp [cpusetFromJson, cpusetToJson]

def permissionToJson (p : Permission) : Json :=
  .object [
    ("euid", some (.ofUInt32 p.euid)),
    ("egid", some (.ofUInt32 p.egid)),
    ("is_root", some (.bool p.isRoot)),
    ("capabilities", some (strings p.capabilities))]

def permissionFromJson (j : Json) : Decode Permission := do
  return {
    euid := ← j.read (uint32FromJson "euid") "euid"
    egid := ← j.read (uint32FromJson "egid") "egid"
    capabilities := ← j.readOr (readItems getString) [] "capabilities"
    isRoot := ← j.read getBool "is_root" }

@[simp] theorem permissionFromJson_toJson (p : Permission) :
    permissionFromJson (permissionToJson p) = .ok p := by
  simp [permissionFromJson, permissionToJson]

instance : CEnum.IsLast ContainerKind.other := ⟨rfl⟩

def containerToJson (c : Container) : Json :=
  .object [
    ("kind", some (.ofEnum c.kind)),
    ("id", some (.str c.id)),
    ("runtime", some (.str c.runtime))]

def containerFromJson (j : Json) : Decode Container := do
  return {
    kind := ← j.read (enumFromJson ContainerKind.other "kind") "kind"
    id := ← j.read getString "id"
    runtime := ← j.read getString "runtime" }

@[simp] theorem containerFromJson_toJson (c : Container) :
    containerFromJson (containerToJson c) = .ok c := by
  simp [containerFromJson, containerToJson]

def executionToJson (e : ExecutionContext) : Json :=
  .object [
    ("process", some (processToJson e.process)),
    ("environment", some (environmentToJson e.environment)),
    ("cgroup", some (cgroupToJson e.cgroup)),
    ("cpuset", some (cpusetToJson e.cpuset)),
    ("permission", some (permissionToJson e.permission)),
    ("container", e.container.map containerToJson),
    ("visible_logical_cpu_ids", some (.array (e.visibleLogicalCpuIds.map .ofUInt32))),
    ("cpu_visibility_known", some (.bool e.cpuVisibilityKnown)),
    ("visible_accelerator_ids", some (.array (e.visibleAcceleratorIds.map .ofUInt32))),
    ("accelerator_visibility_restricted", some (.bool e.acceleratorVisibilityRestricted)),
    ("visible_network_interface_names", some (strings e.visibleNetworkInterfaceNames))]

def executionFromJson (leaf : LeafReader) (j : Json) : Decode ExecutionContext := do
  return {
    process := ← j.read (processFromJson leaf) "process"
    environment := ← j.read environmentFromJson "environment"
    cpuVisibilityKnown := ← j.readDefault getBool false "cpu_visibility_known"
    acceleratorVisibilityRestricted :=
      ← j.readDefault getBool false "accelerator_visibility_restricted"
    cgroup := ← j.read cgroupFromJson "cgroup"
    cpuset := ← j.read cpusetFromJson "cpuset"
    permission := ← j.read permissionFromJson "permission"
    container := ← j.readOptional containerFromJson "container"
    visibleLogicalCpuIds :=
      ← j.read (readItems (uint32FromJson "array item")) "visible_logical_cpu_ids"
    visibleAcceleratorIds :=
      ← j.read (readItems (uint32FromJson "array item")) "visible_accelerator_ids"
    visibleNetworkInterfaceNames :=
      ← j.read (readItems getString) "visible_network_interface_names" }

/-- The execution context comes back from its JSON value. -/
@[simp] theorem executionFromJson_toJson (e : ExecutionContext) :
    executionFromJson .library (executionToJson e) = .ok e := by
  simp [executionFromJson, executionToJson]

end Sysal
