import Sysal.Model.Enums
import Sysal.Model.Values

/-!
# The execution context

The limits and the environment of the current process, and the convenience lists of what it sees.
-/

namespace Sysal

structure Process where
  pid : Int32 := 0
  ppid : Int32 := 0
  uid : UInt32 := 0
  gid : UInt32 := 0
  comm : Bytes := []
  exe : Bytes := []
  cwd : Bytes := []
  deriving DecidableEq, Inhabited

structure Environment where
  entries : List (Bytes × Bytes) := []
  deriving DecidableEq, Inhabited

structure Cgroup where
  version : CgroupVersion := .v1
  path : Bytes := []
  controllers : List Bytes := []
  cpuQuotaUs : Option Microseconds := none
  cpuPeriodUs : Option Microseconds := none
  memoryLimit : Option MemorySize := none
  memoryCurrent : Option MemorySize := none
  cpuLimitKnown : Bool := false
  memoryLimitKnown : Bool := false
  deriving DecidableEq, Inhabited

structure Cpuset where
  cpus : Bytes := []
  mems : Bytes := []
  cpusEffective : Bytes := []
  memsEffective : Bytes := []
  deriving DecidableEq, Inhabited

structure Permission where
  euid : UInt32 := 0
  egid : UInt32 := 0
  capabilities : List Bytes := []
  isRoot : Bool := false
  deriving DecidableEq, Inhabited

structure Container where
  kind : ContainerKind := .docker
  id : Bytes := []
  runtime : Bytes := []
  deriving DecidableEq, Inhabited

structure ExecutionContext where
  process : Process := {}
  environment : Environment := {}
  cgroup : Cgroup := {}
  cpuset : Cpuset := {}
  permission : Permission := {}
  container : Option Container := none
  visibleLogicalCpuIds : List LogicalCpuId := []
  visibleAcceleratorIds : List AcceleratorId := []
  visibleNetworkInterfaceNames : List Bytes := []
  cpuVisibilityKnown : Bool := false
  acceleratorVisibilityRestricted : Bool := false
  deriving DecidableEq, Inhabited

end Sysal
