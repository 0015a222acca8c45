import Sysal.Model.Enums
import Sysal.Model.Values

/-!
# The CPU subsystem

Packages, cores, logical CPUs, NUMA nodes, caches, frequency policies and the legacy thermal zones,
linked by identifiers.
-/

namespace Sysal

structure CpuPackage where
  id : CpuPackageId := 0
  vendor : Bytes := []
  modelName : Bytes := []
  physicalCores : UInt32 := 0
  logicalThreads : UInt32 := 0
  baseFrequency : Option Frequency := none
  maxFrequency : Option Frequency := none
  deriving DecidableEq, Inhabited

structure CpuCore where
  id : CpuCoreId := 0
  packageId : CpuPackageId := 0
  logicalThreads : UInt32 := 0
  numaNode : Option NumaNodeId := none
  deriving DecidableEq, Inhabited

/-- What the system reports about one processor; `featuresReported` distinguishes an empty feature
list from a missing one. -/
structure CpuIdentification where
  family : Option UInt32 := none
  model : Option UInt32 := none
  stepping : Option UInt32 := none
  implementer : Option UInt32 := none
  part : Option UInt32 := none
  variant : Option UInt32 := none
  revision : Bytes := []
  architecture : Bytes := []
  microcode : Bytes := []
  features : List Bytes := []
  featuresReported : Bool := false
  deriving DecidableEq, Inhabited

structure CpuFrequencyPolicy where
  index : UInt32 := 0
  relatedCpus : List LogicalCpuId := []
  affectedCpus : List LogicalCpuId := []
  baseFrequency : Option Frequency := none
  hardwareMinFrequency : Option Frequency := none
  hardwareMaxFrequency : Option Frequency := none
  scalingMinFrequency : Option Frequency := none
  scalingMaxFrequency : Option Frequency := none
  scalingCurrentFrequency : Option Frequency := none
  hardwareCurrentFrequency : Option Frequency := none
  driver : Bytes := []
  governor : Bytes := []
  energyPerformancePreference : Bytes := []
  deriving DecidableEq, Inhabited

structure LogicalCpu where
  id : LogicalCpuId := 0
  coreId : CpuCoreId := 0
  packageId : CpuPackageId := 0
  numaNode : Option NumaNodeId := none
  visibleToCurrentProcess : Option Bool := none
  identification : CpuIdentification := {}
  online : Option Bool := none
  deriving DecidableEq, Inhabited

structure NumaNode where
  id : NumaNodeId := 0
  cpus : List LogicalCpuId := []
  deriving DecidableEq, Inhabited

structure CpuCache where
  level : UInt32 := 0
  type : CacheType := .data
  size : MemorySize := 0
  ways : UInt32 := 0
  lineSize : UInt32 := 0
  cpuNumber : UInt32 := 0
  cacheId : Option UInt32 := none
  sets : Option UInt32 := none
  sharedCpus : List LogicalCpuId := []
  deriving DecidableEq, Inhabited

structure ThermalZone where
  name : Bytes := []
  type : Bytes := []
  temp : Temperature := 0
  deriving DecidableEq, Inhabited

structure Cpu where
  arch : Arch := .x86_64
  packages : List CpuPackage := []
  cores : List CpuCore := []
  logicalCpus : List LogicalCpu := []
  numaNodes : List NumaNode := []
  isaExtensions : List IsaExtension := []
  caches : List CpuCache := []
  governor : Bytes := []
  thermalZones : List ThermalZone := []
  frequencyPolicies : List CpuFrequencyPolicy := []
  presentCpuIds : Option (List LogicalCpuId) := none
  onlineCpuIds : Option (List LogicalCpuId) := none
  smtSupported : Option Bool := none
  smtActive : Option Bool := none
  smtControl : Bytes := []
  boostEnabled : Option Bool := none
  deriving DecidableEq, Inhabited

end Sysal
