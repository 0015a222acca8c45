import Mathlib.Algebra.Group.Nat.Defs
import Mathlib.Data.List.Basic

/-!
# Scoped enumerations

The enumerations of the library in declaration order.  A JSON snapshot stores an enumerator as its
integer code, so every enumeration comes with its code and with the list of its enumerators by code;
`CEnum` collects both and the law that ties them.
-/

namespace Sysal

/-- A scoped enumeration: enumerators in declaration order and the integer code of each. -/
class CEnum (α : Type) where
  /-- All enumerators; position `n` holds the enumerator of code `n`. -/
  enumerators : List α
  /-- The underlying integer of an enumerator. -/
  code : α → ℕ
  /-- The enumerator at an enumerator's own code is that enumerator. -/
  enumerators_code : ∀ a, enumerators[code a]? = some a
  /-- The enumerators are listed by code. -/
  code_enumerators : enumerators.map code = List.range enumerators.length := by decide
  /-- Every code fits the 32-bit integer it is stored as. -/
  size_le : enumerators.length ≤ 2 ^ 32 := by decide

/-- The enumerator of an integer code. -/
def CEnum.ofCode (α : Type) [CEnum α] (n : ℕ) : Option α := (CEnum.enumerators (α := α))[n]?

@[simp] theorem CEnum.ofCode_code {α : Type} [CEnum α] (a : α) :
    CEnum.ofCode α (CEnum.code a) = some a :=
  CEnum.enumerators_code a

/-- The enumerator found at a code has that code. -/
theorem CEnum.code_of_ofCode {α : Type} [CEnum α] {n : ℕ} {a : α} (h : CEnum.ofCode α n = some a) :
    CEnum.code a = n := by
  have hcode := congrArg (·[n]?) (CEnum.code_enumerators (α := α))
  simp only [List.getElem?_map] at hcode
  rw [show (CEnum.enumerators (α := α))[n]? = some a from h, Option.map_some] at hcode
  obtain ⟨hlt, heq⟩ := List.getElem?_eq_some_iff.mp hcode.symm
  rw [← heq, List.getElem_range]

/-- Enumerators of one code are the same. -/
theorem CEnum.code_injective {α : Type} [CEnum α] {a b : α} (h : CEnum.code a = CEnum.code b) :
    a = b := by
  have ha := CEnum.ofCode_code a
  rw [h, CEnum.ofCode_code, Option.some_inj] at ha
  exact ha.symm

/-- Codes number the enumerators from zero. -/
theorem CEnum.code_lt {α : Type} [CEnum α] (a : α) :
    CEnum.code a < (CEnum.enumerators (α := α)).length :=
  (List.getElem?_eq_some_iff.mp (CEnum.enumerators_code a)).1

/-- CPU architecture. -/
inductive Arch where
  | x86_64 | aArch64 | riscv64 | other
  deriving DecidableEq, Inhabited

instance : CEnum Arch where
  enumerators := [.x86_64, .aArch64, .riscv64, .other]
  code := Arch.ctorIdx
  enumerators_code := by intro a; cases a <;> rfl

/-- Link state of a network interface. -/
inductive InterfaceState where
  | up | down | unknown
  deriving DecidableEq, Inhabited

instance : CEnum InterfaceState where
  enumerators := [.up, .down, .unknown]
  code := InterfaceState.ctorIdx
  enumerators_code := by intro a; cases a <;> rfl

/-- Kernel or backend protocol of a block device. -/
inductive StorageProtocol where
  | unknown | nvme | ata | scsi
  deriving DecidableEq, Inhabited

instance : CEnum StorageProtocol where
  enumerators := [.unknown, .nvme, .ata, .scsi]
  code := StorageProtocol.ctorIdx
  enumerators_code := by intro a; cases a <;> rfl

/-- Legacy mixed protocol and medium label. -/
inductive StorageKind where
  | nvme | ssd | hdd | other
  deriving DecidableEq, Inhabited

instance : CEnum StorageKind where
  enumerators := [.nvme, .ssd, .hdd, .other]
  code := StorageKind.ctorIdx
  enumerators_code := by intro a; cases a <;> rfl

/-- Kind of accelerator. -/
inductive AcceleratorKind where
  | gpu | npu | fpga | other
  deriving DecidableEq, Inhabited

instance : CEnum AcceleratorKind where
  enumerators := [.gpu, .npu, .fpga, .other]
  code := AcceleratorKind.ctorIdx
  enumerators_code := by intro a; cases a <;> rfl

/-- Instruction-set extensions of the legacy projection. -/
inductive IsaExtension where
  | sse | sse2 | sse3 | ssse3 | sse41 | sse42 | avx | avx2 | avx512f | avx512cd | avx512bw
  | avx512dq | avx512vl | aes | fma | f16c | pclmulqdq
  deriving DecidableEq, Inhabited

instance : CEnum IsaExtension where
  enumerators :=
    [.sse, .sse2, .sse3, .ssse3, .sse41, .sse42, .avx, .avx2, .avx512f, .avx512cd, .avx512bw,
     .avx512dq, .avx512vl, .aes, .fma, .f16c, .pclmulqdq]
  code := IsaExtension.ctorIdx
  enumerators_code := by intro a; cases a <;> rfl

/-- Cache type. -/
inductive CacheType where
  | data | instruction | unified | other
  deriving DecidableEq, Inhabited

instance : CEnum CacheType where
  enumerators := [.data, .instruction, .unified, .other]
  code := CacheType.ctorIdx
  enumerators_code := by intro a; cases a <;> rfl

/-- Where a piece of raw evidence comes from. -/
inductive RawSource where
  | procCpuInfo | procMemInfo | procVersion | procSelfCgroup | procSelfStatus | procOneCgroup
  | sysfsCpu | sysfsNuma | sysfsNet | sysfsPci | sysfsBlock | sysfsDmi | etcOsRelease
  | rootDockerenv | uname | lspci | nvidiaSmi | nvcc | lsblk | environment | nvml | ibverbs
  | hwinfoOutput | procHostname | ifAddrs | dfTh | udevadm | sysfsEdac | sysHypervisor
  | compilerVersion | compilerPath | compilerTarget | mpiVersion | mpiPath | ibverbsVersion
  | ibverbsLibdir | ucxVersion | nvccPath | cudaHome | sysfsThermal | cgroupMountInfo
  | cgroupFile | sysfsDrm | nvidiaMigList | rocmVersion | packageLibrary | acceleratorRuntime
  | storageMountInfo | ethtool | procNetVlan | sysfsHwmon | storageHealthSysfs | smartctl
  | nvmeSmartLog | sysfsRdma | sysfsStorageConnections | filesystemUsage
  deriving DecidableEq, Inhabited

instance : CEnum RawSource where
  enumerators :=
    [.procCpuInfo, .procMemInfo, .procVersion, .procSelfCgroup, .procSelfStatus, .procOneCgroup,
     .sysfsCpu, .sysfsNuma, .sysfsNet, .sysfsPci, .sysfsBlock, .sysfsDmi, .etcOsRelease,
     .rootDockerenv, .uname, .lspci, .nvidiaSmi, .nvcc, .lsblk, .environment, .nvml, .ibverbs,
     .hwinfoOutput, .procHostname, .ifAddrs, .dfTh, .udevadm, .sysfsEdac, .sysHypervisor,
     .compilerVersion, .compilerPath, .compilerTarget, .mpiVersion, .mpiPath, .ibverbsVersion,
     .ibverbsLibdir, .ucxVersion, .nvccPath, .cudaHome, .sysfsThermal, .cgroupMountInfo,
     .cgroupFile, .sysfsDrm, .nvidiaMigList, .rocmVersion, .packageLibrary, .acceleratorRuntime,
     .storageMountInfo, .ethtool, .procNetVlan, .sysfsHwmon, .storageHealthSysfs, .smartctl,
     .nvmeSmartLog, .sysfsRdma, .sysfsStorageConnections, .filesystemUsage]
  code := RawSource.ctorIdx
  enumerators_code := by intro a; cases a <;> rfl

/-- Outcome of one raw read. -/
inductive CollectStatus where
  | success | partial_ | failed | notCollected
  deriving DecidableEq, Inhabited

instance : CEnum CollectStatus where
  enumerators := [.success, .partial_, .failed, .notCollected]
  code := CollectStatus.ctorIdx
  enumerators_code := by intro a; cases a <;> rfl

/-- Why a read produced nothing; old records may have no reason. -/
inductive ReadFailure where
  | notPresent | permissionDenied | unsupported | ioError | toolUnavailable | timedOut
  | notProvided | lowPower
  deriving DecidableEq, Inhabited

instance : CEnum ReadFailure where
  enumerators :=
    [.notPresent, .permissionDenied, .unsupported, .ioError, .toolUnavailable, .timedOut,
     .notProvided, .lowPower]
  code := ReadFailure.ctorIdx
  enumerators_code := by intro a; cases a <;> rfl

/-- Why a query was not attempted. -/
inductive SkipReason where
  | unknown | notRequested | policyExcluded | budgetExhausted | notApplicable
  deriving DecidableEq, Inhabited

instance : CEnum SkipReason where
  enumerators := [.unknown, .notRequested, .policyExcluded, .budgetExhausted, .notApplicable]
  code := SkipReason.ctorIdx
  enumerators_code := by intro a; cases a <;> rfl

/-- Virtualization kind. -/
inductive VirtualizationKind where
  | none | kvm | xen | vmware | qemu | hyperV | virtualBox | parallels | other
  deriving DecidableEq, Inhabited

instance : CEnum VirtualizationKind where
  enumerators := [.none, .kvm, .xen, .vmware, .qemu, .hyperV, .virtualBox, .parallels, .other]
  code := VirtualizationKind.ctorIdx
  enumerators_code := by intro a; cases a <;> rfl

/-- Control-group version. -/
inductive CgroupVersion where
  | v1 | v2
  deriving DecidableEq, Inhabited

instance : CEnum CgroupVersion where
  enumerators := [.v1, .v2]
  code := CgroupVersion.ctorIdx
  enumerators_code := by intro a; cases a <;> rfl

/-- Container kind. -/
inductive ContainerKind where
  | docker | podman | lxc | kubernetes | other
  deriving DecidableEq, Inhabited

instance : CEnum ContainerKind where
  enumerators := [.docker, .podman, .lxc, .kubernetes, .other]
  code := ContainerKind.ctorIdx
  enumerators_code := by intro a; cases a <;> rfl

end Sysal
