import Sysal.Model.CpuFeatures
import Sysal.Serialization.JsonValues

/-!
# The CPU subsystem as JSON

`cpu.cpp` and `cpu_features.cpp` of the serialization.  The feature summary is written next to the
data it is derived from and never read.
-/

namespace Sysal

open Json

instance : CEnum.IsLast CacheType.other := ⟨rfl⟩
instance : CEnum.IsLast Arch.other := ⟨rfl⟩
instance : CEnum.IsLast IsaExtension.pclmulqdq := ⟨rfl⟩

/-! ### Packages and cores -/

def cpuPackageToJson (pkg : CpuPackage) : Json :=
  .object [
    ("id", some (.ofUInt32 pkg.id)),
    ("vendor", some (.str pkg.vendor)),
    ("model_name", some (.str pkg.modelName)),
    ("physical_cores", some (.ofUInt32 pkg.physicalCores)),
    ("logical_threads", some (.ofUInt32 pkg.logicalThreads)),
    ("base_frequency", pkg.baseFrequency.map .ofUInt64),
    ("max_frequency", pkg.maxFrequency.map .ofUInt64)]

def cpuPackageFromJson (j : Json) : Decode CpuPackage := do
  return {
    id := ← j.read (uint32FromJson "id") "id"
    vendor := ← j.read getString "vendor"
    modelName := ← j.read getString "model_name"
    physicalCores := ← j.read (uint32FromJson "physical_cores") "physical_cores"
    logicalThreads := ← j.read (uint32FromJson "logical_threads") "logical_threads"
    baseFrequency := ← j.readOptional (uint64FromJson "base_frequency") "base_frequency"
    maxFrequency := ← j.readOptional (uint64FromJson "max_frequency") "max_frequency" }

@[simp] theorem cpuPackageFromJson_toJson (pkg : CpuPackage) :
    cpuPackageFromJson (cpuPackageToJson pkg) = .ok pkg := by
  simp [cpuPackageFromJson, cpuPackageToJson]

def cpuCoreToJson (c : CpuCore) : Json :=
  .object [
    ("id", some (.ofUInt32 c.id)),
    ("package_id", some (.ofUInt32 c.packageId)),
    ("logical_threads", some (.ofUInt32 c.logicalThreads)),
    ("numa_node", c.numaNode.map .ofUInt32)]

def cpuCoreFromJson (j : Json) : Decode CpuCore := do
  return {
    id := ← j.read (uint32FromJson "id") "id"
    packageId := ← j.read (uint32FromJson "package_id") "package_id"
    logicalThreads := ← j.read (uint32FromJson "logical_threads") "logical_threads"
    numaNode := ← j.readOptional (uint32FromJson "numa_node") "numa_node" }

@[simp] theorem cpuCoreFromJson_toJson (c : CpuCore) :
    cpuCoreFromJson (cpuCoreToJson c) = .ok c := by
  simp [cpuCoreFromJson, cpuCoreToJson]

/-! ### Logical CPUs -/

def cpuIdsToJson (ids : List LogicalCpuId) : Json := .array (ids.map .ofUInt32)

def cpuIdsFromJson (j : Json) : Decode (List LogicalCpuId) :=
  j.readItems (uint32FromJson "array item")

@[simp] theorem cpuIdsFromJson_toJson (ids : List LogicalCpuId) :
    cpuIdsFromJson (cpuIdsToJson ids) = .ok ids := by
  simp [cpuIdsFromJson, cpuIdsToJson]

def cpuIdentificationToJson (identity : CpuIdentification) : Json :=
  .object [
    ("family", identity.family.map .ofUInt32),
    ("model", identity.model.map .ofUInt32),
    ("stepping", identity.stepping.map .ofUInt32),
    ("implementer", identity.implementer.map .ofUInt32),
    ("part", identity.part.map .ofUInt32),
    ("variant", identity.variant.map .ofUInt32),
    ("revision", some (.str identity.revision)),
    ("architecture", some (.str identity.architecture)),
    ("microcode", some (.str identity.microcode)),
    ("features", some (strings identity.features)),
    ("features_reported", some (.bool identity.featuresReported))]

def cpuIdentificationFromJson (j : Json) : Decode CpuIdentification := do
  return {
    family := ← j.readOptional (uint32FromJson "family") "family"
    model := ← j.readOptional (uint32FromJson "model") "model"
    stepping := ← j.readOptional (uint32FromJson "stepping") "stepping"
    implementer := ← j.readOptional (uint32FromJson "implementer") "implementer"
    part := ← j.readOptional (uint32FromJson "part") "part"
    variant := ← j.readOptional (uint32FromJson "variant") "variant"
    revision := ← j.readDefault getString [] "revision"
    architecture := ← j.readDefault getString [] "architecture"
    microcode := ← j.readDefault getString [] "microcode"
    features := ← j.readDefault (readArray getString) [] "features"
    featuresReported := ← j.readDefault getBool false "features_reported" }

@[simp] theorem cpuIdentificationFromJson_toJson (identity : CpuIdentification) :
    cpuIdentificationFromJson (cpuIdentificationToJson identity) = .ok identity := by
  simp [cpuIdentificationFromJson, cpuIdentificationToJson]

def logicalCpuToJson (lc : LogicalCpu) : Json :=
  .object [
    ("id", some (.ofUInt32 lc.id)),
    ("core_id", some (.ofUInt32 lc.coreId)),
    ("package_id", some (.ofUInt32 lc.packageId)),
    ("visible_to_current_process", lc.visibleToCurrentProcess.map .bool),
    ("numa_node", lc.numaNode.map .ofUInt32),
    ("identification", some (cpuIdentificationToJson lc.identification)),
    ("online", lc.online.map .bool)]

def logicalCpuFromJson (j : Json) : Decode LogicalCpu := do
  return {
    id := ← j.read (uint32FromJson "id") "id"
    coreId := ← j.read (uint32FromJson "core_id") "core_id"
    packageId := ← j.read (uint32FromJson "package_id") "package_id"
    numaNode := ← j.readOptional (uint32FromJson "numa_node") "numa_node"
    visibleToCurrentProcess := ← j.readOptional getBool "visible_to_current_process"
    identification := ← j.readOr cpuIdentificationFromJson {} "identification"
    online := ← j.readOptional getBool "online" }

@[simp] theorem logicalCpuFromJson_toJson (lc : LogicalCpu) :
    logicalCpuFromJson (logicalCpuToJson lc) = .ok lc := by
  simp [logicalCpuFromJson, logicalCpuToJson]

/-! ### Policies, nodes, caches and zones -/

def cpuPolicyToJson (policy : CpuFrequencyPolicy) : Json :=
  .object [
    ("index", some (.ofUInt32 policy.index)),
    ("related_cpus", some (cpuIdsToJson policy.relatedCpus)),
    ("affected_cpus", some (cpuIdsToJson policy.affectedCpus)),
    ("base_frequency", policy.baseFrequency.map .ofUInt64),
    ("hardware_min_frequency", policy.hardwareMinFrequency.map .ofUInt64),
    ("hardware_max_frequency", policy.hardwareMaxFrequency.map .ofUInt64),
    ("scaling_min_frequency", policy.scalingMinFrequency.map .ofUInt64),
    ("scaling_max_frequency", policy.scalingMaxFrequency.map .ofUInt64),
    ("scaling_current_frequency", policy.scalingCurrentFrequency.map .ofUInt64),
    ("hardware_current_frequency", policy.hardwareCurrentFrequency.map .ofUInt64),
    ("driver", some (.str policy.driver)),
    ("governor", some (.str policy.governor)),
    ("energy_performance_preference", some (.str policy.energyPerformancePreference))]

def cpuPolicyFromJson (j : Json) : Decode CpuFrequencyPolicy := do
  return {
    index := ← j.read (uint32FromJson "index") "index"
    relatedCpus := ← j.read cpuIdsFromJson "related_cpus"
    affectedCpus := ← j.read cpuIdsFromJson "affected_cpus"
    baseFrequency := ← j.readOptional (uint64FromJson "base_frequency") "base_frequency"
    hardwareMinFrequency :=
      ← j.readOptional (uint64FromJson "hardware_min_frequency") "hardware_min_frequency"
    hardwareMaxFrequency :=
      ← j.readOptional (uint64FromJson "hardware_max_frequency") "hardware_max_frequency"
    scalingMinFrequency :=
      ← j.readOptional (uint64FromJson "scaling_min_frequency") "scaling_min_frequency"
    scalingMaxFrequency :=
      ← j.readOptional (uint64FromJson "scaling_max_frequency") "scaling_max_frequency"
    scalingCurrentFrequency :=
      ← j.readOptional (uint64FromJson "scaling_current_frequency") "scaling_current_frequency"
    hardwareCurrentFrequency :=
      ← j.readOptional (uint64FromJson "hardware_current_frequency") "hardware_current_frequency"
    driver := ← j.readDefault getString [] "driver"
    governor := ← j.readDefault getString [] "governor"
    energyPerformancePreference := ← j.readDefault getString [] "energy_performance_preference" }

@[simp] theorem cpuPolicyFromJson_toJson (policy : CpuFrequencyPolicy) :
    cpuPolicyFromJson (cpuPolicyToJson policy) = .ok policy := by
  simp [cpuPolicyFromJson, cpuPolicyToJson]

def numaNodeToJson (n : NumaNode) : Json :=
  .object [("id", some (.ofUInt32 n.id)), ("cpus", some (cpuIdsToJson n.cpus))]

def numaNodeFromJson (j : Json) : Decode NumaNode := do
  return {
    id := ← j.read (uint32FromJson "id") "id"
    cpus := ← j.read cpuIdsFromJson "cpus" }

@[simp] theorem numaNodeFromJson_toJson (n : NumaNode) :
    numaNodeFromJson (numaNodeToJson n) = .ok n := by
  simp [numaNodeFromJson, numaNodeToJson]

def cpuCacheToJson (c : CpuCache) : Json :=
  .object [
    ("level", some (.ofUInt32 c.level)),
    ("type", some (.ofEnum c.type)),
    ("size", some (.ofUInt64 c.size)),
    ("ways", some (.ofUInt32 c.ways)),
    ("line_size", some (.ofUInt32 c.lineSize)),
    ("cpu_number", some (.ofUInt32 c.cpuNumber)),
    ("cache_id", c.cacheId.map .ofUInt32),
    ("sets", c.sets.map .ofUInt32),
    ("shared_cpus", some (cpuIdsToJson c.sharedCpus))]

def cpuCacheFromJson (j : Json) : Decode CpuCache := do
  return {
    level := ← j.read (uint32FromJson "level") "level"
    type := ← j.read (fun v => do
      validateEnum (← checkedUnsigned 0xffffffff "type" v) CacheType.other "cache.type") "type"
    size := ← j.read (uint64FromJson "size") "size"
    ways := ← j.read (uint32FromJson "ways") "ways"
    lineSize := ← j.read (uint32FromJson "line_size") "line_size"
    cpuNumber := ← j.read (uint32FromJson "cpu_number") "cpu_number"
    cacheId := ← j.readOptional (uint32FromJson "cache_id") "cache_id"
    sets := ← j.readOptional (uint32FromJson "sets") "sets"
    sharedCpus := ← j.readOr cpuIdsFromJson [] "shared_cpus" }

@[simp] theorem cpuCacheFromJson_toJson (c : CpuCache) : cpuCacheFromJson (cpuCacheToJson c) = .ok c := by
  have htype : checkedUnsigned 0xffffffff "type" (.ofEnum c.type) = .ok (CEnum.code c.type) := by
    cases c.type <;> rfl
  have hcode := validateEnum_code "cache.type" (CEnum.code_le_last CacheType.other c.type)
  simp [cpuCacheFromJson, cpuCacheToJson, htype, hcode]

def thermalZoneToJson (t : ThermalZone) : Json :=
  .object [
    ("name", some (.str t.name)),
    ("type", some (.str t.type)),
    ("temp", some (.ofUInt64 t.temp))]

def thermalZoneFromJson (j : Json) : Decode ThermalZone := do
  return {
    name := ← j.read getString "name"
    type := ← j.read getString "type"
    temp := ← j.read (uint64FromJson "temp") "temp" }

@[simp] theorem thermalZoneFromJson_toJson (t : ThermalZone) :
    thermalZoneFromJson (thermalZoneToJson t) = .ok t := by
  simp [thermalZoneFromJson, thermalZoneToJson]

/-! ### The feature summary -/

def cpuFeatureReportToJson (report : CpuFeatureReport) : Json :=
  .object [
    ("name", some (.str report.name)),
    ("reported_cpu_ids", some (cpuIdsToJson report.reportedCpuIds)),
    ("not_reported_cpu_ids", some (cpuIdsToJson report.notReportedCpuIds)),
    ("unknown_cpu_ids", some (cpuIdsToJson report.unknownCpuIds))]

def cpuFeatureSummaryToJson (summary : CpuFeatureSummary) : Json :=
  .object [
    ("logical_cpu_ids", some (cpuIdsToJson summary.logicalCpuIds)),
    ("complete_cpu_ids", some (cpuIdsToJson summary.completeCpuIds)),
    ("observed_union", some (strings summary.observedUnion)),
    ("common", some (match summary.common with
      | some names => strings names
      | none => .null)),
    ("reports", some (.array (summary.reports.map cpuFeatureReportToJson)))]

/-! ### The subsystem -/

def cpuToJson (c : Cpu) : Json :=
  .object [
    ("arch", some (.ofEnum c.arch)),
    ("packages", some (.array (c.packages.map cpuPackageToJson))),
    ("cores", some (.array (c.cores.map cpuCoreToJson))),
    ("logical_cpus", some (.array (c.logicalCpus.map logicalCpuToJson))),
    ("numa_nodes", some (.array (c.numaNodes.map numaNodeToJson))),
    ("isa_extensions", some (.array (c.isaExtensions.map .ofEnum))),
    ("caches", some (.array (c.caches.map cpuCacheToJson))),
    ("governor", some (.str c.governor)),
    ("thermal_zones", some (.array (c.thermalZones.map thermalZoneToJson))),
    ("frequency_policies", some (.array (c.frequencyPolicies.map cpuPolicyToJson))),
    ("present_cpu_ids", c.presentCpuIds.map cpuIdsToJson),
    ("online_cpu_ids", c.onlineCpuIds.map cpuIdsToJson),
    ("smt_supported", c.smtSupported.map .bool),
    ("smt_active", c.smtActive.map .bool),
    ("boost_enabled", c.boostEnabled.map .bool),
    ("smt_control", some (.str c.smtControl)),
    ("feature_summary", some (cpuFeatureSummaryToJson c.featureSummary))]

def isaExtensionFromJson (j : Json) : Decode IsaExtension := do
  validateEnum (← checkedUnsigned 0xffffffff "array item" j) IsaExtension.pclmulqdq "isa_extensions"

@[simp] theorem isaExtensionFromJson_ofEnum (a : IsaExtension) :
    isaExtensionFromJson (.ofEnum a) = .ok a := by
  cases a <;> rfl

def cpuFromJson (j : Json) : Decode Cpu := do
  return {
    arch := ← j.read (enumFromJson Arch.other "arch") "arch"
    packages := ← j.read (readItems cpuPackageFromJson) "packages"
    cores := ← j.read (readItems cpuCoreFromJson) "cores"
    logicalCpus := ← j.read (readItems logicalCpuFromJson) "logical_cpus"
    numaNodes := ← j.read (readItems numaNodeFromJson) "numa_nodes"
    isaExtensions := ← j.read (readItems isaExtensionFromJson) "isa_extensions"
    caches := ← j.readOr (readItems cpuCacheFromJson) [] "caches"
    governor := ← j.readOr getString [] "governor"
    thermalZones := ← j.readOr (readItems thermalZoneFromJson) [] "thermal_zones"
    frequencyPolicies := ← j.readOr (readItems cpuPolicyFromJson) [] "frequency_policies"
    presentCpuIds := ← j.readOptional cpuIdsFromJson "present_cpu_ids"
    onlineCpuIds := ← j.readOptional cpuIdsFromJson "online_cpu_ids"
    smtSupported := ← j.readOptional getBool "smt_supported"
    smtActive := ← j.readOptional getBool "smt_active"
    boostEnabled := ← j.readOptional getBool "boost_enabled"
    smtControl := ← j.readDefault getString [] "smt_control" }

/-- The CPU subsystem comes back from its JSON value. -/
@[simp] theorem cpuFromJson_toJson (c : Cpu) : cpuFromJson (cpuToJson c) = .ok c := by
  simp [cpuFromJson, cpuToJson]

end Sysal
