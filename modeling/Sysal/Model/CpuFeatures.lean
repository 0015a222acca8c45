import Sysal.Model.Cpu

/-!
# CPU feature reports

`cpu_features.cpp`: which logical CPUs report a feature, which do not, and of which nothing is known.
A logical CPU listed twice is unknown for every feature.
-/

namespace Sysal

open Std

/-- The aliases of feature names and their canonical names. -/
def featureAliases : List (Bytes × Bytes) :=
  [(utf8 "pni", utf8 "sse3"), (utf8 "sha_ni", utf8 "sha"), (utf8 "cx16", utf8 "cmpxchg16b"),
   (utf8 "lahf_lm", utf8 "lahf_sahf"), (utf8 "avx512_vnni", utf8 "avx512vnni")]

/-- The features every summary reports on. -/
def knownFeatures : List Bytes :=
  [utf8 "sse", utf8 "sse2", utf8 "sse3", utf8 "ssse3", utf8 "sse4_1", utf8 "sse4_2", utf8 "avx",
   utf8 "avx2", utf8 "avx512f", utf8 "avx512cd", utf8 "avx512bw", utf8 "avx512dq", utf8 "avx512vl",
   utf8 "aes", utf8 "fma", utf8 "f16c", utf8 "pclmulqdq", utf8 "avx512vnni", utf8 "sha",
   utf8 "bmi1", utf8 "bmi2", utf8 "cmpxchg16b", utf8 "lahf_sahf"]

def normalizeCpuFeature (name : Bytes) : Bytes :=
  match featureAliases.find? (·.1 = name) with
  | some (_, canonical) => canonical
  | none => name

/-- What is known about the features of one logical id. -/
structure FeatureEvidence where
  complete : Bool := false
  duplicate : Bool := false
  features : List Bytes := []
  deriving DecidableEq, Inhabited

/-- One logical CPU of the index: a second entry of an id makes it a duplicate. -/
def scanFeatures (index : TreeMap UInt32 FeatureEvidence compare) (logical : LogicalCpu) :
    TreeMap UInt32 FeatureEvidence compare :=
  if index.contains logical.id then
    index.insert logical.id { complete := false, duplicate := true, features := [] }
  else
    index.insert logical.id
      { complete := logical.identification.featuresReported
        features := sortedSet ((logical.identification.features.filter (!·.isEmpty)).map
          normalizeCpuFeature) }

def featureIndex (cpu : Cpu) : TreeMap UInt32 FeatureEvidence compare :=
  cpu.logicalCpus.foldl scanFeatures {}

structure CpuFeatureReport where
  name : Bytes
  reportedCpuIds : List LogicalCpuId
  notReportedCpuIds : List LogicalCpuId
  unknownCpuIds : List LogicalCpuId
  deriving DecidableEq, Inhabited

inductive CpuFeatureState where
  | unknown | reported | notReported
  deriving DecidableEq, Inhabited

/-- The state of one feature on one id of the index. -/
def featureState (name : Bytes) (evidence : FeatureEvidence) : CpuFeatureState :=
  if name.isEmpty || evidence.duplicate then .unknown
  else if name ∈ evidence.features then .reported
  else if evidence.complete then .notReported
  else .unknown

def featureReport (index : TreeMap UInt32 FeatureEvidence compare) (name : Bytes) :
    CpuFeatureReport :=
  let canonical := normalizeCpuFeature name
  let ids (state : CpuFeatureState) : List LogicalCpuId :=
    (index.toList.filter fun entry => featureState canonical entry.2 = state).map (·.1)
  ⟨canonical, ids .reported, ids .notReported, ids .unknown⟩

/-- `CpuIdentification::feature`. -/
def CpuIdentification.feature (identification : CpuIdentification) (name : Bytes) :
    CpuFeatureState :=
  let canonical := normalizeCpuFeature name
  if canonical.isEmpty then .unknown
  else if identification.features.any (normalizeCpuFeature · = canonical) then .reported
  else if identification.featuresReported then .notReported
  else .unknown

/-- `Cpu::feature`. -/
def Cpu.feature (cpu : Cpu) (name : Bytes) : CpuFeatureReport :=
  featureReport (featureIndex cpu) name

structure CpuFeatureSummary where
  logicalCpuIds : List LogicalCpuId
  completeCpuIds : List LogicalCpuId
  observedUnion : List Bytes
  common : Option (List Bytes)
  reports : List CpuFeatureReport
  deriving DecidableEq, Inhabited

/-- `Cpu::feature_summary`: the reports on every observed or known feature. -/
def Cpu.featureSummary (cpu : Cpu) : CpuFeatureSummary :=
  let index := featureIndex cpu
  let entries := index.toList
  let observed := sortedSet (entries.flatMap (·.2.features))
  let complete := entries.filter (·.2.complete)
  let reports := (sortedSet (observed ++ knownFeatures)).map (featureReport index)
  { logicalCpuIds := entries.map (·.1)
    completeCpuIds := complete.map (·.1)
    observedUnion := observed
    common :=
      if !entries.isEmpty && complete.length == entries.length then
        some ((reports.filter (·.reportedCpuIds.length = entries.length)).map (·.name))
      else none
    reports := reports }

end Sysal
