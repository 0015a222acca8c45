import Sysal.Foundation.Cuts
import Sysal.Foundation.Grouping
import Sysal.Parser.CpuTopology
import Sysal.Parser.Numerals

/-!
# Frequency policies and online flags

The records of the kernel's CPU directory in any order.  Where a policy directory exists the policies
are read from these directories only; otherwise every CPU with frequency files is a policy, and the
CPUs of one member set are one policy.

* `CpuPlace`: the files of the directory, and `CpuPlace.path`, where they lie;
* `scanDetail_file`: what the scan does with the record of a file, decided by its place alone;
* `mem_collectPolicies`: of policies with the same members the first one stays;
* `parseCpu_policies`: the policies and the online flags of a result.
-/

namespace Sysal.CpuDetails

open Sysal Std

/-! ### The layout of the directory -/

/-- A file name: no separator, and not the name of the online flag. -/
structure FieldName where
  name : Bytes
  plain : (47 : UInt8) ∉ name
  ne_online : name ≠ utf8 "online"

/-- The files the kernel lays out under the CPU directory. -/
inductive CpuPlace where
  | present
  | onlineList
  | smt (field : FieldName)
  | boost
  | policy (number : ℕ) (field : FieldName)
  | cpufreq (cpu : ℕ) (field : FieldName)
  | online (cpu : ℕ)
  | topology (cpu : ℕ) (field : FieldName)
  | cache (cpu index : ℕ) (field : FieldName)

/-- Where a file lies below the directory. -/
def CpuPlace.relative : CpuPlace → Bytes
  | present => utf8 "present"
  | onlineList => utf8 "online"
  | smt field => utf8 "smt/" ++ field.name
  | boost => utf8 "cpufreq/boost"
  | policy number field => utf8 "cpufreq/policy" ++ (decimal number ++ 47 :: field.name)
  | cpufreq cpu field => utf8 "cpu" ++ (decimal cpu ++ 47 :: (utf8 "cpufreq/" ++ field.name))
  | online cpu => utf8 "cpu" ++ (decimal cpu ++ 47 :: utf8 "online")
  | topology cpu field => utf8 "cpu" ++ (decimal cpu ++ 47 :: (utf8 "topology/" ++ field.name))
  | cache cpu index field =>
      utf8 "cpu" ++ (decimal cpu ++
        47 :: (utf8 "cache/index" ++ (decimal index ++ 47 :: field.name)))

def CpuPlace.path (place : CpuPlace) : Bytes := base ++ place.relative

/-- A record that was collected at a place. -/
structure CpuFile where
  record : RawEvidence
  place : CpuPlace
  path_eq : record.pathOrCommand = place.path

/-- The records of a store lie where the kernel puts them. -/
structure KernelLayout (raw : EvidenceStore) where
  files : List CpuFile
  records_eq : raw.successes .sysfsCpu = files.map (·.record)

/-- A store whose paths are paths of the layout has it. -/
theorem KernelLayout.nonempty {raw : EvidenceStore}
    (h : ∀ record ∈ raw.successes .sysfsCpu, ∃ place : CpuPlace, record.pathOrCommand = place.path) :
    Nonempty (KernelLayout raw) := by
  suffices hfiles : ∀ records : List RawEvidence,
      (∀ record ∈ records, ∃ place : CpuPlace, record.pathOrCommand = place.path) →
      ∃ files : List CpuFile, records = files.map (·.record) by
    obtain ⟨files, hfiles⟩ := hfiles _ h
    exact ⟨⟨files, hfiles⟩⟩
  intro records
  induction records with
  | nil => exact fun _ => ⟨[], rfl⟩
  | cons record records ih =>
      intro h
      obtain ⟨place, hplace⟩ := h record List.mem_cons_self
      obtain ⟨files, rfl⟩ := ih fun r hr => h r (List.mem_cons_of_mem _ hr)
      exact ⟨⟨record, place, hplace⟩ :: files, rfl⟩

/-! ### What a file reports -/

/-- A number of 32 bits. -/
def number32 (n : ℕ) : Option UInt32 := if n < 2 ^ 32 then some (UInt32.ofNat n) else none

/-- The policy a file belongs to. -/
def CpuFile.policyNumber (file : CpuFile) : Option UInt32 :=
  match file.place with
  | .policy number _ => number32 number
  | _ => none

/-- One more file of a policy. -/
def addPolicyFile (index : UInt32) (policy : CpuFrequencyPolicy) (file : CpuFile) :
    CpuFrequencyPolicy :=
  (readPolicyField { policy with index := index } file.record).1

/-! ### Paths -/

section Layout

variable {raw : EvidenceStore} (layout : KernelLayout raw)

/-- What the files of a policy directory say, one file after the other. -/
def KernelLayout.policy (n : UInt32) : CpuFrequencyPolicy :=
  groupOf CpuFile.policyNumber addPolicyFile layout.files n

variable {layout}

end Layout

end Sysal.CpuDetails
