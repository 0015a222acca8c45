import Sysal.Model.Cpu
import Sysal.Parser.ParseUtils

/-!
# CPU lists, frequency policies and online state

`cpu_details.cpp`: the reader of CPU identifier lists and the scan of the sysfs CPU records for the
present and online sets, SMT, boost, per-CPU online flags and frequency policies.
-/

namespace Sysal.CpuDetails

open Sysal Std

/-! ### CPU identifier lists -/

/-- The largest number of CPUs, and the first span, a list may have. -/
def maxCpuCount : ℕ := 65536

/-- The tokens of a CPU list: blanks separate like commas. -/
def cpuListTokens (value : Bytes) : List Bytes :=
  split (value.map fun c => if isSpace c then 44 else c) 44

/-- One token: a number, or a range that is neither reversed nor too long. -/
def parseCpuToken (token : Bytes) : Option (ℕ × ℕ) := do
  let (first, last) ← match Bytes.cut token 45 with
    | some (left, right) => do
      let first ← parseUint left
      let last ← parseUint right
      pure (first, last)
    | none => (parseUint token).map fun first => (first, first)
  if last < first ∨ maxUInt32 < last ∨ maxCpuCount ≤ last - first then none else some (first, last)

/-- The expansion loop of one range, left as soon as the set is too large. -/
def insertCpuRange (ids : TreeSet UInt32 compare) (range : ℕ × ℕ) :
    Option (TreeSet UInt32 compare) :=
  (List.range' range.1 (range.2 - range.1 + 1)).foldlM (fun ids id =>
    let ids := ids.insert (UInt32.ofNat id)
    if maxCpuCount < ids.size then none else some ids) ids

/-- The scan over the tokens; empty ones are skipped. -/
def insertCpuToken (ids : TreeSet UInt32 compare) (token : Bytes) :
    Option (TreeSet UInt32 compare) :=
  if token.isEmpty then some ids else (parseCpuToken token).bind (insertCpuRange ids)

/-- `parse_cpu_id_list`. -/
def parseCpuIdList (value : Bytes) : Option (List LogicalCpuId) :=
  ((cpuListTokens value).foldlM insertCpuToken ∅).map TreeSet.toList

example : parseCpuIdList (utf8 "0-2,2-3 7\n") = some [0, 1, 2, 3, 7] := by decide
example : parseCpuIdList (utf8 "3-1") = none := by decide

/-! ### Frequency policies -/

/-- A kilohertz value as a frequency, if it is positive and the product fits. -/
def khzToFrequency (payload : Bytes) : Option Frequency :=
  match parseUint payload with
  | some v => if 0 < v ∧ v ≤ maxUInt64 / 1000 then some (UInt64.ofNat (v * 1000)) else none
  | none => none

/-- The frequency attributes of a policy and the field each one fills. -/
def frequencyFields : List (Bytes × (CpuFrequencyPolicy → Frequency → CpuFrequencyPolicy)) :=
  [(utf8 "base_frequency", fun p f => { p with baseFrequency := some f }),
   (utf8 "cpuinfo_min_freq", fun p f => { p with hardwareMinFrequency := some f }),
   (utf8 "cpuinfo_max_freq", fun p f => { p with hardwareMaxFrequency := some f }),
   (utf8 "scaling_min_freq", fun p f => { p with scalingMinFrequency := some f }),
   (utf8 "scaling_max_freq", fun p f => { p with scalingMaxFrequency := some f }),
   (utf8 "scaling_cur_freq", fun p f => { p with scalingCurrentFrequency := some f }),
   (utf8 "cpuinfo_cur_freq", fun p f => { p with hardwareCurrentFrequency := some f })]

/-- `read_policy_field`: the policy after one attribute, and the warnings. -/
def readPolicyField (policy : CpuFrequencyPolicy) (record : RawEvidence) :
    CpuFrequencyPolicy × List Bytes :=
  let field := extractFilename record.pathOrCommand
  if field = utf8 "related_cpus" ∨ field = utf8 "affected_cpus" then
    match parseCpuIdList record.payload with
    | some ids =>
      (if field = utf8 "related_cpus" then { policy with relatedCpus := ids }
        else { policy with affectedCpus := ids }, [])
    | none => (policy, [utf8 "parse_cpu: invalid CPU list in " ++ record.pathOrCommand])
  else
    match frequencyFields.find? (·.1 = field) with
    | some (_, set) =>
      match khzToFrequency record.payload with
      | some f => (set policy f, [])
      | none => (policy, [utf8 "parse_cpu: invalid frequency in " ++ record.pathOrCommand])
    | none =>
      (if field = utf8 "scaling_driver" then { policy with driver := trim record.payload }
        else if field = utf8 "scaling_governor" then { policy with governor := trim record.payload }
        else if field = utf8 "energy_performance_preference" then
          { policy with energyPerformancePreference := trim record.payload }
        else policy, [])

/-! ### The scan over the sysfs CPU records -/

def base : Bytes := utf8 "/sys/devices/system/cpu/"
def policyPrefix : Bytes := utf8 "/sys/devices/system/cpu/cpufreq/policy"
def legacyPrefix : Bytes := utf8 "/sys/devices/system/cpu/cpu"

/-- The state of the scan: the CPU fields it fills, the online flags and the policies found so far. -/
structure DetailScan where
  cpu : Cpu := {}
  reportedOnline : TreeMap UInt32 Bool compare := ∅
  policies : TreeMap UInt32 CpuFrequencyPolicy compare := ∅
  warnings : List Bytes := []

/-- `"0"` and `"1"`. -/
def parseFlag (payload : Bytes) : Option Bool :=
  if trim payload = utf8 "0" then some false
  else if trim payload = utf8 "1" then some true
  else none

/-- The policy a path belongs to: `cpufreq/policyN/field`, or `cpuN/cpufreq/field` where no policy
directory exists. -/
def policyIndex (modernPolicies : Bool) (path : Bytes) : Option UInt32 :=
  if path.startsWith policyPrefix ∨ (¬modernPolicies ∧ path.startsWith legacyPrefix) then
    let legacy := !path.startsWith policyPrefix
    let suffix := path.drop (if legacy then legacyPrefix else policyPrefix).length
    match Bytes.cut suffix 47 with
    | none => none
    | some (number, rest) =>
      if legacy ∧ ¬rest.startsWith (utf8 "cpufreq/") then none else parseUint32 number
  else none

/-- One record of the scan. -/
def scanDetail (modernPolicies : Bool) (s : DetailScan) (record : RawEvidence) : DetailScan :=
  let path := record.pathOrCommand
  if path = base ++ utf8 "present" ∨ path = base ++ utf8 "online" then
    let ids := parseCpuIdList record.payload
    { s with
      cpu := if path.endsWith (utf8 "present") then { s.cpu with presentCpuIds := ids }
        else { s.cpu with onlineCpuIds := ids }
      warnings := s.warnings ++
        if ids.isNone then [utf8 "parse_cpu: invalid CPU list in " ++ path] else [] }
  else if path = base ++ utf8 "smt/control" then
    let control := trim record.payload
    { s with
      cpu := { s.cpu with
        smtControl := control
        smtSupported :=
          if control = utf8 "notsupported" then some false
          else if control = utf8 "on" ∨ control = utf8 "off" ∨ control = utf8 "forceoff" then
            some true
          else s.cpu.smtSupported } }
  else if path = base ++ utf8 "smt/active" ∨ path = base ++ utf8 "cpufreq/boost" then
    match parseFlag record.payload with
    | some value =>
      { s with
        cpu := if path.endsWith (utf8 "active") then { s.cpu with smtActive := some value }
          else { s.cpu with boostEnabled := some value } }
    | none => s
  else if path.startsWith legacyPrefix ∧ path.endsWith (utf8 "/online") then
    let suffix := path.drop legacyPrefix.length
    match parseUint32 (suffix.takeWhile (· ≠ 47)), parseFlag record.payload with
    | some number, some value => { s with reportedOnline := s.reportedOnline.insert number value }
    | _, _ => s
  else
    match policyIndex modernPolicies path with
    | some index =>
      let policy := { s.policies.getD index default with index := index }
      let read := readPolicyField policy record
      { s with
        policies := s.policies.insert index read.1
        warnings := s.warnings ++ read.2 }
    | none => s

/-- Policies in index order; without policy directories a repeated member set is dropped. -/
def collectPolicies (modernPolicies : Bool) :
    List (List LogicalCpuId) → List CpuFrequencyPolicy → List CpuFrequencyPolicy
  | _, [] => []
  | members, policy :: rest =>
    if ¬modernPolicies ∧ policy.relatedCpus ≠ [] then
      if policy.relatedCpus ∈ members then collectPolicies modernPolicies members rest
      else policy :: collectPolicies modernPolicies (policy.relatedCpus :: members) rest
    else policy :: collectPolicies modernPolicies members rest

/-- The online flag of a logical CPU: the online list when it is known, else the CPU's own file. -/
def onlineState (onlineCpuIds : Option (List LogicalCpuId))
    (reportedOnline : TreeMap UInt32 Bool compare) (logical : LogicalCpu) : LogicalCpu :=
  let logical := match reportedOnline[logical.id]? with
    | some value => { logical with online := some value }
    | none => logical
  match onlineCpuIds with
  | some online => { logical with online := some (decide (logical.id ∈ online)) }
  | none => logical

/-- `read_cpu_details`: the CPU with the details filled in, and the warnings. -/
def readCpuDetails (raw : EvidenceStore) (cpu : Cpu) : Cpu × List Bytes :=
  let records := raw.successes .sysfsCpu
  let modernPolicies := records.any fun record => record.pathOrCommand.startsWith policyPrefix
  let s := records.foldl (scanDetail modernPolicies) { cpu := cpu }
  ({ s.cpu with
      frequencyPolicies := s.cpu.frequencyPolicies ++
        collectPolicies modernPolicies [] (s.policies.toList.map Prod.snd)
      logicalCpus := s.cpu.logicalCpus.map (onlineState s.cpu.onlineCpuIds s.reportedOnline) },
    s.warnings)

end Sysal.CpuDetails
