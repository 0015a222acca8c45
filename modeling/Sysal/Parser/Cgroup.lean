import Mathlib.Data.Rat.Lemmas
import Mathlib.Algebra.Order.Ring.Rat
import Sysal.Foundation.FsPath
import Sysal.Foundation.LimitSummary
import Sysal.Model.Execution
import Sysal.Parser.ParseUtils

/-!
# Control group limits

`cgroup.cpp` of the parsers: the limits of a control group hierarchy, summarized from the files of
every level.  `cpuReading` and `memoryReading` say what one record contributes; the scan of the source
is the summary of these readings (`scanLimits_cpu`, `scanLimits_memory`), so that it does not depend
on the order of the records (`parseCgroupLimits_summary`).
-/

namespace Sysal

namespace Cgroups

/-! ### One limit -/

/-- A quota and its period. -/
structure CpuBudget where
  quota : Microseconds
  period : Microseconds
  deriving DecidableEq

/-- The order of budgets: the exact quotient. -/
def CpuBudget.ratio (budget : CpuBudget) : ℚ := budget.quota.toNat / budget.period.toNat

structure MemoryLimit where
  size : MemorySize
  deriving DecidableEq

def MemoryLimit.bytes (limit : MemoryLimit) : ℕ := limit.size.toNat

/-- `read_cpu_limit`: the summary and the period of the first unlimited quota. -/
def readCpuLimit (limits : LimitSummary CpuBudget) (unlimitedPeriod : Option Microseconds)
    (quotaText periodText : Bytes) : LimitSummary CpuBudget × Option Microseconds :=
  let isUnlimited := quotaText = utf8 "max" ∨ quotaText = utf8 "-1"
  match parseUint periodText, parseUint quotaText with
  | none, _ => (limits.unreadable, unlimitedPeriod)
  | some period, quota =>
      if period = 0 ∨ (¬isUnlimited ∧ (quota = none ∨ quota = some 0)) then
        (limits.unreadable, unlimitedPeriod)
      else if isUnlimited then
        (limits.unlimited, if unlimitedPeriod = none then some (.ofNat period) else unlimitedPeriod)
      else
        (limits.adopt CpuBudget.ratio ⟨.ofNat (quota.getD 0), .ofNat period⟩, unlimitedPeriod)

/-- The largest value the kernel reports where there is no limit, less a page of up to 64 kilobytes. -/
def unlimitedMemory : ℕ := 2 ^ 63 - 1 - 65535

/-- `read_memory_limit`. -/
def readMemoryLimit (limits : LimitSummary MemoryLimit) (name value : Bytes) :
    LimitSummary MemoryLimit :=
  let limit := parseUint value
  if value = utf8 "max" ∨
      (name = utf8 "memory.limit_in_bytes" ∧ limit.any (unlimitedMemory ≤ ·)) then
    limits.unlimited
  else
    match limit with
    | some limit => limits.adopt MemoryLimit.bytes ⟨.ofNat limit⟩
    | none => limits.unreadable

/-! ### The scan -/

/-- The trimmed payload of the first successful record of a path. -/
def fileValue (records : List RawEvidence) (path : Bytes) : Option Bytes :=
  (records.find? fun r => r.status = .success ∧ r.pathOrCommand = path).map (trim ·.payload)

/-- The file with the period that belongs to a quota file. -/
def periodPath (path : Bytes) : Bytes :=
  FsPath.append (FsPath.parentPath path) (utf8 "cpu.cfs_period_us")

/-- The scan between two records: the summaries and the fields filled on the way. -/
structure LimitScan where
  cpu : LimitSummary CpuBudget := {}
  memory : LimitSummary MemoryLimit := {}
  unlimitedPeriod : Option Microseconds := none
  context : ExecutionContext

/-- Put a CPU limit into the scan. -/
def LimitScan.readCpu (s : LimitScan) (quota period : Bytes) : LimitScan :=
  let read := readCpuLimit s.cpu s.unlimitedPeriod quota period
  { s with cpu := read.1, unlimitedPeriod := read.2 }

/-- One record of the scan. -/
def scanLimit (records : List RawEvidence) (s : LimitScan) (record : RawEvidence) : LimitScan :=
  if record.status = .notCollected then s
  else
    let name := FsPath.fileName record.pathOrCommand
    let value := trim record.payload
    let readable : Bool := record.status = .success
    if name = utf8 "cpu.max" then
      match readable, words value with
      | true, [quota, period] => s.readCpu quota period
      | _, _ => { s with cpu := s.cpu.unreadable }
    else if name = utf8 "cpu.cfs_quota_us" then
      match readable, fileValue records (periodPath record.pathOrCommand) with
      | true, some period => s.readCpu value period
      | _, _ => { s with cpu := s.cpu.unreadable }
    else if name = utf8 "memory.max" ∨ name = utf8 "memory.limit_in_bytes" then
      if readable then { s with memory := readMemoryLimit s.memory name value }
      else { s with memory := s.memory.unreadable }
    else if readable ∧ (name = utf8 "memory.current" ∨ name = utf8 "memory.usage_in_bytes") then
      match parseUint value with
      | some current =>
          if s.context.cgroup.memoryCurrent = none then
            { s with context := { s.context with
                cgroup := { s.context.cgroup with memoryCurrent := some (.ofNat current) } } }
          else s
      | none => s
    else if readable ∧ name = utf8 "cpuset.cpus.effective" ∧ s.context.cpuset.cpusEffective = [] then
      { s with context := { s.context with
          cpuset := { s.context.cpuset with cpusEffective := value } } }
    else if readable ∧ name = utf8 "cpuset.mems.effective" ∧ s.context.cpuset.memsEffective = [] then
      { s with context := { s.context with
          cpuset := { s.context.cpuset with memsEffective := value } } }
    else s

def scanLimits (records : List RawEvidence) (context : ExecutionContext) : LimitScan :=
  records.foldl (scanLimit records) { context := context }

/-- The limits written into the context. -/
def finishLimits (s : LimitScan) : ExecutionContext :=
  let group := { s.context.cgroup with
    cpuLimitKnown := s.cpu.known
    memoryLimitKnown := s.memory.known }
  let group := match s.cpu.value with
    | some budget => { group with cpuQuotaUs := some budget.quota, cpuPeriodUs := some budget.period }
    | none => { group with cpuPeriodUs := s.unlimitedPeriod }
  let group := match s.memory.value with
    | some limit => { group with memoryLimit := some limit.size }
    | none => group
  { s.context with cgroup := group }

end Cgroups

open Cgroups

/-- `parse_cgroup_limits`: the context with the limits, and the warnings. -/
def parseCgroupLimits (raw : EvidenceStore) (context : ExecutionContext) :
    ExecutionContext × List Bytes :=
  let s := scanLimits (raw.getAll .cgroupFile) context
  (finishLimits s,
    (if s.cpu.incomplete then
      [utf8 "[cgroup] CPU limit hierarchy incomplete; observed quota is only an upper bound"]
      else []) ++
    (if s.memory.incomplete then
      [utf8 "[cgroup] memory limit hierarchy incomplete; observed limit is only an upper bound"]
      else []))

namespace Cgroups

/-! ### What the limits leave alone -/

/-- A quota and a period as texts: a limit, no limit, or something that cannot be read. -/
def cpuLimit (quotaText periodText : Bytes) : LimitReading CpuBudget :=
  match parseUint periodText with
  | none | some 0 => .unreadable
  | some period =>
      if quotaText = utf8 "max" ∨ quotaText = utf8 "-1" then .unlimited
      else
        match parseUint quotaText with
        | none | some 0 => .unreadable
        | some quota => .finite ⟨.ofNat quota, .ofNat period⟩

/-- A memory limit as a text; a huge value of the old interface stands for no limit. -/
def memoryLimit (name value : Bytes) : LimitReading MemoryLimit :=
  if value = utf8 "max" then .unlimited
  else
    match parseUint value with
    | none => .unreadable
    | some limit =>
        if name = utf8 "memory.limit_in_bytes" ∧ unlimitedMemory ≤ limit then .unlimited
        else .finite ⟨.ofNat limit⟩

/-- What a record says about the CPU limit, if it is considered for it. -/
def cpuReading (records : List RawEvidence) (record : RawEvidence) :
    Option (LimitReading CpuBudget) :=
  if record.status = .notCollected then none
  else if FsPath.fileName record.pathOrCommand = utf8 "cpu.max" then
    match words (trim record.payload) with
    | [quota, period] =>
        if record.status = .success then some (cpuLimit quota period) else some .unreadable
    | _ => some .unreadable
  else if FsPath.fileName record.pathOrCommand = utf8 "cpu.cfs_quota_us" then
    match fileValue records (periodPath record.pathOrCommand) with
    | some period =>
        if record.status = .success then some (cpuLimit (trim record.payload) period)
        else some .unreadable
    | none => some .unreadable
  else none

/-- What a record says about the memory limit, if it is considered for it. -/
def memoryReading (record : RawEvidence) : Option (LimitReading MemoryLimit) :=
  let name := FsPath.fileName record.pathOrCommand
  if record.status = .notCollected then none
  else if name = utf8 "memory.max" ∨ name = utf8 "memory.limit_in_bytes" then
    if record.status = .success then some (memoryLimit name (trim record.payload))
    else some .unreadable
  else none

/-- The readings of a hierarchy. -/
def cpuReadings (records : List RawEvidence) : List (LimitReading CpuBudget) :=
  records.filterMap (cpuReading records)

def memoryReadings (records : List RawEvidence) : List (LimitReading MemoryLimit) :=
  records.filterMap memoryReading

theorem readCpuLimit_fst (limits : LimitSummary CpuBudget) (unlimitedPeriod : Option Microseconds)
    (quotaText periodText : Bytes) :
    (readCpuLimit limits unlimitedPeriod quotaText periodText).1 =
      limits.read CpuBudget.ratio (cpuLimit quotaText periodText) := by
  rw [readCpuLimit, cpuLimit]
  rcases parseUint periodText with _ | period
  · rfl
  · cases period with
    | zero => rfl
    | succ period =>
        by_cases hmax : quotaText = utf8 "max" ∨ quotaText = utf8 "-1"
        · simp [hmax, LimitSummary.read]
        · rcases parseUint quotaText with _ | quota
          · simp [hmax, LimitSummary.read]
          · cases quota with
            | zero => simp [hmax, LimitSummary.read]
            | succ quota => simp [hmax, LimitSummary.read]

theorem readMemoryLimit_eq (limits : LimitSummary MemoryLimit) (name value : Bytes) :
    readMemoryLimit limits name value =
      limits.read MemoryLimit.bytes (memoryLimit name value) := by
  rw [readMemoryLimit, memoryLimit]
  by_cases hmax : value = utf8 "max"
  · simp [hmax, LimitSummary.read]
  · rcases parseUint value with _ | limit
    · simp [hmax, LimitSummary.read]
    · by_cases hsentinel : name = utf8 "memory.limit_in_bytes" ∧ unlimitedMemory ≤ limit
      · simp [hmax, hsentinel, LimitSummary.read]
      · simp [hmax, hsentinel, LimitSummary.read]

/-- An adopted budget has a period to divide by. -/
theorem cpuLimit_period {quotaText periodText : Bytes} {budget : CpuBudget}
    (h : cpuLimit quotaText periodText = .finite budget) : budget.period ≠ 0 := by
  rw [cpuLimit] at h
  split at h
  · cases h
  · cases h
  · rename_i period hzero hperiod
    split at h
    · cases h
    · split at h
      · cases h
      · cases h
      · injection h with h
        rw [← h]
        intro heq
        have hlt : period < UInt64.size := parseUint_lt hperiod
        have hnat := congrArg UInt64.toNat heq
        rw [UInt64.toNat_ofNat_of_lt' hlt] at hnat
        exact hzero (by rw [hnat]; rfl)

/-! ### The scan is a summary -/

/-- The CPU summary after one record. -/
theorem scanLimit_cpu (records : List RawEvidence) (s : LimitScan) (record : RawEvidence) :
    (scanLimit records s record).cpu =
      (cpuReading records record).elim s.cpu (s.cpu.read CpuBudget.ratio) := by
  rw [scanLimit, cpuReading]
  by_cases hskip : record.status = .notCollected
  · rw [if_pos hskip, if_pos hskip]
    rfl
  rw [if_neg hskip, if_neg hskip]
  dsimp only
  by_cases hmax : FsPath.fileName record.pathOrCommand = utf8 "cpu.max"
  · rw [if_pos hmax, if_pos hmax]
    by_cases hsuccess : record.status = .success
    · simp only [hsuccess, decide_true, if_true]
      rcases words (trim record.payload) with _ | ⟨quota, _ | ⟨period, _ | ⟨extra, rest⟩⟩⟩
      · rfl
      · rfl
      · exact readCpuLimit_fst _ _ _ _
      · rfl
    · simp only [hsuccess, decide_false]
      split <;> rfl
  rw [if_neg hmax, if_neg hmax]
  by_cases hquota : FsPath.fileName record.pathOrCommand = utf8 "cpu.cfs_quota_us"
  · rw [if_pos hquota, if_pos hquota]
    by_cases hsuccess : record.status = .success
    · simp only [hsuccess, decide_true]
      rcases fileValue records (periodPath record.pathOrCommand) with _ | period
      · rfl
      · exact readCpuLimit_fst _ _ _ _
    · simp only [hsuccess, decide_false]
      rcases fileValue records (periodPath record.pathOrCommand) with _ | period <;> rfl
  rw [if_neg hquota, if_neg hquota]
  dsimp only [Option.elim]
  split
  · split <;> rfl
  · split
    · split
      · split <;> rfl
      · rfl
    · split
      · rfl
      · split <;> rfl

/-- The memory summary after one record. -/
theorem scanLimit_memory (records : List RawEvidence) (s : LimitScan) (record : RawEvidence) :
    (scanLimit records s record).memory =
      (memoryReading record).elim s.memory (s.memory.read MemoryLimit.bytes) := by
  rw [scanLimit, memoryReading]
  by_cases hskip : record.status = .notCollected
  · rw [if_pos hskip, if_pos hskip]
    rfl
  rw [if_neg hskip, if_neg hskip]
  dsimp only
  by_cases hmax : FsPath.fileName record.pathOrCommand = utf8 "cpu.max"
  · rw [if_pos hmax, hmax, if_neg (by decide)]
    split <;> rfl
  rw [if_neg hmax]
  by_cases hquota : FsPath.fileName record.pathOrCommand = utf8 "cpu.cfs_quota_us"
  · rw [if_pos hquota, hquota, if_neg (by decide)]
    split <;> rfl
  rw [if_neg hquota]
  by_cases hmemory : FsPath.fileName record.pathOrCommand = utf8 "memory.max" ∨
      FsPath.fileName record.pathOrCommand = utf8 "memory.limit_in_bytes"
  · rw [if_pos hmemory, if_pos hmemory]
    by_cases hsuccess : record.status = .success
    · simp only [hsuccess, decide_true, if_true]
      exact readMemoryLimit_eq _ _ _
    · simp only [hsuccess, decide_false, Bool.false_eq_true, if_false]
      rfl
  rw [if_neg hmemory, if_neg hmemory]
  dsimp only [Option.elim]
  split
  · split
    · split <;> rfl
    · rfl
  · split
    · rfl
    · split <;> rfl

/-- Folding the considered readings of a list is folding over the list. -/
theorem foldl_filterMap_read {α β σ : Type*} (f : α → Option β) (g : σ → β → σ) (l : List α) (s : σ) :
    (l.filterMap f).foldl g s = l.foldl (fun s a => (f a).elim s (g s)) s := by
  induction l generalizing s with
  | nil => rfl
  | cons a l ih =>
      rw [List.filterMap_cons, List.foldl_cons]
      rcases f a with _ | b
      · exact ih s
      · exact ih (g s b)

/-- **The CPU summary of a hierarchy** is the summary of its readings. -/
theorem scanLimits_cpu (records : List RawEvidence) (context : ExecutionContext) :
    (scanLimits records context).cpu = LimitSummary.summarize CpuBudget.ratio (cpuReadings records) := by
  rw [LimitSummary.summarize, cpuReadings, foldl_filterMap_read, scanLimits]
  exact (List.foldl_hom LimitScan.cpu fun s r => (scanLimit_cpu records s r).symm).symm

/-- **The memory summary of a hierarchy** is the summary of its readings. -/
theorem scanLimits_memory (records : List RawEvidence) (context : ExecutionContext) :
    (scanLimits records context).memory =
      LimitSummary.summarize MemoryLimit.bytes (memoryReadings records) := by
  rw [LimitSummary.summarize, memoryReadings, foldl_filterMap_read, scanLimits]
  exact (List.foldl_hom LimitScan.memory fun s r => (scanLimit_memory records s r).symm).symm

/-! ### The order of the records -/

/-- The records of period files that were read. -/
def periodFiles (records : List RawEvidence) : List RawEvidence :=
  records.filter fun r =>
    r.status = .success ∧ FsPath.fileName r.pathOrCommand = utf8 "cpu.cfs_period_us"

theorem fileName_periodPath (path : Bytes) :
    FsPath.fileName (periodPath path) = utf8 "cpu.cfs_period_us" :=
  FsPath.fileName_append (by decide +kernel)

/-- Period files with distinct paths are found whatever the order of the records. -/
theorem fileValue_perm {records records' : List RawEvidence} (h : records.Perm records')
    (hdistinct : ((periodFiles records).map (·.pathOrCommand)).Nodup) (path : Bytes) :
    fileValue records (periodPath path) = fileValue records' (periodPath path) := by
  rw [fileValue, fileValue, ← List.head?_filter, ← List.head?_filter]
  have hperm := h.filter fun r => decide (r.status = .success ∧ r.pathOrCommand = periodPath path)
  -- at most one record has the path
  have hone : (records.filter fun r =>
      decide (r.status = .success ∧ r.pathOrCommand = periodPath path)).length ≤ 1 := by
    have hsub : (records.filter fun r =>
        decide (r.status = .success ∧ r.pathOrCommand = periodPath path)) =
        (periodFiles records).filter fun r => decide (r.pathOrCommand = periodPath path) := by
      rw [periodFiles, List.filter_filter]
      refine List.filter_congr fun r _ => ?_
      rw [← Bool.decide_and, decide_eq_decide]
      constructor
      · rintro ⟨hs, hp⟩
        exact ⟨hp, hs, by rw [hp, fileName_periodPath]⟩
      · rintro ⟨hp, hs, -⟩
        exact ⟨hs, hp⟩
    have hcount : ((periodFiles records).map (·.pathOrCommand)).count (periodPath path) ≤ 1 :=
      List.nodup_iff_count_le_one.mp hdistinct _
    rw [hsub, ← List.countP_eq_length_filter]
    refine Nat.le_trans (Nat.le_of_eq ?_) hcount
    rw [List.count, List.countP_map]
    exact List.countP_congr fun r _ => by simp
  refine congrArg (fun l : List RawEvidence => l.head?.map (trim ·.payload)) ?_
  generalize List.filter _ records = found at hperm hone
  rcases found with _ | ⟨r, _ | ⟨r', rest⟩⟩
  · exact (List.nil_perm.mp hperm).symm
  · exact List.singleton_perm.mp hperm
  · simp at hone

theorem cpuReadings_perm {records records' : List RawEvidence} (h : records.Perm records')
    (hdistinct : ((periodFiles records).map (·.pathOrCommand)).Nodup) :
    (cpuReadings records).Perm (cpuReadings records') := by
  have heq : cpuReading records = cpuReading records' := by
    funext record
    rw [cpuReading, cpuReading, fileValue_perm h hdistinct]
  rw [cpuReadings, cpuReadings, heq]
  exact h.filterMap _

/-! ### The limits of a hierarchy -/

/-- The CPU budget of a context, if a quota is set. -/
def cpuRatio (group : Cgroup) : Option ℚ :=
  match group.cpuQuotaUs, group.cpuPeriodUs with
  | some quota, some period => some (CpuBudget.ratio ⟨quota, period⟩)
  | _, _ => none

/-- What the fields of a context say about the readings of a hierarchy. -/
structure Summarized (records : List RawEvidence) (group : Cgroup) : Prop where
  memory_none : group.memoryLimit = none ↔ ∀ limit, .finite limit ∉ memoryReadings records
  memory_least : ∀ size, group.memoryLimit = some size →
    .finite ⟨size⟩ ∈ memoryReadings records ∧
      ∀ limit, .finite limit ∈ memoryReadings records → size.toNat ≤ limit.size.toNat
  cpu_none : group.cpuQuotaUs = none ↔ ∀ budget, .finite budget ∉ cpuReadings records
  cpu_least : ∀ quota, group.cpuQuotaUs = some quota → ∃ period, group.cpuPeriodUs = some period ∧
    .finite ⟨quota, period⟩ ∈ cpuReadings records ∧
      ∀ budget, .finite budget ∈ cpuReadings records → CpuBudget.ratio ⟨quota, period⟩ ≤ budget.ratio
  memory_known : group.memoryLimitKnown = true ↔
    (∃ r ∈ memoryReadings records, r ≠ .unreadable) ∧ .unreadable ∉ memoryReadings records
  cpu_known : group.cpuLimitKnown = true ↔
    (∃ r ∈ cpuReadings records, r ≠ .unreadable) ∧ .unreadable ∉ cpuReadings records

/-- The scan leaves the limits of the context alone. -/
theorem scanLimit_context (records : List RawEvidence) (s : LimitScan) (record : RawEvidence) :
    (scanLimit records s record).context.cgroup.memoryLimit = s.context.cgroup.memoryLimit ∧
      (scanLimit records s record).context.cgroup.cpuQuotaUs = s.context.cgroup.cpuQuotaUs := by
  rw [scanLimit]
  split
  · exact ⟨rfl, rfl⟩
  dsimp only
  split
  · split <;> exact ⟨rfl, rfl⟩
  split
  · split <;> exact ⟨rfl, rfl⟩
  split
  · split <;> exact ⟨rfl, rfl⟩
  split
  · split
    · split <;> exact ⟨rfl, rfl⟩
    · exact ⟨rfl, rfl⟩
  split
  · exact ⟨rfl, rfl⟩
  split <;> exact ⟨rfl, rfl⟩

theorem scanLimits_context (records : List RawEvidence) (context : ExecutionContext) :
    (scanLimits records context).context.cgroup.memoryLimit = context.cgroup.memoryLimit ∧
      (scanLimits records context).context.cgroup.cpuQuotaUs = context.cgroup.cpuQuotaUs := by
  have hfold : ∀ (l : List RawEvidence) (s : LimitScan),
      (l.foldl (scanLimit records) s).context.cgroup.memoryLimit = s.context.cgroup.memoryLimit ∧
        (l.foldl (scanLimit records) s).context.cgroup.cpuQuotaUs = s.context.cgroup.cpuQuotaUs := by
    intro l
    induction l with
    | nil => exact fun s => ⟨rfl, rfl⟩
    | cons record l ih =>
        intro s
        obtain ⟨hmemory, hquota⟩ := scanLimit_context records s record
        obtain ⟨ihmemory, ihquota⟩ := ih (scanLimit records s record)
        exact ⟨ihmemory.trans hmemory, ihquota.trans hquota⟩
  exact hfold records { context := context }

section fresh

variable (records : List RawEvidence) {context : ExecutionContext}
  (hmemory : context.cgroup.memoryLimit = none) (hquota : context.cgroup.cpuQuotaUs = none)
include hmemory in
/-- In a context without a memory limit the field is the value of the summary. -/
theorem finishLimits_memoryLimit :
    (finishLimits (scanLimits records context)).cgroup.memoryLimit =
      (LimitSummary.summarize MemoryLimit.bytes (memoryReadings records)).value.map (·.size) := by
  rw [finishLimits, scanLimits_memory]
  dsimp only
  rcases (LimitSummary.summarize MemoryLimit.bytes (memoryReadings records)).value with _ | limit
  · rcases (scanLimits records context).cpu.value with _ | budget
    · exact (scanLimits_context records context).1.trans hmemory
    · exact (scanLimits_context records context).1.trans hmemory
  · rfl

include hquota in
/-- In a context without a quota the fields are the value of the summary. -/
theorem finishLimits_cpu :
    (finishLimits (scanLimits records context)).cgroup.cpuQuotaUs =
        (LimitSummary.summarize CpuBudget.ratio (cpuReadings records)).value.map (·.quota) ∧
      ∀ budget, (LimitSummary.summarize CpuBudget.ratio (cpuReadings records)).value = some budget →
        (finishLimits (scanLimits records context)).cgroup.cpuPeriodUs = some budget.period := by
  rw [finishLimits, scanLimits_cpu]
  dsimp only
  rcases (LimitSummary.summarize CpuBudget.ratio (cpuReadings records)).value with _ | budget
  · refine ⟨?_, fun budget h => by cases h⟩
    rcases (scanLimits records context).memory.value with _ | limit
    · exact (scanLimits_context records context).2.trans hquota
    · exact (scanLimits_context records context).2.trans hquota
  · rcases (scanLimits records context).memory.value with _ | limit
    · refine ⟨rfl, ?_⟩
      rintro _ ⟨⟩
      rfl
    · refine ⟨rfl, ?_⟩
      rintro _ ⟨⟩
      rfl

theorem finishLimits_known :
    (finishLimits (scanLimits records context)).cgroup.memoryLimitKnown =
        (LimitSummary.summarize MemoryLimit.bytes (memoryReadings records)).known ∧
      (finishLimits (scanLimits records context)).cgroup.cpuLimitKnown =
        (LimitSummary.summarize CpuBudget.ratio (cpuReadings records)).known := by
  rw [← scanLimits_memory records context, ← scanLimits_cpu records context, finishLimits]
  dsimp only
  rcases (scanLimits records context).cpu.value with _ | budget
  · rcases (scanLimits records context).memory.value with _ | limit <;> exact ⟨rfl, rfl⟩
  · rcases (scanLimits records context).memory.value with _ | limit <;> exact ⟨rfl, rfl⟩

include hquota in
theorem finishLimits_cpuRatio :
    cpuRatio (finishLimits (scanLimits records context)).cgroup =
      (LimitSummary.summarize CpuBudget.ratio (cpuReadings records)).value.map CpuBudget.ratio := by
  obtain ⟨hq, hp⟩ := finishLimits_cpu records hquota
  rw [cpuRatio, hq]
  rcases hvalue : (LimitSummary.summarize CpuBudget.ratio (cpuReadings records)).value with _ | budget
  · rfl
  · rw [hp budget hvalue]
    rfl

include hmemory hquota in
theorem finishLimits_summarized :
    Summarized records (finishLimits (scanLimits records context)).cgroup := by
  obtain ⟨hq, hp⟩ := finishLimits_cpu records hquota
  obtain ⟨hknownMemory, hknownCpu⟩ := @finishLimits_known records context
  have hm := finishLimits_memoryLimit records hmemory
  refine ⟨?_, ?_, ?_, ?_, ?_, ?_⟩
  · rw [hm, Option.map_eq_none_iff]
    exact LimitSummary.value_summarize_eq_none _
  · intro size hsize
    rw [hm, Option.map_eq_some_iff] at hsize
    obtain ⟨limit, hlimit, rfl⟩ := hsize
    exact (LimitSummary.value_summarize _ _).1 limit hlimit
  · rw [hq, Option.map_eq_none_iff]
    exact LimitSummary.value_summarize_eq_none _
  · intro quota hquota'
    rw [hq, Option.map_eq_some_iff] at hquota'
    obtain ⟨budget, hbudget, rfl⟩ := hquota'
    exact ⟨budget.period, hp budget hbudget, (LimitSummary.value_summarize _ _).1 budget hbudget⟩
  · rw [hknownMemory]
    exact LimitSummary.known_summarize _ _
  · rw [hknownCpu]
    exact LimitSummary.known_summarize _ _

end fresh

/-- An adopted budget has a period to divide by. -/
theorem period_of_mem_cpuReadings {records : List RawEvidence} {budget : CpuBudget}
    (h : .finite budget ∈ cpuReadings records) : budget.period ≠ 0 := by
  obtain ⟨record, -, hread⟩ := List.mem_filterMap.mp h
  rw [cpuReading] at hread
  split at hread
  · cases hread
  split at hread
  · split at hread
    · split at hread
      · exact cpuLimit_period (Option.some.inj hread)
      · cases hread
    · cases hread
  split at hread
  · split at hread
    · split at hread
      · exact cpuLimit_period (Option.some.inj hread)
      · cases hread
    · cases hread
  · cases hread

/-- **The limits of a hierarchy**: in a fresh context the fields summarize the readings of all
records, no budget is divided by a period of zero, and the flags, the memory limit and the CPU ratio
are the same for every order of the records. -/
theorem parseCgroupLimits_summary (raw raw' : EvidenceStore) (context : ExecutionContext)
    (hmemory : context.cgroup.memoryLimit = none) (hquota : context.cgroup.cpuQuotaUs = none)
    (hperm : (raw.getAll .cgroupFile).Perm (raw'.getAll .cgroupFile))
    (hdistinct : ((periodFiles (raw.getAll .cgroupFile)).map (·.pathOrCommand)).Nodup) :
    Summarized (raw.getAll .cgroupFile) (parseCgroupLimits raw context).1.cgroup ∧
      (∀ budget, .finite budget ∈ cpuReadings (raw.getAll .cgroupFile) → budget.period ≠ 0) ∧
      (parseCgroupLimits raw' context).1.cgroup.cpuLimitKnown =
        (parseCgroupLimits raw context).1.cgroup.cpuLimitKnown ∧
      (parseCgroupLimits raw' context).1.cgroup.memoryLimitKnown =
        (parseCgroupLimits raw context).1.cgroup.memoryLimitKnown ∧
      (parseCgroupLimits raw' context).1.cgroup.memoryLimit =
        (parseCgroupLimits raw context).1.cgroup.memoryLimit ∧
      cpuRatio (parseCgroupLimits raw' context).1.cgroup =
        cpuRatio (parseCgroupLimits raw context).1.cgroup := by
  have hcpu := cpuReadings_perm hperm hdistinct
  have hmem : (memoryReadings (raw.getAll .cgroupFile)).Perm
      (memoryReadings (raw'.getAll .cgroupFile)) := hperm.filterMap _
  refine ⟨finishLimits_summarized _ hmemory hquota, fun budget h => period_of_mem_cpuReadings h,
    ?_, ?_, ?_, ?_⟩
  · refine (finishLimits_known _).2.trans (Eq.trans ?_ (finishLimits_known _).2.symm)
    exact (LimitSummary.known_summarize_perm _ hcpu).symm
  · refine (finishLimits_known _).1.trans (Eq.trans ?_ (finishLimits_known _).1.symm)
    exact (LimitSummary.known_summarize_perm _ hmem).symm
  · refine (finishLimits_memoryLimit _ hmemory).trans
      (Eq.trans ?_ (finishLimits_memoryLimit _ hmemory).symm)
    have hkey := LimitSummary.key_value_summarize_perm MemoryLimit.bytes hmem
    have hinj : Function.Injective MemoryLimit.bytes := fun a b h => by
      cases a
      cases b
      exact congrArg MemoryLimit.mk (UInt64.toNat_inj.mp h)
    rw [Option.map_injective hinj hkey]
  · refine (finishLimits_cpuRatio _ hquota).trans (Eq.trans ?_ (finishLimits_cpuRatio _ hquota).symm)
    exact (LimitSummary.key_value_summarize_perm _ hcpu).symm

/-- A hierarchy of the old interface: a quota of half a CPU, its period, and an unreadable memory
limit. -/
def halfCpu : EvidenceStore :=
  { records :=
      [⟨.cgroupFile, utf8 "/cg/job/cpu.cfs_quota_us", utf8 "50000\n", .success, none, none⟩,
       ⟨.cgroupFile, utf8 "/cg/job/cpu.cfs_period_us", utf8 "100000\n", .success, none, none⟩,
       ⟨.cgroupFile, utf8 "/cg/job/memory.limit_in_bytes", [], .failed, none, none⟩] }

theorem parseCgroupLimits_summary_halfCpu :
    cpuRatio (parseCgroupLimits { halfCpu with records := halfCpu.records.reverse } {}).1.cgroup =
        cpuRatio (parseCgroupLimits halfCpu {}).1.cgroup ∧
      (parseCgroupLimits halfCpu {}).1.cgroup.cpuQuotaUs = some 50000 ∧
      (parseCgroupLimits halfCpu {}).1.cgroup.memoryLimitKnown = false :=
  ⟨(parseCgroupLimits_summary halfCpu { halfCpu with records := halfCpu.records.reverse } {} rfl rfl
      ((List.reverse_perm _).symm.filter _) (by decide)).2.2.2.2.2, by decide, by decide⟩

end Cgroups

end Sysal
