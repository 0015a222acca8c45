import Mathlib.Data.List.Count
import Sysal.Foundation.Decimal
import Sysal.Resolver.Resolve
import Sysal.Parser.Execution

/-!
# What the process sees of the processors

The status of the process lists the processors it may run on, the resolver writes the answer to every
logical processor, and the query of the visible ones reads it back.  Whether a processor is visible is
a matter of three values: without affinity evidence it stays open.

* `visible_iff`: which processors the query returns;
* `crossCheckCpuVisibility_count`: one warning for each listed processor the model does not have;
* `parseExecution_affinity`: a list that cannot be read is no evidence;
* `cpuVisibility_spec`: the visibility of every processor.
-/

namespace Sysal

/-- `Cpu::visible_logical_cpus`. -/
def Cpu.visibleLogicalCpus (cpu : Cpu) : List LogicalCpu :=
  cpu.logicalCpus.filter (·.visibleToCurrentProcess = some true)

namespace Resolve

/-! ### One processor -/

/-- A logical processor with its visibility left open. -/
def withoutVisibility (logical : LogicalCpu) : LogicalCpu :=
  { logical with visibleToCurrentProcess := none }

theorem withoutVisibility_cpuVisibility (execution : ExecutionContext) (logical : LogicalCpu) :
    withoutVisibility (cpuVisibility execution logical) = withoutVisibility logical := rfl

/-- A processor is visible if it is listed and not known to be offline. -/
theorem visible_iff (execution : ExecutionContext) (logical : LogicalCpu) :
    (cpuVisibility execution logical).visibleToCurrentProcess = some true ↔
      logical.online ≠ some false ∧ logical.id ∈ execution.visibleLogicalCpuIds := by
  rw [cpuVisibility]
  dsimp only
  split_ifs with honline hknown
  · simp [honline]
  · simp [honline]
  · rw [Bool.or_eq_true, not_or, Bool.not_eq_true', Bool.not_eq_false, List.isEmpty_iff] at hknown
    simp [hknown.2]

/-! ### The visible processors -/

/-- The listed processors of the model that are not known to be offline. -/
theorem visibleLogicalCpus_ids (cpu : Cpu) (execution : ExecutionContext) :
    (computeCpuVisibility cpu execution).visibleLogicalCpus.map (·.id) =
      (cpu.logicalCpus.filter fun logical =>
        logical.online ≠ some false ∧ logical.id ∈ execution.visibleLogicalCpuIds).map (·.id) := by
  rw [Cpu.visibleLogicalCpus, computeCpuVisibility, List.filter_map, List.map_map]
  have hfilter : (fun logical : LogicalCpu => decide (logical.visibleToCurrentProcess = some true)) ∘
      cpuVisibility execution = fun logical =>
        decide (logical.online ≠ some false ∧ logical.id ∈ execution.visibleLogicalCpuIds) := by
    funext logical
    exact decide_eq_decide.mpr (visible_iff execution logical)
  rw [hfilter]
  rfl

/-- How often the query returns an id that is listed. -/
theorem visibleLogicalCpus_count (cpu : Cpu) (execution : ExecutionContext) {id : LogicalCpuId}
    (hid : id ∈ execution.visibleLogicalCpuIds) :
    ((computeCpuVisibility cpu execution).visibleLogicalCpus.map (·.id)).count id =
      cpu.logicalCpus.countP fun logical => logical.id = id ∧ logical.online ≠ some false := by
  rw [visibleLogicalCpus_ids, List.count_eq_countP, List.countP_map, List.countP_filter]
  refine List.countP_congr fun logical _ => ?_
  simp only [Function.comp_apply, Bool.and_eq_true, beq_iff_eq, decide_eq_true_eq]
  constructor
  · rintro ⟨rfl, honline, -⟩
    exact ⟨rfl, honline⟩
  · rintro ⟨rfl, honline⟩
    exact ⟨rfl, honline, hid⟩

/-- The query returns no id that is not listed. -/
theorem mem_listed_of_visible {cpu : Cpu} {execution : ExecutionContext} {id : LogicalCpuId}
    (h : id ∈ (computeCpuVisibility cpu execution).visibleLogicalCpus.map (·.id)) :
    id ∈ execution.visibleLogicalCpuIds := by
  rw [visibleLogicalCpus_ids, List.mem_map] at h
  obtain ⟨logical, hmem, rfl⟩ := h
  exact (of_decide_eq_true (List.mem_filter.mp hmem).2).2

/-- Every listed id belongs to exactly one processor that is not known to be offline. -/
def ListedOnce (cpu : Cpu) (execution : ExecutionContext) : Prop :=
  ∀ id ∈ execution.visibleLogicalCpuIds,
    cpu.logicalCpus.countP (fun logical => logical.id = id ∧ logical.online ≠ some false) = 1

/-- The query then returns exactly the listed ids, each once. -/
theorem visibleLogicalCpus_exact {cpu : Cpu} {execution : ExecutionContext}
    (h : ListedOnce cpu execution) :
    ((computeCpuVisibility cpu execution).visibleLogicalCpus.map (·.id)).Nodup ∧
      ∀ id, id ∈ (computeCpuVisibility cpu execution).visibleLogicalCpus.map (·.id) ↔
        id ∈ execution.visibleLogicalCpuIds := by
  have hcount : ∀ id ∈ execution.visibleLogicalCpuIds,
      ((computeCpuVisibility cpu execution).visibleLogicalCpus.map (·.id)).count id = 1 :=
    fun id hid => (visibleLogicalCpus_count cpu execution hid).trans (h id hid)
  constructor
  · rw [List.nodup_iff_count_le_one]
    intro id
    by_cases hid : id ∈ execution.visibleLogicalCpuIds
    · exact (hcount id hid).le
    · rw [List.count_eq_zero_of_not_mem fun hmem => hid (mem_listed_of_visible hmem)]
      exact Nat.zero_le 1
  · intro id
    refine ⟨mem_listed_of_visible, fun hid => ?_⟩
    rw [← List.count_pos_iff, hcount id hid]
    exact Nat.one_pos

/-! ### The cross-check -/

/-- The warning for a listed processor the model does not have. -/
def cpuMismatch (id : LogicalCpuId) : Bytes :=
  utf8 "[visibility_mismatch] cpu_" ++ decimal id.toNat ++
    utf8 ": in_visible_logical_cpu_ids but cpu does not exist in model"

theorem cpuMismatch_injective : Function.Injective cpuMismatch := by
  intro a b h
  rw [cpuMismatch, cpuMismatch] at h
  have hdecimal := List.append_cancel_left (List.append_cancel_right h)
  have hvalue := congrArg (numeralValue 10) hdecimal
  rw [numeralValue_decimal, numeralValue_decimal] at hvalue
  exact UInt32.toNat_inj.mp hvalue

theorem phantomIds_cpu (known listed : List LogicalCpuId) :
    phantomIds (utf8 "cpu") (utf8 "visible_logical_cpu_ids") (utf8 "cpu") known listed =
      (listed.filter (· ∉ known)).map cpuMismatch := by
  have hfront : utf8 "[visibility_mismatch] " ++ utf8 "cpu" ++ utf8 "_" =
      utf8 "[visibility_mismatch] cpu_" := by decide +kernel
  have hback : utf8 ": in_" ++ (utf8 "visible_logical_cpu_ids" ++ (utf8 " but " ++ (utf8 "cpu" ++
      utf8 " does not exist in model"))) =
      utf8 ": in_visible_logical_cpu_ids but cpu does not exist in model" := by decide +kernel
  rw [phantomIds]
  refine List.map_congr_left fun id _ => ?_
  rw [hfront, cpuMismatch, ← hback]
  simp only [List.append_assoc]

/-- The hint about a restriction is none of these warnings. -/
theorem cpuMismatch_notMem_constraintHint (id : LogicalCpuId) (total visible : ℕ) :
    cpuMismatch id ∉ constraintHint (utf8 "cpu") total visible := by
  have hmismatch : ∃ s, utf8 "[visibility_mismatch] cpu_" = 91 :: 118 :: s :=
    ⟨(utf8 "[visibility_mismatch] cpu_").drop 2, by decide +kernel⟩
  have hhint : ∃ s, utf8 "[constraint] " = 91 :: 99 :: s :=
    ⟨(utf8 "[constraint] ").drop 2, by decide +kernel⟩
  obtain ⟨s, hs⟩ := hmismatch
  obtain ⟨t, ht⟩ := hhint
  rw [constraintHint]
  split_ifs
  · rw [List.mem_singleton, cpuMismatch, hs, ht]
    simp
  · exact List.not_mem_nil

/-- Every listed processor the model does not have gives one warning for each time it is listed. -/
theorem crossCheckCpuVisibility_count (cpu : Cpu) (execution : ExecutionContext)
    (id : LogicalCpuId) :
    (crossCheckCpuVisibility cpu execution).count (cpuMismatch id) =
      if id ∈ cpu.logicalCpus.map (·.id) then 0 else execution.visibleLogicalCpuIds.count id := by
  have hhint : (constraintHint (utf8 "cpu") (cpu.logicalCpus.map (·.id)).length
      execution.visibleLogicalCpuIds.length).count (cpuMismatch id) = 0 :=
    List.count_eq_zero_of_not_mem (cpuMismatch_notMem_constraintHint id _ _)
  rw [crossCheckCpuVisibility, crossCheck]
  split_ifs with hempty hmem hmem
  · rfl
  · rw [List.isEmpty_iff.mp hempty]
    rfl
  · rw [List.count_append, phantomIds_cpu, hhint, Nat.add_zero,
      List.count_map_of_injective _ _ cpuMismatch_injective, List.count_eq_zero]
    intro hfilter
    exact of_decide_eq_true (List.mem_filter.mp hfilter).2 hmem
  · rw [List.count_append, phantomIds_cpu, hhint, Nat.add_zero,
      List.count_map_of_injective _ _ cpuMismatch_injective, List.count_filter]
    exact decide_eq_true hmem

/-! ### The evidence -/

/-- What an execution context says about the processors. -/
def affinity (ctx : ExecutionContext) : List LogicalCpuId × Bool :=
  (ctx.visibleLogicalCpuIds, ctx.cpuVisibilityKnown)

/-- A line of the status that lists processors in a way that cannot be read, or lists none. -/
def NoAffinity (line : Bytes) : Prop :=
  (parseKv line 58).1 = utf8 "Cpus_allowed_list" →
    CpuDetails.parseCpuIdList (parseKv line 58).2 = none

open ExecutionParser Cgroups AcceleratorVisibility

/-- Such a line is no evidence. -/
theorem parseStatusLine_affinity (ctx : ExecutionContext) {line : Bytes} (h : NoAffinity line) :
    affinity (parseStatusLine ctx line).1 = affinity ctx := by
  rw [parseStatusLine]
  dsimp only
  split_ifs with h₁ h₂ h₃ h₄ h₅ h₆ h₇ h₈
  · split <;> rfl
  · split <;> rfl
  · rfl
  · rfl
  · rfl
  · rfl
  · rw [h h₇]
    rfl
  · rfl
  · rfl

theorem parseProcSelfStatus_affinity (ctx : ExecutionContext) {payload : Bytes}
    (h : ∀ line ∈ split payload 10, NoAffinity line) :
    affinity (parseProcSelfStatus payload ctx).1 = affinity ctx := by
  have hfold : ∀ (lines : List Bytes) (s : ExecutionContext × List Bytes),
      (∀ line ∈ lines, NoAffinity line) →
      affinity (lines.foldl (fun s line =>
        ((parseStatusLine s.1 line).1, s.2 ++ (parseStatusLine s.1 line).2)) s).1 = affinity s.1 := by
    intro lines
    induction lines with
    | nil => exact fun _ _ => rfl
    | cons line lines ih =>
        intro s hlines
        rw [List.forall_mem_cons] at hlines
        rw [List.foldl_cons, ih _ hlines.2]
        exact parseStatusLine_affinity s.1 hlines.1
  exact hfold _ _ h

theorem scanLimit_affinity (records : List RawEvidence) (s : LimitScan) (record : RawEvidence) :
    affinity (scanLimit records s record).context = affinity s.context := by
  rw [scanLimit]
  split
  · rfl
  dsimp only
  split
  · split <;> rfl
  split
  · split <;> rfl
  split
  · split <;> rfl
  split
  · split
    · split <;> rfl
    · rfl
  split
  · rfl
  split <;> rfl

theorem scanLimits_affinity (records : List RawEvidence) (context : ExecutionContext) :
    affinity (scanLimits records context).context = affinity context := by
  have hfold : ∀ (l : List RawEvidence) (s : LimitScan),
      affinity (l.foldl (scanLimit records) s).context = affinity s.context := by
    intro l
    induction l with
    | nil => exact fun _ => rfl
    | cons record l ih => exact fun s => (ih _).trans (scanLimit_affinity records s record)
  exact hfold records { context := context }

theorem parseCgroupLimits_affinity (raw : EvidenceStore) (context : ExecutionContext) :
    affinity (parseCgroupLimits raw context).1 = affinity context :=
  scanLimits_affinity (raw.getAll .cgroupFile) context

/-- Only the status of the process is evidence about the processors. -/
theorem parseExecution_affinity {raw : EvidenceStore} {ctx : ExecutionContext}
    (hctx : (parseExecution raw).1 = some ctx)
    (h : ∀ record ∈ (raw.successes .procSelfStatus).head?,
      ∀ line ∈ split record.payload 10, NoAffinity line) :
    affinity ctx = ([], false) := by
  simp only [parseExecution, Option.ite_none_right_eq_some, Option.some.injEq] at hctx
  obtain ⟨-, rfl⟩ := hctx
  refine (parseCgroupLimits_affinity raw _).trans ?_
  have hstatus : affinity ((raw.successes .procSelfStatus).head?.elim (({} : ExecutionContext), [])
      fun record => parseProcSelfStatus record.payload {}).1 = ([], false) := by
    revert h
    cases (raw.successes .procSelfStatus).head? with
    | none => exact fun _ => rfl
    | some record => exact fun h => parseProcSelfStatus_affinity {} (h record rfl)
  rw [← hstatus]
  cases (raw.successes .environment).head? with
  | none =>
      cases (raw.successes .procSelfCgroup).head? with
      | none => cases (raw.successes .procSelfStatus).head? <;> rfl
      | some _ => cases (raw.successes .procSelfStatus).head? <;> rfl
  | some _ =>
      cases (raw.successes .procSelfCgroup).head? with
      | none => cases (raw.successes .procSelfStatus).head? <;> rfl
      | some _ => cases (raw.successes .procSelfStatus).head? <;> rfl

/-! ### The result -/

/-- The step of the resolver, from the processors and the evidence to the answers and warnings. -/
structure VisibilityResolved (cpu : Cpu) (execution : ExecutionContext) (resolved : Cpu)
    (warnings : List Bytes) : Prop where
  frame : resolved = { cpu with logicalCpus := resolved.logicalCpus }
  processors : resolved.logicalCpus.map withoutVisibility = cpu.logicalCpus.map withoutVisibility
  offline : ∀ logical ∈ resolved.logicalCpus, logical.online = some false →
    logical.visibleToCurrentProcess = some false
  known : ∀ logical ∈ resolved.logicalCpus, logical.online ≠ some false →
    execution.cpuVisibilityKnown = true ∨ execution.visibleLogicalCpuIds ≠ [] →
    logical.visibleToCurrentProcess = some (decide (logical.id ∈ execution.visibleLogicalCpuIds))
  unset : ∀ logical ∈ resolved.logicalCpus, logical.online ≠ some false →
    execution.cpuVisibilityKnown = false → execution.visibleLogicalCpuIds = [] →
    logical.visibleToCurrentProcess = none
  visible : ListedOnce cpu execution → (resolved.visibleLogicalCpus.map (·.id)).Nodup ∧
    ∀ id, id ∈ resolved.visibleLogicalCpus.map (·.id) ↔ id ∈ execution.visibleLogicalCpuIds
  warned : ∀ id, warnings.count (cpuMismatch id) =
    if id ∈ cpu.logicalCpus.map (·.id) then 0 else execution.visibleLogicalCpuIds.count id

/-- What the step does, whatever the processors and the evidence are. -/
theorem visibilityResolved (cpu : Cpu) (execution : ExecutionContext) :
    VisibilityResolved cpu execution (computeCpuVisibility cpu execution)
      (crossCheckCpuVisibility (computeCpuVisibility cpu execution) execution) where
  frame := rfl
  processors := by
    rw [computeCpuVisibility, List.map_map]
    exact List.map_congr_left fun logical _ => withoutVisibility_cpuVisibility execution logical
  offline := by
    intro logical hmem honline
    obtain ⟨before, -, rfl⟩ := List.mem_map.mp hmem
    exact if_pos honline
  known := by
    intro logical hmem honline hknown
    obtain ⟨before, -, rfl⟩ := List.mem_map.mp hmem
    refine (if_neg honline).trans (if_pos ?_)
    simpa [List.isEmpty_iff] using hknown
  unset := by
    intro logical hmem honline hknown hids
    obtain ⟨before, -, rfl⟩ := List.mem_map.mp hmem
    refine (if_neg honline).trans (if_neg ?_)
    simp [hknown, hids]
  visible := visibleLogicalCpus_exact
  warned := by
    intro id
    rw [crossCheckCpuVisibility_count, computeCpuVisibility, List.map_map]
    rfl

/-- The resolved system has the processors and the warnings of the step. -/
theorem resolve_cpu (result : ParseResult) :
    (resolve result).1.cpu = computeCpuVisibility (result.cpu.getD {}) (result.execution.getD {}) ∧
      crossCheckCpuVisibility (resolve result).1.cpu (result.execution.getD {}) <:+:
        (resolve result).2 := by
  refine ⟨rfl, ?_⟩
  have hids : (resolveAcceleratorVisibility (result.accelerators.getD {})
      (result.execution.getD {}) result.acceleratorRuntimeVisibility).execution.visibleLogicalCpuIds =
      (result.execution.getD {}).visibleLogicalCpuIds := by
    have hexecution := resolveAcceleratorVisibility_execution (result.accelerators.getD {})
      (result.execution.getD {}) result.acceleratorRuntimeVisibility
    have hids := congrArg ExecutionContext.visibleLogicalCpuIds hexecution
    exact hids
  rw [resolve]
  dsimp only
  rw [crossCheckCpuVisibility, crossCheckCpuVisibility, hids]
  exact List.infix_append _ _ _

/-- **The visibility of every processor** follows the evidence, in the step and in the resolved
system, and a status without a readable list of processors leaves it open. -/
theorem cpuVisibility_spec :
    (∀ cpu execution, VisibilityResolved cpu execution (computeCpuVisibility cpu execution)
      (crossCheckCpuVisibility (computeCpuVisibility cpu execution) execution)) ∧
      (∀ result, (resolve result).1.cpu =
          computeCpuVisibility (result.cpu.getD {}) (result.execution.getD {}) ∧
        crossCheckCpuVisibility (resolve result).1.cpu (result.execution.getD {}) <:+:
          (resolve result).2) ∧
      (∀ ctx line, (parseKv line 58).1 = utf8 "Cpus_allowed_list" →
        CpuDetails.parseCpuIdList (parseKv line 58).2 = none →
        (parseStatusLine ctx line).1.visibleLogicalCpuIds = ctx.visibleLogicalCpuIds ∧
          (parseStatusLine ctx line).1.cpuVisibilityKnown = ctx.cpuVisibilityKnown) ∧
      ∀ raw ctx, (parseExecution raw).1 = some ctx →
        (∀ record ∈ (raw.successes .procSelfStatus).head?,
          ∀ line ∈ split record.payload 10, NoAffinity line) →
        ∀ cpu, ∀ logical ∈ (computeCpuVisibility cpu ctx).logicalCpus,
          logical.online ≠ some false → logical.visibleToCurrentProcess = none := by
  refine ⟨visibilityResolved, resolve_cpu, fun ctx line _ hnone => ?_,
    fun raw ctx hctx hlines cpu logical hmem honline => ?_⟩
  · exact Prod.mk.inj (parseStatusLine_affinity ctx fun _ => hnone)
  · obtain ⟨hids, hknown⟩ := Prod.mk.inj (parseExecution_affinity hctx hlines)
    exact (visibilityResolved cpu ctx).unset logical hmem honline hknown hids

end Resolve

end Sysal
