import Mathlib.Algebra.BigOperators.Group.List.Basic
import Sysal.Resolver.HardwareHealth

/-!
# The evidence behind a health finding

Which elements of a domain have an alert, an event or a finding, in terms of what they report, and
that such an element adds to the counter of its domain.  A counter is the 32-bit residue of the
number of pieces of evidence.

* `sensorAlert_isSome`, `storageAlert_isSome`, `memoryEvent_isSome`, `driveFindings_ne_nil`: the
  elements with an item;
* `Alarming.evidence`, `Erroneous.reportsErrors`, `Warns.evidence`: they have evidence;
* `foldl_count`: the counter of a list.
-/

namespace Sysal.HealthFindings

open Sysal

/-! ### Sensors -/

section Sensors

variable {Unit : Type} [LT Unit] [DecidableLT Unit] {sensor : SensorReading Unit}

/-- The input of an enabled channel is at its critical limit or outside its other limits. -/
def OutsideLimits (sensor : SensorReading Unit) : Prop :=
  sensor.enabled ≠ some false ∧ sensor.unitSupported = true ∧ limitsReversed sensor = false ∧
    ∃ input ∈ sensor.input,
      (∃ critical ∈ sensor.critical, ¬ input < critical) ∨
        (∃ maximum ∈ sensor.maximum, maximum < input) ∨
        ∃ minimum ∈ sensor.minimum, input < minimum

/-- A reading with a fault, an active alarm or a value outside its limits. -/
def Alarming (sensor : SensorReading Unit) : Prop :=
  sensor.fault = some true ∨ (∃ alarm ∈ sensor.alarms, alarm.active = true) ∨ OutsideLimits sensor

theorem reportedAlarm_eq_none {alarms : List SensorAlarm} :
    reportedAlarm alarms = none ↔ ∀ alarm ∈ alarms, alarm.active = false := by
  rw [reportedAlarm, Option.or_eq_none_iff, List.find?_eq_none, List.find?_eq_none]
  constructor
  · rintro ⟨-, h⟩ alarm halarm
    simpa using h alarm halarm
  · intro h
    exact ⟨fun alarm halarm => by simp [h alarm halarm], fun alarm halarm => by simp [h alarm halarm]⟩

theorem limitAlert_isSome {input : Unit} :
    (limitAlert sensor input).isSome ↔
      (∃ critical ∈ sensor.critical, ¬ input < critical) ∨
        (∃ maximum ∈ sensor.maximum, maximum < input) ∨
        ∃ minimum ∈ sensor.minimum, input < minimum := by
  have hcritical : (sensor.critical.any fun critical => !decide (input < critical)) = true ↔
      ∃ critical ∈ sensor.critical, ¬ input < critical := by
    simp [Option.any_eq_true]
  have hmaximum : (sensor.maximum.any fun maximum => decide (maximum < input)) = true ↔
      ∃ maximum ∈ sensor.maximum, maximum < input := by
    simp [Option.any_eq_true]
  have hminimum : (sensor.minimum.any fun minimum => decide (input < minimum)) = true ↔
      ∃ minimum ∈ sensor.minimum, input < minimum := by
    simp [Option.any_eq_true]
  rw [limitAlert, ← hcritical, ← hmaximum, ← hminimum]
  split
  · rename_i h
    simp [h]
  · rename_i h
    split
    · rename_i h'
      simp [h']
    · rename_i h'
      split <;> simp_all

/-- **Which readings have an alert**. -/
theorem sensorAlert_isSome : (sensorAlert sensor).isSome ↔ Alarming sensor := by
  rw [sensorAlert, Alarming]
  by_cases hfault : sensor.fault = some true
  · simp [hfault]
  · have hget : sensor.fault.getD false = false := by
      rcases hf : sensor.fault with _ | _ | _ <;> simp_all
    simp only [hget, Bool.false_eq_true, if_false]
    cases hreported : reportedAlarm sensor.alarms with
    | some alarm =>
        have hactive : ∃ alarm ∈ sensor.alarms, alarm.active = true := by
          by_contra hnone
          rw [reportedAlarm_eq_none.mpr] at hreported
          · cases hreported
          · simpa using hnone
        exact iff_of_true rfl (.inr (.inl hactive))
    | none =>
        have hactive : ¬ ∃ alarm ∈ sensor.alarms, alarm.active = true := by
          rintro ⟨alarm, halarm, htrue⟩
          rw [reportedAlarm_eq_none.mp hreported alarm halarm] at htrue
          cases htrue
        rw [or_iff_right hfault, or_iff_right hactive, OutsideLimits]
        cases hinput : sensor.input with
        | none => simp
        | some input =>
            have henabled : sensor.enabled.getD true = true ↔ sensor.enabled ≠ some false := by
              rcases sensor.enabled with _ | _ | _ <;> simp
            simp only [Option.mem_some_iff, exists_eq_left', ← limitAlert_isSome, ← henabled]
            cases sensor.enabled.getD true <;> cases sensor.unitSupported <;>
              cases limitsReversed sensor <;> simp

/-- The evidence of a reading: its usable value and its alarm reports. -/
def sensorEvidence (sensor : SensorReading Unit) : ℕ :=
  (usableReading sensor).toNat + alarmReportsOf sensor

theorem Alarming.evidence (h : Alarming sensor) : 0 < sensorEvidence sensor := by
  rw [sensorEvidence, alarmReportsOf]
  rcases h with hfault | ⟨alarm, halarm, -⟩ | ⟨henabled, -, -, input, hinput, -⟩
  · rw [hfault]
    simp
  · have := List.length_pos_of_mem halarm
    omega
  · cases hfault : sensor.fault with
    | some fault => simp
    | none =>
        have husable : usableReading sensor = true := by
          rw [usableReading, Option.mem_def.mp hinput, hfault]
          rcases he : sensor.enabled with _ | _ | _ <;> simp_all
        rw [husable]
        simp

end Sensors

/-! ### Arrays and memory controllers -/

theorem storageAlert_isSome {device : StorageDevice} :
    (storageAlert device).isSome ↔ ∃ degraded ∈ device.raidDegraded, 0 < degraded := by
  rw [storageAlert]
  cases device.raidDegraded with
  | none => simp
  | some degraded =>
      dsimp only
      split <;> simp_all

/-- A controller that counted an error. -/
def Erroneous (controller : MemoryController) : Prop :=
  (∃ n ∈ controller.correctedErrors, 0 < n) ∨ ∃ n ∈ controller.uncorrectedErrors, 0 < n

theorem getD_pos_iff {counter : Option UInt64} : 0 < counter.getD 0 ↔ ∃ n ∈ counter, 0 < n := by
  cases counter with
  | none => simp
  | some n => simp

theorem memoryEvent_isSome {controller : MemoryController} :
    (memoryEvent controller).isSome ↔ Erroneous controller := by
  rw [memoryEvent, Erroneous, ← getD_pos_iff, ← getD_pos_iff]
  split
  · exact iff_of_true rfl ‹_›
  · exact iff_of_false (by simp) ‹_›

theorem Erroneous.reportsErrors {controller : MemoryController} (h : Erroneous controller) :
    reportsErrors controller = true := by
  rcases h with ⟨n, hn, -⟩ | ⟨n, hn, -⟩
  · rw [HealthFindings.reportsErrors, Option.mem_def.mp hn]
    rfl
  · rw [HealthFindings.reportsErrors, Option.mem_def.mp hn]
    simp

/-! ### Drives -/

/-- An NVMe log with a warning, little spare, a worn-out estimate or media errors. -/
def NvmeWarns (nvme : NvmeHealth) : Prop :=
  (∃ warning ∈ nvme.criticalWarning, 0 < warning) ∨
    (∃ spare ∈ nvme.availableSpare, ∃ threshold ∈ nvme.spareThreshold, spare < threshold) ∨
    (∃ used ∈ nvme.percentageUsed, 100 ≤ used) ∨ positive nvme.mediaErrors = true

/-- A SCSI log with uncorrected errors. -/
def ScsiWarns (scsi : ScsiHealth) : Prop :=
  positive scsi.readUncorrected = true ∨ positive scsi.writeUncorrected = true ∨
    positive scsi.verifyUncorrected = true

/-- A report of a failed self-test, an NVMe or SCSI log that warns, or an ATA attribute that failed. -/
def Warns (report : StorageHealthReport) : Prop :=
  report.passed = some false ∨ (∃ nvme ∈ report.nvme, NvmeWarns nvme) ∨
    (∃ entry ∈ report.ataAttributes, entry.whenFailed = utf8 "now" ∨ entry.whenFailed = utf8 "past") ∨
    ∃ scsi ∈ report.scsi, ScsiWarns scsi

theorem singleton_if_ne_nil {α : Type*} {c : Prop} [Decidable c] {x : α} :
    (if c then [x] else []) ≠ [] ↔ c := by
  split <;> simp_all

theorem positive_some {counter : Option StorageCounter} (h : positive counter = true) :
    counter.isSome = true := by
  cases counter with
  | none => cases h
  | some _ => rfl

theorem nvmeFindings_ne_nil {report : StorageHealthReport} {nvme : NvmeHealth} :
    nvmeFindings report nvme ≠ [] ↔ NvmeWarns nvme := by
  have hwarning : nvme.criticalWarning.getD 0 > 0 ↔ ∃ warning ∈ nvme.criticalWarning, 0 < warning := by
    cases nvme.criticalWarning <;> simp
  have hused : nvme.percentageUsed.getD 0 ≥ 100 ↔ ∃ used ∈ nvme.percentageUsed, 100 ≤ used := by
    cases nvme.percentageUsed <;> simp
  simp only [nvmeFindings, ne_eq, List.append_eq_nil_iff, not_and_or, singleton_if_ne_nil, hused]
  rw [NvmeWarns, ← hwarning]
  -- low spare is left out only under a warning, which is a finding of its own
  cases hspare : nvme.availableSpare with
  | none => simp [or_assoc]
  | some spare =>
      cases hthreshold : nvme.spareThreshold with
      | none => simp [or_assoc]
      | some threshold =>
          by_cases hbit : nvme.criticalWarning.getD 0 &&& 1 = 0
          · simp [hbit, or_assoc]
          · have hpos : nvme.criticalWarning.getD 0 > 0 := by
              rw [gt_iff_lt, UInt8.pos_iff_ne_zero]
              rintro hzero
              exact hbit (by rw [hzero]; rfl)
            simp [hpos]

theorem ataFindings_ne_nil {report : StorageHealthReport} :
    report.ataAttributes.filterMap (ataFinding report) ≠ [] ↔
      ∃ entry ∈ report.ataAttributes,
        entry.whenFailed = utf8 "now" ∨ entry.whenFailed = utf8 "past" := by
  rw [ne_eq, List.filterMap_eq_nil_iff]
  push Not
  refine exists_congr fun entry => and_congr_right fun _ => ?_
  rw [ataFinding]
  split
  · rename_i h
    simp [h]
  · rename_i h
    split
    · rename_i h'
      simp [h']
    · rename_i h'
      simp [h, h']

theorem scsiFindings_ne_nil {report : StorageHealthReport} {scsi : ScsiHealth} :
    scsiFindings report scsi ≠ [] ↔ ScsiWarns scsi := by
  rw [scsiFindings, ScsiWarns, ne_eq, List.filterMap_eq_nil_iff]
  simp only [List.forall_mem_cons, List.not_mem_nil, false_imp_iff, implies_true, and_true,
    ite_eq_right_iff, reduceCtorEq, imp_false, not_and_or, not_not]

/-- **Which reports have a finding**. -/
theorem driveFindings_ne_nil {report : StorageHealthReport} :
    driveFindings report ≠ [] ↔ Warns report := by
  have hata : (¬ report.ataAttributes.filterMap (ataFinding report) = []) ↔
      ∃ entry ∈ report.ataAttributes,
        entry.whenFailed = utf8 "now" ∨ entry.whenFailed = utf8 "past" := ataFindings_ne_nil
  have hscsi : ∀ scsi, (¬ scsiFindings report scsi = []) ↔ ScsiWarns scsi := fun _ =>
    scsiFindings_ne_nil
  have hnvme : ∀ nvme, (¬ nvmeFindings report nvme = []) ↔ NvmeWarns nvme := fun _ =>
    nvmeFindings_ne_nil
  simp only [driveFindings, ne_eq, List.append_eq_nil_iff, not_and_or, singleton_if_ne_nil, or_assoc]
  rw [Warns, ← hata]
  have hpassed : report.passed.getD true = false ↔ report.passed = some false := by
    rcases report.passed with _ | _ | _ <;> simp
  -- a failed self-test is left out only where the NVMe log has a warning
  cases hn : report.nvme with
  | none => cases hs : report.scsi <;> simp [smartFailed, hn, hpassed, hscsi]
  | some nvme =>
      have hwarns : nvme.criticalWarning.getD 0 ≠ 0 → NvmeWarns nvme := by
        intro hne
        rw [← UInt8.pos_iff_ne_zero] at hne
        cases hw : nvme.criticalWarning with
        | none => simp [hw] at hne
        | some warning => exact .inl ⟨warning, hw, by simpa [hw] using hne⟩
      by_cases hzero : nvme.criticalWarning.getD 0 = 0
      · cases hs : report.scsi <;> simp [smartFailed, hn, hpassed, hscsi, hnvme, hzero]
      · cases hs : report.scsi <;> simp [smartFailed, hn, hnvme, hzero, hwarns hzero]

theorem Warns.evidence {report : StorageHealthReport} (h : Warns report) :
    evidence report = true := by
  rw [HealthFindings.evidence]
  rcases h with hpassed | ⟨nvme, hnvme, hwarns⟩ | ⟨entry, hentry, -⟩ | ⟨scsi, hscsi, hwarns⟩
  · simp [hpassed]
  · rw [Option.mem_def.mp hnvme]
    rcases hwarns with ⟨w, hw, -⟩ | ⟨spare, hspare, -⟩ | ⟨used, hused, -⟩ | hmedia
    · simp [Option.mem_def.mp hw]
    · simp [Option.mem_def.mp hspare]
    · simp [Option.mem_def.mp hused]
    · simp [positive_some hmedia]
  · have hne : report.ataAttributes.isEmpty = false :=
      List.isEmpty_eq_false_iff.mpr (List.ne_nil_of_mem hentry)
    simp [hne]
  · rw [Option.mem_def.mp hscsi]
    rcases hwarns with hread | hwrite | hverify
    · simp [positive_some hread]
    · simp [positive_some hwrite]
    · simp [positive_some hverify]

/-! ### Counters -/

theorem toUInt32_add (m n : ℕ) : (m + n).toUInt32 = m.toUInt32 + n.toUInt32 := UInt32.ofNat_add m n

/-- A 32-bit counter that each element adds to holds the sum of what they add. -/
theorem foldl_count {α : Type*} (f : α → ℕ) (xs : List α) (c : UInt32) :
    xs.foldl (fun c x => c + (f x).toUInt32) c = c + (xs.map f).sum.toUInt32 := by
  induction xs generalizing c with
  | nil => simp
  | cons x xs ih =>
      rw [List.foldl_cons, ih, List.map_cons, List.sum_cons, toUInt32_add, UInt32.add_assoc]

theorem toUInt32_eq_zero_iff {n : ℕ} : n.toUInt32 = 0 ↔ 2 ^ 32 ∣ n := by
  rw [← UInt32.toNat_inj, Nat.dvd_iff_mod_eq_zero]
  exact Iff.rfl

end Sysal.HealthFindings
