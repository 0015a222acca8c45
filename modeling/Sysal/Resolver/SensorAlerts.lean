import Sysal.Resolver.HardwareHealth

/-!
# The precedence of sensor alerts

A fault comes before an alarm of the driver, an alarm before a comparison with the limits, and the
limits are compared where the comparison means something: the channel is not disabled, the unit is
known and the limits are not reversed.

* `Deserves`: which alert a reading deserves, one rule for each kind;
* `sensorAlert_iff`: the alert of a reading is the one it deserves;
* `sensorAlerts_spec`: the alerts of a list of readings.
-/

namespace Sysal.HealthFindings

section

variable {Unit : Type} [LT Unit]

/-! ### The rules -/

/-- Some alarm of a critical limit is active. -/
def CriticalAlarm (sensor : SensorReading Unit) : Prop :=
  ∃ alarm ∈ sensor.alarms, alarm.active = true ∧ isCriticalAlarm alarm = true

/-- A reading whose limits are compared with its input. -/
structure Compared (sensor : SensorReading Unit) (input : Unit) : Prop where
  fault : sensor.fault ≠ some true
  alarms : ∀ alarm ∈ sensor.alarms, alarm.active = false
  enabled : sensor.enabled ≠ some false
  input : sensor.input = some input
  unit : sensor.unitSupported = true
  limits : ∀ minimum maximum, sensor.minimum = some minimum → sensor.maximum = some maximum →
    ¬ maximum < minimum

theorem Compared.of_perm {sensor : SensorReading Unit} {alarms : List SensorAlarm}
    (hperm : alarms.Perm sensor.alarms) {input : Unit} (h : Compared sensor input) :
    Compared { sensor with alarms := alarms } input :=
  { h with alarms := fun alarm hmem => h.alarms alarm (hperm.mem_iff.mp hmem) }

variable [LE Unit]

/-- The alert a reading deserves. -/
inductive Deserves (sensor : SensorReading Unit) : SensorAlertKind → HealthSeverity → Prop where
  | fault (h : sensor.fault = some true) : Deserves sensor .fault .warning
  | criticalAlarm (hfault : sensor.fault ≠ some true) (h : CriticalAlarm sensor) :
      Deserves sensor .driverAlarm .critical
  | alarm (hfault : sensor.fault ≠ some true) (h : ∃ alarm ∈ sensor.alarms, alarm.active = true)
      (hcritical : ¬ CriticalAlarm sensor) : Deserves sensor .driverAlarm .warning
  | criticalLimit {input critical : Unit} (h : Compared sensor input)
      (hcritical : sensor.critical = some critical) (hle : critical ≤ input) :
      Deserves sensor .criticalLimit .critical
  | aboveMaximum {input maximum : Unit} (h : Compared sensor input)
      (hcritical : ∀ critical, sensor.critical = some critical → ¬ critical ≤ input)
      (hmaximum : sensor.maximum = some maximum) (hlt : maximum < input) :
      Deserves sensor .aboveMaximum .warning
  | belowMinimum {input minimum : Unit} (h : Compared sensor input)
      (hcritical : ∀ critical, sensor.critical = some critical → ¬ critical ≤ input)
      (hmaximum : ∀ maximum, sensor.maximum = some maximum → ¬ maximum < input)
      (hminimum : sensor.minimum = some minimum) (hlt : input < minimum) :
      Deserves sensor .belowMinimum .warning

/-- The kinds that come from a comparison with a limit. -/
def IsLimitAlert (kind : SensorAlertKind) : Prop :=
  kind = .criticalLimit ∨ kind = .aboveMaximum ∨ kind = .belowMinimum

/-- What a reading deserves does not depend on the order of its alarms. -/
theorem Deserves.of_perm {sensor : SensorReading Unit} {alarms : List SensorAlarm}
    (hperm : alarms.Perm sensor.alarms) {kind : SensorAlertKind} {severity : HealthSeverity}
    (h : Deserves sensor kind severity) :
    Deserves { sensor with alarms := alarms } kind severity := by
  have hcritical : CriticalAlarm { sensor with alarms := alarms } ↔ CriticalAlarm sensor :=
    exists_congr fun alarm => and_congr_left fun _ => hperm.mem_iff
  cases h with
  | fault h => exact .fault h
  | criticalAlarm hfault h => exact .criticalAlarm hfault (hcritical.mpr h)
  | alarm hfault h hno =>
      obtain ⟨alarm, hmem, hactive⟩ := h
      exact .alarm hfault ⟨alarm, hperm.mem_iff.mpr hmem, hactive⟩ (hcritical.not.mpr hno)
  | criticalLimit h hc hle => exact .criticalLimit (h.of_perm hperm) hc hle
  | aboveMaximum h hc hm hlt => exact .aboveMaximum (h.of_perm hperm) hc hm hlt
  | belowMinimum h hc hx hm hlt => exact .belowMinimum (h.of_perm hperm) hc hx hm hlt

/-- A faulty or disabled channel deserves no alert about its limits. -/
theorem Deserves.compared {sensor : SensorReading Unit} {kind : SensorAlertKind}
    {severity : HealthSeverity} (h : Deserves sensor kind severity) (hkind : IsLimitAlert kind) :
    ∃ input, Compared sensor input := by
  cases h with
  | fault | criticalAlarm | alarm => simp [IsLimitAlert] at hkind
  | criticalLimit h | aboveMaximum h | belowMinimum h => exact ⟨_, h⟩

end

/-! ### The alarm of the driver -/

theorem reportedAlarm_eq_none_iff {alarms : List SensorAlarm} :
    reportedAlarm alarms = none ↔ ∀ alarm ∈ alarms, alarm.active = false := by
  rw [reportedAlarm, Option.or_eq_none_iff, List.find?_eq_none, List.find?_eq_none]
  constructor
  · intro h alarm hmem
    exact Bool.eq_false_iff.mpr (h.2 alarm hmem)
  · intro h
    refine ⟨fun alarm hmem => ?_, fun alarm hmem => ?_⟩
    · rw [h alarm hmem, Bool.false_and]
      exact Bool.false_ne_true
    · exact Bool.eq_false_iff.mp (h alarm hmem)

/-- The reported alarm is active, and critical if any active one is, wherever they stand. -/
theorem reportedAlarm_eq_some {alarms : List SensorAlarm} {alarm : SensorAlarm}
    (h : reportedAlarm alarms = some alarm) :
    alarm ∈ alarms ∧ alarm.active = true ∧
      (isCriticalAlarm alarm = true ↔
        ∃ other ∈ alarms, other.active = true ∧ isCriticalAlarm other = true) := by
  rw [reportedAlarm, Option.or_eq_some_iff] at h
  rcases h with h | ⟨hnone, h⟩
  · have hmem := List.mem_of_find?_eq_some h
    have hboth := List.find?_some h
    rw [Bool.and_eq_true] at hboth
    exact ⟨hmem, hboth.1, iff_of_true hboth.2 ⟨alarm, hmem, hboth⟩⟩
  · have hmem := List.mem_of_find?_eq_some h
    have hactive : alarm.active = true := List.find?_some h
    rw [List.find?_eq_none] at hnone
    refine ⟨hmem, hactive, iff_of_false (fun hcritical => ?_) ?_⟩
    · exact hnone alarm hmem (by rw [hactive, hcritical]; rfl)
    · rintro ⟨other, hother, hboth⟩
      exact hnone other hother (Bool.and_eq_true_iff.mpr hboth)

/-! ### One reading -/

section

variable {Unit : Type} [LT Unit] [DecidableLT Unit]

theorem limitsReversed_eq_false_iff {sensor : SensorReading Unit} :
    limitsReversed sensor = false ↔
      ∀ minimum maximum, sensor.minimum = some minimum → sensor.maximum = some maximum →
        ¬ maximum < minimum := by
  rw [limitsReversed]
  cases sensor.minimum with
  | none => simp
  | some minimum => cases sensor.maximum <;> simp

theorem getD_false_iff {flag : Option Bool} : flag.getD false = true ↔ flag = some true := by
  rcases flag with _ | _ | _ <;> simp

theorem getD_true_iff {flag : Option Bool} : flag.getD true = true ↔ flag ≠ some false := by
  rcases flag with _ | _ | _ <;> simp

/-- Whether a flag, the unit and the limits allow a comparison. -/
theorem comparable_iff {sensor : SensorReading Unit} :
    (!sensor.enabled.getD true || !sensor.unitSupported || limitsReversed sensor) = false ↔
      sensor.enabled ≠ some false ∧ sensor.unitSupported = true ∧
        ∀ minimum maximum, sensor.minimum = some minimum → sensor.maximum = some maximum →
          ¬ maximum < minimum := by
  rw [Bool.or_eq_false_iff, Bool.or_eq_false_iff, Bool.not_eq_false', Bool.not_eq_false',
    getD_true_iff, limitsReversed_eq_false_iff, and_assoc]

/-- Without a fault and an active alarm the alert is the one of the limits, if they are compared. -/
theorem sensorAlert_of_quiet {sensor : SensorReading Unit} (hfault : sensor.fault ≠ some true)
    (halarms : ∀ alarm ∈ sensor.alarms, alarm.active = false) {alert : SensorAlert} :
    sensorAlert sensor = some alert ↔ ∃ input, Compared sensor input ∧
      limitAlert sensor input = some (alert.kind, alert.severity) ∧
        alert.sensor = sensor.identity.id ∧ alert.origin = sensor.identity.origin := by
  rw [sensorAlert]
  dsimp only
  rw [if_neg (getD_false_iff.not.mpr hfault), reportedAlarm_eq_none_iff.mpr halarms]
  obtain ⟨id, kind, severity, origin⟩ := alert
  cases hinput : sensor.input with
  | none =>
      refine iff_of_false (by simp) ?_
      rintro ⟨input, h, -⟩
      cases hinput.symm.trans h.input
  | some input =>
      dsimp only
      split_ifs with hskip
      · refine iff_of_false (by simp) ?_
        rintro ⟨input, h, -⟩
        have := comparable_iff.mpr ⟨h.enabled, h.unit, h.limits⟩
        rw [hskip] at this
        contradiction
      · obtain ⟨henabled, hunit, hlimits⟩ := comparable_iff.mp (Bool.eq_false_iff.mpr hskip)
        have hcompared : Compared sensor input :=
          ⟨hfault, halarms, henabled, hinput, hunit, hlimits⟩
        rw [Option.map_eq_some_iff]
        constructor
        · rintro ⟨⟨kind, severity⟩, hlimit, heq⟩
          cases heq
          exact ⟨input, hcompared, hlimit, rfl, rfl⟩
        · rintro ⟨other, hother, hlimit, hid, horigin⟩
          obtain rfl : input = other := Option.some.inj (hinput.symm.trans hother.input)
          exact ⟨_, hlimit, by rw [← hid, ← horigin]⟩

variable [LE Unit]

/-- The limits in the order they are compared in. -/
theorem limitAlert_eq_some_iff (hle : ∀ a b : Unit, ¬ a < b ↔ b ≤ a) {sensor : SensorReading Unit}
    {input : Unit} (h : Compared sensor input) {kind : SensorAlertKind}
    {severity : HealthSeverity} :
    limitAlert sensor input = some (kind, severity) ↔
      IsLimitAlert kind ∧ Deserves sensor kind severity := by
  have hcritical : (sensor.critical.any fun critical => !decide (input < critical)) = true ↔
      ∃ critical, sensor.critical = some critical ∧ critical ≤ input := by
    cases sensor.critical <;> simp [hle]
  have hmaximum : (sensor.maximum.any fun maximum => decide (maximum < input)) = true ↔
      ∃ maximum, sensor.maximum = some maximum ∧ maximum < input := by
    cases sensor.maximum <;> simp
  have hminimum : (sensor.minimum.any fun minimum => decide (input < minimum)) = true ↔
      ∃ minimum, sensor.minimum = some minimum ∧ input < minimum := by
    cases sensor.minimum <;> simp
  have hinput : ∀ other, Compared sensor other → other = input := fun other hother =>
    Option.some.inj (hother.input.symm.trans h.input)
  rw [limitAlert]
  constructor
  · intro hsome
    split_ifs at hsome with h₁ h₂ h₃
    · obtain ⟨critical, hc, hle⟩ := hcritical.mp h₁
      cases hsome
      exact ⟨Or.inl rfl, .criticalLimit h hc hle⟩
    · obtain ⟨maximum, hm, hlt⟩ := hmaximum.mp h₂
      cases hsome
      rw [hcritical] at h₁
      push Not at h₁
      exact ⟨Or.inr (Or.inl rfl), .aboveMaximum h h₁ hm hlt⟩
    · obtain ⟨minimum, hm, hlt⟩ := hminimum.mp h₃
      cases hsome
      rw [hcritical] at h₁
      rw [hmaximum] at h₂
      push Not at h₁ h₂
      exact ⟨Or.inr (Or.inr rfl), .belowMinimum h h₁ h₂ hm hlt⟩
  · rintro ⟨hkind, hdeserves⟩
    cases hdeserves with
    | fault | criticalAlarm | alarm => simp [IsLimitAlert] at hkind
    | criticalLimit h' hc hle =>
        obtain rfl := hinput _ h'
        rw [if_pos (hcritical.mpr ⟨_, hc, hle⟩)]
    | aboveMaximum h' hc hm hlt =>
        obtain rfl := hinput _ h'
        rw [if_neg (hcritical.not.mpr fun h => h.elim fun _ h => hc _ h.1 h.2),
          if_pos (hmaximum.mpr ⟨_, hm, hlt⟩)]
    | belowMinimum h' hc hx hm hlt =>
        obtain rfl := hinput _ h'
        rw [if_neg (hcritical.not.mpr fun h => h.elim fun _ h => hc _ h.1 h.2),
          if_neg (hmaximum.not.mpr fun h => h.elim fun _ h => hx _ h.1 h.2),
          if_pos (hminimum.mpr ⟨_, hm, hlt⟩)]

/-- **The alert of a reading** is the one it deserves, and there is none where it deserves none. -/
theorem sensorAlert_iff (hle : ∀ a b : Unit, ¬ a < b ↔ b ≤ a) (sensor : SensorReading Unit)
    (kind : SensorAlertKind) (severity : HealthSeverity) :
    (∃ origin, sensorAlert sensor = some ⟨sensor.identity.id, kind, severity, origin⟩) ↔
      Deserves sensor kind severity := by
  by_cases hfault : sensor.fault = some true
  · have halert : sensorAlert sensor = some
        ⟨sensor.identity.id, .fault, .warning, sensor.identity.id ++ utf8 "_fault"⟩ := by
      rw [sensorAlert]
      dsimp only
      rw [if_pos (getD_false_iff.mpr hfault)]
    rw [halert]
    constructor
    · rintro ⟨origin, heq⟩
      cases heq
      exact .fault hfault
    · intro h
      cases h with
      | fault => exact ⟨_, rfl⟩
      | criticalAlarm hno | alarm hno => exact absurd hfault hno
      | criticalLimit h | aboveMaximum h | belowMinimum h => exact absurd hfault h.fault
  · cases halarm : reportedAlarm sensor.alarms with
    | some alarm =>
        obtain ⟨hmem, hactive, hcritical⟩ := reportedAlarm_eq_some halarm
        have halert : sensorAlert sensor = some ⟨sensor.identity.id, .driverAlarm,
            if isCriticalAlarm alarm then .critical else .warning,
            directoryOf sensor.identity.origin ++ alarm.attributeName⟩ := by
          rw [sensorAlert]
          dsimp only
          rw [if_neg (getD_false_iff.not.mpr hfault), halarm]
        rw [halert]
        constructor
        · rintro ⟨origin, heq⟩
          cases heq
          split_ifs with h
          · exact .criticalAlarm hfault (hcritical.mp h)
          · exact .alarm hfault ⟨alarm, hmem, hactive⟩ (hcritical.not.mp h)
        · intro h
          cases h with
          | fault h => exact absurd h hfault
          | criticalAlarm _ h => exact ⟨_, by rw [if_pos (hcritical.mpr h)]⟩
          | alarm _ _ h => exact ⟨_, by rw [if_neg (hcritical.not.mpr h)]⟩
          | criticalLimit h | aboveMaximum h | belowMinimum h =>
              exact absurd hactive (Bool.eq_false_iff.mp (h.alarms alarm hmem))
    | none =>
        have hquiet := reportedAlarm_eq_none_iff.mp halarm
        constructor
        · rintro ⟨origin, hsome⟩
          obtain ⟨input, hcompared, hlimit, -⟩ := (sensorAlert_of_quiet hfault hquiet).mp hsome
          exact ((limitAlert_eq_some_iff hle hcompared).mp hlimit).2
        · intro h
          have hlimit : IsLimitAlert kind := by
            cases h with
            | fault h => exact absurd h hfault
            | criticalAlarm _ h =>
                obtain ⟨alarm, hmem, hactive, -⟩ := h
                exact absurd hactive (Bool.eq_false_iff.mp (hquiet alarm hmem))
            | alarm _ h =>
                obtain ⟨alarm, hmem, hactive⟩ := h
                exact absurd hactive (Bool.eq_false_iff.mp (hquiet alarm hmem))
            | criticalLimit => exact Or.inl rfl
            | aboveMaximum => exact Or.inr (Or.inl rfl)
            | belowMinimum => exact Or.inr (Or.inr rfl)
          obtain ⟨input, hcompared⟩ := h.compared hlimit
          exact ⟨_, (sensorAlert_of_quiet hfault hquiet).mpr
            ⟨input, hcompared, (limitAlert_eq_some_iff hle hcompared).mpr ⟨hlimit, h⟩, rfl, rfl⟩⟩

/-- What an alert says apart from the channel and its origin. -/
def alertClass (alert : SensorAlert) : SensorAlertKind × HealthSeverity :=
  (alert.kind, alert.severity)

omit [LE Unit] in
/-- An alert names the channel it is about. -/
theorem sensorAlert_sensor {sensor : SensorReading Unit} {alert : SensorAlert}
    (h : sensorAlert sensor = some alert) : alert.sensor = sensor.identity.id := by
  by_cases hfault : sensor.fault = some true
  · rw [sensorAlert] at h
    dsimp only at h
    rw [if_pos (getD_false_iff.mpr hfault)] at h
    cases h
    rfl
  · cases halarm : reportedAlarm sensor.alarms with
    | some alarm =>
        rw [sensorAlert] at h
        dsimp only at h
        rw [if_neg (getD_false_iff.not.mpr hfault), halarm] at h
        cases h
        rfl
    | none =>
        obtain ⟨_, _, _, hid, _⟩ :=
          (sensorAlert_of_quiet hfault (reportedAlarm_eq_none_iff.mp halarm)).mp h
        exact hid

theorem alertClass_sensorAlert (hle : ∀ a b : Unit, ¬ a < b ↔ b ≤ a) (sensor : SensorReading Unit)
    (kind : SensorAlertKind) (severity : HealthSeverity) :
    (sensorAlert sensor).map alertClass = some (kind, severity) ↔ Deserves sensor kind severity := by
  rw [← sensorAlert_iff hle, Option.map_eq_some_iff]
  constructor
  · rintro ⟨⟨id, kind, severity, origin⟩, hsome, heq⟩
    obtain rfl : id = sensor.identity.id := sensorAlert_sensor hsome
    cases heq
    exact ⟨origin, hsome⟩
  · rintro ⟨origin, hsome⟩
    exact ⟨_, hsome, rfl⟩

/-! ### All readings -/

/-- The rules for the alerts of the readings of one unit. -/
structure AlertRules (Unit : Type) [LT Unit] [DecidableLT Unit] [LE Unit] : Prop where
  alerts : ∀ (sensors : List (SensorReading Unit)) (health : HardwareHealth)
    (coverage : HealthCoverage), (sensorAlerts sensors health coverage).1 =
      { health with sensorAlerts := health.sensorAlerts ++ sensors.filterMap sensorAlert }
  channel : ∀ (sensor : SensorReading Unit) (alert : SensorAlert),
    sensorAlert sensor = some alert → alert.sensor = sensor.identity.id
  deserved : ∀ (sensor : SensorReading Unit) (kind : SensorAlertKind) (severity : HealthSeverity),
    (sensorAlert sensor).map alertClass = some (kind, severity) ↔ Deserves sensor kind severity
  limits : ∀ (sensor : SensorReading Unit) (alert : SensorAlert),
    sensorAlert sensor = some alert → IsLimitAlert alert.kind →
      sensor.fault ≠ some true ∧ sensor.enabled ≠ some false
  order : ∀ (sensor : SensorReading Unit) (alarms : List SensorAlarm),
    alarms.Perm sensor.alarms → (sensorAlert { sensor with alarms := alarms }).map alertClass =
      (sensorAlert sensor).map alertClass

theorem alertRules (hle : ∀ a b : Unit, ¬ a < b ↔ b ≤ a) : AlertRules Unit where
  alerts _ _ _ := rfl
  channel _ _ := sensorAlert_sensor
  deserved := alertClass_sensorAlert hle
  limits := by
    intro sensor alert halert hkind
    have hdeserves : Deserves sensor alert.kind alert.severity := by
      rw [← alertClass_sensorAlert hle, halert]
      rfl
    obtain ⟨input, hcompared⟩ := hdeserves.compared hkind
    exact ⟨hcompared.fault, hcompared.enabled⟩
  order := by
    intro sensor alarms hperm
    refine Option.ext fun alert => ?_
    obtain ⟨kind, severity⟩ := alert
    rw [alertClass_sensorAlert hle, alertClass_sensorAlert hle]
    exact ⟨Deserves.of_perm hperm.symm, Deserves.of_perm hperm⟩

end

/-- **The rules hold for the three kinds of readings.** -/
theorem sensorAlerts_spec :
    AlertRules SensorTemperature ∧ AlertRules FanSpeed ∧ AlertRules SensorPower :=
  ⟨alertRules fun _ _ => Int64.not_lt, alertRules fun _ _ => UInt64.not_lt,
    alertRules fun _ _ => UInt64.not_lt⟩

/-- Fans with a fault, with a latched alarm, disabled, and above the limit. -/
def watchedFans : List (SensorReading FanSpeed) :=
  [{ fault := some true, input := some 0, minimum := some 100 },
   { alarms := [⟨utf8 "fan2_alarm", true⟩, ⟨utf8 "fan2_crit_alarm", false⟩] },
   { enabled := some false, input := some 9000, maximum := some 5000 },
   { input := some 9000, maximum := some 5000, critical := some 9500 }]

/-- The last fan deserves an alert of its limit, the third one none. -/
theorem sensorAlerts_spec_fans :
    (sensorAlerts watchedFans {} {}).1.sensorAlerts.map alertClass =
        [(.fault, .warning), (.driverAlarm, .warning), (.aboveMaximum, .warning)] ∧
      Deserves (watchedFans.getD 3 {}) .aboveMaximum .warning ∧
        ∀ kind severity, ¬Deserves (watchedFans.getD 2 {}) kind severity := by
  refine ⟨by decide +kernel, (sensorAlerts_spec.2.1.deserved _ _ _).mp (by decide +kernel),
    fun kind severity h => ?_⟩
  have halert := (sensorAlerts_spec.2.1.deserved _ _ _).mpr h
  rw [show sensorAlert (watchedFans.getD 2 {}) = none by decide +kernel] at halert
  cases halert

end Sysal.HealthFindings
