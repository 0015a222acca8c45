import Mathlib.Data.List.Induction
import Mathlib.Order.Lattice

/-!
# Summaries of limits

A scan over the limits of a hierarchy keeps the smallest limit it has seen and what it knows: nothing
yet, that there is no limit, that there is one, or that something could not be read.  Limits are
compared by a key in a linear order.

* `known_summarize`: the summary is known when something was read and nothing was unreadable.
* `value_summarize_eq_some`, `value_summarize_eq_none`: its value is a smallest limit, if there is one.
* `known_summarize_perm`, `key_value_summarize_perm`: neither depends on the order of the readings.
-/

namespace Sysal

/-- What a scan knows about a limit. -/
inductive LimitState where
  | unknown | unlimited | finite | incomplete
  deriving DecidableEq

/-- The state of the scan and the smallest limit so far. -/
structure LimitSummary (α : Type*) where
  state : LimitState := .unknown
  value : Option α := none

/-- What one place says about the limit. -/
inductive LimitReading (α : Type*) where
  | finite (value : α)
  | unlimited
  | unreadable

namespace LimitSummary

variable {α : Type*} {κ : Type*} [LinearOrder κ] (key : α → κ)

/-- `adopt`: a limit was read. -/
def adopt (s : LimitSummary α) (value : α) : LimitSummary α :=
  { value :=
      match s.value with
      | some least => if key value < key least then some value else some least
      | none => some value
    state := if s.state = .incomplete then .incomplete else .finite }

/-- `unlimited`: the absence of a limit was read. -/
def unlimited (s : LimitSummary α) : LimitSummary α :=
  if s.state = .unknown then { s with state := .unlimited } else s

/-- `unreadable`: a limit could not be read. -/
def unreadable (s : LimitSummary α) : LimitSummary α := { s with state := .incomplete }

def known (s : LimitSummary α) : Bool := s.state = .unlimited ∨ s.state = .finite

def incomplete (s : LimitSummary α) : Bool := s.state = .incomplete

/-- One reading. -/
def read (s : LimitSummary α) : LimitReading α → LimitSummary α
  | .finite value => s.adopt key value
  | .unlimited => s.unlimited
  | .unreadable => s.unreadable

/-- The summary of a list of readings. -/
def summarize (readings : List (LimitReading α)) : LimitSummary α := readings.foldl (read key) {}

theorem summarize_concat (readings : List (LimitReading α)) (r : LimitReading α) :
    summarize key (readings ++ [r]) = (summarize key readings).read key r := by
  rw [summarize, List.foldl_append]
  rfl

/-! ### What the state says -/

theorem state_summarize (readings : List (LimitReading α)) :
    ((summarize key readings).state = .incomplete ↔ .unreadable ∈ readings) ∧
      ((summarize key readings).state = .unknown ↔ readings = []) := by
  induction readings using List.reverseRecOn with
  | nil => exact ⟨by simp [summarize], by simp [summarize]⟩
  | append_singleton readings r ih =>
      rw [summarize_concat]
      cases r with
      | finite value =>
          simp only [read, adopt, List.mem_append, List.mem_singleton, reduceCtorEq, or_false,
            List.append_eq_nil_iff, List.cons_ne_self, and_false, iff_false]
          rw [← ih.1]
          by_cases h : (summarize key readings).state = .incomplete <;> simp [h]
      | unlimited =>
          simp only [read, unlimited, List.mem_append, List.mem_singleton, reduceCtorEq, or_false,
            List.append_eq_nil_iff, List.cons_ne_self, and_false, iff_false]
          rw [← ih.1]
          by_cases h : (summarize key readings).state = .unknown <;> simp [h]
      | unreadable => simp [read, unreadable]

/-- **The summary is known** when something was read and nothing was unreadable. -/
theorem known_summarize (readings : List (LimitReading α)) :
    (summarize key readings).known = true ↔
      (∃ r ∈ readings, r ≠ .unreadable) ∧ .unreadable ∉ readings := by
  obtain ⟨hincomplete, hunknown⟩ := state_summarize key readings
  have hstate : (summarize key readings).known = true ↔
      (summarize key readings).state ≠ .incomplete ∧ (summarize key readings).state ≠ .unknown := by
    rw [known, decide_eq_true_iff]
    cases (summarize key readings).state <;> simp
  rw [hstate, ne_eq, ne_eq, hincomplete, hunknown, and_comm]
  refine and_congr_left fun hreadable => ?_
  constructor
  · intro hne
    obtain ⟨r, rest, rfl⟩ := List.exists_cons_of_ne_nil hne
    exact ⟨r, List.mem_cons_self, fun heq => hreadable (heq ▸ List.mem_cons_self)⟩
  · rintro ⟨r, hr, -⟩ rfl
    cases hr

/-! ### What the value says -/

/-- The value is one of the limits that were read, and none of them is smaller. -/
theorem value_summarize (readings : List (LimitReading α)) :
    (∀ v, (summarize key readings).value = some v →
        .finite v ∈ readings ∧ ∀ w, .finite w ∈ readings → key v ≤ key w) ∧
      ((summarize key readings).value = none → ∀ w, .finite w ∉ readings) := by
  induction readings using List.reverseRecOn with
  | nil => exact ⟨by simp [summarize], by simp⟩
  | append_singleton readings r ih =>
      rw [summarize_concat]
      cases r with
      | finite value =>
          simp only [read, adopt, List.mem_append, List.mem_singleton, LimitReading.finite.injEq]
          rcases hleast : (summarize key readings).value with _ | least
          · refine ⟨?_, fun h => by cases h⟩
            rintro v ⟨⟩
            refine ⟨.inr rfl, ?_⟩
            rintro w (hw | rfl)
            · exact absurd hw (ih.2 hleast w)
            · exact le_refl _
          · obtain ⟨hmem, hmin⟩ := ih.1 least hleast
            dsimp only
            by_cases hlt : key value < key least
            · rw [if_pos hlt]
              refine ⟨?_, fun h => by cases h⟩
              rintro v ⟨⟩
              refine ⟨.inr rfl, ?_⟩
              rintro w (hw | rfl)
              · exact hlt.le.trans (hmin w hw)
              · exact le_refl _
            · rw [if_neg hlt]
              refine ⟨?_, fun h => by cases h⟩
              rintro v ⟨⟩
              refine ⟨.inl hmem, ?_⟩
              rintro w (hw | rfl)
              · exact hmin w hw
              · exact not_lt.mp hlt
      | unlimited =>
          have hvalue : ((summarize key readings).read key .unlimited).value =
              (summarize key readings).value := by
            rw [read, unlimited]
            split <;> rfl
          simp only [hvalue, List.mem_append, List.mem_singleton, reduceCtorEq, or_false]
          exact ih
      | unreadable =>
          simp only [read, unreadable, List.mem_append, List.mem_singleton, reduceCtorEq, or_false]
          exact ih

theorem value_summarize_eq_none {readings : List (LimitReading α)} :
    (summarize key readings).value = none ↔ ∀ w, .finite w ∉ readings := by
  refine ⟨(value_summarize key readings).2, fun h => ?_⟩
  rcases hv : (summarize key readings).value with _ | v
  · rfl
  · exact absurd ((value_summarize key readings).1 v hv).1 (h v)

/-! ### The order of the readings -/

/-- Readings in another order are known alike. -/
theorem known_summarize_perm {readings readings' : List (LimitReading α)}
    (h : readings.Perm readings') :
    (summarize key readings).known = (summarize key readings').known := by
  rw [Bool.eq_iff_iff, known_summarize, known_summarize]
  simp only [h.mem_iff]

/-- Readings in another order have equally small limits. -/
theorem key_value_summarize_perm {readings readings' : List (LimitReading α)}
    (h : readings.Perm readings') :
    (summarize key readings).value.map key = (summarize key readings').value.map key := by
  rcases hv : (summarize key readings).value with _ | v
  · have hnone := (value_summarize_eq_none key).mp hv
    have hnone' : (summarize key readings').value = none :=
      (value_summarize_eq_none key).mpr fun w hw => hnone w (h.mem_iff.mpr hw)
    rw [hnone']
  · obtain ⟨hmem, hmin⟩ := (value_summarize key readings).1 v hv
    rcases hv' : (summarize key readings').value with _ | v'
    · exact absurd (h.mem_iff.mp hmem) ((value_summarize_eq_none key).mp hv' v)
    · obtain ⟨hmem', hmin'⟩ := (value_summarize key readings').1 v' hv'
      exact congrArg some
        (le_antisymm (hmin v' (h.mem_iff.mpr hmem')) (hmin' v (h.mem_iff.mp hmem)))

end LimitSummary

end Sysal
