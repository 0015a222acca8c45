import Mathlib.Algebra.Order.BigOperators.Group.List
import Mathlib.Algebra.Ring.Nat
import Mathlib.Data.List.Induction

/-!
# Machines driven by events

A machine takes one event at a time and has no move for an event it is not waiting for.  A run is a
sequence of events it has moves for.

* `run_invariant`: what holds initially of the empty history, and is kept by every move, holds of the
  history and the state after every run;
* `run_length_le`: a stretch of a run is as long as its events pay for, when every move costs one and a
  potential takes up the difference.
-/

namespace Sysal.EventMachine

variable {σ : Type*} {ε : Type*} (step : σ → ε → Option σ)

/-- The state after a sequence of events. -/
def run (s : σ) (events : List ε) : Option σ := events.foldlM step s

@[simp] theorem run_nil (s : σ) : run step s [] = some s := rfl

theorem run_cons (s : σ) (event : ε) (events : List ε) :
    run step s (event :: events) = (step s event).bind fun s' => run step s' events := by
  rw [run, List.foldlM_cons]
  rfl

theorem run_concat (s : σ) (events : List ε) (event : ε) :
    run step s (events ++ [event]) = (run step s events).bind fun s' => step s' event := by
  rw [run, List.foldlM_append]
  refine congrArg (Option.bind (run step s events)) ?_
  funext s'
  rw [List.foldlM_cons]
  cases step s' event <;> rfl

variable {step} {start : σ}

/-- **The rule for invariants** of the history and the state. -/
theorem run_invariant {I : List ε → σ → Prop} (hstart : I [] start)
    (hstep : ∀ history s event s', I history s → step s event = some s' → I (history ++ [event]) s')
    {events : List ε} {s : σ} (h : run step start events = some s) : I events s := by
  induction events using List.reverseRecOn generalizing s with
  | nil =>
      cases h
      exact hstart
  | append_singleton events event ih =>
      rw [run_concat, Option.bind_eq_some_iff] at h
      obtain ⟨before, hbefore, hlast⟩ := h
      exact hstep events before event s (ih hbefore) hlast

/-- A run of two stretches is a run of the first, followed by one of the second. -/
theorem run_append_eq_some {history events : List ε} {s s' : σ} :
    run step s (history ++ events) = some s' ↔
      ∃ before, run step s history = some before ∧ run step before events = some s' := by
  rw [run, List.foldlM_append]
  exact Option.bind_eq_some_iff

/-- **The rule for lengths**: with a potential that pays one for every move from a state that can be
reached, a stretch of a run has no more events than the potential at its beginning and what it is paid
on the way. -/
theorem run_length_le (potential : σ → ℕ) (pay : ε → ℕ)
    (hstep : ∀ history s event s', run step start history = some s → step s event = some s' →
      potential s' + 1 ≤ potential s + pay event)
    {history events : List ε} {before s : σ} (hbefore : run step start history = some before)
    (h : run step before events = some s) :
    events.length + potential s ≤ potential before + (events.map pay).sum := by
  induction events using List.reverseRecOn generalizing s with
  | nil =>
      cases h
      simp
  | append_singleton events event ih =>
      rw [run_concat, Option.bind_eq_some_iff] at h
      obtain ⟨last, hlast, hevent⟩ := h
      have hbound := ih hlast
      have hpaid := hstep (history ++ events) last event s
        (run_append_eq_some.mpr ⟨before, hbefore, hlast⟩) hevent
      rw [List.length_append, List.map_append, List.sum_append]
      simp only [List.length_singleton, List.map_cons, List.map_nil, List.sum_cons, List.sum_nil]
      omega

end Sysal.EventMachine
