import Mathlib.Logic.Function.Iterate

/-!
# Loops with a bound on their passes

`loopFor cond step n s` runs `while (cond s) s = step s` for at most `n` passes.  A loop of the source
is modelled with a bound that is enough: `loopFor_stable` says that once the condition is false, more
passes change nothing, so the bounded loop is the loop.  `loopFor_exits` is the termination rule for a
measure that grows towards a limit.
-/

namespace Sysal

variable {σ : Type*}

/-- At most `n` passes of a while loop. -/
def loopFor (cond : σ → Bool) (step : σ → σ) : ℕ → σ → σ
  | 0, s => s
  | n + 1, s => if cond s then loopFor cond step n (step s) else s

theorem loopFor_of_false {cond : σ → Bool} {step : σ → σ} {s : σ} (h : cond s = false) (n : ℕ) :
    loopFor cond step n s = s := by
  cases n with
  | zero => rfl
  | succ n => rw [loopFor, h]; rfl

/-- A loop that has ended within the bound is not affected by a larger bound. -/
theorem loopFor_stable {cond : σ → Bool} {step : σ → σ} {n : ℕ} {s : σ}
    (h : cond (loopFor cond step n s) = false) (k : ℕ) :
    loopFor cond step (n + k) s = loopFor cond step n s := by
  induction n generalizing s with
  | zero =>
      cases k with
      | zero => rfl
      | succ k =>
          have hs : cond s = false := h
          rw [Nat.zero_add, loopFor, loopFor, hs]
          rfl
  | succ n ih =>
      rw [Nat.succ_add, loopFor, loopFor]
      by_cases hs : cond s
      · rw [if_pos hs, if_pos hs]
        refine ih ?_
        rwa [loopFor, if_pos hs] at h
      · rw [if_neg hs, if_neg hs]

/-- The termination rule: if `n` passes in a row make the condition false, the loop has ended after at
most `n` passes. -/
theorem loopFor_exits {cond : σ → Bool} {step : σ → σ} {n : ℕ} {s : σ}
    (h : (∀ i < n, cond (step^[i] s) = true) → cond (step^[n] s) = false) :
    cond (loopFor cond step n s) = false := by
  induction n generalizing s with
  | zero => exact h fun i hi => absurd hi (Nat.not_lt_zero i)
  | succ n ih =>
      rw [loopFor]
      split
      · rename_i hc
        refine ih fun hall => ?_
        have := h fun i hi => ?_
        · simpa using this
        · cases i with
          | zero => exact hc
          | succ i => exact hall i (by omega)
      · rename_i hc
        simpa using hc

end Sysal
