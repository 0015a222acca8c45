import Mathlib.Data.List.Basic
import Mathlib.Data.List.Induction

/-!
# The last write wins

A scan that overwrites a register leaves the value of the last element that writes it.

* `lastWrite`: the last value that is written;
* `foldl_lastWrite`: the register after a scan;
* `narrowed_eq_iff`: when a register of bounded width has the last number that fits it.
-/

namespace Sysal

variable {σ : Type*} {ι : Type*} {β : Type*}

/-- The last value that the elements of a list write. -/
def lastWrite (write : ι → Option β) (l : List ι) : Option β := (l.filterMap write).getLast?

variable {write : ι → Option β} {l : List ι}

theorem lastWrite_concat (write : ι → Option β) (l : List ι) (x : ι) :
    lastWrite write (l ++ [x]) = (write x).or (lastWrite write l) := by
  rw [lastWrite, List.filterMap_append, lastWrite]
  cases hx : write x with
  | none => simp [hx]
  | some b => simp [hx]

theorem lastWrite_map {γ : Type*} (f : β → γ) (write : ι → Option β) (l : List ι) :
    lastWrite (fun x => (write x).map f) l = (lastWrite write l).map f := by
  rw [lastWrite, lastWrite, ← List.getLast?_map, List.map_filterMap]

/-- What is written last is written by some element. -/
theorem exists_of_lastWrite {b : β} (h : lastWrite write l = some b) : ∃ x ∈ l, write x = some b :=
  List.mem_filterMap.mp (List.mem_of_getLast? h)

theorem lastWrite_eq_none : lastWrite write l = none ↔ ∀ x ∈ l, write x = none := by
  rw [lastWrite, List.getLast?_eq_none_iff, List.filterMap_eq_nil_iff]

/-- **The register after a scan** has the last value written to it, or what it had before. -/
theorem foldl_lastWrite {step : σ → ι → σ} (get : σ → β)
    (hstep : ∀ s x, get (step s x) = (write x).getD (get s)) (l : List ι) (s : σ) :
    get (l.foldl step s) = (lastWrite write l).getD (get s) := by
  induction l using List.reverseRecOn with
  | nil => rfl
  | append_singleton l x ih =>
      rw [List.foldl_append, List.foldl_cons, List.foldl_nil, hstep, ih, lastWrite_concat]
      cases write x <;> rfl

section Width

variable {γ : Type*} {fits : γ → Prop} [DecidablePred fits] {value : ι → Option γ}
  {narrow exact : γ → β} {unset : β}

/-- The last of the values that fit. -/
def lastFitting (fits : γ → Prop) [DecidablePred fits] (value : ι → Option γ) (l : List ι) : Option γ :=
  lastWrite (fun x => (value x).filter fits) l

/-- The last value fits, or what is left of it is what the last value that fits says. -/
def Settled (fits : γ → Prop) [DecidablePred fits] (value : ι → Option γ) (narrow exact : γ → β)
    (unset : β) (l : List ι) : Prop :=
  ∀ v ∈ lastWrite value l, fits v ∨ narrow v = ((lastFitting fits value l).map exact).getD unset

theorem settled_of_fits (h : ∀ x ∈ l, ∀ v ∈ value x, fits v) : Settled fits value narrow exact unset l := by
  intro v hv
  obtain ⟨x, hx, hvalue⟩ := exists_of_lastWrite hv
  exact Or.inl (h x hx v hvalue)

theorem lastFitting_of_fits {v : γ} (h : lastWrite value l = some v) (hv : fits v) :
    lastFitting fits value l = some v := by
  induction l using List.reverseRecOn with
  | nil => cases h
  | append_singleton l x ih =>
      rw [lastFitting, lastWrite_concat]
      rw [lastWrite_concat] at h
      cases hx : value x with
      | none =>
          rw [hx, Option.none_or] at h
          rw [Option.filter_none, Option.none_or]
          exact ih h
      | some w =>
          rw [hx, Option.some_or, Option.some_inj] at h
          rw [h, Option.filter_some, if_pos (decide_eq_true hv), Option.some_or]

theorem lastFitting_eq_none (h : lastWrite value l = none) : lastFitting fits value l = none := by
  rw [lastFitting, lastWrite_eq_none]
  intro x hx
  rw [lastWrite_eq_none.mp h x hx, Option.filter_none]

/-- **The narrowed register** has the last value that fits exactly when the values are settled. -/
theorem narrowed_eq_iff (hexact : ∀ v, fits v → narrow v = exact v) :
    ((lastWrite value l).map narrow).getD unset =
        ((lastFitting fits value l).map exact).getD unset ↔
      Settled fits value narrow exact unset l := by
  rw [Settled]
  cases hlast : lastWrite value l with
  | none => simp [lastFitting_eq_none hlast]
  | some v =>
      simp only [Option.map_some, Option.getD_some, Option.mem_some_iff, forall_eq']
      refine ⟨Or.inr, fun h => h.elim (fun hv => ?_) id⟩
      rw [lastFitting_of_fits hlast hv, hexact v hv]
      rfl

end Width

end Sysal
