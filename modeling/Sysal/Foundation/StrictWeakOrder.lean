import Mathlib.Data.List.Basic
import Mathlib.Data.List.Perm.Basic
import Mathlib.Order.Defs.LinearOrder
import Mathlib.Order.Lattice

/-!
# Comparators of a sort

`std::sort` asks for a strict weak order and leaves the order of incomparable elements open.  A
comparator that compares keys of a linear order is such an order.

* `StrictWeakOrder.of_key`: comparing keys;
* `StrictWeakOrder.sorts_mergeSort`: there is a sorted list, the stable one;
* `Sorts.split`: a sorted list begins with the elements that come first.
-/

namespace Sysal

variable {α : Type*} {κ : Type*} {before : α → α → Bool}

/-- Two elements the comparator does not separate. -/
def Incomparable (before : α → α → Bool) (a b : α) : Prop := before a b = false ∧ before b a = false

/-- The requirement of `std::sort` on a comparator. -/
structure StrictWeakOrder (before : α → α → Bool) : Prop where
  irrefl : ∀ a, before a a = false
  trans : ∀ a b c, before a b = true → before b c = true → before a c = true
  incomparable : ∀ a b c, Incomparable before a b → Incomparable before b c → Incomparable before a c

/-- What `std::sort` promises of its result. -/
structure Sorts (before : α → α → Bool) (l sorted : List α) : Prop where
  perm : sorted.Perm l
  ordered : sorted.Pairwise fun a b => before b a = false

/-- **A comparator of keys is a strict weak order.** -/
theorem StrictWeakOrder.of_key [LinearOrder κ] (key : α → κ)
    (h : ∀ a b, before a b = true ↔ key a < key b) : StrictWeakOrder before := by
  have hfalse : ∀ a b, before a b = false ↔ key b ≤ key a := by
    intro a b
    rw [← Bool.not_eq_true, h, not_lt]
  refine ⟨fun a => (hfalse a a).mpr le_rfl, ?_, ?_⟩
  · intro a b c hab hbc
    exact (h a c).mpr (((h a b).mp hab).trans ((h b c).mp hbc))
  · rintro a b c ⟨hab, hba⟩ ⟨hbc, hcb⟩
    rw [hfalse] at hab hba hbc hcb
    exact ⟨(hfalse a c).mpr (hbc.trans hab), (hfalse c a).mpr (hba.trans hcb)⟩

/-- Of three elements that are not in the wrong order, neither are the first and the last. -/
theorem StrictWeakOrder.not_before_trans (h : StrictWeakOrder before) {a b c : α}
    (hba : before b a = false) (hcb : before c b = false) : before c a = false := by
  by_contra hca
  rw [Bool.not_eq_false] at hca
  cases hab : before a b with
  | true =>
      have := h.trans c a b hca hab
      rw [hcb] at this
      cases this
  | false =>
      cases hbc : before b c with
      | true =>
          have := h.trans b c a hbc hca
          rw [hba] at this
          cases this
      | false =>
          have := (h.incomparable a b c ⟨hab, hba⟩ ⟨hbc, hcb⟩).2
          rw [hca] at this
          cases this

/-- The stable sort sorts. -/
theorem StrictWeakOrder.sorts_mergeSort (h : StrictWeakOrder before) (l : List α) :
    Sorts before l (l.mergeSort fun a b => !before b a) := by
  refine ⟨List.mergeSort_perm l _, ?_⟩
  have htrans : ∀ a b c : α, (!before b a) = true → (!before c b) = true → (!before c a) = true := by
    intro a b c hab hbc
    rw [Bool.not_eq_true'] at hab hbc ⊢
    exact h.not_before_trans hab hbc
  have htotal : ∀ a b : α, (!before b a || !before a b) = true := by
    intro a b
    rw [Bool.or_eq_true, Bool.not_eq_true', Bool.not_eq_true']
    by_contra hboth
    rw [not_or, Bool.not_eq_false, Bool.not_eq_false] at hboth
    have := h.trans b a b hboth.1 hboth.2
    rw [h.irrefl] at this
    cases this
  exact (List.pairwise_mergeSort htrans htotal l).imp fun hab => by simpa using hab

/-- A list in which an element with a property has only such elements before it. -/
theorem eq_filter_append_filter {p : α → Bool} {l : List α}
    (h : l.Pairwise fun a b => p b = true → p a = true) :
    l = l.filter p ++ l.filter (!p ·) := by
  induction l with
  | nil => rfl
  | cons a l ih =>
      obtain ⟨ha, hl⟩ := List.pairwise_cons.mp h
      by_cases hp : p a = true
      · rw [List.filter_cons_of_pos hp, List.filter_cons_of_neg (by simpa using hp), List.cons_append,
          ← ih hl]
      · have hnone : l.filter p = [] := List.filter_eq_nil_iff.mpr fun b hb hpb => hp (ha b hb hpb)
        have hall : l.filter (!p ·) = l := List.filter_eq_self.mpr fun b hb => by
          simpa using fun hpb => hp (ha b hb hpb)
        rw [List.filter_cons_of_neg hp, hnone, List.nil_append,
          List.filter_cons_of_pos (by simpa using hp), hall]

/-- In a sorted list the elements come first that are before all others. -/
theorem Sorts.split {l sorted : List α} (h : Sorts before l sorted) {p : α → Bool}
    (hp : ∀ a b, p a = false → p b = true → before b a = true) :
    sorted = sorted.filter p ++ sorted.filter (!p ·) := by
  refine eq_filter_append_filter (h.ordered.imp fun {a b} hab hb => ?_)
  by_contra ha
  rw [hp a b (Bool.not_eq_true _ ▸ ha) hb] at hab
  cases hab

end Sysal
