import Mathlib.Algebra.Group.Nat.Defs
import Mathlib.Data.List.Perm.Subperm
import Sysal.Foundation.OrderedContainers

/-!
# Ranks

The rank of an element is its position among the distinct elements of a list in increasing order.

* `compare_rank`: ranks are ordered like the elements;
* `rank_eq_of_alike`, `alike_of_rank_eq`: two keys have the same ranks exactly when they are ordered alike;
* `rank_eq_of_ofNat_eq`: 32 bits of a rank tell pairs with the same first number apart.
-/

namespace Sysal

open Std

variable {α : Type*} {β : Type*} [Ord α] [BEq α]

/-- The position of an element in the order of a list. -/
def rank (l : List α) (a : α) : ℕ := (sortedSet l).idxOf a

section Order

variable [TransOrd α] [LawfulEqOrd α] [LawfulBEq α] {l : List α} {a b : α}

theorem rank_lt_length (ha : a ∈ l) : rank l a < (sortedSet l).length :=
  List.idxOf_lt_length_iff.mpr (mem_sortedSet.mpr ha)

theorem rank_inj (ha : a ∈ l) : rank l a = rank l b ↔ a = b :=
  List.idxOf_inj (mem_sortedSet.mpr ha)

theorem getElem?_rank (ha : a ∈ l) : (sortedSet l)[rank l a]? = some a :=
  List.getElem?_idxOf (mem_sortedSet.mpr ha)

theorem rank_of_getElem? {i : ℕ} (h : (sortedSet l)[i]? = some a) : rank l a = i := by
  obtain ⟨hi, rfl⟩ := List.getElem?_eq_some_iff.mp h
  exact (sortedSet_nodup l).idxOf_getElem i hi

theorem compare_of_rank_lt (ha : a ∈ l) (hb : b ∈ l) (h : rank l a < rank l b) :
    compare a b = .lt := by
  obtain ⟨hi, hget⟩ := List.getElem?_eq_some_iff.mp (getElem?_rank ha)
  obtain ⟨hj, hget'⟩ := List.getElem?_eq_some_iff.mp (getElem?_rank hb)
  rw [← hget, ← hget']
  exact List.pairwise_iff_getElem.mp (sortedSet_pairwise_lt l) _ _ hi hj h

/-- **Ranks are ordered like the elements.** -/
theorem compare_rank (ha : a ∈ l) (hb : b ∈ l) : compare (rank l a) (rank l b) = compare a b := by
  rcases Nat.lt_trichotomy (rank l a) (rank l b) with hlt | heq | hgt
  · rw [compare_of_rank_lt ha hb hlt, Nat.compare_eq_lt.mpr hlt]
  · rw [(rank_inj ha).mp heq, ReflOrd.compare_self, ReflOrd.compare_self]
  · rw [Nat.compare_eq_gt.mpr hgt, OrientedCmp.gt_of_lt (compare_of_rank_lt hb ha hgt)]

end Order

/-! ### Keys that are ordered alike -/

section Alike

variable {ι : Type*} [Ord β] [BEq β] [TransOrd α] [LawfulEqOrd α] [LawfulBEq α]
  [TransOrd β] [LawfulEqOrd β] [LawfulBEq β]

/-- Two keys order the elements of a list alike. -/
def Alike (l : List ι) (f : ι → α) (g : ι → β) : Prop :=
  ∀ x ∈ l, ∀ y ∈ l, compare (f x) (f y) = compare (g x) (g y)

variable {l : List ι} {f : ι → α} {g : ι → β}

omit [BEq α] [BEq β] [TransOrd α] [LawfulBEq α] [TransOrd β] [LawfulBEq β] in
theorem Alike.eq_iff (h : Alike l f g) {x y : ι} (hx : x ∈ l) (hy : y ∈ l) :
    f x = f y ↔ g x = g y := by
  rw [← LawfulEqOrd.compare_eq_iff_eq, h x hx y hy, LawfulEqOrd.compare_eq_iff_eq]

omit [BEq β] [LawfulBEq β] in
/-- One element for every key, in the order of both. -/
theorem exists_ranked (h : Alike l f g) : ∃ ranked : List ι,
    (∀ x ∈ ranked, x ∈ l) ∧ ranked.map f = sortedSet (l.map f) ∧
      ranked.map g = sortedSet (l.map g) := by
  have hfind : ∀ a ∈ sortedSet (l.map f), ∃ x, l.find? (f · == a) = some x ∧ f x = a := by
    intro a ha
    obtain ⟨y, hy, rfl⟩ := List.mem_map.mp (mem_sortedSet.mp ha)
    cases hx : l.find? (f · == f y) with
    | none => exact absurd (List.find?_eq_none.mp hx y hy) (by simp)
    | some x => exact ⟨x, rfl, by simpa using List.find?_some hx⟩
  have hmem : ∀ x ∈ (sortedSet (l.map f)).filterMap fun a => l.find? (f · == a), x ∈ l := by
    intro x hx
    obtain ⟨a, -, hfound⟩ := List.mem_filterMap.mp hx
    exact List.mem_of_find?_eq_some hfound
  have hleft : ((sortedSet (l.map f)).filterMap fun a => l.find? (f · == a)).map f =
      sortedSet (l.map f) := by
    rw [List.map_filterMap]
    conv_rhs => rw [← List.filterMap_some (l := sortedSet (l.map f))]
    refine List.filterMap_congr fun a ha => ?_
    obtain ⟨x, hx, rfl⟩ := hfind a ha
    rw [hx, Option.map_some]
  refine ⟨_, hmem, hleft, eq_of_pairwise_lt ?_ (sortedSet_pairwise_lt _) fun b => ?_⟩
  · have hordered := sortedSet_pairwise_lt (l.map f)
    rw [← hleft, List.pairwise_map] at hordered
    rw [List.pairwise_map]
    refine hordered.imp_of_mem fun hx hy hlt => ?_
    rw [← h _ (hmem _ hx) _ (hmem _ hy), hlt]
  · rw [mem_sortedSet, List.mem_map, List.mem_map]
    constructor
    · rintro ⟨x, hx, rfl⟩
      exact ⟨x, hmem x hx, rfl⟩
    · rintro ⟨x, hx, rfl⟩
      have hkey := mem_sortedSet.mpr (List.mem_map_of_mem (f := f) hx)
      obtain ⟨y, hy, hfirst⟩ := hfind (f x) hkey
      refine ⟨y, List.mem_filterMap.mpr ⟨f x, hkey, hy⟩, ?_⟩
      exact (h.eq_iff (List.mem_of_find?_eq_some hy) hx).mp hfirst

/-- **Keys that are ordered alike have the same ranks.** -/
theorem rank_eq_of_alike (h : Alike l f g) {x : ι} (hx : x ∈ l) :
    rank (l.map f) (f x) = rank (l.map g) (g x) := by
  obtain ⟨ranked, hmem, hleft, hright⟩ := exists_ranked h
  obtain ⟨y, hy, hfirst⟩ : ∃ y ∈ ranked, f y = f x := by
    rw [← List.mem_map, hleft, mem_sortedSet]
    exact List.mem_map_of_mem hx
  obtain ⟨i, hi⟩ := List.mem_iff_getElem?.mp hy
  rw [← hfirst, ← (h.eq_iff (hmem y hy) hx).mp hfirst, rank_of_getElem? (i := i),
    rank_of_getElem? (i := i)]
  · rw [← hright, List.getElem?_map, hi, Option.map_some]
  · rw [← hleft, List.getElem?_map, hi, Option.map_some]

/-- Keys with the same ranks are ordered alike. -/
theorem alike_of_rank_eq
    (h : ∀ x ∈ l, rank (l.map f) (f x) = rank (l.map g) (g x)) : Alike l f g := by
  intro x hx y hy
  rw [← compare_rank (List.mem_map_of_mem hx) (List.mem_map_of_mem hy), h x hx, h y hy,
    compare_rank (List.mem_map_of_mem hx) (List.mem_map_of_mem hy)]

end Alike

/-! ### Numbers of 32 bits -/

/-- There are no more distinct numbers than 32 bits can tell apart. -/
theorem length_sortedSet32_le (l : List UInt32) : (sortedSet l).length ≤ 2 ^ 32 := by
  have hnodup : ((sortedSet l).map UInt32.toNat).Nodup :=
    (sortedSet_nodup l).map fun _ _ => UInt32.toNat_inj.mp
  have hsub : (sortedSet l).map UInt32.toNat ⊆ List.range (2 ^ 32) := by
    intro n hn
    obtain ⟨p, -, rfl⟩ := List.mem_map.mp hn
    exact List.mem_range.mpr p.toNat_lt
  have hlength := (hnodup.subperm hsub).length_le
  rwa [List.length_map, List.length_range] at hlength

/-- A rank among numbers of 32 bits fits 32 bits. -/
theorem toNat_rank32 {l : List UInt32} {a : UInt32} (ha : a ∈ l) :
    (UInt32.ofNat (rank l a)).toNat = rank l a :=
  UInt32.toNat_ofNat_of_lt' (Nat.lt_of_lt_of_le (rank_lt_length ha) (length_sortedSet32_le l))

/-- Between two positions with the same first number the second grows. -/
theorem le_of_getElem?_sortedSet {l : List (UInt32 × UInt32)} {x y : UInt32 × UInt32} {i k : ℕ}
    (hx : (sortedSet l)[i]? = some x) (hy : (sortedSet l)[i + k]? = some y) (hsame : x.1 = y.1) :
    x.2.toNat + k ≤ y.2.toNat := by
  induction k generalizing y with
  | zero =>
      obtain rfl := Option.some.inj (hx.symm.trans hy)
      exact Nat.le_refl _
  | succ k ih =>
      have hlt : ∀ {i j : ℕ} {a b : UInt32 × UInt32}, (sortedSet l)[i]? = some a →
          (sortedSet l)[j]? = some b → i < j → a.1 < b.1 ∨ a.1 = b.1 ∧ a.2 < b.2 := by
        intro i j a b ha hb hij
        obtain ⟨hi, rfl⟩ := List.getElem?_eq_some_iff.mp ha
        obtain ⟨hj, rfl⟩ := List.getElem?_eq_some_iff.mp hb
        have hcompare := List.pairwise_iff_getElem.mp (sortedSet_pairwise_lt l) i j hi hj hij
        rw [show compare (sortedSet l)[i] (sortedSet l)[j] =
          (compare (sortedSet l)[i].1 (sortedSet l)[j].1).then
            (compare (sortedSet l)[i].2 (sortedSet l)[j].2) from rfl, Ordering.then_eq_lt,
          compare_eq_lt, compare_eq_lt, LawfulEqOrd.compare_eq_iff_eq] at hcompare
        exact hcompare
      obtain ⟨hbound, -⟩ := List.getElem?_eq_some_iff.mp hy
      have hw : (sortedSet l)[i + k]? = some (sortedSet l)[i + k] := List.getElem?_eq_getElem (by omega)
      have hwy := hlt hw hy (by omega)
      have hsame' : x.1 = (sortedSet l)[i + k].1 := by
        rcases Nat.eq_zero_or_pos k with rfl | hpos
        · exact congrArg Prod.fst (Option.some.inj (hx.symm.trans hw))
        · have hxw := hlt hx hw (by omega)
          simp only [UInt32.lt_iff_toNat_lt, ← UInt32.toNat_inj] at hxw hwy hsame ⊢
          omega
      have hgrow := ih hw hsame'
      simp only [UInt32.lt_iff_toNat_lt, ← UInt32.toNat_inj] at hwy hsame hsame'
      omega

/-- The position of an element is known from 32 bits of it and the first number. -/
theorem rank_eq_of_ofNat_eq {l : List (UInt32 × UInt32)} {x y : UInt32 × UInt32} {j : ℕ} (hx : x ∈ l)
    (hy : (sortedSet l)[j]? = some y) (hsame : x.1 = y.1)
    (h : UInt32.ofNat (rank l x) = UInt32.ofNat j) : rank l x = j := by
  have hmod := congrArg UInt32.toNat h
  rw [UInt32.toNat_ofNat', UInt32.toNat_ofNat'] at hmod
  have hget := getElem?_rank hx
  have hxlt := x.2.toNat_lt
  have hylt := y.2.toNat_lt
  rcases Nat.le_total (rank l x) j with hle | hle
  · have hgap := le_of_getElem?_sortedSet (k := j - rank l x) hget (by rwa [Nat.add_sub_cancel' hle]) hsame
    omega
  · have hgap := le_of_getElem?_sortedSet (k := rank l x - j) hy (by rwa [Nat.add_sub_cancel' hle])
      hsame.symm
    omega

end Sysal
