import Mathlib.Data.List.Basic
import Mathlib.Data.List.Nodup
import Std.Data.TreeMap.Lemmas
import Std.Data.TreeSet.Lemmas

/-!
# Ordered sets and maps built by a scan

`std::set` and `std::map` are modelled by `Std.TreeSet` and `Std.TreeMap`: iteration is by increasing
key.  A scan that inserts every element of a list and then iterates over the result visits
`sortedSet`: the distinct elements in increasing order.  `upsert` is the assignment through the
reference `m[k]`, which first creates a default value for a key that is not there.
A `std::pair` key compares lexicographically, which is `lexOrd`.
-/

namespace Sysal

open Std

attribute [scoped instance] lexOrd

variable {α : Type*} {β : Type*} [Ord α]

/-- The distinct elements of a list in increasing order: a `std::set` filled by a scan. -/
def sortedSet (l : List α) : List α := (TreeSet.ofList l compare).toList

theorem mem_sortedSet [TransOrd α] [LawfulEqOrd α] {l : List α} {a : α} :
    a ∈ sortedSet l ↔ a ∈ l := by
  let _ : DecidableEq α := Classical.decEq α
  rw [sortedSet, TreeSet.mem_toList, TreeSet.mem_ofList, List.contains_iff_mem]

theorem sortedSet_pairwise_lt [TransOrd α] (l : List α) :
    (sortedSet l).Pairwise fun a b => compare a b = .lt :=
  TreeSet.ordered_toList

theorem sortedSet_nodup [TransOrd α] [LawfulEqOrd α] (l : List α) : (sortedSet l).Nodup :=
  (sortedSet_pairwise_lt l).imp fun hlt heq => by
    rw [heq, ReflOrd.compare_self] at hlt
    exact absurd hlt (by decide)

/-- A list ordered by a key is determined by its elements. -/
theorem eq_of_pairwise_compare [OrientedOrd α] {γ : Type*} (key : γ → α) {l l' : List γ}
    (hl : l.Pairwise fun a b => compare (key a) (key b) = .lt)
    (hl' : l'.Pairwise fun a b => compare (key a) (key b) = .lt) (h : ∀ a, a ∈ l ↔ a ∈ l') : l = l' := by
  have hnodup : ∀ {m : List γ}, m.Pairwise (fun a b => compare (key a) (key b) = .lt) → m.Nodup :=
    fun hm => hm.imp fun hlt heq => by
      rw [heq, ReflOrd.compare_self] at hlt
      exact absurd hlt (by decide)
  refine List.Perm.eq_of_pairwise ?_ hl hl' ((List.perm_ext_iff_of_nodup (hnodup hl) (hnodup hl')).mpr h)
  intro a b _ _ hab hba
  rw [OrientedOrd.eq_swap, hba] at hab
  exact absurd hab (by decide)

/-- An ordered list is determined by its elements. -/
theorem eq_of_pairwise_lt [OrientedOrd α] {l l' : List α}
    (hl : l.Pairwise fun a b => compare a b = .lt) (hl' : l'.Pairwise fun a b => compare a b = .lt)
    (h : ∀ a, a ∈ l ↔ a ∈ l') : l = l' :=
  eq_of_pairwise_compare id hl hl' h

/-! ### Maps -/

/-- Assignment through `m[k]`: a missing key is created with the default value first. -/
def upsert [Inhabited β] (m : TreeMap α β compare) (k : α) (f : β → β) : TreeMap α β compare :=
  m.insert k (f (m.getD k default))

theorem getElem?_upsert [TransOrd α] [LawfulEqOrd α] [DecidableEq α] [Inhabited β]
    (m : TreeMap α β compare) (k a : α) (f : β → β) :
    (upsert m k f)[a]? = if k = a then some (f (m[a]?.getD default)) else m[a]? := by
  rw [upsert, TreeMap.getElem?_insert]
  by_cases hka : k = a
  · subst hka
    simp [TreeMap.getD_eq_getD_getElem?, ReflOrd.compare_self]
  · simp [hka]

/-- Maps that agree on some keys have the same entries with these keys. -/
theorem filter_toList_congr [TransOrd α] [LawfulEqOrd α] {m m' : TreeMap α β compare} {p : α → Bool}
    (h : ∀ k, p k = true → m[k]? = m'[k]?) : m.toList.filter (p ·.1) = m'.toList.filter (p ·.1) := by
  refine eq_of_pairwise_compare Prod.fst (TreeMap.ordered_keys_toList.filter _)
    (TreeMap.ordered_keys_toList.filter _) fun entry => ?_
  rw [List.mem_filter, List.mem_filter, TreeMap.mem_toList_iff_getElem?_eq_some,
    TreeMap.mem_toList_iff_getElem?_eq_some]
  constructor
  · rintro ⟨hentry, hp⟩
    exact ⟨(h _ hp).symm.trans hentry, hp⟩
  · rintro ⟨hentry, hp⟩
    exact ⟨(h _ hp).trans hentry, hp⟩

/-- One element of a scan that fills a map by `emplace`; an earlier entry of a key stays. -/
def emplace {ι : Type*} (entry : ι → Option (α × β)) (m : TreeMap α β compare) (x : ι) :
    TreeMap α β compare :=
  match entry x with
  | some (k, b) => m.insertIfNew k b
  | none => m

theorem getElem?_foldl_emplace [TransOrd α] [LawfulEqOrd α] [DecidableEq α] {ι : Type*}
    (entry : ι → Option (α × β)) (l : List ι) (m : TreeMap α β compare) (k : α) :
    (l.foldl (emplace entry) m)[k]? =
      (m[k]?).or (((l.filterMap entry).find? (·.1 = k)).map Prod.snd) := by
  induction l generalizing m with
  | nil => simp
  | cons x l ih =>
      rw [List.foldl_cons, ih, emplace]
      rcases hx : entry x with _ | ⟨k', b⟩
      · rw [List.filterMap_cons_none hx]
      · rw [List.filterMap_cons_some hx, List.find?_cons, TreeMap.getElem?_insertIfNew]
        by_cases hk : k' = k
        · subst hk
          cases hm : m[k']? with
          | none =>
              rw [if_pos ⟨ReflOrd.compare_self, by simp [TreeMap.mem_iff_isSome_getElem?, hm]⟩]
              simp
          | some b' =>
              rw [if_neg fun h => h.2 (by simp [TreeMap.mem_iff_isSome_getElem?, hm])]
              simp
        · rw [if_neg fun h => hk (LawfulEqOrd.eq_of_compare h.1)]
          simp [hk]

/-- Where the entries of a key have one value, a scan finds it. -/
theorem getElem?_foldl_emplace_eq_some [TransOrd α] [LawfulEqOrd α] [DecidableEq α] {ι : Type*}
    {entry : ι → Option (α × β)} {l : List ι} {m : TreeMap α β compare} {k : α} {b : β}
    (hunique : ∀ x ∈ l, ∀ y ∈ l, ∀ c d, entry x = some (k, c) → entry y = some (k, d) → c = d) :
    (l.foldl (emplace entry) m)[k]? = some b ↔
      m[k]? = some b ∨ m[k]? = none ∧ ∃ x ∈ l, entry x = some (k, b) := by
  rw [getElem?_foldl_emplace]
  cases hm : m[k]? with
  | some c => simp
  | none =>
      rw [Option.none_or, Option.map_eq_some_iff]
      simp only [reduceCtorEq, true_and, false_or]
      constructor
      · rintro ⟨⟨k', b'⟩, hfind, rfl⟩
        obtain ⟨x, hx, hentry⟩ := List.mem_filterMap.mp (List.mem_of_find?_eq_some hfind)
        have hk : k' = k := by simpa using List.find?_some hfind
        exact ⟨x, hx, hk ▸ hentry⟩
      · rintro ⟨x, hx, hentry⟩
        have hmem : (k, b) ∈ l.filterMap entry := List.mem_filterMap.mpr ⟨x, hx, hentry⟩
        cases hfind : (l.filterMap entry).find? (·.1 = k) with
        | none => exact absurd (List.find?_eq_none.mp hfind _ hmem) (by simp)
        | some found =>
            obtain ⟨y, hy, hfound⟩ := List.mem_filterMap.mp (List.mem_of_find?_eq_some hfind)
            have hk : found.1 = k := by simpa using List.find?_some hfind
            exact ⟨found, rfl, hunique y hy x hx _ _ (hk ▸ hfound) hentry⟩

end Sysal
