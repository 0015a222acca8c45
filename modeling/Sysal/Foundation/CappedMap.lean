import Mathlib.Data.List.Dedup
import Mathlib.Data.List.Perm.Subperm
import Sysal.Foundation.LastWrite
import Sysal.Foundation.OrderedContainers

/-!
# Maps and sets with a cap on their size

A scan that stores into a map only while the map holds fewer than `cap` keys.  Nothing is stored that
is not in the list (`getElem?_foldl_cappedInsert`), and as long as the keys of the list fit under the
cap nothing is lost (`mem_foldl_cappedInsert_of_fits`).

A scan that fails as soon as the set it fills exceeds the cap fails exactly when the set of the whole
list does (`foldlM_insertWithin`).
-/

namespace Sysal

open Std

variable {α : Type*} {β : Type*} [Ord α] [TransOrd α] [LawfulEqOrd α]

/-- Store a pair unless the map is full. -/
def cappedInsert (cap : ℕ) (m : TreeMap α β compare) (e : α × β) : TreeMap α β compare :=
  if m.size < cap then m.insert e.1 e.2 else m

variable {cap : ℕ} {m : TreeMap α β compare}

omit [TransOrd α] [LawfulEqOrd α] in
theorem cappedInsert_full (h : cap ≤ m.size) (e : α × β) : cappedInsert cap m e = m :=
  if_neg (by omega)

omit [TransOrd α] [LawfulEqOrd α] in
/-- A full map does not change any more. -/
theorem foldl_cappedInsert_full (h : cap ≤ m.size) (l : List (α × β)) :
    l.foldl (cappedInsert cap) m = m := by
  induction l with
  | nil => rfl
  | cons e l ih => rw [List.foldl_cons, cappedInsert_full h, ih]

/-- What is stored was there before or is in the list. -/
theorem getElem?_foldl_cappedInsert (l : List (α × β)) {k : α} {v : β}
    (h : (l.foldl (cappedInsert cap) m)[k]? = some v) : m[k]? = some v ∨ (k, v) ∈ l := by
  induction l generalizing m with
  | nil => exact .inl h
  | cons e l ih =>
      rw [List.foldl_cons] at h
      rcases ih h with hm | hl
      · rw [cappedInsert] at hm
        split at hm
        · rw [TreeMap.getElem?_insert] at hm
          split at hm
          · rename_i heq
            refine .inr (List.mem_cons.mpr (.inl ?_))
            rw [← LawfulEqOrd.eq_of_compare heq, ← Option.some.inj hm]
          · exact .inl hm
        · exact .inl hm
      · exact .inr (List.mem_cons_of_mem _ hl)

omit [LawfulEqOrd α] in
/-- The cap bounds the size. -/
theorem size_foldl_cappedInsert_le (hm : m.size ≤ cap) (l : List (α × β)) :
    (l.foldl (cappedInsert cap) m).size ≤ cap := by
  induction l generalizing m with
  | nil => exact hm
  | cons e l ih =>
      rw [List.foldl_cons]
      refine ih ?_
      rw [cappedInsert]
      split
      · have := TreeMap.size_insert_le (t := m) (k := e.1) (v := e.2)
        omega
      · exact hm

omit [LawfulEqOrd α] in
/-- Keys that are there stay. -/
theorem mem_foldl_cappedInsert {k : α} (h : k ∈ m) (l : List (α × β)) :
    k ∈ l.foldl (cappedInsert cap) m := by
  induction l generalizing m with
  | nil => exact h
  | cons e l ih =>
      rw [List.foldl_cons]
      refine ih ?_
      rw [cappedInsert]
      split
      · exact TreeMap.mem_insert.mpr (.inr h)
      · exact h

theorem keys_nodup (m : TreeMap α β compare) : m.keys.Nodup :=
  TreeMap.distinct_keys.imp fun hne heq => by
    rw [heq, ReflOrd.compare_self] at hne
    exact hne rfl

/-- Distinct keys of a map are at most as many as its size. -/
theorem length_le_size {l : List α} (hl : l.Nodup) (h : ∀ k ∈ l, k ∈ m) : l.length ≤ m.size := by
  rw [← TreeMap.length_keys]
  exact (List.subperm_of_subset hl fun k hk => TreeMap.mem_keys.mpr (h k hk)).length_le

/-- A map whose keys come from a list that is no longer than the map has all of the list. -/
theorem mem_of_length_le {K : List α} (hkeys : ∀ k ∈ m, k ∈ K) (hlen : K.length ≤ m.size) {k : α}
    (hk : k ∈ K) : k ∈ m := by
  have hsub : m.keys.Subperm K :=
    List.subperm_of_subset (keys_nodup m) fun k hk => hkeys k (TreeMap.mem_keys.mp hk)
  have hperm := List.Subperm.perm_of_length_le hsub (by rwa [TreeMap.length_keys])
  exact TreeMap.mem_keys.mp (hperm.mem_iff.mpr hk)

/-- **Nothing is lost under the cap**: if the keys of the map and of the list are all in a list that
fits, every key of the list is stored. -/
theorem mem_foldl_cappedInsert_of_fits {K : List α} (hK : K.length ≤ cap) (l : List (α × β))
    (hm : ∀ k ∈ m, k ∈ K) (hl : ∀ e ∈ l, e.1 ∈ K) :
    ∀ e ∈ l, e.1 ∈ l.foldl (cappedInsert cap) m := by
  induction l generalizing m with
  | nil => simp
  | cons e l ih =>
      have hadd : e.1 ∈ cappedInsert cap m e := by
        rw [cappedInsert]
        split
        · exact TreeMap.mem_insert_self
        · exact mem_of_length_le hm (by omega) (hl e List.mem_cons_self)
      have hm' : ∀ k ∈ cappedInsert cap m e, k ∈ K := by
        intro k hk
        rw [cappedInsert] at hk
        split at hk
        · rcases TreeMap.mem_insert.mp hk with heq | hk
          · rw [← LawfulEqOrd.eq_of_compare heq]
            exact hl e List.mem_cons_self
          · exact hm k hk
        · exact hm k hk
      intro f hf
      rw [List.foldl_cons]
      rcases List.mem_cons.mp hf with rfl | hf
      · exact mem_foldl_cappedInsert hadd l
      · exact ih hm' (fun e he => hl e (List.mem_cons_of_mem _ he)) f hf

/-! ### What is stored -/

section Stored

variable [DecidableEq α]

/-- The pairs that come before `cap` different keys have been seen. -/
def beforeFull (cap : ℕ) : List α → List (α × β) → List (α × β)
  | _, [] => []
  | seen, e :: l => if seen.dedup.length < cap then e :: beforeFull cap (e.1 :: seen) l else []

/-- The value a pair has for a key. -/
def valueFor (k : α) (e : α × β) : Option β := if e.1 = k then some e.2 else none

/-- The last value that comes for a key before the map is full. -/
def lastStored (cap : ℕ) (l : List (α × β)) (k : α) : Option β :=
  lastWrite (valueFor k) (beforeFull cap [] l)

end Stored

/-! ### Sets -/

/-- Insert into a set, failing when the set then exceeds the cap. -/
def insertWithin (cap : ℕ) (s : TreeSet α compare) (a : α) : Option (TreeSet α compare) :=
  let s := s.insert a
  if cap < s.size then none else some s

omit [LawfulEqOrd α] in
theorem size_le_foldl_insert (l : List α) (s : TreeSet α compare) :
    s.size ≤ (l.foldl TreeSet.insert s).size := by
  induction l generalizing s with
  | nil => exact Nat.le_refl _
  | cons a l ih => exact Nat.le_trans TreeSet.size_le_size_insert (ih (s.insert a))

omit [LawfulEqOrd α] in
/-- **A scan that stops at the cap** fails exactly when the whole list does not fit. -/
theorem foldlM_insertWithin (l : List α) {s : TreeSet α compare} (hs : s.size ≤ cap) :
    l.foldlM (insertWithin cap) s =
      if cap < (l.foldl TreeSet.insert s).size then none else some (l.foldl TreeSet.insert s) := by
  induction l generalizing s with
  | nil => exact (if_neg (Nat.not_lt.mpr hs)).symm
  | cons a l ih =>
      rw [List.foldlM_cons, List.foldl_cons, insertWithin]
      by_cases hfull : cap < (s.insert a).size
      · have hgrow := size_le_foldl_insert l (s.insert a)
        rw [if_pos (show cap < (l.foldl TreeSet.insert (s.insert a)).size by omega)]
        simp only [if_pos hfull]
        rfl
      · simp only [if_neg hfull]
        exact ih (Nat.not_lt.mp hfull)

theorem mem_foldl_insert (l : List α) (s : TreeSet α compare) (a : α) :
    a ∈ l.foldl TreeSet.insert s ↔ a ∈ s ∨ a ∈ l := by
  induction l generalizing s with
  | nil => simp
  | cons b l ih =>
      rw [List.foldl_cons, ih, TreeSet.mem_insert, LawfulEqOrd.compare_eq_iff_eq, List.mem_cons,
        eq_comm (a := b)]
      tauto

end Sysal
