import Mathlib.Data.List.Dedup
import Mathlib.Data.List.Induction
import Mathlib.Data.List.Lookmap
import Sysal.Foundation.OrderedContainers

/-!
# Grouping by key and merging of equal elements

A scan that files every element under its key computes for each key the fold over the elements of
that key, whatever stands between them.

* `getElem?_foldl_insertOnce`: the elements of a key that must be the only one;
* `getElem?_foldl_fileUnder`, `toList_foldl_fileUnder`: the groups, and their list by increasing key;
* `toList_foldl_fileUnder_congr`: the groups do not depend on the order between keys;
* `flatMap_sortedSet_perm`: the groups partition the elements;
* `index_unique`, `lookmap_eq_map`: an element that is the only one of its kind;
* `foldl_lastOrFirst`: the last element with a property, else the first;
* `getElem?_foldl_insertReport_of`, `getD_foldl_collectReport`: the last report on a key, and all of them;
* `foldl_keepNew_*`: a scan that drops an element when an earlier one is the same;
* `forall₂_trans`, `forall_mem_of_forall₂`: lists whose elements correspond one by one.
-/

namespace Sysal

open Std

variable {α : Type*} {β : Type*} [Ord α]

/-! ### Keys that occur once -/

variable {ι : Type*}

/-- A scan of elements with keys: the value of the only element of a key, or `clash` for a key that
comes again. -/
def insertOnce (key : ι → α) (value : ι → β) (clash : β) (m : TreeMap α β compare) (x : ι) :
    TreeMap α β compare :=
  m.insert (key x) (if m.contains (key x) then clash else value x)

/-- What the scan stores for the elements of one key. -/
def onceValue (value : ι → β) (clash : β) : List ι → Option β
  | [] => none
  | [x] => some (value x)
  | _ :: _ :: _ => some clash

theorem onceValue_append_singleton (value : ι → β) (clash : β) (l : List ι) (x : ι) :
    onceValue value clash (l ++ [x]) = some (if l = [] then value x else clash) := by
  rcases l with _ | ⟨a, _ | ⟨b, l⟩⟩ <;> rfl

theorem onceValue_eq_none {value : ι → β} {clash : β} {l : List ι} :
    onceValue value clash l = none ↔ l = [] := by
  rcases l with _ | ⟨a, _ | ⟨b, l⟩⟩ <;> simp [onceValue]

theorem onceValue_eq_some {value : ι → β} {clash : β} {l : List ι} {b : β} :
    onceValue value clash l = some b ↔
      (∃ x ∈ l, l.length = 1 ∧ b = value x) ∨ (2 ≤ l.length ∧ b = clash) := by
  rcases l with _ | ⟨x, _ | ⟨y, l⟩⟩
  · simp [onceValue]
  · simp [onceValue, eq_comm]
  · simp [onceValue, eq_comm]

/-- A key has the value of its only element, and `clash` when it has several. -/
theorem getElem?_foldl_insertOnce [TransOrd α] [LawfulEqOrd α] [DecidableEq α] (key : ι → α)
    (value : ι → β) (clash : β) (l : List ι) (k : α) :
    (l.foldl (insertOnce key value clash) ∅)[k]? = onceValue value clash (l.filter (key · = k)) := by
  induction l using List.reverseRecOn generalizing k with
  | nil => simp [onceValue]
  | append_singleton l x ih =>
      rw [List.foldl_append, List.foldl_cons, List.foldl_nil, insertOnce, TreeMap.getElem?_insert,
        List.filter_append]
      by_cases hk : key x = k
      · have hcontains : (l.foldl (insertOnce key value clash) ∅).contains (key x) = true ↔
            l.filter (key · = k) ≠ [] := by
          rw [hk, TreeMap.contains_eq_isSome_getElem?, Option.isSome_iff_ne_none, ih, ne_eq,
            onceValue_eq_none]
        rw [if_pos (LawfulEqOrd.compare_eq_iff_eq.mpr hk),
          List.filter_cons_of_pos (by simpa using hk), List.filter_nil, onceValue_append_singleton]
        by_cases hl : l.filter (key · = k) = []
        · rw [if_neg (by simpa [hl] using hcontains), if_pos hl]
        · rw [if_pos (hcontains.mpr hl), if_neg hl]
      · rw [if_neg (LawfulEqOrd.compare_eq_iff_eq.not.mpr hk), ih,
          List.filter_cons_of_neg (by simpa using hk), List.filter_nil, List.append_nil]

/-! ### Groups -/

section Groups

variable [Inhabited β] (key : ι → Option α) (add : α → β → ι → β)

/-- One element of a scan that files elements under their keys. -/
def fileUnder (m : TreeMap α β compare) (x : ι) : TreeMap α β compare :=
  match key x with
  | some k => upsert m k fun group => add k group x
  | none => m

variable [DecidableEq α]

/-- The elements of a key, added one after the other. -/
def groupOf (l : List ι) (k : α) : β := (l.filter (key · = some k)).foldl (add k) default

variable {key add} [TransOrd α] [LawfulEqOrd α]

theorem getElem?_foldl_fileUnder (l : List ι) (k : α) :
    (l.foldl (fileUnder key add) ∅)[k]? =
      if k ∈ l.filterMap key then some (groupOf key add l k) else none := by
  induction l using List.reverseRecOn with
  | nil => simp
  | append_singleton l x ih =>
      rw [List.foldl_append, List.foldl_cons, List.foldl_nil, fileUnder, groupOf, List.filter_append,
        List.foldl_append, List.filterMap_append]
      cases hx : key x with
      | none => simpa [hx, groupOf] using ih
      | some k' =>
          dsimp only
          rw [getElem?_upsert, ih]
          by_cases hk : k' = k
          · subst hk
            by_cases hmem : k' ∈ l.filterMap key
            · simp [hx, hmem, groupOf]
            · have hempty : l.filter (key · = some k') = [] := by
                rw [List.filter_eq_nil_iff]
                intro y hy hkey
                exact hmem (List.mem_filterMap.mpr ⟨y, hy, by simpa using hkey⟩)
              simp [hx, hmem, hempty]
          · simp [hx, hk, Ne.symm hk, groupOf]

/-- The groups by increasing key. -/
theorem toList_foldl_fileUnder (l : List ι) :
    (l.foldl (fileUnder key add) ∅).toList =
      (sortedSet (l.filterMap key)).map fun k => (k, groupOf key add l k) := by
  have hkeys : ((sortedSet (l.filterMap key)).map fun k => (k, groupOf key add l k)).Pairwise
      fun a b => compare a.1 b.1 = .lt := by
    rw [List.pairwise_map]
    exact sortedSet_pairwise_lt _
  have hmem : ∀ entry : α × β, entry ∈ (l.foldl (fileUnder key add) ∅).toList ↔
      entry ∈ (sortedSet (l.filterMap key)).map fun k => (k, groupOf key add l k) := by
    rintro ⟨k, group⟩
    rw [TreeMap.mem_toList_iff_getElem?_eq_some, getElem?_foldl_fileUnder, List.mem_map]
    constructor
    · intro h
      split at h
      · rename_i hk
        exact ⟨k, mem_sortedSet.mpr hk, by rw [Option.some.inj h]⟩
      · cases h
    · rintro ⟨k', hk', heq⟩
      obtain ⟨rfl, rfl⟩ := Prod.mk.inj heq
      rw [if_pos (mem_sortedSet.mp hk')]
  exact eq_of_pairwise_compare Prod.fst TreeMap.ordered_keys_toList hkeys hmem

/-- The groups depend on the order within each key only. -/
theorem toList_foldl_fileUnder_congr {l l' : List ι}
    (h : ∀ k, l.filter (key · = some k) = l'.filter (key · = some k)) :
    (l.foldl (fileUnder key add) ∅).toList = (l'.foldl (fileUnder key add) ∅).toList := by
  have hmem : ∀ (m : List ι) k, k ∈ m.filterMap key ↔ m.filter (key · = some k) ≠ [] := by
    intro m k
    rw [List.mem_filterMap, ne_eq, List.filter_eq_nil_iff]
    simp
  have hkeys : sortedSet (l.filterMap key) = sortedSet (l'.filterMap key) := by
    refine eq_of_pairwise_lt (sortedSet_pairwise_lt _) (sortedSet_pairwise_lt _) fun k => ?_
    rw [mem_sortedSet, mem_sortedSet, hmem, hmem, h]
  rw [toList_foldl_fileUnder, toList_foldl_fileUnder, hkeys]
  refine List.map_congr_left fun k _ => ?_
  rw [groupOf, groupOf, h]

end Groups

/-! ### Partitions -/

section Partitions

variable [DecidableEq α] {key : ι → α}

omit [Ord α] in
/-- The groups of distinct keys together hold the elements with these keys. -/
theorem flatMap_filter_key_perm {ks : List α} (hks : ks.Nodup) (l : List ι) :
    (ks.flatMap fun k => l.filter (key · = k)).Perm (l.filter (key · ∈ ks)) := by
  induction ks with
  | nil => simp
  | cons k ks ih =>
      rw [List.nodup_cons] at hks
      have hsplit := List.filter_append_perm (key · = k) (l.filter (key · ∈ k :: ks))
      rw [List.filter_filter, List.filter_filter] at hsplit
      rw [List.flatMap_cons]
      refine List.Perm.trans (List.Perm.append ?_ ((ih hks.2).trans ?_)) hsplit
      · refine List.Perm.of_eq (List.filter_congr fun x _ => ?_)
        by_cases hx : key x = k
        · simp [hx]
        · simp [hx]
      · refine List.Perm.of_eq (List.filter_congr fun x _ => ?_)
        have hk : key x ∈ ks → key x ≠ k := fun hx heq => hks.1 (heq ▸ hx)
        by_cases hx : key x ∈ ks
        · simp [hx, hk hx]
        · simp [hx]

/-- The groups of all keys partition a list. -/
theorem flatMap_sortedSet_perm [TransOrd α] [LawfulEqOrd α] (l : List ι) :
    ((sortedSet (l.map key)).flatMap fun k => l.filter (key · = k)).Perm l := by
  refine (flatMap_filter_key_perm (sortedSet_nodup _) l).trans (List.Perm.of_eq ?_)
  rw [List.filter_eq_self]
  intro x hx
  rw [decide_eq_true_eq, mem_sortedSet]
  exact List.mem_map_of_mem hx

end Partitions

/-! ### Elements that occur once -/

section Single

variable {γ : Type*} {p : γ → Bool} {l : List γ}

/-- An element with a property that one element has is at one position. -/
theorem index_unique (h : l.countP p ≤ 1) {i j : ℕ} {a b : γ} (hi : l[i]? = some a)
    (hj : l[j]? = some b) (ha : p a = true) (hb : p b = true) : i = j := by
  induction l generalizing i j with
  | nil => simp at hi
  | cons x l ih =>
      rw [List.countP_cons] at h
      have hnone : p x = true → ∀ (k : ℕ) c, l[k]? = some c → p c ≠ true := by
        intro hx k c hk hc
        rw [if_pos hx] at h
        have := List.countP_pos_iff.mpr ⟨c, List.mem_of_getElem? hk, hc⟩
        omega
      cases i with
      | zero =>
          obtain rfl := Option.some.inj hi
          cases j with
          | zero => rfl
          | succ j => exact absurd hb (hnone ha j b hj)
      | succ i =>
          cases j with
          | zero =>
              obtain rfl := Option.some.inj hj
              exact absurd ha (hnone hb i a hi)
          | succ j => rw [ih (by omega) hi hj]

/-- Replacing the first element that has a replacement replaces all, where only one has. -/
theorem lookmap_eq_map {f : γ → Option γ} (h : l.countP (fun a => (f a).isSome) ≤ 1) :
    l.lookmap f = l.map fun a => (f a).getD a := by
  induction l with
  | nil => rfl
  | cons x l ih =>
      rw [List.countP_cons] at h
      cases hx : f x with
      | none =>
          rw [List.lookmap_cons_none _ _ hx, List.map_cons, hx, Option.getD_none, ih (by omega)]
      | some y =>
          rw [hx, Option.isSome_some, if_pos rfl] at h
          have hnone : ∀ a ∈ l, (fun a => (f a).getD a) a = id a := by
            intro a ha
            have hcount : l.countP (fun a => (f a).isSome) = 0 := by omega
            have hzero := List.countP_eq_zero.mp hcount a ha
            rw [Option.not_isSome_iff_eq_none] at hzero
            dsimp only
            rw [hzero, Option.getD_none, id]
          rw [List.lookmap_cons_some _ _ hx, List.map_cons, hx, Option.getD_some,
            List.map_congr_left hnone, List.map_id]

end Single

/-! ### Representatives -/

section Representatives

variable {γ : Type*} {p : γ → Bool} {l : List γ}

/-- The last element with a property, or the first of a list without one. -/
def lastOrFirst (p : γ → Bool) (l : List γ) : Option γ := ((l.filter p).getLast?).or l.head?

@[simp] theorem lastOrFirst_nil : lastOrFirst p [] = none := rfl

theorem lastOrFirst_eq_none : lastOrFirst p l = none ↔ l = [] := by
  rw [lastOrFirst, Option.or_eq_none_iff, List.head?_eq_none_iff, List.getLast?_eq_none_iff]
  exact ⟨And.right, fun h => ⟨by rw [h, List.filter_nil], h⟩⟩

/-- One more element: it is taken if it has the property, and if there is no other. -/
theorem lastOrFirst_append_singleton (p : γ → Bool) (l : List γ) (x : γ) :
    lastOrFirst p (l ++ [x]) = if p x then some x else (lastOrFirst p l).or (some x) := by
  rw [lastOrFirst, lastOrFirst, List.filter_append]
  by_cases hx : p x = true
  · simp [hx]
  · simp [hx]

/-- A scan that passes over some elements, and keeps an element until one with the property comes, finds
the representative of the others. -/
theorem foldl_lastOrFirst {σ : Type*} {step : σ → γ → σ} {q : γ → Bool} (state : Option γ → σ)
    (hskip : ∀ o x, q x = false → step (state o) x = state o)
    (hstep : ∀ o x, q x = true → step (state o) x = state (if o.isNone || p x then some x else o)) :
    l.foldl step (state none) = state (lastOrFirst p (l.filter q)) := by
  induction l using List.reverseRecOn with
  | nil => rfl
  | append_singleton l x ih =>
      rw [List.foldl_append, List.foldl_cons, List.foldl_nil, ih, List.filter_append]
      cases hx : q x with
      | false => rw [hskip _ x hx, List.filter_cons_of_neg (by simp [hx]), List.filter_nil,
          List.append_nil]
      | true =>
          rw [hstep _ x hx, List.filter_cons_of_pos hx, List.filter_nil, lastOrFirst_append_singleton]
          cases lastOrFirst p (l.filter q) with
          | none => simp
          | some y => simp

end Representatives

/-! ### Last reports -/

section Reports

variable (report : ι → Option (α × β))

/-- One element of a scan that stores the reports on keys; a later report replaces an earlier one. -/
def insertReport (m : TreeMap α β compare) (x : ι) : TreeMap α β compare :=
  match report x with
  | some (k, b) => m.insert k b
  | none => m

theorem getElem?_foldl_insertReport [TransOrd α] [LawfulEqOrd α] [DecidableEq α] (l : List ι) (k : α) :
    (l.foldl (insertReport report) ∅)[k]? =
      (((l.filterMap report).filter (·.1 = k)).getLast?).map Prod.snd := by
  induction l using List.reverseRecOn with
  | nil => simp
  | append_singleton l x ih =>
      rw [List.foldl_append, List.foldl_cons, List.foldl_nil, insertReport, List.filterMap_append,
        List.filter_append, List.getLast?_append]
      rcases hx : report x with _ | ⟨k', b⟩
      · simpa [hx] using ih
      · dsimp only
        rw [TreeMap.getElem?_insert]
        by_cases hk : k' = k
        · simp [hx, hk, ReflOrd.compare_self]
        · rw [if_neg (LawfulEqOrd.compare_eq_iff_eq.not.mpr hk), ih]
          simp [hx, hk]

omit [Ord α] in
/-- The reports on a key, where it is known which elements report on it. -/
theorem filter_filterMap_report [DecidableEq α] {k : α} (p : ι → Bool) (value : ι → β)
    (h : ∀ x b, report x = some (k, b) ↔ p x = true ∧ value x = b) (l : List ι) :
    ((l.filterMap report).filter (·.1 = k)).map Prod.snd = (l.filter p).map value := by
  induction l with
  | nil => rfl
  | cons x l ih =>
      by_cases hp : p x = true
      · rw [List.filterMap_cons_some ((h x _).mpr ⟨hp, rfl⟩), List.filter_cons_of_pos (by simp),
          List.filter_cons_of_pos hp, List.map_cons, List.map_cons, ih]
      · rw [List.filter_cons_of_neg hp, ← ih]
        cases hreport : report x with
        | none => rw [List.filterMap_cons_none hreport]
        | some entry =>
            have hkey : entry.1 ≠ k := by
              rintro rfl
              exact hp ((h x entry.2).mp hreport).1
            rw [List.filterMap_cons_some hreport, List.filter_cons_of_neg (by simpa using hkey)]

/-- The report that counts is the one of the last element that reports on the key. -/
theorem getElem?_foldl_insertReport_of [TransOrd α] [LawfulEqOrd α] [DecidableEq α] {k : α}
    (p : ι → Bool) (value : ι → β)
    (h : ∀ x b, report x = some (k, b) ↔ p x = true ∧ value x = b) (l : List ι) :
    (l.foldl (insertReport report) ∅)[k]? = ((l.filter p).getLast?).map value := by
  rw [getElem?_foldl_insertReport, ← List.getLast?_map, filter_filterMap_report report p value h,
    List.getLast?_map]

/-- One element of a scan that collects all reports on a key. -/
def collectReport (m : TreeMap α (List β) compare) (x : ι) : TreeMap α (List β) compare :=
  match report x with
  | some (k, b) => upsert m k (· ++ [b])
  | none => m

theorem getD_foldl_collectReport [TransOrd α] [LawfulEqOrd α] [DecidableEq α] (l : List ι) (k : α) :
    (l.foldl (collectReport report) ∅).getD k [] =
      ((l.filterMap report).filter (·.1 = k)).map Prod.snd := by
  induction l using List.reverseRecOn with
  | nil => simp
  | append_singleton l x ih =>
      rw [TreeMap.getD_eq_getD_getElem?] at ih ⊢
      rw [List.foldl_append, List.foldl_cons, List.foldl_nil, collectReport, List.filterMap_append,
        List.filter_append, List.map_append, ← ih]
      rcases hx : report x with _ | ⟨k', b⟩
      · simp [hx]
      · dsimp only
        rw [getElem?_upsert]
        by_cases hk : k' = k
        · have hdefault : (default : List β) = [] := rfl
          rw [if_pos hk, hdefault]
          simp [hx, hk]
        · rw [if_neg hk]
          simp [hx, hk]

end Reports

/-! ### Merging -/

section Merging

variable {γ : Type*} {δ : Type*}

/-- One element of a scan that drops what an earlier element is the same as. -/
def keepNew (same : γ → γ → Bool) (kept : List γ) (x : γ) : List γ :=
  if kept.any (same x) then kept else kept ++ [x]

variable {same : γ → γ → Bool} {mergeable : γ → Bool} {key : γ → δ}

theorem foldl_keepNew_sublist (l : List γ) : (l.foldl (keepNew same) []).Sublist l := by
  induction l using List.reverseRecOn with
  | nil => exact List.Sublist.refl _
  | append_singleton l x ih =>
      rw [List.foldl_append, List.foldl_cons, List.foldl_nil, keepNew]
      split
      · exact ih.trans (List.sublist_append_left _ _)
      · exact ih.append (List.Sublist.refl _)

/-- Elements that are never the same as another are all kept, in their order. -/
theorem foldl_keepNew_filter (mergeable : γ → Bool)
    (hsame : ∀ x y, same x y = true → mergeable x = true) (l : List γ) :
    (l.foldl (keepNew same) []).filter (!mergeable ·) = l.filter (!mergeable ·) := by
  induction l using List.reverseRecOn with
  | nil => rfl
  | append_singleton l x ih =>
      rw [List.foldl_append, List.foldl_cons, List.foldl_nil, keepNew, List.filter_append, ← ih]
      by_cases hany : (l.foldl (keepNew same) []).any (same x) = true
      · obtain ⟨y, -, hy⟩ := List.any_eq_true.mp hany
        rw [if_pos hany]
        simp [hsame x y hy]
      · rw [if_neg hany, List.filter_append]

variable (hsame : ∀ x y, same x y = true ↔ mergeable x = true ∧ key x = key y)
include hsame

/-- A dropped element is represented by one with its key. -/
theorem exists_mem_foldl_keepNew {l : List γ} {x : γ} (h : x ∈ l) :
    ∃ y ∈ l.foldl (keepNew same) [], key y = key x := by
  induction l using List.reverseRecOn with
  | nil => cases h
  | append_singleton l z ih =>
      rw [List.foldl_append, List.foldl_cons, List.foldl_nil, keepNew]
      split
      · rename_i hany
        rcases List.mem_append.mp h with h | h
        · exact ih h
        · obtain ⟨y, hy, hyx⟩ := List.any_eq_true.mp hany
          rw [List.mem_singleton.mp h]
          exact ⟨y, hy, ((hsame z y).mp hyx).2.symm⟩
      · rcases List.mem_append.mp h with h | h
        · obtain ⟨y, hy, hyx⟩ := ih h
          exact ⟨y, List.mem_append_left _ hy, hyx⟩
        · exact ⟨x, List.mem_append_right _ h, rfl⟩

/-- Mergeable elements that are kept have distinct keys. -/
theorem nodup_foldl_keepNew (l : List γ) :
    (((l.foldl (keepNew same) []).filter (mergeable ·)).map key).Nodup := by
  induction l using List.reverseRecOn with
  | nil => exact List.nodup_nil
  | append_singleton l x ih =>
      rw [List.foldl_append, List.foldl_cons, List.foldl_nil, keepNew]
      split
      · exact ih
      · rename_i hnone
        rw [List.filter_append, List.map_append]
        by_cases hx : mergeable x = true
        · rw [List.filter_cons_of_pos hx, List.filter_nil, List.map_singleton, ← List.concat_eq_append]
          refine ih.concat fun hmem => ?_
          obtain ⟨y, hy, hyx⟩ := List.mem_map.mp hmem
          exact hnone (List.any_eq_true.mpr ⟨y, (List.mem_filter.mp hy).1, (hsame x y).mpr ⟨hx, hyx.symm⟩⟩)
        · rw [List.filter_cons_of_neg hx, List.filter_nil, List.map_nil, List.append_nil]
          exact ih

end Merging

/-! ### Corresponding elements -/

section Corresponding

variable {γ δ ε : Type*} {P : γ → δ → Prop} {l : List γ} {l' : List δ} {l'' : List ε}

/-- Two passes over a list are one. -/
theorem forall₂_trans {Q : δ → ε → Prop} {R : γ → ε → Prop}
    (h : ∀ a b c, P a b → Q b c → R a c) (hl : List.Forall₂ P l l') (hl' : List.Forall₂ Q l' l'') :
    List.Forall₂ R l l'' := by
  induction hl generalizing l'' with
  | nil =>
      cases hl'
      exact List.Forall₂.nil
  | cons hab _ ih =>
      cases hl' with
      | cons hbc hl' => exact List.Forall₂.cons (h _ _ _ hab hbc) (ih hl')

/-- A pass keeps what every element of it keeps. -/
theorem forall_mem_of_forall₂ {p : γ → Prop} {q : δ → Prop} (h : ∀ a b, P a b → p a → q b)
    (hl : List.Forall₂ P l l') (hp : ∀ a ∈ l, p a) : ∀ b ∈ l', q b := by
  induction hl with
  | nil => exact fun b hb => absurd hb List.not_mem_nil
  | cons hab _ ih =>
      rw [List.forall_mem_cons] at hp ⊢
      exact ⟨h _ _ hab hp.1, ih hp.2⟩

/-- A scan that keeps something for every element. -/
theorem forall₂_filterMap {f : γ → Option δ} (h : ∀ a ∈ l, ∃ b, f a = some b ∧ P a b) :
    List.Forall₂ P l (l.filterMap f) := by
  induction l with
  | nil => exact List.Forall₂.nil
  | cons a l ih =>
      obtain ⟨⟨b, hb, hab⟩, htail⟩ := List.forall_mem_cons.mp h
      rw [List.filterMap_cons_some hb]
      exact List.Forall₂.cons hab (ih htail)

/-- Elements that correspond have the same images under functions that agree on them. -/
theorem map_eq_of_forall₂ {f : γ → ε} {g : δ → ε} (h : ∀ a b, P a b → f a = g b)
    (hl : List.Forall₂ P l l') : l.map f = l'.map g := by
  induction hl with
  | nil => rfl
  | cons hab _ ih => rw [List.map_cons, List.map_cons, h _ _ hab, ih]

end Corresponding

end Sysal
