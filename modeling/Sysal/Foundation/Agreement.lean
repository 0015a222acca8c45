import Mathlib.Data.List.Induction

/-!
# The agreement of several values

A scan over values that keeps one value: `unset` before the first, the common value as long as all are
the same, and `clash` from the first that differs.

* `agreement_eq_unset`, `agreement_eq`, `agreement_eq_clash`: what the result says about the values;
* `eq_agreement_iff`: the three together;
* `agreement_congr_iff`: when fewer of the values have the same agreement.
-/

namespace Sysal

variable {α : Type*} [DecidableEq α] {unset clash t : α} {l l' : List α}

/-- One more value. -/
def agree (unset clash : α) (common value : α) : α :=
  if common = unset then value else if common = value then common else clash

/-- What several values agree on. -/
def agreement (unset clash : α) (l : List α) : α := l.foldl (agree unset clash) unset

/-- All values of a list with values are the same one. -/
def Common (l : List α) (t : α) : Prop := l ≠ [] ∧ ∀ v ∈ l, v = t

instance (l : List α) (t : α) : Decidable (Common l t) := inferInstanceAs (Decidable (_ ∧ _))

omit [DecidableEq α] in
theorem Common.mem (h : Common l t) : t ∈ l := by
  obtain ⟨hne, hall⟩ := h
  obtain ⟨v, hv⟩ := List.exists_mem_of_ne_nil l hne
  rw [← hall v hv]
  exact hv

omit [DecidableEq α] in
theorem Common.unique {u : α} (ht : Common l t) (hu : Common l u) : t = u := hu.2 t ht.mem

omit [DecidableEq α] in
theorem common_append_singleton {v : α} :
    Common (l ++ [v]) t ↔ v = t ∧ (l = [] ∨ Common l t) := by
  rw [Common, Common, List.forall_mem_append, List.forall_mem_singleton]
  constructor
  · intro h
    refine ⟨h.2.2, ?_⟩
    by_cases hl : l = []
    · exact .inl hl
    · exact .inr ⟨hl, h.2.1⟩
  · rintro ⟨rfl, rfl | ⟨hl, hall⟩⟩
    · exact ⟨by simp, by simp, rfl⟩
    · exact ⟨by simp, hall, rfl⟩

/-- The agreement of all values: the common one if there is one, and `clash` otherwise. -/
theorem agreement_cases (hset : ∀ v ∈ l, v ≠ unset) (hclash : clash ≠ unset) :
    (l = [] ∧ agreement unset clash l = unset) ∨
      Common l (agreement unset clash l) ∨
      ((l ≠ [] ∧ ∀ t, ¬Common l t) ∧ agreement unset clash l = clash) := by
  induction l using List.reverseRecOn with
  | nil => exact .inl ⟨rfl, rfl⟩
  | append_singleton l v ih =>
      rw [List.forall_mem_append, List.forall_mem_singleton] at hset
      have hstep : agreement unset clash (l ++ [v]) =
          agree unset clash (agreement unset clash l) v := by
        rw [agreement, List.foldl_append]
        rfl
      rw [hstep, agree]
      rcases ih hset.1 with ⟨rfl, hempty⟩ | hcommon | ⟨⟨hne, hnone⟩, hresult⟩
      · rw [if_pos hempty]
        exact .inr (.inl (common_append_singleton.mpr ⟨rfl, .inl rfl⟩))
      · rw [if_neg (hset.1 _ hcommon.mem)]
        by_cases hv : agreement unset clash l = v
        · rw [if_pos hv]
          exact .inr (.inl (common_append_singleton.mpr ⟨hv.symm, .inr hcommon⟩))
        · rw [if_neg hv]
          refine .inr (.inr ⟨⟨by simp, fun t ht => ?_⟩, rfl⟩)
          obtain ⟨rfl, hl⟩ := common_append_singleton.mp ht
          rcases hl with rfl | hl
          · exact hcommon.1 rfl
          · exact hv (hcommon.unique hl)
      · rw [hresult, if_neg hclash]
        refine .inr (.inr ⟨⟨by simp, fun t ht => ?_⟩, ?_⟩)
        · rcases (common_append_singleton.mp ht).2 with rfl | hl
          · exact hne rfl
          · exact hnone t hl
        · split_ifs <;> rfl

/-- There is no agreement without a value. -/
theorem agreement_eq_unset (hset : ∀ v ∈ l, v ≠ unset) (hclash : clash ≠ unset) :
    agreement unset clash l = unset ↔ l = [] := by
  rcases agreement_cases hset hclash with ⟨hl, hresult⟩ | hcommon | ⟨⟨hne, -⟩, hresult⟩
  · exact iff_of_true hresult hl
  · exact iff_of_false (hset _ hcommon.mem) hcommon.1
  · rw [hresult]
    exact iff_of_false hclash hne

/-- The agreement is a value other than `clash` exactly where all values are this one. -/
theorem agreement_eq (hset : ∀ v ∈ l, v ≠ unset) (hclash : clash ≠ unset) (ht : t ≠ unset)
    (htc : t ≠ clash) : agreement unset clash l = t ↔ Common l t := by
  rcases agreement_cases hset hclash with ⟨rfl, hresult⟩ | hcommon | ⟨⟨-, hnone⟩, hresult⟩
  · rw [hresult]
    exact iff_of_false ht.symm fun h => h.1 rfl
  · constructor
    · rintro rfl
      exact hcommon
    · exact hcommon.unique
  · rw [hresult]
    exact iff_of_false htc.symm (hnone t)

/-- The agreement is `clash` where the values have no other value in common. -/
theorem agreement_eq_clash (hset : ∀ v ∈ l, v ≠ unset) (hclash : clash ≠ unset) :
    agreement unset clash l = clash ↔ l ≠ [] ∧ ∀ t, Common l t → t = clash := by
  rcases agreement_cases hset hclash with ⟨rfl, hresult⟩ | hcommon | ⟨⟨hne, hnone⟩, hresult⟩
  · rw [hresult]
    exact iff_of_false hclash.symm fun h => h.1 rfl
  · constructor
    · intro h
      rw [h] at hcommon
      exact ⟨hcommon.1, fun t ht => ht.unique hcommon⟩
    · exact fun h => h.2 _ hcommon
  · exact iff_of_true hresult ⟨hne, fun t ht => absurd ht (hnone t)⟩

/-- The three together determine the agreement. -/
theorem eq_agreement_iff {s : α} (hset : ∀ v ∈ l, v ≠ unset) (hclash : clash ≠ unset) :
    s = agreement unset clash l ↔
      (s = unset ↔ l = []) ∧ (∀ t, t ≠ unset → t ≠ clash → (s = t ↔ Common l t)) ∧
        (s = clash ↔ l ≠ [] ∧ ∀ t, Common l t → t = clash) := by
  constructor
  · rintro rfl
    exact ⟨agreement_eq_unset hset hclash, fun t ht htc => agreement_eq hset hclash ht htc,
      agreement_eq_clash hset hclash⟩
  · rintro ⟨hunset, hcommon, hclashed⟩
    by_cases hs : s = unset
    · rw [hs, (agreement_eq_unset hset hclash).mpr (hunset.mp hs)]
    by_cases hsc : s = clash
    · rw [hsc, (agreement_eq_clash hset hclash).mpr (hclashed.mp hsc)]
    · exact ((agreement_eq hset hclash hs hsc).mpr ((hcommon s hs hsc).mp rfl)).symm

/-- Some of the values, and of several values some, have the agreement of all of them unless they have a
value in common that the others do not have. -/
theorem agreement_congr_iff (hset : ∀ v ∈ l, v ≠ unset) (hclash : clash ≠ unset) (hsub : l' ⊆ l)
    (hnil : l' = [] → l = []) :
    agreement unset clash l = agreement unset clash l' ↔
      ∀ t ≠ clash, Common l' t → ∀ v ∈ l, v = t := by
  have hset' : ∀ v ∈ l', v ≠ unset := fun v hv => hset v (hsub hv)
  constructor
  · intro h t htc ht
    have ht' : t ≠ unset := hset' t ht.mem
    rw [(agreement_eq hset' hclash ht' htc).mpr ht, agreement_eq hset hclash ht' htc] at h
    exact h.2
  · intro h
    rcases agreement_cases hset' hclash with ⟨hl', hresult⟩ | hcommon | ⟨⟨hne, hnone⟩, hresult⟩
    · rw [hresult, hnil hl']
      rfl
    · have hne : l ≠ [] := fun hl => hcommon.1 (List.subset_nil.mp (hl ▸ hsub))
      by_cases htc : agreement unset clash l' = clash
      · rw [htc, agreement_eq_clash hset hclash]
        rw [htc] at hcommon
        exact ⟨hne, fun t ht => (ht.2 _ (hsub hcommon.mem)).symm⟩
      · rw [agreement_eq hset hclash (hset' _ hcommon.mem) htc]
        exact ⟨hne, h _ htc hcommon⟩
    · rw [hresult, agreement_eq_clash hset hclash]
      refine ⟨fun hl => hne (List.subset_nil.mp (hl ▸ hsub)), fun t ht => ?_⟩
      exact absurd ⟨hne, fun v hv => ht.2 v (hsub hv)⟩ (hnone t)

end Sysal
