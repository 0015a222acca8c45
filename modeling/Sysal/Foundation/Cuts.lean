import Mathlib.Data.List.Infix
import Sysal.Foundation.Tokens

/-!
# Cutting a text at a byte

`cut` splits at the first occurrence of a byte and `rcut` at the last one.  A text with the byte in it
is cut in exactly one way: the left part of a first cut, and the right part of a last cut, do not have
the byte.
-/

namespace Sysal

variable {s left right : Bytes} {c : UInt8}

theorem cut_append (h : c ∉ left) (right : Bytes) :
    Bytes.cut (left ++ c :: right) c = some (left, right) := by
  have hne : ∀ d ∈ left, decide (d ≠ c) = true := fun d hd =>
    decide_eq_true fun heq => h (heq ▸ hd)
  rw [Bytes.cut, if_pos (by simp), List.takeWhile_append_of_pos hne,
    List.dropWhile_append_of_pos hne]
  simp

theorem cut_eq_none : Bytes.cut s c = none ↔ c ∉ s := by
  rw [Bytes.cut]
  by_cases h : c ∈ s <;> simp [h]

theorem cut_eq_some_iff :
    Bytes.cut s c = some (left, right) ↔ s = left ++ c :: right ∧ c ∉ left := by
  constructor
  · intro h
    obtain ⟨hs, hne⟩ := cut_eq_some h
    exact ⟨hs, fun hmem => hne c hmem rfl⟩
  · rintro ⟨rfl, h⟩
    exact cut_append h right

theorem rcut_eq_some_iff :
    Bytes.rcut s c = some (left, right) ↔ s = left ++ c :: right ∧ c ∉ right := by
  rw [Bytes.rcut, Option.map_eq_some_iff]
  constructor
  · rintro ⟨⟨r, l⟩, hcut, heq⟩
    obtain ⟨rfl, rfl⟩ := Prod.mk.inj heq
    obtain ⟨hs, hmem⟩ := cut_eq_some_iff.mp hcut
    refine ⟨?_, by simpa using hmem⟩
    rw [← List.reverse_reverse s, hs]
    simp
  · rintro ⟨rfl, h⟩
    refine ⟨(right.reverse, left.reverse), ?_, by simp⟩
    rw [cut_eq_some_iff]
    simpa using h

theorem rcut_append (h : c ∉ right) (left : Bytes) :
    Bytes.rcut (left ++ c :: right) c = some (left, right) :=
  rcut_eq_some_iff.mpr ⟨rfl, h⟩

theorem rcut_eq_none : Bytes.rcut s c = none ↔ c ∉ s := by
  rw [Bytes.rcut, Option.map_eq_none_iff, cut_eq_none, List.mem_reverse]

/-- A last cut is unique. -/
theorem append_cons_inj_right {left' right' : Bytes} (h : c ∉ right) (h' : c ∉ right')
    (heq : left ++ c :: right = left' ++ c :: right') : left = left' ∧ right = right' := by
  have hcut := rcut_append h left
  rw [heq, rcut_append h' left'] at hcut
  obtain ⟨hl, hr⟩ := Prod.mk.inj (Option.some.inj hcut)
  exact ⟨hl.symm, hr.symm⟩

/-- A text splits into two pieces where it has the byte once. -/
theorem split_eq_pair_iff :
    split s c = [left, right] ↔ s = left ++ c :: right ∧ c ∉ left ∧ c ∉ right := by
  have hjoin : [c].intercalate [left, right] = left ++ c :: right := by
    simp [List.intercalate]
  constructor
  · intro h
    have hparts : ∀ part ∈ [left, right], c ∉ part := by
      intro part hpart hmem
      rw [split, List.splitOn_eq_splitOnP] at h
      have := not_separator_of_mem_splitOnP (h ▸ hpart) c hmem
      simp at this
    refine ⟨?_, hparts left (by simp), hparts right (by simp)⟩
    rw [← hjoin, ← h]
    exact (List.intercalate_splitOn c).symm
  · rintro ⟨rfl, hleft, hright⟩
    rw [← hjoin]
    exact List.splitOn_intercalate c (by simp [hleft, hright]) (by simp)

/-! ### Cutting at a text -/

variable {pat : Bytes}

theorem cutSub_of_isPrefix (right : Bytes) : Bytes.cutSub (pat ++ right) pat = some ([], right) := by
  have hfind : Bytes.findFrom (pat ++ right) pat = some (pat ++ right) := by
    rw [Bytes.findFrom]
    cases h : pat ++ right with
    | nil => simp [List.append_eq_nil_iff.mp h]
    | cons d t =>
        rw [List.tails, List.find?_cons_of_pos]
        rw [← h, List.isPrefixOf_iff_prefix]
        exact List.prefix_append _ _
  rw [Bytes.cutSub, hfind]
  simp

theorem cutSub_cons {d : UInt8} (h : ¬ pat <+: d :: s) :
    Bytes.cutSub (d :: s) pat = (Bytes.cutSub s pat).map fun p => (d :: p.1, p.2) := by
  have hfind : Bytes.findFrom (d :: s) pat = Bytes.findFrom s pat := by
    rw [Bytes.findFrom, List.tails, List.find?_cons_of_neg]
    · rfl
    · rwa [List.isPrefixOf_iff_prefix]
  rw [Bytes.cutSub, Bytes.cutSub, hfind, Option.map_map]
  cases hrest : Bytes.findFrom s pat with
  | none => rfl
  | some rest =>
      have hle : rest.length ≤ s.length :=
        ((List.mem_tails _ _).mp (List.mem_of_find?_eq_some hrest)).length_le
      simp [Nat.succ_sub hle]

/-- A text is cut where the pattern occurs first. -/
theorem cutSub_append
    (h : ∀ left' right', left ++ (pat ++ right) = left' ++ (pat ++ right') →
      left.length ≤ left'.length) :
    Bytes.cutSub (left ++ (pat ++ right)) pat = some (left, right) := by
  induction left with
  | nil => exact cutSub_of_isPrefix right
  | cons d left ih =>
      have hnot : ¬ pat <+: d :: (left ++ (pat ++ right)) := by
        rintro ⟨right', hright⟩
        have := h [] right' hright.symm
        simp at this
      rw [List.cons_append, cutSub_cons hnot, ih]
      · rfl
      · intro left' right' heq
        have := h (d :: left') right' (by rw [List.cons_append, heq, List.cons_append])
        simpa using this

end Sysal
