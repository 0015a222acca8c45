import Sysal.Parser.MountRecords
import Sysal.Reader.Cgroup

/-!
# The two readers of an escaped path

The kernel escapes blanks, tabs, newlines and backslashes of a path.  The parser of the mount table
undoes every octal escape in one pass; the reader of control groups replaces three of them one after
the other, and the escape of a newline is not among the three.

* `replaceFrom_flatMap`: a replacement in a text of chunks replaces chunks;
* `unescape_escapeMount`: what the reader makes of an escaped path;
* `unescapes_iff`: both readers return the path exactly when it has no newline.
-/

namespace Sysal.CgroupReader

open Sysal MountInfo

/-! ### Replacing chunks -/

/-- A byte that is no backslash, or a backslash with three bytes that are none. -/
def IsChunk (s : Bytes) : Prop :=
  (∃ c, c ≠ 92 ∧ s = [c]) ∨ ∃ x y z, x ≠ 92 ∧ y ≠ 92 ∧ z ≠ 92 ∧ s = [92, x, y, z]

theorem replaceFrom_cons_of_ne (pat : Bytes) (decoded : UInt8) {c : UInt8} (hc : c ≠ 92) (s : Bytes) :
    replaceFrom (92 :: pat) decoded 0 (c :: s) = c :: replaceFrom (92 :: pat) decoded 0 s := by
  rw [replaceFrom, if_neg]
  simp [hc.symm]

/-- A pattern that starts with a backslash is found at the start of a chunk only. -/
theorem replaceFrom_chunk {x y z : UInt8} (decoded : UInt8) {chunk : Bytes} (h : IsChunk chunk)
    (s : Bytes) :
    replaceFrom [92, x, y, z] decoded 0 (chunk ++ s) =
      (if chunk = [92, x, y, z] then [decoded] else chunk) ++
        replaceFrom [92, x, y, z] decoded 0 s := by
  rcases h with ⟨c, hc, rfl⟩ | ⟨x', y', z', hx, hy, hz, rfl⟩
  · rw [if_neg (by simp), List.singleton_append, replaceFrom_cons_of_ne _ _ hc, List.singleton_append]
  · by_cases heq : [92, x', y', z'] = [92, x, y, z]
    · obtain ⟨rfl, rfl, rfl⟩ : x' = x ∧ y' = y ∧ z' = z := by simpa using heq
      rw [if_pos rfl]
      simp [replaceFrom]
    · have hpat : List.isPrefixOf [92, x, y, z] (92 :: x' :: y' :: z' :: s) = false := by
        simp only [List.cons.injEq, true_and, and_true, not_and] at heq
        simp only [List.isPrefixOf, Bool.and_true, beq_self_eq_true, Bool.true_and,
          Bool.and_eq_false_iff, beq_eq_false_iff_ne]
        by_contra hall
        push Not at hall
        exact heq hall.1.symm hall.2.1.symm hall.2.2.symm
      rw [if_neg heq]
      show replaceFrom [92, x, y, z] decoded 0 (92 :: x' :: y' :: z' :: s) = _
      rw [replaceFrom, if_neg (by simp [hpat]), replaceFrom_cons_of_ne _ _ hx,
        replaceFrom_cons_of_ne _ _ hy, replaceFrom_cons_of_ne _ _ hz]
      rfl

/-- A replacement in a text of chunks replaces chunks, and does not see what it has written. -/
theorem replaceFrom_flatMap {x y z : UInt8} (decoded : UInt8) {chunk : UInt8 → Bytes}
    (h : ∀ c, IsChunk (chunk c)) (s : Bytes) :
    replaceFrom [92, x, y, z] decoded 0 (s.flatMap chunk) =
      s.flatMap fun c => if chunk c = [92, x, y, z] then [decoded] else chunk c := by
  induction s with
  | nil => rfl
  | cons c s ih => rw [List.flatMap_cons, List.flatMap_cons, replaceFrom_chunk decoded (h c), ih]

theorem IsChunk.replaced {chunk pat : Bytes} (h : IsChunk chunk) {decoded : UInt8}
    (hdecoded : decoded ≠ 92) : IsChunk (if chunk = pat then [decoded] else chunk) := by
  split
  · exact Or.inl ⟨decoded, hdecoded, rfl⟩
  · exact h

/-! ### Escaped paths -/

theorem isChunk_escapeByte (c : UInt8) : IsChunk (escapeByte false c) := by
  rw [escapeByte]
  split
  · rename_i h
    refine forall_escapedBytes false (p := fun c => IsChunk (octalEscape c)) ?_ h
    refine ⟨?_, ?_, ?_, ?_, ?_⟩ <;>
      exact Or.inr ⟨_, _, _, by decide, by decide, by decide, rfl⟩
  · rename_i h
    refine Or.inl ⟨c, ?_, rfl⟩
    rintro rfl
    exact h (by decide)

/-- The reader leaves the escape of a newline as it is. -/
def readBack (c : UInt8) : Bytes := if c = 10 then octalEscape 10 else [c]

/-- What the reader makes of an escaped path: every byte but the newline. -/
theorem unescape_escapeMount (path : Bytes) :
    unescape (escapeMount false path) = path.flatMap readBack := by
  have hblank : utf8 "\\040" = [92, 48, 52, 48] := by decide +kernel
  have htab : utf8 "\\011" = [92, 48, 49, 49] := by decide +kernel
  have hbackslash : utf8 "\\134" = [92, 49, 51, 52] := by decide +kernel
  simp only [unescape, List.foldl_cons, List.foldl_nil, hblank, htab, hbackslash, escapeMount]
  rw [replaceFrom_flatMap 32 isChunk_escapeByte,
    replaceFrom_flatMap 9 fun c => (isChunk_escapeByte c).replaced (by decide),
    replaceFrom_flatMap 92 fun c =>
      ((isChunk_escapeByte c).replaced (by decide)).replaced (by decide)]
  refine List.flatMap_congr fun c _ => ?_
  by_cases h : c ∈ escapedBytes false
  · simp only [escapedBytes, Bool.false_eq_true, if_false, List.mem_cons, List.not_mem_nil,
      or_false] at h
    rcases h with rfl | rfl | rfl | rfl <;> decide +kernel
  · have hne : c ≠ 10 := by
      rintro rfl
      exact h (by decide)
    simp [escapeByte, h, readBack, hne]

theorem one_le_length_readBack (c : UInt8) : 1 ≤ (readBack c).length := by
  rw [readBack]
  split <;> simp [octalEscape]

theorem length_le_flatMap_readBack (s : Bytes) : s.length ≤ (s.flatMap readBack).length := by
  induction s with
  | nil => exact Nat.le_refl 0
  | cons c s ih =>
      have hone := one_le_length_readBack c
      rw [List.flatMap_cons, List.length_append, List.length_cons]
      omega

/-- A newline becomes four bytes, so a path with one does not come back. -/
theorem flatMap_readBack_eq_iff (path : Bytes) : path.flatMap readBack = path ↔ 10 ∉ path := by
  constructor
  · intro h hmem
    obtain ⟨before, rest, rfl⟩ := List.append_of_mem hmem
    have hfour : (readBack 10).length = 4 := by decide +kernel
    have hbefore := length_le_flatMap_readBack before
    have hrest := length_le_flatMap_readBack rest
    have hlength := congrArg List.length h
    simp only [List.flatMap_append, List.flatMap_cons, List.length_append, List.length_cons,
      hfour] at hlength
    omega
  · intro h
    induction path with
    | nil => rfl
    | cons c path ih =>
        rw [List.mem_cons, not_or] at h
        rw [List.flatMap_cons, ih h.2, readBack, if_neg (Ne.symm h.1)]
        rfl

/-- **Both readers of an escaped path return it exactly when it has no newline.** -/
theorem unescapes_iff (path : Bytes) :
    (unescape (escapeMount false path) = path ∧ unescapeMount (escapeMount false path) = path) ↔
      10 ∉ path := by
  rw [unescape_escapeMount, flatMap_readBack_eq_iff, and_iff_left (unescapeMount_escapeMount false path)]

/-- A directory with a newline in its name: the parser returns the path, the reader does not. -/
theorem unescape_newline :
    ¬ (unescape (escapeMount false (utf8 "/a\nb")) = utf8 "/a\nb" ∧
        unescapeMount (escapeMount false (utf8 "/a\nb")) = utf8 "/a\nb") ∧
      unescape (escapeMount false (utf8 "/a\nb")) = utf8 "/a\\012b" := by
  decide +kernel

end Sysal.CgroupReader
