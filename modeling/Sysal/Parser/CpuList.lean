import Sysal.Foundation.OrderedContainers
import Sysal.Foundation.Tokens
import Sysal.Parser.CpuDetails

/-!
# What a CPU list says

`parse_cpu_id_list` accepts a list when every token between blanks and commas is a number or a range
`a-b` of bounded length; its result is the ordered set of the numbers the tokens cover
(`mem_parseCpuIdList`).  `readRange` is the number or range a text spells, without the bounds.

In an accepted list no range is written with blanks inside, so a comma-separated part that spells a
number or range is one token (`parseCpuToken_trim`).
-/

namespace Sysal.CpuDetails

open Sysal Std

/-! ### Numbers and ranges -/

/-- The number or range a text spells. -/
def readRange (text : Bytes) : Option (ℕ × ℕ) :=
  match Bytes.cut text 45 with
  | some (left, right) => do
    let first ← parseUint left
    let last ← parseUint right
    return (first, last)
  | none => (parseUint text).map fun n => (n, n)

theorem parseCpuToken_eq_some {token : Bytes} {r : ℕ × ℕ} :
    parseCpuToken token = some r ↔
      readRange token = some r ∧ r.1 ≤ r.2 ∧ r.2 ≤ maxUInt32 ∧ r.2 - r.1 < maxCpuCount := by
  have heq : parseCpuToken token = (readRange token).bind fun r =>
      if r.2 < r.1 ∨ maxUInt32 < r.2 ∨ maxCpuCount ≤ r.2 - r.1 then none else some r := by
    rw [parseCpuToken, readRange]
    rcases Bytes.cut token 45 with _ | ⟨left, right⟩
    · rfl
    · dsimp only
      rcases parseUint left with _ | first
      · rfl
      · rcases parseUint right with _ | last <;> rfl
  rw [heq, Option.bind_eq_some_iff]
  constructor
  · rintro ⟨r', hr', hguard⟩
    split at hguard
    · cases hguard
    · obtain rfl := Option.some.inj hguard
      exact ⟨hr', by omega⟩
  · rintro ⟨hr, hguard⟩
    exact ⟨r, hr, if_neg (by omega)⟩

theorem isDigit_of_digitValue {c : UInt8} (h : (digitValue 10 c).isSome = true) :
    isDigit c = true := by
  by_contra hd
  rw [digitValue, if_neg hd] at h
  split at h
  · rename_i hlow
    simp only [Bool.and_eq_true, decide_eq_true_eq, UInt8.le_iff_toNat_le] at hlow
    rw [Option.filter_some, if_neg (by simp at hlow ⊢; omega)] at h
    cases h
  · split at h
    · rename_i hup
      simp only [Bool.and_eq_true, decide_eq_true_eq, UInt8.le_iff_toNat_le] at hup
      rw [Option.filter_some, if_neg (by simp at hup ⊢; omega)] at h
      cases h
    · cases h

theorem digit_not_isSpace {c : UInt8} (h : (digitValue 10 c).isSome = true) :
    isSpace c = false ∧ c ≠ 45 := by
  have hd := isDigit_of_digitValue h
  simp only [isDigit, Bool.and_eq_true, decide_eq_true_eq, UInt8.le_iff_toNat_le] at hd
  refine ⟨?_, by rintro rfl; simp at hd⟩
  simp only [isSpace, Bool.or_eq_false_iff, Bool.and_eq_false_iff, decide_eq_false_iff_not,
    beq_eq_false_iff_ne, ne_eq, UInt8.le_iff_toNat_le, ← UInt8.toNat_inj]
  simp at hd ⊢
  omega

/-- The digits of a number that is read. -/
theorem parseUint_digits {s : Bytes} {v : ℕ} (h : parseUint s = some v) :
    trim s ≠ [] ∧ ∀ c ∈ trim s, isSpace c = false ∧ c ≠ 45 := by
  rw [parseUint, parseNumeral] at h
  split at h
  · rename_i w heq
    simp only [fromChars] at heq
    split at heq
    · cases heq
    · rename_i hne
      split at heq
      · rw [Option.some.injEq, Prod.mk.injEq] at heq
        have hall : ∀ c ∈ trim s, (digitValue 10 c).isSome = true := by
          simpa using List.dropWhile_eq_nil_iff.mp heq.2
        refine ⟨fun hnil => hne (by rw [hnil]; rfl), fun c hc => ?_⟩
        exact digit_not_isSpace (hall c hc)
      · cases heq
  · cases h

theorem parseUint_nil : parseUint [] = none := by decide

/-! ### The expansion of a list -/

theorem mem_foldlM_insert (l : List ℕ) {ids ids' : TreeSet UInt32 compare}
    (h : l.foldlM (fun (ids : TreeSet UInt32 compare) id =>
      let ids := ids.insert (UInt32.ofNat id)
      if maxCpuCount < ids.size then none else some ids) ids = some ids') (n : UInt32) :
    n ∈ ids' ↔ n ∈ ids ∨ ∃ x ∈ l, UInt32.ofNat x = n := by
  induction l generalizing ids with
  | nil =>
      obtain rfl := Option.some.inj h
      simp
  | cons x l ih =>
      rw [List.foldlM_cons] at h
      obtain ⟨ids₁, h₁, h₂⟩ := Option.bind_eq_some_iff.mp h
      dsimp only at h₁
      split at h₁
      · cases h₁
      · obtain rfl := Option.some.inj h₁
        rw [ih h₂, TreeSet.mem_insert, Std.compare_eq_iff_eq]
        simp only [List.mem_cons, exists_eq_or_imp]
        tauto

theorem mem_insertCpuRange {ids ids' : TreeSet UInt32 compare} {r : ℕ × ℕ} (hr : r.1 ≤ r.2)
    (hmax : r.2 ≤ maxUInt32) (h : insertCpuRange ids r = some ids') (n : UInt32) :
    n ∈ ids' ↔ n ∈ ids ∨ r.1 ≤ n.toNat ∧ n.toNat ≤ r.2 := by
  rw [mem_foldlM_insert _ h n]
  have hrange : (∃ x ∈ List.range' r.1 (r.2 - r.1 + 1), UInt32.ofNat x = n) ↔
      r.1 ≤ n.toNat ∧ n.toNat ≤ r.2 := by
    constructor
    · rintro ⟨x, hx, rfl⟩
      rw [List.mem_range'_1] at hx
      rw [UInt32.toNat_ofNat_of_lt' (by rw [maxUInt32] at hmax; rw [UInt32.size]; omega)]
      omega
    · intro hn
      exact ⟨n.toNat, List.mem_range'_1.mpr (by omega), UInt32.ofNat_toNat⟩
  rw [hrange]

/-- A CPU number is covered by a text that spells a number or a range. -/
def Covers (text : Bytes) (n : UInt32) : Prop :=
  ∃ r, parseCpuToken text = some r ∧ r.1 ≤ n.toNat ∧ n.toNat ≤ r.2

theorem mem_foldlM_insertCpuToken (tokens : List Bytes) {ids ids' : TreeSet UInt32 compare}
    (h : tokens.foldlM insertCpuToken ids = some ids') :
    (∀ t ∈ tokens, t ≠ [] → (parseCpuToken t).isSome) ∧
      ∀ n, n ∈ ids' ↔ n ∈ ids ∨ ∃ t ∈ tokens, Covers t n := by
  induction tokens generalizing ids with
  | nil =>
      obtain rfl := Option.some.inj h
      simp
  | cons t tokens ih =>
      rw [List.foldlM_cons] at h
      obtain ⟨ids₁, h₁, h₂⟩ := Option.bind_eq_some_iff.mp h
      obtain ⟨hall, hmem⟩ := ih h₂
      by_cases ht : t = []
      · subst ht
        obtain rfl := Option.some.inj h₁
        have hnone : ∀ n, ¬ Covers [] n := by
          rintro n ⟨r, hr, -⟩
          cases hr
        refine ⟨by simpa using hall, fun n => ?_⟩
        rw [hmem]
        simp [hnone]
      · rw [insertCpuToken, if_neg (by simpa using ht)] at h₁
        obtain ⟨r, hr, h₁⟩ := Option.bind_eq_some_iff.mp h₁
        obtain ⟨-, hle, hmax, -⟩ := parseCpuToken_eq_some.mp hr
        refine ⟨?_, fun n => ?_⟩
        · intro t' ht' hne
          rcases List.mem_cons.mp ht' with rfl | ht'
          · rw [hr]; rfl
          · exact hall t' ht' hne
        · have hcover : Covers t n ↔ r.1 ≤ n.toNat ∧ n.toNat ≤ r.2 := by
            constructor
            · rintro ⟨r', hr', hn⟩
              obtain rfl := Option.some.inj (hr.symm.trans hr')
              exact hn
            · exact fun hn => ⟨r, hr, hn⟩
          rw [hmem, mem_insertCpuRange hle hmax h₁]
          simp only [List.mem_cons, exists_eq_or_imp, hcover]
          tauto

/-- **What an accepted list says**: every token is a number or range, and the result has exactly the
numbers they cover, in order. -/
theorem mem_parseCpuIdList {value : Bytes} {ids : List LogicalCpuId}
    (h : parseCpuIdList value = some ids) :
    (∀ t ∈ cpuListTokens value, t ≠ [] → (parseCpuToken t).isSome) ∧
      (∀ n : UInt32, n ∈ ids ↔ ∃ t ∈ cpuListTokens value, Covers t n) ∧
      ids.Pairwise fun a b : UInt32 => compare a b = .lt := by
  rw [parseCpuIdList] at h
  obtain ⟨set, hset, rfl⟩ := Option.map_eq_some_iff.mp h
  obtain ⟨hall, hmem⟩ := mem_foldlM_insertCpuToken _ hset
  refine ⟨hall, fun n => ?_, TreeSet.ordered_toList⟩
  rw [TreeSet.mem_toList, hmem]
  simp

/-! ### Comma-separated parts -/

theorem cpuListTokens_eq (value : Bytes) :
    cpuListTokens value = (split value 44).flatMap (·.splitOnP isSpace) := by
  rw [cpuListTokens, split, splitOn_map_separator, splitOnP_or, split, List.splitOn_eq_splitOnP]

/-- A token that starts or ends with the dash is not accepted. -/
theorem parseCpuToken_dash_first (right : Bytes) : parseCpuToken (45 :: right) = none := by
  simp [parseCpuToken, Bytes.cut, parseUint_nil]

theorem parseCpuToken_dash_last {left : Bytes} (h : ∀ c ∈ left, c ≠ 45) :
    parseCpuToken (left ++ [45]) = none := by
  have htake : (left ++ [45]).takeWhile (fun c => decide (c ≠ 45)) = left := by
    rw [List.takeWhile_append_of_pos (by simpa using h)]
    simp
  have hdrop : (left ++ [45]).dropWhile (fun c => decide (c ≠ 45)) = [45] := by
    rw [List.dropWhile_append_of_pos (by simpa using h)]
    simp
  simp only [parseCpuToken, Bytes.cut, List.mem_append, List.mem_singleton, or_true, if_true, hdrop,
    List.tail_cons, parseUint_nil]
  cases parseUint (List.takeWhile (fun c => decide (c ≠ 45)) (left ++ [45])) <;> rfl

section accepted

variable {part : Bytes} (hall : ∀ t ∈ part.splitOnP isSpace, t ≠ [] → (parseCpuToken t).isSome)
include hall

/-- No token of an accepted list starts with a dash. -/
theorem not_dash_first {a rest : Bytes} (hpart : part = a ++ 45 :: rest) :
    ¬ EndsClosed isSpace a := by
  intro ha
  have hmem : 45 :: rest.takeWhile (fun c => !isSpace c) ∈ part.splitOnP isSpace := by
    have := mem_splitOnP_of_enclosed ha (startsClosed_dropWhile isSpace rest)
      (t := 45 :: rest.takeWhile fun c => !isSpace c) (by
        intro c hc
        rcases List.mem_cons.mp hc with rfl | hc
        · decide
        · simpa using List.mem_takeWhile_imp hc)
    rwa [List.append_assoc, List.cons_append, List.takeWhile_append_dropWhile, ← hpart] at this
  have := hall _ hmem (List.cons_ne_nil _ _)
  rw [parseCpuToken_dash_first] at this
  cases this

/-- No token of an accepted list ends with its first dash. -/
theorem not_dash_last {a left rest : Bytes} (hpart : part = a ++ left ++ 45 :: rest)
    (ha : EndsClosed isSpace a) (hleft : ∀ c ∈ left, isSpace c = false ∧ c ≠ 45) :
    ¬ StartsClosed isSpace rest := by
  intro hrest
  have hmem : left ++ [45] ∈ part.splitOnP isSpace := by
    have := mem_splitOnP_of_enclosed ha hrest (t := left ++ [45]) (by
      intro c hc
      rcases List.mem_append.mp hc with hc | hc
      · exact (hleft c hc).1
      · rw [List.mem_singleton.mp hc]
        decide)
    rwa [← List.append_assoc, List.append_assoc _ [45], List.singleton_append, ← hpart] at this
  have := hall _ hmem (by simp)
  rw [parseCpuToken_dash_last fun c hc => (hleft c hc).2] at this
  cases this

/-- In an accepted list a comma-separated part that spells a number or range has no blanks inside. -/
theorem forall_not_isSpace_of_readRange {r : ℕ × ℕ} (h : readRange (trim part) = some r) :
    ∀ c ∈ trim part, isSpace c = false := by
  rw [readRange] at h
  rcases hcut : Bytes.cut (trim part) 45 with _ | ⟨left, right⟩
  · rw [hcut] at h
    obtain ⟨v, hv, -⟩ := Option.map_eq_some_iff.mp h
    obtain ⟨-, hdigits⟩ := parseUint_digits hv
    rw [trim_trim] at hdigits
    exact fun c hc => (hdigits c hc).1
  · rw [hcut] at h
    obtain ⟨first, hfirst, h⟩ := Option.bind_eq_some_iff.mp h
    obtain ⟨last, hlast, -⟩ := Option.bind_eq_some_iff.mp h
    obtain ⟨hsplit, -⟩ := cut_eq_some hcut
    obtain ⟨-, hldigits⟩ := parseUint_digits hfirst
    obtain ⟨-, hrdigits⟩ := parseUint_digits hlast
    obtain ⟨pre, post, hpart, hpre, hpost⟩ := exists_trim part
    obtain ⟨lpre, lpost, hleft, hlpre, hlblank⟩ := exists_trim left
    obtain ⟨rpre, rpost, hright, hrpre, hrpost⟩ := exists_trim right
    have hwhole : part = pre ++ left ++ 45 :: (right ++ post) := by
      rw [hpart, hsplit]
      simp
    -- a blank behind the first number would make a token that starts with the dash
    have hlpost : lpost = [] := by
      rcases List.eq_nil_or_concat lpost with hnil | ⟨l, c, hl⟩
      · exact hnil
      · have hc : isSpace c = true := hlblank c (by simp [hl])
        refine absurd (.inr ⟨pre ++ lpre ++ trim left ++ l, c, hc, ?_⟩)
          (not_dash_first hall hwhole)
        conv_lhs => rw [hleft, hl]
        simp
    -- a blank in front of it would be a blank at the start of the trimmed part
    have hlpre' : lpre = [] := by
      cases lpre with
      | nil => rfl
      | cons c l =>
          have := trim_eq_cons (s := part) (c := c) (t := l ++ trim left ++ lpost ++ 45 :: right)
            (by rw [hsplit]; conv_lhs => rw [hleft]
                simp)
          rw [hlpre c List.mem_cons_self] at this
          cases this
    -- a blank in front of the second number would make a token that ends with the dash
    rw [hlpre', hlpost, List.nil_append, List.append_nil] at hleft
    have hrpre' : rpre = [] := by
      cases rpre with
      | nil => rfl
      | cons c l =>
          refine absurd (.inr ⟨c, l ++ trim right ++ rpost ++ post, hrpre c List.mem_cons_self, ?_⟩)
            (not_dash_last hall hwhole (endsClosed_of_forall hpre) (by rwa [hleft]))
          conv_lhs => rw [hright]
          simp
    -- a blank behind it would be a blank at the end of the trimmed part
    have hrpost' : rpost = [] := by
      rcases List.eq_nil_or_concat rpost with hnil | ⟨l, c, hl⟩
      · exact hnil
      · have := trim_eq_concat (s := part) (c := c) (t := left ++ 45 :: (rpre ++ trim right ++ l))
          (by rw [hsplit]; conv_lhs => rw [hright, hl]
              simp)
        rw [hrpost c (by simp [hl])] at this
        cases this
    rw [hrpre', hrpost', List.nil_append, List.append_nil] at hright
    rw [hsplit, hleft, hright]
    intro c hc
    rcases List.mem_append.mp hc with hc | hc
    · exact (hldigits c hc).1
    · rcases List.mem_cons.mp hc with rfl | hc
      · decide
      · exact (hrdigits c hc).1

theorem trim_mem_splitOnP {r : ℕ × ℕ} (h : readRange (trim part) = some r) :
    trim part ∈ part.splitOnP isSpace := by
  obtain ⟨pre, post, hpart, hpre, hpost⟩ := exists_trim part
  have hmem := mem_splitOnP_of_enclosed (endsClosed_of_forall hpre) (startsClosed_of_forall hpost)
    (forall_not_isSpace_of_readRange hall h)
  rwa [← hpart] at hmem

/-- In an accepted list a comma-separated part that spells a number or range is one token. -/
theorem parseCpuToken_trim {r : ℕ × ℕ} (h : readRange (trim part) = some r) :
    parseCpuToken (trim part) = some r := by
  have hne : trim part ≠ [] := by
    intro hnil
    rw [hnil] at h
    cases h
  obtain ⟨r', hr'⟩ := Option.isSome_iff_exists.mp (hall _ (trim_mem_splitOnP hall h) hne)
  rw [(parseCpuToken_eq_some.mp hr').1] at h
  rwa [← Option.some.inj h]

end accepted

end Sysal.CpuDetails
