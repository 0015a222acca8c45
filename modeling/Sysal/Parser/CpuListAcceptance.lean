import Mathlib.Data.Set.Card
import Sysal.Foundation.BoundedLoop
import Sysal.Foundation.CappedMap
import Sysal.Foundation.Cuts
import Sysal.Foundation.Decimal
import Sysal.Parser.CpuList
import Sysal.Parser.Numerals

/-!
# Which CPU lists are accepted

A CPU list is a text of numbers and ranges between blanks and commas.  `Acceptable` says in those
terms when `parse_cpu_id_list` accepts one, and `Listed` which numbers it then stands for.

* `parseCpuToken_isSome_iff`: a token is accepted when it spells a range within the bounds.
* `parseCpuIdList_eq`: the scan over the tokens is one capped insertion of all their numbers.
* `expand_eq_insertCpuRange`: the 64-bit loop over a range ends, and inserts the numbers of the range.
* `parseCpuIdList_accepts`: the result is there exactly for the acceptable lists, and is the ordered
  list of the numbers they stand for.
-/

namespace Sysal.CpuDetails

open Sysal Std

/-! ### The notation of a CPU list -/

/-- A text that is a decimal number, of any length. -/
def IsDecimal (s : Bytes) (n : ℕ) : Prop :=
  s ≠ [] ∧ s.all isDigit = true ∧ numeralValue 10 s = n

/-- A token spells a number, or two numbers joined by a dash. -/
def Spells (token : Bytes) (first last : ℕ) : Prop :=
  (IsDecimal token first ∧ last = first) ∨
    ∃ left right, token = left ++ 45 :: right ∧ IsDecimal left first ∧ IsDecimal right last

/-- A range that is not reversed, ends within 32 bits and spans less than 65536 numbers. -/
def InBounds (first last : ℕ) : Prop :=
  first ≤ last ∧ last ≤ 2 ^ 32 - 1 ∧ last - first < 65536

/-- The parts of a list between commas and blanks. -/
def listParts (value : Bytes) : List Bytes := value.splitOnP fun c => isSpace c || c == 44

/-- The numbers a list stands for: the union of its ranges. -/
def Listed (value : Bytes) : Set ℕ :=
  {n | ∃ token ∈ listParts value, ∃ first last, Spells token first last ∧ first ≤ n ∧ n ≤ last}

/-- A list whose parts are ranges within the bounds and stand for at most 65536 numbers together. -/
def Acceptable (value : Bytes) : Prop :=
  (∀ token ∈ listParts value, token ≠ [] →
    ∃ first last, Spells token first last ∧ InBounds first last) ∧
    (Listed value).encard ≤ 65536

theorem cpuListTokens_eq_listParts (value : Bytes) : cpuListTokens value = listParts value := by
  rw [cpuListTokens, split, splitOn_map_separator, listParts]

/-! ### Numbers and tokens -/

theorem digitValue_isSome_iff (c : UInt8) : (digitValue 10 c).isSome = isDigit c := by
  by_cases h : isDigit c = true
  · rw [(digitValue_isDigit h).1, h]
    rfl
  · rw [Bool.eq_iff_iff]
    exact iff_of_false (fun hc => h (isDigit_of_digitValue hc)) h

/-- A decimal number is a numeral of base 10. -/
theorem isDecimal_iff {s : Bytes} {n : ℕ} :
    IsDecimal s n ↔ IsNumeral 10 s ∧ numeralValue 10 s = n := by
  simp only [IsDecimal, IsNumeral, List.all_eq_true, digitValue_isSome_iff, and_assoc]

/-- Without blanks a number is read exactly when it is decimal and fits. -/
theorem parseUint_eq_some {s : Bytes} (hs : ∀ c ∈ s, isSpace c = false) {n : ℕ} :
    parseUint s = some n ↔ IsDecimal s n ∧ n < 2 ^ 64 := by
  rw [parseUint, parseNumeral_eq_some, trim_of_forall hs, isDecimal_iff, and_assoc]

theorem IsDecimal.no_dash {s : Bytes} {n : ℕ} (h : IsDecimal s n) : (45 : UInt8) ∉ s := fun hmem =>
  absurd (List.all_eq_true.mp h.2.1 45 hmem) (by decide)

theorem readRange_eq_some {token : Bytes} (hspace : ∀ c ∈ token, isSpace c = false)
    {first last : ℕ} :
    readRange token = some (first, last) ↔ Spells token first last ∧ first < 2 ^ 64 ∧
      last < 2 ^ 64 := by
  constructor
  · intro h
    rw [readRange] at h
    rcases hcut : Bytes.cut token 45 with _ | ⟨left, right⟩
    · rw [hcut] at h
      obtain ⟨n, hn, heq⟩ := Option.map_eq_some_iff.mp h
      obtain ⟨rfl, rfl⟩ := Prod.mk.inj heq
      obtain ⟨hdec, hlt⟩ := (parseUint_eq_some hspace).mp hn
      exact ⟨.inl ⟨hdec, rfl⟩, hlt, hlt⟩
    · rw [hcut] at h
      obtain ⟨a, ha, h⟩ := Option.bind_eq_some_iff.mp h
      obtain ⟨b, hb, h⟩ := Option.bind_eq_some_iff.mp h
      obtain ⟨rfl, rfl⟩ := Prod.mk.inj (Option.some.inj h)
      obtain ⟨rfl, -⟩ := cut_eq_some hcut
      obtain ⟨ha, halt⟩ := (parseUint_eq_some fun c hc => hspace c (by simp [hc])).mp ha
      obtain ⟨hb, hblt⟩ := (parseUint_eq_some fun c hc => hspace c (by simp [hc])).mp hb
      exact ⟨.inr ⟨left, right, rfl, ha, hb⟩, halt, hblt⟩
  · rintro ⟨⟨hdec, rfl⟩ | ⟨left, right, rfl, hleft, hright⟩, hfirst, hlast⟩
    · rw [readRange, Bytes.cut, if_neg hdec.no_dash]
      show (parseUint token).map _ = _
      rw [(parseUint_eq_some hspace).mpr ⟨hdec, hfirst⟩]
      rfl
    · rw [readRange, cut_append hleft.no_dash]
      show ((parseUint left).bind fun first => (parseUint right).bind fun last => some (first, last))
        = _
      rw [(parseUint_eq_some fun c hc => hspace c (by simp [hc])).mpr ⟨hleft, hfirst⟩,
        (parseUint_eq_some fun c hc => hspace c (by simp [hc])).mpr ⟨hright, hlast⟩]
      rfl

/-- **Which tokens are accepted**: those that spell a range within the bounds. -/
theorem parseCpuToken_eq_some_iff {token : Bytes} (hspace : ∀ c ∈ token, isSpace c = false)
    {first last : ℕ} :
    parseCpuToken token = some (first, last) ↔ Spells token first last ∧ InBounds first last := by
  rw [parseCpuToken_eq_some, readRange_eq_some hspace, InBounds, maxUInt32, maxCpuCount]
  constructor
  · rintro ⟨⟨hspell, -⟩, hbounds⟩
    exact ⟨hspell, hbounds⟩
  · rintro ⟨hspell, hbounds⟩
    dsimp only at hbounds ⊢
    exact ⟨⟨hspell, by omega⟩, hbounds⟩

/-- A token spells at most one range. -/
theorem Spells.unique {token : Bytes} {a b c d : ℕ} (h : Spells token a b) (h' : Spells token c d) :
    a = c ∧ b = d := by
  rcases h with ⟨⟨_, _, rfl⟩, rfl⟩ | ⟨l, r, rfl, hl, hr⟩
  · rcases h' with ⟨⟨_, _, rfl⟩, rfl⟩ | ⟨l', r', rfl, hl', hr'⟩
    · exact ⟨rfl, rfl⟩
    · rename_i hdec
      exact absurd (List.all_eq_true.mp hdec 45 (by simp)) (by decide)
  · rcases h' with ⟨hdec, -⟩ | ⟨l', r', heq, hl', hr'⟩
    · exact absurd (by simp : (45 : UInt8) ∈ l ++ 45 :: r) hdec.no_dash
    · have hcut := cut_append hl.no_dash r
      rw [heq, cut_append hl'.no_dash r', Option.some.injEq, Prod.mk.injEq] at hcut
      obtain ⟨rfl, rfl⟩ := hcut
      exact ⟨hl.2.2.symm.trans hl'.2.2, hr.2.2.symm.trans hr'.2.2⟩

theorem listParts_not_isSpace {value token : Bytes} (h : token ∈ listParts value) :
    ∀ c ∈ token, isSpace c = false := fun c hc =>
  (Bool.or_eq_false_iff.mp (not_separator_of_mem_splitOnP h c hc)).1

/-! ### The scan as one insertion -/

/-- The numbers of a token, in order. -/
def tokenNumbers (token : Bytes) : List UInt32 :=
  match parseCpuToken token with
  | some range => (List.range' range.1 (range.2 - range.1 + 1)).map UInt32.ofNat
  | none => []

theorem insertCpuRange_eq (ids : TreeSet UInt32 compare) (range : ℕ × ℕ) :
    insertCpuRange ids range =
      ((List.range' range.1 (range.2 - range.1 + 1)).map UInt32.ofNat).foldlM
        (insertWithin maxCpuCount) ids := by
  rw [List.foldlM_map]
  rfl

/-- One token inserts its numbers, if it spells any. -/
theorem insertCpuToken_eq {token : Bytes} (h : token ≠ [] → (parseCpuToken token).isSome)
    (ids : TreeSet UInt32 compare) :
    insertCpuToken ids token = (tokenNumbers token).foldlM (insertWithin maxCpuCount) ids := by
  rw [insertCpuToken]
  by_cases hnil : token = []
  · rw [if_pos (by simp [hnil]), hnil]
    rfl
  · obtain ⟨range, hrange⟩ := Option.isSome_iff_exists.mp (h hnil)
    rw [if_neg (by simpa using hnil), tokenNumbers, hrange]
    exact insertCpuRange_eq ids range

/-- **The scan over the tokens** is one capped insertion of all their numbers, in any start set that
is within the cap. -/
theorem foldlM_insertCpuToken_eq {tokens : List Bytes}
    (h : ∀ t ∈ tokens, t ≠ [] → (parseCpuToken t).isSome) (ids : TreeSet UInt32 compare) :
    tokens.foldlM insertCpuToken ids =
      (tokens.flatMap tokenNumbers).foldlM (insertWithin maxCpuCount) ids := by
  induction tokens generalizing ids with
  | nil => rfl
  | cons t tokens ih =>
      rw [List.foldlM_cons, List.flatMap_cons, List.foldlM_append,
        insertCpuToken_eq (h t List.mem_cons_self)]
      congr 1
      funext ids'
      exact ih (fun t ht => h t (List.mem_cons_of_mem _ ht)) ids'

/-- The set of all numbers of a list. -/
def listNumbers (value : Bytes) : TreeSet UInt32 compare :=
  ((cpuListTokens value).flatMap tokenNumbers).foldl TreeSet.insert ∅

/-- What the parser computes, once every token spells a range. -/
theorem parseCpuIdList_eq {value : Bytes}
    (h : ∀ t ∈ cpuListTokens value, t ≠ [] → (parseCpuToken t).isSome) :
    parseCpuIdList value =
      if maxCpuCount < (listNumbers value).size then none else some (listNumbers value).toList := by
  rw [parseCpuIdList, foldlM_insertCpuToken_eq h,
    foldlM_insertWithin _ (by rw [TreeSet.size_emptyc]; exact Nat.zero_le _)]
  show Option.map _ (if maxCpuCount < (listNumbers value).size then none else some _) = _
  split <;> rfl

/-! ### The numbers of the union -/

/-- A token in bounds has the numbers between the ends of its range. -/
theorem mem_tokenNumbers {token : Bytes} (hspace : ∀ c ∈ token, isSpace c = false)
    (h : token ≠ [] → (parseCpuToken token).isSome) (n : ℕ) :
    (∃ id ∈ tokenNumbers token, id.toNat = n) ↔
      ∃ first last, Spells token first last ∧ first ≤ n ∧ n ≤ last := by
  by_cases hnil : token = []
  · subst hnil
    constructor
    · rintro ⟨id, hid, -⟩
      exact absurd hid List.not_mem_nil
    · rintro ⟨first, last, hspell, -⟩
      rcases hspell with ⟨hdec, -⟩ | ⟨left, right, heq, -⟩
      · exact absurd rfl hdec.1
      · simp at heq
  · obtain ⟨⟨first, last⟩, hrange⟩ := Option.isSome_iff_exists.mp (h hnil)
    obtain ⟨hspell, hbounds⟩ := (parseCpuToken_eq_some_iff hspace).mp hrange
    obtain ⟨hle, hmax, -⟩ := hbounds
    rw [tokenNumbers, hrange]
    constructor
    · rintro ⟨id, hid, rfl⟩
      obtain ⟨x, hx, rfl⟩ := List.mem_map.mp hid
      rw [List.mem_range'_1] at hx
      dsimp only at hx
      have hsize : x < UInt32.size := by
        rw [UInt32.size]
        omega
      rw [UInt32.toNat_ofNat_of_lt' hsize]
      exact ⟨first, last, hspell, by omega⟩
    · rintro ⟨first', last', hspell', hn⟩
      obtain ⟨rfl, rfl⟩ := hspell.unique hspell'
      have hsize : n < UInt32.size := by
        rw [UInt32.size]
        omega
      refine ⟨UInt32.ofNat n, List.mem_map.mpr ⟨n, List.mem_range'_1.mpr ?_, rfl⟩,
        UInt32.toNat_ofNat_of_lt' hsize⟩
      dsimp only
      omega

theorem mem_listNumbers {value : Bytes}
    (h : ∀ t ∈ cpuListTokens value, t ≠ [] → (parseCpuToken t).isSome) (n : ℕ) :
    (∃ id ∈ (listNumbers value).toList, id.toNat = n) ↔ n ∈ Listed value := by
  have hmem : ∀ id, id ∈ (listNumbers value).toList ↔
      ∃ t ∈ cpuListTokens value, id ∈ tokenNumbers t := by
    intro id
    rw [TreeSet.mem_toList, listNumbers, mem_foldl_insert, List.mem_flatMap]
    simp
  rw [cpuListTokens_eq_listParts] at h hmem
  constructor
  · rintro ⟨id, hid, hn⟩
    obtain ⟨t, ht, hid⟩ := (hmem id).mp hid
    exact ⟨t, ht, (mem_tokenNumbers (listParts_not_isSpace ht) (h t ht) n).mp ⟨id, hid, hn⟩⟩
  · rintro ⟨t, ht, hn⟩
    obtain ⟨id, hid, hn⟩ := (mem_tokenNumbers (listParts_not_isSpace ht) (h t ht) n).mpr hn
    exact ⟨id, (hmem id).mpr ⟨t, ht, hid⟩, hn⟩

/-- The set has as many numbers as the union. -/
theorem encard_listed {value : Bytes}
    (h : ∀ t ∈ cpuListTokens value, t ≠ [] → (parseCpuToken t).isSome) :
    (Listed value).encard = (listNumbers value).size := by
  have hset : Listed value = ((listNumbers value).toList.map UInt32.toNat).toFinset := by
    ext n
    rw [← mem_listNumbers h, Finset.mem_coe, List.mem_toFinset, List.mem_map]
  have hnodup : ((listNumbers value).toList.map UInt32.toNat).Nodup := by
    refine List.Nodup.map (fun _ _ => UInt32.toNat_inj.mp) ?_
    exact TreeSet.ordered_toList.imp fun hlt heq => by
      rw [heq, ReflOrd.compare_self] at hlt
      cases hlt
  rw [hset, Set.encard_coe_eq_coe_finsetCard, List.toFinset_card_of_nodup hnodup, List.length_map,
    TreeSet.length_toList]

/-- **The tokens and the cap**: a list is acceptable when every token is accepted and the set of the
numbers stays within the cap. -/
theorem acceptable_iff (value : Bytes) :
    Acceptable value ↔ (∀ t ∈ cpuListTokens value, t ≠ [] → (parseCpuToken t).isSome) ∧
      (listNumbers value).size ≤ maxCpuCount := by
  have htokens : (∀ t ∈ listParts value, t ≠ [] → ∃ first last, Spells t first last ∧
      InBounds first last) ↔ ∀ t ∈ cpuListTokens value, t ≠ [] → (parseCpuToken t).isSome := by
    rw [cpuListTokens_eq_listParts]
    refine forall₂_congr fun t ht => imp_congr_right fun _ => ?_
    simp only [Option.isSome_iff_exists, Prod.exists,
      parseCpuToken_eq_some_iff (listParts_not_isSpace ht)]
  rw [Acceptable, htokens]
  refine and_congr_right fun h => ?_
  rw [encard_listed h, maxCpuCount]
  exact Nat.cast_le

/-! ### The expansion loop -/

/-- The expansion loop between two passes: the next identifier, and the set so far, which is gone once
the loop was left because of its size. -/
structure Expansion where
  id : UInt64
  ids : Option (TreeSet UInt32 compare)

/-- The loop goes on while the identifier has not passed the end of the range. -/
def Expansion.running (last : UInt64) (s : Expansion) : Bool := s.ids.isSome && decide (s.id ≤ last)

/-- One pass: insert the identifier, leave when the set is too large, go to the next one. -/
def Expansion.pass (s : Expansion) : Expansion :=
  match s.ids with
  | some ids => ⟨s.id + 1, insertWithin maxCpuCount ids s.id.toUInt32⟩
  | none => s

/-- The loop over a range, within a number of passes. -/
def expand (passes : ℕ) (ids : TreeSet UInt32 compare) (range : ℕ × ℕ) : Expansion :=
  loopFor (Expansion.running (UInt64.ofNat range.2)) Expansion.pass passes
    ⟨UInt64.ofNat range.1, some ids⟩

/-- With `n` identifiers to go, `n` passes end the loop and insert them. -/
theorem loopFor_expansion {last : UInt64} (hlast : last.toNat < 2 ^ 64 - 1) (n : ℕ) (id : UInt64)
    (hid : id.toNat + n = last.toNat + 1) (ids : TreeSet UInt32 compare) :
    (loopFor (Expansion.running last) Expansion.pass n ⟨id, some ids⟩).running last = false ∧
      (loopFor (Expansion.running last) Expansion.pass n ⟨id, some ids⟩).ids =
        ((List.range' id.toNat n).map UInt32.ofNat).foldlM (insertWithin maxCpuCount) ids := by
  induction n generalizing id ids with
  | zero =>
      have hover : ¬ id ≤ last := by
        rw [UInt64.le_iff_toNat_le]
        omega
      exact ⟨by simp [loopFor, Expansion.running, hover], rfl⟩
  | succ n ih =>
      have hle : id ≤ last := by
        rw [UInt64.le_iff_toNat_le]
        omega
      have hrun : Expansion.running last ⟨id, some ids⟩ = true := by
        simp [Expansion.running, hle]
      have hnext : (id + 1).toNat = id.toNat + 1 := by
        rw [UInt64.toNat_add, UInt64.toNat_one]
        exact Nat.mod_eq_of_lt (by omega)
      rw [loopFor, if_pos hrun, List.range'_succ, List.map_cons, List.foldlM_cons]
      have hpass : Expansion.pass ⟨id, some ids⟩ =
          ⟨id + 1, insertWithin maxCpuCount ids (UInt32.ofNat id.toNat)⟩ := rfl
      rw [hpass]
      cases insertWithin maxCpuCount ids (UInt32.ofNat id.toNat) with
      | none =>
          rw [loopFor_of_false (show Expansion.running last ⟨id + 1, none⟩ = false from rfl)]
          exact ⟨rfl, rfl⟩
      | some ids' =>
          have hrest := ih (id + 1) (by omega) ids'
          rw [hnext] at hrest
          exact hrest

/-- **The expansion loop ends** within 65536 passes on every range that is let through, and inserts
the numbers of the range. -/
theorem expand_eq_insertCpuRange {range : ℕ × ℕ} (hle : range.1 ≤ range.2)
    (hmax : range.2 ≤ maxUInt32) (hspan : range.2 - range.1 < maxCpuCount)
    (ids : TreeSet UInt32 compare) :
    (expand maxCpuCount ids range).running (UInt64.ofNat range.2) = false ∧
      (expand maxCpuCount ids range).ids = insertCpuRange ids range := by
  have hmax' : range.2 ≤ 2 ^ 32 - 1 := hmax
  have hlt₁ : range.1 < UInt64.size := by
    rw [UInt64.size]
    omega
  have hlt₂ : range.2 < UInt64.size := by
    rw [UInt64.size]
    omega
  have hfirst := UInt64.toNat_ofNat_of_lt' hlt₁
  have hlast := UInt64.toNat_ofNat_of_lt' hlt₂
  have hlimit : (UInt64.ofNat range.2).toNat < 2 ^ 64 - 1 := by omega
  have hloop := loopFor_expansion hlimit (range.2 - range.1 + 1) (UInt64.ofNat range.1) (by omega) ids
  have hmore := loopFor_stable hloop.1 (maxCpuCount - (range.2 - range.1 + 1))
  rw [Nat.add_sub_cancel' hspan] at hmore
  rw [expand, hmore, insertCpuRange_eq, hloop.2, hfirst]
  exact ⟨hloop.1, rfl⟩

/-! ### The parser -/

/-- **The CPU list parser**: the list is accepted exactly when it is acceptable, the result is then
the strictly increasing list of the numbers it stands for, and the loop over every range that is let
through ends with the set the scan goes on with. -/
theorem parseCpuIdList_accepts (value : Bytes) :
    ((parseCpuIdList value).isSome = true ↔ Acceptable value) ∧
      (∀ ids, parseCpuIdList value = some ids →
        ids.Pairwise (· < ·) ∧ ∀ n : ℕ, (∃ id ∈ ids, id.toNat = n) ↔ n ∈ Listed value) ∧
      ∀ token ∈ cpuListTokens value, ∀ range, parseCpuToken token = some range →
        ∀ ids, (expand maxCpuCount ids range).running (UInt64.ofNat range.2) = false ∧
          (expand maxCpuCount ids range).ids = insertCpuRange ids range := by
  refine ⟨?_, fun ids hids => ?_, fun token _ range hrange ids => ?_⟩
  · rw [acceptable_iff]
    constructor
    · intro hsome
      obtain ⟨ids, hids⟩ := Option.isSome_iff_exists.mp hsome
      have hall := (mem_parseCpuIdList hids).1
      refine ⟨hall, ?_⟩
      by_contra hlarge
      rw [parseCpuIdList_eq hall, if_pos (Nat.not_le.mp hlarge)] at hids
      cases hids
    · rintro ⟨hall, hsize⟩
      rw [parseCpuIdList_eq hall, if_neg (Nat.not_lt.mpr hsize)]
      rfl
  · have hall := (mem_parseCpuIdList hids).1
    refine ⟨(mem_parseCpuIdList hids).2.2.imp fun {a b} hlt => ?_, ?_⟩
    · exact Std.compare_eq_lt.mp hlt
    · rw [parseCpuIdList_eq hall] at hids
      split at hids
      · cases hids
      · rw [← Option.some.inj hids]
        exact mem_listNumbers hall
  · obtain ⟨-, hle, hmax, hspan⟩ := parseCpuToken_eq_some.mp hrange
    exact expand_eq_insertCpuRange hle hmax hspan ids

end Sysal.CpuDetails
