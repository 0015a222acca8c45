import Sysal.Resolver.HardwareHealth
import Sysal.Serialization.StorageHealth

/-!
# Counters of 128 bits

A counter is compared with the largest number of 128 bits by the length of its text and then byte by
byte.  The theorems say in terms of numbers what that comes to.

* `stripZeros_eq`: a text of digits without its leading zeros is the numeral of its value;
* `counterOfText_eq_some_iff`: the texts that are accepted, and the counters they are read as;
* `storageCounter_spec`: the same for a JSON value, with what follows for the texts of counters.
-/

namespace Sysal

open Json HealthFindings

/-! ### Texts -/

theorem numeralValue_dropZeros (s : Bytes) :
    numeralValue 10 (s.dropWhile (· = 48)) = numeralValue 10 s := by
  induction s with
  | nil => rfl
  | cons c s ih =>
      by_cases hc : c = 48
      · rw [List.dropWhile_cons_of_pos (by simpa using hc), ih, numeralValue_cons, hc,
          show (digitValue 10 48).getD 0 = 0 from rfl, Nat.zero_mul, Nat.zero_add]
      · rw [List.dropWhile_cons_of_neg (by simpa using hc)]

/-- Without its leading zeros a text of digits is the numeral of its value. -/
theorem stripZeros_eq {s : Bytes} (h : s.all isDigit = true) :
    stripZeros s = decimal (numeralValue 10 s) := by
  have hvalue := numeralValue_dropZeros s
  have hdigits : (s.dropWhile (· = 48)).all isDigit = true :=
    List.all_eq_true.mpr fun c hc => List.all_eq_true.mp h c (List.dropWhile_subset _ hc)
  rw [stripZeros]
  split
  · rename_i hnil
    rw [← hvalue, hnil]
    decide
  · rename_i hne
    rw [← hvalue, decimal_numeralValue hdigits hne]
    intro hhead
    have := List.head?_dropWhile_not (· = (48 : UInt8)) s
    rw [hhead] at this
    simp at this

/-- A numeral is longer than the largest counter, or as long and greater, exactly when its number is
greater. -/
theorem exceeds_iff (n : ℕ) :
    (maximumCounter.length < (decimal n).length ∨
      (decimal n).length = maximumCounter.length ∧ maximumCounter < decimal n) ↔ 2 ^ 128 ≤ n := by
  constructor
  · intro h
    by_contra hlt
    have haccepted := counterOfText_decimal (Nat.lt_of_not_le hlt)
    rw [counterOfText, stripZeros_decimal, if_pos h] at haccepted
    split at haccepted <;> cases haccepted
  · intro h
    by_contra hnot
    rw [not_or, Nat.not_lt, not_and] at hnot
    obtain ⟨hlength, hgreater⟩ := hnot
    have hmax : maximumCounter.length = 39 := by decide
    rcases Nat.lt_or_eq_of_le hlength with hshort | heq
    · have := (decimal_length_le (n := n) (k := 38) (by decide)).mp (by omega)
      omega
    · -- of one length and not greater: the number is not greater either
      rcases List.le_iff_lt_or_eq.mp (List.not_lt.mp (hgreater heq)) with hlt | hsame
      · have := numeralValue_lt_of_lt (decimal_all_isDigit n) (decimal_all_isDigit _) heq hlt
        rw [numeralValue_decimal, numeralValue_decimal] at this
        omega
      · have := congrArg (numeralValue 10) hsame
        rw [maximumCounter, numeralValue_decimal, numeralValue_decimal] at this
        omega

/-- The texts that are accepted: digits whose number fits 128 bits. -/
theorem counterOfText_eq_some_iff {s : Bytes} {c : StorageCounter} :
    counterOfText s = some c ↔
      (s ≠ [] ∧ s.all isDigit = true) ∧ numeralValue 10 s < 2 ^ 128 ∧
        c.decimal = decimal (numeralValue 10 s) := by
  rw [counterOfText]
  by_cases hdigits : s ≠ [] ∧ s.all isDigit = true
  · rw [if_neg (by simp [hdigits]), stripZeros_eq hdigits.2]
    simp only [exceeds_iff]
    by_cases hlt : numeralValue 10 s < 2 ^ 128
    · rw [if_neg (by omega), Option.some_inj]
      obtain ⟨text⟩ := c
      simp only [StorageCounter.mk.injEq, hdigits, hlt, not_false_eq_true, ne_eq, and_self, true_and]
      exact eq_comm
    · rw [if_pos (by omega)]
      exact iff_of_false (by simp) fun h => hlt h.2.1
  · rw [if_pos (by by_cases hs : s = [] <;> simp_all)]
    exact iff_of_false (by simp) fun h => hdigits h.1

/-! ### Values -/

/-- The number a value states for a counter: a text of digits its number, an integer itself. -/
def CounterNumber (v : Json) (n : ℕ) : Prop :=
  (∃ s, v.asStr = some s ∧ (s ≠ [] ∧ s.all isDigit = true) ∧ numeralValue 10 s = n) ∨
    (v.asInt = some (n : ℤ) ∧ n < 2 ^ 64)

theorem CounterNumber.of_decimal (n : ℕ) : CounterNumber (.str (decimal n)) n :=
  Or.inl ⟨decimal n, rfl, ⟨decimal_ne_nil n, decimal_all_isDigit n⟩, numeralValue_decimal n⟩

/-- A value is no text and an integer at once. -/
theorem asInt_eq_none {v : Json} {s : Bytes} (h : v.asStr = some s) : v.asInt = none := by
  rw [asStr] at h
  rw [asInt]
  split at h
  · simp_all
  · cases h

/-- The values that are read as a counter. -/
theorem storageCounter_eq_some_iff {v : Json} {c : StorageCounter} :
    storageCounter v = some c ↔ ∃ n, CounterNumber v n ∧ n < 2 ^ 128 ∧ c.decimal = decimal n := by
  rw [storageCounter]
  cases hstr : v.asStr with
  | some s =>
      have hint := asInt_eq_none hstr
      simp only [counterOfText_eq_some_iff, CounterNumber, hstr, hint, Option.some_inj, exists_eq_left',
        reduceCtorEq, false_and, or_false]
      constructor
      · rintro ⟨hdigits, hlt, hc⟩
        exact ⟨_, ⟨hdigits, rfl⟩, hlt, hc⟩
      · rintro ⟨n, ⟨hdigits, rfl⟩, hlt, hc⟩
        exact ⟨hdigits, hlt, hc⟩
  | none =>
      simp only [Option.bind_eq_some_iff, healthInteger_eq_some, counterOfText_eq_some_iff,
        CounterNumber, hstr, reduceCtorEq, false_and, exists_const, false_or, numeralValue_decimal]
      constructor
      · rintro ⟨n, ⟨hint, hle⟩, -, hlt, hc⟩
        exact ⟨n, ⟨hint, by omega⟩, hlt, hc⟩
      · rintro ⟨n, ⟨hint, hle⟩, hlt, hc⟩
        exact ⟨n, ⟨hint, by omega⟩, ⟨decimal_ne_nil n, decimal_all_isDigit n⟩, hlt, hc⟩

theorem CounterNumber.unique {v : Json} {m n : ℕ} (hm : CounterNumber v m) (hn : CounterNumber v n) :
    m = n := by
  rcases hm with ⟨s, hs, -, rfl⟩ | ⟨hm, -⟩
  · rcases hn with ⟨t, ht, -, rfl⟩ | ⟨hn, -⟩
    · rw [hs, Option.some_inj] at ht
      rw [ht]
    · rw [asInt_eq_none hs] at hn
      cases hn
  · rcases hn with ⟨t, ht, -, rfl⟩ | ⟨hn, -⟩
    · rw [asInt_eq_none ht] at hm
      cases hm
    · rw [hm, Option.some_inj] at hn
      omega

/-- A counter is positive when its text is not that of zero. -/
theorem positive_decimal (n : ℕ) : positive (some ⟨decimal n⟩) = true ↔ n ≠ 0 := by
  have hzero : utf8 "0" = decimal 0 := by decide +kernel
  simp only [positive, Option.any_some, hzero, decide_eq_true_eq, ne_eq]
  rw [not_iff_not]
  constructor
  · intro h
    rw [← numeralValue_decimal n, h, numeralValue_decimal]
  · rintro rfl
    rfl

/-- **The counters of JSON values**: a value is read exactly when it states a number of at most 128
bits, as the numeral of that number; the text of a counter is read as the same counter, equal numbers
give equal counters, and a counter is positive when its number is not zero. -/
theorem storageCounter_spec (v : Json) :
    (∀ c, storageCounter v = some c ↔
      ∃ n, CounterNumber v n ∧ n ≤ 2 ^ 128 - 1 ∧ c.decimal = decimal n) ∧
    (∀ c, storageCounter v = some c → storageCounter (.str c.decimal) = some c) ∧
    (∀ w n, CounterNumber v n → CounterNumber w n → storageCounter v = storageCounter w) ∧
    ∀ c n, storageCounter v = some c → CounterNumber v n → (positive (some c) = true ↔ n ≠ 0) := by
  refine ⟨fun c => ?_, fun c hc => ?_, fun w n hv hw => ?_, fun c n hc hn => ?_⟩
  · rw [storageCounter_eq_some_iff]
    exact exists_congr fun n => and_congr_right fun _ => and_congr_left fun _ => by omega
  · obtain ⟨n, -, hlt, heq⟩ := storageCounter_eq_some_iff.mp hc
    refine storageCounter_eq_some_iff.mpr ⟨n, ?_, hlt, heq⟩
    rw [heq]
    exact CounterNumber.of_decimal n
  · have hiff : ∀ c, storageCounter v = some c ↔ storageCounter w = some c := by
      intro c
      rw [storageCounter_eq_some_iff, storageCounter_eq_some_iff]
      constructor
      · rintro ⟨m, hm, hc⟩
        exact ⟨n, hw, hm.unique hv ▸ hc⟩
      · rintro ⟨m, hm, hc⟩
        exact ⟨n, hv, hm.unique hw ▸ hc⟩
    exact Option.ext hiff
  · obtain ⟨m, hm, -, heq⟩ := storageCounter_eq_some_iff.mp hc
    obtain ⟨text⟩ := c
    subst heq
    rw [positive_decimal, hm.unique hn]

end Sysal
