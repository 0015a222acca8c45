import Mathlib.Data.List.Lex
import Mathlib.Tactic.IntervalCases
import Mathlib.Tactic.Ring
import Sysal.Foundation.ByteString

/-!
# Decimal texts

`decimal n` is the numeral of `n` without leading zeros, and texts of digits of one length are ordered
as the numbers they stand for.

* `numeralValue_decimal`: a number is the value of its numeral.
* `decimal_dropZeros`: a numeral has no leading zero to drop.
* `numeralValue_lt_of_lt`: of two digit texts of one length the smaller has the smaller value.
* `decimal_numeralValue`: a text of digits without a leading zero is the numeral of its value.
-/

namespace Sysal

/-! ### The shape of a numeral -/

/-- The byte of a decimal digit. -/
def digitByte (d : ℕ) : UInt8 := (48 + d).toUInt8

theorem digitChar_byte {d : ℕ} (h : d < 10) : (Nat.digitChar d).toNat.toUInt8 = digitByte d := by
  interval_cases d <;> rfl

theorem isDigit_digitByte {d : ℕ} (h : d < 10) : isDigit (digitByte d) = true := by
  interval_cases d <;> rfl

theorem digitValue_digitByte {d : ℕ} (h : d < 10) : digitValue 10 (digitByte d) = some d := by
  interval_cases d <;> rfl

/-- The last digit is the remainder, what comes before it the numeral of the quotient. -/
theorem decimal_eq (n : ℕ) :
    decimal n = if n < 10 then [digitByte n] else decimal (n / 10) ++ [digitByte (n % 10)] := by
  rw [decimal, Nat.toDigits_eq_if (by decide)]
  split
  · rename_i h
    rw [List.map_singleton, digitChar_byte h]
  · rw [List.map_append, List.map_singleton, digitChar_byte (Nat.mod_lt n (by decide))]
    rfl

/-- Induction along the digits of a number. -/
theorem decimal_induction {P : ℕ → Prop} (small : ∀ n, n < 10 → P n)
    (step : ∀ n, 10 ≤ n → P (n / 10) → P n) (n : ℕ) : P n := by
  induction n using Nat.strong_induction_on with
  | _ n ih =>
      by_cases h : n < 10
      · exact small n h
      · exact step n (by omega) (ih (n / 10) (by omega))

theorem decimal_all_isDigit (n : ℕ) : (decimal n).all isDigit = true := by
  induction n using decimal_induction with
  | small n h =>
      rw [decimal_eq, if_pos h, List.all_cons, isDigit_digitByte h]
      rfl
  | step n h ih =>
      rw [decimal_eq, if_neg (by omega), List.all_append, ih, List.all_cons,
        isDigit_digitByte (Nat.mod_lt n (by decide))]
      rfl

theorem decimal_ne_nil (n : ℕ) : decimal n ≠ [] := by
  rw [decimal_eq]
  split
  · exact List.cons_ne_nil _ _
  · exact List.append_ne_nil_of_right_ne_nil _ (List.cons_ne_nil _ _)

/-- The first digit of a positive number is no zero. -/
theorem head_decimal {n : ℕ} (h : 0 < n) : (decimal n).head (decimal_ne_nil n) ≠ 48 := by
  induction n using decimal_induction with
  | small n hn =>
      simp only [decimal_eq n, if_pos hn, List.head_cons]
      interval_cases n <;> decide
  | step n hn ih =>
      simp only [decimal_eq n, if_neg (show ¬ n < 10 by omega)]
      rw [List.head_append_of_ne_nil (decimal_ne_nil _)]
      exact ih (by omega)

/-- Dropping leading zeros leaves the numeral of a positive number alone. -/
theorem decimal_dropZeros {n : ℕ} (h : 0 < n) : (decimal n).dropWhile (· = 48) = decimal n := by
  have hhead := head_decimal h
  rcases hs : decimal n with _ | ⟨c, s⟩
  · exact absurd hs (decimal_ne_nil n)
  · simp only [hs, List.head_cons] at hhead
    simp [hhead]

theorem decimal_length_le {n k : ℕ} (hk : 0 < k) : (decimal n).length ≤ k ↔ n < 10 ^ k := by
  rw [decimal, List.length_map, Nat.length_toDigits_le_iff (by decide) hk]

/-! ### Values -/

theorem numeralValue_append_singleton (base : ℕ) (s : Bytes) (c : UInt8) :
    numeralValue base (s ++ [c]) = numeralValue base s * base + (digitValue base c).getD 0 := by
  rw [numeralValue, List.foldl_append]
  rfl

/-- A number is the value of its numeral. -/
theorem numeralValue_decimal (n : ℕ) : numeralValue 10 (decimal n) = n := by
  induction n using decimal_induction with
  | small n h =>
      rw [decimal_eq, if_pos h]
      show 0 * 10 + (digitValue 10 (digitByte n)).getD 0 = n
      rw [digitValue_digitByte h, Option.getD_some, Nat.zero_mul, Nat.zero_add]
  | step n h ih =>
      rw [decimal_eq, if_neg (by omega), numeralValue_append_singleton, ih,
        digitValue_digitByte (Nat.mod_lt n (by decide)), Option.getD_some]
      omega

/-- The digits of a text of digits. -/
theorem digitValue_isDigit {c : UInt8} (h : isDigit c = true) :
    digitValue 10 c = some (c.toNat - 48) ∧ c.toNat - 48 < 10 := by
  have hc : 48 ≤ c.toNat ∧ c.toNat ≤ 57 := by
    simp only [isDigit, Bool.and_eq_true, decide_eq_true_eq] at h
    exact ⟨UInt8.le_iff_toNat_le.mp h.1, UInt8.le_iff_toNat_le.mp h.2⟩
  have hlt : c.toNat - 48 < 10 := by omega
  refine ⟨?_, hlt⟩
  simp only [digitValue, h, if_true, Option.filter_some, hlt, decide_true]

theorem numeralValue_cons (c : UInt8) (s : Bytes) :
    numeralValue 10 (c :: s) = (digitValue 10 c).getD 0 * 10 ^ s.length + numeralValue 10 s := by
  have hfold : ∀ (l : Bytes) (acc : ℕ),
      l.foldl (fun acc c => acc * 10 + (digitValue 10 c).getD 0) acc =
        acc * 10 ^ l.length + numeralValue 10 l := by
    intro l
    induction l with
    | nil =>
        intro acc
        show acc = acc * 10 ^ 0 + 0
        omega
    | cons d l ih =>
        intro acc
        rw [numeralValue, List.foldl_cons, List.foldl_cons, ih, ih, List.length_cons]
        ring
  rw [numeralValue, List.foldl_cons, hfold, Nat.zero_mul, Nat.zero_add]

theorem numeralValue_lt_pow {s : Bytes} (h : s.all isDigit = true) :
    numeralValue 10 s < 10 ^ s.length := by
  induction s with
  | nil => decide
  | cons c s ih =>
      rw [List.all_cons, Bool.and_eq_true] at h
      obtain ⟨hc, hlt⟩ := digitValue_isDigit h.1
      have hs := ih h.2
      rw [numeralValue_cons, hc, Option.getD_some, List.length_cons, pow_succ]
      have : (c.toNat - 48) * 10 ^ s.length ≤ 9 * 10 ^ s.length :=
        Nat.mul_le_mul_right _ (by omega)
      omega

/-- Texts of digits of one length are ordered as their values are. -/
theorem numeralValue_lt_of_lt {s t : Bytes} (hs : s.all isDigit = true) (ht : t.all isDigit = true)
    (hlen : s.length = t.length) (h : s < t) : numeralValue 10 s < numeralValue 10 t := by
  induction s generalizing t with
  | nil =>
      cases t with
      | nil => exact absurd h (List.lt_irrefl _)
      | cons _ _ => cases hlen
  | cons c s ih =>
      cases t with
      | nil => cases hlen
      | cons d t =>
          rw [List.all_cons, Bool.and_eq_true] at hs ht
          rw [List.length_cons, List.length_cons, Nat.add_right_cancel_iff] at hlen
          obtain ⟨hc, -⟩ := digitValue_isDigit hs.1
          obtain ⟨hd, -⟩ := digitValue_isDigit ht.1
          rw [numeralValue_cons, numeralValue_cons, hc, hd, Option.getD_some, Option.getD_some, hlen]
          rcases List.cons_lt_cons_iff.mp h with hlt | ⟨heq, hlt⟩
          · have hcd : c.toNat < d.toNat := UInt8.lt_iff_toNat_lt.mp hlt
            have hc48 : 48 ≤ c.toNat := by
              have hdig := hs.1
              simp only [isDigit, Bool.and_eq_true, decide_eq_true_eq] at hdig
              exact UInt8.le_iff_toNat_le.mp hdig.1
            have hrest := numeralValue_lt_pow hs.2
            rw [hlen] at hrest
            have hstep : (c.toNat - 48 + 1) * 10 ^ t.length ≤ (d.toNat - 48) * 10 ^ t.length :=
              Nat.mul_le_mul_right _ (by omega)
            rw [Nat.add_mul, Nat.one_mul] at hstep
            omega
          · rw [heq]
            have := ih hs.2 ht.2 hlen hlt
            omega

/-! ### Numerals of values -/

theorem digitByte_of_isDigit {c : UInt8} (h : isDigit c = true) : digitByte (c.toNat - 48) = c := by
  simp only [isDigit, Bool.and_eq_true, decide_eq_true_eq] at h
  have hle : 48 ≤ c.toNat := UInt8.le_iff_toNat_le.mp h.1
  have hlt := c.toNat_lt
  rw [digitByte, show 48 + (c.toNat - 48) = c.toNat from by omega, Nat.toUInt8_eq]
  exact UInt8.ofNat_toNat

/-- A text of digits that has no leading zero, or is one, is the numeral of its value. -/
theorem decimal_numeralValue {s : Bytes} (hdigits : s.all isDigit = true) (hne : s ≠ [])
    (hhead : s.head? = some 48 → s = [48]) : decimal (numeralValue 10 s) = s := by
  induction s using List.reverseRecOn with
  | nil => exact absurd rfl hne
  | append_singleton t c ih =>
      rw [List.all_append, Bool.and_eq_true, List.all_cons, Bool.and_eq_true] at hdigits
      obtain ⟨ht, hc, -⟩ := hdigits
      obtain ⟨hvalue, hlt⟩ := digitValue_isDigit hc
      rw [numeralValue_append_singleton, hvalue, Option.getD_some]
      rcases eq_or_ne t [] with rfl | htne
      · rw [show numeralValue 10 [] * 10 + (c.toNat - 48) = c.toNat - 48 from Nat.zero_add _,
          decimal_eq, if_pos hlt, digitByte_of_isDigit hc, List.nil_append]
      · have hthead : t.head? ≠ some 48 := by
          intro h
          have hnil : t = [] := by
            have := hhead (by rw [List.head?_append, h, Option.some_or])
            simpa using congrArg List.length this
          exact htne hnil
        have hquotient := ih ht htne fun h => absurd h hthead
        have hpos : 0 < numeralValue 10 t := by
          rw [Nat.pos_iff_ne_zero]
          intro hzero
          rw [hzero] at hquotient
          exact hthead (by rw [← hquotient]; decide)
        rw [decimal_eq, if_neg (by omega),
          show (numeralValue 10 t * 10 + (c.toNat - 48)) / 10 = numeralValue 10 t from by omega,
          show (numeralValue 10 t * 10 + (c.toNat - 48)) % 10 = c.toNat - 48 from by omega,
          hquotient, digitByte_of_isDigit hc]

end Sysal
