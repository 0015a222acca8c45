import Sysal.Foundation.Decimal
import Sysal.Foundation.Tokens
import Sysal.Parser.ParseUtils

/-!
# Numerals and the numbers they are read as

A trimmed text is read as a number exactly when it is a numeral of the base whose value fits 64 bits,
and the texts that numbers are written as are such numerals.

* `parseNumeral_eq_some`: which texts are read, and as what;
* `parseUint_decimal`: a decimal text is read back;
* `padded_spec`: a hexadecimal text with leading zeros is a numeral of its number.
-/

namespace Sysal

/-! ### What is read -/

/-- A numeral: at least one digit, and digits only. -/
def IsNumeral (base : ℕ) (s : Bytes) : Prop := s ≠ [] ∧ ∀ c ∈ s, (digitValue base c).isSome = true

instance (base : ℕ) (s : Bytes) : Decidable (IsNumeral base s) :=
  inferInstanceAs (Decidable (_ ∧ _))

theorem fromChars_eq_some_nil_iff {base : ℕ} {s : Bytes} {n : ℕ} :
    fromChars base s = some (n, []) ↔ IsNumeral base s ∧ numeralValue base s = n ∧ n < 2 ^ 64 := by
  rw [fromChars, IsNumeral]
  by_cases hall : ∀ c ∈ s, (digitValue base c).isSome = true
  · rw [List.takeWhile_eq_self_iff.mpr hall, List.dropWhile_eq_nil_iff.mpr hall]
    by_cases hs : s = []
    · simp [hs]
    · rw [if_neg (by simpa using hs)]
      by_cases hlt : numeralValue base s < 2 ^ 64
      · rw [if_pos hlt, Option.some_inj, Prod.mk.injEq]
        constructor
        · rintro ⟨rfl, -⟩
          exact ⟨⟨hs, hall⟩, rfl, hlt⟩
        · exact fun h => ⟨h.2.1, rfl⟩
      · rw [if_neg hlt]
        refine iff_of_false (by simp) fun h => hlt ?_
        rw [h.2.1]
        exact h.2.2
  · have hdrop : s.dropWhile (fun c => (digitValue base c).isSome) ≠ [] := fun h =>
      hall (List.dropWhile_eq_nil_iff.mp h)
    refine iff_of_false (fun h => ?_) fun h => hall h.1.2
    split at h
    · cases h
    · split at h
      · rw [Option.some_inj, Prod.mk.injEq] at h
        exact hdrop h.2
      · cases h

/-- **Which texts are read**: the numerals whose value fits 64 bits, between blanks. -/
theorem parseNumeral_eq_some {base : ℕ} {s : Bytes} {n : ℕ} :
    parseNumeral base s = some n ↔
      IsNumeral base (trim s) ∧ numeralValue base (trim s) = n ∧ n < 2 ^ 64 := by
  rw [← fromChars_eq_some_nil_iff, parseNumeral]
  constructor
  · intro h
    split at h
    · rename_i heq
      rw [heq, Option.some.inj h]
    · cases h
  · intro h
    rw [h]

/-- Digits lie behind the blanks. -/
theorem le_of_digitValue {base : ℕ} {c : UInt8} (h : (digitValue base c).isSome = true) :
    48 ≤ c.toNat := by
  rw [digitValue, Option.isSome_filter] at h
  by_contra hlt
  have hdigit : isDigit c = false := by
    simp only [isDigit, Bool.and_eq_false_iff, decide_eq_false_iff_not, UInt8.le_iff_toNat_le]
    exact Or.inl hlt
  have hlower : (97 ≤ c && c ≤ 102) = false := by
    simp only [Bool.and_eq_false_iff, decide_eq_false_iff_not, UInt8.le_iff_toNat_le]
    exact Or.inl fun hle => hlt (le_trans (by decide) hle)
  have hupper : (65 ≤ c && c ≤ 70) = false := by
    simp only [Bool.and_eq_false_iff, decide_eq_false_iff_not, UInt8.le_iff_toNat_le]
    exact Or.inl fun hle => hlt (le_trans (by decide) hle)
  simp [hdigit, hlower, hupper] at h

theorem le_of_isSpace {c : UInt8} (h : isSpace c = true) : c.toNat ≤ 32 := by
  rw [isSpace, Bool.or_eq_true, beq_iff_eq, Bool.and_eq_true, decide_eq_true_eq, decide_eq_true_eq] at h
  rcases h with rfl | ⟨-, h⟩
  · decide
  · exact le_trans (UInt8.le_iff_toNat_le.mp h) (by decide)

theorem digitValue_not_isSpace {base : ℕ} {c : UInt8} (h : (digitValue base c).isSome = true) :
    isSpace c = false := by
  rw [Bool.eq_false_iff]
  intro hspace
  have := le_of_digitValue h
  have := le_of_isSpace hspace
  omega

theorem IsNumeral.not_isSpace {base : ℕ} {s : Bytes} (h : IsNumeral base s) :
    ∀ c ∈ s, isSpace c = false :=
  fun c hc => digitValue_not_isSpace (h.2 c hc)

theorem IsNumeral.trim_eq {base : ℕ} {s : Bytes} (h : IsNumeral base s) : trim s = s :=
  trim_of_forall h.not_isSpace

/-- A numeral is read as its value when that fits. -/
theorem IsNumeral.parseNumeral {base : ℕ} {s : Bytes} (h : IsNumeral base s)
    (hlt : numeralValue base s < 2 ^ 64) : parseNumeral base s = some (numeralValue base s) := by
  rw [parseNumeral_eq_some, h.trim_eq]
  exact ⟨h, rfl, hlt⟩

/-! ### Decimal texts -/

theorem isNumeral_decimal (n : ℕ) : IsNumeral 10 (decimal n) := by
  refine ⟨decimal_ne_nil n, fun c hc => ?_⟩
  rw [(digitValue_isDigit (List.all_eq_true.mp (decimal_all_isDigit n) c hc)).1]
  rfl

theorem parseUint_decimal {n m : ℕ} : parseUint (decimal n) = some m ↔ n = m ∧ n < 2 ^ 64 := by
  rw [parseUint, parseNumeral_eq_some, (isNumeral_decimal n).trim_eq, numeralValue_decimal]
  constructor
  · rintro ⟨-, rfl, hlt⟩
    exact ⟨rfl, hlt⟩
  · rintro ⟨rfl, hlt⟩
    exact ⟨isNumeral_decimal n, rfl, hlt⟩

theorem parseUint32_decimal {n : ℕ} {v : UInt32} :
    parseUint32 (decimal n) = some v ↔ n = v.toNat := by
  have hv := v.toNat_lt
  rw [parseUint32_eq_some, parseUint_decimal]
  constructor
  · exact fun h => h.1
  · intro h
    exact ⟨h, by omega⟩

/-! ### Hexadecimal texts -/

/-- `std::hex`: lower-case digits, no leading zero. -/
def hexadecimal (n : ℕ) : Bytes := (Nat.toDigits 16 n).map fun c => c.toNat.toUInt8

/-- `std::setw` with `std::setfill('0')`, or `%0Nx`. -/
def padZeros (width : ℕ) (s : Bytes) : Bytes := List.replicate (width - s.length) 48 ++ s

/-- The byte of a hexadecimal digit. -/
def hexByte (d : ℕ) : UInt8 := (Nat.digitChar d).toNat.toUInt8

theorem digitValue_hexByte {d : ℕ} (h : d < 16) : digitValue 16 (hexByte d) = some d := by
  interval_cases d <;> rfl

theorem hexadecimal_eq (n : ℕ) :
    hexadecimal n = if n < 16 then [hexByte n] else hexadecimal (n / 16) ++ [hexByte (n % 16)] := by
  rw [hexadecimal, Nat.toDigits_eq_if (by decide)]
  split
  · rfl
  · rw [List.map_append]
    rfl

/-- A hexadecimal text is a numeral of its number. -/
theorem hexadecimal_spec (n : ℕ) :
    IsNumeral 16 (hexadecimal n) ∧ numeralValue 16 (hexadecimal n) = n := by
  induction n using Nat.strong_induction_on with
  | _ n ih =>
      rw [hexadecimal_eq]
      by_cases h : n < 16
      · rw [if_pos h]
        refine ⟨⟨List.cons_ne_nil _ _, fun c hc => ?_⟩, ?_⟩
        · rw [List.mem_singleton.mp hc, digitValue_hexByte h]
          rfl
        · show 0 * 16 + (digitValue 16 (hexByte n)).getD 0 = n
          rw [digitValue_hexByte h, Option.getD_some, Nat.zero_mul, Nat.zero_add]
      · have hlt : n % 16 < 16 := Nat.mod_lt n (by decide)
        obtain ⟨hnumeral, hvalue⟩ := ih (n / 16) (by omega)
        rw [if_neg h]
        refine ⟨⟨List.append_ne_nil_of_left_ne_nil hnumeral.1 _, fun c hc => ?_⟩, ?_⟩
        · rcases List.mem_append.mp hc with hc | hc
          · exact hnumeral.2 c hc
          · rw [List.mem_singleton.mp hc, digitValue_hexByte hlt]
            rfl
        · rw [numeralValue_append_singleton, hvalue, digitValue_hexByte hlt, Option.getD_some]
          omega

/-- Leading zeros change nothing. -/
theorem numeralValue_padZeros (base width : ℕ) (s : Bytes) :
    numeralValue base (padZeros width s) = numeralValue base s := by
  rw [padZeros]
  induction width - s.length with
  | zero => rfl
  | succ k ih =>
      rw [← ih]
      have hzero : (digitValue base 48).getD 0 = 0 := by
        cases base <;> rfl
      show List.foldl _ (0 * base + (digitValue base 48).getD 0) _ = _
      rw [hzero, Nat.zero_mul]
      rfl

theorem isNumeral_padZeros {base : ℕ} (hbase : 0 < base) (width : ℕ) {s : Bytes}
    (h : IsNumeral base s) : IsNumeral base (padZeros width s) := by
  refine ⟨List.append_ne_nil_of_right_ne_nil _ h.1, fun c hc => ?_⟩
  rcases List.mem_append.mp hc with hc | hc
  · rw [List.eq_of_mem_replicate hc]
    simp [digitValue, isDigit, Option.filter, hbase]
  · exact h.2 c hc

/-- The text of a number in hexadecimal with leading zeros. -/
theorem padded_spec (width n : ℕ) :
    IsNumeral 16 (padZeros width (hexadecimal n)) ∧
      numeralValue 16 (padZeros width (hexadecimal n)) = n := by
  obtain ⟨hnumeral, hvalue⟩ := hexadecimal_spec n
  exact ⟨isNumeral_padZeros (by decide) width hnumeral, (numeralValue_padZeros 16 width _).trans hvalue⟩

end Sysal
