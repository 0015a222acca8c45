import Mathlib.Data.Rat.Cast.Order
import Mathlib.Tactic.FieldSimp
import Mathlib.Tactic.Ring
import Sysal.Foundation.Cuts
import Sysal.Parser.CpuListAcceptance
import Sysal.Parser.Memory
import Sysal.Parser.Numerals
import Sysal.Parser.Rdma

/-!
# Decimal numbers with a point

The reader of port rates scales a decimal number to bits per second, the reader of module voltages to
millivolts.  The integer parser they share ignores blanks at the ends of what it reads, so that both
read some texts that are no decimal numbers.

* `decimalValue_scaled`: the scaled value of a decimal number is a sum of integers;
* `parseRate_eq_some`, `configuredVoltage_eq_some`: which texts the readers read, and as what;
* `fixedPoint_iff`: the readers are exact precisely where blanks and missing digits make no difference.
-/

namespace Sysal.FixedPoint

open Sysal MemoryParser RdmaParser

/-! ### Decimal numbers -/

/-- A text is a numeral, or two numerals with a point between them. -/
def IsDecimalText (text whole decimals : Bytes) : Prop :=
  IsNumeral 10 whole ∧
    (text = whole ∧ decimals = [] ∨ text = whole ++ 46 :: decimals ∧ IsNumeral 10 decimals)

/-- The number a whole part and decimals stand for. -/
def decimalValue (whole decimals : Bytes) : ℚ :=
  numeralValue 10 whole + numeralValue 10 decimals / 10 ^ decimals.length

/-- Scaled by at least as many digits as there are decimals, the value is an integer. -/
theorem decimalValue_scaled {whole decimals : Bytes} {k : ℕ} (h : decimals.length ≤ k) :
    decimalValue whole decimals * 10 ^ k =
      (numeralValue 10 whole * 10 ^ k + numeralValue 10 decimals * 10 ^ (k - decimals.length) : ℕ) := by
  have hsplit : (10 : ℚ) ^ k = 10 ^ (k - decimals.length) * 10 ^ decimals.length := by
    rw [← pow_add, Nat.sub_add_cancel h]
  rw [decimalValue]
  push_cast
  rw [add_mul, hsplit]
  field_simp

theorem decimalValue_scaled_eq_iff {whole decimals : Bytes} {k n : ℕ} (h : decimals.length ≤ k) :
    decimalValue whole decimals * 10 ^ k = n ↔
      numeralValue 10 whole * 10 ^ k + numeralValue 10 decimals * 10 ^ (k - decimals.length) = n := by
  rw [decimalValue_scaled h]
  exact Nat.cast_inj

/-- Zeros behind a numeral scale its value. -/
theorem numeralValue_append_zeros (s : Bytes) (k : ℕ) :
    numeralValue 10 (s ++ List.replicate k 48) = numeralValue 10 s * 10 ^ k := by
  induction k with
  | zero => simp
  | succ k ih =>
      have hzero : digitValue 10 48 = some 0 := by decide
      rw [List.replicate_succ', ← List.append_assoc, numeralValue_append_singleton, ih, hzero,
        Option.getD_some, pow_succ]
      ring

theorem isNumeral_iff {s : Bytes} : IsNumeral 10 s ↔ s ≠ [] ∧ s.all isDigit = true := by
  simp only [IsNumeral, List.all_eq_true, CpuDetails.digitValue_isSome_iff]

theorem IsNumeral.all_isDigit {s : Bytes} (h : IsNumeral 10 s) : s.all isDigit = true :=
  (isNumeral_iff.mp h).2

theorem IsNumeral.no_point {s : Bytes} (h : IsNumeral 10 s) : (46 : UInt8) ∉ s := fun hmem =>
  absurd (List.all_eq_true.mp (IsNumeral.all_isDigit h) 46 hmem) (by decide)

/-- Zeros behind a numeral make a numeral. -/
theorem IsNumeral.append_zeros {s : Bytes} (h : IsNumeral 10 s) (k : ℕ) :
    IsNumeral 10 (s ++ List.replicate k 48) := by
  rw [isNumeral_iff] at h ⊢
  refine ⟨by simp [h.1], ?_⟩
  rw [List.all_append, h.2, Bool.true_and, List.all_eq_true]
  intro c hc
  rw [List.eq_of_mem_replicate hc]
  rfl

/-- What the integer parser reads: a numeral between blanks. -/
theorem parseUint_iff {s : Bytes} {n : ℕ} :
    parseUint s = some n ↔ IsNumeral 10 (trim s) ∧ numeralValue 10 (trim s) = n ∧ n < 2 ^ 64 :=
  parseNumeral_eq_some

/-- Digits that the integer parser reads are a numeral. -/
theorem parseUint_of_all_isDigit {s : Bytes} (h : s.all isDigit = true) {n : ℕ} :
    parseUint s = some n ↔ IsNumeral 10 s ∧ numeralValue 10 s = n ∧ n < 2 ^ 64 := by
  have htrim : trim s = s := by
    refine trim_of_forall fun c hc => ?_
    have hdigit : (digitValue 10 c).isSome = true := by
      rw [CpuDetails.digitValue_isSome_iff]
      exact List.all_eq_true.mp h c hc
    exact digitValue_not_isSpace hdigit
  rw [parseUint_iff, htrim]

/-! ### Scaled numbers -/

/-- A text is a decimal number of these parts, and an integer when it is scaled by some digits. -/
structure Scales (k : ℕ) (text whole decimals : Bytes) (n : ℕ) : Prop where
  spelled : IsDecimalText text whole decimals
  length : decimals.length ≤ k
  value : decimalValue whole decimals * 10 ^ k = n

/-- A text with a point has the parts before and behind its first point. -/
theorem scales_point {k n : ℕ} {whole decimals whole' decimals' : Bytes} (h : (46 : UInt8) ∉ whole) :
    Scales k (whole ++ 46 :: decimals) whole' decimals' n ↔
      whole' = whole ∧ decimals' = decimals ∧ IsNumeral 10 whole ∧ IsNumeral 10 decimals ∧
        decimals.length ≤ k ∧ numeralValue 10 whole * 10 ^ k +
          numeralValue 10 decimals * 10 ^ (k - decimals.length) = n := by
  constructor
  · rintro ⟨⟨hwhole, ⟨rfl, -⟩ | ⟨heq, hdecimals⟩⟩, hlength, hvalue⟩
    · exact absurd (List.mem_append_right _ List.mem_cons_self) (IsNumeral.no_point hwhole)
    · have hcut := cut_append h decimals
      rw [heq, cut_append (IsNumeral.no_point hwhole)] at hcut
      obtain ⟨rfl, rfl⟩ := Prod.mk.inj (Option.some.inj hcut)
      exact ⟨rfl, rfl, hwhole, hdecimals, hlength, (decimalValue_scaled_eq_iff hlength).mp hvalue⟩
  · rintro ⟨rfl, rfl, hwhole, hdecimals, hlength, hvalue⟩
    exact ⟨⟨hwhole, Or.inr ⟨rfl, hdecimals⟩⟩, hlength,
      (decimalValue_scaled_eq_iff hlength).mpr hvalue⟩

/-- A text without a point is a whole part. -/
theorem scales_plain {k n : ℕ} {text whole decimals : Bytes} (h : (46 : UInt8) ∉ text) :
    Scales k text whole decimals n ↔
      whole = text ∧ decimals = [] ∧ IsNumeral 10 text ∧ numeralValue 10 text * 10 ^ k = n := by
  have hscaled : decimalValue text [] * 10 ^ k = n ↔ numeralValue 10 text * 10 ^ k = n := by
    rw [decimalValue_scaled_eq_iff (Nat.zero_le k), show numeralValue 10 [] = 0 from rfl,
      Nat.zero_mul, Nat.add_zero]
  constructor
  · rintro ⟨⟨hwhole, ⟨rfl, rfl⟩ | ⟨rfl, -⟩⟩, -, hvalue⟩
    · exact ⟨rfl, rfl, hwhole, hscaled.mp hvalue⟩
    · exact absurd (List.mem_append_right _ List.mem_cons_self) h
  · rintro ⟨rfl, rfl, hwhole, hvalue⟩
    exact ⟨⟨hwhole, Or.inl ⟨rfl, rfl⟩⟩, Nat.zero_le k, hscaled.mpr hvalue⟩

/-! ### Port rates -/

/-- A text is a decimal number of gigabits with up to nine decimals. -/
def IsRate (text : Bytes) (rate : ℕ) : Prop :=
  ∃ whole decimals, Scales 9 text whole decimals rate

/-- The text of a rate without the blanks at the ends of its whole part. -/
def tidyText (text : Bytes) : Bytes :=
  match Bytes.cut text 46 with
  | some (whole, decimals) => trim whole ++ 46 :: decimals
  | none => trim text

theorem billionths_eq_some {decimals : Bytes} {fraction : ℕ} :
    billionths decimals = some fraction ↔
      IsNumeral 10 decimals ∧ decimals.length ≤ 9 ∧
        numeralValue 10 decimals * 10 ^ (9 - decimals.length) = fraction := by
  rw [billionths]
  constructor
  · intro h
    split at h
    · rename_i value hvalue
      split_ifs at h with hbad
      rw [not_or, not_lt, not_not] at hbad
      obtain ⟨hnumeral, hnumber, -⟩ := (parseUint_of_all_isDigit hbad.2).mp hvalue
      rw [hnumber]
      exact ⟨hnumeral, hbad.1, Option.some.inj h⟩
    · cases h
  · rintro ⟨hnumeral, hlength, rfl⟩
    have hlt : numeralValue 10 decimals < 2 ^ 64 := by
      refine (numeralValue_lt_pow (IsNumeral.all_isDigit hnumeral)).trans_le ?_
      exact (Nat.pow_le_pow_right (by decide) hlength).trans (by decide)
    rw [(parseUint_of_all_isDigit (IsNumeral.all_isDigit hnumeral)).mpr ⟨hnumeral, rfl, hlt⟩]
    dsimp only
    rw [if_neg]
    rw [not_or, not_lt, not_not]
    exact ⟨hlength, IsNumeral.all_isDigit hnumeral⟩

/-- The sum of a rate is taken where it fits. -/
theorem rate_of_numbers {whole fraction : ℕ} {rate : Bandwidth} :
    (if maxUInt64 / rateScale < whole ∨ maxUInt64 - whole * rateScale < fraction then none
      else some (UInt64.ofNat (whole * rateScale + fraction))) = some rate ↔
      whole * rateScale + fraction = rate.toNat := by
  have hdiv : maxUInt64 / rateScale < whole ↔ maxUInt64 < whole * rateScale :=
    Nat.div_lt_iff_lt_mul (by decide)
  have hlt := rate.toNat_lt
  have hmax : maxUInt64 = 2 ^ 64 - 1 := rfl
  constructor
  · intro h
    split_ifs at h with hbad
    rw [hdiv, not_or, not_lt, not_lt] at hbad
    rw [← Option.some.inj h, UInt64.toNat_ofNat_of_lt']
    show _ < 2 ^ 64
    omega
  · intro h
    rw [if_neg (by rw [hdiv]; omega), h, UInt64.ofNat_toNat]

/-- The numbers of a text, in front of its unit. -/
theorem rateNumbers_eq_some {report : Bytes} {whole fraction : ℕ} :
    rateNumbers report = some (whole, fraction) ↔
      ∃ text rest, Bytes.cutSub report (utf8 " Gb/sec") = some (text, rest) ∧
        parseUint (decimalParts text).1 = some whole ∧
        (decimalParts text).2.elim (some 0) billionths = some fraction := by
  rw [rateNumbers, Option.bind_eq_bind, Option.bind_eq_some_iff]
  constructor
  · rintro ⟨⟨text, rest⟩, hcut, h⟩
    refine ⟨text, rest, hcut, ?_⟩
    dsimp only at h
    obtain ⟨_, hwhole, h⟩ := Option.bind_eq_some_iff.mp h
    cases hdecimals : (decimalParts text).2 with
    | none =>
        rw [hdecimals] at h
        obtain ⟨rfl, rfl⟩ := Prod.mk.inj (Option.some.inj h)
        exact ⟨hwhole, rfl⟩
    | some decimals =>
        rw [hdecimals] at h
        obtain ⟨_, hfraction, h⟩ := Option.bind_eq_some_iff.mp h
        obtain ⟨rfl, rfl⟩ := Prod.mk.inj (Option.some.inj h)
        exact ⟨hwhole, hfraction⟩
  · rintro ⟨text, rest, hcut, hwhole, hfraction⟩
    refine ⟨(text, rest), hcut, Option.bind_eq_some_iff.mpr ⟨whole, hwhole, ?_⟩⟩
    cases hdecimals : (decimalParts text).2 with
    | none =>
        rw [hdecimals] at hfraction
        obtain rfl := Option.some.inj hfraction
        rfl
    | some decimals =>
        rw [hdecimals] at hfraction
        exact Option.bind_eq_some_iff.mpr ⟨fraction, hfraction, rfl⟩

/-- The numbers of a text are the ones of the decimal number in it. -/
theorem isRate_tidyText {text : Bytes} {rate : ℕ} (hrate : rate < 2 ^ 64) :
    IsRate (tidyText text) rate ↔ ∃ whole fraction, parseUint (decimalParts text).1 = some whole ∧
      (decimalParts text).2.elim (some 0) billionths = some fraction ∧
        whole * 10 ^ 9 + fraction = rate := by
  have hfits : ∀ n : ℕ, n ≤ n * 10 ^ 9 := fun n => Nat.le_mul_of_pos_right n (by decide)
  rw [tidyText, decimalParts, IsRate]
  cases hcut : Bytes.cut text 46 with
  | none =>
      have hpoint : (46 : UInt8) ∉ trim text := fun hmem =>
        cut_eq_none.mp hcut ((trim_isInfix text).subset hmem)
      simp only [scales_plain hpoint, parseUint_iff, Option.elim_none, Option.some.injEq]
      constructor
      · rintro ⟨_, _, rfl, rfl, hnumeral, rfl⟩
        exact ⟨_, 0, ⟨hnumeral, rfl, (hfits _).trans_lt hrate⟩, rfl, Nat.add_zero _⟩
      · rintro ⟨_, _, ⟨hnumeral, rfl, -⟩, rfl, rfl⟩
        exact ⟨_, _, rfl, rfl, hnumeral, (Nat.add_zero _).symm⟩
  | some parts =>
      obtain ⟨whole, decimals⟩ := parts
      obtain ⟨-, hne⟩ := cut_eq_some_iff.mp hcut
      have hpoint : (46 : UInt8) ∉ trim whole := fun hmem => hne ((trim_isInfix whole).subset hmem)
      simp only [scales_point hpoint, parseUint_iff, Option.elim_some, billionths_eq_some]
      constructor
      · rintro ⟨_, _, rfl, rfl, hnumeral, hdecimals, hlength, rfl⟩
        exact ⟨_, _, ⟨hnumeral, rfl, ((hfits _).trans (Nat.le_add_right _ _)).trans_lt hrate⟩,
          ⟨hdecimals, hlength, rfl⟩, rfl⟩
      · rintro ⟨_, _, ⟨hnumeral, rfl, -⟩, ⟨hdecimals, hlength, rfl⟩, rfl⟩
        exact ⟨_, _, rfl, rfl, hnumeral, hdecimals, hlength, rfl⟩

/-- **Which rates are read**: those whose text is a decimal number, blanks at the ends of its whole
part left out. -/
theorem parseRate_eq_some {report : Bytes} {rate : Bandwidth} :
    parseRate report = some rate ↔
      ∃ text rest, Bytes.cutSub report (utf8 " Gb/sec") = some (text, rest) ∧
        IsRate (tidyText text) rate.toNat := by
  simp only [isRate_tidyText rate.toNat_lt]
  rw [parseRate]
  constructor
  · intro h
    split at h
    · cases h
    · rename_i whole fraction hnumbers
      obtain ⟨text, rest, hcut, hwhole, hfraction⟩ := rateNumbers_eq_some.mp hnumbers
      exact ⟨text, rest, hcut, whole, fraction, hwhole, hfraction, rate_of_numbers.mp h⟩
  · rintro ⟨text, rest, hcut, whole, fraction, hwhole, hfraction, hsum⟩
    rw [rateNumbers_eq_some.mpr ⟨text, rest, hcut, hwhole, hfraction⟩]
    exact rate_of_numbers.mpr hsum

/-! ### Voltages -/

/-- A text is a decimal number of volts, up to a hundred, with up to three decimals. -/
def IsVoltage (text : Bytes) (voltage : ℕ) : Prop :=
  ∃ whole decimals, Scales 3 text whole decimals voltage ∧ numeralValue 10 whole ≤ 100

/-- Decimals with zeros behind them, three digits together. -/
def thousandths (decimals : Bytes) : Bytes := decimals ++ List.replicate (3 - decimals.length) 48

/-- A whole part and what stands behind the only point, if there is one. -/
structure Pointed (text whole decimals : Bytes) : Prop where
  parts : text = whole ∧ decimals = [] ∨ text = whole ++ 46 :: decimals
  notBefore : (46 : UInt8) ∉ whole
  notBehind : (46 : UInt8) ∉ decimals

/-- What the reader of voltages takes for a number. -/
structure ReadsVoltage (text whole decimals : Bytes) : Prop where
  pointed : Pointed text whole decimals
  length : decimals.length ≤ 3
  volts : IsNumeral 10 (trim whole)
  limit : numeralValue 10 (trim whole) ≤ 100
  millivolts : IsNumeral 10 (trim (thousandths decimals))

/-- The parts of a text are its own. -/
theorem Pointed.unique {text whole decimals whole' decimals' : Bytes}
    (h : Pointed text whole decimals) (h' : Pointed text whole' decimals') :
    whole' = whole ∧ decimals' = decimals := by
  obtain ⟨⟨rfl, rfl⟩ | rfl, hwhole, -⟩ := h
  · obtain ⟨⟨rfl, rfl⟩ | rfl, -, -⟩ := h'
    · exact ⟨rfl, rfl⟩
    · exact absurd (List.mem_append_right _ List.mem_cons_self) hwhole
  · obtain ⟨⟨rfl, rfl⟩ | heq, hwhole', -⟩ := h'
    · exact absurd (List.mem_append_right _ List.mem_cons_self) hwhole'
    · have hcut := cut_append hwhole decimals
      rw [heq, cut_append hwhole'] at hcut
      exact Prod.mk.inj (Option.some.inj hcut)

/-- The pieces of a text between points. -/
theorem Pointed.split {text whole decimals : Bytes} (h : Pointed text whole decimals) :
    (split text 46).length ≤ 2 ∧ (split text 46).headD [] = whole ∧
      ((split text 46)[1]?).getD [] = decimals := by
  have hsingle : ∀ {s : Bytes}, (46 : UInt8) ∉ s → Sysal.split s 46 = [s] := by
    intro s hs
    rw [Sysal.split, List.splitOn_eq_splitOnP]
    exact List.splitOnP_eq_singleton fun c hc => beq_eq_false_iff_ne.mpr fun heq => hs (heq ▸ hc)
  obtain ⟨⟨rfl, rfl⟩ | rfl, hwhole, hdecimals⟩ := h
  · rw [hsingle hwhole]
    exact ⟨Nat.le_succ 1, rfl, rfl⟩
  · have hsplit : Sysal.split (whole ++ 46 :: decimals) 46 = [whole, decimals] := by
      have hleft := hsingle hwhole
      have hright := hsingle hdecimals
      rw [Sysal.split, List.splitOn_eq_splitOnP] at hleft hright ⊢
      rw [List.splitOnP_append_cons _ _ (by decide), hleft, hright, List.singleton_append]
    rw [hsplit]
    exact ⟨le_refl 2, rfl, rfl⟩

/-- A text with at most two pieces has one point at most. -/
theorem exists_pointed {text : Bytes} (h : (split text 46).length ≤ 2) :
    ∃ whole decimals, Pointed text whole decimals := by
  cases hcut : Bytes.cut text 46 with
  | none => exact ⟨text, [], Or.inl ⟨rfl, rfl⟩, cut_eq_none.mp hcut, List.not_mem_nil⟩
  | some parts =>
      obtain ⟨whole, decimals⟩ := parts
      obtain ⟨rfl, hwhole⟩ := cut_eq_some_iff.mp hcut
      refine ⟨whole, decimals, Or.inr rfl, hwhole, fun hmem => ?_⟩
      obtain ⟨a, b, rfl⟩ := List.append_of_mem hmem
      have hpos : ∀ l : Bytes, 0 < (l.splitOnP (· == 46)).length := fun l =>
        List.length_pos_iff.mpr (List.splitOnP_ne_nil _ _)
      rw [split, List.splitOn_eq_splitOnP, List.splitOnP_append_cons _ _ (by decide),
        List.splitOnP_append_cons _ _ (by decide), List.length_append, List.length_append] at h
      have hwhole := hpos whole
      have ha := hpos a
      have hb := hpos b
      omega

/-- The three digits of the decimals are below a thousand. -/
theorem thousandths_lt {decimals : Bytes} (hlength : decimals.length ≤ 3)
    (h : IsNumeral 10 (trim (thousandths decimals))) :
    numeralValue 10 (trim (thousandths decimals)) < 1000 := by
  refine (numeralValue_lt_pow (IsNumeral.all_isDigit h)).trans_le ?_
  refine (Nat.pow_le_pow_right (by decide) (trim_isInfix _).length_le).trans ?_
  rw [thousandths, List.length_append, List.length_replicate, Nat.add_sub_cancel' hlength]

/-- **Which voltages are read**, and as what. -/
theorem configuredVoltage_eq_some {text : Bytes} {voltage : Millivolts} :
    configuredVoltage text = some voltage ↔ ∃ whole decimals, ReadsVoltage text whole decimals ∧
      numeralValue 10 (trim whole) * 1000 + numeralValue 10 (trim (thousandths decimals)) =
        voltage.toNat := by
  rw [configuredVoltage]
  constructor
  · intro h
    split_ifs at h with hbad
    rw [not_or, not_lt, not_lt] at hbad
    obtain ⟨whole, decimals, hpointed⟩ := exists_pointed hbad.1
    obtain ⟨-, hwhole, hdecimals⟩ := hpointed.split
    rw [hwhole, hdecimals] at h
    rw [hdecimals] at hbad
    split at h
    · rename_i a b ha hb
      split_ifs at h with hlimit
      obtain ⟨hnumeral, rfl, -⟩ := parseUint_iff.mp ha
      obtain ⟨hthree, rfl, -⟩ := parseUint_iff.mp hb
      refine ⟨whole, decimals, ⟨hpointed, hbad.2, hnumeral, hlimit.1, hthree⟩, ?_⟩
      rw [← Option.some.inj h, thousandths, UInt64.toNat_ofNat_of_lt']
      show _ < 2 ^ 64
      omega
    · cases h
  · rintro ⟨whole, decimals, ⟨hpointed, hlength, hnumeral, hlimit, hthree⟩, hsum⟩
    obtain ⟨hparts, hwhole, hdecimals⟩ := hpointed.split
    have hlt := thousandths_lt hlength hthree
    rw [hwhole, hdecimals, if_neg (by omega),
      parseUint_iff.mpr ⟨hnumeral, rfl, hlimit.trans_lt (by decide)⟩,
      show decimals ++ List.replicate (3 - decimals.length) 48 = thousandths decimals from rfl,
      parseUint_iff.mpr ⟨hthree, rfl, hlt.trans (by decide)⟩]
    dsimp only
    rw [if_pos ⟨hlimit, hlt⟩, hsum, UInt64.ofNat_toNat]

/-- Decimals that are digits, or none, are thousandths with zeros behind them. -/
theorem thousandths_of_digits {decimals : Bytes} (h : decimals = [] ∨ IsNumeral 10 decimals)
    (hlength : decimals.length ≤ 3) :
    IsNumeral 10 (trim (thousandths decimals)) ∧ numeralValue 10 (trim (thousandths decimals)) =
      numeralValue 10 decimals * 10 ^ (3 - decimals.length) := by
  have hnumeral : IsNumeral 10 (thousandths decimals) := by
    rcases h with rfl | h
    · exact isNumeral_iff.mpr ⟨by decide, by decide⟩
    · exact IsNumeral.append_zeros h _
  rw [hnumeral.trim_eq, thousandths, numeralValue_append_zeros]
  exact ⟨hnumeral, rfl⟩

/-- A decimal number of volts is read as its value. -/
theorem readsVoltage_of_scales {text whole decimals : Bytes} {voltage : ℕ}
    (h : Scales 3 text whole decimals voltage) (hlimit : numeralValue 10 whole ≤ 100) :
    ReadsVoltage text whole decimals ∧
      numeralValue 10 (trim whole) * 1000 + numeralValue 10 (trim (thousandths decimals)) = voltage := by
  obtain ⟨⟨hwhole, hparts⟩, hlength, hvalue⟩ := h
  have hdigits : decimals = [] ∨ IsNumeral 10 decimals := hparts.imp And.right And.right
  obtain ⟨hthree, hthousandths⟩ := thousandths_of_digits hdigits hlength
  rw [decimalValue_scaled_eq_iff hlength] at hvalue
  rw [hwhole.trim_eq, hthousandths]
  have hbehind : (46 : UInt8) ∉ decimals := by
    rcases hdigits with rfl | hnumeral
    · exact List.not_mem_nil
    · exact IsNumeral.no_point hnumeral
  exact ⟨⟨⟨hparts.imp_right And.left, IsNumeral.no_point hwhole, hbehind⟩, hlength,
    by rwa [hwhole.trim_eq], by rwa [hwhole.trim_eq], hthree⟩, hvalue⟩

/-- What is read is the value, where there are no blanks and a point has digits behind it. -/
theorem scales_of_readsVoltage {text whole decimals : Bytes} (h : ReadsVoltage text whole decimals)
    (hwhole : trim whole = whole) (hdecimals : text = whole ∨ IsNumeral 10 decimals) :
    Scales 3 text whole decimals
      (numeralValue 10 (trim whole) * 1000 + numeralValue 10 (trim (thousandths decimals))) := by
  obtain ⟨⟨hparts, hbefore, hbehind⟩, hlength, hnumeral, hlimit, hthree⟩ := h
  rw [hwhole] at hnumeral ⊢
  have hspelled : IsDecimalText text whole decimals := by
    refine ⟨hnumeral, ?_⟩
    rcases hparts with hplain | hpoint
    · exact Or.inl hplain
    · rcases hdecimals with heq | hdigits
      · rw [hpoint] at heq
        simp at heq
      · exact Or.inr ⟨hpoint, hdigits⟩
  have hdigits : decimals = [] ∨ IsNumeral 10 decimals := hspelled.2.imp And.right And.right
  refine ⟨hspelled, hlength, (decimalValue_scaled_eq_iff hlength).mpr ?_⟩
  rw [(thousandths_of_digits hdigits hlength).2]
  norm_num

/-! ### Exactness -/

/-- The reader of rates is exact on a report: it reads the decimal number before the unit. -/
def RateExact (report : Bytes) : Prop :=
  ∀ rate : Bandwidth, parseRate report = some rate ↔
    ∃ text rest, Bytes.cutSub report (utf8 " Gb/sec") = some (text, rest) ∧ IsRate text rate.toNat

/-- The whole part has no blanks at its ends, or without them there still is no rate. -/
def RateTidy (report : Bytes) : Prop :=
  ∀ text rest, Bytes.cutSub report (utf8 " Gb/sec") = some (text, rest) →
    tidyText text = text ∨ ∀ rate : Bandwidth, ¬ IsRate (tidyText text) rate.toNat

/-- The reader of voltages is exact on a text. -/
def VoltageExact (text : Bytes) : Prop :=
  ∀ voltage : Millivolts, configuredVoltage text = some voltage ↔ IsVoltage text voltage.toNat

/-- Where the reader takes a text for a number, the whole part has no blanks at its ends and a point
has digits behind it, and nothing else. -/
def VoltageTidy (text : Bytes) : Prop :=
  ∀ whole decimals, ReadsVoltage text whole decimals →
    trim whole = whole ∧ (text = whole ∨ IsNumeral 10 decimals)

/-- A decimal number has no blanks at the ends of its whole part. -/
theorem tidyText_of_isRate {text : Bytes} {rate : ℕ} (h : IsRate text rate) : tidyText text = text := by
  obtain ⟨whole, decimals, ⟨⟨hwhole, ⟨rfl, -⟩ | ⟨rfl, -⟩⟩, -, -⟩⟩ := h
  · rw [tidyText, cut_eq_none.mpr (IsNumeral.no_point hwhole)]
    exact hwhole.trim_eq
  · rw [tidyText, cut_append (IsNumeral.no_point hwhole)]
    dsimp only
    rw [hwhole.trim_eq]

theorem rateExact_iff (report : Bytes) : RateExact report ↔ RateTidy report := by
  constructor
  · intro hexact text rest hcut
    by_contra hbad
    rw [not_or, not_forall_not] at hbad
    obtain ⟨hblank, rate, hrate⟩ := hbad
    obtain ⟨text', rest', hcut', htext⟩ :=
      (hexact rate).mp (parseRate_eq_some.mpr ⟨text, rest, hcut, hrate⟩)
    obtain ⟨rfl, -⟩ := Prod.mk.inj (Option.some.inj (hcut.symm.trans hcut'))
    exact hblank (tidyText_of_isRate htext)
  · intro htidy rate
    rw [parseRate_eq_some]
    refine exists_congr fun text => exists_congr fun rest => and_congr_right fun hcut => ?_
    rcases htidy text rest hcut with heq | hnone
    · rw [heq]
    · refine iff_of_false (hnone rate) fun hrate => hnone rate ?_
      rwa [tidyText_of_isRate hrate]

theorem voltageExact_iff (text : Bytes) : VoltageExact text ↔ VoltageTidy text := by
  constructor
  · intro hexact whole decimals hreads
    have hlt := thousandths_lt hreads.length hreads.millivolts
    have hlimit := hreads.limit
    have hfits : numeralValue 10 (trim whole) * 1000 +
        numeralValue 10 (trim (thousandths decimals)) < 2 ^ 64 := by omega
    have hread : configuredVoltage text = some (.ofNat (numeralValue 10 (trim whole) * 1000 +
        numeralValue 10 (trim (thousandths decimals)))) :=
      configuredVoltage_eq_some.mpr ⟨whole, decimals, hreads,
        (UInt64.toNat_ofNat_of_lt' hfits).symm⟩
    obtain ⟨whole', decimals', hscales, hlimit'⟩ := (hexact _).mp hread
    obtain ⟨rfl, rfl⟩ :=
      hreads.pointed.unique (readsVoltage_of_scales hscales hlimit').1.pointed
    obtain ⟨⟨hwhole, hparts⟩, -, -⟩ := hscales
    exact ⟨hwhole.trim_eq, hparts.imp And.left And.right⟩
  · intro htidy voltage
    rw [configuredVoltage_eq_some]
    constructor
    · rintro ⟨whole, decimals, hreads, hsum⟩
      obtain ⟨hwhole, hdecimals⟩ := htidy whole decimals hreads
      have hscales := scales_of_readsVoltage hreads hwhole hdecimals
      rw [hsum] at hscales
      exact ⟨whole, decimals, hscales, hwhole ▸ hreads.limit⟩
    · rintro ⟨whole, decimals, hscales, hlimit⟩
      obtain ⟨hreads, hsum⟩ := readsVoltage_of_scales hscales hlimit
      exact ⟨whole, decimals, hreads, hsum⟩

/-- The integers of the two readers fit 64 bits on the way. -/
structure NoOverflow : Prop where
  decimals : ∀ decimals value, parseUint decimals = some value → decimals.all isDigit = true →
    decimals.length ≤ 9 → ∀ steps ≤ 9 - decimals.length, value * 10 ^ steps < 10 ^ 9
  whole : ∀ whole ≤ maxUInt64 / rateScale, whole * rateScale ≤ maxUInt64
  rate : ∀ whole ≤ maxUInt64 / rateScale, ∀ fraction ≤ maxUInt64 - whole * rateScale,
    whole * rateScale + fraction ≤ maxUInt64
  voltage : ∀ text whole decimals, ReadsVoltage text whole decimals →
    numeralValue 10 (trim whole) * 1000 + numeralValue 10 (trim (thousandths decimals)) ≤ maxUInt64

theorem noOverflow : NoOverflow where
  decimals := by
    intro decimals value hvalue hdigits hlength steps hsteps
    obtain ⟨-, rfl, -⟩ := (parseUint_of_all_isDigit hdigits).mp hvalue
    calc numeralValue 10 decimals * 10 ^ steps
        < 10 ^ decimals.length * 10 ^ steps :=
          Nat.mul_lt_mul_of_pos_right (numeralValue_lt_pow hdigits) (Nat.pow_pos (by decide))
      _ = 10 ^ (decimals.length + steps) := (pow_add _ _ _).symm
      _ ≤ 10 ^ 9 := Nat.pow_le_pow_right (by decide) (by omega)
  whole := fun _ h => (Nat.le_div_iff_mul_le (by decide)).mp h
  rate := by
    intro whole hwhole fraction hfraction
    have hproduct : whole * rateScale ≤ maxUInt64 := (Nat.le_div_iff_mul_le (by decide)).mp hwhole
    omega
  voltage := by
    intro text whole decimals hreads
    have hlt := thousandths_lt hreads.length hreads.millivolts
    have hlimit := hreads.limit
    have hmax : maxUInt64 = 2 ^ 64 - 1 := rfl
    omega

/-- **The readers are exact precisely where blanks and missing digits make no difference**, and no
product or sum of theirs overflows. -/
theorem fixedPoint_iff (report text : Bytes) :
    (RateExact report ↔ RateTidy report) ∧ (VoltageExact text ↔ VoltageTidy text) ∧ NoOverflow :=
  ⟨rateExact_iff report, voltageExact_iff text, noOverflow⟩

/-- A second blank before the unit, and a blank behind the point. -/
theorem blanks_not_exact : ¬ RateExact (utf8 "100  Gb/sec") ∧ ¬ VoltageExact (utf8 "1. 5") := by
  constructor
  · intro hexact
    have hread : parseRate (utf8 "100  Gb/sec") = some 100000000000 := by decide +kernel
    have hcut : Bytes.cutSub (utf8 "100  Gb/sec") (utf8 " Gb/sec") = some (utf8 "100 ", []) := by
      decide +kernel
    obtain ⟨text, rest, hcut', hrate⟩ := (hexact _).mp hread
    obtain ⟨rfl, -⟩ := Prod.mk.inj (Option.some.inj (hcut.symm.trans hcut'))
    exact absurd (tidyText_of_isRate hrate) (by decide +kernel)
  · intro hexact
    have hread : configuredVoltage (utf8 "1. 5") = some 1050 := by decide +kernel
    have hpointed : Pointed (utf8 "1. 5") (utf8 "1") (utf8 " 5") :=
      ⟨by decide +kernel, by decide +kernel, by decide +kernel⟩
    have hplain : utf8 "1. 5" ≠ utf8 "1" := by decide +kernel
    have hblank : ¬ IsNumeral 10 (utf8 " 5") := by decide +kernel
    obtain ⟨whole, decimals, hscales, hlimit⟩ := (hexact _).mp hread
    obtain ⟨rfl, rfl⟩ := hpointed.unique (readsVoltage_of_scales hscales hlimit).1.pointed
    rcases hscales.spelled.2 with ⟨heq, -⟩ | ⟨-, hnumeral⟩
    · exact hplain heq
    · exact hblank hnumeral

end Sysal.FixedPoint
