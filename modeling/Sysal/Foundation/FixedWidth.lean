import Mathlib.Algebra.Group.Nat.Defs
import Mathlib.Data.Nat.Basic
import Mathlib.Data.Int.Basic
import Mathlib.Tactic.Common

/-!
# Numbers and the fixed-width fields that store them

The number that a text states has no bound, the field that stores it has.  `Faithful` is what a reader
owes a field: the field is left alone, or it has the number that was read.

* `bind_checked32`: a reader that checks the range and one that reduces the number to the width of the
  field agree on numbers that fit;
* `mulChecked_eq_some`: a product that is formed behind a division check is the product.
-/

namespace Sysal

variable {α : Type*}

/-! ### Storing a number -/

/-- A field after a piece of evidence that states at most one number: as before, or that number. -/
def Faithful (value : α → Option ℕ) (number : Option ℕ) (before after : α) : Prop :=
  after = before ∨ ∃ n, number = some n ∧ value after = some n

theorem Faithful.refl (value : α → Option ℕ) (number : Option ℕ) (before : α) :
    Faithful value number before before :=
  Or.inl rfl

theorem Faithful.stored {value : α → Option ℕ} {number : Option ℕ} {before after : α} {n : ℕ}
    (hn : number = some n) (h : value after = some n) : Faithful value number before after :=
  Or.inr ⟨n, hn, h⟩

/-- A field that is written on some paths only. -/
theorem Faithful.ite {value : α → Option ℕ} {number : Option ℕ} {before left right : α}
    {c : Prop} [Decidable c] (hleft : Faithful value number before left)
    (hright : Faithful value number before right) :
    Faithful value number before (if c then left else right) := by
  split
  · exact hleft
  · exact hright

/-! ### The values of fields -/

theorem toNat_ofNat32_iff (n : ℕ) : (UInt32.ofNat n).toNat = n ↔ n < 2 ^ 32 := by
  rw [UInt32.toNat_ofNat']
  constructor
  · intro h
    omega
  · exact Nat.mod_eq_of_lt

/-- A number in 32 bits, where it fits. -/
def checked32 (n : ℕ) : Option UInt32 := if n < 2 ^ 32 then some (UInt32.ofNat n) else none

theorem checked32_of_lt {n : ℕ} (h : n < 2 ^ 32) : checked32 n = some (UInt32.ofNat n) := if_pos h

theorem bind_checked32 {number : Option ℕ} (h : ∀ n ∈ number, n < 2 ^ 32) :
    number.bind checked32 = number.map UInt32.ofNat := by
  cases number with
  | none => rfl
  | some n => exact checked32_of_lt (h n rfl)

/-- The number that a field has. -/
def fieldValue (field : UInt32) : Option ℕ := some field.toNat

/-- The number that an optional field has. -/
def optionalValue (field : Option UInt32) : Option ℕ := field.map UInt32.toNat

/-- The number that a field of 64 bits has. -/
def fieldValue64 (field : UInt64) : Option ℕ := some field.toNat

/-- The number that an optional field of 64 bits has. -/
def optionalValue64 (field : Option UInt64) : Option ℕ := field.map UInt64.toNat

/-! ### Products -/

/-- A product that is formed only where it does not exceed 64 bits. -/
def mulChecked (factor n : ℕ) : Option UInt64 :=
  if n ≤ (2 ^ 64 - 1) / factor then some (UInt64.ofNat (n * factor)) else none

theorem le_div_iff_mul_lt {factor n : ℕ} (hfactor : 0 < factor) :
    n ≤ (2 ^ 64 - 1) / factor ↔ n * factor < 2 ^ 64 := by
  rw [Nat.le_div_iff_mul_le hfactor]
  omega

theorem mulChecked_eq_some {factor n : ℕ} {product : UInt64} (hfactor : 0 < factor) :
    mulChecked factor n = some product ↔ product.toNat = n * factor := by
  rw [mulChecked]
  simp only [le_div_iff_mul_lt hfactor]
  split
  · rename_i hlt
    rw [Option.some_inj]
    constructor
    · rintro rfl
      exact UInt64.toNat_ofNat_of_lt hlt
    · intro h
      rw [← h, UInt64.ofNat_toNat]
  · rename_i hge
    constructor
    · intro h
      cases h
    · intro h
      exact absurd (h ▸ product.toNat_lt) hge

/-- A field that takes the checked product of a number and a factor is faithful to the product. -/
theorem faithful_mulChecked {factor : ℕ} (hfactor : 0 < factor) (number : Option ℕ)
    (before : Option UInt64) :
    Faithful optionalValue64 (number.map (· * factor)) before
      ((number.bind (mulChecked factor)).or before) := by
  cases number with
  | none => exact Faithful.refl _ _ _
  | some n =>
      rw [Option.bind_some]
      cases hproduct : mulChecked factor n with
      | none => exact Faithful.refl _ _ _
      | some product =>
          refine Faithful.stored rfl ?_
          exact congrArg some ((mulChecked_eq_some hfactor).mp hproduct)

end Sysal
