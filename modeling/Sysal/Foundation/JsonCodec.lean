import Mathlib.Algebra.Order.Field.Rat
import Mathlib.Data.Int.Basic
import Mathlib.Tactic.Ring
import Sysal.Foundation.Json

/-!
# Reading and writing JSON values field by field

A decoder reads a value and may fail, in the library (a missing key, a value of the wrong type) or
with a message of its own.  An encoder builds an object from a list of fields.  The combinators are
the accesses a decoder is made of: a required member, an optional one, a member with a default, the
elements of a member; each comes with the law that it reads back what the matching field writes, so
that the round trip of a record is one `simp` over its fields.

* `readList_map`, `readOptional_map`, `readDefault_nonempty`: the laws of the composite accesses.
-/

namespace Sysal

/-- Why a document is rejected. -/
inductive DecodeError where
  /-- An exception of the JSON library. -/
  | library
  /-- A value the decoder itself refuses. -/
  | invalid (message : Bytes)
  deriving DecidableEq

abbrev Decode (α : Type) := Except DecodeError α

namespace Json

variable {α β : Type}

/-! ### Scalars -/

/-- `get<std::string>()`. -/
def getString (j : Json) : Decode Bytes :=
  match j.asStr with
  | some s => .ok s
  | none => .error .library

/-- `get<bool>()`. -/
def getBool (j : Json) : Decode Bool :=
  match j.asBool with
  | some b => .ok b
  | none => .error .library

@[simp] theorem getString_str (s : Bytes) : (str s).getString = .ok s := rfl
@[simp] theorem getBool_bool (b : Bool) : (bool b).getBool = .ok b := rfl

/-! ### Integers -/

/-- An unsigned 64-bit number as a JSON integer. -/
def ofUInt64 (x : UInt64) : Json :=
  int ⟨x.toNat, by have := x.toNat_lt; omega⟩

def ofUInt32 (x : UInt32) : Json :=
  int ⟨x.toNat, by have := x.toNat_lt; omega⟩

def ofUInt16 (x : UInt16) : Json :=
  int ⟨x.toNat, by have := x.toNat_lt; omega⟩

def ofUInt8 (x : UInt8) : Json :=
  int ⟨x.toNat, by have := x.toNat_lt; omega⟩

def ofInt64 (x : Int64) : Json :=
  int ⟨x.toInt, by have := x.toInt_lt; have := x.le_toInt; omega⟩

def ofInt32 (x : Int32) : Json :=
  int ⟨x.toInt, by have := x.toInt_lt; have := x.le_toInt; omega⟩

@[simp] theorem asInt_ofUInt64 (x : UInt64) : (ofUInt64 x).asInt = some (x.toNat : ℤ) := rfl
@[simp] theorem asInt_ofUInt32 (x : UInt32) : (ofUInt32 x).asInt = some (x.toNat : ℤ) := rfl
@[simp] theorem asInt_ofUInt16 (x : UInt16) : (ofUInt16 x).asInt = some (x.toNat : ℤ) := rfl
@[simp] theorem asInt_ofUInt8 (x : UInt8) : (ofUInt8 x).asInt = some (x.toNat : ℤ) := rfl
@[simp] theorem asInt_ofInt64 (x : Int64) : (ofInt64 x).asInt = some x.toInt := rfl
@[simp] theorem asInt_ofInt32 (x : Int32) : (ofInt32 x).asInt = some x.toInt := rfl

/-! ### Conversions of numbers

The library converts any number: an integer is reduced to the width of the target, a double loses its
fraction.  A double outside of the target's range has no defined value; it is reduced here as an
integer is.  The two 64-bit targets take numbers only, the narrower ones a boolean as well. -/

/-- A double without its fraction. -/
def truncate (x : FiniteDouble) : ℤ := x.value.num.tdiv x.value.den

/-- The integer a number is converted to, before it is reduced to the width of its target. -/
def getNumber (j : Json) : Decode ℤ :=
  match j.tree with
  | .int n => .ok n.value
  | .float x => .ok (truncate x)
  | _ => .error .library

/-- The same for a target that takes a boolean. -/
def getArithmetic (j : Json) : Decode ℤ :=
  match j.tree with
  | .bool b => .ok b.toNat
  | _ => j.getNumber

def getUInt64 (j : Json) : Decode UInt64 := j.getNumber.map UInt64.ofInt
def getInt64 (j : Json) : Decode Int64 := j.getNumber.map Int64.ofInt
def getUInt32 (j : Json) : Decode UInt32 := j.getArithmetic.map UInt32.ofInt
def getInt32 (j : Json) : Decode Int32 := j.getArithmetic.map Int32.ofInt

/-- A natural number over `2 ^ k`, rounded to nearest, ties to even. -/
def roundShift (n k : ℕ) : ℕ :=
  let q := n / 2 ^ k
  let r := n % 2 ^ k
  if 2 ^ k < 2 * r ∨ 2 * r = 2 ^ k ∧ q % 2 = 1 then q + 1 else q

/-- How many low bits of a natural number a double drops. -/
def droppedBits (n : ℕ) : ℕ := n.log2 + 1 - 53

theorem roundShift_le {n k : ℕ} (h : n < 2 ^ (53 + k)) : roundShift n k ≤ 2 ^ 53 := by
  have hq : n / 2 ^ k < 2 ^ 53 := Nat.div_lt_of_lt_mul (by rwa [← pow_add, Nat.add_comm])
  simp only [roundShift]
  split <;> omega

/-- The double nearest to an integer. -/
def roundInt (n : JsonInt) : FiniteDouble where
  value := n.value.sign * roundShift n.value.natAbs (droppedBits n.value.natAbs) *
    (2 : ℚ) ^ droppedBits n.value.natAbs
  representable := by
    have hn : n.value.natAbs < 2 ^ 64 := by
      have := n.inRange
      omega
    have hlog : n.value.natAbs < 2 ^ (n.value.natAbs.log2 + 1) := Nat.lt_log2_self
    have hk : droppedBits n.value.natAbs ≤ 11 := by
      have : n.value.natAbs.log2 < 64 := by
        by_cases h0 : n.value.natAbs = 0
        · rw [h0]
          decide
        · exact (Nat.log2_lt h0).mpr hn
      simp only [droppedBits]
      omega
    have hle := roundShift_le (n := n.value.natAbs) (k := droppedBits n.value.natAbs)
      (lt_of_lt_of_le hlog (Nat.pow_le_pow_right (by decide) (by simp only [droppedBits]; omega)))
    generalize droppedBits n.value.natAbs = k at *
    generalize roundShift n.value.natAbs k = r at *
    have hsign : n.value.sign.natAbs ≤ 1 := by
      rcases Int.sign_trichotomy n.value with h | h | h <;> rw [h] <;> decide
    by_cases hr : r = 2 ^ 53
    · refine ⟨n.value.sign * 2 ^ 52, k + 1, ?_, by omega, by omega, ?_⟩
      · rw [Int.natAbs_mul]
        have : ((2 : ℤ) ^ 52).natAbs = 2 ^ 52 := by decide
        rw [this]
        omega
      · rw [hr, zpow_add₀ (by norm_num)]
        push_cast
        rw [zpow_natCast]
        ring
    · refine ⟨n.value.sign * r, k, ?_, by omega, by omega, ?_⟩
      · rw [Int.natAbs_mul, Int.natAbs_natCast]
        have : n.value.sign.natAbs * r ≤ 1 * r := Nat.mul_le_mul_right r hsign
        omega
      · push_cast
        rw [zpow_natCast]

/-- `get<double>()`. -/
def getDouble (j : Json) : Decode FiniteDouble :=
  match j.tree with
  | .float x => .ok x
  | .int n => .ok (roundInt n)
  | _ => .error .library

@[simp] theorem getDouble_float (x : FiniteDouble) : (float x).getDouble = .ok x := rfl

theorem getUInt64_ofUInt64 (x : UInt64) : (ofUInt64 x).getUInt64 = .ok x := by
  have hx : (x.toNat : ℤ) % 2 ^ 64 = x.toNat := Int.emod_eq_of_lt (by omega) (by
    have := x.toNat_lt
    omega)
  show Except.ok (UInt64.ofNat ((x.toNat : ℤ) % 2 ^ 64).toNat) = _
  rw [hx, Int.toNat_natCast, UInt64.ofNat_toNat]

theorem getUInt32_ofUInt32 (x : UInt32) : (ofUInt32 x).getUInt32 = .ok x := by
  have hx : (x.toNat : ℤ) % 2 ^ 32 = x.toNat := Int.emod_eq_of_lt (by omega) (by
    have := x.toNat_lt
    omega)
  show Except.ok (UInt32.ofNat ((x.toNat : ℤ) % 2 ^ 32).toNat) = _
  rw [hx, Int.toNat_natCast, UInt32.ofNat_toNat]

theorem getInt64_ofInt64 (x : Int64) : (ofInt64 x).getInt64 = .ok x := by
  show Except.ok (Int64.ofInt x.toInt) = _
  rw [Int64.ofInt_toInt]

theorem getInt32_ofInt32 (x : Int32) : (ofInt32 x).getInt32 = .ok x := by
  show Except.ok (Int32.ofInt x.toInt) = _
  rw [Int32.ofInt_toInt]

/-! ### Members -/

/-- `at`: the member of a name, an error without it. -/
def get (j : Json) (key : String) : Decode Json :=
  match j.field key with
  | some v => .ok v
  | none => .error .library

/-- A required member, decoded. -/
def read (decode : Json → Decode α) (j : Json) (key : String) : Decode α := do
  decode (← j.get key)

/-- An optional value, decoded when it is there. -/
def readPresent (decode : Json → Decode α) : Option Json → Decode (Option α)
  | some v => do return some (← decode v)
  | none => .ok none

/-- A member that is read only when the object contains it. -/
def readOptional (decode : Json → Decode α) (j : Json) (key : String) : Decode (Option α) :=
  readPresent decode (j.field key)

/-- A member that keeps the default when the value does not contain it. -/
def readOr (decode : Json → Decode α) (fallback : α) (j : Json) (key : String) : Decode α := do
  return (← j.readOptional decode key).getD fallback

/-- `value`: a member of an object with a default; any other value is an error. -/
def readDefault (decode : Json → Decode α) (fallback : α) (j : Json) (key : String) : Decode α :=
  if j.isObject then j.readOr decode fallback key else .error .library

/-- Everything a loop over the value visits, decoded in order. -/
def readItems (decode : Json → Decode α) (j : Json) : Decode (List α) := j.items.mapM decode

/-- The elements of an array, decoded in order; any other value is an error. -/
def readArray (decode : Json → Decode α) (j : Json) : Decode (List α) :=
  if j.isArray then j.items.mapM decode else .error .library

/-! ### Fields of an encoder -/

/-- A text that is left out when it is empty. -/
def nonempty (s : Bytes) : Option Json := if s.isEmpty then none else some (str s)

/-- A list that is left out when it is empty. -/
def nonemptyArray (items : List Json) : Option Json :=
  if items.isEmpty then none else some (array items)

/-- A list of texts. -/
def strings (l : List Bytes) : Json := array (l.map str)

/-! ### Reading back -/

theorem get_object (fields : List (String × Option Json)) (key : String) :
    (object fields).get key =
      match findField key fields with
      | some v => .ok v
      | none => .error .library := by
  rw [get, object_field]

theorem read_object (decode : Json → Decode α) (fields : List (String × Option Json))
    (key : String) :
    (object fields).read decode key =
      match findField key fields with
      | some v => decode v
      | none => .error .library := by
  rw [read, get_object]
  cases findField key fields <;> rfl

theorem readOptional_object (decode : Json → Decode α) (fields : List (String × Option Json))
    (key : String) :
    (object fields).readOptional decode key = readPresent decode (findField key fields) := by
  rw [readOptional, object_field]

theorem readOr_object (decode : Json → Decode α) (fallback : α)
    (fields : List (String × Option Json)) (key : String) :
    (object fields).readOr decode fallback key =
      (readPresent decode (findField key fields)).map (·.getD fallback) := by
  rw [readOr, readOptional_object]
  cases readPresent decode (findField key fields) <;> rfl

theorem readDefault_object (decode : Json → Decode α) (fallback : α)
    (fields : List (String × Option Json)) (key : String) :
    (object fields).readDefault decode fallback key =
      (readPresent decode (findField key fields)).map (·.getD fallback) := by
  rw [readDefault, isObject_object, if_pos rfl, readOr_object]

@[simp] theorem readPresent_none (decode : Json → Decode α) :
    readPresent decode none = .ok none := rfl

theorem readPresent_some (decode : Json → Decode α) (v : Json) :
    readPresent decode (some v) = (decode v).map some := by
  simp only [readPresent]
  cases decode v <;> rfl

/-- An optional value that was written is read back. -/
theorem readPresent_map {decode : Json → Decode α} {encode : α → Json} {o : Option α}
    (h : ∀ x ∈ o, decode (encode x) = .ok x) : readPresent decode (o.map encode) = .ok o := by
  cases o with
  | none => rfl
  | some x =>
      rw [Option.map_some, readPresent_some, h x rfl]
      rfl

theorem mapM_map {decode : Json → Decode α} {encode : α → Json} {l : List α}
    (h : ∀ x ∈ l, decode (encode x) = .ok x) : (l.map encode).mapM decode = .ok l := by
  induction l with
  | nil => rfl
  | cons x l ih =>
      rw [List.map_cons, List.mapM_cons, h x List.mem_cons_self,
        ih fun y hy => h y (List.mem_cons_of_mem _ hy)]
      rfl

/-- A list that was written is read back. -/
theorem readItems_map {decode : Json → Decode α} {encode : α → Json} {l : List α}
    (h : ∀ x ∈ l, decode (encode x) = .ok x) : (array (l.map encode)).readItems decode = .ok l := by
  rw [readItems, array_items, mapM_map h]

theorem readArray_map {decode : Json → Decode α} {encode : α → Json} {l : List α}
    (h : ∀ x ∈ l, decode (encode x) = .ok x) : (array (l.map encode)).readArray decode = .ok l := by
  rw [readArray, isArray_array, if_pos rfl, array_items, mapM_map h]

@[simp] theorem readItems_strings (l : List Bytes) : (strings l).readItems getString = .ok l :=
  readItems_map fun _ _ => rfl

@[simp] theorem readArray_strings (l : List Bytes) : (strings l).readArray getString = .ok l :=
  readArray_map fun _ _ => rfl

@[simp] theorem readPresent_string (o : Option Bytes) :
    readPresent getString (o.map str) = .ok o :=
  readPresent_map fun _ _ => rfl

@[simp] theorem readPresent_bool (o : Option Bool) : readPresent getBool (o.map bool) = .ok o :=
  readPresent_map fun _ _ => rfl

/-- A text that may have been left out comes back through the empty default. -/
@[simp] theorem readPresent_nonempty (s : Bytes) :
    (readPresent getString (nonempty s)).map (·.getD []) = .ok s := by
  cases s with
  | nil => rfl
  | cons c s => rfl

@[simp] theorem readPresent_nonemptyStrings (l : List Bytes) :
    (readPresent (readItems getString) (nonemptyArray (l.map str))).map (·.getD []) = .ok l := by
  cases l with
  | nil => rfl
  | cons s l =>
      show (readPresent (readItems getString) (some (strings (s :: l)))).map _ = _
      rw [readPresent_some, readItems_strings]
      rfl

/-- A list that may have been left out comes back through the empty default. -/
theorem readPresent_nonemptyArray {decode : Json → Decode (List α)} {encode : α → Json} {l : List α}
    (h : decode (array (l.map encode)) = .ok l) :
    (readPresent decode (nonemptyArray (l.map encode))).map (·.getD []) = .ok l := by
  cases l with
  | nil => rfl
  | cons x l =>
      show (readPresent decode (some (array ((x :: l).map encode)))).map _ = _
      rw [readPresent_some, h]
      rfl

end Json

end Sysal
