import Mathlib.Data.List.Basic
import Mathlib.Data.List.DropRight
import Mathlib.Tactic.Linarith

/-!
# Byte strings and the standard-library text operations on them

A `std::string` is a sequence of bytes with no encoding attached, so a byte string is a list of
`UInt8`.  The searches return the part of the string they point at instead of a position: `findFrom`
is the suffix `s.substr(s.find(pat))`, `rfindFrom` the suffix at the last occurrence, and `cut`
splits at the first occurrence of one byte.  That keeps every result a sublist of the input, which is
what the later induction arguments need.

`fromChars` is `std::from_chars` on an unsigned 64-bit target: the longest prefix of digits of the
base, an error when there is none or when the value does not fit.
-/

namespace Sysal

/-- A byte string: the contents of a `std::string`. -/
abbrev Bytes := List UInt8

instance instLawfulBEqBytes : LawfulBEq Bytes := inferInstance

/-- The bytes of a literal, encoded in UTF-8 as the compiler stores it. -/
def utf8 (s : String) : Bytes := s.toUTF8.data.toList

/-- `std::isspace` in the C locale: blank, or one of the five control blanks. -/
def isSpace (c : UInt8) : Bool := c == 32 || (9 ≤ c && c ≤ 13)

/-- `std::isdigit`. -/
def isDigit (c : UInt8) : Bool := 48 ≤ c && c ≤ 57

/-- `std::tolower` in the C locale. -/
def toLower (c : UInt8) : UInt8 := if 65 ≤ c && c ≤ 90 then c + 32 else c

/-! ### Searching -/

/-- `s.starts_with(pat)`. -/
def Bytes.startsWith (s pat : Bytes) : Bool := pat.isPrefixOf s

/-- `s.ends_with(pat)`. -/
def Bytes.endsWith (s pat : Bytes) : Bool := pat.isSuffixOf s

/-- The suffix of `s` at the first occurrence of `pat`. -/
def Bytes.findFrom (s pat : Bytes) : Option Bytes := s.tails.find? (pat.isPrefixOf ·)

/-- The suffix of `s` at the last occurrence of `pat`. -/
def Bytes.rfindFrom (s pat : Bytes) : Option Bytes := s.tails.reverse.find? (pat.isPrefixOf ·)

/-- Whether `pat` occurs in `s`. -/
def Bytes.hasSub (s pat : Bytes) : Bool := (Bytes.findFrom s pat).isSome

/-- What follows the first occurrence of `pat`. -/
def Bytes.after (s pat : Bytes) : Option Bytes := (Bytes.findFrom s pat).map (·.drop pat.length)

/-- The parts before and after the first occurrence of the byte `c`. -/
def Bytes.cut (s : Bytes) (c : UInt8) : Option (Bytes × Bytes) :=
  if c ∈ s then some (s.takeWhile (· ≠ c), (s.dropWhile (· ≠ c)).tail) else none

/-- The parts before and after the first occurrence of `pat`. -/
def Bytes.cutSub (s pat : Bytes) : Option (Bytes × Bytes) :=
  (Bytes.findFrom s pat).map fun rest => (s.take (s.length - rest.length), rest.drop pat.length)

/-- The parts before and after the last occurrence of the byte `c`. -/
def Bytes.rcut (s : Bytes) (c : UInt8) : Option (Bytes × Bytes) :=
  (Bytes.cut s.reverse c).map fun p => (p.2.reverse, p.1.reverse)

/-! ### Trimming and splitting -/

/-- Blanks removed at both ends. -/
def trim (s : Bytes) : Bytes := (s.dropWhile isSpace).rdropWhile isSpace

/-- The pieces between occurrences of the delimiter; always at least one. -/
def split (s : Bytes) (delimiter : UInt8) : List Bytes := s.splitOn delimiter

/-- The words between blanks: what `std::istringstream >> word` reads one after the other. -/
def words (s : Bytes) : List Bytes := (s.splitOnP isSpace).filter (· ≠ [])

/-- Trimming returns a contiguous part of the string. -/
theorem trim_isInfix (s : Bytes) : trim s <:+: s :=
  (List.rdropWhile_prefix isSpace (s.dropWhile isSpace)).isInfix.trans
    (List.dropWhile_suffix isSpace).isInfix

/-! ### Numerals -/

/-- The value of a digit of base ten or sixteen, either case. -/
def digitValue (base : ℕ) (c : UInt8) : Option ℕ :=
  let v := if isDigit c then some (c.toNat - 48)
    else if 97 ≤ c && c ≤ 102 then some (c.toNat - 87)
    else if 65 ≤ c && c ≤ 70 then some (c.toNat - 55)
    else none
  v.filter (· < base)

/-- The value of a digit string; bytes that are no digit count as zero and never occur. -/
def numeralValue (base : ℕ) (digits : Bytes) : ℕ :=
  digits.foldl (fun acc c => acc * base + (digitValue base c).getD 0) 0

/-- `std::from_chars` into an unsigned 64-bit integer: the value and the unread rest, or an error
when no digit is read or the value is out of range. -/
def fromChars (base : ℕ) (s : Bytes) : Option (ℕ × Bytes) :=
  let digits := s.takeWhile (fun c => (digitValue base c).isSome)
  if digits.isEmpty then none
  else if numeralValue base digits < 2 ^ 64 then
    some (numeralValue base digits, s.dropWhile (fun c => (digitValue base c).isSome))
  else none

theorem fromChars_lt {base : ℕ} {s rest : Bytes} {v : ℕ} (h : fromChars base s = some (v, rest)) :
    v < 2 ^ 64 := by
  simp only [fromChars] at h
  split at h
  · cases h
  · split at h
    · rename_i hlt
      simp only [Option.some.injEq, Prod.mk.injEq] at h
      exact h.1 ▸ hlt
    · cases h

/-- `std::to_string` of an unsigned number. -/
def decimal (n : ℕ) : Bytes := (Nat.toDigits 10 n).map fun c => c.toNat.toUInt8

end Sysal
