import Sysal.Parser.Pci
import Sysal.Parser.PciAddresses

/-!
# Lines of `lspci`

A line `address class [code]: name [vendor:device] trailing` is cut at the first `]: ` and at the last
opening bracket.  The name comes back when those are the ones behind the code and in front of the pair
of numbers.

* `lspciName_append`, `lspciName_bracket`: what precedes the last bracket;
* `LspciLine.cutSub_rest`: where a line is cut;
* `parseLspciLine_iff`: the lines that are read as they are meant.
-/

namespace Sysal.PciParser

open Sysal

/-- A bracketed pair of hexadecimal numbers occurs. -/
def HasHexPair (text : Bytes) : Prop :=
  ∃ before vendor device after, text = before ++ 91 :: (vendor ++ 58 :: (device ++ 93 :: after)) ∧
    IsNumeral 16 vendor ∧ IsNumeral 16 device

/-- A hexadecimal number of at most so many bits. -/
structure HexField (bits : ℕ) where
  text : Bytes
  numeral : IsNumeral 16 text
  value_lt : numeralValue 16 text < 2 ^ bits

namespace HexField

variable {bits : ℕ} (field : HexField bits)

theorem not_mem {c : UInt8} (hc : digitValue 16 c = none) : c ∉ field.text := by
  intro hmem
  have := field.numeral.2 c hmem
  rw [hc] at this
  cases this

theorem closedEnds : ClosedEnds field.text :=
  ClosedEnds.of_forall field.numeral.1 field.numeral.not_isSpace

theorem trim_text : trim field.text = field.text := field.numeral.trim_eq

theorem parseHex (h : bits ≤ 64) : Sysal.parseHex field.text = some (numeralValue 16 field.text) :=
  field.numeral.parseNumeral (field.value_lt.trans_le (Nat.pow_le_pow_right (by decide) h))

end HexField

/-- The parts of a line. -/
structure LspciLine where
  domain : Option (HexField 16)
  bus : HexField 8
  device : HexField 8
  function : HexField 8
  className : Bytes
  code : HexField 64
  name : Bytes
  vendorId : HexField 64
  deviceId : HexField 64
  trailing : Bytes
  className_noSeparator : ¬ utf8 "]: " <:+: className
  name_ne_nil : name ≠ []
  name_trimmed : trim name = name
  name_noPair : ¬ HasHexPair name
  trailing_noPair : ¬ HasHexPair trailing

namespace LspciLine

variable (line : LspciLine)

/-- `B:d.F`. -/
def slot : Bytes := line.bus.text ++ 58 :: (line.device.text ++ 46 :: line.function.text)

/-- The address as it is written. -/
def address : Bytes :=
  match line.domain with
  | some domain => domain.text ++ 58 :: line.slot
  | none => line.slot

/-- The address with its domain. -/
def normalized : Bytes :=
  match line.domain with
  | some domain => domain.text ++ 58 :: line.slot
  | none => utf8 "0000:" ++ line.slot

/-- What follows the code. -/
def tail : Bytes :=
  line.name ++ 32 :: 91 :: (line.vendorId.text ++ 58 :: (line.deviceId.text ++ 93 ::
    32 :: line.trailing))

def text : Bytes :=
  line.address ++ 32 :: (line.className ++ 32 :: 91 :: line.code.text ++ (utf8 "]: " ++ line.tail))

/-- The trailing text without the blanks at its end. -/
def kept : Bytes := (32 :: line.trailing).rdropWhile isSpace

/-- What follows the code in the trimmed line. -/
def trimmedTail : Bytes :=
  line.name ++ 32 :: 91 :: (line.vendorId.text ++ 58 :: (line.deviceId.text ++ 93 :: line.kept))

/-- What follows the address in the trimmed line. -/
def rest : Bytes :=
  line.className ++ 32 :: 91 :: line.code.text ++ (utf8 "]: " ++ line.trimmedTail)

/-! ### The address -/

theorem slot_not_mem {c : UInt8} (hc : digitValue 16 c = none) (hcolon : c ≠ 58) (hdot : c ≠ 46) :
    c ∉ line.slot := by
  simp [slot, line.bus.not_mem hc, line.device.not_mem hc, line.function.not_mem hc, hcolon, hdot]

theorem normalize_address : normalizeLspciAddress line.address = line.normalized := by
  have hcolon : digitValue 16 58 = none := by decide
  rw [normalizeLspciAddress, address, normalized]
  rcases line.domain with _ | domain
  · dsimp only
    rw [slot, cut_append (line.bus.not_mem hcolon)]
    have hrest : 58 ∉ line.device.text ++ 46 :: line.function.text := by
      simp [line.device.not_mem hcolon, line.function.not_mem hcolon]
    dsimp only
    rw [if_neg hrest]
  · dsimp only
    rw [cut_append (domain.not_mem hcolon)]
    dsimp only
    rw [if_pos (by simp [slot])]

/-- The zero domain. -/
def zeroDomain : HexField 16 where
  text := utf8 "0000"
  numeral := by
    have hutf8 : utf8 "0000" = [48, 48, 48, 48] := by decide +kernel
    rw [hutf8]
    exact ⟨by simp, by decide +kernel⟩
  value_lt := by decide +kernel

/-- The normalised address is the text of an address. -/
theorem parsePciAddress_normalized : ∃ a, parsePciAddress line.normalized = some a := by
  have hdot : digitValue 16 46 = none := by decide
  have hcolon : digitValue 16 58 = none := by decide
  obtain ⟨domain, hdomain⟩ : ∃ domain : HexField 16,
      line.normalized = domain.text ++ 58 :: line.slot := by
    rw [normalized]
    rcases line.domain with _ | domain
    · refine ⟨zeroDomain, ?_⟩
      have hutf8 : utf8 "0000:" = utf8 "0000" ++ [58] := by decide +kernel
      rw [hutf8, List.append_assoc]
      rfl
    · exact ⟨domain, rfl⟩
  have hvalue {bits : ℕ} (field : HexField bits) :
      IsNumeral 16 (trim field.text) ∧ numeralValue 16 (trim field.text) < 2 ^ bits := by
    rw [field.trim_text]
    exact ⟨field.numeral, field.value_lt⟩
  let t : AddressText :=
    { domain := domain.text
      bus := line.bus.text
      device := line.device.text
      function := line.function.text
      domain_noDot := domain.not_mem hdot
      bus_noDot := line.bus.not_mem hdot
      device_noDot := line.device.not_mem hdot
      bus_noColon := line.bus.not_mem hcolon
      device_noColon := line.device.not_mem hcolon
      domain_numeral := (hvalue domain).1
      bus_numeral := (hvalue line.bus).1
      device_numeral := (hvalue line.device).1
      function_numeral := (hvalue line.function).1
      domain_le := Nat.le_of_lt_succ (hvalue domain).2
      bus_le := Nat.le_of_lt_succ (hvalue line.bus).2
      device_le := Nat.le_of_lt_succ (hvalue line.device).2
      function_le := Nat.le_of_lt_succ (hvalue line.function).2 }
  obtain ⟨a, ha⟩ := t.exists_carries
  refine ⟨a, parsePciAddress_eq_some_iff.mpr ⟨t, ?_, ha⟩⟩
  rw [hdomain]
  exact AddressText.trim_text (t := t) domain.numeral line.bus.numeral line.device.numeral
    line.function.numeral

/-! ### The cuts -/

theorem address_closedEnds : ClosedEnds line.address := by
  have hslot : ClosedEnds line.slot := by
    have h := line.bus.closedEnds.append line.function.closedEnds (58 :: (line.device.text ++ [46]))
    rw [List.cons_append, List.append_assoc, List.singleton_append] at h
    exact h
  rw [address]
  rcases line.domain with _ | domain
  · exact hslot
  · simpa using domain.closedEnds.append hslot [58]

theorem address_not_mem {c : UInt8} (hc : digitValue 16 c = none) (hcolon : c ≠ 58) (hdot : c ≠ 46) :
    c ∉ line.address := by
  have hslot := line.slot_not_mem hc hcolon hdot
  rw [address]
  rcases line.domain with _ | domain
  · exact hslot
  · simp [domain.not_mem hc, hcolon, hslot]

theorem bracket_mem_kept : 91 ∈ line.kept ↔ 91 ∈ line.trailing := by
  rw [kept, mem_rdropWhile_isSpace (by decide)]
  simp

/-- The line is cut behind the address. -/
theorem cut_text : Bytes.cut (trim line.text) 32 = some (line.address, line.rest) := by
  have hbracket : ClosedEnds [93] := ⟨⟨93, [], rfl, by decide⟩, ⟨[], 93, rfl, by decide⟩⟩
  have hclosed := line.address_closedEnds.append hbracket
    (32 :: (line.className ++ 32 :: 91 :: line.code.text ++ (utf8 "]: " ++ (line.name ++
      32 :: 91 :: (line.vendorId.text ++ 58 :: line.deviceId.text)))))
  have htrim := hclosed.trim_append (32 :: line.trailing)
  have htext : trim line.text = line.address ++ 32 :: line.rest := by
    simpa [text, tail, rest, trimmedTail, kept] using htrim
  rw [htext, cut_append (line.address_not_mem (by decide) (by decide) (by decide))]

/-- The class ends like a separator. -/
def ClassEndsOpen : Prop := ∃ init, line.className = init ++ [93, 58]

theorem separator_eq : utf8 "]: " = [93, 58, 32] := by decide +kernel

/-- Where a separator in `x ++ d :: more` ends. -/
theorem separator_start {x more right : Bytes} {d : UInt8} (hne : x ≠ [])
    (h : x ++ d :: more = [93, 58, 32] ++ right) :
    (x = [93] ∧ d = 58) ∨ (x = [93, 58] ∧ d = 32) ∨ [93, 58, 32] <+: x := by
  rcases x with _ | ⟨a, _ | ⟨b, _ | ⟨c, x⟩⟩⟩
  · exact absurd rfl hne
  · simp at h
    exact Or.inl ⟨by rw [h.1], h.2.1⟩
  · simp at h
    exact Or.inr (Or.inl ⟨by rw [h.1, h.2.1], h.2.2.1⟩)
  · simp at h
    exact Or.inr (Or.inr ⟨x, by rw [h.1, h.2.1, h.2.2.1]; rfl⟩)

/-- An earlier occurrence of the separator starts in the text in front of the first one. -/
theorem exists_earlier {left right left' right' : Bytes}
    (h : left ++ right = left' ++ ([93, 58, 32] ++ right')) (hlt : left'.length < left.length) :
    ∃ x, x ≠ [] ∧ left = left' ++ x ∧ x ++ right = [93, 58, 32] ++ right' := by
  rcases List.append_eq_append_iff.mp h with ⟨x, hx, -⟩ | ⟨x, hx, hright⟩
  · rw [hx, List.length_append] at hlt
    omega
  · refine ⟨x, ?_, hx, hright.symm⟩
    rintro rfl
    rw [hx, List.append_nil] at hlt
    omega

theorem code_noBracket : 93 ∉ 32 :: 91 :: line.code.text := by
  simp [line.code.not_mem (c := 93) (by decide)]

/-- The line is cut behind the code. -/
theorem cutSub_rest (h : ¬ line.ClassEndsOpen) : Bytes.cutSub line.rest (utf8 "]: ") =
    some (line.className ++ 32 :: 91 :: line.code.text, line.trimmedTail) := by
  have hnone := line.className_noSeparator
  rw [separator_eq] at hnone
  rw [rest, separator_eq]
  refine cutSub_append fun left' right' heq => ?_
  by_contra hlt
  obtain ⟨x, hne, hleft, hx⟩ := exists_earlier heq (Nat.lt_of_not_le hlt)
  rcases List.append_eq_append_iff.mp hleft with ⟨y, -, hcode⟩ | ⟨y, hclass, hcode⟩
  · -- not in the code: it has no bracket of this kind
    obtain ⟨c, x, rfl⟩ := List.exists_cons_of_ne_nil hne
    have hc : c = 93 := by simpa using congrArg List.head? hx
    exact line.code_noBracket (hcode ▸ hc ▸ List.mem_append_right y List.mem_cons_self)
  · -- and in the class only at its end
    have hy : y ≠ [] := by
      rintro rfl
      rw [hcode] at hx
      simp at hx
    rw [hcode] at hx
    simp only [List.append_assoc, List.cons_append] at hx
    rcases separator_start hy hx with ⟨-, hd⟩ | ⟨hy, -⟩ | hy
    · exact absurd hd (by decide)
    · exact h ⟨left', hy ▸ hclass⟩
    · exact hnone (hclass ▸ hy.isInfix.trans (List.suffix_append left' y).isInfix)

/-- With a class that ends like a separator the line is cut in front of the code. -/
theorem cutSub_rest_open {init : Bytes} (h : line.className = init ++ [93, 58]) :
    Bytes.cutSub line.rest (utf8 "]: ") =
      some (init, 91 :: line.code.text ++ (utf8 "]: " ++ line.trimmedTail)) := by
  have hnone := line.className_noSeparator
  rw [separator_eq, h] at hnone
  have hrest : line.rest = init ++ (utf8 "]: " ++
      (91 :: line.code.text ++ (utf8 "]: " ++ line.trimmedTail))) := by
    rw [rest, h, separator_eq]
    simp
  rw [hrest, separator_eq]
  refine cutSub_append fun left' right' heq => ?_
  by_contra hlt
  obtain ⟨x, hne, hinit, hx⟩ := exists_earlier heq (Nat.lt_of_not_le hlt)
  rcases separator_start hne hx with ⟨-, hd⟩ | ⟨-, hd⟩ | hstart
  · exact absurd hd (by decide)
  · exact absurd hd (by decide)
  · refine hnone (hstart.isInfix.trans ?_)
    rw [hinit]
    exact ⟨left', [93, 58], rfl⟩

end LspciLine

/-! ### The name -/

/-- A pair behind the last bracket. -/
theorem lspciName_append {front after : Bytes} (vendor device : HexField 64) (hafter : 91 ∉ after) :
    lspciName (front ++ 91 :: (vendor.text ++ 58 :: (device.text ++ 93 :: after))) =
      if (trim front).isEmpty then none else some (trim front) := by
  have hlast : 91 ∉ vendor.text ++ 58 :: (device.text ++ 93 :: after) := by
    simp [vendor.not_mem (c := 91) (by decide), device.not_mem (c := 91) (by decide), hafter]
  have hinner : vendor.text ++ 58 :: (device.text ++ 93 :: after) =
      (vendor.text ++ 58 :: device.text) ++ 93 :: after := by
    simp
  have hclose : 93 ∉ vendor.text ++ 58 :: device.text := by
    simp [vendor.not_mem (c := 93) (by decide), device.not_mem (c := 93) (by decide)]
  rw [lspciName, rcut_append hlast]
  simp only [Option.bind_eq_bind, Option.bind_some]
  rw [hinner, cut_append hclose]
  simp only [Option.bind_some]
  rw [cut_append (vendor.not_mem (by decide))]
  simp only [Option.bind_some, vendor.parseHex le_rfl, device.parseHex le_rfl]

/-- With a bracket in what follows, everything in front of that bracket counts as name. -/
theorem lspciName_bracket {front after name : Bytes} (hafter : 91 ∈ after)
    (h : lspciName (front ++ after) = some name) : ∃ more, name = trim (front ++ more) := by
  obtain ⟨left, right, rfl, hright⟩ : ∃ left right, after = left ++ 91 :: right ∧ 91 ∉ right := by
    cases hcut : Bytes.rcut after 91 with
    | none => exact absurd hafter (rcut_eq_none.mp hcut)
    | some p => exact ⟨p.1, p.2, rcut_eq_some_iff.mp hcut⟩
  refine ⟨left, ?_⟩
  rw [lspciName, ← List.append_assoc, rcut_append hright] at h
  simp only [Option.bind_eq_bind, Option.bind_some, Option.bind_eq_some_iff] at h
  obtain ⟨-, -, -, -, -, -, -, -, h⟩ := h
  split at h
  · cases h
  · exact (Option.some.inj h).symm

/-- A text is not shorter than its closed part. -/
theorem length_le_trim {a : Bytes} (ha : ClosedEnds a) (b : Bytes) :
    a.length ≤ (trim (a ++ b)).length := by
  rw [ha.trim_append, List.length_append]
  omega

theorem LspciLine.name_closedEnds (line : LspciLine) : ClosedEnds line.name :=
  ClosedEnds.of_trim line.name_ne_nil line.name_trimmed

theorem parseLspciLine_text (line : LspciLine) :
    parseLspciLine line.text = (Bytes.cutSub line.rest (utf8 "]: ")).bind fun p =>
      (lspciName p.2).bind fun name => some (line.normalized, name) := by
  obtain ⟨a, ha⟩ := line.parsePciAddress_normalized
  rw [parseLspciLine, line.cut_text]
  simp only [Option.bind_eq_bind, Option.bind_some, line.normalize_address, ha]
  rfl

/-- A name is not longer than what surely precedes the last bracket. -/
theorem length_le_of_lspciName {front after name : Bytes} (hfront : ClosedEnds front)
    (hafter : 91 ∈ after) (h : lspciName (front ++ after) = some name) :
    front.length ≤ name.length := by
  obtain ⟨more, rfl⟩ := lspciName_bracket hafter h
  exact length_le_trim hfront more

/-- **A line is read as it is meant exactly when its class does not end like a separator and its trailing
text has no opening bracket.** -/
theorem parseLspciLine_iff (line : LspciLine) :
    parseLspciLine line.text = some (line.normalized, line.name) ↔
      ¬ line.ClassEndsOpen ∧ 91 ∉ line.trailing := by
  have hread {p : Bytes × Bytes} (hcut : Bytes.cutSub line.rest (utf8 "]: ") = some p) :
      parseLspciLine line.text = some (line.normalized, line.name) ↔
        lspciName p.2 = some line.name := by
    rw [parseLspciLine_text, hcut, Option.bind_some]
    cases lspciName p.2 <;> simp
  have hbracket (bytes : Bytes) : ClosedEnds (91 :: bytes ++ line.name) :=
    ClosedEnds.append ⟨⟨91, [], rfl, by decide⟩, ⟨[], 91, rfl, by decide⟩⟩ line.name_closedEnds bytes
  by_cases hopen : line.ClassEndsOpen
  · -- the name starts at the bracket of the code
    refine iff_of_false (fun h => ?_) (fun h => h.1 hopen)
    obtain ⟨init, hclass⟩ := hopen
    have hname := (hread (line.cutSub_rest_open hclass)).mp h
    have hfront := hbracket (line.code.text ++ utf8 "]: ")
    have hafter : 91 ∈ 32 :: 91 :: (line.vendorId.text ++ 58 :: (line.deviceId.text ++
        93 :: line.kept)) := by
      simp
    have hlength := length_le_of_lspciName hfront hafter (by
      simpa [LspciLine.trimmedTail] using hname)
    simp at hlength
    omega
  · rw [hread (line.cutSub_rest hopen), and_iff_right hopen, ← line.bracket_mem_kept]
    by_cases hkept : 91 ∈ line.kept
    · -- the name ends behind the pair
      refine iff_of_false (fun h => ?_) (fun h => h hkept)
      have hfront : ClosedEnds (line.name ++ (32 :: 91 :: (line.vendorId.text ++
          58 :: line.deviceId.text) ++ [93])) :=
        line.name_closedEnds.append ⟨⟨93, [], rfl, by decide⟩, ⟨[], 93, rfl, by decide⟩⟩ _
      have hlength := length_le_of_lspciName hfront hkept (by
        simpa [LspciLine.trimmedTail] using h)
      simp at hlength
    · refine iff_of_true ?_ hkept
      have htail : line.trimmedTail = (line.name ++ [32]) ++ 91 :: (line.vendorId.text ++
          58 :: (line.deviceId.text ++ 93 :: line.kept)) := by
        simp [LspciLine.trimmedTail]
      have hname : trim (line.name ++ [32]) = line.name := by
        rw [line.name_closedEnds.trim_append]
        simp [isSpace]
      rw [htail, lspciName_append _ _ hkept, hname]
      simp [line.name_ne_nil]

/-- Without a colon there is no pair. -/
theorem not_hasHexPair {text : Bytes} (h : 58 ∉ text) : ¬ HasHexPair text := by
  rintro ⟨before, vendor, device, after, rfl, -⟩
  simp at h

/-- The output of `lspci` with a programming interface. -/
def progIfLine : LspciLine where
  domain := none
  bus := ⟨[48, 49], by unfold IsNumeral; decide +kernel, by decide +kernel⟩
  device := ⟨[48, 48], by unfold IsNumeral; decide +kernel, by decide +kernel⟩
  function := ⟨[48], by unfold IsNumeral; decide +kernel, by decide +kernel⟩
  className := utf8 "NVM controller"
  code := ⟨[48, 49, 48, 56], by unfold IsNumeral; decide +kernel, by decide +kernel⟩
  name := utf8 "Samsung SSD"
  vendorId := ⟨[49, 52, 52, 100], by unfold IsNumeral; decide +kernel, by decide +kernel⟩
  deviceId := ⟨[97, 56, 48, 56], by unfold IsNumeral; decide +kernel, by decide +kernel⟩
  trailing := utf8 "(prog-if 02 [NVM Express])"
  className_noSeparator := by decide +kernel
  name_ne_nil := by decide +kernel
  name_trimmed := by decide +kernel
  name_noPair := not_hasHexPair (by decide +kernel)
  trailing_noPair := not_hasHexPair (by decide +kernel)

example : progIfLine.text =
    utf8 "01:00.0 NVM controller [0108]: Samsung SSD [144d:a808] (prog-if 02 [NVM Express])" := by
  decide +kernel

/-- The bracket of the programming interface is taken for the one of the pair. -/
theorem parseLspciLine_progIf :
    ¬ ∀ line : LspciLine, parseLspciLine line.text = some (line.normalized, line.name) := by
  intro h
  have hline := h progIfLine
  revert hline
  decide +kernel

end Sysal.PciParser
