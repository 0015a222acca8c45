import Sysal.Foundation.Cuts
import Sysal.Parser.Accelerator
import Sysal.Parser.Numerals
import Sysal.Resolver.Inventory

/-!
# Spellings of a PCI address

An address is read from four hexadecimal numerals around the first dot and the last two colons before
it.  The two places that write an address write the same text, one of its spellings.

* `parsePciAddress_eq_some_iff`: the texts that are read, and as what;
* `parsePciAddress_pciText`: what is written is read back;
* `parsePciAddress_grammar`: both, with both writers.
-/

namespace Sysal

/-- The text `D:B:d.F` of an address: the dot is the first one, the colons are the last two before it,
and the parts are numerals between blanks whose values fit. -/
structure AddressText where
  domain : Bytes
  bus : Bytes
  device : Bytes
  function : Bytes
  domain_noDot : 46 ∉ domain
  bus_noDot : 46 ∉ bus
  device_noDot : 46 ∉ device
  bus_noColon : 58 ∉ bus
  device_noColon : 58 ∉ device
  domain_numeral : IsNumeral 16 (trim domain)
  bus_numeral : IsNumeral 16 (trim bus)
  device_numeral : IsNumeral 16 (trim device)
  function_numeral : IsNumeral 16 (trim function)
  domain_le : numeralValue 16 (trim domain) ≤ 0xffff
  bus_le : numeralValue 16 (trim bus) ≤ 0xff
  device_le : numeralValue 16 (trim device) ≤ 0xff
  function_le : numeralValue 16 (trim function) ≤ 0xff

namespace AddressText

def text (t : AddressText) : Bytes :=
  t.domain ++ 58 :: (t.bus ++ 58 :: (t.device ++ 46 :: t.function))

/-- The address with the numbers of a text. -/
structure Carries (t : AddressText) (a : PciAddress) : Prop where
  domain : a.domain.toNat = numeralValue 16 (trim t.domain)
  bus : a.bus.toNat = numeralValue 16 (trim t.bus)
  device : a.device.toNat = numeralValue 16 (trim t.device)
  function : a.function.toNat = numeralValue 16 (trim t.function)

/-- The numbers of a text fit an address. -/
theorem exists_carries (t : AddressText) : ∃ a, t.Carries a := by
  have hdomain := t.domain_le
  have hbus := t.bus_le
  have hdevice := t.device_le
  have hfunction := t.function_le
  refine ⟨⟨.ofNat (numeralValue 16 (trim t.domain)), .ofNat (numeralValue 16 (trim t.bus)),
    .ofNat (numeralValue 16 (trim t.device)), .ofNat (numeralValue 16 (trim t.function))⟩,
    ⟨?_, ?_, ?_, ?_⟩⟩
  · exact UInt16.toNat_ofNat_of_lt' (by simp [UInt16.size]; omega)
  · exact UInt8.toNat_ofNat_of_lt' (by simp [UInt8.size]; omega)
  · exact UInt8.toNat_ofNat_of_lt' (by simp [UInt8.size]; omega)
  · exact UInt8.toNat_ofNat_of_lt' (by simp [UInt8.size]; omega)

end AddressText

theorem parseHex_filter_eq_some {s : Bytes} {bound n : ℕ} (hbound : bound < 2 ^ 64) :
    (parseHex s).filter (· ≤ bound) = some n ↔
      IsNumeral 16 (trim s) ∧ numeralValue 16 (trim s) = n ∧ n ≤ bound := by
  rw [Option.filter_eq_some_iff, parseHex, parseNumeral_eq_some, decide_eq_true_eq]
  constructor
  · rintro ⟨⟨hnumeral, hvalue, -⟩, hle⟩
    exact ⟨hnumeral, hvalue, hle⟩
  · rintro ⟨hnumeral, hvalue, hle⟩
    exact ⟨⟨hnumeral, hvalue, by omega⟩, hle⟩

theorem parsePciAddress_eq_some_iff {s : Bytes} {a : PciAddress} :
    parsePciAddress s = some a ↔ ∃ t : AddressText, trim s = t.text ∧ t.Carries a := by
  simp only [parsePciAddress, Option.bind_eq_bind, Option.bind_eq_some_iff, Prod.exists,
    cut_eq_some_iff, rcut_eq_some_iff, parseHex_filter_eq_some (by decide : 255 < 2 ^ 64),
    parseHex_filter_eq_some (by decide : 65535 < 2 ^ 64), Option.pure_def, Option.some.injEq]
  constructor
  · rintro ⟨_, functionText, ⟨hs, hdot⟩, function, hfunction, _, deviceText, ⟨rfl, hdevice⟩, device,
      hdev, domainText, busText, ⟨rfl, hbus⟩, bus, hbusn, domain, hdomain, rfl⟩
    simp only [List.mem_append, List.mem_cons, not_or] at hdot
    refine ⟨⟨domainText, busText, deviceText, functionText, hdot.1.1, hdot.1.2.2, hdot.2.2, hbus,
      hdevice, hdomain.1, hbusn.1, hdev.1, hfunction.1, by omega, by omega, by omega, by omega⟩, ?_,
      ⟨?_, ?_, ?_, ?_⟩⟩
    · rw [hs, AddressText.text]
      simp only [List.append_assoc, List.cons_append]
    · exact (UInt16.toNat_ofNat_of_lt' (by simp [UInt16.size]; omega)).trans hdomain.2.1.symm
    · exact (UInt8.toNat_ofNat_of_lt' (by simp [UInt8.size]; omega)).trans hbusn.2.1.symm
    · exact (UInt8.toNat_ofNat_of_lt' (by simp [UInt8.size]; omega)).trans hdev.2.1.symm
    · exact (UInt8.toNat_ofNat_of_lt' (by simp [UInt8.size]; omega)).trans hfunction.2.1.symm
  · rintro ⟨t, hs, hdomain, hbus, hdevice, hfunction⟩
    refine ⟨t.domain ++ 58 :: t.bus ++ 58 :: t.device, t.function, ⟨?_, ?_⟩, a.function.toNat,
      ⟨t.function_numeral, hfunction.symm, hfunction ▸ t.function_le⟩, t.domain ++ 58 :: t.bus,
      t.device, ⟨rfl, t.device_noColon⟩, a.device.toNat,
      ⟨t.device_numeral, hdevice.symm, hdevice ▸ t.device_le⟩, t.domain, t.bus,
      ⟨rfl, t.bus_noColon⟩, a.bus.toNat, ⟨t.bus_numeral, hbus.symm, hbus ▸ t.bus_le⟩,
      a.domain.toNat, ⟨t.domain_numeral, hdomain.symm, hdomain ▸ t.domain_le⟩, ?_⟩
    · rw [hs, AddressText.text]
      simp only [List.append_assoc, List.cons_append]
    · simp [t.domain_noDot, t.bus_noDot, t.device_noDot]
    · simp

/-! ### Writing -/

/-- The byte of a digit is none of the separators. -/
theorem IsNumeral.not_separator {s : Bytes} (h : IsNumeral 16 s) : 46 ∉ s ∧ 58 ∉ s := by
  constructor
  · exact fun hmem => absurd (h.2 46 hmem) (by decide)
  · exact fun hmem => absurd (h.2 58 hmem) (by decide)

/-- The text of an address: four, two, two and at least one digit. -/
def canonicalText (a : PciAddress) : AddressText :=
  let part (width n : ℕ) := padZeros width (hexadecimal n)
  have numeral (width n : ℕ) : IsNumeral 16 (part width n) := (padded_spec width n).1
  have value (width n : ℕ) : numeralValue 16 (trim (part width n)) = n := by
    rw [(numeral width n).trim_eq, (padded_spec width n).2]
  have trimmed (width n : ℕ) : IsNumeral 16 (trim (part width n)) := by
    rw [(numeral width n).trim_eq]
    exact numeral width n
  { domain := part 4 a.domain.toNat
    bus := part 2 a.bus.toNat
    device := part 2 a.device.toNat
    function := part 0 a.function.toNat
    domain_noDot := (numeral 4 _).not_separator.1
    bus_noDot := (numeral 2 _).not_separator.1
    device_noDot := (numeral 2 _).not_separator.1
    bus_noColon := (numeral 2 _).not_separator.2
    device_noColon := (numeral 2 _).not_separator.2
    domain_numeral := trimmed 4 _
    bus_numeral := trimmed 2 _
    device_numeral := trimmed 2 _
    function_numeral := trimmed 0 _
    domain_le := by
      rw [value]
      exact Nat.le_of_lt_succ a.domain.toNat_lt
    bus_le := by
      rw [value]
      exact Nat.le_of_lt_succ a.bus.toNat_lt
    device_le := by
      rw [value]
      exact Nat.le_of_lt_succ a.device.toNat_lt
    function_le := by
      rw [value]
      exact Nat.le_of_lt_succ a.function.toNat_lt }

theorem canonicalText_carries (a : PciAddress) : (canonicalText a).Carries a := by
  have value (width n : ℕ) : n = numeralValue 16 (trim (padZeros width (hexadecimal n))) := by
    rw [(padded_spec width n).1.trim_eq, (padded_spec width n).2]
  exact ⟨value 4 _, value 2 _, value 2 _, value 0 _⟩

/-- Without blanks in its parts a text is not trimmed. -/
theorem AddressText.trim_text {t : AddressText} (hdomain : IsNumeral 16 t.domain)
    (hbus : IsNumeral 16 t.bus) (hdevice : IsNumeral 16 t.device)
    (hfunction : IsNumeral 16 t.function) : trim t.text = t.text := by
  refine trim_of_forall fun c hc => ?_
  simp only [AddressText.text, List.mem_append, List.mem_cons] at hc
  rcases hc with hc | rfl | hc | rfl | hc | rfl | hc
  · exact hdomain.not_isSpace c hc
  · decide
  · exact hbus.not_isSpace c hc
  · decide
  · exact hdevice.not_isSpace c hc
  · decide
  · exact hfunction.not_isSpace c hc

theorem trim_canonicalText (a : PciAddress) : trim (canonicalText a).text = (canonicalText a).text :=
  AddressText.trim_text (padded_spec 4 _).1 (padded_spec 2 _).1 (padded_spec 2 _).1
    (padded_spec 0 _).1

theorem pciText_eq (a : PciAddress) : AcceleratorParser.pciText a = (canonicalText a).text := by
  have hutf8 : utf8 ":" = [58] ∧ utf8 "." = [46] := by decide +kernel
  rw [AcceleratorParser.pciText, hutf8.1, hutf8.2]
  simp only [List.append_assoc, List.cons_append, List.nil_append]
  rfl

/-- Both writers write the same text. -/
theorem pciName_eq (a : PciAddress) : Inventory.pciName a = AcceleratorParser.pciText a := rfl

/-- What is written is read back. -/
theorem parsePciAddress_pciText (a : PciAddress) :
    parsePciAddress (AcceleratorParser.pciText a) = some a := by
  rw [parsePciAddress_eq_some_iff, pciText_eq]
  exact ⟨canonicalText a, trim_canonicalText a, canonicalText_carries a⟩

theorem pciText_injective : Function.Injective AcceleratorParser.pciText := by
  intro a b h
  have hread := parsePciAddress_pciText a
  rw [h, parsePciAddress_pciText b] at hread
  exact (Option.some.inj hread).symm

/-- **The grammar of PCI addresses.**  A text is read exactly when it is the text of an address, and as
the address with its numbers; each of the two writers writes a text that is read back as what was
written, so different addresses have different texts and the writers agree with each other. -/
theorem parsePciAddress_grammar :
    (∀ s a, parsePciAddress s = some a ↔ ∃ t : AddressText, trim s = t.text ∧ t.Carries a) ∧
      (∀ a, parsePciAddress (AcceleratorParser.pciText a) = some a) ∧
      (∀ a, parsePciAddress (Inventory.pciName a) = some a) ∧
      Function.Injective AcceleratorParser.pciText ∧ Function.Injective Inventory.pciName ∧
      ∀ a, Inventory.pciName a = AcceleratorParser.pciText a :=
  ⟨fun _ _ => parsePciAddress_eq_some_iff, parsePciAddress_pciText, parsePciAddress_pciText,
    pciText_injective, pciText_injective, pciName_eq⟩

end Sysal
