import Sysal.Model.RawStore

/-!
# Text helpers shared by the parsers

`parse_utils.cpp`: key-value lines, numbers, hardware texts, PCI addresses and device numbers.
-/

namespace Sysal

/-- A `key: value` line; without a separator the whole line is the key. -/
def parseKv (line : Bytes) (separator : UInt8) : Bytes × Bytes :=
  match Bytes.cut line separator with
  | some (key, value) => (trim key, trim value)
  | none => (trim line, [])

/-- A trimmed text that is read completely as one numeral. -/
def parseNumeral (base : ℕ) (s : Bytes) : Option ℕ :=
  match fromChars base (trim s) with
  | some (value, []) => some value
  | _ => none

/-- `parse_uint`: a decimal numeral below `2 ^ 64`, blanks around it ignored. -/
def parseUint (s : Bytes) : Option ℕ := parseNumeral 10 s

/-- `parse_hex`: a hexadecimal numeral below `2 ^ 64`, blanks around it ignored. -/
def parseHex (s : Bytes) : Option ℕ := parseNumeral 16 s

theorem parseNumeral_lt {base : ℕ} {s : Bytes} {v : ℕ} (h : parseNumeral base s = some v) :
    v < 2 ^ 64 := by
  simp only [parseNumeral] at h
  split at h
  · rename_i w heq
    simp only [Option.some.injEq] at h
    exact h ▸ fromChars_lt heq
  · cases h

/-- A number that was read fits the 64-bit integer it is stored in. -/
theorem parseUint_lt {s : Bytes} {v : ℕ} (h : parseUint s = some v) : v < 2 ^ 64 :=
  parseNumeral_lt h

example : parseUint (utf8 " 0042\n") = some 42 := by decide
example : parseUint (utf8 "4 2") = none := by decide
example : parseHex (utf8 "fF") = some 255 := by decide

/-- The largest value of a 32-bit field. -/
def maxUInt32 : ℕ := 2 ^ 32 - 1

/-- The largest value of a 64-bit field. -/
def maxUInt64 : ℕ := 2 ^ 64 - 1

/-- A number that fits a 32-bit field: the guard most call sites put behind `parse_uint`. -/
def parseUint32 (s : Bytes) : Option UInt32 :=
  match parseUint s with
  | some v => if v ≤ maxUInt32 then some (UInt32.ofNat v) else none
  | none => none

/-- A 32-bit number is the number that was read. -/
theorem parseUint32_eq_some {s : Bytes} {v : UInt32} :
    parseUint32 s = some v ↔ parseUint s = some v.toNat := by
  have hv : v.toNat < 2 ^ 32 := v.toNat_lt
  rw [parseUint32]
  cases parseUint s with
  | none => simp
  | some n =>
      dsimp only
      split
      · rename_i hle
        rw [maxUInt32] at hle
        rw [Option.some_inj, Option.some_inj]
        constructor
        · rintro rfl
          rw [UInt32.toNat_ofNat', Nat.mod_eq_of_lt (by omega)]
        · rintro rfl
          exact UInt32.ofNat_toNat
      · rename_i hgt
        rw [maxUInt32] at hgt
        constructor
        · intro h
          cases h
        · intro h
          rw [Option.some_inj] at h
          omega

/-- The texts firmware stores where it has nothing to say. -/
def hardwarePlaceholders : List Bytes :=
  [utf8 "no dimm", utf8 "unspecified", utf8 "not provided", utf8 "unknown", utf8 "not specified",
   utf8 "not applicable", utf8 "none", utf8 "n/a", utf8 "default string",
   utf8 "system manufacturer", utf8 "system product name", utf8 "system version",
   utf8 "base board product name", utf8 "base board version", utf8 "chassis version",
   utf8 "to be filled by o.e.m.", utf8 "to be filled by oem", utf8 "system serial number",
   utf8 "00000000-0000-0000-0000-000000000000", utf8 "ffffffff-ffff-ffff-ffff-ffffffffffff"]

/-- A firmware text, or nothing when it is one of the placeholders. -/
def hardwareText (s : Bytes) : Bytes :=
  if (trim s).map toLower ∈ hardwarePlaceholders then [] else trim s

/-- `major:minor`. -/
def parseDeviceNumber (s : Bytes) : Option DeviceNumber := do
  let (left, right) ← Bytes.cut s 58
  let major ← parseUint32 left
  let minor ← parseUint32 right
  return { major, minor }

/-- `domain:bus:device.function`, every part hexadecimal. -/
def parsePciAddress (s : Bytes) : Option PciAddress := do
  let (beforeDot, funcStr) ← Bytes.cut (trim s) 46
  let func ← (parseHex funcStr).filter (· ≤ 255)
  let (beforeDevice, deviceStr) ← Bytes.rcut beforeDot 58
  let device ← (parseHex deviceStr).filter (· ≤ 255)
  let (domainStr, busStr) ← Bytes.rcut beforeDevice 58
  let bus ← (parseHex busStr).filter (· ≤ 255)
  let domain ← (parseHex domainStr).filter (· ≤ 65535)
  return { domain := .ofNat domain, bus := .ofNat bus, device := .ofNat device,
           function := .ofNat func }

example : parsePciAddress (utf8 "0000:3b:1f.7") = some ⟨0, 0x3b, 0x1f, 7⟩ := by decide
example : parsePciAddress (utf8 "3b:00.0") = none := by decide

/-- The last PCI address among the segments of a path. -/
def lastPciAddress (path : Bytes) : Option PciAddress :=
  ((split path 47).filterMap parsePciAddress).getLast?

/-- Kilobytes to bytes, in 64-bit arithmetic. -/
def parseKbToBytes (s : Bytes) : Option MemorySize :=
  (parseUint s).map fun value => UInt64.ofNat (value * 1024)

/-- The part after the last slash. -/
def extractFilename (path : Bytes) : Bytes :=
  match Bytes.rcut path 47 with
  | some (_, name) => name
  | none => path

end Sysal
