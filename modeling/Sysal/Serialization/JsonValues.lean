import Sysal.Foundation.JsonCodec
import Sysal.Model.Enums
import Sysal.Model.Values

/-!
# Checked numbers, enumerators and PCI addresses

`json_values.hpp`: an unsigned number is accepted only as an integer within its range, an enumerator
only up to the last one.
-/

namespace Sysal

namespace Json

@[simp] theorem ok_bind {ε α β : Type} (a : α) (f : α → Except ε β) :
    ((Except.ok a : Except ε α) >>= f) = f a := rfl

@[simp] theorem map_ok {ε α β : Type} (a : α) (f : α → β) :
    (Except.ok a : Except ε α).map f = .ok (f a) := rfl

attribute [simp] read_object readOptional_object readOr_object readDefault_object readPresent_map
  readPresent_some readItems_map readArray_map

end Json

/-- `checked_unsigned`: an integer from zero to the maximum. -/
def checkedUnsigned (maximum : ℕ) (field : String) (j : Json) : Decode ℕ :=
  match j.asInt with
  | some n =>
      if 0 ≤ n ∧ n ≤ maximum then .ok n.toNat
      else .error (.invalid (utf8 "无效无符号整数: " ++ utf8 field))
  | none => .error (.invalid (utf8 "无效无符号整数: " ++ utf8 field))

/-- What `checked_unsigned` accepts is the integer the value holds. -/
theorem checkedUnsigned_eq_ok {maximum : ℕ} {field : String} {j : Json} {n : ℕ} :
    checkedUnsigned maximum field j = .ok n ↔ j.asInt = some (n : ℤ) ∧ n ≤ maximum := by
  simp only [checkedUnsigned]
  rcases j.asInt with _ | m
  · simp
  · simp only [Option.some.injEq]
    split
    · rename_i hm
      rw [Except.ok.injEq]
      omega
    · rename_i hm
      simp only [reduceCtorEq, false_iff]
      omega

theorem checkedUnsigned_of_asInt {maximum : ℕ} {field : String} {j : Json} {n : ℕ}
    (hj : j.asInt = some (n : ℤ)) (hn : n ≤ maximum) : checkedUnsigned maximum field j = .ok n :=
  checkedUnsigned_eq_ok.mpr ⟨hj, hn⟩

def uint8FromJson (field : String) (j : Json) : Decode UInt8 :=
  (checkedUnsigned 0xff field j).map UInt8.ofNat

def uint16FromJson (field : String) (j : Json) : Decode UInt16 :=
  (checkedUnsigned 0xffff field j).map UInt16.ofNat

def uint32FromJson (field : String) (j : Json) : Decode UInt32 :=
  (checkedUnsigned 0xffffffff field j).map UInt32.ofNat

def uint64FromJson (field : String) (j : Json) : Decode UInt64 :=
  (checkedUnsigned 0xffffffffffffffff field j).map UInt64.ofNat

@[simp] theorem uint8FromJson_ofUInt8 (field : String) (x : UInt8) :
    uint8FromJson field (.ofUInt8 x) = .ok x := by
  have hx := x.toNat_lt
  rw [uint8FromJson, checkedUnsigned_of_asInt (Json.asInt_ofUInt8 x) (by omega), Json.map_ok,
    UInt8.ofNat_toNat]

@[simp] theorem uint16FromJson_ofUInt16 (field : String) (x : UInt16) :
    uint16FromJson field (.ofUInt16 x) = .ok x := by
  have hx := x.toNat_lt
  rw [uint16FromJson, checkedUnsigned_of_asInt (Json.asInt_ofUInt16 x) (by omega), Json.map_ok,
    UInt16.ofNat_toNat]

@[simp] theorem uint32FromJson_ofUInt32 (field : String) (x : UInt32) :
    uint32FromJson field (.ofUInt32 x) = .ok x := by
  have hx := x.toNat_lt
  rw [uint32FromJson, checkedUnsigned_of_asInt (Json.asInt_ofUInt32 x) (by omega), Json.map_ok,
    UInt32.ofNat_toNat]

@[simp] theorem uint64FromJson_ofUInt64 (field : String) (x : UInt64) :
    uint64FromJson field (.ofUInt64 x) = .ok x := by
  have hx := x.toNat_lt
  rw [uint64FromJson, checkedUnsigned_of_asInt (Json.asInt_ofUInt64 x) (by omega), Json.map_ok,
    UInt64.ofNat_toNat]

/-! ### Enumerators -/

/-- An enumerator, stored as its code. -/
def Json.ofEnum {α : Type} [CEnum α] (a : α) : Json := .ofUInt32 (.ofNat (CEnum.code a))

/-- `validate_enum`: the enumerator of a code up to a maximal one. -/
def validateEnum {α : Type} [CEnum α] (value : ℕ) (maximum : α) (field : String) : Decode α :=
  match if value ≤ CEnum.code maximum then CEnum.ofCode α value else none with
  | some a => .ok a
  | none => .error (.invalid (utf8 "枚举值越界: " ++ utf8 field ++ utf8 " = " ++ decimal value))

/-- The usual composition: a 32-bit number, then an enumerator. -/
def enumFromJson {α : Type} [CEnum α] (maximum : α) (field : String) (j : Json) : Decode α := do
  validateEnum (← checkedUnsigned 0xffffffff field j) maximum field

/-- The maximum of a check is the last enumerator. -/
class CEnum.IsLast {α : Type} [CEnum α] (maximum : α) : Prop where
  length_eq : (CEnum.enumerators (α := α)).length = CEnum.code maximum + 1

instance : CEnum.IsLast CollectStatus.notCollected := ⟨rfl⟩
instance : CEnum.IsLast ReadFailure.lowPower := ⟨rfl⟩
instance : CEnum.IsLast SkipReason.notApplicable := ⟨rfl⟩

theorem asInt_ofEnum {α : Type} [CEnum α] (a : α) :
    (Json.ofEnum a).asInt = some (CEnum.code a : ℤ) := by
  have hlt := CEnum.code_lt a
  have hle := CEnum.size_le (α := α)
  rw [Json.ofEnum, Json.asInt_ofUInt32,
    UInt32.toNat_ofNat_of_lt' (show CEnum.code a < 2 ^ 32 by omega)]

theorem validateEnum_code {α : Type} [CEnum α] {a maximum : α} (field : String)
    (h : CEnum.code a ≤ CEnum.code maximum) :
    validateEnum (CEnum.code a) maximum field = .ok a := by
  simp only [validateEnum, if_pos h, CEnum.ofCode_code]

theorem enumFromJson_ofEnum_of_le {α : Type} [CEnum α] {a maximum : α} {field : String}
    (h : CEnum.code a ≤ CEnum.code maximum) : enumFromJson maximum field (.ofEnum a) = .ok a := by
  have hlt := CEnum.code_lt a
  have hle := CEnum.size_le (α := α)
  rw [enumFromJson, checkedUnsigned_of_asInt (asInt_ofEnum a) (by omega), Json.ok_bind,
    validateEnum_code _ h]

theorem CEnum.code_le_last {α : Type} [CEnum α] (maximum : α) [CEnum.IsLast maximum] (a : α) :
    CEnum.code a ≤ CEnum.code maximum := by
  have hlt := CEnum.code_lt a
  have hlast : (CEnum.enumerators (α := α)).length = CEnum.code maximum + 1 :=
    CEnum.IsLast.length_eq
  omega

/-- An enumerator is read back when the check allows all of them. -/
@[simp] theorem enumFromJson_ofEnum {α : Type} [CEnum α] (maximum : α) [CEnum.IsLast maximum]
    (field : String) (a : α) : enumFromJson maximum field (.ofEnum a) = .ok a :=
  enumFromJson_ofEnum_of_le (CEnum.code_le_last maximum a)

/-- An enumerator cast straight from a number that was checked against the last one. -/
def castEnumFromJson {α : Type} [CEnum α] (maximum : α) (field : String) (j : Json) : Decode α := do
  validateEnum (← checkedUnsigned (CEnum.code maximum) field j) maximum field

@[simp] theorem castEnumFromJson_ofEnum {α : Type} [CEnum α] (maximum : α) [CEnum.IsLast maximum]
    (field : String) (a : α) : castEnumFromJson maximum field (.ofEnum a) = .ok a := by
  have hle := CEnum.code_le_last maximum a
  rw [castEnumFromJson, checkedUnsigned_of_asInt (asInt_ofEnum a) hle, Json.ok_bind,
    validateEnum_code _ hle]

/-! ### Numbers read without a check -/

/-- The time of a number of milliseconds, in nanoseconds. -/
def msToTimePoint (ms : Int64) : Int64 := ms * 1000000

/-- How the decoders read the integers they do not send through `checked_unsigned`. -/
structure LeafReader where
  uint32 : Json → Decode UInt32
  uint64 : Json → Decode UInt64
  int32 : Json → Decode Int32
  /-- A time stored in milliseconds. -/
  timePoint : Json → Decode Int64

/-- The conversions of the library: what the source calls. -/
def LeafReader.library : LeafReader where
  uint32 := Json.getUInt32
  uint64 := Json.getUInt64
  int32 := Json.getInt32
  timePoint := fun j => j.getInt64.map msToTimePoint

@[simp] theorem library_uint32 (x : UInt32) : LeafReader.library.uint32 (.ofUInt32 x) = .ok x :=
  Json.getUInt32_ofUInt32 x

@[simp] theorem library_uint64 (x : UInt64) : LeafReader.library.uint64 (.ofUInt64 x) = .ok x :=
  Json.getUInt64_ofUInt64 x

@[simp] theorem library_int32 (x : Int32) : LeafReader.library.int32 (.ofInt32 x) = .ok x :=
  Json.getInt32_ofInt32 x

@[simp] theorem library_timePoint (x : Int64) :
    LeafReader.library.timePoint (.ofInt64 x) = .ok (msToTimePoint x) := by
  show (Json.getInt64 (.ofInt64 x)).map msToTimePoint = _
  rw [Json.getInt64_ofInt64, Json.map_ok]

/-! ### PCI addresses -/

def pciAddressToJson (address : PciAddress) : Json :=
  .object [
    ("domain", some (.ofUInt16 address.domain)),
    ("bus", some (.ofUInt8 address.bus)),
    ("device", some (.ofUInt8 address.device)),
    ("function", some (.ofUInt8 address.function))]

def pciAddressFromJson (j : Json) : Decode PciAddress := do
  return {
    domain := .ofNat (← checkedUnsigned 0xffff "PCI domain" (← j.get "domain"))
    bus := .ofNat (← checkedUnsigned 0xff "PCI bus" (← j.get "bus"))
    device := .ofNat (← checkedUnsigned 0x1f "PCI device" (← j.get "device"))
    function := .ofNat (← checkedUnsigned 7 "PCI function" (← j.get "function")) }

/-- An address the decoder accepts: five bits of device, three of function. -/
def PciAddress.InRange (address : PciAddress) : Prop :=
  address.device ≤ 0x1f ∧ address.function ≤ 7

instance (address : PciAddress) : Decidable address.InRange :=
  inferInstanceAs (Decidable (_ ∧ _))

theorem pciAddressFromJson_toJson {address : PciAddress} (h : address.InRange) :
    pciAddressFromJson (pciAddressToJson address) = .ok address := by
  have hdomain := address.domain.toNat_lt
  have hbus := address.bus.toNat_lt
  have hdevice : address.device.toNat ≤ 0x1f := UInt8.le_iff_toNat_le.mp h.1
  have hfunction : address.function.toNat ≤ 7 := UInt8.le_iff_toNat_le.mp h.2
  simp only [pciAddressFromJson, pciAddressToJson, Json.get_object, Json.findField_cons]
  have hdomain' : address.domain.toNat ≤ 0xffff := by omega
  have hbus' : address.bus.toNat ≤ 0xff := by omega
  simp only [String.reduceEq, if_true, if_false, Json.ok_bind,
    checkedUnsigned_of_asInt (Json.asInt_ofUInt16 address.domain) hdomain',
    checkedUnsigned_of_asInt (Json.asInt_ofUInt8 address.bus) hbus',
    checkedUnsigned_of_asInt (Json.asInt_ofUInt8 address.device) hdevice,
    checkedUnsigned_of_asInt (Json.asInt_ofUInt8 address.function) hfunction,
    UInt16.ofNat_toNat, UInt8.ofNat_toNat]
  rfl

/-- An optional address within the decoder's range is read back. -/
theorem readPresent_pciAddress {o : Option PciAddress} (h : ∀ a ∈ o, a.InRange) :
    Json.readPresent pciAddressFromJson (o.map pciAddressToJson) = .ok o :=
  Json.readPresent_map fun a ha => pciAddressFromJson_toJson (h a ha)

end Sysal
