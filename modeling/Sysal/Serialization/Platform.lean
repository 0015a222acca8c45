import Sysal.Model.Platform
import Sysal.Serialization.JsonValues

/-!
# The platform as JSON

`platform.cpp` of the serialization: `platformToJson` and `platformFromJson` with the law that the
second reads back what the first writes.
-/

namespace Sysal

open Json

def hostToJson (h : Host) : Json :=
  .object [
    ("hostname", some (.str h.hostname)),
    ("machine_id", some (.str h.machineId)),
    ("product_name", some (.str h.productName)),
    ("vendor", some (.str h.vendor)),
    ("serial", some (.str h.serial)),
    ("product_family", nonempty h.productFamily),
    ("product_version", nonempty h.productVersion),
    ("product_sku", nonempty h.productSku),
    ("product_uuid", nonempty h.productUuid)]

def hostFromJson (j : Json) : Decode Host := do
  return {
    hostname := ← j.read getString "hostname"
    machineId := ← j.read getString "machine_id"
    productName := ← j.read getString "product_name"
    vendor := ← j.read getString "vendor"
    serial := ← j.read getString "serial"
    productFamily := ← j.readDefault getString [] "product_family"
    productVersion := ← j.readDefault getString [] "product_version"
    productSku := ← j.readDefault getString [] "product_sku"
    productUuid := ← j.readDefault getString [] "product_uuid" }

@[simp] theorem hostFromJson_toJson (h : Host) : hostFromJson (hostToJson h) = .ok h := by
  simp [hostFromJson, hostToJson]

def osToJson (o : Os) : Json :=
  .object [
    ("name", some (.str o.name)),
    ("version", some (.str o.version)),
    ("distribution", some (.str o.distribution)),
    ("distribution_version", some (.str o.distributionVersion)),
    ("codename", some (.str o.codename))]

def osFromJson (j : Json) : Decode Os := do
  return {
    name := ← j.read getString "name"
    version := ← j.read getString "version"
    distribution := ← j.read getString "distribution"
    distributionVersion := ← j.read getString "distribution_version"
    codename := ← j.read getString "codename" }

@[simp] theorem osFromJson_toJson (o : Os) : osFromJson (osToJson o) = .ok o := by
  simp [osFromJson, osToJson]

def kernelToJson (k : Kernel) : Json :=
  .object [
    ("release", some (.str k.release)),
    ("version", some (.str k.version)),
    ("compiled_at", some (.str k.compiledAt)),
    ("architecture", some (.str k.architecture))]

def kernelFromJson (j : Json) : Decode Kernel := do
  return {
    release := ← j.read getString "release"
    version := ← j.read getString "version"
    compiledAt := ← j.read getString "compiled_at"
    architecture := ← j.read getString "architecture" }

@[simp] theorem kernelFromJson_toJson (k : Kernel) : kernelFromJson (kernelToJson k) = .ok k := by
  simp [kernelFromJson, kernelToJson]

def archToJson (a : Architecture) : Json :=
  .object [
    ("name", some (.str a.name)),
    ("bits", some (.ofUInt32 a.bits)),
    ("byte_order", some (.str a.byteOrder))]

def archFromJson (j : Json) : Decode Architecture := do
  return {
    name := ← j.read getString "name"
    bits := ← j.read (uint32FromJson "bits") "bits"
    byteOrder := ← j.read getString "byte_order" }

@[simp] theorem archFromJson_toJson (a : Architecture) : archFromJson (archToJson a) = .ok a := by
  simp [archFromJson, archToJson]

def firmwareToJson (f : Firmware) : Json :=
  .object [
    ("bios_vendor", some (.str f.biosVendor)),
    ("bios_version", some (.str f.biosVersion)),
    ("bios_date", some (.str f.biosDate)),
    ("uefi", some (.bool f.uefi)),
    ("bios_release", nonempty f.biosRelease),
    ("ec_firmware_release", nonempty f.ecFirmwareRelease)]

def firmwareFromJson (j : Json) : Decode Firmware := do
  return {
    biosVendor := ← j.read getString "bios_vendor"
    biosVersion := ← j.read getString "bios_version"
    biosDate := ← j.read getString "bios_date"
    uefi := ← j.read getBool "uefi"
    biosRelease := ← j.readDefault getString [] "bios_release"
    ecFirmwareRelease := ← j.readDefault getString [] "ec_firmware_release" }

@[simp] theorem firmwareFromJson_toJson (f : Firmware) :
    firmwareFromJson (firmwareToJson f) = .ok f := by
  simp [firmwareFromJson, firmwareToJson]

instance : CEnum.IsLast VirtualizationKind.other := ⟨rfl⟩

def virtToJson (v : Virtualization) : Json :=
  .object [("kind", some (.ofEnum v.kind)), ("hypervisor", some (.str v.hypervisor))]

def virtFromJson (j : Json) : Decode Virtualization := do
  return {
    kind := ← j.read (enumFromJson VirtualizationKind.other "kind") "kind"
    hypervisor := ← j.read getString "hypervisor" }

@[simp] theorem virtFromJson_toJson (v : Virtualization) : virtFromJson (virtToJson v) = .ok v := by
  simp [virtFromJson, virtToJson]

def baseboardToJson (b : Baseboard) : Json :=
  .object [
    ("vendor", some (.str b.vendor)),
    ("name", some (.str b.name)),
    ("version", some (.str b.version)),
    ("serial", some (.str b.serial)),
    ("asset_tag", some (.str b.assetTag))]

def baseboardFromJson (j : Json) : Decode Baseboard := do
  return {
    vendor := ← j.readDefault getString [] "vendor"
    name := ← j.readDefault getString [] "name"
    version := ← j.readDefault getString [] "version"
    serial := ← j.readDefault getString [] "serial"
    assetTag := ← j.readDefault getString [] "asset_tag" }

@[simp] theorem baseboardFromJson_toJson (b : Baseboard) :
    baseboardFromJson (baseboardToJson b) = .ok b := by
  simp [baseboardFromJson, baseboardToJson]

def chassisToJson (c : Chassis) : Json :=
  .object [
    ("vendor", some (.str c.vendor)),
    ("version", some (.str c.version)),
    ("serial", some (.str c.serial)),
    ("asset_tag", some (.str c.assetTag)),
    ("type", c.type.map .ofUInt32)]

def chassisFromJson (j : Json) : Decode Chassis := do
  return {
    vendor := ← j.readDefault getString [] "vendor"
    version := ← j.readDefault getString [] "version"
    serial := ← j.readDefault getString [] "serial"
    assetTag := ← j.readDefault getString [] "asset_tag"
    type := ← j.readOptional (uint32FromJson "type") "type" }

@[simp] theorem chassisFromJson_toJson (c : Chassis) :
    chassisFromJson (chassisToJson c) = .ok c := by
  simp [chassisFromJson, chassisToJson]

def platformToJson (p : Platform) : Json :=
  .object [
    ("host", some (hostToJson p.host)),
    ("os", some (osToJson p.os)),
    ("kernel", some (kernelToJson p.kernel)),
    ("architecture", some (archToJson p.architecture)),
    ("firmware", p.firmware.map firmwareToJson),
    ("virtualization", p.virtualization.map virtToJson),
    ("baseboard", p.baseboard.map baseboardToJson),
    ("chassis", p.chassis.map chassisToJson)]

def platformFromJson (j : Json) : Decode Platform := do
  return {
    host := ← j.read hostFromJson "host"
    os := ← j.read osFromJson "os"
    kernel := ← j.read kernelFromJson "kernel"
    architecture := ← j.read archFromJson "architecture"
    firmware := ← j.readOptional firmwareFromJson "firmware"
    virtualization := ← j.readOptional virtFromJson "virtualization"
    baseboard := ← j.readOptional baseboardFromJson "baseboard"
    chassis := ← j.readOptional chassisFromJson "chassis" }

/-- The platform comes back from its JSON value. -/
@[simp] theorem platformFromJson_toJson (p : Platform) :
    platformFromJson (platformToJson p) = .ok p := by
  simp [platformFromJson, platformToJson]

end Sysal
