import Sysal.Model.Platform
import Sysal.Parser.ParseUtils

/-!
# Reading the platform

`platform.cpp`: the operating system from `os-release`, the kernel and the architecture from `uname`,
the machine from DMI, the host name, and the hypervisor.  The first three take the first successful
record of their source; the DMI attributes and the DMI texts the hypervisor is recognised by take the
last one.
-/

namespace Sysal.PlatformParser

open Sysal

/-! ### The operating system -/

/-- A value without the quotes around it. -/
def unquote (value : Bytes) : Bytes :=
  if 2 ≤ value.length ∧ value.head? = some 34 ∧ value.getLast? = some 34 then
    value.tail.dropLast
  else value

/-- One line of `os-release`. -/
def osReleaseLine (os : Os) (line : Bytes) : Os :=
  let (key, quoted) := parseKv line 61
  let value := unquote quoted
  if key = utf8 "NAME" then { os with name := value }
  else if key = utf8 "VERSION_ID" then { os with version := value }
  else if key = utf8 "ID" then { os with distribution := value }
  else if key = utf8 "VERSION_CODENAME" then { os with codename := value }
  else if key = utf8 "VERSION" then { os with distributionVersion := value }
  else os

/-- `parse_os_release`. -/
def parseOsRelease (payload : Bytes) : Os := (split payload 10).foldl osReleaseLine {}

/-! ### The kernel and the architecture -/

/-- `parse_proc_version`: the release on the first line, the version up to its first dash, and the
build on the second line. -/
def parseProcVersion (payload : Bytes) : Kernel × List Bytes :=
  if (trim payload).isEmpty then ({}, [utf8 "parse_platform: /proc/version 内容为空"])
  else
    match split (trim payload) 10 with
    | [] => ({}, [utf8 "parse_platform: /proc/version 格式异常，无法提取内核发行号"])
    | release :: lines =>
        ({ release := release
           version := match Bytes.cut release 45 with
             | some (version, _) => version
             | none => release
           compiledAt := lines.headD [] }, [])

/-- `infer_bits`. -/
def inferBits (name : Bytes) : UInt32 := if Bytes.hasSub name (utf8 "64") then 64 else 32

/-! ### DMI -/

/-- What the DMI scan collects. -/
structure DmiScan where
  host : Host := {}
  firmware : Firmware := {}
  board : Baseboard := {}
  chassis : Chassis := {}
  hasFirmware : Bool := false
  hasBoard : Bool := false
  hasChassis : Bool := false

/-- An attribute of the table: its file and the text it is stored in. -/
structure DmiField where
  name : Bytes
  get : DmiScan → Bytes
  set : Bytes → DmiScan → DmiScan

/-- The table of the text attributes. -/
def dmiFields : List DmiField :=
  [⟨utf8 "bios_vendor", (·.firmware.biosVendor),
      fun v s => { s with firmware := { s.firmware with biosVendor := v } }⟩,
   ⟨utf8 "bios_version", (·.firmware.biosVersion),
      fun v s => { s with firmware := { s.firmware with biosVersion := v } }⟩,
   ⟨utf8 "bios_date", (·.firmware.biosDate),
      fun v s => { s with firmware := { s.firmware with biosDate := v } }⟩,
   ⟨utf8 "bios_release", (·.firmware.biosRelease),
      fun v s => { s with firmware := { s.firmware with biosRelease := v } }⟩,
   ⟨utf8 "ec_firmware_release", (·.firmware.ecFirmwareRelease),
      fun v s => { s with firmware := { s.firmware with ecFirmwareRelease := v } }⟩,
   ⟨utf8 "sys_vendor", (·.host.vendor), fun v s => { s with host := { s.host with vendor := v } }⟩,
   ⟨utf8 "product_name", (·.host.productName),
      fun v s => { s with host := { s.host with productName := v } }⟩,
   ⟨utf8 "product_serial", (·.host.serial),
      fun v s => { s with host := { s.host with serial := v } }⟩,
   ⟨utf8 "product_family", (·.host.productFamily),
      fun v s => { s with host := { s.host with productFamily := v } }⟩,
   ⟨utf8 "product_version", (·.host.productVersion),
      fun v s => { s with host := { s.host with productVersion := v } }⟩,
   ⟨utf8 "product_sku", (·.host.productSku),
      fun v s => { s with host := { s.host with productSku := v } }⟩,
   ⟨utf8 "product_uuid", (·.host.productUuid),
      fun v s => { s with host := { s.host with productUuid := v } }⟩,
   ⟨utf8 "board_vendor", (·.board.vendor),
      fun v s => { s with board := { s.board with vendor := v } }⟩,
   ⟨utf8 "board_name", (·.board.name), fun v s => { s with board := { s.board with name := v } }⟩,
   ⟨utf8 "board_version", (·.board.version),
      fun v s => { s with board := { s.board with version := v } }⟩,
   ⟨utf8 "board_serial", (·.board.serial),
      fun v s => { s with board := { s.board with serial := v } }⟩,
   ⟨utf8 "board_asset_tag", (·.board.assetTag),
      fun v s => { s with board := { s.board with assetTag := v } }⟩,
   ⟨utf8 "chassis_vendor", (·.chassis.vendor),
      fun v s => { s with chassis := { s.chassis with vendor := v } }⟩,
   ⟨utf8 "chassis_version", (·.chassis.version),
      fun v s => { s with chassis := { s.chassis with version := v } }⟩,
   ⟨utf8 "chassis_serial", (·.chassis.serial),
      fun v s => { s with chassis := { s.chassis with serial := v } }⟩,
   ⟨utf8 "chassis_asset_tag", (·.chassis.assetTag),
      fun v s => { s with chassis := { s.chassis with assetTag := v } }⟩]

/-- The record that says the machine booted through UEFI. -/
def efiPath : Bytes := utf8 "/sys/firmware/efi"

/-- The components an attribute of the table belongs to. -/
def markComponents (name : Bytes) (s : DmiScan) : DmiScan :=
  { s with
    hasFirmware := s.hasFirmware ||
      (Bytes.startsWith name (utf8 "bios_") || name = utf8 "ec_firmware_release")
    hasBoard := s.hasBoard || Bytes.startsWith name (utf8 "board_")
    hasChassis := s.hasChassis || Bytes.startsWith name (utf8 "chassis_") }

/-- One successful DMI record. -/
def scanDmi (s : DmiScan) (record : RawEvidence) : DmiScan :=
  if record.pathOrCommand = efiPath then
    { s with firmware := { s.firmware with uefi := true }, hasFirmware := true }
  else
    let name := extractFilename record.pathOrCommand
    let value := hardwareText record.payload
    if value.isEmpty then s
    else if name = utf8 "chassis_type" then
      match (parseUint value).filter (· ≤ 255) with
      | some number =>
          { s with chassis := { s.chassis with type := some (.ofNat number) }, hasChassis := true }
      | none => s
    else
      match dmiFields.find? (·.name = name) with
      | some field => markComponents name (field.set value s)
      | none => s

/-- `parse_dmi` on a platform whose host is not filled in yet. -/
def parseDmi (raw : EvidenceStore) (platform : Platform) : Platform :=
  let s := (raw.successes .sysfsDmi).foldl scanDmi { host := platform.host }
  { platform with
    host := s.host
    firmware := if s.hasFirmware then some s.firmware else platform.firmware
    baseboard := if s.hasBoard then some s.board else platform.baseboard
    chassis := if s.hasChassis then some s.chassis else platform.chassis }

/-! ### The hypervisor -/

/-- `icontains`: a search that ignores case. -/
def icontains (haystack : Bytes) (needle : Bytes) : Bool :=
  Bytes.hasSub (haystack.map toLower) (needle.map toLower)

/-- One DMI record on the way to the vendor and the product. -/
def scanVendorProduct (s : Bytes × Bytes) (record : RawEvidence) : Bytes × Bytes :=
  if Bytes.hasSub record.pathOrCommand (utf8 "sys_vendor") then (trim record.payload, s.2)
  else if Bytes.hasSub record.pathOrCommand (utf8 "product_name") then (s.1, trim record.payload)
  else s

/-- `extract_dmi_vendor_product`. -/
def extractDmiVendorProduct (raw : EvidenceStore) : Bytes × Bytes :=
  (raw.successes .sysfsDmi).foldl scanVendorProduct ([], [])

/-- The hypervisor that the DMI vendor and product give away. -/
def hypervisorOfDmi (vendor product : Bytes) : Option Virtualization :=
  let either (word : Bytes) : Bool := icontains vendor word || icontains product word
  if either (utf8 "VMware") then some ⟨.vmware, utf8 "VMware"⟩
  else if icontains vendor (utf8 "Microsoft") &&
      (icontains product (utf8 "Virtual") || icontains product (utf8 "Hyper-V")) then
    some ⟨.hyperV, utf8 "Hyper-V"⟩
  else if either (utf8 "KVM") then some ⟨.kvm, utf8 "KVM"⟩
  else if either (utf8 "QEMU") || either (utf8 "Bochs") then some ⟨.qemu, utf8 "QEMU"⟩
  else if either (utf8 "Xen") then some ⟨.xen, utf8 "Xen"⟩
  else if icontains vendor (utf8 "innotek") || icontains product (utf8 "VirtualBox") then
    some ⟨.virtualBox, utf8 "VirtualBox"⟩
  else if either (utf8 "Parallels") then some ⟨.parallels, utf8 "Parallels"⟩
  else none

/-- A `flags` line of `/proc/cpuinfo` with the flag `hypervisor`. -/
def hypervisorLine (line : Bytes) : Bool :=
  let (key, value) := parseKv line 58
  trim key = utf8 "flags" &&
    (split (value.map toLower) 32).any fun flag => trim flag = utf8 "hypervisor"

/-- `detect_virtualization`. -/
def detectVirtualization (raw : EvidenceStore) : Option Virtualization × List Bytes :=
  if (raw.successes .sysHypervisor).any fun record => trim record.payload = utf8 "xen" then
    (some ⟨.xen, utf8 "Xen"⟩, [])
  else
    let (vendor, product) := extractDmiVendorProduct raw
    match hypervisorOfDmi vendor product with
    | some found => (some found, [])
    | none =>
        if (raw.successes .procCpuInfo).any fun record =>
            (split record.payload 10).any hypervisorLine then
          (some ⟨.other, utf8 "Unknown"⟩,
           [utf8 "detect_virtualization: CPU hypervisor flag set but DMI/sysfs did not match known hypervisor"])
        else (none, [])

/-! ### The parser -/

/-- The operating system and its warnings. -/
def platformOs (raw : EvidenceStore) : Os × List Bytes :=
  match (raw.successes .etcOsRelease).head? with
  | some record => (parseOsRelease record.payload, [])
  | none => ({}, [utf8 "parse_platform: 缺少 /etc/os-release 数据"])

/-- The kernel and its warnings. -/
def platformKernel (raw : EvidenceStore) : Kernel × List Bytes :=
  match (raw.successes .procVersion).head? with
  | some record => parseProcVersion record.payload
  | none => ({}, [utf8 "parse_platform: 缺少 /proc/version 数据"])

/-- The architecture; its name is the kernel's as well. -/
def platformArchitecture (raw : EvidenceStore) (platform : Platform) : Platform × List Bytes :=
  match (raw.successes .uname).head? with
  | some record =>
      let name := trim record.payload
      ({ platform with
         architecture := { name := name, bits := inferBits name, byteOrder := utf8 "little" }
         kernel := { platform.kernel with architecture := name } }, [])
  | none => (platform, [utf8 "parse_platform: 缺少 uname 数据"])

/-- The host name: the first successful record with a payload. -/
def platformHostname (raw : EvidenceStore) : Bytes :=
  match (raw.successes .procHostname).find? (!·.payload.isEmpty) with
  | some record => trim record.payload
  | none => []

/-- `parse_platform`. -/
def parsePlatform (raw : EvidenceStore) : Option Platform × List Bytes :=
  let (os, osWarnings) := platformOs raw
  let (kernel, kernelWarnings) := platformKernel raw
  let (platform, archWarnings) := platformArchitecture raw { os := os, kernel := kernel }
  let platform := parseDmi raw platform
  let hostname := platformHostname raw
  let hostWarnings :=
    if hostname.isEmpty then [utf8 "parse_platform: 缺少 hostname 数据"] else []
  let (virtualization, virtualizationWarnings) := detectVirtualization raw
  (some
    { platform with
      host := { platform.host with hostname := hostname }
      virtualization := virtualization },
    osWarnings ++ kernelWarnings ++ archWarnings ++ hostWarnings ++ virtualizationWarnings)

end Sysal.PlatformParser
