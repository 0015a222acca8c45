import Sysal.Foundation.DecoderImage
import Sysal.Serialization.HealthCounters
import Sysal.Serialization.Serialize

/-!
# Decoded values lie in the ranges of the decoder

The ranges under which a system is restored were read off the encoder.  Here they are read off the
decoder: whatever it returns lies in them, so what was read once can be written and read again.

* `yields_systemInfo`: the domains of a decoded document;
* `yields_system`: the whole system, its metadata when the document has any;
* `reencode_iff`: a decoded system is read back from its own document, with the metadata exactly if
  the first document had some.
-/

namespace Sysal

open Json

/-! ### Numbers -/

theorem yields_checkedUnsigned (maximum : ℕ) (field : String) (j : Json) :
    Yields (· ≤ maximum) (checkedUnsigned maximum field j) :=
  fun _ h => (checkedUnsigned_eq_ok.mp h).2

theorem yields_small {maximum : ℕ} (key : String) (hmaximum : maximum < 256) (j : Json) :
    Yields (fun x : UInt8 => x.toNat ≤ maximum) (smallFromJson maximum key j) :=
  (yields_checkedUnsigned _ _ _).map fun n hn => by
    rw [UInt8.toNat_ofNat_of_lt' (by show n < 2 ^ 8; omega)]
    exact hn

theorem yields_pciAddress (j : Json) : Yields PciAddress.InRange (pciAddressFromJson j) := by
  iterate 5 refine .skip fun _ => ?_
  refine .bind (yields_checkedUnsigned 0x1f _ _) fun device hdevice => .skip fun _ =>
    .bind (yields_checkedUnsigned 7 _ _) fun function hfunction => .pure ?_
  rw [PciAddress.InRange, UInt8.le_iff_toNat_le, UInt8.le_iff_toNat_le,
    UInt8.toNat_ofNat_of_lt' (by show device < 2 ^ 8; omega),
    UInt8.toNat_ofNat_of_lt' (by show function < 2 ^ 8; omega)]
  exact ⟨hdevice, hfunction⟩

/-! ### Memory, accelerators, network and PCI -/

theorem yields_memoryController (j : Json) :
    Yields MemoryController.InRange (memoryControllerFromJson j) := by
  iterate 6 refine .skip fun _ => ?_
  exact .bind (.readOptional yields_pciAddress _ _) fun _ haddress => .skip fun _ => .pure haddress

theorem yields_memory (j : Json) : Yields Memory.InRange (memoryFromJson j) := by
  iterate 11 refine .skip fun _ => ?_
  refine .bind (.readOr (.readItems yields_memoryController) (by simp) _ _) fun _ hcontrollers => ?_
  iterate 4 refine .skip fun _ => ?_
  exact .pure hcontrollers

theorem yields_acceleratorDevice (j : Json) :
    Yields AcceleratorDevice.InRange (accelDeviceFromJson j) := by
  iterate 4 refine .skip fun _ => ?_
  refine .bind (.readOptional yields_pciAddress _ _) fun _ haddress => ?_
  iterate 8 refine .skip fun _ => ?_
  exact .pure haddress

theorem yields_accelerators (j : Json) : Yields Accelerators.InRange (acceleratorsFromJson j) :=
  .bind (.read (.readItems yields_acceleratorDevice) _ _) fun _ hdevices => .pure hdevices

theorem yields_port (j : Json) : Yields RdmaPort.InRange (portFromJson j) := by
  iterate 8 refine .skip fun _ => ?_
  exact .bind (.readOptional (yields_small _ (by decide)) _ _) fun _ hsl =>
    .bind (.readOptional (yields_small _ (by decide)) _ _) fun _ hlmc => .skip fun _ =>
      .skip fun _ => .pure ⟨hsl, hlmc⟩

theorem yields_rdmaDevice (j : Json) : Yields RdmaDevice.InRange (rdmaDeviceFromJson j) := by
  iterate 10 refine .skip fun _ => ?_
  exact .bind (.readOptional yields_pciAddress _ _) fun _ haddress => .skip fun _ => .skip fun _ =>
    .bind (.readOr (.readArray yields_port) (by simp) _ _) fun _ hports => .pure ⟨haddress, hports⟩

theorem yields_rdmaInventory (j : Json) : Yields RdmaInventory.InRange (rdmaInventoryFromJson j) :=
  .skip fun _ => .bind (.readOr (.readArray yields_rdmaDevice) (by simp) _ _) fun _ hdevices =>
    .pure hdevices

theorem yields_interface (j : Json) : Yields NetworkInterface.InRange (netIfaceFromJson j) := by
  iterate 5 refine .skip fun _ => ?_
  refine .bind (.readOptional yields_pciAddress _ _) fun _ haddress => ?_
  iterate 23 refine .skip fun _ => ?_
  exact .pure haddress

theorem yields_network (j : Json) : Yields Network.InRange (networkFromJson j) :=
  .bind (.read (.readItems yields_interface) _ _) fun _ hinterfaces =>
    .bind (.readOr yields_rdmaInventory (by simp [RdmaInventory.InRange]) _ _) fun _ hrdma =>
      .pure ⟨hinterfaces, hrdma⟩

theorem yields_pciDevice (j : Json) : Yields PciDevice.InRange (pciDeviceFromJson j) := by
  refine .bind (.read yields_pciAddress _ _) fun _ haddress => ?_
  iterate 10 refine .skip fun _ => ?_
  refine .bind (.readOptional yields_pciAddress _ _) fun _ hupstream =>
    .bind (.readOptional yields_pciAddress _ _) fun _ hfunction => ?_
  iterate 4 refine .skip fun _ => ?_
  exact .pure ⟨haddress, hupstream, hfunction⟩

theorem yields_pci (j : Json) : Yields Pci.InRange (pciFromJson j) :=
  .bind (.read (.readItems yields_pciDevice) _ _) fun _ hdevices => .pure hdevices

/-! ### Storage -/

theorem yields_namespaceId (j : Json) : Yields (· ≠ 0) (nvmeNamespaceIdFromJson j) := by
  refine .skip fun id => ?_
  split
  · exact .error _
  · rename_i hid
    exact .pure hid

theorem yields_namespace (j : Json) : Yields NvmeNamespaceInfo.InRange (nvmeNamespaceFromJson j) :=
  .bind (.read yields_namespaceId _ _) fun _ hid => .skip fun _ => .skip fun _ => .skip fun _ =>
    .pure hid

theorem yields_classCode (j : Json) : Yields (· ≤ 0xffffff) (classCodeFromJson j) :=
  (yields_checkedUnsigned _ _ _).map fun code hcode => by
    rw [UInt32.le_iff_toNat_le, UInt32.toNat_ofNat_of_lt' (by show code < 2 ^ 32; omega)]
    exact hcode

theorem yields_storageController (j : Json) :
    Yields StorageController.InRange (storageControllerFromJson j) := by
  refine .bind (.read yields_pciAddress _ _) fun _ haddress =>
    .bind (.read yields_classCode _ _) fun _ hclass => ?_
  iterate 4 refine .skip fun _ => ?_
  exact .pure ⟨haddress, hclass⟩

theorem yields_nvmeController (j : Json) :
    Yields NvmeController.InRange (nvmeControllerFromJson j) := by
  iterate 9 refine .skip fun _ => ?_
  exact .bind (.readOptional yields_pciAddress _ _) fun _ haddress => .skip fun _ => .pure haddress

theorem yields_scsiHost (j : Json) : Yields ScsiHost.InRange (scsiHostFromJson j) := by
  iterate 6 refine .skip fun _ => ?_
  exact .bind (.readOptional yields_pciAddress _ _) fun _ haddress => .skip fun _ => .pure haddress

theorem yields_storageDevice (j : Json) : Yields StorageDevice.InRange (storageDeviceFromJson j) := by
  iterate 3 refine .skip fun _ => ?_
  refine .bind (.readOptional yields_pciAddress _ _) fun _ haddress => ?_
  iterate 32 refine .skip fun _ => ?_
  exact .bind (.readOptional yields_namespace _ _) fun _ hnamespace => .skip fun _ =>
    .pure ⟨haddress, hnamespace⟩

/-! ### Drive health -/

theorem yields_orInvalid {α : Type} {P : α → Prop} (message : String) {o : Option α}
    (h : ∀ a ∈ o, P a) : Yields P (orInvalid message o) := by
  cases o with
  | none => exact .error _
  | some a => exact .pure (h a rfl)

theorem canonical_of_storageCounter {j : Json} {c : StorageCounter} (h : storageCounter j = some c) :
    c.Canonical := by
  obtain ⟨n, -, hn, hc⟩ := storageCounter_eq_some_iff.mp h
  exact ⟨n, hn, hc⟩

theorem yields_counter (j : Json) : Yields StorageCounter.Canonical (counterFromJson j) :=
  yields_orInvalid _ fun _ hc => canonical_of_storageCounter hc

theorem yields_nvme (j : Json) : Yields NvmeHealth.InRange (nvmeFromJson j) := by
  have hcounter := Yields.readOptional yields_counter j
  iterate 5 refine .skip fun _ => ?_
  exact .bind (hcounter _) fun _ hhours => .bind (hcounter _) fun _ hcycles =>
    .bind (hcounter _) fun _ hshutdowns => .bind (hcounter _) fun _ hmedia =>
      .bind (hcounter _) fun _ hlog => .bind (hcounter _) fun _ hread =>
        .bind (hcounter _) fun _ hwritten =>
          .pure ⟨hhours, hcycles, hshutdowns, hmedia, hlog, hread, hwritten⟩

theorem yields_ataAttributeId (j : Json) : Yields (· ≠ 0) (ataAttributeIdFromJson j) := by
  refine yields_orInvalid _ fun id hid hzero => ?_
  obtain ⟨n, hn, rfl⟩ := Option.map_eq_some_iff.mp hid
  obtain ⟨hn, hne⟩ := Option.filter_eq_some_iff.mp hn
  have hlt : n < 2 ^ 8 := by
    have hle := (healthInteger_eq_some.mp hn).2
    omega
  have htoNat := congrArg UInt8.toNat hzero
  rw [UInt8.toNat_ofNat_of_lt' hlt] at htoNat
  exact of_decide_eq_true hne htoNat

theorem yields_ataAttribute (j : Json) :
    Yields AtaHealthAttribute.InRange (ataAttributeFromJson j) := by
  refine .bind (.read yields_ataAttributeId _ _) fun _ hid => ?_
  iterate 6 refine .skip fun _ => ?_
  exact .pure hid

theorem yields_scsiHealth (j : Json) : Yields ScsiHealth.InRange (scsiHealthFromJson j) :=
  .bind (.readOptional yields_counter _ _) fun _ hread => .bind (.readOptional yields_counter _ _)
    fun _ hwrite => .bind (.readOptional yields_counter _ _) fun _ hverify =>
      .pure ⟨hread, hwrite, hverify⟩

theorem yields_healthEnum {α : Type} [CEnum α] (maximum : α) (j : Json) :
    Yields (fun a => CEnum.code a ≤ CEnum.code maximum) (healthEnumFromJson maximum j) := by
  refine yields_orInvalid _ fun a ha => ?_
  obtain ⟨n, hn, ha⟩ := Option.bind_eq_some_iff.mp ha
  rw [CEnum.code_of_ofCode ha]
  exact of_decide_eq_true (Option.filter_eq_some_iff.mp hn).2

theorem yields_storageHealth (j : Json) :
    Yields StorageHealthReport.InRange (storageHealthFromJson j) := by
  iterate 3 refine .skip fun _ => ?_
  refine .bind (.read (yields_healthEnum _) _ _) fun _ hsource => ?_
  iterate 6 refine .skip fun _ => ?_
  exact .bind (.readOptional yields_nvme _ _) fun _ hnvme =>
    .bind (.readOr (.readItems yields_ataAttribute) (by simp) _ _) fun _ hattributes =>
      .bind (.readOptional yields_scsiHealth _ _) fun _ hscsi =>
        .pure ⟨hsource, hnvme, hattributes, hscsi⟩

theorem yields_storage (j : Json) : Yields Storage.InRange (storageFromJson j) :=
  .bind (.read (.readItems yields_storageDevice) _ _) fun _ hdevices =>
    .bind (.readOr (.readItems yields_storageHealth) (by simp) _ _) fun _ hhealth =>
      .skip fun _ => .bind (.readOr (.readArray yields_storageController) (by simp) _ _)
        fun _ hcontrollers => .bind (.readOr (.readArray yields_nvmeController) (by simp) _ _)
          fun _ hnvme => .bind (.readOr (.readArray yields_scsiHost) (by simp) _ _)
            fun _ hhosts => .skip fun _ => .pure ⟨hdevices, hhealth, hcontrollers, hnvme, hhosts⟩

/-! ### Sensors and hardware health -/

variable (leaf : LeafReader)

theorem yields_checked {α : Type} [CEnum α] (maximum : α) (key : String) (j : Json) :
    Yields (fun a => CEnum.code a ≤ CEnum.code maximum) (checkedFromJson leaf maximum key j) := by
  refine .skip fun number => ?_
  split
  · rename_i a ha
    split at ha
    · rename_i hle
      refine .pure ?_
      rwa [CEnum.code_of_ofCode ha]
    · cases ha
  · exact .error _

theorem yields_sensorPciAddress (j : Json) :
    Yields PciAddress.InRange (sensorPciAddressFromJson leaf j) := by
  refine .skip fun domain => .skip fun bus => .skip fun device => .skip fun function => ?_
  split
  · exact .error _
  · rename_i hbounds
    simp only [gt_iff_lt, UInt64.lt_iff_toNat_lt, not_or, Nat.not_lt] at hbounds
    have hdevice : device.toNat ≤ 31 := hbounds.2.2.1
    have hfunction : function.toNat ≤ 7 := hbounds.2.2.2
    refine .pure ⟨UInt8.le_iff_toNat_le.mpr ?_, UInt8.le_iff_toNat_le.mpr ?_⟩
    · show (UInt8.ofNat device.toNat).toNat ≤ 31
      rwa [UInt8.toNat_ofNat_of_lt' (by show _ < 2 ^ 8; omega)]
    · show (UInt8.ofNat function.toNat).toNat ≤ 7
      rwa [UInt8.toNat_ofNat_of_lt' (by show _ < 2 ^ 8; omega)]

theorem yields_identity (j : Json) : Yields SensorIdentity.InRange (identityFromJson leaf j) := by
  iterate 7 refine .skip fun _ => ?_
  exact .bind (.read (yields_checked leaf _ _) _ _) fun _ hsource =>
    .bind (.readOptional (yields_sensorPciAddress leaf) _ _) fun _ haddress =>
      .pure ⟨hsource, haddress⟩

theorem yields_sensor {Unit : Type} (unitFromJson : Json → Decode Unit) (j : Json) :
    Yields (fun s => s.identity.InRange) (sensorFromJson unitFromJson leaf j) := by
  refine .bind (.read (yields_identity leaf) _ _) fun _ hidentity => ?_
  iterate 9 refine .skip fun _ => ?_
  exact .pure hidentity

theorem yields_sensors (j : Json) : Yields Sensors.InRange (sensorsFromJson leaf j) :=
  .bind (.readOr (.readItems (yields_sensor leaf _)) (by simp) _ _) fun _ htemperatures =>
    .bind (.readOr (.readItems (yields_sensor leaf _)) (by simp) _ _) fun _ hfans =>
      .bind (.readOr (.readItems (yields_sensor leaf _)) (by simp) _ _) fun _ hpowers =>
        .pure ⟨htemperatures, hfans, hpowers⟩

theorem yields_findingAttributeId (j : Json) :
    Yields (· ≠ 0) (findingAttributeIdFromJson leaf j) := by
  refine .skip fun value => ?_
  split
  · exact .error _
  · rename_i hbounds
    rw [not_or, gt_iff_lt, UInt64.lt_iff_toNat_lt, ← UInt64.toNat_inj] at hbounds
    have hzero : value.toNat ≠ 0 := hbounds.1
    have hle : ¬255 < value.toNat := hbounds.2
    refine .pure fun heq => hzero ?_
    have htoNat := congrArg UInt8.toNat heq
    rwa [UInt8.toNat_ofNat_of_lt' (by show _ < 2 ^ 8; omega)] at htoNat

theorem yields_driveFinding (j : Json) : Yields DriveFinding.InRange (driveFindingFromJson leaf j) := by
  iterate 4 refine .skip fun _ => ?_
  exact .bind (.readOptional (yields_findingAttributeId leaf) _ _) fun _ hid => .pure hid

theorem yields_health (j : Json) : Yields HardwareHealth.InRange (healthFromJson leaf j) := by
  iterate 3 refine .skip fun _ => ?_
  exact .bind (.readOr (.readItems (yields_driveFinding leaf)) (by simp) _ _) fun _ hfindings =>
    .skip fun _ => .pure hfindings

/-- **The domains of a decoded document** lie in the ranges under which they are restored. -/
theorem yields_systemInfo (j : Json) : Yields SystemInfo.InRange (systemInfoFromJson leaf j) :=
  .skip fun _ => .skip fun _ => .bind (.read yields_memory _ _) fun _ hmemory =>
    .bind (.read yields_accelerators _ _) fun _ haccelerators =>
      .bind (.read yields_network _ _) fun _ hnetwork => .bind (.read yields_storage _ _)
        fun _ hstorage => .bind (.read yields_pci _ _) fun _ hpci => .skip fun _ => .skip fun _ =>
          .bind (.readOr (yields_sensors leaf) ⟨by simp, by simp, by simp⟩ _ _) fun _ hsensors =>
            .bind (.readOr (yields_health leaf) (by simp [HardwareHealth.InRange]) _ _)
              fun _ hhealth => .pure
                ⟨hmemory, haccelerators, hnetwork, hstorage, hpci, hsensors, hhealth⟩

/-! ### Metadata and raw evidence -/

theorem yields_collectionRequest (j : Json) :
    Yields (fun r : CollectionRequest => r.valid) (collectionRequestFromJson j) := by
  have hflags : ∀ v, Yields (fun flags => flags &&& ~~~Collect.full = 0) (requestFlagsFromJson v) := by
    intro v
    refine .skip fun flags => ?_
    split
    · exact .error _
    · rename_i hmask
      exact .pure (not_not.mp hmask)
  exact .bind (.read hflags _ _) fun _ hmask => .skip fun _ => .pure (by
    simpa [CollectionRequest.valid] using hmask)

theorem yields_rawStore (j : Json) : Yields RawStore.InRange (rawStoreFromJson leaf j) :=
  .skip fun _ => .skip fun _ => .bind (.readOptional yields_collectionRequest _ _)
    fun _ hrequest => .pure hrequest

/-- The version of decoded metadata is the one that was checked. -/
theorem yields_meta (j : Json) : Yields (fun m => (j.field "sysal_version").bind asStr =
    some m.sysalVersion ∧ ∀ r ∈ m.collectionRequest, r.valid) (metaFromJson leaf j) := by
  have hversion : Yields (fun version => (j.field "sysal_version").bind asStr = some version)
      (j.read getString "sysal_version") := by
    intro version h
    rw [Json.read, Json.get] at h
    split at h
    · rename_i v hv
      rw [ok_bind, getString] at h
      split at h
      · rename_i s hs
        cases h
        rw [hv, Option.bind_some, hs]
      · cases h
    · cases h
  refine .skip fun _ => .bind hversion fun _ hv => ?_
  iterate 4 refine .skip fun _ => ?_
  refine .bind (.readOptional yields_collectionRequest _ _) fun _ hrequest => ?_
  iterate 2 refine .skip fun _ => ?_
  exact .pure ⟨hv, hrequest⟩

variable {leaf}

/-- The metadata of a decoded document is in range; without any it has its defaults. -/
theorem yields_snapshot {root : Json} (h : checkVersion root = .ok ()) :
    Yields (fun snapshot => if (typedField root isObject "meta").isSome then snapshot.InRange
        else snapshot = {})
      ((readPresent (metaFromJson leaf) (typedField root isObject "meta")).map (·.getD {})) := by
  rw [checkVersion] at h
  cases hmeta : typedField root isObject "meta" with
  | none => exact .pure rfl
  | some m =>
      rw [hmeta, Option.bind_some] at h
      have hread : (readPresent (metaFromJson leaf) (some m)).map (·.getD {}) =
          metaFromJson leaf m := by
        rw [readPresent_some]
        cases metaFromJson leaf m <;> rfl
      rw [hread]
      refine (yields_meta leaf m).mono fun snapshot hsnapshot => ⟨?_, hsnapshot.2⟩
      rw [hsnapshot.1] at h
      by_contra hversion
      simp only [hversion, if_false] at h
      cases h

/-- What is known of a decoded system. -/
structure System.Decoded (root : Json) (s : System) : Prop where
  info : s.info.InRange
  raw : ∀ raw ∈ s.raw, raw.InRange
  snapshot : if (typedField root isObject "meta").isSome then s.snapshot.InRange
    else s.snapshot = {}

theorem yields_system (root : Json) : Yields (System.Decoded root) (systemFromJson leaf root) := by
  rw [systemFromJson]
  refine .bind (P := fun _ => checkVersion root = .ok ()) (fun _ h => h) fun _ hversion =>
    .bind (.read (yields_systemInfo leaf) _ _) fun _ hinfo =>
      .bind (yields_snapshot hversion) fun _ hsnapshot => .skip fun _ =>
        .bind (.readPresent (yields_rawStore leaf) _) fun _ hraw => .pure ⟨hinfo, hraw, hsnapshot⟩

/-! ### Writing a decoded system again -/

/-- Metadata that is not written need not be in range. -/
theorem systemFromJson_documentWithoutMeta {options : SerializationOptions}
    (hoptions : options.includeMeta = false) {s : System} {info : Json} (hs : s.info.InRange)
    (hraw : ∀ raw ∈ s.raw, raw.InRange) (hinfo : systemInfoFromJson .library info = .ok s.info) :
    systemFromJson .library (.object (documentFields options s info)) = .ok (s.stored options) := by
  have hrange : System.InRange { s with snapshot := { sysalVersion := versionPrefix } } :=
    ⟨hs, ⟨(by decide : versionPrefix.startsWith versionPrefix = true), by simp⟩, hraw⟩
  have hdocument := @systemFromJson_document options _ info hrange hinfo
  simpa [documentFields, System.stored, hoptions] using hdocument

/-- The default metadata is refused for its version. -/
theorem checkVersion_default {options : SerializationOptions} (hoptions : options.includeMeta = true)
    {s : System} (hs : s.snapshot = {}) (info : Json) :
    checkVersion (.object (documentFields options s info)) =
      .error (.invalid (utf8 "incompatible version: ")) := by
  have hfield : typedField (.object (documentFields options s info)) isObject "meta" =
      some (metaToJson {}) := by
    rw [typedField, object_field, ← hs]
    show Option.filter isObject (if options.includeMeta then _ else none) = _
    rw [hoptions]
    rfl
  have hversion : (metaToJson {}).field "sysal_version" = some (.str []) := object_field _ _
  rw [checkVersion, hfield]
  simp only [Option.bind_some, hversion, asStr_str, List.append_nil]
  rfl

/-- **A decoded system is decoded again from its own document**, in every domain, warning and raw
record, and with its metadata exactly if the first document had an object of metadata: a system that
was read without any has a version that no document may name. -/
theorem reencode_iff {root : Json} {s : System} (h : systemFromJson .library root = .ok s)
    (options : SerializationOptions) :
    (∃ document, systemToJson options s = .ok document ∧
        systemFromJson .library document = .ok (s.stored options)) ↔
      (options.includeMeta = true → (typedField root isObject "meta").isSome) := by
  have hs := yields_system root s h
  obtain ⟨info, hencode, hdecode⟩ := systemInfoFromJson_toJson hs.info
  rw [systemToJson_eq options hencode]
  have hsnapshot := hs.snapshot
  constructor
  · rintro ⟨document, hdocument, hread⟩ hoptions
    cases hdocument
    by_contra hmeta
    rw [if_neg hmeta] at hsnapshot
    rw [systemFromJson, checkVersion_default hoptions hsnapshot info] at hread
    cases hread
  · intro hmeta
    refine ⟨_, rfl, ?_⟩
    cases hoptions : options.includeMeta with
    | false => exact systemFromJson_documentWithoutMeta hoptions hs.info hs.raw hdecode
    | true =>
        rw [if_pos (hmeta hoptions)] at hsnapshot
        exact systemFromJson_document ⟨hs.info, hsnapshot, hs.raw⟩ hdecode

theorem reencode_iff_drive : ∃ root s, systemFromJson .library root = .ok s ∧
    ((∃ document, systemToJson .complete s = .ok document ∧
        systemFromJson .library document = .ok (s.stored .complete)) ↔
      (SerializationOptions.complete.includeMeta = true →
        (typedField root isObject "meta").isSome)) := by
  obtain ⟨info, -, hdecode⟩ := systemInfoFromJson_toJson driveSystem_inRange.info
  have hread := @systemFromJson_document .complete driveSystem info driveSystem_inRange hdecode
  exact ⟨_, _, hread, reencode_iff hread .complete⟩

end Sysal
