import Sysal.Parser.Accelerator

/-!
# What a runtime observation rests on

`parse_accelerator_runtime_visibility` declares devices visible that the entries of a runtime record
identify: AMD and Intel devices by PCI address, NVIDIA devices by UUID.  UUIDs are compared after
`uuid_hex` has normalised the device's side, and `uuid_hex` maps everything it cannot read to the empty
string, which an entry without a UUID has as well.

* `observeRecord_iff`: when a record is observed, and what the observation lists;
* `runtimeVisibility_sound_iff`: observations rest on stable identities exactly when no resolved NVIDIA
  record has an entry whose UUID is not one;
* `runtimeVisibility_unsound`: an entry without a UUID declares a MIG instance visible.
-/

namespace Sysal.AcceleratorParser

open Sysal AcceleratorInventory

/-! ### Identities -/

/-- 32 hexadecimal digits. -/
def IsUuidHex (s : Bytes) : Prop := s.length = 32 ∧ ∀ c ∈ s, (digitValue 16 c).isSome

instance (s : Bytes) : Decidable (IsUuidHex s) := inferInstanceAs (Decidable (_ ∧ _))

/-- The UUID of an entry, without dashes. -/
def entryUuid (entry : Json) : Bytes := stringField entry "uuid_hex" []

/-- The PCI address of an entry. -/
def entryAddress (entry : Json) : Option PciAddress :=
  parsePciAddress (stringField entry "pci_bus_id" [])

/-- The device has a UUID that normalises to the given text. -/
def HasUuid (device : AcceleratorDevice) (hex : Bytes) : Prop :=
  device.uuid.any (uuidHex · = hex)

instance (device : AcceleratorDevice) (hex : Bytes) : Decidable (HasUuid device hex) :=
  inferInstanceAs (Decidable (_ = true))

/-- The entry and the device carry the same stable identity of their vendor. -/
def Identified (vendor : AcceleratorVendor) (entry : Json) (device : AcceleratorDevice) : Prop :=
  device.vendor = vendorName vendor ∧
    match vendor with
    | .nvidia => IsUuidHex (entryUuid entry) ∧ HasUuid device (entryUuid entry)
    | _ => (entryAddress entry).isSome ∧ device.pciAddress = entryAddress entry

instance (vendor : AcceleratorVendor) (entry : Json) (device : AcceleratorDevice) :
    Decidable (Identified vendor entry device) := by
  unfold Identified
  cases vendor <;> infer_instance

/-- An observation of a record that rests on stable identities: every entry is identified with a device
of the vendor, and the ids are those of the devices so identified. -/
def SoundObservation (parse : JsonParser) (devices : Accelerators) (record : RawEvidence)
    (observation : RuntimeVisibility) : Prop :=
  ∃ evidence entries, deviceEntries parse record.payload = some (evidence, entries) ∧
    stringField evidence "vendor" [] = vendorName observation.vendor ∧
    (∀ entry ∈ entries, ∃ device ∈ devices.devices,
      Identified observation.vendor entry device) ∧
    observation.visible = entries.flatMap fun entry =>
      (devices.devices.filter fun device => Identified observation.vendor entry device).map (·.id)

/-- Every observation of the store is sound. -/
def RuntimeVisibilitySound (parse : JsonParser) (raw : EvidenceStore) (devices : Accelerators) :
    Prop :=
  ∀ record ∈ raw.successes .acceleratorRuntime, ∀ observation,
    observeRecord parse devices record = some observation →
      SoundObservation parse devices record observation

/-! ### When a record is observed -/

theorem acceleratorVendor_eq_some {name : Bytes} {vendor : AcceleratorVendor} :
    acceleratorVendor name = some vendor ↔ name = vendorName vendor := by
  unfold acceleratorVendor
  constructor
  · intro h
    split at h
    · rename_i hn
      rw [hn, ← Option.some.inj h]
      rfl
    · split at h
      · rename_i hn
        rw [hn, ← Option.some.inj h]
        rfl
      · split at h
        · rename_i hn
          rw [hn, ← Option.some.inj h]
          rfl
        · cases h
  · rintro rfl
    cases vendor <;> decide

/-- The entry is an object with a PCI address. -/
def Addressed (entry : Json) : Prop := entry.isObject ∧ (entryAddress entry).isSome

theorem runtimeEntries_eq_some {entries : List Json} {described : List (PciAddress × Bytes)} :
    runtimeEntries entries = some described ↔
      (∀ entry ∈ entries, Addressed entry) ∧
        described = entries.map fun entry => ((entryAddress entry).getD default, entryUuid entry) := by
  induction entries generalizing described with
  | nil =>
      constructor
      · intro h
        exact ⟨fun entry he => absurd he List.not_mem_nil, (Option.some.inj h).symm⟩
      · rintro ⟨-, rfl⟩
        rfl
  | cons entry entries ih =>
      simp only [runtimeEntries, List.forall_mem_cons, List.map_cons, Addressed]
      rw [show parsePciAddress (stringField entry "pci_bus_id" []) = entryAddress entry from rfl]
      cases hobj : entry.isObject with
      | false => simp
      | true =>
          cases hpci : entryAddress entry with
          | none => simp
          | some pci =>
              simp only [Bool.not_true, Bool.false_eq_true, if_false, Option.map_eq_some_iff, ih,
                Option.isSome_some, and_self, true_and, Option.getD_some]
              constructor
              · rintro ⟨tail, ⟨hall, rfl⟩, rfl⟩
                exact ⟨hall, rfl⟩
              · rintro ⟨hall, rfl⟩
                exact ⟨_, ⟨hall, rfl⟩, rfl⟩

theorem visibleIds_eq_some {vendor : AcceleratorVendor} {devices : Accelerators}
    {described : List (PciAddress × Bytes)} {visible : List AcceleratorId} :
    visibleIds vendor devices described = some visible ↔
      (∀ entry ∈ described, ∃ device ∈ devices.devices, matchesEntry vendor entry device) ∧
        visible = described.flatMap fun entry =>
          (devices.devices.filter (matchesEntry vendor entry)).map (·.id) := by
  induction described generalizing visible with
  | nil =>
      constructor
      · intro h
        exact ⟨fun entry he => absurd he List.not_mem_nil, (Option.some.inj h).symm⟩
      · rintro ⟨-, rfl⟩
        rfl
  | cons entry described ih =>
      simp only [visibleIds, List.forall_mem_cons, List.flatMap_cons]
      by_cases hfound : (devices.devices.filter (matchesEntry vendor entry)).isEmpty = true
      · have hnone : ¬∃ device ∈ devices.devices, matchesEntry vendor entry device := by
          rintro ⟨device, hdevice, hmatch⟩
          have hmem := List.mem_filter.mpr ⟨hdevice, hmatch⟩
          rw [List.isEmpty_iff.mp hfound] at hmem
          exact absurd hmem List.not_mem_nil
        rw [if_pos hfound]
        simp [hnone]
      · have hsome : ∃ device ∈ devices.devices, matchesEntry vendor entry device := by
          rw [List.isEmpty_iff] at hfound
          obtain ⟨device, hdevice⟩ := List.exists_mem_of_ne_nil _ hfound
          exact ⟨device, List.mem_of_mem_filter hdevice, (List.mem_filter.mp hdevice).2⟩
        rw [if_neg hfound, Option.map_eq_some_iff]
        constructor
        · rintro ⟨tail, htail, rfl⟩
          obtain ⟨hall, rfl⟩ := ih.mp htail
          exact ⟨⟨hsome, hall⟩, rfl⟩
        · rintro ⟨⟨-, hall⟩, rfl⟩
          exact ⟨_, ih.mpr ⟨hall, rfl⟩, rfl⟩

/-- What the parser compares between an entry and a device. -/
def coincides (vendor : AcceleratorVendor) (entry : Json) (device : AcceleratorDevice) : Bool :=
  matchesEntry vendor ((entryAddress entry).getD default, entryUuid entry) device

/-- **When a record is observed**: every entry has an address and coincides with a device, and the
observation lists the devices the entries coincide with. -/
theorem observeRecord_iff {parse : JsonParser} {devices : Accelerators} {record : RawEvidence}
    {observation : RuntimeVisibility} :
    observeRecord parse devices record = some observation ↔
      ∃ evidence entries, deviceEntries parse record.payload = some (evidence, entries) ∧
        stringField evidence "vendor" [] = vendorName observation.vendor ∧
        (∀ entry ∈ entries, Addressed entry) ∧
        (∀ entry ∈ entries, ∃ device ∈ devices.devices,
          coincides observation.vendor entry device) ∧
        observation.visible = entries.flatMap fun entry =>
          (devices.devices.filter (coincides observation.vendor entry)).map (·.id) := by
  simp only [observeRecord, Option.bind_eq_bind, Option.bind_eq_some_iff, Option.pure_def,
    Option.some.injEq, Prod.exists]
  constructor
  · rintro ⟨evidence, entries, hentries, vendor, hvendor, described, hdescribed, visible, hvisible,
      rfl⟩
    obtain ⟨haddr, rfl⟩ := runtimeEntries_eq_some.mp hdescribed
    obtain ⟨hmatch, rfl⟩ := visibleIds_eq_some.mp hvisible
    refine ⟨evidence, entries, hentries, acceleratorVendor_eq_some.mp hvendor, haddr, ?_, ?_⟩
    · exact fun entry hentry => hmatch _ (List.mem_map_of_mem hentry)
    · rw [List.flatMap_map]
      rfl
  · rintro ⟨evidence, entries, hentries, hvendor, haddr, hmatch, hvisible⟩
    refine ⟨evidence, entries, hentries, observation.vendor, acceleratorVendor_eq_some.mpr hvendor,
      _, runtimeEntries_eq_some.mpr ⟨haddr, rfl⟩, observation.visible,
      visibleIds_eq_some.mpr ⟨?_, ?_⟩, rfl⟩
    · intro described hdescribed
      obtain ⟨entry, hentry, rfl⟩ := List.mem_map.mp hdescribed
      exact hmatch entry hentry
    · rw [hvisible, List.flatMap_map]
      rfl

/-! ### Soundness -/

theorem coincides_nvidia {entry : Json} {device : AcceleratorDevice} :
    coincides .nvidia entry device ↔
      device.vendor = vendorName .nvidia ∧ HasUuid device (entryUuid entry) := by
  by_cases hv : device.vendor = vendorName .nvidia
  · simp [coincides, matchesEntry, HasUuid, hv]
  · simp [coincides, matchesEntry, hv]

/-- AMD and Intel devices are compared by the identity that counts. -/
theorem coincides_iff_identified {vendor : AcceleratorVendor} (hv : vendor ≠ .nvidia) {entry : Json}
    (haddr : Addressed entry) (device : AcceleratorDevice) :
    coincides vendor entry device ↔ Identified vendor entry device := by
  obtain ⟨pci, hpci⟩ := Option.isSome_iff_exists.mp haddr.2
  by_cases hvendor : device.vendor = vendorName vendor
  · cases vendor with
    | nvidia => exact absurd rfl hv
    | amd => simp [coincides, matchesEntry, Identified, hvendor, hpci]
    | intel => simp [coincides, matchesEntry, Identified, hvendor, hpci]
  · simp [coincides, matchesEntry, Identified, hvendor]

/-- Where the entry's UUID is one, NVIDIA devices are too. -/
theorem coincides_iff_identified_nvidia {entry : Json} (huuid : IsUuidHex (entryUuid entry))
    (device : AcceleratorDevice) :
    coincides .nvidia entry device ↔ Identified .nvidia entry device := by
  rw [coincides_nvidia]
  simp [Identified, huuid]

/-- An observation whose comparisons are identifications is sound. -/
theorem soundObservation_of_coincides {parse : JsonParser} {devices : Accelerators}
    {record : RawEvidence} {observation : RuntimeVisibility} {evidence : Json} {entries : List Json}
    (hentries : deviceEntries parse record.payload = some (evidence, entries))
    (hvendor : stringField evidence "vendor" [] = vendorName observation.vendor)
    (hmatch : ∀ entry ∈ entries, ∃ device ∈ devices.devices,
      coincides observation.vendor entry device)
    (hvisible : observation.visible = entries.flatMap fun entry =>
      (devices.devices.filter (coincides observation.vendor entry)).map (·.id))
    (h : ∀ entry ∈ entries, ∀ device, coincides observation.vendor entry device ↔
      Identified observation.vendor entry device) :
    SoundObservation parse devices record observation := by
  refine ⟨evidence, entries, hentries, hvendor, ?_, ?_⟩
  · intro entry hentry
    obtain ⟨device, hdevice, hco⟩ := hmatch entry hentry
    exact ⟨device, hdevice, (h entry hentry device).mp hco⟩
  · rw [hvisible]
    refine List.flatMap_congr fun entry hentry => ?_
    refine congrArg _ (List.filter_congr fun device _ => ?_)
    rw [Bool.eq_iff_iff, h entry hentry device, decide_eq_true_eq]

/-- The record names NVIDIA, and each of its entries has an address and a UUID that some NVIDIA device
has after normalisation. -/
def ResolvedNvidia (parse : JsonParser) (devices : Accelerators) (record : RawEvidence)
    (entries : List Json) : Prop :=
  (∃ evidence, deviceEntries parse record.payload = some (evidence, entries) ∧
    stringField evidence "vendor" [] = utf8 "NVIDIA") ∧
  ∀ entry ∈ entries, Addressed entry ∧ ∃ device ∈ devices.devices,
    device.vendor = utf8 "NVIDIA" ∧ HasUuid device (entryUuid entry)

/-- A resolved record of a store whose observations are sound has a UUID in every entry. -/
theorem isUuidHex_of_sound {parse : JsonParser} {raw : EvidenceStore} {devices : Accelerators}
    (hsound : RuntimeVisibilitySound parse raw devices) {record : RawEvidence}
    (hrecord : record ∈ raw.successes .acceleratorRuntime) {entries : List Json}
    (hresolved : ResolvedNvidia parse devices record entries) :
    ∀ entry ∈ entries, IsUuidHex (entryUuid entry) := by
  obtain ⟨⟨evidence, hentries, hvendor⟩, hall⟩ := hresolved
  have hmatch : ∀ entry ∈ entries, ∃ device ∈ devices.devices,
      coincides .nvidia entry device := by
    intro entry hentry
    obtain ⟨device, hdevice, hv, huuid⟩ := (hall entry hentry).2
    exact ⟨device, hdevice, coincides_nvidia.mpr ⟨hv, huuid⟩⟩
  have hobserved : observeRecord parse devices record = some
      { vendor := .nvidia
        visible := entries.flatMap fun entry =>
          (devices.devices.filter (coincides .nvidia entry)).map (·.id) } :=
    observeRecord_iff.mpr
      ⟨evidence, entries, hentries, hvendor, fun entry he => (hall entry he).1, hmatch, rfl⟩
  obtain ⟨evidence', entries', hentries', -, hid, -⟩ := hsound record hrecord _ hobserved
  obtain ⟨rfl, rfl⟩ := Prod.mk.inj (Option.some.inj (hentries.symm.trans hentries'))
  intro entry hentry
  obtain ⟨device, -, -, huuid, -⟩ := hid entry hentry
  exact huuid

/-- **Runtime visibility soundness.**  Every observation rests on stable identities of both sides exactly
when, in every resolved NVIDIA record, every entry has a UUID of 32 hexadecimal digits. -/
theorem runtimeVisibility_sound_iff (parse : JsonParser) (raw : EvidenceStore)
    (devices : Accelerators) :
    RuntimeVisibilitySound parse raw devices ↔
      ∀ record ∈ raw.successes .acceleratorRuntime, ∀ entries,
        ResolvedNvidia parse devices record entries →
          ∀ entry ∈ entries, IsUuidHex (entryUuid entry) := by
  constructor
  · exact fun hsound record hrecord entries hresolved =>
      isUuidHex_of_sound hsound hrecord hresolved
  · intro hcond record hrecord observation hobserved
    obtain ⟨evidence, entries, hentries, hvendor, haddr, hmatch, hvisible⟩ :=
      observeRecord_iff.mp hobserved
    refine soundObservation_of_coincides hentries hvendor hmatch hvisible ?_
    intro entry hentry device
    by_cases hnvidia : observation.vendor = .nvidia
    · rw [hnvidia] at hvendor hmatch ⊢
      refine coincides_iff_identified_nvidia ?_ device
      refine hcond record hrecord entries ⟨⟨evidence, hentries, hvendor⟩, ?_⟩ entry hentry
      intro e he
      obtain ⟨d, hd, hco⟩ := hmatch e he
      exact ⟨haddr e he, d, hd, coincides_nvidia.mp hco⟩
    · exact coincides_iff_identified hnvidia (haddr entry hentry) device

/-! ### An entry without a UUID -/

/-- `{"pci_bus_id": "0000:01:00.0"}`. -/
def anonymousEntry : Json := Json.object [("pci_bus_id", some (.str (utf8 "0000:01:00.0")))]

/-- `{"devices": [{"pci_bus_id": "0000:01:00.0"}], "vendor": "NVIDIA"}`. -/
def anonymousEvidence : Json :=
  Json.object [("devices", some (.array [anonymousEntry])), ("vendor", some (.str (utf8 "NVIDIA")))]

/-- The text of that evidence. -/
def anonymousPayload : Bytes :=
  utf8 "\x7b\"devices\":[\x7b\"pci_bus_id\":\"0000:01:00.0\"\x7d],\"vendor\":\"NVIDIA\"\x7d"

/-- A parser that reads that text. -/
def anonymousParser : JsonParser := fun text =>
  if text = anonymousPayload then some anonymousEvidence else none

/-- A record with that text. -/
def anonymousRecord : RawEvidence :=
  { source := .acceleratorRuntime
    pathOrCommand := utf8 "cuda"
    payload := anonymousPayload
    status := .success }

/-- A MIG instance under its legacy name, which does not normalise. -/
def legacyDevice : AcceleratorDevice :=
  { id := 7
    vendor := utf8 "NVIDIA"
    uuid := some (utf8 "MIG-GPU-8f3a/1/0")
    parentUuid := some (utf8 "GPU-8f3a") }

/-- **An entry without a UUID declares a device visible** whose UUID does not normalise. -/
theorem runtimeVisibility_unsound :
    ¬RuntimeVisibilitySound anonymousParser { records := [anonymousRecord] }
      { devices := [legacyDevice] } := by
  intro hsound
  have hentries : deviceEntries anonymousParser anonymousPayload =
      some (anonymousEvidence, [anonymousEntry]) := by
    simp [deviceEntries, anonymousParser, anonymousEvidence]
  have hvendor : stringField anonymousEvidence "vendor" [] = utf8 "NVIDIA" := by
    simp [stringField, anonymousEvidence]
  have haddr : Addressed anonymousEntry := by
    refine ⟨rfl, ?_⟩
    simp only [entryAddress, stringField, anonymousEntry, Json.object_field, Json.findField_cons]
    decide
  have huuid : entryUuid anonymousEntry = [] := by
    simp [entryUuid, stringField, anonymousEntry]
  have hresolved : ResolvedNvidia anonymousParser { devices := [legacyDevice] } anonymousRecord
      [anonymousEntry] := by
    refine ⟨⟨anonymousEvidence, hentries, hvendor⟩, ?_⟩
    intro entry hentry
    obtain rfl := List.mem_singleton.mp hentry
    refine ⟨haddr, legacyDevice, List.mem_singleton_self _, rfl, ?_⟩
    rw [huuid]
    decide
  have hhex := isUuidHex_of_sound hsound
    (by decide : anonymousRecord ∈ EvidenceStore.successes { records := [anonymousRecord] }
      .acceleratorRuntime) hresolved anonymousEntry (List.mem_singleton_self _)
  rw [huuid] at hhex
  exact absurd hhex (by decide)

end Sysal.AcceleratorParser
