import Mathlib.Data.List.Forall2
import Sysal.Foundation.Cuts
import Sysal.Foundation.Grouping
import Sysal.Parser.MemoryTopology

/-!
# Modules and EDAC devices

What `apply_edac_inventory` ties to what.  A module and a device belong together when both are the only
ones of their label and their size (`Tied`).  The modules change while the devices are visited, but
nothing of what the matching looks at does.

* `tieDimm_eq`: one device changes the module it is tied to and no other;
* `foldl_tieDimm`: what the loop over the devices makes of every module;
* `applyEdacInventory_spec`: the modules of firmware with their devices, or the devices in their place.
-/

namespace Sysal.MemoryParser

open Sysal
open Std (TreeMap)

/-! ### Pairs -/

/-- A module and a device that describe each other: the device is of kind `dimm` with a label and a size,
the module is present with that locator and that size, and there is no other of either. -/
structure Describes (dimms : List DimmInfo) (devices : List EdacMemoryDevice) (dimm : DimmInfo)
    (device : EdacMemoryDevice) : Prop where
  kind : device.kind = .dimm
  label : device.label ≠ []
  size : ∃ size, device.size = some size ∧ size ≠ 0 ∧
    (dimm.present = true ∧ dimm.locator = device.label ∧ dimm.size = size) ∧
    dimms.countP (fun other => other.present && other.locator = device.label && other.size = size) = 1
  unique : devices.countP (fun other =>
    other.kind = .dimm && other.label = device.label && other.size = device.size) = 1

/-- The module at one position and the device at another belong together. -/
def Tied (dimms : List DimmInfo) (devices : List EdacMemoryDevice) (i j : ℕ) : Prop :=
  ∃ dimm device, dimms[i]? = some dimm ∧ devices[j]? = some device ∧
    Describes dimms devices dimm device

/-- A module has one device. -/
theorem Tied.unique_device {dimms : List DimmInfo} {devices : List EdacMemoryDevice} {i j j' : ℕ}
    (h : Tied dimms devices i j) (h' : Tied dimms devices i j') : j = j' := by
  obtain ⟨dimm, device, hi, hj, hd⟩ := h
  obtain ⟨dimm', device', hi', hj', hd'⟩ := h'
  obtain rfl := Option.some.inj (hi.symm.trans hi')
  obtain ⟨size, hsize, -, ⟨-, hlocator, hdimm⟩, -⟩ := hd.size
  obtain ⟨size', hsize', -, ⟨-, hlocator', hdimm'⟩, -⟩ := hd'.size
  refine index_unique (le_of_eq hd.unique) hj hj' ?_ ?_
  · simp [hd.kind]
  · simp [hd'.kind, ← hlocator', hlocator, hsize, hsize', ← hdimm, hdimm']

/-- A device has one module. -/
theorem Tied.unique_dimm {dimms : List DimmInfo} {devices : List EdacMemoryDevice} {i i' j : ℕ}
    (h : Tied dimms devices i j) (h' : Tied dimms devices i' j) : i = i' := by
  obtain ⟨dimm, device, hi, hj, hd⟩ := h
  obtain ⟨dimm', device', hi', hj', hd'⟩ := h'
  obtain rfl := Option.some.inj (hj.symm.trans hj')
  obtain ⟨size, hsize, -, ⟨hpresent, hlocator, hdimm⟩, hcount⟩ := hd.size
  obtain ⟨size', hsize', -, ⟨hpresent', hlocator', hdimm'⟩, -⟩ := hd'.size
  obtain rfl := Option.some.inj (hsize.symm.trans hsize')
  refine index_unique (le_of_eq hcount) hi hi' ?_ ?_
  · simp [hpresent, hlocator, hdimm]
  · simp [hpresent', hlocator', hdimm']

/-! ### The loop -/

/-- `Describes` as a test. -/
def describes (dimms : List DimmInfo) (devices : List EdacMemoryDevice) (device : EdacMemoryDevice)
    (dimm : DimmInfo) : Bool :=
  device.size.any fun size =>
    device.kind = .dimm && !device.label.isEmpty && size ≠ 0 &&
      dimms.countP (matchesDimm device.label size) = 1 && devices.countP (matchesEdac device) = 1 &&
      matchesDimm device.label size dimm

theorem describes_iff {dimms : List DimmInfo} {devices : List EdacMemoryDevice}
    {device : EdacMemoryDevice} {dimm : DimmInfo} :
    describes dimms devices device dimm = true ↔ Describes dimms devices dimm device := by
  rw [describes, Option.any_eq_true]
  constructor
  · rintro ⟨size, hsize, h⟩
    simp only [Bool.and_eq_true, decide_eq_true_eq, Bool.not_eq_true', matchesDimm] at h
    obtain ⟨⟨⟨⟨⟨hkind, hlabel⟩, hne⟩, hdimms⟩, hdevices⟩, ⟨hpresent, hlocator⟩, hdimm⟩ := h
    exact ⟨hkind, by simpa using hlabel, ⟨size, hsize, hne, ⟨hpresent, hlocator, hdimm⟩, hdimms⟩,
      hdevices⟩
  · rintro ⟨hkind, hlabel, ⟨size, hsize, hne, ⟨hpresent, hlocator, hdimm⟩, hdimms⟩, hdevices⟩
    refine ⟨size, hsize, ?_⟩
    simp only [Bool.and_eq_true, decide_eq_true_eq, Bool.not_eq_true', matchesDimm]
    exact ⟨⟨⟨⟨⟨hkind, by simpa using hlabel⟩, hne⟩, hdimms⟩, hdevices⟩, ⟨hpresent, hlocator⟩, hdimm⟩

/-- One device changes the module it describes and no other. -/
theorem tieDimm_eq (devices : List EdacMemoryDevice) (dimms : List DimmInfo)
    (device : EdacMemoryDevice) :
    tieDimm devices dimms device = dimms.map fun dimm =>
      if describes dimms devices device dimm then associateDimm device dimm else dimm := by
  rw [tieDimm]
  cases hsize : device.size with
  | none => simp [describes, hsize]
  | some size =>
      dsimp only
      by_cases hdevice : device.kind ≠ .dimm ∨ device.label.isEmpty ∨ size = 0
      · rw [if_pos hdevice]
        have hno : ∀ dimm, describes dimms devices device dimm = false := fun dimm => by
          rw [describes, hsize, Option.any_some]
          rcases hdevice with h | h | h <;> simp [h]
        simp [hno]
      · rw [if_neg hdevice]
        simp only [not_or, not_not] at hdevice
        by_cases hcounts : dimms.countP (matchesDimm device.label size) ≠ 1 ∨
            devices.countP (matchesEdac device) ≠ 1
        · rw [if_pos hcounts]
          have hno : ∀ dimm, describes dimms devices device dimm = false := fun dimm => by
            rw [describes, hsize, Option.any_some]
            rcases hcounts with h | h <;> simp [h]
          simp [hno]
        · rw [if_neg hcounts]
          rw [not_or, not_not, not_not] at hcounts
          have hdescribes : ∀ dimm,
              describes dimms devices device dimm = matchesDimm device.label size dimm := fun dimm => by
            rw [describes, hsize, Option.any_some]
            simp [hdevice, hcounts]
          have hsome : ∀ dimm, (if matchesDimm device.label size dimm = true then
              some (associateDimm device dimm) else none).isSome = matchesDimm device.label size dimm :=
            fun dimm => by split <;> simp_all
          rw [lookmap_eq_map (le_of_eq (by simp only [hsome]; exact hcounts.1))]
          refine List.map_congr_left fun dimm _ => ?_
          rw [hdescribes]
          split <;> rfl

/-- What the loop has made of a module: the devices that describe it, one after the other. -/
def tiedDimm (dimms : List DimmInfo) (devices : List EdacMemoryDevice) (dimm : DimmInfo)
    (visited : List EdacMemoryDevice) : DimmInfo :=
  (visited.filter (describes dimms devices · dimm)).foldl (fun dimm device => associateDimm device dimm)
    dimm

/-- What the matching looks at stays as it is. -/
theorem matchesDimm_tiedDimm (dimms : List DimmInfo) (devices : List EdacMemoryDevice) (dimm : DimmInfo)
    (visited : List EdacMemoryDevice) (label : Bytes) (size : MemorySize) :
    matchesDimm label size (tiedDimm dimms devices dimm visited) = matchesDimm label size dimm := by
  rw [tiedDimm]
  generalize visited.filter (describes dimms devices · dimm) = ties
  induction ties generalizing dimm with
  | nil => rfl
  | cons device ties ih => rw [List.foldl_cons, ih]; rfl

/-- The loop over the devices is one over them for every module. -/
theorem foldl_tieDimm (dimms : List DimmInfo) (devices visited : List EdacMemoryDevice) :
    visited.foldl (tieDimm devices) dimms =
      dimms.map fun dimm => tiedDimm dimms devices dimm visited := by
  induction visited using List.reverseRecOn with
  | nil => simp [tiedDimm]
  | append_singleton visited device ih =>
      rw [List.foldl_append, List.foldl_cons, List.foldl_nil, ih, tieDimm_eq, List.map_map]
      refine List.map_congr_left fun dimm _ => ?_
      have hsame : describes (dimms.map fun dimm => tiedDimm dimms devices dimm visited) devices device
          (tiedDimm dimms devices dimm visited) = describes dimms devices device dimm := by
        simp only [describes, List.countP_map, Function.comp_def, matchesDimm_tiedDimm]
      rw [Function.comp_apply, hsame, tiedDimm, tiedDimm, List.filter_append, List.foldl_append]
      by_cases h : describes dimms devices device dimm = true
      · rw [if_pos h, List.filter_cons_of_pos (by exact h)]
        rfl
      · rw [if_neg h, List.filter_cons_of_neg (by exact h)]
        rfl

/-- At most one device describes a module. -/
theorem countP_describes_le_one (dimms : List DimmInfo) (devices : List EdacMemoryDevice)
    (dimm : DimmInfo) : devices.countP (describes dimms devices · dimm) ≤ 1 := by
  by_cases hany : ∃ device ∈ devices, describes dimms devices device dimm = true
  · obtain ⟨device, -, hdevice⟩ := hany
    have hd := describes_iff.mp hdevice
    obtain ⟨size, hsize, -, ⟨-, hlocator, hdimm⟩, -⟩ := hd.size
    refine (List.countP_mono_left ?_).trans (le_of_eq hd.unique)
    intro other _ hother
    have ho := describes_iff.mp hother
    obtain ⟨size', hsize', -, ⟨-, hlocator', hdimm'⟩, -⟩ := ho.size
    simp [ho.kind, ← hlocator', hlocator, hsize, hsize', ← hdimm, hdimm']
  · rw [not_exists] at hany
    refine le_of_eq_of_le (List.countP_eq_zero.mpr fun device hdevice h => ?_) (Nat.zero_le 1)
    exact hany device ⟨hdevice, h⟩

/-- A module ends up with its device, or as it was. -/
theorem tiedDimm_cases (devices : List EdacMemoryDevice) {dimms : List DimmInfo} {dimm : DimmInfo}
    {i : ℕ} (hi : dimms[i]? = some dimm) :
    (∃ j device, devices[j]? = some device ∧ Tied dimms devices i j ∧
        tiedDimm dimms devices dimm devices = associateDimm device dimm) ∨
      ((∀ j, ¬Tied dimms devices i j) ∧ tiedDimm dimms devices dimm devices = dimm) := by
  have hlength := countP_describes_le_one dimms devices dimm
  rw [List.countP_eq_length_filter] at hlength
  rw [tiedDimm]
  rcases hties : devices.filter (describes dimms devices · dimm) with _ | ⟨device, _ | ⟨other, ties⟩⟩
  · refine Or.inr ⟨?_, rfl⟩
    rintro j ⟨dimm', device, hi', hj, hd⟩
    obtain rfl := Option.some.inj (hi.symm.trans hi')
    exact List.filter_eq_nil_iff.mp hties device (List.mem_of_getElem? hj) (describes_iff.mpr hd)
  · have hmem : device ∈ devices.filter (describes dimms devices · dimm) :=
      hties ▸ List.mem_cons_self
    obtain ⟨hdevice, hdescribes⟩ := List.mem_filter.mp hmem
    obtain ⟨j, hj⟩ := List.mem_iff_getElem?.mp hdevice
    exact Or.inl ⟨j, device, hj, ⟨dimm, device, hi, hj, describes_iff.mp hdescribes⟩, rfl⟩
  · rw [hties, List.length_cons, List.length_cons] at hlength
    omega

/-! ### Devices in the place of modules -/

/-- A module that a device with a size stands in for: all it says of the module comes from the device. -/
def StandsIn (device : EdacMemoryDevice) (dimm : DimmInfo) : Prop :=
  ∃ size, device.size = some size ∧ dimm =
    { locator := device.label
      bankLocator := device.location.report
      size := size
      present := 0 < size
      memoryType := device.memoryType
      edacMode := device.edacMode
      deviceWidth := device.deviceWidth
      controllerIndex := some device.controllerIndex
      edacDeviceIndex := some device.index
      edacAssociation := .edacInventory }

theorem foldl_fallbackDimm (devices : List EdacMemoryDevice) (s : List DimmInfo × Bytes) :
    ∃ added, (devices.foldl fallbackDimm s).1 = s.1 ++ added ∧
      List.Forall₂ StandsIn
        (devices.filter fun device => device.kind = .dimm && device.size.isSome) added := by
  induction devices generalizing s with
  | nil => exact ⟨[], by simp, List.Forall₂.nil⟩
  | cons device devices ih =>
      obtain ⟨added, hadded, hforall⟩ := ih (fallbackDimm s device)
      rw [List.foldl_cons, hadded, fallbackDimm]
      cases hsize : device.size with
      | none => exact ⟨added, rfl, by simpa [hsize] using hforall⟩
      | some size =>
          dsimp only
          by_cases hkind : device.kind = .dimm
          · rw [if_neg (not_not.mpr hkind)]
            refine ⟨inventoryDimm device size :: added, by simp, ?_⟩
            rw [List.filter_cons_of_pos (by simp [hkind, hsize])]
            exact List.Forall₂.cons ⟨size, hsize, rfl⟩ hforall
          · rw [if_pos hkind]
            exact ⟨added, rfl, by simpa [hkind] using hforall⟩

/-! ### The directories of the devices -/

/-- The directory of a device: called `dimm` or `rank` after its kind, and then the number of the
device. -/
structure NamedBy (device : EdacMemoryDevice) (directory : Bytes) : Prop where
  kind : device.kind = .dimm ∨ device.kind = .rank
  name : ∃ front number, 47 ∉ number ∧ parseUint32 number = some device.index ∧
    directory = front ++ utf8 (if device.kind = .dimm then "/dimm" else "/rank") ++ number

/-- A directory with a name of four letters and a rest. -/
theorem eq_of_startsWith {directory front name word : Bytes} (hdirectory : directory = front ++ 47 :: name)
    (hname : 47 ∉ name) (hword : word.length = 4) (h : name.startsWith word = true) :
    47 ∉ name.drop 4 ∧ directory = front ++ (47 :: word) ++ name.drop 4 := by
  rw [Bytes.startsWith, List.isPrefixOf_iff_prefix] at h
  obtain ⟨number, rfl⟩ := h
  rw [List.drop_left' hword, hdirectory]
  exact ⟨fun h => hname (List.mem_append_right _ h), by simp⟩

theorem edacDeviceKind_cases {name : Bytes} (h : edacDeviceKind name ≠ .unknown) :
    edacDeviceKind name = .dimm ∧ name.startsWith (utf8 "dimm") = true ∨
      edacDeviceKind name = .rank ∧ name.startsWith (utf8 "rank") = true := by
  rw [edacDeviceKind] at h ⊢
  by_cases hdimm : name.startsWith (utf8 "dimm") = true
  · rw [if_pos hdimm]
    exact Or.inl ⟨rfl, hdimm⟩
  · rw [if_neg hdimm] at h ⊢
    by_cases hrank : name.startsWith (utf8 "rank") = true
    · rw [if_pos hrank]
      exact Or.inr ⟨rfl, hrank⟩
    · rw [if_neg hrank] at h
      exact absurd rfl h

/-- Only a child directory of a controller has an identity, and it is called after it. -/
theorem namedBy_deviceIdentity {directory : Bytes} {device : EdacMemoryDevice}
    (h : deviceIdentity directory = some device) : NamedBy device directory := by
  rw [deviceIdentity] at h
  cases hcontroller : edacControllerIndex directory with
  | none =>
      rw [hcontroller] at h
      cases h
  | some controller =>
      rw [hcontroller] at h
      dsimp only at h
      by_cases hkind : edacDeviceKind (extractFilename directory) = .unknown
      · rw [if_pos hkind] at h
        cases h
      rw [if_neg hkind] at h
      cases hindex : parseUint32 ((extractFilename directory).drop 4) with
      | none =>
          rw [hindex] at h
          cases h
      | some index =>
          rw [hindex] at h
          dsimp only at h
          split at h
          · cases h
          · rename_i hparent
            obtain rfl := Option.some.inj h
            cases hcut : Bytes.rcut directory 47 with
            | none =>
                -- without a slash the directory would be its own parent
                simp only [extractFilename, parentDirectory, hcut, ne_eq, not_not] at hparent hkind
                rcases edacDeviceKind_cases hkind with ⟨-, hstart⟩ | ⟨-, hstart⟩
                all_goals
                  rw [hparent, Bytes.startsWith] at hstart
                  exact absurd (show false = true from hstart) Bool.false_ne_true
            | some parts =>
                obtain ⟨front, name⟩ := parts
                obtain ⟨hdirectory, hname⟩ := rcut_eq_some_iff.mp hcut
                rw [extractFilename, hcut] at hkind hindex ⊢
                dsimp only at hkind hindex ⊢
                rcases edacDeviceKind_cases hkind with ⟨heq, hstart⟩ | ⟨heq, hstart⟩
                · obtain ⟨hnumber, hall⟩ := eq_of_startsWith hdirectory hname (by decide) hstart
                  exact ⟨Or.inl heq, front, _, hnumber, hindex, by rw [heq]; exact hall⟩
                · obtain ⟨hnumber, hall⟩ := eq_of_startsWith hdirectory hname (by decide) hstart
                  exact ⟨Or.inr heq, front, _, hnumber, hindex, by rw [heq]; exact hall⟩

/-- An attribute leaves the identity alone. -/
theorem NamedBy.readDeviceField {device : EdacMemoryDevice} {directory : Bytes}
    (h : NamedBy device directory) (field payload : Bytes) :
    NamedBy (readDeviceField device field payload) directory := by
  obtain ⟨hkind, hindex⟩ : (MemoryParser.readDeviceField device field payload).kind = device.kind ∧
      (MemoryParser.readDeviceField device field payload).index = device.index := by
    rw [MemoryParser.readDeviceField]
    split_ifs
    · exact ⟨rfl, rfl⟩
    · exact ⟨rfl, rfl⟩
    · exact ⟨rfl, rfl⟩
    · exact ⟨rfl, rfl⟩
    · exact ⟨rfl, rfl⟩
    · cases (parseUint (trim payload)).bind mebibytes <;> exact ⟨rfl, rfl⟩
    · exact ⟨rfl, rfl⟩
  refine ⟨hkind ▸ h.kind, ?_⟩
  rw [hkind, hindex]
  exact h.name

/-- Every device of the scan is that of a directory with a record. -/
def DevicesNamed (raw : EvidenceStore) (grouped : TreeMap Bytes EdacMemoryDevice compare) : Prop :=
  ∀ directory device, grouped[directory]? = some device → NamedBy device directory ∧
    ∃ record ∈ raw.successes .sysfsEdac, ∃ field,
      record.pathOrCommand = directory ++ 47 :: field ∧ 47 ∉ field

theorem DevicesNamed.scanDevice {raw : EvidenceStore}
    {grouped : TreeMap Bytes EdacMemoryDevice compare} (h : DevicesNamed raw grouped)
    {record : RawEvidence} (hrecord : record ∈ raw.successes .sysfsEdac) :
    DevicesNamed raw (scanDevice grouped record) := by
  intro directory device hget
  rw [MemoryParser.scanDevice] at hget
  cases hcut : Bytes.rcut record.pathOrCommand 47 with
  | none =>
      rw [hcut] at hget
      exact h directory device hget
  | some parts =>
      obtain ⟨found, field⟩ := parts
      rw [hcut] at hget
      dsimp only at hget
      cases hidentity : deviceIdentity found with
      | none =>
          rw [hidentity] at hget
          exact h directory device hget
      | some identity =>
          rw [hidentity] at hget
          dsimp only at hget
          rw [TreeMap.getElem?_insert] at hget
          split at hget
          · rename_i heq
            obtain rfl := Std.compare_eq_iff_eq.mp heq
            obtain rfl := Option.some.inj hget
            obtain ⟨hpath, hfield⟩ := rcut_eq_some_iff.mp hcut
            refine ⟨NamedBy.readDeviceField ?_ field record.payload, record, hrecord, field, hpath,
              hfield⟩
            rw [TreeMap.getD_eq_getD_getElem?]
            cases hbefore : grouped[found]? with
            | none => exact namedBy_deviceIdentity hidentity
            | some before => exact (h found before hbefore).1
          · exact h directory device hget

theorem namedBy_of_mem {raw : EvidenceStore} {device : EdacMemoryDevice}
    (h : device ∈ edacDevices raw) : ∃ record ∈ raw.successes .sysfsEdac, ∃ directory field,
      record.pathOrCommand = directory ++ 47 :: field ∧ 47 ∉ field ∧ NamedBy device directory := by
  have hscan : DevicesNamed raw ((raw.successes .sysfsEdac).foldl scanDevice ∅) := by
    refine List.foldlRecOn (motive := DevicesNamed raw) _ _ ?_ fun _ ih record hrecord =>
      ih.scanDevice hrecord
    intro directory device hget
    rw [TreeMap.getElem?_emptyc] at hget
    cases hget
  obtain ⟨⟨directory, found⟩, hmem, rfl⟩ := List.mem_map.mp h
  obtain ⟨hnamed, record, hrecord, field, hpath, hfield⟩ :=
    hscan directory found (TreeMap.mem_toList_iff_getElem?_eq_some.mp hmem)
  exact ⟨record, hrecord, directory, field, hpath, hfield, hnamed⟩

/-! ### The order of the devices -/

theorem deviceOrder_iff {left right : EdacMemoryDevice} :
    deviceOrder left right = true ↔
      left.controllerIndex.toNat < right.controllerIndex.toNat ∨
        left.controllerIndex.toNat = right.controllerIndex.toNat ∧
          (CEnum.code left.kind < CEnum.code right.kind ∨
            CEnum.code left.kind = CEnum.code right.kind ∧ left.index.toNat ≤ right.index.toNat) := by
  rw [deviceOrder]
  by_cases hcontroller : left.controllerIndex = right.controllerIndex
  · rw [if_neg (not_not.mpr hcontroller), hcontroller]
    by_cases hkind : left.kind = right.kind
    · rw [if_neg (not_not.mpr hkind), hkind, decide_eq_true_eq, UInt32.le_iff_toNat_le]
      omega
    · have hcode : CEnum.code left.kind ≠ CEnum.code right.kind := fun h =>
        hkind (CEnum.code_injective h)
      rw [if_pos hkind, decide_eq_true_eq]
      omega
  · have hne : left.controllerIndex.toNat ≠ right.controllerIndex.toNat := fun h =>
      hcontroller (UInt32.toNat_inj.mp h)
    rw [if_pos hcontroller, decide_eq_true_eq, UInt32.lt_iff_toNat_lt]
    omega

/-- The sorted devices come in the order of the result. -/
theorem pairwise_deviceOrder (devices : List EdacMemoryDevice) :
    (devices.mergeSort deviceOrder).Pairwise fun a b => deviceOrder a b = true := by
  refine List.pairwise_mergeSort ?_ ?_ devices
  · intro a b c hab hbc
    rw [deviceOrder_iff] at hab hbc ⊢
    omega
  · intro a b
    rw [Bool.or_eq_true, deviceOrder_iff, deviceOrder_iff]
    omega

/-- Devices of one kind come by controller and number. -/
theorem pairwise_dimmDevices (devices : List EdacMemoryDevice) :
    ((devices.mergeSort deviceOrder).filter fun device =>
      device.kind = .dimm && device.size.isSome).Pairwise fun a b =>
        a.controllerIndex < b.controllerIndex ∨
          a.controllerIndex = b.controllerIndex ∧ a.index ≤ b.index := by
  refine List.Pairwise.imp_of_mem ?_ ((pairwise_deviceOrder devices).filter _)
  intro a b ha hb horder
  have hakind := (List.mem_filter.mp ha).2
  have hbkind := (List.mem_filter.mp hb).2
  rw [Bool.and_eq_true, decide_eq_true_eq] at hakind hbkind
  rw [deviceOrder_iff, hakind.1, hbkind.1] at horder
  rw [UInt32.lt_iff_toNat_lt, UInt32.le_iff_toNat_le, ← UInt32.toNat_inj]
  omega

/-! ### The result -/

/-- What the EDAC records make of a memory.  With modules of firmware, every module is at its place, as
the one device it is tied to says or as it was; without any, the devices of kind `dimm` with a size stand
in for them. -/
structure AppliesEdac (raw : EvidenceStore) (before after : Memory) : Prop where
  others : after = { before with
    edacDevices := after.edacDevices
    dimms := after.dimms
    dimmInventorySource := after.dimmInventorySource }
  devices : after.edacDevices.Perm (before.edacDevices ++ edacDevices raw)
  /-- The devices of the records are those of directories called `dimm` or `rank`. -/
  named : ∀ device ∈ edacDevices raw, ∃ record ∈ raw.successes .sysfsEdac, ∃ directory field,
    record.pathOrCommand = directory ++ 47 :: field ∧ 47 ∉ field ∧ NamedBy device directory
  length : before.dimms ≠ [] → after.dimms.length = before.dimms.length
  tied : before.dimms ≠ [] → ∀ i dimm, before.dimms[i]? = some dimm →
    (∃ j device, after.edacDevices[j]? = some device ∧ Tied before.dimms after.edacDevices i j ∧
        after.dimms[i]? = some { dimm with
          edacMode := device.edacMode
          deviceWidth := device.deviceWidth
          controllerIndex := some device.controllerIndex
          edacDeviceIndex := some device.index
          edacAssociation := .labelAndCapacity }) ∨
      ((∀ j, ¬Tied before.dimms after.edacDevices i j) ∧ after.dimms[i]? = some dimm)
  injective : ∀ i j i' j', Tied before.dimms after.edacDevices i j →
    Tied before.dimms after.edacDevices i' j' → (i = i' ↔ j = j')
  standIn : before.dimms = [] → ∃ sources,
    sources = after.edacDevices.filter (fun device => device.kind = .dimm && device.size.isSome) ∧
      (sources.Pairwise fun a b => a.controllerIndex < b.controllerIndex ∨
        a.controllerIndex = b.controllerIndex ∧ a.index ≤ b.index) ∧
      List.Forall₂ StandsIn sources after.dimms

/-- **A module and a device are tied exactly when each is the only one of its label and size**, and
devices stand in only where firmware reports no modules. -/
theorem applyEdacInventory_spec (raw : EvidenceStore) (memory : Memory) (memoryType : Bytes) :
    AppliesEdac raw memory (applyEdacInventory raw (memory, memoryType)).1 := by
  have hinjective : ∀ (dimms : List DimmInfo) devices i j i' j', Tied dimms devices i j →
      Tied dimms devices i' j' → (i = i' ↔ j = j') := by
    intro dimms devices i j i' j' h h'
    constructor
    · rintro rfl
      exact h.unique_device h'
    · rintro rfl
      exact h.unique_dimm h'
  rw [applyEdacInventory]
  by_cases hempty : memory.dimms = []
  · obtain ⟨added, hadded, hforall⟩ := foldl_fallbackDimm
      ((memory.edacDevices ++ edacDevices raw).mergeSort deviceOrder) (memory.dimms, memoryType)
    dsimp only
    rw [if_pos (by rw [hempty]; rfl), hadded, hempty, List.nil_append]
    exact
      { others := rfl
        devices := List.mergeSort_perm _ _
        named := fun _ => namedBy_of_mem
        length := fun h => absurd hempty h
        tied := fun h => absurd hempty h
        injective := hinjective _ _
        standIn := fun _ => ⟨_, rfl, pairwise_dimmDevices _, hforall⟩ }
  · dsimp only
    rw [if_neg (by simpa using hempty), foldl_tieDimm]
    exact
      { others := rfl
        devices := List.mergeSort_perm _ _
        named := fun _ => namedBy_of_mem
        length := fun _ => List.length_map _
        tied := by
          intro _ i dimm hi
          rw [List.getElem?_map, hi, Option.map_some]
          rcases tiedDimm_cases ((memory.edacDevices ++ edacDevices raw).mergeSort deviceOrder) hi with
            ⟨j, device, hj, htied, heq⟩ | ⟨hno, heq⟩
          · exact Or.inl ⟨j, device, hj, htied, congrArg some heq⟩
          · exact Or.inr ⟨hno, congrArg some heq⟩
        injective := hinjective _ _
        standIn := fun h => absurd h hempty }

/-- A successful record of a file below a memory controller. -/
def controllerRecord (path payload : String) : RawEvidence :=
  { source := .sysfsEdac, pathOrCommand := utf8 "/sys/devices/system/edac/mc/mc0/" ++ utf8 path
    payload := utf8 payload, status := .success }

/-- A module, a rank and a chip select row of one controller. -/
def modulesStore : EvidenceStore :=
  { records :=
      [controllerRecord "dimm0/size" "16\n", controllerRecord "dimm0/dimm_label" "A1\n",
       controllerRecord "rank1/size" "8\n", controllerRecord "csrow0/size_mb" "16\n"] }

/-- The module stands in for those of firmware, or is tied to the one with its label and its size. -/
theorem applyEdacInventory_spec_modules :
    let standIn := (applyEdacInventory modulesStore ({}, [])).1
    let firmware : Memory := { dimms := [{ locator := utf8 "A1", size := 16777216, present := true }] }
    let tied := (applyEdacInventory modulesStore (firmware, [])).1
    standIn.dimms.map (fun dimm => (dimm.locator, dimm.size, dimm.edacAssociation)) =
        [(utf8 "A1", 16777216, .edacInventory)] ∧
      tied.dimms.map (·.edacAssociation) = [.labelAndCapacity] ∧
        AppliesEdac modulesStore {} standIn ∧ AppliesEdac modulesStore firmware tied := by
  intro standIn firmware tied
  have hsorted : (edacDevices modulesStore).mergeSort deviceOrder = edacDevices modulesStore :=
    List.mergeSort_of_pairwise (by decide +kernel)
  refine ⟨?_, ?_, applyEdacInventory_spec modulesStore {} [],
    applyEdacInventory_spec modulesStore firmware []⟩
  · simp only [standIn, applyEdacInventory, List.nil_append, hsorted]
    decide +kernel
  · simp only [tied, firmware, applyEdacInventory, List.nil_append, hsorted]
    decide +kernel

end Sysal.MemoryParser
