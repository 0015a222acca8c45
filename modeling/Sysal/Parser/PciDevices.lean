import Sysal.Foundation.Grouping
import Sysal.Parser.Pci

/-!
# PCI devices and their addresses

The devices are told apart by the texts of their addresses, the directory names of sysfs and the
normalised addresses of `lspci`, and refer to each other by the addresses themselves.

* `Tracks.push`, `Tracks.scanLspciLine`: each text has one device, whose address it denotes;
* `scanLspciLine_keeps`: a line changes nothing but the name of a device;
* `parsePci_devices_iff`: the devices are a function of their addresses exactly when no two texts denote
  one address.
-/

namespace Sysal.PciParser

open Sysal Std

/-! ### Texts of addresses -/

/-- The directory names of sysfs. -/
def sysfsNames (raw : EvidenceStore) : List Bytes :=
  (raw.successes .sysfsPci).map (extractPciAddressFromPath ·.pathOrCommand)

/-- A directory name or the address of a well-formed line of `lspci`. -/
def AddressOccurs (raw : EvidenceStore) (text : Bytes) : Prop :=
  text ∈ sysfsNames raw ∨ ∃ line ∈ lspciLines raw, ∃ name, parseLspciLine line = some (text, name)

/-- No two texts of the evidence denote one address. -/
def SpelledOnce (raw : EvidenceStore) : Prop :=
  ∀ text text' address, AddressOccurs raw text → AddressOccurs raw text' →
    parsePciAddress text = some address → parsePciAddress text' = some address → text = text'

/-- The address of a well-formed line is read. -/
theorem parseLspciLine_address {line text name : Bytes} (h : parseLspciLine line = some (text, name)) :
    ∃ address, parsePciAddress text = some address := by
  simp only [parseLspciLine, Option.bind_eq_bind, Option.bind_eq_some_iff] at h
  obtain ⟨_, -, address, haddress, _, -, _, -, h⟩ := h
  obtain ⟨rfl, -⟩ := Prod.mk.inj (Option.some.inj h)
  exact ⟨address, haddress⟩

/-! ### One device for each text -/

/-- The texts the devices of a scan are known by, in the order of the devices. -/
structure Tracks (s : PciScan) (texts : List Bytes) : Prop where
  nodup : texts.Nodup
  index : ∀ (text : Bytes) (i : ℕ), s.addrIndex[text]? = some i ↔ texts[i]? = some text
  addresses : texts.map parsePciAddress = s.devices.map (some ·.address)

variable {s : PciScan} {texts : List Bytes}

theorem Tracks.length_eq (h : Tracks s texts) : texts.length = s.devices.length := by
  simpa using congrArg List.length h.addresses

theorem getElem?_append_singleton_eq_some {α : Type} {l : List α} {x y : α} {i : ℕ} :
    (l ++ [x])[i]? = some y ↔ l[i]? = some y ∨ (i = l.length ∧ x = y) := by
  rcases Nat.lt_trichotomy i l.length with h | rfl | h
  · rw [List.getElem?_append_left h]
    simp [Nat.ne_of_lt h]
  · simp
  · rw [List.getElem?_eq_none (by simp; omega), List.getElem?_eq_none (by omega)]
    simp [Nat.ne_of_gt h]

/-- A device with a new text. -/
theorem Tracks.push (h : Tracks s texts) {text : Bytes} {dev : PciDevice} (hnew : text ∉ texts)
    (haddress : parsePciAddress text = some dev.address) :
    Tracks (s.push text dev) (texts ++ [text]) where
  nodup := by
    rw [← List.concat_eq_append]
    exact h.nodup.concat hnew
  index other i := by
    rw [PciScan.push, TreeMap.getElem?_insert, getElem?_append_singleton_eq_some, ← h.length_eq]
    by_cases hother : text = other
    · subst hother
      rw [if_pos ReflOrd.compare_self, Option.some_inj]
      constructor
      · rintro rfl
        exact Or.inr ⟨rfl, rfl⟩
      · rintro (hi | ⟨hi, -⟩)
        · exact absurd (List.mem_of_getElem? hi) hnew
        · exact hi.symm
    · rw [if_neg (LawfulEqOrd.compare_eq_iff_eq.not.mpr hother), h.index]
      simp [hother]
  addresses := by
    rw [PciScan.push, List.map_append, List.map_append, h.addresses]
    simp [haddress]

/-- A device with another name. -/
theorem Tracks.rename (h : Tracks s texts) (i : ℕ) (name : Bytes) :
    Tracks { s with devices := s.devices.modify i fun dev => { dev with deviceName := name } }
      texts where
  nodup := h.nodup
  index := h.index
  addresses := by
    rw [h.addresses]
    refine List.ext_getElem? fun j => ?_
    simp only [List.getElem?_map, List.getElem?_modify]
    cases s.devices[j]? with
    | none => rfl
    | some dev => by_cases hij : i = j <;> simp [hij]

theorem Tracks.warn (h : Tracks s texts) (warnings : List Bytes) :
    Tracks { s with warnings := s.warnings ++ warnings } texts :=
  ⟨h.nodup, h.index, h.addresses⟩

/-- A directory becomes a device when its name is an address. -/
theorem Tracks.scanPciGroup (h : Tracks s texts) {group : Bytes × List RawEvidence}
    (hnew : group.1 ∉ texts) :
    Tracks (scanPciGroup s group)
      (texts ++ [group.1].filter fun text => (parsePciAddress text).isSome) := by
  rw [PciParser.scanPciGroup]
  cases haddress : parsePciAddress group.1 with
  | none =>
      rw [List.filter_cons_of_neg (by simp [haddress]), List.filter_nil, List.append_nil]
      exact h.warn _
  | some address =>
      rw [List.filter_cons_of_pos (by simp [haddress]), List.filter_nil]
      exact (h.warn _).push hnew (by rw [haddress, readPciFiles_address])

/-- A well-formed line names the device of its text or adds one. -/
theorem Tracks.scanLspciLine (h : Tracks s texts) (line : Bytes) :
    ∃ texts', Tracks (scanLspciLine s line) texts' ∧ ∀ text, text ∈ texts' ↔
      text ∈ texts ∨ ∃ name, parseLspciLine line = some (text, name) := by
  rw [PciParser.scanLspciLine]
  rcases hline : parseLspciLine line with _ | ⟨text, name⟩
  · exact ⟨texts, h, by simp⟩
  · obtain ⟨address, haddress⟩ := parseLspciLine_address hline
    dsimp only
    rcases hindex : s.addrIndex[text]? with _ | i
    · have hnew : text ∉ texts := by
        intro hmem
        obtain ⟨i, hi⟩ := List.mem_iff_getElem?.mp hmem
        rw [(h.index text i).mpr hi] at hindex
        cases hindex
      dsimp only
      rw [haddress]
      refine ⟨texts ++ [text], (h.warn _).push hnew haddress, fun other => ?_⟩
      simp [eq_comm]
    · have hmem : text ∈ texts := List.mem_of_getElem? ((h.index text i).mp hindex)
      refine ⟨texts, h.rename i name, fun other => ⟨Or.inl, ?_⟩⟩
      rintro (hother | ⟨name', heq⟩)
      · exact hother
      · obtain ⟨rfl, -⟩ := Prod.mk.inj (Option.some.inj heq)
        exact hmem

/-! ### The devices of sysfs -/

/-- The records of one directory. -/
def directoryRecords (raw : EvidenceStore) (name : Bytes) : List RawEvidence :=
  (raw.successes .sysfsPci).filter fun record =>
    extractPciAddressFromPath record.pathOrCommand = name

/-- The groups are the directories by increasing name. -/
theorem toList_pciGroups (raw : EvidenceStore) :
    ((raw.successes .sysfsPci).foldl groupPciRecord ∅).toList =
      (sortedSet (sysfsNames raw)).map fun name => (name, directoryRecords raw name) := by
  have hscan : groupPciRecord = fileUnder (fun record =>
      some (extractPciAddressFromPath record.pathOrCommand)) fun _ group record => group ++ [record] := rfl
  have hgroup (l group : List RawEvidence) :
      l.foldl (fun group record => group ++ [record]) group = group ++ l := by
    induction l generalizing group with
    | nil => simp
    | cons record l ih => rw [List.foldl_cons, ih, List.append_assoc, List.singleton_append]
  rw [hscan, toList_foldl_fileUnder]
  have hnames : (raw.successes .sysfsPci).filterMap (fun record =>
      some (extractPciAddressFromPath record.pathOrCommand)) = sysfsNames raw := by
    rw [sysfsNames, List.filterMap_eq_map']
  rw [hnames]
  refine List.map_congr_left fun name _ => ?_
  have hempty : (default : List RawEvidence) = [] := rfl
  rw [groupOf, hgroup, hempty]
  simp [directoryRecords]

/-- The names that are addresses. -/
def deviceNames (raw : EvidenceStore) : List Bytes :=
  (sortedSet (sysfsNames raw)).filter fun text => (parsePciAddress text).isSome

theorem scanGroups_tracks {groups : List (Bytes × List RawEvidence)}
    (hnodup : (groups.map Prod.fst).Nodup) :
    Tracks (groups.foldl scanPciGroup {})
      ((groups.map Prod.fst).filter fun text => (parsePciAddress text).isSome) := by
  induction groups using List.reverseRecOn with
  | nil => exact ⟨List.nodup_nil, by simp, rfl⟩
  | append_singleton groups group ih =>
      rw [List.map_append, List.nodup_append] at hnodup
      rw [List.foldl_append, List.map_append, List.filter_append]
      refine (ih hnodup.1).scanPciGroup fun hmem => ?_
      exact hnodup.2.2 group.1 (List.mem_of_mem_filter hmem) group.1 (by simp) rfl

theorem scanSysfs_tracks (raw : EvidenceStore) : Tracks (scanSysfs raw) (deviceNames raw) := by
  set groups := (sortedSet (sysfsNames raw)).map fun name => (name, directoryRecords raw name)
    with hgroups
  have hfst : groups.map Prod.fst = sortedSet (sysfsNames raw) := by
    rw [hgroups, List.map_map]
    exact List.map_id _
  have htracks : Tracks (groups.foldl scanPciGroup {})
      ((groups.map Prod.fst).filter fun text => (parsePciAddress text).isSome) := by
    refine scanGroups_tracks ?_
    rw [hfst]
    exact sortedSet_nodup _
  rw [hfst] at htracks
  rw [scanSysfs, toList_pciGroups]
  exact htracks

/-! ### All devices -/

/-- After lines of `lspci` every text that occurs has one device. -/
theorem scanLines_tracks (raw : EvidenceStore) (lines : List Bytes) :
    ∃ texts, Tracks (lines.foldl scanLspciLine (scanSysfs raw)) texts ∧ ∀ text, text ∈ texts ↔
      text ∈ deviceNames raw ∨ ∃ line ∈ lines, ∃ name, parseLspciLine line = some (text, name) := by
  induction lines using List.reverseRecOn with
  | nil => exact ⟨deviceNames raw, scanSysfs_tracks raw, by simp⟩
  | append_singleton lines line ih =>
      obtain ⟨texts, htracks, hmem⟩ := ih
      obtain ⟨texts', htracks', hmem'⟩ := htracks.scanLspciLine line
      rw [List.foldl_append]
      refine ⟨texts', htracks', fun text => ?_⟩
      rw [hmem', hmem, or_assoc]
      simp [or_and_right, exists_or]

/-- What a line can do to the devices. -/
theorem scanLspciLine_devices (s : PciScan) (line : Bytes) :
    (scanLspciLine s line).devices = s.devices ∨
      (∃ i name, (scanLspciLine s line).devices =
        s.devices.modify i fun dev => { dev with deviceName := name }) ∨
      ∃ address name, (scanLspciLine s line).devices =
        s.devices ++ [{ address := address, deviceName := name }] := by
  rw [scanLspciLine]
  rcases parseLspciLine line with _ | ⟨text, name⟩
  · exact Or.inl rfl
  · dsimp only
    rcases s.addrIndex[text]? with _ | i
    · dsimp only
      rcases parsePciAddress text with _ | address
      · exact Or.inl rfl
      · exact Or.inr (Or.inr ⟨address, name, rfl⟩)
    · exact Or.inr (Or.inl ⟨i, name, rfl⟩)

/-- A line changes nothing but the name of a device. -/
theorem scanLspciLine_keeps (s : PciScan) (line : Bytes) {i : ℕ} {dev : PciDevice}
    (h : s.devices[i]? = some dev) :
    ∃ name, (scanLspciLine s line).devices[i]? = some { dev with deviceName := name } := by
  have hlt : i < s.devices.length := (List.getElem?_eq_some_iff.mp h).1
  rcases scanLspciLine_devices s line with heq | ⟨j, name, heq⟩ | ⟨address, name, heq⟩
  · exact ⟨dev.deviceName, by rw [heq, h]⟩
  · rw [heq]
    by_cases hij : j = i
    · exact ⟨name, by simp [hij, h]⟩
    · exact ⟨dev.deviceName, by simp [hij, h]⟩
  · exact ⟨dev.deviceName, by rw [heq, List.getElem?_append_left hlt, h]⟩

/-- A device with nothing but an address and a name. -/
def IsBare (dev : PciDevice) : Prop := dev = { address := dev.address, deviceName := dev.deviceName }

/-- A device without a directory has nothing but an address and a name. -/
theorem scanLines_bare (raw : EvidenceStore) (lines : List Bytes) :
    ∀ dev ∈ (lines.foldl scanLspciLine (scanSysfs raw)).devices,
      (∃ name ∈ sysfsNames raw, parsePciAddress name = some dev.address) ∨ IsBare dev := by
  induction lines using List.reverseRecOn with
  | nil =>
      intro dev hdev
      have haddress : some dev.address ∈ (scanSysfs raw).devices.map (some ·.address) :=
        List.mem_map_of_mem hdev
      rw [← (scanSysfs_tracks raw).addresses] at haddress
      obtain ⟨name, hname, haddress⟩ := List.mem_map.mp haddress
      exact Or.inl ⟨name, mem_sortedSet.mp (List.mem_of_mem_filter hname), haddress⟩
  | append_singleton lines line ih =>
      rw [List.foldl_append]
      set s := lines.foldl scanLspciLine (scanSysfs raw)
      intro dev hdev
      rw [List.foldl_cons, List.foldl_nil] at hdev
      rcases scanLspciLine_devices s line with heq | ⟨i, name, heq⟩ | ⟨address, name, heq⟩
      · exact ih dev (heq ▸ hdev)
      · rw [heq] at hdev
        obtain ⟨j, hj⟩ := List.mem_iff_getElem?.mp hdev
        rw [List.getElem?_modify] at hj
        obtain ⟨old, hold, rfl⟩ := Option.map_eq_some_iff.mp hj
        have hkept := ih old (List.mem_of_getElem? hold)
        split
        · refine hkept.imp id fun hbare => ?_
          rw [IsBare] at hbare ⊢
          rw [hbare]
        · exact hkept
      · rw [heq] at hdev
        rcases List.mem_append.mp hdev with hdev | hdev
        · exact ih dev hdev
        · rw [List.mem_singleton.mp hdev]
          exact Or.inr rfl

/-- What the list of devices owes the evidence. -/
structure FunctionOfAddress (raw : EvidenceStore) (pci : Pci) : Prop where
  distinct : (pci.devices.map (·.address)).Nodup
  /-- A link to a device has one target. -/
  found : ∀ dev ∈ pci.devices, pci.find dev.address = some dev
  occurs : ∀ address, (∃ dev ∈ pci.devices, dev.address = address) ↔
    ∃ text, AddressOccurs raw text ∧ parsePciAddress text = some address
  /-- Whatever lines were read before, a line keeps the devices but for a name. -/
  keeps : ∀ earlier line later, lspciLines raw = earlier ++ line :: later →
    ∀ (i : ℕ) (dev : PciDevice),
    (earlier.foldl scanLspciLine (scanSysfs raw)).devices[i]? = some dev → ∃ name,
      ((earlier ++ [line]).foldl scanLspciLine (scanSysfs raw)).devices[i]? =
        some { dev with deviceName := name }
  bare : ∀ dev ∈ pci.devices,
    (∃ name ∈ sysfsNames raw, parsePciAddress name = some dev.address) ∨ IsBare dev

theorem parsePci_eq_some {raw : EvidenceStore} {pci : Pci} (h : (parsePci raw).1 = some pci) :
    pci.devices = ((lspciLines raw).foldl scanLspciLine (scanSysfs raw)).devices := by
  rw [parsePci] at h
  split at h
  · cases h
  · rw [← Option.some.inj h]

/-- Every text that occurs and is read is the text of one device. -/
theorem parsePci_texts {raw : EvidenceStore} {pci : Pci} (h : (parsePci raw).1 = some pci) :
    ∃ texts : List Bytes, texts.Nodup ∧
      texts.map parsePciAddress = (pci.devices.map (·.address)).map some ∧
      ∀ text, text ∈ texts ↔ AddressOccurs raw text ∧ (parsePciAddress text).isSome = true := by
  obtain ⟨texts, htracks, hmem⟩ := scanLines_tracks raw (lspciLines raw)
  refine ⟨texts, htracks.nodup, ?_, fun text => ?_⟩
  · rw [htracks.addresses, ← parsePci_eq_some h, List.map_map]
    rfl
  · rw [hmem, AddressOccurs, deviceNames, List.mem_filter, mem_sortedSet, or_and_right]
    refine or_congr_right ⟨fun hline => ⟨hline, ?_⟩, And.left⟩
    obtain ⟨line, -, name, hline⟩ := hline
    obtain ⟨address, haddress⟩ := parseLspciLine_address hline
    rw [haddress]
    rfl

/-- Devices have distinct addresses exactly when the texts are spelled in one way. -/
theorem nodup_addresses_iff {raw : EvidenceStore} {pci : Pci} (h : (parsePci raw).1 = some pci) :
    (pci.devices.map (·.address)).Nodup ↔ SpelledOnce raw := by
  obtain ⟨texts, hnodup, haddresses, hoccurs⟩ := parsePci_texts h
  rw [← List.nodup_map_iff (Option.some_injective _), ← haddresses,
    List.nodup_map_iff_inj_on hnodup]
  constructor
  · intro hinj text text' address ht ht' haddress haddress'
    exact hinj text ((hoccurs text).mpr ⟨ht, by rw [haddress]; rfl⟩) text'
      ((hoccurs text').mpr ⟨ht', by rw [haddress']; rfl⟩) (haddress.trans haddress'.symm)
  · intro honce text ht text' ht' heq
    obtain ⟨ht, hsome⟩ := (hoccurs text).mp ht
    obtain ⟨address, haddress⟩ := Option.isSome_iff_exists.mp hsome
    exact honce text text' address ht ((hoccurs text').mp ht').1 haddress (heq ▸ haddress)

/-- The addresses of the devices are those that some text denotes. -/
theorem exists_device_iff {raw : EvidenceStore} {pci : Pci} (h : (parsePci raw).1 = some pci)
    (address : PciAddress) :
    (∃ dev ∈ pci.devices, dev.address = address) ↔
      ∃ text, AddressOccurs raw text ∧ parsePciAddress text = some address := by
  obtain ⟨texts, -, haddresses, hoccurs⟩ := parsePci_texts h
  have hmap : some address ∈ (pci.devices.map (·.address)).map some ↔
      ∃ dev ∈ pci.devices, dev.address = address := by
    simp
  rw [← hmap, ← haddresses, List.mem_map]
  constructor
  · rintro ⟨text, htext, haddress⟩
    exact ⟨text, ((hoccurs text).mp htext).1, haddress⟩
  · rintro ⟨text, htext, haddress⟩
    exact ⟨text, (hoccurs text).mpr ⟨htext, by rw [haddress]; rfl⟩, haddress⟩

/-- With distinct addresses a device is found under its own. -/
theorem find_of_nodup {pci : Pci} (hnodup : (pci.devices.map (·.address)).Nodup) {dev : PciDevice}
    (hdev : dev ∈ pci.devices) : pci.find dev.address = some dev := by
  obtain ⟨other, hother⟩ : ∃ other, pci.find dev.address = some other :=
    Option.isSome_iff_exists.mp (List.find?_isSome.mpr ⟨dev, hdev, by simp⟩)
  have hmem := List.mem_of_find?_eq_some hother
  have heq : other.address = dev.address := by simpa using List.find?_some hother
  rw [hother, List.inj_on_of_nodup_map hnodup hmem hdev heq]

/-- **The devices are a function of their addresses exactly when every address is spelled in one way.**
Which devices exist, what `lspci` changes and what a device without a directory has does not depend on
that. -/
theorem parsePci_devices_iff {raw : EvidenceStore} {pci : Pci} (h : (parsePci raw).1 = some pci) :
    FunctionOfAddress raw pci ↔ SpelledOnce raw := by
  have hdistinct := nodup_addresses_iff h
  constructor
  · exact fun hfunction => hdistinct.mp hfunction.distinct
  · intro honce
    refine ⟨hdistinct.mpr honce, fun dev hdev => find_of_nodup (hdistinct.mpr honce) hdev,
      exists_device_iff h, ?_, ?_⟩
    · intro earlier line later _ i dev hdev
      rw [List.foldl_append]
      exact scanLspciLine_keeps _ line hdev
    · rw [parsePci_eq_some h]
      exact scanLines_bare raw _

/-- One function in sysfs and in the output of `lspci`. -/
def twoSpellings (name : Bytes) : EvidenceStore :=
  { records := [
      { source := .sysfsPci
        pathOrCommand := utf8 "/sys/bus/pci/devices/" ++ name ++ utf8 "/vendor"
        payload := utf8 "0x8086"
        status := .success },
      { source := .lspci
        pathOrCommand := utf8 "lspci -nn"
        payload := utf8 "3b:00.0 Ethernet controller [0200]: Intel Corporation I350 [8086:1521]"
        status := .success }] }

/-- A directory name without leading zeros is another text of the address. -/
theorem parsePci_devices_spelledTwice :
    ¬ ∀ raw pci, (parsePci raw).1 = some pci → FunctionOfAddress raw pci := by
  intro h
  have hdevices := (h (twoSpellings (utf8 "0:3b:0.0")) _ rfl).distinct
  revert hdevices
  decide +kernel

theorem parsePci_devices_iff_spelledOnce :
    FunctionOfAddress (twoSpellings (utf8 "0000:3b:00.0"))
        ((parsePci (twoSpellings (utf8 "0000:3b:00.0"))).1.getD {}) ↔
      SpelledOnce (twoSpellings (utf8 "0000:3b:00.0")) :=
  parsePci_devices_iff (by decide +kernel)

end Sysal.PciParser
