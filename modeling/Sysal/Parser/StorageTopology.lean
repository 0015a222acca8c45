import Mathlib.Data.List.Forall2
import Sysal.Foundation.Grouping
import Sysal.Model.RawStore
import Sysal.Parser.MountInfo

/-!
# Mounts and block devices

`storage_topology.cpp`: the mount table of the first record that was read replaces what `df` said about
the devices.  A mount belongs to the device of its number, and a device shows one of its mounts.

* `getElem?_deviceNumbers`: the map of the numbers, when they are distinct;
* `linkMount_eq`: one mount changes the device of its number and no other;
* `foldl_claimMount`: which mount a device shows;
* `applyStorageMounts_spec`: the mounts, and what every device shows.
-/

namespace Sysal.StorageParser

open Sysal MountInfo

/-! ### The loop -/

/-- A device without what was said about its mount before. -/
def resetMount (device : StorageDevice) : StorageDevice :=
  { device with mountPoint := none, fsType := none }

/-- A pair of numbers as the key of a map. -/
def numberKey (number : DeviceNumber) : UInt32 × UInt32 := (number.major, number.minor)

/-- The positions of the devices by number; of two devices of one number the later one counts. -/
def deviceNumbers (devices : List StorageDevice) : Std.TreeMap (UInt32 × UInt32) ℕ compare :=
  devices.zipIdx.foldl
    (insertReport fun entry => entry.1.deviceNumber.map fun number => (numberKey number, entry.2)) ∅

/-- A device that shows a mount: the first one, and from then on only one at the root. -/
def showMount (mount : StorageMount) (block : StorageDevice) : StorageDevice :=
  if block.mountPoint.isNone || mount.path = utf8 "/" then
    { block with mountPoint := some mount.path, fsType := some mount.filesystem }
  else block

/-- One mount, with the devices and the mounts before it. -/
def linkMount (numbers : Std.TreeMap (UInt32 × UInt32) ℕ compare)
    (s : List StorageDevice × List StorageMount) (mount : StorageMount) :
    List StorageDevice × List StorageMount :=
  match numbers[numberKey mount.deviceNumber]? with
  | none => (s.1, s.2 ++ [mount])
  | some i =>
      (s.1.modify i (showMount mount),
        s.2 ++ [{ mount with blockDevice := s.1[i]?.map (·.name) }])

/-- `apply_storage_mounts`. -/
def applyStorageMounts (storage : Storage) (raw : EvidenceStore) (warnings : List Bytes) :
    Storage × List Bytes :=
  match raw.successes .storageMountInfo with
  | [] => (storage, warnings)
  | record :: _ =>
      let parsed := parseMountinfo record.payload
      let devices := storage.devices.map resetMount
      let linked := parsed.1.foldl (linkMount (deviceNumbers devices)) (devices, [])
      ({ storage with devices := linked.1, mounts := linked.2 }, warnings ++ parsed.2)

/-! ### Numbers -/

/-- The known numbers of a list of devices are pairwise distinct. -/
def DistinctNumbers (devices : List StorageDevice) : Prop :=
  (devices.filterMap (·.deviceNumber)).Nodup

/-- A number belongs to one position. -/
theorem DistinctNumbers.unique {devices : List StorageDevice} (h : DistinctNumbers devices) {i j : ℕ}
    {a b : StorageDevice} {number : DeviceNumber} (hi : devices[i]? = some a)
    (hj : devices[j]? = some b) (ha : a.deviceNumber = some number)
    (hb : b.deviceNumber = some number) : i = j := by
  rw [DistinctNumbers, List.Nodup, List.pairwise_filterMap, List.pairwise_iff_getElem] at h
  obtain ⟨hilt, rfl⟩ := List.getElem?_eq_some_iff.mp hi
  obtain ⟨hjlt, rfl⟩ := List.getElem?_eq_some_iff.mp hj
  rcases Nat.lt_trichotomy i j with hlt | heq | hlt
  · exact absurd rfl (h i j hilt hjlt hlt number ha number hb)
  · exact heq
  · exact absurd rfl (h j i hjlt hilt hlt number hb number ha)

theorem numberKey_inj {a b : DeviceNumber} : numberKey a = numberKey b ↔ a = b := by
  cases a
  cases b
  simp [numberKey]

/-- The map holds the position of the device of a number. -/
theorem getElem?_deviceNumbers {devices : List StorageDevice} (h : DistinctNumbers devices)
    {number : DeviceNumber} {i : ℕ} :
    (deviceNumbers devices)[numberKey number]? = some i ↔
      ∃ device, devices[i]? = some device ∧ device.deviceNumber = some number := by
  rw [deviceNumbers, getElem?_foldl_insertReport]
  generalize hreports : ((devices.zipIdx.filterMap fun entry =>
      entry.1.deviceNumber.map fun number => (numberKey number, entry.2)).filter
        fun x => x.1 = numberKey number) = reports
  have hmem : ∀ e, e ∈ reports ↔ e.1 = numberKey number ∧
      ∃ device, devices[e.2]? = some device ∧ device.deviceNumber = some number := by
    intro e
    rw [← hreports, List.mem_filter, List.mem_filterMap, decide_eq_true_eq, and_comm]
    refine and_congr_right fun hkey => ?_
    constructor
    · rintro ⟨⟨device, k⟩, hentry, hreport⟩
      obtain ⟨n, hn, rfl⟩ := Option.map_eq_some_iff.mp hreport
      exact ⟨device, List.mem_zipIdx_iff_getElem?.mp hentry, numberKey_inj.mp hkey ▸ hn⟩
    · rintro ⟨device, hdevice, hnumber⟩
      refine ⟨(device, e.2), List.mem_zipIdx_iff_getElem?.mpr hdevice, ?_⟩
      rw [hnumber, Option.map_some, ← hkey]
  rw [Option.map_eq_some_iff]
  constructor
  · rintro ⟨e, he, rfl⟩
    exact ((hmem e).mp (List.mem_of_getLast? he)).2
  · rintro ⟨device, hdevice, hnumber⟩
    have hin : (numberKey number, i) ∈ reports := (hmem _).mpr ⟨rfl, device, hdevice, hnumber⟩
    have hlast := List.getLast?_eq_some_getLast (List.ne_nil_of_mem hin)
    refine ⟨_, hlast, ?_⟩
    obtain ⟨-, other, hother, hnumber'⟩ := (hmem _).mp (List.mem_of_getLast? hlast)
    exact h.unique hother hdevice hnumber' hnumber

/-! ### One mount -/

/-- What a mount changes about a device: nothing unless it has its number. -/
def claimMount (device : StorageDevice) (mount : StorageMount) : StorageDevice :=
  if device.deviceNumber = some mount.deviceNumber then showMount mount device else device

/-- A mount with the name of the device of its number. -/
def linkedMount (devices : List StorageDevice) (mount : StorageMount) : StorageMount :=
  match devices.find? (·.deviceNumber = some mount.deviceNumber) with
  | some device => { mount with blockDevice := some device.name }
  | none => mount

/-- The device of a number is the first one of that number. -/
theorem find?_deviceNumber {devices : List StorageDevice} (h : DistinctNumbers devices) {i : ℕ}
    {device : StorageDevice} {number : DeviceNumber} (hdevice : devices[i]? = some device)
    (hnumber : device.deviceNumber = some number) :
    devices.find? (·.deviceNumber = some number) = some device := by
  cases hfind : devices.find? (·.deviceNumber = some number) with
  | none =>
      have := List.find?_eq_none.mp hfind device (List.mem_of_getElem? hdevice)
      simp [hnumber] at this
  | some found =>
      obtain ⟨j, hj⟩ := List.mem_iff_getElem?.mp (List.mem_of_find?_eq_some hfind)
      have hfound : found.deviceNumber = some number := by
        simpa using List.find?_some hfind
      rw [h.unique hj hdevice hfound hnumber, hdevice] at hj
      exact hj.symm

/-- Only the device of its number shows a mount. -/
theorem modify_showMount {devices : List StorageDevice} (h : DistinctNumbers devices)
    {g : StorageDevice → StorageDevice} (hnumber : ∀ d, (g d).deviceNumber = d.deviceNumber) {i : ℕ}
    {device : StorageDevice} {mount : StorageMount} (hdevice : devices[i]? = some device)
    (heq : device.deviceNumber = some mount.deviceNumber) :
    (devices.map g).modify i (showMount mount) = devices.map fun d => claimMount (g d) mount := by
  refine List.ext_getElem? fun k => ?_
  rw [List.getElem?_modify, List.getElem?_map, List.getElem?_map]
  cases hk : devices[k]? with
  | none => simp
  | some d =>
      by_cases hik : i = k
      · subst hik
        obtain rfl := Option.some.inj (hdevice.symm.trans hk)
        simp [claimMount, hnumber, heq]
      · have hne : d.deviceNumber ≠ some mount.deviceNumber := fun hd =>
          hik (h.unique hdevice hk heq hd)
        simp [claimMount, hnumber, hne, hik]

/-- A mount is linked to the device of its number, and shown by it. -/
theorem linkMount_eq {devices : List StorageDevice} (h : DistinctNumbers devices)
    {g : StorageDevice → StorageDevice} (hnumber : ∀ d, (g d).deviceNumber = d.deviceNumber)
    (hname : ∀ d, (g d).name = d.name) (mounts : List StorageMount) (mount : StorageMount) :
    linkMount (deviceNumbers devices) (devices.map g, mounts) mount =
      (devices.map fun d => claimMount (g d) mount, mounts ++ [linkedMount devices mount]) := by
  rw [linkMount, linkedMount]
  cases hlookup : (deviceNumbers devices)[numberKey mount.deviceNumber]? with
  | none =>
      have hno : ∀ d ∈ devices, d.deviceNumber ≠ some mount.deviceNumber := by
        intro d hd heq
        obtain ⟨i, hi⟩ := List.mem_iff_getElem?.mp hd
        rw [(getElem?_deviceNumbers h).mpr ⟨d, hi, heq⟩] at hlookup
        cases hlookup
      have hfind : devices.find? (·.deviceNumber = some mount.deviceNumber) = none :=
        List.find?_eq_none.mpr fun d hd => by simpa using hno d hd
      rw [hfind]
      refine Prod.ext (List.map_congr_left fun d hd => ?_) rfl
      rw [claimMount, hnumber, if_neg (hno d hd)]
  | some i =>
      obtain ⟨device, hdevice, heq⟩ := (getElem?_deviceNumbers h).mp hlookup
      rw [find?_deviceNumber h hdevice heq]
      dsimp only
      rw [modify_showMount h hnumber hdevice heq, List.getElem?_map, hdevice, Option.map_some,
        Option.map_some, hname]

theorem claimMount_deviceNumber (device : StorageDevice) (mount : StorageMount) :
    (claimMount device mount).deviceNumber = device.deviceNumber := by
  rw [claimMount, showMount]
  split
  · split <;> rfl
  · rfl

theorem claimMount_name (device : StorageDevice) (mount : StorageMount) :
    (claimMount device mount).name = device.name := by
  rw [claimMount, showMount]
  split
  · split <;> rfl
  · rfl

/-! ### All mounts -/

theorem foldl_claimMount_kept (mounts : List StorageMount) (device : StorageDevice) :
    (mounts.foldl claimMount device).deviceNumber = device.deviceNumber ∧
      (mounts.foldl claimMount device).name = device.name := by
  induction mounts generalizing device with
  | nil => exact ⟨rfl, rfl⟩
  | cons mount mounts ih =>
      rw [List.foldl_cons, (ih _).1, (ih _).2]
      exact ⟨claimMount_deviceNumber device mount, claimMount_name device mount⟩

/-- The loop over the mounts is a loop over them for every device. -/
theorem foldl_linkMount {devices : List StorageDevice} (h : DistinctNumbers devices)
    (mounts : List StorageMount) :
    mounts.foldl (linkMount (deviceNumbers devices)) (devices, []) =
      (devices.map fun device => mounts.foldl claimMount device, mounts.map (linkedMount devices)) := by
  induction mounts using List.reverseRecOn with
  | nil => simp
  | append_singleton mounts mount ih =>
      rw [List.foldl_append, List.foldl_cons, List.foldl_nil, ih,
        linkMount_eq h (fun d => (foldl_claimMount_kept mounts d).1)
          (fun d => (foldl_claimMount_kept mounts d).2), List.map_append]
      simp only [List.foldl_append, List.foldl_cons, List.foldl_nil, List.map_cons, List.map_nil]

/-- The mount a device shows: the last one at the root, else the first one. -/
def shownMount (mounts : List StorageMount) (device : StorageDevice) : Option StorageMount :=
  lastOrFirst (·.path = utf8 "/")
    (mounts.filter fun mount => device.deviceNumber = some mount.deviceNumber)

/-- A device that shows a mount, or none. -/
def withMount (device : StorageDevice) (shown : Option StorageMount) : StorageDevice :=
  { device with mountPoint := shown.map (·.path), fsType := shown.map (·.filesystem) }

/-- The loop over the mounts ends with the mount a device shows, whatever the device showed before. -/
theorem foldl_claimMount (mounts : List StorageMount) (device : StorageDevice) :
    mounts.foldl claimMount (resetMount device) = withMount device (shownMount mounts device) := by
  refine foldl_lastOrFirst (withMount device) ?_ ?_
  · intro shown mount hother
    have hne : (withMount device shown).deviceNumber ≠ some mount.deviceNumber :=
      of_decide_eq_false hother
    rw [claimMount, if_neg hne]
  · intro shown mount hown
    have heq : (withMount device shown).deviceNumber = some mount.deviceNumber :=
      of_decide_eq_true hown
    rw [claimMount, if_pos heq, showMount]
    cases shown with
    | none => rfl
    | some m =>
        by_cases hroot : mount.path = utf8 "/"
        · simp [hroot, withMount]
        · simp [hroot, withMount]

/-! ### The result -/

theorem parseMountWords_blockDevice {ws : List Bytes} {mount : StorageMount}
    (h : parseMountWords ws = .ok mount) : mount.blockDevice = none := by
  match ws with
  | _ :: _ :: _ :: _ :: _ :: _ :: _ =>
      dsimp only [parseMountWords] at h
      split at h
      · rw [← Except.ok.inj h]
      · cases h
  | [] | [_] | [_, _] | [_, _, _] | [_, _, _, _] | [_, _, _, _, _] => cases h

/-- The mounts of a table are linked to no device yet. -/
theorem parseMountinfo_blockDevice (payload : Bytes) :
    ∀ mount ∈ (parseMountinfo payload).1, mount.blockDevice = none := by
  rw [parseMountinfo]
  induction split payload 10 using List.reverseRecOn with
  | nil => exact fun mount hmount => absurd hmount List.not_mem_nil
  | append_singleton lines line ih =>
      rw [List.foldl_append, List.foldl_cons, List.foldl_nil, scanMountLine]
      split
      · exact ih
      · cases hwords : parseMountWords (words line) with
        | error warning => exact ih
        | ok parsed =>
            intro mount hmount
            rcases List.mem_append.mp hmount with hin | hin
            · exact ih mount hin
            · rw [List.mem_singleton.mp hin, parseMountWords_blockDevice hwords]

/-- A mount of the result: the parsed one, with the device of its number if there is one. -/
def LinksMount (devices : List StorageDevice) (parsed mount : StorageMount) : Prop :=
  mount = { parsed with blockDevice := mount.blockDevice } ∧
    ∀ name, mount.blockDevice = some name ↔
      ∃ device ∈ devices, device.deviceNumber = some parsed.deviceNumber ∧ device.name = name

/-- A device of the result: nothing but its mount is new, and it shows none without a mount of its
number, else the last of them at the root, else the first of them. -/
def ShowsMount (mounts : List StorageMount) (device after : StorageDevice) : Prop :=
  let own := mounts.filter fun mount => device.deviceNumber = some mount.deviceNumber
  after = { device with mountPoint := after.mountPoint, fsType := after.fsType } ∧
    (own = [] → after.mountPoint = none ∧ after.fsType = none) ∧
    (own ≠ [] → ∃ mount ∈ own, after.mountPoint = some mount.path ∧
      after.fsType = some mount.filesystem ∧
      ((own.filter (·.path = utf8 "/")).getLast? = some mount ∨
        (∀ other ∈ own, other.path ≠ utf8 "/") ∧ own.head? = some mount))

theorem linksMount_linkedMount {devices : List StorageDevice} (h : DistinctNumbers devices)
    {parsed : StorageMount} (hparsed : parsed.blockDevice = none) :
    LinksMount devices parsed (linkedMount devices parsed) := by
  rw [linkedMount]
  cases hfind : devices.find? (·.deviceNumber = some parsed.deviceNumber) with
  | none =>
      refine ⟨rfl, fun name => iff_of_false ?_ ?_⟩
      · dsimp only
        rw [hparsed]
        exact Option.some_ne_none name ∘ Eq.symm
      · rintro ⟨device, hdevice, hnumber, -⟩
        simpa [hnumber] using List.find?_eq_none.mp hfind device hdevice
  | some found =>
      have hfound : found.deviceNumber = some parsed.deviceNumber := by
        simpa using List.find?_some hfind
      refine ⟨rfl, fun name => ?_⟩
      constructor
      · intro hname
        exact ⟨found, List.mem_of_find?_eq_some hfind, hfound, Option.some.inj hname⟩
      · rintro ⟨device, hdevice, hnumber, rfl⟩
        obtain ⟨i, hi⟩ := List.mem_iff_getElem?.mp hdevice
        have hfirst := find?_deviceNumber h hi hnumber
        rw [hfind] at hfirst
        exact congrArg (some ·.name) (Option.some.inj hfirst)

theorem showsMount_withMount (mounts : List StorageMount) (device : StorageDevice) :
    ShowsMount mounts device (withMount device (shownMount mounts device)) := by
  rw [ShowsMount, shownMount]
  generalize (mounts.filter fun mount => device.deviceNumber = some mount.deviceNumber) = own
  refine ⟨rfl, ?_, ?_⟩
  · rintro rfl
    exact ⟨rfl, rfl⟩
  · intro hne
    cases hshown : lastOrFirst (·.path = utf8 "/") own with
    | none => exact absurd (lastOrFirst_eq_none.mp hshown) hne
    | some mount =>
        rw [lastOrFirst, Option.or_eq_some_iff] at hshown
        rcases hshown with hroot | ⟨hnone, hhead⟩
        · exact ⟨mount, (List.mem_filter.mp (List.mem_of_getLast? hroot)).1, rfl, rfl, Or.inl hroot⟩
        · rw [List.getLast?_eq_none_iff, List.filter_eq_nil_iff] at hnone
          exact ⟨mount, List.mem_of_head? hhead, rfl, rfl, Or.inr
            ⟨fun other hother hpath => hnone other hother (decide_eq_true hpath), hhead⟩⟩

/-- **Mounts and devices are linked by number.** -/
theorem applyStorageMounts_spec (storage : Storage) (raw : EvidenceStore) (warnings : List Bytes)
    {record : RawEvidence} {rest : List RawEvidence}
    (hrecord : raw.successes .storageMountInfo = record :: rest)
    (hdistinct : DistinctNumbers storage.devices) :
    ∃ devices mounts,
      (applyStorageMounts storage raw warnings).1 =
          { storage with devices := devices, mounts := mounts } ∧
        List.Forall₂ (LinksMount storage.devices) (parseMountinfo record.payload).1 mounts ∧
        List.Forall₂ (ShowsMount (parseMountinfo record.payload).1) storage.devices devices := by
  have hreset : DistinctNumbers (storage.devices.map resetMount) := by
    rw [DistinctNumbers, List.filterMap_map]
    exact hdistinct
  have hlinks : ∀ parsed mount, LinksMount (storage.devices.map resetMount) parsed mount →
      LinksMount storage.devices parsed mount := by
    rintro parsed mount ⟨hsame, hname⟩
    refine ⟨hsame, fun name => (hname name).trans ?_⟩
    simp only [List.mem_map, exists_exists_and_eq_and]
    rfl
  refine ⟨storage.devices.map fun device =>
      withMount device (shownMount (parseMountinfo record.payload).1 device),
    (parseMountinfo record.payload).1.map (linkedMount (storage.devices.map resetMount)), ?_, ?_, ?_⟩
  · rw [applyStorageMounts, hrecord]
    dsimp only
    rw [foldl_linkMount hreset, List.map_map]
    simp only [Function.comp_def, foldl_claimMount]
  · rw [List.forall₂_map_right_iff, List.forall₂_same]
    intro parsed hparsed
    exact hlinks _ _ (linksMount_linkedMount hreset (parseMountinfo_blockDevice _ parsed hparsed))
  · rw [List.forall₂_map_right_iff, List.forall₂_same]
    exact fun device _ => showsMount_withMount _ device

/-- A mount table that shows one partition twice. -/
def twiceRecord : RawEvidence :=
  ⟨.storageMountInfo, utf8 "/proc/self/mountinfo",
    utf8 "36 35 8:1 / /srv rw - ext4 /dev/sda1 rw\n37 35 8:1 / / rw - ext4 /dev/sda1 rw\n", .success,
    none, none⟩

/-- A partition of which `df` said something. -/
def twiceStorage : Storage :=
  { devices :=
      [{ name := utf8 "sda1", deviceNumber := some ⟨8, 1⟩, mountPoint := some (utf8 "/old") }] }

theorem twice_spec :
    (({ records := [twiceRecord] } : EvidenceStore).successes .storageMountInfo = [twiceRecord] ∧
        DistinctNumbers twiceStorage.devices) ∧
      ∃ devices mounts,
        (applyStorageMounts twiceStorage { records := [twiceRecord] } []).1 =
            { twiceStorage with devices := devices, mounts := mounts } ∧
          List.Forall₂ (LinksMount twiceStorage.devices) (parseMountinfo twiceRecord.payload).1 mounts ∧
          List.Forall₂ (ShowsMount (parseMountinfo twiceRecord.payload).1) twiceStorage.devices
            devices := by
  have hrecord : ({ records := [twiceRecord] } : EvidenceStore).successes .storageMountInfo =
      [twiceRecord] := by decide +kernel
  have hdistinct : DistinctNumbers twiceStorage.devices := List.nodup_singleton _
  exact ⟨⟨hrecord, hdistinct⟩, applyStorageMounts_spec twiceStorage _ [] hrecord hdistinct⟩

example : (applyStorageMounts twiceStorage { records := [twiceRecord] } []).1.devices.map
    (·.mountPoint) = [some (utf8 "/")] := by decide +kernel

end Sysal.StorageParser
