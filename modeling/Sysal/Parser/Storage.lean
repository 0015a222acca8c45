import Sysal.Parser.Filesystems
import Sysal.Parser.LegacyMounts
import Sysal.Parser.StorageClassification
import Sysal.Parser.StorageConnections
import Sysal.Parser.StorageTopology

/-!
# The storage parser

`parse_storage`: the block devices, then one step after the other over the whole storage.  Each step has
its own module; here is what one step leaves of the others, and what holds of a storage at the end.

* `applyStorageMounts_kept`: linking mounts changes nothing else about a device;
* `connectedStorage_mountPoint`: the devices have no mount point before the lines of `df`;
* `parseStorage_wellFormed`: every storage that is parsed is classified, numbered and refers to its own
  mounts.
-/

namespace Sysal.StorageParser

open Sysal FilesystemsParser StorageConnectionsParser MountInfo

/-- No evidence about block devices but their attributes: neither mounts nor an enumeration. -/
def onlyAttributes (raw : EvidenceStore) : Bool :=
  !raw.hasSuccess .storageMountInfo && (raw.enumeration .blockDevices).isNone

/-- `parse_storage`. -/
def parseStorage (parse : Bytes → Option Json) (raw : EvidenceStore) :
    Option Storage × List Bytes :=
  let connected := raw.hasSource .sysfsStorageConnections
  if !raw.hasSource .sysfsBlock && !connected && onlyAttributes raw then
    (none, [utf8 "parse_storage: 缺少 SysfsBlock 数据"])
  else
    let warnings := if (deviceAttributes raw).isEmpty && onlyAttributes raw then
      [utf8 "parse_storage: SysfsBlock 记录中无有效块设备"] else []
    if (deviceAttributes raw).isEmpty && !connected && onlyAttributes raw then (none, warnings)
    else
      let blocks := blockDevices raw
      let storage : Storage := { devices := blocks.1 }
      let storage := applyStorageClassification (applyStorageConnections storage raw)
      let (storage, warnings) := applyLegacyStorageMounts storage raw (warnings ++ blocks.2)
      let (storage, warnings) := applyStorageMounts storage raw warnings
      let (storage, warnings) := applyFilesystems parse storage raw warnings
      (some storage, warnings)

/-! ### What a step leaves alone -/

/-- Two states of a device that differ in what they show of the mounts only. -/
def SameButMount (device after : StorageDevice) : Prop :=
  after = { device with mountPoint := after.mountPoint, fsType := after.fsType }

theorem SameButMount.refl (device : StorageDevice) : SameButMount device device := rfl

theorem SameButMount.trans {a b c : StorageDevice} (hab : SameButMount a b) (hbc : SameButMount b c) :
    SameButMount a c := by
  rw [SameButMount] at hab hbc ⊢
  rw [hbc, hab]

theorem SameButMount.forall₂_trans {a b c : List StorageDevice} (hab : List.Forall₂ SameButMount a b)
    (hbc : List.Forall₂ SameButMount b c) : List.Forall₂ SameButMount a c := by
  refine Sysal.forall₂_trans ?_ hab hbc
  intro device after last hdevice hafter
  exact hdevice.trans hafter

theorem SameButMount.sound {hosts : List ScsiHost} {controllers : List NvmeController}
    {device after : StorageDevice} (h : SameButMount device after)
    (hsound : Sound hosts controllers device) : Sound hosts controllers after := by
  rw [SameButMount] at h
  rw [h]
  exact ⟨hsound.virtual, hsound.nvme, hsound.ata, hsound.scsi, hsound.sorted, hsound.transports⟩

theorem sameButMount_mergeMount (device : StorageDevice) (entry : Bytes × Bytes × Bytes) :
    SameButMount device (mergeMount device entry) := by
  rw [mergeMount]
  split <;> rfl

/-- The lines of `df` give a device nothing but its mount. -/
theorem sameButMount_legacyMount (df : DfMap) (device : StorageDevice) :
    SameButMount device (legacyMount df device) := by
  rw [legacyMount]
  cases df[device.name]? with
  | some info => rfl
  | none =>
      dsimp only
      induction df.toList generalizing device with
      | nil => rfl
      | cons entry entries ih => exact (sameButMount_mergeMount device entry).trans (ih _)

theorem sameButMount_showMount (mount : StorageMount) (device : StorageDevice) :
    SameButMount device (showMount mount device) := by
  rw [showMount]
  split <;> rfl

/-- A mount that differs from a parsed one in its device only. -/
def SameButDevice (parsed mount : StorageMount) : Prop :=
  mount = { parsed with blockDevice := mount.blockDevice }

/-- One mount. -/
theorem linkMount_kept (numbers : Std.TreeMap (UInt32 × UInt32) ℕ compare)
    (s : List StorageDevice × List StorageMount) (mount : StorageMount) :
    List.Forall₂ SameButMount s.1 (linkMount numbers s mount).1 ∧
      ∃ linked, (linkMount numbers s mount).2 = s.2 ++ [linked] ∧ SameButDevice mount linked := by
  rw [linkMount]
  cases numbers[numberKey mount.deviceNumber]? with
  | none => exact ⟨List.forall₂_same.mpr fun device _ => rfl, mount, rfl, rfl⟩
  | some i =>
      refine ⟨?_, _, rfl, rfl⟩
      dsimp only
      rw [List.forall₂_iff_get]
      refine ⟨(List.length_modify _ _ _).symm, fun k hk hk' => ?_⟩
      rw [List.get_eq_getElem, List.get_eq_getElem, List.getElem_modify]
      split
      · exact sameButMount_showMount mount _
      · rfl

/-- All mounts. -/
theorem foldl_linkMount_kept (numbers : Std.TreeMap (UInt32 × UInt32) ℕ compare)
    (mounts : List StorageMount) (s : List StorageDevice × List StorageMount) :
    List.Forall₂ SameButMount s.1 (mounts.foldl (linkMount numbers) s).1 ∧
      ∃ linked, (mounts.foldl (linkMount numbers) s).2 = s.2 ++ linked ∧
        List.Forall₂ SameButDevice mounts linked := by
  induction mounts generalizing s with
  | nil => exact ⟨List.forall₂_same.mpr fun device _ => rfl, [], by simp, List.Forall₂.nil⟩
  | cons mount mounts ih =>
      obtain ⟨hdevices, linked, hlinked, hsame⟩ := linkMount_kept numbers s mount
      obtain ⟨hdevices', rest, hrest, hsame'⟩ := ih (linkMount numbers s mount)
      refine ⟨SameButMount.forall₂_trans hdevices hdevices', linked :: rest, ?_,
        List.Forall₂.cons hsame hsame'⟩
      rw [List.foldl_cons, hrest, hlinked, List.append_assoc, List.singleton_append]

/-- The mounts of the first mount table that was read. -/
def tableMounts (raw : EvidenceStore) : List StorageMount :=
  match raw.successes .storageMountInfo with
  | [] => []
  | record :: _ => (parseMountinfo record.payload).1

/-- Linking the mounts changes nothing else, and keeps every mount of the table. -/
theorem applyStorageMounts_kept (storage : Storage) (raw : EvidenceStore) (warnings : List Bytes)
    (hmounts : storage.mounts = []) :
    ∃ devices mounts,
      (applyStorageMounts storage raw warnings).1 =
          { storage with devices := devices, mounts := mounts } ∧
        List.Forall₂ SameButMount storage.devices devices ∧
        List.Forall₂ SameButDevice (tableMounts raw) mounts := by
  rw [applyStorageMounts, tableMounts]
  cases raw.successes .storageMountInfo with
  | nil =>
      refine ⟨storage.devices, [], ?_, List.forall₂_same.mpr fun device _ => rfl, List.Forall₂.nil⟩
      rw [← hmounts]
  | cons record rest =>
      obtain ⟨hdevices, mounts, hlinked, hsame⟩ := foldl_linkMount_kept
        (deviceNumbers (storage.devices.map resetMount)) (parseMountinfo record.payload).1
        (storage.devices.map resetMount, [])
      refine ⟨((parseMountinfo record.payload).1.foldl
        (linkMount (deviceNumbers (storage.devices.map resetMount)))
        (storage.devices.map resetMount, [])).1, mounts, ?_, ?_, hsame⟩
      · rw [List.nil_append] at hlinked
        rw [← hlinked]
      · refine SameButMount.forall₂_trans ?_ hdevices
        rw [List.forall₂_map_right_iff, List.forall₂_same]
        exact fun device _ => rfl

/-- Neither do the lines of `df`. -/
theorem applyLegacyStorageMounts_kept (storage : Storage) (raw : EvidenceStore)
    (warnings : List Bytes) :
    ∃ devices,
      (applyLegacyStorageMounts storage raw warnings).1 = { storage with devices := devices } ∧
        List.Forall₂ SameButMount storage.devices devices := by
  rw [applyLegacyStorageMounts]
  split
  · exact ⟨storage.devices, rfl, List.forall₂_same.mpr fun device _ => rfl⟩
  · refine ⟨_, rfl, ?_⟩
    rw [List.forall₂_map_right_iff, List.forall₂_same]
    exact fun device _ => sameButMount_legacyMount _ device

/-- The connections of a device leave its number, its name and its mount alone. -/
theorem connectDevice_kept (blocks controllers : Inventory) (device : StorageDevice) :
    (connectDevice blocks controllers device).id = device.id ∧
      (connectDevice blocks controllers device).name = device.name ∧
        (connectDevice blocks controllers device).mountPoint = device.mountPoint := by
  rw [connectDevice]
  split
  · exact ⟨rfl, rfl, rfl⟩
  · split
    · rw [applyBlock]
      split
      · exact ⟨rfl, rfl, rfl⟩
      · split <;> exact ⟨rfl, rfl, rfl⟩
    · exact ⟨rfl, rfl, rfl⟩

/-! ### The storage at the end -/

/-- A storage that was parsed. -/
structure WellFormed (raw : EvidenceStore) (storage : Storage) : Prop where
  /-- The devices are the block devices, under their numbers and names. -/
  devices : List.Forall₂ (fun block device => device.id = block.id ∧ device.name = block.name)
    (blockDevices raw).1 storage.devices
  classified : ∀ device ∈ storage.devices, Sound storage.scsiHosts storage.nvmeControllers device
  mounts : List.Forall₂ SameButDevice (tableMounts raw) storage.mounts
  /-- A report on a file system is about mounts of this storage. -/
  reports : ∀ report ∈ storage.filesystems, report.mountIds ≠ [] ∧
    ∀ id ∈ report.mountIds, ∃ mount ∈ storage.mounts, mount.mountId = id

/-- The storage before the mounts. -/
def connectedStorage (raw : EvidenceStore) : Storage :=
  applyStorageClassification (applyStorageConnections { devices := (blockDevices raw).1 } raw)

/-- Its devices are the block devices. -/
theorem connectedStorage_devices (raw : EvidenceStore) :
    List.Forall₂ (fun block device => device.id = block.id ∧ device.name = block.name ∧
        device.mountPoint = block.mountPoint)
      (blockDevices raw).1 (connectedStorage raw).devices := by
  rw [connectedStorage, applyStorageClassification, applyStorageConnections]
  dsimp only
  rw [List.map_map, List.forall₂_map_right_iff, List.forall₂_same]
  exact fun device _ => connectDevice_kept _ _ device

/-- The lines of `df` find no device with a mount point. -/
theorem connectedStorage_mountPoint (raw : EvidenceStore) :
    ∀ device ∈ (connectedStorage raw).devices, device.mountPoint = none := by
  refine forall_mem_of_forall₂ ?_ (connectedStorage_devices raw) (blockDevices_mountPoint raw)
  intro block device hkept hfresh
  exact hkept.2.2.trans hfresh

theorem connectedStorage_sound (raw : EvidenceStore) :
    ∀ device ∈ (connectedStorage raw).devices,
      Sound (connectedStorage raw).scsiHosts (connectedStorage raw).nvmeControllers device := by
  intro device hdevice
  obtain ⟨before, -, rfl⟩ := List.mem_map.mp hdevice
  exact classify_sound _ _ before

/-- The last three steps set the mounts and the file systems. -/
theorem mounts_and_filesystems (parse : Bytes → Option Json) (raw : EvidenceStore)
    (warnings : List Bytes) :
    let legacy := applyLegacyStorageMounts (connectedStorage raw) raw warnings
    let linked := applyStorageMounts legacy.1 raw legacy.2
    ∃ devices mounts, List.Forall₂ SameButMount (connectedStorage raw).devices devices ∧
      List.Forall₂ SameButDevice (tableMounts raw) mounts ∧
        (applyFilesystems parse linked.1 raw linked.2).1 = { connectedStorage raw with
          devices := devices
          mounts := mounts
          filesystems := (raw.getAll .filesystemUsage).filterMap (recordReport parse mounts) } := by
  intro legacy linked
  obtain ⟨devices, hlegacy, hsame⟩ :=
    applyLegacyStorageMounts_kept (connectedStorage raw) raw warnings
  change legacy.1 = _ at hlegacy
  obtain ⟨devices', mounts, hlinked, hsame', htable⟩ :=
    applyStorageMounts_kept legacy.1 raw legacy.2 (by rw [hlegacy]; rfl)
  change linked.1 = _ at hlinked
  rw [hlegacy] at hsame' hlinked
  refine ⟨devices', mounts, SameButMount.forall₂_trans hsame hsame', htable, ?_⟩
  rw [applyFilesystems, foldl_applyFilesystem, hlinked]
  rfl

/-- What is parsed is a storage with mounts and file systems. -/
theorem parseStorage_eq {parse : Bytes → Option Json} {raw : EvidenceStore} {storage : Storage}
    (h : (parseStorage parse raw).1 = some storage) :
    ∃ devices mounts, List.Forall₂ SameButMount (connectedStorage raw).devices devices ∧
      List.Forall₂ SameButDevice (tableMounts raw) mounts ∧
        storage = { connectedStorage raw with
          devices := devices
          mounts := mounts
          filesystems := (raw.getAll .filesystemUsage).filterMap (recordReport parse mounts) } := by
  rw [parseStorage] at h
  dsimp only at h
  split at h
  · cases h
  · split at h
    · cases h
    · rw [← Option.some.inj h]
      exact mounts_and_filesystems parse raw _

/-- **What is parsed is well formed**, from any evidence. -/
theorem parseStorage_wellFormed {parse : Bytes → Option Json} {raw : EvidenceStore}
    {storage : Storage} (h : (parseStorage parse raw).1 = some storage) : WellFormed raw storage := by
  obtain ⟨devices, mounts, hdevices, hmounts, rfl⟩ := parseStorage_eq h
  refine ⟨forall₂_trans ?_ (connectedStorage_devices raw) hdevices, ?_, hmounts, ?_⟩
  · intro block device after hkept hafter
    rw [SameButMount] at hafter
    rw [hafter]
    exact ⟨hkept.1, hkept.2.1⟩
  · refine forall_mem_of_forall₂ ?_ hdevices (connectedStorage_sound raw)
    intro device after hafter hsound
    exact hafter.sound hsound
  · intro report hreport
    obtain ⟨record, -, hrecord⟩ := List.mem_filterMap.mp hreport
    obtain ⟨value, -, hvalue⟩ := recordReport_eq_some hrecord
    obtain ⟨hids, hne⟩ := filesystemReport_mountIds hvalue
    exact ⟨hne, fun id hid => (mem_knownIds.mp (hids ▸ hid)).1⟩

end Sysal.StorageParser
