import Mathlib.Data.List.Destutter
import Mathlib.Data.List.Forall2
import Mathlib.Data.List.Sort
import Sysal.Model.Storage

/-!
# Storage classification

`storage_classification.cpp`: purpose, protocol and transports of a device, from its namespace, its SCSI
address and its driver.  Partitions and virtual layers own none of them; the one exception is the
namespace that the kernel shows for several NVMe paths, whose layer becomes that of a device.

* `sortUnique_pairwise`, `mem_sortUnique`: the transports in order, each once;
* `classify_sound`: what a classification says about its device;
* `classify_idem`: a device that is classified again stays as it is;
* `applyStorageClassification_spec`: both, for all devices.
-/

namespace Sysal.StorageParser

open Sysal

/-! ### Sorted without repetition -/

section SortUnique

variable {α : Type} [CEnum α] [DecidableEq α]

/-- `std::sort` and `std::unique`. -/
def sortUnique (l : List α) : List α :=
  (l.insertionSort fun a b => CEnum.code a ≤ CEnum.code b).destutter (· ≠ ·)

theorem sortUnique_eq_dedup (l : List α) :
    sortUnique l = (l.insertionSort fun a b => CEnum.code a ≤ CEnum.code b).dedup := by
  have hantisymm : Std.Antisymm fun a b : α => CEnum.code a ≤ CEnum.code b :=
    ⟨fun a b hab hba => CEnum.code_injective (Nat.le_antisymm hab hba)⟩
  have htotal : Std.Total fun a b : α => CEnum.code a ≤ CEnum.code b :=
    ⟨fun a b => Nat.le_total _ _⟩
  have htrans : IsTrans α fun a b : α => CEnum.code a ≤ CEnum.code b :=
    ⟨fun a b c => Nat.le_trans⟩
  exact List.Pairwise.destutter_eq_dedup (List.pairwise_insertionSort _ l)

theorem mem_sortUnique {l : List α} {a : α} : a ∈ sortUnique l ↔ a ∈ l := by
  rw [sortUnique_eq_dedup, List.mem_dedup, List.mem_insertionSort]

/-- The elements come in strictly increasing order. -/
theorem sortUnique_pairwise (l : List α) :
    (sortUnique l).Pairwise fun a b => CEnum.code a < CEnum.code b := by
  have htotal : Std.Total fun a b : α => CEnum.code a ≤ CEnum.code b :=
    ⟨fun a b => Nat.le_total _ _⟩
  have htrans : IsTrans α fun a b : α => CEnum.code a ≤ CEnum.code b :=
    ⟨fun a b c => Nat.le_trans⟩
  have hle : (sortUnique l).Pairwise fun a b => CEnum.code a ≤ CEnum.code b :=
    (List.pairwise_insertionSort _ l).sublist (List.destutter_sublist _ _)
  have hne : (sortUnique l).Nodup := by
    rw [sortUnique_eq_dedup]
    exact List.nodup_dedup _
  exact (hle.and hne).imp fun h => Nat.lt_of_le_of_ne h.1 fun heq => h.2 (CEnum.code_injective heq)

end SortUnique

/-! ### Evidence -/

/-- `transport`: the transport a name stands for, in either case. -/
def transportOf (value : Bytes) : StorageTransport :=
  let names : List (String × StorageTransport) :=
    [("pcie", .pcie), ("sata", .sata), ("sas", .sas), ("usb", .usb), ("tcp", .tcp), ("rdma", .rdma),
     ("fc", .fibreChannel), ("iscsi", .iscsi), ("spi", .parallelScsi)]
  ((names.find? fun entry => utf8 entry.1 = value.map toLower).map (·.2)).getD .unknown

/-- A namespace with a number. -/
def hasNamespace (device : StorageDevice) : Bool := device.nvmeNamespace.any (·.id != 0)

/-- The purpose of a SCSI peripheral type. -/
def peripheralPurpose (type : UInt32) : StoragePurpose :=
  if type ∈ [0x00, 0x0e, 0x14] then .disk
  else if type ∈ [0x04, 0x05, 0x07] then .optical
  else if type ∈ [0x01, 0x02, 0x03, 0x06, 0x08, 0x09, 0x0c, 0x0d, 0x11, 0x1e] then .other
  else .unknown

/-- `purpose`. -/
def purposeOf (device : StorageDevice) : StoragePurpose :=
  if hasNamespace device then .disk
  else match device.scsiDevice.bind (·.peripheralType) with
    | some type => peripheralPurpose type
    | none => if device.driver = utf8 "virtio_blk" then .disk else .unknown

/-- The first host of a SCSI device has an ATA port. -/
def onAtaPort (hosts : List ScsiHost) (scsi : ScsiDeviceInfo) : Bool :=
  (hosts.find? (·.number = scsi.address.host)).any (·.ataPort.isSome)

/-- The protocol of a device that owns one. -/
def protocolOf (hosts : List ScsiHost) (device : StorageDevice) : StorageProtocol :=
  if hasNamespace device then .nvme
  else match device.scsiDevice with
    | some scsi => if onAtaPort hosts scsi then .ata else .scsi
    | none => .unknown

/-- The names that say how a device is connected: its own and those of the controllers of its
namespace. -/
def transportNames (controllers : List NvmeController) (device : StorageDevice) : List Bytes :=
  device.transport ::
    if hasNamespace device then
      (device.nvmeNamespace.elim [] (·.controllers)).flatMap fun name =>
        (controllers.filter (·.name = name)).map (·.transport)
    else []

/-! ### The loop -/

/-- The layer of a device: a virtual one with a namespace is a device. -/
def classifiedLayer (device : StorageDevice) : BlockDeviceLayer :=
  if hasNamespace device && device.classification.layer = .virtual then .device
  else device.classification.layer

/-- One device. -/
def classify (hosts : List ScsiHost) (controllers : List NvmeController) (device : StorageDevice) :
    StorageDevice :=
  let layer := classifiedLayer device
  { device with
    classification :=
      if layer = .device ∨ layer = .unknown then
        { layer := layer
          purpose := purposeOf device
          protocol := protocolOf hosts device
          transports :=
            sortUnique (((transportNames controllers device).map transportOf).filter (· ≠ .unknown)) }
      else { layer := layer } }

/-- `apply_storage_classification`. -/
def applyStorageClassification (storage : Storage) : Storage :=
  { storage with
    devices := storage.devices.map (classify storage.scsiHosts storage.nvmeControllers) }

/-! ### Soundness -/

/-- What the classification of a device says about it. -/
structure Sound (hosts : List ScsiHost) (controllers : List NvmeController) (device : StorageDevice) :
    Prop where
  /-- Partitions and virtual layers own nothing. -/
  virtual : device.classification.layer ∈
      [.partition, .deviceMapper, .raid, .loop, BlockDeviceLayer.virtual] →
    device.classification.purpose = .unknown ∧ device.classification.protocol = .unknown ∧
      device.classification.transports = []
  nvme : device.classification.protocol = .nvme ↔
    (device.classification.layer = .device ∨ device.classification.layer = .unknown) ∧
      ∃ ns, device.nvmeNamespace = some ns ∧ ns.id ≠ 0
  ata : device.classification.protocol = .ata → ∃ scsi host, device.scsiDevice = some scsi ∧
    hosts.find? (·.number = scsi.address.host) = some host ∧ host.ataPort ≠ none
  scsi : device.classification.protocol = .scsi → ∃ scsi, device.scsiDevice = some scsi ∧
    ∀ host, hosts.find? (·.number = scsi.address.host) = some host → host.ataPort = none
  sorted : device.classification.transports.Pairwise fun a b => CEnum.code a < CEnum.code b
  transports : ∀ transport ∈ device.classification.transports, transport ≠ .unknown ∧
    ∃ name, transport = transportOf name ∧
      (name = device.transport ∨ ∃ ns, device.nvmeNamespace = some ns ∧
        ∃ controller ∈ controllers, controller.name ∈ ns.controllers ∧ controller.transport = name)

theorem hasNamespace_iff {device : StorageDevice} :
    hasNamespace device = true ↔ ∃ ns, device.nvmeNamespace = some ns ∧ ns.id ≠ 0 := by
  rw [hasNamespace, Option.any_eq_true]
  simp

theorem protocolOf_eq_nvme {hosts : List ScsiHost} {device : StorageDevice} :
    protocolOf hosts device = .nvme ↔ hasNamespace device = true := by
  rw [protocolOf]
  by_cases h : hasNamespace device = true
  · rw [if_pos h]
    exact iff_of_true rfl h
  · rw [if_neg h]
    refine iff_of_false ?_ h
    cases device.scsiDevice with
    | none => exact StorageProtocol.noConfusion
    | some scsi =>
        dsimp only
        split <;> exact StorageProtocol.noConfusion

/-- A protocol of the SCSI family is that of a SCSI device, by the port of its first host. -/
theorem protocolOf_scsi {hosts : List ScsiHost} {device : StorageDevice}
    (h : protocolOf hosts device = .ata ∨ protocolOf hosts device = .scsi) :
    ∃ scsi, device.scsiDevice = some scsi ∧
      (protocolOf hosts device = .ata ↔ onAtaPort hosts scsi = true) := by
  rw [protocolOf] at h ⊢
  by_cases hns : hasNamespace device = true
  · rw [if_pos hns] at h
    rcases h with h | h <;> cases h
  · rw [if_neg hns] at h ⊢
    cases hscsi : device.scsiDevice with
    | none =>
        rw [hscsi] at h
        rcases h with h | h <;> cases h
    | some scsi =>
        refine ⟨scsi, rfl, ?_⟩
        dsimp only
        by_cases hport : onAtaPort hosts scsi = true
        · rw [if_pos hport]
          exact iff_of_true rfl hport
        · rw [if_neg hport]
          exact iff_of_false StorageProtocol.noConfusion hport

theorem onAtaPort_iff {hosts : List ScsiHost} {scsi : ScsiDeviceInfo} :
    onAtaPort hosts scsi = true ↔
      ∃ host, hosts.find? (·.number = scsi.address.host) = some host ∧ host.ataPort ≠ none := by
  rw [onAtaPort, Option.any_eq_true]
  simp [Option.isSome_iff_ne_none]

/-- Every name that is asked belongs to the device or to a controller of its namespace. -/
theorem mem_transportNames {controllers : List NvmeController} {device : StorageDevice} {name : Bytes}
    (h : name ∈ transportNames controllers device) :
    name = device.transport ∨ ∃ ns, device.nvmeNamespace = some ns ∧
      ∃ controller ∈ controllers, controller.name ∈ ns.controllers ∧ controller.transport = name := by
  rw [transportNames, List.mem_cons] at h
  rcases h with h | h
  · exact Or.inl h
  · split at h
    · rename_i hns
      obtain ⟨ns, hsome, -⟩ := hasNamespace_iff.mp hns
      rw [hsome, Option.elim_some, List.mem_flatMap] at h
      obtain ⟨other, hother, hin⟩ := h
      obtain ⟨controller, hcontroller, rfl⟩ := List.mem_map.mp hin
      rw [List.mem_filter, decide_eq_true_eq] at hcontroller
      exact Or.inr ⟨ns, hsome, controller, hcontroller.1, hcontroller.2 ▸ hother, rfl⟩
    · exact absurd h List.not_mem_nil

/-- A classified device owns evidence exactly when its layer is that of a device or unknown. -/
theorem classify_cases (hosts : List ScsiHost) (controllers : List NvmeController)
    (device : StorageDevice) :
    ((classifiedLayer device = .device ∨ classifiedLayer device = .unknown) ∧
      (classify hosts controllers device).classification =
        { layer := classifiedLayer device
          purpose := purposeOf device
          protocol := protocolOf hosts device
          transports := sortUnique
            (((transportNames controllers device).map transportOf).filter (· ≠ .unknown)) }) ∨
    (¬(classifiedLayer device = .device ∨ classifiedLayer device = .unknown) ∧
      (classify hosts controllers device).classification = { layer := classifiedLayer device }) := by
  rw [classify]
  by_cases h : classifiedLayer device = .device ∨ classifiedLayer device = .unknown
  · exact Or.inl ⟨h, if_pos h⟩
  · exact Or.inr ⟨h, if_neg h⟩

theorem classify_layer (hosts : List ScsiHost) (controllers : List NvmeController)
    (device : StorageDevice) :
    (classify hosts controllers device).classification.layer = classifiedLayer device := by
  rcases classify_cases hosts controllers device with ⟨-, hclass⟩ | ⟨-, hclass⟩ <;> rw [hclass]

theorem classify_sound (hosts : List ScsiHost) (controllers : List NvmeController)
    (device : StorageDevice) : Sound hosts controllers (classify hosts controllers device) := by
  have hsame : (classify hosts controllers device).nvmeNamespace = device.nvmeNamespace ∧
      (classify hosts controllers device).scsiDevice = device.scsiDevice ∧
      (classify hosts controllers device).transport = device.transport := ⟨rfl, rfl, rfl⟩
  obtain ⟨hnamespace, hscsi, htransport⟩ := hsame
  rcases classify_cases hosts controllers device with ⟨hlayer, hclass⟩ | ⟨hlayer, hclass⟩
  · refine ⟨?_, ?_, ?_, ?_, ?_, ?_⟩
    · rw [hclass]
      intro hvirtual
      rcases hlayer with hlayer | hlayer <;> simp [hlayer] at hvirtual
    · rw [hclass, hnamespace, ← hasNamespace_iff, protocolOf_eq_nvme]
      exact (and_iff_right hlayer).symm
    · rw [hclass, hscsi]
      intro hata
      obtain ⟨scsi, hsome, hport⟩ := protocolOf_scsi (Or.inl hata)
      obtain ⟨host, hhost⟩ := onAtaPort_iff.mp (hport.mp hata)
      exact ⟨scsi, host, hsome, hhost⟩
    · rw [hclass, hscsi]
      intro (hprotocol : protocolOf hosts device = .scsi)
      obtain ⟨scsi, hsome, hport⟩ := protocolOf_scsi (Or.inr hprotocol)
      refine ⟨scsi, hsome, fun host hhost => ?_⟩
      by_contra hne
      have hata := hport.mpr (onAtaPort_iff.mpr ⟨host, hhost, hne⟩)
      rw [hprotocol] at hata
      cases hata
    · rw [hclass]
      exact sortUnique_pairwise _
    · rw [hclass, hnamespace, htransport]
      intro transport htrans
      rw [mem_sortUnique, List.mem_filter, decide_eq_true_eq] at htrans
      obtain ⟨name, hname, rfl⟩ := List.mem_map.mp htrans.1
      exact ⟨htrans.2, name, rfl, mem_transportNames hname⟩
  · refine ⟨?_, ?_, ?_, ?_, ?_, ?_⟩
    · rw [hclass]
      exact fun _ => ⟨rfl, rfl, rfl⟩
    · rw [hclass]
      exact iff_of_false StorageProtocol.noConfusion fun h => hlayer h.1
    · rw [hclass]
      exact StorageProtocol.noConfusion
    · rw [hclass]
      exact StorageProtocol.noConfusion
    · rw [hclass]
      exact List.Pairwise.nil
    · rw [hclass]
      exact fun transport htrans => absurd htrans List.not_mem_nil

/-! ### Idempotence -/

/-- The layer that was found is found again. -/
theorem classifiedLayer_classify (hosts : List ScsiHost) (controllers : List NvmeController)
    (device : StorageDevice) :
    classifiedLayer (classify hosts controllers device) = classifiedLayer device := by
  have hlayer := classify_layer hosts controllers device
  have hnamespace : hasNamespace (classify hosts controllers device) = hasNamespace device := rfl
  rw [classifiedLayer, hlayer, hnamespace]
  split
  · -- a layer that would be changed again was changed before
    rename_i h
    rw [Bool.and_eq_true, decide_eq_true_eq] at h
    rw [classifiedLayer] at h ⊢
    split at h
    · rename_i hbefore
      rw [if_pos hbefore]
    · rename_i hbefore
      exact absurd (by simpa using h) hbefore
  · rfl

theorem classify_idem (hosts : List ScsiHost) (controllers : List NvmeController)
    (device : StorageDevice) :
    classify hosts controllers (classify hosts controllers device) =
      classify hosts controllers device := by
  have hlayer := classifiedLayer_classify hosts controllers device
  conv_lhs => rw [classify]
  conv_rhs => rw [classify]
  rw [hlayer]
  rfl

/-- **The classification is sound, and doing it again changes nothing.** -/
theorem applyStorageClassification_spec (storage : Storage) :
    List.Forall₂ (fun device after =>
        after = { device with classification := after.classification } ∧
          after.classification.layer = classifiedLayer device ∧
          Sound storage.scsiHosts storage.nvmeControllers after)
        storage.devices (applyStorageClassification storage).devices ∧
      applyStorageClassification storage =
        { storage with devices := (applyStorageClassification storage).devices } ∧
      applyStorageClassification (applyStorageClassification storage) =
        applyStorageClassification storage := by
  refine ⟨?_, rfl, ?_⟩
  · rw [applyStorageClassification, List.forall₂_map_right_iff, List.forall₂_same]
    exact fun device _ => ⟨rfl, classify_layer _ _ device, classify_sound _ _ device⟩
  · rw [applyStorageClassification, applyStorageClassification]
    simp only [List.map_map, Function.comp_def, classify_idem]

end Sysal.StorageParser
