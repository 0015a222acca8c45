import Sysal.Model.Accelerator
import Mathlib.Data.List.Nodup
import Mathlib.Data.List.Perm.Subperm
import Mathlib.Data.List.Range

/-!
# The accelerator inventory

`AcceleratorInventory` collects devices from five evidence sources.  `add` merges a record into the
first stored device it identifies with, or stores it as a new device; a physical device that claims an
ordinal held by a MIG child moves the child to the least unused identifier first.

`next_id` counts a 32-bit number up while some device holds it.  One pass over the `2 ^ 32` numbers
decides it: if all are held, the counter wraps and the loop repeats itself for ever, which is the
result `none` of `nextId` and of every operation that needs it.

* `nextId_spec`, `nextId_isSome`: below `2 ^ 32` devices the loop ends with the least unused number;
* `add_spec`: what one `add` can do, once and for all;
* `inventory_run_spec`: the store invariant over every sequence of additions;
* `inventory_fills_reserved`: with `2 ^ 32 - 1` devices stored, the next MIG child receives the
  ordinal `2 ^ 32 - 1` that `add` otherwise rejects.
-/

namespace Sysal.AcceleratorInventory

open Sysal

/-- The inventory under construction, with the warnings it has issued. -/
structure Inventory where
  devices : List AcceleratorDevice := []
  warnings : List Bytes := []
  deriving DecidableEq, Inhabited

/-- The identifiers of a device list, in store order. -/
def ids (devices : List AcceleratorDevice) : List AcceleratorId := devices.map AcceleratorDevice.id

/-- The ordinal no device may report. -/
def reservedId : AcceleratorId := 0xffffffff

/-! ### The operations -/

/-- Whether two records describe one device: by UUID, by MIG instance, by PCI address, and by ordinal
only when no stable identity is there on both sides. -/
def sameDevice (left right : AcceleratorDevice) : Bool :=
  if left.vendor ≠ right.vendor ∨ left.parentUuid ≠ right.parentUuid then false
  else if left.uuid.isSome ∧ right.uuid.isSome then left.uuid = right.uuid
  else if left.parentUuid.isSome then
    left.gpuInstanceId.isSome ∧ right.gpuInstanceId.isSome ∧ left.computeInstanceId.isSome ∧
      right.computeInstanceId.isSome ∧ left.gpuInstanceId = right.gpuInstanceId ∧
      left.computeInstanceId = right.computeInstanceId
  else if left.pciAddress.isSome ∧ right.pciAddress.isSome then left.pciAddress = right.pciAddress
  else left.id = right.id

/-- `fill_missing`. -/
def fillMissing {α : Type} (target source : Option α) : Option α :=
  if target.isNone then source else target

/-- The merge of a record into the stored device it identifies with. -/
def fillDevice (existing device : AcceleratorDevice) : AcceleratorDevice :=
  { existing with
    uuid := fillMissing existing.uuid device.uuid
    pciAddress := fillMissing existing.pciAddress device.pciAddress
    memorySize := fillMissing existing.memorySize device.memorySize
    nearestNumaNode := fillMissing existing.nearestNumaNode device.nearestNumaNode
    gpuInstanceId := fillMissing existing.gpuInstanceId device.gpuInstanceId
    computeInstanceId := fillMissing existing.computeInstanceId device.computeInstanceId }

/-- Two UUIDs reported at one PCI address. -/
def conflictingUuids (existing device : AcceleratorDevice) : Bool :=
  existing.parentUuid.isNone ∧ device.parentUuid.isNone ∧ existing.vendor = device.vendor ∧
    existing.uuid.isSome ∧ device.uuid.isSome ∧ existing.pciAddress.isSome ∧
    existing.pciAddress = device.pciAddress

/-- Two PCI addresses reported for one device. -/
def conflictingAddresses (existing device : AcceleratorDevice) : Bool :=
  existing.pciAddress.isSome ∧ device.pciAddress.isSome ∧ existing.pciAddress ≠ device.pciAddress

/-- The scan for the first stored device a record identifies with: the merged list if there is one,
and the warnings of the scan. -/
def mergeFirst (device : AcceleratorDevice) :
    List AcceleratorDevice → Option (List AcceleratorDevice) × List Bytes
  | [] => (none, [])
  | existing :: rest =>
    if sameDevice existing device then
      (some (fillDevice existing device :: rest),
        if conflictingAddresses existing device then
          [utf8 "parse_accelerator: conflicting PCI addresses for the same UUID"]
        else [])
    else
      let scan := mergeFirst device rest
      (scan.1.map (existing :: ·),
        (if conflictingUuids existing device then
          [utf8 "parse_accelerator: conflicting UUIDs at the same PCI address; devices kept separate"]
        else []) ++ scan.2)

/-- The loop of `next_id`, for `fuel` more numbers. -/
def nextIdFrom (used : List AcceleratorId) : ℕ → AcceleratorId → Option AcceleratorId
  | 0, _ => none
  | fuel + 1, next => if next ∈ used then nextIdFrom used fuel (next + 1) else some next

/-- `next_id`; `none` when every number is held and the loop never ends. -/
def nextId (devices : List AcceleratorDevice) : Option AcceleratorId :=
  nextIdFrom (ids devices) (2 ^ 32) 0

/-- Moves every MIG child away from a claimed ordinal, in store order; `done` are the devices already
visited. -/
def relocate (id : AcceleratorId) :
    List AcceleratorDevice → List AcceleratorDevice → Option (List AcceleratorDevice)
  | done, [] => some done
  | done, existing :: rest =>
    if existing.parentUuid.isSome ∧ existing.id = id then
      match nextId (done ++ existing :: rest) with
      | some next => relocate id (done ++ [{ existing with id := next }]) rest
      | none => none
    else relocate id (done ++ [existing]) rest

/-- The identifier a new device is stored under. -/
def assignId (devices : List AcceleratorDevice) (device : AcceleratorDevice) :
    Option AcceleratorId :=
  if device.parentUuid.isSome ∨ device.id ∈ ids devices then nextId devices
  else some device.id

/-- `AcceleratorInventory::add`; `none` when a `next_id` call does not end. -/
def add (s : Inventory) (device : AcceleratorDevice) : Option Inventory :=
  if device.id = reservedId then
    some { s with warnings := s.warnings ++ [utf8 "parse_accelerator: device ordinal out of range"] }
  else
    match mergeFirst device s.devices with
    | (some merged, ws) => some { devices := merged, warnings := s.warnings ++ ws }
    | (none, ws) =>
      match (if device.parentUuid.isNone then relocate device.id [] s.devices
        else some s.devices) with
      | none => none
      | some moved =>
        match assignId moved device with
        | none => none
        | some id =>
          some { devices := moved ++ [{ device with id := id }], warnings := s.warnings ++ ws }

/-- A sequence of additions to the empty inventory. -/
def addAll (ds : List AcceleratorDevice) : Option Inventory := ds.foldlM add {}

@[simp] theorem ids_nil : ids [] = [] := rfl

@[simp] theorem ids_cons (d : AcceleratorDevice) (l : List AcceleratorDevice) :
    ids (d :: l) = d.id :: ids l := rfl

@[simp] theorem ids_append (l m : List AcceleratorDevice) : ids (l ++ m) = ids l ++ ids m :=
  List.map_append

@[simp] theorem length_ids (l : List AcceleratorDevice) : (ids l).length = l.length :=
  List.length_map _

/-! ### The least unused identifier -/

/-- The numbers a pass has rejected are held by some device. -/
theorem nextIdFrom_some {used : List AcceleratorId} {fuel k : ℕ} {n : AcceleratorId}
    (hk : k + fuel ≤ 2 ^ 32) (h : nextIdFrom used fuel (UInt32.ofNat k) = some n) :
    n ∉ used ∧ k ≤ n.toNat ∧ ∀ j, k ≤ j → j < n.toNat → UInt32.ofNat j ∈ used := by
  induction fuel generalizing k with
  | zero => cases h
  | succ fuel ih =>
      rw [nextIdFrom] at h
      split at h
      · rename_i hused
        rw [show UInt32.ofNat k + 1 = UInt32.ofNat (k + 1) from (UInt32.ofNat_add k 1).symm] at h
        obtain ⟨hn, hle, hall⟩ := ih (by omega) h
        refine ⟨hn, by omega, ?_⟩
        intro j hkj hj
        rcases Nat.eq_or_lt_of_le hkj with rfl | hlt
        · exact hused
        · exact hall j hlt hj
      · rename_i hfree
        obtain rfl : UInt32.ofNat k = n := Option.some.inj h
        have hval : (UInt32.ofNat k).toNat = k := by
          rw [UInt32.toNat_ofNat']; exact Nat.mod_eq_of_lt (by omega)
        exact ⟨hfree, hval.ge, fun j hkj hj => absurd hj (by omega)⟩

theorem nextIdFrom_none {used : List AcceleratorId} {fuel k : ℕ}
    (h : nextIdFrom used fuel (UInt32.ofNat k) = none) :
    ∀ j, k ≤ j → j < k + fuel → UInt32.ofNat j ∈ used := by
  induction fuel generalizing k with
  | zero => intro j hkj hj; omega
  | succ fuel ih =>
      rw [nextIdFrom] at h
      split at h
      · rename_i hused
        rw [show UInt32.ofNat k + 1 = UInt32.ofNat (k + 1) from (UInt32.ofNat_add k 1).symm] at h
        intro j hkj hj
        rcases Nat.eq_or_lt_of_le hkj with rfl | hlt
        · exact hused
        · exact ih h j hlt (by omega)
      · cases h

/-- Pigeonhole: a list that holds the numbers below `n` has at least `n` entries. -/
theorem le_length_of_forall_mem {used : List AcceleratorId} {n : ℕ} (hn : n ≤ 2 ^ 32)
    (h : ∀ j, j < n → UInt32.ofNat j ∈ used) : n ≤ used.length := by
  have hnodup : ((List.range n).map UInt32.ofNat).Nodup := by
    refine List.Nodup.map_on ?_ List.nodup_range
    intro i hi j hj heq
    rw [List.mem_range] at hi hj
    have := congrArg UInt32.toNat heq
    rwa [UInt32.toNat_ofNat', UInt32.toNat_ofNat', Nat.mod_eq_of_lt (by omega),
      Nat.mod_eq_of_lt (by omega)] at this
  have hsub : (List.range n).map UInt32.ofNat ⊆ used := by
    intro a ha
    obtain ⟨j, hj, rfl⟩ := List.mem_map.mp ha
    exact h j (List.mem_range.mp hj)
  simpa using (List.subperm_of_subset hnodup hsub).length_le

/-- **The result of `next_id`** is unused, everything below it is used, and it does not exceed the
number of devices. -/
theorem nextId_spec {devices : List AcceleratorDevice} {n : AcceleratorId}
    (h : nextId devices = some n) :
    n ∉ ids devices ∧ (∀ m, m < n → m ∈ ids devices) ∧
      n.toNat ≤ devices.length := by
  obtain ⟨hfree, -, hall⟩ := nextIdFrom_some (k := 0) (by omega) h
  refine ⟨hfree, ?_, ?_⟩
  · intro m hm
    have hmem := hall m.toNat (Nat.zero_le _) (UInt32.lt_iff_toNat_lt.mp hm)
    rwa [UInt32.ofNat_toNat] at hmem
  · have := le_length_of_forall_mem (n := n.toNat) (UInt32.toNat_lt n).le
      (fun j hj => hall j (Nat.zero_le _) hj)
    simpa using this

/-- **`next_id` terminates** while fewer than `2 ^ 32` devices are stored. -/
theorem nextId_isSome (devices : List AcceleratorDevice) (h : devices.length < 2 ^ 32) :
    ∃ n, nextId devices = some n := by
  rcases hn : nextId devices with _ | n
  · have hall := nextIdFrom_none (k := 0) hn
    have := le_length_of_forall_mem (n := 2 ^ 32) le_rfl
      (fun j hj => hall j (Nat.zero_le _) (by omega))
    rw [length_ids] at this
    omega
  · exact ⟨n, rfl⟩

/-! ### What the steps of an addition do -/

/-- Relocation of one device from the ordinal `id`: MIG children holding it get another number of at
most `bound`, everything else stays as it is. -/
def Moves (id : AcceleratorId) (bound : ℕ) (old new : AcceleratorDevice) : Prop :=
  (new = old ∧ ¬(old.parentUuid.isSome ∧ old.id = id)) ∨
    (old.parentUuid.isSome ∧ old.id = id ∧
      ∃ n, new = { old with id := n } ∧ n ≠ id ∧ n.toNat ≤ bound)

theorem relocate_spec {id : AcceleratorId} {rest : List AcceleratorDevice} :
    ∀ {done out : List AcceleratorDevice}, relocate id done rest = some out →
      (ids (done ++ rest)).Nodup →
      ∃ moved, out = done ++ moved ∧
        List.Forall₂ (Moves id (done.length + rest.length)) rest moved ∧
        (ids out).Nodup := by
  induction rest with
  | nil =>
      intro done out h hnodup
      obtain rfl : done = out := Option.some.inj h
      exact ⟨[], by simp, .nil, by simpa using hnodup⟩
  | cons existing rest ih =>
      intro done out h hnodup
      rw [relocate] at h
      split at h
      · rename_i hclaimed
        split at h
        · rename_i next hnext
          obtain ⟨hfree, -, hbound⟩ := nextId_spec hnext
          have hmid : (ids (done ++ [{ existing with id := next }] ++ rest)).Nodup := by
            rw [ids_append, ids_cons] at hnodup
            have hperm := List.nodup_middle.mp hnodup
            simp only [ids_append, ids_cons, List.mem_append, List.mem_cons, not_or] at hfree
            simp only [List.append_assoc, List.singleton_append, ids_append, ids_cons]
            refine List.nodup_middle.mpr (List.nodup_cons.mpr ⟨?_, (List.nodup_cons.mp hperm).2⟩)
            rw [List.mem_append, not_or]
            exact ⟨hfree.1, hfree.2.2⟩
          obtain ⟨moved, rfl, hmoves, hout⟩ := ih h hmid
          refine ⟨{ existing with id := next } :: moved, by simp, .cons ?_ ?_, hout⟩
          · refine Or.inr ⟨hclaimed.1, hclaimed.2, next, rfl, ?_, by simpa using hbound⟩
            rintro rfl
            exact hfree (by simp [hclaimed.2])
          · simpa [Nat.add_assoc, Nat.add_comm 1] using hmoves
        · cases h
      · rename_i hstays
        obtain ⟨moved, rfl, hmoves, hout⟩ := ih h (by simpa using hnodup)
        refine ⟨existing :: moved, by simp, .cons (Or.inl ⟨rfl, hstays⟩) ?_, hout⟩
        simpa [Nat.add_assoc, Nat.add_comm 1] using hmoves

/-- Relocation ends while `next_id` does. -/
theorem relocate_isSome (id : AcceleratorId) (rest : List AcceleratorDevice) :
    ∀ done : List AcceleratorDevice, done.length + rest.length < 2 ^ 32 →
      ∃ out, relocate id done rest = some out := by
  induction rest with
  | nil => intro done _; exact ⟨done, rfl⟩
  | cons existing rest ih =>
      intro done hlen
      rw [List.length_cons] at hlen
      rw [relocate]
      split
      · obtain ⟨next, hnext⟩ := nextId_isSome (done ++ existing :: rest)
          (by simp only [List.length_append, List.length_cons]; omega)
        rw [hnext]
        exact ih _ (by simp only [List.length_append, List.length_singleton]; omega)
      · exact ih _ (by simp only [List.length_append, List.length_singleton]; omega)

theorem assignId_spec {devices : List AcceleratorDevice} {device : AcceleratorDevice}
    {n : AcceleratorId} (h : assignId devices device = some n) :
    n ∉ ids devices ∧ (n = device.id ∨ n.toNat ≤ devices.length) ∧
      (device.parentUuid = none → device.id ∉ ids devices → n = device.id) := by
  rw [assignId] at h
  split at h
  · rename_i hneeds
    obtain ⟨hfree, -, hbound⟩ := nextId_spec h
    refine ⟨hfree, Or.inr hbound, ?_⟩
    intro hparent hown
    rcases hneeds with hsome | hmem
    · rw [hparent] at hsome; cases hsome
    · exact absurd hmem hown
  · rename_i hown
    obtain rfl : device.id = n := Option.some.inj h
    exact ⟨fun hmem => hown (Or.inr hmem), Or.inl rfl, fun _ _ => rfl⟩

theorem mergeFirst_some {device : AcceleratorDevice} {l merged : List AcceleratorDevice}
    (h : (mergeFirst device l).1 = some merged) :
    ∃ pre existing post, l = pre ++ existing :: post ∧
      (sameDevice existing device ∧ ∀ e ∈ pre, sameDevice e device = false) ∧
      merged = pre ++ fillDevice existing device :: post := by
  induction l generalizing merged with
  | nil => cases h
  | cons existing rest ih =>
      rw [mergeFirst] at h
      split at h
      · rename_i hsame
        obtain rfl := Option.some.inj h
        exact ⟨[], existing, rest, rfl, ⟨hsame, fun e he => absurd he List.not_mem_nil⟩, rfl⟩
      · rename_i hother
        obtain ⟨merged', hrest, rfl⟩ := Option.map_eq_some_iff.mp h
        obtain ⟨pre, e, post, rfl, ⟨hsame, hfirst⟩, rfl⟩ := ih hrest
        refine ⟨existing :: pre, e, post, rfl, ⟨hsame, ?_⟩, rfl⟩
        intro x hx
        rcases List.mem_cons.mp hx with rfl | hx
        · simpa using hother
        · exact hfirst x hx

theorem mergeFirst_none {device : AcceleratorDevice} {l : List AcceleratorDevice}
    (h : (mergeFirst device l).1 = none) : ∀ e ∈ l, sameDevice e device = false := by
  induction l with
  | nil => intro e he; cases he
  | cons existing rest ih =>
      rw [mergeFirst] at h
      split at h
      · cases h
      · rename_i hsame
        intro e he
        rcases List.mem_cons.mp he with rfl | he
        · simpa using hsame
        · exact ih (Option.map_eq_none_iff.mp h) e he

/-- **What one addition does**: it rejects the reserved ordinal, merges into the first stored device it
identifies with, or, if there is none, moves MIG children away and appends the device. -/
theorem add_cases {s s' : Inventory} {device : AcceleratorDevice} (h : add s device = some s') :
    (device.id = reservedId ∧ s'.devices = s.devices) ∨
    (device.id ≠ reservedId ∧ ∃ pre existing post, s.devices = pre ++ existing :: post ∧
      (sameDevice existing device ∧ ∀ e ∈ pre, sameDevice e device = false) ∧
      s'.devices = pre ++ fillDevice existing device :: post) ∨
    ((device.id ≠ reservedId ∧ ∀ e ∈ s.devices, sameDevice e device = false) ∧ ∃ moved n,
      ((device.parentUuid = none ∧ relocate device.id [] s.devices = some moved) ∨
        (device.parentUuid ≠ none ∧ moved = s.devices)) ∧
      assignId moved device = some n ∧ s'.devices = moved ++ [{ device with id := n }]) := by
  rw [add] at h
  split at h
  · rename_i hres
    obtain rfl := Option.some.inj h
    exact Or.inl ⟨hres, rfl⟩
  · rename_i hres
    refine Or.inr ?_
    split at h
    · rename_i merged ws hmerge
      obtain rfl := Option.some.inj h
      obtain ⟨pre, e, post, hl, hsame, rfl⟩ := mergeFirst_some (congrArg Prod.fst hmerge)
      exact Or.inl ⟨hres, pre, e, post, hl, hsame, rfl⟩
    · rename_i ws hmerge
      refine Or.inr ⟨⟨hres, mergeFirst_none (congrArg Prod.fst hmerge)⟩, ?_⟩
      split at h
      · cases h
      · rename_i moved hmoved
        split at h
        · cases h
        · rename_i n hn
          obtain rfl := Option.some.inj h
          refine ⟨moved, n, ?_, hn, rfl⟩
          split at hmoved
          · rename_i hparent
            exact Or.inl ⟨by simpa using hparent, hmoved⟩
          · rename_i hparent
            exact Or.inr ⟨by simpa using hparent, (Option.some.inj hmoved).symm⟩

/-- Relocation keeps the number of devices. -/
theorem relocate_length {id : AcceleratorId} {rest : List AcceleratorDevice} :
    ∀ {done out : List AcceleratorDevice}, relocate id done rest = some out →
      out.length = done.length + rest.length := by
  induction rest with
  | nil =>
      intro done out h
      obtain rfl : done = out := Option.some.inj h
      rfl
  | cons existing rest ih =>
      intro done out h
      rw [relocate] at h
      have hstep : ∀ e : AcceleratorDevice, relocate id (done ++ [e]) rest = some out →
          out.length = done.length + (existing :: rest).length := by
        intro e he
        rw [ih he]
        simp only [List.length_append, List.length_cons, List.length_nil]
        omega
      split at h
      · split at h
        · exact hstep _ h
        · cases h
      · exact hstep _ h

/-- An identifier can be assigned below `2 ^ 32` stored devices. -/
theorem assignId_isSome {devices : List AcceleratorDevice} (device : AcceleratorDevice)
    (h : devices.length < 2 ^ 32) : ∃ n, assignId devices device = some n := by
  rw [assignId]
  split
  · exact nextId_isSome devices h
  · exact ⟨_, rfl⟩

/-- An addition ends below `2 ^ 32` stored devices. -/
theorem add_isSome {s : Inventory} {device : AcceleratorDevice} (h : s.devices.length < 2 ^ 32) :
    ∃ s', add s device = some s' := by
  rw [add]
  split
  · exact ⟨_, rfl⟩
  · split
    · exact ⟨_, rfl⟩
    · obtain ⟨moved, hmoved, hlen⟩ : ∃ moved, (if device.parentUuid.isNone then
          relocate device.id [] s.devices else some s.devices) = some moved ∧
          moved.length = s.devices.length := by
        split
        · obtain ⟨out, hout⟩ := relocate_isSome device.id s.devices [] (by simpa using h)
          exact ⟨out, hout, by simpa using relocate_length hout⟩
        · exact ⟨_, rfl, rfl⟩
      rw [hmoved]
      obtain ⟨n, hn⟩ := assignId_isSome device (hlen ▸ h)
      simp [hn]

/-! ### The store invariant -/

/-- A field that is set keeps its value. -/
def KeepsSet {α : Type} (old new : Option α) : Prop := ∀ v, old = some v → new = some v

theorem KeepsSet.refl {α : Type} (o : Option α) : KeepsSet o o := fun _ h => h

theorem KeepsSet.trans {α : Type} {a b c : Option α} (h : KeepsSet a b) (h' : KeepsSet b c) :
    KeepsSet a c := fun v hv => h' v (h v hv)

theorem keepsSet_fillMissing {α : Type} (target source : Option α) :
    KeepsSet target (fillMissing target source) := by
  intro v hv
  simp [fillMissing, hv]

/-- What every stored device keeps whatever is added later: its description, its parent, and each
identity or measurement field once that is set. -/
structure Retains (old new : AcceleratorDevice) : Prop where
  kind : new.kind = old.kind
  vendor : new.vendor = old.vendor
  name : new.name = old.name
  parentUuid : new.parentUuid = old.parentUuid
  uuid : KeepsSet old.uuid new.uuid
  pciAddress : KeepsSet old.pciAddress new.pciAddress
  memorySize : KeepsSet old.memorySize new.memorySize
  nearestNumaNode : KeepsSet old.nearestNumaNode new.nearestNumaNode
  gpuInstanceId : KeepsSet old.gpuInstanceId new.gpuInstanceId
  computeInstanceId : KeepsSet old.computeInstanceId new.computeInstanceId
  /-- A device without a parent keeps its identifier for good. -/
  physicalId : old.parentUuid = none → new.id = old.id

theorem Retains.refl (d : AcceleratorDevice) : Retains d d where
  kind := rfl
  vendor := rfl
  name := rfl
  parentUuid := rfl
  uuid := .refl _
  pciAddress := .refl _
  memorySize := .refl _
  nearestNumaNode := .refl _
  gpuInstanceId := .refl _
  computeInstanceId := .refl _
  physicalId := fun _ => rfl

theorem Retains.trans {a b c : AcceleratorDevice} (h : Retains a b) (h' : Retains b c) :
    Retains a c where
  kind := h'.kind.trans h.kind
  vendor := h'.vendor.trans h.vendor
  name := h'.name.trans h.name
  parentUuid := h'.parentUuid.trans h.parentUuid
  uuid := h.uuid.trans h'.uuid
  pciAddress := h.pciAddress.trans h'.pciAddress
  memorySize := h.memorySize.trans h'.memorySize
  nearestNumaNode := h.nearestNumaNode.trans h'.nearestNumaNode
  gpuInstanceId := h.gpuInstanceId.trans h'.gpuInstanceId
  computeInstanceId := h.computeInstanceId.trans h'.computeInstanceId
  physicalId := fun hp => (h'.physicalId (h.parentUuid.trans hp)).trans (h.physicalId hp)

/-- A device list that continues another: every old device is still at its old place, related to
what it was. -/
def Continues (old new : List AcceleratorDevice) : Prop :=
  ∀ (i : ℕ) (e : AcceleratorDevice), old[i]? = some e →
    ∃ e', new[i]? = some e' ∧ Retains e e'

theorem Continues.trans {a b c : List AcceleratorDevice} (h : Continues a b)
    (h' : Continues b c) : Continues a c := by
  intro i e he
  obtain ⟨e', he', hr⟩ := h i e he
  obtain ⟨e'', he'', hr'⟩ := h' i e' he'
  exact ⟨e'', he'', hr.trans hr'⟩

theorem continues_of_forall₂ {old kept : List AcceleratorDevice} (added : List AcceleratorDevice)
    (h : List.Forall₂ Retains old kept) : Continues old (kept ++ added) := by
  intro i e he
  obtain ⟨hi, rfl⟩ := List.getElem?_eq_some_iff.mp he
  have hi' : i < kept.length := h.length_eq ▸ hi
  exact ⟨kept[i], by rw [List.getElem?_append_left hi', List.getElem?_eq_getElem hi'],
    h.get hi hi'⟩

/-- The effect of adding `device` on one stored device: an identifier changes only if it is a MIG
child's and `device` is a physical device that claims it. -/
structure KeptBy (device old new : AcceleratorDevice) : Prop extends Retains old new where
  reassigned : new.id ≠ old.id →
    old.parentUuid.isSome ∧ device.parentUuid = none ∧ device.id = old.id

/-- The effect of one addition on the store. -/
structure Addition (device : AcceleratorDevice) (old new : List AcceleratorDevice) : Prop where
  /-- At most the device itself is appended, everything else stays in place. -/
  stored : ∃ kept added, new = kept ++ added ∧ List.Forall₂ (KeptBy device) old kept ∧
    (added = [] ∨ ∃ id, added = [{ device with id := id }] ∧
      -- A physical device is stored under its own ordinal unless a physical device holds it.
      (device.parentUuid = none → (∀ e ∈ old, e.parentUuid = none → e.id ≠ device.id) →
        id = device.id))

theorem keptBy_refl (device e : AcceleratorDevice) : KeptBy device e e :=
  { Retains.refl e with reassigned := fun h => absurd rfl h }

theorem keptBy_fillDevice (device existing : AcceleratorDevice) :
    KeptBy device existing (fillDevice existing device) where
  kind := rfl
  vendor := rfl
  name := rfl
  parentUuid := rfl
  uuid := keepsSet_fillMissing _ _
  pciAddress := keepsSet_fillMissing _ _
  memorySize := keepsSet_fillMissing _ _
  nearestNumaNode := keepsSet_fillMissing _ _
  gpuInstanceId := keepsSet_fillMissing _ _
  computeInstanceId := keepsSet_fillMissing _ _
  physicalId := fun _ => rfl
  reassigned := fun h => absurd rfl h

theorem keptBy_of_moves {device old new : AcceleratorDevice} {bound : ℕ}
    (hparent : device.parentUuid = none) (h : Moves device.id bound old new) :
    KeptBy device old new := by
  rcases h with ⟨rfl, -⟩ | ⟨hchild, hid, n, rfl, -, -⟩
  · exact keptBy_refl device _
  · exact
      { Retains.refl old with
        physicalId := fun hp => by rw [hp] at hchild; cases hchild
        reassigned := fun _ => ⟨hchild, hparent, hid.symm⟩ }

theorem forall₂_keptBy_refl (device : AcceleratorDevice) (l : List AcceleratorDevice) :
    List.Forall₂ (KeptBy device) l l :=
  List.forall₂_same.mpr fun e _ => keptBy_refl device e

/-- After relocation only a physical device can hold the claimed ordinal. -/
theorem physical_of_claimed {id : AcceleratorId} {bound : ℕ}
    {old moved : List AcceleratorDevice} (h : List.Forall₂ (Moves id bound) old moved)
    (hid : id ∈ ids moved) : ∃ e ∈ old, e.parentUuid = none ∧ e.id = id := by
  induction h with
  | nil => simp at hid
  | cons hmove hrest ih =>
      rw [ids_cons, List.mem_cons] at hid
      rcases hid with hhead | htail
      · rcases hmove with ⟨rfl, hstay⟩ | ⟨-, -, n, rfl, hne, -⟩
        · refine ⟨_, List.mem_cons_self, ?_, hhead.symm⟩
          by_contra hp
          exact hstay ⟨Option.isSome_iff_ne_none.mpr hp, hhead.symm⟩
        · exact absurd hhead.symm hne
      · obtain ⟨e, he, hp⟩ := ih htail
        exact ⟨e, List.mem_cons_of_mem _ he, hp⟩

/-- **The effect of one addition**, from any store with distinct identifiers. -/
theorem addition_of_add {s s' : Inventory} {device : AcceleratorDevice}
    (hnodup : (ids s.devices).Nodup) (h : add s device = some s') :
    Addition device s.devices s'.devices := by
  rcases add_cases h with ⟨-, hsame⟩ | ⟨-, pre, e, post, hold, -, hnew⟩ |
    ⟨-, moved, n, hmoved, hn, hnew⟩
  · exact ⟨s.devices, [], by simpa using hsame, forall₂_keptBy_refl _ _, Or.inl rfl⟩
  · refine ⟨pre ++ fillDevice e device :: post, [], by simpa using hnew, ?_, Or.inl rfl⟩
    rw [hold]
    exact List.rel_append (forall₂_keptBy_refl _ _)
      (.cons (keptBy_fillDevice _ _) (forall₂_keptBy_refl _ _))
  · obtain ⟨-, -, hown⟩ := assignId_spec hn
    rcases hmoved with ⟨hparent, hrel⟩ | ⟨hchild, rfl⟩
    · obtain ⟨moved', rfl, hmoves, -⟩ := relocate_spec hrel (by simpa using hnodup)
      refine ⟨moved, _, hnew, hmoves.imp fun _ _ => keptBy_of_moves hparent,
        Or.inr ⟨n, rfl, ?_⟩⟩
      intro _ hfree
      refine hown hparent fun hmem => ?_
      obtain ⟨e, he, hp, hid⟩ := physical_of_claimed hmoves hmem
      exact hfree e he hp hid
    · exact ⟨s.devices, _, hnew, forall₂_keptBy_refl _ _,
        Or.inr ⟨n, rfl, fun hp => absurd hp hchild⟩⟩

/-- One addition keeps the identifiers distinct. -/
theorem nodup_of_add {s s' : Inventory} {device : AcceleratorDevice}
    (hnodup : (ids s.devices).Nodup) (h : add s device = some s') : (ids s'.devices).Nodup := by
  rcases add_cases h with ⟨-, hsame⟩ | ⟨-, pre, e, post, hold, -, hnew⟩ |
    ⟨-, moved, n, hmoved, hn, hnew⟩
  · rwa [hsame]
  · rw [hold] at hnodup
    simpa [hnew, fillDevice] using hnodup
  · obtain ⟨hfree, -, -⟩ := assignId_spec hn
    have hids : (ids moved).Nodup := by
      rcases hmoved with ⟨-, hrel⟩ | ⟨-, rfl⟩
      · obtain ⟨_, _, _, hout⟩ := relocate_spec hrel (by simpa using hnodup)
        exact hout
      · exact hnodup
    rw [hnew, ids_append]
    refine List.nodup_append.mpr ⟨hids, by simp, ?_⟩
    rintro a ha b hb rfl
    obtain rfl : a = n := by simpa using hb
    exact hfree ha

/-- Moving children away from an ordinal assigns no number above the bound. -/
theorem unreserved_of_moves {id : AcceleratorId} {bound : ℕ} (hbound : bound < 2 ^ 32 - 1)
    {old moved : List AcceleratorDevice} (h : List.Forall₂ (Moves id bound) old moved)
    (hold : reservedId ∉ ids old) : reservedId ∉ ids moved := by
  induction h with
  | nil => exact hold
  | cons hmove hrest ih =>
      rw [ids_cons, List.mem_cons, not_or] at hold ⊢
      refine ⟨?_, ih hold.2⟩
      rcases hmove with ⟨rfl, -⟩ | ⟨-, -, n, rfl, -, hle⟩
      · exact hold.1
      · rintro heq
        have hval : n.toNat = 2 ^ 32 - 1 := congrArg UInt32.toNat heq.symm
        omega

/-- One addition never stores the reserved ordinal while fewer than `2 ^ 32` devices result. -/
theorem unreserved_of_add {s s' : Inventory} {device : AcceleratorDevice}
    (hnodup : (ids s.devices).Nodup) (hold : reservedId ∉ ids s.devices)
    (h : add s device = some s') (hcap : s'.devices.length < 2 ^ 32) :
    reservedId ∉ ids s'.devices := by
  rcases add_cases h with ⟨-, hsame⟩ | ⟨-, pre, e, post, hdev, -, hnew⟩ |
    ⟨hres, moved, n, hmoved, hn, hnew⟩
  · rwa [hsame]
  · rw [hdev] at hold
    simpa [hnew, fillDevice] using hold
  · obtain ⟨-, hn', -⟩ := assignId_spec hn
    have hlen : moved.length = s.devices.length := by
      rcases hmoved with ⟨-, hrel⟩ | ⟨-, rfl⟩
      · simpa using relocate_length hrel
      · rfl
    have hbound : s.devices.length < 2 ^ 32 - 1 := by
      rw [hnew, List.length_append, List.length_singleton] at hcap
      omega
    have hmem : reservedId ∉ ids moved := by
      rcases hmoved with ⟨-, hrel⟩ | ⟨-, rfl⟩
      · obtain ⟨moved', rfl, hmoves, -⟩ := relocate_spec hrel (by simpa using hnodup)
        exact unreserved_of_moves (by simpa using hbound) hmoves hold
      · exact hold
    rw [hnew, ids_append, List.mem_append, not_or]
    refine ⟨hmem, ?_⟩
    simp only [ids_cons, ids_nil, List.mem_singleton]
    rcases hn' with rfl | hle
    · exact fun heq => hres.1 heq.symm
    · rintro rfl
      rw [hlen] at hle
      exact absurd hle (by rw [show reservedId.toNat = 2 ^ 32 - 1 from rfl]; omega)

/-- The invariant of the store, as one predicate. -/
structure StoreInv (s : Inventory) : Prop where
  distinct : (ids s.devices).Nodup
  unreserved : s.devices.length < 2 ^ 32 → reservedId ∉ ids s.devices

theorem length_le_of_add {s s' : Inventory} {device : AcceleratorDevice}
    (hnodup : (ids s.devices).Nodup) (h : add s device = some s') :
    s.devices.length ≤ s'.devices.length := by
  obtain ⟨kept, added, hnew, hkept, -⟩ := (addition_of_add hnodup h).stored
  rw [hnew, List.length_append, ← hkept.length_eq]
  omega

/-- **Step lemma.** Every addition keeps the store invariant. -/
theorem storeInv_add {s s' : Inventory} {device : AcceleratorDevice} (hs : StoreInv s)
    (h : add s device = some s') : StoreInv s' where
  distinct := nodup_of_add hs.distinct h
  unreserved := fun hcap =>
    unreserved_of_add hs.distinct
      (hs.unreserved (lt_of_le_of_lt (length_le_of_add hs.distinct h) hcap)) h hcap

/-- **Run lemma.** Every sequence of additions keeps the store invariant, and every device of the
store is still at its place afterwards with everything it must retain. -/
theorem run_spec {ds : List AcceleratorDevice} :
    ∀ {s s' : Inventory}, StoreInv s → ds.foldlM add s = some s' →
      StoreInv s' ∧ Continues s.devices s'.devices := by
  induction ds with
  | nil =>
      intro s s' hs h
      obtain rfl : s = s' := Option.some.inj h
      exact ⟨hs, fun i e he => ⟨e, he, .refl e⟩⟩
  | cons d ds ih =>
      intro s s' hs h
      rw [List.foldlM_cons] at h
      obtain ⟨s₁, hadd, hrest⟩ := Option.bind_eq_some_iff.mp h
      obtain ⟨hs', hlater⟩ := ih (storeInv_add hs hadd) hrest
      obtain ⟨kept, added, hnew, hkept, -⟩ := (addition_of_add hs.distinct hadd).stored
      have hnow : Continues s.devices s₁.devices := by
        rw [hnew]
        exact continues_of_forall₂ added (hkept.imp fun _ _ hk => hk.toRetains)
      exact ⟨hs', hnow.trans hlater⟩

theorem storeInv_empty : StoreInv {} := ⟨List.nodup_nil, fun _ => List.not_mem_nil⟩

/-- **The accelerator inventory over every sequence of additions.**  Identifiers are distinct; while
fewer than `2 ^ 32` devices are stored none is the reserved ordinal, `next_id` ends with the least
unused number and every further addition ends; and an addition changes the store only as `Addition`
says, so stored devices keep their place and whatever they must retain. -/
theorem inventory_run_spec (ds : List AcceleratorDevice) (s : Inventory)
    (hrun : addAll ds = some s) :
    (ids s.devices).Nodup ∧
    (s.devices.length < 2 ^ 32 → reservedId ∉ ids s.devices) ∧
    (s.devices.length < 2 ^ 32 → ∃ n, nextId s.devices = some n ∧ n ∉ ids s.devices ∧
      ∀ m, m < n → m ∈ ids s.devices) ∧
    (∀ d, (s.devices.length < 2 ^ 32 → ∃ s', add s d = some s') ∧
      ∀ s', add s d = some s' → Addition d s.devices s'.devices) ∧
    (∀ (es : List AcceleratorDevice) (s' : Inventory), es.foldlM add s = some s' →
      Continues s.devices s'.devices) := by
  obtain ⟨hinv, -⟩ := run_spec storeInv_empty hrun
  refine ⟨hinv.distinct, hinv.unreserved, ?_, ?_, ?_⟩
  · intro hcap
    obtain ⟨n, hn⟩ := nextId_isSome _ hcap
    obtain ⟨hfree, hleast, -⟩ := nextId_spec hn
    exact ⟨n, hn, hfree, hleast⟩
  · exact fun d => ⟨add_isSome, fun s' hadd => addition_of_add hinv.distinct hadd⟩
  · exact fun es s' hes => (run_spec hinv hes).2

/-- A MIG child stored under ordinal `0` gives way to the physical device that claims it. -/
theorem inventory_run_spec_relocated :
    let s : Inventory := ⟨[{ id := 1, parentUuid := some [71] }, { id := 0 }], []⟩
    addAll [{ id := 7, parentUuid := some [71] }, { id := 0 }] = some s ∧ (ids s.devices).Nodup :=
  ⟨by decide, (inventory_run_spec [{ id := 7, parentUuid := some [71] }, { id := 0 }] _
    (by decide)).1⟩

/-! ### Where the identifiers run out -/

/-- MIG children of one GPU with pairwise different UUIDs. -/
def migChild (i : ℕ) : AcceleratorDevice :=
  { vendor := utf8 "NVIDIA", uuid := some (List.replicate i 48), parentUuid := some (utf8 "GPU-0") }

/-- The first `k` MIG children under the ordinals `0 .. k-1`. -/
def migStore (k : ℕ) : List AcceleratorDevice :=
  (List.range k).map fun i => { migChild i with id := UInt32.ofNat i }

theorem mem_ids_migStore {k : ℕ} (hk : k ≤ 2 ^ 32) {n : AcceleratorId} :
    n ∈ ids (migStore k) ↔ n.toNat < k := by
  simp only [ids, migStore, List.mem_map, List.mem_range, exists_exists_and_eq_and]
  constructor
  · rintro ⟨i, hi, rfl⟩
    rw [UInt32.toNat_ofNat', Nat.mod_eq_of_lt (by omega)]
    exact hi
  · intro hn
    exact ⟨n.toNat, hn, UInt32.ofNat_toNat⟩

theorem nextId_migStore {k : ℕ} (hk : k < 2 ^ 32) :
    nextId (migStore k) = some (UInt32.ofNat k) := by
  have hval : (UInt32.ofNat k).toNat = k := by
    rw [UInt32.toNat_ofNat', Nat.mod_eq_of_lt hk]
  obtain ⟨n, hn⟩ := nextId_isSome (migStore k) (by simpa [migStore] using hk)
  obtain ⟨hfree, hleast, -⟩ := nextId_spec hn
  rw [mem_ids_migStore hk.le] at hfree
  have hle : n.toNat ≤ k := by
    by_contra hgt
    have := hleast (UInt32.ofNat k) (UInt32.lt_iff_toNat_lt.mpr (by omega))
    rw [mem_ids_migStore hk.le] at this
    omega
  rw [hn, Option.some.injEq, ← UInt32.toNat_inj, hval]
  omega

/-- A further child matches none of the stored ones and draws no warning. -/
theorem mergeFirst_migStore {k : ℕ} {l : List AcceleratorDevice}
    (h : ∀ e ∈ l, ∃ i n, i < k ∧ e = { migChild i with id := n }) :
    mergeFirst (migChild k) l = (none, []) := by
  induction l with
  | nil => rfl
  | cons e l ih =>
      obtain ⟨i, n, hi, rfl⟩ := h e List.mem_cons_self
      have hne : List.replicate i (48 : UInt8) ≠ List.replicate k 48 := by
        intro heq
        have := congrArg List.length heq
        simp only [List.length_replicate] at this
        omega
      have hdiff : sameDevice { migChild i with id := n } (migChild k) = false := by
        simp [sameDevice, migChild, hne]
      have hsilent : conflictingUuids { migChild i with id := n } (migChild k) = false := by
        simp [conflictingUuids, migChild]
      rw [mergeFirst, hdiff, hsilent, ih fun e he => h e (List.mem_cons_of_mem _ he)]
      rfl

theorem add_migChild {k : ℕ} (hk : k < 2 ^ 32) :
    add ⟨migStore k, []⟩ (migChild k) = some ⟨migStore (k + 1), []⟩ := by
  have hmerge : mergeFirst (migChild k) (migStore k) = (none, []) := by
    refine mergeFirst_migStore fun e he => ?_
    obtain ⟨i, hi, rfl⟩ := List.mem_map.mp he
    exact ⟨i, _, List.mem_range.mp hi, rfl⟩
  have hid : assignId (migStore k) (migChild k) = some (UInt32.ofNat k) := by
    rw [assignId, if_pos (Or.inl (show (migChild k).parentUuid.isSome = true from rfl)),
      nextId_migStore hk]
  have hres : (migChild k).id ≠ reservedId := show (0 : UInt32) ≠ reservedId by decide
  have hchild : (migChild k).parentUuid.isNone = false := rfl
  rw [add, if_neg hres, hmerge]
  simp only [hchild, Bool.false_eq_true, if_false, hid]
  simp [migStore, List.range_succ]

theorem addAll_migChildren {k : ℕ} (hk : k ≤ 2 ^ 32) :
    addAll ((List.range k).map migChild) = some ⟨migStore k, []⟩ := by
  induction k with
  | zero => rfl
  | succ k ih =>
      have hprev := ih (by omega)
      rw [addAll] at hprev ⊢
      rw [List.range_succ, List.map_append, List.foldlM_append, hprev]
      show (List.foldlM add ⟨migStore k, []⟩ [migChild k]) = _
      rw [List.foldlM_cons, add_migChild (by omega)]
      rfl

theorem migStore_exhausted {k : ℕ} (hk : k = 2 ^ 32) :
    ∃ s, addAll ((List.range k).map migChild) = some s ∧ reservedId ∈ ids s.devices ∧
      nextId s.devices = none := by
  refine ⟨⟨migStore k, []⟩, addAll_migChildren hk.le, ?_, ?_⟩
  · exact (mem_ids_migStore hk.le).mpr (hk ▸ UInt32.toNat_lt reservedId)
  · rcases hn : nextId (migStore k) with _ | n
    · rfl
    · exact absurd ((mem_ids_migStore hk.le).mpr (hk ▸ UInt32.toNat_lt n)) (nextId_spec hn).1

/-- **`2 ^ 32` MIG children with different UUIDs**: the last one is stored under the reserved ordinal,
and from then on `next_id` never ends. -/
theorem inventory_fills_reserved :
    ∃ s, addAll ((List.range (2 ^ 32)).map migChild) = some s ∧ reservedId ∈ ids s.devices ∧
      nextId s.devices = none :=
  migStore_exhausted rfl

end Sysal.AcceleratorInventory
