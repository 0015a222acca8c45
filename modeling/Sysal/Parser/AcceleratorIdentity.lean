import Sysal.Parser.AcceleratorInventory
import Mathlib.Data.List.Dedup
import Mathlib.Data.List.Induction
import Mathlib.Data.List.Infix

/-!
# One device per physical GPU

A physical GPU reaches the inventory through several records, each with its UUID, its PCI address or
both.  `same_device` compares the identities both sides have; where they share none it compares the
ordinals, and `add` merges into the first device that compares equal and never merges two stored
devices afterwards.

* `sameDevice_report`: what `same_device` decides between a stored device and a record;
* `Tracks`: the store holds one device for each GPU reported so far;
* `Tracks.step`, `agree_of_separate`: an addition keeps this exactly when the ordinals agree with the
  identities;
* `onePerGpu_iff`: the inventory ends with one device per GPU exactly when they agree at every step;
* `not_onePerGpu`: records that merge two GPUs, and records that store one twice.
-/

namespace Sysal.AcceleratorInventory

open Sysal

/-! ### Fleets and their records -/

/-- A physical GPU by its stable identities. -/
structure Gpu where
  uuid : Bytes
  pciAddress : PciAddress
  deriving DecidableEq

/-- The GPUs of one vendor: no two share a UUID or a PCI address. -/
structure Fleet where
  vendor : Bytes
  gpus : List Gpu
  uuids_nodup : (gpus.map Gpu.uuid).Nodup
  addresses_nodup : (gpus.map Gpu.pciAddress).Nodup

/-- A record that describes one GPU of the fleet by its UUID, its PCI address or both. -/
structure Report (f : Fleet) where
  gpu : Gpu
  mem : gpu ∈ f.gpus
  device : AcceleratorDevice
  vendor : device.vendor = f.vendor
  physical : device.parentUuid = none
  uuid : device.uuid = none ∨ device.uuid = some gpu.uuid
  pciAddress : device.pciAddress = none ∨ device.pciAddress = some gpu.pciAddress
  identified : device.uuid.isSome ∨ device.pciAddress.isSome
  ordinal : device.id < reservedId

/-- The identities a stored device or record carries. -/
def identities (d : AcceleratorDevice) : Option Bytes × Option PciAddress := (d.uuid, d.pciAddress)

/-- Both identities of a GPU. -/
def Gpu.identities (g : Gpu) : Option Bytes × Option PciAddress := (some g.uuid, some g.pciAddress)

/-- The record carries both identities of its GPU. -/
def Report.Combined {f : Fleet} (r : Report f) : Prop :=
  r.device.uuid.isSome ∧ r.device.pciAddress.isSome

/-- The GPUs that some record describes. -/
def described {f : Fleet} (rs : List (Report f)) : List Gpu := (rs.map Report.gpu).dedup

/-- The additions end, with one device per described GPU that carries both of its identities. -/
def OnePerGpu {f : Fleet} (rs : List (Report f)) : Prop :=
  ∃ s, addAll (rs.map Report.device) = some s ∧
    (s.devices.map identities).Perm ((described rs).map Gpu.identities)

/-- A stored device and a record share no identity, so that `same_device` compares their ordinals. -/
def FallsBack (existing device : AcceleratorDevice) : Prop :=
  ¬(existing.uuid.isSome ∧ device.uuid.isSome) ∧
    ¬(existing.pciAddress.isSome ∧ device.pciAddress.isSome)

/-- The device carries an identity of the GPU. -/
def Names (g : Gpu) (d : AcceleratorDevice) : Prop :=
  d.uuid = some g.uuid ∨ d.pciAddress = some g.pciAddress

/-- The ordinals agree with the identities when a record meets a store. -/
structure OrdinalsAgree {f : Fleet} (s : Inventory) (r : Report f) : Prop where
  /-- The GPU's own device, if it has only the other identity, holds the record's ordinal. -/
  own : ∀ e ∈ s.devices, FallsBack e r.device → Names r.gpu e → e.id = r.device.id
  /-- A device with only the other identity that holds the record's ordinal is the GPU's own, or
  stands behind it. -/
  others : ∀ pre e post, s.devices = pre ++ e :: post → FallsBack e r.device →
    e.id = r.device.id → Names r.gpu e ∨ ∃ d ∈ pre, Names r.gpu d

/-! ### A stored device and a record -/

variable {f : Fleet}

theorem Fleet.eq_of_uuid {g g' : Gpu} (hg : g ∈ f.gpus) (hg' : g' ∈ f.gpus)
    (h : g.uuid = g'.uuid) : g = g' :=
  List.inj_on_of_nodup_map f.uuids_nodup hg hg' h

theorem Fleet.eq_of_pciAddress {g g' : Gpu} (hg : g ∈ f.gpus) (hg' : g' ∈ f.gpus)
    (h : g.pciAddress = g'.pciAddress) : g = g' :=
  List.inj_on_of_nodup_map f.addresses_nodup hg hg' h

/-- A stored device that carries identities of one GPU only. -/
structure Owns (f : Fleet) (g : Gpu) (d : AcceleratorDevice) : Prop where
  mem : g ∈ f.gpus
  vendor : d.vendor = f.vendor
  physical : d.parentUuid = none
  uuid : d.uuid = none ∨ d.uuid = some g.uuid
  pciAddress : d.pciAddress = none ∨ d.pciAddress = some g.pciAddress
  names : Names g d

theorem Report.owns (r : Report f) : Owns f r.gpu r.device where
  mem := r.mem
  vendor := r.vendor
  physical := r.physical
  uuid := r.uuid
  pciAddress := r.pciAddress
  names := by
    rcases r.identified with h | h
    · refine Or.inl (r.uuid.resolve_left ?_)
      intro hnone
      simp [hnone] at h
    · refine Or.inr (r.pciAddress.resolve_left ?_)
      intro hnone
      simp [hnone] at h

/-- A GPU that a stored device names is the one that owns it. -/
theorem Owns.eq_of_names {g g' : Gpu} {d : AcceleratorDevice} (h : Owns f g d) (hg' : g' ∈ f.gpus)
    (hnames : Names g' d) : g' = g := by
  rcases hnames with hu | hp
  · have := h.uuid.resolve_left (by rw [hu]; exact Option.some_ne_none _)
    exact Fleet.eq_of_uuid hg' h.mem (Option.some.inj (hu.symm.trans this))
  · have := h.pciAddress.resolve_left (by rw [hp]; exact Option.some_ne_none _)
    exact Fleet.eq_of_pciAddress hg' h.mem (Option.some.inj (hp.symm.trans this))

/-- **`same_device` between a stored device and a record**: the GPUs decide where the two share an
identity, and the ordinals decide where they do not. -/
theorem sameDevice_report {g : Gpu} {e : AcceleratorDevice} (he : Owns f g e) (r : Report f) :
    sameDevice e r.device ↔
      (FallsBack e r.device ∧ e.id = r.device.id) ∨ (¬FallsBack e r.device ∧ g = r.gpu) := by
  have hv : e.vendor = r.device.vendor := he.vendor.trans r.vendor.symm
  have hp : e.parentUuid = r.device.parentUuid := he.physical.trans r.physical.symm
  have hphys : r.device.parentUuid = none := r.physical
  by_cases hu : e.uuid.isSome ∧ r.device.uuid.isSome
  · have hback : ¬FallsBack e r.device := fun h => h.1 hu
    have heu := he.uuid.resolve_left (Option.isSome_iff_ne_none.mp hu.1)
    have hru := r.uuid.resolve_left (Option.isSome_iff_ne_none.mp hu.2)
    have hgpu : g.uuid = r.gpu.uuid ↔ g = r.gpu :=
      ⟨fun h => Fleet.eq_of_uuid he.mem r.mem h, fun h => congrArg _ h⟩
    simp [sameDevice, hv, hp, heu, hru, hback, hgpu]
  · by_cases ha : e.pciAddress.isSome ∧ r.device.pciAddress.isSome
    · have hback : ¬FallsBack e r.device := fun h => h.2 ha
      have hea := he.pciAddress.resolve_left (Option.isSome_iff_ne_none.mp ha.1)
      have hra := r.pciAddress.resolve_left (Option.isSome_iff_ne_none.mp ha.2)
      have hgpu : g.pciAddress = r.gpu.pciAddress ↔ g = r.gpu :=
        ⟨fun h => Fleet.eq_of_pciAddress he.mem r.mem h, fun h => congrArg _ h⟩
      simp [sameDevice, hv, hp, hphys, hu, hea, hra, hback, hgpu]
    · have hback : FallsBack e r.device := ⟨hu, ha⟩
      simp [sameDevice, hv, hp, hphys, hu, ha, hback]

/-- The merged device carries the identities of both sides. -/
theorem names_fillDevice {g : Gpu} {e : AcceleratorDevice} (d : AcceleratorDevice)
    (h : Names g e) : Names g (fillDevice e d) :=
  h.imp (keepsSet_fillMissing _ _ _) (keepsSet_fillMissing _ _ _)

/-- Where no identity is shared, the merged device also carries the record's. -/
theorem names_fillDevice_of_fallsBack {e : AcceleratorDevice} {r : Report f}
    (h : FallsBack e r.device) : Names r.gpu (fillDevice e r.device) := by
  rcases r.owns.names with hu | hp
  · have hnone : e.uuid = none := by
      simpa [hu] using h.1
    exact Or.inl (by simp [fillDevice, fillMissing, hnone, hu])
  · have hnone : e.pciAddress = none := by
      simpa [hp] using h.2
    exact Or.inr (by simp [fillDevice, fillMissing, hnone, hp])

theorem owns_fillDevice {g : Gpu} {e : AcceleratorDevice} {r : Report f} (he : Owns f g e)
    (hg : g = r.gpu) : Owns f g (fillDevice e r.device) where
  mem := he.mem
  vendor := he.vendor
  physical := he.physical
  uuid := by
    rcases he.uuid with h | h
    · simpa [fillDevice, fillMissing, h, hg] using r.uuid
    · simp [fillDevice, fillMissing, h]
  pciAddress := by
    rcases he.pciAddress with h | h
    · simpa [fillDevice, fillMissing, h, hg] using r.pciAddress
    · simp [fillDevice, fillMissing, h]
  names := names_fillDevice _ he.names

/-- A record with both identities completes the device of its GPU, and a complete device stays so. -/
theorem identities_fillDevice {g : Gpu} {e : AcceleratorDevice} {r : Report f} (he : Owns f g e)
    (hg : g = r.gpu) (h : identities e = g.identities ∨ r.Combined) :
    identities (fillDevice e r.device) = g.identities := by
  have hown := owns_fillDevice he hg
  have hset : (fillDevice e r.device).uuid.isSome ∧ (fillDevice e r.device).pciAddress.isSome := by
    rcases h with h | h
    · obtain ⟨hu, hp⟩ := Prod.mk.inj h
      simp [fillDevice, fillMissing, hu, hp]
    · constructor
      · rcases hu : e.uuid with _ | u
        · simpa [fillDevice, fillMissing, hu] using h.1
        · simp [fillDevice, fillMissing, hu]
      · rcases hp : e.pciAddress with _ | a
        · simpa [fillDevice, fillMissing, hp] using h.2
        · simp [fillDevice, fillMissing, hp]
  have hu := hown.uuid.resolve_left (Option.isSome_iff_ne_none.mp hset.1)
  have hp := hown.pciAddress.resolve_left (Option.isSome_iff_ne_none.mp hset.2)
  exact Prod.ext hu hp

/-- A physical store has no MIG child to move. -/
theorem relocate_physical {id : AcceleratorId} {rest : List AcceleratorDevice}
    (h : ∀ e ∈ rest, e.parentUuid = none) :
    ∀ done, relocate id done rest = some (done ++ rest) := by
  induction rest with
  | nil => intro done; simp [relocate]
  | cons e rest ih =>
      intro done
      have he : e.parentUuid = none := h e List.mem_cons_self
      rw [relocate, if_neg (by simp [he]), ih (fun x hx => h x (List.mem_cons_of_mem _ hx))]
      simp

/-! ### One addition -/

/-- The store holds one device for each GPU of the records so far; `owned` pairs the two.  A GPU that
had a record with both identities has both of them stored. -/
structure Tracks (rs : List (Report f)) (s : Inventory) (owned : List (Gpu × AcceleratorDevice)) :
    Prop where
  devices : owned.map Prod.snd = s.devices
  nodup : (owned.map Prod.fst).Nodup
  owner : ∀ p ∈ owned, Owns f p.1 p.2
  gpus : ∀ g, g ∈ owned.map Prod.fst ↔ g ∈ rs.map Report.gpu
  complete : ∀ p ∈ owned, ∀ r ∈ rs, r.gpu = p.1 → r.Combined → identities p.2 = p.1.identities

/-- No device carries identities of two GPUs, and no GPU's identities are on two devices. -/
structure Separate (f : Fleet) (devices : List AcceleratorDevice) : Prop where
  oneGpu : ∀ (i : ℕ) e, devices[i]? = some e → ∀ g ∈ f.gpus, ∀ g' ∈ f.gpus,
    Names g e → Names g' e → g = g'
  oneDevice : ∀ (i j : ℕ) e e', devices[i]? = some e → devices[j]? = some e' →
    ∀ g ∈ f.gpus, Names g e → Names g e' → i = j

theorem Separate.of_continues {old new : List AcceleratorDevice} (h : Separate f new)
    (hcont : Continues old new) : Separate f old where
  oneGpu := by
    intro i e he g hg g' hg' hn hn'
    obtain ⟨e₁, he₁, hr⟩ := hcont i e he
    exact h.oneGpu i e₁ he₁ g hg g' hg' (hn.imp (hr.uuid _) (hr.pciAddress _))
      (hn'.imp (hr.uuid _) (hr.pciAddress _))
  oneDevice := by
    intro i j e e' he he' g hg hn hn'
    obtain ⟨e₁, he₁, hr⟩ := hcont i e he
    obtain ⟨e₂, he₂, hr'⟩ := hcont j e' he'
    exact h.oneDevice i j e₁ e₂ he₁ he₂ g hg (hn.imp (hr.uuid _) (hr.pciAddress _))
      (hn'.imp (hr'.uuid _) (hr'.pciAddress _))

section Step

variable {rs : List (Report f)} {s s' : Inventory} {owned : List (Gpu × AcceleratorDevice)}
  {r : Report f}

/-- The device at a place of a tracked store, with its GPU. -/
theorem Tracks.split (ht : Tracks rs s owned) {pre post : List AcceleratorDevice}
    {e : AcceleratorDevice} (h : s.devices = pre ++ e :: post) :
    ∃ l g m, owned = l ++ (g, e) :: m ∧ l.map Prod.snd = pre ∧ m.map Prod.snd = post := by
  obtain ⟨l, k, howned, hl, hk⟩ := List.map_eq_append_iff.mp (ht.devices.trans h)
  obtain ⟨⟨g, e'⟩, m, rfl, he, hm⟩ := List.map_eq_cons_iff.mp hk
  obtain rfl : e' = e := he
  exact ⟨l, g, m, howned, hl, hm⟩

/-- In a tracked store the device of a GPU is unique. -/
theorem Tracks.owner_unique (ht : Tracks rs s owned) {p q : Gpu × AcceleratorDevice}
    (hp : p ∈ owned) (hq : q ∈ owned) (h : p.1 = q.1) : p = q :=
  List.inj_on_of_nodup_map ht.nodup hp hq h

theorem Tracks.exists_owner (ht : Tracks rs s owned) {e : AcceleratorDevice}
    (he : e ∈ s.devices) : ∃ g, (g, e) ∈ owned := by
  rw [← ht.devices] at he
  obtain ⟨⟨g, e'⟩, hp, rfl⟩ := List.mem_map.mp he
  exact ⟨g, hp⟩

theorem Tracks.mem_devices (ht : Tracks rs s owned) {p : Gpu × AcceleratorDevice}
    (hp : p ∈ owned) : p.2 ∈ s.devices := by
  rw [← ht.devices]
  exact List.mem_map_of_mem hp

/-- A device that the record's GPU owns is one `same_device` accepts, if the ordinals agree. -/
theorem sameDevice_of_own (ht : Tracks rs s owned) (hagree : OrdinalsAgree s r)
    {e : AcceleratorDevice} (hp : (r.gpu, e) ∈ owned) : sameDevice e r.device := by
  have he := ht.owner _ hp
  refine (sameDevice_report he r).mpr ?_
  by_cases hback : FallsBack e r.device
  · exact Or.inl ⟨hback, hagree.own e (ht.mem_devices hp) hback he.names⟩
  · exact Or.inr ⟨hback, rfl⟩

/-- The first device that `same_device` accepts is the GPU's own, if the ordinals agree. -/
theorem own_of_first (ht : Tracks rs s owned) (hagree : OrdinalsAgree s r)
    {pre post : List AcceleratorDevice} {e : AcceleratorDevice} {g : Gpu}
    (hdev : s.devices = pre ++ e :: post) (hp : (g, e) ∈ owned) (hsame : sameDevice e r.device)
    (hfirst : ∀ x ∈ pre, sameDevice x r.device = false) : g = r.gpu := by
  have he := ht.owner _ hp
  rcases (sameDevice_report he r).mp hsame with ⟨hback, hid⟩ | ⟨-, hgpu⟩
  · rcases hagree.others pre e post hdev hback hid with hnames | ⟨d, hd, hnames⟩
    · exact (he.eq_of_names r.mem hnames).symm
    · have hmem : d ∈ s.devices := by rw [hdev]; exact List.mem_append_left _ hd
      obtain ⟨g', hp'⟩ := ht.exists_owner hmem
      obtain rfl := (ht.owner _ hp').eq_of_names r.mem hnames
      exact absurd ((hfirst d hd).symm.trans (sameDevice_of_own ht hagree hp')) Bool.false_ne_true
  · exact hgpu

/-- An addition that matches nothing appends the record, if the store is physical. -/
theorem appended_of_physical (ht : Tracks rs s owned) {moved : List AcceleratorDevice}
    (h : (r.device.parentUuid = none ∧ relocate r.device.id [] s.devices = some moved) ∨
      (r.device.parentUuid ≠ none ∧ moved = s.devices)) : moved = s.devices := by
  rcases h with ⟨-, hrel⟩ | ⟨-, hmoved⟩
  · have hphys : ∀ e ∈ s.devices, e.parentUuid = none := by
      intro e he
      obtain ⟨g, hp⟩ := ht.exists_owner he
      exact (ht.owner _ hp).physical
    rw [relocate_physical hphys, List.nil_append] at hrel
    exact (Option.some.inj hrel).symm
  · exact hmoved

/-- The store after the record has been merged into its GPU's own device. -/
theorem Tracks.merged (ht : Tracks rs s owned) {l m : List (Gpu × AcceleratorDevice)} {g : Gpu}
    {e : AcceleratorDevice} (howned : owned = l ++ (g, e) :: m) (hgpu : g = r.gpu)
    (hnew : s'.devices = l.map Prod.snd ++ fillDevice e r.device :: m.map Prod.snd) :
    Tracks (rs ++ [r]) s' (l ++ (g, fillDevice e r.device) :: m) := by
  have hp : (g, e) ∈ owned := by rw [howned]; simp
  have he := ht.owner _ hp
  have hfst : (l ++ (g, fillDevice e r.device) :: m).map Prod.fst = owned.map Prod.fst := by
    rw [howned]; simp
  have hcases : ∀ p ∈ l ++ (g, fillDevice e r.device) :: m,
      (p ∈ owned ∧ p.1 ≠ g) ∨ p = (g, fillDevice e r.device) := by
    intro p hmem
    have hnodup := ht.nodup
    rw [howned, List.map_append, List.map_cons] at hnodup
    obtain ⟨hfresh, -⟩ := List.nodup_cons.mp (List.nodup_middle.mp hnodup)
    rw [List.mem_append, not_or] at hfresh
    rcases List.mem_append.mp hmem with hl | hm
    · refine Or.inl ⟨by rw [howned]; simp [hl], ?_⟩
      exact fun hg => hfresh.1 (List.mem_map.mpr ⟨p, hl, hg⟩)
    · rcases List.mem_cons.mp hm with rfl | htail
      · exact Or.inr rfl
      · refine Or.inl ⟨by rw [howned]; simp [htail], ?_⟩
        exact fun hg => hfresh.2 (List.mem_map.mpr ⟨p, htail, hg⟩)
  refine ⟨by rw [hnew]; simp, by rw [hfst]; exact ht.nodup, ?_, ?_, ?_⟩
  · intro p hmem
    rcases hcases p hmem with ⟨hold, -⟩ | rfl
    · exact ht.owner p hold
    · exact owns_fillDevice he hgpu
  · intro g'
    rw [hfst, ht.gpus g', List.map_append, List.mem_append]
    refine ⟨Or.inl, fun h => h.elim id fun hlast => ?_⟩
    obtain rfl : g' = r.gpu := by simpa using hlast
    rw [← ht.gpus, ← hgpu]
    exact List.mem_map_of_mem (f := Prod.fst) hp
  · intro p hmem r' hr' hown hcomb
    rcases hcases p hmem with ⟨hold, hne⟩ | rfl
    · rcases List.mem_append.mp hr' with hr' | hr'
      · exact ht.complete p hold r' hr' hown hcomb
      · obtain rfl : r' = r := by simpa using hr'
        exact absurd (hown.symm.trans hgpu.symm) hne
    · rcases List.mem_append.mp hr' with hr' | hr'
      · exact identities_fillDevice he hgpu (Or.inl (ht.complete _ hp r' hr' hown hcomb))
      · obtain rfl : r' = r := by simpa using hr'
        exact identities_fillDevice he hgpu (Or.inr hcomb)

/-- The store after the first record of a GPU has been appended. -/
theorem Tracks.appended (ht : Tracks rs s owned) {n : AcceleratorId}
    (hfresh : r.gpu ∉ owned.map Prod.fst)
    (hnew : s'.devices = s.devices ++ [{ r.device with id := n }]) :
    Tracks (rs ++ [r]) s' (owned ++ [(r.gpu, { r.device with id := n })]) := by
  have hown : Owns f r.gpu { r.device with id := n } := { r.owns with }
  refine ⟨by rw [hnew, ← ht.devices]; simp, ?_, ?_, ?_, ?_⟩
  · rw [List.map_append]
    refine List.nodup_append.mpr ⟨ht.nodup, by simp, ?_⟩
    rintro a ha b hb rfl
    obtain rfl : a = r.gpu := by simpa using hb
    exact hfresh ha
  · intro p hmem
    rcases List.mem_append.mp hmem with hold | hlast
    · exact ht.owner p hold
    · obtain rfl := List.mem_singleton.mp hlast
      exact hown
  · intro g
    rw [List.map_append, List.map_append, List.mem_append, List.mem_append, ht.gpus g]
    simp
  · intro p hmem r' hr' hgpu hcomb
    rcases List.mem_append.mp hmem with hold | hlast
    · rcases List.mem_append.mp hr' with hr' | hr'
      · exact ht.complete p hold r' hr' hgpu hcomb
      · obtain rfl : r' = r := by simpa using hr'
        exact absurd (hgpu ▸ List.mem_map_of_mem hold) hfresh
    · obtain rfl := List.mem_singleton.mp hlast
      rcases List.mem_append.mp hr' with hr' | hr'
      · refine absurd ?_ hfresh
        rw [ht.gpus, ← show r'.gpu = r.gpu from hgpu]
        exact List.mem_map_of_mem hr'
      · obtain rfl : r' = r := by simpa using hr'
        have hu := r'.uuid.resolve_left (Option.isSome_iff_ne_none.mp hcomb.1)
        have ha := r'.pciAddress.resolve_left (Option.isSome_iff_ne_none.mp hcomb.2)
        exact Prod.ext hu ha

/-- **Step lemma.** An addition whose ordinals agree keeps one device per GPU. -/
theorem Tracks.step (ht : Tracks rs s owned) (hagree : OrdinalsAgree s r)
    (hadd : add s r.device = some s') : ∃ owned', Tracks (rs ++ [r]) s' owned' := by
  rcases add_cases hadd with ⟨hres, -⟩ | ⟨-, pre, e, post, hdev, ⟨hsame, hfirst⟩, hnew⟩ |
    ⟨⟨-, hnone⟩, moved, n, hmoved, -, hnew⟩
  · exact absurd hres (UInt32.ne_of_lt r.ordinal)
  · obtain ⟨l, g, m, howned, rfl, rfl⟩ := ht.split hdev
    have hp : (g, e) ∈ owned := by rw [howned]; simp
    exact ⟨_, ht.merged howned (own_of_first ht hagree hdev hp hsame hfirst) hnew⟩
  · obtain rfl := appended_of_physical ht hmoved
    refine ⟨_, ht.appended ?_ hnew⟩
    intro hmem
    obtain ⟨⟨g, e⟩, hp, rfl⟩ := List.mem_map.mp hmem
    exact Bool.false_ne_true
      ((hnone e (ht.mem_devices hp)).symm.trans (sameDevice_of_own ht hagree hp))

/-- An addition ends if the record's GPU is stored already or an identifier is left. -/
theorem Tracks.add_isSome (ht : Tracks rs s owned) (hagree : OrdinalsAgree s r)
    (h : r.gpu ∈ owned.map Prod.fst ∨ s.devices.length < 2 ^ 32) :
    ∃ s', add s r.device = some s' := by
  rcases h with hmem | hlt
  · obtain ⟨⟨g, e⟩, hp, rfl⟩ := List.mem_map.mp hmem
    have hsame := sameDevice_of_own ht hagree hp
    rw [add]
    split
    · exact ⟨_, rfl⟩
    · split
      · exact ⟨_, rfl⟩
      · rename_i ws hmerge
        have hother := mergeFirst_none (congrArg Prod.fst hmerge) e (ht.mem_devices hp)
        exact absurd (hother.symm.trans hsame) Bool.false_ne_true
  · exact AcceleratorInventory.add_isSome hlt

/-- **Converse of the step lemma.** Where an addition keeps the GPUs separate, the ordinals agreed. -/
theorem agree_of_separate (ht : Tracks rs s owned) (hadd : add s r.device = some s')
    (hsep : Separate f s'.devices) : OrdinalsAgree s r := by
  rcases add_cases hadd with ⟨hres, -⟩ | ⟨-, pre, e, post, hdev, ⟨hsame, hfirst⟩, hnew⟩ |
    ⟨⟨-, hnone⟩, moved, n, hmoved, -, hnew⟩
  · exact absurd hres (UInt32.ne_of_lt r.ordinal)
  · obtain ⟨l, g, m, howned, rfl, rfl⟩ := ht.split hdev
    have hp : (g, e) ∈ owned := by rw [howned]; simp
    have he := ht.owner _ hp
    -- The device that received the record is its GPU's own.
    have hgpu : g = r.gpu := by
      rcases (sameDevice_report he r).mp hsame with ⟨hback, -⟩ | ⟨-, hgpu⟩
      · refine hsep.oneGpu (l.map Prod.snd).length (fillDevice e r.device) ?_ g he.mem r.gpu r.mem
          (names_fillDevice _ he.names) (names_fillDevice_of_fallsBack hback)
        rw [hnew, List.getElem?_append_right le_rfl]
        simp
      · exact hgpu
    subst hgpu
    refine ⟨?_, ?_⟩
    · intro x hx hback hnames
      obtain ⟨g', hp'⟩ := ht.exists_owner hx
      obtain rfl := (ht.owner _ hp').eq_of_names r.mem hnames
      obtain rfl : x = e := congrArg Prod.snd (ht.owner_unique hp' hp rfl)
      rcases (sameDevice_report he r).mp hsame with ⟨-, hid⟩ | ⟨hnot, -⟩
      · exact hid
      · exact absurd hback hnot
    · intro pre' x post' hdev' hback hid
      have hx : x ∈ s.devices := by rw [hdev']; simp
      obtain ⟨g', hp'⟩ := ht.exists_owner hx
      have hmatch : sameDevice x r.device :=
        (sameDevice_report (ht.owner _ hp') r).mpr (Or.inl ⟨hback, hid⟩)
      rw [hdev] at hdev'
      rcases List.append_eq_append_iff.mp hdev' with ⟨k, hpre', hk⟩ | ⟨k, hpre, hk⟩
      · rcases k with _ | ⟨y, k⟩
        · obtain rfl : e = x := (List.cons.inj hk).1
          exact Or.inl he.names
        · obtain rfl : e = y := (List.cons.inj hk).1
          exact Or.inr ⟨e, by rw [hpre']; simp, he.names⟩
      · rcases k with _ | ⟨y, k⟩
        · obtain rfl : x = e := (List.cons.inj hk).1
          exact Or.inl he.names
        · obtain rfl : x = y := (List.cons.inj hk).1
          exact absurd ((hfirst x (by rw [hpre]; simp)).symm.trans hmatch) Bool.false_ne_true
  · obtain rfl := appended_of_physical ht hmoved
    -- No stored device is the GPU's own, since the appended one is.
    have hother : ∀ x ∈ s.devices, ¬Names r.gpu x := by
      intro x hx hnames
      obtain ⟨i, hi, rfl⟩ := List.mem_iff_getElem.mp hx
      have := hsep.oneDevice i s.devices.length s.devices[i] { r.device with id := n }
        (by rw [hnew, List.getElem?_append_left hi, List.getElem?_eq_getElem hi])
        (by rw [hnew]; simp) r.gpu r.mem hnames r.owns.names
      omega
    refine ⟨fun x hx _ hnames => absurd hnames (hother x hx), ?_⟩
    intro pre x post hdev hback hid
    have hx : x ∈ s.devices := by rw [hdev]; simp
    obtain ⟨g, hp⟩ := ht.exists_owner hx
    have hmatch := (sameDevice_report (ht.owner _ hp) r).mpr (Or.inl ⟨hback, hid⟩)
    exact absurd ((hnone x hx).symm.trans hmatch) Bool.false_ne_true

end Step

/-! ### Every sequence of additions -/

/-- The ordinals agree with the identities at every step of the run, and an identifier is there for
every GPU. -/
structure Unambiguous (rs : List (Report f)) : Prop where
  fits : (described rs).length ≤ 2 ^ 32
  agree : ∀ pre r post s, rs = pre ++ r :: post → addAll (pre.map Report.device) = some s →
    OrdinalsAgree s r

theorem addAll_append (ds : List AcceleratorDevice) (d : AcceleratorDevice) :
    addAll (ds ++ [d]) = (addAll ds).bind fun s => add s d := by
  simp only [addAll, List.foldlM_append, List.foldlM_cons, List.foldlM_nil, bind_pure]
  rfl

theorem tracks_nil : Tracks ([] : List (Report f)) {} [] where
  devices := rfl
  nodup := List.nodup_nil
  owner := fun _ h => absurd h List.not_mem_nil
  gpus := fun _ => Iff.rfl
  complete := fun _ h => absurd h List.not_mem_nil

/-- A list without duplicates below another one in members is no longer than that one. -/
theorem length_le_of_nodup {l m : List Gpu} (hl : l.Nodup) (h : l ⊆ m) :
    l.length ≤ m.dedup.length :=
  (List.subperm_of_subset hl fun _ hx => List.mem_dedup.mpr (h hx)).length_le

/-- **Run lemma.** An unambiguous run ends, and its store tracks the records. -/
theorem tracks_of_unambiguous {rs : List (Report f)} (h : Unambiguous rs) :
    ∀ pre post, rs = pre ++ post → ∃ s owned, addAll (pre.map Report.device) = some s ∧
      Tracks pre s owned := by
  intro pre
  induction pre using List.reverseRecOn with
  | nil => exact fun _ _ => ⟨{}, [], rfl, tracks_nil⟩
  | append_singleton pre r ih =>
      intro post hrs
      rw [List.append_assoc, List.singleton_append] at hrs
      obtain ⟨s, owned, hrun, ht⟩ := ih (r :: post) hrs
      have hagree := h.agree pre r post s hrs hrun
      have hroom : r.gpu ∈ owned.map Prod.fst ∨ s.devices.length < 2 ^ 32 := by
        by_cases hmem : r.gpu ∈ owned.map Prod.fst
        · exact Or.inl hmem
        · refine Or.inr ?_
          have hsub : r.gpu :: owned.map Prod.fst ⊆ rs.map Report.gpu := by
            intro g hg
            rw [hrs, List.map_append, List.map_cons, List.mem_append, List.mem_cons]
            rcases List.mem_cons.mp hg with rfl | hg
            · exact Or.inr (Or.inl rfl)
            · exact Or.inl ((ht.gpus g).mp hg)
          have hlen := length_le_of_nodup (List.nodup_cons.mpr ⟨hmem, ht.nodup⟩) hsub
          rw [List.length_cons, List.length_map] at hlen
          have hstore : s.devices.length = owned.length := by rw [← ht.devices, List.length_map]
          have := h.fits
          rw [described] at this
          omega
      obtain ⟨s', hadd⟩ := ht.add_isSome hagree hroom
      obtain ⟨owned', ht'⟩ := ht.step hagree hadd
      refine ⟨s', owned', ?_, ht'⟩
      rw [List.map_append, List.map_singleton, addAll_append, hrun]
      exact hadd

/-- A tracked store in which every GPU had a record with both identities. -/
theorem Tracks.identities_perm {rs : List (Report f)} {s : Inventory}
    {owned : List (Gpu × AcceleratorDevice)} (ht : Tracks rs s owned)
    (hboth : ∀ g ∈ described rs, ∃ r ∈ rs, r.gpu = g ∧ r.Combined) :
    (s.devices.map identities).Perm ((described rs).map Gpu.identities) := by
  have hmem : ∀ g, g ∈ owned.map Prod.fst ↔ g ∈ described rs := by
    intro g
    rw [ht.gpus, described, List.mem_dedup]
  have hids : s.devices.map identities = (owned.map Prod.fst).map Gpu.identities := by
    rw [← ht.devices, List.map_map, List.map_map]
    refine List.map_congr_left fun p hp => ?_
    obtain ⟨r, hr, hgpu, hcomb⟩ := hboth p.1 ((hmem p.1).mp (List.mem_map_of_mem hp))
    exact ht.complete p hp r hr hgpu hcomb
  rw [hids]
  exact ((List.perm_ext_iff_of_nodup ht.nodup (List.nodup_dedup _)).mpr hmem).map _

/-- A store with one device per GPU keeps the GPUs separate. -/
theorem separate_of_perm {rs : List (Report f)} {s : Inventory}
    (h : (s.devices.map identities).Perm ((described rs).map Gpu.identities)) :
    Separate f s.devices := by
  have hinj : Function.Injective Gpu.identities := by
    intro g g' hg
    obtain ⟨hu, hp⟩ := Prod.mk.inj hg
    cases g
    cases g'
    simp_all
  have hnodup : (s.devices.map identities).Nodup :=
    h.nodup_iff.mpr ((List.nodup_dedup _).map hinj)
  -- A device that names a GPU carries both of its identities.
  have hfull : ∀ e ∈ s.devices, ∀ g ∈ f.gpus, Names g e → identities e = g.identities := by
    intro e he g hg hn
    obtain ⟨g', hg', hid⟩ := List.mem_map.mp (h.mem_iff.mp (List.mem_map_of_mem he))
    obtain ⟨r, -, rfl⟩ := List.mem_map.mp (List.mem_dedup.mp hg')
    obtain ⟨hu, hp⟩ := Prod.mk.inj hid
    rcases hn with hn | hn
    · rw [Fleet.eq_of_uuid hg r.mem (Option.some.inj (hn.symm.trans hu.symm)), hid]
    · rw [Fleet.eq_of_pciAddress hg r.mem (Option.some.inj (hn.symm.trans hp.symm)), hid]
  refine ⟨?_, ?_⟩
  · intro i e he g hg g' hg' hn hn'
    have hmem := List.mem_of_getElem? he
    exact hinj ((hfull e hmem g hg hn).symm.trans (hfull e hmem g' hg' hn'))
  · intro i j e e' he he' g hg hn hn'
    obtain ⟨hi, rfl⟩ := List.getElem?_eq_some_iff.mp he
    obtain ⟨hj, rfl⟩ := List.getElem?_eq_some_iff.mp he'
    have heq := (hfull _ (List.getElem_mem hi) g hg hn).trans
      (hfull _ (List.getElem_mem hj) g hg hn').symm
    have hi' : i < (s.devices.map identities).length := by simpa using hi
    have hj' : j < (s.devices.map identities).length := by simpa using hj
    have heq' : (s.devices.map identities)[i] = (s.devices.map identities)[j] := by
      simpa using heq
    exact (List.Nodup.getElem_inj_iff hnodup).mp heq'

/-- Every prefix of a run that ends with separate GPUs tracks its records. -/
theorem tracks_of_separate {rs : List (Report f)} {s : Inventory}
    (hrun : addAll (rs.map Report.device) = some s) (hsep : Separate f s.devices) :
    ∀ pre post s₀, rs = pre ++ post → addAll (pre.map Report.device) = some s₀ →
      ∃ owned, Tracks pre s₀ owned := by
  have hseparate : ∀ pre post s₀, rs = pre ++ post →
      addAll (pre.map Report.device) = some s₀ → Separate f s₀.devices := by
    intro pre post s₀ hrs hrun₀
    rw [hrs, List.map_append, addAll, List.foldlM_append] at hrun
    rw [addAll] at hrun₀
    rw [hrun₀] at hrun
    obtain ⟨hinv, -⟩ := run_spec storeInv_empty hrun₀
    exact hsep.of_continues (run_spec hinv hrun).2
  intro pre
  induction pre using List.reverseRecOn with
  | nil =>
      intro _ s₀ _ hrun₀
      obtain rfl : {} = s₀ := Option.some.inj hrun₀
      exact ⟨[], tracks_nil⟩
  | append_singleton pre r ih =>
      intro post s₁ hrs hrun₁
      have hsep₁ := hseparate _ post s₁ hrs hrun₁
      rw [List.map_append, List.map_singleton, addAll_append] at hrun₁
      obtain ⟨s₀, hrun₀, hadd⟩ := Option.bind_eq_some_iff.mp hrun₁
      rw [List.append_assoc] at hrs
      obtain ⟨owned, ht⟩ := ih _ s₀ hrs hrun₀
      exact ht.step (agree_of_separate ht hadd hsep₁) hadd

/-- Identifiers are 32-bit numbers. -/
theorem length_le_of_ids_nodup {l : List AcceleratorDevice} (h : (ids l).Nodup) :
    l.length ≤ 2 ^ 32 := by
  have hnodup : ((ids l).map UInt32.toNat).Nodup := h.map fun a b hab => UInt32.toNat_inj.mp hab
  have hsub : (ids l).map UInt32.toNat ⊆ List.range (2 ^ 32) := by
    intro n hn
    obtain ⟨i, -, rfl⟩ := List.mem_map.mp hn
    exact List.mem_range.mpr (UInt32.toNat_lt i)
  simpa using (List.subperm_of_subset hnodup hsub).length_le

/-- **No duplicate and no conflated accelerator.**  For records that describe the GPUs of a fleet by
either identity or both, each GPU by both at least once, the inventory ends with one device per GPU
exactly when at every step the ordinals agree with the identities. -/
theorem onePerGpu_iff (f : Fleet) (rs : List (Report f))
    (hboth : ∀ g ∈ described rs, ∃ r ∈ rs, r.gpu = g ∧ r.Combined) :
    OnePerGpu rs ↔ Unambiguous rs := by
  constructor
  · rintro ⟨s, hrun, hperm⟩
    have hsep : Separate f s.devices := separate_of_perm hperm
    refine ⟨?_, ?_⟩
    · have hlen := hperm.length_eq
      rw [List.length_map, List.length_map] at hlen
      rw [← hlen]
      exact length_le_of_ids_nodup (run_spec storeInv_empty hrun).1.distinct
    · intro pre r post s₀ hrs hrun₀
      obtain ⟨owned, ht⟩ := tracks_of_separate hrun hsep pre (r :: post) s₀ hrs hrun₀
      have hrun' := hrun
      rw [hrs, List.map_append, List.map_cons, addAll, List.foldlM_append] at hrun'
      rw [addAll] at hrun₀
      rw [hrun₀] at hrun'
      obtain ⟨s₁, hadd, hrest⟩ := Option.bind_eq_some_iff.mp
        (show (add s₀ r.device).bind (fun s => (post.map Report.device).foldlM add s) = some s
          from hrun')
      have hinv := (run_spec storeInv_empty hrun₀).1
      have hcont := (run_spec (storeInv_add hinv hadd) hrest).2
      exact agree_of_separate ht hadd (hsep.of_continues hcont)
  · intro h
    obtain ⟨s, owned, hrun, ht⟩ := tracks_of_unambiguous h rs [] (List.append_nil rs).symm
    exact ⟨s, hrun, ht.identities_perm hboth⟩

/-! ### Runs with two GPUs -/

def gpuA : Gpu := ⟨utf8 "GPU-a", { bus := 1 }⟩

def gpuB : Gpu := ⟨utf8 "GPU-b", { bus := 2 }⟩

/-- Two GPUs of one vendor. -/
def twoGpus : Fleet where
  vendor := utf8 "NVIDIA"
  gpus := [gpuA, gpuB]
  uuids_nodup := by decide
  addresses_nodup := by decide

/-- A record under an ordinal, with the identities asked for. -/
def reportOf (g : Gpu) (hg : g ∈ twoGpus.gpus) (byUuid byAddress : Bool)
    (h : byUuid ∨ byAddress) (id : AcceleratorId) (hid : id < reservedId) : Report twoGpus where
  gpu := g
  mem := hg
  device :=
    { id := id
      vendor := utf8 "NVIDIA"
      uuid := if byUuid then some g.uuid else none
      pciAddress := if byAddress then some g.pciAddress else none }
  vendor := rfl
  physical := rfl
  uuid := by cases byUuid <;> simp
  pciAddress := by cases byAddress <;> simp
  identified := by cases byUuid <;> cases byAddress <;> simp_all
  ordinal := hid

/-- The GPU's UUID only. -/
def byUuid (g : Gpu) (hg : g ∈ twoGpus.gpus) (id : AcceleratorId) (hid : id < reservedId) :
    Report twoGpus := reportOf g hg true false (Or.inl rfl) id hid

/-- The GPU's PCI address only. -/
def byAddress (g : Gpu) (hg : g ∈ twoGpus.gpus) (id : AcceleratorId) (hid : id < reservedId) :
    Report twoGpus := reportOf g hg false true (Or.inr rfl) id hid

/-- Both identities. -/
def byBoth (g : Gpu) (hg : g ∈ twoGpus.gpus) (id : AcceleratorId) (hid : id < reservedId) :
    Report twoGpus := reportOf g hg true true (Or.inl rfl) id hid

/-- One GPU by its UUID and by its address under one ordinal, then by both. -/
def mergedReports : List (Report twoGpus) :=
  [byUuid gpuA (by decide) 0 (by decide), byAddress gpuA (by decide) 0 (by decide),
    byBoth gpuA (by decide) 3 (by decide)]

/-- A GPU by its UUID and another by its address under one ordinal, then each by both. -/
def conflatedReports : List (Report twoGpus) :=
  [byUuid gpuA (by decide) 0 (by decide), byAddress gpuB (by decide) 0 (by decide),
    byBoth gpuA (by decide) 0 (by decide), byBoth gpuB (by decide) 1 (by decide)]

/-- One GPU by its UUID and by its address under two ordinals, then by both. -/
def duplicatedReports : List (Report twoGpus) :=
  [byUuid gpuA (by decide) 0 (by decide), byAddress gpuA (by decide) 1 (by decide),
    byBoth gpuA (by decide) 0 (by decide)]

/-- Whether a run stores the identities given, in store order. -/
def Stores (rs : List (Report twoGpus)) (l : List (Option Bytes × Option PciAddress)) : Prop :=
  (addAll (rs.map Report.device)).map (fun s => s.devices.map identities) = some l

theorem onePerGpu_iff_stores {rs : List (Report twoGpus)}
    {l : List (Option Bytes × Option PciAddress)} (h : Stores rs l) :
    OnePerGpu rs ↔ l.Perm ((described rs).map Gpu.identities) := by
  obtain ⟨s, hrun, rfl⟩ := Option.map_eq_some_iff.mp h
  constructor
  · rintro ⟨s', hrun', hperm⟩
    obtain rfl := Option.some.inj (hrun.symm.trans hrun')
    exact hperm
  · exact fun hperm => ⟨s, hrun, hperm⟩

/-- Records that share an ordinal end in one device. -/
theorem onePerGpu_iff_merged : OnePerGpu mergedReports ∧ Unambiguous mergedReports := by
  have hstores : Stores mergedReports [gpuA.identities] := by
    unfold Stores; decide +kernel
  have hone : OnePerGpu mergedReports := (onePerGpu_iff_stores hstores).mpr (by decide)
  exact ⟨hone, (onePerGpu_iff twoGpus mergedReports (by unfold Report.Combined; decide)).mp hone⟩

/-- **Two GPUs in one device, and one GPU in two devices.** -/
theorem not_onePerGpu :
    ((∀ g ∈ described conflatedReports, ∃ r ∈ conflatedReports, r.gpu = g ∧ r.Combined) ∧
      ¬OnePerGpu conflatedReports) ∧
    ((∀ g ∈ described duplicatedReports, ∃ r ∈ duplicatedReports, r.gpu = g ∧ r.Combined) ∧
      ¬OnePerGpu duplicatedReports) := by
  have hconflated : Stores conflatedReports
      [(some gpuA.uuid, some gpuB.pciAddress), (some gpuB.uuid, some gpuB.pciAddress)] := by
    unfold Stores; decide +kernel
  have hduplicated : Stores duplicatedReports
      [gpuA.identities, (none, some gpuA.pciAddress)] := by
    unfold Stores; decide +kernel
  rw [onePerGpu_iff_stores hconflated, onePerGpu_iff_stores hduplicated]
  unfold Report.Combined
  decide

end Sysal.AcceleratorInventory
