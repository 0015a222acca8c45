import Sysal.Resolver.AcceleratorVisibility

/-!
# What decides an accelerator's visibility

`resolve_accelerator_visibility` writes the visibility flags of one list vendor by vendor.  None of the
functions it calls reads a flag, so the flags of the whole run are a function of the inventory it was
given, the environment and the runtime observations; and the flag of one device depends on the
selection of its own vendor only.

* `resolveAcceleratorVisibility_flags`: the flags after the run, device by device;
* `selectAcceleratorEnvironment_congr`: the selection of a vendor depends on that vendor's variables;
* `resolveAcceleratorVisibility_flow`: parents are invisible, the visible ids are those of the visible
  devices, no vendor's variables reach another vendor, and an observation of a vendor without a selector
  of its own decides alone.
-/

namespace Sysal

namespace AcceleratorVisibility

open AcceleratorSelection

/-! ### Nothing reads a flag -/

section Blind

variable (devices : Accelerators)

/-- The list under `flags` in place of its own flags. -/
def flagged (flags : ℕ → AcceleratorDevice → Bool) : Accelerators :=
  { devices with
    devices := devices.devices.mapIdx fun index device =>
      { device with visibleToCurrentProcess := flags index device } }

theorem deviceAt_flagged (flags : ℕ → AcceleratorDevice → Bool) (index : ℕ) :
    ∃ flag, deviceAt (flagged devices flags) index =
      { deviceAt devices index with visibleToCurrentProcess := flag } := by
  simp only [deviceAt, flagged, List.getD_eq_getElem?_getD, List.getElem?_mapIdx]
  cases devices.devices[index]? with
  | none => exact ⟨false, rfl⟩
  | some d => exact ⟨_, rfl⟩

variable (flags : ℕ → AcceleratorDevice → Bool)

@[simp] theorem deviceAt_flagged_id (index : ℕ) :
    (deviceAt (flagged devices flags) index).id = (deviceAt devices index).id := by
  obtain ⟨_, h⟩ := deviceAt_flagged devices flags index
  rw [h]

@[simp] theorem deviceAt_flagged_vendor (index : ℕ) :
    (deviceAt (flagged devices flags) index).vendor = (deviceAt devices index).vendor := by
  obtain ⟨_, h⟩ := deviceAt_flagged devices flags index
  rw [h]

@[simp] theorem deviceAt_flagged_uuid (index : ℕ) :
    (deviceAt (flagged devices flags) index).uuid = (deviceAt devices index).uuid := by
  obtain ⟨_, h⟩ := deviceAt_flagged devices flags index
  rw [h]

@[simp] theorem deviceAt_flagged_parentUuid (index : ℕ) :
    (deviceAt (flagged devices flags) index).parentUuid = (deviceAt devices index).parentUuid := by
  obtain ⟨_, h⟩ := deviceAt_flagged devices flags index
  rw [h]

@[simp] theorem deviceAt_flagged_pciAddress (index : ℕ) :
    (deviceAt (flagged devices flags) index).pciAddress = (deviceAt devices index).pciAddress := by
  obtain ⟨_, h⟩ := deviceAt_flagged devices flags index
  rw [h]

@[simp] theorem matchesUuid_flagged (index : ℕ) (token : Bytes) :
    matchesUuid (deviceAt (flagged devices flags) index) token =
      matchesUuid (deviceAt devices index) token := by
  obtain ⟨_, h⟩ := deviceAt_flagged devices flags index
  rw [h]
  rfl

@[simp] theorem length_flagged :
    (flagged devices flags).devices.length = devices.devices.length := by
  simp [flagged]

theorem any_parentUuid_flagged (uuid : Option Bytes) :
    (flagged devices flags).devices.any (·.parentUuid = uuid) =
      devices.devices.any (·.parentUuid = uuid) := by
  rw [Bool.eq_iff_iff, List.any_eq_true, List.any_eq_true]
  constructor
  · rintro ⟨d, hd, hp⟩
    obtain ⟨i, hi, rfl⟩ := List.mem_mapIdx.mp hd
    exact ⟨_, List.getElem_mem hi, hp⟩
  · rintro ⟨d, hd, hp⟩
    obtain ⟨i, hi, rfl⟩ := List.mem_iff_getElem.mp hd
    exact ⟨_, List.mem_mapIdx.mpr ⟨i, hi, rfl⟩, hp⟩

@[simp] theorem hasChildren_flagged (parent : AcceleratorDevice) (flag : Bool) :
    hasChildren (flagged devices flags) { parent with visibleToCurrentProcess := flag } =
      hasChildren devices parent := by
  simp only [hasChildren, any_parentUuid_flagged]

@[simp] theorem runtimeIndices_flagged (vendor : AcceleratorVendor)
    (runtime : List RuntimeVisibility) :
    runtimeIndices (flagged devices flags) vendor runtime =
      runtimeIndices devices vendor runtime := by
  simp only [runtimeIndices, deviceAt_flagged_id, length_flagged]

@[simp] theorem vendorCandidates_flagged (vendor : AcceleratorVendor) :
    vendorCandidates (flagged devices flags) vendor = vendorCandidates devices vendor := by
  simp only [vendorCandidates, deviceAt_flagged_id, deviceAt_flagged_vendor, length_flagged]

@[simp] theorem csvMatches_flagged (pool uuidPool : DeviceIndices) (order : OrdinalOrder)
    (token : Bytes) :
    csvMatches (flagged devices flags) pool uuidPool order token =
      csvMatches devices pool uuidPool order token := by
  simp only [csvMatches, deviceAt_flagged_id, matchesUuid_flagged]

@[simp] theorem selectCsvLoop_flagged (pool uuidPool : DeviceIndices) (variableName : Bytes)
    (order : OrdinalOrder) (parts : List Bytes) (selected : DeviceIndices) :
    selectCsvLoop (flagged devices flags) pool uuidPool variableName order parts selected =
      selectCsvLoop devices pool uuidPool variableName order parts selected := by
  induction parts generalizing selected with
  | nil => rfl
  | cons part parts ih => simp only [selectCsvLoop, csvMatches_flagged, ih]

@[simp] theorem selectCsv_flagged (pool uuidPool : DeviceIndices) (value variableName : Bytes)
    (order : OrdinalOrder) :
    selectCsv (flagged devices flags) pool uuidPool value variableName order =
      selectCsv devices pool uuidPool value variableName order := by
  simp only [selectCsv, selectCsvLoop_flagged]

@[simp] theorem pciBefore_flagged :
    pciBefore (flagged devices flags) = pciBefore devices := by
  funext left right
  simp only [pciBefore, deviceAt_flagged_pciAddress]

@[simp] theorem apply_flagged (execution : ExecutionContext) (name : Bytes) (s : Selection) :
    s.apply (flagged devices flags) execution name = s.apply devices execution name := by
  simp only [Selection.apply, selectCsv_flagged]

@[simp] theorem selectAcceleratorEnvironment_flagged (vendor : AcceleratorVendor)
    (candidates : DeviceIndices) (execution : ExecutionContext) (runtimeKnown : Bool) :
    selectAcceleratorEnvironment (flagged devices flags) vendor candidates execution runtimeKnown =
      selectAcceleratorEnvironment devices vendor candidates execution runtimeKnown := by
  cases vendor with
  | nvidia =>
      simp only [selectAcceleratorEnvironment, selectNvidia, deviceAt_flagged_parentUuid,
        pciBefore_flagged, selectCsv_flagged]
  | amd => simp only [selectAcceleratorEnvironment, selectAmd, apply_flagged]
  | intel =>
      simp only [selectAcceleratorEnvironment, selectIntel, applyAffinityMask, apply_flagged]

@[simp] theorem selectedVisible_flagged (selected : DeviceIndices) (index : ℕ)
    (device : AcceleratorDevice) (flag : Bool) :
    selectedVisible (flagged devices flags) selected index
        { device with visibleToCurrentProcess := flag } =
      selectedVisible devices selected index device := by
  simp only [selectedVisible, deviceAt_flagged_uuid, hasChildren_flagged]

end Blind

/-! ### The flags of a run -/

/-- The devices a vendor's environment or runtime observation selects; nothing if neither is there. -/
def vendorSelection (devices : Accelerators) (execution : ExecutionContext)
    (runtime : List RuntimeVisibility) (vendor : AcceleratorVendor) : Option DeviceIndices :=
  let observed := runtimeIndices devices vendor runtime
  let selection := selectAcceleratorEnvironment devices vendor
    (observed.getD (vendorCandidates devices vendor)) execution observed.isSome
  match selection.1, observed with
  | some selected, _ => some selected
  | none, some indices => some indices
  | none, none => none

/-- The flags after one vendor of the resolver's loop. -/
def vendorFlags (devices : Accelerators) (execution : ExecutionContext)
    (runtime : List RuntimeVisibility) (vendor : AcceleratorVendor)
    (flags : ℕ → AcceleratorDevice → Bool) (index : ℕ) (device : AcceleratorDevice) : Bool :=
  match vendorSelection devices execution runtime vendor with
  | some selected =>
      if index ∈ vendorCandidates devices vendor then selectedVisible devices selected index device
      else flags index device
  | none => flags index device

/-- The flags before any vendor is looked at. -/
def initialFlags (devices : Accelerators) (execution : ExecutionContext) (_ : ℕ)
    (device : AcceleratorDevice) : Bool :=
  !hasChildren devices device && (hasSelectionEnvironment execution ||
    execution.visibleAcceleratorIds.isEmpty || decide (device.id ∈ execution.visibleAcceleratorIds))

theorem applySelection_flagged (devices : Accelerators) (flags : ℕ → AcceleratorDevice → Bool)
    (candidates selected : DeviceIndices) :
    applySelection (flagged devices flags) candidates selected =
      flagged devices fun index device =>
        if index ∈ candidates then selectedVisible devices selected index device
        else flags index device := by
  rw [Accelerators.mk.injEq]
  refine List.ext_getElem (by simp [applySelection, flagged]) fun i hi _ => ?_
  have hlen : i < devices.devices.length := by simpa [applySelection, flagged] using hi
  simp only [applySelection, flagged, List.getElem_mapIdx]
  split
  · exact congrArg (fun flag => { devices.devices[i] with visibleToCurrentProcess := flag })
      (selectedVisible_flagged devices flags selected i _ _)
  · rfl

theorem resolveVendor_flagged (devices : Accelerators) (execution : ExecutionContext)
    (runtime : List RuntimeVisibility) (vendor : AcceleratorVendor)
    (flags : ℕ → AcceleratorDevice → Bool) :
    (resolveVendor execution runtime (flagged devices flags) vendor).1 =
      flagged devices (vendorFlags devices execution runtime vendor flags) := by
  simp only [resolveVendor, runtimeIndices_flagged, vendorCandidates_flagged,
    selectAcceleratorEnvironment_flagged, applySelection_flagged]
  unfold vendorFlags vendorSelection
  dsimp only
  generalize (selectAcceleratorEnvironment devices vendor
    ((runtimeIndices devices vendor runtime).getD (vendorCandidates devices vendor)) execution
    (runtimeIndices devices vendor runtime).isSome).1 = selection
  generalize runtimeIndices devices vendor runtime = observed
  cases selection <;> cases observed <;> rfl

theorem initialVisibility_flagged (devices : Accelerators) (execution : ExecutionContext) :
    initialVisibility devices (hasSelectionEnvironment execution) execution.visibleAcceleratorIds =
      flagged devices (initialFlags devices execution) := by
  rw [Accelerators.mk.injEq]
  refine List.ext_getElem (by simp [initialVisibility, flagged]) fun i _ _ => ?_
  simp [initialVisibility, flagged, initialFlags]

theorem mem_vendorCandidates {devices : Accelerators} {vendor : AcceleratorVendor} {index : ℕ}
    {device : AcceleratorDevice} (h : devices.devices[index]? = some device) :
    index ∈ vendorCandidates devices vendor ↔ device.vendor = vendorName vendor := by
  obtain ⟨hi, -⟩ := List.getElem?_eq_some_iff.mp h
  have hat : deviceAt devices index = device := by
    rw [deviceAt, List.getD_eq_getElem?_getD, h]
    rfl
  simp only [vendorCandidates, mem_sortBy, List.mem_filter, List.mem_range, hi, true_and, hat,
    decide_eq_true_eq]

theorem vendorName_injective : Function.Injective vendorName := by
  intro v v' h
  cases v <;> cases v' <;> first | rfl | exact absurd h (by decide)

/-- The flag of one device after the run. -/
def finalFlag (devices : Accelerators) (execution : ExecutionContext)
    (runtime : List RuntimeVisibility) (index : ℕ) (device : AcceleratorDevice) : Bool :=
  vendorFlags devices execution runtime .intel
    (vendorFlags devices execution runtime .amd
      (vendorFlags devices execution runtime .nvidia (initialFlags devices execution))) index device

theorem vendorSelection_restricted (devices : Accelerators) (execution : ExecutionContext)
    (runtime : List RuntimeVisibility) (vendor : AcceleratorVendor) (restricted : Bool) :
    vendorSelection devices { execution with acceleratorVisibilityRestricted := restricted } runtime
      vendor = vendorSelection devices execution runtime vendor := by
  cases vendor <;> rfl

/-- **The flags after the run**, device by device. -/
theorem resolveAcceleratorVisibility_flags (devices : Accelerators) (execution : ExecutionContext)
    (runtime : List RuntimeVisibility) :
    (resolveAcceleratorVisibility devices execution runtime).devices =
      flagged devices (finalFlag devices execution runtime) := by
  simp only [resolveAcceleratorVisibility, List.foldl_cons, List.foldl_nil,
    initialVisibility_flagged, resolveVendor_flagged]
  unfold finalFlag vendorFlags
  simp only [vendorSelection_restricted]

/-- A vendor the device is not of leaves its flag. -/
theorem vendorFlags_of_ne {devices : Accelerators} {execution : ExecutionContext}
    {runtime : List RuntimeVisibility} {vendor : AcceleratorVendor}
    {flags : ℕ → AcceleratorDevice → Bool} {index : ℕ} {device : AcceleratorDevice}
    (hat : devices.devices[index]? = some device) (h : device.vendor ≠ vendorName vendor) :
    vendorFlags devices execution runtime vendor flags index device = flags index device := by
  have hnot : index ∉ vendorCandidates devices vendor := fun hmem =>
    h ((mem_vendorCandidates hat).mp hmem)
  rw [vendorFlags]
  split
  · rw [if_neg hnot]
  · rfl

/-- The device's own vendor decides by its selection, if it has one. -/
theorem vendorFlags_of_eq {devices : Accelerators} {execution : ExecutionContext}
    {runtime : List RuntimeVisibility} {vendor : AcceleratorVendor}
    {flags : ℕ → AcceleratorDevice → Bool} {index : ℕ} {device : AcceleratorDevice}
    (hat : devices.devices[index]? = some device) (h : device.vendor = vendorName vendor) :
    vendorFlags devices execution runtime vendor flags index device =
      match vendorSelection devices execution runtime vendor with
      | some selected => selectedVisible devices selected index device
      | none => flags index device := by
  have hmem : index ∈ vendorCandidates devices vendor := (mem_vendorCandidates hat).mpr h
  rw [vendorFlags]
  split
  · rw [if_pos hmem]
  · rfl

/-- The flag of a device of one vendor. -/
theorem finalFlag_of_vendor {devices : Accelerators} {execution : ExecutionContext}
    {runtime : List RuntimeVisibility} {vendor : AcceleratorVendor} {index : ℕ}
    {device : AcceleratorDevice} (hat : devices.devices[index]? = some device)
    (h : device.vendor = vendorName vendor) :
    finalFlag devices execution runtime index device =
      match vendorSelection devices execution runtime vendor with
      | some selected => selectedVisible devices selected index device
      | none => initialFlags devices execution index device := by
  have hother : ∀ v, v ≠ vendor → device.vendor ≠ vendorName v := fun v hv heq =>
    hv (vendorName_injective (heq.symm.trans h))
  unfold finalFlag
  cases vendor with
  | nvidia =>
      rw [vendorFlags_of_ne hat (hother _ (by decide)), vendorFlags_of_ne hat (hother _ (by decide)),
        vendorFlags_of_eq hat h]
  | amd =>
      rw [vendorFlags_of_ne hat (hother _ (by decide)), vendorFlags_of_eq hat h,
        vendorFlags_of_ne hat (hother _ (by decide))]
  | intel =>
      rw [vendorFlags_of_eq hat h, vendorFlags_of_ne hat (hother _ (by decide)),
        vendorFlags_of_ne hat (hother _ (by decide))]

/-- The flag of a device of no known vendor. -/
theorem finalFlag_of_unknown {devices : Accelerators} {execution : ExecutionContext}
    {runtime : List RuntimeVisibility} {index : ℕ} {device : AcceleratorDevice}
    (hat : devices.devices[index]? = some device) (h : ∀ v, device.vendor ≠ vendorName v) :
    finalFlag devices execution runtime index device =
      initialFlags devices execution index device := by
  unfold finalFlag
  rw [vendorFlags_of_ne hat (h _), vendorFlags_of_ne hat (h _), vendorFlags_of_ne hat (h _)]

/-! ### The environment -/

/-- The variables that select among the devices of a vendor. -/
def vendorVariables : AcceleratorVendor → List Bytes
  | .nvidia => [utf8 "CUDA_VISIBLE_DEVICES", utf8 "CUDA_DEVICE_ORDER"]
  | .amd => [utf8 "HIP_VISIBLE_DEVICES", utf8 "ROCR_VISIBLE_DEVICES"]
  | .intel => [utf8 "ZE_AFFINITY_MASK", utf8 "ONEAPI_DEVICE_SELECTOR"]

/-- Two contexts whose environments differ in the values of some variables only. -/
def ChangesOnly (names : List Bytes) (execution execution' : ExecutionContext) : Prop :=
  List.Forall₂ (fun entry entry' => entry.1 = entry'.1 ∧ (entry.1 ∉ names → entry.2 = entry'.2))
    execution.environment.entries execution'.environment.entries

/-- A variable outside the list keeps its value. -/
theorem ChangesOnly.environment_eq {names : List Bytes} {execution execution' : ExecutionContext}
    (h : ChangesOnly names execution execution') {name : Bytes} (hn : name ∉ names) :
    environment execution name = environment execution' name := by
  unfold environment
  unfold ChangesOnly at h
  generalize execution.environment.entries = entries at h ⊢
  generalize execution'.environment.entries = entries' at h ⊢
  induction h with
  | nil => rfl
  | @cons entry entry' entries entries' hhead htail ih =>
      by_cases hname : entry.1 = name
      · have hname' : entry'.1 = name := hhead.1 ▸ hname
        rw [List.find?_cons_of_pos (by simpa using hname),
          List.find?_cons_of_pos (by simpa using hname')]
        exact congrArg some (hhead.2 (hname ▸ hn))
      · have hname' : entry'.1 ≠ name := hhead.1 ▸ hname
        rw [List.find?_cons_of_neg (by simpa using hname),
          List.find?_cons_of_neg (by simpa using hname')]
        exact ih

theorem ChangesOnly.hasSelectionEnvironment_eq {names : List Bytes}
    {execution execution' : ExecutionContext} (h : ChangesOnly names execution execution') :
    hasSelectionEnvironment execution = hasSelectionEnvironment execution' := by
  unfold hasSelectionEnvironment
  unfold ChangesOnly at h
  generalize execution.environment.entries = entries at h ⊢
  generalize execution'.environment.entries = entries' at h ⊢
  induction h with
  | nil => rfl
  | cons hhead _ ih => rw [List.any_cons, List.any_cons, ih, hhead.1]

end AcceleratorVisibility

namespace AcceleratorSelection

open AcceleratorVisibility (vendorVariables)

theorem Selection.apply_congr {devices : Accelerators} {execution execution' : ExecutionContext}
    {name : Bytes} (h : environment execution name = environment execution' name) (s : Selection) :
    s.apply devices execution name = s.apply devices execution' name := by
  simp only [Selection.apply, h]

/-- **The selection of a vendor depends on that vendor's variables only.** -/
theorem selectAcceleratorEnvironment_congr {devices : Accelerators} {vendor : AcceleratorVendor}
    {candidates : DeviceIndices} {execution execution' : ExecutionContext} {runtimeKnown : Bool}
    (h : ∀ name ∈ vendorVariables vendor, environment execution name = environment execution' name) :
    selectAcceleratorEnvironment devices vendor candidates execution runtimeKnown =
      selectAcceleratorEnvironment devices vendor candidates execution' runtimeKnown := by
  cases vendor with
  | nvidia =>
      simp only [selectAcceleratorEnvironment, selectNvidia,
        h (utf8 "CUDA_VISIBLE_DEVICES") (by decide), h (utf8 "CUDA_DEVICE_ORDER") (by decide)]
  | amd =>
      simp only [selectAcceleratorEnvironment, selectAmd,
        Selection.apply_congr (h (utf8 "HIP_VISIBLE_DEVICES") (by decide)),
        Selection.apply_congr (h (utf8 "ROCR_VISIBLE_DEVICES") (by decide))]
  | intel =>
      simp only [selectAcceleratorEnvironment, selectIntel, applyAffinityMask,
        Selection.apply_congr (h (utf8 "ZE_AFFINITY_MASK") (by decide)),
        h (utf8 "ZE_AFFINITY_MASK") (by decide), h (utf8 "ONEAPI_DEVICE_SELECTOR") (by decide)]

/-- NVIDIA and AMD read no variable when their runtime has been observed. -/
theorem selectAcceleratorEnvironment_observed {devices : Accelerators} {vendor : AcceleratorVendor}
    (hv : vendor ≠ .intel) (candidates : DeviceIndices) (execution : ExecutionContext) :
    (selectAcceleratorEnvironment devices vendor candidates execution true).1 = none := by
  cases vendor with
  | nvidia =>
      simp only [selectAcceleratorEnvironment, selectNvidia]
      split <;> rfl
  | amd => rfl
  | intel => exact absurd rfl hv

end AcceleratorSelection

namespace AcceleratorVisibility

open AcceleratorSelection

theorem vendorSelection_congr {devices : Accelerators} {vendor : AcceleratorVendor}
    {execution execution' : ExecutionContext} {runtime : List RuntimeVisibility}
    (h : ∀ name ∈ vendorVariables vendor, environment execution name = environment execution' name) :
    vendorSelection devices execution runtime vendor =
      vendorSelection devices execution' runtime vendor := by
  simp only [vendorSelection, selectAcceleratorEnvironment_congr h]

/-- The first observation of NVIDIA or AMD is the selection, whatever the environment. -/
theorem vendorSelection_observed {devices : Accelerators} {vendor : AcceleratorVendor}
    (hv : vendor ≠ .intel) {execution : ExecutionContext} {runtime : List RuntimeVisibility}
    {observation : RuntimeVisibility}
    (h : runtime.find? (·.vendor = vendor) = some observation) :
    vendorSelection devices execution runtime vendor =
      some (observation.visible.flatMap fun id =>
        (List.range devices.devices.length).filter fun index =>
          (deviceAt devices index).id = id) := by
  have hobserved : runtimeIndices devices vendor runtime =
      some (observation.visible.flatMap fun id =>
        (List.range devices.devices.length).filter fun index =>
          (deviceAt devices index).id = id) := by
    rw [runtimeIndices, h]
    rfl
  simp only [vendorSelection, hobserved, Option.isSome_some,
    selectAcceleratorEnvironment_observed hv]

theorem vendorVariables_disjoint {v v' : AcceleratorVendor} (h : v ≠ v') {name : Bytes}
    (hn : name ∈ vendorVariables v) : name ∉ vendorVariables v' := by
  revert name
  cases v <;> cases v' <;> first | exact absurd rfl h | decide

/-! ### What the flags mean -/

theorem hasChildren_iff {devices : Accelerators} {parent : AcceleratorDevice} :
    hasChildren devices parent ↔
      ∃ child ∈ devices.devices, parent.uuid.isSome ∧ child.parentUuid = parent.uuid := by
  simp only [hasChildren, Bool.and_eq_true, List.any_eq_true, decide_eq_true_eq]
  constructor
  · rintro ⟨hset, child, hchild, heq⟩
    exact ⟨child, hchild, hset, heq⟩
  · rintro ⟨child, hchild, hset, heq⟩
    exact ⟨hset, child, hchild, heq⟩

/-- A device that is the parent of some device is not visible. -/
theorem finalFlag_of_parent {devices : Accelerators} {execution : ExecutionContext}
    {runtime : List RuntimeVisibility} {index : ℕ} {device : AcceleratorDevice}
    (h : hasChildren devices device = true) :
    finalFlag devices execution runtime index device = false := by
  have hinitial : initialFlags devices execution index device = false := by
    simp [initialFlags, h]
  have hstep : ∀ vendor flags, flags index device = false →
      vendorFlags devices execution runtime vendor flags index device = false := by
    intro vendor flags hflags
    rw [vendorFlags]
    split
    · split
      · simp [selectedVisible, h]
      · exact hflags
    · exact hflags
  exact hstep _ _ (hstep _ _ (hstep _ _ hinitial))

/-- The variables of a vendor do not reach a device of another vendor. -/
theorem finalFlag_changesOnly {devices : Accelerators} {execution execution' : ExecutionContext}
    {runtime : List RuntimeVisibility} {vendor : AcceleratorVendor} {index : ℕ}
    {device : AcceleratorDevice} (hset : hasSelectionEnvironment execution)
    (hchange : ChangesOnly (vendorVariables vendor) execution execution')
    (hat : devices.devices[index]? = some device) (hother : device.vendor ≠ vendorName vendor) :
    finalFlag devices execution runtime index device =
      finalFlag devices execution' runtime index device := by
  have hset' : hasSelectionEnvironment execution' :=
    (hchange.hasSelectionEnvironment_eq.symm.trans hset)
  have hinitial : initialFlags devices execution index device =
      initialFlags devices execution' index device := by
    simp [initialFlags, hset, hset']
  by_cases hknown : ∃ v, device.vendor = vendorName v
  · obtain ⟨v, hv⟩ := hknown
    have hne : v ≠ vendor := by
      rintro rfl
      exact hother hv
    rw [finalFlag_of_vendor hat hv, finalFlag_of_vendor hat hv, hinitial,
      vendorSelection_congr fun name hn => hchange.environment_eq (vendorVariables_disjoint hne hn)]
  · have hunknown : ∀ v, device.vendor ≠ vendorName v := fun v hv => hknown ⟨v, hv⟩
    rw [finalFlag_of_unknown hat hunknown, finalFlag_of_unknown hat hunknown, hinitial]

theorem mem_observed {devices : Accelerators} {visible : List AcceleratorId} {index : ℕ} :
    (index ∈ visible.flatMap fun id => (List.range devices.devices.length).filter fun index =>
        (deviceAt devices index).id = id) ↔
      ∃ device, devices.devices[index]? = some device ∧ device.id ∈ visible := by
  simp only [List.mem_flatMap, List.mem_filter, List.mem_range, decide_eq_true_eq]
  constructor
  · rintro ⟨id, hid, hi, rfl⟩
    refine ⟨devices.devices[index], List.getElem?_eq_getElem hi, ?_⟩
    simpa [deviceAt, List.getD_eq_getElem?_getD, hi] using hid
  · rintro ⟨device, hat, hid⟩
    obtain ⟨hi, rfl⟩ := List.getElem?_eq_some_iff.mp hat
    exact ⟨_, hid, hi, by simp [deviceAt, List.getD_eq_getElem?_getD, hi]⟩

/-- **The flag of a childless device of an observed NVIDIA or AMD runtime.** -/
theorem finalFlag_observed {devices : Accelerators} {execution : ExecutionContext}
    {runtime : List RuntimeVisibility} {vendor : AcceleratorVendor} (hv : vendor ≠ .intel)
    {observation : RuntimeVisibility} (hobs : runtime.find? (·.vendor = vendor) = some observation)
    {index : ℕ} {device : AcceleratorDevice} (hat : devices.devices[index]? = some device)
    (hvendor : device.vendor = vendorName vendor) (hleaf : ¬hasChildren devices device) :
    finalFlag devices execution runtime index device ↔
      device.id ∈ observation.visible ∨ ∃ parent ∈ devices.devices,
        parent.id ∈ observation.visible ∧ device.parentUuid.isSome ∧
          parent.uuid = device.parentUuid := by
  rw [finalFlag_of_vendor hat hvendor, vendorSelection_observed hv hobs]
  simp only [selectedVisible, hleaf, Bool.not_false, Bool.and_true, Bool.or_eq_true,
    Bool.and_eq_true, decide_eq_true_eq, mem_observed, List.any_eq_true]
  refine or_congr ?_ ?_
  · constructor
    · rintro ⟨d, hd, hid⟩
      obtain rfl := Option.some.inj (hat.symm.trans hd)
      exact hid
    · exact fun hid => ⟨device, hat, hid⟩
  · constructor
    · rintro ⟨hset, i, ⟨parent, hparent, hid⟩, huuid⟩
      refine ⟨parent, List.mem_of_getElem? hparent, hid, hset, ?_⟩
      rw [deviceAt, List.getD_eq_getElem?_getD, hparent] at huuid
      exact huuid
    · rintro ⟨parent, hparent, hid, hset, huuid⟩
      obtain ⟨i, hi, rfl⟩ := List.mem_iff_getElem.mp hparent
      refine ⟨hset, i, ⟨_, List.getElem?_eq_getElem hi, hid⟩, ?_⟩
      simpa [deviceAt, List.getD_eq_getElem?_getD, hi] using huuid

/-! ### The resolver -/

/-- The visibility of the device at a position after the resolver. -/
def visibleAt (devices : Accelerators) (execution : ExecutionContext)
    (runtime : List RuntimeVisibility) (index : ℕ) : Option Bool :=
  ((resolveAcceleratorVisibility devices execution runtime).devices.devices[index]?).map
    (·.visibleToCurrentProcess)

theorem visibleAt_eq {devices : Accelerators} {execution : ExecutionContext}
    {runtime : List RuntimeVisibility} {index : ℕ} {device : AcceleratorDevice}
    (hat : devices.devices[index]? = some device) :
    visibleAt devices execution runtime index =
      some (finalFlag devices execution runtime index device) := by
  rw [visibleAt, resolveAcceleratorVisibility_flags, flagged, List.getElem?_mapIdx, hat]
  rfl

/-- **Accelerator visibility resolution.**  Whatever the devices, the context and the observations:
parents are invisible; the context lists the ids of the visible devices in device order; in contexts
that set a selection variable, changing the values of one vendor's variables leaves every device of
another vendor as it is; and an observation of NVIDIA or AMD decides that vendor without the
environment, by the ids its first observation lists and by their children. -/
theorem resolveAcceleratorVisibility_flow (devices : Accelerators) (execution : ExecutionContext)
    (runtime : List RuntimeVisibility) :
    (∀ i parent, devices.devices[i]? = some parent →
      (∃ child ∈ devices.devices, parent.uuid.isSome ∧ child.parentUuid = parent.uuid) →
      visibleAt devices execution runtime i = some false) ∧
    (resolveAcceleratorVisibility devices execution runtime).execution.visibleAcceleratorIds =
      (((resolveAcceleratorVisibility devices execution runtime).devices.devices.filter
        (·.visibleToCurrentProcess)).map (·.id)) ∧
    (∀ vendor execution', hasSelectionEnvironment execution →
      ChangesOnly (vendorVariables vendor) execution execution' →
      ∀ i device, devices.devices[i]? = some device → device.vendor ≠ vendorName vendor →
        visibleAt devices execution runtime i = visibleAt devices execution' runtime i) ∧
    (∀ vendor observation, vendor ≠ AcceleratorVendor.intel →
      runtime.find? (·.vendor = vendor) = some observation →
      ∀ i device, devices.devices[i]? = some device → device.vendor = vendorName vendor →
        (∀ execution', visibleAt devices execution runtime i =
          visibleAt devices execution' runtime i) ∧
        ((¬∃ child ∈ devices.devices, device.uuid.isSome ∧ child.parentUuid = device.uuid) →
          (visibleAt devices execution runtime i = some true ↔
            device.id ∈ observation.visible ∨ ∃ parent ∈ devices.devices,
              parent.id ∈ observation.visible ∧ device.parentUuid.isSome ∧
                parent.uuid = device.parentUuid))) := by
  refine ⟨?_, rfl, ?_, ?_⟩
  · intro i parent hat hchild
    rw [visibleAt_eq hat, finalFlag_of_parent (hasChildren_iff.mpr hchild)]
  · intro vendor execution' hset hchange i device hat hother
    rw [visibleAt_eq hat, visibleAt_eq hat, finalFlag_changesOnly hset hchange hat hother]
  · intro vendor observation hv hobs i device hat hvendor
    refine ⟨?_, ?_⟩
    · intro execution'
      rw [visibleAt_eq hat, visibleAt_eq hat, finalFlag_of_vendor hat hvendor,
        finalFlag_of_vendor hat hvendor, vendorSelection_observed hv hobs,
        vendorSelection_observed hv hobs]
    · intro hleaf
      rw [← hasChildren_iff] at hleaf
      rw [visibleAt_eq hat, Option.some.injEq, finalFlag_observed hv hobs hat hvendor hleaf]

end AcceleratorVisibility

end Sysal
