import Sysal.Model.Accelerator
import Sysal.Model.Execution
import Sysal.Parser.ParseUtils

/-!
# Selecting accelerators from the environment

`accelerator_selection.cpp`: what `CUDA_VISIBLE_DEVICES`, `ROCR_VISIBLE_DEVICES`,
`HIP_VISIBLE_DEVICES`, `ZE_AFFINITY_MASK` and `ONEAPI_DEVICE_SELECTOR` leave of a list of candidate
devices.  Devices are referred to by their position in the inventory.

* `selectCsv_subset`, `selectSycl_subset`: a selection only ever names devices it was offered.
* `selectAcceleratorEnvironment_subset`: the same for the whole selection of one vendor.
-/

namespace Sysal

abbrev DeviceIndices := List ℕ

namespace AcceleratorSelection

/-- The device at a position; every position in use is one of the inventory. -/
def deviceAt (devices : Accelerators) (index : ℕ) : AcceleratorDevice :=
  devices.devices.getD index {}

/-- The value of the first environment entry with a name. -/
def environment (execution : ExecutionContext) (name : Bytes) : Option Bytes :=
  (execution.environment.entries.find? (·.1 = name)).map (·.2)

def appendUnique (target source : DeviceIndices) : DeviceIndices :=
  source.foldl (fun acc index => if index ∈ acc then acc else acc ++ [index]) target

theorem getD_mem {indices : DeviceIndices} {i : ℕ} (h : i < indices.length) :
    indices.getD i 0 ∈ indices := by
  rw [List.getD_eq_getElem?_getD, List.getElem?_eq_getElem h]
  exact List.getElem_mem h

theorem mem_appendUnique {target source : DeviceIndices} {i : ℕ} :
    i ∈ appendUnique target source ↔ i ∈ target ∨ i ∈ source := by
  induction source generalizing target with
  | nil => simp [appendUnique]
  | cons j source ih =>
      have hstep : appendUnique target (j :: source) =
          appendUnique (if j ∈ target then target else target ++ [j]) source := rfl
      rw [hstep, ih]
      split
      · rename_i hj
        constructor
        · rintro (h | h)
          · exact Or.inl h
          · exact Or.inr (List.mem_cons_of_mem _ h)
        · rintro (h | h)
          · exact Or.inl h
          · rcases List.mem_cons.mp h with rfl | h
            · exact Or.inl hj
            · exact Or.inr h
      · simp only [List.mem_append, List.mem_cons, List.not_mem_nil, or_false]
        tauto

/-- A UUID prefix, or the legacy name of a MIG instance. -/
def matchesUuid (device : AcceleratorDevice) (token : Bytes) : Bool :=
  if device.uuid.any (Bytes.startsWith · token) then true
  else match device.parentUuid, device.gpuInstanceId, device.computeInstanceId with
    | some parent, some gpu, some compute =>
        utf8 "MIG-" ++ parent ++ utf8 "/" ++ decimal gpu.toNat ++ utf8 "/" ++ decimal compute.toNat
          = token
    | _, _, _ => false

/-- Whether an ordinal counts the candidates or names a physical id. -/
inductive OrdinalOrder where
  | candidate | physicalId
  deriving DecidableEq

/-- Whether a token is written as a UUID. -/
def isUuid (token : Bytes) : Bool :=
  Bytes.startsWith token (utf8 "GPU-") || Bytes.startsWith token (utf8 "MIG-")

/-- The devices one token names. -/
def csvMatches (devices : Accelerators) (pool uuidPool : DeviceIndices) (order : OrdinalOrder)
    (token : Bytes) : DeviceIndices :=
  match parseUint token with
  | some number =>
      match order with
      | .candidate => if number < pool.length then [pool.getD number 0] else []
      | .physicalId => pool.filter fun index => (deviceAt devices index).id.toNat = number
  | none =>
      if isUuid token then uuidPool.filter fun index => matchesUuid (deviceAt devices index) token
      else []

theorem csvMatches_subset {devices : Accelerators} {pool uuidPool : DeviceIndices}
    {order : OrdinalOrder} {token : Bytes} {i : ℕ}
    (hi : i ∈ csvMatches devices pool uuidPool order token) : i ∈ pool ∨ i ∈ uuidPool := by
  simp only [csvMatches] at hi
  split at hi
  · rename_i number _
    cases order with
    | candidate =>
        simp only at hi
        split at hi
        · rename_i hlt
          rw [List.mem_singleton] at hi
          exact Or.inl (hi ▸ getD_mem hlt)
        · exact absurd hi List.not_mem_nil
    | physicalId => exact Or.inl (List.mem_of_mem_filter hi)
  · split at hi
    · exact Or.inr (List.mem_of_mem_filter hi)
    · exact absurd hi List.not_mem_nil

/-- The loop of `select_csv`: a stop word ends the list, an invalid or ambiguous token ends it with a
warning. -/
def selectCsvLoop (devices : Accelerators) (pool uuidPool : DeviceIndices)
    (variableName : Bytes) (order : OrdinalOrder) : List Bytes → DeviceIndices →
    DeviceIndices × List Bytes
  | [], selected => (selected, [])
  | part :: parts, selected =>
      let token := trim part
      if token = utf8 "-1" ∨ token = utf8 "none" then (selected, [])
      else
        let found := csvMatches devices pool uuidPool order token
        if found.isEmpty || (isUuid token && found.length != 1) then
          (selected, [utf8 "[visibility] " ++ variableName ++
            utf8 ": invalid or ambiguous selector '" ++ token ++ utf8 "'; later entries ignored"])
        else
          selectCsvLoop devices pool uuidPool variableName order parts (appendUnique selected found)

def selectCsv (devices : Accelerators) (pool uuidPool : DeviceIndices) (value variableName : Bytes)
    (order : OrdinalOrder) : DeviceIndices × List Bytes :=
  if (trim value).isEmpty then ([], [])
  else selectCsvLoop devices pool uuidPool variableName order (split value 44) []

theorem selectCsvLoop_subset {devices : Accelerators} {pool uuidPool : DeviceIndices}
    {variableName : Bytes} {order : OrdinalOrder} {parts : List Bytes} {selected : DeviceIndices}
    {i : ℕ} (hi : i ∈ (selectCsvLoop devices pool uuidPool variableName order parts selected).1) :
    i ∈ selected ∨ i ∈ pool ∨ i ∈ uuidPool := by
  induction parts generalizing selected with
  | nil => exact Or.inl hi
  | cons part parts ih =>
      simp only [selectCsvLoop] at hi
      split at hi
      · exact Or.inl hi
      · split at hi
        · exact Or.inl hi
        · rcases ih hi with h | h
          · rcases mem_appendUnique.mp h with h | h
            · exact Or.inl h
            · exact Or.inr (csvMatches_subset h)
          · exact Or.inr h

/-- A device list only selects devices of its pools. -/
theorem selectCsv_subset {devices : Accelerators} {pool uuidPool : DeviceIndices}
    {value variableName : Bytes} {order : OrdinalOrder} {i : ℕ}
    (hi : i ∈ (selectCsv devices pool uuidPool value variableName order).1) :
    i ∈ pool ∨ i ∈ uuidPool := by
  simp only [selectCsv] at hi
  split at hi
  · exact absurd hi List.not_mem_nil
  · rcases selectCsvLoop_subset hi with h | h
    · exact absurd h List.not_mem_nil
    · exact h

/-! ### SYCL filters -/

structure SyclFilter where
  backend : Bytes
  selectors : List Bytes
  exclude : Bool
  deriving DecidableEq

def syclBackends : List Bytes :=
  [utf8 "*", utf8 "level_zero", utf8 "opencl", utf8 "cuda", utf8 "hip", utf8 "native_cpu"]

/-- A selector of a root device; sub-device selectors are not supported. -/
def isRootSelector (selector : Bytes) : Bool :=
  selector = utf8 "*" || selector = utf8 "gpu" || selector = utf8 "cpu" || (parseUint selector).isSome

/-- `backend:selectors`, after the `!` of a discarding filter was taken off. -/
def parseSyclBody (text : Bytes) (exclude : Bool) : Option SyclFilter :=
  match split text 58 with
  | [backendText, selectorText] =>
      let backend := trim backendText
      let selectors := (split selectorText 44).map trim
      if backend ∈ syclBackends ∧ selectors.all isRootSelector then
        some ⟨backend, selectors, exclude⟩
      else none
  | _ => none

/-- The loop of `parse_sycl`; an accepting filter must not follow a discarding one. -/
def parseSyclLoop : List Bytes → Bool → Option (List SyclFilter)
  | [], _ => some []
  | clause :: clauses, discarding => do
      let text := (trim clause).map toLower
      let exclude := Bytes.startsWith text (utf8 "!")
      if !exclude && discarding then none
      else
        let filter ← parseSyclBody (if exclude then text.drop 1 else text) exclude
        let filters ← parseSyclLoop clauses (discarding || exclude)
        return filter :: filters

def parseSycl (value : Bytes) : Option (List SyclFilter) := parseSyclLoop (split value 59) false

/-- The devices the selectors of one filter match; an ordinal that cannot be resolved is nothing. -/
def syclMatches (candidates : DeviceIndices) (runtimeKnown : Bool) (backend : Bytes) :
    List Bytes → DeviceIndices → Option DeviceIndices
  | [], found => some found
  | selector :: selectors, found =>
      if selector = utf8 "gpu" ∨ selector = utf8 "*" then
        syclMatches candidates runtimeKnown backend selectors (appendUnique found candidates)
      else match parseUint selector with
        | some ordinal =>
            if backend ≠ utf8 "level_zero" ∨ !runtimeKnown then none
            else if ordinal < candidates.length then
              syclMatches candidates runtimeKnown backend selectors
                (appendUnique found [candidates.getD ordinal 0])
            else syclMatches candidates runtimeKnown backend selectors found
        | none => syclMatches candidates runtimeKnown backend selectors found

/-- The loop of `select_sycl` over the filters; backends of other vendors are passed over. -/
def selectSyclLoop (candidates : DeviceIndices) (runtimeKnown : Bool) :
    List SyclFilter → DeviceIndices → Option DeviceIndices
  | [], selected => some selected
  | filter :: filters, selected =>
      if filter.backend ≠ utf8 "*" ∧ filter.backend ≠ utf8 "level_zero" ∧
          filter.backend ≠ utf8 "opencl" then
        selectSyclLoop candidates runtimeKnown filters selected
      else match syclMatches candidates runtimeKnown filter.backend filter.selectors [] with
        | none => none
        | some found =>
            selectSyclLoop candidates runtimeKnown filters
              (if filter.exclude then selected.filter (· ∉ found) else appendUnique selected found)

def selectSycl (candidates : DeviceIndices) (value : Bytes) (runtimeKnown : Bool) :
    DeviceIndices × List Bytes :=
  if (trim value).isEmpty then ([], [])
  else match parseSycl value with
    | none =>
        (candidates,
          [utf8 "[visibility] unsupported ONEAPI_DEVICE_SELECTOR; Intel selection left unchanged"])
    | some filters =>
        match selectSyclLoop candidates runtimeKnown filters
            (if filters.any (!·.exclude) then [] else candidates) with
        | some selected => (selected, [])
        | none =>
            (candidates,
              [utf8 "[visibility] SYCL backend ordinal unavailable; Intel selection left unchanged"])

theorem syclMatches_subset {candidates found result : DeviceIndices} {runtimeKnown : Bool}
    {backend : Bytes} {selectors : List Bytes} (hfound : ∀ i ∈ found, i ∈ candidates)
    (h : syclMatches candidates runtimeKnown backend selectors found = some result) :
    ∀ i ∈ result, i ∈ candidates := by
  induction selectors generalizing found with
  | nil => exact Option.some.inj h ▸ hfound
  | cons selector selectors ih =>
      simp only [syclMatches] at h
      split at h
      · exact ih (fun i hi => (mem_appendUnique.mp hi).elim (hfound i) id) h
      · split at h
        · split at h
          · cases h
          · split at h
            · rename_i hlt
              refine ih (fun i hi => (mem_appendUnique.mp hi).elim (hfound i) fun hmem => ?_) h
              exact List.mem_singleton.mp hmem ▸ getD_mem hlt
            · exact ih hfound h
        · exact ih hfound h

theorem selectSyclLoop_subset {candidates selected result : DeviceIndices} {runtimeKnown : Bool}
    {filters : List SyclFilter} (hsel : ∀ i ∈ selected, i ∈ candidates)
    (h : selectSyclLoop candidates runtimeKnown filters selected = some result) :
    ∀ i ∈ result, i ∈ candidates := by
  induction filters generalizing selected with
  | nil => exact Option.some.inj h ▸ hsel
  | cons filter filters ih =>
      simp only [selectSyclLoop] at h
      split at h
      · exact ih hsel h
      · split at h
        · cases h
        · rename_i found hfound
          refine ih ?_ h
          intro i hi
          split at hi
          · exact hsel i (List.mem_of_mem_filter hi)
          · rcases mem_appendUnique.mp hi with hi | hi
            · exact hsel i hi
            · exact syclMatches_subset (by simp) hfound i hi

/-- A SYCL selection only selects candidates. -/
theorem selectSycl_subset {candidates : DeviceIndices} {value : Bytes} {runtimeKnown : Bool} {i : ℕ}
    (hi : i ∈ (selectSycl candidates value runtimeKnown).1) : i ∈ candidates := by
  simp only [selectSycl] at hi
  split at hi
  · exact absurd hi List.not_mem_nil
  · split at hi
    · exact hi
    · split at hi
      · rename_i filters _ selected hsel
        refine selectSyclLoop_subset ?_ hsel i hi
        intro j hj
        split at hj
        · exact absurd hj List.not_mem_nil
        · exact hj
      · exact hi

/-! ### The selection of one vendor -/

/-- The order `CUDA_DEVICE_ORDER=PCI_BUS_ID` puts physical devices in. -/
def pciBefore (devices : Accelerators) (left right : ℕ) : Bool :=
  match (deviceAt devices left).pciAddress, (deviceAt devices right).pciAddress with
  | some a, some b =>
      a.domain < b.domain || (a.domain == b.domain &&
        (a.bus < b.bus || (a.bus == b.bus &&
          (a.device < b.device || (a.device == b.device && a.function < b.function)))))
  | some _, none => true
  | none, some _ => false
  | none, none => left < right

/-- `std::sort` with a strict order; elements the order does not separate keep their places. -/
def sortBy (before : ℕ → ℕ → Bool) (indices : DeviceIndices) : DeviceIndices :=
  indices.mergeSort fun a b => !before b a

theorem mem_sortBy {before : ℕ → ℕ → Bool} {indices : DeviceIndices} {i : ℕ} :
    i ∈ sortBy before indices ↔ i ∈ indices :=
  List.mem_mergeSort

def selectNvidia (devices : Accelerators) (candidates : DeviceIndices)
    (execution : ExecutionContext) (runtimeKnown : Bool) : Option DeviceIndices × List Bytes :=
  match environment execution (utf8 "CUDA_VISIBLE_DEVICES") with
  | none => (none, [])
  | some value =>
      if runtimeKnown then (none, [])
      else
        let physical := candidates.filter fun index => (deviceAt devices index).parentUuid.isNone
        let pciOrder :=
          environment execution (utf8 "CUDA_DEVICE_ORDER") = some (utf8 "PCI_BUS_ID")
        let sorted := if pciOrder then sortBy (pciBefore devices) physical else physical
        let inferred := if candidates.isEmpty then []
          else
            [utf8 "[visibility] CUDA runtime unavailable; visibility inferred from inventory "
              ++ utf8 "and environment"]
        let csv := selectCsv devices sorted candidates value (utf8 "CUDA_VISIBLE_DEVICES")
          (if pciOrder then .candidate else .physicalId)
        (some csv.1, inferred ++ csv.2)

/-- A selection under way: what is selected, whether a variable was applied, and the warnings. -/
structure Selection where
  selected : DeviceIndices
  filtered : Bool := false
  warnings : List Bytes := []

/-- The local `apply`: one variable with a device list narrows the selection. -/
def Selection.apply (devices : Accelerators) (execution : ExecutionContext) (name : Bytes)
    (s : Selection) : Selection :=
  match environment execution name with
  | none => s
  | some value =>
      let csv := selectCsv devices s.selected s.selected value name .candidate
      { selected := csv.1, filtered := true, warnings := s.warnings ++ csv.2 }

def Selection.result (s : Selection) : Option DeviceIndices × List Bytes :=
  (if s.filtered then some s.selected else none, s.warnings)

def selectAmd (devices : Accelerators) (candidates : DeviceIndices) (execution : ExecutionContext)
    (runtimeKnown : Bool) : Option DeviceIndices × List Bytes :=
  if runtimeKnown then (none, [])
  else
    let s := (Selection.apply devices execution (utf8 "ROCR_VISIBLE_DEVICES") ⟨candidates, false, []⟩)
      |>.apply devices execution (utf8 "HIP_VISIBLE_DEVICES")
    Selection.result
      (if s.filtered then
        { s with warnings := s.warnings ++
            [utf8 "[visibility] HIP runtime unavailable; AMD ordinals use DRM inventory order"] }
      else s)

/-- The mask of Level Zero; a mask of sub-devices is reported and left alone. -/
def applyAffinityMask (devices : Accelerators) (execution : ExecutionContext) (runtimeKnown : Bool)
    (s : Selection) : Selection :=
  if runtimeKnown then s
  else if (environment execution (utf8 "ZE_AFFINITY_MASK")).any (46 ∈ ·) then
    { s with warnings := s.warnings ++
        [utf8 "[visibility] Level Zero subdevice mask unavailable; Intel selection left unchanged"] }
  else s.apply devices execution (utf8 "ZE_AFFINITY_MASK")

def selectIntel (devices : Accelerators) (candidates : DeviceIndices) (execution : ExecutionContext)
    (runtimeKnown : Bool) : Option DeviceIndices × List Bytes :=
  let s := applyAffinityMask devices execution runtimeKnown ⟨candidates, false, []⟩
  Selection.result
    (match environment execution (utf8 "ONEAPI_DEVICE_SELECTOR") with
    | none => s
    | some value =>
        let sycl := selectSycl s.selected value runtimeKnown
        { selected := sycl.1, filtered := true, warnings := s.warnings ++ sycl.2 })

/-- `select_accelerator_environment`: nothing when no variable applies, an empty list for an explicit
empty selection. -/
def selectAcceleratorEnvironment (devices : Accelerators) (vendor : AcceleratorVendor)
    (candidates : DeviceIndices) (execution : ExecutionContext) (runtimeKnown : Bool) :
    Option DeviceIndices × List Bytes :=
  match vendor with
  | .nvidia => selectNvidia devices candidates execution runtimeKnown
  | .amd => selectAmd devices candidates execution runtimeKnown
  | .intel => selectIntel devices candidates execution runtimeKnown

theorem Selection.apply_subset {devices : Accelerators} {execution : ExecutionContext} {name : Bytes}
    {s : Selection} {i : ℕ} (hi : i ∈ (s.apply devices execution name).selected) :
    i ∈ s.selected := by
  simp only [Selection.apply] at hi
  split at hi
  · exact hi
  · exact (selectCsv_subset hi).elim id id

theorem Selection.mem_of_result {s : Selection} {selected : DeviceIndices}
    (h : s.result.1 = some selected) : selected = s.selected := by
  simp only [Selection.result] at h
  split at h
  · exact (Option.some.inj h).symm
  · cases h

/-- **The environment selects among the candidates**: no variable of any vendor can bring in a device
the vendor's candidate list does not hold. -/
theorem selectAcceleratorEnvironment_subset {devices : Accelerators} {vendor : AcceleratorVendor}
    {candidates selected : DeviceIndices} {execution : ExecutionContext} {runtimeKnown : Bool}
    (h : (selectAcceleratorEnvironment devices vendor candidates execution runtimeKnown).1 =
      some selected) :
    ∀ i ∈ selected, i ∈ candidates := by
  intro i hi
  cases vendor with
  | nvidia =>
      simp only [selectAcceleratorEnvironment, selectNvidia] at h
      split at h
      · cases h
      · split at h
        · cases h
        · have hsel := Option.some.inj h
          rw [← hsel] at hi
          rcases selectCsv_subset hi with hp | hc
          · split at hp
            · exact List.mem_of_mem_filter (mem_sortBy.mp hp)
            · exact List.mem_of_mem_filter hp
          · exact hc
  | amd =>
      simp only [selectAcceleratorEnvironment, selectAmd] at h
      split at h
      · cases h
      · rw [Selection.mem_of_result h] at hi
        split at hi
        · exact Selection.apply_subset (Selection.apply_subset hi)
        · exact Selection.apply_subset (Selection.apply_subset hi)
  | intel =>
      simp only [selectAcceleratorEnvironment, selectIntel] at h
      rw [Selection.mem_of_result h] at hi
      have hmask : ∀ j ∈ (applyAffinityMask devices execution runtimeKnown
          ⟨candidates, false, []⟩).selected, j ∈ candidates := by
        intro j hj
        simp only [applyAffinityMask] at hj
        split at hj
        · exact hj
        · split at hj
          · exact hj
          · exact Selection.apply_subset hj
      split at hi
      · exact hmask i hi
      · exact hmask i (selectSycl_subset hi)

end AcceleratorSelection

end Sysal
