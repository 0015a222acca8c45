import Mathlib.Data.List.Induction
import Sysal.Parser.Numerals
import Sysal.Resolver.AcceleratorVisibility

/-!
# Device lists

A device list is read token by token up to the first one that selects nothing, and the devices of the
tokens before it are listed once each, in the order they are named.

* `appendUnique_eraseDups`: appending what is new lists the first occurrences;
* `tokenSelects_iff`: what a token selects;
* `selectCsv_reads`: the devices, the end and the warning of a list;
* `selectNvidia_pools`, `apply_pool`: the pools the selection of a vendor passes.
-/

namespace Sysal.AcceleratorSelection

open AcceleratorVisibility

/-! ### First occurrences -/

theorem eraseDups_singleton (index : ℕ) : [index].eraseDups = [index] := by
  simp [List.eraseDups_cons]

/-- Appending what is not there yet lists the first occurrences. -/
theorem appendUnique_eraseDups (target source : DeviceIndices) :
    appendUnique target.eraseDups source = (target ++ source).eraseDups := by
  induction source generalizing target with
  | nil => rw [List.append_nil]; rfl
  | cons index source ih =>
      have hstep : appendUnique target.eraseDups (index :: source) = appendUnique
          (if index ∈ target.eraseDups then target.eraseDups else target.eraseDups ++ [index])
          source := rfl
      have hnew : (if index ∈ target.eraseDups then target.eraseDups
          else target.eraseDups ++ [index]) = (target ++ [index]).eraseDups := by
        rw [List.eraseDups_append]
        by_cases hmem : index ∈ target
        · rw [if_pos (List.mem_eraseDups.mpr hmem)]
          simp [hmem, List.removeAll]
        · rw [if_neg fun h => hmem (List.mem_eraseDups.mp h)]
          simp [hmem, List.removeAll, eraseDups_singleton]
      rw [hstep, hnew, ih, List.append_assoc, List.singleton_append]

theorem nodup_eraseDups (l : DeviceIndices) : l.eraseDups.Nodup := by
  induction l using List.reverseRecOn with
  | nil => exact List.nodup_nil
  | append_singleton l index ih =>
      rw [List.eraseDups_append]
      by_cases hmem : index ∈ l
      · simpa [hmem, List.removeAll] using ih
      · have hnotin : index ∉ l.eraseDups := fun h => hmem (List.mem_eraseDups.mp h)
        simpa [hmem, List.removeAll, eraseDups_singleton] using ih.concat hnotin

/-! ### Tokens -/

/-- Positions of an inventory, each at most once. -/
structure DevicePool (devices : Accelerators) where
  indices : DeviceIndices
  nodup : indices.Nodup
  valid : ∀ index ∈ indices, index < devices.devices.length

section Pools

variable {devices : Accelerators}

/-- The devices of a vendor. -/
def candidatePool (devices : Accelerators) (vendor : AcceleratorVendor) : DevicePool devices where
  indices := vendorCandidates devices vendor
  nodup := ((List.mergeSort_perm _ _).nodup_iff).mpr (List.nodup_range.filter _)
  valid := fun index h => by
    rw [vendorCandidates, mem_sortBy] at h
    exact List.mem_range.mp (List.mem_of_mem_filter h)

/-- The devices of a pool with a property. -/
def DevicePool.filter (pool : DevicePool devices) (p : ℕ → Bool) : DevicePool devices where
  indices := pool.indices.filter p
  nodup := pool.nodup.filter p
  valid := fun index h => pool.valid index (List.mem_of_mem_filter h)

/-- The devices of a pool in another order. -/
def DevicePool.sort (pool : DevicePool devices) (before : ℕ → ℕ → Bool) : DevicePool devices where
  indices := sortBy before pool.indices
  nodup := ((List.mergeSort_perm _ _).nodup_iff).mpr pool.nodup
  valid := fun index h => pool.valid index (mem_sortBy.mp h)

/-- The devices that CUDA ordinals count: those that are no MIG instance, in the order of the PCI bus if
the process asks for it. -/
def physicalPool (pool : DevicePool devices) (pciOrder : Bool) : DevicePool devices :=
  let physical := pool.filter fun index => (deviceAt devices index).parentUuid.isNone
  if pciOrder then physical.sort (pciBefore devices) else physical

end Pools

/-- The name CUDA gave a MIG device before it had a UUID. -/
def legacyMigName (device : AcceleratorDevice) : Option Bytes := do
  let parent ← device.parentUuid
  let gpu ← device.gpuInstanceId
  let compute ← device.computeInstanceId
  return utf8 "MIG-" ++ parent ++ utf8 "/" ++ decimal gpu.toNat ++ utf8 "/" ++ decimal compute.toNat

/-- A token names a device by a prefix of its UUID or by its legacy name. -/
def NamesDevice (device : AcceleratorDevice) (token : Bytes) : Prop :=
  (∃ uuid, device.uuid = some uuid ∧ token <+: uuid) ∨ legacyMigName device = some token

theorem matchesUuid_iff (device : AcceleratorDevice) (token : Bytes) :
    matchesUuid device token = true ↔ NamesDevice device token := by
  have huuid : device.uuid.any (Bytes.startsWith · token) = true ↔
      ∃ uuid, device.uuid = some uuid ∧ token <+: uuid := by
    cases device.uuid <;> simp [Bytes.startsWith]
  rw [matchesUuid, NamesDevice, ← huuid, legacyMigName]
  by_cases h : device.uuid.any (Bytes.startsWith · token) = true
  · simp [h]
  · rw [if_neg h]
    cases device.parentUuid <;> cases device.gpuInstanceId <;> cases device.computeInstanceId <;>
      simp [h]

/-- The words that end a list. -/
def IsStopWord (token : Bytes) : Prop := token = utf8 "-1" ∨ token = utf8 "none"

/-- What a token selects: a decimal number a position of the pool or the devices of the pool with that
id, and a UUID the only device of the UUID pool that it names. -/
inductive TokenSelects {devices : Accelerators} (pool uuidPool : DevicePool devices) :
    OrdinalOrder → Bytes → DeviceIndices → Prop
  | position {token : Bytes} (hnumeral : IsNumeral 10 token) (hfits : numeralValue 10 token < 2 ^ 64)
      (hlt : numeralValue 10 token < pool.indices.length) :
      TokenSelects pool uuidPool .candidate token [pool.indices[numeralValue 10 token]]
  | physicalId {token : Bytes} (hnumeral : IsNumeral 10 token)
      (hfits : numeralValue 10 token < 2 ^ 64)
      (hne : (pool.indices.filter fun index =>
        (deviceAt devices index).id.toNat = numeralValue 10 token) ≠ []) :
      TokenSelects pool uuidPool .physicalId token
        (pool.indices.filter fun index =>
          (deviceAt devices index).id.toNat = numeralValue 10 token)
  | uuid {order : OrdinalOrder} {token : Bytes} {index : ℕ} (huuid : isUuid token = true)
      (hmem : index ∈ uuidPool.indices) (hnames : NamesDevice (deviceAt devices index) token)
      (hunique : ∀ other ∈ uuidPool.indices, NamesDevice (deviceAt devices other) token →
        other = index) : TokenSelects pool uuidPool order token [index]

/-- A UUID starts with a letter. -/
theorem isUuid_eq_false {token : Bytes} (h : IsNumeral 10 token) : isUuid token = false := by
  obtain ⟨c, rest, rfl⟩ := List.exists_cons_of_ne_nil h.1
  have hdigit := h.2 c List.mem_cons_self
  have hG : c ≠ 71 := by
    rintro rfl
    revert hdigit
    decide
  have hM : c ≠ 77 := by
    rintro rfl
    revert hdigit
    decide
  have hutf8 : utf8 "GPU-" = [71, 80, 85, 45] ∧ utf8 "MIG-" = [77, 73, 71, 45] := by
    decide +kernel
  simp [isUuid, Bytes.startsWith, hutf8, List.isPrefixOf, hG.symm, hM.symm]

/-- The only device a filter leaves. -/
theorem filter_eq_singleton {l : DeviceIndices} (hl : l.Nodup) {p : ℕ → Bool} {index : ℕ} :
    l.filter p = [index] ↔ index ∈ l ∧ p index = true ∧ ∀ other ∈ l, p other = true → other = index := by
  constructor
  · intro h
    have hmem : ∀ other, (other ∈ l ∧ p other = true) ↔ other = index := by
      intro other
      rw [← List.mem_filter, h, List.mem_singleton]
    obtain ⟨hl, hp⟩ := (hmem index).mpr rfl
    exact ⟨hl, hp, fun other ho hpo => (hmem other).mp ⟨ho, hpo⟩⟩
  · rintro ⟨hmem, hp, hunique⟩
    refine List.perm_singleton.mp ((List.perm_ext_iff_of_nodup (hl.filter p)
      (List.nodup_singleton index)).mpr fun other => ?_)
    rw [List.mem_filter, List.mem_singleton]
    constructor
    · exact fun h => hunique other h.1 h.2
    · rintro rfl
      exact ⟨hmem, hp⟩

variable {devices : Accelerators} (pool uuidPool : DevicePool devices)

theorem csvMatches_candidate {token : Bytes} {n : ℕ} (h : parseUint token = some n) :
    csvMatches devices pool.indices uuidPool.indices .candidate token =
      if n < pool.indices.length then [pool.indices.getD n 0] else [] := by
  rw [csvMatches, h]

theorem csvMatches_physicalId {token : Bytes} {n : ℕ} (h : parseUint token = some n) :
    csvMatches devices pool.indices uuidPool.indices .physicalId token =
      pool.indices.filter fun index => (deviceAt devices index).id.toNat = n := by
  rw [csvMatches, h]

theorem csvMatches_uuid (order : OrdinalOrder) {token : Bytes} (h : parseUint token = none) :
    csvMatches devices pool.indices uuidPool.indices order token =
      if isUuid token then uuidPool.indices.filter fun index =>
        matchesUuid (deviceAt devices index) token else [] := by
  rw [csvMatches, h]

/-- The code accepts a token exactly when it selects something, and takes what it selects. -/
theorem tokenSelects_iff (order : OrdinalOrder) {token : Bytes} (htrim : trim token = token)
    (found : DeviceIndices) :
    TokenSelects pool uuidPool order token found ↔
      found = csvMatches devices pool.indices uuidPool.indices order token ∧
        (found.isEmpty || (isUuid token && found.length != 1)) = false := by
  constructor
  · intro h
    cases h with
    | position hnumeral hfits hlt =>
        rw [csvMatches_candidate pool uuidPool (hnumeral.parseNumeral hfits)]
        simp [hlt, isUuid_eq_false hnumeral]
    | physicalId hnumeral hfits hne =>
        rw [csvMatches_physicalId pool uuidPool (hnumeral.parseNumeral hfits),
          isUuid_eq_false hnumeral, Bool.false_and, Bool.or_false]
        exact ⟨rfl, List.isEmpty_eq_false_iff.mpr hne⟩
    | uuid huuid hmem hnames hunique =>
        have hnone : parseUint token = none := by
          rw [Option.eq_none_iff_forall_ne_some]
          intro n hn
          rw [parseUint, parseNumeral_eq_some, htrim] at hn
          rw [isUuid_eq_false hn.1] at huuid
          cases huuid
        rw [csvMatches_uuid pool uuidPool order hnone, if_pos huuid, eq_comm,
          filter_eq_singleton uuidPool.nodup]
        simp only [matchesUuid_iff]
        exact ⟨⟨hmem, hnames, hunique⟩, by simp⟩
  · rintro ⟨rfl, hvalid⟩
    rw [Bool.or_eq_false_iff, Bool.and_eq_false_iff] at hvalid
    obtain ⟨hne, hsingle⟩ := hvalid
    rcases hparse : parseUint token with _ | n
    · rw [csvMatches_uuid pool uuidPool order hparse] at hne hsingle ⊢
      by_cases huuid : isUuid token = true
      · rw [if_pos huuid] at hne hsingle ⊢
        have hlength := hsingle.resolve_left (by simp [huuid])
        obtain ⟨index, hindex⟩ := List.length_eq_one_iff.mp (by simpa using hlength)
        obtain ⟨hmem, hnames, hunique⟩ := (filter_eq_singleton uuidPool.nodup).mp hindex
        rw [hindex]
        simp only [matchesUuid_iff] at hnames hunique
        exact .uuid huuid hmem hnames hunique
      · rw [if_neg huuid] at hne
        cases hne
    · obtain ⟨hnumeral, rfl, hfits⟩ := parseNumeral_eq_some.mp hparse
      rw [htrim] at hnumeral hfits hparse
      cases order with
      | candidate =>
          rw [csvMatches_candidate pool uuidPool hparse] at hne ⊢
          by_cases hlt : numeralValue 10 token < pool.indices.length
          · rw [if_pos hlt]
            have hget : pool.indices.getD (numeralValue 10 token) 0 =
                pool.indices[numeralValue 10 token] := by
              simp [List.getD, hlt]
            rw [hget]
            exact .position hnumeral hfits hlt
          · rw [if_neg hlt] at hne
            cases hne
      | physicalId =>
          rw [csvMatches_physicalId pool uuidPool hparse] at hne ⊢
          exact .physicalId hnumeral hfits (List.isEmpty_eq_false_iff.mp hne)

/-- A stop word selects nothing. -/
theorem not_tokenSelects_stopWord (order : OrdinalOrder) {token : Bytes} (hstop : IsStopWord token)
    (found : DeviceIndices) : ¬ TokenSelects pool uuidPool order token found := by
  have hnumeral : ¬ IsNumeral 10 token := by
    rintro ⟨-, hdigits⟩
    rcases hstop with rfl | rfl
    · exact absurd (hdigits 45 (by decide)) (by decide)
    · exact absurd (hdigits 110 (by decide)) (by decide)
  have huuid : isUuid token = false := by
    rcases hstop with rfl | rfl <;> decide +kernel
  intro h
  cases h with
  | position h => exact hnumeral h
  | physicalId h => exact hnumeral h
  | uuid h => exact absurd h (by simp [huuid])

/-! ### Lists -/

/-- The warning about a token. -/
def ignoredEntries (variableName token : Bytes) : Bytes :=
  utf8 "[visibility] " ++ variableName ++ utf8 ": invalid or ambiguous selector '" ++ token ++
    utf8 "'; later entries ignored"

/-- How a list ends and what is reported: after its last token and at a stop word nothing, at any other
token that selects nothing a warning. -/
inductive ListEnds (order : OrdinalOrder) (variableName : Bytes) : List Bytes → List Bytes → Prop
  | exhausted : ListEnds order variableName [] []
  | stopped {token : Bytes} {rest : List Bytes} (hstop : IsStopWord token) :
      ListEnds order variableName (token :: rest) []
  | ignored {token : Bytes} {rest : List Bytes} (hstop : ¬ IsStopWord token)
      (hnone : ∀ found, ¬ TokenSelects pool uuidPool order token found) :
      ListEnds order variableName (token :: rest) [ignoredEntries variableName token]

/-- The reading of a list: the tokens up to its end each select something, and the devices are those they
select, each where it is first named. -/
structure ListReading (order : OrdinalOrder) (variableName : Bytes) (tokens : List Bytes)
    (result : DeviceIndices × List Bytes) where
  valid : List Bytes
  rest : List Bytes
  found : List DeviceIndices
  tokens_eq : tokens = valid ++ rest
  selects : List.Forall₂ (TokenSelects pool uuidPool order) valid found
  ends : ListEnds pool uuidPool order variableName rest result.2
  devices_eq : result.1 = found.flatten.eraseDups

/-- The loop reads what is left of the list behind the devices selected so far. -/
theorem selectCsvLoop_reads (order : OrdinalOrder) (variableName : Bytes) (parts : List Bytes)
    (target : DeviceIndices) :
    ∃ valid rest found, parts.map trim = valid ++ rest ∧
      List.Forall₂ (TokenSelects pool uuidPool order) valid found ∧
      ListEnds pool uuidPool order variableName rest (selectCsvLoop devices pool.indices
        uuidPool.indices variableName order parts target.eraseDups).2 ∧
      (selectCsvLoop devices pool.indices uuidPool.indices variableName order parts
        target.eraseDups).1 = (target ++ found.flatten).eraseDups := by
  induction parts generalizing target with
  | nil => exact ⟨[], [], [], rfl, .nil, .exhausted, by simp [selectCsvLoop]⟩
  | cons part parts ih =>
      have hselects := tokenSelects_iff pool uuidPool order (trim_trim part)
      rw [selectCsvLoop]
      by_cases hstop : trim part = utf8 "-1" ∨ trim part = utf8 "none"
      · rw [if_pos hstop]
        exact ⟨[], _, [], rfl, .nil, .stopped hstop, by simp⟩
      · rw [if_neg hstop]
        dsimp only
        set found := csvMatches devices pool.indices uuidPool.indices order (trim part) with hfound
        by_cases hinvalid : (found.isEmpty || (isUuid (trim part) && found.length != 1)) = true
        · rw [if_pos hinvalid]
          refine ⟨[], _, [], rfl, .nil, .ignored hstop fun other hother => ?_, by simp⟩
          obtain ⟨rfl, hvalid⟩ := (hselects other).mp hother
          rw [hinvalid] at hvalid
          cases hvalid
        · rw [if_neg hinvalid, appendUnique_eraseDups]
          obtain ⟨valid, rest, others, htokens, hothers, hends, hdevices⟩ := ih (target ++ found)
          refine ⟨trim part :: valid, rest, found :: others, by rw [List.map_cons, htokens]; rfl,
            .cons ((hselects found).mpr ⟨rfl, by simpa using hinvalid⟩) hothers, hends, ?_⟩
          rw [hdevices, List.flatten_cons, List.append_assoc]

theorem selectCsv_reading (value variableName : Bytes) (order : OrdinalOrder)
    (h : trim value ≠ []) :
    Nonempty (ListReading pool uuidPool order variableName ((split value 44).map trim)
      (selectCsv devices pool.indices uuidPool.indices value variableName order)) := by
  have hresult : selectCsv devices pool.indices uuidPool.indices value variableName order =
      selectCsvLoop devices pool.indices uuidPool.indices variableName order (split value 44)
        ([] : DeviceIndices).eraseDups := by
    simp [selectCsv, h]
  obtain ⟨valid, rest, found, htokens, hfound, hends, hdevices⟩ :=
    selectCsvLoop_reads pool uuidPool order variableName (split value 44) []
  rw [hresult]
  exact ⟨⟨valid, rest, found, htokens, hfound, hends, hdevices⟩⟩

theorem selectCsv_blank (value variableName : Bytes) (order : OrdinalOrder) (h : trim value = []) :
    selectCsv devices pool.indices uuidPool.indices value variableName order = ([], []) := by
  simp [selectCsv, h]

theorem selectCsv_nodup (value variableName : Bytes) (order : OrdinalOrder) :
    (selectCsv devices pool.indices uuidPool.indices value variableName order).1.Nodup := by
  by_cases h : trim value = []
  · rw [selectCsv_blank pool uuidPool value variableName order h]
    exact List.nodup_nil
  · obtain ⟨reading⟩ := selectCsv_reading pool uuidPool value variableName order h
    rw [reading.devices_eq]
    exact nodup_eraseDups _

variable {pool uuidPool} in
/-- **The tokens that are read are the longest prefix** of tokens that each select something. -/
theorem ListReading.longest {order : OrdinalOrder} {variableName : Bytes} {tokens : List Bytes}
    {result : DeviceIndices × List Bytes}
    (reading : ListReading pool uuidPool order variableName tokens result) {valid rest : List Bytes}
    {found : List DeviceIndices} (htokens : tokens = valid ++ rest)
    (hselects : List.Forall₂ (TokenSelects pool uuidPool order) valid found) :
    valid <+: reading.valid := by
  have hselected : ∀ token ∈ valid, ∃ devices, TokenSelects pool uuidPool order token devices := by
    intro token htoken
    obtain ⟨i, hi, rfl⟩ := List.mem_iff_getElem.mp htoken
    exact ⟨_, hselects.get hi (hselects.length_eq ▸ hi)⟩
  have htokens' : valid ++ rest = reading.valid ++ reading.rest := htokens.symm.trans reading.tokens_eq
  have hprefix : valid <+: reading.valid ++ reading.rest := ⟨rest, htokens'⟩
  rcases List.prefix_or_prefix_of_prefix hprefix (List.prefix_append _ _) with h | ⟨more, hmore⟩
  · exact h
  · cases more with
    | nil => exact (hmore ▸ List.append_nil reading.valid) ▸ List.prefix_rfl
    | cons token more =>
        -- the token behind those that are read selects nothing
        obtain ⟨selected, hselected⟩ := hselected token (by simp [← hmore])
        rw [← hmore, List.append_assoc, List.append_cancel_left_eq, List.cons_append] at htokens'
        have hends := reading.ends
        rw [← htokens'] at hends
        generalize result.2 = warnings at hends
        cases hends with
        | stopped hstop => exact absurd hselected (not_tokenSelects_stopWord pool uuidPool order hstop _)
        | ignored _ hnone => exact absurd hselected (hnone _)

/-- **A device list is read up to its end.**  A blank value selects nothing; of any other the devices
are those of the tokens before the first that selects nothing, once each and in the order they are named,
and a warning is given exactly for a token that selects nothing and is no stop word.  Whatever is selected
is in one of the pools. -/
theorem selectCsv_reads (value variableName : Bytes) (order : OrdinalOrder) :
    let result := selectCsv devices pool.indices uuidPool.indices value variableName order
    (trim value = [] → result = ([], [])) ∧
      (trim value ≠ [] → Nonempty
        (ListReading pool uuidPool order variableName ((split value 44).map trim) result)) ∧
      result.1.Nodup ∧ ∀ index ∈ result.1, index ∈ pool.indices ∨ index ∈ uuidPool.indices := by
  intro result
  refine ⟨?_, ?_, ?_, fun index => selectCsv_subset⟩
  · exact selectCsv_blank pool uuidPool value variableName order
  · exact selectCsv_reading pool uuidPool value variableName order
  · exact selectCsv_nodup pool uuidPool value variableName order

/-! ### The pools of a vendor -/

/-- What is left of a pool behind a variable. -/
def DevicePool.apply (pool : DevicePool devices) (execution : ExecutionContext) (name : Bytes) :
    DevicePool devices where
  indices := (Selection.apply devices execution name ⟨pool.indices, false, []⟩).selected
  nodup := by
    rw [Selection.apply]
    split
    · exact pool.nodup
    · exact selectCsv_nodup pool pool _ _ _
  valid := fun index h => pool.valid index (Selection.apply_subset h)

/-- A variable narrows a pool to a pool. -/
theorem apply_pool (pool : DevicePool devices) (execution : ExecutionContext) (name : Bytes)
    (filtered : Bool) (warnings : List Bytes) :
    (Selection.apply devices execution name ⟨pool.indices, filtered, warnings⟩).selected =
      (pool.apply execution name).indices := by
  simp only [DevicePool.apply, Selection.apply]
  split <;> rfl

/-- The CUDA list is read in the pool of the physical devices and in that of all candidates. -/
theorem selectNvidia_pools {execution : ExecutionContext} {value : Bytes}
    (hvalue : environment execution (utf8 "CUDA_VISIBLE_DEVICES") = some value) :
    let pool := candidatePool devices .nvidia
    let pciOrder : Bool := environment execution (utf8 "CUDA_DEVICE_ORDER") = some (utf8 "PCI_BUS_ID")
    (selectAcceleratorEnvironment devices .nvidia (vendorCandidates devices .nvidia) execution false).1 =
      some (selectCsv devices (physicalPool pool pciOrder).indices pool.indices value
        (utf8 "CUDA_VISIBLE_DEVICES") (if pciOrder then .candidate else .physicalId)).1 := by
  intro pool pciOrder
  by_cases horder : environment execution (utf8 "CUDA_DEVICE_ORDER") = some (utf8 "PCI_BUS_ID")
  · simp only [selectAcceleratorEnvironment, selectNvidia, hvalue, pciOrder, horder, physicalPool]
    rfl
  · simp only [selectAcceleratorEnvironment, selectNvidia, hvalue, pciOrder, horder, physicalPool]
    rfl

/-- The HIP list is read in what the ROCR list leaves. -/
theorem selectAmd_pools (execution : ExecutionContext) {selected : DeviceIndices}
    (h : (selectAcceleratorEnvironment devices .amd (vendorCandidates devices .amd) execution false).1 =
      some selected) :
    selected = (((candidatePool devices .amd).apply execution (utf8 "ROCR_VISIBLE_DEVICES")).apply
      execution (utf8 "HIP_VISIBLE_DEVICES")).indices := by
  simp only [selectAcceleratorEnvironment, selectAmd] at h
  rw [← apply_pool _ _ _ (Selection.apply devices execution (utf8 "ROCR_VISIBLE_DEVICES")
    ⟨vendorCandidates devices .amd, false, []⟩).filtered (Selection.apply devices execution
      (utf8 "ROCR_VISIBLE_DEVICES") ⟨vendorCandidates devices .amd, false, []⟩).warnings]
  have hselected := Selection.mem_of_result h
  split at hselected <;> exact hselected

/-- Two devices and an instance of the second one. -/
def instanceInventory : Accelerators :=
  { devices :=
      [{ id := 0, vendor := utf8 "NVIDIA", uuid := some (utf8 "GPU-a1") },
       { id := 1, vendor := utf8 "NVIDIA", uuid := some (utf8 "GPU-b2") },
       { id := 2, vendor := utf8 "NVIDIA", uuid := some (utf8 "MIG-c3")
         parentUuid := some (utf8 "GPU-b2") }] }

theorem candidatePool_instanceInventory :
    (candidatePool instanceInventory .nvidia).indices = [0, 1, 2] := by
  have hfilter : ((List.range instanceInventory.devices.length).filter fun index =>
      (deviceAt instanceInventory index).vendor = vendorName .nvidia) = [0, 1, 2] := by
    decide +kernel
  simp only [candidatePool, vendorCandidates, hfilter, sortBy]
  exact List.mergeSort_of_pairwise (by decide)

/-- The ordinal of an instance is no physical device's and ends the list. -/
theorem selectCsv_reads_instance :
    let pool := candidatePool instanceInventory .nvidia
    let result := selectCsv instanceInventory (physicalPool pool false).indices pool.indices
      (utf8 "1, MIG-c,1,2,0") (utf8 "CUDA_VISIBLE_DEVICES") .physicalId
    result = ([1, 2], [ignoredEntries (utf8 "CUDA_VISIBLE_DEVICES") (utf8 "2")]) ∧
      Nonempty (ListReading (physicalPool pool false) pool .physicalId (utf8 "CUDA_VISIBLE_DEVICES")
        ((split (utf8 "1, MIG-c,1,2,0") 44).map trim) result) := by
  intro pool result
  refine ⟨?_, (selectCsv_reads (physicalPool pool false) pool _ _ _).2.1 (by decide)⟩
  simp only [result, pool, physicalPool, DevicePool.filter, candidatePool_instanceInventory]
  decide +kernel

end Sysal.AcceleratorSelection
