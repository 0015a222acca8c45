import Sysal.Resolver.AcceleratorSelection

/-!
# Which accelerators the current process sees

`accelerator_visibility.cpp`: a complete runtime observation of a vendor comes before the environment,
the environment before the ids the execution context lists.  A parent with MIG children is never
visible itself.

* `resolveAcceleratorVisibility_devices`: the resolver writes nothing but the visibility flags.
* `resolveAcceleratorVisibility_execution`: of the execution context it writes the list of visible
  ids and the restriction flag, and the flag does not depend on the devices.
-/

namespace Sysal

namespace AcceleratorVisibility

open AcceleratorSelection

/-- The variables that select accelerators. -/
def selectionVariables : List Bytes :=
  [utf8 "CUDA_VISIBLE_DEVICES", utf8 "HIP_VISIBLE_DEVICES", utf8 "ROCR_VISIBLE_DEVICES",
   utf8 "ZE_AFFINITY_MASK", utf8 "ONEAPI_DEVICE_SELECTOR"]

def hasSelectionEnvironment (execution : ExecutionContext) : Bool :=
  execution.environment.entries.any (·.1 ∈ selectionVariables)

/-- Whether some device names the parent's UUID as its parent. -/
def hasChildren (devices : Accelerators) (parent : AcceleratorDevice) : Bool :=
  parent.uuid.isSome && devices.devices.any (·.parentUuid = parent.uuid)

/-- The positions of the devices a complete runtime observation of a vendor lists. -/
def runtimeIndices (devices : Accelerators) (vendor : AcceleratorVendor)
    (runtime : List RuntimeVisibility) : Option DeviceIndices :=
  (runtime.find? (·.vendor = vendor)).map fun observation =>
    observation.visible.flatMap fun id =>
      (List.range devices.devices.length).filter fun index => (deviceAt devices index).id = id

/-- The visibility of one candidate: selected, or below a selected parent, and no parent itself. -/
def selectedVisible (devices : Accelerators) (selected : DeviceIndices) (index : ℕ)
    (device : AcceleratorDevice) : Bool :=
  let viaParent := device.parentUuid.isSome &&
    selected.any fun parent => (deviceAt devices parent).uuid = device.parentUuid
  (decide (index ∈ selected) || viaParent) && !hasChildren devices device

/-- `apply_selection`: nothing it reads is a visibility flag, so all candidates are written at
once. -/
def applySelection (devices : Accelerators) (candidates selected : DeviceIndices) : Accelerators :=
  { devices with
    devices := devices.devices.mapIdx fun index device =>
      if index ∈ candidates then
        { device with visibleToCurrentProcess := selectedVisible devices selected index device }
      else device }

/-- The devices of a vendor, by increasing id. -/
def vendorCandidates (devices : Accelerators) (vendor : AcceleratorVendor) : DeviceIndices :=
  sortBy (fun left right => (deviceAt devices left).id < (deviceAt devices right).id)
    ((List.range devices.devices.length).filter fun index =>
      (deviceAt devices index).vendor = vendorName vendor)

/-- One vendor of the resolver's loop. -/
def resolveVendor (execution : ExecutionContext) (runtime : List RuntimeVisibility)
    (devices : Accelerators) (vendor : AcceleratorVendor) : Accelerators × List Bytes :=
  let candidates := vendorCandidates devices vendor
  let observed := runtimeIndices devices vendor runtime
  let selection := selectAcceleratorEnvironment devices vendor (observed.getD candidates) execution
    observed.isSome
  (match selection.1, observed with
    | some selected, _ => applySelection devices candidates selected
    | none, some indices => applySelection devices candidates indices
    | none, none => devices,
   selection.2)

/-- The warnings about listed ids no device has. -/
def phantomWarnings (devices : Accelerators) (ids : List AcceleratorId) : List Bytes :=
  (ids.filter fun id => devices.devices.all (·.id ≠ id)).map fun id =>
    utf8 "[visibility_mismatch] accelerator_" ++ decimal id.toNat ++
      utf8 ": in_visible_accelerator_ids but accelerator does not exist in model"

/-- The flags before any vendor is looked at. -/
def initialVisibility (devices : Accelerators) (hasEnvironment : Bool)
    (legacyIds : List AcceleratorId) : Accelerators :=
  { devices with
    devices := devices.devices.map fun device =>
      { device with
        visibleToCurrentProcess := !hasChildren devices device &&
          (hasEnvironment || legacyIds.isEmpty || decide (device.id ∈ legacyIds)) } }

/-- The result of the resolver: both arguments it writes, and the warnings it adds. -/
structure Resolved where
  devices : Accelerators
  execution : ExecutionContext
  warnings : List Bytes

def resolveAcceleratorVisibility (devices : Accelerators) (execution : ExecutionContext)
    (runtime : List RuntimeVisibility) : Resolved :=
  let legacyIds := execution.visibleAcceleratorIds
  let hasEnvironment := hasSelectionEnvironment execution
  let phantom := if hasEnvironment then [] else phantomWarnings devices legacyIds
  let restricted := { execution with
    acceleratorVisibilityRestricted := hasEnvironment || !legacyIds.isEmpty }
  let final := [AcceleratorVendor.nvidia, .amd, .intel].foldl
    (fun acc vendor =>
      let step := resolveVendor restricted runtime acc.1 vendor
      (step.1, acc.2 ++ step.2))
    (initialVisibility devices hasEnvironment legacyIds, phantom)
  { devices := final.1
    execution := { restricted with
      visibleAcceleratorIds := (final.1.devices.filter (·.visibleToCurrentProcess)).map (·.id) }
    warnings := final.2 }

/-! ### What the resolver leaves alone -/

end AcceleratorVisibility

/-- A device list without its visibility flags. -/
def Accelerators.withoutVisibility (devices : Accelerators) : Accelerators :=
  { devices with
    devices := devices.devices.map fun device => { device with visibleToCurrentProcess := false } }

/-- An execution context without the list of visible accelerators. -/
def ExecutionContext.withoutVisibleAccelerators (execution : ExecutionContext) : ExecutionContext :=
  { execution with visibleAcceleratorIds := [] }

namespace AcceleratorVisibility

open AcceleratorSelection

theorem applySelection_withoutVisibility (devices : Accelerators)
    (candidates selected : DeviceIndices) :
    (applySelection devices candidates selected).withoutVisibility = devices.withoutVisibility := by
  simp only [Accelerators.withoutVisibility, applySelection, Accelerators.mk.injEq]
  refine List.ext_getElem (by simp) fun i hi _ => ?_
  simp only [List.getElem_map, List.getElem_mapIdx]
  split <;> rfl

theorem initialVisibility_withoutVisibility (devices : Accelerators) (hasEnvironment : Bool)
    (legacyIds : List AcceleratorId) :
    (initialVisibility devices hasEnvironment legacyIds).withoutVisibility =
      devices.withoutVisibility := by
  simp only [Accelerators.withoutVisibility, initialVisibility, List.map_map]
  rfl

theorem resolveVendor_withoutVisibility (execution : ExecutionContext)
    (runtime : List RuntimeVisibility) (devices : Accelerators) (vendor : AcceleratorVendor) :
    (resolveVendor execution runtime devices vendor).1.withoutVisibility =
      devices.withoutVisibility := by
  simp only [resolveVendor]
  split
  · exact applySelection_withoutVisibility _ _ _
  · exact applySelection_withoutVisibility _ _ _
  · rfl

/-- Visibility is all the resolver writes to a device. -/
theorem resolveAcceleratorVisibility_devices (devices : Accelerators) (execution : ExecutionContext)
    (runtime : List RuntimeVisibility) :
    (resolveAcceleratorVisibility devices execution runtime).devices.withoutVisibility =
      devices.withoutVisibility := by
  simp only [resolveAcceleratorVisibility, List.foldl_cons, List.foldl_nil,
    resolveVendor_withoutVisibility, initialVisibility_withoutVisibility]

/-- Apart from the list of visible ids, the execution context after the resolver depends on the one
before it only. -/
theorem resolveAcceleratorVisibility_execution (devices : Accelerators)
    (execution : ExecutionContext) (runtime : List RuntimeVisibility) :
    (resolveAcceleratorVisibility devices execution runtime).execution.withoutVisibleAccelerators =
      { execution.withoutVisibleAccelerators with
        acceleratorVisibilityRestricted :=
          hasSelectionEnvironment execution || !execution.visibleAcceleratorIds.isEmpty } :=
  rfl

end AcceleratorVisibility

end Sysal
