import Sysal.Reader.Accelerator
import Sysal.Reader.Cgroup
import Sysal.Reader.Environment
import Sysal.Reader.Filesystems
import Sysal.Reader.FilesystemStats
import Sysal.Reader.Sensors

/-!
# The machine and the steps of a collection

What the readers ask of a machine, and the steps a collection is made of.  A step is one reader with the
condition it stands under; it knows the sources it adds records of.  The machine does not change while it
is read.

* `run_static`: steps that do not look at the store add the same records to every store;
* `source_of_run`: a run adds records of the sources of the steps that are run.
-/

namespace Sysal

open AcceleratorReader CommandReader FilesystemsReader FilesystemStats

/-! ### The machine -/

/-- What `uname` says. -/
structure Utsname where
  machine : Bytes
  release : Bytes
  version : Bytes

/-- Everything the readers ask for. -/
structure Machine where
  tree : SysTree
  execute : Bytes → CommandResult
  json : JsonLibrary
  vendors : Vendors
  uname : Option Utsname
  hostname : Option Bytes
  /-- `getifaddrs`: the names, with the text of an address where there is one. -/
  interfaces : Option (List (Bytes × Option Bytes))
  getenv : Bytes → Option Bytes
  Descriptor : Type
  os : StorageMount → FilesystemStats.Os Descriptor

namespace Machine

variable (m : Machine)

/-- The files as the reader of control groups sees them. -/
def fileTree : FileTree where
  read := fun path => (m.tree.readFile path).toOption
  existence := fun path => (m.tree.existence path).toOption

/-- The statistics of a mount. -/
def statistics (mount : StorageMount) : FilesystemStatistics :=
  (readFilesystemStatistics (m.os mount) mount).1

/-- `dump`, where the text can be written. -/
def dumped (document : Json) : Bytes := (m.json.dump (-1) document).getD []

end Machine

/-! ### Steps -/

/-- A reader with the domains it is run for, unless one of some others is requested; it may throw. -/
structure ReadingStep where
  mask : Collect
  without : Collect := 0
  sources : List RawSource
  adds : EvidenceStore → Option (List RawEvidence)
  enumerations : List InventoryEnumeration := []
  ofSources : ∀ raw, ∀ records ∈ adds raw, OfSources sources records

namespace ReadingStep

/-- Whether a step is run. -/
def enabled (step : ReadingStep) (flags : Collect) : Bool :=
  has flags step.mask && !has flags step.without

/-- A step of a collection. -/
def read (flags : Collect) (raw : EvidenceStore) (step : ReadingStep) : Option EvidenceStore :=
  if step.enabled flags then
    (step.adds raw).map fun records =>
      { raw with
        records := raw.records ++ records
        enumerations := raw.enumerations ++ step.enumerations }
  else some raw

/-- A step that adds the same records to every store. -/
def Static (step : ReadingStep) : Prop := ∀ raw raw', step.adds raw = step.adds raw'

/-- Steps one after another. -/
def run (flags : Collect) (steps : List ReadingStep) (raw : EvidenceStore) : Option EvidenceStore :=
  steps.foldlM (read flags) raw

/-! ### The shape of a step -/

/-- A step that adds records whatever the store is. -/
def always (mask without : Collect) (sources : List RawSource) (records : Option (List RawEvidence))
    (h : ∀ found ∈ records, OfSources sources found) : ReadingStep where
  mask := mask
  without := without
  sources := sources
  adds := fun _ => records
  ofSources := fun _ => h

/-- The record of a file. -/
def file (m : Machine) (mask without : Collect) (source : RawSource) (path : String) : ReadingStep :=
  always mask without [source] (some [readFileRecord m.tree source (utf8 path)]) fun _ h => by
    rw [← Option.some.inj h]
    exact .cons (readFileRecord_source m.tree (List.mem_singleton_self _) _) .nil

end ReadingStep

/-- The payload of a command that failed. -/
def commandFailureJson (result : CommandResult) : Json :=
  Json.object
    [("command_status", some (Json.ofUInt32 (.ofNat result.status.ctorIdx))),
      ("stdout", some (Json.str result.output)), ("stderr", some (Json.str result.error)),
      ("exit_code", result.exitCode.map fun code => Json.ofUInt32 code.toUInt32),
      ("signal", result.signal.map fun signal => Json.ofUInt32 (.ofNat signal))]

/-- `read_cmd`. -/
def readCmd (m : Machine) (source : RawSource) (command : Bytes) : Option RawEvidence :=
  let result := m.execute command
  let status : CollectStatus := if result.successful then .success else .failed
  let payload := if result.successful then some result.output
    else m.json.dump (-1) (commandFailureJson result)
  payload.map fun payload => ⟨source, command, payload, status, commandFailure result, none⟩

/-- The record of a command. -/
def ReadingStep.command (m : Machine) (mask without : Collect) (source : RawSource) (text : String) :
    ReadingStep :=
  .always mask without [source] ((readCmd m source (utf8 text)).map fun record => [record])
    fun _ h => by
      obtain ⟨record, hrecord, rfl⟩ := Option.map_eq_some_iff.mp h
      obtain ⟨payload, -, rfl⟩ := Option.map_eq_some_iff.mp hrecord
      exact .cons (List.mem_singleton_self _) .nil

/-! ### Runs -/

namespace ReadingStep

variable {flags : Collect} {steps steps' : List ReadingStep} {raw raw' : EvidenceStore}

/-- The records of a step on a store. -/
def recordsOn (raw : EvidenceStore) (step : ReadingStep) : List RawEvidence := (step.adds raw).getD []

theorem run_append (flags : Collect) (steps steps' : List ReadingStep) (raw : EvidenceStore) :
    run flags (steps ++ steps') raw = (run flags steps raw).bind (run flags steps') :=
  List.foldlM_append

theorem run_cons (flags : Collect) (step : ReadingStep) (steps : List ReadingStep)
    (raw : EvidenceStore) :
    run flags (step :: steps) raw = (step.read flags raw).bind (run flags steps) :=
  List.foldlM_cons

/-- **Static steps** add the same records to every store, those of the steps that are run. -/
theorem run_static (hstatic : ∀ step ∈ steps, step.Static) (raw₀ : EvidenceStore)
    (h : run flags steps raw = some raw') :
    (∀ step ∈ steps, step.enabled flags → (step.adds raw₀).isSome) ∧
      raw' =
        { raw with
          records := raw.records ++ (steps.filter (·.enabled flags)).flatMap (recordsOn raw₀)
          enumerations := raw.enumerations ++
            (steps.filter (·.enabled flags)).flatMap (·.enumerations) } := by
  induction steps generalizing raw with
  | nil =>
      rw [← Option.some.inj h]
      simp
  | cons step steps ih =>
      rw [run_cons] at h
      obtain ⟨next, hnext, hrest⟩ := Option.bind_eq_some_iff.mp h
      obtain ⟨hsome, rfl⟩ := ih (fun s hs => hstatic s (List.mem_cons_of_mem _ hs)) hrest
      rw [List.forall_mem_cons]
      rw [read] at hnext
      split at hnext
      · rename_i henabled
        obtain ⟨records, hrecords, rfl⟩ := Option.map_eq_some_iff.mp hnext
        rw [hstatic step List.mem_cons_self raw raw₀] at hrecords
        refine ⟨⟨fun _ => by rw [hrecords]; rfl, hsome⟩, ?_⟩
        simp [henabled, recordsOn, hrecords]
      · rename_i hdisabled
        rw [Option.some.inj hnext]
        refine ⟨⟨fun henabled => absurd henabled hdisabled, hsome⟩, ?_⟩
        simp [hdisabled]

/-- One step adds records of its own sources, and only where it is run. -/
theorem source_of_read {step : ReadingStep} (h : read flags raw step = some raw') :
    ∀ record ∈ raw'.records,
      record ∈ raw.records ∨ step.enabled flags ∧ record.source ∈ step.sources := by
  rw [read] at h
  split at h
  · rename_i henabled
    obtain ⟨records, hrecords, rfl⟩ := Option.map_eq_some_iff.mp h
    intro record hrecord
    rcases List.mem_append.mp hrecord with hold | hnew
    · exact Or.inl hold
    · exact Or.inr ⟨henabled, step.ofSources raw records hrecords record hnew⟩
  · rw [← Option.some.inj h]
    exact fun record hrecord => Or.inl hrecord

/-- **Where records come from**: a run adds records of the sources of the steps that are run. -/
theorem source_of_run (h : run flags steps raw = some raw') :
    ∀ record ∈ raw'.records,
      record ∈ raw.records ∨ ∃ step ∈ steps, step.enabled flags ∧ record.source ∈ step.sources := by
  induction steps generalizing raw with
  | nil =>
      rw [← Option.some.inj h]
      exact fun record hrecord => Or.inl hrecord
  | cons step steps ih =>
      rw [run_cons] at h
      obtain ⟨next, hnext, hrest⟩ := Option.bind_eq_some_iff.mp h
      intro record hrecord
      rcases ih hrest record hrecord with hold | ⟨later, hlater, hsource⟩
      · rcases source_of_read hnext record hold with hold | hsource
        · exact Or.inl hold
        · exact Or.inr ⟨step, List.mem_cons_self, hsource⟩
      · exact Or.inr ⟨later, List.mem_cons_of_mem _ hlater, hsource⟩

theorem always_static {mask without : Collect} {sources : List RawSource}
    {records : Option (List RawEvidence)} {h : ∀ found ∈ records, OfSources sources found} :
    (always mask without sources records h).Static :=
  fun _ _ => rfl

end ReadingStep

end Sysal
