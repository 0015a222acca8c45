import Sysal.Model.Enums
import Sysal.Model.Values

/-!
# Raw evidence

A `RawStore` holds every record the readers collected, the enumeration evidence and the request the
collection was made for.  No parser and no resolver reads the time a record was collected at, so the
record is split: `RawEvidence` is what they see, `RawRecord` adds the time stamp, and the parsers run
on the `evidence` of a store.  The queries are the ones of the store, on that evidence.
-/

namespace Sysal

/-- The inventories whose completeness is tracked. -/
inductive InventoryKind where
  | cpuPackages | cpuCores | logicalCpus | numaNodes | cpuCaches | networkInterfaces
  | blockDevices | pciDevices | acceleratorDevices
  deriving DecidableEq, Inhabited

instance : CEnum InventoryKind where
  enumerators :=
    [.cpuPackages, .cpuCores, .logicalCpus, .numaNodes, .cpuCaches, .networkInterfaces,
     .blockDevices, .pciDevices, .acceleratorDevices]
  code := InventoryKind.ctorIdx
  enumerators_code := by intro a; cases a <;> rfl

inductive InventoryCompleteness where
  | unknown | partial_ | complete
  deriving DecidableEq, Inhabited

instance : CEnum InventoryCompleteness where
  enumerators := [.unknown, .partial_, .complete]
  code := InventoryCompleteness.ctorIdx
  enumerators_code := by intro a; cases a <;> rfl

/-- Enumeration evidence, independent of optional device attributes. -/
structure InventoryEnumeration where
  inventory : InventoryKind
  source : RawSource
  origin : Bytes
  entries : List Bytes
  status : CollectStatus
  failure : Option ReadFailure := none
  deriving DecidableEq, Inhabited

inductive FilesystemQuery where
  | none | local | allMounted
  deriving DecidableEq, Inhabited

instance : CEnum FilesystemQuery where
  enumerators := [.none, .local, .allMounted]
  code := FilesystemQuery.ctorIdx
  enumerators_code := by intro a; cases a <;> rfl

inductive SensorDevices where
  | all | excludeDisplay
  deriving DecidableEq, Inhabited

instance : CEnum SensorDevices where
  enumerators := [.all, .excludeDisplay]
  code := SensorDevices.ctorIdx
  enumerators_code := by intro a; cases a <;> rfl

structure CollectOptions where
  filesystems : FilesystemQuery := .local
  sensors : SensorDevices := .all
  deriving DecidableEq, Inhabited

/-- The collection domains as bits of a mask; any 32-bit value can occur as a flag set. -/
abbrev Collect := UInt32

namespace Collect

def platform : Collect := 1
def cpu : Collect := 2
def memory : Collect := 4
def accelerator : Collect := 8
def network : Collect := 16
def storage : Collect := 32
def pci : Collect := 64
def software : Collect := 128
def execution : Collect := 256
def raw : Collect := 512
def sensors : Collect := 1024
def storageHealth : Collect := 2048

/-- All domains. -/
def full : Collect :=
  platform ||| cpu ||| memory ||| accelerator ||| network ||| storage ||| pci ||| software |||
    execution ||| raw ||| sensors ||| storageHealth

end Collect

/-- Whether the mask contains one of the tested bits. -/
def has (flags test : Collect) : Bool := flags &&& test != 0

structure CollectionRequest where
  flags : Collect := Collect.full
  options : CollectOptions := {}
  deriving DecidableEq, Inhabited

/-- `CollectionRequest::validate` on the flags; the options are enumerators by their type. -/
def CollectionRequest.valid (r : CollectionRequest) : Bool := r.flags &&& ~~~Collect.full == 0

/-- What parsers and resolvers read of one raw record. -/
structure RawEvidence where
  source : RawSource
  pathOrCommand : Bytes
  payload : Bytes
  status : CollectStatus
  failure : Option ReadFailure := none
  skip : Option SkipReason := none
  deriving DecidableEq, Inhabited

/-- A raw record: the evidence and the time it was collected at, in nanoseconds. -/
structure RawRecord extends RawEvidence where
  collectedAt : Int64 := 0
  deriving DecidableEq, Inhabited

/-- The evidence of a store. -/
structure EvidenceStore where
  records : List RawEvidence := []
  enumerations : List InventoryEnumeration := []
  collectionRequest : Option CollectionRequest := none
  deriving DecidableEq, Inhabited

/-- Everything one collection gathered. -/
structure RawStore where
  records : List RawRecord := []
  enumerations : List InventoryEnumeration := []
  collectionRequest : Option CollectionRequest := none
  deriving DecidableEq, Inhabited

/-- A store without the time stamps of its records. -/
def RawStore.evidence (raw : RawStore) : EvidenceStore :=
  { records := raw.records.map RawRecord.toRawEvidence
    enumerations := raw.enumerations
    collectionRequest := raw.collectionRequest }

namespace EvidenceStore

/-- All records of a source. -/
def getAll (raw : EvidenceStore) (source : RawSource) : List RawEvidence :=
  raw.records.filter (·.source = source)

/-- The records of a source with a given path or command. -/
def get (raw : EvidenceStore) (source : RawSource) (pathOrCommand : Bytes) : List RawEvidence :=
  raw.records.filter fun r => r.source = source ∧ r.pathOrCommand = pathOrCommand

/-- Whether a source has a record. -/
def hasSource (raw : EvidenceStore) (source : RawSource) : Bool :=
  raw.records.any (·.source = source)

/-- Whether a source has a successful record. -/
def hasSuccess (raw : EvidenceStore) (source : RawSource) : Bool :=
  raw.records.any fun r => r.source = source ∧ r.status = .success

/-- The successful records of a source, in store order. -/
def successes (raw : EvidenceStore) (source : RawSource) : List RawEvidence :=
  (raw.getAll source).filter (·.status = .success)

/-- The unique enumeration of a kind; absent or repeated evidence is unknown. -/
def enumeration (raw : EvidenceStore) (inventory : InventoryKind) : Option InventoryEnumeration :=
  match raw.enumerations.filter (·.inventory = inventory) with
  | [entry] => some entry
  | _ => none

end EvidenceStore

end Sysal
