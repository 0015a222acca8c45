import Sysal.Foundation.FsPath
import Sysal.Model.RawStore
import Sysal.Reader.Command

/-!
# Files and commands of the readers

`file_utils.hpp`: what a reader sees of the file system, how what goes wrong is classified, and the records
that several readers add alike.

* `OfSources`: the records of a reader are of few sources.
-/

namespace Sysal

/-- A name in a directory. -/
structure FileName where
  bytes : Bytes
  nonempty : bytes ≠ []
  single : 47 ∉ bytes
  deriving DecidableEq

/-- The file system as the readers see it; what fails has the number of an error. -/
structure SysTree where
  /-- `directory_entries`: the names that were read, and the error that ended the enumeration. -/
  entries : Bytes → List FileName × Option ℕ
  canonical : Bytes → Except ℕ Bytes
  /-- `exists`, where that can be told. -/
  existence : Bytes → Except ℕ Bool
  isDirectory : Bytes → Except ℕ Bool
  isSymlink : Bytes → Except ℕ Bool
  readFile : Bytes → Except ℕ Bytes
  readSymlink : Bytes → Except ℕ Bytes

/-- `file_failure`, with the numbers of Linux. -/
def fileFailure (error : ℕ) : ReadFailure :=
  if error = 13 ∨ error = 1 then .permissionDenied
  else if error = 2 ∨ error = 20 then .notPresent
  else if error = 95 ∨ error = 19 ∨ error = 6 ∨ error = 22 then .unsupported
  else .ioError

/-- `command_failure`. -/
def commandFailure (result : CommandReader.CommandResult) : Option ReadFailure :=
  if result.status = .timedOut then some .timedOut
  else if result.exitCode = some 127 then some .toolUnavailable
  else if Bytes.hasSub result.error (utf8 "Operation not permitted") ∨
      Bytes.hasSub result.error (utf8 "Permission denied") then some .permissionDenied
  else if Bytes.hasSub result.error (utf8 "not supported") then some .unsupported
  else if result.successful then none else some .ioError

/-- `numbered`: a prefix and a number. -/
def numbered (name pat : Bytes) : Bool :=
  Bytes.startsWith name pat && name.length > pat.length && (name.drop pat.length).all isDigit

/-! ### Records -/

section Records

variable (tree : SysTree) (source : RawSource)

/-- `read_file_record`. -/
def readFileRecord (path : Bytes) : RawEvidence :=
  match tree.readFile path with
  | .ok content => ⟨source, path, content, .success, none, none⟩
  | .error error => ⟨source, path, [], .failed, some (fileFailure error), none⟩

/-- The files of a directory. -/
def readFields (directory : Bytes) (fields : List String) : List RawEvidence :=
  fields.map fun field => readFileRecord tree source (FsPath.append directory (utf8 field))

/-- The record of a path that was asked for; a failure leaves it empty. -/
def answerRecord (path : Bytes) : Except ℕ Bytes → RawEvidence
  | .ok target => ⟨source, path, target, .success, none, none⟩
  | .error error => ⟨source, path, [], .failed, some (fileFailure error), none⟩

/-- `directory_entry_is_directory`, with the record of a failure. -/
def entryIsDirectory (path : Bytes) : Bool × List RawEvidence :=
  match tree.isDirectory path with
  | .ok directory => (directory, [])
  | .error error => (false, [⟨source, path, [], .failed, some (fileFailure error), none⟩])

/-- `path_exists`, with the record of a failure. -/
def pathExists (path : Bytes) : Option Bool × List RawEvidence :=
  match tree.existence path with
  | .ok present => (some present, [])
  | .error error => (none, [⟨source, path, [], .failed, some (fileFailure error), none⟩])

/-- The enumeration `inventory_entries` keeps; without a prefix every name counts. -/
def inventoryEnumeration (inventory : InventoryKind) (path pat : Bytes) : InventoryEnumeration :=
  let (names, error) := tree.entries path
  { inventory := inventory
    source := source
    origin := path
    entries := (names.map (·.bytes)).filter fun name => pat = [] || numbered name pat
    status := if error = none then .success else if names = [] then .failed else .partial_
    failure := error.map fileFailure }

end Records

/-- `record_directory_failure`. -/
def directoryFailure (source : RawSource) (path : Bytes) (error : Option ℕ) : List RawEvidence :=
  match error with
  | some error => [⟨source, path, [], .partial_, some (fileFailure error), none⟩]
  | none => []

/-! ### Sources -/

/-- Records of few sources. -/
def OfSources (sources : List RawSource) (records : List RawEvidence) : Prop :=
  ∀ record ∈ records, record.source ∈ sources

section OfSources

variable {sources : List RawSource} {records records' : List RawEvidence} {record : RawEvidence}

theorem OfSources.nil : OfSources sources [] := fun _ h => absurd h List.not_mem_nil

theorem OfSources.cons (h : record.source ∈ sources) (hrest : OfSources sources records) :
    OfSources sources (record :: records) := List.forall_mem_cons.mpr ⟨h, hrest⟩

theorem OfSources.append (h : OfSources sources records) (h' : OfSources sources records') :
    OfSources sources (records ++ records') := List.forall_mem_append.mpr ⟨h, h'⟩

theorem OfSources.flatMap {α : Type*} {l : List α} {f : α → List RawEvidence}
    (h : ∀ a ∈ l, OfSources sources (f a)) : OfSources sources (l.flatMap f) := by
  intro record hrecord
  obtain ⟨a, ha, hmem⟩ := List.mem_flatMap.mp hrecord
  exact h a ha record hmem

theorem OfSources.map {α : Type*} {l : List α} {f : α → RawEvidence}
    (h : ∀ a ∈ l, (f a).source ∈ sources) : OfSources sources (l.map f) := List.forall_mem_map.mpr h

theorem OfSources.mono {sources' : List RawSource} (h : OfSources sources records)
    (hsub : sources ⊆ sources') : OfSources sources' records := fun record hrecord =>
  hsub (h record hrecord)

theorem OfSources.ite {c : Prop} [Decidable c] (h : OfSources sources records)
    (h' : OfSources sources records') : OfSources sources (if c then records else records') := by
  split
  · exact h
  · exact h'

variable (tree : SysTree) {source : RawSource} (hsource : source ∈ sources)
include hsource

theorem readFileRecord_source (path : Bytes) : (readFileRecord tree source path).source ∈ sources := by
  rw [readFileRecord]
  split <;> exact hsource

theorem ofSources_readFields (directory : Bytes) (fields : List String) :
    OfSources sources (readFields tree source directory fields) :=
  .map fun _ _ => readFileRecord_source tree hsource _

omit tree in
theorem answerRecord_source (path : Bytes) (answer : Except ℕ Bytes) :
    (answerRecord source path answer).source ∈ sources := by
  cases answer <;> exact hsource

theorem ofSources_entryIsDirectory (path : Bytes) :
    OfSources sources (entryIsDirectory tree source path).2 := by
  rw [entryIsDirectory]
  split
  · exact .nil
  · exact .cons hsource .nil

theorem ofSources_pathExists (path : Bytes) : OfSources sources (pathExists tree source path).2 := by
  rw [pathExists]
  split
  · exact .nil
  · exact .cons hsource .nil

omit tree in
theorem ofSources_directoryFailure (path : Bytes) (error : Option ℕ) :
    OfSources sources (directoryFailure source path error) := by
  cases error
  · exact .nil
  · exact .cons hsource .nil

end OfSources

end Sysal
