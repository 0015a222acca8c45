import Std.Data.TreeMap.Lemmas
import Sysal.Foundation.OrderedContainers
import Sysal.Foundation.JsonLibrary
import Sysal.Reader.FileUtils
import Sysal.Reader.ShellCommands

/-!
# Querying drive health

`storage_health.cpp` of the Linux reader: which drives there are, which block devices belong to them, and
what `smartctl` says of each.  The file system, the tools and the parser of the JSON library are
parameters.

* `verdict_status_iff`: what the exit bits of the tool make of a record;
* `drives_spec`: the drives that are asked, with which protocol, and the block devices of each.
-/

namespace Sysal.StorageHealthReader

open Sysal Std ShellCommands CommandReader FsPath

/-! ### One drive -/

/-- What is kept of the outcome of a query: a failure and a status. -/
structure Verdict where
  status : CollectStatus := .failed
  failure : Option ReadFailure
  deriving DecidableEq

/-- `smartctl` encodes findings about the device in the upper exit bits. -/
def exitVerdict (protocol : Bytes) (code : UInt8) : Verdict :=
  if protocol ≠ utf8 "nvme" ∧ code = 3 then { status := .notCollected, failure := some .lowPower }
  else if protocol = utf8 "ata" ∧ code = 5 then
    { status := .notCollected, failure := some .unsupported }
  else
    { status := if code &&& 7 = 0 then .success else if code &&& 3 ≠ 0 then .failed else .partial_
      failure := if code &&& 1 ≠ 0 then some .unsupported
        else if code &&& 7 = 0 then none else some .ioError }

section Query

variable (parse : Bytes → Option Json) (execute : Bytes → CommandResult)

/-- A text of the tool that says it was not permitted to ask. -/
def denied (result : CommandResult) : Bool :=
  Bytes.hasSub result.output (utf8 "Permission denied") ||
    Bytes.hasSub result.output (utf8 "Operation not permitted")

/-- What the exit of `smartctl` comes to: its bits count if it ended by itself, with a document. -/
def runVerdict (protocol : Bytes) (result : CommandResult) : Verdict :=
  match result.exitCode with
  | some code =>
      if (parse result.output).any Json.isObject ∧
          (result.status = .success ∨ result.status = .failed) then exitVerdict protocol code
      else { failure := commandFailure result }
  | none => { failure := commandFailure result }

/-- What a run of `smartctl` comes to. -/
def verdict (protocol : Bytes) (result : CommandResult) : Verdict :=
  if denied result then
    { runVerdict parse protocol result with failure := some .permissionDenied }
  else runVerdict parse protocol result

/-- The record of a run of `smartctl`. -/
def smartctlRecord (target protocol : Bytes) : RawEvidence :=
  let result := execute (smartctlCommand target protocol)
  let verdict := verdict parse protocol result
  { source := .smartctl
    pathOrCommand := utf8 "smartctl/" ++ target
    payload := result.output
    status := verdict.status
    failure := verdict.failure }

/-- The record of the fallback. -/
def nvmeRecord (target : Bytes) : RawEvidence :=
  let fallback := execute (nvmeSmartLogCommand target)
  { source := .nvmeSmartLog
    pathOrCommand := utf8 "nvme-smart-log/" ++ target
    payload := fallback.output
    status := if fallback.successful then .success else .failed
    failure := commandFailure fallback }

/-- `query`. -/
def query (target protocol : Bytes) : List RawEvidence :=
  let record := smartctlRecord parse execute target protocol
  if protocol = utf8 "nvme" ∧ record.failure = some .toolUnavailable then
    [record, nvmeRecord execute target]
  else [record]

/-! ### Exit bits -/

variable {parse}

/-- A run whose exit bits are about the device: the tool ended by itself, with a document. -/
structure Usable (parse : Bytes → Option Json) (result : CommandResult) (code : UInt8) (j : Json) :
    Prop where
  exit : result.exitCode = some code
  ended : result.status = .success ∨ result.status = .failed
  parsed : parse result.output = some j
  object : j.isObject

theorem Usable.unique {result : CommandResult} {code code' : UInt8} {j j' : Json}
    (h : Usable parse result code j) (h' : Usable parse result code' j') : code = code' ∧ j = j' :=
  ⟨Option.some.inj (h.exit.symm.trans h'.exit), Option.some.inj (h.parsed.symm.trans h'.parsed)⟩

/-- The exit codes of a drive that is asleep, or cannot be asked without waking it. -/
def Asleep (protocol : Bytes) (code : UInt8) : Prop :=
  protocol ≠ utf8 "nvme" ∧ code = 3 ∨ protocol = utf8 "ata" ∧ code = 5

theorem runVerdict_of_usable {result : CommandResult} {code : UInt8} {j : Json}
    (h : Usable parse result code j) (protocol : Bytes) :
    runVerdict parse protocol result = exitVerdict protocol code := by
  have hdocument : (parse result.output).any Json.isObject = true := by
    rw [h.parsed]
    exact h.object
  rw [runVerdict, h.exit]
  exact if_pos ⟨hdocument, h.ended⟩

theorem runVerdict_of_not {result : CommandResult} (h : ∀ code j, ¬Usable parse result code j)
    (protocol : Bytes) :
    runVerdict parse protocol result = { failure := commandFailure result } := by
  rw [runVerdict]
  cases hcode : result.exitCode with
  | none => rfl
  | some code =>
      refine if_neg ?_
      rintro ⟨hdocument, hended⟩
      obtain ⟨j, hparsed, hobject⟩ := (Option.any_eq_true _ _).mp hdocument
      exact h code j ⟨hcode, hended, hparsed, hobject⟩

theorem verdict_status (protocol : Bytes) (result : CommandResult) :
    (verdict parse protocol result).status = (runVerdict parse protocol result).status := by
  rw [verdict]
  split <;> rfl

/-- The bits of an exit code, and the two codes of a sleeping drive. -/
theorem exitVerdict_status (protocol : Bytes) (code : UInt8) :
    ((exitVerdict protocol code).status = .success ↔ code &&& 7 = 0) ∧
      ((exitVerdict protocol code).status = .partial_ ↔ code &&& 7 = 4) ∧
        ((exitVerdict protocol code).status = .notCollected ↔ Asleep protocol code) := by
  have hbits : ∀ n : Fin 256, UInt8.ofNat n &&& 7 ≠ 0 ∧ UInt8.ofNat n &&& 3 = 0 ↔
      UInt8.ofNat n &&& 7 = 4 := by decide +kernel
  have hcode : code &&& 7 ≠ 0 ∧ code &&& 3 = 0 ↔ code &&& 7 = 4 := by
    have hn := hbits ⟨code.toNat, code.toNat_lt⟩
    rwa [UInt8.ofNat_toNat] at hn
  rw [exitVerdict, Asleep]
  by_cases hthree : protocol ≠ utf8 "nvme" ∧ code = 3
  · obtain ⟨hprotocol, rfl⟩ := hthree
    have hlow : (3 : UInt8) &&& 7 ≠ 0 ∧ (3 : UInt8) &&& 7 ≠ 4 := by decide
    simp [hprotocol, hlow]
  · by_cases hfive : protocol = utf8 "ata" ∧ code = 5
    · obtain ⟨rfl, rfl⟩ := hfive
      have hlow : (5 : UInt8) ≠ 3 ∧ (5 : UInt8) &&& 7 ≠ 0 ∧ (5 : UInt8) &&& 7 ≠ 4 := by decide
      simp [hlow]
    · rw [if_neg hthree, if_neg hfive]
      dsimp only
      refine ⟨?_, ?_, ?_⟩
      · split_ifs with hzero hlow <;> simp [hzero]
      · split_ifs with hzero hlow
        · simp [hzero]
        · refine iff_of_false (fun h => by cases h) fun h => hlow (hcode.mpr h).2
        · exact iff_of_true rfl (hcode.mp ⟨hzero, not_not.mp hlow⟩)
      · refine iff_of_false ?_ (not_or.mpr ⟨hthree, hfive⟩)
        split_ifs <;> exact fun h => by cases h

/-- **The status of a run**: success and partial data need an object, and bits that do not say otherwise. -/
theorem verdict_status_iff (protocol : Bytes) (result : CommandResult) :
    ((verdict parse protocol result).status = .success ↔
        ∃ code j, Usable parse result code j ∧ code &&& 7 = 0) ∧
      ((verdict parse protocol result).status = .partial_ ↔
          ∃ code j, Usable parse result code j ∧ code &&& 7 = 4) ∧
        ((verdict parse protocol result).status = .notCollected ↔
          ∃ code j, Usable parse result code j ∧ Asleep protocol code) := by
  rw [verdict_status]
  by_cases husable : ∃ code j, Usable parse result code j
  · obtain ⟨code, j, h⟩ := husable
    have hone {p : UInt8 → Prop} : (∃ code j, Usable parse result code j ∧ p code) ↔ p code := by
      constructor
      · rintro ⟨code', j', h', hp⟩
        exact (h.unique h').1 ▸ hp
      · exact fun hp => ⟨code, j, h, hp⟩
    rw [runVerdict_of_usable h, hone, hone, hone]
    exact exitVerdict_status protocol code
  · have hnone : ∀ code j, ¬Usable parse result code j := fun code j h => husable ⟨code, j, h⟩
    have hno {p : UInt8 → Prop} : ¬∃ code j, Usable parse result code j ∧ p code := by
      rintro ⟨code, j, h, -⟩
      exact hnone code j h
    rw [runVerdict_of_not hnone]
    exact ⟨iff_of_false (fun h => by cases h) hno, iff_of_false (fun h => by cases h) hno,
      iff_of_false (fun h => by cases h) hno⟩

end Query

/-! ### The drives -/

def nvmeDirectory : Bytes := utf8 "/sys/class/nvme"
def blockDirectory : Bytes := utf8 "/sys/class/block"

section Drives

variable (tree : SysTree)

/-- The controllers by their canonical paths; the first of a path counts. -/
def controllers : List (Bytes × Bytes) :=
  (tree.entries nvmeDirectory).1.filterMap fun name =>
    if numbered name.bytes (utf8 "nvme") then
      (tree.canonical (append nvmeDirectory name.bytes)).toOption.map fun path => (path, name.bytes)
    else none

/-- The controller a path is at. -/
def controllerAt (path : Bytes) : Option Bytes :=
  ((controllers tree).find? fun entry => sameElements entry.1 path).map Prod.snd

/-- The nearest controller above a path, the path itself included; the number bounds the steps up to the
root. -/
def controllerAbove : ℕ → Bytes → Option Bytes
  | 0, _ => none
  | n + 1, parent => (controllerAt tree parent).or (controllerAbove n (parentPath parent))

/-- The type file of a disk: a zero between blanks. -/
def isDiskType (type : Bytes) : Bool :=
  type.all (fun c => c = 48 || c = 10 || c = 32 || c = 9) && (48 : UInt8) ∈ type

/-- What an entry of the block directory is. -/
inductive BlockEntry where
  | ignored
  /-- It belongs to a controller. -/
  | ofController (controller : Bytes)
  /-- A disk that cannot be asked. -/
  | unsupported
  | drive (protocol : Bytes)
  deriving DecidableEq

/-- A disk at a path that no controller is above. -/
def diskEntry (name : FileName) (path : Bytes) : BlockEntry :=
  if (elements path).any (numbered · (utf8 "usb")) ∨ name.bytes = [] ∨
      name.bytes.head? = some 45 then .unsupported
  else .drive (if (elements path).any (numbered · (utf8 "ata")) then utf8 "ata" else utf8 "scsi")

/-- One entry of the block directory. -/
def blockEntry (name : FileName) : BlockEntry :=
  let entry := append blockDirectory name.bytes
  match tree.existence (append entry (utf8 "partition")), tree.canonical entry with
  | .ok false, .ok path =>
      if Bytes.hasSub path (utf8 "/virtual/") then .ignored
      else
        match controllerAbove tree (relativeElements path).length path with
        | some controller => .ofController controller
        | none =>
            match tree.readFile (append entry (utf8 "device/type")) with
            | .error _ => .ignored
            | .ok type => if isDiskType type then diskEntry name path else .ignored
  | _, _ => .ignored

/-- `associate`. -/
def associate (name : FileName) (target : Bytes) : RawEvidence :=
  { source := .storageHealthSysfs
    pathOrCommand := append (append blockDirectory name.bytes) (utf8 "health_target")
    payload := target
    status := .success }

/-- The record of an entry of the block directory. -/
def blockRecord (name : FileName) : Option RawEvidence :=
  match blockEntry tree name with
  | .ignored => none
  | .ofController controller => some (associate name controller)
  | .unsupported =>
      some { associate name [] with status := .notCollected, failure := some .unsupported }
  | .drive _ => some (associate name name.bytes)

/-- The drive an entry of the block directory is, with its protocol. -/
def blockDrive (name : FileName) : Option (Bytes × Bytes) :=
  match blockEntry tree name with
  | .drive protocol => some (name.bytes, protocol)
  | _ => none

/-- The drives to be asked, with their protocols; the first entry of a name counts. -/
def targets : TreeMap Bytes Bytes compare :=
  (tree.entries blockDirectory).1.foldl (emplace (blockDrive tree))
    ((controllers tree).foldl (emplace fun entry => some (entry.2, utf8 "nvme")) ∅)

/-- The record of the protocol of a drive. -/
def protocolRecord (drive : Bytes × Bytes) : RawEvidence :=
  { source := .storageHealthSysfs
    pathOrCommand := utf8 "/dev/" ++ drive.1 ++ utf8 "/protocol"
    payload := drive.2
    status := .success }

/-- The records of a drive. -/
def driveRecords (parse : Bytes → Option Json) (execute : Bytes → CommandResult)
    (drive : Bytes × Bytes) : List RawEvidence :=
  protocolRecord drive :: query parse execute drive.1 drive.2

/-- The records of `read_storage_health`. -/
def healthRecords (parse : Bytes → Option Json) (execute : Bytes → CommandResult) :
    List RawEvidence :=
  directoryFailure .storageHealthSysfs nvmeDirectory (tree.entries nvmeDirectory).2 ++
    (tree.entries blockDirectory).1.filterMap (blockRecord tree) ++
    (match (tree.entries blockDirectory).2 with
      | some error =>
          [⟨.storageHealthSysfs, blockDirectory, [], .failed, some (fileFailure error), none⟩]
      | none => []) ++
    (targets tree).toList.flatMap (driveRecords parse execute) ++
    if (targets tree).isEmpty then
      [⟨.storageHealthSysfs, utf8 "storage-health", [], .notCollected, some .notPresent, none⟩]
    else []

/-- `read_storage_health`. -/
def readStorageHealth (parse : Bytes → Option Json) (execute : Bytes → CommandResult)
    (raw : EvidenceStore) : EvidenceStore :=
  { raw with records := raw.records ++ healthRecords tree parse execute }

/-! ### What the drives are -/

variable {tree}

theorem controllerName {entry : Bytes × Bytes} (h : entry ∈ controllers tree) :
    ∃ name ∈ (tree.entries nvmeDirectory).1, name.bytes = entry.2 ∧
      numbered name.bytes (utf8 "nvme") ∧
        tree.canonical (append nvmeDirectory name.bytes) = .ok entry.1 := by
  obtain ⟨name, hname, hentry⟩ := List.mem_filterMap.mp h
  split at hentry
  · rename_i hnumbered
    obtain ⟨path, hpath, rfl⟩ := Option.map_eq_some_iff.mp hentry
    refine ⟨name, hname, rfl, hnumbered, ?_⟩
    cases hcanonical : tree.canonical (append nvmeDirectory name.bytes) with
    | error error =>
        rw [hcanonical] at hpath
        cases hpath
    | ok found =>
        rw [hcanonical] at hpath
        rw [Option.some.inj hpath]
  · cases hentry

/-- A name of a controller. -/
def IsController (tree : SysTree) (name : Bytes) : Prop :=
  ∃ path, (path, name) ∈ controllers tree

theorem blockDrive_eq_some {name : FileName} {drive : Bytes × Bytes} :
    blockDrive tree name = some drive ↔
      name.bytes = drive.1 ∧ blockEntry tree name = .drive drive.2 := by
  rw [blockDrive]
  cases hentry : blockEntry tree name with
  | drive protocol =>
      rw [Option.some.injEq, BlockEntry.drive.injEq]
      constructor
      · rintro rfl
        exact ⟨rfl, rfl⟩
      · rintro ⟨hname, rfl⟩
        exact Prod.ext hname rfl
  | ignored => simp
  | ofController controller => simp
  | unsupported => simp

/-- What an entry is depends on its name. -/
theorem blockEntry_congr {name name' : FileName} (h : name.bytes = name'.bytes) :
    blockEntry tree name = blockEntry tree name' := by
  obtain ⟨bytes, _, _⟩ := name
  obtain ⟨bytes', _, _⟩ := name'
  obtain rfl : bytes = bytes' := h
  rfl

/-- **The drives that are asked**: the controllers, and the disks that are no controller by name. -/
theorem getElem?_targets {target protocol : Bytes} :
    (targets tree)[target]? = some protocol ↔
      IsController tree target ∧ protocol = utf8 "nvme" ∨
        ¬IsController tree target ∧ ∃ name ∈ (tree.entries blockDirectory).1, name.bytes = target ∧
          blockEntry tree name = .drive protocol := by
  have hcontroller (value : Bytes) :
      ((controllers tree).foldl (emplace fun entry => some (entry.2, utf8 "nvme")) ∅)[target]? =
        some value ↔ IsController tree target ∧ value = utf8 "nvme" := by
    rw [getElem?_foldl_emplace_eq_some fun _ _ _ _ c d hc hd =>
      (Prod.mk.inj (Option.some.inj hc)).2.symm.trans (Prod.mk.inj (Option.some.inj hd)).2]
    simp [IsController, eq_comm]
  have hnone : ((controllers tree).foldl (emplace fun entry => some (entry.2, utf8 "nvme")) ∅)[target]? =
      none ↔ ¬IsController tree target := by
    rw [← not_iff_not, not_not, ← ne_eq, Option.ne_none_iff_exists']
    simp [hcontroller]
  have hunique : ∀ x ∈ (tree.entries blockDirectory).1, ∀ y ∈ (tree.entries blockDirectory).1,
      ∀ c d, blockDrive tree x = some (target, c) → blockDrive tree y = some (target, d) → c = d := by
    intro x _ y _ c d hx hy
    rw [blockDrive_eq_some] at hx hy
    have hsame := @blockEntry_congr tree _ _ (hx.1.trans hy.1.symm)
    rw [hx.2, hy.2] at hsame
    exact BlockEntry.drive.inj hsame
  rw [targets, getElem?_foldl_emplace_eq_some hunique, hcontroller, hnone]
  simp only [blockDrive_eq_some]

/-- A protocol of a disk is one of two. -/
theorem protocol_of_blockEntry {name : FileName} {protocol : Bytes}
    (h : blockEntry tree name = .drive protocol) :
    protocol = utf8 "ata" ∨ protocol = utf8 "scsi" := by
  have hdisk {path : Bytes} (h : diskEntry name path = .drive protocol) :
      protocol = utf8 "ata" ∨ protocol = utf8 "scsi" := by
    rw [diskEntry] at h
    split at h
    · cases h
    · rw [← BlockEntry.drive.inj h]
      split
      · exact Or.inl rfl
      · exact Or.inr rfl
  rw [blockEntry] at h
  split at h
  · split at h
    · cases h
    · split at h
      · cases h
      · split at h
        · cases h
        · split at h
          · exact hdisk h
          · cases h
  · cases h

/-- The names of the drives are names of files, and their protocols are known. -/
theorem target_name {target protocol : Bytes} (h : (targets tree)[target]? = some protocol) :
    (target ≠ [] ∧ 47 ∉ target) ∧ protocol ∈ protocols := by
  rcases getElem?_targets.mp h with ⟨⟨path, hpath⟩, rfl⟩ | ⟨-, name, -, rfl, hentry⟩
  · obtain ⟨name, -, hname, -⟩ := controllerName hpath
    obtain rfl : name.bytes = target := hname
    exact ⟨⟨name.nonempty, name.single⟩, by simp [protocols]⟩
  · refine ⟨⟨name.nonempty, name.single⟩, ?_⟩
    rcases protocol_of_blockEntry hentry with rfl | rfl
    · simp [protocols]
    · simp [protocols]

/-! ### Drives and their devices -/

/-- The drives in the order they are asked. -/
def drives (tree : SysTree) : List (Bytes × Bytes) := (targets tree).toList

theorem mem_drives {drive : Bytes × Bytes} :
    drive ∈ drives tree ↔ (targets tree)[drive.1]? = some drive.2 :=
  TreeMap.mem_toList_iff_getElem?_eq_some

/-- The drive an entry of the block directory is tied to. -/
def blockTarget (tree : SysTree) (name : FileName) : Option Bytes :=
  match blockEntry tree name with
  | .ofController controller => some controller
  | .drive _ => some name.bytes
  | .ignored | .unsupported => none

/-- The block devices of a drive, in the order of the directory. -/
def tiedDevices (tree : SysTree) (target : Bytes) : List Bytes :=
  ((tree.entries blockDirectory).1.filter fun name =>
    (blockTarget tree name).map trim = some target).map (·.bytes)

/-- A block device that is a whole disk, at a path of the device tree. -/
structure Whole (tree : SysTree) (name : FileName) (path : Bytes) : Prop where
  unpartitioned : tree.existence (append (append blockDirectory name.bytes) (utf8 "partition")) =
    .ok false
  canonical : tree.canonical (append blockDirectory name.bytes) = .ok path
  real : Bytes.hasSub path (utf8 "/virtual/") = false

/-- The first controller on the way from a path to the root. -/
def NearestController (tree : SysTree) (path controller : Bytes) : Prop :=
  ∃ n < (relativeElements path).length, controllerAt tree (parentPath^[n] path) = some controller ∧
    ∀ m < n, controllerAt tree (parentPath^[m] path) = none

/-- A disk that can be asked by its own name. -/
structure Askable (tree : SysTree) (name : FileName) (path : Bytes) : Prop where
  type : ∃ type, tree.readFile (append (append blockDirectory name.bytes) (utf8 "device/type")) =
    .ok type ∧ isDiskType type
  no_usb : ¬(elements path).any (numbered · (utf8 "usb"))
  no_option : name.bytes.head? ≠ some 45

theorem controllerAbove_eq_some {n : ℕ} {path controller : Bytes} :
    controllerAbove tree n path = some controller ↔
      ∃ k < n, controllerAt tree (parentPath^[k] path) = some controller ∧
        ∀ m < k, controllerAt tree (parentPath^[m] path) = none := by
  induction n generalizing path with
  | zero => simp [controllerAbove]
  | succ n ih =>
      rw [controllerAbove]
      cases hhere : controllerAt tree path with
      | some found =>
          rw [Option.some_or]
          constructor
          · intro h
            exact ⟨0, Nat.succ_pos n, hhere.trans h, fun m hm => absurd hm (Nat.not_lt_zero m)⟩
          · rintro ⟨k, -, hk, hbefore⟩
            cases k with
            | zero => exact hhere.symm.trans hk
            | succ k => cases hhere.symm.trans (hbefore 0 (Nat.succ_pos k))
      | none =>
          rw [Option.none_or, ih]
          constructor
          · rintro ⟨k, hk, hfound, hbefore⟩
            refine ⟨k + 1, Nat.succ_lt_succ hk, hfound, fun m hm => ?_⟩
            cases m with
            | zero => exact hhere
            | succ m => exact hbefore m (Nat.lt_of_succ_lt_succ hm)
          · rintro ⟨k, hk, hfound, hbefore⟩
            cases k with
            | zero => cases hhere.symm.trans hfound
            | succ k =>
                exact ⟨k, Nat.lt_of_succ_lt_succ hk, hfound,
                  fun m hm => hbefore (m + 1) (Nat.succ_lt_succ hm)⟩

theorem nearestController_iff {path controller : Bytes} :
    NearestController tree path controller ↔
      controllerAbove tree (relativeElements path).length path = some controller :=
  controllerAbove_eq_some.symm

theorem diskEntry_eq_drive {name : FileName} {path protocol : Bytes} :
    diskEntry name path = .drive protocol ↔
      (¬(elements path).any (numbered · (utf8 "usb")) ∧ name.bytes.head? ≠ some 45) ∧
        protocol = if (elements path).any (numbered · (utf8 "ata")) then utf8 "ata"
          else utf8 "scsi" := by
  rw [diskEntry]
  by_cases h : (elements path).any (numbered · (utf8 "usb")) ∨ name.bytes = [] ∨
      name.bytes.head? = some 45
  · rw [if_pos h]
    refine iff_of_false (fun h => by cases h) ?_
    rintro ⟨⟨husb, hhead⟩, -⟩
    rcases h with h | h | h
    · exact husb h
    · exact name.nonempty h
    · exact hhead h
  · rw [if_neg h, BlockEntry.drive.injEq]
    rw [not_or, not_or] at h
    exact ⟨fun heq => ⟨⟨h.1, h.2.2⟩, heq.symm⟩, fun heq => heq.2.symm⟩

/-- **What a drive of its own is**: a whole disk without a controller above it that can be asked. -/
theorem blockEntry_eq_drive {name : FileName} {protocol : Bytes} :
    blockEntry tree name = .drive protocol ↔
      ∃ path, Whole tree name path ∧ (∀ controller, ¬NearestController tree path controller) ∧
        Askable tree name path ∧
          protocol = if (elements path).any (numbered · (utf8 "ata")) then utf8 "ata"
            else utf8 "scsi" := by
  simp only [nearestController_iff]
  constructor
  · intro h
    rw [blockEntry] at h
    split at h
    · rename_i path hpartition hpath
      split at h
      · cases h
      · rename_i hreal
        split at h
        · cases h
        · rename_i hnone
          split at h
          · cases h
          · rename_i type htype
            split at h
            · rename_i hdisk
              obtain ⟨⟨husb, hhead⟩, hprotocol⟩ := diskEntry_eq_drive.mp h
              exact ⟨path, ⟨hpartition, hpath, Bool.eq_false_iff.mpr hreal⟩, by simp [hnone],
                ⟨⟨type, htype, hdisk⟩, husb, hhead⟩, hprotocol⟩
            · cases h
    · cases h
  · rintro ⟨path, ⟨hpartition, hpath, hreal⟩, hnone, ⟨⟨type, htype, hdisk⟩, husb, hhead⟩, hprotocol⟩
    have hno : controllerAbove tree (relativeElements path).length path = none :=
      Option.eq_none_iff_forall_ne_some.mpr hnone
    simp only [blockEntry, hpartition, hpath, hreal, Bool.false_eq_true, if_false, hno, htype, hdisk,
      if_true]
    exact diskEntry_eq_drive.mpr ⟨⟨husb, hhead⟩, hprotocol⟩

/-- **What belongs to a controller**: a whole disk that has it as the nearest one. -/
theorem blockEntry_eq_ofController {name : FileName} {controller : Bytes} :
    blockEntry tree name = .ofController controller ↔
      ∃ path, Whole tree name path ∧ NearestController tree path controller := by
  simp only [nearestController_iff]
  constructor
  · intro h
    rw [blockEntry] at h
    split at h
    · rename_i path hpartition hpath
      split at h
      · cases h
      · rename_i hreal
        split at h
        · rename_i found hfound
          obtain rfl := BlockEntry.ofController.inj h
          exact ⟨path, ⟨hpartition, hpath, Bool.eq_false_iff.mpr hreal⟩, hfound⟩
        · split at h
          · cases h
          · split at h
            · rw [diskEntry] at h
              split at h <;> cases h
            · cases h
    · cases h
  · rintro ⟨path, ⟨hpartition, hpath, hreal⟩, hfound⟩
    simp only [blockEntry, hpartition, hpath, hreal, Bool.false_eq_true, if_false, hfound]

theorem blockTarget_eq_some {name : FileName} {target : Bytes} :
    blockTarget tree name = some target ↔
      ∃ path, Whole tree name path ∧ (NearestController tree path target ∨
        (∀ controller, ¬NearestController tree path controller) ∧ Askable tree name path ∧
          name.bytes = target) := by
  have hcases : blockTarget tree name = some target ↔
      blockEntry tree name = .ofController target ∨
        (∃ protocol, blockEntry tree name = .drive protocol) ∧ name.bytes = target := by
    rw [blockTarget]
    cases blockEntry tree name <;> simp
  rw [hcases, blockEntry_eq_ofController]
  simp only [blockEntry_eq_drive]
  constructor
  · rintro (⟨path, hwhole, hnearest⟩ | ⟨⟨protocol, path, hwhole, hnone, hask, -⟩, hname⟩)
    · exact ⟨path, hwhole, Or.inl hnearest⟩
    · exact ⟨path, hwhole, Or.inr ⟨hnone, hask, hname⟩⟩
  · rintro ⟨path, hwhole, hnearest | ⟨hnone, hask, hname⟩⟩
    · exact Or.inl ⟨path, hwhole, hnearest⟩
    · exact Or.inr ⟨⟨_, path, hwhole, hnone, hask, rfl⟩, hname⟩

theorem controllerAt_eq_some {path controller : Bytes} (h : controllerAt tree path = some controller) :
    IsController tree controller := by
  obtain ⟨entry, hentry, rfl⟩ := Option.map_eq_some_iff.mp h
  exact ⟨entry.1, List.mem_of_find?_eq_some hentry⟩

/-- **Which drives are asked and which block devices are theirs.** -/
structure DrivesSpec (tree : SysTree) : Prop where
  /-- Every drive is asked once, in the order of the names. -/
  increasing : (drives tree).Pairwise fun a b => compare a.1 b.1 = .lt
  /-- A drive is a controller, or a disk of its own. -/
  asked : ∀ drive, drive ∈ drives tree ↔
    IsController tree drive.1 ∧ drive.2 = utf8 "nvme" ∨
      ¬IsController tree drive.1 ∧ ∃ name ∈ (tree.entries blockDirectory).1, name.bytes = drive.1 ∧
        ∃ path, Whole tree name path ∧ (∀ controller, ¬NearestController tree path controller) ∧
          Askable tree name path ∧
            drive.2 = if (elements path).any (numbered · (utf8 "ata")) then utf8 "ata"
              else utf8 "scsi"
  /-- A block device is tied to the controller above it, or to itself. -/
  tied : ∀ name target, blockTarget tree name = some target ↔
    ∃ path, Whole tree name path ∧ (NearestController tree path target ∨
      (∀ controller, ¬NearestController tree path controller) ∧ Askable tree name path ∧
        name.bytes = target)
  /-- No block device is tied to a drive that is not asked. -/
  covered : ∀ name ∈ (tree.entries blockDirectory).1, ∀ target, blockTarget tree name = some target →
    ∃ protocol, (target, protocol) ∈ drives tree

theorem drives_spec (tree : SysTree) : DrivesSpec tree where
  increasing := TreeMap.ordered_keys_toList
  asked := fun drive => by
    rw [mem_drives, getElem?_targets]
    simp only [blockEntry_eq_drive]
  tied := fun _ _ => blockTarget_eq_some
  covered := by
    intro name hname target htarget
    simp only [mem_drives, getElem?_targets]
    by_cases his : IsController tree target
    · exact ⟨_, Or.inl ⟨his, rfl⟩⟩
    · obtain ⟨path, hwhole, ⟨n, -, hat, -⟩ | ⟨hnone, hask, rfl⟩⟩ := blockTarget_eq_some.mp htarget
      · exact absurd (controllerAt_eq_some hat) his
      · exact ⟨_, Or.inr ⟨his, name, hname, rfl,
          blockEntry_eq_drive.mpr ⟨path, hwhole, hnone, hask, rfl⟩⟩⟩

end Drives

end Sysal.StorageHealthReader
