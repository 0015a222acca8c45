import Sysal.Foundation.FsPath
import Sysal.Model.RawStore

/-!
# Reading control group limits

`cgroup.cpp` of the readers: the mounted hierarchies of `/proc/self/mountinfo` are matched with the
memberships of `/proc/self/cgroup`, and the limit files of every accepted pair are read from the
control group of the process up to the mount point.

The files are a function of their paths: the tree does not change while it is read.
-/

namespace Sysal

/-- A directory tree as the readers see it: the contents of the files that can be read, and whether a
path exists, unless that cannot be told. -/
structure FileTree where
  read : Bytes → Option Bytes
  existence : Bytes → Option Bool

namespace CgroupReader

open FsPath

/-! ### Texts -/

/-- Every occurrence of a pattern replaced by one byte, left to right; the number counts the bytes of
the last occurrence that are still to be skipped. -/
def replaceFrom (pat : Bytes) (decoded : UInt8) : ℕ → Bytes → Bytes
  | _, [] => []
  | skip + 1, _ :: s => replaceFrom pat decoded skip s
  | 0, c :: s =>
      if pat.isPrefixOf (c :: s) then decoded :: replaceFrom pat decoded (pat.length - 1) s
      else c :: replaceFrom pat decoded 0 s

/-- `unescape`: blanks, tabulators and backslashes, one after the other. -/
def unescape (value : Bytes) : Bytes :=
  [(utf8 "\\040", 32), (utf8 "\\011", 9), (utf8 "\\134", 92)].foldl
    (fun value (escaped, decoded) => replaceFrom escaped decoded 0 value) value

example : unescape (utf8 "/a\\040b\\134040") = utf8 "/a b\\040" := by decide

/-- `contains_controller`. -/
def containsController (list name : Bytes) : Bool :=
  Bytes.hasSub ([44] ++ list ++ [44]) ([44] ++ name ++ [44])

/-! ### Hierarchies -/

/-- A mounted hierarchy the process is in: the mount point, the path of its control group below it, and
the files that are read at every level. -/
structure Hierarchy where
  mount : Bytes
  relative : Bytes
  names : List Bytes
  deriving DecidableEq

/-- The control group of the process. -/
def Hierarchy.leaf (h : Hierarchy) : Bytes := lexicallyNormal (append h.mount h.relative)

/-- The files of a hierarchy: all of the unified one, else those of the controllers that both the
membership and the mount have. -/
def hierarchyNames (unified : Bool) (controllers options : Bytes) : List Bytes :=
  if unified then
    [utf8 "cpu.max", utf8 "memory.max", utf8 "memory.current", utf8 "cpuset.cpus.effective",
     utf8 "cpuset.mems.effective"]
  else
    let both (name : Bytes) : Bool := containsController controllers name && containsController options name
    (if both (utf8 "cpu") then [utf8 "cpu.cfs_quota_us", utf8 "cpu.cfs_period_us"] else []) ++
    (if both (utf8 "memory") then [utf8 "memory.limit_in_bytes", utf8 "memory.usage_in_bytes"]
      else []) ++
    (if both (utf8 "cpuset") then [utf8 "cpuset.cpus", utf8 "cpuset.mems"] else [])

/-- One membership, if it is accepted for a mount: its control group must lie under the root of the
mount, or be the root of a namespace. -/
def acceptMembership (root mount fsType options group : Bytes) : Option Hierarchy := do
  let (_, rest) ← Bytes.cut group 58
  let (controllers, groupPath) ← Bytes.cut rest 58
  let unified : Bool := fsType = utf8 "cgroup2"
  if unified ≠ controllers.isEmpty then none
  else
    let names := hierarchyNames unified controllers options
    if names = [] then none
    else
      let path := lexicallyNormal groupPath
      let relative := if elements path = [[47]] then [] else lexicallyRelative path root
      if relative ≠ [] ∧ (elements relative).head? = some dotDot then none
      else if relative = [] ∧ elements path ≠ [[47]] ∧ ¬sameElements path root then none
      else some { mount, relative, names }

/-- The hierarchies of one line of the mount table. -/
def mountHierarchies (membership line : Bytes) : List Hierarchy :=
  match Bytes.cutSub line (utf8 " - ") with
  | none => []
  | some (left, right) =>
      match words left, words right with
      | _ :: _ :: _ :: root :: mount :: _, fsType :: _ :: options :: _ =>
          if fsType = utf8 "cgroup" ∨ fsType = utf8 "cgroup2" then
            (split membership 10).filterMap
              (acceptMembership (lexicallyNormal (unescape root)) (lexicallyNormal (unescape mount))
                fsType options)
          else []
      | _, _ => []

/-- All hierarchies, in the order they are read. -/
def hierarchies (mountinfo membership : Bytes) : List Hierarchy :=
  (split mountinfo 10).flatMap (mountHierarchies membership)

/-! ### The walk -/

/-- The levels of a hierarchy, from the control group of the process up to the mount point, or to a
path without a parent; a flag marks the first. -/
def walk (mount : Bytes) : ℕ → Bool → Bytes → Option (List (Bool × Bytes))
  | 0, _, _ => none
  | fuel + 1, current, leaf =>
      if sameElements leaf mount then some [(current, leaf)]
      else
        let parent := parentPath leaf
        if sameElements parent leaf then some [(current, leaf)]
        else (walk mount fuel false parent).map fun levels => (current, leaf) :: levels

/-- A bound on the levels. -/
def walkBound (leaf : Bytes) : ℕ := (relativeElements leaf).length + 1

/-- The record of one file of a level; a memory limit above a directory without hierarchical accounting,
and a usage above the leaf, are not read. -/
def readLimitFile (tree : FileTree) (mount : Bytes) (current : Bool) (leaf name : Bytes) :
    Option RawEvidence :=
  if ¬current ∧ name = utf8 "memory.limit_in_bytes" ∧
      (tree.read (append leaf (utf8 "memory.use_hierarchy"))).any (Bytes.startsWith · (utf8 "0")) then
    none
  else if ¬current ∧ (name = utf8 "memory.current" ∨ name = utf8 "memory.usage_in_bytes") then none
  else
    let path := append leaf name
    match tree.read path with
    | some payload => some ⟨.cgroupFile, path, payload, .success, none, none⟩
    | none =>
        -- the root of the unified hierarchy has no quota files
        if ¬current ∧ sameElements leaf mount ∧ tree.existence path = some false then
          some ⟨.cgroupFile, path, [], .notCollected, none, none⟩
        else some ⟨.cgroupFile, path, [], .failed, none, none⟩

/-- `read_hierarchy`: the records of all files of all levels. -/
def readHierarchy (tree : FileTree) (mount leaf : Bytes) (names : List Bytes) : List RawEvidence :=
  ((walk mount (walkBound leaf) true leaf).getD []).flatMap fun level =>
    names.filterMap (readLimitFile tree mount level.1 level.2)

/-- The records of one hierarchy. -/
def Hierarchy.records (tree : FileTree) (h : Hierarchy) : List RawEvidence :=
  readHierarchy tree h.mount h.leaf h.names

end CgroupReader

open CgroupReader

/-- `read_cgroup_limits`: the records it adds. -/
def readCgroupLimits (tree : FileTree) : List RawEvidence :=
  match tree.read (utf8 "/proc/self/mountinfo"), tree.read (utf8 "/proc/self/cgroup") with
  | some mounts, some membership =>
      ⟨.cgroupMountInfo, utf8 "/proc/self/mountinfo", mounts, .success, none, none⟩ ::
        (hierarchies mounts membership).flatMap (·.records tree)
  | _, _ => []

end Sysal
