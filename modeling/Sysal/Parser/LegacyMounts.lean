import Mathlib.Data.List.Forall2
import Sysal.Foundation.Grouping
import Sysal.Parser.BlockDevices

/-!
# Mounts from `df`

`storage_compatibility.cpp`: without a mount table, the lines of `df -Th` give a device its mount point.
A line counts for a device when it names it, or when `is_partition_of` takes its name for one of a
partition; that test looks at one or two bytes behind the name of the device.

* `isPartitionOf_of_isPartition`: every partition passes the test;
* `isPartitionOf_iff`: what else passes it;
* `foldl_mergeMount`: which of the lines is taken;
* `legacyMounts_iff`: the lines of a device are its own and those of its partitions exactly when what
  passes the test by mistake is never the line that is taken.
-/

namespace Sysal.StorageParser

open Sysal

/-! ### Lines of `df` -/

/-- `is_partition_of`. -/
def isPartitionOf (devName dfName : Bytes) : Bool :=
  if dfName.length ≤ devName.length || !Bytes.startsWith dfName devName then false
  else
    match dfName.drop devName.length with
    | [] => false
    | [c] => isDigit c
    | c :: d :: _ => isDigit c || (c == 112 && isDigit d)

/-- A line of `df -Th`. -/
structure DfLine where
  name : Bytes
  mount : Bytes
  type : Bytes
  deriving DecidableEq

/-- The fields of a trimmed line. -/
def dfFields (trimmed : Bytes) : List Bytes := ((split trimmed 32).map trim).filter (· ≠ [])

/-- The mount point: the fields from the seventh on. -/
def dfMountPoint (fields : List Bytes) : Bytes :=
  fields.foldl (fun mount field => (if mount = [] then mount else mount ++ [32]) ++ field) []

/-- A line: nothing for one that is passed over, a warning for one that is too short. -/
def parseDfLine (line : Bytes) : Option (Except Bytes DfLine) :=
  let trimmed := trim line
  if trimmed = [] || Bytes.startsWith trimmed (utf8 "Filesystem") then none
  else
    match dfFields trimmed with
    | fs :: type :: _ :: _ :: _ :: _ :: mount :: rest =>
        some (.ok
          { name := if Bytes.startsWith fs (utf8 "/dev/") then fs.drop 5 else fs
            mount := dfMountPoint (mount :: rest)
            type := type })
    | _ => some (.error (utf8 "parse_storage: df -Th 行字段不足 7 个: " ++ trimmed))

example : parseDfLine (utf8 "/dev/sda2  ext4  1.8T  1.2T  527G  70%  /mnt a") =
    some (.ok ⟨utf8 "sda2", utf8 "/mnt a", utf8 "ext4"⟩) := by decide +kernel

/-- The lines of the output of `df`. -/
def dfOutput (raw : EvidenceStore) : List Bytes :=
  (raw.successes .dfTh).flatMap fun record => split record.payload 10

/-- Mount point and type by name. -/
abbrev DfMap := Std.TreeMap Bytes (Bytes × Bytes) compare

/-- One line, with the map and the warnings so far. -/
def scanDfLine (s : DfMap × List Bytes) (line : Bytes) : DfMap × List Bytes :=
  match parseDfLine line with
  | none => s
  | some (.error warning) => (s.1, s.2 ++ [warning])
  | some (.ok l) => (s.1.insert l.name (l.mount, l.type), s.2)

/-! ### Devices -/

/-- A device with a mount point. -/
def setMount (dev : StorageDevice) (info : Bytes × Bytes) : StorageDevice :=
  { dev with mountPoint := some info.1, fsType := some info.2 }

/-- One entry of the map and a device it does not name. -/
def mergeMount (dev : StorageDevice) (entry : Bytes × Bytes × Bytes) : StorageDevice :=
  if isPartitionOf dev.name entry.1 && (dev.mountPoint.isNone || entry.2.1 == utf8 "/") then
    setMount dev entry.2
  else dev

/-- A device: its own entry, or one of its partitions. -/
def legacyMount (df : DfMap) (dev : StorageDevice) : StorageDevice :=
  match df[dev.name]? with
  | some info => setMount dev info
  | none => df.toList.foldl mergeMount dev

/-- `apply_legacy_storage_mounts`. -/
def applyLegacyStorageMounts (storage : Storage) (raw : EvidenceStore) (warnings : List Bytes) :
    Storage × List Bytes :=
  if raw.hasSuccess .storageMountInfo then (storage, warnings)
  else
    let df := (dfOutput raw).foldl scanDfLine (∅, warnings)
    ({ storage with devices := storage.devices.map (legacyMount df.1) }, df.2)

/-! ### Partitions -/

/-- The rule for names: a number behind the name of the device, after `p` if that ends in a digit. -/
def IsPartition (devName dfName : Bytes) : Prop :=
  ∃ digits : Bytes, digits ≠ [] ∧ digits.all isDigit = true ∧
    dfName = devName ++ if devName.getLast?.any isDigit then 112 :: digits else digits

/-- What the test looks at. -/
theorem isPartitionOf_iff {devName dfName : Bytes} :
    isPartitionOf devName dfName = true ↔
      ∃ c rest, dfName = devName ++ c :: rest ∧
        (isDigit c = true ∨ c = 112 ∧ ∃ d, rest.head? = some d ∧ isDigit d = true) := by
  rw [isPartitionOf]
  by_cases hlead : devName <+: dfName
  · obtain ⟨suffix, rfl⟩ := hlead
    have hstarts : Bytes.startsWith (devName ++ suffix) devName = true :=
      List.isPrefixOf_iff_prefix.mpr (List.prefix_append devName suffix)
    rw [hstarts, List.drop_left]
    simp only [List.append_cancel_left_eq]
    cases suffix with
    | nil => simp
    | cons c rest =>
        have hlong : ¬(devName ++ c :: rest).length ≤ devName.length := by simp
        simp only [hlong, decide_false, Bool.not_true, Bool.or_self, Bool.false_eq_true, if_false,
          List.cons.injEq]
        cases rest with
        | nil => simp
        | cons d rest => simp
  · have hstarts : Bytes.startsWith dfName devName = false := by
      rw [← Bool.not_eq_true]
      exact fun h => hlead (List.isPrefixOf_iff_prefix.mp h)
    rw [hstarts, if_pos (by simp)]
    refine iff_of_false (by simp) ?_
    rintro ⟨c, rest, rfl, -⟩
    exact hlead (List.prefix_append devName _)

/-- The test misses no partition. -/
theorem isPartitionOf_of_isPartition {devName dfName : Bytes} (h : IsPartition devName dfName) :
    isPartitionOf devName dfName = true := by
  obtain ⟨digits, hne, hall, rfl⟩ := h
  obtain ⟨c, digits, rfl⟩ := List.exists_cons_of_ne_nil hne
  rw [List.all_cons, Bool.and_eq_true] at hall
  refine isPartitionOf_iff.mpr ?_
  split
  · exact ⟨112, c :: digits, rfl, Or.inr ⟨rfl, c, rfl, hall.1⟩⟩
  · exact ⟨c, digits, rfl, Or.inl hall.1⟩

/-! ### The map -/

/-- The line a text is read as, if it is. -/
def dfLineOf (line : Bytes) : Option DfLine :=
  match parseDfLine line with
  | some (.ok l) => some l
  | _ => none

/-- The lines that name a mounted file system. -/
def dfLines (raw : EvidenceStore) : List DfLine := (dfOutput raw).filterMap dfLineOf

/-- The map that is built from the lines. -/
def dfMap (raw : EvidenceStore) : DfMap :=
  (dfLines raw).foldl (insertReport fun l => some (l.name, l.mount, l.type)) ∅

theorem foldl_scanDfLine (output : List Bytes) (s : DfMap × List Bytes) :
    (output.foldl scanDfLine s).1 =
      (output.filterMap dfLineOf).foldl (insertReport fun l => some (l.name, l.mount, l.type)) s.1 := by
  induction output generalizing s with
  | nil => rfl
  | cons line output ih =>
      rw [List.foldl_cons, ih, List.filterMap_cons, scanDfLine, dfLineOf]
      cases parseDfLine line with
      | none => rfl
      | some result =>
          cases result with
          | error warning => rfl
          | ok l => rfl

/-- The line that counts for its name: the last one. -/
def Counts (lines : List DfLine) (l : DfLine) : Prop :=
  (lines.filter (·.name = l.name)).getLast? = some l

theorem Counts.mem {lines : List DfLine} {l : DfLine} (h : Counts lines l) : l ∈ lines :=
  (List.mem_filter.mp (List.mem_of_getLast? h)).1

/-- The entry of a name is its last line. -/
theorem getElem?_dfMap {raw : EvidenceStore} {name : Bytes} {info : Bytes × Bytes} :
    (dfMap raw)[name]? = some info ↔ Counts (dfLines raw) ⟨name, info.1, info.2⟩ := by
  rw [dfMap, getElem?_foldl_insertReport_of _ (·.name = name) (fun l => (l.mount, l.type)) (by simp),
    Option.map_eq_some_iff, Counts]
  constructor
  · rintro ⟨l, hl, rfl⟩
    have hname : l.name = name := by
      simpa using (List.mem_filter.mp (List.mem_of_getLast? hl)).2
    subst hname
    exact hl
  · intro h
    exact ⟨_, h, rfl⟩

/-- A name without an entry is on no line. -/
theorem getElem?_dfMap_eq_none {raw : EvidenceStore} {name : Bytes} :
    (dfMap raw)[name]? = none ↔ ∀ l ∈ dfLines raw, l.name ≠ name := by
  rw [dfMap, getElem?_foldl_insertReport_of _ (·.name = name) (fun l => (l.mount, l.type)) (by simp),
    Option.map_eq_none_iff, List.getLast?_eq_none_iff, List.filter_eq_nil_iff]
  simp

/-! ### The line that is taken -/

/-- The entry that is taken for a device without one of its own: the last one at the root, else the
first. -/
def takenEntry (devName : Bytes) (entries : List (Bytes × Bytes × Bytes)) :
    Option (Bytes × Bytes × Bytes) :=
  lastOrFirst (·.2.1 = utf8 "/") (entries.filter (isPartitionOf devName ·.1))

theorem takenEntry_eq_none {devName : Bytes} {entries : List (Bytes × Bytes × Bytes)} :
    takenEntry devName entries = none ↔ ∀ e ∈ entries, isPartitionOf devName e.1 = false := by
  rw [takenEntry, lastOrFirst_eq_none, List.filter_eq_nil_iff]
  simp only [Bool.not_eq_true]

/-- The loop over the entries takes `takenEntry`. -/
theorem foldl_mergeMount {dev : StorageDevice} (hfresh : dev.mountPoint = none)
    (entries : List (Bytes × Bytes × Bytes)) :
    entries.foldl mergeMount dev =
      ((takenEntry dev.name entries).map fun e => setMount dev e.2).getD dev := by
  rw [takenEntry]
  refine foldl_lastOrFirst (fun o : Option (Bytes × Bytes × Bytes) =>
    (o.map fun e => setMount dev e.2).getD dev) ?_ ?_
  · intro o e he
    have hname : ((o.map fun e => setMount dev e.2).getD dev).name = dev.name := by
      cases o <;> rfl
    rw [mergeMount, hname, he, Bool.false_and, if_neg (by decide)]
  · intro o e he
    cases o with
    | none =>
        rw [Option.map_none, Option.getD_none, mergeMount, he, hfresh]
        rfl
    | some t =>
        rw [Option.map_some, Option.getD_some, mergeMount,
          show (setMount dev t.2).name = dev.name from rfl, he]
        by_cases hroot : e.2.1 = utf8 "/"
        · simp [hroot, setMount]
        · simp [hroot, setMount]

/-- One line is taken before another: a line at the root before one that is not, of two at the root the
greater name, of two others the smaller one. -/
def Precedes (a b : DfLine) : Prop :=
  (a.mount = utf8 "/" ∧ (b.mount ≠ utf8 "/" ∨ compare b.name a.name = .lt)) ∨
    (a.mount ≠ utf8 "/" ∧ b.mount ≠ utf8 "/" ∧ compare a.name b.name = .lt)

theorem Precedes.asymm {a b : DfLine} (h : Precedes a b) : ¬Precedes b a := by
  have hswap : compare a.name b.name = .lt → compare b.name a.name ≠ .lt := by
    intro hlt
    rw [Std.OrientedOrd.eq_swap, hlt]
    decide
  rintro (⟨hb, hlt⟩ | ⟨hb, ha, hlt⟩)
  · rcases h with ⟨ha, h⟩ | ⟨-, hb', -⟩
    · exact hswap (hlt.resolve_left (not_not.mpr ha)) (h.resolve_left (not_not.mpr hb))
    · exact hb' hb
  · rcases h with ⟨ha', -⟩ | ⟨-, -, h⟩
    · exact ha ha'
    · exact hswap h hlt

/-- The entry of a line. -/
def DfLine.entry (l : DfLine) : Bytes × Bytes × Bytes := (l.name, l.mount, l.type)

theorem mem_toList_dfMap {raw : EvidenceStore} {l : DfLine} :
    l.entry ∈ (dfMap raw).toList ↔ Counts (dfLines raw) l := by
  rw [DfLine.entry, Std.TreeMap.mem_toList_iff_getElem?_eq_some, getElem?_dfMap]

/-- The line that is taken counts and looks like a partition, and precedes every other such line. -/
theorem takenEntry_eq_some {raw : EvidenceStore} {devName : Bytes} {l : DfLine}
    (h : takenEntry devName (dfMap raw).toList = some l.entry) :
    (Counts (dfLines raw) l ∧ isPartitionOf devName l.name = true) ∧
      ∀ o, Counts (dfLines raw) o → isPartitionOf devName o.name = true → o = l ∨ Precedes l o := by
  have hsorted : ((dfMap raw).toList.filter (isPartitionOf devName ·.1)).Pairwise
      fun a b => compare a.1 b.1 = .lt :=
    List.Pairwise.filter _ Std.TreeMap.ordered_keys_toList
  have hmem : ∀ o : DfLine, o.entry ∈ (dfMap raw).toList.filter (isPartitionOf devName ·.1) ↔
      Counts (dfLines raw) o ∧ isPartitionOf devName o.name = true := fun o => by
    rw [List.mem_filter, mem_toList_dfMap, DfLine.entry]
  have hinj : ∀ o : DfLine, o.entry = l.entry → o = l := fun o ho => by
    cases o
    cases l
    simp only [DfLine.entry, Prod.mk.injEq] at ho
    obtain ⟨rfl, rfl, rfl⟩ := ho
    rfl
  rw [takenEntry, lastOrFirst, Option.or_eq_some_iff] at h
  generalize (dfMap raw).toList.filter (isPartitionOf devName ·.1) = entries at h hsorted hmem
  rcases h with hroot | ⟨hnone, hhead⟩
  · -- the last of the entries at the root
    have hl := List.mem_filter.mp (List.mem_of_getLast? hroot)
    have hlroot : l.mount = utf8 "/" := of_decide_eq_true hl.2
    refine ⟨(hmem l).mp hl.1, fun o ho hpart => ?_⟩
    have hoent := (hmem o).mpr ⟨ho, hpart⟩
    by_cases horoot : o.mount = utf8 "/"
    · obtain ⟨front, hfront⟩ := List.getLast?_eq_some_iff.mp hroot
      have hofilter : o.entry ∈ entries.filter (·.2.1 = utf8 "/") :=
        List.mem_filter.mpr ⟨hoent, decide_eq_true horoot⟩
      have hpair := hsorted.filter (·.2.1 = utf8 "/")
      rw [hfront] at hofilter hpair
      rcases List.mem_append.mp hofilter with hin | hin
      · exact Or.inr (Or.inl ⟨hlroot, Or.inr
          ((List.pairwise_append.mp hpair).2.2 _ hin _ List.mem_cons_self)⟩)
      · exact Or.inl (hinj o (List.mem_singleton.mp hin))
    · exact Or.inr (Or.inl ⟨hlroot, Or.inl horoot⟩)
  · -- no entry is at the root: the first of all
    rw [List.getLast?_eq_none_iff, List.filter_eq_nil_iff] at hnone
    obtain ⟨rest, rfl⟩ := List.head?_eq_some_iff.mp hhead
    have hnotRoot : ∀ o : DfLine, o.entry ∈ l.entry :: rest → o.mount ≠ utf8 "/" :=
      fun o ho horoot => hnone _ ho (decide_eq_true horoot)
    refine ⟨(hmem l).mp List.mem_cons_self, fun o ho hpart => ?_⟩
    have hoent := (hmem o).mpr ⟨ho, hpart⟩
    rcases List.mem_cons.mp hoent with heq | hin
    · exact Or.inl (hinj o heq)
    · exact Or.inr (Or.inr ⟨hnotRoot l List.mem_cons_self, hnotRoot o hoent,
        (List.pairwise_cons.mp hsorted).1 _ hin⟩)

/-! ### What a device should get -/

/-- A line of the device itself or of one of its partitions. -/
def Names (devName : Bytes) (l : DfLine) : Prop := l.name = devName ∨ IsPartition devName l.name

/-- The mount point and the type of a device are those of a line of its own. -/
def TakesOwnLine (lines : List DfLine) (devName : Bytes) (after : StorageDevice) : Prop :=
  ∀ mount, after.mountPoint = some mount →
    ∃ l ∈ lines, Names devName l ∧ l.mount = mount ∧ after.fsType = some l.type

/-- Several partitions of a device are mounted, one of them at the root. -/
def SeveralWithRoot (lines : List DfLine) (devName : Bytes) : Prop :=
  (∃ a ∈ lines, ∃ b ∈ lines, a.name ≠ b.name ∧ IsPartition devName a.name ∧
    IsPartition devName b.name) ∧
    ∃ l ∈ lines, IsPartition devName l.name ∧ l.mount = utf8 "/"

/-- With several mounted partitions the root is chosen if present. -/
def ChoosesRoot (lines : List DfLine) (devName : Bytes) (after : StorageDevice) : Prop :=
  SeveralWithRoot lines devName → after.mountPoint = some (utf8 "/")

/-- What the lines should do to a device, before and after them. -/
def AttributesMounts (raw : EvidenceStore) (dev after : StorageDevice) : Prop :=
  TakesOwnLine (dfLines raw) dev.name after ∧
    (raw.hasSuccess .storageMountInfo = false → ChoosesRoot (dfLines raw) dev.name after)

/-- A line of a partition says the same. -/
def Vouched (lines : List DfLine) (devName : Bytes) (l : DfLine) : Prop :=
  ∃ r ∈ lines, IsPartition devName r.name ∧ r.mount = l.mount ∧ r.type = l.type

/-- The lines are clear for a device.  Without a line of the device itself, a line that only looks like
one of a partition is preceded by one that is vouched for; and where the root should be chosen, the last
line of the device, or without one the last line of some name that looks like a partition, is at the
root. -/
structure Clear (lines : List DfLine) (devName : Bytes) : Prop where
  mistaken : (∀ o ∈ lines, o.name ≠ devName) → ∀ l, Counts lines l →
    isPartitionOf devName l.name = true → ¬Vouched lines devName l →
      ∃ r, Counts lines r ∧ isPartitionOf devName r.name = true ∧ Vouched lines devName r ∧
        Precedes r l
  root : SeveralWithRoot lines devName → ∃ l, Counts lines l ∧ l.mount = utf8 "/" ∧
    (l.name = devName ∨
      (∀ o ∈ lines, o.name ≠ devName) ∧ isPartitionOf devName l.name = true)

/-- A line that is taken for a device is vouched for exactly when the lines are clear. -/
theorem vouched_iff {raw : EvidenceStore} {devName : Bytes} {l : DfLine}
    (h : takenEntry devName (dfMap raw).toList = some l.entry) :
    Vouched (dfLines raw) devName l ↔
      ∀ o, Counts (dfLines raw) o → isPartitionOf devName o.name = true →
        ¬Vouched (dfLines raw) devName o → ∃ r, Counts (dfLines raw) r ∧
          isPartitionOf devName r.name = true ∧ Vouched (dfLines raw) devName r ∧ Precedes r o := by
  obtain ⟨⟨hcounts, hpart⟩, hfirst⟩ := takenEntry_eq_some h
  constructor
  · intro hvouched o ho hopart hnot
    rcases hfirst o ho hopart with rfl | hprec
    · exact absurd hvouched hnot
    · exact ⟨l, hcounts, hpart, hvouched, hprec⟩
  · intro hclear
    by_contra hnot
    obtain ⟨r, hr, hrpart, hrvouched, hprec⟩ := hclear l hcounts hpart hnot
    rcases hfirst r hr hrpart with rfl | hback
    · exact hnot hrvouched
    · exact hprec.asymm hback

/-- A device with a line of its own: it gets the last one. -/
theorem ownLine_iff {raw : EvidenceStore} {dev : StorageDevice} {info : Bytes × Bytes}
    (hown : (dfMap raw)[dev.name]? = some info) :
    (TakesOwnLine (dfLines raw) dev.name (setMount dev info) ∧
        ChoosesRoot (dfLines raw) dev.name (setMount dev info)) ↔
      Clear (dfLines raw) dev.name := by
  have hcounts := getElem?_dfMap.mp hown
  have hnamed : ¬∀ o ∈ dfLines raw, o.name ≠ dev.name := fun h => h _ hcounts.mem rfl
  have hunique : ∀ l, Counts (dfLines raw) l → l.name = dev.name → l.mount = info.1 :=
    fun l hl hname => by
      rw [Counts, hname] at hl
      rw [Option.some.inj (hl.symm.trans hcounts)]
  have htakes : TakesOwnLine (dfLines raw) dev.name (setMount dev info) := fun mount hmount =>
    ⟨_, hcounts.mem, Or.inl rfl, Option.some.inj hmount, rfl⟩
  constructor
  · rintro ⟨-, hroot⟩
    refine ⟨fun h => absurd h hnamed, fun hseveral => ⟨_, hcounts, ?_, Or.inl rfl⟩⟩
    exact Option.some.inj (hroot hseveral)
  · intro hclear
    refine ⟨htakes, fun hseveral => ?_⟩
    obtain ⟨l, hl, hlroot, hname | ⟨hno, -⟩⟩ := hclear.root hseveral
    · exact congrArg some ((hunique l hl hname).symm.trans hlroot)
    · exact absurd hno hnamed

/-- A device without a line that looks like its own is left alone. -/
theorem noLine_iff {raw : EvidenceStore} {dev : StorageDevice} (hfresh : dev.mountPoint = none)
    (hno : ∀ o ∈ dfLines raw, o.name ≠ dev.name)
    (htaken : takenEntry dev.name (dfMap raw).toList = none) :
    (TakesOwnLine (dfLines raw) dev.name dev ∧ ChoosesRoot (dfLines raw) dev.name dev) ↔
      Clear (dfLines raw) dev.name := by
  have hnone : ∀ l, Counts (dfLines raw) l → isPartitionOf dev.name l.name ≠ true :=
    fun l hl hpart => by
      have := takenEntry_eq_none.mp htaken _ (mem_toList_dfMap.mpr hl)
      rw [DfLine.entry] at this
      exact absurd hpart (by simp [this])
  constructor
  · rintro ⟨-, hroot⟩
    refine ⟨fun _ l hl hpart => absurd hpart (hnone l hl), fun hseveral => ?_⟩
    have := hroot hseveral
    rw [hfresh] at this
    cases this
  · intro hclear
    refine ⟨fun mount hmount => ?_, fun hseveral => ?_⟩
    · rw [hfresh] at hmount
      cases hmount
    · obtain ⟨l, hl, -, hname | ⟨-, hpart⟩⟩ := hclear.root hseveral
      · exact absurd hname (hno l hl.mem)
      · exact absurd hpart (hnone l hl)

/-- A device gets the line that is taken, which is its own if a line of a partition says the same. -/
theorem takesOwnLine_setMount_iff {lines : List DfLine} {dev : StorageDevice} {l : DfLine}
    (hno : ∀ o ∈ lines, o.name ≠ dev.name) :
    TakesOwnLine lines dev.name (setMount dev l.entry.2) ↔ Vouched lines dev.name l := by
  constructor
  · intro h
    obtain ⟨r, hr, hnames, hmount, htype⟩ := h l.mount rfl
    exact ⟨r, hr, hnames.resolve_left (hno r hr), hmount, (Option.some.inj htype).symm⟩
  · rintro ⟨r, hr, hrpart, hmount, htype⟩ mount hset
    exact ⟨r, hr, Or.inr hrpart, hmount.trans (Option.some.inj hset), by
      rw [htype]
      rfl⟩

/-- It is at the root if any line that looks like one of a partition is. -/
theorem setMount_root_iff {raw : EvidenceStore} {dev : StorageDevice} {l : DfLine}
    (htaken : takenEntry dev.name (dfMap raw).toList = some l.entry) :
    (setMount dev l.entry.2).mountPoint = some (utf8 "/") ↔
      ∃ r, Counts (dfLines raw) r ∧ r.mount = utf8 "/" ∧ isPartitionOf dev.name r.name = true := by
  obtain ⟨⟨hcounts, hpart⟩, hfirst⟩ := takenEntry_eq_some htaken
  constructor
  · exact fun h => ⟨l, hcounts, Option.some.inj h, hpart⟩
  · rintro ⟨r, hr, hrroot, hrpart⟩
    rcases hfirst r hr hrpart with rfl | ⟨hlroot, -⟩ | ⟨-, hnot, -⟩
    · exact congrArg some hrroot
    · exact congrArg some hlroot
    · exact absurd hrroot hnot

/-- A device without a line of its own and with one that looks like its own. -/
theorem partitionLine_iff {raw : EvidenceStore} {dev : StorageDevice} {l : DfLine}
    (hno : ∀ o ∈ dfLines raw, o.name ≠ dev.name)
    (htaken : takenEntry dev.name (dfMap raw).toList = some l.entry) :
    (TakesOwnLine (dfLines raw) dev.name (setMount dev l.entry.2) ∧
        ChoosesRoot (dfLines raw) dev.name (setMount dev l.entry.2)) ↔
      Clear (dfLines raw) dev.name := by
  rw [takesOwnLine_setMount_iff hno, vouched_iff htaken, ChoosesRoot, setMount_root_iff htaken]
  constructor
  · rintro ⟨hmistaken, hchosen⟩
    refine ⟨fun _ => hmistaken, fun hseveral => ?_⟩
    obtain ⟨r, hr, hrroot, hrpart⟩ := hchosen hseveral
    exact ⟨r, hr, hrroot, Or.inr ⟨hno, hrpart⟩⟩
  · intro hclear
    refine ⟨hclear.mistaken hno, fun hseveral => ?_⟩
    obtain ⟨r, hr, hrroot, hname | ⟨-, hrpart⟩⟩ := hclear.root hseveral
    · exact absurd hname (hno r hr.mem)
    · exact ⟨r, hr, hrroot, hrpart⟩

/-- A device without a mount point, after the lines. -/
theorem legacyMount_iff {raw : EvidenceStore} {dev : StorageDevice} (hfresh : dev.mountPoint = none) :
    (TakesOwnLine (dfLines raw) dev.name (legacyMount (dfMap raw) dev) ∧
        ChoosesRoot (dfLines raw) dev.name (legacyMount (dfMap raw) dev)) ↔
      Clear (dfLines raw) dev.name := by
  rw [legacyMount]
  cases hown : (dfMap raw)[dev.name]? with
  | some info => exact ownLine_iff hown
  | none =>
      have hno := getElem?_dfMap_eq_none.mp hown
      dsimp only
      rw [foldl_mergeMount hfresh]
      cases htaken : takenEntry dev.name (dfMap raw).toList with
      | none => exact noLine_iff hfresh hno htaken
      | some e =>
          obtain ⟨l, rfl⟩ : ∃ l : DfLine, l.entry = e := ⟨⟨e.1, e.2.1, e.2.2⟩, rfl⟩
          exact partitionLine_iff hno htaken

/-- The devices of the parser have no mount point before the lines of `df`. -/
theorem blockDevices_mountPoint (raw : EvidenceStore) :
    ∀ dev ∈ (blockDevices raw).1, dev.mountPoint = none := by
  intro dev hdev
  rw [blockDevices] at hdev
  obtain ⟨entry, -, rfl⟩ := List.mem_map.mp hdev
  rfl

/-- **The lines of `df` go to the right devices exactly when they are clear for every device.** -/
theorem legacyMounts_iff (storage : Storage) (raw : EvidenceStore) (warnings : List Bytes)
    (hfresh : ∀ dev ∈ storage.devices, dev.mountPoint = none) :
    List.Forall₂ (AttributesMounts raw) storage.devices
        (applyLegacyStorageMounts storage raw warnings).1.devices ↔
      raw.hasSuccess .storageMountInfo = true ∨
        ∀ dev ∈ storage.devices, Clear (dfLines raw) dev.name := by
  rw [applyLegacyStorageMounts]
  by_cases hinfo : raw.hasSuccess .storageMountInfo = true
  · rw [if_pos hinfo]
    refine iff_of_true (List.forall₂_same.mpr fun dev hdev => ⟨fun mount hmount => ?_, ?_⟩)
      (Or.inl hinfo)
    · rw [hfresh dev hdev] at hmount
      cases hmount
    · intro hnot
      rw [hinfo] at hnot
      cases hnot
  · have hmap : ((dfOutput raw).foldl scanDfLine (∅, warnings)).1 = dfMap raw :=
      foldl_scanDfLine _ _
    rw [if_neg hinfo, or_iff_right hinfo]
    rw [Bool.not_eq_true] at hinfo
    dsimp only
    rw [hmap, List.forall₂_map_right_iff, List.forall₂_same]
    refine forall₂_congr fun dev hdev => ?_
    rw [AttributesMounts, hinfo, ← legacyMount_iff (hfresh dev hdev)]
    exact and_congr_right' ⟨fun h => h rfl, fun h _ => h⟩

/-! ### Two arrays -/

/-- The block devices `md1` and `md10`, of which `df` lists the second. -/
def arraysEvidence : EvidenceStore :=
  { records :=
      [⟨.sysfsBlock, utf8 "/sys/block/md1/size", utf8 "2048\n", .success, none, none⟩,
       ⟨.sysfsBlock, utf8 "/sys/block/md10/size", utf8 "2048\n", .success, none, none⟩,
       ⟨.dfTh, utf8 "df -Th", utf8 "/dev/md10 ext4 1.8T 1.2T 527G 70% /srv\n", .success, none, none⟩] }

/-- The storage of these devices. -/
def arraysStorage : Storage := { devices := (blockDevices arraysEvidence).1 }

theorem arrays_iff :
    (∀ dev ∈ arraysStorage.devices, dev.mountPoint = none) ∧
      (List.Forall₂ (AttributesMounts arraysEvidence) arraysStorage.devices
          (applyLegacyStorageMounts arraysStorage arraysEvidence []).1.devices ↔
        arraysEvidence.hasSuccess .storageMountInfo = true ∨
          ∀ dev ∈ arraysStorage.devices, Clear (dfLines arraysEvidence) dev.name) :=
  ⟨blockDevices_mountPoint arraysEvidence,
    legacyMounts_iff arraysStorage arraysEvidence [] (blockDevices_mountPoint arraysEvidence)⟩

theorem arrays_devices :
    arraysStorage.devices.map (·.name) = [utf8 "md1", utf8 "md10"] ∧
      (applyLegacyStorageMounts arraysStorage arraysEvidence []).1.devices.map (·.mountPoint) =
        [some (utf8 "/srv"), some (utf8 "/srv")] ∧
      dfLines arraysEvidence = [⟨utf8 "md10", utf8 "/srv", utf8 "ext4"⟩] := by
  decide +kernel

/-- The file system on `md10` is attributed to `md1`, which is not mounted and has no partition. -/
theorem arrays_mistaken :
    ¬List.Forall₂ (AttributesMounts arraysEvidence) arraysStorage.devices
      (applyLegacyStorageMounts arraysStorage arraysEvidence []).1.devices := by
  obtain ⟨hnames, hmounts, hlines⟩ := arrays_devices
  generalize arraysStorage.devices = devices at hnames hmounts
  generalize (applyLegacyStorageMounts arraysStorage arraysEvidence []).1.devices = result at hmounts
  intro h
  cases h with
  | nil => exact absurd hnames (by simp)
  | cons hfirst _ =>
      rw [List.map_cons, List.cons.injEq] at hnames hmounts
      obtain ⟨l, hl, hown, -, -⟩ := hfirst.1 _ hmounts.1
      rw [hlines, List.mem_singleton] at hl
      rw [hl, hnames.1] at hown
      rcases hown with hsame | ⟨digits, -, -, hname⟩
      · exact absurd hsame (by decide +kernel)
      · -- the byte behind the name is a digit, no `p`
        rw [if_pos (by decide +kernel)] at hname
        have hfourth := congrArg (·[3]?) hname
        exact absurd hfourth (by
          rw [show (utf8 "md1" ++ 112 :: digits)[3]? = some 112 from rfl]
          decide +kernel)

end Sysal.StorageParser
