import Mathlib.Data.List.Perm.Subperm
import Sysal.Foundation.Grouping
import Sysal.Parser.CpuEvidence

/-!
# Cache instances

The cache files of one CPU and one index make up one group of attributes, and groups that share a
known set of CPUs and all other attributes are one cache instance.

* `ownGroups`: the groups by the numbers in the paths; `filedGroups`: by these numbers modulo `2 ^ 32`;
* `cacheAttributes_scannedGroups`: the scan forms the latter;
* `sameCacheInstance_iff`: groups are the same instance when the sharing is known and the attributes
  agree;
* `readCpuCaches_merged_iff`: the list of caches represents the groups exactly when filing under 32 bits
  changes none of them.
-/

namespace Sysal.CpuParser

open Sysal Std CpuDetails

/-! ### Cache files -/

/-- The attributes of a cache. -/
inductive CacheAttribute where
  | none | sharedCpus | id | sets | level | type | size | ways | lineSize
  deriving DecidableEq

/-- The attribute a file holds. -/
def cacheAttribute (path : Bytes) : CacheAttribute :=
  if !path.hasSub (utf8 "cache/index") then .none
  else if path.endsWith (utf8 "/shared_cpu_list") then .sharedCpus
  else if path.endsWith (utf8 "/id") then .id
  else if path.endsWith (utf8 "/number_of_sets") then .sets
  else if path.hasSub (utf8 "/level") then .level
  else if path.hasSub (utf8 "/type") then .type
  else if path.hasSub (utf8 "/size") then .size
  else if path.hasSub (utf8 "ways_of_associativity") then .ways
  else if path.hasSub (utf8 "coherency_line_size") then .lineSize
  else .none

/-- The cache after an attribute. -/
def setCacheAttribute (cache : CpuCache) (payload : Bytes) : CacheAttribute → CpuCache
  | .none => cache
  | .sharedCpus => { cache with sharedCpus := (parseCpuIdList payload).getD cache.sharedCpus }
  | .id => { cache with cacheId := (parseUint32 payload).or cache.cacheId }
  | .sets => { cache with sets := (parseUint32 payload).or cache.sets }
  | .level => { cache with level := ((parseUint payload).map UInt32.ofNat).getD cache.level }
  | .type => { cache with type := parseCacheType payload }
  | .size => { cache with size := (parseCacheSize payload).getD cache.size }
  | .ways => { cache with ways := ((parseUint payload).map UInt32.ofNat).getD cache.ways }
  | .lineSize =>
      { cache with lineSize := ((parseUint payload).map UInt32.ofNat).getD cache.lineSize }

/-- A file changes the attribute it holds and nothing else. -/
theorem readCacheField_eq (cache : CpuCache) (path payload : Bytes) :
    readCacheField cache path payload = setCacheAttribute cache payload (cacheAttribute path) := by
  rw [readCacheField, cacheAttribute]
  by_cases hindex : (!path.hasSub (utf8 "cache/index")) = true
  · rw [if_pos hindex, if_pos hindex]
    rfl
  rw [if_neg hindex, if_neg hindex]
  by_cases hshared : path.endsWith (utf8 "/shared_cpu_list") = true
  · rw [if_pos hshared, if_pos hshared, setCacheAttribute]
    cases parseCpuIdList payload <;> rfl
  rw [if_neg hshared, if_neg hshared]
  by_cases hid : path.endsWith (utf8 "/id") = true
  · rw [if_pos (Or.inl hid), if_pos hid, setCacheAttribute]
    cases parseUint32 payload with
    | none => rfl
    | some number => exact if_pos hid
  by_cases hsets : path.endsWith (utf8 "/number_of_sets") = true
  · rw [if_pos (Or.inr hsets), if_neg hid, if_pos hsets, setCacheAttribute]
    cases parseUint32 payload with
    | none => rfl
    | some number => exact if_neg hid
  rw [if_neg (not_or.mpr ⟨hid, hsets⟩), if_neg hid, if_neg hsets]
  by_cases hlevel : path.hasSub (utf8 "/level") = true
  · rw [if_pos hlevel, if_pos hlevel, setCacheAttribute]
    cases parseUint payload <;> rfl
  rw [if_neg hlevel, if_neg hlevel]
  by_cases htype : path.hasSub (utf8 "/type") = true
  · rw [if_pos htype, if_pos htype]
    rfl
  rw [if_neg htype, if_neg htype]
  by_cases hsize : path.hasSub (utf8 "/size") = true
  · rw [if_pos hsize, if_pos hsize, setCacheAttribute]
    cases parseCacheSize payload <;> rfl
  rw [if_neg hsize, if_neg hsize]
  by_cases hways : path.hasSub (utf8 "ways_of_associativity") = true
  · rw [if_pos hways, if_pos hways, setCacheAttribute]
    cases parseUint payload <;> rfl
  rw [if_neg hways, if_neg hways]
  by_cases hline : path.hasSub (utf8 "coherency_line_size") = true
  · rw [if_pos hline, if_pos hline, setCacheAttribute]
    cases parseUint payload <;> rfl
  rw [if_neg hline, if_neg hline]
  rfl

/-! ### Groups -/

/-- What groups of one instance agree in: everything but the sampled CPU. -/
structure CacheAttributes where
  level : UInt32
  type : CacheType
  size : MemorySize
  ways : UInt32
  lineSize : UInt32
  sets : Option UInt32
  cacheId : Option UInt32
  sharedCpus : List LogicalCpuId
  deriving DecidableEq

/-- The last valid value of an attribute among some files. -/
def lastAttribute {β : Type} (a : CacheAttribute) (value : Bytes → Option β)
    (records : List RawEvidence) : Option β :=
  lastWrite (fun record => if cacheAttribute record.pathOrCommand = a then value record.payload else none)
    records

/-- The attributes that some files state, where level, ways and line size are read by `number`. -/
def attributesOf (number : Bytes → Option UInt32) (records : List RawEvidence) : CacheAttributes where
  level := (lastAttribute .level number records).getD 0
  type := (lastAttribute .type (fun payload => some (parseCacheType payload)) records).getD .data
  size := (lastAttribute .size parseCacheSize records).getD 0
  ways := (lastAttribute .ways number records).getD 0
  lineSize := (lastAttribute .lineSize number records).getD 0
  sets := lastAttribute .sets parseUint32 records
  cacheId := lastAttribute .id parseUint32 records
  sharedCpus := (lastAttribute .sharedCpus parseCpuIdList records).getD []

/-- The CPU and the index that a path states. -/
def cachePathKey (path : Bytes) : Option (ℕ × ℕ) :=
  (cpuPathNumber path).bind fun cpu => (cacheIndexNumber path).map (cpu, ·)

/-- The groups: the attributes that the files of each CPU and index state. -/
def ownGroups (raw : EvidenceStore) : List CacheAttributes :=
  ((raw.successes .sysfsCpu).filterMap (cachePathKey ·.pathOrCommand)).dedup.map fun key =>
    attributesOf parseUint32
      ((raw.successes .sysfsCpu).filter (cachePathKey ·.pathOrCommand = some key))

/-- The CPU and the index that a path is filed under. -/
def filedKey (path : Bytes) : Option (UInt32 × UInt32) :=
  (cachePathKey path).map fun key => (UInt32.ofNat key.1, UInt32.ofNat key.2)

/-- A number modulo `2 ^ 32`. -/
def narrowUint (payload : Bytes) : Option UInt32 := (parseUint payload).map UInt32.ofNat

/-- The groups that are formed modulo `2 ^ 32`. -/
def filedGroups (raw : EvidenceStore) : List CacheAttributes :=
  (sortedSet ((raw.successes .sysfsCpu).filterMap (filedKey ·.pathOrCommand))).map fun key =>
    attributesOf narrowUint ((raw.successes .sysfsCpu).filter (filedKey ·.pathOrCommand = some key))

theorem extractCacheKey_eq_filedKey (path : Bytes) : extractCacheKey path = filedKey path := by
  rw [extractCacheKey_eq, filedKey, cachePathKey]
  cases cpuPathNumber path with
  | none => rfl
  | some cpu => cases cacheIndexNumber path <;> rfl

def cacheAttributes (cache : CpuCache) : CacheAttributes where
  level := cache.level
  type := cache.type
  size := cache.size
  ways := cache.ways
  lineSize := cache.lineSize
  sets := cache.sets
  cacheId := cache.cacheId
  sharedCpus := cache.sharedCpus

/-- One file of a group. -/
def addFile (cpu : UInt32) (cache : CpuCache) (record : RawEvidence) : CpuCache :=
  readCacheField { cache with cpuNumber := cpu } record.pathOrCommand record.payload

/-- A register of a group has the last value of its attribute. -/
theorem get_foldl_addFile {β : Type} (get : CpuCache → β) {a : CacheAttribute}
    (value : Bytes → Option β) (cpu : UInt32)
    (hset : ∀ cache payload, get (setCacheAttribute cache payload a) = (value payload).getD (get cache))
    (hother : ∀ cache payload a', a' ≠ a → get (setCacheAttribute cache payload a') = get cache)
    (hcpu : ∀ cache : CpuCache, get { cache with cpuNumber := cpu } = get cache)
    (records : List RawEvidence) (cache : CpuCache) :
    get (records.foldl (addFile cpu) cache) = (lastAttribute a value records).getD (get cache) := by
  refine foldl_lastWrite get (fun cache record => ?_) records cache
  rw [addFile, readCacheField_eq]
  by_cases ha : cacheAttribute record.pathOrCommand = a
  · rw [if_pos ha, ha, hset, hcpu]
  · rw [if_neg ha, hother _ _ _ ha, hcpu]
    rfl

/-- The same for an attribute that may be missing. -/
theorem get_foldl_addFile_or {β : Type} (get : CpuCache → Option β) {a : CacheAttribute}
    (value : Bytes → Option β) (cpu : UInt32)
    (hset : ∀ cache payload, get (setCacheAttribute cache payload a) = (value payload).or (get cache))
    (hother : ∀ cache payload a', a' ≠ a → get (setCacheAttribute cache payload a') = get cache)
    (hcpu : ∀ cache : CpuCache, get { cache with cpuNumber := cpu } = get cache)
    (records : List RawEvidence) {cache : CpuCache} (hcache : get cache = none) :
    get (records.foldl (addFile cpu) cache) = lastAttribute a value records := by
  rw [get_foldl_addFile get (fun payload => (value payload).map some) cpu ?_ hother hcpu, hcache,
    lastAttribute, lastAttribute]
  · have hwrite : (fun record : RawEvidence => if cacheAttribute record.pathOrCommand = a then
        (value record.payload).map some else none) = fun record =>
          (if cacheAttribute record.pathOrCommand = a then value record.payload else none).map some := by
      funext record
      split <;> rfl
    rw [hwrite, lastWrite_map]
    cases lastWrite _ records <;> rfl
  · intro cache payload
    rw [hset]
    cases value payload <;> rfl

/-- **A group has the last value of every attribute.** -/
theorem cacheAttributes_foldl (cpu : UInt32) (records : List RawEvidence) :
    cacheAttributes (records.foldl (addFile cpu) default) = attributesOf narrowUint records := by
  rw [cacheAttributes, attributesOf, CacheAttributes.mk.injEq]
  refine ⟨?_, ?_, ?_, ?_, ?_, ?_, ?_, ?_⟩
  · exact get_foldl_addFile CpuCache.level _ cpu (fun _ _ => rfl)
      (fun cache payload a' h => by cases a' <;> first | rfl | exact absurd rfl h) (fun _ => rfl) _ _
  · exact get_foldl_addFile CpuCache.type _ cpu (fun _ _ => rfl)
      (fun cache payload a' h => by cases a' <;> first | rfl | exact absurd rfl h) (fun _ => rfl) _ _
  · exact get_foldl_addFile CpuCache.size _ cpu (fun _ _ => rfl)
      (fun cache payload a' h => by cases a' <;> first | rfl | exact absurd rfl h) (fun _ => rfl) _ _
  · exact get_foldl_addFile CpuCache.ways _ cpu (fun _ _ => rfl)
      (fun cache payload a' h => by cases a' <;> first | rfl | exact absurd rfl h) (fun _ => rfl) _ _
  · exact get_foldl_addFile CpuCache.lineSize _ cpu (fun _ _ => rfl)
      (fun cache payload a' h => by cases a' <;> first | rfl | exact absurd rfl h) (fun _ => rfl) _ _
  · exact get_foldl_addFile_or CpuCache.sets _ cpu (fun _ _ => rfl)
      (fun cache payload a' h => by cases a' <;> first | rfl | exact absurd rfl h) (fun _ => rfl) _ rfl
  · exact get_foldl_addFile_or CpuCache.cacheId _ cpu (fun _ _ => rfl)
      (fun cache payload a' h => by cases a' <;> first | rfl | exact absurd rfl h) (fun _ => rfl) _ rfl
  · exact get_foldl_addFile CpuCache.sharedCpus _ cpu (fun _ _ => rfl)
      (fun cache payload a' h => by cases a' <;> first | rfl | exact absurd rfl h) (fun _ => rfl) _ _

/-- The groups that the scan forms. -/
def scannedGroups (raw : EvidenceStore) : List CpuCache :=
  ((raw.successes .sysfsCpu).foldl scanCache ∅).toList.map Prod.snd

/-- The scan adds up the files that are filed under each key. -/
theorem scannedGroups_eq (raw : EvidenceStore) :
    scannedGroups raw =
      (sortedSet ((raw.successes .sysfsCpu).filterMap (filedKey ·.pathOrCommand))).map fun key =>
        ((raw.successes .sysfsCpu).filter (filedKey ·.pathOrCommand = some key)).foldl (addFile key.1)
          default := by
  have hscan : scanCache = fileUnder (filedKey ·.pathOrCommand) fun key => addFile key.1 := by
    funext m record
    rw [scanCache, fileUnder, extractCacheKey_eq_filedKey]
    cases filedKey record.pathOrCommand <;> rfl
  rw [scannedGroups, hscan, toList_foldl_fileUnder, List.map_map]
  rfl

/-- **The scan forms the groups modulo `2 ^ 32`.** -/
theorem cacheAttributes_scannedGroups (raw : EvidenceStore) :
    (scannedGroups raw).map cacheAttributes = filedGroups raw := by
  rw [scannedGroups_eq, List.map_map, filedGroups]
  exact List.map_congr_left fun key _ => cacheAttributes_foldl key.1 _

/-! ### Instances -/

/-- Whether it is known which CPUs share the cache. -/
def CacheAttributes.sharingKnown (attributes : CacheAttributes) : Bool := attributes.sharedCpus ≠ []

theorem sameCacheInstance_iff (cache other : CpuCache) :
    sameCacheInstance cache other = true ↔
      (cacheAttributes cache).sharingKnown = true ∧ cacheAttributes cache = cacheAttributes other := by
  rw [sameCacheInstance, CacheAttributes.sharingKnown, decide_eq_true_eq, decide_eq_true_eq,
    cacheAttributes, cacheAttributes, CacheAttributes.mk.injEq]
  tauto

/-- What the list of caches owes the groups. -/
structure CachesMerged (groups : List CacheAttributes) (caches : List CpuCache) : Prop where
  represented : ∀ group ∈ groups, ∃ cache ∈ caches, cacheAttributes cache = group
  distinct : ((caches.map cacheAttributes).filter (·.sharingKnown)).Nodup
  /-- Every group without known sharing keeps an entry of its own. -/
  unshared : (groups.filter (!·.sharingKnown)).Subperm
    ((caches.map cacheAttributes).filter (!·.sharingKnown))
  /-- Every entry is a group. -/
  listed : ∀ cache ∈ caches, cacheAttributes cache ∈ groups
  count : ((caches.map cacheAttributes).filter (·.sharingKnown)).length =
    (groups.filter (·.sharingKnown)).dedup.length

/-- Filing under 32 bits changes no group: it adds and loses none, and those without known sharing stay
as many. -/
structure CachesSettled (raw : EvidenceStore) : Prop where
  kept : ownGroups raw ⊆ filedGroups raw
  none_added : filedGroups raw ⊆ ownGroups raw
  unshared : ((ownGroups raw).filter (!·.sharingKnown)).Subperm
    ((filedGroups raw).filter (!·.sharingKnown))

theorem readCpuCaches_eq (raw : EvidenceStore) :
    readCpuCaches raw = (scannedGroups raw).foldl (keepNew sameCacheInstance) [] := by
  rw [scannedGroups, List.foldl_map]
  rfl

/-- The entries have the attributes of the groups that are filed, those without known sharing one by
one. -/
theorem readCpuCaches_attributes (raw : EvidenceStore) :
    (∀ a, a ∈ (readCpuCaches raw).map cacheAttributes ↔ a ∈ filedGroups raw) ∧
      ((readCpuCaches raw).map cacheAttributes).filter (!·.sharingKnown) =
        (filedGroups raw).filter (!·.sharingKnown) := by
  rw [← cacheAttributes_scannedGroups, readCpuCaches_eq]
  refine ⟨fun a => ?_, ?_⟩
  · rw [List.mem_map, List.mem_map]
    constructor
    · rintro ⟨cache, hcache, rfl⟩
      exact ⟨cache, (foldl_keepNew_sublist _).subset hcache, rfl⟩
    · rintro ⟨group, hgroup, rfl⟩
      exact exists_mem_foldl_keepNew sameCacheInstance_iff hgroup
  · rw [List.filter_map, List.filter_map]
    exact congrArg (List.map cacheAttributes)
      (foldl_keepNew_filter (fun cache => (cacheAttributes cache).sharingKnown)
        (fun x y h => ((sameCacheInstance_iff x y).mp h).1) _)

/-- Entries with known sharing have distinct attributes. -/
theorem readCpuCaches_nodup (raw : EvidenceStore) :
    (((readCpuCaches raw).map cacheAttributes).filter (·.sharingKnown)).Nodup := by
  rw [readCpuCaches_eq, List.filter_map]
  exact nodup_foldl_keepNew sameCacheInstance_iff _

/-- **Merging of cache instances, exactly**: the list of caches is the merged list of the groups if and
only if filing under 32 bits changes no group. -/
theorem readCpuCaches_merged_iff (raw : EvidenceStore) :
    CachesMerged (ownGroups raw) (readCpuCaches raw) ↔ CachesSettled raw := by
  obtain ⟨hmem, hunshared⟩ := readCpuCaches_attributes raw
  constructor
  · intro h
    refine ⟨fun group hgroup => ?_, fun group hgroup => ?_, hunshared ▸ h.unshared⟩
    · obtain ⟨cache, hcache, rfl⟩ := h.represented group hgroup
      exact (hmem _).mp (List.mem_map_of_mem hcache)
    · obtain ⟨cache, hcache, rfl⟩ := List.mem_map.mp ((hmem group).mpr hgroup)
      exact h.listed cache hcache
  · intro h
    refine ⟨fun group hgroup => ?_, readCpuCaches_nodup raw, hunshared.symm ▸ h.unshared,
      fun cache hcache => h.none_added ((hmem _).mp (List.mem_map_of_mem hcache)), ?_⟩
    · exact List.mem_map.mp ((hmem group).mpr (h.kept hgroup))
    · refine List.Perm.length_eq ((List.perm_ext_iff_of_nodup (readCpuCaches_nodup raw)
        (List.nodup_dedup _)).mpr fun group => ?_)
      rw [List.mem_dedup, List.mem_filter, List.mem_filter, hmem]
      exact and_congr_left' ⟨fun hgroup => h.none_added hgroup, fun hgroup => h.kept hgroup⟩

/-- A successful record of a CPU file. -/
def cpuRecord (path payload : String) : RawEvidence :=
  { source := .sysfsCpu, pathOrCommand := utf8 "/sys/devices/system/cpu/" ++ utf8 path
    payload := utf8 payload, status := .success }

/-- Two CPUs report one cache that they share, and a third one a cache of its own. -/
def sharedStore : EvidenceStore :=
  { records :=
      [cpuRecord "cpu0/cache/index2/level" "2\n", cpuRecord "cpu0/cache/index2/size" "1M\n",
       cpuRecord "cpu0/cache/index2/shared_cpu_list" "0-1\n",
       cpuRecord "cpu1/cache/index2/size" "1024K\n", cpuRecord "cpu1/cache/index2/level" "2\n",
       cpuRecord "cpu1/cache/index2/shared_cpu_list" "0,1\n",
       cpuRecord "cpu2/cache/index2/level" "2\n"] }

theorem readCpuCaches_merged_iff_shared :
    readCpuCaches sharedStore =
        [{ level := 2, size := 1048576, sharedCpus := [0, 1] }, { level := 2, cpuNumber := 2 }] ∧
      CachesMerged (ownGroups sharedStore) (readCpuCaches sharedStore) :=
  ⟨by decide +kernel, (readCpuCaches_merged_iff sharedStore).mpr
    ⟨by decide +kernel, by decide +kernel, (List.Perm.of_eq (by decide +kernel)).subperm⟩⟩

/-- The level of a cache of CPU 0, and the size of a cache of CPU 4294967296. -/
def aliasedStore : EvidenceStore :=
  { records :=
      [cpuRecord "cpu0/cache/index0/level" "1\n",
       cpuRecord "cpu4294967296/cache/index0/size" "48K\n"] }

/-- Two groups become one entry that is neither. -/
theorem readCpuCaches_aliased :
    readCpuCaches aliasedStore = [{ level := 1, size := 49152 }] ∧ (ownGroups aliasedStore).length = 2 ∧
      ¬CachesMerged (ownGroups aliasedStore) (readCpuCaches aliasedStore) := by
  have hcaches : readCpuCaches aliasedStore = [{ level := 1, size := 49152 }] := by decide +kernel
  refine ⟨hcaches, by decide +kernel, fun h => ?_⟩
  have hlisted := h.listed { level := 1, size := 49152 } (by rw [hcaches]; exact List.mem_singleton_self _)
  exact absurd hlisted (by decide +kernel)

end Sysal.CpuParser
