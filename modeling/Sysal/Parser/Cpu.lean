import Sysal.Parser.CpuDetails
import Sysal.Foundation.BoundedLoop

/-!
# The CPU parser

`cpu.cpp`: `/proc/cpuinfo` entries are read, their topology numbers overridden by sysfs, the sparse
raw numbers made dense through ordered sets, and the frequencies, the NUMA map, the caches, the
governor and the thermal zones added.  Every function is the source's function of that name; where
the source numbers the keys of an ordered map while it iterates, the number of a key is its position
in the ordered key list.
-/

namespace Sysal.CpuParser

open Sysal Std

/-! ### `/proc/cpuinfo` -/

/-- One entry of `/proc/cpuinfo`, with the resolved topology numbers. -/
structure CpuInfoEntry where
  processorSet : Bool := false
  processor : UInt32 := 0
  physicalId : UInt32 := 0
  coreId : UInt32 := 0
  modelName : Bytes := []
  vendorId : Bytes := []
  flags : Bytes := []
  coreIdSet : Bool := false
  identification : CpuIdentification := {}
  deriving DecidableEq, Inhabited

/-- The state of the line scan. -/
structure CpuInfoScan where
  entries : List CpuInfoEntry := []
  current : CpuInfoEntry := {}
  hasEntry : Bool := false
  warnings : List Bytes := []
  deriving DecidableEq, Inhabited

/-- `finish_entry`: an entry without a valid processor number is dropped; a missing core number
defaults to the processor number. -/
def finishEntry (s : CpuInfoScan) : CpuInfoScan :=
  let entry := if s.current.coreIdSet then s.current
    else { s.current with coreId := s.current.processor }
  { s with
    entries := if s.hasEntry ∧ s.current.processorSet then s.entries ++ [entry] else s.entries
    current := {}
    hasEntry := false }

/-- The feature tokens of a flags line, sorted and without duplicates. -/
def featureTokens (value : Bytes) : List Bytes :=
  sortedSet ((split value 32).filter fun feature => !feature.isEmpty)

/-- The numeric identification fields, in the order the source tests their keys. -/
def setIdentification (id : CpuIdentification) (key : Bytes) (number : UInt32) :
    CpuIdentification :=
  if key = utf8 "cpu family" then { id with family := some number }
  else if key = utf8 "model" then { id with model := some number }
  else if key = utf8 "stepping" then { id with stepping := some number }
  else if key = utf8 "CPU implementer" then { id with implementer := some number }
  else if key = utf8 "CPU part" then { id with part := some number }
  else { id with variant := some number }

/-- The keys `setIdentification` is called for. -/
def identificationKeys : List Bytes :=
  [utf8 "cpu family", utf8 "model", utf8 "stepping", utf8 "CPU implementer", utf8 "CPU part",
   utf8 "CPU variant"]

/-- One key-value line of an entry. -/
def scanField (s : CpuInfoScan) (key value : Bytes) : CpuInfoScan :=
  let current := s.current
  if key = utf8 "processor" then
    match parseUint32 value with
    | some v => { s with current := { current with processorSet := true, processor := v } }
    | none =>
      { s with
        current := { current with processorSet := false }
        warnings := s.warnings ++
          [utf8 "parse_cpu: /proc/cpuinfo processor 解析失败: " ++ value] }
  else if key = utf8 "physical id" then
    match parseUint32 value with
    | some v => { s with current := { current with physicalId := v } }
    | none => s
  else if key = utf8 "core id" then
    match parseUint32 value with
    | some v => { s with current := { current with coreId := v, coreIdSet := true } }
    | none => s
  else if key = utf8 "model name" then { s with current := { current with modelName := value } }
  else if key = utf8 "vendor_id" then { s with current := { current with vendorId := value } }
  else if key = utf8 "flags" ∨ key = utf8 "Features" then
    { s with
      current := { current with
        flags := value
        identification := { current.identification with
          featuresReported := true
          features := featureTokens value } } }
  else if key = utf8 "microcode" then
    { s with
      current := { current with
        identification := { current.identification with microcode := value } } }
  else if key = utf8 "CPU architecture" then
    { s with
      current := { current with
        identification := { current.identification with architecture := value } } }
  else if key = utf8 "CPU revision" then
    { s with
      current := { current with
        identification := { current.identification with revision := value } } }
  else if key ∈ identificationKeys then
    match (if value.startsWith (utf8 "0x") then parseHex (value.drop 2) else parseUint value) with
    | some number =>
      if number ≤ maxUInt32 then
        { s with
          current := { current with
            identification := setIdentification current.identification key (.ofNat number) } }
      else s
    | none => s
  else s

/-- One line: a blank line ends the entry. -/
def scanLine (s : CpuInfoScan) (line : Bytes) : CpuInfoScan :=
  let trimmed := trim line
  if trimmed.isEmpty then finishEntry s
  else
    let kv := parseKv trimmed 58
    scanField { s with hasEntry := true } kv.1 kv.2

/-- `parse_cpuinfo`: the entries and the warnings. -/
def parseCpuinfo (payload : Bytes) : List CpuInfoEntry × List Bytes :=
  let s := finishEntry ((split payload 10).foldl scanLine {})
  (s.entries, s.warnings)

/-! ### Paths -/

/-- `extract_cpu_number_from_path`: the number after the first `cpu/cpu`, narrowed to 32 bits. -/
def extractCpuNumberFromPath (path : Bytes) : Option UInt32 := do
  let rest ← path.after (utf8 "cpu/cpu")
  let v ← parseUint (rest.takeWhile isDigit)
  return UInt32.ofNat v

/-- `extract_cache_key`: CPU and cache index of a cache path, narrowed to 32 bits. -/
def extractCacheKey (path : Bytes) : Option (UInt32 × UInt32) := do
  let cpuRest ← path.after (utf8 "cpu/cpu")
  let idxRest ← path.after (utf8 "/cache/index")
  let cpu ← parseUint (cpuRest.takeWhile isDigit)
  let idx ← parseUint (idxRest.takeWhile isDigit)
  return (UInt32.ofNat cpu, UInt32.ofNat idx)

/-! ### The sysfs topology -/

/-- The topology numbers sysfs reports for one CPU. -/
structure Topology where
  package : Option UInt32 := none
  core : Option UInt32 := none
  deriving DecidableEq, Inhabited

def packageFile : Bytes := utf8 "/topology/physical_package_id"
def coreFile : Bytes := utf8 "/topology/core_id"

/-- One record of the topology scan. -/
def scanTopology (topology : TreeMap UInt32 Topology compare) (record : RawEvidence) :
    TreeMap UInt32 Topology compare :=
  let path := record.pathOrCommand
  if !path.endsWith packageFile && !path.endsWith coreFile then topology
  else
    match extractCpuNumberFromPath path, parseUint32 record.payload with
    | some number, some value =>
      upsert topology number fun item =>
        if path.endsWith (utf8 "physical_package_id") then { item with package := some value }
        else { item with core := some value }
    | _, _ => topology

/-- The topology numbers of all successful records. -/
def sysfsTopology (raw : EvidenceStore) : TreeMap UInt32 Topology compare :=
  (raw.successes .sysfsCpu).foldl scanTopology ∅

/-- An entry under the numbers of a topology item. -/
def overrideEntry (entry : CpuInfoEntry) (item : Topology) : CpuInfoEntry :=
  { entry with
    physicalId := item.package.getD entry.physicalId
    coreId := item.core.getD entry.coreId }

/-- The loop over the entries: each one takes its topology item out of the map. -/
def overrideEntries (topology : TreeMap UInt32 Topology compare) :
    List CpuInfoEntry → List CpuInfoEntry × TreeMap UInt32 Topology compare
  | [] => ([], topology)
  | entry :: rest =>
    match topology[entry.processor]? with
    | some item =>
      let tail := overrideEntries (topology.erase entry.processor) rest
      (overrideEntry entry item :: tail.1, tail.2)
    | none =>
      let tail := overrideEntries topology rest
      (entry :: tail.1, tail.2)

/-- The entry of a CPU known from sysfs only, if its package and core are both known. -/
def offlineEntry (item : UInt32 × Topology) : Option CpuInfoEntry :=
  match item.2.package, item.2.core with
  | some package, some core =>
    some { processor := item.1, physicalId := package, coreId := core }
  | _, _ => none

/-- `apply_sysfs_topology`. -/
def applySysfsTopology (raw : EvidenceStore) (entries : List CpuInfoEntry) : List CpuInfoEntry :=
  let overridden := overrideEntries (sysfsTopology raw) entries
  overridden.1 ++ overridden.2.toList.filterMap offlineEntry

/-! ### Packages, cores and logical CPUs -/

/-- The raw core key: core numbers are unique per package only. -/
def CpuInfoEntry.coreKey (e : CpuInfoEntry) : UInt32 × UInt32 := (e.physicalId, e.coreId)

/-- `package_ids`. -/
def packageIds (entries : List CpuInfoEntry) : List UInt32 := sortedSet (entries.map (·.physicalId))

/-- `core_keys`. -/
def coreKeys (entries : List CpuInfoEntry) : List (UInt32 × UInt32) :=
  sortedSet (entries.map CpuInfoEntry.coreKey)

/-- The packages, numbered in key order, described by their first entry. -/
def buildPackages (entries : List CpuInfoEntry) : List CpuPackage :=
  (packageIds entries).zipIdx.map fun (pid, seq) =>
    match entries.find? (·.physicalId = pid) with
    | some e => { id := .ofNat seq, modelName := e.modelName, vendor := e.vendorId }
    | none => { id := .ofNat seq }

/-- The cores, numbered in key order. -/
def buildCores (entries : List CpuInfoEntry) : List CpuCore :=
  (coreKeys entries).zipIdx.map fun (key, seq) =>
    { id := .ofNat seq, packageId := .ofNat ((packageIds entries).idxOf key.1) }

/-- One logical CPU, or the warning about numbers that are in no map. -/
def buildLogicalCpu (entries : List CpuInfoEntry) (e : CpuInfoEntry) : Except Bytes LogicalCpu :=
  match (coreKeys entries).idxOf? e.coreKey with
  | none => .error (utf8 "parse_cpu: 逻辑 CPU " ++ decimal e.processor.toNat ++
      utf8 " 的 (physical_id=" ++ decimal e.physicalId.toNat ++ utf8 ", core_id=" ++
      decimal e.coreId.toNat ++ utf8 ") 未找到匹配核")
  | some core =>
    match (packageIds entries).idxOf? e.physicalId with
    | none => .error (utf8 "parse_cpu: 逻辑 CPU " ++ decimal e.processor.toNat ++
        utf8 " 的 physical_id=" ++ decimal e.physicalId.toNat ++ utf8 " 未找到匹配封装")
    | some package => .ok {
        id := e.processor
        coreId := .ofNat core
        packageId := .ofNat package
        visibleToCurrentProcess := some true
        identification := e.identification }

/-- The logical CPUs in entry order. -/
def buildLogicalCpus (entries : List CpuInfoEntry) : List LogicalCpu × List Bytes :=
  (entries.filterMap fun e => (buildLogicalCpu entries e).toOption,
    entries.filterMap fun e => match buildLogicalCpu entries e with
      | .error w => some w
      | .ok _ => none)

/-- A counter of 32 bits after a scan. -/
def countOf {α : Type} (p : α → Bool) (l : List α) : UInt32 := .ofNat (l.countP p)

/-- The counting scans over cores and logical CPUs. -/
def countMembers (cpu : Cpu) : Cpu :=
  { cpu with
    packages := cpu.packages.map fun pkg =>
      { pkg with
        physicalCores := countOf (·.packageId = pkg.id) cpu.cores
        logicalThreads := countOf (·.packageId = pkg.id) cpu.logicalCpus }
    cores := cpu.cores.map fun core =>
      { core with logicalThreads := countOf (·.coreId = core.id) cpu.logicalCpus } }

/-- `legacy_isa_extensions`. -/
def isaMap : List (Bytes × IsaExtension) :=
  [(utf8 "sse", .sse), (utf8 "sse2", .sse2), (utf8 "sse3", .sse3), (utf8 "ssse3", .ssse3),
   (utf8 "sse4_1", .sse41), (utf8 "sse4_2", .sse42), (utf8 "avx", .avx), (utf8 "avx2", .avx2),
   (utf8 "avx512f", .avx512f), (utf8 "avx512cd", .avx512cd), (utf8 "avx512bw", .avx512bw),
   (utf8 "avx512dq", .avx512dq), (utf8 "avx512vl", .avx512vl), (utf8 "aes", .aes),
   (utf8 "fma", .fma), (utf8 "f16c", .f16c), (utf8 "pclmulqdq", .pclmulqdq)]

def legacyIsaExtensions (flags : Bytes) : List IsaExtension :=
  let flagSet := (split flags 32).map trim
  (isaMap.filter fun entry => entry.1 ∈ flagSet).map Prod.snd

/-! ### Frequencies of a package -/

/-- A positive kilohertz value whose product with 1000 fits, in hertz. -/
def readKhz (payload : Bytes) : Option ℕ :=
  match parseUint payload with
  | some v => if 0 < v ∧ v ≤ maxUInt64 / 1000 then some (v * 1000) else none
  | none => none

/-- The state of the frequency scan: the distinct base frequencies and the largest maximum. -/
structure FrequencyScan where
  base : TreeSet ℕ compare := ∅
  max : Option ℕ := none

/-- One record of the frequency scan. -/
def scanFrequency (packageCpuIds : List UInt32) (s : FrequencyScan) (record : RawEvidence) :
    FrequencyScan :=
  match extractCpuNumberFromPath record.pathOrCommand with
  | none => s
  | some cpu =>
    if cpu ∉ packageCpuIds then s
    else
      let s := if record.pathOrCommand.hasSub (utf8 "base_frequency") then
          match readKhz record.payload with
          | some f => { s with base := s.base.insert f }
          | none => s
        else s
      if record.pathOrCommand.hasSub (utf8 "cpuinfo_max_freq") then
        match readKhz record.payload with
        | some f => { s with max := some (Nat.max (s.max.getD 0) f) }
        | none => s
      else s

/-- `read_cpufreq`: base frequency where the reports agree, and the largest maximum. -/
def readCpufreq (raw : EvidenceStore) (packageCpuIds : List UInt32) :
    Option Frequency × Option Frequency :=
  let s := (raw.successes .sysfsCpu).foldl (scanFrequency packageCpuIds) {}
  (match s.base.toList with
    | [f] => some (UInt64.ofNat f)
    | _ => none,
   s.max.map UInt64.ofNat)

/-- The frequencies of every package from the CPUs that belong to it. -/
def withFrequencies (raw : EvidenceStore) (entries : List CpuInfoEntry) (cpu : Cpu) : Cpu :=
  { cpu with
    packages := cpu.packages.map fun pkg =>
      let rawId := (((packageIds entries).zipIdx.find? fun entry => UInt32.ofNat entry.2 = pkg.id).map
        Prod.fst).getD 0
      let freqs := readCpufreq raw
        ((entries.filter (·.physicalId = rawId)).map (·.processor))
      { pkg with baseFrequency := freqs.1, maxFrequency := freqs.2 } }

/-! ### NUMA -/

/-- The largest number of CPUs the NUMA map takes. -/
def maxCpus : ℕ := 1024

/-- The condition of the range loop: the 64-bit counter is in range and the map is not full. -/
def numaRangeCond (last : ℕ) (s : ℕ × TreeMap UInt32 UInt32 compare) : Bool :=
  s.1 ≤ last && s.2.size < maxCpus

/-- One pass of the range loop: the counter is narrowed to 32 bits as key, and wraps at 64. -/
def numaRangeStep (node : UInt32) (s : ℕ × TreeMap UInt32 UInt32 compare) :
    ℕ × TreeMap UInt32 UInt32 compare :=
  ((s.1 + 1) % 2 ^ 64, s.2.insert (UInt32.ofNat s.1) node)

/-- The range loop. -/
def mapNumaRange (node : UInt32) (first last : ℕ) (m : TreeMap UInt32 UInt32 compare) :
    TreeMap UInt32 UInt32 compare :=
  (loopFor (numaRangeCond last) (numaRangeStep node) maxCpus (first, m)).2

/-- The scan over the comma-separated parts of one list; a full map ends it early. -/
def mapNumaParts (node : UInt32) :
    List Bytes → TreeMap UInt32 UInt32 compare → TreeMap UInt32 UInt32 compare
  | [], m => m
  | part :: rest, m =>
    let trimmed := trim part
    match Bytes.cut trimmed 45 with
    | some (left, right) =>
      match parseUint left, parseUint right with
      | some first, some last =>
        let m := mapNumaRange node first last m
        -- `rbegin()` is the largest mapped CPU; the map is not empty here
        if maxCpus ≤ m.size ∧ ((m.maxKey?).getD 0).toNat < last then m
        else mapNumaParts node rest m
      | _, _ => mapNumaParts node rest m
    | none =>
      match parseUint trimmed with
      | some cpu =>
        if maxCpus ≤ m.size then m
        else mapNumaParts node rest (m.insert (UInt32.ofNat cpu) node)
      | none => mapNumaParts node rest m

/-- The node number of a `node/nodeN/cpulist` path. -/
def numaNodeNumber (path : Bytes) : Option ℕ := do
  guard (path.hasSub (utf8 "cpulist"))
  let rest ← path.after (utf8 "node/node")
  let (number, _) ← Bytes.cut rest 47
  parseUint number

/-- One record of the NUMA scan. -/
def scanNuma (m : TreeMap UInt32 UInt32 compare) (record : RawEvidence) :
    TreeMap UInt32 UInt32 compare :=
  match numaNodeNumber record.pathOrCommand with
  | some node => mapNumaParts (UInt32.ofNat node) (split record.payload 44) m
  | none => m

/-- `build_numa_mapping`. -/
def buildNumaMapping (raw : EvidenceStore) : TreeMap UInt32 UInt32 compare :=
  (raw.successes .sysfsNuma).foldl scanNuma ∅

/-- `build_numa_nodes`: the nodes in order, each with its CPUs in order. -/
def buildNumaNodes (cpuToNuma : TreeMap UInt32 UInt32 compare) : List NumaNode :=
  (sortedSet (cpuToNuma.toList.map Prod.snd)).map fun node =>
    { id := node, cpus := (cpuToNuma.toList.filter (·.2 = node)).map Prod.fst }

/-- The NUMA node of every core, from its first logical CPU, and of every logical CPU. -/
def withNuma (cpuToNuma : TreeMap UInt32 UInt32 compare) (cpu : Cpu) : Cpu :=
  { cpu with
    cores := cpu.cores.map fun core =>
      match cpu.logicalCpus.find? (·.coreId = core.id) with
      | some lc => match cpuToNuma[lc.id]? with
        | some node => { core with numaNode := some node }
        | none => core
      | none => core
    logicalCpus := cpu.logicalCpus.map fun lc =>
      match cpuToNuma[lc.id]? with
      | some node => { lc with numaNode := some node }
      | none => lc
    numaNodes := buildNumaNodes cpuToNuma }

/-! ### Caches, governor and thermal zones -/

/-- The suffix factor of a cache size and the text before it. -/
def cacheSizeUnit (s : Bytes) : ℕ × Bytes :=
  match s.getLast? with
  | some c =>
    if c = 75 ∨ c = 107 then (1024, s.dropLast)
    else if c = 77 ∨ c = 109 then (1024 * 1024, s.dropLast)
    else if c = 71 ∨ c = 103 then (1024 * 1024 * 1024, s.dropLast)
    else (1, s)
  | none => (1, s)

/-- `parse_cache_size`. -/
def parseCacheSize (s : Bytes) : Option MemorySize :=
  let unit := cacheSizeUnit (trim s)
  match parseUint unit.2 with
  | some v => if maxUInt64 / unit.1 < v then none else some (UInt64.ofNat (v * unit.1))
  | none => none

/-- `parse_cache_type`. -/
def parseCacheType (s : Bytes) : CacheType :=
  if trim s = utf8 "Data" then .data
  else if trim s = utf8 "Instruction" then .instruction
  else if trim s = utf8 "Unified" then .unified
  else .other

/-- One attribute of a cache group; level, ways and line size are narrowed to 32 bits. -/
def readCacheField (cache : CpuCache) (path payload : Bytes) : CpuCache :=
  if !path.hasSub (utf8 "cache/index") then cache
  else if path.endsWith (utf8 "/shared_cpu_list") then
    match CpuDetails.parseCpuIdList payload with
    | some ids => { cache with sharedCpus := ids }
    | none => cache
  else if path.endsWith (utf8 "/id") ∨ path.endsWith (utf8 "/number_of_sets") then
    match parseUint32 payload with
    | some number =>
      if path.endsWith (utf8 "/id") then { cache with cacheId := some number }
      else { cache with sets := some number }
    | none => cache
  else if path.hasSub (utf8 "/level") then
    match parseUint payload with
    | some v => { cache with level := UInt32.ofNat v }
    | none => cache
  else if path.hasSub (utf8 "/type") then { cache with type := parseCacheType payload }
  else if path.hasSub (utf8 "/size") then
    match parseCacheSize payload with
    | some v => { cache with size := v }
    | none => cache
  else if path.hasSub (utf8 "ways_of_associativity") then
    match parseUint payload with
    | some v => { cache with ways := UInt32.ofNat v }
    | none => cache
  else if path.hasSub (utf8 "coherency_line_size") then
    match parseUint payload with
    | some v => { cache with lineSize := UInt32.ofNat v }
    | none => cache
  else cache

/-- One record of the cache scan. -/
def scanCache (m : TreeMap (UInt32 × UInt32) CpuCache compare) (record : RawEvidence) :
    TreeMap (UInt32 × UInt32) CpuCache compare :=
  match extractCacheKey record.pathOrCommand with
  | some key =>
    upsert m key fun cache =>
      readCacheField { cache with cpuNumber := key.1 } record.pathOrCommand record.payload
  | none => m

/-- Two reports of one cache instance; absent sharing evidence never merges. -/
def sameCacheInstance (cache other : CpuCache) : Bool :=
  cache.sharedCpus ≠ [] ∧ cache.level = other.level ∧ cache.type = other.type ∧
    cache.sharedCpus = other.sharedCpus ∧ cache.cacheId = other.cacheId ∧
    cache.size = other.size ∧ cache.ways = other.ways ∧ cache.lineSize = other.lineSize ∧
    cache.sets = other.sets

/-- `read_cpu_caches`. -/
def readCpuCaches (raw : EvidenceStore) : List CpuCache :=
  let groups := ((raw.successes .sysfsCpu).foldl scanCache ∅).toList
  groups.foldl (fun caches entry =>
    if caches.any (sameCacheInstance entry.2) then caches else caches ++ [entry.2]) []

/-- `read_cpu_governor`: the common governor, or `mixed`. -/
def readCpuGovernor (raw : EvidenceStore) : Bytes :=
  let governors := sortedSet <| ((raw.successes .sysfsCpu).filter
    (·.pathOrCommand.endsWith (utf8 "/scaling_governor"))).filterMap fun record =>
      if (trim record.payload).isEmpty then none else some (trim record.payload)
  match governors with
  | [] => []
  | [governor] => governor
  | _ => utf8 "mixed"

/-- The state of the thermal scan: the zones by name and the names that have a temperature. -/
structure ThermalScan where
  zones : TreeMap Bytes ThermalZone compare := ∅
  measured : TreeSet Bytes compare := ∅

/-- One record of the thermal scan. -/
def scanThermal (s : ThermalScan) (record : RawEvidence) : ThermalScan :=
  match record.pathOrCommand.rfindFrom (utf8 "thermal_zone") with
  | none => s
  | some tail =>
    let name := tail.takeWhile (· ≠ 47)
    let filename := extractFilename record.pathOrCommand
    let zones := upsert s.zones name fun zone => { zone with name := name }
    if filename = utf8 "type" then
      { s with zones := upsert zones name fun zone => { zone with type := trim record.payload } }
    else if filename = utf8 "temp" then
      match parseUint record.payload with
      | some v =>
        { zones := upsert zones name fun zone => { zone with temp := UInt64.ofNat v }
          measured := s.measured.insert name }
      | none => { s with zones := zones }
    else { s with zones := zones }

/-- `read_thermal_zones`. -/
def readThermalZones (raw : EvidenceStore) : List ThermalZone :=
  let s := (raw.successes .sysfsThermal).foldl scanThermal {}
  (s.zones.toList.filter fun entry => s.measured.contains entry.1).map Prod.snd

/-! ### The parser -/

/-- The topology part of the result: packages, cores and logical CPUs with their counts. -/
def buildTopology (entries : List CpuInfoEntry) : Cpu :=
  countMembers
    { packages := buildPackages entries
      cores := buildCores entries
      logicalCpus := (buildLogicalCpus entries).1 }

/-- The instruction-set sample and the architecture, from the first entry. -/
def withFirstEntry (first : CpuInfoEntry) (cpu : Cpu) : Cpu :=
  { cpu with
    isaExtensions := if first.flags = [] then cpu.isaExtensions
      else legacyIsaExtensions first.flags
    arch := if first.vendorId.hasSub (utf8 "GenuineIntel") ∨
        first.vendorId.hasSub (utf8 "AuthenticAMD") then .x86_64 else cpu.arch }

/-- Everything after the entries are known. -/
def buildCpu (raw : EvidenceStore) (entries : List CpuInfoEntry) : Cpu × List Bytes :=
  let cpu := withFrequencies raw entries (buildTopology entries)
  let cpu := withNuma (buildNumaMapping raw) cpu
  let details := CpuDetails.readCpuDetails raw cpu
  let cpu := { details.1 with
    caches := readCpuCaches raw
    governor := readCpuGovernor raw
    thermalZones := readThermalZones raw }
  (withFirstEntry (entries.headD default) cpu, (buildLogicalCpus entries).2 ++ details.2)

/-- `parse_cpu`: the CPU subsystem if there is any entry, and the warnings. -/
def parseCpu (raw : EvidenceStore) : Option Cpu × List Bytes :=
  match (raw.successes .procCpuInfo).head? with
  | none => (none, [utf8 "parse_cpu: 缺少 /proc/cpuinfo 数据"])
  | some record =>
    let info := parseCpuinfo record.payload
    if info.1.isEmpty then
      (none, info.2 ++ [utf8 "parse_cpu: /proc/cpuinfo 无有效条目"])
    else
      let result := buildCpu raw (applySysfsTopology raw info.1)
      (some result.1, info.2 ++ result.2)

end Sysal.CpuParser
