import Sysal.Parser.MemoryTopology

/-!
# The memory parser

`memory.cpp`: the totals of `/proc/meminfo`, the memory of the NUMA nodes, and the modules that `udev`
reports.
-/

namespace Sysal.MemoryParser

open Sysal Std

/-! ### `/proc/meminfo` -/

/-- A size in kilobytes, such as `395617072 kB`: its first word counts. -/
def kbField (value : Bytes) : Option MemorySize := parseKbToBytes (trim ((split value 32).headD []))

/-- The totals of `/proc/meminfo`, and the warnings. -/
structure MeminfoScan where
  total : MemorySize := 0
  available : Option MemorySize := none
  warnings : List Bytes := []
  deriving DecidableEq, Inhabited

/-- One line of `/proc/meminfo`. -/
def scanMeminfoLine (s : MeminfoScan) (line : Bytes) : MeminfoScan :=
  let (key, value) := parseKv line 58
  if key = utf8 "MemTotal" then
    match kbField value with
    | some size => { s with total := size }
    | none => { s with warnings := s.warnings ++ [utf8 "parse_memory: MemTotal 值解析失败: " ++ value] }
  else if key = utf8 "MemAvailable" then
    match kbField value with
    | some size => { s with available := some size }
    | none =>
        { s with warnings := s.warnings ++ [utf8 "parse_memory: MemAvailable 值解析失败: " ++ value] }
  else s

/-- `parse_meminfo`. -/
def parseMeminfo (payload : Bytes) : MeminfoScan := (split payload 10).foldl scanMeminfoLine {}

/-! ### NUMA nodes -/

/-- The key under which the `meminfo` of a node reports a field. -/
def numaKey (node : NumaNodeId) (field : Bytes) : Bytes :=
  utf8 "Node " ++ decimal node.toNat ++ utf8 " " ++ field

/-- One line of the `meminfo` of a node. -/
def scanNumaLine (node : NumaNodeId) (s : NumaMemory × List Bytes) (line : Bytes) :
    NumaMemory × List Bytes :=
  let (key, value) := parseKv line 58
  if trim key = numaKey node (utf8 "MemTotal") then
    match kbField value with
    | some size => ({ s.1 with total := size }, s.2)
    | none => (s.1, s.2 ++ [utf8 "parse_numa_meminfo: node " ++ decimal node.toNat ++
        utf8 " Total 值解析失败: " ++ value])
  else if trim key = numaKey node (utf8 "MemFree") then
    match kbField value with
    | some size => ({ s.1 with free := some size }, s.2)
    | none => (s.1, s.2 ++ [utf8 "parse_numa_meminfo: node " ++ decimal node.toNat ++
        utf8 " Free 值解析失败: " ++ value])
  else s

/-- `parse_numa_meminfo`. -/
def parseNumaMeminfo (payload : Bytes) (node : NumaNodeId) : NumaMemory × List Bytes :=
  (split payload 10).foldl (scanNumaLine node) ({ node := node }, [])

/-- The node number of a `node/nodeN/meminfo` path. -/
def meminfoNodeNumber (path : Bytes) : Option ℕ := do
  guard (path.hasSub (utf8 "meminfo"))
  let rest ← path.after (utf8 "node/node")
  let (number, _) ← Bytes.cut rest 47
  parseUint number

/-- One record of the NUMA scan; the node number is narrowed to 32 bits. -/
def scanNumaMeminfo (s : List NumaMemory × List Bytes) (record : RawEvidence) :
    List NumaMemory × List Bytes :=
  match meminfoNodeNumber record.pathOrCommand with
  | none => s
  | some number =>
      let node := parseNumaMeminfo record.payload (UInt32.ofNat number)
      (if 0 < node.1.total then s.1 ++ [node.1] else s.1, s.2 ++ node.2)

/-! ### Memory modules -/

/-- A positive number, for a field of 64 bits. -/
def positive64 (value : Bytes) : Option UInt64 :=
  ((parseUint value).filter (0 < ·)).map UInt64.ofNat

/-- A positive number that fits a field of 32 bits. -/
def positive32 (value : Bytes) : Option UInt32 := (parseUint32 value).filter (0 < ·)

/-- A voltage in volts with up to three decimals, at most a hundred. -/
def configuredVoltage (value : Bytes) : Option Millivolts :=
  let parts := split value 46
  let fraction := (parts[1]?).getD []
  if 2 < parts.length ∨ 3 < fraction.length then none
  else
    match parseUint (parts.headD []),
        parseUint (fraction ++ List.replicate (3 - fraction.length) 48) with
    | some whole, some decimals =>
        if whole ≤ 100 ∧ decimals < 1000 then some (.ofNat (whole * 1000 + decimals)) else none
    | _, _ => none

/-- One field of a module; a number that cannot be read leaves the module as it is. -/
def setDimmField (dimm : DimmInfo) (field value : Bytes) : DimmInfo :=
  if field = utf8 "TYPE" then { dimm with memoryType := value }
  else if field = utf8 "SPEED_MTS" then
    { dimm with speedMts := (positive64 value).or dimm.speedMts }
  else if field = utf8 "CONFIGURED_SPEED_MTS" then
    { dimm with configuredSpeedMts := (positive64 value).or dimm.configuredSpeedMts }
  else if field = utf8 "SIZE" then
    { dimm with size := ((parseUint value).map UInt64.ofNat).getD dimm.size }
  else if field = utf8 "MANUFACTURER" then { dimm with manufacturer := some value }
  else if field = utf8 "PART_NUMBER" then { dimm with partNumber := some value }
  else if field = utf8 "LOCATOR" then { dimm with locator := value }
  else if field = utf8 "BANK_LOCATOR" then { dimm with bankLocator := value }
  else if field = utf8 "RANK" then { dimm with rank := (positive32 value).or dimm.rank }
  else if field = utf8 "TOTAL_WIDTH" then
    { dimm with totalWidth := (positive32 value).or dimm.totalWidth }
  else if field = utf8 "DATA_WIDTH" then
    { dimm with dataWidth := (positive32 value).or dimm.dataWidth }
  else if field = utf8 "FORM_FACTOR" then { dimm with formFactor := some value }
  else if field = utf8 "SERIAL_NUMBER" then { dimm with serial := value }
  else if field = utf8 "ASSET_TAG" then { dimm with assetTag := value }
  else if field = utf8 "TYPE_DETAIL" then { dimm with typeDetail := value }
  else if field = utf8 "CONFIGURED_VOLTAGE" then
    { dimm with configuredVoltageMv := (configuredVoltage value).or dimm.configuredVoltageMv }
  else if field = utf8 "PRESENT" then { dimm with present := value = utf8 "1" }
  else dimm

/-- The state of the `udev` scan: the modules by number, the ones whose presence is reported, the
memory type of all of them and the warnings. -/
structure DimmScan where
  dimms : TreeMap UInt32 DimmInfo compare := ∅
  presentSeen : TreeSet UInt32 compare := ∅
  memoryType : Bytes := []
  warnings : List Bytes := []

/-- What a line of the report says: nothing, a warning, or a value for a field of a module. -/
inductive DimmLine where
  | skip
  | warning (text : Bytes)
  | entry (index : UInt32) (field value : Bytes)
  deriving DecidableEq

def dimmPrefix : Bytes := utf8 "MEMORY_DEVICE_"

/-- The module and the field a key names. -/
def dimmKey (key value : Bytes) : DimmLine :=
  match Bytes.cut (key.drop dimmPrefix.length) 95 with
  | none => .warning (utf8 "parse_udevadm_dimms: key 前缀后无下划线: " ++ key)
  | some (number, field) =>
      if field.isEmpty then .warning (utf8 "parse_udevadm_dimms: key 下划线后无字段: " ++ key)
      else
        match parseUint32 number with
        | none => .warning (utf8 "parse_udevadm_dimms: 索引解析失败: " ++ key)
        | some index => .entry index field value

/-- One line `E: KEY=VALUE` of the report. -/
def readDimmLine (line : Bytes) : DimmLine :=
  let trimmed := trim line
  if trimmed.head? ≠ some 69 then .skip
  else
    let (tag, rest) := parseKv trimmed 58
    if tag ≠ utf8 "E" then .warning (utf8 "parse_udevadm_dimms: 非 E 标签: " ++ trimmed)
    else if rest.isEmpty then .warning (utf8 "parse_udevadm_dimms: E: 值为空: " ++ trimmed)
    else
      match Bytes.cut rest 61 with
      | none => .skip
      | some (left, right) =>
          let key := trim left
          let value := hardwareText right
          if value.isEmpty ∨ key.length ≤ dimmPrefix.length ∨ ¬key.startsWith dimmPrefix then .skip
          else dimmKey key value

/-- One line of the report. -/
def scanDimmLine (s : DimmScan) (line : Bytes) : DimmScan :=
  match readDimmLine line with
  | .skip => s
  | .warning text => { s with warnings := s.warnings ++ [text] }
  | .entry index field value =>
      { s with
        dimms := upsert s.dimms index fun dimm => setDimmField dimm field value
        memoryType := if field = utf8 "TYPE" then mergeMemoryType s.memoryType value
          else s.memoryType
        presentSeen := if field = utf8 "PRESENT" then s.presentSeen.insert index
          else s.presentSeen }

/-- A module whose presence is not reported is present where it has a size. -/
def settlePresence (presentSeen : TreeSet UInt32 compare) (entry : UInt32 × DimmInfo) : DimmInfo :=
  if presentSeen.contains entry.1 then entry.2
  else { entry.2 with present := 0 < entry.2.size }

/-- One module of the common-speed scan: whether every speed so far is known and the same, and the
speed. -/
def scanSpeed (s : Bool × Option TransferRate) (dimm : DimmInfo) : Bool × Option TransferRate :=
  if !dimm.present then s
  else
    match dimm.configuredSpeedMts, s.2 with
    | none, _ => (false, s.2)
    | some speed, none => (s.1, some speed)
    | some speed, some common => (s.1 && common = speed, s.2)

/-- The configured speed that all present modules have, starting from the one reported before. -/
def commonSpeed (configured : Option TransferRate) (dimms : List DimmInfo) : Option TransferRate :=
  let s := dimms.foldl scanSpeed (true, configured)
  if s.1 then s.2 else none

/-- What the `udev` reports read so far say about the modules. -/
structure UdevDimms where
  dimms : List DimmInfo := []
  memoryType : Bytes := []
  configuredSpeed : Option TransferRate := none
  warnings : List Bytes := []
  deriving DecidableEq, Inhabited

/-- `parse_udevadm_dimms`. -/
def parseUdevadmDimms (before : UdevDimms) (payload : Bytes) : UdevDimms :=
  let s := (split payload 10).foldl scanDimmLine { memoryType := before.memoryType }
  let dimms := s.dimms.toList.map (settlePresence s.presentSeen)
  { dimms := dimms
    memoryType := s.memoryType
    configuredSpeed := commonSpeed before.configuredSpeed dimms
    warnings := before.warnings ++ s.warnings }

/-- The loop over the reports, left at the first one with modules. -/
def udevDimms : UdevDimms → List RawEvidence → UdevDimms
  | s, [] => s
  | s, record :: rest =>
      let next := parseUdevadmDimms s record.payload
      if next.dimms.isEmpty then udevDimms next rest else next

/-! ### The parser -/

/-- The numbers of slots and of populated slots. -/
def countDimms (memory : Memory) : Memory :=
  if memory.dimms.isEmpty then memory
  else { memory with
    dimmCount := some (UInt32.ofNat memory.dimms.length)
    populatedDimms := some (UInt32.ofNat (memory.dimms.countP (·.present))) }

/-- `parse_memory`: the memory if `/proc/meminfo` states a total, and the warnings. -/
def parseMemory (raw : EvidenceStore) : Option Memory × List Bytes :=
  match (raw.successes .procMemInfo).head? with
  | none => (none, [utf8 "parse_memory: 缺少 /proc/meminfo 数据"])
  | some record =>
      let meminfo := parseMeminfo record.payload
      if meminfo.total = 0 then
        (none, meminfo.warnings ++ [utf8 "parse_memory: MemTotal 为 0 或未找到"])
      else
        let numa := (raw.successes .sysfsNuma).foldl scanNumaMeminfo ([], [])
        let udev := udevDimms {} (raw.successes .udevadm)
        let (memory, memoryType) := applyEdacInventory raw
          ({ totalMemory := meminfo.total
             availableMemory := meminfo.available
             numaMemory := numa.1
             dimms := udev.dimms
             dimmInventorySource := if udev.dimms.isEmpty then [] else utf8 "udev" },
            udev.memoryType)
        let memory := countDimms { memory with
          memoryType := memoryType
          configuredSpeedMts := udev.configuredSpeed }
        (some (applyMemoryTopology raw memory), meminfo.warnings ++ numa.2 ++ udev.warnings)

end Sysal.MemoryParser
