import Sysal.Parser.Cgroup
import Sysal.Parser.CpuDetails

/-!
# The execution context

`execution.cpp`: the status of the process, its control group, the environment, the limits and the
container it runs in.
-/

namespace Sysal

namespace ExecutionParser

/-! ### The status of the process -/

/-- The capabilities with a name, and their bits. -/
def capabilityTable : List (ℕ × Bytes) :=
  [(0, utf8 "CAP_CHOWN"), (1, utf8 "CAP_DAC_OVERRIDE"), (3, utf8 "CAP_FOWNER"),
   (4, utf8 "CAP_FSETID"), (5, utf8 "CAP_KILL"), (6, utf8 "CAP_SETGID"), (7, utf8 "CAP_SETUID"),
   (8, utf8 "CAP_SETPCAP"), (10, utf8 "CAP_NET_BIND_SERVICE"), (11, utf8 "CAP_NET_BROADCAST"),
   (12, utf8 "CAP_NET_ADMIN"), (13, utf8 "CAP_NET_RAW"), (14, utf8 "CAP_IPC_LOCK"),
   (15, utf8 "CAP_IPC_OWNER"), (16, utf8 "CAP_SYS_MODULE"), (17, utf8 "CAP_SYS_RAWIO"),
   (18, utf8 "CAP_SYS_CHROOT"), (19, utf8 "CAP_SYS_PTRACE"), (20, utf8 "CAP_SYS_PACCT"),
   (21, utf8 "CAP_SYS_ADMIN"), (22, utf8 "CAP_SYS_BOOT"), (23, utf8 "CAP_SYS_NICE"),
   (24, utf8 "CAP_SYS_RESOURCE"), (25, utf8 "CAP_SYS_TIME"), (26, utf8 "CAP_SYS_TTY_CONFIG"),
   (27, utf8 "CAP_MKNOD"), (28, utf8 "CAP_LEASE"), (29, utf8 "CAP_AUDIT_WRITE"),
   (30, utf8 "CAP_AUDIT_CONTROL"), (31, utf8 "CAP_SETFCAP"), (32, utf8 "CAP_MAC_OVERRIDE"),
   (33, utf8 "CAP_MAC_ADMIN"), (34, utf8 "CAP_SYSLOG"), (35, utf8 "CAP_WAKE_ALARM"),
   (36, utf8 "CAP_BLOCK_SUSPEND"), (37, utf8 "CAP_AUDIT_READ"), (38, utf8 "CAP_PERFMON"),
   (39, utf8 "CAP_BPF"), (40, utf8 "CAP_CHECKPOINT_RESTORE")]

/-- `decode_capabilities`. -/
def decodeCapabilities (hex : Bytes) : List Bytes :=
  match parseHex hex with
  | some mask => (capabilityTable.filter fun entry => mask.testBit entry.1).map (·.2)
  | none => []

/-- The real and the effective identifier of a `Uid` or `Gid` line, each one where it can be read. -/
def parseIds (value : Bytes) : Option UInt32 × Option UInt32 :=
  let number (part : Bytes) : Option UInt32 := (parseUint part).map .ofNat
  match split value 9 with
  | real :: effective :: _ => (number real, number effective)
  | [real] => (number real, none)
  | [] => (none, none)

/-- One line of the status: the context after it, and the warnings. -/
def parseStatusLine (ctx : ExecutionContext) (line : Bytes) : ExecutionContext × List Bytes :=
  let (key, value) := parseKv line 58
  if key = utf8 "Pid" then
    match parseUint value with
    | some v => ({ ctx with process := { ctx.process with pid := .ofNat v } }, [])
    | none => (ctx, [])
  else if key = utf8 "PPid" then
    match parseUint value with
    | some v => ({ ctx with process := { ctx.process with ppid := .ofNat v } }, [])
    | none => (ctx, [])
  else if key = utf8 "Name" then ({ ctx with process := { ctx.process with comm := value } }, [])
  else if key = utf8 "Uid" then
    let ids := parseIds value
    ({ ctx with
        process := { ctx.process with uid := ids.1.getD ctx.process.uid }
        permission := { ctx.permission with euid := ids.2.getD ctx.permission.euid } }, [])
  else if key = utf8 "Gid" then
    let ids := parseIds value
    ({ ctx with
        process := { ctx.process with gid := ids.1.getD ctx.process.gid }
        permission := { ctx.permission with egid := ids.2.getD ctx.permission.egid } }, [])
  else if key = utf8 "CapEff" then
    ({ ctx with permission := { ctx.permission with capabilities := decodeCapabilities value } }, [])
  else if key = utf8 "Cpus_allowed_list" then
    let ctx := { ctx with cpuset := { ctx.cpuset with cpus := value, cpusEffective := value } }
    match CpuDetails.parseCpuIdList value with
    | some ids => ({ ctx with visibleLogicalCpuIds := ids, cpuVisibilityKnown := true }, [])
    | none =>
        (ctx, [utf8 "parse_execution: invalid or oversized Cpus_allowed_list; CPU visibility unknown"])
  else if key = utf8 "Mems_allowed_list" then
    ({ ctx with cpuset := { ctx.cpuset with mems := value, memsEffective := value } }, [])
  else (ctx, [])

/-- `parse_proc_self_status`. -/
def parseProcSelfStatus (payload : Bytes) (ctx : ExecutionContext) : ExecutionContext × List Bytes :=
  let s := (split payload 10).foldl (fun s line =>
    let next := parseStatusLine s.1 line
    (next.1, s.2 ++ next.2)) (ctx, [])
  ({ s.1 with permission := { s.1.permission with
      isRoot := s.1.permission.euid = 0 ∧ s.1.permission.egid = 0 } }, s.2)

/-! ### The control group -/

/-- One line of the membership, if it settles the control group. -/
def parseCgroupLine (group : Cgroup) (line : Bytes) : Option Cgroup :=
  let trimmed := trim line
  if trimmed = [] then none
  else if trimmed.startsWith (utf8 "0::") then
    some { group with version := .v2, path := trimmed.drop 3 }
  else
    match Bytes.cut trimmed 58 with
    | none => none
    | some (_, rest) =>
        match Bytes.cut rest 58 with
        | none => none
        | some (controllers, path) =>
            some { group with
              version := .v1
              path := path
              controllers := group.controllers ++
                ((split controllers 44).map trim).filter (· ≠ []) }

/-- `parse_proc_self_cgroup`: the first line that settles it. -/
def parseProcSelfCgroup (payload : Bytes) (ctx : ExecutionContext) : ExecutionContext :=
  { ctx with cgroup := ((split payload 10).findSome? (parseCgroupLine ctx.cgroup)).getD ctx.cgroup }

/-! ### The environment -/

/-- One line of the environment, if it is an entry. -/
def parseEnvironmentLine (line : Bytes) : Option (Bytes × Bytes) :=
  let trimmed := trim line
  if trimmed = [] then none else Bytes.cut trimmed 61

/-- The devices a list of ordinals names. -/
def visibleOrdinals (entry : Bytes × Bytes) : List AcceleratorId :=
  if entry.1 = utf8 "CUDA_VISIBLE_DEVICES" then
    (split entry.2 44).filterMap fun text => (parseUint (trim text)).map .ofNat
  else []

/-- `parse_environment`. -/
def parseEnvironment (payload : Bytes) (ctx : ExecutionContext) : ExecutionContext :=
  let entries := ctx.environment.entries ++ (split payload 10).filterMap parseEnvironmentLine
  { ctx with
    environment := { entries := entries }
    visibleAcceleratorIds := ctx.visibleAcceleratorIds ++ entries.flatMap visibleOrdinals }

/-! ### The container -/

/-- The container a control group path gives away. -/
def containerOfCgroup (content : Bytes) : Option ContainerKind :=
  if content.hasSub (utf8 "docker") then some .docker
  else if content.hasSub (utf8 "podman") then some .podman
  else if content.hasSub (utf8 "lxc") then some .lxc
  else if content.hasSub (utf8 "kubepods") ∨ content.hasSub (utf8 "kube") then some .kubernetes
  else none

/-- The container a variable of the environment gives away. -/
def containerOfEntry (entry : Bytes × Bytes) : Option Container :=
  if entry.1 = utf8 "container" then
    if entry.2 = utf8 "docker" then some { kind := .docker }
    else if entry.2 = utf8 "podman" then some { kind := .podman }
    else if entry.2 = utf8 "lxc" then some { kind := .lxc }
    else some { kind := .other, id := entry.2 }
  else if entry.1 = utf8 "KUBERNETES_SERVICE_HOST" then some { kind := .kubernetes }
  else none

/-- `detect_container`. -/
def detectContainer (raw : EvidenceStore) (ctx : ExecutionContext) : Option Container :=
  if raw.hasSuccess .rootDockerenv then some { kind := .docker }
  else
    match (raw.successes .procOneCgroup).findSome? fun r => containerOfCgroup r.payload with
    | some kind => some { kind := kind }
    | none => ctx.environment.entries.findSome? containerOfEntry

end ExecutionParser

open ExecutionParser

/-- `parse_execution`: the context, if there is any evidence for it, and the warnings. -/
def parseExecution (raw : EvidenceStore) : Option ExecutionContext × List Bytes :=
  let status := (raw.successes .procSelfStatus).head?
  let cgroup := (raw.successes .procSelfCgroup).head?
  let environment := (raw.successes .environment).head?
  let (ctx, statusWarnings) := match status with
    | some record => parseProcSelfStatus record.payload {}
    | none => ({}, [])
  let ctx := match cgroup with
    | some record => parseProcSelfCgroup record.payload ctx
    | none => ctx
  let ctx := match environment with
    | some record => parseEnvironment record.payload ctx
    | none => ctx
  let (ctx, limitWarnings) := parseCgroupLimits raw ctx
  let hasData := status.isSome || cgroup.isSome || environment.isSome ||
    raw.hasSource .cgroupFile
  let ctx := { ctx with container := detectContainer raw ctx }
  (if hasData then some ctx else none, statusWarnings ++ limitWarnings)

namespace ExecutionParser

/-! ### Where a context comes from -/

/-- The variables that the environment record lists. -/
def environmentEntries (raw : EvidenceStore) : List (Bytes × Bytes) :=
  match (raw.successes .environment).head? with
  | some record => (split record.payload 10).filterMap parseEnvironmentLine
  | none => []

end ExecutionParser

end Sysal
