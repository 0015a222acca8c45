import Sysal.Foundation.ShellWords

/-!
# Names in the command lines of the readers

The readers of drive health and of network capabilities hand the shell a line with the name of a
device or of an interface in it, put between single quotes by `shell_argument`.

* `run_shellArgument`: what the shell's scanner makes of a quoted name;
* `shellArgument_spec`: no byte of a name is interpreted, and every command line has the name as one
  argument.
-/

namespace Sysal.ShellCommands

open Sysal Shell

/-! ### The lines -/

/-- What a byte is written as between single quotes. -/
def quoteByte (ch : UInt8) : Bytes := if ch = 39 then utf8 "'\\''" else [ch]

/-- `shell_argument`. -/
def shellArgument (value : Bytes) : Bytes := utf8 "'" ++ value.flatMap quoteByte ++ utf8 "'"

/-- `command.c_str()`: what the shell gets of a command. -/
def cStr (command : Bytes) : Bytes := command.takeWhile (· ≠ 0)

/-- The protocols `read_storage_health` asks with. -/
def protocols : List Bytes := [utf8 "nvme", utf8 "ata", utf8 "scsi"]

/-- The line `query` runs for a target. -/
def smartctlCommand (target protocol : Bytes) : Bytes :=
  let argument := shellArgument (utf8 "/dev/" ++ target)
  let power := if protocol = utf8 "ata" then utf8 " -n standby,3,5"
    else if protocol = utf8 "scsi" then utf8 " -n standby,3" else []
  let data := if protocol = utf8 "scsi" then utf8 " -H -l error" else utf8 " -H -A"
  utf8 "LC_ALL=C smartctl --json=v" ++ data ++ utf8 " -d " ++ protocol ++ power ++ utf8 " " ++ argument

/-- The line `query` falls back to where there is no `smartctl`. -/
def nvmeSmartLogCommand (target : Bytes) : Bytes :=
  let argument := shellArgument (utf8 "/dev/" ++ target)
  utf8 "LC_ALL=C nvme smart-log " ++ argument ++ utf8 " -o json"

/-- The options of the queries of `read_network_capabilities`. -/
def ethtoolOptions : List Bytes := [[], utf8 "-i ", utf8 "-P "]

/-- The lines `read_network_capabilities` runs, up to the first that finds no tool. -/
def networkCapabilityCommands (interface : Bytes) : List Bytes :=
  if interface = [] ∨ interface.head? = some 45 then []
  else
    let argument := shellArgument interface
    ethtoolOptions.map fun option => utf8 "LC_ALL=C ethtool " ++ option ++ argument

/-! ### A quoted name -/

/-- Inside of quotes a byte of the name is one literal letter. -/
theorem run_quoteByte (tokens : List Token) (letters : List Letter) (ch : UInt8) :
    (Scanner.inQuotes tokens letters).run (quoteByte ch) =
      Scanner.inQuotes tokens (letters ++ [.literal ch]) := by
  rw [quoteByte]
  split_ifs with h
  · subst h
    exact Scanner.run_escapedQuote tokens letters
  · exact Scanner.step_inQuotes tokens letters h

theorem run_quoteBytes (tokens : List Token) (letters : List Letter) (value : Bytes) :
    (Scanner.inQuotes tokens letters).run (value.flatMap quoteByte) =
      Scanner.inQuotes tokens (letters ++ value.map .literal) := by
  induction value generalizing letters with
  | nil => rw [List.flatMap_nil, List.map_nil, List.append_nil, Scanner.run_nil]
  | cons ch value ih =>
      rw [List.flatMap_cons, Scanner.run_append, run_quoteByte, ih, List.map_cons, List.append_assoc,
        List.singleton_append]

/-- A quoted name is one word under construction, all of its letters literal, outside of quotes. -/
theorem run_shellArgument (tokens : List Token) (value : Bytes) :
    (Scanner.between tokens).run (shellArgument value) =
      Scanner.inWord tokens (value.map .literal) := by
  have hquote : utf8 "'" = [39] := by decide +kernel
  have hopen : (Scanner.between tokens).run [39] = Scanner.inQuotes tokens [] :=
    Scanner.step_openQuote tokens
  have hclose : (Scanner.inQuotes tokens (value.map .literal)).run [39] =
      Scanner.inWord tokens (value.map .literal) := Scanner.step_closeQuote tokens _
  rw [shellArgument, Scanner.run_append, Scanner.run_append, hquote, hopen, run_quoteBytes,
    List.nil_append, hclose]

/-- Outside of quotes a blank leaves the scanner between two tokens. -/
theorem step_blank_between {s : Scanner} (hs : s.mode = .plain) {c : UInt8} (hc : isBlank c = true) :
    s.step c = Scanner.between s.delimit.tokens := by
  rw [Scanner.step_blank hs hc, Scanner.delimit, hs]
  rfl

/-- Between blanks outside of quotes a quoted name is one word. -/
theorem run_blank_shellArgument_blank {s : Scanner} (hs : s.mode = .plain) {before after : UInt8}
    (hbefore : isBlank before = true) (hafter : isBlank after = true) (value : Bytes) :
    s.run (before :: (shellArgument value ++ [after])) =
      Scanner.between (s.delimit.tokens ++ [.word (value.map .literal)]) := by
  rw [Scanner.run_cons, step_blank_between hs hbefore, Scanner.run_append, run_shellArgument]
  exact Scanner.step_inWord_blank _ _ hafter

/-! ### The lines of the readers -/

/-- A line without a NUL reaches the shell as it is. -/
theorem cStr_of_notMem {command : Bytes} (h : (0 : UInt8) ∉ command) : cStr command = command := by
  rw [cStr, List.takeWhile_eq_self_iff]
  intro c hc
  exact decide_eq_true fun hzero => h (hzero ▸ hc)

theorem zero_notMem_shellArgument {value : Bytes} (h : (0 : UInt8) ∉ value) :
    (0 : UInt8) ∉ shellArgument value := by
  have hquote : (0 : UInt8) ∉ utf8 "'" := by decide +kernel
  have hescape : (0 : UInt8) ∉ utf8 "'\\''" := by decide +kernel
  rw [shellArgument, List.mem_append, List.mem_append, List.mem_flatMap]
  rintro ((hmem | ⟨ch, hch, hmem⟩) | hmem)
  · exact hquote hmem
  · rw [quoteByte] at hmem
    split_ifs at hmem
    · exact hescape hmem
    · exact h (List.mem_singleton.mp hmem ▸ hch)
  · exact hquote hmem

/-- What a fixed text in front of a quoted name has to be: words, and a blank at the end. -/
structure Opens (text : Bytes) (environment arguments : List Bytes) : Prop where
  noZero : (0 : UInt8) ∉ text
  plain : (scan text).mode = .plain
  delimited : (scan text).current = none
  runs : invocationOf (scan text).tokens = some { environment, arguments }

/-- What a fixed text behind a quoted name has to be: nothing, or a blank and more words. -/
structure Closes (text : Bytes) (arguments : List Bytes) : Prop where
  noZero : (0 : UInt8) ∉ text
  blank : ∀ c ∈ text.head?, isBlank c = true
  plain : (scan text).mode = .plain
  further : furtherArguments (scan text).delimit.tokens = some arguments

/-- A line with a quoted name runs its fixed words with the name as one argument among them. -/
theorem invocation_shellArgument {front back value name : Bytes}
    {environment arguments more : List Bytes} (hvalue : (0 : UInt8) ∉ value)
    (hfront : Opens front environment (name :: arguments)) (hback : Closes back more) :
    invocation (cStr (front ++ shellArgument value ++ back)) =
      some { environment, arguments := name :: arguments ++ value :: more } := by
  have hzero : (0 : UInt8) ∉ front ++ shellArgument value ++ back := by
    rw [List.mem_append, List.mem_append, not_or, not_or]
    exact ⟨⟨hfront.noZero, zero_notMem_shellArgument hvalue⟩, hback.noZero⟩
  have hscan : scan front = Scanner.between (scan front).tokens := by
    have hmode := hfront.plain
    have hcurrent := hfront.delimited
    generalize scan front = s at *
    obtain ⟨mode, current, tokens⟩ := s
    subst hmode hcurrent
    rfl
  have hline : (scan (front ++ shellArgument value ++ back)).mode = .plain ∧
      (scan (front ++ shellArgument value ++ back)).delimit.tokens =
        (scan front).tokens ++ .word (value.map .literal) :: (scan back).delimit.tokens := by
    rw [scan_append, scan_append, hscan, run_shellArgument]
    have hplain := hback.plain
    have hblank := hback.blank
    cases back with
    | nil => exact ⟨rfl, rfl⟩
    | cons c back =>
        have hstart : Scanner.step {} c = {} := Scanner.step_blank rfl (hblank c rfl)
        have hback' : scan (c :: back) = Scanner.run {} back := by
          rw [scan, Scanner.run_cons, hstart]
        have hprepend : Scanner.between ((scan front).tokens ++ [.word (value.map .literal)]) =
            Scanner.prepend ((scan front).tokens ++ [.word (value.map .literal)]) {} := by
          rw [Scanner.between, Scanner.prepend, List.append_nil]
        rw [Scanner.run_cons, Scanner.step_inWord_blank _ _ (hblank c rfl), hprepend,
          Scanner.run_prepend, Scanner.delimit_prepend, ← hback']
        exact ⟨hplain, List.append_assoc _ _ _⟩
  rw [cStr_of_notMem hzero, invocation, tokens, if_pos (Or.inl hline.1), hline.2, Option.bind_some]
  exact invocationOf_append hfront.runs (literalValue_literal value) hback.further

/-- The words in front of the device in a line of `smartctl`, behind the name of the tool. -/
def smartctlWords (protocol : Bytes) : List Bytes :=
  if protocol = utf8 "scsi" then
    [utf8 "--json=v", utf8 "-H", utf8 "-l", utf8 "error", utf8 "-d", protocol, utf8 "-n",
      utf8 "standby,3"]
  else if protocol = utf8 "ata" then
    [utf8 "--json=v", utf8 "-H", utf8 "-A", utf8 "-d", protocol, utf8 "-n", utf8 "standby,3,5"]
  else [utf8 "--json=v", utf8 "-H", utf8 "-A", utf8 "-d", protocol]

/-- The command a line runs in the C locale. -/
def inCLocale (arguments : List Bytes) : Invocation :=
  { environment := [utf8 "LC_ALL=C"], arguments }

theorem closes_nil : Closes [] [] :=
  ⟨by decide, by simp, rfl, rfl⟩

theorem closes_nvme : Closes (utf8 " -o json") [utf8 "-o", utf8 "json"] :=
  ⟨by decide +kernel, by decide +kernel, by decide +kernel, by decide +kernel⟩

theorem opens_nvme :
    Opens (utf8 "LC_ALL=C nvme smart-log ") [utf8 "LC_ALL=C"] [utf8 "nvme", utf8 "smart-log"] :=
  ⟨by decide +kernel, by decide +kernel, by decide +kernel, by decide +kernel⟩

theorem zero_notMem_device {target : Bytes} (h : (0 : UInt8) ∉ target) :
    (0 : UInt8) ∉ utf8 "/dev/" ++ target := by
  rw [List.mem_append, not_or]
  exact ⟨by decide +kernel, h⟩

/-- The line of `smartctl` runs it with the device as its last argument. -/
theorem invocation_smartctl {target protocol : Bytes} (htarget : (0 : UInt8) ∉ target)
    (hprotocol : protocol ∈ protocols) :
    invocation (cStr (smartctlCommand target protocol)) =
      some (inCLocale (utf8 "smartctl" :: smartctlWords protocol ++ [utf8 "/dev/" ++ target])) := by
  have hopens : ∀ protocol ∈ protocols, Opens
      (utf8 "LC_ALL=C smartctl --json=v" ++
        (if protocol = utf8 "scsi" then utf8 " -H -l error" else utf8 " -H -A") ++ utf8 " -d " ++
        protocol ++ (if protocol = utf8 "ata" then utf8 " -n standby,3,5"
          else if protocol = utf8 "scsi" then utf8 " -n standby,3" else []) ++ utf8 " ")
      [utf8 "LC_ALL=C"] (utf8 "smartctl" :: smartctlWords protocol) := by
    rw [protocols, List.forall_mem_cons, List.forall_mem_cons, List.forall_mem_singleton]
    refine ⟨?_, ?_, ?_⟩
    · exact ⟨by decide +kernel, by decide +kernel, by decide +kernel, by decide +kernel⟩
    · exact ⟨by decide +kernel, by decide +kernel, by decide +kernel, by decide +kernel⟩
    · exact ⟨by decide +kernel, by decide +kernel, by decide +kernel, by decide +kernel⟩
  have hline := invocation_shellArgument (zero_notMem_device htarget) (hopens protocol hprotocol)
    closes_nil
  rw [List.append_nil] at hline
  exact hline

/-- The line of `nvme` runs it with the device between its own words. -/
theorem invocation_nvmeSmartLog {target : Bytes} (htarget : (0 : UInt8) ∉ target) :
    invocation (cStr (nvmeSmartLogCommand target)) =
      some (inCLocale [utf8 "nvme", utf8 "smart-log", utf8 "/dev/" ++ target, utf8 "-o",
        utf8 "json"]) :=
  invocation_shellArgument (zero_notMem_device htarget) opens_nvme closes_nvme

/-- The lines of `ethtool` run it with the interface as its last argument, which is no option. -/
theorem invocation_networkCapabilities {interface : Bytes} (hinterface : (0 : UInt8) ∉ interface)
    (hname : interface ≠ []) (hoption : interface.head? ≠ some 45) :
    (networkCapabilityCommands interface).map (fun line => invocation (cStr line)) =
      [some (inCLocale [utf8 "ethtool", interface]),
        some (inCLocale [utf8 "ethtool", utf8 "-i", interface]),
        some (inCLocale [utf8 "ethtool", utf8 "-P", interface])] := by
  have hopens : ∀ option ∈ ethtoolOptions, Opens (utf8 "LC_ALL=C ethtool " ++ option)
      [utf8 "LC_ALL=C"] (utf8 "ethtool" :: words option) := by
    rw [ethtoolOptions, List.forall_mem_cons, List.forall_mem_cons, List.forall_mem_singleton]
    refine ⟨?_, ?_, ?_⟩
    · exact ⟨by decide +kernel, by decide +kernel, by decide +kernel, by decide +kernel⟩
    · exact ⟨by decide +kernel, by decide +kernel, by decide +kernel, by decide +kernel⟩
    · exact ⟨by decide +kernel, by decide +kernel, by decide +kernel, by decide +kernel⟩
  have hline : ∀ option ∈ ethtoolOptions,
      invocation (cStr (utf8 "LC_ALL=C ethtool " ++ option ++ shellArgument interface)) =
        some (inCLocale (utf8 "ethtool" :: words option ++ [interface])) := by
    intro option hmem
    have hrun := invocation_shellArgument hinterface (hopens option hmem) closes_nil
    rw [List.append_nil] at hrun
    exact hrun
  have hwords : ethtoolOptions.map words = [[], [utf8 "-i"], [utf8 "-P"]] := by decide +kernel
  rw [networkCapabilityCommands, if_neg (by simp [hname, hoption]), List.map_map]
  calc ethtoolOptions.map _
      = ethtoolOptions.map fun option =>
          some (inCLocale (utf8 "ethtool" :: words option ++ [interface])) :=
        List.map_congr_left hline
    _ = (ethtoolOptions.map words).map fun options =>
          some (inCLocale (utf8 "ethtool" :: options ++ [interface])) := (List.map_map ..).symm
    _ = _ := by rw [hwords]; rfl

/-- **A quoted name cannot be escaped.**  Between blanks in an unquoted position of any line the
shell reads it as one word of literal letters with the name as value, and is outside of quotes again;
and the lines of the readers have the name as exactly one argument. -/
theorem shellArgument_spec (value : Bytes) (hvalue : (0 : UInt8) ∉ value) :
    (∀ line before after, (scan line).mode = .plain → isBlank before = true →
      isBlank after = true →
      scan (line ++ before :: (shellArgument value ++ [after])) =
        Scanner.between ((scan line).delimit.tokens ++ [.word (value.map .literal)])) ∧
      literalValue (value.map .literal) = some value ∧
      (∀ protocol ∈ protocols, invocation (cStr (smartctlCommand value protocol)) =
        some (inCLocale (utf8 "smartctl" :: smartctlWords protocol ++ [utf8 "/dev/" ++ value]))) ∧
      invocation (cStr (nvmeSmartLogCommand value)) =
        some (inCLocale [utf8 "nvme", utf8 "smart-log", utf8 "/dev/" ++ value, utf8 "-o",
          utf8 "json"]) ∧
      (networkCapabilityCommands value).map (fun line => invocation (cStr line)) =
        if value = [] ∨ value.head? = some 45 then []
        else [some (inCLocale [utf8 "ethtool", value]),
          some (inCLocale [utf8 "ethtool", utf8 "-i", value]),
          some (inCLocale [utf8 "ethtool", utf8 "-P", value])] := by
  refine ⟨fun line before after hline hbefore hafter => ?_, literalValue_literal value,
    fun protocol hprotocol => invocation_smartctl hvalue hprotocol, invocation_nvmeSmartLog hvalue,
    ?_⟩
  · rw [scan_append]
    exact run_blank_shellArgument_blank hline hbefore hafter value
  · split_ifs with hskip
    · rw [networkCapabilityCommands, if_pos hskip, List.map_nil]
    · rw [not_or] at hskip
      exact invocation_networkCapabilities hvalue hskip.1 hskip.2

/-- A name of quotes, blanks and an expansion. -/
theorem shellArgument_spec_hostile :
    (0 : UInt8) ∉ utf8 "a' $(b)\n;" ∧
      literalValue ((utf8 "a' $(b)\n;").map .literal) = some (utf8 "a' $(b)\n;") ∧
      invocation (cStr (nvmeSmartLogCommand (utf8 "a' $(b)\n;"))) =
        some (inCLocale [utf8 "nvme", utf8 "smart-log", utf8 "/dev/" ++ utf8 "a' $(b)\n;",
          utf8 "-o", utf8 "json"]) :=
  have hvalue : (0 : UInt8) ∉ utf8 "a' $(b)\n;" := by decide +kernel
  have hspec := shellArgument_spec (utf8 "a' $(b)\n;") hvalue
  ⟨hvalue, hspec.2.1, hspec.2.2.2.1⟩

end Sysal.ShellCommands
