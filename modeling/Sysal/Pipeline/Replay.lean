import Sysal.Parser.Execution
import Sysal.Parser.Memory
import Sysal.Parser.Network
import Sysal.Parser.Pci
import Sysal.Parser.Platform
import Sysal.Parser.Sensors
import Sysal.Parser.Software
import Sysal.Parser.Storage
import Sysal.Parser.StorageHealth
import Sysal.Pipeline.Pipeline

/-!
# The replay with the parsers of the library

The pipeline of `pipeline.cpp` with its parsers filled in.  The JSON library stays a parameter.  The
accelerator parser is run first: it is the only one that can fail to return, and the pipeline runs it
on request only.

* `addStorageHealth_sysalParsers`: the pipeline's last parser is `parse_storage_health`.
-/

namespace Sysal

open AcceleratorParser Pipeline

/-- The parsers of the library, with the accelerators that were found. -/
def sysalParsers (parse : JsonParser) (accelerators : Option Accelerators × List Bytes) : Parsers where
  sensors := SensorParser.parseSensors
  platform := PlatformParser.parsePlatform
  cpu := CpuParser.parseCpu
  memory := MemoryParser.parseMemory
  pci := PciParser.parsePci
  network := NetworkParser.parseNetwork
  accelerator := fun _ => accelerators
  acceleratorRuntimeVisibility := parseAcceleratorRuntimeVisibility parse
  storage := StorageParser.parseStorage parse
  storageHealth := fun raw storage =>
    let (after, warnings) :=
      StorageHealthParser.parseStorageHealth parse { storage with health := [] } raw
    (after.health, warnings)
  software := SoftwareParser.parseSoftware parse
  execution := parseExecution

/-- `collect_from_raw` with the parsers of the library; no result when the accelerator parser, on
request, does not return. -/
def replay (parse : JsonParser) (clock : Clock) (raw : RawStore) (flags : Collect) :
    Option (Except Thrown System) :=
  if has flags Collect.accelerator && ({ flags } : CollectionRequest).valid then
    (parseAccelerator parse raw.evidence).map fun found =>
      collectFromRaw (sysalParsers parse found) clock raw flags
  else some (collectFromRaw (sysalParsers parse (none, [])) clock raw flags)

/-- The reports the pipeline appends are those of `parse_storage_health` on the parsed storage. -/
theorem addStorageHealth_sysalParsers (parse : JsonParser)
    (accelerators : Option Accelerators × List Bytes) (flags : Collect) (raw : EvidenceStore)
    (result : ParseResult) (warnings : List Bytes) (storage : Storage)
    (hstorage : result.storage = some storage) (hrequested : has flags Collect.storageHealth) :
    addStorageHealth (sysalParsers parse accelerators) flags raw (result, warnings) =
      ({ result with
          storage := some (StorageHealthParser.parseStorageHealth parse storage raw).1 },
       warnings ++ (StorageHealthParser.parseStorageHealth parse storage raw).2) := by
  simp only [addStorageHealth, hstorage, hrequested, sysalParsers,
    StorageHealthParser.parseStorageHealth, List.nil_append]

end Sysal
