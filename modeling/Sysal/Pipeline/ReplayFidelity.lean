import Sysal.Pipeline.Pipeline
import Sysal.Serialization.RawStore

/-!
# Replay from a saved store

A store that was written to a file and loaded again replays as the original does: parsers and
resolvers read the evidence of a store, and the codec of raw evidence keeps all of it.

* `collectFromRaw_withoutClock`: a replay depends on the evidence only, apart from its two clocks.
* `collectFromRaw_reloaded`: a reloaded store is the original with truncated time stamps, and replays
  to the same system or fails with the same exception.
-/

namespace Sysal

open Pipeline

/-- A system without the readings of the two clocks. -/
def System.withoutClock (s : System) : System :=
  { s with snapshot := { s.snapshot with collectTime := 0, collectDuration := default } }

theorem runReplay_withoutClock (parsers : Parsers) (clock clock' : Clock) (raw : EvidenceStore)
    (flags : Collect) :
    (runReplay parsers clock raw flags).map System.withoutClock =
      (runReplay parsers clock' raw flags).map System.withoutClock := by
  simp only [runReplay]
  split <;> rfl

/-- A replay depends on the evidence of the store; the clocks show in two fields of the metadata. -/
theorem collectFromRaw_withoutClock (parsers : Parsers) (clock clock' : Clock) {raw raw' : RawStore}
    (h : raw.evidence = raw'.evidence) (flags : Collect) :
    (collectFromRaw parsers clock raw flags).map System.withoutClock =
      (collectFromRaw parsers clock' raw' flags).map System.withoutClock := by
  simp only [collectFromRaw, h]
  split
  · rfl
  · exact runReplay_withoutClock parsers clock clock' raw'.evidence flags

/-- **Replay fidelity**: a saved store is loaded with its records, enumerations and request as they
were, up to the part of the time stamps below a millisecond, and for every flag set it replays to the
same system, or fails with the same exception, as the original. -/
theorem collectFromRaw_reloaded {json : JsonLibrary} {raw : RawStore} (h : raw.InRange)
    (hutf8 : raw.IsUtf8) (hjson : json.Faithful 4 (rawStoreToJson raw)) :
    ∃ text reloaded, saveRawStore json raw = .ok text ∧ loadRawStore json text = .ok reloaded ∧
      reloaded = raw.truncated ∧
      ∀ (parsers : Parsers) (clock clock' : Clock) (flags : Collect),
        (collectFromRaw parsers clock' reloaded flags).map System.withoutClock =
          (collectFromRaw parsers clock raw flags).map System.withoutClock := by
  obtain ⟨text, hsave, hload⟩ := loadRawStore_saveRawStore h hutf8 hjson
  refine ⟨text, raw.truncated, hsave, hload, rfl, ?_⟩
  intro parsers clock clock' flags
  exact collectFromRaw_withoutClock parsers clock' clock (evidence_truncated raw) flags

/-- A store with a record that was collected within a millisecond, and a request. -/
def requestedStore : RawStore :=
  { records := [⟨⟨.procCpuInfo, utf8 "/proc/cpuinfo", utf8 "processor: 0\n", .success, none, none⟩,
      1700000000123456789⟩]
    enumerations := [⟨.logicalCpus, .sysfsCpu, utf8 "/sys/devices/system/cpu", [utf8 "cpu0"],
      .success, none⟩]
    collectionRequest := some { flags := Collect.cpu } }

theorem collectFromRaw_reloaded_requested :
    ∃ text reloaded,
      saveRawStore (.ofDocument 4 (rawStoreToJson requestedStore)) requestedStore = .ok text ∧
      loadRawStore (.ofDocument 4 (rawStoreToJson requestedStore)) text = .ok reloaded ∧
      reloaded = requestedStore.truncated ∧
      ∀ (parsers : Parsers) (clock clock' : Clock) (flags : Collect),
        (collectFromRaw parsers clock' reloaded flags).map System.withoutClock =
          (collectFromRaw parsers clock requestedStore flags).map System.withoutClock := by
  refine collectFromRaw_reloaded (by simp [RawStore.InRange, requestedStore]; decide) ?_
    (JsonLibrary.ofDocument_faithful _ _)
  constructor
  · simp only [requestedStore, List.mem_singleton, forall_eq]
    exact ⟨isUtf8_utf8 _, isUtf8_utf8 _⟩
  · simp only [requestedStore, List.mem_singleton, forall_eq]
    exact ⟨isUtf8_utf8 _, isUtf8_utf8 _⟩

end Sysal
