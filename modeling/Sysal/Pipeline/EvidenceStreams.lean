import Mathlib.Data.List.Perm.Basic
import Sysal.Pipeline.EvidenceLocality

/-!
# Evidence as a set of streams

The readers fill a store one source after the other, but nothing makes them: a replay sees each source
as a stream of its own, with the two drive tools on one stream.

* `replay_interleaving`: however the streams are interleaved, the replay is the same, and it lists the
  same observations;
* `replay_reduced`: a store can be reduced to the records its replay reads.
-/

namespace Sysal

open AcceleratorParser EvidenceStore Pipeline

/-! ### Interleavings -/

/-- The stream of a source, named by one of its sources. -/
def streamOf : RawSource → RawSource
  | .nvmeSmartLog => .smartctl
  | source => source

/-- Two stores with the same streams: the second one interleaves them in another way. -/
structure SameStreams (raw raw' : EvidenceStore) : Prop where
  request : raw.collectionRequest = raw'.collectionRequest
  enumerations : raw.enumerations = raw'.enumerations
  stream : ∀ source, raw.records.filter (streamOf ·.source = source) =
    raw'.records.filter (streamOf ·.source = source)

namespace SameStreams

variable {raw raw' : EvidenceStore}

/-- Everything that selects records of one stream sees the same records. -/
theorem filter_eq (h : SameStreams raw raw') {p : RawEvidence → Bool} {source : RawSource}
    (hp : ∀ record, p record = true → streamOf record.source = source) :
    raw.records.filter p = raw'.records.filter p := by
  have hsub : ∀ records : List RawEvidence,
      records.filter p = (records.filter (streamOf ·.source = source)).filter p := by
    intro records
    rw [List.filter_filter]
    refine List.filter_congr fun record _ => ?_
    cases hrecord : p record with
    | false => rfl
    | true => rw [hp record hrecord, decide_eq_true rfl, Bool.and_self]
  rw [hsub, h.stream, ← hsub]

theorem getAll_eq (h : SameStreams raw raw') (source : RawSource) :
    raw.getAll source = raw'.getAll source :=
  h.filter_eq fun _ hrecord => congrArg streamOf (of_decide_eq_true hrecord)

theorem toolRecords_eq (h : SameStreams raw raw') : raw.toolRecords = raw'.toolRecords := by
  have hstream : ∀ record : RawEvidence, isTool record = true →
      streamOf record.source = .smartctl := by
    intro record hrecord
    rw [isTool, Bool.or_eq_true, decide_eq_true_iff, decide_eq_true_iff] at hrecord
    rcases hrecord with hsource | hsource
    · rw [hsource]
      rfl
    · rw [hsource]
      rfl
  exact h.filter_eq hstream

/-- Interleavings hold the same records. -/
theorem records_perm (h : SameStreams raw raw') : raw.records.Perm raw'.records := by
  rw [List.perm_iff_count]
  intro record
  have hcount : ∀ records : List RawEvidence, records.count record =
      (records.filter (streamOf ·.source = streamOf record.source)).count record := by
    intro records
    refine (List.count_filter ?_).symm
    exact decide_eq_true rfl
  rw [hcount, h.stream, ← hcount]

/-- Interleavings agree on every domain. -/
theorem agreeFor (h : SameStreams raw raw') (flags : Collect) : AgreeFor flags raw raw' where
  request := h.request
  enumeration kind := by rw [enumeration, h.enumerations, enumeration]
  footprint _ _ _ :=
    ⟨fun source _ => successes_of_getAll (h.getAll_eq source), fun source _ => h.getAll_eq source⟩
  tools _ := h.toolRecords_eq

end SameStreams

/-- The observations of a run are those of its records. -/
theorem observations_of_collectFromRaw {parsers : Parsers} {clock : Clock} {raw : RawStore}
    {flags : Collect} {s : System} (h : collectFromRaw parsers clock raw flags = .ok s) :
    s.snapshot.observations = raw.evidence.records.filterMap observation := by
  have hrun := runReplay_of_collectFromRaw h
  simp only [runReplay] at hrun
  split at hrun
  · cases hrun
  · rw [← Except.ok.inj hrun]

/-- The observations of a replay are those of its records. -/
theorem observations_of_replay {parse : JsonParser} {clock : Clock} {raw : RawStore}
    {flags : Collect} {s : System} (h : replay parse clock raw flags = some (.ok s)) :
    s.snapshot.observations = raw.evidence.records.filterMap observation := by
  rw [replay] at h
  split at h
  · obtain ⟨found, -, hfound⟩ := Option.map_eq_some_iff.mp h
    exact observations_of_collectFromRaw hfound
  · exact observations_of_collectFromRaw (Option.some.inj h)

/-- **Interleavings**: stores with the same streams are replayed to the same outcome, and to the same
observations in another order. -/
theorem replay_interleaving (parse : JsonParser) (clock : Clock) (flags : Collect)
    {raw raw' : RawStore} (h : SameStreams raw.evidence raw'.evidence) :
    (replay parse clock raw flags).map (Except.map withoutObservations) =
        (replay parse clock raw' flags).map (Except.map withoutObservations) ∧
      ∀ s s', replay parse clock raw flags = some (.ok s) →
        replay parse clock raw' flags = some (.ok s') →
        s.snapshot.observations.Perm s'.snapshot.observations := by
  constructor
  · exact replay_agree (h.agreeFor flags)
  · intro s s' hs hs'
    rw [observations_of_replay hs, observations_of_replay hs']
    exact h.records_perm.filterMap _

/-- A record of a host name and one of a processor, in either order. -/
def hostStore (processorFirst : Bool) : RawStore :=
  let host : RawRecord :=
    ⟨⟨.procHostname, utf8 "/proc/sys/kernel/hostname", utf8 "node1\n", .success, none, none⟩, 0⟩
  let processor : RawRecord :=
    ⟨⟨.procCpuInfo, utf8 "/proc/cpuinfo", utf8 "processor: 0\n", .success, none, none⟩, 0⟩
  { records := if processorFirst then [processor, host] else [host, processor] }

theorem sameStreams_hostStore : SameStreams (hostStore true).evidence (hostStore false).evidence :=
  ⟨rfl, rfl, fun source => by cases source <;> rfl⟩

theorem replay_interleaving_host :
    (replay (fun _ => none) ⟨0, default⟩ (hostStore true) Collect.platform).map
          (Except.map withoutObservations) =
        (replay (fun _ => none) ⟨0, default⟩ (hostStore false) Collect.platform).map
          (Except.map withoutObservations) ∧
      ∀ s s',
        replay (fun _ => none) ⟨0, default⟩ (hostStore true) Collect.platform = some (.ok s) →
        replay (fun _ => none) ⟨0, default⟩ (hostStore false) Collect.platform = some (.ok s') →
        s.snapshot.observations.Perm s'.snapshot.observations :=
  replay_interleaving _ _ _ sameStreams_hostStore

/-! ### Reduced stores -/

/-- Whether a record counts for one of the requested domains. -/
def countsFor (flags : Collect) (record : RawEvidence) : Bool :=
  (footprints.any fun entry => has flags entry.1 &&
    (entry.2.every.contains record.source ||
      (entry.2.successful.contains record.source && record.status = .success))) ||
  (has flags Collect.storageHealth && isTool record)

/-- A store without the records that no requested domain reads. -/
def RawStore.reduced (raw : RawStore) (flags : Collect) : RawStore :=
  { raw with records := raw.records.filter fun record => countsFor flags record.toRawEvidence }

theorem evidence_reduced (raw : RawStore) (flags : Collect) :
    (raw.reduced flags).evidence =
      { raw.evidence with records := raw.evidence.records.filter (countsFor flags) } := by
  simp only [RawStore.evidence, RawStore.reduced, List.filter_map]
  rfl

/-- What a query selects is kept when it counts. -/
theorem filter_counted {flags : Collect} {p : RawEvidence → Bool} (records : List RawEvidence)
    (hp : ∀ record, p record = true → countsFor flags record = true) :
    (records.filter (countsFor flags)).filter p = records.filter p := by
  rw [List.filter_filter]
  refine List.filter_congr fun record _ => ?_
  cases hrecord : p record with
  | false => rfl
  | true => rw [hp record hrecord, Bool.and_self]

/-- A store and its reduced form agree on everything that is asked for. -/
theorem agreeFor_reduced (raw : RawStore) (flags : Collect) :
    AgreeFor flags raw.evidence (raw.reduced flags).evidence := by
  rw [evidence_reduced]
  refine ⟨rfl, fun kind => rfl, fun entry hentry hrequested => ⟨?_, ?_⟩, fun hrequested => ?_⟩
  · intro source hsource
    rw [successes, getAll, successes, getAll, List.filter_filter, List.filter_filter]
    refine (filter_counted _ fun record hrecord => ?_).symm
    rw [Bool.and_eq_true, decide_eq_true_iff, decide_eq_true_iff] at hrecord
    rw [countsFor, Bool.or_eq_true, List.any_eq_true]
    refine Or.inl ⟨entry, hentry, ?_⟩
    rw [hrequested, Bool.true_and, Bool.or_eq_true, Bool.and_eq_true, hrecord.2]
    exact Or.inr ⟨List.contains_iff_mem.mpr hsource, decide_eq_true hrecord.1⟩
  · intro source hsource
    refine (filter_counted _ fun record hrecord => ?_).symm
    rw [decide_eq_true_iff] at hrecord
    rw [countsFor, Bool.or_eq_true, List.any_eq_true]
    refine Or.inl ⟨entry, hentry, ?_⟩
    rw [hrequested, Bool.true_and, Bool.or_eq_true, hrecord]
    exact Or.inl (List.contains_iff_mem.mpr hsource)
  · refine (filter_counted _ fun record hrecord => ?_).symm
    rw [countsFor, hrequested, hrecord, Bool.and_self, Bool.or_true]

/-- **Reduced stores**: the records that no requested domain reads can be dropped. -/
theorem replay_reduced (parse : JsonParser) (clock : Clock) (raw : RawStore) (flags : Collect) :
    (replay parse clock (raw.reduced flags) flags).map (Except.map withoutObservations) =
      (replay parse clock raw flags).map (Except.map withoutObservations) :=
  (replay_agree (agreeFor_reduced raw flags)).symm

end Sysal
