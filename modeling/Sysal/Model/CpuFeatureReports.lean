import Sysal.Foundation.Grouping
import Sysal.Model.CpuFeatures

/-!
# The three feature queries agree

A feature can be asked of one logical CPU, of all of them, or be read off the summary.  An id that
occurs once in the list of logical CPUs is answered by its CPU; a second entry with the same id erases
what was known, so the id is unknown for every feature.

* `featureIndex_eq_some`: the index has for an id the evidence of its only CPU, or the mark of a
  duplicate;
* `mem_feature_ids`: the list that holds an id is the state of the feature in that evidence;
* `Cpu.featureReports_agree`: the reports partition the ids, agree under aliases with the queries of
  the single CPUs, and the summary repeats them.
-/

namespace Sysal

open Std

/-! ### Names -/

theorem normalizeCpuFeature_canonical :
    ∀ p ∈ featureAliases, normalizeCpuFeature p.2 = p.2 ∧ p.2 ≠ [] := by
  decide +kernel

theorem normalizeCpuFeature_known : ∀ name ∈ knownFeatures, normalizeCpuFeature name = name := by
  decide +kernel

/-- A normalized name is the name itself, or the canonical name of an alias. -/
theorem normalizeCpuFeature_cases (name : Bytes) :
    normalizeCpuFeature name = name ∨ ∃ p ∈ featureAliases, normalizeCpuFeature name = p.2 := by
  rw [normalizeCpuFeature]
  cases hfind : featureAliases.find? (·.1 = name) with
  | none => exact Or.inl rfl
  | some p => exact Or.inr ⟨p, List.mem_of_find?_eq_some hfind, rfl⟩

@[simp] theorem normalizeCpuFeature_normalizeCpuFeature (name : Bytes) :
    normalizeCpuFeature (normalizeCpuFeature name) = normalizeCpuFeature name := by
  rcases normalizeCpuFeature_cases name with h | ⟨p, hp, h⟩
  · rw [h, h]
  · rw [h, (normalizeCpuFeature_canonical p hp).1]

theorem normalizeCpuFeature_nil : normalizeCpuFeature [] = [] := by
  decide +kernel

theorem normalizeCpuFeature_ne_nil {name : Bytes} (h : name ≠ []) : normalizeCpuFeature name ≠ [] := by
  rcases normalizeCpuFeature_cases name with heq | ⟨p, hp, heq⟩
  · rwa [heq]
  · rw [heq]
    exact (normalizeCpuFeature_canonical p hp).2

/-! ### The index -/

/-- How many logical CPUs have an id. -/
def Cpu.idCount (cpu : Cpu) (id : LogicalCpuId) : ℕ := cpu.logicalCpus.countP (·.id = id)

/-- The evidence of one logical CPU. -/
def featureEvidence (logical : LogicalCpu) : FeatureEvidence where
  complete := logical.identification.featuresReported
  features := sortedSet ((logical.identification.features.filter (!·.isEmpty)).map normalizeCpuFeature)

/-- The evidence of an id that occurs again. -/
def duplicateEvidence : FeatureEvidence where
  duplicate := true

theorem getElem?_featureIndex (cpu : Cpu) (id : LogicalCpuId) :
    (featureIndex cpu)[id]? =
      onceValue featureEvidence duplicateEvidence (cpu.logicalCpus.filter (·.id = id)) := by
  have hscan : scanFeatures = insertOnce (·.id) featureEvidence duplicateEvidence := by
    funext index logical
    rw [scanFeatures, insertOnce]
    split <;> rfl
  rw [featureIndex, hscan]
  exact getElem?_foldl_insertOnce _ _ _ _ _

/-- What the index has for an id: the evidence of its only CPU, or the mark of a duplicate. -/
theorem featureIndex_eq_some {cpu : Cpu} {id : LogicalCpuId} {evidence : FeatureEvidence} :
    (featureIndex cpu)[id]? = some evidence ↔
      (∃ logical ∈ cpu.logicalCpus, logical.id = id ∧ cpu.idCount id = 1 ∧
        evidence = featureEvidence logical) ∨
      (2 ≤ cpu.idCount id ∧ evidence = duplicateEvidence) := by
  rw [getElem?_featureIndex, onceValue_eq_some, Cpu.idCount, List.countP_eq_length_filter]
  simp only [List.mem_filter, decide_eq_true_eq, and_assoc]

theorem featureIndex_sole {cpu : Cpu} {logical : LogicalCpu} (h : logical ∈ cpu.logicalCpus)
    (hcount : cpu.idCount logical.id = 1) :
    (featureIndex cpu)[logical.id]? = some (featureEvidence logical) :=
  featureIndex_eq_some.mpr (Or.inl ⟨logical, h, rfl, hcount, rfl⟩)

theorem one_le_idCount {cpu : Cpu} {logical : LogicalCpu} (h : logical ∈ cpu.logicalCpus) :
    1 ≤ cpu.idCount logical.id :=
  List.countP_pos_iff.mpr ⟨logical, h, by simp⟩

theorem featureIndex_duplicate {cpu : Cpu} {logical : LogicalCpu} (h : logical ∈ cpu.logicalCpus)
    (hcount : cpu.idCount logical.id ≠ 1) :
    (featureIndex cpu)[logical.id]? = some duplicateEvidence := by
  have hpos := one_le_idCount h
  exact featureIndex_eq_some.mpr (Or.inr ⟨by omega, rfl⟩)

/-- The ids of the index are the ids of the logical CPUs. -/
theorem mem_featureIndex {cpu : Cpu} {id : LogicalCpuId} :
    (∃ evidence, (featureIndex cpu)[id]? = some evidence) ↔
      ∃ logical ∈ cpu.logicalCpus, logical.id = id := by
  constructor
  · rintro ⟨evidence, h⟩
    rcases featureIndex_eq_some.mp h with ⟨logical, hmem, hid, -⟩ | ⟨hcount, -⟩
    · exact ⟨logical, hmem, hid⟩
    · obtain ⟨logical, hmem, hid⟩ := List.countP_pos_iff.mp (show 0 < cpu.idCount id by omega)
      exact ⟨logical, hmem, by simpa using hid⟩
  · rintro ⟨logical, hmem, rfl⟩
    by_cases hcount : cpu.idCount logical.id = 1
    · exact ⟨_, featureIndex_sole hmem hcount⟩
    · exact ⟨_, featureIndex_duplicate hmem hcount⟩

/-! ### The state of a feature -/

theorem mem_featureEvidence {logical : LogicalCpu} {feature : Bytes} :
    feature ∈ (featureEvidence logical).features ↔
      ∃ item ∈ logical.identification.features, item ≠ [] ∧ normalizeCpuFeature item = feature := by
  rw [featureEvidence, mem_sortedSet, List.mem_map]
  constructor
  · rintro ⟨item, hitem, rfl⟩
    rw [List.mem_filter] at hitem
    exact ⟨item, hitem.1, by simpa using hitem.2, rfl⟩
  · rintro ⟨item, hitem, hne, rfl⟩
    exact ⟨item, List.mem_filter.mpr ⟨hitem, by simpa using hne⟩, rfl⟩

/-- The index answers for a CPU what the CPU answers itself. -/
theorem featureState_featureEvidence (logical : LogicalCpu) (name : Bytes) :
    featureState (normalizeCpuFeature name) (featureEvidence logical) =
      logical.identification.feature name := by
  rw [featureState, CpuIdentification.feature]
  by_cases hempty : normalizeCpuFeature name = []
  · simp [hempty]
  · have hmem : (normalizeCpuFeature name ∈ (featureEvidence logical).features) ↔
        logical.identification.features.any (normalizeCpuFeature · = normalizeCpuFeature name) = true := by
      rw [mem_featureEvidence, List.any_eq_true]
      refine exists_congr fun item => and_congr_right fun _ => ?_
      rw [decide_eq_true_eq]
      refine ⟨fun h => h.2, fun h => ⟨fun hnil => hempty ?_, h⟩⟩
      rw [← h, hnil, normalizeCpuFeature_nil]
    have hdup : (featureEvidence logical).duplicate = false := rfl
    have hcomplete : (featureEvidence logical).complete = logical.identification.featuresReported :=
      rfl
    simp only [hmem, hdup, hcomplete, Bool.or_false, List.isEmpty_iff, hempty, if_false]

theorem featureState_duplicateEvidence (name : Bytes) :
    featureState name duplicateEvidence = .unknown := by
  simp [featureState, duplicateEvidence]

/-- A name that is in the evidence of a CPU is reported by it. -/
theorem feature_eq_reported_iff {logical : LogicalCpu} {name : Bytes}
    (hname : normalizeCpuFeature name = name) :
    logical.identification.feature name = .reported ↔ name ∈ (featureEvidence logical).features := by
  rw [← featureState_featureEvidence, hname, featureState]
  by_cases hempty : name = []
  · have hnot : name ∉ (featureEvidence logical).features := by
      rw [mem_featureEvidence]
      rintro ⟨item, -, hne, heq⟩
      exact normalizeCpuFeature_ne_nil hne (heq.trans hempty)
    simp only [hnot, iff_false]
    simp [hempty]
  · have hdup : (featureEvidence logical).duplicate = false := rfl
    simp only [hdup, Bool.or_false, List.isEmpty_iff, hempty, if_false]
    by_cases hmem : name ∈ (featureEvidence logical).features
    · simp [hmem]
    · simp only [hmem, if_false, iff_false]
      split <;> decide

/-! ### The reports of one feature -/

/-- The list of a report for one state. -/
def CpuFeatureReport.ids (report : CpuFeatureReport) : CpuFeatureState → List LogicalCpuId
  | .reported => report.reportedCpuIds
  | .notReported => report.notReportedCpuIds
  | .unknown => report.unknownCpuIds

theorem Cpu.feature_ids (cpu : Cpu) (name : Bytes) (state : CpuFeatureState) :
    (cpu.feature name).ids state = ((featureIndex cpu).toList.filter
      fun entry => featureState (normalizeCpuFeature name) entry.2 = state).map (·.1) := by
  cases state <;> rfl

theorem mem_feature_ids {cpu : Cpu} {name : Bytes} {state : CpuFeatureState} {id : LogicalCpuId} :
    id ∈ (cpu.feature name).ids state ↔ ∃ evidence, (featureIndex cpu)[id]? = some evidence ∧
      featureState (normalizeCpuFeature name) evidence = state := by
  rw [Cpu.feature_ids, List.mem_map]
  constructor
  · rintro ⟨⟨id', evidence⟩, hmem, rfl⟩
    rw [List.mem_filter, TreeMap.mem_toList_iff_getElem?_eq_some] at hmem
    exact ⟨evidence, hmem.1, by simpa using hmem.2⟩
  · rintro ⟨evidence, hget, hstate⟩
    exact ⟨(id, evidence), List.mem_filter.mpr
      ⟨TreeMap.mem_toList_iff_getElem?_eq_some.mpr hget, by simpa using hstate⟩, rfl⟩

theorem feature_ids_increasing (cpu : Cpu) (name : Bytes) (state : CpuFeatureState) :
    ((cpu.feature name).ids state).Pairwise (· < ·) := by
  rw [Cpu.feature_ids, List.pairwise_map]
  exact List.Pairwise.filter _ (TreeMap.ordered_keys_toList.imp fun hlt => compare_eq_lt.mp hlt)

theorem feature_normalizeCpuFeature (cpu : Cpu) (name : Bytes) :
    cpu.feature (normalizeCpuFeature name) = cpu.feature name := by
  simp only [Cpu.feature, featureReport, normalizeCpuFeature_normalizeCpuFeature]

/-- Every id is reported exactly when every CPU occurs once and reports the feature. -/
theorem reported_length_eq_iff (cpu : Cpu) (name : Bytes) :
    (cpu.feature name).reportedCpuIds.length = (featureIndex cpu).toList.length ↔
      ∀ logical ∈ cpu.logicalCpus, cpu.idCount logical.id = 1 ∧
        logical.identification.feature name = .reported := by
  have hids := Cpu.feature_ids cpu name .reported
  rw [CpuFeatureReport.ids] at hids
  rw [hids, List.length_map, List.length_filter_eq_length_iff]
  constructor
  · intro h logical hmem
    by_cases hcount : cpu.idCount logical.id = 1
    · have hstate := h (logical.id, featureEvidence logical)
        (TreeMap.mem_toList_iff_getElem?_eq_some.mpr (featureIndex_sole hmem hcount))
      rw [decide_eq_true_eq, featureState_featureEvidence] at hstate
      exact ⟨hcount, hstate⟩
    · have hstate := h (logical.id, duplicateEvidence)
        (TreeMap.mem_toList_iff_getElem?_eq_some.mpr (featureIndex_duplicate hmem hcount))
      rw [decide_eq_true_eq, featureState_duplicateEvidence] at hstate
      cases hstate
  · rintro h ⟨id, evidence⟩ hentry
    rw [TreeMap.mem_toList_iff_getElem?_eq_some] at hentry
    rw [decide_eq_true_eq]
    rcases featureIndex_eq_some.mp hentry with ⟨logical, hmem, rfl, -, rfl⟩ | ⟨hcount, -⟩
    · rw [featureState_featureEvidence]
      exact (h logical hmem).2
    · obtain ⟨logical, hmem, rfl⟩ := mem_featureIndex.mp ⟨_, hentry⟩
      have := (h logical hmem).1
      omega

/-! ### The summary -/

theorem mem_observedUnion {cpu : Cpu} {feature : Bytes} :
    feature ∈ cpu.featureSummary.observedUnion ↔ ∃ logical ∈ cpu.logicalCpus,
      cpu.idCount logical.id = 1 ∧ feature ∈ (featureEvidence logical).features := by
  rw [Cpu.featureSummary]
  dsimp only
  rw [mem_sortedSet, List.mem_flatMap]
  constructor
  · rintro ⟨⟨id, evidence⟩, hentry, hfeature⟩
    rw [TreeMap.mem_toList_iff_getElem?_eq_some] at hentry
    rcases featureIndex_eq_some.mp hentry with ⟨logical, hmem, rfl, hcount, rfl⟩ | ⟨-, rfl⟩
    · exact ⟨logical, hmem, hcount, hfeature⟩
    · cases hfeature
  · rintro ⟨logical, hmem, hcount, hfeature⟩
    exact ⟨(logical.id, featureEvidence logical),
      TreeMap.mem_toList_iff_getElem?_eq_some.mpr (featureIndex_sole hmem hcount), hfeature⟩

theorem mem_reports {cpu : Cpu} {report : CpuFeatureReport} :
    report ∈ cpu.featureSummary.reports ↔
      ∃ name, (name ∈ cpu.featureSummary.observedUnion ∨ name ∈ knownFeatures) ∧
        report = cpu.feature name := by
  show report ∈ (sortedSet (cpu.featureSummary.observedUnion ++ knownFeatures)).map
    (featureReport (featureIndex cpu)) ↔ _
  rw [List.mem_map]
  refine exists_congr fun name => ?_
  rw [mem_sortedSet, List.mem_append, eq_comm]
  rfl

/-- The names of the vocabulary are canonical. -/
theorem normalizeCpuFeature_vocabulary {cpu : Cpu} {name : Bytes}
    (h : name ∈ cpu.featureSummary.observedUnion ∨ name ∈ knownFeatures) :
    normalizeCpuFeature name = name := by
  rcases h with h | h
  · obtain ⟨logical, -, -, hfeature⟩ := mem_observedUnion.mp h
    obtain ⟨item, -, -, rfl⟩ := mem_featureEvidence.mp hfeature
    exact normalizeCpuFeature_normalizeCpuFeature item
  · exact normalizeCpuFeature_known name h

theorem complete_length_eq_iff (cpu : Cpu) :
    ((featureIndex cpu).toList.filter (·.2.complete)).length = (featureIndex cpu).toList.length ↔
      ∀ logical ∈ cpu.logicalCpus, cpu.idCount logical.id = 1 ∧
        logical.identification.featuresReported = true := by
  rw [List.length_filter_eq_length_iff]
  constructor
  · intro h logical hmem
    by_cases hcount : cpu.idCount logical.id = 1
    · exact ⟨hcount, h (logical.id, featureEvidence logical)
        (TreeMap.mem_toList_iff_getElem?_eq_some.mpr (featureIndex_sole hmem hcount))⟩
    · cases h (logical.id, duplicateEvidence)
        (TreeMap.mem_toList_iff_getElem?_eq_some.mpr (featureIndex_duplicate hmem hcount))
  · rintro h ⟨id, evidence⟩ hentry
    rw [TreeMap.mem_toList_iff_getElem?_eq_some] at hentry
    rcases featureIndex_eq_some.mp hentry with ⟨logical, hmem, rfl, -, rfl⟩ | ⟨hcount, -⟩
    · exact (h logical hmem).2
    · obtain ⟨logical, hmem, rfl⟩ := mem_featureIndex.mp ⟨_, hentry⟩
      have := (h logical hmem).1
      omega

theorem toList_featureIndex_eq_nil_iff (cpu : Cpu) :
    (featureIndex cpu).toList = [] ↔ cpu.logicalCpus = [] := by
  rw [List.eq_nil_iff_forall_not_mem, List.eq_nil_iff_forall_not_mem]
  constructor
  · intro h logical hmem
    obtain ⟨evidence, hget⟩ := mem_featureIndex.mpr ⟨logical, hmem, rfl⟩
    exact h _ (TreeMap.mem_toList_iff_getElem?_eq_some.mpr hget)
  · rintro h ⟨id, evidence⟩ hentry
    rw [TreeMap.mem_toList_iff_getElem?_eq_some] at hentry
    obtain ⟨logical, hmem, -⟩ := mem_featureIndex.mp ⟨_, hentry⟩
    exact h logical hmem

/-- The common features, and when there are any to speak of. -/
theorem common_eq (cpu : Cpu) :
    cpu.featureSummary.common =
      if cpu.logicalCpus ≠ [] ∧ ∀ logical ∈ cpu.logicalCpus, cpu.idCount logical.id = 1 ∧
        logical.identification.featuresReported = true
      then some ((cpu.featureSummary.reports.filter fun report =>
        report.reportedCpuIds.length = (featureIndex cpu).toList.length).map (·.name))
      else none := by
  show (if (!(featureIndex cpu).toList.isEmpty &&
    ((featureIndex cpu).toList.filter (·.2.complete)).length == (featureIndex cpu).toList.length) = true
    then _ else none) = _
  refine if_congr ?_ rfl rfl
  rw [← complete_length_eq_iff, ne_eq, ← toList_featureIndex_eq_nil_iff, Bool.and_eq_true,
    Bool.not_eq_true', ← Bool.not_eq_true, List.isEmpty_iff, beq_iff_eq]

theorem mem_common {cpu : Cpu} {common : List Bytes} (h : cpu.featureSummary.common = some common)
    (feature : Bytes) :
    feature ∈ common ↔ normalizeCpuFeature feature = feature ∧
      ∀ logical ∈ cpu.logicalCpus, logical.identification.feature feature = .reported := by
  rw [common_eq] at h
  split at h
  · rename_i hall
    obtain ⟨hne, hall⟩ := hall
    rw [← Option.some.inj h, List.mem_map]
    constructor
    · rintro ⟨report, hreport, rfl⟩
      rw [List.mem_filter, decide_eq_true_eq, mem_reports] at hreport
      obtain ⟨⟨name, hname, rfl⟩, hlength⟩ := hreport
      have hcanonical := normalizeCpuFeature_vocabulary hname
      have hlabel : (cpu.feature name).name = name := hcanonical
      rw [hlabel]
      exact ⟨hcanonical, fun logical hmem => ((reported_length_eq_iff cpu name).mp hlength logical hmem).2⟩
    · rintro ⟨hcanonical, hreported⟩
      obtain ⟨logical, hmem⟩ := List.exists_mem_of_ne_nil _ hne
      have hobserved : feature ∈ cpu.featureSummary.observedUnion :=
        mem_observedUnion.mpr ⟨logical, hmem, (hall logical hmem).1,
          (feature_eq_reported_iff hcanonical).mp (hreported logical hmem)⟩
      refine ⟨cpu.feature feature, List.mem_filter.mpr ⟨mem_reports.mpr
        ⟨feature, Or.inl hobserved, rfl⟩, ?_⟩, hcanonical⟩
      rw [decide_eq_true_eq, reported_length_eq_iff]
      exact fun logical hmem => ⟨(hall logical hmem).1, hreported logical hmem⟩
  · cases h

/-! ### Agreement -/

/-- What the three queries owe each other. -/
structure Cpu.FeatureReportsAgree (cpu : Cpu) : Prop where
  /-- The lists of a report hold the ids of the logical CPUs. -/
  covers : ∀ name id, (∃ state, id ∈ (cpu.feature name).ids state) ↔
    ∃ logical ∈ cpu.logicalCpus, logical.id = id
  /-- No id is in two of them. -/
  disjoint : ∀ name id state state', id ∈ (cpu.feature name).ids state →
    id ∈ (cpu.feature name).ids state' → state = state'
  increasing : ∀ name state, ((cpu.feature name).ids state).Pairwise (· < ·)
  aliases : ∀ p ∈ featureAliases, cpu.feature p.1 = cpu.feature p.2
  /-- An id that occurs once is in the list its CPU names. -/
  sole : ∀ name, ∀ logical ∈ cpu.logicalCpus, cpu.idCount logical.id = 1 →
    logical.id ∈ (cpu.feature name).ids (logical.identification.feature name)
  duplicate : ∀ name, ∀ logical ∈ cpu.logicalCpus, cpu.idCount logical.id ≠ 1 →
    logical.id ∈ (cpu.feature name).unknownCpuIds
  /-- The summary has the reports of the observed and the known features. -/
  reports : ∀ report, report ∈ cpu.featureSummary.reports ↔
    ∃ name, (name ∈ cpu.featureSummary.observedUnion ∨ name ∈ knownFeatures) ∧
      report = cpu.feature name ∧ report.name = name
  observedUnion : ∀ feature, feature ∈ cpu.featureSummary.observedUnion ↔
    normalizeCpuFeature feature = feature ∧ ∃ logical ∈ cpu.logicalCpus,
      cpu.idCount logical.id = 1 ∧ logical.identification.feature feature = .reported
  commonPresent : cpu.featureSummary.common.isSome ↔ cpu.logicalCpus ≠ [] ∧
    ∀ logical ∈ cpu.logicalCpus, cpu.idCount logical.id = 1 ∧
      logical.identification.featuresReported = true
  common : ∀ common, cpu.featureSummary.common = some common → ∀ feature, feature ∈ common ↔
    normalizeCpuFeature feature = feature ∧
      ∀ logical ∈ cpu.logicalCpus, logical.identification.feature feature = .reported

/-- **Agreement of the feature queries**, for logical CPUs in any order, with repeated ids and with
incomplete or alias-spelled feature lists. -/
theorem Cpu.featureReports_agree (cpu : Cpu) : cpu.FeatureReportsAgree where
  covers name id := by
    rw [← mem_featureIndex]
    constructor
    · rintro ⟨state, hid⟩
      obtain ⟨evidence, hget, -⟩ := mem_feature_ids.mp hid
      exact ⟨evidence, hget⟩
    · rintro ⟨evidence, hget⟩
      exact ⟨_, mem_feature_ids.mpr ⟨evidence, hget, rfl⟩⟩
  disjoint name id state state' h h' := by
    obtain ⟨evidence, hget, rfl⟩ := mem_feature_ids.mp h
    obtain ⟨evidence', hget', rfl⟩ := mem_feature_ids.mp h'
    rw [Option.some.inj (hget.symm.trans hget')]
  increasing := feature_ids_increasing cpu
  aliases p hp := by
    have halias : ∀ p ∈ featureAliases, normalizeCpuFeature p.1 = p.2 := by
      decide +kernel
    rw [← feature_normalizeCpuFeature cpu p.1, halias p hp]
  sole name logical hmem hcount :=
    mem_feature_ids.mpr ⟨_, featureIndex_sole hmem hcount, featureState_featureEvidence logical name⟩
  duplicate name logical hmem hcount := by
    have hid : logical.id ∈ (cpu.feature name).ids .unknown := mem_feature_ids.mpr
      ⟨_, featureIndex_duplicate hmem hcount, featureState_duplicateEvidence _⟩
    exact hid
  reports report := by
    rw [mem_reports]
    refine exists_congr fun name => and_congr_right fun hname => ?_
    constructor
    · rintro rfl
      exact ⟨rfl, normalizeCpuFeature_vocabulary hname⟩
    · exact fun h => h.1
  observedUnion feature := by
    constructor
    · intro h
      have hcanonical := normalizeCpuFeature_vocabulary (Or.inl h)
      obtain ⟨logical, hmem, hcount, hfeature⟩ := mem_observedUnion.mp h
      exact ⟨hcanonical, logical, hmem, hcount, (feature_eq_reported_iff hcanonical).mpr hfeature⟩
    · rintro ⟨hcanonical, logical, hmem, hcount, hreported⟩
      exact mem_observedUnion.mpr
        ⟨logical, hmem, hcount, (feature_eq_reported_iff hcanonical).mp hreported⟩
  commonPresent := by
    rw [common_eq]
    split
    · rename_i h
      simpa using h
    · rename_i h
      simpa using h
  common _ h := mem_common h

end Sysal
