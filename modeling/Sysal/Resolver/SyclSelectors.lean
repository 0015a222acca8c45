import Sysal.Foundation.Cuts
import Sysal.Resolver.AcceleratorSelection

/-!
# SYCL filters

`ONEAPI_DEVICE_SELECTOR` is a list of clauses, the accepting ones before the discarding ones.  Read one
after the other they denote a set: what the accepting clauses name, or every candidate when there is no
accepting clause, without what the discarding clauses name.

* `parseSycl_eq_some_iff`: the clauses of a value and their order;
* `syclMatches_spec`: the candidates that the selectors of a clause name;
* `selectSyclLoop_mem`: what reading the clauses in their order leaves;
* `selectSycl_denotes`: the set and the warnings of a value.
-/

namespace Sysal.AcceleratorSelection

/-! ### Clauses -/

/-- A clause that takes devices away is written with `!`. -/
def Discards (clause : Bytes) : Prop := ∃ rest, trim clause = 33 :: rest

/-- A clause without its `!`, in lower case. -/
def clauseBody (clause : Bytes) : Bytes :=
  let text := (trim clause).map toLower
  if Bytes.startsWith text (utf8 "!") then text.drop 1 else text

/-- What a clause says: a backend and root selectors around its only colon. -/
structure ReadsClause (clause : Bytes) (filter : SyclFilter) : Prop where
  exclude : filter.exclude = true ↔ Discards clause
  body : ∃ backend selectors, clauseBody clause = backend ++ 58 :: selectors ∧ 58 ∉ backend ∧
    58 ∉ selectors ∧ filter.backend = trim backend ∧ filter.selectors = (split selectors 44).map trim
  backend : filter.backend ∈ syclBackends
  selectors : ∀ selector ∈ filter.selectors, isRootSelector selector = true

/-- No accepting clause follows a discarding one. -/
def AcceptsFirst (filters : List SyclFilter) : Prop :=
  filters.Pairwise fun earlier later => earlier.exclude = true → later.exclude = true

theorem toLower_eq_bang {c : UInt8} : toLower c = 33 ↔ c = 33 := by
  unfold toLower
  split
  · rename_i h
    simp only [Bool.and_eq_true, decide_eq_true_eq, UInt8.le_iff_toNat_le] at h
    have hupper : 65 ≤ c.toNat ∧ c.toNat ≤ 90 := h
    have hlower : (c + 32).toNat = c.toNat + 32 := by
      rw [UInt8.toNat_add]
      exact Nat.mod_eq_of_lt (by have : (32 : UInt8).toNat = 32 := rfl; omega)
    have hbang : (33 : UInt8).toNat = 33 := rfl
    rw [← UInt8.toNat_inj, ← UInt8.toNat_inj]
    omega
  · exact Iff.rfl

theorem startsWith_bang_iff (clause : Bytes) :
    Bytes.startsWith ((trim clause).map toLower) (utf8 "!") = true ↔ Discards clause := by
  have hutf8 : utf8 "!" = [33] := by decide +kernel
  rw [hutf8, Discards, Bytes.startsWith]
  cases trim clause with
  | nil => simp
  | cons c rest =>
      rw [List.map_cons, List.isPrefixOf_cons_cons, List.isPrefixOf_nil_left, Bool.and_true, beq_iff_eq,
        eq_comm, toLower_eq_bang]
      simp

theorem parseSyclBody_eq_some_iff {clause : Bytes} {filter : SyclFilter} {exclude : Bool}
    (hexclude : exclude = true ↔ Discards clause) :
    parseSyclBody (clauseBody clause) exclude = some filter ↔
      ReadsClause clause filter ∧ filter.exclude = exclude := by
  constructor
  · intro h
    rw [parseSyclBody] at h
    split at h
    · rename_i backend selectors hsplit
      obtain ⟨hbody, hbackend, hselectors⟩ := split_eq_pair_iff.mp hsplit
      dsimp only at h
      split at h
      · rename_i hvalid
        rw [← Option.some.inj h]
        exact ⟨⟨hexclude, ⟨backend, selectors, hbody, hbackend, hselectors, rfl, rfl⟩, hvalid.1,
          List.all_eq_true.mp hvalid.2⟩, rfl⟩
      · cases h
    · cases h
  · rintro ⟨⟨-, ⟨backend, selectors, hbody, hnot, hnot', hbackend, hselectors⟩, hknown, hroot⟩, rfl⟩
    rw [parseSyclBody, split_eq_pair_iff.mpr ⟨hbody, hnot, hnot'⟩]
    dsimp only
    rw [hbackend] at hknown
    rw [hselectors] at hroot
    rw [if_pos ⟨hknown, List.all_eq_true.mpr hroot⟩, ← hbackend, ← hselectors]

/-- The loop reads clause after clause; behind a discarding clause all clauses discard. -/
theorem parseSyclLoop_eq_some_iff {clauses : List Bytes} {discarding : Bool}
    {filters : List SyclFilter} :
    parseSyclLoop clauses discarding = some filters ↔
      List.Forall₂ ReadsClause clauses filters ∧ AcceptsFirst filters ∧
        (discarding = true → ∀ filter ∈ filters, filter.exclude = true) := by
  induction clauses generalizing discarding filters with
  | nil =>
      rw [parseSyclLoop, Option.some.injEq, List.forall₂_nil_left_iff, eq_comm]
      constructor
      · rintro rfl
        exact ⟨rfl, List.Pairwise.nil, by simp⟩
      · exact And.left
  | cons clause clauses ih =>
      rw [parseSyclLoop]
      set exclude := Bytes.startsWith ((trim clause).map toLower) (utf8 "!") with hexclude
      have hdiscards : exclude = true ↔ Discards clause := startsWith_bang_iff clause
      have hbody : (if exclude = true then ((trim clause).map toLower).drop 1
          else (trim clause).map toLower) = clauseBody clause := rfl
      rw [hbody]
      by_cases hlate : (!exclude && discarding) = true
      · rw [if_pos hlate]
        rw [Bool.and_eq_true, Bool.not_eq_true'] at hlate
        refine iff_of_false (by simp) ?_
        rintro ⟨hreads, -, hall⟩
        cases hreads with
        | cons hclause _ =>
            have := hdiscards.mpr (hclause.exclude.mp (hall hlate.2 _ List.mem_cons_self))
            rw [this] at hlate
            cases hlate.1
      · rw [if_neg hlate, Option.bind_eq_bind, Option.bind_eq_some_iff]
        simp only [Option.bind_eq_bind, Option.bind_eq_some_iff, Option.pure_def, Option.some.injEq,
          parseSyclBody_eq_some_iff hdiscards, ih]
        constructor
        · rintro ⟨filter, ⟨hclause, hfilter⟩, rest, ⟨hrest, hfirst, hall⟩, rfl⟩
          refine ⟨.cons hclause hrest, List.pairwise_cons.mpr ⟨fun later hlater h => ?_, hfirst⟩, ?_⟩
          · exact hall (by rw [← hfilter, h, Bool.or_true]) later hlater
          · intro hdiscarding filter' hmem
            rcases List.mem_cons.mp hmem with rfl | hmem
            · rw [hfilter]
              cases hcase : exclude with
              | true => rfl
              | false => exact absurd (by rw [hcase, hdiscarding]; rfl) hlate
            · exact hall (by rw [hdiscarding, Bool.true_or]) filter' hmem
        · rintro ⟨hreads, hfirst, hall⟩
          cases hreads with
          | cons hclause hrest =>
              rename_i filter rest
              obtain ⟨hhead, htail⟩ := List.pairwise_cons.mp hfirst
              have hfilter : filter.exclude = exclude :=
                Bool.eq_iff_iff.mpr (hclause.exclude.trans hdiscards.symm)
              refine ⟨filter, ⟨hclause, hfilter⟩, rest, ⟨hrest, htail, fun h later hlater => ?_⟩, rfl⟩
              rcases Bool.or_eq_true_iff.mp h with h | h
              · exact hall h later (List.mem_cons_of_mem _ hlater)
              · exact hhead later hlater (hfilter.trans h)

/-- A value is read exactly when each of its clauses is and no accepting clause follows a discarding
one. -/
theorem parseSycl_eq_some_iff {value : Bytes} {filters : List SyclFilter} :
    parseSycl value = some filters ↔
      List.Forall₂ ReadsClause (split value 59) filters ∧ AcceptsFirst filters := by
  rw [parseSycl, parseSyclLoop_eq_some_iff]
  simp

theorem discards_pairwise {clauses : List Bytes} {filters : List SyclFilter}
    (hreads : List.Forall₂ ReadsClause clauses filters) (hfirst : AcceptsFirst filters) :
    clauses.Pairwise fun earlier later => Discards earlier → Discards later := by
  induction hreads with
  | nil => exact List.Pairwise.nil
  | cons hclause hrest ih =>
      obtain ⟨hlater, hfirst⟩ := List.pairwise_cons.mp hfirst
      refine List.pairwise_cons.mpr ⟨fun clause hmem hdiscards => ?_, ih hfirst⟩
      obtain ⟨i, hi, rfl⟩ := List.mem_iff_getElem.mp hmem
      have hread := hrest.get hi (hrest.length_eq ▸ hi)
      exact hread.exclude.mp (hlater _ (List.getElem_mem _) (hclause.exclude.mpr hdiscards))

/-! ### What a clause names -/

/-- Backends that can run on the candidates. -/
def IsRelevant (filter : SyclFilter) : Prop :=
  filter.backend = utf8 "*" ∨ filter.backend = utf8 "level_zero" ∨ filter.backend = utf8 "opencl"

/-- A numeric selector that no enumeration resolves. -/
def HasUnknownOrdinal (runtimeKnown : Bool) (filter : SyclFilter) : Prop :=
  (filter.backend = utf8 "*" ∨ filter.backend = utf8 "opencl" ∨
      (filter.backend = utf8 "level_zero" ∧ runtimeKnown = false)) ∧
    ∃ selector ∈ filter.selectors, (parseUint selector).isSome = true

variable (candidates : DeviceIndices)

/-- The candidates a selector names: all of them, or the one at a position. -/
def SelectorNames (selector : Bytes) (index : ℕ) : Prop :=
  ((selector = utf8 "gpu" ∨ selector = utf8 "*") ∧ index ∈ candidates) ∨
    ∃ ordinal, parseUint selector = some ordinal ∧ candidates[ordinal]? = some index

/-- The candidates a clause names. -/
def FilterNames (filter : SyclFilter) (index : ℕ) : Prop :=
  IsRelevant filter ∧ ∃ selector ∈ filter.selectors, SelectorNames candidates selector index

/-- The set a list of clauses stands for. -/
def Denotes (filters : List SyclFilter) (index : ℕ) : Prop :=
  ((∃ filter ∈ filters, filter.exclude = false ∧ FilterNames candidates filter index) ∨
      ((∀ filter ∈ filters, filter.exclude = true) ∧ index ∈ candidates)) ∧
    ¬ ∃ filter ∈ filters, filter.exclude = true ∧ FilterNames candidates filter index

variable {candidates} {runtimeKnown : Bool}

theorem nodup_appendUnique {target source : DeviceIndices} (h : target.Nodup) :
    (appendUnique target source).Nodup := by
  induction source generalizing target with
  | nil => exact h
  | cons index source ih =>
      have hstep : appendUnique target (index :: source) =
          appendUnique (if index ∈ target then target else target ++ [index]) source := rfl
      rw [hstep]
      split
      · exact ih h
      · rename_i hnot
        rw [← List.concat_eq_append]
        exact ih (h.concat hnot)

/-- The words that are no numbers. -/
theorem parseUint_word {selector : Bytes} (h : selector = utf8 "gpu" ∨ selector = utf8 "*") :
    parseUint selector = none := by
  rcases h with rfl | rfl <;> decide +kernel

/-- The selectors of a clause are resolved unless one of them is a number that nothing enumerates. -/
theorem syclMatches_eq_none_iff {backend : Bytes} {selectors : List Bytes} {found : DeviceIndices} :
    syclMatches candidates runtimeKnown backend selectors found = none ↔
      (backend ≠ utf8 "level_zero" ∨ !runtimeKnown) ∧
        ∃ selector ∈ selectors, (parseUint selector).isSome = true := by
  induction selectors generalizing found with
  | nil => simp [syclMatches]
  | cons selector selectors ih =>
      rw [syclMatches]
      by_cases hword : selector = utf8 "gpu" ∨ selector = utf8 "*"
      · rw [if_pos hword, ih]
        simp [parseUint_word hword]
      · rw [if_neg hword]
        rcases hordinal : parseUint selector with _ | ordinal
        · dsimp only
          rw [ih]
          simp [hordinal]
        · dsimp only
          by_cases hunknown : backend ≠ utf8 "level_zero" ∨ !runtimeKnown
          · rw [if_pos hunknown]
            exact iff_of_true rfl ⟨hunknown, selector, List.mem_cons_self, by rw [hordinal]; rfl⟩
          · rw [if_neg hunknown]
            have hnone (found : DeviceIndices) :
                syclMatches candidates runtimeKnown backend selectors found ≠ none :=
              fun h => hunknown (ih.mp h).1
            split
            · exact iff_of_false (hnone _) fun h => hunknown h.1
            · exact iff_of_false (hnone _) fun h => hunknown h.1

/-- Resolved selectors collect the candidates they name. -/
theorem mem_syclMatches {backend : Bytes} {selectors : List Bytes} {found result : DeviceIndices}
    (h : syclMatches candidates runtimeKnown backend selectors found = some result) (index : ℕ) :
    index ∈ result ↔
      index ∈ found ∨ ∃ selector ∈ selectors, SelectorNames candidates selector index := by
  induction selectors generalizing found with
  | nil => simp [Option.some.inj h]
  | cons selector selectors ih =>
      have hcons : (∃ other ∈ selector :: selectors, SelectorNames candidates other index) ↔
          SelectorNames candidates selector index ∨
            ∃ other ∈ selectors, SelectorNames candidates other index := by
        simp
      rw [hcons, ← or_assoc]
      rw [syclMatches] at h
      by_cases hword : selector = utf8 "gpu" ∨ selector = utf8 "*"
      · rw [if_pos hword] at h
        rw [ih h, mem_appendUnique]
        simp [SelectorNames, hword, parseUint_word hword]
      · rw [if_neg hword] at h
        rcases hordinal : parseUint selector with _ | ordinal
        · rw [hordinal] at h
          rw [ih h]
          simp [SelectorNames, hword, hordinal]
        · rw [hordinal] at h
          dsimp only at h
          split at h
          · cases h
          · split at h
            · rename_i hlt
              rw [ih h, mem_appendUnique]
              simp [SelectorNames, hword, hordinal, hlt, List.getD, eq_comm]
            · rename_i hge
              rw [ih h]
              simp [SelectorNames, hword, hordinal, hge]

/-! ### Clause after clause -/

/-- A clause of another vendor's backend is passed over. -/
theorem selectSyclLoop_irrelevant {filter : SyclFilter} (h : ¬ IsRelevant filter)
    (filters : List SyclFilter) (selected : DeviceIndices) :
    selectSyclLoop candidates runtimeKnown (filter :: filters) selected =
      selectSyclLoop candidates runtimeKnown filters selected := by
  rw [IsRelevant, not_or, not_or] at h
  rw [selectSyclLoop, if_pos h]

theorem selectSyclLoop_relevant {filter : SyclFilter} (h : IsRelevant filter)
    (filters : List SyclFilter) (selected : DeviceIndices) :
    selectSyclLoop candidates runtimeKnown (filter :: filters) selected =
      (syclMatches candidates runtimeKnown filter.backend filter.selectors []).bind fun found =>
        selectSyclLoop candidates runtimeKnown filters
          (if filter.exclude then selected.filter (· ∉ found) else appendUnique selected found) := by
  have hnot : ¬ (filter.backend ≠ utf8 "*" ∧ filter.backend ≠ utf8 "level_zero" ∧
      filter.backend ≠ utf8 "opencl") := by
    rw [← not_or, ← not_or, not_not]
    exact h
  rw [selectSyclLoop, if_neg hnot]
  cases syclMatches candidates runtimeKnown filter.backend filter.selectors [] <;> rfl

theorem hasUnknownOrdinal_iff {filter : SyclFilter} (found : DeviceIndices) :
    HasUnknownOrdinal runtimeKnown filter ↔ IsRelevant filter ∧
      syclMatches candidates runtimeKnown filter.backend filter.selectors found = none := by
  have hwords : utf8 "*" ≠ utf8 "level_zero" ∧ utf8 "opencl" ≠ utf8 "level_zero" := by
    decide +kernel
  rw [syclMatches_eq_none_iff, HasUnknownOrdinal, IsRelevant, ← and_assoc, Bool.not_eq_true']
  refine and_congr_left fun _ => ⟨?_, ?_⟩
  · rintro (h | h | ⟨h, hunknown⟩)
    · exact ⟨Or.inl h, Or.inl (h ▸ hwords.1)⟩
    · exact ⟨Or.inr (Or.inr h), Or.inl (h ▸ hwords.2)⟩
    · exact ⟨Or.inr (Or.inl h), Or.inr hunknown⟩
  · rintro ⟨h | h | h, hunknown⟩
    · exact Or.inl h
    · exact Or.inr (Or.inr ⟨h, hunknown.resolve_left fun hne => hne h⟩)
    · exact Or.inr (Or.inl h)

/-- The reading fails exactly at a number that nothing enumerates. -/
theorem selectSyclLoop_eq_none_iff {filters : List SyclFilter} {selected : DeviceIndices} :
    selectSyclLoop candidates runtimeKnown filters selected = none ↔
      ∃ filter ∈ filters, HasUnknownOrdinal runtimeKnown filter := by
  induction filters generalizing selected with
  | nil => simp [selectSyclLoop]
  | cons filter filters ih =>
      have hunknown : HasUnknownOrdinal runtimeKnown filter ↔ IsRelevant filter ∧
          syclMatches candidates runtimeKnown filter.backend filter.selectors [] = none :=
        hasUnknownOrdinal_iff []
      by_cases hrelevant : IsRelevant filter
      · rw [selectSyclLoop_relevant hrelevant, List.exists_mem_cons_iff, hunknown]
        cases hmatches : syclMatches candidates runtimeKnown filter.backend filter.selectors [] with
        | none => simp [hrelevant]
        | some found => simp [ih]
      · rw [selectSyclLoop_irrelevant hrelevant, List.exists_mem_cons_iff, hunknown, ih]
        simp [hrelevant]

/-- **Reading the clauses in their order adds what the accepting ones name and then takes away what the
discarding ones name.** -/
theorem mem_selectSyclLoop {filters : List SyclFilter} (hfirst : AcceptsFirst filters)
    {selected result : DeviceIndices}
    (h : selectSyclLoop candidates runtimeKnown filters selected = some result) (index : ℕ) :
    index ∈ result ↔
      (index ∈ selected ∨
        ∃ filter ∈ filters, filter.exclude = false ∧ FilterNames candidates filter index) ∧
      ¬ ∃ filter ∈ filters, filter.exclude = true ∧ FilterNames candidates filter index := by
  induction filters generalizing selected with
  | nil => simp [← Option.some.inj h]
  | cons filter filters ih =>
      obtain ⟨hlater, hfirst⟩ := List.pairwise_cons.mp hfirst
      rw [List.exists_mem_cons_iff, List.exists_mem_cons_iff]
      by_cases hrelevant : IsRelevant filter
      · rw [selectSyclLoop_relevant hrelevant] at h
        obtain ⟨found, hfound, hrest⟩ := Option.bind_eq_some_iff.mp h
        have hnames : FilterNames candidates filter index ↔ index ∈ found := by
          rw [mem_syclMatches hfound, FilterNames]
          simp [hrelevant]
        rw [ih hfirst hrest, hnames]
        cases hexclude : filter.exclude with
        | false =>
            rw [if_neg Bool.false_ne_true, mem_appendUnique]
            simp [or_assoc]
        | true =>
            -- what discards is behind all that accepts
            have hnoaccept : ¬ ∃ later ∈ filters,
                later.exclude = false ∧ FilterNames candidates later index := by
              rintro ⟨later, hmem, haccept, -⟩
              rw [hlater later hmem hexclude] at haccept
              cases haccept
            rw [if_pos rfl, List.mem_filter]
            simp only [hnoaccept, decide_eq_true_eq, reduceCtorEq, false_and, true_and, or_false,
              not_or, and_assoc]
      · rw [selectSyclLoop_irrelevant hrelevant] at h
        rw [ih hfirst h]
        simp [FilterNames, hrelevant]

theorem nodup_selectSyclLoop {filters : List SyclFilter} {selected result : DeviceIndices}
    (hnodup : selected.Nodup)
    (h : selectSyclLoop candidates runtimeKnown filters selected = some result) : result.Nodup := by
  induction filters generalizing selected with
  | nil => exact Option.some.inj h ▸ hnodup
  | cons filter filters ih =>
      by_cases hrelevant : IsRelevant filter
      · rw [selectSyclLoop_relevant hrelevant] at h
        obtain ⟨found, -, hrest⟩ := Option.bind_eq_some_iff.mp h
        refine ih ?_ hrest
        split
        · exact hnodup.filter _
        · exact nodup_appendUnique hnodup
      · rw [selectSyclLoop_irrelevant hrelevant] at h
        exact ih hnodup h

/-! ### Values -/

/-- What a value leaves of the candidates, and the warnings about it. -/
structure SyclOutcome (candidates : DeviceIndices) (value : Bytes) (runtimeKnown : Bool)
    (result : DeviceIndices × List Bytes) : Prop where
  blank : trim value = [] → result = ([], [])
  rejected : trim value ≠ [] → parseSycl value = none → result = (candidates,
    [utf8 "[visibility] unsupported ONEAPI_DEVICE_SELECTOR; Intel selection left unchanged"])
  unavailable : trim value ≠ [] → ∀ filters, parseSycl value = some filters →
    (∃ filter ∈ filters, HasUnknownOrdinal runtimeKnown filter) → result = (candidates,
      [utf8 "[visibility] SYCL backend ordinal unavailable; Intel selection left unchanged"])
  denotes : trim value ≠ [] → ∀ filters, parseSycl value = some filters →
    (¬ ∃ filter ∈ filters, HasUnknownOrdinal runtimeKnown filter) →
    result.2 = [] ∧ ∀ index, index ∈ result.1 ↔ Denotes candidates filters index
  nodup : result.1.Nodup
  subset : ∀ index ∈ result.1, index ∈ candidates

/-- What the reading starts from: every candidate when no clause accepts. -/
theorem mem_initial (filters : List SyclFilter) (index : ℕ) :
    index ∈ (if filters.any (!·.exclude) then [] else candidates) ↔
      (∀ filter ∈ filters, filter.exclude = true) ∧ index ∈ candidates := by
  by_cases h : filters.any (!·.exclude) = true
  · rw [if_pos h]
    obtain ⟨filter, hmem, haccept⟩ := List.any_eq_true.mp h
    refine iff_of_false List.not_mem_nil fun hall => ?_
    rw [hall.1 filter hmem] at haccept
    cases haccept
  · rw [if_neg h]
    refine ⟨fun hindex => ⟨fun filter hmem => ?_, hindex⟩, And.right⟩
    by_contra hexclude
    exact h (List.any_eq_true.mpr ⟨filter, hmem, by simpa using hexclude⟩)

section Outcome

variable {candidates : DeviceIndices} {value : Bytes} {runtimeKnown : Bool} {filters : List SyclFilter}

/-- The candidates before the first clause. -/
theorem nodup_initial (hnodup : candidates.Nodup) (filters : List SyclFilter) :
    (if filters.any (!·.exclude) then [] else candidates).Nodup := by
  split
  · exact List.nodup_nil
  · exact hnodup

/-- A value that is read leaves what its clauses leave. -/
theorem selectSycl_of_selected {selected : DeviceIndices} (hvalue : trim value ≠ [])
    (hparse : parseSycl value = some filters)
    (hselected : selectSyclLoop candidates runtimeKnown filters
      (if filters.any (!·.exclude) then [] else candidates) = some selected) :
    selectSycl candidates value runtimeKnown = (selected, []) := by
  rw [selectSycl, if_neg (by simpa using hvalue)]
  simp only [hparse, hselected]

/-- A value with a number that nothing enumerates leaves the candidates. -/
theorem selectSycl_of_unknown (hvalue : trim value ≠ []) (hparse : parseSycl value = some filters)
    (hnone : selectSyclLoop candidates runtimeKnown filters
      (if filters.any (!·.exclude) then [] else candidates) = none) :
    selectSycl candidates value runtimeKnown = (candidates,
      [utf8 "[visibility] SYCL backend ordinal unavailable; Intel selection left unchanged"]) := by
  rw [selectSycl, if_neg (by simpa using hvalue)]
  simp only [hparse, hnone]

theorem nodup_selectSycl (hnodup : candidates.Nodup) (value : Bytes) (runtimeKnown : Bool) :
    (selectSycl candidates value runtimeKnown).1.Nodup := by
  by_cases h : trim value = []
  · simp [selectSycl, h]
  · cases hparse : parseSycl value with
    | none =>
        rw [selectSycl, if_neg (by simpa using h), hparse]
        exact hnodup
    | some filters =>
        cases hselected : selectSyclLoop candidates runtimeKnown filters
            (if filters.any (!·.exclude) then [] else candidates) with
        | some selected =>
            rw [selectSycl_of_selected h hparse hselected]
            exact nodup_selectSyclLoop (nodup_initial hnodup filters) hselected
        | none =>
            rw [selectSycl_of_unknown h hparse hselected]
            exact hnodup

end Outcome

/-- **The clauses of a value stand for a set of candidates.**  A value whose clauses are read and name no
number that nothing enumerates leaves that set, a value that is not leaves the candidates with a warning,
a blank one leaves nothing; a value with an accepting clause behind a discarding one is not read. -/
theorem selectSycl_denotes {candidates : DeviceIndices} (hnodup : candidates.Nodup) (value : Bytes)
    (runtimeKnown : Bool) :
    SyclOutcome candidates value runtimeKnown (selectSycl candidates value runtimeKnown) ∧
      ∀ earlier clause later clause', split value 59 = earlier ++ clause :: later → clause' ∈ later →
        Discards clause → ¬ Discards clause' → parseSycl value = none := by
  refine ⟨⟨fun h => by simp [selectSycl, h], fun h hparse => ?_, fun h filters hparse hunknown => ?_,
    fun h filters hparse hknown => ?_, nodup_selectSycl hnodup value runtimeKnown,
    fun index => selectSycl_subset⟩, ?_⟩
  · rw [selectSycl, if_neg (by simpa using h), hparse]
  · exact selectSycl_of_unknown h hparse (selectSyclLoop_eq_none_iff.mpr hunknown)
  · obtain ⟨selected, hselected⟩ := Option.ne_none_iff_exists'.mp
      (selectSyclLoop_eq_none_iff.not.mpr hknown)
    rw [selectSycl_of_selected h hparse hselected]
    refine ⟨rfl, fun index => ?_⟩
    have hfirst := (parseSycl_eq_some_iff.mp hparse).2
    rw [mem_selectSyclLoop hfirst hselected, mem_initial, Denotes, or_comm]
  · intro earlier clause later clause' hsplit hmem hdiscards haccepts
    rw [Option.eq_none_iff_forall_ne_some]
    intro filters hparse
    obtain ⟨hreads, hfirst⟩ := parseSycl_eq_some_iff.mp hparse
    have horder := discards_pairwise hreads hfirst
    rw [hsplit, List.pairwise_append, List.pairwise_cons] at horder
    exact haccepts (horder.2.1.1 clause' hmem hdiscards)

/-- All devices but the second one. -/
theorem selectSycl_denotes_discarded :
    SyclOutcome [0, 1, 2] (utf8 "*:gpu;!level_zero:1") true ([0, 2], []) := by
  have h := (selectSycl_denotes (by decide : [0, 1, 2].Nodup) (utf8 "*:gpu;!level_zero:1") true).1
  have hresult : selectSycl [0, 1, 2] (utf8 "*:gpu;!level_zero:1") true = ([0, 2], []) := by
    decide +kernel
  rwa [hresult] at h

end Sysal.AcceleratorSelection
