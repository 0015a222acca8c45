import Sysal.Foundation.ByteString

/-!
# Splitting at several separators

The parsers split at one byte, sometimes after turning blanks into that byte.  Splitting at one kind
of separator and then each piece at another is splitting at both (`splitOnP_or`), and turning one kind
into the other first makes no difference (`splitOn_map_separator`).  `mem_splitOnP_of_enclosed` says
which parts of a list are pieces of it: those without a separator that stand between separators or
the ends.  `words_eq_iff` says of which texts given words are the words.
-/

namespace Sysal

variable {α : Type*}

/-! ### Pieces -/

theorem splitOnP_or (p q : α → Bool) (l : List α) :
    l.splitOnP (fun c => p c || q c) = (l.splitOnP q).flatMap (·.splitOnP p) := by
  induction l with
  | nil => rfl
  | cons c l ih =>
      rw [List.splitOnP_cons_eq_if_modifyHead, List.splitOnP_cons_eq_if_modifyHead, ih]
      by_cases hq : q c = true
      · rw [if_pos (by simp [hq]), if_pos hq]
        rfl
      · obtain ⟨x, xs, hx⟩ := List.exists_cons_of_ne_nil (List.splitOnP_ne_nil q l)
        rw [if_neg hq, hx, List.modifyHead_cons, List.flatMap_cons, List.flatMap_cons,
          List.splitOnP_cons_eq_if_modifyHead]
        by_cases hp : p c = true
        · rw [if_pos (by simp [hp]), if_pos hp]
          rfl
        · rw [if_neg (by simp [hp, hq]), if_neg hp]
          obtain ⟨y, ys, hy⟩ := List.exists_cons_of_ne_nil (List.splitOnP_ne_nil p x)
          rw [hy]
          rfl

theorem splitOn_map_separator [BEq α] [LawfulBEq α] (p : α → Bool) (d : α) (l : List α) :
    (l.map fun c => if p c then d else c).splitOn d = l.splitOnP (fun c => p c || c == d) := by
  rw [List.splitOn_eq_splitOnP]
  induction l with
  | nil => rfl
  | cons c l ih =>
      rw [List.map_cons, List.splitOnP_cons_eq_if_modifyHead, List.splitOnP_cons_eq_if_modifyHead, ih]
      by_cases hp : p c = true
      · simp [hp]
      · by_cases hd : c = d
        · simp [hd]
        · simp [hp, hd]

/-- A piece has no separator. -/
theorem not_separator_of_mem_splitOnP {p : α → Bool} {l t : List α} (h : t ∈ l.splitOnP p) :
    ∀ c ∈ t, p c = false := by
  induction l generalizing t with
  | nil =>
      rw [List.mem_singleton.mp h]
      simp
  | cons x l ih =>
      obtain ⟨r, rest, hr⟩ := List.exists_cons_of_ne_nil (List.splitOnP_ne_nil p l)
      rw [hr] at ih
      rw [List.splitOnP_cons_eq_if_modifyHead, hr, List.modifyHead_cons] at h
      by_cases hx : p x = true
      · rw [if_pos hx] at h
        rcases List.mem_cons.mp h with rfl | h
        · simp
        · exact ih h
      · rw [if_neg hx] at h
        rcases List.mem_cons.mp h with rfl | h
        · intro c hc
          rcases List.mem_cons.mp hc with rfl | hc
          · simpa using hx
          · exact ih List.mem_cons_self c hc
        · exact ih (List.mem_cons_of_mem _ h)

/-- A list that is empty or ends with a separator. -/
def EndsClosed (p : α → Bool) (l : List α) : Prop := l = [] ∨ ∃ l' c, p c = true ∧ l = l' ++ [c]

/-- A list that is empty or starts with a separator. -/
def StartsClosed (p : α → Bool) (l : List α) : Prop := l = [] ∨ ∃ c l', p c = true ∧ l = c :: l'

/-- Separators only: closed at both ends, also next to a closed list. -/
theorem endsClosed_append {p : α → Bool} {a b : List α} (ha : EndsClosed p a)
    (hb : ∀ c ∈ b, p c = true) : EndsClosed p (a ++ b) := by
  rcases List.eq_nil_or_concat b with rfl | ⟨b', c, rfl⟩
  · rwa [List.append_nil]
  · exact .inr ⟨a ++ b', c, hb c (by simp), by simp⟩

theorem startsClosed_append {p : α → Bool} {a b : List α} (ha : ∀ c ∈ a, p c = true)
    (hb : StartsClosed p b) : StartsClosed p (a ++ b) := by
  cases a with
  | nil => exact hb
  | cons c a => exact .inr ⟨c, a ++ b, ha c List.mem_cons_self, rfl⟩

theorem endsClosed_of_forall {p : α → Bool} {l : List α} (h : ∀ c ∈ l, p c = true) :
    EndsClosed p l := endsClosed_append (a := []) (.inl rfl) h

theorem startsClosed_of_forall {p : α → Bool} {l : List α} (h : ∀ c ∈ l, p c = true) :
    StartsClosed p l := by
  simpa using startsClosed_append h (.inl rfl : StartsClosed p ([] : List α))

/-- What follows the longest run without a separator starts with one. -/
theorem startsClosed_dropWhile (p : α → Bool) (l : List α) :
    StartsClosed p (l.dropWhile fun c => !p c) := by
  induction l with
  | nil => exact .inl rfl
  | cons c l ih =>
      by_cases hp : p c = true
      · exact .inr ⟨c, l, hp, by simp [hp]⟩
      · simpa [List.dropWhile_cons, hp] using ih

/-- A part without separators that stands between separators or the ends is a piece. -/
theorem mem_splitOnP_of_enclosed {p : α → Bool} {pre t post : List α} (hpre : EndsClosed p pre)
    (hpost : StartsClosed p post) (ht : ∀ c ∈ t, p c = false) :
    t ∈ (pre ++ t ++ post).splitOnP p := by
  have hright : t ∈ (t ++ post).splitOnP p := by
    rcases hpost with rfl | ⟨c, post', hc, rfl⟩
    · rw [List.append_nil, List.splitOnP_eq_singleton ht]
      exact List.mem_singleton_self t
    · rw [List.splitOnP_append_cons_of_forall_mem ht c hc]
      exact List.mem_cons_self
  rcases hpre with rfl | ⟨pre', c, hc, rfl⟩
  · exact hright
  · rw [List.append_assoc, List.append_assoc, List.singleton_append,
      List.splitOnP_append_cons _ _ hc]
    exact List.mem_append_right _ hright

/-! ### Cutting at a byte -/

theorem cut_eq_some {s left right : Bytes} {c : UInt8} (h : Bytes.cut s c = some (left, right)) :
    s = left ++ c :: right ∧ ∀ d ∈ left, d ≠ c := by
  rw [Bytes.cut] at h
  split at h
  · rename_i hc
    simp only [Option.some.injEq, Prod.mk.injEq] at h
    obtain ⟨rfl, rfl⟩ := h
    refine ⟨?_, fun d hd => by simpa using List.mem_takeWhile_imp hd⟩
    have hne : s.dropWhile (fun d => decide (d ≠ c)) ≠ [] := by
      intro hnil
      have := List.dropWhile_eq_nil_iff.mp hnil c hc
      simp at this
    obtain ⟨d, tail, hd⟩ := List.exists_cons_of_ne_nil hne
    have hhead := List.head_dropWhile_not (fun d => decide (d ≠ c)) (l := s) hne
    simp only [hd, List.head_cons, decide_eq_false_iff_not, not_not] at hhead
    subst hhead
    conv_lhs => rw [← List.takeWhile_append_dropWhile (p := fun e => decide (e ≠ d)) (l := s), hd]
    rw [hd]
    rfl
  · cases h

/-! ### Blanks at the ends -/

/-- A string is its trimmed part between blanks. -/
theorem exists_trim (s : Bytes) : ∃ pre post : Bytes, s = pre ++ trim s ++ post ∧
    (∀ c ∈ pre, isSpace c = true) ∧ ∀ c ∈ post, isSpace c = true := by
  refine ⟨s.takeWhile isSpace, (s.dropWhile isSpace).rtakeWhile isSpace, ?_, ?_, ?_⟩
  · rw [List.append_assoc, trim, List.rdropWhile_append_rtakeWhile, List.takeWhile_append_dropWhile]
  · exact fun c hc => List.mem_takeWhile_imp hc
  · exact fun c hc => List.mem_rtakeWhile_imp hc

/-- A trimmed string does not start with a blank. -/
theorem trim_eq_cons {s : Bytes} {c : UInt8} {t : Bytes} (h : trim s = c :: t) :
    isSpace c = false := by
  rw [trim] at h
  have hpre : (s.dropWhile isSpace).rdropWhile isSpace <+: s.dropWhile isSpace :=
    List.rdropWhile_prefix _ _
  rw [h] at hpre
  obtain ⟨r, hr⟩ := hpre
  have hhead := List.head_dropWhile_not isSpace (l := s) (by rw [← hr]; simp)
  simp only [← hr, List.cons_append, List.head_cons] at hhead
  exact hhead

/-- A trimmed string does not end with a blank. -/
theorem trim_eq_concat {s : Bytes} {c : UInt8} {t : Bytes} (h : trim s = t ++ [c]) :
    isSpace c = false := by
  rw [trim] at h
  have hlast := List.rdropWhile_last_not isSpace (s.dropWhile isSpace) (by rw [h]; simp)
  simp only [h, List.getLast_append, List.getLast_singleton] at hlast
  simpa using hlast

/-- Trimming blank-free text changes nothing. -/
theorem trim_of_forall {s : Bytes} (h : ∀ c ∈ s, isSpace c = false) : trim s = s := by
  obtain ⟨pre, post, hs, hpre, hpost⟩ := exists_trim s
  have hempty : ∀ l : Bytes, (∀ c ∈ l, c ∈ s) → (∀ c ∈ l, isSpace c = true) → l = [] := by
    intro l hmem hblank
    refine List.eq_nil_iff_forall_not_mem.mpr fun c hc => ?_
    have := (hblank c hc).symm.trans (h c (hmem c hc))
    cases this
  have hpre' := hempty pre (fun c hc => by rw [hs]; simp [hc]) hpre
  have hpost' := hempty post (fun c hc => by rw [hs]; simp [hc]) hpost
  rw [hpre', hpost', List.nil_append, List.append_nil] at hs
  exact hs.symm

theorem trim_trim (s : Bytes) : trim (trim s) = trim s := by
  obtain ⟨pre, post, hs, hpre, hpost⟩ := exists_trim (trim s)
  have hpre' : pre = [] := by
    cases pre with
    | nil => rfl
    | cons c pre =>
        have := trim_eq_cons (s := s) (t := pre ++ trim (trim s) ++ post) hs
        rw [hpre c List.mem_cons_self] at this
        cases this
  have hpost' : post = [] := by
    rcases List.eq_nil_or_concat post with rfl | ⟨post', c, rfl⟩
    · rfl
    · have := trim_eq_concat (s := s) (t := pre ++ trim (trim s) ++ post')
        (hs.trans (by rw [List.concat_eq_append, List.append_assoc _ post']))
      rw [hpost c (by simp)] at this
      cases this
  rw [hpre', hpost', List.nil_append, List.append_nil] at hs
  exact hs.symm

/-- A text that starts and ends with a byte that is no blank. -/
structure ClosedEnds (s : Bytes) : Prop where
  first : ∃ c t, s = c :: t ∧ isSpace c = false
  last : ∃ t c, s = t ++ [c] ∧ isSpace c = false

namespace ClosedEnds

theorem of_trim {s : Bytes} (hne : s ≠ []) (h : trim s = s) : ClosedEnds s := by
  constructor
  · obtain ⟨c, t, hs⟩ := List.exists_cons_of_ne_nil hne
    exact ⟨c, t, hs, trim_eq_cons (h.trans hs)⟩
  · obtain ⟨t, c, hs⟩ := (List.eq_nil_or_concat s).resolve_left hne
    rw [List.concat_eq_append] at hs
    exact ⟨t, c, hs, trim_eq_concat (h.trans hs)⟩

theorem of_forall {s : Bytes} (hne : s ≠ []) (h : ∀ c ∈ s, isSpace c = false) : ClosedEnds s :=
  of_trim hne (trim_of_forall h)

/-- Only the ends count. -/
theorem append {a b : Bytes} (ha : ClosedEnds a) (hb : ClosedEnds b) (m : Bytes) :
    ClosedEnds (a ++ (m ++ b)) := by
  obtain ⟨c, t, rfl, hc⟩ := ha.first
  obtain ⟨u, d, rfl, hd⟩ := hb.last
  exact ⟨⟨c, t ++ (m ++ (u ++ [d])), rfl, hc⟩, ⟨c :: t ++ (m ++ u), d, by simp, hd⟩⟩

/-- Blanks behind the last byte that is no blank are removed. -/
theorem trim_append {a : Bytes} (ha : ClosedEnds a) (b : Bytes) :
    trim (a ++ b) = a ++ b.rdropWhile isSpace := by
  obtain ⟨c, t, hfirst, hc⟩ := ha.first
  obtain ⟨u, d, hlast, hd⟩ := ha.last
  have hdrop : (a ++ b).dropWhile isSpace = a ++ b := by
    rw [hfirst, List.cons_append, List.dropWhile_cons_of_neg (by simp [hc])]
  rw [trim, hdrop, List.rdropWhile, List.rdropWhile, List.reverse_append, List.dropWhile_append]
  split
  · rename_i hempty
    rw [List.isEmpty_iff.mp hempty, hlast]
    simp [hd]
  · simp

theorem trim_eq {a : Bytes} (ha : ClosedEnds a) : trim a = a := by
  simpa using ha.trim_append []

end ClosedEnds

theorem mem_rdropWhile_isSpace {c : UInt8} (hc : isSpace c = false) {s : Bytes} :
    c ∈ s.rdropWhile isSpace ↔ c ∈ s := by
  have hs : s.rdropWhile isSpace ++ s.rtakeWhile isSpace = s := List.rdropWhile_append_rtakeWhile
  constructor
  · exact fun h => (List.rdropWhile_prefix isSpace s).subset h
  · intro h
    rw [← hs] at h
    rcases List.mem_append.mp h with h | h
    · exact h
    · rw [List.mem_rtakeWhile_imp h] at hc
      cases hc

/-! ### Words -/

/-- A blank separates words. -/
theorem words_append_cons {c : UInt8} (hc : isSpace c = true) (a b : Bytes) :
    words (a ++ c :: b) = words a ++ words b := by
  rw [words, List.splitOnP_append_cons a b hc, List.filter_append]
  rfl

/-- A text of one word. -/
theorem words_of_forall {s : Bytes} (hne : s ≠ []) (h : ∀ c ∈ s, isSpace c = false) :
    words s = [s] := by
  have hsplit : s.splitOnP isSpace = [s] :=
    List.splitOnP_eq_singleton h
  rw [words, hsplit]
  simp [hne]

/-- A text up to its first blank. -/
theorem exists_first_blank (p : UInt8 → Bool) (s : Bytes) :
    (∀ c ∈ s, p c = false) ∨ ∃ w c rest, s = w ++ c :: rest ∧ (∀ d ∈ w, p d = false) ∧ p c = true := by
  induction s with
  | nil => exact Or.inl (by simp)
  | cons d s ih =>
      cases hd : p d with
      | true => exact Or.inr ⟨[], d, s, rfl, by simp, hd⟩
      | false =>
          rcases ih with ih | ⟨w, c, rest, rfl, hw, hc⟩
          · exact Or.inl (List.forall_mem_cons.mpr ⟨hd, ih⟩)
          · exact Or.inr ⟨d :: w, c, rest, rfl, List.forall_mem_cons.mpr ⟨hd, hw⟩, hc⟩

theorem words_of_blank {s : Bytes} (h : ∀ c ∈ s, isSpace c = true) : words s = [] := by
  induction s with
  | nil => rfl
  | cons c s ih =>
      have hcons := words_append_cons (h c List.mem_cons_self) [] s
      rw [List.nil_append] at hcons
      rw [hcons, ih fun d hd => h d (List.mem_cons_of_mem _ hd)]
      rfl

theorem mem_intercalate {α : Type} {sep x : α} {fields : List (List α)}
    (h : x ∈ [sep].intercalate fields) : x = sep ∨ ∃ field ∈ fields, x ∈ field := by
  induction fields with
  | nil => simp at h
  | cons field fields ih =>
      cases fields with
      | nil => exact Or.inr ⟨field, List.mem_cons_self, by simpa using h⟩
      | cons field' fields =>
          rw [List.intercalate_cons_cons, List.append_assoc, List.mem_append, List.mem_append,
            List.mem_singleton] at h
          rcases h with h | h | h
          · exact Or.inr ⟨field, List.mem_cons_self, h⟩
          · exact Or.inl h
          · exact (ih h).imp id fun h => h.imp fun other h => ⟨List.mem_cons_of_mem _ h.1, h.2⟩

/-- Texts between blanks. -/
theorem words_intercalate (fields : List Bytes) :
    words ([32].intercalate fields) = fields.flatMap words := by
  induction fields with
  | nil => rfl
  | cons field fields ih =>
      cases fields with
      | nil => simp
      | cons field' fields =>
          rw [List.intercalate_cons_cons, List.append_assoc, List.singleton_append,
            words_append_cons (by decide), ih, List.flatMap_cons (x := field)]

/-- Words with blanks before, between and behind them. -/
inductive Spaced : List Bytes → Bytes → Prop
  | blank {s : Bytes} (h : ∀ c ∈ s, isSpace c = true) : Spaced [] s
  | last {gap w : Bytes} (hgap : ∀ c ∈ gap, isSpace c = true) (hne : w ≠ [])
      (hw : ∀ c ∈ w, isSpace c = false) : Spaced [w] (gap ++ w)
  | cons {gap w rest : Bytes} {c : UInt8} {ws : List Bytes} (hgap : ∀ c ∈ gap, isSpace c = true)
      (hne : w ≠ []) (hw : ∀ c ∈ w, isSpace c = false) (hc : isSpace c = true)
      (h : Spaced ws rest) : Spaced (w :: ws) (gap ++ (w ++ c :: rest))

/-- Blanks in front do not count. -/
theorem words_blank_append {gap : Bytes} (hgap : ∀ c ∈ gap, isSpace c = true) (s : Bytes) :
    words (gap ++ s) = words s := by
  induction gap with
  | nil => rfl
  | cons c gap ih =>
      have hcons := words_append_cons (hgap c List.mem_cons_self) [] (gap ++ s)
      rw [List.nil_append] at hcons
      rw [List.cons_append, hcons, ih fun d hd => hgap d (List.mem_cons_of_mem _ hd)]
      rfl

/-- Nor do blanks behind. -/
theorem words_append_blank (s : Bytes) {gap : Bytes} (hgap : ∀ c ∈ gap, isSpace c = true) :
    words (s ++ gap) = words s := by
  cases gap with
  | nil => rw [List.append_nil]
  | cons c gap =>
      rw [words_append_cons (hgap c List.mem_cons_self),
        words_of_blank fun d hd => hgap d (List.mem_cons_of_mem _ hd), List.append_nil]

theorem words_trim (s : Bytes) : words (trim s) = words s := by
  obtain ⟨pre, post, hs, hpre, hpost⟩ := exists_trim s
  conv_rhs => rw [hs]
  rw [List.append_assoc, words_blank_append hpre, words_append_blank _ hpost]

theorem words_of_spaced {ws : List Bytes} {s : Bytes} (h : Spaced ws s) : words s = ws := by
  induction h with
  | blank h => exact words_of_blank h
  | last hgap hne hw => rw [words_blank_append hgap, words_of_forall hne hw]
  | cons hgap hne hw hc _ ih =>
      rw [words_blank_append hgap, words_append_cons hc, words_of_forall hne hw, ih]
      rfl

/-- Every text is one of words with blanks between them. -/
theorem exists_spaced (s : Bytes) : ∃ ws, Spaced ws s := by
  induction s with
  | nil => exact ⟨[], .blank (by simp)⟩
  | cons d s ih =>
      obtain ⟨ws, h⟩ := ih
      cases hd : isSpace d with
      | true =>
          -- a blank goes to the gap in front
          cases h with
          | blank h => exact ⟨[], .blank (List.forall_mem_cons.mpr ⟨hd, h⟩)⟩
          | last hgap hne hw => exact ⟨_, .last (List.forall_mem_cons.mpr ⟨hd, hgap⟩) hne hw⟩
          | cons hgap hne hw hc h =>
              exact ⟨_, .cons (List.forall_mem_cons.mpr ⟨hd, hgap⟩) hne hw hc h⟩
      | false =>
          -- any other byte goes to the word behind it, or is one
          have hword : ∀ c ∈ [d], isSpace c = false := by simpa using hd
          have hnil : ∀ c ∈ ([] : Bytes), isSpace c = true := by simp
          cases h with
          | blank h =>
              cases s with
              | nil => exact ⟨[[d]], .last hnil (by simp) hword⟩
              | cons c s =>
                  exact ⟨[[d]], .cons hnil (by simp) hword (h c List.mem_cons_self)
                    (.blank fun e he => h e (List.mem_cons_of_mem _ he))⟩
          | @last gap w hgap hne hw =>
              cases gap with
              | nil => exact ⟨[d :: w], .last hnil (by simp)
                  (List.forall_mem_cons.mpr ⟨hd, hw⟩)⟩
              | cons c gap =>
                  exact ⟨[d] :: [w], .cons hnil (by simp) hword
                    (hgap c List.mem_cons_self)
                    (.last (fun e he => hgap e (List.mem_cons_of_mem _ he)) hne hw)⟩
          | @cons gap w rest c ws hgap hne hw hc h =>
              cases gap with
              | nil => exact ⟨(d :: w) :: ws, .cons hnil (by simp)
                  (List.forall_mem_cons.mpr ⟨hd, hw⟩) hc h⟩
              | cons e gap =>
                  exact ⟨[d] :: w :: ws, .cons hnil (by simp) hword
                    (hgap e List.mem_cons_self)
                    (.cons (fun f hf => hgap f (List.mem_cons_of_mem _ hf)) hne hw hc h)⟩

/-- The words of a text are the ones it spaces. -/
theorem words_eq_iff {ws : List Bytes} {s : Bytes} : words s = ws ↔ Spaced ws s := by
  refine ⟨?_, words_of_spaced⟩
  rintro rfl
  obtain ⟨ws, h⟩ := exists_spaced s
  exact words_of_spaced h ▸ h

end Sysal
