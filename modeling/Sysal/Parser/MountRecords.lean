import Sysal.Foundation.Cuts
import Sysal.Parser.MountInfo
import Sysal.Parser.Numerals

/-!
# Mount records written and read

The kernel escapes blanks, tabs, newlines and backslashes in a path, but not the other bytes at which a
line is split into words.

* `unescapeMount_escapeMount`: the escapes are undone;
* `words_escapeMount_cases`: the words an escaped path is read as;
* `parseMountWords_eq_ok_iff`: the words of a line that are read as a record;
* `parseMountinfo_render_iff`: the records that come back.
-/

namespace Sysal.MountInfo

open Sysal

/-! ### Escapes -/

/-- The bytes the kernel escapes; the source also a `#`. -/
def escapedBytes (inSource : Bool) : List UInt8 :=
  if inSource then [32, 9, 10, 92, 35] else [32, 9, 10, 92]

/-- The escape of a byte. -/
def octalEscape (c : UInt8) : Bytes := [92, 48 + c / 64, 48 + c / 8 % 8, 48 + c % 8]

def escapeByte (inSource : Bool) (c : UInt8) : Bytes :=
  if c ∈ escapedBytes inSource then octalEscape c else [c]

def escapeMount (inSource : Bool) (s : Bytes) : Bytes := s.flatMap (escapeByte inSource)

/-- The blanks that are not escaped. -/
def splitsField (c : UInt8) : Bool := 11 ≤ c && c ≤ 13

/-- No byte of a text splits its field. -/
def Unsplit (s : Bytes) : Prop := ∀ c ∈ s, splitsField c = false

/-- A text of nothing but bytes that split a field. -/
def Vanishes (s : Bytes) : Prop := ∀ c ∈ s, splitsField c = true

variable (inSource : Bool)

theorem escapeMount_cons (c : UInt8) (s : Bytes) :
    escapeMount inSource (c :: s) = escapeByte inSource c ++ escapeMount inSource s :=
  List.flatMap_cons

theorem escapeMount_append (s t : Bytes) :
    escapeMount inSource (s ++ t) = escapeMount inSource s ++ escapeMount inSource t :=
  List.flatMap_append

theorem escapeMount_ne_nil {s : Bytes} (h : s ≠ []) : escapeMount inSource s ≠ [] := by
  obtain ⟨c, t, rfl⟩ := List.exists_cons_of_ne_nil h
  rw [escapeMount_cons, escapeByte]
  split <;> simp [octalEscape]

/-- Every escaped byte is one of five. -/
theorem forall_escapedBytes {p : UInt8 → Prop} (h : p 32 ∧ p 9 ∧ p 10 ∧ p 92 ∧ p 35) {c : UInt8}
    (hc : c ∈ escapedBytes inSource) : p c := by
  have hcases : c = 32 ∨ c = 9 ∨ c = 10 ∨ c = 92 ∨ c = 35 := by
    cases inSource <;> simp [escapedBytes] at hc <;> tauto
  obtain ⟨h32, h9, h10, h92, h35⟩ := h
  rcases hcases with rfl | rfl | rfl | rfl | rfl
  · exact h32
  · exact h9
  · exact h10
  · exact h92
  · exact h35

theorem unescapeMount_escapeByte (c : UInt8) (rest : Bytes) :
    unescapeMount (escapeByte inSource c ++ rest) = c :: unescapeMount rest := by
  rw [escapeByte]
  split
  · rename_i h
    refine forall_escapedBytes inSource (p := fun c =>
      unescapeMount (octalEscape c ++ rest) = c :: unescapeMount rest) ?_ h
    simp [octalEscape, unescapeMount, isOctal]
  · rename_i h
    rw [List.singleton_append, unescapeMount_cons]
    rintro rfl
    exact h (by cases inSource <;> simp [escapedBytes])

/-- Escapes are undone. -/
theorem unescapeMount_escapeMount (s : Bytes) : unescapeMount (escapeMount inSource s) = s := by
  induction s with
  | nil => simp [escapeMount, unescapeMount]
  | cons c s ih => rw [escapeMount_cons, unescapeMount_escapeByte, ih]

theorem isSpace_iff (c : UInt8) :
    isSpace c = true ↔ c = 32 ∨ c = 9 ∨ c = 10 ∨ splitsField c = true := by
  have h9 : (9 : UInt8).toNat = 9 := rfl
  have h10 : (10 : UInt8).toNat = 10 := rfl
  have h11 : (11 : UInt8).toNat = 11 := rfl
  have h13 : (13 : UInt8).toNat = 13 := rfl
  simp only [isSpace, splitsField, Bool.or_eq_true, Bool.and_eq_true, beq_iff_eq, decide_eq_true_eq,
    UInt8.le_iff_toNat_le, ← UInt8.toNat_inj, h9, h10, h11, h13]
  omega

/-- Only the bytes that are not escaped are blanks. -/
theorem isSpace_escapeByte {c d : UInt8} (hc : splitsField c = false)
    (hd : d ∈ escapeByte inSource c) : isSpace d = false := by
  rw [escapeByte] at hd
  split at hd
  · rename_i h
    exact forall_escapedBytes inSource (p := fun c => ∀ d ∈ octalEscape c, isSpace d = false)
      (by decide +kernel) h d hd
  · rename_i h
    rw [List.mem_singleton.mp hd, ← Bool.not_eq_true, isSpace_iff, hc]
    rintro (rfl | rfl | rfl | hfalse)
    · exact h (by cases inSource <;> simp [escapedBytes])
    · exact h (by cases inSource <;> simp [escapedBytes])
    · exact h (by cases inSource <;> simp [escapedBytes])
    · cases hfalse

theorem escapeByte_splits {c : UInt8} (hc : splitsField c = true) :
    escapeByte inSource c = [c] ∧ isSpace c = true := by
  refine ⟨?_, (isSpace_iff c).mpr (Or.inr (Or.inr (Or.inr hc)))⟩
  rw [escapeByte, if_neg]
  intro h
  rw [forall_escapedBytes inSource (p := fun c => splitsField c = false) (by decide +kernel) h] at hc
  cases hc

/-! ### The words of an escaped text -/

/-- A text that no byte splits is one word. -/
theorem words_escapeMount {s : Bytes} (hne : s ≠ []) (h : Unsplit s) :
    words (escapeMount inSource s) = [escapeMount inSource s] := by
  refine words_of_forall (escapeMount_ne_nil inSource hne) fun d hd => ?_
  obtain ⟨c, hc, hd⟩ := List.mem_flatMap.mp hd
  exact isSpace_escapeByte inSource (h c hc) hd

/-- A byte that is not escaped separates words. -/
theorem words_escapeMount_append {c : UInt8} (hc : splitsField c = true) (s t : Bytes) :
    words (escapeMount inSource (s ++ c :: t)) =
      words (escapeMount inSource s) ++ words (escapeMount inSource t) := by
  obtain ⟨hescape, hspace⟩ := escapeByte_splits inSource hc
  rw [escapeMount_append, escapeMount_cons, hescape, List.singleton_append, words_append_cons hspace]

/-- A text is read as one word, as none when all its bytes split it, or else at first as a part of it that
no byte splits. -/
theorem words_escapeMount_cases {s : Bytes} (hne : s ≠ []) :
    (Unsplit s ∧ words (escapeMount inSource s) = [escapeMount inSource s]) ∨
      (Vanishes s ∧ words (escapeMount inSource s) = []) ∨
      (¬ Unsplit s ∧ ∃ part ws,
        words (escapeMount inSource s) = escapeMount inSource part :: ws ∧ Unsplit part) := by
  induction s with
  | nil => exact absurd rfl hne
  | cons c s ih =>
      cases hc : splitsField c with
      | true =>
          have hsplit : ¬ Unsplit (c :: s) := fun h => by
            rw [h c List.mem_cons_self] at hc
            cases hc
          have hwords : words (escapeMount inSource (c :: s)) = words (escapeMount inSource s) :=
            words_escapeMount_append inSource hc [] s
          rw [hwords]
          rcases eq_or_ne s [] with rfl | hs
          · exact Or.inr (Or.inl ⟨by simpa [Vanishes] using hc, rfl⟩)
          · rcases ih hs with ⟨h, hw⟩ | ⟨h, hw⟩ | ⟨-, part, ws, hw, hpart⟩
            · exact Or.inr (Or.inr ⟨hsplit, s, [], hw, h⟩)
            · exact Or.inr (Or.inl ⟨List.forall_mem_cons.mpr ⟨hc, h⟩, hw⟩)
            · exact Or.inr (Or.inr ⟨hsplit, part, ws, hw, hpart⟩)
      | false =>
          rcases exists_first_blank splitsField (c :: s) with h | ⟨w, d, rest, heq, hw, hd⟩
          · exact Or.inl ⟨h, words_escapeMount inSource hne h⟩
          · have hw_ne : w ≠ [] := by
              rintro rfl
              rw [(List.cons.inj heq).1, hd] at hc
              cases hc
            refine Or.inr (Or.inr ⟨fun h => ?_, w, words (escapeMount inSource rest), ?_, hw⟩)
            · rw [h d (by rw [heq]; simp)] at hd
              cases hd
            · rw [heq, words_escapeMount_append inSource hd, words_escapeMount inSource hw_ne hw]
              rfl

/-! ### Records -/

/-- A word: not empty and without blanks. -/
structure Word where
  text : Bytes
  ne_nil : text ≠ []
  noBlank : ∀ c ∈ text, isSpace c = false

/-- What the kernel says about a mount. -/
structure MountRecord where
  mountId : UInt32
  parentMountId : UInt32
  deviceNumber : DeviceNumber
  root : Bytes
  path : Bytes
  options : List Word
  optionalFields : List Word
  filesystem : Word
  source : Bytes
  superOptions : Word
  root_ne_nil : root ≠ []
  path_ne_nil : path ≠ []
  source_ne_nil : source ≠ []
  options_ne_nil : options ≠ []
  noDash : ∀ field ∈ optionalFields, field.text ≠ utf8 "-"

namespace MountRecord

variable (record : MountRecord)

/-- The options with commas between them. -/
def optionsText : Bytes := [44].intercalate (record.options.map Word.text)

def deviceText : Bytes :=
  decimal record.deviceNumber.major.toNat ++ 58 :: decimal record.deviceNumber.minor.toNat

/-- The fields of the line. -/
def fields : List Bytes :=
  [decimal record.mountId.toNat, decimal record.parentMountId.toNat, record.deviceText,
    escapeMount false record.root, escapeMount false record.path, record.optionsText] ++
  record.optionalFields.map Word.text ++
  [utf8 "-", record.filesystem.text, escapeMount true record.source, record.superOptions.text]

def line : Bytes := [32].intercalate record.fields

/-- The mount of a record. -/
def mount : StorageMount where
  mountId := record.mountId
  parentMountId := record.parentMountId
  deviceNumber := record.deviceNumber
  root := record.root
  path := record.path
  filesystem := record.filesystem.text
  source := record.source
  options := record.options.map Word.text
  readOnly := record.options.any (·.text = utf8 "ro")

end MountRecord

/-- The table of some records. -/
def render (records : List MountRecord) : Bytes := records.flatMap fun record => record.line ++ [10]

theorem Word.words_text (word : Word) : words word.text = [word.text] :=
  words_of_forall word.ne_nil word.noBlank

namespace MountRecord

variable (record : MountRecord)

theorem optionsText_noBlank :
    record.optionsText ≠ [] ∧ ∀ c ∈ record.optionsText, isSpace c = false := by
  rw [optionsText]
  have hoptions := record.options_ne_nil
  revert hoptions
  induction record.options with
  | nil => exact fun h => absurd rfl h
  | cons word options ih =>
      intro _
      rw [List.map_cons]
      rcases eq_or_ne options [] with rfl | hne
      · exact ⟨by simpa using word.ne_nil, by simpa using word.noBlank⟩
      · rw [List.intercalate_cons_of_ne_nil (by simpa using hne)]
        refine ⟨by simp [word.ne_nil], fun c hc => ?_⟩
        rw [List.append_assoc, List.mem_append, List.mem_append, List.mem_singleton] at hc
        rcases hc with hc | rfl | hc
        · exact word.noBlank c hc
        · decide
        · exact (ih hne).2 c hc

theorem deviceText_noBlank : record.deviceText ≠ [] ∧ ∀ c ∈ record.deviceText, isSpace c = false := by
  constructor
  · simp [deviceText]
  · intro c hc
    rw [deviceText, List.mem_append, List.mem_cons] at hc
    rcases hc with hc | rfl | hc
    · exact (isNumeral_decimal _).not_isSpace c hc
    · decide
    · exact (isNumeral_decimal _).not_isSpace c hc

/-- The words of the line: all fields but the escaped ones are words. -/
theorem words_line : words record.line =
    decimal record.mountId.toNat :: decimal record.parentMountId.toNat :: record.deviceText ::
      (words (escapeMount false record.root) ++ (words (escapeMount false record.path) ++
        record.optionsText :: (record.optionalFields.map Word.text ++ utf8 "-" ::
          record.filesystem.text :: (words (escapeMount true record.source) ++
            [record.superOptions.text])))) := by
  have hdecimal (n : ℕ) : words (decimal n) = [decimal n] :=
    words_of_forall (isNumeral_decimal n).1 (isNumeral_decimal n).not_isSpace
  have hdash : words (utf8 "-") = [utf8 "-"] := by decide +kernel
  have hdevice : words record.deviceText = [record.deviceText] :=
    words_of_forall record.deviceText_noBlank.1 record.deviceText_noBlank.2
  have hoptions : words record.optionsText = [record.optionsText] :=
    words_of_forall record.optionsText_noBlank.1 record.optionsText_noBlank.2
  have hoptional : (record.optionalFields.map Word.text).flatMap words =
      record.optionalFields.map Word.text := by
    induction record.optionalFields with
    | nil => rfl
    | cons word fields ih => rw [List.map_cons, List.flatMap_cons, ih, word.words_text]; rfl
  rw [line, words_intercalate, fields, List.flatMap_append, List.flatMap_append, hoptional]
  simp [hdecimal, hdash, hdevice, hoptions, Word.words_text]

/-- No option has a comma in it. -/
def NoComma : Prop := ∀ word ∈ record.options, 44 ∉ word.text

/-- A text is split into the options exactly when it is the text of the options. -/
theorem split_eq_options_iff (text : Bytes) : split text 44 = record.options.map Word.text ↔
    text = record.optionsText ∧ record.NoComma := by
  constructor
  · intro h
    refine ⟨?_, fun word hword hcomma => ?_⟩
    · rw [optionsText, ← h]
      exact (List.intercalate_splitOn 44).symm
    · have hmem : word.text ∈ text.splitOnP (· == 44) := by
        rw [← List.splitOn_eq_splitOnP, ← split, h]
        exact List.mem_map_of_mem hword
      have := not_separator_of_mem_splitOnP hmem 44 hcomma
      simp at this
  · rintro ⟨rfl, h⟩
    refine List.splitOn_intercalate 44 (fun text htext => ?_) (by simpa using record.options_ne_nil)
    obtain ⟨word, hword, rfl⟩ := List.mem_map.mp htext
    exact h word hword

/-- What the rest of a line behind the three numbers is read as. -/
theorem parseMountWords_eq_ok_iff (root path options : Bytes) (rest : List Bytes) :
    parseMountWords (decimal record.mountId.toNat :: decimal record.parentMountId.toNat ::
        record.deviceText :: root :: path :: options :: rest) = .ok record.mount ↔
      unescapeMount root = record.root ∧ unescapeMount path = record.path ∧
        options = record.optionsText ∧ record.NoComma ∧
        ∃ dash source super more, rest.dropWhile (· ≠ utf8 "-") =
            dash :: record.filesystem.text :: source :: super :: more ∧
          unescapeMount source = record.source := by
  have hid (n : UInt32) : parseUint32 (decimal n.toNat) = some n := parseUint32_decimal.mpr rfl
  have hdevice : parseDeviceNumber record.deviceText = some record.deviceNumber := by
    have hcolon : 58 ∉ decimal record.deviceNumber.major.toNat := fun h =>
      absurd ((isNumeral_decimal _).2 58 h) (by decide)
    rw [parseDeviceNumber, deviceText, cut_append hcolon]
    simp [hid]
  rw [parseMountWords, hid, hid, hdevice, ← and_assoc (a := options = _), ← split_eq_options_iff]
  rcases rest.dropWhile (· ≠ utf8 "-") with _ | ⟨dash, _ | ⟨fs, _ | ⟨source, _ | ⟨super, more⟩⟩⟩⟩
  · simp
  · simp
  · simp
  · simp
  · have hreadOnly : split options 44 = record.options.map Word.text →
        (split options 44).any (· = utf8 "ro") = record.options.any (·.text = utf8 "ro") := by
      intro h
      rw [h, List.any_map]
      rfl
    simp only [Except.ok.injEq, mount, StorageMount.mk.injEq, List.cons.injEq]
    constructor
    · rintro ⟨-, -, -, hroot, hpath, hfs, hsource, hoptions, -, -⟩
      exact ⟨hroot, hpath, hoptions, dash, source, super, more, ⟨rfl, hfs, rfl, rfl, rfl⟩, hsource⟩
    · rintro ⟨hroot, hpath, hoptions, _, _, _, _, ⟨-, hfs, rfl, -, -⟩, hsource⟩
      exact ⟨trivial, trivial, trivial, hroot, hpath, hfs, hsource, hoptions, trivial,
        hreadOnly hoptions⟩

/-- Behind the dash the source is read back exactly when no byte splits it. -/
theorem readsSource_iff {others : List Bytes} (hothers : ∀ other ∈ others, other ≠ utf8 "-") :
    (∃ dash source super more, (others ++ utf8 "-" :: record.filesystem.text ::
        (words (escapeMount true record.source) ++ [record.superOptions.text])).dropWhile
          (· ≠ utf8 "-") = dash :: record.filesystem.text :: source :: super :: more ∧
        unescapeMount source = record.source) ↔ Unsplit record.source := by
  have hdrop : (others ++ utf8 "-" :: record.filesystem.text ::
      (words (escapeMount true record.source) ++ [record.superOptions.text])).dropWhile
        (· ≠ utf8 "-") = utf8 "-" :: record.filesystem.text ::
          (words (escapeMount true record.source) ++ [record.superOptions.text]) := by
    rw [List.dropWhile_append_of_pos fun other hother => decide_eq_true (hothers other hother),
      List.dropWhile_cons_of_neg (by simp)]
  rw [hdrop]
  rcases words_escapeMount_cases true record.source_ne_nil with
    ⟨h, hwords⟩ | ⟨h, hwords⟩ | ⟨h, part, ws, hwords, hpart⟩
  · refine iff_of_true ⟨_, _, _, [], by rw [hwords]; rfl, ?_⟩ h
    exact unescapeMount_escapeMount true _
  · refine iff_of_false ?_ fun hunsplit => ?_
    · rintro ⟨_, _, _, _, heq, -⟩
      rw [hwords] at heq
      simp at heq
    · obtain ⟨c, t, hc⟩ := List.exists_cons_of_ne_nil record.source_ne_nil
      have hmem : c ∈ record.source := hc ▸ List.mem_cons_self
      have := (hunsplit c hmem).symm.trans (h c hmem)
      cases this
  · refine iff_of_false ?_ h
    rintro ⟨_, source, _, _, heq, hsource⟩
    rw [hwords] at heq
    simp only [List.cons_append, List.cons.injEq] at heq
    rw [← heq.2.2.1, unescapeMount_escapeMount] at hsource
    exact h (hsource ▸ hpart)

/-- The records that are read back.  When nothing is left of the mount point, or of it and the root, the
words behind them are read in their place, and those can happen to say the same. -/
def ReadsBack : Prop :=
  record.NoComma ∧ Unsplit record.source ∧
    ((Unsplit record.root ∧ Unsplit record.path) ∨
      (Unsplit record.root ∧ Vanishes record.path ∧
        unescapeMount record.optionsText = record.path ∧
        ∃ others, record.optionalFields.map Word.text = record.optionsText :: others) ∨
      (Vanishes record.root ∧ Vanishes record.path ∧
        unescapeMount record.optionsText = record.root ∧
        ∃ field others, record.optionalFields.map Word.text = field :: record.optionsText :: others ∧
          unescapeMount field = record.path))

theorem not_vanishes_of_unsplit {s : Bytes} (hne : s ≠ []) (h : Unsplit s) : ¬ Vanishes s := by
  intro hvanishes
  obtain ⟨c, t, rfl⟩ := List.exists_cons_of_ne_nil hne
  have := (h c List.mem_cons_self).symm.trans (hvanishes c List.mem_cons_self)
  cases this

theorem words_of_vanishes {inSource : Bool} {s : Bytes} (h : Vanishes s) :
    words (escapeMount inSource s) = [] := by
  refine words_of_blank fun d hd => ?_
  obtain ⟨c, hc, hd⟩ := List.mem_flatMap.mp hd
  obtain ⟨hescape, hspace⟩ := escapeByte_splits inSource (h c hc)
  rw [hescape] at hd
  rw [List.mem_singleton.mp hd, hspace]

/-- A text with a word left does not vanish. -/
theorem not_vanishes_of_words {inSource : Bool} {s part : Bytes} {ws : List Bytes}
    (h : words (escapeMount inSource s) = part :: ws) : ¬ Vanishes s := by
  intro hvanishes
  rw [words_of_vanishes hvanishes] at h
  cases h

/-- The dash stands for nothing that vanishes. -/
theorem not_vanishes_dash {s : Bytes} (h : unescapeMount (utf8 "-") = s) : ¬ Vanishes s := by
  have hdash : unescapeMount (utf8 "-") = [45] := by decide +kernel
  rw [← h, hdash]
  intro hvanishes
  exact absurd (hvanishes 45 List.mem_cons_self) (by decide)

variable {record} in
/-- A record that is read back has its root in the fourth word and its mount point in the fifth. -/
theorem parseMountWords_ok {first : Bytes} {rest : List Bytes}
    (h : parseMountWords (decimal record.mountId.toNat :: decimal record.parentMountId.toNat ::
      record.deviceText :: first :: rest) = .ok record.mount) :
    unescapeMount first = record.root ∧
      ∀ second more, rest = second :: more → unescapeMount second = record.path := by
  rcases rest with _ | ⟨second, _ | ⟨third, more⟩⟩
  · cases h
  · cases h
  · obtain ⟨hroot, hpath, -⟩ := (record.parseMountWords_eq_ok_iff first second third more).mp h
    refine ⟨hroot, fun _ _ heq => ?_⟩
    rw [← (List.cons.inj heq).1]
    exact hpath

/-- A line is read back exactly under `ReadsBack`. -/
theorem parseMountWords_line_iff :
    parseMountWords (words record.line) = .ok record.mount ↔ record.ReadsBack := by
  have hnoDash : ∀ other ∈ record.optionalFields.map Word.text, other ≠ utf8 "-" := by
    intro other hother
    obtain ⟨field, hfield, rfl⟩ := List.mem_map.mp hother
    exact record.noDash field hfield
  have hunescape (inSource : Bool) (s : Bytes) : unescapeMount (escapeMount inSource s) = s :=
    unescapeMount_escapeMount inSource s
  rw [words_line, ReadsBack]
  rcases words_escapeMount_cases false record.root_ne_nil with
    ⟨hroot, hwords⟩ | ⟨hroot, hwords⟩ | ⟨hroot, part, ws, hwords, hpart⟩
  · have hnotRoot := not_vanishes_of_unsplit record.root_ne_nil hroot
    rw [hwords, List.singleton_append]
    rcases words_escapeMount_cases false record.path_ne_nil with
      ⟨hpath, hwords'⟩ | ⟨hpath, hwords'⟩ | ⟨hpath, part, ws, hwords', hpart⟩
    · -- both are read where they are
      rw [hwords', List.singleton_append, parseMountWords_eq_ok_iff, record.readsSource_iff hnoDash]
      simp [hunescape, hroot, hpath]
    · -- the options and an optional field take the places of the mount point and the options
      have hnotPath : ¬ Unsplit record.path := fun h =>
        not_vanishes_of_unsplit record.path_ne_nil h hpath
      rw [hwords', List.nil_append]
      rcases hfields : record.optionalFields.map Word.text with _ | ⟨field, others⟩
      · rw [List.nil_append, parseMountWords_eq_ok_iff]
        refine iff_of_false ?_ (by simp [hnotPath, hnotRoot])
        rintro ⟨-, hread, hdash, -⟩
        exact not_vanishes_dash (hdash ▸ hread) hpath
      · rw [hfields] at hnoDash
        rw [List.cons_append, parseMountWords_eq_ok_iff, record.readsSource_iff fun other hother =>
          hnoDash other (List.mem_cons_of_mem _ hother)]
        simp [hunescape, hroot, hpath, hnotPath, hnotRoot]
        tauto
    · -- a part of the mount point is read in its place
      refine iff_of_false (fun h => ?_) ?_
      · have hread := (parseMountWords_ok h).2 _ _ (by rw [hwords', List.cons_append])
        rw [hunescape] at hread
        exact hpath (hread ▸ hpart)
      · simp [hpath, not_vanishes_of_words hwords']
  · have hnotRoot : ¬ Unsplit record.root := fun h =>
      not_vanishes_of_unsplit record.root_ne_nil h hroot
    rw [hwords, List.nil_append]
    rcases words_escapeMount_cases false record.path_ne_nil with
      ⟨hpath, hwords'⟩ | ⟨hpath, hwords'⟩ | ⟨hpath, part, ws, hwords', hpart⟩
    · -- the mount point is read as root
      refine iff_of_false (fun h => ?_) ?_
      · rw [hwords', List.singleton_append] at h
        have hread := (parseMountWords_ok h).1
        rw [hunescape] at hread
        exact hnotRoot (hread ▸ hpath)
      · simp [hnotRoot, not_vanishes_of_unsplit record.path_ne_nil hpath]
    · -- the options and two optional fields move up
      rw [hwords', List.nil_append]
      rcases hfields : record.optionalFields.map Word.text with _ | ⟨field, _ | ⟨field', others⟩⟩
      · rw [List.nil_append]
        refine iff_of_false (fun h => ?_) (by simp [hnotRoot])
        exact not_vanishes_dash ((parseMountWords_ok h).2 _ _ rfl) hpath
      · rw [List.singleton_append, parseMountWords_eq_ok_iff]
        refine iff_of_false ?_ (by simp [hnotRoot])
        rintro ⟨hread, -, hdash, -⟩
        exact not_vanishes_dash (hdash ▸ hread) hroot
      · rw [hfields] at hnoDash
        rw [List.cons_append, List.cons_append, parseMountWords_eq_ok_iff,
          record.readsSource_iff fun other hother =>
            hnoDash other (List.mem_cons_of_mem _ (List.mem_cons_of_mem _ hother))]
        simp [hroot, hpath, hnotRoot]
        tauto
    · -- a part of the mount point is read as root
      refine iff_of_false (fun h => ?_) ?_
      · rw [hwords', List.cons_append] at h
        have hread := (parseMountWords_ok h).1
        rw [hunescape] at hread
        exact hnotRoot (hread ▸ hpart)
      · simp [hnotRoot, not_vanishes_of_words hwords']
  · -- a part of the root is read in its place
    refine iff_of_false (fun h => ?_) ?_
    · rw [hwords, List.cons_append] at h
      have hread := (parseMountWords_ok h).1
      rw [hunescape] at hread
      exact hroot (hread ▸ hpart)
    · simp [hroot, not_vanishes_of_words hwords]

/-- A line has no newline in it. -/
theorem newline_not_mem : 10 ∉ record.line := by
  have hword {s : Bytes} (h : ∀ c ∈ s, isSpace c = false) : 10 ∉ s := fun hmem =>
    absurd (h 10 hmem) (by decide)
  have hescape (inSource : Bool) (s : Bytes) : 10 ∉ escapeMount inSource s := by
    intro hmem
    obtain ⟨c, -, hc⟩ := List.mem_flatMap.mp hmem
    rw [escapeByte] at hc
    split at hc
    · rename_i h
      exact forall_escapedBytes inSource (p := fun c => 10 ∉ octalEscape c) (by decide +kernel) h hc
    · rename_i h
      refine h (List.mem_singleton.mp hc ▸ ?_)
      cases inSource <;> simp [escapedBytes]
  have hfields : ∀ field ∈ record.fields, 10 ∉ field := by
    have hdecimal (n : ℕ) : 10 ∉ decimal n := hword (isNumeral_decimal n).not_isSpace
    have hdash : 10 ∉ utf8 "-" := by decide +kernel
    simp only [fields, List.forall_mem_append, List.forall_mem_cons, List.not_mem_nil,
      false_implies, implies_true, and_true, List.forall_mem_map]
    exact ⟨⟨⟨hdecimal _, hdecimal _, hword record.deviceText_noBlank.2, hescape _ _, hescape _ _,
      hword record.optionsText_noBlank.2⟩, fun word _ => hword word.noBlank⟩, hdash,
      hword record.filesystem.noBlank, hescape _ _, hword record.superOptions.noBlank⟩
  intro hmem
  rw [line] at hmem
  rcases mem_intercalate hmem with h | ⟨field, hfield, h⟩
  · exact absurd h (by decide)
  · exact hfields field hfield h

theorem line_ne_nil : record.line ≠ [] := by
  intro h
  have hwords := record.words_line
  rw [h] at hwords
  cases hwords

end MountRecord

/-! ### Tables -/

theorem split_render (records : List MountRecord) :
    split (render records) 10 = records.map MountRecord.line ++ [[]] := by
  induction records with
  | nil => rfl
  | cons record records ih =>
      have hcons : render (record :: records) = record.line ++ 10 :: render records := by
        simp [render]
      rw [hcons, split, List.splitOn_append_cons_self_of_not_mem record.newline_not_mem, ← split, ih]
      rfl

/-- Lines add to what was read before them. -/
theorem foldl_scanMountLine (lines : List Bytes) (s : List StorageMount × List Bytes) :
    ∃ mounts warnings, lines.foldl scanMountLine s = (s.1 ++ mounts, s.2 ++ warnings) := by
  induction lines generalizing s with
  | nil => exact ⟨[], [], by simp⟩
  | cons line lines ih =>
      have hstep : ∃ mounts warnings, scanMountLine s line = (s.1 ++ mounts, s.2 ++ warnings) := by
        rw [scanMountLine]
        split
        · exact ⟨[], [], by simp⟩
        · split
          · rename_i mount _
            exact ⟨[mount], [], by simp⟩
          · rename_i warning _
            exact ⟨[], [warning], by simp⟩
      obtain ⟨mounts, warnings, hline⟩ := hstep
      obtain ⟨mounts', warnings', hlines⟩ := ih (scanMountLine s line)
      refine ⟨mounts ++ mounts', warnings ++ warnings', ?_⟩
      rw [List.foldl_cons, hlines, hline, List.append_assoc, List.append_assoc]

/-- The lines of records give their mounts exactly when every line is read back. -/
theorem foldl_lines_iff (records : List MountRecord) (mounts : List StorageMount)
    (warnings : List Bytes) :
    (records.map MountRecord.line).foldl scanMountLine (mounts, warnings) =
        (mounts ++ records.map MountRecord.mount, warnings) ↔
      ∀ record ∈ records, record.ReadsBack := by
  induction records generalizing mounts with
  | nil => simp
  | cons record records ih =>
      rw [List.map_cons, List.foldl_cons, List.forall_mem_cons, ← record.parseMountWords_line_iff,
        scanMountLine, if_neg (by simpa using record.line_ne_nil)]
      cases hline : parseMountWords (words record.line) with
      | ok mount =>
          dsimp only
          by_cases hmount : mount = record.mount
          · rw [hmount, ← ih (mounts ++ [record.mount])]
            simp
          · refine iff_of_false (fun h => ?_) (fun h => hmount (by simpa using h.1))
            obtain ⟨more, more', hmore⟩ :=
              foldl_scanMountLine (records.map MountRecord.line) (mounts ++ [mount], warnings)
            rw [hmore, Prod.mk.injEq, List.append_assoc] at h
            exact hmount (List.cons.inj (List.append_cancel_left h.1)).1
      | error warning =>
          dsimp only
          refine iff_of_false (fun h => ?_) (by simp)
          obtain ⟨more, more', hmore⟩ :=
            foldl_scanMountLine (records.map MountRecord.line) (mounts, warnings ++ [warning])
          rw [hmore, Prod.mk.injEq, List.append_assoc] at h
          have hlength := congrArg List.length h.2
          simp at hlength

/-- **The records that come back from the mount table** are those whose fields no unescaped blank splits
and whose options have no commas, apart from records in which the words that move up say the same. -/
theorem parseMountinfo_render_iff (records : List MountRecord) :
    parseMountinfo (render records) = (records.map MountRecord.mount, []) ↔
      ∀ record ∈ records, record.ReadsBack := by
  have hempty (s : List StorageMount × List Bytes) : scanMountLine s [] = s := rfl
  rw [parseMountinfo, split_render, List.foldl_append, List.foldl_cons, List.foldl_nil, hempty,
    ← foldl_lines_iff records [] [], List.nil_append]

/-- A mount point with a form feed in its name. -/
def formFeedRecord : MountRecord where
  mountId := 36
  parentMountId := 35
  deviceNumber := ⟨98, 0⟩
  root := utf8 "/"
  path := [47, 12, 97]
  options := [⟨utf8 "rw", by decide +kernel, by decide +kernel⟩]
  optionalFields := []
  filesystem := ⟨utf8 "ext4", by decide +kernel, by decide +kernel⟩
  source := utf8 "/dev/sda"
  superOptions := ⟨utf8 "rw", by decide +kernel, by decide +kernel⟩
  root_ne_nil := by decide +kernel
  path_ne_nil := by decide +kernel
  source_ne_nil := by decide +kernel
  options_ne_nil := by decide +kernel
  noDash := by simp

/-- The kernel does not escape the form feed, and the name is read as two words. -/
theorem parseMountinfo_formFeed : ¬ ∀ records : List MountRecord,
    parseMountinfo (render records) = (records.map MountRecord.mount, []) := by
  intro h
  have hrecord := h [formFeedRecord]
  revert hrecord
  decide +kernel

end Sysal.MountInfo
