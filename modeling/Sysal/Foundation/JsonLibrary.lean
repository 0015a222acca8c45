import Sysal.Foundation.JsonCodec

/-!
# The text of a JSON value

The printer and the parser of the JSON library are a parameter.  What is relied on is that a value
whose strings are UTF-8 is written, and that its text is parsed back to it.

* `Json.isUtf8_object`: the strings of an object are those of its fields.
* `JsonLibrary.ofDocument_faithful`: a printer, with a parser that knows one text, is such a library
  on that document.
-/

namespace Sysal

/-- Bytes that encode a text. -/
def IsUtf8 (s : Bytes) : Prop := ∃ text : String, utf8 text = s

theorem isUtf8_utf8 (text : String) : IsUtf8 (utf8 text) := ⟨text, rfl⟩

theorem isUtf8_nil : IsUtf8 [] := ⟨"", by decide⟩

theorem isUtf8_append {s t : Bytes} (hs : IsUtf8 s) (ht : IsUtf8 t) : IsUtf8 (s ++ t) := by
  obtain ⟨text, rfl⟩ := hs
  obtain ⟨text', rfl⟩ := ht
  exact ⟨text ++ text', by simp [utf8]⟩

/-- A byte below 128 is a character of its own. -/
theorem isUtf8_singleton {c : UInt8} (h : c < 128) : IsUtf8 [c] := by
  have hall : ∀ n : Fin 128, utf8 (String.singleton (Char.ofNat n)) = [UInt8.ofNat n] := by
    decide +kernel
  have hc := hall ⟨c.toNat, UInt8.lt_iff_toNat_lt.mp h⟩
  rw [UInt8.ofNat_toNat] at hc
  exact ⟨_, hc⟩

theorem isUtf8_of_ascii {s : Bytes} (h : s.all (· < 128)) : IsUtf8 s := by
  induction s with
  | nil => exact isUtf8_nil
  | cons c s ih =>
      rw [List.all_cons, Bool.and_eq_true, decide_eq_true_eq] at h
      exact isUtf8_append (isUtf8_singleton h.1) (ih h.2)

mutual

/-- The string values of a tree; the keys are texts by their type. -/
def JsonTree.strings : JsonTree → List Bytes
  | .str s => [s]
  | .arr items => JsonTree.stringsOfItems items
  | .obj fields => JsonTree.stringsOfFields fields
  | .null | .bool _ | .int _ | .float _ => []

def JsonTree.stringsOfItems : List JsonTree → List Bytes
  | [] => []
  | t :: items => t.strings ++ JsonTree.stringsOfItems items

def JsonTree.stringsOfFields : List (String × JsonTree) → List Bytes
  | [] => []
  | (_, t) :: fields => t.strings ++ JsonTree.stringsOfFields fields

end

namespace Json

/-- Every string of a value is UTF-8. -/
def IsUtf8 (j : Json) : Prop := ∀ s ∈ j.tree.strings, Sysal.IsUtf8 s

theorem isUtf8_of_ascii {j : Json} (h : j.tree.strings.all fun s => s.all (· < 128)) : j.IsUtf8 :=
  fun s hs => Sysal.isUtf8_of_ascii (List.all_eq_true.mp h s hs)

theorem isUtf8_int (n : JsonInt) : (int n).IsUtf8 := fun _ h => absurd h List.not_mem_nil

@[simp] theorem isUtf8_ofInt64 (x : Int64) : (ofInt64 x).IsUtf8 := isUtf8_int _
@[simp] theorem isUtf8_ofUInt32 (x : UInt32) : (ofUInt32 x).IsUtf8 := isUtf8_int _

@[simp] theorem isUtf8_str {s : Bytes} : (str s).IsUtf8 ↔ Sysal.IsUtf8 s := List.forall_mem_singleton

@[simp] theorem isUtf8_array {items : List Json} :
    (array items).IsUtf8 ↔ ∀ j ∈ items, j.IsUtf8 := by
  have hstrings : (array items).tree.strings = items.flatMap (·.tree.strings) := by
    show JsonTree.stringsOfItems (items.map tree) = _
    induction items with
    | nil => rfl
    | cons j items ih => rw [List.map_cons, JsonTree.stringsOfItems, ih, List.flatMap_cons]
  simp only [IsUtf8, hstrings, List.mem_flatMap, forall_exists_index, and_imp]
  exact ⟨fun h j hj s hs => h s j hj hs, fun h s j hj hs => h j hj s hs⟩

theorem mem_stringsOfFields {fields : List (String × JsonTree)} {s : Bytes} :
    s ∈ JsonTree.stringsOfFields fields ↔ ∃ f ∈ fields, s ∈ f.2.strings := by
  induction fields with
  | nil => simp [JsonTree.stringsOfFields]
  | cons f fields ih => simp [JsonTree.stringsOfFields, ih]

theorem findField_of_mem {fields : List (String × Option Json)} {f : String × Json}
    (h : f ∈ sortFields fields) : findField f.1 fields = some f.2 := by
  rw [← lookup_sortFields]
  have hsorted := sortFields_sorted fields
  generalize sortFields fields = members at h hsorted
  induction members with
  | nil => exact absurd h List.not_mem_nil
  | cons g members ih =>
      rw [List.map_cons, List.pairwise_cons] at hsorted
      rcases List.mem_cons.mp h with rfl | h
      · simp [lookup]
      · have hne : g.1 ≠ f.1 := ne_of_lt (hsorted.1 f.1 (List.mem_map_of_mem h))
        have hcons : lookup f.1 (g :: members) = lookup f.1 members := by simp [lookup, hne]
        rw [hcons]
        exact ih h hsorted.2

theorem mem_of_findField {fields : List (String × Option Json)} {key : String} {v : Json}
    (h : findField key fields = some v) : (key, v) ∈ sortFields fields := by
  rw [← lookup_sortFields, lookup, Option.map_eq_some_iff] at h
  obtain ⟨f, hf, rfl⟩ := h
  have hkey : f.1 = key := by simpa using List.find?_some hf
  rw [← hkey]
  exact List.mem_of_find?_eq_some hf

theorem isUtf8_object {fields : List (String × Option Json)} :
    (object fields).IsUtf8 ↔ ∀ key v, findField key fields = some v → v.IsUtf8 := by
  have hmem : ∀ s, s ∈ (object fields).tree.strings ↔
      ∃ f ∈ sortFields fields, s ∈ f.2.tree.strings := by
    intro s
    show s ∈ JsonTree.stringsOfFields ((sortFields fields).map fun f => (f.1, f.2.tree)) ↔ _
    rw [mem_stringsOfFields]
    simp
  constructor
  · intro h key v hv s hs
    exact h s ((hmem s).mpr ⟨(key, v), mem_of_findField hv, hs⟩)
  · intro h s hs
    obtain ⟨f, hf, hs⟩ := (hmem s).mp hs
    exact h f.1 f.2 (findField_of_mem hf) s hs

/-- An object all of whose fields are UTF-8. -/
theorem isUtf8_object_of_fields {fields : List (String × Option Json)}
    (h : ∀ f ∈ fields, ∀ v ∈ f.2, v.IsUtf8) : (object fields).IsUtf8 := by
  rw [isUtf8_object]
  intro key v hv
  induction fields with
  | nil => cases hv
  | cons f fields ih =>
      rw [findField_cons] at hv
      split at hv
      · exact h f List.mem_cons_self v hv
      · exact ih (fun g hg => h g (List.mem_cons_of_mem _ hg)) hv

end Json

/-! ### The library -/

/-- The printer, with its indentation, and the parser; without a result they throw. -/
structure JsonLibrary where
  dump : ℤ → Json → Option Bytes
  parse : Bytes → Option Json
  /-- The text of an exception, which a decoder passes on. -/
  what : Bytes

/-- A value whose strings are UTF-8 is written, and its text is parsed back to it. -/
def JsonLibrary.Faithful (json : JsonLibrary) (indent : ℤ) (v : Json) : Prop :=
  v.IsUtf8 → ∃ text, json.dump indent v = some text ∧ json.parse text = some v

/-! ### A printer -/

namespace JsonTree

/-- The escape of a byte inside a string. -/
def escape (c : UInt8) : Bytes :=
  if c = 34 ∨ c = 92 then [92, c]
  else if c = 8 then utf8 "\\b"
  else if c = 9 then utf8 "\\t"
  else if c = 10 then utf8 "\\n"
  else if c = 12 then utf8 "\\f"
  else if c = 13 then utf8 "\\r"
  else if c < 32 then utf8 "\\u00" ++ ((Nat.toDigits 16 (256 + c.toNat)).drop 1).map (·.toNat.toUInt8)
  else [c]

def quoted (s : Bytes) : Bytes := 34 :: s.flatMap escape ++ [34]

def printInt (n : ℤ) : Bytes := (if n < 0 then [45] else []) ++ decimal n.natAbs

/-- The exact expansion of a double, with at least one digit after the point. -/
def printDouble (x : FiniteDouble) : Bytes :=
  let scale := max 1 x.value.den.log2
  let digits := decimal (10 ^ scale + x.value.num.natAbs % x.value.den * 10 ^ scale / x.value.den)
  (if x.value < 0 then [45] else []) ++ decimal (x.value.num.natAbs / x.value.den) ++
    46 :: digits.drop 1

/-- Items between brackets: on one line, or each on a line of its own. -/
def enclosed (opening closing : UInt8) (indent : ℤ) (level : ℕ) (items : List Bytes) : Bytes :=
  let line (depth : ℕ) : Bytes :=
    if indent < 0 then [] else 10 :: List.replicate (indent.toNat * depth) 32
  if items.isEmpty then [opening, closing]
  else
    opening :: line (level + 1) ++ (items.intersperse (44 :: line (level + 1))).flatten ++
      line level ++ [closing]

def print (indent : ℤ) (level : ℕ) : JsonTree → Bytes
  | .null => utf8 "null"
  | .bool b => if b then utf8 "true" else utf8 "false"
  | .int n => printInt n.value
  | .float x => printDouble x
  | .str s => quoted s
  | .arr items =>
      enclosed 91 93 indent level (items.attach.map fun t => print indent (level + 1) t.1)
  | .obj fields =>
      enclosed 123 125 indent level (fields.attach.map fun f =>
        quoted (utf8 f.1.1) ++ (if indent < 0 then [58] else [58, 32]) ++
          print indent (level + 1) f.1.2)
termination_by t => sizeOf t
decreasing_by
  · have := List.sizeOf_lt_of_mem t.2
    simp only [arr.sizeOf_spec]
    omega
  · have := List.sizeOf_lt_of_mem f.2
    have hpair : sizeOf f.1 = 1 + sizeOf f.1.1 + sizeOf f.1.2 := rfl
    simp only [obj.sizeOf_spec]
    omega

end JsonTree

/-- A library whose parser knows the text of one document. -/
def JsonLibrary.ofDocument (indent : ℤ) (document : Json) : JsonLibrary where
  dump := fun indent v => some (v.tree.print indent 0)
  parse := fun text => if text = document.tree.print indent 0 then some document else none
  what := utf8 "[json.exception.parse_error.101]"

theorem JsonLibrary.ofDocument_faithful (indent : ℤ) (document : Json) :
    (ofDocument indent document).Faithful indent document := by
  intro _
  exact ⟨document.tree.print indent 0, rfl, if_pos rfl⟩

end Sysal
