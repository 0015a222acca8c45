import Sysal.Parser.MemoryTopology
import Sysal.Parser.Numerals

/-!
# Texts of EDAC locations

Which reports `parse_edac_location` reads, and as what: pairs of a layer and an index, every layer once,
with blanks between the words.  Any other text has no coordinates.

* `edacCoordinates_of_spells`: the words of coordinates are read as these;
* `spells_of_edacCoordinates`: and nothing else is read;
* `parseEdacLocation_spec`: the same for texts.
-/

namespace Sysal.MemoryParser

open Sysal

/-! ### Renderings -/

/-- The name of a known layer. -/
def layerName : EdacLocationLayer → Option Bytes
  | .branch => some (utf8 "branch")
  | .channel => some (utf8 "channel")
  | .slot => some (utf8 "slot")
  | .chipSelect => some (utf8 "csrow")
  | .allMemory => some (utf8 "memory")
  | .unknown => none

/-- The words of coordinates: the name of each layer and a decimal numeral of each index. -/
inductive Spells : List EdacLocationCoordinate → List Bytes → Prop
  | nil : Spells [] []
  | cons {coordinate : EdacLocationCoordinate} {coordinates : List EdacLocationCoordinate}
      {name numeral : Bytes} {ws : List Bytes} (hname : layerName coordinate.layer = some name)
      (hnumeral : IsNumeral 10 numeral)
      (hvalue : numeralValue 10 numeral = coordinate.index.toNat) (h : Spells coordinates ws) :
      Spells (coordinate :: coordinates) (name :: numeral :: ws)

/-- A text that renders coordinates: their words with blanks between them. -/
def Renders (coordinates : List EdacLocationCoordinate) (text : Bytes) : Prop :=
  ∃ ws, Spells coordinates ws ∧ Spaced ws text

/-- No layer comes twice. -/
def DistinctLayers (coordinates : List EdacLocationCoordinate) : Prop :=
  (coordinates.map (·.layer)).Nodup

/-! ### Words -/

theorem locationLayer_layerName {layer : EdacLocationLayer} {name : Bytes}
    (h : layerName layer = some name) : locationLayer name = layer ∧ layer ≠ .unknown := by
  cases layer with
  | unknown => cases h
  | _ =>
      obtain rfl := Option.some.inj h
      decide +kernel

theorem layerName_locationLayer {name : Bytes} (h : locationLayer name ≠ .unknown) :
    layerName (locationLayer name) = some name := by
  rw [locationLayer] at h ⊢
  split_ifs at h ⊢ with hbranch hchannel hslot hcsrow hmemory
  · rw [hbranch, layerName]
  · rw [hchannel, layerName]
  · rw [hslot, layerName]
  · rw [hcsrow, layerName]
  · rw [hmemory, layerName]
  · exact absurd rfl h

/-- A coordinate of a layer that is new is read behind those before it. -/
theorem edacCoordinates_cons {coordinate : EdacLocationCoordinate}
    {before : List EdacLocationCoordinate} {name numeral : Bytes} {ws : List Bytes}
    (hname : layerName coordinate.layer = some name) (hnumeral : IsNumeral 10 numeral)
    (hvalue : numeralValue 10 numeral = coordinate.index.toNat)
    (hnew : ∀ other ∈ before, other.layer ≠ coordinate.layer) :
    edacCoordinates (name :: numeral :: ws) before =
      edacCoordinates ws (before ++ [coordinate]) := by
  have hlt := coordinate.index.toNat_lt
  obtain ⟨hlayer, hknown⟩ := locationLayer_layerName hname
  have hindex : parseUint32 numeral = some coordinate.index := by
    rw [parseUint32_eq_some, parseUint, parseNumeral_eq_some, hnumeral.trim_eq]
    exact ⟨hnumeral, hvalue, by omega⟩
  have hany : before.any (·.layer = coordinate.layer) = false := by
    rw [List.any_eq_false]
    intro other hother
    simpa using hnew other hother
  rw [edacCoordinates, hindex]
  dsimp only
  rw [hlayer, hany, if_neg (by simp [hknown])]

/-- The words of coordinates of distinct layers are read as these. -/
theorem edacCoordinates_of_spells {coordinates : List EdacLocationCoordinate} {ws : List Bytes}
    (h : Spells coordinates ws) (before : List EdacLocationCoordinate)
    (hdistinct : DistinctLayers (before ++ coordinates)) :
    edacCoordinates ws before = some (before ++ coordinates) := by
  induction h generalizing before with
  | nil => rw [edacCoordinates, List.append_nil]
  | @cons coordinate coordinates name numeral ws hname hnumeral hvalue _ ih =>
      have hnew : ∀ other ∈ before, other.layer ≠ coordinate.layer := by
        intro other hother heq
        rw [DistinctLayers, List.map_append, List.nodup_append] at hdistinct
        exact hdistinct.2.2 _ (List.mem_map_of_mem hother) _ List.mem_cons_self heq
      rw [edacCoordinates_cons hname hnumeral hvalue hnew, ih, List.append_assoc,
        List.singleton_append]
      rwa [List.append_assoc, List.singleton_append]

/-- What is read are coordinates of distinct layers, spelled by the words. -/
theorem spells_of_edacCoordinates (ws : List Bytes) (before result : List EdacLocationCoordinate)
    (hws : ∀ w ∈ ws, ∀ c ∈ w, isSpace c = false) (hdistinct : DistinctLayers before)
    (h : edacCoordinates ws before = some result) :
    ∃ coordinates, result = before ++ coordinates ∧ Spells coordinates ws ∧ DistinctLayers result := by
  fun_induction edacCoordinates ws before with
  | case1 before =>
      obtain rfl := Option.some.inj h
      exact ⟨[], (List.append_nil _).symm, .nil, hdistinct⟩
  | case2 => cases h
  | case3 => cases h
  | case4 => cases h
  | case5 name value rest before layer index hindex hok ih =>
      rw [not_or] at hok
      have hnew : DistinctLayers (before ++ [EdacLocationCoordinate.mk layer index]) := by
        rw [DistinctLayers, List.map_append, List.nodup_append]
        refine ⟨hdistinct, List.nodup_singleton _, ?_⟩
        intro a ha b hb heq
        obtain ⟨other, hother, rfl⟩ := List.mem_map.mp ha
        have hlayer : other.layer = layer := heq.trans (List.mem_singleton.mp hb)
        exact hok.2 (List.any_eq_true.mpr ⟨other, hother, by simpa using hlayer⟩)
      have hrest : ∀ w ∈ rest, ∀ c ∈ w, isSpace c = false := fun w hw =>
        hws w (List.mem_cons_of_mem _ (List.mem_cons_of_mem _ hw))
      obtain ⟨coordinates, rfl, hspells, hresult⟩ := ih hrest hnew h
      have hvalue : trim value = value :=
        trim_of_forall (hws value (List.mem_cons_of_mem _ List.mem_cons_self))
      rw [parseUint32_eq_some, parseUint, parseNumeral_eq_some, hvalue] at hindex
      refine ⟨⟨layer, index⟩ :: coordinates, by rw [List.append_assoc, List.singleton_append], ?_,
        hresult⟩
      exact .cons (layerName_locationLayer hok.1) hindex.1 hindex.2.1 hspells

/-! ### Texts -/

theorem spells_known {coordinates : List EdacLocationCoordinate} {ws : List Bytes}
    (h : Spells coordinates ws) : ∀ coordinate ∈ coordinates, coordinate.layer ≠ .unknown := by
  induction h with
  | nil => exact fun coordinate hcoordinate => absurd hcoordinate List.not_mem_nil
  | cons hname _ _ _ ih => exact List.forall_mem_cons.mpr ⟨(locationLayer_layerName hname).2, ih⟩

/-- A text that renders coordinates of distinct layers is read as these. -/
theorem parseEdacLocation_of_renders {coordinates : List EdacLocationCoordinate} {text : Bytes}
    (hdistinct : DistinctLayers coordinates) (h : Renders coordinates text) :
    parseEdacLocation text = { report := trim text, coordinates := coordinates } := by
  obtain ⟨ws, hspells, hspaced⟩ := h
  have hread := edacCoordinates_of_spells hspells [] hdistinct
  rw [parseEdacLocation, words_trim, words_of_spaced hspaced, hread]
  rfl

/-- A text that is read as some coordinates renders them. -/
theorem renders_of_parseEdacLocation {text : Bytes}
    (h : (parseEdacLocation text).coordinates ≠ []) :
    DistinctLayers (parseEdacLocation text).coordinates ∧
      Renders (parseEdacLocation text).coordinates text := by
  rw [parseEdacLocation, words_trim] at h ⊢
  dsimp only at h ⊢
  cases hread : edacCoordinates (words text) [] with
  | none =>
      rw [hread] at h
      exact absurd rfl h
  | some result =>
      have hws : ∀ w ∈ words text, ∀ c ∈ w, isSpace c = false := fun w hw =>
        not_separator_of_mem_splitOnP (List.mem_filter.mp hw).1
      obtain ⟨coordinates, rfl, hspells, hdistinct⟩ :=
        spells_of_edacCoordinates (words text) [] result hws List.nodup_nil hread
      exact ⟨hdistinct, words text, hspells, words_eq_iff.mp rfl⟩

/-- Coordinates of known layers have a rendering. -/
theorem exists_renders (coordinates : List EdacLocationCoordinate)
    (hknown : ∀ coordinate ∈ coordinates, coordinate.layer ≠ .unknown) :
    ∃ text, Renders coordinates text := by
  have hspells : ∃ ws, Spells coordinates ws ∧ ∀ w ∈ ws, w ≠ [] ∧ ∀ c ∈ w, isSpace c = false := by
    induction coordinates with
    | nil => exact ⟨[], .nil, by simp⟩
    | cons coordinate coordinates ih =>
        obtain ⟨ws, hspells, hws⟩ := ih (List.forall_mem_cons.mp hknown).2
        obtain ⟨name, hname, hwords⟩ : ∃ name, layerName coordinate.layer = some name ∧
            name ≠ [] ∧ ∀ c ∈ name, isSpace c = false := by
          have hlayer := (List.forall_mem_cons.mp hknown).1
          cases hlayer' : coordinate.layer with
          | unknown => exact absurd hlayer' hlayer
          | _ => exact ⟨_, rfl, by decide +kernel⟩
        have hnumeral := isNumeral_decimal coordinate.index.toNat
        refine ⟨name :: decimal coordinate.index.toNat :: ws,
          .cons hname hnumeral (numeralValue_decimal _) hspells, ?_⟩
        exact List.forall_mem_cons.mpr ⟨hwords,
          List.forall_mem_cons.mpr ⟨⟨hnumeral.1, hnumeral.not_isSpace⟩, hws⟩⟩
  obtain ⟨ws, hspells, hws⟩ := hspells
  refine ⟨ws.flatMap fun w => w ++ [32], ws, hspells, ?_⟩
  clear hspells
  induction ws with
  | nil => exact .blank (by simp)
  | cons w ws ih =>
      obtain ⟨hw, hws⟩ := List.forall_mem_cons.mp hws
      have hspaced : Spaced (w :: ws) ([] ++ (w ++ 32 :: ws.flatMap fun w => w ++ [32])) :=
        .cons (by simp) hw.1 hw.2 (by decide) (ih hws)
      rw [List.flatMap_cons, List.append_assoc, List.singleton_append]
      exact hspaced

/-- **A location is read exactly from its renderings**, and any other text has no coordinates. -/
theorem parseEdacLocation_spec :
    (∀ coordinates : List EdacLocationCoordinate,
        (∀ coordinate ∈ coordinates, coordinate.layer ≠ .unknown) → DistinctLayers coordinates →
          (∃ text, Renders coordinates text) ∧ ∀ text, Renders coordinates text →
            parseEdacLocation text = { report := trim text, coordinates := coordinates }) ∧
      ∀ text, (parseEdacLocation text).report = trim text ∧
        ((parseEdacLocation text).coordinates = [] ∨
          ((∀ coordinate ∈ (parseEdacLocation text).coordinates, coordinate.layer ≠ .unknown) ∧
            DistinctLayers (parseEdacLocation text).coordinates ∧
            Renders (parseEdacLocation text).coordinates text)) := by
  refine ⟨fun coordinates hknown hdistinct => ⟨exists_renders coordinates hknown, fun text htext =>
    parseEdacLocation_of_renders hdistinct htext⟩, fun text => ⟨rfl, ?_⟩⟩
  by_cases hempty : (parseEdacLocation text).coordinates = []
  · exact Or.inl hempty
  · obtain ⟨hdistinct, hrenders⟩ := renders_of_parseEdacLocation hempty
    exact Or.inr ⟨spells_known hrenders.choose_spec.1, hdistinct, hrenders⟩

end Sysal.MemoryParser
