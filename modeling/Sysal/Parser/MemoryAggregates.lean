import Sysal.Foundation.Agreement
import Sysal.Foundation.Grouping
import Sysal.Parser.EdacAssociation
import Sysal.Parser.Memory

/-!
# Memory totals and the modules they are about

The scan of the `udev` report collects the memory type of all modules while the lines come in, and the
common configured speed from the finished list; the numbers of slots and of populated slots are counted at
the end and kept in 32 bits.

* `foldl_scanDimmLine`: what the scan has collected after any lines;
* `commonSpeed_eq_some`, `agreement` of the reported types: the totals;
* `parseMemory_udev`: the modules and totals of a memory whose modules `udev` reports;
* `memoryAggregates_iff`: the totals match the modules unless a slot is given two types, or every slot
  number is in use.
-/

namespace Sysal.MemoryParser

open Sysal Std

/-! ### What is reported -/

/-- A line about a slot. -/
structure DimmEntry where
  slot : UInt32
  field : Bytes
  value : Bytes
  deriving DecidableEq

def dimmEntry (line : Bytes) : Option DimmEntry :=
  match readDimmLine line with
  | .entry slot field value => some ⟨slot, field, value⟩
  | _ => none

/-- The lines about slots in a report. -/
def dimmEntries (payload : Bytes) : List DimmEntry := (split payload 10).filterMap dimmEntry

/-- The lines of the first report that says something about a slot. -/
def reportedEntries (records : List RawEvidence) : List DimmEntry :=
  ((records.map fun record => dimmEntries record.payload).find? (· ≠ [])).getD []

/-- The slots with a line. -/
def slots (entries : List DimmEntry) : List UInt32 := sortedSet (entries.map (·.slot))

/-- The fields of one slot, one after the other. -/
def slotDimm (entries : List DimmEntry) (slot : UInt32) : DimmInfo :=
  (entries.filter (·.slot = slot)).foldl (fun dimm entry => setDimmField dimm entry.field entry.value) {}

/-- The values of a field in the order of the lines. -/
def fieldValues (field : Bytes) (entries : List DimmEntry) : List Bytes :=
  (entries.filter (·.field = field)).map (·.value)

/-- The last value of a field of a slot. -/
def lastValue (field : Bytes) (entries : List DimmEntry) (slot : UInt32) : Option Bytes :=
  (fieldValues field (entries.filter (·.slot = slot))).getLast?

/-- The module in a slot. -/
def settledDimm (entries : List DimmEntry) (slot : UInt32) : DimmInfo :=
  if lastValue (utf8 "PRESENT") entries slot = none
  then { slotDimm entries slot with present := 0 < (slotDimm entries slot).size }
  else slotDimm entries slot

/-! ### Fields of a slot -/

theorem setDimmField_type (dimm : DimmInfo) (field value : Bytes) :
    (setDimmField dimm field value).memoryType =
      if field = utf8 "TYPE" then value else dimm.memoryType := by
  simp only [setDimmField, apply_ite DimmInfo.memoryType, ite_self]

theorem setDimmField_present (dimm : DimmInfo) (field value : Bytes) :
    (setDimmField dimm field value).present =
      if field = utf8 "PRESENT" then decide (value = utf8 "1") else dimm.present := by
  by_cases hfield : field = utf8 "PRESENT"
  · subst hfield
    rw [if_pos rfl]
    rfl
  · simp only [setDimmField, apply_ite DimmInfo.present, if_neg hfield, ite_self]

/-- A field that each line sets or leaves alone has the value of the last line that sets it. -/
theorem foldl_setDimmField {β : Type} {get : DimmInfo → β} {field : Bytes} (read : Bytes → β)
    (hget : ∀ dimm name value, get (setDimmField dimm name value) =
      if name = field then read value else get dimm) (entries : List DimmEntry) (dimm : DimmInfo) :
    get (entries.foldl (fun dimm entry => setDimmField dimm entry.field entry.value) dimm) =
      ((fieldValues field entries).getLast?.map read).getD (get dimm) := by
  induction entries using List.reverseRecOn with
  | nil => rfl
  | append_singleton entries entry ih =>
      rw [List.foldl_append, List.foldl_cons, List.foldl_nil, hget, ih, fieldValues, fieldValues,
        List.filter_append, List.map_append]
      by_cases hfield : entry.field = field
      · rw [if_pos hfield, List.filter_cons_of_pos (by simpa using hfield)]
        simp
      · rw [if_neg hfield, List.filter_cons_of_neg (by simpa using hfield)]
        simp

theorem slotDimm_type (entries : List DimmEntry) (slot : UInt32) :
    (slotDimm entries slot).memoryType = (lastValue (utf8 "TYPE") entries slot).getD [] := by
  have h := foldl_setDimmField id setDimmField_type (entries.filter (·.slot = slot)) {}
  rwa [Option.map_id] at h

theorem slotDimm_present (entries : List DimmEntry) (slot : UInt32) :
    (slotDimm entries slot).present =
      ((lastValue (utf8 "PRESENT") entries slot).map fun value => decide (value = utf8 "1")).getD
        false :=
  foldl_setDimmField _ setDimmField_present (entries.filter (·.slot = slot)) {}

/-- A slot has a last value where a line about it has the field. -/
theorem lastValue_eq_none {field : Bytes} {entries : List DimmEntry} {slot : UInt32} :
    lastValue field entries slot = none ↔
      ∀ entry ∈ entries, entry.slot = slot → entry.field ≠ field := by
  rw [lastValue, List.getLast?_eq_none_iff, fieldValues, List.map_eq_nil_iff, List.filter_eq_nil_iff]
  simp

theorem mem_of_lastValue {field value : Bytes} {entries : List DimmEntry} {slot : UInt32}
    (h : lastValue field entries slot = some value) : value ∈ fieldValues field entries := by
  obtain ⟨entry, hmem, rfl⟩ := List.mem_map.mp (List.mem_of_getLast? h)
  obtain ⟨hmem, hfield⟩ := List.mem_filter.mp hmem
  exact List.mem_map_of_mem (List.mem_filter.mpr ⟨(List.mem_filter.mp hmem).1, hfield⟩)

theorem mem_slots {entries : List DimmEntry} {slot : UInt32} :
    slot ∈ slots entries ↔ ∃ entry ∈ entries, entry.slot = slot := by
  rw [slots, mem_sortedSet, List.mem_map]

theorem slots_pairwise (entries : List DimmEntry) : (slots entries).Pairwise (· < ·) :=
  (sortedSet_pairwise_lt _).imp fun hlt => compare_eq_lt.mp hlt

/-! ### The scan -/

/-- The types the modules of slots end up with. -/
def moduleTypes (dimms : List DimmInfo) : List Bytes := (dimms.map (·.memoryType)).filter (· ≠ [])

theorem mergeMemoryType_eq : mergeMemoryType = agree [] (utf8 "mixed") := by
  funext memoryType value
  rw [mergeMemoryType, agree]
  cases memoryType <;> rfl

/-- The value of a line about a slot is not blank. -/
theorem dimmEntry_value {line : Bytes} {entry : DimmEntry} (h : dimmEntry line = some entry) :
    entry.value ≠ [] := by
  have hkey : ∀ key value, dimmKey key value = .entry entry.slot entry.field entry.value →
      entry.value = value := by
    intro key value hentry
    rw [dimmKey] at hentry
    split at hentry
    · cases hentry
    split_ifs at hentry
    split at hentry
    · cases hentry
    · exact (DimmLine.entry.inj hentry).2.2.symm
  rw [dimmEntry] at h
  split at h
  · rename_i slot field value hline
    obtain rfl := Option.some.inj h
    rw [readDimmLine] at hline
    dsimp only at hline
    split_ifs at hline
    split at hline
    · cases hline
    split_ifs at hline with hskip
    rw [hkey _ _ hline]
    rw [not_or, List.isEmpty_iff] at hskip
    exact hskip.1
  · cases h

/-- Filing the lines of a report under their slots. -/
theorem toList_foldl_upsert (entries : List DimmEntry) :
    (entries.foldl (fun dimms entry => upsert dimms entry.slot fun dimm =>
        setDimmField dimm entry.field entry.value) (∅ : TreeMap UInt32 DimmInfo compare)).toList =
      (slots entries).map fun slot => (slot, slotDimm entries slot) := by
  have hkeys : entries.filterMap (fun entry => some entry.slot) = entries.map (·.slot) :=
    congrFun List.filterMap_eq_map' entries
  have hfiled : (entries.foldl (fileUnder (fun entry : DimmEntry => some entry.slot)
      fun _ dimm entry => setDimmField dimm entry.field entry.value)
        (∅ : TreeMap UInt32 DimmInfo compare)).toList = _ :=
    toList_foldl_fileUnder entries
  rw [hkeys] at hfiled
  refine hfiled.trans (List.map_congr_left fun slot _ => ?_)
  simp only [groupOf, Option.some.injEq]
  rfl

/-- One line of a report is an entry, or concerns the warnings only. -/
theorem scanDimmLine_eq (s : DimmScan) (line : Bytes) :
    ∃ warnings, scanDimmLine s line =
      { ((dimmEntry line).elim s fun entry =>
          { s with
            dimms := upsert s.dimms entry.slot fun dimm => setDimmField dimm entry.field entry.value
            memoryType := if entry.field = utf8 "TYPE" then mergeMemoryType s.memoryType entry.value
              else s.memoryType
            presentSeen := if entry.field = utf8 "PRESENT" then s.presentSeen.insert entry.slot
              else s.presentSeen }) with warnings := warnings } := by
  rw [scanDimmLine, dimmEntry]
  cases readDimmLine line with
  | skip => exact ⟨s.warnings, rfl⟩
  | warning text => exact ⟨s.warnings ++ [text], rfl⟩
  | entry slot field value => exact ⟨s.warnings, rfl⟩

/-- The modules as the scan files them. -/
def filed (entries : List DimmEntry) : TreeMap UInt32 DimmInfo compare :=
  entries.foldl (fun dimms entry => upsert dimms entry.slot fun dimm =>
    setDimmField dimm entry.field entry.value) ∅

/-- What the scan has collected after some lines. -/
structure Collected (entries : List DimmEntry) (s : DimmScan) : Prop where
  dimms : s.dimms = filed entries
  present : ∀ slot, s.presentSeen.contains slot = true ↔
    lastValue (utf8 "PRESENT") entries slot ≠ none
  memoryType : s.memoryType = agreement [] (utf8 "mixed") (fieldValues (utf8 "TYPE") entries)

theorem fieldValues_append_singleton (field : Bytes) (entries : List DimmEntry) (entry : DimmEntry) :
    fieldValues field (entries ++ [entry]) =
      fieldValues field entries ++ if entry.field = field then [entry.value] else [] := by
  rw [fieldValues, fieldValues, List.filter_append, List.map_append]
  by_cases hfield : entry.field = field
  · rw [if_pos hfield, List.filter_cons_of_pos (by simpa using hfield)]
    rfl
  · rw [if_neg hfield, List.filter_cons_of_neg (by simpa using hfield)]
    rfl

/-- **The scan** files the lines under their slots and keeps the agreement of the types. -/
theorem foldl_scanDimmLine (lines : List Bytes) :
    Collected (lines.filterMap dimmEntry) (lines.foldl scanDimmLine {}) := by
  induction lines using List.reverseRecOn with
  | nil => exact ⟨rfl, fun slot => by simp [lastValue, fieldValues], rfl⟩
  | append_singleton lines line ih =>
      obtain ⟨hdimms, hpresent, htype⟩ := ih
      obtain ⟨warnings, hstep⟩ := scanDimmLine_eq (lines.foldl scanDimmLine {}) line
      rw [List.foldl_append, List.foldl_cons, List.foldl_nil, hstep, List.filterMap_append]
      cases hentry : dimmEntry line with
      | none =>
          rw [List.filterMap_cons_none hentry, List.filterMap_nil, List.append_nil]
          exact ⟨hdimms, hpresent, htype⟩
      | some entry =>
          rw [List.filterMap_cons_some hentry, List.filterMap_nil]
          refine ⟨?_, fun slot => ?_, ?_⟩
          · rw [filed, List.foldl_append, ← filed, ← hdimms]
            rfl
          · have hlast : lastValue (utf8 "PRESENT") (lines.filterMap dimmEntry ++ [entry]) slot ≠ none ↔
                entry.slot = slot ∧ entry.field = utf8 "PRESENT" ∨
                  lastValue (utf8 "PRESENT") (lines.filterMap dimmEntry) slot ≠ none := by
              simp only [ne_eq, lastValue_eq_none, List.forall_mem_append, List.forall_mem_singleton]
              tauto
            rw [hlast, ← hpresent]
            dsimp only [Option.elim_some]
            by_cases hfield : entry.field = utf8 "PRESENT"
            · rw [if_pos hfield, TreeSet.contains_insert, Bool.or_eq_true, beq_iff_eq,
                LawfulEqOrd.compare_eq_iff_eq]
              simp only [hfield, and_true]
            · rw [if_neg hfield]
              simp only [hfield, and_false, false_or]
          · rw [fieldValues_append_singleton]
            dsimp only [Option.elim_some]
            rw [htype]
            by_cases hfield : entry.field = utf8 "TYPE"
            · rw [if_pos hfield, if_pos hfield, agreement, agreement, List.foldl_append, mergeMemoryType_eq]
              rfl
            · rw [if_neg hfield, if_neg hfield, List.append_nil]

/-! ### The common speed -/

/-- The speeds of the present modules. -/
def presentSpeeds (dimms : List DimmInfo) : List (Option TransferRate) :=
  (dimms.filter (·.present)).map (·.configuredSpeedMts)

/-- What the scan over the modules knows: the common speed, or that a speed is missing or another. -/
structure KnowsSpeed (speeds : List (Option TransferRate)) (s : Bool × Option TransferRate) : Prop where
  common : s.1 = true →
    s.2 = none ∧ speeds = [] ∨ ∃ speed, s.2 = some speed ∧ Common speeds (some speed)
  other : s.1 = false → ∀ speed, ∃ other ∈ speeds, other ≠ some speed

section Speed

variable {speeds : List (Option TransferRate)} {complete : Bool} {common : TransferRate}

/-- A speed that is missing or another one stays in the list. -/
theorem other_append {last : Option TransferRate} (h : ∀ speed, ∃ other ∈ speeds, other ≠ some speed)
    (speed : TransferRate) : ∃ other ∈ speeds ++ [last], other ≠ some speed := by
  obtain ⟨other, hmem, hne⟩ := h speed
  exact ⟨other, List.mem_append_left _ hmem, hne⟩

/-- A module without a speed. -/
theorem KnowsSpeed.missing (known : Option TransferRate) :
    KnowsSpeed (speeds ++ [none]) (false, known) where
  common h := by cases h
  other _ _ := ⟨none, List.mem_append_right _ List.mem_cons_self, by simp⟩

/-- The first module with a speed. -/
theorem KnowsSpeed.first (h : KnowsSpeed speeds (complete, none)) (speed : TransferRate) :
    KnowsSpeed (speeds ++ [some speed]) (complete, some speed) where
  common hcomplete := by
    refine .inr ⟨speed, rfl, common_append_singleton.mpr ⟨rfl, ?_⟩⟩
    rcases h.common hcomplete with ⟨-, hnil⟩ | ⟨known, hknown, -⟩
    · exact .inl hnil
    · cases hknown
  other hcomplete := other_append (h.other hcomplete)

/-- The speed that is known is the one of every module so far. -/
theorem KnowsSpeed.known (h : KnowsSpeed speeds (true, some common)) : Common speeds (some common) := by
  rcases h.common rfl with ⟨hnone, -⟩ | ⟨known, hknown, hall⟩
  · cases hnone
  · obtain rfl := Option.some.inj hknown
    exact hall

/-- A module with a speed behind others. -/
theorem KnowsSpeed.next (h : KnowsSpeed speeds (complete, some common)) (speed : TransferRate) :
    KnowsSpeed (speeds ++ [some speed]) (complete && common = speed, some common) := by
  cases complete with
  | false => exact ⟨fun hfalse => absurd hfalse (by simp), fun _ => other_append (h.other rfl)⟩
  | true =>
      rw [Bool.true_and]
      constructor
      · intro hsame
        obtain rfl := of_decide_eq_true hsame
        exact .inr ⟨common, rfl, common_append_singleton.mpr ⟨rfl, .inr h.known⟩⟩
      · intro hother
        have hne : common ≠ speed := of_decide_eq_false hother
        intro wanted
        by_cases heq : speed = wanted
        · exact ⟨some common, List.mem_append_left _ h.known.mem, by simpa [← heq] using hne⟩
        · exact ⟨some speed, List.mem_append_right _ List.mem_cons_self, by simpa using heq⟩

end Speed

theorem foldl_scanSpeed (dimms : List DimmInfo) :
    KnowsSpeed (presentSpeeds dimms) (dimms.foldl scanSpeed (true, none)) := by
  induction dimms using List.reverseRecOn with
  | nil => exact ⟨fun _ => .inl ⟨rfl, rfl⟩, fun h => by cases h⟩
  | append_singleton dimms dimm ih =>
      rw [List.foldl_append, List.foldl_cons, List.foldl_nil, presentSpeeds, List.filter_append,
        List.map_append, ← presentSpeeds]
      generalize dimms.foldl scanSpeed (true, none) = s at ih
      obtain ⟨complete, common⟩ := s
      rw [scanSpeed]
      cases hpresent : dimm.present with
      | false =>
          rw [List.filter_cons_of_neg (by simp [hpresent]), List.filter_nil, List.map_nil,
            List.append_nil]
          exact ih
      | true =>
          rw [List.filter_cons_of_pos hpresent, List.filter_nil, List.map_singleton]
          cases dimm.configuredSpeedMts with
          | none => exact .missing common
          | some speed =>
              cases common with
              | none => exact ih.first speed
              | some common => exact ih.next speed

/-- **The common speed** is one that every present module has. -/
theorem commonSpeed_eq_some {dimms : List DimmInfo} {speed : TransferRate} :
    commonSpeed none dimms = some speed ↔ Common (presentSpeeds dimms) (some speed) := by
  obtain ⟨hcommon, hother⟩ := foldl_scanSpeed dimms
  rw [commonSpeed]
  cases hcomplete : (dimms.foldl scanSpeed (true, none)).1 with
  | false =>
      obtain ⟨other, hmem, hne⟩ := hother hcomplete speed
      exact iff_of_false (by simp) fun h => hne (h.2 other hmem)
  | true =>
      rw [if_pos rfl]
      rcases hcommon hcomplete with ⟨hnone, hnil⟩ | ⟨known, hknown, hall⟩
      · rw [hnone]
        exact iff_of_false (by simp) fun h => h.1 hnil
      · rw [hknown]
        constructor
        · intro h
          rwa [← h]
        · exact fun h => hall.unique h

/-! ### The reports -/

/-- What the reports read so far come to, if the lines are all about slots. -/
structure Reports (entries : List DimmEntry) (u : UdevDimms) : Prop where
  dimms : u.dimms = (slots entries).map (settledDimm entries)
  memoryType : u.memoryType = agreement [] (utf8 "mixed") (fieldValues (utf8 "TYPE") entries)
  configuredSpeed : u.configuredSpeed = commonSpeed none u.dimms

theorem parseUdevadmDimms_reports {before : UdevDimms} (htype : before.memoryType = [])
    (hspeed : before.configuredSpeed = none) (payload : Bytes) :
    Reports (dimmEntries payload) (parseUdevadmDimms before payload) := by
  obtain ⟨hdimms, hpresent, hmemoryType⟩ := foldl_scanDimmLine (split payload 10)
  rw [← dimmEntries] at hdimms hpresent hmemoryType
  refine ⟨?_, ?_, ?_⟩
  · rw [parseUdevadmDimms, htype]
    dsimp only
    rw [hdimms, filed, toList_foldl_upsert, List.map_map]
    refine List.map_congr_left fun slot _ => ?_
    rw [Function.comp_apply, settlePresence, settledDimm]
    by_cases hnone : lastValue (utf8 "PRESENT") (dimmEntries payload) slot = none
    · rw [if_pos hnone, if_neg (by rw [hpresent]; exact not_not_intro hnone)]
    · rw [if_neg hnone, if_pos ((hpresent slot).mpr hnone)]
  · rw [parseUdevadmDimms, htype]
    exact hmemoryType
  · rw [parseUdevadmDimms, hspeed]

theorem slots_eq_nil {entries : List DimmEntry} : slots entries = [] ↔ entries = [] := by
  constructor
  · intro h
    cases entries with
    | nil => rfl
    | cons entry entries =>
        have hmem : entry.slot ∈ slots (entry :: entries) :=
          mem_slots.mpr ⟨entry, List.mem_cons_self, rfl⟩
        rw [h] at hmem
        cases hmem
  · rintro rfl
    rfl

/-- The loop stops at the first report about a slot. -/
theorem udevDimms_reports {before : UdevDimms} (hbefore : Reports [] before)
    (records : List RawEvidence) :
    Reports (reportedEntries records) (udevDimms before records) := by
  induction records generalizing before with
  | nil => exact hbefore
  | cons record records ih =>
      have htype : before.memoryType = [] := hbefore.memoryType
      have hspeed : before.configuredSpeed = none := by
        rw [hbefore.configuredSpeed, hbefore.dimms]
        rfl
      have hnext := parseUdevadmDimms_reports htype hspeed record.payload
      rw [udevDimms, reportedEntries, List.map_cons]
      by_cases hnil : dimmEntries record.payload = []
      · rw [hnil] at hnext
        rw [if_pos (by rw [hnext.dimms]; rfl), List.find?_cons_of_neg (by simpa using hnil)]
        exact ih hnext
      · rw [List.find?_cons_of_pos (by simpa using hnil), Option.getD_some, if_neg]
        · exact hnext
        · rw [hnext.dimms, List.isEmpty_iff, List.map_eq_nil_iff, slots_eq_nil]
          exact hnil

/-! ### After the report -/

/-- A module as firmware describes it, without what EDAC and the controllers say about it. -/
def firmware (dimm : DimmInfo) : DimmInfo :=
  { dimm with
    edacMode := []
    deviceWidth := []
    controllerIndex := none
    numaNode := none
    edacDeviceIndex := none
    edacAssociation := .unknown }

theorem firmware_tiedDimm (dimms : List DimmInfo) (devices : List EdacMemoryDevice)
    (dimm : DimmInfo) (visited : List EdacMemoryDevice) :
    firmware (tiedDimm dimms devices dimm visited) = firmware dimm := by
  rw [tiedDimm]
  generalize visited.filter (describes dimms devices · dimm) = ties
  induction ties generalizing dimm with
  | nil => rfl
  | cons device ties ih => exact ih _

theorem firmware_placeDimm (controllers : List MemoryController) (dimm : DimmInfo) :
    firmware (placeDimm controllers dimm) = firmware dimm := by
  rw [placeDimm]
  split <;> rfl

/-- The totals of a memory. -/
def totals (memory : Memory) : Bytes × Option TransferRate × Option UInt32 × Option UInt32 × Bytes :=
  (memory.memoryType, memory.configuredSpeedMts, memory.dimmCount, memory.populatedDimms,
    memory.dimmInventorySource)

/-- What firmware says about modules is the same where the modules are the same for firmware. -/
theorem map_eq_of_firmware {β : Type} (get : DimmInfo → β) (hget : ∀ dimm, get (firmware dimm) = get dimm)
    {dimms dimms' : List DimmInfo} (h : dimms.map firmware = dimms'.map firmware) :
    dimms.map get = dimms'.map get := by
  have hmap := congrArg (List.map get) h
  rw [List.map_map, List.map_map] at hmap
  have hcomp : get ∘ firmware = get := funext hget
  rwa [hcomp] at hmap

theorem countP_eq_of_firmware {dimms dimms' : List DimmInfo}
    (h : dimms.map firmware = dimms'.map firmware) :
    dimms.countP (·.present) = dimms'.countP (·.present) := by
  have hmap := congrArg (List.countP id) (map_eq_of_firmware (·.present) (fun _ => rfl) h)
  rwa [List.countP_map, List.countP_map] at hmap

/-- The topology leaves the totals, and the modules as firmware describes them. -/
theorem applyMemoryTopology_firmware (raw : EvidenceStore) (memory : Memory) :
    totals (applyMemoryTopology raw memory) = totals memory ∧
      (applyMemoryTopology raw memory).dimms.map firmware = memory.dimms.map firmware := by
  constructor
  · exact foldl_scanArrayLine_keeps totals (fun _ _ _ _ _ => rfl) _ _
  · refine (congrArg (List.map firmware)
      (foldl_scanArrayLine_keeps Memory.dimms (fun _ _ _ _ _ => rfl) _ _)).trans ?_
    rw [List.map_map]
    exact List.map_congr_left fun dimm _ => firmware_placeDimm _ dimm

/-- The EDAC records leave modules of firmware as firmware describes them. -/
theorem applyEdacInventory_firmware (raw : EvidenceStore) {memory : Memory}
    (hne : memory.dimms ≠ []) (memoryType : Bytes) :
    ∃ devices dimms, applyEdacInventory raw (memory, memoryType) =
        ({ memory with edacDevices := devices, dimms := dimms }, memoryType) ∧
      dimms.map firmware = memory.dimms.map firmware := by
  rw [applyEdacInventory]
  dsimp only
  rw [if_neg (by rwa [List.isEmpty_iff])]
  refine ⟨_, _, rfl, ?_⟩
  rw [foldl_tieDimm, List.map_map]
  exact List.map_congr_left fun dimm _ => firmware_tiedDimm _ _ dimm _

/-- Without modules of firmware the inventory is not the one of `udev`. -/
theorem applyEdacInventory_source (raw : EvidenceStore) {memory : Memory} (hnil : memory.dimms = [])
    (hsource : memory.dimmInventorySource = []) (memoryType : Bytes) :
    (applyEdacInventory raw (memory, memoryType)).1.dimmInventorySource ≠ utf8 "udev" := by
  rw [applyEdacInventory]
  dsimp only
  rw [if_pos (by rw [hnil]; rfl)]
  dsimp only
  rw [hsource]
  split_ifs
  · decide +kernel
  · decide +kernel

/-- A memory with its totals, from what the EDAC records leave. -/
def totalled (s : Memory × Bytes) (speed : Option TransferRate) : Memory :=
  countDimms { s.1 with memoryType := s.2, configuredSpeedMts := speed }

theorem totalled_source (s : Memory × Bytes) (speed : Option TransferRate) :
    (totalled s speed).dimmInventorySource = s.1.dimmInventorySource := by
  rw [totalled, countDimms]
  split_ifs <;> rfl

theorem totalled_dimms (s : Memory × Bytes) (speed : Option TransferRate) :
    (totalled s speed).dimms = s.1.dimms := by
  rw [totalled, countDimms]
  split_ifs <;> rfl

theorem totalled_totals {s : Memory × Bytes} (hne : s.1.dimms ≠ []) (speed : Option TransferRate) :
    totals (totalled s speed) =
      (s.2, speed, some (UInt32.ofNat s.1.dimms.length),
        some (UInt32.ofNat (s.1.dimms.countP (·.present))), s.1.dimmInventorySource) := by
  rw [totalled, countDimms, if_neg (by rwa [List.isEmpty_iff])]
  rfl

/-- The last passes of the parser over the modules of the report. -/
theorem parseMemory_passes {raw : EvidenceStore} {memory : Memory}
    (h : (parseMemory raw).1 = some memory) :
    ∃ before : Memory, before.dimms = (udevDimms {} (raw.successes .udevadm)).dimms ∧
      (before.dimms = [] → before.dimmInventorySource = []) ∧
      memory = applyMemoryTopology raw
        (totalled (applyEdacInventory raw (before, (udevDimms {} (raw.successes .udevadm)).memoryType))
          (udevDimms {} (raw.successes .udevadm)).configuredSpeed) := by
  rw [parseMemory] at h
  split at h
  · cases h
  rename_i record _
  by_cases htotal : (parseMeminfo record.payload).total = 0
  · rw [if_pos htotal] at h
    cases h
  rw [if_neg htotal] at h
  generalize udevDimms {} (raw.successes .udevadm) = u at h
  exact ⟨_, rfl, fun hnil => if_pos (List.isEmpty_iff.mpr hnil), (Option.some.inj h).symm⟩

/-- **A memory whose modules `udev` reports** has the totals of the reports. -/
theorem parseMemory_udev {raw : EvidenceStore} {memory : Memory}
    (h : (parseMemory raw).1 = some memory) (hudev : memory.dimmInventorySource = utf8 "udev") :
    ∃ u, Reports (reportedEntries (raw.successes .udevadm)) u ∧
      memory.dimms.map firmware = u.dimms.map firmware ∧
      memory.memoryType = u.memoryType ∧
      memory.configuredSpeedMts = u.configuredSpeed ∧
      memory.dimmCount = some (UInt32.ofNat memory.dimms.length) ∧
      memory.populatedDimms = some (UInt32.ofNat (memory.dimms.countP (·.present))) := by
  obtain ⟨before, hdimms, hsource, rfl⟩ := parseMemory_passes h
  refine ⟨udevDimms {} (raw.successes .udevadm),
    udevDimms_reports ⟨rfl, rfl, rfl⟩ (raw.successes .udevadm), ?_⟩
  generalize udevDimms {} (raw.successes .udevadm) = u at hdimms hudev ⊢
  obtain ⟨htotals, hfirmware⟩ := applyMemoryTopology_firmware raw
    (totalled (applyEdacInventory raw (before, u.memoryType)) u.configuredSpeed)
  have hne : before.dimms ≠ [] := by
    intro hnil
    have hkeeps := congrArg (fun t => t.2.2.2.2) htotals
    exact applyEdacInventory_source raw hnil (hsource hnil) u.memoryType
      ((totalled_source _ _).symm.trans (hkeeps.symm.trans hudev))
  obtain ⟨devices, dimms, hedac, hdimmsFirmware⟩ := applyEdacInventory_firmware raw hne u.memoryType
  rw [hedac] at htotals hfirmware ⊢
  rw [totalled_dimms, hdimmsFirmware, hdimms] at hfirmware
  have hdimmsNe : dimms ≠ [] := by
    rintro rfl
    exact hne (List.map_eq_nil_iff.mp hdimmsFirmware.symm)
  rw [totalled_totals (by exact hdimmsNe)] at htotals
  have hlength := congrArg List.length (hfirmware.trans (hdimms ▸ hdimmsFirmware.symm))
  rw [List.length_map, List.length_map] at hlength
  have hcount := countP_eq_of_firmware (hfirmware.trans (hdimms ▸ hdimmsFirmware.symm))
  simp only [totals, Prod.mk.injEq] at htotals
  obtain ⟨htype, hspeed, hdimmCount, hpopulated, -⟩ := htotals
  rw [hlength, hcount]
  exact ⟨hfirmware, htype, hspeed, hdimmCount, hpopulated⟩

/-! ### The totals and the modules -/

/-- The module of a slot: what the lines about the slot say, with its size for its presence where no line
says that. -/
structure SlotModule (entries : List DimmEntry) (slot : UInt32) (dimm : DimmInfo) : Prop where
  fields : { firmware dimm with present := false } = { slotDimm entries slot with present := false }
  reported : ∀ value, lastValue (utf8 "PRESENT") entries slot = some value →
    dimm.present = decide (value = utf8 "1")
  unreported : lastValue (utf8 "PRESENT") entries slot = none → (dimm.present = true ↔ 0 < dimm.size)

/-- The totals of a memory against its modules, and its modules against the lines about the slots. -/
structure Matches (entries : List DimmEntry) (memory : Memory) : Prop where
  speed : ∀ speed, memory.configuredSpeedMts = some speed ↔
    (∃ dimm ∈ memory.dimms, dimm.present) ∧
      ∀ dimm ∈ memory.dimms, dimm.present → dimm.configuredSpeedMts = some speed
  untyped : memory.memoryType = [] ↔ ∀ dimm ∈ memory.dimms, dimm.memoryType = []
  typed : ∀ t, t ≠ [] → t ≠ utf8 "mixed" →
    (memory.memoryType = t ↔ Common (moduleTypes memory.dimms) t)
  mixed : memory.memoryType = utf8 "mixed" ↔
    moduleTypes memory.dimms ≠ [] ∧ ∀ t, Common (moduleTypes memory.dimms) t → t = utf8 "mixed"
  count : memory.dimmCount.map UInt32.toNat = some memory.dimms.length
  populated : memory.populatedDimms.map UInt32.toNat = some (memory.dimms.countP (·.present))
  modules : ∃ slots : List UInt32, slots.Pairwise (· < ·) ∧
    (∀ slot, slot ∈ slots ↔ ∃ entry ∈ entries, entry.slot = slot) ∧
    List.Forall₂ (SlotModule entries) slots memory.dimms

/-- The types that slots end up with. -/
def lastTypes (entries : List DimmEntry) : List Bytes :=
  (slots entries).filterMap (lastValue (utf8 "TYPE") entries)

/-- Where all slots end up with one type, no slot had another one before. -/
def TypesSettled (entries : List DimmEntry) : Prop :=
  ∀ t ≠ utf8 "mixed", Common (lastTypes entries) t → ∀ value ∈ fieldValues (utf8 "TYPE") entries, value = t

theorem presentSpeeds_common {dimms : List DimmInfo} {speed : TransferRate} :
    Common (presentSpeeds dimms) (some speed) ↔
      (∃ dimm ∈ dimms, dimm.present) ∧
        ∀ dimm ∈ dimms, dimm.present → dimm.configuredSpeedMts = some speed := by
  rw [Common, presentSpeeds, ne_eq, List.map_eq_nil_iff, List.filter_eq_nil_iff, List.forall_mem_map]
  simp

theorem presentSpeeds_firmware {dimms dimms' : List DimmInfo}
    (h : dimms.map firmware = dimms'.map firmware) : presentSpeeds dimms = presentSpeeds dimms' := by
  have hkeeps : ∀ dimms : List DimmInfo, presentSpeeds (dimms.map firmware) = presentSpeeds dimms := by
    intro dimms
    rw [presentSpeeds, List.filter_map, List.map_map]
    rfl
  rw [← hkeeps, h, hkeeps]

theorem setDimmField_firmware (dimm : DimmInfo) (field value : Bytes) :
    setDimmField (firmware dimm) field value = firmware (setDimmField dimm field value) := by
  simp only [setDimmField, apply_ite firmware]
  rfl

/-- The lines about a slot say nothing about EDAC and the controllers. -/
theorem firmware_slotDimm (entries : List DimmEntry) (slot : UInt32) :
    firmware (slotDimm entries slot) = slotDimm entries slot := by
  rw [slotDimm]
  exact (List.foldl_hom firmware fun dimm (entry : DimmEntry) =>
    setDimmField_firmware dimm entry.field entry.value).symm

theorem settledDimm_type (entries : List DimmEntry) (slot : UInt32) :
    (settledDimm entries slot).memoryType = (lastValue (utf8 "TYPE") entries slot).getD [] := by
  rw [← slotDimm_type, settledDimm]
  split_ifs <;> rfl

theorem slotModule_of_firmware {entries : List DimmEntry} {slot : UInt32} {dimm : DimmInfo}
    (h : firmware dimm = firmware (settledDimm entries slot)) : SlotModule entries slot dimm := by
  have hpresent : dimm.present = (settledDimm entries slot).present := congrArg (·.present) h
  have hsize : dimm.size = (settledDimm entries slot).size := congrArg (·.size) h
  refine ⟨?_, fun value hvalue => ?_, fun hnone => ?_⟩
  · rw [h, ← firmware_slotDimm, settledDimm]
    split_ifs <;> rfl
  · rw [hpresent, settledDimm, if_neg (by rw [hvalue]; simp), slotDimm_present, hvalue]
    rfl
  · rw [hpresent, hsize, settledDimm, if_pos hnone]
    exact decide_eq_true_iff

theorem slotModules_of_firmware {entries : List DimmEntry} {slots : List UInt32}
    {dimms : List DimmInfo}
    (h : dimms.map firmware = (slots.map (settledDimm entries)).map firmware) :
    List.Forall₂ (SlotModule entries) slots dimms := by
  have hforall : List.Forall₂ Eq ((slots.map (settledDimm entries)).map firmware) (dimms.map firmware) :=
    h ▸ List.forall₂_refl _
  rw [List.forall₂_map_left_iff, List.forall₂_map_left_iff, List.forall₂_map_right_iff] at hforall
  exact hforall.imp fun slot dimm heq => slotModule_of_firmware heq.symm

theorem reportedEntries_value {records : List RawEvidence} {entry : DimmEntry}
    (h : entry ∈ reportedEntries records) : entry.value ≠ [] := by
  rw [reportedEntries] at h
  cases hfind : (records.map fun record => dimmEntries record.payload).find? (· ≠ []) with
  | none =>
      rw [hfind] at h
      cases h
  | some entries =>
      rw [hfind] at h
      obtain ⟨record, -, rfl⟩ := List.mem_map.mp (List.mem_of_find?_eq_some hfind)
      obtain ⟨line, -, hline⟩ := List.mem_filterMap.mp h
      exact dimmEntry_value hline

section Types

variable {entries : List DimmEntry} (hvalue : ∀ entry ∈ entries, entry.value ≠ [])
include hvalue

theorem fieldValues_ne_nil (field : Bytes) : ∀ value ∈ fieldValues field entries, value ≠ [] := by
  intro value hmem
  obtain ⟨entry, hentry, rfl⟩ := List.mem_map.mp hmem
  exact hvalue entry (List.mem_filter.mp hentry).1

/-- The modules have the last types of their slots. -/
theorem moduleTypes_settledDimm :
    moduleTypes ((slots entries).map (settledDimm entries)) = lastTypes entries := by
  rw [moduleTypes, lastTypes, List.map_map]
  induction slots entries with
  | nil => rfl
  | cons slot slots ih =>
      rw [List.map_cons, Function.comp_apply, settledDimm_type]
      cases hlast : lastValue (utf8 "TYPE") entries slot with
      | none =>
          rw [List.filterMap_cons_none hlast, List.filter_cons_of_neg (by simp), ih]
      | some value =>
          have hne := fieldValues_ne_nil hvalue (utf8 "TYPE") value (mem_of_lastValue hlast)
          rw [List.filterMap_cons_some hlast, List.filter_cons_of_pos (by simpa using hne), ih]
          rfl

omit hvalue in
theorem lastTypes_subset : lastTypes entries ⊆ fieldValues (utf8 "TYPE") entries := by
  intro value hmem
  obtain ⟨slot, -, hlast⟩ := List.mem_filterMap.mp hmem
  exact mem_of_lastValue hlast

omit hvalue in
theorem fieldValues_eq_nil_of_lastTypes (h : lastTypes entries = []) :
    fieldValues (utf8 "TYPE") entries = [] := by
  rw [fieldValues, List.map_eq_nil_iff, List.filter_eq_nil_iff]
  intro entry hentry hfield
  have hslot := List.filterMap_eq_nil_iff.mp h entry.slot (mem_slots.mpr ⟨entry, hentry, rfl⟩)
  exact lastValue_eq_none.mp hslot entry hentry rfl (by simpa using hfield)

/-- The agreement of all types is the one of the last types where the types are settled. -/
theorem agreement_lastTypes_iff :
    agreement [] (utf8 "mixed") (fieldValues (utf8 "TYPE") entries) =
      agreement [] (utf8 "mixed") (lastTypes entries) ↔ TypesSettled entries :=
  agreement_congr_iff (fieldValues_ne_nil hvalue _) (by decide +kernel) lastTypes_subset
    fieldValues_eq_nil_of_lastTypes

end Types

theorem moduleTypes_eq_nil {dimms : List DimmInfo} :
    moduleTypes dimms = [] ↔ ∀ dimm ∈ dimms, dimm.memoryType = [] := by
  rw [moduleTypes, List.filter_eq_nil_iff, List.forall_mem_map]
  simp

/-- **The totals match the modules** exactly where no type of a slot is hidden behind the one all slots
end up with, and the slots can be counted in 32 bits. -/
theorem memoryAggregates_iff {raw : EvidenceStore} {memory : Memory}
    (h : (parseMemory raw).1 = some memory) (hudev : memory.dimmInventorySource = utf8 "udev") :
    Matches (reportedEntries (raw.successes .udevadm)) memory ↔
      TypesSettled (reportedEntries (raw.successes .udevadm)) ∧
        (slots (reportedEntries (raw.successes .udevadm))).length < 2 ^ 32 := by
  have hvalue : ∀ entry ∈ reportedEntries (raw.successes .udevadm), entry.value ≠ [] :=
    fun entry hentry => reportedEntries_value hentry
  obtain ⟨u, hreports, hfirmware, htype, hspeed, hcount, hpopulated⟩ := parseMemory_udev h hudev
  generalize reportedEntries (raw.successes .udevadm) = entries at hreports hvalue ⊢
  have hmodules : moduleTypes memory.dimms = lastTypes entries := by
    rw [← moduleTypes_settledDimm hvalue, ← hreports.dimms, moduleTypes, moduleTypes,
      map_eq_of_firmware (·.memoryType) (fun _ => rfl) hfirmware]
  have hlength : memory.dimms.length = (slots entries).length := by
    have hmap := congrArg List.length hfirmware
    rwa [List.length_map, List.length_map, hreports.dimms, List.length_map] at hmap
  have hset : ∀ value ∈ moduleTypes memory.dimms, value ≠ [] := fun value hmem => by
    simpa using (List.mem_filter.mp hmem).2
  have hmixed : utf8 "mixed" ≠ [] := by decide +kernel
  have hagree := eq_agreement_iff (s := memory.memoryType) hset hmixed
  rw [moduleTypes_eq_nil] at hagree
  rw [← agreement_lastTypes_iff hvalue, ← hreports.memoryType, ← htype, ← hmodules, ← hlength]
  constructor
  · intro hmatches
    have hmatched := hmatches.count
    rw [hcount, Option.map_some, Option.some.injEq, toNat_ofNat32_iff] at hmatched
    exact ⟨hagree.mpr ⟨hmatches.untyped, hmatches.typed, hmatches.mixed⟩, hmatched⟩
  · rintro ⟨hsettled, hfits⟩
    obtain ⟨huntyped, htyped, hclash⟩ := hagree.mp hsettled
    have hpopulatedFits : memory.dimms.countP (·.present) < 2 ^ 32 :=
      List.countP_le_length.trans_lt hfits
    exact
      { speed := fun speed => by
          rw [hspeed, hreports.configuredSpeed, commonSpeed_eq_some, ← presentSpeeds_firmware hfirmware]
          exact presentSpeeds_common
        untyped := huntyped
        typed := htyped
        mixed := hclash
        count := by rw [hcount, Option.map_some, (toNat_ofNat32_iff _).mpr hfits]
        populated := by rw [hpopulated, Option.map_some, (toNat_ofNat32_iff _).mpr hpopulatedFits]
        modules := ⟨slots entries, slots_pairwise entries, fun _ => mem_slots,
          slotModules_of_firmware (by rw [hfirmware, hreports.dimms])⟩ }

/-- One module whose type is reported twice, and differently. -/
def retypedStore (first second : Bytes) : EvidenceStore :=
  { records :=
      [⟨.procMemInfo, utf8 "/proc/meminfo", utf8 "MemTotal: 1 kB\n", .success, none, none⟩,
       ⟨.udevadm, utf8 "udevadm info -e",
         utf8 "E: MEMORY_DEVICE_0_TYPE=" ++ first ++ utf8 "\nE: MEMORY_DEVICE_0_TYPE=" ++ second ++
           utf8 "\nE: MEMORY_DEVICE_0_SIZE=8", .success, none, none⟩] }

theorem memoryAggregates_iff_ddr5 :
    ∃ memory, (parseMemory (retypedStore (utf8 "DDR5") (utf8 "DDR5"))).1 = some memory ∧
      (Matches (reportedEntries ((retypedStore (utf8 "DDR5") (utf8 "DDR5")).successes .udevadm)) memory ↔
        TypesSettled (reportedEntries ((retypedStore (utf8 "DDR5") (utf8 "DDR5")).successes .udevadm)) ∧
          (slots (reportedEntries ((retypedStore (utf8 "DDR5") (utf8 "DDR5")).successes
            .udevadm))).length < 2 ^ 32) := by
  have hsource : (parseMemory (retypedStore (utf8 "DDR5") (utf8 "DDR5"))).1.map
      (·.dimmInventorySource) = some (utf8 "udev") := by
    decide +kernel
  obtain ⟨memory, hmemory, hudev⟩ := Option.map_eq_some_iff.mp hsource
  exact ⟨memory, hmemory, memoryAggregates_iff hmemory hudev⟩

/-- A module of type DDR5 in a memory of mixed types. -/
theorem retyped_not_matches :
    ∃ memory, (parseMemory (retypedStore (utf8 "DDR4") (utf8 "DDR5"))).1 = some memory ∧
      memory.dimmInventorySource = utf8 "udev" ∧
      ¬Matches (reportedEntries ((retypedStore (utf8 "DDR4") (utf8 "DDR5")).successes .udevadm))
        memory := by
  have hparsed : (parseMemory (retypedStore (utf8 "DDR4") (utf8 "DDR5"))).1.map
      (fun memory => (memory.dimmInventorySource, memory.memoryType, memory.dimms.map (·.memoryType))) =
        some (utf8 "udev", utf8 "mixed", [utf8 "DDR5"]) := by
    decide +kernel
  obtain ⟨memory, hmemory, hfields⟩ := Option.map_eq_some_iff.mp hparsed
  obtain ⟨hsource, htype, hdimms⟩ : memory.dimmInventorySource = utf8 "udev" ∧
      memory.memoryType = utf8 "mixed" ∧ memory.dimms.map (·.memoryType) = [utf8 "DDR5"] := by
    simpa using hfields
  refine ⟨memory, hmemory, hsource, fun hmatches => ?_⟩
  have hcommon : Common (moduleTypes memory.dimms) (utf8 "DDR5") := by
    rw [moduleTypes, hdimms]
    decide +kernel
  exact absurd ((hmatches.mixed.mp htype).2 _ hcommon) (by decide +kernel)

end Sysal.MemoryParser
