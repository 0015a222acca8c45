import Mathlib.Data.List.Basic
import Mathlib.Data.Rat.Defs
import Mathlib.Data.String.Basic
import Mathlib.Tactic.Linarith
import Sysal.Foundation.ByteString

/-!
# JSON values

The values of a JSON library that stores objects as ordered maps: a tree is `Canonical` when the keys
of every object strictly increase, and a `Json` is a canonical tree, so that two values
are equal exactly when they are the same document.  Numbers are the integers a 64-bit library keeps
exact and the finite doubles.

Strings are byte strings: a value can be built from any bytes, only a text cannot hold all of them.

* `Json.object_field`: the member of an object built from a list of fields is the first field of its
  name.
* `Json.array_items`: the elements of an array are the ones it was built from.
-/

namespace Sysal

/-- An integer that a signed or an unsigned 64-bit integer can hold. -/
structure JsonInt where
  value : ℤ
  inRange : -2 ^ 63 ≤ value ∧ value < 2 ^ 64
  deriving DecidableEq

/-- A finite double. -/
structure FiniteDouble where
  value : ℚ
  representable : ∃ m e : ℤ, m.natAbs < 2 ^ 53 ∧ -1074 ≤ e ∧ e ≤ 971 ∧ value = m * (2 : ℚ) ^ e
  deriving DecidableEq

instance : Inhabited FiniteDouble := ⟨⟨0, 0, 0, by decide, by decide, by decide, by norm_num⟩⟩

/-- A JSON tree, with the members of an object in some order. -/
inductive JsonTree where
  | null
  | bool (b : Bool)
  | int (n : JsonInt)
  | float (x : FiniteDouble)
  | str (s : Bytes)
  | arr (items : List JsonTree)
  | obj (fields : List (String × JsonTree))

/-- The keys of every object strictly increase. -/
inductive JsonTree.Canonical : JsonTree → Prop
  | null : Canonical .null
  | bool (b : Bool) : Canonical (.bool b)
  | int (n : JsonInt) : Canonical (.int n)
  | float (x : FiniteDouble) : Canonical (.float x)
  | str (s : Bytes) : Canonical (.str s)
  | arr {items : List JsonTree} (h : ∀ t ∈ items, Canonical t) : Canonical (.arr items)
  | obj {fields : List (String × JsonTree)} (hkeys : (fields.map Prod.fst).Pairwise (· < ·))
      (h : ∀ f ∈ fields, Canonical f.2) : Canonical (.obj fields)

/-- A JSON value. -/
structure Json where
  tree : JsonTree
  canonical : tree.Canonical

namespace Json

/-! ### Building values -/

def null : Json := ⟨.null, .null⟩
def bool (b : Bool) : Json := ⟨.bool b, .bool b⟩
def int (n : JsonInt) : Json := ⟨.int n, .int n⟩
def float (x : FiniteDouble) : Json := ⟨.float x, .float x⟩
def str (s : Bytes) : Json := ⟨.str s, .str s⟩

def array (items : List Json) : Json :=
  ⟨.arr (items.map tree), .arr fun t ht => by
    obtain ⟨j, -, rfl⟩ := List.mem_map.mp ht
    exact j.canonical⟩

/-- Insertion of a member by its key; a member of the same key is replaced. -/
def insertField (key : String) (value : Json) : List (String × Json) → List (String × Json)
  | [] => [(key, value)]
  | (k, v) :: rest =>
      if key < k then (key, value) :: (k, v) :: rest
      else if key = k then (key, value) :: rest
      else (k, v) :: insertField key value rest

/-- The members that a list of fields sets, by increasing key; of two fields of one name the first
counts, and a field without a value sets nothing. -/
def sortFields : List (String × Option Json) → List (String × Json)
  | [] => []
  | (k, some v) :: fields => insertField k v (sortFields fields)
  | (k, none) :: fields => (sortFields fields).filter (·.1 ≠ k)

theorem mem_insertField {key : String} {value : Json} {fields : List (String × Json)}
    {f : String × Json} (h : f ∈ insertField key value fields) : f = (key, value) ∨ f ∈ fields := by
  induction fields with
  | nil => simpa [insertField] using h
  | cons g fields ih =>
      simp only [insertField] at h
      split at h
      · exact List.mem_cons.mp h
      · split at h
        · rcases List.mem_cons.mp h with h | h
          · exact Or.inl h
          · exact Or.inr (List.mem_cons_of_mem _ h)
        · rcases List.mem_cons.mp h with h | h
          · exact Or.inr (h ▸ List.mem_cons_self)
          · exact (ih h).imp id (List.mem_cons_of_mem _)

theorem insertField_sorted {key : String} {value : Json} {fields : List (String × Json)}
    (h : (fields.map Prod.fst).Pairwise (· < ·)) :
    ((insertField key value fields).map Prod.fst).Pairwise (· < ·) := by
  induction fields with
  | nil => simp [insertField]
  | cons g fields ih =>
      rw [List.map_cons, List.pairwise_cons] at h
      simp only [insertField]
      split
      · rename_i hlt
        rw [List.map_cons, List.pairwise_cons, List.map_cons, List.pairwise_cons]
        refine ⟨?_, h⟩
        intro k hk
        rcases List.mem_cons.mp hk with rfl | hk
        · exact hlt
        · exact String.lt_trans hlt (h.1 k hk)
      · split
        · rename_i heq
          rw [List.map_cons, List.pairwise_cons]
          exact ⟨fun k hk => heq ▸ h.1 k hk, h.2⟩
        · rename_i hnlt hne
          rw [List.map_cons, List.pairwise_cons]
          refine ⟨?_, ih h.2⟩
          intro k hk
          obtain ⟨f, hf, rfl⟩ := List.mem_map.mp hk
          rcases mem_insertField hf with rfl | hf
          · exact lt_of_le_of_ne (not_lt.mp hnlt) (Ne.symm hne)
          · exact h.1 f.1 (List.mem_map_of_mem hf)

theorem sortFields_sorted (fields : List (String × Option Json)) :
    ((sortFields fields).map Prod.fst).Pairwise (· < ·) := by
  induction fields with
  | nil => exact List.Pairwise.nil
  | cons f fields ih =>
      obtain ⟨k, _ | v⟩ := f
      · exact ih.sublist (List.filter_sublist.map _)
      · exact insertField_sorted ih

/-- An object from its fields in any order. -/
def object (fields : List (String × Option Json)) : Json :=
  ⟨.obj ((sortFields fields).map fun f => (f.1, f.2.tree)), .obj
    (by rw [List.map_map]; exact sortFields_sorted fields)
    (fun t ht => by
      obtain ⟨f, -, rfl⟩ := List.mem_map.mp ht
      exact f.2.canonical)⟩

/-! ### Reading values -/

end Json

/-- The members of an object; any other tree has none. -/
def JsonTree.members : JsonTree → List (String × JsonTree)
  | .obj fields => fields
  | _ => []

/-- The elements of an array; any other tree has none. -/
def JsonTree.elements : JsonTree → List JsonTree
  | .arr items => items
  | _ => []

theorem JsonTree.Canonical.members {t : JsonTree} (h : t.Canonical) :
    ∀ f ∈ t.members, f.2.Canonical := by
  cases h with
  | obj _ h => exact h
  | _ => exact fun _ hf => absurd hf List.not_mem_nil

theorem JsonTree.Canonical.elements {t : JsonTree} (h : t.Canonical) :
    ∀ e ∈ t.elements, e.Canonical := by
  cases h with
  | arr h => exact h
  | _ => exact fun _ hf => absurd hf List.not_mem_nil

namespace Json

def members (j : Json) : List (String × Json) :=
  j.tree.members.pmap (fun f h => (f.1, ⟨f.2, h⟩)) j.canonical.members

def elements (j : Json) : List Json := j.tree.elements.pmap Json.mk j.canonical.elements

/-- The value of the first member of a name in a list of members. -/
def lookup (key : String) (members : List (String × Json)) : Option Json :=
  (members.find? (·.1 = key)).map (·.2)

/-- The member of a name: what `contains` and `find` see; a value other than an object has none. -/
def field (j : Json) (key : String) : Option Json := lookup key j.members

/-- What a loop over a value visits: elements, member values by key, nothing for null, and a scalar
itself. -/
def items (j : Json) : List Json :=
  match j.tree with
  | .null => []
  | .arr _ => j.elements
  | .obj _ => j.members.map (·.2)
  | _ => [j]

def isObject (j : Json) : Bool := match j.tree with | .obj _ => true | _ => false
def isArray (j : Json) : Bool := match j.tree with | .arr _ => true | _ => false

def asBool (j : Json) : Option Bool := match j.tree with | .bool b => some b | _ => none
def asInt (j : Json) : Option ℤ := match j.tree with | .int n => some n.value | _ => none
def asFloat (j : Json) : Option FiniteDouble := match j.tree with | .float x => some x | _ => none
def asStr (j : Json) : Option Bytes := match j.tree with | .str s => some s | _ => none

/-! ### Reading what was built -/

/-- The first field of a name in a list of fields. -/
def findField (key : String) : List (String × Option Json) → Option Json
  | [] => none
  | (k, v) :: fields => if k = key then v else findField key fields

@[simp] theorem findField_nil (key : String) : findField key [] = none := rfl

@[simp] theorem findField_cons (key k : String) (v : Option Json)
    (fields : List (String × Option Json)) :
    findField key ((k, v) :: fields) = if k = key then v else findField key fields := rfl

theorem lookup_insertField {key k : String} {v : Json} {fields : List (String × Json)} :
    lookup key (insertField k v fields) = if k = key then some v else lookup key fields := by
  induction fields with
  | nil =>
      by_cases h : k = key <;> simp [insertField, lookup, h]
  | cons g fields ih =>
      simp only [insertField]
      split
      · by_cases h : k = key <;> simp [lookup, h]
      · split
        · rename_i heq
          by_cases h : k = key
          · simp [lookup, h]
          · have hg : ¬ g.1 = key := fun hg => h (heq.trans hg)
            simp [lookup, h, hg]
        · rename_i hne
          by_cases hg : g.1 = key
          · have hk : ¬ k = key := fun hk => hne (hk.trans hg.symm)
            simp [lookup, hg, hk]
          · have hcons : ∀ rest, lookup key (g :: rest) = lookup key rest := by
              intro rest
              simp [lookup, hg]
            rw [hcons, hcons, ih]

theorem lookup_sortFields (key : String) (fields : List (String × Option Json)) :
    lookup key (sortFields fields) = findField key fields := by
  induction fields with
  | nil => rfl
  | cons f fields ih =>
      obtain ⟨k, _ | v⟩ := f
      · rw [findField_cons, ← ih]
        simp only [sortFields, lookup, List.find?_filter]
        split
        · rename_i hk
          rw [Option.map_eq_none_iff, List.find?_eq_none]
          intro g _ hg
          simp_all
        · rename_i hk
          congr 2
          funext g
          by_cases hg : g.1 = key
          · have hne : g.1 ≠ k := fun h => hk (h.symm.trans hg)
            simp [hg, Ne.symm hk]
          · simp [hg]
      · rw [sortFields, lookup_insertField, findField_cons, ih]

theorem pmap_member (fields : List (String × Json))
    (h : ∀ f ∈ fields.map (fun f => (f.1, f.2.tree)), f.2.Canonical) :
    (fields.map fun f => (f.1, f.2.tree)).pmap (fun f h => (f.1, Json.mk f.2 h)) h = fields := by
  induction fields with
  | nil => rfl
  | cons f fields ih => exact congrArg (f :: ·) (ih fun g hg => h g (List.mem_cons_of_mem _ hg))

theorem pmap_element (items : List Json) (h : ∀ t ∈ items.map tree, t.Canonical) :
    (items.map tree).pmap Json.mk h = items := by
  induction items with
  | nil => rfl
  | cons j items ih => exact congrArg (j :: ·) (ih fun t ht => h t (List.mem_cons_of_mem _ ht))

@[simp] theorem object_members (fields : List (String × Option Json)) :
    (object fields).members = sortFields fields :=
  pmap_member (sortFields fields) _

@[simp] theorem object_field (fields : List (String × Option Json)) (key : String) :
    (object fields).field key = findField key fields := by
  rw [field, object_members, lookup_sortFields]

@[simp] theorem array_elements (items : List Json) : (array items).elements = items :=
  pmap_element items _

@[simp] theorem array_items (items : List Json) : (array items).items = items :=
  array_elements items

@[simp] theorem isObject_object (fields : List (String × Option Json)) :
    (object fields).isObject = true := rfl
@[simp] theorem isArray_array (items : List Json) : (array items).isArray = true := rfl
@[simp] theorem asBool_bool (b : Bool) : (bool b).asBool = some b := rfl
@[simp] theorem asInt_int (n : JsonInt) : (int n).asInt = some n.value := rfl
@[simp] theorem asFloat_float (x : FiniteDouble) : (float x).asFloat = some x := rfl
@[simp] theorem asStr_str (s : Bytes) : (str s).asStr = some s := rfl

end Json

end Sysal
