import Sysal.Foundation.JsonCodec

/-!
# What a decoder can return

A decoder that returns has checked what it read.  `Yields` says which property every value has that a
decoder returns, whatever the document, and composes along the accesses a decoder is made of.

* `Yields.bind`, `Yields.skip`, `Yields.pure`: the rules for a record, field by field;
* `Yields.read`, `Yields.readOptional`, `Yields.readOr`, `Yields.readItems`, `Yields.readArray`: the
  rules for the accesses.
-/

namespace Sysal.Json

variable {α β : Type}

/-- Every value a decoder returns has a property. -/
def Yields (P : α → Prop) (d : Decode α) : Prop := ∀ a, d = .ok a → P a

namespace Yields

theorem pure {P : α → Prop} {a : α} (h : P a) : Yields P (pure a) := by
  intro b hb
  cases hb
  exact h

theorem error {P : α → Prop} (e : DecodeError) : Yields P (.error e) := by
  intro a ha
  cases ha

theorem bind {P : α → Prop} {Q : β → Prop} {d : Decode α} {f : α → Decode β} (hd : Yields P d)
    (hf : ∀ a, P a → Yields Q (f a)) : Yields Q (d >>= f) := by
  intro b hb
  cases d with
  | error e => cases hb
  | ok a => exact hf a (hd a rfl) b hb

/-- A field about which nothing is known. -/
theorem skip {Q : β → Prop} {d : Decode α} {f : α → Decode β} (hf : ∀ a, Yields Q (f a)) :
    Yields Q (d >>= f) :=
  bind (P := fun _ => True) (fun _ _ => trivial) fun a _ => hf a

theorem map {P : α → Prop} {Q : β → Prop} {d : Decode α} {f : α → β} (hd : Yields P d)
    (hf : ∀ a, P a → Q (f a)) : Yields Q (d.map f) := by
  intro b hb
  cases d with
  | error e => cases hb
  | ok a =>
      cases hb
      exact hf a (hd a rfl)

theorem mono {P Q : α → Prop} {d : Decode α} (hd : Yields P d) (h : ∀ a, P a → Q a) : Yields Q d :=
  fun a ha => h a (hd a ha)

variable {P : α → Prop} {decode : Json → Decode α}

theorem read (h : ∀ j, Yields P (decode j)) (j : Json) (key : String) :
    Yields P (j.read decode key) :=
  skip fun v => h v

theorem readPresent (h : ∀ j, Yields P (decode j)) (o : Option Json) :
    Yields (fun o => ∀ a ∈ o, P a) (readPresent decode o) := by
  cases o with
  | none => exact pure fun a ha => by cases ha
  | some v =>
      refine bind (h v) fun a ha => pure fun b hb => ?_
      cases hb
      exact ha

theorem readOptional (h : ∀ j, Yields P (decode j)) (j : Json) (key : String) :
    Yields (fun o => ∀ a ∈ o, P a) (j.readOptional decode key) :=
  readPresent h _

theorem readOr {fallback : α} (h : ∀ j, Yields P (decode j)) (hfallback : P fallback) (j : Json)
    (key : String) : Yields P (j.readOr decode fallback key) := by
  refine bind (readOptional h j key) fun o ho => pure ?_
  cases o with
  | none => exact hfallback
  | some a => exact ho a rfl

theorem mapM (h : ∀ j, Yields P (decode j)) (items : List Json) :
    Yields (fun l => ∀ a ∈ l, P a) (items.mapM decode) := by
  induction items with
  | nil => exact pure fun a ha => absurd ha List.not_mem_nil
  | cons j items ih =>
      rw [List.mapM_cons]
      refine bind (h j) fun a ha => bind ih fun l hl => pure fun b hb => ?_
      rcases List.mem_cons.mp hb with rfl | hb
      · exact ha
      · exact hl b hb

theorem readItems (h : ∀ j, Yields P (decode j)) (j : Json) :
    Yields (fun l => ∀ a ∈ l, P a) (j.readItems decode) :=
  mapM h _

theorem readArray (h : ∀ j, Yields P (decode j)) (j : Json) :
    Yields (fun l => ∀ a ∈ l, P a) (j.readArray decode) := by
  rw [Json.readArray]
  split
  · exact mapM h _
  · exact error _

end Yields

end Sysal.Json
