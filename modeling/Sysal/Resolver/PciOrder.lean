import Mathlib.Data.Prod.Lex
import Mathlib.Data.Sum.Order
import Sysal.Foundation.StrictWeakOrder
import Sysal.Resolver.AcceleratorSelection

/-!
# The order of CUDA devices by PCI address

The comparator behind `CUDA_DEVICE_ORDER=PCI_BUS_ID` compares addresses field by field, puts a device
without an address behind every device with one, and compares positions where both addresses are
missing.

* `pciBefore_iff`: it compares keys of a linear order;
* `pciOrder_spec`: it is a strict weak order, and what any sort by it does.
-/

namespace Sysal.AcceleratorSelection

/-- The fields of an address in the order they are compared in. -/
def pciFields (address : PciAddress) : ℕ ×ₗ ℕ ×ₗ ℕ ×ₗ ℕ :=
  toLex (address.domain.toNat,
    toLex (address.bus.toNat, toLex (address.device.toNat, address.function.toNat)))

/-- The address of the device at a position. -/
def addressAt (devices : Accelerators) (index : ℕ) : Option PciAddress :=
  (deviceAt devices index).pciAddress

/-- What the comparator compares: the address, or behind all addresses the position. -/
def pciKey (devices : Accelerators) (index : ℕ) : (ℕ ×ₗ ℕ ×ₗ ℕ ×ₗ ℕ) ⊕ₗ ℕ :=
  match addressAt devices index with
  | some address => toLex (Sum.inl (pciFields address))
  | none => toLex (Sum.inr index)

theorem pciFields_lt_iff {a b : PciAddress} :
    pciFields a < pciFields b ↔
      a.domain < b.domain ∨ a.domain = b.domain ∧
        (a.bus < b.bus ∨ a.bus = b.bus ∧
          (a.device < b.device ∨ a.device = b.device ∧ a.function < b.function)) := by
  rw [pciFields, pciFields, Prod.Lex.toLex_lt_toLex, Prod.Lex.toLex_lt_toLex,
    Prod.Lex.toLex_lt_toLex]
  simp only [UInt16.lt_iff_toNat_lt, UInt8.lt_iff_toNat_lt, UInt16.toNat_inj, UInt8.toNat_inj]

/-- The comparator compares keys. -/
theorem pciBefore_iff (devices : Accelerators) (left right : ℕ) :
    pciBefore devices left right = true ↔ pciKey devices left < pciKey devices right := by
  rw [pciBefore, pciKey, pciKey, addressAt, addressAt]
  cases (deviceAt devices left).pciAddress with
  | some a =>
      cases (deviceAt devices right).pciAddress with
      | some b =>
          dsimp only
          rw [Sum.Lex.inl_lt_inl_iff, pciFields_lt_iff]
          simp
      | none => exact iff_of_true rfl (Sum.Lex.inl_lt_inr _ _)
  | none =>
      cases (deviceAt devices right).pciAddress with
      | some b => exact iff_of_false (by simp) Sum.Lex.not_inr_lt_inl
      | none =>
          dsimp only
          rw [Sum.Lex.inr_lt_inr_iff, decide_eq_true_eq]

/-- The comparator meets the requirement of `std::sort`. -/
theorem pciBefore_strictWeakOrder (devices : Accelerators) : StrictWeakOrder (pciBefore devices) :=
  StrictWeakOrder.of_key (pciKey devices) (pciBefore_iff devices)

/-- Positions in PCI order: the devices with an address by address, then the others by position. -/
structure InPciOrder (devices : Accelerators) (physical sorted : DeviceIndices) : Prop where
  perm : sorted.Perm physical
  parts : ∃ addressed others, sorted = addressed ++ others ∧
    (∀ i ∈ addressed, ∃ a, addressAt devices i = some a) ∧
    (∀ i ∈ others, addressAt devices i = none) ∧
    (addressed.Pairwise fun i j => ∀ a b, addressAt devices i = some a →
      addressAt devices j = some b → pciFields a ≤ pciFields b) ∧
    others.Pairwise (· ≤ ·) ∧ (physical.Nodup → others.Pairwise (· < ·))

/-- A sort by the comparator puts positions in PCI order. -/
theorem inPciOrder_of_sorts {devices : Accelerators} {physical sorted : DeviceIndices}
    (h : Sorts (pciBefore devices) physical sorted) : InPciOrder devices physical sorted := by
  have hkeys : sorted.Pairwise fun i j => pciKey devices i ≤ pciKey devices j := by
    refine h.ordered.imp fun {i j} hij => ?_
    rw [← not_lt, ← pciBefore_iff, hij]
    decide
  have hsplit := h.split (p := fun i => (addressAt devices i).isSome) (by
    intro i j hi hj
    obtain ⟨b, hb⟩ := Option.isSome_iff_exists.mp hj
    rw [Option.isSome_eq_false_iff, Option.isNone_iff_eq_none] at hi
    rw [pciBefore_iff, pciKey, pciKey, hb, hi]
    exact Sum.Lex.inl_lt_inr _ _)
  have hnone : ∀ i ∈ sorted.filter (fun i => !(addressAt devices i).isSome),
      addressAt devices i = none := by
    intro i hi
    simpa using (List.mem_filter.mp hi).2
  have hothers : (sorted.filter fun i => !(addressAt devices i).isSome).Pairwise (· ≤ ·) := by
    refine (hkeys.filter _).imp_of_mem fun {i j} hi hj hij => ?_
    rw [pciKey, pciKey, hnone i hi, hnone j hj] at hij
    exact Sum.Lex.inr_le_inr_iff.mp hij
  refine ⟨h.perm, _, _, hsplit, ?_, hnone, ?_, hothers, fun hnodup => ?_⟩
  · intro i hi
    exact Option.isSome_iff_exists.mp (List.mem_filter.mp hi).2
  · refine (hkeys.filter _).imp fun {i j} hij a b ha hb => ?_
    rw [pciKey, pciKey, ha, hb] at hij
    exact Sum.Lex.inl_le_inl_iff.mp hij
  · have hdistinct := (h.perm.nodup_iff.mpr hnodup).filter fun i => !(addressAt devices i).isSome
    exact hothers.imp₂ (fun _ _ => lt_of_le_of_ne) hdistinct

/-- **The comparator is a strict weak order**, a sort by it exists, and every sort of the physical
devices by it, however it treats devices of one address, puts them in PCI order. -/
theorem pciOrder_spec (devices : Accelerators) (physical : DeviceIndices) :
    StrictWeakOrder (pciBefore devices) ∧
      Sorts (pciBefore devices) physical (sortBy (pciBefore devices) physical) ∧
      ∀ sorted, Sorts (pciBefore devices) physical sorted → InPciOrder devices physical sorted :=
  ⟨pciBefore_strictWeakOrder devices, (pciBefore_strictWeakOrder devices).sorts_mergeSort physical,
    fun _ => inPciOrder_of_sorts⟩

end Sysal.AcceleratorSelection
