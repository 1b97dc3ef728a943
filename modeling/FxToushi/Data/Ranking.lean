import Mathlib.Data.List.Chain
import Mathlib.Data.List.Sort

namespace FxToushi.Data

/-! # Lists and their neighbours

What is checked of each element and the one after it, and what a list that is in
order is: sorted already, and strictly in order when nothing is held twice.
-/

variable {Item : Type*}

theorem isChain_iff_pairs {related : Item → Item → Prop} (items : List Item) :
    items.IsChain related ↔ ∀ pair ∈ items.zip items.tail, related pair.1 pair.2 := by
  induction items with
  | nil => simp
  | cons first rest ih =>
    cases rest with
    | nil => simp
    | cons second rest =>
      rw [List.isChain_cons_cons, ih]
      simp

theorem pairwise_lt_iff [PartialOrder Item] (items : List Item) :
    items.Pairwise (· < ·) ↔ items.IsChain (· ≤ ·) ∧ items.Nodup := by
  rw [List.isChain_iff_pairwise, List.Nodup, ← List.pairwise_and_iff]
  simp only [lt_iff_le_and_ne]

theorem mergeSort_of_isChain [LinearOrder Item] {items : List Item}
    (ascending : items.IsChain (· ≤ ·)) : items.mergeSort = items :=
  List.mergeSort_eq_self _ (List.isChain_iff_pairwise.mp ascending)

end FxToushi.Data
