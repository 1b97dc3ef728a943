import Mathlib.Algebra.BigOperators.Group.List.Basic
import Mathlib.Algebra.Ring.Nat

namespace FxToushi.Data

/-! # Products of lists

One value of each list in all ways.  Nested loops take them in this order: the value
of the last list changes first.
-/

variable {Item Key : Type*}

/-- `itertools.product(*lists)`. -/
def choices : List (List Item) → List (List Item)
  | [] => [[]]
  | values :: rest => values.flatMap fun value => (choices rest).map fun combo => value :: combo

variable {lists : List (List Item)}

theorem mem_choices_iff {combo : List Item} :
    combo ∈ choices lists ↔ List.Forall₂ (fun value values => value ∈ values) combo lists := by
  induction lists generalizing combo with
  | nil => rw [choices, List.mem_singleton, List.forall₂_nil_right_iff]
  | cons values rest ih =>
    rw [choices, List.mem_flatMap, List.forall₂_cons_right_iff]
    constructor
    · rintro ⟨value, member, inRest⟩
      obtain ⟨tail, chosen, rfl⟩ := List.mem_map.mp inRest
      exact ⟨value, tail, member, ih.mp chosen, rfl⟩
    · rintro ⟨value, tail, member, chosen, rfl⟩
      exact ⟨value, member, List.mem_map.mpr ⟨tail, ih.mpr chosen, rfl⟩⟩

theorem length_choices (lists : List (List Item)) :
    (choices lists).length = (lists.map List.length).prod := by
  induction lists with
  | nil => rfl
  | cons values rest ih =>
    simp only [choices, List.length_flatMap, List.length_map, ih, List.map_const',
      List.sum_replicate_nat, List.map_cons, List.prod_cons]

theorem pairwise_choices {before : Item → Item → Prop}
    (ordered : ∀ values ∈ lists, values.Pairwise before) :
    (choices lists).Pairwise (List.Lex before) := by
  induction lists with
  | nil => exact List.pairwise_singleton _ _
  | cons values rest ih =>
    obtain ⟨first, later⟩ := List.forall_mem_cons.mp ordered
    rw [choices, List.pairwise_flatMap]
    constructor
    · intro value _
      rw [List.pairwise_map]
      exact (ih later).imp fun less => .cons less
    · refine first.imp fun less left inLeft right inRight => ?_
      obtain ⟨leftTail, -, rfl⟩ := List.mem_map.mp inLeft
      obtain ⟨rightTail, -, rfl⟩ := List.mem_map.mp inRight
      exact .rel less

theorem choices_map {Image : Type*} (image : Item → Image) (lists : List (List Item)) :
    choices (lists.map fun values => values.map image) =
      (choices lists).map fun combo => combo.map image := by
  induction lists with
  | nil => rfl
  | cons values rest ih =>
    simp [choices, ih, List.flatMap_map, List.map_flatMap, Function.comp_def]

/-! ## Loops over the lists -/

/-- The entries that one loop after the other puts behind those of the loops around it. -/
def nested (bases : List (List (Key × Item))) (fields : List (Key × List Item)) :
    List (List (Key × Item)) :=
  fields.foldl
    (fun bases field => bases.flatMap fun base => field.2.map fun value =>
      base ++ [(field.1, value)])
    bases

theorem nested_eq (bases : List (List (Key × Item))) (fields : List (Key × List Item)) :
    nested bases fields = bases.flatMap fun base =>
      (choices (fields.map Prod.snd)).map fun combo => base ++ (fields.map Prod.fst).zip combo := by
  induction fields generalizing bases with
  | nil => simp [nested, choices]
  | cons field rest ih =>
    rw [nested, List.foldl_cons, ← nested, ih, List.flatMap_assoc]
    refine List.flatMap_congr fun base _ => ?_
    simp [choices, List.flatMap_map, List.map_flatMap, Function.comp_def]

end FxToushi.Data
