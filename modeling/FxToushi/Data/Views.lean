import FxToushi.Data.Dict
import Mathlib.Data.List.Perm.Basic

namespace FxToushi.Data

/-! # Dictionaries as mappings

A dictionary seen as the function from its keys.  The order of the entries is
not part of the view, so assignments that touch different keys, or agree on the
value, can be made in any order.
-/

/-- The view of a mapping with one key amended, from a default where it is absent. -/
def amendAt {Key Image : Type*} [DecidableEq Key] (key : Key) (default : Image)
    (change : Image → Image) (view : Key → Option Image) : Key → Option Image :=
  Function.update view key (some (change ((view key).getD default)))

theorem amendAt_comm {Key Image : Type*} [DecidableEq Key] {first second : Key}
    (apart : first ≠ second) (default : Image) (change other : Image → Image)
    (view : Key → Option Image) :
    amendAt second default other (amendAt first default change view) =
      amendAt first default change (amendAt second default other view) := by
  unfold amendAt
  rw [Function.update_of_ne apart.symm, Function.update_of_ne apart,
    Function.update_comm apart]

theorem amendAt_amendAt {Key Image : Type*} [DecidableEq Key] (key : Key) (default : Image)
    (change other : Image → Image) (view : Key → Option Image) :
    amendAt key default other (amendAt key default change view) =
      amendAt key default (fun image => other (change image)) view := by
  unfold amendAt
  rw [Function.update_self, Option.getD_some, Function.update_idem]

namespace Dict

variable {Key Value Image : Type*} [DecidableEq Key]

/-- The mapping of a dictionary, its values seen through `look`. -/
def seen (look : Value → Image) (dict : Dict Key Value) : Key → Option Image :=
  fun key => (dict.get? key).map look

theorem seen_set (look : Value → Image) (dict : Dict Key Value) (key : Key) (value : Value) :
    (dict.set key value).seen look = Function.update (dict.seen look) key (some (look value)) := by
  funext other
  by_cases same : key = other
  · subst same
    rw [Function.update_self, seen, get?_set, if_pos rfl, Option.map_some]
  · rw [Function.update_of_ne (Ne.symm same), seen, get?_set, if_neg same, seen]

theorem seen_comp {Final : Type*} {look : Value → Image} {dict other : Dict Key Value}
    (same : dict.seen look = other.seen look) (finish : Image → Final) :
    dict.seen (fun value => finish (look value)) =
      other.seen (fun value => finish (look value)) := by
  funext key
  have here := congrFun same key
  unfold seen at here ⊢
  rw [← Function.comp_def, ← Option.map_map, here, Option.map_map]

theorem seen_mapValues {Final : Type*} (look : Image → Final) (dict : Dict Key Value)
    (change : Value → Image) :
    (dict.mapValues change).seen look = dict.seen (fun value => look (change value)) := by
  funext key
  rw [seen, get?_mapValues, Option.map_map]
  rfl

/-- `dict.setdefault(key, default)` with the value there changed. -/
def amend (dict : Dict Key Value) (key : Key) (default : Value) (change : Value → Value) :
    Dict Key Value :=
  dict.set key (change ((dict.get? key).getD default))

theorem seen_amend {look : Value → Image} {change : Value → Value} {changeSeen : Image → Image}
    (compatible : ∀ value, look (change value) = changeSeen (look value)) (dict : Dict Key Value)
    (key : Key) (default : Value) :
    (dict.amend key default change).seen look =
      amendAt key (look default) changeSeen (dict.seen look) := by
  have shown : look ((dict.get? key).getD default) =
      (dict.seen look key).getD (look default) := by
    unfold seen
    cases dict.get? key <;> rfl
  unfold amend amendAt
  rw [seen_set, compatible, shown]

theorem seen_amend_congr {look : Value → Image} {change otherChange : Value → Value}
    (alike : ∀ value other, look value = look other →
      look (change value) = look (otherChange other))
    {dict other : Dict Key Value} (same : dict.seen look = other.seen look) (key : Key)
    (default : Value) :
    (dict.amend key default change).seen look =
      (other.amend key default otherChange).seen look := by
  have here := congrFun same key
  have amended : look (change ((dict.get? key).getD default)) =
      look (otherChange ((other.get? key).getD default)) := by
    apply alike
    unfold seen at here
    cases found : dict.get? key <;> cases otherFound : other.get? key <;>
      simp_all
  unfold amend
  rw [seen_set, seen_set, amended, same]

variable {Item : Type*} {key : Item → Key} {value : Item → Value}

theorem seen_setAll (look : Value → Image) (dict : Dict Key Value) (items : List Item) :
    (dict.setAll key value items).seen look =
      items.foldl (fun view item => Function.update view (key item) (some (look (value item))))
        (dict.seen look) :=
  (List.foldl_hom (seen look) fun dict item =>
    (seen_set look dict (key item) (value item)).symm).symm

theorem seen_setAll_congr {look : Value → Image} {dict other : Dict Key Value}
    (same : dict.seen look = other.seen look) (items : List Item) :
    (dict.setAll key value items).seen look = (other.setAll key value items).seen look := by
  rw [seen_setAll, seen_setAll, same]

theorem seen_setAll_perm {items others : List Item} (perm : items.Perm others)
    (agree : ∀ first ∈ items, ∀ second ∈ items, key first = key second →
      value first = value second) (look : Value → Image) (dict : Dict Key Value) :
    (dict.setAll key value items).seen look = (dict.setAll key value others).seen look := by
  rw [seen_setAll, seen_setAll]
  apply perm.foldl_eq'
  intro first listed second otherListed view
  by_cases same : key first = key second
  · rw [same, agree first listed second otherListed same]
  · rw [Function.update_comm same]

end Dict

end FxToushi.Data
