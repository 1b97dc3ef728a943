import FxToushi.Data.Fallible
import FxToushi.Py.Value
import Mathlib.Data.List.Infix

namespace FxToushi.Py

open Data

/-! # Containers of unknown shape -/

theorem Mapping.get?_set (mapping : Mapping) (key other : String) (value : Value) :
    (Mapping.set mapping key value).get? other =
      if other = key then some value else mapping.get? other := by
  unfold Mapping.get?
  induction mapping with
  | nil =>
    by_cases same : other = key
    · simp [Mapping.set, same]
    · simp [Mapping.set, same, Ne.symm same]
  | cons entry rest ih =>
    by_cases here : entry.1 = key
    · subst here
      by_cases same : other = entry.1
      · simp [Mapping.set, same]
      · simp [Mapping.set, same, Ne.symm same]
    · by_cases same : other = key
      · subst same
        simpa [Mapping.set, here] using ih
      · by_cases first : entry.1 = other
        · simp [Mapping.set, first, same]
        · simpa [Mapping.set, here, first, same] using ih

theorem Mapping.exists_get?_iff (mapping : Mapping) (key : String) :
    (∃ value, mapping.get? key = some value) ↔ key ∈ mapping.map Prod.fst := by
  rw [← Option.isSome_iff_exists, Mapping.get?, Option.isSome_map, List.find?_isSome]
  simp

def Value.isText (key : String) : Value → Bool
  | .str text => text == key
  | _ => false

/-- `container[key] if key in container`: a list or a text can contain the key
but has no entry for it. -/
def lookup (container : Value) (key : String) : Except PyError (Option Value) :=
  match container with
  | .map entries => .ok (Mapping.get? entries key)
  | .list items => if items.any (Value.isText key) then .error .typeError else .ok none
  | .str text => if key.toList <:+: text.toList then .error .typeError else .ok none
  | _ => .error .typeError

def hashable : Value → Bool
  | .list _ => false
  | .map _ => false
  | _ => true

/-- An item of the sequence `dict` is given. -/
def entryOf (item : Value) : Except PyError (Value × Value) := do
  match ← iterate item with
  | [key, value] => if hashable key then return (key, value) else throw .typeError
  | _ => throw .valueError

/-- `dict(value)`, with the entries under text keys: no other key is looked up. -/
def dictOf : Value → Except PyError Mapping
  | .map entries => .ok entries
  | value => do
      let pairs ← tryMap entryOf (← iterate value)
      return pairs.foldl
        (fun entries pair => match pair.1 with
          | .str key => Mapping.set entries key pair.2
          | _ => entries) []

end FxToushi.Py
