import FxToushi.Data.Tree
import Mathlib.Data.String.Basic

namespace FxToushi.Config

open Data

/-! # Dotted paths

A configuration is a tree of mappings whose keys may be any values.  The diff
and the registry name what stands in it by texts in which the keys are joined
by dots.
-/

/-- A text, or another value, of which `str` makes a text. -/
inductive ConfigKey where
  | str (text : String)
  | other (text : String)
deriving Repr, DecidableEq

def ConfigKey.text : ConfigKey → String
  | .str text => text
  | .other text => text

abbrev ConfigNode (Leaf : Type) := Node ConfigKey Leaf

abbrev ConfigMapping (Leaf : Type) := List (ConfigKey × ConfigNode Leaf)

/-- A lead that is empty counts as none. -/
def joinKey (lead : String) (key : ConfigKey) : String :=
  if lead = "" then key.text else lead ++ "." ++ key.text

def dottedFrom (lead : String) : List ConfigKey → String
  | [] => lead
  | key :: rest => dottedFrom (joinKey lead key) rest

def dotted (path : List ConfigKey) : String := dottedFrom "" path

/-- `path.split(".")`, as keys. -/
def splitPath (path : String) : List ConfigKey :=
  (path.toList.splitOn '.').map (fun chars => .str (String.ofList chars))

/-! ## Paths that are told by their dotted text -/

def PlainKey (key : ConfigKey) : Prop := ∃ text, key = .str text ∧ '.' ∉ text.toList

/-- Every key is a text without a dot, and below the empty key at the top there
is nothing. -/
structure PlainPath (path : List ConfigKey) : Prop where
  keys : ∀ key ∈ path, PlainKey key
  top : ∀ rest, path = .str "" :: rest → rest = []

theorem joinKey_ne_empty {lead : String} (nonempty : lead ≠ "") (key : ConfigKey) :
    joinKey lead key ≠ "" := by
  rw [joinKey, if_neg nonempty]
  intro empty
  have chars := congrArg String.toList empty
  simp [String.toList_append] at chars

theorem toList_dottedFrom {lead : String} (nonempty : lead ≠ "") (path : List ConfigKey) :
    (dottedFrom lead path).toList =
      ['.'].intercalate (lead.toList :: path.map (fun key => key.text.toList)) := by
  induction path generalizing lead with
  | nil => simp [dottedFrom]
  | cons key rest ih =>
    rw [dottedFrom, ih (joinKey_ne_empty nonempty key), joinKey, if_neg nonempty, List.map_cons,
      List.intercalate_cons_cons]
    cases rest with
    | nil => simp [String.toList_append]
    | cons next rest =>
      rw [List.map_cons, List.intercalate_cons_cons, List.intercalate_cons_cons]
      simp [String.toList_append]

/-- A text that starts with no dot is put together again from its parts. -/
theorem dotted_splitPath {key : String}
    (starts : ∀ next rest, splitPath key ≠ .str "" :: next :: rest) :
    dotted (splitPath key) = key := by
  have split : ['.'].intercalate (key.toList.splitOn '.') = key.toList :=
    List.intercalate_splitOn _
  obtain ⟨first, others, parts⟩ :=
    List.exists_cons_of_ne_nil (List.splitOn_ne_nil '.' key.toList)
  rw [parts] at split
  rw [splitPath, parts, List.map_cons] at starts ⊢
  have only : joinKey "" (.str (String.ofList first)) = String.ofList first := if_pos rfl
  rw [dotted, dottedFrom, only]
  apply String.toList_injective
  by_cases empty : String.ofList first = ""
  · cases others with
    | nil =>
      rw [← split]
      simp [dottedFrom]
    | cons next rest =>
      rw [empty] at starts
      exact absurd rfl (starts _ _)
  · rw [toList_dottedFrom empty, ← split]
    congr 1
    simp [ConfigKey.text, Function.comp_def]

/-- The dotted text of a plain path splits into its keys. -/
theorem splitPath_dotted {path : List ConfigKey} (plain : PlainPath path) (nonempty : path ≠ []) :
    splitPath (dotted path) = path := by
  obtain ⟨key, rest, rfl⟩ := List.exists_cons_of_ne_nil nonempty
  have texts : ∀ keys : List ConfigKey, (∀ key ∈ keys, PlainKey key) →
      (keys.map (fun key => key.text.toList)).map
        (fun chars => ConfigKey.str (String.ofList chars)) = keys := by
    intro keys every
    induction keys with
    | nil => rfl
    | cons key rest ih =>
      obtain ⟨⟨text, rfl, -⟩, later⟩ := List.forall_mem_cons.mp every
      rw [List.map_cons, List.map_cons, ih later]
      simp [ConfigKey.text]
  have noDots : ∀ chars ∈ (key :: rest).map (fun key => key.text.toList), '.' ∉ chars := by
    intro chars member
    obtain ⟨other, inPath, rfl⟩ := List.mem_map.mp member
    obtain ⟨text, rfl, noDot⟩ := plain.keys other inPath
    exact noDot
  have joined : (dotted (key :: rest)).toList =
      ['.'].intercalate ((key :: rest).map (fun key => key.text.toList)) := by
    by_cases empty : key.text = ""
    · obtain ⟨text, rfl, -⟩ := plain.keys key List.mem_cons_self
      obtain rfl : text = "" := empty
      obtain rfl := plain.top rest rfl
      rfl
    · have first : joinKey "" key = key.text := if_pos rfl
      rw [dotted, dottedFrom, first, toList_dottedFrom empty, List.map_cons]
  rw [splitPath, joined, List.splitOn_intercalate _ noDots (by simp), texts _ plain.keys]

end FxToushi.Config
