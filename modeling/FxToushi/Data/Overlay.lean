import FxToushi.Data.Tree

namespace FxToushi.Data.Node

/-! # Laying one tree over another

Where both have a mapping their entries are put together, and elsewhere the tree
that is laid on top stands in place of the other.
-/

variable {Key Leaf : Type} [DecidableEq Key]

mutual

def overlayNode (own : Option (Node Key Leaf)) : Node Key Leaf → Node Key Leaf
  | .leaf value => .leaf value
  | .map entries =>
    match own with
    | some (.map present) => .map (overlay present entries)
    | _ => .map entries

def overlay (present : List (Key × Node Key Leaf)) :
    List (Key × Node Key Leaf) → List (Key × Node Key Leaf)
  | [] => present
  | (key, value) :: rest =>
    overlay (Dict.assign key (overlayNode (Dict.lookup key present) value) present) rest

end

/-- A leaf stands above the path. -/
def leafAbove : Node Key Leaf → List Key → Bool
  | _, [] => false
  | .leaf _, _ :: _ => true
  | .map entries, key :: rest =>
    match Dict.lookup key entries with
    | some child => leafAbove child rest
    | none => false

/-- What stands in the part stands in the whole. -/
def Within (part whole : Node Key Leaf) : Prop :=
  ∀ path shape, part.see path = some shape → whole.see path = some shape

section Overlay

variable {present entries : Entries Key Leaf} {path : List Key}

@[simp] theorem at?_root (node : Node Key Leaf) : node.at? [] = some node := by
  cases node with
  | leaf value => rfl
  | map entries => rfl

@[simp] theorem at?_leaf_below (value : Leaf) (key : Key) (rest : List Key) :
    (leaf value : Node Key Leaf).at? (key :: rest) = none := rfl

@[simp] theorem overlayNode_none (value : Node Key Leaf) : overlayNode none value = value := by
  cases value with
  | leaf value => rfl
  | map entries => rfl

theorem overlayNode_leaf (old : Leaf) (value : Node Key Leaf) :
    overlayNode (some (.leaf old)) value = value := by
  cases value with
  | leaf value => rfl
  | map entries => rfl

theorem seen_overlayNode (own : Option (Node Key Leaf)) (value : Node Key Leaf) :
    (overlayNode own value).seen = value.seen := by
  cases value with
  | leaf value => rfl
  | map entries =>
    cases own with
    | none => rfl
    | some old =>
      cases old with
      | leaf old => rfl
      | map present => rfl

theorem lookup_eq_none_of_not_mem {key : Key} (absent : key ∉ entries.map Prod.fst) :
    Dict.lookup key entries = none := by
  induction entries with
  | nil => rfl
  | cons entry rest ih =>
    rw [List.map_cons, List.mem_cons, not_or] at absent
    rw [Dict.lookup, if_neg (Ne.symm absent.1), ih absent.2]

theorem lookup_overlay (distinct : (entries.map Prod.fst).Nodup) (key : Key) :
    Dict.lookup key (overlay present entries) =
      match Dict.lookup key entries with
      | some value => some (overlayNode (Dict.lookup key present) value)
      | none => Dict.lookup key present := by
  induction entries generalizing present with
  | nil => rfl
  | cons entry rest ih =>
    obtain ⟨first, value⟩ := entry
    obtain ⟨fresh, distinct⟩ := List.nodup_cons.mp distinct
    rw [overlay, ih distinct, Dict.lookup_assign, Dict.lookup]
    by_cases same : first = key
    · subst same
      rw [lookup_eq_none_of_not_mem fresh]
      simp
    · simp [same]

theorem distinct_of_lookup {key : Key} {child : Node Key Leaf} (below : DistinctBelow entries)
    (found : Dict.lookup key entries = some child) : child.Distinct := by
  induction entries with
  | nil => cases found
  | cons entry rest ih =>
    obtain ⟨first, value⟩ := entry
    rw [Dict.lookup] at found
    split at found
    · cases found
      exact below.1
    · exact ih below.2 found

/-- What stands at a path of the overlay: what is laid there, nothing below a
leaf that is laid, and what stood there otherwise. -/
theorem at?_overlayNode (own : Option (Node Key Leaf)) {value : Node Key Leaf}
    (distinct : value.Distinct) (path : List Key) :
    (overlayNode own value).at? path =
      match value.at? path with
      | some given => some (overlayNode (own.bind (fun old => old.at? path)) given)
      | none => if value.leafAbove path then none else own.bind (fun old => old.at? path) := by
  induction path generalizing own value with
  | nil => simp
  | cons key rest ih =>
    cases value with
    | leaf value => simp [overlayNode, leafAbove]
    | map entries =>
      have replaced : (map entries).at? (key :: rest) =
          match (map entries).at? (key :: rest) with
          | some given => some (overlayNode none given)
          | none => if (map entries).leafAbove (key :: rest) then none else none := by
        cases (map entries).at? (key :: rest) with
        | none => simp
        | some given => simp
      cases own with
      | none => exact replaced
      | some old =>
        cases old with
        | leaf old => exact replaced
        | map present =>
          rw [overlayNode, at?, lookup_overlay distinct.1, Option.bind_some, at?, at?,
            leafAbove]
          cases found : Dict.lookup key entries with
          | none => rfl
          | some child => exact ih _ (distinct_of_lookup distinct.2 found)

theorem see_overlayNode (old : Node Key Leaf) {value : Node Key Leaf} (distinct : value.Distinct)
    (path : List Key) :
    (overlayNode (some old) value).see path =
      match value.see path with
      | some shape => some shape
      | none => if value.leafAbove path then none else old.see path := by
  rw [see, at?_overlayNode _ distinct, see, Option.bind_some]
  cases value.at? path with
  | some given => simp [seen_overlayNode]
  | none =>
    simp only [Option.map_none]
    split
    · rfl
    · rfl

theorem exists_of_leafAbove {node : Node Key Leaf} (above : node.leafAbove path = true) :
    ∃ front rest value, path = front ++ rest ∧ rest ≠ [] ∧
      node.see front = some (.leaf value) := by
  induction path generalizing node with
  | nil =>
    rw [leafAbove] at above
    cases above
  | cons key path ih =>
    cases node with
    | leaf value => exact ⟨[], key :: path, value, rfl, List.cons_ne_nil _ _, rfl⟩
    | map entries =>
      rw [leafAbove] at above
      split at above
      · rename_i child found
        obtain ⟨front, rest, value, rfl, below, leafAt⟩ := ih above
        refine ⟨key :: front, rest, value, rfl, below, ?_⟩
        rw [see_map, found, Option.bind_some, leafAt]
      · cases above

theorem leafAbove_of_at? {node child : Node Key Leaf} (stands : node.at? path = some child) :
    node.leafAbove path = false := by
  cases above : node.leafAbove path with
  | false => rfl
  | true =>
    obtain ⟨front, rest, value, rfl, below, leafAt⟩ := exists_of_leafAbove above
    have nothing := see_below_leaf leafAt below
    rw [see, stands] at nothing
    cases nothing

theorem distinct_of_at? {node child : Node Key Leaf} (distinct : node.Distinct)
    (stands : node.at? path = some child) : child.Distinct := by
  induction path generalizing node with
  | nil =>
    rw [at?_root] at stands
    cases stands
    exact distinct
  | cons key rest ih =>
    cases node with
    | leaf value => cases stands
    | map entries =>
      obtain ⟨next, found, below⟩ := Option.bind_eq_some_iff.mp stands
      exact ih (distinct_of_lookup distinct.2 found) below

theorem same_leaf_iff {value : Leaf} {node : Node Key Leaf} :
    (leaf value).Same node ↔ node = .leaf value := by
  constructor
  · intro same
    have root := same []
    cases node with
    | leaf other =>
      cases root
      rfl
    | map entries => cases root
  · intro same path
    rw [same]

theorem same_overlayNode_iff (old : Node Key Leaf) {value : Node Key Leaf}
    (distinct : value.Distinct) :
    (overlayNode (some old) value).Same old ↔ value.Within old := by
  constructor
  · intro same path shape seenAt
    rw [← same path, see_overlayNode old distinct, seenAt]
  · intro within path
    rw [see_overlayNode old distinct]
    cases seenAt : value.see path with
    | some shape => exact (within path shape seenAt).symm
    | none =>
      cases above : value.leafAbove path with
      | false => rfl
      | true =>
        obtain ⟨front, rest, leaf, rfl, below, leafAt⟩ := exists_of_leafAbove above
        exact (see_below_leaf (within _ _ leafAt) below).symm

end Overlay

/-! ## Overlays one after another -/

section Overlays

variable {present : Entries Key Leaf} {layers : List (Entries Key Leaf)}

/-- What a layer says of a path: what stands there, or that nothing does below a leaf. -/
def told (layer : Entries Key Leaf) (path : List Key) : Option (Option (Shape Leaf)) :=
  match (map layer).see path with
  | some shape => some (some shape)
  | none => if (map layer).leafAbove path then some none else none

theorem see_overlay {layer : Entries Key Leaf} (distinct : (map layer).Distinct)
    (path : List Key) :
    (map (overlay present layer)).see path = (told layer path).getD ((map present).see path) := by
  have seen := see_overlayNode (map present) distinct path
  rw [overlayNode] at seen
  rw [seen, told]
  cases (map layer).see path with
  | some shape => rfl
  | none =>
    dsimp only
    split
    · rfl
    · rfl

theorem see_overlays (distinct : ∀ layer ∈ layers, (map layer).Distinct) (path : List Key) :
    (map (layers.foldl overlay present)).see path =
      (layers.reverse.findSome? (fun layer => told layer path)).getD ((map present).see path) := by
  induction layers using List.reverseRecOn with
  | nil => rfl
  | append_singleton layers layer ih =>
    have before := ih fun other member => distinct other (List.mem_append_left _ member)
    have last := distinct layer (List.mem_append_right _ (List.mem_singleton_self layer))
    rw [List.foldl_append, List.foldl_cons, List.foldl_nil, see_overlay last, before,
      List.reverse_append, List.reverse_singleton, List.singleton_append, List.findSome?_cons]
    cases told layer path with
    | some shown => rfl
    | none => rfl

end Overlays

end FxToushi.Data.Node
