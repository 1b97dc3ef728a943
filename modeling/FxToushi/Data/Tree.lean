import FxToushi.Data.Dict
import Mathlib.Data.List.Infix

namespace FxToushi.Data

/-! # Nested mappings

A tree whose inner nodes are mappings.  What stands at a path is a leaf, a
mapping or nothing, and two trees are equal as mappings when they show the same
at every path.
-/

inductive Node (Key Leaf : Type) where
  | leaf (value : Leaf)
  | map (entries : List (Key × Node Key Leaf))

inductive Shape (Leaf : Type) where
  | leaf (value : Leaf)
  | mapping
deriving Repr, DecidableEq

namespace Node

variable {Key Leaf : Type} [DecidableEq Key]

abbrev Entries (Key Leaf : Type) := List (Key × Node Key Leaf)

def seen : Node Key Leaf → Shape Leaf
  | .leaf value => .leaf value
  | .map _ => .mapping

def at? : Node Key Leaf → List Key → Option (Node Key Leaf)
  | node, [] => some node
  | .leaf _, _ :: _ => none
  | .map entries, key :: rest => (Dict.lookup key entries).bind (fun child => at? child rest)

def see (node : Node Key Leaf) (path : List Key) : Option (Shape Leaf) := (node.at? path).map seen

/-- The trees are equal as mappings. -/
def Same (left right : Node Key Leaf) : Prop := ∀ path, left.see path = right.see path

/-! ## What stands above and below -/

section Paths

variable {node : Node Key Leaf} {path rest : List Key} {value : Leaf} {entries : Entries Key Leaf}

@[simp] theorem see_root (node : Node Key Leaf) : node.see [] = some node.seen := by
  cases node with
  | leaf value => rfl
  | map entries => rfl

@[simp] theorem see_leaf_below (value : Leaf) (key : Key) (rest : List Key) :
    (leaf value : Node Key Leaf).see (key :: rest) = none := rfl

theorem see_map (entries : Entries Key Leaf) (key : Key) (rest : List Key) :
    (map entries).see (key :: rest) =
      (Dict.lookup key entries).bind (fun child => child.see rest) := by
  rw [see, at?]
  cases Dict.lookup key entries with
  | none => rfl
  | some child => rfl

theorem at?_append (node : Node Key Leaf) (path rest : List Key) :
    node.at? (path ++ rest) = (node.at? path).bind (fun child => child.at? rest) := by
  induction path generalizing node with
  | nil =>
    cases node with
    | leaf value => rfl
    | map entries => rfl
  | cons key path ih =>
    cases node with
    | leaf value => rfl
    | map entries =>
      rw [List.cons_append, at?, at?]
      cases Dict.lookup key entries with
      | none => rfl
      | some child => exact ih child

theorem see_append (node : Node Key Leaf) (path rest : List Key) :
    node.see (path ++ rest) = (node.at? path).bind (fun child => child.see rest) := by
  rw [see, at?_append]
  cases node.at? path with
  | none => rfl
  | some child => rfl

theorem see_below_leaf (leafAt : node.see path = some (.leaf value)) (below : rest ≠ []) :
    node.see (path ++ rest) = none := by
  obtain ⟨child, found, isLeaf⟩ := Option.map_eq_some_iff.mp leafAt
  obtain ⟨key, later, rfl⟩ := List.exists_cons_of_ne_nil below
  rw [see_append, found]
  cases child with
  | leaf other => rfl
  | map entries => cases isLeaf

theorem see_above {seen : Shape Leaf} (seenAt : node.see (path ++ rest) = some seen)
    (below : rest ≠ []) : node.see path = some .mapping := by
  rw [see_append] at seenAt
  obtain ⟨child, found, seenBelow⟩ := Option.bind_eq_some_iff.mp seenAt
  obtain ⟨key, later, rfl⟩ := List.exists_cons_of_ne_nil below
  rw [see, found]
  cases child with
  | leaf other => cases seenBelow
  | map entries => rfl

theorem eq_of_leaf_above {other : List Key} {seen : Shape Leaf}
    (leafAt : node.see path = some (.leaf value)) (seenAt : node.see other = some seen)
    (above : path <+: other) : path = other := by
  obtain ⟨rest, rfl⟩ := above
  by_cases here : rest = []
  · rw [here, List.append_nil]
  · rw [see_below_leaf leafAt here] at seenAt
    cases seenAt

theorem mapping_of_above {other : List Key} {seen : Shape Leaf}
    (seenAt : node.see other = some seen) (above : path <+: other) (apart : path ≠ other) :
    node.see path = some .mapping := by
  obtain ⟨rest, rfl⟩ := above
  refine see_above seenAt ?_
  rintro rfl
  exact apart (List.append_nil path).symm

end Paths

/-! ## Setting and deleting a path -/

def children : Option (Node Key Leaf) → Entries Key Leaf
  | some (.map entries) => entries
  | _ => []

/-- Mappings are created on the way, also in place of leaves. -/
def setAt (value : Node Key Leaf) : List Key → Entries Key Leaf → Entries Key Leaf
  | [], entries => entries
  | [key], entries => Dict.assign key value entries
  | key :: next :: rest, entries =>
    Dict.assign key (.map (setAt value (next :: rest) (children (Dict.lookup key entries))))
      entries

/-- Nothing happens where nothing stands. -/
def deleteAt : List Key → Entries Key Leaf → Entries Key Leaf
  | [], entries => entries
  | [key], entries => entries.filter (fun entry => !decide (entry.1 = key))
  | key :: next :: rest, entries =>
    match Dict.lookup key entries with
    | some (.map inner) => Dict.assign key (.map (deleteAt (next :: rest) inner)) entries
    | _ => entries

section Updates

variable {path other : List Key} {value : Leaf} {entries : Entries Key Leaf}

/-- What setting a path makes of what stood at another. -/
def effect (path : List Key) (value : Leaf) (other : List Key) (before : Option (Shape Leaf)) :
    Option (Shape Leaf) :=
  if other = path then some (.leaf value)
  else if path <+: other then none
  else if other <+: path then some .mapping
  else before

theorem see_setAt (path other : List Key) (value : Leaf) (entries : Entries Key Leaf)
    (nonempty : path ≠ []) :
    (map (setAt (.leaf value) path entries)).see other =
      effect path value other ((map entries).see other) := by
  induction path generalizing other entries with
  | nil => exact absurd rfl nonempty
  | cons key path ih =>
    cases other with
    | nil =>
      simp only [effect, see_root, seen, List.nil_prefix, if_true]
      rw [if_neg (by simp), if_neg (by simp)]
    | cons first other =>
      cases path with
      | nil =>
        rw [setAt, see_map, Dict.lookup_assign]
        by_cases same : key = first
        · subst same
          cases other with
          | nil => simp [effect, seen]
          | cons second other => simp [effect]
        · simp [effect, same, Ne.symm same, see_map]
      | cons next rest =>
        rw [setAt, see_map, Dict.lookup_assign]
        by_cases same : key = first
        · subst same
          rw [if_pos rfl, Option.bind_some, ih _ _ (by simp), see_map]
          simp only [effect, List.cons.injEq, true_and, List.cons_prefix_cons]
          split
          · rfl
          split
          · rfl
          split
          · rfl
          rename_i _ _ notAbove
          obtain ⟨second, others, rfl⟩ := List.exists_cons_of_ne_nil (l := other)
            (by rintro rfl; exact notAbove List.nil_prefix)
          cases Dict.lookup key entries with
          | none => rfl
          | some child =>
            cases child with
            | leaf old => rfl
            | map inner => rfl
        · simp [effect, same, Ne.symm same, see_map]

theorem lookup_filter_ne (key other : Key) (entries : Entries Key Leaf) :
    Dict.lookup other (entries.filter (fun entry => !decide (entry.1 = key))) =
      if other = key then none else Dict.lookup other entries := by
  induction entries with
  | nil => simp [Dict.lookup]
  | cons entry rest ih =>
    obtain ⟨first, child⟩ := entry
    by_cases deleted : first = key
    · subst deleted
      by_cases same : other = first
      · subst same
        simp only [if_true] at ih
        simp [ih]
      · rw [if_neg same] at ih
        simp [ih, Dict.lookup, same, Ne.symm same]
    · by_cases same : other = key
      · subst same
        simp only [if_true] at ih
        simp [Dict.lookup, deleted, ih]
      · rw [if_neg same] at ih
        simp [Dict.lookup, deleted, same, ih]

theorem see_deleteAt (path other : List Key) (entries : Entries Key Leaf) (nonempty : path ≠ []) :
    (map (deleteAt path entries)).see other =
      if path <+: other then none else (map entries).see other := by
  induction path generalizing other entries with
  | nil => exact absurd rfl nonempty
  | cons key path ih =>
    cases other with
    | nil => simp [seen]
    | cons first other =>
      cases path with
      | nil =>
        rw [deleteAt, see_map, lookup_filter_ne, see_map]
        by_cases same : first = key
        · simp [same]
        · simp [same, Ne.symm same]
      | cons next rest =>
        have unseen : ∀ node : Node Key Leaf, (∀ inner, node ≠ map inner) →
            next :: rest <+: other → node.see other = none := by
          intro node isLeaf below
          obtain ⟨later, rfl⟩ := below
          cases node with
          | leaf old => rfl
          | map inner => exact absurd rfl (isLeaf inner)
        by_cases same : key = first
        · subst same
          rw [deleteAt]
          simp only [List.cons_prefix_cons, true_and]
          split
          · rename_i inner found
            rw [see_map, Dict.lookup_assign, if_pos rfl, Option.bind_some, ih _ _ (by simp),
              see_map, found, Option.bind_some]
          · rename_i notMap
            split
            · rename_i below
              rw [see_map]
              cases found : Dict.lookup key entries with
              | none => rfl
              | some child =>
                refine unseen child (fun inner isMap => ?_) below
                exact notMap inner (by rw [found, isMap])
            · rfl
        · rw [deleteAt]
          simp only [List.cons_prefix_cons, same, false_and, if_false]
          split
          · rw [see_map, Dict.lookup_assign, if_neg same, see_map]
          · rfl

end Updates

/-! ## Patching a tree

The leaves that are gone are deleted, then those that are new or have another
value are set.
-/

def patch (deleted : List (List Key)) (assigned : List (List Key × Leaf))
    (entries : Entries Key Leaf) : Entries Key Leaf :=
  assigned.foldl (fun entries change => setAt (.leaf change.2) change.1 entries)
    (deleted.foldl (fun entries path => deleteAt path entries) entries)

section Patch

variable {deleted : List (List Key)} {assigned : List (List Key × Leaf)}
  {entries : Entries Key Leaf} {other : List Key}

theorem see_deleteAll (nonempty : ∀ path ∈ deleted, path ≠ []) :
    (map (deleted.foldl (fun entries path => deleteAt path entries) entries)).see other =
      if ∃ path ∈ deleted, path <+: other then none else (map entries).see other := by
  induction deleted generalizing entries with
  | nil => simp
  | cons path rest ih =>
    obtain ⟨first, later⟩ := List.forall_mem_cons.mp nonempty
    rw [List.foldl_cons, ih later, see_deleteAt _ _ _ first]
    simp only [List.exists_mem_cons_iff]
    by_cases here : path <+: other
    · simp [here]
    · simp [here]

theorem see_setAll (nonempty : ∀ change ∈ assigned, change.1 ≠ []) :
    (map (assigned.foldl (fun entries change => setAt (.leaf change.2) change.1 entries)
        entries)).see other =
      assigned.foldl (fun before change => effect change.1 change.2 other before)
        ((map entries).see other) := by
  induction assigned generalizing entries with
  | nil => rfl
  | cons change rest ih =>
    obtain ⟨first, later⟩ := List.forall_mem_cons.mp nonempty
    rw [List.foldl_cons, List.foldl_cons, ih later, see_setAt _ _ _ _ first]

end Patch

section Agree

variable {Change Cell : Type*} {apply : Cell → Change → Cell} {changes : List Change}
  {start result : Cell}

theorem foldl_of_idle (idle : ∀ change ∈ changes, ∀ before, apply before change = before) :
    changes.foldl apply start = start := by
  induction changes with
  | nil => rfl
  | cons change rest ih =>
    obtain ⟨first, later⟩ := List.forall_mem_cons.mp idle
    rw [List.foldl_cons, first, ih later]

/-- Where every change that has an effect has the same one, that one is left. -/
theorem foldl_of_agree
    (agree : ∀ change ∈ changes,
      (∀ before, apply before change = result) ∨ ∀ before, apply before change = before)
    (effective : start = result ∨ ∃ change ∈ changes, ∀ before, apply before change = result) :
    changes.foldl apply start = result := by
  induction changes generalizing start with
  | nil =>
    cases effective with
    | inl here => exact here
    | inr later =>
      obtain ⟨change, member, -⟩ := later
      cases member
  | cons change rest ih =>
    obtain ⟨first, later⟩ := List.forall_mem_cons.mp agree
    rw [List.foldl_cons]
    refine ih later ?_
    cases first with
    | inl sets => exact .inl (sets start)
    | inr idle =>
      rw [idle]
      cases effective with
      | inl here => exact .inl here
      | inr found =>
        obtain ⟨other, member, sets⟩ := found
        cases List.mem_cons.mp member with
        | inl same =>
          subst same
          exact .inl ((idle start).symm.trans (sets start))
        | inr inRest => exact .inr ⟨other, inRest, sets⟩

end Agree

/-- The changes between the leaves of two trees. -/
structure LeafChanges (base target : Node Key Leaf) (deleted : List (List Key))
    (assigned : List (List Key × Leaf)) : Prop where
  deleted_iff : ∀ path, path ∈ deleted ↔
    (∃ value, base.see path = some (.leaf value)) ∧ ∀ value, target.see path ≠ some (.leaf value)
  assigned_iff : ∀ path value, (path, value) ∈ assigned ↔
    target.see path = some (.leaf value) ∧ base.see path ≠ some (.leaf value)

/-- Every mapping of the base is one of the target, or stands at or below a leaf
of it, and every mapping of the target without a leaf below is one of the base. -/
structure KeepsMappings (base target : Node Key Leaf) : Prop where
  ofBase : ∀ path, base.see path = some .mapping →
    target.see path = some .mapping ∨
      ∃ above value, above <+: path ∧ target.see above = some (.leaf value)
  ofTarget : ∀ path, target.see path = some .mapping →
    (∀ below value, path <+: below → target.see below ≠ some (.leaf value)) →
    base.see path = some .mapping

namespace LeafChanges

variable {base target : Entries Key Leaf} {deleted : List (List Key)}
  {assigned : List (List Key × Leaf)} {path : List Key} {value : Leaf}

theorem deleted_nonempty (changes : LeafChanges (map base) (map target) deleted assigned) :
    ∀ path ∈ deleted, path ≠ [] := by
  rintro path member rfl
  obtain ⟨⟨value, isLeaf⟩, -⟩ := (changes.deleted_iff []).mp member
  cases isLeaf

theorem assigned_nonempty (changes : LeafChanges (map base) (map target) deleted assigned) :
    ∀ change ∈ assigned, change.1 ≠ [] := by
  rintro ⟨path, value⟩ member rfl
  obtain ⟨isLeaf, -⟩ := (changes.assigned_iff [] value).mp member
  cases isLeaf

theorem see_patch (changes : LeafChanges (map base) (map target) deleted assigned)
    (path : List Key) :
    (map (patch deleted assigned base)).see path =
      assigned.foldl (fun before change => effect change.1 change.2 path before)
        (if ∃ gone ∈ deleted, gone <+: path then none else (map base).see path) := by
  rw [patch, see_setAll changes.assigned_nonempty, see_deleteAll changes.deleted_nonempty]

theorem kept_of_seen (changes : LeafChanges (map base) (map target) deleted assigned)
    {below : List Key} (leafAt : (map base).see below = some (.leaf value))
    (still : ∃ other, (map target).see below = some (.leaf other)) (above : path <+: below) :
    ¬ ∃ gone ∈ deleted, gone <+: path := by
  rintro ⟨gone, member, isAbove⟩
  obtain ⟨⟨old, wasLeaf⟩, noLeaf⟩ := (changes.deleted_iff gone).mp member
  obtain rfl := eq_of_leaf_above wasLeaf leafAt (isAbove.trans above)
  obtain ⟨other, isLeaf⟩ := still
  exact noLeaf other isLeaf

/-- The leaves of the target stand after the patch. -/
theorem see_leaf (changes : LeafChanges (map base) (map target) deleted assigned)
    (leafAt : (map target).see path = some (.leaf value)) :
    (map (patch deleted assigned base)).see path = some (.leaf value) := by
  rw [changes.see_patch]
  have apart : ∀ change ∈ assigned, change.1 ≠ path →
      ∀ before, effect change.1 change.2 path before = before := by
    rintro ⟨other, new⟩ member different before
    obtain ⟨otherLeaf, -⟩ := (changes.assigned_iff other new).mp member
    rw [effect, if_neg (Ne.symm different),
      if_neg (fun above => different (eq_of_leaf_above otherLeaf leafAt above)),
      if_neg (fun above => different (eq_of_leaf_above leafAt otherLeaf above).symm)]
  by_cases unchanged : (map base).see path = some (.leaf value)
  · rw [foldl_of_idle, if_neg (changes.kept_of_seen unchanged ⟨value, leafAt⟩ List.prefix_rfl),
      unchanged]
    rintro ⟨other, new⟩ member
    refine apart _ member ?_
    rintro rfl
    obtain ⟨otherLeaf, notBase⟩ := (changes.assigned_iff _ new).mp member
    rw [leafAt] at otherLeaf
    cases otherLeaf
    exact notBase unchanged
  · refine foldl_of_agree ?_ (.inr ⟨(path, value),
      (changes.assigned_iff path value).mpr ⟨leafAt, unchanged⟩, fun before => if_pos rfl⟩)
    rintro ⟨other, new⟩ member
    by_cases same : other = path
    · subst same
      obtain ⟨otherLeaf, -⟩ := (changes.assigned_iff _ new).mp member
      rw [leafAt] at otherLeaf
      cases otherLeaf
      exact .inl (fun before => if_pos rfl)
    · exact .inr (apart _ member same)

/-- The mappings above the leaves of the target stand after the patch. -/
theorem see_above_leaf (changes : LeafChanges (map base) (map target) deleted assigned)
    {below : List Key} (leafBelow : (map target).see below = some (.leaf value))
    (above : path <+: below) (apart : path ≠ below) :
    (map (patch deleted assigned base)).see path = some .mapping := by
  rw [changes.see_patch]
  have isMapping := mapping_of_above leafBelow above apart
  have effects : ∀ change ∈ assigned,
      (path <+: change.1 ∧ ∀ before, effect change.1 change.2 path before = some .mapping) ∨
        ∀ before, effect change.1 change.2 path before = before := by
    rintro ⟨other, new⟩ member
    obtain ⟨otherLeaf, -⟩ := (changes.assigned_iff other new).mp member
    have different : path ≠ other := by
      rintro rfl
      rw [isMapping] at otherLeaf
      cases otherLeaf
    have notBelow : ¬ other <+: path :=
      fun otherAbove => different (eq_of_leaf_above otherLeaf isMapping otherAbove).symm
    by_cases isAbove : path <+: other
    · refine .inl ⟨isAbove, fun before => ?_⟩
      rw [effect, if_neg different, if_neg notBelow, if_pos isAbove]
    · refine .inr (fun before => ?_)
      rw [effect, if_neg different, if_neg notBelow, if_neg isAbove]
  have agree : ∀ change ∈ assigned,
      (∀ before, effect change.1 change.2 path before = some .mapping) ∨
        ∀ before, effect change.1 change.2 path before = before :=
    fun change member => (effects change member).imp And.right id
  by_cases unchanged : (map base).see below = some (.leaf value)
  · refine foldl_of_agree agree (.inl ?_)
    rw [if_neg (changes.kept_of_seen unchanged ⟨value, leafBelow⟩ above),
      mapping_of_above unchanged above apart]
  · have member := (changes.assigned_iff below value).mpr ⟨leafBelow, unchanged⟩
    refine foldl_of_agree agree (.inr ⟨_, member, fun before => ?_⟩)
    have notBelow : ¬ below <+: path := fun back =>
      apart (List.IsPrefix.eq_of_length above (Nat.le_antisymm above.length_le back.length_le))
    rw [effect, if_neg apart, if_neg notBelow, if_pos above]

/-- Where the target has no leaf at or below the path, the mappings of the base
are left, but for those at or below a leaf of the target. -/
theorem see_rest (changes : LeafChanges (map base) (map target) deleted assigned)
    (bare : ∀ below value, path <+: below → (map target).see below ≠ some (.leaf value)) :
    (map (patch deleted assigned base)).see path = some .mapping ∧
        (map base).see path = some .mapping ∧
        (¬ ∃ above value, above <+: path ∧ (map target).see above = some (.leaf value)) ∨
      (map (patch deleted assigned base)).see path = none ∧
        ((map base).see path = some .mapping →
          ∃ above value, above <+: path ∧ (map target).see above = some (.leaf value)) := by
  rw [changes.see_patch]
  have effects : ∀ change ∈ assigned, ∀ before, effect change.1 change.2 path before =
      if change.1 <+: path then none else before := by
    rintro ⟨other, new⟩ member before
    obtain ⟨otherLeaf, -⟩ := (changes.assigned_iff other new).mp member
    have notAbove : ¬ path <+: other := fun above => bare other new above otherLeaf
    have different : path ≠ other := by
      rintro rfl
      exact notAbove List.prefix_rfl
    rw [effect, if_neg different, if_neg notAbove]
  by_cases covered : ∃ above value, above <+: path ∧
      (map target).see above = some (.leaf value)
  · refine .inr ⟨?_, fun _ => covered⟩
    obtain ⟨above, value, isAbove, leafAt⟩ := covered
    refine foldl_of_agree (fun change member => ?_) ?_
    · by_cases here : change.1 <+: path
      · exact .inl (fun before => by rw [effects change member, if_pos here])
      · exact .inr (fun before => by rw [effects change member, if_neg here])
    · by_cases unchanged : (map base).see above = some (.leaf value)
      · refine .inl (ite_eq_left_iff.mpr (fun _ => ?_))
        by_contra seen
        obtain ⟨seen, seenAt⟩ := Option.ne_none_iff_exists'.mp seen
        obtain rfl := eq_of_leaf_above unchanged seenAt isAbove
        exact bare above value List.prefix_rfl leafAt
      · have member := (changes.assigned_iff above value).mpr ⟨leafAt, unchanged⟩
        refine .inr ⟨_, member, fun before => ?_⟩
        rw [effects _ member, if_pos isAbove]
  · rw [foldl_of_idle]
    · by_cases isMapping : (map base).see path = some .mapping
      · refine .inl ⟨?_, isMapping, covered⟩
        rw [if_neg, isMapping]
        rintro ⟨gone, member, isAbove⟩
        obtain ⟨⟨old, wasLeaf⟩, -⟩ := (changes.deleted_iff gone).mp member
        obtain rfl := eq_of_leaf_above wasLeaf isMapping isAbove
        rw [isMapping] at wasLeaf
        cases wasLeaf
      · refine .inr ⟨ite_eq_left_iff.mpr (fun kept => ?_), fun mapping => absurd mapping isMapping⟩
        cases seenAt : (map base).see path with
        | none => rfl
        | some seen =>
          cases seen with
          | mapping => exact absurd seenAt isMapping
          | leaf old =>
            have member := (changes.deleted_iff path).mpr
              ⟨⟨old, seenAt⟩, fun value => bare path value List.prefix_rfl⟩
            exact absurd ⟨path, member, List.prefix_rfl⟩ kept
    · rintro ⟨other, new⟩ member before
      obtain ⟨otherLeaf, -⟩ := (changes.assigned_iff other new).mp member
      rw [effects _ member, if_neg (fun isAbove => covered ⟨other, new, isAbove, otherLeaf⟩)]

/-- The patch of the changed leaves makes the target of the base exactly when
the base has the mappings for it. -/
theorem same_patch_iff (changes : LeafChanges (map base) (map target) deleted assigned) :
    (map (patch deleted assigned base)).Same (map target) ↔
      KeepsMappings (map base) (map target) := by
  constructor
  · intro same
    constructor
    · intro path isMapping
      by_contra missed
      obtain ⟨notMapping, uncovered⟩ := not_or.mp missed
      have bare : ∀ below value, path <+: below →
          (map target).see below ≠ some (.leaf value) := by
        intro below value above leafAt
        by_cases here : path = below
        · subst here
          exact uncovered ⟨path, value, List.prefix_rfl, leafAt⟩
        · exact notMapping (mapping_of_above leafAt above here)
      rcases changes.see_rest bare with ⟨shown, -, -⟩ | ⟨-, covered⟩
      · exact notMapping ((same path).symm.trans shown)
      · exact uncovered (covered isMapping)
    · intro path isMapping bare
      rcases changes.see_rest bare with ⟨-, ofBase, -⟩ | ⟨hidden, -⟩
      · exact ofBase
      · rw [same path, isMapping] at hidden
        cases hidden
  · intro keeps path
    cases seenAt : (map target).see path with
    | some seen =>
      cases seen with
      | leaf value => exact changes.see_leaf seenAt
      | mapping =>
        by_cases hollow : ∀ below value, path <+: below →
            (map target).see below ≠ some (.leaf value)
        · have ofBase := keeps.ofTarget path seenAt hollow
          rcases changes.see_rest hollow with ⟨shown, -, -⟩ | ⟨-, covered⟩
          · exact shown
          · obtain ⟨above, value, isAbove, leafAt⟩ := covered ofBase
            obtain rfl := eq_of_leaf_above leafAt seenAt isAbove
            rw [seenAt] at leafAt
            cases leafAt
        · push Not at hollow
          obtain ⟨below, value, above, leafAt⟩ := hollow
          refine changes.see_above_leaf leafAt above ?_
          rintro rfl
          rw [seenAt] at leafAt
          cases leafAt
    | none =>
      have bare : ∀ below value, path <+: below →
          (map target).see below ≠ some (.leaf value) := by
        intro below value above leafAt
        by_cases here : path = below
        · subst here
          rw [seenAt] at leafAt
          cases leafAt
        · rw [mapping_of_above leafAt above here] at seenAt
          cases seenAt
      rcases changes.see_rest bare with ⟨-, ofBase, uncovered⟩ | ⟨hidden, -⟩
      · cases keeps.ofBase path ofBase with
        | inl isMapping =>
          rw [isMapping] at seenAt
          cases seenAt
        | inr covered => exact absurd covered uncovered
      · exact hidden

end LeafChanges

/-! ## Distinct keys -/

mutual

/-- No mapping of the tree has a key twice. -/
def Distinct : Node Key Leaf → Prop
  | .leaf _ => True
  | .map entries => (entries.map Prod.fst).Nodup ∧ DistinctBelow entries

def DistinctBelow : List (Key × Node Key Leaf) → Prop
  | [] => True
  | (_, child) :: rest => Distinct child ∧ DistinctBelow rest

end

theorem see_cons_self (key : Key) (child : Node Key Leaf) (entries : Entries Key Leaf)
    (rest : List Key) : (map ((key, child) :: entries)).see (key :: rest) = child.see rest := by
  rw [see_map, Dict.lookup, if_pos rfl, Option.bind_some]

theorem see_cons_of_ne {key other : Key} (apart : key ≠ other) (child : Node Key Leaf)
    (entries : Entries Key Leaf) (rest : List Key) :
    (map ((key, child) :: entries)).see (other :: rest) = (map entries).see (other :: rest) := by
  rw [see_map, Dict.lookup, if_neg apart, see_map]

theorem key_mem_of_see {entries : Entries Key Leaf} {key : Key} {rest : List Key}
    {seen : Shape Leaf}
    (seenAt : (map entries).see (key :: rest) = some seen) : key ∈ entries.map Prod.fst := by
  induction entries with
  | nil => cases seenAt
  | cons entry entries ih =>
    obtain ⟨first, child⟩ := entry
    by_cases same : first = key
    · subst same
      exact List.mem_cons_self
    · rw [see_cons_of_ne same] at seenAt
      exact List.mem_cons_of_mem _ (ih seenAt)

end Node

end FxToushi.Data
