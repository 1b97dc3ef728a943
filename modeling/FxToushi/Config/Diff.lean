import FxToushi.Config.DottedPaths
import Mathlib.Data.List.Dedup
import Mathlib.Data.List.Sort

namespace FxToushi.Config

open Data

/-! # The diff of two configurations

Both are flattened to the leaves under their dotted paths, and the diff has an
entry for every path whose leaf is not the same.
-/

section Diff

-- Leaves are told apart as `==` does.
variable {Leaf : Type} [DecidableEq Leaf]

mutual

/-- What the loop of `_flatten` does with one value. -/
def flattenNode (path : String) (flattened : Dict String Leaf) : ConfigNode Leaf → Dict String Leaf
  | .leaf value => flattened.set path value
  | .map entries => flattened.update (flattenEntries path .empty entries)

def flattenEntries (lead : String) (flattened : Dict String Leaf) :
    List (ConfigKey × ConfigNode Leaf) → Dict String Leaf
  | [] => flattened
  | (key, value) :: rest =>
    flattenEntries lead (flattenNode (joinKey lead key) flattened value) rest

end

def flatten (payload : ConfigMapping Leaf) : Dict String Leaf := flattenEntries "" .empty payload

structure ConfigDiffEntry (Leaf : Type) where
  path : String
  fromValue : Option Leaf
  toValue : Option Leaf
  changeType : String
  riskLevel : String := "low"
deriving Repr, DecidableEq

/-- The entry of one path, if the leaves differ. -/
def diffEntry (baseFlat targetFlat : Dict String Leaf) (path : String) :
    Option (ConfigDiffEntry Leaf) :=
  match baseFlat.get? path, targetFlat.get? path with
  | none, none => none
  | none, some new => some { path, fromValue := none, toValue := some new, changeType := "added" }
  | some old, none => some { path, fromValue := some old, toValue := none, changeType := "removed" }
  | some old, some new =>
    if old ≠ new then
      some { path, fromValue := some old, toValue := some new, changeType := "changed" }
    else none

def diffMappings (base target : ConfigMapping Leaf) : List (ConfigDiffEntry Leaf) :=
  let baseFlat := flatten base
  let targetFlat := flatten target
  let paths := (baseFlat.keys ++ targetFlat.keys).dedup.insertionSort (· ≤ ·)
  paths.filterMap (diffEntry baseFlat targetFlat)

/-! ## Applying a diff -/

def removedPath (entry : ConfigDiffEntry Leaf) : Option (List ConfigKey) :=
  if entry.changeType = "removed" then some (splitPath entry.path) else none

def assignedPath (entry : ConfigDiffEntry Leaf) : Option (List ConfigKey × Leaf) :=
  if entry.changeType = "removed" then none
  else entry.toValue.map (fun value => (splitPath entry.path, value))

/-- The removed paths are deleted, the others set. -/
def applyEntries (entries : List (ConfigDiffEntry Leaf)) (base : ConfigMapping Leaf) :
    ConfigMapping Leaf :=
  Node.patch (entries.filterMap removedPath) (entries.filterMap assignedPath) base

/-- The diff is empty exactly for equal mappings, and makes the target of the
base. -/
structure FaithfulDiff (base target : ConfigMapping Leaf) : Prop where
  empty_iff : diffMappings base target = [] ↔ (Node.map base).Same (.map target)
  applies : (Node.map (applyEntries (diffMappings base target) base)).Same (.map target)

end Diff

/-! ## What is flattened -/

section Flatten

variable {Leaf : Type}

mutual

/-- A leaf that is flattened from a node stands in it. -/
theorem flattenNode_sound (path : String) (flattened : Dict String Leaf) (node : ConfigNode Leaf)
    (distinct : node.Distinct) {sought : String} {value : Leaf}
    (found : (flattenNode path flattened node).get? sought = some value) :
    flattened.get? sought = some value ∨
      ∃ keys, node.see keys = some (.leaf value) ∧ dottedFrom path keys = sought := by
  cases node with
  | leaf own =>
    rw [flattenNode, Dict.get?_set] at found
    split at found
    · rename_i here
      cases found
      exact .inr ⟨[], rfl, here⟩
    · exact .inl found
  | map entries =>
    rw [flattenNode, Dict.get?_update] at found
    cases inner : (flattenEntries path .empty entries).get? sought with
    | none =>
      rw [inner] at found
      exact .inl found
    | some other =>
      rw [inner] at found
      cases found
      cases flattenEntries_sound path .empty entries distinct inner with
      | inl absurdity => cases absurdity
      | inr stands =>
        obtain ⟨key, keys, leafAt, same⟩ := stands
        exact .inr ⟨key :: keys, leafAt, same⟩

theorem flattenEntries_sound (lead : String) (flattened : Dict String Leaf)
    (entries : List (ConfigKey × ConfigNode Leaf)) (distinct : (Node.map entries).Distinct)
    {sought : String} {value : Leaf}
    (found : (flattenEntries lead flattened entries).get? sought = some value) :
    flattened.get? sought = some value ∨
      ∃ key keys, (Node.map entries).see (key :: keys) = some (.leaf value) ∧
        dottedFrom lead (key :: keys) = sought := by
  cases entries with
  | nil => exact .inl found
  | cons entry rest =>
    obtain ⟨key, node⟩ := entry
    obtain ⟨keys, nodes⟩ := distinct
    obtain ⟨fresh, others⟩ := List.nodup_cons.mp keys
    rw [flattenEntries] at found
    cases flattenEntries_sound lead _ rest ⟨others, nodes.2⟩ found with
    | inl earlier =>
      cases flattenNode_sound (joinKey lead key) flattened node nodes.1 earlier with
      | inl before => exact .inl before
      | inr stands =>
        obtain ⟨path, leafAt, same⟩ := stands
        exact .inr ⟨key, path, by rw [Node.see_cons_self, leafAt], same⟩
    | inr later =>
      obtain ⟨other, path, leafAt, same⟩ := later
      refine .inr ⟨other, path, ?_, same⟩
      rw [Node.see_cons_of_ne, leafAt]
      rintro rfl
      exact fresh (Node.key_mem_of_see leafAt)

end

mutual

theorem flattenNode_keeps (path : String) (flattened : Dict String Leaf) (node : ConfigNode Leaf)
    {sought : String} (present : (flattened.get? sought).isSome) :
    ((flattenNode path flattened node).get? sought).isSome := by
  cases node with
  | leaf own =>
    rw [flattenNode, Dict.get?_set]
    split
    · rfl
    · exact present
  | map entries =>
    rw [flattenNode, Dict.get?_update, Option.isSome_or, present, Bool.or_true]

theorem flattenEntries_keeps (lead : String) (flattened : Dict String Leaf)
    (entries : List (ConfigKey × ConfigNode Leaf)) {sought : String}
    (present : (flattened.get? sought).isSome) :
    ((flattenEntries lead flattened entries).get? sought).isSome := by
  cases entries with
  | nil => exact present
  | cons entry rest =>
    obtain ⟨key, node⟩ := entry
    rw [flattenEntries]
    exact flattenEntries_keeps lead _ rest
      (flattenNode_keeps (joinKey lead key) flattened node present)

end

mutual

theorem flattenNode_complete (path : String) (flattened : Dict String Leaf)
    (node : ConfigNode Leaf) {keys : List ConfigKey} {value : Leaf}
    (leafAt : node.see keys = some (.leaf value)) :
    ((flattenNode path flattened node).get? (dottedFrom path keys)).isSome := by
  cases node with
  | leaf own =>
    cases keys with
    | nil => rw [flattenNode, dottedFrom, Dict.get?_set, if_pos rfl, Option.isSome_some]
    | cons key keys => cases leafAt
  | map entries =>
    cases keys with
    | nil => cases leafAt
    | cons key keys =>
      rw [flattenNode, Dict.get?_update, Option.isSome_or,
        flattenEntries_complete path .empty entries leafAt, Bool.true_or]

theorem flattenEntries_complete (lead : String) (flattened : Dict String Leaf)
    (entries : List (ConfigKey × ConfigNode Leaf)) {key : ConfigKey} {keys : List ConfigKey}
    {value : Leaf} (leafAt : (Node.map entries).see (key :: keys) = some (.leaf value)) :
    ((flattenEntries lead flattened entries).get? (dottedFrom lead (key :: keys))).isSome := by
  cases entries with
  | nil => cases leafAt
  | cons entry rest =>
    obtain ⟨first, node⟩ := entry
    rw [flattenEntries]
    by_cases same : first = key
    · subst same
      rw [Node.see_cons_self] at leafAt
      exact flattenEntries_keeps lead _ rest
        (flattenNode_complete (joinKey lead first) flattened node leafAt)
    · rw [Node.see_cons_of_ne same] at leafAt
      exact flattenEntries_complete lead _ rest leafAt

end

variable {payload : ConfigMapping Leaf} {path : List ConfigKey} {sought : String} {value : Leaf}

theorem exists_of_flatten (distinct : (Node.map payload).Distinct)
    (found : (flatten payload).get? sought = some value) :
    ∃ path, path ≠ [] ∧ dotted path = sought ∧
      (Node.map payload).see path = some (.leaf value) := by
  cases flattenEntries_sound "" .empty payload distinct found with
  | inl absurdity => cases absurdity
  | inr stands =>
    obtain ⟨key, keys, leafAt, same⟩ := stands
    exact ⟨key :: keys, List.cons_ne_nil _ _, same, leafAt⟩

/-- The leaf at a path that its dotted text tells is the one under that text. -/
theorem flatten_get?_iff (distinct : (Node.map payload).Distinct)
    (told : ∀ other leaf, (Node.map payload).see other = some (.leaf leaf) →
      dotted other = dotted path → other = path) (nonempty : path ≠ []) :
    (flatten payload).get? (dotted path) = some value ↔
      (Node.map payload).see path = some (.leaf value) := by
  have sound : ∀ other, (flatten payload).get? (dotted path) = some other →
      (Node.map payload).see path = some (.leaf other) := by
    intro other found
    obtain ⟨stands, -, same, leafAt⟩ := exists_of_flatten distinct found
    rw [← told stands other leafAt same]
    exact leafAt
  refine ⟨sound value, fun leafAt => ?_⟩
  obtain ⟨key, keys, rfl⟩ := List.exists_cons_of_ne_nil nonempty
  obtain ⟨other, found⟩ :=
    Option.isSome_iff_exists.mp (flattenEntries_complete "" .empty payload leafAt)
  have also := sound other found
  rw [leafAt] at also
  cases also
  exact found

end Flatten

/-! ## Paths that the diff can tell -/

section Told

variable {Leaf : Type}

/-- A leaf of the one or of the other. -/
def LeafPath (base target : ConfigNode Leaf) (path : List ConfigKey) : Prop :=
  ∃ value, base.see path = some (.leaf value) ∨ target.see path = some (.leaf value)

/-- No two leaves of both have one dotted text. -/
def ToldApart (base target : ConfigNode Leaf) : Prop :=
  ∀ first second, LeafPath base target first → LeafPath base target second →
    dotted first = dotted second → first = second

/-- A leaf that is not the same in both has a path that its text gives back. -/
def PlainChanges (base target : ConfigNode Leaf) : Prop :=
  ∀ path value, ¬ (base.see path = some (.leaf value) ↔ target.see path = some (.leaf value)) →
    PlainPath path

end Told

/-! ## The entries are the changed leaves -/

section Entries

variable {Leaf : Type} [DecidableEq Leaf] {baseFlat targetFlat : Dict String Leaf}
  {base target : ConfigMapping Leaf} {path : String} {entry : ConfigDiffEntry Leaf}

theorem path_of_diffEntry (found : diffEntry baseFlat targetFlat path = some entry) :
    entry.path = path := by
  unfold diffEntry at found
  split at found
  · cases found
  · cases found; rfl
  · cases found; rfl
  · split at found
    · cases found; rfl
    · cases found

theorem mem_diffMappings_iff :
    entry ∈ diffMappings base target ↔
      diffEntry (flatten base) (flatten target) entry.path = some entry := by
  rw [diffMappings, List.mem_filterMap]
  constructor
  · rintro ⟨path, -, found⟩
    rw [path_of_diffEntry found]
    exact found
  · intro found
    refine ⟨entry.path, ?_, found⟩
    have keyed : ∀ (flat : Dict String Leaf) value, flat.get? entry.path = some value →
        entry.path ∈ flat.keys :=
      fun flat value present => List.mem_map.mpr ⟨_, flat.get?_eq_some_iff.mp present, rfl⟩
    rw [List.mem_insertionSort, List.mem_dedup, List.mem_append]
    unfold diffEntry at found
    split at found
    · cases found
    · rename_i new
      exact .inr (keyed _ _ new)
    · rename_i old _
      exact .inl (keyed _ _ old)
    · rename_i old _
      exact .inl (keyed _ _ old)

theorem removedPath_iff {keys : List ConfigKey} :
    (∃ entry, diffEntry baseFlat targetFlat path = some entry ∧ removedPath entry = some keys) ↔
      (∃ old, baseFlat.get? path = some old) ∧ targetFlat.get? path = none ∧
        splitPath path = keys := by
  unfold diffEntry
  cases baseFlat.get? path with
  | none =>
    cases targetFlat.get? path with
    | none => simp
    | some new => simp [removedPath]
  | some old =>
    cases targetFlat.get? path with
    | none => simp [removedPath]
    | some new =>
      by_cases same : old = new
      · simp [same]
      · simp [same, removedPath]

theorem assignedPath_iff {keys : List ConfigKey} {value : Leaf} :
    (∃ entry, diffEntry baseFlat targetFlat path = some entry ∧
        assignedPath entry = some (keys, value)) ↔
      targetFlat.get? path = some value ∧ baseFlat.get? path ≠ some value ∧
        splitPath path = keys := by
  unfold diffEntry
  cases baseFlat.get? path with
  | none =>
    cases targetFlat.get? path with
    | none => simp
    | some new => simp [assignedPath, and_comm]
  | some old =>
    cases targetFlat.get? path with
    | none => simp [assignedPath]
    | some new =>
      by_cases same : old = new
      · subst same
        simp only [ne_eq, not_true_eq_false, if_false, Option.some.injEq, reduceCtorEq,
          false_and, exists_false, false_iff, not_and]
        exact fun here apart => absurd here apart
      · simp only [ne_eq, same, not_false_eq_true, if_true, Option.some.injEq,
          exists_eq_left', assignedPath, Option.map_some]
        simp only [String.reduceEq, if_false, Option.some.injEq, Prod.mk.injEq]
        constructor
        · rintro ⟨here, rfl⟩
          exact ⟨rfl, same, here⟩
        · rintro ⟨rfl, -, here⟩
          exact ⟨here, rfl⟩

/-- For paths that are told apart, the entries are the changes between the leaves. -/
theorem leafChanges_diffMappings (baseDistinct : (Node.map base).Distinct)
    (targetDistinct : (Node.map target).Distinct) (told : ToldApart (.map base) (.map target))
    (plain : PlainChanges (.map base) (.map target)) :
    Node.LeafChanges (.map base) (.map target)
      ((diffMappings base target).filterMap removedPath)
      ((diffMappings base target).filterMap assignedPath) := by
  have entry_iff : ∀ {Image : Type} (read : ConfigDiffEntry Leaf → Option Image) (image : Image),
      image ∈ (diffMappings base target).filterMap read ↔
        ∃ path entry, diffEntry (flatten base) (flatten target) path = some entry ∧
          read entry = some image := by
    intro Image read image
    rw [List.mem_filterMap]
    constructor
    · rintro ⟨entry, member, image⟩
      exact ⟨entry.path, entry, mem_diffMappings_iff.mp member, image⟩
    · rintro ⟨path, entry, found, image⟩
      refine ⟨entry, mem_diffMappings_iff.mpr ?_, image⟩
      rw [path_of_diffEntry found, found]
  have nonempty : ∀ keys, LeafPath (.map base) (.map target) keys → keys ≠ [] := by
    rintro keys ⟨value, leafAt | leafAt⟩ rfl <;> cases leafAt
  have baseFlat : ∀ keys value, LeafPath (.map base) (.map target) keys →
      ((flatten base).get? (dotted keys) = some value ↔
        (Node.map base).see keys = some (.leaf value)) :=
    fun keys _ listed => flatten_get?_iff baseDistinct
      (fun other leaf leafAt => told other keys ⟨leaf, .inl leafAt⟩ listed) (nonempty keys listed)
  have targetFlat : ∀ keys value, LeafPath (.map base) (.map target) keys →
      ((flatten target).get? (dotted keys) = some value ↔
        (Node.map target).see keys = some (.leaf value)) :=
    fun keys _ listed => flatten_get?_iff targetDistinct
      (fun other leaf leafAt => told other keys ⟨leaf, .inr leafAt⟩ listed) (nonempty keys listed)
  constructor
  · intro keys
    rw [entry_iff]
    simp only [removedPath_iff]
    constructor
    · rintro ⟨path, ⟨old, wasFlat⟩, notFlat, same⟩
      obtain ⟨stands, standsNonempty, rfl, leafAt⟩ := exists_of_flatten baseDistinct wasFlat
      have gone : ∀ value, (Node.map target).see stands ≠ some (.leaf value) := by
        intro value isLeaf
        rw [(targetFlat stands value ⟨old, .inl leafAt⟩).mpr isLeaf] at notFlat
        cases notFlat
      rw [splitPath_dotted (plain stands old fun same => gone old (same.mp leafAt))
        standsNonempty] at same
      subst same
      exact ⟨⟨old, leafAt⟩, gone⟩
    · rintro ⟨⟨old, leafAt⟩, notLeaf⟩
      have listed : LeafPath (.map base) (.map target) keys := ⟨old, .inl leafAt⟩
      refine ⟨dotted keys, ⟨old, (baseFlat keys old listed).mpr leafAt⟩, ?_,
        splitPath_dotted (plain keys old fun same => notLeaf old (same.mp leafAt))
          (nonempty keys listed)⟩
      by_contra present
      obtain ⟨value, found⟩ := Option.ne_none_iff_exists'.mp present
      exact notLeaf value ((targetFlat keys value listed).mp found)
  · intro keys value
    rw [entry_iff]
    simp only [assignedPath_iff]
    constructor
    · rintro ⟨path, isFlat, notFlat, same⟩
      obtain ⟨stands, standsNonempty, rfl, leafAt⟩ := exists_of_flatten targetDistinct isFlat
      have fresh : (Node.map base).see stands ≠ some (.leaf value) := fun wasLeaf =>
        notFlat ((baseFlat stands value ⟨value, .inr leafAt⟩).mpr wasLeaf)
      rw [splitPath_dotted (plain stands value fun same => fresh (same.mpr leafAt))
        standsNonempty] at same
      subst same
      exact ⟨leafAt, fresh⟩
    · rintro ⟨leafAt, notLeaf⟩
      have listed : LeafPath (.map base) (.map target) keys := ⟨value, .inr leafAt⟩
      exact ⟨dotted keys, (targetFlat keys value listed).mpr leafAt,
        fun wasFlat => notLeaf ((baseFlat keys value listed).mp wasFlat),
        splitPath_dotted (plain keys value fun same => notLeaf (same.mpr leafAt))
          (nonempty keys listed)⟩

/-- An entry deletes or sets a path. -/
theorem diffMappings_eq_nil_iff :
    diffMappings base target = [] ↔
      (diffMappings base target).filterMap removedPath = [] ∧
        (diffMappings base target).filterMap assignedPath = [] := by
  constructor
  · intro empty
    rw [empty]
    exact ⟨rfl, rfl⟩
  · rintro ⟨noneRemoved, noneAssigned⟩
    refine List.eq_nil_iff_forall_not_mem.mpr (fun entry member => ?_)
    have removed := List.filterMap_eq_nil_iff.mp noneRemoved entry member
    have assigned := List.filterMap_eq_nil_iff.mp noneAssigned entry member
    obtain ⟨path, found⟩ : ∃ path, diffEntry (flatten base) (flatten target) path = some entry :=
      ⟨_, mem_diffMappings_iff.mp member⟩
    have notRemoved : entry.changeType ≠ "removed" := by
      intro isRemoved
      rw [removedPath, if_pos isRemoved] at removed
      cases removed
    rw [assignedPath, if_neg notRemoved, Option.map_eq_none_iff] at assigned
    unfold diffEntry at found
    split at found
    · cases found
    · cases found; cases assigned
    · cases found; exact notRemoved rfl
    · split at found
      · cases found; cases assigned
      · cases found

/-- For paths that are told apart, the diff is faithful exactly when no mapping is lost and
none without a leaf is new. -/
theorem faithfulDiff_iff (base target : ConfigMapping Leaf)
    (baseDistinct : (Node.map base).Distinct) (targetDistinct : (Node.map target).Distinct)
    (told : ToldApart (.map base) (.map target)) (plain : PlainChanges (.map base) (.map target)) :
    FaithfulDiff base target ↔ Node.KeepsMappings (.map base) (.map target) := by
  have changes := leafChanges_diffMappings baseDistinct targetDistinct told plain
  refine ⟨fun faithful => changes.same_patch_iff.mp faithful.applies, fun keeps => ?_⟩
  have applies := changes.same_patch_iff.mpr keeps
  refine ⟨⟨fun empty => ?_, fun same => ?_⟩, applies⟩
  · rw [empty] at applies
    exact applies
  · refine diffMappings_eq_nil_iff.mpr ⟨?_, ?_⟩
    · refine List.eq_nil_iff_forall_not_mem.mpr (fun keys member => ?_)
      obtain ⟨⟨old, leafAt⟩, notLeaf⟩ := (changes.deleted_iff keys).mp member
      exact notLeaf old ((same keys).symm.trans leafAt)
    · refine List.eq_nil_iff_forall_not_mem.mpr ?_
      rintro ⟨keys, value⟩ member
      obtain ⟨leafAt, notLeaf⟩ := (changes.assigned_iff keys value).mp member
      exact notLeaf ((same keys).trans leafAt)

end Entries

/-! ## Sample configurations -/

def riskCap (cap : Int) : ConfigMapping Int := [(.str "risk", .map [(.str "cap", .leaf cap)])]

/-- A limit beside a key that is a text with a dot. -/
def riskCapBeside (cap : Int) : ConfigMapping Int := (.str "x.y", .leaf 5) :: riskCap cap

theorem see_riskCapBeside {cap : Int} {path : List ConfigKey} {seen : Shape Int}
    (seenAt : (Node.map (riskCapBeside cap)).see path = some seen) :
    (path = [] ∨ path = [.str "risk"]) ∧ seen = .mapping ∨
      path = [.str "x.y"] ∧ seen = .leaf 5 ∨
        path = [.str "risk", .str "cap"] ∧ seen = .leaf cap := by
  cases path with
  | nil =>
    cases seenAt
    exact .inl ⟨.inl rfl, rfl⟩
  | cons key rest =>
    have listed : key = .str "x.y" ∨ key = .str "risk" := by
      simpa [riskCapBeside, riskCap] using Node.key_mem_of_see seenAt
    rcases listed with rfl | rfl
    · rw [riskCapBeside, Node.see_cons_self] at seenAt
      cases rest with
      | nil =>
        cases seenAt
        exact .inr (.inl ⟨rfl, rfl⟩)
      | cons next rest => cases seenAt
    · rw [riskCapBeside, Node.see_cons_of_ne (by decide), riskCap, Node.see_cons_self] at seenAt
      cases rest with
      | nil =>
        cases seenAt
        exact .inl ⟨.inr rfl, rfl⟩
      | cons next rest =>
        obtain rfl := List.mem_singleton.mp (Node.key_mem_of_see seenAt)
        rw [Node.see_cons_self] at seenAt
        cases rest with
        | nil =>
          cases seenAt
          exact .inr (.inr ⟨rfl, rfl⟩)
        | cons last rest => cases seenAt

theorem distinct_riskCapBeside (cap : Int) : (Node.map (riskCapBeside cap)).Distinct :=
  ⟨by simp [riskCapBeside, riskCap], trivial, ⟨⟨by simp, ⟨trivial, trivial⟩⟩, trivial⟩⟩

theorem leaf_riskCapBeside {cap : Int} {path : List ConfigKey} {value : Int}
    (leafAt : (Node.map (riskCapBeside cap)).see path = some (.leaf value)) :
    path = [.str "x.y"] ∧ value = 5 ∨ path = [.str "risk", .str "cap"] ∧ value = cap := by
  rcases see_riskCapBeside leafAt with ⟨-, impossible⟩ | ⟨rfl, same⟩ | ⟨rfl, same⟩
  · cases impossible
  · exact .inl ⟨rfl, Shape.leaf.inj same⟩
  · exact .inr ⟨rfl, Shape.leaf.inj same⟩

/-- A changed limit, and the key with a dot as it was. -/
theorem faithfulDiff_riskCap : FaithfulDiff (riskCapBeside 1) (riskCapBeside 2) := by
  have paths : ∀ path, LeafPath (.map (riskCapBeside 1)) (.map (riskCapBeside 2)) path →
      path = [.str "x.y"] ∨ path = [.str "risk", .str "cap"] := by
    rintro path ⟨value, leafAt | leafAt⟩ <;>
      exact (leaf_riskCapBeside leafAt).imp And.left And.left
  have apart : dotted [.str "x.y"] ≠ dotted [.str "risk", .str "cap"] := by decide
  have told : ToldApart (.map (riskCapBeside 1)) (.map (riskCapBeside 2)) := by
    intro first second firstLeaf secondLeaf same
    rcases paths first firstLeaf with rfl | rfl <;> rcases paths second secondLeaf with rfl | rfl
    · rfl
    · exact absurd same apart
    · exact absurd same.symm apart
    · rfl
  have plain : PlainChanges (.map (riskCapBeside 1)) (.map (riskCapBeside 2)) := by
    intro path value changed
    have listed : LeafPath (.map (riskCapBeside 1)) (.map (riskCapBeside 2)) path := by
      by_contra unlisted
      exact changed ⟨fun leafAt => absurd ⟨value, .inl leafAt⟩ unlisted,
        fun leafAt => absurd ⟨value, .inr leafAt⟩ unlisted⟩
    rcases paths path listed with rfl | rfl
    · exact absurd Iff.rfl changed
    · exact ⟨by simp [PlainKey], fun rest same => absurd (List.cons.inj same).1 (by decide)⟩
  refine (faithfulDiff_iff _ _ (distinct_riskCapBeside 1) (distinct_riskCapBeside 2) told
    plain).mpr ⟨fun path seenAt => .inl ?_, fun path seenAt _ => ?_⟩
  · rcases see_riskCapBeside seenAt with ⟨rfl | rfl, -⟩ | ⟨-, isLeaf⟩ | ⟨-, isLeaf⟩
    · rfl
    · rfl
    · cases isLeaf
    · cases isLeaf
  · rcases see_riskCapBeside seenAt with ⟨rfl | rfl, -⟩ | ⟨-, isLeaf⟩ | ⟨-, isLeaf⟩
    · rfl
    · rfl
    · cases isLeaf
    · cases isLeaf

/-- A mapping that goes leaves its empty shell, and an empty mapping, a key with a
dot and a key that is no text are not told from others. -/
theorem diff_not_faithful :
    ¬ FaithfulDiff (riskCap 1) [] ∧
      ¬ FaithfulDiff ([(.str "risk", .map [])] : ConfigMapping Int) [] ∧
      ¬ FaithfulDiff [(.str "risk.cap", .leaf 1)] (riskCap 1) ∧
      ¬ FaithfulDiff ([(.other "1", .leaf 1)] : ConfigMapping Int) [(.str "1", .leaf 1)] := by
  refine ⟨fun faithful => ?_, fun faithful => ?_, fun faithful => ?_, fun faithful => ?_⟩
  · have shell := faithful.applies [.str "risk"]
    exact absurd shell (by decide +kernel)
  · have same := faithful.empty_iff.mp (by decide +kernel)
    exact absurd (same [.str "risk"]) (by decide)
  · have same := faithful.empty_iff.mp (by decide +kernel)
    exact absurd (same [.str "risk"]) (by decide)
  · have same := faithful.empty_iff.mp (by decide +kernel)
    exact absurd (same [.str "1"]) (by decide)

end FxToushi.Config
