import FxToushi.Config.DottedPaths
import FxToushi.Data.Overlay
import Mathlib.Data.List.Dedup
import Mathlib.Data.List.Sort

namespace FxToushi.Config

open Data

/-! # The configuration registry

A patch is merged into the stored configuration.  Whether it touches a dangerous
key is told from its flattened keys, and only an approved patch may.  Here the
values are compared that stand at the dangerous keys before and after.
-/

/-- What a value that is no mapping says about itself. -/
class ConfigLeaf (Leaf : Type) where
  null : Leaf
  truthy : Leaf → Bool

inductive ConfigError where
  | validation (message : String)
  | changeDenied (message : String)
  | other (message : String)
deriving Repr, DecidableEq

/-- The configuration file, as YAML reads it. -/
inductive StoredFile (Leaf : Type) where
  | missing
  | malformed (message : String)
  | holds (payload : ConfigNode Leaf)

/-- The schema check and the hash may raise. -/
structure ConfigRegistry (Leaf : Type) where
  dangerousKeys : List String
  pendingDir : String := "config/pending"
  validateSchema : ConfigMapping Leaf → Except ConfigError Unit
  hashPayload : ConfigMapping Leaf → Except ConfigError String

structure ValidationReport where
  status : String
  warnings : List String
  dangerousKeys : List String
deriving Repr, DecidableEq

structure ConfigApplyResult where
  status : String
  nextEffectiveAt : Option String
  cfgHash : String
  pendingPath : Option String
deriving Repr, DecidableEq

structure ConfigChange where
  event : String := "audit.config_change"
  ts : String
  actor : Option String
  cfgHash : String
  dangerousKeys : List String
  status : String
  pendingPath : Option String
deriving Repr, DecidableEq

/-- The texts that a call makes of the current time. -/
structure PatchClock where
  nextEffectiveAt : String
  stamp : String
  ts : String

/-- The configuration, the pending patches and the audit log are different files. -/
structure ConfigFiles (Leaf : Type) where
  stored : StoredFile Leaf
  pending : Dict String (ConfigNode Leaf)
  audit : List ConfigChange

section Registry

variable {Leaf : Type}

section Keys

mutual

/-- The keys of one value, of which the full key is already told. -/
def flattenKeysBelow (fullKey : String) : ConfigNode Leaf → List String
  | .leaf _ => []
  | .map entries => flattenKeysFrom fullKey entries

def flattenKeysFrom (lead : String) : List (ConfigKey × ConfigNode Leaf) → List String
  | [] => []
  | (key, value) :: rest =>
    joinKey lead key :: (flattenKeysBelow (joinKey lead key) value ++ flattenKeysFrom lead rest)

end

def flattenKeys (payload : ConfigMapping Leaf) : List String := (flattenKeysFrom "" payload).dedup

def detectDangerous (payload : ConfigMapping Leaf) (keys : List String) : List String :=
  if keys = [] then [] else (flattenKeys payload).filter (fun key => decide (key ∈ keys))

def sorted (keys : List String) : List String := keys.insertionSort (· ≤ ·)

end Keys

def mergeDict (base diff : ConfigMapping Leaf) : ConfigMapping Leaf := Node.overlay base diff

variable [ConfigLeaf Leaf]

/-- The loop of `_deep_get` over the parts that are left. -/
def deepGetFrom : ConfigNode Leaf → List ConfigKey → ConfigNode Leaf
  | current, [] => current
  | .leaf _, _ :: _ => .leaf ConfigLeaf.null
  | .map entries, part :: rest =>
    deepGetFrom ((Dict.lookup part entries).getD (.leaf ConfigLeaf.null)) rest

def deepGet (payload : ConfigMapping Leaf) (key : String) : ConfigNode Leaf :=
  deepGetFrom (.map payload) (splitPath key)

/-- What is read is replaced by an empty mapping when it is falsy. -/
def load : StoredFile Leaf → Except ConfigError (ConfigMapping Leaf)
  | .missing => .ok []
  | .malformed message => .error (.other message)
  | .holds (.map entries) => .ok entries
  | .holds (.leaf value) =>
    if ConfigLeaf.truthy value then .error (.validation "config payload must be a mapping")
    else .ok []

namespace ConfigRegistry

variable (registry : ConfigRegistry Leaf)

def validate (payload : ConfigMapping Leaf) : Except ConfigError ValidationReport := do
  let dangerous := sorted (detectDangerous payload registry.dangerousKeys)
  let warnings :=
    if dangerous = [] then [] else ["dangerous_keys: " ++ ", ".intercalate dangerous]
  registry.validateSchema payload
  return {
    status := if warnings = [] then "ok" else "warn"
    warnings
    dangerousKeys := dangerous }

/-- The merged configuration and its hash, from the steps that come before the
first file is written. -/
def preparePatch (diff : ConfigMapping Leaf) (approved : Bool) (stored : StoredFile Leaf) :
    Except ConfigError (ConfigMapping Leaf × String) := do
  let current ← load stored
  let merged := mergeDict current diff
  let _ ← registry.validate merged
  if detectDangerous diff registry.dangerousKeys ≠ [] ∧ approved = false then
    throw (.changeDenied "dangerous keys require approval")
  let cfgHash ← registry.hashPayload merged
  return (merged, cfgHash)

def pendingPath (stamp : String) : String :=
  registry.pendingDir ++ "/config_patch_" ++ stamp ++ ".yaml"

def applyPatch (clock : PatchClock) (diff : ConfigNode Leaf) (actor : Option String)
    (approved deferDangerous : Bool) (files : ConfigFiles Leaf) :
    ConfigFiles Leaf × Except ConfigError ConfigApplyResult :=
  match diff with
  | .leaf _ => (files, .error (.validation "config diff must be a mapping"))
  | .map changes =>
    match registry.preparePatch changes approved files.stored with
    | .error problem => (files, .error problem)
    | .ok (merged, cfgHash) =>
      let dangerous := sorted (detectDangerous changes registry.dangerousKeys)
      let isPending := decide (dangerous ≠ [])
      let deferred := isPending && deferDangerous
      let path := registry.pendingPath clock.stamp
      let result : ConfigApplyResult := {
        status := if isPending then "pending" else "applied"
        nextEffectiveAt := if isPending then some clock.nextEffectiveAt else none
        cfgHash
        pendingPath := if deferred then some path else none }
      let change : ConfigChange := {
        ts := clock.ts
        actor
        cfgHash
        dangerousKeys := dangerous
        status := result.status
        pendingPath := result.pendingPath }
      ({ stored := if deferred then files.stored else .holds (.map merged)
         pending := if deferred then files.pending.set path diff else files.pending
         audit := files.audit ++ [change] },
        .ok result)

/-! ## Guarding the dangerous keys -/

/-- What `deepGet` finds in the stored configuration is the same. -/
def KeepsValue (before after : StoredFile Leaf) (key : String) : Prop :=
  after = before ∨
    ∃ old new, load before = .ok old ∧ load after = .ok new ∧
      (deepGet new key).Same (deepGet old key)

/-- A dangerous key is named by the patch, or merging it changes the value. -/
def Touches (files : ConfigFiles Leaf) (diff : ConfigMapping Leaf) : Prop :=
  ∃ key ∈ registry.dangerousKeys, key ∈ flattenKeys diff ∨
    ∃ current, load files.stored = .ok current ∧
      ¬ (deepGet (mergeDict current diff) key).Same (deepGet current key)

structure GuardsDangerous (files : ConfigFiles Leaf) (diff : ConfigMapping Leaf) : Prop where
  unapproved : ∀ clock actor deferDangerous, ∀ key ∈ registry.dangerousKeys,
    KeepsValue files.stored
      (registry.applyPatch clock (.map diff) actor false deferDangerous files).1.stored key
  deferred : ∀ clock actor, registry.Touches files diff →
    (registry.applyPatch clock (.map diff) actor true true files).1.stored = files.stored ∧
      ∀ result, (registry.applyPatch clock (.map diff) actor true true files).2 = .ok result →
        ∃ path, result.pendingPath = some path ∧
          (registry.applyPatch clock (.map diff) actor true true files).1.pending.get? path =
            some (.map diff)

/-- The merged configuration passes the schema and can be hashed. -/
def Accepts (payload : ConfigMapping Leaf) : Prop :=
  registry.validateSchema payload = .ok () ∧ ∃ cfgHash, registry.hashPayload payload = .ok cfgHash

end ConfigRegistry

/-- The patch has no leaf above the key, unless nothing stands at it; and where
the key starts with a dot, what the patch has at it stands there already. -/
structure Undisturbed (current diff : ConfigMapping Leaf) (key : String) : Prop where
  above : (Node.map diff).leafAbove (splitPath key) = true →
    deepGet current key = .leaf ConfigLeaf.null
  dotted : ∀ next rest, splitPath key = .str "" :: next :: rest →
    ∀ value, (Node.map diff).at? (splitPath key) = some value → value.Within (deepGet current key)

end Registry

/-! ## The two views of a patch -/

section Views

variable {Leaf : Type} {diff : ConfigMapping Leaf}

theorem mem_detectDangerous_iff {keys : List String} {key : String} :
    key ∈ detectDangerous diff keys ↔ key ∈ keys ∧ key ∈ flattenKeys diff := by
  rw [detectDangerous]
  split
  · rename_i none
    simp [none]
  · simp [and_comm]

/-- The keys that lead to an entry are flattened. -/
theorem mem_flattenKeysFrom_of_lookup {lead : String} {key : ConfigKey} {child : ConfigNode Leaf}
    (found : Dict.lookup key diff = some child) :
    joinKey lead key ∈ flattenKeysFrom lead diff ∧
      ∀ below ∈ flattenKeysBelow (joinKey lead key) child, below ∈ flattenKeysFrom lead diff := by
  induction diff with
  | nil => cases found
  | cons entry rest ih =>
    obtain ⟨first, value⟩ := entry
    rw [Dict.lookup] at found
    rw [flattenKeysFrom]
    split at found
    · rename_i same
      cases found
      subst same
      exact ⟨List.mem_cons_self, fun below member =>
        List.mem_cons_of_mem _ (List.mem_append_left _ member)⟩
    · obtain ⟨named, later⟩ := ih found
      exact ⟨List.mem_cons_of_mem _ (List.mem_append_right _ named), fun below member =>
        List.mem_cons_of_mem _ (List.mem_append_right _ (later below member))⟩

theorem dottedFrom_mem_flattenKeysFrom {lead : String} {key : ConfigKey} {path : List ConfigKey}
    {value : ConfigNode Leaf} (stands : (Node.map diff).at? (key :: path) = some value) :
    dottedFrom lead (key :: path) ∈ flattenKeysFrom lead diff := by
  induction path generalizing lead key diff with
  | nil =>
    obtain ⟨child, found, -⟩ := Option.bind_eq_some_iff.mp stands
    exact (mem_flattenKeysFrom_of_lookup found).1
  | cons next rest ih =>
    obtain ⟨child, found, below⟩ := Option.bind_eq_some_iff.mp stands
    cases child with
    | leaf own => cases below
    | map inner => exact (mem_flattenKeysFrom_of_lookup found).2 _ (ih below)

theorem mem_flattenKeys_of_at? {key : String} {value : ConfigNode Leaf}
    (starts : ∀ next rest, splitPath key ≠ .str "" :: next :: rest)
    (stands : (Node.map diff).at? (splitPath key) = some value) : key ∈ flattenKeys diff := by
  obtain ⟨first, others, parts⟩ :=
    List.exists_cons_of_ne_nil (l := splitPath key) (by simp [splitPath, List.splitOn_ne_nil])
  have same := dotted_splitPath starts
  rw [parts] at stands same
  rw [flattenKeys, List.mem_dedup, ← same]
  exact dottedFrom_mem_flattenKeysFrom stands

variable [ConfigLeaf Leaf] {current : ConfigMapping Leaf}

theorem deepGetFrom_eq (node : ConfigNode Leaf) (path : List ConfigKey) :
    deepGetFrom node path = (node.at? path).getD (.leaf ConfigLeaf.null) := by
  induction path generalizing node with
  | nil => simp [deepGetFrom]
  | cons part rest ih =>
    cases node with
    | leaf own => rfl
    | map entries =>
      rw [deepGetFrom, ih, Node.at?]
      cases Dict.lookup part entries with
      | some child => rfl
      | none =>
        cases rest with
        | nil => rfl
        | cons next rest => rfl

/-- A patch keeps what stands at a key exactly when what it has there stands there
already and it has no leaf above a value. -/
theorem same_deepGet_mergeDict_iff (distinct : (Node.map diff).Distinct) (key : String) :
    (deepGet (mergeDict current diff) key).Same (deepGet current key) ↔
      ((Node.map diff).leafAbove (splitPath key) = true →
          deepGet current key = .leaf ConfigLeaf.null) ∧
        ∀ value, (Node.map diff).at? (splitPath key) = some value →
          value.Within (deepGet current key) := by
  have merged := Node.at?_overlayNode (some (.map current)) distinct (splitPath key)
  rw [Node.overlayNode, Option.bind_some] at merged
  rw [deepGet, deepGet, deepGetFrom_eq, deepGetFrom_eq, mergeDict, merged]
  cases given : (Node.map diff).at? (splitPath key) with
  | some value =>
    have laid : (Node.overlayNode ((Node.map current).at? (splitPath key)) value).Same
          (((Node.map current).at? (splitPath key)).getD (.leaf ConfigLeaf.null)) ↔
        value.Within (((Node.map current).at? (splitPath key)).getD (.leaf ConfigLeaf.null)) := by
      rw [← Node.same_overlayNode_iff _ (Node.distinct_of_at? distinct given)]
      cases (Node.map current).at? (splitPath key) with
      | some old => rfl
      | none => rw [Option.getD_none, Node.overlayNode_leaf, Node.overlayNode_none]
    simp only [Option.getD_some, laid, Node.leafAbove_of_at? given, Bool.false_eq_true,
      false_implies, Option.some.injEq, forall_eq', true_and]
  | none =>
    cases above : (Node.map diff).leafAbove (splitPath key) with
    | true => simp [Node.same_leaf_iff]
    | false =>
      simp only [Bool.false_eq_true, if_false, false_implies, reduceCtorEq, implies_true,
        and_self, iff_true]
      exact fun path => rfl

theorem same_deepGet_iff_undisturbed (distinct : (Node.map diff).Distinct) {keys : List String}
    {key : String} (dangerous : key ∈ keys) (undetected : detectDangerous diff keys = []) :
    (deepGet (mergeDict current diff) key).Same (deepGet current key) ↔
      Undisturbed current diff key := by
  rw [same_deepGet_mergeDict_iff distinct]
  constructor
  · rintro ⟨above, within⟩
    exact ⟨above, fun next rest _ => within⟩
  · rintro ⟨above, dotted⟩
    refine ⟨above, fun value given => ?_⟩
    by_cases starts : ∀ next rest, splitPath key ≠ .str "" :: next :: rest
    · have detected : key ∈ detectDangerous diff keys :=
        mem_detectDangerous_iff.mpr ⟨dangerous, mem_flattenKeys_of_at? starts given⟩
      rw [undetected] at detected
      cases detected
    · simp only [ne_eq, not_forall, not_not] at starts
      obtain ⟨next, rest, same⟩ := starts
      exact dotted next rest same value given

end Views

/-! ## What a call leaves -/

section Calls

variable {Leaf : Type} [ConfigLeaf Leaf] {registry : ConfigRegistry Leaf}
  {diff merged : ConfigMapping Leaf} {approved deferDangerous : Bool} {stored : StoredFile Leaf}
  {cfgHash : String} {files : ConfigFiles Leaf} {clock : PatchClock} {actor : Option String}

theorem sorted_eq_nil_iff {keys : List String} : sorted keys = [] ↔ keys = [] := by
  rw [sorted, ← List.length_eq_zero_iff, List.length_insertionSort, List.length_eq_zero_iff]

namespace ConfigRegistry

theorem preparePatch_of_load_error {problem : ConfigError}
    (failed : load stored = .error problem) :
    registry.preparePatch diff approved stored = .error problem := by
  simp [preparePatch, failed, bind, Except.bind]

theorem preparePatch_eq_ok_iff {current : ConfigMapping Leaf} (loaded : load stored = .ok current) :
    registry.preparePatch diff approved stored = .ok (merged, cfgHash) ↔
      mergeDict current diff = merged ∧
        registry.validateSchema (mergeDict current diff) = .ok () ∧
        ¬ (detectDangerous diff registry.dangerousKeys ≠ [] ∧ approved = false) ∧
        registry.hashPayload (mergeDict current diff) = .ok cfgHash := by
  cases valid : registry.validateSchema (mergeDict current diff) with
  | error problem => simp [preparePatch, validate, loaded, valid, bind, Except.bind]
  | ok passed =>
    by_cases denied : detectDangerous diff registry.dangerousKeys ≠ [] ∧ approved = false
    · simp [preparePatch, validate, loaded, valid, denied, bind, Except.bind, pure, Except.pure,
        throw, throwThe, MonadExceptOf.throw]
    · cases hashed : registry.hashPayload (mergeDict current diff) with
      | error problem =>
        simp [preparePatch, validate, loaded, valid, denied, hashed, bind, Except.bind, pure,
          Except.pure]
      | ok found =>
        simp [preparePatch, validate, loaded, valid, denied, hashed, bind, Except.bind, pure,
          Except.pure]

theorem KeepsValue.same {before after : StoredFile Leaf} {key : String}
    {old new : ConfigMapping Leaf} (keeps : KeepsValue before after key)
    (oldLoaded : load before = .ok old) (newLoaded : load after = .ok new) :
    (deepGet new key).Same (deepGet old key) := by
  rcases keeps with rfl | ⟨first, second, firstLoaded, secondLoaded, same⟩
  · rw [oldLoaded] at newLoaded
    rw [Except.ok.inj newLoaded]
    exact fun path => rfl
  · rw [oldLoaded] at firstLoaded
    rw [newLoaded] at secondLoaded
    rw [Except.ok.inj firstLoaded, Except.ok.inj secondLoaded]
    exact same

theorem applyPatch_of_error {problem : ConfigError}
    (failed : registry.preparePatch diff approved files.stored = .error problem) :
    registry.applyPatch clock (.map diff) actor approved deferDangerous files =
      (files, .error problem) := by
  rw [applyPatch, failed]

theorem stored_applyPatch
    (prepared : registry.preparePatch diff approved files.stored = .ok (merged, cfgHash)) :
    (registry.applyPatch clock (.map diff) actor approved deferDangerous files).1.stored =
      if detectDangerous diff registry.dangerousKeys ≠ [] ∧ deferDangerous = true then files.stored
      else .holds (.map merged) := by
  rw [applyPatch, prepared]
  simp [sorted_eq_nil_iff]

theorem pending_applyPatch
    (dangerous : detectDangerous diff registry.dangerousKeys ≠ [])
    (prepared : registry.preparePatch diff true files.stored = .ok (merged, cfgHash))
    (path : String) :
    (registry.applyPatch clock (.map diff) actor true true files).1.pending.get? path =
      if registry.pendingPath clock.stamp = path then some (.map diff)
      else files.pending.get? path := by
  rw [applyPatch, prepared]
  simp [sorted_eq_nil_iff, dangerous, Dict.get?_set]

theorem pendingPath_applyPatch {result : ConfigApplyResult}
    (dangerous : detectDangerous diff registry.dangerousKeys ≠ [])
    (returned : (registry.applyPatch clock (.map diff) actor true true files).2 = .ok result) :
    result.pendingPath = some (registry.pendingPath clock.stamp) := by
  rw [applyPatch] at returned
  split at returned
  · cases returned
  · cases returned
    simp [sorted_eq_nil_iff, dangerous]

theorem exists_of_preparePatch
    (prepared : registry.preparePatch diff approved stored = .ok (merged, cfgHash)) :
    ∃ current, load stored = .ok current ∧ mergeDict current diff = merged ∧
      registry.Accepts merged ∧
      ¬ (detectDangerous diff registry.dangerousKeys ≠ [] ∧ approved = false) := by
  cases loaded : load stored with
  | error problem =>
    rw [preparePatch_of_load_error loaded] at prepared
    cases prepared
  | ok current =>
    obtain ⟨rfl, valid, allowed, hashed⟩ := (preparePatch_eq_ok_iff loaded).mp prepared
    exact ⟨current, rfl, rfl, ⟨valid, cfgHash, hashed⟩, allowed⟩

/-- A registry guards its dangerous keys exactly when a patch that names none of
them leaves all of them alone. -/
theorem guardsDangerous_iff (registry : ConfigRegistry Leaf) (files : ConfigFiles Leaf)
    (diff : ConfigMapping Leaf) (distinct : (Node.map diff).Distinct) :
    registry.GuardsDangerous files diff ↔
      ∀ current, load files.stored = .ok current → registry.Accepts (mergeDict current diff) →
        detectDangerous diff registry.dangerousKeys = [] →
        ∀ key ∈ registry.dangerousKeys, Undisturbed current diff key := by
  constructor
  · rintro guards current loaded ⟨valid, cfgHash, hashed⟩ undetected key dangerous
    have prepared : registry.preparePatch diff false files.stored =
        .ok (mergeDict current diff, cfgHash) :=
      (preparePatch_eq_ok_iff loaded).mpr ⟨rfl, valid, fun denied => denied.1 undetected, hashed⟩
    have written : (registry.applyPatch ⟨"", "", ""⟩ (.map diff) none false false files).1.stored =
        _ := stored_applyPatch prepared
    rw [if_neg (by simp)] at written
    rw [← same_deepGet_iff_undisturbed distinct dangerous undetected]
    have keeps := guards.unapproved ⟨"", "", ""⟩ none false key dangerous
    rw [written] at keeps
    exact keeps.same loaded rfl
  · intro condition
    constructor
    · intro clock actor deferDangerous key dangerous
      cases outcome : registry.preparePatch diff false files.stored with
      | error problem => exact .inl (by rw [applyPatch_of_error outcome])
      | ok prepared =>
        obtain ⟨merged, cfgHash⟩ := prepared
        obtain ⟨current, loaded, rfl, accepted, allowed⟩ := exists_of_preparePatch outcome
        have undetected : detectDangerous diff registry.dangerousKeys = [] := by
          by_contra detected
          exact allowed ⟨detected, rfl⟩
        refine .inr ⟨current, mergeDict current diff, loaded, ?_, ?_⟩
        · rw [stored_applyPatch outcome, if_neg (fun both => both.1 undetected)]
          rfl
        · exact (same_deepGet_iff_undisturbed distinct dangerous undetected).mpr
            (condition current loaded accepted undetected key dangerous)
    · intro clock actor touches
      cases outcome : registry.preparePatch diff true files.stored with
      | error problem =>
        rw [applyPatch_of_error outcome]
        exact ⟨rfl, fun result returned => nomatch returned⟩
      | ok prepared =>
        obtain ⟨merged, cfgHash⟩ := prepared
        obtain ⟨current, loaded, rfl, accepted, -⟩ := exists_of_preparePatch outcome
        have detected : detectDangerous diff registry.dangerousKeys ≠ [] := by
          intro undetected
          obtain ⟨key, dangerous, named | ⟨_, again, changed⟩⟩ := touches
          · have found := mem_detectDangerous_iff.mpr ⟨dangerous, named⟩
            rw [undetected] at found
            cases found
          · rw [loaded] at again
            cases again
            exact changed ((same_deepGet_iff_undisturbed distinct dangerous undetected).mpr
              (condition current loaded accepted undetected key dangerous))
        rw [stored_applyPatch outcome, if_pos ⟨detected, rfl⟩]
        exact ⟨rfl, fun result returned => ⟨_, pendingPath_applyPatch detected returned, by
          rw [pending_applyPatch detected outcome, if_pos rfl]⟩⟩

end ConfigRegistry

end Calls

/-! ## A sample registry -/

instance : ConfigLeaf (Option Int) where
  null := none
  truthy value := decide (value ≠ none ∧ value ≠ some 0)

def sampleRegistry (dangerousKeys : List String) : ConfigRegistry (Option Int) where
  dangerousKeys
  validateSchema _ := .ok ()
  hashPayload _ := .ok ""

def samplePatch (outer inner : String) (value : Int) : ConfigMapping (Option Int) :=
  [(.str outer, .map [(.str inner, .leaf (some value))])]

def sampleFiles : ConfigFiles (Option Int) where
  stored := .holds (.map (samplePatch "risk" "cap" 1))
  pending := .empty
  audit := []

theorem distinct_samplePatch (outer inner : String) (value : Int) :
    (Node.map (samplePatch outer inner value)).Distinct :=
  ⟨by simp [samplePatch], ⟨⟨by simp, ⟨trivial, trivial⟩⟩, trivial⟩⟩

/-- A patch of another key. -/
theorem guardsDangerous_sample :
    (sampleRegistry ["risk.cap"]).GuardsDangerous sampleFiles (samplePatch "risk" "floor" 2) := by
  refine (ConfigRegistry.guardsDangerous_iff _ _ _ (distinct_samplePatch _ _ _)).mpr ?_
  intro current loaded _ _ key dangerous
  obtain rfl := List.mem_singleton.mp dangerous
  have parts : splitPath "risk.cap" = [.str "risk", .str "cap"] := by decide +kernel
  constructor
  · rw [parts]
    intro above
    cases above
  · intro next rest starts
    simp [parts] at starts

/-- A null in place of the mapping of a dangerous key, and a value below an empty
key, are merged without approval. -/
theorem unguarded_dangerous :
    ¬ (sampleRegistry ["risk.cap"]).GuardsDangerous sampleFiles [(.str "risk", .leaf none)] ∧
      ¬ (sampleRegistry [".cap"]).GuardsDangerous sampleFiles (samplePatch "" "cap" 5) := by
  constructor
  · intro guards
    have keeps := guards.unapproved ⟨"", "", ""⟩ none true "risk.cap" List.mem_cons_self
    exact absurd (keeps.same rfl rfl []) (by decide +kernel)
  · intro guards
    have keeps := guards.unapproved ⟨"", "", ""⟩ none true ".cap" List.mem_cons_self
    exact absurd (keeps.same rfl rfl []) (by decide +kernel)

end FxToushi.Config
