import FxToushi.Config.Registry
import FxToushi.Data.Runs

namespace FxToushi.Config

open Data

/-! # Runs of the configuration registry

Patches are refused, put aside, or merged.  The stored configuration is made of
the merged ones in their order, every call that returns leaves one record in the
audit log, and the last record of a merged patch has the hash of what is stored.
-/

/-- A call of `apply_patch`.  A mapping has every key once. -/
structure PatchCall (Leaf : Type) where
  clock : PatchClock
  diff : ConfigNode Leaf
  distinct : diff.Distinct
  actor : Option String := none
  approved : Bool := false
  deferDangerous : Bool := true

section Runs

variable {Leaf : Type} [ConfigLeaf Leaf]

namespace ConfigRegistry

variable (registry : ConfigRegistry Leaf)

def apply (files : ConfigFiles Leaf) (call : PatchCall Leaf) :
    ConfigFiles Leaf × Except ConfigError ConfigApplyResult :=
  registry.applyPatch call.clock call.diff call.actor call.approved call.deferDangerous files

def after (files : ConfigFiles Leaf) (call : PatchCall Leaf) : ConfigFiles Leaf :=
  (registry.apply files call).1

/-- The patch that a call merges, if it returns and does not put it aside. -/
def merged (files : ConfigFiles Leaf) (call : PatchCall Leaf) : Option (ConfigMapping Leaf) :=
  match call.diff, (registry.apply files call).2 with
  | .map changes, .ok result => if result.pendingPath = none then some changes else none
  | _, _ => none

def mergedIn (files : ConfigFiles Leaf) : List (PatchCall Leaf) → List (ConfigMapping Leaf)
  | [] => []
  | call :: rest => (registry.merged files call).toList ++ mergedIn (registry.after files call) rest

/-- The results of the calls that return. -/
def returned (files : ConfigFiles Leaf) : List (PatchCall Leaf) → List ConfigApplyResult
  | [] => []
  | call :: rest =>
    (registry.apply files call).2.toOption.toList ++ returned (registry.after files call) rest

end ConfigRegistry

/-- What a record tells of the result of its call. -/
structure Outcome where
  status : String
  cfgHash : String
  pendingPath : Option String
deriving Repr, DecidableEq

def ConfigChange.outcome (change : ConfigChange) : Outcome :=
  ⟨change.status, change.cfgHash, change.pendingPath⟩

def ConfigApplyResult.outcome (result : ConfigApplyResult) : Outcome :=
  ⟨result.status, result.cfgHash, result.pendingPath⟩

/-- The record of a merged patch. -/
def ConfigChange.isMerged (change : ConfigChange) : Bool := decide (change.pendingPath = none)

namespace ConfigRegistry

variable {registry : ConfigRegistry Leaf} {files : ConfigFiles Leaf} {call : PatchCall Leaf}
  {current : ConfigMapping Leaf}

/-- A call is refused, puts its patch aside, or merges it. -/
theorem apply_cases (call : PatchCall Leaf) (loaded : load files.stored = .ok current) :
    (∃ problem, registry.apply files call = (files, .error problem)) ∨
      (∃ pending change result, registry.apply files call =
          ({ files with pending, audit := files.audit ++ [change] }, .ok result) ∧
        change.outcome = result.outcome ∧ change.isMerged = false) ∨
      ∃ changes change result, call.diff = .map changes ∧ registry.apply files call =
          ({ files with
              stored := .holds (.map (mergeDict current changes))
              audit := files.audit ++ [change] }, .ok result) ∧
        change.outcome = result.outcome ∧ change.isMerged = true ∧
        registry.hashPayload (mergeDict current changes) = .ok change.cfgHash := by
  rw [apply]
  cases diff : call.diff with
  | leaf value => exact .inl ⟨_, rfl⟩
  | map changes =>
    cases prepared : registry.preparePatch changes call.approved files.stored with
    | error problem => exact .inl ⟨problem, applyPatch_of_error prepared⟩
    | ok made =>
      obtain ⟨merged, cfgHash⟩ := made
      obtain ⟨rfl, -, -, hashed⟩ := (preparePatch_eq_ok_iff loaded).mp prepared
      rw [applyPatch, prepared]
      dsimp only
      generalize (decide (sorted (detectDangerous changes registry.dangerousKeys) ≠ []) &&
        call.deferDangerous) = deferred
      cases deferred with
      | true => exact .inr (.inl ⟨_, _, _, rfl, rfl, rfl⟩)
      | false => exact .inr (.inr ⟨changes, _, _, rfl, rfl, rfl, rfl, hashed⟩)

theorem merged_of_error {problem : ConfigError}
    (refused : (registry.apply files call).2 = .error problem) :
    registry.merged files call = none := by
  rw [merged, refused]
  cases call.diff with
  | leaf value => rfl
  | map changes => rfl

theorem merged_of_pending {result : ConfigApplyResult}
    (applied : (registry.apply files call).2 = .ok result) (aside : result.pendingPath ≠ none) :
    registry.merged files call = none := by
  rw [merged, applied]
  cases call.diff with
  | leaf value => rfl
  | map changes => exact if_neg aside

theorem merged_of_ok {changes : ConfigMapping Leaf} {result : ConfigApplyResult}
    (diff : call.diff = .map changes) (applied : (registry.apply files call).2 = .ok result)
    (counts : result.pendingPath = none) : registry.merged files call = some changes := by
  rw [merged, applied, diff]
  exact if_pos counts

theorem mergedIn_append (files : ConfigFiles Leaf) (calls later : List (PatchCall Leaf)) :
    registry.mergedIn files (calls ++ later) =
      registry.mergedIn files calls ++ registry.mergedIn
        (runFrom registry.after files calls) later := by
  induction calls generalizing files with
  | nil => rfl
  | cons call rest ih => rw [List.cons_append, mergedIn, mergedIn, ih, List.append_assoc]; rfl

theorem returned_append (files : ConfigFiles Leaf) (calls later : List (PatchCall Leaf)) :
    registry.returned files (calls ++ later) =
      registry.returned files calls ++ registry.returned
        (runFrom registry.after files calls) later := by
  induction calls generalizing files with
  | nil => rfl
  | cons call rest ih => rw [List.cons_append, returned, returned, ih, List.append_assoc]; rfl

/-- What the files hold after the calls, for what was stored and audited before. -/
structure Holds (registry : ConfigRegistry Leaf) (current : ConfigMapping Leaf)
    (audit : List ConfigChange) (merges : List (ConfigMapping Leaf))
    (results : List ConfigApplyResult) (files : ConfigFiles Leaf) : Prop where
  stored : load files.stored = .ok (merges.foldl mergeDict current)
  audited : ∃ records, files.audit = audit ++ records ∧
    records.map ConfigChange.outcome = results.map ConfigApplyResult.outcome ∧
    ∀ last ∈ (records.filter ConfigChange.isMerged).getLast?,
      registry.hashPayload (merges.foldl mergeDict current) = .ok last.cfgHash

theorem Holds.step {audit : List ConfigChange} {merges : List (ConfigMapping Leaf)}
    {results : List ConfigApplyResult}
    (holds : Holds registry current audit merges results files) (call : PatchCall Leaf) :
    Holds registry current audit (merges ++ (registry.merged files call).toList)
      (results ++ (registry.apply files call).2.toOption.toList) (registry.after files call) := by
  obtain ⟨stored, records, audited, alike, certified⟩ := holds
  rcases registry.apply_cases call stored with ⟨problem, applied⟩ |
    ⟨pending, change, result, applied, same, aside⟩ |
    ⟨changes, change, result, diff, applied, same, counts, hashed⟩
  · have none : registry.merged files call = none := merged_of_error (by rw [applied])
    rw [none, after, applied]
    simp only [Option.toList_none, List.append_nil, Except.toOption]
    exact ⟨stored, records, audited, alike, certified⟩
  · have none : registry.merged files call = none := by
      rw [ConfigChange.isMerged, decide_eq_false_iff_not] at aside
      rw [ConfigChange.outcome, ConfigApplyResult.outcome, Outcome.mk.injEq] at same
      rw [same.2.2] at aside
      exact merged_of_pending (by rw [applied]) aside
    rw [none, after, applied]
    simp only [Option.toList_none, List.append_nil, Except.toOption, Option.toList_some]
    refine ⟨stored, records ++ [change], ?_, ?_, ?_⟩
    · rw [audited, List.append_assoc]
    · rw [List.map_append, List.map_append, alike, List.map_singleton, List.map_singleton, same]
    · rw [List.filter_append, List.filter_singleton, aside]
      simpa using certified
  · have some : registry.merged files call = some changes := by
      rw [ConfigChange.isMerged, decide_eq_true_iff] at counts
      rw [ConfigChange.outcome, ConfigApplyResult.outcome, Outcome.mk.injEq] at same
      rw [same.2.2] at counts
      exact merged_of_ok diff (by rw [applied]) counts
    rw [some, after, applied]
    simp only [Except.toOption, Option.toList_some]
    refine ⟨?_, records ++ [change], ?_, ?_, ?_⟩
    · rw [load, List.foldl_append]
      rfl
    · rw [audited, List.append_assoc]
    · rw [List.map_append, List.map_append, alike, List.map_singleton, List.map_singleton, same]
    · rw [List.filter_append, List.filter_singleton, counts]
      intro last member
      simp at member
      subst member
      rw [List.foldl_append]
      exact hashed

theorem holds_run (registry : ConfigRegistry Leaf) (loaded : load files.stored = .ok current)
    (calls : List (PatchCall Leaf)) :
    Holds registry current files.audit (registry.mergedIn files calls)
      (registry.returned files calls) (runFrom registry.after files calls) := by
  induction calls using List.reverseRecOn with
  | nil => exact ⟨loaded, [], (List.append_nil _).symm, rfl, by simp⟩
  | append_singleton calls call ih =>
    have snoc : runFrom registry.after files (calls ++ [call]) =
        registry.after (runFrom registry.after files calls) call := List.foldl_append
    rw [snoc, mergedIn_append, returned_append, mergedIn, mergedIn, returned, returned,
      List.append_nil, List.append_nil]
    exact ih.step call

theorem distinct_of_mergedIn (files : ConfigFiles Leaf) (calls : List (PatchCall Leaf)) :
    ∀ layer ∈ registry.mergedIn files calls, (Node.map layer).Distinct := by
  induction calls generalizing files with
  | nil => exact fun layer member => absurd member List.not_mem_nil
  | cons call rest ih =>
    intro layer member
    rw [mergedIn, List.mem_append, Option.mem_toList] at member
    rcases member with here | later
    · rw [merged] at here
      split at here
      · rename_i changes result diff applied
        obtain ⟨counts, same⟩ := Option.ite_none_right_eq_some.mp here
        rw [← Option.some.inj same, ← diff]
        exact call.distinct
      · cases here
    · exact ih _ layer later

/-- After any calls the stored configuration shows at every path what the last merged
patch says that says anything of it, each call that returned has its record, and the
last record of a merged patch has the hash of the stored configuration. -/
theorem patches_run (registry : ConfigRegistry Leaf) (loaded : load files.stored = .ok current)
    (calls : List (PatchCall Leaf)) :
    ∃ final, load (runFrom registry.after files calls).stored = .ok final ∧
      (∀ path, (Node.map final).see path =
        ((registry.mergedIn files calls).reverse.findSome? fun layer =>
          Node.told layer path).getD ((Node.map current).see path)) ∧
      ∃ records, (runFrom registry.after files calls).audit = files.audit ++ records ∧
        records.map ConfigChange.outcome =
          (registry.returned files calls).map ConfigApplyResult.outcome ∧
        ∀ last ∈ (records.filter ConfigChange.isMerged).getLast?,
          registry.hashPayload final = .ok last.cfgHash := by
  obtain ⟨stored, audited⟩ := registry.holds_run loaded calls
  exact ⟨_, stored, Node.see_overlays (distinct_of_mergedIn files calls), audited⟩

end ConfigRegistry

end Runs

/-! ## Two sample patches -/

def sampleCall (inner : String) (value : Int) : PatchCall (Option Int) where
  clock := ⟨"", "", ""⟩
  diff := .map (samplePatch "risk" inner value)
  distinct := distinct_samplePatch "risk" inner value

/-- A patch of the floor is merged, and one of the dangerous cap is refused. -/
theorem patches_floorAndCap : ∃ final,
    load (runFrom (sampleRegistry ["risk.cap"]).after sampleFiles
      [sampleCall "floor" 2, sampleCall "cap" 3]).stored = .ok final ∧
    (Node.map final).see [.str "risk", .str "floor"] = some (.leaf (some 2)) ∧
    (Node.map final).see [.str "risk", .str "cap"] = some (.leaf (some 1)) := by
  have loaded : load sampleFiles.stored = .ok (samplePatch "risk" "cap" 1) := rfl
  obtain ⟨final, after, shown, -⟩ := (sampleRegistry ["risk.cap"]).patches_run loaded
    [sampleCall "floor" 2, sampleCall "cap" 3]
  refine ⟨final, after, ?_, ?_⟩
  · rw [shown]
    decide +kernel
  · rw [shown]
    decide +kernel

end FxToushi.Config
