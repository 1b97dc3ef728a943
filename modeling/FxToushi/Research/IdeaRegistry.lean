import FxToushi.Brokers.OrderRecords
import FxToushi.Data.Runs
import FxToushi.Py.Containers

namespace FxToushi.Research

open Brokers Data Py

/-! # Idea registry

The stage of a research idea, its checklists and the advance to another stage.
A manifest is what its YAML file reads as.
-/

/-- `STAGE_ORDER`. -/
inductive ResearchStage where
  | draft
  | screening
  | paper
  | ready
deriving Repr, DecidableEq

namespace ResearchStage

def stageOrder : List ResearchStage := [draft, screening, paper, ready]

def name : ResearchStage → String
  | draft => "draft"
  | screening => "screening"
  | paper => "paper"
  | ready => "ready"

def index (stage : ResearchStage) : Nat := stageOrder.idxOf stage

/-- `DEFAULT_STAGE_REQUIREMENTS`. -/
def requirements : ResearchStage → List String
  | draft => ["hypothesis"]
  | screening => ["data_sources", "baseline_metrics"]
  | paper => ["validation_report", "risk_review"]
  | ready => ["ops_signoff"]

def ofName? (text : String) : Option ResearchStage :=
  stageOrder.find? (fun stage => stage.name == text)

@[simp] theorem ofName?_name (stage : ResearchStage) : ofName? stage.name = some stage := by
  cases stage <;> decide

theorem name_truth (stage : ResearchStage) : (Value.str stage.name).truth = true := by
  cases stage <;> decide

theorem requirements_ne_nil (stage : ResearchStage) : stage.requirements ≠ [] := by
  cases stage <;> decide

end ResearchStage

inductive ResearchError where
  | stageTransition (message : String)
  | stageIncomplete (ideaId : String) (missing : List String)
  | python (error : PyError)
deriving Repr, DecidableEq

def ResearchError.message : ResearchError → String
  | stageTransition message => message
  | stageIncomplete ideaId missing =>
    "Checklist incomplete for " ++ ideaId ++ ": " ++ ", ".intercalate missing
  | python _ => ""

def unknownStage (stage : String) : ResearchError :=
  .stageTransition ("Unknown stage '" ++ stage ++
    "' (expected ('draft', 'screening', 'paper', 'ready'))")

def cannotRegress (current target : ResearchStage) : ResearchError :=
  .stageTransition ("Cannot regress stage from " ++ current.name ++ " to " ++ target.name ++
    " without --force")

def validateStage (stage : String) : Except ResearchError ResearchStage :=
  match ResearchStage.ofName? stage with
  | some found => .ok found
  | none => .error (unknownStage stage)

/-- The stage of a manifest, as `_parse_idea_record` reads it. -/
def stageOf (manifest : Mapping) : Except ResearchError ResearchStage :=
  validateStage (orValue (valueAt manifest "stage") (.str "draft")).text

def asList : Value → List String
  | .null => []
  | .list items => (items.map Value.text).filter (fun text => decide (strip text ≠ ""))
  | value => [value.text]

/-- `str(value) if value else None`. -/
def textOrNone (value : Value) : Option String := if value.truth then some value.text else none

structure StageChecklist where
  stage : ResearchStage
  requiredEvidence : List String
  completed : List String
  signoff : Option String := none
  artifacts : List String := []

def completedSet (completed : List String) : List String :=
  (completed.filter (fun item => decide (strip item ≠ ""))).map strip

def StageChecklist.missing (checklist : StageChecklist) : List String :=
  checklist.requiredEvidence.filter
    (fun item => decide (item ∉ completedSet checklist.completed))

/-- The entry of a stage, which is read as a mapping without a check. -/
def checklistEntry (manifest : Mapping) (stage : ResearchStage) : Value :=
  match orValue (valueAt manifest "checklists") (.map []) with
  | .map checklists => valueAt checklists stage.name
  | _ => .map []

def parseChecklist (manifest : Mapping) (stage : ResearchStage) :
    Except ResearchError StageChecklist :=
  match checklistEntry manifest stage with
  | .map entry =>
    .ok {
      stage
      requiredEvidence := stage.requirements
      completed := asList (valueAt entry "completed")
      signoff := textOrNone (valueAt entry "signoff")
      artifacts := asList (valueAt entry "artifacts") }
  | _ => .error (.python .attributeError)

structure StageChange where
  ts : String
  fromStage : String
  toStage : String
  actor : Option String
  note : Option String
  force : Bool

def optionalText (text : Option String) : Value := text.elim .null .str

def StageChange.toDict (change : StageChange) : Value :=
  .map [("ts", .str change.ts), ("from", .str change.fromStage), ("to", .str change.toStage),
    ("actor", optionalText change.actor), ("note", optionalText change.note),
    ("force", .bool change.force)]

def parseStageChange (entry : Mapping) (utcnow : String) : StageChange where
  ts := (orValue (valueAt entry "ts") (.str utcnow)).text
  fromStage := (orValue (valueAt entry "from") (.str "")).text
  toStage := (orValue (valueAt entry "to") (.str "")).text
  actor := textOrNone (valueAt entry "actor")
  note := textOrNone (valueAt entry "note")
  force := ((Mapping.get? entry "force").getD (.bool false)).truth

def parseStageHistory (history : Value) (utcnow : String) : List StageChange :=
  match history with
  | .list entries => (entries.filterMap Value.mapping?).map (parseStageChange · utcnow)
  | _ => []

/-- What an advance is called with, without its target. -/
structure AdvanceCall where
  ideaId : String
  manifestPath : String
  note : Option String := none
  actor : Option String := none
  force : Bool := false
  utcnow : String

/-- The checklist that is returned, the manifest and the event that are written. -/
structure Advanced where
  checklist : StageChecklist
  manifest : Mapping
  event : Value

def advancedTo (call : AdvanceCall) (manifest : Mapping) (current target : ResearchStage)
    (checklist : StageChecklist) : Advanced :=
  let staged := manifest.set "stage" (.str target.name)
  let change : StageChange := ⟨call.utcnow, current.name, target.name, call.actor, call.note,
    call.force⟩
  let history := parseStageHistory (valueAt staged "stage_history") call.utcnow ++ [change]
  { checklist
    manifest := staged.set "stage_history" (.list (history.map StageChange.toDict))
    event := .map [("event", .str "research.idea.stage_changed"), ("ts", .str call.utcnow),
      ("idea_id", .str call.ideaId), ("from", .str current.name), ("to", .str target.name),
      ("actor", optionalText call.actor), ("note", optionalText call.note),
      ("force", .bool call.force), ("manifest_path", .str call.manifestPath)] }

def advanceStage (call : AdvanceCall) (manifest : Mapping) (targetStage : String) :
    Except ResearchError Advanced := do
  let current ← stageOf manifest
  let target ← validateStage targetStage
  if target.index < current.index ∧ call.force = false then throw (cannotRegress current target)
  let checklist ← parseChecklist manifest target
  if checklist.missing ≠ [] ∧ call.force = false then
    throw (.stageIncomplete call.ideaId checklist.missing)
  return advancedTo call manifest current target checklist

/-! ## What a stage is worth -/

/-- The items completed for a stage, none where the entry is no mapping. -/
def completedItems (manifest : Mapping) (stage : ResearchStage) : List String :=
  match checklistEntry manifest stage with
  | .map entry => completedSet (asList (valueAt entry "completed"))
  | _ => []

def Complete (manifest : Mapping) (stage : ResearchStage) : Prop :=
  ∀ item ∈ stage.requirements, item ∈ completedItems manifest stage

/-- Every stage after `draft` up to the stage of the idea is complete. -/
def Earned (manifest : Mapping) : Prop :=
  ∀ current, stageOf manifest = .ok current →
    ∀ stage, 0 < stage.index → stage.index ≤ current.index → Complete manifest stage

/-- No checklist for the stage, or one without an item. -/
def MissingOrEmpty (manifest : Mapping) (stage : ResearchStage) : Prop :=
  (valueAt (valueAt manifest "checklists").asMapping stage.name).truth = false ∨
    completedItems manifest stage = [] ∧ ∃ entry, checklistEntry manifest stage = .map entry

/-- The advance comes as far as the checklist of its target. -/
def Reaches (manifest : Mapping) (targetStage : String) (current target : ResearchStage) : Prop :=
  stageOf manifest = .ok current ∧ validateStage targetStage = .ok target ∧
    current.index ≤ target.index

/-! ## The advance -/

section Advance

variable {call : AdvanceCall} {manifest : Mapping} {targetStage : String}
  {current target : ResearchStage}

theorem missing_eq_nil_iff {entry : Mapping} (found : checklistEntry manifest target = .map entry)
    {checklist : StageChecklist} (required : checklist.requiredEvidence = target.requirements)
    (listed : checklist.completed = asList (valueAt entry "completed")) :
    checklist.missing = [] ↔ Complete manifest target := by
  simp [StageChecklist.missing, Complete, completedItems, found, required, listed,
    List.filter_eq_nil_iff]

theorem complete_found (complete : Complete manifest target) :
    ∃ entry, checklistEntry manifest target = .map entry := by
  obtain ⟨item, required⟩ := List.exists_mem_of_ne_nil _ target.requirements_ne_nil
  have listed := complete item required
  unfold completedItems at listed
  split at listed
  · rename_i entry found
    exact ⟨entry, found⟩
  · cases listed

theorem advance_of_unreached (unreached : ¬ ∃ current target,
      Reaches manifest targetStage current target) (unforced : call.force = false) :
    ∃ error, advanceStage call manifest targetStage = .error error := by
  unfold advanceStage
  cases staged : stageOf manifest with
  | error error => exact ⟨error, rfl⟩
  | ok current =>
    cases valid : validateStage targetStage with
    | error error => exact ⟨error, rfl⟩
    | ok target =>
      have below : target.index < current.index := by
        by_contra above
        exact unreached ⟨current, target, staged, valid, not_lt.mp above⟩
      refine ⟨cannotRegress current target, ?_⟩
      simp only [bind, Except.bind, if_pos (And.intro below unforced)]
      rfl

theorem advance_of_reached (reaches : Reaches manifest targetStage current target) :
    advanceStage call manifest targetStage = (do
      let checklist ← parseChecklist manifest target
      if checklist.missing ≠ [] ∧ call.force = false then
        throw (.stageIncomplete call.ideaId checklist.missing)
      return advancedTo call manifest current target checklist) := by
  obtain ⟨staged, valid, above⟩ := reaches
  have notBelow : ¬ (target.index < current.index ∧ call.force = false) :=
    fun both => absurd both.1 (not_lt.mpr above)
  simp only [advanceStage, staged, valid, bind, Except.bind, if_neg notBelow]

theorem advance_of_unread (reaches : Reaches manifest targetStage current target)
    (unread : ¬ ∃ entry, checklistEntry manifest target = .map entry) :
    advanceStage call manifest targetStage = .error (.python .attributeError) := by
  have raised : parseChecklist manifest target = .error (.python .attributeError) := by
    unfold parseChecklist
    split
    · rename_i entry found
      exact absurd ⟨entry, found⟩ unread
    · rfl
  rw [advance_of_reached reaches, raised]
  rfl

theorem advance_of_incomplete (reaches : Reaches manifest targetStage current target)
    (unforced : call.force = false)
    (found : ∃ entry, checklistEntry manifest target = .map entry)
    (incomplete : ¬ Complete manifest target) :
    ∃ missing, advanceStage call manifest targetStage =
      .error (.stageIncomplete call.ideaId missing) := by
  obtain ⟨entry, found⟩ := found
  rw [advance_of_reached reaches]
  simp only [parseChecklist, found, bind, Except.bind]
  rw [if_pos]
  · exact ⟨_, rfl⟩
  · refine ⟨fun empty => incomplete ?_, unforced⟩
    exact (missing_eq_nil_iff found rfl rfl).mp empty

theorem advance_of_complete (reaches : Reaches manifest targetStage current target)
    (complete : Complete manifest target) :
    ∃ checklist, advanceStage call manifest targetStage =
      .ok (advancedTo call manifest current target checklist) := by
  obtain ⟨entry, found⟩ := complete_found complete
  rw [advance_of_reached reaches]
  simp only [parseChecklist, found, bind, Except.bind]
  rw [if_neg]
  · exact ⟨_, rfl⟩
  · rintro ⟨missing, -⟩
    exact missing ((missing_eq_nil_iff found rfl rfl).mpr complete)

theorem valueAt_set (key other : String) (value : Value) :
    valueAt (manifest.set key value) other =
      if other = key then value else valueAt manifest other := by
  unfold valueAt
  rw [Mapping.get?_set]
  split <;> rfl

theorem advancedTo_checklistEntry (checklist : StageChecklist) (stage : ResearchStage) :
    checklistEntry (advancedTo call manifest current target checklist).manifest stage =
      checklistEntry manifest stage := by
  simp only [checklistEntry, advancedTo, valueAt_set]
  rfl

theorem advancedTo_complete_iff (checklist : StageChecklist) (stage : ResearchStage) :
    Complete (advancedTo call manifest current target checklist).manifest stage ↔
      Complete manifest stage := by
  unfold Complete completedItems
  rw [advancedTo_checklistEntry]

theorem advancedTo_stage (checklist : StageChecklist) :
    stageOf (advancedTo call manifest current target checklist).manifest = .ok target := by
  have staged : valueAt (advancedTo call manifest current target checklist).manifest "stage" =
      .str target.name := by
    simp [advancedTo, valueAt_set]
  rw [stageOf, staged, orValue, if_pos target.name_truth, Value.text, validateStage,
    ResearchStage.ofName?_name]

end Advance

/-! ## Runs -/

/-- An advance and how it ended. -/
structure Answer where
  call : AdvanceCall
  manifest : Mapping
  targetStage : String
  result : Except ResearchError Advanced

/-- A missing or empty checklist is reported as incomplete. -/
def Answer.Reported (answer : Answer) : Prop :=
  ∀ current target, Reaches answer.manifest answer.targetStage current target →
    MissingOrEmpty answer.manifest target →
      ∃ missing, answer.result = .error (.stageIncomplete answer.call.ideaId missing)

structure Idea where
  manifest : Mapping
  answers : List Answer := []

inductive IdeaAction where
  | advance (call : AdvanceCall) (targetStage : String)
  | edit (manifest : Mapping)

def Idea.step (idea : Idea) : IdeaAction → Idea
  | .advance call targetStage =>
    let result := advanceStage call idea.manifest targetStage
    { manifest := match result with
        | .ok advanced => advanced.manifest
        | .error _ => idea.manifest
      answers := idea.answers ++ [⟨call, idea.manifest, targetStage, result⟩] }
  | .edit manifest => { idea with manifest }

/-- Stages are earned, and checklists are reported. -/
structure WellKept (idea : Idea) : Prop where
  earned : Earned idea.manifest
  reported : ∀ answer ∈ idea.answers, answer.Reported

/-- The advances are not forced, and the edits keep the stage and every item. -/
def Allowed (idea : Idea) : IdeaAction → Prop
  | .advance call _ => call.force = false
  | .edit manifest => stageOf manifest = stageOf idea.manifest ∧
      ∀ stage, ∀ item ∈ completedItems idea.manifest stage, item ∈ completedItems manifest stage

/-- Where an advance comes to the checklist of its target: a missing or empty one
is a mapping all the same, and with a complete one so are the stages it skips. -/
def Careful (idea : Idea) : IdeaAction → Prop
  | .advance _ targetStage => ∀ current target,
      Reaches idea.manifest targetStage current target →
        (MissingOrEmpty idea.manifest target →
          ∃ entry, checklistEntry idea.manifest target = .map entry) ∧
        (Complete idea.manifest target → ∀ skipped, current.index < skipped.index →
          skipped.index < target.index → Complete idea.manifest skipped)
  | .edit _ => True

theorem completedItems_of_falsy {manifest : Mapping} {stage : ResearchStage}
    (falsy : (valueAt (valueAt manifest "checklists").asMapping stage.name).truth = false) :
    completedItems manifest stage = [] := by
  unfold completedItems
  split
  · rename_i entry found
    have empty : entry = [] := by
      unfold checklistEntry orValue at found
      by_cases truthy : (valueAt manifest "checklists").truth = true
      · rw [if_pos truthy] at found
        split at found
        · rename_i checklists read
          rw [read, Value.asMapping, found] at falsy
          simpa [Value.truth] using falsy
        · exact (Value.map.inj found).symm
      · rw [if_neg truthy] at found
        cases found
    rw [empty]
    rfl
  · rfl

theorem MissingOrEmpty.incomplete {manifest : Mapping} {stage : ResearchStage}
    (blank : MissingOrEmpty manifest stage) : ¬ Complete manifest stage := by
  have empty : completedItems manifest stage = [] :=
    blank.elim completedItems_of_falsy And.left
  intro complete
  obtain ⟨item, required⟩ := List.exists_mem_of_ne_nil _ stage.requirements_ne_nil
  have listed := complete item required
  rw [empty] at listed
  cases listed

section Step

variable {idea : Idea} {call : AdvanceCall} {targetStage : String}
  {current target : ResearchStage}

theorem reaches_inj {other otherTarget : ResearchStage}
    (left : Reaches idea.manifest targetStage current target)
    (right : Reaches idea.manifest targetStage other otherTarget) :
    current = other ∧ target = otherTarget :=
  ⟨Except.ok.inj (left.1.symm.trans right.1), Except.ok.inj (left.2.1.symm.trans right.2.1)⟩

/-- An answer is a report unless a missing or empty checklist could not be read. -/
theorem reported_iff (reaches : Reaches idea.manifest targetStage current target)
    (unforced : call.force = false) :
    Answer.Reported ⟨call, idea.manifest, targetStage,
        advanceStage call idea.manifest targetStage⟩ ↔
      (MissingOrEmpty idea.manifest target →
        ∃ entry, checklistEntry idea.manifest target = .map entry) := by
  constructor
  · intro reported blank
    by_contra unread
    obtain ⟨missing, result⟩ := reported current target reaches blank
    dsimp only at result
    rw [advance_of_unread reaches unread] at result
    cases result
  · intro read other otherTarget reachesOther blank
    obtain ⟨rfl, rfl⟩ := reaches_inj reaches reachesOther
    exact advance_of_incomplete reaches unforced (read blank) blank.incomplete

theorem reported_of_unreached (unreached : ¬ ∃ current target,
      Reaches idea.manifest targetStage current target)
    (result : Except ResearchError Advanced) :
    Answer.Reported ⟨call, idea.manifest, targetStage, result⟩ :=
  fun current target reaches => absurd ⟨current, target, reaches⟩ unreached

/-- A successful advance is earned with the stages that it skips. -/
theorem earned_advancedTo_iff (earned : Earned idea.manifest)
    (reaches : Reaches idea.manifest targetStage current target)
    (complete : Complete idea.manifest target) (checklist : StageChecklist) :
    Earned (advancedTo call idea.manifest current target checklist).manifest ↔
      ∀ skipped, current.index < skipped.index → skipped.index < target.index →
        Complete idea.manifest skipped := by
  constructor
  · intro after skipped above below
    exact (advancedTo_complete_iff checklist skipped).mp
      (after target (advancedTo_stage checklist) skipped (by omega) (by omega))
  · intro skips reached staged stage later upTo
    obtain rfl := Except.ok.inj ((advancedTo_stage checklist).symm.trans staged)
    rw [advancedTo_complete_iff]
    by_cases before : stage.index ≤ current.index
    · exact earned current reaches.1 stage later before
    · by_cases between : stage.index < target.index
      · exact skips stage (by omega) between
      · have same : stage = target := by
          have equal : stage.index = target.index := by omega
          revert equal
          cases stage <;> cases target <;> decide
        rw [same]
        exact complete

theorem advance_failed {error : ResearchError}
    (failed : advanceStage call idea.manifest targetStage = .error error) :
    (idea.step (.advance call targetStage)).manifest = idea.manifest := by
  simp only [Idea.step, failed]

theorem answers_advance : (idea.step (.advance call targetStage)).answers =
    idea.answers ++ [⟨call, idea.manifest, targetStage,
      advanceStage call idea.manifest targetStage⟩] := rfl

theorem forall_answers_concat {answer : Answer} :
    (∀ other ∈ idea.answers ++ [answer], other.Reported) ↔
      (∀ other ∈ idea.answers, other.Reported) ∧ answer.Reported := by
  simp [or_imp, forall_and]

/-- One advance keeps the record exactly when it is careful. -/
theorem advance_wellKept_iff (kept : WellKept idea) (unforced : call.force = false) :
    WellKept (idea.step (.advance call targetStage)) ↔
      Careful idea (.advance call targetStage) := by
  by_cases reached : ∃ current target, Reaches idea.manifest targetStage current target
  · obtain ⟨current, target, reaches⟩ := reached
    have careful : Careful idea (.advance call targetStage) ↔
        (MissingOrEmpty idea.manifest target →
          ∃ entry, checklistEntry idea.manifest target = .map entry) ∧
        (Complete idea.manifest target → ∀ skipped, current.index < skipped.index →
          skipped.index < target.index → Complete idea.manifest skipped) := by
      constructor
      · exact fun careful => careful current target reaches
      · intro conditions other otherTarget reachesOther
        obtain ⟨rfl, rfl⟩ := reaches_inj reaches reachesOther
        exact conditions
    rw [careful, ← reported_iff reaches unforced]
    by_cases complete : Complete idea.manifest target
    · obtain ⟨checklist, succeeded⟩ := @advance_of_complete call _ _ _ _ reaches complete
      have manifest : (idea.step (.advance call targetStage)).manifest =
          (advancedTo call idea.manifest current target checklist).manifest := by
        simp only [Idea.step, succeeded]
      have skips := @earned_advancedTo_iff _ call _ _ _ kept.earned reaches complete checklist
      constructor
      · intro after
        have answers := after.reported
        rw [answers_advance, forall_answers_concat] at answers
        exact ⟨answers.2, fun _ => skips.mp (manifest ▸ after.earned)⟩
      · rintro ⟨reported, skipped⟩
        refine ⟨manifest ▸ skips.mpr (skipped complete), ?_⟩
        rw [answers_advance, forall_answers_concat]
        exact ⟨kept.reported, reported⟩
    · have failed : ∃ error, advanceStage call idea.manifest targetStage = .error error := by
        by_cases found : ∃ entry, checklistEntry idea.manifest target = .map entry
        · obtain ⟨missing, result⟩ := advance_of_incomplete reaches unforced found complete
          exact ⟨_, result⟩
        · exact ⟨_, advance_of_unread reaches found⟩
      obtain ⟨error, failed⟩ := failed
      constructor
      · intro after
        have answers := after.reported
        rw [answers_advance, forall_answers_concat] at answers
        exact ⟨answers.2, fun absurdity => absurd absurdity complete⟩
      · rintro ⟨reported, -⟩
        refine ⟨(advance_failed failed).symm ▸ kept.earned, ?_⟩
        rw [answers_advance, forall_answers_concat]
        exact ⟨kept.reported, reported⟩
  · obtain ⟨error, failed⟩ := advance_of_unreached reached unforced
    refine iff_of_true ⟨(advance_failed failed).symm ▸ kept.earned, ?_⟩ ?_
    · rw [answers_advance, forall_answers_concat]
      exact ⟨kept.reported, reported_of_unreached reached _⟩
    · intro current target reaches
      exact absurd ⟨current, target, reaches⟩ reached

theorem edit_wellKept {manifest : Mapping} (kept : WellKept idea)
    (allowed : Allowed idea (.edit manifest)) : WellKept (idea.step (.edit manifest)) := by
  obtain ⟨sameStage, more⟩ := allowed
  refine ⟨?_, kept.reported⟩
  intro current staged stage later upTo item required
  have before : stageOf idea.manifest = .ok current := sameStage.symm.trans staged
  exact more stage item (kept.earned current before stage later upTo item required)

end Step

/-- From a draft, stages stay earned and checklists reported exactly when every
advance is careful. -/
theorem wellKept_iff (manifest : Mapping) (draft : stageOf manifest = .ok .draft)
    (actions : List IdeaAction) (allowed : EachStep Idea.step Allowed { manifest } actions) :
    Throughout Idea.step WellKept { manifest } actions ↔
      EachStep Idea.step Careful { manifest } actions := by
  apply throughout_iff_eachStep_of_promise WellKept (fun _ kept => kept) _ _ _ allowed
  · intro idea action kept promised careful
    cases action with
    | advance call targetStage => exact (advance_wellKept_iff kept promised).mpr careful
    | edit manifest => exact edit_wellKept kept promised
  · intro idea action kept promised after
    cases action with
    | advance call targetStage => exact (advance_wellKept_iff kept promised).mp after
    | edit manifest => trivial
  · refine ⟨?_, fun answer absurdity => nomatch absurdity⟩
    intro current staged stage later upTo
    obtain rfl := Except.ok.inj (draft.symm.trans staged)
    exact absurd (lt_of_lt_of_le later upTo) (by decide)

def ideaCall : AdvanceCall where
  ideaId := "idea-001"
  manifestPath := "research/ideas/idea-001/manifest.yaml"
  utcnow := "2026-01-01T00:00:00Z"

/-- A draft with the completed items of one stage. -/
def draftWith (stage : ResearchStage) (items : List String) : Mapping :=
  [("stage", .str "draft"), ("checklists", .map [(stage.name,
    .map [("completed", .list (items.map .str))])])]

theorem wellKept_screening :
    stageOf (draftWith .screening ["data_sources", "baseline_metrics"]) = .ok .draft ∧
      (Throughout Idea.step WellKept
          { manifest := draftWith .screening ["data_sources", "baseline_metrics"] }
          [.advance ideaCall "screening"] ↔
        EachStep Idea.step Careful
          { manifest := draftWith .screening ["data_sources", "baseline_metrics"] }
          [.advance ideaCall "screening"]) :=
  ⟨rfl, wellKept_iff _ rfl _ ⟨rfl, trivial⟩⟩

/-- The sign-off alone takes a draft to `ready`, and a manifest without checklists
fails with an `AttributeError`. -/
theorem skipped_stages_and_unread_checklist :
    ¬ Throughout Idea.step WellKept { manifest := draftWith .ready ["ops_signoff"] }
        [.advance ideaCall "ready"] ∧
      ¬ Throughout Idea.step WellKept { manifest := [("stage", .str "draft")] }
        [.advance ideaCall "screening"] := by
  constructor
  · intro holds
    have complete := holds.final.earned .ready rfl .screening (by decide) (by decide)
    exact absurd (complete "data_sources" (by decide)) (by decide)
  · intro holds
    obtain ⟨missing, result⟩ := holds.final.reported _ List.mem_cons_self .draft .screening
      ⟨rfl, rfl, by decide⟩ (.inl rfl)
    cases result

end FxToushi.Research
