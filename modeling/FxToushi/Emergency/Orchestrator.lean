import FxToushi.Brokers.OrderRecords
import FxToushi.Data.Dict
import FxToushi.Data.Runs
import FxToushi.Py.JsonIndent

namespace FxToushi.Emergency

open Brokers Data Py

/-! # Emergency playbooks

A playbook is triggered, acknowledged and completed.  The states of all
playbooks are in one file, which each call reads and writes as a whole.
-/

structure EmergencyContext where
  healthState : String
  killSwitch : String
  boardMode : String
  metrics : Mapping := []
  runbookRefs : List String := []

def EmergencyContext.toDict (context : EmergencyContext) : Value :=
  .map [("health_state", .str context.healthState), ("kill_switch", .str context.killSwitch),
    ("board_mode", .str context.boardMode), ("metrics", .map context.metrics),
    ("runbook_refs", .list (context.runbookRefs.map .str))]

/-- The references are written to the state file, so they are JSON. -/
structure EmergencyPlaybook where
  playbookId : String
  trigger : String
  runbookRefs : List Value
  actionSequence : List Value := []
  severity : String := "critical"
  description : Value := .null
  wellFormed : Json.WellFormedItems runbookRefs

def EmergencyPlaybook.toDict (playbook : EmergencyPlaybook) : Value :=
  .map [("playbook_id", .str playbook.playbookId), ("trigger", .str playbook.trigger),
    ("runbook_refs", .list playbook.runbookRefs),
    ("action_sequence", .list playbook.actionSequence), ("severity", .str playbook.severity),
    ("description", playbook.description)]

/-- What is read back unchecked is a value. -/
structure PlaybookState where
  playbookId : String
  status : String
  triggeredAt : String
  trigger : String
  runbookRefs : List Value
  ackedBy : Value := .null
  ackedAt : Value := .null
  completedBy : Value := .null
  completedAt : Value := .null
  notes : Value := .null

def PlaybookState.toDict (state : PlaybookState) : Value :=
  .map [("playbook_id", .str state.playbookId), ("status", .str state.status),
    ("triggered_at", .str state.triggeredAt), ("trigger", .str state.trigger),
    ("runbook_refs", .list state.runbookRefs), ("acked_by", state.ackedBy),
    ("acked_at", state.ackedAt), ("completed_by", state.completedBy),
    ("completed_at", state.completedAt), ("notes", state.notes)]

/-! ## The registry -/

namespace PlaybookRegistry

def getById (playbooks : List EmergencyPlaybook) (playbookId : String) :
    Option EmergencyPlaybook :=
  playbooks.find? (fun playbook => playbook.playbookId == playbookId)

def findByTrigger (playbooks : List EmergencyPlaybook) (trigger : String) :
    Option EmergencyPlaybook :=
  playbooks.find? (fun playbook => playbook.trigger == trigger)

end PlaybookRegistry

/-! ## The state file -/

/-- `str(raw.get(key) or default)`. -/
def textOr (raw : Mapping) (key default : String) : String :=
  (orValue (valueAt raw key) (.str default)).text

def stateOfRaw : Value → Except PyError PlaybookState
  | .map raw => do
      let runbookRefs ← listAt raw "runbook_refs"
      return {
        playbookId := textOr raw "playbook_id" ""
        status := textOr raw "status" "pending"
        triggeredAt := textOr raw "triggered_at" ""
        trigger := textOr raw "trigger" ""
        runbookRefs
        ackedBy := valueAt raw "acked_by"
        ackedAt := valueAt raw "acked_at"
        completedBy := valueAt raw "completed_by"
        completedAt := valueAt raw "completed_at"
        notes := valueAt raw "notes" }
  | _ => .error .attributeError

/-- The text of the file, if there is one. -/
abbrev StateFile := Option (List Char)

/-- A text that is no JSON raises a `JSONDecodeError`, which is a `ValueError`. -/
def loadAllStates : StateFile → Except PyError (List PlaybookState)
  | none => .ok []
  | some text =>
    match Json.loads text with
    | none => .error .valueError
    | some (.map payload) => do
        let entries ← iterate ((Mapping.get? payload "playbooks").getD (.list []))
        tryMap stateOfRaw entries
    | some _ => .error .attributeError

def statePayload (states : List PlaybookState) : Value :=
  .map [("playbooks", .list (states.map PlaybookState.toDict))]

def loadState (file : StateFile) (playbookId : String) : Except PyError (Option PlaybookState) := do
  let states ← loadAllStates file
  return Records.find? PlaybookState.playbookId states playbookId

def saveState (file : StateFile) (state : PlaybookState) : Except PyError StateFile := do
  let states ← loadAllStates file
  return some (Json.dumpsIndented 0
    (statePayload (Records.store PlaybookState.playbookId states state)))

/-! ## The orchestrator -/

/-- The state file, and the logs by entry. -/
structure EmergencyFiles where
  state : StateFile := none
  eventLog : List Value := []
  auditLog : List Value := []

structure TriggerCall where
  trigger : String
  context : EmergencyContext
  playbookId : Option String := none
  actor : String := "system"
  simulate : Bool := false
  now : String

/-- A call of `ack`.  The clock is read for the state and again for the event. -/
structure AckCall where
  playbookId : String
  actor : String
  notes : Option String := none
  now : String
  loggedAt : String

structure CompleteCall where
  playbookId : String
  actor : String
  status : String := "completed"
  notes : Option String := none
  now : String
  loggedAt : String

def noteValue (notes : Option String) : Value := notes.elim .null .str

namespace EmergencyOrchestrator

def selectPlaybook (playbooks : List EmergencyPlaybook) (trigger : String) :
    Option String → Option EmergencyPlaybook
  | none => PlaybookRegistry.findByTrigger playbooks trigger
  | some playbookId =>
    if playbookId = "" then PlaybookRegistry.findByTrigger playbooks trigger
    else PlaybookRegistry.getById playbooks playbookId

def notFound (playbookId : Value) (more : Mapping := []) : Value :=
  .map (("status", .str "not_found") :: more ++ [("playbook_id", playbookId)])

def result (status : String) (state : PlaybookState) : Value :=
  .map [("status", .str status), ("state", state.toDict)]

def triggerPayload (playbook : EmergencyPlaybook) (call : TriggerCall) : Value :=
  .map [("event", .str "EmergencyPlaybookTriggered"),
    ("schema_version", .str "emergency.playbook.v1"), ("ts", .str call.now),
    ("playbook", playbook.toDict), ("context", call.context.toDict), ("actor", .str call.actor),
    ("simulated", .bool call.simulate)]

def triggeredState (playbook : EmergencyPlaybook) (call : TriggerCall) : PlaybookState where
  playbookId := playbook.playbookId
  status := "pending"
  triggeredAt := call.now
  trigger := call.trigger
  runbookRefs := playbook.runbookRefs

/-- The files after the call, and what it returns. -/
def trigger (playbooks : List EmergencyPlaybook) (files : EmergencyFiles) (call : TriggerCall) :
    Except PyError (EmergencyFiles × Value) :=
  match selectPlaybook playbooks call.trigger call.playbookId with
  | none => .ok (files, notFound (noteValue call.playbookId) [("trigger", .str call.trigger)])
  | some playbook =>
    if call.simulate then
      .ok (files, .map [("status", .str "simulated"),
        ("payload", triggerPayload playbook call)])
    else do
      let state := triggeredState playbook call
      let saved ← saveState files.state state
      return ({
        state := saved
        eventLog := files.eventLog ++ [triggerPayload playbook call]
        auditLog := files.auditLog ++ [.map [("event", .str "audit.emergency"),
          ("ts", .str call.now), ("action", .str "playbook_trigger"),
          ("playbook_id", .str playbook.playbookId), ("trigger", .str call.trigger),
          ("actor", .str call.actor), ("runbook_refs", .list playbook.runbookRefs)]] },
        .map [("status", .str "triggered"), ("playbook", playbook.toDict),
          ("state", state.toDict)])

def eventEntry (event : String) (state : PlaybookState) (actor : String) (notes : Option String)
    (ts : String) : Value :=
  .map [("event", .str event), ("ts", .str ts), ("playbook_id", .str state.playbookId),
    ("status", .str state.status), ("actor", .str actor), ("notes", noteValue notes),
    ("runbook_refs", .list state.runbookRefs)]

def ackedState (state : PlaybookState) (call : AckCall) : PlaybookState :=
  { state with
    status := "acknowledged"
    ackedBy := .str call.actor
    ackedAt := .str call.now
    notes := noteValue call.notes }

def ack (files : EmergencyFiles) (call : AckCall) : Except PyError (EmergencyFiles × Value) := do
  match ← loadState files.state call.playbookId with
  | none => return (files, notFound (.str call.playbookId))
  | some state =>
    if state.status ≠ "pending" then return (files, result "invalid_state" state)
    else
      let acked := ackedState state call
      let saved ← saveState files.state acked
      return ({ files with
        state := saved
        eventLog := files.eventLog ++
          [eventEntry "EmergencyPlaybookAcked" acked call.actor call.notes call.loggedAt] },
        result "ok" acked)

def completedState (state : PlaybookState) (call : CompleteCall) : PlaybookState :=
  { state with
    status := call.status
    completedBy := .str call.actor
    completedAt := .str call.now
    notes := noteValue call.notes }

/-- The status of the state is not looked at. -/
def complete (files : EmergencyFiles) (call : CompleteCall) :
    Except PyError (EmergencyFiles × Value) := do
  match ← loadState files.state call.playbookId with
  | none => return (files, notFound (.str call.playbookId))
  | some state =>
    let completed := completedState state call
    let saved ← saveState files.state completed
    return ({
      state := saved
      eventLog := files.eventLog ++
        [eventEntry "EmergencyPlaybookCompleted" completed call.actor call.notes call.loggedAt]
      auditLog := files.auditLog ++ [.map [("event", .str "audit.emergency"),
        ("ts", .str call.now), ("action", .str "playbook_completed"),
        ("playbook_id", .str call.playbookId), ("actor", .str call.actor),
        ("status", .str call.status), ("runbook_refs", .list completed.runbookRefs)]] },
      result "ok" completed)

/-- `status`. -/
def statusOf (files : EmergencyFiles) : Except PyError (List Value) := do
  let states ← loadAllStates files.state
  return states.map PlaybookState.toDict

end EmergencyOrchestrator

/-! ## Runs of calls -/

inductive Call where
  | trigger (call : TriggerCall)
  | ack (call : AckCall)
  | complete (call : CompleteCall)

namespace Call

def perform (playbooks : List EmergencyPlaybook) (files : EmergencyFiles) :
    Call → Except PyError (EmergencyFiles × Value)
  | .trigger call => EmergencyOrchestrator.trigger playbooks files call
  | .ack call => EmergencyOrchestrator.ack files call
  | .complete call => EmergencyOrchestrator.complete files call

/-- The playbook the call is about. -/
def target (playbooks : List EmergencyPlaybook) : Call → Option String
  | .trigger call => (EmergencyOrchestrator.selectPlaybook playbooks call.trigger
      call.playbookId).map EmergencyPlaybook.playbookId
  | .ack call => some call.playbookId
  | .complete call => some call.playbookId

/-- The call triggers the playbook, and not as a simulation. -/
def Triggers (playbooks : List EmergencyPlaybook) (call : Call) (playbookId : String) : Prop :=
  ∃ made playbook, call = .trigger made ∧ made.simulate = false ∧
    EmergencyOrchestrator.selectPlaybook playbooks made.trigger made.playbookId = some playbook ∧
    playbook.playbookId = playbookId

def Succeeds (playbooks : List EmergencyPlaybook) (files : EmergencyFiles) (call : Call) : Prop :=
  ∃ after state, call.perform playbooks files =
    .ok (after, EmergencyOrchestrator.result "ok" state)

end Call

/-- A call that raises leaves the files alone. -/
def step (playbooks : List EmergencyPlaybook) (files : EmergencyFiles) (call : Call) :
    EmergencyFiles :=
  match call.perform playbooks files with
  | .ok (after, _) => after
  | .error _ => files

def heldBy (file : StateFile) (playbookId : String) : Option PlaybookState :=
  Records.find? PlaybookState.playbookId ((loadAllStates file).toOption.getD []) playbookId

def Moves (before after : String) : Prop :=
  after = before ∨ (before = "pending" ∧ after = "acknowledged") ∨
    (before = "acknowledged" ∧ after = "completed")

/-- What a call may do to the states of the playbooks. -/
structure FollowsLifeCycle (playbooks : List EmergencyPlaybook) (files : EmergencyFiles)
    (call : Call) : Prop where
  single : ∃ states, loadAllStates (step playbooks files call).state = .ok states ∧
    (states.map PlaybookState.playbookId).Nodup
  others : ∀ playbookId, call.target playbooks ≠ some playbookId →
    heldBy (step playbooks files call).state playbookId = heldBy files.state playbookId
  moves : ∀ playbookId held,
    heldBy (step playbooks files call).state playbookId = some held →
      (call.Triggers playbooks playbookId ∧ held.status = "pending") ∨
      ∃ previous, heldBy files.state playbookId = some previous ∧
        Moves previous.status held.status
  completes : ∀ made, call = .complete made → call.Succeeds playbooks files →
    ∃ held, heldBy files.state made.playbookId = some held ∧ held.status = "acknowledged"
  keepsAck : ∀ playbookId held, call.Triggers playbooks playbookId →
    heldBy files.state playbookId = some held → held.status ∈ ["pending", "acknowledged"] →
      ∃ later, heldBy (step playbooks files call).state playbookId = some later ∧
        (held.ackedBy ≠ .null → later.ackedBy = held.ackedBy) ∧
        (held.ackedAt ≠ .null → later.ackedAt = held.ackedAt)

/-- What the callers have to see to: they complete an acknowledged playbook as
completed, and trigger none whose acknowledgement is on file. -/
def Orderly (playbooks : List EmergencyPlaybook) (files : EmergencyFiles) : Call → Prop
  | .trigger call => call.simulate = true ∨
      ∀ playbook, EmergencyOrchestrator.selectPlaybook playbooks call.trigger call.playbookId =
        some playbook → ∀ held, heldBy files.state playbook.playbookId = some held →
          held.status ∈ ["pending", "acknowledged"] → held.ackedBy = .null ∧ held.ackedAt = .null
  | .ack _ => True
  | .complete call => ∀ held, heldBy files.state call.playbookId = some held →
      held.status = "acknowledged" ∧ call.status ∈ ["acknowledged", "completed"]

/-! ## What the file holds -/

/-- The state once it is written and read: an empty status reads as pending. -/
def PlaybookState.asRead (state : PlaybookState) : PlaybookState :=
  { state with status := if state.status = "" then "pending" else state.status }

@[simp] theorem asRead_playbookId (state : PlaybookState) :
    state.asRead.playbookId = state.playbookId := rfl

theorem asRead_of_named {state : PlaybookState} (named : state.status ≠ "") :
    state.asRead = state := by
  simp [PlaybookState.asRead, named]

theorem asRead_named (state : PlaybookState) : state.asRead.status ≠ "" := by
  by_cases blank : state.status = "" <;> simp [PlaybookState.asRead, blank]

theorem orValue_str (text default : String) :
    (orValue (.str text) (.str default)).text = if text = "" then default else text := by
  by_cases blank : text = "" <;> simp [orValue, Value.truth, Value.text, blank]

theorem orValue_list (items : List Value) : orValue (.list items) (.list []) = .list items := by
  cases items <;> rfl

theorem stateOfRaw_toDict (state : PlaybookState) : stateOfRaw state.toDict = .ok state.asRead := by
  have blank : ∀ text : String, (if text = "" then "" else text) = text := by
    intro text
    split
    · rename_i empty
      exact empty.symm
    · rfl
  simp [stateOfRaw, PlaybookState.toDict, listAt, textOr, valueAt, Mapping.get?, orValue_str,
    orValue_list, iterate, blank, PlaybookState.asRead]

theorem wellFormed_statePayload {states : List PlaybookState}
    (wellFormed : ∀ state ∈ states, Json.WellFormed state.toDict) :
    Json.WellFormed (statePayload states) := by
  have items : Json.WellFormedItems (states.map PlaybookState.toDict) :=
    Json.wellFormedItems_map wellFormed
  simpa [statePayload, Json.WellFormed, Json.WellFormedEntries] using items

theorem loadAllStates_dumps {states : List PlaybookState}
    (wellFormed : ∀ state ∈ states, Json.WellFormed state.toDict) :
    loadAllStates (some (Json.dumpsIndented 0 (statePayload states))) =
      .ok (states.map PlaybookState.asRead) := by
  rw [loadAllStates, Json.loads_dumpsIndented (wellFormed_statePayload wellFormed)]
  exact tryMap_map stateOfRaw_toDict states

/-- The file reads as the states, one for each playbook. -/
structure Holds (file : StateFile) (states : List PlaybookState) : Prop where
  loads : loadAllStates file = .ok states
  distinct : (states.map PlaybookState.playbookId).Nodup
  wellFormed : ∀ state ∈ states, Json.WellFormed state.toDict
  named : ∀ state ∈ states, state.status ≠ ""

theorem holds_missing : Holds none [] where
  loads := rfl
  distinct := List.nodup_nil
  wellFormed := by simp
  named := by simp

theorem wellFormed_toDict {state : PlaybookState} : Json.WellFormed state.toDict ↔
    Json.WellFormedItems state.runbookRefs ∧ Json.WellFormed state.ackedBy ∧
      Json.WellFormed state.ackedAt ∧ Json.WellFormed state.completedBy ∧
      Json.WellFormed state.completedAt ∧ Json.WellFormed state.notes := by
  simp [PlaybookState.toDict, Json.WellFormed, Json.WellFormedEntries]

theorem wellFormed_noteValue (notes : Option String) : Json.WellFormed (noteValue notes) := by
  cases notes <;> simp [noteValue, Json.WellFormed]

section Files

variable {file : StateFile} {states : List PlaybookState} {state : PlaybookState}

theorem heldBy_of_holds (holds : Holds file states) (playbookId : String) :
    heldBy file playbookId = Records.find? PlaybookState.playbookId states playbookId := by
  simp [heldBy, holds.loads, Except.toOption]

theorem loadState_of_holds (holds : Holds file states) (playbookId : String) :
    loadState file playbookId = .ok (heldBy file playbookId) := by
  rw [loadState, holds.loads, heldBy_of_holds holds]
  rfl

theorem of_heldBy (holds : Holds file states) {playbookId : String}
    (held : heldBy file playbookId = some state) :
    Json.WellFormed state.toDict ∧ state.playbookId = playbookId := by
  rw [heldBy_of_holds holds] at held
  obtain ⟨member, named⟩ := Records.of_find? held
  exact ⟨holds.wellFormed state member, named⟩

theorem map_asRead_store (holds : Holds file states) :
    (Records.store PlaybookState.playbookId states state).map PlaybookState.asRead =
      Records.store PlaybookState.playbookId states state.asRead := by
  rw [Records.store, List.map_append, List.map_singleton, Records.store, asRead_playbookId]
  congr 1
  have kept : ∀ other ∈ states.filter
      (fun other => decide (other.playbookId ≠ state.playbookId)), other.asRead = id other :=
    fun other member => asRead_of_named (holds.named other (List.mem_filter.mp member).1)
  rw [List.map_congr_left kept, List.map_id]

/-- A state that is saved takes the place of the one of its playbook. -/
theorem saveState_of_holds (holds : Holds file states) (wellFormed : Json.WellFormed state.toDict) :
    ∃ saved, saveState file state = .ok saved ∧
      Holds saved (Records.store PlaybookState.playbookId states state.asRead) := by
  refine ⟨_, by rw [saveState, holds.loads]; rfl, ?_⟩
  have written : ∀ other ∈ Records.store PlaybookState.playbookId states state,
      Json.WellFormed other.toDict := by
    intro other member
    cases Records.mem_store.mp member with
    | inl kept => exact holds.wellFormed other kept.1
    | inr same => rwa [same]
  constructor
  · rw [loadAllStates_dumps written, map_asRead_store holds]
  · exact Records.distinct_store holds.distinct _
  · intro other member
    cases Records.mem_store.mp member with
    | inl kept => exact holds.wellFormed other kept.1
    | inr same =>
      rw [same, wellFormed_toDict]
      exact wellFormed_toDict.mp wellFormed
  · intro other member
    cases Records.mem_store.mp member with
    | inl kept => exact holds.named other kept.1
    | inr same =>
      rw [same]
      exact asRead_named state

end Files

/-! ## What a call does -/

/-- The state a call saves: none for a simulation, an unknown playbook or an
acknowledgement that is refused. -/
inductive Saves (playbooks : List EmergencyPlaybook) (file : StateFile) :
    Call → PlaybookState → Prop
  | trigger {made : TriggerCall} {playbook : EmergencyPlaybook} (real : made.simulate = false)
      (selected : EmergencyOrchestrator.selectPlaybook playbooks made.trigger made.playbookId =
        some playbook) :
      Saves playbooks file (.trigger made) (EmergencyOrchestrator.triggeredState playbook made)
  | ack {made : AckCall} {held : PlaybookState} (found : heldBy file made.playbookId = some held)
      (pending : held.status = "pending") :
      Saves playbooks file (.ack made) (EmergencyOrchestrator.ackedState held made)
  | complete {made : CompleteCall} {held : PlaybookState}
      (found : heldBy file made.playbookId = some held) :
      Saves playbooks file (.complete made) (EmergencyOrchestrator.completedState held made)

section Calls

variable {playbooks : List EmergencyPlaybook} {files : EmergencyFiles}
  {states : List PlaybookState} {call : Call} {state : PlaybookState}

theorem wellFormed_of_saves (holds : Holds files.state states)
    (saves : Saves playbooks files.state call state) : Json.WellFormed state.toDict := by
  rw [wellFormed_toDict]
  cases saves with
  | trigger real selected =>
    exact ⟨EmergencyPlaybook.wellFormed _, trivial, trivial, trivial, trivial, trivial⟩
  | ack found pending =>
    obtain ⟨refs, -, -, completedBy, completedAt, -⟩ :=
      wellFormed_toDict.mp (of_heldBy holds found).1
    exact ⟨refs, trivial, trivial, completedBy, completedAt, wellFormed_noteValue _⟩
  | complete found =>
    obtain ⟨refs, ackedBy, ackedAt, -⟩ := wellFormed_toDict.mp (of_heldBy holds found).1
    exact ⟨refs, ackedBy, ackedAt, trivial, trivial, wellFormed_noteValue _⟩

theorem target_of_saves (holds : Holds files.state states)
    (saves : Saves playbooks files.state call state) :
    call.target playbooks = some state.playbookId := by
  cases saves with
  | trigger real selected =>
    rw [Call.target, selected]
    rfl
  | ack found pending => exact congrArg some (of_heldBy holds found).2.symm
  | complete found => exact congrArg some (of_heldBy holds found).2.symm

theorem perform_complete (playbooks : List EmergencyPlaybook) (holds : Holds files.state states)
    {made : CompleteCall}
    {held : PlaybookState} (found : heldBy files.state made.playbookId = some held) :
    ∃ file after, saveState files.state (EmergencyOrchestrator.completedState held made) =
        .ok file ∧
      (Call.complete made).perform playbooks files = .ok (after,
        EmergencyOrchestrator.result "ok" (EmergencyOrchestrator.completedState held made)) ∧
      after.state = file := by
  have saves : Saves playbooks files.state (.complete made)
    (EmergencyOrchestrator.completedState held made) := .complete found
  obtain ⟨file, written, -⟩ := saveState_of_holds holds (wellFormed_of_saves holds saves)
  rw [Call.perform, EmergencyOrchestrator.complete, loadState_of_holds holds, found]
  simp only [bind, Except.bind, written]
  exact ⟨file, _, rfl, rfl, rfl⟩

theorem step_of_saves (holds : Holds files.state states)
    (saves : Saves playbooks files.state call state) :
    Holds (step playbooks files call).state
      (Records.store PlaybookState.playbookId states state.asRead) := by
  obtain ⟨file, written, kept⟩ := saveState_of_holds holds (wellFormed_of_saves holds saves)
  cases saves with
  | trigger real selected =>
    rw [step, Call.perform, EmergencyOrchestrator.trigger, selected]
    simpa [real, written, bind, Except.bind, pure, Except.pure] using kept
  | ack found pending =>
    rw [step, Call.perform, EmergencyOrchestrator.ack, loadState_of_holds holds, found]
    simpa [pending, written, bind, Except.bind, pure, Except.pure] using kept
  | complete found =>
    obtain ⟨other, after, writtenAgain, performed, state_eq⟩ :=
      perform_complete playbooks holds found
    rw [written] at writtenAgain
    cases writtenAgain
    rw [step, performed, state_eq]
    exact kept

theorem saves_or_idle (playbooks : List EmergencyPlaybook) (call : Call)
    (holds : Holds files.state states) :
    (∃ state, Saves playbooks files.state call state) ∨
      (step playbooks files call).state = files.state := by
  cases call with
  | trigger made =>
    cases selected : EmergencyOrchestrator.selectPlaybook playbooks made.trigger
        made.playbookId with
    | none => simp [step, Call.perform, EmergencyOrchestrator.trigger, selected]
    | some playbook =>
      by_cases simulated : made.simulate = true
      · refine .inr ?_
        simp [step, Call.perform, EmergencyOrchestrator.trigger, selected, simulated]
      · exact .inl ⟨_, .trigger (Bool.eq_false_iff.mpr simulated) selected⟩
  | ack made =>
    cases found : heldBy files.state made.playbookId with
    | none =>
      refine .inr ?_
      rw [step, Call.perform, EmergencyOrchestrator.ack, loadState_of_holds holds, found]
      rfl
    | some held =>
      by_cases pending : held.status = "pending"
      · exact .inl ⟨_, .ack found pending⟩
      · refine .inr ?_
        rw [step, Call.perform, EmergencyOrchestrator.ack, loadState_of_holds holds, found]
        simp [pending, bind, Except.bind, pure, Except.pure]
  | complete made =>
    cases found : heldBy files.state made.playbookId with
    | none =>
      refine .inr ?_
      rw [step, Call.perform, EmergencyOrchestrator.complete, loadState_of_holds holds, found]
      rfl
    | some held => exact .inl ⟨_, .complete found⟩

theorem heldBy_of_saves (holds : Holds files.state states)
    (saves : Saves playbooks files.state call state) (playbookId : String) :
    heldBy (step playbooks files call).state playbookId =
      if state.playbookId = playbookId then some state.asRead
      else heldBy files.state playbookId := by
  rw [heldBy_of_holds (step_of_saves holds saves), Records.find?_store, heldBy_of_holds holds,
    asRead_playbookId]

theorem heldBy_saved (holds : Holds files.state states)
    (saves : Saves playbooks files.state call state) {playbookId : String}
    (same : state.playbookId = playbookId) :
    heldBy (step playbooks files call).state playbookId = some state.asRead := by
  rw [heldBy_of_saves holds saves, if_pos same]

theorem holds_step (playbooks : List EmergencyPlaybook) (call : Call)
    (holds : Holds files.state states) :
    ∃ after, Holds (step playbooks files call).state after := by
  cases saves_or_idle playbooks call holds with
  | inl saved =>
    obtain ⟨state, saves⟩ := saved
    exact ⟨_, step_of_saves holds saves⟩
  | inr idle =>
    rw [idle]
    exact ⟨states, holds⟩

theorem heldBy_others (holds : Holds files.state states) {playbookId : String}
    (other : call.target playbooks ≠ some playbookId) :
    heldBy (step playbooks files call).state playbookId = heldBy files.state playbookId := by
  cases saves_or_idle playbooks call holds with
  | inl saved =>
    obtain ⟨state, saves⟩ := saved
    have different : state.playbookId ≠ playbookId := by
      intro same
      rw [target_of_saves holds saves, same] at other
      exact other rfl
    rw [heldBy_of_saves holds saves, if_neg different]
  | inr idle => rw [idle]

theorem not_succeeds_unknown (holds : Holds files.state states) {made : CompleteCall}
    (unknown : heldBy files.state made.playbookId = none) :
    ¬ (Call.complete made).Succeeds playbooks files := by
  intro succeeds
  obtain ⟨after, state, performed⟩ := succeeds
  rw [Call.perform, EmergencyOrchestrator.complete, loadState_of_holds holds, unknown] at performed
  simp [bind, Except.bind, pure, Except.pure, EmergencyOrchestrator.notFound,
    EmergencyOrchestrator.result] at performed

theorem moves_of_saves (holds : Holds files.state states) (orderly : Orderly playbooks files call)
    (saves : Saves playbooks files.state call state) :
    (call.Triggers playbooks state.playbookId ∧ state.asRead.status = "pending") ∨
      ∃ previous, heldBy files.state state.playbookId = some previous ∧
        Moves previous.status state.asRead.status := by
  cases saves with
  | trigger real selected => exact .inl ⟨⟨_, _, rfl, real, selected, rfl⟩, rfl⟩
  | @ack made held found pending =>
    have same := (of_heldBy holds found).2
    refine .inr ⟨held, ?_, .inr (.inl ⟨pending, rfl⟩)⟩
    rw [← found, ← same]
    rfl
  | @complete made held found =>
    have same := (of_heldBy holds found).2
    obtain ⟨acknowledged, status⟩ := orderly held found
    refine .inr ⟨held, ?_, ?_⟩
    · rw [← found, ← same]
      rfl
    · rw [List.mem_pair] at status
      cases status with
      | inl same => simp [Moves, acknowledged, PlaybookState.asRead, same,
          EmergencyOrchestrator.completedState]
      | inr done => simp [Moves, acknowledged, PlaybookState.asRead, done,
          EmergencyOrchestrator.completedState]

theorem follows_of_orderly (holds : Holds files.state states)
    (orderly : Orderly playbooks files call) : FollowsLifeCycle playbooks files call where
  single := by
    obtain ⟨after, kept⟩ := holds_step playbooks call holds
    exact ⟨after, kept.loads, kept.distinct⟩
  others := fun _ other => heldBy_others holds other
  moves := by
    intro playbookId held found
    cases saves_or_idle playbooks call holds with
    | inl saved =>
      obtain ⟨state, saves⟩ := saved
      rw [heldBy_of_saves holds saves] at found
      by_cases same : state.playbookId = playbookId
      · rw [if_pos same] at found
        cases found
        rw [← same]
        exact moves_of_saves holds orderly saves
      · rw [if_neg same] at found
        exact .inr ⟨held, found, .inl rfl⟩
    | inr idle =>
      rw [idle] at found
      exact .inr ⟨held, found, .inl rfl⟩
  completes := by
    intro made completes succeeds
    subst completes
    cases found : heldBy files.state made.playbookId with
    | none => exact absurd succeeds (not_succeeds_unknown holds found)
    | some held => exact ⟨held, rfl, (orderly held found).1⟩
  keepsAck := by
    intro playbookId held triggers found unfinished
    obtain ⟨made, playbook, rfl, real, selected, rfl⟩ := triggers
    have saves : Saves playbooks files.state (.trigger made)
        (EmergencyOrchestrator.triggeredState playbook made) := .trigger real selected
    have unrecorded := orderly.resolve_left (by simp [real]) playbook selected held found unfinished
    refine ⟨_, heldBy_saved holds saves rfl, ?_, ?_⟩
    · intro recorded
      exact absurd unrecorded.1 recorded
    · intro recorded
      exact absurd unrecorded.2 recorded

theorem orderly_of_follows (holds : Holds files.state states)
    (follows : FollowsLifeCycle playbooks files call) : Orderly playbooks files call := by
  cases call with
  | trigger made =>
    by_cases simulated : made.simulate = true
    · exact .inl simulated
    · refine .inr ?_
      intro playbook selected held found unfinished
      have real := Bool.eq_false_iff.mpr simulated
      have saves : Saves playbooks files.state (.trigger made)
          (EmergencyOrchestrator.triggeredState playbook made) := .trigger real selected
      obtain ⟨later, afterwards, keepsBy, keepsAt⟩ := follows.keepsAck playbook.playbookId held
        ⟨made, playbook, rfl, real, selected, rfl⟩ found unfinished
      cases (heldBy_saved holds saves rfl).symm.trans afterwards
      constructor
      · by_contra recorded
        exact recorded (keepsBy recorded).symm
      · by_contra recorded
        exact recorded (keepsAt recorded).symm
  | ack made => trivial
  | complete made =>
    intro held found
    have saves : Saves playbooks files.state (.complete made)
      (EmergencyOrchestrator.completedState held made) := .complete found
    obtain ⟨file, after, -, performed, -⟩ := perform_complete playbooks holds found
    obtain ⟨other, again, acknowledged⟩ := follows.completes made rfl ⟨after, _, performed⟩
    rw [found] at again
    cases again
    refine ⟨acknowledged, ?_⟩
    cases follows.moves _ _ (heldBy_saved holds saves (of_heldBy holds found).2) with
    | inl triggered =>
      obtain ⟨⟨call, playbook, trigger, -⟩, -⟩ := triggered
      cases trigger
    | inr moved =>
      obtain ⟨previous, before, moves⟩ := moved
      rw [found] at before
      cases before
      rw [acknowledged] at moves
      by_cases blank : made.status = ""
      · simp [Moves, PlaybookState.asRead, EmergencyOrchestrator.completedState, blank] at moves
      · simpa [Moves, PlaybookState.asRead, EmergencyOrchestrator.completedState,
          blank] using moves

end Calls

/-- In every run of calls the playbooks follow their life cycle exactly when
each call is orderly. -/
theorem followsLifeCycle_run_iff (playbooks : List EmergencyPlaybook) (calls : List Call) :
    EachStep (step playbooks) (FollowsLifeCycle playbooks) {} calls ↔
      EachStep (step playbooks) (Orderly playbooks) {} calls :=
  eachStep_iff_of_invariant (fun files => ∃ states, Holds files.state states)
    (fun _ call holds _ => holds_step playbooks call holds.choose_spec)
    (fun _ _ holds => ⟨orderly_of_follows holds.choose_spec, follows_of_orderly holds.choose_spec⟩)
    ⟨[], holds_missing⟩

theorem single_run (playbooks : List EmergencyPlaybook) (calls : List Call) :
    Throughout (step playbooks) (fun files => ∃ states,
      loadAllStates files.state = .ok states ∧ (states.map PlaybookState.playbookId).Nodup)
      {} calls := by
  have kept : Throughout (step playbooks) (fun files => ∃ states, Holds files.state states)
      {} calls := throughout_of_step
        (fun _ call holds => holds_step playbooks call holds.choose_spec)
        ⟨[], holds_missing⟩
  refine kept.imp ?_
  intro files holds
  obtain ⟨states, holds⟩ := holds
  exact ⟨states, holds.loads, holds.distinct⟩

def dataStop : EmergencyPlaybook where
  playbookId := "PB-DATA-STOP"
  trigger := "data.latency_alert"
  runbookRefs := [.str "RUN-DATA-05", .str "RUN-DATA-06"]
  actionSequence := [.str "guarded_prompt", .str "kill_switch_review"]
  wellFormed := by simp [Json.WellFormedItems, Json.WellFormed]

def latencyAlert : TriggerCall where
  trigger := "data.latency_alert"
  context := { healthState := "degraded", killSwitch := "soft_stop", boardMode := "guarded" }
  now := "2026-01-10T00:00:00Z"

def closing : CompleteCall where
  playbookId := "PB-DATA-STOP"
  actor := "ops"
  now := "2026-01-10T00:05:00Z"
  loggedAt := "2026-01-10T00:05:00Z"

/-- A playbook that nobody acknowledged is completed. -/
theorem unacknowledged_completes : ¬ EachStep (step [dataStop]) (FollowsLifeCycle [dataStop]) {}
    [.trigger latencyAlert, .complete closing] := by
  intro follows
  have triggers : Saves [dataStop] none (.trigger latencyAlert)
      (EmergencyOrchestrator.triggeredState dataStop latencyAlert) := .trigger rfl rfl
  have pending : heldBy (step [dataStop] {} (.trigger latencyAlert)).state "PB-DATA-STOP" =
      some (EmergencyOrchestrator.triggeredState dataStop latencyAlert).asRead :=
    heldBy_saved holds_missing triggers rfl
  obtain ⟨acknowledged, -⟩ := orderly_of_follows (step_of_saves holds_missing triggers)
    follows.2.1 _ pending
  exact absurd acknowledged (by decide)

end FxToushi.Emergency
