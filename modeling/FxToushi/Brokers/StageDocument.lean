import FxToushi.Brokers.OrderRecords
import FxToushi.Brokers.StageGuard
import FxToushi.Py.JsonIndent

namespace FxToushi.Brokers

open Data Py

/-! # The state file of the stage guard

The guard writes its stage, history and requests as one JSON document, and a new
guard reads them back with a default for each field that is not there.
-/

/-! ## Writing -/

def RequestStatus.name : RequestStatus → String
  | .requested => "requested"
  | .approved => "approved"
  | .denied => "denied"

def textOrNull (text : Option String) : Value := text.elim .null .str

def StageTransition.toDict (transition : StageTransition) : Mapping :=
  [("from_stage", .str transition.fromStage.name), ("to_stage", .str transition.toStage.name),
    ("actor", .str transition.actor), ("reason", textOrNull transition.reason),
    ("ts", .str transition.ts)]

def StageRequest.toDict (request : StageRequest) : Mapping :=
  [("request_id", .str request.requestId), ("requested_stage", .str request.requestedStage.name),
    ("requested_by", .str request.requestedBy), ("requested_at", .str request.requestedAt),
    ("status", .str request.status.name), ("reason", textOrNull request.reason),
    ("approved_by", textOrNull request.approvedBy), ("approved_at", textOrNull request.approvedAt)]

def StageFile.toDict (file : StageFile) : Mapping :=
  [("stage", .str file.stage.name), ("updated_at", .str file.updatedAt),
    ("updated_by", .str file.updatedBy),
    ("history", .list (file.history.map fun transition => .map transition.toDict)),
    ("requests", .list (file.requests.map fun request => .map request.toDict))]

/-- `_save_state`. -/
def StageFile.text (file : StageFile) : List Char :=
  Json.dumpsIndented 0 (.map file.toDict) ++ ['\n']

/-! ## Reading -/

/-- A transition as it is read, whatever its fields hold. -/
structure StoredTransition where
  fromStage : Value
  toStage : Value
  actor : Value
  reason : Value
  ts : Value

structure StoredRequest where
  requestId : String
  requestedStage : Value
  requestedBy : Value
  requestedAt : Value
  status : Value
  reason : Value
  approvedBy : Value
  approvedAt : Value

structure StoredGuard where
  stage : Stage
  updatedAt : Value
  updatedBy : Value
  history : List StoredTransition := []
  requests : List StoredRequest := []

/-- `payload.get(key, default)`. -/
def fieldOr (payload : Mapping) (key : String) (default : Value) : Value :=
  (payload.get? key).getD default

def stageNamed? (name : String) : Option Stage :=
  Stage.allowedOrder.find? (fun stage => stage.name == name)

/-- The stage that a value names, or the first one. -/
def stageOf : Value → Stage
  | .str name => (stageNamed? name).getD .manualOnly
  | _ => .manualOnly

def StoredTransition.ofEntry (now : String) (entry : Mapping) : StoredTransition where
  fromStage := fieldOr entry "from_stage" (.str "manual_only")
  toStage := fieldOr entry "to_stage" (.str "manual_only")
  actor := fieldOr entry "actor" (.str "system")
  reason := valueAt entry "reason"
  ts := fieldOr entry "ts" (.str now)

def StoredRequest.ofEntry (now : String) (entry : Mapping) : StoredRequest where
  requestId := textAt entry "request_id"
  requestedStage := valueAt entry "requested_stage"
  requestedBy := fieldOr entry "requested_by" (.str "system")
  requestedAt := fieldOr entry "requested_at" (.str now)
  status := fieldOr entry "status" (.str "requested")
  reason := valueAt entry "reason"
  approvedBy := valueAt entry "approved_by"
  approvedAt := valueAt entry "approved_at"

/-- The entries of a list that are mappings. -/
def entriesAt (payload : Mapping) (key : String) : Except PyError (List Mapping) :=
  (listAt payload key).map (List.filterMap Value.mapping?)

/-- `_load_state`, of a file that is absent or holds a text. -/
def StoredGuard.read (file : Option (List Char)) (now : String) : Except PyError StoredGuard :=
  match file.bind Json.loads with
  | none => .ok { stage := .manualOnly, updatedAt := .str now, updatedBy := .str "system" }
  | some (.map payload) => do
      let history ← entriesAt payload "history"
      let requests ← entriesAt payload "requests"
      return {
        stage := stageOf (orValue (valueAt payload "stage") (.str "manual_only"))
        updatedAt := orValue (valueAt payload "updated_at") (.str now)
        updatedBy := orValue (valueAt payload "updated_by") (.str "system")
        history := history.map (StoredTransition.ofEntry now)
        requests := requests.map (StoredRequest.ofEntry now) }
  | some _ => .error .attributeError

/-! ## What is read as a guard -/

def text? : Value → Option String
  | .str text => some text
  | _ => none

def optionalText? : Value → Option (Option String)
  | .null => some none
  | value => (text? value).map some

def status? (value : Value) : Option RequestStatus :=
  [RequestStatus.requested, .approved, .denied].find? (fun status =>
    text? value == some status.name)

/-- The transition, where its fields hold what a guard writes. -/
def StoredTransition.transition? (stored : StoredTransition) : Option StageTransition := do
  let fromStage ← (text? stored.fromStage).bind stageNamed?
  let toStage ← (text? stored.toStage).bind stageNamed?
  let actor ← text? stored.actor
  let reason ← optionalText? stored.reason
  let ts ← text? stored.ts
  return { fromStage, toStage, actor, reason, ts }

def StoredRequest.request? (stored : StoredRequest) : Option StageRequest := do
  let requestedStage ← (text? stored.requestedStage).bind stageNamed?
  let requestedBy ← text? stored.requestedBy
  let requestedAt ← text? stored.requestedAt
  let status ← status? stored.status
  let reason ← optionalText? stored.reason
  let approvedBy ← optionalText? stored.approvedBy
  let approvedAt ← optionalText? stored.approvedAt
  return {
    requestId := stored.requestId
    requestedStage, requestedBy, requestedAt, status, reason, approvedBy, approvedAt }

def StoredGuard.guard? (stored : StoredGuard) : Option AutonomyStageGuard := do
  let updatedAt ← text? stored.updatedAt
  let updatedBy ← text? stored.updatedBy
  let history ← stored.history.mapM StoredTransition.transition?
  let requests ← stored.requests.mapM StoredRequest.request?
  return { stage := stored.stage, updatedAt, updatedBy, history, requests }

namespace AutonomyStageGuard

/-- A new guard on the file, where the file is one that guards write. -/
def reopen (file : Option (List Char)) (now : String) : Option AutonomyStageGuard :=
  (StoredGuard.read file now).toOption.bind StoredGuard.guard?

end AutonomyStageGuard

/-! ## The round trip -/

theorem stageNamed?_name (stage : Stage) : stageNamed? stage.name = some stage := by
  cases stage <;> decide +kernel

theorem status?_name (status : RequestStatus) : status? (.str status.name) = some status := by
  cases status <;> decide +kernel

theorem optionalText?_textOrNull (text : Option String) :
    optionalText? (textOrNull text) = some text := by
  cases text <;> rfl

theorem wellFormed_textOrNull (text : Option String) : Json.WellFormed (textOrNull text) := by
  cases text <;> trivial

theorem StageTransition.transition?_toDict (now : String) (transition : StageTransition) :
    (StoredTransition.ofEntry now transition.toDict).transition? = some transition := by
  have fields : StoredTransition.ofEntry now transition.toDict =
      ⟨.str transition.fromStage.name, .str transition.toStage.name, .str transition.actor,
        textOrNull transition.reason, .str transition.ts⟩ := rfl
  rw [fields]
  simp [StoredTransition.transition?, text?, stageNamed?_name, optionalText?_textOrNull]

theorem StageRequest.request?_toDict (now : String) (request : StageRequest) :
    (StoredRequest.ofEntry now request.toDict).request? = some request := by
  have fields : StoredRequest.ofEntry now request.toDict =
      ⟨request.requestId, .str request.requestedStage.name, .str request.requestedBy,
        .str request.requestedAt, .str request.status.name, textOrNull request.reason,
        textOrNull request.approvedBy, textOrNull request.approvedAt⟩ := rfl
  rw [fields]
  simp [StoredRequest.request?, text?, stageNamed?_name, status?_name, optionalText?_textOrNull]

theorem StageTransition.wellFormed_toDict (transition : StageTransition) :
    Json.WellFormed (.map transition.toDict) := by
  simp [toDict, Json.WellFormed, Json.WellFormedEntries, wellFormed_textOrNull]

theorem StageRequest.wellFormed_toDict (request : StageRequest) :
    Json.WellFormed (.map request.toDict) := by
  simp [toDict, Json.WellFormed, Json.WellFormedEntries, wellFormed_textOrNull]

theorem StageFile.wellFormed_toDict (file : StageFile) : Json.WellFormed (.map file.toDict) := by
  have history : Json.WellFormedItems (file.history.map fun transition => .map transition.toDict) :=
    Json.wellFormedItems_map fun transition _ => transition.wellFormed_toDict
  have requests : Json.WellFormedItems (file.requests.map fun request => .map request.toDict) :=
    Json.wellFormedItems_map fun request _ => request.wellFormed_toDict
  simp [toDict, Json.WellFormed, Json.WellFormedEntries, history, requests]

theorem entriesAt_written {Item : Type*} {toDict : Item → Mapping} {payload : Mapping}
    {key : String} {items : List Item}
    (written : valueAt payload key = .list (items.map fun item => .map (toDict item))) :
    entriesAt payload key = .ok (items.map toDict) := by
  have listed : listAt payload key = .ok (items.map fun item => .map (toDict item)) := by
    rw [listAt, written]
    cases items <;> rfl
  have kept : (Value.mapping? ∘ fun item => Value.map (toDict item)) = some ∘ toDict := rfl
  rw [entriesAt, listed, Except.map, List.filterMap_map, kept, List.filterMap_eq_map]

theorem mapM_ofEntry {Item Stored : Type} {toDict : Item → Mapping} {ofEntry : Mapping → Stored}
    {item? : Stored → Option Item} (inverse : ∀ item, item? (ofEntry (toDict item)) = some item)
    (items : List Item) : ((items.map toDict).map ofEntry).mapM item? = some items := by
  induction items with
  | nil => rfl
  | cons item rest ih =>
    simp only [List.map_cons, List.mapM_cons, inverse, ih]
    rfl

theorem text_orValue (text default : String) :
    text? (orValue (.str text) (.str default)) = some (orText (some text) default) := by
  by_cases empty : text = "" <;> simp [orValue, Value.truth, orText, text?, empty]

theorem stageOf_name (stage : Stage) :
    stageOf (orValue (.str stage.name) (.str "manual_only")) = stage := by
  cases stage <;> decide +kernel

theorem AutonomyStageGuard.reopen_text (file : StageFile) (now : String) :
    reopen (some file.text) now = some (.load (some file) now) := by
  have loaded : (some file.text).bind Json.loads = some (.map file.toDict) :=
    Json.loads_dumpsIndented_line file.wellFormed_toDict
  have history : entriesAt file.toDict "history" = .ok (file.history.map StageTransition.toDict) :=
    entriesAt_written rfl
  have requests : entriesAt file.toDict "requests" = .ok (file.requests.map StageRequest.toDict) :=
    entriesAt_written rfl
  have stage : valueAt file.toDict "stage" = .str file.stage.name := rfl
  have updatedAt : valueAt file.toDict "updated_at" = .str file.updatedAt := rfl
  have updatedBy : valueAt file.toDict "updated_by" = .str file.updatedBy := rfl
  rw [reopen, StoredGuard.read, loaded]
  simp only [history, requests, stage, updatedAt, updatedBy, bind, Except.bind, pure, Except.pure,
    Except.toOption, Option.bind, StoredGuard.guard?, text_orValue, stageOf_name,
    mapM_ofEntry (StageTransition.transition?_toDict now),
    mapM_ofEntry (StageRequest.request?_toDict now), load]

end FxToushi.Brokers
