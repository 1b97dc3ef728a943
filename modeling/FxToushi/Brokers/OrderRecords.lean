import FxToushi.Data.Fallible
import FxToushi.Py.Value

namespace FxToushi.Brokers

open Data Py

/-! # Order records

The state of an order as it is written to disk and read back.  Fields that are
read back unchecked are values.
-/

structure RecoveryAction where
  code : String
  label : String
  parameters : Option Mapping := none
  requiresManual : Bool := false

structure RecoveryPlan where
  orderId : String
  planId : String
  triggerReason : String
  actions : List RecoveryAction
  runbookRef : String
  status : String
  assignedTo : Value := .null
  createdAt : Value := .null
  updatedAt : Value := .null
  notes : List Value := []

def defaultSchema : String := "broker.order_state.v1"

structure OrderState where
  orderId : String
  status : String
  lastTransition : String
  attempt : Int
  evidenceHash : String
  errorCode : Value := .null
  retryAfter : Value := .null
  ackReceivedAt : Value := .null
  fillSummary : Value := .null
  recoveryPlan : Option RecoveryPlan := none
  schemaVersion : String := defaultSchema

/-! ## Writing -/

/-- Parameters are left out when there are none. -/
def RecoveryAction.toDict (action : RecoveryAction) : Mapping :=
  [("code", .str action.code), ("label", .str action.label),
    ("requires_manual", .bool action.requiresManual)] ++
    match action.parameters.getD [] with
    | [] => []
    | parameters => [("parameters", .map parameters)]

def RecoveryPlan.toDict (plan : RecoveryPlan) : Mapping :=
  [("order_id", .str plan.orderId), ("plan_id", .str plan.planId),
    ("trigger_reason", .str plan.triggerReason),
    ("actions", .list (plan.actions.map (fun action => .map action.toDict))),
    ("assigned_to", plan.assignedTo), ("runbook_ref", .str plan.runbookRef),
    ("status", .str plan.status), ("created_at", plan.createdAt),
    ("updated_at", plan.updatedAt), ("notes", .list plan.notes)]

def OrderState.toDict (state : OrderState) : Mapping :=
  [("schema_version", .str state.schemaVersion), ("order_id", .str state.orderId),
    ("status", .str state.status), ("last_transition", .str state.lastTransition),
    ("attempt", .int state.attempt), ("error_code", state.errorCode),
    ("retry_after", state.retryAfter), ("ack_received_at", state.ackReceivedAt),
    ("fill_summary", state.fillSummary), ("evidence_hash", .str state.evidenceHash),
    ("recovery_plan", match state.recoveryPlan with
      | some plan => .map plan.toDict
      | none => .null)]

/-! ## Reading -/

def valueAt (payload : Mapping) (key : String) : Value := (payload.get? key).getD .null

/-- `str(payload.get(key))`. -/
def textAt (payload : Mapping) (key : String) : String := (valueAt payload key).text

/-- `dict(value)` of a JSON value that is a mapping or falsy. -/
def parametersOf (payload : Mapping) : Except PyError Mapping :=
  match orValue (valueAt payload "parameters") (.map []) with
  | .map entries => .ok entries
  | _ => .error .typeError

def actionFromPayload (payload : Mapping) : Except PyError RecoveryAction := do
  let parameters ← parametersOf payload
  return {
    code := textAt payload "code"
    label := textAt payload "label"
    parameters := some parameters
    requiresManual := ((payload.get? "requires_manual").getD (.bool false)).truth }

def listAt (payload : Mapping) (key : String) : Except PyError (List Value) :=
  iterate (orValue (valueAt payload key) (.list []))

def planFromPayload (payload : Mapping) : Except PyError RecoveryPlan := do
  let actions ← listAt payload "actions"
  let actions ← tryMap actionFromPayload (actions.filterMap Value.mapping?)
  let notes ← listAt payload "notes"
  return {
    orderId := textAt payload "order_id"
    planId := textAt payload "plan_id"
    triggerReason := textAt payload "trigger_reason"
    actions
    runbookRef := textAt payload "runbook_ref"
    status := textAt payload "status"
    assignedTo := valueAt payload "assigned_to"
    createdAt := valueAt payload "created_at"
    updatedAt := valueAt payload "updated_at"
    notes }

def recoveryFromPayload (payload : Mapping) : Except PyError (Option RecoveryPlan) :=
  match valueAt payload "recovery_plan" with
  | .map plan => (planFromPayload plan).map some
  | _ => .ok none

def stateFromPayload (payload : Mapping) : Except PyError OrderState := do
  let recoveryPlan ← recoveryFromPayload payload
  let attempt ← ((payload.get? "attempt").getD (.int 1)).toInt
  return {
    orderId := textAt payload "order_id"
    status := textAt payload "status"
    lastTransition := textAt payload "last_transition"
    attempt
    evidenceHash := textAt payload "evidence_hash"
    errorCode := valueAt payload "error_code"
    retryAfter := valueAt payload "retry_after"
    ackReceivedAt := valueAt payload "ack_received_at"
    fillSummary := valueAt payload "fill_summary"
    recoveryPlan
    schemaVersion := (orValue (valueAt payload "schema_version") (.str defaultSchema)).text }

/-! ## Reading what was written -/

/-- Parameters left out are read back as an empty mapping. -/
def RecoveryAction.recorded (action : RecoveryAction) : RecoveryAction :=
  { action with parameters := some (action.parameters.getD []) }

def RecoveryPlan.recorded (plan : RecoveryPlan) : RecoveryPlan :=
  { plan with actions := plan.actions.map RecoveryAction.recorded }

/-- A state as it is read back.  An empty schema version is read as the default
one. -/
def OrderState.recorded (state : OrderState) : OrderState :=
  { state with
    recoveryPlan := state.recoveryPlan.map RecoveryPlan.recorded
    schemaVersion := if state.schemaVersion = "" then defaultSchema else state.schemaVersion }

theorem actionFromPayload_toDict (action : RecoveryAction) :
    actionFromPayload action.toDict = .ok action.recorded := by
  cases given : action.parameters.getD [] with
  | nil =>
    simp [actionFromPayload, RecoveryAction.toDict, RecoveryAction.recorded, given, textAt,
      parametersOf, valueAt, Mapping.get?, orValue, Value.truth, Value.text, pure, Except.pure,
      bind, Except.bind]
  | cons entry rest =>
    simp [actionFromPayload, RecoveryAction.toDict, RecoveryAction.recorded, given, textAt,
      parametersOf, valueAt, Mapping.get?, orValue, Value.truth, Value.text, pure, Except.pure,
      bind, Except.bind]

theorem listAt_list {payload : Mapping} {key : String} {items : List Value}
    (present : payload.get? key = some (.list items)) : listAt payload key = .ok items := by
  rw [listAt, valueAt, present]
  cases items <;> rfl

theorem planFromPayload_toDict (plan : RecoveryPlan) :
    planFromPayload plan.toDict = .ok plan.recorded := by
  have actions : listAt plan.toDict "actions" =
      .ok (plan.actions.map (fun action => Value.map action.toDict)) := listAt_list rfl
  have notes : listAt plan.toDict "notes" = .ok plan.notes := listAt_list rfl
  have mappings : (plan.actions.map (fun action => Value.map action.toDict)).filterMap
      Value.mapping? = plan.actions.map RecoveryAction.toDict := by
    simp [List.filterMap_map, Function.comp_def, Value.mapping?]
  have decoded := tryMap_map actionFromPayload_toDict plan.actions
  unfold planFromPayload
  rw [actions]
  simp only [bind, Except.bind, mappings, decoded, notes]
  rfl

theorem stateFromPayload_toDict (state : OrderState) :
    stateFromPayload state.toDict = .ok state.recorded := by
  have recovery : recoveryFromPayload state.toDict =
      .ok (state.recoveryPlan.map RecoveryPlan.recorded) := by
    unfold recoveryFromPayload
    cases plan : state.recoveryPlan with
    | none => simp [OrderState.toDict, plan, valueAt, Mapping.get?]
    | some plan =>
      simp [OrderState.toDict, plan, valueAt, Mapping.get?, planFromPayload_toDict, Except.map]
  have schema : (orValue (valueAt state.toDict "schema_version") (.str defaultSchema)).text =
      if state.schemaVersion = "" then defaultSchema else state.schemaVersion := by
    by_cases empty : state.schemaVersion = ""
    · simp [OrderState.toDict, empty, valueAt, Mapping.get?, orValue, Value.truth, Value.text]
    · simp [OrderState.toDict, empty, valueAt, Mapping.get?, orValue, Value.truth, Value.text]
  unfold stateFromPayload
  rw [recovery, schema]
  rfl

end FxToushi.Brokers
