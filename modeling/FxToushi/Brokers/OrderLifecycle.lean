import FxToushi.Brokers.OrderStore
import FxToushi.Data.Dict
import FxToushi.Py.Containers
import FxToushi.Py.Extended
import FxToushi.Py.Json

namespace FxToushi.Brokers

open Data Py

/-! # The order lifecycle

The manager makes the next state of an order from the last one and from what a
call is given, and saves it.  Of an envelope only the stage is read again.
-/

inductive LifecycleError where
  | python (error : PyError)
  | orderDispatchRejected (reason runbookRef : String)
  | recoveryPlannerError (message : String)
deriving Repr, DecidableEq

/-! ## Planning a recovery -/

structure RetryPolicy where
  mode : String
  maxAttempts : Int
  backoffSec : List Value := []
  handoffRole : Value := .null

structure BrokerErrorDescriptor where
  brokerCode : String
  triggerReason : String
  auditEventId : String
  runbookRef : String
  retryPolicy : RetryPolicy
  evidencePathTemplate : String
  requiredContext : List Value := []

structure ErrorContext where
  brokerCode : String
  triggerReason : String
  auditEventId : String
  runbookRef : String
  retryPolicy : RetryPolicy
  evidencePath : String
  contextData : Mapping
  notes : List String

structure RecoveryPlanner where
  errorMap : Dict String BrokerErrorDescriptor
  config : Mapping := []

def RetryPolicy.toDict (policy : RetryPolicy) : Mapping :=
  [("mode", .str policy.mode), ("max_attempts", .int policy.maxAttempts),
    ("backoff_sec", .list policy.backoffSec), ("handoff_role", policy.handoffRole)]

def actionsForTrigger (triggerReason : String) (retryPolicy : RetryPolicy) :
    List RecoveryAction :=
  if triggerReason = "rate_limit" then
    [{ code := "wait", label := "Wait for rate-limit cooldown" },
      { code := "retry", label := "Retry order submission"
        parameters := some [("max_attempts", .int retryPolicy.maxAttempts)] }]
  else if triggerReason = "timeout" then
    [{ code := "emergency_plan", label := "Trigger api_retry plan", requiresManual := true },
      { code := "retry", label := "Retry after approval", requiresManual := true }]
  else if triggerReason = "partial_fill_timeout" then
    [{ code := "reduce_only", label := "Convert remaining qty to reduce-only"
       requiresManual := true }]
  else if triggerReason = "broker_reject" then
    [{ code := "review", label := "Review compliance rejection", requiresManual := true }]
  else [{ code := "escalate", label := "Escalate to ops manager", requiresManual := true }]

/-- A required key that is no text is not in the context, and cannot be named
among the missing ones. -/
def requiredKey : Value → Except PyError String
  | .str key => .ok key
  | _ => .error .typeError

namespace RecoveryPlanner

def recoverySlaMinutes (planner : RecoveryPlanner) : Except PyError Int :=
  ((planner.config.get? "sla_minutes").getD (.int 120)).toInt

def descriptorFor (planner : RecoveryPlanner) (brokerCode : String) :
    Option BrokerErrorDescriptor :=
  (planner.errorMap.get? brokerCode).or (planner.errorMap.get? "UNKNOWN")

def plan (planner : RecoveryPlanner) (orderId brokerCode stageGuardStage : String)
    (attemptCount : Int) (lastAttemptTs : Option String) (context : Mapping)
    (planId utcnow : String) : Except LifecycleError (RecoveryPlan × ErrorContext) :=
  match planner.descriptorFor brokerCode with
  | none => .error (.recoveryPlannerError ("missing error map for " ++ brokerCode))
  | some found =>
    let contextData := ((context.set "stage_guard_stage" (.str stageGuardStage)).set
      "attempt_count" (.int attemptCount)).set "last_attempt_ts"
        (match lastAttemptTs with | some ts => .str ts | none => .null)
    match tryMap requiredKey found.requiredContext with
    | .error error => .error (.python error)
    | .ok keys =>
      let missing := keys.filter (fun key => (contextData.get? key).isNone)
      let notes := if missing.isEmpty then [] else
        ["missing_context:" ++ ",".intercalate missing]
      let descriptor := if missing.isEmpty then found else
        (planner.errorMap.get? "UNKNOWN").getD found
      let plan : RecoveryPlan := {
        orderId
        planId
        triggerReason := descriptor.triggerReason
        actions := actionsForTrigger descriptor.triggerReason descriptor.retryPolicy
        runbookRef := descriptor.runbookRef
        status := "planned"
        assignedTo := valueAt planner.config "default_owner"
        createdAt := .str utcnow
        updatedAt := .str utcnow
        notes := (["broker_code=" ++ brokerCode, "retry_policy=" ++
          String.ofList (Json.dumps true (.map descriptor.retryPolicy.toDict))] ++
            notes).map Value.str }
      .ok (plan, {
        brokerCode
        triggerReason := descriptor.triggerReason
        auditEventId := descriptor.auditEventId
        runbookRef := descriptor.runbookRef
        retryPolicy := descriptor.retryPolicy
        evidencePath := descriptor.evidencePathTemplate.replace "<order_id>" orderId
        contextData
        notes })

end RecoveryPlanner

/-! ## The manager -/

/-- What the manager runs in: the JSON library, the hash function, the stage of
its guard, and the planner.  `sortedJson` is the text of a payload that is
hashed. -/
structure Surroundings where
  codec : Codec
  sha256 : String → BitVec 256
  sortedJson : Mapping → String
  guardStage : String
  planner : RecoveryPlanner

/-- The stages are those of the saved envelopes, by mode and order. -/
structure Orders where
  store : OrderStateStore := {}
  stageOf : String → String → Option String := fun _ _ => none

/-- A payload can hold a plan beside values. -/
structure Payload where
  entries : Mapping
  recoveryPlan : Option RecoveryPlan := none

structure OrderCompletionReceipt where
  orderId : String
  status : String
  completedAt : String
  evidenceHash : String

/-- When a call is made: the time of its save, and the text `utcnow` gives. -/
structure Moment where
  now : Int
  utcnow : String

namespace Surroundings

variable (around : Surroundings)

def hexdigest (text : String) : String :=
  let digest := (around.sha256 text).toNat
  String.ofList ((List.range 64).reverse.map (fun place =>
    Json.hexDigit (digest / 16 ^ place % 16)))

def hashPayload (payload : Mapping) : String := around.hexdigest (around.sortedJson payload)

def defaultEvidenceHash (orderId : String) : String := around.hexdigest orderId

def load (orders : Orders) (orderId mode : String) : Except LifecycleError (Option OrderState) :=
  match orders.store.latestState around.codec orderId mode with
  | .ok current => .ok current
  | .error error => .error (.python error)

def saveState (orders : Orders) (mode : String) (state : OrderState) (moment : Moment) : Orders :=
  { orders with store := orders.store.step around.codec (.completed mode state moment.now) }

end Surroundings

/-- The plan as it can be saved: what is no plan and not falsy cannot. -/
def Payload.plan (payload : Payload) : Except PyError (Option RecoveryPlan) :=
  match payload.recoveryPlan with
  | some plan => .ok (some plan)
  | none =>
    if (valueAt payload.entries "recovery_plan").truth then .error .attributeError else .ok none

/-- The attempt, before it is incremented. -/
def Payload.attempt (payload : Payload) (current : Option OrderState) : Except PyError Int :=
  ((payload.entries.get? "attempt").getD
    (.int ((current.map OrderState.attempt).getD 1))).toInt

/-- The state that `update_state` saves. -/
def nextState (around : Surroundings) (current : Option OrderState) (orderId status : String)
    (payload : Payload) (moment : Moment) : Except PyError OrderState := do
  let attempt ← payload.attempt current
  let carried := match current with
    | some state => Value.str state.evidenceHash
    | none => .null
  let evidenceHash := orValue (valueAt payload.entries "evidence_hash") carried
  let recoveryPlan ← payload.plan
  return {
    orderId
    status
    lastTransition := moment.utcnow
    attempt := if (valueAt payload.entries "increment_attempt").truth then attempt + 1 else attempt
    evidenceHash :=
      if evidenceHash.truth then evidenceHash.text else around.defaultEvidenceHash orderId
    errorCode := valueAt payload.entries "error_code"
    retryAfter := valueAt payload.entries "retry_after"
    ackReceivedAt := valueAt payload.entries "ack_received_at"
    fillSummary := valueAt payload.entries "fill_summary"
    recoveryPlan }

/-- The wait of a queued order, as it is converted after the save. -/
def recordQueueWait (status : String) (payload : Mapping) : Except PyError Unit := do
  if status = "queued" ∧ (valueAt payload "queue_wait_ms").truth then
    let wait ← (valueAt payload "queue_wait_ms").toFloat
    if 0 < wait then
      let _ ← ((payload.get? "queue_depth").getD (.int 0)).toInt

def liftPython {Result : Type} : Except PyError Result → Except LifecycleError Result
  | .ok result => .ok result
  | .error error => .error (.python error)

/-- A call leaves the orders behind also where it raises. -/
abbrev Outcome (Result : Type) := Orders × Except LifecycleError Result

section Manager

variable (around : Surroundings) (orders : Orders)

def updateState (orderId status mode : String) (payload : Payload) (moment : Moment) :
    Outcome OrderState :=
  match around.load orders orderId mode with
  | .error error => (orders, .error error)
  | .ok current =>
    match nextState around current orderId status payload moment with
    | .error error => (orders, .error (.python error))
    | .ok state =>
      (around.saveState orders mode state moment,
        (liftPython (recordQueueWait status payload.entries)).map fun _ => state)

/-- What `attach_fill` gives to `update_state`. -/
def fillPayload (fillEvent : Mapping) : Mapping :=
  [("fill_summary", .str (around.hashPayload fillEvent)),
    ("ack_received_at", valueAt fillEvent "ack_received_at")]

def attachFill (orderId mode : String) (fillEvent : Mapping) (status : String)
    (moment : Moment) : Outcome OrderState :=
  updateState around orders orderId status mode { entries := fillPayload around fillEvent } moment

def recoveryPayload (brokerCode runbookRef : String) : Mapping :=
  [("error_code", .str brokerCode), ("runbook_ref", .str runbookRef)]

def scheduleRecovery (orderId mode brokerCode planId : String) (context : Mapping)
    (moment : Moment) : Outcome (OrderState × RecoveryPlan) :=
  match around.load orders orderId mode with
  | .error error => (orders, .error error)
  | .ok current =>
    match around.planner.plan orderId brokerCode
        ((orders.stageOf mode orderId).getD "manual_only")
        ((current.map OrderState.attempt).getD 1) (current.map OrderState.lastTransition)
        context planId moment.utcnow with
    | .error error => (orders, .error error)
    | .ok (plan, errorContext) =>
      let (after, result) := updateState around orders orderId "error" mode
        { entries := recoveryPayload brokerCode errorContext.runbookRef
          recoveryPlan := some plan } moment
      (after, do
        let state ← result
        let _ ← liftPython around.planner.recoverySlaMinutes
        return (state, plan))

def finalize (orderId mode : String) (moment : Moment) : Outcome OrderCompletionReceipt :=
  match around.load orders orderId mode with
  | .error error => (orders, .error error)
  | .ok _ =>
    let (after, result) := updateState around orders orderId "reconciled" mode
      { entries := [] } moment
    (after, result.map fun state => {
      orderId
      status := state.status
      completedAt := moment.utcnow
      evidenceHash := state.evidenceHash })

/-- The stage that `create` checks. -/
def stageFor (stageGuardCtx : Mapping) : String :=
  if stageGuardCtx.isEmpty then around.guardStage else textAt stageGuardCtx "stage"

def ticketMode (ticket : Mapping) : String := ((ticket.get? "mode").getD (.str "paper")).text

def createdState (orderId : String) (moment : Moment) : OrderState where
  orderId := orderId
  status := "created"
  lastTransition := moment.utcnow
  attempt := 1
  evidenceHash := around.defaultEvidenceHash orderId

/-- `orderId` is the one that is made up. -/
def create (orderId : String) (ticket stageGuardCtx : Mapping) (moment : Moment) :
    Outcome String :=
  let stage := stageFor around stageGuardCtx
  let reduceOnly := ((ticket.get? "reduce_only").getD (.bool false)).truth
  if stage = "manual_only" then
    (orders, .error (.orderDispatchRejected "stage_manual_only" "RUN-BROKER-API-03"))
  else if stage = "reduce_only" ∧ reduceOnly = false then
    (orders, .error (.orderDispatchRejected "stage_reduce_only_required" "RUN-RISK-01"))
  else
    match dictOf (orValue (valueAt ticket "risk_snapshot") (.map [])) with
    | .error error => (orders, .error (.python error))
    | .ok _ =>
      let mode := ticketMode ticket
      let enveloped := { orders with
        stageOf := Function.update orders.stageOf mode
          (Function.update (orders.stageOf mode) orderId (some stage)) }
      (around.saveState enveloped mode (createdState around orderId moment) moment, .ok orderId)

end Manager

/-! ## Calls -/

inductive Call where
  | create (orderId : String) (ticket stageGuardCtx : Mapping)
  | updateState (orderId status mode : String) (payload : Payload)
  | attachFill (orderId mode : String) (fillEvent : Mapping) (status : String)
  | scheduleRecovery (orderId mode brokerCode planId : String) (context : Mapping)
  | finalize (orderId mode : String)

structure Request where
  call : Call
  moment : Moment

def Request.run (around : Surroundings) (orders : Orders) (request : Request) : Orders :=
  match request.call with
  | .create orderId ticket stageGuardCtx =>
    (create around orders orderId ticket stageGuardCtx request.moment).1
  | .updateState orderId status mode payload =>
    (updateState around orders orderId status mode payload request.moment).1
  | .attachFill orderId mode fillEvent status =>
    (attachFill around orders orderId mode fillEvent status request.moment).1
  | .scheduleRecovery orderId mode brokerCode planId context =>
    (scheduleRecovery around orders orderId mode brokerCode planId context request.moment).1
  | .finalize orderId mode => (finalize around orders orderId mode request.moment).1

end FxToushi.Brokers
