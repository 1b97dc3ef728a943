import FxToushi.Data.Dict
import FxToushi.Data.Runs
import FxToushi.Py.Text
import Mathlib.Data.Rat.Defs

namespace FxToushi.Brokers

open Data Py

/-! # Autonomy stage guard

The stage, its history and the requests waiting for approval.  A guard keeps a
private copy of all three and writes the whole copy to its state file; audit
and event logs are only appended to and never read back into the state.
-/

/-- `StageName`, in the order of `_allowed_order`. -/
inductive Stage where
  | manualOnly
  | reduceOnly
  | partialAuto
  | fullAuto
deriving Repr, DecidableEq

namespace Stage

def allowedOrder : List Stage := [manualOnly, reduceOnly, partialAuto, fullAuto]

def name : Stage → String
  | manualOnly => "manual_only"
  | reduceOnly => "reduce_only"
  | partialAuto => "partial_auto"
  | fullAuto => "full_auto"

def index (stage : Stage) : Nat := allowedOrder.idxOf stage

def next? (stage : Stage) : Option Stage := allowedOrder[stage.index + 1]?

def previous? (stage : Stage) : Option Stage :=
  if stage.index = 0 then none else allowedOrder[stage.index - 1]?

theorem index_next {stage above : Stage} (next : stage.next? = some above) :
    above.index = stage.index + 1 := by
  revert above
  cases stage <;> decide +revert

theorem index_previous {stage below : Stage} (previous : stage.previous? = some below) :
    below.index < stage.index := by
  revert below
  cases stage <;> decide +revert

end Stage

structure StageTransition where
  fromStage : Stage
  toStage : Stage
  actor : String
  reason : Option String
  ts : String
deriving Repr, DecidableEq

inductive RequestStatus where
  | requested
  | approved
  | denied
deriving Repr, DecidableEq

structure StageRequest where
  requestId : String
  requestedStage : Stage
  requestedBy : String
  requestedAt : String
  status : RequestStatus
  reason : Option String := none
  approvedBy : Option String := none
  approvedAt : Option String := none
deriving Repr, DecidableEq

structure StageGuardContext where
  opsReadinessScore : Option Rat
  certificationStatus : Option String
  fillShadowAlerts : Int
  emergencyActive : Bool
  drillOverdue : Bool
  incidentCount : Int
  riskDisclosureOk : Bool
  stageGuardEnabled : Bool
  notes : List String := []
deriving Repr, DecidableEq

structure StageGuardEvaluation where
  allowedPromotions : List Stage
  blocks : Dict Stage (List String)
  recommendedDemotions : List Stage
  nextActions : List String
  runbookRefs : List String
deriving DecidableEq

inductive StageGuardError where
  | promotionBlocked (stage : Stage) (reasons : List String)
  | cannotDemote (current target : Stage)
  | requestNotFound (requestId : String)
  | notApprovable (requestId : String)
  | notDeniable (requestId : String)
deriving Repr, DecidableEq

def StageGuardError.message : StageGuardError → String
  | promotionBlocked stage reasons =>
    "Stage promotion blocked: " ++ stage.name ++ " (" ++
      orText (some (", ".intercalate reasons)) "blocked" ++ ")"
  | cannotDemote current target => "Cannot demote from " ++ current.name ++ " to " ++ target.name
  | requestNotFound requestId => requestId
  | notApprovable requestId => "Request " ++ requestId ++ " not approvable"
  | notDeniable requestId => "Request " ++ requestId ++ " not deniable"

/-- The payload of the state file. -/
structure StageFile where
  stage : Stage
  updatedAt : String
  updatedBy : String
  history : List StageTransition
  requests : List StageRequest
deriving Repr, DecidableEq

structure AutonomyStageGuard where
  stage : Stage
  updatedAt : String
  updatedBy : String
  history : List StageTransition := []
  requests : List StageRequest := []
deriving Repr, DecidableEq

def scoreBelow (score : Option Rat) (bound : Rat) : Bool :=
  match score with
  | none => true
  | some score => decide (score < bound)

def stageRequirements (stage : Stage) (context : StageGuardContext) : List String :=
  match stage with
  | .manualOnly => []
  | .reduceOnly =>
    (if scoreBelow context.opsReadinessScore 70 then ["ops_readiness_score<70"] else []) ++
    (if context.certificationStatus ∉ [some "pass", some "pass_with_warning"] then
      ["broker_certification_not_pass"] else []) ++
    (if context.fillShadowAlerts ≠ 0 then ["fill_shadow_alerts"] else []) ++
    (if context.riskDisclosureOk = false then ["risk_disclosure_pending"] else [])
  | .partialAuto =>
    (if scoreBelow context.opsReadinessScore 80 then ["ops_readiness_score<80"] else []) ++
    (if context.drillOverdue then ["emergency_drill_overdue"] else []) ++
    (if context.emergencyActive then ["emergency_active"] else [])
  | .fullAuto => ["requires_m3_soak"]

def readinessLow (context : StageGuardContext) : Bool :=
  match context.opsReadinessScore with
  | none => false
  | some score => decide (score < 75)

def recommendedDemotions (stage : Stage) (context : StageGuardContext) : List Stage :=
  if context.emergencyActive = true ∧ stage ≠ .manualOnly then [.manualOnly]
  else if (stage = .partialAuto ∨ stage = .fullAuto) ∧
      (context.fillShadowAlerts ≠ 0 ∨ readinessLow context = true ∨
        context.drillOverdue = true) then [.reduceOnly]
  else []

namespace AutonomyStageGuard

/-- `_load_state`.  A missing or undecodable file is `none`. -/
def load (file : Option StageFile) (now : String) : AutonomyStageGuard :=
  match file with
  | none => { stage := .manualOnly, updatedAt := now, updatedBy := "system" }
  | some payload =>
    { stage := payload.stage
      updatedAt := orText (some payload.updatedAt) now
      updatedBy := orText (some payload.updatedBy) "system"
      history := payload.history
      requests := payload.requests }

def save (guard : AutonomyStageGuard) : StageFile where
  stage := guard.stage
  updatedAt := guard.updatedAt
  updatedBy := guard.updatedBy
  history := guard.history
  requests := guard.requests

def applyTransition (guard : AutonomyStageGuard) (transition : StageTransition) :
    AutonomyStageGuard :=
  { guard with
    stage := transition.toStage
    updatedAt := transition.ts
    updatedBy := transition.actor
    history := guard.history ++ [transition] }

def nextActions (context : StageGuardContext) : List String :=
  (if context.emergencyActive then
    ["Emergency plan active: review API failover status."] else []) ++
  (if context.fillShadowAlerts ≠ 0 then
    ["FillShadow alerts detected: review shadow reconciliation."] else []) ++
  (if readinessLow context then
    ["Ops readiness below threshold: review ops readiness evidence."] else []) ++
  (if context.drillOverdue then
    ["Emergency drill overdue: schedule drill execution."] else [])

def runbookRefs (context : StageGuardContext) : List String :=
  let readiness := if readinessLow context then ["OPS-READINESS-01"] else []
  let failover := if context.emergencyActive = true ∨ context.fillShadowAlerts ≠ 0 ∨
    context.drillOverdue = true then ["RUN-BROKER-API-02"] else []
  if readiness ++ failover = [] then ["RUN-BROKER-API-03"] else readiness ++ failover

def higherStages (stage : Stage) : List Stage :=
  Stage.allowedOrder.filter (fun candidate => decide (stage.index < candidate.index))

def evaluate (guard : AutonomyStageGuard) (context : StageGuardContext) :
    StageGuardEvaluation :=
  if context.stageGuardEnabled = false then
    { allowedPromotions := []
      blocks := (Stage.allowedOrder.filter (· ≠ guard.stage)).foldl
        (fun blocks stage => blocks.set stage ["feature_flag_disabled"]) Dict.empty
      recommendedDemotions := []
      nextActions := ["Enable brokers.autonomy_stage_enabled to evaluate stages."]
      runbookRefs := ["RUN-BROKER-API-03"] }
  else
    { allowedPromotions := (higherStages guard.stage).filter
        (fun stage => (stageRequirements stage context).isEmpty)
      blocks := ((higherStages guard.stage).filter
          (fun stage => !(stageRequirements stage context).isEmpty)).foldl
        (fun blocks stage => blocks.set stage (stageRequirements stage context)) Dict.empty
      recommendedDemotions := recommendedDemotions guard.stage context
      nextActions := nextActions context
      runbookRefs := runbookRefs context }

def promote (guard : AutonomyStageGuard) (stage : Stage) (actor : String)
    (reason : Option String) (context : StageGuardContext) (override : Bool) (now : String) :
    Except StageGuardError (AutonomyStageGuard × StageTransition) :=
  let evaluation := guard.evaluate context
  if override = false ∧ stage ∉ evaluation.allowedPromotions then
    .error (.promotionBlocked stage ((evaluation.blocks.get? stage).getD []))
  else if stage.index < guard.stage.index then .error (.cannotDemote guard.stage stage)
  else
    let transition :=
      { fromStage := guard.stage, toStage := stage, actor, reason, ts := now }
    .ok (guard.applyTransition transition, transition)

def rollbackOne (guard : AutonomyStageGuard) (actor : String) (reason : Option String)
    (now : String) : Option (AutonomyStageGuard × StageTransition) :=
  guard.stage.previous?.map fun stage =>
    let transition :=
      { fromStage := guard.stage, toStage := stage, actor, reason, ts := now }
    (guard.applyTransition transition, transition)

/-- A `circuit_breaker` error rolls back, any other error class does nothing. -/
def onError (guard : AutonomyStageGuard) (errorClass actor : String) (reason : Option String)
    (now : String) : Option (AutonomyStageGuard × StageTransition) :=
  if errorClass = "circuit_breaker" then
    guard.rollbackOne actor (orElse reason (some "circuit_breaker")) now
  else none

def recover (guard : AutonomyStageGuard) (actor : String) (reason : Option String)
    (now : String) : Option (AutonomyStageGuard × StageTransition) :=
  guard.stage.next?.map fun stage =>
    let transition :=
      { fromStage := guard.stage, toStage := stage, actor, reason, ts := now }
    (guard.applyTransition transition, transition)

def requestTransition (guard : AutonomyStageGuard) (stage : Stage) (actor : String)
    (reason : Option String) (requestId now : String) : AutonomyStageGuard × StageRequest :=
  let request : StageRequest :=
    { requestId, requestedStage := stage, requestedBy := actor, requestedAt := now
      status := .requested, reason }
  ({ guard with requests := guard.requests ++ [request] }, request)

def findRequest (guard : AutonomyStageGuard) (requestId : String) :
    Except StageGuardError StageRequest :=
  match guard.requests.find? (fun request => request.requestId == requestId) with
  | some request => .ok request
  | none => .error (.requestNotFound requestId)

/-- Replace the first request with the identifier, the one `_find_request` returned. -/
def replaceRequest (requestId : String) (updated : StageRequest) :
    List StageRequest → List StageRequest
  | [] => []
  | request :: rest =>
    if request.requestId = requestId then updated :: rest
    else request :: replaceRequest requestId updated rest

def approveRequest (guard : AutonomyStageGuard) (requestId actor : String)
    (reason : Option String) (context : StageGuardContext) (now : String) :
    Except StageGuardError (AutonomyStageGuard × StageTransition) := do
  let request ← guard.findRequest requestId
  if request.status ≠ .requested then throw (.notApprovable requestId)
  let (moved, transition) ←
    guard.promote request.requestedStage actor (orElse reason request.reason) context false now
  let approved := { request with
    status := .approved, approvedBy := some actor, approvedAt := some transition.ts }
  return ({ moved with requests := replaceRequest requestId approved moved.requests }, transition)

def denyRequest (guard : AutonomyStageGuard) (requestId actor : String) (now : String) :
    Except StageGuardError (AutonomyStageGuard × StageRequest) := do
  let request ← guard.findRequest requestId
  if request.status ≠ .requested then throw (.notDeniable requestId)
  let denied := { request with
    status := .denied, approvedBy := some actor, approvedAt := some now }
  return ({ guard with requests := replaceRequest requestId denied guard.requests }, denied)

def pendingRequests (guard : AutonomyStageGuard) : List StageRequest :=
  guard.requests.filter (fun request => decide (request.status = .requested))

end AutonomyStageGuard

end FxToushi.Brokers
