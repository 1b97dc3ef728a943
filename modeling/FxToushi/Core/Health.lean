import FxToushi.Data.Runs
import FxToushi.Core.GateState

namespace FxToushi.Core

open Data Py

/-! # Health monitor

The in-memory tracker of health reasons, the suggestions queued for operators
and the guardrail snapshot the CLI shows.  Writing the event log is the only
interaction with the disk that feeds back into the state, so it is an input of
`raiseCondition`.
-/

structure HealthReason where
  code : String
  level : String
  detail : Option String := none
  recommendedAction : Option String := none
  raisedAt : Timestamp
deriving Repr, DecidableEq

structure KillSwitchSuggestion where
  state : String
  reason : String
  runbook : Option String := none
deriving Repr, DecidableEq

structure HealthState where
  status : String := "ok"
  reasons : List HealthReason := []
  boardModeSuggestion : Option String := none
  boardModeRunbook : Option String := none
  killSwitch : Option KillSwitchSuggestion := none
deriving Repr, DecidableEq

structure HealthAction where
  id : String
  action : String
  reason : String
  evidence : List String := []
  expiresAt : Option Timestamp := none
  queuedAt : Timestamp
deriving Repr, DecidableEq

structure GuardrailSnapshot where
  healthStatus : String
  boardMode : String
  killSwitchState : String
  spreadStatus : String
  liquidityStatus : String
  reduceOnly : Bool
  exitCode : Nat
  reasons : List String
  banner : Option String
  runbook : Option String
  killSwitchReason : Option String
  spreadReason : Option String
  reduceOnlyReason : Option String
deriving Repr, DecidableEq

structure HealthMonitor where
  state : HealthState := {}
  actions : List HealthAction := []
deriving Repr, DecidableEq

namespace HealthMonitor

def fresh : HealthMonitor := {}

def severityOrder : List String := ["ok", "warn", "degraded", "soft_stop", "hard_stop"]

def levelToStatus (level : String) : String :=
  if level = "ok" ∨ level = "info" then "ok"
  else if level = "warning" ∨ level = "warn" then "warn"
  else if level = "degraded" then "degraded"
  else if level = "soft_stop" ∨ level = "critical" then "soft_stop"
  else if level = "hard_stop" ∨ level = "fatal" then "hard_stop"
  else "degraded"

/-- The more severe of two statuses.  An unknown current status ranks as `ok`,
an unknown incoming one as `warn`. -/
def mergeStatus (current incoming : String) : String :=
  let currentIdx := (severityOrder.idxOf? current).getD 0
  let incomingIdx := (severityOrder.idxOf? incoming).getD 1
  severityOrder.getD (max currentIdx incomingIdx) "ok"

def recomputeStatus (reasons : List HealthReason) : String :=
  reasons.foldl (fun status reason => mergeStatus status (levelToStatus reason.level)) "ok"

def upsertReason (incoming : HealthReason) : List HealthReason → List HealthReason
  | [] => [incoming]
  | reason :: rest =>
    if reason.code = incoming.code then incoming :: rest
    else reason :: upsertReason incoming rest

/-- Register or update a degraded reason.  `logged` says whether the event log
could be written; an `OSError` there returns before the status is merged. -/
def raiseCondition (monitor : HealthMonitor) (now : Timestamp) (logged : Bool)
    (level reason : String) (detail recommendedAction : Option String) : HealthMonitor :=
  let reasons := upsertReason { code := reason, level, detail, recommendedAction, raisedAt := now }
    monitor.state.reasons
  let status := if logged then mergeStatus monitor.state.status (levelToStatus level)
    else monitor.state.status
  { monitor with state := { monitor.state with reasons, status } }

def queueAction (monitor : HealthMonitor) (now : Timestamp) (action reason : String)
    (evidence : List String) (expiresAt : Option Timestamp) (actionId : Option String) :
    HealthMonitor :=
  let id := orText actionId (action ++ ":" ++ reason)
  if monitor.actions.any (fun item => item.id == id) then monitor
  else { monitor with
    actions := monitor.actions ++ [{ id, action, reason, evidence, expiresAt, queuedAt := now }] }

def ackAction (monitor : HealthMonitor) (actionId : String) : HealthMonitor :=
  { monitor with actions := monitor.actions.eraseP (fun item => item.id == actionId) }

def clear (monitor : HealthMonitor) : Option String → HealthMonitor
  | none => fresh
  | some reason =>
    let reasons := monitor.state.reasons.filter (fun item => item.code != reason)
    { state := { monitor.state with
        reasons
        status := if reasons.isEmpty then "ok" else recomputeStatus reasons }
      actions := monitor.actions.filter (fun item => item.reason != reason) }

/-- `suggest_guarded` and `suggest_resume`: the suggestion is shown on the
board and queued under the action's name. -/
def suggestBoardMode (monitor : HealthMonitor) (now : Timestamp) (action reason : String)
    (runbook : Option String) (evidence : List String) (expiresAt : Option Timestamp)
    (actionId : Option String) : HealthMonitor :=
  let suggested := { monitor with state := { monitor.state with
    boardModeSuggestion := some reason, boardModeRunbook := runbook } }
  suggested.queueAction now action reason evidence expiresAt actionId

def suggestGuarded (monitor : HealthMonitor) (now : Timestamp) :=
  monitor.suggestBoardMode now "guarded"

def suggestResume (monitor : HealthMonitor) (now : Timestamp) :=
  monitor.suggestBoardMode now "resume"

def suggestKillSwitch (monitor : HealthMonitor) (state reason : String)
    (runbook : Option String) : HealthMonitor :=
  { monitor with state := { monitor.state with killSwitch := some { state, reason, runbook } } }

/-- One call on the monitor, with the clock reading and the outcome of the log
write where the call depends on them. -/
inductive Operation where
  | raiseCondition (now : Timestamp) (logged : Bool) (level reason : String)
      (detail recommendedAction : Option String)
  | queueAction (now : Timestamp) (action reason : String) (evidence : List String)
      (expiresAt : Option Timestamp) (actionId : Option String)
  | ackAction (actionId : String)
  | clear (reason : Option String)
  | suggestGuarded (now : Timestamp) (reason : String) (runbook : Option String)
      (evidence : List String) (expiresAt : Option Timestamp) (actionId : Option String)
  | suggestResume (now : Timestamp) (reason : String) (runbook : Option String)
      (evidence : List String) (expiresAt : Option Timestamp) (actionId : Option String)
  | suggestKillSwitch (state reason : String) (runbook : Option String)

def step (monitor : HealthMonitor) : Operation → HealthMonitor
  | .raiseCondition now logged level reason detail action =>
    monitor.raiseCondition now logged level reason detail action
  | .queueAction now action reason evidence expiresAt actionId =>
    monitor.queueAction now action reason evidence expiresAt actionId
  | .ackAction actionId => monitor.ackAction actionId
  | .clear reason => monitor.clear reason
  | .suggestGuarded now reason runbook evidence expiresAt actionId =>
    monitor.suggestGuarded now reason runbook evidence expiresAt actionId
  | .suggestResume now reason runbook evidence expiresAt actionId =>
    monitor.suggestResume now reason runbook evidence expiresAt actionId
  | .suggestKillSwitch state reason runbook => monitor.suggestKillSwitch state reason runbook

def Reachable (monitor : HealthMonitor) : Prop :=
  ∃ operations, monitor = runFrom step fresh operations

def QuietIsOk (monitor : HealthMonitor) : Prop :=
  monitor.state.reasons = [] → monitor.state.status = "ok"

theorem upsertReason_ne_nil (incoming : HealthReason) (reasons : List HealthReason) :
    upsertReason incoming reasons ≠ [] := by
  cases reasons with
  | nil => simp [upsertReason]
  | cons reason rest =>
    simp only [upsertReason]
    split <;> simp

@[simp] theorem queueAction_state (monitor : HealthMonitor) (now : Timestamp)
    (action reason : String) (evidence : List String) (expiresAt : Option Timestamp)
    (actionId : Option String) :
    (monitor.queueAction now action reason evidence expiresAt actionId).state = monitor.state := by
  simp only [queueAction]
  split <;> rfl

theorem step_quietIsOk (monitor : HealthMonitor) (operation : Operation)
    (quiet : QuietIsOk monitor) : QuietIsOk (monitor.step operation) := by
  cases operation with
  | raiseCondition now logged level reason detail action =>
    intro empty
    exact absurd empty (upsertReason_ne_nil _ _)
  | queueAction now action reason evidence expiresAt actionId =>
    simpa only [QuietIsOk, step, queueAction_state] using quiet
  | ackAction actionId => exact quiet
  | clear reason =>
    cases reason with
    | none => exact fun _ => rfl
    | some reason =>
      intro empty
      simp only [step, clear] at empty ⊢
      simp [empty]
  | suggestGuarded now reason runbook evidence expiresAt actionId =>
    simpa only [QuietIsOk, step, suggestGuarded, suggestBoardMode, queueAction_state] using quiet
  | suggestResume now reason runbook evidence expiresAt actionId =>
    simpa only [QuietIsOk, step, suggestResume, suggestBoardMode, queueAction_state] using quiet
  | suggestKillSwitch state reason runbook => exact quiet

theorem Reachable.quietIsOk {monitor : HealthMonitor} (reachable : Reachable monitor) :
    QuietIsOk monitor := by
  obtain ⟨operations, rfl⟩ := reachable
  exact (throughout_of_step step_quietIsOk (fun _ => rfl)).final

/-! ## The guardrail snapshot -/

def normaliseSpreadState (state : String) : String :=
  if state ∈ ["halt", "block"] then "block"
  else if state ∈ ["watch", "cooldown"] then "cooldown"
  else state

def computeExitCode (healthStatus killSwitchState spreadStatus : String) (reduceOnly : Bool) :
    Nat :=
  if healthStatus = "hard_stop" ∨ killSwitchState = "hard_stop" then 63
  else if killSwitchState = "soft_stop" then 62
  else if spreadStatus = "block" then 62
  else if spreadStatus = "cooldown" ∨ reduceOnly = true ∨
      healthStatus ∈ ["warn", "degraded", "soft_stop"] then 21
  else 0

/-- The kill switch the snapshot goes by: the first source present. -/
def effectiveKillSwitch (health : HealthState) (gate : GateState)
    (killSwitchState : Option String) : String :=
  orText (orElse (orElse killSwitchState (health.killSwitch.map (·.state)))
    gate.risk.killSwitchRecommendation) "none"

def snapshotBoardMode (health : HealthState) (gate : GateState)
    (killSwitch spreadState : String) : String :=
  if killSwitch = "hard_stop" ∨ health.status = "hard_stop" then "halted"
  else if spreadState ≠ "normal" ∨ gate.risk.reduceOnly = true ∨
      gate.market.liquidity.state ∈ ["guarded", "halted"] ∨
      health.status ∈ ["warn", "degraded", "soft_stop"] then "guarded"
  else "normal"

def guardrailSnapshot (monitor : HealthMonitor) (gate : GateState)
    (killSwitchState : Option String := none) : GuardrailSnapshot :=
  let health := monitor.state
  let spreadState := normaliseSpreadState gate.market.spread.state
  let spreadReason := gate.market.spread.reason
  let liquidityStatus := gate.market.liquidity.state
  let killSwitchReason := orElse gate.risk.killSwitchReason (health.killSwitch.map (·.reason))
  let killSwitch := effectiveKillSwitch health gate killSwitchState
  let boardMode := snapshotBoardMode health gate killSwitch spreadState
  let liquidityReason :=
    if liquidityStatus ≠ "normal" then some ("liquidity_" ++ liquidityStatus) else none
  let banner := orElse (orElse (orElse (orElse health.boardModeSuggestion spreadReason)
    gate.risk.reduceOnlyReason) killSwitchReason) liquidityReason
  -- A guarded board is reduce-only even when the risk component is not.
  let forced := boardMode = "guarded" ∧ gate.risk.reduceOnly = false
  let reduceOnly := gate.risk.reduceOnly || decide forced
  let reduceOnlyReason := if forced then
    orElse gate.risk.reduceOnlyReason (some "board_mode_guarded") else gate.risk.reduceOnlyReason
  let reasons := health.reasons.map (·.code) ++
    (if truthy spreadReason then ["spread:" ++ spreadReason.getD ""] else []) ++
    (if liquidityStatus ≠ "normal" then ["liquidity:" ++ liquidityStatus] else []) ++
    (if truthy reduceOnlyReason then ["reduce_only:" ++ reduceOnlyReason.getD ""] else []) ++
    (if killSwitch ≠ "none" then ["kill_switch:" ++ killSwitch] else [])
  let suggestedRunbook := health.killSwitch.bind (·.runbook)
  { healthStatus := health.status
    boardMode
    killSwitchState := killSwitch
    spreadStatus := spreadState
    liquidityStatus
    reduceOnly
    exitCode := computeExitCode health.status killSwitch spreadState reduceOnly
    reasons
    banner
    runbook := if truthy suggestedRunbook then suggestedRunbook else health.boardModeRunbook
    killSwitchReason
    spreadReason
    reduceOnlyReason }

end HealthMonitor

end FxToushi.Core
