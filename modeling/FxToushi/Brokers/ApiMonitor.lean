import FxToushi.Brokers.Failover
import FxToushi.Brokers.RateLimit
import FxToushi.Core.HealthStatus
import FxToushi.Core.Resync
import FxToushi.Py.Containers
import FxToushi.Shadow.StateStore

namespace FxToushi.Brokers.ApiMonitor

open FxToushi.Core Resync Data Py

/-! # Monitor of the broker API

What is measured is logged.  What is too slow or fails raises an alert and a condition of the
health monitor, may shrink the rate limit, and may start the failover that stops the router.
-/

structure BrokerAlert where
  alertId : String
  severity : String
  code : String
  message : String
  adapter : String
  operation : String
  createdAt : String
  runbookRef : Option String := none
  metadata : Mapping := []

def BrokerAlert.toDict (alert : BrokerAlert) : Mapping :=
  [("alert_id", .str alert.alertId), ("severity", .str alert.severity), ("code", .str alert.code),
    ("message", .str alert.message), ("adapter", .str alert.adapter),
    ("operation", .str alert.operation), ("created_at", .str alert.createdAt),
    ("runbook_ref", alert.runbookRef.elim .null .str), ("metadata", .map alert.metadata)]

/-- The files, what the store and the dispatcher are handed, and the parts of the monitor. -/
structure MonitorState where
  metrics : Option (List Char) := none
  alerts : List Char := []
  shadowEvents : List Char := []
  shadowAlerts : List BrokerAlert := []
  dispatched : List (String × String) := []
  failover : FailoverFiles := {}
  health : HealthMonitor := .fresh
  rateLimiter : Option RateLimitWindow := none

/-- What a sink hands its alerts on to. -/
structure BrokerAlertSink where
  shadowEventLog : Bool := false
  shadowStore : Bool := false
  dispatcher : Bool := false

namespace BrokerAlertSink

def pendingRecovery (alert : BrokerAlert) : Value :=
  .map [("timestamp", .str alert.createdAt), ("task", .str "broker_api_recovery"),
    ("status", .str "pending"), ("alert_id", .str alert.alertId),
    ("runbook", alert.runbookRef.elim .null .str)]

/-- The worklog is the one of the failover planner. -/
def emit (sink : BrokerAlertSink) (state : MonitorState) (alert : BrokerAlert) : MonitorState :=
  { state with
    alerts := appendLine state.alerts alert.toDict
    shadowEvents := if sink.shadowEventLog then
        appendLine state.shadowEvents [("event_type", .str "broker_api.alert"),
          ("payload", .map alert.toDict), ("ts", .str alert.createdAt)]
      else state.shadowEvents
    shadowAlerts := if sink.shadowStore then state.shadowAlerts ++ [alert] else state.shadowAlerts
    dispatched := if sink.dispatcher then state.dispatched ++ [(alert.severity, alert.message)]
      else state.dispatched
    failover := { state.failover with
      opsWorklog := state.failover.opsWorklog ++
        if alert.severity = "critical" then [pendingRecovery alert] else [] } }

/-- Whether a record is not from before the time; without a time it is not even looked at. -/
def listed (since : Option String) (value : Value) : Except PyError (Option Value) :=
  if truthy since then
    match value with
    | .map record =>
      if (orValue (field record "created_at") (.str "")).text < since.getD "" then .ok none
      else .ok (some value)
    | _ => .error .attributeError
  else .ok (some value)

def listAlerts (content : List Char) (since : Option String) : Except PyError (List Value) := do
  let alerts ← tryMap (listed since) (readLines id content)
  return alerts.filterMap id

end BrokerAlertSink

structure BrokerSloConfig where
  latencyWarnMs : Int
  latencyCriticalMs : Int
  queueWarnSec : Int

/-- `from_path`, of what the file is loaded as, if there is one. -/
def BrokerSloConfig.fromPath (file : Option Value) : Except PyError BrokerSloConfig :=
  match file.getD (.map []) with
  | .map payload => do
      let latencyWarnMs ← ((Mapping.get? payload "latency_warn_ms").getD
        ((Mapping.get? payload "latency_ms_p95").getD (.int 800))).toInt
      let latencyCriticalMs ←
        ((Mapping.get? payload "latency_critical_ms").getD (.int 1500)).toInt
      let queueWarnSec ← ((Mapping.get? payload "queue_warn_sec").getD (.int 30)).toInt
      return { latencyWarnMs, latencyCriticalMs, queueWarnSec }
  | _ => .error .attributeError

structure MetricsSummary where
  status : String
  requests : Nat := 0
  errors : Nat := 0
  rateLimitHits : Nat := 0

/-- `ticks` are the readings of the rate limiter's clock. -/
structure BrokerApiMonitor where
  slo : BrokerSloConfig
  alertSink : Option BrokerAlertSink := none
  failoverRunbook : Option String := none
  ticks : Nat → Rat := fun _ => 0

/-- What a call reads of the clocks and of the random source, and whether the health monitor could
write its log. -/
structure Readings where
  measuredAt : UtcTime
  alertedAt : UtcTime
  alertHex : String
  raisedAt : Timestamp
  logged : Bool
  plannedAt : UtcTime

namespace BrokerApiMonitor

variable (monitor : BrokerApiMonitor) (state : MonitorState) (readings : Readings)

def appendMetrics (payload : Mapping) : MonitorState :=
  { state with metrics := some (appendLine (state.metrics.getD []) payload) }

def emitAlert (severity code message adapter operation : String) : MonitorState :=
  match monitor.alertSink with
  | none => state
  | some sink => sink.emit state {
      alertId := "broker-" ++ readings.alertHex
      severity, code, message, adapter, operation
      createdAt := readings.alertedAt.wholeSecond.isoText
      runbookRef := some "RUN-BROKER-API-02" }

def raiseCondition (level reason detail : String) : MonitorState :=
  { state with
    health := state.health.raiseCondition readings.raisedAt readings.logged level reason
      (some detail) (some "runbook:RUN-BROKER-API-02") }

/-- `int(datetime.timestamp())`. -/
def unixTime (time : UtcTime) : Int := (time.seconds : Int) - 62135596800

def planFailover (reason : String) : MonitorState :=
  match monitor.failoverRunbook with
  | none => state
  | some runbookRef =>
    { state with
      failover := (ApiFailoverPlanner.plan state.failover runbookRef reason
        (toString (unixTime readings.plannedAt)) readings.plannedAt.wholeSecond.isoText true).1 }

def shrinkCapacity : MonitorState :=
  { state with rateLimiter := state.rateLimiter.map fun window =>
      window.shrinkCapacity monitor.ticks (4 / 5) }

def latencyDetail (adapter operation : String) (latencyMs : Rat) : String :=
  adapter ++ ":" ++ operation ++ " latency " ++ formatFixed 1 latencyMs ++ "ms"

/-- `printed` is how the rounded latency is written. -/
def record (adapter operation : String) (latencyMs : Rat) (printed status : String) :
    MonitorState :=
  let measured := appendMetrics state [("ts", .str readings.measuredAt.wholeSecond.isoText),
    ("adapter", .str adapter), ("operation", .str operation),
    ("latency_ms", .float (roundTo latencyMs 2) printed), ("status", .str status),
    ("error_bucket", .null)]
  let detail := latencyDetail adapter operation latencyMs
  if monitor.slo.latencyCriticalMs ≤ latencyMs then
    let alerted := monitor.emitAlert measured readings "critical" "broker.latency.critical" detail
      adapter operation
    let raised := raiseCondition alerted readings "critical" "broker_latency" detail
    monitor.planFailover raised readings "broker_latency"
  else if monitor.slo.latencyWarnMs ≤ latencyMs then
    let alerted := monitor.emitAlert measured readings "warning" "broker.latency.warn" detail
      adapter operation
    raiseCondition alerted readings "warning" "broker_latency" detail
  else measured

def recordError (adapter operation errorBucket status : String) : MonitorState :=
  let measured := appendMetrics state [("ts", .str readings.measuredAt.wholeSecond.isoText),
    ("adapter", .str adapter), ("operation", .str operation), ("latency_ms", .null),
    ("status", .str status), ("error_bucket", .str errorBucket)]
  let severity := if errorBucket ∈ ["auth", "rate_limit"] then "critical" else "warning"
  let detail := adapter ++ ":" ++ operation ++ " error " ++ errorBucket
  let alerted := monitor.emitAlert measured readings severity ("broker.error." ++ errorBucket)
    detail adapter operation
  let throttled := if errorBucket = "rate_limit" then monitor.shrinkCapacity alerted else alerted
  let raised := raiseCondition throttled readings "degraded" ("broker_" ++ errorBucket) detail
  if errorBucket ∈ ["auth", "network"] then
    monitor.planFailover raised readings ("broker_" ++ errorBucket)
  else raised

def recordQueueWait (adapter operation : String) (waitSec : Rat) (printed : String)
    (queueDepth : Int) : MonitorState :=
  let measured := appendMetrics state [("ts", .str readings.measuredAt.wholeSecond.isoText),
    ("adapter", .str adapter), ("operation", .str operation), ("status", .str "queued"),
    ("queue_wait_ms", .float (roundTo (waitSec * 1000) 2) printed),
    ("queue_depth", .int queueDepth)]
  let detail := adapter ++ ":" ++ operation ++ " queue_wait " ++ formatFixed 1 waitSec ++ "s"
  if monitor.slo.queueWarnSec ≤ waitSec then
    let alerted := monitor.emitAlert measured readings "warning" "broker.queue.backlog" detail
      adapter operation
    raiseCondition alerted readings "warning" "broker_queue" detail
  else measured

def isRateLimitHit (line : Mapping) : Bool :=
  (field line "event").isText "broker_rate_limit" &&
    !((line.get? "allowed").getD (.bool true)).truth

def isError (line : Mapping) : Bool :=
  (field line "status").isText "error" || (field line "error_bucket").truth

def isRequest (line : Mapping) : Bool :=
  (field line "adapter").truth && (field line "operation").truth

def countLines (summary : MetricsSummary) : List Value → Except PyError MetricsSummary
  | [] => .ok { summary with status := if summary.errors = 0 then "ok" else "warn" }
  | .map line :: rest =>
    countLines { summary with
      rateLimitHits := summary.rateLimitHits + if isRateLimitHit line then 1 else 0
      errors := summary.errors + if isError line then 1 else 0
      requests := summary.requests + if isRequest line then 1 else 0 } rest
  | _ => .error .attributeError

def summarizeMetrics : Option (List Char) → Except PyError MetricsSummary
  | none => .ok { status := "missing" }
  | some content => countLines { status := "" } (readLines id content)

def summarizeAlerts : Except PyError Nat :=
  match monitor.alertSink with
  | none => .ok 0
  | some _ => (BrokerAlertSink.listAlerts state.alerts none).map List.length

def reportText (window generatedAt : String) (metrics : MetricsSummary) (alerts : Nat) : String :=
  "\n".intercalate
    ["# Broker Monitor Report (" ++ window ++ ")", "", "- Generated At: " ++ generatedAt,
      "- Status: " ++ metrics.status, "- Requests: " ++ toString metrics.requests,
      "- Errors: " ++ toString metrics.errors,
      "- Rate Limit Hits: " ++ toString metrics.rateLimitHits, "- Alerts: " ++ toString alerts, "",
      "## Notes", "- Metrics captured in metrics/broker_api.jsonl",
      "- Alerts captured in logs/events/broker_alerts.jsonl", ""] ++ "\n"

/-- The text of the report. -/
def report (window : String) (now : UtcTime) : Except PyError String := do
  let metrics ← summarizeMetrics state.metrics
  let alerts ← monitor.summarizeAlerts state
  return reportText window now.wholeSecond.isoText metrics alerts

end BrokerApiMonitor

/-! ## Calls -/

inductive Action where
  | record (adapter operation : String) (latencyMs : Rat) (printed status : String)
  | recordError (adapter operation errorBucket status : String)
  | recordQueueWait (adapter operation : String) (waitSec : Rat) (printed : String)
      (queueDepth : Int)

structure Call where
  action : Action
  readings : Readings

def step (monitor : BrokerApiMonitor) (state : MonitorState) (call : Call) : MonitorState :=
  match call.action with
  | .record adapter operation latencyMs printed status =>
    monitor.record state call.readings adapter operation latencyMs printed status
  | .recordError adapter operation errorBucket status =>
    monitor.recordError state call.readings adapter operation errorBucket status
  | .recordQueueWait adapter operation waitSec printed queueDepth =>
    monitor.recordQueueWait state call.readings adapter operation waitSec printed queueDepth

/-- What a call adds to the metrics. -/
def Call.line (call : Call) : Mapping :=
  ("ts", .str call.readings.measuredAt.wholeSecond.isoText) ::
    match call.action with
    | .record adapter operation latencyMs printed status =>
      [("adapter", .str adapter), ("operation", .str operation),
        ("latency_ms", .float (roundTo latencyMs 2) printed), ("status", .str status),
        ("error_bucket", .null)]
    | .recordError adapter operation errorBucket status =>
      [("adapter", .str adapter), ("operation", .str operation), ("latency_ms", .null),
        ("status", .str status), ("error_bucket", .str errorBucket)]
    | .recordQueueWait adapter operation waitSec printed queueDepth =>
      [("adapter", .str adapter), ("operation", .str operation), ("status", .str "queued"),
        ("queue_wait_ms", .float (roundTo (waitSec * 1000) 2) printed),
        ("queue_depth", .int queueDepth)]

/-- What is raised where something is too slow or fails. -/
structure Incident where
  adapter : String
  operation : String
  severity : String
  code : String
  level : String
  reason : String
  detail : String
  throttles : Bool := false
  failsOver : Bool := false

def Action.incident (slo : BrokerSloConfig) : Action → Option Incident
  | .record adapter operation latencyMs _ _ =>
    let detail := BrokerApiMonitor.latencyDetail adapter operation latencyMs
    if slo.latencyCriticalMs ≤ latencyMs then some {
      adapter, operation, detail, severity := "critical", code := "broker.latency.critical"
      level := "critical", reason := "broker_latency", failsOver := true }
    else if slo.latencyWarnMs ≤ latencyMs then some {
      adapter, operation, detail, severity := "warning", code := "broker.latency.warn"
      level := "warning", reason := "broker_latency" }
    else none
  | .recordError adapter operation errorBucket _ => some {
      adapter, operation, detail := adapter ++ ":" ++ operation ++ " error " ++ errorBucket
      severity := if errorBucket ∈ ["auth", "rate_limit"] then "critical" else "warning"
      code := "broker.error." ++ errorBucket, level := "degraded"
      reason := "broker_" ++ errorBucket, throttles := errorBucket == "rate_limit"
      failsOver := ["auth", "network"].contains errorBucket }
  | .recordQueueWait adapter operation waitSec _ _ =>
    if slo.queueWarnSec ≤ waitSec then some {
      adapter, operation
      detail := adapter ++ ":" ++ operation ++ " queue_wait " ++ formatFixed 1 waitSec ++ "s"
      severity := "warning", code := "broker.queue.backlog", level := "warning"
      reason := "broker_queue" }
    else none

def Incident.alert (incident : Incident) (readings : Readings) : BrokerAlert where
  alertId := "broker-" ++ readings.alertHex
  severity := incident.severity
  code := incident.code
  message := incident.detail
  adapter := incident.adapter
  operation := incident.operation
  createdAt := readings.alertedAt.wholeSecond.isoText
  runbookRef := some "RUN-BROKER-API-02"

/-- The alert of a call, where there is a sink for it. -/
def alertOf (monitor : BrokerApiMonitor) (call : Call) : Option BrokerAlert :=
  if monitor.alertSink.isSome then
    (call.action.incident monitor.slo).map (·.alert call.readings)
  else none

/-- What is done about an incident. -/
def settle (monitor : BrokerApiMonitor) (state : MonitorState) (readings : Readings)
    (incident : Incident) : MonitorState :=
  let alerted := monitor.emitAlert state readings incident.severity incident.code incident.detail
    incident.adapter incident.operation
  let throttled := if incident.throttles then monitor.shrinkCapacity alerted else alerted
  let raised := BrokerApiMonitor.raiseCondition throttled readings incident.level incident.reason
    incident.detail
  if incident.failsOver then monitor.planFailover raised readings incident.reason else raised

section Steps

variable (monitor : BrokerApiMonitor) (state : MonitorState) (call : Call)

/-- A call is measured, and what it raises is settled. -/
theorem step_eq : step monitor state call =
    (call.action.incident monitor.slo).elim (BrokerApiMonitor.appendMetrics state call.line)
      (settle monitor (BrokerApiMonitor.appendMetrics state call.line) call.readings) := by
  obtain ⟨action, readings⟩ := call
  cases action with
  | record adapter operation latencyMs printed status =>
    simp only [step, BrokerApiMonitor.record, Action.incident]
    split
    · rfl
    · split
      · rfl
      · rfl
  | recordError adapter operation errorBucket status =>
    simp only [step, BrokerApiMonitor.recordError, Action.incident, Option.elim, settle,
      Call.line, beq_iff_eq, List.contains_iff_mem]
  | recordQueueWait adapter operation waitSec printed queueDepth =>
    simp only [step, BrokerApiMonitor.recordQueueWait, Action.incident]
    split
    · rfl
    · rfl

theorem settle_metrics (readings : Readings) (incident : Incident) :
    (settle monitor state readings incident).metrics = state.metrics := by
  unfold settle BrokerApiMonitor.planFailover BrokerApiMonitor.emitAlert
  cases monitor.alertSink <;> cases monitor.failoverRunbook <;> cases incident.throttles <;>
    cases incident.failsOver <;> rfl

theorem settle_alerts (readings : Readings) (incident : Incident) :
    (settle monitor state readings incident).alerts = if monitor.alertSink.isSome then
      appendLine state.alerts (incident.alert readings).toDict else state.alerts := by
  unfold settle BrokerApiMonitor.planFailover BrokerApiMonitor.emitAlert
  cases monitor.alertSink <;> cases monitor.failoverRunbook <;> cases incident.throttles <;>
    cases incident.failsOver <;> rfl

theorem settle_health (readings : Readings) (incident : Incident) :
    (settle monitor state readings incident).health = state.health.raiseCondition
      readings.raisedAt readings.logged incident.level incident.reason (some incident.detail)
      (some "runbook:RUN-BROKER-API-02") := by
  unfold settle BrokerApiMonitor.planFailover BrokerApiMonitor.emitAlert
  cases monitor.alertSink <;> cases monitor.failoverRunbook <;> cases incident.throttles <;>
    cases incident.failsOver <;> rfl

theorem settle_state (readings : Readings) (incident : Incident) :
    ∃ plan, (settle monitor state readings incident).failover.state =
      if monitor.failoverRunbook.isSome && incident.failsOver then
        ApiFailoverPlanner.writeState plan
      else state.failover.state := by
  unfold settle BrokerApiMonitor.planFailover BrokerApiMonitor.emitAlert
  cases monitor.failoverRunbook with
  | none =>
    refine ⟨ApiFailoverPlanner.newPlan "" "" "" "", ?_⟩
    cases monitor.alertSink <;> cases incident.throttles <;> cases incident.failsOver <;> rfl
  | some runbookRef =>
    refine ⟨ApiFailoverPlanner.newPlan runbookRef incident.reason
      (toString (BrokerApiMonitor.unixTime readings.plannedAt))
      readings.plannedAt.wholeSecond.isoText, ?_⟩
    cases monitor.alertSink <;> cases incident.throttles <;> cases incident.failsOver <;> rfl

end Steps

/-! ## Plain calls -/

/-- The texts that a call is given. -/
def Call.texts (call : Call) : List String :=
  call.readings.alertHex ::
    match call.action with
    | .record adapter operation _ _ status => [adapter, operation, status]
    | .recordError adapter operation errorBucket status => [adapter, operation, errorBucket, status]
    | .recordQueueWait adapter operation _ _ _ => [adapter, operation]

/-- The number that a call writes, and how it is written. -/
def Call.printed (call : Call) : Option (Rat × String) :=
  match call.action with
  | .record _ _ latencyMs printed _ => some (roundTo latencyMs 2, printed)
  | .recordError _ _ _ _ => none
  | .recordQueueWait _ _ waitSec printed _ => some (roundTo (waitSec * 1000) 2, printed)

/-- The texts have no line breaks that are not escaped, and the number is written as it reads. -/
structure Call.Fit (call : Call) : Prop where
  texts : ∀ text ∈ call.texts, PlainText text.toList
  printed : ∀ number ∈ call.printed, Json.IsFloat number.1 number.2

section Plain

variable {call : Call} {monitor : BrokerApiMonitor}

theorem plainText_number (number : Nat) : PlainText (toString number).toList := by
  refine plainText_of_low fun char member => ?_
  have digit := Nat.isDigit_of_mem_toDigits (by decide) (by decide)
    ((Nat.toList_repr (n := number)) ▸ member)
  exact lt_of_le_of_lt (Char.isDigit_iff_toNat.mp digit).2 (by decide)

theorem plainText_formatFixed (digits : Nat) (value : Rat) :
    PlainText (formatFixed digits value).toList := by
  have sign : PlainText (if value < 0 then "-" else "").toList := by
    split
    · exact plainText_of_all (by decide)
    · exact plainText_of_all (by decide)
  unfold formatFixed
  simp only
  split
  · rw [String.toList_append]
    exact sign.append (plainText_number _)
  · simp only [String.toList_append, String.toList_ofList]
    refine (((sign.append (plainText_number _)).append (plainText_of_all (by decide))).append
      ?_).append (plainText_number _)
    intro char member
    rw [List.eq_of_mem_replicate member]
    decide

theorem line_fit (fit : call.Fit) :
    Json.WellFormed (.map call.line) ∧ PlainText (Json.chars (.map call.line)) := by
  obtain ⟨action, readings⟩ := call
  have stamp := plainText_isoText readings.measuredAt.wholeSecond
  have bare : PlainText [] := plainText_of_all rfl
  have ending : ∀ entry ∈ ([] : Mapping), PlainText (Json.chars entry.2) :=
    fun _ member => absurd member List.not_mem_nil
  cases action with
  | record adapter operation latencyMs printed status =>
    have isFloat : Json.IsFloat (roundTo latencyMs 2) printed := fit.printed _ rfl
    have texts := fit.texts
    simp only [Call.texts, List.forall_mem_cons] at texts
    obtain ⟨-, byAdapter, byOperation, byStatus, -⟩ := texts
    refine ⟨⟨by simp [Call.line], trivial, trivial, trivial, isFloat, trivial, trivial, trivial⟩,
      plainText_payload (rfl : _ = ["ts", "adapter", "operation", "latency_ms", "status",
        "error_bucket"])
        (by decide) ?_⟩
    simp only [Call.line, List.forall_mem_cons]
    exact ⟨stamp, byAdapter, byOperation, bare, byStatus, bare, ending⟩
  | recordError adapter operation errorBucket status =>
    have texts := fit.texts
    simp only [Call.texts, List.forall_mem_cons] at texts
    obtain ⟨-, byAdapter, byOperation, byBucket, byStatus, -⟩ := texts
    refine ⟨⟨by simp [Call.line], trivial, trivial, trivial, trivial, trivial, trivial, trivial⟩,
      plainText_payload (rfl : _ = ["ts", "adapter", "operation", "latency_ms", "status",
        "error_bucket"])
        (by decide) ?_⟩
    simp only [Call.line, List.forall_mem_cons]
    exact ⟨stamp, byAdapter, byOperation, bare, byStatus, byBucket, ending⟩
  | recordQueueWait adapter operation waitSec printed queueDepth =>
    have isFloat : Json.IsFloat (roundTo (waitSec * 1000) 2) printed := fit.printed _ rfl
    have texts := fit.texts
    simp only [Call.texts, List.forall_mem_cons] at texts
    obtain ⟨-, byAdapter, byOperation, -⟩ := texts
    refine ⟨⟨by simp [Call.line], trivial, trivial, trivial, trivial, isFloat, trivial, trivial⟩,
      plainText_payload (rfl : _ = ["ts", "adapter", "operation", "status", "queue_wait_ms",
        "queue_depth"])
        (by decide) ?_⟩
    simp only [Call.line, List.forall_mem_cons]
    exact ⟨stamp, byAdapter, byOperation, plainText_of_all (by decide), bare, bare, ending⟩

/-- What an incident says is made of the texts of the call. -/
theorem incident_plain (fit : call.Fit) {incident : Incident}
    (raised : call.action.incident monitor.slo = some incident) :
    PlainText incident.adapter.toList ∧ PlainText incident.operation.toList ∧
      PlainText incident.severity.toList ∧ PlainText incident.code.toList ∧
        PlainText incident.detail.toList := by
  obtain ⟨action, readings⟩ := call
  have texts := fit.texts
  have known : ∀ text : String, text.toList.all (fun char => char.toNat < 128) = true →
      PlainText text.toList := fun _ low => plainText_of_all low
  cases action with
  | record adapter operation latencyMs printed status =>
    simp only [Call.texts, List.forall_mem_cons] at texts
    obtain ⟨-, byAdapter, byOperation, -⟩ := texts
    have detail : PlainText
        (BrokerApiMonitor.latencyDetail adapter operation latencyMs).toList := by
      simp only [BrokerApiMonitor.latencyDetail, String.toList_append]
      exact ((((byAdapter.append (known _ (by decide))).append byOperation).append
        (known _ (by decide))).append (plainText_formatFixed 1 latencyMs)).append
        (known _ (by decide))
    simp only [Action.incident] at raised
    split at raised
    · obtain rfl := Option.some.inj raised
      exact ⟨byAdapter, byOperation, known "critical" (by decide),
        known "broker.latency.critical" (by decide), detail⟩
    · split at raised
      · obtain rfl := Option.some.inj raised
        exact ⟨byAdapter, byOperation, known "warning" (by decide),
          known "broker.latency.warn" (by decide), detail⟩
      · cases raised
  | recordError adapter operation errorBucket status =>
    simp only [Call.texts, List.forall_mem_cons] at texts
    obtain ⟨-, byAdapter, byOperation, byBucket, -⟩ := texts
    obtain rfl := Option.some.inj raised
    refine ⟨byAdapter, byOperation, ?_, ?_, ?_⟩
    · simp only
      split
      · exact known _ (by decide)
      · exact known _ (by decide)
    · simp only [String.toList_append]
      exact (known _ (by decide)).append byBucket
    · simp only [String.toList_append]
      exact (((byAdapter.append (known _ (by decide))).append byOperation).append
        (known _ (by decide))).append byBucket
  | recordQueueWait adapter operation waitSec printed queueDepth =>
    simp only [Call.texts, List.forall_mem_cons] at texts
    obtain ⟨-, byAdapter, byOperation, -⟩ := texts
    simp only [Action.incident] at raised
    split at raised
    · obtain rfl := Option.some.inj raised
      refine ⟨byAdapter, byOperation, known "warning" (by decide),
        known "broker.queue.backlog" (by decide), ?_⟩
      simp only [String.toList_append]
      exact ((((byAdapter.append (known _ (by decide))).append byOperation).append
        (known _ (by decide))).append (plainText_formatFixed 1 waitSec)).append
        (known _ (by decide))
    · cases raised

theorem alert_fit (fit : call.Fit) {alert : BrokerAlert}
    (emitted : alertOf monitor call = some alert) :
    Json.WellFormed (.map alert.toDict) ∧ PlainText (Json.chars (.map alert.toDict)) := by
  unfold alertOf at emitted
  split at emitted
  · obtain ⟨incident, raised, rfl⟩ := Option.map_eq_some_iff.mp emitted
    obtain ⟨byAdapter, byOperation, bySeverity, byCode, byDetail⟩ := incident_plain fit raised
    have byHex := fit.texts _ List.mem_cons_self
    have known : ∀ text : String, text.toList.all (fun char => char.toNat < 128) = true →
        PlainText text.toList := fun _ low => plainText_of_all low
    have id : PlainText ("broker-" ++ call.readings.alertHex).toList := by
      rw [String.toList_append]
      exact (known _ (by decide)).append byHex
    refine ⟨⟨by simp [BrokerAlert.toDict], trivial, trivial, trivial, trivial, trivial, trivial,
      trivial, trivial, ⟨List.nodup_nil, trivial⟩, trivial⟩,
      plainText_payload (rfl : _ = ["alert_id", "severity", "code", "message", "adapter",
        "operation", "created_at", "runbook_ref", "metadata"]) (by decide) ?_⟩
    simp only [BrokerAlert.toDict, List.forall_mem_cons]
    exact ⟨id, bySeverity, byCode, byDetail, byAdapter, byOperation, plainText_isoText _,
      known _ (by decide), plainText_of_all rfl, fun _ member => absurd member List.not_mem_nil⟩
  · cases emitted

end Plain

/-! ## The logs of a run -/

section Logs

variable (monitor : BrokerApiMonitor) (state : MonitorState)

theorem step_metrics (call : Call) : (step monitor state call).metrics =
    some (appendLine (state.metrics.getD []) call.line) := by
  rw [step_eq]
  cases call.action.incident monitor.slo with
  | none => rfl
  | some incident =>
    rw [Option.elim, settle_metrics]
    rfl

theorem step_alerts (call : Call) : (step monitor state call).alerts =
    (alertOf monitor call).elim state.alerts fun alert =>
      appendLine state.alerts alert.toDict := by
  rw [step_eq, alertOf]
  cases call.action.incident monitor.slo with
  | none => simp [BrokerApiMonitor.appendMetrics]
  | some incident =>
    rw [Option.elim, settle_alerts]
    split
    · rfl
    · rfl

theorem metrics_run (calls : List Call) : (runFrom (step monitor) state calls).metrics =
    if calls = [] then state.metrics
    else some ((calls.map Call.line).foldl appendLine (state.metrics.getD [])) := by
  induction calls generalizing state with
  | nil => rfl
  | cons call rest ih =>
    have here := step_metrics monitor state call
    rw [runFrom, List.foldl_cons, ← runFrom, ih, here, if_neg (List.cons_ne_nil _ _)]
    cases rest with
    | nil => rfl
    | cons next rest => rfl

theorem alerts_run (calls : List Call) : (runFrom (step monitor) state calls).alerts =
    ((calls.filterMap (alertOf monitor)).map BrokerAlert.toDict).foldl appendLine
      state.alerts := by
  induction calls generalizing state with
  | nil => rfl
  | cons call rest ih =>
    rw [runFrom, List.foldl_cons, ← runFrom, ih, step_alerts, List.filterMap_cons]
    cases alertOf monitor call with
    | none => rfl
    | some alert => rfl

end Logs

section Report

variable {monitor : BrokerApiMonitor} {start : MonitorState} {calls : List Call}

theorem countLines_maps (summary : MetricsSummary) (lines : List Mapping) :
    BrokerApiMonitor.countLines summary (lines.map .map) = .ok {
      status := if summary.errors + lines.countP BrokerApiMonitor.isError = 0 then "ok" else "warn"
      requests := summary.requests + lines.countP BrokerApiMonitor.isRequest
      errors := summary.errors + lines.countP BrokerApiMonitor.isError
      rateLimitHits := summary.rateLimitHits +
        lines.countP BrokerApiMonitor.isRateLimitHit } := by
  induction lines generalizing summary with
  | nil => rfl
  | cons line rest ih =>
    rw [List.map_cons, BrokerApiMonitor.countLines, ih]
    simp only [List.countP_cons, Nat.add_comm, Nat.add_left_comm]

/-- Whether a call is counted as an error. -/
def Action.failed : Action → Bool
  | .record _ _ _ _ status => status == "error"
  | .recordError _ _ errorBucket status => status == "error" || errorBucket != ""
  | .recordQueueWait _ _ _ _ _ => false

/-- Whether a call names its adapter and its operation. -/
def Action.named : Action → Bool
  | .record adapter operation _ _ _ => adapter != "" && operation != ""
  | .recordError adapter operation _ _ => adapter != "" && operation != ""
  | .recordQueueWait adapter operation _ _ _ => adapter != "" && operation != ""

theorem isError_line (call : Call) :
    BrokerApiMonitor.isError call.line = call.action.failed := by
  obtain ⟨action, readings⟩ := call
  cases action with
  | record adapter operation latencyMs printed status => exact Bool.or_false _
  | recordError adapter operation errorBucket status => rfl
  | recordQueueWait adapter operation waitSec printed queueDepth => rfl

theorem isRequest_line (call : Call) :
    BrokerApiMonitor.isRequest call.line = call.action.named := by
  obtain ⟨action, readings⟩ := call
  cases action with
  | record adapter operation latencyMs printed status => rfl
  | recordError adapter operation errorBucket status => rfl
  | recordQueueWait adapter operation waitSec printed queueDepth => rfl

theorem isRateLimitHit_line (call : Call) :
    BrokerApiMonitor.isRateLimitHit call.line = false := by
  obtain ⟨action, readings⟩ := call
  cases action with
  | record adapter operation latencyMs printed status => rfl
  | recordError adapter operation errorBucket status => rfl
  | recordQueueWait adapter operation waitSec printed queueDepth => rfl

/-- What is counted of the calls. -/
def summaryOf (calls : List Call) : MetricsSummary where
  status := if calls = [] then "missing"
    else if calls.countP (·.action.failed) = 0 then "ok" else "warn"
  requests := calls.countP (·.action.named)
  errors := calls.countP (·.action.failed)

theorem summarizeMetrics_run (fit : ∀ call ∈ calls, call.Fit) (unmeasured : start.metrics = none) :
    BrokerApiMonitor.summarizeMetrics (runFrom (step monitor) start calls).metrics =
      .ok (summaryOf calls) := by
  rw [metrics_run, unmeasured]
  split
  · rename_i none_
    rw [none_]
    rfl
  · rename_i some_
    have fits : ∀ line ∈ calls.map Call.line,
        Json.WellFormed (.map line) ∧ PlainText (Json.chars (.map line)) := by
      intro line member
      obtain ⟨call, among, rfl⟩ := List.mem_map.mp member
      exact line_fit (fit call among)
    have hits : calls.countP (fun call => BrokerApiMonitor.isRateLimitHit call.line) = 0 :=
      List.countP_eq_zero.mpr fun call _ hit => by
        rw [isRateLimitHit_line] at hit
        cases hit
    rw [BrokerApiMonitor.summarizeMetrics, Option.getD_none, readLines_payloads trims_id fits,
      countLines_maps, summaryOf, if_neg some_]
    simp only [List.countP_map, Function.comp_def, isError_line, isRequest_line, hits,
      Nat.zero_add]

theorem alerts_fit (fit : ∀ call ∈ calls, call.Fit) :
    ∀ payload ∈ (calls.filterMap (alertOf monitor)).map BrokerAlert.toDict,
      Json.WellFormed (.map payload) ∧ PlainText (Json.chars (.map payload)) := by
  intro payload member
  obtain ⟨alert, emitted, rfl⟩ := List.mem_map.mp member
  obtain ⟨call, among, raised⟩ := List.mem_filterMap.mp emitted
  exact alert_fit (fit call among) raised

theorem tryMap_listed_none (alerts : List Value) :
    tryMap (BrokerAlertSink.listed none) alerts = .ok (alerts.map some) := by
  have kept : ∀ alert, BrokerAlertSink.listed none alert = .ok (some alert) := fun _ => rfl
  have all := tryMap_map kept alerts
  rwa [List.map_id'] at all

theorem listAlerts_all (fit : ∀ call ∈ calls, call.Fit) (unalerted : start.alerts = []) :
    BrokerAlertSink.listAlerts (runFrom (step monitor) start calls).alerts none =
      .ok ((calls.filterMap (alertOf monitor)).map fun alert => .map alert.toDict) := by
  rw [BrokerAlertSink.listAlerts, alerts_run, unalerted,
    readLines_payloads trims_id (alerts_fit fit), tryMap_listed_none]
  show Except.ok _ = Except.ok _
  rw [List.filterMap_map, List.map_map]
  simp

/-- The report counts the calls, and the alerts of those that were too slow or failed; a rate
limit that was hit is never among the metrics of the monitor. -/
theorem report_run (fit : ∀ call ∈ calls, call.Fit) (unmeasured : start.metrics = none)
    (unalerted : start.alerts = []) (window : String) (now : UtcTime) :
    monitor.report (runFrom (step monitor) start calls) window now =
      .ok (BrokerApiMonitor.reportText window now.wholeSecond.isoText (summaryOf calls)
        (calls.filterMap (alertOf monitor)).length) := by
  have alerts : monitor.summarizeAlerts (runFrom (step monitor) start calls) =
      .ok (calls.filterMap (alertOf monitor)).length := by
    cases sink : monitor.alertSink with
    | none =>
      have silent : calls.filterMap (alertOf monitor) = [] :=
        List.filterMap_eq_nil_iff.mpr fun call _ => by rw [alertOf, sink]; rfl
      rw [BrokerApiMonitor.summarizeAlerts, sink, silent]
      rfl
    | some parts =>
      rw [BrokerApiMonitor.summarizeAlerts, sink, listAlerts_all fit unalerted]
      show Except.ok _ = Except.ok _
      rw [List.length_map]
  rw [BrokerApiMonitor.report, summarizeMetrics_run fit unmeasured, alerts]
  rfl

end Report

/-! ## Alerts since a time -/

section Since

variable {monitor : BrokerApiMonitor} {start : MonitorState} {calls : List Call}

theorem createdAt_alertOf {call : Call} {alert : BrokerAlert}
    (emitted : alertOf monitor call = some alert) :
    alert.createdAt = call.readings.alertedAt.wholeSecond.isoText := by
  unfold alertOf at emitted
  split at emitted
  · obtain ⟨incident, -, rfl⟩ := Option.map_eq_some_iff.mp emitted
    rfl
  · cases emitted

theorem truthy_isoText (time : UtcTime) : truthy (some time.wholeSecond.isoText) = true := by
  simp [truthy, time.wholeSecond.isoText_ne_empty]

theorem listed_alert {call : Call} {alert : BrokerAlert}
    (emitted : alertOf monitor call = some alert) (since : UtcTime) :
    BrokerAlertSink.listed (some since.wholeSecond.isoText) (.map alert.toDict) =
      .ok (if since.seconds ≤ call.readings.alertedAt.seconds then some (.map alert.toDict)
        else none) := by
  have filled := truthy_isoText call.readings.alertedAt
  have created : (orValue (field alert.toDict "created_at") (.str "")).text =
      call.readings.alertedAt.wholeSecond.isoText := by
    have found : field alert.toDict "created_at" = .str alert.createdAt := rfl
    rw [found, createdAt_alertOf emitted, orValue,
      if_pos (by simpa [truthy, Value.truth] using filled)]
    rfl
  simp only [BrokerAlertSink.listed, truthy_isoText, if_true, created, Option.getD_some,
    UtcTime.isoText_lt_iff]
  by_cases early : call.readings.alertedAt.seconds < since.seconds
  · rw [if_pos early, if_neg (not_le.mpr early)]
  · rw [if_neg early, if_pos (not_lt.mp early)]

/-- The alerts that are listed since a time are those of the calls from its second on. -/
theorem listAlerts_since (fit : ∀ call ∈ calls, call.Fit) (unalerted : start.alerts = [])
    (since : UtcTime) :
    BrokerAlertSink.listAlerts (runFrom (step monitor) start calls).alerts
        (some since.wholeSecond.isoText) =
      .ok (((calls.filter fun call => since.seconds ≤ call.readings.alertedAt.seconds).filterMap
        (alertOf monitor)).map fun alert => .map alert.toDict) := by
  have kept : tryMap (BrokerAlertSink.listed (some since.wholeSecond.isoText))
      (((calls.filterMap (alertOf monitor)).map BrokerAlert.toDict).map .map) =
      .ok (calls.filterMap fun call => (alertOf monitor call).map fun alert =>
        if since.seconds ≤ call.readings.alertedAt.seconds then some (.map alert.toDict)
        else none) := by
    clear fit unalerted
    induction calls with
    | nil => rfl
    | cons call rest ih =>
      rw [List.filterMap_cons, List.filterMap_cons]
      cases emitted : alertOf monitor call with
      | none => exact ih
      | some alert =>
        rw [List.map_cons, List.map_cons, tryMap, listed_alert emitted, ih]
        rfl
  rw [BrokerAlertSink.listAlerts, alerts_run, unalerted,
    readLines_payloads trims_id (alerts_fit fit), kept]
  show Except.ok _ = Except.ok _
  rw [List.filterMap_filterMap, List.map_filterMap, List.filterMap_filter]
  refine congrArg _ (congrArg (fun keep => calls.filterMap keep) (funext fun call => ?_))
  simp only [decide_eq_true_eq]
  cases alertOf monitor call with
  | none => simp
  | some alert =>
    by_cases late : since.seconds ≤ call.readings.alertedAt.seconds
    · simp [late]
    · simp [late]

end Since

/-! ## Recoveries -/

section Recoveries

variable {monitor : BrokerApiMonitor} {start : MonitorState} {calls : List Call}

def isRecovery : Value → Bool
  | .map entry => (field entry "task").isText "broker_api_recovery"
  | _ => false

def recoveries (state : MonitorState) : List Value := state.failover.opsWorklog.filter isRecovery

theorem settle_recoveries (monitor : BrokerApiMonitor) (state : MonitorState) (readings : Readings)
    (incident : Incident) :
    recoveries (settle monitor state readings incident) = recoveries state ++
      if monitor.alertSink.isSome ∧ incident.severity = "critical" then
        [BrokerAlertSink.pendingRecovery (incident.alert readings)] else [] := by
  have planned : ∀ state reason, recoveries (monitor.planFailover state readings reason) =
      recoveries state := by
    intro state reason
    unfold BrokerApiMonitor.planFailover
    cases monitor.failoverRunbook with
    | none => rfl
    | some runbookRef =>
      show List.filter _ (_ ++ [_]) = _
      rw [List.filter_append]
      exact List.append_nil _
  have alerted : recoveries (monitor.emitAlert state readings incident.severity incident.code
      incident.detail incident.adapter incident.operation) = recoveries state ++
        if monitor.alertSink.isSome ∧ incident.severity = "critical" then
          [BrokerAlertSink.pendingRecovery (incident.alert readings)] else [] := by
    unfold BrokerApiMonitor.emitAlert
    cases monitor.alertSink with
    | none => simp
    | some sink =>
      show List.filter _ (_ ++ _) = _
      rw [List.filter_append]
      by_cases critical : incident.severity = "critical"
      · simp only [critical, if_true, and_true, Option.isSome_some]
        rfl
      · simp only [critical, if_false, and_false]
        rfl
  rw [← alerted]
  unfold settle
  cases incident.throttles <;> cases incident.failsOver <;>
    first | exact planned _ _ | rfl

/-- Every critical alert of the run has its pending recovery on the worklog, and there are no
others. -/
theorem recoveries_run (monitor : BrokerApiMonitor) (start : MonitorState) (calls : List Call) :
    recoveries (runFrom (step monitor) start calls) = recoveries start ++
      ((calls.filterMap (alertOf monitor)).filter (·.severity = "critical")).map
        BrokerAlertSink.pendingRecovery := by
  induction calls generalizing start with
  | nil => simp [runFrom]
  | cons call rest ih =>
    rw [runFrom, List.foldl_cons, ← runFrom, ih, step_eq, List.filterMap_cons, alertOf]
    cases call.action.incident monitor.slo with
    | none => simp [recoveries, BrokerApiMonitor.appendMetrics]
    | some incident =>
      rw [Option.elim, settle_recoveries]
      by_cases sink : monitor.alertSink.isSome = true
      · by_cases critical : incident.severity = "critical"
        · simp [sink, critical, Incident.alert, recoveries, BrokerApiMonitor.appendMetrics]
        · simp [sink, critical, Incident.alert, recoveries, BrokerApiMonitor.appendMetrics]
      · simp [sink, recoveries, BrokerApiMonitor.appendMetrics]

end Recoveries

/-! ## Failover and health -/

/-- The latency is critical. -/
def Action.critical (slo : BrokerSloConfig) : Action → Bool
  | .record _ _ latencyMs _ _ => decide (slo.latencyCriticalMs ≤ latencyMs)
  | _ => false

def Action.errs : Action → Bool
  | .recordError _ _ _ _ => true
  | _ => false

/-- The latency is worth a warning, or the wait is. -/
def Action.slow (slo : BrokerSloConfig) : Action → Bool
  | .record _ _ latencyMs _ _ => decide (slo.latencyWarnMs ≤ latencyMs)
  | .recordError _ _ _ _ => false
  | .recordQueueWait _ _ waitSec _ _ => decide (slo.queueWarnSec ≤ waitSec)

/-- The latency is critical, or an error of the access or of the network is recorded. -/
def Action.failsOver (slo : BrokerSloConfig) : Action → Bool
  | .record _ _ latencyMs _ _ => decide (slo.latencyCriticalMs ≤ latencyMs)
  | .recordError _ _ errorBucket _ => ["auth", "network"].contains errorBucket
  | .recordQueueWait _ _ _ _ _ => false

section Failover

variable (monitor : BrokerApiMonitor)

theorem failsOver_incident (slo : BrokerSloConfig) (action : Action) :
    (action.incident slo).any (·.failsOver) = action.failsOver slo := by
  cases action with
  | record adapter operation latencyMs printed status =>
    simp only [Action.incident, Action.failsOver]
    split
    · rename_i critical
      simp [critical]
    · rename_i fast
      split
      · simp [fast]
      · simp [fast]
  | recordError adapter operation errorBucket status => rfl
  | recordQueueWait adapter operation waitSec printed queueDepth =>
    simp only [Action.incident, Action.failsOver]
    split
    · rfl
    · rfl

theorem step_state (state : MonitorState) (call : Call) :
    ∃ plan, (step monitor state call).failover.state =
      if monitor.failoverRunbook.isSome && call.action.failsOver monitor.slo then
        ApiFailoverPlanner.writeState plan
      else state.failover.state := by
  rw [step_eq, ← failsOver_incident]
  cases call.action.incident monitor.slo with
  | none =>
    refine ⟨ApiFailoverPlanner.newPlan "" "" "" "", ?_⟩
    rw [Option.any_none, Bool.and_false]
    rfl
  | some incident => exact settle_state monitor _ call.readings incident

theorem state_run {told : JsonFile → Prop}
    (planned : ∀ plan, told (ApiFailoverPlanner.writeState plan)) (start : MonitorState)
    (calls : List Call) :
    told (runFrom (step monitor) start calls).failover.state ↔ told start.failover.state ∨
      monitor.failoverRunbook.isSome = true ∧
        ∃ call ∈ calls, call.action.failsOver monitor.slo = true := by
  induction calls generalizing start with
  | nil => simp [runFrom]
  | cons call rest ih =>
    obtain ⟨plan, written⟩ := step_state monitor start call
    rw [runFrom, List.foldl_cons, ← runFrom, ih, written]
    by_cases planner : monitor.failoverRunbook.isSome = true
    · by_cases starts : call.action.failsOver monitor.slo = true
      · simp [planner, starts, planned]
      · simp [planner, starts]
    · simp [planner]

/-- With a planner, a critical latency and an error of the access or of the network stop the
router, and nothing else that is recorded does; the stage guard then takes the failover for
active. -/
theorem failover_run (start : MonitorState) (calls : List Call) :
    (RouterRejects (runFrom (step monitor) start calls).failover.state ↔
      RouterRejects start.failover.state ∨ monitor.failoverRunbook.isSome = true ∧
        ∃ call ∈ calls, call.action.failsOver monitor.slo = true) ∧
    (loadFailoverActive (runFrom (step monitor) start calls).failover.state = .ok true ↔
      loadFailoverActive start.failover.state = .ok true ∨
        monitor.failoverRunbook.isSome = true ∧
          ∃ call ∈ calls, call.action.failsOver monitor.slo = true) := by
  have blocks : ∀ plan, Blocking (ApiFailoverPlanner.writeState plan) := fun plan =>
    ⟨"blocked", status_writeState plan, by decide⟩
  constructor
  · exact state_run monitor (fun plan => routerRejects_iff.mpr (blocks plan)) start calls
  · exact @state_run monitor (fun file => loadFailoverActive file = .ok true)
      (fun plan => loadFailoverActive_iff.mpr (.inl (blocks plan))) start calls

end Failover

section Health

open HealthMonitor

variable {monitor : BrokerApiMonitor}

/-- The severity of the condition that a call raises. -/
def Action.severity (slo : BrokerSloConfig) (action : Action) : Nat :=
  (action.incident slo).elim 0 fun incident => levelSeverity incident.level

theorem severity_lt (slo : BrokerSloConfig) (action : Action) : action.severity slo < 5 := by
  unfold Action.severity
  cases action.incident slo with
  | none => decide
  | some incident => exact levelSeverity_lt incident.level

theorem severity_eq (slo : BrokerSloConfig) (action : Action) : action.severity slo =
    if action.critical slo then 3 else if action.errs then 2 else if action.slow slo then 1
    else 0 := by
  cases action with
  | record adapter operation latencyMs printed status =>
    simp only [Action.severity, Action.incident, Action.critical, Action.errs, Action.slow]
    split
    · rename_i critical
      simp only [critical, decide_true, if_true]
      rfl
    · rename_i fast
      split
      · rename_i slow
        simp only [fast, slow, decide_true, decide_false, if_true, Bool.false_eq_true, if_false]
        rfl
      · rename_i fine
        simp [fast, fine]
  | recordError adapter operation errorBucket status => rfl
  | recordQueueWait adapter operation waitSec printed queueDepth =>
    simp only [Action.severity, Action.incident, Action.critical, Action.errs, Action.slow]
    split
    · rename_i slow
      simp only [slow, decide_true, if_true, Bool.false_eq_true, if_false]
      rfl
    · rename_i fine
      simp [fine]

theorem step_status {state : MonitorState} {call : Call} {severity : Nat} (bound : severity < 5)
    (logged : call.readings.logged = true)
    (held : state.health.state.status = statusName severity) :
    (step monitor state call).health.state.status =
      statusName (max severity (call.action.severity monitor.slo)) := by
  rw [step_eq, Action.severity]
  cases call.action.incident monitor.slo with
  | none =>
    rw [Option.elim, Option.elim, Nat.max_zero, ← held]
    rfl
  | some incident =>
    rw [Option.elim, Option.elim, settle_health, raiseCondition, logged, if_pos rfl,
      ← mergeStatus_level bound, ← held]
    rfl

theorem status_worst {start : MonitorState} {calls : List Call} {severity : Nat}
    (bound : severity < 5) (logged : ∀ call ∈ calls, call.readings.logged = true)
    (held : start.health.state.status = statusName severity) :
    (runFrom (step monitor) start calls).health.state.status = statusName (max severity
      (calls.foldr (fun call worst => max (call.action.severity monitor.slo) worst) 0)) := by
  induction calls generalizing start severity with
  | nil => rw [List.foldr_nil, Nat.max_zero, ← held]; rfl
  | cons call rest ih =>
    obtain ⟨here, later⟩ := List.forall_mem_cons.mp logged
    have next : (step monitor start call).health.state.status =
        statusName (max severity (call.action.severity monitor.slo)) :=
      step_status bound here held
    rw [runFrom, List.foldl_cons, ← runFrom,
      ih (Nat.max_lt.mpr ⟨bound, severity_lt monitor.slo call.action⟩) later next,
      List.foldr_cons, Nat.max_assoc]

theorem max_ranked (critical errs slow critical' errs' slow' : Prop) [Decidable critical]
    [Decidable errs] [Decidable slow] [Decidable critical'] [Decidable errs'] [Decidable slow'] :
    max (if critical then 3 else if errs then 2 else if slow then 1 else 0)
        (if critical' then 3 else if errs' then 2 else if slow' then 1 else 0) =
      if critical ∨ critical' then 3 else if errs ∨ errs' then 2
      else if slow ∨ slow' then 1 else 0 := by
  by_cases c : critical
  · simp only [c, true_or, if_true]
    split_ifs <;> rfl
  · by_cases c' : critical'
    · simp only [c, c', or_true, if_true, if_false]
      split_ifs <;> rfl
    · simp only [c, c', or_self, if_false]
      by_cases e : errs <;> by_cases e' : errs' <;> by_cases s : slow <;> by_cases s' : slow' <;>
        simp [e, e', s, s']

theorem worst_eq (slo : BrokerSloConfig) (calls : List Call) :
    calls.foldr (fun call worst => max (call.action.severity slo) worst) 0 =
      if ∃ call ∈ calls, call.action.critical slo = true then 3
      else if ∃ call ∈ calls, call.action.errs = true then 2
      else if ∃ call ∈ calls, call.action.slow slo = true then 1 else 0 := by
  induction calls with
  | nil => rfl
  | cons call rest ih =>
    rw [List.foldr_cons, ih, severity_eq, max_ranked]
    simp only [List.exists_mem_cons_iff]

/-- The health monitor shows the worst of what has been recorded, whatever is recorded after. -/
theorem status_run {start : MonitorState} {calls : List Call} (fresh : start.health = .fresh)
    (logged : ∀ call ∈ calls, call.readings.logged = true) :
    (runFrom (step monitor) start calls).health.state.status =
      if ∃ call ∈ calls, call.action.critical monitor.slo = true then "soft_stop"
      else if ∃ call ∈ calls, call.action.errs = true then "degraded"
      else if ∃ call ∈ calls, call.action.slow monitor.slo = true then "warn" else "ok" := by
  have held : start.health.state.status = statusName 0 := by
    rw [fresh]
    rfl
  rw [status_worst (by decide) logged held, worst_eq, Nat.zero_max]
  split_ifs <;> rfl

end Health

/-! ## A slow heartbeat and a lost connection -/

def sandboxMonitor : BrokerApiMonitor where
  slo := { latencyWarnMs := 800, latencyCriticalMs := 1500, queueWarnSec := 30 }
  alertSink := some {}
  failoverRunbook := some "RUN-BROKER-API-02"

/-- Readings in the minute of the first call. -/
def readingsAt (second : Fin 60) : Readings :=
  let now : UtcTime := {
    micros := (63850000000 + second) * 1000000 + 250000
    covered := by
      have := second.isLt
      omega }
  { measuredAt := now, alertedAt := now, alertHex := "0f3a9c51d2e7", raisedAt := 0
    logged := true, plannedAt := now }

def sandboxCalls : List Call :=
  [{ action := .record "sandbox" "heartbeat" 2000 "2000.0" "ok"
     readings := readingsAt ⟨5, by decide⟩ },
    { action := .recordError "sandbox" "fetch_positions" "network" "error"
      readings := readingsAt ⟨7, by decide⟩ }]

theorem sandboxCalls_fit : ∀ call ∈ sandboxCalls, call.Fit := by
  have low : sandboxCalls.all (fun call => call.texts.all fun text =>
      text.toList.all fun char => char.toNat < 128) = true := by decide
  have printed : Json.IsFloat (roundTo 2000 2) "2000.0" := by decide +kernel
  intro call member
  refine ⟨fun text given => plainText_of_all
    (List.all_eq_true.mp (List.all_eq_true.mp low call member) text given), ?_⟩
  simp only [sandboxCalls, List.mem_cons, List.not_mem_nil, or_false] at member
  rcases member with rfl | rfl
  · intro number same
    obtain rfl := Option.some.inj same
    exact printed
  · intro number same
    cases same

theorem report_sandbox :
    sandboxMonitor.report (runFrom (step sandboxMonitor) {} sandboxCalls) "24h"
        (readingsAt 6).measuredAt =
      .ok (BrokerApiMonitor.reportText "24h" (readingsAt 6).measuredAt.wholeSecond.isoText
        { status := "warn", requests := 2, errors := 1 } 2) :=
  report_run sandboxCalls_fit rfl rfl "24h" (readingsAt 6).measuredAt

theorem alerts_sandbox :
    (BrokerAlertSink.listAlerts (runFrom (step sandboxMonitor) {} sandboxCalls).alerts
      (some (readingsAt 6).alertedAt.wholeSecond.isoText)).map List.length = .ok 1 := by
  rw [listAlerts_since sandboxCalls_fit rfl (readingsAt 6).alertedAt]
  rfl

theorem status_sandbox :
    (runFrom (step sandboxMonitor) {} sandboxCalls).health.state.status = "soft_stop" :=
  (status_run rfl (by decide)).trans (if_pos ⟨_, List.mem_cons_self, by decide +kernel⟩)

end FxToushi.Brokers.ApiMonitor
