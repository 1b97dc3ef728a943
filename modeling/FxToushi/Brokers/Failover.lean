import FxToushi.Data.Runs
import FxToushi.Execution.OrderRouter
import FxToushi.Py.JsonIndent

namespace FxToushi.Brokers

open Data Execution Py

/-! # Broker failover

A plan that is dispatched writes the failover state, which the order router and
the stage guard read in words of their own, and is logged.  A simulation differs
in what is logged and returned alone.
-/

structure FailoverPlan where
  planId : String
  triggerReason : String
  actions : List String
  runbookRef : String
  createdAt : String
  expectedRecoveryMin : Int := 30
  manualSteps : List String := []
  stage : String := "manual_only"

def FailoverPlan.toDict (plan : FailoverPlan) : Value :=
  .map [("plan_id", .str plan.planId), ("trigger_reason", .str plan.triggerReason),
    ("actions", .list (plan.actions.map .str)), ("runbook_ref", .str plan.runbookRef),
    ("created_at", .str plan.createdAt), ("expected_recovery_min", .int plan.expectedRecoveryMin),
    ("manual_steps", .list (plan.manualSteps.map .str)), ("stage", .str plan.stage)]

structure EmergencyPlan where
  planId : String
  scenario : String
  runbookRef : String
  steps : List String
  expectedRecoveryMin : Int
  createdAt : String

def EmergencyPlan.toDict (plan : EmergencyPlan) : Value :=
  .map [("plan_id", .str plan.planId), ("scenario", .str plan.scenario),
    ("runbook_ref", .str plan.runbookRef), ("steps", .list (plan.steps.map .str)),
    ("expected_recovery_min", .int plan.expectedRecoveryMin), ("created_at", .str plan.createdAt)]

/-- The state file and the logs, by entry. -/
structure FailoverFiles where
  state : JsonFile := .missing
  log : List Value := []
  opsWorklog : List Value := []
  planLog : List Value := []

namespace EmergencyPlanner

/-- The trigger does nothing. -/
def emergencyTrigger (scenario runbook : String) (simulate : Bool) : Value :=
  .map [("status", .str "stub"), ("scenario", .str scenario), ("runbook", .str runbook),
    ("simulated", .bool simulate)]

def logEntry (plan : EmergencyPlan) (simulate : Bool) (utcnow : String) : Value :=
  .map [("event", .str "emergency.plan_dispatched"), ("ts", .str utcnow), ("plan", plan.toDict),
    ("metadata", .map []), ("simulated", .bool simulate)]

def result (plan : EmergencyPlan) (simulate : Bool) : Value :=
  .map [("status", .str (if simulate then "simulated" else "triggered")),
    ("plan_id", .str plan.planId),
    ("emergency", emergencyTrigger plan.scenario plan.runbookRef simulate)]

end EmergencyPlanner

namespace ApiFailoverPlanner

def statePayload (plan : FailoverPlan) : Value :=
  .map [("status", .str "blocked"), ("plan_id", .str plan.planId),
    ("runbook_ref", .str plan.runbookRef), ("trigger_reason", .str plan.triggerReason),
    ("created_at", .str plan.createdAt)]

def writeState (plan : FailoverPlan) : JsonFile :=
  .text (Json.dumpsIndented 0 (statePayload plan))

def emergencyPlan (plan : FailoverPlan) : EmergencyPlan where
  planId := plan.planId
  scenario := "api_failover"
  runbookRef := plan.runbookRef
  steps := plan.actions
  expectedRecoveryMin := plan.expectedRecoveryMin
  createdAt := plan.createdAt

/-- The files after `dispatch`, and what it returns. -/
def dispatch (files : FailoverFiles) (plan : FailoverPlan) (simulate : Bool) (utcnow : String) :
    FailoverFiles × Value :=
  ({ state := writeState plan
     log := files.log ++ [.map [("event", .str "broker_failover_dispatched"), ("ts", .str utcnow),
       ("plan", plan.toDict), ("simulated", .bool simulate)]]
     opsWorklog := files.opsWorklog ++ [.map [("timestamp", .str utcnow),
       ("task", .str "broker_api_failover"),
       ("status", .str (if simulate then "simulated" else "triggered")),
       ("plan_id", .str plan.planId), ("runbook", .str plan.runbookRef)]]
     planLog := files.planLog ++
       [EmergencyPlanner.logEntry (emergencyPlan plan) simulate utcnow] },
    EmergencyPlanner.result (emergencyPlan plan) simulate)

def newPlan (runbookRef reason timestamp utcnow : String) : FailoverPlan where
  planId := "failover-" ++ timestamp
  triggerReason := reason
  actions := ["pause_order_router", "notify_ops", "switch_to_manual", "capture_evidence"]
  runbookRef
  createdAt := utcnow
  manualSteps := ["Route orders to manual execution", "Confirm kill switch state",
    "Capture broker metrics snapshot"]

def plan (files : FailoverFiles) (runbookRef reason timestamp utcnow : String)
    (dispatched : Bool) : FailoverFiles × FailoverPlan :=
  let planned := newPlan runbookRef reason timestamp utcnow
  let recorded := { files with
    log := files.log ++ [.map [("event", .str "broker_failover_planned"), ("ts", .str utcnow),
      ("plan", planned.toDict)]] }
  if dispatched then ((dispatch recorded planned false utcnow).1, planned) else (recorded, planned)

end ApiFailoverPlanner

/-- `_load_failover_active` of the stage guard. -/
def loadFailoverActive (file : JsonFile) : Except OrderError Bool :=
  (file.textField "status" "").map
    (fun status => decide (status ∈ ["blocked", "active", "triggered"]))

/-! ## What the state file decides -/

/-- Both readers decide alike on two states. -/
structure SameRouting (before after : JsonFile) : Prop where
  router : assertFailover after = assertFailover before
  guard : loadFailoverActive after = loadFailoverActive before

def RouterRejects (file : JsonFile) : Prop :=
  ∃ error, assertFailover file = .error error ∧ IsRejection error

/-- Where the guard takes the failover for active, the router rejects. -/
def RouterFollowsGuard (file : JsonFile) : Prop :=
  loadFailoverActive file = .ok true → RouterRejects file

def Blocking (file : JsonFile) : Prop :=
  ∃ status, file.textField "status" "" = .ok status ∧ status ∈ ["blocked", "active"]

theorem wellFormed_statePayload (plan : FailoverPlan) :
    Json.WellFormed (ApiFailoverPlanner.statePayload plan) := by
  simp [ApiFailoverPlanner.statePayload, Json.WellFormed, Json.WellFormedEntries]

theorem status_writeState (plan : FailoverPlan) :
    (ApiFailoverPlanner.writeState plan).textField "status" "" = .ok "blocked" := by
  simp only [ApiFailoverPlanner.writeState, JsonFile.textField, JsonFile.read,
    Json.loads_dumpsIndented (wellFormed_statePayload plan)]
  rfl

theorem assertFailover_eq {file : JsonFile} {status : String}
    (read : file.textField "status" "" = .ok status) :
    assertFailover file = if status ∈ ["blocked", "active"] then
      rejected "broker_failover_active" "RUN-BROKER-API-02" else .ok () := by
  simp only [assertFailover, read, bind, Except.bind]
  split <;> rfl

theorem routerRejects_iff {file : JsonFile} : RouterRejects file ↔ Blocking file := by
  cases read : file.textField "status" "" with
  | error error =>
    constructor
    · rintro ⟨raised, refused, rejection⟩
      rw [assertFailover, read] at refused
      cases refused
      exact absurd rejection (textField_not_rejection read)
    · rintro ⟨status, known, -⟩
      rw [read] at known
      cases known
  | ok status =>
    simp only [RouterRejects, Blocking, assertFailover_eq read, read, Except.ok.injEq,
      exists_eq_left']
    by_cases blocking : status ∈ ["blocked", "active"]
    · simp only [blocking, if_true, iff_true]
      exact ⟨_, rfl, _, _, rfl⟩
    · simp [blocking]

theorem loadFailoverActive_iff {file : JsonFile} : loadFailoverActive file = .ok true ↔
    Blocking file ∨ file.textField "status" "" = .ok "triggered" := by
  cases read : file.textField "status" "" with
  | error error => simp [loadFailoverActive, Blocking, read, Except.map]
  | ok status => simp [loadFailoverActive, Blocking, read, Except.map, or_assoc]

theorem routerFollowsGuard_iff {file : JsonFile} :
    RouterFollowsGuard file ↔ file.textField "status" "" ≠ .ok "triggered" := by
  rw [RouterFollowsGuard, loadFailoverActive_iff, routerRejects_iff]
  constructor
  · intro follows triggered
    obtain ⟨status, read, blocking⟩ := follows (.inr triggered)
    rw [triggered] at read
    cases read
    exact absurd blocking (by decide)
  · intro other active
    exact active.resolve_right other

theorem sameRouting_of_blocking {before after : JsonFile} (blocked : Blocking before)
    (blocks : Blocking after) : SameRouting before after := by
  have activeBefore := loadFailoverActive_iff.mpr (.inl blocked)
  have activeAfter := loadFailoverActive_iff.mpr (.inl blocks)
  obtain ⟨status, read, blocking⟩ := blocked
  obtain ⟨other, readOther, blockingOther⟩ := blocks
  constructor
  · rw [assertFailover_eq read, assertFailover_eq readOther, if_pos blocking,
      if_pos blockingOther]
  · rw [activeBefore, activeAfter]

/-! ## Simulations -/

/-- A simulated dispatch of a plan, at a time. -/
def simulate (files : FailoverFiles) (drill : FailoverPlan × String) : FailoverFiles :=
  (ApiFailoverPlanner.dispatch files drill.1 true drill.2).1

theorem blocking_simulate (files : FailoverFiles) (drill : FailoverPlan × String) :
    Blocking (simulate files drill).state :=
  ⟨"blocked", status_writeState drill.1, by decide⟩

theorem blocking_runFrom {files : FailoverFiles} {drills : List (FailoverPlan × String)}
    (started : Blocking files.state) : Blocking (runFrom simulate files drills).state := by
  have throughout : Throughout simulate (fun files => Blocking files.state) files drills :=
    throughout_of_step (fun state drill _ => blocking_simulate state drill) started
  exact throughout.final

theorem sameRouting_simulations_iff (files : FailoverFiles)
    (drills : List (FailoverPlan × String)) :
    SameRouting files.state (runFrom simulate files drills).state ↔
      drills = [] ∨ Blocking files.state := by
  cases drills with
  | nil => exact ⟨fun _ => .inl rfl, fun _ => ⟨rfl, rfl⟩⟩
  | cons drill rest =>
    have blocks : Blocking (runFrom simulate files (drill :: rest)).state :=
      @blocking_runFrom (simulate files drill) rest (blocking_simulate files drill)
    constructor
    · intro same
      have rejects := routerRejects_iff.mpr blocks
      rw [RouterRejects, same.router] at rejects
      exact .inr (routerRejects_iff.mp rejects)
    · rintro (absurdity | blocked)
      · cases absurdity
      · exact sameRouting_of_blocking blocked blocks

/-- Simulations leave the routing alone exactly where it was blocked before, and
the two readers differ on `triggered` alone. -/
theorem simulations_harmless_iff (files : FailoverFiles)
    (drills : List (FailoverPlan × String)) :
    SameRouting files.state (runFrom simulate files drills).state ∧
        RouterFollowsGuard files.state ↔
      (drills = [] ∨ Blocking files.state) ∧
        files.state.textField "status" "" ≠ .ok "triggered" := by
  rw [sameRouting_simulations_iff, routerFollowsGuard_iff]

def drillPlan : FailoverPlan :=
  ApiFailoverPlanner.newPlan "RUN-BROKER-API-02" "drill" "1704153600" "2024-01-02T00:00:00Z"

/-- No failover and one drill: the router stops every order. -/
theorem drill_blocks_routing :
    ¬ SameRouting JsonFile.missing
      (runFrom simulate {} [(drillPlan, "2024-01-02T00:00:00Z")]).state := by
  intro same
  have blocks := blocking_simulate {} (drillPlan, "2024-01-02T00:00:00Z")
  have rejects := routerRejects_iff.mpr blocks
  have alike : assertFailover (simulate {} (drillPlan, "2024-01-02T00:00:00Z")).state =
    assertFailover JsonFile.missing := same.router
  obtain ⟨error, refused, -⟩ := rejects
  rw [alike] at refused
  cases refused

end FxToushi.Brokers
