import FxToushi.Core.Health
import FxToushi.Py.Extended

namespace FxToushi.Risk

open FxToushi.Core Data Py

/-! # Risk evaluation

`RiskManager.evaluate` turns the metrics of an account into a kill switch
recommendation and raises a health condition for it.  What it recommends is
compared with what the health monitor reports afterwards.
-/

structure RiskSnapshot where
  dailyDrawdownPct : Extended := 0
  weeklyDrawdownPct : Extended := 0
  equityPctOfBase : Option Extended := none
  exposureREff : Option Extended := none
  spreadStatus : Option String := none
  sessionDate : Option Int := none
  fundingRate : Option Rat := none
deriving Repr, DecidableEq

/-- The points of a funding curve, by session date. -/
structure FundingCurve where
  points : Dict Int Rat := Dict.empty

def FundingCurve.rateOn (curve : FundingCurve) (sessionDate : Int) : Rat :=
  (curve.points.get? sessionDate).getD 0

structure RiskManager where
  dailyStopPct : Extended := .finite (5 / 2)
  weeklyStopPct : Extended := .finite 5
  rEffSoftStop : Extended := .finite 2
  rEffHardStop : Extended := .finite (5 / 2)
  capitalFloorPct : Extended := .finite 80
  fundingCurve : Option FundingCurve := none

structure KillSwitch where
  level : String
  reason : String
deriving Repr, DecidableEq

/-- What the triggers have recommended so far. -/
structure Guidance where
  reduceOnly : Bool := false
  reduceOnlyReason : Option String := none
  killSwitch : Option KillSwitch := none
deriving Repr, DecidableEq

namespace Guidance

/-- A hard stop replaces a softer recommendation, and nothing replaces a hard
stop. -/
def applyKillSwitch (guidance : Guidance) (level reason : String) : Guidance :=
  match guidance.killSwitch with
  | none => { guidance with killSwitch := some ⟨level, reason⟩ }
  | some held =>
    if held.level ≠ "hard_stop" ∧ level = "hard_stop" then
      { guidance with killSwitch := some ⟨level, reason⟩ }
    else guidance

def recommendReduceOnly (guidance : Guidance) (reason : String) : Guidance :=
  { guidance with reduceOnly := true, reduceOnlyReason := some reason }

def riskState (guidance : Guidance) : RiskGateState where
  reduceOnly := guidance.reduceOnly
  reduceOnlyReason := guidance.reduceOnlyReason
  killSwitchRecommendation := guidance.killSwitch.map (·.level)
  killSwitchReason := guidance.killSwitch.map (·.reason)

@[simp] theorem applyKillSwitch_ne_none (guidance : Guidance) (level reason : String) :
    (guidance.applyKillSwitch level reason).killSwitch ≠ none := by
  unfold applyKillSwitch
  cases held : guidance.killSwitch with
  | none => simp
  | some killSwitch =>
    dsimp only
    split
    · simp
    · simp [held]

@[simp] theorem recommendReduceOnly_killSwitch (guidance : Guidance) (reason : String) :
    (guidance.recommendReduceOnly reason).killSwitch = guidance.killSwitch := rfl

/-- Every recommended kill switch is one of the two stops. -/
def Stops (guidance : Guidance) : Prop :=
  ∀ killSwitch, guidance.killSwitch = some killSwitch →
    killSwitch.level = "hard_stop" ∨ killSwitch.level = "soft_stop"

theorem applyKillSwitch_stops {guidance : Guidance} (stops : guidance.Stops) {level : String}
    (named : level = "hard_stop" ∨ level = "soft_stop") (reason : String) :
    (guidance.applyKillSwitch level reason).Stops := by
  intro killSwitch applied
  unfold applyKillSwitch at applied
  cases held : guidance.killSwitch with
  | none =>
    simp only [held, Option.some.injEq] at applied
    simpa [← applied] using named
  | some earlier =>
    simp only [held] at applied
    by_cases harder : earlier.level ≠ "hard_stop" ∧ level = "hard_stop"
    · rw [if_pos harder] at applied
      simp only [Option.some.injEq] at applied
      simpa [← applied] using named
    · rw [if_neg harder] at applied
      exact stops killSwitch applied

end Guidance

namespace RiskManager

def exposureTrigger (manager : RiskManager) (snapshot : RiskSnapshot) (guidance : Guidance) :
    Guidance :=
  match snapshot.exposureREff with
  | none => guidance
  | some exposure =>
    if manager.rEffHardStop.le exposure then guidance.applyKillSwitch "hard_stop" "r_eff_hard_stop"
    else if manager.rEffSoftStop.le exposure then guidance.recommendReduceOnly "r_eff_soft_stop"
    else guidance

def spreadTrigger (snapshot : RiskSnapshot) (guidance : Guidance) : Guidance :=
  let spreadStatus := lower (orText snapshot.spreadStatus "")
  if spreadStatus ∈ ["block", "halt"] then guidance.applyKillSwitch "soft_stop" "spread_block"
  else if spreadStatus ∈ ["cooldown", "watch"] ∧ guidance.reduceOnly = false then
    guidance.recommendReduceOnly "spread_cooldown"
  else guidance

/-- A drawdown that reached its stop. -/
def drawdownTrigger (drawdownPct stopPct : Extended) (reason : String) (guidance : Guidance) :
    Guidance :=
  if stopPct.le drawdownPct then guidance.applyKillSwitch "soft_stop" reason else guidance

def capitalTrigger (manager : RiskManager) (snapshot : RiskSnapshot) (guidance : Guidance) :
    Guidance :=
  match snapshot.equityPctOfBase with
  | none => guidance
  | some equity =>
    if equity.le manager.capitalFloorPct then guidance.applyKillSwitch "hard_stop" "capital_floor"
    else guidance

def guidance (manager : RiskManager) (snapshot : RiskSnapshot) : Guidance :=
  let exposed := exposureTrigger manager snapshot {}
  let spread := spreadTrigger snapshot exposed
  let daily := drawdownTrigger snapshot.dailyDrawdownPct manager.dailyStopPct "daily_drawdown"
      spread
  let weekly :=
    drawdownTrigger snapshot.weeklyDrawdownPct manager.weeklyStopPct "weekly_drawdown" daily
  capitalTrigger manager snapshot weekly

def fundingRate (manager : RiskManager) (snapshot : RiskSnapshot) : Option Rat :=
  match snapshot.fundingRate, manager.fundingCurve, snapshot.sessionDate with
  | none, some curve, some sessionDate => some (curve.rateOn sessionDate)
  | rate, _, _ => rate

/-- The condition raised for a recommendation, if there is one. -/
def reportTo (monitor : HealthMonitor) (now : Timestamp) (logged : Bool) (guidance : Guidance) :
    HealthMonitor :=
  match guidance.killSwitch with
  | some killSwitch =>
    monitor.raiseCondition now logged
      (if killSwitch.level = "hard_stop" then "critical" else "warning") "risk_kill_switch"
      (some killSwitch.reason) (some "runbook:RUN-RISK-01#kill-switch")
  | none =>
    if guidance.reduceOnly then
      monitor.raiseCondition now logged "warning" "risk_reduce_only" guidance.reduceOnlyReason
        (some "runbook:RUN-RISK-01#reduce-only")
    else monitor

/-- `now` and `logged` are the clock and the outcome of the log write of the
condition it raises. -/
def evaluate (manager : RiskManager) (snapshot : RiskSnapshot) (monitor : HealthMonitor)
    (now : Timestamp) (logged : Bool) : RiskAssessment × HealthMonitor :=
  let guidance := manager.guidance snapshot
  ({ riskState := guidance.riskState
     killSwitchSuggestion := guidance.killSwitch.map (·.level)
     killSwitchReason := guidance.killSwitch.map (·.reason)
     fundingRate := manager.fundingRate snapshot },
    reportTo monitor now logged guidance)

/-! ## What is recommended -/

/-- No trigger of the kill switch is met. -/
structure Untriggered (manager : RiskManager) (snapshot : RiskSnapshot) : Prop where
  exposure : ∀ exposure, snapshot.exposureREff = some exposure →
    manager.rEffHardStop.le exposure = false
  spread : lower (orText snapshot.spreadStatus "") ∉ ["block", "halt"]
  daily : manager.dailyStopPct.le snapshot.dailyDrawdownPct = false
  weekly : manager.weeklyStopPct.le snapshot.weeklyDrawdownPct = false
  capital : ∀ equity, snapshot.equityPctOfBase = some equity →
    equity.le manager.capitalFloorPct = false

theorem exposureTrigger_none_iff (manager : RiskManager) (snapshot : RiskSnapshot)
    (guidance : Guidance) :
    (exposureTrigger manager snapshot guidance).killSwitch = none ↔
      guidance.killSwitch = none ∧
        ∀ exposure, snapshot.exposureREff = some exposure →
          manager.rEffHardStop.le exposure = false := by
  unfold exposureTrigger
  cases snapshot.exposureREff with
  | none => simp
  | some exposure =>
    by_cases hard : manager.rEffHardStop.le exposure = true
    · simp [hard]
    · by_cases soft : manager.rEffSoftStop.le exposure = true
      · simp [hard, soft]
      · simp [hard, soft]

theorem spreadTrigger_none_iff (snapshot : RiskSnapshot) (guidance : Guidance) :
    (spreadTrigger snapshot guidance).killSwitch = none ↔
      guidance.killSwitch = none ∧
        lower (orText snapshot.spreadStatus "") ∉ ["block", "halt"] := by
  unfold spreadTrigger
  dsimp only
  by_cases blocked : lower (orText snapshot.spreadStatus "") ∈ ["block", "halt"]
  · rw [if_pos blocked]
    simp only [Guidance.applyKillSwitch_ne_none, blocked, not_true_eq_false, and_false]
  · rw [if_neg blocked]
    simp only [blocked, not_false_eq_true, and_true]
    split
    · rw [Guidance.recommendReduceOnly_killSwitch]
    · rfl

theorem drawdownTrigger_none_iff (drawdownPct stopPct : Extended) (reason : String)
    (guidance : Guidance) :
    (drawdownTrigger drawdownPct stopPct reason guidance).killSwitch = none ↔
      guidance.killSwitch = none ∧ stopPct.le drawdownPct = false := by
  unfold drawdownTrigger
  by_cases reached : stopPct.le drawdownPct = true
  · simp [reached]
  · simp [reached]

theorem capitalTrigger_none_iff (manager : RiskManager) (snapshot : RiskSnapshot)
    (guidance : Guidance) :
    (capitalTrigger manager snapshot guidance).killSwitch = none ↔
      guidance.killSwitch = none ∧
        ∀ equity, snapshot.equityPctOfBase = some equity →
          equity.le manager.capitalFloorPct = false := by
  unfold capitalTrigger
  cases snapshot.equityPctOfBase with
  | none => simp
  | some equity =>
    by_cases floor : equity.le manager.capitalFloorPct = true
    · simp [floor]
    · simp [floor]

theorem guidance_none_iff (manager : RiskManager) (snapshot : RiskSnapshot) :
    (manager.guidance snapshot).killSwitch = none ↔ Untriggered manager snapshot := by
  unfold guidance
  rw [capitalTrigger_none_iff, drawdownTrigger_none_iff, drawdownTrigger_none_iff,
    spreadTrigger_none_iff, exposureTrigger_none_iff]
  constructor
  · intro ⟨⟨⟨⟨⟨_, exposure⟩, spread⟩, daily⟩, weekly⟩, capital⟩
    exact ⟨exposure, spread, daily, weekly, capital⟩
  · intro untriggered
    exact ⟨⟨⟨⟨⟨rfl, untriggered.exposure⟩, untriggered.spread⟩, untriggered.daily⟩,
      untriggered.weekly⟩, untriggered.capital⟩

theorem guidance_stops (manager : RiskManager) (snapshot : RiskSnapshot) :
    (manager.guidance snapshot).Stops := by
  have hard : "hard_stop" = "hard_stop" ∨ "hard_stop" = "soft_stop" := .inl rfl
  have soft : "soft_stop" = "hard_stop" ∨ "soft_stop" = "soft_stop" := .inr rfl
  have exposed : (exposureTrigger manager snapshot {}).Stops := by
    have start : Guidance.Stops {} := by simp [Guidance.Stops]
    unfold exposureTrigger
    cases snapshot.exposureREff with
    | none => exact start
    | some exposure =>
      dsimp only
      split
      · exact Guidance.applyKillSwitch_stops start hard _
      · split
        · exact start
        · exact start
  have spread : (spreadTrigger snapshot (exposureTrigger manager snapshot {})).Stops := by
    unfold spreadTrigger
    dsimp only
    split
    · exact Guidance.applyKillSwitch_stops exposed soft _
    · split
      · exact exposed
      · exact exposed
  have drawdown {guidance : Guidance} (stops : guidance.Stops) (drawdownPct stopPct : Extended)
      (reason : String) : (drawdownTrigger drawdownPct stopPct reason guidance).Stops := by
    unfold drawdownTrigger
    split
    · exact Guidance.applyKillSwitch_stops stops soft _
    · exact stops
  unfold guidance capitalTrigger
  dsimp only
  split
  · exact drawdown (drawdown spread _ _ _) _ _ _
  · split
    · exact Guidance.applyKillSwitch_stops (drawdown (drawdown spread _ _ _) _ _ _) hard _
    · exact drawdown (drawdown spread _ _ _) _ _ _

/-! ## What is reported -/

/-- The guardrail snapshot stops at least as hard as the assessment suggests. -/
def ReportsStop (suggestion : Option String) (guardrail : GuardrailSnapshot) : Prop :=
  (suggestion = some "hard_stop" →
      guardrail.killSwitchState = "hard_stop" ∧ guardrail.exitCode = 63) ∧
    (suggestion = some "soft_stop" → guardrail.killSwitchState ∈ ["soft_stop", "hard_stop"])

@[simp] theorem reportTo_killSwitch (monitor : HealthMonitor) (now : Timestamp) (logged : Bool)
    (guidance : Guidance) :
    (reportTo monitor now logged guidance).state.killSwitch = monitor.state.killSwitch := by
  unfold reportTo
  split
  · rfl
  · split
    · rfl
    · rfl

theorem guardrailSnapshot_killSwitchState (manager : RiskManager) (snapshot : RiskSnapshot)
    (now : Timestamp) (logged : Bool) :
    ((manager.evaluate snapshot .fresh now logged).2.guardrailSnapshot
      GateState.default).killSwitchState = "none" := by
  simp only [HealthMonitor.guardrailSnapshot, HealthMonitor.effectiveKillSwitch, evaluate,
    reportTo_killSwitch]
  rfl

/-- The monitor learns of a stop only as a condition, so no suggested stop is
reported by the snapshot taken afterwards. -/
theorem evaluate_reportsStop_iff (manager : RiskManager) (snapshot : RiskSnapshot)
    (now : Timestamp) (logged : Bool) :
    ReportsStop (manager.evaluate snapshot .fresh now logged).1.killSwitchSuggestion
        ((manager.evaluate snapshot .fresh now logged).2.guardrailSnapshot GateState.default) ↔
      Untriggered manager snapshot := by
  rw [← guidance_none_iff, ReportsStop, guardrailSnapshot_killSwitchState]
  cases recommended : (manager.guidance snapshot).killSwitch with
  | none => simp [evaluate, recommended]
  | some killSwitch =>
    obtain hard | soft := guidance_stops manager snapshot killSwitch recommended
    · simp [evaluate, recommended, hard]
    · simp [evaluate, recommended, soft]

/-- An exposure above the hard stop leaves the kill switch at `none`. -/
theorem evaluate_hardStop_unreported :
    ¬ ∀ (manager : RiskManager) (snapshot : RiskSnapshot) (now : Timestamp) (logged : Bool),
      ReportsStop (manager.evaluate snapshot .fresh now logged).1.killSwitchSuggestion
        ((manager.evaluate snapshot .fresh now logged).2.guardrailSnapshot GateState.default) := by
  intro reports
  have exposed := (reports {} { exposureREff := some (.finite 3) } 0 true).1
  exact absurd (exposed (by decide +kernel)).1 (by decide +kernel)

end RiskManager

end FxToushi.Risk
