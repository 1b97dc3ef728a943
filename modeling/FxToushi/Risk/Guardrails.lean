import FxToushi.Core.Health
import FxToushi.Risk.Manager

namespace FxToushi.Risk

open FxToushi.Core Py Data

/-! # The two guardrail evaluators

`HealthMonitor.guardrail_snapshot` and `RiskManager.evaluate_ticket` judge the
same gate state by two independently written cascades.  Each is reduced to its
table over the gate's words; the tables are then compared.
-/

/-- A monitor in use that holds no reason and no suggestion. -/
structure Idle (monitor : HealthMonitor) : Prop where
  reachable : monitor.Reachable
  noReasons : monitor.state.reasons = []
  noBoardMode : monitor.state.boardModeSuggestion = none
  noKillSwitch : monitor.state.killSwitch = none

theorem Idle.status {monitor : HealthMonitor} (idle : Idle monitor) :
    monitor.state.status = "ok" :=
  idle.reachable.quietIsOk idle.noReasons

def gateKillSwitch (gate : GateState) : String :=
  orText gate.risk.killSwitchRecommendation "none"

def ThinLiquidity (gate : GateState) : Prop :=
  gate.market.liquidity.state ∈ ["guarded", "halted"]

instance (gate : GateState) : Decidable (ThinLiquidity gate) :=
  inferInstanceAs (Decidable (_ ∈ _))

def spreadWords : List String := ["normal", "watch", "cooldown", "halt"]

theorem snapshot_killSwitch {monitor : HealthMonitor} (idle : Idle monitor) (gate : GateState) :
    (monitor.guardrailSnapshot gate).killSwitchState = gateKillSwitch gate := by
  simp [HealthMonitor.guardrailSnapshot, HealthMonitor.effectiveKillSwitch, idle.noKillSwitch,
    gateKillSwitch]

theorem gateKillSwitch_eq_iff (gate : GateState) {word : String} (stop : word ∉ ["", "none"]) :
    gateKillSwitch gate = word ↔ gate.risk.killSwitchRecommendation = some word := by
  simp only [List.mem_cons, List.not_mem_nil, or_false, not_or] at stop
  cases recommendation : gate.risk.killSwitchRecommendation with
  | none => simpa [gateKillSwitch, recommendation] using Ne.symm stop.2
  | some text =>
    by_cases empty : text = ""
    · simp [gateKillSwitch, recommendation, orText, empty, Ne.symm stop.1, Ne.symm stop.2]
    · simp [gateKillSwitch, recommendation, orText, empty]

/-! ## The tables

`spread` is the gate's word after normalisation, the same for both sides.
-/

theorem snapshot_boardMode {monitor : HealthMonitor} (idle : Idle monitor) (gate : GateState) :
    (monitor.guardrailSnapshot gate).boardMode =
      if gateKillSwitch gate = "hard_stop" then "halted"
      else if HealthMonitor.normaliseSpreadState gate.market.spread.state ≠ "normal" ∨
          gate.risk.reduceOnly = true ∨ ThinLiquidity gate then "guarded"
      else "normal" := by
  have switch := snapshot_killSwitch idle gate
  simp only [HealthMonitor.guardrailSnapshot] at switch
  simp [HealthMonitor.guardrailSnapshot, HealthMonitor.snapshotBoardMode, switch, idle.status,
    ThinLiquidity]

theorem snapshot_exitCode {monitor : HealthMonitor} (idle : Idle monitor) (gate : GateState) :
    (monitor.guardrailSnapshot gate).exitCode =
      if gateKillSwitch gate = "hard_stop" then 63
      else if gateKillSwitch gate = "soft_stop" then 62
      else if HealthMonitor.normaliseSpreadState gate.market.spread.state = "block" then 62
      else if HealthMonitor.normaliseSpreadState gate.market.spread.state ≠ "normal" ∨
          gate.risk.reduceOnly = true ∨ ThinLiquidity gate then 21
      else 0 := by
  have switch := snapshot_killSwitch idle gate
  simp only [HealthMonitor.guardrailSnapshot] at switch
  simp only [HealthMonitor.guardrailSnapshot, HealthMonitor.computeExitCode,
    HealthMonitor.snapshotBoardMode, switch, idle.status]
  by_cases hard : gateKillSwitch gate = "hard_stop"
  · simp [hard]
  by_cases guarded : HealthMonitor.normaliseSpreadState gate.market.spread.state ≠ "normal" ∨
      gate.risk.reduceOnly = true ∨ ThinLiquidity gate
  · -- A guarded board is reduce-only, whichever of the three made it so.
    cases reduce : gate.risk.reduceOnly <;> simp_all [ThinLiquidity]
  · simp only [not_or, not_not] at guarded
    obtain ⟨normal, reduce, thick⟩ := guarded
    simp_all [ThinLiquidity]

/-- The ticket judged with nothing but the gate: no assessment, advisor or override. -/
def plainTicket (gate : GateState) : RiskDecision :=
  RiskManager.evaluateTicket none (some gate) none none none

theorem gateKillSwitch_ne_empty (gate : GateState) : gateKillSwitch gate ≠ "" := by
  cases recommendation : gate.risk.killSwitchRecommendation with
  | none => simp [gateKillSwitch, recommendation, orText]
  | some text =>
    by_cases empty : text = "" <;> simp [gateKillSwitch, recommendation, orText, empty]

theorem plainTicket_eq (gate : GateState) : ∃ reason,
    plainTicket gate = RiskManager.decideTicket
      (RiskManager.normaliseSpreadState (some gate.market.spread.state)) (gateKillSwitch gate)
      gate.risk.reduceOnly reason := by
  let reasons := orElse (orElse gate.market.spread.reason gate.risk.killSwitchReason) none
  refine ⟨orElse reasons gate.risk.reduceOnlyReason, ?_⟩
  simp [plainTicket, RiskManager.evaluateTicket, RiskManager.effectiveSpread,
    RiskManager.effectiveKillSwitch, RiskManager.evaluateReduceOnlyAdvisor, gateKillSwitch,
    orElse_assoc, reasons]

theorem plainTicket_killSwitch (gate : GateState) :
    (plainTicket gate).killSwitchState = gateKillSwitch gate := by
  obtain ⟨reason, ticket⟩ := plainTicket_eq gate
  have present := gateKillSwitch_ne_empty gate
  rw [ticket, RiskManager.decideTicket]
  split_ifs <;> simp [orText, present]

theorem plainTicket_boardMode (gate : GateState) :
    (plainTicket gate).boardMode =
      if gateKillSwitch gate = "hard_stop" then "halted"
      else if RiskManager.normaliseSpreadState (some gate.market.spread.state) ≠ "normal" ∨
          gate.risk.reduceOnly = true ∨ gateKillSwitch gate = "soft_stop" then "guarded"
      else "normal" := by
  obtain ⟨reason, ticket⟩ := plainTicket_eq gate
  rw [ticket, RiskManager.decideTicket]
  have spread : RiskManager.normaliseSpreadState (some gate.market.spread.state) ∈
      ["normal", "cooldown", "block"] := by
    unfold RiskManager.normaliseSpreadState
    split_ifs <;> simp
  split_ifs <;> simp_all

theorem plainTicket_exitCode (gate : GateState) :
    (plainTicket gate).exitCode =
      if gateKillSwitch gate = "hard_stop" then 63
      else if gateKillSwitch gate = "soft_stop" then 62
      else if RiskManager.normaliseSpreadState (some gate.market.spread.state) = "block" then 62
      else if RiskManager.normaliseSpreadState (some gate.market.spread.state) ≠ "normal" ∨
          gate.risk.reduceOnly = true then 21
      else 0 := by
  obtain ⟨reason, ticket⟩ := plainTicket_eq gate
  rw [ticket, RiskManager.decideTicket]
  have spread : RiskManager.normaliseSpreadState (some gate.market.spread.state) ∈
      ["normal", "cooldown", "block"] := by
    unfold RiskManager.normaliseSpreadState
    split_ifs <;> simp
  split_ifs <;> simp_all

theorem normaliseSpreadState_agree {word : String} (known : word ∈ spreadWords) :
    RiskManager.normaliseSpreadState (some word) = HealthMonitor.normaliseSpreadState word := by
  revert word
  decide

theorem normaliseSpreadState_normal_iff {word : String} (known : word ∈ spreadWords) :
    HealthMonitor.normaliseSpreadState word = "normal" ↔ word = "normal" := by
  revert word
  decide

/-! ## Where they agree -/

/-- The two evaluators report the same board mode, exit code and kill switch,
and a ticket under a stop exit code is not allowed. -/
structure EvaluatorsAgree (snapshot : GuardrailSnapshot) (decision : RiskDecision) : Prop where
  boardMode : snapshot.boardMode = decision.boardMode
  exitCode : snapshot.exitCode = decision.exitCode
  killSwitchState : snapshot.killSwitchState = decision.killSwitchState
  blocked : decision.exitCode ∈ [62, 63] → decision.allowed = false

/-- Where the two cascades coincide.  A hard stop, a spread that is not normal
or a reduce-only gate decide both alike; otherwise the snapshot guards the
board for thin liquidity, the ticket for a soft stop. -/
def AgreeOn (gate : GateState) : Prop :=
  gate.risk.killSwitchRecommendation = some "hard_stop" ∨
    gate.market.spread.state ≠ "normal" ∨
    gate.risk.reduceOnly = true ∨
    (gate.risk.killSwitchRecommendation = some "soft_stop" ↔ ThinLiquidity gate)

/-- The evaluators agree on a gate exactly where the tables coincide. -/
theorem evaluators_agree_iff {monitor : HealthMonitor} {gate : GateState} (idle : Idle monitor)
    (known : gate.market.spread.state ∈ spreadWords) :
    EvaluatorsAgree (monitor.guardrailSnapshot gate)
        (RiskManager.evaluateTicket none (some gate) none none none) ↔ AgreeOn gate := by
  change EvaluatorsAgree _ (plainTicket gate) ↔ _
  have switch := snapshot_killSwitch idle gate
  have board := snapshot_boardMode idle gate
  have code := snapshot_exitCode idle gate
  have normal := normaliseSpreadState_normal_iff known
  rw [← plainTicket_killSwitch] at switch
  unfold AgreeOn
  rw [← gateKillSwitch_eq_iff gate (by decide), ← gateKillSwitch_eq_iff gate (by decide)]
  constructor
  · intro agree
    have boards := agree.boardMode
    rw [board, plainTicket_boardMode, normaliseSpreadState_agree known] at boards
    by_contra apart
    simp only [not_or, not_not] at apart
    obtain ⟨running, quiet, free, unbalanced⟩ := apart
    simp only [running, quiet, free, ne_eq, false_or, Bool.false_eq_true, if_false] at boards
    apply unbalanced
    by_cases soft : gateKillSwitch gate = "soft_stop" <;>
      by_cases thin : ThinLiquidity gate <;> simp_all
  · intro alike
    refine ⟨?_, ?_, switch, RiskManager.evaluateTicket_stop_blocks⟩
    · rw [board, plainTicket_boardMode, normaliseSpreadState_agree known]
      rcases alike with hard | spread | reduce | balanced <;> simp_all
    · rw [code, plainTicket_exitCode, normaliseSpreadState_agree known]
      rcases alike with hard | spread | reduce | balanced <;> simp_all

theorem idle_fresh : Idle HealthMonitor.fresh :=
  ⟨⟨[], rfl⟩, rfl, rfl, rfl⟩

def haltedSpread : GateState where
  market := { MarketGateState.default with spread := { state := "halt" } }

/-- A halted spread halts both boards. -/
theorem evaluators_agree_haltedSpread :
    EvaluatorsAgree (HealthMonitor.fresh.guardrailSnapshot haltedSpread)
      (RiskManager.evaluateTicket none (some haltedSpread) none none none) :=
  (evaluators_agree_iff idle_fresh (by decide)).mpr (.inr (.inl (by decide)))

def guardedLiquidity : GateState where
  market := { MarketGateState.default with liquidity := { state := "guarded" } }

/-- Guarded liquidity alone guards the snapshot's board and leaves the ticket's
normal. -/
theorem evaluators_disagree_on_guarded_liquidity :
    Idle HealthMonitor.fresh ∧ guardedLiquidity.market.spread.state ∈ spreadWords ∧
      ¬ EvaluatorsAgree (HealthMonitor.fresh.guardrailSnapshot guardedLiquidity)
        (RiskManager.evaluateTicket none (some guardedLiquidity) none none none) := by
  refine ⟨idle_fresh, by decide, fun agree => ?_⟩
  exact absurd agree.boardMode (by decide)

end FxToushi.Risk
