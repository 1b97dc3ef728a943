import FxToushi.Data.Runs
import FxToushi.Core.GateState

namespace FxToushi.Core

open Data Py Risk

/-! # The gate aggregator

Partial updates from the market and operations services are merged into one
gate state.  `none` stands for an argument that was left at `_UNSET`.
-/

namespace GateAggregator

/-- Set or clear one component of a symbol's block.  Clearing the last
component removes the block, clearing an unknown symbol does nothing. -/
def assignSymbolComponent {Component : Type} (perSymbol : Dict String GateBlockState)
    (assign : GateBlockState → Option Component → GateBlockState)
    (symbol : String) (value : Option Component) : Dict String GateBlockState :=
  match value with
  | none =>
    match perSymbol.get? symbol with
    | none => perSymbol
    | some block =>
      let cleared := assign block none
      if cleared.isEmpty then perSymbol.pop symbol else perSymbol.set symbol cleared
  | some component =>
    let block := (perSymbol.get? symbol).getD {}
    perSymbol.set symbol (assign block (some component))

def assignSymbols {Component : Type} (perSymbol : Dict String GateBlockState)
    (assign : GateBlockState → Option Component → GateBlockState)
    (updates : Option (List (String × Option Component))) : Dict String GateBlockState :=
  (updates.getD []).foldl
    (fun blocks update => assignSymbolComponent blocks assign update.1 update.2) perSymbol

def setAutoExecute (gate : GateState) (boardMode : String) : GateState :=
  { gate with
    autoExecute := lower boardMode == "normal" &&
      gate.market.profitReadinessStatus == "ok" && !gate.risk.reduceOnly }

def setProfitReadinessStatus (gate : GateState) (status boardMode : String)
    (allowAutoExecute : Bool) : GateState :=
  let updated := { gate with market := { gate.market with profitReadinessStatus := status } }
  if allowAutoExecute then
    { updated with
      autoExecute := lower boardMode == "normal" && status == "ok" && !updated.risk.reduceOnly }
  else { updated with autoExecute := false }

def setHashes (gate : GateState) (cfgHash dataHash : Option String) : GateState :=
  { gate with
    cfgHash := if truthy cfgHash then cfgHash else gate.cfgHash
    dataHash := if truthy dataHash then dataHash else gate.dataHash }

def updateNews (gate : GateState) (globalState : Option NewsGateState)
    (perSymbol : Option (List (String × Option NewsGateState))) : GateState :=
  { gate with market := { gate.market with
    news := globalState.getD gate.market.news
    perSymbol := assignSymbols gate.market.perSymbol
      (fun block news => { block with news }) perSymbol } }

def updateCalendar (gate : GateState) (globalState : Option CalendarGateState)
    (perSymbol : Option (List (String × Option CalendarGateState))) : GateState :=
  { gate with market := { gate.market with
    calendar := globalState.getD gate.market.calendar
    perSymbol := assignSymbols gate.market.perSymbol
      (fun block calendar => { block with calendar }) perSymbol } }

def updateGlobalSpread (gate : GateState) : Option SpreadGateState → GateState
  | none => gate
  | some spread =>
    let updated := { gate with market := { gate.market with spread } }
    if spread.state ≠ "normal" then setAutoExecute updated "guarded" else updated

def updateSpread (gate : GateState) (globalState : Option SpreadGateState)
    (perSymbol : Option (List (String × Option SpreadGateState))) : GateState :=
  let updated := updateGlobalSpread gate globalState
  { updated with market := { updated.market with
    perSymbol := assignSymbols updated.market.perSymbol
      (fun block spread => { block with spread }) perSymbol } }

def updateLiquidity (gate : GateState) : Option LiquidityGateState → GateState
  | none => gate
  | some liquidity =>
    let updated := { gate with market := { gate.market with liquidity } }
    if liquidity.state ∈ ["guarded", "halted"] then setAutoExecute updated "guarded"
    else updated

structure RiskUpdate where
  reduceOnly : Option Bool := none
  reduceOnlyReason : Option (Option String) := none
  killSwitchRecommendation : Option (Option String) := none
  killSwitchReason : Option (Option String) := none
deriving Repr, DecidableEq

def RiskUpdate.apply (update : RiskUpdate) (risk : RiskGateState) : RiskGateState where
  reduceOnly := update.reduceOnly.getD risk.reduceOnly
  reduceOnlyReason := update.reduceOnlyReason.getD risk.reduceOnlyReason
  killSwitchRecommendation := update.killSwitchRecommendation.getD risk.killSwitchRecommendation
  killSwitchReason := update.killSwitchReason.getD risk.killSwitchReason

/-- Replace the risk component; only a reduce-only state clears `auto_execute`. -/
def replaceRisk (gate : GateState) (risk : RiskGateState) : GateState :=
  { gate with risk, autoExecute := if risk.reduceOnly then false else gate.autoExecute }

def updateRisk (gate : GateState) (update : RiskUpdate) : GateState :=
  replaceRisk gate (update.apply gate.risk)

def applyRiskAssessment (gate : GateState) (assessment : RiskAssessment) : GateState :=
  replaceRisk gate assessment.riskState

structure HumanUpdate where
  doubleEntryRequired : Option Bool := none
  requiredRoles : Option (List String) := none
  acknowledgedRoles : Option (List String) := none
  ackDeadline : Option (Option Timestamp) := none
  manualCommentRequired : Option Bool := none
  commentMinLength : Option Int := none
deriving Repr, DecidableEq

def updateHuman (gate : GateState) (update : HumanUpdate) : GateState :=
  { gate with human := {
    doubleEntryRequired := update.doubleEntryRequired.getD gate.human.doubleEntryRequired
    requiredRoles := update.requiredRoles.getD gate.human.requiredRoles
    acknowledgedRoles := update.acknowledgedRoles.getD gate.human.acknowledgedRoles
    ackDeadline := update.ackDeadline.getD gate.human.ackDeadline
    manualCommentRequired := update.manualCommentRequired.getD gate.human.manualCommentRequired
    commentMinLength := update.commentMinLength.getD gate.human.commentMinLength } }

def clearSymbol (gate : GateState) (symbol : String) : GateState :=
  { gate with market := { gate.market with perSymbol := gate.market.perSymbol.pop symbol } }

inductive Operation where
  | updateNews (globalState : Option NewsGateState)
      (perSymbol : Option (List (String × Option NewsGateState)))
  | updateCalendar (globalState : Option CalendarGateState)
      (perSymbol : Option (List (String × Option CalendarGateState)))
  | updateSpread (globalState : Option SpreadGateState)
      (perSymbol : Option (List (String × Option SpreadGateState)))
  | updateLiquidity (globalState : Option LiquidityGateState)
  | updateRisk (update : RiskUpdate)
  | applyRiskAssessment (assessment : RiskAssessment)
  | updateHuman (update : HumanUpdate)
  | setProfitReadinessStatus (status boardMode : String) (allowAutoExecute : Bool)
  | setAutoExecute (boardMode : String)
  | clearSymbol (symbol : String)
  | setHashes (cfgHash dataHash : Option String)

def step (gate : GateState) : Operation → GateState
  | .updateNews globalState perSymbol => updateNews gate globalState perSymbol
  | .updateCalendar globalState perSymbol => updateCalendar gate globalState perSymbol
  | .updateSpread globalState perSymbol => updateSpread gate globalState perSymbol
  | .updateLiquidity globalState => updateLiquidity gate globalState
  | .updateRisk update => updateRisk gate update
  | .applyRiskAssessment assessment => applyRiskAssessment gate assessment
  | .updateHuman update => updateHuman gate update
  | .setProfitReadinessStatus status boardMode allowAutoExecute =>
    setProfitReadinessStatus gate status boardMode allowAutoExecute
  | .setAutoExecute boardMode => setAutoExecute gate boardMode
  | .clearSymbol symbol => clearSymbol gate symbol
  | .setHashes cfgHash dataHash => setHashes gate cfgHash dataHash

/-! ## The auto-execute guard -/

def MarketCalm (market : MarketGateState) : Prop :=
  market.spread.state = "normal" ∧ market.liquidity.state ∉ ["guarded", "halted"]

def StopRecommended (risk : RiskGateState) : Prop :=
  risk.killSwitchRecommendation ∈ [some "soft_stop", some "hard_stop"]

instance (market : MarketGateState) : Decidable (MarketCalm market) :=
  inferInstanceAs (Decidable (_ ∧ _))

instance (risk : RiskGateState) : Decidable (StopRecommended risk) :=
  inferInstanceAs (Decidable (_ ∈ _))

structure ExecutionGuards (gate : GateState) : Prop where
  marketCalm : MarketCalm gate.market
  ready : gate.market.profitReadinessStatus = "ok"
  notReduceOnly : gate.risk.reduceOnly = false
  noStop : ¬ StopRecommended gate.risk

/-- The auto-execute guard: automatic execution is on only under all guards. -/
def AutoExecuteGuarded (gate : GateState) : Prop :=
  gate.autoExecute = true → ExecutionGuards gate

/-- The market and the kill switch allow automatic execution to be switched on.
Neither switching operation looks at them. -/
def ClearToEnable (gate : GateState) : Prop :=
  MarketCalm gate.market ∧ ¬ StopRecommended gate.risk

/-- A risk component may replace the present one while automatic execution is
on: it is reduce-only, which clears the flag, or it recommends no stop. -/
def ClearToReplace (gate : GateState) (risk : RiskGateState) : Prop :=
  gate.autoExecute = true → risk.reduceOnly = false → ¬ StopRecommended risk

/-- The condition under which one operation keeps the guard.  Only the two
operations that switch automatic execution on and the two that replace the
risk component can break it. -/
def KeepsGuard (gate : GateState) : Operation → Prop
  | .updateRisk update => ClearToReplace gate (update.apply gate.risk)
  | .applyRiskAssessment assessment => ClearToReplace gate assessment.riskState
  | .setAutoExecute boardMode =>
    lower boardMode = "normal" → gate.market.profitReadinessStatus = "ok" →
      gate.risk.reduceOnly = false → ClearToEnable gate
  | .setProfitReadinessStatus status boardMode allowAutoExecute =>
    allowAutoExecute = true → lower boardMode = "normal" → status = "ok" →
      gate.risk.reduceOnly = false → ClearToEnable gate
  | _ => True

theorem setAutoExecute_guarded_off (gate : GateState) :
    (setAutoExecute gate "guarded").autoExecute = false := by
  have other : (lower "guarded" == "normal") = false := by decide
  simp [setAutoExecute, other]

theorem autoExecuteGuarded_of_off {gate : GateState} (off : gate.autoExecute = false) :
    AutoExecuteGuarded gate := by
  intro on
  simp [off] at on

theorem AutoExecuteGuarded.congr {gate updated : GateState} (guarded : AutoExecuteGuarded gate)
    (auto : updated.autoExecute = gate.autoExecute)
    (spread : updated.market.spread = gate.market.spread)
    (liquidity : updated.market.liquidity = gate.market.liquidity)
    (readiness : updated.market.profitReadinessStatus = gate.market.profitReadinessStatus)
    (risk : updated.risk = gate.risk) : AutoExecuteGuarded updated := by
  intro on
  obtain ⟨calm, ready, normal, noStop⟩ := guarded (auto ▸ on)
  refine ⟨?_, readiness.trans ready, risk ▸ normal, risk ▸ noStop⟩
  rw [MarketCalm, spread, liquidity]
  exact calm

theorem updateSpread_guarded {gate : GateState} (guarded : AutoExecuteGuarded gate)
    (globalState : Option SpreadGateState)
    (perSymbol : Option (List (String × Option SpreadGateState))) :
    AutoExecuteGuarded (updateSpread gate globalState perSymbol) := by
  suffices kept : AutoExecuteGuarded (updateGlobalSpread gate globalState) from
    kept.congr rfl rfl rfl rfl rfl
  cases globalState with
  | none => exact guarded
  | some spread =>
    by_cases normal : spread.state = "normal"
    · simp only [updateGlobalSpread, normal, ne_eq, not_true_eq_false, if_false]
      intro on
      obtain ⟨calm, ready, notReduceOnly, noStop⟩ := guarded on
      exact ⟨⟨normal, calm.2⟩, ready, notReduceOnly, noStop⟩
    · simp only [updateGlobalSpread, ne_eq, normal, not_false_eq_true, if_true]
      exact autoExecuteGuarded_of_off (setAutoExecute_guarded_off _)

theorem updateLiquidity_guarded {gate : GateState} (guarded : AutoExecuteGuarded gate)
    (globalState : Option LiquidityGateState) :
    AutoExecuteGuarded (updateLiquidity gate globalState) := by
  cases globalState with
  | none => exact guarded
  | some liquidity =>
    by_cases thin : liquidity.state ∈ ["guarded", "halted"]
    · simp only [updateLiquidity, if_pos thin]
      exact autoExecuteGuarded_of_off (setAutoExecute_guarded_off _)
    · simp only [updateLiquidity, if_neg thin]
      intro on
      obtain ⟨calm, ready, notReduceOnly, noStop⟩ := guarded on
      exact ⟨⟨calm.1, thin⟩, ready, notReduceOnly, noStop⟩

theorem replaceRisk_guarded_iff {gate : GateState} (guarded : AutoExecuteGuarded gate)
    (risk : RiskGateState) :
    AutoExecuteGuarded (replaceRisk gate risk) ↔ ClearToReplace gate risk := by
  cases reduce : risk.reduceOnly with
  | true =>
    have off : (replaceRisk gate risk).autoExecute = false := by simp [replaceRisk, reduce]
    simp [ClearToReplace, reduce, autoExecuteGuarded_of_off off]
  | false =>
    have kept : (replaceRisk gate risk).autoExecute = gate.autoExecute := by
      simp [replaceRisk, reduce]
    constructor
    · intro after on _
      exact (after (kept.trans on)).noStop
    · intro clear on
      have before := kept ▸ on
      obtain ⟨calm, ready, -, -⟩ := guarded before
      exact ⟨calm, ready, reduce, clear before reduce⟩

theorem setAutoExecute_guarded_iff (gate : GateState) (boardMode : String) :
    AutoExecuteGuarded (setAutoExecute gate boardMode) ↔
      KeepsGuard gate (.setAutoExecute boardMode) := by
  constructor
  · intro after board ready normal
    have guards := after (by simp [setAutoExecute, board, ready, normal])
    exact ⟨guards.marketCalm, guards.noStop⟩
  · intro clear on
    simp only [setAutoExecute, Bool.and_eq_true, beq_iff_eq, Bool.not_eq_true'] at on
    obtain ⟨⟨board, ready⟩, normal⟩ := on
    obtain ⟨calm, noStop⟩ := clear board ready normal
    exact ⟨calm, ready, normal, noStop⟩

theorem setProfitReadinessStatus_guarded_iff (gate : GateState) (status boardMode : String)
    (allowAutoExecute : Bool) :
    AutoExecuteGuarded (setProfitReadinessStatus gate status boardMode allowAutoExecute) ↔
      KeepsGuard gate (.setProfitReadinessStatus status boardMode allowAutoExecute) := by
  cases allowAutoExecute with
  | false =>
    simp [KeepsGuard, setProfitReadinessStatus, autoExecuteGuarded_of_off]
  | true =>
    constructor
    · intro after _ board ready normal
      have guards := after (by simp [setProfitReadinessStatus, board, ready, normal])
      exact ⟨guards.marketCalm, guards.noStop⟩
    · intro clear on
      simp only [setProfitReadinessStatus, if_true, Bool.and_eq_true, beq_iff_eq,
        Bool.not_eq_true'] at on
      obtain ⟨⟨board, ready⟩, normal⟩ := on
      obtain ⟨calm, noStop⟩ := clear rfl board ready normal
      exact ⟨calm, ready, normal, noStop⟩

theorem step_guarded_iff {gate : GateState} (operation : Operation)
    (guarded : AutoExecuteGuarded gate) :
    AutoExecuteGuarded (step gate operation) ↔ KeepsGuard gate operation := by
  cases operation with
  | updateRisk update => exact replaceRisk_guarded_iff guarded _
  | applyRiskAssessment assessment => exact replaceRisk_guarded_iff guarded _
  | setAutoExecute boardMode => exact setAutoExecute_guarded_iff gate boardMode
  | setProfitReadinessStatus status boardMode allowAutoExecute =>
    exact setProfitReadinessStatus_guarded_iff gate status boardMode allowAutoExecute
  | updateSpread globalState perSymbol =>
    exact iff_of_true (updateSpread_guarded guarded globalState perSymbol) trivial
  | updateLiquidity globalState =>
    exact iff_of_true (updateLiquidity_guarded guarded globalState) trivial
  | updateNews globalState perSymbol =>
    exact iff_of_true (guarded.congr rfl rfl rfl rfl rfl) trivial
  | updateCalendar globalState perSymbol =>
    exact iff_of_true (guarded.congr rfl rfl rfl rfl rfl) trivial
  | updateHuman update => exact iff_of_true (guarded.congr rfl rfl rfl rfl rfl) trivial
  | clearSymbol symbol => exact iff_of_true (guarded.congr rfl rfl rfl rfl rfl) trivial
  | setHashes cfgHash dataHash => exact iff_of_true (guarded.congr rfl rfl rfl rfl rfl) trivial

/-- A run from the default state stays under the auto-execute guard exactly
when each of its operations keeps it. -/
theorem autoExecute_guarded_iff (operations : List Operation) :
    Throughout step AutoExecuteGuarded GateState.default operations ↔
      EachStep step KeepsGuard GateState.default operations :=
  throughout_iff_eachStep AutoExecuteGuarded (fun _ guarded => guarded)
    (fun _ operation guarded => (step_guarded_iff operation guarded).mpr)
    (fun _ operation guarded => (step_guarded_iff operation guarded).mp)
    (autoExecuteGuarded_of_off rfl)

/-- Enabling automatic execution and then recommending a hard stop leaves the
flag on. -/
theorem autoExecute_survives_hard_stop :
    ¬ Throughout step AutoExecuteGuarded GateState.default
      [.setAutoExecute "normal",
        .updateRisk { killSwitchRecommendation := some (some "hard_stop") }] := by
  intro holds
  have final : AutoExecuteGuarded _ := holds.2.2
  exact (final (by decide)).noStop (by decide)

end GateAggregator

end FxToushi.Core
