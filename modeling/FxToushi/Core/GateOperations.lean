import FxToushi.Risk.GateUpdate

namespace FxToushi.Core.GateDocument

open Data Py Risk

/-! # The aggregator's operations on documents

The operations of the aggregator, on gates whose words and reasons are any values.
`none` stands for an argument that was left at `_UNSET`.
-/

variable {Moment : Type}

/-! ## Blocks -/

abbrev Blocks (Moment : Type) := List (String × GateBlockState Moment)

def GateBlockState.isEmpty (block : GateBlockState Moment) : Bool :=
  block.news.isNone && block.calendar.isNone && block.spread.isNone

/-- `per_symbol.pop(symbol, None)`. -/
def popSymbol (perSymbol : Blocks Moment) (symbol : String) : Blocks Moment :=
  perSymbol.filter (fun entry => decide (entry.1 ≠ symbol))

def assignSymbolComponent {Component : Type} (perSymbol : Blocks Moment)
    (assign : GateBlockState Moment → Option Component → GateBlockState Moment)
    (symbol : String) : Option Component → Blocks Moment
  | none =>
    match Dict.lookup symbol perSymbol with
    | none => perSymbol
    | some block =>
      let cleared := assign block none
      if cleared.isEmpty then popSymbol perSymbol symbol
      else Dict.assign symbol cleared perSymbol
  | some component =>
    let block := (Dict.lookup symbol perSymbol).getD {}
    Dict.assign symbol (assign block (some component)) perSymbol

/-- The updates of a mapping from symbols, one after another. -/
def assignSymbols {Component : Type} (perSymbol : Blocks Moment)
    (assign : GateBlockState Moment → Option Component → GateBlockState Moment)
    (updates : Option (List (String × Option Component))) : Blocks Moment :=
  (updates.getD []).foldl
    (fun blocks update => assignSymbolComponent blocks assign update.1 update.2) perSymbol

def setNews (block : GateBlockState Moment) (news : Option (NewsGateState Moment)) :
    GateBlockState Moment :=
  { block with news }

def setCalendar (block : GateBlockState Moment) (calendar : Option CalendarGateState) :
    GateBlockState Moment :=
  { block with calendar }

def setSpread (block : GateBlockState Moment) (spread : Option (SpreadGateState Moment)) :
    GateBlockState Moment :=
  { block with spread }

/-! ## Operations -/

def updateNews (gate : GateState Moment) (globalState : Option (NewsGateState Moment))
    (perSymbol : Option (List (String × Option (NewsGateState Moment)))) : GateState Moment :=
  { gate with market := { gate.market with
    news := globalState.getD gate.market.news
    perSymbol := assignSymbols gate.market.perSymbol setNews perSymbol } }

def updateCalendar (gate : GateState Moment) (globalState : Option CalendarGateState)
    (perSymbol : Option (List (String × Option CalendarGateState))) : GateState Moment :=
  { gate with market := { gate.market with
    calendar := globalState.getD gate.market.calendar
    perSymbol := assignSymbols gate.market.perSymbol setCalendar perSymbol } }

def updateGlobalSpread (gate : GateState Moment) :
    Option (SpreadGateState Moment) → GateState Moment
  | none => gate
  | some spread =>
    let updated := { gate with market := { gate.market with spread } }
    if spread.state.isText "normal" then updated else setAutoExecute updated "guarded"

def updateSpread (gate : GateState Moment) (globalState : Option (SpreadGateState Moment))
    (perSymbol : Option (List (String × Option (SpreadGateState Moment)))) : GateState Moment :=
  let updated := updateGlobalSpread gate globalState
  { updated with market := { updated.market with
    perSymbol := assignSymbols updated.market.perSymbol setSpread perSymbol } }

def updateGlobalLiquidity (gate : GateState Moment) :
    Option (LiquidityGateState Moment) → GateState Moment
  | none => gate
  | some liquidity => updateLiquidity gate liquidity

structure RiskUpdate where
  reduceOnly : Option Bool := none
  reduceOnlyReason : Option Value := none
  killSwitchRecommendation : Option Value := none
  killSwitchReason : Option Value := none

def RiskUpdate.apply (update : RiskUpdate) (risk : RiskGateState) : RiskGateState where
  reduceOnly := update.reduceOnly.getD risk.reduceOnly
  reduceOnlyReason := update.reduceOnlyReason.getD risk.reduceOnlyReason
  killSwitchRecommendation := update.killSwitchRecommendation.getD risk.killSwitchRecommendation
  killSwitchReason := update.killSwitchReason.getD risk.killSwitchReason

def replaceRisk (gate : GateState Moment) (risk : RiskGateState) : GateState Moment :=
  { gate with risk, autoExecute := if risk.reduceOnly then false else gate.autoExecute }

def updateRisk (gate : GateState Moment) (update : RiskUpdate) : GateState Moment :=
  replaceRisk gate (update.apply gate.risk)

/-- `apply_risk_assessment`, which takes the risk state of the assessment. -/
def applyRiskAssessment (gate : GateState Moment) (riskState : RiskGateState) : GateState Moment :=
  replaceRisk gate riskState

structure HumanUpdate (Moment : Type) where
  doubleEntryRequired : Option Bool := none
  requiredRoles : Option (List Value) := none
  acknowledgedRoles : Option (List Value) := none
  ackDeadline : Option (Option Moment) := none
  manualCommentRequired : Option Bool := none
  commentMinLength : Option Int := none

def HumanUpdate.apply (update : HumanUpdate Moment) (human : HumanGateState Moment) :
    HumanGateState Moment where
  doubleEntryRequired := update.doubleEntryRequired.getD human.doubleEntryRequired
  requiredRoles := update.requiredRoles.getD human.requiredRoles
  acknowledgedRoles := update.acknowledgedRoles.getD human.acknowledgedRoles
  ackDeadline := update.ackDeadline.getD human.ackDeadline
  manualCommentRequired := update.manualCommentRequired.getD human.manualCommentRequired
  commentMinLength := update.commentMinLength.getD human.commentMinLength

def updateHuman (gate : GateState Moment) (update : HumanUpdate Moment) : GateState Moment :=
  { gate with human := update.apply gate.human }

def clearSymbol (gate : GateState Moment) (symbol : String) : GateState Moment :=
  { gate with market := { gate.market with perSymbol := popSymbol gate.market.perSymbol symbol } }

def setProfitReadinessStatus (gate : GateState Moment) (status : Value) (boardMode : String)
    (allowAutoExecute : Bool) : GateState Moment :=
  let updated := { gate with market := { gate.market with profitReadinessStatus := status } }
  if allowAutoExecute then
    { updated with
      autoExecute := lower boardMode == "normal" && status.isText "ok" && !updated.risk.reduceOnly }
  else { updated with autoExecute := false }

/-- `set_schema_version`; no value has the attributes of a manifest. -/
def setSchemaVersion (gate : GateState Moment) (version : Value) : GateState Moment :=
  { gate with schemaVersion := version }

/-! ## Writing -/

def cfgResolved (env : GateUpdate.Environment) (cfgHash : Option String) : Value :=
  if truthy cfgHash then ofText cfgHash else GateUpdate.resolveCfg env

def dataResolved (env : GateUpdate.Environment) (dataHash : Option String) : Except PyError Value :=
  if truthy dataHash then .ok (ofText dataHash) else GateUpdate.resolveData env

/-- `_resolve_hashes`. -/
def resolveHashes (env : GateUpdate.Environment) (cfgHash dataHash : Option String) :
    Except PyError (Value × Value) := do
  let data ← dataResolved env dataHash
  return (cfgResolved env cfgHash, data)

/-- `persist_latest`, with the state and the file after it; `dumps` writes with the
indent of the call. -/
def persistLatest (iso : IsoFormat Moment) (dumps : Value → List Char)
    (env : GateUpdate.Environment) (gate : GateState Moment) (cfgHash dataHash : Option String) :
    Except PyError (GateState Moment × Brokers.JsonFile) := do
  let (cfg, data) ← resolveHashes env cfgHash dataHash
  let state := setHashes gate cfg data
  return (state, .text (dumps (Json.sortKeys (state.toDict iso))))

inductive Operation (Moment : Type) where
  | updateNews (globalState : Option (NewsGateState Moment))
      (perSymbol : Option (List (String × Option (NewsGateState Moment))))
  | updateCalendar (globalState : Option CalendarGateState)
      (perSymbol : Option (List (String × Option CalendarGateState)))
  | updateSpread (globalState : Option (SpreadGateState Moment))
      (perSymbol : Option (List (String × Option (SpreadGateState Moment))))
  | updateLiquidity (globalState : Option (LiquidityGateState Moment))
  | updateRisk (update : RiskUpdate)
  | applyRiskAssessment (riskState : RiskGateState)
  | updateHuman (update : HumanUpdate Moment)
  | clearSymbol (symbol : String)
  | setProfitReadinessStatus (status : Value) (boardMode : String) (allowAutoExecute : Bool)
  | setAutoExecute (boardMode : String)
  | setSchemaVersion (version : Value)
  | setHashes (cfgHash dataHash : Value)
  | persistLatest (env : GateUpdate.Environment) (cfgHash dataHash : Option String)

/-- The state after an operation; hashes that cannot be resolved change nothing. -/
def step (gate : GateState Moment) : Operation Moment → GateState Moment
  | .updateNews globalState perSymbol => updateNews gate globalState perSymbol
  | .updateCalendar globalState perSymbol => updateCalendar gate globalState perSymbol
  | .updateSpread globalState perSymbol => updateSpread gate globalState perSymbol
  | .updateLiquidity globalState => updateGlobalLiquidity gate globalState
  | .updateRisk update => updateRisk gate update
  | .applyRiskAssessment riskState => applyRiskAssessment gate riskState
  | .updateHuman update => updateHuman gate update
  | .clearSymbol symbol => clearSymbol gate symbol
  | .setProfitReadinessStatus status boardMode allowAutoExecute =>
    setProfitReadinessStatus gate status boardMode allowAutoExecute
  | .setAutoExecute boardMode => setAutoExecute gate boardMode
  | .setSchemaVersion version => setSchemaVersion gate version
  | .setHashes cfgHash dataHash => setHashes gate cfgHash dataHash
  | .persistLatest env cfgHash dataHash =>
    match resolveHashes env cfgHash dataHash with
    | .ok (cfg, data) => setHashes gate cfg data
    | .error _ => gate

/-! ## Operations in memory -/

section InMemory

def ofRiskUpdate (update : GateAggregator.RiskUpdate) : RiskUpdate where
  reduceOnly := update.reduceOnly
  reduceOnlyReason := update.reduceOnlyReason.map ofText
  killSwitchRecommendation := update.killSwitchRecommendation.map ofText
  killSwitchReason := update.killSwitchReason.map ofText

def ofHumanUpdate (update : GateAggregator.HumanUpdate) : HumanUpdate Timestamp where
  doubleEntryRequired := update.doubleEntryRequired
  requiredRoles := update.requiredRoles.map (List.map .str)
  acknowledgedRoles := update.acknowledgedRoles.map (List.map .str)
  ackDeadline := update.ackDeadline
  manualCommentRequired := update.manualCommentRequired
  commentMinLength := update.commentMinLength

def ofUpdates {Component Image : Type} (image : Component → Image)
    (updates : Option (List (String × Option Component))) :
    Option (List (String × Option Image)) :=
  updates.map (List.map fun update => (update.1, update.2.map image))

def ofOperation : GateAggregator.Operation → Operation Timestamp
  | .updateNews globalState perSymbol =>
    .updateNews (globalState.map ofNews) (ofUpdates ofNews perSymbol)
  | .updateCalendar globalState perSymbol =>
    .updateCalendar (globalState.map ofCalendar) (ofUpdates ofCalendar perSymbol)
  | .updateSpread globalState perSymbol =>
    .updateSpread (globalState.map ofSpread) (ofUpdates ofSpread perSymbol)
  | .updateLiquidity globalState => .updateLiquidity (globalState.map ofLiquidity)
  | .updateRisk update => .updateRisk (ofRiskUpdate update)
  | .applyRiskAssessment assessment => .applyRiskAssessment (ofRisk assessment.riskState)
  | .updateHuman update => .updateHuman (ofHumanUpdate update)
  | .setProfitReadinessStatus status boardMode allowAutoExecute =>
    .setProfitReadinessStatus (.str status) boardMode allowAutoExecute
  | .setAutoExecute boardMode => .setAutoExecute boardMode
  | .clearSymbol symbol => .clearSymbol symbol
  | .setHashes cfgHash dataHash => .setHashes (ofText cfgHash) (ofText dataHash)

def ofBlocks (perSymbol : Dict String Core.GateBlockState) : Blocks Timestamp :=
  perSymbol.entries.map (fun entry => (entry.1, ofBlock entry.2))

theorem isEmpty_ofBlock (block : Core.GateBlockState) :
    (ofBlock block).isEmpty = block.isEmpty := by
  obtain ⟨news, calendar, spread⟩ := block
  cases news <;> cases calendar <;> cases spread <;> rfl

theorem popSymbol_ofBlocks (perSymbol : Dict String Core.GateBlockState) (symbol : String) :
    popSymbol (ofBlocks perSymbol) symbol = ofBlocks (perSymbol.pop symbol) := by
  rw [popSymbol, ofBlocks, List.filter_map]
  rfl

section Components

variable {Component Image : Type} (image : Component → Image)
  (assign : Core.GateBlockState → Option Component → Core.GateBlockState)
  (assignImage : GateBlockState Timestamp → Option Image → GateBlockState Timestamp)
  (commutes : ∀ block value, assignImage (ofBlock block) (Option.map image value) =
    ofBlock (assign block value))

include commutes

theorem assignSymbolComponent_ofBlocks (perSymbol : Dict String Core.GateBlockState)
    (symbol : String) (value : Option Component) :
    assignSymbolComponent (ofBlocks perSymbol) assignImage symbol (value.map image) =
      ofBlocks (GateAggregator.assignSymbolComponent perSymbol assign symbol value) := by
  have found : Dict.lookup symbol (ofBlocks perSymbol) = (perSymbol.get? symbol).map ofBlock :=
    Dict.lookup_mapValues symbol ofBlock perSymbol.entries
  have assigned (block : Core.GateBlockState) :
      Dict.assign symbol (ofBlock block) (ofBlocks perSymbol) =
        ofBlocks (perSymbol.set symbol block) :=
    (Dict.assign_map symbol block ofBlock perSymbol.entries).symm
  cases value with
  | none =>
    rw [Option.map_none, assignSymbolComponent, GateAggregator.assignSymbolComponent, found]
    cases perSymbol.get? symbol with
    | none => rfl
    | some block =>
      have cleared : assignImage (ofBlock block) none = ofBlock (assign block none) :=
        commutes block none
      simp only [Option.map_some, cleared, isEmpty_ofBlock, popSymbol_ofBlocks, assigned]
      split <;> rfl
  | some component =>
    have block : ((perSymbol.get? symbol).map ofBlock).getD {} =
        ofBlock ((perSymbol.get? symbol).getD {}) := by
      cases perSymbol.get? symbol <;> rfl
    rw [Option.map_some, assignSymbolComponent, GateAggregator.assignSymbolComponent, found,
      block, ← Option.map_some, commutes, assigned]

theorem assignSymbols_ofBlocks (perSymbol : Dict String Core.GateBlockState)
    (updates : Option (List (String × Option Component))) :
    assignSymbols (ofBlocks perSymbol) assignImage (ofUpdates image updates) =
      ofBlocks (GateAggregator.assignSymbols perSymbol assign updates) := by
  cases updates with
  | none => rfl
  | some updates =>
    rw [assignSymbols, GateAggregator.assignSymbols, ofUpdates, Option.map_some, Option.getD_some,
      Option.getD_some]
    induction updates generalizing perSymbol with
    | nil => rfl
    | cons update rest ih =>
      rw [List.map_cons, List.foldl_cons, List.foldl_cons,
        assignSymbolComponent_ofBlocks image assign assignImage commutes, ih]

end Components

def withBlocks (gate : GateState Moment) (perSymbol : Blocks Moment) : GateState Moment :=
  { gate with market := { gate.market with perSymbol } }

theorem updateGlobalSpread_ofGate (gate : Core.GateState)
    (globalState : Option Core.SpreadGateState) :
    updateGlobalSpread (ofGate gate) (globalState.map ofSpread) =
      ofGate (GateAggregator.updateGlobalSpread gate globalState) := by
  cases globalState with
  | none => rfl
  | some spread =>
    rw [Option.map_some, updateGlobalSpread, GateAggregator.updateGlobalSpread]
    by_cases normal : spread.state = "normal"
    · have same : (ofSpread spread).state.isText "normal" = true := by
        simpa [ofSpread, Value.isText] using normal
      rw [if_neg (not_not.mpr normal), if_pos same]
      rfl
    · have same : ¬ (ofSpread spread).state.isText "normal" = true := by
        simpa [ofSpread, Value.isText] using normal
      rw [if_pos normal, if_neg same]
      rfl

theorem replaceRisk_ofGate (gate : Core.GateState) (risk : Core.RiskGateState) :
    replaceRisk (ofGate gate) (ofRisk risk) = ofGate (GateAggregator.replaceRisk gate risk) := rfl

theorem apply_ofRiskUpdate (update : GateAggregator.RiskUpdate) (risk : Core.RiskGateState) :
    (ofRiskUpdate update).apply (ofRisk risk) = ofRisk (update.apply risk) := by
  obtain ⟨reduceOnly, reason, recommendation, stopReason⟩ := update
  cases reason <;> cases recommendation <;> cases stopReason <;> rfl

/-- An operation on a gate in memory is the operation on its document. -/
theorem step_ofGate (gate : Core.GateState) (operation : GateAggregator.Operation) :
    step (ofGate gate) (ofOperation operation) = ofGate (GateAggregator.step gate operation) := by
  cases operation with
  | updateNews globalState perSymbol =>
    have blocks := assignSymbols_ofBlocks ofNews (fun block news => { block with news }) setNews
      (fun _ _ => rfl) gate.market.perSymbol perSymbol
    cases globalState with
    | none => exact congrArg (withBlocks (ofGate gate)) blocks
    | some news =>
      exact congrArg (withBlocks (updateNews (ofGate gate) (some (ofNews news)) none)) blocks
  | updateCalendar globalState perSymbol =>
    have blocks := assignSymbols_ofBlocks ofCalendar (fun block calendar => { block with calendar })
      setCalendar (fun _ _ => rfl) gate.market.perSymbol perSymbol
    cases globalState with
    | none => exact congrArg (withBlocks (ofGate gate)) blocks
    | some calendar =>
      exact congrArg (withBlocks (updateCalendar (ofGate gate) (some (ofCalendar calendar)) none))
        blocks
  | updateSpread globalState perSymbol =>
    have blocks := assignSymbols_ofBlocks ofSpread (fun block spread => { block with spread })
      setSpread (fun _ _ => rfl)
      (GateAggregator.updateGlobalSpread gate globalState).market.perSymbol perSymbol
    rw [ofOperation, step, updateSpread, updateGlobalSpread_ofGate]
    exact congrArg (withBlocks (ofGate (GateAggregator.updateGlobalSpread gate globalState))) blocks
  | updateLiquidity globalState =>
    cases globalState with
    | none => rfl
    | some liquidity => exact updateLiquidity_ofGate gate liquidity
  | updateRisk update =>
    refine (congrArg (replaceRisk (ofGate gate)) (apply_ofRiskUpdate update gate.risk)).trans ?_
    exact replaceRisk_ofGate gate (update.apply gate.risk)
  | applyRiskAssessment assessment => exact replaceRisk_ofGate gate assessment.riskState
  | updateHuman update =>
    obtain ⟨doubleEntry, required, acknowledged, deadline, manual, length⟩ := update
    cases required <;> cases acknowledged <;> rfl
  | clearSymbol symbol =>
    exact congrArg (withBlocks (ofGate gate)) (popSymbol_ofBlocks gate.market.perSymbol symbol)
  | setProfitReadinessStatus status boardMode allowAutoExecute => cases allowAutoExecute <;> rfl
  | setAutoExecute boardMode => exact setAutoExecute_ofGate gate boardMode
  | setHashes cfgHash dataHash => exact setHashes_ofGate gate cfgHash dataHash

end InMemory

end FxToushi.Core.GateDocument
