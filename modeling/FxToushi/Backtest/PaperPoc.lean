import FxToushi.Backtest.EntryFilters
import FxToushi.Data.Dict
import FxToushi.Py.Extended
import Mathlib.Data.List.Sort

namespace FxToushi.Backtest

open Data Py

/-! # The paper simulator

`simulate_paper_poc` from the joined price and feature rows on: the event loop
with its exits, pending entries and streak-based sizing.  The signals the
strategies emit on a bar, the slippage draws and the correlation matrix are
inputs.  An exception ends the run; the state keeps what was done before it.
-/

structure StreakRules where
  lossThreshold : Int := 3
  lossRiskPct : Rat := 1 / 2
  winThreshold : Int := 2
  winStepPct : Rat := 1 / 10
  winCapPct : Rat := 1
  resetOnLoss : Bool := true
deriving Repr, DecidableEq

structure StrategyRiskLimits where
  perTradePct : Rat
  rEffSoft : Option Rat := none
  rEffHard : Option Rat := none
  maxConcurrentOverall : Option Int := none
  maxConcurrentBucket : Option Int := none
deriving Repr, DecidableEq

structure RiskProfileSettings where
  baseEquity : Rat
  basePerTradePct : Rat
  streak : StreakRules := {}
  perStrategyLimits : Dict String StrategyRiskLimits := Dict.empty
  totalRiskSoftPct : Option Rat := none
  totalRiskHardPct : Option Rat := none
  bucketRiskCapPct : Option Rat := none
  rEffSoft : Option Rat := none
  rEffHard : Option Rat := none
  corrGroupRiskCapPct : Option Rat := none
deriving DecidableEq

structure SessionWindow where
  startHour : Int
  endHour : Int
  startValid : 0 ≤ startHour ∧ startHour ≤ 23
  endValid : 0 ≤ endHour ∧ endHour ≤ 23

/-- The arguments of a simulation and what it loads before the event loop.
`normal` gives the value of each slippage draw. -/
structure PocConfig where
  settings : RiskProfileSettings
  primaryStrategy : String
  entryParams : Dict String Mapping := Dict.empty
  sizingParams : Dict String Mapping := Dict.empty
  primaryAtrSlMult : Rat := 1
  spreadPips : Rat := 1 / 100
  slippagePips : Rat := 0
  slippageStd : Rat := 0
  commissionPct : Rat := 0
  fixedRisk : Bool := false
  entryOnNextBar : Bool := true
  session : Option SessionWindow := none
  trailAtrMult : Option { multiple : Rat // 0 < multiple } := none
  targetRMultiple : Rat := 2
  ttlBars : Int := 12
  correlation : Dict (String × String) Rat := Dict.empty
  normal : Nat → Rat → Rat → Rat := fun _ mean _ => mean
  zones : TimeZones := fun _ => none

structure Row where
  openPrice : Option Rat
  high : Rat
  low : Rat
  close : Rat
  atr : Option Rat := none
  trend : Option Rat := none
deriving Repr, DecidableEq

structure PocSignal where
  strategyId : String
  direction : String := "long"
  level : Option Rat := none
  buffer : Option Rat := none
  breakout : Option String := none
  breakoutWidth : Option Rat := none
  qualityScore : Option Rat := none
  filterFlags : Option (List (String × Bool)) := none
deriving Repr, DecidableEq

/-- An event of the stream, with the signals emitted on it.  `ready` says that
every required feature has a value. -/
structure Bar where
  ts : Timestamp
  symbol : String
  row : Row
  ready : Bool := true
  signals : List PocSignal := []
deriving Repr, DecidableEq

structure EntrySpec where
  symbol : String
  signal : PocSignal
  trendValue : Option Rat
  atrValue : Option Rat
  entryBasePrice : Option Rat := none
deriving Repr, DecidableEq

structure Position where
  strategyId : String
  symbol : String
  baseRiskPct : Rat
  direction : String
  entry : Rat
  stop : Rat
  target : Rat
  riskDistance : Rat
  riskAmount : Rat
  openedAt : Timestamp
  expireAt : Timestamp
  signal : PocSignal
  buffer : Option Rat
  trendValue : Rat
  atrValue : Rat
  spreadUsed : Rat
  slippageUsed : Rat
deriving Repr, DecidableEq

structure TradeRecord where
  strategyId : String
  openedAt : Timestamp
  closedAt : Timestamp
  symbol : String
  direction : String
  entry : Rat
  exitPrice : Rat
  stop : Rat
  target : Rat
  rMultiple : Rat
  pnl : Rat
  signal : PocSignal
  buffer : Option Rat
  trendValue : Rat
  atrValue : Rat
  spreadUsed : Rat
  slippageUsed : Rat
deriving Repr, DecidableEq

structure RiskState where
  currentRiskPct : Rat
  consecutiveWins : Int := 0
  consecutiveLosses : Int := 0
deriving Repr, DecidableEq

/-- For the statements only: a position as it was opened, with the equity and
the positions open at that moment. -/
structure Opening where
  position : Position
  equity : Rat
  before : List Position
deriving Repr, DecidableEq

structure PocState where
  equity : Rat
  positions : List Position := []
  pending : List EntrySpec := []
  risk : RiskState
  trades : List TradeRecord := []
  curve : List Rat
  draws : Nat := 0
  openings : List Opening := []
  failure : Option PyError := none
deriving Repr, DecidableEq

def RiskState.updateAfterTrade (state : RiskState) (rMultiple : Rat) (streak : StreakRules)
    (baseRiskPct : Rat) : RiskState :=
  if 0 < rMultiple then
    let wins := state.consecutiveWins + 1
    let steps : Rat := wins - streak.winThreshold + 1
    { consecutiveWins := wins
      consecutiveLosses := 0
      currentRiskPct :=
        if streak.winThreshold ≤ wins then
          min streak.winCapPct (baseRiskPct + steps * streak.winStepPct)
        else baseRiskPct }
  else
    let losses := state.consecutiveLosses + 1
    { consecutiveWins := 0
      consecutiveLosses := losses
      currentRiskPct := if streak.lossThreshold ≤ losses then streak.lossRiskPct else baseRiskPct }

/-! ## Costs -/

def sessionMult (ts : Timestamp) : Rat :=
  if ts.hour < 6 ∨ 22 ≤ ts.hour then 115 / 100 else 1

def symbolMult (symbol : String) : Rat :=
  if upper symbol ∈ ["USDJPY", "EURUSD"] then 1
  else if upper symbol ∈ ["GBPUSD", "EURJPY", "AUDUSD"] then 105 / 100
  else 110 / 100

def spreadFor (symbol : String) (ts : Timestamp) (baseSpread : Rat) : Rat :=
  baseSpread * sessionMult ts * symbolMult symbol

/-- Sample the slippage; without deviation no draw is made. -/
def slippageFor (config : PocConfig) (draws : Nat) (symbol : String) (ts : Timestamp) :
    Rat × Nat :=
  let mean := config.slippagePips * sessionMult ts * symbolMult symbol
  let deviation := config.slippageStd * sessionMult ts * symbolMult symbol
  if deviation ≤ 0 then (mean, draws) else (config.normal draws mean deviation, draws + 1)

def exitWithCost (price : Rat) (direction : String) (spread slippage : Rat) : Rat :=
  if direction = "long" then price - spread - slippage else price + spread + slippage

/-! ## Exits -/

def closePosition (config : PocConfig) (ts : Timestamp) (pos : Position) (exitPrice : Rat)
    (state : PocState) : PocState :=
  let gained := if pos.direction = "long" then exitPrice - pos.entry else pos.entry - exitPrice
  let rMultiple := gained / pos.riskDistance
  let gross := rMultiple * pos.riskAmount
  let pnl := if config.commissionPct ≠ 0 then gross - pos.riskAmount * (config.commissionPct / 100)
    else gross
  { state with
    equity := state.equity + pnl
    risk := state.risk.updateAfterTrade rMultiple config.settings.streak pos.baseRiskPct
    trades := state.trades ++
      [{ strategyId := pos.strategyId, openedAt := pos.openedAt, closedAt := ts
         symbol := pos.symbol, direction := pos.direction, entry := pos.entry
         exitPrice, stop := pos.stop, target := pos.target
         rMultiple := roundTo rMultiple 4, pnl := roundTo pnl 2
         signal := pos.signal, buffer := pos.buffer, trendValue := pos.trendValue
         atrValue := pos.atrValue, spreadUsed := pos.spreadUsed
         slippageUsed := pos.slippageUsed }] }

def trailStop (config : PocConfig) (row : Row) (pos : Position) : Position :=
  match config.trailAtrMult with
  | none => pos
  | some multiple =>
    let atr := row.atr.getD 0
    if 0 < atr then
      let distance := max (5 / 100) (atr * multiple)
      { pos with stop :=
          if pos.direction = "long" then max pos.stop (row.high - distance)
          else min pos.stop (row.low + distance) }
    else pos

/-- The price before costs the position leaves at on the bar: its stop, else
its target, else the close once it has expired. -/
def exitLevel (ts : Timestamp) (row : Row) (pos : Position) : Option Rat :=
  let expired := if pos.expireAt ≤ ts then some row.close else none
  if pos.direction = "long" then
    if row.low ≤ pos.stop then some pos.stop
    else if pos.target ≤ row.high then some pos.target
    else expired
  else
    if pos.stop ≤ row.high then some pos.stop
    else if row.low ≤ pos.target then some pos.target
    else expired

def settle (config : PocConfig) (ts : Timestamp) (pos : Position) (level : Rat)
    (state : PocState) : PocState :=
  let spread := spreadFor pos.symbol ts config.spreadPips
  let (slippage, draws) := slippageFor config state.draws pos.symbol ts
  closePosition config ts pos (exitWithCost level pos.direction spread slippage)
    { state with draws }

/-- The pass over the positions of the bar's symbol: those that leave are
closed one by one, the others stay with their trailed stop. -/
def managePositions (config : PocConfig) (bar : Bar) (state : PocState) :
    List Position → PocState × List Position
  | [] => (state, [])
  | pos :: rest =>
    if pos.symbol = bar.symbol then
      match exitLevel bar.ts bar.row (trailStop config bar.row pos) with
      | some level =>
        managePositions config bar
          (settle config bar.ts (trailStop config bar.row pos) level state) rest
      | none =>
        let managed := managePositions config bar state rest
        (managed.1, trailStop config bar.row pos :: managed.2)
    else
      let managed := managePositions config bar state rest
      (managed.1, pos :: managed.2)

/-! ## Risk limits -/

def currencies (symbol : String) : Option String × Option String :=
  let chars := symbol.toList
  (if 3 ≤ chars.length then some (upper (String.ofList (chars.take 3))) else none,
    if 6 ≤ chars.length then some (upper (String.ofList ((chars.drop 3).take 3))) else none)

def sharesCurrency (symbol other : String) : Bool :=
  let (base, quote) := currencies symbol
  let (otherBase, otherQuote) := currencies other
  (base.isSome && (otherBase == base || otherQuote == base)) ||
    (quote.isSome && (otherBase == quote || otherQuote == quote))

def riskPct (equity : Rat) (positions : List Position) : Rat :=
  (positions.map (fun pos => pos.riskAmount / equity * 100)).sum

/-- `_open_risk_pct_total` and the sums like it, over the positions that count. -/
def openRiskPct (equity : Rat) (positions : List Position) : Except PyError Rat :=
  if positions ≠ [] ∧ equity = 0 then .error .zeroDivision else .ok (riskPct equity positions)

def configured (limit : Option Rat) : Bool := limit.any (· != 0)

def exceeds (limit : Option Rat) (value : Rat) : Bool :=
  limit.any (fun limit => limit != 0 && decide (limit < value))

def orNumber (left right : Option Rat) : Option Rat :=
  match left with
  | none => right
  | some value => if value = 0 then right else some value

def limitsFor (settings : RiskProfileSettings) (strategyId : String) : StrategyRiskLimits :=
  (settings.perStrategyLimits.get? strategyId).getD { perTradePct := settings.basePerTradePct }

def perTradePct (settings : RiskProfileSettings) (strategyId : String) : Rat :=
  let pct := (limitsFor settings strategyId).perTradePct
  if pct = 0 then settings.basePerTradePct else pct

def correlated (config : PocConfig) (symbol : String) (positions : List Position) :
    List Position :=
  positions.filter fun pos =>
    decide (7 / 10 ≤ (config.correlation.get? (symbol, pos.symbol)).getD 0)

def allPass : List (Except PyError Bool) → Except PyError Bool
  | [] => .ok true
  | check :: rest => do if ← check then allPass rest else return false

/-- The limits an entry has to pass.  The total and the bucket are measured
against `equity_value`, whose default was bound when the helpers were defined:
the equity the run started with. -/
def withinLimits (config : PocConfig) (state : PocState) (spec : EntrySpec) (newRiskPct : Rat) :
    Except PyError Bool := do
  let settings := config.settings
  let limits := limitsFor settings spec.signal.strategyId
  let overlapping := state.positions.filter (fun pos => sharesCurrency spec.symbol pos.symbol)
  let group := correlated config spec.symbol state.positions
  let total ← openRiskPct settings.baseEquity state.positions
  let totalAfter := total + newRiskPct
  allPass
    [.ok (!exceeds settings.totalRiskHardPct totalAfter),
      .ok (!exceeds settings.totalRiskSoftPct totalAfter),
      if configured settings.bucketRiskCapPct then do
        let bucket ← openRiskPct settings.baseEquity overlapping
        return !exceeds settings.bucketRiskCapPct (bucket + newRiskPct)
      else .ok true,
      if configured settings.corrGroupRiskCapPct ∧ config.correlation.keys ≠ [] then do
        let grouped ← openRiskPct state.equity group
        return !exceeds settings.corrGroupRiskCapPct (newRiskPct + grouped)
      else .ok true,
      .ok (!exceeds (orNumber limits.rEffHard settings.rEffHard) totalAfter),
      .ok (!exceeds (orNumber limits.rEffSoft settings.rEffSoft) totalAfter),
      .ok (!limits.maxConcurrentOverall.any
        (fun bound => decide (bound ≤ (state.positions.length : Int)))),
      .ok (!limits.maxConcurrentBucket.any
        (fun bound => decide (bound ≤ (overlapping.length : Int))))]

/-! ## Entries -/

def entryBlocked (config : PocConfig) (spec : EntrySpec) (ts : Timestamp) : Bool :=
  let params := (config.entryParams.get? spec.signal.strategyId).getD []
  !hourAllowedBySession ts.hour ((params.get? "session_utc_range").getD .null) ||
    (blockedHoursFromParams params).contains ts.hour ||
    blockedLocalDirectionWindow config.zones ts spec.signal.direction params

/-- The stop of an entry and the buffer behind its level: a multiple of the
range without a level, else the level with its buffer. -/
def stopFor (spec : EntrySpec) (entryPrice atr atrSlMult : Rat) : Option (Rat × Option Rat) :=
  let long := spec.signal.direction = "long"
  match spec.signal.level with
  | none =>
    let stopBuffer := atr * atrSlMult
    if stopBuffer ≤ 0 then none
    else some (if long then entryPrice - stopBuffer else entryPrice + stopBuffer,
      spec.signal.buffer)
  | some level =>
    let given := spec.signal.buffer.getD 0
    let buffer := if given ≤ 0 then max (8 / 100) (atr * (3 / 100)) else given
    some (if long then level - buffer else level + buffer, some buffer)

structure EntryQuote where
  entry : Rat
  stop : Rat
  target : Rat
  riskDistance : Rat
  buffer : Option Rat
  trendValue : Rat
  atrValue : Rat
  spreadUsed : Rat
  slippageUsed : Rat
deriving Repr, DecidableEq

def quoteEntry (config : PocConfig) (ts : Timestamp) (row : Row) (draws : Nat)
    (spec : EntrySpec) (atrSlMult : Rat) : Option EntryQuote :=
  let long := spec.signal.direction = "long"
  let basePrice := spec.entryBasePrice.getD (row.openPrice.getD row.close)
  let atr := spec.atrValue.getD (row.atr.getD 0)
  let spread := spreadFor spec.symbol ts config.spreadPips
  let slippage := (slippageFor config draws spec.symbol ts).1
  let entry := if long then basePrice + spread + slippage else basePrice - spread - slippage
  match stopFor spec entry atr atrSlMult with
  | none => none
  | some (stop, buffer) =>
    let riskDistance := |entry - stop|
    let reward := config.targetRMultiple * riskDistance
    if riskDistance ≤ 0 then none
    else some
      { entry, stop, target := if long then entry + reward else entry - reward, riskDistance
        buffer, trendValue := spec.trendValue.getD (row.trend.getD 0), atrValue := atr
        spreadUsed := spread, slippageUsed := slippage }

def newRiskPct (config : PocConfig) (state : PocState) (spec : EntrySpec) : Rat :=
  min state.risk.currentRiskPct (perTradePct config.settings spec.signal.strategyId)

def positionOf (config : PocConfig) (ts : Timestamp) (state : PocState) (spec : EntrySpec)
    (quote : EntryQuote) (ttlMinutes : Int) : Position :=
  let equityForRisk := if config.fixedRisk then config.settings.baseEquity else state.equity
  { strategyId := spec.signal.strategyId
    symbol := spec.symbol
    baseRiskPct := perTradePct config.settings spec.signal.strategyId
    direction := spec.signal.direction
    entry := quote.entry
    stop := quote.stop
    target := quote.target
    riskDistance := quote.riskDistance
    riskAmount := equityForRisk * (newRiskPct config state spec / 100)
    openedAt := ts
    expireAt := ts + Timestamp.fromMinutes (config.ttlBars * ttlMinutes)
    signal := spec.signal
    buffer := quote.buffer
    trendValue := quote.trendValue
    atrValue := quote.atrValue
    spreadUsed := quote.spreadUsed
    slippageUsed := quote.slippageUsed }

def openPosition (state : PocState) (position : Position) : PocState :=
  { state with
    positions := state.positions ++ [position]
    openings := state.openings ++
      [{ position, equity := state.equity, before := state.positions }] }

def attemptOpenPosition (config : PocConfig) (ts : Timestamp) (row : Row) (state : PocState)
    (spec : EntrySpec) : Except PyError PocState := do
  let entryParams := (config.entryParams.get? spec.signal.strategyId).getD []
  let sizingParams := (config.sizingParams.get? spec.signal.strategyId).getD []
  let atrSlMult ← ((sizingParams.get? "atr_sl_mult").map Value.toRat).getD
    (.ok config.primaryAtrSlMult)
  let ttlMinutes ← timeframeToMinutes ((entryParams.get? "timeframe").getD (.str "5m")).text
  if entryBlocked config spec ts then return state
  let drawn := { state with draws := (slippageFor config state.draws spec.symbol ts).2 }
  match quoteEntry config ts row state.draws spec atrSlMult with
  | none => return drawn
  | some quote =>
    let passed ← withinLimits config drawn spec (newRiskPct config drawn spec)
    if passed then
      return openPosition drawn (positionOf config ts drawn spec quote ttlMinutes)
    else return drawn

/-- Attempt the entries one after the other, up to an exception. -/
def attemptAll (config : PocConfig) (bar : Bar) (state : PocState) : List EntrySpec → PocState
  | [] => state
  | spec :: rest =>
    match attemptOpenPosition config bar.ts bar.row state spec with
    | .ok next => attemptAll config bar next rest
    | .error error => { state with failure := some error }

/-! ## The event loop -/

def outsideSession (config : PocConfig) (ts : Timestamp) : Bool :=
  match config.session with
  | none => false
  | some session => !hourInRange ts.hour session.startHour session.endHour

def specOf (bar : Bar) (signal : PocSignal) : EntrySpec where
  symbol := bar.symbol
  signal
  trendValue := some (bar.row.trend.getD 0)
  atrValue := some (bar.row.atr.getD 0)

/-- `dd_curve.append(equity)`, which an exception skips. -/
def markCurve (state : PocState) : PocState :=
  if state.failure.isSome then state else { state with curve := state.curve ++ [state.equity] }

def exitPass (config : PocConfig) (state : PocState) (bar : Bar) : PocState :=
  let managed := managePositions config bar state state.positions
  { managed.1 with positions := managed.2 }

def drainPending (config : PocConfig) (state : PocState) (bar : Bar) : PocState :=
  let others := state.pending.filter (fun spec => decide (spec.symbol ≠ bar.symbol))
  attemptAll config bar { state with pending := others }
    (state.pending.filter (fun spec => decide (spec.symbol = bar.symbol)))

def takeSignals (config : PocConfig) (state : PocState) (bar : Bar) : PocState :=
  let specs := bar.signals.map (specOf bar)
  if config.entryOnNextBar then { state with pending := state.pending ++ specs }
  else attemptAll config bar state
    (specs.map (fun spec => { spec with entryBasePrice := some bar.row.close }))

def stepBar (config : PocConfig) (state : PocState) (bar : Bar) : PocState :=
  if state.failure.isSome then state
  else
    let managed := exitPass config state bar
    if outsideSession config bar.ts then markCurve managed
    else
      let drained := drainPending config managed bar
      if drained.failure.isSome ∨ bar.ready = false then markCurve drained
      else markCurve (takeSignals config drained bar)

def lastClose (bars : List Bar) (symbol : String) : Rat :=
  ((bars.filter (fun bar => bar.symbol == symbol)).getLast?.map (·.row.close)).getD 0

def closeResidual (config : PocConfig) (bars : List Bar) (lastTs : Timestamp) (state : PocState) :
    PocState :=
  let settled := state.positions.foldl
    (fun state pos => settle config lastTs pos (lastClose bars pos.symbol) state) state
  { settled with positions := [], curve := settled.curve ++ [settled.equity] }

def initialState (config : PocConfig) : PocState where
  equity := config.settings.baseEquity
  risk := { currentRiskPct := perTradePct config.settings config.primaryStrategy }
  curve := [config.settings.baseEquity]

def eventStream (bars : List Bar) : List Bar :=
  bars.insertionSort (fun left right => left.ts ≤ right.ts)

def simulatePaperPoc (config : PocConfig) (bars : List Bar) : PocState :=
  let events := eventStream bars
  let looped := events.foldl (stepBar config) (initialState config)
  match events.getLast? with
  | some last =>
    if looped.failure.isSome ∨ looped.positions = [] then looped
    else closeResidual config events last.ts looped
  | none => looped

end FxToushi.Backtest
