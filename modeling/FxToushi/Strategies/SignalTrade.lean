import FxToushi.Py.ExtendedSteps
import FxToushi.Strategies.Engine

namespace FxToushi.Strategies.SignalTrade

open Data Py

/-! # The trade of a signal

The prices of a trade come from the signal, or from a price, the costs and the
average range; the trade goes to the allocator with what else the signal says.
-/

inductive TradeError where
  | python (error : PyError)
  | overflow
deriving Repr, DecidableEq

/-- What `_iso_or_none` tells apart: a text, a time, and anything else. -/
inductive Stamp where
  | missing
  | text (text : String)
  | moment (moment : Timestamp)
deriving Repr, DecidableEq

/-- The attributes of a signal, with `null` for one that is missing. -/
structure TradeSignal extends AllocationSignal where
  level : Value := .null
  buffer : Value := .null
  entry : Value := .null
  stop : Value := .null
  target : Value := .null
  price : Value := .null
  expireAt : Stamp := .missing
  timestamp : Stamp := .missing
  ttlBars : Value := .null
  entryTimeframeMinutes : Value := .null
  targetRMultiple : Value := .null
  spreadPips : Value := .null
  slippagePips : Value := .null
  slippageStd : Value := .null
  trailAtrMult : Value := .null
  rationale : Value := .null
  breakout : Value := .null
  badges : Value := .null
  sessionTag : Value := .null
  atrValue : Value := .null
  trendValue : Value := .null
  costRatio : Value := .null

/-! ## Reading -/

/-- `_coerce_float`; an integer has a float unless it rounds to 2 to the 1024. -/
def coerceFloat : Value → Except TradeError (Option Extended)
  | .bool value => .ok (some (.finite (if value then 1 else 0)))
  | .int value =>
    if value.natAbs < 2 ^ 1024 - 2 ^ 970 then .ok (some (.finite value)) else .error .overflow
  | .float value text => .ok (some (.read value text))
  | .str text => .ok (floatOfText text)
  | _ => .ok none

/-- `int(value)`. -/
def intOf : Value → Except TradeError Int
  | .float value text =>
    match Extended.read value text with
    | .finite number => .ok (truncate number)
    | .infinite _ => .error .overflow
    | .nan => .error (.python .valueError)
  | value => value.toInt.mapError .python

/-- `first or second`, where the second is read only then. -/
def orFloat (first : Option Extended) (second : Except TradeError (Option Extended)) :
    Except TradeError (Option Extended) :=
  if first.any (fun number => number != 0) then .ok first else second

/-- `_coerce_float(first) or _coerce_float(second) or default`. -/
def floatOr (first second : Value) (default : Extended) : Except TradeError Extended := do
  let given ← coerceFloat first
  let found ← orFloat given (coerceFloat second)
  return if found.any (fun number => number != 0) then found.getD default else default

def minutesOf (token : String) (unit default : Int) : Int :=
  match parseInt? (String.ofList token.toList.dropLast) with
  | some count => max 1 count * unit
  | none => default

def timeframeToMinutes (value : String) : Int :=
  let token := lower (strip (if value = "" then "5m" else value))
  match token.toList.getLast? with
  | some 'm' => minutesOf token 1 5
  | some 'h' => minutesOf token 60 60
  | some 'd' => minutesOf token 1440 1440
  | _ => 5

def latestFeature (context : StrategyContext) (symbol feature timeframe : String) :
    Except TradeError (Option Extended) :=
  match context.features.store symbol feature timeframe with
  | none => .ok none
  | some value => coerceFloat value

def configSection (context : StrategyContext) (name : String) : Mapping :=
  ((context.parameters.get? name).getD .null).asMapping

/-- The first moment of the year 1 and the last of the year 9999. -/
def isDatetime (moment : Timestamp) : Bool :=
  decide (-62135596800000000 ≤ moment ∧ moment ≤ 253402300799999999)

def isoOrNone (isoformat : Timestamp → String) : Stamp → Option String
  | .missing => none
  | .text text => some text
  | .moment moment => some (isoformat moment)

/-- The symbol that features are looked up by. -/
def featureSymbol (signal : TradeSignal) : Option String :=
  match signal.symbol with
  | .str text => if strip text = "" then none else some (upper text)
  | _ => none

/-! ## Prices -/

inductive Side where
  | long
  | short
deriving Repr, DecidableEq

namespace Side

def text : Side → String
  | long => "long"
  | short => "short"

/-- The price a step further in favour of the trade. -/
def ahead : Side → Extended → Extended → Extended
  | long, price, step => price + step
  | short, price, step => price - step

/-- The price a step further against the trade. -/
def behind : Side → Extended → Extended → Extended
  | long, price, step => price - step
  | short, price, step => price + step

end Side

def tradeSide (signal : TradeSignal) : Option Side :=
  match signal.direction with
  | .str text =>
    if lower text = "long" then some .long
    else if lower text = "short" then some .short
    else none
  | _ => none

/-- `atr_value or 0.08`, which is never nothing. -/
def orDefaultRange (found : Option Extended) : { range : Extended // range ≠ 0 } :=
  let range := found.getD 0
  if given : range ≠ 0 then ⟨range, given⟩ else ⟨.finite (2 / 25), by decide +kernel⟩

/-- What the signal, the parameters and the features give for a trade. -/
structure TradeInputs where
  level : Option Extended
  buffer : Option Extended
  entry : Option Extended
  stop : Option Extended
  target : Option Extended
  expireAt : Option String
  ttlBars : Int
  entryMinutes : Int
  targetRMultiple : Extended
  atrSlMult : Extended
  spreadPips : Extended
  slippagePips : Extended
  slippageStd : Extended
  trailAtrMult : Option Extended
  closePrice : Option Extended
  atrValue : { range : Extended // range ≠ 0 }

/-- `close_price or close`, and the average range, which are looked up by symbol. -/
def readMarket (signal : TradeSignal) (context : StrategyContext) (price : Option Extended) :
    Except TradeError (Option Extended × Option Extended) :=
  match featureSymbol signal with
  | none => .ok (price, none)
  | some symbol => do
      let closePrice ← orFloat price (latestFeature context symbol "close_5m" "5m")
      let atrValue ← latestFeature context symbol "atr_14_1h" "1h"
      return (closePrice, atrValue)

def readInputs (isoformat : Timestamp → String) (signal : TradeSignal)
    (context : StrategyContext) : Except TradeError TradeInputs := do
  let entryCfg := configSection context "entry"
  let sizingCfg := configSection context "sizing"
  let executionCfg := configSection context "execution"
  let level ← coerceFloat signal.level
  let buffer ← coerceFloat signal.buffer
  let entry ← coerceFloat signal.entry
  let stop ← coerceFloat signal.stop
  let target ← coerceFloat signal.target
  let ttlBars ← intOf (orValue (orValue ((sizingCfg.get? "ttl_bars").getD .null) signal.ttlBars)
    (.int 0))
  let timeframe := ((entryCfg.get? "timeframe").getD (.str "5m")).text
  let entryMinutes ← intOf (orValue signal.entryTimeframeMinutes
      (.int (timeframeToMinutes timeframe)))
  let targetRMultiple ← floatOr signal.targetRMultiple
      ((sizingCfg.get? "tp_r_multiple").getD .null) 1
  let atrSlMult ← floatOr ((sizingCfg.get? "atr_sl_mult").getD .null) .null 1
  let spreadPips ← floatOr signal.spreadPips ((executionCfg.get? "spread").getD .null) 0
  let slippagePips ← floatOr signal.slippagePips ((executionCfg.get? "slippage").getD .null) 0
  let slippageStd ← floatOr signal.slippageStd ((executionCfg.get? "slippage_std").getD .null) 0
  let trailAtrMult ← coerceFloat signal.trailAtrMult
  let trailAtrMult ← orFloat trailAtrMult (coerceFloat ((sizingCfg.get? "atr_sl_mult").getD .null))
  let price ← coerceFloat signal.price
  let (closePrice, atrValue) ← readMarket signal context price
  return {
    level, buffer, entry, stop, target
    expireAt := isoOrNone isoformat signal.expireAt
    ttlBars := if ttlBars ≤ 0 then 1 else ttlBars
    entryMinutes := max 1 entryMinutes
    targetRMultiple, atrSlMult, spreadPips, slippagePips, slippageStd, trailAtrMult, closePrice
    atrValue := orDefaultRange atrValue }

namespace TradeInputs

variable (inputs : TradeInputs)

def entryPrice (side : Option Side) : Option Extended :=
  match inputs.entry, inputs.closePrice, side with
  | none, some closePrice, some side =>
    some (side.ahead (side.ahead closePrice inputs.spreadPips) inputs.slippagePips)
  | entry, _, _ => entry

/-- The range, between two distances that go by the price. -/
def clampedDistance (closePrice : Extended) : Extended :=
  let raw := (inputs.atrValue.val * Extended.greater (.finite (1 / 10)) inputs.atrSlMult).greater 0
  let minDistance := (closePrice * .finite (1 / 5000)).greater (.finite (1 / 2000))
  let maxDistance := (closePrice * .finite (1 / 50)).greater minDistance
  (raw.greater minDistance).lesser maxDistance

def riskDistance (side : Option Side) : Option Extended :=
  match inputs.entryPrice side, inputs.stop with
  | some entry, some stop => some (entry - stop).abs
  | _, _ => inputs.closePrice.map inputs.clampedDistance

def stopPrice (side : Option Side) : Option Extended :=
  match inputs.stop, inputs.entryPrice side, inputs.riskDistance side, side with
  | none, some entry, some riskDistance, some side => some (side.behind entry riskDistance)
  | stop, _, _, _ => stop

def targetPrice (side : Option Side) : Option Extended :=
  match inputs.target, inputs.entryPrice side, inputs.riskDistance side, side with
  | none, some entry, some riskDistance, some side =>
    some (side.ahead entry (inputs.targetRMultiple * riskDistance))
  | target, _, _, _ => target

/-- The given time, or the entry bars after now. -/
def expiry (isoformat : Timestamp → String) (now : Timestamp) : Except TradeError String :=
  match inputs.expireAt with
  | some expireAt => .ok expireAt
  | none =>
    let moment := now + Timestamp.fromMinutes (inputs.entryMinutes * inputs.ttlBars)
    if isDatetime moment then .ok (isoformat moment) else .error .overflow

end TradeInputs

structure TradeFields where
  entry : Option Extended
  stop : Option Extended
  target : Option Extended
  level : Option Extended
  buffer : Option Extended
  expireAt : String
  ttlBars : Int
  entryTimeframeMinutes : Int
  targetRMultiple : Extended
  trailAtrMult : Option Extended
  spreadPips : Extended
  slippagePips : Extended
  slippageStd : Extended
  atrValue : Extended

def deriveSignalTradeFields (isoformat : Timestamp → String) (signal : TradeSignal)
    (context : StrategyContext) : Except TradeError TradeFields := do
  let inputs ← readInputs isoformat signal context
  let side := tradeSide signal
  let expireAt ← inputs.expiry isoformat context.now
  return {
    entry := inputs.entryPrice side
    stop := inputs.stopPrice side
    target := inputs.targetPrice side
    level := inputs.level.or (inputs.entryPrice side)
    buffer := inputs.buffer.or (inputs.riskDistance side)
    expireAt
    ttlBars := inputs.ttlBars
    entryTimeframeMinutes := inputs.entryMinutes
    targetRMultiple := inputs.targetRMultiple
    trailAtrMult := inputs.trailAtrMult
    spreadPips := inputs.spreadPips
    slippagePips := inputs.slippagePips
    slippageStd := inputs.slippageStd
    atrValue := inputs.atrValue.val }

/-! ## Trades -/

/-- What a trade records of its signal; missing values are left out of its document. -/
structure TradeMetadata where
  rationale : Value
  breakout : Value
  level : Value
  buffer : Value
  badges : Value
  expireAt : String
  ttlBars : Int
  targetRMultiple : Extended
  slippageStd : Extended

/-- A candidate trade with its prices. -/
structure PricedTrade extends CandidateTrade where
  strategyId : String
  timestamp : String
  entry : Option Extended
  stop : Option Extended
  target : Option Extended
  portfolioGroup : String
  exposureBucket : String
  regimeFit : Option Extended
  sessionTag : Option String
  atrValue : Option Extended
  trendValue : Option Extended
  costRatio : Option Extended
  metadata : TradeMetadata

/-- What the engine builds trades with: its policy, the texts of times and the
digest of the parts of an id. -/
structure TradeBuilder where
  allocationPolicy : Option StrategyAllocationPolicy
  isoformat : Timestamp → String
  utcnow : String
  candidateId : String → String → String → String → Option Extended → Option Extended →
    Option Extended → String

namespace TradeBuilder

/-- `candidate_metadata`: the group, the bucket and the holding time. -/
def candidateMetadata (builder : TradeBuilder) (strategyId symbol : String) :
    Except PyError (String × String × Option Extended) :=
  match builder.allocationPolicy with
  | none => .ok ("", "", none)
  | some policy => do
      let cfg := policy.strategyCfg strategyId
      let portfolioGroup ← policy.portfolioGroup cfg (some symbol)
      let exposureBucket ← policy.exposureBucket cfg (some symbol)
      let holding := Strategies.coerceFloat
        ((policy.resolvePortfolioCfg cfg).get? "expected_holding_minutes") 0
      return (strip portfolioGroup, strip exposureBucket, some holding)

def normalized (value : Value) (fold : String → String) (default : String) : String :=
  orText (some (fold (strip (orValue value (.str "")).text))) default

def sessionTag : Value → Option String
  | .null => none
  | value => some (lower (strip value.text))

/-- `_build_candidate_trade`; no field has the estimated cost that it looks up. -/
def buildCandidateTrade (builder : TradeBuilder) (strategyId : String) (signal : TradeSignal)
    (context : StrategyContext) : Except TradeError PricedTrade := do
  let fields ← deriveSignalTradeFields builder.isoformat signal context
  let symbol := normalized signal.symbol upper "UNKNOWN"
  let (portfolioGroup, exposureBucket, expectedHoldingMinutes) ←
    (builder.candidateMetadata strategyId symbol).mapError .python
  let timestamp := orText (isoOrNone builder.isoformat signal.timestamp)
    (orText (some (builder.isoformat context.now)) builder.utcnow)
  let side := normalized signal.direction lower "unknown"
  let confidence ← coerceFloat signal.confidence
  let qualityScore ← coerceFloat signal.qualityScore
  let regimeFit ← coerceFloat signal.score
  let atrValue ← coerceFloat signal.atrValue
  let trendValue ← coerceFloat signal.trendValue
  let costRatio ← coerceFloat signal.costRatio
  return {
    candidateId := builder.candidateId strategyId symbol side timestamp fields.entry fields.stop
      fields.target
    symbol, side, confidence, expectedHoldingMinutes, qualityScore, strategyId, timestamp
    entry := fields.entry
    stop := fields.stop
    target := fields.target
    portfolioGroup, exposureBucket, regimeFit
    sessionTag := sessionTag signal.sessionTag
    atrValue, trendValue, costRatio
    metadata := {
      rationale := signal.rationale
      breakout := signal.breakout
      level := signal.level
      buffer := signal.buffer
      badges := signal.badges
      expireAt := fields.expireAt
      ttlBars := fields.ttlBars
      targetRMultiple := fields.targetRMultiple
      slippageStd := fields.slippageStd } }

/-- The loop over the signals of a strategy; the trade of every signal goes to the
allocator. -/
def passedTrades (builder : TradeBuilder) (strategyId : String) (context : StrategyContext)
    (signals : List TradeSignal) : Except TradeError (List PricedTrade) :=
  tryMap (fun signal => builder.buildCandidateTrade strategyId signal context) signals

end TradeBuilder

end FxToushi.Strategies.SignalTrade
