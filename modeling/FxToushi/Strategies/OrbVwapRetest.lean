import FxToushi.Data.Retention
import FxToushi.Strategies.OrbSettings

namespace FxToushi.Strategies.UsOrb

open Calendar Data Py

/-! # Opening range breakout with a retest

The strategy keeps a state for each symbol and session: the range of the bars
before `orb_end`, then a breakout from it, then a retest that holds.  At most 64
states are kept.  A visit records what became of a symbol whose bar was read.
-/

inductive Direction where
  | long
  | short
deriving Repr, DecidableEq

def Direction.token : Direction → String
  | .long => "long"
  | .short => "short"

structure OrbVwapRetestSignal where
  strategyId : String := "m1_us_orb_vwap_retest"
  symbol : String
  direction : Direction
  confidence : Extended
  rationale : String := "us_orb_breakout_vwap_retest_continue"
  score : Extended
  qualityScore : Extended
  orbHigh : Extended
  orbLow : Extended
  orbWidth : Extended
  vwap : Extended
  breakoutDistance : Extended
  costEstimate : Extended
deriving Repr, DecidableEq

/-- What `lookup` gives: a value, or a series with its `iloc`. -/
inductive Payload where
  | scalar (value : Value)
  | series (values : List Value)

/-- `_latest`. -/
def Payload.latest : Payload → Value
  | .scalar value => value
  | .series values => values.getLast?.getD .null

/-- What the strategy reads of its context.  The watchlist is a set, so neither
the order nor repetitions of its list matter; `lookup` may raise. -/
structure OrbContext where
  parameters : Mapping
  timeframe : String
  now : Option DateTime
  watchlist : List String
  availableKeys : List String
  lookup : String → String → String → Option Payload
  killSwitchRecommendation : Option String := none
  reduceOnly : Bool := false
  gateBoardMode : Option String := none
  configBoardMode : Option String := none
  profitReadinessStatus : Option String := none

def requiredFeatures : List String :=
  ["open_5m", "high_5m", "low_5m", "close_5m", "volume_5m", "atr_14_1h", "session_tag_5m"]

/-- A bar whose prices are not zero or less. -/
structure OrbBar where
  openPrice : Extended
  high : Extended
  low : Extended
  close : Extended
  volume : Extended
  atr : Extended
  priced : ¬ high ≤ 0 ∧ ¬ low ≤ 0 ∧ ¬ close ≤ 0
deriving DecidableEq

/-- `_SessionState`. -/
structure OrbSession where
  sessionDate : Int
  sessionStart : Int
  orbEnd : Int
  orbBars : Nat := 0
  orbHigh : Option Extended := none
  orbLow : Option Extended := none
  vwapPv : Extended := 0
  vwapVolume : Extended := 0
  breakoutDirection : Option Direction := none
  breakoutLevel : Option Extended := none
  breakoutPrice : Option Extended := none
  breakoutAt : Option Int := none
  retestDeadline : Option Int := none
  signalsEmitted : Nat := 0
deriving DecidableEq

/-! ## A bar in its session -/

namespace OrbSettings

def breakoutBuffer (settings : OrbSettings) (bar : OrbBar) : Extended :=
  .greater (.greater settings.minBreakoutAbs.val (bar.atr * settings.breakoutAtrMult.val))
    (settings.costEstimate * settings.breakoutCostMult.val)

def vwapBias (settings : OrbSettings) : Extended :=
  settings.costEstimate * settings.vwapBiasCostMult.val

def retestTolerance (settings : OrbSettings) (bar : OrbBar) : Extended :=
  .greater
    (.greater settings.minRetestAbs.val (settings.costEstimate * settings.retestCostMult.val))
    (bar.atr * settings.retestAtrMult.val)

/-- The close is beyond the opening range by the buffer. -/
def Breaks (settings : OrbSettings) (high low : Extended) (direction : Direction) (bar : OrbBar) :
    Prop :=
  match direction with
  | .long => high + settings.breakoutBuffer bar < bar.close
  | .short => bar.close < low - settings.breakoutBuffer bar

instance (settings : OrbSettings) (high low : Extended) (direction : Direction) (bar : OrbBar) :
    Decidable (settings.Breaks high low direction bar) := by
  cases direction
  · exact inferInstanceAs (Decidable (_ < _))
  · exact inferInstanceAs (Decidable (_ < _))

def breakoutOf (settings : OrbSettings) (high low vwap : Extended) (bar : OrbBar) :
    Option Direction :=
  if "long" ∈ settings.allowedDirections ∧ settings.Breaks high low .long bar ∧
      vwap + settings.vwapBias ≤ bar.close then some .long
  else if "short" ∈ settings.allowedDirections ∧ settings.Breaks high low .short bar ∧
      bar.close ≤ vwap - settings.vwapBias then some .short
  else none

/-- The costs are too large for a range of this width. -/
def tooNarrow (settings : OrbSettings) (width : Extended) : Bool :=
  decide (0 ≤ settings.maxCostToRangeRatio) &&
    if 0 < width then decide (settings.maxCostToRangeRatio < settings.costEstimate / width)
    else decide (width ≤ 0)

/-- `retest_max_bars` timeframes, in microseconds. -/
def retestWindow (settings : OrbSettings) : Int :=
  minutes (settings.timeframeMinutes * settings.retestMaxBars)

end OrbSettings

namespace Direction

def level : Direction → Extended → Extended → Extended
  | .long, high, _ => high
  | .short, _, low => low

/-- The close is back beyond the other side of the range. -/
def invalidated (direction : Direction) (high low : Extended) (bar : OrbBar) : Bool :=
  match direction with
  | .long => decide (bar.close < low)
  | .short => decide (high < bar.close)

/-- The bar touched the average price, held the direction and continued in it. -/
def retested (direction : Direction) (level price vwap tolerance : Extended) (bar : OrbBar) :
    Bool :=
  match direction with
  | .long => decide (bar.low ≤ vwap + tolerance ∧ (vwap ≤ bar.close ∧ level ≤ bar.close) ∧
      price ≤ bar.close ∧ bar.openPrice ≤ bar.close)
  | .short => decide (vwap - tolerance ≤ bar.high ∧ (bar.close ≤ vwap ∧ bar.close ≤ level) ∧
      bar.close ≤ price ∧ bar.close ≤ bar.openPrice)

def distance : Direction → Extended → Extended → Extended
  | .long, level, close => close - level
  | .short, level, close => level - close

end Direction

def orbWidth (high low : Extended) : Extended := .greater 0 (high - low)

def signalOf (settings : OrbSettings) (symbol : String) (direction : Direction)
    (high low vwap level : Extended) (bar : OrbBar) : OrbVwapRetestSignal :=
  let breakoutDistance := direction.distance level bar.close
  let quality := Extended.greater (.finite (1 / 10))
    (breakoutDistance / .greater settings.costEstimate (.finite (1 / 1000000)))
  { symbol
    direction
    confidence := (Extended.lesser (.finite 3) quality).round 4
    score := quality.round 4
    qualityScore := quality.round 4
    orbHigh := high.round 6
    orbLow := low.round 6
    orbWidth := (orbWidth high low).round 6
    vwap := vwap.round 6
    breakoutDistance := breakoutDistance.round 6
    costEstimate := settings.costEstimate.round 6 }

/-- What a bar makes of its session. -/
structure Observed where
  session : OrbSession
  signal : Option OrbVwapRetestSignal := none
  failure : Option PyError := none

namespace OrbSession

def resetBreakout (session : OrbSession) : OrbSession :=
  { session with
    breakoutDirection := none
    breakoutLevel := none
    breakoutPrice := none
    breakoutAt := none
    retestDeadline := none }

def addVolume (session : OrbSession) (bar : OrbBar) : OrbSession :=
  if 0 < bar.volume then
    { session with
      vwapPv := session.vwapPv + bar.close * bar.volume
      vwapVolume := session.vwapVolume + bar.volume }
  else session

def vwap? (session : OrbSession) : Option Extended :=
  if 0 < session.vwapVolume then some (session.vwapPv / session.vwapVolume) else none

def widen (session : OrbSession) (bar : OrbBar) : OrbSession :=
  { session with
    orbBars := session.orbBars + 1
    orbHigh := some (session.orbHigh.elim bar.high (fun held => .greater held bar.high))
    orbLow := some (session.orbLow.elim bar.low (fun held => .lesser held bar.low)) }

/-- The deadline is set last, so a time beyond the year 9999 leaves the rest. -/
def markBreakout (session : OrbSession) (settings : OrbSettings) (now : Int)
    (direction : Direction) (high low : Extended) (bar : OrbBar) : Observed :=
  let marked := { session with
    breakoutDirection := some direction
    breakoutLevel := some (direction.level high low)
    breakoutPrice := some bar.close
    breakoutAt := some now }
  let deadline := now + settings.retestWindow
  if deadline ≤ lastTime then { session := { marked with retestDeadline := some deadline } }
  else { session := marked, failure := some overflowError }

def retest (session : OrbSession) (settings : OrbSettings) (symbol : String)
    (direction : Direction) (high low vwap : Extended) (bar : OrbBar) : Observed :=
  match session.breakoutLevel, session.breakoutPrice with
  | some level, some price =>
    if direction.invalidated high low bar then { session := session.resetBreakout }
    else if direction.retested level price vwap (settings.retestTolerance bar) bar then
      { session :=
          { session with signalsEmitted := session.signalsEmitted + 1 }.resetBreakout
        signal := some (signalOf settings symbol direction high low vwap level bar) }
    else { session }
  | _, _ => { session := session.resetBreakout }

/-- After `orb_end`: look for a breakout, or for the retest of one. -/
def trade (session : OrbSession) (settings : OrbSettings) (symbol : String) (now : Int)
    (high low : Extended) (bar : OrbBar) : Observed :=
  match session.breakoutDirection with
  | none =>
    match session.vwap? with
    | none => { session }
    | some vwap =>
      match settings.breakoutOf high low vwap bar with
      | none => { session }
      | some direction => session.markBreakout settings now direction high low bar
  | some direction =>
    if session.retestDeadline.any (fun deadline => decide (deadline < now)) then
      { session := session.resetBreakout }
    else
      match session.vwap? with
      | none => { session }
      | some vwap => session.retest settings symbol direction high low vwap bar

def observe (session : OrbSession) (settings : OrbSettings) (symbol : String) (now : Int)
    (bar : OrbBar) : Observed :=
  let session := session.addVolume bar
  if now < session.orbEnd then { session := session.widen bar }
  else
    match session.orbHigh, session.orbLow with
    | some high, some low =>
      if (session.orbBars : Int) < settings.minOrbBars then { session }
      else if settings.tooNarrow (orbWidth high low) then { session }
      else session.trade settings symbol now high low bar
    | _, _ => { session }

end OrbSession

/-! ## The symbols of a call -/

def dayLength : Int := 86400000000

def dateOf (ts : DateTime) : Int := ts.time / dayLength

def hourOf (ts : DateTime) : Int := ts.time / 3600000000 % 24

def minuteOf (ts : DateTime) : Int := ts.time / 60000000 % 60

/-- The date is that of the day before until a session over midnight starts. -/
def sessionDate (settings : OrbSettings) (ts : DateTime) : Except PyError Int :=
  if !settings.sessionWraps then .ok (dateOf ts)
  else if settings.startHour < hourOf ts ∨
      hourOf ts = settings.startHour ∧ settings.startMinute ≤ minuteOf ts then .ok (dateOf ts)
  else
    match ts.shift (-dayLength) with
    | .ok before => .ok (dateOf before)
    | .error _ => .error overflowError

def startOf (settings : OrbSettings) (date : Int) : Int :=
  date * dayLength + minutes (settings.startHour * 60 + settings.startMinute)

def orbEndOf (settings : OrbSettings) (date : Int) : Int :=
  startOf settings date + minutes settings.orbMinutes

abbrev States := Dict String OrbSession

def freshSession (settings : OrbSettings) (date : Int) : OrbSession where
  sessionDate := date
  sessionStart := startOf settings date
  orbEnd := orbEndOf settings date

/-- Take in a new state; the oldest sessions make room for it. -/
def takeIn (states : States) (symbol : String) (fresh : OrbSession) : States :=
  let grown := states.set symbol fresh
  if 64 < grown.entries.length then grown.retain OrbSession.sessionStart 64 else grown

/-- The state of a symbol, with the states once it is among them. -/
def resolveState (settings : OrbSettings) (symbol : String) (ts : DateTime) (states : States) :
    Except PyError (Option (OrbSession × States)) := do
  let date ← sessionDate settings ts
  let fresh := freshSession settings date
  if ts.time < fresh.sessionStart then return none
  if lastTime < fresh.orbEnd then throw overflowError
  match states.get? symbol with
  | none => return some (fresh, takeIn states symbol fresh)
  | some current =>
    if current.sessionDate ≠ date then return some (fresh, takeIn states symbol fresh)
    else return some (current, states)

/-- The features of a symbol, unless one cannot be looked up, a price is zero or
less, or the session tag is not allowed. -/
def readBar (settings : OrbSettings) (context : OrbContext) (symbol : String) : Option OrbBar := do
  let feature := fun (name timeframe : String) =>
    (context.lookup symbol name timeframe).bind fun payload =>
      (coerceFloat payload.latest 0).toOption
  let openPrice ← feature "open_5m" "5m"
  let high ← feature "high_5m" "5m"
  let low ← feature "low_5m" "5m"
  let close ← feature "close_5m" "5m"
  let volume ← feature "volume_5m" "5m"
  let atr ← feature "atr_14_1h" "1h"
  let tag ← context.lookup symbol "session_tag_5m" "5m"
  let sessionTag := match tag.latest with
    | .null => ""
    | value => lower (strip value.text)
  if priced : ¬ high ≤ 0 ∧ ¬ low ≤ 0 ∧ ¬ close ≤ 0 then
    if sessionTag ∈ settings.allowedSessionTags then
      some { openPrice, high, low, close, volume := .greater 0 volume, atr, priced }
    else none
  else none

structure Visit where
  now : Int
  symbol : String
  sessionDate : Int
  orbEnd : Int
  bar : OrbBar
  signal : Option OrbVwapRetestSignal
deriving DecidableEq

def visitOf (now : Int) (symbol : String) (session : OrbSession) (bar : OrbBar)
    (signal : Option OrbVwapRetestSignal) : Visit where
  now
  symbol
  sessionDate := session.sessionDate
  orbEnd := session.orbEnd
  bar
  signal

/-- The state of a symbol is changed in place; one that was given up is not
among the states any more. -/
def store (states : States) (symbol : String) (changed : OrbSession) : States :=
  if (states.get? symbol).isSome then states.set symbol changed else states

structure Scan where
  states : States
  visits : List Visit := []
  failure : Option PyError := none

def visitSymbol (settings : OrbSettings) (context : OrbContext) (ts : DateTime) (states : States)
    (symbol : String) : Scan :=
  match resolveState settings symbol ts states with
  | .error error => { states, failure := some error }
  | .ok none => { states }
  | .ok (some (session, states)) =>
    if settings.maxSignalsPerSession ≤ session.signalsEmitted then { states }
    else
      match readBar settings context symbol with
      | none => { states }
      | some bar =>
        let observed := session.observe settings symbol ts.time bar
        { states := store states symbol observed.session
          visits := [visitOf ts.time symbol session bar observed.signal]
          failure := observed.failure }

def scan (settings : OrbSettings) (context : OrbContext) (ts : DateTime) (states : States) :
    List String → Scan
  | [] => { states }
  | symbol :: rest =>
    let visited := visitSymbol settings context ts states symbol
    if visited.failure.isSome then visited
    else
      let later := scan settings context ts visited.states rest
      { later with visits := visited.visits ++ later.visits }

/-! ## A call -/

def killSwitchState (context : OrbContext) : String :=
  let explicit := strip (context.killSwitchRecommendation.getD "")
  if explicit ≠ "" then lower explicit else if context.reduceOnly then "soft_stop" else "normal"

def boardMode (context : OrbContext) : String :=
  let direct := strip (context.gateBoardMode.getD "")
  let configMode := strip (context.configBoardMode.getD "")
  let readiness := lower (strip (context.profitReadinessStatus.getD ""))
  if direct ≠ "" then lower direct
  else if configMode ≠ "" then lower configMode
  else if readiness ∈ ["guarded", "halted"] then readiness
  else "normal"

def sessionAllowed (settings : OrbSettings) (ts : DateTime) : Bool :=
  if settings.sessionStart ≤ settings.sessionStop then
    decide (settings.sessionStart ≤ hourOf ts ∧ hourOf ts ≤ settings.sessionStop)
  else decide (settings.sessionStart ≤ hourOf ts ∨ hourOf ts ≤ settings.sessionStop)

/-- The checks of a call before it goes through the symbols: nothing where it
returns without a signal. -/
def preflight (context : OrbContext) : Except PyError (Option (OrbSettings × DateTime)) := do
  if !requiredFeatures.all context.availableKeys.contains then return none
  let entry ← readEntry context.parameters context.timeframe
  let filters := filterParams context.parameters
  if entry.spreadTooWide then return none
  let blockedKillStates := orTokens
    (allowedTokenSet (get filters "kill_switch_blocked_states"))
    ["soft_stop", "hard_stop", "triggered"]
  if blockedKillStates.contains (killSwitchState context) then return none
  let allowedBoardModes := orTokens (allowedTokenSet (get filters "board_modes"))
    ["normal", "guarded"]
  if !allowedBoardModes.contains (boardMode context) then return none
  let settings ← readSettings context.parameters entry
  match context.now with
  | none => return none
  | some now =>
    match now.toUtc with
    | .error _ => throw overflowError
    | .ok ts => if sessionAllowed settings ts then return some (settings, ts) else return none

structure UsOpeningRangeBreakoutVwapRetestStrategy where
  defaultWatchlist : List String := ["USDJPY"]
  stateBySymbol : States := Dict.empty

structure Outcome where
  strategy : UsOpeningRangeBreakoutVwapRetestStrategy
  visits : List Visit := []
  result : Except PyError (List OrbVwapRetestSignal) := .ok []

namespace UsOpeningRangeBreakoutVwapRetestStrategy

def symbols (strategy : UsOpeningRangeBreakoutVwapRetestStrategy) (context : OrbContext) :
    List String :=
  let watchlist := if context.watchlist = [] then strategy.defaultWatchlist else context.watchlist
  watchlist.dedup.insertionSort (· ≤ ·)

def generateSignals (strategy : UsOpeningRangeBreakoutVwapRetestStrategy) (context : OrbContext) :
    Outcome :=
  match preflight context with
  | .error error => { strategy, result := .error error }
  | .ok none => { strategy }
  | .ok (some (settings, ts)) =>
    let scanned := scan settings context ts strategy.stateBySymbol (strategy.symbols context)
    { strategy := { strategy with stateBySymbol := scanned.states }
      visits := scanned.visits
      result := match scanned.failure with
        | some error => .error error
        | none => .ok (scanned.visits.filterMap Visit.signal) }

end UsOpeningRangeBreakoutVwapRetestStrategy

end FxToushi.Strategies.UsOrb
