import FxToushi.Calendar.Service
import FxToushi.Py.ExtendedRanges

namespace FxToushi.Strategies.UsOrb

open Calendar Py

/-! # Parameters of the opening range strategy

What `UsOpeningRangeBreakoutVwapRetestStrategy` reads from the parameters of a
strategy before it looks at a symbol.  Times are microseconds in UTC.
-/

def overflowError : PyError := .other "OverflowError"

/-- `_coerce_float`; an integer has a float unless it rounds to 2 to the 1024. -/
def coerceFloat (value : Value) (default : Extended) : Except PyError Extended :=
  match value with
  | .bool value => .ok (.finite (if value then 1 else 0))
  | .int value =>
    if value.natAbs < 2 ^ 1024 - 2 ^ 970 then .ok (.finite value) else .error overflowError
  | .float value text => .ok (.read value text)
  | .str text => .ok ((floatOfText text).getD default)
  | _ => .ok default

/-- `_coerce_int`. -/
def coerceInt (value : Value) (default : Int) : Int :=
  match value with
  | .float value text =>
    match Extended.read value text with
    | .finite number => truncate number
    | _ => default
  | value => value.toInt?.getD default

def extractMap (value : Option Value) : Mapping := (value.getD .null).asMapping

def entryParams (parameters : Mapping) : Mapping := extractMap (parameters.get? "entry")

def filterParams (parameters : Mapping) : Mapping :=
  let nested := extractMap ((entryParams parameters).get? "filters")
  if nested ≠ [] then nested else extractMap (parameters.get? "filters")

def executionParams (parameters : Mapping) : Mapping := extractMap (parameters.get? "execution")

def get (mapping : Mapping) (key : String) (default : Value := .null) : Value :=
  (mapping.get? key).getD default

def timeframeToMinutes (token : String) : Except PyError Int :=
  let normalized := (lower (strip token)).toList
  let scaled := fun unit : Int =>
    match parseInt? (String.ofList normalized.dropLast) with
    | some count => Except.ok (max 1 count * unit)
    | none => .error .valueError
  match normalized.getLast? with
  | some 'm' => scaled 1
  | some 'h' => scaled 60
  | some 'd' => scaled (24 * 60)
  | _ => .ok 5

/-- A number of the hour or minute hand. -/
def hand? (size : Nat) (number : Int) : Option (Fin size) :=
  if within : 0 ≤ number ∧ number < size then some ⟨number.toNat, by omega⟩ else none

def parseHhmm (value : Value) (defaultHour : Fin 24) : Fin 24 × Fin 60 :=
  match value with
  | .str text =>
    match splitOnce ':' (strip text) with
    | some (left, right) =>
      match (parseInt? left).bind (hand? 24), (parseInt? right).bind (hand? 60) with
      | some hour, some minute => (hour, minute)
      | _, _ => (defaultHour, 0)
    | none => (((parseInt? (strip text)).bind (hand? 24)).getD defaultHour, 0)
  | _ => (defaultHour, 0)

def parseSessionRange : Value → Fin 24 × Fin 24
  | .str text =>
    match splitOnce '-' text with
    | none => (13, 21)
    | some (left, right) =>
      match (parseInt? left).bind (hand? 24), (parseInt? right).bind (hand? 24) with
      | some start, some stop => (start, stop)
      | _, _ => (13, 21)
  | _ => (13, 21)

/-- `f"{hour:02d}:00"`. -/
def onTheHour (hour : Fin 24) : String :=
  (if hour.val < 10 then "0" else "") ++ toString hour.val ++ ":00"

def allowedTokenSet (value : Value) : List String :=
  let items := match value with
    | .null => []
    | .str text => text.splitOn ","
    | .list items => items.map Value.text
    | value => [value.text]
  ((items.map strip).filter (· ≠ "")).map lower

def orTokens (tokens default : List String) : List String := if tokens = [] then default else tokens

/-- What `max(0.0, value)` gives, also for the not-a-number. -/
abbrev NonnegFloat := {number : Extended // 0 ≤ number}

def atLeastZero (number : Extended) : NonnegFloat :=
  ⟨.greater 0 number, Extended.nonneg_greater_zero number⟩

/-- The parameters read before the gate is looked at; `stop` is the end of the
session. -/
structure OrbEntry where
  sessionStart : Fin 24
  sessionStop : Fin 24
  startHour : Fin 24
  startMinute : Fin 60
  timeframeMinutes : Int
  orbMinutes : Int
  retestMaxBars : Int
  maxSignalsPerSession : Int
  signalsAllowed : 1 ≤ maxSignalsPerSession
  spread : NonnegFloat
  slippage : NonnegFloat
  spreadMax : Extended

def readEntry (parameters : Mapping) (timeframe : String) : Except PyError OrbEntry := do
  let entry := entryParams parameters
  let filters := filterParams parameters
  let execution := executionParams parameters
  let (sessionStart, sessionStop) := parseSessionRange
    (get entry "session_utc_range" (get filters "session_utc_range" (.str "13-21")))
  let startToken := match get entry "session_start_utc" with
    | .null => .str (if sessionStart = 13 then "13:30" else onTheHour sessionStart)
    | token => token
  let (startHour, startMinute) := parseHhmm startToken sessionStart
  let timeframeMinutes ← timeframeToMinutes
    (get entry "timeframe" (.str (if timeframe = "" then "5m" else timeframe))).text
  let spread ← coerceFloat (get execution "spread") 0
  let slippage ← coerceFloat (get execution "slippage") 0
  let spreadMax ← coerceFloat (get filters "spread_max") (.finite (-1))
  return {
    sessionStart, sessionStop, startHour, startMinute, timeframeMinutes
    orbMinutes := max timeframeMinutes (coerceInt (get entry "orb_minutes") 30)
    retestMaxBars := max 1 (coerceInt (get entry "retest_max_bars") 6)
    maxSignalsPerSession := max 1 (coerceInt (get entry "max_signals_per_session") 1)
    signalsAllowed := le_max_left 1 _
    spread := atLeastZero spread
    slippage := atLeastZero slippage
    spreadMax }

structure OrbSettings extends OrbEntry where
  allowedSessionTags : List String
  allowedDirections : List String
  minBreakoutAbs : NonnegFloat
  breakoutAtrMult : NonnegFloat
  breakoutCostMult : NonnegFloat
  vwapBiasCostMult : NonnegFloat
  minRetestAbs : NonnegFloat
  retestCostMult : NonnegFloat
  retestAtrMult : NonnegFloat
  maxCostToRangeRatio : Extended

def readSettings (parameters : Mapping) (orbEntry : OrbEntry) : Except PyError OrbSettings := do
  let entry := entryParams parameters
  let filters := filterParams parameters
  let tags := get entry "allowed_session_tags" (get filters "allowed_session_tags")
  let directions := get entry "allowed_directions" (get filters "allowed_directions")
  let minBreakoutAbs ← coerceFloat (get filters "min_breakout_abs") (.finite (3 / 100))
  let breakoutAtrMult ← coerceFloat (get filters "breakout_atr_mult") (.finite (1 / 4))
  let breakoutCostMult ← coerceFloat (get filters "breakout_cost_mult") (.finite 3)
  let vwapBiasCostMult ← coerceFloat (get filters "vwap_bias_cost_mult") (.finite (1 / 2))
  let minRetestAbs ← coerceFloat (get filters "retest_min_abs") (.finite (1 / 100))
  let retestCostMult ← coerceFloat (get filters "retest_cost_mult") (.finite (12 / 10))
  let retestAtrMult ← coerceFloat (get filters "retest_atr_mult") (.finite (5 / 100))
  let maxCostToRangeRatio ← coerceFloat (get filters "max_cost_to_range_ratio") (.finite (-1))
  return {
    toOrbEntry := orbEntry
    allowedSessionTags := orTokens (allowedTokenSet tags) ["newyork", "overlap", "us"]
    allowedDirections := orTokens (allowedTokenSet directions) ["long", "short"]
    minBreakoutAbs := atLeastZero minBreakoutAbs
    breakoutAtrMult := atLeastZero breakoutAtrMult
    breakoutCostMult := atLeastZero breakoutCostMult
    vwapBiasCostMult := atLeastZero vwapBiasCostMult
    minRetestAbs := atLeastZero minRetestAbs
    retestCostMult := atLeastZero retestCostMult
    retestAtrMult := atLeastZero retestAtrMult
    maxCostToRangeRatio }

/-- All of the parameters. -/
def settingsOf (parameters : Mapping) (timeframe : String) : Except PyError OrbSettings :=
  (readEntry parameters timeframe).bind (readSettings parameters)

namespace OrbEntry

def costEstimate (entry : OrbEntry) : Extended := entry.spread.val + entry.slippage.val

def sessionWraps (entry : OrbEntry) : Bool := entry.sessionStop < entry.sessionStart

def minOrbBars (entry : OrbEntry) : Int := max 1 (entry.orbMinutes / entry.timeframeMinutes)

def spreadTooWide (entry : OrbEntry) : Bool :=
  decide (0 ≤ entry.spreadMax ∧ entry.spreadMax < entry.spread.val)

end OrbEntry

end FxToushi.Strategies.UsOrb
