import FxToushi.Calendar.Service
import FxToushi.Data.Runs
import FxToushi.Py.Rounding

namespace FxToushi.Strategies.RoundNumber

open Calendar Data Py

/-! # Round-number rejection

The strategy fades the first touch of a half or whole yen in a session.  It
remembers the touched levels of one day and counts the bars since its last
signal.
-/

def roundLevels : List Rat := [0, 1 / 2]

def sessionStartHour : Int := 6

def sessionEndHour : Int := 16

def minAtr : Rat := 60 / 100

def stopPips : Rat := 15 / 100

def targetPips : Rat := 15 / 100

def cooldownBars : Nat := 6

inductive Side where
  | long
  | short
deriving Repr, DecidableEq

structure Candidate where
  strategyId : String := "round_number_rejection"
  symbol : String := "USDJPY"
  side : Side
  entry : Rat
  stop : Rat
  target : Rat
  expectedEdge : Rat
  estimatedCost : Rat
  confidence : Rat
  expectedHoldingMinutes : Int := 45
  portfolioGroup : String := "microstructure"
  exposureBucket : String := "jpy_intraday"
  regimeFit : Rat
  timestamp : DateTime
deriving DecidableEq

structure Bar where
  timestamp : DateTime
  openPrice : Rat
  high : Rat
  low : Rat
  close : Rat
  atrDaily : Rat
  estimatedCost : Rat

structure RoundNumberRejectionStrategy where
  touchedToday : List Rat := []
  lastSignalDate : Option Int := none
  barsSinceSignal : Nat := cooldownBars

namespace Bar

/-- The aware timestamp in UTC.  There is none for a naive one, which the strategy
ignores, and none where `astimezone` overflows, which raises before anything is done. -/
def utcTs? (bar : Bar) : Option DateTime :=
  if bar.timestamp.offset.isSome then bar.timestamp.toUtc.toOption else none

def dateOf (utcTs : DateTime) : Int := utcTs.time / 86400000000

def hourOf (utcTs : DateTime) : Int := utcTs.time / 3600000000 % 24

/-- Day 0 is a Monday. -/
def weekdayOf (utcTs : DateTime) : Int := dateOf utcTs % 7

def inHours (utcTs : DateTime) : Bool :=
  decide (sessionStartHour ≤ hourOf utcTs ∧ hourOf utcTs < sessionEndHour)

def candidate (bar : Bar) (utcTs : DateTime) (level : Rat) : Candidate :=
  let fromBelow : Bool := bar.openPrice < level
  let entry := if fromBelow then level - 3 / 1000 else level + 3 / 1000
  { side := if fromBelow then .short else .long
    entry := roundTo entry 3
    stop := roundTo (if fromBelow then level + stopPips else level - stopPips) 3
    target := roundTo (if fromBelow then entry - targetPips else entry + targetPips) 3
    expectedEdge := roundTo (targetPips - bar.estimatedCost) 6
    estimatedCost := roundTo bar.estimatedCost 6
    confidence := roundTo (min (85 / 100) (1 / 2 + (bar.atrDaily - minAtr) * (1 / 2))) 4
    regimeFit := roundTo (min 1 (max (-1) ((bar.atrDaily - minAtr) / minAtr))) 4
    timestamp := utcTs }

def baseLevel (bar : Bar) : Rat := (truncate (bar.low * 2) : Rat) / 2

/-- The levels of the loop, half a yen apart while they are at most `high + 0.001`. -/
def levels (bar : Bar) : List Rat :=
  (List.range (((bar.high + 1 / 1000 - bar.baseLevel) * 2 + 1).floor.toNat)).map
    fun turn : Nat => bar.baseLevel + (turn : Rat) / 2

/-- The levels at which the loop finds a touch, whether or not it was seen before. -/
def touched (bar : Bar) : List Rat :=
  bar.levels.filter fun level =>
    decide (roundTo (level - level.floor) 2 ∈ roundLevels ∧ bar.low ≤ level ∧ level ≤ bar.high)

end Bar

namespace RoundNumberRejectionStrategy

def resetDaily (strategy : RoundNumberRejectionStrategy) (currentDate : Int) :
    RoundNumberRejectionStrategy :=
  if strategy.lastSignalDate = some currentDate then strategy
  else { strategy with touchedToday := [], lastSignalDate := some currentDate }

/-- The loop, which stops at its first signal. -/
def scan (strategy : RoundNumberRejectionStrategy) (bar : Bar) (utcTs : DateTime) :
    RoundNumberRejectionStrategy × List Candidate :=
  match bar.touched.find? fun level => !strategy.touchedToday.contains level with
  | none => (strategy, [])
  | some level =>
    ({ strategy with
        touchedToday := strategy.touchedToday ++ [level]
        barsSinceSignal := 0 }, [bar.candidate utcTs level])

def generate (strategy : RoundNumberRejectionStrategy) (bar : Bar) :
    RoundNumberRejectionStrategy × List Candidate :=
  match bar.utcTs? with
  | none => (strategy, [])
  | some utcTs =>
    if !Bar.inHours utcTs then (strategy, [])
    else if 5 ≤ Bar.weekdayOf utcTs then (strategy, [])
    else if bar.atrDaily < minAtr then (strategy, [])
    else if strategy.barsSinceSignal < cooldownBars then
      ({ strategy with barsSinceSignal := strategy.barsSinceSignal + 1 }, [])
    else (strategy.resetDaily (Bar.dateOf utcTs)).scan bar utcTs

def step (strategy : RoundNumberRejectionStrategy) (bar : Bar) : RoundNumberRejectionStrategy :=
  (strategy.generate bar).1

/-! ## First touches -/

end RoundNumberRejectionStrategy

def IsRound (level : Rat) : Prop := ∃ halves : Int, level = halves / 2

namespace Bar

/-- The date of a bar in the session hours. -/
def sessionDate? (bar : Bar) : Option Int :=
  bar.utcTs?.bind fun utcTs => if inHours utcTs then some (dateOf utcTs) else none

/-- The timestamps do not decrease, where both bars have one in UTC. -/
def NotAfter (earlier later : Bar) : Prop :=
  ∀ first ∈ earlier.utcTs?, ∀ second ∈ later.utcTs?, first.time ≤ second.time

def Touches (bar : Bar) (level : Rat) : Prop := bar.low ≤ level ∧ level ≤ bar.high

end Bar

namespace RoundNumberRejectionStrategy

/-- A candidate for a level comes at the first bar of the date that touches it in the
session hours. -/
def FirstTouches (bars : List Bar) : Prop :=
  ∀ before bar after, bars = before ++ bar :: after →
    ∀ candidate ∈ ((runFrom step {} before).generate bar).2, ∀ utcTs level,
      IsRound level → candidate = bar.candidate utcTs level →
        ∀ earlier ∈ before, earlier.sessionDate? = some (Bar.dateOf utcTs) →
          ¬ earlier.Touches level

def touchedOn (strategy : RoundNumberRejectionStrategy) (date : Int) : List Rat :=
  if strategy.lastSignalDate = some date then strategy.touchedToday else []

def untouched (strategy : RoundNumberRejectionStrategy) (bar : Bar) (date : Int) : List Rat :=
  bar.touched.filter fun level => !(strategy.touchedOn date).contains level

/-- How many new touches the strategy can remember on this bar: one where volatility and
cooldown let the bar through, or else none. -/
def room (strategy : RoundNumberRejectionStrategy) (bar : Bar) : Nat :=
  if minAtr ≤ bar.atrDaily ∧ cooldownBars ≤ strategy.barsSinceSignal then 1 else 0

/-- On a weekday in the session hours no more new levels are touched than can be
remembered. -/
def Noted (strategy : RoundNumberRejectionStrategy) (bar : Bar) : Prop :=
  ∀ date ∈ bar.sessionDate?, date % 7 < 5 → (strategy.untouched bar date).length ≤ strategy.room bar

instance (strategy : RoundNumberRejectionStrategy) (bar : Bar) :
    Decidable (strategy.Noted bar) :=
  inferInstanceAs (Decidable (∀ date ∈ bar.sessionDate?, _))

end RoundNumberRejectionStrategy

end FxToushi.Strategies.RoundNumber
