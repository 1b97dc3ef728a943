import FxToushi.Features.Pandas
import FxToushi.Py.Extended

namespace FxToushi.Features

open Data Py

/-! # Indicators

`_compute_indicator`: the columns an indicator derives from the bars of one
timeframe.  Which columns there are, and whether there are any, depends on the
definition alone; the bars only fill them in.
-/

structure IndicatorDefinition where
  identifier : String
  timeframes : List String
  outputKeys : Dict String String
  parameters : Mapping := []

/-- The columns of one indicator by their alias, at least one. -/
structure Outputs where
  columns : Dict String (Column (Option Cell))
  nonempty : columns.entries ≠ []

namespace Outputs

def single (featureAlias : String) (column : Column (Option Cell)) : Outputs :=
  ⟨Dict.empty.set featureAlias column, Dict.set_entries_ne_nil _ _ _⟩

def set (outputs : Outputs) (featureAlias : String) (column : Column (Option Cell)) : Outputs :=
  ⟨outputs.columns.set featureAlias column, Dict.set_entries_ne_nil _ _ _⟩

end Outputs

namespace IndicatorDefinition

def intParameter (indicator : IndicatorDefinition) (key : String) (default : Value) :
    Except FeatureError Int :=
  ((indicator.parameters.get? key).getD default).toInt.mapError .python

/-- `int(params.get("window", params.get("period", 14)))`. -/
def window (indicator : IndicatorDefinition) : Except FeatureError Int :=
  indicator.intParameter "window" ((indicator.parameters.get? "period").getD (.int 14))

def stddev (indicator : IndicatorDefinition) : Except FeatureError Rat :=
  ((indicator.parameters.get? "stddev").getD (.float 2 "2.0")).toRat.mapError .python

def outputKey (indicator : IndicatorDefinition) (key : String) : Except FeatureError String :=
  match indicator.outputKeys.get? key with
  | some featureAlias => .ok featureAlias
  | none => .error (.keyError key)

/-- `output_keys.get(key, key)`. -/
def outputKeyOr (indicator : IndicatorDefinition) (key : String) : String :=
  (indicator.outputKeys.get? key).getD key

end IndicatorDefinition

/-! ## Columns of the indicators -/

def rsi (gain loss : Column Reading) : Column Reading :=
  let safeLoss := loss.replaceZero (some (1 / 1000000000))
  let rs := gain.div safeLoss
  (Column.constant 100).sub ((Column.constant 100).div (rs.change (1 + ·)))

/-- The largest of the three ranges of a bar that are present. -/
def trueRange (pandas : Pandas) : Column Reading :=
  let prevClose := Column.close.shift
  (Column.high.sub Column.low).zipWith
    (fun range moves => pandas.max.apply [range, moves.1, moves.2])
    ((Column.high.sub prevClose).abs.zipWith Prod.mk (Column.low.sub prevClose).abs)

def sessionLabel (ts : Timestamp) : String :=
  let hour := Timestamp.hour ts
  if 0 ≤ hour ∧ hour < 7 then "asia"
  else if 7 ≤ hour ∧ hour < 12 then "london"
  else if 12 ≤ hour ∧ hour < 20 then "newyork"
  else "overlap"

/-- The sign of a slope; a missing slope compares with nothing. -/
def regime : Reading → Rat
  | some slope => if 0 < slope then 1 else if slope < 0 then -1 else 0
  | none => 0

def emaSlope (pandas : Pandas) (series : Column Reading) (span : Int) :
    Except FeatureError (Column Reading) := do
  let ema ← pandas.ewmMean span
  return Column.diff (ema.comp series)

/-- `_compute_indicator`, up to the bars the columns are applied to. -/
def indicatorOutputs (pandas : Pandas) (indicator : IndicatorDefinition) :
    Except FeatureError Outputs := do
  let window ← indicator.window
  let identifier := indicator.identifier
  let close := Column.close
  let single (column : Column (Option Cell)) : Except FeatureError Outputs := do
    let featureAlias ← indicator.outputKey "default"
    return .single featureAlias column
  if startsWith identifier "sma" then
    let mean ← pandas.rollingMean window 1
    single (Column.numbers (mean.comp close))
  else if startsWith identifier "ema" && identifier != "ema55_slope" then
    let ema ← pandas.ewmMean window
    single (Column.numbers (ema.comp close))
  else if startsWith identifier "rsi" then
    let mean ← pandas.rollingMean window window
    let delta := close.diff
    let gain := mean.comp (delta.clipLower 0)
    let loss := Column.change (-·) (mean.comp (delta.clipUpper 0))
    single (rsi gain loss).numbers
  else if startsWith identifier "atr" then
    let mean ← pandas.rollingMean window window
    single (Column.numbers (mean.comp (trueRange pandas)))
  else if startsWith identifier "ema55_slope" then
    let slope ← emaSlope pandas close window
    single slope.numbers
  else if startsWith identifier "bollinger" then
    let stddev ← indicator.stddev
    let mean ← pandas.rollingMean window window
    let deviation ← pandas.rollingStd window window
    let mid : Column Reading := mean.comp close
    let band := Column.change (stddev * ·) (deviation.comp close)
    let upper ← indicator.outputKey "upper"
    let middle ← indicator.outputKey "middle"
    let lower ← indicator.outputKey "lower"
    return ((Outputs.single upper (mid.add band).numbers).set middle mid.numbers).set lower
      (mid.sub band).numbers
  else if startsWith identifier "macd" then
    let fast ← pandas.ewmMean (← indicator.intParameter "fast_period" (.int 12))
    let slow ← pandas.ewmMean (← indicator.intParameter "slow_period" (.int 26))
    let line := Column.sub (fast.comp close) (slow.comp close)
    let smooth ← pandas.ewmMean (← indicator.intParameter "signal_period" (.int 9))
    let signal : Column Reading := smooth.comp line
    let lineAlias ← indicator.outputKey "line"
    let signalAlias ← indicator.outputKey "signal"
    let histogramAlias ← indicator.outputKey "histogram"
    return ((Outputs.single lineAlias line.numbers).set signalAlias signal.numbers).set
      histogramAlias (line.sub signal).numbers
  else if startsWith identifier "donchian" then
    let highest ← pandas.rollingMax window window
    let lowest ← pandas.rollingMin window window
    let upper := Column.shift (highest.comp Column.high)
    let lower := Column.shift (lowest.comp Column.low)
    let mid := (upper.add lower).change (· / 2)
    return ((Outputs.single (indicator.outputKeyOr "upper") upper.numbers).set
      (indicator.outputKeyOr "lower") lower.numbers).set (indicator.outputKeyOr "mid") mid.numbers
  else if startsWith identifier "zscore" then
    let mean ← pandas.rollingMean window window
    let deviation ← pandas.rollingStd window window
    let std := Column.replaceZero none (deviation.comp close)
    single ((close.sub (mean.comp close)).div std).numbers
  else if startsWith identifier "session_tag" then
    single (.map (fun row => some (.text (sessionLabel row.time))))
  else if startsWith identifier "regime_trend" then
    let slope ← emaSlope pandas close window
    single ((Causal.map (fun reading => some (.number (regime reading)))).comp slope)
  else
    throw (.valueError s!"Indicator '{identifier}' not supported in PoC pipeline")

/-- A column over the index of the frame it was computed from. -/
structure Series where
  index : List Timestamp
  cells : List (Option Cell)
deriving DecidableEq

def Column.over (column : Column (Option Cell)) (frame : Frame) : Series :=
  ⟨frame.index, column.apply frame.rows⟩

def computeIndicator (pandas : Pandas) (indicator : IndicatorDefinition) (frame : Frame) :
    Except FeatureError (Dict String Series) := do
  frame.require [.close, .high, .low]
  let outputs ← indicatorOutputs pandas indicator
  return outputs.columns.mapValues (·.over frame)

theorem computeIndicator_entries {pandas : Pandas} {indicator : IndicatorDefinition}
    {frame : Frame} {series : Dict String Series}
    (computed : computeIndicator pandas indicator frame = .ok series) : series.entries ≠ [] := by
  obtain ⟨-, -, computed⟩ := bind_ok computed
  obtain ⟨outputs, -, computed⟩ := bind_ok computed
  rw [← Except.ok.inj computed]
  simpa [Dict.mapValues] using outputs.nonempty

end FxToushi.Features
