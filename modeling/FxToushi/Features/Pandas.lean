import FxToushi.Data.AsOf
import FxToushi.Data.Dict
import FxToushi.Data.Fallible
import FxToushi.Py.Value
import Mathlib.Algebra.Order.Field.Rat

namespace FxToushi.Features

open Data Py

/-! # Price frames

Bars as the pipeline reads them, and the part of pandas it rests on: parsing
and sorting timestamps, rolling and exponential windows, resampling rules and
the reductions of an interval.  Numbers are rationals, a missing number (NaN)
is `none`.
-/

abbrev Reading := Option Rat

/-- What a feature column holds where it is not missing. -/
inductive Cell where
  | number (value : Rat)
  | text (text : String)
deriving Repr, DecidableEq

inductive PriceColumn where
  | timestamp
  | ts
  | openPrice
  | high
  | low
  | close
  | volume
deriving Repr, DecidableEq

def PriceColumn.name : PriceColumn → String
  | .timestamp => "timestamp"
  | .ts => "ts"
  | .openPrice => "open"
  | .high => "high"
  | .low => "low"
  | .close => "close"
  | .volume => "volume"

inductive FeatureError where
  | python (error : PyError)
  | keyError (key : String)
  | missingColumns (columns : List PriceColumn)
  | valueError (message : String)
deriving Repr, DecidableEq

/-- A cell of the timestamp column as the caller handed it over. -/
inductive Stamp where
  | aware (moment : Timestamp)
  | text (text : String)
  | missing
deriving Repr, DecidableEq

structure RawRow where
  timestamp : Stamp := .missing
  ts : Stamp := .missing
  openPrice : Reading := none
  high : Reading := none
  low : Reading := none
  close : Reading := none
  volume : Reading := none
deriving Repr, DecidableEq

/-- A data frame of bars.  A cell whose column is not listed is never read. -/
structure PriceFrame where
  columns : List PriceColumn
  rows : List RawRow
deriving Repr, DecidableEq

/-- A bar under its parsed timestamp. -/
structure Row where
  time : Timestamp
  openPrice : Reading
  high : Reading
  low : Reading
  close : Reading
  volume : Reading
deriving Repr, DecidableEq

/-- A frame indexed by timestamp. -/
structure Frame where
  columns : List PriceColumn
  rows : List Row
deriving Repr, DecidableEq

namespace Frame

def index (frame : Frame) : List Timestamp := frame.rows.map Row.time

/-- Reading a column the frame does not have raises a `KeyError`. -/
def require (frame : Frame) : List PriceColumn → Except FeatureError Unit
  | [] => .ok ()
  | column :: rest =>
    if column ∈ frame.columns then frame.require rest else .error (.keyError column.name)

theorem require_ok_iff {frame : Frame} {columns : List PriceColumn} :
    frame.require columns = .ok () ↔ columns ⊆ frame.columns := by
  induction columns with
  | nil => simp [require]
  | cons column rest ih =>
    by_cases present : column ∈ frame.columns <;> simp [require, present, ih]

end Frame

/-! ## pandas -/

/-- A reduction that skips what is missing, such as `first` or `max`. -/
structure Reduction where
  apply : List Reading → Reading
  apply_eq_none_iff : ∀ readings, apply readings = none ↔ ∀ reading ∈ readings, reading = none

/-- `sum`, which starts from zero and skips what is missing. -/
structure Total where
  apply : List Reading → Reading
  apply_ne_none : ∀ readings, apply readings ≠ none

/-- Sorting by timestamp.  Nothing is promised about equal timestamps. -/
structure RowSort where
  apply : List Row → List Row
  perm : ∀ rows, (apply rows).Perm rows
  sorted : ∀ rows, (apply rows).Pairwise (fun first second => first.time ≤ second.time)

/-- The intervals of a resampling rule, closed and labelled on the left.  They
may depend on the first timestamp of the frame, the origin. -/
structure Rule where
  label : Timestamp → Timestamp → Timestamp
  label_le : ∀ origin time, label origin time ≤ time
  label_mono : ∀ origin earlier later, earlier ≤ later → label origin earlier ≤ label origin later
  label_label : ∀ origin time, label origin (label origin time) = label origin time

abbrev Window := Causal Reading Reading

structure Pandas where
  toDatetime : List Stamp → List (Option Timestamp)
  toDatetimeIso : List Stamp → List (Option Timestamp)
  toDatetime_aware : ∀ moments : List Timestamp, toDatetime (moments.map .aware) = moments.map some
  sortIndex : RowSort
  sortValues : RowSort
  rollingMean : Int → Int → Except FeatureError Window
  rollingStd : Int → Int → Except FeatureError Window
  rollingMax : Int → Int → Except FeatureError Window
  rollingMin : Int → Int → Except FeatureError Window
  ewmMean : Int → Except FeatureError Window
  rule : String → Except FeatureError Rule
  /-- No offset alias has an underscore. -/
  rule_plain : ∀ text intervals, rule text = .ok intervals → '_' ∉ text.toList
  first : Reduction
  max : Reduction
  min : Reduction
  last : Reduction
  sum : Total

/-! ## Columns -/

/-- A column computed from the rows of a frame. -/
abbrev Column (Value : Type) := Causal Row Value

namespace Column

def openPrice : Column Reading := .map Row.openPrice

def high : Column Reading := .map Row.high

def low : Column Reading := .map Row.low

def close : Column Reading := .map Row.close

def volume : Column Reading := .map Row.volume

def constant (value : Rat) : Column Reading := .map (fun _ => some value)

def both (combine : Rat → Rat → Rat) (left right : Reading) : Reading := do
  return combine (← left) (← right)

def add (left right : Column Reading) : Column Reading := left.zipWith (both (· + ·)) right

def sub (left right : Column Reading) : Column Reading := left.zipWith (both (· - ·)) right

/-- The pipeline replaces the zeros of a divisor before it divides. -/
def div (left right : Column Reading) : Column Reading :=
  left.zipWith (fun value divisor => if divisor = some 0 then none else both (· / ·) value divisor)
    right

def change (image : Rat → Rat) (column : Column Reading) : Column Reading :=
  (Causal.map (Option.map image)).comp column

def abs (column : Column Reading) : Column Reading := column.change (|·|)

def shift (column : Column Reading) : Column Reading := (Causal.shift none).comp column

def diff (column : Column Reading) : Column Reading := column.sub column.shift

def clipLower (bound : Rat) (column : Column Reading) : Column Reading :=
  column.change (Max.max bound)

def clipUpper (bound : Rat) (column : Column Reading) : Column Reading :=
  column.change (Min.min bound)

def replaceZero (replacement : Reading) (column : Column Reading) : Column Reading :=
  (Causal.map (fun reading => if reading = some 0 then replacement else reading)).comp column

def numbers (column : Column Reading) : Column (Option Cell) :=
  (Causal.map (Option.map Cell.number)).comp column

end Column

end FxToushi.Features
