import FxToushi.Features.Pandas
import Mathlib.Algebra.BigOperators.Group.List.Basic
import Mathlib.Algebra.Order.Ring.Int
import Mathlib.Data.List.MinMax
import Mathlib.Data.List.Sort

namespace FxToushi.Features

open Data Py

/-! # pandas on exact numbers

The operations of pandas as they are documented, computed on rationals: a
standard deviation is kept to twelve digits, texts are not parsed as
timestamps, and the rules are those whose intervals divide a day.
-/

namespace Exact

def present (readings : List Reading) : List Rat := readings.filterMap id

theorem present_eq_nil_iff {readings : List Reading} :
    present readings = [] ↔ ∀ reading ∈ readings, reading = none := by
  simp [present, List.filterMap_eq_nil_iff]

/-! ## Reductions -/

def first : Reduction where
  apply readings := (present readings).head?
  apply_eq_none_iff readings := by rw [List.head?_eq_none_iff, present_eq_nil_iff]

def last : Reduction where
  apply readings := (present readings).getLast?
  apply_eq_none_iff readings := by rw [List.getLast?_eq_none_iff, present_eq_nil_iff]

def max : Reduction where
  apply readings := (present readings).max?
  apply_eq_none_iff readings := by rw [List.max?_eq_none_iff, present_eq_nil_iff]

def min : Reduction where
  apply readings := (present readings).min?
  apply_eq_none_iff readings := by rw [List.min?_eq_none_iff, present_eq_nil_iff]

def sum : Total where
  apply readings := some (present readings).sum
  apply_ne_none _ := Option.some_ne_none _

/-! ## Windows -/

/-- `rolling(window, min_periods)` followed by a reduction of what is present. -/
def rolling (reduce : List Rat → Reading) (window minPeriods : Int) :
    Except FeatureError Window :=
  if window < 0 then .error (.valueError "window must be an integer 0 or greater")
  else if window < minPeriods then
    .error (.valueError s!"min_periods {minPeriods} must be <= window {window}")
  else
    .ok (.ofSeen (fun seen =>
      let inside := present (seen.drop (seen.length - window.toNat))
      if inside.length < minPeriods then none else reduce inside))

def mean (readings : List Rat) : Reading :=
  if readings = [] then none else some (readings.sum / readings.length)

def squareRoot (value : Rat) : Rat :=
  ((value * 10 ^ 24).floor.toNat.sqrt : Rat) / 10 ^ 12

def deviation (readings : List Rat) : Reading :=
  if readings.length < 2 then none
  else
    let center := readings.sum / readings.length
    let squares := (readings.map (fun reading => (reading - center) ^ 2)).sum
    some (squareRoot (squares / (readings.length - 1)))

/-- One step of the recursive mean: the mean so far and the weight it has kept
since the last present reading. -/
def ewmStep (weight : Rat) (state : Reading × Rat) (reading : Reading) :
    (Reading × Rat) × Reading :=
  match state.1, reading with
  | none, reading => ((reading, 1), reading)
  | some average, none => ((some average, state.2 * (1 - weight)), some average)
  | some average, some value =>
    let old := state.2 * (1 - weight)
    let next := (old * average + weight * value) / (old + weight)
    ((some next, 1), some next)

def ewmMean (span : Int) : Except FeatureError Window :=
  if span < 1 then .error (.valueError "span must satisfy: span >= 1")
  else .ok (.scan (ewmStep (2 / (span + 1))) (none, 1))

/-! ## Timestamps -/

def everyMinutes (minutes : Nat) (positive : 0 < minutes) : Rule where
  label _ time := time / Timestamp.fromMinutes minutes * Timestamp.fromMinutes minutes
  label_le _ _ := Int.ediv_mul_le _ (by unfold Timestamp.fromMinutes; omega)
  label_mono _ _ _ ordered := by
    have width : 0 < Timestamp.fromMinutes minutes := by unfold Timestamp.fromMinutes; omega
    exact Int.mul_le_mul_of_nonneg_right (Int.ediv_le_ediv width ordered) (le_of_lt width)
  label_label _ _ := by
    have width : 0 < Timestamp.fromMinutes minutes := by unfold Timestamp.fromMinutes; omega
    rw [Int.mul_ediv_cancel _ (ne_of_gt width)]

theorem hour_pos : 0 < 60 := by decide

def rules : List (String × Rule) :=
  [("5t", everyMinutes 5 (by decide)), ("15t", everyMinutes 15 (by decide)),
    ("30t", everyMinutes 30 (by decide)), ("1h", everyMinutes 60 hour_pos),
    ("2h", everyMinutes 120 (by decide)), ("4h", everyMinutes 240 (by decide)),
    ("1d", everyMinutes 1440 (by decide))]

def rule (text : String) : Except FeatureError Rule :=
  match rules.find? (fun entry => entry.1 == text) with
  | some entry => .ok entry.2
  | none => .error (.valueError ("Invalid frequency: " ++ text))

theorem rule_plain (text : String) (intervals : Rule) (known : rule text = .ok intervals) :
    '_' ∉ text.toList := by
  unfold rule at known
  split at known
  · rename_i entry found
    have named : entry.1 = text := by simpa using List.find?_some found
    have every : ∀ name ∈ rules.map Prod.fst, '_' ∉ name.toList := by decide
    exact named ▸ every _ (List.mem_map_of_mem (List.mem_of_find?_eq_some found))
  · exact absurd known (by simp)

def moment : Stamp → Option Timestamp
  | .aware moment => some moment
  | .text _ => none
  | .missing => none

def Earlier (first second : Row) : Prop := first.time ≤ second.time

instance : DecidableRel Earlier := fun first second =>
  inferInstanceAs (Decidable (first.time ≤ second.time))

instance : Std.Total Earlier := ⟨fun first second => Int.le_total first.time second.time⟩

instance : IsTrans Row Earlier := ⟨fun _ _ _ => Int.le_trans⟩

def sort : RowSort where
  apply := List.insertionSort Earlier
  perm := List.perm_insertionSort Earlier
  sorted := List.pairwise_insertionSort Earlier

end Exact

def Pandas.exact : Pandas where
  toDatetime := List.map Exact.moment
  toDatetimeIso := List.map Exact.moment
  toDatetime_aware moments := by
    rw [List.map_map]
    exact List.map_congr_left (fun _ _ => rfl)
  sortIndex := Exact.sort
  sortValues := Exact.sort
  rollingMean := Exact.rolling Exact.mean
  rollingStd := Exact.rolling Exact.deviation
  rollingMax := Exact.rolling List.max?
  rollingMin := Exact.rolling List.min?
  ewmMean := Exact.ewmMean
  rule := Exact.rule
  rule_plain := Exact.rule_plain
  first := Exact.first
  max := Exact.max
  min := Exact.min
  last := Exact.last
  sum := Exact.sum

end FxToushi.Features
