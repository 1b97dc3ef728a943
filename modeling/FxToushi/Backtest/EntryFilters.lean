import FxToushi.Py.Value

namespace FxToushi.Backtest

open Py

/-! # Entry filters

The hours, weekdays and directions in which a strategy's parameters let the
simulator open a position.  A value that cannot be read leaves its filter out.
-/

def itemsFromValue : Value → List Value
  | .null => []
  | .list items => items
  | .str text => (text.splitOn ",").map (fun part => .str (strip part))
  | value => [value]

def hoursFromValue (value : Value) : List Int :=
  (itemsFromValue value).filterMap fun item =>
    item.toInt?.filter (fun hour => decide (0 ≤ hour ∧ hour ≤ 23))

def directionsFromValue (value : Value) : List String :=
  (itemsFromValue value).filterMap fun item =>
    let token := lower (strip item.text)
    if token ∈ ["long", "short"] then some token else none

def weekdayOfToken (token : String) : Option Int :=
  if token ∈ ["mon", "monday"] then some 0
  else if token ∈ ["tue", "tuesday"] then some 1
  else if token ∈ ["wed", "wednesday"] then some 2
  else if token ∈ ["thu", "thursday"] then some 3
  else if token ∈ ["fri", "friday"] then some 4
  else if token ∈ ["sat", "saturday"] then some 5
  else if token ∈ ["sun", "sunday"] then some 6
  else none

def weekdayOfItem : Value → Option Int
  | .bool value => some (if value then 1 else 0)
  | .int value => some value
  | .float value _ => some (truncate value)
  | item => weekdayOfToken (lower (strip item.text))

def weekdaysFromValue (value : Value) : List Int :=
  (itemsFromValue value).filterMap fun item =>
    (weekdayOfItem item).filter (fun weekday => decide (0 ≤ weekday ∧ weekday ≤ 6))

def hourInRange (hour start finish : Int) : Bool :=
  if start ≤ finish then decide (start ≤ hour ∧ hour ≤ finish)
  else decide (start ≤ hour ∨ hour ≤ finish)

/-- A session range that cannot be read allows every hour. -/
def hourAllowedBySession (hour : Int) : Value → Bool
  | .str range =>
    match splitOnce '-' range with
    | none => true
    | some (left, right) =>
      match parseInt? left, parseInt? right with
      | some start, some finish =>
        if 0 ≤ start ∧ start ≤ 23 ∧ 0 ≤ finish ∧ finish ≤ 23 then
          hourInRange hour start finish
        else true
      | _, _ => true
  | _ => true

def entryFilter (entryParams : Mapping) (key : String) : Value :=
  let filters := ((entryParams.get? "filters").getD .null).asMapping
  (entryParams.get? key).getD ((filters.get? key).getD .null)

def blockedHoursFromParams (entryParams : Mapping) : List Int :=
  hoursFromValue (entryFilter entryParams "blocked_utc_hours")

/-- The offset of a named time zone at a moment; `none` for an unknown name. -/
abbrev TimeZones := String → Option (Timestamp → Int)

def blockApplies (zones : TimeZones) (ts : Timestamp) (direction : String) (block : Mapping) :
    Bool :=
  let zoneName := orText (some (strip ((block.get? "timezone").getD (.str "UTC")).text)) "UTC"
  match zones zoneName with
  | none => false
  | some offset =>
    let localTs : Timestamp := ts + offset ts
    let value := fun key other =>
      (block.get? key).getD ((block.get? other).getD .null)
    let weekdays := weekdaysFromValue (value "weekdays" "weekday")
    let hours := hoursFromValue (value "hours" "hour")
    let directions := directionsFromValue (value "directions" "direction")
    (weekdays.isEmpty || weekdays.contains localTs.weekday) &&
      (hours.isEmpty || hours.contains localTs.hour) &&
      (directions.isEmpty || directions.contains direction)

def blockedLocalDirectionWindow (zones : TimeZones) (ts : Timestamp) (direction : String)
    (entryParams : Mapping) : Bool :=
  match entryFilter entryParams "blocked_local_direction_windows" with
  | .list blocks => blocks.any fun
      | .map block => blockApplies zones ts (lower (strip direction)) block
      | _ => false
  | _ => false

def timeframeToMinutes (timeframe : String) : Except PyError Int :=
  let count := parseInt? (String.ofList timeframe.toList.dropLast)
  let scale := fun unit => (count.map (· * unit)).elim (.error .valueError) .ok
  match timeframe.toList.getLast? with
  | some 'm' => scale 1
  | some 'h' => scale 60
  | some 'd' => scale (60 * 24)
  | _ => .error .valueError

end FxToushi.Backtest
