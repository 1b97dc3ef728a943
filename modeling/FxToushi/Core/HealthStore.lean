import FxToushi.Calendar.Service
import FxToushi.Core.JsonlLogs
import FxToushi.Data.Greatest
import FxToushi.Py.JsonIndent

namespace FxToushi.Core

open Calendar Data Py

/-! # The health state store

A transition is appended to the history, and the counters of the state file are
computed from the whole history again.  The reading and writing of times is an
input; the ledger of acknowledgements is left out.
-/

/-- `datetime.isoformat` and `datetime.fromisoformat`, with `none` for a `ValueError`. -/
structure IsoTexts where
  isoformat : DateTime → String
  fromisoformat : String → Option DateTime

namespace IsoTexts

variable (texts : IsoTexts)

def parseTs : Value → Option DateTime
  | .str text =>
    if text = "" then none else texts.fromisoformat (replaceText "Z" "+00:00" text)
  | _ => none

/-- `moment.isoformat().replace("+00:00", "Z")`. -/
def writeTs (moment : DateTime) : String := replaceText "+00:00" "Z" (texts.isoformat moment)

end IsoTexts

inductive HealthError where
  | python (error : PyError)
  | decode
  | overflow
deriving Repr, DecidableEq

structure HealthStateSummary where
  currentState : String := "ok"
  lastOkTs : Value := .null
  rolling30dDegradedCount : Int := 0
  businessDaysSinceLastOk : Int := 0

namespace HealthStateSummary

def toDict (summary : HealthStateSummary) : Value :=
  .map [("current_state", .str summary.currentState), ("last_ok_ts", summary.lastOkTs),
    ("rolling_30d_degraded_count", .int summary.rolling30dDegradedCount),
    ("business_days_since_last_ok", .int summary.businessDaysSinceLastOk)]

end HealthStateSummary

namespace HealthStateStore

/-- `payload.get(key)`. -/
def field (payload : Mapping) (key : String) : Value := (payload.get? key).getD .null

/-! ## Times -/

/-- `left < right`, which does not compare a time with an offset and one without. -/
def precedes (left right : DateTime) : Except HealthError Bool :=
  if left.offset.isSome = right.offset.isSome then .ok (decide (left.instant < right.instant))
  else .error (.python .typeError)

def dayLength : Int := 86400000000

/-- The number of the day in the time's own zone; day 0 is a Monday. -/
def dayOf (moment : DateTime) : Int := moment.time / dayLength

def lastDay : Int := lastTime / dayLength

/-- Steps the cursor through so many days; no day follows the last of the year 9999. -/
def countWeekdays : Nat → Int → Int → Except HealthError Int
  | 0, _, count => .ok count
  | days + 1, cursor, count =>
    let count := if cursor % 7 < 5 then count + 1 else count
    if cursor < lastDay then countWeekdays days (cursor + 1) count else .error .overflow

def businessDaysSince (start : Option DateTime) (stop : DateTime) : Except HealthError Int :=
  match start with
  | none => .ok 0
  | some start => countWeekdays (dayOf stop - dayOf start).toNat (dayOf start + 1) 0

/-- `now - timedelta(days=30)`. -/
def cutoffOf (now : DateTime) : Except HealthError DateTime :=
  (now.shift (-(30 * dayLength))).mapError fun _ => .overflow

/-! ## The history -/

/-- What `get` is called on. -/
def asEntry : Value → Except HealthError Mapping
  | .map entry => .ok entry
  | _ => .error (.python .attributeError)

def entryState (entry : Mapping) : String :=
  lower (orValue (orValue (field entry "to") (field entry "to_state")) (.str "")).text

def latestOkTs (texts : IsoTexts) (history : List Value) :
    Except HealthError (Option DateTime) := do
  let entries ← tryMap asEntry history
  greatest? precedes ((entries.filter fun entry => entryState entry == "ok").filterMap fun entry =>
    texts.parseTs (field entry "ts"))

def degradedStates : List String := ["degraded", "soft_stop", "hard_stop"]

/-- Whether the entry is counted. -/
def countsAfter (texts : IsoTexts) (cutoff : DateTime) (value : Value) :
    Except HealthError Bool := do
  let entry ← asEntry value
  match texts.parseTs (field entry "ts") with
  | none => return false
  | some moment =>
    if ← precedes moment cutoff then return false
    else return degradedStates.contains (entryState entry)

def rollingDegradedCount (texts : IsoTexts) (history : List Value) (now : DateTime) :
    Except HealthError Int := do
  let cutoff ← cutoffOf now
  let counted ← tryMap (countsAfter texts cutoff) history
  return counted.count true

/-! ## The store -/

/-- The history file, empty also where there is none, and the state file. -/
structure Files where
  history : List Char := []
  state : Option (List Char) := none

def loadState : Option (List Char) → Except HealthError HealthStateSummary
  | none => .ok {}
  | some content =>
    match Json.loads content with
    | none => .error .decode
    | some (.map payload) => do
        let count ← (orValue (field payload "rolling_30d_degraded_count")
          (.int 0)).toInt.mapError .python
        let days ← (orValue (field payload "business_days_since_last_ok")
          (.int 0)).toInt.mapError .python
        return {
          currentState := (orValue (field payload "current_state") (.str "ok")).text
          lastOkTs := field payload "last_ok_ts"
          rolling30dDegradedCount := count
          businessDaysSinceLastOk := days }
    | some _ => .error (.python .attributeError)

/-- `refresh_counters`, as `record_transition` calls it. -/
def refreshCounters (texts : IsoTexts) (history : List Value) (summary : HealthStateSummary)
    (now : DateTime) : Except HealthError HealthStateSummary := do
  let lastOk ← latestOkTs texts history
  let lastOkTs := match lastOk with
    | some moment => .str (texts.writeTs moment)
    | none => summary.lastOkTs
  let count ← rollingDegradedCount texts history now
  let days ← businessDaysSince (texts.parseTs lastOkTs) now
  return { summary with
    lastOkTs
    rolling30dDegradedCount := count
    businessDaysSinceLastOk := days }

/-- A call of `record_transition` and the time of the machine; the event's floats
print as they read, and a key is given once. -/
structure Call where
  event : Mapping
  utcnow : DateTime
  wellFormed : Json.WellFormed (.map event)

namespace Call

variable (call : Call)

def moment (texts : IsoTexts) : DateTime :=
  (texts.parseTs (.str (orValue (field call.event "ts") (.str "")).text)).getD call.utcnow

def fromState (current : String) : String :=
  (orValue (orValue (field call.event "from_state") (field call.event "from"))
    (.str current)).text

def levelStates : List (String × String) :=
  [("ok", "ok"), ("info", "ok"), ("warn", "warn"), ("warning", "warn"), ("degraded", "degraded"),
    ("soft_stop", "soft_stop"), ("critical", "soft_stop"), ("hard_stop", "hard_stop"),
    ("fatal", "hard_stop")]

def resolveToState (fallback : String) : String :=
  let toState := orValue (orValue (field call.event "to_state") (field call.event "to"))
    (field call.event "status")
  if toState.truth then toState.text
  else
    let level := lower (orValue (field call.event "level") (.str "")).text
    ((levelStates.find? fun entry => entry.1 == level).map Prod.snd).getD fallback

/-- What is appended to the history. -/
def payload (texts : IsoTexts) (current : String) : Mapping :=
  [("ts", .str (texts.writeTs (call.moment texts))), ("from", .str (call.fromState current)),
    ("to", .str (call.resolveToState current)),
    ("reason", orValue (orValue (field call.event "reason") (field call.event "code"))
      (field call.event "detail")),
    ("alert_id", field call.event "alert_id"), ("runbook_ref", field call.event "runbook_ref")]

end Call

/-- The entry is in the history also when the counters raise. -/
def recordTransition (texts : IsoTexts) (files : Files) (call : Call) :
    Files × Except HealthError HealthStateSummary :=
  match loadState files.state with
  | .error error => (files, .error error)
  | .ok summary =>
    let moment := call.moment texts
    let toState := call.resolveToState summary.currentState
    let history := appendJsonl files.history (call.payload texts summary.currentState)
    let told := { summary with
      lastOkTs := if toState = "ok" then .str (texts.writeTs moment) else summary.lastOkTs
      currentState := toState }
    match refreshCounters texts (readHistory history) told moment with
    | .error error => ({ files with history }, .error error)
    | .ok summary =>
      ({ history, state := some (Json.dumpsIndented 0 summary.toDict) }, .ok summary)

end HealthStateStore

end FxToushi.Core
