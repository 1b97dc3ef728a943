import FxToushi.Calendar.Service
import FxToushi.Core.Health
import FxToushi.Core.JsonlLogs
import FxToushi.Py.Extended

namespace FxToushi.Core

open Data Py Calendar

/-! # The time sync guard

The clock drift is logged as JSON lines.  The guard rates the latest one by its
magnitude and tells the health monitor.  The file is the text it holds, or
nothing where there is no file.
-/

/-- What a guard that reads the drift may raise. -/
inductive DriftError where
  | overflow
  | attribute
  | zeroDivision
  | date (error : CalendarError)
deriving Repr, DecidableEq

/-- `float(value)`, with `none` for a `TypeError` or a `ValueError`. -/
def floatOf : Value → Except DriftError (Option Extended)
  | .bool value => .ok (some (.finite (if value then 1 else 0)))
  | .int value =>
    if value.natAbs < floatLimit then .ok (some (.finite value)) else .error .overflow
  | .float value text => .ok (some (.read value text))
  | .str text => .ok (floatOfText text)
  | _ => .ok none

/-- `abs(value)`. -/
def magnitude : Extended → Extended
  | .finite value => .finite |value|
  | .infinite _ => .infinite false
  | .nan => .nan

/-- `format(value, ".1f")`. -/
def formatDrift : Extended → String
  | .finite value => formatFixed 1 value
  | .infinite negative => if negative then "-inf" else "inf"
  | .nan => "nan"

structure TimeSyncEvaluation where
  status : String
  driftMs : Option Extended
  level : Option String
  action : Option String
  reason : Option String
  runbook : Option String
  details : List String
  ts : Timestamp
deriving Repr, DecidableEq

structure TimeSyncGuard where
  warnThresholdMs : Int := 500
  majorThresholdMs : Int := 1500
  criticalThresholdMs : Int := 3000
  resumeThresholdMs : Int := 200
  resumeWindowMinutes : Int := 30
  resumeMinSamples : Int := 3
  runbook : String := "docs/runbooks/RUN-TIME-01.md"
deriving Repr, DecidableEq

/-! ## The metrics file -/

/-- The documents of the file, of any shape. -/
def documents (content : Option (List Char)) : List Value :=
  match content with
  | none => []
  | some content => readLines id content

def readJsonl (content : Option (List Char)) : List Mapping :=
  (documents content).filterMap Value.mapping?

/-- The search of `_find_latest_drift`, over the entries with the last first. -/
def latestOf : List Mapping → Except DriftError (Option Mapping)
  | [] => .ok none
  | entry :: earlier =>
    match entry.given? "clock_drift_ms" with
    | none => latestOf earlier
    | some drift => do
        match ← floatOf drift with
        | none => latestOf earlier
        | some _ => return some entry

def findLatestDrift (entries : List Mapping) : Except DriftError (Option Mapping) :=
  latestOf entries.reverse

/-- `_parse_ts` of a value that was read from JSON. -/
def parseTs (fromisoformat : String → Option DateTime) (value : Value) : Option DateTime :=
  match value with
  | .null => none
  | value =>
    let text := value.text
    fromisoformat (if text.endsWith "Z" then (text.dropEnd 1).toString ++ "+00:00" else text)

/-- The drift of a sample that counts: one of the window with a drift that is a
number. -/
def recentSample (fromisoformat : String → Option DateTime) (cutoff : DateTime)
    (entry : Mapping) : Except DriftError (Option Extended) := do
  let stamp := orValue ((entry.get? "ts").getD .null) ((entry.get? "timestamp").getD .null)
  match parseTs fromisoformat stamp with
  | none => return none
  | some ts =>
    let reached ← (cutoff.le ts).mapError .date
    if reached then
      match entry.given? "clock_drift_ms" with
      | none => return none
      | some drift => return (← floatOf drift).map magnitude
    else return none

namespace TimeSyncGuard

def recentOk (guard : TimeSyncGuard) (fromisoformat : String → Option DateTime)
    (entries : List Mapping) (now : DateTime) : Except DriftError Bool := do
  let cutoff ← (now.shift (-minutes guard.resumeWindowMinutes)).mapError .date
  let samples ← tryMap (recentSample fromisoformat cutoff) entries
  let counted := samples.filterMap id
  if (counted.length : Int) < guard.resumeMinSamples then return false
  else return counted.all (fun sample => sample.le (.finite guard.resumeThresholdMs))

/-- The status of a drift and the level its condition is raised with. -/
def rate (guard : TimeSyncGuard) (driftMs : Extended) : String × Option String :=
  if Extended.le (.finite guard.criticalThresholdMs) driftMs then ("critical", some "degraded")
  else if Extended.le (.finite guard.majorThresholdMs) driftMs then ("major", some "degraded")
  else if Extended.le (.finite guard.warnThresholdMs) driftMs then ("warn", some "warning")
  else ("ok", none)

/-- `now` is the clock, and `logged` the outcome of the log write of the
condition it raises. -/
def evaluate (guard : TimeSyncGuard) (fromisoformat : String → Option DateTime)
    (metricsPath : String) (content : Option (List Char)) (monitor : HealthMonitor)
    (now : DateTime) (logged : Bool) : Except DriftError (TimeSyncEvaluation × HealthMonitor) := do
  let entries := readJsonl content
  let unrated : TimeSyncEvaluation :=
    { status := "unavailable", driftMs := none, level := none, action := none, reason := none
      runbook := some guard.runbook, details := ["metrics_missing"], ts := now.time }
  if entries.isEmpty then return (unrated, monitor)
  match ← findLatestDrift entries with
  | none => return ({ unrated with status := "unknown", details := ["drift_unavailable"] }, monitor)
  | some latest =>
    let driftMs := magnitude ((← floatOf ((latest.get? "clock_drift_ms").getD .null)).getD .nan)
    let detail := "clock_drift_ms=" ++ formatDrift driftMs
    let (status, level) := guard.rate driftMs
    let rated := { unrated with status, driftMs := some driftMs, level, details := [detail] }
    match level with
    | some level =>
      let raised := monitor.raiseCondition now.time logged level "clock_out_of_sync"
        (some detail) (some "runbook:RUN-TIME-01#sync")
      return ({ rated with action := some "guarded", reason := some "clock_out_of_sync" },
        raised.suggestGuarded now.time "clock_out_of_sync" (some guard.runbook) [metricsPath]
          none none)
    | none =>
      if ← guard.recentOk fromisoformat entries now then
        let reason := "clock_out_of_sync_recovered"
        return ({ rated with
            status := "recovered", action := some "resume", reason := some reason },
          monitor.suggestResume now.time reason (some guard.runbook) [metricsPath] none none)
      else return (rated, monitor)

/-! ## What is rated -/

/-- The magnitude of the drift reaches one of the thresholds. -/
def Reaches (guard : TimeSyncGuard) (drift : Int) : Prop :=
  guard.criticalThresholdMs ≤ |drift| ∨ guard.majorThresholdMs ≤ |drift| ∨
    guard.warnThresholdMs ≤ |drift|

theorem rate_iff (guard : TimeSyncGuard) (drift : Int) :
    (guard.rate (.finite |(drift : Rat)|)).2 ≠ none ↔ guard.Reaches drift := by
  have threshold (bound : Int) :
      Extended.le (.finite bound) (.finite |(drift : Rat)|) = true ↔ bound ≤ |drift| := by
    rw [Extended.le, decide_eq_true_eq, ← Int.cast_abs, Int.cast_le]
  unfold rate Reaches
  rw [← threshold, ← threshold, ← threshold]
  split
  · rename_i critical
    simp [critical]
  · rename_i critical
    split
    · rename_i major
      simp [major]
    · rename_i major
      split
      · rename_i warn
        simp [warn]
      · rename_i warn
        simp [critical, major, warn]

theorem rate_status (guard : TimeSyncGuard) (drift : Extended) :
    (guard.rate drift).1 ∈ ["warn", "major", "critical"] ↔ (guard.rate drift).2 ≠ none := by
  unfold rate
  split
  · simp
  · split
    · simp
    · split
      · simp
      · simp

end TimeSyncGuard

/-- The entry that is found has a drift that is a number. -/
theorem number_of_latestOf {entries : List Mapping} {entry : Mapping}
    (latest : latestOf entries = .ok (some entry)) :
    ∃ drift number, entry.given? "clock_drift_ms" = some drift ∧
      floatOf drift = .ok (some number) := by
  induction entries with
  | nil => cases latest
  | cons first earlier ih =>
    unfold latestOf at latest
    cases given : first.given? "clock_drift_ms" with
    | none =>
      simp only [given] at latest
      exact ih latest
    | some drift =>
      simp only [given] at latest
      obtain ⟨number, read, latest⟩ := bind_ok latest
      cases number with
      | none => exact ih latest
      | some number =>
        cases latest
        exact ⟨drift, number, given, read⟩

theorem get?_of_given? {mapping : Mapping} {key : String} {value : Value}
    (given : mapping.given? key = some value) : mapping.get? key = some value := by
  unfold Mapping.given? at given
  split at given
  · cases given
  · exact given

/-- The latest drift that is recorded is the integer `drift`. -/
structure LatestDrift (content : Option (List Char)) (drift : Int) : Prop where
  recorded : ∃ entry : Mapping, findLatestDrift (readJsonl content) = .ok (some entry) ∧
    entry.given? "clock_drift_ms" = some (.int drift)

/-- The integer the latest entry with a drift records, if it is one. -/
def recordedDrift (content : Option (List Char)) : Option Int :=
  match findLatestDrift (readJsonl content) with
  | .ok (some entry) =>
    match entry.given? "clock_drift_ms" with
    | some (.int drift) => some drift
    | _ => none
  | _ => none

namespace LatestDrift

variable {content : Option (List Char)} {drift : Int}

theorem of_recordedDrift (recorded : recordedDrift content = some drift) :
    LatestDrift content drift := by
  unfold recordedDrift at recorded
  split at recorded
  · rename_i entry found
    split at recorded
    · rename_i value given
      cases recorded
      exact ⟨entry, found, given⟩
    · cases recorded
  · cases recorded

theorem float (latest : LatestDrift content drift) :
    floatOf (.int drift) = .ok (some (.finite drift)) := by
  obtain ⟨entry, found, given⟩ := latest.recorded
  obtain ⟨value, number, same, read⟩ := number_of_latestOf found
  rw [given] at same
  cases same
  rw [floatOf] at read ⊢
  by_cases small : drift.natAbs < floatLimit
  · rw [if_pos small]
  · rw [if_neg small] at read
    cases read

theorem nonempty (latest : LatestDrift content drift) : (readJsonl content).isEmpty = false := by
  obtain ⟨entry, found, -⟩ := latest.recorded
  cases entries : readJsonl content with
  | nil => rw [entries] at found; cases found
  | cons first rest => rfl

end LatestDrift

/-- A drift is rated `warn` or worse by its magnitude alone. -/
theorem TimeSyncGuard.evaluate_rates_iff {content : Option (List Char)} {drift : Int}
    (latest : LatestDrift content drift) (guard : TimeSyncGuard)
    (fromisoformat : String → Option DateTime) (metricsPath : String) (monitor : HealthMonitor)
    (now : DateTime) (logged : Bool) :
    (∃ evaluation after,
        guard.evaluate fromisoformat metricsPath content monitor now logged =
          .ok (evaluation, after) ∧ evaluation.status ∈ ["warn", "major", "critical"]) ↔
      guard.Reaches drift := by
  obtain ⟨entry, found, given⟩ := latest.recorded
  have rated : magnitude (.finite (drift : Rat)) = .finite |(drift : Rat)| := rfl
  rw [← guard.rate_iff drift]
  unfold evaluate
  simp only [latest.nonempty, found, get?_of_given? given, latest.float, rated, bind, Except.bind,
    Option.getD_some, Bool.false_eq_true, if_false]
  cases level : (guard.rate (.finite |(drift : Rat)|)).2 with
  | some level =>
    have worse := (guard.rate_status (.finite |(drift : Rat)|)).mpr (by simp [level])
    constructor
    · intro _
      simp
    · intro _
      exact ⟨_, _, rfl, worse⟩
  | none =>
    have fine := (guard.rate_status (.finite |(drift : Rat)|)).not.mpr (by simp [level])
    constructor
    · intro ⟨evaluation, after, evaluated, worse⟩
      obtain ⟨resumed, -, evaluated⟩ := bind_ok evaluated
      cases resumed with
      | true =>
        cases evaluated
        simp at worse
      | false =>
        cases evaluated
        exact absurd worse fine
    · intro absurdity
      exact absurd rfl absurdity

end FxToushi.Core
