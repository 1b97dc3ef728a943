import FxToushi.Core.JsonlLogs
import FxToushi.Data.Runs
import FxToushi.Ingestion.Backfill

namespace FxToushi.Core

open Data Py

/-! # Resync jobs

Every record of the queue file is a job as it stood at some time, the latest
record of a job counts.  A pass loads the jobs, backfills them or asks for a
manual CSV, and appends a record of the new status to the same file.
-/

namespace Resync

/-- The dates and times of the standard library.  A text may end in `Z`, and
`isoformat` writes `Z` for UTC; a text without a zone is read as UTC. -/
structure Calendar (Moment : Type) where
  fromisoformat : String → Option Moment
  isoformat : Moment → String
  date : Moment → String
  compare : Moment → Moment → Ordering

structure ResyncJob (Moment : Type) where
  jobId : String
  resyncJobId : Value
  start : Moment
  stop : Moment
  symbols : List String
  timeframe : String
  priority : String
  failoverPlan : List String
  manualCsvRequired : Bool
  retryCount : Int
  status : String
  segmentIndex : Value
  segmentTotal : Value

variable {Moment : Type}

/-! ## Loading the queue -/

/-- `payload.get(key)`. -/
def field (payload : Mapping) (key : String) : Value := (payload.get? key).getD .null

/-- `str(payload.get(key) or default)`. -/
def textField (payload : Mapping) (key default : String) : String :=
  (orValue (field payload key) (.str default)).text

/-- `[str(item) for item in payload.get(key) or ()]`. -/
def textsField (payload : Mapping) (key : String) : Except PyError (List String) :=
  (iterate (orValue (field payload key) (.list []))).map (fun items => items.map Value.text)

def parseDt (calendar : Calendar Moment) (value : Value) : Option Moment :=
  match value with
  | .null => none
  | value =>
    let text := strip value.text
    if text = "" then none else calendar.fromisoformat text

/-- `now` are the readings that stand in for a missing start and end. -/
def ResyncJob.fromMapping (calendar : Calendar Moment) (now : Moment × Moment)
    (payload : Mapping) : Except PyError (ResyncJob Moment) := do
  let symbols ← textsField payload "symbols"
  let failoverPlan ← textsField payload "failover_plan"
  let retryCount ← (orValue (field payload "retry_count") (.int 0)).toInt
  return {
    jobId := textField payload "job_id" ""
    resyncJobId := field payload "resync_job_id"
    start := (parseDt calendar (field payload "start")).getD now.1
    stop := (parseDt calendar (field payload "end")).getD now.2
    symbols
    timeframe := textField payload "timeframe" "M5"
    priority := textField payload "priority" "normal"
    failoverPlan
    manualCsvRequired := (field payload "manual_csv_required").truth
    retryCount
    status := textField payload "status" "queued"
    segmentIndex := field payload "segment_index"
    segmentTotal := field payload "segment_total" }

/-- The last record of every job, at the place of its first. -/
def latestEntries (latest : Dict String Mapping) : List Value → Except PyError (Dict String Mapping)
  | [] => .ok latest
  | .map payload :: rest =>
    let jobId := field payload "job_id"
    latestEntries (if jobId.truth then latest.set jobId.text payload else latest) rest
  | _ :: _ => .error .attributeError

def number? : Value → Option Rat
  | .bool value => some (if value then 1 else 0)
  | .int value => some value
  | .float value _ => some value
  | _ => none

mutual

/-- How two values are ordered, where they can be.  Mappings cannot. -/
def compareValues : Value → Value → Option Ordering
  | .null, .null => some .eq
  | .str left, .str right => some (compareOfLessAndEq left right)
  | .list left, .list right => compareItems left right
  | left, right => do
      let leftNumber ← number? left
      let rightNumber ← number? right
      return compareOfLessAndEq leftNumber rightNumber

def compareItems : List Value → List Value → Option Ordering
  | [], [] => some .eq
  | [], _ :: _ => some .lt
  | _ :: _, [] => some .gt
  | left :: lefts, right :: rights => do
      match ← compareValues left right with
      | .eq => compareItems lefts rights
      | order => some order

end

/-- The sort key of a job is the resync job, the segment and the start. -/
def ResyncJob.compare (calendar : Calendar Moment) (left right : ResyncJob Moment) :
    Option Ordering := do
  let named ← compareValues (orValue left.resyncJobId (.str ""))
      (orValue right.resyncJobId (.str ""))
  let placed ← if named = .eq then
      compareValues (orValue left.segmentIndex (.int 0)) (orValue right.segmentIndex (.int 0))
    else some named
  return placed.then (calendar.compare left.start right.start)

def comparable (calendar : Calendar Moment) : List (ResyncJob Moment) → Bool
  | [] => true
  | job :: rest => rest.all (fun other => (job.compare calendar other).isSome) &&
      comparable calendar rest

def sortJobs (calendar : Calendar Moment) (jobs : List (ResyncJob Moment)) :
    Except PyError (List (ResyncJob Moment)) :=
  if comparable calendar jobs then
    .ok (jobs.mergeSort (fun left right => left.compare calendar right != some .gt))
  else .error .typeError

def loadEntries (calendar : Calendar Moment) (now : Nat → Moment × Moment)
    (entries : List Value) : Except PyError (List (ResyncJob Moment)) := do
  let latest ← latestEntries Dict.empty entries
  let jobs ← tryMap (fun entry =>
    ResyncJob.fromMapping calendar (now entry.2) entry.1.2) latest.entries.zipIdx
  sortJobs calendar jobs

def loadQueue (calendar : Calendar Moment) (now : Nat → Moment × Moment) (content : List Char) :
    Except PyError (List (ResyncJob Moment)) :=
  loadEntries calendar now (ResyncQueue.readJsonl content)

/-! ## Processing the jobs -/

/-- A record of the manual jobs log; the work log repeats it. -/
structure ManualCsvJob where
  ts : String
  jobId : String
  task : String := "manual_csv"
  provider : String := "manual_csv"
  symbol : String
  timeframe : String
  date : String
  start : String
  stop : String
  status : String := "queued"
  resyncJobId : Value
  sourceJobId : String

/-- What a record of a new status says beyond the job itself. -/
structure Update where
  status : String
  providerUsed : Option String := none
  bars : Option Nat := none
  error : Option String := none
  retryCount : Option Int := none

def texts (items : List String) : Value := .list (items.map Value.str)

def queueUpdate (calendar : Calendar Moment) (ts : String) (job : ResyncJob Moment)
    (update : Update) : Mapping :=
  [("ts", .str ts), ("job_id", .str job.jobId), ("resync_job_id", job.resyncJobId),
    ("segment_index", job.segmentIndex), ("segment_total", job.segmentTotal),
    ("start", .str (calendar.isoformat job.start)), ("end", .str (calendar.isoformat job.stop)),
    ("symbols", texts job.symbols), ("timeframe", .str job.timeframe),
    ("priority", .str job.priority), ("failover_plan", texts job.failoverPlan),
    ("manual_csv_required",
      .bool (job.manualCsvRequired || update.status == "manual_csv_required")),
    ("retry_count", .int (update.retryCount.getD job.retryCount)),
    ("status", .str update.status)] ++
  (if truthy update.providerUsed then [("provider_used", .str (update.providerUsed.getD ""))]
    else []) ++
  (update.bars.toList.map (fun bars => ("bars", .int bars))) ++
  (if truthy update.error then [("error", .str (update.error.getD ""))] else [])

/-- How a call of `backfill` ends; an error that is not caught ends the pass. -/
inductive Outcome where
  | completed (result : Ingestion.BackfillResult)
  | failed (message : String)
  | raised
deriving Repr, DecidableEq

/-- What a pass meets: the clock readings for its records and the end of every
backfill. -/
structure Pass (Moment : Type) where
  now : Nat → Moment × Moment
  stamp : Nat → Nat → String
  backfill : ResyncJob Moment → Outcome
  dryRun : Bool := false

structure Summary where
  jobs : List Mapping := []
  jobsCompleted : Nat := 0
  jobsFailed : Nat := 0
  failoverUsed : List String := []
  manualCsvEnqueued : Nat := 0
  retryCount : Int := 0

/-- `manualJobs` are the jobs these passes appended to the log.  `backfilled`
is for the statements only: the jobs handed to `backfill`, as they were loaded. -/
structure Progress (Moment : Type) where
  queue : List Char
  manualJobs : List ManualCsvJob
  backfilled : List (ResyncJob Moment)
  summary : Summary := {}

def manualCsvJob (calendar : Calendar Moment) (stamp : Nat → String) (job : ResyncJob Moment)
    (entry : String × Nat) : ManualCsvJob where
  ts := stamp entry.2
  jobId := "manual_csv_" ++ entry.1 ++ "_" ++ job.timeframe ++ "_" ++ calendar.date job.start
  symbol := entry.1
  timeframe := job.timeframe
  date := calendar.date job.start
  start := calendar.isoformat job.start
  stop := calendar.isoformat job.stop
  resyncJobId := job.resyncJobId
  sourceJobId := job.jobId

def enqueueManualCsvJobs (calendar : Calendar Moment) (stamp : Nat → String)
    (progress : Progress Moment) (job : ResyncJob Moment) : Progress Moment :=
  { progress with
    manualJobs := progress.manualJobs ++
      (job.symbols.zipIdx 1).map (manualCsvJob calendar stamp job)
    summary := { progress.summary with
      manualCsvEnqueued := progress.summary.manualCsvEnqueued + job.symbols.length } }

def appendQueueUpdate (calendar : Calendar Moment) (stamp : Nat → String)
    (progress : Progress Moment) (job : ResyncJob Moment) (update : Update) : Progress Moment :=
  { progress with
    queue := ResyncQueue.appendJsonl progress.queue (queueUpdate calendar (stamp 0) job update) }

def report (progress : Progress Moment) (result : Mapping) : Progress Moment :=
  { progress with summary := { progress.summary with jobs := progress.summary.jobs ++ [result] } }

def plannedResult (calendar : Calendar Moment) (job : ResyncJob Moment) : Mapping :=
  [("job_id", .str job.jobId), ("status", .str "planned"), ("symbols", texts job.symbols),
    ("timeframe", .str job.timeframe), ("start", .str (calendar.isoformat job.start)),
    ("end", .str (calendar.isoformat job.stop)), ("priority", .str job.priority)]

def jobResult (job : ResyncJob Moment) (status : String) (details : Mapping) : Mapping :=
  [("job_id", .str job.jobId), ("status", .str status)] ++ details ++
    [("symbols", texts job.symbols), ("timeframe", .str job.timeframe)]

def barCount (result : Ingestion.BackfillResult) : Nat :=
  (result.frames.map (fun frame => frame.bars.length)).sum

def countCompleted (summary : Summary) (result : Ingestion.BackfillResult) : Summary :=
  let provider := result.providerUsed.getD ""
  { summary with
    jobsCompleted := summary.jobsCompleted + 1
    failoverUsed := if truthy result.providerUsed && !summary.failoverUsed.contains provider then
      summary.failoverUsed ++ [provider] else summary.failoverUsed
    retryCount := summary.retryCount + result.retryCount }

/-- One job, and whether the pass goes on after it. -/
def processJob (calendar : Calendar Moment) (pass : Pass Moment) (index : Nat)
    (progress : Progress Moment) (job : ResyncJob Moment) : Progress Moment × Bool :=
  let stamp := pass.stamp index
  if job.jobId = "" then (progress, true)
  else if pass.dryRun then (report progress (plannedResult calendar job), true)
  else if job.manualCsvRequired then
    let enqueued := enqueueManualCsvJobs calendar stamp progress job
    let updated := appendQueueUpdate calendar stamp enqueued job { status := "manual_csv_required" }
    (report updated (jobResult job "manual_csv_required" []), true)
  else
    let called := { progress with backfilled := progress.backfilled ++ [job] }
    match pass.backfill job with
    | .completed result =>
      let counted := { called with summary := countCompleted called.summary result }
      let updated := appendQueueUpdate calendar stamp counted job {
        status := "completed", providerUsed := result.providerUsed
        bars := some (barCount result), retryCount := some result.retryCount }
      let provider := (result.providerUsed.map Value.str).getD .null
      (report updated (jobResult job "completed"
        [("provider_used", provider), ("bars", .int (barCount result))]), true)
    | .failed message =>
      let counted := { called with
        summary := { called.summary with jobsFailed := called.summary.jobsFailed + 1 } }
      let enqueued := enqueueManualCsvJobs calendar stamp counted job
      let updated := appendQueueUpdate calendar stamp enqueued job {
        status := "failed", error := some message, retryCount := some job.retryCount }
      (report updated (jobResult job "failed" [("error", .str message)]), true)
    | .raised => (called, false)

def processJobs (calendar : Calendar Moment) (pass : Pass Moment) :
    List (ResyncJob Moment × Nat) → Progress Moment → Progress Moment
  | [], progress => progress
  | entry :: rest, progress =>
    match processJob calendar pass entry.2 progress entry.1 with
    | (later, true) => processJobs calendar pass rest later
    | (later, false) => later

/-! ## Passes -/

/-- The files and what was done so far.  A queue file that is no UTF-8 has no
text. -/
structure Coordinator (Moment : Type) where
  queue : Option (List Char)
  manualJobs : List ManualCsvJob := []
  backfilled : List (ResyncJob Moment) := []

/-- `process_jobs(jobs=load_queue())`. -/
def runPass (calendar : Calendar Moment) (state : Coordinator Moment) (pass : Pass Moment) :
    Coordinator Moment :=
  match state.queue with
  | none => state
  | some content =>
    match loadQueue calendar pass.now content with
    | .error _ => state
    | .ok jobs =>
      let done := processJobs calendar pass jobs.zipIdx
        { queue := content, manualJobs := state.manualJobs, backfilled := state.backfilled }
      { queue := some done.queue, manualJobs := done.manualJobs, backfilled := done.backfilled }

end Resync

end FxToushi.Core
