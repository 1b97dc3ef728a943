import FxToushi.Core.TimeSync

namespace FxToushi.Research.ExperimentRuns

open FxToushi.Core Data Py

/-! # Runs of experiments

A run is completed or marked as failed in the files of its directory.  What a
call writes is a list of changes, which a failure may cut off anywhere.  The
event log and the log of metrics come after them and are left out.
-/

inductive TrackerError where
  | metricValidation (message : String)
  | overflow
  | jsonDecode
  | os
deriving Repr, DecidableEq

structure ExperimentArtifact where
  path : String
  hashSha256 : String
  artifactType : String
  size : Nat
deriving Repr, DecidableEq

structure ExperimentNotebookSnapshot where
  runId : String
  notebookPath : String
  htmlExportPath : String
  hashSha256 : String
  executedAt : String
  envFingerprint : List (String × String)
deriving Repr, DecidableEq

abbrev Metrics := List (String × Option Extended)

structure ExperimentRun where
  runId : String
  experimentId : String
  strategyId : String
  metrics : Metrics := []
  artifacts : List ExperimentArtifact := []
  status : String := "running"
  completedAt : Option String := none
  notebookSnapshot : Option ExperimentNotebookSnapshot := none
deriving Repr, DecidableEq

structure MetricsSnapshot where
  runId : String
  experimentId : String
  strategyId : String
  metrics : Metrics
deriving Repr, DecidableEq

/-- A file that is read as a whole; one that is torn is no JSON. -/
inductive Document (Content : Type) where
  | whole (content : Content)
  | torn
deriving Repr, DecidableEq

abbrev Folder := Dict String (List UInt8)

/-- The directory of a run: `run.json`, `metrics.json`, `artifacts` and `notebook`. -/
structure RunFiles where
  run : Document ExperimentRun
  metrics : Option (Document MetricsSnapshot) := none
  artifacts : Folder := .empty
  notebook : Folder := .empty
deriving DecidableEq

inductive Change where
  | artifact (name : String) (content : List UInt8)
  | notebook (name : String) (content : List UInt8)
  | metrics (snapshot : MetricsSnapshot)
  | run (run : ExperimentRun)

def RunFiles.apply (files : RunFiles) : Change → RunFiles
  | .artifact name content => { files with artifacts := files.artifacts.set name content }
  | .notebook name content => { files with notebook := files.notebook.set name content }
  | .metrics snapshot => { files with metrics := some (.whole snapshot) }
  | .run run => { files with run := .whole run }

/-- A copy that is torn leaves some bytes. -/
def RunFiles.tear (files : RunFiles) (change : Change) (bytes : List UInt8) : RunFiles :=
  match change with
  | .artifact name _ => { files with artifacts := files.artifacts.set name bytes }
  | .notebook name _ => { files with notebook := files.notebook.set name bytes }
  | .metrics _ => { files with metrics := some .torn }
  | .run _ => { files with run := .torn }

/-! ## Metrics -/

def coerceFloat (value : Value) : Except TrackerError (Option Extended) :=
  match floatOf value with
  | .ok number => .ok number
  | .error _ => .error .overflow

def coerceMetrics (payload : Mapping) : Except TrackerError Metrics :=
  payload.mapM fun entry => (coerceFloat entry.2).map fun number => (entry.1, number)

def requiredMetrics : List String := ["pf", "sharpe", "max_dd", "trades"]

def present (metrics : Metrics) (name : String) : Bool := (metrics.lookup name).join.isSome

def missingMetrics (metrics : Metrics) : List String :=
  requiredMetrics.filter fun required =>
    !(present metrics required || (required == "pf" && present metrics "pf_oos"))

def validateMetrics (metrics : Metrics) : Except TrackerError Unit :=
  match missingMetrics metrics with
  | [] => .ok ()
  | missing => .error (.metricValidation ("missing_metrics=" ++ ",".intercalate missing))

/-! ## Artifacts and the notebook -/

/-- A path that is given as an artifact: a file elsewhere, if it exists, or one that is in the
run's directory already. -/
inductive Source where
  | elsewhere (name : String) (content : Option (List UInt8))
  | stored (name : String)

/-- The suffix of a name without its dot. -/
def artifactType (name : String) : String :=
  let suffix := (name.toList.reverse.takeWhile fun char => char != '.').reverse
  if 1 < name.length - suffix.length ∧ suffix ≠ [] then String.ofList suffix else "unknown"

structure NotebookInput where
  notebookPath : String
  notebookExists : Bool
  htmlName : String
  html : Option (List UInt8)
  executedAt : String
  envFingerprint : List (String × String)

section Files

variable (sha256 : List UInt8 → String) (runDir : String)

def artifactOf (name : String) (content : List UInt8) : ExperimentArtifact where
  path := joinPath (joinPath runDir "artifacts") name
  hashSha256 := sha256 content
  artifactType := artifactType name
  size := content.length

/-- The records of the artifacts and the copies that are made for them. -/
def collectArtifacts : List Source → Folder → List ExperimentArtifact × List Change
  | [], _ => ([], [])
  | .elsewhere _ none :: rest, folder => collectArtifacts rest folder
  | .elsewhere name (some content) :: rest, folder =>
    let (artifacts, changes) := collectArtifacts rest (folder.set name content)
    (artifactOf sha256 runDir name content :: artifacts, .artifact name content :: changes)
  | .stored name :: rest, folder =>
    let (artifacts, changes) := collectArtifacts rest folder
    match folder.get? name with
    | none => (artifacts, changes)
    | some content => (artifactOf sha256 runDir name content :: artifacts, changes)

def normalizeNotebookSnapshot (runId : String) :
    Option NotebookInput → Option ExperimentNotebookSnapshot × List Change
  | none => (none, [])
  | some input =>
    match input.notebookExists, input.html with
    | true, some html =>
      (some {
        runId
        notebookPath := input.notebookPath
        htmlExportPath := joinPath (joinPath runDir "notebook") input.htmlName
        hashSha256 := sha256 html
        executedAt := input.executedAt
        envFingerprint := input.envFingerprint }, [.notebook input.htmlName html])
    | _, _ => (none, [])

end Files

/-! ## Calls -/

structure CompleteCall where
  metrics : Mapping
  artifacts : List Source := []
  notebookSnapshot : Option NotebookInput := none
  now : String
  fault : Option (Interruption (List UInt8)) := none

/-- The reason that is given only goes to the logs. -/
structure FailCall where
  now : String
  fault : Option (Interruption (List UInt8)) := none

inductive Call where
  | completeRun (call : CompleteCall)
  | markFailed (call : FailCall)

def Call.fault : Call → Option (Interruption (List UInt8))
  | .completeRun call => call.fault
  | .markFailed call => call.fault

/-- How a call ends that nothing stops, and what it changes. -/
structure Plan where
  result : Except TrackerError ExperimentRun
  changes : List Change

def loadRun (files : RunFiles) : Except TrackerError ExperimentRun :=
  match files.run with
  | .whole run => .ok run
  | .torn => .error .jsonDecode

def metricsSnapshot (run : ExperimentRun) : MetricsSnapshot where
  runId := run.runId
  experimentId := run.experimentId
  strategyId := run.strategyId
  metrics := run.metrics

def markFailed (files : RunFiles) (call : FailCall) : Except TrackerError Plan := do
  let run ← loadRun files
  let run := { run with status := "failed", completedAt := some call.now }
  return { result := .ok run, changes := [.run run] }

section Service

variable (sha256 : List UInt8 → String) (runDir : String)

def completeRun (files : RunFiles) (call : CompleteCall) : Except TrackerError Plan := do
  let run ← loadRun files
  let metrics ← coerceMetrics call.metrics
  match validateMetrics metrics with
  | .error error =>
    let run := { run with status := "failed", completedAt := some call.now, metrics }
    return { result := .error error, changes := [.run run] }
  | .ok () =>
    let (artifacts, copies) := collectArtifacts sha256 runDir call.artifacts files.artifacts
    let (notebookSnapshot, exported) :=
      normalizeNotebookSnapshot sha256 runDir run.runId call.notebookSnapshot
    let run := { run with
      status := "completed"
      completedAt := some call.now
      metrics
      artifacts
      notebookSnapshot }
    return {
      result := .ok run
      changes := copies ++ exported ++ [.metrics (metricsSnapshot run), .run run] }

def planOf (files : RunFiles) : Call → Except TrackerError Plan
  | .completeRun call => completeRun sha256 runDir files call
  | .markFailed call => markFailed files call

/-- What a call returns or raises, and the files it leaves. -/
def perform (files : RunFiles) (call : Call) : Except TrackerError ExperimentRun × RunFiles :=
  match planOf sha256 runDir files call with
  | .error error => (.error error, files)
  | .ok plan =>
    match interrupted RunFiles.apply RunFiles.tear files plan.changes call.fault with
    | (true, files) => (.error .os, files)
    | (false, files) => (plan.result, files)

def after (files : RunFiles) (call : Call) : RunFiles := (perform sha256 runDir files call).2

/-! ## Finished runs -/

/-- The status, the completion time, the metrics and the artifacts that are stored. -/
def stored (files : RunFiles) :
    Document (String × Option String × Metrics × List ExperimentArtifact) ×
      Option (Document MetricsSnapshot) × Folder :=
  (match files.run with
    | .whole run => .whole (run.status, run.completedAt, run.metrics, run.artifacts)
    | .torn => .torn, files.metrics, files.artifacts)

def Finished (files : RunFiles) : Prop :=
  ∃ run, files.run = .whole run ∧ (run.status = "completed" ∨ run.status = "failed")

/-- A call on a finished run is rejected and changes nothing of it. -/
def KeepsFinished (files : RunFiles) (call : Call) : Prop :=
  Finished files → (perform sha256 runDir files call).1.isOk = false ∧
    stored (after sha256 runDir files call) = stored files

/-- A call of `complete_run` that fails leaves the run as it was or as if it had not failed. -/
def Whole (files : RunFiles) : Call → Prop
  | .completeRun call =>
    (perform sha256 runDir files (.completeRun call)).1.isOk = false →
      after sha256 runDir files (.completeRun call) = files ∨
        after sha256 runDir files (.completeRun call) =
          after sha256 runDir files (.completeRun { call with fault := none })
  | .markFailed _ => True

/-- A call that has something to change fails before that where the run is finished, and
`complete_run` fails neither between two of its changes nor in one. -/
def Spared (files : RunFiles) (call : Call) : Prop :=
  ∀ plan, planOf sha256 runDir files call = .ok plan →
    (Finished files → call.fault = some .atOnce) ∧
      match call with
      | .completeRun call => ¬ Midway plan.changes.length call.fault
      | .markFailed _ => True

end Service

section Rules

variable {sha256 : List UInt8 → String} {runDir : String} {files : RunFiles} {call : Call}
  {calls : List Call} {plan : Plan}

theorem perform_error {error : TrackerError}
    (failed : planOf sha256 runDir files call = .error error) :
    perform sha256 runDir files call = (.error error, files) := by
  rw [perform, failed]

theorem after_ok (planned : planOf sha256 runDir files call = .ok plan) :
    after sha256 runDir files call =
      (interrupted RunFiles.apply RunFiles.tear files plan.changes call.fault).2 := by
  rw [after, perform, planned]
  simp only
  split
  · rename_i ended
    rw [ended]
  · rename_i ended
    rw [ended]

theorem perform_atOnce (planned : planOf sha256 runDir files call = .ok plan)
    (early : call.fault = some .atOnce) :
    perform sha256 runDir files call = (.error .os, files) := by
  rw [perform, planned]
  simp only
  rw [early, interrupted_atOnce]

theorem not_keepsFinished_of_unhindered (finished : Finished files)
    (planned : planOf sha256 runDir files call = .ok plan) (unhindered : call.fault = none)
    (returns : plan.result.isOk = true) : ¬ KeepsFinished sha256 runDir files call := by
  intro kept
  have rejected := (kept finished).1
  rw [perform, planned] at rejected
  simp only [unhindered, interrupted] at rejected
  rw [returns] at rejected
  cases rejected

theorem keepsFinished_of_spared (spared : Spared sha256 runDir files call) :
    KeepsFinished sha256 runDir files call := by
  intro finished
  unfold after
  cases planned : planOf sha256 runDir files call with
  | error error =>
    rw [perform_error planned]
    exact ⟨rfl, rfl⟩
  | ok plan =>
    rw [perform_atOnce planned ((spared plan planned).1 finished)]
    exact ⟨rfl, rfl⟩

theorem whole_of_spared (spared : Spared sha256 runDir files call) :
    Whole sha256 runDir files call := by
  cases call with
  | markFailed call => trivial
  | completeRun call =>
    intro _
    cases planned : planOf sha256 runDir files (.completeRun call) with
    | error error =>
      rw [after, perform_error planned]
      exact .inl rfl
    | ok plan =>
      have unhindered : planOf sha256 runDir files
          (.completeRun { call with fault := none }) = .ok plan := planned
      rw [after_ok planned, after_ok unhindered]
      exact interrupted_of_not_midway (spared plan planned).2

theorem finished_of_stored {other : RunFiles} (same : stored other = stored files)
    (finished : Finished files) : Finished other := by
  obtain ⟨run, whole, status⟩ := finished
  have document := congrArg Prod.fst same
  unfold stored at document
  rw [whole] at document
  cases read : other.run with
  | torn =>
    rw [read] at document
    cases document
  | whole otherRun =>
    rw [read] at document
    simp only [Document.whole.injEq, Prod.mk.injEq] at document
    exact ⟨otherRun, read, document.1 ▸ status⟩

theorem stored_of_finished
    (kept : EachStep (after sha256 runDir) (KeepsFinished sha256 runDir) files calls)
    (finished : Finished files) :
    stored (runFrom (after sha256 runDir) files calls) = stored files := by
  induction calls generalizing files with
  | nil => rfl
  | cons call calls ih =>
    have same := (kept.1 finished).2
    exact (ih kept.2 (finished_of_stored same finished)).trans same

/-- Where every call is spared, finished runs are immutable and no run is left half-updated. -/
theorem immutable_of_spared
    (spared : EachStep (after sha256 runDir) (Spared sha256 runDir) files calls) :
    EachStep (after sha256 runDir) (fun files call =>
        KeepsFinished sha256 runDir files call ∧ Whole sha256 runDir files call) files calls ∧
      ∀ before later, calls = before ++ later →
        Finished (runFrom (after sha256 runDir) files before) →
          stored (runFrom (after sha256 runDir) files calls) =
            stored (runFrom (after sha256 runDir) files before) := by
  constructor
  · refine spared.imp fun files call meets => ?_
    exact ⟨keepsFinished_of_spared meets, whole_of_spared meets⟩
  · rintro before later rfl finished
    have kept := (eachStep_append.mp spared).2.imp fun _ _ => keepsFinished_of_spared
    rw [runFrom, List.foldl_append]
    exact stored_of_finished kept finished

end Rules

/-! ## A run -/

def startedRun : RunFiles where
  run := .whole { runId := "run-1", experimentId := "exp-1", strategyId := "orb" }

theorem not_finished_startedRun : ¬ Finished startedRun := by
  intro finished
  obtain ⟨run, whole, status⟩ := finished
  obtain rfl := Document.whole.inj whole
  exact absurd status (by decide)

/-- A call with all the required metrics. -/
def completing (fault : Option (Interruption (List UInt8))) : Call :=
  .completeRun {
    metrics := [("pf", .float (3 / 2) "1.5"), ("sharpe", .float (5 / 4) "1.25"),
      ("max_dd", .float (1 / 8) "0.125"), ("trades", .float 40 "40.0")]
    now := "2024-01-02T01:00:00Z"
    fault }

def failing (fault : Option (Interruption (List UInt8))) : Call :=
  .markFailed { now := "2024-01-02T02:00:00Z", fault }

/-- The run is completed, and then cannot be opened to be marked as failed. -/
theorem immutable_startedRun :
    EachStep (after (fun _ => "") "run-1") (fun files call =>
        KeepsFinished (fun _ => "") "run-1" files call ∧ Whole (fun _ => "") "run-1" files call)
        startedRun [completing none, failing (some .atOnce)] ∧
      ∀ before later, [completing none, failing (some .atOnce)] = before ++ later →
        Finished (runFrom (after (fun _ => "") "run-1") startedRun before) →
          stored (runFrom (after (fun _ => "") "run-1") startedRun
              [completing none, failing (some .atOnce)]) =
            stored (runFrom (after (fun _ => "") "run-1") startedRun before) := by
  refine immutable_of_spared ⟨fun plan _ => ⟨?_, id⟩, fun plan _ => ⟨fun _ => rfl, trivial⟩,
    trivial⟩
  exact fun finished => absurd finished not_finished_startedRun

def completedRun : RunFiles := after (fun _ => "") "run-1" startedRun (completing none)

/-- A completed run is marked as failed, and where `run.json` cannot be written the run has its
metrics already. -/
theorem completedRun_changed :
    Finished completedRun ∧ ¬ KeepsFinished (fun _ => "") "run-1" completedRun (failing none) ∧
      ¬ Whole (fun _ => "") "run-1" startedRun (completing (some { made := 1, torn := none })) := by
  have finished : Finished completedRun := ⟨_, rfl, .inl rfl⟩
  refine ⟨finished, not_keepsFinished_of_unhindered finished rfl rfl rfl, fun whole => ?_⟩
  exact absurd (whole (by decide +kernel)) (by decide +kernel)

end FxToushi.Research.ExperimentRuns
