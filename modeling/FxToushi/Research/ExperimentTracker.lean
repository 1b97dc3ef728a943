import FxToushi.Py.JsonIndent
import FxToushi.Research.ExperimentRuns
import FxToushi.Research.Sweeps

namespace FxToushi.Research.ExperimentRuns

open Py

def ExperimentArtifact.toDict (artifact : ExperimentArtifact) : Mapping :=
  [("path", .str artifact.path),
    ("hash_sha256", .str artifact.hashSha256),
    ("type", .str artifact.artifactType),
    ("size", .int artifact.size)]

def ExperimentNotebookSnapshot.toDict (snapshot : ExperimentNotebookSnapshot) : Mapping :=
  [("run_id", .str snapshot.runId),
    ("notebook_path", .str snapshot.notebookPath),
    ("html_export_path", .str snapshot.htmlExportPath),
    ("hash_sha256", .str snapshot.hashSha256),
    ("executed_at", .str snapshot.executedAt),
    ("env_fingerprint", .map (snapshot.envFingerprint.map fun entry => (entry.1, .str entry.2)))]

end FxToushi.Research.ExperimentRuns

namespace FxToushi.Research.ExperimentTracker

open FxToushi.Core Resync Data Py
open Research.ExperimentRuns hiding ExperimentRun Call CompleteCall FailCall perform after
  loadRun markFailed completeRun metricsSnapshot

/-! # The experiment tracker

Every run has a directory below the reports, with its record in `run.json`; a run is
found by going through the directories.  What the tracker is for is a map from run ids
to runs, and a run that is promoted is one whose data is still there.
-/

inductive ServiceError where
  | tracker (message : String)
  | promotion (message : String)
  | run (error : TrackerError)
  | python (error : PyError)
  | unicodeDecode
deriving Repr, DecidableEq

/-- A run with all its fields.  What `get` returns is kept as it is in the hash and in
the time of completion. -/
structure ExperimentRun where
  runId : String
  experimentId : String
  strategyId : String
  runType : String
  parameters : Mapping
  datasetManifestHash : Value
  codeRevision : String
  metrics : Metrics := []
  artifacts : List ExperimentArtifact := []
  status : String
  startedAt : String
  completedAt : Value := .null
  notebookSnapshot : Option ExperimentNotebookSnapshot := none

/-! ## Documents of runs -/

section Documents

variable (repr : Rat → String)

/-- A float, which `repr` prints. -/
def floatValue : Option Extended → Value
  | none => .null
  | some (.finite value) => .float value (repr value)
  | some (.infinite negative) => .float 0 (if negative then "-inf" else "inf")
  | some .nan => .float 0 "nan"

def metricsValue (metrics : Metrics) : Value :=
  .map (metrics.map fun entry => (entry.1, floatValue repr entry.2))

def ExperimentRun.toDict (run : ExperimentRun) : Mapping :=
  [("run_id", .str run.runId),
    ("experiment_id", .str run.experimentId),
    ("strategy_id", .str run.strategyId),
    ("run_type", .str run.runType),
    ("parameters", .map run.parameters),
    ("dataset_manifest_hash", run.datasetManifestHash),
    ("code_revision", .str run.codeRevision),
    ("metrics", metricsValue repr run.metrics),
    ("artifacts", .list (run.artifacts.map fun artifact => .map artifact.toDict)),
    ("status", .str run.status),
    ("started_at", .str run.startedAt),
    ("completed_at", run.completedAt),
    ("notebook_snapshot", run.notebookSnapshot.elim .null fun snapshot => .map snapshot.toDict)]

/-- The text of `run.json`. -/
def ExperimentRun.document (run : ExperimentRun) : List Char :=
  Json.dumpsIndented 0 (.map (run.toDict repr)) ++ ['\n']

/-- The text of `metrics.json`. -/
def metricsSnapshot (run : ExperimentRun) : List Char :=
  Json.dumpsIndented 0 (.map [("run_id", .str run.runId),
    ("experiment_id", .str run.experimentId),
    ("strategy_id", .str run.strategyId),
    ("metrics", metricsValue repr run.metrics)]) ++ ['\n']

end Documents

def parseArtifact : Value → Except PyError ExperimentArtifact
  | .map raw => do
      let size ← (orValue (field raw "size") (.int 0)).toInt
      return {
        path := textField raw "path" ""
        hashSha256 := textField raw "hash_sha256" ""
        artifactType := textField raw "type" "unknown"
        size := size.toNat }
  | _ => .error .attributeError

def parseSnapshot (runId : String) : Value → Except PyError (Option ExperimentNotebookSnapshot)
  | .map payload => do
      let envFingerprint ← dictOf (orValue (field payload "env_fingerprint") (.map []))
      return some {
        runId := textField payload "run_id" runId
        notebookPath := textField payload "notebook_path" ""
        htmlExportPath := textField payload "html_export_path" ""
        hashSha256 := textField payload "hash_sha256" ""
        executedAt := textField payload "executed_at" ""
        envFingerprint := envFingerprint.map fun entry => (entry.1, entry.2.text) }
  | _ => .ok none

def parseMetrics : Value → Except ServiceError Metrics
  | .map payload => (coerceMetrics payload).mapError .run
  | _ => .error (.python .attributeError)

def parseArtifacts (value : Value) : Except PyError (List ExperimentArtifact) := do
  tryMap parseArtifact (← iterate value)

def parseRun : Value → Except ServiceError (Option ExperimentRun)
  | .map payload =>
    let runId := textField payload "run_id" ""
    if runId = "" then .ok none
    else do
      let artifacts ←
        (parseArtifacts (orValue (field payload "artifacts") (.list []))).mapError .python
      let notebookSnapshot ←
        (parseSnapshot runId (field payload "notebook_snapshot")).mapError .python
      let parameters ←
        (dictOf (orValue (field payload "parameters") (.map []))).mapError .python
      let metrics ← parseMetrics (orValue (field payload "metrics") (.map []))
      return some {
        runId
        experimentId := textField payload "experiment_id" ""
        strategyId := textField payload "strategy_id" ""
        runType := textField payload "run_type" "backtest"
        parameters
        datasetManifestHash := field payload "dataset_manifest_hash"
        codeRevision := textField payload "code_revision" "unknown"
        metrics
        artifacts
        status := textField payload "status" "unknown"
        startedAt := textField payload "started_at" ""
        completedAt := field payload "completed_at"
        notebookSnapshot }
  | _ => .error (.python .attributeError)

/-! ## Runs that are read back -/

/-- A metric that is printed as it reads. -/
def Prints (repr : Rat → String) : Option Extended → Prop
  | some (.finite value) =>
    Json.IsFloat value (repr value) ∧ Extended.read value (repr value) = .finite value
  | _ => True

instance Prints.decidable (repr : Rat → String) :
    (number : Option Extended) → Decidable (Prints repr number)
  | some (.finite _) => inferInstanceAs (Decidable (_ ∧ _))
  | some (.infinite _) => .isTrue trivial
  | some .nan => .isTrue trivial
  | none => .isTrue trivial

structure Readable (repr : Rat → String) (run : ExperimentRun) : Prop where
  runId : run.runId ≠ ""
  runType : run.runType ≠ ""
  codeRevision : run.codeRevision ≠ ""
  status : run.status ≠ ""
  typed : ∀ artifact ∈ run.artifacts, artifact.artifactType ≠ ""
  exported : ∀ snapshot, run.notebookSnapshot = some snapshot →
    snapshot.runId ≠ "" ∧ (snapshot.envFingerprint.map Prod.fst).Nodup
  parameters : Json.WellFormed (.map run.parameters)
  datasetManifestHash : Json.WellFormed run.datasetManifestHash
  completedAt : Json.WellFormed run.completedAt
  named : (run.metrics.map Prod.fst).Nodup
  printed : ∀ entry ∈ run.metrics, Prints repr entry.2

section Reading

variable {repr : Rat → String} {run : ExperimentRun}

theorem isFloat_special {text : String} (special : text ∈ ["nan", "inf", "-inf"]) :
    Json.IsFloat 0 text := by
  simp only [List.mem_cons, List.not_mem_nil, or_false] at special
  rcases special with rfl | rfl | rfl <;> decide

theorem wellFormed_floatValue {number : Option Extended} (printed : Prints repr number) :
    Json.WellFormed (floatValue repr number) := by
  cases number with
  | none => trivial
  | some number =>
    cases number with
    | finite value => exact printed.1
    | infinite negative => cases negative <;> exact isFloat_special (by simp)
    | nan => exact isFloat_special (by simp)

theorem coerceFloat_floatValue {number : Option Extended} (printed : Prints repr number) :
    coerceFloat (floatValue repr number) = .ok number := by
  cases number with
  | none => rfl
  | some number =>
    cases number with
    | finite value => rw [floatValue, coerceFloat, floatOf, printed.2]
    | infinite negative => cases negative <;> rfl
    | nan => rfl

theorem coerceMetrics_metricsValue {metrics : Metrics}
    (printed : ∀ entry ∈ metrics, Prints repr entry.2) :
    coerceMetrics (metrics.map fun entry => (entry.1, floatValue repr entry.2)) = .ok metrics := by
  induction metrics with
  | nil => rfl
  | cons entry rest ih =>
    obtain ⟨here, later⟩ := List.forall_mem_cons.mp printed
    have tail := ih later
    rw [coerceMetrics] at tail ⊢
    rw [List.map_cons, List.mapM_cons, coerceFloat_floatValue here, tail]
    rfl

theorem parseMetrics_metricsValue {metrics : Metrics}
    (printed : ∀ entry ∈ metrics, Prints repr entry.2) :
    parseMetrics (orValue (metricsValue repr metrics) (.map [])) = .ok metrics := by
  have coerced := coerceMetrics_metricsValue printed
  cases metrics with
  | nil => rfl
  | cons entry rest =>
    have filled : (metricsValue repr (entry :: rest)).truth = true := rfl
    rw [orValue, if_pos filled, metricsValue, parseMetrics, coerced]
    rfl

theorem wellFormed_metricsValue {metrics : Metrics} (named : (metrics.map Prod.fst).Nodup)
    (printed : ∀ entry ∈ metrics, Prints repr entry.2) :
    Json.WellFormed (metricsValue repr metrics) := by
  refine ⟨?_, Sweeps.wellFormedEntries_iff.mpr fun entry member => ?_⟩
  · rwa [List.map_map]
  · obtain ⟨metric, among, rfl⟩ := List.mem_map.mp member
    exact wellFormed_floatValue (printed metric among)

theorem parseArtifact_toDict {artifact : ExperimentArtifact} (typed : artifact.artifactType ≠ "") :
    parseArtifact (.map artifact.toDict) = .ok artifact := by
  have path : textField artifact.toDict "path" "" = artifact.path :=
    Sweeps.textField_str rfl (.inr rfl)
  have hash : textField artifact.toDict "hash_sha256" "" = artifact.hashSha256 :=
    Sweeps.textField_str rfl (.inr rfl)
  have type : textField artifact.toDict "type" "unknown" = artifact.artifactType :=
    Sweeps.textField_str rfl (.inl typed)
  have size : (orValue (field artifact.toDict "size") (.int 0)).toInt =
      .ok (artifact.size : Int) := by
    have found : field artifact.toDict "size" = .int artifact.size := rfl
    rw [found, orValue]
    split
    · rfl
    · rename_i none
      have zero : (artifact.size : Int) = 0 := by simpa [Value.truth] using none
      rw [zero]
      rfl
  rw [parseArtifact, size]
  simp only [bind, Except.bind, pure, Except.pure, path, hash, type, Int.toNat_natCast]

theorem parseArtifacts_toDict {artifacts : List ExperimentArtifact}
    (typed : ∀ artifact ∈ artifacts, artifact.artifactType ≠ "") :
    parseArtifacts (orValue (.list (artifacts.map fun artifact => .map artifact.toDict))
      (.list [])) =
      .ok artifacts := by
  have given : orValue (.list (artifacts.map fun artifact => .map artifact.toDict)) (.list []) =
      .list (artifacts.map fun artifact => .map artifact.toDict) := by
    cases artifacts <;> rfl
  rw [given, parseArtifacts]
  show tryMap parseArtifact (artifacts.map fun artifact => .map artifact.toDict) = .ok artifacts
  rw [tryMap_source]
  refine (tryMap_eq_map fun artifact member => ?_).trans (congrArg _ (List.map_id _))
  exact parseArtifact_toDict (typed artifact member)

theorem dictOf_orValue (payload : Mapping) :
    dictOf (orValue (.map payload) (.map [])) = .ok payload := by
  cases payload <;> rfl

theorem parseSnapshot_toDict {snapshot : ExperimentNotebookSnapshot} (runId : String)
    (named : snapshot.runId ≠ "") :
    parseSnapshot runId (.map snapshot.toDict) = .ok (some snapshot) := by
  have id : textField snapshot.toDict "run_id" runId = snapshot.runId :=
    Sweeps.textField_str rfl (.inl named)
  have notebook : textField snapshot.toDict "notebook_path" "" = snapshot.notebookPath :=
    Sweeps.textField_str rfl (.inr rfl)
  have html : textField snapshot.toDict "html_export_path" "" = snapshot.htmlExportPath :=
    Sweeps.textField_str rfl (.inr rfl)
  have hash : textField snapshot.toDict "hash_sha256" "" = snapshot.hashSha256 :=
    Sweeps.textField_str rfl (.inr rfl)
  have executed : textField snapshot.toDict "executed_at" "" = snapshot.executedAt :=
    Sweeps.textField_str rfl (.inr rfl)
  have env : field snapshot.toDict "env_fingerprint" =
      .map (snapshot.envFingerprint.map fun entry => (entry.1, .str entry.2)) := rfl
  have texts : (snapshot.envFingerprint.map fun entry => (entry.1, Value.str entry.2)).map
      (fun entry => (entry.1, entry.2.text)) = snapshot.envFingerprint := by
    rw [List.map_map]
    exact List.map_id _
  rw [parseSnapshot, env, dictOf_orValue]
  simp only [bind, Except.bind, pure, Except.pure, id, notebook, html, hash, executed, texts]

/-- A run that is readable is read back from its document, with every field. -/
theorem parseRun_toDict (readable : Readable repr run) :
    parseRun (.map (run.toDict repr)) = .ok (some run) := by
  have runId : textField (run.toDict repr) "run_id" "" = run.runId :=
    Sweeps.textField_str rfl (.inr rfl)
  have experimentId : textField (run.toDict repr) "experiment_id" "" = run.experimentId :=
    Sweeps.textField_str rfl (.inr rfl)
  have strategyId : textField (run.toDict repr) "strategy_id" "" = run.strategyId :=
    Sweeps.textField_str rfl (.inr rfl)
  have runType : textField (run.toDict repr) "run_type" "backtest" = run.runType :=
    Sweeps.textField_str rfl (.inl readable.runType)
  have codeRevision : textField (run.toDict repr) "code_revision" "unknown" = run.codeRevision :=
    Sweeps.textField_str rfl (.inl readable.codeRevision)
  have status : textField (run.toDict repr) "status" "unknown" = run.status :=
    Sweeps.textField_str rfl (.inl readable.status)
  have startedAt : textField (run.toDict repr) "started_at" "" = run.startedAt :=
    Sweeps.textField_str rfl (.inr rfl)
  have artifacts : parseArtifacts (orValue (field (run.toDict repr) "artifacts") (.list [])) =
      .ok run.artifacts := parseArtifacts_toDict readable.typed
  have parameters : dictOf (orValue (field (run.toDict repr) "parameters") (.map [])) =
      .ok run.parameters := dictOf_orValue run.parameters
  have metrics : parseMetrics (orValue (field (run.toDict repr) "metrics") (.map [])) =
      .ok run.metrics := parseMetrics_metricsValue readable.printed
  have snapshot : parseSnapshot run.runId (field (run.toDict repr) "notebook_snapshot") =
      .ok run.notebookSnapshot := by
    have found : field (run.toDict repr) "notebook_snapshot" =
        run.notebookSnapshot.elim .null fun snapshot => .map snapshot.toDict := rfl
    rw [found]
    cases given : run.notebookSnapshot with
    | none => rfl
    | some snapshot => exact parseSnapshot_toDict run.runId (readable.exported snapshot given).1
  have hash : field (run.toDict repr) "dataset_manifest_hash" = run.datasetManifestHash := rfl
  have completedAt : field (run.toDict repr) "completed_at" = run.completedAt := rfl
  rw [parseRun]
  simp only [runId, readable.runId, if_false, artifacts, snapshot, parameters, metrics, bind,
    Except.bind, Except.mapError, pure, Except.pure, experimentId, strategyId, runType,
    codeRevision, status, startedAt, hash, completedAt]

theorem wellFormed_toDict (readable : Readable repr run) :
    Json.WellFormed (.map (run.toDict repr)) := by
  have artifacts : Json.WellFormedItems
      (run.artifacts.map fun artifact => .map artifact.toDict) := by
    refine Json.wellFormedItems_map fun artifact _ => ?_
    exact ⟨(by decide : ["path", "hash_sha256", "type", "size"].Nodup), by trivial⟩
  have snapshot : Json.WellFormed
      (run.notebookSnapshot.elim .null fun snapshot => .map snapshot.toDict) := by
    cases given : run.notebookSnapshot with
    | none => trivial
    | some snapshot =>
      have env : Json.WellFormed
          (.map (snapshot.envFingerprint.map fun entry => (entry.1, .str entry.2))) := by
        refine ⟨?_, Sweeps.wellFormedEntries_iff.mpr fun entry member => ?_⟩
        · rw [List.map_map]
          exact (readable.exported snapshot given).2
        · obtain ⟨text, -, rfl⟩ := List.mem_map.mp member
          trivial
      exact ⟨(by decide : ["run_id", "notebook_path", "html_export_path", "hash_sha256",
        "executed_at", "env_fingerprint"].Nodup),
        trivial, trivial, trivial, trivial, trivial, env, trivial⟩
  refine ⟨(by decide : ["run_id", "experiment_id", "strategy_id", "run_type", "parameters",
    "dataset_manifest_hash", "code_revision", "metrics", "artifacts", "status", "started_at",
    "completed_at", "notebook_snapshot"].Nodup), ?_⟩
  exact ⟨trivial, trivial, trivial, trivial, readable.parameters, readable.datasetManifestHash,
    trivial, wellFormed_metricsValue readable.named readable.printed, artifacts, trivial, trivial,
    readable.completedAt, snapshot, trivial⟩

/-- The text of `run.json` reads as the run. -/
theorem loads_document (readable : Readable repr run) :
    (Json.loads (run.document repr)).map parseRun = some (.ok (some run)) := by
  rw [ExperimentRun.document, Json.loads_dumpsIndented_line (wellFormed_toDict readable),
    Option.map_some, parseRun_toDict readable]

end Reading

/-! ## The directories of the runs -/

/-- The directory of a run; `Content` is what `run.json` holds. -/
structure RunDir (Content : Type) where
  run : Content
  metrics : Option (List Char) := none
  artifacts : Folder := .empty
  notebook : Folder := .empty

/-- A file `run.json` somewhere below the reports: the name of the directory it is in, and
its text, where it is UTF-8. -/
structure Document where
  folder : String
  text : Option (List Char)

/-- A copy that is called `run.json` is taken for a run as well. -/
def strays (dir : RunDir (List Char)) : List Document :=
  ((dir.artifacts.get? "run.json").toList.map fun bytes =>
      { folder := "artifacts", text := Utf8.decode bytes }) ++
    (dir.notebook.get? "run.json").toList.map fun bytes =>
      { folder := "notebook", text := Utf8.decode bytes }

def documentsOf (runId : String) (dir : RunDir (List Char)) : List Document :=
  { folder := runId, text := some dir.run } :: strays dir

/-- An experiment id is the name of one directory. -/
structure ExperimentManifest where
  experimentId : String
  linkedStrategy : String
  oneFolder : '/' ∉ experimentId.toList ∧ experimentId ≠ ".."

/-- What is kept beside the runs.  The playbook is the document that its file holds. -/
structure Evidence where
  dataManifest : Option (List UInt8) := none
  playbook : Option Mapping := none
  opsAgenda : List Mapping := []

structure Tracker where
  runs : Dict (String × String) (RunDir (List Char)) := .empty
  evidence : Evidence := {}

def Tracker.documents (tracker : Tracker) : List Document :=
  tracker.runs.entries.flatMap fun entry => documentsOf entry.1.2 entry.2

/-- The order in which the files are found. -/
structure Listing where
  order : List Document → List Document
  perm : ∀ documents, (order documents).Perm documents

def loadDocument (document : Document) : Except ServiceError (Option ExperimentRun) :=
  match document.text with
  | none => .error .unicodeDecode
  | some text =>
    match Json.loads text with
    | none => .ok none
    | some payload => parseRun payload

def loadRuns (documents : List Document) : Except ServiceError (List ExperimentRun) :=
  (tryMap loadDocument documents).map fun runs => runs.filterMap id

def loadRun (documents : List Document) (runId : String) :
    Except ServiceError (Option ExperimentRun) :=
  match Records.find? Document.folder documents runId with
  | none => .error (.tracker ("run not found: " ++ runId))
  | some document =>
    match document.text with
    | none => .error .unicodeDecode
    | some text =>
      match Json.loads text with
      | none => .error (.run .jsonDecode)
      | some payload => parseRun payload

def listRuns (documents : List Document) (status strategyId : Option String) :
    Except ServiceError (List ExperimentRun) :=
  (loadRuns documents).map fun runs =>
    let runs := if truthy status then runs.filter fun run => status == some run.status else runs
    if truthy strategyId then runs.filter fun run => strategyId == some run.strategyId else runs

def sortKey (run : ExperimentRun) : Value := orValue run.completedAt (.str run.startedAt)

/-- The texts that are compared, where all keys are texts. -/
def keyText? (run : ExperimentRun) : Option String :=
  match sortKey run with
  | .str text => some text
  | _ => none

/-- The order of the keys, the greatest first. -/
def sortsBefore (first second : ExperimentRun) : Bool :=
  (keyText? second).getD "" ≤ (keyText? first).getD ""

def loadLatestRun (documents : List Document) (strategyId : String) :
    Except ServiceError (Option ExperimentRun) := do
  let runs ← loadRuns documents
  let runs := runs.filter fun run => run.strategyId = strategyId
  if runs.length ≤ 1 ∨ runs.all fun run => (keyText? run).isSome then
    return (runs.mergeSort sortsBefore).head?
  else throw (.python .typeError)

/-! ## Calls -/

structure Service where
  sha256 : List UInt8 → String
  repr : Rat → String
  reportsRoot : String := "reports/research/experiments"
  playbookStem : String := "FR09_experiment_tracker"
  runbookId : String := "STRAT-EXP-01"

/-- `gitHead` is what git shows of the head, where it runs. -/
structure StartCall where
  manifest : ExperimentManifest
  parameters : Mapping
  datasetHash : Option String := none
  codeRevision : Option String := none
  runType : String := "backtest"
  gitHead : Option String := none
  draw : Sweeps.Draw
  now : UtcTime

/-- A call that ends a run: `complete_run` with its metrics, or `mark_failed`.  The reason
that is given for a failure only goes to the logs. -/
inductive Outcome where
  | complete (metrics : Mapping) (artifacts : List Source) (notebook : Option NotebookInput)
  | failed

structure CloseCall where
  runId : String
  outcome : Outcome
  now : UtcTime
  listing : Listing

structure PromoteCall where
  runId : String
  targetStage : String
  note : Option String := none
  attachments : List String := []
  dryRun : Bool := false
  now : UtcTime
  listing : Listing

/-- The data manifest is written by other parts of the program. -/
inductive Call where
  | startRun (call : StartCall)
  | close (call : CloseCall)
  | promote (call : PromoteCall)
  | writeDataManifest (content : Option (List UInt8))

structure PromotionReceipt where
  runId : String
  experimentId : String
  strategyId : String
  targetStage : String
  status : String
  validationPlaybookId : String
  runbookId : String
  blockedReason : Option String
  evidencePaths : List String
  createdAt : String
deriving Repr, DecidableEq

inductive Reply where
  | run (run : ExperimentRun)
  | receipt (receipt : PromotionReceipt)
  | done

def resolveCodeRevision (gitHead : Option String) : String :=
  orText (gitHead.map strip) "unknown"

namespace Service

variable (service : Service)

def resolveDatasetHash (evidence : Evidence) : Option String :=
  evidence.dataManifest.map service.sha256

def startedRun (evidence : Evidence) (call : StartCall) : ExperimentRun where
  runId := Sweeps.uuid7 call.draw
  experimentId := call.manifest.experimentId
  strategyId := call.manifest.linkedStrategy
  runType := call.runType
  parameters := call.parameters
  datasetManifestHash :=
    (orElse call.datasetHash (service.resolveDatasetHash evidence)).elim .null .str
  codeRevision := orText call.codeRevision (resolveCodeRevision call.gitHead)
  status := "running"
  startedAt := call.now.wholeSecond.isoText

def runDir (run : ExperimentRun) : String :=
  joinPath (joinPath service.reportsRoot run.experimentId) run.runId

/-- What a call makes of a run: what it returns or raises, the record that is stored, and
the copies that are made, with the metrics beside them. -/
structure Closed where
  reply : Except ServiceError ExperimentRun
  run : ExperimentRun
  copies : List Change := []
  snapshot : Bool := false

def completed (run : ExperimentRun) (stored : Folder) (now : String) (metrics : Mapping)
    (artifacts : List Source) (notebook : Option NotebookInput) :
    Except ServiceError Closed := do
  let parsed ← (coerceMetrics metrics).mapError .run
  match validateMetrics parsed with
  | .error error =>
    return {
      reply := .error (.run error)
      run := { run with status := "failed", completedAt := .str now, metrics := parsed } }
  | .ok () =>
    let (collected, copies) :=
      collectArtifacts service.sha256 (service.runDir run) artifacts stored
    let (notebookSnapshot, exported) :=
      normalizeNotebookSnapshot service.sha256 (service.runDir run) run.runId notebook
    let run := { run with
      status := "completed"
      completedAt := .str now
      metrics := parsed
      artifacts := collected
      notebookSnapshot }
    return { reply := .ok run, run, copies := copies ++ exported, snapshot := true }

def closed (run : ExperimentRun) (stored : Folder) (call : CloseCall) :
    Except ServiceError Closed :=
  match call.outcome with
  | .complete metrics artifacts notebook =>
    service.completed run stored call.now.wholeSecond.isoText metrics artifacts notebook
  | .failed =>
    let run := { run with
      status := "failed", completedAt := .str call.now.wholeSecond.isoText }
    .ok { reply := .ok run, run }

end Service

/-- The copies are made one after the other. -/
def copied {Content : Type} (dir : RunDir Content) (copies : List Change) : RunDir Content :=
  copies.foldl
    (fun dir change => match change with
      | .artifact name content => { dir with artifacts := dir.artifacts.set name content }
      | .notebook name content => { dir with notebook := dir.notebook.set name content }
      | _ => dir) dir

/-- The directory that is left, with `document` as `run.json`. -/
def settled {Content : Type} (service : Service) (dir : RunDir Content) (closed : Service.Closed)
    (document : Content) : RunDir Content :=
  let dir := copied dir closed.copies
  { dir with
    run := document
    metrics := if closed.snapshot then some (metricsSnapshot service.repr closed.run)
      else dir.metrics }

/-! ## Promotions -/

namespace Service

variable (service : Service)

def synced (evidence : Evidence) (expected : Value) : Bool :=
  match expected with
  | .str hash => hash ≠ "" && service.resolveDatasetHash evidence = some hash
  | _ => false

def receiptOf (evidence : Evidence) (run : ExperimentRun) (call : PromoteCall) :
    PromotionReceipt where
  runId := call.runId
  experimentId := run.experimentId
  strategyId := run.strategyId
  targetStage := call.targetStage
  status := if service.synced evidence run.datasetManifestHash then "ok" else "blocked"
  validationPlaybookId := service.playbookStem
  runbookId := service.runbookId
  blockedReason :=
    if service.synced evidence run.datasetManifestHash then none
    else some "data_manifest_hash_mismatch"
  evidencePaths := call.attachments
  createdAt := call.now.wholeSecond.isoText

def validationEntry (run : ExperimentRun) (receipt : PromotionReceipt) (note : Option String) :
    Mapping :=
  [("run_id", .str run.runId),
    ("experiment_id", .str run.experimentId),
    ("strategy_id", .str run.strategyId),
    ("status", .str receipt.status),
    ("runbook_id", .str receipt.runbookId),
    ("target_stage", .str receipt.targetStage),
    ("sync_status", .str (if receipt.blockedReason.isNone then "ok" else "mismatch")),
    ("metrics", metricsValue service.repr run.metrics),
    ("artifacts", .list (run.artifacts.map fun artifact => .map artifact.toDict)),
    ("note", note.elim .null .str),
    ("created_at", .str receipt.createdAt)]

/-- The playbook with its id. -/
def identified (payload : Mapping) : Mapping :=
  if (payload.get? "validation_playbook_id").isSome then payload
  else Mapping.set payload "validation_playbook_id" (.str service.playbookStem)

def appendValidationEntry (playbook : Option Mapping) (entry : Mapping) :
    Except ServiceError Mapping := do
  let payload := service.identified (playbook.getD [])
  let entries ← (iterate (orValue (field payload "entries") (.list []))).mapError .python
  return Mapping.set payload "entries" (.list (entries ++ [.map entry]))

def agendaTask (run : ExperimentRun) (receipt : PromotionReceipt) : Mapping :=
  [("event", .str "ops.agenda.task_added"),
    ("ts", .str receipt.createdAt),
    ("task", .str "Investigate experiment data mismatch"),
    ("run_id", .str receipt.runId),
    ("experiment_id", .str run.experimentId),
    ("owner", .str "research"),
    ("runbook", .str service.runbookId)]

/-- The playbook that a promotion leaves. -/
def validated (playbook : Option Mapping) (run : ExperimentRun) (receipt : PromotionReceipt)
    (call : PromoteCall) : Except ServiceError (Option Mapping) :=
  if call.dryRun then .ok playbook
  else (service.appendValidationEntry playbook
    (service.validationEntry run receipt call.note)).map some

/-- What a promotion leaves beside the runs. -/
def promotedEvidence (evidence : Evidence) (run : ExperimentRun) (receipt : PromotionReceipt)
    (playbook : Option Mapping) : Evidence :=
  { evidence with
    playbook
    opsAgenda :=
      if receipt.blockedReason.isSome then evidence.opsAgenda ++ [service.agendaTask run receipt]
      else evidence.opsAgenda }

/-- A promotion of a run that is loaded. -/
def promoted (evidence : Evidence) (run : ExperimentRun) (call : PromoteCall) :
    Except ServiceError (PromotionReceipt × Evidence) :=
  if run.status ≠ "completed" then
    .error (.promotion ("run not completed: " ++ call.runId))
  else
    (service.validated evidence.playbook run (service.receiptOf evidence run call) call).map
      fun playbook => (service.receiptOf evidence run call,
        service.promotedEvidence evidence run (service.receiptOf evidence run call) playbook)

/-! ## The tracker -/

def persist (tracker : Tracker) (run : ExperimentRun) : Tracker :=
  let dir : RunDir (List Char) :=
    (tracker.runs.get? (run.experimentId, run.runId)).getD { run := [] }
  { tracker with
    runs := tracker.runs.set (run.experimentId, run.runId)
      { dir with run := run.document service.repr } }

def store (tracker : Tracker) (closed : Closed) : Tracker :=
  let key := (closed.run.experimentId, closed.run.runId)
  let dir := (tracker.runs.get? key).getD { run := [] }
  { tracker with
    runs := tracker.runs.set key
      (settled service dir closed (closed.run.document service.repr)) }

/-- The artifacts that are in the directory of a run. -/
def storedArtifacts (tracker : Tracker) (run : ExperimentRun) : Folder :=
  (tracker.runs.get? (run.experimentId, run.runId)).elim .empty RunDir.artifacts

/-- What a call returns or raises, and what it leaves. -/
def perform (tracker : Tracker) : Call → Except ServiceError Reply × Tracker
  | .startRun call =>
    let run := service.startedRun tracker.evidence call
    (.ok (.run run), service.persist tracker run)
  | .close call =>
    match loadRun (call.listing.order tracker.documents) call.runId with
    | .error error => (.error error, tracker)
    | .ok none => (.error (.python .attributeError), tracker)
    | .ok (some run) =>
      match service.closed run (storedArtifacts tracker run) call with
      | .error error => (.error error, tracker)
      | .ok closed => (closed.reply.map .run, service.store tracker closed)
  | .promote call =>
    match loadRun (call.listing.order tracker.documents) call.runId with
    | .error error => (.error error, tracker)
    | .ok none => (.error (.python .attributeError), tracker)
    | .ok (some run) =>
      match service.promoted tracker.evidence run call with
      | .error error => (.error error, tracker)
      | .ok (receipt, evidence) => (.ok (.receipt receipt), { tracker with evidence })
  | .writeDataManifest content =>
    (.ok .done, { tracker with evidence := { tracker.evidence with dataManifest := content } })

def after (tracker : Tracker) (call : Call) : Tracker := (service.perform tracker call).2

end Service

/-! ## What the tracker is for -/

/-- A run in memory, and when it was started or ended last. -/
structure Entry where
  dir : RunDir ExperimentRun
  touched : UtcTime

/-- A map from run ids to runs. -/
structure Book where
  runs : Dict String Entry := .empty
  evidence : Evidence := {}

namespace Service

variable (service : Service)

def find (book : Book) (runId : String) : Except ServiceError Entry :=
  match book.runs.get? runId with
  | none => .error (.tracker ("run not found: " ++ runId))
  | some entry => .ok entry

def performBook (book : Book) : Call → Except ServiceError Reply × Book
  | .startRun call =>
    let run := service.startedRun book.evidence call
    (.ok (.run run),
      { book with runs := book.runs.set run.runId { dir := { run }, touched := call.now } })
  | .close call =>
    match find book call.runId with
    | .error error => (.error error, book)
    | .ok entry =>
      match service.closed entry.dir.run entry.dir.artifacts call with
      | .error error => (.error error, book)
      | .ok closed =>
        (closed.reply.map .run,
          { book with runs := book.runs.set call.runId {
              dir := settled service entry.dir closed closed.run
              touched := call.now } })
  | .promote call =>
    match find book call.runId with
    | .error error => (.error error, book)
    | .ok entry =>
      match service.promoted book.evidence entry.dir.run call with
      | .error error => (.error error, book)
      | .ok (receipt, evidence) => (.ok (.receipt receipt), { book with evidence })
  | .writeDataManifest content =>
    (.ok .done, { book with evidence := { book.evidence with dataManifest := content } })

def afterBook (book : Book) (call : Call) : Book := (service.performBook book call).2

end Service

/-- The runs of a book that a listing shows. -/
def Book.listed (book : Book) (status strategyId : Option String) : List ExperimentRun :=
  (book.runs.entries.map fun entry => entry.2.dir.run).filter fun run =>
    (!truthy status || status == some run.status) &&
      (!truthy strategyId || strategyId == some run.strategyId)

/-! ## The records follow the book -/

def RunDir.map {Content Image : Type} (change : Content → Image) (dir : RunDir Content) :
    RunDir Image where
  run := change dir.run
  metrics := dir.metrics
  artifacts := dir.artifacts
  notebook := dir.notebook

/-- The directory of a run as it is written. -/
def Service.written (service : Service) (entry : Entry) : RunDir (List Char) :=
  entry.dir.map fun run => run.document service.repr

/-- The directories are those of the runs of the book, with the documents of the runs. -/
structure Follows (service : Service) (book : Book) (tracker : Tracker) : Prop where
  evidence : tracker.evidence = book.evidence
  runs : tracker.runs.entries = book.runs.entries.map fun entry =>
    ((entry.2.dir.run.experimentId, entry.1), service.written entry.2)

/-- A run as it is held under its id. -/
structure Held (service : Service) (runId : String) (entry : Entry) : Prop where
  runId : entry.dir.run.runId = runId
  readable : Readable service.repr entry.dir.run
  artifacts : entry.dir.artifacts.get? "run.json" = none
  notebook : entry.dir.notebook.get? "run.json" = none
  sortKey : sortKey entry.dir.run = .str entry.touched.wholeSecond.isoText

def Holds (service : Service) (book : Book) : Prop :=
  ∀ entry ∈ book.runs.entries, Held service entry.1 entry.2

section Folders

theorem copied_map {Content Image : Type} (change : Content → Image) (dir : RunDir Content)
    (copies : List Change) : copied (dir.map change) copies = (copied dir copies).map change := by
  induction copies generalizing dir with
  | nil => rfl
  | cons copy rest ih =>
    unfold copied at ih ⊢
    rw [List.foldl_cons, List.foldl_cons, ← ih]
    cases copy <;> rfl

theorem settled_map {Content Image : Type} (service : Service) (change : Content → Image)
    (dir : RunDir Content) (closed : Service.Closed) (document : Content) :
    settled service (dir.map change) closed (change document) =
      (settled service dir closed document).map change := by
  unfold settled
  rw [copied_map]
  rfl

/-- A copy that goes to another name. -/
def Elsewhere (name : String) : Change → Prop
  | .artifact other _ => other ≠ name
  | .notebook other _ => other ≠ name
  | _ => True

theorem copied_elsewhere {Content : Type} {name : String} {copies : List Change}
    (elsewhere : ∀ copy ∈ copies, Elsewhere name copy) (dir : RunDir Content) :
    (copied dir copies).artifacts.get? name = dir.artifacts.get? name ∧
      (copied dir copies).notebook.get? name = dir.notebook.get? name := by
  induction copies generalizing dir with
  | nil => exact ⟨rfl, rfl⟩
  | cons copy rest ih =>
    obtain ⟨here, later⟩ := List.forall_mem_cons.mp elsewhere
    unfold copied at ih ⊢
    rw [List.foldl_cons]
    cases copy with
    | artifact other content =>
      have kept := ih later { dir with artifacts := dir.artifacts.set other content }
      rwa [Dict.get?_set, if_neg here] at kept
    | notebook other content =>
      have kept := ih later { dir with notebook := dir.notebook.set other content }
      rwa [Dict.get?_set, if_neg here] at kept
    | metrics snapshot => exact ih later dir
    | run run => exact ih later dir

def sourceName : Source → String
  | .elsewhere name _ => name
  | .stored name => name

variable {sha256 : List UInt8 → String} {runDir : String}

theorem artifactType_ne_empty (name : String) : artifactType name ≠ "" := by
  rw [artifactType]
  split
  · rename_i suffix
    intro empty
    exact suffix.2 (by simpa using congrArg String.toList empty)
  · decide

/-- The artifacts have types, and the copies go where the sources say. -/
theorem collectArtifacts_spec (sources : List Source) (folder : Folder) :
    (∀ artifact ∈ (collectArtifacts sha256 runDir sources folder).1, artifact.artifactType ≠ "") ∧
      ∀ name, (∀ source ∈ sources, sourceName source ≠ name) →
        ∀ copy ∈ (collectArtifacts sha256 runDir sources folder).2, Elsewhere name copy := by
  induction sources generalizing folder with
  | nil => simp [collectArtifacts]
  | cons source rest ih =>
    cases source with
    | elsewhere name content =>
      cases content with
      | none =>
        obtain ⟨typed, elsewhere⟩ := ih folder
        exact ⟨typed, fun name others =>
          elsewhere name (List.forall_mem_cons.mp others).2⟩
      | some content =>
        obtain ⟨typed, elsewhere⟩ := ih (folder.set name content)
        constructor
        · intro artifact member
          cases List.mem_cons.mp member with
          | inl same => exact same ▸ artifactType_ne_empty name
          | inr later => exact typed artifact later
        · intro other others copy member
          obtain ⟨here, later⟩ := List.forall_mem_cons.mp others
          cases List.mem_cons.mp member with
          | inl same => exact same ▸ here
          | inr among => exact elsewhere other later copy among
    | stored name =>
      obtain ⟨typed, elsewhere⟩ := ih folder
      rw [collectArtifacts]
      simp only
      split
      · exact ⟨typed, fun name others => elsewhere name (List.forall_mem_cons.mp others).2⟩
      · refine ⟨fun artifact member => ?_,
          fun name others => elsewhere name (List.forall_mem_cons.mp others).2⟩
        cases List.mem_cons.mp member with
        | inl same => exact same ▸ artifactType_ne_empty name
        | inr later => exact typed artifact later

theorem snapshot_normalizeNotebookSnapshot {runId : String} {input : Option NotebookInput}
    {snapshot : ExperimentNotebookSnapshot}
    (made : (normalizeNotebookSnapshot sha256 runDir runId input).1 = some snapshot) :
    snapshot.runId = runId ∧
      ∃ given, input = some given ∧ snapshot.envFingerprint = given.envFingerprint := by
  cases input with
  | none => cases made
  | some given =>
    rw [normalizeNotebookSnapshot] at made
    split at made
    · obtain rfl := Option.some.inj made
      exact ⟨rfl, given, rfl, rfl⟩
    · cases made

theorem copies_normalizeNotebookSnapshot {name runId : String} {input : Option NotebookInput}
    (others : ∀ given, input = some given → given.htmlName ≠ name) :
    ∀ copy ∈ (normalizeNotebookSnapshot sha256 runDir runId input).2, Elsewhere name copy := by
  intro copy member
  cases input with
  | none => cases member
  | some given =>
    rw [normalizeNotebookSnapshot] at member
    split at member
    · obtain rfl := List.mem_singleton.mp member
      exact others given rfl
    · cases member

end Folders

/-! ## Calls that fit -/

def Outcome.Fit (repr : Rat → String) : Outcome → Prop
  | .complete metrics artifacts notebook =>
    (metrics.map Prod.fst).Nodup ∧
      (∀ parsed, coerceMetrics metrics = .ok parsed →
        ∀ entry ∈ parsed, Prints repr entry.2) ∧
      (∀ source ∈ artifacts, sourceName source ≠ "run.json") ∧
      ∀ given, notebook = some given →
        given.htmlName ≠ "run.json" ∧ (given.envFingerprint.map Prod.fst).Nodup
  | .failed => True

/-- A run has a type and parameters that JSON can hold, metrics are printed as they read,
and no copy is called `run.json`. -/
def Call.Fit (repr : Rat → String) : Call → Prop
  | .startRun call => call.runType ≠ "" ∧ Json.WellFormed (.map call.parameters)
  | .close call => call.outcome.Fit repr
  | _ => True

/-- The id of the run that a call starts. -/
def Call.started? : Call → Option String
  | .startRun call => some (Sweeps.uuid7 call.draw)
  | _ => none

section Steps

variable {service : Service} {book : Book} {tracker : Tracker} {call : Call} {entry : Entry}
  {runId : String}

theorem documents_eq (follows : Follows service book tracker) (holds : Holds service book) :
    tracker.documents = book.runs.entries.map fun entry =>
      { folder := entry.1, text := some (entry.2.dir.run.document service.repr) } := by
  rw [Tracker.documents, follows.runs, List.flatMap_map]
  have single : ∀ entry ∈ book.runs.entries,
      documentsOf entry.1 (service.written entry.2) =
        [{ folder := entry.1, text := some (entry.2.dir.run.document service.repr) }] := by
    intro entry member
    have held := holds entry member
    simp [documentsOf, strays, Service.written, RunDir.map, held.artifacts, held.notebook]
  rw [List.flatMap_congr single]
  exact List.map_eq_flatMap.symm

theorem loads_held (held : Held service runId entry) :
    loadDocument { folder := runId, text := some (entry.dir.run.document service.repr) } =
      .ok (some entry.dir.run) := by
  obtain ⟨payload, parsed, read⟩ := Option.map_eq_some_iff.mp (loads_document held.readable)
  simp only [loadDocument, parsed]
  exact read

/-- In any order of the files a run is loaded as the book has it. -/
theorem loadRun_eq (follows : Follows service book tracker) (holds : Holds service book)
    {documents : List Document} (perm : documents.Perm tracker.documents) (runId : String) :
    loadRun documents runId = (Service.find book runId).map fun entry => some entry.dir.run := by
  rw [documents_eq follows holds] at perm
  have folders : ((book.runs.entries.map fun entry =>
      { folder := entry.1, text := some (entry.2.dir.run.document service.repr) :
        Document }).map Document.folder) = book.runs.entries.map Prod.fst := by
    rw [List.map_map]
    rfl
  have distinct : (documents.map Document.folder).Nodup :=
    (perm.map Document.folder).nodup_iff.mpr (folders ▸ book.runs.distinct)
  cases found : book.runs.get? runId with
  | none =>
    have absent : Records.find? Document.folder documents runId = none := by
      refine List.find?_eq_none.mpr fun document member => ?_
      obtain ⟨entry, among, rfl⟩ := List.mem_map.mp (perm.mem_iff.mp member)
      simp only [decide_eq_true_eq]
      rintro rfl
      have present := book.runs.get?_eq_some_iff.mpr among
      rw [found] at present
      cases present
    rw [loadRun, absent, Service.find, found]
    rfl
  | some entry =>
    have member := book.runs.get?_eq_some_iff.mp found
    have located : Records.find? Document.folder documents runId =
        some { folder := runId, text := some (entry.dir.run.document service.repr) } :=
      (Records.find?_eq_some_iff distinct).mpr
        ⟨perm.mem_iff.mpr (List.mem_map.mpr ⟨(runId, entry), member, rfl⟩), rfl⟩
    obtain ⟨payload, parsed, read⟩ :=
      Option.map_eq_some_iff.mp (loads_document (holds (runId, entry) member).readable)
    rw [loadRun, located, Service.find, found]
    simp only [parsed]
    exact read

theorem loadRuns_eq (follows : Follows service book tracker) (holds : Holds service book)
    {documents : List Document} (perm : documents.Perm tracker.documents) :
    ∃ runs, loadRuns documents = .ok runs ∧
      runs.Perm (book.runs.entries.map fun entry => entry.2.dir.run) := by
  have all : tryMap loadDocument tracker.documents =
      .ok (book.runs.entries.map fun entry => some entry.2.dir.run) := by
    rw [documents_eq follows holds, tryMap_source]
    exact tryMap_eq_map fun entry member => loads_held (holds entry member)
  obtain ⟨loaded, returned, same⟩ := tryMap_perm perm all
  refine ⟨loaded.filterMap id, by rw [loadRuns, returned]; rfl, ?_⟩
  have kept := same.filterMap id
  rwa [List.filterMap_map, Function.id_comp, List.filterMap_eq_map'] at kept

theorem label_iff {experimentId : String}
    (own : ∀ old, book.runs.get? runId = some old → old.dir.run.experimentId = experimentId) :
    ∀ other ∈ book.runs.entries,
      (other.2.dir.run.experimentId, other.1) = (experimentId, runId) ↔ other.1 = runId := by
  intro other member
  refine ⟨fun same => congrArg Prod.snd same, ?_⟩
  rintro rfl
  rw [own other.2 (book.runs.get?_eq_some_iff.mpr member)]

theorem get?_follows (follows : Follows service book tracker) {experimentId : String}
    (own : ∀ old, book.runs.get? runId = some old → old.dir.run.experimentId = experimentId) :
    tracker.runs.get? (experimentId, runId) = (book.runs.get? runId).map service.written := by
  rw [Dict.get?, follows.runs]
  exact Dict.lookup_relabelled (label_iff own)

theorem set_follows (follows : Follows service book tracker)
    (own : ∀ old, book.runs.get? runId = some old →
      old.dir.run.experimentId = entry.dir.run.experimentId) :
    (tracker.runs.set (entry.dir.run.experimentId, runId) (service.written entry)).entries =
      (book.runs.set runId entry).entries.map fun entry =>
        ((entry.2.dir.run.experimentId, entry.1), service.written entry.2) := by
  show Dict.assign _ _ tracker.runs.entries = _
  rw [follows.runs]
  exact Dict.assign_relabelled rfl (label_iff own)

theorem holds_set (holds : Holds service book) (held : Held service runId entry)
    (evidence : Evidence) : Holds service { runs := book.runs.set runId entry, evidence } := by
  intro other member
  cases Dict.mem_assign member with
  | inl set => exact set ▸ held
  | inr kept => exact holds other kept

end Steps

section Held

variable {service : Service} {runId : String} {entry : Entry}

theorem uuid7_ne_empty (draw : Sweeps.Draw) : Sweeps.uuid7 draw ≠ "" := by
  intro empty
  have text := congrArg String.toList empty
  rw [Sweeps.uuid7, String.toList_ofList, Sweeps.uuidText_eq] at text
  exact absurd (List.append_eq_nil_iff.mp text).2 (List.cons_ne_nil _ _)

theorem orText_ne_empty {value : Option String} {default : String} (filled : default ≠ "") :
    orText value default ≠ "" := by
  cases value with
  | none => exact filled
  | some text =>
    by_cases empty : text = ""
    · simpa [orText, truthy, empty] using filled
    · simp [orText, empty]

theorem sortKey_str {run : ExperimentRun} {now : UtcTime}
    (ended : run.completedAt = .str now.wholeSecond.isoText) :
    sortKey run = .str now.wholeSecond.isoText := by
  rw [sortKey, ended, orValue, if_pos]
  simp [Value.truth, UtcTime.isoText_ne_empty]

theorem held_started (evidence : Evidence) {call : StartCall}
    (fit : (Call.startRun call).Fit service.repr) :
    Held service (Sweeps.uuid7 call.draw)
      { dir := { run := service.startedRun evidence call }, touched := call.now } where
  runId := rfl
  readable := {
    runId := uuid7_ne_empty call.draw
    runType := fit.1
    codeRevision := orText_ne_empty (orText_ne_empty (by decide))
    status := by simp [Service.startedRun]
    typed := by simp [Service.startedRun]
    exported := by simp [Service.startedRun]
    parameters := fit.2
    datasetManifestHash := by
      show Json.WellFormed ((orElse call.datasetHash _).elim .null .str)
      cases orElse call.datasetHash (service.resolveDatasetHash evidence) <;> trivial
    completedAt := trivial
    named := List.nodup_nil
    printed := by simp [Service.startedRun] }
  artifacts := rfl
  notebook := rfl
  sortKey := by simp [sortKey, Service.startedRun, orValue, Value.truth]

theorem keys_coerceMetrics {payload : Mapping} {parsed : Metrics}
    (coerced : coerceMetrics payload = .ok parsed) :
    parsed.map Prod.fst = payload.map Prod.fst := by
  induction payload generalizing parsed with
  | nil =>
    obtain rfl := Except.ok.inj coerced
    rfl
  | cons entry rest ih =>
    rw [coerceMetrics, List.mapM_cons] at coerced
    obtain ⟨first, here, coerced⟩ := bind_ok_iff.mp coerced
    obtain ⟨later, others, coerced⟩ := bind_ok_iff.mp coerced
    obtain rfl := Except.ok.inj coerced
    cases read : coerceFloat entry.2 with
    | error error =>
      rw [read] at here
      cases here
    | ok number =>
      rw [read] at here
      obtain rfl := Except.ok.inj here
      rw [List.map_cons, List.map_cons, ih others]

/-- What a call that ends a run makes of it. -/
structure Ends (service : Service) (run : ExperimentRun) (now : UtcTime)
    (closed : Service.Closed) : Prop where
  runId : closed.run.runId = run.runId
  experimentId : closed.run.experimentId = run.experimentId
  strategyId : closed.run.strategyId = run.strategyId
  datasetManifestHash : closed.run.datasetManifestHash = run.datasetManifestHash
  completedAt : closed.run.completedAt = .str now.wholeSecond.isoText
  readable : Readable service.repr run → Readable service.repr closed.run
  elsewhere : ∀ copy ∈ closed.copies, Elsewhere "run.json" copy

theorem ends_closed {run : ExperimentRun} {stored : Folder} {call : CloseCall}
    {closed : Service.Closed} (fit : call.outcome.Fit service.repr)
    (ended : service.closed run stored call = .ok closed) : Ends service run call.now closed := by
  unfold Service.closed at ended
  cases outcome : call.outcome with
  | failed =>
    rw [outcome] at ended
    obtain rfl := Except.ok.inj ended
    exact {
      runId := rfl
      experimentId := rfl
      strategyId := rfl
      datasetManifestHash := rfl
      completedAt := rfl
      readable := fun readable =>
        { readable with status := by simp, completedAt := trivial }
      elsewhere := by simp }
  | complete metrics artifacts notebook =>
    rw [outcome] at ended fit
    obtain ⟨named, printed, sources, exports⟩ := fit
    replace ended : service.completed run stored call.now.wholeSecond.isoText metrics artifacts
        notebook = .ok closed := ended
    cases coerced : coerceMetrics metrics with
    | error error =>
      rw [Service.completed, coerced] at ended
      cases ended
    | ok parsed =>
      have keys := keys_coerceMetrics coerced
      rw [Service.completed, coerced] at ended
      simp only [Except.mapError, bind, Except.bind, pure, Except.pure] at ended
      split at ended
      · obtain rfl := Except.ok.inj ended
        exact {
          runId := rfl
          experimentId := rfl
          strategyId := rfl
          datasetManifestHash := rfl
          completedAt := rfl
          readable := fun readable => { readable with
            status := by simp
            completedAt := trivial
            named := keys ▸ named
            printed := printed parsed coerced }
          elsewhere := by simp }
      · obtain rfl := Except.ok.inj ended
        have collected := @collectArtifacts_spec service.sha256 (service.runDir run) artifacts
          stored
        exact {
          runId := rfl
          experimentId := rfl
          strategyId := rfl
          datasetManifestHash := rfl
          completedAt := rfl
          readable := fun readable => { readable with
            status := by simp
            completedAt := trivial
            named := keys ▸ named
            printed := printed parsed coerced
            typed := collected.1
            exported := fun snapshot made => by
              obtain ⟨own, given, input, env⟩ := snapshot_normalizeNotebookSnapshot made
              exact ⟨own ▸ readable.runId, env ▸ (exports given input).2⟩ }
          elsewhere := fun copy member => by
            cases List.mem_append.mp member with
            | inl artifact => exact collected.2 "run.json" sources copy artifact
            | inr exported =>
              exact copies_normalizeNotebookSnapshot
                (fun given input => (exports given input).1) copy exported }

end Held

/-! ## Runs of calls -/

section Refinement

variable {service : Service} {book : Book} {tracker : Tracker} {call : Call} {calls : List Call}

theorem held_settled {runId : String} {entry : Entry} {now : UtcTime} {closed : Service.Closed}
    (held : Held service runId entry) (ends : Ends service entry.dir.run now closed) :
    Held service runId { dir := settled service entry.dir closed closed.run, touched := now } := by
  have kept := copied_elsewhere ends.elsewhere entry.dir
  exact {
    runId := ends.runId.trans held.runId
    readable := ends.readable held.readable
    artifacts := kept.1.trans held.artifacts
    notebook := kept.2.trans held.notebook
    sortKey := sortKey_str ends.completedAt }

theorem find_ok {runId : String} {entry : Entry} :
    Service.find book runId = .ok entry ↔ book.runs.get? runId = some entry := by
  rw [Service.find]
  cases book.runs.get? runId with
  | none => simp
  | some found => simp

theorem get?_written (follows : Follows service book tracker) {runId : String} {entry : Entry}
    (present : book.runs.get? runId = some entry) :
    tracker.runs.get? (entry.dir.run.experimentId, runId) = some (service.written entry) := by
  have own : ∀ old, book.runs.get? runId = some old →
      old.dir.run.experimentId = entry.dir.run.experimentId := by
    intro old same
    rw [Option.some.inj (same.symm.trans present)]
  rw [get?_follows follows own, present, Option.map_some]

/-- A run that is started gets a directory of its own. -/
theorem persist_follows (follows : Follows service book tracker) {call : StartCall}
    (absent : book.runs.get? (Sweeps.uuid7 call.draw) = none) :
    Follows service
      { book with
        runs := book.runs.set (Sweeps.uuid7 call.draw)
          { dir := { run := service.startedRun book.evidence call }, touched := call.now } }
      (service.persist tracker (service.startedRun book.evidence call)) := by
  have own : ∀ old, book.runs.get? (Sweeps.uuid7 call.draw) = some old →
      old.dir.run.experimentId = call.manifest.experimentId :=
    fun old found => absurd (absent.symm.trans found) (by simp)
  have empty : tracker.runs.get? ((service.startedRun book.evidence call).experimentId,
      (service.startedRun book.evidence call).runId) = none := by
    refine (get?_follows follows own).trans ?_
    rw [absent, Option.map_none]
  refine ⟨follows.evidence, ?_⟩
  rw [← @set_follows service book tracker
    { dir := { run := service.startedRun book.evidence call }, touched := call.now } _ follows own,
    Service.persist, empty]
  rfl

/-- A run that is ended is written where it was. -/
theorem store_follows (follows : Follows service book tracker) {runId : String} {entry : Entry}
    {now : UtcTime} {closed : Service.Closed} (present : book.runs.get? runId = some entry)
    (named : entry.dir.run.runId = runId) (ends : Ends service entry.dir.run now closed) :
    Follows service
      { book with
        runs := book.runs.set runId
          { dir := settled service entry.dir closed closed.run, touched := now } }
      (service.store tracker closed) := by
  have label : (settled service entry.dir closed closed.run).run.experimentId =
      entry.dir.run.experimentId := ends.experimentId
  have own : ∀ old, book.runs.get? runId = some old → old.dir.run.experimentId =
      (settled service entry.dir closed closed.run).run.experimentId := by
    intro old same
    rw [Option.some.inj (same.symm.trans present), label]
  refine ⟨follows.evidence, ?_⟩
  rw [← @set_follows service book tracker
    { dir := settled service entry.dir closed closed.run, touched := now } _ follows own,
    Service.store, ends.experimentId, ends.runId, named, get?_written follows present]
  simp only [Option.getD_some]
  rw [Service.written, settled_map service (fun run => run.document service.repr) entry.dir closed,
    label]
  rfl

/-- A call returns what it returns of the book, and what it leaves follows the book. -/
theorem perform_follows (follows : Follows service book tracker) (holds : Holds service book)
    (fit : call.Fit service.repr)
    (fresh : ∀ runId, call.started? = some runId → book.runs.get? runId = none) :
    (service.perform tracker call).1 = (service.performBook book call).1 ∧
      Follows service (service.afterBook book call) (service.after tracker call) ∧
        Holds service (service.afterBook book call) := by
  have evidence := follows.evidence
  unfold Service.after Service.afterBook
  cases call with
  | startRun call =>
    rw [Service.perform, Service.performBook, evidence]
    exact ⟨rfl, persist_follows follows (fresh _ rfl),
      holds_set holds (held_started book.evidence fit) book.evidence⟩
  | close call =>
    have loaded := loadRun_eq follows holds (call.listing.perm tracker.documents) call.runId
    rw [Service.perform, Service.performBook, loaded]
    cases found : Service.find book call.runId with
    | error error => exact ⟨rfl, follows, holds⟩
    | ok entry =>
      have present := find_ok.mp found
      have held := holds (call.runId, entry) (book.runs.get?_eq_some_iff.mp present)
      have stored : Service.storedArtifacts tracker entry.dir.run = entry.dir.artifacts := by
        rw [Service.storedArtifacts, held.runId, get?_written follows present]
        rfl
      simp only [Except.map, stored]
      cases ended : service.closed entry.dir.run entry.dir.artifacts call with
      | error error => exact ⟨rfl, follows, holds⟩
      | ok closed =>
        have ends := ends_closed fit ended
        exact ⟨rfl, store_follows follows present held.runId ends,
          holds_set holds (held_settled held ends) book.evidence⟩
  | promote call =>
    have loaded := loadRun_eq follows holds (call.listing.perm tracker.documents) call.runId
    rw [Service.perform, Service.performBook, loaded, evidence]
    cases found : Service.find book call.runId with
    | error error => exact ⟨rfl, follows, holds⟩
    | ok entry =>
      simp only [Except.map]
      cases service.promoted book.evidence entry.dir.run call with
      | error error => exact ⟨rfl, follows, holds⟩
      | ok promoted => exact ⟨rfl, ⟨rfl, follows.runs⟩, holds⟩
  | writeDataManifest content =>
    refine ⟨rfl, ⟨?_, follows.runs⟩, holds⟩
    exact congrArg (fun evidence => { evidence with dataManifest := content }) evidence

/-- What a call does to a book. -/
inductive Step (service : Service) (book : Book) : Call → Book → Prop where
  | started (call : StartCall) :
      Step service book (.startRun call) { book with
        runs := book.runs.set (Sweeps.uuid7 call.draw)
          { dir := { run := service.startedRun book.evidence call }, touched := call.now } }
  | closed {call : CloseCall} {entry : Entry} {closed : Service.Closed}
      (found : book.runs.get? call.runId = some entry)
      (ended : service.closed entry.dir.run entry.dir.artifacts call = .ok closed) :
      Step service book (.close call) { book with
        runs := book.runs.set call.runId
          { dir := settled service entry.dir closed closed.run, touched := call.now } }
  | unclosed {call : CloseCall}
      (refused : ∀ entry, book.runs.get? call.runId = some entry →
        ∃ error, service.closed entry.dir.run entry.dir.artifacts call = .error error) :
      Step service book (.close call) book
  | promoted {call : PromoteCall} {entry : Entry} {receipt : PromotionReceipt}
      {evidence : Evidence} (found : book.runs.get? call.runId = some entry)
      (promoted : service.promoted book.evidence entry.dir.run call = .ok (receipt, evidence)) :
      Step service book (.promote call) { book with evidence }
  | unpromoted {call : PromoteCall}
      (refused : ∀ entry, book.runs.get? call.runId = some entry →
        ∃ error, service.promoted book.evidence entry.dir.run call = .error error) :
      Step service book (.promote call) book
  | written (content : Option (List UInt8)) :
      Step service book (.writeDataManifest content)
        { book with evidence := { book.evidence with dataManifest := content } }

theorem find_error {runId : String} {error : ServiceError}
    (missing : Service.find book runId = .error error) : book.runs.get? runId = none := by
  cases found : book.runs.get? runId with
  | none => rfl
  | some entry =>
    rw [find_ok.mpr found] at missing
    cases missing

theorem step_afterBook (book : Book) (call : Call) :
    Step service book call (service.afterBook book call) := by
  unfold Service.afterBook
  cases call with
  | startRun call => exact .started call
  | close call =>
    rw [Service.performBook]
    cases found : Service.find book call.runId with
    | error error =>
      exact .unclosed fun entry present =>
        absurd ((find_error found).symm.trans present) (by simp)
    | ok entry =>
      have present := find_ok.mp found
      simp only
      cases ended : service.closed entry.dir.run entry.dir.artifacts call with
      | error error =>
        refine .unclosed fun other same => ⟨error, ?_⟩
        obtain rfl := Option.some.inj (present.symm.trans same)
        exact ended
      | ok closed => exact .closed present ended
  | promote call =>
    rw [Service.performBook]
    cases found : Service.find book call.runId with
    | error error =>
      exact .unpromoted fun entry present =>
        absurd ((find_error found).symm.trans present) (by simp)
    | ok entry =>
      have present := find_ok.mp found
      simp only
      cases promoted : service.promoted book.evidence entry.dir.run call with
      | error error =>
        refine .unpromoted fun other same => ⟨error, ?_⟩
        obtain rfl := Option.some.inj (present.symm.trans same)
        exact promoted
      | ok promotion => exact .promoted present promoted
  | writeDataManifest content => exact .written content

theorem get?_afterBook {runId : String} (absent : book.runs.get? runId = none)
    (other : call.started? ≠ some runId) :
    (service.afterBook book call).runs.get? runId = none := by
  have step := @step_afterBook service book call
  generalize service.afterBook book call = next at step ⊢
  cases step with
  | started call =>
    rw [Dict.get?_set, if_neg fun same => other (congrArg some same)]
    exact absent
  | @closed call entry closed found ended =>
    have different : call.runId ≠ runId := fun same =>
      absurd (absent.symm.trans (same ▸ found)) (by simp)
    rw [Dict.get?_set, if_neg different]
    exact absent
  | unclosed refused => exact absent
  | promoted found promoted => exact absent
  | unpromoted refused => exact absent
  | written content => exact absent

/-- The runs that are still started are new to the book, and each has an id of its own. -/
structure Fresh (book : Book) (calls : List Call) : Prop where
  distinct : (calls.filterMap Call.started?).Nodup
  new : ∀ runId ∈ calls.filterMap Call.started?, book.runs.get? runId = none

theorem Fresh.step (fresh : Fresh book (call :: calls)) :
    Fresh (service.afterBook book call) calls := by
  have distinct := fresh.distinct
  have new := fresh.new
  rw [List.filterMap_cons] at distinct new
  cases started : call.started? with
  | none =>
    rw [started] at distinct new
    refine ⟨distinct, fun runId member => get?_afterBook (new runId member) ?_⟩
    rw [started]
    simp
  | some first =>
    rw [started] at distinct new
    obtain ⟨unlike, distinct⟩ := List.nodup_cons.mp distinct
    refine ⟨distinct, fun runId member =>
      get?_afterBook (new runId (List.mem_cons_of_mem _ member)) ?_⟩
    rw [started]
    exact fun same => unlike (Option.some.inj same ▸ member)

theorem Fresh.head (fresh : Fresh book (call :: calls)) {runId : String}
    (started : call.started? = some runId) : book.runs.get? runId = none := by
  refine fresh.new runId ?_
  rw [List.filterMap_cons, started]
  exact List.mem_cons_self

theorem run_follows (follows : Follows service book tracker) (holds : Holds service book)
    (fit : ∀ call ∈ calls, call.Fit service.repr) (fresh : Fresh book calls) :
    Follows service (runFrom service.afterBook book calls) (runFrom service.after tracker calls) ∧
      Holds service (runFrom service.afterBook book calls) := by
  induction calls generalizing book tracker with
  | nil => exact ⟨follows, holds⟩
  | cons call calls ih =>
    obtain ⟨here, later⟩ := List.forall_mem_cons.mp fit
    obtain ⟨-, next, held⟩ := perform_follows follows holds here fun runId => fresh.head
    exact ih next held later fresh.step

theorem Fresh.run {earlier : List Call} (fresh : Fresh book (earlier ++ calls)) :
    Fresh (runFrom service.afterBook book earlier) calls := by
  induction earlier generalizing book with
  | nil => exact fresh
  | cons call earlier ih => exact ih fresh.step

theorem Fresh.earlier {earlier : List Call} (fresh : Fresh book (earlier ++ calls)) :
    Fresh book earlier := by
  have distinct := fresh.distinct
  rw [List.filterMap_append] at distinct
  refine ⟨(List.nodup_append.mp distinct).1, fun runId member => fresh.new runId ?_⟩
  rw [List.filterMap_append]
  exact List.mem_append_left _ member

theorem fresh_empty (distinct : (calls.filterMap Call.started?).Nodup) : Fresh {} calls :=
  ⟨distinct, fun _ _ => rfl⟩

theorem follows_empty (evidence : Evidence) :
    Follows service { evidence } { evidence } := ⟨rfl, rfl⟩

theorem holds_empty (evidence : Evidence) : Holds service { evidence } := fun _ member => by
  cases member

theorem filter_listed (runs : List ExperimentRun) (status strategyId : Option String) :
    (let runs := if truthy status then runs.filter fun run => status == some run.status else runs
      if truthy strategyId then runs.filter fun run =>
        strategyId == some run.strategyId else runs) =
      runs.filter fun run => (!truthy status || status == some run.status) &&
        (!truthy strategyId || strategyId == some run.strategyId) := by
  cases truthy status <;> cases truthy strategyId <;> simp [List.filter_filter, Bool.and_comm]

/-- In every run of calls each call returns what it returns of the book, and in any order
of the files the tracker loads and lists the runs of the book, with every field. -/
theorem tracker_refines (fit : ∀ call ∈ calls, call.Fit service.repr)
    (distinct : (calls.filterMap Call.started?).Nodup) :
    (∀ before call later, calls = before ++ call :: later →
      (service.perform (runFrom service.after {} before) call).1 =
        (service.performBook (runFrom service.afterBook {} before) call).1) ∧
      ∀ documents : List Document,
        documents.Perm (runFrom service.after {} calls).documents →
          (∀ runId, loadRun documents runId =
            (Service.find (runFrom service.afterBook {} calls) runId).map fun entry =>
              some entry.dir.run) ∧
          ∀ status strategyId, ∃ listed, listRuns documents status strategyId = .ok listed ∧
            listed.Perm ((runFrom service.afterBook {} calls).listed status strategyId) := by
  have fresh := fresh_empty distinct
  constructor
  · rintro before call later rfl
    obtain ⟨earlier, here, -⟩ := List.forall_mem_append.mp fit |>.imp_right List.forall_mem_cons.mp
    obtain ⟨follows, holds⟩ := run_follows (follows_empty {}) (holds_empty {}) earlier fresh.earlier
    exact (perform_follows follows holds here fun runId => fresh.run.head).1
  · intro documents perm
    obtain ⟨follows, holds⟩ := run_follows (follows_empty {}) (holds_empty {}) fit fresh
    refine ⟨loadRun_eq follows holds perm, fun status strategyId => ?_⟩
    obtain ⟨runs, loaded, same⟩ := loadRuns_eq follows holds perm
    rw [listRuns, loaded]
    refine ⟨_, congrArg Except.ok (filter_listed runs status strategyId), ?_⟩
    exact same.filter _

end Refinement

/-! ## The latest run -/

/-- The runs of a strategy that a book holds. -/
def Book.entriesOf (book : Book) (strategyId : String) : List Entry :=
  (book.runs.entries.map Prod.snd).filter fun entry => entry.dir.run.strategyId = strategyId

/-- Nothing of nothing, and else a run that no other was started or ended after. -/
structure Latest (entries : List Entry) (latest : Option ExperimentRun) : Prop where
  none_iff : latest = none ↔ entries = []
  last : ∀ run, latest = some run → ∃ entry ∈ entries, entry.dir.run = run ∧
    ∀ other ∈ entries, other.touched.seconds ≤ entry.touched.seconds

section Latest

variable {service : Service} {calls : List Call}

theorem sortsBefore_trans (first second third : ExperimentRun)
    (before : sortsBefore first second = true) (next : sortsBefore second third = true) :
    sortsBefore first third = true := by
  unfold sortsBefore at before next ⊢
  rw [decide_eq_true_iff] at before next ⊢
  exact le_trans next before

theorem sortsBefore_total (first second : ExperimentRun) :
    (sortsBefore first second || sortsBefore second first) = true := by
  unfold sortsBefore
  rw [Bool.or_eq_true, decide_eq_true_iff, decide_eq_true_iff]
  exact le_total _ _

/-- The first of the sorted runs is the latest, where the keys are the times of the runs. -/
theorem latest_mergeSort {entries : List Entry} {runs : List ExperimentRun}
    (same : runs.Perm (entries.map fun entry => entry.dir.run))
    (keyed : ∀ entry ∈ entries,
      keyText? entry.dir.run = some entry.touched.wholeSecond.isoText) :
    Latest entries (runs.mergeSort sortsBefore).head? := by
  have perm := (List.mergeSort_perm runs sortsBefore).trans same
  have sorted := List.pairwise_mergeSort sortsBefore_trans sortsBefore_total runs
  generalize runs.mergeSort sortsBefore = ordered at perm sorted ⊢
  constructor
  · rw [List.head?_eq_none_iff]
    constructor
    · rintro rfl
      exact List.map_eq_nil_iff.mp perm.symm.eq_nil
    · rintro rfl
      exact perm.eq_nil
  · intro run first
    obtain ⟨rest, rfl⟩ := List.head?_eq_some_iff.mp first
    obtain ⟨entry, member, rfl⟩ := List.mem_map.mp (perm.mem_iff.mp List.mem_cons_self)
    refine ⟨entry, member, rfl, fun other among => ?_⟩
    have inOrder := perm.mem_iff.mpr (List.mem_map_of_mem among)
    have below : (keyText? other.dir.run).getD "" ≤ (keyText? entry.dir.run).getD "" := by
      cases List.mem_cons.mp inOrder with
      | inl equal => rw [equal]
      | inr later => exact of_decide_eq_true ((List.pairwise_cons.mp sorted).1 _ later)
    rw [keyed entry member, keyed other among] at below
    exact not_lt.mp fun after => absurd ((UtcTime.isoText_lt_iff _ _).mpr after) (not_lt.mpr below)

/-- In every run of calls the latest run of a strategy is one that was started or ended last,
in whatever order its files are found. -/
theorem latest_run (fit : ∀ call ∈ calls, call.Fit service.repr)
    (distinct : (calls.filterMap Call.started?).Nodup) {documents : List Document}
    (perm : documents.Perm (runFrom service.after {} calls).documents) (strategyId : String) :
    ∃ latest, loadLatestRun documents strategyId = .ok latest ∧
      Latest ((runFrom service.afterBook {} calls).entriesOf strategyId) latest := by
  obtain ⟨follows, holds⟩ :=
    run_follows (follows_empty {}) (holds_empty {}) fit (fresh_empty distinct)
  obtain ⟨runs, loaded, same⟩ := loadRuns_eq follows holds perm
  have own : (runs.filter fun run => run.strategyId = strategyId).Perm
      (((runFrom service.afterBook {} calls).entriesOf strategyId).map fun entry =>
        entry.dir.run) := by
    have kept := same.filter fun run => run.strategyId = strategyId
    rw [List.filter_map] at kept
    rwa [Book.entriesOf, List.filter_map, List.map_map]
  have keyed : ∀ entry ∈ (runFrom service.afterBook {} calls).entriesOf strategyId,
      keyText? entry.dir.run = some entry.touched.wholeSecond.isoText := by
    intro entry member
    obtain ⟨among, -⟩ := List.mem_filter.mp member
    obtain ⟨held, inBook, rfl⟩ := List.mem_map.mp among
    rw [keyText?, (holds held inBook).sortKey]
  have texts : (runs.filter fun run => run.strategyId = strategyId).all
      (fun run => (keyText? run).isSome) = true := by
    rw [List.all_eq_true]
    intro run member
    obtain ⟨entry, among, rfl⟩ := List.mem_map.mp (own.mem_iff.mp member)
    rw [keyed entry among]
    rfl
  refine ⟨_, ?_, latest_mergeSort own keyed⟩
  rw [loadLatestRun, loaded]
  simp only [bind, Except.bind, texts, or_true, if_true]
  rfl

end Latest

/-! ## Promotions after a run -/

/-- The data manifest that calls leave. -/
def manifestAfter (content : Option (List UInt8)) (calls : List Call) : Option (List UInt8) :=
  calls.foldl
    (fun content call => match call with
      | .writeDataManifest written => written
      | _ => content) content

/-- The status that a call gives the run it ends, where its metrics can be read. -/
def Outcome.status? : Outcome → Option String
  | .complete metrics _ _ =>
    match coerceMetrics metrics with
    | .error _ => none
    | .ok parsed => some (if missingMetrics parsed = [] then "completed" else "failed")
  | .failed => some "failed"

/-- The status that calls leave of a run. -/
def statusAfter (runId status : String) (calls : List Call) : String :=
  calls.foldl
    (fun status call => match call with
      | .close call => if call.runId = runId then call.outcome.status?.getD status else status
      | _ => status) status

namespace Service

variable (service : Service)

/-- The data are those that the run was started with. -/
def unchanged (before : List Call) (start : StartCall) (later : List Call) : Bool :=
  service.synced { dataManifest := manifestAfter none (before ++ .startRun start :: later) }
    ((orElse start.datasetHash ((manifestAfter none before).map service.sha256)).elim .null .str)

/-- What promoting a completed run returns. -/
def promotionOf (before : List Call) (start : StartCall) (later : List Call)
    (call : PromoteCall) : PromotionReceipt where
  runId := call.runId
  experimentId := start.manifest.experimentId
  strategyId := start.manifest.linkedStrategy
  targetStage := call.targetStage
  status := if service.unchanged before start later then "ok" else "blocked"
  validationPlaybookId := service.playbookStem
  runbookId := service.runbookId
  blockedReason :=
    if service.unchanged before start later then none else some "data_manifest_hash_mismatch"
  evidencePaths := call.attachments
  createdAt := call.now.wholeSecond.isoText

end Service

def playbookEntries (playbook : Option Mapping) : List Value :=
  match field (playbook.getD []) "entries" with
  | .list entries => entries
  | _ => []

structure Promotion where
  run : ExperimentRun
  call : PromoteCall
  receipt : PromotionReceipt

namespace Service

variable (service : Service)

/-- The promotion that a call makes. -/
def promotion? (book : Book) : Call → Option Promotion
  | .promote call =>
    match find book call.runId with
    | .error _ => none
    | .ok entry =>
      match service.promoted book.evidence entry.dir.run call with
      | .error _ => none
      | .ok (receipt, _) => some { run := entry.dir.run, call, receipt }
  | _ => none

def promotions : Book → List Call → List Promotion
  | _, [] => []
  | book, call :: rest =>
    (service.promotion? book call).toList ++ promotions (service.afterBook book call) rest

/-- The entries that promotions add to the playbook. -/
def validations (promotions : List Promotion) : List Value :=
  (promotions.filter fun promotion => !promotion.call.dryRun).map fun promotion =>
    .map (service.validationEntry promotion.run promotion.receipt promotion.call.note)

/-- The tasks that promotions add to the agenda. -/
def investigations (promotions : List Promotion) : List Mapping :=
  (promotions.filter fun promotion => promotion.receipt.blockedReason.isSome).map fun promotion =>
    service.agendaTask promotion.run promotion.receipt

end Service

/-- The entries of the playbook, where there is one, are a list. -/
def Evidence.Listed (evidence : Evidence) : Prop :=
  ∀ payload, evidence.playbook = some payload → ∃ entries, field payload "entries" = .list entries

/-- A run as it was started, but for what ends it. -/
structure SameStart (first run : ExperimentRun) : Prop where
  experimentId : run.experimentId = first.experimentId
  strategyId : run.strategyId = first.strategyId
  datasetManifestHash : run.datasetManifestHash = first.datasetManifestHash

section Promotions

variable {service : Service} {book : Book} {call : Call} {calls : List Call} {runId : String}
  {entry : Entry}

theorem status_closed {run : ExperimentRun} {stored : Folder} {call : CloseCall} :
    (∀ closed, service.closed run stored call = .ok closed →
      call.outcome.status? = some closed.run.status) ∧
      ∀ error, service.closed run stored call = .error error → call.outcome.status? = none := by
  unfold Service.closed
  cases call.outcome with
  | failed =>
    refine ⟨fun closed ended => ?_, fun error ended => ?_⟩
    · obtain rfl := Except.ok.inj ended
      rfl
    · cases ended
  | complete metrics artifacts notebook =>
    simp only [Outcome.status?, Service.completed]
    cases coerced : coerceMetrics metrics with
    | error error =>
      refine ⟨fun closed ended => ?_, fun _ _ => rfl⟩
      cases ended
    | ok parsed =>
      simp only [Except.mapError, bind, Except.bind, pure, Except.pure, validateMetrics]
      cases missingMetrics parsed with
      | nil =>
        refine ⟨fun closed ended => ?_, fun error ended => ?_⟩
        · obtain rfl := Except.ok.inj ended
          rfl
        · cases ended
      | cons first rest =>
        refine ⟨fun closed ended => ?_, fun error ended => ?_⟩
        · obtain rfl := Except.ok.inj ended
          simp
        · cases ended

theorem promoted_ok {evidence next : Evidence} {run : ExperimentRun} {call : PromoteCall}
    {receipt : PromotionReceipt}
    (promoted : service.promoted evidence run call = .ok (receipt, next)) :
    run.status = "completed" ∧ receipt = service.receiptOf evidence run call ∧
      ∃ playbook, service.validated evidence.playbook run receipt call = .ok playbook ∧
        next = service.promotedEvidence evidence run receipt playbook := by
  rw [Service.promoted] at promoted
  split at promoted
  · cases promoted
  · rename_i completed
    cases written : service.validated evidence.playbook run (service.receiptOf evidence run call)
        call with
    | error error =>
      rw [written] at promoted
      cases promoted
    | ok playbook =>
      rw [written] at promoted
      obtain ⟨rfl, rfl⟩ := Prod.mk.inj (Except.ok.inj promoted)
      exact ⟨not_not.mp completed, rfl, playbook, written, rfl⟩

theorem dataManifest_promoted {evidence next : Evidence} {run : ExperimentRun}
    {call : PromoteCall} {receipt : PromotionReceipt}
    (promoted : service.promoted evidence run call = .ok (receipt, next)) :
    next.dataManifest = evidence.dataManifest := by
  obtain ⟨-, -, playbook, -, rfl⟩ := promoted_ok promoted
  rfl

/-- What a call leaves of a run that is in the book. -/
theorem entry_step (found : book.runs.get? runId = some entry)
    (other : call.started? ≠ some runId) (fit : call.Fit service.repr) :
    ∃ next, (service.afterBook book call).runs.get? runId = some next ∧
      next.dir.run.status = statusAfter runId entry.dir.run.status [call] ∧
        SameStart entry.dir.run next.dir.run := by
  have same : SameStart entry.dir.run entry.dir.run := ⟨rfl, rfl, rfl⟩
  have step := @step_afterBook service book call
  generalize service.afterBook book call = next at step ⊢
  cases step with
  | started call =>
    refine ⟨entry, ?_, rfl, same⟩
    rw [Dict.get?_set, if_neg fun same => other (congrArg some same)]
    exact found
  | @closed call old closed present ended =>
    by_cases own : call.runId = runId
    · subst own
      obtain rfl := Option.some.inj (found.symm.trans present)
      have ends := ends_closed fit ended
      refine ⟨_, by rw [Dict.get?_set, if_pos rfl], ?_,
        ⟨ends.experimentId, ends.strategyId, ends.datasetManifestHash⟩⟩
      simp [statusAfter, status_closed.1 closed ended, settled]
    · refine ⟨entry, ?_, by simp [statusAfter, own], same⟩
      rw [Dict.get?_set, if_neg own]
      exact found
  | @unclosed call refused =>
    refine ⟨entry, found, ?_, same⟩
    by_cases own : call.runId = runId
    · obtain ⟨error, ended⟩ := refused entry (own ▸ found)
      simp [statusAfter, status_closed.2 error ended]
    · simp [statusAfter, own]
  | promoted present promoted => exact ⟨entry, found, rfl, same⟩
  | unpromoted refused => exact ⟨entry, found, rfl, same⟩
  | written content => exact ⟨entry, found, rfl, same⟩

theorem entry_run (found : book.runs.get? runId = some entry)
    (others : some runId ∉ calls.map Call.started?) (fit : ∀ call ∈ calls, call.Fit service.repr) :
    ∃ last, (runFrom service.afterBook book calls).runs.get? runId = some last ∧
      last.dir.run.status = statusAfter runId entry.dir.run.status calls ∧
        SameStart entry.dir.run last.dir.run := by
  induction calls generalizing book entry with
  | nil => exact ⟨entry, found, rfl, rfl, rfl, rfl⟩
  | cons call rest ih =>
    obtain ⟨here, later⟩ := List.forall_mem_cons.mp fit
    rw [List.map_cons, List.mem_cons, not_or] at others
    obtain ⟨next, present, status, same⟩ := entry_step found (Ne.symm others.1) here
    obtain ⟨last, kept, ended, also⟩ := ih present others.2 later
    refine ⟨last, kept, ended.trans ?_, also.experimentId.trans same.experimentId,
      also.strategyId.trans same.strategyId,
      also.datasetManifestHash.trans same.datasetManifestHash⟩
    rw [status]
    rfl

theorem dataManifest_step (book : Book) (call : Call) :
    (service.afterBook book call).evidence.dataManifest =
      manifestAfter book.evidence.dataManifest [call] := by
  have step := @step_afterBook service book call
  generalize service.afterBook book call = next at step ⊢
  cases step with
  | started call => rfl
  | closed found ended => rfl
  | unclosed refused => rfl
  | promoted found promoted => exact dataManifest_promoted promoted
  | unpromoted refused => rfl
  | written content => rfl

theorem dataManifest_run (book : Book) (calls : List Call) :
    (runFrom service.afterBook book calls).evidence.dataManifest =
      manifestAfter book.evidence.dataManifest calls := by
  induction calls generalizing book with
  | nil => rfl
  | cons call rest ih =>
    rw [runFrom, List.foldl_cons, ← runFrom, ih, dataManifest_step]
    rfl

/-! ### What promotions leave -/

theorem listed_empty : Evidence.Listed {} := fun payload found => by cases found

theorem iterate_entries {evidence : Evidence} (listed : evidence.Listed) :
    iterate (orValue (field (evidence.playbook.getD []) "entries") (.list [])) =
      .ok (playbookEntries evidence.playbook) := by
  rw [playbookEntries]
  cases present : evidence.playbook with
  | none => rfl
  | some payload =>
    obtain ⟨entries, found⟩ := listed payload present
    rw [Option.getD_some, found]
    cases entries <;> rfl

theorem field_set {payload : Mapping} {key other : String} (different : other ≠ key)
    (value : Value) : field (Mapping.set payload key value) other = field payload other := by
  rw [field, Mapping.get?_set, if_neg different, field]

theorem field_set_self (payload : Mapping) (key : String) (value : Value) :
    field (Mapping.set payload key value) key = value := by
  rw [field, Mapping.get?_set, if_pos rfl, Option.getD_some]

theorem appendValidationEntry_listed {evidence : Evidence} (listed : evidence.Listed)
    (entry : Mapping) : ∃ payload,
    service.appendValidationEntry evidence.playbook entry = .ok payload ∧
      field payload "entries" = .list (playbookEntries evidence.playbook ++ [.map entry]) := by
  have kept : field (service.identified (evidence.playbook.getD [])) "entries" =
      field (evidence.playbook.getD []) "entries" := by
    rw [Service.identified]
    split
    · rfl
    · exact field_set (by decide) _
  rw [Service.appendValidationEntry, kept, iterate_entries listed]
  exact ⟨_, rfl, field_set_self _ _ _⟩

theorem validated_listed {evidence : Evidence} (listed : evidence.Listed) (run : ExperimentRun)
    (receipt : PromotionReceipt) (call : PromoteCall) : ∃ playbook,
    service.validated evidence.playbook run receipt call = .ok playbook ∧
      (∀ payload, playbook = some payload → ∃ entries, field payload "entries" = .list entries) ∧
      playbookEntries playbook = playbookEntries evidence.playbook ++
        if call.dryRun then [] else [.map (service.validationEntry run receipt call.note)] := by
  rw [Service.validated]
  cases call.dryRun with
  | true => exact ⟨evidence.playbook, rfl, listed, by simp⟩
  | false =>
    obtain ⟨payload, appended, entries⟩ := @appendValidationEntry_listed service evidence listed
      (service.validationEntry run receipt call.note)
    refine ⟨some payload, ?_, fun other same => ?_, ?_⟩
    · rw [if_neg (by simp), appended]
      rfl
    · obtain rfl := Option.some.inj same
      exact ⟨_, entries⟩
    · rw [playbookEntries, Option.getD_some, entries]
      rfl

theorem promotion?_promoted {call : PromoteCall} {receipt : PromotionReceipt}
    {evidence : Evidence} (found : book.runs.get? call.runId = some entry)
    (promoted : service.promoted book.evidence entry.dir.run call = .ok (receipt, evidence)) :
    service.promotion? book (.promote call) = some { run := entry.dir.run, call, receipt } := by
  rw [Service.promotion?, find_ok.mpr found]
  simp only [promoted]

theorem promotion?_unpromoted {call : PromoteCall}
    (refused : ∀ entry, book.runs.get? call.runId = some entry →
      ∃ error, service.promoted book.evidence entry.dir.run call = .error error) :
    service.promotion? book (.promote call) = none := by
  rw [Service.promotion?]
  cases found : Service.find book call.runId with
  | error error => rfl
  | ok entry =>
    obtain ⟨error, refusal⟩ := refused entry (find_ok.mp found)
    simp only [refusal]

theorem evidence_step (listed : book.evidence.Listed) :
    (service.afterBook book call).evidence.Listed ∧
      playbookEntries (service.afterBook book call).evidence.playbook =
        playbookEntries book.evidence.playbook ++
          service.validations (service.promotion? book call).toList ∧
      (service.afterBook book call).evidence.opsAgenda = book.evidence.opsAgenda ++
        service.investigations (service.promotion? book call).toList := by
  have idle : book.evidence.Listed ∧
      playbookEntries book.evidence.playbook = playbookEntries book.evidence.playbook ++
        service.validations [] ∧
      book.evidence.opsAgenda = book.evidence.opsAgenda ++ service.investigations [] :=
    ⟨listed, (List.append_nil _).symm, (List.append_nil _).symm⟩
  have step := @step_afterBook service book call
  generalize service.afterBook book call = next at step ⊢
  cases step with
  | started call => exact idle
  | closed found ended => exact idle
  | unclosed refused => exact idle
  | @promoted call entry receipt evidence found promoted =>
    rw [promotion?_promoted found promoted]
    obtain ⟨-, rfl, playbook, written, rfl⟩ := promoted_ok promoted
    obtain ⟨made, validated, entries, added⟩ := @validated_listed service _ listed
      entry.dir.run (service.receiptOf book.evidence entry.dir.run call) call
    obtain rfl := Except.ok.inj (validated.symm.trans written)
    refine ⟨entries, added.trans ?_, ?_⟩
    · cases dry : call.dryRun <;> simp [Service.validations, dry]
    · simp only [Service.promotedEvidence, Service.investigations, Option.toList_some]
      split <;> simp_all
  | unpromoted refused =>
    rw [promotion?_unpromoted refused]
    exact idle
  | written content => exact idle

theorem evidence_run (listed : book.evidence.Listed) (calls : List Call) :
    (runFrom service.afterBook book calls).evidence.Listed ∧
      playbookEntries (runFrom service.afterBook book calls).evidence.playbook =
        playbookEntries book.evidence.playbook ++
          service.validations (service.promotions book calls) ∧
      (runFrom service.afterBook book calls).evidence.opsAgenda = book.evidence.opsAgenda ++
        service.investigations (service.promotions book calls) := by
  induction calls generalizing book with
  | nil => exact ⟨listed, (List.append_nil _).symm, (List.append_nil _).symm⟩
  | cons call rest ih =>
    obtain ⟨next, entries, tasks⟩ := @evidence_step service book call listed
    obtain ⟨last, allEntries, allTasks⟩ := ih next
    refine ⟨last, ?_, ?_⟩
    · rw [runFrom, List.foldl_cons, ← runFrom, allEntries, entries, List.append_assoc,
        Service.promotions, Service.validations, Service.validations, Service.validations,
        List.filter_append, List.map_append]
    · rw [runFrom, List.foldl_cons, ← runFrom, allTasks, tasks, List.append_assoc,
        Service.promotions, Service.investigations, Service.investigations,
        Service.investigations, List.filter_append, List.map_append]

/-- In every run of calls the playbook gains an entry for each promotion that is no dry run,
and the agenda a task for each that is blocked, in the order in which they were made. -/
theorem promotions_run (fit : ∀ call ∈ calls, call.Fit service.repr)
    (distinct : (calls.filterMap Call.started?).Nodup) :
    playbookEntries (runFrom service.after {} calls).evidence.playbook =
        service.validations (service.promotions {} calls) ∧
      (runFrom service.after {} calls).evidence.opsAgenda =
        service.investigations (service.promotions {} calls) := by
  obtain ⟨follows, -⟩ :=
    run_follows (follows_empty {}) (holds_empty {}) fit (fresh_empty distinct)
  obtain ⟨-, entries, tasks⟩ := @evidence_run service {} listed_empty calls
  rw [follows.evidence]
  exact ⟨entries, tasks⟩

/-- A run that calls start is in the book, with the status that the later calls leave. -/
theorem entry_started {before later : List Call} {start : StartCall}
    (fit : ∀ call ∈ before ++ .startRun start :: later, call.Fit service.repr)
    (fresh : Fresh {} (before ++ .startRun start :: later)) :
    ∃ entry, (runFrom service.afterBook {} (before ++ .startRun start :: later)).runs.get?
        (Sweeps.uuid7 start.draw) = some entry ∧
      entry.dir.run.status = statusAfter (Sweeps.uuid7 start.draw) "running" later ∧
      SameStart (service.startedRun (runFrom service.afterBook {} before).evidence start)
        entry.dir.run := by
  obtain ⟨-, -, laterFit⟩ :=
    List.forall_mem_append.mp fit |>.imp_right List.forall_mem_cons.mp
  have distinct := (@Fresh.run service _ _ _ fresh).distinct
  rw [List.filterMap_cons] at distinct
  have others : some (Sweeps.uuid7 start.draw) ∉ later.map Call.started? := by
    intro member
    obtain ⟨other, among, again⟩ := List.mem_map.mp member
    exact (List.nodup_cons.mp distinct).1 (List.mem_filterMap.mpr ⟨other, among, again⟩)
  have started : (service.afterBook (runFrom service.afterBook {} before)
      (.startRun start)).runs.get? (Sweeps.uuid7 start.draw) = some {
        dir := { run := service.startedRun (runFrom service.afterBook {} before).evidence start }
        touched := start.now } := by
    rw [Service.afterBook, Service.performBook, Dict.get?_set]
    exact if_pos rfl
  rw [runFrom, List.foldl_append, List.foldl_cons]
  exact entry_run started others laterFit

theorem synced_congr {evidence other : Evidence}
    (same : evidence.dataManifest = other.dataManifest) (expected : Value) :
    service.synced evidence expected = service.synced other expected := by
  unfold Service.synced Service.resolveDatasetHash
  rw [same]

/-- A run is promoted after calls exactly where they leave it completed, and the promotion is
not blocked exactly where the data are those that the run was started with. -/
theorem promote_run {before later : List Call} {start : StartCall}
    (fit : ∀ call ∈ before ++ .startRun start :: later, call.Fit service.repr)
    (distinct : ((before ++ .startRun start :: later).filterMap Call.started?).Nodup)
    {call : PromoteCall} (own : call.runId = Sweeps.uuid7 start.draw) :
    (service.perform (runFrom service.after {} (before ++ .startRun start :: later))
        (.promote call)).1 =
      if statusAfter call.runId "running" later = "completed" then
        .ok (.receipt (service.promotionOf before start later call))
      else .error (.promotion ("run not completed: " ++ call.runId)) := by
  have fresh := fresh_empty distinct
  obtain ⟨follows, holds⟩ := run_follows (follows_empty {}) (holds_empty {}) fit fresh
  have agrees := (@perform_follows service _ _ (.promote call) follows holds trivial
    fun runId same => by cases same).1
  obtain ⟨entry, found, status, same⟩ := entry_started fit fresh
  have evidence := @dataManifest_run service {} (before ++ .startRun start :: later)
  have listed := (@evidence_run service {} listed_empty (before ++ .startRun start :: later)).1
  generalize runFrom service.afterBook {} (before ++ .startRun start :: later) = book at *
  rw [agrees, Service.performBook, own, find_ok.mpr found]
  simp only
  rw [← status]
  by_cases completed : entry.dir.run.status = "completed"
  · have data : service.synced book.evidence entry.dir.run.datasetManifestHash =
        service.unchanged before start later := by
      rw [same.datasetManifestHash, Service.startedRun, Service.resolveDatasetHash,
        dataManifest_run, Service.unchanged]
      exact synced_congr evidence _
    have receipt : service.receiptOf book.evidence entry.dir.run call =
        service.promotionOf before start later call := by
      rw [Service.receiptOf, data, same.experimentId, same.strategyId]
      rfl
    obtain ⟨playbook, validated, -⟩ := @validated_listed service _ listed entry.dir.run
      (service.receiptOf book.evidence entry.dir.run call) call
    rw [Service.promoted, if_neg (not_not.mpr completed), validated, if_pos completed, ← receipt]
    rfl
  · rw [Service.promoted, if_pos completed, if_neg completed, own]

end Promotions

/-! ## A backtest -/

section Backtest

def backtestService : Service where
  sha256 := fun bytes => if bytes = [7] then "9c1f" else "e3b0"
  repr := fun value =>
    if value = 8 / 5 then "1.6" else if value = 6 / 5 then "1.2"
    else if value = 3 / 50 then "0.06" else "52.0"

def backtestMetrics : Mapping :=
  [("pf", .float (8 / 5) "1.6"), ("sharpe", .float (6 / 5) "1.2"),
    ("max_dd", .float (3 / 50) "0.06"), ("trades", .int 52)]

def backtestStart : StartCall where
  manifest := { experimentId := "EXP-12", linkedStrategy := "donchian", oneFolder := by decide }
  parameters := [("lookback", .int 55)]
  draw := { tsMs := 1709294500000, randA := ⟨3, by decide⟩, randB := ⟨5, by decide⟩ }
  now := { micros := 63844891300000000, covered := by decide }

def inOrder : Listing := ⟨id, List.Perm.refl⟩

def backtestClose : CloseCall where
  runId := Sweeps.uuid7 backtestStart.draw
  outcome := .complete backtestMetrics [.elsewhere "equity.csv" (some [1, 2])] none
  now := { micros := 63844891900000000, covered := by decide }
  listing := inOrder

def backtestPromote : PromoteCall where
  runId := Sweeps.uuid7 backtestStart.draw
  targetStage := "paper"
  now := { micros := 63844892500000000, covered := by decide }
  listing := inOrder

/-- The data are written before the run and again, with other content, after it. -/
def backtestCalls : List Call :=
  [.writeDataManifest (some [7]), .startRun backtestStart, .close backtestClose,
    .promote backtestPromote, .writeDataManifest (some [8])]

theorem backtest_fit : ∀ call ∈ backtestCalls, call.Fit backtestService.repr := by
  have coerced : coerceMetrics backtestMetrics =
      .ok [("pf", some (.finite (8 / 5))), ("sharpe", some (.finite (6 / 5))),
        ("max_dd", some (.finite (3 / 50))), ("trades", some (.finite 52))] := by decide +kernel
  have printed : ∀ parsed, coerceMetrics backtestMetrics = .ok parsed →
      ∀ entry ∈ parsed, Prints backtestService.repr entry.2 := by
    intro parsed read
    obtain rfl := Except.ok.inj (coerced.symm.trans read)
    decide +kernel
  have close : (Call.close backtestClose).Fit backtestService.repr :=
    ⟨by decide, printed, by decide, fun given none => by cases none⟩
  simp only [backtestCalls, List.forall_mem_cons, List.not_mem_nil, false_implies, implies_true,
    and_true]
  exact ⟨trivial, ⟨by decide, by decide⟩, close, trivial, trivial⟩

theorem backtest_distinct : (backtestCalls.filterMap Call.started?).Nodup :=
  List.nodup_singleton _

theorem backtest_refines :
    ∃ listed, listRuns (runFrom backtestService.after {} backtestCalls).documents
      (some "completed") (some "donchian") = .ok listed ∧ listed.length = 1 := by
  obtain ⟨-, read⟩ := tracker_refines backtest_fit backtest_distinct
  obtain ⟨listed, loaded, same⟩ := (read _ (List.Perm.refl _)).2 (some "completed")
      (some "donchian")
  exact ⟨listed, loaded, same.length_eq.trans (by decide +kernel)⟩

theorem backtest_latest :
    ∃ latest, loadLatestRun (runFrom backtestService.after {} backtestCalls).documents "donchian" =
      .ok latest ∧ latest ≠ none := by
  obtain ⟨latest, loaded, last⟩ :=
    latest_run backtest_fit backtest_distinct (List.Perm.refl _) "donchian"
  refine ⟨latest, loaded, fun none => ?_⟩
  have some : ((runFrom backtestService.afterBook {} backtestCalls).entriesOf "donchian").length =
      1 := by
    decide +kernel
  rw [last.none_iff.mp none] at some
  cases some

theorem backtest_promotions :
    (playbookEntries
      (runFrom backtestService.after {} backtestCalls).evidence.playbook).length = 1 := by
  rw [(promotions_run backtest_fit backtest_distinct).1]
  decide +kernel

/-- The data that the run was started with are gone. -/
theorem backtest_promote :
    (backtestService.perform (runFrom backtestService.after {} backtestCalls)
        (.promote backtestPromote)).1 =
      .ok (.receipt (backtestService.promotionOf [.writeDataManifest (some [7])] backtestStart
        [.close backtestClose, .promote backtestPromote, .writeDataManifest (some [8])]
        backtestPromote)) := by
  have completed : statusAfter backtestPromote.runId "running"
      [.close backtestClose, .promote backtestPromote, .writeDataManifest (some [8])] =
        "completed" := by decide +kernel
  have promoted := @promote_run backtestService [.writeDataManifest (some [7])]
    [.close backtestClose, .promote backtestPromote, .writeDataManifest (some [8])] backtestStart
    backtest_fit backtest_distinct backtestPromote rfl
  rw [if_pos completed] at promoted
  exact promoted

end Backtest

end FxToushi.Research.ExperimentTracker
