import FxToushi.Data.Interleaving
import FxToushi.Py.Containers
import Mathlib.Algebra.Order.Field.Rat

namespace FxToushi.Backtest.Regression

open Data Py

/-! # Regression scenarios

A scenario loads its bundle, writes a manifest named after its id and has the
engine read that manifest back.  The scenarios run on threads, as many at a time
as a semaphore lets in.
-/

/-! ## Scenarios and results -/

structure RegressionExpectation where
  metric : String
  target : Rat
  tolerance : Rat
deriving Repr, DecidableEq

structure RegressionScenario where
  scenarioId : String
  strategyId : String
  marketDataBundle : String
  expectedMetrics : List RegressionExpectation
deriving Repr, DecidableEq

/-- A metric of the engine; `other` is one that `float` refuses. -/
inductive Metric where
  | missing
  | number (value : Rat)
  | other
deriving Repr, DecidableEq

abbrev Metrics := List (String × Metric)

structure RegressionDrift where
  scenarioId : String
  metric : String
  expected : Rat
  actual : Option Rat
  tolerance : Rat
  notes : String
deriving Repr, DecidableEq

/-- The exceptions a scenario can end with. -/
inductive Failure where
  | dataMismatch (message : String)
  | keyError (key : String)
  | typeError
  | attributeError
  | other (message : String)
deriving Repr, DecidableEq

/-- The metrics of a result, or those of an error. -/
inductive Reported where
  | metrics (metrics : Metrics)
  | error (failure : Failure)
deriving Repr, DecidableEq

structure RegressionResult where
  scenarioId : String
  status : String
  metrics : Reported
  drifts : List RegressionDrift
  artifacts : List String
deriving Repr, DecidableEq

/-! ## What lies outside -/

/-- The bundles and the libraries.  No scenario changes the bundles.

`readJson` loads a file that may be missing; `opens` says whether a file of this
name can be opened for writing; `dump` and `load` are the YAML library, and
`backtest` computes the engine's metrics from the data set at a path. -/
structure Environment where
  readJson : String → Option (Except Failure Value)
  present : String → Bool
  sha256Path : String → Except Failure String
  opens : String → Bool
  dump : Value → List Char
  load : List Char → Except Failure Value
  backtest : String → Except Failure Metrics
  formatDelta : Rat → String

/-! ## One scenario -/

structure BundleManifest where
  barsPath : String
  barsSha256 : Value

/-- `payload.get("bars_path") or ""`. -/
def barsPath (bundleDir : String) (payload : Mapping) : Except Failure String :=
  match (Mapping.get? payload "bars_path").getD .null with
  | .str text => .ok (joinPath bundleDir text)
  | value => if value.truth then .error .typeError else .ok bundleDir

def loadBundle (environment : Environment) (bundleDir : String) :
    Except Failure BundleManifest :=
  let manifestPath := joinPath bundleDir "manifest.json"
  match environment.readJson manifestPath with
  | none => .error (.dataMismatch ("bundle manifest missing: " ++ manifestPath))
  | some (.error failure) => .error failure
  | some (.ok (.map payload)) =>
    match barsPath bundleDir payload with
    | .error failure => .error failure
    | .ok bars =>
      if environment.present bars = false then
        .error (.dataMismatch ("bundle bars missing: " ++ bars))
      else
        let expected := (Mapping.get? payload "bars_sha256").getD .null
        match environment.sha256Path bars with
        | .error failure => .error failure
        | .ok actual =>
          if expected.truth = false then .ok { barsPath := bars, barsSha256 := .str actual }
          else if expected.isText actual then .ok { barsPath := bars, barsSha256 := expected }
          else
            .error (.dataMismatch ("bundle hash mismatch: expected=" ++ expected.text ++
              " actual=" ++ actual))
  | some (.ok _) => .error .attributeError

def manifestName (scenarioId : String) : String := "manifest_" ++ scenarioId ++ ".yaml"

/-- What `_write_manifest_override` writes. -/
def manifestText (environment : Environment) (scenario : RegressionScenario)
    (bundle : BundleManifest) : List Char :=
  environment.dump (.map [("strategies", .map [(scenario.strategyId,
    .map [("dataset_path", .str bundle.barsPath), ("dataset_sha256", bundle.barsSha256)])])])

/-- `value[key]`. -/
def subscript (value : Value) (key : String) : Except Failure Value :=
  match value with
  | .map entries =>
    match Mapping.get? entries key with
    | none => .error (.keyError key)
    | some found => .ok found
  | _ => .error .typeError

/-- The data set of the strategy's entry in the manifest. -/
def datasetPath (environment : Environment) (strategy : String) (text : List Char) :
    Except Failure String := do
  let manifest ← environment.load text
  let strategies ← subscript manifest "strategies"
  let entry ← subscript strategies strategy
  match ← subscript entry "dataset_path" with
  | .str path =>
    let _ ← subscript entry "dataset_sha256"
    return path
  | _ => throw .typeError

def engineRun (environment : Environment) (strategy : String) (text : List Char) :
    Except Failure Metrics :=
  datasetPath environment strategy text >>= environment.backtest

def driftOf (environment : Environment) (scenario : RegressionScenario) (metrics : Metrics)
    (expectation : RegressionExpectation) : Option RegressionDrift :=
  let drift := fun (actual : Option Rat) (notes : String) => some (
    { scenarioId := scenario.scenarioId, metric := expectation.metric
      expected := expectation.target, actual, tolerance := expectation.tolerance, notes } :
      RegressionDrift)
  match ((metrics.find? (fun entry => entry.1 == expectation.metric)).map Prod.snd).getD
    .missing with
  | .missing => drift none "missing_metric"
  | .other => drift none "non_numeric_metric"
  | .number value =>
    let delta := |value - expectation.target|
    if expectation.tolerance < delta then
      drift (some value) ("delta=" ++ environment.formatDelta delta)
    else none

def evaluateMetrics (environment : Environment) (scenario : RegressionScenario)
    (metrics : Metrics) : List RegressionDrift :=
  scenario.expectedMetrics.filterMap (driftOf environment scenario metrics)

def errorResult (scenario : RegressionScenario) (failure : Failure) : RegressionResult where
  scenarioId := scenario.scenarioId
  status := "error"
  metrics := .error failure
  drifts := []
  artifacts := []

/-- The result of a scenario whose manifest holds the text. -/
def resultOf (environment : Environment) (scenario : RegressionScenario) (text : List Char) :
    RegressionResult :=
  match engineRun environment scenario.strategyId text with
  | .error failure => errorResult scenario failure
  | .ok metrics =>
    let drifts := evaluateMetrics environment scenario metrics
    { scenarioId := scenario.scenarioId
      status := if drifts = [] then "pass" else "fail"
      metrics := .metrics metrics
      drifts
      artifacts := [manifestName scenario.scenarioId] }

def unopened (scenario : RegressionScenario) : RegressionResult :=
  errorResult scenario (.other ("cannot open " ++ manifestName scenario.scenarioId))

/-- `_execute_scenario` on its own. -/
def executeScenario (environment : Environment) (scenario : RegressionScenario) :
    RegressionResult :=
  match loadBundle environment scenario.marketDataBundle with
  | .error failure => errorResult scenario failure
  | .ok bundle =>
    if environment.opens (manifestName scenario.scenarioId) then
      resultOf environment scenario (manifestText environment scenario bundle)
    else unopened scenario

/-! ## Scenarios on threads -/

/-- Where a thread stands in `_execute_scenario`. -/
inductive Stage where
  | waiting
  | loading
  | opening (bundle : BundleManifest)
  | writing (bundle : BundleManifest)
  | reading
  | finished (result : RegressionResult)

def Stage.isWaiting : Stage → Bool
  | .waiting => true
  | _ => false

/-- Inside the semaphore. -/
def Stage.runs : Stage → Bool
  | .waiting => false
  | .finished _ => false
  | _ => true

/-- A manifest on disk, with the thread that opened it last, for the statements
only. -/
structure ManifestFile where
  owner : Nat
  text : List Char
deriving Repr, DecidableEq

/-- The next step of a scenario's thread.  Opening a file empties it; what is
written goes over what it holds by then. -/
def actScenario (environment : Environment) (owner : Nat) (scenario : RegressionScenario) :
    Stage × Option ManifestFile → Stage × Option ManifestFile
  | (.waiting, file) => (.loading, file)
  | (.loading, file) =>
    match loadBundle environment scenario.marketDataBundle with
    | .error failure => (.finished (errorResult scenario failure), file)
    | .ok bundle => (.opening bundle, file)
  | (.opening bundle, file) =>
    if environment.opens (manifestName scenario.scenarioId) then
      (.writing bundle, some { owner, text := [] })
    else (.finished (unopened scenario), file)
  | (.writing bundle, file) =>
    let text := manifestText environment scenario bundle
    (.reading, file.map (fun held => { held with text := text ++ held.text.drop text.length }))
  | (.reading, file) =>
    match file with
    | none => (.finished (unopened scenario), none)
    | some held => (.finished (resultOf environment scenario held.text), some held)
  | (.finished result, file) => (.finished result, file)

/-- The semaphore lets the scenarios in in their order. -/
def ready (scenarios : List RegressionScenario) (maxConcurrency : Nat) (stages : Nat → Stage)
    (index : Nat) : Bool :=
  decide (index < scenarios.length) &&
    (!(stages index).isWaiting ||
      ((List.range index).all (fun earlier => !(stages earlier).isWaiting) &&
        decide ((List.range index).countP (fun earlier => (stages earlier).runs) <
          maxConcurrency)))

/-- `_run_scenarios`, a thread for each scenario. -/
def runScenarios (environment : Environment) (maxConcurrency : Nat)
    (scenarios : List RegressionScenario) :
    Threads Nat String Stage (Option ManifestFile) where
  key := fun index => (scenarios[index]?.map (fun scenario =>
    manifestName scenario.scenarioId)).getD ""
  act := fun index seen =>
    match scenarios[index]? with
    | none => seen
    | some scenario => actScenario environment index scenario seen
  ready := ready scenarios maxConcurrency

/-- Nothing has started and no manifest is there. -/
def fresh : Shared Nat String Stage (Option ManifestFile) where
  locals := fun _ => .waiting
  store := fun _ => none

/-- `max(1, int(float(value)))`, of the integer in the configuration. -/
def coercePositive (value : Nat) : Nat := max 1 value

end FxToushi.Backtest.Regression
