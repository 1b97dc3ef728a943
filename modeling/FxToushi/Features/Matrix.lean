import FxToushi.Features.Indicators
import Mathlib.Data.Finset.Dedup
import Mathlib.Data.Finset.Empty
import Mathlib.Data.Finset.Lattice.Basic

namespace FxToushi.Features

open Data Py

/-! # The feature matrix

`compute_feature_matrix`: the bars under their parsed timestamps, the higher
timeframes resampled from them, the indicators of every timeframe aligned to
the base index, and the cache of finished matrices.
-/

/-- A configured pipeline.  The timeframes are a set, listed in the order the
interpreter walks it. -/
structure FeaturePipeline where
  featureVersion : String := "unversioned"
  dataManifestHash : String := "missing"
  indicators : List IndicatorDefinition
  timeframes : List String
  defaultTimeframeMinutes : Int := 5
  lookbackBars : Int := 0
  resampleEnabled : Bool := true
  maxWorkers : Nat := 4
  timeframesDistinct : timeframes.Nodup := by decide

/-- The order in which the pool finishes its tasks, by their places. -/
structure Completion where
  order : Nat → List Nat
  perm : ∀ count, (order count).Perm (List.range count)

namespace Completion

def submitted : Completion := ⟨List.range, fun _ => .refl _⟩

variable {Task Image : Type*}

def finish (completion : Completion) (tasks : List Task) : List Task :=
  (completion.order tasks.length).filterMap (fun place => tasks[place]?)

theorem filterMap_places (tasks : List Task) :
    (List.range tasks.length).filterMap (fun place => tasks[place]?) = tasks := by
  induction tasks using List.reverseRecOn with
  | nil => rfl
  | append_singleton tasks task ih =>
    have earlier : ∀ place ∈ List.range tasks.length,
        (tasks ++ [task])[place]? = tasks[place]? := by
      intro place member
      exact List.getElem?_append_left (List.mem_range.mp member)
    rw [List.length_append, List.length_singleton, List.range_succ, List.filterMap_append,
      List.filterMap_congr earlier, ih]
    simp

theorem finish_perm (completion : Completion) (tasks : List Task) :
    (completion.finish tasks).Perm tasks :=
  ((completion.perm tasks.length).filterMap _).trans (.of_eq (filterMap_places tasks))

theorem finish_map (completion : Completion) (image : Task → Image) (tasks : List Task) :
    completion.finish (tasks.map image) = (completion.finish tasks).map image := by
  simp [finish, List.map_filterMap]

end Completion

structure FeatureMatrix where
  index : List Timestamp
  columns : Dict String (List (Option Cell))
deriving DecidableEq

namespace FeatureMatrix

def empty : FeatureMatrix := ⟨[], Dict.empty⟩

/-- The cells of every column at a timestamp of the index. -/
def row (matrix : FeatureMatrix) (time : Timestamp) : Option (Dict String (Option Cell)) :=
  (matrix.index.idxOf? time).map
    (fun place => matrix.columns.mapValues (fun cells => (cells[place]?).join))

end FeatureMatrix

/-- What the pipeline keeps between calls: the cache, the symbols of the
context and the values stored for live evaluation. -/
structure PipelineState where
  cache : Dict String FeatureMatrix
  symbols : Finset String
  store : Dict String (Dict String (Dict String (Option Cell)))

def PipelineState.fresh : PipelineState := ⟨Dict.empty, ∅, Dict.empty⟩

/-! ## Timestamps -/

def parseTimestampSeries (pandas : Pandas) (stamps : List Stamp) : List (Option Timestamp) :=
  let parsed := pandas.toDatetime stamps
  if none ∈ parsed then List.zipWith Option.or parsed (pandas.toDatetimeIso stamps) else parsed

def RawRow.at (row : RawRow) (time : Timestamp) : Row where
  time
  openPrice := row.openPrice
  high := row.high
  low := row.low
  close := row.close
  volume := row.volume

/-- The rows whose timestamp parses, under it. -/
def stampedRows (pandas : Pandas) (stamp : RawRow → Stamp) (rows : List RawRow) : List Row :=
  (List.zipWith (fun row time => time.map row.at) rows
    (parseTimestampSeries pandas (rows.map stamp))).filterMap id

def PriceFrame.isEmpty (priceDf : PriceFrame) : Bool :=
  priceDf.rows.isEmpty || priceDf.columns.isEmpty

/-- The frame under its sorted timestamps. -/
def baseFrame (pandas : Pandas) (priceDf : PriceFrame) : Except FeatureError Frame :=
  if .timestamp ∈ priceDf.columns then
    .ok { columns := priceDf.columns
          rows := pandas.sortIndex.apply (stampedRows pandas RawRow.timestamp priceDf.rows) }
  else .error (.keyError PriceColumn.timestamp.name)

/-! ## Resampling -/

def timeframeRules : Dict String String where
  entries := [("5m", "5t"), ("15m", "15t"), ("30m", "30t"), ("1h", "1h"), ("4h", "4h"),
    ("1d", "1d")]
  distinct := by decide

/-- The bars of every occupied interval under its label.  The other intervals
aggregate to missing prices, which are dropped. -/
def intervals (rule : Rule) (rows : List Row) : List (Timestamp × List Row) :=
  match rows with
  | [] => []
  | first :: _ =>
    ((rows.map (fun row => rule.label first.time row.time)).dedup).map
      (fun label => (label, rows.filter (fun row => rule.label first.time row.time = label)))

def aggregate (pandas : Pandas) (interval : Timestamp × List Row) : Row where
  time := interval.1
  openPrice := pandas.first.apply (interval.2.map Row.openPrice)
  high := pandas.max.apply (interval.2.map Row.high)
  low := pandas.min.apply (interval.2.map Row.low)
  close := pandas.last.apply (interval.2.map Row.close)
  volume := pandas.sum.apply (interval.2.map Row.volume)

def ohlcv : List PriceColumn := [.openPrice, .high, .low, .close, .volume]

/-- `df.resample(rule).agg({…})`, before missing rows are dropped. -/
def resampleAgg (pandas : Pandas) (rule : String) (frame : Frame) :
    Except FeatureError (List Row) := do
  let intervalsOf ← pandas.rule rule
  let missing := ohlcv.filter (fun column => decide (column ∉ frame.columns))
  if missing = [] then return (intervals intervalsOf frame.rows).map (aggregate pandas)
  else throw (.missingColumns missing)

def Row.priced (row : Row) : Bool :=
  row.openPrice.isSome && row.high.isSome && row.low.isSome && row.close.isSome

def Row.complete (row : Row) : Bool := row.priced && row.volume.isSome

namespace FeaturePipeline

variable (pipeline : FeaturePipeline) (pandas : Pandas)

def defaultTimeframe : String := toString pipeline.defaultTimeframeMinutes ++ "m"

/-- `_TIMEFRAME_RULES.get(timeframe, timeframe)`. -/
def ruleOf (timeframe : String) : String := (timeframeRules.get? timeframe).getD timeframe

def resample (frame : Frame) (timeframe : String) : Except FeatureError Frame :=
  if pipeline.resampleEnabled = false ∨ timeframe = pipeline.defaultTimeframe then .ok frame
  else do
    let aggregated ← resampleAgg pandas (ruleOf timeframe) frame
    return { columns := ohlcv, rows := aggregated.filter Row.complete }

/-- The base frame and the frames of the higher timeframes that have bars. -/
def framesOf (frame : Frame) : Except FeatureError (List (String × Frame)) := do
  let higher ← tryMap
    (fun timeframe => (pipeline.resample pandas frame timeframe).map (Prod.mk timeframe))
    (pipeline.timeframes.filter (fun timeframe => decide (timeframe ≠ pipeline.defaultTimeframe)))
  return (pipeline.defaultTimeframe, frame) ::
    higher.filter (fun entry => decide (entry.2.rows ≠ []))

/-! ## Indicators of all timeframes -/

def tasksOf (frames : List (String × Frame)) : List (IndicatorDefinition × String × Frame) :=
  pipeline.indicators.flatMap (fun indicator =>
    (frames.filter (fun entry => decide (entry.1 ∈ indicator.timeframes))).map
      (fun entry => (indicator, entry)))

/-- One worker or one indicator runs in line, else the pool is asked. -/
def runOrder {Task : Type*} (completion : Completion) (tasks : List Task) : List Task :=
  if pipeline.maxWorkers ≤ 1 ∨ pipeline.indicators.length = 1 then tasks
  else completion.finish tasks

def computeIndicatorBatches (completion : Completion) (frames : List (String × Frame)) :
    Except FeatureError (List (String × Dict String Series)) :=
  tryMap (fun task => (computeIndicator pandas task.1 task.2.2).map (Prod.mk task.2.1))
    (pipeline.runOrder completion (pipeline.tasksOf frames))

def columnName (featureAlias timeframe : String) : String := featureAlias ++ "_" ++ timeframe

/-- `series.reindex(base, method="ffill")`. -/
def reindexFfill (base : List Timestamp) (series : Series) : List (Option Cell) :=
  if series.index = base then series.cells
  else base.map (asOf (series.index.zip series.cells))

def aligned (base : List Timestamp) (timeframe : String) (series : Series) :
    List (Option Cell) :=
  if timeframe ≠ pipeline.defaultTimeframe then reindexFfill base series else series.cells

/-- The outputs of the batches one by one: timeframe, alias, series. -/
def outputsOf {Value : Type*} (batches : List (String × Dict String Value)) :
    List (String × String × Value) :=
  batches.flatMap (fun batch => batch.2.entries.map (fun output => (batch.1, output)))

def featureColumns (base : List Timestamp) (batches : List (String × Dict String Series)) :
    Dict String (List (Option Cell)) :=
  Dict.empty.setAll (fun output => columnName output.2.1 output.1)
    (fun output => pipeline.aligned base output.1 output.2.2) (outputsOf batches)

/-- The OHLCV columns of the base frame, added under the default timeframe. -/
def priceColumns : List (String × Column Reading) :=
  [("open", Column.openPrice), ("high", Column.high), ("low", Column.low),
    ("close", Column.close), ("volume", Column.volume)]

def priceName (entry : String × Column Reading) : String :=
  columnName entry.1 pipeline.defaultTimeframe

/-- The matrix of a frame that has bars. -/
def featureMatrix (completion : Completion) (frame : Frame) :
    Except FeatureError FeatureMatrix := do
  let frames ← pipeline.framesOf pandas frame
  let batches ← pipeline.computeIndicatorBatches pandas completion frames
  frame.require ohlcv
  let columns := (pipeline.featureColumns frame.index batches).setAll pipeline.priceName
    (fun entry => entry.2.numbers.apply frame.rows) priceColumns
  return { index := frame.index, columns := columns.mapValues forwardFill.apply }

/-! ## The cache -/

/-- `FeatureCacheStore.build_key`. -/
def buildKey (symbol timeframe featureVersion dataManifestHash : String) : String :=
  symbol ++ ":" ++ timeframe ++ ":" ++ featureVersion ++ ":" ++
    (if dataManifestHash = "" then "unknown" else dataManifestHash)

def cacheKey (symbol : String) : String :=
  buildKey symbol pipeline.defaultTimeframe pipeline.featureVersion pipeline.dataManifestHash

end FeaturePipeline

def PipelineState.refreshContextSymbols (state : PipelineState) (symbols : List String) :
    PipelineState :=
  { state with
    symbols := state.symbols ∪ ((symbols.filter (fun symbol => decide (symbol ≠ ""))).map
      upper).toFinset }

namespace FeaturePipeline

variable (pipeline : FeaturePipeline) (pandas : Pandas)

def computeFeatureMatrix (completion : Completion) (state : PipelineState) (symbol : String)
    (priceDf : PriceFrame) : Except FeatureError FeatureMatrix × PipelineState :=
  if priceDf.isEmpty then (.ok .empty, state)
  else
    let symbolKey := upper symbol
    let key := pipeline.cacheKey symbolKey
    match state.cache.get? key with
    | some cached => (.ok cached, state.refreshContextSymbols [symbolKey])
    | none =>
      match baseFrame pandas priceDf with
      | .error error => (.error error, state)
      | .ok frame =>
        if frame.rows = [] then (.ok .empty, state)
        else
          match pipeline.featureMatrix pandas completion frame with
          | .error error => (.error error, state)
          | .ok matrix =>
            (.ok matrix, { state with cache := state.cache.set key matrix
              }.refreshContextSymbols [symbolKey])

/-- The answer of a pipeline whose cache is empty. -/
def uncached (completion : Completion) (priceDf : PriceFrame) :
    Except FeatureError FeatureMatrix :=
  if priceDf.isEmpty then .ok .empty
  else do
    let frame ← baseFrame pandas priceDf
    if frame.rows = [] then return .empty
    pipeline.featureMatrix pandas completion frame

/-! ## Reading the definitions -/

variable {pipeline : FeaturePipeline} {pandas : Pandas} {completion : Completion}
  {frame : Frame}

theorem computeFeatureMatrix_fresh (symbol : String) (priceDf : PriceFrame) :
    (pipeline.computeFeatureMatrix pandas completion .fresh symbol priceDf).1 =
      pipeline.uncached pandas completion priceDf := by
  unfold computeFeatureMatrix uncached
  split
  · rfl
  · cases baseFrame pandas priceDf with
    | error error => rfl
    | ok frame =>
      by_cases empty : frame.rows = []
      · simp [PipelineState.fresh, Dict.get?, Dict.empty, Dict.lookup, empty, bind, Except.bind]
        rfl
      · cases computed : pipeline.featureMatrix pandas completion frame <;>
          simp [PipelineState.fresh, Dict.get?, Dict.empty, Dict.lookup, empty, bind, Except.bind,
            computed]

theorem reindexFfill_self (index : List Timestamp) (cells : List (Option Cell)) :
    reindexFfill index ⟨index, cells⟩ = cells := if_pos rfl

theorem aligned_self (timeframe : String) (index : List Timestamp) (cells : List (Option Cell)) :
    pipeline.aligned index timeframe ⟨index, cells⟩ = cells := by
  unfold aligned
  split
  · exact reindexFfill_self index cells
  · rfl

theorem columnName_timeframe {featureAlias timeframe other otherTimeframe : String}
    (plain : '_' ∉ timeframe.toList) (otherPlain : '_' ∉ otherTimeframe.toList)
    (same : columnName featureAlias timeframe = columnName other otherTimeframe) :
    timeframe = otherTimeframe := by
  have tail : ∀ front back : String, '_' ∉ back.toList →
      ((columnName front back).toList.reverse.takeWhile (· != '_')).reverse = back.toList := by
    intro front back plain
    have passes : ∀ char ∈ back.toList.reverse, (char != '_') = true := by
      intro char member
      simpa using fun equal : char = '_' => plain (equal ▸ List.mem_reverse.mp member)
    simp [columnName, List.takeWhile_append_of_pos passes]
  have tails := tail featureAlias timeframe plain
  rw [same, tail other otherTimeframe otherPlain] at tails
  exact (String.toList_inj.mp tails).symm

theorem runOrder_perm {Task : Type*} (tasks : List Task) :
    (pipeline.runOrder completion tasks).Perm tasks := by
  unfold runOrder
  split
  · exact .refl _
  · exact completion.finish_perm tasks

theorem runOrder_map {Task Image : Type*} (image : Task → Image) (tasks : List Task) :
    pipeline.runOrder completion (tasks.map image) =
      (pipeline.runOrder completion tasks).map image := by
  unfold runOrder
  split
  · rfl
  · exact completion.finish_map image tasks

theorem mem_tasksOf_iff {frames : List (String × Frame)} {indicator : IndicatorDefinition}
    {entry : String × Frame} :
    (indicator, entry) ∈ pipeline.tasksOf frames ↔
      indicator ∈ pipeline.indicators ∧ entry ∈ frames ∧ entry.1 ∈ indicator.timeframes := by
  constructor
  · intro member
    obtain ⟨other, registered, taken⟩ := List.mem_flatMap.mp member
    obtain ⟨found, listed, same⟩ := List.mem_map.mp taken
    obtain ⟨rfl, rfl⟩ := Prod.mk.inj same
    obtain ⟨listed, used⟩ := List.mem_filter.mp listed
    exact ⟨registered, listed, of_decide_eq_true used⟩
  · intro task
    obtain ⟨registered, listed, used⟩ := task
    exact List.mem_flatMap.mpr ⟨indicator, registered, List.mem_map.mpr
      ⟨entry, List.mem_filter.mpr ⟨listed, decide_eq_true used⟩, rfl⟩⟩

end FeaturePipeline

end FxToushi.Features
