import FxToushi.Data.Views
import FxToushi.Features.Matrix

namespace FxToushi.Features

open Data Py

/-! # Live updates

`update`: the bars of a market frame, the frames resampled from them, and the
latest values of prices and indicators, stored by symbol and timeframe.
-/

/-- A market frame, its bars as the data frame pandas makes of the list. -/
structure MarketBars where
  symbol : Value
  timeframe : Value
  bars : PriceFrame

/-- Values by timeframe and feature key. -/
abbrev Slots := Dict String (Dict String (Option Cell))

/-- The timestamp column, which may be called `ts`. -/
def stampColumn (bars : PriceFrame) : Option (RawRow → Stamp) :=
  if .timestamp ∈ bars.columns then some RawRow.timestamp
  else if .ts ∈ bars.columns then some RawRow.ts
  else none

def Row.withVolume (row : Row) (volume : Reading) : Row := { row with volume }

/-- The OHLCV values of a bar. -/
def Row.prices (row : Row) : List (String × Reading) :=
  [("open", row.openPrice), ("high", row.high), ("low", row.low), ("close", row.close),
    ("volume", row.volume)]

/-- `_last_valid`. -/
def lastValid (series : Series) : Option Cell := lastPresent series.cells

namespace FeaturePipeline

variable (pipeline : FeaturePipeline) (pandas : Pandas)

/-- The last rows, when there are more than the pipeline looks back. -/
def lookback (rows : List Row) : List Row :=
  if 0 < pipeline.lookbackBars ∧ pipeline.lookbackBars < rows.length then
    rows.drop (rows.length - pipeline.lookbackBars.toNat)
  else rows

def barsToFrame (bars : PriceFrame) : Frame :=
  if bars.isEmpty then { columns := bars.columns, rows := [] }
  else
    match stampColumn bars with
    | none => { columns := [], rows := [] }
    | some stamp =>
      let rows := pandas.sortValues.apply (stampedRows pandas stamp bars.rows)
      if [PriceColumn.openPrice, .high, .low, .close] ⊆ bars.columns then
        if .volume ∈ bars.columns then { columns := bars.columns, rows := pipeline.lookback rows }
        else
          { columns := bars.columns ++ [.volume]
            rows := pipeline.lookback (rows.map (fun row => row.withVolume (some 0))) }
      else { columns := [], rows := [] }

/-- The timeframes with a rule, which the bars of the default one are resampled to. -/
def resampledTimeframes : List (String × String) :=
  (pipeline.timeframes.filter
      (fun timeframe => decide (timeframe ≠ pipeline.defaultTimeframe))).filterMap
    (fun timeframe => (timeframeRules.get? timeframe).map (Prod.mk timeframe))

def resampleFrames (frame : Frame) : Except FeatureError (List (String × Frame)) :=
  if pipeline.resampleEnabled = false then .ok []
  else do
    let resampled ← tryMap
      (fun entry => (resampleAgg pandas entry.2 frame).map
        (fun rows => (entry.1, { columns := ohlcv, rows := rows.filter Row.priced : Frame })))
      pipeline.resampledTimeframes
    return resampled.filter (fun entry => decide (entry.2.rows ≠ []))

/-- The frame of the bars, and those resampled from it when it is the default one. -/
def updateFrames (timeframe : String) (frame : Frame) :
    Except FeatureError (List (String × Frame)) :=
  if timeframe = pipeline.defaultTimeframe then
    (pipeline.resampleFrames pandas frame).map (fun resampled => (timeframe, frame) :: resampled)
  else .ok [(timeframe, frame)]

/-- The prices of the latest bar of the default timeframe. -/
def storePrices (entry : String × Frame) (slot : Dict String (Option Cell)) :
    Dict String (Option Cell) :=
  if entry.1 = pipeline.defaultTimeframe then
    match entry.2.rows.getLast? with
    | none => slot
    | some latest =>
      slot.setAll (fun price => columnName price.1 entry.1)
        (fun price => price.2.map Cell.number) latest.prices
  else slot

/-- A slot for every frame, with the latest prices. -/
def openSlots (frames : List (String × Frame)) (slots : Slots) : Slots :=
  frames.foldl (fun slots entry => slots.amend entry.1 .empty (pipeline.storePrices entry)) slots

def storeOutput (slots : Slots) (output : String × String × Series) : Slots :=
  match lastValid output.2.2 with
  | none => slots
  | some value =>
    slots.amend output.1 .empty
      (fun slot => slot.set (columnName output.2.1 output.1) (some value))

def storeOutputs (outputs : List (String × String × Series)) (slots : Slots) : Slots :=
  outputs.foldl storeOutput slots

end FeaturePipeline

namespace MarketBars

/-- `str(market_frame.get("symbol") or "").upper()`. -/
def symbolKey (frame : MarketBars) : String :=
  upper (orValue frame.symbol (.str "")).text

def timeframeKey (frame : MarketBars) (pipeline : FeaturePipeline) : String :=
  (orValue frame.timeframe (.str pipeline.defaultTimeframe)).text

end MarketBars

def PipelineState.amendSymbol (state : PipelineState) (symbol : String) (change : Slots → Slots) :
    PipelineState :=
  { state with store := state.store.amend symbol .empty change }

namespace FeaturePipeline

variable (pipeline : FeaturePipeline) (pandas : Pandas)

/-- The values of a frame that has bars. -/
def storeFrame (completion : Completion) (state : PipelineState) (symbol timeframe : String)
    (frame : Frame) : Except FeatureError Unit × PipelineState :=
  match pipeline.updateFrames pandas timeframe frame with
  | .error error => (.error error, state)
  | .ok frames =>
    let opened := state.amendSymbol symbol (pipeline.openSlots frames)
    match pipeline.computeIndicatorBatches pandas completion frames with
    | .error error => (.error error, opened)
    | .ok batches => (.ok (), opened.amendSymbol symbol (storeOutputs (outputsOf batches)))

def updateFromMarketFrame (completion : Completion) (state : PipelineState)
    (frame : MarketBars) : Except FeatureError Unit × PipelineState :=
  if frame.symbolKey = "" ∨ (pipeline.barsToFrame pandas frame.bars).rows = [] then (.ok (), state)
  else
    pipeline.storeFrame pandas completion state frame.symbolKey (frame.timeframeKey pipeline)
      (pipeline.barsToFrame pandas frame.bars)

/-- The symbols of an update: those asked for and the frame's own. -/
def updatedSymbols (marketFrame : Option MarketBars) (symbols : List String) : Finset String :=
  (symbols.map upper).toFinset ∪
    match marketFrame with
    | none => ∅
    | some frame => ([frame.symbolKey].filter (fun symbol => decide (symbol ≠ ""))).toFinset

/-- An update that raises leaves the symbols of the context as they were. -/
def finishUpdate (result : Except FeatureError Unit × PipelineState)
    (marketFrame : Option MarketBars) (symbols : List String) :
    Except FeatureError Unit × PipelineState :=
  match result.1 with
  | .error error => (.error error, result.2)
  | .ok () =>
    (.ok (), { result.2 with
      symbols := result.2.symbols ∪ updatedSymbols marketFrame symbols })

/-- No frame and an empty one come to the same. -/
def update (completion : Completion) (state : PipelineState) (marketFrame : Option MarketBars)
    (symbols : List String) : Except FeatureError Unit × PipelineState :=
  finishUpdate
    (match marketFrame with
      | none => (.ok (), state)
      | some frame => pipeline.updateFromMarketFrame pandas completion state frame)
    marketFrame symbols

end FeaturePipeline

end FxToushi.Features
