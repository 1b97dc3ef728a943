import FxToushi.Features.Batches

namespace FxToushi.Features

open Data Py

/-! # Pipelines without resampled bars

Where every indicator runs on the base frame, the columns of the matrix can be
named before there are any bars: each is a causal operator on the rows.
-/

namespace FeaturePipeline

/-- Some indicator is computed on bars that were resampled. -/
def UsesHigherTimeframe (pipeline : FeaturePipeline) : Prop :=
  pipeline.resampleEnabled = true ∧ ∃ indicator ∈ pipeline.indicators,
    ∃ timeframe ∈ indicator.timeframes, timeframe ∈ pipeline.timeframes ∧
      timeframe ≠ pipeline.defaultTimeframe

variable {pipeline : FeaturePipeline} {pandas : Pandas} {completion : Completion}
  {frame : Frame}

/-- The timeframes whose frame is the base frame itself. -/
def baseTimeframes (pipeline : FeaturePipeline) : List String :=
  pipeline.defaultTimeframe :: if pipeline.resampleEnabled then []
    else pipeline.timeframes.filter
      (fun timeframe => decide (timeframe ≠ pipeline.defaultTimeframe))

/-- The indicators and base timeframes they are computed on. -/
def baseTasks (pipeline : FeaturePipeline) : List (IndicatorDefinition × String) :=
  pipeline.indicators.flatMap (fun indicator =>
    (pipeline.baseTimeframes.filter (fun timeframe =>
      decide (timeframe ∈ indicator.timeframes))).map (Prod.mk indicator))

/-- Without resampled bars every task runs on the base frame. -/
theorem Usable.tasksOf_eq (usable : Usable frame) (unresampled : ¬ pipeline.UsesHigherTimeframe)
    {frames : List (String × Frame)} (made : pipeline.framesOf pandas frame = .ok frames) :
    pipeline.tasksOf frames = pipeline.baseTasks.map (fun task => (task.1, task.2, frame)) := by
  obtain ⟨higher, resampled, returned⟩ := bind_ok made
  obtain rfl := Except.ok.inj returned
  unfold tasksOf baseTasks
  rw [List.map_flatMap]
  apply List.flatMap_congr
  intro indicator registered
  rw [List.map_map]
  let used (timeframe : String) : Bool := decide (timeframe ∈ indicator.timeframes)
  suffices same : ((pipeline.defaultTimeframe, frame) ::
      higher.filter (fun entry => decide (entry.2.rows ≠ []))).filter (fun entry => used entry.1) =
      (pipeline.baseTimeframes.filter used).map (fun timeframe => (timeframe, frame)) by
    simpa [used, Function.comp_def] using congrArg (List.map (Prod.mk indicator)) same
  cases enabled : pipeline.resampleEnabled with
  | true =>
    have none_used : (higher.filter (fun entry => decide (entry.2.rows ≠ []))).filter
        (fun entry => used entry.1) = [] := by
      apply List.filter_eq_nil_iff.mpr
      intro entry member needed
      obtain ⟨listed, other, -⟩ := (mem_higher resampled).mp (List.mem_filter.mp member).1
      exact unresampled ⟨enabled, indicator, registered, entry.1, of_decide_eq_true needed,
        listed, other⟩
    rw [List.filter_cons, none_used]
    cases here : used pipeline.defaultTimeframe <;> simp [baseTimeframes, enabled, here]
  | false =>
    have whole : higher = (pipeline.timeframes.filter
        (fun timeframe => decide (timeframe ≠ pipeline.defaultTimeframe))).map
          (fun timeframe => (timeframe, frame)) := by
      rw [tryMap_ok resampled]
      simp [resample, enabled, Except.map, Except.toOption]
    have kept : higher.filter (fun entry => decide (entry.2.rows ≠ [])) = higher := by
      apply List.filter_eq_self.mpr
      intro entry member
      rw [whole] at member
      obtain ⟨timeframe, -, rfl⟩ := List.mem_map.mp member
      exact decide_eq_true usable.nonempty
    rw [kept, whole]
    cases here : used pipeline.defaultTimeframe <;>
      simp [baseTimeframes, enabled, here, List.filter_map, Function.comp_def]

/-! ## The plan of a pipeline without resampled bars -/

/-- The outputs of the base tasks, before they are given any bars. -/
def compiled (pipeline : FeaturePipeline) (pandas : Pandas) (completion : Completion) :
    Except FeatureError (List (String × Outputs)) :=
  tryMap (fun task => (indicatorOutputs pandas task.1).map (Prod.mk task.2))
    (pipeline.runOrder completion pipeline.baseTasks)

/-- The columns of the matrix, before they are given any bars. -/
def plan (pipeline : FeaturePipeline) (batches : List (String × Outputs)) :
    Dict String (Column (Option Cell)) :=
  (((Dict.empty : Dict String (Column (Option Cell))).setAll
    (fun output => columnName output.2.1 output.1) (fun output => output.2.2)
      (outputsOf (batches.map (fun batch => (batch.1, batch.2.columns))))).setAll
        pipeline.priceName (fun entry => entry.2.numbers) priceColumns).mapValues
          (fun column => forwardFill.comp column)

theorem outputsOf_mapValues {Value Image : Type} (image : Value → Image)
    (batches : List (String × Dict String Value)) :
    outputsOf (batches.map (fun batch => (batch.1, batch.2.mapValues image))) =
      (outputsOf batches).map (fun output => (output.1, output.2.1, image output.2.2)) := by
  simp [outputsOf, Dict.mapValues, List.map_flatMap, List.flatMap_map, Function.comp_def]

theorem Usable.batches_eq (usable : Usable frame) (unresampled : ¬ pipeline.UsesHigherTimeframe)
    {frames : List (String × Frame)} (made : pipeline.framesOf pandas frame = .ok frames) :
    pipeline.computeIndicatorBatches pandas completion frames =
      (pipeline.compiled pandas completion).map (List.map (fun batch =>
        (batch.1, batch.2.columns.mapValues (·.over frame)))) := by
  unfold computeIndicatorBatches compiled
  rw [usable.tasksOf_eq unresampled made, runOrder_map, tryMap_source, ← tryMap_finish]
  congr 1
  funext task
  rw [usable.computeIndicator_eq]
  cases indicatorOutputs pandas task.1 <;> rfl

theorem featureColumns_over (batches : List (String × Outputs)) :
    pipeline.featureColumns frame.index
      (batches.map (fun batch => (batch.1, batch.2.columns.mapValues (·.over frame)))) =
      ((Dict.empty : Dict String (Column (Option Cell))).setAll
        (fun output => columnName output.2.1 output.1) (fun output => output.2.2)
          (outputsOf (batches.map (fun batch => (batch.1, batch.2.columns))))).mapValues
            (fun column => column.apply frame.rows) := by
  have mapped := outputsOf_mapValues (fun column : Column (Option Cell) => column.over frame)
    (batches.map (fun batch => (batch.1, batch.2.columns)))
  rw [List.map_map] at mapped
  simp only [Function.comp_def] at mapped
  rw [featureColumns, mapped, Dict.setAll_map, Dict.mapValues_setAll]
  congr 1
  funext output
  exact aligned_self output.1 frame.index (output.2.2.apply frame.rows)

theorem Usable.featureMatrix_eq (usable : Usable frame)
    (unresampled : ¬ pipeline.UsesHigherTimeframe)
    (resamples : ∀ timeframe ∈ pipeline.timeframes, pipeline.Resamples pandas timeframe) :
    pipeline.featureMatrix pandas completion frame =
      (pipeline.compiled pandas completion).map (fun batches =>
        { index := frame.index
          columns := (pipeline.plan batches).mapValues
            (fun column => column.apply frame.rows) }) := by
  obtain ⟨frames, made⟩ := usable.framesOf_ok_iff.mpr resamples
  have required : frame.require ohlcv = .ok () := Frame.require_ok_iff.mpr usable.priced
  rw [featureMatrix, made]
  simp only [bind, Except.bind]
  rw [usable.batches_eq unresampled made, required]
  cases pipeline.compiled pandas completion with
  | error error => rfl
  | ok batches =>
    simp only [Except.map, featureColumns_over, plan, Dict.mapValues_mapValues,
      Dict.mapValues_setAll, pure, Except.pure]
    rfl

end FeaturePipeline

end FxToushi.Features
