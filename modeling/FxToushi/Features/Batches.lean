import FxToushi.Features.Matrix

namespace FxToushi.Features

open Data Py

/-! # Frames and batches

What the steps of `compute_feature_matrix` make of bars that have the OHLCV
columns: which frames there are, what the indicators compute on them and which
columns the matrix ends up with.
-/

structure PriceHistory (pandas : Pandas) (priceDf : PriceFrame) : Prop where
  stamped : .timestamp ∈ priceDf.columns
  priced : ohlcv ⊆ priceDf.columns
  distinct : ((stampedRows pandas RawRow.timestamp priceDf.rows).map Row.time).Nodup

def PriceFrame.sortedRows (priceDf : PriceFrame) (pandas : Pandas) : List Row :=
  pandas.sortIndex.apply (stampedRows pandas RawRow.timestamp priceDf.rows)

section Rows

variable {pandas : Pandas} {priceDf : PriceFrame}

theorem mem_sortedRows {row : Row} :
    row ∈ priceDf.sortedRows pandas ↔ row ∈ stampedRows pandas RawRow.timestamp priceDf.rows :=
  (pandas.sortIndex.perm _).mem_iff

theorem RowSort.increasing (sort : RowSort) {rows : List Row}
    (distinct : (rows.map Row.time).Nodup) :
    (sort.apply rows).Pairwise (fun first second => first.time < second.time) := by
  have differ : (sort.apply rows).Pairwise (fun first second => first.time ≠ second.time) :=
    List.pairwise_map.mp (((sort.perm rows).map Row.time).nodup_iff.mpr distinct)
  apply (List.pairwise_and_iff.mpr ⟨sort.sorted rows, differ⟩).imp
  intro earlier later ordered
  exact lt_of_le_of_ne ordered.1 ordered.2

theorem eq_of_increasing {left right : List Row}
    (leftOrdered : left.Pairwise (fun first second => first.time < second.time))
    (rightOrdered : right.Pairwise (fun first second => first.time < second.time))
    (same : ∀ row, row ∈ left ↔ row ∈ right) : left = right := by
  have nodup : ∀ {rows : List Row},
      rows.Pairwise (fun first second => first.time < second.time) → rows.Nodup := by
    intro rows ordered
    apply ordered.imp
    intro earlier later before equal
    exact absurd (equal ▸ before) (lt_irrefl _)
  apply List.Perm.eq_of_pairwise _ leftOrdered rightOrdered
  · exact (List.perm_ext_iff_of_nodup (nodup leftOrdered) (nodup rightOrdered)).mpr same
  · intro earlier later _ _ before after
    exact absurd (before.trans after) (lt_irrefl _)

theorem PriceHistory.increasing (history : PriceHistory pandas priceDf) :
    (priceDf.sortedRows pandas).Pairwise (fun first second => first.time < second.time) :=
  pandas.sortIndex.increasing history.distinct

end Rows

namespace FeaturePipeline

/-- The timeframe needs no resampling, or pandas knows its rule. -/
def Resamples (pipeline : FeaturePipeline) (pandas : Pandas) (timeframe : String) : Prop :=
  pipeline.resampleEnabled = false ∨ timeframe = pipeline.defaultTimeframe ∨
    ∃ rule, pandas.rule (ruleOf timeframe) = .ok rule

/-- A frame the indicators can be computed on. -/
structure Usable (frame : Frame) : Prop where
  nonempty : frame.rows ≠ []
  priced : ohlcv ⊆ frame.columns

variable {pipeline : FeaturePipeline} {pandas : Pandas} {completion : Completion}
  {frame : Frame} {priceDf : PriceFrame} {time : Timestamp}

/-! ## Frames -/

theorem Usable.resampleAgg_eq (usable : Usable frame) (rule : String) :
    resampleAgg pandas rule frame = (pandas.rule rule).map (fun intervalsOf =>
      (intervals intervalsOf frame.rows).map (aggregate pandas)) := by
  have missing : ohlcv.filter (fun column => decide (column ∉ frame.columns)) = [] := by
    apply List.filter_eq_nil_iff.mpr
    intro column member
    simpa using usable.priced member
  unfold resampleAgg
  cases pandas.rule rule with
  | error error => rfl
  | ok intervalsOf => exact if_pos missing

theorem Usable.resample_ok_iff (usable : Usable frame) {timeframe : String} :
    (∃ resampled, pipeline.resample pandas frame timeframe = .ok resampled) ↔
      pipeline.Resamples pandas timeframe := by
  unfold resample Resamples
  by_cases base : pipeline.resampleEnabled = false ∨ timeframe = pipeline.defaultTimeframe
  · rw [if_pos base, ← or_assoc]
    simp [base]
  · rw [if_neg base, ← or_assoc, usable.resampleAgg_eq]
    cases pandas.rule (ruleOf timeframe) <;>
      simp [base, Except.map, bind, Except.bind, pure, Except.pure]

theorem Usable.framesOf_ok_iff (usable : Usable frame) :
    (∃ frames, pipeline.framesOf pandas frame = .ok frames) ↔
      ∀ timeframe ∈ pipeline.timeframes, pipeline.Resamples pandas timeframe := by
  have mapped := @tryMap_ok_iff _ _ _
    (fun timeframe => (pipeline.resample pandas frame timeframe).map (Prod.mk timeframe))
    (pipeline.timeframes.filter (fun timeframe => decide (timeframe ≠ pipeline.defaultTimeframe)))
  unfold framesOf
  constructor
  · intro succeeds
    obtain ⟨frames, computed⟩ := succeeds
    obtain ⟨higher, resampled, -⟩ := bind_ok computed
    intro timeframe listed
    by_cases base : timeframe = pipeline.defaultTimeframe
    · exact .inr (.inl base)
    · obtain ⟨entry, made⟩ := mapped.mp ⟨higher, resampled⟩ timeframe
        (List.mem_filter.mpr ⟨listed, decide_eq_true base⟩)
      cases result : pipeline.resample pandas frame timeframe with
      | error error => rw [result] at made; exact absurd made (by simp [Except.map])
      | ok resampled => exact usable.resample_ok_iff.mp ⟨resampled, result⟩
  · intro resamples
    obtain ⟨higher, resampled⟩ := mapped.mpr (by
      intro timeframe member
      obtain ⟨resampled, result⟩ :=
        (@Usable.resample_ok_iff pipeline pandas frame usable timeframe).mpr
          (resamples timeframe (List.mem_filter.mp member).1)
      exact ⟨(timeframe, resampled), by rw [result]; rfl⟩)
    exact ⟨_, by rw [resampled]; rfl⟩

theorem mem_higher {frames : List (String × Frame)}
    (made : tryMap (fun timeframe => (pipeline.resample pandas frame timeframe).map
      (Prod.mk timeframe)) (pipeline.timeframes.filter
        (fun timeframe => decide (timeframe ≠ pipeline.defaultTimeframe))) = .ok frames)
    {entry : String × Frame} :
    entry ∈ frames ↔ entry.1 ∈ pipeline.timeframes ∧ entry.1 ≠ pipeline.defaultTimeframe ∧
      pipeline.resample pandas frame entry.1 = .ok entry.2 := by
  rw [mem_of_tryMap made]
  constructor
  · intro source
    obtain ⟨timeframe, listed, mapped⟩ := source
    obtain ⟨listed, higher⟩ := List.mem_filter.mp listed
    cases result : pipeline.resample pandas frame timeframe with
    | error error => rw [result] at mapped; exact absurd mapped (by simp [Except.map])
    | ok resampled =>
      rw [result] at mapped
      obtain rfl := Except.ok.inj mapped
      exact ⟨listed, of_decide_eq_true higher, result⟩
  · intro entered
    obtain ⟨listed, higher, result⟩ := entered
    exact ⟨entry.1, List.mem_filter.mpr ⟨listed, decide_eq_true higher⟩, by rw [result]; rfl⟩

/-! ## Batches -/

theorem Usable.computeIndicator_eq (usable : Usable frame) (indicator : IndicatorDefinition) :
    computeIndicator pandas indicator frame =
      (indicatorOutputs pandas indicator).map (fun outputs =>
        outputs.columns.mapValues (·.over frame)) := by
  have required : frame.require [.close, .high, .low] = .ok () := by
    apply Frame.require_ok_iff.mpr
    intro column member
    exact usable.priced (by revert column; decide)
  unfold computeIndicator
  rw [required]
  cases indicatorOutputs pandas indicator <;> rfl

theorem mem_outputsOf_iff {Value : Type} {batches : List (String × Dict String Value)}
    {output : String × String × Value} :
    output ∈ outputsOf batches ↔ ∃ batch ∈ batches, batch.1 = output.1 ∧
      output.2 ∈ batch.2.entries := by
  unfold outputsOf
  constructor
  · intro member
    obtain ⟨batch, listed, inside⟩ := List.mem_flatMap.mp member
    obtain ⟨entry, found, rfl⟩ := List.mem_map.mp inside
    exact ⟨batch, listed, rfl, found⟩
  · intro inside
    obtain ⟨batch, listed, named, found⟩ := inside
    exact List.mem_flatMap.mpr ⟨batch, listed, List.mem_map.mpr ⟨output.2, found, by rw [named]⟩⟩

/-- A batch is what one of the tasks computed. -/
theorem mem_batches_iff {frames : List (String × Frame)}
    {batches : List (String × Dict String Series)}
    (batched : pipeline.computeIndicatorBatches pandas completion frames = .ok batches)
    {batch : String × Dict String Series} :
    batch ∈ batches ↔ ∃ task ∈ pipeline.tasksOf frames, task.2.1 = batch.1 ∧
      computeIndicator pandas task.1 task.2.2 = .ok batch.2 := by
  rw [mem_of_tryMap batched]
  constructor
  · intro source
    obtain ⟨task, listed, mapped⟩ := source
    refine ⟨task, (runOrder_perm _).mem_iff.mp listed, ?_⟩
    cases result : computeIndicator pandas task.1 task.2.2 with
    | error error => rw [result] at mapped; exact absurd mapped (by simp [Except.map])
    | ok series =>
      rw [result] at mapped
      obtain rfl := Except.ok.inj mapped
      exact ⟨rfl, rfl⟩
  · intro source
    obtain ⟨task, listed, named, result⟩ := source
    refine ⟨task, (runOrder_perm _).mem_iff.mpr listed, ?_⟩
    rw [result, named]
    rfl

/-! ## Columns -/

theorem featureMatrix_index {frame : Frame} {matrix : FeatureMatrix}
    (computed : pipeline.featureMatrix pandas completion frame = .ok matrix) :
    matrix.index = frame.index := by
  obtain ⟨frames, -, computed⟩ := bind_ok computed
  obtain ⟨batches, -, computed⟩ := bind_ok computed
  obtain ⟨-, -, computed⟩ := bind_ok computed
  rw [← Except.ok.inj computed]

theorem featureMatrix_columns {frame : Frame} {matrix : FeatureMatrix}
    (computed : pipeline.featureMatrix pandas completion frame = .ok matrix) :
    ∃ frames batches, pipeline.framesOf pandas frame = .ok frames ∧
      pipeline.computeIndicatorBatches pandas completion frames = .ok batches ∧
      ∀ column, (matrix.columns.get? column).isSome ↔
        (∃ entry ∈ priceColumns, pipeline.priceName entry = column) ∨
          ∃ output ∈ outputsOf batches, columnName output.2.1 output.1 = column := by
  obtain ⟨frames, made, computed⟩ := bind_ok computed
  obtain ⟨batches, batched, computed⟩ := bind_ok computed
  obtain ⟨-, -, computed⟩ := bind_ok computed
  refine ⟨frames, batches, made, batched, ?_⟩
  intro column
  rw [← Except.ok.inj computed, Dict.get?_mapValues, Option.isSome_map,
    Dict.get?_setAll_isSome_iff, featureColumns, Dict.get?_setAll_isSome_iff]
  simp [Dict.get?, Dict.empty, Dict.lookup]

theorem row_isSome {matrix : FeatureMatrix} {row : Dict String (Option Cell)}
    (found : matrix.row time = some row) (column : String) :
    (row.get? column).isSome = (matrix.columns.get? column).isSome := by
  obtain ⟨place, -, rfl⟩ := Option.map_eq_some_iff.mp found
  rw [Dict.get?_mapValues, Option.isSome_map]

theorem uncached_eq (history : PriceHistory pandas priceDf) :
    pipeline.uncached pandas completion priceDf =
      if priceDf.sortedRows pandas = [] then .ok .empty
      else pipeline.featureMatrix pandas completion
        { columns := priceDf.columns, rows := priceDf.sortedRows pandas } := by
  have sorted : pandas.sortIndex.apply [] = [] :=
    List.perm_nil.mp (pandas.sortIndex.perm [])
  unfold uncached
  cases rows : priceDf.rows with
  | nil =>
    have none_sorted : priceDf.sortedRows pandas = [] := by
      simp [PriceFrame.sortedRows, rows, stampedRows, sorted]
    simp [PriceFrame.isEmpty, rows, none_sorted]
  | cons row rest =>
    have listed : priceDf.columns ≠ [] := List.ne_nil_of_mem history.stamped
    simp only [PriceFrame.isEmpty, rows, baseFrame, if_pos history.stamped, bind, Except.bind]
    simp [listed, PriceFrame.sortedRows, rows]
    rfl

theorem usable_of_rows (history : PriceHistory pandas priceDf)
    (nonempty : priceDf.sortedRows pandas ≠ []) :
    Usable { columns := priceDf.columns, rows := priceDf.sortedRows pandas } :=
  ⟨nonempty, history.priced⟩

/-! ## Timeframes have no underscore -/

theorem defaultTimeframe_plain (pipeline : FeaturePipeline) :
    '_' ∉ pipeline.defaultTimeframe.toList := by
  unfold defaultTimeframe
  cases pipeline.defaultTimeframeMinutes with
  | ofNat minutes => simp [toString, Int.repr]
  | negSucc minutes => simp [toString, Int.repr]

theorem timeframe_plain {timeframe : String} {rule : Rule}
    (known : pandas.rule (ruleOf timeframe) = .ok rule) : '_' ∉ timeframe.toList := by
  cases found : timeframeRules.get? timeframe with
  | none =>
    have plain := pandas.rule_plain _ _ known
    rwa [ruleOf, found] at plain
  | some rule =>
    have listed := (Dict.get?_eq_some_iff _).mp found
    have every : ∀ entry ∈ timeframeRules.entries, '_' ∉ entry.1.toList := by decide
    exact every _ listed

end FeaturePipeline

end FxToushi.Features
