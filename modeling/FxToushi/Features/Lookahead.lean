import FxToushi.Features.ExactPandas
import FxToushi.Features.Plan

namespace FxToushi.Features

open Data Py

/-! # Looking ahead

The row of the feature matrix at a timestamp, for two price histories that
agree on every bar up to it.  On the base timeframe every column is causal; the
bar of a higher timeframe stands at the start of its interval and is filled
forward from there, with what the rest of the interval will bring.
-/

/-- The two histories have the same bars up to the timestamp. -/
def AgreeUpTo (pandas : Pandas) (time : Timestamp) (first second : PriceFrame) : Prop :=
  ∀ row : Row, row.time ≤ time → (row ∈ stampedRows pandas RawRow.timestamp first.rows ↔
    row ∈ stampedRows pandas RawRow.timestamp second.rows)

/-- The row of an answered call; a call that raises has none. -/
def rowAt (answer : Except FeatureError FeatureMatrix) (time : Timestamp) :
    Option (Dict String (Option Cell)) :=
  answer.toOption.bind (·.row time)

namespace FeaturePipeline

def NoLookahead (pipeline : FeaturePipeline) (pandas : Pandas) : Prop :=
  ∀ completion symbol first second time, PriceHistory pandas first → PriceHistory pandas second →
    AgreeUpTo pandas time first second →
      rowAt (pipeline.computeFeatureMatrix pandas completion .fresh symbol first).1 time =
        rowAt (pipeline.computeFeatureMatrix pandas completion .fresh symbol second).1 time

/-- The configuration raises on whatever bars it is given: pandas does not know
the rule of a timeframe, or an indicator of the default timeframe is not
supported with its parameters and output keys. -/
def Rejected (pipeline : FeaturePipeline) (pandas : Pandas) : Prop :=
  (∃ timeframe ∈ pipeline.timeframes, ¬ pipeline.Resamples pandas timeframe) ∨
    ∃ indicator ∈ pipeline.indicators, pipeline.defaultTimeframe ∈ indicator.timeframes ∧
      ∀ outputs, indicatorOutputs pandas indicator ≠ .ok outputs

end FeaturePipeline

/-! ## The shared past of two histories -/

section Past

variable {pandas : Pandas} {first second : PriceFrame} {time : Timestamp}

def pastOf (rows : List Row) (time : Timestamp) : List Row :=
  rows.filter (fun row => decide (row.time ≤ time))

theorem pastOf_congr (firstHistory : PriceHistory pandas first)
    (secondHistory : PriceHistory pandas second) (agree : AgreeUpTo pandas time first second) :
    pastOf (first.sortedRows pandas) time = pastOf (second.sortedRows pandas) time := by
  apply eq_of_increasing (firstHistory.increasing.sublist List.filter_sublist)
    (secondHistory.increasing.sublist List.filter_sublist)
  intro row
  simp only [List.mem_filter, mem_sortedRows, decide_eq_true_eq]
  constructor
  · intro here
    exact ⟨(agree row here.2).mp here.1, here.2⟩
  · intro here
    exact ⟨(agree row here.2).mpr here.1, here.2⟩

theorem past_append {rows : List Row}
    (increasing : rows.Pairwise (fun first second => first.time < second.time)) :
    ∃ later, rows = pastOf rows time ++ later ∧ ∀ row ∈ later, time < row.time := by
  refine ⟨rows.filter (fun row => !decide (row.time ≤ time)), ?_, ?_⟩
  · apply split_good
    apply increasing.imp
    intro earlier later before
    simp only [decide_eq_true_eq]
    exact fun reached => le_of_lt (lt_of_lt_of_le before reached)
  · intro row member
    simpa using (List.mem_filter.mp member).2

theorem idxOf?_append_later {past later : List Row} (after : ∀ row ∈ later, time < row.time) :
    ((past ++ later).map Row.time).idxOf? time = (past.map Row.time).idxOf? time := by
  have absent : (later.map Row.time).findIdx? (· == time) = none := by
    apply List.findIdx?_eq_none_iff.mpr
    intro other member
    obtain ⟨row, listed, rfl⟩ := List.mem_map.mp member
    simpa using (ne_of_gt (after row listed))
  rw [List.map_append, List.idxOf?, List.findIdx?_append, absent]
  simp

/-- Filled by causal columns, the row at a timestamp depends on the past only. -/
theorem row_congr (columns : Dict String (Column (Option Cell))) {past left right : List Row}
    (leftAfter : ∀ row ∈ left, time < row.time) (rightAfter : ∀ row ∈ right, time < row.time) :
    (FeatureMatrix.mk ((past ++ left).map Row.time)
      (columns.mapValues (fun column => column.apply (past ++ left)))).row time =
    (FeatureMatrix.mk ((past ++ right).map Row.time)
      (columns.mapValues (fun column => column.apply (past ++ right)))).row time := by
  unfold FeatureMatrix.row
  simp only [idxOf?_append_later leftAfter, idxOf?_append_later rightAfter,
    Dict.mapValues_mapValues]
  apply Option.map_congr
  intro place found
  have before : place < past.length := by
    have bound := List.findIdx?_eq_some_iff_findIdx_eq.mp found
    simpa using bound.1
  congr 1
  funext column
  have same : (past ++ left).take past.length = (past ++ right).take past.length := by simp
  rw [column.getElem?_congr same before]

end Past

namespace FeaturePipeline

variable {pipeline : FeaturePipeline} {pandas : Pandas} {completion : Completion}
  {priceDf first second : PriceFrame} {time : Timestamp}

/-! ## Rows of the answers -/

theorem rowAt_empty : rowAt (.ok .empty) time = none := by
  simp [rowAt, FeatureMatrix.row, FeatureMatrix.empty, Except.toOption]

theorem rowAt_absent (history : PriceHistory pandas priceDf)
    (absent : ∀ row ∈ priceDf.sortedRows pandas, row.time ≠ time) :
    rowAt (pipeline.uncached pandas completion priceDf) time = none := by
  rw [uncached_eq history]
  split
  · exact rowAt_empty
  · cases computed : pipeline.featureMatrix pandas completion
        { columns := priceDf.columns, rows := priceDf.sortedRows pandas } with
    | error error => rfl
    | ok matrix =>
      have missing : matrix.index.idxOf? time = none := by
        rw [featureMatrix_index computed]
        apply List.findIdx?_eq_none_iff.mpr
        intro other member
        obtain ⟨row, listed, rfl⟩ := List.mem_map.mp member
        simpa using absent row listed
      simp [rowAt, FeatureMatrix.row, missing, Except.toOption]

theorem Rejected.featureMatrix_ne (rejected : pipeline.Rejected pandas) {frame : Frame}
    (usable : Usable frame) (matrix : FeatureMatrix) :
    pipeline.featureMatrix pandas completion frame ≠ .ok matrix := by
  intro computed
  obtain ⟨frames, made, computed⟩ := bind_ok computed
  obtain ⟨batches, batched, -⟩ := bind_ok computed
  rcases rejected with ⟨timeframe, listed, refused⟩ | ⟨indicator, registered, used, refused⟩
  · exact refused (usable.framesOf_ok_iff.mp ⟨frames, made⟩ timeframe listed)
  · obtain ⟨higher, -, returned⟩ := bind_ok made
    have task : (indicator, pipeline.defaultTimeframe, frame) ∈ pipeline.tasksOf frames := by
      apply mem_tasksOf_iff.mpr
      rw [← Except.ok.inj returned]
      exact ⟨registered, List.mem_cons_self, used⟩
    obtain ⟨batch, done⟩ := tryMap_ok_iff.mp ⟨batches, batched⟩ _
      ((runOrder_perm _).mem_iff.mpr task)
    rw [usable.computeIndicator_eq] at done
    cases outputs : indicatorOutputs pandas indicator with
    | error error => rw [outputs] at done; exact absurd done (by simp [Except.map])
    | ok outputs' => exact refused outputs' outputs

theorem rowAt_rejected (rejected : pipeline.Rejected pandas)
    (history : PriceHistory pandas priceDf) :
    rowAt (pipeline.uncached pandas completion priceDf) time = none := by
  rw [uncached_eq history]
  split
  · exact rowAt_empty
  · rename_i nonempty
    cases computed : pipeline.featureMatrix pandas completion
        { columns := priceDf.columns, rows := priceDf.sortedRows pandas } with
    | error error => rfl
    | ok matrix =>
      exact absurd computed (rejected.featureMatrix_ne (usable_of_rows history nonempty) matrix)

/-- Without resampled bars the row depends on the past alone. -/
theorem rowAt_unresampled (unresampled : ¬ pipeline.UsesHigherTimeframe)
    (resamples : ∀ timeframe ∈ pipeline.timeframes, pipeline.Resamples pandas timeframe)
    (firstHistory : PriceHistory pandas first) (secondHistory : PriceHistory pandas second)
    (agree : AgreeUpTo pandas time first second) :
    rowAt (pipeline.uncached pandas completion first) time =
      rowAt (pipeline.uncached pandas completion second) time := by
  obtain ⟨left, leftRows, leftAfter⟩ := @past_append time _ firstHistory.increasing
  obtain ⟨right, rightRows, rightAfter⟩ := @past_append time _ secondHistory.increasing
  have past := pastOf_congr firstHistory secondHistory agree
  rw [← past] at rightRows
  generalize pastOf (first.sortedRows pandas) time = shared at leftRows rightRows
  by_cases none_past : shared = []
  · subst none_past
    rw [rowAt_absent firstHistory, rowAt_absent secondHistory]
    · rw [rightRows]
      exact fun row member => ne_of_gt (rightAfter row member)
    · rw [leftRows]
      exact fun row member => ne_of_gt (leftAfter row member)
  · have firstRows : first.sortedRows pandas ≠ [] := by simp [leftRows, none_past]
    have secondRows : second.sortedRows pandas ≠ [] := by simp [rightRows, none_past]
    rw [uncached_eq firstHistory, uncached_eq secondHistory, if_neg firstRows, if_neg secondRows,
      (usable_of_rows firstHistory firstRows).featureMatrix_eq unresampled resamples,
      (usable_of_rows secondHistory secondRows).featureMatrix_eq unresampled resamples]
    cases pipeline.compiled pandas completion with
    | error error => rfl
    | ok batches =>
      simp only [Except.map, rowAt, Except.toOption, Option.bind_some, Frame.index, leftRows,
        rightRows]
      exact row_congr (pipeline.plan batches) leftAfter rightAfter

theorem noLookahead_of_unresampled (unresampled : ¬ pipeline.UsesHigherTimeframe) :
    pipeline.NoLookahead pandas := by
  intro completion symbol first second time firstHistory secondHistory agree
  rw [computeFeatureMatrix_fresh, computeFeatureMatrix_fresh]
  by_cases resamples : ∀ timeframe ∈ pipeline.timeframes, pipeline.Resamples pandas timeframe
  · exact rowAt_unresampled unresampled resamples firstHistory secondHistory agree
  · have rejected : pipeline.Rejected pandas := .inl (by simpa using resamples)
    rw [rowAt_rejected rejected firstHistory, rowAt_rejected rejected secondHistory]

theorem noLookahead_of_rejected (rejected : pipeline.Rejected pandas) :
    pipeline.NoLookahead pandas := by
  intro completion symbol first second time firstHistory secondHistory agree
  rw [computeFeatureMatrix_fresh, computeFeatureMatrix_fresh, rowAt_rejected rejected firstHistory,
    rowAt_rejected rejected secondHistory]

/-! ## A history without prices and one more bar -/

/-- A bar without prices, a moment before a bar with prices. -/
def blankRow : RawRow := { timestamp := .aware 0 }

def pricedRow : RawRow where
  timestamp := .aware 1
  openPrice := some 1
  high := some 1
  low := some 1
  close := some 1
  volume := some 1

def blankHistory : PriceFrame := ⟨.timestamp :: ohlcv, [blankRow]⟩

def pricedHistory : PriceFrame := ⟨.timestamp :: ohlcv, [blankRow, pricedRow]⟩

theorem stampedRows_aware (rows : List (RawRow × Timestamp))
    (aware : ∀ entry ∈ rows, entry.1.timestamp = .aware entry.2) :
    stampedRows pandas RawRow.timestamp (rows.map Prod.fst) =
      rows.map (fun entry => entry.1.at entry.2) := by
  have stamps : (rows.map Prod.fst).map RawRow.timestamp = (rows.map Prod.snd).map .aware := by
    rw [List.map_map, List.map_map]
    exact List.map_congr_left aware
  have parsed : parseTimestampSeries pandas ((rows.map Prod.fst).map RawRow.timestamp) =
      (rows.map Prod.snd).map some := by
    rw [parseTimestampSeries, stamps, pandas.toDatetime_aware]
    simp
  rw [stampedRows, parsed]
  simp [List.zipWith_map_left, List.zipWith_map_right, List.filterMap_map, Function.comp_def]

theorem history_of_rows {rows : List (RawRow × Timestamp)}
    (aware : ∀ entry ∈ rows, entry.1.timestamp = .aware entry.2)
    (increasing : rows.Pairwise (fun first second => first.2 < second.2)) :
    PriceHistory pandas ⟨.timestamp :: ohlcv, rows.map Prod.fst⟩ ∧
      PriceFrame.sortedRows ⟨.timestamp :: ohlcv, rows.map Prod.fst⟩ pandas =
        rows.map (fun entry => entry.1.at entry.2) := by
  have stamped := @stampedRows_aware pandas rows aware
  have ordered : (rows.map (fun entry => entry.1.at entry.2)).Pairwise
      (fun first second => first.time < second.time) := List.pairwise_map.mpr increasing
  have distinct : ((rows.map (fun entry => entry.1.at entry.2)).map Row.time).Nodup := by
    apply List.pairwise_map.mpr
    exact ordered.imp fun before => ne_of_lt before
  refine ⟨⟨List.mem_cons_self, List.subset_cons_self _ _, by rw [stamped]; exact distinct⟩, ?_⟩
  apply eq_of_increasing _ ordered
  · intro row
    rw [mem_sortedRows, stamped]
  · rw [PriceFrame.sortedRows, stamped]
    exact pandas.sortIndex.increasing distinct

theorem agree_of_later {rows later : List (RawRow × Timestamp)}
    (aware : ∀ entry ∈ rows ++ later, entry.1.timestamp = .aware entry.2)
    (after : ∀ entry ∈ later, time < entry.2) :
    AgreeUpTo pandas time ⟨.timestamp :: ohlcv, rows.map Prod.fst⟩
      ⟨.timestamp :: ohlcv, (rows ++ later).map Prod.fst⟩ := by
  intro row past
  rw [stampedRows_aware _ aware,
    stampedRows_aware _ (fun entry member => aware entry (List.mem_append_left _ member)),
    List.map_append, List.mem_append]
  have absent : row ∉ later.map (fun entry => entry.1.at entry.2) := by
    intro member
    obtain ⟨entry, listed, rfl⟩ := List.mem_map.mp member
    exact absurd (after entry listed) (not_lt.mpr past)
  simp only [absent, or_false]

theorem complete_of_blank {rows : List Row} (blank : ∀ row ∈ rows, row.openPrice = none)
    (rule : Rule) : ((intervals rule rows).map (aggregate pandas)).filter Row.complete = [] := by
  apply List.filter_eq_nil_iff.mpr
  intro row member
  obtain ⟨interval, listed, rfl⟩ := List.mem_map.mp member
  have missing : (aggregate pandas interval).openPrice = none := by
    apply (pandas.first.apply_eq_none_iff _).mpr
    intro reading listedReading
    obtain ⟨source, inside, rfl⟩ := List.mem_map.mp listedReading
    apply blank
    cases rows with
    | nil => exact absurd listed (by simp [intervals])
    | cons first rest =>
      obtain ⟨label, -, rfl⟩ := List.mem_map.mp listed
      exact (List.mem_filter.mp inside).1
  simp [Row.complete, Row.priced, missing]

theorem complete_of_priced {rows : List Row} {row : Row} (member : row ∈ rows)
    (priced : row.priced) (rule : Rule) :
    ((intervals rule rows).map (aggregate pandas)).filter Row.complete ≠ [] := by
  cases rows with
  | nil => exact absurd member List.not_mem_nil
  | cons first rest =>
    let label := rule.label first.time row.time
    let inside := (first :: rest).filter
      (fun other => decide (rule.label first.time other.time = label))
    have here : row ∈ inside := List.mem_filter.mpr ⟨member, decide_eq_true rfl⟩
    have present : ∀ (reduction : Reduction) (field : Row → Reading), (field row).isSome →
        (reduction.apply (inside.map field)).isSome := by
      intro reduction field some_here
      apply Option.isSome_iff_ne_none.mpr
      intro missing
      have absent := (reduction.apply_eq_none_iff _).mp missing (field row)
        (List.mem_map_of_mem here)
      simp [absent] at some_here
    have complete : Row.complete (aggregate pandas (label, inside)) := by
      have total := Option.isSome_iff_ne_none.mpr
        (pandas.sum.apply_ne_none (inside.map Row.volume))
      simp only [Row.priced, Bool.and_eq_true] at priced
      simp only [Row.complete, Row.priced, aggregate, Bool.and_eq_true]
      exact ⟨⟨⟨⟨present _ _ priced.1.1.1, present _ _ priced.1.1.2⟩, present _ _ priced.1.2⟩,
        present _ _ priced.2⟩, total⟩
    have interval : (label, inside) ∈ intervals rule (first :: rest) :=
      List.mem_map.mpr ⟨label, List.mem_dedup.mpr (List.mem_map_of_mem member), rfl⟩
    exact List.ne_nil_of_mem
      (List.mem_filter.mpr ⟨List.mem_map_of_mem interval, complete⟩)

/-! ## Where the future shows -/

/-- Bars without prices leave no higher timeframe. -/
theorem framesOf_blank {frame : Frame} (usable : Usable frame)
    (blank : ∀ row ∈ frame.rows, row.openPrice = none) (enabled : pipeline.resampleEnabled = true)
    {frames : List (String × Frame)} (made : pipeline.framesOf pandas frame = .ok frames) :
    frames = [(pipeline.defaultTimeframe, frame)] := by
  obtain ⟨higher, resampled, returned⟩ := bind_ok made
  have none_kept : higher.filter (fun entry => decide (entry.2.rows ≠ [])) = [] := by
    apply List.filter_eq_nil_iff.mpr
    intro entry member
    obtain ⟨-, other, result⟩ := (mem_higher resampled).mp member
    rw [resample, if_neg (by simp [enabled, other]), usable.resampleAgg_eq] at result
    cases known : pandas.rule (ruleOf entry.1) with
    | error error =>
      rw [known] at result
      exact absurd result (by simp [Except.map, bind, Except.bind])
    | ok rule =>
      have empty := @complete_of_blank pandas _ blank rule
      rw [known] at result
      rw [← Except.ok.inj result, empty]
      simp
  rw [← Except.ok.inj returned, none_kept]

/-- A priced bar leaves a frame of every higher timeframe. -/
theorem framesOf_priced {frame : Frame} (usable : Usable frame) {row : Row}
    (member : row ∈ frame.rows) (priced : row.priced) (enabled : pipeline.resampleEnabled = true)
    {timeframe : String} (listed : timeframe ∈ pipeline.timeframes)
    (other : timeframe ≠ pipeline.defaultTimeframe) {frames : List (String × Frame)}
    (made : pipeline.framesOf pandas frame = .ok frames) :
    ∃ resampled, (timeframe, resampled) ∈ frames := by
  have resamples := usable.framesOf_ok_iff.mp ⟨frames, made⟩ timeframe listed
  obtain ⟨higher, computed, returned⟩ := bind_ok made
  obtain ⟨resampled, result⟩ := usable.resample_ok_iff.mpr resamples
  have entered : (timeframe, resampled) ∈ higher :=
    (mem_higher computed).mpr ⟨listed, other, result⟩
  rw [resample, if_neg (by simp [enabled, other]), usable.resampleAgg_eq] at result
  cases known : pandas.rule (ruleOf timeframe) with
  | error error =>
    rw [known] at result
    exact absurd result (by simp [Except.map, bind, Except.bind])
  | ok rule =>
    rw [known] at result
    refine ⟨resampled, ?_⟩
    rw [← Except.ok.inj returned]
    refine List.mem_cons_of_mem _ (List.mem_filter.mpr ⟨entered, decide_eq_true ?_⟩)
    rw [← Except.ok.inj result]
    exact complete_of_priced member priced rule

theorem blankHistory_rows : PriceHistory pandas blankHistory ∧
    blankHistory.sortedRows pandas = [blankRow.at 0] :=
  @history_of_rows pandas [(blankRow, 0)] (by simp [blankRow]) (by simp)

theorem pricedHistory_rows : PriceHistory pandas pricedHistory ∧
    pricedHistory.sortedRows pandas = [blankRow.at 0, pricedRow.at 1] :=
  @history_of_rows pandas [(blankRow, 0), (pricedRow, 1)] (by simp [blankRow, pricedRow]) (by simp)

theorem agree_blank : AgreeUpTo pandas 0 blankHistory pricedHistory :=
  @agree_of_later pandas 0 [(blankRow, 0)] [(pricedRow, 1)] (by simp [blankRow, pricedRow])
    (by simp)

/-- Only the default timeframe has columns in the matrix of the blank bar. -/
theorem blankHistory_row (enabled : pipeline.resampleEnabled = true)
    (accepted : ¬ pipeline.Rejected pandas) :
    ∃ row, rowAt (pipeline.uncached pandas completion blankHistory) 0 = some row ∧
      ∀ column, (row.get? column).isSome →
        ∃ featureAlias, columnName featureAlias pipeline.defaultTimeframe = column := by
  obtain ⟨history, sorted⟩ := @blankHistory_rows pandas
  let frame : Frame := ⟨blankHistory.columns, [blankRow.at 0]⟩
  have usable : Usable frame := ⟨List.cons_ne_nil _ _, history.priced⟩
  have resamples : ∀ timeframe ∈ pipeline.timeframes, pipeline.Resamples pandas timeframe := by
    intro timeframe listed
    by_contra refused
    exact accepted (.inl ⟨timeframe, listed, refused⟩)
  obtain ⟨frames, made⟩ := usable.framesOf_ok_iff.mpr resamples
  have baseOnly := framesOf_blank usable (by simp [frame, blankRow, RawRow.at]) enabled made
  have batched : ∃ batches, pipeline.computeIndicatorBatches pandas completion frames =
      .ok batches := by
    apply tryMap_ok_iff.mpr
    intro task member
    obtain ⟨registered, listed, used⟩ := mem_tasksOf_iff.mp ((runOrder_perm _).mem_iff.mp member)
    rw [baseOnly, List.mem_singleton] at listed
    rw [listed] at used ⊢
    rw [usable.computeIndicator_eq]
    cases outputs : indicatorOutputs pandas task.1 with
    | error error =>
      exact absurd (.inr ⟨task.1, registered, used, by simp [outputs]⟩) accepted
    | ok outputs => exact ⟨_, rfl⟩
  obtain ⟨batches, batched⟩ := batched
  obtain ⟨matrix, computed⟩ : ∃ matrix, pipeline.featureMatrix pandas completion frame =
      .ok matrix := by
    have required : frame.require ohlcv = .ok () := Frame.require_ok_iff.mpr usable.priced
    rw [featureMatrix, made]
    simp only [bind, Except.bind]
    rw [batched, required]
    exact ⟨_, rfl⟩
  have answered : rowAt (pipeline.uncached pandas completion blankHistory) 0 = matrix.row 0 := by
    rw [uncached_eq history, sorted, if_neg (List.cons_ne_nil _ _), computed]
    rfl
  obtain ⟨row, found⟩ : ∃ row, matrix.row 0 = some row := by
    rw [FeatureMatrix.row, featureMatrix_index computed]
    exact ⟨_, rfl⟩
  refine ⟨row, answered.trans found, ?_⟩
  intro column present
  rw [row_isSome found] at present
  obtain ⟨frames', batches', made', batched', columns⟩ := featureMatrix_columns computed
  obtain rfl := Except.ok.inj (made.symm.trans made')
  rcases (columns column).mp present with ⟨entry, -, named⟩ | ⟨output, listed, named⟩
  · exact ⟨entry.1, named⟩
  · obtain ⟨batch, inside, timeframe, -⟩ := mem_outputsOf_iff.mp listed
    obtain ⟨task, member, same, -⟩ := (mem_batches_iff batched').mp inside
    obtain ⟨-, listed, -⟩ := mem_tasksOf_iff.mp member
    rw [baseOnly, List.mem_singleton] at listed
    refine ⟨output.2.1, ?_⟩
    rw [← named, ← timeframe, ← same, listed]

/-- The priced bar adds a column of the higher timeframe, if the call returns. -/
theorem pricedHistory_row (enabled : pipeline.resampleEnabled = true)
    {indicator : IndicatorDefinition} (registered : indicator ∈ pipeline.indicators)
    {timeframe : String} (used : timeframe ∈ indicator.timeframes)
    (listed : timeframe ∈ pipeline.timeframes) (other : timeframe ≠ pipeline.defaultTimeframe)
    {row : Dict String (Option Cell)}
    (found : rowAt (pipeline.uncached pandas completion pricedHistory) 0 = some row) :
    ∃ featureAlias, (row.get? (columnName featureAlias timeframe)).isSome := by
  obtain ⟨history, sorted⟩ := @pricedHistory_rows pandas
  let frame : Frame := ⟨pricedHistory.columns, [blankRow.at 0, pricedRow.at 1]⟩
  have usable : Usable frame := ⟨List.cons_ne_nil _ _, history.priced⟩
  rw [uncached_eq history, sorted, if_neg (List.cons_ne_nil _ _)] at found
  cases computed : pipeline.featureMatrix pandas completion frame with
  | error error => rw [computed] at found; exact absurd found (by simp [rowAt, Except.toOption])
  | ok matrix =>
    rw [computed] at found
    obtain ⟨frames, batches, made, batched, columns⟩ := featureMatrix_columns computed
    obtain ⟨resampled, inFrames⟩ := framesOf_priced usable
      (List.mem_cons_of_mem _ (List.mem_singleton_self _)) (by decide) enabled listed other made
    have task := mem_tasksOf_iff.mpr ⟨registered, inFrames, used⟩
    obtain ⟨batch, done⟩ := tryMap_ok_iff.mp ⟨batches, batched⟩ _
      ((@runOrder_perm pipeline completion _ _).mem_iff.mpr task)
    cases result : computeIndicator pandas indicator resampled with
    | error error => rw [result] at done; exact absurd done (by simp [Except.map])
    | ok series =>
      have inBatches : (timeframe, series) ∈ batches :=
        (mem_batches_iff batched).mpr ⟨(indicator, timeframe, resampled), task, rfl, result⟩
      obtain ⟨output, inside⟩ := List.exists_mem_of_ne_nil _ (computeIndicator_entries result)
      refine ⟨output.1, ?_⟩
      rw [row_isSome found, columns]
      exact .inr ⟨(timeframe, output), mem_outputsOf_iff.mpr ⟨_, inBatches, rfl, inside⟩, rfl⟩

theorem not_noLookahead (higher : pipeline.UsesHigherTimeframe)
    (accepted : ¬ pipeline.Rejected pandas) : ¬ pipeline.NoLookahead pandas := by
  intro holds
  obtain ⟨enabled, indicator, registered, timeframe, used, listed, other⟩ := higher
  have same := holds .submitted "" blankHistory pricedHistory 0 blankHistory_rows.1
    pricedHistory_rows.1 agree_blank
  rw [computeFeatureMatrix_fresh, computeFeatureMatrix_fresh] at same
  obtain ⟨row, found, baseOnly⟩ := @blankHistory_row pipeline pandas .submitted enabled accepted
  obtain ⟨featureAlias, present⟩ := pricedHistory_row enabled registered used listed other
    (same.symm.trans found)
  obtain ⟨baseAlias, named⟩ := baseOnly _ present
  have resamples : pipeline.Resamples pandas timeframe := by
    by_contra refused
    exact accepted (.inl ⟨timeframe, listed, refused⟩)
  rcases resamples with disabled | base | ⟨rule, known⟩
  · exact absurd enabled (by simp [disabled])
  · exact other base
  · exact other (columnName_timeframe (timeframe_plain known) pipeline.defaultTimeframe_plain
      named.symm)

theorem noLookahead_iff (pipeline : FeaturePipeline) (pandas : Pandas) :
    pipeline.NoLookahead pandas ↔ ¬ pipeline.UsesHigherTimeframe ∨ pipeline.Rejected pandas := by
  constructor
  · intro holds
    by_contra fails
    obtain ⟨higher, accepted⟩ := not_or.mp fails
    exact not_noLookahead (not_not.mp higher) accepted holds
  · intro condition
    rcases condition with unresampled | rejected
    · exact noLookahead_of_unresampled unresampled
    · exact noLookahead_of_rejected rejected

def hourlyMean : IndicatorDefinition where
  identifier := "sma_20"
  timeframes := ["1h"]
  outputKeys := ⟨[("default", "sma_20")], by decide⟩
  parameters := [("window", .int 20)]

def hourlyPipeline : FeaturePipeline where
  indicators := [hourlyMean]
  timeframes := ["5m", "1h"]

/-- A bar with one price. -/
def flatRow (moment : Timestamp) (price : Rat) : RawRow where
  timestamp := .aware moment
  openPrice := some price
  high := some price
  low := some price
  close := some price
  volume := some 1

def midnightOnly : PriceFrame := ⟨.timestamp :: ohlcv, [flatRow 0 100]⟩

def untilHalfPast : PriceFrame := ⟨.timestamp :: ohlcv, [flatRow 0 100, flatRow 1800000000 110]⟩

def meanAt (priceDf : PriceFrame) (time : Timestamp) : Option (Option Cell) :=
  (rowAt (hourlyPipeline.computeFeatureMatrix .exact .submitted .fresh "USDJPY" priceDf).1
    time).bind (·.get? "sma_20_1h")

/-- At midnight the hourly mean is 100, or 110 once the bar of half past is there. -/
theorem hourly_mean_ahead_of_close :
    ¬ ∀ (pipeline : FeaturePipeline) pandas, pipeline.NoLookahead pandas := by
  intro holds
  have bars := @history_of_rows .exact [(flatRow 0 100, 0)] (by simp [flatRow]) (by simp)
  have more := @history_of_rows .exact [(flatRow 0 100, 0), (flatRow 1800000000 110, 1800000000)]
    (by simp [flatRow]) (by simp)
  have same := holds hourlyPipeline .exact .submitted "USDJPY" midnightOnly untilHalfPast 0 bars.1
    more.1 (@agree_of_later .exact 0 [(flatRow 0 100, 0)]
      [(flatRow 1800000000 110, 1800000000)] (by simp [flatRow]) (by simp))
  have means : meanAt midnightOnly 0 = meanAt untilHalfPast 0 := by rw [meanAt, same, ← meanAt]
  exact absurd means (by decide +kernel)

end FeaturePipeline

end FxToushi.Features
