import FxToushi.Data.Batches
import FxToushi.Data.Runs
import FxToushi.Features.Lookahead
import FxToushi.Features.Registration
import FxToushi.Features.Update
import Mathlib.Data.List.Pairwise

namespace FxToushi.Features

open Data Py

/-! # Parallel and sequential indicators

The pool hands over the outputs in the order in which its tasks finish.  A matrix
is compared by its index and by the cells under each column label, the stored
values by symbol, timeframe and key: the order of columns and keys is not part of
either.
-/

/-! ## Views -/

/-- The index of a matrix and the cells under each label. -/
def FeatureMatrix.seen (matrix : FeatureMatrix) :
    List Timestamp × (String → Option (List (Option Cell))) :=
  (matrix.index, matrix.columns.seen id)

/-- The values under each timeframe and key. -/
def slotsSeen (slots : Slots) : String → Option (String → Option (Option Cell)) :=
  slots.seen (Dict.seen id)

namespace PipelineState

def storeSeen (state : PipelineState) :
    String → Option (String → Option (String → Option (Option Cell))) :=
  state.store.seen slotsSeen

/-- The states hold the same matrices, symbols and values. -/
structure Same (state other : PipelineState) : Prop where
  cache : state.cache.seen FeatureMatrix.seen = other.cache.seen FeatureMatrix.seen
  symbols : state.symbols = other.symbols
  store : state.storeSeen = other.storeSeen

theorem Same.refreshContextSymbols {state other : PipelineState} (same : state.Same other)
    (symbols : List String) :
    (state.refreshContextSymbols symbols).Same (other.refreshContextSymbols symbols) where
  cache := same.cache
  symbols := congrArg (· ∪ _) same.symbols
  store := same.store

end PipelineState

def SameMatrix (matrix other : FeatureMatrix) : Prop := matrix.seen = other.seen

/-! ## Who writes what -/

namespace IndicatorDefinition

/-- The two write one output key on one timeframe. -/
def SharesOutput (first second : IndicatorDefinition) : Prop :=
  (∃ timeframe ∈ first.timeframes, timeframe ∈ second.timeframes) ∧
    ∃ key ∈ first.writtenKeys, key ∈ second.writtenKeys

instance (first second : IndicatorDefinition) : Decidable (first.SharesOutput second) :=
  inferInstanceAs (Decidable (_ ∧ _))

theorem SharesOutput.symm {first second : IndicatorDefinition}
    (shares : first.SharesOutput second) : second.SharesOutput first := by
  obtain ⟨⟨timeframe, listed, otherListed⟩, key, written, otherWritten⟩ := shares
  exact ⟨⟨timeframe, otherListed, listed⟩, key, otherWritten, written⟩

instance : Std.Symm (fun first second : IndicatorDefinition => ¬ first.SharesOutput second) :=
  ⟨fun _ _ unshared shares => unshared shares.symm⟩

end IndicatorDefinition

namespace FeaturePipeline

variable (pipeline : FeaturePipeline)

/-- The timeframes `compute_feature_matrix` may have frames for. -/
def frameNames : List String := pipeline.defaultTimeframe :: pipeline.timeframes

/-- Without resampling every timeframe has a frame, whatever its name, and then the
two may write one column label under different timeframes. -/
def MixesColumns (first second : IndicatorDefinition) : Prop :=
  pipeline.resampleEnabled = false ∧
    ∃ timeframe ∈ first.timeframes, ∃ other ∈ second.timeframes,
      timeframe ∈ pipeline.frameNames ∧ other ∈ pipeline.frameNames ∧ timeframe ≠ other ∧
        ∃ key ∈ first.writtenKeys, ∃ otherKey ∈ second.writtenKeys,
          columnName key timeframe = columnName otherKey other

instance (first second : IndicatorDefinition) : Decidable (pipeline.MixesColumns first second) :=
  inferInstanceAs (Decidable (_ ∧ _))

variable {pipeline} in
theorem MixesColumns.symm {first second : IndicatorDefinition}
    (mixes : pipeline.MixesColumns first second) : pipeline.MixesColumns second first := by
  obtain ⟨disabled, timeframe, used, other, otherUsed, named, otherNamed, differ, key, written,
    otherKey, otherWritten, same⟩ := mixes
  exact ⟨disabled, other, otherUsed, timeframe, used, otherNamed, named, differ.symm, otherKey,
    otherWritten, key, written, same.symm⟩

/-- No output is written twice. -/
structure WritesOnce : Prop where
  unshared : pipeline.indicators.Pairwise (fun first second => ¬ first.SharesOutput second)
  unmixed : ∀ first ∈ pipeline.indicators, ∀ second ∈ pipeline.indicators,
    ¬ pipeline.MixesColumns first second

/-- The pipeline with `max_workers = 1`. -/
def oneWorker : FeaturePipeline := { pipeline with maxWorkers := 1 }

variable {pipeline} {pandas : Pandas} {completion : Completion} {frames : List (String × Frame)}
  {batches : List (String × Dict String Series)}

theorem mem_writtenKeys {indicator : IndicatorDefinition} {frame : Frame}
    {outputs : Dict String Series} {entry : String × Series}
    (computed : computeIndicator pandas indicator frame = .ok outputs)
    (listed : entry ∈ outputs.entries) : entry.1 ∈ indicator.writtenKeys := by
  obtain ⟨-, -, computed⟩ := bind_ok computed
  obtain ⟨columns, written, computed⟩ := bind_ok computed
  obtain rfl := Except.ok.inj computed
  obtain ⟨column, held, rfl⟩ := List.mem_map.mp listed
  exact IndicatorDefinition.within_writtenKeys written column held

theorem exists_task (batched : pipeline.computeIndicatorBatches pandas completion frames =
      .ok batches) {output : String × String × Series} (listed : output ∈ outputsOf batches) :
    ∃ indicator ∈ pipeline.indicators, ∃ frame, (output.1, frame) ∈ frames ∧
      output.1 ∈ indicator.timeframes ∧ output.2.1 ∈ indicator.writtenKeys ∧
        ∃ outputs, computeIndicator pandas indicator frame = .ok outputs ∧
          output.2 ∈ outputs.entries := by
  obtain ⟨batch, found, named, inside⟩ := mem_outputsOf_iff.mp listed
  obtain ⟨⟨indicator, timeframe, frame⟩, tasked, same, computed⟩ :=
    (mem_batches_iff batched).mp found
  obtain ⟨registered, framed, used⟩ := mem_tasksOf_iff.mp tasked
  obtain rfl : timeframe = output.1 := same.trans named
  exact ⟨indicator, registered, frame, framed, used, mem_writtenKeys computed inside, batch.2,
    computed, inside⟩

/-- Outputs under one key of one timeframe are one output. -/
theorem WritesOnce.output_unique (once : pipeline.WritesOnce)
    (distinct : (frames.map Prod.fst).Nodup)
    (batched : pipeline.computeIndicatorBatches pandas completion frames = .ok batches)
    {first second : String × String × Series} (listed : first ∈ outputsOf batches)
    (otherListed : second ∈ outputsOf batches) (sameTimeframe : first.1 = second.1)
    (sameKey : first.2.1 = second.2.1) : first = second := by
  obtain ⟨indicator, registered, frame, framed, used, written, outputs, computed, inside⟩ :=
    exists_task batched listed
  obtain ⟨other, otherRegistered, otherFrame, otherFramed, otherUsed, otherWritten, otherOutputs,
    otherComputed, otherInside⟩ := exists_task batched otherListed
  have one : indicator = other := by
    by_contra differ
    exact once.unshared.forall registered otherRegistered differ
      ⟨⟨first.1, used, sameTimeframe ▸ otherUsed⟩, first.2.1, written, sameKey ▸ otherWritten⟩
  subst one
  have sameFrame : frame = otherFrame := by
    rw [← sameTimeframe] at otherFramed
    exact Option.some.inj (((Dict.lookup_eq_some_iff distinct).mpr framed).symm.trans
      ((Dict.lookup_eq_some_iff distinct).mpr otherFramed))
  subst sameFrame
  obtain rfl := Except.ok.inj (computed.symm.trans otherComputed)
  have sameSeries : first.2.2 = second.2.2 := by
    have found := (Dict.get?_eq_some_iff outputs).mpr inside
    have otherFound := (Dict.get?_eq_some_iff outputs).mpr otherInside
    rw [← sameKey] at otherFound
    exact Option.some.inj (found.symm.trans otherFound)
  exact Prod.ext sameTimeframe (Prod.ext sameKey sameSeries)

/-! ## The frames of a matrix -/

theorem framesOf_distinct {frame : Frame} (made : pipeline.framesOf pandas frame = .ok frames) :
    (frames.map Prod.fst).Nodup := by
  obtain ⟨higher, resampled, made⟩ := bind_ok made
  obtain rfl := Except.ok.inj made
  have names := @map_of_tryMap _ _ _ _ _ _ _ Prod.fst id (by
    intro timeframe entry mapped
    cases result : pipeline.resample pandas frame timeframe with
    | error error => rw [result] at mapped; cases mapped
    | ok frame =>
      rw [result] at mapped
      obtain rfl := Except.ok.inj mapped
      rfl) resampled
  have kept : (higher.map Prod.fst).Nodup := by
    rw [names, List.map_id]
    exact pipeline.timeframesDistinct.filter _
  refine List.nodup_cons.mpr ⟨?_, kept.sublist (List.filter_sublist.map _)⟩
  intro listed
  obtain ⟨entry, found, named⟩ := List.mem_map.mp listed
  exact ((mem_higher resampled).mp (List.mem_filter.mp found).1).2.1 named

theorem framesOf_names {frame : Frame} (made : pipeline.framesOf pandas frame = .ok frames)
    {entry : String × Frame} (listed : entry ∈ frames) :
    entry.1 ∈ pipeline.frameNames ∧ (pipeline.resampleEnabled = true → '_' ∉ entry.1.toList) := by
  obtain ⟨higher, resampled, made⟩ := bind_ok made
  obtain rfl := Except.ok.inj made
  rcases List.mem_cons.mp listed with rfl | listed
  · exact ⟨List.mem_cons_self, fun _ => defaultTimeframe_plain pipeline⟩
  · obtain ⟨configured, higherNamed, result⟩ :=
      (mem_higher resampled).mp (List.mem_filter.mp listed).1
    refine ⟨List.mem_cons_of_mem _ configured, ?_⟩
    intro enabled
    have base : ¬ (pipeline.resampleEnabled = false ∨ entry.1 = pipeline.defaultTimeframe) := by
      simp [enabled, higherNamed]
    unfold resample at result
    rw [if_neg base] at result
    obtain ⟨rows, aggregated, -⟩ := bind_ok result
    obtain ⟨rule, known, -⟩ := bind_ok aggregated
    exact timeframe_plain known

/-- Outputs under one column label are one output. -/
theorem WritesOnce.column_unique (once : pipeline.WritesOnce) {frame : Frame}
    (made : pipeline.framesOf pandas frame = .ok frames)
    (batched : pipeline.computeIndicatorBatches pandas completion frames = .ok batches)
    {first second : String × String × Series} (listed : first ∈ outputsOf batches)
    (otherListed : second ∈ outputsOf batches)
    (sameColumn : columnName first.2.1 first.1 = columnName second.2.1 second.1) :
    first = second := by
  obtain ⟨indicator, registered, frameOf, framed, used, written, -⟩ := exists_task batched listed
  obtain ⟨other, otherRegistered, otherFrame, otherFramed, otherUsed, otherWritten, -⟩ :=
    exists_task batched otherListed
  obtain ⟨named, plain⟩ := framesOf_names made framed
  obtain ⟨otherNamed, otherPlain⟩ := framesOf_names made otherFramed
  have sameTimeframe : first.1 = second.1 := by
    cases enabled : pipeline.resampleEnabled with
    | true => exact columnName_timeframe (plain enabled) (otherPlain enabled) sameColumn
    | false =>
      by_contra differ
      exact once.unmixed indicator registered other otherRegistered
        ⟨enabled, first.1, used, second.1, otherUsed, named, otherNamed, differ, first.2.1,
          written, second.2.1, otherWritten, sameColumn⟩
  have sameKey : first.2.1 = second.2.1 := by
    rw [sameTimeframe] at sameColumn
    simpa [columnName] using sameColumn
  exact once.output_unique (framesOf_distinct made) batched listed otherListed sameTimeframe sameKey

/-! ## Batches in any order -/

variable (pipeline pandas) in
theorem batches_inStep (completion other : Completion) (frames : List (String × Frame)) :
    InStep List.Perm (pipeline.computeIndicatorBatches pandas completion frames)
      (pipeline.oneWorker.computeIndicatorBatches pandas other frames) :=
  tryMap_inStep _ ((runOrder_perm _).trans (@runOrder_perm pipeline.oneWorker _ _ _).symm)

theorem outputsOf_perm {Value : Type} {batches others : List (String × Dict String Value)}
    (perm : batches.Perm others) : (outputsOf batches).Perm (outputsOf others) :=
  perm.flatMap_right _

variable (pandas) in
/-- The matrix of a frame is the one computed by one worker. -/
theorem WritesOnce.featureMatrix (once : pipeline.WritesOnce) (completion other : Completion)
    (frame : Frame) :
    InStep SameMatrix (pipeline.featureMatrix pandas completion frame)
      (pipeline.oneWorker.featureMatrix pandas other frame) := by
  apply (InStep.of_eq (pipeline.framesOf pandas frame)).bind
  rintro frames _ made rfl
  apply (batches_inStep pipeline pandas completion other frames).bind
  intro batches sequential batched perm
  apply (InStep.of_eq (frame.require ohlcv)).bind
  intro _ _ _ _
  have columns : (pipeline.featureColumns frame.index batches).seen id =
      (pipeline.featureColumns frame.index sequential).seen id :=
    Dict.seen_setAll_perm (outputsOf_perm perm)
      (fun first listed second otherListed sameColumn => by
        rw [once.column_unique made batched listed otherListed sameColumn]) id _
  refine .returns (Prod.ext rfl ?_)
  change Dict.seen id (Dict.mapValues _ _) = Dict.seen id (Dict.mapValues _ _)
  rw [Dict.seen_mapValues, Dict.seen_mapValues]
  exact Dict.seen_comp (Dict.seen_setAll_congr columns _) _

variable {state sequentialState : PipelineState}

theorem computeFeatureMatrix_of_absent {symbol : String} {priceDf : PriceFrame} {frame : Frame}
    (bars : priceDf.isEmpty = false)
    (absent : state.cache.get? (pipeline.cacheKey (upper symbol)) = none)
    (framed : baseFrame pandas priceDf = .ok frame) (rows : frame.rows ≠ []) :
    pipeline.computeFeatureMatrix pandas completion state symbol priceDf =
      match pipeline.featureMatrix pandas completion frame with
      | .error error => (.error error, state)
      | .ok matrix =>
        (.ok matrix, { state with
          cache := state.cache.set (pipeline.cacheKey (upper symbol)) matrix
          }.refreshContextSymbols [upper symbol]) := by
  cases made : pipeline.featureMatrix pandas completion frame <;>
    simp only [computeFeatureMatrix, bars, absent, framed, if_neg rows, made, Bool.false_eq_true,
      if_false]

theorem computeFeatureMatrix_of_cached {symbol : String} {priceDf : PriceFrame}
    {matrix : FeatureMatrix} (bars : priceDf.isEmpty = false)
    (found : state.cache.get? (pipeline.cacheKey (upper symbol)) = some matrix) :
    pipeline.computeFeatureMatrix pandas completion state symbol priceDf =
      (.ok matrix, state.refreshContextSymbols [upper symbol]) := by
  simp only [computeFeatureMatrix, bars, found, Bool.false_eq_true, if_false]

variable (pandas) in
/-- `compute_feature_matrix` is the one with one worker, from the same cache. -/
theorem WritesOnce.computeFeatureMatrix (once : pipeline.WritesOnce)
    (same : state.Same sequentialState) (completion other : Completion) (symbol : String)
    (priceDf : PriceFrame) :
    let parallel := pipeline.computeFeatureMatrix pandas completion state symbol priceDf
    let sequential :=
      pipeline.oneWorker.computeFeatureMatrix pandas other sequentialState symbol priceDf
    InStep SameMatrix parallel.1 sequential.1 ∧ parallel.2.Same sequential.2 := by
  intro parallel sequential
  unfold parallel sequential
  have cached : (state.cache.get? (pipeline.cacheKey (upper symbol))).map FeatureMatrix.seen =
      (sequentialState.cache.get? (pipeline.oneWorker.cacheKey (upper symbol))).map
        FeatureMatrix.seen := congrFun same.cache (pipeline.cacheKey (upper symbol))
  cases bars : priceDf.isEmpty with
  | true =>
    simp only [FeaturePipeline.computeFeatureMatrix, bars, if_true]
    exact ⟨.returns rfl, same⟩
  | false =>
    cases found : state.cache.get? (pipeline.cacheKey (upper symbol)) with
    | some matrix =>
      rw [found] at cached
      obtain ⟨otherMatrix, otherFound, seen⟩ := Option.map_eq_some_iff.mp cached.symm
      rw [computeFeatureMatrix_of_cached bars found,
        computeFeatureMatrix_of_cached bars otherFound]
      exact ⟨.returns seen.symm, same.refreshContextSymbols _⟩
    | none =>
      rw [found] at cached
      have absent := Option.map_eq_none_iff.mp cached.symm
      cases framed : baseFrame pandas priceDf with
      | error error =>
        simp only [FeaturePipeline.computeFeatureMatrix, bars, found, absent, framed,
          Bool.false_eq_true, if_false]
        exact ⟨.fails error error, same⟩
      | ok frame =>
        by_cases rows : frame.rows = []
        · simp only [FeaturePipeline.computeFeatureMatrix, bars, found, absent, framed,
            if_pos rows, Bool.false_eq_true, if_false]
          exact ⟨.returns rfl, same⟩
        · rw [computeFeatureMatrix_of_absent bars found framed rows,
            computeFeatureMatrix_of_absent bars absent framed rows]
          have inStep := once.featureMatrix pandas completion other frame
          generalize pipeline.featureMatrix pandas completion frame = parallel at inStep ⊢
          generalize pipeline.oneWorker.featureMatrix pandas other frame = sequential
            at inStep ⊢
          cases inStep with
          | fails error failure => exact ⟨.fails error failure, same⟩
          | returns sameMatrix =>
            refine ⟨.returns sameMatrix, PipelineState.Same.refreshContextSymbols ?_ _⟩
            refine ⟨?_, same.symbols, same.store⟩
            rw [Dict.seen_set, Dict.seen_set, same.cache, sameMatrix]
            rfl

/-! ## Stored values -/

/-- Storing an output, as the view sees it. -/
def storeSeenOutput (view : String → Option (String → Option (Option Cell)))
    (output : String × String × Series) : String → Option (String → Option (Option Cell)) :=
  match lastValid output.2.2 with
  | none => view
  | some value =>
    amendAt output.1 (fun _ => none)
      (fun slot => Function.update slot (columnName output.2.1 output.1) (some (some value))) view

theorem slotsSeen_storeOutput (slots : Slots) (output : String × String × Series) :
    slotsSeen (storeOutput slots output) = storeSeenOutput (slotsSeen slots) output := by
  unfold storeOutput storeSeenOutput
  cases lastValid output.2.2 with
  | none => rfl
  | some value => exact Dict.seen_amend (fun slot => Dict.seen_set id slot _ _) slots _ _

/-- Outputs under different keys can be stored in either order. -/
theorem storeSeenOutput_comm {first second : String × String × Series}
    (unique : first.1 = second.1 → first.2.1 = second.2.1 → first = second)
    (view : String → Option (String → Option (Option Cell))) :
    storeSeenOutput (storeSeenOutput view first) second =
      storeSeenOutput (storeSeenOutput view second) first := by
  by_cases one : first = second
  · rw [one]
  unfold storeSeenOutput
  cases lastValid first.2.2 with
  | none => rfl
  | some value =>
    cases lastValid second.2.2 with
    | none => rfl
    | some other =>
      by_cases sameTimeframe : first.1 = second.1
      · have apart : columnName first.2.1 first.1 ≠ columnName second.2.1 first.1 := by
          simpa [columnName] using fun sameKey => one (unique sameTimeframe sameKey)
        simp only [← sameTimeframe, amendAt_amendAt, Function.update_comm apart]
      · exact amendAt_comm sameTimeframe _ _ _ view

theorem slotsSeen_storeOutputs {outputs others : List (String × String × Series)}
    (perm : outputs.Perm others)
    (unique : ∀ first ∈ outputs, ∀ second ∈ outputs, first.1 = second.1 →
      first.2.1 = second.2.1 → first = second)
    {slots sequentialSlots : Slots} (same : slotsSeen slots = slotsSeen sequentialSlots) :
    slotsSeen (storeOutputs outputs slots) = slotsSeen (storeOutputs others sequentialSlots) := by
  unfold storeOutputs
  rw [← List.foldl_hom slotsSeen (fun slots output => (slotsSeen_storeOutput slots output).symm),
    ← List.foldl_hom slotsSeen (fun slots output => (slotsSeen_storeOutput slots output).symm),
    same]
  apply perm.foldl_eq'
  intro first listed second otherListed view
  exact storeSeenOutput_comm (unique first listed second otherListed) view

theorem storePrices_seen (entry : String × Frame) {slot other : Dict String (Option Cell)}
    (same : slot.seen id = other.seen id) :
    (pipeline.storePrices entry slot).seen id = (pipeline.storePrices entry other).seen id := by
  unfold storePrices
  split
  · cases entry.2.rows.getLast? with
    | none => exact same
    | some latest => exact Dict.seen_setAll_congr same _
  · exact same

variable (pipeline) in
theorem slotsSeen_openSlots (frames : List (String × Frame)) {slots sequentialSlots : Slots}
    (same : slotsSeen slots = slotsSeen sequentialSlots) :
    slotsSeen (pipeline.openSlots frames slots) =
      slotsSeen (pipeline.openSlots frames sequentialSlots) :=
  List.foldl_rel (r := fun slots other => slotsSeen slots = slotsSeen other) same
    fun entry _ _ _ alike => by
      have kept : ∀ slot other : Dict String (Option Cell), slot.seen id = other.seen id →
          (pipeline.storePrices entry slot).seen id = (pipeline.storePrices entry other).seen id :=
        fun _ _ => storePrices_seen entry
      exact Dict.seen_amend_congr kept alike _ _

theorem resampledTimeframes_names :
    (pipeline.resampledTimeframes.map Prod.fst).Nodup ∧
      pipeline.defaultTimeframe ∉ pipeline.resampledTimeframes.map Prod.fst := by
  have names : (pipeline.resampledTimeframes.map Prod.fst).Sublist
      (pipeline.timeframes.filter
        (fun timeframe => decide (timeframe ≠ pipeline.defaultTimeframe))) := by
    unfold resampledTimeframes
    generalize pipeline.timeframes.filter _ = timeframes
    induction timeframes with
    | nil => exact .slnil
    | cons timeframe rest ih =>
      cases rule : timeframeRules.get? timeframe with
      | none =>
        rw [List.filterMap_cons_none (by rw [rule]; rfl)]
        exact ih.cons _
      | some interval =>
        rw [List.filterMap_cons_some (b := (timeframe, interval)) (by rw [rule]; rfl)]
        exact ih.cons_cons _
  constructor
  · exact (pipeline.timeframesDistinct.filter _).sublist names
  · intro listed
    simpa using (List.mem_filter.mp (names.subset listed)).2

theorem resampleFrames_names {frame : Frame} {resampled : List (String × Frame)}
    (made : pipeline.resampleFrames pandas frame = .ok resampled) :
    (resampled.map Prod.fst).Nodup ∧ pipeline.defaultTimeframe ∉ resampled.map Prod.fst := by
  unfold resampleFrames at made
  split at made
  · obtain rfl := Except.ok.inj made
    exact ⟨List.nodup_nil, List.not_mem_nil⟩
  · obtain ⟨every, mapped, made⟩ := bind_ok made
    obtain rfl := Except.ok.inj made
    have names := @map_of_tryMap _ _ _ _ _ _ _ Prod.fst Prod.fst (by
      intro entry image mapped
      cases result : resampleAgg pandas entry.2 frame with
      | error error => rw [result] at mapped; cases mapped
      | ok rows =>
        rw [result] at mapped
        obtain rfl := Except.ok.inj mapped
        rfl) mapped
    obtain ⟨distinct, higher⟩ := @resampledTimeframes_names pipeline
    rw [← names] at distinct higher
    have kept : ((every.filter fun entry => decide (entry.2.rows ≠ [])).map Prod.fst).Sublist
        (every.map Prod.fst) := List.filter_sublist.map _
    exact ⟨distinct.sublist kept, fun listed => higher (kept.subset listed)⟩

theorem updateFrames_names {timeframe : String} {frame : Frame}
    (made : pipeline.updateFrames pandas timeframe frame = .ok frames) :
    (frames.map Prod.fst).Nodup := by
  unfold updateFrames at made
  split at made
  · rename_i base
    subst base
    cases made' : pipeline.resampleFrames pandas frame with
    | error error => rw [made'] at made; cases made
    | ok resampled =>
      rw [made'] at made
      obtain rfl := Except.ok.inj made
      obtain ⟨distinct, higher⟩ := resampleFrames_names made'
      exact List.nodup_cons.mpr ⟨higher, distinct⟩
  · obtain rfl := Except.ok.inj made
    exact List.nodup_singleton _

end FeaturePipeline

theorem PipelineState.Same.amendSymbol {state other : PipelineState} (same : state.Same other)
    (symbol : String) {change otherChange : Slots → Slots}
    (alike : ∀ slots otherSlots, slotsSeen slots = slotsSeen otherSlots →
      slotsSeen (change slots) = slotsSeen (otherChange otherSlots)) :
    (state.amendSymbol symbol change).Same (other.amendSymbol symbol otherChange) := by
  exact ⟨same.cache, same.symbols, Dict.seen_amend_congr alike same.store symbol .empty⟩

namespace FeaturePipeline

variable {pipeline : FeaturePipeline} {pandas : Pandas} {state sequentialState : PipelineState}

variable (pandas)

theorem WritesOnce.storeFrame (once : pipeline.WritesOnce) (same : state.Same sequentialState)
    (completion other : Completion) (symbol timeframe : String) (frame : Frame) :
    let parallel := pipeline.storeFrame pandas completion state symbol timeframe frame
    let sequential :=
      pipeline.oneWorker.storeFrame pandas other sequentialState symbol timeframe frame
    InStep Eq parallel.1 sequential.1 ∧ parallel.2.Same sequential.2 := by
  intro parallel sequential
  unfold parallel sequential
  have sameFrames : pipeline.oneWorker.updateFrames pandas timeframe frame =
      pipeline.updateFrames pandas timeframe frame := rfl
  unfold FeaturePipeline.storeFrame
  rw [sameFrames]
  cases made : pipeline.updateFrames pandas timeframe frame with
  | error error => exact ⟨.fails error error, same⟩
  | ok frames =>
    have opened := same.amendSymbol symbol
      (fun _ _ alike => slotsSeen_openSlots pipeline frames alike)
    have inStep := batches_inStep pipeline pandas completion other frames
    cases batched : pipeline.computeIndicatorBatches pandas completion frames with
    | error error =>
      rw [batched] at inStep
      cases sequential : pipeline.oneWorker.computeIndicatorBatches pandas other frames with
      | error failure =>
        simp only [batched, sequential]
        exact ⟨.fails error failure, opened⟩
      | ok others =>
        rw [sequential] at inStep
        cases inStep
    | ok batches =>
      rw [batched] at inStep
      cases sequential : pipeline.oneWorker.computeIndicatorBatches pandas other frames with
      | error failure =>
        rw [sequential] at inStep
        cases inStep
      | ok others =>
        rw [sequential] at inStep
        simp only [batched, sequential]
        refine ⟨.returns rfl, opened.amendSymbol symbol fun slots otherSlots alike => ?_⟩
        exact slotsSeen_storeOutputs (outputsOf_perm inStep.value)
          (fun first listed second otherListed sameTimeframe sameKey =>
            once.output_unique (updateFrames_names made) batched listed otherListed
              sameTimeframe sameKey) alike

theorem finishUpdate_inStep {parallel sequential : Except FeatureError Unit × PipelineState}
    (results : InStep Eq parallel.1 sequential.1) (states : parallel.2.Same sequential.2)
    (marketFrame : Option MarketBars) (symbols : List String) :
    InStep Eq (finishUpdate parallel marketFrame symbols).1
        (finishUpdate sequential marketFrame symbols).1 ∧
      (finishUpdate parallel marketFrame symbols).2.Same
        (finishUpdate sequential marketFrame symbols).2 := by
  obtain ⟨result, after⟩ := parallel
  obtain ⟨sequentialResult, sequentialAfter⟩ := sequential
  cases results with
  | returns same =>
    exact ⟨.returns rfl, states.cache, congrArg (· ∪ _) states.symbols, states.store⟩
  | fails error failure => exact ⟨.fails error failure, states⟩

/-- `update` stores what it stores with one worker. -/
theorem WritesOnce.update (once : pipeline.WritesOnce) (same : state.Same sequentialState)
    (completion other : Completion) (marketFrame : Option MarketBars) (symbols : List String) :
    let parallel := pipeline.update pandas completion state marketFrame symbols
    let sequential := pipeline.oneWorker.update pandas other sequentialState marketFrame symbols
    InStep Eq parallel.1 sequential.1 ∧ parallel.2.Same sequential.2 := by
  cases marketFrame with
  | none => exact finishUpdate_inStep (.returns rfl) same none symbols
  | some frame =>
    have stored : InStep Eq
          (pipeline.updateFromMarketFrame pandas completion state frame).1
          (pipeline.oneWorker.updateFromMarketFrame pandas other sequentialState frame).1 ∧
        (pipeline.updateFromMarketFrame pandas completion state frame).2.Same
          (pipeline.oneWorker.updateFromMarketFrame pandas other sequentialState frame).2 := by
      have sameFrame : pipeline.oneWorker.barsToFrame pandas frame.bars =
          pipeline.barsToFrame pandas frame.bars := rfl
      unfold updateFromMarketFrame
      rw [sameFrame]
      split
      · exact ⟨.returns rfl, same⟩
      · exact once.storeFrame pandas same completion other _ _ _
    exact finishUpdate_inStep stored.1 stored.2 (some frame) symbols

end FeaturePipeline

/-! ## Runs -/

inductive PipelineCall where
  | register (indicator : IndicatorDefinition)
  | matrix (symbol : String) (priceDf : PriceFrame)
  | update (marketFrame : Option MarketBars) (symbols : List String)

inductive PipelineAnswer where
  | registered (result : Except FeatureError Unit)
  | matrix (result : Except FeatureError FeatureMatrix)
  | updated (result : Except FeatureError Unit)

/-- A call raises in both runs, or returns the same in both. -/
def PipelineAnswer.Same : PipelineAnswer → PipelineAnswer → Prop
  | .registered result, .registered other => result = other
  | .matrix result, .matrix other => InStep SameMatrix result other
  | .updated result, .updated other => InStep Eq result other
  | _, _ => False

namespace LivePipeline

/-- A call whose tasks finish in the given order. -/
def serve (pandas : Pandas) (live : LivePipeline) (completion : Completion) :
    PipelineCall → PipelineAnswer × LivePipeline
  | .register indicator =>
    match live.registerIndicator indicator with
    | .error error => (.registered (.error error), live)
    | .ok registered => (.registered (.ok ()), registered)
  | .matrix symbol priceDf =>
    let result := live.pipeline.computeFeatureMatrix pandas completion live.state symbol priceDf
    (.matrix result.1, { live with state := result.2 })
  | .update marketFrame symbols =>
    let result := live.pipeline.update pandas completion live.state marketFrame symbols
    (.updated result.1, { live with state := result.2 })

variable {pandas : Pandas} {live : LivePipeline} {completion : Completion}
  {indicator : IndicatorDefinition}

theorem serve_register_of_known (known : indicator.identifier ∈
      live.pipeline.indicators.map IndicatorDefinition.identifier) :
    live.serve pandas completion (.register indicator) = (.registered (.error
      (.valueError s!"Indicator '{indicator.identifier}' already registered")), live) := by
  simp only [serve, registerIndicator, if_pos known]

theorem serve_register_of_new (fresh : indicator.identifier ∉
      live.pipeline.indicators.map IndicatorDefinition.identifier) :
    live.serve pandas completion (.register indicator) = (.registered (.ok ()),
      { live with
        pipeline := { live.pipeline with indicators := live.pipeline.indicators ++ [indicator] }
        availableKeys := live.availableKeys ∪ indicator.expandedFeatureKeys }) := by
  simp only [serve, registerIndicator, if_neg fresh]

end LivePipeline

/-- A pipeline and its twin with one worker, and what they answered. -/
structure Twins where
  parallel : LivePipeline
  sequential : LivePipeline
  answers : List (PipelineAnswer × PipelineAnswer)

namespace Twins

def start (pipeline : FeaturePipeline) : Twins where
  parallel := .fresh pipeline
  sequential := .fresh pipeline.oneWorker
  answers := []

/-- Both get the call; the pool of the first finishes its tasks in the given order. -/
def step (pandas : Pandas) (twins : Twins) (request : Completion × PipelineCall) : Twins :=
  let parallel := twins.parallel.serve pandas request.1 request.2
  let sequential := twins.sequential.serve pandas .submitted request.2
  { parallel := parallel.2
    sequential := sequential.2
    answers := twins.answers ++ [(parallel.1, sequential.1)] }

/-- No registered indicators write one output key on one timeframe, every matrix was
the one of the twin, and so are the stored values. -/
structure LikeSequential (twins : Twins) : Prop where
  unshared : twins.parallel.pipeline.indicators.Pairwise
    (fun first second => ¬ first.SharesOutput second)
  answers : ∀ pair ∈ twins.answers, pair.1.Same pair.2
  stored : twins.parallel.state.storeSeen = twins.sequential.state.storeSeen

/-- An indicator under a new identifier writes nothing that is written already. -/
def AddsOutputs (twins : Twins) (request : Completion × PipelineCall) : Prop :=
  match request.2 with
  | .register indicator =>
    indicator.identifier ∉
        twins.parallel.pipeline.indicators.map IndicatorDefinition.identifier →
      (∀ other ∈ twins.parallel.pipeline.indicators, ¬ other.SharesOutput indicator) ∧
        ∀ other ∈ indicator :: twins.parallel.pipeline.indicators,
          ¬ twins.parallel.pipeline.MixesColumns indicator other
  | .matrix _ _ => True
  | .update _ _ => True

instance (twins : Twins) (request : Completion × PipelineCall) :
    Decidable (AddsOutputs twins request) :=
  match request with
  | (_, .register _) => inferInstanceAs (Decidable (_ → _))
  | (_, .matrix _ _) => .isTrue trivial
  | (_, .update _ _) => .isTrue trivial

/-- The twins differ in their workers only. -/
structure Paired (twins : Twins) : Prop where
  once : twins.parallel.pipeline.WritesOnce
  worker : twins.sequential.pipeline = twins.parallel.pipeline.oneWorker
  keys : twins.sequential.availableKeys = twins.parallel.availableKeys
  state : twins.parallel.state.Same twins.sequential.state
  answers : ∀ pair ∈ twins.answers, pair.1.Same pair.2

variable {pandas : Pandas} {twins : Twins}

theorem Paired.likeSequential (paired : Paired twins) : LikeSequential twins :=
  ⟨paired.once.unshared, paired.answers, paired.state.store⟩

theorem paired_start (pipeline : FeaturePipeline) : Paired (start pipeline) where
  once := ⟨.nil, fun _ registered => nomatch registered⟩
  worker := rfl
  keys := rfl
  state := ⟨rfl, rfl, rfl⟩
  answers _ answered := nomatch answered

theorem Paired.answered {parallel sequential : PipelineAnswer} (paired : Paired twins)
    (same : parallel.Same sequential) :
    ∀ pair ∈ twins.answers ++ [(parallel, sequential)], pair.1.Same pair.2 := by
  intro pair listed
  rcases List.mem_append.mp listed with earlier | now
  · exact paired.answers pair earlier
  · obtain rfl := List.mem_singleton.mp now
    exact same

theorem writesOnce_register {pipeline : FeaturePipeline} {indicator : IndicatorDefinition}
    (once : pipeline.WritesOnce)
    (unshared : ∀ other ∈ pipeline.indicators, ¬ other.SharesOutput indicator)
    (unmixed : ∀ other ∈ indicator :: pipeline.indicators,
      ¬ pipeline.MixesColumns indicator other) :
    FeaturePipeline.WritesOnce
      { pipeline with indicators := pipeline.indicators ++ [indicator] } where
  unshared := by
    refine List.pairwise_append.mpr ⟨once.unshared, List.pairwise_singleton _ _, ?_⟩
    intro other registered added single
    obtain rfl := List.mem_singleton.mp single
    exact unshared other registered
  unmixed := by
    intro first registered second otherRegistered
    change ¬ pipeline.MixesColumns first second
    rcases List.mem_append.mp registered with earlier | added
    · rcases List.mem_append.mp otherRegistered with otherEarlier | otherAdded
      · exact once.unmixed first earlier second otherEarlier
      · obtain rfl := List.mem_singleton.mp otherAdded
        exact fun mixes => unmixed first (List.mem_cons_of_mem _ earlier) mixes.symm
    · obtain rfl := List.mem_singleton.mp added
      apply unmixed second
      rcases List.mem_append.mp otherRegistered with otherEarlier | otherAdded
      · exact List.mem_cons_of_mem _ otherEarlier
      · obtain rfl := List.mem_singleton.mp otherAdded
        exact List.mem_cons_self

theorem Paired.register {completion : Completion} {indicator : IndicatorDefinition}
    (paired : Paired twins) (adds : AddsOutputs twins (completion, .register indicator)) :
    Paired (step pandas twins (completion, .register indicator)) := by
  have sameIndicators : twins.sequential.pipeline.indicators =
      twins.parallel.pipeline.indicators := by rw [paired.worker]; rfl
  unfold Twins.step
  by_cases known : indicator.identifier ∈
      twins.parallel.pipeline.indicators.map IndicatorDefinition.identifier
  · rw [LivePipeline.serve_register_of_known known,
      LivePipeline.serve_register_of_known (by rwa [sameIndicators])]
    exact { paired with answers := paired.answered rfl }
  · rw [LivePipeline.serve_register_of_new known,
      LivePipeline.serve_register_of_new (by rwa [sameIndicators])]
    obtain ⟨unshared, unmixed⟩ := adds known
    refine ⟨writesOnce_register paired.once unshared unmixed, ?_,
      congrArg (· ∪ _) paired.keys, paired.state, paired.answered rfl⟩
    rw [paired.worker]
    rfl

theorem Paired.step {request : Completion × PipelineCall} (paired : Paired twins)
    (adds : AddsOutputs twins request) : Paired (step pandas twins request) := by
  obtain ⟨completion, call⟩ := request
  cases call with
  | register indicator => exact paired.register adds
  | matrix symbol priceDf =>
    have same := paired.once.computeFeatureMatrix pandas paired.state completion
      .submitted symbol priceDf
    rw [← paired.worker] at same
    exact ⟨paired.once, paired.worker, paired.keys, same.2, paired.answered same.1⟩
  | update marketFrame symbols =>
    have same := paired.once.update pandas paired.state completion .submitted
      marketFrame symbols
    rw [← paired.worker] at same
    exact ⟨paired.once, paired.worker, paired.keys, same.2, paired.answered same.1⟩

/-- However the workers finish, runs in which no indicator writes what is written
already are those of one worker. -/
theorem likeSequential_of_addsOutputs (pipeline : FeaturePipeline) (pandas : Pandas)
    {requests : List (Completion × PipelineCall)}
    (adds : EachStep (Twins.step pandas) AddsOutputs (start pipeline) requests) :
    Throughout (Twins.step pandas) LikeSequential (start pipeline) requests := by
  have paired : Throughout (Twins.step pandas) Paired (start pipeline) requests :=
    throughout_of_eachStep (fun _ _ paired adds => paired.step adds) (paired_start pipeline) adds
  exact paired.imp fun _ paired => paired.likeSequential

def lastFirst : Completion where
  order count := (List.range count).reverse
  perm _ := List.reverse_perm _

def fiveMinutes : FeaturePipeline where
  indicators := []
  timeframes := ["5m"]

def meanOver (identifier key : String) (window : Int) : IndicatorDefinition where
  identifier
  timeframes := ["5m"]
  outputKeys := ⟨[("default", key)], List.nodup_singleton _⟩
  parameters := [("window", .int window)]

def halfHour : PriceFrame :=
  ⟨.timestamp :: ohlcv, [FeaturePipeline.flatRow 0 100, FeaturePipeline.flatRow 1800000000 110]⟩

/-- Two means under their own keys, a matrix and an update. -/
def apartRun : List (Completion × PipelineCall) :=
  [(lastFirst, .register (meanOver "sma_1" "short" 1)),
    (lastFirst, .register (meanOver "sma_2" "long" 2)),
    (lastFirst, .matrix "USDJPY" halfHour),
    (lastFirst, .update (some ⟨.str "USDJPY", .null, halfHour⟩) ["EURUSD"])]

theorem likeSequential_apart :
    Throughout (Twins.step .exact) LikeSequential (start fiveMinutes) apartRun :=
  likeSequential_of_addsOutputs fiveMinutes .exact (by decide +kernel)

/-- Two means under one key. -/
def sharedRun : List (Completion × PipelineCall) :=
  [(lastFirst, .register (meanOver "sma_1" "mean" 1)),
    (lastFirst, .register (meanOver "sma_2" "mean" 2)),
    (lastFirst, .matrix "USDJPY" halfHour)]

/-- The column of a matrix that was answered. -/
def answeredColumn (label : String) : PipelineAnswer → Option (List (Option Cell))
  | .matrix (.ok matrix) => matrix.columns.get? label
  | _ => none

theorem answeredColumn_congr (label : String) {answer other : PipelineAnswer}
    (same : answer.Same other) : answeredColumn label answer = answeredColumn label other := by
  cases answer with
  | registered result => cases other <;> first | rfl | exact same.elim
  | updated result => cases other <;> first | rfl | exact same.elim
  | matrix result =>
    cases other with
    | registered other => exact same.elim
    | updated other => exact same.elim
    | matrix other =>
      cases same with
      | fails error failure => rfl
      | returns sameMatrix =>
        have columns := congrFun (congrArg Prod.snd sameMatrix) label
        simpa [answeredColumn, FeatureMatrix.seen, Dict.seen] using columns

/-- The column holds the mean whose task finishes last. -/
theorem shared_key_holds_last_finished :
    ¬ ∀ (pipeline : FeaturePipeline) pandas requests,
      Throughout (Twins.step pandas) LikeSequential (start pipeline) requests := by
  intro holds
  have final := (holds fiveMinutes .exact sharedRun).final
  have same := final.answers _ (List.mem_of_getElem? (i := 2) rfl)
  exact absurd (answeredColumn_congr "mean_5m" same) (by decide +kernel)

end Twins

end FxToushi.Features
