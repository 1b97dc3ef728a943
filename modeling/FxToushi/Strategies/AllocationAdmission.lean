import FxToushi.Strategies.AllocationCaps

namespace FxToushi.Strategies

open Data Py

/-! # What a candidate passes when it is accepted

The evaluation of a candidate as a list of conditions: those under which the
configuration can be read as far as the evaluation goes, and those under which
the candidate is accepted.
-/

namespace StrategyAllocationPolicy

section Conditions

variable (policy : StrategyAllocationPolicy) (context : AllocationContext)
  (candidate : AllocationCandidate)

def ownCfg : Mapping := policy.strategyCfg candidate.strategyId

def ownFilters : Mapping := policy.resolveHardFilters (policy.ownCfg candidate)

def Configured : Prop :=
  ¬ (policy.strategyConfig.get? candidate.strategyId = none ∧
    ((policy.globalConfig.get? "require_strategy_config").getD (.bool true)).truth = true)

def Enabled : Prop := (((policy.ownCfg candidate).get? "enabled").getD (.bool true)).truth = true

def stopStates : Except PyError (List Value) :=
  iterate (((policy.ownFilters candidate).get? "kill_switch_blocked_states").getD .null)

def spreadMax : Extended :=
  coerceFloat ((policy.ownFilters candidate).get? "spread_max") (.finite (-1))

structure PassesStops : Prop where
  killSwitch : ∀ states, policy.stopStates candidate = .ok states →
    normalizeText (.str context.killSwitchState) = "" ∨
      normalizeText (.str context.killSwitchState) ∉ states.map normalizeText
  boardMode : ∀ modes, (policy.ownFilters candidate).get? "board_modes" = some (.list modes) →
    modes = [] ∨ normalizeText (.str context.boardMode) ∈ modes.map normalizeText

structure PassesHardFilters : Prop extends PassesStops policy context candidate where
  spread : 0 ≤ policy.spreadMax candidate →
    ¬ policy.spreadMax candidate < (extractCostEstimate candidate.parameters).1
  session : hourInRanges context.nowHour (sessionRanges (policy.ownFilters candidate)) = true

/-- The score is not below the greater of the minimums. -/
def ScoreKept : Prop := ∃ score bound,
  policy.computeScore candidate context (policy.ownCfg candidate) = .ok score ∧
  policy.minScore (policy.ownCfg candidate) = .ok bound ∧ ¬ score < bound

/-- What the evaluation asks of an accepted candidate. -/
structure Clears : Prop where
  configured : policy.Configured candidate
  enabled : policy.Enabled candidate
  hardFilters : policy.PassesHardFilters context candidate
  noConflict : policy.resolveActivePositionConflict candidate context (policy.ownCfg candidate) =
    .ok none
  score : policy.ScoreKept context candidate

/-- A section that is read without a check for what it is. -/
def ScoreReadable (config : Mapping) : Prop :=
  ∀ value, config.get? "score" = some value → ∃ entries, value = .map entries

def slotReads : List (Option Value) :=
  [(policy.resolvePortfolioCfg (policy.ownCfg candidate)).get? "slot_cost"]

/-- What the spread is compared by. -/
def filterReads : List (Option Value) :=
  costReads candidate.parameters ++ [(policy.ownFilters candidate).get? "spread_max"]

def scoreValue (config : Mapping) (key : String) : Option Value :=
  (configSection config "score").get? key

/-- What the score and its minimums are computed from. -/
structure Scorable : Prop where
  overall : ScoreReadable policy.globalConfig
  own : ScoreReadable (policy.ownCfg candidate)
  floats : FloatsFit ((policy.ownCfg candidate).get? "weight" ::
    scoreValue (policy.ownCfg candidate) "bias" ::
      policy.scoreReads candidate context (policy.ownCfg candidate))
  minimums : FloatsFit [scoreValue policy.globalConfig "min_score",
    scoreValue (policy.ownCfg candidate) "min_score"]

/-- The templates render, and as far as the evaluation gets, the blocked states
can be listed, the labels of the positions render, the score sections are
mappings and no integer is too large for a float. -/
def Evaluable : Prop :=
  policy.Configured candidate →
    (∀ dimension, ∃ label, policy.candidateLabel dimension candidate = .ok label) ∧
    FloatsFit (policy.slotReads candidate) ∧
    (policy.Enabled candidate →
      (∃ states, policy.stopStates candidate = .ok states) ∧
      (policy.PassesStops context candidate → FloatsFit (policy.filterReads candidate)) ∧
      (policy.PassesHardFilters context candidate →
        ∃ conflict, policy.resolveActivePositionConflict candidate context
            (policy.ownCfg candidate) = .ok conflict ∧
          (conflict = none → policy.Scorable context candidate)))

end Conditions

variable {policy : StrategyAllocationPolicy} {context : AllocationContext}
  {candidate : AllocationCandidate}

/-! ## The filters -/

section Filters

variable {states : List Value} (listed : policy.stopStates candidate = .ok states)

include listed

theorem stopReason_none_iff :
    stopReason context (policy.ownFilters candidate) states = none ↔
      policy.PassesStops context candidate := by
  have goes_on : ∀ {condition : Prop} [Decidable condition] {reason : String}
      {rest : Option String}, (if condition then some reason else rest) = none ↔
        ¬ condition ∧ rest = none := by
    intro condition _ reason rest
    by_cases holds : condition <;> simp [holds]
  simp only [stopReason, goes_on, and_true]
  constructor
  · rintro ⟨unblocked, admitted⟩
    constructor
    · intro others listedOthers
      obtain rfl := Except.ok.inj (listed.symm.trans listedOthers)
      by_cases silent : normalizeText (.str context.killSwitchState) = ""
      · exact .inl silent
      · exact .inr fun member => unblocked ⟨silent, member⟩
    · intro modes given
      rw [given] at admitted
      by_cases empty : modes = []
      · exact .inl empty
      · refine .inr ?_
        by_contra outside
        exact admitted ⟨by simpa using empty, outside⟩
  · intro passes
    constructor
    · rintro ⟨spoken, member⟩
      rcases passes.killSwitch states listed with silent | absent
      · exact spoken silent
      · exact absent member
    · rintro ⟨given, outside⟩
      split at given
      · rename_i modes found
        rw [found] at outside
        rcases passes.boardMode modes found with rfl | admitted
        · exact given rfl
        · exact outside admitted
      · exact given rfl

theorem hardFilterReason_stopped {reason : String}
    (stopped : stopReason context (policy.ownFilters candidate) states = some reason) :
    policy.hardFilterReason candidate context (policy.ownCfg candidate) =
      .ok (some (reason, false)) := by
  refine bind_ok_iff.mpr ⟨states, listed, ?_⟩
  unfold ownFilters at stopped
  rw [stopped]
  rfl

theorem hardFilterReason_going
    (free : stopReason context (policy.ownFilters candidate) states = none)
    (result : Option (String × Bool)) :
    policy.hardFilterReason candidate context (policy.ownCfg candidate) = .ok result ↔
      FloatsFit (policy.filterReads candidate) ∧
        (quoteReason candidate context (policy.ownFilters candidate)).map (·, true) = result := by
  unfold ownFilters at free
  have read := listed
  unfold stopStates ownFilters at read
  rw [hardFilterReason, bind_ok_iff]
  simp only [read, Except.ok.injEq, exists_eq_left', free]
  exact requireFloats_bind_iff.trans (and_congr_right fun _ => ⟨Except.ok.inj, congrArg Except.ok⟩)

end Filters

theorem hardFilterReason_ok_iff :
    (∃ reason, policy.hardFilterReason candidate context (policy.ownCfg candidate) = .ok reason) ↔
      (∃ states, policy.stopStates candidate = .ok states) ∧
        (policy.PassesStops context candidate → FloatsFit (policy.filterReads candidate)) := by
  constructor
  · rintro ⟨reason, returned⟩
    obtain ⟨states, listed, -⟩ := bind_ok returned
    refine ⟨⟨states, listed⟩, fun passes => ?_⟩
    have free := (stopReason_none_iff listed).mpr passes
    exact ((hardFilterReason_going listed free reason).mp returned).1
  · rintro ⟨⟨states, listed⟩, fit⟩
    cases stop : stopReason context (policy.ownFilters candidate) states with
    | some reason => exact ⟨_, hardFilterReason_stopped listed stop⟩
    | none =>
      have passes := (stopReason_none_iff listed).mp stop
      exact ⟨_, (hardFilterReason_going listed stop _).mpr ⟨fit passes, rfl⟩⟩

theorem quoteReason_none_iff :
    quoteReason candidate context (policy.ownFilters candidate) = none ↔
      (0 ≤ policy.spreadMax candidate →
        ¬ policy.spreadMax candidate < (extractCostEstimate candidate.parameters).1) ∧
      hourInRanges context.nowHour (sessionRanges (policy.ownFilters candidate)) = true := by
  unfold quoteReason spreadMax
  dsimp only
  split
  · rename_i exceeds
    exact iff_of_false nofun fun passes => passes.1 exceeds.1 exceeds.2
  · rename_i within
    have spread := not_and.mp within
    cases hourInRanges context.nowHour (sessionRanges (policy.ownFilters candidate)) with
    | false => exact iff_of_false nofun fun passes => nomatch passes.2
    | true => exact iff_of_true rfl ⟨spread, rfl⟩

theorem hardFilterReason_none_iff :
    policy.hardFilterReason candidate context (policy.ownCfg candidate) = .ok none ↔
      (∃ states, policy.stopStates candidate = .ok states) ∧
        FloatsFit (policy.filterReads candidate) ∧ policy.PassesHardFilters context candidate := by
  constructor
  · intro passed
    obtain ⟨states, listed, -⟩ := bind_ok passed
    cases stop : stopReason context (policy.ownFilters candidate) states with
    | some reason =>
      rw [hardFilterReason_stopped listed stop] at passed
      cases passed
    | none =>
      obtain ⟨fit, free⟩ := (hardFilterReason_going listed stop none).mp passed
      obtain ⟨spread, session⟩ := quoteReason_none_iff.mp (Option.map_eq_none_iff.mp free)
      exact ⟨⟨states, listed⟩, fit, (stopReason_none_iff listed).mp stop, spread, session⟩
  · rintro ⟨⟨states, listed⟩, fit, passes⟩
    have stop := (stopReason_none_iff listed).mpr passes.toPassesStops
    refine (hardFilterReason_going listed stop none).mpr ⟨fit, ?_⟩
    exact Option.map_eq_none_iff.mpr (quoteReason_none_iff.mpr ⟨passes.spread, passes.session⟩)

/-! ## The score -/

theorem scoreField_ok_iff {config : Mapping} {key : String} :
    (∃ value, scoreField config key = .ok value) ↔ ScoreReadable config := by
  unfold scoreField ScoreReadable
  cases config.get? "score" with
  | none => simp
  | some value => cases value <;> simp

theorem activeMatches_ok {dimension : Dimension}
    (rendered : ∃ label, policy.candidateLabel dimension candidate = .ok label)
    (free : policy.resolveActivePositionConflict candidate context (policy.ownCfg candidate) =
      .ok none) :
    ∃ matched, policy.activeMatches dimension candidate context (policy.ownCfg candidate) =
      .ok matched := by
  rcases conflict_none free dimension with empty | ⟨matched, found, -⟩
  · obtain ⟨label, rendered⟩ := rendered
    unfold candidateLabel at rendered
    simp only [activeMatches, ownCfg, rendered, empty, positionsUnder, tryMap, bind, Except.bind,
      pure, Except.pure]
    split <;> exact ⟨_, rfl⟩
  · exact ⟨matched, found⟩

theorem scoreField_of_readable {config : Mapping} (readable : ScoreReadable config)
    (key : String) : scoreField config key = .ok (scoreValue config key) := by
  unfold scoreField scoreValue configSection
  cases given : config.get? "score" with
  | none => rfl
  | some value =>
    obtain ⟨entries, rfl⟩ := readable value given
    rfl

theorem computeScore_ok_iff (rendered : ∀ dimension, ∃ label,
      policy.candidateLabel dimension candidate = .ok label)
    (free : policy.resolveActivePositionConflict candidate context (policy.ownCfg candidate) =
      .ok none) :
    (∃ score, policy.computeScore candidate context (policy.ownCfg candidate) = .ok score) ↔
      ScoreReadable (policy.ownCfg candidate) ∧
      FloatsFit ((policy.ownCfg candidate).get? "weight" ::
        scoreValue (policy.ownCfg candidate) "bias" ::
          policy.scoreReads candidate context (policy.ownCfg candidate)) := by
  constructor
  · rintro ⟨score, scored⟩
    obtain ⟨weight, scored⟩ := requireFloats_bind_iff.mp scored
    obtain ⟨bias, biased, scored⟩ := bind_ok scored
    have readable := scoreField_ok_iff.mp ⟨bias, biased⟩
    obtain rfl := Except.ok.inj (biased.symm.trans (scoreField_of_readable readable "bias"))
    obtain ⟨fit, -⟩ := requireFloats_bind_iff.mp scored
    exact ⟨readable, floatsFit_cons.mpr ⟨weight, fit⟩⟩
  · rintro ⟨readable, fit⟩
    obtain ⟨weight, fit⟩ := floatsFit_cons.mp fit
    obtain ⟨grouped, groups⟩ := activeMatches_ok (rendered .group) free
    obtain ⟨exposed, exposures⟩ := activeMatches_ok (rendered .exposure) free
    simp only [computeScore, requireFloats_ok_iff.mpr weight, requireFloats_ok_iff.mpr fit,
      scoreField_of_readable readable, groups, exposures, bind, Except.bind, pure, Except.pure]
    exact ⟨_, rfl⟩

theorem minScore_ok_iff :
    (∃ bound, policy.minScore (policy.ownCfg candidate) = .ok bound) ↔
      ScoreReadable policy.globalConfig ∧ ScoreReadable (policy.ownCfg candidate) ∧
      FloatsFit [scoreValue policy.globalConfig "min_score",
        scoreValue (policy.ownCfg candidate) "min_score"] := by
  constructor
  · rintro ⟨bound, bounded⟩
    obtain ⟨overall, readOverall, bounded⟩ := bind_ok bounded
    obtain ⟨overallFits, bounded⟩ := requireFloats_bind_iff.mp bounded
    obtain ⟨own, readOwn, bounded⟩ := bind_ok bounded
    obtain ⟨ownFits, -⟩ := requireFloats_bind_iff.mp bounded
    have readable := scoreField_ok_iff.mp ⟨overall, readOverall⟩
    have readableOwn := scoreField_ok_iff.mp ⟨own, readOwn⟩
    obtain rfl := Except.ok.inj
      (readOverall.symm.trans (scoreField_of_readable readable "min_score"))
    obtain rfl := Except.ok.inj (readOwn.symm.trans
        (scoreField_of_readable readableOwn "min_score"))
    exact ⟨readable, readableOwn, floatsFit_cons.mpr ⟨overallFits, ownFits⟩⟩
  · rintro ⟨readable, readableOwn, fit⟩
    obtain ⟨overallFits, ownFits⟩ := floatsFit_cons.mp fit
    simp only [minScore, scoreField_of_readable readable, scoreField_of_readable readableOwn,
      requireFloats_ok_iff.mpr overallFits, requireFloats_ok_iff.mpr ownFits, bind, Except.bind,
      pure, Except.pure]
    exact ⟨_, rfl⟩

/-! ## The evaluation -/

/-- What the last part of the evaluation makes of an item not accepted so far. -/
structure Judged (policy : StrategyAllocationPolicy) (context : AllocationContext)
    (candidate : AllocationCandidate) (item judged : EvaluatedCandidate) : Prop where
  sameCandidate : judged.candidate = item.candidate
  sameSymbol : judged.symbol = item.symbol
  scored : judged.accepted = true → ∃ score, judged.score = some score
  accepted : judged.accepted = true ↔
    policy.resolveActivePositionConflict candidate context (policy.ownCfg candidate) = .ok none ∧
      policy.ScoreKept context candidate

theorem Judged.rejected {item judged : EvaluatedCandidate}
    (same : judged.candidate = item.candidate) (symbol : judged.symbol = item.symbol)
    (pending : judged.accepted = false)
    (fails : policy.resolveActivePositionConflict candidate context (policy.ownCfg candidate) =
      .ok none → ¬ policy.ScoreKept context candidate) :
    Judged policy context candidate item judged := by
  refine ⟨same, symbol, fun accepted => ?_, ?_⟩
  · rw [pending] at accepted
    cases accepted
  · rw [pending]
    exact ⟨fun absurdity => (nomatch absurdity), fun met => absurd met.2 (fails met.1)⟩

theorem evaluateScored_judged {item judged : EvaluatedCandidate} (pending : item.accepted = false)
    (evaluated : policy.evaluateScored candidate context (policy.ownCfg candidate) item =
      .ok judged) : Judged policy context candidate item judged := by
  obtain ⟨conflict, resolved, evaluated⟩ := bind_ok evaluated
  cases conflict with
  | some conflict =>
    obtain rfl := Except.ok.inj evaluated
    refine .rejected rfl rfl pending fun free => ?_
    rw [resolved] at free
    cases free
  | none =>
    obtain ⟨score, scored, evaluated⟩ := bind_ok evaluated
    obtain ⟨bound, bounded, evaluated⟩ := bind_ok evaluated
    split at evaluated
    · rename_i below
      obtain rfl := Except.ok.inj evaluated
      refine .rejected rfl rfl pending fun _ => ?_
      rintro ⟨other, least, computed, read, kept⟩
      obtain rfl := Except.ok.inj (scored.symm.trans computed)
      obtain rfl := Except.ok.inj (bounded.symm.trans read)
      exact kept below
    · rename_i reached
      obtain rfl := Except.ok.inj evaluated
      exact ⟨rfl, rfl, fun _ => ⟨score, rfl⟩,
        fun _ => ⟨resolved, score, bound, scored, bounded, reached⟩, fun _ => rfl⟩

/-- An evaluation that returns tells its candidate, and whether it passes. -/
structure Told (policy : StrategyAllocationPolicy) (context : AllocationContext)
    (candidate : AllocationCandidate) (judged : EvaluatedCandidate) : Prop where
  sameCandidate : judged.candidate = candidate
  sameSymbol : judged.symbol = candidateSymbol candidate
  scored : judged.accepted = true → ∃ score, judged.score = some score
  accepted : judged.accepted = true ↔ policy.Clears context candidate

theorem Told.rejected {judged : EvaluatedCandidate} (same : judged.candidate = candidate)
    (symbol : judged.symbol = candidateSymbol candidate) (pending : judged.accepted = false)
    (fails : ¬ policy.Clears context candidate) : Told policy context candidate judged := by
  refine ⟨same, symbol, fun accepted => ?_, ?_⟩
  · rw [pending] at accepted
    cases accepted
  · simp [pending, fails]

theorem evaluateCandidate_told {judged : EvaluatedCandidate}
    (evaluated : policy.evaluateCandidate context candidate = .ok judged) :
    Told policy context candidate judged := by
  unfold evaluateCandidate at evaluated
  dsimp only at evaluated
  split at evaluated
  · rename_i unconfigured
    obtain rfl := Except.ok.inj evaluated
    exact .rejected rfl rfl rfl fun passes => passes.configured unconfigured
  rename_i configured
  obtain ⟨group, grouped, evaluated⟩ := bind_ok evaluated
  obtain ⟨bucket, bucketed, evaluated⟩ := bind_ok evaluated
  obtain ⟨-, -, evaluated⟩ := bind_ok evaluated
  split at evaluated
  · rename_i disabled
    obtain rfl := Except.ok.inj evaluated
    refine .rejected rfl rfl rfl fun passes => ?_
    have enabled := passes.enabled
    unfold Enabled ownCfg at enabled
    rw [disabled] at enabled
    cases enabled
  rename_i enabled
  obtain ⟨filtered, filters, evaluated⟩ := bind_ok evaluated
  cases filtered with
  | some reason =>
    obtain rfl := Except.ok.inj evaluated
    refine .rejected rfl rfl rfl fun passes => ?_
    obtain ⟨listed, fit⟩ := hardFilterReason_ok_iff.mp ⟨_, filters⟩
    have passed := hardFilterReason_none_iff.mpr
      ⟨listed, fit passes.hardFilters.toPassesStops, passes.hardFilters⟩
    cases filters.symm.trans passed
  | none =>
    obtain ⟨-, -, hardFilters⟩ := hardFilterReason_none_iff.mp filters
    have told := evaluateScored_judged rfl evaluated
    refine ⟨told.sameCandidate, told.sameSymbol, told.scored, told.accepted.trans ⟨?_, ?_⟩⟩
    · rintro ⟨free, score⟩
      exact ⟨configured, by simpa [Enabled, ownCfg] using enabled, hardFilters, free, score⟩
    · exact fun passes => ⟨passes.noConflict, passes.score⟩

theorem evaluateScored_ok_iff {item : EvaluatedCandidate}
    (rendered : ∀ dimension, ∃ label, policy.candidateLabel dimension candidate = .ok label) :
    (∃ judged, policy.evaluateScored candidate context (policy.ownCfg candidate) item =
      .ok judged) ↔
      ∃ conflict, policy.resolveActivePositionConflict candidate context
          (policy.ownCfg candidate) = .ok conflict ∧
        (conflict = none → policy.Scorable context candidate) := by
  constructor
  · rintro ⟨judged, evaluated⟩
    obtain ⟨conflict, resolved, evaluated⟩ := bind_ok evaluated
    refine ⟨conflict, resolved, ?_⟩
    rintro rfl
    obtain ⟨score, scored, evaluated⟩ := bind_ok evaluated
    obtain ⟨bound, bounded, evaluated⟩ := bind_ok evaluated
    obtain ⟨own, floats⟩ := (computeScore_ok_iff rendered resolved).mp ⟨score, scored⟩
    obtain ⟨overall, -, minimums⟩ := minScore_ok_iff.mp ⟨bound, bounded⟩
    exact ⟨overall, own, floats, minimums⟩
  · rintro ⟨conflict, resolved, scorable⟩
    cases conflict with
    | some conflict =>
      simp only [evaluateScored, resolved, bind, Except.bind, pure, Except.pure]
      exact ⟨_, rfl⟩
    | none =>
      have reads := scorable rfl
      obtain ⟨score, scored⟩ :=
        (computeScore_ok_iff rendered resolved).mpr ⟨reads.own, reads.floats⟩
      obtain ⟨bound, bounded⟩ := minScore_ok_iff.mpr ⟨reads.overall, reads.own, reads.minimums⟩
      simp only [evaluateScored, resolved, scored, bounded, bind, Except.bind, pure,
        Except.pure]
      split <;> exact ⟨_, rfl⟩

theorem forall_dimension {holds : Dimension → Prop} :
    (∀ dimension, holds dimension) ↔ holds .group ∧ holds .exposure := by
  constructor
  · exact fun every => ⟨every .group, every .exposure⟩
  · rintro ⟨group, exposure⟩ dimension
    cases dimension
    · exact group
    · exact exposure

theorem evaluateCandidate_ok_iff :
    (∃ judged, policy.evaluateCandidate context candidate = .ok judged) ↔
      policy.Evaluable context candidate := by
  constructor
  · rintro ⟨judged, evaluated⟩ configured
    unfold evaluateCandidate at evaluated
    dsimp only at evaluated
    rw [if_neg configured] at evaluated
    obtain ⟨group, grouped, evaluated⟩ := bind_ok evaluated
    obtain ⟨bucket, bucketed, evaluated⟩ := bind_ok evaluated
    have rendered : ∀ dimension, ∃ label, policy.candidateLabel dimension candidate = .ok label :=
      forall_dimension.mpr ⟨⟨group, grouped⟩, ⟨bucket, bucketed⟩⟩
    obtain ⟨slots, evaluated⟩ := requireFloats_bind_iff.mp evaluated
    refine ⟨rendered, slots, fun enabled => ?_⟩
    unfold Enabled ownCfg at enabled
    rw [if_neg (by rw [enabled]; decide)] at evaluated
    obtain ⟨filtered, filters, evaluated⟩ := bind_ok evaluated
    obtain ⟨listed, fit⟩ := hardFilterReason_ok_iff.mp ⟨filtered, filters⟩
    refine ⟨listed, fit, fun passes => ?_⟩
    obtain rfl : filtered = none := Except.ok.inj (filters.symm.trans
      (hardFilterReason_none_iff.mpr ⟨listed, fit passes.toPassesStops, passes⟩))
    exact (evaluateScored_ok_iff rendered).mp ⟨judged, evaluated⟩
  · intro evaluable
    unfold evaluateCandidate
    dsimp only
    split
    · exact ⟨_, rfl⟩
    rename_i configured
    obtain ⟨rendered, slots, evaluable⟩ := evaluable configured
    obtain ⟨group, grouped⟩ := rendered .group
    obtain ⟨bucket, bucketed⟩ := rendered .exposure
    have slot := requireFloats_ok_iff.mpr slots
    unfold candidateLabel at grouped bucketed
    unfold slotReads ownCfg at slot
    simp only [portfolioGroup, exposureBucket, grouped, bucketed, slot, bind, Except.bind]
    split
    · exact ⟨_, rfl⟩
    rename_i enabled
    obtain ⟨listed, fit, evaluable⟩ := evaluable (by simpa [Enabled, ownCfg] using enabled)
    obtain ⟨filtered, filters⟩ := hardFilterReason_ok_iff.mpr ⟨listed, fit⟩
    have decided := filters
    unfold ownCfg at decided
    rw [decided]
    cases filtered with
    | some reason => exact ⟨_, rfl⟩
    | none =>
      obtain ⟨-, -, passes⟩ := hardFilterReason_none_iff.mp filters
      exact (evaluateScored_ok_iff rendered).mpr (evaluable passes)

end StrategyAllocationPolicy

end FxToushi.Strategies
