import FxToushi.Backtest.Geometry
import FxToushi.Backtest.PendingEntries

namespace FxToushi.Backtest

open Data Py

/-! # Sizing by streaks

The streak rules look at how the closed trades ended.  The simulator keeps two
counters and a percentage instead, and takes the lesser of that percentage and
the base of the strategy.
-/

/-- The last results that are all `outcome`. -/
def streakOf (outcome : Bool) (results : List Bool) : Nat :=
  (results.rtakeWhile (· == outcome)).length

theorem streakOf_append (outcome result : Bool) (results : List Bool) :
    streakOf outcome (results ++ [result]) =
      if result = outcome then streakOf outcome results + 1 else 0 := by
  by_cases same : result = outcome
  · simp [streakOf, same]
  · simp [streakOf, same]

/-- What the rules prescribe for the next trade.  A streak has at least one
trade, also where its threshold is not positive. -/
def prescribedPct (streak : StreakRules) (basePct : Rat) (results : List Bool) : Rat :=
  let losses := streakOf false results
  let wins := streakOf true results
  if 0 < losses ∧ streak.lossThreshold ≤ losses then streak.lossRiskPct
  else if 0 < wins ∧ streak.winThreshold ≤ wins then
    min streak.winCapPct (basePct + (wins - streak.winThreshold + 1) * streak.winStepPct)
  else basePct

/-- The counters for a sequence of results. -/
def streakState (streak : StreakRules) (basePct : Rat) (results : List Bool) : RiskState where
  currentRiskPct := prescribedPct streak basePct results
  consecutiveWins := streakOf true results
  consecutiveLosses := streakOf false results

theorem updateAfterTrade_streakState (streak : StreakRules) (basePct rMultiple : Rat)
    (results : List Bool) :
    (streakState streak basePct results).updateAfterTrade rMultiple streak basePct =
      streakState streak basePct (results ++ [decide (0 < rMultiple)]) := by
  by_cases won : 0 < rMultiple
  · simp [RiskState.updateAfterTrade, streakState, prescribedPct, streakOf_append, won]
  · simp [RiskState.updateAfterTrade, streakState, prescribedPct, streakOf_append, won]
    exact if_congr Iff.rfl rfl rfl

/-! ## The closed trades -/

/-- What a trade gained per unit: its r-multiple times the distance of its
stop, without rounding. -/
def gainOf (trade : TradeRecord) : Rat :=
  if trade.direction = "long" then trade.exitPrice - trade.entry else trade.entry - trade.exitPrice

def resultsOf (state : PocState) : List Bool :=
  state.trades.map (fun trade => decide (0 < gainOf trade))

def basePct (config : PocConfig) : Rat := perTradePct config.settings config.primaryStrategy

def prescribedFor (config : PocConfig) (state : PocState) : Rat :=
  prescribedPct config.settings.streak (basePct config) (resultsOf state)

/-- The counters are those of the closed trades. -/
def RiskFollows (config : PocConfig) (state : PocState) : Prop :=
  state.risk = streakState config.settings.streak (basePct config) (resultsOf state)

structure OfPrimary (config : PocConfig) (pos : Position) : Prop where
  base : pos.baseRiskPct = basePct config
  distance : 0 < pos.riskDistance

theorem closePosition_riskFollows {config : PocConfig} {pos : Position} {state : PocState}
    (ts : Timestamp) (price : Rat) (primary : OfPrimary config pos)
    (follows : RiskFollows config state) :
    RiskFollows config (closePosition config ts pos price state) := by
  let gained := if pos.direction = "long" then price - pos.entry else pos.entry - price
  have results : resultsOf (closePosition config ts pos price state) =
      resultsOf state ++ [decide (0 < gained)] := by
    simp [resultsOf, closePosition, gainOf, gained]
  have won : decide (0 < gained / pos.riskDistance) = decide (0 < gained) :=
    decide_eq_decide.mpr (div_pos_iff_of_pos_right primary.distance)
  have updated : (closePosition config ts pos price state).risk =
      state.risk.updateAfterTrade (gained / pos.riskDistance) config.settings.streak
        pos.baseRiskPct := rfl
  rw [RiskFollows, updated, results, follows, primary.base, updateAfterTrade_streakState, won]

theorem settleExit_fold_riskFollows {config : PocConfig} {exits : List Exit} {state : PocState}
    (ts : Timestamp) (primary : ∀ exit ∈ exits, OfPrimary config exit.position)
    (follows : RiskFollows config state) :
    RiskFollows config (exits.foldl (settleExit config ts) state) := by
  induction exits generalizing state with
  | nil => exact follows
  | cons exit rest ih =>
    have ⟨first, later⟩ := List.forall_mem_cons.mp primary
    exact ih later (closePosition_riskFollows ts _ first follows)

/-! ## The run -/

structure Streaked (config : PocConfig) (state : PocState) : Prop where
  risk : RiskFollows config state
  positions : ∀ pos ∈ state.positions, OfPrimary config pos

theorem trailStop_ofPrimary {config : PocConfig} {row : Row} {pos : Position}
    (primary : OfPrimary config pos) : OfPrimary config (trailStop config row pos) := by
  rw [trailStop_eq]
  exact ⟨primary.base, primary.distance⟩

theorem exitPass_streaked {config : PocConfig} {bar : Bar} {state : PocState}
    (streaked : Streaked config state) : Streaked config (exitPass config state bar) := by
  rw [exitPass_eq]
  refine ⟨settleExit_fold_riskFollows bar.ts ?_ streaked.risk, ?_⟩
  · intro exit member
    obtain ⟨pos, held, left⟩ := List.mem_filterMap.mp member
    rw [(exitOf_level left).2.1]
    exact trailStop_ofPrimary (streaked.positions pos held)
  · intro pos member
    obtain ⟨before, held, stays⟩ := List.mem_filterMap.mp member
    have primary := streaked.positions before held
    unfold staysAs at stays
    split at stays
    · split at stays
      · exact absurd stays (by simp)
      · obtain rfl := Option.some.inj stays
        exact trailStop_ofPrimary primary
    · obtain rfl := Option.some.inj stays
      exact primary

theorem attempt_streaked {config : PocConfig} {bar : Bar}
    {state next : PocState} {spec : EntrySpec}
    (single : spec.signal.strategyId = config.primaryStrategy) (streaked : Streaked config state)
    (attempted : attemptOpenPosition config bar.ts bar.row state spec = .ok next) :
    Streaked config next := by
  rcases attemptOpenPosition_cases attempted with
    rfl | rfl | ⟨_, ttlMinutes, quote, quoted, -, rfl⟩
  · exact streaked
  · exact ⟨streaked.risk, streaked.positions⟩
  · refine ⟨streaked.risk, fun pos member => ?_⟩
    rcases List.mem_append.mp member with held | opened
    · exact streaked.positions pos held
    · rw [List.mem_singleton.mp opened]
      have base : perTradePct config.settings spec.signal.strategyId = basePct config := by
        rw [single, basePct]
      exact ⟨base, (quoteEntry_some quoted).2.2.1⟩

/-! ## Runs of one strategy -/

theorem stepAttempts_source {config : PocConfig} {bar : Bar} {state : PocState}
    {attempt : Attempt} (member : attempt ∈ stepAttempts config state bar) :
    attempt.2 ∈ state.pending ∨ attempt.2.signal ∈ bar.signals := by
  unfold stepAttempts at member
  dsimp only at member
  split at member
  · exact absurd member List.not_mem_nil
  split at member
  · exact absurd member List.not_mem_nil
  rcases List.mem_append.mp member with drained | taken
  · have due := (List.mem_filter.mp (attemptsOf_spec drained)).1
    rw [exitPass_pending] at due
    exact .inl due
  · split at taken
    · exact absurd taken List.not_mem_nil
    unfold signalAttempts at taken
    split at taken
    · exact absurd taken List.not_mem_nil
    · have emitted := attemptsOf_spec taken
      rw [List.map_map] at emitted
      obtain ⟨signal, held, same⟩ := List.mem_map.mp emitted
      exact .inr (same ▸ held)

theorem drainPending_pending {config : PocConfig} {bar : Bar} {state : PocState}
    {spec : EntrySpec} (member : spec ∈ (drainPending config state bar).pending) :
    spec ∈ state.pending := by
  rw [drainPending, attemptAll_pending] at member
  exact (List.mem_filter.mp member).1

theorem stepBar_pending {config : PocConfig} {bar : Bar} {state : PocState} {spec : EntrySpec}
    (member : spec ∈ (stepBar config state bar).pending) :
    spec ∈ state.pending ∨ spec.signal ∈ bar.signals := by
  have drained := @drainPending_pending config bar (exitPass config state bar) spec
  rw [exitPass_pending] at drained
  unfold stepBar at member
  dsimp only at member
  split at member
  · exact .inl member
  split at member
  · rw [markCurve_pending, exitPass_pending] at member
    exact .inl member
  split at member
  · rw [markCurve_pending] at member
    exact .inl (drained member)
  · rw [markCurve_pending, takeSignals] at member
    split at member
    · rcases List.mem_append.mp member with waiting | emitted
      · exact .inl (drained waiting)
      · obtain ⟨signal, held, rfl⟩ := List.mem_map.mp emitted
        exact .inr held
    · rw [attemptAll_pending] at member
      exact .inl (drained member)

def SingleBar (config : PocConfig) (bar : Bar) : Prop :=
  ∀ signal ∈ bar.signals, signal.strategyId = config.primaryStrategy

structure SingleRun (config : PocConfig) (state : PocState) : Prop where
  streaked : Streaked config state
  pending : ∀ spec ∈ state.pending, spec.signal.strategyId = config.primaryStrategy

theorem stepAttempts_single {config : PocConfig} {bar : Bar} {state : PocState}
    {attempt : Attempt} (run : SingleRun config state) (single : SingleBar config bar)
    (member : attempt ∈ stepAttempts config state bar) :
    attempt.2.signal.strategyId = config.primaryStrategy := by
  rcases stepAttempts_source member with waiting | emitted
  · exact run.pending _ waiting
  · exact single _ emitted

theorem stepBar_singleRun {config : PocConfig} {bar : Bar} {state : PocState}
    (run : SingleRun config state) (single : SingleBar config bar) :
    SingleRun config (stepBar config state bar) := by
  refine ⟨?_, fun spec member => ?_⟩
  · refine stepBar_preserves (Streaked config) ?_ exitPass_streaked ?_ run.streaked
    · exact fun _ _ _ _ streaked => ⟨streaked.risk, streaked.positions⟩
    · exact fun attempt member _ streaked attempted =>
        attempt_streaked (stepAttempts_single run single member) streaked attempted
  · rcases stepBar_pending member with waiting | emitted
    · exact run.pending spec waiting
    · exact single _ emitted

theorem stepAttempts_streaked {config : PocConfig} {bar : Bar} {state : PocState}
    (run : SingleRun config state) (single : SingleBar config bar) :
    ∀ attempt ∈ stepAttempts config state bar, Streaked config attempt.1 := by
  refine stepAttempts_holds (Streaked config) ?_ exitPass_streaked ?_ run.streaked
  · exact fun _ _ _ _ streaked => ⟨streaked.risk, streaked.positions⟩
  · exact fun attempt member _ streaked attempted =>
      attempt_streaked (stepAttempts_single run single member) streaked attempted

/-! ## What the positions risk -/

/-- The positions an attempt opens. -/
def openedBy (config : PocConfig) (bar : Bar) (attempt : Attempt) : List Position :=
  match attemptOpenPosition config bar.ts bar.row attempt.1 attempt.2 with
  | .ok next => openedBetween attempt.1 next
  | .error _ => []

/-- The percentage an attempt uses is the prescribed one, and it is what the
position risks of the equity. -/
structure SizedByStreak (config : PocConfig) (attempt : Attempt) (position : Position) : Prop where
  pct : newRiskPct config attempt.1 attempt.2 = prescribedFor config attempt.1
  amount : position.riskAmount = attempt.1.equity * (prescribedFor config attempt.1 / 100)

theorem openedBy_amount {config : PocConfig} {bar : Bar} {attempt : Attempt} {position : Position}
    (sizing : config.fixedRisk = false) (opened : position ∈ openedBy config bar attempt) :
    position.riskAmount = attempt.1.equity * (newRiskPct config attempt.1 attempt.2 / 100) := by
  unfold openedBy at opened
  split at opened
  · rename_i next attempted
    rcases attemptOpenPosition_cases attempted with
      rfl | rfl | ⟨_, ttlMinutes, quote, -, -, rfl⟩
    · simp [openedBetween] at opened
    · simp [openedBetween, afterDraw] at opened
    · simp only [openedBetween, openPosition, afterDraw, List.drop_left', List.map_cons,
        List.map_nil, List.mem_singleton] at opened
      rw [opened]
      simp [positionOf, sizing, newRiskPct]
  · exact absurd opened List.not_mem_nil

theorem sizedByStreak_iff_le {config : PocConfig} {bar : Bar} {attempt : Attempt}
    {position : Position} (sizing : config.fixedRisk = false)
    (single : attempt.2.signal.strategyId = config.primaryStrategy)
    (streaked : Streaked config attempt.1) (opened : position ∈ openedBy config bar attempt) :
    SizedByStreak config attempt position ↔ prescribedFor config attempt.1 ≤ basePct config := by
  have risk : attempt.1.risk = streakState .. := streaked.risk
  have used : newRiskPct config attempt.1 attempt.2 =
      min (prescribedFor config attempt.1) (basePct config) := by
    rw [newRiskPct, risk, single]
    rfl
  have amount := openedBy_amount sizing opened
  constructor
  · intro sized
    exact min_eq_left_iff.mp (used.symm.trans sized.pct)
  · intro below
    have same := used.trans (min_eq_left below)
    exact ⟨same, by rw [amount, same]⟩

/-- Every position of the run is sized as the streak rules prescribe for the
trades closed before it. -/
def AllSizedByStreak (config : PocConfig) (bars : List Bar) : Prop :=
  EachStep (stepBar config)
    (fun state bar => ∀ attempt ∈ stepAttempts config state bar,
      ∀ position ∈ openedBy config bar attempt, SizedByStreak config attempt position)
    (initialState config) (eventStream bars)

/-- Whenever a position is opened, the rules prescribe no more than the base. -/
def NeverAboveBase (config : PocConfig) (bars : List Bar) : Prop :=
  EachStep (stepBar config)
    (fun state bar => ∀ attempt ∈ stepAttempts config state bar,
      ∀ _position ∈ openedBy config bar attempt,
        prescribedFor config attempt.1 ≤ basePct config)
    (initialState config) (eventStream bars)

theorem sizedByStreak_iff {config : PocConfig} {bars : List Bar}
    (sizing : config.fixedRisk = false) (single : ∀ bar ∈ bars, SingleBar config bar) :
    AllSizedByStreak config bars ↔ NeverAboveBase config bars := by
  have start : SingleRun config (initialState config) :=
    ⟨⟨rfl, fun _ member => absurd member List.not_mem_nil⟩,
      fun _ member => absurd member List.not_mem_nil⟩
  have sameStrategy : EachStep (stepBar config) (fun _ bar => SingleBar config bar)
      (initialState config) (eventStream bars) :=
    eachStep_of_mem fun bar member => single bar (List.mem_insertionSort _ |>.mp member)
  have run := throughout_of_eachStep (fun _ _ run single => stepBar_singleRun run single) start
    sameStrategy
  refine eachStep_congr_of_promise ?_ ((run.eachStep fun _ _ run => run).and sameStrategy)
  rintro state bar ⟨run, single⟩
  refine forall₂_congr fun attempt member => forall₂_congr fun position opened => ?_
  exact sizedByStreak_iff_le sizing (stepAttempts_single run single member)
    (stepAttempts_streaked run single attempt member) opened

/-- One percent a trade, and half a percent after a single loss. -/
def cautiousPoc : PocConfig where
  settings := { baseEquity := 1000, basePerTradePct := 1, streak := { lossThreshold := 1 } }
  primaryStrategy := "m1"
  spreadPips := 0
  entryOnNextBar := false

def stoppedBars : List Bar :=
  [morningBar 0 100 100 100 [{ strategyId := "m1" }],
    morningBar 5 100 99 100 [{ strategyId := "m1" }]]

theorem sizedByStreak_stopped :
    (simulatePaperPoc cautiousPoc stoppedBars).openings.map (·.position.riskAmount) =
        [10, 99 / 20] ∧
      AllSizedByStreak cautiousPoc stoppedBars := by
  refine ⟨by decide +kernel, (sizedByStreak_iff rfl ?_).mpr ?_⟩
  · unfold SingleBar
    decide +kernel
  · unfold NeverAboveBase
    decide +kernel

def steadyPoc : PocConfig where
  settings := { baseEquity := 1000, basePerTradePct := 1 / 2 }
  primaryStrategy := "m1"
  spreadPips := 0
  entryOnNextBar := false

/-- Two trades that reach their target, and a third one. -/
def winningBars : List Bar :=
  [morningBar 0 100 100 100 [{ strategyId := "m1" }],
    morningBar 5 102 100 100 [{ strategyId := "m1" }],
    morningBar 10 102 100 100 [{ strategyId := "m1" }]]

theorem thirdTrade_not_raised :
    steadyPoc.fixedRisk = false ∧ (∀ bar ∈ winningBars, SingleBar steadyPoc bar) ∧
      ¬ AllSizedByStreak steadyPoc winningBars := by
  refine ⟨rfl, by unfold SingleBar; decide +kernel, fun sized => ?_⟩
  have used : EachStep (stepBar steadyPoc)
      (fun state bar => ∀ attempt ∈ stepAttempts steadyPoc state bar,
        ∀ _position ∈ openedBy steadyPoc bar attempt,
          newRiskPct steadyPoc attempt.1 attempt.2 = prescribedFor steadyPoc attempt.1)
      (initialState steadyPoc) (eventStream winningBars) :=
    EachStep.imp (fun _ _ every attempt member position opened =>
      (every attempt member position opened).pct) sized
  exact absurd used (by decide +kernel)

end FxToushi.Backtest
