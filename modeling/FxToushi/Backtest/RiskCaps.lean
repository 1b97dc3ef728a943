import FxToushi.Backtest.Entries
import FxToushi.Backtest.Exits
import Mathlib.Tactic.FieldSimp

namespace FxToushi.Backtest

open Data Py

/-! # Risk caps of the paper simulator

The caps are checked against percentages of the starting equity, while a new
position is sized from the equity at that moment.
-/

def totalRisk (positions : List Position) : Rat := (positions.map (·.riskAmount)).sum

def Opening.bucket (opening : Opening) : List Position :=
  opening.before.filter (fun pos => sharesCurrency opening.position.symbol pos.symbol)

/-- After the opening, the open risk and the risk of its currencies are within
the configured caps in percent of the equity at that moment. -/
structure CapsHold (settings : RiskProfileSettings) (opening : Opening) : Prop where
  total : ∀ hard, settings.totalRiskHardPct = some hard → hard ≠ 0 →
    totalRisk (opening.before ++ [opening.position]) ≤ hard / 100 * opening.equity
  bucket : ∀ cap, settings.bucketRiskCapPct = some cap → cap ≠ 0 →
    totalRisk (opening.bucket ++ [opening.position]) ≤ cap / 100 * opening.equity

/-- The run is solvent at the opening, and the starting equity shows no less
open risk than the equity at that moment, for each cap that is configured. -/
structure CheckedAtCurrent (settings : RiskProfileSettings) (opening : Opening) : Prop where
  solvent : 0 < opening.equity
  total : configured settings.totalRiskHardPct = true →
    riskPct opening.equity opening.before ≤ riskPct settings.baseEquity opening.before
  bucket : configured settings.bucketRiskCapPct = true →
    riskPct opening.equity opening.bucket ≤ riskPct settings.baseEquity opening.bucket

instance (settings : RiskProfileSettings) (opening : Opening) :
    Decidable (CheckedAtCurrent settings opening) :=
  decidable_of_iff
    (0 < opening.equity ∧
      (configured settings.totalRiskHardPct = true →
        riskPct opening.equity opening.before ≤ riskPct settings.baseEquity opening.before) ∧
      (configured settings.bucketRiskCapPct = true →
        riskPct opening.equity opening.bucket ≤ riskPct settings.baseEquity opening.bucket))
    ⟨fun holds => ⟨holds.1, holds.2.1, holds.2.2⟩,
      fun checked => ⟨checked.solvent, checked.total, checked.bucket⟩⟩

theorem allPass_iff (checks : List (Except PyError Bool)) :
    allPass checks = .ok true ↔ ∀ check ∈ checks, check = .ok true := by
  induction checks with
  | nil => simp [allPass]
  | cons check rest ih =>
    rw [List.forall_mem_cons, ← ih]
    rcases check with error | passed
    · simp [allPass, bind, Except.bind]
    · cases passed <;> simp [allPass, bind, Except.bind, pure, Except.pure]

theorem openRiskPct_ok {equity pct : Rat} {positions : List Position}
    (computed : openRiskPct equity positions = .ok pct) : pct = riskPct equity positions := by
  unfold openRiskPct at computed
  split at computed
  · exact absurd computed (by simp)
  · exact (Except.ok.inj computed).symm

theorem le_of_not_exceeds {limit value : Rat} (set : limit ≠ 0)
    (within : (!exceeds (some limit) value) = true) : value ≤ limit := by
  simpa [exceeds, set] using within

theorem withinLimits_caps {config : PocConfig} {state : PocState} {spec : EntrySpec} {pct : Rat}
    (passed : withinLimits config state spec pct = .ok true) :
    (∀ hard, config.settings.totalRiskHardPct = some hard → hard ≠ 0 →
        riskPct config.settings.baseEquity state.positions + pct ≤ hard) ∧
      ∀ cap, config.settings.bucketRiskCapPct = some cap → cap ≠ 0 →
        riskPct config.settings.baseEquity
          (state.positions.filter fun pos => sharesCurrency spec.symbol pos.symbol) +
            pct ≤ cap := by
  obtain ⟨total, computed, passed⟩ := bind_ok passed
  obtain rfl := openRiskPct_ok computed
  rw [allPass_iff] at passed
  simp only [List.forall_mem_cons] at passed
  obtain ⟨hardPassed, -, bucketPassed, -⟩ := passed
  refine ⟨fun hard limit set => ?_, fun cap limit set => ?_⟩
  · rw [limit] at hardPassed
    exact le_of_not_exceeds set (Except.ok.inj hardPassed)
  · have capped : configured config.settings.bucketRiskCapPct = true := by
      simp [configured, limit, set]
    rw [if_pos capped, limit] at bucketPassed
    obtain ⟨bucket, computed, bucketPassed⟩ := bind_ok bucketPassed
    obtain rfl := openRiskPct_ok computed
    exact le_of_not_exceeds set (Except.ok.inj bucketPassed)

/-- What the simulator knows about a position it has just opened: it was sized
by a percentage that passed the limits. -/
structure Admitted (config : PocConfig) (opening : Opening) (pct : Rat) : Prop where
  sized : opening.position.riskAmount =
    (if config.fixedRisk then config.settings.baseEquity else opening.equity) * (pct / 100)
  total : ∀ hard, config.settings.totalRiskHardPct = some hard → hard ≠ 0 →
    riskPct config.settings.baseEquity opening.before + pct ≤ hard
  bucket : ∀ cap, config.settings.bucketRiskCapPct = some cap → cap ≠ 0 →
    riskPct config.settings.baseEquity opening.bucket + pct ≤ cap

def AllAdmitted (config : PocConfig) (state : PocState) : Prop :=
  ∀ opening ∈ state.openings, ∃ pct, Admitted config opening pct

theorem positionOf_admitted {config : PocConfig} {state : PocState} {spec : EntrySpec}
    (ts : Timestamp) (quote : EntryQuote) (ttlMinutes : Int)
    (passed : withinLimits config state spec (newRiskPct config state spec) = .ok true) :
    Admitted config
      { position := positionOf config ts state spec quote ttlMinutes, equity := state.equity
        before := state.positions }
      (newRiskPct config state spec) :=
  ⟨rfl, (withinLimits_caps passed).1, (withinLimits_caps passed).2⟩

theorem attempt_allAdmitted {config : PocConfig} {ts : Timestamp} {row : Row}
    {state next : PocState} {spec : EntrySpec} (admitted : AllAdmitted config state)
    (attempted : attemptOpenPosition config ts row state spec = .ok next) :
    AllAdmitted config next := by
  rcases attemptOpenPosition_cases attempted with
    rfl | rfl | ⟨_, ttlMinutes, quote, -, limits, rfl⟩
  · exact admitted
  · exact admitted
  · intro opening member
    rcases List.mem_append.mp member with earlier | now
    · exact admitted opening earlier
    · rw [List.mem_singleton.mp now]
      exact ⟨_, positionOf_admitted ts quote ttlMinutes limits⟩

theorem stepBar_allAdmitted (config : PocConfig) (bar : Bar) {state : PocState}
    (admitted : AllAdmitted config state) : AllAdmitted config (stepBar config state bar) := by
  refine stepBar_preserves (AllAdmitted config) ?_ ?_ ?_ admitted
  · exact fun _ _ _ _ admitted => admitted
  · intro admitted
    unfold AllAdmitted
    rwa [exitPass_openings]
  · exact fun attempt _ next admitted attempted => attempt_allAdmitted admitted attempted

theorem simulate_allAdmitted (config : PocConfig) (bars : List Bar) :
    AllAdmitted config (simulatePaperPoc config bars) := by
  have start : AllAdmitted config (initialState config) :=
    fun _ member => absurd member List.not_mem_nil
  have run : Throughout (stepBar config) (AllAdmitted config) (initialState config)
      (eventStream bars) :=
    throughout_of_step (fun _ bar admitted => stepBar_allAdmitted config bar admitted) start
  unfold AllAdmitted
  rw [simulate_openings]
  exact run.final

theorem totalRisk_eq_riskPct {equity : Rat} (solvent : 0 < equity) (positions : List Position) :
    totalRisk positions = riskPct equity positions / 100 * equity := by
  induction positions with
  | nil => simp [totalRisk, riskPct]
  | cons pos rest ih =>
    have first : pos.riskAmount = pos.riskAmount / equity * 100 / 100 * equity := by
      field_simp
    simp only [totalRisk, riskPct, List.map_cons, List.sum_cons] at ih ⊢
    rw [ih, add_div, add_mul, ← first]

theorem totalRisk_append_le {equity pct limit : Rat} {positions : List Position}
    {position : Position} (solvent : 0 < equity)
    (sized : position.riskAmount = equity * (pct / 100))
    (within : riskPct equity positions + pct ≤ limit) :
    totalRisk (positions ++ [position]) ≤ limit / 100 * equity := by
  have split : totalRisk (positions ++ [position]) =
      totalRisk positions + position.riskAmount := by simp [totalRisk]
  rw [split, totalRisk_eq_riskPct solvent, sized]
  have scaled := mul_le_mul_of_nonneg_right within (by linarith : (0 : Rat) ≤ equity / 100)
  linarith

theorem capsHold_of_admitted {config : PocConfig} {opening : Opening} {pct : Rat}
    (sizing : config.fixedRisk = false) (admitted : Admitted config opening pct)
    (current : CheckedAtCurrent config.settings opening) : CapsHold config.settings opening := by
  have sized := admitted.sized
  rw [sizing] at sized
  refine ⟨fun hard limit set => ?_, fun cap limit set => ?_⟩
  · have stale := current.total (by simp [configured, limit, set])
    exact totalRisk_append_le current.solvent sized
      (by linarith [admitted.total hard limit set])
  · have stale := current.bucket (by simp [configured, limit, set])
    exact totalRisk_append_le current.solvent sized
      (by linarith [admitted.bucket cap limit set])

/-- In a run whose openings are all made where the starting equity shows no
less risk than the current one, the caps hold after every opening. -/
theorem capsHold_of_checkedAtCurrent {config : PocConfig} {bars : List Bar}
    (sizing : config.fixedRisk = false)
    (current : ∀ opening ∈ (simulatePaperPoc config bars).openings,
      CheckedAtCurrent config.settings opening) :
    ∀ opening ∈ (simulatePaperPoc config bars).openings, CapsHold config.settings opening := by
  intro opening member
  obtain ⟨pct, admitted⟩ := simulate_allAdmitted config bars opening member
  exact capsHold_of_admitted sizing admitted (current opening member)

def twoPercentPoc : PocConfig where
  settings := { baseEquity := 1000, basePerTradePct := 1, totalRiskHardPct := some 2 }
  primaryStrategy := "m1"
  spreadPips := 0
  entryOnNextBar := false

def noonBar (minute : Int) (symbol : String) (high low close : Rat) : Bar where
  ts := Timestamp.fromMinutes (720 + minute)
  symbol
  row := { openPrice := none, high, low, close, atr := some 1 }
  signals := [{ strategyId := "m1" }]

theorem capsHold_two_openings :
    (simulatePaperPoc twoPercentPoc
        [noonBar 0 "USDJPY" 101 100 100, noonBar 0 "EURGBP" 101 100 100]).openings.length = 2 ∧
      ∀ opening ∈ (simulatePaperPoc twoPercentPoc
          [noonBar 0 "USDJPY" 101 100 100, noonBar 0 "EURGBP" 101 100 100]).openings,
        CapsHold twoPercentPoc.settings opening :=
  ⟨by decide +kernel, capsHold_of_checkedAtCurrent rfl (by decide +kernel)⟩

/-- After a stop the equity is lower, and an opening next to an earlier
position takes the total above the cap. -/
theorem total_cap_exceeded_after_loss :
    twoPercentPoc.fixedRisk = false ∧
      ¬ ∀ opening ∈ (simulatePaperPoc twoPercentPoc
          [noonBar 0 "USDJPY" 101 100 100, noonBar 0 "EURGBP" 101 100 100,
            noonBar 5 "EURGBP" 100 98 99]).openings,
        CapsHold twoPercentPoc.settings opening := by
  refine ⟨rfl, fun holds => ?_⟩
  have beyond : ∃ opening ∈ (simulatePaperPoc twoPercentPoc
      [noonBar 0 "USDJPY" 101 100 100, noonBar 0 "EURGBP" 101 100 100,
        noonBar 5 "EURGBP" 100 98 99]).openings,
      2 / 100 * opening.equity < totalRisk (opening.before ++ [opening.position]) := by
    decide +kernel
  obtain ⟨opening, member, exceeded⟩ := beyond
  have capped := (holds opening member).total 2 rfl (by norm_num)
  linarith

end FxToushi.Backtest
