import FxToushi.Py.Extended
import FxToushi.Strategies.RoundSpacing

namespace FxToushi.Strategies.Contract

open Calendar Py RoundNumber.RoundNumberRejectionStrategy

/-! # The candidate contract

The admission layer takes candidates whose fields keep the contract.  They are
checked one after the other, and the first that breaks its rule is reported.
The round-number strategy keeps every rule, but hands on the cost it is given.
-/

/-- What stands in a field, by the types that the contract tells apart. -/
inductive FieldValue where
  | bool (value : Bool)
  | int (value : Int)
  | float (value : Extended)
  | str (text : String)
  | datetime (date : DateTime)
  | other (typeName : String)
deriving DecidableEq

structure Candidate where
  strategyId : FieldValue
  symbol : FieldValue
  side : FieldValue
  entry : FieldValue
  stop : FieldValue
  target : FieldValue
  expectedEdge : FieldValue
  estimatedCost : FieldValue
  confidence : FieldValue
  expectedHoldingMinutes : FieldValue
  portfolioGroup : FieldValue
  exposureBucket : FieldValue
  regimeFit : FieldValue
  timestamp : FieldValue
deriving DecidableEq

/-- What a message shows at its end: a value, its type, or numbers. -/
inductive Shown where
  | value (value : FieldValue)
  | typeOf (value : FieldValue)
  | typeName (name : String)
  | number (value : Extended)
  | prices (values : List (String × Extended))
  | nothing
deriving DecidableEq

inductive ValidationError where
  | contract (message : String) (shown : Shown)
  | overflowError
deriving DecidableEq

def requireStr (name : String) (value : FieldValue) : Except ValidationError Unit :=
  let error := ValidationError.contract (name ++ " must be a non-empty str, got ") (.value value)
  match value with
  | .str text => if text = "" then .error error else .ok ()
  | _ => .error error

/-- An integer has a float unless it rounds to 2 to the 1024. -/
def requireNumber (name : String) (value : FieldValue) : Except ValidationError Extended :=
  match value with
  | .int number =>
    if number.natAbs < 2 ^ 1024 - 2 ^ 970 then .ok (.finite number) else .error .overflowError
  | .float number => .ok number
  | _ => .error (.contract (name ++ " must be numeric (int or float), got ") (.typeOf value))

def requireThat (holds : Bool) (message : String) (shown : Shown) : Except ValidationError Unit :=
  if holds then .ok () else .error (.contract message shown)

def isPositiveInt : FieldValue → Bool
  | .int value => decide (0 < value)
  | _ => false

def requireTimestamp (value : FieldValue) : Except ValidationError Unit :=
  match value with
  | .datetime date =>
    requireThat date.offset.isSome "timestamp must be timezone-aware (UTC preferred)" .nothing
  | _ => .error (.contract "timestamp must be a datetime, got " (.typeOf value))

def requirePrices (side : FieldValue) (entry stop target : Extended) :
    Except ValidationError Unit :=
  if side = .str "long" then
    requireThat (stop < entry ∧ entry < target)
      "long candidate requires stop < entry < target, got "
      (.prices [("stop", stop), ("entry", entry), ("target", target)])
  else
    requireThat (target < entry ∧ entry < stop)
      "short candidate requires target < entry < stop, got "
      (.prices [("target", target), ("entry", entry), ("stop", stop)])

/-- An argument that is no candidate is told by its type. -/
inductive Given where
  | candidate (candidate : Candidate)
  | other (typeName : String)

def requireCandidate : Given → Except ValidationError Candidate
  | .candidate candidate => .ok candidate
  | .other typeName => .error (.contract "expected Candidate, got " (.typeName typeName))

def validateCandidate (given : Given) : Except ValidationError Unit := do
  let candidate ← requireCandidate given
  requireStr "strategy_id" candidate.strategyId
  requireStr "symbol" candidate.symbol
  requireStr "portfolio_group" candidate.portfolioGroup
  requireStr "exposure_bucket" candidate.exposureBucket
  requireThat (candidate.side = .str "long" ∨ candidate.side = .str "short")
    "side must be 'long' or 'short', got " (.value candidate.side)
  let entry ← requireNumber "entry" candidate.entry
  let stop ← requireNumber "stop" candidate.stop
  let target ← requireNumber "target" candidate.target
  let _ ← requireNumber "expected_edge" candidate.expectedEdge
  let estimatedCost ← requireNumber "estimated_cost" candidate.estimatedCost
  requireThat (¬ estimatedCost < 0) "estimated_cost must be >= 0, got " (.number estimatedCost)
  let confidence ← requireNumber "confidence" candidate.confidence
  requireThat (0 ≤ confidence ∧ confidence ≤ 1) "confidence must be within [0.0, 1.0], got "
    (.number confidence)
  let regimeFit ← requireNumber "regime_fit" candidate.regimeFit
  requireThat (-1 ≤ regimeFit ∧ regimeFit ≤ 1) "regime_fit must be within [-1.0, 1.0], got "
    (.number regimeFit)
  requireThat (isPositiveInt candidate.expectedHoldingMinutes)
    "expected_holding_minutes must be a positive int, got "
    (.value candidate.expectedHoldingMinutes)
  requireTimestamp candidate.timestamp
  requirePrices candidate.side entry stop target

/-! ## The candidates of the round-number strategy -/

def sideText : RoundNumber.Side → String
  | .long => "long"
  | .short => "short"

def ofRoundNumber (candidate : RoundNumber.Candidate) : Candidate where
  strategyId := .str candidate.strategyId
  symbol := .str candidate.symbol
  side := .str (sideText candidate.side)
  entry := .float (.finite candidate.entry)
  stop := .float (.finite candidate.stop)
  target := .float (.finite candidate.target)
  expectedEdge := .float (.finite candidate.expectedEdge)
  estimatedCost := .float (.finite candidate.estimatedCost)
  confidence := .float (.finite candidate.confidence)
  expectedHoldingMinutes := .int candidate.expectedHoldingMinutes
  portfolioGroup := .str candidate.portfolioGroup
  exposureBucket := .str candidate.exposureBucket
  regimeFit := .float (.finite candidate.regimeFit)
  timestamp := .datetime candidate.timestamp

/-- What the error of a cost below zero says. -/
def negativeCost (candidate : RoundNumber.Candidate) : ValidationError :=
  .contract "estimated_cost must be >= 0, got " (.number (.finite candidate.estimatedCost))

/-- The rules that do not read the cost. -/
structure KeepsRules (candidate : RoundNumber.Candidate) : Prop where
  strategyId : candidate.strategyId ≠ ""
  symbol : candidate.symbol ≠ ""
  portfolioGroup : candidate.portfolioGroup ≠ ""
  exposureBucket : candidate.exposureBucket ≠ ""
  confidence : 0 ≤ candidate.confidence ∧ candidate.confidence ≤ 1
  regimeFit : -1 ≤ candidate.regimeFit ∧ candidate.regimeFit ≤ 1
  holding : 0 < candidate.expectedHoldingMinutes
  aware : candidate.timestamp.offset.isSome = true
  ordered : candidate.Ordered

section Rules

variable {candidate : RoundNumber.Candidate}

theorem requireStr_ok {name text : String} (nonempty : text ≠ "") :
    requireStr name (.str text) = .ok () := by
  simp [requireStr, nonempty]

theorem requireThat_ok {holds : Bool} {message : String} {shown : Shown} (kept : holds = true) :
    requireThat holds message shown = .ok () := by
  rw [requireThat, if_pos kept]

theorem requireSide_ok (side : RoundNumber.Side) {message : String} {shown : Shown} :
    requireThat (FieldValue.str (sideText side) = .str "long" ∨
      FieldValue.str (sideText side) = .str "short") message shown = .ok () := by
  cases side with
  | long => rfl
  | short => rfl

theorem requirePrices_ok (ordered : candidate.Ordered) :
    requirePrices (.str (sideText candidate.side)) (.finite candidate.entry)
      (.finite candidate.stop) (.finite candidate.target) = .ok () := by
  rw [RoundNumber.Candidate.Ordered] at ordered
  rw [requirePrices]
  cases side : candidate.side with
  | long =>
    rw [side] at ordered
    rw [if_pos (by decide)]
    exact requireThat_ok
      (decide_eq_true ⟨decide_eq_true ordered.1, decide_eq_true ordered.2⟩)
  | short =>
    rw [side] at ordered
    rw [if_neg (by decide)]
    exact requireThat_ok
      (decide_eq_true ⟨decide_eq_true ordered.1, decide_eq_true ordered.2⟩)

/-- A candidate that keeps the other rules is judged by its cost. -/
theorem validate_keepsRules (keeps : KeepsRules candidate) :
    validateCandidate (.candidate (ofRoundNumber candidate)) =
      if candidate.estimatedCost < 0 then .error (negativeCost candidate) else .ok () := by
  have cost : (Extended.finite candidate.estimatedCost < 0) = (candidate.estimatedCost < 0) :=
    propext decide_eq_true_iff
  have confidence : requireThat ((0 : Extended) ≤ .finite candidate.confidence ∧
      Extended.finite candidate.confidence ≤ 1) "confidence must be within [0.0, 1.0], got "
      (.number (.finite candidate.confidence)) = .ok () :=
    requireThat_ok (decide_eq_true
      ⟨decide_eq_true keeps.confidence.1, decide_eq_true keeps.confidence.2⟩)
  have regimeFit : requireThat ((-1 : Extended) ≤ .finite candidate.regimeFit ∧
      Extended.finite candidate.regimeFit ≤ 1) "regime_fit must be within [-1.0, 1.0], got "
      (.number (.finite candidate.regimeFit)) = .ok () :=
    requireThat_ok (decide_eq_true
      ⟨decide_eq_true keeps.regimeFit.1, decide_eq_true keeps.regimeFit.2⟩)
  have holding : requireThat (isPositiveInt (.int candidate.expectedHoldingMinutes))
      "expected_holding_minutes must be a positive int, got "
      (.value (.int candidate.expectedHoldingMinutes)) = .ok () :=
    requireThat_ok (decide_eq_true keeps.holding)
  have timestamp : requireTimestamp (.datetime candidate.timestamp) = .ok () :=
    requireThat_ok keeps.aware
  rw [validateCandidate]
  simp only [requireCandidate, bind, Except.bind, ofRoundNumber, requireStr_ok keeps.strategyId,
    requireStr_ok keeps.symbol, requireStr_ok keeps.portfolioGroup,
    requireStr_ok keeps.exposureBucket, requireNumber, requireSide_ok, cost, confidence, regimeFit,
    holding, timestamp, requirePrices_ok keeps.ordered]
  by_cases negative : candidate.estimatedCost < 0
  · simp [requireThat, negative, negativeCost]
  · simp [requireThat, negative]

end Rules

section Emitted

variable {bar : RoundNumber.Bar} {utcTs : DateTime} {level : Rat}

theorem roundTo_between {low high value : Rat} {digits : Nat} (lowKept : roundTo low digits = low)
    (highKept : roundTo high digits = high) (above : low ≤ value) (below : value ≤ high) :
    low ≤ roundTo value digits ∧ roundTo value digits ≤ high :=
  ⟨lowKept ▸ roundTo_mono above digits, highKept ▸ roundTo_mono below digits⟩

theorem roundTo_intCast (value : Int) (digits : Nat) : roundTo (value : Rat) digits = value := by
  have scaled : (value : Rat) * 10 ^ digits = ((value * 10 ^ digits : Int) : Rat) := by
    push_cast
    rfl
  exact roundTo_of_whole scaled

theorem aware_of_utcTs? (known : bar.utcTs? = some utcTs) : utcTs.offset.isSome = true := by
  rw [RoundNumber.Bar.utcTs?] at known
  split at known
  · rw [DateTime.toUtc, DateTime.shift] at known
    split at known
    · obtain rfl := Option.some.inj known
      rfl
    · cases known
  · cases known

theorem keepsRules_candidate (whole : RoundNumber.IsRound level)
    (volatile : RoundNumber.minAtr ≤ bar.atrDaily) (known : bar.utcTs? = some utcTs) :
    KeepsRules (bar.candidate utcTs level) where
  strategyId := by simp [RoundNumber.Bar.candidate]
  symbol := by simp [RoundNumber.Bar.candidate]
  portfolioGroup := by simp [RoundNumber.Bar.candidate]
  exposureBucket := by simp [RoundNumber.Bar.candidate]
  confidence := by
    have above : 0 ≤ (bar.atrDaily - RoundNumber.minAtr) * (1 / 2) :=
      mul_nonneg (sub_nonneg.mpr volatile) (by norm_num)
    refine roundTo_between (by exact_mod_cast roundTo_intCast 0 4)
      (by exact_mod_cast roundTo_intCast 1 4) (le_min (by norm_num) (by linarith)) ?_
    exact (min_le_left _ _).trans (by norm_num)
  regimeFit := roundTo_between (by exact_mod_cast roundTo_intCast (-1) 4)
    (by exact_mod_cast roundTo_intCast 1 4) (le_min (by norm_num) (le_max_left _ _))
    (min_le_left _ _)
  holding := by simp [RoundNumber.Bar.candidate]
  aware := aware_of_utcTs? known
  ordered := (RoundNumber.Bar.candidate_ordered bar utcTs whole).1

theorem roundTo_neg_iff (value : Rat) : roundTo value 6 < 0 ↔ value < -(1 / 2000000) := by
  have scale : (0 : Rat) < 10 ^ 6 := by norm_num
  have rounds : roundTo value 6 < 0 ↔ ¬ 0 ≤ roundHalfEven (value * 10 ^ 6) := by
    rw [roundTo, div_lt_iff₀ scale, zero_mul, not_le]
    exact_mod_cast Iff.rfl
  rw [rounds, le_roundHalfEven_iff]
  constructor
  · intro negative
    by_contra above
    refine negative ?_
    rcases (not_lt.mp above).lt_or_eq with less | same
    · left
      push_cast
      linarith
    · right
      rw [← same]
      norm_num
  · rintro below (above | ⟨same, -⟩)
    · push_cast at above
      linarith
    · push_cast at same
      linarith

theorem volatile_of_emits {strategy : RoundNumber.RoundNumberRejectionStrategy}
    (emits : (strategy.generate bar).2 ≠ []) : RoundNumber.minAtr ≤ bar.atrDaily := by
  obtain ⟨_, stays, -⟩ | ⟨_, -, -, -, room, -⟩ :=
    generate_cases strategy bar
  · rw [stays] at emits
    exact absurd rfl emits
  · rw [RoundNumber.RoundNumberRejectionStrategy.room] at room
    split at room
    · rename_i open'
      exact open'.1
    · cases room

/-- A candidate that is emitted in a run breaks no rule but that of the cost, and this
one exactly when the cost that its bar gives rounds below zero. -/
theorem emitted_accepted (before : List RoundNumber.Bar) (bar : RoundNumber.Bar)
    {candidate : RoundNumber.Candidate}
    (member : candidate ∈ emitted before bar) :
    (validateCandidate (.candidate (ofRoundNumber candidate)) = .ok () ↔
        -(1 / 2000000) ≤ bar.estimatedCost) ∧
      (validateCandidate (.candidate (ofRoundNumber candidate)) = .error (negativeCost candidate) ↔
        bar.estimatedCost < -(1 / 2000000)) := by
  have emits := List.ne_nil_of_mem member
  obtain ⟨utcTs, level, known, -, -, fresh, -, single⟩ :=
    generate_emits emits
  have whole := (RoundNumber.Bar.mem_touched.mp (List.mem_filter.mp fresh).1).1
  rw [emitted, single, List.mem_singleton] at member
  subst member
  rw [validate_keepsRules (keepsRules_candidate whole (volatile_of_emits emits) known)]
  have cost : (bar.candidate utcTs level).estimatedCost < 0 ↔
      bar.estimatedCost < -(1 / 2000000) := roundTo_neg_iff bar.estimatedCost
  rw [if_congr cost rfl rfl, ← not_lt]
  split
  · rename_i negative
    exact ⟨iff_of_false (fun accepted => by cases accepted) (fun kept => kept negative),
      iff_of_true rfl negative⟩
  · rename_i kept
    exact ⟨iff_of_true rfl kept, iff_of_false (fun refused => by cases refused) kept⟩

/-- The first touch of 150 in a run. -/
theorem emitted_firstTouch :
    validateCandidate (.candidate (ofRoundNumber
      ((barAt 0 (by decide) (1499 / 10) (3001 / 20)).candidate
        (barAt 0 (by decide) (1499 / 10) (3001 / 20)).timestamp 150))) = .ok () :=
  (emitted_accepted [] (barAt 0 (by decide) (1499 / 10) (3001 / 20))
    (by decide +kernel)).1.mpr (by decide +kernel)

end Emitted

end FxToushi.Strategies.Contract
