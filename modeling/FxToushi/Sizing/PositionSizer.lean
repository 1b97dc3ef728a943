import FxToushi.Data.Dict
import FxToushi.Py.Rounding
import Mathlib.Data.List.Sort

namespace FxToushi.Sizing

open Data

/-! # Position sizing

The lots a risk amount buys at a stop distance, on the broker's lot steps, and
the stop and take-profit distances recommended with them.
-/

inductive SizingError where
  | brokerRulesError (message : String)
  | valueError (message : String)
deriving Repr, DecidableEq

structure SymbolRules where
  pipSize : Rat
  contractSize : Rat
  minLot : Rat
  lotStep : Rat
  minDistancePips : Dict String Rat
  protectPips : Option Rat

structure BrokerRules where
  symbols : Dict String SymbolRules

def BrokerRules.forSymbol (rules : BrokerRules) (symbol : String) :
    Except SizingError SymbolRules :=
  match rules.symbols.get? symbol with
  | some found => .ok found
  | none => .error (.brokerRulesError ("Symbol " ++ symbol ++
      " is not defined in broker rules (available: " ++
      ", ".intercalate (rules.symbols.keys.insertionSort (· ≤ ·)) ++ ")"))

structure SizingRequest where
  symbol : String
  equity : Rat
  riskPct : Rat
  stopDistancePips : Rat
  takeProfitRatio : Rat := 2
  atrPips : Option Rat := none
  entryType : String := "marketable_limit"
  ttlSeconds : Option Int := none

structure OcoRecommendation where
  stopLossPips : Rat
  takeProfitPips : Rat
  minDistancePips : Rat
deriving Repr, DecidableEq

structure SizingMetadata where
  minLot : Rat
  lotStep : Rat
  pipSize : Rat
  contractSize : Rat
  minDistancePips : Dict String Rat
  entryType : String
  ttlSeconds : Option Int
deriving DecidableEq

structure SizingResult where
  sizeLot : Rat
  rawSizeLot : Rat
  oco : OcoRecommendation
  metadata : SizingMetadata
deriving DecidableEq

def fractionalSize (equity riskPct stopDistance : Rat) : Except SizingError Rat :=
  let riskAmount := equity * (riskPct / 100)
  if stopDistance ≤ 0 then .error (.valueError "stop_distance must be positive")
  else .ok (riskAmount / stopDistance)

def roundLot (size lotStep : Rat) : Except SizingError Rat :=
  if lotStep ≤ 0 then .error (.valueError "lot_step must be positive")
  else
    let stepped := floorTo lotStep size
    .ok (if stepped ≤ 0 then lotStep else stepped)

/-- The broker's minimum under either of its two names. -/
def minDistance (rules : SymbolRules) (short long : String) : Rat :=
  (rules.minDistancePips.get? short).getD ((rules.minDistancePips.get? long).getD 0)

/-- `max(stop, hint)` where there is a hint. -/
def widen (stop : Rat) : Option Rat → Rat
  | none => stop
  | some hint => max stop hint

def stopLoss (rules : SymbolRules) (request : SizingRequest) : Rat :=
  widen (widen (max request.stopDistancePips (minDistance rules "sl" "stop_loss"))
    rules.protectPips) request.atrPips

def size (brokerRules : BrokerRules) (request : SizingRequest) :
    Except SizingError SizingResult := do
  let rules ← brokerRules.forSymbol request.symbol
  if request.stopDistancePips ≤ 0 then
    throw (.valueError "stop_distance_pips must be positive")
  if request.riskPct ≤ 0 then throw (.valueError "risk_pct must be positive")
  if request.equity ≤ 0 then throw (.valueError "equity must be positive")
  let pipValuePerLot := rules.contractSize * rules.pipSize
  let affordable ← fractionalSize request.equity request.riskPct
    (request.stopDistancePips * pipValuePerLot)
  let rawLot := max affordable rules.minLot
  let rounded ← roundLot rawLot rules.lotStep
  let sizeLot := if rounded < rules.minLot then rules.minLot else rounded
  let stop := stopLoss rules request
  return {
    sizeLot
    rawSizeLot := rawLot
    oco := {
      stopLossPips := stop
      takeProfitPips := max (stop * request.takeProfitRatio) (minDistance rules "tp" "take_profit")
      minDistancePips := minDistance rules "sl" "stop_loss" }
    metadata := {
      minLot := rules.minLot
      lotStep := rules.lotStep
      pipSize := rules.pipSize
      contractSize := rules.contractSize
      minDistancePips := rules.minDistancePips
      entryType := request.entryType
      ttlSeconds := request.ttlSeconds } }

/-! ## The risk of the sized position -/

structure SymbolRules.Positive (rules : SymbolRules) : Prop where
  contractSize : 0 < rules.contractSize
  pipSize : 0 < rules.pipSize
  minLot : 0 < rules.minLot
  lotStep : 0 < rules.lotStep

structure SizingRequest.Positive (request : SizingRequest) : Prop where
  equity : 0 < request.equity
  riskPct : 0 < request.riskPct
  stopDistancePips : 0 < request.stopDistancePips

section Risk

variable (rules : SymbolRules) (request : SizingRequest)

def pipValuePerLot : Rat := rules.contractSize * rules.pipSize

def riskAmount : Rat := request.equity * request.riskPct / 100

/-- The lots that lose the risk amount at the requested stop. -/
def affordableLots : Rat :=
  riskAmount request / (request.stopDistancePips * pipValuePerLot rules)

/-- The minimums the stop is widened to. -/
def stopMinimums : List Rat :=
  minDistance rules "sl" "stop_loss" :: (rules.protectPips.toList ++ request.atrPips.toList)

/-- The position loses at most the risk amount at the recommended stop, or is
the smallest the broker takes. -/
def WithinRisk (result : SizingResult) : Prop :=
  result.sizeLot * result.oco.stopLossPips * rules.contractSize * rules.pipSize ≤
      request.equity * request.riskPct / 100 ∨
    result.sizeLot = rules.minLot

/-- The lots of a request: those affordable in whole steps, at least one step
and at least the minimum. -/
def sizedLots : Rat :=
  let stepped := floorTo rules.lotStep (max (affordableLots rules request) rules.minLot)
  max (if stepped ≤ 0 then rules.lotStep else stepped) rules.minLot

variable {rules request}

theorem widen_le_iff {stop limit : Rat} {hint : Option Rat} :
    widen stop hint ≤ limit ↔ stop ≤ limit ∧ ∀ other ∈ hint.toList, other ≤ limit := by
  cases hint with
  | none => simp [widen]
  | some hint => simp [widen]

theorem stopLoss_le_iff {limit : Rat} :
    stopLoss rules request ≤ limit ↔
      request.stopDistancePips ≤ limit ∧
        ∀ minimum ∈ stopMinimums rules request, minimum ≤ limit := by
  rw [stopLoss, widen_le_iff, widen_le_iff, max_le_iff, stopMinimums, List.forall_mem_cons,
    List.forall_mem_append]
  simp only [and_assoc]

theorem pipValuePerLot_pos (positive : rules.Positive) : 0 < pipValuePerLot rules :=
  mul_pos positive.contractSize positive.pipSize

theorem size_spec {brokerRules : BrokerRules}
    (found : brokerRules.forSymbol request.symbol = .ok rules)
    (positive : rules.Positive) (asked : request.Positive) :
    ∃ result, size brokerRules request = .ok result ∧
      result.sizeLot = sizedLots rules request ∧
      result.oco.stopLossPips = stopLoss rules request := by
  have distance : 0 < request.stopDistancePips * (rules.contractSize * rules.pipSize) :=
    mul_pos asked.stopDistancePips (pipValuePerLot_pos positive)
  have affordable : fractionalSize request.equity request.riskPct
      (request.stopDistancePips * (rules.contractSize * rules.pipSize)) =
        .ok (affordableLots rules request) := by
    rw [fractionalSize, if_neg (not_le.mpr distance), affordableLots, riskAmount,
      mul_div_assoc request.equity request.riskPct 100]
    rfl
  have rounded : roundLot (max (affordableLots rules request) rules.minLot) rules.lotStep =
      .ok (if floorTo rules.lotStep (max (affordableLots rules request) rules.minLot) ≤ 0 then
        rules.lotStep else
          floorTo rules.lotStep (max (affordableLots rules request) rules.minLot)) :=
    if_neg (not_le.mpr positive.lotStep)
  unfold size
  rw [found]
  simp only [bind, Except.bind, if_neg (not_le.mpr asked.stopDistancePips),
    if_neg (not_le.mpr asked.riskPct), if_neg (not_le.mpr asked.equity), pure, Except.pure,
    affordable, rounded]
  exact ⟨_, rfl, (max_def_lt _ _).symm, rfl⟩

/-- What is left of the affordable lots on the broker's steps. -/
def steppedLots (rules : SymbolRules) (request : SizingRequest) : Rat :=
  floorTo rules.lotStep (affordableLots rules request)

/-- The lot step is not above both the affordable lots and the minimum, and
either the minimum is sized or every minimum of the stop is close enough for
the stepped lots to lose at most the risk amount there. -/
def StopsAffordable (rules : SymbolRules) (request : SizingRequest) : Prop :=
  rules.lotStep ≤ max (affordableLots rules request) rules.minLot ∧
    (steppedLots rules request ≤ rules.minLot ∨
      ∀ minimum ∈ stopMinimums rules request,
        steppedLots rules request * (minimum * pipValuePerLot rules) ≤ riskAmount request)

theorem sizedLots_of_small_step (positive : rules.Positive)
    (small : rules.lotStep ≤ max (affordableLots rules request) rules.minLot) :
    sizedLots rules request = max (steppedLots rules request) rules.minLot := by
  have stepped : ¬ floorTo rules.lotStep (max (affordableLots rules request) rules.minLot) ≤ 0 := by
    rw [floorTo_nonpos_iff positive.lotStep]
    exact not_lt.mpr small
  simp only [sizedLots, if_neg stepped, steppedLots]
  cases le_total (affordableLots rules request) rules.minLot with
  | inl below =>
    rw [max_eq_right below, max_eq_right (floorTo_le positive.lotStep _),
      max_eq_right ((floorTo_le positive.lotStep _).trans below)]
  | inr above => rw [max_eq_left above]

theorem sizedLots_of_large_step (positive : rules.Positive)
    (large : max (affordableLots rules request) rules.minLot < rules.lotStep) :
    sizedLots rules request = rules.lotStep := by
  have nothing : floorTo rules.lotStep (max (affordableLots rules request) rules.minLot) ≤ 0 :=
    (floorTo_nonpos_iff positive.lotStep).mpr large
  simp only [sizedLots, if_pos nothing]
  exact max_eq_left ((le_max_right _ _).trans (le_of_lt large))

theorem loss_le_iff (positive : rules.Positive) {lots stop : Rat} (some_lots : 0 < lots) :
    lots * stop * rules.contractSize * rules.pipSize ≤ request.equity * request.riskPct / 100 ↔
      stop ≤ riskAmount request / (lots * pipValuePerLot rules) := by
  have loss : lots * stop * rules.contractSize * rules.pipSize =
      stop * (lots * pipValuePerLot rules) := by
    rw [pipValuePerLot]
    ring
  rw [le_div_iff₀ (mul_pos some_lots (pipValuePerLot_pos positive)), loss, riskAmount]

theorem stop_le_iff (positive : rules.Positive) {lots stop : Rat} (some_lots : 0 < lots) :
    stop ≤ riskAmount request / (lots * pipValuePerLot rules) ↔
      lots * (stop * pipValuePerLot rules) ≤ riskAmount request := by
  rw [le_div_iff₀ (mul_pos some_lots (pipValuePerLot_pos positive)), mul_left_comm]

theorem requested_le_iff (positive : rules.Positive) (asked : request.Positive) {lots : Rat}
    (some_lots : 0 < lots) :
    request.stopDistancePips ≤ riskAmount request / (lots * pipValuePerLot rules) ↔
      lots ≤ affordableLots rules request := by
  rw [stop_le_iff positive some_lots, affordableLots,
    le_div_iff₀ (mul_pos asked.stopDistancePips (pipValuePerLot_pos positive))]

theorem withinRisk_iff {brokerRules : BrokerRules}
    (found : brokerRules.forSymbol request.symbol = .ok rules)
    (positive : rules.Positive) (asked : request.Positive) :
    (∃ result, size brokerRules request = .ok result ∧ WithinRisk rules request result) ↔
      sizedLots rules request * stopLoss rules request * rules.contractSize * rules.pipSize ≤
          request.equity * request.riskPct / 100 ∨
        sizedLots rules request = rules.minLot := by
  obtain ⟨result, sized, lots, stop⟩ := size_spec found positive asked
  simp [sized, WithinRisk, lots, stop]

/-- A sized position stays within its risk exactly when the stops are affordable. -/
theorem size_withinRisk_iff {brokerRules : BrokerRules}
    (found : brokerRules.forSymbol request.symbol = .ok rules)
    (positive : rules.Positive) (asked : request.Positive) :
    (∃ result, size brokerRules request = .ok result ∧ WithinRisk rules request result) ↔
      StopsAffordable rules request := by
  rw [withinRisk_iff found positive asked, StopsAffordable]
  cases le_or_gt rules.lotStep (max (affordableLots rules request) rules.minLot) with
  | inl small =>
    rw [sizedLots_of_small_step positive small]
    simp only [small, true_and]
    cases le_or_gt (steppedLots rules request) rules.minLot with
    | inl below => exact iff_of_true (.inr (max_eq_right below)) (.inl below)
    | inr above =>
      have some_lots := positive.minLot.trans above
      have requested : request.stopDistancePips ≤
          riskAmount request / (steppedLots rules request * pipValuePerLot rules) :=
        (requested_le_iff positive asked some_lots).mpr (floorTo_le positive.lotStep _)
      rw [max_eq_left (le_of_lt above), loss_le_iff positive some_lots, stopLoss_le_iff]
      simp only [requested, true_and, ne_of_gt above, or_false, not_le.mpr above, false_or,
        ← stop_le_iff positive some_lots]
  | inr large =>
    obtain ⟨few, step_above⟩ := max_lt_iff.mp large
    rw [sizedLots_of_large_step positive large]
    refine iff_of_false ?_ (fun affordable => absurd affordable.1 (not_le.mpr large))
    intro within
    cases within with
    | inr minimal => exact absurd minimal (ne_of_gt step_above)
    | inl bounded =>
      rw [loss_le_iff positive positive.lotStep, stopLoss_le_iff] at bounded
      exact absurd ((requested_le_iff positive asked positive.lotStep).mp bounded.1)
        (not_le.mpr few)

end Risk

/-! ## One pair at two stops -/

def usdJpy (lotStep : Rat) : SymbolRules where
  pipSize := 1 / 100
  contractSize := 100000
  minLot := 1 / 10
  lotStep := lotStep
  minDistancePips := Dict.empty.set "stop_loss" (7 / 2)
  protectPips := some (3 / 2)

def onlyUsdJpy (lotStep : Rat) : BrokerRules := ⟨Dict.empty.set "USDJPY" (usdJpy lotStep)⟩

def onePercent (equity stopDistancePips : Rat) : SizingRequest where
  symbol := "USDJPY"
  equity := equity
  riskPct := 1
  stopDistancePips := stopDistancePips

theorem usdJpy_positive {lotStep : Rat} (positive : 0 < lotStep) : (usdJpy lotStep).Positive :=
  ⟨show (0 : Rat) < 100000 by decide +kernel, show (0 : Rat) < 1 / 100 by decide +kernel,
    show (0 : Rat) < 1 / 10 by decide +kernel, positive⟩

theorem onePercent_positive {equity stop : Rat} (funded : 0 < equity) (distance : 0 < stop) :
    (onePercent equity stop).Positive :=
  ⟨funded, zero_lt_one, distance⟩

/-- A stop above the minimums is kept, and the lots are those affordable there. -/
theorem ten_pips_withinRisk :
    ∃ result, size (onlyUsdJpy (1 / 100)) (onePercent 1000000 10) = .ok result ∧
      WithinRisk (usdJpy (1 / 100)) (onePercent 1000000 10) result :=
  (size_withinRisk_iff rfl (usdJpy_positive (by decide +kernel))
    (onePercent_positive (by decide +kernel) (by decide +kernel))).mpr
    ⟨by decide +kernel, .inr (by decide +kernel)⟩

/-- Five lots affordable at two pips lose 17500 of the 10000 at the broker's
minimum, and a lot step of one is sized where a hundredth is affordable. -/
theorem two_pips_over_risk :
    (¬ ∃ result, size (onlyUsdJpy (1 / 100)) (onePercent 1000000 2) = .ok result ∧
      WithinRisk (usdJpy (1 / 100)) (onePercent 1000000 2) result) ∧
    ¬ ∃ result, size (onlyUsdJpy 1) (onePercent 10000 10) = .ok result ∧
      WithinRisk (usdJpy 1) (onePercent 10000 10) result := by
  have stop_widened : (onlyUsdJpy (1 / 100)).forSymbol (onePercent 1000000 2).symbol =
      .ok (usdJpy (1 / 100)) := rfl
  have step_sized : (onlyUsdJpy 1).forSymbol (onePercent 10000 10).symbol = .ok (usdJpy 1) := rfl
  rw [withinRisk_iff stop_widened (usdJpy_positive (by decide +kernel))
      (onePercent_positive (by decide +kernel) (by decide +kernel)),
    withinRisk_iff step_sized (usdJpy_positive (by decide +kernel))
      (onePercent_positive (by decide +kernel) (by decide +kernel))]
  decide +kernel

end FxToushi.Sizing
