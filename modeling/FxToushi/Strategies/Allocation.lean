import FxToushi.Data.Dict
import FxToushi.Strategies.Config
import Mathlib.Data.List.Sort
import Mathlib.Data.Prod.Lex
import Mathlib.Data.String.Basic
import Mathlib.Data.Sum.Order

namespace FxToushi.Strategies

open Data Py

/-! # Strategy allocation

Every candidate is judged on its own against the configuration and the open
positions; then each symbol keeps the best of the accepted ones.
-/

structure CandidateTrade where
  candidateId : String
  symbol : String
  side : String
  confidence : Option Extended := none
  expectedHoldingMinutes : Option Extended := none
  expectedEdge : Option Extended := none
  estimatedCost : Option Extended := none
  qualityScore : Option Extended := none

/-- The attributes of a signal, with `null` for one that is missing; of a symbol that
is `null`, `symbolMissing` tells whether it is missing or `None`. -/
structure AllocationSignal where
  symbol : Value
  symbolMissing : Bool := true
  direction : Value := .null
  score : Value := .null
  confidence : Value := .null
  qualityScore : Value := .null

/-- A candidate; `objectId` is the identity of the object. -/
structure AllocationCandidate where
  objectId : Nat
  strategyId : String
  signal : AllocationSignal
  priority : Int
  weight : Extended
  parameters : Mapping := []
  trade : Option CandidateTrade := none

structure AllocationActivePosition where
  strategyId : String
  symbol : String
  positionId : String := ""
  portfolioGroup : String := ""
  exposureBucket : String := ""
deriving Repr, DecidableEq

/-- `nowHour` is the hour of `now` in its own time zone. -/
structure AllocationContext where
  nowHour : Int
  boardMode : String
  killSwitchState : String
  regimeValue : Option Extended := none
  openPositions : List AllocationActivePosition := []

structure AllocationOutcome where
  strategyId : String
  symbol : String
  selected : Bool
  reason : String
  score : Option Extended
  decision : String := "reject"
  portfolioGroup : String := ""
  exposureBucket : String := ""
  estimatedCost : Option Extended := none
  slotCost : Option Extended := none
  blockedByStrategyId : Option String := none
  blockedByPositionId : Option String := none
  replacedCandidateId : Option String := none
  notes : Option String := none
deriving Repr, DecidableEq

structure AllocationResult where
  selected : List AllocationCandidate
  outcomes : List AllocationOutcome

structure EvaluatedCandidate where
  candidate : AllocationCandidate
  symbol : String
  score : Option Extended := none
  accepted : Bool := false
  reason : String
  rolePriority : Int := 100
  portfolioGroup : String := ""
  exposureBucket : String := ""
  estimatedCost : Option Extended := none
  slotCost : Option Extended := none
  blockedByStrategyId : Option String := none
  blockedByPositionId : Option String := none
  notes : Option String := none

/-! ## Sort keys -/

/-- A float in the order of numbers, with a last place for what is not a number. -/
def numberOrder : Extended → Nat ×ₗ Rat
  | .infinite true => toLex (0, 0)
  | .finite value => toLex (1, value)
  | .infinite false => toLex (2, 0)
  | .nan => toLex (3, 0)

/-- One component of a sort key: numbers and texts are never compared with
each other, since every key of a policy has the same shape. -/
abbrev KeyPart := Lex ((Nat ×ₗ Rat) ⊕ String)

def numberKey (value : Extended) : KeyPart := Sum.inlₗ (numberOrder value)

def textKey (value : String) : KeyPart := Sum.inrₗ value

def notNumber : KeyPart := numberKey .nan

/-- Up to where they part the two keys hold nothing that is not a number. -/
def decided : List KeyPart → List KeyPart → Bool
  | left :: lefts, right :: rights =>
    decide (left ≠ notNumber) && decide (right ≠ notNumber) &&
      (decide (left ≠ right) || decided lefts rights)
  | _, _ => true

abbrev Contender := EvaluatedCandidate × List KeyPart

def sortContenders (contenders : List Contender) : List Contender :=
  contenders.insertionSort (fun left right => left.2 ≤ right.2)

/-- What the language promises of `sorted`: keys that can be compared are sorted, and
those that are equal stay in place. -/
def SortsByKey (sort : List Contender → List Contender) : Prop :=
  ∀ contenders, contenders.Pairwise (fun first second => decided first.2 second.2 = true) →
    sort contenders = sortContenders contenders

/-- `sorted`, which places keys that are not numbers where it happens to. -/
structure Sorter where
  sort : List Contender → List Contender
  perm : ∀ contenders, (sort contenders).Perm contenders
  byKey : SortsByKey sort

theorem perm_sortContenders (contenders : List Contender) :
    (sortContenders contenders).Perm contenders :=
  List.perm_insertionSort _ contenders

@[simp] theorem Sorter.sort_nil (sorter : Sorter) : sorter.sort [] = [] :=
  (sorter.perm []).eq_nil

@[simp] theorem Sorter.sort_singleton (sorter : Sorter) (contender : Contender) :
    sorter.sort [contender] = [contender] :=
  List.perm_singleton.mp (sorter.perm [contender])

def Sorter.insertion : Sorter := ⟨sortContenders, perm_sortContenders, fun _ _ => rfl⟩

structure StrategyAllocationPolicy where
  mode : String
  tieBreakRules : List Value
  selectionMode : String
  maxSelectedPerSymbol : Option Int
  globalConfig : Mapping
  strategyConfig : Dict String Mapping
  fieldFormat : FieldFormat := fun _ _ => .error (.raised .valueError)
  sorter : Sorter := .insertion

/-! ## Candidates -/

def signalSymbol (signal : AllocationSignal) : String :=
  match signal.symbol with
  | .null => "UNKNOWN"
  | value => orText (some (upper (strip value.text))) "UNKNOWN"

def signalDirection (signal : AllocationSignal) : String := normalizeText signal.direction

def signalScore (signal : AllocationSignal) : Extended :=
  ((coerceNumber? signal.score).orElse fun _ =>
    (coerceNumber? signal.confidence).orElse fun _ => coerceNumber? signal.qualityScore).getD 1

/-- The attributes that are read for the score, up to the first that gives a number. -/
def signalReads (signal : AllocationSignal) : List (Option Value) :=
  some signal.score ::
    if (coerceNumber? signal.score).isSome then []
    else some signal.confidence ::
      if (coerceNumber? signal.confidence).isSome then [] else [some signal.qualityScore]

def candidateSymbol (candidate : AllocationCandidate) : String :=
  orText (candidate.trade.map (·.symbol)) (signalSymbol candidate.signal)

def candidateDirection (candidate : AllocationCandidate) : String :=
  let side := orText (candidate.trade.map (·.side)) ""
  if side ≠ "" then normalizeText (.str side) else signalDirection candidate.signal

def tradeScore (candidate : AllocationCandidate) : Option Extended :=
  candidate.trade.bind fun trade =>
    trade.expectedEdge.orElse fun _ => trade.confidence.orElse fun _ => trade.qualityScore

def candidateScore (candidate : AllocationCandidate) : Extended :=
  (tradeScore candidate).getD (signalScore candidate.signal)

def candidateReads (candidate : AllocationCandidate) : List (Option Value) :=
  if (tradeScore candidate).isSome then [] else signalReads candidate.signal

def extractExecution (parameters : Mapping) : Mapping :=
  ((parameters.get? "execution").getD .null).asMapping

def costReads (parameters : Mapping) : List (Option Value) :=
  [(extractExecution parameters).get? "spread", (extractExecution parameters).get? "slippage"]

def extractCostEstimate (parameters : Mapping) : Extended × Extended :=
  let execution := extractExecution parameters
  (coerceFloat (execution.get? "spread") 0, coerceFloat (execution.get? "slippage") 0)

def candidateEstimatedCost (candidate : AllocationCandidate) : Extended :=
  (candidate.trade.bind (·.estimatedCost)).getD
    ((extractCostEstimate candidate.parameters).1 + (extractCostEstimate candidate.parameters).2)

def decisionFromReason (selected : Bool) (reason : String) : String :=
  if selected then "accept"
  else if "_deferred".toList.isSuffixOf reason.toList then "defer"
  else if "replace_".toList.isPrefixOf reason.toList then "replace"
  else if "resize_".toList.isPrefixOf reason.toList then "resize"
  else "reject"

namespace StrategyAllocationPolicy

/-! ## Resolved configuration -/

def isPassThrough (policy : StrategyAllocationPolicy) : Bool := policy.mode == "pass_through"

def configSection (config : Mapping) (name : String) : Mapping :=
  ((config.get? name).getD .null).asMapping

def resolveSection (policy : StrategyAllocationPolicy) (name : String) (strategyCfg : Mapping) :
    Mapping :=
  deepMerge (configSection policy.globalConfig name) (configSection strategyCfg name)

def resolveHardFilters (policy : StrategyAllocationPolicy) (strategyCfg : Mapping) : Mapping :=
  let merged := policy.resolveSection "hard_filters" strategyCfg
  match merged.get? "kill_switch_blocked_states" with
  | some _ => merged
  | none => merged.set "kill_switch_blocked_states"
      (.list [.str "soft_stop", .str "hard_stop", .str "triggered"])

def resolveCostPenalty (policy : StrategyAllocationPolicy) := policy.resolveSection "cost_penalty"

def resolveRegimeCfg (policy : StrategyAllocationPolicy) := policy.resolveSection "regime"

def resolvePortfolioCfg (policy : StrategyAllocationPolicy) := policy.resolveSection "portfolio"

def strategyCfg (policy : StrategyAllocationPolicy) (strategyId : String) : Mapping :=
  (policy.strategyConfig.get? strategyId).getD []

def scoreField (config : Mapping) (key : String) : Except PyError (Option Value) :=
  match config.get? "score" with
  | none => .ok none
  | some (.map entries) => .ok (Mapping.get? entries key)
  | some _ => .error .attributeError

/-! ## Groups and exposure buckets

The two are handled alike, each under its own keys.
-/

inductive Dimension where
  | group
  | exposure
deriving Repr, DecidableEq

namespace Dimension

def templateKeys : Dimension → String × String
  | group => ("group_template", "group")
  | exposure => ("exposure_bucket_template", "exposure_bucket")

def limitKey : Dimension → String
  | group => "max_active_per_group"
  | exposure => "max_active_per_exposure_bucket"

def stem : Dimension → String
  | group => "active_group"
  | exposure => "active_exposure"

def ownLabel : Dimension → AllocationActivePosition → String
  | group, position => position.portfolioGroup
  | exposure, position => position.exposureBucket

end Dimension

def scopedLabel (policy : StrategyAllocationPolicy) (dimension : Dimension)
    (strategyCfg : Mapping) (symbol : Option String) : Except PyError String :=
  let cfg := policy.resolvePortfolioCfg strategyCfg
  let keys := dimension.templateKeys
  let template := orValue ((cfg.get? keys.1).getD .null)
    (orValue ((cfg.get? keys.2).getD .null) (.str ""))
  renderSymbolScopedValue policy.fieldFormat (strip template.text) symbol

def portfolioGroup (policy : StrategyAllocationPolicy) := policy.scopedLabel .group

def exposureBucket (policy : StrategyAllocationPolicy) := policy.scopedLabel .exposure

def positionLabel (policy : StrategyAllocationPolicy) (dimension : Dimension)
    (position : AllocationActivePosition) : Except PyError String :=
  if dimension.ownLabel position ≠ "" then .ok (strip (dimension.ownLabel position))
  else policy.scopedLabel dimension (policy.strategyCfg position.strategyId)
    (some position.symbol)

def positionPortfolioGroup (policy : StrategyAllocationPolicy) := policy.positionLabel .group

def positionExposureBucket (policy : StrategyAllocationPolicy) := policy.positionLabel .exposure

def positionsUnder (policy : StrategyAllocationPolicy) (dimension : Dimension) (label : String)
    (positions : List AllocationActivePosition) :
    Except PyError (List AllocationActivePosition) :=
  if label = "" then .ok []
  else do
    let labelled ← tryMap
      (fun position => do return (position, ← policy.positionLabel dimension position)) positions
    return (labelled.filter (fun entry => entry.2 == label)).map Prod.fst

/-- `_active_group_matches` with `_first_group_match`, and the same for
exposures: the matches, the first of which is the blocker. -/
def activeMatches (policy : StrategyAllocationPolicy) (dimension : Dimension)
    (candidate : AllocationCandidate) (context : AllocationContext) (strategyCfg : Mapping) :
    Except PyError (List AllocationActivePosition) := do
  let label ← policy.scopedLabel dimension strategyCfg (some (candidateSymbol candidate))
  policy.positionsUnder dimension label context.openPositions

def activeSymbolMatches (candidate : AllocationCandidate) (context : AllocationContext) :
    List AllocationActivePosition :=
  context.openPositions.filter (fun position => position.symbol == candidateSymbol candidate)

/-! ## Conflicts with open positions -/

structure PositionConflict where
  reason : String
  blockedByStrategyId : Option String
  blockedByPositionId : Option String
deriving Repr, DecidableEq

def blockedBy (reason : String) (matched : List AllocationActivePosition) : PositionConflict where
  reason
  blockedByStrategyId := matched.head?.map (·.strategyId)
  blockedByPositionId := matched.head?.map (·.positionId)

def activePolicy (portfolioCfg : Mapping) (stem : String) : String :=
  orText (some (normalizeText ((portfolioCfg.get? (stem ++ "_policy")).getD .null))) "allow"

def policyConflict (portfolioCfg : Mapping) (stem : String)
    (matched : List AllocationActivePosition) : Option PositionConflict :=
  if matched = [] then none
  else if activePolicy portfolioCfg stem = "block" then
    some (blockedBy (stem ++ "_conflict") matched)
  else if activePolicy portfolioCfg stem = "defer" then
    some (blockedBy (stem ++ "_deferred") matched)
  else none

def activeLimit (portfolioCfg : Mapping) (dimension : Dimension) : Option Int :=
  positiveIntOrNone (portfolioCfg.get? dimension.limitKey)

/-- The limit of a dimension is checked before its policy. -/
def dimensionConflict (portfolioCfg : Mapping) (dimension : Dimension)
    (matched : List AllocationActivePosition) : Option PositionConflict :=
  if (activeLimit portfolioCfg dimension).any
      (fun limit => decide (limit ≤ (matched.length : Int))) then
    some (blockedBy (dimension.stem ++ "_limit") matched)
  else policyConflict portfolioCfg dimension.stem matched

def resolveActivePositionConflict (policy : StrategyAllocationPolicy)
    (candidate : AllocationCandidate) (context : AllocationContext) (strategyCfg : Mapping) :
    Except PyError (Option PositionConflict) :=
  if context.openPositions = [] then .ok none
  else
    let portfolioCfg := policy.resolvePortfolioCfg strategyCfg
    match policyConflict portfolioCfg "active_symbol" (activeSymbolMatches candidate context) with
    | some conflict => .ok (some conflict)
    | none => do
        let grouped ← policy.activeMatches .group candidate context strategyCfg
        match dimensionConflict portfolioCfg .group grouped with
        | some conflict => return some conflict
        | none =>
          let exposed ← policy.activeMatches .exposure candidate context strategyCfg
          return dimensionConflict portfolioCfg .exposure exposed

/-! ## Hard filters and score -/

/-- The second key counts where the first gives no range. -/
def sessionRanges (filters : Mapping) : List (Int × Int) :=
  let several := parseSessionRanges ((filters.get? "session_utc_ranges").getD .null)
  if several = [] then parseSessionRanges ((filters.get? "session_utc_range").getD .null)
  else several

def stopReason (context : AllocationContext) (filters : Mapping) (blocked : List Value) :
    Option String :=
  let killSwitch := normalizeText (.str context.killSwitchState)
  let allowed := match filters.get? "board_modes" with
    | some (.list modes) => modes.map normalizeText
    | _ => []
  if killSwitch ≠ "" ∧ killSwitch ∈ blocked.map normalizeText then some "kill_switch_blocked"
  else if allowed ≠ [] ∧ normalizeText (.str context.boardMode) ∉ allowed then
    some "board_mode_blocked"
  else none

def quoteReason (candidate : AllocationCandidate) (context : AllocationContext)
    (filters : Mapping) : Option String :=
  let spreadMax := coerceFloat (filters.get? "spread_max") (.finite (-1))
  if 0 ≤ spreadMax ∧ spreadMax < (extractCostEstimate candidate.parameters).1 then
    some "spread_blocked"
  else if !hourInRanges context.nowHour (sessionRanges filters) then some "session_blocked"
  else none

/-- The first hard filter that rejects, and whether the cost is known by then. -/
def hardFilterReason (policy : StrategyAllocationPolicy) (candidate : AllocationCandidate)
    (context : AllocationContext) (strategyCfg : Mapping) :
    Except PyError (Option (String × Bool)) := do
  let filters := policy.resolveHardFilters strategyCfg
  let blocked ← iterate ((filters.get? "kill_switch_blocked_states").getD .null)
  match stopReason context filters blocked with
  | some reason => return some (reason, false)
  | none =>
    requireFloats (costReads candidate.parameters ++ [filters.get? "spread_max"])
    return (quoteReason candidate context filters).map (·, true)

def regimeMultiplier (policy : StrategyAllocationPolicy) (candidate : AllocationCandidate)
    (strategyCfg : Mapping) : Option Extended → Extended
  | none => 1
  | some regime =>
    let cfg := policy.resolveRegimeCfg strategyCfg
    let threshold := coerceFloat (cfg.get? "trend_threshold") 0
    let aligned :=
      if candidateDirection candidate = "long" then decide (threshold < regime)
      else if candidateDirection candidate = "short" then decide (regime < -threshold)
      else true
    if aligned then Extended.greater 0 (1 + coerceFloat (cfg.get? "align_bonus") 0)
    else Extended.greater 0 (coerceFloat (cfg.get? "mismatch_penalty") 1)

def regimeReads (policy : StrategyAllocationPolicy) (strategyCfg : Mapping) :
    Option Extended → List (Option Value)
  | none => []
  | some _ => ["trend_threshold", "align_bonus", "mismatch_penalty"].map
      (policy.resolveRegimeCfg strategyCfg).get?

/-- The score less the penalty of the open positions counted. -/
def lessPenalty (portfolioCfg : Mapping) (stem : String) (count : Nat) (score : Extended) :
    Extended :=
  let penalty := coerceFloat (portfolioCfg.get? (stem ++ "_penalty")) 0
  if 0 < count ∧ activePolicy portfolioCfg stem = "penalize" ∧ 0 < penalty then
    score - .finite count * penalty
  else score

/-- What is coerced to a float once the bias has been found. -/
def scoreReads (policy : StrategyAllocationPolicy) (candidate : AllocationCandidate)
    (context : AllocationContext) (strategyCfg : Mapping) : List (Option Value) :=
  let portfolio := ["holding_minute_weight", "slot_cost", "active_symbol_penalty",
    "active_group_penalty", "active_exposure_penalty"]
  let holding := if (candidate.trade.bind (·.expectedHoldingMinutes)).isSome then portfolio
    else "expected_holding_minutes" :: portfolio
  candidateReads candidate ++ policy.regimeReads strategyCfg context.regimeValue ++
    ["spread_weight", "slippage_weight"].map (policy.resolveCostPenalty strategyCfg).get? ++
    holding.map (policy.resolvePortfolioCfg strategyCfg).get?

def computeScore (policy : StrategyAllocationPolicy) (candidate : AllocationCandidate)
    (context : AllocationContext) (strategyCfg : Mapping) : Except PyError Extended := do
  let fallback := if candidate.weight = 0 then 1 else candidate.weight
  requireFloats [strategyCfg.get? "weight"]
  let weight := coerceFloat (strategyCfg.get? "weight") fallback
  let given ← scoreField strategyCfg "bias"
  requireFloats (given :: policy.scoreReads candidate context strategyCfg)
  let bias := coerceFloat given 0
  let score := (candidateScore candidate * weight + bias) *
    policy.regimeMultiplier candidate strategyCfg context.regimeValue
  let penaltyCfg := policy.resolveCostPenalty strategyCfg
  let cost := extractCostEstimate candidate.parameters
  let score := score - cost.1 * coerceFloat (penaltyCfg.get? "spread_weight") 0
  let score := score - cost.2 * coerceFloat (penaltyCfg.get? "slippage_weight") 0
  let portfolioCfg := policy.resolvePortfolioCfg strategyCfg
  let holding := (candidate.trade.bind (·.expectedHoldingMinutes)).getD
    (coerceFloat (portfolioCfg.get? "expected_holding_minutes") 0)
  let holdingWeight := coerceFloat (portfolioCfg.get? "holding_minute_weight") 0
  let score := if 0 < holding ∧ 0 < holdingWeight then score - holding * holdingWeight else score
  let slotCost := coerceFloat (portfolioCfg.get? "slot_cost") 0
  let score := if 0 < slotCost then score - slotCost else score
  let score := lessPenalty portfolioCfg "active_symbol"
    (activeSymbolMatches candidate context).length score
  let grouped ← policy.activeMatches .group candidate context strategyCfg
  let score := lessPenalty portfolioCfg Dimension.group.stem grouped.length score
  let exposed ← policy.activeMatches .exposure candidate context strategyCfg
  let score := lessPenalty portfolioCfg Dimension.exposure.stem exposed.length score
  return score.round 8

def minScore (policy : StrategyAllocationPolicy) (strategyCfg : Mapping) :
    Except PyError Extended := do
  let overall ← scoreField policy.globalConfig "min_score"
  requireFloats [overall]
  let own ← scoreField strategyCfg "min_score"
  requireFloats [own]
  return Extended.greater (coerceFloat overall 0) (coerceFloat own 0)

def evaluateScored (policy : StrategyAllocationPolicy) (candidate : AllocationCandidate)
    (context : AllocationContext) (strategyCfg : Mapping) (item : EvaluatedCandidate) :
    Except PyError EvaluatedCandidate := do
  let item := { item with estimatedCost := some (candidateEstimatedCost candidate) }
  match ← policy.resolveActivePositionConflict candidate context strategyCfg with
  | some conflict =>
    return { item with
      reason := conflict.reason
      blockedByStrategyId := conflict.blockedByStrategyId
      blockedByPositionId := conflict.blockedByPositionId
      notes := some "blocked by active position policy" }
  | none =>
    let score ← policy.computeScore candidate context strategyCfg
    let bound ← policy.minScore strategyCfg
    if score < bound then return { item with score := some score, reason := "score_below_min" }
    else return { item with score := some score, accepted := true, reason := "candidate_ok" }

def evaluateCandidate (policy : StrategyAllocationPolicy) (context : AllocationContext)
    (candidate : AllocationCandidate) : Except PyError EvaluatedCandidate := do
  let symbol := candidateSymbol candidate
  let required := ((policy.globalConfig.get? "require_strategy_config").getD (.bool true)).truth
  if policy.strategyConfig.get? candidate.strategyId = none ∧ required = true then
    return { candidate, symbol, reason := "strategy_not_configured" }
  let cfg := policy.strategyCfg candidate.strategyId
  let portfolioCfg := policy.resolvePortfolioCfg cfg
  let portfolioGroup ← policy.portfolioGroup cfg (some symbol)
  let exposureBucket ← policy.exposureBucket cfg (some symbol)
  requireFloats [portfolioCfg.get? "slot_cost"]
  let item : EvaluatedCandidate :=
    { candidate, symbol, reason := "strategy_disabled"
      rolePriority := coerceInt (portfolioCfg.get? "role_priority") 100
      portfolioGroup, exposureBucket
      slotCost := some (coerceFloat (portfolioCfg.get? "slot_cost") 0) }
  if ((cfg.get? "enabled").getD (.bool true)).truth = false then return item
  match ← policy.hardFilterReason candidate context cfg with
  | some (reason, priced) =>
    return { item with
      reason
      estimatedCost := if priced then some (candidateEstimatedCost candidate) else none }
  | none => policy.evaluateScored candidate context cfg item

/-! ## Selection -/

/-- The text of `strategy_id_desc`: `chr` raises on a character beyond U+00FF. -/
def reversedId (strategyId : String) : Except PyError String :=
  if strategyId.toList.all (fun char => decide (char.toNat ≤ 255)) then
    .ok (String.ofList (strategyId.toList.map (fun char => Char.ofNat (255 - char.toNat))))
  else .error .valueError

def ruleKey (item : EvaluatedCandidate) (score : Extended) (token : String) :
    Except PyError (List KeyPart) :=
  if token = "score_desc" then .ok [numberKey (-score)]
  else if token = "score_asc" then .ok [numberKey score]
  else if token = "priority_asc" then .ok [numberKey (.finite item.candidate.priority)]
  else if token = "priority_desc" then .ok [numberKey (.finite (-item.candidate.priority))]
  else if token = "role_priority_asc" then .ok [numberKey (.finite item.rolePriority)]
  else if token = "role_priority_desc" then .ok [numberKey (.finite (-item.rolePriority))]
  else if token = "weight_desc" then .ok [numberKey (-item.candidate.weight)]
  else if token = "weight_asc" then .ok [numberKey item.candidate.weight]
  else if token = "strategy_id_desc" then
    (reversedId item.candidate.strategyId).map (fun text => [textKey text])
  else if token = "strategy_id_asc" then .ok [textKey item.candidate.strategyId]
  else .ok []

def tieBreakSortKey (policy : StrategyAllocationPolicy) (item : EvaluatedCandidate)
    (score : Extended) : Except PyError (List KeyPart) := do
  let parts ← tryMap (fun rule => ruleKey item score (normalizeText rule)) policy.tieBreakRules
  let keys := parts.flatten
  let idKey := textKey item.candidate.strategyId
  if keys = [] then return [numberKey (-score), numberKey (.finite item.candidate.priority), idKey]
  else return keys ++ [idKey]

def acceptedScore (item : EvaluatedCandidate) : Option Extended :=
  if item.accepted then item.score else none

/-- The end of `accepted_sorted[:keep_count]`, counted from the end when negative. -/
def keepCount (policy : StrategyAllocationPolicy) (accepted : Nat) : Nat :=
  if policy.selectionMode = "select_many" then
    match policy.maxSelectedPerSymbol with
    | none => accepted
    | some bound =>
      let count := min (accepted : Int) bound
      if count < 0 then (accepted + count).toNat else count.toNat
  else 1

def buildOutcome (item : EvaluatedCandidate) (selected : Bool) (reason : Option String)
    (blockedByStrategyId replacedCandidateId : Option String) : AllocationOutcome :=
  let reasonCode := orText reason item.reason
  { strategyId := item.candidate.strategyId
    symbol := item.symbol
    selected
    reason := reasonCode
    score := item.score
    decision := decisionFromReason selected reasonCode
    portfolioGroup := item.portfolioGroup
    exposureBucket := item.exposureBucket
    estimatedCost := item.estimatedCost
    slotCost := item.slotCost
    blockedByStrategyId := orElse blockedByStrategyId item.blockedByStrategyId
    blockedByPositionId := item.blockedByPositionId
    replacedCandidateId := orElse replacedCandidateId none
    notes := item.notes }

def contenderOutcome (policy : StrategyAllocationPolicy) (kept : List EvaluatedCandidate)
    (item : EvaluatedCandidate) : AllocationOutcome :=
  if (kept.map (·.candidate.objectId)).contains item.candidate.objectId then
    buildOutcome item true (some "selected") none none
  else
    let winner := kept.head?
    buildOutcome item false
      (some (if policy.selectionMode = "select_many" then "selection_limit" else "tie_break_lost"))
      (winner.map (·.candidate.strategyId))
      (winner.bind (fun winner => winner.candidate.trade.map (·.candidateId)))

def allocateSymbol (policy : StrategyAllocationPolicy) (context : AllocationContext)
    (candidates : List AllocationCandidate) : Except PyError AllocationResult := do
  let evaluated ← tryMap (policy.evaluateCandidate context) candidates
  let contenders ← tryMap
    (fun entry : EvaluatedCandidate × Extended => do
      return (entry.1, ← policy.tieBreakSortKey entry.1 entry.2))
    (evaluated.filterMap (fun item => (acceptedScore item).map (item, ·)))
  let sorted := (policy.sorter.sort contenders).map Prod.fst
  let kept := sorted.take (policy.keepCount contenders.length)
  let rejected := if contenders = [] then evaluated
    else evaluated.filter (fun item => !item.accepted)
  return {
    selected := kept.map (·.candidate)
    outcomes := sorted.map (policy.contenderOutcome kept) ++
      rejected.map (buildOutcome · false none none none) }

def signalSymbols (candidates : List AllocationCandidate) : List String :=
  (candidates.map (fun candidate => signalSymbol candidate.signal)).dedup.insertionSort (· ≤ ·)

def candidatesOf (candidates : List AllocationCandidate) (symbol : String) :
    List AllocationCandidate :=
  candidates.filter (fun candidate => signalSymbol candidate.signal == symbol)

def passThroughOutcome (candidate : AllocationCandidate) : AllocationOutcome where
  strategyId := candidate.strategyId
  symbol := candidateSymbol candidate
  selected := true
  reason := "pass_through"
  score := some (candidateScore candidate)
  decision := "accept"
  estimatedCost := some (candidateEstimatedCost candidate)

def passThroughReads (candidate : AllocationCandidate) : List (Option Value) :=
  candidateReads candidate ++
    if (candidate.trade.bind (·.estimatedCost)).isSome then [] else costReads candidate.parameters

def allocate (policy : StrategyAllocationPolicy) (context : AllocationContext)
    (candidates : List AllocationCandidate) : Except PyError AllocationResult :=
  if policy.isPassThrough then do
    requireFloats (candidates.flatMap passThroughReads)
    return { selected := candidates, outcomes := candidates.map passThroughOutcome }
  else do
    let results ← tryMap
      (fun symbol => policy.allocateSymbol context (candidatesOf candidates symbol))
      (signalSymbols candidates)
    return {
      selected := results.flatMap (·.selected)
      outcomes := results.flatMap (·.outcomes) }

end StrategyAllocationPolicy

end FxToushi.Strategies
