import FxToushi.Strategies.Allocation

namespace FxToushi.Strategies

open Data Py

/-! # Portfolio caps of an allocation

A cap is checked for each candidate against the open positions alone.  The
candidates of one batch are never counted against each other, so the cap holds
afterwards when the places that its group wins in the symbols happen to be free.
-/

namespace StrategyAllocationPolicy

variable (policy : StrategyAllocationPolicy) (context : AllocationContext)

def candidateLabel (dimension : Dimension) (candidate : AllocationCandidate) :
    Except PyError String :=
  policy.scopedLabel dimension (policy.strategyCfg candidate.strategyId)
    (some (candidateSymbol candidate))

def candidateLimit (dimension : Dimension) (candidate : AllocationCandidate) : Option Int :=
  activeLimit (policy.resolvePortfolioCfg (policy.strategyCfg candidate.strategyId)) dimension

def openUnder (dimension : Dimension) (label : String) : Nat :=
  context.openPositions.countP (fun position => policy.positionLabel dimension position = .ok label)

def chosenUnder (dimension : Dimension) (label : String) (chosen : List AllocationCandidate) :
    Nat :=
  chosen.countP (fun candidate => policy.candidateLabel dimension candidate = .ok label)

/-- For every capped candidate that was chosen, the open positions of its group
together with the chosen candidates of its group are within its cap. -/
def CapsHold (chosen : List AllocationCandidate) : Prop :=
  ∀ dimension, ∀ candidate ∈ chosen, ∀ limit label,
    policy.candidateLimit dimension candidate = some limit →
    policy.candidateLabel dimension candidate = .ok label → label ≠ "" →
      (policy.openUnder context dimension label + policy.chosenUnder dimension label chosen : Int)
        ≤ limit

def contender? (candidate : AllocationCandidate) : Option Contender :=
  (policy.evaluateCandidate context candidate).toOption.bind fun item =>
    (acceptedScore item).bind fun score =>
      ((policy.tieBreakSortKey item score).map (item, ·)).toOption

def contendersOf (candidates : List AllocationCandidate) (symbol : String) : List Contender :=
  (candidatesOf candidates symbol).filterMap (policy.contender? context)

/-- The accepted candidates of a symbol that are within its quota, the best first. -/
def leading (candidates : List AllocationCandidate) (symbol : String) :
    List AllocationCandidate :=
  let contenders := policy.contendersOf context candidates symbol
  ((policy.sorter.sort contenders).take (policy.keepCount contenders.length)).map (·.1.candidate)

/-- The places under a label, added up over the symbols. -/
def placesUnder (dimension : Dimension) (label : String) (candidates : List AllocationCandidate) :
    Nat :=
  ((signalSymbols candidates).map fun symbol =>
    policy.chosenUnder dimension label (policy.leading context candidates symbol)).sum

/-- Wherever two or more places go to one capped group, the open positions leave
room for all of them. -/
def BatchFits (candidates : List AllocationCandidate) : Prop :=
  ∀ dimension, ∀ symbol ∈ signalSymbols candidates,
    ∀ candidate ∈ policy.leading context candidates symbol, ∀ limit label,
      policy.candidateLimit dimension candidate = some limit →
      policy.candidateLabel dimension candidate = .ok label → label ≠ "" →
      1 < policy.placesUnder context dimension label candidates →
        (policy.openUnder context dimension label +
          policy.placesUnder context dimension label candidates : Int) ≤ limit

variable {policy context}

/-! ## What is selected -/

/-- The contenders of a symbol, as the allocation computes them. -/
theorem contenders_eq {candidates : List AllocationCandidate}
    {evaluated : List EvaluatedCandidate} {contenders : List Contender}
    (judged : tryMap (policy.evaluateCandidate context) candidates = .ok evaluated)
    (keyed : tryMap
      (fun entry : EvaluatedCandidate × Extended => do
        return (entry.1, ← policy.tieBreakSortKey entry.1 entry.2))
      (evaluated.filterMap (fun item => (acceptedScore item).map (item, ·))) = .ok contenders) :
    contenders = candidates.filterMap (policy.contender? context) := by
  rw [tryMap_ok keyed, tryMap_ok judged, List.filterMap_filterMap, List.filterMap_filterMap]
  apply List.filterMap_congr
  intro candidate member
  unfold contender?
  cases policy.evaluateCandidate context candidate with
  | error error => rfl
  | ok item =>
    cases scored : acceptedScore item with
    | none => simp [Except.toOption, scored]
    | some score =>
      cases key : policy.tieBreakSortKey item score <;>
        simp [Except.toOption, scored, key, bind, Except.bind, pure, Except.pure, Except.map]

theorem allocateSymbol_selected {candidates : List AllocationCandidate}
    {result : AllocationResult}
    (allocated : policy.allocateSymbol context candidates = .ok result) :
    result.selected = ((policy.sorter.sort (candidates.filterMap (policy.contender? context))).take
      (policy.keepCount (candidates.filterMap (policy.contender? context)).length)).map
        (·.1.candidate) := by
  obtain ⟨evaluated, judged, allocated⟩ := bind_ok allocated
  obtain ⟨contenders, keyed, allocated⟩ := bind_ok allocated
  obtain rfl := Except.ok.inj allocated
  obtain rfl := contenders_eq judged keyed
  rw [← List.map_take, List.map_map]
  rfl

theorem allocate_selected {candidates : List AllocationCandidate} {result : AllocationResult}
    (active : policy.isPassThrough = false)
    (allocated : policy.allocate context candidates = .ok result) :
    result.selected = (signalSymbols candidates).flatMap (policy.leading context candidates) := by
  simp only [allocate, active, Bool.false_eq_true, if_false] at allocated
  obtain ⟨results, mapped, returned⟩ := bind_ok allocated
  obtain rfl := Except.ok.inj returned
  clear allocated returned
  generalize signalSymbols candidates = symbols at mapped ⊢
  induction symbols generalizing results with
  | nil =>
    obtain rfl := Except.ok.inj mapped
    rfl
  | cons symbol rest ih =>
    obtain ⟨first, later, selected, mappedRest, rfl⟩ := tryMap_cons_ok mapped
    exact congrArg₂ (· ++ ·) (allocateSymbol_selected selected) (ih later mappedRest)

/-! ## What acceptance guarantees -/

theorem positionsUnder_length {dimension : Dimension} {label : String} (named : label ≠ "")
    {positions matched : List AllocationActivePosition}
    (found : policy.positionsUnder dimension label positions = .ok matched) :
    matched.length =
      positions.countP (fun position => policy.positionLabel dimension position = .ok label) := by
  rw [positionsUnder, if_neg named] at found
  obtain ⟨labelled, mapped, returned⟩ := bind_ok found
  obtain rfl := Except.ok.inj returned
  clear found returned
  rw [List.length_map]
  induction positions generalizing labelled with
  | nil =>
    obtain rfl := Except.ok.inj mapped
    rfl
  | cons position rest ih =>
    obtain ⟨entry, later, paired, mappedRest, rfl⟩ := tryMap_cons_ok mapped
    obtain ⟨own, ownLabel, returned⟩ := bind_ok paired
    obtain rfl := Except.ok.inj returned
    rw [List.countP_cons, ← ih later mappedRest, List.filter_cons]
    by_cases same : own = label <;> simp [ownLabel, same]

theorem dimensionConflict_none {portfolioCfg : Mapping} {dimension : Dimension}
    {matched : List AllocationActivePosition} {limit : Int}
    (free : dimensionConflict portfolioCfg dimension matched = none)
    (capped : activeLimit portfolioCfg dimension = some limit) :
    (matched.length : Int) < limit := by
  unfold dimensionConflict at free
  rw [capped] at free
  by_contra full
  simp [not_lt.mp full] at free

theorem activeLimit_pos {portfolioCfg : Mapping} {dimension : Dimension} {limit : Int}
    (capped : activeLimit portfolioCfg dimension = some limit) : 0 < limit := by
  unfold activeLimit positiveIntOrNone at capped
  dsimp only at capped
  split at capped
  · rename_i positive
    obtain rfl := Option.some.inj capped
    exact positive
  · exact absurd capped (by simp)

/-- Without a conflict each dimension was counted and has room for one more. -/
theorem conflict_none {candidate : AllocationCandidate} {strategyCfg : Mapping}
    (free : policy.resolveActivePositionConflict candidate context strategyCfg = .ok none)
    (dimension : Dimension) : context.openPositions = [] ∨
      ∃ matched, policy.activeMatches dimension candidate context strategyCfg = .ok matched ∧
        dimensionConflict (policy.resolvePortfolioCfg strategyCfg) dimension matched = none := by
  unfold resolveActivePositionConflict at free
  split at free
  · rename_i empty
    exact .inl empty
  right
  dsimp only at free
  split at free
  · exact absurd free (by simp)
  obtain ⟨grouped, groupMatches, free⟩ := bind_ok free
  split at free
  · exact absurd free (by simp [pure, Except.pure])
  rename_i groupFree
  obtain ⟨exposed, exposureMatches, free⟩ := bind_ok free
  cases dimension with
  | group => exact ⟨grouped, groupMatches, groupFree⟩
  | exposure => exact ⟨exposed, exposureMatches, Except.ok.inj free⟩

theorem evaluateScored_accepted {candidate : AllocationCandidate} {strategyCfg : Mapping}
    {item judged : EvaluatedCandidate}
    (evaluated : policy.evaluateScored candidate context strategyCfg item = .ok judged)
    (rejected : item.accepted = false) : judged.candidate = item.candidate ∧
      (judged.accepted = true →
        policy.resolveActivePositionConflict candidate context strategyCfg = .ok none) := by
  obtain ⟨conflict, resolved, evaluated⟩ := bind_ok evaluated
  cases conflict with
  | some conflict =>
    obtain rfl := Except.ok.inj evaluated
    exact ⟨rfl, fun accepted => absurd accepted (by simp [rejected])⟩
  | none =>
    obtain ⟨score, scored, evaluated⟩ := bind_ok evaluated
    obtain ⟨bound, bounded, evaluated⟩ := bind_ok evaluated
    refine ⟨?_, fun _ => resolved⟩
    split at evaluated <;> exact (congrArg _ (Except.ok.inj evaluated)).symm

theorem evaluateCandidate_accepted {candidate : AllocationCandidate} {judged : EvaluatedCandidate}
    (evaluated : policy.evaluateCandidate context candidate = .ok judged) :
    judged.candidate = candidate ∧
      (judged.accepted = true → policy.resolveActivePositionConflict candidate context
        (policy.strategyCfg candidate.strategyId) = .ok none) := by
  unfold evaluateCandidate at evaluated
  dsimp only at evaluated
  split at evaluated
  · obtain rfl := Except.ok.inj evaluated
    exact ⟨rfl, fun accepted => absurd accepted (by simp)⟩
  obtain ⟨group, grouped, evaluated⟩ := bind_ok evaluated
  obtain ⟨bucket, bucketed, evaluated⟩ := bind_ok evaluated
  obtain ⟨-, -, evaluated⟩ := bind_ok evaluated
  split at evaluated
  · obtain rfl := Except.ok.inj evaluated
    exact ⟨rfl, fun accepted => absurd accepted (by simp)⟩
  obtain ⟨filtered, filters, evaluated⟩ := bind_ok evaluated
  cases filtered with
  | some reason =>
    obtain rfl := Except.ok.inj evaluated
    exact ⟨rfl, fun accepted => absurd accepted (by simp)⟩
  | none => exact evaluateScored_accepted evaluated rfl

theorem accepted_free_slot {candidate : AllocationCandidate} {judged : EvaluatedCandidate}
    {dimension : Dimension} {limit : Int} {label : String}
    (evaluated : policy.evaluateCandidate context candidate = .ok judged)
    (accepted : judged.accepted = true)
    (capped : policy.candidateLimit dimension candidate = some limit)
    (labelled : policy.candidateLabel dimension candidate = .ok label) (named : label ≠ "") :
    (policy.openUnder context dimension label : Int) < limit := by
  have free := (evaluateCandidate_accepted evaluated).2 accepted
  rcases conflict_none free dimension with empty | ⟨matched, found, unblocked⟩
  · simpa [openUnder, empty] using activeLimit_pos capped
  · unfold candidateLabel at labelled
    simp only [activeMatches, labelled, bind, Except.bind] at found
    have counted := positionsUnder_length named found
    have room := dimensionConflict_none unblocked capped
    rw [openUnder, ← counted]
    exact room

theorem leading_accepted {candidates : List AllocationCandidate} {symbol : String}
    {candidate : AllocationCandidate}
    (member : candidate ∈ policy.leading context candidates symbol) :
    candidate ∈ candidatesOf candidates symbol ∧ ∃ judged,
      policy.evaluateCandidate context candidate = .ok judged ∧ judged.accepted = true := by
  obtain ⟨contender, chosen, rfl⟩ := List.mem_map.mp member
  have present := (policy.sorter.perm _).mem_iff.mp (List.mem_of_mem_take chosen)
  obtain ⟨candidate, held, found⟩ := List.mem_filterMap.mp present
  simp only [contender?, Option.bind_eq_some_iff] at found
  obtain ⟨item, evaluated, score, scored, keyed⟩ := found
  have judged := ok_of_toOption evaluated
  have same : contender.1 = item := by
    have mapped := ok_of_toOption keyed
    cases key : policy.tieBreakSortKey item score with
    | error error => simp [key, Except.map] at mapped
    | ok parts =>
      rw [key] at mapped
      rw [← Except.ok.inj mapped]
  have accepted : item.accepted = true := by
    unfold acceptedScore at scored
    split at scored
    · assumption
    · exact absurd scored (by simp)
  rw [same, (evaluateCandidate_accepted judged).1]
  exact ⟨held, item, judged, accepted⟩

theorem mem_of_selected {candidates : List AllocationCandidate} {result : AllocationResult}
    {candidate : AllocationCandidate} (active : policy.isPassThrough = false)
    (allocated : policy.allocate context candidates = .ok result)
    (selected : candidate ∈ result.selected) : candidate ∈ candidates ∧ ∃ judged,
      policy.evaluateCandidate context candidate = .ok judged ∧ judged.accepted = true := by
  rw [allocate_selected active allocated] at selected
  obtain ⟨symbol, -, leads⟩ := List.mem_flatMap.mp selected
  obtain ⟨held, accepted⟩ := leading_accepted leads
  exact ⟨List.mem_of_mem_filter held, accepted⟩

/-! ## The cap after admission -/

theorem chosenUnder_leading (dimension : Dimension) (label : String)
    (candidates : List AllocationCandidate) :
    policy.chosenUnder dimension label
        ((signalSymbols candidates).flatMap (policy.leading context candidates)) =
      policy.placesUnder context dimension label candidates := by
  rw [chosenUnder, List.countP_flatMap]
  rfl

def oneMajorPolicy : StrategyAllocationPolicy where
  mode := "hybrid"
  tieBreakRules := [.str "score_desc"]
  selectionMode := "select_one"
  maxSelectedPerSymbol := none
  globalConfig :=
    [("require_strategy_config", .bool false),
      ("portfolio", .map [("group", .str "majors"), ("max_active_per_group", .int 1)])]
  strategyConfig := Dict.empty

def quietContext : AllocationContext where
  nowHour := 12
  boardMode := "normal"
  killSwitchState := "none"

def plainCandidate (objectId : Nat) (symbol : String) : AllocationCandidate where
  objectId
  strategyId := "m1"
  signal := { symbol := .str symbol }
  priority := 1
  weight := 1

def majorsPolicy (limit : Int) : StrategyAllocationPolicy :=
  { oneMajorPolicy with globalConfig :=
      [("require_strategy_config", .bool false),
        ("portfolio", .map [("group", .str "majors"), ("max_active_per_group", .int limit)])] }

/-- Two candidates for one symbol and one for another. -/
def threeMajors : List AllocationCandidate :=
  [plainCandidate 0 "USDJPY", plainCandidate 1 "EURUSD", plainCandidate 2 "USDJPY"]

end StrategyAllocationPolicy

end FxToushi.Strategies
