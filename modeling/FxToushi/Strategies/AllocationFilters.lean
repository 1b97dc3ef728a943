import FxToushi.Py.Containers
import FxToushi.Strategies.AllocationBooks

namespace FxToushi.Strategies

open Data Py

/-! # Hard filters that are configured

Each hard filter has a parser whose failure is also the value for no filter at
all.  Here the values that are given are compared with what the selected
candidates are held to.
-/

def blank : Value → Bool
  | .null => true
  | .str text => text == ""
  | .list items => items.isEmpty
  | .map entries => entries.isEmpty
  | _ => false

/-- The key has a value that is not empty. -/
def Gives (filters : Mapping) (key : String) (value : Value) : Prop :=
  filters.get? key = some value ∧ blank value = false

def covers (hour : Int) (range : Int × Int) : Bool :=
  if range.1 ≤ range.2 then decide (range.1 ≤ hour ∧ hour ≤ range.2)
  else decide (range.1 ≤ hour ∨ hour ≤ range.2)

def sessionKeys : List String := ["session_utc_ranges", "session_utc_range"]

/-- The hour is in one of the ranges written in the value. -/
def InWrittenRange (value : Value) (hour : Int) : Prop :=
  ∃ range ∈ parseSessionRanges value, covers hour range = true

def writtenModes : Value → List String
  | .list items => items.map normalizeText
  | .map _ => []
  | value => [normalizeText value]

def hoursOfDay : Set Int := {hour | 0 ≤ hour ∧ hour ≤ 23}

def parameterSpread (parameters : Mapping) : Extended := (extractCostEstimate parameters).1

/-- The hour, the mode and the spread are within every filter that is given. -/
structure Honoured (filters parameters : Mapping) (hour : Int) (mode : String) : Prop where
  session : ∀ key ∈ sessionKeys, ∀ value, Gives filters key value → InWrittenRange value hour
  boardMode : ∀ value, Gives filters "board_modes" value →
    normalizeText (.str mode) ∈ writtenModes value
  spread : ∀ value, Gives filters "spread_max" value →
    ∃ bound, coerceFloat? value = some bound ∧ parameterSpread parameters ≤ bound

/-- Under a policy of the mode with these filters no candidate with these parameters
is selected outside of them. -/
def NeverDropped (mode : String) (filters parameters : Mapping) : Prop :=
  ∀ (policy : StrategyAllocationPolicy) (context : AllocationContext)
    (candidates : List AllocationCandidate) (result : AllocationResult)
    (candidate : AllocationCandidate),
    policy.mode = mode →
    policy.resolveSection "hard_filters" (policy.ownCfg candidate) = filters →
    candidate.parameters = parameters → context.nowHour ∈ hoursOfDay →
    policy.allocate context candidates = .ok result → candidate ∈ result.selected →
      Honoured filters parameters context.nowHour context.boardMode

/-! ## What decides -/

/-- The filters exclude nothing. -/
def ExcludesNothing (filters parameters : Mapping) : Prop :=
  ∀ hour ∈ hoursOfDay, ∀ mode, Honoured filters parameters hour mode

/-- No candidate with these parameters is selected: the states that block cannot
be listed, the spread is above the maximum, or one of what it is compared by is an
integer too large for a float. -/
inductive SelectsNone (filters parameters : Mapping) : Prop where
  | unlisted (value : Value) (given : filters.get? "kill_switch_blocked_states" = some value)
      (fails : ∀ states, iterate value ≠ .ok states)
  | spread (capped : 0 ≤ coerceFloat (filters.get? "spread_max") (.finite (-1)))
      (exceeded : coerceFloat (filters.get? "spread_max") (.finite (-1)) <
        parameterSpread parameters)
  | oversized (large : ¬ FloatsFit (costReads parameters ++ [filters.get? "spread_max"]))

/-- Every filter that is given is read, and where both session keys are given the
first is within the second. -/
structure FiltersRead (filters parameters : Mapping) : Prop where
  session : ∀ key ∈ sessionKeys, ∀ value, Gives filters key value → parseSessionRanges value ≠ []
  nested : ∀ several single, Gives filters "session_utc_ranges" several →
    Gives filters "session_utc_range" single → ∀ hour ∈ hoursOfDay,
      InWrittenRange several hour → InWrittenRange single hour
  boardMode : ∀ value, Gives filters "board_modes" value → ∃ modes, value = .list modes
  spread : ∀ value, Gives filters "spread_max" value →
    ∃ bound, coerceFloat? value = some bound ∧
      (0 ≤ bound ∧ (parameterSpread parameters).isNan = false ∨
        parameterSpread parameters ≤ bound)

/-! ## Sessions -/

section Sessions

variable {filters : Mapping} {key : String} {value : Value} {hour : Int}

theorem hourInRanges_iff {ranges : List (Int × Int)} :
    hourInRanges hour ranges = true ↔ ranges = [] ∨ ∃ range ∈ ranges, covers hour range = true := by
  simp [hourInRanges, covers]

theorem sessionRange?_bounds {item : String} {range : Int × Int}
    (read : sessionRange? item = some range) : range.1 ∈ hoursOfDay := by
  unfold sessionRange? at read
  cases split : splitOnce '-' (strip item) with
  | none =>
    rw [split] at read
    cases read
  | some halves =>
    rw [split] at read
    dsimp only at read
    generalize coerceInt (some (.str halves.1)) (-1) = start at read
    generalize coerceInt (some (.str halves.2)) (-1) = finish at read
    split at read
    · rename_i bounds
      cases read
      exact ⟨bounds.1, bounds.2.1⟩
    · cases read

theorem parseSessionRanges_bounds {range : Int × Int} (written : range ∈ parseSessionRanges value) :
    range.1 ∈ hoursOfDay := by
  unfold parseSessionRanges at written
  split at written
  · exact sessionRange?_bounds (Option.mem_toList.mp written)
  · split at written
    · obtain ⟨item, -, read⟩ := List.mem_filterMap.mp written
      exact sessionRange?_bounds read
    · cases written

theorem covers_start (range : Int × Int) : covers range.1 range = true := by
  unfold covers
  split
  · rename_i forward
    simpa using forward
  · simp

/-- A value in which a range is written is given. -/
theorem gives_of_parse (written : parseSessionRanges ((filters.get? key).getD .null) ≠ []) :
    ∃ value, Gives filters key value ∧ (filters.get? key).getD .null = value := by
  cases found : filters.get? key with
  | none => exact absurd (by rw [found]; rfl) written
  | some value =>
    rw [found, Option.getD_some] at written
    refine ⟨value, ⟨found, ?_⟩, rfl⟩
    cases value with
    | null => exact absurd rfl written
    | str text =>
      by_cases empty : text = ""
      · subst empty
        exact absurd rfl written
      · simpa [blank] using empty
    | list items =>
      cases items with
      | nil => exact absurd rfl written
      | cons item rest => rfl
    | map entries =>
      cases entries with
      | nil => exact absurd rfl written
      | cons entry rest => rfl
    | bool flag => rfl
    | int number => rfl
    | float number text => rfl

theorem exists_open_hour (filters : Mapping) :
    ∃ hour ∈ hoursOfDay, hourInRanges hour (StrategyAllocationPolicy.sessionRanges filters) =
      true := by
  cases ranges : StrategyAllocationPolicy.sessionRanges filters with
  | nil => exact ⟨0, ⟨le_rfl, by decide⟩, rfl⟩
  | cons range rest =>
    refine ⟨range.1, ?_, hourInRanges_iff.mpr (.inr ⟨range, List.mem_cons_self, covers_start _⟩)⟩
    have member : range ∈ StrategyAllocationPolicy.sessionRanges filters := by
      rw [ranges]
      exact List.mem_cons_self
    unfold StrategyAllocationPolicy.sessionRanges at member
    dsimp only at member
    split at member
    · exact parseSessionRanges_bounds member
    · exact parseSessionRanges_bounds member

end Sessions

namespace StrategyAllocationPolicy

section Resolved

variable {policy : StrategyAllocationPolicy} {context : AllocationContext}
  {candidate : AllocationCandidate} {filters parameters : Mapping}

theorem ownFilters_get?
    (resolved : policy.resolveSection "hard_filters" (policy.ownCfg candidate) = filters)
    {key : String} (other : key ≠ "kill_switch_blocked_states") :
    (policy.ownFilters candidate).get? key = filters.get? key := by
  unfold ownFilters resolveHardFilters
  rw [resolved]
  dsimp only
  split
  · rfl
  · rw [Mapping.get?_set, if_neg other]

theorem sessionRanges_ownFilters
    (resolved : policy.resolveSection "hard_filters" (policy.ownCfg candidate) = filters) :
    sessionRanges (policy.ownFilters candidate) = sessionRanges filters := by
  unfold sessionRanges
  rw [ownFilters_get? resolved (by decide), ownFilters_get? resolved (by decide)]

theorem spreadMax_eq
    (resolved : policy.resolveSection "hard_filters" (policy.ownCfg candidate) = filters) :
    policy.spreadMax candidate = coerceFloat (filters.get? "spread_max") (.finite (-1)) := by
  rw [spreadMax, ownFilters_get? resolved (by decide)]

theorem stopStates_ok_iff
    (resolved : policy.resolveSection "hard_filters" (policy.ownCfg candidate) = filters) :
    (∃ states, policy.stopStates candidate = .ok states) ↔
      ∀ value, filters.get? "kill_switch_blocked_states" = some value →
        ∃ states, iterate value = .ok states := by
  unfold stopStates ownFilters resolveHardFilters
  rw [resolved]
  dsimp only
  cases given : filters.get? "kill_switch_blocked_states" with
  | none =>
    dsimp only
    rw [Mapping.get?_set, if_pos rfl]
    exact iff_of_true ⟨_, rfl⟩ (fun value absurdity => nomatch absurdity)
  | some value => simp [given]

theorem clears_of_selected {candidates : List AllocationCandidate} {result : AllocationResult}
    (judging : policy.isPassThrough = false)
    (allocated : policy.allocate context candidates = .ok result)
    (selected : candidate ∈ result.selected) :
    policy.Evaluable context candidate ∧ policy.Clears context candidate := by
  obtain ⟨-, judged, evaluated, accepted⟩ := mem_of_selected judging allocated selected
  exact ⟨evaluateCandidate_ok_iff.mp ⟨judged, evaluated⟩,
    (evaluateCandidate_told evaluated).accepted.mp accepted⟩

theorem honoured_of_clears (read : FiltersRead filters parameters)
    (resolved : policy.resolveSection "hard_filters" (policy.ownCfg candidate) = filters)
    (plain : candidate.parameters = parameters)
    (hour : context.nowHour ∈ hoursOfDay) (clears : policy.Clears context candidate) :
    Honoured filters parameters context.nowHour context.boardMode := by
  constructor
  · have passed := clears.hardFilters.session
    rw [sessionRanges_ownFilters resolved, hourInRanges_iff] at passed
    have several : ∀ value, Gives filters "session_utc_ranges" value →
        InWrittenRange value context.nowHour := by
      intro value given
      have written := read.session _ (by simp [sessionKeys]) value given
      simp only [sessionRanges, given.1, Option.getD_some, if_neg written] at passed
      exact passed.resolve_left written
    intro key named value given
    simp only [sessionKeys, List.mem_cons, List.not_mem_nil, or_false] at named
    rcases named with rfl | rfl
    · exact several value given
    · by_cases first : parseSessionRanges ((filters.get? "session_utc_ranges").getD .null) = []
      · have written := read.session _ (by simp [sessionKeys]) value given
        simp only [sessionRanges, first, if_true, given.1, Option.getD_some] at passed
        exact passed.resolve_left written
      · obtain ⟨many, givenMany, -⟩ := gives_of_parse first
        exact read.nested many value givenMany given _ hour (several many givenMany)
  · intro value given
    obtain ⟨modes, rfl⟩ := read.boardMode value given
    have found := given.1
    rw [← ownFilters_get? resolved (by decide)] at found
    rcases clears.hardFilters.boardMode modes found with rfl | admitted
    · exact absurd given.2 (by decide)
    · exact admitted
  · intro value given
    obtain ⟨bound, number, within⟩ := read.spread value given
    refine ⟨bound, number, ?_⟩
    rcases within with ⟨capped, comparable⟩ | within
    · have passed := clears.hardFilters.spread
      rw [spreadMax_eq resolved, given.1, coerceFloat, Option.getD_some, number,
        Option.getD_some, plain] at passed
      exact (Extended.not_lt_iff (Extended.isNan_of_nonneg capped) comparable).mp (passed capped)
    · exact within

end Resolved

/-! ## A policy of hard filters only -/

/-- Everything but the filters is left at what admits every candidate. -/
def filterPolicy (mode : String) (filters : Mapping) : StrategyAllocationPolicy where
  mode
  tieBreakRules := []
  selectionMode := "select_many"
  maxSelectedPerSymbol := none
  globalConfig := [("require_strategy_config", .bool false), ("hard_filters", .map filters)]
  strategyConfig := Dict.empty

def filterContext (hour : Int) (boardMode : String) : AllocationContext where
  nowHour := hour
  boardMode
  killSwitchState := ""

def filterCandidate (parameters : Mapping) : AllocationCandidate :=
  { plainCandidate 0 "USDJPY" with parameters }

section FilterPolicy

variable {mode boardMode : String} {filters parameters : Mapping} {hour : Int}

theorem filterPolicy_resolves :
    (filterPolicy mode filters).resolveSection "hard_filters"
      ((filterPolicy mode filters).ownCfg (filterCandidate parameters)) = filters := rfl

theorem portfolioCfg_filterPolicy :
    (filterPolicy mode filters).resolvePortfolioCfg
      ((filterPolicy mode filters).ownCfg (filterCandidate parameters)) = [] := rfl

theorem scopedLabel_filterPolicy (dimension : Dimension) (symbol : String) :
    (filterPolicy mode filters).scopedLabel dimension
      ((filterPolicy mode filters).ownCfg (filterCandidate parameters)) (some symbol) = .ok "" := by
  have blank : strip (orValue .null (orValue .null (.str ""))).text = "" := rfl
  have empty : strip "" = "" := rfl
  have label : renderSymbolScopedValue (filterPolicy mode filters).fieldFormat
      (strip (orValue .null (orValue .null (.str ""))).text) (some symbol) = .ok "" := by
    rw [blank]
    unfold renderSymbolScopedValue
    rw [empty]
    rfl
  unfold scopedLabel
  rw [portfolioCfg_filterPolicy]
  exact label

theorem activeMatches_filterPolicy (dimension : Dimension) :
    (filterPolicy mode filters).activeMatches dimension (filterCandidate parameters)
      (filterContext hour boardMode)
      ((filterPolicy mode filters).ownCfg (filterCandidate parameters)) = .ok [] := by
  simp only [activeMatches, scopedLabel_filterPolicy, bind, Except.bind, positionsUnder, if_true]

theorem lessPenalty_none (portfolioCfg : Mapping) (stem : String) (score : Extended) :
    lessPenalty portfolioCfg stem 0 score = score := by
  simp [lessPenalty]

/-- Without weights the score is one, or no number where the cost is infinite. -/
theorem computeScore_filterPolicy :
    ∃ score, (filterPolicy mode filters).computeScore (filterCandidate parameters)
        (filterContext hour boardMode)
        ((filterPolicy mode filters).ownCfg (filterCandidate parameters)) = .ok score ∧
      ¬ score < 0 := by
  have bias : scoreField ((filterPolicy mode filters).ownCfg (filterCandidate parameters)) "bias" =
      .ok none := rfl
  have weight : requireFloats
      [((filterPolicy mode filters).ownCfg (filterCandidate parameters)).get? "weight"] = .ok () :=
    rfl
  have reads : requireFloats (none :: (filterPolicy mode filters).scoreReads
      (filterCandidate parameters) (filterContext hour boardMode)
      ((filterPolicy mode filters).ownCfg (filterCandidate parameters))) = .ok () := rfl
  have penalty : (filterPolicy mode filters).resolveCostPenalty
      ((filterPolicy mode filters).ownCfg (filterCandidate parameters)) = [] := rfl
  have symbols : activeSymbolMatches (filterCandidate parameters) (filterContext hour boardMode) =
      [] := rfl
  have absent : ∀ key, Mapping.get? [] key = none := fun key => rfl
  have default : ∀ number, coerceFloat none number = number := fun number => rfl
  have base : (candidateScore (filterCandidate parameters) *
      coerceFloat (((filterPolicy mode filters).ownCfg (filterCandidate parameters)).get? "weight")
        (if (filterCandidate parameters).weight = 0 then 1
          else (filterCandidate parameters).weight) + 0) *
      (filterPolicy mode filters).regimeMultiplier (filterCandidate parameters)
        ((filterPolicy mode filters).ownCfg (filterCandidate parameters))
        (filterContext hour boardMode).regimeValue = (1 * 1 + 0) * 1 := rfl
  simp only [computeScore, weight, bias, reads, activeMatches_filterPolicy, penalty,
    portfolioCfg_filterPolicy, symbols, bind, Except.bind, pure, Except.pure, absent,
    default, lessPenalty_none, List.length_nil, Extended.not_pos_zero, and_false, if_false]
  refine ⟨_, rfl, ?_⟩
  rw [base]
  rcases Extended.mul_zero_cases (extractCostEstimate (filterCandidate parameters).parameters).1
    with spread | spread
  · rcases Extended.mul_zero_cases (extractCostEstimate (filterCandidate parameters).parameters).2
      with slippage | slippage
    · rw [spread, slippage]
      decide +kernel
    · rw [spread, slippage]
      decide +kernel
  · rcases Extended.mul_zero_cases (extractCostEstimate (filterCandidate parameters).parameters).2
      with slippage | slippage
    · rw [spread, slippage]
      decide +kernel
    · rw [spread, slippage]
      decide +kernel

theorem clears_filterCandidate
    (listed : ∃ states,
      (filterPolicy mode filters).stopStates (filterCandidate parameters) = .ok states)
    (fit : FloatsFit (costReads parameters ++ [filters.get? "spread_max"]))
    (spread : 0 ≤ coerceFloat (filters.get? "spread_max") (.finite (-1)) →
      ¬ coerceFloat (filters.get? "spread_max") (.finite (-1)) < parameterSpread parameters)
    (hourOpen : hourInRanges hour (sessionRanges filters) = true)
    (modeOpen : ∀ modes, filters.get? "board_modes" = some (.list modes) →
      modes = [] ∨ normalizeText (.str boardMode) ∈ modes.map normalizeText) :
    (filterPolicy mode filters).Evaluable (filterContext hour boardMode)
        (filterCandidate parameters) ∧
      (filterPolicy mode filters).Clears (filterContext hour boardMode)
        (filterCandidate parameters) := by
  have free : (filterPolicy mode filters).resolveActivePositionConflict (filterCandidate parameters)
      (filterContext hour boardMode)
      ((filterPolicy mode filters).ownCfg (filterCandidate parameters)) = .ok none := rfl
  constructor
  · intro configured
    refine ⟨fun dimension => ⟨"", scopedLabel_filterPolicy dimension _⟩,
      requireFloats_ok_iff.mp rfl, fun enabled => ⟨listed, fun _ => ?_, fun passes =>
        ⟨none, free, fun unblocked => ⟨?_, ?_, ?_, ?_⟩⟩⟩⟩
    · rw [filterReads, ownFilters_get? filterPolicy_resolves (by decide)]
      exact fit
    · exact scoreField_ok_iff.mp ⟨none, (rfl : scoreField _ "bias" = _)⟩
    · exact scoreField_ok_iff.mp ⟨none, (rfl : scoreField _ "bias" = _)⟩
    · exact requireFloats_ok_iff.mp rfl
    · exact requireFloats_ok_iff.mp rfl
  · constructor
    · intro unconfigured
      cases unconfigured.2
    · rfl
    · refine ⟨⟨?_, ?_⟩, ?_, ?_⟩
      · intro states _
        have silent : normalizeText (.str "") = "" := rfl
        exact .inl silent
      · intro modes given
        rw [ownFilters_get? filterPolicy_resolves (by decide)] at given
        exact modeOpen modes given
      · rw [spreadMax_eq filterPolicy_resolves]
        exact spread
      · rw [sessionRanges_ownFilters filterPolicy_resolves]
        exact hourOpen
    · exact free
    · obtain ⟨score, scored, kept⟩ :=
        @computeScore_filterPolicy mode boardMode filters parameters hour
      exact ⟨score, 0, scored, rfl, kept⟩

/-- What the filters let through is selected, and so held to what is given. -/
theorem honoured_of_open (judges : mode ≠ "pass_through")
    (never : NeverDropped mode filters parameters) (selects : ¬ SelectsNone filters parameters)
    (inDay : hour ∈ hoursOfDay) (hourOpen : hourInRanges hour (sessionRanges filters) = true)
    (modeOpen : ∀ modes, filters.get? "board_modes" = some (.list modes) →
      modes = [] ∨ normalizeText (.str boardMode) ∈ modes.map normalizeText) :
    Honoured filters parameters hour boardMode := by
  have listed : ∃ states,
      (filterPolicy mode filters).stopStates (filterCandidate parameters) = .ok states := by
    refine (stopStates_ok_iff filterPolicy_resolves).mpr fun value given => ?_
    by_contra fails
    exact selects (.unlisted value given (not_exists.mp fails))
  have fit : FloatsFit (costReads parameters ++ [filters.get? "spread_max"]) :=
    not_not.mp fun large => selects (.oversized large)
  obtain ⟨evaluable, clears⟩ := clears_filterCandidate listed fit
    (fun capped exceeded => selects (.spread capped exceeded)) hourOpen modeOpen
  have judging : (filterPolicy mode filters).isPassThrough = false := beq_false_of_ne judges
  have sortable : (filterPolicy mode filters).Sortable (filterCandidate parameters) := by
    rintro ⟨rule, member, -⟩
    cases member
  have usable : (filterPolicy mode filters).LimitUsable := by
    intro _ bound limit
    cases limit
  have returned : ∃ result, (filterPolicy mode filters).allocate (filterContext hour boardMode)
      [filterCandidate parameters] = .ok result := by
    refine (allocate_ok_iff judging).mpr fun candidate member => ?_
    obtain rfl := List.mem_singleton.mp member
    exact ⟨evaluable, fun _ => sortable⟩
  obtain ⟨result, allocated⟩ := returned
  have distinct : ([filterCandidate parameters].map (·.objectId)).Nodup := List.nodup_singleton _
  have books := bookkeeping_of_allocate judging distinct allocated
    (fun _ _ clears => clears) (fun _ _ clears => clears) (fun _ _ _ => usable)
  obtain ⟨chosen, selected, -⟩ := books.served _ List.mem_cons_self clears
  obtain rfl := List.mem_singleton.mp (books.ledger.present chosen selected)
  exact never _ _ _ _ _ rfl filterPolicy_resolves rfl inDay allocated selected

/-- A trade with an estimate of its own, for which the parameters are not read. -/
def estimatedCandidate (parameters : Mapping) : AllocationCandidate :=
  { filterCandidate parameters with
    trade := some
      { candidateId := "t1", symbol := "USDJPY", side := "long", estimatedCost := some 0 } }

theorem excludesNothing_of_passThrough (never : NeverDropped "pass_through" filters parameters) :
    ExcludesNothing filters parameters := by
  intro hour inDay boardMode
  exact never (filterPolicy "pass_through" filters) (filterContext hour boardMode)
    [estimatedCandidate parameters] _ (estimatedCandidate parameters) rfl rfl rfl inDay
    rfl List.mem_cons_self

end FilterPolicy

/-! ## When no filter is dropped -/

theorem normalizeText_normalizeText (value : Value) :
    normalizeText (.str (normalizeText value)) = normalizeText value := by
  cases value with
  | null => exact (rfl : normalizeText (.str "") = "")
  | str text => exact lower_strip_lower_strip _
  | bool flag => exact lower_strip_lower_strip _
  | int number => exact lower_strip_lower_strip _
  | float number text => exact lower_strip_lower_strip _
  | list items => exact lower_strip_lower_strip _
  | map entries => exact lower_strip_lower_strip _

theorem exists_open_mode (filters : Mapping) :
    ∃ mode, ∀ modes, filters.get? "board_modes" = some (.list modes) →
      modes = [] ∨ normalizeText (.str mode) ∈ modes.map normalizeText := by
  by_cases listed : ∃ first rest, filters.get? "board_modes" = some (.list (first :: rest))
  · obtain ⟨first, rest, given⟩ := listed
    refine ⟨normalizeText first, fun modes found => .inr ?_⟩
    obtain rfl := Value.list.inj (Option.some.inj (given.symm.trans found))
    rw [normalizeText_normalizeText]
    exact List.mem_cons_self
  · refine ⟨"", fun modes found => .inl ?_⟩
    cases modes with
    | nil => rfl
    | cons first rest => exact absurd ⟨first, rest, found⟩ listed

theorem writtenModes_single {value : Value} (single : ∀ modes, value ≠ .list modes) :
    ∀ mode ∈ writtenModes value, mode = normalizeText value := by
  intro mode written
  cases value with
  | list items => exact absurd rfl (single items)
  | map entries => cases written
  | null | str text | bool flag | int number | float number text =>
    exact List.mem_singleton.mp written

theorem filtersRead_of_neverDropped {mode : String} {filters parameters : Mapping}
    (judges : mode ≠ "pass_through") (never : NeverDropped mode filters parameters)
    (selects : ¬ SelectsNone filters parameters) : FiltersRead filters parameters := by
  obtain ⟨hour, inDay, hourOpen⟩ := exists_open_hour filters
  obtain ⟨boardMode, modeOpen⟩ := exists_open_mode filters
  have honoured := honoured_of_open judges never selects inDay hourOpen modeOpen
  have session : ∀ key ∈ sessionKeys, ∀ value, Gives filters key value →
      parseSessionRanges value ≠ [] := by
    intro key named value given empty
    obtain ⟨range, written, -⟩ := honoured.session key named value given
    rw [empty] at written
    cases written
  constructor
  · exact session
  · intro several single givenSeveral givenSingle other otherInDay covered
    have otherOpen : hourInRanges other (sessionRanges filters) = true := by
      have written := session _ (by simp [sessionKeys]) several givenSeveral
      simp only [sessionRanges, givenSeveral.1, Option.getD_some, if_neg written]
      exact hourInRanges_iff.mpr (.inr covered)
    exact (honoured_of_open judges never selects otherInDay otherOpen modeOpen).session _
      (by simp [sessionKeys]) single givenSingle
  · intro value given
    by_contra single
    have noList : ∀ modes, value ≠ .list modes := not_exists.mp single
    have anyMode : ∀ other, normalizeText (.str other) = normalizeText value := by
      intro other
      have held : Honoured filters parameters hour other :=
        honoured_of_open judges never selects inDay hourOpen fun modes found =>
          absurd (Option.some.inj (given.1.symm.trans found)) (noList modes)
      exact writtenModes_single noList _ (held.boardMode value given)
    exact absurd ((anyMode "normal").trans (anyMode "halted").symm) (by decide +kernel)
  · intro value given
    obtain ⟨bound, number, within⟩ := honoured.spread value given
    exact ⟨bound, number, .inr within⟩

theorem neverDropped_of_condition {mode : String} {filters parameters : Mapping}
    (judges : mode ≠ "pass_through")
    (condition : SelectsNone filters parameters ∨ FiltersRead filters parameters) :
    NeverDropped mode filters parameters := by
  intro policy context candidates result candidate itsMode resolved plain inDay allocated selected
  have judging : policy.isPassThrough = false := by
    rw [isPassThrough, itsMode]
    exact beq_false_of_ne judges
  obtain ⟨evaluable, clears⟩ := clears_of_selected judging allocated selected
  cases condition with
  | inl none =>
    cases none with
    | unlisted value given fails =>
      obtain ⟨-, -, configured⟩ := evaluable clears.configured
      obtain ⟨listed, -⟩ := configured clears.enabled
      obtain ⟨states, read⟩ := (stopStates_ok_iff resolved).mp listed value given
      exact absurd read (fails states)
    | spread capped exceeded =>
      rw [← spreadMax_eq resolved] at capped exceeded
      rw [← plain] at exceeded
      exact absurd exceeded (clears.hardFilters.spread capped)
    | oversized large =>
      obtain ⟨-, -, configured⟩ := evaluable clears.configured
      obtain ⟨-, fit, -⟩ := configured clears.enabled
      have reads := fit clears.hardFilters.toPassesStops
      rw [filterReads, ownFilters_get? resolved (by decide), plain] at reads
      exact absurd reads large
  | inr read => exact honoured_of_clears read resolved plain inDay clears

/-- No filter is dropped exactly when the filters exclude nothing, or the policy
judges and no candidate can be selected or each filter given is one the code reads. -/
theorem neverDropped_iff (mode : String) (filters parameters : Mapping) :
    NeverDropped mode filters parameters ↔
      ExcludesNothing filters parameters ∨
        (mode ≠ "pass_through" ∧
          (SelectsNone filters parameters ∨ FiltersRead filters parameters)) := by
  constructor
  · intro never
    by_cases through : mode = "pass_through"
    · subst through
      exact .inl (excludesNothing_of_passThrough never)
    · refine .inr ⟨through, ?_⟩
      by_cases none : SelectsNone filters parameters
      · exact .inl none
      · exact .inr (filtersRead_of_neverDropped through never none)
  · intro condition
    rcases condition with nothing | ⟨judges, condition⟩
    · intro policy context candidates result candidate _ _ _ inDay _ _
      exact nothing context.nowHour inDay context.boardMode
    · exact neverDropped_of_condition judges condition

/-- A mode that is no list, a range with minutes, a range under each key, and a
maximum that is no number, below zero or not comparable. -/
def droppedFilters : List Mapping :=
  [[("board_modes", .str "normal")],
    [("session_utc_range", .str "08:00-17:00")],
    [("session_utc_ranges", .list [.str "0-17"]), ("session_utc_range", .str "9-12")],
    [("spread_max", .str "abc")],
    [("spread_max", .float (-1 / 2) "-0.5")],
    [("spread_max", .float 0 "nan")]]

def writesList : Option Value → Bool
  | some (.list _) => true
  | _ => false

theorem honoured_of_dropped {filters : Mapping} (member : filters ∈ droppedFilters)
    (never : NeverDropped "hybrid" filters []) : Honoured filters [] 0 "halted" := by
  have unlisted : ∀ filters ∈ droppedFilters,
      (filters.get? "kill_switch_blocked_states").isNone = true := by decide +kernel
  have uncapped : ∀ filters ∈ droppedFilters,
      ¬ 0 ≤ coerceFloat (filters.get? "spread_max") (.finite (-1)) := by decide +kernel
  have hourOpen : ∀ filters ∈ droppedFilters, hourInRanges 0 (sessionRanges filters) = true := by
    decide +kernel
  have fits : ∀ filters ∈ droppedFilters,
      FloatsFit (costReads [] ++ [filters.get? "spread_max"]) := by
    unfold FloatsFit
    decide +kernel
  have noModes : ∀ filters ∈ droppedFilters, writesList (filters.get? "board_modes") = false := by
    decide +kernel
  refine honoured_of_open (by decide) never ?_ ⟨le_rfl, by decide⟩ (hourOpen filters member) ?_
  · intro none
    cases none with
    | unlisted value given fails =>
      have absent := unlisted filters member
      rw [given] at absent
      cases absent
    | spread capped exceeded => exact uncapped filters member capped
    | oversized large => exact large (fits filters member)
  · intro modes given
    have single := noModes filters member
    rw [given] at single
    cases single

theorem filters_dropped : ¬ ∃ filters ∈ droppedFilters, NeverDropped "hybrid" filters [] := by
  intro kept
  obtain ⟨filters, member, never⟩ := kept
  have honoured := honoured_of_dropped member never
  simp only [droppedFilters, List.mem_cons, List.not_mem_nil, or_false] at member
  rcases member with rfl | rfl | rfl | rfl | rfl | rfl
  · exact absurd (honoured.boardMode (.str "normal") ⟨rfl, rfl⟩) (by decide +kernel)
  · obtain ⟨range, written, -⟩ :=
      honoured.session "session_utc_range" (by decide) (.str "08:00-17:00") ⟨rfl, rfl⟩
    have empty : parseSessionRanges (.str "08:00-17:00") = [] := by decide +kernel
    rw [empty] at written
    cases written
  · have outside : ¬ ∃ range ∈ parseSessionRanges (.str "9-12"), covers 0 range = true := by
      decide +kernel
    exact outside (honoured.session "session_utc_range" (by decide) (.str "9-12") ⟨rfl, rfl⟩)
  · obtain ⟨bound, number, -⟩ := honoured.spread (.str "abc") ⟨rfl, rfl⟩
    have unread : coerceFloat? (.str "abc") = none := by decide +kernel
    rw [unread] at number
    cases number
  · obtain ⟨bound, number, within⟩ := honoured.spread (.float (-1 / 2) "-0.5") ⟨rfl, rfl⟩
    have read : coerceFloat? (.float (-1 / 2) "-0.5") = some (.finite (-1 / 2)) := by
      decide +kernel
    obtain rfl := Option.some.inj (read.symm.trans number)
    exact absurd within (by decide +kernel)
  · obtain ⟨bound, number, within⟩ := honoured.spread (.float 0 "nan") ⟨rfl, rfl⟩
    have read : coerceFloat? (.float 0 "nan") = some .nan := by decide +kernel
    obtain rfl := Option.some.inj (read.symm.trans number)
    exact absurd within (by decide +kernel)

end StrategyAllocationPolicy

end FxToushi.Strategies
