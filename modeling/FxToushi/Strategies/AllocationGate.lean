import FxToushi.Core.Health
import FxToushi.Strategies.AllocationCaps

namespace FxToushi.Strategies

open FxToushi.Core Data Py

/-! # The stop the allocator sees

The strategy engine derives a board mode and a kill switch state for the
allocator from the gate and the configuration.  The health monitor derives its
guardrail snapshot from the same gate with sources and precedence of its own.
-/

/-- The attributes the engine reads, `null` for one that is missing. -/
structure ConfigSnapshot where
  boardMode : Value := .null
  killSwitchState : Value := .null

/-- `isinstance(value, str) and value.strip()`, stripped and lowered. -/
def statedWord : Value → Option String
  | .str text => if strip text = "" then none else some (lower (strip text))
  | _ => none

def recommendation (gate : GateState) : Value :=
  gate.risk.killSwitchRecommendation.elim .null .str

def readinessWord (gate : GateState) : String :=
  lower (strip gate.market.profitReadinessStatus)

/-- The gate itself carries no board mode. -/
def allocationBoardMode (gate : GateState) (config : ConfigSnapshot) : String :=
  match statedWord config.boardMode with
  | some mode => mode
  | none => if readinessWord gate ∈ ["guarded", "halted"] then readinessWord gate else "normal"

def allocationKillSwitchState (gate : GateState) (config : ConfigSnapshot) : String :=
  match statedWord (recommendation gate) with
  | some state => state
  | none =>
    if gate.risk.reduceOnly then "soft_stop"
    else (statedWord config.killSwitchState).getD "normal"

def blockedStates : List String := ["soft_stop", "hard_stop", "triggered"]

/-! ## What is stated reaches the allocator -/

/-- A source by which the engine hands the allocator a stop. -/
inductive StopStated (gate : GateState) (config : ConfigSnapshot) : Prop where
  | boardMode (mode : String) (stated : statedWord config.boardMode = some mode)
      (other : mode ≠ "normal")
  | readiness (unstated : statedWord config.boardMode = none)
      (status : readinessWord gate ∈ ["guarded", "halted"])
  | recommended (state : String) (stated : statedWord (recommendation gate) = some state)
      (blocked : state ∈ blockedStates)
  | reduceOnly (unstated : statedWord (recommendation gate) = none)
      (reducing : gate.risk.reduceOnly = true)
  | configured (unstated : statedWord (recommendation gate) = none) (state : String)
      (stated : statedWord config.killSwitchState = some state) (blocked : state ∈ blockedStates)

theorem boardMode_ne_normal_iff (gate : GateState) (config : ConfigSnapshot) :
    allocationBoardMode gate config ≠ "normal" ↔
      (∃ mode, statedWord config.boardMode = some mode ∧ mode ≠ "normal") ∨
        statedWord config.boardMode = none ∧ readinessWord gate ∈ ["guarded", "halted"] := by
  unfold allocationBoardMode
  cases stated : statedWord config.boardMode with
  | some mode => simp
  | none =>
    by_cases status : readinessWord gate ∈ ["guarded", "halted"]
    · have other : readinessWord gate ≠ "normal" := by
        intro normal
        rw [normal] at status
        exact absurd status (by decide)
      simp [status, other]
    · simp [status]

theorem killSwitchState_blocked_iff (gate : GateState) (config : ConfigSnapshot) :
    allocationKillSwitchState gate config ∈ blockedStates ↔
      (∃ state, statedWord (recommendation gate) = some state ∧ state ∈ blockedStates) ∨
        statedWord (recommendation gate) = none ∧ (gate.risk.reduceOnly = true ∨
          ∃ state, statedWord config.killSwitchState = some state ∧ state ∈ blockedStates) := by
  unfold allocationKillSwitchState
  have normal : "normal" ∉ blockedStates := by decide
  have softStop : "soft_stop" ∈ blockedStates := by decide
  cases stated : statedWord (recommendation gate) with
  | some state => simp
  | none =>
    cases reducing : gate.risk.reduceOnly with
    | true => simp [softStop]
    | false =>
      cases configured : statedWord config.killSwitchState with
      | some state => simp
      | none => simp [normal]

theorem stopStated_iff (gate : GateState) (config : ConfigSnapshot) :
    StopStated gate config ↔ allocationBoardMode gate config ≠ "normal" ∨
      allocationKillSwitchState gate config ∈ blockedStates := by
  rw [boardMode_ne_normal_iff, killSwitchState_blocked_iff]
  constructor
  · intro stop
    cases stop with
    | boardMode mode stated other => exact .inl (.inl ⟨mode, stated, other⟩)
    | readiness unstated status => exact .inl (.inr ⟨unstated, status⟩)
    | recommended state stated blocked => exact .inr (.inl ⟨state, stated, blocked⟩)
    | reduceOnly unstated reducing => exact .inr (.inr ⟨unstated, .inl reducing⟩)
    | configured unstated state stated blocked =>
      exact .inr (.inr ⟨unstated, .inr ⟨state, stated, blocked⟩⟩)
  · rintro ((⟨mode, stated, other⟩ | ⟨unstated, status⟩) | ⟨state, stated, blocked⟩ |
      ⟨unstated, reducing | ⟨state, stated, blocked⟩⟩)
    · exact .boardMode mode stated other
    · exact .readiness unstated status
    · exact .recommended state stated blocked
    · exact .reduceOnly unstated reducing
    · exact .configured unstated state stated blocked

/-! ## The words are normalised already -/

theorem normalizeText_statedWord {value : Value} {word : String}
    (stated : statedWord value = some word) : normalizeText (.str word) = word := by
  cases value with
  | str text =>
    by_cases empty : strip text = ""
    · exact absurd stated (by simp [statedWord, empty])
    · have found : lower (strip text) = word := by simpa [statedWord, empty] using stated
      rw [← found]
      exact lower_strip_lower_strip text
  | _ => exact absurd stated (by simp [statedWord])

theorem normalizeText_boardMode (gate : GateState) (config : ConfigSnapshot) :
    normalizeText (.str (allocationBoardMode gate config)) = allocationBoardMode gate config := by
  unfold allocationBoardMode
  cases stated : statedWord config.boardMode with
  | some mode => exact normalizeText_statedWord stated
  | none =>
    dsimp only
    split
    · exact lower_strip_lower_strip gate.market.profitReadinessStatus
    · decide

theorem normalizeText_killSwitchState (gate : GateState) (config : ConfigSnapshot) :
    normalizeText (.str (allocationKillSwitchState gate config)) =
      allocationKillSwitchState gate config := by
  unfold allocationKillSwitchState
  cases stated : statedWord (recommendation gate) with
  | some state => exact normalizeText_statedWord stated
  | none =>
    dsimp only
    split
    · decide
    · cases configured : statedWord config.killSwitchState with
      | some state => exact normalizeText_statedWord configured
      | none => decide

/-! ## The hard filters -/

namespace StrategyAllocationPolicy

/-- A policy that judges its candidates and whose hard filters, for every
strategy, admit the normal board mode only and block the default states. -/
structure NormalOnly (policy : StrategyAllocationPolicy) : Prop where
  judging : policy.isPassThrough = false
  boardModes : ∀ strategyId,
    (policy.resolveHardFilters (policy.strategyCfg strategyId)).get? "board_modes" =
      some (.list [.str "normal"])
  blocked : ∀ strategyId,
    (policy.resolveHardFilters (policy.strategyCfg strategyId)).get?
      "kill_switch_blocked_states" = some (.list (blockedStates.map .str))

/-- Neither the board mode nor the kill switch stops the allocation. -/
structure Clear (context : AllocationContext) : Prop where
  boardMode : normalizeText (.str context.boardMode) = "normal"
  killSwitchState : normalizeText (.str context.killSwitchState) ∉ blockedStates

theorem stopReason_none_iff_clear {context : AllocationContext} {filters : Mapping}
    (modes : filters.get? "board_modes" = some (.list [.str "normal"])) :
    stopReason context filters (blockedStates.map .str) = none ↔ Clear context := by
  have words : (blockedStates.map Value.str).map normalizeText = blockedStates := by decide
  have normal : [Value.str "normal"].map normalizeText = ["normal"] := by decide
  unfold stopReason
  rw [modes]
  dsimp only
  simp only [words, normal]
  split
  · rename_i stopped
    exact iff_of_false nofun fun clear => clear.killSwitchState stopped.2
  rename_i unblocked
  split
  · rename_i outside
    exact iff_of_false nofun fun clear => outside.2 (by simp [clear.boardMode])
  · rename_i allowed
    refine iff_of_true rfl ⟨by simpa using allowed, fun blocked => unblocked ⟨?_, blocked⟩⟩
    intro empty
    rw [empty] at blocked
    exact absurd blocked (by decide)

theorem hardFilterReason_none {policy : StrategyAllocationPolicy} (strict : policy.NormalOnly)
    {candidate : AllocationCandidate} {context : AllocationContext} {strategyId : String}
    (passed : policy.hardFilterReason candidate context (policy.strategyCfg strategyId) =
      .ok none) : Clear context := by
  unfold hardFilterReason at passed
  simp only [strict.blocked, Option.getD_some, iterate] at passed
  obtain ⟨blocked, listed, passed⟩ := bind_ok passed
  obtain rfl := Except.ok.inj listed
  rw [← stopReason_none_iff_clear (strict.boardModes strategyId)]
  cases stop : stopReason context (policy.resolveHardFilters (policy.strategyCfg strategyId))
      (blockedStates.map .str) with
  | none => rfl
  | some reason =>
    rw [stop] at passed
    cases passed

theorem hardFilterReason_congr {policy : StrategyAllocationPolicy} (strict : policy.NormalOnly)
    {context other : AllocationContext} (left : Clear context) (right : Clear other)
    (hour : context.nowHour = other.nowHour) (candidate : AllocationCandidate)
    (strategyId : String) :
    policy.hardFilterReason candidate context (policy.strategyCfg strategyId) =
      policy.hardFilterReason candidate other (policy.strategyCfg strategyId) := by
  have going := (stopReason_none_iff_clear (strict.boardModes strategyId)).mpr left
  have otherGoing := (stopReason_none_iff_clear (strict.boardModes strategyId)).mpr right
  unfold hardFilterReason
  simp only [strict.blocked, Option.getD_some, iterate, bind, Except.bind, going, otherGoing,
    quoteReason, hour]

theorem evaluateCandidate_congr {policy : StrategyAllocationPolicy} (strict : policy.NormalOnly)
    {context : AllocationContext} {killSwitchState : String} (left : Clear context)
    (right : Clear { context with killSwitchState }) (candidate : AllocationCandidate) :
    policy.evaluateCandidate context candidate =
      policy.evaluateCandidate { context with killSwitchState } candidate := by
  have filtered := hardFilterReason_congr strict left right rfl candidate
  unfold evaluateCandidate
  simp only [filtered]
  rfl

theorem evaluateCandidate_unfiltered {policy : StrategyAllocationPolicy}
    {context : AllocationContext} {candidate : AllocationCandidate} {judged : EvaluatedCandidate}
    (evaluated : policy.evaluateCandidate context candidate = .ok judged)
    (accepted : judged.accepted = true) :
    policy.hardFilterReason candidate context (policy.strategyCfg candidate.strategyId) =
      .ok none := by
  unfold evaluateCandidate at evaluated
  dsimp only at evaluated
  split at evaluated
  · obtain rfl := Except.ok.inj evaluated
    exact absurd accepted (by simp)
  obtain ⟨group, -, evaluated⟩ := bind_ok evaluated
  obtain ⟨bucket, -, evaluated⟩ := bind_ok evaluated
  obtain ⟨-, -, evaluated⟩ := bind_ok evaluated
  split at evaluated
  · obtain rfl := Except.ok.inj evaluated
    exact absurd accepted (by simp)
  obtain ⟨filtered, filters, evaluated⟩ := bind_ok evaluated
  cases filtered with
  | some reason =>
    obtain rfl := Except.ok.inj evaluated
    exact absurd accepted (by simp)
  | none => exact filters

theorem allocate_selected_nil {policy : StrategyAllocationPolicy} (strict : policy.NormalOnly)
    {context : AllocationContext} {candidates : List AllocationCandidate}
    {result : AllocationResult}
    (stopped : ¬ Clear context)
    (allocated : policy.allocate context candidates = .ok result) : result.selected = [] := by
  apply List.eq_nil_iff_forall_not_mem.mpr
  intro candidate member
  obtain ⟨-, judged, evaluated, accepted⟩ := mem_of_selected strict.judging allocated member
  exact stopped (hardFilterReason_none strict (evaluateCandidate_unfiltered evaluated accepted))

/-! ## A policy without further filters -/

def normalOnlyPolicy : StrategyAllocationPolicy where
  mode := "hybrid"
  tieBreakRules := [.str "score_desc"]
  selectionMode := "select_one"
  maxSelectedPerSymbol := none
  globalConfig :=
    [("require_strategy_config", .bool false),
      ("hard_filters", .map [("board_modes", .list [.str "normal"])])]
  strategyConfig := Dict.empty

theorem normalOnlyPolicy_normalOnly : normalOnlyPolicy.NormalOnly :=
  ⟨by decide, fun _ => rfl, fun _ => rfl⟩

theorem allocate_congr {policy : StrategyAllocationPolicy} {context other : AllocationContext}
    (same : policy.evaluateCandidate context = policy.evaluateCandidate other)
    (candidates : List AllocationCandidate) :
    policy.allocate context candidates = policy.allocate other candidates := by
  unfold allocate allocateSymbol
  rw [same]

theorem quietContext_clear : Clear quietContext := ⟨by decide, by decide⟩

theorem normalOnlyPolicy_selects {killSwitchState : String}
    (clear : Clear { quietContext with killSwitchState }) :
    ∃ result, normalOnlyPolicy.allocate { quietContext with killSwitchState }
      [plainCandidate 0 "USDJPY"] = .ok result ∧ result.selected ≠ [] := by
  have same := allocate_congr
    (funext (evaluateCandidate_congr normalOnlyPolicy_normalOnly quietContext_clear clear))
    [plainCandidate 0 "USDJPY"]
  obtain ⟨result, allocated⟩ :=
    exists_ok (normalOnlyPolicy.allocate quietContext [plainCandidate 0 "USDJPY"])
      (by decide +kernel)
  have chosen := allocate_selected normalOnlyPolicy_normalOnly.judging allocated
  refine ⟨result, same ▸ allocated, fun empty => ?_⟩
  rw [empty] at chosen
  have nonempty : (signalSymbols [plainCandidate 0 "USDJPY"]).flatMap
      (normalOnlyPolicy.leading quietContext [plainCandidate 0 "USDJPY"]) ≠ [] := by
    decide +kernel
  exact nonempty chosen.symm

end StrategyAllocationPolicy

/-! ## Against the guardrail snapshot -/

/-- No policy that admits the normal board only selects a candidate with the
stop words the engine derives. -/
def SelectsNothing (gate : GateState) (config : ConfigSnapshot) : Prop :=
  ∀ policy : StrategyAllocationPolicy, policy.NormalOnly →
    ∀ (context : AllocationContext) (candidates : List AllocationCandidate)
      (result : AllocationResult),
      context.boardMode = allocationBoardMode gate config →
      context.killSwitchState = allocationKillSwitchState gate config →
      policy.allocate context candidates = .ok result → result.selected = []

theorem clear_iff_not_stopStated {gate : GateState} {config : ConfigSnapshot}
    {context : AllocationContext} (board : context.boardMode = allocationBoardMode gate config)
    (killSwitch : context.killSwitchState = allocationKillSwitchState gate config) :
    StrategyAllocationPolicy.Clear context ↔ ¬ StopStated gate config := by
  rw [stopStated_iff, not_or, not_not, ← normalizeText_boardMode, ← board,
    ← normalizeText_killSwitchState, ← killSwitch]
  exact ⟨fun clear => ⟨clear.boardMode, clear.killSwitchState⟩,
    fun clear => ⟨clear.1, clear.2⟩⟩

theorem selectsNothing_iff (gate : GateState) (config : ConfigSnapshot) :
    SelectsNothing gate config ↔ StopStated gate config := by
  constructor
  · intro nothing
    by_contra unstated
    have normal : "normal" = allocationBoardMode gate config := by
      by_contra other
      exact unstated ((stopStated_iff gate config).mpr (.inl (Ne.symm other)))
    have clear : StrategyAllocationPolicy.Clear
        { StrategyAllocationPolicy.quietContext with
          killSwitchState := allocationKillSwitchState gate config } :=
      (clear_iff_not_stopStated normal rfl).mpr unstated
    obtain ⟨result, allocated, selected⟩ := StrategyAllocationPolicy.normalOnlyPolicy_selects clear
    exact selected (nothing _ StrategyAllocationPolicy.normalOnlyPolicy_normalOnly _ _ _ normal rfl
      allocated)
  · intro stop policy strict context candidates result board killSwitch allocated
    exact StrategyAllocationPolicy.allocate_selected_nil strict
      (fun clear => (clear_iff_not_stopStated board killSwitch).mp clear stop) allocated

/-- The guardrail reports a stop, the gate is reduce-only, or the configuration
states a stop. -/
def StopRaised (monitor : HealthMonitor) (gate : GateState) (config : ConfigSnapshot) : Prop :=
  (monitor.guardrailSnapshot gate).killSwitchState ∈ ["soft_stop", "hard_stop"] ∨
    (monitor.guardrailSnapshot gate).boardMode ∈ ["guarded", "halted"] ∨
    gate.risk.reduceOnly = true ∨
    statedWord config.killSwitchState ∈ [some "soft_stop", some "hard_stop"]

def AsStrictAsGuardrail (monitor : HealthMonitor) (gate : GateState) (config : ConfigSnapshot) :
    Prop :=
  StopRaised monitor gate config → SelectsNothing gate config

/-- What raises a stop while the monitor has no reasons. -/
inductive Alarm (monitor : HealthMonitor) (gate : GateState) (config : ConfigSnapshot) : Prop where
  | killSwitch (word : String)
      (first : orElse (monitor.state.killSwitch.map (·.state)) gate.risk.killSwitchRecommendation =
        some word)
      (stop : word ∈ ["soft_stop", "hard_stop"])
  | spread (state : gate.market.spread.state ≠ "normal")
  | liquidity (state : gate.market.liquidity.state ∈ ["guarded", "halted"])
  | reduceOnly (reducing : gate.risk.reduceOnly = true)
  | configured (stated : statedWord config.killSwitchState ∈ [some "soft_stop", some "hard_stop"])

theorem normaliseSpreadState_eq_normal_iff (state : String) :
    HealthMonitor.normaliseSpreadState state = "normal" ↔ state = "normal" := by
  unfold HealthMonitor.normaliseSpreadState
  split
  · rename_i halted
    exact ⟨fun same => absurd same (by decide), fun same => by simp [same] at halted⟩
  · split
    · rename_i watched
      exact ⟨fun same => absurd same (by decide), fun same => by simp [same] at watched⟩
    · exact Iff.rfl

theorem orText_stop_iff {source : Option String} {words : List String} (empty : "" ∉ words)
    (other : "none" ∉ words) :
    orText source "none" ∈ words ↔ ∃ word, source = some word ∧ word ∈ words := by
  cases source with
  | none => simp [other]
  | some word =>
    by_cases blank : word = ""
    · simp [orText, blank, empty, other]
    · simp [orText, blank]

theorem snapshotBoardMode_quiet_iff {health : HealthState} {gate : GateState}
    {killSwitch spreadState : String} (quiet : health.status = "ok") :
    HealthMonitor.snapshotBoardMode health gate killSwitch spreadState ∈ ["guarded", "halted"] ↔
      killSwitch = "hard_stop" ∨ spreadState ≠ "normal" ∨ gate.risk.reduceOnly = true ∨
        gate.market.liquidity.state ∈ ["guarded", "halted"] := by
  have healthy : ¬ ("ok" = "hard_stop") ∧ ¬ "ok" ∈ ["warn", "degraded", "soft_stop"] := by decide
  unfold HealthMonitor.snapshotBoardMode
  rw [quiet]
  simp only [healthy.1, healthy.2, or_false]
  split
  · rename_i stopped
    simp [stopped]
  · rename_i running
    simp only [running, false_or]
    split
    · rename_i guarded
      exact iff_of_true (by decide) guarded
    · rename_i normal
      exact iff_of_false (by decide) normal

theorem stopRaised_iff_alarm {monitor : HealthMonitor} (quiet : monitor.state.status = "ok")
    (gate : GateState) (config : ConfigSnapshot) :
    StopRaised monitor gate config ↔ Alarm monitor gate config := by
  have killSwitch : (monitor.guardrailSnapshot gate).killSwitchState ∈ ["soft_stop", "hard_stop"] ↔
      ∃ word, orElse (monitor.state.killSwitch.map (·.state))
        gate.risk.killSwitchRecommendation = some word ∧ word ∈ ["soft_stop", "hard_stop"] :=
    orText_stop_iff (by decide) (by decide)
  have board : (monitor.guardrailSnapshot gate).boardMode ∈ ["guarded", "halted"] ↔
      (monitor.guardrailSnapshot gate).killSwitchState = "hard_stop" ∨
        gate.market.spread.state ≠ "normal" ∨ gate.risk.reduceOnly = true ∨
        gate.market.liquidity.state ∈ ["guarded", "halted"] := by
    have spread : HealthMonitor.normaliseSpreadState gate.market.spread.state ≠ "normal" ↔
        gate.market.spread.state ≠ "normal" :=
      not_congr (normaliseSpreadState_eq_normal_iff gate.market.spread.state)
    rw [← spread]
    exact snapshotBoardMode_quiet_iff quiet
  unfold StopRaised
  rw [board]
  constructor
  · rintro (stop | (halted | spread | reducing | liquidity) | reducing | stated)
    · obtain ⟨word, first, stop⟩ := killSwitch.mp stop
      exact .killSwitch word first stop
    · obtain ⟨word, first, stop⟩ := killSwitch.mp (by rw [halted]; decide)
      exact .killSwitch word first stop
    · exact .spread spread
    · exact .reduceOnly reducing
    · exact .liquidity liquidity
    · exact .reduceOnly reducing
    · exact .configured stated
  · intro alarm
    cases alarm with
    | killSwitch word first stop => exact .inl (killSwitch.mpr ⟨word, first, stop⟩)
    | spread state => exact .inr (.inl (.inr (.inl state)))
    | liquidity state => exact .inr (.inl (.inr (.inr (.inr state))))
    | reduceOnly reducing => exact .inr (.inr (.inl reducing))
    | configured stated => exact .inr (.inr (.inr stated))

/-- With a monitor that has no reasons, the allocator is as strict as the
guardrail exactly when every alarm goes with a stop the engine reads. -/
theorem asStrictAsGuardrail_iff {monitor : HealthMonitor} (reachable : monitor.Reachable)
    (quiet : monitor.state.reasons = []) (gate : GateState) (config : ConfigSnapshot) :
    AsStrictAsGuardrail monitor gate config ↔
      (Alarm monitor gate config → StopStated gate config) := by
  unfold AsStrictAsGuardrail
  rw [stopRaised_iff_alarm (reachable.quietIsOk quiet), selectsNothing_iff]

def hardStopGate : GateState where
  risk := { reduceOnly := true, killSwitchRecommendation := some "hard_stop" }

/-- A hard stop raises the guardrail, and the allocator selects nothing. -/
theorem asStrictAsGuardrail_hardStop :
    StopRaised .fresh hardStopGate {} ∧ AsStrictAsGuardrail .fresh hardStopGate {} := by
  have stated : StopStated hardStopGate {} := (stopStated_iff _ _).mpr (.inr (by decide +kernel))
  exact ⟨.inr (.inr (.inl rfl)),
    (asStrictAsGuardrail_iff ⟨[], rfl⟩ rfl hardStopGate {}).mpr fun _ => stated⟩

def reduceOnlyGate : GateState where
  risk := { reduceOnly := true, killSwitchRecommendation := some "none" }

/-- A recommendation of nothing hides that the gate is reduce-only. -/
theorem reduceOnly_not_as_strict : ¬ AsStrictAsGuardrail .fresh reduceOnlyGate {} := by
  intro strict
  have stop := (selectsNothing_iff reduceOnlyGate {}).mp (strict (.inr (.inr (.inl rfl))))
  rw [stopStated_iff] at stop
  exact absurd stop (by decide +kernel)

end FxToushi.Strategies
