import FxToushi.Py.ExtendedRanges
import FxToushi.Strategies.AllocationBooks

namespace FxToushi.Strategies

open Data Py

/-! # Fewer open positions

An open position can block a candidate, defer it, count against a limit or take
from its score.  None of these lets a candidate in, so one that is selected
beside some positions is selected beside fewer of them, and with no lower score.
-/

/-- The context with other open positions. -/
def AllocationContext.holding (context : AllocationContext)
    (positions : List AllocationActivePosition) : AllocationContext :=
  { context with openPositions := positions }

namespace StrategyAllocationPolicy

section Matches

variable {policy : StrategyAllocationPolicy} {context : AllocationContext}
  {candidate : AllocationCandidate} {strategyCfg portfolioCfg : Mapping}
  {fewer more : List AllocationActivePosition}

theorem positionsUnder_sublist {dimension : Dimension} {label : String} (kept : fewer.Sublist more)
    {matched : List AllocationActivePosition}
    (found : policy.positionsUnder dimension label more = .ok matched) :
    ∃ remaining, policy.positionsUnder dimension label fewer = .ok remaining ∧
      remaining.Sublist matched := by
  by_cases named : label = ""
  · rw [positionsUnder, if_pos named] at found ⊢
    exact ⟨[], rfl, Except.ok.inj found ▸ List.Sublist.refl []⟩
  · rw [positionsUnder, if_neg named] at found ⊢
    obtain ⟨labelled, mapped, returned⟩ := bind_ok found
    obtain ⟨remaining, mappedFewer, keptLabelled⟩ := tryMap_sublist kept mapped
    obtain rfl := Except.ok.inj returned
    exact ⟨_, bind_ok_iff.mpr ⟨remaining, mappedFewer, rfl⟩, (keptLabelled.filter _).map _⟩

theorem policyConflict_sublist {stem : String} (kept : fewer.Sublist more)
    (free : policyConflict portfolioCfg stem more = none) :
    policyConflict portfolioCfg stem fewer = none := by
  unfold policyConflict at free ⊢
  by_cases empty : fewer = []
  · exact if_pos empty
  · have held : more ≠ [] := fun none => empty (List.sublist_nil.mp (none ▸ kept))
    rw [if_neg held] at free
    rw [if_neg empty]
    split at free
    · cases free
    · rename_i unblocked
      rw [if_neg unblocked]
      split at free
      · cases free
      · rename_i undeferred
        exact if_neg undeferred

theorem dimensionConflict_sublist {dimension : Dimension} (kept : fewer.Sublist more)
    (free : dimensionConflict portfolioCfg dimension more = none) :
    dimensionConflict portfolioCfg dimension fewer = none := by
  unfold dimensionConflict at free ⊢
  split at free
  · cases free
  · rename_i within
    rw [if_neg]
    · exact policyConflict_sublist kept free
    · intro full
      obtain ⟨limit, capped, reached⟩ := Option.any_eq_true _ _ |>.mp full
      refine within (Option.any_eq_true _ _ |>.mpr ⟨limit, capped, ?_⟩)
      have counted := kept.length_le
      simp only [decide_eq_true_eq] at reached ⊢
      omega

theorem activeMatches_sublist {dimension : Dimension} (kept : fewer.Sublist context.openPositions)
    {matched : List AllocationActivePosition}
    (found : policy.activeMatches dimension candidate context strategyCfg = .ok matched) :
    ∃ remaining, policy.activeMatches dimension candidate (context.holding fewer) strategyCfg =
        .ok remaining ∧ remaining.Sublist matched := by
  obtain ⟨label, labelled, found⟩ := bind_ok found
  obtain ⟨remaining, foundFewer, keptMatched⟩ := positionsUnder_sublist kept found
  exact ⟨remaining, bind_ok_iff.mpr ⟨label, labelled, foundFewer⟩, keptMatched⟩

theorem activeSymbolMatches_sublist (kept : fewer.Sublist context.openPositions) :
    (activeSymbolMatches candidate (context.holding fewer)).Sublist
      (activeSymbolMatches candidate context) :=
  kept.filter _

theorem conflict_sublist (kept : fewer.Sublist context.openPositions)
    (free : policy.resolveActivePositionConflict candidate context strategyCfg = .ok none) :
    policy.resolveActivePositionConflict candidate (context.holding fewer) strategyCfg =
      .ok none := by
  unfold resolveActivePositionConflict at free ⊢
  dsimp only at free ⊢
  by_cases empty : fewer = []
  · exact if_pos empty
  · have held : context.openPositions ≠ [] := fun none => empty (List.sublist_nil.mp (none ▸ kept))
    rw [if_neg held] at free
    refine (if_neg empty).trans ?_
    cases symbol : policyConflict (policy.resolvePortfolioCfg strategyCfg) "active_symbol"
        (activeSymbolMatches candidate context) with
    | some conflict =>
      rw [symbol] at free
      cases free
    | none =>
      rw [symbol] at free
      rw [policyConflict_sublist (activeSymbolMatches_sublist kept) symbol]
      obtain ⟨grouped, groups, free⟩ := bind_ok free
      obtain ⟨fewerGrouped, fewerGroups, keptGroups⟩ := activeMatches_sublist kept groups
      refine bind_ok_iff.mpr ⟨fewerGrouped, fewerGroups, ?_⟩
      cases group : dimensionConflict (policy.resolvePortfolioCfg strategyCfg) .group grouped with
      | some conflict =>
        rw [group] at free
        cases free
      | none =>
        rw [group] at free
        rw [dimensionConflict_sublist keptGroups group]
        obtain ⟨exposed, exposures, free⟩ := bind_ok free
        obtain ⟨fewerExposed, fewerExposures, keptExposures⟩ :=
          activeMatches_sublist kept exposures
        refine bind_ok_iff.mpr ⟨fewerExposed, fewerExposures, ?_⟩
        rw [dimensionConflict_sublist keptExposures (Except.ok.inj free)]
        rfl

end Matches

/-! ## The score -/

section Score

variable {policy : StrategyAllocationPolicy} {context : AllocationContext}
  {candidate : AllocationCandidate} {strategyCfg portfolioCfg : Mapping}
  {fewer : List AllocationActivePosition} {score : Extended}

theorem count_mul_le {penalty : Extended} (positive : 0 < penalty) {few many : Nat}
    (nonzero : 0 < few) (most : few ≤ many) :
    0 ≤ .finite few * penalty ∧ .finite few * penalty ≤ .finite many * penalty := by
  cases penalty with
  | nan => exact absurd positive Extended.not_pos_nan
  | infinite negative =>
    have upward : negative = false := Extended.pos_infinite.mp positive
    subst upward
    have endless : ∀ count : Nat, 0 < count →
        Extended.finite count * .infinite false = .infinite false := by
      intro count counted
      have value : (count : Rat) ≠ 0 := by exact_mod_cast counted.ne'
      have sign : ¬ (count : Rat) < 0 := not_lt.mpr (Nat.cast_nonneg count)
      change (if (count : Rat) = 0 then Extended.nan
        else .infinite (false != decide ((count : Rat) < 0))) = _
      rw [if_neg value, decide_eq_false sign]
      rfl
    rw [endless few nonzero, endless many (nonzero.trans_le most)]
    exact ⟨by decide, by decide⟩
  | finite value =>
    have above : 0 < value := Extended.pos_finite.mp positive
    have product : ∀ count : Nat, Extended.finite count * .finite value =
        .finite (count * value) := fun _ => rfl
    rw [product, product, Extended.nonneg_finite, Extended.finite_le_finite]
    exact ⟨mul_nonneg (Nat.cast_nonneg few) above.le,
      mul_le_mul_of_nonneg_right (by exact_mod_cast most) above.le⟩

theorem lessPenalty_outlived {stem : String} {few many : Nat} {lower upper : Extended}
    (most : few ≤ many) (outlived : Extended.Outlived lower upper) :
    Extended.Outlived (lessPenalty portfolioCfg stem many lower)
      (lessPenalty portfolioCfg stem few upper) := by
  unfold lessPenalty
  dsimp only
  by_cases charged : activePolicy portfolioCfg stem = "penalize" ∧
      0 < coerceFloat (portfolioCfg.get? (stem ++ "_penalty")) 0
  · simp only [charged, and_self, and_true]
    cases Nat.eq_zero_or_pos few with
    | inl none =>
      rw [if_neg (by omega : ¬ 0 < few)]
      split
      · rename_i some
        have loss := count_mul_le charged.2 some (le_refl many)
        rw [← upper.sub_zero]
        exact outlived.sub Extended.nonneg_zero loss.1
      · exact outlived
    | inr some =>
      obtain ⟨nonneg, atMost⟩ := count_mul_le charged.2 some most
      rw [if_pos some, if_pos (some.trans_le most)]
      exact outlived.sub nonneg atMost
  · rw [if_neg fun holds => charged holds.2, if_neg fun holds => charged holds.2]
    exact outlived

/-- The score beside fewer positions is the greater one. -/
theorem computeScore_sublist (kept : fewer.Sublist context.openPositions)
    (scored : policy.computeScore candidate context strategyCfg = .ok score) :
    ∃ other, policy.computeScore candidate (context.holding fewer) strategyCfg = .ok other ∧
      Extended.Outlived score other := by
  obtain ⟨weight, scored⟩ := requireFloats_bind_iff.mp scored
  obtain ⟨bias, read, scored⟩ := bind_ok scored
  obtain ⟨fit, scored⟩ := requireFloats_bind_iff.mp scored
  obtain ⟨grouped, groups, scored⟩ := bind_ok scored
  obtain ⟨exposed, exposures, scored⟩ := bind_ok scored
  obtain ⟨fewerGrouped, fewerGroups, keptGroups⟩ := activeMatches_sublist kept groups
  obtain ⟨fewerExposed, fewerExposures, keptExposures⟩ := activeMatches_sublist kept exposures
  refine ⟨_, requireFloats_bind_iff.mpr ⟨weight, bind_ok_iff.mpr ⟨bias, read,
    requireFloats_bind_iff.mpr ⟨fit, bind_ok_iff.mpr ⟨fewerGrouped, fewerGroups,
      bind_ok_iff.mpr ⟨fewerExposed, fewerExposures, rfl⟩⟩⟩⟩⟩, ?_⟩
  rw [← Except.ok.inj scored]
  refine Extended.Outlived.round ?_ 8
  refine lessPenalty_outlived keptExposures.length_le ?_
  refine lessPenalty_outlived keptGroups.length_le ?_
  refine lessPenalty_outlived (activeSymbolMatches_sublist kept).length_le ?_
  exact .refl _

end Score

/-! ## The evaluation -/

section Evaluation

variable {policy : StrategyAllocationPolicy} {context : AllocationContext}
  {candidate : AllocationCandidate} {fewer : List AllocationActivePosition}

theorem clears_sublist (kept : fewer.Sublist context.openPositions)
    (clears : policy.Clears context candidate) :
    policy.Clears (context.holding fewer) candidate := by
  obtain ⟨score, bound, scored, bounded, reaches⟩ := clears.score
  obtain ⟨other, otherScored, outlived⟩ := computeScore_sublist kept scored
  have filters := clears.hardFilters
  exact ⟨clears.configured, clears.enabled,
    ⟨⟨filters.killSwitch, filters.boardMode⟩, filters.spread, filters.session⟩,
    conflict_sublist kept clears.noConflict,
    ⟨other, bound, otherScored, bounded, outlived.not_lt reaches⟩⟩

theorem evaluable_sublist (kept : fewer.Sublist context.openPositions)
    (evaluable : policy.Evaluable context candidate) (clears : policy.Clears context candidate) :
    policy.Evaluable (context.holding fewer) candidate := by
  intro configured
  obtain ⟨rendered, slots, evaluable⟩ := evaluable configured
  refine ⟨rendered, slots, fun enabled => ?_⟩
  obtain ⟨listed, fit, evaluable⟩ := evaluable enabled
  refine ⟨listed, fun _ => fit clears.hardFilters.toPassesStops, fun _ => ?_⟩
  obtain ⟨conflict, resolved, scorable⟩ := evaluable clears.hardFilters
  obtain rfl := Except.ok.inj (resolved.symm.trans clears.noConflict)
  exact ⟨none, conflict_sublist kept clears.noConflict, fun free =>
    ⟨(scorable free).overall, (scorable free).own, (scorable free).floats,
      (scorable free).minimums⟩⟩

theorem evaluateScored_score {strategyCfg : Mapping} {item judged : EvaluatedCandidate}
    (pending : item.accepted = false)
    (evaluated : policy.evaluateScored candidate context strategyCfg item = .ok judged)
    (accepted : judged.accepted = true) :
    ∃ score, judged.score = some score ∧
      policy.computeScore candidate context strategyCfg = .ok score := by
  obtain ⟨conflict, resolved, evaluated⟩ := bind_ok evaluated
  cases conflict with
  | some conflict =>
    obtain rfl := Except.ok.inj evaluated
    exact absurd accepted (by simp [pending])
  | none =>
    obtain ⟨score, scored, evaluated⟩ := bind_ok evaluated
    obtain ⟨bound, bounded, evaluated⟩ := bind_ok evaluated
    refine ⟨score, ?_, scored⟩
    split at evaluated <;> rw [← Except.ok.inj evaluated]

/-- An accepted candidate carries the score that was computed for it. -/
theorem evaluateCandidate_score {judged : EvaluatedCandidate}
    (evaluated : policy.evaluateCandidate context candidate = .ok judged)
    (accepted : judged.accepted = true) :
    ∃ score, judged.score = some score ∧
      policy.computeScore candidate context (policy.ownCfg candidate) = .ok score := by
  unfold evaluateCandidate at evaluated
  dsimp only at evaluated
  split at evaluated
  · obtain rfl := Except.ok.inj evaluated
    cases accepted
  obtain ⟨group, grouped, evaluated⟩ := bind_ok evaluated
  obtain ⟨bucket, bucketed, evaluated⟩ := bind_ok evaluated
  obtain ⟨-, -, evaluated⟩ := bind_ok evaluated
  split at evaluated
  · obtain rfl := Except.ok.inj evaluated
    cases accepted
  obtain ⟨filtered, filters, evaluated⟩ := bind_ok evaluated
  cases filtered with
  | some reason =>
    obtain rfl := Except.ok.inj evaluated
    cases accepted
  | none => exact evaluateScored_score rfl evaluated accepted

/-! ## One candidate -/

theorem allocate_single (active : policy.isPassThrough = false) :
    policy.allocate context [candidate] = policy.allocateSymbol context [candidate] := by
  have own : candidatesOf [candidate] (signalSymbol candidate.signal) = [candidate] := by
    simp [candidatesOf]
  have symbols : signalSymbols [candidate] = [signalSymbol candidate.signal] := by
    simp [signalSymbols]
  simp only [allocate, active, Bool.false_eq_true, if_false, symbols, tryMap, own]
  cases policy.allocateSymbol context [candidate] with
  | error error => rfl
  | ok result => simp [bind, Except.bind, pure, Except.pure]

/-- The candidate is selected alone, and the score is reported. -/
structure SelectedAlone (policy : StrategyAllocationPolicy) (candidate : AllocationCandidate)
    (score : Extended) (result : AllocationResult) : Prop where
  selected : result.selected = [candidate]
  reported : result.outcomes.map (·.score) = [some score]

theorem allocateSymbol_of_item {item : EvaluatedCandidate} {score : Extended}
    {keys : List KeyPart} (evaluated : policy.evaluateCandidate context candidate = .ok item)
    (accepted : item.accepted = true) (scored : item.score = some score)
    (keyed : policy.tieBreakSortKey item score = .ok keys) :
    policy.allocateSymbol context [candidate] = .ok
      { selected := ([item].take (policy.keepCount 1)).map (·.candidate)
        outcomes := [policy.contenderOutcome ([item].take (policy.keepCount 1)) item] } := by
  refine bind_ok_iff.mpr ⟨[item], by rw [tryMap, evaluated]; rfl, ?_⟩
  refine bind_ok_iff.mpr ⟨[(item, keys)], ?_, ?_⟩
  · have present := acceptedScore_of_accepted accepted scored
    rw [List.filterMap_cons_some (by rw [present]; rfl), List.filterMap_nil, tryMap, keyed]
    rfl
  · simp [accepted, pure, Except.pure]

theorem selectedAlone_of_room {item : EvaluatedCandidate} {score : Extended}
    (own : item.candidate = candidate) (scored : item.score = some score)
    (room : 0 < policy.keepCount 1) :
    SelectedAlone policy candidate score
      { selected := ([item].take (policy.keepCount 1)).map (·.candidate)
        outcomes := [policy.contenderOutcome ([item].take (policy.keepCount 1)) item] } := by
  have whole : [item].take (policy.keepCount 1) = [item] :=
    List.take_of_length_le (by rw [List.length_singleton]; omega)
  rw [whole]
  refine ⟨by rw [List.map_singleton, own], ?_⟩
  simp [contenderOutcome, buildOutcome, scored]

theorem allocateSymbol_single {result : AllocationResult}
    (allocated : policy.allocateSymbol context [candidate] = .ok result)
    (selected : candidate ∈ result.selected) :
    policy.Evaluable context candidate ∧ policy.Clears context candidate ∧
      policy.Sortable candidate ∧ 0 < policy.keepCount 1 ∧
      ∃ score, policy.computeScore candidate context (policy.ownCfg candidate) = .ok score ∧
        SelectedAlone policy candidate score result := by
  have whole := allocated
  obtain ⟨judged, mapped, allocated⟩ := bind_ok allocated
  obtain ⟨contenders, keyed, returned⟩ := bind_ok allocated
  obtain ⟨item, none, evaluated, mappedNone, rfl⟩ := tryMap_cons_ok mapped
  obtain rfl := Except.ok.inj mappedNone
  have told := evaluateCandidate_told evaluated
  cases accepted : item.accepted with
  | false =>
    have unscored : acceptedScore item = .none := by simp [acceptedScore, accepted]
    rw [List.filterMap_cons_none (by rw [unscored]; rfl)] at keyed
    obtain rfl := Except.ok.inj keyed
    rw [← Except.ok.inj returned] at selected
    simp at selected
  | true =>
    obtain ⟨score, scored, computed⟩ := evaluateCandidate_score evaluated accepted
    have present := acceptedScore_of_accepted accepted scored
    rw [List.filterMap_cons_some (by rw [present]; rfl), List.filterMap_nil] at keyed
    obtain ⟨contender, later, placed, -, rfl⟩ := tryMap_cons_ok keyed
    obtain ⟨keys, sorted, -⟩ := bind_ok placed
    obtain rfl := Except.ok.inj
      ((allocateSymbol_of_item evaluated accepted scored sorted).symm.trans whole)
    have room : 0 < policy.keepCount 1 := by
      by_contra full
      rw [Nat.eq_zero_of_not_pos full] at selected
      cases selected
    refine ⟨evaluateCandidate_ok_iff.mp ⟨item, evaluated⟩, told.accepted.mp accepted, ?_, room,
      score, computed, selectedAlone_of_room told.sameCandidate scored room⟩
    rw [← told.sameCandidate]
    exact tieBreakSortKey_ok_iff.mp ⟨keys, sorted⟩

theorem allocateSymbol_single_of_clears {score : Extended}
    (evaluable : policy.Evaluable context candidate) (clears : policy.Clears context candidate)
    (sortable : policy.Sortable candidate) (room : 0 < policy.keepCount 1)
    (computed : policy.computeScore candidate context (policy.ownCfg candidate) = .ok score) :
    ∃ result, policy.allocateSymbol context [candidate] = .ok result ∧
      SelectedAlone policy candidate score result := by
  obtain ⟨item, evaluated⟩ := evaluateCandidate_ok_iff.mpr evaluable
  have told := evaluateCandidate_told evaluated
  have accepted := told.accepted.mpr clears
  obtain ⟨other, scored, recomputed⟩ := evaluateCandidate_score evaluated accepted
  obtain rfl := Except.ok.inj (computed.symm.trans recomputed)
  rw [← told.sameCandidate] at sortable
  obtain ⟨keys, sorted⟩ := (@tieBreakSortKey_ok_iff policy item score).mpr sortable
  exact ⟨_, allocateSymbol_of_item evaluated accepted scored sorted,
    selectedAlone_of_room told.sameCandidate scored room⟩

/-- A candidate that is selected alone beside some open positions is selected beside some of
these too, and the score reported there is not lower, unless the first is not a number. -/
theorem allocate_beside_fewer (kept : fewer.Sublist context.openPositions)
    {result : AllocationResult} (allocated : policy.allocate context [candidate] = .ok result)
    (selected : candidate ∈ result.selected) :
    ∃ score other better, SelectedAlone policy candidate score result ∧
      policy.allocate (context.holding fewer) [candidate] = .ok other ∧
      SelectedAlone policy candidate better other ∧ (score = .nan ∨ score ≤ better) := by
  cases passing : policy.isPassThrough with
  | true =>
    rw [allocate, if_pos passing, requireFloats_bind_iff] at allocated
    have passed : ∀ around : AllocationContext, policy.allocate around [candidate] =
        .ok { selected := [candidate], outcomes := [passThroughOutcome candidate] } := by
      intro around
      rw [allocate, if_pos passing, requireFloats_bind_iff]
      exact ⟨allocated.1, rfl⟩
    have alone : SelectedAlone policy candidate (candidateScore candidate)
        { selected := [candidate], outcomes := [passThroughOutcome candidate] } := ⟨rfl, rfl⟩
    obtain rfl := Except.ok.inj allocated.2
    exact ⟨_, _, _, alone, passed _, alone, (Extended.Outlived.refl _).le⟩
  | false =>
    rw [allocate_single passing] at allocated
    obtain ⟨evaluable, clears, sortable, room, score, computed, alone⟩ :=
      allocateSymbol_single allocated selected
    obtain ⟨better, recomputed, outlived⟩ := computeScore_sublist kept computed
    obtain ⟨other, otherAllocated, otherAlone⟩ := allocateSymbol_single_of_clears
      (evaluable_sublist kept evaluable clears) (clears_sublist kept clears) sortable room
      recomputed
    rw [← allocate_single passing] at otherAllocated
    exact ⟨score, other, better, alone, otherAllocated, otherAlone, outlived.le⟩

theorem mem_selected_of_length (active : policy.isPassThrough = false)
    {result : AllocationResult} (allocated : policy.allocate context [candidate] = .ok result)
    (some : 0 < result.selected.length) : candidate ∈ result.selected := by
  obtain ⟨chosen, member⟩ := List.exists_mem_of_length_pos some
  obtain rfl := List.mem_singleton.mp (mem_of_selected active allocated member).1
  exact member

end Evaluation

/-! ## One open position -/

def penalizingPolicy (penalty : Value) : StrategyAllocationPolicy :=
  { oneMajorPolicy with
    globalConfig :=
      [("require_strategy_config", .bool false),
        ("portfolio", .map
          [("active_symbol_policy", .str "penalize"), ("active_symbol_penalty", penalty)])] }

def oneOpenContext : AllocationContext :=
  quietContext.holding [{ strategyId := "m0", symbol := "USDJPY" }]

def pricedCandidate (edge : Extended) : AllocationCandidate :=
  { plainCandidate 0 "USDJPY" with
    trade := some
      { candidateId := "m1", symbol := "USDJPY", side := "long", expectedEdge := some edge } }

theorem allocate_beside_none : ∃ result score other better,
    SelectedAlone (penalizingPolicy (.int 1)) (pricedCandidate (.finite 5)) score result ∧
    (penalizingPolicy (.int 1)).allocate (oneOpenContext.holding []) [pricedCandidate (.finite 5)] =
      .ok other ∧
    SelectedAlone (penalizingPolicy (.int 1)) (pricedCandidate (.finite 5)) better other ∧
    (score = .nan ∨ score ≤ better) := by
  have found : ((penalizingPolicy (.int 1)).allocate oneOpenContext
      [pricedCandidate (.finite 5)]).toOption.any
        (fun result => decide (0 < result.selected.length)) = true := by decide +kernel
  obtain ⟨result, allocated, selected⟩ := exists_ok_any found
  have member := mem_selected_of_length (by decide) allocated (of_decide_eq_true selected)
  exact ⟨result, allocate_beside_fewer (List.nil_sublist _) allocated member⟩

/-- An infinite penalty leaves no number of an infinite score, which is not at most the score
without the penalty. -/
theorem endless_score_not_lowered :
    ¬ ∀ (policy : StrategyAllocationPolicy) (context : AllocationContext)
      (candidate : AllocationCandidate) (fewer : List AllocationActivePosition)
      (result : AllocationResult), fewer.Sublist context.openPositions →
      policy.allocate context [candidate] = .ok result → candidate ∈ result.selected →
      ∃ score other better, SelectedAlone policy candidate score result ∧
        policy.allocate (context.holding fewer) [candidate] = .ok other ∧
        SelectedAlone policy candidate better other ∧ score ≤ better := by
  intro holds
  have found : ((penalizingPolicy (.float 0 "inf")).allocate oneOpenContext
      [pricedCandidate (.infinite false)]).toOption.any
        (fun result => decide (0 < result.selected.length ∧
          result.outcomes.map (·.score) = [some .nan])) = true := by decide +kernel
  obtain ⟨result, allocated, shown⟩ := exists_ok_any found
  obtain ⟨selected, reported⟩ := of_decide_eq_true shown
  have member := mem_selected_of_length (by decide) allocated selected
  obtain ⟨score, other, better, alone, -, -, lowered⟩ :=
    holds _ oneOpenContext _ [] result (List.nil_sublist _) allocated member
  obtain rfl := Option.some.inj (List.singleton_inj.mp (alone.reported.symm.trans reported))
  exact Extended.not_nan_le lowered

end StrategyAllocationPolicy

end FxToushi.Strategies
