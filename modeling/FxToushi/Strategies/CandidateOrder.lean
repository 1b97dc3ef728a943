import FxToushi.Strategies.TieBreak

namespace FxToushi.Strategies

open Data Py

/-! # The order of the candidates

Each symbol is allocated on its own, and the strategy identifier that ends each
key tells its candidates apart.  So the candidates may come in any order, as far
as the sort has an order of the keys to go by.
-/

namespace StrategyAllocationPolicy

/-! ## What the sort goes by -/

theorem keyLess_of_decided {left right : List KeyPart} {identical : Nat → Bool}
    (known : decided left right = true) : keyLess identical left right = decide (left < right) := by
  induction left generalizing right identical with
  | nil =>
    cases right with
    | nil => rfl
    | cons second rights => rfl
  | cons first lefts ih =>
    cases right with
    | nil => rfl
    | cons second rights =>
      simp only [decided, Bool.and_eq_true, decide_eq_true_eq, Bool.or_eq_true] at known
      obtain ⟨⟨firstKnown, secondKnown⟩, later⟩ := known
      by_cases same : first = second
      · have rest := later.resolve_left (not_not_intro same)
        subst same
        have equal : partSame identical 0 first first = true := by simp [partSame, firstKnown]
        rw [keyLess, tupleLess, if_pos equal]
        refine (ih rest).trans (decide_eq_decide.mpr ?_)
        exact (List.cons_lt_cons_iff.trans (by simp)).symm
      · have differ : ¬ partSame identical 0 first second = true := by simp [partSame, same]
        rw [keyLess, tupleLess, if_neg differ, partLess]
        have order : first :: lefts < second :: rights ↔ first < second :=
          List.cons_lt_cons_iff.trans (or_iff_left fun equal => same equal.1)
        simp [firstKnown, secondKnown, order]

theorem decided_comm (left right : List KeyPart) : decided left right = decided right left := by
  induction left generalizing right with
  | nil => cases right <;> rfl
  | cons first lefts ih =>
    cases right with
    | nil => rfl
    | cons second rights =>
      rw [decided, decided, ih rights, Bool.and_comm (decide (first ≠ notNumber))]
      simp only [ne_comm]

section Keys

variable {policy : StrategyAllocationPolicy} {context : AllocationContext}

theorem getLast_sortKey {item : EvaluatedCandidate} {score : Extended} {keys : List KeyPart}
    (keyed : policy.tieBreakSortKey item score = .ok keys) :
    keys.getLast? = some (textKey item.candidate.strategyId) := by
  obtain ⟨parts, -, returned⟩ := bind_ok keyed
  dsimp only at returned
  split at returned
  · rw [← Except.ok.inj returned]
    rfl
  · rw [← Except.ok.inj returned]
    exact List.getLast?_concat

theorem textKey_inj {left right : String} (same : textKey left = textKey right) : left = right :=
  Sum.inr.inj (toLex.injective same)

theorem contender_some {candidate : AllocationCandidate} {contender : Contender}
    (found : policy.contender? context candidate = some contender) :
    contender.1.candidate = candidate ∧
      contender.2.getLast? = some (textKey candidate.strategyId) := by
  simp only [contender?, Option.bind_eq_some_iff] at found
  obtain ⟨item, evaluated, score, scored, keyed⟩ := found
  have own := (evaluateCandidate_accepted (ok_of_toOption evaluated)).1
  have mapped := ok_of_toOption keyed
  cases key : policy.tieBreakSortKey item score with
  | error error =>
    rw [key] at mapped
    cases mapped
  | ok keys =>
    rw [key] at mapped
    obtain rfl := Except.ok.inj mapped
    exact ⟨own, own ▸ getLast_sortKey key⟩

theorem contender_eq_of_key {candidates : List AllocationCandidate} {left right : Contender}
    (distinct : (candidates.map (·.strategyId)).Nodup)
    (leftMember : left ∈ candidates.filterMap (policy.contender? context))
    (rightMember : right ∈ candidates.filterMap (policy.contender? context))
    (same : left.2 = right.2) : left = right := by
  obtain ⟨first, firstMember, leftFound⟩ := List.mem_filterMap.mp leftMember
  obtain ⟨second, secondMember, rightFound⟩ := List.mem_filterMap.mp rightMember
  have leftLast := (contender_some leftFound).2
  have rightLast := (contender_some rightFound).2
  rw [same, rightLast] at leftLast
  have ids := textKey_inj (Option.some.inj leftLast)
  have one := List.inj_on_of_nodup_map distinct secondMember firstMember ids
  rw [one] at rightFound
  exact Option.some.inj (leftFound.symm.trans rightFound)

theorem sorted_sortContenders (contenders : List Contender) :
    (sortContenders contenders).Pairwise (fun left right => left.2 ≤ right.2) := by
  have total : Std.Total (fun left right : Contender => left.2 ≤ right.2) :=
    ⟨fun left right => le_total left.2 right.2⟩
  have transitive : IsTrans Contender (fun left right => left.2 ≤ right.2) :=
    ⟨fun _ _ _ => le_trans⟩
  exact List.pairwise_insertionSort _ contenders

theorem sortContenders_eq_of_perm {candidates : List AllocationCandidate}
    {others : List Contender} (distinct : (candidates.map (·.strategyId)).Nodup)
    (perm : others.Perm (candidates.filterMap (policy.contender? context))) :
    sortContenders others = sortContenders (candidates.filterMap (policy.contender? context)) := by
  have rearranged := ((perm_sortContenders others).trans perm).trans (perm_sortContenders _).symm
  refine List.Perm.eq_of_pairwise (fun left right leftMember rightMember below above => ?_)
    (sorted_sortContenders _) (sorted_sortContenders _) rearranged
  have leftContends := (perm_sortContenders _).mem_iff.mp (rearranged.mem_iff.mp leftMember)
  have rightContends := (perm_sortContenders _).mem_iff.mp rightMember
  exact contender_eq_of_key distinct leftContends rightContends (le_antisymm below above)

end Keys

/-! ## One symbol -/

section Symbol

variable {policy : StrategyAllocationPolicy} {context : AllocationContext}

/-- Two results with the same selection, whose outcomes are the same in some order. -/
structure SameAllocation (left right : AllocationResult) : Prop where
  selected : left.selected = right.selected
  outcomes : left.outcomes.Perm right.outcomes

theorem allocateSymbol_perm {candidates reordered : List AllocationCandidate}
    {result : AllocationResult} (perm : reordered.Perm candidates)
    (distinct : (candidates.map (·.strategyId)).Nodup)
    (comparable : (candidates.filterMap (policy.contender? context)).Pairwise
      (fun first second => decided first.2 second.2 = true))
    (allocated : policy.allocateSymbol context candidates = .ok result) :
    ∃ other, policy.allocateSymbol context reordered = .ok other ∧
      SameAllocation other result := by
  obtain ⟨evaluated, judged, allocated⟩ := bind_ok allocated
  obtain ⟨contenders, keyed, allocated⟩ := bind_ok allocated
  obtain rfl := Except.ok.inj allocated
  obtain ⟨otherEvaluated, otherJudged, evaluatedPerm⟩ := tryMap_perm perm judged
  obtain ⟨otherContenders, otherKeyed, contendersPerm⟩ :=
    tryMap_perm (evaluatedPerm.filterMap fun item => (acceptedScore item).map (item, ·)) keyed
  obtain rfl := contenders_eq judged keyed
  have symmetric : ∀ {first second : Contender}, decided first.2 second.2 = true →
      decided second.2 first.2 = true := fun known => (decided_comm _ _).trans known
  have otherComparable := (contendersPerm.pairwise_iff symmetric).mpr comparable
  have sameSort : policy.sorter.sort otherContenders =
      policy.sorter.sort (candidates.filterMap (policy.contender? context)) := by
    rw [policy.sorter.byKey _ comparable, policy.sorter.byKey _ otherComparable,
      sortContenders_eq_of_perm distinct contendersPerm]
  refine ⟨_, bind_ok_iff.mpr ⟨otherEvaluated, otherJudged, bind_ok_iff.mpr
    ⟨otherContenders, otherKeyed, rfl⟩⟩, ?_⟩
  constructor
  · dsimp only
    rw [sameSort, contendersPerm.length_eq]
  · dsimp only
    rw [sameSort, contendersPerm.length_eq]
    refine List.Perm.append_left _ (List.Perm.map _ ?_)
    have empty : otherContenders = [] ↔ candidates.filterMap (policy.contender? context) = [] := by
      rw [← List.length_eq_zero_iff, contendersPerm.length_eq, List.length_eq_zero_iff]
    simp only [empty]
    split
    · exact evaluatedPerm
    · exact evaluatedPerm.filter _

/-! ## The whole batch -/

variable {candidates reordered : List AllocationCandidate} {result : AllocationResult}

theorem signalSymbols_perm (perm : reordered.Perm candidates) :
    signalSymbols reordered = signalSymbols candidates := by
  have dedup := (perm.map fun candidate => signalSymbol candidate.signal).dedup
  have rearranged := ((List.perm_insertionSort (· ≤ ·) _).trans dedup).trans
    (List.perm_insertionSort (· ≤ ·) _).symm
  exact rearranged.eq_of_pairwise' (List.pairwise_insertionSort (· ≤ ·) _)
    (List.pairwise_insertionSort (· ≤ ·) _)

theorem distinct_candidatesOf
    (distinct : candidates.Pairwise fun left right =>
      signalSymbol left.signal = signalSymbol right.signal → left.strategyId ≠ right.strategyId)
    (symbol : String) : ((candidatesOf candidates symbol).map (·.strategyId)).Nodup := by
  rw [List.Nodup, List.pairwise_map]
  refine ((distinct.filter _).imp_of_mem ?_)
  intro left right leftMember rightMember apart
  have leftSymbol := (List.mem_filter.mp leftMember).2
  have rightSymbol := (List.mem_filter.mp rightMember).2
  exact apart ((beq_iff_eq.mp leftSymbol).trans (beq_iff_eq.mp rightSymbol).symm)

theorem allocateSymbols_perm {symbols : List String} {results : List AllocationResult}
    (each : ∀ symbol ∈ symbols, ∀ result,
      policy.allocateSymbol context (candidatesOf candidates symbol) = .ok result →
      ∃ other, policy.allocateSymbol context (candidatesOf reordered symbol) = .ok other ∧
        SameAllocation other result)
    (mapped : tryMap
      (fun symbol => policy.allocateSymbol context (candidatesOf candidates symbol))
      symbols = .ok results) :
    ∃ others, tryMap
        (fun symbol => policy.allocateSymbol context (candidatesOf reordered symbol))
        symbols = .ok others ∧
      others.flatMap (·.selected) = results.flatMap (·.selected) ∧
      (others.flatMap (·.outcomes)).Perm (results.flatMap (·.outcomes)) := by
  induction symbols generalizing results with
  | nil =>
    obtain rfl := Except.ok.inj mapped
    exact ⟨[], rfl, rfl, List.Perm.refl _⟩
  | cons symbol rest ih =>
    obtain ⟨first, later, allocated, mappedRest, rfl⟩ := tryMap_cons_ok mapped
    obtain ⟨head, tail⟩ := List.forall_mem_cons.mp each
    obtain ⟨other, otherAllocated, same⟩ := head first allocated
    obtain ⟨others, otherMapped, selected, outcomes⟩ := ih tail mappedRest
    refine ⟨other :: others, by rw [tryMap, otherAllocated, otherMapped]; rfl, ?_, ?_⟩
    · rw [List.flatMap_cons, List.flatMap_cons, same.selected, selected]
    · rw [List.flatMap_cons, List.flatMap_cons]
      exact same.outcomes.append outcomes

/-- A batch in another order is allocated alike, where the candidates of a symbol have
distinct identifiers and keys that can be compared.  Passed through, the candidates and
their outcomes come in the order they are given. -/
theorem allocate_perm (perm : reordered.Perm candidates)
    (distinct : candidates.Pairwise fun left right =>
      signalSymbol left.signal = signalSymbol right.signal → left.strategyId ≠ right.strategyId)
    (comparable : policy.isPassThrough = false → ∀ symbol ∈ signalSymbols candidates,
      (policy.contendersOf context candidates symbol).Pairwise
        fun first second => decided first.2 second.2 = true)
    (allocated : policy.allocate context candidates = .ok result) :
    ∃ other, policy.allocate context reordered = .ok other ∧
      other.outcomes.Perm result.outcomes ∧ other.selected.Perm result.selected ∧
      (policy.isPassThrough = false → other.selected = result.selected) ∧
      (policy.isPassThrough = true → result.selected = candidates ∧
        result.outcomes = candidates.map passThroughOutcome ∧ other.selected = reordered ∧
        other.outcomes = reordered.map passThroughOutcome) := by
  cases passing : policy.isPassThrough with
  | true =>
    rw [allocate, if_pos passing, requireFloats_bind_iff] at allocated
    obtain ⟨fit, returned⟩ := allocated
    obtain rfl := Except.ok.inj returned
    have otherFit : FloatsFit (reordered.flatMap passThroughReads) := fun value member =>
      fit value ((perm.flatMap_right passThroughReads).mem_iff.mp member)
    refine ⟨⟨reordered, reordered.map passThroughOutcome⟩, ?_, perm.map _, perm, by simp,
      fun _ => ⟨rfl, rfl, rfl, rfl⟩⟩
    rw [allocate, if_pos passing, requireFloats_bind_iff]
    exact ⟨otherFit, rfl⟩
  | false =>
    have judging : ¬ policy.isPassThrough = true := by simp [passing]
    rw [allocate, if_neg judging] at allocated
    obtain ⟨results, mapped, returned⟩ := bind_ok allocated
    obtain rfl := Except.ok.inj returned
    have each : ∀ symbol ∈ signalSymbols candidates, ∀ result,
        policy.allocateSymbol context (candidatesOf candidates symbol) = .ok result →
        ∃ other, policy.allocateSymbol context (candidatesOf reordered symbol) = .ok other ∧
          SameAllocation other result := fun symbol member result allocatedSymbol =>
      allocateSymbol_perm (perm.filter _) (distinct_candidatesOf distinct symbol)
        (comparable passing symbol member) allocatedSymbol
    obtain ⟨others, otherMapped, selected, outcomes⟩ := allocateSymbols_perm each mapped
    rw [← signalSymbols_perm perm] at otherMapped
    refine ⟨⟨others.flatMap (·.selected), others.flatMap (·.outcomes)⟩, ?_, outcomes,
      List.Perm.of_eq selected, fun _ => selected, by simp⟩
    rw [allocate, if_neg judging]
    exact bind_ok_iff.mpr ⟨others, otherMapped, rfl⟩

/-! ## Candidates in two orders -/

def edgeCandidate (objectId : Nat) (strategyId : String) (edge : Extended) : AllocationCandidate :=
  { plainCandidate objectId "USDJPY" with
    strategyId
    trade := some
      { candidateId := strategyId, symbol := "USDJPY", side := "long", expectedEdge := some edge } }

def pairOf (first second : Extended) : List AllocationCandidate :=
  [edgeCandidate 0 "m1" first, edgeCandidate 1 "m2" second]

/-- A pair for one symbol and a candidate for another. -/
def trioOf (first second : Extended) : List AllocationCandidate :=
  plainCandidate 2 "EURUSD" :: pairOf first second

theorem allocate_perm_trio : ∃ result other,
    oneMajorPolicy.allocate quietContext (trioOf 0 1) = .ok result ∧
    oneMajorPolicy.allocate quietContext (trioOf 0 1).reverse = .ok other ∧
    result.selected.map (·.objectId) = [2, 1] ∧ other.selected = result.selected ∧
    other.outcomes.Perm result.outcomes := by
  obtain ⟨result, allocated⟩ :=
    exists_ok (oneMajorPolicy.allocate quietContext (trioOf 0 1)) (by decide +kernel)
  obtain ⟨other, otherAllocated, outcomes, -, selected, -⟩ := allocate_perm
    (List.reverse_perm (trioOf 0 1)) (by decide +kernel) (fun _ => by decide +kernel) allocated
  have chosen : (oneMajorPolicy.allocate quietContext (trioOf 0 1)).map
      (fun result => result.selected.map (·.objectId)) = .ok [2, 1] := by decide +kernel
  rw [allocated] at chosen
  exact ⟨result, other, allocated, otherAllocated, Except.ok.inj chosen, selected (by decide),
    outcomes⟩

/-- The allocation of a policy tells nothing of the order of the candidates. -/
def OrderFree (policy : StrategyAllocationPolicy) : Prop :=
  ∀ context candidates reordered result, reordered.Perm candidates →
    (candidates.Pairwise fun left right =>
      signalSymbol left.signal = signalSymbol right.signal → left.strategyId ≠ right.strategyId) →
    (∀ candidate ∈ candidates, ∀ char ∈ candidate.strategyId.toList, char.toNat ≤ 255) →
    policy.allocate context candidates = .ok result →
    ∃ other, policy.allocate context reordered = .ok other ∧ SameAllocation other result

def passThroughPolicy : StrategyAllocationPolicy := { oneMajorPolicy with mode := "pass_through" }

/-- Leaves contenders that cannot be compared as they are. -/
def leaveUndecided (contenders : List Contender) : List Contender :=
  if contenders.Pairwise (fun first second => decided first.2 second.2 = true) then
    sortContenders contenders
  else contenders

def Sorter.leaving : Sorter where
  sort := leaveUndecided
  perm contenders := by
    unfold leaveUndecided
    split
    · exact perm_sortContenders contenders
    · exact List.Perm.refl contenders
  byKey _ known := if_pos known

theorem not_orderFree_of_selected {policy : StrategyAllocationPolicy}
    (candidates : List AllocationCandidate) (chosen otherChosen : List String)
    (distinct : candidates.Pairwise fun left right =>
      signalSymbol left.signal = signalSymbol right.signal → left.strategyId ≠ right.strategyId)
    (latin : candidates.all (fun candidate =>
      candidate.strategyId.toList.all (fun char => char.toNat ≤ 255)) = true)
    (first : (policy.allocate quietContext candidates).map
      (fun result => result.selected.map (·.strategyId)) = .ok chosen)
    (second : (policy.allocate quietContext candidates.reverse).map
      (fun result => result.selected.map (·.strategyId)) = .ok otherChosen)
    (differ : chosen ≠ otherChosen) : ¬ policy.OrderFree := by
  intro free
  simp only [List.all_eq_true, decide_eq_true_eq] at latin
  cases allocated : policy.allocate quietContext candidates with
  | error error =>
    rw [allocated] at first
    cases first
  | ok result =>
    obtain ⟨other, otherAllocated, same⟩ :=
      free quietContext candidates candidates.reverse result (List.reverse_perm candidates)
        distinct latin allocated
    rw [allocated] at first
    rw [otherAllocated] at second
    have ids := congrArg (List.map (·.strategyId)) same.selected
    exact differ ((Except.ok.inj first).symm.trans (ids.symm.trans (Except.ok.inj second)))

/-- Passed through, two candidates come as they are given, and `sorted` may leave them as
they are given where a score is not a number. -/
theorem order_shows : ¬ passThroughPolicy.OrderFree ∧
    ¬ { oneMajorPolicy with sorter := Sorter.leaving }.OrderFree := by
  constructor
  · exact not_orderFree_of_selected (pairOf 0 1) ["m1", "m2"] ["m2", "m1"] (by decide +kernel)
      (by decide +kernel) (by decide +kernel) (by decide +kernel) (by decide)
  · exact not_orderFree_of_selected (pairOf .nan 1) ["m1"] ["m2"] (by decide +kernel)
      (by decide +kernel) (by decide +kernel) (by decide +kernel) (by decide)

end Symbol

end StrategyAllocationPolicy

end FxToushi.Strategies
