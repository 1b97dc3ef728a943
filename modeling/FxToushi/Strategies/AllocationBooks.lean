import FxToushi.Data.Batches
import FxToushi.Strategies.AllocationAdmission
import Mathlib.Data.List.Dedup

namespace FxToushi.Strategies

open Data Py

/-! # The books of an allocation

Accepting, sorting, cutting off and reporting are passes of their own over the
candidates of a symbol.  Put together they keep books: each candidate has one
outcome, marked exactly when it is selected, and what is selected passed every
check and is within the limit of its symbol.
-/

namespace StrategyAllocationPolicy

section Books

variable (policy : StrategyAllocationPolicy) (context : AllocationContext)
  (candidate : AllocationCandidate)

/-- The score reaches both minimums. -/
def ScoreMet : Prop := ∃ score overall own,
  policy.computeScore candidate context (policy.ownCfg candidate) = .ok score ∧
  scoreField policy.globalConfig "min_score" = .ok overall ∧
  scoreField (policy.ownCfg candidate) "min_score" = .ok own ∧
  coerceFloat overall 0 ≤ score ∧ coerceFloat own 0 ≤ score

/-- What a selected candidate must pass. -/
structure Passes : Prop where
  configured : policy.Configured candidate
  enabled : policy.Enabled candidate
  hardFilters : policy.PassesHardFilters context candidate
  spread : 0 ≤ policy.spreadMax candidate →
    (extractCostEstimate candidate.parameters).1 ≤ policy.spreadMax candidate
  noConflict : policy.resolveActivePositionConflict candidate context (policy.ownCfg candidate) =
    .ok none
  score : policy.ScoreMet context candidate

/-- What is compared is a number, the spread only where there is a maximum. -/
structure Comparable : Prop where
  spread : 0 ≤ policy.spreadMax candidate →
    (extractCostEstimate candidate.parameters).1.isNan = false
  score : ∀ score, policy.computeScore candidate context (policy.ownCfg candidate) = .ok score →
    score.isNan = false
  overall : ∀ value, scoreField policy.globalConfig "min_score" = .ok value →
    (coerceFloat value 0).isNan = false
  own : ∀ value, scoreField (policy.ownCfg candidate) "min_score" = .ok value →
    (coerceFloat value 0).isNan = false

/-- The rule that turns the characters of an identifier around knows Latin-1 only. -/
def Sortable : Prop :=
  (∃ rule ∈ policy.tieBreakRules, normalizeText rule = "strategy_id_desc") →
    ∀ char ∈ candidate.strategyId.toList, char.toNat ≤ 255

def LimitUsable : Prop :=
  policy.selectionMode = "select_many" → ∀ bound, policy.maxSelectedPerSymbol = some bound →
    0 < bound

def symbolLimit : Option Int :=
  if policy.selectionMode = "select_many" then policy.maxSelectedPerSymbol else some 1

end Books

def tells (outcome : AllocationOutcome) (candidate : AllocationCandidate) : Prop :=
  outcome.strategyId = candidate.strategyId ∧ outcome.symbol = candidateSymbol candidate

/-- The books, where the candidates that are `good` may be selected. -/
structure Bookkeeping (policy : StrategyAllocationPolicy) (good : AllocationCandidate → Prop)
    (candidates : List AllocationCandidate) (result : AllocationResult) : Prop where
  ledger : Ledger tells AllocationOutcome.selected candidates result.outcomes result.selected
  once : (result.selected.map (·.objectId)).Nodup
  passes : ∀ chosen ∈ result.selected, good chosen
  limited : ∀ chosen ∈ result.selected, ∀ bound, policy.symbolLimit = some bound →
    ((result.selected.countP
      (fun other => decide (signalSymbol other.signal = signalSymbol chosen.signal)) : Nat) : Int)
        ≤ bound
  served : ∀ candidate ∈ candidates, good candidate →
    ∃ chosen ∈ result.selected, signalSymbol chosen.signal = signalSymbol candidate.signal

variable {policy : StrategyAllocationPolicy} {context : AllocationContext}
  {candidate : AllocationCandidate}

/-! ## Passing and clearing -/

theorem Passes.comparable (passes : policy.Passes context candidate) :
    policy.Comparable context candidate := by
  obtain ⟨score, overall, own, scored, readGlobal, readOwn, least, ownLeast⟩ := passes.score
  refine ⟨fun capped => (Extended.isNan_of_le (passes.spread capped)).1, ?_, ?_, ?_⟩
  · intro other computed
    obtain rfl := Except.ok.inj (scored.symm.trans computed)
    exact (Extended.isNan_of_le least).2
  · intro value read
    obtain rfl := Except.ok.inj (readGlobal.symm.trans read)
    exact (Extended.isNan_of_le least).1
  · intro value read
    obtain rfl := Except.ok.inj (readOwn.symm.trans read)
    exact (Extended.isNan_of_le ownLeast).1

theorem scoreMet_iff {bound : Extended} (comparable : policy.Comparable context candidate)
    (bounded : policy.minScore (policy.ownCfg candidate) = .ok bound) :
    policy.ScoreMet context candidate ↔ policy.ScoreKept context candidate := by
  obtain ⟨overall, readGlobal, stepped⟩ := bind_ok bounded
  obtain ⟨-, stepped⟩ := requireFloats_bind_iff.mp stepped
  obtain ⟨own, readOwn, stepped⟩ := bind_ok stepped
  obtain ⟨-, returned⟩ := requireFloats_bind_iff.mp stepped
  obtain rfl := Except.ok.inj returned
  have least := fun score scored => @Extended.not_lt_greater_iff score _ _
    (comparable.score score scored) (comparable.overall overall readGlobal)
    (comparable.own own readOwn)
  constructor
  · rintro ⟨score, other, otherOwn, scored, readOther, readOtherOwn, met⟩
    obtain rfl := Except.ok.inj (readGlobal.symm.trans readOther)
    obtain rfl := Except.ok.inj (readOwn.symm.trans readOtherOwn)
    exact ⟨score, _, scored, bounded, (least score scored).mpr met⟩
  · rintro ⟨score, other, scored, boundedOther, kept⟩
    obtain rfl := Except.ok.inj (bounded.symm.trans boundedOther)
    exact ⟨score, overall, own, scored, readGlobal, readOwn, (least score scored).mp kept⟩

/-- What passes is accepted, and what is accepted passes unless it is not a number. -/
theorem passes_iff (evaluable : policy.Evaluable context candidate) :
    policy.Passes context candidate ↔
      policy.Clears context candidate ∧ policy.Comparable context candidate := by
  constructor
  · intro passes
    obtain ⟨-, -, judged⟩ := evaluable passes.configured
    obtain ⟨-, -, filtered⟩ := judged passes.enabled
    obtain ⟨conflict, resolved, scorable⟩ := filtered passes.hardFilters
    have reads := scorable (Except.ok.inj (resolved.symm.trans passes.noConflict))
    obtain ⟨bound, bounded⟩ := minScore_ok_iff.mpr ⟨reads.overall, reads.own, reads.minimums⟩
    exact ⟨⟨passes.configured, passes.enabled, passes.hardFilters, passes.noConflict,
      (scoreMet_iff passes.comparable bounded).mp passes.score⟩, passes.comparable⟩
  · rintro ⟨clears, comparable⟩
    obtain ⟨-, bound, -, bounded, -⟩ := clears.score
    refine ⟨clears.configured, clears.enabled, clears.hardFilters, fun capped => ?_,
      clears.noConflict, (scoreMet_iff comparable bounded).mpr clears.score⟩
    exact (Extended.not_lt_iff (Extended.isNan_of_nonneg capped) (comparable.spread capped)).mp
      (clears.hardFilters.spread capped)

/-! ## Sort keys -/

theorem reversedId_ok_iff {strategyId : String} :
    (∃ text, reversedId strategyId = .ok text) ↔
      ∀ char ∈ strategyId.toList, char.toNat ≤ 255 := by
  unfold reversedId
  by_cases latin : strategyId.toList.all (fun char => decide (char.toNat ≤ 255)) = true
  · rw [if_pos latin]
    simpa using latin
  · rw [if_neg latin]
    simpa using latin

theorem ruleKey_ok_iff {item : EvaluatedCandidate} {score : Extended} {token : String} :
    (∃ keys, ruleKey item score token = .ok keys) ↔
      (token = "strategy_id_desc" →
        ∀ char ∈ item.candidate.strategyId.toList, char.toNat ≤ 255) := by
  by_cases backwards : token = "strategy_id_desc"
  · subst backwards
    rw [← reversedId_ok_iff]
    simp only [ruleKey, String.reduceEq, if_false, if_true, forall_const]
    cases reversedId item.candidate.strategyId with
    | error problem => simp [Except.map]
    | ok text => simp [Except.map]
  · refine iff_of_true ?_ (fun same => absurd same backwards)
    unfold ruleKey
    simp only [backwards, if_false]
    repeat' split
    all_goals exact ⟨_, rfl⟩

theorem tieBreakSortKey_ok_iff {item : EvaluatedCandidate} {score : Extended} :
    (∃ keys, policy.tieBreakSortKey item score = .ok keys) ↔ policy.Sortable item.candidate := by
  have rules : (∃ parts, tryMap (fun rule => ruleKey item score (normalizeText rule))
      policy.tieBreakRules = .ok parts) ↔ policy.Sortable item.candidate := by
    rw [tryMap_ok_iff]
    simp only [ruleKey_ok_iff, Sortable]
    exact ⟨fun every ⟨rule, member, backwards⟩ => every rule member backwards,
      fun sortable rule member backwards => sortable ⟨rule, member, backwards⟩⟩
  rw [← rules]
  constructor
  · rintro ⟨keys, keyed⟩
    obtain ⟨parts, mapped, -⟩ := bind_ok keyed
    exact ⟨parts, mapped⟩
  · rintro ⟨parts, mapped⟩
    simp only [tieBreakSortKey, mapped, bind, Except.bind, pure, Except.pure]
    split
    · exact ⟨_, rfl⟩
    · exact ⟨_, rfl⟩

/-! ## One symbol -/

section Batch

variable {candidates : List AllocationCandidate} {result : AllocationResult}

theorem acceptedScore_of_accepted {judged : EvaluatedCandidate} {score : Extended}
    (accepted : judged.accepted = true) (scored : judged.score = some score) :
    acceptedScore judged = some score := by
  rw [acceptedScore, if_pos accepted, scored]

/-- A symbol is worked through when each candidate can be evaluated, and those
that clear can be sorted. -/
theorem allocateSymbol_ok_iff :
    (∃ result, policy.allocateSymbol context candidates = .ok result) ↔
      ∀ candidate ∈ candidates, policy.Evaluable context candidate ∧
        (policy.Clears context candidate → policy.Sortable candidate) := by
  constructor
  · rintro ⟨result, allocated⟩ candidate member
    obtain ⟨evaluated, judged, allocated⟩ := bind_ok allocated
    obtain ⟨contenders, keyed, -⟩ := bind_ok allocated
    obtain ⟨item, returned⟩ := tryMap_ok_iff.mp ⟨evaluated, judged⟩ candidate member
    refine ⟨evaluateCandidate_ok_iff.mp ⟨item, returned⟩, fun clears => ?_⟩
    have told := evaluateCandidate_told returned
    obtain ⟨score, scored⟩ := told.scored (told.accepted.mpr clears)
    have inRun : (item, score) ∈ evaluated.filterMap
        (fun item => (acceptedScore item).map (item, ·)) := by
      refine List.mem_filterMap.mpr
        ⟨item, (mem_of_tryMap judged).mpr ⟨candidate, member, returned⟩, ?_⟩
      rw [acceptedScore_of_accepted (told.accepted.mpr clears) scored]
      rfl
    obtain ⟨contender, placed⟩ := tryMap_ok_iff.mp ⟨contenders, keyed⟩ _ inRun
    obtain ⟨keys, sorted, -⟩ := bind_ok placed
    rw [← told.sameCandidate]
    exact tieBreakSortKey_ok_iff.mp ⟨keys, sorted⟩
  · intro every
    obtain ⟨evaluated, judged⟩ := tryMap_ok_iff.mpr fun candidate member =>
      evaluateCandidate_ok_iff.mpr (every candidate member).1
    have sortable : ∀ entry ∈ evaluated.filterMap (fun item => (acceptedScore item).map (item, ·)),
        ∃ contender : Contender,
          (do return (entry.1, ← policy.tieBreakSortKey entry.1 entry.2) :
            Except PyError Contender) = .ok contender := by
      intro entry member
      obtain ⟨item, inRun, paired⟩ := List.mem_filterMap.mp member
      obtain ⟨score, accepted, rfl⟩ := Option.map_eq_some_iff.mp paired
      obtain ⟨candidate, present, returned⟩ := (mem_of_tryMap judged).mp inRun
      have told := evaluateCandidate_told returned
      have isAccepted : item.accepted = true := by
        unfold acceptedScore at accepted
        split at accepted
        · assumption
        · cases accepted
      have sorts := (every candidate present).2 (told.accepted.mp isAccepted)
      rw [← told.sameCandidate] at sorts
      obtain ⟨keys, keyed⟩ := tieBreakSortKey_ok_iff.mpr sorts
      exact ⟨(item, keys), bind_ok_iff.mpr ⟨keys, keyed, rfl⟩⟩
    obtain ⟨contenders, keyed⟩ := tryMap_ok_iff.mpr sortable
    exact ⟨_, bind_ok_iff.mpr ⟨evaluated, judged, bind_ok_iff.mpr ⟨contenders, keyed, rfl⟩⟩⟩

theorem map_fst_accepted {evaluated : List EvaluatedCandidate}
    (scored : ∀ item ∈ evaluated, item.accepted = true → ∃ score, item.score = some score) :
    (evaluated.filterMap (fun item => (acceptedScore item).map (item, ·))).map Prod.fst =
      evaluated.filter (fun item => item.accepted) := by
  induction evaluated with
  | nil => rfl
  | cons item rest ih =>
    obtain ⟨first, later⟩ := List.forall_mem_cons.mp scored
    cases accepted : item.accepted with
    | false =>
      have unscored : acceptedScore item = none := by simp [acceptedScore, accepted]
      rw [List.filterMap_cons_none (by rw [unscored]; rfl), ih later,
        List.filter_cons_of_neg (by simp [accepted])]
    | true =>
      obtain ⟨score, found⟩ := first accepted
      have present := acceptedScore_of_accepted accepted found
      rw [List.filterMap_cons_some (by rw [present]; rfl), List.map_cons, ih later,
        List.filter_cons_of_pos accepted]

section Contenders

variable {evaluated : List EvaluatedCandidate} {contenders : List Contender}
  (scored : ∀ item ∈ evaluated, item.accepted = true → ∃ score, item.score = some score)
  (keyed : tryMap
    (fun entry : EvaluatedCandidate × Extended => do
      return (entry.1, ← policy.tieBreakSortKey entry.1 entry.2))
    (evaluated.filterMap (fun item => (acceptedScore item).map (item, ·))) = .ok contenders)

include scored keyed

theorem map_fst_contenders :
    contenders.map Prod.fst = evaluated.filter (fun item => item.accepted) := by
  rw [← map_fst_accepted scored]
  refine map_of_tryMap (fun entry contender placed => ?_) keyed
  obtain ⟨keys, -, returned⟩ := bind_ok placed
  obtain rfl := Except.ok.inj returned
  rfl

theorem sorted_perm : ((policy.sorter.sort contenders).map Prod.fst).Perm
    (evaluated.filter (fun item => item.accepted)) := by
  rw [← map_fst_contenders scored keyed]
  exact (policy.sorter.perm _).map _

theorem rejected_eq :
    (if contenders = [] then evaluated else evaluated.filter (fun item => !item.accepted)) =
      evaluated.filter (fun item => !item.accepted) := by
  split
  · rename_i none
    have accepted := map_fst_contenders scored keyed
    rw [none, List.map_nil] at accepted
    refine (List.filter_eq_self.mpr fun item member => ?_).symm
    simpa using List.filter_eq_nil_iff.mp accepted.symm item member
  · rfl

end Contenders

theorem contenderOutcome_selected (kept : List EvaluatedCandidate) (item : EvaluatedCandidate) :
    (policy.contenderOutcome kept item).selected = true ↔
      item.candidate.objectId ∈ kept.map (·.candidate.objectId) := by
  unfold contenderOutcome
  split
  · rename_i found
    exact iff_of_true rfl (by simpa using found)
  · rename_i missed
    exact iff_of_false (by simp [buildOutcome]) (by simpa using missed)

/-- The books of one symbol: what is kept are the first of those that cleared, as
many as the quota. -/
structure BatchBooks (policy : StrategyAllocationPolicy) (context : AllocationContext)
    (candidates : List AllocationCandidate) (result : AllocationResult) : Prop where
  ledger : Ledger tells AllocationOutcome.selected candidates result.outcomes result.selected
  once : (result.selected.map (·.objectId)).Nodup
  clears : ∀ chosen ∈ result.selected, policy.Clears context chosen
  quota : ∃ count, result.selected.length = min (policy.keepCount count) count ∧
    ((∃ candidate ∈ candidates, policy.Clears context candidate) → 0 < count)

section Reports

variable {judge : AllocationCandidate → EvaluatedCandidate} {item : EvaluatedCandidate}
  {sorted kept : List EvaluatedCandidate}

/-- What became of one evaluated candidate. -/
def reportOf (policy : StrategyAllocationPolicy) (kept : List EvaluatedCandidate)
    (item : EvaluatedCandidate) : AllocationOutcome :=
  if item.accepted then policy.contenderOutcome kept item
  else buildOutcome item false none none none

theorem symbol_of_told (told : Told policy context candidate item) :
    item.symbol = candidateSymbol item.candidate := by
  rw [told.sameSymbol, told.sameCandidate]

theorem tells_buildOutcome {selected : Bool} {reason blocker replaced : Option String}
    (symbol : item.symbol = candidateSymbol item.candidate) :
    tells (buildOutcome item selected reason blocker replaced) item.candidate :=
  ⟨rfl, symbol⟩

theorem tells_contenderOutcome (symbol : item.symbol = candidateSymbol item.candidate) :
    tells (policy.contenderOutcome kept item) item.candidate := by
  unfold contenderOutcome
  split
  · exact tells_buildOutcome symbol
  · exact tells_buildOutcome symbol

theorem tells_reportOf (told : Told policy context candidate item) :
    tells (policy.reportOf kept item) candidate := by
  rw [← told.sameCandidate]
  unfold reportOf
  split
  · exact tells_contenderOutcome (symbol_of_told told)
  · exact tells_buildOutcome (symbol_of_told told)

theorem scored_of_judged
    (told : ∀ candidate ∈ candidates, Told policy context candidate (judge candidate)) :
    ∀ item ∈ candidates.map judge, item.accepted = true → ∃ score, item.score = some score := by
  intro item member accepted
  obtain ⟨candidate, present, rfl⟩ := List.mem_map.mp member
  exact (told candidate present).scored accepted

theorem candidates_of_judged
    (told : ∀ candidate ∈ candidates, Told policy context candidate (judge candidate)) :
    (candidates.map judge).map (·.candidate) = candidates := by
  rw [List.map_map]
  exact (List.map_congr_left fun candidate member =>
    (told candidate member).sameCandidate).trans (List.map_id candidates)

theorem judged_eq_of_objectId (distinct : (candidates.map (·.objectId)).Nodup)
    (told : ∀ candidate ∈ candidates, Told policy context candidate (judge candidate))
    {left right : EvaluatedCandidate} (leftJudged : left ∈ candidates.map judge)
    (rightJudged : right ∈ candidates.map judge)
    (same : left.candidate.objectId = right.candidate.objectId) : left = right := by
  obtain ⟨first, firstMember, rfl⟩ := List.mem_map.mp leftJudged
  obtain ⟨second, secondMember, rfl⟩ := List.mem_map.mp rightJudged
  rw [(told first firstMember).sameCandidate, (told second secondMember).sameCandidate] at same
  rw [List.inj_on_of_nodup_map distinct firstMember secondMember same]

/-- The outcomes of the sorted candidates and of the rejected ones make a ledger. -/
theorem ledger_of_sorted (distinct : (candidates.map (·.objectId)).Nodup)
    (told : ∀ candidate ∈ candidates, Told policy context candidate (judge candidate))
    (accepted : sorted.Perm ((candidates.map judge).filter (fun item => item.accepted)))
    (chosen : ∀ item ∈ kept, item ∈ sorted) :
    Ledger tells AllocationOutcome.selected candidates
      (sorted.map (policy.contenderOutcome kept) ++
        ((candidates.map judge).filter (fun item => !item.accepted)).map
          (buildOutcome · false none none none))
      (kept.map (·.candidate)) := by
  have all := (accepted.append_right _).trans
    (List.filter_append_perm (fun item => item.accepted) (candidates.map judge))
  have keptJudged : ∀ item ∈ kept, item ∈ candidates.map judge ∧ item.accepted = true := by
    intro item member
    exact List.mem_filter.mp (accepted.mem_iff.mp (chosen item member))
  have reports : sorted.map (policy.contenderOutcome kept) ++
      ((candidates.map judge).filter (fun item => !item.accepted)).map
        (buildOutcome · false none none none) =
      (sorted ++ (candidates.map judge).filter (fun item => !item.accepted)).map
        (policy.reportOf kept) := by
    rw [List.map_append]
    congr 1
    · refine List.map_congr_left fun item member => ?_
      rw [reportOf, if_pos (List.mem_filter.mp (accepted.mem_iff.mp member)).2]
    · refine List.map_congr_left fun item member => ?_
      rw [reportOf, if_neg (by simpa using (List.mem_filter.mp member).2)]
  rw [reports]
  constructor
  · refine ⟨(sorted ++ (candidates.map judge).filter (fun item => !item.accepted)).map
      (fun item => (item.candidate, policy.reportOf kept item)), ?_, by rw [List.map_map]; rfl, ?_⟩
    · rw [List.map_map]
      have whole := all.map (·.candidate)
      rw [candidates_of_judged told] at whole
      exact whole
    · intro entry member
      obtain ⟨item, present, rfl⟩ := List.mem_map.mp member
      have inRun := all.mem_iff.mp present
      obtain ⟨candidate, held, rfl⟩ := List.mem_map.mp inRun
      refine ⟨?_, ?_⟩
      · have own := told candidate held
        rw [own.sameCandidate]
        exact tells_reportOf own
      · constructor
        · intro marked
          cases isAccepted : (judge candidate).accepted with
          | false =>
            rw [reportOf, if_neg (by simp [isAccepted])] at marked
            cases marked
          | true =>
            rw [reportOf, if_pos isAccepted, contenderOutcome_selected] at marked
            obtain ⟨other, isKept, same⟩ := List.mem_map.mp marked
            rw [← judged_eq_of_objectId distinct told (keptJudged other isKept).1 inRun same]
            exact List.mem_map_of_mem isKept
        · intro isKept
          obtain ⟨other, otherKept, same⟩ := List.mem_map.mp isKept
          obtain ⟨otherJudged, otherAccepted⟩ := keptJudged other otherKept
          obtain rfl := judged_eq_of_objectId distinct told otherJudged inRun (by rw [same])
          rw [reportOf, if_pos otherAccepted, contenderOutcome_selected]
          exact List.mem_map_of_mem otherKept
  · intro candidate member
    obtain ⟨item, isKept, rfl⟩ := List.mem_map.mp member
    obtain ⟨own, held, rfl⟩ := List.mem_map.mp (keptJudged item isKept).1
    rw [(told own held).sameCandidate]
    exact held

end Reports

theorem allocateSymbol_books (distinct : (candidates.map (·.objectId)).Nodup)
    (allocated : policy.allocateSymbol context candidates = .ok result) :
    BatchBooks policy context candidates result := by
  obtain ⟨evaluated, judged, allocated⟩ := bind_ok allocated
  obtain ⟨contenders, keyed, allocated⟩ := bind_ok allocated
  obtain rfl := Except.ok.inj allocated
  obtain ⟨judge, rfl, judges⟩ :=
    image_of_tryMap (fun candidate => { candidate, symbol := "", reason := "" }) judged
  have told : ∀ candidate ∈ candidates, Told policy context candidate (judge candidate) :=
    fun candidate member => evaluateCandidate_told (judges candidate member)
  have scored := scored_of_judged told
  have sorted := sorted_perm scored keyed
  have chosen : ∀ item ∈ ((policy.sorter.sort contenders).map Prod.fst).take
      (policy.keepCount contenders.length), item ∈ (policy.sorter.sort contenders).map Prod.fst :=
    fun item member => List.mem_of_mem_take member
  rw [rejected_eq scored keyed]
  constructor
  · exact ledger_of_sorted distinct told sorted chosen
  · have ids := congrArg (List.map (·.objectId)) (candidates_of_judged told)
    rw [List.map_map] at ids
    rw [← ids] at distinct
    rw [List.map_map]
    refine ((sorted.map _).nodup_iff.mpr ?_).sublist ((List.take_sublist _ _).map _)
    exact distinct.sublist (List.filter_sublist.map _)
  · intro candidate member
    obtain ⟨item, isKept, rfl⟩ := List.mem_map.mp member
    obtain ⟨inRun, accepted⟩ := List.mem_filter.mp (sorted.mem_iff.mp (chosen item isKept))
    obtain ⟨own, held, rfl⟩ := List.mem_map.mp inRun
    rw [(told own held).sameCandidate]
    exact (told own held).accepted.mp accepted
  · refine ⟨contenders.length, by simp [(policy.sorter.perm contenders).length_eq], ?_⟩
    rintro ⟨candidate, member, clears⟩
    have accepted := (told candidate member).accepted.mpr clears
    have present : judge candidate ∈ contenders.map Prod.fst := by
      rw [map_fst_contenders scored keyed]
      exact List.mem_filter.mpr ⟨List.mem_map_of_mem member, accepted⟩
    rw [← List.length_map (f := Prod.fst)]
    exact List.length_pos_of_mem present

end Batch

/-! ## The limit of a symbol -/

theorem keepCount_le {count : Nat} {bound : Int} (usable : policy.LimitUsable)
    (limit : policy.symbolLimit = some bound) : (policy.keepCount count : Int) ≤ bound := by
  unfold symbolLimit at limit
  unfold keepCount
  by_cases many : policy.selectionMode = "select_many"
  · rw [if_pos many] at limit
    have positive := usable many bound limit
    rw [if_pos many, limit]
    dsimp only
    split <;> omega
  · rw [if_neg many] at limit ⊢
    obtain rfl := Option.some.inj limit
    exact le_rfl

theorem keepCount_pos {count : Nat} (usable : policy.LimitUsable) (some : 0 < count) :
    0 < policy.keepCount count := by
  unfold keepCount
  by_cases many : policy.selectionMode = "select_many"
  · rw [if_pos many]
    cases limit : policy.maxSelectedPerSymbol with
    | none => exact some
    | some bound =>
      have positive := usable many bound limit
      dsimp only
      split <;> omega
  · rw [if_neg many]
    exact Nat.one_pos

/-! ## All symbols -/

section Whole

variable {candidates : List AllocationCandidate} {result : AllocationResult}

theorem candidatesOf_eq_batch (candidates : List AllocationCandidate) (symbol : String) :
    candidatesOf candidates symbol =
      batch (fun candidate => signalSymbol candidate.signal) candidates symbol := by
  unfold candidatesOf batch
  exact List.filter_congr fun candidate _ => by simp [beq_eq_decide]

theorem mem_signalSymbols {symbol : String} :
    symbol ∈ signalSymbols candidates ↔
      ∃ candidate ∈ candidates, signalSymbol candidate.signal = symbol := by
  rw [signalSymbols, List.mem_insertionSort, List.mem_dedup, List.mem_map]

theorem signalSymbols_nodup : (signalSymbols candidates).Nodup :=
  (List.perm_insertionSort _ _).nodup_iff.mpr (List.nodup_dedup _)

theorem allocate_ok_iff (judging : policy.isPassThrough = false) :
    (∃ result, policy.allocate context candidates = .ok result) ↔
      ∀ candidate ∈ candidates, policy.Evaluable context candidate ∧
        (policy.Clears context candidate → policy.Sortable candidate) := by
  have symbols : (∃ result, policy.allocate context candidates = .ok result) ↔
      ∃ results, tryMap
        (fun symbol => policy.allocateSymbol context (candidatesOf candidates symbol))
        (signalSymbols candidates) = .ok results := by
    simp only [allocate, judging, Bool.false_eq_true, if_false]
    constructor
    · rintro ⟨result, allocated⟩
      obtain ⟨results, mapped, -⟩ := bind_ok allocated
      exact ⟨results, mapped⟩
    · rintro ⟨results, mapped⟩
      exact ⟨_, bind_ok_iff.mpr ⟨results, mapped, rfl⟩⟩
  rw [symbols, tryMap_ok_iff]
  simp only [allocateSymbol_ok_iff, candidatesOf_eq_batch, mem_batch]
  constructor
  · intro every candidate member
    exact every _ (mem_signalSymbols.mpr ⟨candidate, member, rfl⟩) candidate ⟨member, rfl⟩
  · intro every symbol _ candidate held
    exact every candidate held.1

theorem allocate_passThrough_ok_iff (passing : policy.isPassThrough = true) :
    (∃ result, policy.allocate context candidates = .ok result) ↔
      ∀ candidate ∈ candidates, FloatsFit (passThroughReads candidate) := by
  simp only [allocate, passing, if_true, requireFloats_bind_iff]
  constructor
  · rintro ⟨result, fit, -⟩
    exact List.forall_mem_flatMap.mp fit
  · intro fit
    exact ⟨_, List.forall_mem_flatMap.mpr fit, rfl⟩

theorem once_of_batches {label : AllocationCandidate → String} {symbols : List String}
    {chosen : String → List AllocationCandidate} (distinct : (candidates.map (·.objectId)).Nodup)
    (apart : symbols.Nodup)
    (own : ∀ symbol ∈ symbols, ∀ candidate ∈ chosen symbol,
      candidate ∈ candidates ∧ label candidate = symbol)
    (once : ∀ symbol ∈ symbols, ((chosen symbol).map (·.objectId)).Nodup) :
    ((symbols.flatMap chosen).map (·.objectId)).Nodup := by
  rw [List.map_flatMap, List.nodup_flatMap]
  refine ⟨once, apart.imp_of_mem fun {first second} firstMember secondMember other => ?_⟩
  intro objectId inFirst inSecond
  obtain ⟨left, leftChosen, rfl⟩ := List.mem_map.mp inFirst
  obtain ⟨right, rightChosen, same⟩ := List.mem_map.mp inSecond
  obtain ⟨leftMember, leftLabel⟩ := own first firstMember left leftChosen
  obtain ⟨rightMember, rightLabel⟩ := own second secondMember right rightChosen
  obtain rfl := List.inj_on_of_nodup_map distinct rightMember leftMember same
  exact other (leftLabel.symm.trans rightLabel)

/-- The books of an allocation, once what is selected is `good`, and only what clears. -/
theorem bookkeeping_of_allocate {good : AllocationCandidate → Prop}
    (judging : policy.isPassThrough = false) (distinct : (candidates.map (·.objectId)).Nodup)
    (allocated : policy.allocate context candidates = .ok result)
    (passes : ∀ chosen ∈ result.selected, policy.Clears context chosen → good chosen)
    (clears : ∀ candidate ∈ candidates, good candidate → policy.Clears context candidate)
    (usable : ∀ candidate ∈ candidates, good candidate → policy.LimitUsable) :
    Bookkeeping policy good candidates result := by
  simp only [allocate, judging, Bool.false_eq_true, if_false] at allocated
  obtain ⟨results, mapped, returned⟩ := bind_ok allocated
  obtain rfl := Except.ok.inj returned
  obtain ⟨resultOf, rfl, worked⟩ := image_of_tryMap (fun _ => ⟨[], []⟩) mapped
  clear mapped allocated returned
  dsimp only at passes
  rw [List.flatMap_map] at passes
  rw [List.flatMap_map, List.flatMap_map]
  have books : ∀ symbol ∈ signalSymbols candidates, BatchBooks policy context
      (batch (fun candidate => signalSymbol candidate.signal) candidates symbol)
      (resultOf symbol) := by
    intro symbol member
    have allocated := worked symbol member
    rw [candidatesOf_eq_batch] at allocated
    exact allocateSymbol_books (distinct.sublist (List.filter_sublist.map _)) allocated
  have own : ∀ symbol ∈ signalSymbols candidates, ∀ candidate ∈ (resultOf symbol).selected,
      candidate ∈ candidates ∧ signalSymbol candidate.signal = symbol :=
    fun symbol member candidate chosen =>
      mem_batch.mp ((books symbol member).ledger.present candidate chosen)
  constructor
  · exact Ledger.flatMap signalSymbols_nodup
      (fun candidate member => mem_signalSymbols.mpr ⟨candidate, member, rfl⟩)
      fun symbol member => (books symbol member).ledger
  · exact once_of_batches distinct signalSymbols_nodup own fun symbol member =>
      (books symbol member).once
  · intro chosen isChosen
    obtain ⟨symbol, member, found⟩ := List.mem_flatMap.mp isChosen
    exact passes chosen isChosen ((books symbol member).clears chosen found)
  · intro chosen isChosen bound limit
    obtain ⟨symbol, member, found⟩ := List.mem_flatMap.mp isChosen
    obtain ⟨present, named⟩ := own symbol member chosen found
    rw [named, countP_flatMap_batch signalSymbols_nodup
      (fun symbol member candidate chosen => (own symbol member candidate chosen).2) member]
    obtain ⟨count, length, -⟩ := (books symbol member).quota
    have least : (policy.keepCount count : Int) ≤ bound :=
      keepCount_le (usable chosen present
        (passes chosen isChosen ((books symbol member).clears chosen found))) limit
    omega
  · intro candidate member isGood
    have symbol := mem_signalSymbols.mpr ⟨candidate, member, rfl⟩
    obtain ⟨count, length, some⟩ := (books _ symbol).quota
    have positive := some ⟨candidate, mem_batch.mpr ⟨member, rfl⟩, clears candidate member isGood⟩
    have kept := keepCount_pos (usable candidate member isGood) positive
    obtain ⟨chosen, found⟩ := List.exists_mem_of_length_pos
      (l := (resultOf (signalSymbol candidate.signal)).selected) (by omega)
    exact ⟨chosen, List.mem_flatMap.mpr ⟨_, symbol, found⟩, (own _ symbol chosen found).2⟩

/-- An allocation keeps its books exactly when each candidate can be evaluated and, if it
clears, sorted, what passes is under a usable limit, and what a symbol keeps was compared
by numbers. -/
theorem allocate_bookkeeping_iff {policy : StrategyAllocationPolicy} {context : AllocationContext}
    {candidates : List AllocationCandidate} (judging : policy.isPassThrough = false)
    (distinct : (candidates.map (·.objectId)).Nodup) :
    (∃ result, policy.allocate context candidates = .ok result ∧
        Bookkeeping policy (policy.Passes context) candidates result) ↔
      (∀ candidate ∈ candidates, policy.Evaluable context candidate ∧
        (policy.Clears context candidate → policy.Sortable candidate) ∧
        (policy.Passes context candidate → policy.LimitUsable)) ∧
      ∀ symbol ∈ signalSymbols candidates,
        ∀ candidate ∈ policy.leading context candidates symbol,
          policy.Comparable context candidate := by
  constructor
  · rintro ⟨result, allocated, books⟩
    have returns := (allocate_ok_iff judging).mp ⟨result, allocated⟩
    constructor
    · intro candidate member
      obtain ⟨evaluable, sortable⟩ := returns candidate member
      refine ⟨evaluable, sortable, fun passes many bound limit => ?_⟩
      obtain ⟨chosen, isChosen, -⟩ := books.served candidate member passes
      have within := books.limited chosen isChosen bound (by rw [symbolLimit, if_pos many, limit])
      have counted : 0 < result.selected.countP
          (fun other => decide (signalSymbol other.signal = signalSymbol chosen.signal)) :=
        List.countP_pos_iff.mpr ⟨chosen, isChosen, by simp⟩
      omega
    · intro symbol named candidate leads
      refine (books.passes candidate ?_).comparable
      rw [allocate_selected judging allocated]
      exact List.mem_flatMap.mpr ⟨symbol, named, leads⟩
  · rintro ⟨each, compared⟩
    obtain ⟨result, allocated⟩ := (allocate_ok_iff judging).mpr fun candidate member =>
      ⟨(each candidate member).1, (each candidate member).2.1⟩
    refine ⟨result, allocated, bookkeeping_of_allocate judging distinct allocated ?_
      (fun candidate member passes => ((passes_iff (each candidate member).1).mp passes).1)
      fun candidate member => (each candidate member).2.2⟩
    intro chosen isChosen clears
    rw [allocate_selected judging allocated] at isChosen
    obtain ⟨symbol, named, leads⟩ := List.mem_flatMap.mp isChosen
    have present := List.mem_of_mem_filter (leading_accepted leads).1
    exact (passes_iff (each chosen present).1).mpr ⟨clears, compared symbol named chosen leads⟩

end Whole

/-! ## Sample policies -/

theorem comparable_of_test
    (spread : (extractCostEstimate candidate.parameters).1.isNan = false)
    (score : (policy.computeScore candidate context (policy.ownCfg candidate)).toOption.all
      (fun score => !score.isNan) = true)
    (minimums : ∀ config ∈ [policy.globalConfig, policy.ownCfg candidate],
      (scoreField config "min_score").toOption.all
        (fun value => !(coerceFloat value 0).isNan) = true) :
    policy.Comparable context candidate := by
  have least : ∀ config ∈ [policy.globalConfig, policy.ownCfg candidate], ∀ value,
      scoreField config "min_score" = .ok value → (coerceFloat value 0).isNan = false := by
    intro config member value read
    simpa [read, Except.toOption] using minimums config member
  refine ⟨fun _ => spread, ?_, least _ (by simp), least _ (by simp)⟩
  intro number computed
  simpa [computed, Except.toOption] using score

def shutPolicy : StrategyAllocationPolicy :=
  { majorsPolicy 2 with strategyConfig := Dict.empty.set "m0" [("enabled", .bool false)] }

/-- Two candidates for one symbol and one for another, and one of a disabled strategy,
whose spread is not a number. -/
def fourMajors : List AllocationCandidate :=
  threeMajors ++ [{ plainCandidate 3 "EURUSD" with
    strategyId := "m0"
    parameters := [("execution", .map [("spread", .float 0 "nan")])] }]

theorem allocate_bookkeeping_four :
    ∃ result, shutPolicy.allocate quietContext fourMajors = .ok result ∧
      Bookkeeping shutPolicy (shutPolicy.Passes quietContext) fourMajors result := by
  refine (allocate_bookkeeping_iff (by decide) (by decide)).mpr ⟨?_, ?_⟩
  · intro candidate member
    refine ⟨evaluateCandidate_ok_iff.mp (exists_ok _ ?_), fun _ turned => ?_, fun _ many => ?_⟩
    · revert candidate
      decide +kernel
    · exact absurd turned (by decide +kernel)
    · exact absurd many (by decide)
  · have numbers : ∀ symbol ∈ signalSymbols fourMajors,
        ∀ candidate ∈ shutPolicy.leading quietContext fourMajors symbol,
          (extractCostEstimate candidate.parameters).1.isNan = false ∧
          (shutPolicy.computeScore candidate quietContext
            (shutPolicy.ownCfg candidate)).toOption.all (fun score => !score.isNan) = true ∧
          ∀ config ∈ [shutPolicy.globalConfig, shutPolicy.ownCfg candidate],
            (scoreField config "min_score").toOption.all
              (fun value => !(coerceFloat value 0).isNan) = true := by decide +kernel
    intro symbol named candidate leads
    obtain ⟨spread, score, minimums⟩ := numbers symbol named candidate leads
    exact comparable_of_test spread score minimums

/-- A policy with the score section and the strategy weight that are given. -/
def scoringPolicy (score weight : Value) : StrategyAllocationPolicy where
  mode := "hybrid"
  tieBreakRules := [.str "score_desc"]
  selectionMode := "select_one"
  maxSelectedPerSymbol := none
  globalConfig := [("score", score)]
  strategyConfig := Dict.empty.set "m1" [("weight", weight)]

/-- A score section that is null stops the allocation, and a score that is not a
number is above every minimum. -/
theorem books_not_kept : ¬ ∃ policy ∈ [scoringPolicy .null (.int 1),
      scoringPolicy (.map []) (.float 0 "nan")],
    ∃ result, policy.allocate quietContext [plainCandidate 0 "USDJPY"] = .ok result ∧
      Bookkeeping policy (policy.Passes quietContext) [plainCandidate 0 "USDJPY"] result := by
  intro kept
  obtain ⟨policy, member, result, allocated, books⟩ := kept
  simp only [List.mem_cons, List.not_mem_nil, or_false] at member
  rcases member with rfl | rfl
  · have raised : ((scoringPolicy .null (.int 1)).allocate quietContext
        [plainCandidate 0 "USDJPY"]).toOption.isSome = false := by decide +kernel
    rw [allocated] at raised
    cases raised
  · have some : ((scoringPolicy (.map []) (.float 0 "nan")).allocate quietContext
        [plainCandidate 0 "USDJPY"]).toOption.all (fun result => !result.selected.isEmpty) =
          true := by decide +kernel
    rw [allocated] at some
    obtain ⟨chosen, isChosen⟩ := List.exists_mem_of_ne_nil result.selected
      (by simpa [Except.toOption] using some)
    obtain rfl := List.mem_singleton.mp (books.ledger.present chosen isChosen)
    obtain ⟨score, overall, own, scored, -, -, least, -⟩ := (books.passes _ isChosen).score
    have nan : ((scoringPolicy (.map []) (.float 0 "nan")).computeScore
        (plainCandidate 0 "USDJPY") quietContext
        ((scoringPolicy (.map []) (.float 0 "nan")).ownCfg
          (plainCandidate 0 "USDJPY"))).toOption.all Extended.isNan = true := by decide +kernel
    rw [scored] at nan
    cases score with
    | nan => exact Extended.not_le_nan least
    | infinite negative => cases nan
    | finite value => cases nan

end StrategyAllocationPolicy

end FxToushi.Strategies
