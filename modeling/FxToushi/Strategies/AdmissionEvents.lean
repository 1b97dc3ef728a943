import FxToushi.Strategies.AllocationBooks
import FxToushi.Strategies.Watchlists

namespace FxToushi.Strategies

open FxToushi.Core Data Py

/-! # Admission events

The engine looks the candidate of an outcome up by its strategy and symbol and
logs the signal and the trade it finds.  The outcomes are compared with reports
that keep the candidate beside its outcome.
-/

/-- An outcome beside the candidate it is about. -/
structure AdmissionReport where
  context : AllocationContext
  candidate : AllocationCandidate
  outcome : AllocationOutcome

/-- The `portfolio.admission` record. -/
structure AdmissionEvent where
  strategyId : String
  context : AllocationContext
  outcome : AllocationOutcome
  signal : AllocationSignal
  candidateTrade : Option CandidateTrade
  featureFlags : Dict String Bool

namespace StrategyAllocationPolicy

/-! ## Reports -/

variable {policy : StrategyAllocationPolicy} {context : AllocationContext}
  {candidates : List AllocationCandidate} {told : List AdmissionReport}

/-- `allocateSymbol`, with each outcome beside the candidate it was built from. -/
def symbolReports (policy : StrategyAllocationPolicy) (context : AllocationContext)
    (candidates : List AllocationCandidate) : Except PyError (List AdmissionReport) := do
  let evaluated ← tryMap (policy.evaluateCandidate context) candidates
  let contenders ← tryMap
    (fun entry : EvaluatedCandidate × Extended => do
      return (entry.1, ← policy.tieBreakSortKey entry.1 entry.2))
    (evaluated.filterMap (fun item => (acceptedScore item).map (item, ·)))
  let sorted := (policy.sorter.sort contenders).map Prod.fst
  let kept := sorted.take (policy.keepCount contenders.length)
  let rejected := if contenders = [] then evaluated
    else evaluated.filter (fun item => !item.accepted)
  return sorted.map (fun item => ⟨context, item.candidate, policy.contenderOutcome kept item⟩) ++
    rejected.map (fun item =>
      ⟨context, item.candidate, buildOutcome item false none none none⟩)

/-- `allocate`, with each outcome beside its candidate. -/
def reports (policy : StrategyAllocationPolicy) (context : AllocationContext)
    (candidates : List AllocationCandidate) : Except PyError (List AdmissionReport) :=
  if policy.isPassThrough then do
    requireFloats (candidates.flatMap passThroughReads)
    return candidates.map fun candidate => ⟨context, candidate, passThroughOutcome candidate⟩
  else do
    let results ← tryMap
      (fun symbol => policy.symbolReports context (candidatesOf candidates symbol))
      (signalSymbols candidates)
    return results.flatten

theorem symbolReports_outcomes :
    (policy.symbolReports context candidates).map (List.map (·.outcome)) =
      (policy.allocateSymbol context candidates).map (·.outcomes) := by
  rw [symbolReports, allocateSymbol, map_bind_eq, map_bind_eq]
  refine bind_congr fun evaluated => ?_
  rw [map_bind_eq, map_bind_eq]
  refine bind_congr fun contenders => ?_
  exact congrArg Except.ok (by simp [Function.comp_def])

/-- The reports tell the outcomes of the allocation, in their order. -/
theorem reports_outcomes :
    (policy.reports context candidates).map (List.map (·.outcome)) =
      (policy.allocate context candidates).map (·.outcomes) := by
  unfold reports allocate
  cases policy.isPassThrough with
  | true =>
    simp only [if_true, map_bind_eq]
    refine bind_congr fun _ => ?_
    simp [Except.map, pure, Except.pure, Function.comp_def]
  | false =>
    have told : tryMap (fun symbol =>
          (policy.symbolReports context (candidatesOf candidates symbol)).map
            (List.map (·.outcome))) (signalSymbols candidates) =
        tryMap (fun symbol =>
          (policy.allocateSymbol context (candidatesOf candidates symbol)).map (·.outcomes))
          (signalSymbols candidates) :=
      congrArg (tryMap · _) (funext fun symbol => symbolReports_outcomes)
    rw [tryMap_finish, tryMap_finish] at told
    have flattened := congrArg (Except.map List.flatten) told
    rw [map_map_eq, map_map_eq] at flattened
    simp only [Bool.false_eq_true, if_false, bind_pure_eq_map, map_map_eq, List.map_flatten,
      List.flatMap_def]
    exact flattened

/-- Every candidate has one report, which tells of it. -/
structure Reported (context : AllocationContext) (candidates : List AllocationCandidate)
    (told : List AdmissionReport) : Prop where
  each : (told.map (·.candidate)).Perm candidates
  own : ∀ report ∈ told, report.context = context ∧ tells report.outcome report.candidate

theorem symbolReports_reported (worked : policy.symbolReports context candidates = .ok told) :
    Reported context candidates told := by
  obtain ⟨evaluated, judged, worked⟩ := bind_ok worked
  obtain ⟨contenders, keyed, worked⟩ := bind_ok worked
  obtain rfl := Except.ok.inj worked
  obtain ⟨judge, rfl, judges⟩ :=
    image_of_tryMap (fun candidate => { candidate, symbol := "", reason := "" }) judged
  have toldOf : ∀ candidate ∈ candidates, Told policy context candidate (judge candidate) :=
    fun candidate member => evaluateCandidate_told (judges candidate member)
  have scored := scored_of_judged toldOf
  have all := ((sorted_perm scored keyed).append_right _).trans
    (List.filter_append_perm (fun item => item.accepted) (candidates.map judge))
  have symbols : ∀ item ∈ (policy.sorter.sort contenders).map Prod.fst ++
      (candidates.map judge).filter (fun item => !item.accepted),
      item.symbol = candidateSymbol item.candidate := by
    intro item member
    obtain ⟨candidate, held, rfl⟩ := List.mem_map.mp (all.mem_iff.mp member)
    exact symbol_of_told (toldOf candidate held)
  rw [rejected_eq scored keyed]
  constructor
  · have whole := all.map (·.candidate)
    rw [candidates_of_judged toldOf, List.map_append] at whole
    simpa only [List.map_append, List.map_map, Function.comp_def] using whole
  · intro report member
    cases List.mem_append.mp member with
    | inl first =>
      obtain ⟨item, sorted, rfl⟩ := List.mem_map.mp first
      exact ⟨rfl, tells_contenderOutcome (symbols item (List.mem_append_left _ sorted))⟩
    | inr later =>
      obtain ⟨item, rejected, rfl⟩ := List.mem_map.mp later
      exact ⟨rfl, tells_buildOutcome (symbols item (List.mem_append_right _ rejected))⟩

theorem reports_reported (worked : policy.reports context candidates = .ok told) :
    Reported context candidates told := by
  unfold reports at worked
  cases passing : policy.isPassThrough with
  | true =>
    rw [passing, if_pos rfl, requireFloats_bind_iff] at worked
    obtain rfl := Except.ok.inj worked.2
    constructor
    · rw [List.map_map]
      exact List.Perm.of_eq (List.map_id candidates)
    · intro report member
      obtain ⟨candidate, -, rfl⟩ := List.mem_map.mp member
      exact ⟨rfl, rfl, rfl⟩
  | false =>
    rw [passing, if_neg Bool.false_ne_true] at worked
    obtain ⟨results, mapped, worked⟩ := bind_ok worked
    obtain rfl := Except.ok.inj worked
    obtain ⟨toldOf, rfl, each⟩ := image_of_tryMap (fun _ => []) mapped
    have batches : ∀ symbol ∈ signalSymbols candidates, Reported context
        (batch (fun candidate => signalSymbol candidate.signal) candidates symbol)
        (toldOf symbol) := by
      intro symbol member
      rw [← candidatesOf_eq_batch]
      exact symbolReports_reported (each symbol member)
    rw [← List.flatMap_def]
    constructor
    · rw [List.map_flatMap]
      exact (List.Perm.flatMap_left _ fun symbol member => (batches symbol member).each).trans
        (flatMap_batch_perm signalSymbols_nodup fun candidate member =>
          mem_signalSymbols.mpr ⟨candidate, member, rfl⟩)
    · intro report member
      obtain ⟨symbol, placed, found⟩ := List.mem_flatMap.mp member
      exact (batches symbol placed).own report found

theorem reports_ok_iff :
    (∃ told, policy.reports context candidates = .ok told) ↔
      ∃ result, policy.allocate context candidates = .ok result := by
  have same := @reports_outcomes policy context candidates
  cases reported : policy.reports context candidates with
  | error error =>
    rw [reported] at same
    cases allocated : policy.allocate context candidates with
    | error other => exact iff_of_false (fun found => nomatch found) (fun found => nomatch found)
    | ok result =>
      rw [allocated] at same
      cases same
  | ok told =>
    rw [reported] at same
    cases allocated : policy.allocate context candidates with
    | error other =>
      rw [allocated] at same
      cases same
    | ok result => exact iff_of_true ⟨told, rfl⟩ ⟨result, rfl⟩

end StrategyAllocationPolicy

/-! ## Events -/

namespace StrategyEngine

/-- The symbol that a candidate is looked up by. -/
def lookupSymbol (candidate : AllocationCandidate) : String :=
  orText (some (upper (strip (symbolText candidate.signal)))) "UNKNOWN"

def lookupKey (candidate : AllocationCandidate) : String × String :=
  (candidate.strategyId, lookupSymbol candidate)

/-- Of the candidates under one key the last is found. -/
def candidateLookup (candidates : List AllocationCandidate) :
    Dict (String × String) AllocationCandidate :=
  Dict.empty.setAll lookupKey id candidates

def featureFlags (engine : StrategyEngine) (strategyId : String) : Dict String Bool :=
  match engine.manifest.strategies.get? strategyId with
  | some entry => entry.featureFlags
  | none => Dict.empty

/-- `_emit_portfolio_admission_event`, for the candidate that was found. -/
def admissionEvent (engine : StrategyEngine) (context : AllocationContext)
    (outcome : AllocationOutcome) (candidate : AllocationCandidate) : AdmissionEvent where
  strategyId := outcome.strategyId
  context
  outcome
  signal := candidate.signal
  candidateTrade := candidate.trade
  featureFlags := engine.featureFlags outcome.strategyId

/-- An outcome whose candidate is not found is not logged. -/
def recordAllocationOutcomes (engine : StrategyEngine) (context : AllocationContext)
    (candidates : List AllocationCandidate) (allocation : List AllocationOutcome) :
    List AdmissionEvent :=
  allocation.filterMap fun outcome =>
    ((candidateLookup candidates).get? (outcome.strategyId, outcome.symbol)).map
      (engine.admissionEvent context outcome)

def batchCandidates (candidates : List AllocationCandidate) (symbol : String) :
    List AllocationCandidate :=
  candidates.filter (fun candidate => batchSymbol candidate == symbol)

/-- What the body of the loop over the symbols logs. -/
def symbolEvents (engine : StrategyEngine) (policy : StrategyAllocationPolicy)
    (arguments : RunArguments) (candidates : List AllocationCandidate) (symbol : String) :
    Except PyError (List AdmissionEvent) := do
  let allocation ← allocateBatch policy arguments symbol (batchCandidates candidates symbol)
  return engine.recordAllocationOutcomes (allocationContext arguments symbol)
    (batchCandidates candidates symbol) allocation.outcomes

/-- What a run logs, also when it raises in the end. -/
def admissionEvents (engine : StrategyEngine) (arguments : RunArguments) : List AdmissionEvent :=
  let journal := engine.journal arguments
  match journal.failure, engine.allocationPolicy with
  | none, some policy =>
    flatMapUntil (engine.symbolEvents policy arguments (numberedCandidates journal))
      (batchSymbols (numberedCandidates journal))
  | _, _ => []

/-! ## The right trade -/

def batchReports (policy : StrategyAllocationPolicy) (arguments : RunArguments)
    (candidates : List AllocationCandidate) (symbol : String) :
    Except PyError (List AdmissionReport) := do
  requireFloats [regimeRead arguments symbol]
  policy.reports (allocationContext arguments symbol) (batchCandidates candidates symbol)

def admissionReports (engine : StrategyEngine) (arguments : RunArguments) :
    List AdmissionReport :=
  let journal := engine.journal arguments
  match journal.failure, engine.allocationPolicy with
  | none, some policy =>
    flatMapUntil (batchReports policy arguments (numberedCandidates journal))
      (batchSymbols (numberedCandidates journal))
  | _, _ => []

/-- The event with the signal and the trade of the reported candidate. -/
def ownEvent (engine : StrategyEngine) (report : AdmissionReport) : AdmissionEvent :=
  engine.admissionEvent report.context report.outcome report.candidate

/-- Each candidate has one event, which names its own signal and trade. -/
structure NamesRight (engine : StrategyEngine) (arguments : RunArguments) : Prop where
  each : ((engine.admissionReports arguments).map (·.candidate)).Perm
    (numberedCandidates (engine.journal arguments))
  own : engine.admissionEvents arguments =
    (engine.admissionReports arguments).map engine.ownEvent

/-- No strategy raises. -/
def Completes (engine : StrategyEngine) (arguments : RunArguments) : Prop :=
  ∃ watchlist, preflight engine.manifest arguments = .ok watchlist ∧
    ∀ item ∈ orderedEntries engine.manifest,
      (engine.runEntry arguments watchlist item).failure = none

/-- The regime is no integer too large for a float, and the policy can judge the candidate
and sort it if it clears. -/
structure Judgeable (policy : StrategyAllocationPolicy) (arguments : RunArguments)
    (candidate : AllocationCandidate) : Prop where
  regime : FloatsFit [regimeRead arguments (batchSymbol candidate)]
  passed : policy.isPassThrough = true →
    FloatsFit (StrategyAllocationPolicy.passThroughReads candidate)
  evaluable : policy.isPassThrough = false →
    policy.Evaluable (allocationContext arguments (batchSymbol candidate)) candidate
  sortable : policy.isPassThrough = false →
    policy.Clears (allocationContext arguments (batchSymbol candidate)) candidate →
      policy.Sortable candidate

/-- Candidates of one batch share a lookup key only with the same signal and trade. -/
structure Unambiguous (policy : StrategyAllocationPolicy) (arguments : RunArguments)
    (candidates : List AllocationCandidate) : Prop where
  judged : ∀ candidate ∈ candidates, Judgeable policy arguments candidate
  matched : ∀ candidate ∈ candidates, candidateSymbol candidate = lookupSymbol candidate
  alone : ∀ candidate ∈ candidates, ∀ other ∈ candidates,
    batchSymbol other = batchSymbol candidate → lookupKey other = lookupKey candidate →
      other.signal = candidate.signal ∧ other.trade = candidate.trade

section Batches

variable {engine : StrategyEngine} {policy : StrategyAllocationPolicy} {arguments : RunArguments}
  {candidates : List AllocationCandidate} {symbol : String}

theorem batchCandidates_eq_batch :
    batchCandidates candidates symbol = batch batchSymbol candidates symbol :=
  List.filter_congr fun candidate _ => by simp [beq_eq_decide]

theorem mem_batchCandidates {candidate : AllocationCandidate} :
    candidate ∈ batchCandidates candidates symbol ↔
      candidate ∈ candidates ∧ batchSymbol candidate = symbol := by
  rw [batchCandidates_eq_batch, mem_batch]

theorem mem_batchSymbols :
    symbol ∈ batchSymbols candidates ↔
      ∃ candidate ∈ candidates, batchSymbol candidate = symbol := by
  rw [batchSymbols, List.mem_insertionSort, List.mem_dedup, List.mem_map]

theorem batchSymbols_nodup : (batchSymbols candidates).Nodup :=
  (List.perm_insertionSort _ _).nodup_iff.mpr (List.nodup_dedup _)

theorem batchReports_reported {told : List AdmissionReport}
    (worked : batchReports policy arguments candidates symbol = .ok told) :
    StrategyAllocationPolicy.Reported (allocationContext arguments symbol)
      (batchCandidates candidates symbol) told :=
  StrategyAllocationPolicy.reports_reported (requireFloats_bind_iff.mp worked).2

/-- Every candidate is reported on when no batch raises. -/
theorem reported_perm_iff :
    ((flatMapUntil (batchReports policy arguments candidates)
        (batchSymbols candidates)).map (·.candidate)).Perm candidates ↔
      ∀ candidate ∈ candidates,
        ∃ told, batchReports policy arguments candidates (batchSymbol candidate) = .ok told := by
  constructor
  · intro every candidate member
    obtain ⟨report, found, rfl⟩ := List.mem_map.mp (every.mem_iff.mpr member)
    obtain ⟨symbol, -, told, worked, held⟩ := exists_of_mem_flatMapUntil found
    have inBatch := (batchReports_reported worked).each.mem_iff.mp (List.mem_map_of_mem held)
    obtain ⟨-, rfl⟩ := mem_batchCandidates.mp inBatch
    exact ⟨told, worked⟩
  · intro every
    have worked : ∀ symbol ∈ batchSymbols candidates,
        ∃ told, batchReports policy arguments candidates symbol = .ok told := by
      intro symbol placed
      obtain ⟨candidate, member, rfl⟩ := mem_batchSymbols.mp placed
      exact every candidate member
    choose! toldOf works using worked
    rw [flatMapUntil_eq_flatMap works, List.map_flatMap]
    have batches : ∀ symbol ∈ batchSymbols candidates,
        ((toldOf symbol).map (·.candidate)).Perm (batch batchSymbol candidates symbol) := by
      intro symbol placed
      rw [← batchCandidates_eq_batch]
      exact (batchReports_reported (works symbol placed)).each
    exact (List.Perm.flatMap_left _ batches).trans
      (flatMap_batch_perm batchSymbols_nodup fun candidate member =>
        mem_batchSymbols.mpr ⟨candidate, member, rfl⟩)

/-- No batch raises when each candidate can be judged. -/
theorem worked_iff_judgeable :
    (∀ candidate ∈ candidates,
        ∃ told, batchReports policy arguments candidates (batchSymbol candidate) = .ok told) ↔
      ∀ candidate ∈ candidates, Judgeable policy arguments candidate := by
  simp only [batchReports, requireFloats_bind_iff, exists_and_left,
    StrategyAllocationPolicy.reports_ok_iff]
  cases passing : policy.isPassThrough with
  | true =>
    simp only [StrategyAllocationPolicy.allocate_passThrough_ok_iff passing, mem_batchCandidates]
    constructor
    · intro every candidate member
      obtain ⟨regime, batch⟩ := every candidate member
      exact ⟨regime, fun _ => batch candidate ⟨member, rfl⟩,
        fun judging => (nomatch passing.symm.trans judging),
        fun judging => (nomatch passing.symm.trans judging)⟩
    · intro every candidate member
      exact ⟨(every candidate member).regime, fun other held => (every other held.1).passed passing⟩
  | false =>
    simp only [StrategyAllocationPolicy.allocate_ok_iff passing, mem_batchCandidates]
    constructor
    · intro every candidate member
      obtain ⟨regime, batch⟩ := every candidate member
      obtain ⟨evaluable, sortable⟩ := batch candidate ⟨member, rfl⟩
      exact ⟨regime, fun through => (nomatch passing.symm.trans through), fun _ => evaluable,
        fun _ => sortable⟩
    · intro every candidate member
      refine ⟨(every candidate member).regime, fun other held => ?_⟩
      rw [← held.2]
      exact ⟨(every other held.1).evaluable passing, (every other held.1).sortable passing⟩

/-! ## What is logged -/

/-- What is logged for a report. -/
def loggedEvent (engine : StrategyEngine) (candidates : List AllocationCandidate)
    (report : AdmissionReport) : Option AdmissionEvent :=
  ((candidateLookup (batchCandidates candidates (batchSymbol report.candidate))).get?
    (report.outcome.strategyId, report.outcome.symbol)).map
      (engine.admissionEvent report.context report.outcome)

theorem symbolEvents_eq : engine.symbolEvents policy arguments candidates symbol =
    (batchReports policy arguments candidates symbol).map
      (List.filterMap (engine.loggedEvent candidates)) := by
  unfold symbolEvents batchReports allocateBatch
  rw [bind_assoc, map_bind_eq]
  refine bind_congr fun _ => ?_
  have told := congrArg (Except.map (engine.recordAllocationOutcomes
      (allocationContext arguments symbol) (batchCandidates candidates symbol)))
    (@StrategyAllocationPolicy.reports_outcomes policy (allocationContext arguments symbol)
      (batchCandidates candidates symbol))
  rw [map_map_eq, map_map_eq] at told
  refine (bind_pure_eq_map _ _).trans (told.symm.trans ?_)
  cases worked : policy.reports (allocationContext arguments symbol)
      (batchCandidates candidates symbol) with
  | error error => rfl
  | ok told =>
    have reported := StrategyAllocationPolicy.reports_reported worked
    refine congrArg Except.ok ?_
    unfold recordAllocationOutcomes
    dsimp only
    rw [List.filterMap_map]
    refine List.filterMap_congr fun report member => ?_
    have held := reported.each.mem_iff.mp (List.mem_map_of_mem member)
    obtain ⟨-, placed⟩ := mem_batchCandidates.mp held
    rw [Function.comp_apply, loggedEvent, placed, (reported.own report member).1]

theorem events_eq :
    flatMapUntil (engine.symbolEvents policy arguments candidates) (batchSymbols candidates) =
      (flatMapUntil (batchReports policy arguments candidates)
        (batchSymbols candidates)).filterMap (engine.loggedEvent candidates) :=
  flatMapUntil_filterMap fun _ _ => symbolEvents_eq

/-- The candidate that is looked up has the signal and the trade of this one. -/
def FoundRight (candidates : List AllocationCandidate) (candidate : AllocationCandidate) : Prop :=
  ∃ found, (candidateLookup (batchCandidates candidates (batchSymbol candidate))).get?
      (candidate.strategyId, candidateSymbol candidate) = some found ∧
    found.signal = candidate.signal ∧ found.trade = candidate.trade

theorem loggedEvent_own_iff {report : AdmissionReport}
    (told : StrategyAllocationPolicy.tells report.outcome report.candidate) :
    engine.loggedEvent candidates report = some (engine.ownEvent report) ↔
      FoundRight candidates report.candidate := by
  rw [loggedEvent, told.1, told.2, Option.map_eq_some_iff]
  simp [FoundRight, ownEvent, admissionEvent]

theorem lookupSymbol_congr {candidate other : AllocationCandidate}
    (same : other.signal = candidate.signal) : lookupSymbol other = lookupSymbol candidate := by
  rw [lookupSymbol, lookupSymbol, same]

theorem lookupSymbol_of_found {strategyId symbol : String} {found : AllocationCandidate}
    (looked : (candidateLookup candidates).get? (strategyId, symbol) = some found) :
    lookupSymbol found = symbol := by
  unfold candidateLookup at looked
  cases Dict.exists_of_get?_setAll looked with
  | inl set =>
    obtain ⟨other, -, sameKey, rfl⟩ := set
    exact (Prod.mk.inj sameKey).2
  | inr before => cases before

theorem exists_found {candidate : AllocationCandidate} (member : candidate ∈ candidates)
    (alone : ∀ other ∈ candidates, lookupKey other = lookupKey candidate →
      other.signal = candidate.signal ∧ other.trade = candidate.trade) :
    ∃ found, (candidateLookup candidates).get? (lookupKey candidate) = some found ∧
      found.signal = candidate.signal ∧ found.trade = candidate.trade := by
  let named := fun candidate : AllocationCandidate => (candidate.signal, candidate.trade)
  have unique : ((candidateLookup candidates).mapValues named).get? (lookupKey candidate) =
      some (named candidate) := by
    rw [candidateLookup, Dict.mapValues_setAll]
    refine Dict.get?_setAll_of_unique member fun other present sameKey => ?_
    obtain ⟨signal, trade⟩ := alone other present sameKey
    exact Prod.ext signal trade
  rw [Dict.get?_mapValues, Option.map_eq_some_iff] at unique
  obtain ⟨found, looked, same⟩ := unique
  exact ⟨found, looked, congrArg Prod.fst same, congrArg Prod.snd same⟩

theorem foundRight_iff {candidate : AllocationCandidate} :
    FoundRight candidates candidate ↔ candidateSymbol candidate = lookupSymbol candidate ∧
      ∃ found, (candidateLookup (batchCandidates candidates (batchSymbol candidate))).get?
          (lookupKey candidate) = some found ∧
        found.signal = candidate.signal ∧ found.trade = candidate.trade := by
  constructor
  · intro right
    obtain ⟨found, looked, signal, trade⟩ := right
    have matched : candidateSymbol candidate = lookupSymbol candidate := by
      rw [← lookupSymbol_congr signal, lookupSymbol_of_found looked]
    refine ⟨matched, found, ?_, signal, trade⟩
    rw [lookupKey, ← matched]
    exact looked
  · intro right
    obtain ⟨matched, found, looked, same⟩ := right
    rw [lookupKey, ← matched] at looked
    exact ⟨found, looked, same⟩

/-- All candidates are found right when no two are mixed up. -/
theorem foundRight_all_iff :
    (∀ candidate ∈ candidates, FoundRight candidates candidate) ↔
      (∀ candidate ∈ candidates, candidateSymbol candidate = lookupSymbol candidate) ∧
        ∀ candidate ∈ candidates, ∀ other ∈ candidates,
          batchSymbol other = batchSymbol candidate → lookupKey other = lookupKey candidate →
            other.signal = candidate.signal ∧ other.trade = candidate.trade := by
  constructor
  · intro right
    refine ⟨fun candidate member => (foundRight_iff.mp (right candidate member)).1, ?_⟩
    intro candidate member other present sameBatch sameKey
    obtain ⟨-, found, looked, signal, trade⟩ :=
      foundRight_iff.mp (right candidate member)
    obtain ⟨-, again, lookedAgain, otherSignal, otherTrade⟩ :=
      foundRight_iff.mp (right other present)
    rw [sameBatch, sameKey, looked] at lookedAgain
    obtain rfl := Option.some.inj lookedAgain
    exact ⟨otherSignal.symm.trans signal, otherTrade.symm.trans trade⟩
  · intro condition candidate member
    obtain ⟨matched, alone⟩ := condition
    refine foundRight_iff.mpr ⟨matched candidate member, ?_⟩
    refine exists_found (mem_batchCandidates.mpr ⟨member, rfl⟩) fun other held sameKey => ?_
    obtain ⟨present, sameBatch⟩ := mem_batchCandidates.mp held
    exact alone candidate member other present sameBatch sameKey

end Batches

/-! ## Runs -/

section Runs

variable {engine : StrategyEngine} {arguments : RunArguments} {policy : StrategyAllocationPolicy}

theorem completes_iff :
    engine.Completes arguments ↔ (engine.journal arguments).failure = none := by
  unfold Completes journal
  cases checked : preflight engine.manifest arguments with
  | error error =>
    refine iff_of_false (fun found => ?_) (fun passed => nomatch passed)
    obtain ⟨watchlist, passed, -⟩ := found
    cases passed
  | ok watchlist =>
    rw [Journal.each_failure_none_iff]
    constructor
    · intro found
      obtain ⟨other, same, passed⟩ := found
      obtain rfl := Except.ok.inj same
      exact passed
    · exact fun passed => ⟨watchlist, rfl, passed⟩

theorem admissionReports_of_failed (broke : (engine.journal arguments).failure ≠ none) :
    engine.admissionReports arguments = [] ∧ engine.admissionEvents arguments = [] := by
  unfold admissionReports admissionEvents
  cases failure : (engine.journal arguments).failure with
  | none => exact absurd failure broke
  | some error =>
    dsimp only
    rw [failure]
    exact ⟨rfl, rfl⟩

theorem admissionReports_of_passed (attached : engine.allocationPolicy = some policy)
    (passed : (engine.journal arguments).failure = none) :
    engine.admissionReports arguments =
      flatMapUntil
        (batchReports policy arguments (numberedCandidates (engine.journal arguments)))
        (batchSymbols (numberedCandidates (engine.journal arguments))) := by
  simp only [admissionReports, passed, attached]

theorem admissionEvents_of_passed (attached : engine.allocationPolicy = some policy)
    (passed : (engine.journal arguments).failure = none) :
    engine.admissionEvents arguments =
      (engine.admissionReports arguments).filterMap
        (engine.loggedEvent (numberedCandidates (engine.journal arguments))) := by
  rw [admissionReports_of_passed attached passed, ← events_eq]
  simp only [admissionEvents, passed, attached]

theorem tells_of_mem {report : AdmissionReport}
    (member : report ∈ engine.admissionReports arguments) :
    StrategyAllocationPolicy.tells report.outcome report.candidate := by
  unfold admissionReports at member
  dsimp only at member
  split at member
  · obtain ⟨symbol, -, told, worked, held⟩ := exists_of_mem_flatMapUntil member
    exact ((batchReports_reported worked).own report held).2
  · cases member

theorem own_iff (attached : engine.allocationPolicy = some policy)
    (passed : (engine.journal arguments).failure = none)
    (each : ((engine.admissionReports arguments).map (·.candidate)).Perm
      (numberedCandidates (engine.journal arguments))) :
    engine.admissionEvents arguments =
        (engine.admissionReports arguments).map engine.ownEvent ↔
      ∀ candidate ∈ numberedCandidates (engine.journal arguments),
        FoundRight (numberedCandidates (engine.journal arguments)) candidate := by
  rw [admissionEvents_of_passed attached passed, filterMap_eq_map_iff]
  constructor
  · intro every candidate member
    obtain ⟨report, found, rfl⟩ := List.mem_map.mp (each.mem_iff.mpr member)
    exact (loggedEvent_own_iff (tells_of_mem found)).mp (every report found)
  · intro every report found
    exact (loggedEvent_own_iff (tells_of_mem found)).mpr
      (every report.candidate (each.mem_iff.mp (List.mem_map_of_mem found)))

/-- The events of a run name the right trades exactly when it comes to no
candidate, or when no strategy raises and no two candidates are mixed up. -/
theorem namesRight_iff {engine : StrategyEngine} {arguments : RunArguments}
    {policy : StrategyAllocationPolicy} (attached : engine.allocationPolicy = some policy) :
    engine.NamesRight arguments ↔
      numberedCandidates (engine.journal arguments) = [] ∨
        engine.Completes arguments ∧
          Unambiguous policy arguments (numberedCandidates (engine.journal arguments)) := by
  by_cases passed : (engine.journal arguments).failure = none
  · have each := @reported_perm_iff policy arguments
      (numberedCandidates (engine.journal arguments))
    rw [← admissionReports_of_passed attached passed, worked_iff_judgeable] at each
    constructor
    · intro right
      obtain ⟨matched, alone⟩ := foundRight_all_iff.mp
        ((own_iff attached passed right.each).mp right.own)
      exact .inr ⟨completes_iff.mpr passed, each.mp right.each, matched, alone⟩
    · intro condition
      have clear : Unambiguous policy arguments
          (numberedCandidates (engine.journal arguments)) := by
        cases condition with
        | inl none =>
          rw [none]
          exact ⟨fun _ member => (nomatch member), fun _ member => (nomatch member),
            fun _ member => (nomatch member)⟩
        | inr both => exact both.2
      have whole := each.mpr clear.judged
      exact ⟨whole, (own_iff attached passed whole).mpr
        (foundRight_all_iff.mpr ⟨clear.matched, clear.alone⟩)⟩
  · obtain ⟨noReports, noEvents⟩ := admissionReports_of_failed passed
    constructor
    · intro right
      have each := right.each
      rw [noReports] at each
      exact .inl (List.nil_perm.mp each)
    · intro condition
      cases condition with
      | inl none => exact ⟨by rw [none, noReports]; rfl, by rw [noReports, noEvents]; rfl⟩
      | inr both => exact absurd (completes_iff.mp both.1) passed

end Runs

/-! ## One strategy, several signals -/

def passThroughPolicy : StrategyAllocationPolicy where
  mode := "pass_through"
  tieBreakRules := []
  selectionMode := "select_one"
  maxSelectedPerSymbol := none
  globalConfig := []
  strategyConfig := Dict.empty

/-- A strategy that emits the signals, each a symbol and a direction. -/
def signalsPlugin (metadata : StrategyMetadata) (signals : List (String × String)) : Plugin where
  metadata
  generateSignals _ :=
    .signals (signals.map fun signal =>
      { symbol := .str signal.1, direction := .str signal.2 })
  evaluate _ := .signals []

def signalsEngine (policy : StrategyAllocationPolicy) (signals : List (String × String)) :
    StrategyEngine where
  plugins strategyId := (yenManifest.strategies.get? strategyId).map fun entry =>
    signalsPlugin entry.metadata.toRuntime signals
  manifest := yenManifest
  allocationPolicy := some policy
  candidateTrade strategyId signal _ :=
    .ok (some {
      candidateId := strategyId ++ ":" ++ signal.direction.text
      symbol := signalSymbol signal
      side := signalDirection signal })

/-- Signals whose symbols come in another order in the allocation. -/
def threeSignals : List (String × String) :=
  [("USDJPY", "long"), ("EURUSD", "short"), ("AUDUSD", "long")]

def threeSignalsEngine : StrategyEngine :=
  signalsEngine StrategyAllocationPolicy.oneMajorPolicy threeSignals

theorem namesRight_three : threeSignalsEngine.NamesRight majorArguments := by
  have passing : StrategyAllocationPolicy.oneMajorPolicy.isPassThrough = false := by decide
  refine (namesRight_iff rfl).mpr (.inr ⟨completes_iff.mpr (by decide +kernel), ?_⟩)
  have evaluated : ∀ candidate ∈ numberedCandidates (threeSignalsEngine.journal majorArguments),
      (StrategyAllocationPolicy.oneMajorPolicy.evaluateCandidate
        (allocationContext majorArguments (batchSymbol candidate))
          candidate).toOption.isSome = true := by decide +kernel
  have apart : ((numberedCandidates (threeSignalsEngine.journal majorArguments)).map
      batchSymbol).Nodup := by decide +kernel
  refine ⟨fun candidate member => ⟨requireFloats_ok_iff.mp rfl, ?_, ?_, ?_⟩, by decide +kernel, ?_⟩
  · exact fun through => nomatch passing.symm.trans through
  · exact fun _ => StrategyAllocationPolicy.evaluateCandidate_ok_iff.mp
      (exists_ok _ (evaluated candidate member))
  · exact fun _ _ turned => absurd turned (by decide +kernel)
  · intro candidate member other present same _
    rw [List.inj_on_of_nodup_map apart present member same]
    exact ⟨rfl, rfl⟩

def bothDirections : List (String × String) := [("USDJPY", "long"), ("USDJPY", "short")]

/-- Both events name the trade of the second signal. -/
theorem first_trade_not_named :
    ((signalsEngine passThroughPolicy bothDirections).admissionEvents majorArguments).map
        (fun event => event.candidateTrade.map (·.candidateId)) =
      [some "m1:short", some "m1:short"] ∧
    ¬ (signalsEngine passThroughPolicy bothDirections).NamesRight majorArguments := by
  have named : ((signalsEngine passThroughPolicy bothDirections).admissionEvents
      majorArguments).map (fun event => event.candidateTrade.map (·.candidateId)) =
        [some "m1:short", some "m1:short"] := by decide +kernel
  refine ⟨named, fun right => ?_⟩
  rw [right.own] at named
  exact absurd named (by decide +kernel)

end StrategyEngine

end FxToushi.Strategies
