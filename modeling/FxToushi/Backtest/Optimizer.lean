import FxToushi.Py.ExtendedRanges
import FxToushi.Research.Sweeps

namespace FxToushi.Backtest.Optimizer

open Data Py

/-! # Searching for parameters

Every combination of a grid, or so many random ones, are evaluated, and the results are
ranked by their scores.
-/

abbrev Params := List (String × Rat)

abbrev Metrics := List (String × Extended)

/-- What a key of the search space may be; a tuple of two is a range in a random search. -/
structure SearchValues where
  isTuple : Bool
  items : List Rat
deriving Repr, DecidableEq

abbrev SearchSpace := Dict String SearchValues

inductive OptimizationError where
  | emptySearchSpace
  | emptyFor (key : String)
  | notMapping
  | raised (error : PyError)
deriving Repr, DecidableEq

structure OptimizationResult where
  parameters : Params
  score : Extended
  metrics : Metrics
  constraintsOk : Bool
deriving Repr, DecidableEq

structure OptimizationReport where
  searchSpace : SearchSpace
  results : List OptimizationResult
  generatedAt : String

/-- What the caller gives; an evaluator may return something that is no mapping. -/
structure Setup where
  evaluator : Params → Except PyError (Option Metrics)
  objective : Option (Params → Metrics → Except PyError Extended) := none
  constraints : List (Params → Metrics → Except PyError Bool) := []
  maxDrawdownThreshold : Option Extended := none

/-- The draws of a `Random`, each for a key of a sample. -/
structure Rng where
  uniform : Nat → String → Rat → Rat → Rat
  choice : Nat → String → List Rat → Rat

/-- `compute_hybrid_score(…, enabled=True).composite`. -/
def composite (alpha decay stability : Extended) : Extended :=
  (alpha * .finite (1 / 2) + decay * .finite (3 / 10) + stability * .finite (1 / 5)).round 4

def defaultObjective (metrics : Metrics) : Extended :=
  let value := fun name => (metrics.lookup name).getD .nan
  let given := fun names : List String => names.all fun name => (metrics.lookup name).isSome
  if given ["hybrid_score"] then value "hybrid_score"
  else if given ["alpha", "decay", "stability"] then
    composite (value "alpha") (value "decay") (value "stability")
  else if given ["pf", "sharpe", "stability"] then
    composite (value "pf") (value "sharpe") (value "stability")
  else 0

/-- `allOf` stops at the first one that does not hold. -/
def allOf (params : Params) (metrics : Metrics) :
    List (Params → Metrics → Except PyError Bool) → Except PyError Bool
  | [] => .ok true
  | constraint :: rest => do
      if ← constraint params metrics then allOf params metrics rest else return false

namespace Setup

variable (setup : Setup)

def scoreOf (params : Params) (metrics : Metrics) : Except PyError Extended :=
  match setup.objective with
  | some objective => objective params metrics
  | none => .ok (defaultObjective metrics)

def constraintsOk (params : Params) (metrics : Metrics) : Except PyError Bool :=
  match setup.maxDrawdownThreshold with
  | none => allOf params metrics setup.constraints
  | some threshold =>
    match metrics.lookup "max_drawdown" with
    | none => .ok false
    | some drawdown =>
      if threshold < drawdown then .ok false else allOf params metrics setup.constraints

def lift {Result : Type} : Except PyError Result → Except OptimizationError Result
  | .ok result => .ok result
  | .error error => .error (.raised error)

def evaluateCandidate (params : Params) : Except OptimizationError OptimizationResult := do
  match ← lift (setup.evaluator params) with
  | none => .error .notMapping
  | some metrics =>
    let score ← lift (setup.scoreOf params metrics)
    let constraintsOk ← lift (setup.constraintsOk params metrics)
    return {
      parameters := params
      score := if constraintsOk then score else .infinite true
      metrics
      constraintsOk }

end Setup

def coerceGrid (grid : SearchSpace) : Except OptimizationError SearchSpace :=
  match grid.entries.find? (fun entry => entry.2.items.isEmpty) with
  | some entry => .error (.emptyFor entry.1)
  | none => .ok grid

def gridCandidates (space : SearchSpace) : List Params :=
  (choices (space.entries.map fun entry => entry.2.items)).map fun combo => space.keys.zip combo

def sampleValue (rng : Rng) (sample : Nat) (key : String) (values : SearchValues) : Rat :=
  match values.isTuple, values.items with
  | true, [first, second] => rng.uniform sample key first second
  | _, items => rng.choice sample key items

def randomCandidates (rng : Rng) (count : Nat) (space : SearchSpace) : List Params :=
  (List.range count).map fun sample =>
    space.entries.map fun entry => (entry.1, sampleValue rng sample entry.1 entry.2)

/-- Zero samples, like none, ask for the whole grid. -/
def candidates (rng : Rng) (randomSamples : Option Int) (space : SearchSpace) : List Params :=
  match randomSamples with
  | none => gridCandidates space
  | some count =>
    if count = 0 then gridCandidates space else randomCandidates rng count.toNat space

/-- The order of `sort(key=score, reverse=True)`.  A score that is no number is in no order with
another; it is put last here. -/
def scoresAtLeast (left right : OptimizationResult) : Bool :=
  right.score.isNan || decide (right.score ≤ left.score)

def optimise (setup : Setup) (rng : Rng) (randomSamples : Option Int) (now : UtcTime)
    (grid : SearchSpace) : Except OptimizationError OptimizationReport := do
  let searchSpace ← coerceGrid grid
  if searchSpace.entries.isEmpty then .error .emptySearchSpace
  else
    let results ← tryMap setup.evaluateCandidate (candidates rng randomSamples searchSpace)
    return {
      searchSpace
      results := results.mergeSort scoresAtLeast
      generatedAt := now.wholeSecond.isoText }

/-! ## Ranking -/

section Ranking

theorem scoresAtLeast_total (left right : OptimizationResult) :
    (scoresAtLeast left right || scoresAtLeast right left) = true := by
  unfold scoresAtLeast
  cases leftNan : left.score.isNan with
  | true => simp
  | false =>
    cases rightNan : right.score.isNan with
    | true => simp
    | false =>
      by_cases below : right.score ≤ left.score
      · simp [below]
      · have above : left.score ≤ right.score := by
          by_contra never
          rw [← Extended.not_lt_iff rightNan leftNan, not_not] at never
          exact below (Extended.le_of_lt never)
        simp [above]

theorem scoresAtLeast_trans (first second third : OptimizationResult)
    (upper : scoresAtLeast first second = true) (lower : scoresAtLeast second third = true) :
    scoresAtLeast first third = true := by
  unfold scoresAtLeast at *
  rw [Bool.or_eq_true, decide_eq_true_eq] at *
  rcases lower with nan | lower
  · exact .inl nan
  · rcases upper with nan | upper
    · cases score : second.score with
      | nan => exact absurd (score ▸ lower) Extended.not_le_nan
      | infinite negative => rw [score] at nan; cases nan
      | finite value => rw [score] at nan; cases nan
    · exact .inr (Extended.le_trans lower upper)

variable {setup : Setup} {rng : Rng} {randomSamples : Option Int} {now : UtcTime}
  {grid : SearchSpace} {report : OptimizationReport}

theorem lift_ok {Result : Type} {outcome : Except PyError Result} {result : Result}
    (lifted : Setup.lift outcome = .ok result) : outcome = .ok result := by
  cases outcome with
  | ok value => exact congrArg _ (Except.ok.inj lifted)
  | error error => cases lifted

/-- A candidate that does not meet the constraints scores nothing. -/
structure Evaluated (setup : Setup) (params : Params) (result : OptimizationResult) : Prop where
  parameters : result.parameters = params
  score : result.constraintsOk = true → setup.scoreOf params result.metrics = .ok result.score
  infeasible : result.constraintsOk = false → result.score = .infinite true

theorem evaluated_of_ok {params : Params} {result : OptimizationResult}
    (returned : setup.evaluateCandidate params = .ok result) : Evaluated setup params result := by
  obtain ⟨metrics, -, returned⟩ := bind_ok returned
  cases metrics with
  | none => cases returned
  | some metrics =>
    obtain ⟨score, scored, returned⟩ := bind_ok returned
    obtain ⟨constraintsOk, -, returned⟩ := bind_ok returned
    obtain rfl := Except.ok.inj returned
    refine ⟨rfl, fun met => ?_, fun unmet => if_neg (by simpa using unmet)⟩
    rw [lift_ok scored]
    exact congrArg _ (if_pos met).symm

theorem optimise_ok (returned : optimise setup rng randomSamples now grid = .ok report) :
    grid.entries.all (fun entry => !entry.2.items.isEmpty) = true ∧ grid.entries ≠ [] ∧
      report.searchSpace = grid ∧
        ∃ evaluated, tryMap setup.evaluateCandidate (candidates rng randomSamples grid) =
          .ok evaluated ∧ report.results = evaluated.mergeSort scoresAtLeast := by
  obtain ⟨space, coerced, returned⟩ := bind_ok returned
  unfold coerceGrid at coerced
  split at coerced
  · cases coerced
  · rename_i nonempty
    obtain rfl := Except.ok.inj coerced
    split at returned
    · cases returned
    · rename_i some_key
      obtain ⟨evaluated, mapped, returned⟩ := bind_ok returned
      obtain rfl := Except.ok.inj returned
      refine ⟨?_, fun empty => some_key (by simp [empty]), rfl, evaluated, mapped, rfl⟩
      rw [List.find?_eq_none] at nonempty
      exact List.all_eq_true.mpr fun entry member => by simpa using nonempty entry member

/-- What the score of a feasible candidate is read from is a number. -/
def Numbers (setup : Setup) (candidates : List Params) : Prop :=
  ∀ params ∈ candidates, ∀ metrics score, setup.evaluator params = .ok (some metrics) →
    setup.scoreOf params metrics = .ok score → setup.constraintsOk params metrics = .ok true →
      score.isNan = false

theorem number_of_evaluated {setup : Setup} {tried : List Params} {params : Params}
    {result : OptimizationResult} (numbers : Numbers setup tried) (member : params ∈ tried)
    (returned : setup.evaluateCandidate params = .ok result) : result.score.isNan = false := by
  obtain ⟨metrics, evaluated, returned⟩ := bind_ok returned
  cases metrics with
  | none => cases returned
  | some metrics =>
    obtain ⟨score, scored, returned⟩ := bind_ok returned
    obtain ⟨met, checked, returned⟩ := bind_ok returned
    obtain rfl := Except.ok.inj returned
    cases met with
    | true =>
      exact numbers params member metrics score (lift_ok evaluated) (lift_ok scored)
        (lift_ok checked)
    | false => rfl

/-- Results of one score are in the order in which they were tried. -/
theorem filter_mergeSort (evaluated : List OptimizationResult) (score : Extended) :
    (evaluated.mergeSort scoresAtLeast).filter (·.score = score) =
      evaluated.filter (·.score = score) := by
  have alike : (evaluated.filter (·.score = score)).Pairwise
      fun first second => scoresAtLeast first second = true := by
    refine List.pairwise_of_forall_mem_list fun first inFirst second inSecond => ?_
    have firstScore := of_decide_eq_true (List.mem_filter.mp inFirst).2
    have secondScore := of_decide_eq_true (List.mem_filter.mp inSecond).2
    rw [scoresAtLeast, firstScore, secondScore]
    cases score with
    | nan => rfl
    | finite value =>
      exact Bool.or_eq_true_iff.mpr (.inr (decide_eq_true (Extended.finite_le_finite.mpr le_rfl)))
    | infinite negative => cases negative <;> rfl
  have kept := (List.sublist_mergeSort scoresAtLeast_trans scoresAtLeast_total alike
    List.filter_sublist).filter (·.score = score)
  rw [List.filter_filter] at kept
  simp only [Bool.and_self] at kept
  exact (kept.eq_of_length
    ((List.mergeSort_perm evaluated scoresAtLeast).filter _).length_eq.symm).symm

/-- The results are the candidates, each once, the best first and those of one score in the order
in which they were tried; one that does not meet the constraints scores nothing, and so does
whatever comes after it. -/
theorem optimise_ranks (numbers : Numbers setup (candidates rng randomSamples grid))
    (returned : optimise setup rng randomSamples now grid = .ok report) :
    ∃ evaluated, tryMap setup.evaluateCandidate (candidates rng randomSamples grid) =
      .ok evaluated ∧
      report.results.Perm evaluated ∧
        report.results.Pairwise (fun better worse => worse.score ≤ better.score ∧
          (better.constraintsOk = false → worse.score = .infinite true)) ∧
            (∀ result ∈ report.results, result.constraintsOk = false →
              result.score = .infinite true) ∧
                ∀ score, report.results.filter (·.score = score) =
                  evaluated.filter (·.score = score) := by
  obtain ⟨-, -, -, evaluated, mapped, ranked⟩ := optimise_ok returned
  rw [ranked]
  have perm := List.mergeSort_perm evaluated scoresAtLeast
  have facts : ∀ result ∈ evaluated.mergeSort scoresAtLeast, result.score.isNan = false ∧
      (result.constraintsOk = false → result.score = .infinite true) := by
    intro result member
    obtain ⟨params, tried, evaluation⟩ := (mem_of_tryMap mapped).mp (perm.mem_iff.mp member)
    exact ⟨number_of_evaluated numbers tried evaluation, (evaluated_of_ok evaluation).infeasible⟩
  refine ⟨evaluated, mapped, perm, ?_, fun result member => (facts result member).2,
    filter_mergeSort evaluated⟩
  have sorted := List.pairwise_mergeSort scoresAtLeast_trans scoresAtLeast_total evaluated
  refine sorted.imp_of_mem fun inBetter inWorse order => ?_
  rw [scoresAtLeast, (facts _ inWorse).1, Bool.false_or, decide_eq_true_eq] at order
  refine ⟨order, fun unmet => ?_⟩
  rw [(facts _ inBetter).2 unmet] at order
  exact Extended.eq_infinite_of_ge order

end Ranking

/-- The slower of the two lengths is out of bounds. -/
def fastFirst : Setup where
  evaluator := fun params => .ok (some
    [("hybrid_score", .finite ((params.lookup "fast").getD 0)),
      ("max_drawdown", .finite ((params.lookup "slow").getD 0))])
  maxDrawdownThreshold := some (.finite 3)

def lengths : SearchSpace where
  entries := [("fast", ⟨false, [1, 2]⟩), ("slow", ⟨true, [2, 4]⟩)]
  distinct := by decide

def firstDraw : Rng where
  uniform := fun _ _ first _ => first
  choice := fun _ _ items => items.headD 0

def lengthResult (fast slow : Rat) (score : Extended) (constraintsOk : Bool) :
    OptimizationResult :=
  ⟨[("fast", fast), ("slow", slow)], score,
    [("hybrid_score", .finite fast), ("max_drawdown", .finite slow)], constraintsOk⟩

def lengthResults : List OptimizationResult :=
  [lengthResult 1 2 (.finite 1) true, lengthResult 1 4 (.infinite true) false,
    lengthResult 2 2 (.finite 2) true, lengthResult 2 4 (.infinite true) false]

theorem optimise_lengths :
    (lengthResults.mergeSort scoresAtLeast).filter (·.score = .infinite true) =
        [lengthResult 1 4 (.infinite true) false, lengthResult 2 4 (.infinite true) false] ∧
      (lengthResults.mergeSort scoresAtLeast).Pairwise fun better worse =>
        worse.score ≤ better.score ∧
          (better.constraintsOk = false → worse.score = .infinite true) := by
  have returned : optimise fastFirst firstDraw none { micros := 0, covered := by decide } lengths =
      .ok ⟨lengths, lengthResults.mergeSort scoresAtLeast,
        (UtcTime.wholeSecond { micros := 0, covered := by decide }).isoText⟩ := rfl
  have numbers : Numbers fastFirst (candidates firstDraw none lengths) := by
    intro params member metrics score evaluated scored met
    obtain rfl := Option.some.inj (Except.ok.inj evaluated)
    obtain rfl := Except.ok.inj scored
    rfl
  obtain ⟨evaluated, mapped, -, ranked, -, inOrder⟩ := optimise_ranks numbers returned
  have tried : evaluated = lengthResults := (Except.ok.inj mapped).symm
  rw [inOrder, tried]
  exact ⟨by decide +kernel, ranked⟩

/-! ## Candidates -/

/-- What a random draw promises. -/
structure Rng.Fair (rng : Rng) : Prop where
  uniform : ∀ sample key first second,
    min first second ≤ rng.uniform sample key first second ∧
      rng.uniform sample key first second ≤ max first second
  choice : ∀ sample key items, items ≠ [] → rng.choice sample key items ∈ items

/-- One of the values, or one between the two that are given as a range. -/
def Allowed (values : SearchValues) (value : Rat) : Prop :=
  value ∈ values.items ∨ values.isTuple = true ∧ ∃ first second, values.items = [first, second] ∧
    min first second ≤ value ∧ value ≤ max first second

def Within (space : SearchSpace) (params : Params) : Prop :=
  List.Forall₂ (fun param entry => param.1 = entry.1 ∧ Allowed entry.2 param.2) params space.entries

section Candidates

variable {setup : Setup} {rng : Rng} {randomSamples : Option Int} {now : UtcTime}
  {space : SearchSpace} {report : OptimizationReport}

theorem zip_forall₂ {entries : List (String × SearchValues)} {combo : List Rat}
    (chosen : List.Forall₂ (fun value values => value ∈ values) combo
      (entries.map fun entry => entry.2.items)) :
    List.Forall₂ (fun param entry => param.1 = entry.1 ∧ param.2 ∈ entry.2.items)
      ((entries.map Prod.fst).zip combo) entries := by
  induction entries generalizing combo with
  | nil => exact .nil
  | cons entry rest ih =>
    obtain ⟨value, later, member, chosenLater, rfl⟩ := List.forall₂_cons_right_iff.mp chosen
    exact .cons ⟨rfl, member⟩ (ih chosenLater)

theorem within_grid {params : Params} (member : params ∈ gridCandidates space) :
    Within space params := by
  obtain ⟨combo, chosen, rfl⟩ := List.mem_map.mp member
  exact (zip_forall₂ (mem_choices_iff.mp chosen)).imp fun _ _ found => ⟨found.1, .inl found.2⟩

theorem allowed_sampleValue (fair : rng.Fair) (sample : Nat) (key : String) {values : SearchValues}
    (nonempty : values.items ≠ []) : Allowed values (sampleValue rng sample key values) := by
  unfold sampleValue
  split
  · rename_i first second range pair
    have between := fair.uniform sample key first second
    exact .inr ⟨range, first, second, pair, between.1, between.2⟩
  · exact .inl (fair.choice sample key _ nonempty)

theorem within_random (fair : rng.Fair)
    (nonempty : space.entries.all (fun entry => !entry.2.items.isEmpty) = true) {count : Nat}
    {params : Params} (member : params ∈ randomCandidates rng count space) :
    Within space params := by
  obtain ⟨sample, -, rfl⟩ := List.mem_map.mp member
  rw [Within, List.forall₂_map_left_iff]
  refine List.forall₂_same.mpr fun entry inSpace => ⟨rfl, ?_⟩
  refine allowed_sampleValue fair sample entry.1 fun empty => ?_
  have checked := List.all_eq_true.mp nonempty entry inSpace
  simp [empty] at checked

/-- Whatever is drawn, every result is for parameters of the search space. -/
theorem results_within (fair : rng.Fair)
    (returned : optimise setup rng randomSamples now space = .ok report) :
    ∀ result ∈ report.results, Within report.searchSpace result.parameters := by
  obtain ⟨nonempty, -, same, evaluated, mapped, ranked⟩ := optimise_ok returned
  rw [same, ranked]
  intro result member
  obtain ⟨params, candidate, evaluation⟩ :=
    (mem_of_tryMap mapped).mp ((List.mergeSort_perm _ _).mem_iff.mp member)
  rw [(evaluated_of_ok evaluation).parameters]
  unfold candidates at candidate
  split at candidate
  · exact within_grid candidate
  · split at candidate
    · exact within_grid candidate
    · exact within_random fair nonempty candidate

/-- The sweep of a grid has the parameters that the optimiser tries, in the same order. -/
theorem expandGrid_eq_candidates (encode : Rat → Value) (space : SearchSpace) :
    Research.Sweeps.expandGrid
        (space.entries.map fun entry => (entry.1, .list (entry.2.items.map encode))) =
      (gridCandidates space).map fun params =>
        params.map fun param => (param.1, encode param.2) := by
  have keys : (space.entries.map fun entry =>
      (entry.1, Value.list (entry.2.items.map encode))).map Prod.fst = space.keys := by
    rw [List.map_map]
    rfl
  have values : (space.entries.map fun entry =>
        (entry.1, Value.list (entry.2.items.map encode))).map
          (fun entry => Research.Sweeps.valuesOf entry.2) =
      (space.entries.map fun entry => entry.2.items).map fun items => items.map encode := by
    rw [List.map_map, List.map_map]
    rfl
  rw [Research.Sweeps.expandGrid_eq (keys ▸ space.distinct), keys, values, choices_map,
    gridCandidates, List.map_map, List.map_map]
  refine List.map_congr_left fun combo _ => ?_
  simp [List.zip_map_right, Prod.map]

end Candidates

theorem fair_firstDraw : firstDraw.Fair where
  uniform := fun _ _ _ _ => ⟨min_le_left _ _, le_max_left _ _⟩
  choice := fun _ _ items nonempty => by
    cases items with
    | nil => exact absurd rfl nonempty
    | cons item rest => exact List.mem_cons_self

def sampled : OptimizationResult := lengthResult 1 2 (.finite 1) true

theorem results_sampled : Within lengths sampled.parameters := by
  have returned : optimise fastFirst firstDraw (some 1) { micros := 0, covered := by decide }
      lengths = .ok ⟨lengths, [sampled].mergeSort scoresAtLeast,
        (UtcTime.wholeSecond { micros := 0, covered := by decide }).isoText⟩ := rfl
  refine results_within fair_firstDraw returned sampled ?_
  rw [List.mergeSort_singleton]
  exact List.mem_cons_self

end FxToushi.Backtest.Optimizer
