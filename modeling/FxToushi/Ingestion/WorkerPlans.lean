import FxToushi.Ingestion.WorkerFetch

namespace FxToushi.Ingestion

open Data Py

/-! # Worker plans and stages

What `evaluate` and `worker_plan` of the rate limit guard decide.  The workers come
of three roundings, each of which is off by one part in 2 to the 53 at most.
-/

/-! ## Rounded budgets -/

section Budget

variable {tokens interval : Rat}

theorem nearest_one : nearest 1 = 1 := by decide +kernel

theorem one_le_nearest {value : Rat} (large : 1 ≤ value) : 1 ≤ nearest value := by
  have rounded := nearest_mono zero_lt_one large
  rwa [nearest_one] at rounded

theorem nearest_within {value : Rat} (normal : 2 ^ (-1022 : Int) ≤ value) :
    value * (1 - 1 / 2 ^ 53) ≤ nearest value ∧ nearest value ≤ value * (1 + 1 / 2 ^ 53) := by
  have near := abs_le.mp (nearest_near ((two_zpow_pos _).trans_le normal) normal)
  constructor
  · linarith [near.1]
  · linarith [near.2]

theorem two_zpow_le_one : (2 : Rat) ^ (-1022 : Int) ≤ 1 :=
  zpow_le_one_of_nonpos₀ (by decide) (by decide)

theorem slots_normal (one : 1 ≤ interval) (bounded : interval ≤ 2 ^ 1024) :
    2 ^ (-1022 : Int) ≤ 60 / interval := by
  rw [le_div_iff₀ (by linarith)]
  calc (2 : Rat) ^ (-1022 : Int) * interval ≤ 2 ^ (-1022 : Int) * 2 ^ 1024 :=
        mul_le_mul_of_nonneg_left bounded (two_zpow_pos _).le
    _ = 2 ^ (2 : Int) := by rw [← zpow_natCast, ← zpow_add₀ (by decide)]; rfl
    _ ≤ 60 := by norm_num

theorem slots_pos (one : 1 ≤ interval) (bounded : interval ≤ 2 ^ 1024) :
    0 < nearest (60 / interval) := by
  have normal := slots_normal one bounded
  have positive := (two_zpow_pos _).trans_le normal
  exact lt_of_lt_of_le (mul_pos positive (by norm_num)) (nearest_within normal).1

theorem one_le_quotient (one : 1 ≤ interval) (bounded : interval ≤ 2 ^ 1024)
    (fits : 60 / interval ≤ tokens) : 1 ≤ nearest tokens / nearest (60 / interval) := by
  rw [one_le_div (slots_pos one bounded)]
  exact nearest_mono ((two_zpow_pos _).trans_le (slots_normal one bounded)) fits

theorem quotient_near (one : 1 ≤ interval) (bounded : interval ≤ 2 ^ 1024) (enough : 1 ≤ tokens) :
    nearest tokens / nearest (60 / interval) * (60 / interval) * (1 - 1 / 2 ^ 53) ≤
      tokens * (1 + 1 / 2 ^ 53) := by
  have slots := slots_pos one bounded
  have rounded := (nearest_within (slots_normal one bounded)).1
  calc nearest tokens / nearest (60 / interval) * (60 / interval) * (1 - 1 / 2 ^ 53)
      = nearest tokens / nearest (60 / interval) * (60 / interval * (1 - 1 / 2 ^ 53)) := by ring
    _ ≤ nearest tokens / nearest (60 / interval) * nearest (60 / interval) := by
        refine mul_le_mul_of_nonneg_left rounded (div_nonneg ?_ slots.le)
        exact zero_le_one.trans (one_le_nearest enough)
    _ = nearest tokens := div_mul_cancel₀ _ slots.ne'
    _ ≤ tokens * (1 + 1 / 2 ^ 53) := (nearest_within (two_zpow_le_one.trans enough)).2

theorem quotient_normal (one : 1 ≤ interval) (bounded : interval ≤ 2 ^ 1024) (enough : 1 ≤ tokens) :
    2 ^ (-1022 : Int) ≤ nearest tokens / nearest (60 / interval) := by
  have slots := slots_pos one bounded
  have few : nearest (60 / interval) ≤ 2 ^ (6 : Int) := by
    have widest := nearest_mono ((two_zpow_pos _).trans_le (slots_normal one bounded))
      (div_le_self (by norm_num : (0 : Rat) ≤ 60) one)
    exact widest.trans (by decide +kernel)
  rw [le_div_iff₀ slots]
  calc (2 : Rat) ^ (-1022 : Int) * nearest (60 / interval) ≤ 2 ^ (-1022 : Int) * 2 ^ (6 : Int) :=
        mul_le_mul_of_nonneg_left few (two_zpow_pos _).le
    _ = 2 ^ (-1016 : Int) := by rw [← zpow_add₀ (by decide)]; rfl
    _ ≤ 1 := zpow_le_one_of_nonpos₀ (by decide) (by decide)
    _ ≤ nearest tokens := one_le_nearest enough

theorem workers_near (one : 1 ≤ interval) (bounded : interval ≤ 2 ^ 1024) (enough : 1 ≤ tokens) :
    nearest (nearest tokens / nearest (60 / interval)) * (60 / interval) ≤
      tokens * (1 + 1 / 2 ^ 51) := by
  have rounded := (nearest_within (quotient_normal one bounded enough)).2
  have near := quotient_near one bounded enough
  have slots : 0 < 60 / interval := (two_zpow_pos _).trans_le (slots_normal one bounded)
  generalize nearest tokens / nearest (60 / interval) = quotient at *
  have spent := mul_le_mul_of_nonneg_right rounded slots.le
  have scaled := mul_le_mul_of_nonneg_right near (by norm_num : (0 : Rat) ≤ 1 + 1 / 2 ^ 53)
  generalize 60 / interval = slots at *
  nlinarith

end Budget

namespace RateLimitGuard

variable {guard : RateLimitGuard} {request : StageRequest}

/-! ## Plans -/

/-- One call a poll fits in the burst tokens of a minute. -/
def FitsOneCall (guard : RateLimitGuard) (plan : WorkerPlan) : Prop :=
  .finite 60 / plan.pollIntervalSec.greater 1 ≤ guard.burstTokens

instance (guard : RateLimitGuard) (plan : WorkerPlan) : Decidable (guard.FitsOneCall plan) :=
  inferInstanceAs (Decidable (_ ≤ guard.burstTokens))

/-- The calls of a minute cost no more than the burst tokens, but for one part in 2 to
the 51. -/
def Affords (guard : RateLimitGuard) (plan : WorkerPlan) : Prop :=
  .finite (plan.maxWorkers * 60) / plan.pollIntervalSec.greater 1 ≤
    guard.burstTokens * .finite (1 + 1 / 2 ^ 51)

theorem floatLimit_le : (floatLimit : Rat) ≤ 2 ^ (1024 : Int) := by
  have small : floatLimit ≤ 2 ^ 1024 := Nat.sub_le _ _
  exact_mod_cast small

theorem sixty_le {exponent : Nat} (large : 6 ≤ exponent) : (60 : Rat) ≤ 2 ^ exponent :=
  le_trans (by norm_num : (60 : Rat) ≤ 2 ^ 6) (pow_le_pow_right₀ (by decide) large)

theorem le_floatLimit : (2 : Rat) ^ 1023 < floatLimit := by
  have large : 2 ^ 1023 < floatLimit := by decide +kernel
  exact_mod_cast large

theorem nearest_le_limit {value : Rat} (positive : 0 < value) (small : value < floatLimit) :
    nearest value ≤ 2 ^ 1024 := by
  have size : Int.log 2 value < 1024 :=
    (Int.lt_zpow_iff_log_lt (by decide) positive).mp
      (by exact_mod_cast small.trans_le floatLimit_le)
  refine (nearest_le positive).trans ?_
  rw [← zpow_natCast]
  refine zpow_le_zpow_right₀ (by decide) ?_
  unfold lastBit
  rw [abs_of_pos positive]
  push_cast
  omega

theorem roundHalfEven_zero : roundHalfEven 0 = 0 := by simpa using roundHalfEven_intCast 0

theorem nearest_nonneg {value : Rat} (nonneg : 0 ≤ value) : 0 ≤ nearest value := by
  have unit := two_zpow_pos (lastBit value)
  have rounded := roundHalfEven_mono (div_nonneg nonneg unit.le)
  rw [roundHalfEven_zero] at rounded
  exact mul_nonneg (by exact_mod_cast rounded) unit.le

theorem nearest_nonpos {value : Rat} (nonpos : value ≤ 0) : nearest value ≤ 0 := by
  have unit := two_zpow_pos (lastBit value)
  have rounded := roundHalfEven_mono (div_nonpos_of_nonpos_of_nonneg nonpos unit.le)
  rw [roundHalfEven_zero] at rounded
  exact mul_nonpos_of_nonpos_of_nonneg (by exact_mod_cast rounded) unit.le

/-- An interval is at least three seconds long. -/
theorem pollInterval_cases (guard : RateLimitGuard) (stage : String) :
    guard.pollInterval stage = .nan ∨ guard.pollInterval stage = .infinite false ∨
      ∃ interval, guard.pollInterval stage = .finite interval ∧ 3 ≤ interval ∧
        interval ≤ 2 ^ 1024 := by
  rw [pollInterval]
  generalize (guard.pollIntervalSec.rounded -
    (Extended.finite (guard.indexOf stage * (3 / 2))).rounded) = shortened
  cases rounded : shortened.rounded with
  | nan => exact .inl rfl
  | infinite negative =>
    cases negative with
    | true => exact .inr (.inr ⟨3, rfl, le_rfl, le_trans (by norm_num) (sixty_le (by decide))⟩)
    | false => exact .inr (.inl rfl)
  | finite value =>
    rw [Extended.greater]
    split
    · exact .inr (.inr ⟨3, rfl, le_rfl, le_trans (by norm_num) (sixty_le (by decide))⟩)
    · rename_i long
      have atLeast : 3 ≤ value := not_lt.mp fun below => long (Extended.finite_lt_finite.mpr below)
      obtain ⟨exact, -, small, rfl⟩ := Extended.rounded_eq_finite rounded
      have positive : 0 < exact := by
        by_contra nonpos
        linarith [nearest_nonpos (not_lt.mp nonpos)]
      exact .inr (.inr ⟨nearest exact, rfl, atLeast,
        nearest_le_limit positive ((le_abs_self exact).trans_lt small)⟩)

section Workers

variable {tokens : Extended} {interval : Rat}

theorem greater_one (one : 1 ≤ interval) :
    Extended.greater (.finite interval) 1 = .finite interval :=
  if_neg fun below => absurd (Extended.finite_lt_finite.mp below) (not_lt.mpr one)

theorem maxConcurrent_finite (one : 1 ≤ interval) (bounded : interval ≤ 2 ^ 1024) :
    maxConcurrent tokens (.finite interval) =
      (tokens.rounded / .finite (nearest (60 / interval))).rounded.toInt := by
  have positive : 0 < 60 / interval := (two_zpow_pos _).trans_le (slots_normal one bounded)
  have small : |60 / interval| < floatLimit := by
    rw [abs_of_pos positive]
    calc 60 / interval ≤ 60 := div_le_self (by norm_num) one
      _ ≤ 2 ^ 1023 := sixty_le (by decide)
      _ < floatLimit := le_floatLimit
  have slots : (.finite 60 / .finite interval : Extended).rounded =
    .finite (nearest (60 / interval)) := Extended.rounded_of_lt small
  rw [maxConcurrent, greater_one one, slots]
  exact if_neg fun none => (slots_pos one bounded).ne' (Extended.finite.inj none)

theorem toInt_ok {number : Extended} {whole : Int} (returned : number.toInt = .ok whole) :
    ∃ value, number = .finite value ∧ whole = truncate value := by
  cases number with
  | finite value => exact ⟨value, rfl, (Except.ok.inj returned).symm⟩
  | infinite negative => cases returned
  | nan => cases returned

theorem maxConcurrent_ok {workers : Int} (one : 1 ≤ interval) (bounded : interval ≤ 2 ^ 1024)
    (returned : maxConcurrent tokens (.finite interval) = .ok workers) :
    ∃ exact, tokens = .finite exact ∧
      workers = truncate (nearest (nearest exact / nearest (60 / interval))) := by
  rw [maxConcurrent_finite one bounded] at returned
  obtain ⟨value, finite, rfl⟩ := toInt_ok returned
  obtain ⟨quotient, divided, -, rfl⟩ := Extended.rounded_eq_finite finite
  cases rounded : tokens.rounded with
  | nan =>
    rw [rounded] at divided
    cases divided
  | infinite negative =>
    rw [rounded] at divided
    cases divided
  | finite value =>
    rw [rounded] at divided
    obtain ⟨exact, rfl, -, rfl⟩ := Extended.rounded_eq_finite rounded
    exact ⟨exact, rfl, by rw [← Extended.finite.inj divided]⟩

theorem maxConcurrent_nan (workers : Int) : maxConcurrent tokens .nan ≠ .ok workers := by
  intro returned
  have undivided : maxConcurrent tokens .nan = (tokens.rounded / .nan).rounded.toInt := rfl
  have nothing : tokens.rounded / .nan = .nan := by
    cases tokens.rounded <;> rfl
  rw [undivided, nothing] at returned
  cases returned

theorem maxConcurrent_infinite : maxConcurrent tokens (.infinite false) = .ok 1 := by
  have slots : (.finite 60 / Extended.greater (.infinite false) 1 : Extended).rounded = 0 := by
    decide +kernel
  rw [maxConcurrent, slots]
  rfl

/-- Where the calls can be counted in floats, the workers can. -/
theorem maxConcurrent_returns (enough : 1 ≤ tokens) (three : 3 ≤ interval)
    (bounded : interval ≤ 2 ^ 1024) (countable : tokens * .finite interval ≤ .finite (2 ^ 1023)) :
    ∃ workers, maxConcurrent tokens (.finite interval) = .ok workers := by
  have one : 1 ≤ interval := by linarith
  cases tokens with
  | nan => exact absurd enough Extended.not_le_nan
  | infinite negative =>
    obtain rfl := Extended.finite_le_infinite.mp enough
    have product : Extended.infinite false * .finite interval = .infinite false := by
      have positive : ¬ interval = 0 := by linarith
      have above : ¬ interval < 0 := by linarith
      simp [HMul.hMul, Mul.mul, Extended.mul, positive, above]
    rw [product] at countable
    cases countable
  | finite exact =>
    have atLeast : 1 ≤ exact := Extended.finite_le_finite.mp enough
    have product : exact * interval ≤ 2 ^ 1023 := Extended.finite_le_finite.mp countable
    have small : |exact| < floatLimit := by
      rw [abs_of_pos (by linarith)]
      refine lt_of_le_of_lt ?_ le_floatLimit
      exact (le_mul_of_one_le_right (by linarith) one).trans product
    have near := quotient_near one bounded atLeast
    have normal := quotient_normal one bounded atLeast
    rw [maxConcurrent_finite one bounded, Extended.rounded_of_lt small]
    have divided : (.finite (nearest exact) / .finite (nearest (60 / interval)) : Extended) =
      .finite (nearest exact / nearest (60 / interval)) := rfl
    rw [divided, Extended.rounded_of_lt]
    · exact ⟨_, rfl⟩
    · generalize nearest exact / nearest (60 / interval) = quotient at *
      rw [abs_of_pos ((two_zpow_pos _).trans_le normal)]
      refine lt_of_le_of_lt ?_ le_floatLimit
      rw [mul_div_assoc', div_mul_eq_mul_div, div_le_iff₀ (by linarith)] at near
      generalize (2 : Rat) ^ 1023 = limit at product ⊢
      have spent := mul_le_mul_of_nonneg_right product (by norm_num : (0 : Rat) ≤ 1 + 1 / 2 ^ 53)
      have positive := (two_zpow_pos _).trans_le normal
      linarith

end Workers

theorem workers_exist {stage : String} (enough : 1 ≤ guard.burstTokens)
    (countable : guard.burstTokens * guard.pollInterval stage ≤ .finite (2 ^ 1023)) :
    ∃ workers, maxConcurrent guard.burstTokens (guard.pollInterval stage) = .ok workers := by
  obtain never | endless | ⟨interval, known, three, bounded⟩ := guard.pollInterval_cases stage
  · rw [never] at countable
    have product : guard.burstTokens * .nan = .nan := by
      cases guard.burstTokens <;> rfl
    rw [product] at countable
    exact absurd countable Extended.not_nan_le
  · exact ⟨1, by rw [endless, maxConcurrent_infinite]⟩
  · rw [known] at countable ⊢
    exact maxConcurrent_returns enough three bounded countable

/-- Where one call a poll fits a plan has a worker, and its workers cost hardly more than
the burst tokens. -/
theorem workerPlan_within {plan : WorkerPlan} (enough : 1 ≤ guard.burstTokens) (provider : String)
    (stage : Option String) (made : guard.workerPlan provider stage = .ok plan) :
    (guard.FitsOneCall plan → 1 ≤ plan.maxWorkers) ∧ guard.Affords plan := by
  obtain ⟨workers, counted, built⟩ := bind_ok made
  obtain rfl := Except.ok.inj built
  rw [FitsOneCall, Affords]
  obtain never | endless | ⟨interval, known, three, bounded⟩ :=
    guard.pollInterval_cases (guard.stageOr stage)
  · rw [never] at counted
    exact absurd counted (maxConcurrent_nan workers)
  · rw [endless, maxConcurrent_infinite] at counted
    obtain rfl := Except.ok.inj counted
    refine ⟨fun _ => le_rfl, ?_⟩
    dsimp only
    rw [endless]
    cases burst : guard.burstTokens with
    | nan =>
      rw [burst] at enough
      exact absurd enough Extended.not_le_nan
    | infinite negative =>
      rw [burst] at enough
      obtain rfl := Extended.finite_le_infinite.mp enough
      decide +kernel
    | finite tokens =>
      rw [burst] at enough
      have atLeast : 1 ≤ tokens := Extended.finite_le_finite.mp enough
      exact Extended.finite_le_finite.mpr (by positivity)
  · have one : 1 ≤ interval := by linarith
    rw [known] at counted
    obtain ⟨tokens, finite, rfl⟩ := maxConcurrent_ok one bounded counted
    dsimp only
    rw [known, greater_one one, finite]
    rw [finite] at enough
    have atLeast : 1 ≤ tokens := Extended.finite_le_finite.mp enough
    have near := workers_near one bounded atLeast
    have positive := (two_zpow_pos _).trans_le (quotient_normal one bounded atLeast)
    have slots : 0 < 60 / interval := (two_zpow_pos _).trans_le (slots_normal one bounded)
    constructor
    · intro fits
      have quotient := one_le_nearest
        (one_le_quotient one bounded (Extended.finite_le_finite.mp fits))
      generalize nearest (nearest tokens / nearest (60 / interval)) = count at quotient ⊢
      have whole : 1 ≤ count.floor := Rat.le_floor_iff.mpr (by exact_mod_cast quotient)
      rw [truncate, if_pos (by linarith)]
      omega
    · refine Extended.finite_le_finite.mpr ?_
      have counted := nearest_nonneg positive.le
      generalize nearest (nearest tokens / nearest (60 / interval)) = count at near counted ⊢
      have workers : ((truncate count).toNat : Rat) ≤ count := by
        have nonneg : 0 ≤ count.floor := Rat.le_floor_iff.mpr (by exact_mod_cast counted)
        have same : ((count.floor.toNat : Int) : Rat) = count.floor := by
          rw [Int.toNat_of_nonneg nonneg]
        rw [truncate, if_pos counted, ← Int.cast_natCast, same]
        exact Rat.floor_le count
      calc ((truncate count).toNat : Rat) * 60 / interval =
          (truncate count).toNat * (60 / interval) := by ring
        _ ≤ count * (60 / interval) := mul_le_mul_of_nonneg_right workers slots.le
        _ ≤ tokens * (1 + 1 / 2 ^ 51) := near

/-! ## Stages -/

theorem evaluate_ok {report : StageReport} (evaluated : guard.evaluate request = .ok report) :
    report.toStageDecision = guard.decideStage request := by
  obtain ⟨concurrent, -, built⟩ := bind_ok evaluated
  rw [← Except.ok.inj built]

/-- The new stage stands at the place of the old one, or at a place next to it. -/
def MovesByOne (guard : RateLimitGuard) (current new : String) : Prop :=
  new = current ∨ ∃ place, guard.stages[place]? = some new ∧
    place ≤ guard.indexOf current + 1 ∧ guard.indexOf current ≤ place + 1

theorem indexOf_lt (guard : RateLimitGuard) (stage : String) :
    guard.indexOf stage < guard.stages.length := by
  unfold indexOf
  split
  · rename_i listed
    exact List.idxOf_lt_length_iff.mpr listed
  · exact List.length_pos_of_ne_nil guard.staged

theorem getElem?_stageAt {place : Nat} (within : place < guard.stages.length) :
    guard.stages[place]? = some (guard.stageAt place) := by
  rw [stageAt, List.getD_eq_getElem?_getD, List.getElem?_eq_getElem within, Option.getD_some]

theorem movesByOne_decideStage (guard : RateLimitGuard) (request : StageRequest) :
    guard.MovesByOne (guard.stageOr request.currentStage) (guard.decideStage request).stage := by
  have within := guard.indexOf_lt (guard.stageOr request.currentStage)
  unfold decideStage
  simp only []
  split
  · split
    · exact .inr ⟨_, getElem?_stageAt (by omega), by omega, by omega⟩
    · split
      · exact .inr ⟨_, getElem?_stageAt (by omega), by omega, by omega⟩
      · exact .inl rfl
  · exact .inl rfl

theorem le_of_promote (promoted : (guard.decideStage request).decision = "promote") :
    request.rate429.le (.finite (1 / 100)) = true := by
  unfold decideStage at promoted
  simp only [] at promoted
  split at promoted
  · split at promoted
    · rename_i low
      exact low.1
    · split at promoted <;> simp at promoted
  · simp at promoted

theorem lt_of_rollback (rolledBack : (guard.decideStage request).decision = "rollback") :
    Extended.lt (.finite (15 / 1000)) request.rate429 = true := by
  unfold decideStage at rolledBack
  simp only [] at rolledBack
  split at rolledBack
  · split at rolledBack
    · simp at rolledBack
    · split at rolledBack
      · rename_i high
        exact high.1
      · simp at rolledBack
  · simp at rolledBack

theorem not_both (rate : Extended) :
    ¬ (rate.le (.finite (1 / 100)) = true ∧ Extended.lt (.finite (15 / 1000)) rate = true) := by
  intro both
  obtain ⟨low, high⟩ := both
  cases rate with
  | finite value =>
    have below : value ≤ 1 / 100 := of_decide_eq_true low
    have above : 15 / 1000 < value := of_decide_eq_true high
    linarith
  | infinite negative =>
    cases negative with
    | true => cases high
    | false => cases low
  | nan => cases low

/-- Plans do not stall and overspend by a rounding at most, a stage moves by one place at
most, and a constant rate never promotes and rolls back. -/
theorem plans_and_stages_bounded (guard : RateLimitGuard) (enough : 1 ≤ guard.burstTokens) :
    (∀ provider stage, guard.burstTokens * guard.pollInterval (guard.stageOr stage) ≤
        .finite (2 ^ 1023) → ∃ plan, guard.workerPlan provider stage = .ok plan) ∧
    (∀ provider stage plan, guard.workerPlan provider stage = .ok plan →
      (guard.FitsOneCall plan → 1 ≤ plan.maxWorkers) ∧ guard.Affords plan) ∧
    (∀ request report, guard.evaluate request = .ok report →
      guard.MovesByOne (guard.stageOr request.currentStage) report.stage) ∧
    ∀ rate (requests : List StageRequest), (∀ request ∈ requests, request.rate429 = rate) →
      (requests.filterMap fun request => (guard.evaluate request).toOption).Pairwise
        fun earlier later => ¬ (earlier.decision = "promote" ∧ later.decision = "rollback") := by
  refine ⟨fun provider stage countable => ?_, fun provider stage plan made =>
    workerPlan_within enough provider stage made, fun request report evaluated => ?_, ?_⟩
  · obtain ⟨workers, counted⟩ := workers_exist enough countable
    exact ⟨_, bind_ok_iff.mpr ⟨workers, counted, rfl⟩⟩
  · rw [evaluate_ok evaluated]
    exact guard.movesByOne_decideStage request
  · intro rate requests constant
    apply List.pairwise_of_forall_mem_list
    intro earlier asked later laterAsked flapped
    obtain ⟨first, among, evaluated⟩ := List.mem_filterMap.mp asked
    obtain ⟨second, laterAmong, laterEvaluated⟩ := List.mem_filterMap.mp laterAsked
    have low := flapped.1
    have high := flapped.2
    rw [evaluate_ok (ok_of_toOption evaluated)] at low
    rw [evaluate_ok (ok_of_toOption laterEvaluated)] at high
    exact not_both rate ⟨constant first among ▸ le_of_promote low,
      constant second laterAmong ▸ lt_of_rollback high⟩

def threeStages : RateLimitGuard where
  tokensPerMinute := .finite 60
  burstTokens := .finite 90
  pollIntervalSec := .finite 15
  stages := ["stage0", "stage1", "stage2"]
  staged := by decide

def firstPlan : WorkerPlan where
  provider := "yfinance"
  stage := "stage1"
  pollIntervalSec := .finite (27 / 2)
  maxWorkers := 20

theorem plans_and_stages_bounded_three :
    1 ≤ firstPlan.maxWorkers ∧ threeStages.Affords firstPlan :=
  have within := (plans_and_stages_bounded threeStages (by decide +kernel)).2.1 "yfinance"
    (some "stage1") firstPlan (by decide +kernel)
  ⟨within.1 (by decide +kernel), within.2⟩

/-- Three workers of a plan that polls each three and a half seconds, with burst tokens for
just less than three. -/
def justShort : RateLimitGuard where
  tokensPerMinute := .finite 60
  burstTokens := .finite (7237927972559725 / 140737488355328)
  pollIntervalSec := .finite (7 / 2)
  stages := ["stage0"]
  staged := by decide

theorem justShort_overspends : ∃ plan, justShort.workerPlan "yfinance" none = .ok plan ∧
    justShort.FitsOneCall plan ∧
      ¬ .finite (plan.maxWorkers * 60) / plan.pollIntervalSec.greater 1 ≤ justShort.burstTokens :=
  ⟨⟨"yfinance", "stage0", .finite (7 / 2), 3⟩, by decide +kernel, by decide +kernel,
    by decide +kernel⟩

end RateLimitGuard

end FxToushi.Ingestion
