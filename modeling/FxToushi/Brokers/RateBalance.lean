import FxToushi.Brokers.RateWait

namespace FxToushi.Brokers

open Data Py

/-! # The balance of the rate limit window

The credit is used while a token is owed, and only a balance of a whole token
gives it back.
-/

/-- The calls that move the balance or its limits. -/
inductive BalanceCall where
  | reserve (operation : String) (priority : Option String)
  | tokensRemaining
  | updateLimits (burst sustained : Option Int)
  | shrinkCapacity (factor : Rat) (positive : 0 < factor) (most : factor ≤ 1)

namespace RateLimitWindow

section Calls

variable (readings : Nat → Rat) (window : RateLimitWindow)

def balanceStep : BalanceCall → RateLimitWindow
  | .reserve operation priority => (window.reserveDetail readings operation priority).2
  | .tokensRemaining => (window.tokensRemaining readings).2
  | .updateLimits burst sustained => window.updateLimits readings burst sustained
  | .shrinkCapacity factor _ _ => window.shrinkCapacity readings factor

/-- The call refills the balance to a whole token. -/
def Reaches : BalanceCall → Prop
  | .reserve _ _ => 1 ≤ (window.refillTokens readings).tokens
  | .tokensRemaining => 1 ≤ (window.refillTokens readings).tokens
  | .updateLimits _ _ => False
  | .shrinkCapacity _ _ _ => False

/-- A reservation that is granted without a whole token. -/
def OnCredit : BalanceCall → Prop
  | .reserve operation priority =>
    (window.reserveDetail readings operation priority).1.allowed = true ∧
      (window.refillTokens readings).tokens < 1
  | .tokensRemaining => False
  | .updateLimits _ _ => False
  | .shrinkCapacity _ _ _ => False

end Calls

structure Bounded (window : RateLimitWindow) : Prop where
  lower : -1 ≤ window.tokens
  upper : window.tokens ≤ window.config.burst
  credit : window.creditUsed ≤ 1

/-- The balance stays within its bounds, and between two reservations on credit it has been
a whole token. -/
def KeepsBalance (config : RateLimitConfig) : Prop :=
  ∀ readings : Nat → Rat, Monotone readings → ∀ calls : List BalanceCall,
    Throughout (balanceStep readings) Bounded (opened readings config) calls ∧
      ∀ before first between second after,
        calls = before ++ first :: (between ++ second :: after) →
          (runFrom (balanceStep readings) (opened readings config) before).OnCredit readings first →
            (runFrom (balanceStep readings) (opened readings config)
              (before ++ first :: between)).OnCredit readings second →
              ∃ earlier call later, between = earlier ++ call :: later ∧
                (runFrom (balanceStep readings) (opened readings config)
                  (before ++ first :: earlier)).Reaches readings call

/-! ## The invariant -/

/-- What is owed is at most the credit used, of which there is one. -/
structure Balanced (window : RateLimitWindow) : Prop where
  capacity : 1 ≤ window.config.burst
  rate : 0 ≤ window.config.sustainedPerMin
  owed : WithinCredit window.config window
  capped : window.tokens ≤ window.config.burst

variable {readings : Nat → Rat} {config : RateLimitConfig} {window : RateLimitWindow}

theorem Balanced.bounded (balanced : Balanced window) : Bounded window := by
  refine ⟨?_, balanced.capped, balanced.owed.creditUsed⟩
  have used : (window.creditUsed : Rat) ≤ 1 := by exact_mod_cast balanced.owed.creditUsed
  linarith [balanced.owed.overdraft]

theorem Balanced.rate_nonneg (balanced : Balanced window) : 0 ≤ refillRate window.config := by
  have sustained : (0 : Rat) ≤ window.config.sustainedPerMin := by exact_mod_cast balanced.rate
  unfold refillRate
  linarith

theorem SameBucket.balanced {other : RateLimitWindow} (same : SameBucket other window)
    (balanced : Balanced window) : Balanced other := by
  obtain ⟨config, tokens, -, creditLimit, creditUsed, -⟩ := same
  obtain ⟨capacity, rate, owed, capped⟩ := balanced
  refine ⟨config ▸ capacity, config ▸ rate,
    ⟨rfl, creditLimit.trans owed.creditLimit, creditUsed ▸ owed.creditUsed, ?_⟩, ?_⟩
  · rw [tokens, creditUsed]
    exact owed.overdraft
  · rw [tokens, config]
    exact capped

theorem Balanced.refill (balanced : Balanced window) :
    Balanced (window.refillTokens readings) where
  capacity := balanced.capacity
  rate := balanced.rate
  owed := balanced.owed.refill (by linarith [balanced.capacity]) balanced.rate_nonneg
  capped := min_le_left _ _

theorem Balanced.reserve (balanced : Balanced window) (operation : String)
    (priority : Option String) :
    Balanced (window.reserveDetail readings operation priority).2 := by
  have owed : WithinCredit window.config (window.reserveDetail readings operation priority).2 :=
    balanced.owed.reserve (by linarith [balanced.capacity]) balanced.rate_nonneg
  have same := owed.limits
  have capped : (window.refillTokens readings).tokens ≤ window.config.burst := min_le_left _ _
  refine ⟨same ▸ balanced.capacity, same ▸ balanced.rate, same.symm ▸ owed, ?_⟩
  rw [same]
  have reserved := reserveDetail_cases readings window operation priority
  generalize window.reserveDetail readings operation priority = result at reserved
  cases reserved with
  | token allowed funds bucket =>
    rw [bucket.tokens]
    exact (sub_le_self _ zero_le_one).trans capped
  | credit allowed short unused bucket =>
    rw [bucket.tokens]
    exact (sub_le_self _ zero_le_one).trans capped
  | refused refused short bucket =>
    rw [bucket.tokens]
    exact capped

theorem Balanced.limit (balanced : Balanced window) {limits : RateLimitConfig}
    (capacity : 1 ≤ limits.burst) (rate : 0 ≤ limits.sustainedPerMin) :
    Balanced { window with config := limits, tokens := min window.tokens limits.burst } := by
  have whole : (1 : Rat) ≤ limits.burst := by exact_mod_cast capacity
  have used : (0 : Rat) ≤ window.creditUsed := Nat.cast_nonneg _
  refine ⟨capacity, rate, ⟨rfl, balanced.owed.creditLimit, balanced.owed.creditUsed, ?_⟩,
    min_le_right _ _⟩
  exact le_min balanced.owed.overdraft (by linarith)

theorem appendLimitEvent_sameBucket (readings : Nat → Rat) (window : RateLimitWindow) :
    SameBucket (appendLimitEvent readings window) window :=
  (pruneQueue_sameBucket readings _).trans (pruneQueue_sameBucket readings window)

theorem Balanced.step (balanced : Balanced window) (call : BalanceCall) :
    Balanced (window.balanceStep readings call) := by
  cases call with
  | reserve operation priority => exact balanced.reserve operation priority
  | tokensRemaining => exact balanced.refill
  | updateLimits burst sustained =>
    refine (appendLimitEvent_sameBucket readings _).balanced (balanced.limit ?_ ?_)
    · cases burst with
      | none => exact balanced.capacity
      | some burst => exact le_max_left 1 burst
    · cases sustained with
      | none => exact balanced.rate
      | some sustained => exact zero_le_one.trans (le_max_left 1 sustained)
  | shrinkCapacity factor positive most =>
    exact (appendLimitEvent_sameBucket readings _).balanced
      (balanced.limit (le_max_left 1 _) (zero_le_one.trans (le_max_left 1 _)))

theorem opened_balanced (capacity : 1 ≤ config.burst) (rate : 0 ≤ config.sustainedPerMin) :
    Balanced (opened readings config) := by
  have whole : (1 : Rat) ≤ config.burst := by exact_mod_cast capacity
  refine ⟨capacity, rate, ⟨rfl, rfl, Nat.zero_le 1, ?_⟩, le_rfl⟩
  change -((0 : Nat) : Rat) ≤ config.burst
  push_cast
  linarith

theorem run_balanced (balanced : Balanced window) (calls : List BalanceCall) :
    Balanced (runFrom (balanceStep readings) window calls) :=
  (throughout_of_step (fun _ call kept => kept.step call) balanced).final

/-! ## The credit -/

theorem refillTokens_creditUsed (short : (window.refillTokens readings).tokens < 1) :
    (window.refillTokens readings).creditUsed = window.creditUsed := if_neg (not_le.mpr short)

/-- The credit is granted to a window that has not used it, and is used then. -/
theorem Balanced.onCredit (balanced : Balanced window) {call : BalanceCall}
    (credited : window.OnCredit readings call) :
    window.creditUsed = 0 ∧ (window.balanceStep readings call).creditUsed = 1 := by
  cases call with
  | reserve operation priority =>
    obtain ⟨allowed, short⟩ := credited
    have limit : (window.refillTokens readings).creditLimit = 1 := balanced.owed.creditLimit
    have same := refillTokens_creditUsed short
    have reserved := reserveDetail_cases readings window operation priority
    rw [balanceStep]
    generalize window.reserveDetail readings operation priority = result at reserved allowed
    cases reserved with
    | token _ funds _ => exact absurd funds (not_le.mpr short)
    | credit _ _ unused bucket =>
      rw [limit, same] at unused
      have fresh : window.creditUsed = 0 := Nat.lt_one_iff.mp unused
      refine ⟨fresh, bucket.creditUsed.trans ?_⟩
      rw [same, fresh]
    | refused refused _ _ => exact nomatch allowed.symm.trans refused
  | tokensRemaining => exact credited.elim
  | updateLimits burst sustained => exact credited.elim
  | shrinkCapacity factor positive most => exact credited.elim

/-- A window that owes its credit owes it until a refill reaches a whole token. -/
theorem Balanced.owes_step (balanced : Balanced window) (owes : window.creditUsed = 1)
    {call : BalanceCall} (short : ¬ window.Reaches readings call) :
    (window.balanceStep readings call).creditUsed = 1 := by
  cases call with
  | reserve operation priority =>
    have less : (window.refillTokens readings).tokens < 1 := not_le.mp short
    have limit : (window.refillTokens readings).creditLimit = 1 := balanced.owed.creditLimit
    have same := (refillTokens_creditUsed less).trans owes
    have reserved := reserveDetail_cases readings window operation priority
    rw [balanceStep]
    generalize window.reserveDetail readings operation priority = result at reserved
    cases reserved with
    | token _ funds _ => exact absurd funds short
    | credit _ _ unused _ =>
      rw [limit, same] at unused
      exact absurd unused (lt_irrefl 1)
    | refused _ _ bucket => exact bucket.creditUsed.trans same
  | tokensRemaining => exact (refillTokens_creditUsed (not_le.mp short)).trans owes
  | updateLimits burst sustained =>
    exact (appendLimitEvent_sameBucket readings _).creditUsed.trans owes
  | shrinkCapacity factor positive most =>
    exact (appendLimitEvent_sameBucket readings _).creditUsed.trans owes

theorem Balanced.owes_run (balanced : Balanced window) (owes : window.creditUsed = 1)
    {calls : List BalanceCall}
    (short : ∀ earlier call later, calls = earlier ++ call :: later →
      ¬ (runFrom (balanceStep readings) window earlier).Reaches readings call) :
    (runFrom (balanceStep readings) window calls).creditUsed = 1 := by
  induction calls generalizing window with
  | nil => exact owes
  | cons call rest ih =>
    have first : ¬ window.Reaches readings call := short [] call rest rfl
    refine ih (balanced.step call) (balanced.owes_step owes first) ?_
    intro earlier next later split
    exact short (call :: earlier) next later (congrArg (List.cons call) split)

theorem keepsBalance_of_rate (capacity : 1 ≤ config.burst) (rate : 0 ≤ config.sustainedPerMin) :
    KeepsBalance config := by
  intro readings _ calls
  have start : Balanced (opened readings config) := opened_balanced capacity rate
  constructor
  · have kept : Throughout (balanceStep readings) Balanced (opened readings config) calls :=
      throughout_of_step (fun _ call kept => kept.step call) start
    exact kept.imp fun _ balanced => balanced.bounded
  · intro before first between second after _ former latter
    by_contra never
    have resumed : ∀ calls, runFrom (balanceStep readings) (opened readings config)
        (before ++ first :: calls) = runFrom (balanceStep readings)
          ((runFrom (balanceStep readings) (opened readings config) before).balanceStep readings
            first) calls := fun calls => List.foldl_append
    simp only [resumed] at latter never
    have reached : Balanced (runFrom (balanceStep readings) (opened readings config) before) :=
      run_balanced start before
    obtain ⟨-, used⟩ := reached.onCredit former
    have owes := (reached.step first).owes_run used fun earlier call later split reaches =>
      never ⟨earlier, call, later, split, reaches⟩
    obtain ⟨unused, -⟩ := (run_balanced (reached.step first) between).onCredit latter
    exact nomatch unused.symm.trans owes

/-- A rate below zero takes more than the whole bucket away in time. -/
theorem not_keepsBalance_of_rate (capacity : 1 ≤ config.burst)
    (rate : config.sustainedPerMin < 0) : ¬ KeepsBalance config := by
  intro keeps
  have whole : (1 : Rat) ≤ config.burst := by exact_mod_cast capacity
  have drains : (config.sustainedPerMin : Rat) ≤ -1 := by exact_mod_cast Int.le_sub_one_of_lt rate
  let readings : Nat → Rat := fun read => read * ((config.burst + 2) * 60)
  have ordered : Monotone readings := fun earlier later before =>
    mul_le_mul_of_nonneg_right (by exact_mod_cast before) (by linarith)
  obtain ⟨bounds, -⟩ := keeps readings ordered [.tokensRemaining]
  have lower := bounds.final.lower
  have least : -1 ≤ (opened readings config).tokens +
      (opened readings config).elapsed (readings 1) * refillRate config :=
    lower.trans (min_le_right _ _)
  have passed : (opened readings config).elapsed (readings 1) = (config.burst + 2) * 60 := by
    simp only [elapsed, opened, readings]
    rw [max_eq_left (by push_cast; linarith)]
    push_cast
    rw [one_mul, zero_mul, sub_zero]
  have taken : (config.burst + 2) * 60 * refillRate config ≤ -((config.burst : Rat) + 2) := by
    have scaled := mul_le_mul_of_nonneg_left drains (by linarith : (0 : Rat) ≤ config.burst + 2)
    unfold refillRate
    linarith
  have full : (opened readings config).tokens = config.burst := rfl
  rw [passed, full] at least
  linarith

/-- The balance keeps its bounds exactly when the configured rate is not below zero. -/
theorem keepsBalance_iff (capacity : 1 ≤ config.burst) :
    KeepsBalance config ↔ 0 ≤ config.sustainedPerMin := by
  constructor
  · intro keeps
    by_contra below
    exact not_keepsBalance_of_rate capacity (not_le.mp below) keeps
  · exact keepsBalance_of_rate capacity

/-- Sixty calls a minute, ten at once. -/
theorem keepsBalance_sixty : KeepsBalance { burst := 10, sustainedPerMin := 60, resetSec := 60 } :=
  (keepsBalance_iff (by decide)).mpr (by decide)

/-- A rate of minus sixty, which `from_payload` reads as any other number. -/
theorem negative_rate_drains :
    ¬ KeepsBalance { burst := 10, sustainedPerMin := -60, resetSec := 60 } :=
  not_keepsBalance_of_rate (by decide) (by decide)

end RateLimitWindow

end FxToushi.Brokers
