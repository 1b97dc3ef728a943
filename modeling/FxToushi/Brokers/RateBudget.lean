import FxToushi.Brokers.RateLimit
import FxToushi.Data.Runs
import FxToushi.Data.TokenBucket

namespace FxToushi.Brokers

open Data Py

/-! # The budget of a rate limit window

A refill credits the time since the stamp of the last reset, and the stamp
only moves when a whole reset interval has passed.  Time that an earlier call
was credited for is credited again unless the bucket is full anyway.
-/

structure ReserveCall where
  operation : String
  priority : Option String := none
deriving Repr, DecidableEq

/-- A window with the times of its grants and of its latest call. -/
structure RateLedger where
  window : RateLimitWindow
  grants : List Rat := []
  latest : Rat
deriving DecidableEq

namespace RateLedger

def opened (readings : Nat → Rat) (config : RateLimitConfig) : RateLedger where
  window := .opened readings config
  latest := readings 0

def step (readings : Nat → Rat) (ledger : RateLedger) (call : ReserveCall) : RateLedger :=
  let now := readings ledger.window.reads
  let (reservation, window) :=
    ledger.window.reserveDetail readings call.operation call.priority
  { window, latest := now
    grants := if reservation.allowed then ledger.grants ++ [now] else ledger.grants }

/-- The grants up to any time are at most the burst, one credit and the
sustained rate since the window was opened. -/
def KeepsBudget (readings : Nat → Rat) (config : RateLimitConfig) (ledger : RateLedger) : Prop :=
  WithinBudget (config.burst : Rat) (RateLimitWindow.refillRate config) (readings 0) 1
    ledger.grants

/-- No time is credited twice: the latest call moved the stamp, or the time
since that call fills the bucket by itself. -/
def CreditedOnce (readings : Nat → Rat) (ledger : RateLedger) (_ : ReserveCall) : Prop :=
  ledger.window.lastRefill = ledger.latest ∨
    (ledger.window.config.burst : Rat) ≤ ledger.window.tokens +
      RateLimitWindow.refillRate ledger.window.config *
        (readings ledger.window.reads - ledger.latest)

structure Accounted (readings : Nat → Rat) (config : RateLimitConfig) (ledger : RateLedger) :
    Prop where
  limits : ledger.window.config = config
  creditLimit : ledger.window.creditLimit = 1
  creditUsed : ledger.window.creditUsed ≤ 1
  overdraft : -(ledger.window.creditUsed : Rat) ≤ ledger.window.tokens
  full : ledger.window.tokens ≤ config.burst
  clock : ledger.latest ≤ readings ledger.window.reads
  funded : Funded (config.burst : Rat) (RateLimitWindow.refillRate config) (readings 0)
    ledger.grants.length ledger.window.tokens ledger.latest
  budget : KeepsBudget readings config ledger

variable {readings : Nat → Rat} {config : RateLimitConfig} {ledger : RateLedger}

theorem accounted_opened (capacity : 0 ≤ config.burst) (rate : 0 ≤ config.sustainedPerMin)
    (clock : Monotone readings) : Accounted readings config (opened readings config) := by
  have burst : (0 : Rat) ≤ config.burst := by exact_mod_cast capacity
  have sustained : (0 : Rat) ≤ config.sustainedPerMin := by exact_mod_cast rate
  refine ⟨rfl, rfl, Nat.zero_le 1, ?_, le_refl _, clock (Nat.zero_le 1), Funded.initial _ _ _, ?_⟩
  · simpa [opened, RateLimitWindow.opened] using burst
  · intro time started
    have refill : 0 ≤ RateLimitWindow.refillRate config * (time - readings 0) :=
      mul_nonneg (by unfold RateLimitWindow.refillRate; positivity) (by linarith)
    simp only [opened, grantsUntil, List.filter_nil, List.length_nil, Nat.cast_zero]
    linarith

/-- A refill that credits no time twice adds at most the rate since the latest call. -/
theorem refilled_le {call : ReserveCall} (accounted : Accounted readings config ledger)
    (once : CreditedOnce readings ledger call) :
    ledger.window.refilled (readings ledger.window.reads) ≤
      ledger.window.tokens + RateLimitWindow.refillRate config *
        (readings ledger.window.reads - ledger.latest) := by
  rcases once with stamped | fills
  · refine (min_le_right _ _).trans (le_of_eq ?_)
    have passed : 0 ≤ readings ledger.window.reads - ledger.latest := by
      linarith [accounted.clock]
    rw [RateLimitWindow.elapsed, stamped, max_eq_left passed, accounted.limits, mul_comm]
  · rw [accounted.limits] at fills
    refine (min_le_left _ _).trans ?_
    rw [accounted.limits]
    exact fills

theorem le_refilled (rate : 0 ≤ RateLimitWindow.refillRate config)
    (accounted : Accounted readings config ledger) (now : Rat) :
    ledger.window.tokens ≤ ledger.window.refilled now := by
  rw [RateLimitWindow.refilled, accounted.limits]
  refine le_min accounted.full ?_
  have credited : 0 ≤ ledger.window.elapsed now * RateLimitWindow.refillRate config :=
    mul_nonneg (le_max_right _ _) rate
  linarith

theorem Accounted.grant {level : Rat} {after : RateLimitWindow}
    (accounted : Accounted readings config ledger)
    (rate : 0 ≤ RateLimitWindow.refillRate config) (clock : Monotone readings)
    (funded : Funded (config.burst : Rat) (RateLimitWindow.refillRate config) (readings 0)
      ledger.grants.length level (readings ledger.window.reads))
    (capped : level ≤ config.burst) (limits : after.config = config)
    (tokens : after.tokens = level - 1) (creditLimit : after.creditLimit = 1)
    (creditUsed : after.creditUsed ≤ 1) (overdraft : -(after.creditUsed : Rat) ≤ level - 1)
    (reads : ledger.window.reads ≤ after.reads) :
    Accounted readings config
      { window := after, latest := readings ledger.window.reads
        grants := ledger.grants ++ [readings ledger.window.reads] } := by
  have used : (after.creditUsed : Rat) ≤ 1 := by exact_mod_cast creditUsed
  refine ⟨limits, creditLimit, creditUsed, ?_, ?_, clock reads, ?_, ?_⟩
  · simpa only [tokens] using overdraft
  · simp only [tokens]
    linarith
  · simpa only [tokens, List.length_append, List.length_singleton] using funded.spend
  · exact accounted.budget.grant rate funded.spend (by linarith)

theorem Accounted.refuse {level : Rat} {after : RateLimitWindow}
    (accounted : Accounted readings config ledger) (clock : Monotone readings)
    (funded : Funded (config.burst : Rat) (RateLimitWindow.refillRate config) (readings 0)
      ledger.grants.length level (readings ledger.window.reads))
    (capped : level ≤ config.burst) (more : ledger.window.tokens ≤ level)
    (limits : after.config = config) (tokens : after.tokens = level)
    (creditLimit : after.creditLimit = 1) (creditUsed : after.creditUsed = ledger.window.creditUsed)
    (reads : ledger.window.reads ≤ after.reads) :
    Accounted readings config
      { window := after, latest := readings ledger.window.reads, grants := ledger.grants } := by
  refine ⟨limits, creditLimit, ?_, ?_, ?_, clock reads, ?_, accounted.budget⟩
  · rw [creditUsed]
    exact accounted.creditUsed
  · rw [creditUsed, tokens]
    exact accounted.overdraft.trans more
  · rw [tokens]
    exact capped
  · rw [tokens]
    exact funded

theorem step_accounted {call : ReserveCall} (rate : 0 ≤ RateLimitWindow.refillRate config)
    (clock : Monotone readings) (accounted : Accounted readings config ledger)
    (once : CreditedOnce readings ledger call) :
    Accounted readings config (ledger.step readings call) := by
  have funded := accounted.funded.refill (refilled_le accounted once)
  have more := le_refilled rate accounted (readings ledger.window.reads)
  have capped : ledger.window.refilled (readings ledger.window.reads) ≤ config.burst := by
    rw [RateLimitWindow.refilled, accounted.limits]
    exact min_le_left _ _
  have reserved := RateLimitWindow.reserveDetail_cases readings ledger.window call.operation
    call.priority
  have overdraft := accounted.overdraft
  unfold step
  generalize ledger.window.reserveDetail readings call.operation call.priority = result at reserved
  cases reserved with
  | token allowed funds bucket =>
    have cleared : result.2.creditUsed = 0 := bucket.creditUsed.trans (if_pos funds)
    simp only [allowed, if_true]
    refine accounted.grant rate clock funded capped (bucket.config.trans accounted.limits)
      bucket.tokens (bucket.creditLimit.trans accounted.creditLimit) (by omega) ?_
      ((Nat.le_succ _).trans bucket.reads)
    have paid : 1 ≤ ledger.window.refilled (readings ledger.window.reads) := funds
    rw [cleared]
    simpa using paid
  | credit allowed short unused bucket =>
    have kept : (ledger.window.refillTokens readings).creditUsed = ledger.window.creditUsed :=
      if_neg (not_le.mpr short)
    have limit : (ledger.window.refillTokens readings).creditLimit = 1 := accounted.creditLimit
    have none : ledger.window.creditUsed = 0 := by omega
    have borrowed : result.2.creditUsed = 1 := by
      rw [bucket.creditUsed]
      simp only [kept, none]
    simp only [allowed, if_true]
    refine accounted.grant rate clock funded capped (bucket.config.trans accounted.limits)
      bucket.tokens (bucket.creditLimit.trans accounted.creditLimit) (by omega) ?_
      ((Nat.le_succ _).trans bucket.reads)
    rw [none] at overdraft
    rw [borrowed]
    push_cast at overdraft ⊢
    linarith
  | refused refused short bucket =>
    have kept : (ledger.window.refillTokens readings).creditUsed = ledger.window.creditUsed :=
      if_neg (not_le.mpr short)
    simp only [refused, Bool.false_eq_true, if_false]
    exact accounted.refuse clock funded capped more (bucket.config.trans accounted.limits)
      bucket.tokens (bucket.creditLimit.trans accounted.creditLimit)
      (bucket.creditUsed.trans kept) ((Nat.le_succ _).trans bucket.reads)

def minuteLimits (burst : Int) : RateLimitConfig where
  burst
  sustainedPerMin := 60
  resetSec := 60

end RateLedger

end FxToushi.Brokers
