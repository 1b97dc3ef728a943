import FxToushi.Brokers.Certification
import FxToushi.Brokers.RateWait

namespace FxToushi.Brokers

open Data Py

/-! # The rate limit burst scenario

The certification asks a new window for one order more than the burst, all of the
highest priority, and wants to see one of them deferred.
-/

/-- The reservations so far: how many were deferred, the last one and the window. -/
structure BurstRun where
  deferred : Nat
  last : Option RateLimitReservation
  window : RateLimitWindow

namespace BurstRun

def start (readings : Nat → Rat) (config : RateLimitConfig) : BurstRun where
  deferred := 0
  last := none
  window := .opened readings config

def step (readings : Nat → Rat) (run : BurstRun) : BurstRun :=
  let (reservation, window) := run.window.reserveDetail readings "order.place" (some "high")
  { deferred := if reservation.allowed then run.deferred else run.deferred + 1
    last := some reservation
    window }

/-- The run after a number of reservations. -/
def after (readings : Nat → Rat) (config : RateLimitConfig) (count : Nat) : BurstRun :=
  (step readings)^[count] (start readings config)

end BurstRun

namespace BrokerCertificationSuite

/-- What the scenario comes to, from the deferrals and the last reservation. -/
def burstScenario (queueWarnSec : Int) (shown : Rat → String) (deferred : Nat)
    (reservation : RateLimitReservation) : CertificationScenario :=
  let queueOk := reservation.queueWaitMs ≤ queueWarnSec * 1000
  { name := "rate_limit_burst"
    scenarioType := "rate_limit_burst"
    status := if queueOk then if 0 < deferred then "pass" else "warning" else "fail"
    message :=
      if queueOk then if 0 < deferred then none else some "no throttle triggered"
      else some "queue_wait_exceeded"
    metrics := [("deferred", .int deferred),
      ("queue_wait_ms", .float reservation.queueWaitMs (shown reservation.queueWaitMs))] }

/-- `_run_rate_limit_burst`.  The limiter has the limits of the plan, the queue limit is
the plan's `queue_warn_sec`, and `shown` prints a float.  A loop that never runs leaves
`reservation` unbound. -/
def runRateLimitBurst (readings : Nat → Rat) (config : RateLimitConfig) (queueWarnSec : Int)
    (shown : Rat → String) (scenarioDef : Mapping) : Except PyError CertificationScenario := do
  let burst ← ((scenarioDef.get? "burst").getD (.int config.burst)).toInt
  let run := BurstRun.after readings config (burst + 1).toNat
  match run.last with
  | none => throw (.other "UnboundLocalError")
  | some reservation => return burstScenario queueWarnSec shown run.deferred reservation

/-- With the configured burst a reservation is deferred, and the scenario passes unless
the queue limit fails it. -/
def ExercisesThrottle (readings : Nat → Rat) (config : RateLimitConfig) : Prop :=
  0 < (BurstRun.after readings config (config.burst + 1).toNat).deferred ∧
    ∀ queueWarnSec shown scenarioDef, Mapping.get? scenarioDef "burst" = none →
      ∃ scenario,
        runRateLimitBurst readings config queueWarnSec shown scenarioDef = .ok scenario ∧
          (scenario.status = "pass" ∨ scenario.message = some "queue_wait_exceeded")

end BrokerCertificationSuite

namespace BurstRun

open RateLimitWindow

variable {readings : Nat → Rat} {config : RateLimitConfig} {run : BurstRun} {taken : Nat}

theorem step_of_allowed
    (allowed : (run.window.reserveDetail readings "order.place" (some "high")).1.allowed = true) :
    (step readings run).deferred = run.deferred := by
  simp only [step, allowed, if_true]

theorem step_of_refused
    (refused : (run.window.reserveDetail readings "order.place" (some "high")).1.allowed = false) :
    (step readings run).deferred = run.deferred + 1 := by
  simp [step, refused]

theorem deferred_le_step : run.deferred ≤ (step readings run).deferred := by
  unfold step
  simp only []
  split <;> omega

/-- Every reservation so far took a token. -/
structure Draining (readings : Nat → Rat) (config : RateLimitConfig) (taken : Nat)
    (run : BurstRun) : Prop where
  deferred : run.deferred = 0
  limits : run.window.config = config
  creditLimit : run.window.creditLimit = 1
  creditUsed : run.window.creditUsed = 0
  idle : run.window.queue = []
  reads : run.window.reads = taken + 1
  capped : run.window.tokens ≤ config.burst

theorem draining_start : Draining readings config 0 (start readings config) :=
  ⟨rfl, rfl, rfl, rfl, rfl, rfl, le_rfl⟩

theorem Draining.step (draining : Draining readings config taken run)
    (funds : 1 ≤ run.window.refilled (readings (taken + 1))) :
    Draining readings config (taken + 1) (BurstRun.step readings run) ∧
      (BurstRun.step readings run).window =
        { run.window.refillTokens readings with
          tokens := run.window.refilled (readings (taken + 1)) - 1 } := by
  have level : (run.window.refillTokens readings).tokens =
      run.window.refilled (readings (taken + 1)) := by
    rw [refillTokens_tokens, draining.reads]
  have enough : 1 ≤ (run.window.refillTokens readings).tokens := by
    rw [level]
    exact funds
  have left : (BurstRun.step readings run).window = _ :=
    @reserveDetail_of_funds readings run.window "order.place" (some "high") draining.idle enough
  rw [level] at left
  have cleared : (run.window.refillTokens readings).creditUsed = 0 := if_pos enough
  have most : run.window.refilled (readings (taken + 1)) ≤ config.burst := by
    rw [refilled, draining.limits]
    exact min_le_left _ _
  refine ⟨⟨?_, ?_, ?_, ?_, ?_, ?_, ?_⟩, left⟩
  · rw [step_of_allowed (allowed_of_funds enough)]
    exact draining.deferred
  · rw [left]
    exact draining.limits
  · rw [left]
    exact draining.creditLimit
  · rw [left]
    exact cleared
  · rw [left]
    exact draining.idle
  · rw [left]
    exact congrArg (· + 1) draining.reads
  · rw [left]
    change run.window.refilled (readings (taken + 1)) - 1 ≤ config.burst
    linarith

theorem Draining.allowed (draining : Draining readings config taken run) :
    (run.window.reserveDetail readings "order.place" (some "high")).1.allowed = true := by
  have unused : (run.window.refillTokens readings).creditUsed <
      (run.window.refillTokens readings).creditLimit := by
    have limit : (run.window.refillTokens readings).creditLimit = 1 := draining.creditLimit
    have used : (run.window.refillTokens readings).creditUsed = 0 := by
      change (if _ then 0 else run.window.creditUsed) = 0
      rw [draining.creditUsed, ite_self]
    omega
  exact allowed_of_credit rfl unused

/-! ## Nothing is taken away -/

/-- No refill before the given reading takes tokens away. -/
def Gains (readings : Nat → Rat) (config : RateLimitConfig) (last : Nat) : Prop :=
  0 ≤ config.sustainedPerMin ∨ readings last ≤ readings 0

/-- A token is left for every one of the burst that was not taken. -/
structure Filled (readings : Nat → Rat) (config : RateLimitConfig) (taken : Nat)
    (run : BurstRun) : Prop extends Draining readings config taken run where
  level : (config.burst : Rat) - taken ≤ run.window.tokens
  stamp : readings 0 ≤ run.window.lastRefill

theorem Filled.refilled (filled : Filled readings config taken run) (clock : Monotone readings)
    {last : Nat} (gains : Gains readings config last) (within : taken + 1 ≤ last) :
    (config.burst : Rat) - taken ≤ run.window.refilled (readings (taken + 1)) := by
  have credited : 0 ≤ run.window.elapsed (readings (taken + 1)) * refillRate config := by
    cases gains with
    | inl rate =>
      have perMinute : (0 : Rat) ≤ config.sustainedPerMin := by exact_mod_cast rate
      exact mul_nonneg (le_max_right _ _) (by unfold refillRate; positivity)
    | inr still =>
      have passed : run.window.elapsed (readings (taken + 1)) = 0 := by
        apply max_eq_right
        linarith [clock within, filled.stamp]
      rw [passed, zero_mul]
  have level := filled.level
  have none : (0 : Rat) ≤ taken := Nat.cast_nonneg _
  rw [RateLimitWindow.refilled, filled.limits]
  exact le_min (by linarith) (by linarith)

theorem filled_after (clock : Monotone readings) {last : Nat}
    (gains : Gains readings config last) {count : Nat} (within : count ≤ last)
    (left : (count : Int) ≤ config.burst) :
    Filled readings config count (after readings config count) := by
  induction count with
  | zero => exact ⟨draining_start, by simp [after, start, opened], le_rfl⟩
  | succ count ih =>
    have filled := ih (by omega) (by omega)
    have level := filled.refilled clock gains within
    have enough : (count + 1 : Rat) ≤ config.burst := by exact_mod_cast left
    obtain ⟨draining, window⟩ := filled.toDraining.step (by linarith)
    unfold after
    rw [Function.iterate_succ_apply', ← after]
    refine ⟨draining, ?_, ?_⟩
    · rw [window]
      change (config.burst : Rat) - (count + 1 : Nat) ≤ _ - 1
      push_cast
      linarith
    · rw [window]
      change readings 0 ≤ if _ then readings (after readings config count).window.reads
        else (after readings config count).window.lastRefill
      split
      · exact clock (Nat.zero_le _)
      · exact filled.stamp

theorem deferred_eq_zero (clock : Monotone readings) {count : Nat}
    (counted : config.burst = count) (gains : Gains readings config count) :
    (after readings config (count + 1)).deferred = 0 := by
  have filled := filled_after clock gains le_rfl (le_of_eq counted.symm)
  unfold after
  rw [Function.iterate_succ_apply', ← after, step_of_allowed filled.toDraining.allowed]
  exact filled.deferred

/-! ## A rate that takes away -/

/-- Tokens were taken only by reservations and by time that passed. -/
structure Sinking (readings : Nat → Rat) (config : RateLimitConfig) (taken : Nat)
    (run : BurstRun) : Prop extends Draining readings config taken run where
  level : run.window.tokens ≤ config.burst - taken
  below : readings 0 < readings taken → run.window.tokens < config.burst - taken
  stamp : readings taken = readings 0 → run.window.lastRefill = readings 0
  paid : 0 < taken → 0 ≤ run.window.tokens

/-- The credit is taken and no token comes back. -/
structure Exhausted (config : RateLimitConfig) (run : BurstRun) : Prop where
  limits : run.window.config = config
  creditLimit : run.window.creditLimit = 1
  creditUsed : run.window.creditUsed = 1
  short : run.window.tokens < 1

theorem refillRate_neg (rate : config.sustainedPerMin < 0) : refillRate config < 0 := by
  have perMinute : (config.sustainedPerMin : Rat) < 0 := by exact_mod_cast rate
  unfold refillRate
  linarith

theorem refilled_le_tokens (limits : run.window.config = config)
    (rate : config.sustainedPerMin < 0) (now : Rat) :
    run.window.refilled now ≤ run.window.tokens := by
  have lost : run.window.elapsed now * refillRate config ≤ 0 :=
    mul_nonpos_of_nonneg_of_nonpos (le_max_right _ _) (le_of_lt (refillRate_neg rate))
  rw [RateLimitWindow.refilled, limits]
  exact min_le_of_right_le (by linarith)

theorem Exhausted.refused (exhausted : Exhausted config run) (rate : config.sustainedPerMin < 0) :
    (run.window.reserveDetail readings "order.place" (some "high")).1.allowed = false := by
  have short : (run.window.refillTokens readings).tokens < 1 :=
    (refilled_le_tokens exhausted.limits rate _).trans_lt exhausted.short
  have used : (run.window.refillTokens readings).creditUsed = 1 :=
    (if_neg (not_le.mpr short)).trans exhausted.creditUsed
  have limit : (run.window.refillTokens readings).creditLimit = 1 := exhausted.creditLimit
  have eq := @refused_eq readings run.window "order.place" (some "high") short (by omega)
  rw [eq]
  rfl

theorem Sinking.refilled (sinking : Sinking readings config taken run) (clock : Monotone readings)
    (rate : config.sustainedPerMin < 0) (passed : readings 0 < readings (taken + 1)) :
    run.window.refilled (readings (taken + 1)) < config.burst - taken := by
  have least := refilled_le_tokens sinking.limits rate (readings (taken + 1))
  rcases (clock (Nat.zero_le taken)).lt_or_eq with earlier | still
  · exact least.trans_lt (sinking.below earlier)
  · have elapsed : 0 < run.window.elapsed (readings (taken + 1)) := by
      unfold RateLimitWindow.elapsed
      rw [sinking.stamp still.symm]
      exact lt_max_of_lt_left (by linarith)
    have lost := mul_neg_of_pos_of_neg elapsed (refillRate_neg rate)
    have level := sinking.level
    rw [RateLimitWindow.refilled, sinking.limits]
    exact min_lt_of_right_lt (by linarith)

theorem Sinking.step (sinking : Sinking readings config taken run) (clock : Monotone readings)
    (rate : config.sustainedPerMin < 0) :
    Sinking readings config (taken + 1) (BurstRun.step readings run) ∨
      Exhausted config (BurstRun.step readings run) := by
  by_cases funds : 1 ≤ run.window.refilled (readings (taken + 1))
  · left
    obtain ⟨draining, window⟩ := sinking.toDraining.step funds
    have least := refilled_le_tokens sinking.limits rate (readings (taken + 1))
    have level := sinking.level
    refine ⟨draining, ?_, ?_, ?_, ?_⟩
    · rw [window]
      push_cast
      linarith
    · intro passed
      have below := sinking.refilled clock rate passed
      rw [window]
      push_cast
      linarith
    · intro still
      have before : readings taken = readings 0 :=
        le_antisymm (still ▸ clock (Nat.le_succ taken)) (clock (Nat.zero_le _))
      rw [window]
      change (if _ then readings run.window.reads else run.window.lastRefill) = readings 0
      rw [sinking.stamp before, sinking.reads, still, ite_self]
    · intro _
      rw [window]
      linarith
  · right
    have short : (run.window.refillTokens readings).tokens < 1 := by
      rw [refillTokens_tokens, sinking.reads]
      exact not_le.mp funds
    have kept : (run.window.refillTokens readings).creditUsed = 0 := by
      change (if _ then 0 else run.window.creditUsed) = 0
      rw [sinking.creditUsed, ite_self]
    have limit : (run.window.refillTokens readings).creditLimit = 1 := sinking.creditLimit
    have window : (BurstRun.step readings run).window = _ :=
      @reserveDetail_of_credit readings run.window "order.place" (some "high") sinking.idle short
        rfl (by omega)
    refine ⟨?_, ?_, ?_, ?_⟩
    · rw [window]
      exact sinking.limits
    · rw [window]
      exact limit
    · rw [window]
      exact congrArg (· + 1) kept
    · rw [window]
      change (run.window.refillTokens readings).tokens - 1 < 1
      linarith

/-- A call was deferred, the next will be, or every one so far took a token. -/
theorem sinking_after (clock : Monotone readings) (rate : config.sustainedPerMin < 0)
    (count : Nat) :
    0 < (after readings config count).deferred ∨
      Exhausted config (after readings config count) ∨
        Sinking readings config count (after readings config count) := by
  induction count with
  | zero =>
    refine .inr (.inr ⟨draining_start, ?_, fun passed => absurd passed (lt_irrefl _),
      fun _ => rfl, fun none => absurd none (lt_irrefl _)⟩)
    simp [after, start, opened]
  | succ count ih =>
    unfold after
    rw [Function.iterate_succ_apply', ← after]
    rcases ih with deferred | exhausted | sinking
    · exact .inl (deferred.trans_le deferred_le_step)
    · left
      rw [step_of_refused (exhausted.refused rate)]
      exact Nat.succ_pos _
    · exact .inr ((sinking.step clock rate).symm)

theorem deferred_pos (clock : Monotone readings) (rate : config.sustainedPerMin < 0) {count : Nat}
    (positive : 0 < count) (counted : config.burst = count)
    (passed : readings 0 < readings count) :
    0 < (after readings config (count + 1)).deferred := by
  unfold after
  rw [Function.iterate_succ_apply', ← after]
  rcases sinking_after clock rate count with deferred | exhausted | sinking
  · exact deferred.trans_le deferred_le_step
  · rw [step_of_refused (exhausted.refused rate)]
    exact Nat.succ_pos _
  · -- the burst is spent, and the time that passed took more
    have below := sinking.below passed
    rw [counted] at below
    have paid := sinking.paid positive
    push_cast at below
    linarith

theorem last_isSome (count : Nat) : (after readings config (count + 1)).last.isSome := by
  unfold after
  rw [Function.iterate_succ_apply', ← after]
  rfl

end BurstRun

namespace BrokerCertificationSuite

variable {readings : Nat → Rat} {config : RateLimitConfig}

/-- A run with a deferral passes, or fails by its queue limit. -/
theorem exercisesThrottle_of_deferred (burst : 1 ≤ config.burst)
    (deferred : 0 < (BurstRun.after readings config (config.burst + 1).toNat).deferred) :
    ExercisesThrottle readings config := by
  refine ⟨deferred, fun queueWarnSec shown scenarioDef unset => ?_⟩
  have count : (config.burst + 1).toNat = config.burst.toNat + 1 := by omega
  obtain ⟨reservation, last⟩ := Option.isSome_iff_exists.mp
    (@BurstRun.last_isSome readings config config.burst.toNat)
  rw [← count] at last
  refine ⟨burstScenario queueWarnSec shown
    (BurstRun.after readings config (config.burst + 1).toNat).deferred reservation, ?_, ?_⟩
  · simp only [runRateLimitBurst, unset, Option.getD_none, Value.toInt, Value.toInt?, bind,
      Except.bind, last]
    rfl
  · unfold burstScenario
    by_cases queueOk : reservation.queueWaitMs ≤ queueWarnSec * 1000
    · left
      simp only [if_pos queueOk, if_pos deferred]
    · right
      simp only [if_neg queueOk]

/-- The scenario sees a deferral only where the rate is negative and time passes before
the burst is spent. -/
theorem exercisesThrottle_iff (burst : 1 ≤ config.burst) (clock : Monotone readings) :
    ExercisesThrottle readings config ↔
      config.sustainedPerMin < 0 ∧ readings 0 < readings config.burst.toNat := by
  obtain ⟨count, counted⟩ := Int.eq_ofNat_of_zero_le (show 0 ≤ config.burst by omega)
  have calls : (config.burst + 1).toNat = count + 1 := by omega
  have taken : config.burst.toNat = count := by omega
  constructor
  · intro exercises
    by_contra gains
    have gained : BurstRun.Gains readings config count := by
      by_cases rate : 0 ≤ config.sustainedPerMin
      · exact .inl rate
      · refine .inr (not_lt.mp fun passed => gains ⟨not_le.mp rate, ?_⟩)
        rwa [taken]
    have deferred := exercises.1
    rw [calls, BurstRun.deferred_eq_zero clock counted gained] at deferred
    exact lt_irrefl _ deferred
  · intro loses
    obtain ⟨rate, passed⟩ := loses
    rw [taken] at passed
    apply exercisesThrottle_of_deferred burst
    rw [calls]
    exact BurstRun.deferred_pos clock rate (by omega) counted passed

/-- The bucket loses a token a second. -/
def drainingLimits : RateLimitConfig where
  burst := 2
  sustainedPerMin := -60
  resetSec := 60

theorem exercisesThrottle_draining :
    ExercisesThrottle (fun reading => 60 * reading) drainingLimits := by
  refine (exercisesThrottle_iff (by decide) ?_).mpr ⟨by decide, by decide +kernel⟩
  intro first second le
  have order : (first : Rat) ≤ second := by exact_mod_cast le
  simpa using order

/-- The credit pays for the call beyond the burst. -/
theorem no_throttle_triggered :
    ¬ ∀ (readings : Nat → Rat) (config : RateLimitConfig), Monotone readings →
      1 ≤ config.burst → 0 ≤ config.sustainedPerMin →
        RateLimitWindow.refillRate config * (readings (config.burst + 1).toNat - readings 0) < 1 →
          ExercisesThrottle readings config := by
  intro holds
  have exercises := holds (fun _ => 0) (RateLedger.minuteLimits 2) (fun _ _ _ => le_rfl)
    (by decide) (by decide) (by decide +kernel)
  exact absurd exercises.1 (by decide +kernel)

end BrokerCertificationSuite

end FxToushi.Brokers
