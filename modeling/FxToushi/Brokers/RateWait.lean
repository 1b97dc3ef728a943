import FxToushi.Brokers.RateBudget

namespace FxToushi.Brokers

open Data Py

/-! # The wait of a refused reservation

A refused caller is told to wait until the reset interval is over.  What comes
back in that time is the sustained rate, and the balance may be one token below
zero.
-/

namespace RateLimitWindow

variable {readings : Nat → Rat} {config : RateLimitConfig} {window : RateLimitWindow}
  {operation : String} {priority : Option String}

def priorityOf (window : RateLimitWindow) (call : ReserveCall) : String :=
  orText call.priority (window.priorityFor call.operation)

/-! ## One reservation -/

theorem refillTokens_tokens (window : RateLimitWindow) :
    (window.refillTokens readings).tokens = window.refilled (readings window.reads) := rfl

theorem allowed_of_funds (funds : 1 ≤ (window.refillTokens readings).tokens) :
    (window.reserveDetail readings operation priority).1.allowed = true := by
  simp only [reserveDetail, if_pos funds]
  rfl

theorem allowed_of_credit (high : window.priorityOf ⟨operation, priority⟩ = "high")
    (unused : (window.refillTokens readings).creditUsed <
      (window.refillTokens readings).creditLimit) :
    (window.reserveDetail readings operation priority).1.allowed = true := by
  unfold priorityOf at high
  simp only [reserveDetail]
  split
  · rfl
  · rw [if_pos ⟨high, unused⟩]
    rfl

theorem refused_eq (short : (window.refillTokens readings).tokens < 1)
    (uncredited : ¬ (window.priorityOf ⟨operation, priority⟩ = "high" ∧
      (window.refillTokens readings).creditUsed < (window.refillTokens readings).creditLimit)) :
    window.reserveDetail readings operation priority =
      (window.refillTokens readings).refuse readings operation
        (window.priorityOf ⟨operation, priority⟩) := by
  unfold priorityOf at uncredited ⊢
  simp only [reserveDetail, if_neg (not_le.mpr short), if_neg uncredited]

theorem short_of_refused
    (refused : (window.reserveDetail readings operation priority).1.allowed = false) :
    (window.refillTokens readings).tokens < 1 ∧
      ¬ (window.priorityOf ⟨operation, priority⟩ = "high" ∧
        (window.refillTokens readings).creditUsed <
          (window.refillTokens readings).creditLimit) := by
  constructor
  · by_contra funds
    rw [allowed_of_funds (not_lt.mp funds)] at refused
    cases refused
  · intro credited
    rw [allowed_of_credit credited.1 credited.2] at refused
    cases refused

theorem pruneQueue_of_empty {bucket : RateLimitWindow} (empty : bucket.queue = []) :
    bucket.pruneQueue readings = bucket := if_pos empty

theorem reserveDetail_of_funds (empty : window.queue = [])
    (funds : 1 ≤ (window.refillTokens readings).tokens) :
    (window.reserveDetail readings operation priority).2 =
      { window.refillTokens readings with
        tokens := (window.refillTokens readings).tokens - 1 } := by
  have kept : (window.refillTokens readings).queue = [] := empty
  simp only [reserveDetail, if_pos funds, grant, appendMetrics, queueDepth, pruneQueue_of_empty,
    kept]

theorem reserveDetail_of_credit (empty : window.queue = [])
    (short : (window.refillTokens readings).tokens < 1)
    (high : window.priorityOf ⟨operation, priority⟩ = "high")
    (unused : (window.refillTokens readings).creditUsed <
      (window.refillTokens readings).creditLimit) :
    (window.reserveDetail readings operation priority).2 =
      { window.refillTokens readings with
        tokens := (window.refillTokens readings).tokens - 1
        creditUsed := (window.refillTokens readings).creditUsed + 1 } := by
  have kept : (window.refillTokens readings).queue = [] := empty
  unfold priorityOf at high
  simp only [reserveDetail, if_neg (not_le.mpr short), if_pos (And.intro high unused), grant,
    appendMetrics, queueDepth, pruneQueue_of_empty, kept]

/-- A refill at the moment of the stamp credits nothing. -/
theorem refillTokens_still (still : readings window.reads = window.lastRefill)
    (capped : window.tokens ≤ window.config.burst) :
    window.refillTokens readings =
      { window with
        reads := window.reads + 1
        creditUsed := if 1 ≤ window.tokens then 0 else window.creditUsed } := by
  have level : window.refilled (readings window.reads) = window.tokens := by
    simp [refilled, elapsed, still, capped]
  have stamp : (if (window.config.resetSec : Rat) ≤ window.elapsed (readings window.reads) then
      readings window.reads else window.lastRefill) = window.lastRefill := by
    rw [still, ite_self]
  unfold refillTokens readClock
  change { window with
    reads := window.reads + 1
    tokens := window.refilled (readings window.reads)
    lastRefill := if (window.config.resetSec : Rat) ≤ window.elapsed (readings window.reads) then
      readings window.reads else window.lastRefill
    creditUsed := if 1 ≤ window.refilled (readings window.reads) then 0
      else window.creditUsed } = _
  rw [stamp, level]

/-! ## The debt of a window -/

/-- A window owes one token at most, and that one to the credit. -/
structure WithinCredit (config : RateLimitConfig) (window : RateLimitWindow) : Prop where
  limits : window.config = config
  creditLimit : window.creditLimit = 1
  creditUsed : window.creditUsed ≤ 1
  overdraft : -(window.creditUsed : Rat) ≤ window.tokens

theorem WithinCredit.refill (within : WithinCredit config window) (burst : 0 ≤ config.burst)
    (rate : 0 ≤ refillRate config) : WithinCredit config (window.refillTokens readings) := by
  have capacity : (0 : Rat) ≤ config.burst := by exact_mod_cast burst
  have owed : (0 : Rat) ≤ window.creditUsed := Nat.cast_nonneg _
  have credited : 0 ≤ window.elapsed (readings window.reads) * refillRate config :=
    mul_nonneg (le_max_right _ _) rate
  have level : -(window.creditUsed : Rat) ≤ window.refilled (readings window.reads) := by
    unfold refilled
    rw [within.limits]
    exact le_min (by linarith) (by linarith [within.overdraft])
  by_cases funds : 1 ≤ window.refilled (readings window.reads)
  · have cleared : (window.refillTokens readings).creditUsed = 0 := if_pos funds
    refine ⟨within.limits, within.creditLimit, by omega, ?_⟩
    rw [cleared]
    change -((0 : Nat) : Rat) ≤ window.refilled (readings window.reads)
    push_cast
    linarith
  · have kept : (window.refillTokens readings).creditUsed = window.creditUsed := if_neg funds
    refine ⟨within.limits, within.creditLimit, kept ▸ within.creditUsed, ?_⟩
    rw [kept]
    exact level

theorem WithinCredit.reserve (within : WithinCredit config window) (burst : 0 ≤ config.burst)
    (rate : 0 ≤ refillRate config) :
    WithinCredit config (window.reserveDetail readings operation priority).2 := by
  have refilled : WithinCredit config (window.refillTokens readings) := within.refill burst rate
  have overdraft := refilled.overdraft
  have reserved := reserveDetail_cases readings window operation priority
  generalize window.reserveDetail readings operation priority = result at reserved
  cases reserved with
  | token allowed funds bucket =>
    have cleared : (window.refillTokens readings).creditUsed = 0 := if_pos funds
    refine ⟨bucket.config.trans refilled.limits, bucket.creditLimit.trans refilled.creditLimit,
      bucket.creditUsed ▸ refilled.creditUsed, ?_⟩
    rw [bucket.tokens, bucket.creditUsed]
    change -((window.refillTokens readings).creditUsed : Rat) ≤ _
    rw [cleared]
    push_cast
    linarith
  | credit allowed short unused bucket =>
    have limit := refilled.creditLimit
    have none : (window.refillTokens readings).creditUsed = 0 := by omega
    have borrowed : result.2.creditUsed = 1 := by
      rw [bucket.creditUsed]
      change (window.refillTokens readings).creditUsed + 1 = 1
      rw [none]
    refine ⟨bucket.config.trans refilled.limits, bucket.creditLimit.trans refilled.creditLimit,
      le_of_eq borrowed, ?_⟩
    rw [bucket.tokens, borrowed]
    change -((1 : Nat) : Rat) ≤ (window.refillTokens readings).tokens - 1
    rw [none] at overdraft
    push_cast at overdraft ⊢
    linarith
  | refused refused short bucket =>
    refine ⟨bucket.config.trans refilled.limits, bucket.creditLimit.trans refilled.creditLimit,
      bucket.creditUsed ▸ refilled.creditUsed, ?_⟩
    rw [bucket.tokens, bucket.creditUsed]
    exact overdraft

end RateLimitWindow

namespace RateLedger

variable {readings : Nat → Rat} {config : RateLimitConfig}

theorem withinCredit_run (burst : 1 ≤ config.burst) (sustained : 1 ≤ config.sustainedPerMin)
    (calls : List ReserveCall) :
    (runFrom (step readings) (opened readings config) calls).window.WithinCredit config := by
  have rate : 0 ≤ RateLimitWindow.refillRate config := by
    have positive : (1 : Rat) ≤ config.sustainedPerMin := by exact_mod_cast sustained
    unfold RateLimitWindow.refillRate
    positivity
  have initial : (opened readings config).window.WithinCredit config := by
    have capacity : (1 : Rat) ≤ config.burst := by exact_mod_cast burst
    refine ⟨rfl, rfl, Nat.zero_le 1, ?_⟩
    change -((0 : Nat) : Rat) ≤ config.burst
    push_cast
    linarith
  have kept : Throughout (step readings) (fun ledger => ledger.window.WithinCredit config)
      (opened readings config) calls :=
    throughout_of_step (fun _ _ within => within.reserve (by omega) rate) initial
  exact kept.final

/-- Once the advertised wait of a refused call is over, a call of its priority is
allowed, when no reservation is made in between.  The wait is taken from the second
reading of the refused call. -/
def WaitSuffices (config : RateLimitConfig) : Prop :=
  ∀ readings : Nat → Rat, Monotone readings →
    ∀ (calls : List ReserveCall) (call retry : ReserveCall),
      let window := (runFrom (step readings) (opened readings config) calls).window
      let result := window.reserveDetail readings call.operation call.priority
      result.1.allowed = false →
        result.2.priorityOf retry = window.priorityOf call →
          readings (window.reads + 1) + result.1.waitSec ≤ readings result.2.reads →
            (result.2.reserveDetail readings retry.operation retry.priority).1.allowed = true

open RateLimitWindow

/-- After the wait a whole reset interval has passed since the stamp. -/
theorem resetSec_le_elapsed {window : RateLimitWindow} {operation priority : String} {now : Rat}
    (waited : readings window.reads + (window.refuse readings operation priority).1.waitSec ≤ now) :
    (window.config.resetSec : Rat) ≤ (window.refuse readings operation priority).2.elapsed now := by
  have bucket := refuse_sameBucket readings window operation priority
  have wait : (window.refuse readings operation priority).1.waitSec =
      max (window.config.resetSec - (readings window.reads - window.lastRefill)) 0 := rfl
  rw [wait] at waited
  have left := le_max_left
    ((window.config.resetSec : Rat) - (readings window.reads - window.lastRefill)) 0
  unfold elapsed
  rw [bucket.lastRefill]
  exact le_max_of_le_left (by linarith)

/-- Two tokens a reset interval make up for any debt. -/
theorem waitSuffices_of_twoTokens (burst : 1 ≤ config.burst)
    (sustained : 1 ≤ config.sustainedPerMin)
    (twoTokens : 120 ≤ config.sustainedPerMin * config.resetSec) : WaitSuffices config := by
  intro readings _ calls call retry window result refused samePriority waited
  have perMinute : (1 : Rat) ≤ config.sustainedPerMin := by exact_mod_cast sustained
  have capacity : (1 : Rat) ≤ config.burst := by exact_mod_cast burst
  have rate : 0 ≤ refillRate config := by
    unfold refillRate
    positivity
  have within : (window.refillTokens readings).WithinCredit config :=
    (withinCredit_run burst sustained calls).refill (by omega) rate
  obtain ⟨short, uncredited⟩ := short_of_refused refused
  have found : result = (window.refillTokens readings).refuse readings call.operation
      (window.priorityOf call) := refused_eq short uncredited
  rw [found] at waited ⊢
  have bucket := refuse_sameBucket readings (window.refillTokens readings) call.operation
    (window.priorityOf call)
  have passed := @resetSec_le_elapsed readings (window.refillTokens readings) _ _ _ waited
  rw [within.limits] at passed
  -- the debt is one token at most, the interval gives back two
  have debt : -1 ≤ (window.refillTokens readings).tokens := by
    have used : ((window.refillTokens readings).creditUsed : Rat) ≤ 1 := by
      exact_mod_cast within.creditUsed
    linarith [within.overdraft]
  have interval : 2 ≤ (config.resetSec : Rat) * refillRate config := by
    have product : (120 : Rat) ≤ config.sustainedPerMin * config.resetSec := by
      exact_mod_cast twoTokens
    unfold refillRate
    linarith
  apply allowed_of_funds
  rw [refillTokens_tokens, refilled, bucket.config, bucket.tokens, within.limits]
  have credited := mul_le_mul_of_nonneg_right passed rate
  exact le_min capacity (by linarith)

/-! ## A window that owes a token -/

def highCall : ReserveCall := ⟨"order.place", some "high"⟩

def mediumCall : ReserveCall := ⟨"order.place", some "medium"⟩

/-- The bucket while the clock stands still, after some of its tokens were taken. -/
def drained (config : RateLimitConfig) (start : Rat) (taken : Nat) : RateLimitWindow where
  config
  tokens := config.burst - taken
  lastRefill := start
  reads := taken + 1

theorem refillTokens_drained {start : Rat} {taken : Nat}
    (still : readings (taken + 1) = start) :
    (drained config start taken).refillTokens readings =
      { drained config start taken with reads := taken + 2 } := by
  rw [refillTokens_still still (by simp [drained])]
  unfold drained
  congr 1
  exact ite_self _

theorem reserveDetail_drained {start : Rat} {taken : Nat}
    (still : readings (taken + 1) = start) (left : (taken + 1 : Int) ≤ config.burst) :
    ((drained config start taken).reserveDetail readings "order.place" (some "high")).2 =
      drained config start (taken + 1) := by
  have funds : (1 : Rat) ≤ config.burst - taken := by
    have enough : (taken + 1 : Rat) ≤ config.burst := by exact_mod_cast left
    linarith
  rw [reserveDetail_of_funds rfl (by rw [refillTokens_drained still]; exact funds),
    refillTokens_drained still]
  simp [drained, sub_sub]

theorem run_drained {count : Nat} (still : ∀ read ≤ count, readings read = readings 0)
    (left : (count : Int) ≤ config.burst) :
    (runFrom (step readings) (opened readings config) (List.replicate count highCall)).window =
      drained config (readings 0) count := by
  induction count with
  | zero => simp [runFrom, opened, RateLimitWindow.opened, drained]
  | succ count ih =>
    have before := ih (fun read le => still read (by omega)) (by omega)
    rw [List.replicate_succ', runFrom, List.foldl_append, ← runFrom]
    change (reserveDetail readings
      (runFrom (step readings) (opened readings config) (List.replicate count highCall)).window
      "order.place" (some "high")).2 = _
    rw [before]
    exact reserveDetail_drained (still _ le_rfl) (by push_cast at left ⊢; omega)

/-- The bucket when the credit was taken as well. -/
def owing (config : RateLimitConfig) (start : Rat) (reads : Nat) : RateLimitWindow where
  config
  tokens := -1
  lastRefill := start
  creditUsed := 1
  reads

theorem run_owing {count : Nat} (counted : config.burst = count)
    (still : ∀ read ≤ count + 1, readings read = readings 0) :
    (runFrom (step readings) (opened readings config)
      (List.replicate (count + 1) highCall)).window = owing config (readings 0) (count + 2) := by
  have emptied := @run_drained readings config count (fun read le => still read (by omega))
    (by omega)
  have refilled := @refillTokens_drained readings config (readings 0) count
    (still (count + 1) le_rfl)
  have none : (config.burst : Rat) - count = 0 := by
    rw [counted]
    simp
  rw [List.replicate_succ', runFrom, List.foldl_append, ← runFrom]
  change (reserveDetail readings
    (runFrom (step readings) (opened readings config) (List.replicate count highCall)).window
    "order.place" (some "high")).2 = _
  rw [emptied, reserveDetail_of_credit rfl (by rw [refilled]; simp [drained, none]) rfl
    (by rw [refilled]; exact Nat.zero_lt_one), refilled]
  simp [drained, owing, none]

theorem refillTokens_owing {start : Rat} {reads : Nat} (burst : 1 ≤ config.burst)
    (still : readings reads = start) :
    (owing config start reads).refillTokens readings = owing config start (reads + 1) := by
  have capacity : (1 : Rat) ≤ config.burst := by exact_mod_cast burst
  rw [refillTokens_still still (by change (-1 : Rat) ≤ config.burst; linarith)]
  unfold owing
  congr 1

theorem refuse_reads {window : RateLimitWindow} {operation priority : String}
    (empty : window.queue = [])
    (still : ∀ read ≤ window.reads + 4, readings read = 0) :
    (window.refuse readings operation priority).2.reads = window.reads + 5 := by
  simp [refuse, readClock, pruneQueue, queueDepth, appendMetrics, empty, still]

/-- The clock stands still until the given reading, then the interval has passed. -/
def jump (count : Nat) (resetSec : Int) (read : Nat) : Rat := if read < count then 0 else resetSec

theorem jump_monotone {count : Nat} {resetSec : Int} (reset : 0 ≤ resetSec) :
    Monotone (jump count resetSec) := by
  have interval : (0 : Rat) ≤ resetSec := by exact_mod_cast reset
  intro first second le
  unfold jump
  split
  · split
    · exact le_refl _
    · exact interval
  · rw [if_neg (by omega)]

/-- The bucket is emptied, the credit taken and a call refused; a reset interval
later less than a whole token is there. -/
theorem not_waitSuffices (burst : 1 ≤ config.burst) (reset : 1 ≤ config.resetSec)
    (tooFew : config.sustainedPerMin * config.resetSec < 120) : ¬ WaitSuffices config := by
  intro holds
  obtain ⟨count, counted⟩ := Int.eq_ofNat_of_zero_le (show 0 ≤ config.burst by omega)
  have still : ∀ read < count + 8, jump (count + 8) config.resetSec read = 0 :=
    fun read before => if_pos before
  generalize clock : jump (count + 8) config.resetSec = readings at still
  have emptied := @run_owing readings config count counted
    (fun read le => by rw [still read (by omega), still 0 (by omega)])
  rw [still 0 (by omega)] at emptied
  have refilled := @refillTokens_owing readings config 0 (count + 2) burst (still _ (by omega))
  have medium : ∀ window : RateLimitWindow, ∀ used : Prop,
      ¬ (window.priorityOf mediumCall = "high" ∧ used) :=
    fun _ _ both => absurd (show "medium" = "high" from both.1) (by decide)
  have refused : (owing config 0 (count + 2)).reserveDetail readings mediumCall.operation
      mediumCall.priority =
        (owing config 0 (count + 3)).refuse readings "order.place" "medium" := by
    have eq := @refused_eq readings (owing config 0 (count + 2)) mediumCall.operation
      mediumCall.priority (by rw [refilled]; exact show (-1 : Rat) < 1 by norm_num) (medium _ _)
    rwa [refilled] at eq
  have bucket := refuse_sameBucket readings (owing config 0 (count + 3)) "order.place" "medium"
  have read := @refuse_reads readings (owing config 0 (count + 3)) "order.place" "medium" rfl
    (fun read le => still read (by change read ≤ count + 3 + 4 at le; omega))
  have allowed := holds readings (clock ▸ jump_monotone (by omega))
    (List.replicate (count + 1) highCall) mediumCall mediumCall
  rw [emptied] at allowed
  simp only [refused] at allowed
  have interval : (0 : Rat) ≤ config.resetSec := by exact_mod_cast (by omega : 0 ≤ config.resetSec)
  have later : readings ((owing config 0 (count + 3)).refuse readings "order.place"
      "medium").2.reads = config.resetSec := by
    rw [read, ← clock]
    exact if_neg (by change ¬ count + 3 + 5 < count + 8; omega)
  have waited : readings (count + 2 + 1) + ((owing config 0 (count + 3)).refuse readings
      "order.place" "medium").1.waitSec = config.resetSec := by
    change readings (count + 3) + max ((config.resetSec : Rat) - (readings (count + 3) - 0)) 0 = _
    rw [still (count + 3) (by omega), sub_zero, sub_zero, zero_add, max_eq_left interval]
  have served := allowed rfl rfl (le_of_eq (waited.trans later.symm))
  generalize (owing config 0 (count + 3)).refuse readings "order.place" "medium" = result at *
  -- the retry finds the debt and less than two tokens of the interval
  have short : (result.2.refillTokens readings).tokens < 1 := by
    have product : (config.sustainedPerMin : Rat) * config.resetSec < 120 := by
      exact_mod_cast tooFew
    have debt : result.2.tokens = -1 := bucket.tokens
    have stamp : result.2.lastRefill = 0 := bucket.lastRefill
    have limits : result.2.config = config := bucket.config
    rw [refillTokens_tokens, RateLimitWindow.refilled, elapsed, later, debt, stamp, limits,
      sub_zero, max_eq_left interval, refillRate]
    exact min_lt_of_right_lt (by linarith)
  have again := @refused_eq readings result.2 mediumCall.operation mediumCall.priority short
    (medium _ _)
  rw [again] at served
  cases served

def slowLimits : RateLimitConfig where
  burst := 1
  sustainedPerMin := 1
  resetSec := 60

end RateLedger

end FxToushi.Brokers
