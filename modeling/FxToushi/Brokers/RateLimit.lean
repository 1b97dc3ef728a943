import FxToushi.Data.Dict
import FxToushi.Py.Number
import FxToushi.Py.Text
import Mathlib.Algebra.Order.Field.Rat

namespace FxToushi.Brokers

open Data Py

/-! # Rate limit window

A token bucket with one high-priority credit and a queue of refused calls.
`readings` are the values `_time_fn` returns one after the other and `reads`
counts how many of them were taken; the metrics file is only written.
-/

structure RateLimitConfig where
  burst : Int
  sustainedPerMin : Int
  resetSec : Int
  priorityRules : Dict String String := Dict.empty
  maxQueueSec : Int := 120
deriving DecidableEq

structure RateLimitReservation where
  allowed : Bool
  waitSec : Rat
  queueWaitMs : Rat
  priority : String
  tokensRemaining : Rat
  queued : Bool
  queueDepth : Nat := 0
deriving Repr, DecidableEq

structure RateLimitQueueEntry where
  operation : String
  priority : String
  enqueuedAt : Rat
deriving Repr, DecidableEq

structure RateLimitWindow where
  config : RateLimitConfig
  tokens : Rat
  lastRefill : Rat
  queue : List RateLimitQueueEntry := []
  creditLimit : Nat := 1
  creditUsed : Nat := 0
  reads : Nat
deriving DecidableEq

namespace RateLimitWindow

/-- `RateLimitWindow(config)`: a full bucket, stamped with the first reading. -/
def opened (readings : Nat → Rat) (config : RateLimitConfig) : RateLimitWindow where
  config
  tokens := config.burst
  lastRefill := readings 0
  reads := 1

def readClock (readings : Nat → Rat) (window : RateLimitWindow) : Rat × RateLimitWindow :=
  (readings window.reads, { window with reads := window.reads + 1 })

def priorityFor (window : RateLimitWindow) (operation : String) : String :=
  (window.config.priorityRules.get? operation).getD "medium"

/-- Drop the entries that waited too long.  An empty queue reads no clock. -/
def pruneQueue (readings : Nat → Rat) (window : RateLimitWindow) : RateLimitWindow :=
  if window.queue = [] then window
  else
    let (now, window) := window.readClock readings
    let maxAge : Rat := max window.config.maxQueueSec 1
    let kept := window.queue.filter (fun entry => decide (now - entry.enqueuedAt ≤ maxAge))
    { window with queue := kept }

def queueDepth (readings : Nat → Rat) (window : RateLimitWindow) : Nat × RateLimitWindow :=
  let pruned := window.pruneQueue readings
  (pruned.queue.length, pruned)

def refillRate (config : RateLimitConfig) : Rat := config.sustainedPerMin / 60

def elapsed (window : RateLimitWindow) (now : Rat) : Rat := max (now - window.lastRefill) 0

def refilled (window : RateLimitWindow) (now : Rat) : Rat :=
  min window.config.burst (window.tokens + window.elapsed now * refillRate window.config)

def refillTokens (readings : Nat → Rat) (window : RateLimitWindow) : RateLimitWindow :=
  let (now, window) := window.readClock readings
  { window with
    tokens := window.refilled now
    lastRefill := if (window.config.resetSec : Rat) ≤ window.elapsed now then now
      else window.lastRefill
    creditUsed := if 1 ≤ window.refilled now then 0 else window.creditUsed }

/-- What `_append_metrics` leaves behind: it asks for the queue depth. -/
def appendMetrics (readings : Nat → Rat) (window : RateLimitWindow) : RateLimitWindow :=
  (window.queueDepth readings).2

def grant (readings : Nat → Rat) (window : RateLimitWindow) (priority : String) :
    RateLimitReservation × RateLimitWindow :=
  let (depth, window) := window.queueDepth readings
  ({ allowed := true, waitSec := 0, queueWaitMs := 0, priority
     tokensRemaining := window.tokens, queued := false, queueDepth := depth },
    window.appendMetrics readings)

def refuse (readings : Nat → Rat) (window : RateLimitWindow) (operation priority : String) :
    RateLimitReservation × RateLimitWindow :=
  let (now, window) := window.readClock readings
  let waitSec := max (window.config.resetSec - (now - window.lastRefill)) 0
  let (enqueuedAt, window) := window.readClock readings
  let queued : RateLimitQueueEntry := { operation, priority, enqueuedAt }
  let window := { window with queue := window.queue ++ [queued] }
  let window := window.pruneQueue readings
  let (depth, window) := window.queueDepth readings
  ({ allowed := false, waitSec, queueWaitMs := roundTo (waitSec * 1000) 2, priority
     tokensRemaining := window.tokens, queued := true, queueDepth := depth },
    window.appendMetrics readings)

def reserveDetail (readings : Nat → Rat) (window : RateLimitWindow) (operation : String)
    (priority : Option String) : RateLimitReservation × RateLimitWindow :=
  let priority := orText priority (window.priorityFor operation)
  let window := window.refillTokens readings
  if 1 ≤ window.tokens then
    grant readings { window with tokens := window.tokens - 1 } priority
  else if priority = "high" ∧ window.creditUsed < window.creditLimit then
    grant readings
      { window with tokens := window.tokens - 1, creditUsed := window.creditUsed + 1 } priority
  else window.refuse readings operation priority

def reserve (readings : Nat → Rat) (window : RateLimitWindow) (operation : String)
    (priority : String) : (Bool × Rat) × RateLimitWindow :=
  let (reservation, window) := window.reserveDetail readings operation (some priority)
  ((reservation.allowed, reservation.waitSec), window)

/-- What `_append_limit_event` leaves behind: two queue depths, one of them
inside the metrics. -/
def appendLimitEvent (readings : Nat → Rat) (window : RateLimitWindow) : RateLimitWindow :=
  ((window.queueDepth readings).2).appendMetrics readings

def updateLimits (readings : Nat → Rat) (window : RateLimitWindow)
    (burst sustained : Option Int) : RateLimitWindow :=
  let config := { window.config with
    burst := (burst.map (max 1)).getD window.config.burst
    sustainedPerMin := (sustained.map (max 1)).getD window.config.sustainedPerMin }
  appendLimitEvent readings { window with config, tokens := min window.tokens config.burst }

def shrinkCapacity (readings : Nat → Rat) (window : RateLimitWindow) (factor : Rat) :
    RateLimitWindow :=
  let config := { window.config with
    burst := max 1 (truncate (window.config.burst * factor))
    sustainedPerMin := max 1 (truncate (window.config.sustainedPerMin * factor)) }
  appendLimitEvent readings { window with config, tokens := min window.tokens config.burst }

def tokensRemaining (readings : Nat → Rat) (window : RateLimitWindow) : Rat × RateLimitWindow :=
  let window := window.refillTokens readings
  (window.tokens, window)

/-! ## What a reservation does to the bucket

The queue and the clock readings it costs have no bearing on the tokens.
-/

/-- Two windows that differ in the queue and in the readings taken at most. -/
structure SameBucket (left right : RateLimitWindow) : Prop where
  config : left.config = right.config
  tokens : left.tokens = right.tokens
  lastRefill : left.lastRefill = right.lastRefill
  creditLimit : left.creditLimit = right.creditLimit
  creditUsed : left.creditUsed = right.creditUsed
  reads : right.reads ≤ left.reads

theorem SameBucket.trans {first second third : RateLimitWindow}
    (left : SameBucket first second) (right : SameBucket second third) :
    SameBucket first third :=
  ⟨left.config.trans right.config, left.tokens.trans right.tokens,
    left.lastRefill.trans right.lastRefill, left.creditLimit.trans right.creditLimit,
    left.creditUsed.trans right.creditUsed, right.reads.trans left.reads⟩

theorem pruneQueue_sameBucket (readings : Nat → Rat) (window : RateLimitWindow) :
    SameBucket (window.pruneQueue readings) window := by
  unfold pruneQueue
  split
  · exact ⟨rfl, rfl, rfl, rfl, rfl, Nat.le_refl _⟩
  · exact ⟨rfl, rfl, rfl, rfl, rfl, Nat.le_succ _⟩

theorem grant_allowed (readings : Nat → Rat) (window : RateLimitWindow) (priority : String) :
    (window.grant readings priority).1.allowed = true := rfl

theorem grant_sameBucket (readings : Nat → Rat) (window : RateLimitWindow) (priority : String) :
    SameBucket (window.grant readings priority).2 window :=
  (pruneQueue_sameBucket readings _).trans (pruneQueue_sameBucket readings window)

theorem refuse_allowed (readings : Nat → Rat) (window : RateLimitWindow)
    (operation priority : String) :
    (window.refuse readings operation priority).1.allowed = false := rfl

theorem refuse_sameBucket (readings : Nat → Rat) (window : RateLimitWindow)
    (operation priority : String) :
    SameBucket (window.refuse readings operation priority).2 window := by
  refine (pruneQueue_sameBucket readings _).trans ((pruneQueue_sameBucket readings _).trans
    ((pruneQueue_sameBucket readings _).trans ⟨rfl, rfl, rfl, rfl, rfl, ?_⟩))
  exact Nat.le_add_right window.reads 2

/-- The three ways a reservation ends: paid for by a token, paid for by the
high-priority credit, or refused. -/
inductive Reserved (refilled : RateLimitWindow)
    (result : RateLimitReservation × RateLimitWindow) : Prop where
  | token (allowed : result.1.allowed = true) (funds : 1 ≤ refilled.tokens)
      (bucket : SameBucket result.2 { refilled with tokens := refilled.tokens - 1 })
  | credit (allowed : result.1.allowed = true) (short : refilled.tokens < 1)
      (unused : refilled.creditUsed < refilled.creditLimit)
      (bucket : SameBucket result.2
        { refilled with
          tokens := refilled.tokens - 1, creditUsed := refilled.creditUsed + 1 })
  | refused (refused : result.1.allowed = false) (short : refilled.tokens < 1)
      (bucket : SameBucket result.2 refilled)

theorem reserveDetail_cases (readings : Nat → Rat) (window : RateLimitWindow)
    (operation : String) (priority : Option String) :
    Reserved (window.refillTokens readings)
      (window.reserveDetail readings operation priority) := by
  simp only [reserveDetail]
  split
  · rename_i funds
    exact .token (grant_allowed ..) funds (grant_sameBucket ..)
  · rename_i short
    rw [not_le] at short
    split
    · rename_i high
      exact .credit (grant_allowed ..) short high.2 (grant_sameBucket ..)
    · exact .refused (refuse_allowed ..) short (refuse_sameBucket ..)

end RateLimitWindow

end FxToushi.Brokers
