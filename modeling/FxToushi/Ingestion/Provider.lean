import FxToushi.Py.Number
import Mathlib.Algebra.Order.Field.Rat

namespace FxToushi.Ingestion

/-! # Providers, frames and the quality guard

What fetching and backfilling share: the frames a provider hands over, the
queue between fetching and processing, the retry settings of a provider and the
loop that passes a result's frames to the data quality guard.
-/

/-- A bar.  Of a bar's fields the service reads the timestamp only. -/
structure Bar where
  timestamp : Int
  openPrice : Rat := 0
  high : Rat := 0
  low : Rat := 0
  close : Rat := 0
deriving Repr, DecidableEq

structure MarketFrame where
  symbol : String
  timeframe : String
  bars : List Bar
  qualityFlag : Int := 0
deriving Repr, DecidableEq

structure ProviderResult where
  frames : List MarketFrame
  p95Ms : Rat
  p99Ms : Rat
  rateLimitRatio : Rat := 0
deriving Repr, DecidableEq

/-- What a provider handler does when it is called. -/
inductive HandlerReturn where
  | result (result : ProviderResult)
  | frames (frames : List MarketFrame)
  | unsupported
  | raises (text : String)
deriving Repr, DecidableEq

/-- What a call may raise: the two errors a provider attempt recognises, any
other exception, or an exit no handler of the service catches. -/
inductive Raised where
  | providerError (message : String)
  | dataQualityError (issues : List String) (status : String) (qualityFlag : Int)
  | unexpected
  | exits
deriving Repr, DecidableEq

def Raised.recognised : Raised → Bool
  | .providerError _ => true
  | .dataQualityError _ _ _ => true
  | .unexpected => false
  | .exits => false

/-- The stand-in result of a provider without a handler, stamped with the clock. -/
def defaultProviderFetch (now : Int) (symbols : List String) (timeframe : String) :
    ProviderResult where
  frames := symbols.map (fun symbol => { symbol, timeframe, bars := [{ timestamp := now }] })
  p95Ms := 120
  p99Ms := 150

def invokeProvider (provider : String) (returned : HandlerReturn) :
    Except Raised ProviderResult :=
  match returned with
  | .result result => .ok result
  | .frames frames => .ok { frames, p95Ms := 120, p99Ms := 150 }
  | .unsupported =>
    .error (.providerError ("provider " ++ provider ++ " returned unsupported payload"))
  | .raises text => .error (.providerError ("provider " ++ provider ++ " failed: " ++ text))

/-! ## Retry settings -/

structure ProviderProfile where
  retryMaxAttempts : Option Int := none
  retryBackoffSec : Option Rat := none
deriving Repr, DecidableEq

def resolveRetrySettings (profile : ProviderProfile) (defaultRetries : Int)
    (defaultBackoffMs : Rat) : Int × Rat :=
  ((profile.retryMaxAttempts.map (fun attempts => max (attempts - 1) 0)).getD defaultRetries,
    (profile.retryBackoffSec.map (fun seconds => max (seconds * 1000) 0)).getD defaultBackoffMs)

/-- How often `while retry_budget >= 0` can run. -/
def attemptsOf (retries : Int) : Nat := (retries + 1).toNat

/-! ## The buffer between fetching and processing -/

/-- The length of the queue and its limit.  A queue without room never holds
an item: to make room, `enqueue` pops from the empty queue and raises. -/
structure BufferCoordinator where
  maxsize : Int
  queued : Nat
  room : maxsize ≤ 0 → queued = 0

namespace BufferCoordinator

/-- A coordinator made with the defaults. -/
def fresh : BufferCoordinator where
  maxsize := 256
  queued := 0
  room := by decide

def enqueue (buffer : BufferCoordinator) : Option BufferCoordinator :=
  if positive : 0 < buffer.maxsize then
    some { buffer with
      queued := if buffer.maxsize ≤ buffer.queued then buffer.queued else buffer.queued + 1
      room := fun full => absurd positive (by omega) }
  else none

def pop (buffer : BufferCoordinator) : BufferCoordinator :=
  { buffer with queued := buffer.queued - 1, room := fun full => by simp [buffer.room full] }

@[simp] theorem pop_maxsize (buffer : BufferCoordinator) : buffer.pop.maxsize = buffer.maxsize :=
  rfl

theorem enqueue_eq_none_iff (buffer : BufferCoordinator) :
    buffer.enqueue = none ↔ buffer.maxsize ≤ 0 := by
  unfold enqueue
  split
  · rename_i positive
    exact ⟨fun absurdity => absurd absurdity (by simp), fun full => absurd positive (by omega)⟩
  · rename_i full
    exact ⟨fun _ => by omega, fun _ => rfl⟩

theorem enqueue_maxsize {buffer next : BufferCoordinator} (enqueued : buffer.enqueue = some next) :
    next.maxsize = buffer.maxsize := by
  unfold enqueue at enqueued
  split at enqueued
  · cases enqueued
    rfl
  · cases enqueued

theorem maxsize_pos {buffer : BufferCoordinator} (holds : buffer.queued ≠ 0) :
    0 < buffer.maxsize := by
  by_contra full
  exact holds (buffer.room (by omega))

end BufferCoordinator

/-- `DEFAULT_BUFFER_COORDINATOR`, which all calls share. -/
structure DefaultBuffer extends BufferCoordinator where
  capacity : maxsize = 256

def DefaultBuffer.fresh : DefaultBuffer where
  toBufferCoordinator := .fresh
  capacity := rfl

/-- `buffer_coordinator or DEFAULT_BUFFER_COORDINATOR`: one that holds nothing has
the length 0 and is passed over. -/
def DefaultBuffer.unless (default : DefaultBuffer) : Option BufferCoordinator → BufferCoordinator
  | some given => if given.queued = 0 then default.toBufferCoordinator else given
  | none => default.toBufferCoordinator

theorem DefaultBuffer.unless_maxsize (default : DefaultBuffer) (given : Option BufferCoordinator) :
    0 < (default.unless given).maxsize := by
  have shared : 0 < default.maxsize := by
    rw [default.capacity]
    decide
  cases given with
  | none => exact shared
  | some given =>
    rw [DefaultBuffer.unless]
    split
    · exact shared
    · exact BufferCoordinator.maxsize_pos ‹_›

/-! ## The quality guard -/

structure QualityResult where
  status : String
  issues : List String
  qualityFlag : Int
deriving Repr, DecidableEq

inductive Verdict where
  | returned (result : QualityResult)
  | raised (error : Raised)
deriving Repr, DecidableEq

def QualityResult.fails (result : QualityResult) : Bool :=
  result.status == "fail" || result.status == "error"

/-- The call returned a status other than `fail` and `error`. -/
def Verdict.passes : Verdict → Bool
  | .returned result => !result.fails
  | .raised _ => false

/-- A guard may keep a state of its own, such as the clock drift it reads. -/
abbrev Guard (World : Type) := World → MarketFrame → Verdict × World

structure Call where
  frame : MarketFrame
  verdict : Verdict
deriving Repr, DecidableEq

/-- The frames of a result after the guard went over them, the calls it took
and what stopped it. -/
structure Checked (World : Type) where
  frames : List MarketFrame
  calls : List Call
  failure : Option Raised
  world : World

/-- A guard that returns stores the flag it found in the frame. -/
def validateFrames {World : Type} (guard : Guard World) (world : World) :
    List MarketFrame → Checked World
  | [] => { frames := [], calls := [], failure := none, world }
  | frame :: rest =>
    match guard world frame with
    | (.raised error, next) =>
      { frames := frame :: rest, calls := [⟨frame, .raised error⟩], failure := some error
        world := next }
    | (.returned quality, next) =>
      let flagged := { frame with qualityFlag := quality.qualityFlag }
      let call : Call := ⟨flagged, .returned quality⟩
      if quality.fails then
        { frames := flagged :: rest, calls := [call], world := next
          failure := some
            (.dataQualityError quality.issues quality.status quality.qualityFlag) }
      else
        let later := validateFrames guard next rest
        { later with frames := flagged :: later.frames, calls := call :: later.calls }

def checkFrames {World : Type} (guard : Option (Guard World)) (world : World)
    (frames : List MarketFrame) : Checked World :=
  match guard with
  | none => { frames, calls := [], failure := none, world }
  | some guard => validateFrames guard world frames

variable {World : Type} {guard : Guard World}

/-- What the guard went over to the end passed it, frame by frame. -/
theorem validateFrames_passes {world : World} {frames : List MarketFrame}
    (finished : (validateFrames guard world frames).failure = none) :
    ∀ frame ∈ (validateFrames guard world frames).frames,
      ∃ call ∈ (validateFrames guard world frames).calls,
        call.frame = frame ∧ call.verdict.passes = true := by
  induction frames generalizing world with
  | nil => simp [validateFrames]
  | cons frame rest ih =>
    rw [validateFrames] at finished ⊢
    split at finished
    · simp at finished
    · rename_i quality next returned
      dsimp only
      split at finished
      · simp at finished
      · rename_i passes
        rw [if_neg passes]
        intro other member
        rcases List.mem_cons.mp member with rfl | later
        · exact ⟨_, List.mem_cons_self, rfl, by simp [Verdict.passes, passes]⟩
        · obtain ⟨call, found, same, passed⟩ := ih finished other later
          exact ⟨call, List.mem_cons_of_mem _ found, same, passed⟩

theorem validateFrames_failure {world : World} {frames : List MarketFrame} {error : Raised}
    (handled : ∀ world frame, (guard world frame).1 ≠ .raised .unexpected)
    (failed : (validateFrames guard world frames).failure = some error) : error ≠ .unexpected := by
  induction frames generalizing world with
  | nil => simp [validateFrames] at failed
  | cons frame rest ih =>
    rw [validateFrames] at failed
    split at failed
    · rename_i raised next returned
      rintro rfl
      refine handled world frame ?_
      rw [returned, ← Option.some.inj failed]
    · split at failed
      · rw [← Option.some.inj failed]
        simp
      · exact ih failed

theorem validateFrames_bars (world : World) (frames : List MarketFrame) :
    (validateFrames guard world frames).frames.map (fun frame => (frame.symbol, frame.bars)) =
      frames.map (fun frame => (frame.symbol, frame.bars)) := by
  induction frames generalizing world with
  | nil => rfl
  | cons frame rest ih =>
    rw [validateFrames]
    split
    · rfl
    · split
      · rfl
      · simpa using ih _

end FxToushi.Ingestion
