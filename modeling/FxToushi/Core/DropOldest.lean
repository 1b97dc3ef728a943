import FxToushi.Core.EventBus
import Mathlib.Data.List.Count

namespace FxToushi.Core

open Data

/-! # One publisher under drop-oldest

A publisher awaits its calls of `publish` one after the other.  A call is in the parts it is made
of, between any two of which the queue may be consumed: the depth is sampled, the pressure
relieved, the log written and the envelope put.
-/

variable {Event Context : Type*}

/-- A call of `publish`; `written` is false where the record is not one that can be written, so
that a call that persists raises. -/
structure PublishCall (Event Context : Type*) where
  envelope : Envelope Event Context
  persist : Bool := true
  written : Bool := true

def PublishCall.raises (call : PublishCall Event Context) : Bool := call.persist && !call.written

/-- How far the publisher's call is. -/
inductive PublishPhase (Event Context : Type*) where
  | idle
  | sampled (call : PublishCall Event Context) (queueDepth : Nat)
  | relieved (call : PublishCall Event Context)
  | logged (call : PublishCall Event Context)
  | waiting (call : PublishCall Event Context)

def PublishPhase.calls : PublishPhase Event Context → List (PublishCall Event Context)
  | .idle => []
  | .sampled call _ | .relieved call | .logged call | .waiting call => [call]

/-- An envelope that left the queue, delivered or dropped. -/
structure Departure (Event Context : Type*) where
  envelope : Envelope Event Context
  delivered : Bool

/-- `calls` are still to be made.  What departed is kept for the statements only. -/
structure PublisherBus (Event Context : Type*) where
  config : EventBusConfig
  queue : List (Envelope Event Context) := []
  droppedEvents : Nat := 0
  phase : PublishPhase Event Context := .idle
  calls : List (PublishCall Event Context)
  departed : List (Departure Event Context) := []

namespace PublisherBus

def opened (config : EventBusConfig) (calls : List (PublishCall Event Context)) :
    PublisherBus Event Context := { config, calls }

/-- `queue.get_nowait()`, with `none` for `QueueEmpty`. -/
def getNowait (bus : PublisherBus Event Context) (delivered : Bool) :
    Option (PublisherBus Event Context) :=
  match bus.queue with
  | [] => none
  | envelope :: queue =>
    some { bus with queue, departed := bus.departed ++ [{ envelope, delivered }] }

def handleDropOldest (bus : PublisherBus Event Context) : PublisherBus Event Context :=
  match bus.getNowait false with
  | none => bus
  | some bus => { bus with droppedEvents := bus.droppedEvents + 1 }

/-- The depth is the sampled one. -/
def applyBackpressure (bus : PublisherBus Event Context) (queueDepth : Nat) :
    PublisherBus Event Context :=
  if queueDepth < bus.config.queueMaxsize then bus
  else match bus.config.backpressurePolicy with
    | .dropOldest => bus.handleDropOldest
    | .block | .snapshotReplay => bus

/-- `queue.put`, which waits on a full queue. -/
def put (bus : PublisherBus Event Context) (call : PublishCall Event Context) :
    PublisherBus Event Context :=
  if bus.queue.length < bus.config.queueMaxsize then
    { bus with queue := bus.queue ++ [call.envelope], phase := .idle }
  else { bus with phase := .waiting call }

/-- The publisher goes on, or a consumer takes an envelope. -/
inductive Turn where
  | resume
  | get

def resume (bus : PublisherBus Event Context) : PublisherBus Event Context :=
  match bus.phase with
  | .idle =>
    match bus.calls with
    | [] => bus
    | call :: calls => { bus with calls, phase := .sampled call bus.queue.length }
  | .sampled call queueDepth =>
    { bus.applyBackpressure queueDepth with phase := .relieved call }
  | .relieved call =>
    if call.raises then { bus with phase := .idle } else { bus with phase := .logged call }
  | .logged call | .waiting call => bus.put call

def step (bus : PublisherBus Event Context) : Turn → PublisherBus Event Context
  | .resume => bus.resume
  | .get => (bus.getNowait true).getD bus

/-- The envelopes of the calls that go through. -/
def published (made : List (PublishCall Event Context)) : List (Envelope Event Context) :=
  (made.filter (!·.raises)).map (·.envelope)

def delivered (bus : PublisherBus Event Context) : List (Envelope Event Context) :=
  (bus.departed.filter (·.delivered)).map (·.envelope)

/-- What was published and not delivered, in the order of publication. -/
def undelivered (bus : PublisherBus Event Context) : List (Envelope Event Context) :=
  (bus.departed.filter (!·.delivered)).map (·.envelope) ++ bus.queue

theorem getNowait_cons {bus : PublisherBus Event Context} {envelope : Envelope Event Context}
    {queue : List (Envelope Event Context)} (held : bus.queue = envelope :: queue)
    (delivered : Bool) :
    bus.getNowait delivered =
      some { bus with queue, departed := bus.departed ++ [{ envelope, delivered }] } := by
  rw [getNowait, held]

theorem getNowait_nil {bus : PublisherBus Event Context} (empty : bus.queue = [])
    (delivered : Bool) : bus.getNowait delivered = none := by
  rw [getNowait, empty]

/-! ## A call that nobody interrupts -/

theorem applyBackpressure_whole {bus : PublisherBus Event Context}
    {whole : EventBus Event Context} (config : whole.config = bus.config)
    (queue : whole.queue = bus.queue) (dropped : whole.droppedEvents = bus.droppedEvents) :
    (bus.applyBackpressure bus.queue.length).queue = whole.applyBackpressure.queue ∧
      (bus.applyBackpressure bus.queue.length).droppedEvents =
        whole.applyBackpressure.droppedEvents ∧
      (bus.applyBackpressure bus.queue.length).config = whole.applyBackpressure.config := by
  rw [applyBackpressure, EventBus.applyBackpressure, config, queue]
  by_cases room : bus.queue.length < bus.config.queueMaxsize
  · rw [if_pos room, if_pos room]
    exact ⟨queue.symm, dropped.symm, config.symm⟩
  · rw [if_neg room, if_neg room]
    cases bus.config.backpressurePolicy with
    | dropOldest =>
      cases held : bus.queue with
      | nil =>
        rw [held] at room
        exact absurd bus.config.positive room
      | cons envelope rest =>
        simp only [handleDropOldest, getNowait_cons held, dropped, List.tail_cons, and_self]
    | block => exact ⟨queue.symm, dropped.symm, config.symm⟩
    | snapshotReplay => exact ⟨queue.symm, dropped.symm, config.symm⟩

theorem applyBackpressure_phase (bus : PublisherBus Event Context)
    (calls : List (PublishCall Event Context)) (phase : PublishPhase Event Context)
    (queueDepth : Nat) :
    ({ bus with calls, phase } : PublisherBus Event Context).applyBackpressure queueDepth =
      { bus.applyBackpressure queueDepth with calls, phase } := by
  simp only [applyBackpressure]
  split
  · rfl
  · split
    · cases held : bus.queue with
      | nil => simp only [handleDropOldest, getNowait, held]
      | cons envelope rest => simp only [handleDropOldest, getNowait, held]
    · rfl
    · rfl

theorem put_whole {bus : PublisherBus Event Context} {whole : EventBus Event Context}
    (config : whole.config = bus.config) (queue : bus.queue = whole.queue)
    (dropped : bus.droppedEvents = whole.droppedEvents) (call : PublishCall Event Context) :
    (bus.put call).queue = (whole.put call.envelope).queue ∧
      (bus.put call).droppedEvents = (whole.put call.envelope).droppedEvents := by
  rw [put, EventBus.put, config, queue]
  split
  · exact ⟨rfl, dropped⟩
  · exact ⟨rfl, dropped⟩

/-- The turns of a whole call, one after the other, do what the bus does at once. -/
theorem resume_call {bus : PublisherBus Event Context} (idle : bus.phase = .idle)
    {call : PublishCall Event Context} {calls : List (PublishCall Event Context)}
    (next : bus.calls = call :: calls) (fits : call.raises = false)
    {whole : EventBus Event Context} (config : whole.config = bus.config)
    (queue : whole.queue = bus.queue) (dropped : whole.droppedEvents = bus.droppedEvents) :
    let after := runFrom step bus [.resume, .resume, .resume, .resume]
    after.queue = (whole.publish call.envelope).queue ∧
      after.droppedEvents = (whole.publish call.envelope).droppedEvents := by
  obtain ⟨relievedQueue, relievedDropped, relievedConfig⟩ :=
    applyBackpressure_whole config queue dropped
  have called : runFrom step bus [.resume, .resume, .resume, .resume] =
      ({ bus.applyBackpressure bus.queue.length with calls, phase := .logged call } :
        PublisherBus Event Context).put call := by
    have sampled : bus.step .resume =
        { bus with calls, phase := .sampled call bus.queue.length } := by
      rw [step, resume, idle]
      simp only [next]
    have relieved : ({ bus with calls, phase := .sampled call bus.queue.length } :
        PublisherBus Event Context).step .resume =
          { bus.applyBackpressure bus.queue.length with calls, phase := .relieved call } := by
      simp only [step, resume, applyBackpressure_phase]
    have logged : ({ bus.applyBackpressure bus.queue.length with
        calls, phase := .relieved call } : PublisherBus Event Context).step .resume =
          { bus.applyBackpressure bus.queue.length with calls, phase := .logged call } := by
      simp only [step, resume, fits, Bool.false_eq_true, if_false]
    rw [runFrom, List.foldl_cons, sampled, List.foldl_cons, relieved, List.foldl_cons, logged]
    rfl
  rw [called]
  exact @put_whole _ _ { bus.applyBackpressure bus.queue.length with calls, phase := .logged call }
    _ relievedConfig.symm relievedQueue relievedDropped call

/-! ## What is kept -/

/-- What the publisher knows of the queue in each phase. -/
def Roomy (bus : PublisherBus Event Context) : Prop :=
  match bus.phase with
  | .idle => True
  | .sampled _ queueDepth => bus.queue.length ≤ queueDepth
  | .relieved _ => bus.queue.length < bus.config.queueMaxsize
  | .logged call => call.raises = false ∧ bus.queue.length < bus.config.queueMaxsize
  | .waiting _ => False

/-- The calls are those that were made, the one under way and those still to be made, and what
the first of these published is what left the queue, oldest first, and then what is in it. -/
structure Accounted (calls made : List (PublishCall Event Context))
    (bus : PublisherBus Event Context) : Prop where
  inOrder : calls = made ++ bus.phase.calls ++ bus.calls
  held : published made = bus.departed.map (·.envelope) ++ bus.queue

structure Kept (calls : List (PublishCall Event Context)) (bus : PublisherBus Event Context) :
    Prop where
  policy : bus.config.backpressurePolicy = .dropOldest
  bounded : bus.queue.length ≤ bus.config.queueMaxsize
  roomy : bus.Roomy
  accounted : ∃ made, bus.Accounted calls made
  dropped : bus.droppedEvents = bus.departed.countP fun departure => !departure.delivered

/-- The queue is within its bound and the publisher not held up, every event that was published
left the queue or is in it, what left without being delivered was counted, and what is in the
queue was published last of what was not delivered. -/
structure KeepsNewest (calls : List (PublishCall Event Context))
    (bus : PublisherBus Event Context) : Prop where
  bounded : bus.queue.length ≤ bus.config.queueMaxsize
  unblocked : ∀ call, bus.phase ≠ .waiting call
  dropped : bus.droppedEvents = (bus.departed.filter (!·.delivered)).length
  newest : bus.queue <:+ bus.undelivered
  accounted : ∃ made, bus.Accounted calls made ∧ bus.undelivered.Sublist (published made) ∧
    (published made).length = bus.delivered.length + bus.queue.length + bus.droppedEvents

theorem opened_kept {config : EventBusConfig} (policy : config.backpressurePolicy = .dropOldest)
    (calls : List (PublishCall Event Context)) : (opened config calls).Kept calls where
  policy
  bounded := Nat.zero_le _
  roomy := trivial
  accounted := ⟨[], rfl, rfl⟩
  dropped := rfl

theorem getNowait_roomy {bus : PublisherBus Event Context} {envelope : Envelope Event Context}
    {rest : List (Envelope Event Context)} (held : bus.queue = envelope :: rest)
    (roomy : bus.Roomy) (departed : List (Departure Event Context)) :
    ({ bus with queue := rest, departed } : PublisherBus Event Context).Roomy := by
  unfold Roomy at roomy ⊢
  cases phase : bus.phase with
  | idle => trivial
  | sampled call queueDepth =>
    simp only [phase, held, List.length_cons] at roomy ⊢
    omega
  | relieved call =>
    simp only [phase, held, List.length_cons] at roomy ⊢
    omega
  | logged call =>
    simp only [phase, held, List.length_cons] at roomy ⊢
    exact ⟨roomy.1, by omega⟩
  | waiting call =>
    rw [phase] at roomy
    exact roomy.elim

section Kept

variable {calls : List (PublishCall Event Context)} {bus : PublisherBus Event Context}

theorem get_kept (kept : bus.Kept calls) : ((bus.getNowait true).getD bus).Kept calls := by
  obtain ⟨policy, bounded, roomy, ⟨made, inOrder, accounted⟩, dropped⟩ := kept
  cases held : bus.queue with
  | nil =>
    rw [getNowait_nil held]
    exact ⟨policy, bounded, roomy, ⟨made, inOrder, accounted⟩, dropped⟩
  | cons envelope rest =>
    rw [getNowait_cons held]
    refine ⟨policy, ?_, getNowait_roomy held roomy _, ⟨made, inOrder, ?_⟩, ?_⟩
    · rw [held, List.length_cons] at bounded
      exact Nat.le_of_succ_le bounded
    · simp [accounted, held]
    · simp [dropped]

/-- After the pressure is relieved there is room, also where the sampled depth is
no longer that of the queue. -/
theorem applyBackpressure_kept (kept : bus.Kept calls) {call : PublishCall Event Context}
    {queueDepth : Nat} (phase : bus.phase = .sampled call queueDepth) :
    ({ bus.applyBackpressure queueDepth with phase := .relieved call } :
      PublisherBus Event Context).Kept calls := by
  obtain ⟨policy, bounded, sampled, ⟨made, inOrder, accounted⟩, dropped⟩ := kept
  rw [Roomy, phase] at sampled
  rw [phase] at inOrder
  rw [applyBackpressure]
  by_cases room : queueDepth < bus.config.queueMaxsize
  · rw [if_pos room]
    exact ⟨policy, bounded, Nat.lt_of_le_of_lt sampled room, ⟨made, inOrder, accounted⟩, dropped⟩
  · rw [if_neg room, policy]
    cases held : bus.queue with
    | nil =>
      simp only [handleDropOldest, getNowait_nil held]
      refine ⟨policy, bounded, ?_, ⟨made, inOrder, accounted⟩, dropped⟩
      simpa [Roomy, held] using bus.config.positive
    | cons oldest rest =>
      rw [held, List.length_cons] at bounded
      simp only [handleDropOldest, getNowait_cons held]
      refine ⟨policy, Nat.le_of_succ_le bounded, bounded, ⟨made, inOrder, ?_⟩, ?_⟩
      · simp [accounted, held]
      · simp [dropped]

theorem made_of_phase {made rest : List (PublishCall Event Context)}
    {call : PublishCall Event Context} (inOrder : calls = made ++ [call] ++ rest) :
    calls = (made ++ [call]) ++ PublishPhase.idle.calls ++ rest := by
  rw [inOrder, PublishPhase.calls, List.append_nil]

theorem published_append (made : List (PublishCall Event Context))
    (call : PublishCall Event Context) :
    published (made ++ [call]) =
      published made ++ if call.raises then [] else [call.envelope] := by
  cases raised : call.raises <;> simp [published, List.filter_append, raised]

theorem relieved_kept (kept : bus.Kept calls) {call : PublishCall Event Context}
    (phase : bus.phase = .relieved call) :
    (if call.raises then { bus with phase := .idle } else { bus with phase := .logged call } :
      PublisherBus Event Context).Kept calls := by
  obtain ⟨policy, bounded, roomy, ⟨made, inOrder, accounted⟩, dropped⟩ := kept
  rw [Roomy, phase] at roomy
  rw [phase] at inOrder
  split
  · rename_i raised
    refine ⟨policy, bounded, trivial, ⟨made ++ [call], made_of_phase inOrder, ?_⟩, dropped⟩
    rw [published_append, if_pos raised, List.append_nil]
    exact accounted
  · rename_i goes
    refine ⟨policy, bounded, ⟨?_, roomy⟩, ⟨made, inOrder, accounted⟩, dropped⟩
    exact Bool.eq_false_iff.mpr goes

theorem put_kept (kept : bus.Kept calls) {call : PublishCall Event Context}
    (phase : bus.phase = .logged call) : (bus.put call).Kept calls := by
  obtain ⟨policy, bounded, roomy, ⟨made, inOrder, accounted⟩, dropped⟩ := kept
  rw [Roomy, phase] at roomy
  obtain ⟨goes, room⟩ := roomy
  rw [phase] at inOrder
  rw [put, if_pos room]
  refine ⟨policy, ?_, trivial, ⟨made ++ [call], made_of_phase inOrder, ?_⟩, dropped⟩
  · rw [List.length_append]
    exact room
  · rw [published_append, goes, accounted]
    simp

theorem resume_kept (kept : bus.Kept calls) : bus.resume.Kept calls := by
  rw [resume]
  cases phase : bus.phase with
  | idle =>
    cases next : bus.calls with
    | nil => exact kept
    | cons call rest =>
      obtain ⟨policy, bounded, -, ⟨made, inOrder, accounted⟩, dropped⟩ := kept
      refine ⟨policy, bounded, le_rfl, ⟨made, ?_, accounted⟩, dropped⟩
      rw [inOrder, phase, next]
      simp [PublishPhase.calls]
  | sampled call queueDepth => exact applyBackpressure_kept kept phase
  | relieved call => exact relieved_kept kept phase
  | logged call => exact put_kept kept phase
  | waiting call =>
    have roomy := kept.roomy
    rw [Roomy, phase] at roomy
    exact roomy.elim

theorem step_kept (kept : bus.Kept calls) (turn : Turn) : (bus.step turn).Kept calls := by
  cases turn with
  | resume => exact resume_kept kept
  | get => exact get_kept kept

theorem Kept.keepsNewest (kept : bus.Kept calls) : bus.KeepsNewest calls := by
  obtain ⟨-, bounded, roomy, ⟨made, accounted⟩, dropped⟩ := kept
  have lost : bus.droppedEvents = (bus.departed.filter (!·.delivered)).length := by
    rw [dropped, List.countP_eq_length_filter]
  refine ⟨bounded, ?_, lost, List.suffix_append _ _, made, accounted, ?_, ?_⟩
  · intro call waiting
    rw [Roomy, waiting] at roomy
    exact roomy
  · rw [accounted.held]
    exact (List.filter_sublist.map _).append_right _
  · have parts := List.length_eq_length_filter_add (l := bus.departed) (·.delivered)
    rw [accounted.held, lost, delivered]
    simp only [List.length_append, List.length_map]
    omega

end Kept

/-- One publisher under drop-oldest: its calls are never held up, nothing that they publish is
lost without being counted, and the queue holds the newest. -/
theorem dropOldest_keepsNewest {config : EventBusConfig}
    (policy : config.backpressurePolicy = .dropOldest)
    (calls : List (PublishCall Event Context)) (turns : List Turn) :
    Throughout step (KeepsNewest calls) (opened config calls) turns := by
  have kept : Throughout step (Kept calls) (opened config calls) turns :=
    throughout_of_step (fun _ turn kept => step_kept kept turn) (opened_kept policy calls)
  exact kept.imp fun _ => Kept.keepsNewest

/-- A queue of two in which the first of three is dropped, after a consumer missed its turn. -/
theorem dropOldest_keepsNewest_three :
    let config : EventBusConfig := { queueMaxsize := 2, backpressurePolicy := .dropOldest }
    let calls : List (PublishCall Nat Unit) :=
      [⟨⟨1, none, ()⟩, true, true⟩, ⟨⟨2, none, ()⟩, true, true⟩, ⟨⟨3, none, ()⟩, true, true⟩]
    let turns := .get :: List.replicate 12 Turn.resume ++ [.get]
    Throughout step (KeepsNewest calls) (opened config calls) turns ∧
      (runFrom step (opened config calls) turns).droppedEvents = 1 :=
  ⟨dropOldest_keepsNewest rfl _ _, rfl⟩

end PublisherBus

end FxToushi.Core
