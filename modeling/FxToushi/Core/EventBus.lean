import FxToushi.Data.Runs
import Mathlib.Data.List.Range
import Mathlib.Data.List.TakeWhile

namespace FxToushi.Core

open Data

/-! # Event bus

One bounded queue is shared by all publishers and all subscription iterators.
The event loop runs one coroutine at a time, so an interleaving is a list of
actions: a publication, a retry of a publisher blocked on the full queue, and
a resumption of an iterator, which runs until it yields or the queue is empty.
-/

inductive BackpressurePolicy where
  | block
  | dropOldest
  | snapshotReplay
deriving Repr, DecidableEq

/-- The queue is bounded: a size that is not positive is refused. -/
structure EventBusConfig where
  queueMaxsize : Nat := 512
  backpressurePolicy : BackpressurePolicy := .block
  positive : 0 < queueMaxsize := by decide
deriving Repr, DecidableEq

structure Envelope (Event Context : Type*) where
  event : Event
  eventType : Option String
  context : Context
deriving Repr, DecidableEq

/-- An iterator returned by `subscribe`.  `backlog` is what the replayed log
still has to yield before the iterator turns to the queue. -/
structure Subscriber (Event : Type*) where
  eventType : String
  filter : Option (Event → Bool) := none
  backlog : List Event := []
  received : List Event := []
  closed : Bool := false

/-- For the statements only: an envelope taken off the queue by an iterator,
the live subscribers that accepted it then, and the one it was yielded to. -/
structure Taken (Event Context : Type*) where
  envelope : Envelope Event Context
  wanted : List Nat
  receiver : Option Nat

structure EventBus (Event Context : Type*) where
  config : EventBusConfig
  queue : List (Envelope Event Context) := []
  blocked : List (Envelope Event Context) := []
  droppedEvents : Nat := 0
  subscribers : List (Subscriber Event) := []
  taken : List (Taken Event Context) := []

variable {Event Context : Type*}

namespace Subscriber

def accepts (subscriber : Subscriber Event) (envelope : Envelope Event Context) : Bool :=
  envelope.eventType == some subscriber.eventType &&
    (subscriber.filter.map (fun filter => filter envelope.event)).getD true

end Subscriber

namespace EventBus

def opened (config : EventBusConfig) : EventBus Event Context := { config }

/-- Under `drop_oldest` a full queue makes room, under the other policies it is left alone. -/
def applyBackpressure (bus : EventBus Event Context) : EventBus Event Context :=
  if bus.queue.length < bus.config.queueMaxsize then bus
  else match bus.config.backpressurePolicy with
    | .dropOldest => { bus with queue := bus.queue.tail, droppedEvents := bus.droppedEvents + 1 }
    | .block | .snapshotReplay => bus

def put (bus : EventBus Event Context) (envelope : Envelope Event Context) :
    EventBus Event Context :=
  if bus.queue.length < bus.config.queueMaxsize then { bus with queue := bus.queue ++ [envelope] }
  else { bus with blocked := bus.blocked ++ [envelope] }

def publish (bus : EventBus Event Context) (envelope : Envelope Event Context) :
    EventBus Event Context :=
  bus.applyBackpressure.put envelope

def retry (bus : EventBus Event Context) (index : Nat) : EventBus Event Context :=
  match bus.blocked[index]? with
  | none => bus
  | some envelope =>
    if bus.queue.length < bus.config.queueMaxsize then
      { bus with queue := bus.queue ++ [envelope], blocked := bus.blocked.eraseIdx index }
    else bus

def subscribe (bus : EventBus Event Context) (eventType : String)
    (filter : Option (Event → Bool)) (backlog : List Event) : EventBus Event Context :=
  { bus with subscribers := bus.subscribers ++ [{ eventType, filter, backlog }] }

def close (bus : EventBus Event Context) (index : Nat) : EventBus Event Context :=
  { bus with subscribers := bus.subscribers.modify index ({ · with closed := true }) }

def wantedBy (bus : EventBus Event Context) (envelope : Envelope Event Context) : List Nat :=
  (List.range bus.subscribers.length).filter fun index =>
    (bus.subscribers[index]?.map fun subscriber =>
      !subscriber.closed && subscriber.accepts envelope).getD false

def skipped (bus : EventBus Event Context) (subscriber : Subscriber Event) :
    List (Envelope Event Context) :=
  bus.queue.takeWhile (fun envelope => !subscriber.accepts envelope)

def ahead (bus : EventBus Event Context) (subscriber : Subscriber Event) :
    List (Envelope Event Context) :=
  bus.queue.dropWhile (fun envelope => !subscriber.accepts envelope)

def record (bus : EventBus Event Context) (receiver : Option Nat)
    (envelope : Envelope Event Context) : Taken Event Context where
  envelope
  wanted := bus.wantedBy envelope
  receiver

/-- The loop over `queue.get`: envelopes of another type or refused by the
filter are dropped, the first other one is yielded. -/
def takeNext (bus : EventBus Event Context) (index : Nat) (subscriber : Subscriber Event) :
    EventBus Event Context :=
  let dropped := (bus.skipped subscriber).map (bus.record none)
  match bus.ahead subscriber with
  | [] => { bus with queue := [], taken := bus.taken ++ dropped }
  | envelope :: rest =>
    let yielded := { subscriber with received := subscriber.received ++ [envelope.event] }
    { bus with
      queue := rest
      subscribers := bus.subscribers.set index yielded
      taken := bus.taken ++ dropped ++ [bus.record (some index) envelope] }

def resume (bus : EventBus Event Context) (index : Nat) : EventBus Event Context :=
  match bus.subscribers[index]? with
  | none => bus
  | some subscriber =>
    if subscriber.closed then bus
    else match subscriber.backlog with
      | event :: backlog =>
        let yielded :=
          { subscriber with backlog, received := subscriber.received ++ [event] }
        { bus with subscribers := bus.subscribers.set index yielded }
      | [] => bus.takeNext index subscriber

inductive BusAction (Event Context : Type*) where
  | publish (envelope : Envelope Event Context)
  | retry (index : Nat)
  | subscribe (eventType : String) (filter : Option (Event → Bool)) (backlog : List Event)
  | close (index : Nat)
  | resume (index : Nat)

def step (bus : EventBus Event Context) : BusAction Event Context → EventBus Event Context
  | .publish envelope => bus.publish envelope
  | .retry index => bus.retry index
  | .subscribe eventType filter backlog => bus.subscribe eventType filter backlog
  | .close index => bus.close index
  | .resume index => bus.resume index

/-- Every envelope taken off the queue that a live subscriber accepted was
yielded to one of those subscribers. -/
def NoneStolen (bus : EventBus Event Context) : Prop :=
  ∀ taken ∈ bus.taken, taken.wanted ≠ [] → ∃ index ∈ taken.wanted, taken.receiver = some index

/-- An iterator that turns to the queue finds nothing ahead of the first
envelope it accepts that a live subscriber accepts. -/
def Unrivalled (bus : EventBus Event Context) : BusAction Event Context → Prop
  | .resume index => ∀ subscriber, bus.subscribers[index]? = some subscriber →
      subscriber.closed = false → subscriber.backlog = [] →
        ∀ envelope ∈ bus.skipped subscriber, bus.wantedBy envelope = []
  | _ => True

@[simp] theorem applyBackpressure_taken (bus : EventBus Event Context) :
    bus.applyBackpressure.taken = bus.taken := by
  unfold applyBackpressure
  split
  · rfl
  · split <;> rfl

@[simp] theorem put_taken (bus : EventBus Event Context) (envelope : Envelope Event Context) :
    (bus.put envelope).taken = bus.taken := by
  unfold put
  split <;> rfl

@[simp] theorem retry_taken (bus : EventBus Event Context) (index : Nat) :
    (bus.retry index).taken = bus.taken := by
  unfold retry
  split
  · rfl
  · split <;> rfl

theorem mem_wantedBy {bus : EventBus Event Context} {index : Nat} {subscriber : Subscriber Event}
    {envelope : Envelope Event Context} (found : bus.subscribers[index]? = some subscriber)
    (live : subscriber.closed = false) (accepted : subscriber.accepts envelope = true) :
    index ∈ bus.wantedBy envelope := by
  obtain ⟨bound, rfl⟩ := List.getElem?_eq_some_iff.mp found
  simp [wantedBy, bound, live, accepted]

theorem ahead_accepted {bus : EventBus Event Context} {subscriber : Subscriber Event}
    {envelope : Envelope Event Context} {rest : List (Envelope Event Context)}
    (split : bus.ahead subscriber = envelope :: rest) : subscriber.accepts envelope = true := by
  have head := List.head?_dropWhile_not (fun envelope => !subscriber.accepts envelope) bus.queue
  unfold ahead at split
  rw [split] at head
  simpa using head

theorem noneStolen_dropped_iff (bus : EventBus Event Context)
    (envelopes : List (Envelope Event Context)) :
    (∀ taken ∈ envelopes.map (bus.record none), taken.wanted ≠ [] →
        ∃ index ∈ taken.wanted, taken.receiver = some index) ↔
      ∀ envelope ∈ envelopes, bus.wantedBy envelope = [] := by
  simp [record]

theorem takeNext_noneStolen_iff {bus : EventBus Event Context} {index : Nat}
    {subscriber : Subscriber Event} (found : bus.subscribers[index]? = some subscriber)
    (live : subscriber.closed = false) (before : bus.NoneStolen) :
    (bus.takeNext index subscriber).NoneStolen ↔
      ∀ envelope ∈ bus.skipped subscriber, bus.wantedBy envelope = [] := by
  rw [← noneStolen_dropped_iff]
  unfold takeNext
  split
  · constructor
    · exact fun after taken member => after taken (List.mem_append_right _ member)
    · intro dropped taken member
      rcases List.mem_append.mp member with earlier | now
      · exact before taken earlier
      · exact dropped taken now
  · rename_i envelope rest split
    constructor
    · exact fun after taken member =>
        after taken (List.mem_append_left _ (List.mem_append_right _ member))
    · intro dropped taken member
      rcases List.mem_append.mp member with earlier | now
      · rcases List.mem_append.mp earlier with earlier | skipped
        · exact before taken earlier
        · exact dropped taken skipped
      · obtain rfl := List.mem_singleton.mp now
        exact fun _ => ⟨index, mem_wantedBy found live (ahead_accepted split), rfl⟩

theorem step_noneStolen_iff (bus : EventBus Event Context) (action : BusAction Event Context)
    (before : bus.NoneStolen) : (bus.step action).NoneStolen ↔ bus.Unrivalled action := by
  cases action with
  | publish envelope =>
    simpa only [NoneStolen, step, publish, put_taken, applyBackpressure_taken, Unrivalled,
      iff_true] using before
  | retry index => simpa only [NoneStolen, step, retry_taken, Unrivalled, iff_true] using before
  | subscribe eventType filter backlog => exact iff_of_true before trivial
  | close index => exact iff_of_true before trivial
  | resume index =>
    simp only [step, resume, Unrivalled]
    split
    · rename_i absent
      exact iff_of_true before (by simp [absent])
    · rename_i subscriber found
      split
      · rename_i closed
        exact iff_of_true before (by simp [found, closed])
      · rename_i live
        rw [Bool.not_eq_true] at live
        split
        · rename_i event backlog pending
          exact iff_of_true before (by simp [found, pending])
        · rename_i current
          rw [takeNext_noneStolen_iff found live before]
          simp [found, live, current]

/-- No event is stolen in a run exactly when every iterator that turns to the
queue is unrivalled on what it skips. -/
theorem noneStolen_iff (config : EventBusConfig) (actions : List (BusAction Event Context)) :
    Throughout step NoneStolen (opened config) actions ↔
      EachStep step Unrivalled (opened config) actions :=
  throughout_iff_eachStep NoneStolen (fun _ none => none)
    (fun bus action none => (step_noneStolen_iff bus action none).mpr)
    (fun bus action none => (step_noneStolen_iff bus action none).mp)
    (fun _ member => absurd member List.not_mem_nil)

/-- The iterator for `a` takes an event of type `b` off the queue, and the live
iterator for `b` never gets it. -/
theorem event_stolen_between_types :
    ¬ Throughout step NoneStolen (opened {} : EventBus String Unit)
      [.subscribe "a" none [], .subscribe "b" none [], .publish ⟨"fill", some "b", ()⟩,
        .resume 0] := by
  intro holds
  obtain ⟨index, -, received⟩ := holds.final
    { envelope := ⟨"fill", some "b", ()⟩, wanted := [1], receiver := none }
    (List.mem_singleton.mpr rfl) (by simp)
  exact absurd received (by simp)

end EventBus

end FxToushi.Core
