import FxToushi.Core.EventLog
import FxToushi.Data.Dict

namespace FxToushi.Core

open Data Py
open EventLog (within typeText typeMatches)

/-! # One catch-up subscription

The iterator of `subscribe(event_type, backlog_mode="catchup")` first replays
the log since the last event of the type in the state cache and then reads the
queue.  Every publication goes to the log and to the queue, and the queue is
never full, so it holds everything published until the iterator takes it off.
-/

/-- A line of the log or an envelope on the queue.  `origin` is for the
statements only: the place of the event among those published on this bus,
nothing for a line an earlier bus left in the log. -/
structure Line where
  record : EventRecord
  origin : Option Nat

/-- `pending` is what replay still has to yield. -/
inductive Phase where
  | subscribed
  | replaying (since upTo : Int) (pending : List Line)
  | live

namespace Phase

def pending : Phase → List Line
  | .replaying _ _ pending => pending
  | .subscribed | .live => []

end Phase

/-- The lines of the log stand in the order replay reads the files. -/
structure Subscription where
  eventType : String
  retentionDays : Nat
  lastEvent : Dict String Int
  log : List Line
  queue : List Line := []
  published : List EventRecord := []
  phase : Phase := .subscribed
  received : List Line := []

namespace Subscription

/-- A new bus, over the log and the recovered state cache of earlier ones. -/
def opened (eventType : String) (retentionDays : Nat) (lastEvent : Dict String Int)
    (earlier : List EventRecord) : Subscription where
  eventType
  retentionDays
  lastEvent
  log := earlier.map (fun record => ⟨record, none⟩)

/-! ## Publishing -/

/-- The key of `last_event` an event is entered under. -/
def cacheKey (record : EventRecord) : String :=
  let stripped := strip (record.eventType.getD "")
  if stripped = "" then "unknown" else stripped

/-- The lines of the log that replay yields. -/
def replayed (eventType : String) (since upTo : Int) (lines : List Line) : List Line :=
  lines.filter (fun line =>
    within since upTo line.record && typeMatches [lower eventType] line.record)

/-- `visible` says that a replay under way has not yet passed the end of the
file the line is appended to. -/
def publish (bus : Subscription) (record : EventRecord) (visible : Bool) : Subscription :=
  let line : Line := ⟨record, some bus.published.length⟩
  { bus with
    lastEvent := bus.lastEvent.set (cacheKey record) record.ts
    log := bus.log ++ [line]
    queue := bus.queue ++ [line]
    published := bus.published ++ [record]
    phase := match bus.phase with
      | .replaying since upTo pending =>
        .replaying since upTo
          (pending ++ if visible then replayed bus.eventType since upTo [line] else [])
      | other => other }

/-! ## The iterator -/

def replaySinceTs (bus : Subscription) (systemNow : Int) : Int :=
  let key := lower bus.eventType
  match bus.lastEvent.get? key <|> bus.lastEvent.get? (upper key) with
  | some ts => ts
  | none => systemNow - bus.retentionDays * 86400000000

def startReplay (bus : Subscription) (systemNow clockNow : Int) : Subscription :=
  match bus.phase with
  | .subscribed =>
    let since := bus.replaySinceTs systemNow
    { bus with phase := .replaying since clockNow (replayed bus.eventType since clockNow bus.log) }
  | .replaying _ _ _ | .live => bus

def ofType (eventType : String) (line : Line) : Bool :=
  line.record.eventType == some eventType

/-- The loop over `queue.get`: the first envelope of the type and what stays
behind it. -/
def takeNext (wanted : Line → Bool) : List Line → Option Line × List Line
  | [] => (none, [])
  | line :: rest => if wanted line then (some line, rest) else takeNext wanted rest

/-- The iterator runs until it yields or waits on the empty queue. -/
def readNext (bus : Subscription) : Subscription :=
  match bus.phase with
  | .replaying since upTo (line :: pending) =>
    { bus with phase := .replaying since upTo pending, received := bus.received ++ [line] }
  | .subscribed => bus
  | .replaying _ _ [] | .live =>
    let taken := takeNext (ofType bus.eventType) bus.queue
    { bus with
      phase := .live
      queue := taken.2
      received := bus.received ++ taken.1.toList }

/-- The first resumption reads the state cache and the two clocks. -/
def resume (bus : Subscription) (systemNow clockNow : Int) : Subscription :=
  (bus.startReplay systemNow clockNow).readNext

/-- `skip`: the file of the next line was removed or moved before replay opened
it.  `refile`: rotation moves lines behind the others, retention drops lines. -/
inductive Action where
  | publish (record : EventRecord) (visible : Bool)
  | resume (systemNow clockNow : Int)
  | skip
  | refile (positions : List Nat)

def step (bus : Subscription) : Action → Subscription
  | .publish record visible => bus.publish record visible
  | .resume systemNow clockNow => bus.resume systemNow clockNow
  | .skip => match bus.phase with
      | .replaying since upTo pending => { bus with phase := .replaying since upTo pending.tail }
      | .subscribed | .live => bus
  | .refile positions =>
    { bus with log := positions.filterMap (fun position => bus.log[position]?) }

/-! ## Delivered exactly once -/

/-- The consumer asks for `count` more events. -/
def readOn (bus : Subscription) : Nat → Subscription
  | 0 => bus
  | count + 1 => bus.readNext.readOn count

/-- The places, among all published events, of those of the type. -/
def wanted (bus : Subscription) : List Nat :=
  (bus.published.zipIdx.filter (fun entry => entry.1.eventType == some bus.eventType)).map Prod.snd

/-- The places of the events of the type among `lines`. -/
def places (eventType : String) (lines : List Line) : List Nat :=
  (lines.filter (ofType eventType)).filterMap Line.origin

/-- An iterator that has started and is read to the end has yielded every event
of the type published on this bus once, in the order of publication. -/
def DeliversOnce (bus : Subscription) : Prop :=
  bus.phase ≠ .subscribed → ∀ count, bus.phase.pending.length + bus.queue.length ≤ count →
    places bus.eventType (bus.readOn count).received = bus.wanted

/-- Replay meets no event of the type published on this bus: neither in the log
when it starts, nor in a line appended ahead of it later. -/
def NothingReplayed (bus : Subscription) : Action → Prop
  | .publish record visible => ∀ since upTo pending, bus.phase = .replaying since upTo pending →
      visible = true → record.eventType = some bus.eventType → within since upTo record = false
  | .resume systemNow clockNow => bus.phase = .subscribed → ∀ line ∈ bus.log,
      line.origin.isSome → ofType bus.eventType line = true →
        within (bus.replaySinceTs systemNow) clockNow line.record = false
  | .skip | .refile _ => True

section Places

variable (eventType : String) {line : Line} {first second : List Line}

@[simp] theorem places_nil : places eventType [] = [] := rfl

@[simp] theorem places_append :
    places eventType (first ++ second) = places eventType first ++ places eventType second := by
  simp [places]

theorem places_filter (lines : List Line) :
    places eventType (lines.filter (ofType eventType)) = places eventType lines := by
  simp [places]

theorem places_eq_nil_iff (lines : List Line) : places eventType lines = [] ↔
    ∀ line ∈ lines, line.origin.isSome → ofType eventType line = false := by
  simp only [places, List.filterMap_eq_nil_iff, List.mem_filter, and_imp]
  refine forall₂_congr fun line _ => ?_
  cases same : ofType eventType line <;> cases origin : line.origin <;> simp

end Places

/-! ## Reading on -/

theorem takeNext_spec (wanted : Line → Bool) (lines : List Line) :
    (takeNext wanted lines).1.toList ++ (takeNext wanted lines).2.filter wanted =
      lines.filter wanted := by
  induction lines with
  | nil => rfl
  | cons line rest ih =>
    cases accepted : wanted line with
    | true => simp [takeNext, accepted]
    | false => simpa [takeNext, accepted] using ih

theorem takeNext_length (wanted : Line → Bool) (lines : List Line) :
    (takeNext wanted lines).2.length ≤ lines.length - 1 := by
  induction lines with
  | nil => exact Nat.le_refl _
  | cons line rest ih =>
    cases accepted : wanted line with
    | true => simp [takeNext, accepted]
    | false =>
      simp only [takeNext, accepted, Bool.false_eq_true, if_false, List.length_cons]
      omega

/-- What the iterator has yielded, followed by what it yields when read on. -/
def yields (bus : Subscription) : List Line :=
  bus.received ++ bus.phase.pending ++ bus.queue.filter (ofType bus.eventType)

def backlog (bus : Subscription) : Nat := bus.phase.pending.length + bus.queue.length

theorem readNext_started {bus : Subscription} (started : bus.phase ≠ .subscribed) :
    bus.readNext.phase ≠ .subscribed := by
  unfold readNext
  split <;> simp_all

theorem readNext_yields {bus : Subscription} : bus.readNext.yields = bus.yields := by
  have taken := takeNext_spec (ofType bus.eventType) bus.queue
  unfold readNext
  split
  · rename_i phase
    simp [yields, phase, Phase.pending]
  · rfl
  · rename_i phase
    simpa [yields, phase, Phase.pending] using taken
  · rename_i phase
    simpa [yields, phase, Phase.pending] using taken

theorem readNext_backlog {bus : Subscription} (started : bus.phase ≠ .subscribed) :
    bus.readNext.backlog ≤ bus.backlog - 1 := by
  have shorter := takeNext_length (ofType bus.eventType) bus.queue
  unfold readNext
  split
  · rename_i phase
    simp only [backlog, phase, Phase.pending, List.length_cons]
    omega
  · contradiction
  · rename_i phase
    simpa [backlog, phase, Phase.pending] using shorter
  · rename_i phase
    simpa [backlog, phase, Phase.pending] using shorter

theorem readOn_received {bus : Subscription} (started : bus.phase ≠ .subscribed) {count : Nat}
    (enough : bus.backlog ≤ count) : (bus.readOn count).received = bus.yields := by
  induction count generalizing bus with
  | zero =>
    simp only [backlog, Nat.le_zero, Nat.add_eq_zero_iff, List.length_eq_zero_iff] at enough
    simp [readOn, yields, enough]
  | succ count ih =>
    have shorter := readNext_backlog started
    rw [readOn, ih (readNext_started started) (by omega), readNext_yields]

theorem deliversOnce_iff (bus : Subscription) :
    bus.DeliversOnce ↔ (bus.phase ≠ .subscribed →
      places bus.eventType bus.yields = bus.wanted) := by
  refine imp_congr_right fun started => ⟨fun every => ?_, fun accounted count enough => ?_⟩
  · have all := every bus.backlog (Nat.le_refl _)
    rwa [readOn_received started (Nat.le_refl _)] at all
  · rwa [readOn_received started enough]

/-! ## The account of the queue -/

/-- What is delivered and what waits on the queue make up what is published,
and replay holds none of it. -/
structure Settled (bus : Subscription) : Prop where
  accounted : places bus.eventType (bus.received ++ bus.queue) = bus.wanted
  untouched : places bus.eventType bus.phase.pending = []

theorem Settled.places_yields {bus : Subscription} (settled : Settled bus) :
    places bus.eventType bus.yields = bus.wanted := by
  have accounted := settled.accounted
  simp only [places_append] at accounted
  simp only [yields, places_append, places_filter, settled.untouched, List.append_nil, accounted]

theorem Settled.deliversOnce {bus : Subscription} (settled : Settled bus) : bus.DeliversOnce :=
  (deliversOnce_iff bus).mpr fun _ => settled.places_yields

theorem DeliversOnce.untouched {bus : Subscription} (once : bus.DeliversOnce)
    (started : bus.phase ≠ .subscribed)
    (accounted : places bus.eventType (bus.received ++ bus.queue) = bus.wanted) :
    places bus.eventType bus.phase.pending = [] := by
  have lengths := congrArg List.length ((deliversOnce_iff bus).mp once started)
  rw [← accounted] at lengths
  simp only [yields, places_append, places_filter, List.length_append] at lengths
  exact List.eq_nil_of_length_eq_zero (by omega)

/-- The line a publication appends to the log and to the queue. -/
def newLine (bus : Subscription) (record : EventRecord) : Line :=
  ⟨record, some bus.published.length⟩

theorem publish_wanted (bus : Subscription) (record : EventRecord) (visible : Bool) :
    (bus.publish record visible).wanted =
      bus.wanted ++ places bus.eventType [bus.newLine record] := by
  cases same : (record.eventType == some bus.eventType) <;>
    simp [publish, wanted, places, ofType, newLine, List.zipIdx_append, same]

theorem publish_accounted {bus : Subscription} (settled : Settled bus) (record : EventRecord)
    (visible : Bool) :
    places bus.eventType ((bus.publish record visible).received ++
      (bus.publish record visible).queue) = (bus.publish record visible).wanted := by
  rw [publish_wanted, ← settled.accounted, ← places_append]
  simp [publish, newLine]

theorem typeMatches_of_ofType {eventType : String} {line : Line}
    (same : ofType eventType line = true) :
    typeMatches [lower eventType] line.record = true := by
  have spelled : line.record.eventType = some eventType := eq_of_beq same
  simp [typeMatches, typeText, spelled]

/-- Replay meets nothing of its own among `lines` exactly when none of them lies
in its window. -/
theorem places_replayed_eq_nil_iff (eventType : String) (since upTo : Int) (lines : List Line) :
    places eventType (replayed eventType since upTo lines) = [] ↔
      ∀ line ∈ lines, line.origin.isSome → ofType eventType line = true →
        within since upTo line.record = false := by
  rw [places_eq_nil_iff]
  constructor
  · intro none line member own same
    cases inside : within since upTo line.record with
    | false => rfl
    | true =>
      have kept : line ∈ replayed eventType since upTo lines := List.mem_filter.mpr
        ⟨member, by simp [inside, typeMatches_of_ofType same]⟩
      rw [none line kept own] at same
      contradiction
  · intro outside line kept own
    obtain ⟨member, passes⟩ := List.mem_filter.mp kept
    cases same : ofType eventType line with
    | false => rfl
    | true =>
      rw [outside line member own same] at passes
      contradiction

theorem settled_of_yields {bus : Subscription}
    (untouched : places bus.eventType bus.phase.pending = [])
    (accounted : places bus.eventType bus.yields = bus.wanted) : Settled bus := by
  refine ⟨?_, untouched⟩
  simp only [yields, places_append, places_filter, untouched, List.append_nil] at accounted
  simpa only [places_append] using accounted

theorem readNext_fixed (bus : Subscription) :
    bus.readNext.eventType = bus.eventType ∧ bus.readNext.wanted = bus.wanted := by
  unfold readNext
  split <;> exact ⟨rfl, rfl⟩

theorem readNext_pending (bus : Subscription) :
    bus.readNext.phase.pending = bus.phase.pending.tail := by
  unfold readNext
  split <;> simp_all [Phase.pending]

theorem places_tail {eventType : String} {lines : List Line} (none : places eventType lines = []) :
    places eventType lines.tail = [] := by
  rw [places_eq_nil_iff] at none ⊢
  exact fun line member => none line (List.mem_of_mem_tail member)

theorem Settled.readNext {bus : Subscription} (settled : Settled bus) : Settled bus.readNext := by
  obtain ⟨sameType, sameWanted⟩ := readNext_fixed bus
  apply settled_of_yields
  · rw [sameType, readNext_pending]
    exact places_tail settled.untouched
  · rw [sameType, sameWanted, readNext_yields]
    exact settled.places_yields

theorem startReplay_subscribed {bus : Subscription} (phase : bus.phase = .subscribed)
    (systemNow clockNow : Int) :
    bus.startReplay systemNow clockNow = { bus with
      phase := .replaying (bus.replaySinceTs systemNow) clockNow
        (replayed bus.eventType (bus.replaySinceTs systemNow) clockNow bus.log) } := by
  simp only [startReplay, phase]

theorem startReplay_started {bus : Subscription} (started : bus.phase ≠ .subscribed)
    (systemNow clockNow : Int) : bus.startReplay systemNow clockNow = bus := by
  cases phase : bus.phase with
  | subscribed => exact absurd phase started
  | replaying since upTo pending => simp only [startReplay, phase]
  | live => simp only [startReplay, phase]

theorem Settled.startReplay_iff {bus : Subscription} (settled : Settled bus)
    (systemNow clockNow : Int) :
    places bus.eventType (bus.startReplay systemNow clockNow).phase.pending = [] ↔
      bus.NothingReplayed (.resume systemNow clockNow) := by
  cases phase : bus.phase with
  | subscribed =>
    rw [startReplay_subscribed phase]
    exact (places_replayed_eq_nil_iff _ _ _ _).trans ⟨fun outside _ => outside,
      fun outside => outside phase⟩
  | replaying since upTo pending =>
    have started : bus.phase ≠ .subscribed := by simp [phase]
    rw [startReplay_started started]
    exact ⟨fun _ fresh => absurd fresh started, fun _ => settled.untouched⟩
  | live =>
    have started : bus.phase ≠ .subscribed := by simp [phase]
    rw [startReplay_started started]
    exact ⟨fun _ fresh => absurd fresh started, fun _ => settled.untouched⟩

theorem Settled.publish_iff {bus : Subscription} (settled : Settled bus) (record : EventRecord)
    (visible : Bool) :
    places bus.eventType (bus.publish record visible).phase.pending = [] ↔
      bus.NothingReplayed (.publish record visible) := by
  have untouched := settled.untouched
  cases phase : bus.phase with
  | subscribed => simp [publish, NothingReplayed, phase, Phase.pending]
  | live => simp [publish, NothingReplayed, phase, Phase.pending]
  | replaying since upTo pending =>
    rw [phase, Phase.pending] at untouched
    cases visible with
    | false => simp [publish, NothingReplayed, phase, Phase.pending, untouched]
    | true =>
      have appended := places_replayed_eq_nil_iff bus.eventType since upTo
        [bus.newLine record]
      simp only [List.mem_singleton, forall_eq, newLine, Option.isSome_some, ofType,
        beq_iff_eq, true_implies] at appended
      simp only [publish, phase, Phase.pending, if_true, places_append, untouched,
        List.nil_append, appended, NothingReplayed]
      constructor
      · rintro outside _ _ _ window - same
        obtain ⟨rfl, rfl, rfl⟩ := Phase.replaying.inj window
        exact outside same
      · exact fun outside same => outside since upTo pending rfl trivial same

theorem resume_started (bus : Subscription) (systemNow clockNow : Int) :
    (bus.resume systemNow clockNow).phase ≠ .subscribed := by
  apply readNext_started
  cases phase : bus.phase <;> simp [startReplay, phase]

theorem startReplay_accounted {bus : Subscription} (settled : Settled bus)
    (systemNow clockNow : Int) :
    let started := bus.startReplay systemNow clockNow
    started.eventType = bus.eventType ∧ started.phase ≠ .subscribed ∧
      places started.eventType (started.received ++ started.queue) = started.wanted := by
  by_cases fresh : bus.phase = .subscribed
  · rw [startReplay_subscribed fresh]
    exact ⟨rfl, nofun, settled.accounted⟩
  · rw [startReplay_started fresh]
    exact ⟨rfl, fresh, settled.accounted⟩

/-! ## Runs -/

theorem Settled.step {bus : Subscription} (settled : Settled bus) (action : Action)
    (nothing : bus.NothingReplayed action) : Settled (bus.step action) := by
  cases action with
  | publish record visible =>
    exact ⟨publish_accounted settled record visible,
      (settled.publish_iff record visible).mpr nothing⟩
  | resume systemNow clockNow =>
    obtain ⟨sameType, -, accounted⟩ := startReplay_accounted settled systemNow clockNow
    have untouched := (settled.startReplay_iff systemNow clockNow).mpr nothing
    rw [← sameType] at untouched
    exact Settled.readNext ⟨accounted, untouched⟩
  | skip =>
    have untouched := settled.untouched
    cases phase : bus.phase with
    | subscribed => simpa only [Subscription.step, phase] using settled
    | live => simpa only [Subscription.step, phase] using settled
    | replaying since upTo pending =>
      rw [phase, Phase.pending] at untouched
      simp only [Subscription.step, phase]
      exact ⟨settled.accounted, places_tail untouched⟩
  | refile positions => exact ⟨settled.accounted, settled.untouched⟩

theorem DeliversOnce.of_readNext {bus : Subscription} (started : bus.phase ≠ .subscribed)
    (once : bus.readNext.DeliversOnce) : bus.DeliversOnce := by
  have all := (deliversOnce_iff _).mp once (readNext_started started)
  obtain ⟨sameType, sameWanted⟩ := readNext_fixed bus
  rw [sameType, sameWanted, readNext_yields] at all
  exact (deliversOnce_iff bus).mpr fun _ => all

theorem Settled.needed {bus : Subscription} (settled : Settled bus) (action : Action)
    (once : (bus.step action).DeliversOnce) : bus.NothingReplayed action := by
  cases action with
  | publish record visible =>
    intro since upTo pending phase
    have started : (bus.publish record visible).phase ≠ .subscribed := by
      simp [publish, phase]
    have untouched := once.untouched started (publish_accounted settled record visible)
    exact (settled.publish_iff record visible).mp untouched since upTo pending phase
  | resume systemNow clockNow =>
    obtain ⟨sameType, started, accounted⟩ := startReplay_accounted settled systemNow clockNow
    have untouched := (DeliversOnce.of_readNext started once).untouched started accounted
    rw [sameType] at untouched
    exact (settled.startReplay_iff systemNow clockNow).mp untouched
  | skip => trivial
  | refile positions => trivial

theorem opened_settled (eventType : String) (retentionDays : Nat) (lastEvent : Dict String Int)
    (earlier : List EventRecord) :
    Settled (opened eventType retentionDays lastEvent earlier) := ⟨rfl, rfl⟩

theorem deliversOnce_iff_nothingReplayed (eventType : String) (retentionDays : Nat)
    (lastEvent : Dict String Int) (earlier : List EventRecord) (actions : List Action) :
    Throughout step DeliversOnce (opened eventType retentionDays lastEvent earlier) actions ↔
      EachStep step NothingReplayed (opened eventType retentionDays lastEvent earlier) actions :=
  throughout_iff_eachStep Settled (fun _ settled => settled.deliversOnce)
    (fun _ action settled nothing => settled.step action nothing)
    (fun _ action settled once => settled.needed action once)
    (opened_settled eventType retentionDays lastEvent earlier)

def filled : EventRecord where
  ts := 1
  eventType := some "fill"
  event := .map []
  context := []

/-- Published before the subscription and still in the log: replayed, and found
on the queue again. -/
theorem replayed_and_queued : ¬ ∀ eventType retentionDays lastEvent earlier actions,
    Throughout step DeliversOnce (opened eventType retentionDays lastEvent earlier) actions := by
  intro every
  have once : (((opened "fill" 7 Dict.empty []).publish filled true).resume 2 2).DeliversOnce :=
    (every "fill" 7 Dict.empty [] [.publish filled true, .resume 2 2]).final
  have twice := once (resume_started _ 2 2) 1 (by decide +kernel)
  exact absurd twice (by decide +kernel)

end Subscription

end FxToushi.Core
