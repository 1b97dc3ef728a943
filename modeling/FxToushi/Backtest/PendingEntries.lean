import FxToushi.Backtest.Entries
import FxToushi.Backtest.Exits

namespace FxToushi.Backtest

open Data Py

/-! # Entries on the next bar

With `entry_on_next_bar` a signal waits in the queue until a bar of its symbol
drains it.  A queued entry does not say which bar it came from, so the run is
traced next to the simulator: every entry and every position it opens carries
the event its signal was emitted on.
-/

structure Sourced where
  origin : Nat
  spec : EntrySpec
deriving Repr, DecidableEq

structure Fill where
  origin : Nat
  position : Position
deriving Repr, DecidableEq

structure TracedState where
  run : PocState
  seen : List Bar := []
  queue : List Sourced := []
  fills : List Fill := []
deriving DecidableEq

/-- The positions an attempt added to the openings. -/
def openedBetween (state next : PocState) : List Position :=
  (next.openings.drop state.openings.length).map (·.position)

def fillsOf (config : PocConfig) (bar : Bar) (state : PocState) : List Sourced → List Fill
  | [] => []
  | entry :: rest =>
    match attemptOpenPosition config bar.ts bar.row state entry.spec with
    | .ok next =>
      (openedBetween state next).map (fun position => { origin := entry.origin, position }) ++
        fillsOf config bar next rest
    | .error _ => []

def emitted (origin : Nat) (bar : Bar) : List Sourced :=
  bar.signals.map (fun signal => { origin, spec := specOf bar signal })

def drainTraced (config : PocConfig) (traced : TracedState) (bar : Bar) : TracedState :=
  let managed := exitPass config traced.run bar
  { run := drainPending config managed bar
    seen := traced.seen
    queue := traced.queue.filter (fun entry => decide (entry.spec.symbol ≠ bar.symbol))
    fills := traced.fills ++ fillsOf config bar (withoutPendingOf managed bar)
      (traced.queue.filter (fun entry => decide (entry.spec.symbol = bar.symbol))) }

def stepTraced (config : PocConfig) (traced : TracedState) (bar : Bar) : TracedState :=
  if traced.run.failure.isSome then traced
  else
    let run := stepBar config traced.run bar
    let seen := traced.seen ++ [bar]
    if outsideSession config bar.ts then { traced with run, seen }
    else
      let drained := drainTraced config traced bar
      if drained.run.failure.isSome ∨ bar.ready = false then { drained with run, seen }
      else
        { drained with run, seen, queue := drained.queue ++ emitted traced.seen.length bar }

def initialTraced (config : PocConfig) : TracedState where
  run := initialState config

def tracedRun (config : PocConfig) (bars : List Bar) : TracedState :=
  runFrom (stepTraced config) (initialTraced config) (eventStream bars)

/-! ## The trace follows the simulator -/

theorem stepTraced_run (config : PocConfig) (traced : TracedState) (bar : Bar) :
    (stepTraced config traced bar).run = stepBar config traced.run bar := by
  unfold stepTraced
  dsimp only
  split
  · rename_i failed
    rw [stepBar, if_pos failed]
  · split
    · rfl
    · split <;> rfl

/-- What the attempt of an entry adds to the openings. -/
structure OpenedFrom (bar : Bar) (spec : EntrySpec) (position : Position) : Prop where
  openedAt : position.openedAt = bar.ts
  symbol : position.symbol = spec.symbol
  signal : position.signal = spec.signal

theorem attempt_opened {config : PocConfig} {bar : Bar} {state next : PocState}
    {spec : EntrySpec} (attempted : attemptOpenPosition config bar.ts bar.row state spec =
      .ok next) :
    next.openings.map (·.position) =
        state.openings.map (·.position) ++ openedBetween state next ∧
      ∀ position ∈ openedBetween state next, OpenedFrom bar spec position := by
  rcases attemptOpenPosition_cases attempted with rfl | rfl | ⟨_, ttlMinutes, quote, -, -, rfl⟩
  · simp [openedBetween]
  · simp [openedBetween, afterDraw]
  · have added : openedBetween state
        (openPosition (afterDraw config bar.ts state spec)
          (positionOf config bar.ts (afterDraw config bar.ts state spec) spec quote ttlMinutes)) =
        [positionOf config bar.ts (afterDraw config bar.ts state spec) spec quote ttlMinutes] := by
      simp [openedBetween, openPosition, afterDraw]
    rw [added]
    refine ⟨by simp [openPosition, afterDraw], ?_⟩
    intro position member
    rw [List.mem_singleton.mp member]
    exact ⟨rfl, rfl, rfl⟩

theorem attemptAll_traced {config : PocConfig} {bar : Bar} {entries : List Sourced}
    {state : PocState} :
    (attemptAll config bar state (entries.map (·.spec))).openings.map (·.position) =
      state.openings.map (·.position) ++ (fillsOf config bar state entries).map (·.position) := by
  induction entries generalizing state with
  | nil => simp [attemptAll, fillsOf]
  | cons entry rest ih =>
    cases attempted : attemptOpenPosition config bar.ts bar.row state entry.spec with
    | error error => simp [attemptAll, fillsOf, attempted]
    | ok next =>
      obtain ⟨openings, -⟩ := attempt_opened attempted
      simp only [List.map_cons, attemptAll, fillsOf, attempted]
      rw [ih, openings, List.map_append, List.map_map, List.append_assoc]
      simp [Function.comp_def]

/-- Without their origins the queue and the fills are those of the simulator. -/
structure Traces (traced : TracedState) : Prop where
  queue : traced.queue.map (·.spec) = traced.run.pending
  fills : traced.fills.map (·.position) = traced.run.openings.map (·.position)

theorem settleExit_fold_pending (config : PocConfig) (ts : Timestamp) (exits : List Exit)
    (state : PocState) :
    (exits.foldl (settleExit config ts) state).pending = state.pending := by
  induction exits generalizing state with
  | nil => rfl
  | cons exit rest ih => exact ih _

theorem exitPass_pending (config : PocConfig) (state : PocState) (bar : Bar) :
    (exitPass config state bar).pending = state.pending := by
  rw [exitPass_eq]
  exact settleExit_fold_pending config bar.ts _ state

theorem markCurve_pending (state : PocState) : (markCurve state).pending = state.pending := by
  unfold markCurve
  split <;> rfl

theorem markCurve_openings (state : PocState) : (markCurve state).openings = state.openings := by
  unfold markCurve
  split <;> rfl

theorem drainTraced_traces {config : PocConfig} {traced : TracedState} (bar : Bar)
    (traces : Traces traced) : Traces (drainTraced config traced bar) := by
  have pending : (exitPass config traced.run bar).pending = traced.queue.map (·.spec) :=
    (exitPass_pending config traced.run bar).trans traces.queue.symm
  have openings := @attemptAll_traced config bar
    (traced.queue.filter (fun entry => decide (entry.spec.symbol = bar.symbol)))
    (withoutPendingOf (exitPass config traced.run bar) bar)
  have kept := attemptAll_pending config bar (pendingOf (exitPass config traced.run bar) bar)
    (withoutPendingOf (exitPass config traced.run bar) bar)
  have due : (traced.queue.filter (fun entry => decide (entry.spec.symbol = bar.symbol))).map
      (·.spec) = pendingOf (exitPass config traced.run bar) bar := by
    rw [pendingOf, pending, List.filter_map]
    rfl
  rw [due] at openings
  refine ⟨?_, ?_⟩
  · rw [drainTraced]
    dsimp only
    refine Eq.trans ?_ kept.symm
    rw [withoutPendingOf, pending, List.filter_map]
    rfl
  · rw [drainTraced]
    dsimp only
    refine Eq.trans ?_ openings.symm
    rw [List.map_append, traces.fills, withoutPendingOf, exitPass_openings]

theorem stepTraced_traces {config : PocConfig} (nextBar : config.entryOnNextBar = true)
    (bar : Bar) {traced : TracedState} (traces : Traces traced) :
    Traces (stepTraced config traced bar) := by
  have drained := @drainTraced_traces config traced bar traces
  unfold stepTraced
  rw [stepBar]
  dsimp only
  by_cases failed : traced.run.failure.isSome
  · rwa [if_pos failed]
  simp only [if_neg failed]
  by_cases outside : outsideSession config bar.ts
  · simp only [if_pos outside]
    exact ⟨by rw [markCurve_pending, exitPass_pending, traces.queue],
      by rw [markCurve_openings, exitPass_openings, traces.fills]⟩
  simp only [if_neg outside]
  have same : drainPending config (exitPass config traced.run bar) bar =
      (drainTraced config traced bar).run := rfl
  rw [same]
  by_cases stopped : (drainTraced config traced bar).run.failure.isSome ∨ bar.ready = false
  · simp only [if_pos stopped]
    exact ⟨by rw [markCurve_pending, drained.queue],
      by rw [markCurve_openings, drained.fills]⟩
  · simp only [if_neg stopped]
    rw [takeSignals, if_pos nextBar]
    refine ⟨?_, ?_⟩
    · rw [markCurve_pending, List.map_append, drained.queue, emitted, List.map_map]
      rfl
    · rw [markCurve_openings, drained.fills]

/-! ## The next bar of a symbol -/

/-- The first event after `origin` that has its symbol. -/
def nextBarOf (events : List Bar) (origin : Nat) : Option Bar :=
  events[origin]?.bind fun bar =>
    (events.drop (origin + 1)).find? (fun later => decide (later.symbol = bar.symbol))

/-- The signal was emitted on the event, for its symbol. -/
def EmittedOn (events : List Bar) (origin : Nat) (symbol : String) (signal : PocSignal) : Prop :=
  ∃ bar, events[origin]? = some bar ∧ bar.symbol = symbol ∧ signal ∈ bar.signals

structure FilledNext (events : List Bar) (fill : Fill) : Prop where
  emitted : EmittedOn events fill.origin fill.position.symbol fill.position.signal
  next : ∃ bar, nextBarOf events fill.origin = some bar ∧ fill.position.openedAt = bar.ts

/-- The entry was emitted on a seen event, and no bar of its symbol has come
since. -/
structure Waits (seen : List Bar) (entry : Sourced) : Prop where
  emitted : EmittedOn seen entry.origin entry.spec.symbol entry.spec.signal
  fresh : ∀ later ∈ seen.drop (entry.origin + 1), later.symbol ≠ entry.spec.symbol

theorem EmittedOn.lt_length {events : List Bar} {origin : Nat} {symbol : String}
    {signal : PocSignal} (emittedOn : EmittedOn events origin symbol signal) :
    origin < events.length := by
  obtain ⟨bar, found, -⟩ := emittedOn
  exact (List.getElem?_eq_some_iff.mp found).1

theorem EmittedOn.append {events : List Bar} {origin : Nat} {symbol : String}
    {signal : PocSignal} (later : List Bar) (emittedOn : EmittedOn events origin symbol signal) :
    EmittedOn (events ++ later) origin symbol signal := by
  have bound := emittedOn.lt_length
  obtain ⟨bar, found, same, member⟩ := emittedOn
  exact ⟨bar, by rwa [List.getElem?_append_left bound], same, member⟩

theorem FilledNext.append {events : List Bar} {fill : Fill} (later : List Bar)
    (filled : FilledNext events fill) : FilledNext (events ++ later) fill := by
  obtain ⟨bar, next, opened⟩ := filled.next
  refine ⟨filled.emitted.append later, bar, ?_, opened⟩
  have bound := filled.emitted.lt_length
  unfold nextBarOf at next ⊢
  rw [List.getElem?_append_left bound, List.drop_append_of_le_length bound]
  obtain ⟨origin, found, next⟩ := Option.bind_eq_some_iff.mp next
  simp only [found, Option.bind_some, List.find?_append, next, Option.some_or]

theorem drop_append_singleton {seen : List Bar} {bar : Bar} {origin : Nat}
    (bound : origin < seen.length) :
    (seen ++ [bar]).drop (origin + 1) = seen.drop (origin + 1) ++ [bar] :=
  List.drop_append_of_le_length bound

theorem Waits.append {seen : List Bar} {entry : Sourced} {bar : Bar}
    (other : entry.spec.symbol ≠ bar.symbol) (waits : Waits seen entry) :
    Waits (seen ++ [bar]) entry := by
  refine ⟨waits.emitted.append [bar], ?_⟩
  rw [drop_append_singleton waits.emitted.lt_length]
  intro later member
  rcases List.mem_append.mp member with passed | now
  · exact waits.fresh later passed
  · rw [List.mem_singleton.mp now]
    exact other.symm

/-- A waiting entry is filled by the next bar of its symbol. -/
theorem Waits.filled {seen : List Bar} {entry : Sourced} {bar : Bar} {position : Position}
    (same : entry.spec.symbol = bar.symbol) (opened : OpenedFrom bar entry.spec position)
    (waits : Waits seen entry) :
    FilledNext (seen ++ [bar]) { origin := entry.origin, position } := by
  obtain ⟨origin, found, symbol, -⟩ := waits.emitted
  have emittedOn := waits.emitted.append [bar]
  rw [← opened.symbol, ← opened.signal] at emittedOn
  refine ⟨emittedOn, bar, ?_, opened.openedAt⟩
  have bound := waits.emitted.lt_length
  have none_before : (seen.drop (entry.origin + 1)).find?
      (fun later => decide (later.symbol = origin.symbol)) = none := by
    rw [List.find?_eq_none]
    intro later member
    simpa [symbol] using waits.fresh later member
  unfold nextBarOf
  dsimp only
  rw [List.getElem?_append_left bound, drop_append_singleton bound, found, Option.bind_some,
    List.find?_append, none_before, Option.none_or]
  simp [symbol, same]

theorem emitted_waits {seen : List Bar} {bar : Bar} {entry : Sourced}
    (member : entry ∈ emitted seen.length bar) : Waits (seen ++ [bar]) entry := by
  obtain ⟨signal, emittedOn, rfl⟩ := List.mem_map.mp member
  refine ⟨⟨bar, List.getElem?_concat_length, rfl, emittedOn⟩, ?_⟩
  intro later passed
  simp at passed

theorem mem_fillsOf {config : PocConfig} {bar : Bar} {entries : List Sourced} {state : PocState}
    {fill : Fill} (member : fill ∈ fillsOf config bar state entries) :
    ∃ entry ∈ entries, fill.origin = entry.origin ∧ OpenedFrom bar entry.spec fill.position := by
  induction entries generalizing state with
  | nil => exact absurd member List.not_mem_nil
  | cons entry rest ih =>
    unfold fillsOf at member
    cases attempted : attemptOpenPosition config bar.ts bar.row state entry.spec with
    | error error => simp [attempted] at member
    | ok next =>
      simp only [attempted] at member
      rcases List.mem_append.mp member with now | later
      · obtain ⟨position, opened, rfl⟩ := List.mem_map.mp now
        exact ⟨entry, List.mem_cons_self, rfl, (attempt_opened attempted).2 position opened⟩
      · obtain ⟨other, held, from_other⟩ := ih later
        exact ⟨other, List.mem_cons_of_mem _ held, from_other⟩

/-! ## Whole runs -/

structure OnTime (traced : TracedState) : Prop where
  traces : Traces traced
  queue : ∀ entry ∈ traced.queue, Waits traced.seen entry
  fills : ∀ fill ∈ traced.fills, FilledNext traced.seen fill

/-- No entry waits for the symbol of a bar outside the session. -/
def NonePassedOver (config : PocConfig) (state : PocState) (bar : Bar) : Prop :=
  state.failure = none → outsideSession config bar.ts = true → pendingOf state bar = []

instance (config : PocConfig) (state : PocState) (bar : Bar) :
    Decidable (NonePassedOver config state bar) :=
  inferInstanceAs (Decidable (_ → _ → _))

theorem drainTraced_onTime {config : PocConfig} {bar : Bar} {traced : TracedState}
    (onTime : OnTime traced) :
    (∀ entry ∈ (drainTraced config traced bar).queue, Waits (traced.seen ++ [bar]) entry) ∧
      ∀ fill ∈ (drainTraced config traced bar).fills, FilledNext (traced.seen ++ [bar]) fill := by
  refine ⟨fun entry member => ?_, fun fill member => ?_⟩
  · obtain ⟨queued, other⟩ := List.mem_filter.mp member
    exact (onTime.queue entry queued).append (of_decide_eq_true other)
  · rcases List.mem_append.mp member with earlier | now
    · exact (onTime.fills fill earlier).append [bar]
    · obtain ⟨entry, due, origin, opened⟩ := mem_fillsOf now
      obtain ⟨queued, same⟩ := List.mem_filter.mp due
      have filled := (onTime.queue entry queued).filled (of_decide_eq_true same) opened
      rwa [← origin] at filled

theorem queue_other {bar : Bar} {traced : TracedState}
    (traces : Traces traced) (none_due : pendingOf traced.run bar = []) :
    ∀ entry ∈ traced.queue, entry.spec.symbol ≠ bar.symbol := by
  intro entry member same
  have queued : entry.spec ∈ traced.run.pending :=
    traces.queue ▸ List.mem_map_of_mem member
  have due : entry.spec ∈ pendingOf traced.run bar :=
    List.mem_filter.mpr ⟨queued, decide_eq_true same⟩
  rw [none_due] at due
  exact absurd due List.not_mem_nil

theorem stepTraced_onTime {config : PocConfig} (nextBar : config.entryOnNextBar = true)
    {bar : Bar} {traced : TracedState} (onTime : OnTime traced)
    (none_passed : NonePassedOver config traced.run bar) :
    OnTime (stepTraced config traced bar) := by
  have traces := stepTraced_traces nextBar bar onTime.traces
  obtain ⟨waiting, filled⟩ := @drainTraced_onTime config bar traced onTime
  unfold stepTraced at traces ⊢
  dsimp only at traces ⊢
  by_cases failed : traced.run.failure.isSome
  · rwa [if_pos failed]
  simp only [if_neg failed] at traces ⊢
  by_cases outside : outsideSession config bar.ts
  · simp only [if_pos outside] at traces ⊢
    have none_due := none_passed (by simpa using failed) outside
    exact ⟨traces,
      fun entry member => (onTime.queue entry member).append
        (queue_other onTime.traces none_due entry member),
      fun fill member => (onTime.fills fill member).append [bar]⟩
  simp only [if_neg outside] at traces ⊢
  by_cases stopped : (drainTraced config traced bar).run.failure.isSome ∨ bar.ready = false
  · simp only [if_pos stopped] at traces ⊢
    exact ⟨traces, waiting, filled⟩
  · simp only [if_neg stopped] at traces ⊢
    refine ⟨traces, fun entry member => ?_, filled⟩
    rcases List.mem_append.mp member with waited | now
    · exact waiting entry waited
    · exact emitted_waits now

theorem runFrom_failed {config : PocConfig} {traced : TracedState}
    (failed : traced.run.failure.isSome) (events : List Bar) :
    runFrom (stepTraced config) traced events = traced := by
  induction events with
  | nil => rfl
  | cons bar rest ih =>
    have stuck : stepTraced config traced bar = traced := if_pos failed
    exact (congrArg (runFrom (stepTraced config) · rest) stuck).trans ih

theorem stepTraced_seen {config : PocConfig} {traced : TracedState} (bar : Bar)
    (running : ¬ traced.run.failure.isSome) :
    (stepTraced config traced bar).seen = traced.seen ++ [bar] := by
  simp only [stepTraced, if_neg running]
  split
  · rfl
  · split <;> rfl

theorem runFrom_seen (config : PocConfig) (events : List Bar) (traced : TracedState) :
    (runFrom (stepTraced config) traced events).seen <+: traced.seen ++ events := by
  induction events generalizing traced with
  | nil => exact (List.append_nil traced.seen).symm ▸ List.prefix_refl _
  | cons bar rest ih =>
    by_cases failed : traced.run.failure.isSome
    · rw [runFrom_failed failed]
      exact List.prefix_append _ _
    · have stepped := ih (stepTraced config traced bar)
      rwa [stepTraced_seen bar failed, List.append_assoc] at stepped

/-- No bar outside the session finds an entry of its symbol in the queue. -/
def SessionsKeepUp (config : PocConfig) (bars : List Bar) : Prop :=
  EachStep (stepBar config) (NonePassedOver config) (initialState config) (eventStream bars)

/-- The trace is one of the run, and each of its fills is made at the next bar
of the signal's symbol. -/
structure FilledOnNextBar (config : PocConfig) (bars : List Bar) : Prop where
  openings : (tracedRun config bars).fills.map (·.position) =
    (simulatePaperPoc config bars).openings.map (·.position)
  fills : ∀ fill ∈ (tracedRun config bars).fills, FilledNext (eventStream bars) fill

theorem pending_filled_on_next_bar (config : PocConfig) (bars : List Bar)
    (nextBar : config.entryOnNextBar = true) (keepUp : SessionsKeepUp config bars) :
    FilledOnNextBar config bars := by
  have start : OnTime (initialTraced config) :=
    ⟨⟨rfl, rfl⟩, fun _ member => absurd member List.not_mem_nil,
      fun _ member => absurd member List.not_mem_nil⟩
  have run : Throughout (stepTraced config) OnTime (initialTraced config) (eventStream bars) :=
    throughout_of_eachStep
      (fun traced bar onTime passed => stepTraced_onTime nextBar onTime passed) start
      ((eachStep_forget (stepTraced_run config)).mpr keepUp)
  obtain ⟨traces, -, fills⟩ := run.final
  have same : (tracedRun config bars).run =
      runFrom (stepBar config) (initialState config) (eventStream bars) :=
    runFrom_forget (stepTraced_run config) (initialTraced config) (eventStream bars)
  refine ⟨?_, fun fill member => ?_⟩
  · rw [simulate_openings, ← same]
    exact traces.fills
  · obtain ⟨later, whole⟩ := runFrom_seen config (eventStream bars) (initialTraced config)
    have filled := (fills fill member).append later
    rwa [whole] at filled

/-- Sessions from eight to nine. -/
def morningPoc : PocConfig where
  settings := { baseEquity := 1000, basePerTradePct := 1 }
  primaryStrategy := "m1"
  spreadPips := 0
  session := some { startHour := 8, endHour := 9, startValid := by decide, endValid := by decide }

theorem pending_filled_next_morning_bar :
    (tracedRun morningPoc
        [morningBar 0 100 100 100 [{ strategyId := "m1" }],
          morningBar 5 101 100 101 []]).fills.length
          = 1 ∧
      FilledOnNextBar morningPoc
        [morningBar 0 100 100 100 [{ strategyId := "m1" }], morningBar 5 101 100 101 []] :=
  ⟨by decide +kernel, pending_filled_on_next_bar morningPoc _ rfl
    (by unfold SessionsKeepUp; decide +kernel)⟩

def eveningBars : List Bar :=
  [morningBar 60 100 100 100 [{ strategyId := "m1" }], morningBar 120 100 100 100 [],
    morningBar 1440 104 104 104 []]

/-- A signal of the session's last bar is filled the next day, two bars on. -/
theorem pending_not_filled_on_next_bar :
    ¬ ∀ config bars, config.entryOnNextBar = true → FilledOnNextBar config bars := by
  intro holds
  have filled := (holds morningPoc eveningBars rfl).fills
  have times : ∀ fill ∈ (tracedRun morningPoc eveningBars).fills,
      (nextBarOf (eventStream eveningBars) fill.origin).map (·.ts) =
        some fill.position.openedAt := by
    intro fill member
    obtain ⟨bar, next, opened⟩ := (filled fill member).next
    rw [next, opened, Option.map_some]
  exact absurd times (by decide +kernel)

end FxToushi.Backtest
