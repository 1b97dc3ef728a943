import FxToushi.Core.JsonlLogs
import FxToushi.Data.Dict
import FxToushi.Py.Containers
import Mathlib.Data.List.Sort

namespace FxToushi.Features

open FxToushi.Core Data Py

/-! # The queue of ready bars

A producer appends events to the queue file, each on a line of its own.  A call
reads the last lines of the file and feeds the events among them to a pipeline
made for the call.
-/

/-! ## One line -/

structure MarketFrame where
  symbol : Value
  timeframe : Value
  bars : List Value

/-- What a line comes to: a document without `get` raises. -/
inductive QueueLine where
  | passedOver
  | event (frame : MarketFrame)
  | raises

def eventField (event : Mapping) (key : String) : Value := (event.get? key).getD .null

def readEvent (timeframe : String) (event : Mapping) : QueueLine :=
  if (eventField event "event").isText "bar.ready" = false then .passedOver
  else if timeframe ≠ "" ∧ (eventField event "timeframe").text ≠ timeframe then .passedOver
  else
    match eventField event "bars" with
    | .list bars =>
      if (eventField event "symbol").truth then
        .event {
          symbol := eventField event "symbol", timeframe := eventField event "timeframe", bars }
      else .passedOver
    | _ => .passedOver

def readQueueLine (timeframe : String) (line : List Char) : QueueLine :=
  match loadLine id line with
  | none => .passedOver
  | some (.map event) => readEvent timeframe event
  | some _ => .raises

/-! ## One call -/

section Call

variable {State : Type}

/-- `pipeline` is the one made for the call, unless making it raises. -/
structure DrainCall (State : Type) where
  maxEvents : Nat
  timeframe : String
  pipeline : Option State

/-- The symbols fed and how often each timeframe was. -/
structure Tally where
  processed : Nat
  symbols : List String
  timeframes : Dict String Nat

namespace Tally

def start : Tally where
  processed := 0
  symbols := []
  timeframes := Dict.empty

def add (tally : Tally) (frame : MarketFrame) : Tally where
  processed := tally.processed + 1
  symbols := tally.symbols.insert (upper frame.symbol.text)
  timeframes := tally.timeframes.set frame.timeframe.text
    ((tally.timeframes.get? frame.timeframe.text).getD 0 + 1)

end Tally

/-- What a call returns. -/
structure DrainReport where
  status : String
  processed : Nat
  updatedSymbols : List String
  timeframes : Dict String Nat

def Tally.report (tally : Tally) : DrainReport where
  status := "ok"
  processed := tally.processed
  updatedSymbols := tally.symbols.insertionSort (· ≤ ·)
  timeframes := tally.timeframes

/-- `lines[-max_events:]`, which is every line for a zero. -/
def lastLines {Line : Type} (maxEvents : Nat) (lines : List Line) : List Line :=
  if maxEvents = 0 then lines else lines.drop (lines.length - maxEvents)

/-- A frame fed to the pipeline, with the place of its line in the file. -/
structure Feed where
  index : Nat
  frame : MarketFrame

/-- What a call fed and its report, unless it raised. -/
structure Drained where
  feeds : List Feed
  report : Option DrainReport

/-- The loop over the lines.  An update may raise. -/
def feedLines (update : State → MarketFrame → Option State) (timeframe : String) :
    State → Tally → List (List Char × Nat) → Drained
  | _, tally, [] => { feeds := [], report := some tally.report }
  | state, tally, (line, index) :: rest =>
    match readQueueLine timeframe line with
    | .passedOver => feedLines update timeframe state tally rest
    | .raises => { feeds := [], report := none }
    | .event frame =>
      match update state frame with
      | none => { feeds := [{ index, frame }], report := none }
      | some next =>
        let later := feedLines update timeframe next (tally.add frame) rest
        { later with feeds := { index, frame } :: later.feeds }

/-- The file is `none` while there is none. -/
def processBarReadyQueue (update : State → MarketFrame → Option State)
    (file : Option (List Char)) (call : DrainCall State) : Drained :=
  match file with
  | none =>
    { feeds := []
      report := some
        { status := "no_queue", processed := 0, updatedSymbols := [], timeframes := Dict.empty } }
  | some content =>
    match call.pipeline with
    | none => { feeds := [], report := none }
    | some pipeline =>
      feedLines update call.timeframe pipeline .start
        (lastLines call.maxEvents (splitlines content).zipIdx)

end Call

/-! ## The feeds of one call -/

section Feeds

variable {State : Type} {update : State → MarketFrame → Option State} {timeframe : String}

def QueueLine.frame? : QueueLine → Option MarketFrame
  | .event frame => some frame
  | _ => none

/-- The events among the lines. -/
def selected (timeframe : String) (lines : List (List Char × Nat)) : List Feed :=
  lines.filterMap (fun entry =>
    (readQueueLine timeframe entry.1).frame?.map (fun frame => { index := entry.2, frame }))

theorem selected_cons (line : List Char) (index : Nat) (rest : List (List Char × Nat)) :
    selected timeframe ((line, index) :: rest) =
      ((readQueueLine timeframe line).frame?.map (fun frame => ({ index, frame } : Feed))).toList ++
        selected timeframe rest := by
  rw [selected, List.filterMap_cons]
  cases readQueueLine timeframe line <;> rfl

/-- A call feeds the events from the first on, and all of them if it returns. -/
theorem feedLines_spec (state : State) (tally : Tally) (lines : List (List Char × Nat)) :
    (feedLines update timeframe state tally lines).feeds <+: selected timeframe lines ∧
      ((feedLines update timeframe state tally lines).report.isSome →
        (feedLines update timeframe state tally lines).feeds = selected timeframe lines) := by
  induction lines generalizing state tally with
  | nil => exact ⟨List.nil_prefix, fun _ => rfl⟩
  | cons entry rest ih =>
    obtain ⟨line, index⟩ := entry
    rw [feedLines, selected_cons]
    cases readQueueLine timeframe line with
    | passedOver => exact ih state tally
    | raises => exact ⟨List.nil_prefix, fun returned => absurd returned (by simp)⟩
    | event frame =>
      cases updated : update state frame with
      | none =>
        simp only [updated]
        refine ⟨List.cons_prefix_cons.mpr ⟨rfl, List.nil_prefix⟩, fun returned => ?_⟩
        exact absurd returned (by simp)
      | some next =>
        obtain ⟨started, finished⟩ := ih next (tally.add frame)
        simp only [updated]
        refine ⟨List.cons_prefix_cons.mpr ⟨rfl, started⟩, fun returned => ?_⟩
        rw [finished returned]
        rfl

theorem selected_countP_before (lines : List (List Char)) {start index : Nat}
    (before : index < start) :
    (selected timeframe (lines.zipIdx start)).countP (fun feed => feed.index = index) = 0 := by
  rw [List.countP_eq_zero]
  intro feed member
  obtain ⟨entry, listed, read⟩ := List.mem_filterMap.mp member
  obtain ⟨frame, -, rfl⟩ := Option.map_eq_some_iff.mp read
  have placed := List.le_snd_of_mem_zipIdx listed
  simp only [decide_eq_true_eq]
  omega

/-- Each place is fed once, where its line is an event. -/
theorem selected_countP (lines : List (List Char)) (start offset : Nat) :
    (selected timeframe (lines.zipIdx start)).countP (fun feed => feed.index = start + offset) =
      (lines[offset]?.bind (fun line => (readQueueLine timeframe line).frame?)).toList.length := by
  induction lines generalizing start offset with
  | nil => rfl
  | cons line rest ih =>
    rw [List.zipIdx_cons, selected_cons, List.countP_append]
    cases offset with
    | zero =>
      rw [selected_countP_before rest (by omega)]
      cases read : (readQueueLine timeframe line).frame? <;> simp [read]
    | succ offset =>
      have same : start + (offset + 1) = start + 1 + offset := by omega
      rw [same, ih, List.getElem?_cons_succ]
      have other : ((readQueueLine timeframe line).frame?.map
          (fun frame => ({ index := start, frame } : Feed))).toList.countP
            (fun feed => feed.index = start + 1 + offset) = 0 := by
        cases (readQueueLine timeframe line).frame? with
        | none => rfl
        | some frame => simp; omega
      rw [other, Nat.zero_add]

theorem drop_zipIdx (lines : List (List Char)) (count start : Nat) :
    (lines.zipIdx start).drop count = (lines.drop count).zipIdx (start + count) := by
  induction lines generalizing count start with
  | nil => simp
  | cons line rest ih =>
    cases count with
    | zero => rfl
    | succ count =>
      rw [List.zipIdx_cons, List.drop_succ_cons, List.drop_succ_cons, ih, Nat.add_right_comm]
      rfl

theorem lastLines_zipIdx {maxEvents : Nat} (positive : 0 < maxEvents) (lines : List (List Char)) :
    lastLines maxEvents lines.zipIdx =
      (lines.drop (lines.length - maxEvents)).zipIdx (lines.length - maxEvents) := by
  rw [lastLines, if_neg (Nat.ne_of_gt positive), List.length_zipIdx, drop_zipIdx, Nat.zero_add]

end Feeds

/-! ## Runs -/

section Runs

variable {State : Type}

inductive QueueStep (State : Type) where
  | append (text : List Char)
  | drain (call : DrainCall State)

def queueLines (file : Option (List Char)) : List (List Char) := splitlines (file.getD [])

/-- The producer ends what it appends with a line feed. -/
def appended (file : Option (List Char)) (text : List Char) : Option (List Char) :=
  some (file.getD [] ++ (text ++ ['\n']))

def queueAfter (file : Option (List Char)) : List (QueueStep State) → Option (List Char)
  | [] => file
  | .append text :: rest => queueAfter (appended file text) rest
  | .drain _ :: rest => queueAfter file rest

/-- The feeds of a run, each with the call that made it. -/
def feedsOf (update : State → MarketFrame → Option State) :
    Option (List Char) → List (QueueStep State) → List (DrainCall State × Feed)
  | _, [] => []
  | file, .append text :: rest => feedsOf update (appended file text) rest
  | file, .drain call :: rest =>
    (processBarReadyQueue update file call).feeds.map (fun feed => (call, feed)) ++
      feedsOf update file rest

def timesFed (index : Nat) (feeds : List (DrainCall State × Feed)) : Nat :=
  feeds.countP (fun fed => fed.2.index = index)

/-- The line is among the last lines of the queue, as an event of the call. -/
def Finds (file : Option (List Char)) (call : DrainCall State) (index : Nat)
    (line : List Char) : Prop :=
  index < (queueLines file).length ∧ (queueLines file).length ≤ index + call.maxEvents ∧
    (readQueueLine call.timeframe line).frame?.isSome

instance (file : Option (List Char)) (call : DrainCall State) (index : Nat) (line : List Char) :
    Decidable (Finds file call index line) :=
  inferInstanceAs (Decidable (_ ∧ _ ∧ _))

/-- How many calls of a run find the line, among those that count. -/
def callsFinding (counts : Option (List Char) → DrainCall State → Bool) (index : Nat)
    (line : List Char) : Option (List Char) → List (QueueStep State) → Nat
  | _, [] => 0
  | file, .append text :: rest => callsFinding counts index line (appended file text) rest
  | file, .drain call :: rest =>
    (if counts file call ∧ Finds file call index line then 1 else 0) +
      callsFinding counts index line file rest

def returns (update : State → MarketFrame → Option State) (file : Option (List Char))
    (call : DrainCall State) : Bool :=
  (processBarReadyQueue update file call).report.isSome

/-- The line is fed by the calls that find it, at most once by each and once by
each that returns. -/
structure FedAsFound (update : State → MarketFrame → Option State) (file : Option (List Char))
    (steps : List (QueueStep State)) (index : Nat) (line : List Char) : Prop where
  own : ∀ fed ∈ feedsOf update file steps, fed.2.index = index →
    readQueueLine fed.1.timeframe line = .event fed.2.frame
  atMost : timesFed index (feedsOf update file steps) ≤
    callsFinding (fun _ _ => true) index line file steps
  atLeast : callsFinding (returns update) index line file steps ≤
    timesFed index (feedsOf update file steps)

variable {update : State → MarketFrame → Option State} {file : Option (List Char)} {index : Nat}
  {line : List Char}

/-- What a call may feed. -/
def eligible (file : Option (List Char)) (call : DrainCall State) : List Feed :=
  selected call.timeframe (lastLines call.maxEvents (queueLines file).zipIdx)

theorem process_spec (update : State → MarketFrame → Option State) (file : Option (List Char))
    (call : DrainCall State) :
    (processBarReadyQueue update file call).feeds <+: eligible file call ∧
      (returns update file call →
        (processBarReadyQueue update file call).feeds = eligible file call) := by
  cases file with
  | none =>
    refine ⟨List.nil_prefix, fun _ => ?_⟩
    simp [processBarReadyQueue, eligible, queueLines, splitlines, lastLines, selected]
  | some content =>
    cases made : call.pipeline with
    | none => simp [processBarReadyQueue, returns, made]
    | some pipeline =>
      simp only [processBarReadyQueue, returns, made]
      exact feedLines_spec pipeline .start _

theorem eligible_countP {call : DrainCall State} (positive : 0 < call.maxEvents)
    (placed : ∀ found, (queueLines file)[index]? = some found → found = line) :
    (eligible file call).countP (fun feed => feed.index = index) =
      if Finds file call index line then 1 else 0 := by
  rw [eligible, lastLines_zipIdx positive]
  by_cases early : index < (queueLines file).length - call.maxEvents
  · rw [selected_countP_before _ early, if_neg]
    intro finds
    have recent := finds.2.1
    omega
  · obtain ⟨offset, rfl⟩ := Nat.exists_eq_add_of_le (Nat.le_of_not_lt early)
    rw [selected_countP, List.getElem?_drop]
    cases found : (queueLines file)[(queueLines file).length - call.maxEvents + offset]? with
    | none =>
      have beyond := List.getElem?_eq_none_iff.mp found
      rw [if_neg (fun finds => absurd finds.1 (Nat.not_lt.mpr beyond))]
      rfl
    | some here =>
      obtain rfl := placed here found
      obtain ⟨within, -⟩ := List.getElem?_eq_some_iff.mp found
      have recent : (queueLines file).length ≤
          (queueLines file).length - call.maxEvents + offset + call.maxEvents := by omega
      have finds : Finds file call ((queueLines file).length - call.maxEvents + offset) here ↔
          (readQueueLine call.timeframe here).frame?.isSome :=
        ⟨fun finds => finds.2.2, fun event => ⟨within, recent, event⟩⟩
      rw [Option.bind_some]
      simp only [finds]
      cases (readQueueLine call.timeframe here).frame? <;> rfl

theorem eligible_own {call : DrainCall State} {feed : Feed} (member : feed ∈ eligible file call)
    (placed : ∀ found, (queueLines file)[feed.index]? = some found → found = line) :
    readQueueLine call.timeframe line = .event feed.frame := by
  obtain ⟨entry, listed, read⟩ := List.mem_filterMap.mp member
  obtain ⟨frame, event, rfl⟩ := Option.map_eq_some_iff.mp read
  have present : entry ∈ (queueLines file).zipIdx := by
    rw [lastLines] at listed
    split at listed
    · exact listed
    · exact List.mem_of_mem_drop listed
  rw [← placed entry.1 (List.mem_zipIdx_iff_getElem?.mp present)]
  cases read : readQueueLine call.timeframe entry.1 with
  | event found =>
    rw [read] at event
    cases event
    rfl
  | passedOver =>
    rw [read] at event
    cases event
  | raises =>
    rw [read] at event
    cases event

/-- The line is not the last of the file, or the file ends it. -/
def Settled (file : Option (List Char)) (index : Nat) : Prop :=
  index + 1 = (queueLines file).length → EndsLine (file.getD [])

theorem settled_appended (file : Option (List Char)) (text : List Char) (index : Nat) :
    Settled (appended file text) index :=
  fun _ => ⟨file.getD [] ++ text, by rw [appended, Option.getD_some, List.append_assoc]⟩

theorem queueAfter_kept (steps : List (QueueStep State)) (settled : Settled file index)
    (within : index < (queueLines file).length) :
    (queueLines (queueAfter file steps))[index]? = (queueLines file)[index]? := by
  induction steps generalizing file with
  | nil => rfl
  | cons step rest ih =>
    cases step with
    | append text =>
      have kept : (queueLines (appended file text))[index]? = (queueLines file)[index]? :=
        getElem?_splitlines_append within settled (text ++ ['\n'])
      have still : index < (queueLines (appended file text)).length := by
        by_contra beyond
        rw [List.getElem?_eq_none (Nat.le_of_not_lt beyond)] at kept
        exact absurd (List.getElem?_eq_none_iff.mp kept.symm) (Nat.not_le.mpr within)
      rw [queueAfter, ih (settled_appended file text index) still, kept]
    | drain call => exact ih settled within

theorem placed_of_present {steps : List (QueueStep State)} (settled : Settled file index)
    (present : (queueLines (queueAfter file steps))[index]? = some line) (found : List Char)
    (here : (queueLines file)[index]? = some found) : found = line := by
  obtain ⟨within, -⟩ := List.getElem?_eq_some_iff.mp here
  rw [queueAfter_kept steps settled within, here] at present
  exact Option.some.inj present

theorem timesFed_call (call : DrainCall State) (feeds : List Feed)
    (rest : List (DrainCall State × Feed)) :
    timesFed index (feeds.map (fun feed => (call, feed)) ++ rest) =
      feeds.countP (fun feed => feed.index = index) + timesFed index rest := by
  rw [timesFed, List.countP_append, List.countP_map]
  rfl

/-- Over any run, each line is fed by the calls that find it among the last
lines of the queue. -/
theorem fedAsFound_of_run (update : State → MarketFrame → Option State)
    (steps : List (QueueStep State)) (settled : Settled file index)
    (present : (queueLines (queueAfter file steps))[index]? = some line)
    (positive : ∀ call, .drain call ∈ steps → 0 < call.maxEvents) :
    FedAsFound update file steps index line := by
  induction steps generalizing file with
  | nil =>
    exact ⟨fun _ absurdity => absurd absurdity List.not_mem_nil, Nat.le_refl 0, Nat.le_refl 0⟩
  | cons step rest ih =>
    have later := fun call member => positive call (List.mem_cons_of_mem _ member)
    cases step with
    | append text =>
      have fed := ih (settled_appended file text index) present later
      exact ⟨fed.own, fed.atMost, fed.atLeast⟩
    | drain call =>
      have fed := ih settled present later
      have stays : (queueLines (queueAfter file rest))[index]? = some line := present
      have placed := placed_of_present settled stays
      have counted := eligible_countP (positive call List.mem_cons_self) placed
      obtain ⟨started, finished⟩ := process_spec update file call
      refine ⟨?_, ?_, ?_⟩
      · intro entry member same
        cases List.mem_append.mp member with
        | inl here =>
          obtain ⟨feed, listed, rfl⟩ := List.mem_map.mp here
          subst same
          exact eligible_own (started.subset listed) placed
        | inr after => exact fed.own entry after same
      · have within := started.sublist.countP_le (p := fun feed => decide (feed.index = index))
        rw [counted] at within
        rw [feedsOf, timesFed_call, callsFinding]
        have rest := fed.atMost
        simp only [true_and]
        omega
      · rw [feedsOf, timesFed_call, callsFinding]
        have rest := fed.atLeast
        by_cases returned : returns update file call
        · rw [finished returned, counted]
          simp only [returned, true_and]
          omega
        · rw [if_neg (fun finds => returned finds.1)]
          omega

/-! ## An event and two calls -/

def QueueStep.isDrain : QueueStep State → Bool
  | .append _ => false
  | .drain _ => true

/-- Every event of the timeframe is fed once by the time the calls outnumber
the lines. -/
def FedExactlyOnce (update : State → MarketFrame → Option State) : Prop :=
  ∀ (file : Option (List Char)) (steps : List (QueueStep State)) (index : Nat) (line : List Char)
    (timeframe : String) (maxEvents : Nat),
    (queueLines (queueAfter file steps))[index]? = some line →
    (readQueueLine timeframe line).frame?.isSome →
    (∀ call, .drain call ∈ steps → call.timeframe = timeframe ∧ call.maxEvents = maxEvents) →
    (queueLines (queueAfter file steps)).length < steps.countP QueueStep.isDrain * maxEvents →
    timesFed index (feedsOf update file steps) = 1

def readyBar : List Char :=
  Json.dumps true (.map [("event", .str "bar.ready"), ("symbol", .str "USDJPY"),
    ("timeframe", .str "5m"), ("bars", .list [])])

def recentCall : DrainCall Unit where
  maxEvents := 50
  timeframe := "5m"
  pipeline := some ()

/-- One call after the append feeds the event. -/
theorem readyBar_fedAsFound :
    FedAsFound (fun (state : Unit) _ => some state) none [.append readyBar, .drain recentCall] 0
      readyBar :=
  fedAsFound_of_run _ _ (fun absurdity => absurd absurdity (by decide)) (by decide +kernel) (by
    intro call member
    have same : call = recentCall := by simpa using member
    rw [same]
    decide)

/-- The second call feeds the event again. -/
theorem readyBar_fed_twice : ¬ FedExactlyOnce (fun (state : Unit) _ => some state) := by
  intro once
  have fed := once none [.append readyBar, .drain recentCall, .drain recentCall] 0 readyBar "5m" 50
    (by decide +kernel) (by decide +kernel) (by simp [recentCall]) (by decide +kernel)
  exact absurd fed (by decide +kernel)

end Runs

end FxToushi.Features
