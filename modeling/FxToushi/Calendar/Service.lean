import FxToushi.Data.Search
import FxToushi.Py.Value
import Mathlib.Data.List.Sort

namespace FxToushi.Calendar

open Data Py

/-! # The calendar of events

Events come from a CSV file or are given, and each blocks a window around its
time.  Times are microseconds from the first that `datetime` can tell.
-/

inductive CalendarError where
  | load (message : String)
  | overflow
  | type
deriving Repr, DecidableEq

/-- The last microsecond of the year 9999. -/
def lastTime : Int := 315537897599999999

/-- A `datetime` with its offset from UTC, or without one. -/
structure DateTime where
  time : Int
  offset : Option Int
  inRange : 0 ≤ time ∧ time ≤ lastTime
deriving DecidableEq

namespace DateTime

theorem first_inRange : (0 : Int) ≤ 0 ∧ (0 : Int) ≤ lastTime := by decide

def shift (date : DateTime) (microseconds : Int) : Except CalendarError DateTime :=
  if inRange : 0 ≤ date.time + microseconds ∧ date.time + microseconds ≤ lastTime then
    .ok { date with time := date.time + microseconds, inRange }
  else .error .overflow

/-- The instant, where a time without an offset is one in UTC. -/
def instant (date : DateTime) : Int := date.time - date.offset.getD 0

/-- `replace(tzinfo=utc)` without an offset, `astimezone(utc)` with one. -/
def toUtc (date : DateTime) : Except CalendarError DateTime :=
  ({ date with offset := some 0 } : DateTime).shift (-date.offset.getD 0)

/-- `left <= right`, which does not compare a time with an offset and one
without. -/
def le (left right : DateTime) : Except CalendarError Bool :=
  if left.offset.isSome = right.offset.isSome then .ok (decide (left.instant ≤ right.instant))
  else .error .type

end DateTime

def minutes (count : Int) : Int := count * 60000000

structure CalendarEvent where
  title : String
  timestamp : DateTime
  impact : String
  windowBeforeMin : Option Int
  windowAfterMin : Option Int

namespace CalendarEvent

def windowStart (event : CalendarEvent) : Except CalendarError DateTime :=
  event.timestamp.shift (-minutes (event.windowBeforeMin.getD 0))

def windowEnd (event : CalendarEvent) : Except CalendarError DateTime :=
  event.timestamp.shift (minutes (event.windowAfterMin.getD 0))

def applyDefaultWindow (event : CalendarEvent) (defaultMinutes : Int) : CalendarEvent :=
  { event with
    windowBeforeMin := some (event.windowBeforeMin.getD defaultMinutes)
    windowAfterMin := some (event.windowAfterMin.getD defaultMinutes) }

end CalendarEvent

/-! ## Loading -/

/-- A row as `csv.DictReader` gives it, where a column may have no value. -/
abbrev CsvRow := List (String × Option String)

def CsvRow.get (row : CsvRow) (column : String) : Option String :=
  (row.find? (fun entry => entry.1 == column)).bind Prod.snd

/-- `_parse_timestamp`; `fromisoformat` reads the text with `Z` as an offset. -/
def parseTimestamp (fromisoformat : String → Option DateTime) (raw : String) :
    Except CalendarError DateTime :=
  match fromisoformat raw with
  | none => .error (.load ("Invalid timestamp: " ++ raw))
  | some date => date.toUtc

def parseInt (value : Option String) (default : Option Int) : Option Int :=
  match value with
  | none => default
  | some text =>
    let cleaned := strip text
    if cleaned = "" then default
    else
      match parseInt? cleaned with
      | some number => some number
      | none => default

def readRow (fromisoformat : String → Option DateTime) (row : CsvRow) :
    Except CalendarError CalendarEvent :=
  let title := strip (orText (orElse (row.get "title") (row.get "event")) "")
  let stamped := orElse (orElse (row.get "timestamp") (row.get "ts")) (row.get "time")
  let tsRaw := strip (orText stamped "")
  let impact := lower (strip (orText (orElse (row.get "impact") (row.get "severity")) "medium"))
  if title = "" ∨ tsRaw = "" then .error (.load "Calendar CSV row missing title/timestamp")
  else
    (parseTimestamp fromisoformat tsRaw).map (fun timestamp => {
      title
      timestamp
      impact
      windowBeforeMin := parseInt (row.get "window_before_min") none
      windowAfterMin := parseInt (row.get "window_after_min") none })

def loadEventsFromCsv (fromisoformat : String → Option DateTime) (rows : List CsvRow) :
    Except CalendarError (List CalendarEvent) := do
  let events ← tryMap (readRow fromisoformat) rows
  if events.isEmpty then throw (.load "Calendar CSV empty")
  return events

/-- Events that are given, or the rows of the file if there is one. -/
inductive CalendarSource where
  | events (events : List CalendarEvent)
  | file (rows : Option (List CsvRow))

structure CalendarService where
  events : List CalendarEvent
  defaultWindowMin : Int

namespace CalendarService

/-- A file that does not load leaves no events. -/
def loadFromPath (fromisoformat : String → Option DateTime) (rows : Option (List CsvRow)) :
    Except CalendarError (List CalendarEvent) :=
  match rows with
  | none => .ok []
  | some rows =>
    match loadEventsFromCsv fromisoformat rows with
    | .ok events => .ok events
    | .error (.load _) => .ok []
    | .error error => .error error

def create (fromisoformat : String → Option DateTime) (source : CalendarSource)
    (defaultWindowMin : Int) : Except CalendarError CalendarService :=
  match source with
  | .events events => .ok { events, defaultWindowMin }
  | .file rows => (loadFromPath fromisoformat rows).map (fun events => { events, defaultWindowMin })

/-! ## Blocking -/

/-- `event.window_start <= now_ts <= event.window_end`. -/
def covers (nowTs : DateTime) (event : CalendarEvent) : Except CalendarError Bool := do
  let started ← (← event.windowStart).le nowTs
  if started then nowTs.le (← event.windowEnd) else return false

def isBlocked (service : CalendarService) (now : DateTime) : Except CalendarError Bool := do
  let nowTs ← now.toUtc
  tryAny (fun event => covers nowTs (event.applyDefaultWindow service.defaultWindowMin))
    service.events

/-- Sorting compares times with and without an offset if there are both. -/
def sortByTimestamp (events : List CalendarEvent) : Except CalendarError (List CalendarEvent) :=
  let withOffset := fun event : CalendarEvent => event.timestamp.offset.isSome
  if events.all withOffset || events.all (fun event => !withOffset event) then
    .ok (events.insertionSort (fun left right => left.timestamp.instant ≤ right.timestamp.instant))
  else .error .type

def upcomingEvents (service : CalendarService) (limit : Int) (now : DateTime) :
    Except CalendarError (List CalendarEvent) := do
  let nowTs ← now.toUtc
  let ahead ← tryMap (fun event : CalendarEvent => do
    let utc ← event.timestamp.toUtc
    return (event, decide (nowTs.instant ≤ utc.instant))) service.events
  let sorted ← sortByTimestamp ((ahead.filter Prod.snd).map Prod.fst)
  return sorted.take limit.toNat

end CalendarService

/-- The spread monitor's check, `clock` being the time that `upcoming_events`
reads.  What the service raises counts as no event. -/
def resolveNewsEvent (service : CalendarService) (now clock : DateTime)
    (windowMinutes : Int × Int) : Except CalendarError (Option String) :=
  match service.isBlocked now with
  | .error _ => .ok none
  | .ok true => .ok (some "calendar_blocked")
  | .ok false =>
    match service.upcomingEvents 1 clock with
    | .error _ | .ok [] => .ok none
    | .ok (event :: _) => do
        let eventTs := { event.timestamp with offset := some (event.timestamp.offset.getD 0) }
        let start ← now.shift (minutes windowMinutes.1)
        let stop ← now.shift (minutes windowMinutes.2)
        let started ← start.le eventTs
        let inside ← if started then eventTs.le stop else pure false
        return if inside then some event.title else none

/-! ## What an event has to do -/

def CalendarEvent.startInstant (event : CalendarEvent) (defaultMinutes : Int) : Int :=
  event.timestamp.instant - minutes (event.windowBeforeMin.getD defaultMinutes)

def CalendarEvent.endInstant (event : CalendarEvent) (defaultMinutes : Int) : Int :=
  event.timestamp.instant + minutes (event.windowAfterMin.getD defaultMinutes)

/-- The time lies in the window of the event. -/
def CalendarEvent.Contains (event : CalendarEvent) (defaultMinutes : Int) (now : DateTime) : Prop :=
  event.startInstant defaultMinutes ≤ now.instant ∧ now.instant ≤ event.endInstant defaultMinutes

/-- The well-formed events of a source: those given, and those of the rows that
can be read for themselves. -/
def wellFormedEvents (fromisoformat : String → Option DateTime) :
    CalendarSource → List CalendarEvent
  | .events events => events
  | .file none => []
  | .file (some rows) => rows.filterMap (fun row => (readRow fromisoformat row).toOption)

/-- The check answers, and it blocks inside of the window of every well-formed
event, for the service and for the spread monitor. -/
def AlwaysBlocks (fromisoformat : String → Option DateTime) (source : CalendarSource)
    (defaultMinutes : Int) (now : DateTime) : Prop :=
  ∃ service, CalendarService.create fromisoformat source defaultMinutes = .ok service ∧
    ∃ blocked, service.isBlocked now = .ok blocked ∧
      ∀ event ∈ wellFormedEvents fromisoformat source, event.Contains defaultMinutes now →
        blocked = true ∧ ∀ clock windowMinutes,
          resolveNewsEvent service now clock windowMinutes = .ok (some "calendar_blocked")

/-! ## When it does -/

def TellableTime (time : Int) : Prop := 0 ≤ time ∧ time ≤ lastTime

namespace CalendarEvent

/-- The event's time has an offset, and its window starts at a time that can be
told and ends at one, or has not started. -/
def Comparable (event : CalendarEvent) (defaultMinutes : Int) (now : DateTime) : Prop :=
  event.timestamp.offset.isSome = true ∧
    TellableTime (event.timestamp.time - minutes (event.windowBeforeMin.getD defaultMinutes)) ∧
    (event.startInstant defaultMinutes ≤ now.instant →
      TellableTime (event.timestamp.time + minutes (event.windowAfterMin.getD defaultMinutes)))

end CalendarEvent

/-- An event that cannot be compared comes after one that blocks. -/
def Unhindered (events : List CalendarEvent) (defaultMinutes : Int) (now : DateTime) : Prop :=
  ∀ before event after, events = before ++ event :: after →
    ¬ event.Comparable defaultMinutes now →
      ∃ earlier ∈ before, earlier.Comparable defaultMinutes now ∧
        earlier.Contains defaultMinutes now

/-- Every row can be read. -/
def AllRead (fromisoformat : String → Option DateTime) (rows : List CsvRow) : Prop :=
  ∀ row ∈ rows, ∃ event, readRow fromisoformat row = .ok event

/-- The first row that cannot be read is refused. -/
def FirstRefused (fromisoformat : String → Option DateTime) (rows : List CsvRow) : Prop :=
  ∃ before row after message, rows = before ++ row :: after ∧ AllRead fromisoformat before ∧
    readRow fromisoformat row = .error (.load message)

/-- The rows are all read, or the file is given up for one that is refused while
no well-formed event is on; and the events can be compared. -/
def Dependable (fromisoformat : String → Option DateTime) (source : CalendarSource)
    (defaultMinutes : Int) (now : DateTime) : Prop :=
  TellableTime now.instant ∧
    match source with
    | .events events => Unhindered events defaultMinutes now
    | .file none => True
    | .file (some rows) =>
      (AllRead fromisoformat rows ∧
          Unhindered (wellFormedEvents fromisoformat source) defaultMinutes now) ∨
        (FirstRefused fromisoformat rows ∧
          ∀ event ∈ wellFormedEvents fromisoformat source, ¬ event.Contains defaultMinutes now)

/-! ## One event -/

namespace DateTime

theorem shift_ok_iff {date after : DateTime} {microseconds : Int} :
    date.shift microseconds = .ok after ↔
      TellableTime (date.time + microseconds) ∧ after.time = date.time + microseconds ∧
        after.offset = date.offset := by
  rw [shift]
  split
  · rename_i inRange
    refine ⟨fun same => ?_, fun told => ?_⟩
    · cases same
      exact ⟨inRange, rfl, rfl⟩
    · obtain ⟨time, offset, tellable⟩ := after
      obtain ⟨-, rfl, rfl⟩ := told
      rfl
  · rename_i outside
    exact iff_of_false (fun same => nomatch same) (fun told => outside told.1)

theorem shift_cases (date : DateTime) (microseconds : Int) :
    (TellableTime (date.time + microseconds) ∧
        ∃ after, date.shift microseconds = .ok after ∧ after.time = date.time + microseconds ∧
          after.offset = date.offset) ∨
      (¬ TellableTime (date.time + microseconds) ∧
        date.shift microseconds = .error .overflow) := by
  by_cases inRange : TellableTime (date.time + microseconds)
  · refine .inl ⟨inRange, ⟨_, date.offset, inRange⟩, ?_, rfl, rfl⟩
    exact dif_pos inRange
  · exact .inr ⟨inRange, dif_neg inRange⟩

theorem toUtc_cases (date : DateTime) :
    (TellableTime date.instant ∧ ∃ utc, date.toUtc = .ok utc ∧ utc.offset = some 0 ∧
        utc.instant = date.instant) ∨
      (¬ TellableTime date.instant ∧ date.toUtc = .error .overflow) := by
  have same : date.time + -date.offset.getD 0 = date.instant := by
    rw [instant]
    omega
  rcases shift_cases { date with offset := some 0 } (-date.offset.getD 0) with
    ⟨tellable, utc, shifted, time, offset⟩ | ⟨untellable, failed⟩
  · rw [same] at tellable
    refine .inl ⟨tellable, utc, shifted, offset, ?_⟩
    rw [instant, offset, time, same]
    simp
  · rw [same] at untellable
    exact .inr ⟨untellable, failed⟩

end DateTime

namespace DateTime

theorem le_aware {left right : DateTime} {leftOffset rightOffset : Int}
    (leftAware : left.offset = some leftOffset) (rightAware : right.offset = some rightOffset) :
    left.le right = .ok (decide (left.instant ≤ right.instant)) := by
  rw [le, leftAware, rightAware]
  rfl

theorem le_naive {left right : DateTime} {rightOffset : Int} (leftNaive : left.offset = none)
    (rightAware : right.offset = some rightOffset) : left.le right = .error .type := by
  rw [le, leftNaive, rightAware]
  rfl

end DateTime

namespace CalendarService

variable {event : CalendarEvent} {defaultMinutes : Int} {nowTs : DateTime}

theorem covers_of_started {windowed : CalendarEvent} {start : DateTime}
    (started : windowed.windowStart = .ok start) :
    covers nowTs windowed = (start.le nowTs).bind (fun isOn =>
      if isOn then windowed.windowEnd.bind nowTs.le else .ok false) := by
  rw [covers, started]
  rfl

/-- The comparison of an event answers whether the event is on, or fails where
it is not comparable. -/
theorem covers_spec (event : CalendarEvent) (defaultMinutes : Int)
    (aware : nowTs.offset = some 0) :
    (event.Comparable defaultMinutes nowTs ∧ ∃ inside,
        covers nowTs (event.applyDefaultWindow defaultMinutes) = .ok inside ∧
          (inside = true ↔ event.Contains defaultMinutes nowTs)) ∨
      (¬ event.Comparable defaultMinutes nowTs ∧ ∃ error,
        covers nowTs (event.applyDefaultWindow defaultMinutes) = .error error) := by
  let windowed := event.applyDefaultWindow defaultMinutes
  rcases DateTime.shift_cases event.timestamp
      (-minutes (event.windowBeforeMin.getD defaultMinutes)) with
    ⟨startTold, start, started, startTime, startOffset⟩ | ⟨startUntold, startFailed⟩
  · have startIs : windowed.windowStart = .ok start := started
    rw [covers_of_started startIs]
    cases offset : event.timestamp.offset with
    | none =>
      refine .inr ⟨fun comparable => ?_, .type, ?_⟩
      · rw [CalendarEvent.Comparable, offset] at comparable
        exact absurd comparable.1 (by decide)
      · rw [DateTime.le_naive (startOffset.trans offset) aware]
        rfl
    | some shift =>
      have hasOffset : event.timestamp.offset.isSome = true := by rw [offset]; rfl
      have startInstant : start.instant = event.startInstant defaultMinutes := by
        rw [DateTime.instant, CalendarEvent.startInstant, DateTime.instant, startTime,
          startOffset]
        omega
      rw [DateTime.le_aware (startOffset.trans offset) aware, startInstant]
      by_cases isOn : event.startInstant defaultMinutes ≤ nowTs.instant
      · rw [decide_eq_true isOn]
        rcases DateTime.shift_cases event.timestamp
            (minutes (event.windowAfterMin.getD defaultMinutes)) with
          ⟨endTold, stop, stopped, stopTime, stopOffset⟩ | ⟨endUntold, endFailed⟩
        · have stopIs : windowed.windowEnd = .ok stop := stopped
          have stopInstant : stop.instant = event.endInstant defaultMinutes := by
            rw [DateTime.instant, CalendarEvent.endInstant, DateTime.instant, stopTime,
              stopOffset]
            omega
          refine .inl ⟨⟨hasOffset, startTold, fun _ => endTold⟩, ?_⟩
          refine ⟨decide (nowTs.instant ≤ event.endInstant defaultMinutes), ?_, ?_⟩
          · rw [Except.bind, if_pos rfl, stopIs, Except.bind,
              DateTime.le_aware aware (stopOffset.trans offset), stopInstant]
          · rw [decide_eq_true_iff, CalendarEvent.Contains]
            exact ⟨fun within => ⟨isOn, within⟩, fun within => within.2⟩
        · refine .inr ⟨fun comparable => endUntold (comparable.2.2 isOn), .overflow, ?_⟩
          have stopIs : windowed.windowEnd = .error .overflow := endFailed
          rw [Except.bind, if_pos rfl, stopIs]
          rfl
      · rw [decide_eq_false isOn]
        refine .inl ⟨⟨hasOffset, startTold, fun on => absurd on isOn⟩, false, rfl, ?_⟩
        exact iff_of_false (by decide) (fun within => isOn within.1)
  · refine .inr ⟨fun comparable => startUntold comparable.2.1, .overflow, ?_⟩
    have startIs : windowed.windowStart = .error .overflow := startFailed
    rw [covers, startIs]
    rfl

/-! ## The whole check -/

variable {service : CalendarService} {now : DateTime}

theorem isBlocked_told {utc : DateTime} (told : now.toUtc = .ok utc) :
    service.isBlocked now = tryAny (fun event =>
      covers utc (event.applyDefaultWindow service.defaultWindowMin)) service.events := by
  rw [isBlocked, told]
  rfl

theorem isBlocked_untold (untold : now.toUtc = .error .overflow) :
    service.isBlocked now = .error .overflow := by
  rw [isBlocked, untold]
  rfl

/-- The check answers exactly when the time can be told in UTC and every event
that cannot be compared comes after one that blocks. -/
theorem isBlocked_ok_iff :
    (∃ blocked, service.isBlocked now = .ok blocked) ↔
      TellableTime now.instant ∧ Unhindered service.events service.defaultWindowMin now := by
  rcases now.toUtc_cases with ⟨tellable, utc, told, aware, same⟩ | ⟨untellable, untold⟩
  · rw [isBlocked_told told, tryAny_ok_iff, and_iff_right tellable]
    have spec : ∀ event : CalendarEvent, _ :=
      fun event => covers_spec event service.defaultWindowMin aware
    simp only [CalendarEvent.Comparable, CalendarEvent.Contains, same] at spec
    constructor
    · intro every before event after split hindered
      rcases spec event with ⟨comparable, -⟩ | ⟨-, error, failed⟩
      · exact absurd comparable hindered
      · obtain ⟨earlier, member, hit⟩ := every before event after error split failed
        rcases spec earlier with ⟨comparable, inside, judged, isOn⟩ | ⟨-, other, failedEarlier⟩
        · rw [hit] at judged
          cases judged
          exact ⟨earlier, member, comparable, isOn.mp rfl⟩
        · rw [hit] at failedEarlier
          cases failedEarlier
    · intro unhindered before event after error split failed
      rcases spec event with ⟨-, inside, judged, -⟩ | ⟨hindered, -⟩
      · rw [failed] at judged
        cases judged
      · obtain ⟨earlier, member, comparable, within⟩ :=
          unhindered before event after split hindered
        rcases spec earlier with ⟨-, inside, judged, isOn⟩ | ⟨notComparable, -⟩
        · exact ⟨earlier, member, by rw [judged, isOn.mpr within]⟩
        · exact absurd comparable notComparable
  · rw [isBlocked_untold untold]
    exact iff_of_false (by rintro ⟨blocked, answered⟩; cases answered)
      (fun told => untellable told.1)

theorem isBlocked_of_contains {blocked : Bool} (answered : service.isBlocked now = .ok blocked)
    (member : event ∈ service.events) (within : event.Contains service.defaultWindowMin now) :
    blocked = true := by
  rcases now.toUtc_cases with ⟨-, utc, told, aware, same⟩ | ⟨-, untold⟩
  · rw [isBlocked_told told] at answered
    refine tryAny_true_of_mem answered member (fun missed => ?_)
    rcases covers_spec event service.defaultWindowMin aware with
      ⟨-, inside, judged, isOn⟩ | ⟨-, error, failed⟩
    · rw [missed] at judged
      cases judged
      rw [CalendarEvent.Contains, ← same] at within
      exact absurd (isOn.mpr within) (by decide)
    · rw [missed] at failed
      cases failed
  · rw [isBlocked_untold untold] at answered
    cases answered

theorem isBlocked_nil_ne (empty : service.events = []) : service.isBlocked now ≠ .ok true := by
  rw [isBlocked, empty]
  cases now.toUtc with
  | error error => exact fun same => nomatch same
  | ok utc => exact fun same => nomatch same

theorem resolveNewsEvent_blocked (answered : service.isBlocked now = .ok true) (clock : DateTime)
    (windowMinutes : Int × Int) :
    resolveNewsEvent service now clock windowMinutes = .ok (some "calendar_blocked") := by
  rw [resolveNewsEvent, answered]

theorem blocksHeld_iff :
    (∃ blocked, service.isBlocked now = .ok blocked ∧
      ∀ event ∈ service.events, event.Contains service.defaultWindowMin now →
        blocked = true ∧ ∀ clock windowMinutes,
          resolveNewsEvent service now clock windowMinutes = .ok (some "calendar_blocked")) ↔
      TellableTime now.instant ∧ Unhindered service.events service.defaultWindowMin now := by
  rw [← isBlocked_ok_iff]
  constructor
  · rintro ⟨blocked, answered, -⟩
    exact ⟨blocked, answered⟩
  · rintro ⟨blocked, answered⟩
    refine ⟨blocked, answered, fun event member within => ?_⟩
    obtain rfl := isBlocked_of_contains answered member within
    exact ⟨rfl, resolveNewsEvent_blocked answered⟩

end CalendarService

/-! ## The sources -/

section Sources

variable {fromisoformat : String → Option DateTime} {rows : List CsvRow} {defaultMinutes : Int}
  {now : DateTime}

theorem allRead_iff : AllRead fromisoformat rows ↔
    ∃ events, tryMap (readRow fromisoformat) rows = .ok events := tryMap_ok_iff.symm

theorem firstRefused_iff : FirstRefused fromisoformat rows ↔
    ∃ message, tryMap (readRow fromisoformat) rows = .error (.load message) := by
  simp only [tryMap_error_iff]
  constructor
  · rintro ⟨before, row, after, message, found⟩
    exact ⟨message, before, row, after, found⟩
  · rintro ⟨message, before, row, after, found⟩
    exact ⟨before, row, after, message, found⟩

theorem create_of_read {events : List CalendarEvent}
    (read : tryMap (readRow fromisoformat) rows = .ok events) :
    CalendarService.create fromisoformat (.file (some rows)) defaultMinutes =
      .ok { events, defaultWindowMin := defaultMinutes } := by
  cases events with
  | nil => simp [CalendarService.create, CalendarService.loadFromPath, loadEventsFromCsv, read,
      bind, Except.bind, throw, throwThe, MonadExceptOf.throw, Except.map]
  | cons event rest => simp [CalendarService.create, CalendarService.loadFromPath,
      loadEventsFromCsv, read, bind, Except.bind, pure, Except.pure, Except.map]

theorem create_of_refused {message : String}
    (refused : tryMap (readRow fromisoformat) rows = .error (.load message)) :
    CalendarService.create fromisoformat (.file (some rows)) defaultMinutes =
      .ok { events := [], defaultWindowMin := defaultMinutes } := by
  simp [CalendarService.create, CalendarService.loadFromPath, loadEventsFromCsv, refused, bind,
    Except.bind, Except.map]

theorem create_of_failed {error : CalendarError}
    (failed : tryMap (readRow fromisoformat) rows = .error error)
    (other : ∀ message, error ≠ .load message) :
    CalendarService.create fromisoformat (.file (some rows)) defaultMinutes = .error error := by
  cases error with
  | load message => exact absurd rfl (other message)
  | overflow => simp [CalendarService.create, CalendarService.loadFromPath, loadEventsFromCsv,
      failed, bind, Except.bind, Except.map]
  | type => simp [CalendarService.create, CalendarService.loadFromPath, loadEventsFromCsv,
      failed, bind, Except.bind, Except.map]

theorem unhindered_nil : Unhindered [] defaultMinutes now := by
  intro before event after split
  exact absurd split (by simp)

theorem alwaysBlocks_of_events {source : CalendarSource} {events : List CalendarEvent}
    (created : CalendarService.create fromisoformat source defaultMinutes =
      .ok { events, defaultWindowMin := defaultMinutes })
    (wellFormed : wellFormedEvents fromisoformat source = events) :
    AlwaysBlocks fromisoformat source defaultMinutes now ↔
      TellableTime now.instant ∧ Unhindered events defaultMinutes now := by
  rw [AlwaysBlocks, created, wellFormed]
  simp only [Except.ok.injEq, exists_eq_left']
  exact CalendarService.blocksHeld_iff

theorem alwaysBlocks_of_refused {message : String}
    (refused : tryMap (readRow fromisoformat) rows = .error (.load message)) :
    AlwaysBlocks fromisoformat (.file (some rows)) defaultMinutes now ↔
      TellableTime now.instant ∧ ∀ event ∈ wellFormedEvents fromisoformat (.file (some rows)),
        ¬ event.Contains defaultMinutes now := by
  let service : CalendarService := { events := [], defaultWindowMin := defaultMinutes }
  have open_iff : (∃ blocked, service.isBlocked now = .ok blocked) ↔ TellableTime now.instant :=
    CalendarService.isBlocked_ok_iff.trans (and_iff_left unhindered_nil)
  rw [AlwaysBlocks, create_of_refused refused, ← open_iff]
  simp only [Except.ok.injEq, exists_eq_left']
  constructor
  · rintro ⟨blocked, answered, blocks⟩
    refine ⟨⟨blocked, answered⟩, fun event member within => ?_⟩
    obtain ⟨rfl, -⟩ := blocks event member within
    exact absurd answered (CalendarService.isBlocked_nil_ne rfl)
  · rintro ⟨⟨blocked, answered⟩, off⟩
    exact ⟨blocked, answered, fun event member within => absurd within (off event member)⟩

/-- For every source and time: the check answers and blocks inside of the window
of every well-formed event, exactly when the source is dependable. -/
theorem alwaysBlocks_iff (fromisoformat : String → Option DateTime) (source : CalendarSource)
    (defaultMinutes : Int) (now : DateTime) :
    AlwaysBlocks fromisoformat source defaultMinutes now ↔
      Dependable fromisoformat source defaultMinutes now := by
  cases source with
  | events events => exact alwaysBlocks_of_events rfl rfl
  | file rows =>
    cases rows with
    | none =>
      refine (alwaysBlocks_of_events rfl rfl).trans ?_
      exact and_congr_right (fun _ => iff_of_true unhindered_nil trivial)
    | some rows =>
      rw [Dependable, allRead_iff, firstRefused_iff]
      cases read : tryMap (readRow fromisoformat) rows with
      | ok events =>
        have wellFormed : wellFormedEvents fromisoformat (.file (some rows)) = events :=
          (tryMap_ok read).symm
        rw [alwaysBlocks_of_events (create_of_read read) wellFormed, wellFormed]
        simp
      | error error =>
        cases error with
        | load message => simp [alwaysBlocks_of_refused read]
        | overflow =>
          rw [AlwaysBlocks, create_of_failed read (fun _ same => nomatch same)]
          simp
        | type =>
          rw [AlwaysBlocks, create_of_failed read (fun _ same => nomatch same)]
          simp

end Sources

/-! ## Sample sources -/

/-- Half past one in the afternoon of the second of January 2025. -/
def payrollTime (offset : Option Int) : DateTime where
  time := 63871421400000000
  offset
  inRange := by decide

/-- The one time that the samples have. -/
def payrollText (text : String) : Option DateTime :=
  if text = "2025-01-02T13:30:00Z" then some (payrollTime (some 0)) else none

def payrollRow : CsvRow :=
  [("title", some "NFP"), ("timestamp", some "2025-01-02T13:30:00Z"), ("impact", some "high")]

/-- A row without a timestamp. -/
def blankRow : CsvRow := [("title", some "CPI"), ("timestamp", none)]

def payroll (offset : Option Int) : CalendarEvent where
  title := "NFP"
  timestamp := payrollTime offset
  impact := "high"
  windowBeforeMin := none
  windowAfterMin := none

/-- A row without a timestamp takes the whole file away, and an event whose time
has no offset makes the check raise. -/
theorem event_does_not_block :
    ¬ AlwaysBlocks payrollText (.file (some [payrollRow, blankRow])) 30 (payrollTime (some 0)) ∧
      ¬ AlwaysBlocks payrollText (.events [payroll none]) 30 (payrollTime (some 0)) := by
  constructor
  · intro blocks
    have refused : tryMap (readRow payrollText) [payrollRow, blankRow] =
        .error (.load "Calendar CSV row missing title/timestamp") := by rfl
    obtain ⟨-, off⟩ := (alwaysBlocks_of_refused refused).mp blocks
    have read : readRow payrollText payrollRow = .ok (payroll (some 0)) := by rfl
    have member : payroll (some 0) ∈
        wellFormedEvents payrollText (.file (some [payrollRow, blankRow])) :=
      List.mem_filterMap.mpr ⟨payrollRow, List.mem_cons_self, by rw [read]; rfl⟩
    exact off _ member ⟨by decide, by decide⟩
  · intro blocks
    obtain ⟨-, unhindered⟩ := (alwaysBlocks_of_events rfl rfl).mp blocks
    have hindered : ¬ (payroll none).Comparable 30 (payrollTime (some 0)) :=
      fun comparable => absurd comparable.1 (by decide)
    obtain ⟨earlier, member, -⟩ := unhindered [] (payroll none) [] rfl hindered
    cases member

end FxToushi.Calendar
