import Mathlib.Tactic.Positivity
import FxToushi.Core.IsoTimes
import FxToushi.Core.Resync
import FxToushi.Py.Containers

namespace FxToushi.Telemetry

open Calendar FxToushi.Core FxToushi.Core.Resync Data Py

/-! # Telemetry of the trader's workflow

Events and summaries are appended to a log of JSON lines, and a summary is of the events of a
window that ends now.
-/

structure WorkflowEvent where
  ts : DateTime
  eventType : String
  ticketId : Value
  actor : Value
  boardMode : Value
  payload : Mapping

/-- The numbers are rationals where a summary is computed, and documents where it is recorded. -/
structure WorkflowSummary (Number : Type) where
  status : String
  windowStart : String
  windowEnd : String
  sampleCount : Nat
  avgApprovalLatencySec : Option Number
  checklistCompletionRate : Option Number
  guardedTimeRatio : Option Number
  mistakeRate : Option Number

def WorkflowSummary.toDict (summary : WorkflowSummary Value) : Mapping :=
  [("status", .str summary.status),
    ("window_start", .str summary.windowStart),
    ("window_end", .str summary.windowEnd),
    ("sample_count", .int summary.sampleCount),
    ("avg_approval_latency_sec", summary.avgApprovalLatencySec.getD .null),
    ("checklist_completion_rate", summary.checklistCompletionRate.getD .null),
    ("guarded_time_ratio", summary.guardedTimeRatio.getD .null),
    ("mistake_rate", summary.mistakeRate.getD .null)]

/-! ## Recording -/

inductive Action where
  | recordEvent (eventType : String) (ticketId actor boardMode : Option String)
      (payload : Option Mapping)
  | recordSummary (summary : WorkflowSummary Value)

/-- What is recorded, and the clock as it is read for it. -/
structure Call where
  action : Action
  now : UtcTime

def textOrNone (text : Option String) : Value := text.elim .null .str

def Call.stamp (call : Call) : Value := .str call.now.wholeSecond.isoText

def Call.record (call : Call) : Mapping :=
  match call.action with
  | .recordEvent eventType ticketId actor boardMode payload =>
    [("schema_version", .str "trader.workflow.v1"),
      ("event", .str eventType),
      ("ts", call.stamp),
      ("ticket_id", textOrNone ticketId),
      ("actor", textOrNone actor),
      ("board_mode", textOrNone boardMode),
      ("payload", .map (payload.getD []))]
  | .recordSummary summary =>
    ("schema_version", .str "trader.workflow.summary.v1") ::
      ("event", .str "trader_workflow.summary") :: ("ts", call.stamp) :: summary.toDict

def after (content : List Char) (call : Call) : List Char := appendLine content call.record

/-! ## Loading -/

def parseTs (value : Value) : Option DateTime :=
  if value.truth then fromisoformat (replaceText "Z" "+00:00" value.text) else none

/-- `ts < start or ts > end`; a time without an offset is not compared. -/
def outside (ts : DateTime) (start stop : UtcTime) : Except PyError Bool :=
  if ts.offset.isSome then
    .ok (decide (ts.instant < start.micros) || decide ((stop.micros : Int) < ts.instant))
  else .error .typeError

def loadEvent (start stop : UtcTime) : Value → Except PyError (Option WorkflowEvent)
  | .map data =>
    if (field data "event").isText "trader_workflow.summary" then .ok none
    else
      match parseTs (field data "ts") with
      | none => .ok none
      | some ts => do
          if ← outside ts start stop then return none
          else return some {
            ts
            eventType := (field data "event").text
            ticketId := field data "ticket_id"
            actor := field data "actor"
            boardMode := field data "board_mode"
            payload := (field data "payload").asMapping }
  | _ => .error .attributeError

def loadEvents (content : List Char) (start stop : UtcTime) :
    Except PyError (List WorkflowEvent) := do
  let events ← tryMap (loadEvent start stop) (readLines id content)
  return events.filterMap id

/-! ## Summaries -/

/-- What ticket ids are told apart by in a dictionary. -/
inductive TicketKey where
  | none
  | text (text : String)
  | number (value : Rat)
deriving DecidableEq

def ticketKey : Value → Except PyError TicketKey
  | .null => .ok .none
  | .bool value => .ok (.number (if value then 1 else 0))
  | .int value => .ok (.number value)
  | .float value _ => .ok (.number value)
  | .str text => .ok (.text text)
  | .list _ => .error .typeError
  | .map _ => .error .typeError

structure Latencies where
  proposals : List (TicketKey × DateTime) := []
  approvals : List Rat := []

def totalSeconds (start stop : DateTime) : Rat :=
  ((stop.instant - start.instant : Int) : Rat) / 1000000

def propose (seen : Latencies) (event : WorkflowEvent) : Except PyError Latencies :=
  if ["ticket.proposed", "ticket.created"].contains event.eventType then do
    let key ← ticketKey event.ticketId
    return { seen with proposals := Dict.assign key event.ts seen.proposals }
  else .ok seen

def approve (seen : Latencies) (event : WorkflowEvent) : Except PyError Latencies :=
  if ["ticket.approved", "ticket.ack"].contains event.eventType then do
    let key ← ticketKey event.ticketId
    match Dict.lookup key seen.proposals with
    | none => return seen
    | some start =>
      return { seen with approvals := seen.approvals ++ [totalSeconds start event.ts] }
  else .ok seen

def latenciesFrom (seen : Latencies) : List WorkflowEvent → Except PyError Latencies
  | [] => .ok seen
  | event :: rest =>
    if event.ticketId.truth then do
      latenciesFrom (← approve (← propose seen event) event) rest
    else latenciesFrom seen rest

def mean (values : List Rat) : Option Rat :=
  if values = [] then none else some (values.sum / values.length)

def avgApprovalLatency (events : List WorkflowEvent) : Except PyError (Option Rat) := do
  let seen ← latenciesFrom {} events
  return mean seen.approvals

def countOf (eventType : String) (events : List WorkflowEvent) : Nat :=
  events.countP fun event => event.eventType == eventType

def ratio (part whole : Nat) : Option Rat := if whole = 0 then none else some (part / whole)

def checklistCompletionRate (events : List WorkflowEvent) : Option Rat :=
  ratio (countOf "checklist.completed" events)
    (countOf "checklist.completed" events + countOf "checklist.missed" events)

def guardedTimeRatio (events : List WorkflowEvent) : Option Rat :=
  ratio (events.countP fun event => event.boardMode.isText "guarded") events.length

def mistakeRate (events : List WorkflowEvent) : Option Rat :=
  ratio (countOf "workflow.mistake" events) events.length

/-- `now - window`. -/
def windowStart (now : UtcTime) (window : Int) : Except PyError UtcTime :=
  if inRange : 0 ≤ (now.micros : Int) - window ∧
      (now.micros : Int) - window < 3652059 * 86400 * 1000000 then
    .ok { micros := ((now.micros : Int) - window).toNat, covered := by omega }
  else .error (.other "OverflowError")

def summaryOf (start now : UtcTime) (events : List WorkflowEvent) (latency : Option Rat) :
    WorkflowSummary Rat where
  status := if events.isEmpty then "no_data" else "ok"
  windowStart := start.isoText
  windowEnd := now.isoText
  sampleCount := events.length
  avgApprovalLatencySec := latency
  checklistCompletionRate := checklistCompletionRate events
  guardedTimeRatio := guardedTimeRatio events
  mistakeRate := mistakeRate events

def summarize (content : List Char) (reading : UtcTime) (window : Int) :
    Except PyError (WorkflowSummary Rat) := do
  let start ← windowStart reading.wholeSecond window
  let events ← loadEvents content start reading.wholeSecond
  let latency ← avgApprovalLatency events
  return summaryOf start reading.wholeSecond events latency

/-! ## What a window holds -/

/-- An event of the name of a summary is never loaded. -/
def eventOf (call : Call) : Option WorkflowEvent :=
  match call.action with
  | .recordEvent eventType ticketId actor boardMode payload =>
    if eventType = "trader_workflow.summary" then none
    else some {
      ts := ofUtc call.now.wholeSecond
      eventType
      ticketId := textOrNone ticketId
      actor := textOrNone actor
      boardMode := textOrNone boardMode
      payload := payload.getD [] }
  | .recordSummary _ => none

def inside (start stop : UtcTime) (event : WorkflowEvent) : Bool :=
  decide ((start.micros : Int) ≤ event.ts.instant) && decide (event.ts.instant ≤ stop.micros)

/-- The events that the calls have recorded from the start to the end. -/
def recent (start stop : UtcTime) (calls : List Call) : List WorkflowEvent :=
  (calls.filterMap eventOf).filter (inside start stop)

/-- The record can be written on one line. -/
structure Call.Fit (call : Call) : Prop where
  wellFormed : Json.WellFormed (.map call.record)
  plain : ∀ char ∈ Json.chars (.map call.record), char ∉ foreignBreaks

section Loading

variable {start stop : UtcTime} {calls : List Call}

theorem parseTs_stamp (call : Call) : parseTs call.stamp = some (ofUtc call.now.wholeSecond) := by
  have read := fromisoformat_isoText call.now.wholeSecond
  have filled : call.now.wholeSecond.isoText ≠ "" := by
    intro empty
    rw [empty] at read
    cases read
  rw [parseTs, Call.stamp, Value.truth, if_pos (by simpa using filled)]
  exact read

theorem outside_eq {event : WorkflowEvent} (aware : event.ts.offset.isSome = true) :
    outside event.ts start stop = .ok (!inside start stop event) := by
  rw [outside, if_pos aware, inside, Bool.not_and, ← decide_not, ← decide_not]
  simp only [not_le]

/-- What is recorded is loaded where it is in the window. -/
theorem loadEvent_record (call : Call) : loadEvent start stop (.map call.record) =
    .ok ((eventOf call).filter (inside start stop)) := by
  have stamp := parseTs_stamp call
  cases kind : call.action with
  | recordEvent eventType ticketId actor boardMode payload =>
    have event : field call.record "event" = .str eventType := by
      rw [Call.record, kind]
      rfl
    have ts : field call.record "ts" = call.stamp := by
      rw [Call.record, kind]
      rfl
    have ticket : field call.record "ticket_id" = textOrNone ticketId := by
      rw [Call.record, kind]
      rfl
    have by_whom : field call.record "actor" = textOrNone actor := by
      rw [Call.record, kind]
      rfl
    have mode : field call.record "board_mode" = textOrNone boardMode := by
      rw [Call.record, kind]
      rfl
    have body : field call.record "payload" = .map (payload.getD []) := by
      rw [Call.record, kind]
      rfl
    rw [loadEvent, event, ts, ticket, by_whom, mode, body, stamp, eventOf, kind]
    by_cases summary : eventType = "trader_workflow.summary"
    · rw [if_pos (by simpa [Value.isText] using summary)]
      simp [summary]
    · let event : WorkflowEvent := {
        ts := ofUtc call.now.wholeSecond
        eventType
        ticketId := textOrNone ticketId
        actor := textOrNone actor
        boardMode := textOrNone boardMode
        payload := payload.getD [] }
      have window : outside (ofUtc call.now.wholeSecond) start stop =
        .ok (!inside start stop event) := outside_eq (rfl : event.ts.offset.isSome = true)
      rw [if_neg (by simpa [Value.isText] using summary)]
      simp only [summary, if_false, window, Option.filter_some]
      show _ = Except.ok (if inside start stop event = true then some event else none)
      cases inside start stop event with
      | false => rfl
      | true => rfl
  | recordSummary summary =>
    have event : field call.record "event" = .str "trader_workflow.summary" := by
      rw [Call.record, kind]
      rfl
    rw [loadEvent, event, if_pos (by decide), eventOf, kind]
    rfl

theorem loadEvents_run (fit : ∀ call ∈ calls, call.Fit) :
    loadEvents (runFrom after [] calls) start stop = .ok (recent start stop calls) := by
  have fits : ∀ payload ∈ calls.map Call.record,
      Json.WellFormed (.map payload) ∧ PlainText (Json.chars (.map payload)) := by
    intro payload member
    obtain ⟨call, among, rfl⟩ := List.mem_map.mp member
    exact ⟨(fit call among).wellFormed, (fit call among).plain⟩
  have read := readLines_payloads trims_id fits
  have written : runFrom after [] calls = (calls.map Call.record).foldl appendLine [] := by
    rw [List.foldl_map]
    rfl
  rw [loadEvents, written, read, List.map_map, Function.comp_def, tryMap_map loadEvent_record]
  show Except.ok _ = Except.ok _
  rw [List.filterMap_map, recent, List.filter_filterMap]
  rfl

end Loading

/-! ## Latencies -/

section Latencies

variable {start stop latest : Int} {seen next : Latencies} {event : WorkflowEvent}

/-- The proposals are from the window so far, and no approval took longer than the window. -/
structure Latencies.Within (start latest width : Int) (seen : Latencies) : Prop where
  proposals : ∀ proposal ∈ seen.proposals,
    start ≤ proposal.2.instant ∧ proposal.2.instant ≤ latest
  approvals : ∀ latency ∈ seen.approvals, 0 ≤ latency ∧ latency * 1000000 ≤ width

theorem propose_within (within : seen.Within start latest (stop - start))
    (began : start ≤ event.ts.instant) (later : latest ≤ event.ts.instant)
    (proposed : propose seen event = .ok next) :
    next.Within start event.ts.instant (stop - start) := by
  have before : seen.Within start event.ts.instant (stop - start) :=
    ⟨fun proposal member => ⟨(within.proposals proposal member).1,
      (within.proposals proposal member).2.trans later⟩, within.approvals⟩
  unfold propose at proposed
  split at proposed
  · obtain ⟨key, -, returned⟩ := bind_ok proposed
    obtain rfl := Except.ok.inj returned
    refine ⟨fun proposal member => ?_, before.approvals⟩
    rcases Dict.mem_assign member with rfl | kept
    · exact ⟨began, le_rfl⟩
    · exact before.proposals proposal kept
  · obtain rfl := Except.ok.inj proposed
    exact before

theorem totalSeconds_within {proposal : DateTime} {width : Int}
    (after : proposal.instant ≤ event.ts.instant)
    (short : event.ts.instant - proposal.instant ≤ width) :
    0 ≤ totalSeconds proposal event.ts ∧ totalSeconds proposal event.ts * 1000000 ≤ width := by
  rw [totalSeconds, div_mul_cancel₀ _ (by norm_num : (1000000 : Rat) ≠ 0)]
  refine ⟨div_nonneg ?_ (by norm_num), by exact_mod_cast short⟩
  exact_mod_cast sub_nonneg.mpr after

theorem approve_within (within : seen.Within start event.ts.instant (stop - start))
    (ends : event.ts.instant ≤ stop) (approved : approve seen event = .ok next) :
    next.Within start event.ts.instant (stop - start) := by
  unfold approve at approved
  split at approved
  · obtain ⟨key, -, returned⟩ := bind_ok approved
    split at returned
    · obtain rfl := Except.ok.inj returned
      exact within
    · rename_i proposal found
      obtain rfl := Except.ok.inj returned
      obtain ⟨began, before⟩ := within.proposals _ (Dict.mem_of_lookup found)
      refine ⟨within.proposals, fun latency member => ?_⟩
      cases List.mem_append.mp member with
      | inl earlier => exact within.approvals latency earlier
      | inr last =>
        obtain rfl := List.mem_singleton.mp last
        exact totalSeconds_within before (sub_le_sub ends began)
  · obtain rfl := Except.ok.inj approved
    exact within

theorem latenciesFrom_within {events : List WorkflowEvent}
    (within : seen.Within start latest (stop - start))
    (ordered : events.Pairwise fun earlier later => earlier.ts.instant ≤ later.ts.instant)
    (window : ∀ event ∈ events, start ≤ event.ts.instant ∧ latest ≤ event.ts.instant ∧
      event.ts.instant ≤ stop)
    (done : latenciesFrom seen events = .ok next) :
    ∃ last, next.Within start last (stop - start) := by
  induction events generalizing seen latest with
  | nil =>
    obtain rfl := Except.ok.inj done
    exact ⟨latest, within⟩
  | cons event rest ih =>
    obtain ⟨first, ordered⟩ := List.pairwise_cons.mp ordered
    obtain ⟨⟨began, later, ends⟩, window⟩ := List.forall_mem_cons.mp window
    rw [latenciesFrom] at done
    split at done
    · obtain ⟨proposed, isProposed, done⟩ := bind_ok done
      obtain ⟨approved, isApproved, done⟩ := bind_ok done
      have reached := approve_within (propose_within within began later isProposed) ends isApproved
      refine ih reached ordered (fun other member => ?_) done
      exact ⟨(window other member).1, first other member, (window other member).2.2⟩
    · exact ih within ordered window done

/-- Texts are always told apart. -/
theorem latenciesFrom_ok {events : List WorkflowEvent}
    (texts : ∀ event ∈ events, ∃ text, event.ticketId = textOrNone text) (seen : Latencies) :
    ∃ next, latenciesFrom seen events = .ok next := by
  induction events generalizing seen with
  | nil => exact ⟨seen, rfl⟩
  | cons event rest ih =>
    obtain ⟨⟨text, same⟩, texts⟩ := List.forall_mem_cons.mp texts
    obtain ⟨key, isKey⟩ : ∃ key, ticketKey event.ticketId = .ok key := by
      rw [same]
      cases text with
      | none => exact ⟨_, rfl⟩
      | some text => exact ⟨_, rfl⟩
    have proposes : ∃ proposed, propose seen event = .ok proposed := by
      rw [propose, isKey]
      split
      · exact ⟨_, rfl⟩
      · exact ⟨_, rfl⟩
    obtain ⟨proposed, isProposed⟩ := proposes
    have approves : ∃ approved, approve proposed event = .ok approved := by
      rw [approve, isKey]
      split
      · cases found : Dict.lookup key proposed.proposals with
        | none => exact ⟨proposed, by simp [bind, Except.bind, found]; rfl⟩
        | some start => exact ⟨_, by simp [bind, Except.bind, found]; rfl⟩
      · exact ⟨_, rfl⟩
    obtain ⟨approved, isApproved⟩ := approves
    rw [latenciesFrom]
    split
    · rw [isProposed]
      show ∃ next, (approve proposed event >>= fun seen => latenciesFrom seen rest) = .ok next
      rw [isApproved]
      exact ih texts approved
    · exact ih texts seen

end Latencies

/-! ## Summaries of a run -/

section Summaries

theorem ratio_within {part whole : Nat} (most : part ≤ whole) :
    ∀ rate ∈ ratio part whole, 0 ≤ rate ∧ rate ≤ 1 := by
  intro rate found
  unfold ratio at found
  split at found
  · cases found
  · rename_i some_
    obtain rfl := Option.some.inj found
    have positive : (0 : Rat) < whole := by exact_mod_cast Nat.pos_of_ne_zero some_
    refine ⟨by positivity, (div_le_one positive).mpr ?_⟩
    exact_mod_cast most

theorem mean_within {values : List Rat} {width : Rat}
    (each : ∀ value ∈ values, 0 ≤ value ∧ value * 1000000 ≤ width) :
    ∀ average ∈ mean values, 0 ≤ average ∧ average * 1000000 ≤ width := by
  intro average found
  unfold mean at found
  split at found
  · cases found
  · rename_i some_
    obtain rfl := Option.some.inj found
    have positive : (0 : Rat) < values.length := by
      exact_mod_cast List.length_pos_iff.mpr some_
    have low : 0 ≤ values.sum := List.sum_nonneg fun value member => (each value member).1
    have high : values.sum * 1000000 ≤ values.length * width := by
      clear found some_ positive low
      induction values with
      | nil => simp
      | cons value rest ih =>
        obtain ⟨first, later⟩ := List.forall_mem_cons.mp each
        rw [List.sum_cons, List.length_cons, add_mul, Nat.cast_succ, add_mul, one_mul, add_comm]
        exact add_le_add (ih later) first.2
    refine ⟨div_nonneg low positive.le, ?_⟩
    rw [div_mul_eq_mul_div, div_le_iff₀ positive, mul_comm width]
    exact high

theorem eventOf_some {call : Call} {event : WorkflowEvent} (recorded : eventOf call = some event) :
    ∃ text, event.ts = ofUtc call.now.wholeSecond ∧ event.ticketId = textOrNone text := by
  unfold eventOf at recorded
  split at recorded
  · split at recorded
    · cases recorded
    · obtain rfl := Option.some.inj recorded
      exact ⟨_, rfl, rfl⟩
  · cases recorded

theorem ordered_recent {start stop : UtcTime} {calls : List Call}
    (clock : calls.Pairwise fun earlier later => earlier.now.micros ≤ later.now.micros) :
    (recent start stop calls).Pairwise fun earlier later =>
      earlier.ts.instant ≤ later.ts.instant := by
  refine List.Pairwise.filter _ (clock.filterMap _ fun earlier later order first found second
    other => ?_)
  obtain ⟨-, firstTime, -⟩ := eventOf_some found
  obtain ⟨-, secondTime, -⟩ := eventOf_some other
  have seconds : earlier.now.wholeSecond.micros ≤ later.now.wholeSecond.micros := by
    unfold UtcTime.wholeSecond UtcTime.fraction
    simp only
    omega
  rw [firstTime, secondTime]
  simp only [DateTime.instant, ofUtc, Option.getD_some]
  omega

/-- A summary counts the events that were recorded in its window, and these alone: its rates are
shares of them, and no approval is counted as earlier than its proposal or as longer than the
window. -/
theorem summarize_run {calls : List Call} {reading start : UtcTime} {window : Int}
    (fit : ∀ call ∈ calls, call.Fit)
    (clock : calls.Pairwise fun earlier later => earlier.now.micros ≤ later.now.micros)
    (started : windowStart reading.wholeSecond window = .ok start) :
    ∃ summary, summarize (runFrom after [] calls) reading window = .ok summary ∧
      summary.sampleCount = (recent start reading.wholeSecond calls).length ∧
        (∀ rate ∈ summary.checklistCompletionRate, 0 ≤ rate ∧ rate ≤ 1) ∧
          (∀ rate ∈ summary.guardedTimeRatio, 0 ≤ rate ∧ rate ≤ 1) ∧
            (∀ rate ∈ summary.mistakeRate, 0 ≤ rate ∧ rate ≤ 1) ∧
              ∀ latency ∈ summary.avgApprovalLatencySec,
                0 ≤ latency ∧ latency * 1000000 ≤ window := by
  have loaded := @loadEvents_run start reading.wholeSecond calls fit
  have width : (reading.wholeSecond.micros : Int) - start.micros = window := by
    unfold windowStart at started
    split at started
    · rename_i inRange
      obtain rfl := Except.ok.inj started
      simp only
      omega
    · cases started
  have texts : ∀ event ∈ recent start reading.wholeSecond calls,
      ∃ text, event.ticketId = textOrNone text := by
    intro event member
    obtain ⟨call, -, recorded⟩ := List.mem_filterMap.mp (List.mem_filter.mp member).1
    obtain ⟨text, -, same⟩ := eventOf_some recorded
    exact ⟨text, same⟩
  have inWindow : ∀ event ∈ recent start reading.wholeSecond calls,
      (start.micros : Int) ≤ event.ts.instant ∧ (start.micros : Int) ≤ event.ts.instant ∧
        event.ts.instant ≤ reading.wholeSecond.micros := by
    intro event member
    have within := (List.mem_filter.mp member).2
    rw [inside, Bool.and_eq_true, decide_eq_true_eq, decide_eq_true_eq] at within
    exact ⟨within.1, within.1, within.2⟩
  obtain ⟨seen, done⟩ := latenciesFrom_ok texts {}
  obtain ⟨last, within⟩ := latenciesFrom_within
    ⟨fun _ member => absurd member List.not_mem_nil, fun _ member => absurd member List.not_mem_nil⟩
    (ordered_recent clock) inWindow done
  rw [width] at within
  have average : avgApprovalLatency (recent start reading.wholeSecond calls) =
      .ok (mean seen.approvals) := by
    rw [avgApprovalLatency, done]
    rfl
  refine ⟨summaryOf start reading.wholeSecond (recent start reading.wholeSecond calls)
    (mean seen.approvals), ?_, rfl, ?_, ?_, ?_, mean_within within.approvals⟩
  · rw [summarize, started]
    show (loadEvents _ _ _ >>= _) = _
    rw [loaded]
    show (avgApprovalLatency _ >>= _) = _
    rw [average]
    rfl
  · exact ratio_within (Nat.le_add_right _ _)
  · exact ratio_within List.countP_le_length
  · exact ratio_within List.countP_le_length

end Summaries

/-- Noon of the first of March 2024, so many seconds on. -/
def noonAfter (seconds : Fin 100000) : UtcTime where
  micros := (63844891200 + seconds) * 1000000 + 500000
  covered := by
    have := seconds.isLt
    omega

/-- A ticket of the day before, and one that is approved after a minute and a half. -/
def workday : List Call :=
  [{ action := .recordEvent "ticket.proposed" (some "T-1") none none none, now := noonAfter 0 },
    { action := .recordEvent "ticket.proposed" (some "T-2") (some "ops") none none,
      now := noonAfter 90000 },
    { action := .recordEvent "ticket.approved" (some "T-2") (some "ops") (some "guarded") none,
      now := noonAfter 90090 }]

theorem summarize_workday : ∃ summary,
    summarize (runFrom after [] workday) (noonAfter 90100) 86400000000 = .ok summary ∧
      summary.sampleCount = 2 := by
  have fit : ∀ call ∈ workday, call.Fit := by
    have wellFormed : ∀ call ∈ workday, Json.WellFormed (.map call.record) := by
      simp [workday, Call.record, Call.stamp, textOrNone, Json.WellFormed, Json.WellFormedEntries]
    have plain : workday.all (fun call => (Json.chars (.map call.record)).all
        fun char => !foreignBreaks.contains char) = true := by decide +kernel
    intro call member
    refine ⟨wellFormed call member, fun char inside breaks => ?_⟩
    have kept := List.all_eq_true.mp (List.all_eq_true.mp plain call member) char inside
    simp [breaks] at kept
  have started : windowStart (noonAfter 90100).wholeSecond 86400000000 =
      .ok (noonAfter 3700).wholeSecond := by rfl
  obtain ⟨summary, done, count, -⟩ := summarize_run fit (by decide) started
  exact ⟨summary, done, count⟩

end FxToushi.Telemetry
