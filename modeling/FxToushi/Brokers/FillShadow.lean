import FxToushi.Core.Resync
import FxToushi.Data.Latest

namespace FxToushi.Brokers

open FxToushi.Core Resync Data Py

/-! # Shadow fills

The recorder and the drift detector append their events to one log, one JSON
document a line.  The summary reads the log back and counts the records that
are neither filled nor acknowledged.  Instants are microseconds.
-/

structure ShadowFillRecord where
  eventId : String
  ticketId : String
  orderId : Option String
  status : String
  adapter : String
  profile : String
  recordedAt : String
  payload : Mapping
  wellFormed : Json.WellFormed (.map payload)

structure FillDriftAlert where
  ticketId : String
  orderId : Option String
  symbol : String
  driftPips : Value
  severity : String
  expectedPrice : Value
  fillPrice : Value
  wellFormed : Json.WellFormed (.list [driftPips, expectedPrice, fillPrice])

def orderValue : Option String → Value
  | some orderId => .str orderId
  | none => .null

/-! ## Appending -/

/-- What `append` writes. -/
def ShadowFillRecord.document (record : ShadowFillRecord) : Mapping :=
  [("event", .str "shadow.fill_recorded"),
    ("event_id", .str record.eventId),
    ("ts", .str record.recordedAt),
    ("ticket_id", .str record.ticketId),
    ("order_id", orderValue record.orderId),
    ("status", .str record.status),
    ("adapter", .str record.adapter),
    ("profile", .str record.profile),
    ("payload", .map record.payload)]

/-- What `_append_event` writes at `ts`. -/
def FillDriftAlert.document (ts : String) (alert : FillDriftAlert) : Mapping :=
  [("ts", .str ts),
    ("event", .str "shadow.fill_drift_detected"),
    ("ticket_id", .str alert.ticketId),
    ("order_id", orderValue alert.orderId),
    ("symbol", .str alert.symbol),
    ("drift_pips", alert.driftPips),
    ("severity", .str alert.severity),
    ("expected_price", alert.expectedPrice),
    ("fill_price", alert.fillPrice)]

inductive ShadowEvent where
  | fill (record : ShadowFillRecord)
  | drift (ts : String) (alert : FillDriftAlert)

def ShadowEvent.document : ShadowEvent → Mapping
  | .fill record => record.document
  | .drift ts alert => alert.document ts

/-- The text of the log after the events. -/
def shadowLog (events : List ShadowEvent) : List Char :=
  events.foldl (fun content event => FillShadowStore.appendJsonl content event.document) []

/-! ## Reading -/

/-- `_parse_ts`; reading a text that is not empty is left to `instant`. -/
def parseTs (instant : String → Except PyError Int) (value : String) :
    Except PyError (Option Int) :=
  if value = "" then .ok none else (instant value).map some

def recordTs (record : Mapping) : String :=
  (orValue (orValue (field record "ts") (field record "recorded_at")) (.str "")).text

def recordStatus (record : Mapping) : String := lower (textField record "status" "")

/-- The loop of `list_records`. -/
def keptRecords (instant : String → Except PyError Int) (since : Option Int)
    (statusSet : List String) : List Value → Except PyError (List Mapping)
  | [] => .ok []
  | .map record :: rest => do
      let ts ← parseTs instant (recordTs record)
      let early := match since, ts with
        | some start, some ts => decide (ts < start)
        | _, _ => false
      let filtered := !statusSet.isEmpty && !statusSet.contains (recordStatus record)
      let others ← keptRecords instant since statusSet rest
      return if early || filtered then others else record :: others
  | _ :: _ => .error .attributeError

def listRecords (instant : String → Except PyError Int) (since : Option Int)
    (statusFilter : List String) (content : List Char) : Except PyError (List Mapping) :=
  keptRecords instant since (statusFilter.map lower) (FillShadowStore.readJsonl content)

structure ShadowAlert where
  ticketId : Value
  orderId : Value
  status : Value

structure ShadowSummary where
  status : String
  windowMinutes : Int
  records : Nat
  pending : Nat
  alerts : Option (List ShadowAlert)

def settledStatuses : List String := ["filled", "acknowledged"]

def isPending (record : Mapping) : Bool := !settledStatuses.contains (recordStatus record)

def alertOf (record : Mapping) : ShadowAlert where
  ticketId := field record "ticket_id"
  orderId := field record "order_id"
  status := field record "status"

def windowStart (now windowMinutes : Int) : Int := now - windowMinutes * 60000000

def summary (instant : String → Except PyError Int) (now windowMinutes : Int) (alerts : Bool)
    (content : List Char) : Except PyError ShadowSummary := do
  let records ← listRecords instant (some (windowStart now windowMinutes)) [] content
  let pending := records.filter isPending
  return {
    status := "ok"
    windowMinutes
    records := records.length
    pending := pending.length
    alerts := if alerts then some (pending.map alertOf) else none }

/-! ## The unresolved orders -/

section Orders

-- How a ticket and an order id tell an order is left open.
variable {Order : Type} [DecidableEq Order] (orderOf : String → Option String → Order)

def ShadowFillRecord.order (record : ShadowFillRecord) : Order :=
  orderOf record.ticketId record.orderId

def ShadowFillRecord.isUnresolved (record : ShadowFillRecord) : Bool :=
  !settledStatuses.contains (lower record.status)

def fills (events : List ShadowEvent) : List ShadowFillRecord :=
  events.filterMap (fun event => match event with
    | .fill record => some record
    | .drift _ _ => none)

/-- The latest fill record of the order is neither filled nor acknowledged. -/
def UnresolvedOrder (events : List ShadowEvent) (order : Order) : Prop :=
  OpenAt (ShadowFillRecord.order orderOf) ShadowFillRecord.isUnresolved (fills events) order

def ShadowAlert.order? (alert : ShadowAlert) : Option Order :=
  match alert.ticketId, alert.orderId with
  | .str ticketId, .str orderId => some (orderOf ticketId (some orderId))
  | .str ticketId, .null => some (orderOf ticketId none)
  | _, _ => none

/-- With and without alerts, the pending ones are the unresolved orders, each
told once. -/
def CountsUnresolved (instant : String → Except PyError Int) (now windowMinutes : Int)
    (events : List ShadowEvent) : Prop :=
  ∃ orders : List Order, orders.Nodup ∧
    (∀ order, order ∈ orders ↔ UnresolvedOrder orderOf events order) ∧
    ∀ alerts, ∃ result,
      summary instant now windowMinutes alerts (shadowLog events) = .ok result ∧
      result.pending = orders.length ∧
      result.alerts.map (List.map (ShadowAlert.order? orderOf)) =
        if alerts then some (orders.map some) else none

/-! ## What the log is read as -/

theorem wellFormed_orderValue (orderId : Option String) : Json.WellFormed (orderValue orderId) := by
  cases orderId with
  | none => trivial
  | some orderId => trivial

theorem ShadowFillRecord.wellFormed_document (record : ShadowFillRecord) :
    Json.WellFormed (.map record.document) :=
  ⟨by simp [document], trivial, trivial, trivial, trivial, wellFormed_orderValue record.orderId,
    trivial, trivial, trivial, record.wellFormed, trivial⟩

theorem FillDriftAlert.wellFormed_document (ts : String) (alert : FillDriftAlert) :
    Json.WellFormed (.map (alert.document ts)) := by
  obtain ⟨driftPips, expectedPrice, fillPrice, -⟩ := alert.wellFormed
  exact ⟨by simp [document], trivial, trivial, trivial, wellFormed_orderValue alert.orderId,
    trivial, driftPips, trivial, expectedPrice, fillPrice, trivial⟩

namespace ShadowEvent

def record : ShadowEvent → Record
  | .fill fillRecord => ⟨fillRecord.document, fillRecord.wellFormed_document⟩
  | .drift ts alert => ⟨alert.document ts, alert.wellFormed_document ts⟩

def ts : ShadowEvent → String
  | .fill fillRecord => fillRecord.recordedAt
  | .drift ts _ => ts

def order : ShadowEvent → Order
  | .fill fillRecord => fillRecord.order orderOf
  | .drift _ alert => orderOf alert.ticketId alert.orderId

/-- A drift event has no status. -/
def pending : ShadowEvent → Bool
  | .fill fillRecord => fillRecord.isUnresolved
  | .drift _ _ => true

theorem record_payload (event : ShadowEvent) : event.record.payload = event.document := by
  cases event with
  | fill fillRecord => rfl
  | drift ts alert => rfl

theorem recordTs_document (event : ShadowEvent) : recordTs event.document = event.ts := by
  have own : field event.document "ts" = .str event.ts := by
    cases event with
    | fill fillRecord => rfl
    | drift ts alert => rfl
  have other : field event.document "recorded_at" = .null := by
    cases event with
    | fill fillRecord => rfl
    | drift ts alert => rfl
  rw [recordTs, own, other]
  by_cases empty : event.ts = ""
  · simp [orValue, Value.truth, Value.text, empty]
  · simp [orValue, Value.truth, Value.text, empty]

theorem isPending_document (event : ShadowEvent) : isPending event.document = event.pending := by
  cases event with
  | fill fillRecord =>
    have status : field (ShadowEvent.fill fillRecord).document "status" =
        .str fillRecord.status := rfl
    have same : textField (ShadowEvent.fill fillRecord).document "status" "" =
        fillRecord.status := by
      rw [textField, status]
      by_cases empty : fillRecord.status = ""
      · simp [orValue, Value.text, empty]
      · simp [orValue, Value.truth, Value.text, empty]
    rw [isPending, recordStatus, same]
    rfl
  | drift ts alert =>
    have absent : textField (ShadowEvent.drift ts alert).document "status" "" = "" := rfl
    have unsettled : settledStatuses.contains (lower "") = false := by decide
    rw [isPending, recordStatus, absent, unsettled]
    rfl

omit [DecidableEq Order] in
theorem order?_alertOf (event : ShadowEvent) :
    (alertOf event.document).order? orderOf = some (event.order orderOf) := by
  cases event with
  | fill fillRecord =>
    obtain ⟨eventId, ticketId, orderId, status, adapter, profile, recordedAt⟩ := fillRecord
    cases orderId with
    | none => rfl
    | some orderId => rfl
  | drift ts alert =>
    obtain ⟨ticketId, orderId⟩ := alert
    cases orderId with
    | none => rfl
    | some orderId => rfl

/-- The event's time is read as one inside of the window. -/
def InWindow (instant : String → Except PyError Int) (start : Int) (event : ShadowEvent) : Prop :=
  ∃ moment, parseTs instant event.ts = .ok (some moment) ∧ start ≤ moment

end ShadowEvent

theorem shadowLog_eq (events : List ShadowEvent) :
    shadowLog events = writeAll (events.map ShadowEvent.record) := by
  rw [shadowLog, writeAll, List.foldl_map]
  simp only [ShadowEvent.record_payload]
  rfl

theorem readJsonl_shadowLog {events : List ShadowEvent}
    (oneLine : ∀ event ∈ events, event.record.OneLine) :
    FillShadowStore.readJsonl (shadowLog events) =
      events.map (fun event => .map event.document) := by
  have read := (readLines_iff trims_id (events.map ShadowEvent.record)).mpr
    (List.forall_mem_map.mpr oneLine)
  rw [shadowLog_eq, FillShadowStore.readJsonl, read, List.map_map]
  simp only [Function.comp_def, ShadowEvent.record_payload]

theorem keptRecords_inWindow {instant : String → Except PyError Int} {start : Int}
    {events : List ShadowEvent} (inWindow : ∀ event ∈ events, event.InWindow instant start) :
    keptRecords instant (some start) [] (events.map (fun event => .map event.document)) =
      .ok (events.map ShadowEvent.document) := by
  induction events with
  | nil => rfl
  | cons event rest ih =>
    obtain ⟨⟨moment, parsed, late⟩, later⟩ := List.forall_mem_cons.mp inWindow
    have kept : decide (moment < start) = false := decide_eq_false (by omega)
    simp [keptRecords, ShadowEvent.recordTs_document, parsed, kept, ih later, bind, Except.bind,
      pure, Except.pure]

variable {orderOf}

theorem summary_shadowLog {instant : String → Except PyError Int} {now windowMinutes : Int}
    {events : List ShadowEvent} (oneLine : ∀ event ∈ events, event.record.OneLine)
    (inWindow : ∀ event ∈ events, event.InWindow instant (windowStart now windowMinutes))
    (alerts : Bool) :
    summary instant now windowMinutes alerts (shadowLog events) = .ok {
      status := "ok"
      windowMinutes
      records := events.length
      pending := (events.filter ShadowEvent.pending).length
      alerts := if alerts then
          some ((events.filter ShadowEvent.pending).map (fun event => alertOf event.document))
        else none } := by
  have pending : (events.map ShadowEvent.document).filter isPending =
      (events.filter ShadowEvent.pending).map ShadowEvent.document := by
    rw [List.filter_map]
    congr 2
    exact funext ShadowEvent.isPending_document
  rw [summary, listRecords, readJsonl_shadowLog oneLine, List.map_nil,
    keptRecords_inWindow inWindow]
  simp [bind, Except.bind, pure, Except.pure, pending, Function.comp_def]

/-- What is counted are the orders of the pending events. -/
theorem countsUnresolved_read {instant : String → Except PyError Int} {now windowMinutes : Int}
    {events : List ShadowEvent} (oneLine : ∀ event ∈ events, event.record.OneLine)
    (inWindow : ∀ event ∈ events, event.InWindow instant (windowStart now windowMinutes)) :
    CountsUnresolved orderOf instant now windowMinutes events ↔
      (openKeys (ShadowEvent.order orderOf) ShadowEvent.pending events).Nodup ∧
        ∀ order, order ∈ openKeys (ShadowEvent.order orderOf) ShadowEvent.pending events ↔
          UnresolvedOrder orderOf events order := by
  have told : (events.filter ShadowEvent.pending).map
      (fun event => (alertOf event.document).order? orderOf) =
        (openKeys (ShadowEvent.order orderOf) ShadowEvent.pending events).map some := by
    rw [openKeys, List.map_map]
    exact List.map_congr_left (fun event _ => event.order?_alertOf orderOf)
  constructor
  · rintro ⟨orders, once, exactly, counted⟩
    obtain ⟨result, summed, -, listed⟩ := counted true
    rw [summary_shadowLog oneLine inWindow] at summed
    cases summed
    simp only [if_true, Option.map_some, List.map_map, Function.comp_def, told,
      Option.some.injEq] at listed
    have same := List.map_injective_iff.mpr (Option.some_injective _) listed
    rw [same]
    exact ⟨once, exactly⟩
  · rintro ⟨once, exactly⟩
    refine ⟨_, once, exactly, fun alerts => ?_⟩
    refine ⟨_, summary_shadowLog oneLine inWindow alerts, ?_, ?_⟩
    · simp [openKeys]
    · cases alerts with
      | false => rfl
      | true => simp [Function.comp_def, told]

/-! ## When the unresolved orders are counted -/

variable (orderOf) in
/-- The log has fill records only, and each that another of its order follows is
filled or acknowledged. -/
def SettledInTurn (events : List ShadowEvent) : Prop :=
  (∀ event ∈ events, ∃ fillRecord, event = .fill fillRecord) ∧
    (fills events).Pairwise (fun earlier later =>
      earlier.order orderOf = later.order orderOf → earlier.isUnresolved = false)

theorem fills_map (records : List ShadowFillRecord) :
    fills (records.map ShadowEvent.fill) = records := by
  rw [fills, List.filterMap_map]
  exact List.filterMap_some

theorem exists_fills {events : List ShadowEvent}
    (only : ∀ event ∈ events, ∃ fillRecord, event = .fill fillRecord) :
    ∃ records : List ShadowFillRecord, events = records.map ShadowEvent.fill := by
  induction events with
  | nil => exact ⟨[], rfl⟩
  | cons event rest ih =>
    obtain ⟨⟨fillRecord, rfl⟩, later⟩ := List.forall_mem_cons.mp only
    obtain ⟨records, rfl⟩ := ih later
    exact ⟨fillRecord :: records, rfl⟩

/-- A drift event counts as one more order, or once more as the one it is about. -/
theorem only_fills {events : List ShadowEvent}
    (once : (openKeys (ShadowEvent.order orderOf) ShadowEvent.pending events).Nodup)
    (exactly : ∀ order,
      order ∈ openKeys (ShadowEvent.order orderOf) ShadowEvent.pending events ↔
        UnresolvedOrder orderOf events order) :
    ∀ event ∈ events, ∃ fillRecord, event = .fill fillRecord := by
  intro event member
  cases event with
  | fill fillRecord => exact ⟨fillRecord, rfl⟩
  | drift ts alert =>
    have counted : ShadowEvent.drift ts alert ∈ events.filter ShadowEvent.pending :=
      List.mem_filter.mpr ⟨member, rfl⟩
    obtain ⟨latest, found, unresolved⟩ := (exactly _).mp (List.mem_map_of_mem counted)
    obtain ⟨recorded, same⟩ := mem_of_latest? found
    obtain ⟨other, inEvents, isFill⟩ := List.mem_filterMap.mp recorded
    cases other with
    | drift otherTs otherAlert => cases isFill
    | fill fillRecord =>
      cases isFill
      have latestCounted : ShadowEvent.fill latest ∈ events.filter ShadowEvent.pending :=
        List.mem_filter.mpr ⟨inEvents, unresolved⟩
      have collide := List.inj_on_of_nodup_map once latestCounted counted same
      cases collide

/-- Inside of the window, and with every event read back, the summary counts
the unresolved orders exactly when no record before the latest of its order is
unresolved and no drift was logged. -/
theorem countsUnresolved_iff (orderOf : String → Option String → Order)
    (instant : String → Except PyError Int) (now windowMinutes : Int) (events : List ShadowEvent)
    (inWindow : ∀ event ∈ events, event.InWindow instant (windowStart now windowMinutes))
    (oneLine : ∀ event ∈ events, event.record.OneLine) :
    CountsUnresolved orderOf instant now windowMinutes events ↔ SettledInTurn orderOf events := by
  have ofFills : ∀ records, openKeys (ShadowEvent.order orderOf) ShadowEvent.pending
      (records.map ShadowEvent.fill) =
        openKeys (ShadowFillRecord.order orderOf) ShadowFillRecord.isUnresolved records := by
    intro records
    rw [openKeys, List.filter_map, List.map_map]
    rfl
  rw [countsUnresolved_read oneLine inWindow]
  constructor
  · rintro ⟨once, exactly⟩
    have only := only_fills once exactly
    refine ⟨only, ?_⟩
    obtain ⟨records, rfl⟩ := exists_fills only
    simp only [UnresolvedOrder, ofFills, fills_map] at once exactly ⊢
    exact (listsOpen_iff records).mp ⟨once, exactly⟩
  · rintro ⟨only, settled⟩
    obtain ⟨records, rfl⟩ := exists_fills only
    simp only [UnresolvedOrder, ofFills, fills_map] at settled ⊢
    have lists := (listsOpen_iff records).mpr settled
    exact ⟨lists.once, lists.exactly⟩

end Orders

/-! ## Sample logs -/

def shadowTs : String := "2025-01-02T00:00:00Z"

/-- The one time that the samples have. -/
def shadowInstant (text : String) : Except PyError Int :=
  if text = shadowTs then .ok 1735776000000000 else .error .valueError

def shadowFill (orderId status : String) : ShadowFillRecord where
  eventId := "shadow-0123456789ab"
  ticketId := "T-1"
  orderId := some orderId
  status
  adapter := "mt5"
  profile := "paper"
  recordedAt := shadowTs
  payload := [("symbol", .str "USDJPY")]
  wellFormed := ⟨by decide, trivial, trivial⟩

def shadowDrift : FillDriftAlert where
  ticketId := "T-1"
  orderId := some "O-1"
  symbol := "USDJPY"
  driftPips := .int 2
  severity := "major"
  expectedPrice := .int 150
  fillPrice := .int 151
  wellFormed := ⟨trivial, trivial, trivial, trivial⟩

def shadowNow : Int := 1735776060000000

theorem shadow_inWindow {events : List ShadowEvent}
    (stamped : ∀ event ∈ events, event.ts = shadowTs) :
    ∀ event ∈ events, event.InWindow shadowInstant (windowStart shadowNow 60) := by
  intro event member
  refine ⟨1735776000000000, ?_, by decide⟩
  rw [stamped event member]
  rfl

theorem shadow_oneLine {events : List ShadowEvent}
    (every : (events.map ShadowEvent.record).all (fun record =>
      (Json.chars (.map record.payload)).all (fun char => !foreignBreaks.contains char)) = true) :
    ∀ event ∈ events, event.record.OneLine :=
  List.forall_mem_map.mp (oneLine_of_every every)

theorem countsUnresolved_settled : CountsUnresolved Prod.mk shadowInstant shadowNow 60
    [.fill (shadowFill "O-1" "Filled"), .fill (shadowFill "O-2" "submitted"),
      .fill (shadowFill "O-1" "acknowledged")] :=
  (countsUnresolved_iff Prod.mk shadowInstant shadowNow 60 _ (shadow_inWindow (by decide))
    (shadow_oneLine (by decide +kernel))).mpr ⟨by simp, by decide +kernel⟩

/-- An order that was submitted and then filled is pending, and a filled order
with a drift alert is too. -/
theorem settled_order_pending :
    ¬ CountsUnresolved Prod.mk shadowInstant shadowNow 60
        [.fill (shadowFill "O-1" "submitted"), .fill (shadowFill "O-1" "filled")] ∧
      ¬ CountsUnresolved Prod.mk shadowInstant shadowNow 60
        [.fill (shadowFill "O-1" "filled"), .drift shadowTs shadowDrift] := by
  have resolved : (shadowFill "O-1" "filled").isUnresolved ≠ true := by decide
  constructor
  · intro counts
    rw [countsUnresolved_read (shadow_oneLine (by decide +kernel)) (shadow_inWindow (by decide))]
      at counts
    obtain ⟨latest, found, unresolved⟩ := (counts.2 ("T-1", some "O-1")).mp (by decide +kernel)
    cases found
    exact resolved unresolved
  · intro counts
    rw [countsUnresolved_read (shadow_oneLine (by decide +kernel)) (shadow_inWindow (by decide))]
      at counts
    obtain ⟨latest, found, unresolved⟩ := (counts.2 ("T-1", some "O-1")).mp (by decide +kernel)
    cases found
    exact resolved unresolved

end FxToushi.Brokers
