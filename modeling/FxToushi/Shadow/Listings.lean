import FxToushi.Py.JsonRoundTrip
import FxToushi.Shadow.StateStore

namespace FxToushi.Shadow

open Data Py

/-! # What the shadow store lists

The three tables are three maps, each of which holds what was written last under a key for so
many hours.  The lists are the contents of these maps, the newest first.
-/

structure ShadowTicket where
  ticketId : String
  status : String
  payload : Mapping
  updatedAt : String

structure ShadowAlert where
  alertId : String
  eventType : String
  payload : Mapping
  createdAt : String

structure ShadowAck where
  ackId : String
  source : String
  referenceId : String
  actor : Option String
  notedAt : String

def safeJson (text : String) : Mapping := ((Json.loads text.toList).getD .null).asMapping

section Queries

variable {Columns : Type}

/-- `ORDER BY … DESC`; the rows of one second stay as they are in the table. -/
def newestFirst (rows : List (Row Columns)) : List (Row Columns) :=
  rows.mergeSort fun newer older => !textLess newer.stamp older.stamp

end Queries

def ticketOf (key : String) (columns : TicketColumns) (stamp : String) : ShadowTicket where
  ticketId := key
  status := columns.status
  payload := safeJson columns.payload
  updatedAt := stamp

def alertOf (key : String) (columns : AlertColumns) (stamp : String) : ShadowAlert where
  alertId := key
  eventType := columns.eventType
  payload := safeJson columns.payload
  createdAt := stamp

def ackOf (key : String) (columns : AckColumns) (stamp : String) : ShadowAck where
  ackId := key
  source := columns.source
  referenceId := columns.referenceId
  actor := columns.actor
  notedAt := stamp

namespace ShadowStateStore

def listTickets (store : ShadowStateStore) : List ShadowTicket :=
  (newestFirst store.tickets).map fun row => ticketOf row.key row.columns row.stamp

def listAlerts (store : ShadowStateStore) : List ShadowAlert :=
  (newestFirst store.alerts).map fun row => alertOf row.key row.columns row.stamp

def listAcks (store : ShadowStateStore) : List ShadowAck :=
  (newestFirst store.acks).map fun row => ackOf row.key row.columns row.stamp

end ShadowStateStore

/-! ## What the store is for -/

/-- What is held under a key. -/
structure Held (Item : Type) where
  item : Item
  writtenAt : UtcTime

abbrev Holding (Item : Type) := String → Option (Held Item)

structure Note where
  label : String
  payload : Mapping

structure ShadowState where
  tickets : Holding Note := fun _ => none
  alerts : Holding Note := fun _ => none
  acks : Holding AckColumns := fun _ => none

namespace Holding

variable {Item : Type}

def put (held : Holding Item) (key : String) (item : Item) (now : UtcTime) : Holding Item :=
  Function.update held key (some { item, writtenAt := now })

/-- Without a time to live nothing is too old. -/
def young (ttlHours : Int) (now writtenAt : UtcTime) : Bool :=
  decide (ttlHours ≤ 0) || decide ((now.micros - hours ttlHours) / second ≤ writtenAt.seconds)

def expire (held : Holding Item) (ttlHours : Int) (now : UtcTime) : Holding Item :=
  fun key => (held key).filter fun found => young ttlHours now found.writtenAt

/-- All that is held, each once, the newest first. -/
structure Listing (held : Holding Item) (entries : List (String × Held Item)) : Prop where
  distinct : (entries.map Prod.fst).Nodup
  mem : ∀ key found, (key, found) ∈ entries ↔ held key = some found
  newest : entries.Pairwise fun newer older =>
    older.2.writtenAt.seconds ≤ newer.2.writtenAt.seconds

end Holding

namespace ShadowState

/-- A ticket replaces the one of its key; an alert or acknowledgement is refused while there is
one of its key. -/
def take (state : ShadowState) (write : Write) (now : UtcTime) : Option ShadowState :=
  match write with
  | .upsertTicket ticketId status payload =>
    some { state with tickets := state.tickets.put ticketId ⟨status, payload⟩ now }
  | .addAlert alertId eventType payload =>
    if (state.alerts alertId).isSome then none
    else some { state with alerts := state.alerts.put alertId ⟨eventType, payload⟩ now }
  | .recordAck ackId source referenceId actor =>
    if (state.acks ackId).isSome then none
    else some { state with acks := state.acks.put ackId ⟨source, referenceId, actor⟩ now }

def expire (state : ShadowState) (ttlHours : Int) (now : UtcTime) : ShadowState where
  tickets := state.tickets.expire ttlHours now
  alerts := state.alerts.expire ttlHours now
  acks := state.acks.expire ttlHours now

def after (ttlHours : Int) (state : ShadowState) (call : Call) : ShadowState :=
  match state.take call.write call.stampedAt with
  | none => state
  | some taken => taken.expire ttlHours call.prunedAt

end ShadowState

/-! ## Rows and what is held -/

section Tables

variable {Columns Item : Type}

/-- The rows are of different keys, and each is what is held under its key. -/
structure Shows (read : Columns → Item) (rows : List (Row Columns)) (held : Holding Item) :
    Prop where
  distinct : (rows.map Row.key).Nodup
  shown : ∀ row ∈ rows, held row.key = some { item := read row.columns, writtenAt := row.writtenAt }
  complete : ∀ key, (held key).isSome = true → ∃ row ∈ rows, row.key = key

namespace Shows

variable {read : Columns → Item} {rows inserted : List (Row Columns)} {held : Holding Item}
  {row : Row Columns} {ttlHours : Int} {now cutoff : UtcTime}

theorem nil : Shows read [] fun _ => none where
  distinct := List.nodup_nil
  shown := fun _ member => absurd member List.not_mem_nil
  complete := fun _ found => by cases found

theorem holds_eq (shows : Shows read rows held) (key : String) :
    holds rows key = (held key).isSome := by
  rw [Bool.eq_iff_iff, holds, List.any_eq_true]
  constructor
  · rintro ⟨row, member, same⟩
    rw [← eq_of_beq same, shows.shown row member]
    rfl
  · intro found
    obtain ⟨row, member, same⟩ := shows.complete key found
    exact ⟨row, member, beq_iff_eq.mpr same⟩

theorem snoc (shows : Shows read rows held) (absent : held row.key = none) :
    Shows read (rows ++ [row]) (held.put row.key (read row.columns) row.writtenAt) := by
  have other : ∀ present ∈ rows, present.key ≠ row.key := by
    intro present member same
    have found := shows.shown present member
    rw [same, absent] at found
    cases found
  constructor
  · rw [List.map_append, List.nodup_append]
    refine ⟨shows.distinct, List.nodup_singleton _, fun key before last after same => ?_⟩
    obtain ⟨present, member, rfl⟩ := List.mem_map.mp before
    obtain rfl := List.mem_singleton.mp after
    exact other present member same
  · intro present member
    cases List.mem_append.mp member with
    | inl before =>
      rw [Holding.put, Function.update_of_ne (other present before)]
      exact shows.shown present before
    | inr last =>
      obtain rfl := List.mem_singleton.mp last
      exact Function.update_self _ _ _
  · intro key found
    by_cases same : key = row.key
    · exact ⟨row, List.mem_append_right _ List.mem_cons_self, same.symm⟩
    · rw [Holding.put, Function.update_of_ne same] at found
      obtain ⟨present, member, named⟩ := shows.complete key found
      exact ⟨present, List.mem_append_left _ member, named⟩

theorem replace (shows : Shows read rows held) (present : (held row.key).isSome = true) :
    Shows read (rows.map fun other => if other.key = row.key then row else other)
      (held.put row.key (read row.columns) row.writtenAt) := by
  have keys : (rows.map fun other => if other.key = row.key then row else other).map Row.key =
      rows.map Row.key := by
    rw [List.map_map]
    refine List.map_congr_left fun other _ => ?_
    by_cases same : other.key = row.key <;> simp [same]
  constructor
  · rw [keys]
    exact shows.distinct
  · intro result member
    obtain ⟨other, before, rfl⟩ := List.mem_map.mp member
    by_cases same : other.key = row.key
    · rw [if_pos same]
      exact Function.update_self _ _ _
    · rw [if_neg same, Holding.put, Function.update_of_ne same]
      exact shows.shown other before
  · intro key found
    have named : key ∈ rows.map Row.key := by
      by_cases same : key = row.key
      · obtain ⟨other, before, other_key⟩ := shows.complete row.key present
        exact List.mem_map.mpr ⟨other, before, other_key.trans same.symm⟩
      · rw [Holding.put, Function.update_of_ne same] at found
        obtain ⟨other, before, other_key⟩ := shows.complete key found
        exact List.mem_map.mpr ⟨other, before, other_key⟩
    rw [← keys] at named
    exact List.mem_map.mp named

theorem upsert (shows : Shows read rows held) (row : Row Columns) :
    Shows read (upsert rows row) (held.put row.key (read row.columns) row.writtenAt) := by
  rw [Shadow.upsert, shows.holds_eq]
  split
  · rename_i present
    exact shows.replace present
  · rename_i absent
    exact shows.snoc (Option.not_isSome_iff_eq_none.mp absent)

theorem insert_refused (shows : Shows read rows held) (row : Row Columns)
    (present : (held row.key).isSome = true) :
    insert rows row = .error .integrity := by
  rw [insert, shows.holds_eq, if_pos present]

theorem insert (shows : Shows read rows held) (row : Row Columns)
    (absent : ¬ (held row.key).isSome = true) :
    ∃ inserted, insert rows row = .ok inserted ∧
      Shows read inserted (held.put row.key (read row.columns) row.writtenAt) := by
  rw [Shadow.insert, shows.holds_eq, if_neg absent]
  exact ⟨_, rfl, shows.snoc (Option.not_isSome_iff_eq_none.mp absent)⟩

theorem filter (shows : Shows read rows held) {kept : Row Columns → Bool}
    (same : ∀ row ∈ rows, kept row = Holding.young ttlHours now row.writtenAt) :
    Shows read (rows.filter kept) (held.expire ttlHours now) where
  distinct := shows.distinct.sublist (List.filter_sublist.map _)
  shown := by
    intro row member
    obtain ⟨member, stays⟩ := List.mem_filter.mp member
    rw [Holding.expire, shows.shown row member]
    exact Option.filter_eq_some_iff.mpr ⟨rfl, (same row member).symm.trans stays⟩
  complete := by
    intro key found
    obtain ⟨value, found⟩ := Option.isSome_iff_exists.mp found
    obtain ⟨found, young⟩ := Option.filter_eq_some_iff.mp found
    obtain ⟨row, member, rfl⟩ := shows.complete key (by rw [found]; rfl)
    obtain rfl := Option.some.inj ((shows.shown row member).symm.trans found)
    exact ⟨row, List.mem_filter.mpr ⟨member, (same row member).trans young⟩, rfl⟩

theorem listing (shows : Shows read rows held) :
    held.Listing ((newestFirst rows).map fun row =>
      (row.key, { item := read row.columns, writtenAt := row.writtenAt })) := by
  have perm := List.mergeSort_perm rows fun newer older => !textLess newer.stamp older.stamp
  constructor
  · rw [List.map_map]
    exact (perm.map Row.key).nodup_iff.mpr shows.distinct
  · intro key found
    rw [List.mem_map]
    constructor
    · rintro ⟨row, member, same⟩
      obtain ⟨rfl, rfl⟩ := Prod.mk.inj same
      exact shows.shown row (perm.mem_iff.mp member)
    · intro holds
      obtain ⟨row, member, rfl⟩ := shows.complete key (by rw [holds]; rfl)
      obtain rfl := Option.some.inj ((shows.shown row member).symm.trans holds)
      exact ⟨row, perm.mem_iff.mpr member, rfl⟩
  · rw [List.pairwise_map]
    have order : ∀ newer older : Row Columns, (!textLess newer.stamp older.stamp) = true ↔
        older.writtenAt.seconds ≤ newer.writtenAt.seconds := by
      intro newer older
      rw [Bool.not_eq_true', Bool.eq_false_iff, older.stamped, utcnowIso, ne_eq, textLess_iff,
        UtcTime.seconds_wholeSecond, not_lt]
    refine (List.pairwise_mergeSort ?_ ?_ rows).imp fun sorted => (order _ _).mp sorted
    · intro first second third upper lower
      rw [order] at *
      exact lower.trans upper
    · intro first second
      rw [Bool.or_eq_true, order, order]
      exact le_total _ _

end Shows

end Tables

/-! ## Calls and runs -/

def readTicket (columns : TicketColumns) : Note := ⟨columns.status, safeJson columns.payload⟩

def readAlert (columns : AlertColumns) : Note := ⟨columns.eventType, safeJson columns.payload⟩

/-- The payload of a write can be written as JSON. -/
def Write.WellFormed : Write → Prop
  | .upsertTicket _ _ payload => Json.WellFormed (.map payload)
  | .addAlert _ _ payload => Json.WellFormed (.map payload)
  | .recordAck _ _ _ _ => True

structure Represents (store : ShadowStateStore) (state : ShadowState) : Prop where
  tickets : Shows readTicket store.tickets state.tickets
  alerts : Shows readAlert store.alerts state.alerts
  acks : Shows id store.acks state.acks

section Runs

variable {ttlHours : Int} {store written : ShadowStateStore} {state : ShadowState} {now : UtcTime}

theorem safeJson_dumps {payload : Mapping} (wellFormed : Json.WellFormed (.map payload)) :
    safeJson (dumps payload) = payload := by
  rw [safeJson, dumps, String.toList_ofList, Json.loads_dumps true wellFormed]
  rfl

theorem represents_empty : Represents {} {} where
  tickets := .nil
  alerts := .nil
  acks := .nil

/-- The store refuses what the maps refuse, and else both take the write. -/
theorem execute_represents (represents : Represents store state) {write : Write}
    (wellFormed : write.WellFormed) :
    (state.take write now).elim (store.execute write now = .error .integrity) fun taken =>
      ∃ written, store.execute write now = .ok written ∧ Represents written taken := by
  cases write with
  | upsertTicket ticketId status payload =>
    refine ⟨_, rfl, ?_, represents.alerts, represents.acks⟩
    have tickets := represents.tickets.upsert (.write ticketId ⟨status, dumps payload⟩ now)
    rw [readTicket, Row.write, safeJson_dumps wellFormed] at tickets
    exact tickets
  | addAlert alertId eventType payload =>
    let row : Row AlertColumns := .write alertId ⟨eventType, dumps payload⟩ now
    rw [ShadowState.take]
    split
    · rename_i present
      rw [ShadowStateStore.execute, represents.alerts.insert_refused row present]
      rfl
    · rename_i absent
      obtain ⟨alerts, inserted, shows⟩ := represents.alerts.insert row absent
      rw [ShadowStateStore.execute, inserted]
      refine ⟨_, rfl, represents.tickets, ?_, represents.acks⟩
      have read : readAlert row.columns = ⟨eventType, payload⟩ :=
        congrArg (Note.mk eventType) (safeJson_dumps wellFormed)
      rw [read] at shows
      exact shows
  | recordAck ackId source referenceId actor =>
    let row : Row AckColumns := .write ackId ⟨source, referenceId, actor⟩ now
    rw [ShadowState.take]
    split
    · rename_i present
      rw [ShadowStateStore.execute, represents.acks.insert_refused row present]
      rfl
    · rename_i absent
      obtain ⟨acks, inserted, shows⟩ := represents.acks.insert row absent
      rw [ShadowStateStore.execute, inserted]
      exact ⟨_, rfl, represents.tickets, represents.alerts, shows⟩

/-- Where the cutoff is before the first year, nothing is older. -/
theorem prune_represents (represents : Represents store state) (ttlHours : Int) (now : UtcTime) :
    (∃ pruned, store.pruneExpired ttlHours now = .ok pruned ∧
        Represents pruned (state.expire ttlHours now)) ∨
      (∃ error, store.pruneExpired ttlHours now = .error error ∧ error ≠ .integrity) ∧
        Represents store (state.expire ttlHours now) := by
  have all : (∀ writtenAt, Holding.young ttlHours now writtenAt = true) →
      Represents store (state.expire ttlHours now) := by
    intro young
    have same : state.expire ttlHours now = state := by
      have kept : ∀ {Item : Type} (held : Holding Item), held.expire ttlHours now = held := by
        intro Item held
        funext key
        rw [Holding.expire]
        cases held key with
        | none => rfl
        | some found => simp [young]
      rw [ShadowState.expire, kept, kept, kept]
    rw [same]
    exact represents
  by_cases positive : 0 < ttlHours
  · rw [ShadowStateStore.pruneExpired, if_neg (Int.not_le.mpr positive)]
    cases found : hoursBefore now ttlHours.toNat with
    | error error =>
      have early := hoursBefore_error found
      have overflow : error ≠ .integrity := by
        unfold hoursBefore at found
        split at found
        · cases found
        · rw [← Except.error.inj found]
          decide
      refine .inr ⟨⟨error, rfl, overflow⟩, all fun writtenAt => ?_⟩
      rw [Holding.young, Bool.or_eq_true, decide_eq_true_eq, decide_eq_true_eq]
      unfold hours second
      omega
    | ok cutoff =>
      have passed := hoursBefore_ok found
      have same : ∀ {Columns : Type} (row : Row Columns),
          (!textLess row.stamp cutoff.isoText) = Holding.young ttlHours now row.writtenAt := by
        intro Columns row
        rw [Bool.eq_iff_iff, Bool.not_eq_true', Bool.eq_false_iff, ne_eq, textLess_iff,
          Holding.young, Bool.or_eq_true, decide_eq_true_eq, decide_eq_true_eq]
        unfold hours second UtcTime.seconds
        omega
      exact .inl ⟨_, rfl, represents.tickets.filter fun row _ => same row,
        represents.alerts.filter fun row _ => same row,
        represents.acks.filter fun row _ => same row⟩
  · rw [ShadowStateStore.pruneExpired, if_pos (Int.not_lt.mp positive)]
    refine .inl ⟨store, rfl, all fun writtenAt => ?_⟩
    rw [Holding.young, decide_eq_true (Int.not_lt.mp positive), Bool.true_or]

theorem after_represents (represents : Represents store state) {call : Call}
    (wellFormed : call.write.WellFormed) :
    Represents (store.after ttlHours call) (state.after ttlHours call) := by
  have executed := @execute_represents _ _ call.stampedAt represents _ wellFormed
  rw [ShadowStateStore.after, ShadowStateStore.run, ShadowState.after]
  cases taken : state.take call.write call.stampedAt with
  | none =>
    rw [taken] at executed
    rw [show store.execute call.write call.stampedAt = .error .integrity from executed]
    exact represents
  | some next =>
    rw [taken] at executed
    obtain ⟨written, done, shown⟩ := executed
    rw [done]
    simp only
    rcases prune_represents shown ttlHours call.prunedAt with
      ⟨pruned, done, shown⟩ | ⟨⟨error, failed, -⟩, shown⟩
    · rw [done]
      exact shown
    · rw [failed]
      exact shown

theorem run_represents {calls : List Call} (represents : Represents store state)
    (wellFormed : ∀ call ∈ calls, call.write.WellFormed) :
    Represents (runFrom (ShadowStateStore.after ttlHours) store calls)
      (runFrom (ShadowState.after ttlHours) state calls) := by
  induction calls generalizing store state with
  | nil => exact represents
  | cons call calls ih =>
    exact ih (after_represents represents (wellFormed call List.mem_cons_self))
      fun later among => wellFormed later (List.mem_cons_of_mem _ among)

theorem run_integrity_iff (represents : Represents store state) {call : Call}
    (wellFormed : call.write.WellFormed) :
    (store.run ttlHours call).1 = .error .integrity ↔
      state.take call.write call.stampedAt = none := by
  have executed := @execute_represents _ _ call.stampedAt represents _ wellFormed
  rw [ShadowStateStore.run]
  cases taken : state.take call.write call.stampedAt with
  | none =>
    rw [taken] at executed
    rw [show store.execute call.write call.stampedAt = .error .integrity from executed]
    simp
  | some next =>
    rw [taken] at executed
    obtain ⟨written, done, shown⟩ := executed
    rw [done]
    simp only
    rcases prune_represents shown ttlHours call.prunedAt with
      ⟨pruned, done, -⟩ | ⟨⟨error, failed, other⟩, -⟩
    · simp [done]
    · simpa [failed] using other

end Runs

def ticketHeld (entry : String × Held Note) : ShadowTicket where
  ticketId := entry.1
  status := entry.2.item.label
  payload := entry.2.item.payload
  updatedAt := utcnowIso entry.2.writtenAt

def alertHeld (entry : String × Held Note) : ShadowAlert where
  alertId := entry.1
  eventType := entry.2.item.label
  payload := entry.2.item.payload
  createdAt := utcnowIso entry.2.writtenAt

def ackHeld (entry : String × Held AckColumns) : ShadowAck where
  ackId := entry.1
  source := entry.2.item.source
  referenceId := entry.2.item.referenceId
  actor := entry.2.item.actor
  notedAt := utcnowIso entry.2.writtenAt

/-- After any calls the three lists are what the three maps hold, the newest first and with the
payloads as they were given, and the next write is refused exactly where the maps refuse it. -/
theorem lists_run (ttlHours : Int) {calls : List Call} {next : Call}
    (wellFormed : ∀ call ∈ next :: calls, call.write.WellFormed) :
    let store := runFrom (ShadowStateStore.after ttlHours) {} calls
    let state := runFrom (ShadowState.after ttlHours) {} calls
    (∃ entries, state.tickets.Listing entries ∧ store.listTickets = entries.map ticketHeld) ∧
      (∃ entries, state.alerts.Listing entries ∧ store.listAlerts = entries.map alertHeld) ∧
        (∃ entries, state.acks.Listing entries ∧ store.listAcks = entries.map ackHeld) ∧
          ((store.run ttlHours next).1 = .error .integrity ↔
            state.take next.write next.stampedAt = none) := by
  intro store state
  obtain ⟨now, before⟩ := List.forall_mem_cons.mp wellFormed
  have represents : Represents store state := run_represents represents_empty before
  refine ⟨⟨_, represents.tickets.listing, ?_⟩, ⟨_, represents.alerts.listing, ?_⟩,
    ⟨_, represents.acks.listing, ?_⟩, run_integrity_iff represents now⟩
  · rw [List.map_map]
    exact List.map_congr_left fun row _ => by simp [ticketOf, ticketHeld, readTicket, row.stamped]
  · rw [List.map_map]
    exact List.map_congr_left fun row _ => by simp [alertOf, alertHeld, readAlert, row.stamped]
  · rw [List.map_map]
    exact List.map_congr_left fun row _ => by simp [ackOf, ackHeld, row.stamped]

def alertAgain : Call where
  write := .addAlert "alert-1" "drift" []
  stampedAt := noonAfter ⟨129603, by decide⟩
  prunedAt := noonAfter ⟨129603, by decide⟩

/-- The alert of `dayAndAHalf` is too old, so its key can be written again. -/
theorem lists_dayAndAHalf :
    ((runFrom (ShadowStateStore.after 36) {} dayAndAHalf).run 36 alertAgain).1 ≠
      .error .integrity := by
  have empty : Json.WellFormed (.map []) := ⟨List.nodup_nil, trivial⟩
  have wellFormed : ∀ call ∈ alertAgain :: dayAndAHalf, call.write.WellFormed := by
    simp [alertAgain, dayAndAHalf, Write.WellFormed, empty]
  have lists := lists_run 36 wellFormed
  intro refused
  have absent := lists.2.2.2.mp refused
  revert absent
  simp [alertAgain, dayAndAHalf, runFrom, ShadowState.after, ShadowState.take, ShadowState.expire,
    Holding.expire, Holding.put]
  decide

end FxToushi.Shadow
