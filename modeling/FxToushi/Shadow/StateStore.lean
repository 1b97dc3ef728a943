import FxToushi.Data.Fallible
import FxToushi.Data.Runs
import FxToushi.Py.IsoFormat
import FxToushi.Py.Json

namespace FxToushi.Shadow

open Data Py

/-! # Shadow state store

Tickets, alerts and acknowledgements, which a database keeps for some hours.
Every write deletes what is older than that, by the texts of the times.
-/

inductive StoreError where
  | integrity
  | overflow
deriving Repr, DecidableEq

/-- `_utcnow_iso()` at a reading of the clock. -/
def utcnowIso (now : UtcTime) : String := now.wholeSecond.isoText

/-- A row under its primary key. -/
structure Row (Columns : Type) where
  key : String
  columns : Columns
  stamp : String
  /-- The reading of the clock that the row was written at; the table only holds its stamp. -/
  writtenAt : UtcTime
  stamped : stamp = utcnowIso writtenAt

def Row.write {Columns : Type} (key : String) (columns : Columns) (now : UtcTime) :
    Row Columns where
  key
  columns
  stamp := utcnowIso now
  writtenAt := now
  stamped := rfl

structure TicketColumns where
  status : String
  payload : String

structure AlertColumns where
  eventType : String
  payload : String

structure AckColumns where
  source : String
  referenceId : String
  actor : Option String

structure ShadowStateStore where
  tickets : List (Row TicketColumns) := []
  alerts : List (Row AlertColumns) := []
  acks : List (Row AckColumns) := []

inductive Write where
  | upsertTicket (ticketId status : String) (payload : Mapping)
  | addAlert (alertId eventType : String) (payload : Mapping)
  | recordAck (ackId source referenceId : String) (actor : Option String)

/-- A write, and the clock as it is read for the row and then for the cutoff. -/
structure Call where
  write : Write
  stampedAt : UtcTime
  prunedAt : UtcTime

section Tables

variable {Columns : Type}

def holds (rows : List (Row Columns)) (key : String) : Bool := rows.any fun row => row.key == key

/-- `INSERT … ON CONFLICT DO UPDATE`. -/
def upsert (rows : List (Row Columns)) (row : Row Columns) : List (Row Columns) :=
  if holds rows row.key then rows.map fun other => if other.key = row.key then row else other
  else rows ++ [row]

/-- `INSERT` under a primary key. -/
def insert (rows : List (Row Columns)) (row : Row Columns) :
    Except StoreError (List (Row Columns)) :=
  if holds rows row.key then .error .integrity else .ok (rows ++ [row])

/-- `TEXT` values are compared by their bytes. -/
def textLess (left right : String) : Bool :=
  decide (Utf8.encode left.toList < Utf8.encode right.toList)

def deleteBefore (cutoffIso : String) (rows : List (Row Columns)) : List (Row Columns) :=
  rows.filter fun row => !textLess row.stamp cutoffIso

end Tables

def dumps (payload : Mapping) : String := String.ofList (Json.dumps true (.map payload))

/-- `now - timedelta(hours=hours)`. -/
def hoursBefore (now : UtcTime) (hours : Nat) : Except StoreError UtcTime :=
  if hours * 3600000000 ≤ now.micros then
    .ok { micros := now.micros - hours * 3600000000,
          covered := lt_of_le_of_lt (Nat.sub_le _ _) now.covered }
  else .error .overflow

namespace ShadowStateStore

def execute (store : ShadowStateStore) (write : Write) (now : UtcTime) :
    Except StoreError ShadowStateStore :=
  match write with
  | .upsertTicket ticketId status payload =>
    .ok { store with
      tickets := upsert store.tickets (.write ticketId ⟨status, dumps payload⟩ now) }
  | .addAlert alertId eventType payload => do
      let alerts ← insert store.alerts (.write alertId ⟨eventType, dumps payload⟩ now)
      return { store with alerts }
  | .recordAck ackId source referenceId actor => do
      let acks ← insert store.acks (.write ackId ⟨source, referenceId, actor⟩ now)
      return { store with acks }

def pruneExpired (store : ShadowStateStore) (ttlHours : Int) (now : UtcTime) :
    Except StoreError ShadowStateStore :=
  if ttlHours ≤ 0 then .ok store
  else do
    let cutoff ← hoursBefore now ttlHours.toNat
    return {
      tickets := deleteBefore cutoff.isoText store.tickets
      alerts := deleteBefore cutoff.isoText store.alerts
      acks := deleteBefore cutoff.isoText store.acks }

/-- How a call ends, and what it leaves in the database. -/
def run (ttlHours : Int) (store : ShadowStateStore) (call : Call) :
    Except StoreError Unit × ShadowStateStore :=
  match store.execute call.write call.stampedAt with
  | .error error => (.error error, store)
  | .ok written =>
    match written.pruneExpired ttlHours call.prunedAt with
    | .error error => (.error error, written)
    | .ok pruned => (.ok (), pruned)

def after (ttlHours : Int) (store : ShadowStateStore) (call : Call) : ShadowStateStore :=
  (store.run ttlHours call).2

/-- What is committed before the pruning; a write that is refused commits nothing. -/
def written (store : ShadowStateStore) (call : Call) : ShadowStateStore :=
  match store.execute call.write call.stampedAt with
  | .ok written => written
  | .error _ => store

end ShadowStateStore

/-! ## Ages -/

inductive Table where
  | ticket
  | alert
  | ack
deriving Repr, DecidableEq

/-- A row of one of the tables. -/
structure Entry where
  table : Table
  key : String
  writtenAt : UtcTime
deriving DecidableEq

def entriesOf {Columns : Type} (table : Table) (rows : List (Row Columns)) : List Entry :=
  rows.map fun row => { table, key := row.key, writtenAt := row.writtenAt }

def ShadowStateStore.entries (store : ShadowStateStore) : List Entry :=
  entriesOf .ticket store.tickets ++ entriesOf .alert store.alerts ++ entriesOf .ack store.acks

/-- In microseconds. -/
def age (now : UtcTime) (entry : Entry) : Int := now.micros - entry.writtenAt.micros

def hours (count : Int) : Int := count * 3600000000

def second : Int := 1000000

/-- The call deletes no row whose age is at most the time to live. -/
def KeepsYoung (ttlHours : Int) (store : ShadowStateStore) (call : Call) : Prop :=
  ∀ entry ∈ (store.written call).entries, age call.prunedAt entry ≤ hours ttlHours →
    entry ∈ (store.after ttlHours call).entries

/-- Unless it is refused, the call leaves no row that is older by a second. -/
def DropsOld (ttlHours : Int) (store : ShadowStateStore) (call : Call) : Prop :=
  (store.execute call.write call.stampedAt).isOk = true →
    ∀ entry ∈ (store.after ttlHours call).entries,
      age call.prunedAt entry < hours ttlHours + second

/-- The clock goes back neither over the calls nor behind the rows that are there before. -/
def Ordered (store : ShadowStateStore) (calls : List Call) : Prop :=
  (calls.flatMap fun call => [call.stampedAt.micros, call.prunedAt.micros]).Pairwise (· ≤ ·) ∧
    ∀ entry ∈ store.entries, ∀ call ∈ calls, entry.writtenAt.micros ≤ call.stampedAt.micros

/-! ## The cutoff -/

section Cutoff

variable {now written cutoff : UtcTime} {hours : Nat}

theorem textLess_iff {Columns : Type} (row : Row Columns) (cutoff : UtcTime) :
    textLess row.stamp cutoff.isoText = true ↔ row.writtenAt.seconds < cutoff.seconds := by
  rw [textLess, decide_eq_true_iff, row.stamped, utcnowIso,
    UtcTime.encode_isoText_lt_iff row.writtenAt.fraction_wholeSecond, UtcTime.seconds_wholeSecond]

theorem hoursBefore_ok (found : hoursBefore now hours = .ok cutoff) :
    cutoff.micros + hours * 3600000000 = now.micros := by
  unfold hoursBefore at found
  split at found
  · rename_i fits
    obtain rfl := Except.ok.inj found
    exact Nat.sub_add_cancel fits
  · cases found

theorem hoursBefore_error {error : StoreError} (failed : hoursBefore now hours = .error error) :
    now.micros < hours * 3600000000 := by
  unfold hoursBefore at failed
  split at failed
  · cases failed
  · rename_i short
    exact not_le.mp short

end Cutoff

/-! ## What a call deletes -/

/-- The second of the row is before that of the cutoff. -/
def Expired (ttlHours : Int) (now : UtcTime) (entry : Entry) : Prop :=
  (entry.writtenAt.seconds : Int) < (now.micros - hours ttlHours) / second

theorem not_expired_of_young {ttlHours : Int} {now : UtcTime} {entry : Entry}
    (young : age now entry ≤ hours ttlHours) : ¬ Expired ttlHours now entry := by
  unfold age at young
  unfold Expired UtcTime.seconds second
  omega

theorem expired_of_old {ttlHours : Int} {now : UtcTime} {entry : Entry}
    (old : hours ttlHours + second ≤ age now entry) : Expired ttlHours now entry := by
  unfold age second at old
  unfold Expired UtcTime.seconds second
  omega

theorem mem_entriesOf_deleteBefore {Columns : Type} {table : Table} {rows : List (Row Columns)}
    {cutoff : UtcTime} {entry : Entry} :
    entry ∈ entriesOf table (deleteBefore cutoff.isoText rows) ↔
      entry ∈ entriesOf table rows ∧ ¬ entry.writtenAt.seconds < cutoff.seconds := by
  rw [entriesOf, entriesOf, deleteBefore, List.mem_map, List.mem_map]
  constructor
  · rintro ⟨row, member, rfl⟩
    obtain ⟨member, kept⟩ := List.mem_filter.mp member
    rw [Bool.not_eq_true'] at kept
    refine ⟨⟨row, member, rfl⟩, fun less => ?_⟩
    rw [(textLess_iff row cutoff).mpr less] at kept
    cases kept
  · rintro ⟨⟨row, member, rfl⟩, kept⟩
    refine ⟨row, List.mem_filter.mpr ⟨member, ?_⟩, rfl⟩
    rw [Bool.not_eq_true', Bool.eq_false_iff]
    exact fun less => kept ((textLess_iff row cutoff).mp less)

section Calls

variable {ttlHours : Int} {store written pruned : ShadowStateStore} {call : Call}

theorem pruneExpired_ok (positive : 0 < ttlHours) {now : UtcTime}
    (done : store.pruneExpired ttlHours now = .ok pruned) (entry : Entry) :
    entry ∈ pruned.entries ↔ entry ∈ store.entries ∧ ¬ Expired ttlHours now entry := by
  rw [ShadowStateStore.pruneExpired, if_neg (Int.not_le.mpr positive)] at done
  obtain ⟨cutoff, found, returned⟩ := bind_ok done
  obtain rfl := Except.ok.inj returned
  have passed := hoursBefore_ok found
  have same : Expired ttlHours now entry ↔ entry.writtenAt.seconds < cutoff.seconds := by
    unfold Expired hours second UtcTime.seconds
    omega
  rw [same]
  simp only [ShadowStateStore.entries, List.mem_append, mem_entriesOf_deleteBefore]
  tauto

theorem pruneExpired_error (positive : 0 < ttlHours) {now : UtcTime} {error : StoreError}
    (failed : store.pruneExpired ttlHours now = .error error) (entry : Entry) :
    ¬ Expired ttlHours now entry := by
  rw [ShadowStateStore.pruneExpired, if_neg (Int.not_le.mpr positive)] at failed
  have early : now.micros < ttlHours.toNat * 3600000000 := by
    cases found : hoursBefore now ttlHours.toNat with
    | error error => exact hoursBefore_error found
    | ok cutoff =>
      rw [found] at failed
      cases failed
  unfold Expired hours second
  omega

theorem mem_after (positive : 0 < ttlHours)
    (executed : store.execute call.write call.stampedAt = .ok written) (entry : Entry) :
    entry ∈ (store.after ttlHours call).entries ↔
      entry ∈ written.entries ∧ ¬ Expired ttlHours call.prunedAt entry := by
  rw [ShadowStateStore.after, ShadowStateStore.run, executed]
  simp only
  cases done : written.pruneExpired ttlHours call.prunedAt with
  | ok pruned => exact pruneExpired_ok positive done entry
  | error error => exact (and_iff_left (pruneExpired_error positive done entry)).symm

theorem after_refused {error : StoreError}
    (refused : store.execute call.write call.stampedAt = .error error) :
    store.after ttlHours call = store := by
  rw [ShadowStateStore.after, ShadowStateStore.run, refused]

theorem keepsYoung (positive : 0 < ttlHours) (store : ShadowStateStore) (call : Call) :
    KeepsYoung ttlHours store call := by
  intro entry member young
  unfold ShadowStateStore.written at member
  cases executed : store.execute call.write call.stampedAt with
  | error error =>
    rw [executed] at member
    rw [after_refused executed]
    exact member
  | ok written =>
    rw [executed] at member
    exact (mem_after positive executed entry).mpr ⟨member, not_expired_of_young young⟩

theorem dropsOld (positive : 0 < ttlHours) (store : ShadowStateStore) (call : Call) :
    DropsOld ttlHours store call := by
  intro accepted entry member
  cases executed : store.execute call.write call.stampedAt with
  | error error =>
    rw [executed] at accepted
    cases accepted
  | ok written =>
    by_contra old
    exact ((mem_after positive executed entry).mp member).2 (expired_of_old (Int.not_lt.mp old))

end Calls

/-! ## Rows over a run -/

/-- There is a row of the same key that is no older. -/
def Kept (entries : List Entry) (entry : Entry) : Prop :=
  ∃ kept ∈ entries, kept.table = entry.table ∧ kept.key = entry.key ∧
    entry.writtenAt.micros ≤ kept.writtenAt.micros

theorem Kept.of_mem {entries : List Entry} {entry : Entry} (member : entry ∈ entries) :
    Kept entries entry := ⟨entry, member, rfl, rfl, le_rfl⟩

theorem Kept.mono {fewer entries : List Entry} {entry : Entry} (kept : Kept fewer entry)
    (among : ∀ other ∈ fewer, other ∈ entries) : Kept entries entry := by
  obtain ⟨other, member, same⟩ := kept
  exact ⟨other, among other member, same⟩

/-- Every row is kept or replaced, and what is added is written now. -/
structure Advances (now : UtcTime) (before after : List Entry) : Prop where
  keeps : ∀ entry ∈ before, entry.writtenAt.micros ≤ now.micros → Kept after entry
  adds : ∀ entry ∈ after, entry ∈ before ∨ entry.writtenAt = now

namespace Advances

variable {now : UtcTime} {first second firstAfter secondAfter : List Entry}

theorem refl (now : UtcTime) (entries : List Entry) : Advances now entries entries where
  keeps := fun _ member _ => Kept.of_mem member
  adds := fun _ member => .inl member

theorem append (left : Advances now first firstAfter) (right : Advances now second secondAfter) :
    Advances now (first ++ second) (firstAfter ++ secondAfter) where
  keeps := by
    intro entry member earlier
    cases List.mem_append.mp member with
    | inl member =>
      exact (left.keeps entry member earlier).mono fun _ => List.mem_append_left secondAfter
    | inr member =>
      exact (right.keeps entry member earlier).mono fun _ => List.mem_append_right firstAfter
  adds := by
    intro entry member
    cases List.mem_append.mp member with
    | inl member => exact (left.adds entry member).imp_left (List.mem_append_left second)
    | inr member => exact (right.adds entry member).imp_left (List.mem_append_right first)

end Advances

section Tables

variable {Columns : Type} {table : Table} {rows inserted : List (Row Columns)} {row : Row Columns}

theorem advances_snoc (table : Table) (rows : List (Row Columns)) (row : Row Columns) :
    Advances row.writtenAt (entriesOf table rows) (entriesOf table (rows ++ [row])) where
  keeps := by
    intro entry member _
    obtain ⟨other, present, rfl⟩ := List.mem_map.mp member
    exact Kept.of_mem (List.mem_map.mpr ⟨other, List.mem_append_left _ present, rfl⟩)
  adds := by
    intro entry member
    obtain ⟨other, present, rfl⟩ := List.mem_map.mp member
    cases List.mem_append.mp present with
    | inl before => exact .inl (List.mem_map.mpr ⟨other, before, rfl⟩)
    | inr last => exact .inr (congrArg Row.writtenAt (List.mem_singleton.mp last))

theorem advances_replace (table : Table) (rows : List (Row Columns)) (row : Row Columns) :
    Advances row.writtenAt (entriesOf table rows)
      (entriesOf table (rows.map fun other => if other.key = row.key then row else other)) where
  keeps := by
    intro entry member earlier
    obtain ⟨other, present, rfl⟩ := List.mem_map.mp member
    by_cases same : other.key = row.key
    · refine ⟨⟨table, row.key, row.writtenAt⟩, List.mem_map.mpr ⟨row, ?_, rfl⟩, rfl, same.symm,
        earlier⟩
      exact List.mem_map.mpr ⟨other, present, if_pos same⟩
    · refine Kept.of_mem (List.mem_map.mpr ⟨other, ?_, rfl⟩)
      exact List.mem_map.mpr ⟨other, present, if_neg same⟩
  adds := by
    intro entry member
    obtain ⟨other, present, rfl⟩ := List.mem_map.mp member
    obtain ⟨before, present, replaced⟩ := List.mem_map.mp present
    split at replaced
    · exact .inr (congrArg Row.writtenAt replaced.symm)
    · exact .inl (List.mem_map.mpr ⟨before, present, by rw [replaced]⟩)

theorem advances_upsert (table : Table) (rows : List (Row Columns)) (row : Row Columns) :
    Advances row.writtenAt (entriesOf table rows) (entriesOf table (upsert rows row)) := by
  rw [upsert]
  split
  · exact advances_replace table rows row
  · exact advances_snoc table rows row

theorem advances_insert (table : Table) (done : insert rows row = .ok inserted) :
    Advances row.writtenAt (entriesOf table rows) (entriesOf table inserted) := by
  unfold insert at done
  split at done
  · cases done
  · obtain rfl := Except.ok.inj done
    exact advances_snoc table rows row

end Tables

section Runs

variable {ttlHours : Int} {store written : ShadowStateStore} {call : Call}

theorem execute_advances (executed : store.execute call.write call.stampedAt = .ok written) :
    Advances call.stampedAt store.entries written.entries := by
  cases kind : call.write with
  | upsertTicket ticketId status payload =>
    rw [kind] at executed
    obtain rfl := Except.ok.inj executed
    have tickets := advances_upsert .ticket store.tickets
      (.write ticketId ⟨status, dumps payload⟩ call.stampedAt)
    exact (tickets.append (.refl _ _)).append (.refl _ _)
  | addAlert alertId eventType payload =>
    rw [kind] at executed
    obtain ⟨alerts, inserted, returned⟩ := bind_ok executed
    obtain rfl := Except.ok.inj returned
    exact ((Advances.refl _ _).append (advances_insert .alert inserted)).append (.refl _ _)
  | recordAck ackId source referenceId actor =>
    rw [kind] at executed
    obtain ⟨acks, inserted, returned⟩ := bind_ok executed
    obtain rfl := Except.ok.inj returned
    exact ((Advances.refl _ _).append (.refl _ _)).append (advances_insert .ack inserted)

theorem after_keeps (positive : 0 < ttlHours) {entry : Entry} (member : entry ∈ store.entries)
    (earlier : entry.writtenAt.micros ≤ call.stampedAt.micros)
    (young : age call.prunedAt entry ≤ hours ttlHours) :
    Kept (store.after ttlHours call).entries entry := by
  cases executed : store.execute call.write call.stampedAt with
  | error error =>
    rw [after_refused executed]
    exact Kept.of_mem member
  | ok written =>
    obtain ⟨kept, present, table, key, newer⟩ :=
      (execute_advances executed).keeps entry member earlier
    have younger : age call.prunedAt kept ≤ hours ttlHours := by
      unfold age at young ⊢
      omega
    exact ⟨kept, (mem_after positive executed kept).mpr
      ⟨present, not_expired_of_young younger⟩, table, key, newer⟩

theorem after_adds (positive : 0 < ttlHours) {entry : Entry}
    (member : entry ∈ (store.after ttlHours call).entries) :
    entry ∈ store.entries ∨ entry.writtenAt = call.stampedAt := by
  cases executed : store.execute call.write call.stampedAt with
  | error error =>
    rw [after_refused executed] at member
    exact .inl member
  | ok written =>
    exact (execute_advances executed).adds entry ((mem_after positive executed entry).mp member).1

theorem Ordered.after {calls : List Call} (positive : 0 < ttlHours)
    (ordered : Ordered store (call :: calls)) : Ordered (store.after ttlHours call) calls := by
  obtain ⟨clock, behind⟩ := ordered
  rw [List.flatMap_cons, List.pairwise_append] at clock
  refine ⟨clock.2.1, fun entry member later among => ?_⟩
  cases after_adds positive member with
  | inl before => exact behind entry before later (List.mem_cons_of_mem _ among)
  | inr added =>
    rw [added]
    exact clock.2.2 _ List.mem_cons_self _
      (List.mem_flatMap.mpr ⟨later, among, List.mem_cons_self⟩)

theorem run_keeps {calls : List Call} (positive : 0 < ttlHours) (ordered : Ordered store calls)
    {entry : Entry} (member : entry ∈ store.entries)
    (young : ∀ call ∈ calls, age call.prunedAt entry ≤ hours ttlHours) :
    Kept (runFrom (ShadowStateStore.after ttlHours) store calls).entries entry := by
  induction calls generalizing store entry with
  | nil => exact Kept.of_mem member
  | cons call calls ih =>
    obtain ⟨kept, present, table, key, newer⟩ := after_keeps positive member
      (ordered.2 entry member call List.mem_cons_self) (young call List.mem_cons_self)
    have younger : ∀ later ∈ calls, age later.prunedAt kept ≤ hours ttlHours := by
      intro later among
      have bound := young later (List.mem_cons_of_mem _ among)
      unfold age at bound ⊢
      omega
    obtain ⟨last, there, sameTable, sameKey, newest⟩ :=
      ih (ordered.after positive) present younger
    exact ⟨last, there, sameTable.trans table, sameKey.trans key, newer.trans newest⟩

/-- Rows expire by age: no call deletes a young row, every call that is not refused deletes the
old ones, and a row stays, or a newer one of its key, as long as it is young. -/
theorem expire_by_age {calls : List Call} (positive : 0 < ttlHours)
    (ordered : Ordered store calls) :
    EachStep (ShadowStateStore.after ttlHours) (KeepsYoung ttlHours) store calls ∧
      EachStep (ShadowStateStore.after ttlHours) (DropsOld ttlHours) store calls ∧
        ∀ entry ∈ store.entries, (∀ call ∈ calls, age call.prunedAt entry ≤ hours ttlHours) →
          Kept (runFrom (ShadowStateStore.after ttlHours) store calls).entries entry :=
  ⟨eachStep_of_forall (keepsYoung positive), eachStep_of_forall (dropsOld positive),
    fun _ member young => run_keeps positive ordered member young⟩

end Runs

/-- Noon of the first of March 2024, so many seconds on. -/
def noonAfter (seconds : Fin 1000000) : UtcTime where
  micros := (63844891200 + seconds) * 1000000 + 250000
  covered := by
    have := seconds.isLt
    omega

/-- An alert, and a ticket that is written two times, the second time 36 hours later. -/
def dayAndAHalf : List Call :=
  [{ write := .addAlert "alert-1" "drift" [], stampedAt := noonAfter 0, prunedAt := noonAfter 0 },
    { write := .upsertTicket "ticket-1" "open" [], stampedAt := noonAfter 1,
      prunedAt := noonAfter 1 },
    { write := .upsertTicket "ticket-1" "closed" [], stampedAt := noonAfter 129601,
      prunedAt := noonAfter 129602 }]

theorem expire_dayAndAHalf :
    EachStep (ShadowStateStore.after 36) (KeepsYoung 36) {} dayAndAHalf ∧
      EachStep (ShadowStateStore.after 36) (DropsOld 36) {} dayAndAHalf ∧
        ∀ entry ∈ ShadowStateStore.entries {},
          (∀ call ∈ dayAndAHalf, age call.prunedAt entry ≤ hours 36) →
            Kept (runFrom (ShadowStateStore.after 36) {} dayAndAHalf).entries entry :=
  expire_by_age (by decide) ⟨by decide, by decide⟩

example : (runFrom (ShadowStateStore.after 36) {} dayAndAHalf).entries =
    [⟨.ticket, "ticket-1", noonAfter 129601⟩] := by decide +kernel

end FxToushi.Shadow
