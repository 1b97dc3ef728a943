import FxToushi.Data.Directory
import FxToushi.Data.Runs
import FxToushi.Py.Value
import Mathlib.Algebra.BigOperators.Group.List.Basic

namespace FxToushi.Core

open Data Py

/-! # The event log and its replay

Published events are appended to a plain file per day.  A file that grew too
large is compressed into the archive and removed; replay reads the plain files
first and the archives after them, each in the order of their names.
-/

structure EventRecord where
  ts : Int
  eventType : Option String
  event : Value
  context : Mapping

/-- The files of the log by day.  `written` is for the statements only: every
record appended so far, in the order of the appends. -/
structure EventLog where
  plain : Directory Int (List EventRecord) := Directory.empty
  archive : Directory Int (List EventRecord) := Directory.empty
  written : List EventRecord := []

namespace EventLog

/-- The day in the name of a log file. -/
def dateToken (ts : Int) : Int := ts / 86400000000

/-- Compress a day's file and remove it.  The archive is opened for writing, so
what an earlier rotation of that day left there is lost. -/
def rotate (log : EventLog) (day : Int) : EventLog :=
  match log.plain.get? day with
  | none => log
  | some records =>
    { log with archive := log.archive.put day records, plain := log.plain.remove day }

def append (log : EventLog) (dated : Int) (record : EventRecord) : EventLog :=
  { log with
    plain := log.plain.appendTo (dateToken dated) [record]
    written := log.written ++ [record] }

/-- An append reads the clock twice, for the file and for the record. -/
inductive Action where
  | append (dated : Int) (record : EventRecord)
  | rotate (day : Int)

def step (log : EventLog) : Action → EventLog
  | .append dated record => log.append dated record
  | .rotate day => log.rotate day

/-! ## Replay -/

def records (log : EventLog) : List EventRecord :=
  contents log.plain.entries ++ contents log.archive.entries

def typeText (record : EventRecord) : String := lower (record.eventType.getD "None")

/-- The type an event names in its own `event` field. -/
def nestedType (record : EventRecord) : String :=
  match record.event with
  | .map entries => lower (((Mapping.get? entries "event").map Value.text).getD "")
  | _ => ""

def typeMatches (eventTypes : List String) (record : EventRecord) : Bool :=
  eventTypes.isEmpty || decide (typeText record ∈ eventTypes) ||
    decide (nestedType record ∈ eventTypes)

def within (fromTs toTs : Int) (record : EventRecord) : Bool :=
  decide (fromTs ≤ record.ts) && decide (record.ts ≤ toTs)

/-- `now` is the clock reading that stands in for a missing upper bound. -/
def replay (log : EventLog) (now fromTs : Int) (toTs : Option Int)
    (eventTypes : Option (List String)) : List EventRecord :=
  log.records.filter (fun record => within fromTs (toTs.getD now) record &&
    typeMatches ((eventTypes.getD []).map lower) record)

def latestEventSnapshot (log : EventLog) (now : Int) (eventType : String) (sinceTs : Int) :
    Option EventRecord :=
  (log.replay now sinceTs none (some [eventType])).getLast?

/-! ## Publishing -/

structure Bus where
  log : EventLog := {}
  currentLog : Option Int := none

def maxLogSize : Nat := 50 * 1024 * 1024

/-- `size` is the length of a record's line in bytes. -/
def fileSize (size : EventRecord → Nat) (records : List EventRecord) : Nat :=
  (records.map size).sum

def rotateIfNeeded (size : EventRecord → Nat) (log : EventLog) (day : Int) : EventLog :=
  match log.plain.get? day with
  | none => log
  | some records => if fileSize size records < maxLogSize then log else log.rotate day

/-- `_append_log`, up to the retention run and the state cache. -/
def appendLog (size : EventRecord → Nat) (bus : Bus) (dated : Int) (record : EventRecord) : Bus :=
  let day := dateToken dated
  let log := match bus.currentLog with
    | none => bus.log
    | some previous => if previous ≠ day then rotateIfNeeded size bus.log previous else bus.log
  { log := rotateIfNeeded size (log.append dated record) day, currentLog := some day }

theorem rotateIfNeeded_run (size : EventRecord → Nat) (log : EventLog) (day : Int) :
    ∃ actions, rotateIfNeeded size log day = runFrom step log actions := by
  unfold rotateIfNeeded
  split
  · exact ⟨[], rfl⟩
  · split
    · exact ⟨[], rfl⟩
    · exact ⟨[.rotate day], rfl⟩

/-- Publishing takes the log through appends and rotations only. -/
theorem appendLog_run (size : EventRecord → Nat) (bus : Bus) (dated : Int) (record : EventRecord) :
    ∃ first last, (appendLog size bus dated record).log =
      runFrom step bus.log (first ++ .append dated record :: last) := by
  have opened : ∃ first, (match bus.currentLog with
      | none => bus.log
      | some previous => if previous ≠ dateToken dated then rotateIfNeeded size bus.log previous
        else bus.log) = runFrom step bus.log first := by
    split
    · exact ⟨[], rfl⟩
    · split
      · exact rotateIfNeeded_run size bus.log _
      · exact ⟨[], rfl⟩
  obtain ⟨first, opened⟩ := opened
  obtain ⟨last, closed⟩ := rotateIfNeeded_run size
    ((runFrom step bus.log first).append dated record) (dateToken dated)
  refine ⟨first, last, ?_⟩
  simp only [appendLog, opened, closed]
  simp only [runFrom, List.foldl_append, List.foldl_cons, step]

/-! ## When replay is chronological and complete -/

/-- Every written record in the window exactly once and in time order, so that
the snapshot of a type is a latest record of that type. -/
structure ReplaysInOrder (log : EventLog) : Prop where
  complete : ∀ now fromTs toTs, (log.replay now fromTs toTs none).Perm
    (log.written.filter (within fromTs (toTs.getD now)))
  ordered : ∀ now fromTs toTs, (log.replay now fromTs toTs none).Pairwise
    (fun earlier later => earlier.ts ≤ later.ts)
  latest : ∀ now eventType sinceTs, ∀ record ∈ log.written, within sinceTs now record = true →
    typeMatches [lower eventType] record = true →
    ∃ snapshot, log.latestEventSnapshot now eventType sinceTs = some snapshot ∧
      record.ts ≤ snapshot.ts

/-- The clock does not go back: an append is dated no earlier than anything
written before and stamped no earlier than it is dated. -/
def ClockForward (log : EventLog) : Action → Prop
  | .append dated record => dated ≤ record.ts ∧ ∀ earlier ∈ log.written, earlier.ts ≤ dated
  | .rotate _ => True

/-- An append needs an archive without earlier records.  A day with records is
rotated for the first time, while neither a later plain file nor the archive of
an earlier day holds a later record. -/
def KeepsOrder (log : EventLog) : Action → Prop
  | .append _ record => ∀ archived ∈ contents log.archive.entries, record.ts ≤ archived.ts
  | .rotate day => ∀ moved, log.plain.get? day = some moved →
      log.archive.get? day = none ∧
        ∀ other, other ∈ contents (log.plain.after day) ∨
          other ∈ contents (log.archive.before day) → ∀ record ∈ moved, other.ts ≤ record.ts

/-- What the steps keep: the files hold what was written in time order, no file
is empty and no plain record is dated before its file. -/
structure Consistent (log : EventLog) : Prop where
  complete : log.records.Perm log.written
  ordered : log.records.Pairwise (fun earlier later => earlier.ts ≤ later.ts)
  plainFilled : ∀ file ∈ log.plain.entries, file.2 ≠ []
  archiveFilled : ∀ file ∈ log.archive.entries, file.2 ≠ []
  dated : ∀ file ∈ log.plain.entries, ∀ record ∈ file.2, file.1 ≤ dateToken record.ts

theorem replay_all (log : EventLog) (now fromTs : Int) (toTs : Option Int) :
    log.replay now fromTs toTs none = log.records.filter (within fromTs (toTs.getD now)) := by
  simp [replay, typeMatches]

theorem last_of_pairwise {list : List EventRecord} {record : EventRecord}
    (ordered : list.Pairwise (fun earlier later => earlier.ts ≤ later.ts))
    (member : record ∈ list) : ∃ last, list.getLast? = some last ∧ record.ts ≤ last.ts := by
  obtain ⟨front, rfl | ⟨last, rfl⟩⟩ : ∃ front, list = [] ∨ ∃ last, list = front ++ [last] := by
    rcases List.eq_nil_or_concat list with empty | ⟨front, last, split⟩
    · exact ⟨[], .inl empty⟩
    · exact ⟨front, .inr ⟨last, by simpa using split⟩⟩
  · simp at member
  · refine ⟨last, by simp, ?_⟩
    rcases List.mem_append.mp member with early | here
    · exact (List.pairwise_append.mp ordered).2.2 record early last (List.mem_singleton_self last)
    · rw [List.mem_singleton.mp here]

theorem Consistent.replaysInOrder {log : EventLog} (consistent : Consistent log) :
    ReplaysInOrder log := by
  constructor
  · intro now fromTs toTs
    rw [replay_all]
    exact consistent.complete.filter _
  · intro now fromTs toTs
    rw [replay_all]
    exact consistent.ordered.filter _
  · intro now eventType sinceTs record member inside matching
    refine last_of_pairwise (consistent.ordered.filter _) (List.mem_filter.mpr
      ⟨consistent.complete.mem_iff.mpr member, ?_⟩)
    simp only [Option.getD_none, Option.getD_some, List.map_cons, List.map_nil]
    rw [inside, matching]
    rfl

theorem exists_window (list : List EventRecord) :
    ∃ fromTs toTs, ∀ record ∈ list, within fromTs toTs record = true := by
  induction list with
  | nil => exact ⟨0, 0, fun _ absurdity => absurd absurdity List.not_mem_nil⟩
  | cons record rest ih =>
    obtain ⟨fromTs, toTs, inside⟩ := ih
    refine ⟨min fromTs record.ts, max toTs record.ts, fun other member => ?_⟩
    rcases List.mem_cons.mp member with rfl | later
    · simp only [within, Bool.and_eq_true, decide_eq_true_eq]
      omega
    · have bounds := inside other later
      simp only [within, Bool.and_eq_true, decide_eq_true_eq] at bounds ⊢
      omega

theorem ReplaysInOrder.records {log : EventLog} (replays : ReplaysInOrder log) :
    log.records.Perm log.written ∧
      log.records.Pairwise (fun earlier later => earlier.ts ≤ later.ts) := by
  obtain ⟨fromTs, toTs, inside⟩ := exists_window (log.records ++ log.written)
  have complete := replays.complete 0 fromTs (some toTs)
  have ordered := replays.ordered 0 fromTs (some toTs)
  have all : log.records.filter (within fromTs toTs) = log.records :=
    List.filter_eq_self.mpr fun record member => inside record (List.mem_append_left _ member)
  have written : log.written.filter (within fromTs toTs) = log.written :=
    List.filter_eq_self.mpr fun record member => inside record (List.mem_append_right _ member)
  rw [replay_all, Option.getD_some, all] at complete ordered
  rw [written] at complete
  exact ⟨complete, ordered⟩

section Steps

variable {log : EventLog} {dated day : Int} {record : EventRecord} {moved : List EventRecord}

theorem dateToken_mono {earlier later : Int} (order : earlier ≤ later) :
    dateToken earlier ≤ dateToken later := by
  simp only [dateToken]
  omega

theorem Consistent.append_last (consistent : Consistent log)
    (clock : ClockForward log (.append dated record)) :
    ∀ file ∈ log.plain.entries, file.1 ≤ dateToken dated := by
  intro file member
  obtain ⟨other, held⟩ := List.exists_mem_of_ne_nil file.2 (consistent.plainFilled file member)
  have listed : other ∈ log.records :=
    List.mem_append_left _ (List.mem_flatMap.mpr ⟨file, member, held⟩)
  have early := clock.2 other (consistent.complete.mem_iff.mp listed)
  exact le_trans (consistent.dated file member other held) (dateToken_mono early)

theorem records_append (last : ∀ file ∈ log.plain.entries, file.1 ≤ dateToken dated) :
    (log.append dated record).records =
      contents log.plain.entries ++ record :: contents log.archive.entries := by
  simp only [records, append, Directory.contents_appendTo_last last, List.append_assoc,
    List.singleton_append]

theorem rotate_some (held : log.plain.get? day = some moved) :
    log.rotate day = { log with
      archive := log.archive.put day moved, plain := log.plain.remove day } := by
  simp only [rotate, held]

theorem rotate_written (log : EventLog) (day : Int) : (log.rotate day).written = log.written := by
  unfold rotate
  split <;> rfl

theorem records_rotate (held : log.plain.get? day = some moved) :
    (log.rotate day).records =
      contents (log.plain.before day) ++ contents (log.plain.after day) ++
        (contents (log.archive.before day) ++ (moved ++ contents (log.archive.after day))) := by
  simp [records, rotate_some held]

theorem records_held (held : log.plain.get? day = some moved) :
    log.records =
      contents (log.plain.before day) ++ (moved ++ contents (log.plain.after day)) ++
        (contents (log.archive.before day) ++
          ((log.archive.get? day).getD [] ++ contents (log.archive.after day))) := by
  simp [records, log.plain.contents_split day, log.archive.contents_split day, held]

theorem Consistent.append (consistent : Consistent log)
    (clock : ClockForward log (.append dated record))
    (keeps : KeepsOrder log (.append dated record)) : Consistent (log.append dated record) := by
  have last := consistent.append_last clock
  obtain ⟨plainOrdered, archiveOrdered, across⟩ := List.pairwise_append.mp consistent.ordered
  constructor
  · rw [records_append last]
    have written := List.Perm.cons record consistent.complete
    exact List.perm_middle.trans (written.trans (List.perm_append_singleton record _).symm)
  · rw [records_append last]
    refine List.pairwise_append.mpr ⟨plainOrdered, List.pairwise_cons.mpr ⟨keeps, archiveOrdered⟩,
      fun earlier early later late => ?_⟩
    rcases List.mem_cons.mp late with rfl | archived
    · have written := consistent.complete.mem_iff.mp (List.mem_append_left _ early)
      exact le_trans (clock.2 earlier written) clock.1
    · exact across earlier early later archived
  · intro file member
    rcases Directory.mem_put member with rfl | ⟨-, old⟩
    · simp
    · exact consistent.plainFilled file old
  · exact consistent.archiveFilled
  · intro file member other held
    rcases Directory.mem_put member with rfl | ⟨-, old⟩
    · rcases List.mem_append.mp held with earlier | here
      · cases found : log.plain.get? (dateToken dated) with
        | none => simp [found] at earlier
        | some present =>
          rw [found] at earlier
          exact consistent.dated _ (Directory.mem_of_get? found) other earlier
      · rw [List.mem_singleton.mp here]
        exact dateToken_mono clock.1
    · exact consistent.dated file old other held

theorem Consistent.rotate (consistent : Consistent log) (keeps : KeepsOrder log (.rotate day)) :
    Consistent (log.rotate day) := by
  cases held : log.plain.get? day with
  | none => simpa only [EventLog.rotate, held] using consistent
  | some moved =>
    obtain ⟨fresh, earlier⟩ := keeps moved held
    have ordered := consistent.ordered
    have complete := consistent.complete
    rw [records_held held, fresh] at ordered complete
    constructor
    · rw [records_rotate held, rotate_written]
      refine List.Perm.trans ?_ complete
      have swapped : (contents (log.plain.after day) ++ contents (log.archive.before day) ++
          moved).Perm (moved ++ (contents (log.plain.after day) ++
            contents (log.archive.before day))) := List.perm_append_comm
      simpa only [List.append_assoc, Option.getD_none, List.nil_append] using
        (swapped.append_left (contents (log.plain.before day))).append_right
          (contents (log.archive.after day))
    · rw [records_rotate held]
      simp only [List.pairwise_append, List.mem_append, Option.getD_none, List.nil_append]
        at ordered ⊢
      grind
    · intro file member
      rw [rotate_some held] at member
      exact consistent.plainFilled file (Directory.mem_remove member)
    · intro file member
      rw [rotate_some held] at member
      rcases Directory.mem_put member with rfl | ⟨-, old⟩
      · exact consistent.plainFilled _ (Directory.mem_of_get? held)
      · exact consistent.archiveFilled file old
    · intro file member
      rw [rotate_some held] at member
      exact consistent.dated file (Directory.mem_remove member)

theorem Consistent.step (consistent : Consistent log) {action : Action}
    (clock : ClockForward log action) (keeps : KeepsOrder log action) :
    Consistent (log.step action) := by
  cases action with
  | append dated record => exact consistent.append clock keeps
  | rotate day => exact consistent.rotate keeps

theorem Consistent.rotated_once (consistent : Consistent log)
    (held : log.plain.get? day = some moved)
    (complete : (log.rotate day).records.Perm (log.rotate day).written) :
    log.archive.get? day = none := by
  cases archived : log.archive.get? day with
  | none => rfl
  | some lost =>
    exfalso
    have filled : lost ≠ [] := consistent.archiveFilled _ (Directory.mem_of_get? archived)
    have before := consistent.complete.length_eq
    have after := complete.length_eq
    rw [records_held held, archived] at before
    rw [records_rotate held, rotate_written] at after
    simp only [List.length_append, Option.getD_some] at before after
    exact filled (List.eq_nil_of_length_eq_zero (by omega))

theorem Consistent.keepsOrder (consistent : Consistent log) {action : Action}
    (clock : ClockForward log action) (replays : ReplaysInOrder (log.step action)) :
    KeepsOrder log action := by
  obtain ⟨complete, ordered⟩ := replays.records
  cases action with
  | append dated record =>
    simp only [EventLog.step, records_append (consistent.append_last clock)] at ordered
    exact (List.pairwise_cons.mp (List.pairwise_append.mp ordered).2.1).1
  | rotate day =>
    intro moved held
    refine ⟨consistent.rotated_once held complete, fun other newer record member => ?_⟩
    simp only [EventLog.step, records_rotate held, List.pairwise_append, List.mem_append]
      at ordered
    rcases newer with later | archived
    · exact ordered.2.2 other (.inr later) record (.inr (.inl member))
    · exact ordered.2.1.2.2 other archived record (.inl member)

end Steps

theorem consistent_empty : Consistent {} :=
  ⟨.nil, .nil, fun _ absurdity => absurd absurdity List.not_mem_nil,
    fun _ absurdity => absurd absurdity List.not_mem_nil,
    fun _ absurdity => absurd absurdity List.not_mem_nil⟩

/-- Under a clock that does not go back, replay is chronological and complete
throughout a history exactly when each append and each rotation keeps the order
of the files. -/
theorem replaysInOrder_iff_keepsOrder (actions : List Action)
    (clock : EachStep step ClockForward {} actions) :
    Throughout step ReplaysInOrder {} actions ↔ EachStep step KeepsOrder {} actions :=
  throughout_iff_eachStep_of_promise Consistent (fun _ consistent => consistent.replaysInOrder)
    (fun _ _ consistent forward keeps => consistent.step forward keeps)
    (fun _ _ consistent forward replays => consistent.keepsOrder forward replays)
    consistent_empty clock

def sampleRecord (ts : Int) : EventRecord where
  ts
  eventType := some "quote"
  event := .null
  context := []

theorem replaysInOrder_two_days : Throughout step ReplaysInOrder {}
    [.append 0 (sampleRecord 0), .append 86400000000 (sampleRecord 86400000000), .rotate 1] := by
  refine (replaysInOrder_iff_keepsOrder _ ?_).mpr ?_
  · simp [EachStep, ClockForward, step, append, sampleRecord]
  · refine ⟨fun archived member => absurd member List.not_mem_nil,
      fun archived member => absurd member List.not_mem_nil, ?_, trivial⟩
    intro moved held
    refine ⟨rfl, fun other newer => ?_⟩
    rcases newer with later | archived
    · exact absurd later List.not_mem_nil
    · exact absurd archived List.not_mem_nil

/-- After the first day was rotated, the record of the second one is replayed
before it; a day rotated twice keeps only the records of the second time. -/
theorem rotated_days_replay_out_of_order :
    (¬ Throughout step ReplaysInOrder {}
      [.append 0 (sampleRecord 0), .rotate 0, .append 86400000000 (sampleRecord 86400000000)]) ∧
    ¬ Throughout step ReplaysInOrder {}
      [.append 0 (sampleRecord 0), .rotate 0, .append 1 (sampleRecord 1), .rotate 0] := by
  constructor
  · intro replays
    have ordered := replays.final.records.2
    have late : (86400000000 : Int) ≤ 0 :=
      (List.pairwise_cons.mp ordered).1 (sampleRecord 0) (List.mem_singleton_self _)
    exact absurd late (by decide)
  · intro replays
    have complete := replays.final.records.1.length_eq
    exact absurd complete (by decide)

end EventLog

end FxToushi.Core
