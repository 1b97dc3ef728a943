import FxToushi.Core.HealthStore
import FxToushi.Data.Batches
import FxToushi.Data.Runs
import FxToushi.Py.JsonSorted

namespace FxToushi.Core

open Calendar Data Py

/-! # The counters of the health store

The counters after a call are compared with the transitions of the run so far,
which are kept beside the files.
-/

/-- What `datetime` promises of a time: the text is read back, and has neither a `Z`
nor a line break. -/
structure IsoTexts.ReadsBack (texts : IsoTexts) (moment : DateTime) : Prop where
  inverse : texts.fromisoformat (texts.isoformat moment) = some moment
  nonempty : texts.isoformat moment ≠ ""
  plain : ∀ char ∈ (texts.isoformat moment).toList, char ≠ 'Z' ∧ char ∉ foreignBreaks

theorem IsoTexts.ReadsBack.parseTs_writeTs {texts : IsoTexts} {moment : DateTime}
    (reads : texts.ReadsBack moment) :
    texts.parseTs (.str (texts.writeTs moment)) = some moment := by
  have unmarked : 'Z' ∉ (texts.isoformat moment).toList :=
    fun member => (reads.plain 'Z' member).1 rfl
  have restored : replaceText "Z" "+00:00" (texts.writeTs moment) = texts.isoformat moment :=
    replaceText_replaceText (by decide) rfl unmarked
  have filled : texts.writeTs moment ≠ "" := by
    intro empty
    rw [empty] at restored
    exact reads.nonempty restored.symm
  rw [IsoTexts.parseTs, if_neg filled, restored, reads.inverse]

namespace HealthStateStore

/-! ## Runs -/

structure Transition where
  moment : DateTime
  toState : String

namespace Transition

/-- States are told apart without regard to case. -/
def wentOk (told : Transition) : Bool := lower told.toState == "ok"

def degraded (told : Transition) : Bool := degradedStates.contains (lower told.toState)

end Transition

def currentOf (recorded : List Transition) : String :=
  (recorded.getLast?.map (·.toState)).getD "ok"

def transitionOf (texts : IsoTexts) (recorded : List Transition) (call : Call) : Transition where
  moment := call.moment texts
  toState := call.resolveToState (currentOf recorded)

/-- The files, the transitions so far and what the last call came to. -/
structure Run where
  files : Files := {}
  recorded : List Transition := []
  result : Except HealthError HealthStateSummary := .ok {}

def step (texts : IsoTexts) (run : Run) (call : Call) : Run where
  files := (recordTransition texts run.files call).1
  recorded := run.recorded ++ [transitionOf texts run.recorded call]
  result := (recordTransition texts run.files call).2

def okMoments (recorded : List Transition) : List DateTime :=
  (recorded.filter Transition.wentOk).map (·.moment)

/-- The text of a latest time that went to ok, if there is one. -/
def LastOkRight (texts : IsoTexts) (recorded : List Transition) (value : Value) : Prop :=
  (okMoments recorded = [] ∧ value = .null) ∨
    ∃ moment ∈ okMoments recorded, value = .str (texts.writeTs moment) ∧
      ∀ other ∈ okMoments recorded, other.instant ≤ moment.instant

/-- The degraded transitions in the 30 days up to a time, and not after it. -/
def degradedWithin (now : DateTime) (recorded : List Transition) : Nat :=
  recorded.countP fun told => told.degraded &&
    decide (now.instant - 30 * dayLength ≤ told.moment.instant ∧
      told.moment.instant ≤ now.instant)

structure CountersRight (texts : IsoTexts) (recorded : List Transition) (last : Transition)
    (summary : HealthStateSummary) : Prop where
  current : summary.currentState = last.toState
  lastOk : LastOkRight texts recorded summary.lastOkTs
  rolling : summary.rolling30dDegradedCount = degradedWithin last.moment recorded

/-- The last call returned, and its counters are right. -/
def Right (texts : IsoTexts) (run : Run) : Prop :=
  ∀ last, run.recorded.getLast? = some last →
    ∃ summary, run.result = .ok summary ∧ CountersRight texts run.recorded last summary

/-! ## What a call must meet -/

structure Clear (texts : IsoTexts) (recorded : List Transition) (call : Call) : Prop where
  alike : ∀ told ∈ recorded, told.moment.offset.isSome = (call.moment texts).offset.isSome
  window : 30 * dayLength ≤ (call.moment texts).time
  dated : ∀ latest,
    FirstGreatest DateTime.instant
      (okMoments (recorded ++ [transitionOf texts recorded call])) latest →
    dayOf (call.moment texts) < lastDay ∨ dayOf (call.moment texts) ≤ dayOf latest
  noneLater : ∀ told ∈ recorded, told.degraded = true →
    told.moment.instant ≤ (call.moment texts).instant
  oneLine : ∀ char ∈ Json.chars (.map (call.payload texts (currentOf recorded))),
    char ∉ foreignBreaks

/-! ## The parts of a call -/

section Parts

variable {texts : IsoTexts}

theorem cutoffOf_ok {now : DateTime} (window : 30 * dayLength ≤ now.time) :
    ∃ cutoff, cutoffOf now = .ok cutoff ∧ cutoff.offset = now.offset ∧
      cutoff.instant = now.instant - 30 * dayLength := by
  have inRange : 0 ≤ now.time + -(30 * dayLength) ∧
      now.time + -(30 * dayLength) ≤ lastTime := by
    have before := now.inRange.2
    unfold dayLength at window ⊢
    omega
  refine ⟨{ now with time := now.time + -(30 * dayLength), inRange }, ?_, rfl, ?_⟩
  · rw [cutoffOf, DateTime.shift, dif_pos inRange]
    rfl
  · simp only [DateTime.instant]
    omega

theorem countWeekdays_ok {days : Nat} {cursor count : Int}
    (room : days = 0 ∨ cursor + days ≤ lastDay) :
    ∃ total, countWeekdays days cursor count = .ok total := by
  induction days generalizing cursor count with
  | zero => exact ⟨count, rfl⟩
  | succ days ih =>
    have below : cursor < lastDay := by omega
    rw [countWeekdays, if_pos below]
    exact ih (.inr (by omega))

theorem businessDaysSince_ok {start stop : DateTime}
    (room : dayOf stop < lastDay ∨ dayOf stop ≤ dayOf start) :
    ∃ days, businessDaysSince (some start) stop = .ok days :=
  countWeekdays_ok (by omega)

theorem precedes_ok {left right : DateTime} (alike : left.offset.isSome = right.offset.isSome) :
    precedes left right = .ok (decide (left.instant < right.instant)) := if_pos alike

/-- The entry tells of the transition. -/
structure Tells (texts : IsoTexts) (entry : Mapping) (told : Transition) : Prop where
  moment : texts.parseTs (field entry "ts") = some told.moment
  state : entryState entry = lower told.toState

variable {entries : List Mapping} {recorded : List Transition}

theorem okMoments_of_tells (tells : List.Forall₂ (Tells texts) entries recorded) :
    ((entries.filter fun entry => entryState entry == "ok").filterMap fun entry =>
      texts.parseTs (field entry "ts")) = okMoments recorded := by
  induction tells with
  | nil => rfl
  | @cons entry told entries recorded first later ih =>
    unfold okMoments at ih ⊢
    have same : (entryState entry == "ok") = told.wentOk := by rw [first.state, Transition.wentOk]
    cases went : told.wentOk with
    | false =>
      rw [List.filter_cons_of_neg (by simp [same, went]),
        List.filter_cons_of_neg (by simp [went]), ih]
    | true =>
      rw [List.filter_cons_of_pos (by rw [same, went]), List.filter_cons_of_pos went,
        List.filterMap_cons_some (f := fun entry => texts.parseTs (field entry "ts"))
          first.moment, List.map_cons, ih]

theorem tryMap_asEntry (entries : List Mapping) :
    tryMap asEntry (entries.map Value.map) = .ok entries := by
  rw [tryMap_source]
  have mapped := @tryMap_eq_map _ _ _ (fun entry => asEntry (.map entry)) id entries
    fun entry _ => rfl
  rwa [List.map_id] at mapped

theorem latestOkTs_ok (tells : List.Forall₂ (Tells texts) entries recorded)
    (alike : ∀ told ∈ recorded, ∀ other ∈ recorded,
      told.moment.offset.isSome = other.moment.offset.isSome) :
    (okMoments recorded = [] ∧ latestOkTs texts (entries.map .map) = .ok none) ∨
      ∃ latest, latestOkTs texts (entries.map .map) = .ok (some latest) ∧
        FirstGreatest DateTime.instant (okMoments recorded) latest := by
  have found : latestOkTs texts (entries.map .map) = greatest? precedes (okMoments recorded) := by
    rw [latestOkTs, tryMap_asEntry, ← okMoments_of_tells tells]
    rfl
  rw [found]
  refine greatest?_ok fun left leftMember right rightMember => ?_
  obtain ⟨first, firstMember, rfl⟩ := List.mem_map.mp leftMember
  obtain ⟨second, secondMember, rfl⟩ := List.mem_map.mp rightMember
  exact precedes_ok (alike first (List.mem_of_mem_filter firstMember) second
    (List.mem_of_mem_filter secondMember))

theorem countsAfter_ok {entry : Mapping} {told : Transition} {cutoff : DateTime}
    (tells : Tells texts entry told)
    (alike : told.moment.offset.isSome = cutoff.offset.isSome) :
    countsAfter texts cutoff (.map entry) =
      .ok (told.degraded && decide (cutoff.instant ≤ told.moment.instant)) := by
  simp only [countsAfter, asEntry, bind, Except.bind, tells.moment, precedes_ok alike, tells.state]
  by_cases before : told.moment.instant < cutoff.instant
  · simp [before, pure, Except.pure]
  · simp [before, not_lt.mp before, pure, Except.pure, Transition.degraded]

theorem tryMap_countsAfter {cutoff : DateTime}
    (tells : List.Forall₂ (Tells texts) entries recorded)
    (alike : ∀ told ∈ recorded, told.moment.offset.isSome = cutoff.offset.isSome) :
    tryMap (countsAfter texts cutoff) (entries.map .map) =
      .ok (recorded.map fun told =>
        told.degraded && decide (cutoff.instant ≤ told.moment.instant)) := by
  induction tells with
  | nil => rfl
  | @cons entry told entries recorded first later ih =>
    obtain ⟨own, others⟩ := List.forall_mem_cons.mp alike
    rw [List.map_cons, tryMap, countsAfter_ok first own, ih others]
    rfl

theorem rollingDegradedCount_ok {now : DateTime}
    (tells : List.Forall₂ (Tells texts) entries recorded)
    (alike : ∀ told ∈ recorded, told.moment.offset.isSome = now.offset.isSome)
    (window : 30 * dayLength ≤ now.time)
    (noneLater : ∀ told ∈ recorded, told.degraded = true → told.moment.instant ≤ now.instant) :
    rollingDegradedCount texts (entries.map .map) now = .ok (degradedWithin now recorded) := by
  obtain ⟨cutoff, shifted, offset, instant⟩ := cutoffOf_ok window
  have counted := @tryMap_countsAfter texts entries recorded cutoff tells (by rwa [offset])
  rw [rollingDegradedCount, shifted]
  simp only [bind, Except.bind, counted, pure, Except.pure]
  refine congrArg Except.ok (congrArg Nat.cast ?_)
  rw [List.count, List.countP_map, degradedWithin]
  refine List.countP_congr fun told member => ?_
  rw [instant]
  simp only [Function.comp_apply, beq_true, Bool.and_eq_true, decide_eq_true_eq]
  exact and_congr_right fun degraded =>
    ⟨fun recent => ⟨recent, noneLater told member degraded⟩, And.left⟩

end Parts

/-! ## What a call writes -/

section Written

variable {texts : IsoTexts} (call : Call)

theorem wellFormed_field (key : String) : Json.WellFormed (field call.event key) := by
  unfold field
  cases found : call.event.get? key with
  | none => exact trivial
  | some value => exact Json.wellFormed_get? call.wellFormed.2 found

theorem wellFormed_orValue {left right : Value} (leftFormed : Json.WellFormed left)
    (rightFormed : Json.WellFormed right) : Json.WellFormed (orValue left right) := by
  unfold orValue
  split
  · exact leftFormed
  · exact rightFormed

theorem resolveToState_ne_empty {fallback : String} (named : fallback ≠ "") :
    call.resolveToState fallback ≠ "" := by
  unfold Call.resolveToState
  dsimp only
  split
  · rename_i given
    exact Json.text_of_truth (wellFormed_orValue (wellFormed_orValue (wellFormed_field call _)
      (wellFormed_field call _)) (wellFormed_field call _)) given
  · cases found : Call.levelStates.find? fun entry =>
        entry.1 == lower (orValue (field call.event "level") (.str "")).text with
    | none => exact named
    | some entry =>
      have every : ∀ entry ∈ Call.levelStates, entry.2 ≠ "" := by decide
      exact every entry (List.mem_of_find?_eq_some found)

theorem tells_payload (reads : texts.ReadsBack (call.moment texts)) (current : String) :
    Tells texts (call.payload texts current)
      ⟨call.moment texts, call.resolveToState current⟩ := by
  constructor
  · exact reads.parseTs_writeTs
  · have written : entryState (call.payload texts current) =
        lower (orValue (orValue (.str (call.resolveToState current)) .null) (.str "")).text := rfl
    rw [written]
    by_cases empty : call.resolveToState current = ""
    · rw [empty]
      rfl
    · have holds : (Value.str (call.resolveToState current)).truth = true := bne_iff_ne.mpr empty
      rw [orValue, orValue, if_pos holds, if_pos holds]
      rfl

theorem wellFormed_payload (current : String) :
    Json.WellFormed (.map (call.payload texts current)) :=
  ⟨by simp [Call.payload], trivial, trivial, trivial,
    wellFormed_orValue (wellFormed_orValue (wellFormed_field call _) (wellFormed_field call _))
      (wellFormed_field call _),
    wellFormed_field call _, wellFormed_field call _, trivial⟩

/-- The record that is appended. -/
def recordOf (texts : IsoTexts) (current : String) : Record where
  payload := call.payload texts current
  wellFormed := wellFormed_payload call current

theorem orValue_int (number : Int) : (orValue (.int number) (.int 0)).toInt = .ok number := by
  by_cases zero : number = 0
  · rw [zero]
    rfl
  · have holds : (Value.int number).truth = true := bne_iff_ne.mpr zero
    rw [orValue, if_pos holds]
    rfl

/-- The state file is read back. -/
theorem loadState_written {summary : HealthStateSummary}
    (wellFormed : Json.WellFormed summary.lastOkTs) (named : summary.currentState ≠ "") :
    loadState (some (Json.dumpsIndented 0 summary.toDict)) = .ok summary := by
  have formed : Json.WellFormed summary.toDict :=
    ⟨by simp, trivial, wellFormed, trivial, trivial, trivial⟩
  have holds : (Value.str summary.currentState).truth = true := bne_iff_ne.mpr named
  have current : orValue (.str summary.currentState) (.str "ok") = .str summary.currentState :=
    if_pos holds
  have read : loadState (some (Json.dumpsIndented 0 summary.toDict)) = (do
      let count ← (orValue (.int summary.rolling30dDegradedCount)
        (.int 0)).toInt.mapError .python
      let days ← (orValue (.int summary.businessDaysSinceLastOk) (.int 0)).toInt.mapError .python
      return {
        currentState := (orValue (.str summary.currentState) (.str "ok")).text
        lastOkTs := summary.lastOkTs
        rolling30dDegradedCount := count
        businessDaysSinceLastOk := days }) := by
    rw [loadState, Json.loads_dumpsIndented formed]
    rfl
  rw [read, orValue_int, orValue_int, current]
  rfl

end Written

/-! ## One call -/

section Steps

variable {texts : IsoTexts}

/-- What holds between the calls: the files tell what was recorded. -/
structure Tracks (texts : IsoTexts) (run : Run) : Prop where
  history : ∃ records : List Record, run.files.history = writeAll records ∧
    (∀ record ∈ records, record.OneLine) ∧
      List.Forall₂ (Tells texts) (records.map (·.payload)) run.recorded
  state : ∃ summary, loadState run.files.state = .ok summary ∧
    summary.currentState = currentOf run.recorded ∧
      LastOkRight texts run.recorded summary.lastOkTs
  named : currentOf run.recorded ≠ ""
  alike : ∀ told ∈ run.recorded, ∀ other ∈ run.recorded,
    told.moment.offset.isSome = other.moment.offset.isSome
  reads : ∀ told ∈ run.recorded, texts.ReadsBack told.moment

theorem LastOkRight.wellFormed {recorded : List Transition} {value : Value}
    (right : LastOkRight texts recorded value) : Json.WellFormed value := by
  cases right with
  | inl none =>
    rw [none.2]
    exact trivial
  | inr found =>
    obtain ⟨moment, -, rfl, -⟩ := found
    exact trivial

theorem currentOf_append (recorded : List Transition) (told : Transition) :
    currentOf (recorded ++ [told]) = told.toState := by
  rw [currentOf, List.getLast?_concat]
  rfl

theorem mem_okMoments {recorded : List Transition} {moment : DateTime}
    (member : moment ∈ okMoments recorded) : ∃ told ∈ recorded, told.moment = moment := by
  obtain ⟨told, went, same⟩ := List.mem_map.mp member
  exact ⟨told, List.mem_of_mem_filter went, same⟩

theorem okMoments_append (recorded : List Transition) (told : Transition) :
    okMoments (recorded ++ [told]) =
      okMoments recorded ++ if told.wentOk then [told.moment] else [] := by
  rw [okMoments, List.filter_append, List.map_append, ← okMoments]
  cases went : told.wentOk with
  | true => rw [List.filter_cons_of_pos went, List.filter_nil]; rfl
  | false => rw [List.filter_cons_of_neg (by simp [went]), List.filter_nil]; rfl

/-- The counters that are computed from a history that tells what was recorded. -/
theorem refreshCounters_ok {entries : List Mapping} {recorded : List Transition}
    {summary : HealthStateSummary} {now : DateTime}
    (tells : List.Forall₂ (Tells texts) entries recorded)
    (alike : ∀ told ∈ recorded, ∀ other ∈ recorded,
      told.moment.offset.isSome = other.moment.offset.isSome)
    (own : ∀ told ∈ recorded, told.moment.offset.isSome = now.offset.isSome)
    (reads : ∀ told ∈ recorded, texts.ReadsBack told.moment)
    (window : 30 * dayLength ≤ now.time)
    (dated : ∀ latest, FirstGreatest DateTime.instant (okMoments recorded) latest →
      dayOf now < lastDay ∨ dayOf now ≤ dayOf latest)
    (noneLater : ∀ told ∈ recorded, told.degraded = true → told.moment.instant ≤ now.instant)
    (unset : okMoments recorded = [] → summary.lastOkTs = .null) :
    ∃ after, refreshCounters texts (entries.map .map) summary now = .ok after ∧
      after.currentState = summary.currentState ∧ LastOkRight texts recorded after.lastOkTs ∧
        after.rolling30dDegradedCount = degradedWithin now recorded := by
  have counted := rollingDegradedCount_ok tells own window noneLater
  cases latestOkTs_ok tells alike with
  | inl none =>
    obtain ⟨noOk, found⟩ := none
    have days : businessDaysSince (texts.parseTs summary.lastOkTs) now = .ok 0 := by
      rw [unset noOk]
      rfl
    refine ⟨{ summary with
      rolling30dDegradedCount := degradedWithin now recorded
      businessDaysSinceLastOk := 0 }, ?_, rfl, .inl ⟨noOk, unset noOk⟩, rfl⟩
    simp only [refreshCounters, found, counted, days, bind, Except.bind, pure, Except.pure]
  | inr some =>
    obtain ⟨latest, found, greatest⟩ := some
    obtain ⟨told, member, same⟩ := mem_okMoments greatest.mem
    have read : texts.parseTs (.str (texts.writeTs latest)) = Option.some latest := by
      rw [← same]
      exact (reads told member).parseTs_writeTs
    obtain ⟨days, passed⟩ := businessDaysSince_ok (dated latest greatest)
    refine ⟨{ summary with
      lastOkTs := .str (texts.writeTs latest)
      rolling30dDegradedCount := degradedWithin now recorded
      businessDaysSinceLastOk := days }, ?_, rfl, .inr ⟨latest, greatest.mem, rfl, ?_⟩, rfl⟩
    · simp only [refreshCounters, found, counted, read, passed, bind, Except.bind, pure,
        Except.pure]
    · exact fun other member => greatest.le member

theorem forall_append_singleton {Item : Type*} {good : Item → Prop} {items : List Item}
    {last : Item} (earlier : ∀ item ∈ items, good item) (own : good last) :
    ∀ item ∈ items ++ [last], good item := by
  intro item member
  cases List.mem_append.mp member with
  | inl before => exact earlier item before
  | inr here => exact List.mem_singleton.mp here ▸ own

variable {run : Run} {call : Call}

/-- What a call comes to, with the entries it reads back and the summary it starts from. -/
structure Reads (texts : IsoTexts) (run : Run) (call : Call) (records : List Record)
    (summary : HealthStateSummary) : Prop where
  lines : ∀ record ∈ records, record.OneLine
  tells : List.Forall₂ (Tells texts) (records.map (·.payload)) (step texts run call).recorded
  current : summary.currentState = (transitionOf texts run.recorded call).toState
  unset : okMoments (step texts run call).recorded = [] → summary.lastOkTs = .null
  result : recordTransition texts run.files call =
    match refreshCounters texts ((records.map (·.payload)).map .map) summary
        (call.moment texts) with
    | .error error => ({ run.files with history := writeAll records }, .error error)
    | .ok after =>
      ({ history := writeAll records, state := some (Json.dumpsIndented 0 after.toDict) },
        .ok after)

theorem unset_of_lastOk {value : Value} (lastOk : LastOkRight texts run.recorded value)
    (none : okMoments (step texts run call).recorded = []) :
    (if call.resolveToState (currentOf run.recorded) = "ok"
      then Value.str (texts.writeTs (call.moment texts)) else value) = .null := by
  have appended := okMoments_append run.recorded (transitionOf texts run.recorded call)
  obtain ⟨noneBefore, noneNow⟩ := List.append_eq_nil_iff.mp (appended.symm.trans none)
  have other : call.resolveToState (currentOf run.recorded) ≠ "ok" := by
    intro same
    have went : (transitionOf texts run.recorded call).wentOk = true := by
      have text : (transitionOf texts run.recorded call).toState = "ok" := same
      rw [Transition.wentOk, text]
      decide
    rw [went] at noneNow
    cases noneNow
  rw [if_neg other]
  cases lastOk with
  | inl null => exact null.2
  | inr found =>
    obtain ⟨moment, member, -⟩ := found
    rw [noneBefore] at member
    cases member

theorem exists_reads (tracks : Tracks texts run) (reads : texts.ReadsBack (call.moment texts))
    (oneLine : (recordOf call texts (currentOf run.recorded)).OneLine) :
    ∃ records summary, Reads texts run call records summary := by
  obtain ⟨records, written, every, tells⟩ := tracks.history
  obtain ⟨summary, loaded, current, lastOk⟩ := tracks.state
  have history : appendJsonl run.files.history (call.payload texts (currentOf run.recorded)) =
      writeAll (records ++ [recordOf call texts (currentOf run.recorded)]) := by
    rw [written, writeAll, writeAll, List.foldl_append]
    rfl
  have lines : ∀ record ∈ records ++ [recordOf call texts (currentOf run.recorded)],
      record.OneLine := forall_append_singleton every oneLine
  have read := (readLines_iff trims_stripLine
    (records ++ [recordOf call texts (currentOf run.recorded)])).mpr lines
  refine ⟨records ++ [recordOf call texts (currentOf run.recorded)],
    { summary with
      lastOkTs := if call.resolveToState (currentOf run.recorded) = "ok"
        then .str (texts.writeTs (call.moment texts)) else summary.lastOkTs
      currentState := call.resolveToState (currentOf run.recorded) },
    lines, ?_, rfl, unset_of_lastOk lastOk, ?_⟩
  · rw [List.map_append]
    exact List.rel_append tells (.cons (tells_payload call reads _) .nil)
  · split
    all_goals
      rename_i refreshed
      simp only [List.map_map, Function.comp_def] at refreshed
      simp only [recordTransition, loaded, current, history, readHistory, read, refreshed]

/-- A call that meets the condition returns the counters of what is recorded. -/
theorem recordTransition_ok (tracks : Tracks texts run)
    (reads : texts.ReadsBack (call.moment texts)) (clear : Clear texts run.recorded call) :
    ∃ records : List Record, ∃ after,
      recordTransition texts run.files call =
        ({ history := writeAll records, state := some (Json.dumpsIndented 0 after.toDict) },
          .ok after) ∧
      (∀ record ∈ records, record.OneLine) ∧
      List.Forall₂ (Tells texts) (records.map (·.payload)) (step texts run call).recorded ∧
      CountersRight texts (step texts run call).recorded
        (transitionOf texts run.recorded call) after := by
  obtain ⟨records, summary, read⟩ := exists_reads tracks reads clear.oneLine
  have own : ∀ told ∈ (step texts run call).recorded,
      told.moment.offset.isSome = (call.moment texts).offset.isSome :=
    forall_append_singleton clear.alike rfl
  obtain ⟨after, refreshed, state, latest, count⟩ := refreshCounters_ok read.tells
    (fun told member other present => (own told member).trans (own other present).symm) own
    (forall_append_singleton tracks.reads reads) clear.window clear.dated
    (forall_append_singleton clear.noneLater fun _ => le_rfl) read.unset
  refine ⟨records, after, ?_, read.lines, read.tells, state.trans read.current, latest, count⟩
  rw [read.result, refreshed]

theorem step_tracks (tracks : Tracks texts run) (reads : texts.ReadsBack (call.moment texts))
    (clear : Clear texts run.recorded call) :
    Tracks texts (step texts run call) ∧ Right texts (step texts run call) := by
  obtain ⟨records, after, recorded, lines, tells, counters⟩ :=
    recordTransition_ok tracks reads clear
  have named := resolveToState_ne_empty call tracks.named
  have current : currentOf (step texts run call).recorded =
      call.resolveToState (currentOf run.recorded) := currentOf_append _ _
  have own : ∀ told ∈ (step texts run call).recorded,
      told.moment.offset.isSome = (call.moment texts).offset.isSome :=
    forall_append_singleton clear.alike rfl
  have files : (step texts run call).files =
      { history := writeAll records, state := some (Json.dumpsIndented 0 after.toDict) } :=
    congrArg Prod.fst recorded
  have result : (step texts run call).result = .ok after := congrArg Prod.snd recorded
  refine ⟨⟨⟨records, by rw [files], lines, tells⟩, ⟨after, ?_, ?_, counters.lastOk⟩, ?_, ?_,
    ?_⟩, ?_⟩
  · rw [files]
    exact loadState_written counters.lastOk.wellFormed (by rw [counters.current]; exact named)
  · rw [counters.current, current]
    rfl
  · rw [current]
    exact named
  · exact fun told member other present => (own told member).trans (own other present).symm
  · exact forall_append_singleton tracks.reads reads
  · intro last isLast
    have same : (step texts run call).recorded.getLast? =
        some (transitionOf texts run.recorded call) := List.getLast?_concat
    rw [same] at isLast
    obtain rfl := Option.some.inj isLast
    exact ⟨after, result, counters⟩

theorem tracks_empty : Tracks texts {} where
  history := ⟨[], rfl, fun _ member => (nomatch member), .nil⟩
  state := ⟨{}, rfl, rfl, .inl ⟨rfl, rfl⟩⟩
  named := by decide
  alike := fun _ member => (nomatch member)
  reads := fun _ member => (nomatch member)

end Steps

end HealthStateStore

end FxToushi.Core
