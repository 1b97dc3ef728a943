import FxToushi.Core.HealthRuns

namespace FxToushi.Core

open Calendar Data Py

/-! # The escalation of health

The job recomputes the counters from the history and compares them with its
thresholds.  The business days are counted from the latest transition to ok,
whatever the state has been since.
-/

/-- What the job writes of an escalation; the event bus is left out. -/
structure HealthEscalationJob where
  businessDaysThreshold : Int := 3
  rollingCountThreshold : Int := 2
  calendarVersion : String := "weekday_v1"
  runbookRef : String := "RUN-DATA-05#escalation_review"

structure HealthEscalationResult where
  status : String := "ok"
  summary : HealthStateSummary
  escalated : Bool
  eventPayload : Option Mapping

namespace HealthStateStore

/-- `refresh_counters()` of a store, which loads the state first. -/
def refresh (texts : IsoTexts) (files : Files) (now : DateTime) :
    Except HealthError HealthStateSummary := do
  let summary ← loadState files.state
  refreshCounters texts (readHistory files.history) summary now

def saveState (files : Files) (summary : HealthStateSummary) : Files :=
  { files with state := some (Json.dumpsIndented 0 summary.toDict) }

end HealthStateStore

namespace HealthEscalationJob

open HealthStateStore

variable (job : HealthEscalationJob)

def onBusinessDays (summary : HealthStateSummary) : Bool :=
  decide (job.businessDaysThreshold ≤ summary.businessDaysSinceLastOk)

def onRollingCount (summary : HealthStateSummary) : Bool :=
  decide (job.rollingCountThreshold ≤ summary.rolling30dDegradedCount)

def shouldEscalate (summary : HealthStateSummary) : Bool :=
  job.onBusinessDays summary || job.onRollingCount summary

def payload (summary : HealthStateSummary) (ts : String) : Mapping :=
  [("event", .str "health.escalate"), ("ts", .str ts),
    ("business_days_since_last_ok", .int summary.businessDaysSinceLastOk),
    ("rolling_30d_degraded_count", .int summary.rolling30dDegradedCount),
    ("calendar_version", .str job.calendarVersion), ("runbook_ref", .str job.runbookRef)]

/-- The files, the event log and the result; `ts` is the text of the time of the payload. -/
def run (texts : IsoTexts) (files : Files) (log : List Char) (now : DateTime) (ts : String) :
    Files × List Char × Except HealthError HealthEscalationResult :=
  match refresh texts files now with
  | .error error => (files, log, .error error)
  | .ok summary =>
    let files := saveState files summary
    if job.shouldEscalate summary then
      let payload := job.payload summary ts
      (files, appendJsonl log payload, .ok {
        summary, escalated := true, eventPayload := some payload })
    else (files, log, .ok { summary, escalated := false, eventPayload := none })

end HealthEscalationJob

namespace HealthStateStore

/-! ## Counting weekdays -/

/-- No day from Monday to Friday after the first and up to the second. -/
def NoWeekday (first last : Int) : Prop := ∀ day, first < day → day ≤ last → 5 ≤ day % 7

theorem countWeekdays_spec {days : Nat} {cursor count total : Int}
    (counted : countWeekdays days cursor count = .ok total) :
    count ≤ total ∧
      (total = count ↔ ∀ day, cursor ≤ day → day < cursor + days → 5 ≤ day % 7) := by
  induction days generalizing cursor count with
  | zero =>
    obtain rfl := Except.ok.inj counted
    exact ⟨le_rfl, iff_of_true rfl (by omega)⟩
  | succ days ih =>
    rw [countWeekdays] at counted
    split at counted
    · obtain ⟨least, same⟩ := ih counted
      split at least
      next weekday =>
        refine ⟨by omega, iff_of_false (by omega) fun quiet => ?_⟩
        have := quiet cursor le_rfl (by omega)
        omega
      next weekend =>
        rw [if_neg weekend] at same
        refine ⟨least, same.trans
          ⟨fun quiet day first last => ?_, fun quiet day first last => ?_⟩⟩
        · obtain rfl | later := first.eq_or_lt
          · omega
          · exact quiet day later (by omega)
        · exact quiet day (by omega) (by omega)
    · cases counted

theorem businessDaysSince_zero_iff {start stop : DateTime} :
    businessDaysSince (some start) stop = .ok 0 ↔ NoWeekday (dayOf start) (dayOf stop) := by
  have within : dayOf stop ≤ lastDay := Int.ediv_le_ediv (by decide) stop.inRange.2
  have friday : lastDay % 7 = 4 := by decide
  constructor
  · intro counted day first last
    exact ((countWeekdays_spec counted).2.mp rfl) day (by omega) (by omega)
  · intro quiet
    have room : dayOf stop < lastDay ∨ dayOf stop ≤ dayOf start := by
      by_contra none
      have := quiet (dayOf stop) (by omega) le_rfl
      omega
    obtain ⟨total, counted⟩ := businessDaysSince_ok room
    have none : total = 0 :=
      (countWeekdays_spec counted).2.mpr fun day first last => quiet day (by omega) (by omega)
    rw [counted, none]

/-! ## Refreshing after the last transition went to ok -/

section Refresh

variable {texts : IsoTexts} {entries : List Mapping} {recorded : List Transition}
  {now : DateTime}

theorem okMoments_ne_nil {last : Transition} (isLast : recorded.getLast? = some last)
    (went : last.wentOk = true) : okMoments recorded ≠ [] := by
  have member : last.moment ∈ okMoments recorded :=
    List.mem_map_of_mem (List.mem_filter.mpr ⟨List.mem_of_getLast? isLast, went⟩)
  exact List.ne_nil_of_mem member

/-- The days are counted from the first of the latest transitions to ok. -/
theorem refreshCounters_days {summary after : HealthStateSummary}
    (tells : List.Forall₂ (Tells texts) entries recorded)
    (reads : ∀ told ∈ recorded, texts.ReadsBack told.moment)
    (alike : ∀ told ∈ recorded, told.moment.offset.isSome = now.offset.isSome)
    (some : okMoments recorded ≠ [])
    (refreshed : refreshCounters texts (entries.map .map) summary now = .ok after) :
    ∃ latest, FirstGreatest DateTime.instant (okMoments recorded) latest ∧
      businessDaysSince (.some latest) now = .ok after.businessDaysSinceLastOk := by
  obtain ⟨lastOk, found, refreshed⟩ := bind_ok refreshed
  obtain ⟨count, -, refreshed⟩ := bind_ok refreshed
  obtain ⟨days, passed, refreshed⟩ := bind_ok refreshed
  obtain rfl := Except.ok.inj refreshed
  obtain ⟨none, -⟩ | ⟨latest, foundLatest, greatest⟩ := latestOkTs_ok tells
    fun told member other present => (alike told member).trans (alike other present).symm
  · exact absurd none some
  · obtain rfl := Except.ok.inj (found.symm.trans foundLatest)
    obtain ⟨told, member, same⟩ := mem_okMoments greatest.mem
    have read := (reads told member).parseTs_writeTs
    rw [same] at read
    dsimp only at passed
    rw [read] at passed
    exact ⟨latest, greatest, passed⟩

theorem refreshCounters_returns (summary : HealthStateSummary)
    (tells : List.Forall₂ (Tells texts) entries recorded)
    (reads : ∀ told ∈ recorded, texts.ReadsBack told.moment)
    (alike : ∀ told ∈ recorded, told.moment.offset.isSome = now.offset.isSome)
    (window : 30 * dayLength ≤ now.time) (some : okMoments recorded ≠ [])
    (quiet : ∀ latest, FirstGreatest DateTime.instant (okMoments recorded) latest →
      NoWeekday (dayOf latest) (dayOf now)) :
    ∃ after, refreshCounters texts (entries.map .map) summary now = .ok after ∧
      after.businessDaysSinceLastOk = 0 := by
  obtain ⟨none, -⟩ | ⟨latest, found, greatest⟩ := latestOkTs_ok tells
    fun told member other present => (alike told member).trans (alike other present).symm
  · exact absurd none some
  · obtain ⟨cutoff, shifted, offset, -⟩ := cutoffOf_ok window
    have counted := @tryMap_countsAfter texts entries recorded cutoff tells (by rwa [offset])
    obtain ⟨told, member, same⟩ := mem_okMoments greatest.mem
    have read := (reads told member).parseTs_writeTs
    rw [same] at read
    have days := businessDaysSince_zero_iff.mpr (quiet latest greatest)
    simp only [refreshCounters, rollingDegradedCount, found, shifted, counted, read, days, bind,
      Except.bind, pure, Except.pure]
    exact ⟨_, rfl, rfl⟩

/-- The refresh counts no business day, so that a job with a positive threshold does not
escalate for them. -/
def CountsNoDay (texts : IsoTexts) (files : Files) (now : DateTime) : Prop :=
  ∃ after, refresh texts files now = .ok after ∧ after.businessDaysSinceLastOk = 0 ∧
    ∀ job : HealthEscalationJob, 0 < job.businessDaysThreshold → job.onBusinessDays after = false

/-- After a history whose last transition went to ok no business day is counted exactly
when none has begun since the latest transition to ok. -/
theorem countsNoDay_iff {files : Files} {last : Transition}
    (read : readHistory files.history = entries.map .map)
    (tells : List.Forall₂ (Tells texts) entries recorded)
    (reads : ∀ told ∈ recorded, texts.ReadsBack told.moment)
    (isLast : recorded.getLast? = some last) (went : last.wentOk = true) :
    CountsNoDay texts files now ↔
      (∃ summary, loadState files.state = .ok summary) ∧
        (∀ told ∈ recorded, told.moment.offset.isSome = now.offset.isSome) ∧
        30 * dayLength ≤ now.time ∧
        ∀ latest, FirstGreatest DateTime.instant (okMoments recorded) latest →
          NoWeekday (dayOf latest) (dayOf now) := by
  constructor
  · rintro ⟨after, refreshed, none, -⟩
    obtain ⟨summary, loaded, refreshed⟩ := bind_ok refreshed
    rw [read] at refreshed
    obtain ⟨alike, window⟩ := alike_of_refresh tells refreshed
    obtain ⟨latest, greatest, passed⟩ :=
      refreshCounters_days tells reads alike (okMoments_ne_nil isLast went) refreshed
    refine ⟨⟨summary, loaded⟩, alike, window, fun other first => ?_⟩
    rw [first.unique greatest, ← businessDaysSince_zero_iff, passed, none]
  · rintro ⟨⟨summary, loaded⟩, alike, window, quiet⟩
    obtain ⟨after, refreshed, none⟩ := refreshCounters_returns summary tells reads
      alike window (okMoments_ne_nil isLast went) quiet
    refine ⟨after, ?_, none, fun job positive => ?_⟩
    · rw [refresh, loaded, read]
      exact refreshed
    · rw [HealthEscalationJob.onBusinessDays, none]
      exact decide_eq_false (by omega)

end Refresh

theorem Tracks.told {texts : IsoTexts} {run : Run} (tracks : Tracks texts run) :
    ∃ entries : List Mapping, readHistory run.files.history = entries.map .map ∧
      List.Forall₂ (Tells texts) entries run.recorded := by
  obtain ⟨records, written, lines, tells⟩ := tracks.history
  refine ⟨records.map (·.payload), ?_, tells⟩
  rw [written, readHistory, (readLines_iff trims_stripLine records).mpr lines, List.map_map]
  rfl

/-! ## Three days in January -/

/-- On Tuesday, 20 January 2026. -/
def recoveredCall : Call := sampleCall "2026-01-20T00:00:00Z" "ok"

def recovered : Run := step january {} recoveredCall

theorem recovered_reads : ∀ told ∈ recovered.recorded, january.ReadsBack told.moment := by
  have same : recoveredCall.moment january = degradedCall.moment january := by decide +kernel
  intro told member
  obtain rfl := List.mem_singleton.mp member
  rw [transitionOf, same]
  exact @readsBack_january degradedCall (by simp)

theorem recovered_tracks : Tracks january recovered := by
  have oneLine : (recordOf recoveredCall january "ok").OneLine := by decide +kernel
  refine (step_tracks tracks_empty ?_ ⟨?_, ?_, ?_, ?_, oneLine⟩).1
  · exact recovered_reads _ (List.mem_singleton_self _)
  · exact fun _ member => nomatch member
  · decide +kernel
  · exact fun latest _ => .inl (by decide +kernel)
  · exact fun _ member => nomatch member

theorem countsNoDay_sameDay : CountsNoDay january recovered.files (midnight 20 (some 0)) := by
  obtain ⟨entries, read, tells⟩ := recovered_tracks.told
  obtain ⟨summary, loaded, -⟩ := recovered_tracks.state
  refine (countsNoDay_iff read tells recovered_reads rfl (by decide +kernel)).mpr
    ⟨⟨summary, loaded⟩, ?_, by decide +kernel, fun latest greatest => ?_⟩
  · exact List.forall_mem_singleton.mpr (by decide +kernel)
  · have only : okMoments recovered.recorded = [midnight 20 (some 0)] := by decide +kernel
    have member := greatest.mem
    rw [only] at member
    obtain rfl := List.mem_singleton.mp member
    exact fun day first last => absurd last (not_le.mpr first)

/-- On the Friday of a week that was ok since Tuesday the refresh counts three days. -/
theorem steadyOk_counted :
    ¬ ∀ (texts : IsoTexts) (files : Files) (entries : List Mapping) (recorded : List Transition)
        (last : Transition) (now : DateTime),
      readHistory files.history = entries.map .map →
        List.Forall₂ (Tells texts) entries recorded →
          (∀ told ∈ recorded, texts.ReadsBack told.moment) → recorded.getLast? = some last →
            last.wentOk = true → last.moment.instant ≤ now.instant →
              CountsNoDay texts files now := by
  intro every
  obtain ⟨entries, read, tells⟩ := recovered_tracks.told
  obtain ⟨after, refreshed, none, -⟩ := every january recovered.files entries recovered.recorded
    (transitionOf january [] recoveredCall) (midnight 23 (some 0)) read tells recovered_reads rfl
    (by decide +kernel) (by decide +kernel)
  have three : (refresh january recovered.files (midnight 23 (some 0))).map
      (·.businessDaysSinceLastOk) = .ok 3 := by decide +kernel
  rw [refreshed] at three
  have three : after.businessDaysSinceLastOk = 3 := Except.ok.inj three
  omega

/-- The job then escalates. -/
example : ((({} : HealthEscalationJob).run january recovered.files [] (midnight 23 (some 0))
    "2026-01-23T00:00:00Z").2.2.map fun result => result.escalated) = .ok true := by
  decide +kernel

end HealthStateStore

end FxToushi.Core
