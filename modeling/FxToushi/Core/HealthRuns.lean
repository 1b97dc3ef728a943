import FxToushi.Core.HealthCounters

namespace FxToushi.Core.HealthStateStore

open Calendar Data Py

/-! # Runs of the health store

The condition on a call keeps the counters right over a run, and of calls whose
records are one line each no weaker condition does.
-/

/-- In a run whose calls all meet the condition each call returns, and its counters
are those of the transitions so far. -/
theorem right_run {texts : IsoTexts} {calls : List Call}
    (reads : ∀ call ∈ calls, texts.ReadsBack (call.moment texts))
    (clear : EachStep (step texts) (fun run call => Clear texts run.recorded call) {} calls) :
    Throughout (step texts) (Right texts) {} calls := by
  have kept : Throughout (step texts) (fun run => Tracks texts run ∧ Right texts run) {} calls :=
    throughout_of_eachStep (fun run call holds meets => step_tracks holds.1 meets.2 meets.1)
      ⟨tracks_empty, fun _ none => nomatch none⟩ (clear.and (eachStep_of_mem reads))
  exact kept.imp fun _ holds => holds.2

/-! ## The condition is needed -/

section Needed

variable {texts : IsoTexts} {entries : List Mapping} {recorded : List Transition}

theorem window_of_cutoff {now cutoff : DateTime} (shifted : cutoffOf now = .ok cutoff) :
    30 * dayLength ≤ now.time := by
  by_contra short
  have outOfRange : ¬ (0 ≤ now.time + -(30 * dayLength) ∧
      now.time + -(30 * dayLength) ≤ lastTime) := by omega
  rw [cutoffOf, DateTime.shift, dif_neg outOfRange] at shifted
  cases shifted

theorem alike_of_precedes {left right : DateTime} {less : Bool}
    (compared : precedes left right = .ok less) :
    left.offset.isSome = right.offset.isSome := by
  by_contra other
  rw [precedes, if_neg other] at compared
  cases compared

theorem alike_of_counted {cutoff : DateTime} {counted : List Bool}
    (tells : List.Forall₂ (Tells texts) entries recorded)
    (mapped : tryMap (countsAfter texts cutoff) (entries.map .map) = .ok counted) :
    ∀ told ∈ recorded, told.moment.offset.isSome = cutoff.offset.isSome := by
  induction tells generalizing counted with
  | nil => exact fun _ member => nomatch member
  | @cons entry told entries recorded first later ih =>
    obtain ⟨counts, rest, own, mappedRest, -⟩ := tryMap_cons_ok mapped
    refine List.forall_mem_cons.mpr ⟨?_, ih mappedRest⟩
    simp only [countsAfter, asEntry, bind, Except.bind, first.moment] at own
    cases compared : precedes told.moment cutoff with
    | error error =>
      rw [compared] at own
      cases own
    | ok less => exact alike_of_precedes compared

theorem room_of_weekdays {days : Nat} {cursor count total : Int}
    (counted : countWeekdays days cursor count = .ok total) :
    days = 0 ∨ cursor + days ≤ lastDay := by
  induction days generalizing cursor count with
  | zero => exact .inl rfl
  | succ days ih =>
    rw [countWeekdays] at counted
    by_cases below : cursor < lastDay
    · rw [if_pos below] at counted
      have room := ih counted
      omega
    · rw [if_neg below] at counted
      cases counted

/-- Of two counts over one list the wider one is greater unless it counts nothing more. -/
theorem of_countP_eq {Item : Type*} {items : List Item} {wide narrow : Item → Bool}
    (within : ∀ item, narrow item = true → wide item = true)
    (same : items.countP wide = items.countP narrow) :
    ∀ item ∈ items, wide item = true → narrow item = true := by
  have sublist : (items.filter narrow).Sublist (items.filter wide) :=
    List.monotone_filter_right items within
  rw [List.countP_eq_length_filter, List.countP_eq_length_filter] at same
  have equal := sublist.eq_of_length same.symm
  intro item member holds
  have kept : item ∈ items.filter narrow := by
    rw [equal]
    exact List.mem_filter.mpr ⟨member, holds⟩
  exact (List.mem_filter.mp kept).2

theorem refreshCounters_parts {history : List Value} {summary after : HealthStateSummary}
    {now : DateTime} (refreshed : refreshCounters texts history summary now = .ok after) :
    ∃ lastOk, latestOkTs texts history = .ok lastOk ∧
      rollingDegradedCount texts history now = .ok after.rolling30dDegradedCount ∧
        ∀ latest, lastOk = some latest →
          ∃ days, businessDaysSince (texts.parseTs (.str (texts.writeTs latest))) now =
            .ok days := by
  obtain ⟨lastOk, found, refreshed⟩ := bind_ok refreshed
  obtain ⟨count, counted, refreshed⟩ := bind_ok refreshed
  obtain ⟨days, passed, refreshed⟩ := bind_ok refreshed
  obtain rfl := Except.ok.inj refreshed
  refine ⟨lastOk, found, counted, ?_⟩
  rintro latest rfl
  exact ⟨days, passed⟩

theorem alike_of_refresh {summary after : HealthStateSummary} {now : DateTime}
    (tells : List.Forall₂ (Tells texts) entries recorded)
    (refreshed : refreshCounters texts (entries.map .map) summary now = .ok after) :
    (∀ told ∈ recorded, told.moment.offset.isSome = now.offset.isSome) ∧
      30 * dayLength ≤ now.time := by
  obtain ⟨_, -, counted, -⟩ := refreshCounters_parts refreshed
  obtain ⟨cutoff, shifted, counted⟩ := bind_ok counted
  obtain ⟨_, mapped, -⟩ := bind_ok counted
  have window := window_of_cutoff shifted
  obtain ⟨own, shiftedAgain, offset, -⟩ := cutoffOf_ok window
  obtain rfl := Except.ok.inj (shifted.symm.trans shiftedAgain)
  have alike := alike_of_counted tells mapped
  rw [offset] at alike
  exact ⟨alike, window⟩

/-- What counters that are right and were computed from the history show of it. -/
theorem needed_of_refresh {summary after : HealthStateSummary} {now : DateTime}
    (tells : List.Forall₂ (Tells texts) entries recorded)
    (reads : ∀ told ∈ recorded, texts.ReadsBack told.moment)
    (refreshed : refreshCounters texts (entries.map .map) summary now = .ok after)
    (right : after.rolling30dDegradedCount = degradedWithin now recorded) :
    (∀ told ∈ recorded, told.moment.offset.isSome = now.offset.isSome) ∧
      30 * dayLength ≤ now.time ∧
      (∀ latest, FirstGreatest DateTime.instant (okMoments recorded) latest →
        dayOf now < lastDay ∨ dayOf now ≤ dayOf latest) ∧
      ∀ told ∈ recorded, told.degraded = true → told.moment.instant ≤ now.instant := by
  obtain ⟨alike, window⟩ := alike_of_refresh tells refreshed
  obtain ⟨lastOk, found, counted, passed⟩ := refreshCounters_parts refreshed
  obtain ⟨cutoff, shifted, counted⟩ := bind_ok counted
  obtain ⟨each, mapped, counted⟩ := bind_ok counted
  obtain ⟨own, shiftedAgain, offset, instant⟩ := cutoffOf_ok window
  obtain rfl := Except.ok.inj (shifted.symm.trans shiftedAgain)
  rw [tryMap_countsAfter tells (by rwa [offset])] at mapped
  obtain rfl := Except.ok.inj mapped
  refine ⟨alike, window, ?_, ?_⟩
  · intro latest greatest
    cases latestOkTs_ok tells (fun told member other present =>
      (alike told member).trans (alike other present).symm) with
    | inl none =>
      have placed := greatest.mem
      rw [none.1] at placed
      cases placed
    | inr some =>
      obtain ⟨first, foundFirst, firstGreatest⟩ := some
      obtain rfl := firstGreatest.unique greatest
      obtain rfl := Except.ok.inj (found.symm.trans foundFirst)
      obtain ⟨told, member, rfl⟩ := mem_okMoments greatest.mem
      obtain ⟨days, passed⟩ := passed _ rfl
      rw [(reads told member).parseTs_writeTs] at passed
      have room := room_of_weekdays passed
      omega
  · have counts : (recorded.countP fun told => told.degraded &&
        decide (cutoff.instant ≤ told.moment.instant)) = degradedWithin now recorded := by
      have total := (Except.ok.inj counted).trans right
      rw [List.count, List.countP_map] at total
      have whole := Int.ofNat.inj total
      rw [← whole]
      exact List.countP_congr fun told _ => by simp
    have within := of_countP_eq (fun told held => by
      simp only [Bool.and_eq_true, decide_eq_true_eq] at held ⊢
      rw [instant]
      exact ⟨held.1, held.2.1⟩) counts
    intro told member degraded
    by_contra later
    have recent : cutoff.instant ≤ told.moment.instant := by
      rw [instant]
      unfold dayLength
      omega
    have held := within told member (by simp [degraded, recent])
    simp only [Bool.and_eq_true, decide_eq_true_eq] at held
    exact later held.2.2

variable {run : Run} {call : Call}

theorem clear_of_right (tracks : Tracks texts run) (reads : texts.ReadsBack (call.moment texts))
    (oneLine : (recordOf call texts (currentOf run.recorded)).OneLine)
    (right : Right texts (step texts run call)) : Clear texts run.recorded call := by
  obtain ⟨records, summary, read⟩ := exists_reads tracks reads oneLine
  obtain ⟨after, returned, counters⟩ := right _ List.getLast?_concat
  have result : (recordTransition texts run.files call).2 = .ok after := returned
  rw [read.result] at result
  cases refreshed : refreshCounters texts ((records.map (·.payload)).map .map) summary
      (call.moment texts) with
  | error error =>
    rw [refreshed] at result
    cases result
  | ok other =>
    rw [refreshed] at result
    obtain rfl := Except.ok.inj result
    obtain ⟨alike, window, dated, noneLater⟩ := needed_of_refresh read.tells
      (forall_append_singleton tracks.reads reads) refreshed counters.rolling
    exact {
      alike := fun told member => alike told (List.mem_append_left _ member)
      window
      dated
      noneLater := fun told member => noneLater told (List.mem_append_left _ member)
      oneLine }

theorem right_run_iff_of_oneLine {calls : List Call}
    (reads : ∀ call ∈ calls, texts.ReadsBack (call.moment texts))
    (lines : EachStep (step texts)
      (fun run call => (recordOf call texts (currentOf run.recorded)).OneLine) {} calls) :
    Throughout (step texts) (Right texts) {} calls ↔
      EachStep (step texts) (fun run call => Clear texts run.recorded call) {} calls :=
  throughout_iff_eachStep_of_promise (fun run => Tracks texts run ∧ Right texts run)
    (fun _ holds => holds.2)
    (fun _ _ holds promised clear => step_tracks holds.1 promised.2 clear)
    (fun _ _ holds promised right => clear_of_right holds.1 promised.2 promised.1 right)
    ⟨tracks_empty, fun _ none => nomatch none⟩ (lines.and (eachStep_of_mem reads))

end Needed

/-! ## Two events -/

/-- Midnight of a day in January 2026. -/
def midnight (day : Nat) (offset : Option Int) : DateTime where
  time := 63902736000000000 + min day 31 * dayLength
  offset
  inRange := by
    unfold dayLength lastTime
    omega

/-- The texts of two midnights in UTC, and of one without an offset. -/
def januaryTexts : List (String × DateTime) :=
  [("2026-01-20T00:00:00+00:00", midnight 20 (some 0)),
    ("2026-01-21T00:00:00+00:00", midnight 21 (some 0)),
    ("2026-01-20T00:00:00", midnight 20 none)]

def january : IsoTexts where
  isoformat moment := ((januaryTexts.find? fun entry => entry.2 == moment).map Prod.fst).getD ""
  fromisoformat text := (januaryTexts.find? fun entry => entry.1 == text).map Prod.snd

def sampleCall (ts toState : String) : Call where
  event := [("ts", .str ts), ("to_state", .str toState)]
  utcnow := midnight 21 (some 0)
  wellFormed := ⟨by simp, trivial, trivial, trivial⟩

def naiveCall : Call := sampleCall "2026-01-20T00:00:00" "degraded"

def degradedCall : Call := sampleCall "2026-01-20T00:00:00Z" "degraded"

def okCall : Call := sampleCall "2026-01-21T00:00:00Z" "ok"

theorem readsBack_january {call : Call} (member : call ∈ [naiveCall, degradedCall, okCall]) :
    january.ReadsBack (call.moment january) := by
  have inverse : ∀ call ∈ [naiveCall, degradedCall, okCall],
      january.fromisoformat (january.isoformat (call.moment january)) =
        some (call.moment january) := by decide +kernel
  have nonempty : ∀ call ∈ [naiveCall, degradedCall, okCall],
      january.isoformat (call.moment january) ≠ "" := by decide +kernel
  have plain : ∀ call ∈ [naiveCall, degradedCall, okCall],
      ((january.isoformat (call.moment january)).toList.all fun char =>
        decide (char ≠ 'Z' ∧ char ∉ foreignBreaks)) = true := by decide +kernel
  refine ⟨inverse call member, nonempty call member, fun char present => ?_⟩
  exact of_decide_eq_true (List.all_eq_true.mp (plain call member) char present)

theorem right_run_twoDays :
    Throughout (step january) (Right january) {} [degradedCall, okCall] := by
  refine right_run (fun call member => readsBack_january (List.mem_cons_of_mem _ member)) ?_
  refine ⟨⟨?_, ?_, ?_, ?_, ?_⟩, ⟨?_, ?_, ?_, ?_, ?_⟩, trivial⟩
  · exact fun _ member => nomatch member
  · decide +kernel
  · exact fun latest _ => .inl (by decide +kernel)
  · exact fun _ member => nomatch member
  · have oneLine : (recordOf degradedCall january "ok").OneLine := by decide +kernel
    exact oneLine
  · exact List.forall_mem_singleton.mpr (by decide +kernel)
  · decide +kernel
  · exact fun latest _ => .inl (by decide +kernel)
  · exact List.forall_mem_singleton.mpr (by decide +kernel)
  · have oneLine : (recordOf okCall january "degraded").OneLine := by decide +kernel
    exact oneLine

/-- An event without an offset makes the next one with an offset raise. -/
theorem mixed_offsets_raise :
    ¬ ∀ (texts : IsoTexts) (calls : List Call),
      (∀ call ∈ calls, texts.ReadsBack (call.moment texts)) →
        Throughout (step texts) (Right texts) {} calls := by
  intro holds
  have read : ∀ call ∈ [naiveCall, okCall], january.ReadsBack (call.moment january) := by
    intro call member
    cases List.mem_cons.mp member with
    | inl same => exact readsBack_january (same ▸ List.mem_cons_self)
    | inr later => exact readsBack_january (List.mem_cons_of_mem _ (List.mem_cons_of_mem _ later))
  have first : (recordOf naiveCall january "ok").OneLine := by decide +kernel
  have second : (recordOf okCall january "degraded").OneLine := by decide +kernel
  have clear := (right_run_iff_of_oneLine read ⟨first, second, trivial⟩).mp
    (holds january [naiveCall, okCall] read)
  have alike := clear.2.1.alike (transitionOf january [] naiveCall) List.mem_cons_self
  exact absurd alike (by decide +kernel)

end FxToushi.Core.HealthStateStore
