import FxToushi.Core.HealthRuns
import Mathlib.Data.Int.Interval
import Mathlib.Data.Set.Card

namespace FxToushi.Core.HealthStateStore

open Calendar

/-! # Business days

The loop over the days counts the weekdays after the first day and up to the
second, and these counts add up.
-/

/-- The days after the first and up to the last, from Monday to Friday. -/
def weekdays (first last : Int) : Set Int := fun day => first < day ∧ day ≤ last ∧ day % 7 < 5

theorem weekdays_finite (first last : Int) : (weekdays first last).Finite := by
  refine (Set.finite_Ioc first last).subset fun day weekday => ?_
  exact ⟨weekday.1, weekday.2.1⟩

theorem weekdays_of_le {first last : Int} (empty : last ≤ first) : weekdays first last = ∅ := by
  refine Set.eq_empty_iff_forall_notMem.mpr fun day weekday => ?_
  obtain ⟨after, upTo, -⟩ := weekday
  omega

theorem ncard_weekdays_single (day : Int) :
    (weekdays (day - 1) day).ncard = if day % 7 < 5 then 1 else 0 := by
  have only : ∀ other, other ∈ weekdays (day - 1) day ↔ other = day ∧ day % 7 < 5 := by
    intro other
    constructor
    · intro weekday
      obtain ⟨after, upTo, inWeek⟩ := weekday
      obtain rfl : other = day := by omega
      exact ⟨rfl, inWeek⟩
    · intro weekday
      obtain ⟨rfl, inWeek⟩ := weekday
      exact ⟨by omega, le_rfl, inWeek⟩
  by_cases inWeek : day % 7 < 5
  · rw [if_pos inWeek, Set.ncard_eq_one]
    exact ⟨day, Set.ext fun other => by simp [only, inWeek]⟩
  · rw [if_neg inWeek, Set.ncard_eq_zero (weekdays_finite _ _)]
    exact Set.eq_empty_iff_forall_notMem.mpr fun other weekday => inWeek ((only other).mp weekday).2

theorem ncard_weekdays_add {first middle last : Int} (early : first ≤ middle)
    (late : middle ≤ last) :
    (weekdays first last).ncard =
      (weekdays first middle).ncard + (weekdays middle last).ncard := by
  have disjoint : Disjoint (weekdays first middle) (weekdays middle last) := by
    refine Set.disjoint_left.mpr fun day before after => ?_
    have upper := before.2.1
    have lower := after.1
    omega
  have union : weekdays first last = weekdays first middle ∪ weekdays middle last := by
    ext day
    constructor
    · intro weekday
      obtain ⟨after, upTo, inWeek⟩ := weekday
      by_cases front : day ≤ middle
      · exact .inl ⟨after, front, inWeek⟩
      · exact .inr ⟨by omega, upTo, inWeek⟩
    · intro weekday
      rcases weekday with front | back
      · exact ⟨front.1, front.2.1.trans late, front.2.2⟩
      · exact ⟨early.trans_lt back.1, back.2.1, back.2.2⟩
  rw [union, Set.ncard_union_eq disjoint (weekdays_finite _ _) (weekdays_finite _ _)]

theorem countWeekdays_eq {days : Nat} {cursor count : Int}
    (room : days = 0 ∨ cursor + days ≤ lastDay) :
    countWeekdays days cursor count =
      .ok (count + (weekdays (cursor - 1) (cursor - 1 + days)).ncard) := by
  induction days generalizing cursor count with
  | zero =>
    rw [countWeekdays, weekdays_of_le (by omega), Set.ncard_empty]
    simp
  | succ days ih =>
    have below : cursor < lastDay := by omega
    have split : (weekdays (cursor - 1) (cursor - 1 + (days + 1 : Nat))).ncard =
        (weekdays (cursor - 1) cursor).ncard +
          (weekdays cursor (cursor - 1 + (days + 1 : Nat))).ncard :=
      ncard_weekdays_add (by omega) (by omega)
    have same : cursor + 1 - 1 + (days : Int) = cursor - 1 + (days + 1 : Nat) := by omega
    rw [ncard_weekdays_single] at split
    rw [countWeekdays, if_pos below, ih (by omega), same, show cursor + 1 - 1 = cursor by omega,
      split]
    by_cases weekday : cursor % 7 < 5
    · rw [if_pos weekday, if_pos weekday]
      congr 1
      omega
    · rw [if_neg weekday, if_neg weekday]
      congr 1
      omega

/-- Up to the second time, unless its day is the last that `date` can tell. -/
theorem businessDaysSince_eq {start stop : DateTime}
    (room : dayOf stop < lastDay ∨ dayOf stop ≤ dayOf start) :
    businessDaysSince (some start) stop =
      .ok (weekdays (dayOf start) (dayOf stop)).ncard := by
  rw [businessDaysSince, countWeekdays_eq (by omega), Int.zero_add,
    show dayOf start + 1 - 1 = dayOf start by omega]
  by_cases later : dayOf start ≤ dayOf stop
  · rw [show dayOf start + ((dayOf stop - dayOf start).toNat : Int) = dayOf stop by omega]
  · rw [weekdays_of_le (by omega), weekdays_of_le (by omega)]

theorem dayOf_mono {start stop : DateTime} (startUtc : start.offset = some 0)
    (stopUtc : stop.offset = some 0) (ordered : start.instant ≤ stop.instant) :
    dayOf start ≤ dayOf stop := by
  refine Int.ediv_le_ediv (by decide) ?_
  simpa [DateTime.instant, startUtc, stopUtc] using ordered

/-- The days from the first to the third are those to the second and those from it, and
the days to the second are its weekdays. -/
def AddsUp (first second third : DateTime) : Prop :=
  (∃ whole front back, businessDaysSince (some first) third = .ok whole ∧
    businessDaysSince (some first) second = .ok front ∧
    businessDaysSince (some second) third = .ok back ∧ whole = front + back) ∧
  businessDaysSince (some first) second =
    .ok (weekdays (dayOf first) (dayOf second)).ncard

/-- The days add up exactly when no weekday is counted up to the last day there is. -/
theorem addsUp_iff {first second third : DateTime} (firstUtc : first.offset = some 0)
    (secondUtc : second.offset = some 0) (thirdUtc : third.offset = some 0)
    (early : first.instant ≤ second.instant) (late : second.instant ≤ third.instant) :
    AddsUp first second third ↔ dayOf third < lastDay ∨ dayOf third ≤ dayOf first := by
  have before := dayOf_mono firstUtc secondUtc early
  have after := dayOf_mono secondUtc thirdUtc late
  constructor
  · intro adds
    obtain ⟨⟨_, _, _, counted, _⟩, _⟩ := adds
    have room := room_of_weekdays counted
    omega
  · intro room
    have front : businessDaysSince (some first) second =
        .ok (weekdays (dayOf first) (dayOf second)).ncard := businessDaysSince_eq (by omega)
    refine ⟨⟨_, _, _, businessDaysSince_eq room, front, businessDaysSince_eq (by omega), ?_⟩,
      front⟩
    exact_mod_cast ncard_weekdays_add before after

/-- A Friday, the Monday after it and the Tuesday after that, in the first week there is. -/
theorem addsUp_weekend :
    AddsUp ⟨4 * dayLength, some 0, by decide⟩ ⟨7 * dayLength, some 0, by decide⟩
      ⟨8 * dayLength, some 0, by decide⟩ :=
  (addsUp_iff rfl rfl rfl (by decide) (by decide)).mpr (by decide)

/-- To the last day the loop steps past it. -/
theorem not_addsUp_lastDay :
    ¬ AddsUp ⟨(lastDay - 1) * dayLength, some 0, by decide⟩
      ⟨(lastDay - 1) * dayLength, some 0, by decide⟩ ⟨lastDay * dayLength, some 0, by decide⟩ := by
  intro adds
  obtain ⟨⟨_, _, _, counted, _⟩, _⟩ := adds
  cases counted

end FxToushi.Core.HealthStateStore
