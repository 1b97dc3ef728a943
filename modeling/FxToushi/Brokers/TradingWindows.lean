import FxToushi.Py.Number
import Mathlib.Data.List.Basic

namespace FxToushi.Brokers

open Py

/-! # Trading windows

A broker's windows are given in the clock of a zone.  A window whose end comes
before its start goes over midnight and belongs to the day on which it opens.
Times are microseconds.
-/

/-- A time of day, `HH:MM` in the rules. -/
structure ClockTime where
  hour : Nat
  minute : Nat
  hourBound : hour < 24 := by decide
  minuteBound : minute < 60 := by decide

def ClockTime.micros (time : ClockTime) : Int := (time.hour * 60 + time.minute) * 60000000

/-- `stop` is the field `end`. -/
structure AllowedTimeWindow where
  start : ClockTime
  stop : ClockTime
  timezone : String
  days : List String := []

/-- The offset of a zone from UTC, at an instant. -/
abbrev Zone := Timestamp → Int

/-- An instant, with the offset of the zone it is given in. -/
structure Instant where
  utc : Timestamp
  offset : Int := 0

def dayMicros : Int := 86400000000

def dayNames : List String := ["mon", "tue", "wed", "thu", "fri", "sat", "sun"]

/-- `strftime("%a").lower()`. -/
def weekdayName (clock : Timestamp) : String := dayNames.getD clock.weekday.toNat ""

def timeOfDay (clock : Timestamp) : Int := clock % dayMicros

namespace AllowedTimeWindow

variable (zones : String → Option Zone) (now : Instant) (window : AllowedTimeWindow)

/-- `now.astimezone(tz)`, in UTC where there is no such zone. -/
def localClock : Timestamp := now.utc + ((zones window.timezone).getD (fun _ => 0)) now.utc

def crossesMidnight : Bool := decide (window.stop.micros < window.start.micros)

def spans (time : Int) : Bool :=
  if window.start.micros ≤ window.stop.micros then
    decide (window.start.micros ≤ time ∧ time ≤ window.stop.micros)
  else decide (window.start.micros ≤ time ∨ time ≤ window.stop.micros)

/-- A window without days is open on every day. -/
def allowsDay (day : String) : Bool := window.days.isEmpty || window.days.contains day

end AllowedTimeWindow

/-- `_is_within_trading_window`. -/
def isWithinTradingWindow (zones : String → Option Zone) (windows : List AllowedTimeWindow)
    (now : Instant) : Bool :=
  let weekday := weekdayName (now.utc + now.offset)
  windows.isEmpty || windows.any (fun window =>
    window.allowsDay weekday && window.spans (timeOfDay (window.localClock zones now)))

/-! ## The calendar of a window -/

namespace AllowedTimeWindow

variable (zones : String → Option Zone) (now : Instant) (window : AllowedTimeWindow)

/-- The clock of the window shows one of its times. -/
def Covers : Prop := window.spans (timeOfDay (window.localClock zones now)) = true

/-- The day on which the window opened, by its own clock: after midnight, the
day before. -/
def openingDay : String :=
  let clock := window.localClock zones now
  if window.crossesMidnight ∧ timeOfDay clock ≤ window.stop.micros then
    weekdayName (clock - dayMicros)
  else weekdayName clock

def OpenByItsDay : Prop :=
  window.Covers zones now ∧ window.allowsDay (window.openingDay zones now) = true

/-- Open by the weekday of the instant in the zone it is given in. -/
def OpenByGivenDay : Prop :=
  window.Covers zones now ∧ window.allowsDay (weekdayName (now.utc + now.offset)) = true

instance : Decidable (window.Covers zones now) := inferInstanceAs (Decidable (_ = true))

instance : Decidable (window.OpenByItsDay zones now) := inferInstanceAs (Decidable (_ ∧ _))

instance : Decidable (window.OpenByGivenDay zones now) := inferInstanceAs (Decidable (_ ∧ _))

end AllowedTimeWindow

section Windows

variable (zones : String → Option Zone) (windows : List AllowedTimeWindow) (now : Instant)

/-- The answer is yes exactly when a window is open by its own calendar. -/
def JudgesByItsDay : Prop :=
  isWithinTradingWindow zones windows now = true ↔
    ∃ window ∈ windows, window.OpenByItsDay zones now

/-- There are windows, and one is open by both days; or one is open by the given
day alone exactly where another is open by its own day alone. -/
structure DaysAgree : Prop where
  nonempty : windows ≠ []
  agree : (∃ window ∈ windows, window.OpenByGivenDay zones now ∧ window.OpenByItsDay zones now) ∨
    ((∃ window ∈ windows, window.OpenByGivenDay zones now ∧ ¬ window.OpenByItsDay zones now) ↔
      ∃ window ∈ windows, window.OpenByItsDay zones now ∧ ¬ window.OpenByGivenDay zones now)

variable {windows}

theorem isWithinTradingWindow_iff (nonempty : windows ≠ []) :
    isWithinTradingWindow zones windows now = true ↔
      ∃ window ∈ windows, window.OpenByGivenDay zones now := by
  have some_window : windows.isEmpty = false := by simpa using nonempty
  simp only [isWithinTradingWindow, some_window, Bool.false_or, List.any_eq_true, Bool.and_eq_true,
    AllowedTimeWindow.OpenByGivenDay, AllowedTimeWindow.Covers, and_comm]

theorem isWithinTradingWindow_nil : isWithinTradingWindow zones [] now = true := rfl

/-- Windows are judged by their own calendar exactly where its days and the given
one come to the same. -/
theorem judgesByItsDay_iff : JudgesByItsDay zones windows now ↔ DaysAgree zones windows now := by
  by_cases nonempty : windows = []
  · subst nonempty
    constructor
    · intro judges
      obtain ⟨window, member, -⟩ := judges.mp (isWithinTradingWindow_nil zones now)
      exact absurd member List.not_mem_nil
    · intro days
      exact absurd rfl days.nonempty
  · rw [JudgesByItsDay, isWithinTradingWindow_iff zones now nonempty]
    constructor
    · intro judges
      refine ⟨nonempty, or_iff_not_imp_left.mpr fun neither => ?_⟩
      have alone : ∀ window ∈ windows, window.OpenByGivenDay zones now →
          ¬ window.OpenByItsDay zones now :=
        fun window member given own => neither ⟨window, member, given, own⟩
      constructor
      · intro ⟨window, member, given, _⟩
        obtain ⟨other, listed, own⟩ := judges.mp ⟨window, member, given⟩
        exact ⟨other, listed, own, fun both => alone other listed both own⟩
      · intro ⟨window, member, own, _⟩
        obtain ⟨other, listed, given⟩ := judges.mpr ⟨window, member, own⟩
        exact ⟨other, listed, given, alone other listed given⟩
    · intro days
      cases days.agree with
      | inl both =>
        obtain ⟨window, member, given, own⟩ := both
        exact iff_of_true ⟨window, member, given⟩ ⟨window, member, own⟩
      | inr each =>
        constructor
        · intro ⟨window, member, given⟩
          by_cases own : window.OpenByItsDay zones now
          · exact ⟨window, member, own⟩
          · obtain ⟨other, listed, open_, -⟩ := each.mp ⟨window, member, given, own⟩
            exact ⟨other, listed, open_⟩
        · intro ⟨window, member, own⟩
          by_cases given : window.OpenByGivenDay zones now
          · exact ⟨window, member, given⟩
          · obtain ⟨other, listed, open_, -⟩ := each.mpr ⟨window, member, own, given⟩
            exact ⟨other, listed, open_⟩

end Windows

/-! ## Monday morning in Tokyo -/

def tokyoCore : AllowedTimeWindow where
  start := { hour := 0, minute := 0 }
  stop := { hour := 9, minute := 0 }
  timezone := "Asia/Tokyo"
  days := ["mon", "tue", "wed", "thu", "fri"]

def tokyo (name : String) : Option Zone :=
  if name = "Asia/Tokyo" then some (fun _ => 9 * 3600000000) else none

/-- Monday 2026-01-05, 01:00 in Tokyo, which is Sunday in UTC. -/
def mondayMorning : Instant where
  utc := 1767542400000000

/-- The window is open, but not by the weekday in UTC. -/
theorem monday_morning_closed : ¬ JudgesByItsDay tokyo [tokyoCore] mondayMorning := by
  have closed : isWithinTradingWindow tokyo [tokyoCore] mondayMorning = false := by decide +kernel
  have opened : tokyoCore.OpenByItsDay tokyo mondayMorning := by decide +kernel
  intro judges
  rw [JudgesByItsDay, closed] at judges
  exact Bool.false_ne_true (judges.mpr ⟨tokyoCore, List.mem_singleton_self _, opened⟩)

end FxToushi.Brokers
