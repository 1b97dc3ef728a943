import FxToushi.Data.Runs
import Mathlib.Data.Nat.Find

namespace FxToushi.Data

/-! # Folds that stop

A fold that leaves the rest of its input alone once its state is stopped.  Where
the input comes in batches, the cut into batches makes no difference.
-/

variable {State Item : Type*}

def foldUntil (stopped : State → Bool) (step : State → Item → State) : State → List Item → State
  | state, [] => state
  | state, item :: rest =>
    if stopped state then state else foldUntil stopped step (step state item) rest

/-- The fold of so many items is the first one that is stopped. -/
structure StopsAt (stopped : State → Bool) (step : State → Item → State) (start : State)
    (items : List Item) (count : Nat) : Prop where
  within : count ≤ items.length
  stops : stopped (runFrom step start (items.take count)) = true
  first : ∀ fewer < count, stopped (runFrom step start (items.take fewer)) = false

section Rules

variable {stopped : State → Bool} {step : State → Item → State} {start : State}
  {items first second : List Item}

theorem foldUntil_of_stopped (halted : stopped start = true) :
    foldUntil stopped step start items = start := by
  cases items with
  | nil => rfl
  | cons item rest => rw [foldUntil, if_pos halted]

theorem foldUntil_append :
    foldUntil stopped step start (first ++ second) =
      foldUntil stopped step (foldUntil stopped step start first) second := by
  induction first generalizing start with
  | nil => rfl
  | cons item rest ih =>
    cases halted : stopped start with
    | true => simp only [foldUntil_of_stopped halted]
    | false => simp only [List.cons_append, foldUntil, halted, Bool.false_eq_true, if_false, ih]

theorem foldUntil_of_stopsAt {count : Nat} (stops : StopsAt stopped step start items count) :
    foldUntil stopped step start items = runFrom step start (items.take count) := by
  induction items generalizing start count with
  | nil => rw [List.take_nil]; rfl
  | cons item rest ih =>
    cases count with
    | zero => exact foldUntil_of_stopped stops.stops
    | succ count =>
      have running : stopped start = false := stops.first 0 (Nat.succ_pos count)
      rw [foldUntil, if_neg (by simp [running])]
      exact ih {
        within := Nat.le_of_succ_le_succ stops.within
        stops := stops.stops
        first := fun fewer less => stops.first (fewer + 1) (Nat.succ_lt_succ less) }

theorem foldUntil_of_running
    (running : ∀ count ≤ items.length, stopped (runFrom step start (items.take count)) = false) :
    foldUntil stopped step start items = runFrom step start items := by
  induction items generalizing start with
  | nil => rfl
  | cons item rest ih =>
    have now : stopped start = false := running 0 (Nat.zero_le _)
    rw [foldUntil, if_neg (by simp [now])]
    exact ih fun count within => running (count + 1) (Nat.succ_le_succ within)

end Rules

end FxToushi.Data
