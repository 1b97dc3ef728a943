import FxToushi.Calendar.Service
import FxToushi.Data.Segments

namespace FxToushi.Ingestion.BackfillRanges

open Calendar Data

/-! # The ranges of a backfill in the calendar

The end of a chunk is computed before it is cut off at the end of the window,
so the last full chunk has to end within the calendar.
-/

abbrev Range := DateTime × DateTime

namespace Range

def segment (range : Range) : Segment := (range.1.instant, range.2.instant)

def length (range : Range) : Int := range.segment.length

end Range

/-- The ranges a generator yields, and the error that ends it. -/
structure Yielded where
  ranges : List Range := []
  error : Option CalendarError := none

namespace Yielded

def cons (range : Range) (later : Yielded) : Yielded :=
  { later with ranges := range :: later.ranges }

def segments (yielded : Yielded) : List Segment := yielded.ranges.map Range.segment

/-- What a loop over the ranges comes to after the last one. -/
def finish (yielded : Yielded) : Except CalendarError Unit :=
  match yielded.error with
  | none => .ok ()
  | some error => .error error

theorem finish_ok_iff {yielded : Yielded} :
    yielded.finish = .ok () ↔ yielded.error = none := by
  cases error : yielded.error with
  | none => simp [finish, error]
  | some raised => simp [finish, error]

end Yielded

/-- `min(end, next)`. -/
def earlier (stop next : DateTime) : DateTime :=
  if next.instant < stop.instant then next else stop

/-- The loop from the cursor on, for times that can be compared. -/
def rangesFrom (stop : DateTime) (step : Int) (cursor : DateTime) : Yielded :=
  if cursor.instant < stop.instant then
    match cursor.shift step with
    | .error error => { error := some error }
    | .ok next =>
      if (earlier stop next).instant ≤ cursor.instant then {}
      else (rangesFrom stop step (earlier stop next)).cons (cursor, earlier stop next)
  else {}
termination_by (stop.instant - cursor.instant).toNat
decreasing_by omega

/-- `timedelta(seconds=chunk_hours * 3600)` in microseconds; one too long for a `timedelta`
overflows as the sum does. -/
def chunkLength (chunkHours : Int) : Int := chunkHours * 3600 * 1000000

def chunkBackfillRanges (start stop : DateTime) (chunkHours : Int) : Yielded :=
  if chunkHours ≤ 0 then { ranges := [(start, stop)] }
  else if start.offset.isSome = stop.offset.isSome then
    rangesFrom stop (chunkLength chunkHours) start
  else { error := some .type }

/-! ## Partitions -/

/-- The ranges lead from the start to the stop, and only the last may be shorter. -/
structure Partition (start stop : DateTime) (step : Int) (yielded : Yielded) : Prop where
  ended : yielded.error = none
  first : yielded.ranges.head?.map Prod.fst = some start
  last : yielded.ranges.getLast?.map Prod.snd = some stop
  contiguous : yielded.ranges.IsChain fun left right => left.2 = right.1
  nonempty : ∀ range ∈ yielded.ranges, 0 < range.length
  within : ∀ range ∈ yielded.ranges, range.length ≤ step
  full : ∀ range ∈ yielded.ranges.dropLast, range.length = step

theorem length_eq (left right : DateTime) :
    Range.length (left, right) = right.instant - left.instant := rfl

variable {start stop cursor : DateTime} {step : Int}

theorem partition_single (ahead : cursor.instant < stop.instant)
    (fits : stop.instant ≤ cursor.instant + step) :
    Partition cursor stop step { ranges := [(cursor, stop)] } := by
  have long := length_eq cursor stop
  refine ⟨rfl, rfl, rfl, .singleton _, ?_, ?_, by simp⟩
  · intro range member
    obtain rfl := List.mem_singleton.mp member
    omega
  · intro range member
    obtain rfl := List.mem_singleton.mp member
    omega

theorem Partition.cons {next : DateTime} {later : Yielded}
    (partition : Partition next stop step later) (positive : 0 < step)
    (long : next.instant = cursor.instant + step) :
    Partition cursor stop step (later.cons (cursor, next)) := by
  obtain ⟨ranges, error⟩ := later
  obtain ⟨ended, first, last, contiguous, nonempty, within, full⟩ := partition
  have length : Range.length (cursor, next) = step := by
    rw [length_eq]
    omega
  cases ranges with
  | nil => cases first
  | cons range rest =>
    refine ⟨ended, rfl, ?_, ?_, ?_, ?_, ?_⟩
    · rw [Yielded.cons, List.getLast?_cons_cons]
      exact last
    · exact .cons_cons (Option.some.inj first).symm contiguous
    · exact List.forall_mem_cons.mpr ⟨by omega, nonempty⟩
    · exact List.forall_mem_cons.mpr ⟨length.le, within⟩
    · exact List.forall_mem_cons.mpr ⟨length, full⟩

/-- A window has one partition, which is the cut of its instants. -/
theorem Partition.segments {yielded : Yielded} (partition : Partition start stop step yielded)
    (positive : 0 < step) :
    yielded.segments = cut step start.instant stop.instant := by
  obtain ⟨ranges, error⟩ := yielded
  induction ranges generalizing start with
  | nil => cases partition.first
  | cons range rest ih =>
    obtain ⟨ended, first, last, contiguous, nonempty, within, full⟩ := partition
    obtain ⟨own, later⟩ := List.forall_mem_cons.mp nonempty
    obtain ⟨short, laterShort⟩ := List.forall_mem_cons.mp within
    obtain ⟨left, right⟩ := range
    obtain rfl : left = start := Option.some.inj first
    rw [length_eq] at own short
    cases rest with
    | nil =>
      obtain rfl : right = stop := Option.some.inj last
      rw [cut_last (by omega) (by omega)]
      rfl
    | cons second rest =>
      have joined : right = second.1 := (List.isChain_cons_cons.mp contiguous).1
      have length := full (left, right) List.mem_cons_self
      have tail := ih ⟨ended, congrArg some joined.symm, last,
        (List.isChain_cons_cons.mp contiguous).2, later, laterShort,
        fun range member => full range (List.mem_cons_of_mem _ member)⟩
      have more : right.instant < stop.instant := by
        by_contra done
        rw [cut_of_le (by omega)] at tail
        cases tail
      rw [length_eq] at length
      have reached : left.instant + step = right.instant := by omega
      rw [cut_next positive (by omega), reached, ← tail]
      rfl

/-! ## The loop -/

theorem shift_ok (forward : 0 < step) (room : cursor.time + step ≤ lastTime) :
    ∃ next, cursor.shift step = .ok next ∧ next.time = cursor.time + step ∧
      next.instant = cursor.instant + step := by
  have valid := cursor.inRange
  refine ⟨_, dif_pos ⟨by omega, room⟩, rfl, ?_⟩
  simp only [DateTime.instant]
  omega

theorem rangesFrom_done : rangesFrom stop step stop = {} := by
  unfold rangesFrom
  rw [if_neg (lt_irrefl _)]

theorem rangesFrom_past (ahead : cursor.instant < stop.instant)
    (past : lastTime < cursor.time + step) :
    rangesFrom stop step cursor = { error := some .overflow } := by
  have overflows : cursor.shift step = .error .overflow := dif_neg (by omega)
  unfold rangesFrom
  rw [if_pos ahead, overflows]

theorem rangesFrom_chunk (forward : 0 < step) (ahead : cursor.instant < stop.instant)
    (room : cursor.time + step ≤ lastTime) :
    ∃ next, next.time = cursor.time + step ∧ next.instant = cursor.instant + step ∧
      rangesFrom stop step cursor =
        (rangesFrom stop step (earlier stop next)).cons (cursor, earlier stop next) := by
  obtain ⟨next, shifted, later, moved⟩ := shift_ok forward room
  have advanced : ¬ (earlier stop next).instant ≤ cursor.instant := by
    unfold earlier
    split
    · omega
    · omega
  refine ⟨next, later, moved, ?_⟩
  conv_lhs => unfold rangesFrom
  rw [if_pos ahead, shifted]
  simp only [if_neg advanced]

theorem earlier_of_lt {next : DateTime} (inside : next.instant < stop.instant) :
    earlier stop next = next := if_pos inside

theorem earlier_of_le {next : DateTime} (beyond : stop.instant ≤ next.instant) :
    earlier stop next = stop := if_neg (by omega)

/-! ## How far the chunks reach -/

/-- The length of the fewest full chunks that are as long as the window. -/
def spanned (window step : Int) : Int := (window + step - 1) / step * step

theorem spanned_short {window : Int} (positive : 0 < window) (fits : window ≤ step) :
    spanned window step = step := by
  have single : (window + step - 1) / step = 1 := by
    rw [show window + step - 1 = window - 1 + step by omega,
      Int.add_ediv_of_dvd_right (dvd_refl step), Int.ediv_eq_zero_of_lt (by omega) (by omega),
      Int.ediv_self (by omega)]
    rfl
  rw [spanned, single, Int.one_mul]

theorem spanned_long (window : Int) (positive : 0 < step) :
    spanned window step = step + spanned (window - step) step := by
  have split : (window + step - 1) / step = (window - step + step - 1) / step + 1 := by
    rw [show window + step - 1 = window - step + step - 1 + step by omega,
      Int.add_ediv_of_dvd_right (dvd_refl step), Int.ediv_self (by omega)]
  rw [spanned, spanned, split, Int.add_mul, Int.one_mul, Int.add_comm]

theorem step_le_spanned (window : Int) (positive : 0 < step) (left : 0 < window) :
    step ≤ spanned window step := by
  have one : 1 ≤ (window + step - 1) / step := by
    rw [Int.le_ediv_iff_mul_le positive]
    omega
  have scaled := Int.mul_le_mul_of_nonneg_right one positive.le
  rw [Int.one_mul] at scaled
  exact scaled

/-- The last full chunk of the window ends within the calendar. -/
def Fits (start stop : DateTime) (step : Int) : Prop :=
  start.time + spanned (stop.instant - start.instant) step ≤ lastTime

instance : Decidable (Fits start stop step) := inferInstanceAs (Decidable (_ ≤ _))

theorem fits_next_iff {next : DateTime} (positive : 0 < step)
    (later : next.time = cursor.time + step) (moved : next.instant = cursor.instant + step) :
    Fits next stop step ↔ Fits cursor stop step := by
  have rest : stop.instant - next.instant = stop.instant - cursor.instant - step := by omega
  have long := spanned_long (stop.instant - cursor.instant) positive
  rw [Fits, Fits, rest]
  omega

theorem rangesFrom_yields (positive : 0 < step) (ahead : cursor.instant < stop.instant) :
    (Fits cursor stop step → Partition cursor stop step (rangesFrom stop step cursor)) ∧
      (¬ Fits cursor stop step → (rangesFrom stop step cursor).error = some .overflow) := by
  induction distance : (stop.instant - cursor.instant).toNat using Nat.strong_induction_on
    generalizing cursor with
  | _ distance ih =>
    by_cases past : lastTime < cursor.time + step
    · have reach := step_le_spanned (stop.instant - cursor.instant) positive (by omega)
      have outside : ¬ Fits cursor stop step := by
        rw [Fits]
        omega
      rw [rangesFrom_past ahead past]
      exact ⟨fun fits => absurd fits outside, fun _ => rfl⟩
    · obtain ⟨next, later, moved, turned⟩ := rangesFrom_chunk positive ahead (by omega)
      by_cases last : stop.instant ≤ next.instant
      · have inside : Fits cursor stop step := by
          rw [Fits, spanned_short (by omega) (by omega)]
          omega
        rw [turned, earlier_of_le last, rangesFrom_done]
        exact ⟨fun _ => partition_single ahead (by omega), fun outside => absurd inside outside⟩
      · obtain ⟨partition, error⟩ := @ih _ (by omega) next (by omega) rfl
        rw [fits_next_iff positive later moved] at partition error
        rw [turned, earlier_of_lt (by omega)]
        exact ⟨fun fits => (partition fits).cons positive moved, error⟩

theorem chunkLength_pos {chunkHours : Int} (positive : 0 < chunkHours) :
    0 < chunkLength chunkHours := by
  unfold chunkLength
  omega

/-- The ranges partition the window exactly when the last full chunk fits the calendar. -/
theorem chunkBackfillRanges_partition_iff {chunkHours : Int}
    (alike : start.offset.isSome = stop.offset.isSome) (before : start.instant < stop.instant)
    (positive : 0 < chunkHours) :
    Partition start stop (chunkLength chunkHours) (chunkBackfillRanges start stop chunkHours) ↔
      Fits start stop (chunkLength chunkHours) := by
  obtain ⟨partition, error⟩ := rangesFrom_yields (chunkLength_pos positive) before
  rw [chunkBackfillRanges, if_neg (by omega), if_pos alike]
  refine ⟨fun holds => ?_, partition⟩
  by_contra outside
  have ended := holds.ended
  rw [error outside] at ended
  cases ended

theorem rangesFrom_segments (positive : 0 < step) (ahead : start.instant < stop.instant)
    (ended : (rangesFrom stop step start).error = none) :
    (rangesFrom stop step start).segments = cut step start.instant stop.instant := by
  obtain ⟨partition, error⟩ := rangesFrom_yields positive ahead
  refine (partition ?_).segments positive
  by_contra outside
  rw [error outside] at ended
  cases ended

theorem chunkBackfillRanges_segments {chunkHours : Int} (positive : 0 < chunkHours)
    (before : start.instant < stop.instant)
    (ended : (chunkBackfillRanges start stop chunkHours).error = none) :
    (chunkBackfillRanges start stop chunkHours).segments =
      cut (chunkLength chunkHours) start.instant stop.instant := by
  rw [chunkBackfillRanges, if_neg (by omega)] at ended ⊢
  split at ended
  · rename_i alike
    rw [if_pos alike]
    exact rangesFrom_segments (chunkLength_pos positive) before ended
  · cases ended

/-- Twenty-five hours from the first instant there is, in chunks of six. -/
theorem chunkBackfillRanges_day :
    Partition ⟨0, some 0, by decide⟩ ⟨chunkLength 25, some 0, by decide⟩ (chunkLength 6)
      (chunkBackfillRanges ⟨0, some 0, by decide⟩ ⟨chunkLength 25, some 0, by decide⟩ 6) := by
  refine (chunkBackfillRanges_partition_iff ?_ ?_ ?_).mpr ?_
  · rfl
  · decide
  · decide
  · decide

/-- The last hour there is, in a chunk of six. -/
theorem lastHour_not_partitioned :
    ¬ Partition ⟨lastTime - chunkLength 1, some 0, by decide⟩ ⟨lastTime, some 0, by decide⟩
      (chunkLength 6) (chunkBackfillRanges ⟨lastTime - chunkLength 1, some 0, by decide⟩
        ⟨lastTime, some 0, by decide⟩ 6) := by
  intro partition
  have ended := partition.ended
  rw [chunkBackfillRanges, if_neg (by decide), if_pos rfl,
    rangesFrom_past (by decide) (by decide)] at ended
  cases ended

end FxToushi.Ingestion.BackfillRanges
