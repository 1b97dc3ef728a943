import FxToushi.Data.Segments
import FxToushi.Py.Value
import Mathlib.Data.List.Chain

namespace FxToushi.Backtest.Walkforward

open Data Py

/-! # Walk-forward plans

A plan is a list of train windows, each with the test window that follows it.
The loop of the source is given fuel; a date is the number of its day.
-/

/-- The last day of the year 9999, counted from the first of the year 1. -/
def lastDay : Int := 3652058

structure Date where
  day : Int
  inRange : 0 ≤ day ∧ day ≤ lastDay
deriving DecidableEq

inductive PlanError where
  | value (message : String)
  | overflow
deriving Repr, DecidableEq

/-- `date + timedelta(days=days)`. -/
def Date.plus (date : Date) (days : Int) : Except PlanError Date :=
  if inRange : 0 ≤ date.day + days ∧ date.day + days ≤ lastDay then .ok ⟨date.day + days, inRange⟩
  else .error .overflow

structure WalkForwardSegment where
  index : Int
  trainStart : Date
  trainEnd : Date
  testEnd : Date
deriving DecidableEq

namespace WalkForwardSegment

def testStart (segment : WalkForwardSegment) : Date := segment.trainEnd

end WalkForwardSegment

structure WalkForwardPlan where
  segments : List WalkForwardSegment
deriving DecidableEq

/-- The loop from a cursor on; `none` where the fuel runs out. -/
def planFrom (stop : Date) (trainWindow testWindow stepDays : Int) :
    Nat → Date → Int → Option (Except PlanError (List WalkForwardSegment))
  | 0, _, _ => none
  | fuel + 1, cursor, index =>
    if cursor.day < stop.day then
      match cursor.plus trainWindow with
      | .error error => some (.error error)
      | .ok trainEnd =>
        if stop.day ≤ trainEnd.day then some (.ok [])
        else
          match trainEnd.plus testWindow with
          | .error error => some (.error error)
          | .ok shifted =>
            let testEnd := if stop.day < shifted.day then stop else shifted
            if testEnd.day ≤ trainEnd.day then some (.ok [])
            else
              match cursor.plus stepDays with
              | .error error => some (.error error)
              | .ok next =>
                (planFrom stop trainWindow testWindow stepDays fuel next (index + 1)).map
                  (Except.map (List.cons { index, trainStart := cursor, trainEnd, testEnd }))
    else some (.ok [])

def buildPlan (fuel : Nat) (start stop : Date) (windowDays stepDays : Int)
    (trainDays testDays : Option Int) : Option (Except PlanError WalkForwardPlan) :=
  (planFrom stop (trainDays.getD windowDays) (testDays.getD stepDays) stepDays fuel start 1).map
    (Except.map WalkForwardPlan.mk)

/-- A match of `^(\d+)[...]$` with a last character out of the given ones. -/
def counted? (units : List Char) (token : List Char) : Option (Nat × Char) :=
  match token.getLast? with
  | none => none
  | some unit =>
    let digits := token.dropLast
    if units.contains unit && digits.all isDecimal then
      (digits? digits).map fun value => (value, unit)
    else none

def parseWindowSpec (spec : String) : Except PlanError Nat :=
  let token := (lower (strip spec)).toList
  match counted? ['d', 'w'] token with
  | some (value, unit) => .ok (if unit = 'd' then value else value * 7)
  | none =>
    match counted? ['m'] token with
    | some (value, _) => .ok (value * 30)
    | none => .error (.value ("Unsupported window spec: " ++ spec))

def buildPlanFromSpecs (fuel : Nat) (start stop : Date) (windowSpec stepSpec : String) :
    Option (Except PlanError WalkForwardPlan) :=
  match parseWindowSpec windowSpec, parseWindowSpec stepSpec with
  | .error error, _ => some (.error error)
  | .ok _, .error error => some (.error error)
  | .ok trainDays, .ok testDays =>
    buildPlan fuel start stop 30 testDays (some trainDays) (some testDays)

/-! ## What a plan of windows and steps covers -/

def WalkForwardSegment.testWindow (segment : WalkForwardSegment) : Segment :=
  (segment.testStart.day, segment.testEnd.day)

/-- The windows from the first train start on, numbered from the index. -/
structure Covers (start stop train : Int) (index : Int) (segments : List WalkForwardSegment) :
    Prop where
  numbered : segments.map (·.index) =
    (List.range segments.length).map fun position : Nat => index + position
  trained : ∀ segment ∈ segments, segment.trainEnd.day = segment.trainStart.day + train ∧
    segment.trainEnd.day ≤ segment.testStart.day
  tested : ∀ segment ∈ segments, segment.testStart.day < segment.testEnd.day
  disjoint : segments.Pairwise fun left right => left.testEnd.day ≤ right.testStart.day
  contiguous : segments.IsChain fun left right => left.testEnd.day = right.testStart.day
  union : ∀ day, (∃ segment ∈ segments,
    segment.testStart.day ≤ day ∧ day < segment.testEnd.day) ↔ start + train ≤ day ∧ day < stop

/-- The first train end, or the end of a full test window, is past the calendar. -/
def PastCalendar (start stop train step : Int) : Prop :=
  lastDay < start + train ∨
    ∃ segment ∈ cut step (start + train) stop, lastDay < segment.1 + step

theorem plus_ok (date : Date) {days : Int} (forward : 0 ≤ days)
    (within : date.day + days ≤ lastDay) :
    ∃ next : Date, date.plus days = .ok next ∧ next.day = date.day + days := by
  have inRange : 0 ≤ date.day + days ∧ date.day + days ≤ lastDay := by
    have valid := date.inRange
    omega
  exact ⟨_, dif_pos inRange, rfl⟩

theorem plus_error {date : Date} {days : Int} (past : lastDay < date.day + days) :
    date.plus days = .error .overflow := dif_neg (by omega)

section Loop

variable {stop cursor : Date} {train step index : Int} {fuel : Nat}

theorem planFrom_of_past (before : cursor.day < stop.day)
    (past : lastDay < cursor.day + train) :
    planFrom stop train step step (fuel + 1) cursor index = some (.error .overflow) := by
  rw [planFrom, if_pos before, plus_error past]

theorem planFrom_of_short (before : cursor.day < stop.day) (forward : 0 ≤ train)
    (within : cursor.day + train ≤ lastDay) (short : stop.day ≤ cursor.day + train) :
    planFrom stop train step step (fuel + 1) cursor index = some (.ok []) := by
  obtain ⟨trainEnd, added, sum⟩ := plus_ok cursor forward within
  rw [planFrom, if_pos before, added]
  exact if_pos (by omega)

/-- A turn of the loop that adds a segment. -/
theorem planFrom_next (index : Int) (before : cursor.day < stop.day) (trainForward : 0 ≤ train)
    (stepForward : 0 < step) (room : cursor.day + train < stop.day)
    (within : cursor.day + train + step ≤ lastDay) :
    ∃ segment : WalkForwardSegment, ∃ next : Date,
      segment.index = index ∧ segment.trainStart = cursor ∧
        segment.trainEnd.day = cursor.day + train ∧
        segment.testEnd.day = min stop.day (cursor.day + train + step) ∧
        next.day = cursor.day + step ∧
        ∀ fuel, planFrom stop train step step (fuel + 1) cursor index =
          (planFrom stop train step step fuel next (index + 1)).map
            (Except.map (List.cons segment)) := by
  obtain ⟨trainEnd, trained, trainSum⟩ := plus_ok cursor trainForward (by omega)
  obtain ⟨shifted, tested, testSum⟩ := plus_ok trainEnd stepForward.le (by omega)
  obtain ⟨next, stepped, stepSum⟩ := plus_ok cursor stepForward.le (by omega)
  have testEnd : (if stop.day < shifted.day then stop else shifted).day =
      min stop.day (cursor.day + train + step) := by
    split
    · omega
    · omega
  refine ⟨⟨index, cursor, trainEnd, if stop.day < shifted.day then stop else shifted⟩, next, rfl,
    rfl, trainSum, testEnd, stepSum, fun fuel => ?_⟩
  rw [planFrom, if_pos before, trained]
  dsimp only
  rw [if_neg (by omega), tested]
  dsimp only
  rw [if_neg (by omega), stepped]

theorem planFrom_of_over (before : cursor.day < stop.day) (trainForward : 0 ≤ train)
    (within : cursor.day + train ≤ lastDay) (room : cursor.day + train < stop.day)
    (overrun : lastDay < cursor.day + train + step) :
    planFrom stop train step step (fuel + 1) cursor index = some (.error .overflow) := by
  obtain ⟨trainEnd, trained, trainSum⟩ := plus_ok cursor trainForward within
  rw [planFrom, if_pos before, trained]
  dsimp only
  rw [if_neg (by omega), plus_error (by omega)]

/-- Where every full test window is in the calendar, the loop cuts the interval. -/
theorem planFrom_ok (trainForward : 0 ≤ train) (stepForward : 0 < step)
    (within : cursor.day + train ≤ lastDay)
    (fits : ∀ segment ∈ cut step (cursor.day + train) stop.day, segment.1 + step ≤ lastDay) :
    ∃ segments, (∀ fuel, (stop.day - cursor.day).toNat < fuel →
        planFrom stop train step step fuel cursor index = some (.ok segments)) ∧
      segments.map WalkForwardSegment.testWindow = cut step (cursor.day + train) stop.day ∧
      (∀ segment ∈ segments, segment.trainEnd.day = segment.trainStart.day + train) ∧
      segments.map (·.index) =
        (List.range segments.length).map fun position : Nat => index + position := by
  induction distance : (stop.day - cursor.day).toNat using Nat.strong_induction_on
    generalizing cursor index with
  | _ distance ih =>
    by_cases room : cursor.day + train < stop.day
    · have before : cursor.day < stop.day := by omega
      rw [cut_cons stepForward room] at fits ⊢
      obtain ⟨first, later⟩ := List.forall_mem_cons.mp fits
      obtain ⟨segment, next, numbered, trainStart, trainEnd, testEnd, moved, turned⟩ :=
        planFrom_next index before trainForward stepForward room first
      have boundary : next.day + train = cursor.day + train + step := by omega
      obtain ⟨segments, planned, windows, trained, indices⟩ :=
        @ih _ (by omega) next (index + 1) (by omega) (by rwa [boundary]) rfl
      refine ⟨segment :: segments, fun fuel enough => ?_, ?_, ?_, ?_⟩
      · obtain ⟨fuel, rfl⟩ := Nat.exists_eq_succ_of_ne_zero (by omega : fuel ≠ 0)
        rw [turned, planned fuel (by omega)]
        rfl
      · rw [List.map_cons, windows, boundary, WalkForwardSegment.testWindow,
          WalkForwardSegment.testStart, trainEnd, testEnd]
      · exact List.forall_mem_cons.mpr ⟨by rw [trainEnd, trainStart], trained⟩
      · rw [List.map_cons, indices, numbered, List.length_cons, List.range_succ_eq_map,
          List.map_cons, List.map_map]
        refine congrArg₂ List.cons (by simp) (List.map_congr_left fun position _ => ?_)
        simp only [Function.comp_apply, Nat.succ_eq_add_one]
        omega
    · refine ⟨[], fun fuel enough => ?_, ?_, by simp, rfl⟩
      · by_cases before : cursor.day < stop.day
        · obtain ⟨fuel, rfl⟩ := Nat.exists_eq_succ_of_ne_zero (by omega : fuel ≠ 0)
          exact planFrom_of_short before trainForward within (by omega)
        · obtain ⟨fuel, rfl⟩ := Nat.exists_eq_succ_of_ne_zero (by omega : fuel ≠ 0)
          rw [planFrom, if_neg before]
      · rw [cut_of_le (by omega)]
        rfl

theorem planFrom_error (trainForward : 0 ≤ train) (stepForward : 0 < step)
    (within : cursor.day + train ≤ lastDay)
    (overrun : ∃ segment ∈ cut step (cursor.day + train) stop.day, lastDay < segment.1 + step)
    (enough : (stop.day - cursor.day).toNat < fuel) :
    planFrom stop train step step fuel cursor index = some (.error .overflow) := by
  induction fuel generalizing cursor index with
  | zero => omega
  | succ fuel ih =>
    by_cases room : cursor.day + train < stop.day
    · have before : cursor.day < stop.day := by omega
      by_cases past : lastDay < cursor.day + train + step
      · exact planFrom_of_over before trainForward within room past
      · rw [cut_cons stepForward room] at overrun
        obtain ⟨segment, next, -, -, -, -, moved, turned⟩ :=
          planFrom_next index before trainForward stepForward room (by omega)
        have boundary : next.day + train = cursor.day + train + step := by omega
        have later : ∃ segment ∈ cut step (next.day + train) stop.day,
            lastDay < segment.1 + step := by
          obtain ⟨other, member, beyond⟩ := overrun
          rw [boundary]
          obtain rfl | later := List.mem_cons.mp member
          · exact absurd beyond past
          · exact ⟨other, later, beyond⟩
        rw [turned, ih (by omega) later (by omega)]
        rfl
    · rw [cut_of_le (by omega)] at overrun
      obtain ⟨_, member, -⟩ := overrun
      cases member

theorem planFrom_of_still (before : cursor.day < stop.day) (trainForward : 0 ≤ train)
    (within : cursor.day + train ≤ lastDay) :
    planFrom stop train 0 0 (fuel + 1) cursor index = some (.ok []) := by
  by_cases room : cursor.day + train < stop.day
  · obtain ⟨trainEnd, trained, trainSum⟩ := plus_ok cursor trainForward within
    obtain ⟨shifted, tested, testSum⟩ := plus_ok trainEnd (le_refl 0) (by omega)
    rw [planFrom, if_pos before, trained]
    dsimp only
    rw [if_neg (by omega), tested]
    exact if_pos (by split <;> omega)
  · exact planFrom_of_short before trainForward within (by omega)

end Loop

theorem covers_of_windows {start stop train step : Int} {segments : List WalkForwardSegment}
    {index : Int} (stepForward : 0 < step)
    (windows : segments.map WalkForwardSegment.testWindow = cut step (start + train) stop)
    (trained : ∀ segment ∈ segments, segment.trainEnd.day = segment.trainStart.day + train)
    (numbered : segments.map (·.index) =
      (List.range segments.length).map fun position : Nat => index + position) :
    Covers start stop train index segments := by
  by_cases room : start + train < stop
  · have tiles := tiles_cut stepForward room
    rw [← windows] at tiles
    refine ⟨numbered, fun segment member => ⟨trained segment member, le_rfl⟩, ?_, ?_, ?_, ?_⟩
    · exact fun segment member => tiles.positive _ (List.mem_map_of_mem member)
    · exact List.pairwise_map.mp tiles.disjoint
    · exact (List.isChain_map _).mp tiles.contiguous
    · intro day
      rw [← tiles.covers day]
      simp only [List.mem_map, exists_exists_and_eq_and, WalkForwardSegment.testWindow]
  · rw [cut_of_le (by omega), List.map_eq_nil_iff] at windows
    subst windows
    refine ⟨rfl, by simp, by simp, .nil, .nil, fun day => ?_⟩
    simp only [List.not_mem_nil, false_and, exists_false, false_iff]
    omega

theorem buildPlanFromSpecs_read {windowSpec stepSpec : String} {train step : Nat}
    (windowRead : parseWindowSpec windowSpec = .ok train)
    (stepRead : parseWindowSpec stepSpec = .ok step) (fuel : Nat) (start stop : Date) :
    buildPlanFromSpecs fuel start stop windowSpec stepSpec =
      (planFrom stop train step step fuel start 1).map (Except.map WalkForwardPlan.mk) := by
  delta buildPlanFromSpecs
  rw [windowRead, stepRead]
  rfl

/-- A plan from specs is made of the train windows and steps that the specs say, unless
one of its dates is past the calendar; a step of no days makes an empty plan. -/
theorem buildPlanFromSpecs_covers {start stop : Date} (before : start.day < stop.day)
    {windowSpec stepSpec : String} {train step : Nat}
    (windowRead : parseWindowSpec windowSpec = .ok train)
    (stepRead : parseWindowSpec stepSpec = .ok step) :
    ∃ outcome, (∀ fuel, (stop.day - start.day).toNat < fuel →
        buildPlanFromSpecs fuel start stop windowSpec stepSpec = some outcome) ∧
      (PastCalendar start.day stop.day train step → outcome = .error .overflow) ∧
      (¬ PastCalendar start.day stop.day train step → ∃ plan, outcome = .ok plan ∧
        (step = 0 → plan.segments = []) ∧
        (0 < step → Covers start.day stop.day train 1 plan.segments)) := by
  have read := buildPlanFromSpecs_read windowRead stepRead
  have trainForward : (0 : Int) ≤ train := Int.natCast_nonneg train
  by_cases past : PastCalendar start.day stop.day train step
  · refine ⟨.error .overflow, fun fuel enough => ?_, fun _ => rfl, fun absent => absurd past absent⟩
    rw [read]
    obtain ⟨fuel, rfl⟩ := Nat.exists_eq_succ_of_ne_zero (by omega : fuel ≠ 0)
    by_cases within : start.day + train ≤ lastDay
    · have overrun := past.resolve_left (by omega)
      have stepForward : (0 : Int) < step := by
        by_contra still
        obtain rfl : step = 0 := by omega
        obtain ⟨_, member, -⟩ := overrun
        rw [Int.natCast_zero, cut_zero] at member
        cases member
      rw [planFrom_error trainForward stepForward within overrun enough]
      rfl
    · rw [planFrom_of_past before (by omega)]
      rfl
  · have within : start.day + train ≤ lastDay := by
      by_contra beyond
      exact past (.inl (by omega))
    have fits : ∀ segment ∈ cut step (start.day + train) stop.day,
        segment.1 + step ≤ lastDay := by
      intro segment member
      by_contra beyond
      exact past (.inr ⟨segment, member, by omega⟩)
    obtain rfl | stepForward := Nat.eq_zero_or_pos step
    · refine ⟨.ok ⟨[]⟩, fun fuel enough => ?_, fun absurdity => absurd absurdity past,
        fun _ => ⟨⟨[]⟩, rfl, fun _ => rfl, fun positive => absurd positive (by omega)⟩⟩
      obtain ⟨fuel, rfl⟩ := Nat.exists_eq_succ_of_ne_zero (by omega : fuel ≠ 0)
      rw [read, Int.natCast_zero, planFrom_of_still before trainForward within]
      rfl
    · obtain ⟨segments, planned, windows, trained, numbered⟩ :=
        planFrom_ok trainForward (Int.natCast_pos.mpr stepForward) within fits
      refine ⟨.ok ⟨segments⟩, fun fuel enough => ?_, fun absurdity => absurd absurdity past,
        fun _ => ⟨⟨segments⟩, rfl, fun still => absurd still (by omega), fun _ => ?_⟩⟩
      · rw [read, planned fuel enough]
        rfl
      · exact covers_of_windows (Int.natCast_pos.mpr stepForward) windows trained numbered

def newYear : Date := ⟨738885, by decide⟩

def firstOfMarch : Date := ⟨738945, by decide⟩

theorem buildPlanFromSpecs_covers_sixtyDays :
    ∃ outcome, (∀ fuel, 60 < fuel →
        buildPlanFromSpecs fuel newYear firstOfMarch "30d" "2w" = some outcome) ∧
      ∃ plan, outcome = .ok plan ∧ Covers 738885 738945 30 1 plan.segments := by
  obtain ⟨outcome, planned, -, returned⟩ := buildPlanFromSpecs_covers
    (by decide : newYear.day < firstOfMarch.day)
    (by decide +kernel : parseWindowSpec "30d" = .ok 30)
    (by decide +kernel : parseWindowSpec "2w" = .ok 14)
  have within : ¬ PastCalendar 738885 738945 30 14 := by
    rintro (early | ⟨segment, member, late⟩)
    · exact absurd early (by decide)
    · rw [cut_next (by decide) (by decide), cut_next (by decide) (by decide),
        cut_last (by decide) (by decide)] at member
      simp only [List.mem_cons, List.not_mem_nil, or_false] at member
      obtain rfl | rfl | rfl := member
      all_goals exact absurd late (by decide)
  obtain ⟨plan, same, -, covers⟩ := returned within
  exact ⟨outcome, planned, plan, same, covers (by decide)⟩

/-- A step of no days leaves the interval without a test window. -/
theorem stillStep_not_covered :
    ¬ ∀ (start stop : Date) (windowSpec stepSpec : String) (train step : Nat),
      start.day < stop.day → parseWindowSpec windowSpec = .ok train →
        parseWindowSpec stepSpec = .ok step →
          ∃ fuel plan, buildPlanFromSpecs fuel start stop windowSpec stepSpec = some (.ok plan) ∧
            Covers start.day stop.day train 1 plan.segments := by
  intro holds
  have windows : parseWindowSpec "30d" = .ok 30 := by decide +kernel
  have still : parseWindowSpec "0d" = .ok 0 := by decide +kernel
  obtain ⟨fuel, plan, planned, covers⟩ :=
    holds newYear firstOfMarch "30d" "0d" 30 0 (by decide) windows still
  have empty : plan.segments = [] := by
    rw [buildPlanFromSpecs_read windows still] at planned
    cases fuel with
    | zero => cases planned
    | succ fuel =>
      have ended : planFrom firstOfMarch 30 0 0 (fuel + 1) newYear 1 = some (.ok []) :=
        planFrom_of_still (by decide) (by decide) (by decide)
      rw [Int.natCast_zero, Nat.cast_ofNat, ended] at planned
      obtain rfl := Except.ok.inj (Option.some.inj planned)
      rfl
  have covered := (covers.union 738920).mpr (by decide)
  rw [empty] at covered
  obtain ⟨_, member, -⟩ := covered
  cases member

end FxToushi.Backtest.Walkforward
