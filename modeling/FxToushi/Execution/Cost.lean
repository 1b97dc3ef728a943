import FxToushi.Data.Recurrence
import FxToushi.Py.Containers
import FxToushi.Py.Extended

namespace FxToushi.Execution

open Data Py

/-! # Round-trip cost

The cost of opening and closing one position: spread, slippage and commission
on both sides, swap for each rollover and a premium for each weekend crossed.
Instants are microseconds in UTC; the rollover is at 21:00.
-/

inductive CostError where
  | costConfigError (message : String)
  | valueError (message : String)
  | keyError (key : String)
  | overflowError
  | python (error : PyError)
deriving Repr, DecidableEq

inductive Side where
  | long
  | short
deriving Repr, DecidableEq

def Side.label : Side → String
  | .long => "long"
  | .short => "short"

structure ExecutionCostConfig where
  raw : Mapping

structure RoundTripCost where
  spread : Extended
  slippage : Extended
  commission : Extended
  swap : Extended
  weekendGap : Extended
deriving Repr, DecidableEq

def RoundTripCost.total (cost : RoundTripCost) : Extended :=
  cost.spread + cost.slippage + cost.commission + cost.swap + cost.weekendGap

def day : Int := 86400000000

def rolloverHourUtc : Int := 21

def rolloverPhase : Int := rolloverHourUtc * 3600000000

def sessionWindows : List (Int × Int × String) :=
  [(0, 6, "asia"), (6, 12, "london"), (12, 16, "overlap"), (16, 21, "ny"), (21, 24, "off_hours")]

def sessionForTimestamp (timestamp : Int) : String :=
  let hour := Timestamp.hour timestamp
  let weekday := Timestamp.weekday timestamp
  if weekday = 5 then "off_hours"
  else if weekday = 6 ∧ hour < rolloverHourUtc then "off_hours"
  else if weekday = 4 ∧ rolloverHourUtc ≤ hour then "off_hours"
  else ((sessionWindows.find? (fun window => decide (window.1 ≤ hour ∧ hour < window.2.1))).map
    (fun window => window.2.2)).getD "off_hours"

/-! ## Crossings -/

/-- `replace(hour=21, minute=0, second=0, microsecond=0)`. -/
def rolloverOf (start : Int) : Int := start - start % day + rolloverPhase

def countRollovers (candidate stop : Int) : Nat :=
  if candidate < stop then countRollovers (candidate + day) stop + 1 else 0
termination_by (stop - candidate).toNat
decreasing_by simp only [day]; omega

def countRolloverCrossings (start : Int) (holdingMinutes : Int) : Nat :=
  if holdingMinutes ≤ 0 then 0
  else
    let stop := start + Timestamp.fromMinutes holdingMinutes
    let todayRollover := rolloverOf start
    let candidate := if start < todayRollover then todayRollover else todayRollover + day
    countRollovers candidate stop

def stepBack (cursor start : Int) : Int :=
  if start < cursor then stepBack (cursor - day) start else cursor
termination_by (cursor - start).toNat
decreasing_by simp only [day]; omega

def isFriday (instant : Int) : Prop := Timestamp.weekday instant = 4

instance : DecidablePred isFriday := fun _ => inferInstanceAs (Decidable (_ = _))

/-- The day a step enters is counted before it is compared with the close. -/
def countWeekends (start cursor stop : Int) : Nat :=
  if cursor < stop then
    (if cursor + day ≤ start then 0 else if isFriday (cursor + day) then 1 else 0) +
      countWeekends start (cursor + day) stop
  else 0
termination_by (stop - cursor).toNat
decreasing_by simp only [day]; omega

def countWeekendCrossings (start : Int) (holdingMinutes : Int) : Nat :=
  if holdingMinutes ≤ 0 then 0
  else
    let stop := start + Timestamp.fromMinutes holdingMinutes
    countWeekends start (stepBack (rolloverOf start) start) stop

/-! ## Lookups in the configuration -/

def requiredSections : List String := ["spread", "slippage", "commission", "swap", "weekend_gap"]

/-- What reading the file gave: nothing where there is none, the parser's error,
or the document. -/
def loadExecutionCostConfig (path : String) (document : Option (Except String Value)) :
    Except CostError ExecutionCostConfig :=
  match document with
  | none => .error (.costConfigError ("execution config missing at " ++ path))
  | some (.error reason) => .error (.costConfigError ("execution config parse error: " ++ reason))
  | some (.ok (.map data)) =>
    let missing := requiredSections.filter (fun name => (Mapping.get? data name).isNone)
    if missing ≠ [] then
      .error (.costConfigError ("execution config missing required sections: " ++
        ", ".intercalate (missing.insertionSort (· ≤ ·))))
    else .ok { raw := data }
  | some (.ok _) =>
    .error (.costConfigError "execution config must be a mapping at the top level")

/-- `raw[name]`. -/
def section? (config : ExecutionCostConfig) (name : String) : Except CostError Value :=
  match config.raw.get? name with
  | none => .error (.keyError name)
  | some table => .ok table

def symbolBucket (table : Value) (symbol : String) : Except CostError Mapping := do
  match ← (lookup table symbol).mapError .python with
  | some bucket => (dictOf bucket).mapError .python
  | none =>
    match ← (lookup table "default").mapError .python with
    | some bucket => (dictOf bucket).mapError .python
    | none => throw (.costConfigError
        ("no cost bucket for symbol=" ++ reprText symbol ++ " and no default"))

/-- The integers `float` accepts: those that do not round to 2 to the 1024. -/
def FitsFloat (value : Int) : Prop := value.natAbs < 2 ^ 1024 - 2 ^ 970

instance : DecidablePred FitsFloat := fun _ => inferInstanceAs (Decidable (_ < _))

def requireFloat (container : Mapping) (key context : String) : Except CostError Extended :=
  match container.get? key with
  | none => .error (.costConfigError ("execution config missing " ++ context ++ "." ++ key))
  | some (.int value) =>
    if FitsFloat value then .ok (.finite value) else .error .overflowError
  | some (.float value text) => .ok (.read value text)
  | some _ => .error (.costConfigError
      ("execution config " ++ context ++ "." ++ key ++ " must be numeric"))

def slippageBucket (bucket : Mapping) (symbol modeKey : String) : Except CostError Mapping :=
  match bucket.get? modeKey with
  | none => .error (.costConfigError
      ("execution config slippage." ++ symbol ++ " missing mode " ++ reprText modeKey))
  | some (.map entries) => .ok entries
  | some _ => .error (.costConfigError
      ("execution config slippage." ++ symbol ++ "." ++ modeKey ++ " must be a mapping"))

/-- Nothing is looked up, and nothing charged, without a rollover. -/
def swapCost (config : ExecutionCostConfig) (symbol : String) (side : Side) (crossings : Nat) :
    Except CostError Extended :=
  if 0 < crossings then do
    let swapSymbol ← symbolBucket (← section? config "swap") symbol
    let perNight ← requireFloat swapSymbol (side.label ++ "_per_night") ("swap." ++ symbol)
    return (Extended.greater 0 (-perNight)).scale crossings
  else return 0

def weekendGapCost (config : ExecutionCostConfig) (symbol : String) (crossings : Nat) :
    Except CostError Extended :=
  if 0 < crossings then do
    let weekendSymbol ← symbolBucket (← section? config "weekend_gap") symbol
    let premium ← requireFloat weekendSymbol "premium" ("weekend_gap." ++ symbol)
    return premium.scale crossings
  else return 0

def roundTripCost (config : ExecutionCostConfig) (symbol : String) (side : Side)
    (timestamp expectedHoldingMinutes : Int) (volatile : Option Bool) :
    Except CostError RoundTripCost := do
  if expectedHoldingMinutes < 0 then
    throw (.valueError "expected_holding_minutes must be non-negative")
  let session := sessionForTimestamp timestamp
  let spreadSymbol ← symbolBucket (← section? config "spread") symbol
  let spreadPerSide ← requireFloat spreadSymbol session ("spread." ++ symbol)
  let slippageSymbol ← symbolBucket (← section? config "slippage") symbol
  let modeKey := if volatile.getD (session == "off_hours") then "volatile" else "base"
  let bucket ← slippageBucket slippageSymbol symbol modeKey
  let slippageP50 ← requireFloat bucket "p50" ("slippage." ++ symbol ++ "." ++ modeKey)
  let commissionSymbol ← symbolBucket (← section? config "commission") symbol
  let commissionPerSide ← requireFloat commissionSymbol "per_side" ("commission." ++ symbol)
  let swap ← swapCost config symbol side
    (countRolloverCrossings timestamp expectedHoldingMinutes)
  let weekendGap ← weekendGapCost config symbol
    (countWeekendCrossings timestamp expectedHoldingMinutes)
  return {
    spread := spreadPerSide.scale 2
    slippage := slippageP50.scale 2
    commission := commissionPerSide.scale 2
    swap
    weekendGap }

/-! ## The counts against the instants in the window -/

def IsRollover (instant : Int) : Prop := Recurs day rolloverPhase instant

instance (instant : Int) : Decidable (IsRollover instant) :=
  inferInstanceAs (Decidable (Recurs day rolloverPhase instant))

def closing (start holdingMinutes : Int) : Int := start + Timestamp.fromMinutes holdingMinutes

/-- The 21:00 instants in `[start, stop)` that meet a condition. -/
def rollovers (wanted : Int → Prop) [DecidablePred wanted] (start stop : Int) : Nat :=
  occurrences day rolloverPhase wanted start stop

def nextRollover (instant : Int) : Int := nextRecurrence day rolloverPhase instant

theorem isRollover_rolloverOf (start : Int) : IsRollover (rolloverOf start) := by
  simp only [IsRollover, Recurs, rolloverOf, day, rolloverPhase, rolloverHourUtc]
  omega

theorem isRollover_sub_day {instant : Int} (rollover : IsRollover instant) :
    IsRollover (instant - day) := by
  simp only [IsRollover, Recurs, day] at rollover ⊢
  omega

theorem countRollovers_eq {candidate : Int} (stop : Int) (rollover : IsRollover candidate) :
    countRollovers candidate stop = rollovers (fun _ => True) candidate stop := by
  induction candidate using countRollovers.induct stop with
  | case1 candidate more ih =>
    rw [countRollovers, if_pos more, ih rollover.add_period]
    exact (occurrences_next (by decide) rollover more).symm
  | case2 candidate done =>
    rw [countRollovers, if_neg done]
    exact (occurrences_of_le (by omega)).symm

theorem stepBack_rolloverOf (start : Int) :
    stepBack (rolloverOf start) start =
      if start < rolloverOf start then rolloverOf start - day else rolloverOf start := by
  rw [stepBack]
  split
  · rw [stepBack, if_neg]
    simp only [rolloverOf, day, rolloverPhase, rolloverHourUtc]
    omega
  · rfl

theorem stepBack_spec (start : Int) :
    IsRollover (stepBack (rolloverOf start) start) ∧ stepBack (rolloverOf start) start ≤ start ∧
      start < stepBack (rolloverOf start) start + day := by
  have rollover := isRollover_rolloverOf start
  rw [stepBack_rolloverOf]
  split
  · rename_i ahead
    refine ⟨isRollover_sub_day rollover, ?_, by omega⟩
    simp only [rolloverOf, day, rolloverPhase, rolloverHourUtc]
    omega
  · rename_i passed
    refine ⟨rollover, by omega, ?_⟩
    simp only [rolloverOf, day, rolloverPhase, rolloverHourUtc]
    omega

theorem rollovers_after_stepBack (wanted : Int → Prop) [DecidablePred wanted] (start stop : Int)
    (more : start < stop) :
    rollovers wanted start stop =
      rollovers wanted (stepBack (rolloverOf start) start + day) stop +
        if IsRollover start ∧ wanted start then 1 else 0 := by
  obtain ⟨rollover, before, within⟩ := stepBack_spec start
  by_cases opens : IsRollover start
  · have same := rollover.unique opens before within
    have next : rollovers wanted start stop =
        rollovers wanted (start + day) stop + if wanted start then 1 else 0 :=
      occurrences_next (by decide) opens more
    rw [← same, next]
    simp only [opens, true_and]
  · rw [if_neg (fun both => opens both.1), Nat.add_zero]
    refine occurrences_eq_of_gap (by omega) (fun instant lower upper again => opens ?_)
    have same := rollover.unique again (by omega) upper
    rwa [show start = instant by omega]

/-- The loop also counts the first 21:00 that is not before the close. -/
theorem countWeekends_eq {start cursor : Int} (stop : Int) (rollover : IsRollover cursor)
    (within : start < cursor + day) :
    countWeekends start cursor stop = rollovers isFriday (cursor + day) stop +
      if cursor < stop ∧ isFriday (nextRollover stop) then 1 else 0 := by
  induction cursor using countWeekends.induct stop with
  | case1 cursor more ih =>
    have next : IsRollover (cursor + day) := rollover.add_period
    have positive : (0 : Int) < day := by decide
    rw [countWeekends, if_pos more, if_neg (by omega), ih next (by omega)]
    by_cases again : cursor + day < stop
    · have counted : rollovers isFriday (cursor + day) stop =
          rollovers isFriday (cursor + day + day) stop +
            if isFriday (cursor + day) then 1 else 0 :=
        occurrences_next positive next again
      rw [counted]
      simp only [again, more, true_and]
      omega
    · have last : nextRollover stop = cursor + day :=
        next.unique_in (recurs_nextRecurrence (by decide)) (by omega) (by omega)
          (le_nextRecurrence positive) (nextRecurrence_lt positive)
      rw [rollovers, rollovers, occurrences_of_le (by omega), occurrences_of_le (by omega), last]
      simp only [again, more, true_and, false_and, if_false]
      omega
  | case2 cursor done =>
    have positive : (0 : Int) < day := by decide
    rw [countWeekends, if_neg done, rollovers, occurrences_of_le (by omega),
      if_neg (fun both => done both.1)]

theorem closing_gt {start holdingMinutes : Int} (held : 0 < holdingMinutes) :
    start < closing start holdingMinutes := by
  simp only [closing, Timestamp.fromMinutes]
  omega

theorem countRolloverCrossings_add (start holdingMinutes : Int) (held : 0 < holdingMinutes) :
    countRolloverCrossings start holdingMinutes + (if IsRollover start then 1 else 0) =
      rollovers (fun _ => True) start (closing start holdingMinutes) := by
  have candidate : (if start < rolloverOf start then rolloverOf start else rolloverOf start + day) =
      stepBack (rolloverOf start) start + day := by
    rw [stepBack_rolloverOf]
    split <;> omega
  rw [countRolloverCrossings, if_neg (by omega)]
  simp only [candidate]
  rw [countRollovers_eq _ (stepBack_spec start).1.add_period,
    rollovers_after_stepBack _ start _ (closing_gt held)]
  simp only [closing, and_true]

/-- The weekend count leaves the opening out and takes one 21:00 too many in. -/
theorem countWeekendCrossings_add (start holdingMinutes : Int) (held : 0 < holdingMinutes) :
    countWeekendCrossings start holdingMinutes +
        (if IsRollover start ∧ isFriday start then 1 else 0) =
      rollovers isFriday start (closing start holdingMinutes) +
        if isFriday (nextRollover (closing start holdingMinutes)) then 1 else 0 := by
  obtain ⟨rollover, before, within⟩ := stepBack_spec start
  have opened : stepBack (rolloverOf start) start < closing start holdingMinutes :=
    lt_of_le_of_lt before (closing_gt held)
  have counted := countWeekends_eq (closing start holdingMinutes) rollover within
  rw [countWeekendCrossings, if_neg (by omega),
    rollovers_after_stepBack _ start _ (closing_gt held)]
  have counts_close : (if stepBack (rolloverOf start) start < closing start holdingMinutes ∧
      isFriday (nextRollover (closing start holdingMinutes)) then 1 else 0) =
      if isFriday (nextRollover (closing start holdingMinutes)) then 1 else 0 :=
    if_congr (and_iff_right opened) rfl rfl
  rw [counts_close] at counted
  simp only [closing] at counted ⊢
  rw [counted]
  omega

/-- The position is opened and closed between two rollovers. -/
def BetweenRollovers (start stop : Int) : Prop :=
  ∃ rollover, IsRollover rollover ∧ rollover < start ∧ stop < rollover + day

theorem rollovers_between {wanted : Int → Prop} [DecidablePred wanted] {start stop : Int}
    (forward : start < stop) (between : BetweenRollovers start stop) :
    rollovers wanted start stop = 0 := by
  obtain ⟨rollover, recurs, before, after⟩ := between
  have none_inside : occurrences day rolloverPhase wanted start stop =
      occurrences day rolloverPhase wanted stop stop := by
    refine occurrences_eq_of_gap (le_of_lt forward) (fun instant lower upper again => ?_)
    have same := recurs.unique again (by omega) (by omega)
    omega
  rw [rollovers, none_inside, occurrences_of_le (le_refl stop)]

theorem roundTripCost_charges {config : ExecutionCostConfig} {symbol : String} {side : Side}
    {timestamp holdingMinutes : Int} {volatile : Option Bool} {cost : RoundTripCost}
    (priced : roundTripCost config symbol side timestamp holdingMinutes volatile = .ok cost) :
    swapCost config symbol side (countRolloverCrossings timestamp holdingMinutes) =
        .ok cost.swap ∧
      weekendGapCost config symbol (countWeekendCrossings timestamp holdingMinutes) =
        .ok cost.weekendGap := by
  unfold roundTripCost at priced
  split at priced
  · cases priced
  obtain ⟨_, -, priced⟩ := bind_ok priced
  obtain ⟨_, -, priced⟩ := bind_ok priced
  obtain ⟨_, -, priced⟩ := bind_ok priced
  obtain ⟨_, -, priced⟩ := bind_ok priced
  obtain ⟨_, -, priced⟩ := bind_ok priced
  obtain ⟨_, -, priced⟩ := bind_ok priced
  obtain ⟨_, -, priced⟩ := bind_ok priced
  obtain ⟨_, -, priced⟩ := bind_ok priced
  obtain ⟨_, -, priced⟩ := bind_ok priced
  obtain ⟨_, -, priced⟩ := bind_ok priced
  obtain ⟨swap, swapped, priced⟩ := bind_ok priced
  obtain ⟨weekendGap, gapped, priced⟩ := bind_ok priced
  cases priced
  exact ⟨swapped, gapped⟩

/-- Both counts are the numbers of 21:00 instants in the half-open window, and
a position between two of them is charged for neither. -/
def CountsExact (start holdingMinutes : Int) : Prop :=
  countRolloverCrossings start holdingMinutes =
      rollovers (fun _ => True) start (closing start holdingMinutes) ∧
    countWeekendCrossings start holdingMinutes =
      rollovers isFriday start (closing start holdingMinutes) ∧
    (BetweenRollovers start (closing start holdingMinutes) →
      ∀ config symbol side volatile cost,
        roundTripCost config symbol side start holdingMinutes volatile = .ok cost →
        cost.swap = 0 ∧ cost.weekendGap = 0)

end FxToushi.Execution
