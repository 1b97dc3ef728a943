import FxToushi.Execution.Cost

namespace FxToushi.Execution

open Data Py

/-! # Signs of the round-trip cost

Which configured numbers make every component of the cost non-negative and
their total positive.
-/

/-- The numbers the configuration gives for one round trip; the last two are
only read when a rollover or a weekend is crossed. -/
structure Rates where
  spreadPerSide : Extended
  slippageP50 : Extended
  commissionPerSide : Extended
  perNight : Option Extended
  premium : Option Extended

def perNightRate (config : ExecutionCostConfig) (symbol : String) (side : Side) (nights : Nat) :
    Except CostError (Option Extended) :=
  if 0 < nights then do
    let swapSymbol ← symbolBucket (← section? config "swap") symbol
    let perNight ← requireFloat swapSymbol (side.label ++ "_per_night") ("swap." ++ symbol)
    return some perNight
  else return none

def premiumRate (config : ExecutionCostConfig) (symbol : String) (weekends : Nat) :
    Except CostError (Option Extended) :=
  if 0 < weekends then do
    let weekendSymbol ← symbolBucket (← section? config "weekend_gap") symbol
    let premium ← requireFloat weekendSymbol "premium" ("weekend_gap." ++ symbol)
    return some premium
  else return none

def configuredRates (config : ExecutionCostConfig) (symbol : String) (side : Side)
    (session : String) (volatile : Option Bool) (nights weekends : Nat) :
    Except CostError Rates := do
  let spreadSymbol ← symbolBucket (← section? config "spread") symbol
  let spreadPerSide ← requireFloat spreadSymbol session ("spread." ++ symbol)
  let slippageSymbol ← symbolBucket (← section? config "slippage") symbol
  let modeKey := if volatile.getD (session == "off_hours") then "volatile" else "base"
  let bucket ← slippageBucket slippageSymbol symbol modeKey
  let slippageP50 ← requireFloat bucket "p50" ("slippage." ++ symbol ++ "." ++ modeKey)
  let commissionSymbol ← symbolBucket (← section? config "commission") symbol
  let commissionPerSide ← requireFloat commissionSymbol "per_side" ("commission." ++ symbol)
  let perNight ← perNightRate config symbol side nights
  let premium ← premiumRate config symbol weekends
  return { spreadPerSide, slippageP50, commissionPerSide, perNight, premium }

def swapCharge (nights : Nat) : Option Extended → Extended
  | none => 0
  | some perNight => (Extended.greater 0 (-perNight)).scale nights

def weekendCharge (weekends : Nat) : Option Extended → Extended
  | none => 0
  | some premium => premium.scale weekends

def Rates.charge (rates : Rates) (nights weekends : Nat) : RoundTripCost where
  spread := rates.spreadPerSide.scale 2
  slippage := rates.slippageP50.scale 2
  commission := rates.commissionPerSide.scale 2
  swap := swapCharge nights rates.perNight
  weekendGap := weekendCharge weekends rates.premium

theorem swapCost_eq (config : ExecutionCostConfig) (symbol : String) (side : Side) (nights : Nat) :
    swapCost config symbol side nights =
      swapCharge nights <$> perNightRate config symbol side nights := by
  by_cases crossed : 0 < nights
  · simp only [swapCost, perNightRate, if_pos crossed, map_bind, map_pure, swapCharge]
  · simp only [swapCost, perNightRate, if_neg crossed, map_pure, swapCharge]

theorem weekendGapCost_eq (config : ExecutionCostConfig) (symbol : String) (weekends : Nat) :
    weekendGapCost config symbol weekends =
      weekendCharge weekends <$> premiumRate config symbol weekends := by
  by_cases crossed : 0 < weekends
  · simp only [weekendGapCost, premiumRate, if_pos crossed, map_bind, map_pure, weekendCharge]
  · simp only [weekendGapCost, premiumRate, if_neg crossed, map_pure, weekendCharge]

section RoundTrip

variable (config : ExecutionCostConfig) (symbol : String) (side : Side)
  (timestamp expectedHoldingMinutes : Int) (volatile : Option Bool)

/-- The rates a round trip reads. -/
def ratesOf : Except CostError Rates :=
  configuredRates config symbol side (sessionForTimestamp timestamp) volatile
    (countRolloverCrossings timestamp expectedHoldingMinutes)
    (countWeekendCrossings timestamp expectedHoldingMinutes)

theorem roundTripCost_eq :
    roundTripCost config symbol side timestamp expectedHoldingMinutes volatile =
      if expectedHoldingMinutes < 0 then
        .error (.valueError "expected_holding_minutes must be non-negative")
      else (fun rates : Rates => rates.charge
          (countRolloverCrossings timestamp expectedHoldingMinutes)
          (countWeekendCrossings timestamp expectedHoldingMinutes)) <$>
        ratesOf config symbol side timestamp expectedHoldingMinutes volatile := by
  unfold roundTripCost
  split
  · rfl
  · simp only [ratesOf, configuredRates, map_bind, map_pure, swapCost_eq, weekendGapCost_eq,
      bind_map_left]
    rfl

end RoundTrip

/-! ## What the rates come to -/

def RoundTripCost.Positive (cost : RoundTripCost) : Prop :=
  0 ≤ cost.spread ∧ 0 ≤ cost.slippage ∧ 0 ≤ cost.commission ∧ 0 ≤ cost.swap ∧
    0 ≤ cost.weekendGap ∧ 0 < cost.total

/-- No rate that is charged is negative or not a number, and one of them is
charged: a swap only where the position pays it. -/
def Rates.Charging (rates : Rates) : Prop :=
  0 ≤ rates.spreadPerSide ∧ 0 ≤ rates.slippageP50 ∧ 0 ≤ rates.commissionPerSide ∧
    (∀ premium ∈ rates.premium, 0 ≤ premium) ∧
    (0 < rates.spreadPerSide ∨ 0 < rates.slippageP50 ∨ 0 < rates.commissionPerSide ∨
      (∃ perNight ∈ rates.perNight, perNight < 0) ∨ ∃ premium ∈ rates.premium, 0 < premium)

/-- The last two rates are only read for a crossing. -/
def Rates.ReadFor (rates : Rates) (nights weekends : Nat) : Prop :=
  (rates.perNight.isSome → 0 < nights) ∧ (rates.premium.isSome → 0 < weekends)

theorem swapCharge_signs {nights : Nat} {perNight : Option Extended}
    (read : perNight.isSome → 0 < nights) :
    0 ≤ swapCharge nights perNight ∧
      (0 < swapCharge nights perNight ↔ ∃ rate ∈ perNight, rate < 0) := by
  cases perNight with
  | none => exact ⟨Extended.nonneg_zero, by simp [swapCharge, Extended.not_pos_zero]⟩
  | some rate =>
    have crossed : (0 : Rat) < nights := Nat.cast_pos.mpr (read rfl)
    simp only [swapCharge, Extended.nonneg_scale_iff crossed, Extended.pos_scale_iff crossed,
      Extended.pos_greater_zero_iff, Extended.pos_neg_iff, Extended.nonneg_greater_zero,
      Option.mem_some_iff, exists_eq_left', and_self]

theorem weekendCharge_signs {weekends : Nat} {premium : Option Extended}
    (read : premium.isSome → 0 < weekends) :
    (0 ≤ weekendCharge weekends premium ↔ ∀ rate ∈ premium, 0 ≤ rate) ∧
      (0 < weekendCharge weekends premium ↔ ∃ rate ∈ premium, 0 < rate) := by
  cases premium with
  | none => simp [weekendCharge, Extended.nonneg_zero, Extended.not_pos_zero]
  | some rate =>
    have crossed : (0 : Rat) < weekends := Nat.cast_pos.mpr (read rfl)
    simp only [weekendCharge, Extended.nonneg_scale_iff crossed,
      Extended.pos_scale_iff crossed, Option.mem_some_iff, forall_eq', exists_eq_left', and_self]

theorem RoundTripCost.total_pos_iff {cost : RoundTripCost} (spread : 0 ≤ cost.spread)
    (slippage : 0 ≤ cost.slippage) (commission : 0 ≤ cost.commission) (swap : 0 ≤ cost.swap)
    (weekendGap : 0 ≤ cost.weekendGap) :
    0 < cost.total ↔ 0 < cost.spread ∨ 0 < cost.slippage ∨ 0 < cost.commission ∨
      0 < cost.swap ∨ 0 < cost.weekendGap := by
  obtain ⟨two, positiveTwo⟩ := Extended.add_signs spread slippage
  obtain ⟨three, positiveThree⟩ := Extended.add_signs two commission
  obtain ⟨four, positiveFour⟩ := Extended.add_signs three swap
  obtain ⟨-, positiveFive⟩ := Extended.add_signs four weekendGap
  rw [RoundTripCost.total, positiveFive, positiveFour, positiveThree, positiveTwo]
  simp only [or_assoc]

theorem Rates.charge_positive_iff {rates : Rates} {nights weekends : Nat}
    (read : rates.ReadFor nights weekends) :
    (rates.charge nights weekends).Positive ↔ rates.Charging := by
  have two : (0 : Rat) < 2 := zero_lt_two
  obtain ⟨swapNonneg, swapPos⟩ := swapCharge_signs read.1
  obtain ⟨gapNonneg, gapPos⟩ := weekendCharge_signs read.2
  rw [RoundTripCost.Positive, Rates.Charging, ← gapNonneg, ← swapPos, ← gapPos,
    ← Extended.nonneg_scale_iff two rates.spreadPerSide,
    ← Extended.nonneg_scale_iff two rates.slippageP50,
    ← Extended.nonneg_scale_iff two rates.commissionPerSide,
    ← Extended.pos_scale_iff two rates.spreadPerSide,
    ← Extended.pos_scale_iff two rates.slippageP50,
    ← Extended.pos_scale_iff two rates.commissionPerSide]
  constructor
  · intro positive
    obtain ⟨spread, slippage, commission, swap, weekendGap, total⟩ := positive
    exact ⟨spread, slippage, commission, weekendGap,
      (RoundTripCost.total_pos_iff spread slippage commission swap weekendGap).mp total⟩
  · intro charging
    obtain ⟨spread, slippage, commission, weekendGap, some_positive⟩ := charging
    have total : 0 < (rates.charge nights weekends).total :=
      (RoundTripCost.total_pos_iff spread slippage commission swapNonneg weekendGap).mpr
        some_positive
    exact ⟨spread, slippage, commission, swapNonneg, weekendGap, total⟩

/-! ## What the lookups can fail with -/

/-- A missing number, or one of another shape, a table or bucket that is no
mapping, or an integer that is too large. -/
def LookupError : CostError → Prop
  | .costConfigError _ => True
  | .overflowError => True
  | .python _ => True
  | _ => False

theorem failsWith_python {Image : Type} (result : Except PyError Image) :
    FailsWith LookupError (result.mapError CostError.python) := by
  cases result with
  | error error => exact .error trivial
  | ok image => exact .ok image

theorem symbolBucket_fails (table : Value) (symbol : String) :
    FailsWith LookupError (symbolBucket table symbol) := by
  apply (failsWith_python _).bind
  intro found
  cases found with
  | some bucket => exact failsWith_python _
  | none =>
    apply (failsWith_python _).bind
    intro fallback
    cases fallback with
    | some bucket => exact failsWith_python _
    | none => exact .error trivial

theorem requireFloat_fails (container : Mapping) (key context : String) :
    FailsWith LookupError (requireFloat container key context) := by
  unfold requireFloat
  split
  · exact .error trivial
  · split
    · exact .ok _
    · exact .error trivial
  · exact .ok _
  · exact .error trivial

theorem slippageBucket_fails (bucket : Mapping) (symbol modeKey : String) :
    FailsWith LookupError (slippageBucket bucket symbol modeKey) := by
  unfold slippageBucket
  split
  · exact .error trivial
  · exact .ok _
  · exact .error trivial

def HasSections (config : ExecutionCostConfig) : Prop :=
  ∀ name ∈ requiredSections, (config.raw.get? name).isSome

theorem hasSections_of_accepted {path : String} {document : Option (Except String Value)}
    {config : ExecutionCostConfig}
    (accepted : loadExecutionCostConfig path document = .ok config) : HasSections config := by
  unfold loadExecutionCostConfig at accepted
  split at accepted
  · cases accepted
  · cases accepted
  · rename_i data
    dsimp only at accepted
    split at accepted
    · cases accepted
    · rename_i complete
      cases accepted
      intro name required
      have present := List.filter_eq_nil_iff.mp (not_not.mp complete) name required
      cases found : Mapping.get? data name with
      | none => simp [found] at present
      | some table => rfl
  · cases accepted

theorem section_fails {config : ExecutionCostConfig} (sections : HasSections config)
    {name : String} (required : name ∈ requiredSections) :
    FailsWith LookupError (section? config name) := by
  obtain ⟨table, found⟩ := Option.isSome_iff_exists.mp (sections name required)
  rw [section?, found]
  exact .ok table

theorem configuredRates_fails {config : ExecutionCostConfig} (sections : HasSections config)
    (symbol : String) (side : Side) (session : String) (volatile : Option Bool)
    (nights weekends : Nat) :
    FailsWith LookupError
      (configuredRates config symbol side session volatile nights weekends) := by
  apply (section_fails sections (by decide)).bind
  intro spreadTable
  apply (symbolBucket_fails _ _).bind
  intro spreadSymbol
  apply (requireFloat_fails _ _ _).bind
  intro spreadPerSide
  apply (section_fails sections (by decide)).bind
  intro slippageTable
  apply (symbolBucket_fails _ _).bind
  intro slippageSymbol
  apply (slippageBucket_fails _ _ _).bind
  intro bucket
  apply (requireFloat_fails _ _ _).bind
  intro slippageP50
  apply (section_fails sections (by decide)).bind
  intro commissionTable
  apply (symbolBucket_fails _ _).bind
  intro commissionSymbol
  apply (requireFloat_fails _ _ _).bind
  intro commissionPerSide
  apply FailsWith.bind
  · unfold perNightRate
    split
    · apply (section_fails sections (by decide)).bind
      intro swapTable
      apply (symbolBucket_fails _ _).bind
      intro swapSymbol
      apply (requireFloat_fails _ _ _).bind
      intro perNight
      exact .ok _
    · exact .ok _
  · intro perNight
    apply FailsWith.bind
    · unfold premiumRate
      split
      · apply (section_fails sections (by decide)).bind
        intro weekendTable
        apply (symbolBucket_fails _ _).bind
        intro weekendSymbol
        apply (requireFloat_fails _ _ _).bind
        intro premium
        exact .ok _
      · exact .ok _
    · intro premium
      exact .ok _

theorem configuredRates_readFor {config : ExecutionCostConfig} {symbol : String} {side : Side}
    {session : String} {volatile : Option Bool} {nights weekends : Nat} {rates : Rates}
    (configured :
      configuredRates config symbol side session volatile nights weekends = .ok rates) :
    rates.ReadFor nights weekends := by
  obtain ⟨_, -, configured⟩ := bind_ok configured
  obtain ⟨_, -, configured⟩ := bind_ok configured
  obtain ⟨_, -, configured⟩ := bind_ok configured
  obtain ⟨_, -, configured⟩ := bind_ok configured
  obtain ⟨_, -, configured⟩ := bind_ok configured
  obtain ⟨_, -, configured⟩ := bind_ok configured
  obtain ⟨_, -, configured⟩ := bind_ok configured
  obtain ⟨_, -, configured⟩ := bind_ok configured
  obtain ⟨_, -, configured⟩ := bind_ok configured
  obtain ⟨_, -, configured⟩ := bind_ok configured
  obtain ⟨perNight, swapped, configured⟩ := bind_ok configured
  obtain ⟨premium, gapped, configured⟩ := bind_ok configured
  cases configured
  constructor
  · intro read
    by_contra never
    rw [perNightRate, if_neg never] at swapped
    cases swapped
    cases read
  · intro read
    by_contra never
    rw [premiumRate, if_neg never] at gapped
    cases gapped
    cases read

/-! ## When the cost is positive -/

/-- The call raises a configuration error or returns a positive cost. -/
def PositiveOrRefused (result : Except CostError RoundTripCost) : Prop :=
  match result with
  | .ok cost => cost.Positive
  | .error (.costConfigError _) => True
  | .error _ => False

/-- The first lookup that fails is missing a number or finds one of another
type; no table or bucket is of another shape and no integer is too large. -/
def WellShaped (rates : Except CostError Rates) : Prop :=
  (∀ error, rates ≠ .error (.python error)) ∧ rates ≠ .error .overflowError

def spreadOnly (spread : Value) : Mapping :=
  [("spread", .map [("default", .map [("asia", spread)])]),
    ("slippage", .map [("default", .map [("base", .map [("p50", .float 0 "0.0")])])]),
    ("commission", .map [("default", .map [("per_side", .float 0 "0.0")])]),
    ("swap", .map []), ("weekend_gap", .map [])]

def spreadOnlyRates (spread : Extended) : Rates where
  spreadPerSide := spread
  slippageP50 := .finite 0
  commissionPerSide := .finite 0
  perNight := none
  premium := none

end FxToushi.Execution
