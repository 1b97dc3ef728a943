import FxToushi.Execution.Model

namespace FxToushi.Py.Extended

/-! # The larger and the smaller of two floats -/

theorem isNan_greater (first second : Extended) : (greater first second).isNan = first.isNan := by
  rw [greater]
  split
  · rename_i below
    cases first with
    | nan => exact absurd below not_nan_lt
    | _ =>
      cases second with
      | nan => exact absurd below not_lt_nan
      | _ => rfl
  · rfl

theorem isNan_lesser (first second : Extended) : (lesser first second).isNan = first.isNan := by
  rw [lesser]
  split
  · rename_i below
    cases first with
    | nan => exact absurd below not_lt_nan
    | _ =>
      cases second with
      | nan => exact absurd below not_nan_lt
      | _ => rfl
  · rfl

theorem isNan_abs (number : Extended) : number.abs.isNan = number.isNan := by
  cases number <;> rfl

theorem le_self {number : Extended} (isNumber : number.isNan = false) : number ≤ number :=
  (not_lt_iff isNumber isNumber).mp (not_lt_self number)

theorem le_greater_left {first : Extended} (isNumber : first.isNan = false) (second : Extended) :
    first ≤ greater first second := by
  rw [greater]
  split
  · exact le_of_lt ‹_›
  · exact le_self isNumber

theorem le_greater_right {first second : Extended} (firstNumber : first.isNan = false)
    (secondNumber : second.isNan = false) : second ≤ greater first second := by
  rw [greater]
  split
  · exact le_self secondNumber
  · exact (not_lt_iff firstNumber secondNumber).mp ‹_›

theorem finite_of_add {left right : Extended} {value : Rat}
    (summed : left + right = .finite value) :
    ∃ first second, left = .finite first ∧ right = .finite second ∧ value = first + second := by
  cases left with
  | finite first =>
    cases right with
    | finite second => exact ⟨first, second, rfl, rfl, (finite.inj summed).symm⟩
    | infinite negative => cases summed
    | nan => cases summed
  | infinite negative =>
    cases right with
    | finite second => cases summed
    | infinite other =>
      have sum : infinite negative + infinite other =
        if negative = other then infinite negative else .nan := rfl
      rw [sum] at summed
      split at summed <;> cases summed
    | nan => cases summed
  | nan => cases right <;> cases summed

theorem not_greater_lt (first second : Extended) : ¬ greater first second < first := by
  rw [greater]
  split
  · intro above
    exact not_lt_self first (lt_trans ‹_› above)
  · exact not_lt_self first

end FxToushi.Py.Extended

namespace FxToushi.Execution

open Data Py

/-! # How conservative the adjustments are

The two status words of a context are read last: they pick the fallbacks that
are added to adjustments planned without them.
-/

def statusKeys : List String := ["latency_data_status", "slippage_data_status"]

/-- Two contexts that differ in the status words at most. -/
structure ModeContext.SameButStatuses (context other : ModeContext) : Prop where
  extract : ∀ key default, key ∉ statusKeys →
    context.extract key default = other.extract key default
  samples : slippageSamples context = slippageSamples other

def ModeContext.latencyStatus (context : ModeContext) : Value :=
  context.extract "latency_data_status" (.str "ok")

def ModeContext.slippageStatus (context : ModeContext) : Value :=
  context.extract "slippage_data_status" (.str "ok")

/-- A status that stays, or gets worse by one. -/
inductive Worsens : Value → Value → Prop
  | stays (status : Value) : Worsens status status
  | degrades : Worsens (.str "ok") (.str "degraded")
  | halts : Worsens (.str "degraded") (.str "halt_recommended")

/-- Every observed slippage and rollover cost that is supplied, whether it is
looked at or not. -/
def suppliedCosts (marketSnapshot : Mapping) (context : ModeContext) : List Extended :=
  let items := fun value : Value => (iterate value).toOption.getD []
  let values := slippageReadings marketSnapshot context ++
      rolloverReadings marketSnapshot context ++
    items (spreadObservations marketSnapshot) ++ items (slippageSamples context)
  values.filterMap (fun value => (floatOf? value).toOption.join)

/-- The observed slippages that are charged: the first reading there is, and each
of the explicit ones. -/
def ChargedSlippage (marketSnapshot : Mapping) (context : ModeContext) (cost : Extended) : Prop :=
  resolveObservedSlippage marketSnapshot context = .ok (some cost) ∨
    ∃ value ∈ explicitReadings marketSnapshot context, floatOf? value = .ok (some cost)

namespace DeterministicExecutionModel

variable (model : DeterministicExecutionModel) (signal marketSnapshot : Mapping)
  (spreadState : SpreadInput) (context : ModeContext)

/-- What `adjust` does before the fallbacks. -/
def plan (prepared : Prepared) : Except ExecutionFault ExecutionAdjustments := do
  let (fillStyle, fillPolicy) ← resolveFillStyle prepared.entryConfig
  let stats ← resolveDelayStats model.config prepared.mode (entryAt signal "symbol")
  let seedOffset ← toInt ((stats.get? "seed_offset").getD (.int 0))
  let humanDelay ← model.applyHumanDelay stats prepared.mode (prepared.seed.xor seedOffset)
  let ttlBuffer ← model.resolveTtlBuffer (tableGet spreadTtlBucket prepared.spreadState "base")
  let ttlSeconds ← toWhole (ttlBuffer + humanDelay)
  let expectedEntry ← resolveExpectedEntry signal marketSnapshot
  let expectedSlippage ← model.expectedSlippage prepared
  return {
    expectedEntry, expectedSlippage, ttlSeconds, fillStyle, fillPolicy
    modeLabel := tableGet modeLabels prepared.entryMode prepared.entryMode }

def fallBack (planned : ExecutionAdjustments) : Except ExecutionFault ExecutionAdjustments := do
  let ttlSeconds ← model.applyTtlFallback planned.ttlSeconds context.latencyStatus
  let expectedSlippage ←
    model.applySlippageFallback planned.expectedSlippage context.slippageStatus
  return { planned with ttlSeconds, expectedSlippage }

def planned : Except ExecutionError ExecutionAdjustments :=
  match resolveSpreadState spreadState with
  | none => .error (.fault (.inputError "Spread state is required for execution"))
  | some state =>
    if state = "halt" then .error (.ruleViolation .spreadHalt)
    else do
      let prepared ← (model.prepare signal marketSnapshot context state).mapError .fault
      enforceSpread prepared.entryConfig prepared.spreadPips
      (model.plan signal marketSnapshot prepared).mapError .fault

theorem adjust_eq (prepared : Prepared) :
    model.adjust signal marketSnapshot context prepared =
      model.plan signal marketSnapshot prepared >>= model.fallBack context := by
  simp only [adjust, plan, bind_assoc, pure_bind]
  rfl

theorem apply_eq :
    model.apply signal marketSnapshot spreadState context =
      model.planned signal marketSnapshot spreadState context >>= fun planned =>
        (model.fallBack context planned).mapError .fault := by
  rw [apply, planned]
  cases resolveSpreadState spreadState with
  | none => rfl
  | some state =>
    dsimp only
    by_cases halted : state = "halt"
    · rw [if_pos halted, if_pos halted]
      rfl
    · rw [if_neg halted, if_neg halted]
      cases model.prepare signal marketSnapshot context state with
      | error fault => rfl
      | ok prepared =>
        cases enforced : enforceSpread prepared.entryConfig prepared.spreadPips with
        | error violation =>
          simp only [Except.mapError, enforced, bind, Except.bind]
        | ok passed =>
          simp only [Except.mapError, enforced, bind, Except.bind, adjust_eq]
          cases model.plan signal marketSnapshot prepared <;> rfl

/-! ## The TTL fallback -/

/-- What one degraded status adds to the TTL. -/
def ttlFallback : Except ExecutionFault Extended :=
  toFloat ((model.fallbacks.asMapping.get? "ttl_fallback_sec").getD (.int 0))

/-- The fallback, where it is read, is not negative. -/
def LengthensTtl : Prop := ∀ extra, model.ttlFallback = .ok extra → ¬ extra < 0

variable {model}

theorem toWhole_ok {number : Extended} {whole : Int} (rounded : toWhole number = .ok whole) :
    ∃ value, number = .finite value ∧ whole = roundHalfEven value := by
  cases number with
  | finite value => exact ⟨value, rfl, (Except.ok.inj rounded).symm⟩
  | infinite negative => cases rounded
  | nan => cases rounded

theorem applyTtlFallback_ok {ttlSeconds final : Int}
    (returned : model.applyTtlFallback ttlSeconds (.str "ok") = .ok final) :
    final = ttlSeconds := by
  rw [applyTtlFallback] at returned
  split at returned
  · have rounded : toWhole (.finite ((ttlSeconds : Rat) + 0)) = .ok final := returned
    obtain ⟨value, same, rfl⟩ := toWhole_ok rounded
    rw [← Extended.finite.inj same, add_zero, roundHalfEven_intCast]
  · exact (Except.ok.inj returned).symm

/-- A degraded word adds the fallback once, a recommended halt twice. -/
theorem applyTtlFallback_word {fallbacks : Mapping} {ttlSeconds final : Int} {word : String}
    (given : model.fallbacks = .map fallbacks) (degraded : isDegraded (.str word) = true)
    (returned : model.applyTtlFallback ttlSeconds (.str word) = .ok final) :
    ∃ extra, model.ttlFallback = .ok (.finite extra) ∧
      final = roundHalfEven (if isHaltRecommended (.str word) = true then
        ttlSeconds + extra + extra else ttlSeconds + extra) := by
  rw [applyTtlFallback, given] at returned
  dsimp only at returned
  rw [degraded, if_pos rfl] at returned
  obtain ⟨_, -, returned⟩ := bind_ok returned
  obtain ⟨extra, read, returned⟩ := bind_ok returned
  obtain ⟨value, summed, rfl⟩ := toWhole_ok returned
  have fallback : model.ttlFallback = .ok extra := by
    rw [ttlFallback, given]
    exact read
  split at summed
  · rename_i halts
    obtain ⟨_, extra, once, rfl, rfl⟩ := Extended.finite_of_add summed
    obtain ⟨_, _, same, again, rfl⟩ := Extended.finite_of_add once
    refine ⟨extra, fallback, ?_⟩
    rw [if_pos halts, Extended.finite.inj same, Extended.finite.inj again]
  · rename_i never
    obtain ⟨_, extra, same, rfl, rfl⟩ := Extended.finite_of_add summed
    refine ⟨extra, fallback, ?_⟩
    rw [if_neg never, Extended.finite.inj same]

theorem applyTtlFallback_absent {status : Value} {ttlSeconds final : Int}
    (other : ∀ fallbacks, model.fallbacks = .map fallbacks → False)
    (returned : model.applyTtlFallback ttlSeconds status = .ok final) : final = ttlSeconds := by
  rw [applyTtlFallback] at returned
  split at returned
  next fallbacks given => exact absurd given (other fallbacks)
  next => exact (Except.ok.inj returned).symm

theorem le_roundHalfEven_add {whole : Int} {extra : Rat} (nonneg : 0 ≤ extra) :
    whole ≤ roundHalfEven (whole + extra) := by
  have raised := roundHalfEven_mono (le_add_of_nonneg_right nonneg : (whole : Rat) ≤ whole + extra)
  rwa [roundHalfEven_intCast] at raised

theorem applyTtlFallback_worsens {ttlSeconds before after : Int} {calmer worse : Value}
    (lengthens : model.LengthensTtl) (worsens : Worsens calmer worse)
    (first : model.applyTtlFallback ttlSeconds calmer = .ok before)
    (second : model.applyTtlFallback ttlSeconds worse = .ok after) : before ≤ after := by
  by_cases table : ∃ fallbacks, model.fallbacks = .map fallbacks
  · obtain ⟨fallbacks, given⟩ := table
    cases worsens with
    | stays => exact (Except.ok.inj (first.symm.trans second)).le
    | degrades =>
      obtain rfl := applyTtlFallback_ok first
      obtain ⟨extra, read, rfl⟩ := applyTtlFallback_word given rfl second
      exact le_roundHalfEven_add
        (not_lt.mp (fun below => lengthens _ read (Extended.finite_lt_finite.mpr below)))
    | halts =>
      obtain ⟨extra, read, rfl⟩ := applyTtlFallback_word given rfl first
      obtain ⟨again, reread, rfl⟩ := applyTtlFallback_word given rfl second
      obtain rfl := Extended.finite.inj (Except.ok.inj (read.symm.trans reread))
      have nonneg : 0 ≤ extra :=
        not_lt.mp (fun below => lengthens _ read (Extended.finite_lt_finite.mpr below))
      exact roundHalfEven_mono (le_add_of_nonneg_right nonneg)
  · have other : ∀ fallbacks, model.fallbacks = .map fallbacks → False :=
      fun fallbacks given => table ⟨fallbacks, given⟩
    rw [applyTtlFallback_absent other first, applyTtlFallback_absent other second]

/-! ## The slippage fallback -/

theorem applySlippageFallback_cases {expected final : Extended} {status : Value}
    (returned : model.applySlippageFallback expected status = .ok final) :
    final = expected ∨ isDegraded status = true ∧ ∃ floor,
      floatOf? (entryAt model.fallbacks.asMapping "slippage_fallback_pips") = .ok (some floor) ∧
        final = .greater expected floor := by
  rw [applySlippageFallback] at returned
  split at returned
  · rename_i fallbacks given
    obtain ⟨read, found, returned⟩ := bind_ok returned
    cases read with
    | none => exact .inl (Except.ok.inj returned).symm
    | some floor =>
      obtain ⟨_, -, returned⟩ := bind_ok returned
      obtain rfl := Except.ok.inj returned
      split
      · rename_i degraded
        exact .inr ⟨degraded, floor, by rw [given]; exact found, rfl⟩
      · exact .inl rfl
  · exact .inl (Except.ok.inj returned).symm

/-! ## What is planned -/

variable {signal marketSnapshot : Mapping} {spreadState : SpreadInput} {context : ModeContext}

theorem foldl_greater_covers {values : List Extended} {start : Extended}
    (number : start.isNan = false) (numbers : ∀ value ∈ values, value.isNan = false) :
    (values.foldl (fun most value => Extended.greater most value.abs) start).isNan = false ∧
      start ≤ values.foldl (fun most value => Extended.greater most value.abs) start ∧
        ∀ value ∈ values,
          value.abs ≤ values.foldl (fun most value => Extended.greater most value.abs) start := by
  induction values generalizing start with
  | nil => exact ⟨number, Extended.le_self number, by simp⟩
  | cons value rest ih =>
    obtain ⟨here, later⟩ := List.forall_mem_cons.mp numbers
    have grown : (start.greater value.abs).isNan = false :=
      (Extended.isNan_greater start value.abs).trans number
    obtain ⟨final, most, each⟩ := ih grown later
    refine ⟨final, Extended.le_trans (Extended.le_greater_left number _) most, ?_⟩
    intro other member
    obtain rfl | member := List.mem_cons.mp member
    · exact Extended.le_trans
        (Extended.le_greater_right number ((Extended.isNan_abs other).trans here)) most
    · exact each other member

theorem largestOf_covers {values : List Extended}
    (numbers : ∀ value ∈ values, value.isNan = false) :
    (largestOf values).isNan = false ∧ ∀ value ∈ values, value.abs ≤ largestOf values := by
  cases values with
  | nil => exact ⟨rfl, by simp⟩
  | cons first rest =>
    obtain ⟨here, later⟩ := List.forall_mem_cons.mp numbers
    obtain ⟨final, most, each⟩ :=
      foldl_greater_covers ((Extended.isNan_abs first).trans here) later
    exact ⟨final, List.forall_mem_cons.mpr ⟨most, each⟩⟩

theorem mem_observedValues {observed : Option Extended} {values : List Extended}
    (resolved : resolveObservedSlippage marketSnapshot context = .ok observed)
    (valued : observedValues marketSnapshot context observed = .ok values) (cost : Extended) :
    cost ∈ values ↔ ChargedSlippage marketSnapshot context cost := by
  obtain ⟨explicit, mapped, returned⟩ := bind_ok valued
  obtain rfl := Except.ok.inj returned
  rw [ChargedSlippage, resolved, ← mem_of_tryMap mapped]
  simp [eq_comm]

theorem atLeast_covers {expected : Extended} (number : expected.isNan = false)
    (observed : Option Extended) :
    ((atLeast (some expected) observed).getD 0).isNan = false ∧
      expected ≤ (atLeast (some expected) observed).getD 0 ∧
        ∀ value, observed = some value → value.isNan = false →
          value ≤ (atLeast (some expected) observed).getD 0 := by
  cases observed with
  | none => exact ⟨number, Extended.le_self number, by simp⟩
  | some observed =>
    refine ⟨(Extended.isNan_greater _ _).trans number, Extended.le_greater_left number _, ?_⟩
    rintro value ⟨⟩ isNumber
    exact Extended.le_greater_right number isNumber

theorem applySpreadToSlippage_number {expected spreadPips spreading : Option Extended}
    {entryConfig : Mapping} {allowExceed : Bool} (configured : expected ≠ some .nan)
    (applied : applySpreadToSlippage expected spreadPips entryConfig allowExceed = .ok spreading) :
    (spreading.getD 0).isNan = false := by
  have number : (expected.getD 0).isNan = false := by
    cases expected with
    | none => rfl
    | some value =>
      cases value with
      | nan => exact absurd rfl configured
      | _ => rfl
  cases spreadPips with
  | none =>
    obtain rfl := Except.ok.inj applied
    exact number
  | some spread =>
    have wide : ((expected.getD 0).greater spread).isNan = false :=
      (Extended.isNan_greater _ _).trans number
    obtain ⟨cap, -, returned⟩ := bind_ok applied
    cases cap with
    | none =>
      obtain rfl := Except.ok.inj returned
      exact wide
    | some cap =>
      obtain rfl := Except.ok.inj returned
      cases allowExceed with
      | true => exact wide
      | false => exact (Extended.isNan_lesser _ _).trans wide

/-- Neither the slippage configured for the state of the spread nor one that is
charged is a float without a value. -/
structure Numbers (model : DeterministicExecutionModel) (marketSnapshot : Mapping)
    (spreadState : SpreadInput) (context : ModeContext) : Prop where
  configured : ∀ state, resolveSpreadState spreadState = some state →
    resolveExpectedSlippage model.config state ≠ .ok (some .nan)
  charged : ∀ cost, ChargedSlippage marketSnapshot context cost → cost.isNan = false

theorem expectedSlippage_covers {prepared : Prepared} {expected : Extended}
    (configured : resolveExpectedSlippage model.config prepared.spreadState ≠ .ok (some .nan))
    (largest : prepared.largest.isNan = false)
    (returned : model.expectedSlippage prepared = .ok expected) :
    prepared.largest ≤ expected ∧ ∀ cost, prepared.rollover = some cost → cost.isNan = false →
      cost.abs ≤ expected := by
  obtain ⟨base, found, returned⟩ := bind_ok returned
  obtain ⟨spreading, applied, returned⟩ := bind_ok returned
  obtain rfl := Except.ok.inj returned
  have number : (spreading.getD 0).isNan = false :=
    applySpreadToSlippage_number (fun same => configured (same ▸ found)) applied
  have observed : ((atLeast spreading prepared.observed).getD 0).isNan = false := by
    cases prepared.observed with
    | none => exact number
    | some value => exact (Extended.isNan_greater _ _).trans number
  obtain ⟨charged, above, -⟩ := atLeast_covers
    ((Extended.isNan_greater _ prepared.largest).trans observed)
    (prepared.rollover.map Extended.abs)
  obtain ⟨-, final, each⟩ := atLeast_covers charged (prepared.rollover.map Extended.abs)
  refine ⟨Extended.le_trans (Extended.le_greater_right observed largest)
    (Extended.le_trans above final), ?_⟩
  intro cost rollover isNumber
  exact each cost.abs (by rw [rollover]; rfl) ((Extended.isNan_abs cost).trans isNumber)

theorem plan_expectedSlippage {prepared : Prepared} {planned : ExecutionAdjustments}
    (returned : model.plan signal marketSnapshot prepared = .ok planned) :
    model.expectedSlippage prepared = .ok planned.expectedSlippage := by
  obtain ⟨_, -, returned⟩ := bind_ok returned
  obtain ⟨_, -, returned⟩ := bind_ok returned
  obtain ⟨_, -, returned⟩ := bind_ok returned
  obtain ⟨_, -, returned⟩ := bind_ok returned
  obtain ⟨_, -, returned⟩ := bind_ok returned
  obtain ⟨_, -, returned⟩ := bind_ok returned
  obtain ⟨_, -, returned⟩ := bind_ok returned
  obtain ⟨expected, found, built⟩ := bind_ok returned
  obtain rfl := Except.ok.inj built
  exact found

/-- A plan is made of what was read for it. -/
theorem planned_cases {planned : ExecutionAdjustments}
    (returned : model.planned signal marketSnapshot spreadState context = .ok planned) :
    ∃ state prepared, resolveSpreadState spreadState = some state ∧
      model.prepare signal marketSnapshot context state = .ok prepared ∧
        model.expectedSlippage prepared = .ok planned.expectedSlippage := by
  rw [DeterministicExecutionModel.planned] at returned
  split at returned
  · cases returned
  · rename_i state resolved
    split at returned
    · cases returned
    · obtain ⟨prepared, read, returned⟩ := bind_ok returned
      obtain ⟨_, -, returned⟩ := bind_ok returned
      refine ⟨state, prepared, resolved, ?_, ?_⟩
      · cases prepare : model.prepare signal marketSnapshot context state with
        | error fault =>
          rw [prepare] at read
          cases read
        | ok other =>
          rw [prepare] at read
          rw [Except.ok.inj read]
      · cases plan : model.plan signal marketSnapshot prepared with
        | error fault =>
          rw [plan] at returned
          cases returned
        | ok other =>
          rw [plan] at returned
          rw [← Except.ok.inj returned]
          exact plan_expectedSlippage plan

theorem prepare_readings {state : String} {prepared : Prepared}
    (read : model.prepare signal marketSnapshot context state = .ok prepared) :
    resolveObservedSlippage marketSnapshot context = .ok prepared.observed ∧
      resolveRolloverCost marketSnapshot context = .ok prepared.rollover ∧
        prepared.spreadState = state ∧ ∃ values,
          observedValues marketSnapshot context prepared.observed = .ok values ∧
            prepared.largest = largestOf values := by
  obtain ⟨seed, -, read⟩ := bind_ok read
  obtain ⟨observed, observes, read⟩ := bind_ok read
  obtain ⟨rollover, rolled, read⟩ := bind_ok read
  obtain ⟨values, valued, read⟩ := bind_ok read
  obtain ⟨spreadPips, -, read⟩ := bind_ok read
  obtain ⟨entryConfig, -, built⟩ := bind_ok read
  obtain rfl := Except.ok.inj built
  exact ⟨observes, rolled, rfl, values, valued, rfl⟩

theorem planned_covers {planned : ExecutionAdjustments}
    (numbers : model.Numbers marketSnapshot spreadState context)
    (returned : model.planned signal marketSnapshot spreadState context = .ok planned) :
    (∀ cost, ChargedSlippage marketSnapshot context cost → cost.abs ≤ planned.expectedSlippage) ∧
      ∀ cost, resolveRolloverCost marketSnapshot context = .ok (some cost) → cost.isNan = false →
        cost.abs ≤ planned.expectedSlippage := by
  obtain ⟨state, prepared, resolved, read, found⟩ := planned_cases returned
  obtain ⟨observes, rolled, rfl, values, valued, largest⟩ := prepare_readings read
  have listed := mem_observedValues observes valued
  obtain ⟨number, each⟩ := largestOf_covers
    (fun value member => numbers.charged value ((listed value).mp member))
  rw [← largest] at number each
  obtain ⟨most, rest⟩ := expectedSlippage_covers (numbers.configured _ resolved) number found
  refine ⟨fun cost charged => Extended.le_trans (each cost ((listed cost).mpr charged)) most, ?_⟩
  intro cost taken isNumber
  exact rest cost (Except.ok.inj (rolled.symm.trans taken)) isNumber

theorem planned_congr {other : ModeContext} (same : context.SameButStatuses other) :
    model.planned signal marketSnapshot spreadState context =
      model.planned signal marketSnapshot spreadState other := by
  obtain ⟨extract, samples⟩ := same
  have explicit : explicitReadings marketSnapshot context =
      explicitReadings marketSnapshot other := by
    rw [explicitReadings, explicitReadings, extract "observed_slippage_pips" _ (by decide)]
  have observes : resolveObservedSlippage marketSnapshot context =
      resolveObservedSlippage marketSnapshot other := by
    simp only [resolveObservedSlippage, slippageReadings, explicit, sampledSlippage, samples]
  have rolls : resolveRolloverCost marketSnapshot context =
      resolveRolloverCost marketSnapshot other := by
    simp only [resolveRolloverCost, rolloverReadings, extract "rollover_pips" _ (by decide)]
  have prepares : ∀ state, model.prepare signal marketSnapshot context state =
      model.prepare signal marketSnapshot other state := by
    intro state
    simp only [prepare, observes, rolls, observedValues, explicit,
      extract "deterministic_seed" _ (by decide), extract "mode" _ (by decide)]
  simp only [DeterministicExecutionModel.planned, prepares]

/-! ## The adjustments -/

/-- The expected slippage covers what is charged, and a worse status lowers neither it
nor, unless the TTL fallback is negative, the TTL. -/
structure Conservative (model : DeterministicExecutionModel) (signal marketSnapshot : Mapping)
    (spreadState : SpreadInput) (context : ModeContext) : Prop where
  covers : model.Numbers marketSnapshot spreadState context → ∀ adjustments,
    model.apply signal marketSnapshot spreadState context = .ok adjustments →
      ∀ cost, ChargedSlippage marketSnapshot context cost →
        cost.abs ≤ adjustments.expectedSlippage
  coversRollover : model.Numbers marketSnapshot spreadState context → ∀ adjustments,
    model.apply signal marketSnapshot spreadState context = .ok adjustments →
      ∀ cost, resolveRolloverCost marketSnapshot context = .ok (some cost) →
        cost.isNan = false → cost.abs ≤ adjustments.expectedSlippage
  worsens : ∀ worse, context.SameButStatuses worse →
    Worsens context.latencyStatus worse.latencyStatus →
      Worsens context.slippageStatus worse.slippageStatus → ∀ before after,
        model.apply signal marketSnapshot spreadState context = .ok before →
          model.apply signal marketSnapshot spreadState worse = .ok after →
            ¬ after.expectedSlippage < before.expectedSlippage ∧
              (model.LengthensTtl → before.ttlSeconds ≤ after.ttlSeconds)

theorem apply_ok_iff {adjustments : ExecutionAdjustments} :
    model.apply signal marketSnapshot spreadState context = .ok adjustments ↔
      ∃ planned, model.planned signal marketSnapshot spreadState context = .ok planned ∧
        model.fallBack context planned = .ok adjustments := by
  rw [apply_eq, bind_ok_iff]
  refine exists_congr fun planned => and_congr_right fun _ => ?_
  cases model.fallBack context planned <;> simp [Except.mapError]

theorem fallBack_ok {planned adjustments : ExecutionAdjustments}
    (returned : model.fallBack context planned = .ok adjustments) :
    model.applyTtlFallback planned.ttlSeconds context.latencyStatus = .ok adjustments.ttlSeconds ∧
      model.applySlippageFallback planned.expectedSlippage context.slippageStatus =
        .ok adjustments.expectedSlippage := by
  obtain ⟨ttlSeconds, lengthened, returned⟩ := bind_ok returned
  obtain ⟨expected, floored, built⟩ := bind_ok returned
  obtain rfl := Except.ok.inj built
  exact ⟨lengthened, floored⟩

theorem le_applySlippageFallback {expected final bound : Extended} {status : Value}
    (returned : model.applySlippageFallback expected status = .ok final)
    (below : bound ≤ expected) : bound ≤ final := by
  obtain rfl | ⟨-, floor, -, rfl⟩ := applySlippageFallback_cases returned
  · exact below
  · have number : expected.isNan = false := by
      cases expected with
      | nan => exact absurd below Extended.not_le_nan
      | _ => rfl
    exact Extended.le_trans below (Extended.le_greater_left number floor)

theorem applySlippageFallback_worsens {expected before after : Extended} {calmer worse : Value}
    (worsens : Worsens calmer worse)
    (first : model.applySlippageFallback expected calmer = .ok before)
    (second : model.applySlippageFallback expected worse = .ok after) : ¬ after < before := by
  cases worsens with
  | stays =>
    rw [Except.ok.inj (first.symm.trans second)]
    exact Extended.not_lt_self after
  | degrades =>
    obtain rfl | ⟨calm, -⟩ := applySlippageFallback_cases first
    · obtain rfl | ⟨-, floor, -, rfl⟩ := applySlippageFallback_cases second
      · exact Extended.not_lt_self _
      · exact Extended.not_greater_lt _ floor
    · cases calm
  | halts =>
    have same : model.applySlippageFallback expected (.str "halt_recommended") =
      model.applySlippageFallback expected (.str "degraded") := rfl
    rw [Except.ok.inj (first.symm.trans (same.symm.trans second))]
    exact Extended.not_lt_self after

end DeterministicExecutionModel

end FxToushi.Execution
