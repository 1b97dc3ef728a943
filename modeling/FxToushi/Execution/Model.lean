import FxToushi.Execution.Spread
import FxToushi.Py.ExtendedRanges
import Mathlib.Data.Int.Bitwise

namespace FxToushi.Execution

open Data Py

/-! # The deterministic execution model

A signal is turned into adjustments in three steps: the inputs are read, the
spread is held against the limit of the entry mode, and the adjustments are
computed.  Signals and contexts are objects whose attributes are values.
-/

/-- What reading inputs and computing adjustments may raise. -/
inductive ExecutionFault where
  | configError (message : String)
  | inputError (message : String)
  | python (error : PyError)
deriving Repr, DecidableEq

inductive RuleViolation where
  | spreadHalt
  | spreadExceeds (spreadPips maxSpreadPips : Extended)
deriving Repr, DecidableEq

inductive ExecutionError where
  | fault (fault : ExecutionFault)
  | ruleViolation (violation : RuleViolation)
deriving Repr, DecidableEq

inductive FillStyle where
  | ioc
  | fok
  | gtd
deriving Repr, DecidableEq

inductive FillPolicy where
  | style (style : FillStyle)
  | day
deriving Repr, DecidableEq

structure ExecutionAdjustments where
  expectedEntry : Option Extended
  expectedSlippage : Extended
  ttlSeconds : Int
  fillStyle : FillStyle
  fillPolicy : FillPolicy
  modeLabel : String
deriving Repr, DecidableEq

inductive ModeContext where
  | absent
  | mapping (entries : Mapping)
  | object (attributes : Mapping)

/-- What a caller passes for the spread: a monitor's state, or any other value. -/
inductive SpreadInput where
  | state (state : SpreadState)
  | value (value : Value)

/-! ## Configuration -/

/-- An integer of any size is compared as it is. -/
def isNumber : Value → Option Extended
  | .bool value => some (.finite (if value then 1 else 0))
  | .int value => some (.finite value)
  | .float value text => some (.read value text)
  | _ => none

def toInt (value : Value) : Except ExecutionFault Int := value.toInt.mapError .python

def toFloat (value : Value) : Except ExecutionFault Extended := value.toFloat.mapError .python

/-- `get(key)`. -/
def entryAt (mapping : Mapping) (key : String) : Value := (mapping.get? key).getD .null

/-- The text of `float(value)` of a number. -/
def floatText : Value → String
  | .bool value => if value then "1.0" else "0.0"
  | .int value => toString value ++ ".0"
  | value => value.text

def requireMapping (value : Option Value) (message : String) : Except ExecutionFault Mapping :=
  match value with
  | some (.map entries) => .ok entries
  | _ => .error (.configError message)

def requireDelay (stats : Mapping) (context key : String) : Except ExecutionFault Unit :=
  match isNumber (entryAt stats key) with
  | none => .error (.configError (context ++ " must define numeric '" ++ key ++ "'"))
  | some value =>
    if value < 0 then .error (.configError (context ++ "." ++ key ++ " must be non-negative"))
    else .ok ()

def validateDelayStats (stats : Mapping) (context : String) : Except ExecutionFault Unit := do
  ["min", "p50", "p95"].forM (requireDelay stats context)
  let minimum ← toFloat (entryAt stats "min")
  let median ← toFloat (entryAt stats "p50")
  let tail ← toFloat (entryAt stats "p95")
  let shown := fun key => floatText (entryAt stats key)
  if minimum ≤ median ∧ median ≤ tail then return ()
  else throw (.configError (context ++ " must satisfy min <= p50 <= p95 (got " ++
    shown "min" ++ ", " ++ shown "p50" ++ ", " ++ shown "p95" ++ ")"))

def validateTtlBucket (ttlDefaults : Mapping) (bucket : String) : Except ExecutionFault Unit :=
  match isNumber (entryAt ttlDefaults bucket) with
  | none => .error (.configError ("ttl_seconds bucket '" ++ bucket ++ "' must be a numeric value"))
  | some value =>
    if value < 0 then .error (.configError "ttl_seconds buckets must be non-negative")
    else .ok ()

/-- Reading a key of something that is not a mapping is no configuration error. -/
def validateFallback (fallbacks : Value) (key : String) : Except ExecutionFault Unit :=
  match fallbacks with
  | .map entries =>
    match isNumber (entryAt entries key) with
    | none => .error (.configError
        ("defaults.fallbacks." ++ key ++ " must be numeric when provided"))
    | some _ => .ok ()
  | _ => .error (.python .attributeError)

def validateEntryMode (entryDefaults : Mapping) (entryMode : String) : Except ExecutionFault Unit :=
  match entryDefaults.get? entryMode with
  | none => .error (.configError
      ("entry_modes missing required configuration for '" ++ entryMode ++ "'"))
  | some _ => .ok ()

def validateDelayMode (delayDefaults : Mapping) (mode : String) : Except ExecutionFault Unit := do
  let stats ← requireMapping (delayDefaults.get? mode)
    ("human_delay_seconds missing '" ++ mode ++ "' distribution")
  validateDelayStats stats ("human_delay_seconds." ++ mode)

def validateConfig (config : Value) : Except ExecutionFault Unit := do
  let config ← requireMapping (some config) "Execution model config must be a mapping"
  match config.get? "schema_version" with
  | some (.str "execution.model.v1") => pure ()
  | _ => throw (.configError
      "Execution model config must declare schema_version 'execution.model.v1'")
  let defaults ← requireMapping (config.get? "defaults")
    "Execution model config missing defaults mapping"
  let delayDefaults ← requireMapping (defaults.get? "human_delay_seconds")
    "defaults.human_delay_seconds must be provided"
  ["backtest", "paper", "live"].forM (validateDelayMode delayDefaults)
  let ttlDefaults ← requireMapping (defaults.get? "ttl_seconds")
    "defaults.ttl_seconds must be provided"
  ["base", "fast_path", "slow_path"].forM (validateTtlBucket ttlDefaults)
  let fallbacks := (defaults.get? "fallbacks").getD (.map [])
  if fallbacks.truth then
    ["slippage_fallback_pips", "ttl_fallback_sec"].forM (validateFallback fallbacks)
  let entryDefaults ← requireMapping (defaults.get? "entry_modes")
    "defaults.entry_modes must be provided"
  ["market", "marketable_limit", "limit_requote"].forM (validateEntryMode entryDefaults)

/-- A model exists for valid configurations only.  `uniform` is the first draw
of the generator of a seed. -/
structure DeterministicExecutionModel where
  config : Mapping
  valid : validateConfig (.map config) = .ok ()
  uniform : Int → Rat
  sqrt : Rat → Rat

/-! ## Reading the inputs -/

def ModeContext.extract (context : ModeContext) (key : String) (default : Value) : Value :=
  match context with
  | .absent => default
  | .mapping entries => (entries.get? key).getD default
  | .object attributes => (attributes.get? key).getD default

/-- `float(value)`, where `None` and what does not convert are passed over.  An
integer too large for a float is not. -/
def floatOf? (value : Value) : Except ExecutionFault (Option Extended) :=
  match value.toFloat with
  | .ok number => .ok (some number)
  | .error .typeError => .ok none
  | .error .valueError => .ok none
  | .error error => .error (.python error)

/-- The first value that converts. -/
def firstFloat : List Value → Except ExecutionFault (Option Extended)
  | [] => .ok none
  | value :: rest => do
      match ← floatOf? value with
      | some number => return some number
      | none => firstFloat rest

/-- The floats, unless one of the values does not convert. -/
def floats : List Value → Except ExecutionFault (Option (List Extended))
  | [] => .ok (some [])
  | value :: rest => do
      match ← floatOf? value with
      | some number => return (← floats rest).map (number :: ·)
      | none => return none

def resolveSpreadState : SpreadInput → Option String
  | .state state => some state.state.text
  | .value .null => none
  | .value (.map entries) => (Mapping.given? entries "state").map Value.text
  | .value value => some value.text

def logReadings (marketSnapshot : Mapping) (logKey : String) (keys : List String) : List Value :=
  match marketSnapshot.get? logKey with
  | some (.map entries) => keys.map (entryAt entries)
  | _ => []

def isNone : Value → Bool
  | .null => true
  | _ => false

/-- `max(abs(value) for value in values)`, and nothing of no values. -/
def largestOf : List Extended → Extended
  | [] => 0
  | first :: rest => rest.foldl (fun most value => Extended.greater most value.abs) first.abs

def spreadObservations (marketSnapshot : Mapping) : Value :=
  orValue (entryAt marketSnapshot "spread_observations") (entryAt marketSnapshot "spread_history")

/-- The largest of the spreads observed. -/
def observedSpread (marketSnapshot : Mapping) : Except ExecutionFault (Option Extended) :=
  match iterate (spreadObservations marketSnapshot) with
  | .error _ => .ok none
  | .ok items => do
      match ← floats (items.filter (fun item => !isNone item)) with
      | some (first :: rest) => return some (largestOf (first :: rest))
      | _ => return none

def slippageSamples : ModeContext → Value
  | .object attributes => entryAt attributes "slippage_samples"
  | _ => .null

/-- The mean of the samples an object carries. -/
def sampledSlippage (context : ModeContext) : Except ExecutionFault (Option Extended) :=
  match iterate (slippageSamples context) with
  | .error _ => .ok none
  | .ok items => do
      match ← floats items with
      | some (first :: rest) =>
        return some (((first :: rest).foldl (· + ·) 0).scale (1 / (first :: rest).length))
      | _ => return none

/-- The readings that are each charged themselves. -/
def explicitReadings (marketSnapshot : Mapping) (context : ModeContext) : List Value :=
  [entryAt marketSnapshot "observed_slippage_pips", entryAt marketSnapshot "slippage_pips",
    context.extract "observed_slippage_pips" .null]

def slippageReadings (marketSnapshot : Mapping) (context : ModeContext) : List Value :=
  explicitReadings marketSnapshot context ++
    logReadings marketSnapshot "slippage_log" ["avg_pips", "mean_pips", "p95", "avg"]

def rolloverReadings (marketSnapshot : Mapping) (context : ModeContext) : List Value :=
  [entryAt marketSnapshot "rollover_pips", entryAt marketSnapshot "swap_pips",
    context.extract "rollover_pips" .null] ++
    logReadings marketSnapshot "rollover_log" ["last_pips", "avg_pips", "p95", "max_pips"]

def resolveObservedSlippage (marketSnapshot : Mapping) (context : ModeContext) :
    Except ExecutionFault (Option Extended) := do
  match ← firstFloat (slippageReadings marketSnapshot context) with
  | some reading => return some reading
  | none =>
    match ← observedSpread marketSnapshot with
    | some spread => return some spread
    | none => sampledSlippage context

def resolveRolloverCost (marketSnapshot : Mapping) (context : ModeContext) :
    Except ExecutionFault (Option Extended) :=
  firstFloat (rolloverReadings marketSnapshot context)

def extractSpreadPips (signal marketSnapshot : Mapping) :
    Except ExecutionFault (Option Extended) :=
  floatOf? ((signal.given? "spread_pips").getD (entryAt marketSnapshot "spread_pips"))

def signalEntryMode (signal : Mapping) : String :=
  (orValue (entryAt signal "entry_mode") (.str "marketable_limit")).text

def resolveEntryMode (signal : Mapping) (spreadState : String) : String :=
  if spreadState = "watch" then "market"
  else if spreadState = "cooldown" then "limit_requote"
  else signalEntryMode signal

def defaultsOf (config : Mapping) : Mapping := ((config.get? "defaults").getD (.map [])).asMapping

def lookupEntryMode (config : Mapping) (entryMode : String) : Except ExecutionFault Mapping :=
  requireMapping ((((defaultsOf config).get? "entry_modes").getD (.map [])).asMapping.get?
    entryMode)
    ("Entry mode '" ++ entryMode ++ "' not configured")

/-- Membership in a set of words hashes the value first. -/
def hashable : Value → Except ExecutionFault Unit
  | .list _ => .error (.python .typeError)
  | .map _ => .error (.python .typeError)
  | _ => .ok ()

/-! ## The limit of the entry mode -/

/-- A limit that does not convert is no limit. -/
def enforceSpread (entryConfig : Mapping) : Option Extended → Except ExecutionError Unit
  | none => .ok ()
  | some spread => do
      match ← (floatOf? (entryAt entryConfig "max_spread_pips")).mapError .fault with
      | some limit =>
        if limit < spread then .error (.ruleViolation (.spreadExceeds spread limit)) else .ok ()
      | none => .ok ()

/-! ## Computing the adjustments -/

def modeLabels : List (String × String) :=
  [("market", "Market (IOC)"), ("marketable_limit", "Marketable Limit"),
    ("limit_requote", "Limit (Requote)")]

def spreadTtlBucket : List (String × String) :=
  [("normal", "base"), ("watch", "fast_path"), ("cooldown", "slow_path")]

def tableGet (table : List (String × String)) (key default : String) : String :=
  ((table.find? (fun entry => entry.1 == key)).map Prod.snd).getD default

def truthAt (mapping : Mapping) (key : String) : Bool := (entryAt mapping key).truth

/-- `int(round(value))`. -/
def toWhole : Extended → Except ExecutionFault Int
  | .finite value => .ok (roundHalfEven value)
  | .infinite _ => .error (.python overflowError)
  | .nan => .error (.python .valueError)

def resolveFillStyle (entryConfig : Mapping) : Except ExecutionFault (FillStyle × FillPolicy) := do
  let configured := entryAt entryConfig "fill_style"
  hashable configured
  let style : FillStyle := match configured with
    | .str "ioc" => .ioc
    | .str "fok" => .fok
    | .str "gtd" => .gtd
    | _ =>
      if truthAt entryConfig "allow_ioc" then .ioc
      else if truthAt entryConfig "allow_fok" then .fok
      else .gtd
  return (style,
    if style = .gtd ∧ truthAt entryConfig "allow_day" = true then .day else .style style)

/-- Look a value up that may be no text. -/
def lookupValue (mapping : Mapping) (key : Value) : Except ExecutionFault Value := do
  hashable key
  return match key with
    | .str key => entryAt mapping key
    | _ => .null

/-- The override of a symbol, when its configuration has one. -/
def symbolDelay (config : Mapping) (mode symbol : Value) : Except ExecutionFault Value :=
  match symbol with
  | .str symbol =>
    let overrides := ((config.get? "symbols").getD (.map [])).asMapping
    let symbolConfig := (entryAt overrides symbol).asMapping
    match symbolConfig.get? "human_delay_seconds" with
    | some (.map delay) => lookupValue delay mode
    | _ => .ok .null
  | _ => .ok .null

def resolveDelayStats (config : Mapping) (mode symbol : Value) : Except ExecutionFault Mapping := do
  let override ← symbolDelay config mode symbol
  let stats ← match override, (defaultsOf config).get? "human_delay_seconds" with
    | .null, some (.map delayDefaults) => lookupValue delayDefaults mode
    | override, _ => pure override
  requireMapping (some stats) ("Human delay distribution missing for mode '" ++ mode.text ++ "'")

namespace DeterministicExecutionModel

variable (model : DeterministicExecutionModel)

/-- `math.sqrt` of what is not negative. -/
def root : Extended → Extended
  | .finite value => .finite (model.sqrt value)
  | value => value

/-- A draw from the triangle between `min` and `p95` with its peak at `p50`. -/
def applyHumanDelay (stats : Mapping) (mode : Value) (seed : Int) :
    Except ExecutionFault Extended := do
  let read := fun (key : String) (default : Extended) => match stats.get? key with
    | some value => toFloat value
    | none => .ok default
  let minimum ← read "min" 0
  let peak ← read "p50" minimum
  let tail ← read "p95" (.greater peak minimum)
  let maximum := Extended.greater tail minimum
  let peak := Extended.lesser (.greater peak minimum) maximum
  let draw := Extended.finite (model.uniform seed)
  let delay :=
    if maximum = minimum then minimum
    else if draw < (peak - minimum) / (maximum - minimum) then
      minimum + model.root (draw * (maximum - minimum) * (peak - minimum))
    else maximum - model.root ((1 - draw) * (maximum - minimum) * (maximum - peak))
  match mode with
  | .str "paper" => return .finite (← toWhole delay)
  | .str "live" => return .finite (← toWhole delay)
  | _ => return delay

def resolveTtlBuffer (bucket : String) : Except ExecutionFault Extended :=
  match ((defaultsOf model.config).get? "ttl_seconds").getD (.map []) with
  | .map ttlDefaults =>
    toFloat ((Mapping.get? ttlDefaults bucket).getD
      ((Mapping.get? ttlDefaults "base").getD (.int 0)))
  | _ => .error (.python .attributeError)

/-- The status words that call for a fallback. -/
def isDegraded : Value → Bool
  | .str "degraded" => true
  | .str "halt_recommended" => true
  | _ => false

def isHaltRecommended : Value → Bool
  | .str "halt_recommended" => true
  | _ => false

def fallbacks : Value := ((defaultsOf model.config).get? "fallbacks").getD (.map [])

def applyTtlFallback (ttlSeconds : Int) (latencyStatus : Value) : Except ExecutionFault Int :=
  match model.fallbacks with
  | .map fallbacks => do
      hashable latencyStatus
      let extra ← if isDegraded latencyStatus then
          toFloat ((Mapping.get? fallbacks "ttl_fallback_sec").getD (.int 0))
        else pure 0
      let bumped := Extended.finite ttlSeconds + extra
      toWhole (if isHaltRecommended latencyStatus then bumped + extra else bumped)
  | _ => .ok ttlSeconds

/-- The fallback is read whatever the status is. -/
def applySlippageFallback (expected : Extended) (slippageStatus : Value) :
    Except ExecutionFault Extended :=
  match model.fallbacks with
  | .map fallbacks => do
      match ← floatOf? (entryAt fallbacks "slippage_fallback_pips") with
      | none => return expected
      | some fallback =>
        hashable slippageStatus
        return if isDegraded slippageStatus then .greater expected fallback else expected
  | _ => .ok expected

end DeterministicExecutionModel

def entryKeys : List String := ["expected_entry", "entry_price", "price", "mid"]

def resolveExpectedEntry (signal marketSnapshot : Mapping) :
    Except ExecutionFault (Option Extended) :=
  match entryKeys.findSome? signal.given? <|> entryKeys.findSome? marketSnapshot.given? with
  | some value => (toFloat value).map some
  | none => .ok none

def resolveExpectedSlippage (config : Mapping) (spreadState : String) :
    Except ExecutionFault (Option Extended) :=
  match (defaultsOf config).get? "slippage_pips" with
  | some (.map slippageDefaults) =>
    let (bucketName, percentile) :=
      if spreadState = "watch" then ("volatile", "p90")
      else if spreadState = "cooldown" then ("base", "p90")
      else ("base", "p50")
    let bucket : Mapping := match Mapping.get? slippageDefaults bucketName with
      | some (.map bucket) => bucket
      | _ => (slippageDefaults.findSome? (fun entry => entry.2.mapping?)).getD []
    match bucket.given? percentile <|> bucket.given? "p50" with
    | some value => (toFloat value).map some
    | none => .ok none
  | _ => .ok none

def applySpreadToSlippage (expected spreadPips : Option Extended) (entryConfig : Mapping)
    (allowExceed : Bool) : Except ExecutionFault (Option Extended) :=
  match spreadPips with
  | none => .ok expected
  | some spread => do
      let value := Extended.greater (expected.getD 0) spread
      match ← floatOf? (entryAt entryConfig "max_slippage_pips") with
      | some cap => return some (if allowExceed then value else .lesser value cap)
      | none => return some value

def atLeast (expected observed : Option Extended) : Option Extended :=
  match observed with
  | none => expected
  | some observed => some (.greater (expected.getD 0) observed)

/-- The slippages that count, with the one that was resolved before them. -/
def observedValues (marketSnapshot : Mapping) (context : ModeContext)
    (observed : Option Extended) : Except ExecutionFault (List Extended) := do
  let explicit ← tryMap floatOf? (explicitReadings marketSnapshot context)
  return (observed :: explicit).filterMap id

/-- What is read before the spread is checked. -/
structure Prepared where
  spreadState : String
  mode : Value
  seed : Int
  observed : Option Extended
  rollover : Option Extended
  largest : Extended
  spreadPips : Option Extended
  entryMode : String
  entryConfig : Mapping

namespace DeterministicExecutionModel

variable (model : DeterministicExecutionModel)

def prepare (signal marketSnapshot : Mapping) (context : ModeContext) (spreadState : String) :
    Except ExecutionFault Prepared := do
  let seed ← toInt (context.extract "deterministic_seed" (.int 0))
  let observed ← resolveObservedSlippage marketSnapshot context
  let rollover ← resolveRolloverCost marketSnapshot context
  let values ← observedValues marketSnapshot context observed
  let spreadPips ← extractSpreadPips signal marketSnapshot
  let entryMode := resolveEntryMode signal spreadState
  let entryConfig ← lookupEntryMode model.config entryMode
  return {
    spreadState, seed, observed, rollover, spreadPips, entryMode, entryConfig
    mode := context.extract "mode" (.str "backtest")
    largest := largestOf values }

def expectedSlippage (prepared : Prepared) : Except ExecutionFault Extended := do
  let configured ← resolveExpectedSlippage model.config prepared.spreadState
  let spreading ← applySpreadToSlippage configured prepared.spreadPips prepared.entryConfig
    (decide (0 < prepared.largest))
  let rollover := prepared.rollover.map Extended.abs
  let observed := Extended.greater ((atLeast spreading prepared.observed).getD 0) prepared.largest
  let charged := (atLeast (some observed) rollover).getD 0
  return (atLeast (some charged) rollover).getD 0

def adjust (signal marketSnapshot : Mapping) (context : ModeContext) (prepared : Prepared) :
    Except ExecutionFault ExecutionAdjustments := do
  let (fillStyle, fillPolicy) ← resolveFillStyle prepared.entryConfig
  let stats ← resolveDelayStats model.config prepared.mode (entryAt signal "symbol")
  let seedOffset ← toInt ((stats.get? "seed_offset").getD (.int 0))
  let humanDelay ← model.applyHumanDelay stats prepared.mode (prepared.seed.xor seedOffset)
  let ttlBuffer ← model.resolveTtlBuffer (tableGet spreadTtlBucket prepared.spreadState "base")
  let ttlSeconds ← toWhole (ttlBuffer + humanDelay)
  let expectedEntry ← resolveExpectedEntry signal marketSnapshot
  let expected ← model.expectedSlippage prepared
  let ttlSeconds ← model.applyTtlFallback ttlSeconds
    (context.extract "latency_data_status" (.str "ok"))
  let expectedSlippage ← model.applySlippageFallback expected
    (context.extract "slippage_data_status" (.str "ok"))
  return {
    expectedEntry, expectedSlippage, ttlSeconds, fillStyle, fillPolicy
    modeLabel := tableGet modeLabels prepared.entryMode prepared.entryMode }

def apply (signal marketSnapshot : Mapping) (spreadState : SpreadInput) (context : ModeContext) :
    Except ExecutionError ExecutionAdjustments :=
  match resolveSpreadState spreadState with
  | none => .error (.fault (.inputError "Spread state is required for execution"))
  | some state =>
    if state = "halt" then .error (.ruleViolation .spreadHalt)
    else do
      let prepared ← (model.prepare signal marketSnapshot context state).mapError .fault
      enforceSpread prepared.entryConfig prepared.spreadPips
      (model.adjust signal marketSnapshot context prepared).mapError .fault

/-! ## When a blocked spread is refused -/

variable {model}

/-- What is read before the spread is checked: the seed is an integer and no
number is too large for a float. -/
structure ReadsInputs (marketSnapshot : Mapping) (context : ModeContext) : Prop where
  seed : ∃ seed, toInt (context.extract "deterministic_seed" (.int 0)) = .ok seed
  observed : ∃ observed, resolveObservedSlippage marketSnapshot context = .ok observed
  rollover : ∃ rollover, resolveRolloverCost marketSnapshot context = .ok rollover
  explicit : ∃ numbers, tryMap floatOf? (explicitReadings marketSnapshot context) = .ok numbers

/-- The entry mode the signal asks for has a limit, and the spread is known and
above it. -/
def SpreadRefused (model : DeterministicExecutionModel) (signal marketSnapshot : Mapping)
    (context : ModeContext) : Prop :=
  ReadsInputs marketSnapshot context ∧ ∃ entryConfig spread limit,
    lookupEntryMode model.config (signalEntryMode signal) = .ok entryConfig ∧
      extractSpreadPips signal marketSnapshot = .ok (some spread) ∧
      floatOf? (entryAt entryConfig "max_spread_pips") = .ok (some limit) ∧ limit < spread

theorem fault_ne_ruleViolation {Image : Type} (result : Except ExecutionFault Image)
    (violation : RuleViolation) :
    result.mapError ExecutionError.fault ≠ .error (.ruleViolation violation) := by
  cases result with
  | ok image => intro absurdity; cases absurdity
  | error fault => intro absurdity; cases absurdity

theorem enforceSpread_error_iff (entryConfig : Mapping) (spreadPips : Option Extended) :
    (∃ violation, enforceSpread entryConfig spreadPips = .error (.ruleViolation violation)) ↔
      ∃ spread limit, spreadPips = some spread ∧
        floatOf? (entryAt entryConfig "max_spread_pips") = .ok (some limit) ∧ limit < spread := by
  cases spreadPips with
  | none => simp [enforceSpread]
  | some spread =>
    rw [enforceSpread]
    cases read : floatOf? (entryAt entryConfig "max_spread_pips") with
    | error fault => simp [Except.mapError, bind, Except.bind]
    | ok found =>
      cases found with
      | none => simp [Except.mapError, bind, Except.bind]
      | some limit =>
        by_cases above : limit < spread
        · simp [Except.mapError, bind, Except.bind, above]
        · simp [Except.mapError, bind, Except.bind, above]

/-- Only the check of the spread refuses a state that is not `halt`. -/
theorem apply_ruleViolation_iff {signal marketSnapshot : Mapping} {input : SpreadInput}
    {context : ModeContext} {state : String} (resolved : resolveSpreadState input = some state)
    (routed : state ≠ "halt") :
    (∃ violation, model.apply signal marketSnapshot input context =
        .error (.ruleViolation violation)) ↔
      ∃ prepared, model.prepare signal marketSnapshot context state = .ok prepared ∧
        ∃ violation, enforceSpread prepared.entryConfig prepared.spreadPips =
          .error (.ruleViolation violation) := by
  simp only [apply, resolved, if_neg routed]
  cases read : model.prepare signal marketSnapshot context state with
  | error fault =>
    constructor
    · rintro ⟨violation, absurdity⟩
      cases absurdity
    · rintro ⟨_, absurdity, -⟩
      cases absurdity
  | ok prepared =>
    simp only [Except.ok.injEq, exists_eq_left']
    change (∃ violation, enforceSpread prepared.entryConfig prepared.spreadPips >>=
      (fun _ => (model.adjust signal marketSnapshot context prepared).mapError
        ExecutionError.fault) = .error (.ruleViolation violation)) ↔ _
    cases enforced : enforceSpread prepared.entryConfig prepared.spreadPips with
    | error violation => simp [bind, Except.bind]
    | ok passed =>
      constructor
      · rintro ⟨violation, refused⟩
        exact absurd refused (fault_ne_ruleViolation
          (model.adjust signal marketSnapshot context prepared) violation)
      · rintro ⟨_, absurdity⟩
        cases absurdity

theorem prepare_ok {signal marketSnapshot : Mapping} {context : ModeContext} {state : String}
    {prepared : Prepared} (read : model.prepare signal marketSnapshot context state =
      .ok prepared) :
    ReadsInputs marketSnapshot context ∧
      extractSpreadPips signal marketSnapshot = .ok prepared.spreadPips ∧
        lookupEntryMode model.config (resolveEntryMode signal state) =
          .ok prepared.entryConfig := by
  obtain ⟨seed, converted, read⟩ := bind_ok read
  obtain ⟨observed, resolved, read⟩ := bind_ok read
  obtain ⟨rollover, rolled, read⟩ := bind_ok read
  obtain ⟨values, valued, read⟩ := bind_ok read
  obtain ⟨spreadPips, extracted, read⟩ := bind_ok read
  obtain ⟨entryConfig, found, built⟩ := bind_ok read
  obtain rfl := Except.ok.inj built
  obtain ⟨numbers, explicit, -⟩ := bind_ok valued
  exact ⟨⟨⟨seed, converted⟩, ⟨observed, resolved⟩, ⟨rollover, rolled⟩, numbers, explicit⟩,
    extracted, found⟩

theorem prepare_of_reads {signal marketSnapshot : Mapping} {context : ModeContext}
    {state : String} {spreadPips : Option Extended} {entryConfig : Mapping}
    (reads : ReadsInputs marketSnapshot context)
    (extracted : extractSpreadPips signal marketSnapshot = .ok spreadPips)
    (found : lookupEntryMode model.config (resolveEntryMode signal state) = .ok entryConfig) :
    ∃ prepared, model.prepare signal marketSnapshot context state = .ok prepared ∧
      prepared.spreadPips = spreadPips ∧ prepared.entryConfig = entryConfig := by
  obtain ⟨⟨seed, converted⟩, ⟨observed, resolved⟩, ⟨rollover, rolled⟩, numbers, explicit⟩ := reads
  simp only [prepare, observedValues, converted, resolved, rolled, explicit, extracted, found,
    bind, Except.bind, pure, Except.pure]
  exact ⟨_, rfl, rfl, rfl⟩

/-- The model knows no state `block`: it takes the entry mode the signal asks
for, as in the normal state. -/
theorem apply_block_iff {signal marketSnapshot : Mapping} {input : SpreadInput}
    {context : ModeContext} (blocked : resolveSpreadState input = some "block") :
    (∃ violation, model.apply signal marketSnapshot input context =
        .error (.ruleViolation violation)) ↔
      SpreadRefused model signal marketSnapshot context := by
  have plain : resolveEntryMode signal "block" = signalEntryMode signal := by
    simp [resolveEntryMode]
  rw [apply_ruleViolation_iff blocked (by decide)]
  simp only [enforceSpread_error_iff]
  constructor
  · rintro ⟨prepared, read, spread, limit, known, limited, above⟩
    obtain ⟨reads, extracted, found⟩ := prepare_ok read
    rw [plain] at found
    exact ⟨reads, prepared.entryConfig, spread, limit, found, extracted.trans (by rw [known]),
      limited, above⟩
  · rintro ⟨reads, entryConfig, spread, limit, found, extracted, limited, above⟩
    rw [← plain] at found
    obtain ⟨prepared, read, known, configured⟩ := prepare_of_reads reads extracted found
    exact ⟨prepared, read, spread, limit, known, configured ▸ limited, above⟩

end DeterministicExecutionModel

/-- Whatever frames a monitor was fed, a symbol it blocks is refused exactly when
the entry mode of the signal limits the spread and the spread is above. -/
theorem blocked_refused_iff (monitor : SimpleSpreadMonitor) (fresh : monitor.states = Dict.empty)
    (feeds : List Feed) {symbol : String} {state : SpreadState}
    (held : (runFrom SimpleSpreadMonitor.step monitor feeds).states.get? symbol = some state)
    (blocked : state.state = .block ∨ state.state = .halt) (model : DeterministicExecutionModel)
    (signal marketSnapshot : Mapping) (context : ModeContext) :
    (∃ violation, model.apply signal marketSnapshot (.state state) context =
        .error (.ruleViolation violation)) ↔
      model.SpreadRefused signal marketSnapshot context := by
  have classified : monitor.Classified := by
    intro other held found
    rw [fresh] at found
    cases found
  have label := SimpleSpreadMonitor.run_classified classified feeds symbol state held
  have block : state.state = .block := by
    rcases blocked with block | halt
    · exact block
    · rw [halt] at label
      exact absurd label (by decide)
  exact DeterministicExecutionModel.apply_block_iff (by rw [resolveSpreadState, block]; rfl)

def sampleConfig : Mapping :=
  let delay := Value.map [("min", .int 2), ("p50", .int 2), ("p95", .int 2)]
  [("schema_version", .str "execution.model.v1"),
    ("defaults", .map [
      ("human_delay_seconds", .map [("backtest", delay), ("paper", delay), ("live", delay)]),
      ("ttl_seconds", .map [("base", .int 60), ("fast_path", .int 30), ("slow_path", .int 90)]),
      ("entry_modes", .map [("market", .map []),
        ("marketable_limit", .map [("max_spread_pips", .int 2)]), ("limit_requote", .map [])])])]

def sampleModel : DeterministicExecutionModel where
  config := sampleConfig
  valid := by decide +kernel
  uniform := fun _ => 0
  sqrt := fun value => value

/-- Both percentiles are above the default threshold of a block. -/
def wideFeed : Feed where
  frame := [("symbol", .str "USDJPY"), ("p95", .int 3), ("p99", .int 3)]
  now := 0

def wideState : SpreadState where
  state := .block
  spreadPips := .finite 3
  percentile := 99
  thresholdPips := 5 / 2
  cooldownEta := some 300000000
  lastUpdated := 0
  lookbackWindowSec := 1800
  reason := some "wide_spread"

theorem wideState_held :
    (runFrom SimpleSpreadMonitor.step {} [wideFeed]).states.get? "USDJPY" = some wideState := by
  decide +kernel

/-- An infinite spread is above the limit. -/
theorem blocked_refused_above_limit :
    ∃ violation, sampleModel.apply
      [("symbol", .str "USDJPY"), ("spread_pips", .float 0 "inf")] [("slippage_pips", .int 1)]
      (.state wideState) .absent = .error (.ruleViolation violation) := by
  refine (blocked_refused_iff {} rfl [wideFeed] wideState_held (.inl rfl) sampleModel _ _ _).mpr ?_
  exact ⟨⟨⟨0, rfl⟩, ⟨some 1, by decide +kernel⟩, ⟨none, by decide +kernel⟩,
    ⟨[none, some 1, none], by decide +kernel⟩⟩, _, .infinite false, .finite 2, rfl,
    by decide +kernel, by decide +kernel, by decide +kernel⟩

/-- Without a spread in the signal or the snapshot a blocked symbol is traded. -/
theorem blocked_traded :
    (runFrom SimpleSpreadMonitor.step {} [wideFeed]).states.get? "USDJPY" = some wideState ∧
      wideState.state = .block ∧
      sampleModel.apply [("symbol", .str "USDJPY")] [] (.state wideState) .absent = .ok {
        expectedEntry := none
        expectedSlippage := 0
        ttlSeconds := 62
        fillStyle := .gtd
        fillPolicy := .style .gtd
        modeLabel := "Marketable Limit" } := by
  exact ⟨wideState_held, rfl, by decide +kernel⟩

end FxToushi.Execution
