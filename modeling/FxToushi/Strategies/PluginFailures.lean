import FxToushi.Strategies.Watchlists

namespace FxToushi.Strategies

open FxToushi.Core Data Py

/-! # Exceptions of a plugin

The signals of a plugin are gone through inside a handler that names the strategy
and wraps what was raised.  The call that asks for them stands before the
handler: an `AttributeError` of it is taken for a missing method, and any other
exception leaves `run_all` as it is.
-/

/-- A plugin object, which need not define `generate_signals`. -/
structure PluginObject where
  metadata : StrategyMetadata
  generateSignals : Option (StrategyContext → PluginReturn)
  evaluate : StrategyContext → PluginReturn

/-- The plugin as the engine calls it: a method that is missing raises. -/
def PluginObject.plugin (object : PluginObject) : Plugin where
  metadata := object.metadata
  generateSignals := object.generateSignals.getD fun _ => .raised .attributeError
  evaluate := object.evaluate

namespace StrategyEngine

def holding (engine : StrategyEngine) (objects : String → Option PluginObject) : StrategyEngine :=
  { engine with plugins := fun strategyId => (objects strategyId).map PluginObject.plugin }

section Failures

variable (engine : StrategyEngine) (objects : String → Option PluginObject)
  (arguments : RunArguments)

/-- The run comes to the entry and asks its plugin, which defines `generate_signals`, for
signals. -/
structure Asks (item : String × StrategyEntry) (object : PluginObject)
    (generate : StrategyContext → PluginReturn) (context : StrategyContext) : Prop where
  defined : object.generateSignals = some generate
  found : objects item.1 = some object
  reached : ∃ watchlist before after,
    preflight engine.manifest arguments = .ok watchlist ∧
    orderedEntries engine.manifest = before ++ item :: after ∧
    (∀ earlier ∈ before,
      ((engine.holding objects).runEntry arguments watchlist earlier).failure = none) ∧
    (∃ plugin, (engine.holding objects).checkEntry arguments.features item = .ok plugin) ∧
    suppressed arguments.gate item.2 = false ∧
    context = buildContext arguments watchlist object.metadata item.2.parameters

/-- What the plugin raises comes out of the run with the name of its strategy, whether it is
raised by the call or while its signals are gone through, and nothing else of the plugin
is called instead. -/
structure ReportsFailures : Prop where
  call : ∀ item object generate context error,
    engine.Asks objects arguments item object generate context → generate context = .raised error →
      callPlugin object.plugin context = .raised error ∧
      (engine.holding objects).runAll arguments = .error (.execution item.1 error)
  iteration : ∀ item object generate context emitted error,
    engine.Asks objects arguments item object generate context →
    generate context = .signals emitted (some error) →
    (∀ signal ∈ emitted, ∃ trade, engine.candidateTrade item.1 signal context = .ok trade) →
      callPlugin object.plugin context = .signals emitted (some error) ∧
      (engine.holding objects).runAll arguments = .error (.execution item.1 error)

/-- No plugin that is asked raises before it has handed out its signals to go through. -/
def HandsOut : Prop :=
  ∀ item object generate context, engine.Asks objects arguments item object generate context →
    ∀ error, generate context ≠ .raised error

variable {engine objects arguments} {item : String × StrategyEntry} {object : PluginObject}
  {generate : StrategyContext → PluginReturn} {context : StrategyContext} {error : PyError}
  {emitted : List AllocationSignal}

/-- What the signals of the plugin come to is what the run comes to, if they fail. -/
theorem runAll_of_failure (asks : engine.Asks objects arguments item object generate context)
    {failure : EngineError}
    (broke : ((engine.holding objects).emitSignals context item
      (callPlugin object.plugin context)).failure = some failure) :
    (engine.holding objects).runAll arguments = .error failure := by
  obtain ⟨watchlist, before, after, resolved, split, passed, ⟨plugin, checked⟩, held, rfl⟩ :=
    asks.reached
  have own : object.plugin = plugin := by
    have found := checkEntry_ok checked
    have given : (engine.holding objects).plugins item.1 = some object.plugin :=
      congrArg (Option.map PluginObject.plugin) asks.found
    exact Option.some.inj (given.symm.trans found)
  subst own
  have entry : ((engine.holding objects).runEntry arguments watchlist item).failure =
      some failure := by
    unfold runEntry
    rw [checked]
    simp only [held, Bool.false_eq_true, if_false]
    rw [Journal.andThen_of_success rfl]
    exact broke
  have whole : ((engine.holding objects).journal arguments).failure = some failure := by
    have same : preflight (engine.holding objects).manifest arguments = .ok watchlist := resolved
    have entries : orderedEntries (engine.holding objects).manifest = before ++ item :: after :=
      split
    rw [journal, same, entries]
    exact Journal.each_failure_of_split passed entry
  rw [runAll, whole]

theorem callPlugin_eq (asks : engine.Asks objects arguments item object generate context)
    (returns : generate context = .signals emitted (some error)) :
    callPlugin object.plugin context = .signals emitted (some error) := by
  simp only [callPlugin, PluginObject.plugin, asks.defined, Option.getD_some, returns]

theorem emitSignals_failure
    (trades : ∀ signal ∈ emitted, ∃ trade,
      engine.candidateTrade item.1 signal context = .ok trade) :
    ((engine.holding objects).emitSignals context item (.signals emitted (some error))).failure =
      some (.execution item.1 error) := by
  have passed : (Journal.each ((engine.holding objects).emitSignal context item) emitted).failure =
      none := by
    refine Journal.each_failure_none_iff.mpr fun signal member => ?_
    obtain ⟨trade, traded⟩ := trades signal member
    have same : (engine.holding objects).candidateTrade item.1 signal context = .ok trade := traded
    rw [emitSignal, same]
    rfl
  rw [emitSignals, Journal.andThen_of_success passed]
  rfl

/-- The exceptions of the plugins are reported exactly where none is raised by the call for
signals itself. -/
theorem reportsFailures_iff :
    engine.ReportsFailures objects arguments ↔ engine.HandsOut objects arguments := by
  constructor
  · intro reports item object generate context asks error raised
    obtain ⟨called, wrapped⟩ := reports.call item object generate context error asks raised
    have bare : (engine.holding objects).runAll arguments = .error (.pluginRaised error) :=
      runAll_of_failure asks (by rw [called]; rfl)
    cases wrapped.symm.trans bare
  · intro handsOut
    constructor
    · intro item object generate context error asks raised
      exact absurd raised (handsOut item object generate context asks error)
    · intro item object generate context emitted error asks returns trades
      refine ⟨callPlugin_eq asks returns, runAll_of_failure asks ?_⟩
      rw [callPlugin_eq asks returns]
      exact emitSignals_failure trades

end Failures

/-! ## A call that raises -/

/-- A plugin whose `generate_signals` raises, and whose `evaluate` has a signal. -/
def raisingObject (error : PyError) (metadata : StrategyMetadata) : PluginObject where
  metadata
  generateSignals := some fun _ => .raised error
  evaluate := fun _ => .signals [{ symbol := .str "USDJPY" }]

def raisingObjects (error : PyError) (strategyId : String) : Option PluginObject :=
  (yenManifest.strategies.get? strategyId).map fun entry =>
    raisingObject error entry.metadata.toRuntime

def yenAloneEngine : StrategyEngine where
  plugins := fun _ => none
  manifest := yenManifest

theorem asks_raising (error : PyError) :
    ∃ object context, yenAloneEngine.Asks (raisingObjects error) majorArguments
      ("m1", plainEntry "M1" (some yenWatchlist)) object (fun _ => .raised error) context := by
  obtain ⟨watchlist, checked⟩ := exists_ok (preflight yenManifest majorArguments)
    (by decide +kernel)
  have enabled : ("m1", plainEntry "M1" (some yenWatchlist)) ∈ yenManifest.enabledStrategies :=
    List.mem_cons_self
  have features := StrategyManifest.validateFeatureContract_ok (preflight_ok checked).1 enabled
  have ordered : orderedEntries yenManifest = [("m1", plainEntry "M1" (some yenWatchlist))] := rfl
  have registered : (yenAloneEngine.holding (raisingObjects error)).plugins "m1" =
      some (raisingObject error (plainEntry "M1" (some yenWatchlist)).metadata.toRuntime).plugin :=
    rfl
  have passes : (yenAloneEngine.holding (raisingObjects error)).checkEntry majorArguments.features
      ("m1", plainEntry "M1" (some yenWatchlist)) =
        .ok (raisingObject error
          (plainEntry "M1" (some yenWatchlist)).metadata.toRuntime).plugin := by
    simp only [checkEntry, registered, PluginObject.plugin, raisingObject, ne_eq,
      not_true_eq_false, or_self, if_false]
    exact if_pos features
  refine ⟨_, _, ⟨rfl, rfl, watchlist, [], [], checked, ordered, ?_, ⟨_, passes⟩, by decide, rfl⟩⟩
  exact fun earlier member => absurd member List.not_mem_nil

/-- A `ValueError` of the call comes out bare, and an `AttributeError` makes the run go on
with the signals of another method. -/
theorem call_failures_lost :
    ¬ yenAloneEngine.ReportsFailures (raisingObjects .valueError) majorArguments ∧
      ¬ yenAloneEngine.ReportsFailures (raisingObjects .attributeError) majorArguments := by
  constructor
  · intro reports
    obtain ⟨object, context, asks⟩ := asks_raising .valueError
    have wrapped := (reports.call _ _ _ _ _ asks rfl).2
    have bare : ((yenAloneEngine.holding (raisingObjects .valueError)).runAll majorArguments).map
        List.length = .error (.pluginRaised .valueError) := by decide +kernel
    rw [wrapped] at bare
    cases bare
  · intro reports
    obtain ⟨object, context, asks⟩ := asks_raising .attributeError
    have wrapped := (reports.call _ _ _ _ _ asks rfl).2
    have signals : ((yenAloneEngine.holding (raisingObjects .attributeError)).runAll
        majorArguments).map List.length = .ok 1 := by decide +kernel
    rw [wrapped] at signals
    cases signals

end StrategyEngine

end FxToushi.Strategies
