import FxToushi.Data.Journal
import FxToushi.Strategies.AllocationGate
import FxToushi.Strategies.Manifest

namespace FxToushi.Strategies

open FxToushi.Core Data Py

/-! # The strategy engine

`run_all`: the checks before the first strategy, the loop over the enabled
entries in their order, and the allocation of what they emitted.  The plugins
and the trade a signal is turned into are inputs; the determinism records and
the event log are left out.
-/

structure FeatureContext where
  symbols : Finset String
  availableKeys : Finset String
  store : String → String → String → Option Value := fun _ _ _ => none

structure StrategyContext where
  features : FeatureContext
  gate : GateState
  config : ConfigSnapshot
  openPositions : List AllocationActivePosition
  watchlist : Finset String
  now : Timestamp
  seed : Int
  parameters : Mapping

/-- What a call of a plugin comes to: signals that are gone through one by one,
possibly up to an exception, or an exception of the call itself. -/
inductive PluginReturn where
  | signals (emitted : List AllocationSignal) (broke : Option PyError := none)
  | raised (error : PyError)

structure Plugin where
  metadata : StrategyMetadata
  generateSignals : StrategyContext → PluginReturn
  evaluate : StrategyContext → PluginReturn

inductive EngineError where
  | manifest (error : ManifestError)
  | notRegistered (strategyId : String)
  | metadataMismatch (strategyId : String)
  | requiredFeaturesMismatch (strategyId : String)
  | missingFeatures (strategyId : String) (missing : Finset String)
  | pluginRaised (error : PyError)
  | execution (strategyId : String) (cause : PyError)
  | allocation (error : PyError)
deriving DecidableEq

structure StrategyEngine where
  plugins : String → Option Plugin
  manifest : StrategyManifest
  allocationPolicy : Option StrategyAllocationPolicy := none
  candidateTrade : String → AllocationSignal → StrategyContext →
    Except PyError (Option CandidateTrade) := fun _ _ _ => .ok none

/-- The arguments of a call.  `wallNow` is the time of the machine, which
resolving the watchlist goes by. -/
structure RunArguments where
  features : FeatureContext
  gate : GateState := GateState.default
  config : ConfigSnapshot := {}
  openPositions : List AllocationActivePosition := []
  now : Timestamp
  wallNow : Timestamp
  watchlist : Option (List String) := none
  seed : Int := 0

/-- What a run does: it calls a plugin, or a plugin's signal becomes a candidate. -/
inductive EngineEvent where
  | called (strategyId : String)
  | emitted (candidate : AllocationCandidate)

abbrev EngineJournal := Journal EngineEvent EngineError

def isGuardedMode (gate : GateState) : Bool :=
  gate.risk.reduceOnly ||
    decide (lower gate.market.profitReadinessStatus ∈ ["guarded", "halted"])

/-! ## Before the loop -/

def resolveArgument (manifest : StrategyManifest) (arguments : RunArguments) :
    Except ManifestError (Finset String) :=
  match arguments.watchlist with
  | some (symbol :: rest) =>
    let given := normaliseSymbolSet (symbol :: rest).toFinset
    let missing := given \ normaliseSymbolSet arguments.features.symbols
    if missing = ∅ then .ok given else .error (.givenOutsideContext missing)
  | _ => manifest.resolveWatchlist arguments.features.symbols arguments.wallNow

def preflight (manifest : StrategyManifest) (arguments : RunArguments) :
    Except ManifestError (Finset String) := do
  manifest.validateFeatureContract arguments.features.availableKeys
  manifest.validateWatchlists arguments.features.symbols
  resolveArgument manifest arguments

/-- The key the entries are sorted by. -/
def entryLe (left right : String × StrategyEntry) : Prop :=
  left.2.priority < right.2.priority ∨
    left.2.priority = right.2.priority ∧ left.1 ≤ right.1

instance : DecidableRel entryLe := fun _ _ => inferInstanceAs (Decidable (_ ∨ _ ∧ _))

def orderedEntries (manifest : StrategyManifest) : List (String × StrategyEntry) :=
  manifest.enabledStrategies.insertionSort entryLe

/-! ## One strategy -/

namespace StrategyEngine

/-- The checks on an entry and its plugin. -/
def checkEntry (engine : StrategyEngine) (features : FeatureContext)
    (item : String × StrategyEntry) : Except EngineError Plugin :=
  match engine.plugins item.1 with
  | none => .error (.notRegistered item.1)
  | some plugin =>
    let declared := item.2.metadata.toRuntime
    if declared.name ≠ plugin.metadata.name ∨ declared.version ≠ plugin.metadata.version then
      .error (.metadataMismatch item.1)
    else if declared.requiredFeatures ≠ plugin.metadata.requiredFeatures then
      .error (.requiredFeaturesMismatch item.1)
    else
      let missing := plugin.metadata.requiredFeatures \ features.availableKeys
      if missing = ∅ then .ok plugin else .error (.missingFeatures item.1 missing)

def buildContext (arguments : RunArguments) (watchlist : Finset String)
    (metadata : StrategyMetadata) (parameters : Mapping) : StrategyContext where
  features := arguments.features
  gate := arguments.gate
  config := arguments.config
  openPositions := arguments.openPositions
  watchlist
  now := arguments.now
  seed := arguments.seed + metadata.seedOffset
  parameters

def suppressed (gate : GateState) (entry : StrategyEntry) : Bool :=
  isGuardedMode gate && !(entry.featureFlags.get? "guarded_board_required").getD false

/-- `generate_signals`, and `evaluate` where that has no such attribute. -/
def callPlugin (plugin : Plugin) (context : StrategyContext) : PluginReturn :=
  match plugin.generateSignals context with
  | .raised .attributeError => plugin.evaluate context
  | returned => returned

def emitSignal (engine : StrategyEngine) (context : StrategyContext)
    (item : String × StrategyEntry) (signal : AllocationSignal) : EngineJournal :=
  match engine.candidateTrade item.1 signal context with
  | .error error => .failed (.execution item.1 error)
  | .ok trade =>
    .done [.emitted
      { objectId := 0, strategyId := item.1, signal, priority := item.2.priority
        weight := .finite item.2.weight, parameters := item.2.parameters, trade }]

def emitSignals (engine : StrategyEngine) (context : StrategyContext)
    (item : String × StrategyEntry) : PluginReturn → EngineJournal
  | .raised error => .failed (.pluginRaised error)
  | .signals emitted broke =>
    (Journal.each (engine.emitSignal context item) emitted).andThen
      { events := [], failure := broke.map (.execution item.1) }

/-- The body of the loop. -/
def runEntry (engine : StrategyEngine) (arguments : RunArguments) (watchlist : Finset String)
    (item : String × StrategyEntry) : EngineJournal :=
  match engine.checkEntry arguments.features item with
  | .error error => .failed error
  | .ok plugin =>
    if suppressed arguments.gate item.2 then .done []
    else
      let context := buildContext arguments watchlist plugin.metadata item.2.parameters
      Journal.andThen (.done [.called item.1])
        (engine.emitSignals context item (callPlugin plugin context))

/-! ## The run -/

def journal (engine : StrategyEngine) (arguments : RunArguments) : EngineJournal :=
  match preflight engine.manifest arguments with
  | .error error => .failed (.manifest error)
  | .ok watchlist =>
    Journal.each (engine.runEntry arguments watchlist) (orderedEntries engine.manifest)

def candidate? : EngineEvent → Option AllocationCandidate
  | .emitted candidate => some candidate
  | .called _ => none

/-- The candidates on record, each an object of its own. -/
def numberedCandidates (journal : EngineJournal) : List AllocationCandidate :=
  (journal.events.filterMap candidate?).mapIdx
    (fun index candidate => { candidate with objectId := index })

/-- `str(getattr(signal, "symbol", "UNKNOWN"))`. -/
def symbolText (signal : AllocationSignal) : String :=
  match signal.symbol with
  | .null => if signal.symbolMissing then "UNKNOWN" else "None"
  | value => value.text

/-- The text candidates are grouped by before the policy sees them. -/
def batchSymbol (candidate : AllocationCandidate) : String := upper (symbolText candidate.signal)

def batchSymbols (candidates : List AllocationCandidate) : List String :=
  (candidates.map batchSymbol).dedup.insertionSort (· ≤ ·)

/-- `features.lookup` of `_allocation_regime_value`. -/
def regimeRead (arguments : RunArguments) (symbol : String) : Option Value :=
  arguments.features.store symbol "regime_trend_1h" "1h"

def regimeNumber : Value → Option Extended
  | .str text => floatOfText text
  | value => coerceFloat? value

def allocationContext (arguments : RunArguments) (symbol : String) : AllocationContext where
  nowHour := arguments.now.hour
  boardMode := allocationBoardMode arguments.gate arguments.config
  killSwitchState := allocationKillSwitchState arguments.gate arguments.config
  regimeValue := (regimeRead arguments symbol).bind regimeNumber
  openPositions := arguments.openPositions

/-- The policy is asked once the regime of the symbol has been read. -/
def allocateBatch (policy : StrategyAllocationPolicy) (arguments : RunArguments)
    (symbol : String) (candidates : List AllocationCandidate) :
    Except PyError AllocationResult := do
  requireFloats [regimeRead arguments symbol]
  policy.allocate (allocationContext arguments symbol) candidates

def applyAllocation (policy : StrategyAllocationPolicy) (arguments : RunArguments)
    (candidates : List AllocationCandidate) : Except PyError (List AllocationCandidate) := do
  let results ← tryMap
    (fun symbol => allocateBatch policy arguments symbol
      (candidates.filter (fun candidate => batchSymbol candidate == symbol)))
    (batchSymbols candidates)
  return results.flatMap (·.selected)

/-- The candidates whose signals `run_all` returns. -/
def runAll (engine : StrategyEngine) (arguments : RunArguments) :
    Except EngineError (List AllocationCandidate) :=
  let journal := engine.journal arguments
  match journal.failure with
  | some error => .error error
  | none =>
    match engine.allocationPolicy with
    | none => .ok (numberedCandidates journal)
    | some policy =>
      (applyAllocation policy arguments (numberedCandidates journal)).mapError .allocation

/-! ## What is on record -/

variable {engine : StrategyEngine} {arguments : RunArguments} {watchlist : Finset String}
  {item : String × StrategyEntry}

theorem mem_orderedEntries {manifest : StrategyManifest} :
    item ∈ orderedEntries manifest ↔ item ∈ manifest.enabledStrategies :=
  List.mem_insertionSort _

theorem emitSignal_emitted {context : StrategyContext} {signal : AllocationSignal}
    {event : EngineEvent} (recorded : event ∈ (engine.emitSignal context item signal).events) :
    ∃ candidate, event = .emitted candidate ∧ candidate.strategyId = item.1 ∧
      candidate.signal = signal := by
  unfold emitSignal at recorded
  cases traded : engine.candidateTrade item.1 signal context with
  | error error => simp [traded, Journal.failed] at recorded
  | ok trade =>
    simp only [traded, Journal.done, List.mem_singleton] at recorded
    exact ⟨_, recorded, rfl, rfl⟩

theorem emitSignals_emitted {context : StrategyContext} {returned : PluginReturn}
    {event : EngineEvent} (recorded : event ∈ (engine.emitSignals context item returned).events) :
    ∃ candidate emitted broke, event = .emitted candidate ∧ candidate.strategyId = item.1 ∧
      returned = .signals emitted broke ∧ candidate.signal ∈ emitted := by
  cases returned with
  | raised error => simp [emitSignals, Journal.failed] at recorded
  | signals emitted broke =>
    simp only [emitSignals, Journal.mem_andThen_iff, List.not_mem_nil, and_false,
      or_false] at recorded
    obtain ⟨before, signal, after, rfl, -, recorded⟩ := Journal.mem_each_iff.mp recorded
    obtain ⟨candidate, rfl, same, rfl⟩ := emitSignal_emitted recorded
    exact ⟨candidate, _, broke, rfl, same, rfl, by simp⟩

/-- An entry whose plugin the body of the loop calls. -/
def Calls (engine : StrategyEngine) (arguments : RunArguments) (item : String × StrategyEntry) :
    Prop :=
  (∃ plugin, engine.checkEntry arguments.features item = .ok plugin) ∧
    suppressed arguments.gate item.2 = false

theorem called_mem_runEntry_iff {strategyId : String} :
    .called strategyId ∈ (engine.runEntry arguments watchlist item).events ↔
      strategyId = item.1 ∧ engine.Calls arguments item := by
  unfold runEntry Calls
  cases checked : engine.checkEntry arguments.features item with
  | error error => simp [Journal.failed]
  | ok plugin =>
    cases held : suppressed arguments.gate item.2 with
    | true => simp [Journal.done]
    | false =>
      simp only [Bool.false_eq_true, if_false, Journal.mem_andThen_iff]
      constructor
      · rintro (called | ⟨-, recorded⟩)
        · exact ⟨EngineEvent.called.inj (List.mem_singleton.mp called), ⟨plugin, rfl⟩, trivial⟩
        · obtain ⟨candidate, _, _, wrong, -⟩ := emitSignals_emitted recorded
          exact absurd wrong (by simp)
      · rintro ⟨rfl, -⟩
        exact .inl (List.mem_singleton.mpr rfl)

theorem emitted_mem_runEntry {candidate : AllocationCandidate}
    (recorded : .emitted candidate ∈ (engine.runEntry arguments watchlist item).events) :
    candidate.strategyId = item.1 ∧ suppressed arguments.gate item.2 = false ∧
      ∃ plugin emitted broke, engine.checkEntry arguments.features item = .ok plugin ∧
        callPlugin plugin
          (buildContext arguments watchlist plugin.metadata item.2.parameters) =
            .signals emitted broke ∧ candidate.signal ∈ emitted := by
  unfold runEntry at recorded
  cases checked : engine.checkEntry arguments.features item with
  | error error => simp [checked, Journal.failed] at recorded
  | ok plugin =>
    cases held : suppressed arguments.gate item.2 with
    | true => simp [checked, held, Journal.done] at recorded
    | false =>
      simp only [checked, held, Bool.false_eq_true, if_false, Journal.mem_andThen_iff]
        at recorded
      rcases recorded with called | ⟨-, recorded⟩
      · exact absurd (List.mem_singleton.mp called) (by simp)
      · obtain ⟨other, emitted, broke, same, named, returned, member⟩ :=
          emitSignals_emitted recorded
        obtain rfl := EngineEvent.emitted.inj same
        exact ⟨named, rfl, plugin, emitted, broke, rfl, returned, member⟩

/-! ## What is returned -/

theorem allocate_selected_mem {policy : StrategyAllocationPolicy} {context : AllocationContext}
    {candidates : List AllocationCandidate} {result : AllocationResult}
    (allocated : policy.allocate context candidates = .ok result)
    {candidate : AllocationCandidate} (member : candidate ∈ result.selected) :
    candidate ∈ candidates := by
  cases passing : policy.isPassThrough with
  | true =>
    rw [StrategyAllocationPolicy.allocate, if_pos passing, requireFloats_bind_iff] at allocated
    obtain rfl := Except.ok.inj allocated.2
    exact member
  | false =>
    exact (StrategyAllocationPolicy.mem_of_selected passing allocated member).1

theorem mem_numberedCandidates {journal : EngineJournal} {candidate : AllocationCandidate}
    (member : candidate ∈ numberedCandidates journal) :
    ∃ original, .emitted original ∈ journal.events ∧
      original.strategyId = candidate.strategyId ∧ original.signal = candidate.signal := by
  obtain ⟨index, bound, rfl⟩ := List.mem_mapIdx.mp member
  obtain ⟨event, recorded, found⟩ := List.mem_filterMap.mp (List.getElem_mem bound)
  cases event with
  | called strategyId => exact absurd found (by simp [candidate?])
  | emitted original =>
    refine ⟨original, recorded, ?_⟩
    rw [← Option.some.inj found]
    exact ⟨rfl, rfl⟩

theorem mem_applyAllocation {policy : StrategyAllocationPolicy}
    {candidates returned : List AllocationCandidate}
    (applied : applyAllocation policy arguments candidates = .ok returned)
    {candidate : AllocationCandidate} (member : candidate ∈ returned) :
    candidate ∈ candidates := by
  obtain ⟨results, mapped, applied⟩ := bind_ok applied
  obtain rfl := Except.ok.inj applied
  rw [tryMap_ok mapped] at member
  obtain ⟨result, held, selected⟩ := List.mem_flatMap.mp member
  obtain ⟨symbol, -, allocated⟩ := List.mem_filterMap.mp held
  have worked := (requireFloats_bind_iff.mp (ok_of_toOption allocated)).2
  exact List.mem_of_mem_filter (allocate_selected_mem worked selected)

/-- A returned signal is one that was recorded, of the same strategy. -/
theorem runAll_mem {returned : List AllocationCandidate}
    (ran : engine.runAll arguments = .ok returned) {candidate : AllocationCandidate}
    (member : candidate ∈ returned) :
    ∃ original, .emitted original ∈ (engine.journal arguments).events ∧
      original.strategyId = candidate.strategyId ∧ original.signal = candidate.signal := by
  unfold runAll at ran
  dsimp only at ran
  cases failure : (engine.journal arguments).failure with
  | some error => simp [failure] at ran
  | none =>
    simp only [failure] at ran
    cases attached : engine.allocationPolicy with
    | none =>
      simp only [attached] at ran
      obtain rfl := Except.ok.inj ran
      exact mem_numberedCandidates member
    | some policy =>
      simp only [attached] at ran
      cases applied : applyAllocation policy arguments
          (numberedCandidates (engine.journal arguments)) with
      | error error => simp [applied, Except.mapError] at ran
      | ok selected =>
        rw [applied] at ran
        obtain rfl := Except.ok.inj ran
        exact mem_numberedCandidates (mem_applyAllocation applied member)

/-! ## A plugin for one symbol -/

/-- Emits its symbol whenever it is on the watchlist. -/
def symbolPlugin (metadata : StrategyMetadata) (symbol : String) : Plugin where
  metadata
  generateSignals context :=
    .signals (if symbol ∈ context.watchlist then [{ symbol := .str symbol }] else [])
  evaluate _ := .signals []

/-- The registry that has such a plugin for every strategy of the manifest. -/
def symbolPlugins (manifest : StrategyManifest) (symbol strategyId : String) : Option Plugin :=
  (manifest.strategies.get? strategyId).map
    (fun entry => symbolPlugin entry.metadata.toRuntime symbol)

def called? : EngineEvent → Option String
  | .called strategyId => some strategyId
  | .emitted _ => none

end StrategyEngine

end FxToushi.Strategies
