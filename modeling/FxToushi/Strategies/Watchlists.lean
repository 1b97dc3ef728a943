import FxToushi.Strategies.LifecycleGuard

namespace FxToushi.Strategies

open FxToushi.Core Data Py

/-! # Watchlists

Every plugin of a run is handed the same watchlist: the caller's, or the union
of what the strategies of the manifest watch.
-/

/-- A symbol of the one watchlist every plugin is handed. -/
inductive HandedOut (manifest : StrategyManifest) (arguments : RunArguments) (symbol : String) :
    Prop where
  | given (first : String) (rest : List String)
      (list : arguments.watchlist = some (first :: rest))
      (named : symbol ∈ normaliseSymbolSet (first :: rest).toFinset)
  | watched (unlisted : arguments.watchlist.getD [] = []) (item : String × StrategyEntry)
      (enabled : item ∈ manifest.enabledStrategies)
      (live : item.2.effectiveStatus arguments.wallNow ≠ .deprecated)
      (own : symbol ∈ item.2.watched)
  | unwatched (unlisted : arguments.watchlist.getD [] = [])
      (without : ∀ item ∈ manifest.enabledStrategies,
        item.2.effectiveStatus arguments.wallNow ≠ .deprecated → item.2.watchlist = none)
      (available : symbol ∈ normaliseSymbolSet arguments.features.symbols)

theorem mem_watched_iff {entry : StrategyEntry} {symbol : String} :
    symbol ∈ entry.watched ↔ ∃ own, entry.watchlist = some own ∧ symbol ∈ own.values := by
  unfold StrategyEntry.watched
  cases entry.watchlist with
  | none => simp
  | some own => simp

namespace StrategyManifest

variable {manifest : StrategyManifest} {symbols : Finset String}

theorem validateWatchlists_ok (checked : manifest.validateWatchlists symbols = .ok ())
    {item : String × StrategyEntry} (enabled : item ∈ manifest.enabledStrategies) :
    item.2.watched ⊆ normaliseSymbolSet symbols := by
  unfold validateWatchlists at checked
  split at checked
  · rename_i no_violation
    by_contra outside
    have missing : item.2.watched \ normaliseSymbolSet symbols ≠ ∅ :=
      fun empty => outside (Finset.sdiff_eq_empty_iff_subset.mp empty)
    have reported : (item.1, item.2.watched \ normaliseSymbolSet symbols) ∈
        manifest.watchlistViolations symbols :=
      List.mem_filter.mpr ⟨List.mem_map.mpr ⟨item, enabled, rfl⟩, decide_eq_true missing⟩
    rw [no_violation] at reported
    exact absurd reported List.not_mem_nil
  · exact absurd checked (by simp)

theorem validateFeatureContract_ok {available : Finset String}
    (checked : manifest.validateFeatureContract available = .ok ())
    {item : String × StrategyEntry} (enabled : item ∈ manifest.enabledStrategies) :
    item.2.metadata.requiredFeatureSet \ available = ∅ := by
  unfold validateFeatureContract at checked
  split at checked
  · rename_i none_missing
    by_contra missing
    have reported : (item.1, item.2.metadata.requiredFeatureSet \ available) ∈
        manifest.missingFeatures available :=
      List.mem_filter.mpr ⟨List.mem_map.mpr ⟨item, enabled, rfl⟩, decide_eq_true missing⟩
    rw [none_missing] at reported
    exact absurd reported List.not_mem_nil
  · exact absurd checked (by simp)

theorem mem_watchedSymbols_iff {now : Timestamp} {symbol : String} :
    symbol ∈ manifest.watchedSymbols now ↔
      ∃ item ∈ manifest.enabledStrategies, item.2.effectiveStatus now ≠ .deprecated ∧
        symbol ∈ item.2.watched := by
  simp only [watchedSymbols, StrategyEntry.watched, List.mem_toFinset, List.mem_flatMap,
    List.mem_filter, decide_eq_true_eq, and_assoc]

theorem watchedSymbols_eq_empty_iff {now : Timestamp} :
    manifest.watchedSymbols now = ∅ ↔ ∀ item ∈ manifest.enabledStrategies,
      item.2.effectiveStatus now ≠ .deprecated → item.2.watchlist = none := by
  rw [Finset.eq_empty_iff_forall_notMem]
  simp only [mem_watchedSymbols_iff, mem_watched_iff]
  constructor
  · intro none_watched item enabled live
    cases listed : item.2.watchlist with
    | none => rfl
    | some own =>
      obtain ⟨symbol, member⟩ := List.exists_mem_of_ne_nil _ own.nonempty
      exact absurd ⟨item, enabled, live, own, listed, member⟩ (none_watched symbol)
  · rintro without symbol ⟨item, enabled, live, own, listed, -⟩
    rw [without item enabled live] at listed
    exact absurd listed (by simp)

end StrategyManifest

theorem preflight_ok {manifest : StrategyManifest} {arguments : RunArguments}
    {watchlist : Finset String} (checked : preflight manifest arguments = .ok watchlist) :
    manifest.validateFeatureContract arguments.features.availableKeys = .ok () ∧
      manifest.validateWatchlists arguments.features.symbols = .ok () ∧
      resolveArgument manifest arguments = .ok watchlist := by
  obtain ⟨_, features, checked⟩ := bind_ok checked
  obtain ⟨_, watchlists, resolved⟩ := bind_ok checked
  exact ⟨features, watchlists, resolved⟩

theorem mem_resolved_iff {manifest : StrategyManifest} {symbols resolved : Finset String}
    {now : Timestamp} (checked : manifest.validateWatchlists symbols = .ok ())
    (returned : manifest.resolveWatchlist symbols now = .ok resolved) {symbol : String} :
    symbol ∈ resolved ↔ symbol ∈ manifest.watchedSymbols now ∨
      manifest.watchedSymbols now = ∅ ∧ symbol ∈ normaliseSymbolSet symbols := by
  obtain ⟨_, -, returned⟩ := bind_ok returned
  have available : manifest.watchedSymbols now ⊆ normaliseSymbolSet symbols := by
    intro other watched
    obtain ⟨item, enabled, -, own⟩ := StrategyManifest.mem_watchedSymbols_iff.mp watched
    exact StrategyManifest.validateWatchlists_ok checked enabled own
  dsimp only at returned
  rw [Finset.inter_eq_left.mpr available] at returned
  rw [← Except.ok.inj returned]
  by_cases empty : manifest.watchedSymbols now = ∅
  · simp [empty]
  · simp [empty]

/-- The watchlist a run resolves to, in terms of its arguments. -/
theorem mem_watchlist_iff {manifest : StrategyManifest} {arguments : RunArguments}
    {watchlist : Finset String} (checked : preflight manifest arguments = .ok watchlist)
    {symbol : String} : symbol ∈ watchlist ↔ HandedOut manifest arguments symbol := by
  obtain ⟨-, watchlists, resolved⟩ := preflight_ok checked
  unfold resolveArgument at resolved
  split at resolved
  · rename_i first rest list
    dsimp only at resolved
    split at resolved
    · obtain rfl := Except.ok.inj resolved
      constructor
      · exact .given first rest list
      · intro handed
        cases handed with
        | given other others same named =>
          obtain ⟨rfl, rfl⟩ := List.cons.inj (Option.some.inj (list.symm.trans same))
          exact named
        | watched unlisted => simp [list] at unlisted
        | unwatched unlisted => simp [list] at unlisted
    · exact absurd resolved (by simp)
  · rename_i unlisted
    have empty : arguments.watchlist.getD [] = [] := by
      cases list : arguments.watchlist with
      | none => rfl
      | some symbols =>
        cases symbols with
        | nil => rfl
        | cons first rest => exact absurd list (unlisted first rest)
    rw [mem_resolved_iff watchlists resolved, StrategyManifest.mem_watchedSymbols_iff,
      StrategyManifest.watchedSymbols_eq_empty_iff]
    constructor
    · rintro (⟨item, enabled, live, own⟩ | ⟨without, available⟩)
      · exact .watched empty item enabled live own
      · exact .unwatched empty without available
    · intro handed
      cases handed with
      | given first rest list named => exact absurd list (unlisted first rest)
      | watched _ item enabled live own => exact .inl ⟨item, enabled, live, own⟩
      | unwatched _ without available => exact .inr ⟨without, available⟩

namespace StrategyEngine

variable {engine : StrategyEngine} {manifest : StrategyManifest} {arguments : RunArguments}
  {watchlist : Finset String} {item : String × StrategyEntry}

/-! ## Plugins that keep to the watchlist they are handed -/

def WatchedReturn (context : StrategyContext) : PluginReturn → Prop
  | .raised _ => True
  | .signals emitted _ =>
    ∀ signal ∈ emitted, ∃ symbol ∈ context.watchlist, signal.symbol = .str symbol

structure EmitsWatched (plugin : Plugin) : Prop where
  generated : ∀ context, WatchedReturn context (plugin.generateSignals context)
  evaluated : ∀ context, WatchedReturn context (plugin.evaluate context)

theorem EmitsWatched.called {plugin : Plugin} (watched : EmitsWatched plugin)
    (context : StrategyContext) : WatchedReturn context (callPlugin plugin context) := by
  have generated := watched.generated context
  unfold callPlugin
  split
  · exact watched.evaluated context
  · exact generated

theorem checkEntry_ok {features : FeatureContext} {plugin : Plugin}
    (checked : engine.checkEntry features item = .ok plugin) :
    engine.plugins item.1 = some plugin := by
  unfold checkEntry at checked
  cases registered : engine.plugins item.1 with
  | none => simp [registered] at checked
  | some other =>
    simp only [registered] at checked
    split at checked
    · exact absurd checked (by simp)
    · split at checked
      · exact absurd checked (by simp)
      · split at checked
        · exact congrArg some (Except.ok.inj checked)
        · exact absurd checked (by simp)

/-- For every registry of such plugins, each returned signal of a strategy with
a watchlist has a symbol of that watchlist. -/
def TradesOwnWatchlists (manifest : StrategyManifest) (arguments : RunArguments) : Prop :=
  ∀ engine : StrategyEngine, engine.manifest = manifest →
    (∀ strategyId plugin, engine.plugins strategyId = some plugin → EmitsWatched plugin) →
    ∀ returned, engine.runAll arguments = .ok returned → ∀ candidate ∈ returned,
      ∀ entry own, manifest.strategies.get? candidate.strategyId = some entry →
        entry.watchlist = some own → ∃ symbol ∈ own.values, candidate.signal.symbol = .str symbol

/-- Every symbol that is handed out is on the watchlist of each enabled strategy
that has one and is not held back by the guarded mode. -/
def OwnWatchlistsCover (manifest : StrategyManifest) (arguments : RunArguments) : Prop :=
  ∀ item ∈ manifest.enabledStrategies, suppressed arguments.gate item.2 = false →
    ∀ own, item.2.watchlist = some own →
      ∀ symbol, HandedOut manifest arguments symbol → symbol ∈ own.values

theorem tradesOwn_of_cover (checked : preflight manifest arguments = .ok watchlist)
    (cover : OwnWatchlistsCover manifest arguments) : TradesOwnWatchlists manifest arguments := by
  rintro engine rfl watched returned ran candidate member entry own found listed
  obtain ⟨original, recorded, same, signal⟩ := runAll_mem ran member
  obtain ⟨handed, passed, before, item, after, split, earlier, recorded⟩ :=
    mem_journal_iff.mp recorded
  obtain rfl := Except.ok.inj (passed.symm.trans checked)
  obtain ⟨named, free, plugin, emitted, broke, accepted, called, member⟩ :=
    emitted_mem_runEntry recorded
  have reached : engine.Reaches arguments item :=
    ⟨handed, passed, before, after, split, earlier⟩
  obtain ⟨enabled, entryOf⟩ := reached.mem_entries
  rw [← same, named, entryOf] at found
  obtain rfl := Option.some.inj found
  have kept := (watched item.1 plugin (checkEntry_ok accepted)).called
    (buildContext arguments handed plugin.metadata item.2.parameters)
  rw [called] at kept
  obtain ⟨symbol, onList, text⟩ := kept _ member
  rw [← signal]
  exact ⟨symbol, cover item enabled free own listed symbol ((mem_watchlist_iff checked).mp onList),
    text⟩

/-! ## A run with one symbol -/

theorem symbolPlugin_emitsWatched (metadata : StrategyMetadata) (symbol : String) :
    EmitsWatched (symbolPlugin metadata symbol) := by
  refine ⟨fun context => ?_, fun context => ?_⟩
  · simp only [symbolPlugin, WatchedReturn]
    split
    · rename_i watched
      intro signal member
      rw [List.mem_singleton.mp member]
      exact ⟨symbol, watched, rfl⟩
    · exact fun _ member => absurd member List.not_mem_nil
  · exact fun _ member => absurd member List.not_mem_nil

def symbolEngine (manifest : StrategyManifest) (symbol : String) : StrategyEngine where
  plugins := symbolPlugins manifest symbol
  manifest

theorem symbolEngine_checkEntry (symbol : String)
    (checked : preflight manifest arguments = .ok watchlist)
    (enabled : item ∈ manifest.enabledStrategies) :
    (symbolEngine manifest symbol).checkEntry arguments.features item =
      .ok (symbolPlugin item.2.metadata.toRuntime symbol) := by
  have found : manifest.strategies.get? item.1 = some item.2 :=
    (Dict.get?_eq_some_iff _).mpr (StrategyManifest.mem_enabledStrategies.mp enabled).1
  have registered : (symbolEngine manifest symbol).plugins item.1 =
      some (symbolPlugin item.2.metadata.toRuntime symbol) := by
    simp [symbolEngine, symbolPlugins, found]
  have features := StrategyManifest.validateFeatureContract_ok (preflight_ok checked).1 enabled
  simp only [checkEntry, registered, symbolPlugin, ne_eq, not_true_eq_false, or_self, if_false]
  exact if_pos features

def symbolCandidate (item : String × StrategyEntry) (symbol : String) : AllocationCandidate where
  objectId := 0
  strategyId := item.1
  signal := { symbol := .str symbol }
  priority := item.2.priority
  weight := .finite item.2.weight
  parameters := item.2.parameters

theorem symbolEngine_runEntry (symbol : String)
    (checked : preflight manifest arguments = .ok watchlist)
    (enabled : item ∈ manifest.enabledStrategies) :
    (symbolEngine manifest symbol).runEntry arguments watchlist item =
      .done (if suppressed arguments.gate item.2 then [] else
        .called item.1 ::
          if symbol ∈ watchlist then [.emitted (symbolCandidate item symbol)] else []) := by
  rw [runEntry, symbolEngine_checkEntry symbol checked enabled]
  cases held : suppressed arguments.gate item.2 with
  | true => rfl
  | false =>
    by_cases handed : symbol ∈ watchlist
    · simp [callPlugin, symbolPlugin, buildContext, handed, emitSignals, emitSignal,
        symbolEngine, Journal.each, Journal.andThen, Journal.done, symbolCandidate]
    · simp [callPlugin, symbolPlugin, buildContext, handed, emitSignals,
        Journal.each, Journal.andThen, Journal.done]

theorem numberedCandidates_of_emitted {journal : EngineJournal} {original : AllocationCandidate}
    (recorded : .emitted original ∈ journal.events) :
    ∃ candidate ∈ numberedCandidates journal, candidate.strategyId = original.strategyId ∧
      candidate.signal = original.signal := by
  have kept : original ∈ journal.events.filterMap candidate? :=
    List.mem_filterMap.mpr ⟨_, recorded, rfl⟩
  obtain ⟨index, bound, found⟩ := List.getElem_of_mem kept
  refine ⟨_, List.mem_mapIdx.mpr ⟨index, bound, rfl⟩, ?_, ?_⟩
  · rw [found]
  · rw [found]

theorem journal_eq (checked : preflight engine.manifest arguments = .ok watchlist) :
    engine.journal arguments =
      Journal.each (engine.runEntry arguments watchlist) (orderedEntries engine.manifest) := by
  rw [journal, checked]

theorem runAll_of_passed (passed : (engine.journal arguments).failure = none)
    (plain : engine.allocationPolicy = none) :
    engine.runAll arguments = .ok (numberedCandidates (engine.journal arguments)) := by
  simp only [runAll, passed, plain]

/-- A symbol that is handed out is traded for every entry that is not held back. -/
theorem handedOut_mem_own (own_only : TradesOwnWatchlists manifest arguments)
    (checked : preflight manifest arguments = .ok watchlist)
    (enabled : item ∈ manifest.enabledStrategies)
    (free : suppressed arguments.gate item.2 = false) {own : Tokens}
    (listed : item.2.watchlist = some own) {symbol : String}
    (handed : HandedOut manifest arguments symbol) : symbol ∈ own.values := by
  have onList := (mem_watchlist_iff checked).mpr handed
  have journal := @journal_eq (symbolEngine manifest symbol) arguments watchlist checked
  have passed : ((symbolEngine manifest symbol).journal arguments).failure = none := by
    rw [journal, Journal.each_failure_none_iff]
    intro other member
    rw [symbolEngine_runEntry symbol checked (mem_orderedEntries.mp member)]
    rfl
  have emitted : .emitted (symbolCandidate item symbol) ∈
      ((symbolEngine manifest symbol).journal arguments).events := by
    rw [journal] at passed ⊢
    refine Journal.mem_each (mem_orderedEntries.mpr enabled) passed ?_
    rw [symbolEngine_runEntry symbol checked enabled, free]
    simp [onList, Journal.done]
  have returned := runAll_of_passed passed rfl
  have found : manifest.strategies.get? item.1 = some item.2 :=
    (Dict.get?_eq_some_iff _).mpr (StrategyManifest.mem_enabledStrategies.mp enabled).1
  obtain ⟨candidate, member, named, signal⟩ := numberedCandidates_of_emitted emitted
  have kept : ∀ strategyId plugin,
      (symbolEngine manifest symbol).plugins strategyId = some plugin → EmitsWatched plugin := by
    intro strategyId plugin registered
    obtain ⟨entry, -, rfl⟩ := Option.map_eq_some_iff.mp registered
    exact symbolPlugin_emitsWatched _ symbol
  obtain ⟨other, own_symbol, text⟩ := own_only (symbolEngine manifest symbol) rfl kept _ returned
    candidate member item.2 own (by rw [named]; exact found) listed
  rw [signal] at text
  obtain rfl := Value.str.inj text
  exact own_symbol

theorem tradesOwnWatchlists_iff (checked : preflight manifest arguments = .ok watchlist) :
    TradesOwnWatchlists manifest arguments ↔ OwnWatchlistsCover manifest arguments :=
  ⟨fun own_only _ enabled free _ listed _ handed =>
      handedOut_mem_own own_only checked enabled free listed handed,
    tradesOwn_of_cover checked⟩

def yenWatchlist : Tokens := ⟨["USDJPY"], by decide, by decide, by decide⟩

def euroWatchlist : Tokens := ⟨["EURUSD"], by decide, by decide, by decide⟩

def yenManifest : StrategyManifest where
  strategies := ⟨[("m1", plainEntry "M1" (some yenWatchlist))], by decide⟩
  nonempty := List.cons_ne_nil _ _
  named := by decide
  weights := by decide +kernel

def yenAndEuroManifest : StrategyManifest where
  strategies :=
    ⟨[("m1", plainEntry "M1" (some yenWatchlist)), ("m2", plainEntry "M2" (some euroWatchlist))],
      by decide⟩
  nonempty := List.cons_ne_nil _ _
  named := by decide
  weights := by decide +kernel

def majorArguments : RunArguments where
  features := { symbols := {"USDJPY", "EURUSD"}, availableKeys := {"close_5m"} }
  now := 0
  wallNow := 0

theorem tradesOwnWatchlists_yen :
    TradesOwnWatchlists yenManifest majorArguments ↔
      OwnWatchlistsCover yenManifest majorArguments := by
  obtain ⟨watchlist, checked⟩ := exists_ok (preflight yenManifest majorArguments)
    (by decide +kernel)
  exact tradesOwnWatchlists_iff checked

/-- The first strategy trades what only the second one watches. -/
theorem foreign_symbol_traded :
    ¬ ∀ manifest arguments watchlist, preflight manifest arguments = .ok watchlist →
      TradesOwnWatchlists manifest arguments := by
  intro holds
  obtain ⟨watchlist, checked⟩ := exists_ok (preflight yenAndEuroManifest majorArguments)
    (by decide +kernel)
  have first : ("m1", plainEntry "M1" (some yenWatchlist)) ∈
      yenAndEuroManifest.enabledStrategies := List.mem_cons_self
  have second : ("m2", plainEntry "M2" (some euroWatchlist)) ∈
      yenAndEuroManifest.enabledStrategies := List.mem_cons_of_mem _ List.mem_cons_self
  have handed : HandedOut yenAndEuroManifest majorArguments "EURUSD" :=
    .watched rfl _ second (by decide) (by decide)
  have own := handedOut_mem_own (holds _ _ _ checked) checked first (by decide) rfl handed
  exact absurd own (by decide)

end StrategyEngine

end FxToushi.Strategies
