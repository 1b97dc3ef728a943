import FxToushi.Core.GateAggregator
import Mathlib.Algebra.Order.Field.Rat

namespace FxToushi.Risk

open Data Py FxToushi.Core

/-! # The liquidity monitor

Quotes of several sources are gathered per symbol inside a sliding window.  An
update assesses one symbol, that of its last sample, and writes the result to
the one liquidity field of the gate.
-/

def pipSize (symbol : String) : Rat :=
  let normalized := upper (String.ofList (symbol.toList.filter (fun char => char != '/')))
  if ['J', 'P', 'Y'].isSuffixOf normalized.toList then 1 / 100 else 1 / 10000

def sortedValues (values : List Rat) : List Rat :=
  values.mergeSort (fun left right => decide (left ≤ right))

/-- `_percentile`, the value at the rounded rank. -/
def percentile (values : List Rat) (percent : Rat) : Option Rat :=
  let rank := roundHalfEven (percent / 100 * ((values.length : Rat) - 1))
  (sortedValues values)[(min (max rank 0) (values.length - 1 : Int)).toNat]?

/-- `statistics.median` of a list that is not empty. -/
def median (values : List Rat) : Rat :=
  let sorted := sortedValues values
  let half := values.length / 2
  if values.length % 2 = 1 then sorted.getD half 0
  else (sorted.getD (half - 1) 0 + sorted.getD half 0) / 2

structure LiquiditySample where
  source : String
  symbol : String
  ts : Int
  bid : Rat
  ask : Rat
  spread : Rat
  updateLatencyMs : Rat
deriving Repr, DecidableEq

structure LiquidityThresholds where
  divergenceWarnPips : Rat := 3 / 2
  divergenceAlertPips : Rat := 3
  latencyWarnMs : Rat := 1500
  latencyAlertMs : Rat := 3000
  spreadWarnMultiplier : Rat := 2
  spreadAlertMultiplier : Rat := 3
deriving Repr, DecidableEq

inductive AlertSeverity where
  | warning
  | critical
deriving Repr, DecidableEq

structure LiquidityAlert where
  code : String
  severity : AlertSeverity
  symbol : String
  detail : String
deriving Repr, DecidableEq

inductive LiquidityState where
  | normal
  | watch
  | guarded
  | halted
deriving Repr, DecidableEq

namespace LiquidityState

def text : LiquidityState → String
  | .normal => "normal"
  | .watch => "watch"
  | .guarded => "guarded"
  | .halted => "halted"

def rank : LiquidityState → Nat
  | .normal => 0
  | .watch => 1
  | .guarded => 2
  | .halted => 3

theorem text_injective {left right : LiquidityState} (same : left.text = right.text) :
    left = right := by
  cases left <;> cases right <;> first | rfl | exact absurd same (by decide)

end LiquidityState

structure SourceQuote where
  bid : Rat
  ask : Rat
  spread : Rat
  updateLatencyMs : Rat
deriving Repr, DecidableEq

structure LiquiditySnapshot where
  symbol : String
  state : LiquidityState
  divergenceP95 : Option Rat
  updateLatencyP95 : Option Rat
  spreadMultiplier : Option Rat
  staleRatio : Option Rat
  alerts : List LiquidityAlert
  recommendation : String
  runbook : Option String
  updatedAt : Int
  sources : Dict String SourceQuote
deriving DecidableEq

inductive LiquidityError where
  | sampleError (message : String)
  | symbolNotFound (message : String)
deriving Repr, DecidableEq

/-! ## Assessing the samples of a symbol -/

/-- The last sample of every source, by time. -/
def latestBySource (items : List LiquiditySample) : Dict String LiquiditySample :=
  (items.mergeSort (fun left right => decide (left.ts ≤ right.ts))).foldl
    (fun bySource sample => bySource.set sample.source sample) Dict.empty

def midPrice (sample : LiquiditySample) : Rat := (sample.bid + sample.ask) / 2

/-- The distance of any two sources' mid prices, in pips. -/
def divergences (pip : Rat) : List LiquiditySample → List Rat
  | [] => []
  | first :: rest =>
    rest.map (fun second =>
      let gap := midPrice first - midPrice second
      (if gap < 0 then -gap else gap) / pip) ++ divergences pip rest

def spreadMultiplierOf (spreads : List Rat) : Option Rat :=
  match spreads with
  | [] => none
  | first :: rest =>
    let baseline := median spreads
    if 0 < baseline then some (rest.foldl max first / baseline) else none

/-- At most one alert of one kind: critical from the alert level on, a warning
from the warn level on. -/
def gradedAlert (code symbol : String) (alertAt warnAt : Rat) (detail : Rat → String) :
    Option Rat → List LiquidityAlert
  | none => []
  | some value =>
    if alertAt ≤ value then [⟨code, .critical, symbol, detail value⟩]
    else if warnAt ≤ value then [⟨code, .warning, symbol, detail value⟩]
    else []

def runbookPath : String := "docs/runbooks/RUN-LIQ-01.md"

def raiseAlerts (symbol : String) (thresholds : LiquidityThresholds)
    (divergenceP95 updateLatencyP95 spreadMultiplier : Option Rat) : List LiquidityAlert :=
  gradedAlert "price_divergence" symbol thresholds.divergenceAlertPips
    thresholds.divergenceWarnPips
    (fun value => "divergence_p95=" ++ formatFixed 2 value ++ "pips") divergenceP95 ++
  gradedAlert "stale_quote" symbol thresholds.latencyAlertMs thresholds.latencyWarnMs
    (fun value => "update_latency_p95=" ++ formatFixed 0 value ++ "ms") updateLatencyP95 ++
  gradedAlert "spread_shock" symbol thresholds.spreadAlertMultiplier
    thresholds.spreadWarnMultiplier
    (fun value => "spread_multiplier=" ++ formatFixed 2 value) spreadMultiplier

/-- The state, the recommendation and the runbook the alerts call for. -/
def judge (alerts : List LiquidityAlert) (measured : Bool) :
    LiquidityState × String × Option String :=
  if alerts.any (fun alert => alert.severity == .critical) then
    (.halted, "halted", some runbookPath)
  else if alerts ≠ [] then (.guarded, "guarded", some runbookPath)
  else if measured then (.watch, "monitor", none)
  else (.normal, "monitor", none)

def buildSnapshot (items : List LiquiditySample) (symbol : String)
    (thresholds : LiquidityThresholds) (updatedAt : Int) :
    Except LiquidityError LiquiditySnapshot :=
  if items = [] then
    .error (.symbolNotFound ("Symbol '" ++ symbol ++ "' not registered"))
  else
    let bySource := latestBySource items
    let sources := bySource.entries.map Prod.snd
    let divergenceP95 := percentile (divergences (pipSize symbol) sources) 95
    let latencies := items.map LiquiditySample.updateLatencyMs
    let updateLatencyP95 := percentile latencies 95
    let spreadMultiplier := spreadMultiplierOf (items.map LiquiditySample.spread)
    let alerts := raiseAlerts symbol thresholds divergenceP95 updateLatencyP95 spreadMultiplier
    let judged := judge alerts (divergenceP95.isSome || updateLatencyP95.isSome)
    let stale := latencies.countP (fun latency => decide (thresholds.latencyWarnMs ≤ latency))
    .ok {
      symbol, divergenceP95, updateLatencyP95, spreadMultiplier, alerts, updatedAt
      state := judged.1
      recommendation := judged.2.1
      runbook := judged.2.2
      staleRatio :=
        if latencies = [] then none else some ((stale : Rat) / max latencies.length 1)
      sources := bySource.mapValues (fun sample =>
        SourceQuote.mk sample.bid sample.ask sample.spread sample.updateLatencyMs) }

/-! ## The service -/

/-- One call of `update`, with the clock as it is read for the window and for
the snapshot, and the hashes of the manifest the gate is stored with. -/
structure Update where
  batch : List LiquiditySample
  windowSec : Int := 300
  thresholds : LiquidityThresholds := {}
  now : Int
  updatedAt : Int
  cfgHash : Option String := none
  dataHash : Option String := none

/-- `gate` is the gate file, if it can be read, and `last` the last update that
wrote it, for the statements only. -/
structure LiquidityMonitorService where
  samples : Dict String (List LiquiditySample) := Dict.empty
  latestSnapshots : Dict String LiquiditySnapshot := Dict.empty
  gate : Option GateState := none
  last : Option Update := none

def appendSamples (samples : Dict String (List LiquiditySample)) (batch : List LiquiditySample) :
    Dict String (List LiquiditySample) :=
  batch.foldl (fun samples sample =>
    samples.set sample.symbol ((samples.get? sample.symbol).getD [] ++ [sample])) samples

def Update.inWindow (update : Update) (sample : LiquiditySample) : Bool :=
  decide (update.now - sample.ts ≤ update.windowSec * 1000000)

def Update.gathered (update : Update) (samples : Dict String (List LiquiditySample)) :
    Dict String (List LiquiditySample) :=
  (appendSamples samples update.batch).mapValues (fun items => items.filter update.inWindow)

def updateGateState (gate : Option GateState) (update : Update) (snapshot : LiquiditySnapshot) :
    GateState :=
  GateAggregator.setHashes
    (GateAggregator.updateLiquidity (gate.getD GateState.default) (some {
      state := snapshot.state.text
      recommendation := some snapshot.recommendation
      updatedAt := some snapshot.updatedAt }))
    update.cfgHash update.dataHash

namespace LiquidityMonitorService

/-- The snapshot of a symbol from the samples held now. -/
def snapshotFor (samples : Dict String (List LiquiditySample)) (update : Update) (symbol : String) :
    Except LiquidityError LiquiditySnapshot :=
  buildSnapshot ((samples.get? symbol).getD []) symbol update.thresholds update.updatedAt

def update (service : LiquidityMonitorService) (update : Update) :
    Except LiquidityError LiquiditySnapshot × LiquidityMonitorService :=
  match update.batch.getLast? with
  | none => (.error (.sampleError "No liquidity samples provided"), service)
  | some sample =>
    let samples := update.gathered service.samples
    match snapshotFor samples update sample.symbol with
    | .error error => (.error error, { service with samples })
    | .ok snapshot => (.ok snapshot, {
        samples
        latestSnapshots := service.latestSnapshots.set sample.symbol snapshot
        gate := some (updateGateState service.gate update snapshot)
        last := some update })

def step (service : LiquidityMonitorService) (update : Update) : LiquidityMonitorService :=
  (service.update update).2

/-! ## The gate after an update -/

theorem updateGateState_state (gate : Option GateState) (update : Update)
    (snapshot : LiquiditySnapshot) :
    (updateGateState gate update snapshot).market.liquidity.state = snapshot.state.text := by
  unfold updateGateState GateAggregator.setHashes GateAggregator.updateLiquidity
  dsimp only
  split
  · rfl
  · rfl

def InsideWindow (_ : LiquidityMonitorService) (update : Update) : Prop :=
  ∀ sample ∈ update.batch, update.inWindow sample = true

theorem appendSamples_kept {samples : Dict String (List LiquiditySample)}
    {sample : LiquiditySample} {symbol : String} (batch : List LiquiditySample)
    (held : sample ∈ (samples.get? symbol).getD []) :
    sample ∈ ((appendSamples samples batch).get? symbol).getD [] := by
  induction batch generalizing samples with
  | nil => exact held
  | cons first rest ih =>
    refine ih ?_
    rw [Dict.get?_set]
    split
    · rename_i same
      rw [same]
      exact List.mem_append_left _ held
    · exact held

theorem appendSamples_added (samples : Dict String (List LiquiditySample))
    {batch : List LiquiditySample} {sample : LiquiditySample} (member : sample ∈ batch) :
    sample ∈ ((appendSamples samples batch).get? sample.symbol).getD [] := by
  induction batch generalizing samples with
  | nil => cases member
  | cons first rest ih =>
    rcases List.mem_cons.mp member with rfl | later
    · refine appendSamples_kept rest ?_
      rw [Dict.get?_set, if_pos rfl]
      exact List.mem_append_right _ (List.mem_singleton_self sample)
    · exact ih _ later

theorem gathered_mem {service : LiquidityMonitorService} {update : Update}
    (inside : InsideWindow service update) {sample : LiquiditySample}
    (member : sample ∈ update.batch) :
    sample ∈ ((update.gathered service.samples).get? sample.symbol).getD [] := by
  have added := appendSamples_added service.samples member
  rw [Update.gathered, Dict.get?_mapValues]
  cases held : (appendSamples service.samples update.batch).get? sample.symbol with
  | none => rw [held] at added; cases added
  | some items =>
    rw [held] at added
    exact List.mem_filter.mpr ⟨added, inside sample member⟩

theorem snapshotFor_ok {service : LiquidityMonitorService} {update : Update}
    (inside : InsideWindow service update) {sample : LiquiditySample}
    (member : sample ∈ update.batch) :
    ∃ snapshot, snapshotFor (update.gathered service.samples) update sample.symbol =
      .ok snapshot := by
  have held := gathered_mem inside member
  unfold snapshotFor buildSnapshot
  rw [if_neg (List.ne_nil_of_mem held)]
  exact ⟨_, rfl⟩

/-- The gate shows a state at least as severe as `state`. -/
def Shows (service : LiquidityMonitorService) (state : LiquidityState) : Prop :=
  ∃ gate held, service.gate = some gate ∧
    gate.market.liquidity.state = LiquidityState.text held ∧ state.rank ≤ held.rank

/-- The gate shows the state of every symbol of the last batch, from the samples
held, and of the latest snapshot of every other symbol. -/
def Visible (service : LiquidityMonitorService) : Prop :=
  ∀ update, service.last = some update →
    (∀ sample ∈ update.batch, ∀ snapshot,
      snapshotFor service.samples update sample.symbol = .ok snapshot →
        service.Shows snapshot.state) ∧
    ∀ symbol ∉ update.batch.map LiquiditySample.symbol, ∀ snapshot,
      service.latestSnapshots.get? symbol = some snapshot → service.Shows snapshot.state

/-- The symbol of the last sample is as severe as every other symbol of the
batch, and as the latest snapshots of the symbols outside of it. -/
def LastMostSevere (service : LiquidityMonitorService) (update : Update) : Prop :=
  let samples := update.gathered service.samples
  ∀ last, update.batch.getLast? = some last →
    ∀ assessed, snapshotFor samples update last.symbol = .ok assessed →
      (∀ sample ∈ update.batch, ∀ snapshot,
        snapshotFor samples update sample.symbol = .ok snapshot →
          snapshot.state.rank ≤ assessed.state.rank) ∧
      ∀ symbol ∉ update.batch.map LiquiditySample.symbol, ∀ snapshot,
        service.latestSnapshots.get? symbol = some snapshot →
          snapshot.state.rank ≤ assessed.state.rank

section Step

variable {service : LiquidityMonitorService} {update : Update}

theorem step_of_empty (empty : update.batch.getLast? = none) : service.step update = service := by
  unfold step LiquidityMonitorService.update
  rw [empty]

theorem step_of_last {sample : LiquiditySample} {snapshot : LiquiditySnapshot}
    (last : update.batch.getLast? = some sample)
    (assessed : snapshotFor (update.gathered service.samples) update sample.symbol = .ok snapshot) :
    service.step update = {
      samples := update.gathered service.samples
      latestSnapshots := service.latestSnapshots.set sample.symbol snapshot
      gate := some (updateGateState service.gate update snapshot)
      last := some update } := by
  unfold step LiquidityMonitorService.update
  simp only [last, assessed]

theorem shows_step {sample : LiquiditySample} {snapshot : LiquiditySnapshot}
    (last : update.batch.getLast? = some sample)
    (assessed : snapshotFor (update.gathered service.samples) update sample.symbol = .ok snapshot)
    (state : LiquidityState) :
    (service.step update).Shows state ↔ state.rank ≤ snapshot.state.rank := by
  rw [step_of_last last assessed]
  constructor
  · rintro ⟨gate, held, written, text, severe⟩
    rw [← Option.some.inj written, updateGateState_state] at text
    rwa [LiquidityState.text_injective text]
  · intro severe
    exact ⟨_, snapshot.state, rfl, updateGateState_state _ _ _, severe⟩

/-- Every update overwrites what the gate showed before. -/
theorem visible_step_iff {sample : LiquiditySample} (inside : InsideWindow service update)
    (last : update.batch.getLast? = some sample) :
    (service.step update).Visible ↔ service.LastMostSevere update := by
  have member : sample ∈ update.batch := List.mem_of_getLast? last
  obtain ⟨assessed, snapshots⟩ := snapshotFor_ok inside member
  have shows := shows_step last snapshots
  have after := step_of_last last snapshots
  have others : ∀ symbol ∉ update.batch.map LiquiditySample.symbol,
      (service.step update).latestSnapshots.get? symbol = service.latestSnapshots.get? symbol := by
    intro symbol outside
    rw [after, Dict.get?_set, if_neg]
    rintro rfl
    exact outside (List.mem_map_of_mem member)
  constructor
  · intro visible other isLast snapshot found
    obtain rfl := Option.some.inj (last.symm.trans isLast)
    obtain rfl := Except.ok.inj (snapshots.symm.trans found)
    obtain ⟨batch, outside⟩ := visible update (by rw [after])
    refine ⟨fun sample member held heldSnapshot => ?_, fun symbol absent held heldSnapshot => ?_⟩
    · refine (shows held.state).mp (batch sample member held ?_)
      rw [after]
      exact heldSnapshot
    · have unchanged := (others symbol absent).trans heldSnapshot
      exact (shows held.state).mp (outside symbol absent held unchanged)
  · intro severe other isLast
    rw [after] at isLast
    obtain rfl := Option.some.inj isLast
    obtain ⟨batch, outside⟩ := severe sample last assessed snapshots
    refine ⟨fun sample member held heldSnapshot => ?_, fun symbol absent held heldSnapshot => ?_⟩
    · rw [after] at heldSnapshot
      exact (shows held.state).mpr (batch sample member held heldSnapshot)
    · rw [others symbol absent] at heldSnapshot
      exact (shows held.state).mpr (outside symbol absent held heldSnapshot)

end Step

/-- Over any run of updates the gate shows every symbol exactly when each batch
ends with a symbol that is as severe as all the others. -/
theorem visible_iff_lastMostSevere (gate : Option GateState) {updates : List Update}
    (inside : EachStep step InsideWindow { gate } updates) :
    Throughout step Visible { gate } updates ↔ EachStep step LastMostSevere { gate } updates := by
  refine throughout_iff_eachStep_of_promise Visible (fun _ visible => visible) ?_ ?_ ?_ inside
  · intro service update visible inside severe
    cases last : update.batch.getLast? with
    | none => rwa [step_of_empty last]
    | some sample => exact (visible_step_iff inside last).mpr severe
  · intro service update _ inside visible
    cases last : update.batch.getLast? with
    | none => exact fun sample absurdity => by rw [last] at absurdity; cases absurdity
    | some sample => exact (visible_step_iff inside last).mp visible
  · exact fun update absurdity => by cases absurdity

/-- A quote in the window, as late as `latency` milliseconds. -/
def quote (symbol : String) (latency : Rat) : LiquiditySample where
  source := "primary"
  symbol
  ts := 0
  bid := 150
  ask := 150
  spread := 0
  updateLatencyMs := latency

def quotes (samples : List LiquiditySample) : Update where
  batch := samples
  now := 0
  updatedAt := 0

theorem percentile_singleton (value : Rat) : percentile [value] 95 = some value := by
  have rank : roundHalfEven (95 / 100 * ((1 : Nat) - 1 : Rat)) = 0 := by
    decide +kernel
  simp only [percentile, List.length_singleton, rank]
  simp [sortedValues]

theorem percentile_nil : percentile [] 95 = none := by
  simp [percentile, sortedValues]

theorem buildSnapshot_quote (symbol : String) (latency : Rat) :
    ∃ snapshot, buildSnapshot [quote symbol latency] symbol {} 0 = .ok snapshot ∧
      snapshot.state = if 3000 ≤ latency then .halted else
        if 1500 ≤ latency then .guarded else .watch := by
  refine ⟨_, rfl, ?_⟩
  have bySource : (latestBySource [quote symbol latency]).entries.map Prod.snd =
      [quote symbol latency] := by
    simp [latestBySource, Dict.set, Dict.empty, Dict.assign]
  have divergence : percentile (divergences (pipSize symbol)
      ((latestBySource [quote symbol latency]).entries.map Prod.snd)) 95 = none := by
    rw [bySource]
    exact percentile_nil
  have late : percentile ([quote symbol latency].map LiquiditySample.updateLatencyMs) 95 =
      some latency := percentile_singleton latency
  have spread : spreadMultiplierOf ([quote symbol latency].map LiquiditySample.spread) = none := by
    simp [quote, spreadMultiplierOf, median, sortedValues]
  simp only [divergence, late, spread, raiseAlerts, gradedAlert, List.nil_append, List.append_nil]
  by_cases critical : 3000 ≤ latency
  · simp [critical, judge]
  · by_cases warned : 1500 ≤ latency
    · simp [critical, warned, judge]
    · simp [critical, warned, judge]

theorem snapshotFor_quote (update : Update) (symbol : String) (latency : Rat)
    (held : (update.gathered Dict.empty).get? symbol = some [quote symbol latency])
    (standard : update.thresholds = {}) (stamped : update.updatedAt = 0) :
    ∃ snapshot, snapshotFor (update.gathered Dict.empty) update symbol = .ok snapshot ∧
      snapshot.state = if 3000 ≤ latency then .halted else
        if 1500 ≤ latency then .guarded else .watch := by
  unfold snapshotFor
  rw [held, standard, stamped]
  exact buildSnapshot_quote symbol latency

theorem rank_le_halted (state : LiquidityState) : state.rank ≤ LiquidityState.rank .halted := by
  cases state <;> decide

/-- A halted symbol that ends the batch is shown. -/
theorem visible_halted_last :
    Throughout step Visible {} [quotes [quote "EURUSD" 0, quote "USDJPY" 5000]] := by
  have inside : EachStep step InsideWindow {} [quotes [quote "EURUSD" 0, quote "USDJPY" 5000]] :=
    ⟨show ∀ sample ∈ [quote "EURUSD" 0, quote "USDJPY" 5000], _ by decide, trivial⟩
  refine (visible_iff_lastMostSevere none inside).mpr ⟨?_, trivial⟩
  intro last isLast assessed found
  obtain rfl := Option.some.inj isLast
  obtain ⟨snapshot, same, state⟩ := snapshotFor_quote
    (quotes [quote "EURUSD" 0, quote "USDJPY" 5000]) "USDJPY" 5000 rfl rfl rfl
  obtain rfl := Except.ok.inj (same.symm.trans found)
  rw [state, if_pos (by decide +kernel)]
  exact ⟨fun _ _ other _ => rank_le_halted other.state,
    fun _ _ other _ => rank_le_halted other.state⟩

/-- A halted symbol inside the batch is not. -/
theorem halted_first_hidden :
    EachStep step InsideWindow {} [quotes [quote "USDJPY" 5000, quote "EURUSD" 0]] ∧
      ¬ Throughout step Visible {} [quotes [quote "USDJPY" 5000, quote "EURUSD" 0]] := by
  have inside : InsideWindow {} (quotes [quote "USDJPY" 5000, quote "EURUSD" 0]) :=
    show ∀ sample ∈ [quote "USDJPY" 5000, quote "EURUSD" 0], _ by decide
  refine ⟨⟨inside, trivial⟩, fun visible => ?_⟩
  have severe := (visible_step_iff inside rfl).mp visible.2
  obtain ⟨calm, calmFound, calmState⟩ := snapshotFor_quote
    (quotes [quote "USDJPY" 5000, quote "EURUSD" 0]) "EURUSD" 0 rfl rfl rfl
  obtain ⟨halted, haltedFound, haltedState⟩ := snapshotFor_quote
    (quotes [quote "USDJPY" 5000, quote "EURUSD" 0]) "USDJPY" 5000 rfl rfl rfl
  have covered := (severe _ rfl calm calmFound).1 (quote "USDJPY" 5000) List.mem_cons_self
    halted haltedFound
  rw [calmState, haltedState] at covered
  exact absurd covered (by decide +kernel)

end LiquidityMonitorService

end FxToushi.Risk
