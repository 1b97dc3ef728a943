import FxToushi.Core.HealthStore
import FxToushi.Ingestion.BufferItems

namespace FxToushi.Ingestion.Buffered

open FxToushi.Core Data Py Calendar
open DataQuality (RawBar Cell)

/-! # The attempts of fetching and backfilling

Both put the frames of a provider through the buffer in the same way.  They
differ in what they note of the frames and in what they report.
-/

structure Observation where
  provider : String
  symbols : List String
  timeframe : String
  latencyMs : Rat
  bars : Int
  stage : String
  rateLimitRatio : Rat
  success : Bool

structure LatencySnapshot where
  fetchP95Ms : Option Rat
  fetchP99Ms : Option Rat

structure MetricsCollector (World : Type) where
  observe : Service World Observation Unit
  snapshot : Service World Unit LatencySnapshot

structure HealthCondition where
  level : String
  reason : String
  detail : String
  recommendedAction : String

structure SlaEntry where
  provider : String
  timeframe : String
  symbols : List String
  symbol : Option String := none
  stage : String
  p95Ms : Rat
  p99Ms : Rat
  bars : Int
  status : String
  rateLimitRatio : Rat := 0
  qualityFlag : Option Int := none
  lastBarTs : Option String := none
  barGapMinutes : Option Int := none
  delaySec : Option Rat := none

structure FallbackEvent where
  provider : String
  symbols : List String
  timeframe : String
  attempt : Nat
  maxAttempts : Int
  state : String
  backoffSec : Option Rat := none
  reason : String
  stage : String := "fetch_latest"

/-- What a provider handler does when it is called. -/
inductive HandlerAnswer where
  | result (result : ProviderResult)
  | frames (frames : List MarketFrame)
  | unsupported
  | raises (text : String)
  | exits

/-- What is outside: the clocks, the handlers and everything else that is
called, each of which may raise. -/
structure Services (World : Type) where
  now : World → DateTime × World
  perfCounter : World → Rat × World
  handlers : String → Option (World → HandlerAnswer × World)
  dataQualityGuard : Option (Service World MarketFrame QualityResult)
  metricsCollector : Option (MetricsCollector World)
  healthMonitor : Option (Service World HealthCondition Unit)
  logSlaEntry : Service World SlaEntry Unit
  emitFallbackState : Service World FallbackEvent Unit
  sleep : Rat → World → World
  texts : IsoTexts

structure Settings where
  symbols : List String
  timeframe : String
  stop : Option String := none
  retries : Int := 2
  backoffMs : Rat := 500
  profiles : String → ProviderProfile := fun _ => {}
  warnMs : Rat := 1000
  breachMs : Rat := 1500
  providerSlaThresholds : String → Option (Rat × Rat) := fun _ => none
  /-- The poll interval of the worker plan of a provider. -/
  pollIntervalSec : String → Option Rat := fun _ => none
  fetchDelayWarnSec : Rat := 18
  barGapWarnMinutes : Int := 10
  processingDelayWarnSec : Rat := 12
  processingDelayBreachSec : Option Rat := none

variable {World Locals : Type}

/-! ## The answer of a provider -/

def withoutMicroseconds (date : DateTime) : DateTime where
  time := date.time - date.time % 1000000
  offset := date.offset
  inRange := by
    have inRange := date.inRange
    omega

def zulu (texts : IsoTexts) (date : DateTime) : String :=
  replaceText "+00:00" "Z" (texts.isoformat (withoutMicroseconds date))

/-- A bar without prices, stamped with the clock, for every symbol. -/
def defaultProviderFetch (services : Services World) (timeframe : String) :
    List String → Aside World Locals (List MarketFrame)
  | [] => pure []
  | symbol :: rest => do
      let now ← read services.now
      let zero : Cell := .document (.float 0 "0.0")
      let bar : RawBar := [("timestamp", .document (.str (zulu services.texts now))),
        ("open", zero), ("high", zero), ("low", zero), ("close", zero)]
      let later ← defaultProviderFetch services timeframe rest
      return { symbol, timeframe, bars := [bar] } :: later

def invokeProvider (services : Services World) (settings : Settings) (provider : String) :
    Aside World Locals ProviderResult :=
  match services.handlers provider with
  | none => do
      let frames ← defaultProviderFetch services settings.timeframe settings.symbols
      return { frames, p95Ms := 120, p99Ms := 150 }
  | some handler => do
      match ← read handler with
      | .result result => return result
      | .frames frames => return { frames, p95Ms := 120, p99Ms := 150 }
      | .unsupported =>
        throw (.providerError ("provider " ++ provider ++ " returned unsupported payload"))
      | .raises text => throw (.providerError ("provider " ++ provider ++ " failed: " ++ text))
      | .exits => throw .exits

/-- `started` keeps the reading of the counter for the handlers. -/
def answer (services : Services World) (settings : Settings) (provider : String)
    (started : Rat → Locals → Locals) : Aside World Locals Answered := do
  let requestTs ← read services.now
  let start ← read services.perfCounter
  assign (started start)
  let result ← invokeProvider services settings provider
  let stop ← read services.perfCounter
  return { requestTs, elapsedMs := (stop - start) * 1000, result }

/-! ## What is reported -/

/-- `str(exc)`. -/
def text : Raised → String
  | .providerError message => message
  | .dataQualityError issues _ _ =>
    "data_quality_failed: " ++ (Value.list (issues.map Value.str)).text
  | _ => ""

def computeLatencyStatus (p95Ms warnMs breachMs : Rat) : String :=
  if breachMs ≤ p95Ms then "breach" else if warnMs ≤ p95Ms then "watch" else "ok"

def parseBarTimestamp (texts : IsoTexts) : Cell → Option DateTime
  | .datetime date => some date
  | .document .null => none
  | .document value =>
    let text := strip value.text
    if text = "" then none
    else
      let zoned := if text.endsWith "Z" then (text.dropEnd 1).toString ++ "+00:00" else text
      (texts.fromisoformat zoned).map (fun date =>
        if date.offset.isNone then { date with offset := some 0 } else date)

/-- `later > earlier`. -/
def isLater (later earlier : DateTime) : Except Raised Bool :=
  match later.le earlier with
  | .ok before => .ok (!before)
  | .error _ => .error .unexpected

def lastBarStamp (texts : IsoTexts) (frame : MarketFrame) : Option DateTime :=
  frame.bars.getLast?.bind (fun bar =>
    let timestamp := bar.get "timestamp"
    parseBarTimestamp texts (if timestamp.truth then timestamp else bar.get "ts"))

def extractLastBarTimestamp (texts : IsoTexts) (frames : List MarketFrame) :
    Except Raised (Option DateTime) :=
  frames.foldlM (fun latest frame =>
    match lastBarStamp texts frame, latest with
    | none, _ => .ok latest
    | some parsed, none => .ok (some parsed)
    | some parsed, some known => do
        return if ← isLater parsed known then some parsed else some known) none

/-- Two times of which only one has an offset cannot be subtracted. -/
def computeBarGapMinutes (anchor : DateTime) : Option DateTime → Except Raised (Option Int)
  | none => .ok none
  | some lastBar =>
    if anchor.offset.isSome = lastBar.offset.isSome then
      .ok (some (max ((anchor.instant - lastBar.instant) / 60000000) 0))
    else .error .unexpected

section Reports

variable (services : Services World) (settings : Settings) (provider : String)

def warn : Rat :=
  ((settings.providerSlaThresholds provider).getD (settings.warnMs, settings.breachMs)).1

def breach : Rat :=
  ((settings.providerSlaThresholds provider).getD (settings.warnMs, settings.breachMs)).2

def raiseCondition (reason detail recommendedAction : String) : Aside World Locals Unit :=
  match services.healthMonitor with
  | none => pure ()
  | some monitor =>
    serve monitor { level := "degraded", reason, detail, recommendedAction }

def maybeRaiseDataLatency (delaySec : Rat) (barGapMinutes : Option Int) :
    Aside World Locals Unit :=
  let delay := if settings.fetchDelayWarnSec < delaySec then
    ["fetch_delay_sec=" ++ formatFixed 2 delaySec] else []
  let gap := match barGapMinutes with
    | some gap => if settings.barGapWarnMinutes < gap then
        ["bar_gap_minutes=" ++ toString gap] else []
    | none => []
  if delay ++ gap = [] then pure ()
  else
    raiseCondition services "data_latency_fetch" (";".intercalate (delay ++ gap) ++ ";provider=" ++
      provider ++ ";symbols=" ++ ",".intercalate settings.symbols)
      "runbook:RUN-DATA-05#enter_guarded"

def maybeRaiseProcessingLatency (delaySec : Rat) (symbol : String) : Aside World Locals Unit :=
  if delaySec ≤ settings.processingDelayWarnSec then pure ()
  else
    raiseCondition services "data_latency_processing" ("processing_delay_sec=" ++
      formatFixed 2 delaySec ++ ";provider=" ++ provider ++ ";symbols=" ++ symbol)
      "runbook:RUN-DATA-05#processing_fallback"

def logProcessingDelay (processingMs : Rat) (frame : MarketFrame) : Aside World Locals Unit := do
  let delaySec := max (processingMs / 1000) 0
  maybeRaiseProcessingLatency services settings provider delaySec frame.symbol
  let breachSec := settings.processingDelayBreachSec.getD (settings.processingDelayWarnSec * 3 / 2)
  serve services.logSlaEntry {
    provider
    timeframe := settings.timeframe
    symbols := [frame.symbol]
    symbol := some frame.symbol
    stage := "processing"
    p95Ms := processingMs
    p99Ms := processingMs
    bars := frame.bars.length
    status := computeLatencyStatus processingMs (settings.processingDelayWarnSec * 1000)
      (breachSec * 1000)
    delaySec := some delaySec }

def logProcessingDelays (processingMs : Rat) : List MarketFrame → Aside World Locals Unit
  | [] => pure ()
  | frame :: rest => do
      logProcessingDelay services settings provider processingMs frame
      logProcessingDelays processingMs rest

def observed (stage : String) (bars : Int) (answered : Answered) : Observation where
  provider
  symbols := settings.symbols
  timeframe := settings.timeframe
  latencyMs := answered.elapsedMs
  bars
  stage
  rateLimitRatio := answered.result.rateLimitRatio
  success := true

/-- The percentiles of the collector, where it has some that are not zero. -/
def percentiles (stage : String) (bars : Int) (answered : Answered) :
    Aside World Locals (Rat × Rat) :=
  let given := (answered.result.p95Ms, answered.result.p99Ms)
  match services.metricsCollector with
  | none => pure given
  | some collector => do
      serve collector.observe (observed settings provider stage bars answered)
      let snapshot ← serve collector.snapshot ()
      return (((snapshot.fetchP95Ms.filter (fun p95 => p95 != 0)).getD given.1),
        ((snapshot.fetchP99Ms.filter (fun p99 => p99 != 0)).getD given.2))

/-- What both report of frames that the guard has let through. -/
def report (stage : String) (bars : Int) (anchor : DateTime) (ratios : Rat × Rat)
    (answered : Answered) (delaySec processingDelayMs : Rat) (qualityFlag : Int)
    (frames : List MarketFrame) : Aside World Locals Unit := do
  let lastTs ← ofExcept (extractLastBarTimestamp services.texts frames)
  let barGapMinutes ← ofExcept (computeBarGapMinutes anchor lastTs)
  maybeRaiseDataLatency services settings provider delaySec barGapMinutes
  serve services.logSlaEntry {
    provider
    timeframe := settings.timeframe
    symbols := settings.symbols
    stage
    p95Ms := ratios.1
    p99Ms := ratios.2
    bars
    status := computeLatencyStatus ratios.1 (warn settings provider) (breach settings provider)
    rateLimitRatio := answered.result.rateLimitRatio
    qualityFlag := some qualityFlag
    lastBarTs := lastTs.map (zulu services.texts)
    barGapMinutes
    delaySec := some delaySec }
  logProcessingDelays services settings provider processingDelayMs frames

/-- What both report of a failed attempt.  The recognised errors have no ratio. -/
def reportFailure (stage : String) (elapsedMs : Rat) (flag : Locals → Locals)
    (qualityFlag : Locals → Int) : Aside World Locals Unit := do
  match services.metricsCollector with
  | none => pure ()
  | some collector =>
    serve collector.observe {
      provider
      symbols := settings.symbols
      timeframe := settings.timeframe
      latencyMs := elapsedMs
      bars := 0
      stage
      rateLimitRatio := 0
      success := false }
  assign flag
  let scene ← get
  serve services.logSlaEntry {
    provider
    timeframe := settings.timeframe
    symbols := settings.symbols
    stage
    p95Ms := 0
    p99Ms := 0
    bars := 0
    status := "error"
    qualityFlag := some (qualityFlag scene.locals) }

def pause (delayMs : Rat) : Aside World Locals Unit :=
  modify (fun scene => { scene with world := services.sleep (max (delayMs / 1000) 0) scene.world })

end Reports

def attemptsOf (settings : Settings) (provider : String) : Nat :=
  Ingestion.attemptsOf (resolveRetrySettings (settings.profiles provider) settings.retries
    settings.backoffMs).1

def backoffOf (settings : Settings) (provider : String) : Rat :=
  (resolveRetrySettings (settings.profiles provider) settings.retries settings.backoffMs).2

/-- The first pause is the shorter one. -/
def delayMs (backoffBase : Rat) (attempt : Nat) : Rat :=
  if attempt = 1 then backoffBase else backoffBase * 2

/-! ## `fetch_latest` -/

structure FetchLocals where
  start : Rat := 0
  attempt : Nat := 0
  rateLimitRatio : Rat := 0
  qualityFlag : Int := 0

section Fetch

variable (services : Services World) (settings : Settings) (provider : String)

def FetchLocals.flag (flag : Int) (locals : FetchLocals) : FetchLocals :=
  { locals with qualityFlag := max locals.qualityFlag flag }

def finishFetch (answered : Answered) (delaySec processingDelayMs : Rat) :
    Aside World FetchLocals Unit := do
  assign (fun locals => { locals with rateLimitRatio := answered.result.rateLimitRatio })
  let frames := (← get).frames
  let ratios ← percentiles services settings provider "fetch" frames.length answered
  let anchor ← match settings.stop.bind (fun stop =>
      parseBarTimestamp services.texts (.document (.str stop))) with
    | some anchor => pure anchor
    | none => read services.now
  report services settings provider "fetch" frames.length anchor ratios answered delaySec
    processingDelayMs (← get).locals.qualityFlag frames

def recoverFetch (remaining attempt : Nat) (error : Raised) : Aside World FetchLocals Unit := do
  let failed ← read services.perfCounter
  let start := (← get).locals.start
  assignFrames []
  let flagged : FetchLocals → FetchLocals := match error with
    | .dataQualityError _ _ flag => FetchLocals.flag flag
    | _ => id
  reportFailure services settings provider "fetch" ((failed - start) * 1000) flagged
    FetchLocals.qualityFlag
  assign (fun locals => { locals with attempt := attempt + 1 })
  if remaining = 0 then pure ()
  else
    let event : FallbackEvent := {
      provider
      symbols := settings.symbols
      timeframe := settings.timeframe
      attempt := attempt + 1
      maxAttempts := attemptsOf settings provider
      state := "retry_scheduled"
      reason := text error }
    serve services.emitFallbackState event
    let backoff := delayMs (((settings.pollIntervalSec provider).map (fun interval =>
      interval * 1000)).getD (backoffOf settings provider)) (attempt + 1)
    serve services.emitFallbackState { event with
      state := "retry_backoff"
      backoffSec := some (backoff / 1000) }
    pause services backoff

/-- An attempt of `_fetch_provider_once`, with so many attempts after it and so
many before. -/
def fetchAttempt (remaining attempt : Nat) : Attempt World FetchLocals where
  provider
  symbols := settings.symbols
  timeframe := settings.timeframe
  now := services.now
  answer := answer services settings provider (fun start locals => { locals with start })
  validate := services.dataQualityGuard
  note := fun _ quality => FetchLocals.flag quality.qualityFlag
  finish := finishFetch services settings provider
  recover := recoverFetch services settings provider remaining attempt

/-- `_fetch_provider_once`, with the frames and the rate limit ratio it returns. -/
def fetchProviderOnce (emitRetryExhausted : Bool) :
    Run World FetchLocals (List MarketFrame × Rat) := do
  aside (assignFrames [])
  aside (assign (fun _ => {}))
  let _ ← attempts (fetchAttempt services settings provider) (attemptsOf settings provider) 0
  let scene := (← get).scene
  if scene.frames.isEmpty ∧ emitRetryExhausted then
    aside (serve services.emitFallbackState {
      provider
      symbols := settings.symbols
      timeframe := settings.timeframe
      attempt := scene.locals.attempt
      maxAttempts := attemptsOf settings provider
      state := "retry_exhausted"
      reason := "no_frames" })
  return (scene.frames, scene.locals.rateLimitRatio)

end Fetch

/-! ## `backfill` -/

structure BackfillLocals where
  start : Rat := 0
  framesBySymbol : Dict String (List RawBar) := Dict.empty
  qualityFlags : Dict String Int := Dict.empty
  providerUsed : Option String := none
  totalRetries : Nat := 0

section Backfill

variable (services : Services World) (settings : Settings) (provider : String)

namespace BackfillLocals

def flag (symbol : String) (flag : Int) (locals : BackfillLocals) : BackfillLocals :=
  let known := (locals.qualityFlags.get? symbol).getD 0
  { locals with qualityFlags := locals.qualityFlags.set symbol (max known flag) }

def highestFlag (locals : BackfillLocals) : Int :=
  ((locals.qualityFlags.entries.map Prod.snd).max?).getD 0

def gather (frame : MarketFrame) (locals : BackfillLocals) : BackfillLocals :=
  let known := (locals.framesBySymbol.get? frame.symbol).getD []
  let gathered := locals.framesBySymbol.set frame.symbol (known ++ frame.bars)
  { locals with framesBySymbol := gathered }.flag frame.symbol frame.qualityFlag

end BackfillLocals

def barsOf (frames : List MarketFrame) : Int := (frames.map (fun frame => frame.bars.length)).sum

def finishBackfill (chunkEnd : DateTime) (answered : Answered)
    (delaySec processingDelayMs : Rat) : Aside World BackfillLocals Unit := do
  let frames := (← get).frames
  let ratios ← percentiles services settings provider "backfill" (barsOf frames) answered
  report services settings provider "backfill" (barsOf frames) chunkEnd ratios answered delaySec
    processingDelayMs (← get).locals.highestFlag frames
  assign (fun locals => frames.foldl (fun locals frame => locals.gather frame) locals)
  assign (fun locals => { locals with providerUsed := some provider })

def recoverBackfill (remaining attempt : Nat) (error : Raised) :
    Aside World BackfillLocals Unit := do
  assign (fun locals => { locals with totalRetries := locals.totalRetries + 1 })
  let failed ← read services.perfCounter
  let start := (← get).locals.start
  let flagged : BackfillLocals → BackfillLocals := match error with
    | .dataQualityError _ _ flag => fun locals =>
      settings.symbols.foldl (fun locals symbol => locals.flag symbol flag) locals
    | _ => id
  reportFailure services settings provider "backfill" ((failed - start) * 1000) flagged
    BackfillLocals.highestFlag
  if remaining = 0 then pure ()
  else pause services (delayMs (backoffOf settings provider) (attempt + 1))

/-- An attempt of `backfill` at a chunk. -/
def backfillAttempt (chunkEnd : DateTime) (remaining attempt : Nat) :
    Attempt World BackfillLocals where
  provider
  symbols := settings.symbols
  timeframe := settings.timeframe
  now := services.now
  answer := answer services settings provider (fun start locals => { locals with start })
  validate := services.dataQualityGuard
  note := fun frame quality locals => locals.flag frame.symbol quality.qualityFlag
  finish := finishBackfill services settings provider chunkEnd
  recover := recoverBackfill services settings provider remaining attempt

/-- Whether a provider has answered for the chunk. -/
def tryProviders (chunkEnd : DateTime) : List String → Run World BackfillLocals Bool
  | [] => return false
  | provider :: rest => do
      match ← attempts (backfillAttempt services settings provider chunkEnd)
          (attemptsOf settings provider) 0 with
      | .answered => return true
      | _ => tryProviders chunkEnd rest

/-- A chunk without an answer raises a `BackfillFailedError`. -/
def backfillChunks (providers : List String) : List DateTime → Run World BackfillLocals Unit
  | [] => pure ()
  | chunkEnd :: rest => do
      if ← tryProviders services settings chunkEnd providers then backfillChunks providers rest
      else throw .unexpected

end Backfill

/-! ## The buffer -/

section Buffer

variable {services : Services World} {settings : Settings}

theorem fetchProviderOnce_preserves_idle
    (quiet : ∀ guard ∈ services.dataQualityGuard, NeverExits guard) (provider : String)
    (emitRetryExhausted : Bool) :
    Preserves (Idle : Site World FetchLocals → Prop)
      (fetchProviderOnce services settings provider emitRetryExhausted) := by
  have outside {Result : Type} (program : Aside World FetchLocals Result) :
      Preserves (Idle : Site World FetchLocals → Prop) (aside program) :=
    preserves_aside (fun buffer _ => buffer.items = [] ∧ 0 < buffer.maxsize) program
  have tried : Preserves (Idle : Site World FetchLocals → Prop)
      (attempts (fetchAttempt services settings provider) (attemptsOf settings provider) 0) :=
    attempts_preserve_idle (fun _ _ => quiet) _ _
  refine preserves_bind (outside _) fun _ => preserves_bind (outside _) fun _ => ?_
  refine preserves_bind tried fun _ => preserves_bind (fun _ idle => idle) fun site => ?_
  dsimp only
  split
  · exact preserves_bind (outside _) fun _ => preserves_pure _
  · exact preserves_pure _

theorem tryProviders_preserves_idle
    (quiet : ∀ guard ∈ services.dataQualityGuard, NeverExits guard) (chunkEnd : DateTime)
    (providers : List String) :
    Preserves (Idle : Site World BackfillLocals → Prop)
      (tryProviders services settings chunkEnd providers) := by
  induction providers with
  | nil => exact preserves_pure _
  | cons provider rest ih =>
    refine preserves_bind (attempts_preserve_idle (fun _ _ => quiet) _ _) fun ended => ?_
    cases ended with
    | answered => exact preserves_pure _
    | retry => exact ih
    | gaveUp => exact ih

theorem backfillChunks_preserves_idle
    (quiet : ∀ guard ∈ services.dataQualityGuard, NeverExits guard) (providers : List String)
    (chunkEnds : List DateTime) :
    Preserves (Idle : Site World BackfillLocals → Prop)
      (backfillChunks services settings providers chunkEnds) := by
  induction chunkEnds with
  | nil => exact preserves_pure _
  | cons chunkEnd rest ih =>
    refine preserves_bind (tryProviders_preserves_idle quiet chunkEnd providers) fun found => ?_
    cases found with
    | false => exact preserves_throw _
    | true => exact ih

/-- Attempts of both leave the items of a buffer that is not full as they were
exactly when the provider does not answer, or the buffer is empty and no exit
comes out of the check. -/
theorem attempts_balanced_iff (services : Services World) (settings : Settings)
    (provider : String) (chunkEnd : DateTime) (remaining made : Nat)
    {fetching : Site World FetchLocals} {backfilling : Site World BackfillLocals}
    (fetchOpen : (fetching.buffer.items.length : Int) < fetching.buffer.maxsize)
    (backfillOpen : (backfilling.buffer.items.length : Int) < backfilling.buffer.maxsize) :
    ((fetchAttempt services settings provider remaining made).Balanced fetching ↔
      ¬ (fetchAttempt services settings provider remaining made).Answers fetching.scene ∨
        (fetching.buffer.items = [] ∧
          ¬ (fetchAttempt services settings provider remaining made).ExitsInCheck
            fetching.scene)) ∧
    ((backfillAttempt services settings provider chunkEnd remaining made).Balanced backfilling ↔
      ¬ (backfillAttempt services settings provider chunkEnd remaining made).Answers
          backfilling.scene ∨
        (backfilling.buffer.items = [] ∧
          ¬ (backfillAttempt services settings provider chunkEnd remaining made).ExitsInCheck
            backfilling.scene)) :=
  ⟨Attempt.balanced_iff fetchOpen, Attempt.balanced_iff backfillOpen⟩

end Buffer

/-! ## A provider that answers without frames -/

def plainServices : Services Unit where
  now := fun world => (DataQuality.epoch, world)
  perfCounter := fun world => (0, world)
  handlers := fun _ => some (fun world => (.frames [], world))
  dataQualityGuard := none
  metricsCollector := none
  healthMonitor := none
  logSlaEntry := fun _ world => (.ok (), world)
  emitFallbackState := fun _ world => (.ok (), world)
  sleep := fun _ world => world
  texts := { isoformat := fun _ => "", fromisoformat := fun _ => none }

def plainSettings : Settings where
  symbols := ["EURUSD"]
  timeframe := "5m"

def siteOf (Locals : Type) (locals : Locals) (buffer : BufferCoordinator) : Site Unit Locals where
  scene := { world := (), frames := [], locals }
  buffer
  bufferItem := none

theorem attempts_balanced_plain :
    (fetchAttempt plainServices plainSettings "primary" 0 0).Balanced
        (siteOf FetchLocals {} (.new 256)) ∧
      (backfillAttempt plainServices plainSettings "primary" DataQuality.epoch 0 0).Balanced
        (siteOf BackfillLocals {} (.new 256)) := by
  have both := attempts_balanced_iff plainServices plainSettings "primary" DataQuality.epoch 0 0
    (show ((siteOf FetchLocals {} (.new 256)).buffer.items.length : Int) < _ by decide)
    (show ((siteOf BackfillLocals {} (.new 256)).buffer.items.length : Int) < _ by decide)
  refine ⟨both.1.mpr (.inr ⟨rfl, ?_⟩), both.2.mpr (.inr ⟨rfl, ?_⟩)⟩
  · intro ⟨_, exits⟩
    cases exits
  · intro ⟨_, exits⟩
    cases exits

/-- A buffer with one item, which somebody else has put there. -/
def occupied : BufferCoordinator where
  maxsize := 256
  items := [{
    serial := 0
    provider := "secondary"
    symbols := ["USDJPY"]
    timeframe := "5m"
    requestTs := DataQuality.epoch
    enqueueTs := DataQuality.epoch
    frames := [] }]
  dropped := 0
  made := 1
  room := by simp
  numbered := by simp

/-- An attempt takes the item that was there and leaves its own. -/
theorem occupied_not_balanced :
    ¬ ∀ (services : Services Unit) (settings : Settings) (provider : String)
      (chunkEnd : DateTime) (remaining made : Nat) (fetching : Site Unit FetchLocals)
      (backfilling : Site Unit BackfillLocals),
      (fetching.buffer.items.length : Int) < fetching.buffer.maxsize →
      (backfilling.buffer.items.length : Int) < backfilling.buffer.maxsize →
      (fetchAttempt services settings provider remaining made).Balanced fetching ∧
        (backfillAttempt services settings provider chunkEnd remaining made).Balanced
          backfilling := by
  intro balanced
  have kept := (balanced plainServices plainSettings "primary" DataQuality.epoch 0 0
    (siteOf FetchLocals {} occupied) (siteOf BackfillLocals {} occupied)
    (by decide) (by decide)).1
  have serials := congrArg (List.map BufferItem.serial) kept
  have left : (finalState ((fetchAttempt plainServices plainSettings "primary" 0 0).run
      (siteOf FetchLocals {} occupied))).buffer.items.map BufferItem.serial = [1] := by
    decide +kernel
  rw [left] at serials
  cases serials

end FxToushi.Ingestion.Buffered
