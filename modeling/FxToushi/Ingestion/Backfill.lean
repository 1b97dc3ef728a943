import FxToushi.Data.Dict
import FxToushi.Ingestion.BackfillRanges
import FxToushi.Ingestion.Provider

namespace FxToushi.Ingestion

open Calendar Data

/-! # Backfilling a window

The window is cut into chunks and every chunk is asked of the providers in
order.  Handlers the caller supplies see the symbols and the timeframe only,
so nothing tells them which chunk they are asked for.
-/

abbrev Handler := List String → String → HandlerReturn

structure BackfillSettings where
  symbols : List String
  timeframe : String
  start : DateTime
  stop : DateTime
  chunkHours : Int := 6
  priority : Option String := none
  providers : List String
  /-- The weight of a symbol in the configured priorities. -/
  score : String → Rat := fun _ => 1
  handlers : String → Option Handler
  profiles : String → ProviderProfile := fun _ => {}
  retries : Int := 2
  backoffMs : Rat := 500
  guard : Option (MarketFrame → Verdict) := none
  bufferCoordinator : Option BufferCoordinator := none
  defaultBuffer : DefaultBuffer := .fresh

def BackfillSettings.buffer (settings : BackfillSettings) : BufferCoordinator :=
  settings.defaultBuffer.unless settings.bufferCoordinator

structure BackfillResult where
  frames : List MarketFrame
  providerUsed : Option String
  retryCount : Nat
  status : String
deriving Repr, DecidableEq

inductive BackfillError where
  | rangeError (message : String)
  | failed (chunk : Segment)
  | calendar (error : CalendarError)
  | exited
deriving Repr, DecidableEq

/-- Sort the symbols by weight, the heaviest first. -/
def orderSymbolsByPriority (score : String → Rat) (symbols : List String) : List String :=
  symbols.mergeSort (fun left right => decide (score right ≤ score left))

def BackfillSettings.ordered (settings : BackfillSettings) : List String :=
  orderSymbolsByPriority settings.score settings.symbols

def BackfillSettings.ranges (settings : BackfillSettings) : BackfillRanges.Yielded :=
  BackfillRanges.chunkBackfillRanges settings.start settings.stop settings.chunkHours

/-- What a backfill has gathered so far. -/
structure Progress where
  framesBySymbol : Dict String (List Bar) := Dict.empty
  qualityFlags : Dict String Int := Dict.empty
  providerUsed : Option String := none
  totalRetries : Nat := 0

def raiseFlag (flags : Dict String Int) (symbol : String) (flag : Int) : Dict String Int :=
  flags.set symbol (max ((flags.get? symbol).getD 0) flag)

def flagCalls (flags : Dict String Int) (calls : List Call) : Dict String Int :=
  calls.foldl (fun flags call =>
    match call.verdict with
    | .returned quality => raiseFlag flags call.frame.symbol quality.qualityFlag
    | .raised _ => flags) flags

/-- The flag a failed attempt leaves on every symbol. -/
def flagFailure (flags : Dict String Int) (symbols : List String) : Raised → Dict String Int
  | .dataQualityError _ _ flag =>
    symbols.foldl (fun flags symbol => raiseFlag flags symbol flag) flags
  | _ => flags

def BackfillSettings.checker (settings : BackfillSettings) : Option (Guard Unit) :=
  settings.guard.map (fun verdict => fun world frame => (verdict frame, world))

/-- One attempt: the frames to accumulate, or what stopped it, with the calls
of the guard. -/
def attempt (settings : BackfillSettings) (now : Int) (provider : String) :
    Except Raised (List MarketFrame) × List Call :=
  let invoked : Except Raised ProviderResult := match settings.handlers provider with
    | none => .ok (defaultProviderFetch now settings.ordered settings.timeframe)
    | some handler => invokeProvider provider (handler settings.ordered settings.timeframe)
  match invoked with
  | .error error => (.error error, [])
  | .ok result =>
    match settings.buffer.enqueue with
    | none => (.error .unexpected, [])
    | some _ =>
      let checked := checkFrames settings.checker () result.frames
      match checked.failure with
      | some error => (.error error, checked.calls)
      | none => (.ok checked.frames, checked.calls)

def accumulate (provider : String) (progress : Progress) (frames : List MarketFrame) : Progress :=
  frames.foldl (fun progress frame => { progress with
    framesBySymbol := progress.framesBySymbol.set frame.symbol
      ((progress.framesBySymbol.get? frame.symbol).getD [] ++ frame.bars)
    qualityFlags := raiseFlag progress.qualityFlags frame.symbol frame.qualityFlag })
    { progress with providerUsed := some provider }

/-- How the attempts at a chunk ended. -/
inductive Tried where
  | answered (progress : Progress)
  | gaveUp (progress : Progress)
  | exited

/-- The attempts left for one provider.  A recognised error is retried, any
other exception gives the provider up. -/
def tryProvider (settings : BackfillSettings) (now : Int)
    (provider : String) : Nat → Progress → Tried
  | 0, progress => .gaveUp progress
  | remaining + 1, progress =>
    let (outcome, calls) := attempt settings now provider
    let progress := { progress with qualityFlags := flagCalls progress.qualityFlags calls }
    match outcome with
    | .ok frames => .answered (accumulate provider progress frames)
    | .error .exits => .exited
    | .error .unexpected => .gaveUp progress
    | .error error => tryProvider settings now provider remaining { progress with
        totalRetries := progress.totalRetries + 1
        qualityFlags := flagFailure progress.qualityFlags settings.ordered error }

def attemptsFor (settings : BackfillSettings) (provider : String) : Nat :=
  attemptsOf (resolveRetrySettings (settings.profiles provider) settings.retries
    settings.backoffMs).1

def tryProviders (settings : BackfillSettings) (now : Int) :
    List String → Progress → Tried
  | [], progress => .gaveUp progress
  | provider :: rest, progress =>
    match tryProvider settings now provider (attemptsFor settings provider) progress with
    | .answered progress => .answered progress
    | .gaveUp progress => tryProviders settings now rest progress
    | .exited => .exited

/-- `readings` is the clock as the stand-in for a missing handler reads it. -/
def backfillChunks (settings : BackfillSettings) (readings : Nat → Int) :
    List (Segment × Nat) → Progress → Except BackfillError Progress
  | [], progress => .ok progress
  | chunk :: rest, progress =>
    match tryProviders settings (readings chunk.2) settings.providers progress with
    | .answered progress => backfillChunks settings readings rest progress
    | .gaveUp _ => .error (.failed chunk.1)
    | .exited => .error .exited

def backfill (settings : BackfillSettings) (readings : Nat → Int) :
    Except BackfillError BackfillResult :=
  if settings.stop.instant ≤ settings.start.instant then
    .error (.rangeError "backfill end must be after start")
  else do
    let progress ← backfillChunks settings readings settings.ranges.segments.zipIdx {}
    settings.ranges.finish.mapError .calendar
    return {
      frames := settings.ordered.map (fun symbol => {
        symbol
        timeframe := settings.timeframe
        bars := (progress.framesBySymbol.get? symbol).getD []
        qualityFlag := (progress.qualityFlags.get? symbol).getD 0 })
      providerUsed := progress.providerUsed <|> settings.priority
      retryCount := progress.totalRetries
      status := "ok" }

/-! ## What one attempt gathers -/

def barsOf (symbol : String) (frames : List MarketFrame) : List Bar :=
  (frames.filter (fun frame => frame.symbol == symbol)).flatMap MarketFrame.bars

def Progress.gathered (progress : Progress) (symbol : String) : List Bar :=
  (progress.framesBySymbol.get? symbol).getD []

theorem accumulate_gathered (provider symbol : String) (progress : Progress)
    (frames : List MarketFrame) :
    (accumulate provider progress frames).gathered symbol =
      progress.gathered symbol ++ barsOf symbol frames := by
  have step : ∀ (frames : List MarketFrame) (progress : Progress),
      (frames.foldl (fun progress frame => { progress with
        framesBySymbol := progress.framesBySymbol.set frame.symbol
          ((progress.framesBySymbol.get? frame.symbol).getD [] ++ frame.bars)
        qualityFlags := raiseFlag progress.qualityFlags frame.symbol frame.qualityFlag })
        progress).gathered symbol = progress.gathered symbol ++ barsOf symbol frames := by
    intro frames
    induction frames with
    | nil => simp [barsOf]
    | cons frame rest ih =>
      intro progress
      rw [List.foldl_cons, ih]
      simp only [Progress.gathered, Dict.get?_set, barsOf, List.filter_cons, beq_iff_eq]
      by_cases same : frame.symbol = symbol
      · simp [same]
      · simp [same]
  exact step frames _

theorem barsOf_congr {left right : List MarketFrame}
    (same : left.map (fun frame => (frame.symbol, frame.bars)) =
      right.map (fun frame => (frame.symbol, frame.bars))) (symbol : String) :
    barsOf symbol left = barsOf symbol right := by
  have read : ∀ frames : List MarketFrame, barsOf symbol frames =
      ((frames.map (fun frame => (frame.symbol, frame.bars))).filter
        (fun entry => entry.1 == symbol)).flatMap Prod.snd := by
    intro frames
    rw [List.filter_map, List.flatMap_map]
    rfl
  rw [read, read, same]

theorem checkFrames_barsOf {World : Type} (guard : Option (Guard World)) (world : World)
    (frames : List MarketFrame) (symbol : String) :
    barsOf symbol (checkFrames guard world frames).frames = barsOf symbol frames := by
  cases guard with
  | none => rfl
  | some guard => exact barsOf_congr (validateFrames_bars world frames) symbol

/-! ## The provider that answers

A handler that is not told the chunk answers every chunk alike.
-/

def passesGuard (settings : BackfillSettings) (frames : List MarketFrame) : Bool :=
  match settings.guard with
  | none => true
  | some verdict => frames.all (fun frame => (verdict frame).passes)

/-- The frames a provider's handler hands over, when they pass the guard. -/
def handedOver (settings : BackfillSettings) (provider : String) : Option (List MarketFrame) :=
  match settings.handlers provider with
  | none => none
  | some handler =>
    match invokeProvider provider (handler settings.ordered settings.timeframe) with
    | .ok result =>
      if passesGuard settings result.frames = true then some result.frames else none
    | .error _ => none

/-- A provider without attempts is not asked. -/
def answerOf (settings : BackfillSettings) (provider : String) : Option (List MarketFrame) :=
  if 0 < attemptsFor settings provider then handedOver settings provider else none

/-- The frames of the first provider that hands some over. -/
def answer (settings : BackfillSettings) : Option (List MarketFrame) :=
  settings.providers.findSome? (answerOf settings)

variable {settings : BackfillSettings}

theorem validateFrames_failure_iff (verdict : MarketFrame → Verdict) (frames : List MarketFrame) :
    (validateFrames (fun (world : Unit) frame => (verdict frame, world)) () frames).failure = none ↔
      frames.all (fun frame => (verdict frame).passes) = true := by
  induction frames with
  | nil => simp [validateFrames]
  | cons frame rest ih =>
    rw [validateFrames, List.all_cons, Bool.and_eq_true, ← ih]
    cases returned : verdict frame with
    | raised error => simp [Verdict.passes]
    | returned quality =>
      dsimp only
      by_cases fails : quality.fails = true
      · simp [fails, Verdict.passes]
      · simp [fails, Verdict.passes]

theorem checkFrames_failure_iff (settings : BackfillSettings) (frames : List MarketFrame) :
    (checkFrames settings.checker () frames).failure = none ↔
      passesGuard settings frames = true := by
  cases guarded : settings.guard with
  | none => simp [BackfillSettings.checker, checkFrames, passesGuard, guarded]
  | some verdict =>
    simp only [BackfillSettings.checker, checkFrames, passesGuard, guarded, Option.map_some]
    exact validateFrames_failure_iff verdict frames

/-- An attempt at a handler has the same outcome at every chunk: it gathers the
frames handed over, or fails. -/
theorem attempt_outcome {provider : String} {handler : Handler} (now : Int)
    (supplied : settings.handlers provider = some handler) :
    (∀ handed, handedOver settings provider = some handed →
      ∃ frames, (attempt settings now provider).1 = .ok frames ∧
        ∀ symbol, barsOf symbol frames = barsOf symbol handed) ∧
    (handedOver settings provider = none →
      ∃ error, (attempt settings now provider).1 = .error error) := by
  simp only [handedOver, attempt, supplied]
  cases invoked : invokeProvider provider (handler settings.ordered settings.timeframe) with
  | error error => exact ⟨fun _ absurdity => (by cases absurdity), fun _ => ⟨error, rfl⟩⟩
  | ok result =>
    cases enqueued : settings.buffer.enqueue with
    | none =>
      have full := settings.buffer.enqueue_eq_none_iff.mp enqueued
      have room := settings.defaultBuffer.unless_maxsize settings.bufferCoordinator
      exact absurd full (not_le.mpr room)
    | some buffer =>
      dsimp only
      cases checked : (checkFrames settings.checker () result.frames).failure with
      | none =>
        rw [if_pos ((checkFrames_failure_iff settings result.frames).mp checked)]
        refine ⟨fun handed same => ⟨_, rfl, fun symbol => ?_⟩,
          fun absurdity => by cases absurdity⟩
        rw [checkFrames_barsOf, Option.some.inj same]
      | some error =>
        have stopped : ¬ passesGuard settings result.frames = true := by
          rw [← checkFrames_failure_iff, checked]
          simp
        rw [if_neg stopped]
        exact ⟨fun _ absurdity => (by cases absurdity), fun _ => ⟨error, rfl⟩⟩

/-- What every attempt at a chunk adds to the bars gathered before: those of
the answer, or none when there is no answer. -/
def Tried.adds (before : Progress) (answer : Option (List MarketFrame)) : Tried → Prop
  | .answered after => ∃ frames, answer = some frames ∧
      ∀ symbol, after.gathered symbol = before.gathered symbol ++ barsOf symbol frames
  | .gaveUp after => answer = none ∧ ∀ symbol, after.gathered symbol = before.gathered symbol
  | .exited => True

theorem Tried.adds_congr {before after : Progress}
    (kept : ∀ symbol, after.gathered symbol = before.gathered symbol)
    {answer : Option (List MarketFrame)} {tried : Tried} (adds : tried.adds after answer) :
    tried.adds before answer := by
  cases tried with
  | exited => trivial
  | answered final => simpa only [Tried.adds, kept] using adds
  | gaveUp final => simpa only [Tried.adds, kept] using adds

theorem tryProvider_adds {provider : String} {handler : Handler} (now : Int)
    (supplied : settings.handlers provider = some handler)
    (attempts : Nat) (progress : Progress) :
    (tryProvider settings now provider attempts progress).adds progress
      (if 0 < attempts then handedOver settings provider else none) := by
  obtain ⟨answers, fails⟩ := attempt_outcome now supplied
  induction attempts generalizing progress with
  | zero => exact ⟨rfl, fun _ => rfl⟩
  | succ remaining ih =>
    rw [if_pos (Nat.succ_pos remaining), tryProvider]
    cases handed : handedOver settings provider with
    | some frames =>
      obtain ⟨checked, outcome, same⟩ := answers frames handed
      simp only [outcome]
      refine ⟨frames, rfl, fun symbol => ?_⟩
      rw [accumulate_gathered, same]
      rfl
    | none =>
      have still : ∀ later : Progress, (tryProvider settings now provider remaining later).adds
          later none := by
        intro later
        have tried := ih later
        rwa [handed, ite_self] at tried
      obtain ⟨error, outcome⟩ := fails handed
      simp only [outcome]
      cases error with
      | exits => trivial
      | unexpected => exact ⟨rfl, fun _ => rfl⟩
      | providerError message => exact still _
      | dataQualityError issues status flag => exact still _

theorem tryProviders_adds (now : Int) {providers : List String}
    (supplied : ∀ provider ∈ providers, ∃ handler, settings.handlers provider = some handler)
    (progress : Progress) :
    (tryProviders settings now providers progress).adds progress
      (providers.findSome? (answerOf settings)) := by
  induction providers generalizing progress with
  | nil => exact ⟨rfl, fun _ => rfl⟩
  | cons provider rest ih =>
    obtain ⟨handler, present⟩ := supplied provider List.mem_cons_self
    have tried := tryProvider_adds now present (attemptsFor settings provider) progress
    rw [← answerOf] at tried
    rw [tryProviders, List.findSome?_cons]
    cases outcome : tryProvider settings now provider (attemptsFor settings provider)
        progress with
    | exited => trivial
    | answered after =>
      rw [outcome] at tried
      obtain ⟨frames, answered, gathered⟩ := tried
      rw [answered]
      exact ⟨frames, rfl, gathered⟩
    | gaveUp after =>
      rw [outcome] at tried
      obtain ⟨unanswered, kept⟩ := tried
      rw [unanswered]
      exact Tried.adds_congr kept
        (ih (fun other member => supplied other (List.mem_cons_of_mem _ member)) after)

/-- Every chunk adds the same bars once more. -/
theorem backfillChunks_gathered (readings : Nat → Int)
    (supplied : ∀ provider ∈ settings.providers, ∃ handler,
      settings.handlers provider = some handler)
    {chunks : List (Segment × Nat)} {progress final : Progress}
    (returned : backfillChunks settings readings chunks progress = .ok final) (symbol : String) :
    final.gathered symbol = progress.gathered symbol ++
      (List.replicate chunks.length (barsOf symbol ((answer settings).getD []))).flatten := by
  induction chunks generalizing progress with
  | nil =>
    rw [← Except.ok.inj returned]
    simp
  | cons chunk rest ih =>
    have tried := tryProviders_adds (readings chunk.2) supplied progress
    rw [backfillChunks] at returned
    rw [← answer] at tried
    cases outcome : tryProviders settings (readings chunk.2) settings.providers progress with
    | exited => rw [outcome] at returned; cases returned
    | gaveUp after => rw [outcome] at returned; cases returned
    | answered after =>
      rw [outcome] at returned tried
      obtain ⟨frames, answered, gathered⟩ := tried
      rw [ih returned, gathered, answered, List.length_cons, List.replicate_succ,
        List.flatten_cons, List.append_assoc]
      rfl

/-! ## Each bar once -/

def StrictlyIncreasing (bars : List Bar) : Prop :=
  bars.Pairwise (fun left right => left.timestamp < right.timestamp)

/-- Bars repeated are in order only when they are repeated once, or there are
none. -/
theorem strictlyIncreasing_replicate {bars : List Bar} (increasing : StrictlyIncreasing bars)
    {times : Nat} (some_times : times ≠ 0) :
    StrictlyIncreasing (List.replicate times bars).flatten ↔ times ≤ 1 ∨ bars = [] := by
  rcases times with _ | _ | times
  · exact absurd rfl some_times
  · simpa using increasing
  · constructor
    · intro repeated
      rw [List.replicate_succ, List.flatten_cons, List.replicate_succ,
        List.flatten_cons] at repeated
      cases bars with
      | nil => exact .inr rfl
      | cons first rest =>
        have across := (List.pairwise_append.mp repeated).2.2 first List.mem_cons_self first
          (List.mem_append_left _ List.mem_cons_self)
        exact absurd across (lt_irrefl _)
    · rintro (few | rfl)
      · omega
      · simp [StrictlyIncreasing]

/-- The caller supplies a handler for every provider, and what a handler returns
is in order for every symbol. -/
structure Supplied (settings : BackfillSettings) : Prop where
  handlers : ∀ provider ∈ settings.providers, ∃ handler, settings.handlers provider = some handler
  ordered : ∀ provider handler, settings.handlers provider = some handler →
    ∀ result, invokeProvider provider (handler settings.ordered settings.timeframe) = .ok result →
      ∀ symbol, StrictlyIncreasing (barsOf symbol result.frames)

theorem handedOver_increasing {provider : String} {frames : List MarketFrame}
    (supplied : Supplied settings) (handed : handedOver settings provider = some frames)
    (symbol : String) : StrictlyIncreasing (barsOf symbol frames) := by
  unfold handedOver at handed
  split at handed
  · cases handed
  · rename_i handler present
    split at handed
    · rename_i result invoked
      obtain ⟨-, same⟩ := Option.ite_none_right_eq_some.mp handed
      rw [← Option.some.inj same]
      exact supplied.ordered provider handler present result invoked symbol
    · cases handed

theorem answer_increasing (supplied : Supplied settings) (symbol : String) :
    StrictlyIncreasing (barsOf symbol ((answer settings).getD [])) := by
  cases answered : answer settings with
  | none => exact .nil
  | some frames =>
    obtain ⟨provider, -, asked⟩ := List.exists_of_findSome?_eq_some answered
    exact handedOver_increasing supplied (Option.ite_none_right_eq_some.mp asked).2 symbol

/-- What `backfill` returns holds the bars of the answer once for every chunk. -/
theorem backfill_frames (supplied : Supplied settings) {readings : Nat → Int}
    {result : BackfillResult} (returned : backfill settings readings = .ok result) :
    settings.start.instant < settings.stop.instant ∧ settings.ranges.error = none ∧
    result.frames.map (fun frame => (frame.symbol, frame.bars)) =
      settings.ordered.map (fun symbol => (symbol, (List.replicate settings.ranges.segments.length
        (barsOf symbol ((answer settings).getD []))).flatten)) := by
  unfold backfill at returned
  split at returned
  · cases returned
  · rename_i forward
    obtain ⟨progress, gathered, returned⟩ := bind_ok returned
    obtain ⟨⟨⟩, finished, returned⟩ := bind_ok returned
    have ended : settings.ranges.error = none := by
      cases ranges : settings.ranges.finish with
      | ok => exact BackfillRanges.Yielded.finish_ok_iff.mp ranges
      | error error =>
        rw [ranges] at finished
        cases finished
    rw [← Except.ok.inj returned]
    refine ⟨by omega, ended, ?_⟩
    rw [List.map_map]
    refine List.map_congr_left (fun symbol _ => ?_)
    have bars := backfillChunks_gathered readings supplied.handlers gathered symbol
    rw [List.length_zipIdx] at bars
    exact congrArg (Prod.mk symbol) (bars.trans (List.nil_append _))

/-- The bars returned are in order, each once, exactly when the window is one
chunk or the provider that answers has no bars. -/
theorem backfill_increasing_iff (settings : BackfillSettings) (supplied : Supplied settings)
    (positive : 0 < settings.chunkHours) {readings : Nat → Int} {result : BackfillResult}
    (returned : backfill settings readings = .ok result) :
    (∀ frame ∈ result.frames, StrictlyIncreasing frame.bars) ↔
      settings.stop.instant - settings.start.instant ≤
          BackfillRanges.chunkLength settings.chunkHours ∨
        ∀ symbol ∈ settings.symbols, barsOf symbol ((answer settings).getD []) = [] := by
  obtain ⟨nonempty, ended, frames⟩ := backfill_frames supplied returned
  have positiveStep := BackfillRanges.chunkLength_pos positive
  have chunks : settings.ranges.segments =
      cut (BackfillRanges.chunkLength settings.chunkHours) settings.start.instant
        settings.stop.instant :=
    BackfillRanges.chunkBackfillRanges_segments positive nonempty ended
  have someChunk : (cut (BackfillRanges.chunkLength settings.chunkHours) settings.start.instant
      settings.stop.instant).length ≠ 0 :=
    fun none => cut_ne_nil positiveStep nonempty (List.length_eq_zero_iff.mp none)
  rw [chunks] at frames
  have perFrame : (∀ frame ∈ result.frames, StrictlyIncreasing frame.bars) ↔
      ∀ entry ∈ result.frames.map (fun frame => (frame.symbol, frame.bars)),
        StrictlyIncreasing entry.2 := by
    rw [List.forall_mem_map]
  have perSymbol : ∀ symbol, symbol ∈ settings.ordered ↔ symbol ∈ settings.symbols :=
    fun symbol => List.mem_mergeSort
  rw [perFrame, frames, List.forall_mem_map]
  simp only [perSymbol, strictlyIncreasing_replicate (answer_increasing supplied _) someChunk,
    cut_length_le_one_iff positiveStep nonempty]
  by_cases single : settings.stop.instant - settings.start.instant ≤
      BackfillRanges.chunkLength settings.chunkHours
  · simp [single]
  · simp [single]

/-- One provider, whose handler returns the bar of midnight. -/
def primaryUntil (stop : DateTime) : BackfillSettings where
  symbols := ["USDJPY"]
  timeframe := "M5"
  start := ⟨0, some 0, DateTime.first_inRange⟩
  stop
  providers := ["primary"]
  handlers := fun _ => some (fun symbols timeframe =>
    .frames (symbols.map (fun symbol => { symbol, timeframe, bars := [{ timestamp := 0 }] })))

theorem primaryUntil_ordered (stop : DateTime) : (primaryUntil stop).ordered = ["USDJPY"] :=
  List.mergeSort_singleton "USDJPY"

theorem primaryUntil_supplied (stop : DateTime) : Supplied (primaryUntil stop) where
  handlers := fun _ _ => ⟨_, rfl⟩
  ordered := by
    intro provider handler present result invoked symbol
    rw [← Option.some.inj present, primaryUntil_ordered] at invoked
    rw [← Except.ok.inj invoked]
    by_cases same : "USDJPY" = symbol
    · simp [barsOf, same, StrictlyIncreasing]
    · simp [barsOf, same, StrictlyIncreasing]

def midnights (times : Nat) : List MarketFrame :=
  [{ symbol := "USDJPY", timeframe := "M5", bars := List.replicate times { timestamp := 0 } }]

theorem primaryUntil_attempt (stop : DateTime) (now : Int) (provider : String) :
    attempt (primaryUntil stop) now provider = (.ok (midnights 1), []) := by
  have ordered := primaryUntil_ordered stop
  simp only [attempt, ordered]
  rfl

theorem primaryUntil_answers (stop : DateTime) (now : Int) (progress : Progress) :
    tryProviders (primaryUntil stop) now ["primary"] progress =
      .answered (accumulate "primary" progress (midnights 1)) := by
  have attempts : attemptsFor (primaryUntil stop) "primary" = 2 + 1 := rfl
  rw [tryProviders, attempts, tryProvider, primaryUntil_attempt]
  rfl

def midnightsResult (times : Nat) : BackfillResult where
  frames := midnights times
  providerUsed := some "primary"
  retryCount := 0
  status := "ok"

theorem primaryUntil_chunks (stop : DateTime) (readings : Nat → Int) (chunks : List (Segment × Nat))
    (progress : Progress) :
    backfillChunks (primaryUntil stop) readings chunks progress =
      .ok (chunks.foldl (fun progress _ => accumulate "primary" progress (midnights 1))
        progress) := by
  induction chunks generalizing progress with
  | nil => rfl
  | cons chunk rest ih =>
    rw [backfillChunks, show (primaryUntil stop).providers = ["primary"] from rfl,
      primaryUntil_answers, List.foldl_cons]
    exact ih _

def sixOClock : DateTime := ⟨21600000000, some 0, by decide⟩

def noon : DateTime := ⟨43200000000, some 0, by decide⟩

theorem primaryUntil_ranges {stop : DateTime} (aware : stop.offset.isSome = true)
    (later : 0 < stop.instant)
    (fits : BackfillRanges.Fits ⟨0, some 0, by decide⟩ stop (BackfillRanges.chunkLength 6)) :
    (primaryUntil stop).ranges.finish = .ok () ∧
      (primaryUntil stop).ranges.segments =
        cut (BackfillRanges.chunkLength 6) 0 stop.instant := by
  have six : 0 < (primaryUntil stop).chunkHours := by
    change (0 : Int) < 6
    decide
  have alike : (primaryUntil stop).start.offset.isSome = stop.offset.isSome := aware.symm
  have partition : BackfillRanges.Partition _ stop _ (primaryUntil stop).ranges :=
    (BackfillRanges.chunkBackfillRanges_partition_iff alike later six).mpr fits
  exact ⟨BackfillRanges.Yielded.finish_ok_iff.mpr partition.ended,
    partition.segments (BackfillRanges.chunkLength_pos six)⟩

theorem backfill_quarterDay :
    backfill (primaryUntil sixOClock) (fun _ => 0) = .ok (midnightsResult 1) := by
  obtain ⟨finished, segments⟩ := primaryUntil_ranges (rfl : sixOClock.offset.isSome = true)
    (by decide) (by decide)
  have chunks : cut (BackfillRanges.chunkLength 6) 0 sixOClock.instant = [(0, 21600000000)] :=
    cut_last (by decide) (by decide)
  rw [backfill, if_neg (by decide), segments, chunks, finished, primaryUntil_ordered]
  simp only [primaryUntil_chunks]
  rfl

theorem backfill_halfDay :
    backfill (primaryUntil noon) (fun _ => 0) = .ok (midnightsResult 2) := by
  obtain ⟨finished, segments⟩ := primaryUntil_ranges (rfl : noon.offset.isSome = true)
    (by decide) (by decide)
  have chunks : cut (BackfillRanges.chunkLength 6) 0 noon.instant =
      [(0, 21600000000), (21600000000, 43200000000)] :=
    (cut_next (by decide) (by decide)).trans
      (congrArg _ (cut_last (by decide) (by decide)))
  rw [backfill, if_neg (by decide), segments, chunks, finished, primaryUntil_ordered]
  simp only [primaryUntil_chunks]
  rfl

/-- Six hours are one chunk. -/
theorem backfill_quarterDay_increasing :
    backfill (primaryUntil sixOClock) (fun _ => 0) = .ok (midnightsResult 1) ∧
      ∀ frame ∈ (midnightsResult 1).frames, StrictlyIncreasing frame.bars :=
  ⟨backfill_quarterDay,
    (backfill_increasing_iff (primaryUntil sixOClock) (primaryUntil_supplied _) (by decide)
      backfill_quarterDay).mpr (.inl (by decide))⟩

/-- Twelve hours are two, and the bar of midnight is returned twice. -/
theorem backfill_halfDay_repeats :
    ∃ result, backfill (primaryUntil noon) (fun _ => 0) = .ok result ∧
      Supplied (primaryUntil noon) ∧ 0 < (primaryUntil noon).chunkHours ∧
      ¬ ∀ frame ∈ result.frames, StrictlyIncreasing frame.bars := by
  refine ⟨midnightsResult 2, backfill_halfDay, primaryUntil_supplied _, by decide, ?_⟩
  intro increasing
  have bars := increasing _ (List.mem_singleton_self _)
  simp [StrictlyIncreasing, List.replicate] at bars

end FxToushi.Ingestion
