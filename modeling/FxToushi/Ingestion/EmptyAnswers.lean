import FxToushi.Ingestion.Backfill

namespace FxToushi.Ingestion

open Data

/-! # Answers without frames

A backfill whose handlers may answer every call differently: for another chunk,
another place in the order of the providers or another attempt.  `accepts` is
the success test.  Backfilling has none, fetching the latest bars asks for
frames.
-/

/-- Which call of a handler it is. -/
structure Ask where
  chunk : Nat
  place : Nat
  attempt : Nat
deriving Repr, DecidableEq

/-- The settings of a backfill with what each call of a handler and of the
guard returns. -/
structure Sources where
  settings : BackfillSettings
  handlers : Ask → String → Option Handler
  guard : Ask → Option (MarketFrame → Verdict)
  clock : Ask → Int

/-- The handlers that answer every call alike. -/
def Sources.constant (settings : BackfillSettings) (readings : Nat → Int) : Sources where
  settings
  handlers := fun _ => settings.handlers
  guard := fun _ => settings.guard
  clock := fun ask => readings ask.chunk

namespace Sources

def settingsAt (sources : Sources) (ask : Ask) : BackfillSettings :=
  { sources.settings with handlers := sources.handlers ask, guard := sources.guard ask }

/-- One attempt, with the calls of the guard. -/
def ask (sources : Sources) (ask : Ask) (provider : String) :
    Except Raised (List MarketFrame) × List Call :=
  attempt (sources.settingsAt ask) (sources.clock ask) provider

end Sources

/-- How the attempts at a chunk ended, with the frames they produced. -/
inductive Asked where
  | answered (progress : Progress) (frames : List MarketFrame)
  | gaveUp (progress : Progress)
  | exited

/-- A backfill that returned, with the frames every chunk produced. -/
structure Backfilled where
  result : BackfillResult
  produced : List (List MarketFrame)
deriving Repr, DecidableEq

section Loops

variable (accepts : List MarketFrame → Bool) (sources : Sources)

def askProvider (chunk place : Nat) (provider : String) : Nat → Nat → Progress → Asked
  | 0, _, progress => .gaveUp progress
  | remaining + 1, attempted, progress =>
    let (outcome, calls) := sources.ask ⟨chunk, place, attempted⟩ provider
    let progress := { progress with qualityFlags := flagCalls progress.qualityFlags calls }
    match outcome with
    | .ok frames =>
      if accepts frames then .answered (accumulate provider progress frames) frames
      else .gaveUp progress
    | .error .exits => .exited
    | .error .unexpected => .gaveUp progress
    | .error error => askProvider chunk place provider remaining (attempted + 1) { progress with
        totalRetries := progress.totalRetries + 1
        qualityFlags := flagFailure progress.qualityFlags sources.settings.ordered error }

/-- The providers with their places in the order. -/
def askProviders (chunk : Nat) : List (String × Nat) → Progress → Asked
  | [], progress => .gaveUp progress
  | provider :: rest, progress =>
    match askProvider accepts sources chunk provider.2 provider.1
        (attemptsFor sources.settings provider.1) 0 progress with
    | .answered progress frames => .answered progress frames
    | .gaveUp progress => askProviders chunk rest progress
    | .exited => .exited

def askChunks : List (Segment × Nat) → Progress →
    Except BackfillError (Progress × List (List MarketFrame))
  | [], progress => .ok (progress, [])
  | chunk :: rest, progress =>
    match askProviders accepts sources chunk.2 sources.settings.providers.zipIdx progress with
    | .answered progress frames => do
        let later ← askChunks rest progress
        return (later.1, frames :: later.2)
    | .gaveUp _ => .error (.failed chunk.1)
    | .exited => .error .exited

def Sources.chunks (sources : Sources) : List (Segment × Nat) :=
  sources.settings.ranges.segments.zipIdx

def backfillFrom : Except BackfillError Backfilled :=
  if sources.settings.stop.instant ≤ sources.settings.start.instant then
    .error (.rangeError "backfill end must be after start")
  else do
    let (progress, produced) ← askChunks accepts sources sources.chunks {}
    sources.settings.ranges.finish.mapError .calendar
    return {
      produced
      result := {
        frames := sources.settings.ordered.map (fun symbol => {
          symbol
          timeframe := sources.settings.timeframe
          bars := (progress.framesBySymbol.get? symbol).getD []
          qualityFlag := (progress.qualityFlags.get? symbol).getD 0 })
        providerUsed := progress.providerUsed <|> sources.settings.priority
        retryCount := progress.totalRetries
        status := "ok" } }

end Loops

/-- The test of a backfill: every answer that passes the guard is a success. -/
def anyAnswer : List MarketFrame → Bool := fun _ => true

/-- The test of fetching the latest bars. -/
def withFrames : List MarketFrame → Bool := fun frames => !frames.isEmpty

/-! ## The first answer -/

section FirstAnswer

variable (sources : Sources)

/-- The frames of the first of these attempts that is answered, where no
attempt before it ends the retries. -/
def providerAnswer (chunk place : Nat) (provider : String) : Nat → Nat → Option (List MarketFrame)
  | 0, _ => none
  | remaining + 1, attempted =>
    match (sources.ask ⟨chunk, place, attempted⟩ provider).1 with
    | .ok frames => some frames
    | .error error =>
      if error.recognised then providerAnswer chunk place provider remaining (attempted + 1)
      else none

def Sources.answerAt (sources : Sources) (chunk : Nat) (provider : String × Nat) :
    Option (List MarketFrame) :=
  providerAnswer sources chunk provider.2 provider.1 (attemptsFor sources.settings provider.1) 0

/-- The frames of the first provider that answers. -/
def Sources.firstAnswer (sources : Sources) (chunk : Nat) : Option (List MarketFrame) :=
  sources.settings.providers.zipIdx.findSome? (sources.answerAt chunk)

variable (accepts : List MarketFrame → Bool)

/-- How attempts with this answer end. -/
def Asked.Follows (before : Progress) (answer : Option (List MarketFrame)) : Asked → Prop
  | .answered after frames => answer = some frames ∧ accepts frames = true ∧
      ∀ symbol, after.gathered symbol = before.gathered symbol ++ barsOf symbol frames
  | .gaveUp after => (∀ frames, answer = some frames → accepts frames = false) ∧
      ∀ symbol, after.gathered symbol = before.gathered symbol
  | .exited => answer = none

theorem Asked.Follows.congr {accepts : List MarketFrame → Bool} {before after : Progress}
    (kept : ∀ symbol, after.gathered symbol = before.gathered symbol)
    {answer : Option (List MarketFrame)} {asked : Asked}
    (follows : asked.Follows accepts after answer) :
    asked.Follows accepts before answer := by
  cases asked with
  | exited => exact follows
  | answered final frames => simpa only [Asked.Follows, kept] using follows
  | gaveUp final => simpa only [Asked.Follows, kept] using follows

theorem askProvider_follows (chunk place : Nat) (provider : String) (remaining attempted : Nat)
    (progress : Progress) :
    (askProvider accepts sources chunk place provider remaining attempted progress).Follows accepts
      progress (providerAnswer sources chunk place provider remaining attempted) := by
  induction remaining generalizing attempted progress with
  | zero => exact ⟨fun frames absurdity => (by cases absurdity), fun _ => rfl⟩
  | succ remaining ih =>
    rw [askProvider, providerAnswer]
    obtain ⟨outcome, calls⟩ := sources.ask ⟨chunk, place, attempted⟩ provider
    cases outcome with
    | ok frames =>
      by_cases accepted : accepts frames = true
      · simp only [accepted, if_true]
        exact ⟨rfl, accepted, fun symbol => accumulate_gathered provider symbol _ frames⟩
      · simp only [accepted, Bool.false_eq_true, if_false]
        refine ⟨fun other same => ?_, fun _ => rfl⟩
        cases same
        simpa using accepted
    | error error =>
      cases error with
      | providerError message => exact Asked.Follows.congr (fun _ => rfl) (ih _ _)
      | dataQualityError issues status flag => exact Asked.Follows.congr (fun _ => rfl) (ih _ _)
      | unexpected => exact ⟨fun frames absurdity => (by cases absurdity), fun _ => rfl⟩
      | exits => rfl

/-- The first answer is taken. -/
def Asked.Takes (before : Progress) (answer : Option (List MarketFrame)) : Asked → Prop
  | .answered after frames => answer = some frames ∧
      ∀ symbol, after.gathered symbol = before.gathered symbol ++ barsOf symbol frames
  | _ => True

theorem Asked.Takes.congr {before after : Progress}
    (kept : ∀ symbol, after.gathered symbol = before.gathered symbol)
    {answer : Option (List MarketFrame)} {asked : Asked} (takes : asked.Takes after answer) :
    asked.Takes before answer := by
  cases asked with
  | exited => trivial
  | gaveUp final => trivial
  | answered final frames => simpa only [Asked.Takes, kept] using takes

/-- Without a success test, the first answer is taken. -/
theorem askProviders_takes (chunk : Nat) (providers : List (String × Nat)) (progress : Progress) :
    (askProviders anyAnswer sources chunk providers progress).Takes progress
      (providers.findSome? (sources.answerAt chunk)) := by
  induction providers generalizing progress with
  | nil => trivial
  | cons provider rest ih =>
    have follows := askProvider_follows sources anyAnswer chunk provider.2 provider.1
      (attemptsFor sources.settings provider.1) 0 progress
    rw [askProviders, List.findSome?_cons, Sources.answerAt]
    cases asked : askProvider anyAnswer sources chunk provider.2 provider.1
        (attemptsFor sources.settings provider.1) 0 progress with
    | answered after frames =>
      rw [asked] at follows
      obtain ⟨answer, -, gathered⟩ := follows
      rw [answer]
      exact ⟨rfl, gathered⟩
    | exited => trivial
    | gaveUp after =>
      rw [asked] at follows
      obtain ⟨refused, kept⟩ := follows
      have unanswered : providerAnswer sources chunk provider.2 provider.1
          (attemptsFor sources.settings provider.1) 0 = none := by
        cases answer : providerAnswer sources chunk provider.2 provider.1
            (attemptsFor sources.settings provider.1) 0 with
        | none => rfl
        | some frames => exact absurd (refused frames answer) (by simp [anyAnswer])
      rw [unanswered]
      exact Asked.Takes.congr kept (ih after)

/-- Every chunk produced its first answer, and their bars are gathered. -/
theorem askChunks_takes {chunks : List (Segment × Nat)} {progress final : Progress}
    {produced : List (List MarketFrame)}
    (returned : askChunks anyAnswer sources chunks progress = .ok (final, produced)) :
    produced.map some = chunks.map (fun chunk => sources.firstAnswer chunk.2) ∧
      ∀ symbol, final.gathered symbol =
        progress.gathered symbol ++ produced.flatMap (barsOf symbol) := by
  induction chunks generalizing progress produced with
  | nil =>
    cases returned
    simp
  | cons chunk rest ih =>
    have takes := askProviders_takes sources chunk.2 sources.settings.providers.zipIdx progress
    rw [askChunks] at returned
    cases asked : askProviders anyAnswer sources chunk.2 sources.settings.providers.zipIdx
        progress with
    | gaveUp after => rw [asked] at returned; cases returned
    | exited => rw [asked] at returned; cases returned
    | answered after frames =>
      rw [asked] at returned takes
      obtain ⟨later, ran, returned⟩ := bind_ok returned
      cases returned
      obtain ⟨answers, gathered⟩ := ih ran
      obtain ⟨answer, first⟩ := takes
      constructor
      · rw [List.map_cons, List.map_cons, answers, Sources.firstAnswer, answer]
      · intro symbol
        rw [gathered, first, List.flatMap_cons, List.append_assoc]

/-! ## The test of fetching -/

/-- Where the answer is not empty, the two tests agree. -/
theorem askProvider_withFrames {chunk place : Nat} {provider : String} {remaining attempted : Nat}
    (someFrames : providerAnswer sources chunk place provider remaining attempted ≠ some [])
    (progress : Progress) :
    askProvider withFrames sources chunk place provider remaining attempted progress =
      askProvider anyAnswer sources chunk place provider remaining attempted progress := by
  induction remaining generalizing attempted progress with
  | zero => rfl
  | succ remaining ih =>
    rw [providerAnswer] at someFrames
    rw [askProvider, askProvider]
    revert someFrames
    obtain ⟨outcome, calls⟩ := sources.ask ⟨chunk, place, attempted⟩ provider
    intro someFrames
    cases outcome with
    | ok frames =>
      have nonempty : withFrames frames = true := by
        cases frames with
        | nil => exact absurd rfl someFrames
        | cons frame rest => rfl
      simp only [nonempty, anyAnswer, if_true]
    | error error =>
      cases error with
      | providerError message => exact ih someFrames _
      | dataQualityError issues status flag => exact ih someFrames _
      | unexpected => rfl
      | exits => rfl

theorem askProviders_withFrames {chunk : Nat} {providers : List (String × Nat)}
    (someFrames : providers.findSome? (sources.answerAt chunk) ≠ some []) (progress : Progress) :
    askProviders withFrames sources chunk providers progress =
      askProviders anyAnswer sources chunk providers progress := by
  induction providers generalizing progress with
  | nil => rfl
  | cons provider rest ih =>
    rw [List.findSome?_cons] at someFrames
    have first : sources.answerAt chunk provider ≠ some [] := by
      intro empty
      rw [empty] at someFrames
      exact someFrames rfl
    have follows := askProvider_follows sources anyAnswer chunk provider.2 provider.1
      (attemptsFor sources.settings provider.1) 0 progress
    rw [askProviders, askProviders, askProvider_withFrames sources first]
    cases asked : askProvider anyAnswer sources chunk provider.2 provider.1
        (attemptsFor sources.settings provider.1) 0 progress with
    | answered after frames => rfl
    | exited => rfl
    | gaveUp after =>
      rw [asked] at follows
      have unanswered : sources.answerAt chunk provider = none := by
        cases answer : sources.answerAt chunk provider with
        | none => rfl
        | some frames => exact absurd (follows.1 frames answer) (by simp [anyAnswer])
      rw [unanswered] at someFrames
      exact ih someFrames after

theorem askChunks_withFrames {chunks : List (Segment × Nat)}
    (someFrames : ∀ chunk ∈ chunks, sources.firstAnswer chunk.2 ≠ some []) (progress : Progress) :
    askChunks withFrames sources chunks progress = askChunks anyAnswer sources chunks progress := by
  induction chunks generalizing progress with
  | nil => rfl
  | cons chunk rest ih =>
    obtain ⟨first, later⟩ := List.forall_mem_cons.mp someFrames
    rw [askChunks, askChunks, askProviders_withFrames sources first]
    cases askProviders anyAnswer sources chunk.2 sources.settings.providers.zipIdx progress with
    | answered after frames => simp only [ih later]
    | gaveUp after => rfl
    | exited => rfl

/-! ## Falling over -/

/-- In no chunk is the first answer one without frames. -/
def FirstAnswersHaveFrames : Prop :=
  ∀ chunk ∈ sources.chunks, sources.firstAnswer chunk.2 ≠ some []

/-- The bars a later provider has for a requested symbol, where every provider
before it answers without frames, are in the result. -/
def KeepsLaterBars (result : BackfillResult) : Prop :=
  ∀ chunk ∈ sources.chunks, ∀ earlier provider later,
    sources.settings.providers.zipIdx = earlier ++ provider :: later →
    (∀ other ∈ earlier, sources.answerAt chunk.2 other = some []) →
    ∀ frames, sources.answerAt chunk.2 provider = some frames →
    ∀ symbol ∈ sources.settings.symbols, ∀ bar ∈ barsOf symbol frames,
      ∃ frame ∈ result.frames, frame.symbol = symbol ∧ bar ∈ frame.bars

/-- The backfill takes no frames for a failure of the provider, as fetching the
latest bars does. -/
structure FallsOver (backfilled : Backfilled) : Prop where
  produced : ∀ frames ∈ backfilled.produced, frames ≠ []
  later : KeepsLaterBars sources backfilled.result
  asFetching : backfillFrom withFrames sources = .ok backfilled

theorem backfillFrom_ok {backfilled : Backfilled}
    (returned : backfillFrom anyAnswer sources = .ok backfilled) :
    backfilled.produced.map some =
        sources.chunks.map (fun chunk => sources.firstAnswer chunk.2) ∧
      ∀ symbol ∈ sources.settings.symbols, ∃ frame ∈ backfilled.result.frames,
        frame.symbol = symbol ∧ frame.bars = backfilled.produced.flatMap (barsOf symbol) := by
  unfold backfillFrom at returned
  split at returned
  · cases returned
  · obtain ⟨⟨final, produced⟩, ran, returned⟩ := bind_ok returned
    obtain ⟨⟨⟩, -, returned⟩ := bind_ok returned
    cases returned
    obtain ⟨answers, gathered⟩ := askChunks_takes sources ran
    refine ⟨answers, fun symbol requested => ?_⟩
    have ordered : symbol ∈ sources.settings.ordered :=
      (List.mergeSort_perm _ _).mem_iff.mpr requested
    exact ⟨_, List.mem_map_of_mem ordered, rfl, gathered symbol⟩

theorem produced_iff {produced : List (List MarketFrame)}
    (answers : produced.map some = sources.chunks.map (fun chunk => sources.firstAnswer chunk.2)) :
    (∀ frames ∈ produced, frames ≠ []) ↔ FirstAnswersHaveFrames sources := by
  have same : (∀ answer ∈ produced.map some, answer ≠ some []) ↔
      FirstAnswersHaveFrames sources := by
    rw [answers, List.forall_mem_map]
    rfl
  rw [← same, List.forall_mem_map]
  simp

/-- A backfill that returns falls over exactly when the first answer of every
chunk has frames. -/
theorem fallsOver_iff {backfilled : Backfilled}
    (returned : backfillFrom anyAnswer sources = .ok backfilled) :
    FallsOver sources backfilled ↔ FirstAnswersHaveFrames sources := by
  obtain ⟨answers, frames⟩ := backfillFrom_ok sources returned
  constructor
  · intro fallsOver
    exact (produced_iff sources answers).mp fallsOver.produced
  · intro someFrames
    refine ⟨(produced_iff sources answers).mpr someFrames, ?_, ?_⟩
    · intro chunk member earlier provider later split empty answer answered symbol requested bar
        held
      have first : sources.firstAnswer chunk.2 = some answer := by
        cases earlier with
        | nil => rw [Sources.firstAnswer, split, List.nil_append, List.findSome?_cons, answered]
        | cons other rest =>
          have none_left := someFrames chunk member
          rw [Sources.firstAnswer, split, List.cons_append, List.findSome?_cons,
            empty other List.mem_cons_self] at none_left
          exact absurd rfl none_left
      have taken : answer ∈ backfilled.produced := by
        have mapped : some answer ∈ backfilled.produced.map some := by
          rw [answers, ← first]
          exact List.mem_map_of_mem member
        simpa using mapped
      obtain ⟨frame, inResult, named, bars⟩ := frames symbol requested
      refine ⟨frame, inResult, named, ?_⟩
      rw [bars]
      exact List.mem_flatMap.mpr ⟨answer, taken, held⟩
    · rw [← returned, backfillFrom, backfillFrom, askChunks_withFrames sources someFrames]

end FirstAnswer

/-- One minute that is asked of two providers, with these answers. -/
def oneMinute (primary secondary : List MarketFrame) : Sources :=
  .constant {
    symbols := ["EURUSD"]
    timeframe := "5m"
    start := ⟨0, some 0, Calendar.DateTime.first_inRange⟩
    stop := ⟨60000000, some 0, by decide⟩
    chunkHours := 0
    providers := ["primary", "secondary"]
    handlers := fun provider => some (fun _ _ =>
      if provider = "primary" then .frames primary else .frames secondary) } (fun _ => 0)

def euroFrame : MarketFrame where
  symbol := "EURUSD"
  timeframe := "5m"
  bars := [{ timestamp := 0 }]

/-- What the minute returns when these frames are taken. -/
def oneMinuteResult (bars : List Bar) (taken : List MarketFrame) : Backfilled where
  produced := [taken]
  result := {
    frames := [{ symbol := "EURUSD", timeframe := "5m", bars }]
    providerUsed := some "primary"
    retryCount := 0
    status := "ok" }

/-- A primary provider with a bar is taken. -/
theorem fallsOver_primary :
    FallsOver (oneMinute [euroFrame] []) (oneMinuteResult euroFrame.bars [euroFrame]) ↔
      FirstAnswersHaveFrames (oneMinute [euroFrame] []) :=
  fallsOver_iff (oneMinute [euroFrame] []) (by decide +kernel)

/-- A primary provider without frames hides the bar of the secondary one. -/
theorem emptyPrimary_hides_secondary :
    ¬ ∀ (sources : Sources) (backfilled : Backfilled),
      backfillFrom anyAnswer sources = .ok backfilled → FallsOver sources backfilled := by
  intro fallsOver
  have returned : backfillFrom anyAnswer (oneMinute [] [euroFrame]) =
      .ok (oneMinuteResult [] []) := by
    decide +kernel
  obtain ⟨frame, inResult, -, held⟩ := (fallsOver _ _ returned).later ((0, 60000000), 0)
    (by decide +kernel) [("primary", 0)] ("secondary", 1) [] rfl (by decide +kernel) [euroFrame]
    (by decide +kernel) "EURUSD" (by decide) { timestamp := 0 } (by decide +kernel)
  have only : frame ∈ [({ symbol := "EURUSD", timeframe := "5m", bars := [] } : MarketFrame)] :=
    inResult
  rw [List.mem_singleton.mp only] at held
  cases held

end FxToushi.Ingestion
