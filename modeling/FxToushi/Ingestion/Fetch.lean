import FxToushi.Data.Dict
import FxToushi.Ingestion.Provider
import FxToushi.Py.ExtendedRanges

namespace FxToushi.Ingestion

open Data Py

/-! # Fetching the latest frames

Providers are tried in order, each with its own retries.  An attempt invokes
the handler, queues the frames and passes them to the guard.  Handlers, guard
and the logging of failed attempts share a state of the outside world.
-/

structure Environment (World : Type) where
  handlers : String → Option (World → HandlerReturn × World)
  now : World → Int
  /-- Whether a failed attempt could be logged; otherwise logging raises. -/
  logFailure : World → Bool × World

structure StageDecision where
  decision : String
  stage : String
deriving Repr, DecidableEq

/-- The evaluation of a stage raises where its numbers make no integer. -/
structure RateLimitSettings where
  evaluate : String → Rat → Option String → Option StageDecision
  autoApply : Bool

structure WorkerPlan where
  provider : String
  stage : String
  pollIntervalSec : Extended
  maxWorkers : Nat
deriving Repr, DecidableEq

structure FetchSettings where
  symbols : List String
  timeframe : String
  providers : List String
  profiles : String → ProviderProfile := fun _ => {}
  retries : Int := 2
  backoffMs : Rat := 500
  rateLimit : Option RateLimitSettings := none
  applyWorkerPlan : Bool := false
  plans : List WorkerPlan := []

/-- What one run of `fetch_latest` carries along.  `calls` are the calls of the
guard in order, for the statements only. -/
structure Session (World : Type) where
  world : World
  buffer : BufferCoordinator
  stages : Dict String String := Dict.empty
  calls : List Call := []

/-- Frames with their rate limit ratio, or an exception that escaped. -/
inductive Fetched where
  | frames (frames : List MarketFrame) (rateLimitRatio : Rat)
  | raised
deriving Repr, DecidableEq

variable {World : Type}

def Environment.call (environment : Environment World) (settings : FetchSettings)
    (provider : String) (world : World) : Except Raised ProviderResult × World :=
  match environment.handlers provider with
  | none => (.ok (defaultProviderFetch (environment.now world) settings.symbols settings.timeframe),
      world)
  | some handler =>
    let (returned, next) := handler world
    (invokeProvider provider returned, next)

/-- The attempts left for a provider.  An unexpected exception ends them with
the frames at hand, a recognised error clears the frames and tries again. -/
def fetchAttempts (environment : Environment World) (guard : Option (Guard World))
    (settings : FetchSettings) (provider : String) :
    Nat → Session World → Fetched × Session World
  | 0, session => (.frames [] 0, session)
  | remaining + 1, session =>
    let retry := fun session : Session World =>
      match environment.logFailure session.world with
      | (false, world) => (.raised, { session with world })
      | (true, world) =>
        fetchAttempts environment guard settings provider remaining { session with world }
    match environment.call settings provider session.world with
    | (.error _, world) => retry { session with world }
    | (.ok result, world) =>
      match session.buffer.enqueue with
      | none => (.frames result.frames 0, { session with world })
      | some buffer =>
        let checked := checkFrames guard world result.frames
        let session := { session with
          world := checked.world
          buffer := buffer.pop
          calls := session.calls ++ checked.calls }
        match checked.failure with
        | none => (.frames checked.frames result.rateLimitRatio, session)
        | some .unexpected => (.frames checked.frames 0, session)
        | some .exits => (.raised, session)
        | some _ => retry session

def fetchProviderOnce (environment : Environment World) (guard : Option (Guard World))
    (settings : FetchSettings) (provider : String) (session : Session World) :
    Fetched × Session World :=
  let retries := (resolveRetrySettings (settings.profiles provider) settings.retries
    settings.backoffMs).1
  fetchAttempts environment guard settings provider (attemptsOf retries) session

/-- Ask the rate limit guard whether to take a provider's stage back. -/
def evaluateRateLimit (settings : FetchSettings) (provider : String) (ratio : Rat)
    (session : Session World) : Option Bool × Session World :=
  match settings.rateLimit with
  | none => (some false, session)
  | some limit =>
    match limit.evaluate provider ratio (session.stages.get? provider) with
    | none => (none, session)
    | some decision =>
      (some (decision.decision == "rollback"),
        if limit.autoApply then
          { session with stages := session.stages.set provider decision.stage } else session)

def fetchInOrder (environment : Environment World) (guard : Option (Guard World))
    (settings : FetchSettings) :
    List String → Session World → Option (List MarketFrame) × Session World
  | [], session => (some [], session)
  | provider :: rest, session =>
    match fetchProviderOnce environment guard settings provider session with
    | (.raised, session) => (none, session)
    | (.frames frames ratio, session) =>
      if frames = [] then fetchInOrder environment guard settings rest session
      else
        match evaluateRateLimit settings provider ratio session with
        | (none, session) => (none, session)
        | (some rollback, session) =>
          if rollback ∧ settings.providers.getLast? ≠ some provider then
            fetchInOrder environment guard settings rest session
          else (some frames, session)

/-- `time.sleep` takes no negative time, no NaN and nothing that 63 bits of
nanoseconds do not hold. -/
def sleeps (seconds : Extended) : Bool :=
  0 ≤ seconds && (seconds.rounded * .finite (10 ^ 9)).rounded < .finite (2 ^ 63)

/-- The worker plans fetch, and sleep after the jobs of each plan. -/
inductive PlanStep where
  | fetch (provider : String)
  | sleep (seconds : Extended)

/-- Each plan takes its jobs from its own copy of the provider's queue. -/
def planSteps (settings : FetchSettings) : List PlanStep :=
  settings.plans.flatMap (fun plan =>
    (((settings.providers.filter (fun provider => provider == plan.provider)).take
      plan.maxWorkers).map .fetch) ++ [.sleep plan.pollIntervalSec])

def runSteps (environment : Environment World) (guard : Option (Guard World))
    (settings : FetchSettings) :
    List PlanStep → Dict String (List MarketFrame) → Session World →
      Option (Dict String (List MarketFrame)) × Session World
  | [], results, session => (some results, session)
  | .sleep seconds :: rest, results, session =>
    if sleeps seconds then runSteps environment guard settings rest results session
    else (none, session)
  | .fetch provider :: rest, results, session =>
    match fetchProviderOnce environment guard settings provider session with
    | (.raised, session) => (none, session)
    | (.frames frames ratio, session) =>
      match evaluateRateLimit settings provider ratio session with
      | (none, session) => (none, session)
      | (some _, session) =>
        runSteps environment guard settings rest (results.set provider frames) session

/-- The frames of the first provider that has some. -/
def firstResult (results : Dict String (List MarketFrame)) (providers : List String) :
    List MarketFrame :=
  (providers.findSome? (fun provider =>
    match results.get? provider with
    | none => none
    | some frames => if frames = [] then none else some frames)).getD []

/-- A call starts with the coordinator it is given, or with the one that all calls
share. -/
def Session.start (world : World) (given : Option BufferCoordinator) (default : DefaultBuffer)
    (stages : Dict String String) : Session World where
  world
  buffer := default.unless given
  stages

def fetchLatest (environment : Environment World) (guard : Option (Guard World))
    (settings : FetchSettings) (session : Session World) :
    Option (List MarketFrame) × Session World :=
  if settings.applyWorkerPlan then
    let (results, session) :=
      runSteps environment guard settings (planSteps settings) Dict.empty session
    (results.map (fun results => firstResult results settings.providers), session)
  else fetchInOrder environment guard settings settings.providers session

/-! ## Only validated frames come back -/

def Passed (calls : List Call) (frames : List MarketFrame) : Prop :=
  ∀ frame ∈ frames, ∃ call ∈ calls, call.frame = frame ∧ call.verdict.passes = true

/-- The guard raises no exception that the attempts do not recognise.  An exit
is not caught, so no frames are returned after it. -/
def RaisesRecognised (guard : Guard World) : Prop :=
  ∀ world frame, (guard world frame).1 ≠ .raised .unexpected

structure Extends (first last : Session World) : Prop where
  calls : first.calls ⊆ last.calls
  maxsize : last.buffer.maxsize = first.buffer.maxsize

theorem Extends.refl (session : Session World) : Extends session session :=
  ⟨fun _ member => member, rfl⟩

theorem Extends.trans {first second third : Session World} (left : Extends first second)
    (right : Extends second third) : Extends first third :=
  ⟨fun _ member => right.calls (left.calls member), right.maxsize.trans left.maxsize⟩

theorem Extends.withWorld {first last : Session World} (steps : Extends first last)
    (world : World) : Extends first { last with world } := ⟨steps.calls, steps.maxsize⟩

theorem passed_nil (calls : List Call) : Passed calls [] :=
  fun _ absurdity => absurd absurdity List.not_mem_nil

theorem Passed.mono {before after : List Call} {frames : List MarketFrame}
    (passed : Passed before frames) (grown : before ⊆ after) : Passed after frames := by
  intro frame member
  obtain ⟨call, found, same⟩ := passed frame member
  exact ⟨call, grown found, same⟩

section Runs

variable {environment : Environment World} {guard : Guard World} {settings : FetchSettings}

/-- What a part of the run returns as frames has passed the guard, and the
calls made before are kept. -/
structure Sound (before : Session World) (outcome : Fetched × Session World) : Prop where
  grown : Extends before outcome.2
  passed : ∀ frames ratio, outcome.1 = .frames frames ratio → Passed outcome.2.calls frames

theorem Sound.of_extends {first second : Session World} {outcome : Fetched × Session World}
    (steps : Extends first second) (sound : Sound second outcome) : Sound first outcome :=
  ⟨steps.trans sound.grown, sound.passed⟩

theorem Sound.raised (session : Session World) : Sound session (.raised, session) :=
  ⟨.refl session, fun _ _ absurdity => by cases absurdity⟩

theorem fetchAttempts_sound (handled : RaisesRecognised guard) (provider : String)
    (remaining : Nat) (session : Session World) (room : 0 < session.buffer.maxsize) :
    Sound session
      (fetchAttempts environment (some guard) settings provider remaining session) := by
  induction remaining generalizing session with
  | zero =>
    refine ⟨.refl session, fun frames ratio returned => ?_⟩
    cases returned
    exact passed_nil _
  | succ remaining ih =>
    have retry : ∀ later : Session World, Extends session later →
        Sound session (match environment.logFailure later.world with
          | (false, world) => (.raised, { later with world })
          | (true, world) => fetchAttempts environment (some guard) settings provider remaining
              { later with world }) := by
      intro later grown
      split
      · rename_i world unlogged
        exact .of_extends (grown.withWorld world) (.raised _)
      · rename_i world logged
        have roomLeft : 0 < later.buffer.maxsize := by simpa only [grown.maxsize] using room
        exact .of_extends (grown.withWorld world) (ih _ roomLeft)
    rw [fetchAttempts]
    split
    · exact retry _ ⟨fun _ member => member, rfl⟩
    · rename_i result world called
      split
      · rename_i refused
        have full := session.buffer.enqueue_eq_none_iff.mp refused
        omega
      · rename_i buffer enqueued
        have grown : Extends session { session with
            world := (checkFrames (some guard) world result.frames).world
            buffer := buffer.pop
            calls := session.calls ++ (checkFrames (some guard) world result.frames).calls } :=
          ⟨List.subset_append_left _ _,
            buffer.pop_maxsize.trans (BufferCoordinator.enqueue_maxsize enqueued)⟩
        dsimp only
        split
        · rename_i finished
          refine ⟨grown, fun frames ratio returned => ?_⟩
          cases returned
          intro frame member
          obtain ⟨call, found, same⟩ := validateFrames_passes finished frame member
          exact ⟨call, List.mem_append_right _ found, same⟩
        · rename_i failed
          exact absurd rfl (validateFrames_failure handled failed)
        · exact .of_extends grown (.raised _)
        · exact retry _ grown

theorem fetchProviderOnce_sound (environment : Environment World) (settings : FetchSettings)
    (handled : RaisesRecognised guard) (provider : String) (session : Session World)
    (room : 0 < session.buffer.maxsize) :
    Sound session (fetchProviderOnce environment (some guard) settings provider session) :=
  fetchAttempts_sound handled provider _ session room

theorem evaluateRateLimit_extends (settings : FetchSettings) (provider : String) (ratio : Rat)
    (session : Session World) :
    Extends session (evaluateRateLimit settings provider ratio session).2 := by
  unfold evaluateRateLimit
  split
  · exact .refl session
  · split
    · exact .refl session
    · dsimp only
      split
      · exact ⟨fun _ member => member, rfl⟩
      · exact .refl session

theorem fetchInOrder_passed (handled : RaisesRecognised guard) (providers : List String)
    (session : Session World) (room : 0 < session.buffer.maxsize) {frames : List MarketFrame}
    (returned : (fetchInOrder environment (some guard) settings providers session).1 =
      some frames) :
    Passed (fetchInOrder environment (some guard) settings providers session).2.calls frames := by
  induction providers generalizing session with
  | nil =>
    cases returned
    exact passed_nil _
  | cons provider rest ih =>
    have sound := fetchProviderOnce_sound environment settings handled provider session room
    rcases outcome : fetchProviderOnce environment (some guard) settings provider session with
      ⟨fetched, later⟩
    rw [outcome] at sound
    have roomLater : 0 < later.buffer.maxsize := by
      rw [sound.grown.maxsize]
      exact room
    simp only [fetchInOrder, outcome] at returned ⊢
    cases fetched with
    | raised => cases returned
    | frames found ratio =>
      have limited := evaluateRateLimit_extends settings provider ratio later
      by_cases empty : found = []
      · simp only [empty, if_true] at returned ⊢
        exact ih later roomLater returned
      · rcases evaluated : evaluateRateLimit settings provider ratio later with
          ⟨rollback, next⟩
        rw [evaluated] at limited
        simp only [if_neg empty, evaluated] at returned ⊢
        cases rollback with
        | none => cases returned
        | some rollback =>
          dsimp only at returned ⊢
          split at returned
          · rename_i rolledBack
            rw [if_pos rolledBack]
            exact ih _ (by rw [limited.maxsize]; exact roomLater) returned
          · rename_i kept
            cases returned
            rw [if_neg kept]
            exact (sound.passed _ ratio rfl).mono limited.calls

/-- Every result that is stored has passed the guard. -/
def Stored (calls : List Call) (results : Dict String (List MarketFrame)) : Prop :=
  ∀ provider frames, results.get? provider = some frames → Passed calls frames

theorem Stored.set {calls : List Call} {results : Dict String (List MarketFrame)}
    (stored : Stored calls results) {provider : String} {frames : List MarketFrame}
    (passed : Passed calls frames) : Stored calls (results.set provider frames) := by
  intro other found present
  rw [Dict.get?_set] at present
  split at present
  · cases present
    exact passed
  · exact stored other found present

theorem runSteps_passed (handled : RaisesRecognised guard) (steps : List PlanStep)
    (results : Dict String (List MarketFrame)) (session : Session World)
    (room : 0 < session.buffer.maxsize) (stored : Stored session.calls results)
    {final : Dict String (List MarketFrame)}
    (returned : (runSteps environment (some guard) settings steps results session).1 =
      some final) :
    Stored (runSteps environment (some guard) settings steps results session).2.calls final := by
  induction steps generalizing results session with
  | nil =>
    cases returned
    exact stored
  | cons step rest ih =>
    cases step with
    | sleep seconds =>
      rw [runSteps] at returned ⊢
      split at returned
      · rename_i slept
        rw [if_pos slept]
        exact ih results session room stored returned
      · cases returned
    | fetch provider =>
      have sound := fetchProviderOnce_sound environment settings handled provider session room
      rcases outcome : fetchProviderOnce environment (some guard) settings provider session
        with ⟨fetched, later⟩
      rw [outcome] at sound
      simp only [runSteps, outcome] at returned ⊢
      cases fetched with
      | raised => cases returned
      | frames found ratio =>
        have limited := evaluateRateLimit_extends settings provider ratio later
        rcases evaluated : evaluateRateLimit settings provider ratio later with
          ⟨rollback, next⟩
        rw [evaluated] at limited
        simp only [evaluated] at returned ⊢
        cases rollback with
        | none => cases returned
        | some rollback =>
          have grown := sound.grown.trans limited
          refine ih _ _ (by rw [grown.maxsize]; exact room) ?_ returned
          have passed := (sound.passed found ratio rfl).mono limited.calls
          exact .set
            (fun other frames present => (stored other frames present).mono grown.calls)
            passed

theorem firstResult_passed {calls : List Call} {results : Dict String (List MarketFrame)}
    (stored : Stored calls results) (providers : List String) :
    Passed calls (firstResult results providers) := by
  unfold firstResult
  cases found : providers.findSome? _ with
  | none => exact passed_nil calls
  | some frames =>
    obtain ⟨provider, -, present⟩ := List.exists_of_findSome?_eq_some found
    split at present
    · cases present
    · rename_i kept held
      split at present
      · cases present
      · cases present
        exact stored provider frames held

theorem fetchLatest_passed (handled : RaisesRecognised guard) (session : Session World)
    (room : 0 < session.buffer.maxsize) {frames : List MarketFrame}
    (returned : (fetchLatest environment (some guard) settings session).1 = some frames) :
    Passed (fetchLatest environment (some guard) settings session).2.calls frames := by
  unfold fetchLatest at returned ⊢
  split at returned
  · rename_i planned
    rw [if_pos planned]
    rcases ran : runSteps environment (some guard) settings (planSteps settings) Dict.empty
      session with ⟨results, later⟩
    simp only [ran] at returned ⊢
    cases results with
    | none => cases returned
    | some results =>
      cases returned
      have stored := runSteps_passed handled (planSteps settings) Dict.empty session room
        (fun provider frames absurdity => by cases absurdity) (congrArg Prod.fst ran)
      rw [ran] at stored
      exact firstResult_passed stored settings.providers
  · rename_i unplanned
    rw [if_neg unplanned]
    exact fetchInOrder_passed handled settings.providers session room returned

end Runs

/-- Every list `fetch_latest` returns was passed to the guard frame by frame
and passed it. -/
def ReturnsValidated (guard : Guard World) : Prop :=
  ∀ (environment : Environment World) (settings : FetchSettings) (world : World)
    (given : Option BufferCoordinator) (default : DefaultBuffer) (stages : Dict String String)
    (frames : List MarketFrame),
    (fetchLatest environment (some guard) settings (.start world given default stages)).1 =
      some frames →
    Passed (fetchLatest environment (some guard) settings
      (.start world given default stages)).2.calls
      frames

/-- One provider without retries that hands over one frame. -/
def singleFrame (world : World) (frame : MarketFrame) : Environment World where
  handlers := fun _ => some (fun _ => (.frames [frame], world))
  now := fun _ => 0
  logFailure := fun world => (true, world)

def singleProvider : FetchSettings where
  symbols := []
  timeframe := "M5"
  providers := ["primary"]
  retries := 0

theorem fetchLatest_unexpected {guard : Guard World} {world : World} {frame : MarketFrame}
    (raises : (guard world frame).1 = .raised .unexpected) :
    (fetchLatest (singleFrame world frame) (some guard) singleProvider
        (.start world none .fresh .empty)).1 = some [frame] ∧
      (fetchLatest (singleFrame world frame) (some guard) singleProvider
        (.start world none .fresh .empty)).2.calls = [⟨frame, .raised .unexpected⟩] := by
  rcases validated : guard world frame with ⟨verdict, next⟩
  rw [validated] at raises
  cases raises
  have room := DefaultBuffer.fresh.unless_maxsize none
  cases enqueued : (DefaultBuffer.fresh.unless none).enqueue with
  | none =>
    have full := (DefaultBuffer.fresh.unless none).enqueue_eq_none_iff.mp enqueued
    omega
  | some queued =>
    simp [fetchLatest, singleProvider, fetchInOrder, fetchProviderOnce, resolveRetrySettings,
      attemptsOf, fetchAttempts, Environment.call, singleFrame, invokeProvider, Session.start,
      enqueued, checkFrames, validateFrames, validated, evaluateRateLimit]

/-- Only validated frames come back exactly when the guard raises nothing that
the attempts do not recognise. -/
theorem returnsValidated_iff (guard : Guard World) :
    ReturnsValidated guard ↔ RaisesRecognised guard := by
  constructor
  · intro validated world frame raises
    obtain ⟨returned, called⟩ := fetchLatest_unexpected raises
    have passed := validated _ _ world none .fresh _ _ returned
    rw [called] at passed
    obtain ⟨call, found, -, passes⟩ := passed frame (List.mem_singleton_self frame)
    rw [List.mem_singleton.mp found] at passes
    cases passes
  · intro handled environment settings world given default stages frames returned
    exact fetchLatest_passed handled _ (default.unless_maxsize given) returned

/-- A guard that fails on the timestamps of any frame. -/
def raisingGuard : Guard Unit := fun world _ => (.raised .unexpected, world)

/-- The frame whose check raised is returned all the same. -/
theorem raisingGuard_returns_unvalidated : ¬ ReturnsValidated raisingGuard := by
  intro validated
  let frame : MarketFrame := { symbol := "USDJPY", timeframe := "M5", bars := [{ timestamp := 0 }] }
  have raises : (raisingGuard () frame).1 = .raised .unexpected := rfl
  obtain ⟨returned, called⟩ := fetchLatest_unexpected raises
  have passed := validated _ _ () none .fresh _ _ returned
  rw [called] at passed
  obtain ⟨call, found, -, passes⟩ := passed frame (List.mem_singleton_self frame)
  rw [List.mem_singleton.mp found] at passes
  cases passes

end FxToushi.Ingestion
