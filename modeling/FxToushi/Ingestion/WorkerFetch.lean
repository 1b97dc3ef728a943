import FxToushi.Data.Fallible
import FxToushi.Ingestion.Fetch
import FxToushi.Py.JsonIndent

namespace FxToushi.Ingestion

open Data Py

/-! # Fetching through worker plans

`fetch_latest` with what it leaves behind: the bar.ready events and the file of
the rate limit stages.  With worker plans the providers' jobs are run first and
a result is picked afterwards.
-/

/-! ## The rate limit guard -/

/-- A guard without stages is made with one. -/
structure RateLimitGuard where
  tokensPerMinute : Extended
  burstTokens : Extended
  pollIntervalSec : Extended
  stages : List String
  staged : stages ≠ []

/-- What `evaluate` is asked.  The rate may be infinite or no number. -/
structure StageRequest where
  provider : String
  rate429 : Extended
  currentStage : Option String := none
  allowPromotion : Bool := true
  decisionSource : Option String := none
  runbookRef : Option String := none

/-- A decision with everything it reports. -/
structure StageReport extends StageDecision where
  provider : String
  tokensRemaining : Extended
  sampleWindowMin : Int
  rate429 : Extended
  maxConcurrent : Int
  pollIntervalSec : Extended
  decisionSource : Option String
  runbookRef : Option String

namespace RateLimitGuard

def firstStage (guard : RateLimitGuard) : String := guard.stages.head guard.staged

/-- `current_stage or self.stages[0]`. -/
def stageOr (guard : RateLimitGuard) (stage : Option String) : String :=
  if truthy stage then stage.getD guard.firstStage else guard.firstStage

def indexOf (guard : RateLimitGuard) (stage : String) : Nat :=
  if stage ∈ guard.stages then guard.stages.idxOf stage else 0

def stageAt (guard : RateLimitGuard) (index : Nat) : String :=
  guard.stages.getD index guard.firstStage

def nextStage (guard : RateLimitGuard) (index : Nat) : String :=
  guard.stageAt (min (index + 1) (guard.stages.length - 1))

def prevStage (guard : RateLimitGuard) (index : Nat) : String := guard.stageAt (index - 1)

/-- The stage and the word for it. -/
def decideStage (guard : RateLimitGuard) (request : StageRequest) : StageDecision :=
  let stage := guard.stageOr request.currentStage
  let index := guard.indexOf stage
  if request.allowPromotion then
    if request.rate429.le (.finite (1 / 100)) ∧ index < guard.stages.length - 1 then
      { decision := "promote", stage := guard.nextStage index }
    else if Extended.lt (.finite (15 / 1000)) request.rate429 ∧ 0 < index then
      { decision := "rollback", stage := guard.prevStage index }
    else { decision := "hold", stage }
  else { decision := "hold", stage }

def pollInterval (guard : RateLimitGuard) (stage : String) : Extended :=
  let shortened := guard.pollIntervalSec.rounded -
    (Extended.finite (guard.indexOf stage * (3 / 2))).rounded
  .greater shortened.rounded (.finite 3)

/-- Both divisions are rounded, and only numbers have an integer. -/
def maxConcurrent (tokensRemaining pollInterval : Extended) : Except PyError Int :=
  let slotsPerMin := (.finite 60 / pollInterval.greater 1 : Extended).rounded
  if slotsPerMin = 0 then .ok 1 else (tokensRemaining.rounded / slotsPerMin).rounded.toInt

def evaluate (guard : RateLimitGuard) (request : StageRequest) : Except PyError StageReport := do
  let decided := guard.decideStage request
  let tokensRemaining := guard.burstTokens.lesser guard.tokensPerMinute
  let pollInterval := guard.pollInterval decided.stage
  let maxConcurrent ← maxConcurrent tokensRemaining pollInterval
  return { decided with
    provider := request.provider
    tokensRemaining
    sampleWindowMin := 60
    rate429 := request.rate429
    maxConcurrent
    pollIntervalSec := pollInterval
    decisionSource := request.decisionSource
    runbookRef := request.runbookRef }

/-- A plan without positive workers runs nothing. -/
def workerPlan (guard : RateLimitGuard) (provider : String) (stage : Option String) :
    Except PyError WorkerPlan := do
  let effective := guard.stageOr stage
  let pollInterval := guard.pollInterval effective
  let maxWorkers ← maxConcurrent guard.burstTokens pollInterval
  return { provider, stage := effective, pollIntervalSec := pollInterval
           maxWorkers := maxWorkers.toNat }

end RateLimitGuard

/-! ## The stage file -/

abbrev StageFile := Option (List Char)

def loadRateLimitState : StageFile → Dict String String
  | none => Dict.empty
  | some content =>
    match Json.loads content with
    | some (.map payload) =>
      Dict.empty.setAll Prod.fst (fun entry => entry.2.text) payload
    | _ => Dict.empty

def stagesPayload (stages : Dict String String) : Value :=
  .map (stages.entries.map (fun entry => (entry.1, .str entry.2)))

def persistRateLimitState (stages : Dict String String) : StageFile :=
  some (Json.dumpsIndented 0 (stagesPayload stages))

/-! ## The call -/

/-- An event of the bar.ready queue, with its time left out. -/
structure BarReady where
  symbol : String
  timeframe : String
  bars : List Bar
  barCount : Nat
  qualityFlag : Int
  source : String
deriving Repr, DecidableEq

def barReadyOf (source : String) (frame : MarketFrame) : BarReady where
  symbol := frame.symbol
  timeframe := frame.timeframe
  bars := frame.bars
  barCount := frame.bars.length
  qualityFlag := frame.qualityFlag
  source

/-- `persists` says whether there is a path for the stages. -/
structure FetchCall where
  symbols : List String
  timeframe : String
  providers : List String
  profiles : String → ProviderProfile := fun _ => {}
  retries : Int := 2
  backoffMs : Rat := 500
  guard : Option RateLimitGuard := none
  rateLimitState : Option (Dict String String) := none
  autoApply : Bool := false
  persists : Bool := false
  workerPlan : Option WorkerPlan := none
  targetMaxWorkers : Int := 4

namespace FetchCall

def startStages (call : FetchCall) (file : StageFile) : Dict String String :=
  call.rateLimitState.getD (if call.persists then loadRateLimitState file else Dict.empty)

/-- The plans of the guard, one for each provider. -/
def providerPlans (call : FetchCall) (stages : Dict String String) :
    Except PyError (List WorkerPlan) :=
  match call.guard with
  | none => .ok []
  | some guard => tryMap (fun provider => guard.workerPlan provider (stages.get? provider))
      call.providers.eraseDups

/-- `spawn_provider_workers`, which caps the workers of a plan. -/
def spawnProviderWorkers (call : FetchCall) (stages : Dict String String) :
    Except PyError (List WorkerPlan) :=
  tryMap (fun provider => match call.guard with
    | some guard => do
        let plan ← guard.workerPlan provider (stages.get? provider)
        return { plan with
          maxWorkers := (min (plan.maxWorkers : Int) call.targetMaxWorkers).toNat }
    | none => .ok { provider, stage := "stage0", pollIntervalSec := .finite 15
                    maxWorkers := (min 4 call.targetMaxWorkers).toNat })
    (if call.providers = [] then ["primary"] else call.providers)

/-- The plans that are run: those of the guard, else the one that is given, else
some that are made up. -/
def plans (call : FetchCall) (stages : Dict String String) (fromGuard : List WorkerPlan) :
    Except PyError (List WorkerPlan) :=
  let given := match call.workerPlan with
    | some plan =>
      if fromGuard = [] then call.providers.map (fun provider => { plan with provider })
      else fromGuard
    | none => fromGuard
  if given = [] then call.spawnProviderWorkers stages else .ok given

def settings (call : FetchCall) (applyWorkerPlan : Bool) (plans : List WorkerPlan) :
    FetchSettings where
  symbols := call.symbols
  timeframe := call.timeframe
  providers := call.providers
  profiles := call.profiles
  retries := call.retries
  backoffMs := call.backoffMs
  rateLimit := call.guard.map (fun guard =>
    { evaluate := fun provider rate429 currentStage =>
        (guard.evaluate { provider, rate429 := .finite rate429, currentStage }).toOption.map
          (·.toStageDecision)
      autoApply := call.autoApply })
  applyWorkerPlan
  plans

end FetchCall

/-- What a call returns, unless it raises, and what it leaves behind. -/
structure Outcome where
  frames : Option (List MarketFrame)
  barReady : List BarReady
  stageFile : StageFile

def Outcome.raised (file : StageFile) : Outcome where
  frames := none
  barReady := []
  stageFile := file

section Run

variable {World : Type}

/-- The worker plans return before the stages are persisted and the events are
appended. -/
def FetchCall.run (call : FetchCall) (environment : Environment World)
    (quality : Option (Guard World)) (world : World) (given : Option BufferCoordinator)
    (default : DefaultBuffer) (file : StageFile) (applyWorkerPlan : Bool) : Outcome :=
  let stages := call.startStages file
  let session := Session.start world given default stages
  match call.providerPlans stages with
  | .error _ => .raised file
  | .ok fromGuard =>
    if applyWorkerPlan then
      match call.plans stages fromGuard with
      | .error _ => .raised file
      | .ok plans =>
        { frames := (fetchLatest environment quality (call.settings true plans) session).1
          barReady := []
          stageFile := file }
    else
      match fetchLatest environment quality (call.settings false []) session with
      | (none, _) => .raised file
      | (some frames, session) =>
        { frames := some frames
          barReady := frames.map (barReadyOf "fetch_latest")
          stageFile := if call.autoApply ∧ call.persists then
            persistRateLimitState session.stages else file }

/-- The same frames, the same events and the same stages on file. -/
structure SameOutcome (planned sequential : Outcome) : Prop where
  frames : planned.frames = sequential.frames
  barReady : planned.barReady = sequential.barReady
  stages : ∀ provider, (loadRateLimitState planned.stageFile).get? provider =
    (loadRateLimitState sequential.stageFile).get? provider

/-! ## Responses -/

/-- How providers respond, each from a state of its own. -/
structure ProviderStates (World State : Type) where
  state : World → String → State
  answer : String → State → Fetched
  next : String → State → State

namespace ProviderStates

variable {State : Type}

def moved (providers : ProviderStates World State) (states : String → State)
    (provider : String) : String → State :=
  Function.update states provider (providers.next provider (states provider))

/-- What the providers respond in the order they are fetched from. -/
def inTurn (providers : ProviderStates World State) :
    (String → State) → List String → List (String × Fetched)
  | _, [] => []
  | states, provider :: rest =>
    (provider, providers.answer provider (states provider)) ::
      providers.inTurn (providers.moved states provider) rest

theorem inTurn_providers (providers : ProviderStates World State) (states : String → State)
    (order : List String) : (providers.inTurn states order).map Prod.fst = order := by
  induction order generalizing states with
  | nil => rfl
  | cons provider rest ih => rw [inTurn, List.map_cons, ih]

/-- Fetching from a provider, its retries included, depends on that provider's
state and moves no other's. -/
structure Govern (providers : ProviderStates World State) (environment : Environment World)
    (quality : Option (Guard World)) (settings : FetchSettings) : Prop where
  answers : ∀ provider (session : Session World), 0 < session.buffer.maxsize →
    (fetchProviderOnce environment quality settings provider session).1 =
      providers.answer provider (providers.state session.world provider)
  moves : ∀ provider (session : Session World), 0 < session.buffer.maxsize →
    providers.state (fetchProviderOnce environment quality settings provider session).2.world =
      providers.moved (providers.state session.world) provider

end ProviderStates

section Fetching

variable {environment : Environment World} {quality : Option (Guard World)}
  {settings : FetchSettings}

/-- What fetching from a provider leaves as it is. -/
structure Kept (before after : Session World) : Prop where
  stages : after.stages = before.stages
  maxsize : after.buffer.maxsize = before.buffer.maxsize

/-- A retry goes on to the next attempt, unless the failure cannot be logged. -/
theorem retry_kept {provider : String} {remaining : Nat} {session later : Session World}
    (next : ∀ session, Kept session
      (fetchAttempts environment quality settings provider remaining session).2)
    (kept : Kept session later) :
    Kept session (match environment.logFailure later.world with
      | (false, world) => (Fetched.raised, { later with world })
      | (true, world) => fetchAttempts environment quality settings provider remaining
          { later with world }).2 := by
  split
  · exact ⟨kept.stages, kept.maxsize⟩
  · rename_i world logged
    have after := next { later with world }
    exact ⟨after.stages.trans kept.stages, after.maxsize.trans kept.maxsize⟩

theorem fetchAttempts_kept (provider : String) (remaining : Nat) (session : Session World) :
    Kept session (fetchAttempts environment quality settings provider remaining session).2 := by
  induction remaining generalizing session with
  | zero => exact ⟨rfl, rfl⟩
  | succ remaining ih =>
    rw [fetchAttempts]
    split
    · exact retry_kept ih ⟨rfl, rfl⟩
    · rename_i result world called
      split
      · exact ⟨rfl, rfl⟩
      · rename_i buffer enqueued
        have kept : Kept session { session with
            world := (checkFrames quality world result.frames).world
            buffer := buffer.pop
            calls := session.calls ++ (checkFrames quality world result.frames).calls } :=
          ⟨rfl, buffer.pop_maxsize.trans (BufferCoordinator.enqueue_maxsize enqueued)⟩
        dsimp only
        split
        · exact kept
        · exact kept
        · exact kept
        · exact retry_kept ih kept

theorem fetchAttempts_planned (plans : List WorkerPlan) (provider : String) (remaining : Nat)
    (session : Session World) :
    fetchAttempts environment quality { settings with applyWorkerPlan := true, plans } provider
        remaining session =
      fetchAttempts environment quality settings provider remaining session := by
  induction remaining generalizing session with
  | zero => rfl
  | succ remaining ih =>
    simp only [fetchAttempts, ih]
    rfl

end Fetching

theorem fetchProviderOnce_kept (environment : Environment World)
    (quality : Option (Guard World)) (settings : FetchSettings) (provider : String)
    (session : Session World) :
    Kept session (fetchProviderOnce environment quality settings provider session).2 :=
  fetchAttempts_kept provider _ session

theorem fetchProviderOnce_planned (environment : Environment World)
    (quality : Option (Guard World)) (call : FetchCall) (plans : List WorkerPlan)
    (provider : String) (session : Session World) :
    fetchProviderOnce environment quality (call.settings true plans) provider session =
      fetchProviderOnce environment quality (call.settings false []) provider session := by
  have same : call.settings true plans =
      { call.settings false [] with applyWorkerPlan := true, plans } := rfl
  rw [same, fetchProviderOnce, fetchProviderOnce, fetchAttempts_planned]

/-! ## In order -/

/-- Whether the guard takes a provider's stage back, and the stages then; nothing
where it raises. -/
def FetchCall.judge (call : FetchCall) (stages : Dict String String) (provider : String)
    (ratio : Rat) : Option (Bool × Dict String String) :=
  match call.guard with
  | none => some (false, stages)
  | some guard =>
    (guard.evaluate { provider, rate429 := .finite ratio
                      currentStage := stages.get? provider }).toOption.map fun report =>
      (report.decision == "rollback",
        if call.autoApply then stages.set provider report.stage else stages)

theorem evaluateRateLimit_eq (call : FetchCall) (applyWorkerPlan : Bool) (plans : List WorkerPlan)
    (provider : String) (ratio : Rat) (session : Session World) :
    evaluateRateLimit (call.settings applyWorkerPlan plans) provider ratio session =
      ((call.judge session.stages provider ratio).map Prod.fst,
        { session with stages :=
          ((call.judge session.stages provider ratio).map Prod.snd).getD session.stages }) := by
  cases limited : call.guard with
  | none => simp [evaluateRateLimit, FetchCall.settings, FetchCall.judge, limited]
  | some guard =>
    simp only [evaluateRateLimit, FetchCall.settings, FetchCall.judge, limited, Option.map_some]
    cases guard.evaluate { provider, rate429 := .finite ratio
                           currentStage := session.stages.get? provider } with
    | error error => rfl
    | ok report =>
      cases applied : call.autoApply <;> simp [Except.toOption]

/-- The providers in order, over their responses. -/
def FetchCall.inOrder (call : FetchCall) :
    Dict String String → List (String × Fetched) →
      Option (List MarketFrame) × Dict String String
  | stages, [] => (some [], stages)
  | stages, (_, .raised) :: _ => (none, stages)
  | stages, (provider, .frames frames ratio) :: rest =>
    if frames = [] then call.inOrder stages rest
    else
      match call.judge stages provider ratio with
      | none => (none, stages)
      | some (rollback, next) =>
        if rollback ∧ call.providers.getLast? ≠ some provider then call.inOrder next rest
        else (some frames, next)

/-- No provider's frames are kept: each has none, or is rolled back while
another provider is the last. -/
def FetchCall.PassedOver (call : FetchCall) :
    Dict String String → List (String × Fetched) → Prop
  | _, [] => True
  | _, (_, .raised) :: _ => False
  | stages, (provider, .frames frames ratio) :: rest =>
    if frames = [] then call.PassedOver stages rest
    else ∃ next, call.judge stages provider ratio = some (true, next) ∧
      call.providers.getLast? ≠ some provider ∧ call.PassedOver next rest

/-- The stages after the providers passed over. -/
def FetchCall.settled (call : FetchCall) :
    Dict String String → List (String × Fetched) → Dict String String
  | stages, (provider, .frames frames ratio) :: rest =>
    if frames = [] then call.settled stages rest
    else
      match call.judge stages provider ratio with
      | none => stages
      | some (_, next) => call.settled next rest
  | stages, _ => stages

/-- A fetch raises, or the guard does where it is asked about the frames. -/
def FetchCall.Raises (call : FetchCall) (stages : Dict String String) : String × Fetched → Prop
  | (_, .raised) => True
  | (provider, .frames frames ratio) => frames ≠ [] ∧ call.judge stages provider ratio = none

/-- A provider raises once those before it are passed over. -/
def FetchCall.RaisesInTurn (call : FetchCall) (stages : Dict String String)
    (responses : List (String × Fetched)) : Prop :=
  ∃ before response after, responses = before ++ response :: after ∧
    call.PassedOver stages before ∧ call.Raises (call.settled stages before) response

theorem fetchInOrder_eq {State : Type} {providers : ProviderStates World State}
    {call : FetchCall} {environment : Environment World} {quality : Option (Guard World)}
    (govern : providers.Govern environment quality (call.settings false []))
    (order : List String) (session : Session World) (room : 0 < session.buffer.maxsize) :
    ((fetchInOrder environment quality (call.settings false []) order session).1,
        (fetchInOrder environment quality (call.settings false []) order session).2.stages) =
      call.inOrder session.stages (providers.inTurn (providers.state session.world) order) := by
  induction order generalizing session with
  | nil => rfl
  | cons provider rest ih =>
    have kept := fetchProviderOnce_kept environment quality (call.settings false [])
      provider session
    have answers := govern.answers provider session room
    have moves := govern.moves provider session room
    rcases fetched : fetchProviderOnce environment quality (call.settings false [])
      provider session with ⟨response, later⟩
    rw [fetched] at kept answers moves
    have roomLater : 0 < later.buffer.maxsize := by
      rw [kept.maxsize]
      exact room
    simp only [fetchInOrder, fetched, ProviderStates.inTurn, ← answers, ← moves]
    cases response with
    | raised =>
      have staged : later.stages = session.stages := kept.stages
      simp only [FetchCall.inOrder, staged]
    | frames frames ratio =>
      simp only [FetchCall.inOrder, evaluateRateLimit_eq, ← kept.stages]
      by_cases empty : frames = []
      · simp only [if_pos empty]
        exact ih later roomLater
      · simp only [if_neg empty]
        have last : (call.settings false []).providers = call.providers := rfl
        rw [last]
        cases call.judge later.stages provider ratio with
        | none => rfl
        | some judged =>
          obtain ⟨rollback, next⟩ := judged
          simp only [Option.map_some, Option.getD_some]
          split
          · exact ih _ roomLater
          · rfl

/-- Where the first provider raises, or is passed over and a later one raises. -/
theorem FetchCall.raisesInTurn_cons (call : FetchCall) (stages : Dict String String)
    (response : String × Fetched) (rest : List (String × Fetched)) :
    call.RaisesInTurn stages (response :: rest) ↔
      call.Raises stages response ∨ ∃ before later after, rest = before ++ later :: after ∧
        call.PassedOver stages (response :: before) ∧
          call.Raises (call.settled stages (response :: before)) later := by
  constructor
  · intro ⟨before, later, after, same, passed, raises⟩
    cases before with
    | nil =>
      cases same
      exact .inl raises
    | cons first before =>
      obtain ⟨rfl, rest⟩ := List.cons.inj same
      exact .inr ⟨before, later, after, rest, passed, raises⟩
  · intro either
    cases either with
    | inl here => exact ⟨[], response, rest, rfl, trivial, here⟩
    | inr further =>
      obtain ⟨before, later, after, same, passed, raises⟩ := further
      exact ⟨response :: before, later, after, by rw [same, List.cons_append], passed, raises⟩

theorem FetchCall.inOrder_none_iff (call : FetchCall) (stages : Dict String String)
    (responses : List (String × Fetched)) :
    (call.inOrder stages responses).1 = none ↔ call.RaisesInTurn stages responses := by
  induction responses generalizing stages with
  | nil => simp [inOrder, RaisesInTurn]
  | cons response rest ih =>
    rw [raisesInTurn_cons]
    obtain ⟨provider, fetched⟩ := response
    cases fetched with
    | raised => simp [inOrder, Raises]
    | frames frames ratio =>
      simp only [inOrder, PassedOver, settled, Raises]
      by_cases empty : frames = []
      · simp only [if_pos empty, ih]
        exact (or_iff_right fun raises => raises.1 empty).symm
      · simp only [if_neg empty]
        cases call.judge stages provider ratio with
        | none => simp [empty]
        | some judged =>
          obtain ⟨rollback, next⟩ := judged
          simp only [Option.some.injEq, Prod.mk.injEq, reduceCtorEq, and_false, false_or]
          split
          · rename_i rolledBack
            simp only [ih, rolledBack.1, rolledBack.2, ne_eq, true_and, not_false_eq_true,
              exists_eq_left']
            rfl
          · rename_i kept
            simp only [reduceCtorEq, false_iff]
            rintro ⟨_, _, _, _, ⟨_, ⟨rolledBack, _⟩, another, _⟩, _⟩
            exact kept ⟨rolledBack, another⟩

theorem FetchCall.inOrder_empty_iff (call : FetchCall) (stages : Dict String String)
    (responses : List (String × Fetched)) :
    (call.inOrder stages responses).1 = some [] ↔ call.PassedOver stages responses := by
  induction responses generalizing stages with
  | nil => simp [inOrder, PassedOver]
  | cons response rest ih =>
    obtain ⟨provider, fetched⟩ := response
    cases fetched with
    | raised => simp [inOrder, PassedOver]
    | frames frames ratio =>
      simp only [inOrder, PassedOver]
      by_cases empty : frames = []
      · simp only [if_pos empty, ih]
      · simp only [if_neg empty]
        cases call.judge stages provider ratio with
        | none => simp
        | some judged =>
          obtain ⟨rollback, next⟩ := judged
          simp only [Option.some.injEq, Prod.mk.injEq]
          split
          · rename_i rolledBack
            simp only [ih, rolledBack.1, rolledBack.2, ne_eq, not_false_eq_true, true_and,
              exists_eq_left']
          · rename_i kept
            constructor
            · intro same
              exact absurd (Option.some.inj same) empty
            · rintro ⟨_, ⟨rolledBack, _⟩, another, _⟩
              exact absurd ⟨rolledBack, another⟩ kept

theorem FetchCall.settled_of_passedOver {call : FetchCall} {stages : Dict String String}
    {responses : List (String × Fetched)} (passed : call.PassedOver stages responses) :
    (call.inOrder stages responses).2 = call.settled stages responses := by
  induction responses generalizing stages with
  | nil => rfl
  | cons response rest ih =>
    obtain ⟨provider, fetched⟩ := response
    cases fetched with
    | raised => exact absurd passed id
    | frames frames ratio =>
      simp only [PassedOver] at passed
      simp only [inOrder, settled]
      split at passed
      · rename_i empty
        rw [if_pos empty, if_pos empty, ih passed]
      · rename_i found
        obtain ⟨next, judged, another, passed⟩ := passed
        simp only [if_neg found, judged, true_and, if_pos another, ih passed]

/-! ## By worker plan -/

/-- The results of the jobs, over their responses. -/
def FetchCall.collected (call : FetchCall) : Dict String String →
    Dict String (List MarketFrame) → List (String × Fetched) →
      Option (Dict String (List MarketFrame))
  | _, results, [] => some results
  | _, _, (_, .raised) :: _ => none
  | stages, results, (provider, .frames frames ratio) :: rest =>
    match call.judge stages provider ratio with
    | none => none
    | some (_, next) => call.collected next (results.set provider frames) rest

/-- A job raises: its fetch, or the guard that is asked about it. -/
def FetchCall.JobRaises (call : FetchCall) :
    Dict String String → List (String × Fetched) → Prop
  | _, [] => False
  | _, (_, .raised) :: _ => True
  | stages, (provider, .frames _ ratio) :: rest =>
    call.judge stages provider ratio = none ∨ ∃ rollback next,
      call.judge stages provider ratio = some (rollback, next) ∧ call.JobRaises next rest

/-- The last fetch from each provider has no frames. -/
def LastEmpty : List (String × Fetched) → Prop
  | [] => True
  | (_, .raised) :: rest => LastEmpty rest
  | (provider, .frames frames _) :: rest =>
    (frames = [] ∨ provider ∈ rest.map Prod.fst) ∧ LastEmpty rest

def PlanStep.provider? : PlanStep → Option String
  | .fetch provider => some provider
  | .sleep _ => none

/-- The fetches of the plans in the order they are made. -/
def FetchCall.jobs (call : FetchCall) (plans : List WorkerPlan) : List String :=
  (planSteps (call.settings true plans)).filterMap PlanStep.provider?

theorem mem_planSteps_sleep_iff {settings : FetchSettings} {seconds : Extended} :
    .sleep seconds ∈ planSteps settings ↔
      ∃ plan ∈ settings.plans, plan.pollIntervalSec = seconds := by
  have fetches : ∀ names : List String, .sleep seconds ∉ names.map PlanStep.fetch := by simp
  simp only [planSteps, List.mem_flatMap, List.mem_append, List.mem_singleton, fetches, false_or,
    PlanStep.sleep.injEq, @eq_comm _ seconds]

theorem jobs_subset (call : FetchCall) (plans : List WorkerPlan) :
    call.jobs plans ⊆ call.providers := by
  intro provider planned
  obtain ⟨step, member, same⟩ := List.mem_filterMap.mp planned
  cases step with
  | sleep seconds => cases same
  | fetch other =>
    obtain rfl := Option.some.inj same
    obtain ⟨plan, -, inPlan⟩ := List.mem_flatMap.mp member
    have taken : other ∈ (call.providers.filter (· == plan.provider)).take plan.maxWorkers := by
      simpa [FetchCall.settings, ← List.map_take] using inPlan
    exact (List.mem_filter.mp (List.mem_of_mem_take taken)).1

section Steps

variable {State : Type} {providers : ProviderStates World State} {call : FetchCall}
  {environment : Environment World} {quality : Option (Guard World)} {plans : List WorkerPlan}

theorem runSteps_eq
    (govern : providers.Govern environment quality (call.settings false []))
    (steps : List PlanStep) (results : Dict String (List MarketFrame)) (session : Session World)
    (room : 0 < session.buffer.maxsize)
    (asleep : ∀ seconds, .sleep seconds ∈ steps → sleeps seconds = true) :
    (runSteps environment quality (call.settings true plans) steps results session).1 =
      call.collected session.stages results
        (providers.inTurn (providers.state session.world)
          (steps.filterMap PlanStep.provider?)) := by
  induction steps generalizing results session with
  | nil => rfl
  | cons step rest ih =>
    have later := fun seconds member => asleep seconds (List.mem_cons_of_mem step member)
    cases step with
    | sleep seconds =>
      rw [runSteps, if_pos (asleep seconds List.mem_cons_self)]
      exact ih results session room later
    | fetch provider =>
      have kept := fetchProviderOnce_kept environment quality (call.settings false [])
        provider session
      have answers := govern.answers provider session room
      have moves := govern.moves provider session room
      rcases fetched : fetchProviderOnce environment quality (call.settings false [])
        provider session with ⟨response, after⟩
      rw [fetched] at kept answers moves
      have jobs : (PlanStep.fetch provider :: rest).filterMap PlanStep.provider? =
        provider :: rest.filterMap PlanStep.provider? := rfl
      simp only [jobs, runSteps, fetchProviderOnce_planned, fetched, ProviderStates.inTurn,
        ← answers, ← moves]
      cases response with
      | raised => rfl
      | frames frames ratio =>
        simp only [FetchCall.collected, evaluateRateLimit_eq, ← kept.stages]
        cases call.judge after.stages provider ratio with
        | none => rfl
        | some judged =>
          refine ih _ _ ?_ later
          rw [kept.maxsize]
          exact room

/-- A plan that cannot sleep lets the call raise, whatever is fetched. -/
theorem runSteps_awake {seconds : Extended} (awake : sleeps seconds = false) {steps : List PlanStep}
    (member : .sleep seconds ∈ steps) (settings : FetchSettings)
    (results : Dict String (List MarketFrame)) (session : Session World) :
    (runSteps environment quality settings steps results session).1 = none := by
  induction steps generalizing results session with
  | nil => cases member
  | cons step rest ih =>
    cases step with
    | sleep other =>
      rw [runSteps]
      split
      · rename_i slept
        have further : .sleep seconds ∈ rest := by
          refine (List.mem_cons.mp member).resolve_left fun same => ?_
          rw [← PlanStep.sleep.inj same, awake] at slept
          cases slept
        exact ih further results session
      · rfl
    | fetch provider =>
      have further : .sleep seconds ∈ rest :=
        (List.mem_cons.mp member).resolve_left (by simp)
      rw [runSteps]
      split
      · rfl
      · split
        · rfl
        · exact ih further _ _

end Steps

theorem FetchCall.collected_none_iff (call : FetchCall) (stages : Dict String String)
    (results : Dict String (List MarketFrame)) (responses : List (String × Fetched)) :
    call.collected stages results responses = none ↔ call.JobRaises stages responses := by
  induction responses generalizing stages results with
  | nil => simp [collected, JobRaises]
  | cons response rest ih =>
    obtain ⟨provider, fetched⟩ := response
    cases fetched with
    | raised => exact iff_of_true rfl trivial
    | frames frames ratio =>
      simp only [collected, JobRaises]
      cases call.judge stages provider ratio with
      | none => simp
      | some judged =>
        obtain ⟨rollback, next⟩ := judged
        simp [ih]

/-- Only providers without frames in the results. -/
def NoneFound (results : Dict String (List MarketFrame)) (providers : List String) : Prop :=
  ∀ provider ∈ providers, ∀ frames, results.get? provider = some frames → frames = []

theorem firstResult_eq_nil_iff (results : Dict String (List MarketFrame))
    (providers : List String) :
    firstResult results providers = [] ↔ NoneFound results providers := by
  induction providers with
  | nil => simp [firstResult, NoneFound]
  | cons provider rest ih =>
    rw [NoneFound, List.forall_mem_cons, ← NoneFound, ← ih]
    simp only [firstResult, List.findSome?_cons]
    cases found : results.get? provider with
    | none => simp
    | some frames => by_cases empty : frames = [] <;> simp [empty]

theorem noneFound_collected_iff {call : FetchCall} {stages : Dict String String}
    {results final : Dict String (List MarketFrame)} {responses : List (String × Fetched)}
    (ran : call.collected stages results responses = some final) (providers : List String)
    (known : ∀ response ∈ responses, response.1 ∈ providers) :
    NoneFound final providers ↔ LastEmpty responses ∧
      ∀ provider ∈ providers, provider ∉ responses.map Prod.fst →
        ∀ frames, results.get? provider = some frames → frames = [] := by
  induction responses generalizing stages results with
  | nil =>
    cases ran
    simp [NoneFound, LastEmpty]
  | cons response rest ih =>
    obtain ⟨fetchedFrom, fetched⟩ := response
    obtain ⟨here, later⟩ := List.forall_mem_cons.mp known
    cases fetched with
    | raised => cases ran
    | frames frames ratio =>
      rw [FetchCall.collected] at ran
      split at ran
      · cases ran
      · rw [ih ran later]
        simp only [LastEmpty, List.map_cons, List.mem_cons, not_or, Dict.get?_set]
        constructor
        · intro ⟨last, unfetched⟩
          refine ⟨⟨?_, last⟩, ?_⟩
          · by_cases again : fetchedFrom ∈ rest.map Prod.fst
            · exact .inr again
            · exact .inl (unfetched fetchedFrom here again frames (if_pos rfl))
          · intro provider listed ⟨different, absent⟩ found stored
            exact unfetched provider listed absent found
              ((if_neg (Ne.symm different)).trans stored)
        · intro ⟨⟨last, empty⟩, unfetched⟩
          refine ⟨empty, ?_⟩
          intro provider listed absent found stored
          by_cases same : fetchedFrom = provider
          · subst same
            rw [if_pos rfl] at stored
            cases stored
            exact last.resolve_right absent
          · rw [if_neg same] at stored
            exact unfetched provider listed ⟨Ne.symm same, absent⟩ found stored

theorem firstResult_collected_iff {call : FetchCall} {stages : Dict String String}
    {responses : List (String × Fetched)} {providers : List String}
    (known : ∀ response ∈ responses, response.1 ∈ providers) :
    (call.collected stages Dict.empty responses).map (fun results =>
        firstResult results providers) = some [] ↔
      ¬ call.JobRaises stages responses ∧ LastEmpty responses := by
  rw [← call.collected_none_iff stages Dict.empty]
  cases ran : call.collected stages Dict.empty responses with
  | none => simp
  | some final =>
    simp only [Option.map_some, Option.some.injEq, firstResult_eq_nil_iff,
      noneFound_collected_iff ran providers known, reduceCtorEq, not_false_eq_true, true_and,
      and_iff_left_iff_imp]
    intro _ provider _ _ frames absurdity
    cases absurdity

/-! ## The stages on file -/

theorem wellFormed_stagesPayload (stages : Dict String String) :
    Json.WellFormed (stagesPayload stages) := by
  have texts : ∀ entries : List (String × String),
      Json.WellFormedEntries (entries.map (fun entry => (entry.1, .str entry.2))) := by
    intro entries
    induction entries with
    | nil => trivial
    | cons entry rest ih => exact ⟨trivial, ih⟩
  refine ⟨?_, texts stages.entries⟩
  rw [List.map_map]
  exact stages.distinct

theorem get?_loadRateLimitState (stages : Dict String String) (provider : String) :
    (loadRateLimitState (persistRateLimitState stages)).get? provider = stages.get? provider := by
  have loaded : loadRateLimitState (persistRateLimitState stages) = Dict.empty.update stages := by
    simp only [loadRateLimitState, persistRateLimitState,
      Json.loads_dumpsIndented (wellFormed_stagesPayload stages)]
    simp only [stagesPayload, Dict.setAll_map, Value.text, Dict.update]
  rw [loaded, Dict.get?_update]
  exact Option.or_none

/-! ## The same outcome -/

section Claim

variable (call : FetchCall) (stages : Dict String String) (file : StageFile)
  (respond : List String → List (String × Fetched)) (inOrder : List (String × Fetched))
  (plans : List WorkerPlan)

/-- A plan that is run cannot sleep, or a job raises. -/
def FetchCall.RaisesWith : Prop :=
  (∃ plan ∈ plans, sleeps plan.pollIntervalSec = false) ∨
    call.JobRaises stages (respond (call.jobs plans))

/-- No frames are kept either way, and the stages that are persisted are those
on file. -/
structure FetchCall.NothingKept : Prop where
  passedOver : call.PassedOver stages inOrder
  returns : ¬ call.RaisesWith stages respond plans
  lastEmpty : LastEmpty (respond (call.jobs plans))
  settled : call.autoApply → call.persists → ∀ provider,
    (call.settled stages inOrder).get? provider = (loadRateLimitState file).get? provider

/-- Either way raises, or neither keeps anything. -/
def FetchCall.Agrees (fromGuard : List WorkerPlan) : Prop :=
  (call.RaisesInTurn stages inOrder ∧ ∀ plans, call.plans stages fromGuard = .ok plans →
      call.RaisesWith stages respond plans) ∨
    ∃ plans, call.plans stages fromGuard = .ok plans ∧
      call.NothingKept stages file respond inOrder plans

/-- What a call without worker plans comes to, over the responses in turn. -/
def FetchCall.inOrderOutcome : Outcome where
  frames := (call.inOrder stages inOrder).1
  barReady := ((call.inOrder stages inOrder).1.getD []).map (barReadyOf "fetch_latest")
  stageFile := if (call.inOrder stages inOrder).1 ≠ none ∧ call.autoApply ∧ call.persists then
    persistRateLimitState (call.inOrder stages inOrder).2 else file

end Claim

section Same

variable {call : FetchCall} {stages : Dict String String} {inOrder : List (String × Fetched)}
  {file : StageFile} {found : Option (List MarketFrame)}

/-- What a call with worker plans comes to, where it finds these frames. -/
def plannedOutcome (file : StageFile) (found : Option (List MarketFrame)) : Outcome where
  frames := found
  barReady := []
  stageFile := file

theorem FetchCall.sameOutcome_of_raises (raised : call.RaisesInTurn stages inOrder) :
    SameOutcome (plannedOutcome file found) (call.inOrderOutcome stages file inOrder) ↔
      found = none := by
  have unreturned := (call.inOrder_none_iff stages inOrder).mpr raised
  constructor
  · intro same
    exact same.frames.trans unreturned
  · rintro rfl
    refine ⟨?_, ?_, ?_⟩
    · simp [plannedOutcome, inOrderOutcome, unreturned]
    · simp [plannedOutcome, inOrderOutcome, unreturned]
    · simp [plannedOutcome, inOrderOutcome, unreturned]

theorem FetchCall.passedOver_of_sameOutcome (returned : ¬ call.RaisesInTurn stages inOrder)
    (same : SameOutcome (plannedOutcome file found) (call.inOrderOutcome stages file inOrder)) :
    call.PassedOver stages inOrder := by
  rw [← inOrder_none_iff] at returned
  obtain ⟨frames, kept⟩ := Option.ne_none_iff_exists'.mp returned
  have noEvent : frames = [] := by
    simpa [plannedOutcome, inOrderOutcome, kept] using same.barReady.symm
  exact (call.inOrder_empty_iff stages inOrder).mp (noEvent ▸ kept)

theorem FetchCall.stages_of_passedOver (passed : call.PassedOver stages inOrder)
    (provider : String) :
    (loadRateLimitState (call.inOrderOutcome stages file inOrder).stageFile).get? provider =
      if call.autoApply ∧ call.persists then (call.settled stages inOrder).get? provider
      else (loadRateLimitState file).get? provider := by
  have returned := (call.inOrder_empty_iff stages inOrder).mpr passed
  simp only [inOrderOutcome, returned, ne_eq, reduceCtorEq, not_false_eq_true, true_and,
    settled_of_passedOver passed]
  split
  · exact get?_loadRateLimitState _ provider
  · rfl

theorem FetchCall.sameOutcome_of_passedOver (passed : call.PassedOver stages inOrder) :
    SameOutcome (plannedOutcome file found) (call.inOrderOutcome stages file inOrder) ↔
      found = some [] ∧ (call.autoApply → call.persists → ∀ provider,
        (call.settled stages inOrder).get? provider =
          (loadRateLimitState file).get? provider) := by
  have returned := (call.inOrder_empty_iff stages inOrder).mpr passed
  constructor
  · intro same
    refine ⟨same.frames.trans returned, ?_⟩
    intro applies persists provider
    have onFile := same.stages provider
    rw [stages_of_passedOver passed, if_pos ⟨applies, persists⟩] at onFile
    exact onFile.symm
  · rintro ⟨rfl, settled⟩
    refine ⟨returned.symm, ?_, ?_⟩
    · simp [plannedOutcome, inOrderOutcome, returned]
    · intro provider
      rw [stages_of_passedOver passed]
      split
      · rename_i written
        exact (settled written.1 written.2 provider).symm
      · rfl

theorem FetchCall.not_passedOver_of_raises (raised : call.RaisesInTurn stages inOrder) :
    ¬ call.PassedOver stages inOrder := by
  intro passed
  have unreturned := (call.inOrder_none_iff stages inOrder).mpr raised
  rw [(call.inOrder_empty_iff stages inOrder).mpr passed] at unreturned
  cases unreturned

end Same

section Govern

variable {State : Type} {providers : ProviderStates World State} {call : FetchCall}
  {environment : Environment World} {quality : Option (Guard World)} {world : World}
  {given : Option BufferCoordinator} {default : DefaultBuffer} {file : StageFile}
  {fromGuard plans : List WorkerPlan}

/-- What worker plans find, over the responses to their jobs. -/
theorem fetchLatest_planned (govern : providers.Govern environment quality (call.settings false []))
    (stages : Dict String String) :
    ((fetchLatest environment quality (call.settings true plans)
          (.start world given default stages)).1 = none ↔
        call.RaisesWith stages (providers.inTurn (providers.state world)) plans) ∧
      ((fetchLatest environment quality (call.settings true plans)
          (.start world given default stages)).1 = some [] ↔
        ¬ call.RaisesWith stages (providers.inTurn (providers.state world)) plans ∧
          LastEmpty (providers.inTurn (providers.state world) (call.jobs plans))) := by
  have applies : (call.settings true plans).applyWorkerPlan = true := rfl
  have listed : (call.settings true plans).providers = call.providers := rfl
  simp only [fetchLatest, applies, listed, if_true]
  by_cases awake : ∃ plan ∈ plans, sleeps plan.pollIntervalSec = false
  · obtain ⟨plan, member, restless⟩ := awake
    have step : .sleep plan.pollIntervalSec ∈ planSteps (call.settings true plans) :=
      mem_planSteps_sleep_iff.mpr ⟨plan, member, rfl⟩
    have raises : call.RaisesWith stages (providers.inTurn (providers.state world)) plans :=
      .inl ⟨plan, member, restless⟩
    rw [runSteps_awake restless step]
    exact ⟨iff_of_true rfl raises, iff_of_false (by simp) fun returns => returns.1 raises⟩
  · have asleep : ∀ seconds, .sleep seconds ∈ planSteps (call.settings true plans) →
        sleeps seconds = true := by
      intro seconds member
      obtain ⟨plan, listed, rfl⟩ := mem_planSteps_sleep_iff.mp member
      exact not_exists.mp awake plan |> fun restless => by
        simpa using not_and.mp restless listed
    have known : ∀ response ∈ providers.inTurn (providers.state world) (call.jobs plans),
        response.1 ∈ call.providers := by
      intro response member
      have job := List.mem_map_of_mem (f := Prod.fst) member
      rw [providers.inTurn_providers] at job
      exact jobs_subset call plans job
    have same : call.RaisesWith stages (providers.inTurn (providers.state world)) plans ↔
        call.JobRaises stages (providers.inTurn (providers.state world) (call.jobs plans)) :=
      or_iff_right awake
    rw [runSteps_eq govern _ _ _ (default.unless_maxsize given) asleep, same]
    exact ⟨Option.map_eq_none_iff.trans (call.collected_none_iff stages _ _),
      firstResult_collected_iff known⟩

theorem run_inOrder (govern : providers.Govern environment quality (call.settings false []))
    (planned : call.providerPlans (call.startStages file) = .ok fromGuard) :
    call.run environment quality world given default file false =
      call.inOrderOutcome (call.startStages file) file
        (providers.inTurn (providers.state world) call.providers) := by
  have same := fetchInOrder_eq govern call.providers
    (.start world given default (call.startStages file)) (default.unless_maxsize given)
  have started : (Session.start world given default (call.startStages file)).stages =
    call.startStages file := rfl
  have here : (Session.start world given default (call.startStages file)).world = world := rfl
  rw [started, here] at same
  rw [FetchCall.inOrderOutcome, ← same]
  have unplanned : (call.settings false []).applyWorkerPlan = false := rfl
  have listed : (call.settings false []).providers = call.providers := rfl
  simp only [FetchCall.run, planned, fetchLatest, unplanned, listed, Bool.false_eq_true, if_false]
  split
  · rename_i returned
    simp [returned, Outcome.raised]
  · rename_i frames returned
    simp [returned]

theorem sameOutcome_planned_iff
    (govern : providers.Govern environment quality (call.settings false []))
    (planned : call.providerPlans (call.startStages file) = .ok fromGuard) :
    SameOutcome (call.run environment quality world given default file true)
        (call.run environment quality world given default file false) ↔
      call.Agrees (call.startStages file) file (providers.inTurn (providers.state world))
        (providers.inTurn (providers.state world) call.providers) fromGuard := by
  rw [run_inOrder govern planned]
  cases made : call.plans (call.startStages file) fromGuard with
  | error error =>
    have raised : call.run environment quality world given default file true =
        plannedOutcome file none := by
      simp only [FetchCall.run, planned, made, if_true]
      rfl
    rw [raised, FetchCall.Agrees, made]
    by_cases inTurn : call.RaisesInTurn (call.startStages file)
      (providers.inTurn (providers.state world) call.providers)
    · exact iff_of_true ((FetchCall.sameOutcome_of_raises inTurn).mpr rfl)
        (.inl ⟨inTurn, fun plans absurdity => by cases absurdity⟩)
    · refine iff_of_false (fun same => ?_) ?_
      · have passed := FetchCall.passedOver_of_sameOutcome inTurn same
        cases ((FetchCall.sameOutcome_of_passedOver passed).mp same).1
      · rintro (⟨raises, -⟩ | ⟨plans, absurdity, -⟩)
        · exact inTurn raises
        · cases absurdity
  | ok plans =>
    have found := @fetchLatest_planned _ _ providers call environment quality world given default
      plans govern (call.startStages file)
    have ran : call.run environment quality world given default file true =
        plannedOutcome file (fetchLatest environment quality (call.settings true plans)
          (.start world given default (call.startStages file))).1 := by
      simp only [FetchCall.run, planned, made, if_true]
      rfl
    rw [ran, FetchCall.Agrees, made]
    by_cases inTurn : call.RaisesInTurn (call.startStages file)
      (providers.inTurn (providers.state world) call.providers)
    · rw [FetchCall.sameOutcome_of_raises inTurn, found.1]
      constructor
      · intro raises
        refine .inl ⟨inTurn, ?_⟩
        rintro _ ⟨rfl⟩
        exact raises
      · rintro (⟨-, raises⟩ | ⟨_, -, kept⟩)
        · exact raises plans rfl
        · exact absurd kept.passedOver (FetchCall.not_passedOver_of_raises inTurn)
    · constructor
      · intro same
        have passed := FetchCall.passedOver_of_sameOutcome inTurn same
        obtain ⟨empty, settled⟩ := (FetchCall.sameOutcome_of_passedOver passed).mp same
        obtain ⟨returns, last⟩ := found.2.mp empty
        exact .inr ⟨plans, rfl, passed, returns, last, settled⟩
      · rintro (⟨raises, -⟩ | ⟨_, ⟨rfl⟩, kept⟩)
        · exact absurd raises inTurn
        · exact (FetchCall.sameOutcome_of_passedOver kept.passedOver).mpr
            ⟨found.2.mpr ⟨kept.returns, kept.lastEmpty⟩, kept.settled⟩

end Govern

/-! ## Two providers -/

def oneFrame : MarketFrame where
  symbol := "USDJPY"
  timeframe := "M5"
  bars := [{ timestamp := 0 }]

/-- Providers that hand over the same result whenever they are called. -/
def steady (results : String → ProviderResult) : Environment Unit where
  handlers := fun provider => some (fun world => (.result (results provider), world))
  now := fun _ => 0
  logFailure := fun world => (true, world)

def steadyStates (results : String → ProviderResult) : ProviderStates Unit Unit where
  state := fun _ _ => ()
  answer := fun provider _ => .frames (results provider).frames (results provider).rateLimitRatio
  next := fun _ _ => ()

theorem steady_governed (results : String → ProviderResult) {call : FetchCall}
    (plain : call.profiles = fun _ => {}) (retried : call.retries = 2) :
    (steadyStates results).Govern (steady results) none (call.settings false []) where
  answers := by
    intro provider session room
    cases enqueued : session.buffer.enqueue with
    | none =>
      have full := session.buffer.enqueue_eq_none_iff.mp enqueued
      omega
    | some buffer =>
      simp [fetchProviderOnce, resolveRetrySettings, attemptsOf, FetchCall.settings, plain, retried,
        fetchAttempts, Environment.call, steady, invokeProvider, enqueued, checkFrames,
        steadyStates]
  moves := fun _ _ _ => rfl

/-- A guard that pays for no worker and takes stages back at a rate of 2 in 100. -/
def tightGuard : RateLimitGuard where
  tokensPerMinute := 1
  burstTokens := 1
  pollIntervalSec := .finite 15
  stages := ["stage0", "stage1"]
  staged := by decide

def rolledBack : FetchCall where
  symbols := ["USDJPY"]
  timeframe := "M5"
  providers := ["primary", "secondary"]
  guard := some tightGuard
  rateLimitState := some (Dict.empty.set "primary" "stage1")

/-- Only the first provider has a frame. -/
def primaryFrame (provider : String) : ProviderResult :=
  { frames := if provider = "primary" then [oneFrame] else []
    p95Ms := 120
    p99Ms := 150
    rateLimitRatio := 2 / 100 }

def oneProvider : FetchCall where
  symbols := ["USDJPY"]
  timeframe := "M5"
  providers := ["primary"]

end Run

end FxToushi.Ingestion
