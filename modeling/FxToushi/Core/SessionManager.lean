import FxToushi.Data.Runs
import FxToushi.Py.Text

namespace FxToushi.Core.Session

open Data Py

/-! # Sessions

A manager starts a session, catches up with missed data and stops.  What a call
made inside an operation comes to is an input of the operation: it may raise,
and the operation ends there.
-/

/-! ## The manager -/

structure ModeContext where
  mode : String
  catchUpState : String := "idle"
deriving Repr, DecidableEq

structure SessionContext where
  sessionId : String
  mode : String
  modeContext : Option ModeContext := none
deriving Repr, DecidableEq

structure SessionConfig where
  mode : String
  profileName : Option String := none
deriving Repr, DecidableEq

/-- The workflow's result is of any type.  Of the last workflow context the
planned steps are kept. -/
structure DefaultSessionManager (Result : Type) where
  config : SessionConfig
  sessionLogDir : String
  snapshotRoot : String
  activeContext : Option SessionContext := none
  lastResult : Option Result := none
  sessionLogPath : Option String := none
  snapshotPath : Option String := none
  lastPlan : List String := []
  lastWorkflowContext : Option (List String) := none
deriving Repr, DecidableEq

/-- What an operation leaves behind, and whether it returned or raised. -/
structure Outcome (Result : Type) where
  manager : DefaultSessionManager Result
  returned : Bool

/-- What the calls made by `start` come to; `none` and `false` raise. -/
structure StartCalls (Result : Type) where
  create : String → String → Option ModeContext
  makeSessionLogDir : Bool := true
  makeSnapshotDir : Bool := true
  plan : Option (List String)
  run : SessionContext → List String → Option (Result × SessionContext)
  checkSnapshotConsistency : Bool := true

/-- The calls of `catch_up` that may raise, in their order. -/
inductive CatchUpStep where
  | parseSince
  | computeRangeMinutes
  | timeframeToSeconds
  | loadLatestDeterminismHash
  | loadGateState
  | loadLatestResyncStats
  | collectorSnapshot
  | readResyncStats
  | loadLatestIngestionMetrics
  | readIngestionMetrics
  | computeCatchUpPriority
  | computeJobStart
  | enqueueBackfillJobs
  | readResyncProcessing
  | updateSessionSnapshot
  | applyCatchUpThresholds
  | logResyncJob
  | logResyncLatency
  | checkSnapshotConsistency
deriving Repr, DecidableEq

/-- `sinceParsed` says whether `since` is a time, `collected` whether there is a
metrics collector. -/
structure CatchUpCall where
  sinceParsed : Bool := false
  dryRun : Bool := false
  collected : Bool := false
  raises : CatchUpStep → Bool := fun _ => false

/-- The calls before the state is reset.  The processing of the jobs, the fetch
and the collector's file are guarded: what they raise is passed over. -/
def CatchUpCall.steps (call : CatchUpCall) : List CatchUpStep :=
  [.parseSince, .computeRangeMinutes, .timeframeToSeconds, .loadLatestDeterminismHash,
    .loadGateState, .loadLatestResyncStats] ++
  (if call.collected then [.collectorSnapshot] else []) ++
  [.readResyncStats, .loadLatestIngestionMetrics, .readIngestionMetrics,
    .computeCatchUpPriority, .computeJobStart, .enqueueBackfillJobs] ++
  (if call.dryRun then []
    else [.readResyncProcessing, .updateSessionSnapshot, .applyCatchUpThresholds]) ++
  [.logResyncJob] ++
  (if call.sinceParsed then [.logResyncLatency] else [])

section Manager

variable {Result : Type}

namespace DefaultSessionManager

/-- `config.profile_name or context.mode`. -/
def profileName (manager : DefaultSessionManager Result) (context : SessionContext) : String :=
  if truthy manager.config.profileName then manager.config.profileName.getD "" else context.mode

def wireModeContext (manager : DefaultSessionManager Result) (calls : StartCalls Result)
    (context : SessionContext) : Option SessionContext :=
  match context.modeContext with
  | some _ => some context
  | none =>
    (calls.create (manager.profileName context) context.sessionId).map (fun created =>
      { context with modeContext := some created, mode := created.mode })

/-- The context a start goes on with, unless it raises before it touches the
manager. -/
def prepare (manager : DefaultSessionManager Result) (calls : StartCalls Result)
    (context : SessionContext) : Option SessionContext :=
  match manager.activeContext with
  | some _ => none
  | none =>
    match manager.wireModeContext calls context with
    | none => none
    | some wired =>
      if wired.mode ≠ manager.config.mode then none
      else if calls.makeSessionLogDir && calls.makeSnapshotDir then some wired
      else none

def logPath (manager : DefaultSessionManager Result) (context : SessionContext) : String :=
  joinPath manager.sessionLogDir (context.sessionId ++ ".log")

def snapshotDestination (manager : DefaultSessionManager Result) (context : SessionContext) :
    String :=
  joinPath (joinPath manager.snapshotRoot context.mode) (context.sessionId ++ ".json")

def allocate (manager : DefaultSessionManager Result) (context : SessionContext) :
    DefaultSessionManager Result :=
  { manager with
    sessionLogPath := some (manager.logPath context)
    snapshotPath := some (manager.snapshotDestination context) }

/-- The paths are set before the workflow is planned and run, the context before
the consistency check. -/
def start (manager : DefaultSessionManager Result) (calls : StartCalls Result)
    (context : SessionContext) : Outcome Result :=
  match manager.prepare calls context with
  | none => { manager, returned := false }
  | some wired =>
    let allocated := manager.allocate wired
    match calls.plan with
    | none => { manager := allocated, returned := false }
    | some plan =>
      let planned := { allocated with lastPlan := plan }
      match calls.run wired plan with
      | none => { manager := planned, returned := false }
      | some (result, active) =>
        { manager := { planned with
            activeContext := some active
            lastResult := some result
            lastWorkflowContext := some plan }
          returned := calls.checkSnapshotConsistency }

def stop (manager : DefaultSessionManager Result) : DefaultSessionManager Result :=
  { manager with
    activeContext := none
    lastResult := none
    sessionLogPath := none
    snapshotPath := none
    lastWorkflowContext := none }

/-- Replace the state in the active mode context, if there is one. -/
def markCatchUp (manager : DefaultSessionManager Result) (state : String) :
    DefaultSessionManager Result :=
  { manager with
    activeContext := manager.activeContext.map (fun context =>
      { context with
        modeContext := context.modeContext.map (fun modeContext =>
          { modeContext with catchUpState := state }) }) }

/-- A dry run does not mark the state as resyncing, but resets it all the same. -/
def catchUp (manager : DefaultSessionManager Result) (call : CatchUpCall) : Outcome Result :=
  let marked := if call.dryRun then manager else manager.markCatchUp "resyncing"
  if call.steps.any call.raises then { manager := marked, returned := false }
  else
    { manager := marked.markCatchUp "idle"
      returned := !call.raises .checkSnapshotConsistency }

end DefaultSessionManager

/-! ## Runs -/

inductive Operation (Result : Type) where
  | start (calls : StartCalls Result) (context : SessionContext)
  | stop
  | catchUp (call : CatchUpCall)

namespace DefaultSessionManager

def next (manager : DefaultSessionManager Result) :
    Operation Result → DefaultSessionManager Result
  | .start calls context => (manager.start calls context).manager
  | .stop => manager.stop
  | .catchUp call => (manager.catchUp call).manager

/-- The active mode context says that data is being caught up with. -/
def Resyncing (manager : DefaultSessionManager Result) : Prop :=
  ∃ context modeContext, manager.activeContext = some context ∧
    context.modeContext = some modeContext ∧ modeContext.catchUpState = "resyncing"

/-- A start that raises leaves the manager as it was, and no catching up leaves
the state at resyncing. -/
def Restores (manager : DefaultSessionManager Result) : Operation Result → Prop
  | .start calls context =>
    (manager.start calls context).returned = false →
      (manager.start calls context).manager = manager
  | .stop => True
  | .catchUp call => ¬ (manager.catchUp call).manager.Resyncing

/-- The manager has the paths a start would set. -/
def Allocated (manager : DefaultSessionManager Result) (context : SessionContext) : Prop :=
  manager.sessionLogPath = some (manager.logPath context) ∧
    manager.snapshotPath = some (manager.snapshotDestination context)

/-- Once the paths are set nothing raises, but for a workflow that leaves no
paths and no plan other than those the manager has. -/
def StartGoesThrough (manager : DefaultSessionManager Result) (calls : StartCalls Result)
    (context : SessionContext) : Prop :=
  ∀ wired, manager.prepare calls context = some wired →
    match calls.plan with
    | none => manager.Allocated wired
    | some plan =>
      match calls.run wired plan with
      | none => manager.Allocated wired ∧ manager.lastPlan = plan
      | some _ => calls.checkSnapshotConsistency = true

/-- There is a mode context to mark. -/
def Marks (manager : DefaultSessionManager Result) : Prop :=
  ∃ context modeContext, manager.activeContext = some context ∧
    context.modeContext = some modeContext

/-- Nothing raises before the reset, unless there is nothing to reset. -/
def CatchUpReachesReset (manager : DefaultSessionManager Result) (call : CatchUpCall) : Prop :=
  (∀ step ∈ call.steps, call.raises step = false) ∨ ¬ manager.Marks ∨
    (call.dryRun = true ∧ ¬ manager.Resyncing)

def GoesThrough (manager : DefaultSessionManager Result) : Operation Result → Prop
  | .start calls context => manager.StartGoesThrough calls context
  | .stop => True
  | .catchUp call => manager.CatchUpReachesReset call

end DefaultSessionManager

namespace DefaultSessionManager

variable {manager : DefaultSessionManager Result}

theorem planned_eq_iff (manager : DefaultSessionManager Result) (context : SessionContext)
    (plan : List String) :
    { manager.allocate context with lastPlan := plan } = manager ↔
      manager.Allocated context ∧ manager.lastPlan = plan := by
  constructor
  · intro same
    exact ⟨⟨(congrArg sessionLogPath same).symm, (congrArg snapshotPath same).symm⟩,
      (congrArg lastPlan same).symm⟩
  · intro ⟨allocated, plan⟩
    obtain ⟨log, snapshot⟩ := allocated
    rw [allocate, ← log, ← snapshot, ← plan]

theorem allocate_eq_iff (context : SessionContext) :
    manager.allocate context = manager ↔ manager.Allocated context := by
  have planned := planned_eq_iff manager context manager.lastPlan
  rwa [and_iff_left rfl] at planned

theorem prepare_inactive {calls : StartCalls Result} {context wired : SessionContext}
    (prepared : manager.prepare calls context = some wired) : manager.activeContext = none := by
  cases active : manager.activeContext with
  | none => rfl
  | some running =>
    rw [prepare, active] at prepared
    cases prepared

theorem start_restores_iff (calls : StartCalls Result) (context : SessionContext) :
    manager.Restores (.start calls context) ↔ manager.StartGoesThrough calls context := by
  rw [Restores, StartGoesThrough, start]
  cases prepared : manager.prepare calls context with
  | none => simp
  | some wired =>
    have inactive := prepare_inactive prepared
    simp only [Option.some.injEq, forall_eq']
    cases planned : calls.plan with
    | none => simpa using allocate_eq_iff wired
    | some plan =>
      dsimp only
      cases ran : calls.run wired plan with
      | none => simpa using planned_eq_iff manager wired plan
      | some finished =>
        have started : ∀ other : DefaultSessionManager Result,
            other.activeContext = some finished.2 → other ≠ manager := by
          intro other active same
          rw [same, inactive] at active
          cases active
        cases checked : calls.checkSnapshotConsistency with
        | true => simp
        | false => simpa using started _ rfl

theorem markCatchUp_resyncing_iff (state : String) :
    (manager.markCatchUp state).Resyncing ↔ manager.Marks ∧ state = "resyncing" := by
  constructor
  · intro ⟨context, modeContext, active, wired, resyncing⟩
    obtain ⟨before, found, rfl⟩ := Option.map_eq_some_iff.mp active
    obtain ⟨former, held, rfl⟩ := Option.map_eq_some_iff.mp wired
    exact ⟨⟨before, former, found, held⟩, resyncing⟩
  · intro ⟨⟨context, modeContext, active, wired⟩, resyncing⟩
    refine ⟨{ context with modeContext := some { modeContext with catchUpState := state } },
      { modeContext with catchUpState := state }, ?_, rfl, resyncing⟩
    simp [markCatchUp, active, wired]

theorem Resyncing.marks (resyncing : manager.Resyncing) : manager.Marks := by
  obtain ⟨context, modeContext, active, wired, -⟩ := resyncing
  exact ⟨context, modeContext, active, wired⟩

theorem catchUp_restores_iff (call : CatchUpCall) :
    manager.Restores (.catchUp call) ↔ manager.CatchUpReachesReset call := by
  rw [Restores, CatchUpReachesReset, catchUp]
  by_cases raised : call.steps.any call.raises = true
  · have exits : ¬ ∀ step ∈ call.steps, call.raises step = false := by
      simpa using raised
    simp only [raised, if_true, exits, false_or]
    cases dry : call.dryRun with
    | true =>
      simp only [if_true, true_and]
      exact ⟨.inr, fun restored => restored.elim
        (fun unmarked resyncing => unmarked resyncing.marks) id⟩
    | false => simp [markCatchUp_resyncing_iff]
  · have through : ∀ step ∈ call.steps, call.raises step = false := by
      simpa using raised
    simp only [if_neg raised, markCatchUp_resyncing_iff]
    exact ⟨fun _ => .inl through, fun _ idle => absurd idle.2 (by decide)⟩

theorem restores_iff (operation : Operation Result) :
    manager.Restores operation ↔ manager.GoesThrough operation := by
  cases operation with
  | start calls context => exact start_restores_iff calls context
  | stop => exact Iff.rfl
  | catchUp call => exact catchUp_restores_iff call

/-- Every operation of a run restores the state exactly when every one goes
through. -/
theorem restores_run_iff (manager : DefaultSessionManager Result)
    (operations : List (Operation Result)) :
    EachStep next Restores manager operations ↔ EachStep next GoesThrough manager operations :=
  eachStep_congr (fun operation _ _ => restores_iff operation)

end DefaultSessionManager

end Manager

/-! ## Operations that fail -/

def paperManager : DefaultSessionManager Unit where
  config := { mode := "paper" }
  sessionLogDir := "logs/sessions"
  snapshotRoot := "snapshots/sessions"

def paperContext : SessionContext where
  sessionId := "s1"
  mode := "paper"

def paperCalls : StartCalls Unit where
  create := fun _ _ => some { mode := "paper" }
  plan := some ["signals"]
  run := fun context _ => some ((), context)

/-- A workflow that raises leaves its paths behind, a check that raises leaves
the session running, and a snapshot that cannot be written leaves the state at
resyncing. -/
theorem failures_unrestored :
    ¬ EachStep DefaultSessionManager.next DefaultSessionManager.Restores paperManager
        [.start { paperCalls with run := fun _ _ => none } paperContext] ∧
      ¬ EachStep DefaultSessionManager.next DefaultSessionManager.Restores paperManager
        [.start { paperCalls with checkSnapshotConsistency := false } paperContext] ∧
      ¬ EachStep DefaultSessionManager.next DefaultSessionManager.Restores paperManager
        [.start paperCalls paperContext,
          .catchUp { raises := fun step => step == .updateSessionSnapshot }] := by
  refine ⟨fun restored => ?_, fun restored => ?_, fun restored => ?_⟩
  · exact absurd (restored.1 rfl) (by decide)
  · exact absurd (restored.1 rfl) (by decide)
  · exact restored.2.1 ⟨{ paperContext with
      modeContext := some { mode := "paper", catchUpState := "resyncing" } },
      { mode := "paper", catchUpState := "resyncing" }, by decide, rfl, rfl⟩

end FxToushi.Core.Session
