import FxToushi.Brokers.StageGuard
import FxToushi.Data.Fallible

namespace FxToushi.Brokers

open Data Py

/-! # Runs of the stage guard

Every operation either leaves the guard alone, rewrites its requests, or
records one transition from the current stage.  `perform_cases` says so once;
the results about runs split on those three cases.
-/

inductive StageCall where
  | promote (stage : Stage) (actor : String) (reason : Option String) (override : Bool)
  | rollbackOne (actor : String) (reason : Option String)
  | onError (errorClass actor : String) (reason : Option String)
  | recover (actor : String) (reason : Option String)
  | requestTransition (stage : Stage) (actor : String) (reason : Option String)
      (requestId : String)
  | approveRequest (requestId actor : String) (reason : Option String)
  | denyRequest (requestId actor : String)
deriving Repr, DecidableEq

structure StageAction where
  context : StageGuardContext
  now : String
  call : StageCall
deriving Repr, DecidableEq

/-- What a call leaves behind: the guard, the transition it recorded and
whether it wrote the state file. -/
structure StageEffect where
  guard : AutonomyStageGuard
  applied : Option StageTransition
  saved : Bool
deriving Repr, DecidableEq

namespace AutonomyStageGuard

def untouched (guard : AutonomyStageGuard) : StageEffect := ⟨guard, none, false⟩

def moved (result : AutonomyStageGuard × StageTransition) : StageEffect :=
  ⟨result.1, some result.2, true⟩

def perform (guard : AutonomyStageGuard) (action : StageAction) : StageEffect :=
  match action.call with
  | .promote stage actor reason override =>
    match guard.promote stage actor reason action.context override action.now with
    | .ok result => moved result
    | .error _ => guard.untouched
  | .rollbackOne actor reason =>
    ((guard.rollbackOne actor reason action.now).map moved).getD guard.untouched
  | .onError errorClass actor reason =>
    ((guard.onError errorClass actor reason action.now).map moved).getD guard.untouched
  | .recover actor reason =>
    ((guard.recover actor reason action.now).map moved).getD guard.untouched
  | .requestTransition stage actor reason requestId =>
    ⟨(guard.requestTransition stage actor reason requestId action.now).1, none, true⟩
  | .approveRequest requestId actor reason =>
    match guard.approveRequest requestId actor reason action.context action.now with
    | .ok result => moved result
    | .error _ => guard.untouched
  | .denyRequest requestId actor =>
    match guard.denyRequest requestId actor action.now with
    | .ok result => ⟨result.1, none, true⟩
    | .error _ => guard.untouched

def step (guard : AutonomyStageGuard) (action : StageAction) : AutonomyStageGuard :=
  (guard.perform action).guard

/-- Why a transition from the stage may be recorded by the call. -/
inductive Grounds (stage : Stage) (action : StageAction) (target : Stage) : Prop where
  | evaluated (enabled : action.context.stageGuardEnabled = true)
      (above : stage.index < target.index)
      (met : stageRequirements target action.context = [])
  | overridden (named : ∃ actor reason, action.call = .promote target actor reason true)
  | recovered (called : ∃ actor reason, action.call = .recover actor reason)
      (next : stage.next? = some target)
  | lowered (below : target.index < stage.index)

/-- The three things a call may do. -/
inductive Performed (guard : AutonomyStageGuard) (action : StageAction) : StageEffect → Prop where
  | untouched : Performed guard action guard.untouched
  | requests (requests : List StageRequest) :
      Performed guard action ⟨{ guard with requests }, none, true⟩
  | transition (transition : StageTransition) (requests : List StageRequest)
      (origin : transition.fromStage = guard.stage)
      (grounds : Grounds guard.stage action transition.toStage) :
      Performed guard action
        ⟨{ guard.applyTransition transition with requests }, some transition, true⟩

theorem mem_allowedPromotions (guard : AutonomyStageGuard) (context : StageGuardContext)
    (stage : Stage) :
    stage ∈ (guard.evaluate context).allowedPromotions ↔
      context.stageGuardEnabled = true ∧ guard.stage.index < stage.index ∧
        stageRequirements stage context = [] := by
  have listed : stage ∈ Stage.allowedOrder := by cases stage <;> decide
  cases enabled : context.stageGuardEnabled with
  | false => simp [evaluate, enabled]
  | true => simp [evaluate, enabled, higherStages, listed, and_comm]

theorem promote_ok {guard : AutonomyStageGuard} {stage : Stage} {actor now : String}
    {reason : Option String} {context : StageGuardContext} {override : Bool}
    {result : AutonomyStageGuard × StageTransition}
    (promoted : guard.promote stage actor reason context override now = .ok result) :
    result = (guard.applyTransition result.2, result.2) ∧
      result.2.fromStage = guard.stage ∧ result.2.toStage = stage ∧
      (override = false → stage ∈ (guard.evaluate context).allowedPromotions) := by
  simp only [promote] at promoted
  split_ifs at promoted with blocked below
  obtain rfl := Except.ok.inj promoted
  refine ⟨rfl, rfl, rfl, fun plain => ?_⟩
  by_contra absent
  exact blocked ⟨plain, absent⟩

theorem approveRequest_ok {guard : AutonomyStageGuard} {requestId actor now : String}
    {reason : Option String} {context : StageGuardContext}
    {result : AutonomyStageGuard × StageTransition}
    (approved : guard.approveRequest requestId actor reason context now = .ok result) :
    ∃ stage reason promoted requests,
      guard.promote stage actor reason context false now = .ok (promoted, result.2) ∧
        result.1 = { promoted with requests } := by
  obtain ⟨request, found, approved⟩ := bind_ok approved
  dsimp only at approved
  split at approved
  · exact absurd approved (by simp [throw, throwThe, MonadExceptOf.throw, bind, Except.bind])
  · obtain ⟨promotion, promoted, approved⟩ := bind_ok approved
    obtain rfl := Except.ok.inj approved
    exact ⟨_, _, _, _, promoted, rfl⟩

theorem denyRequest_ok {guard : AutonomyStageGuard} {requestId actor now : String}
    {result : AutonomyStageGuard × StageRequest}
    (denied : guard.denyRequest requestId actor now = .ok result) :
    ∃ requests, result.1 = { guard with requests } := by
  obtain ⟨request, found, denied⟩ := bind_ok denied
  dsimp only at denied
  split at denied
  · exact absurd denied (by simp [throw, throwThe, MonadExceptOf.throw, bind, Except.bind])
  · obtain rfl := Except.ok.inj denied
    exact ⟨_, rfl⟩

theorem Performed.moved {guard : AutonomyStageGuard} {action : StageAction}
    {result : AutonomyStageGuard × StageTransition}
    (applied : result.1 = guard.applyTransition result.2)
    (origin : result.2.fromStage = guard.stage)
    (grounds : Grounds guard.stage action result.2.toStage) :
    Performed guard action (moved result) := by
  obtain ⟨next, transition⟩ := result
  obtain rfl : next = guard.applyTransition transition := applied
  exact .transition transition guard.requests origin grounds

theorem performed_rollbackOne (guard : AutonomyStageGuard) (action : StageAction)
    (actor : String) (reason : Option String) :
    Performed guard action
      (((guard.rollbackOne actor reason action.now).map AutonomyStageGuard.moved).getD
        guard.untouched) := by
  cases previous : guard.stage.previous? with
  | none =>
    simp only [rollbackOne, previous, Option.map_none, Option.getD_none]
    exact .untouched
  | some below =>
    simp only [rollbackOne, previous, Option.map_some, Option.getD_some]
    exact .moved rfl rfl (.lowered (Stage.index_previous previous))

/-- Every call leaves the guard alone, rewrites its requests, or records one
transition from the current stage that has its grounds. -/
theorem perform_cases (guard : AutonomyStageGuard) (action : StageAction) :
    Performed guard action (guard.perform action) := by
  obtain ⟨context, now, call⟩ := action
  cases call with
  | promote stage actor reason override =>
    simp only [perform]
    split
    · rename_i result promoted
      obtain ⟨applied, origin, target, evaluated⟩ := promote_ok promoted
      refine .moved (congrArg Prod.fst applied) origin ?_
      rw [target]
      cases override with
      | true => exact .overridden ⟨actor, reason, rfl⟩
      | false =>
        obtain ⟨enabled, above, met⟩ :=
          (mem_allowedPromotions guard context stage).mp (evaluated rfl)
        exact .evaluated enabled above met
    · exact .untouched
  | rollbackOne actor reason => exact performed_rollbackOne guard _ actor reason
  | onError errorClass actor reason =>
    simp only [perform, onError]
    split
    · exact performed_rollbackOne guard _ actor _
    · exact .untouched
  | recover actor reason =>
    cases next : guard.stage.next? with
    | none =>
      simp only [perform, recover, next, Option.map_none, Option.getD_none]
      exact .untouched
    | some above =>
      simp only [perform, recover, next, Option.map_some, Option.getD_some]
      exact .moved rfl rfl (.recovered ⟨actor, reason, rfl⟩ next)
  | requestTransition stage actor reason requestId => exact .requests _
  | approveRequest requestId actor reason =>
    simp only [perform]
    split
    · rename_i result approved
      obtain ⟨stage, reason, promoted, requests, promotion, same⟩ := approveRequest_ok approved
      obtain ⟨applied, origin, target, evaluated⟩ := promote_ok promotion
      obtain ⟨enabled, above, met⟩ :=
        (mem_allowedPromotions guard context stage).mp (evaluated rfl)
      obtain ⟨next, transition⟩ := result
      obtain rfl : promoted = guard.applyTransition transition := congrArg Prod.fst applied
      subst same
      exact .transition transition requests origin (target ▸ .evaluated enabled above met)
    · exact .untouched
  | denyRequest requestId actor =>
    simp only [perform]
    split
    · rename_i result denied
      obtain ⟨requests, same⟩ := denyRequest_ok denied
      rw [same]
      exact .requests requests
    · exact .untouched

end AutonomyStageGuard

end FxToushi.Brokers
