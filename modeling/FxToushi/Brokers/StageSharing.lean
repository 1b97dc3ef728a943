import FxToushi.Brokers.StageRuns
import Mathlib.Data.List.Perm.Subperm

namespace FxToushi.Brokers

open Data

/-! # Two guards on one state file

Each guard works on the copy it loaded when it was constructed and writes that
copy back whole.  A write keeps what the other guard recorded only if the
writer's copy has it.
-/

inductive Process where
  | first
  | second
deriving Repr, DecidableEq

/-- The state file, the private copies and, for the statements only, the
transitions applied so far in the order they were applied. -/
structure SharedStage where
  file : Option StageFile
  guards : Process → AutonomyStageGuard
  applied : List StageTransition

inductive SharedAction where
  | invoke (who : Process) (action : StageAction)
  | reopen (who : Process) (now : String)
deriving Repr, DecidableEq

def fileStage (file : Option StageFile) : Stage := (file.map (·.stage)).getD .manualOnly

def fileHistory (file : Option StageFile) : List StageTransition :=
  (file.map (·.history)).getD []

namespace SharedStage

def opened (file : Option StageFile) (now : String) : SharedStage where
  file
  guards := fun _ => .load file now
  applied := []

def step (shared : SharedStage) : SharedAction → SharedStage
  | .invoke who action =>
    let effect := (shared.guards who).perform action
    { file := if effect.saved then some effect.guard.save else shared.file
      guards := Function.update shared.guards who effect.guard
      applied := shared.applied ++ effect.applied.toList }
  | .reopen who now =>
    { shared with guards := Function.update shared.guards who (.load shared.file now) }

/-- The persisted stage is where the last applied transition went, and the
persisted history has, with multiplicity, what the file held at the start and
every transition applied since. -/
structure NoLostUpdate (base : List StageTransition) (shared : SharedStage) : Prop where
  stage : ∀ transition, shared.applied.getLast? = some transition →
    fileStage shared.file = transition.toStage
  history : (base ++ shared.applied).Subperm (fileHistory shared.file)

/-- A call that writes the file is made by a guard that has the persisted history. -/
def WriterCurrent (shared : SharedStage) : SharedAction → Prop
  | .invoke who action =>
    ((shared.guards who).perform action).saved = true →
      (shared.guards who).history = fileHistory shared.file
  | .reopen _ _ => True

def endStage (initial : Stage) (transitions : List StageTransition) : Stage :=
  (transitions.getLast?.map (·.toStage)).getD initial

/-- A guard's copy is what some prefix of the applied transitions led to. -/
def CopyOf (base : List StageTransition) (initial : Stage) (applied : List StageTransition)
    (guard : AutonomyStageGuard) : Prop :=
  ∃ seen, seen <+: applied ∧ guard.history = base ++ seen ∧ guard.stage = endStage initial seen

/-- The file has every applied transition and each copy a prefix of them. -/
structure Consistent (base : List StageTransition) (initial : Stage) (shared : SharedStage) :
    Prop where
  history : fileHistory shared.file = base ++ shared.applied
  stage : fileStage shared.file = endStage initial shared.applied
  copies : ∀ who, CopyOf base initial shared.applied (shared.guards who)

@[simp] theorem endStage_append (initial : Stage) (transitions : List StageTransition)
    (transition : StageTransition) :
    endStage initial (transitions ++ [transition]) = transition.toStage := by
  simp [endStage]

@[simp] theorem load_history (file : Option StageFile) (now : String) :
    (AutonomyStageGuard.load file now).history = fileHistory file := by
  cases file <;> rfl

@[simp] theorem load_stage (file : Option StageFile) (now : String) :
    (AutonomyStageGuard.load file now).stage = fileStage file := by
  cases file <;> rfl

@[simp] theorem fileHistory_save (guard : AutonomyStageGuard) :
    fileHistory (some guard.save) = guard.history := rfl

@[simp] theorem fileStage_save (guard : AutonomyStageGuard) :
    fileStage (some guard.save) = guard.stage := rfl

section Steps

variable {base applied : List StageTransition} {initial : Stage} {shared : SharedStage}

theorem CopyOf.later {guard : AutonomyStageGuard} (copy : CopyOf base initial applied guard)
    (more : List StageTransition) : CopyOf base initial (applied ++ more) guard := by
  obtain ⟨seen, isPrefix, history, stage⟩ := copy
  exact ⟨seen, isPrefix.trans (List.prefix_append applied more), history, stage⟩

theorem CopyOf.current_stage {guard : AutonomyStageGuard}
    (copy : CopyOf base initial applied guard) (current : guard.history = base ++ applied) :
    guard.stage = endStage initial applied := by
  obtain ⟨seen, -, history, stage⟩ := copy
  obtain rfl : seen = applied := List.append_cancel_left (history.symm.trans current)
  exact stage

theorem CopyOf.current_of_length {guard : AutonomyStageGuard}
    (copy : CopyOf base initial applied guard)
    (long : (base ++ applied).length ≤ guard.history.length) :
    guard.history = base ++ applied := by
  obtain ⟨seen, isPrefix, history, -⟩ := copy
  rw [history, List.length_append, List.length_append] at long
  rw [history, isPrefix.eq_of_length_le (by omega)]

theorem Consistent.noLostUpdate (consistent : Consistent base initial shared) :
    NoLostUpdate base shared := by
  refine ⟨fun transition last => ?_, ?_⟩
  · rw [consistent.stage, endStage, last]
    rfl
  · rw [consistent.history]

theorem Consistent.opened (file : Option StageFile) (now : String) :
    Consistent (fileHistory file) (fileStage file) (opened file now) := by
  have empty : fileHistory file = fileHistory file ++ [] := (List.append_nil _).symm
  refine ⟨empty, rfl, fun who => ⟨[], List.nil_prefix, ?_, load_stage file now⟩⟩
  exact (load_history file now).trans empty

theorem Consistent.update {next : SharedStage} {who : Process} {guard : AutonomyStageGuard}
    {more : List StageTransition} (consistent : Consistent base initial shared)
    (applied : next.applied = shared.applied ++ more)
    (guards : next.guards = Function.update shared.guards who guard)
    (history : fileHistory next.file = base ++ next.applied)
    (stage : fileStage next.file = endStage initial next.applied)
    (copy : CopyOf base initial next.applied guard) : Consistent base initial next := by
  refine ⟨history, stage, fun other => ?_⟩
  rw [guards]
  by_cases same : other = who
  · subst same
    rw [Function.update_self]
    exact copy
  · rw [Function.update_of_ne same, applied]
    exact (consistent.copies other).later more

theorem Consistent.step_kept (action : SharedAction) (consistent : Consistent base initial shared)
    (current : WriterCurrent shared action) : Consistent base initial (shared.step action) := by
  cases action with
  | reopen who now =>
    have unchanged : shared.applied = shared.applied ++ [] := (List.append_nil _).symm
    refine consistent.update unchanged rfl consistent.history consistent.stage
      ⟨shared.applied, List.prefix_rfl, ?_, ?_⟩
    · rw [load_history, consistent.history]
    · rw [load_stage, consistent.stage]
  | invoke who action =>
    have performed := AutonomyStageGuard.perform_cases (shared.guards who) action
    simp only [WriterCurrent, SharedStage.step] at current ⊢
    generalize (shared.guards who).perform action = effect at performed current ⊢
    have copy := consistent.copies who
    cases performed with
    | untouched =>
      exact consistent.update rfl rfl
        (by simpa [AutonomyStageGuard.untouched] using consistent.history)
        (by simpa [AutonomyStageGuard.untouched] using consistent.stage) (copy.later _)
    | requests requests =>
      have history := (current rfl).trans consistent.history
      have stage := copy.current_stage history
      refine consistent.update rfl rfl ?_ ?_ ⟨shared.applied, ?_, history, stage⟩
      · simpa using history
      · simpa using stage
      · simp
    | transition transition requests origin grounds =>
      have history : ((shared.guards who).applyTransition transition).history =
          base ++ (shared.applied ++ [transition]) := by
        rw [AutonomyStageGuard.applyTransition, (current rfl).trans consistent.history,
          List.append_assoc]
      refine consistent.update rfl rfl history ?_
        ⟨shared.applied ++ [transition], List.prefix_rfl, history, ?_⟩
      · exact (endStage_append initial shared.applied transition).symm
      · exact (endStage_append initial shared.applied transition).symm

/-- An update is only kept if its writer was current. -/
theorem Consistent.step_needed (action : SharedAction)
    (consistent : Consistent base initial shared)
    (kept : NoLostUpdate base (shared.step action)) : WriterCurrent shared action := by
  cases action with
  | reopen who now => trivial
  | invoke who action =>
    intro saved
    have performed := AutonomyStageGuard.perform_cases (shared.guards who) action
    have contained := kept.history.length_le
    simp only [SharedStage.step] at contained
    rw [consistent.history]
    refine (consistent.copies who).current_of_length ?_
    generalize (shared.guards who).perform action = effect at performed contained saved
    cases performed with
    | untouched => exact absurd saved (by simp [AutonomyStageGuard.untouched])
    | requests requests => simpa using contained
    | transition transition requests origin grounds =>
      simp only [if_true, fileHistory_save, AutonomyStageGuard.applyTransition,
        Option.toList_some, List.length_append, List.length_singleton] at contained ⊢
      omega

end Steps

/-- No update is lost exactly when every write is made by a current guard. -/
theorem noLostUpdate_iff (file : Option StageFile) (now : String)
    (actions : List SharedAction) :
    Throughout step (NoLostUpdate (fileHistory file)) (opened file now) actions ↔
      EachStep step WriterCurrent (opened file now) actions :=
  throughout_iff_eachStep (Consistent (fileHistory file) (fileStage file))
    (fun _ consistent => consistent.noLostUpdate)
    (fun _ action consistent current => consistent.step_kept action current)
    (fun _ action consistent kept => consistent.step_needed action kept)
    (Consistent.opened file now)

def uncheckedCall (call : StageCall) : StageAction where
  context :=
    { opsReadinessScore := none, certificationStatus := none, fillShadowAlerts := 0
      emergencyActive := false, drillOverdue := false, incidentCount := 0
      riskDisclosureOk := true, stageGuardEnabled := true }
  now := "2026-02-01T00:00:00Z"
  call

/-- The first guard's rollback of `reduce_only` is undone by a request of the
second, constructed before the rollback. -/
theorem request_undoes_rollback :
    ¬ Throughout step (NoLostUpdate []) (opened none "2026-02-01T00:00:00Z")
      [.invoke .first (uncheckedCall (.recover "system" none)),
        .reopen .second "2026-02-01T00:00:00Z",
        .invoke .first (uncheckedCall (.onError "circuit_breaker" "system" none)),
        .invoke .second (uncheckedCall (.requestTransition .partialAuto "ops" none
          "stage-1"))] := by
  intro holds
  have stage := holds.final.stage
    ⟨.reduceOnly, .manualOnly, "system", some "circuit_breaker", "2026-02-01T00:00:00Z"⟩
    (by decide)
  exact absurd stage (by decide)

end SharedStage

end FxToushi.Brokers
