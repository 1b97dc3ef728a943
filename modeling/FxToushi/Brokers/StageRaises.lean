import FxToushi.Brokers.StageRuns
import Mathlib.Tactic.NormNum

namespace FxToushi.Brokers

open Data

/-! # What raises a stage

Promotions and approvals consult the requirements of the stage they go to,
`recover` does not, and neither looks at the stages it passes over.
-/

def StageCall.overrides : StageCall → Bool
  | .promote _ _ _ override => override
  | _ => false

namespace AutonomyStageGuard

def fresh (now : String) : AutonomyStageGuard := load none now

/-- A recorded raise meets the requirements of its target in the context in
force, with the guard enabled. -/
def RaiseEvaluated (guard : AutonomyStageGuard) (action : StageAction) : Prop :=
  ∀ transition, (guard.step action).history = guard.history ++ [transition] →
    transition.fromStage.index < transition.toStage.index →
      action.context.stageGuardEnabled = true ∧
        stageRequirements transition.toStage action.context = []

/-- A recovery is only called when the next stage's requirements are met and
the guard is enabled. -/
def RecoveryEarned (guard : AutonomyStageGuard) (action : StageAction) : Prop :=
  ∀ actor reason above, action.call = .recover actor reason → guard.stage.next? = some above →
    action.context.stageGuardEnabled = true ∧ stageRequirements above action.context = []

theorem recorded_transition {guard : AutonomyStageGuard} {action : StageAction}
    {transition : StageTransition}
    (recorded : (guard.step action).history = guard.history ++ [transition]) :
    (guard.step action).stage = transition.toStage ∧ transition.fromStage = guard.stage ∧
      Grounds guard.stage action transition.toStage := by
  have performed := perform_cases guard action
  unfold step at recorded ⊢
  generalize guard.perform action = effect at performed recorded ⊢
  cases performed with
  | untouched => simp [untouched] at recorded
  | requests requests => simp at recorded
  | transition other requests origin grounds =>
    obtain rfl : other = transition := by simpa [applyTransition] using recorded
    exact ⟨rfl, origin, grounds⟩

theorem step_stage (guard : AutonomyStageGuard) (action : StageAction) :
    (guard.step action).stage = guard.stage ∨
      ∃ transition, (guard.step action).history = guard.history ++ [transition] := by
  have performed := perform_cases guard action
  unfold step
  generalize guard.perform action = effect at performed ⊢
  cases performed with
  | untouched => exact .inl rfl
  | requests requests => exact .inl rfl
  | transition transition requests origin grounds => exact .inr ⟨transition, rfl⟩

theorem raiseEvaluated_iff {action : StageAction} (plain : action.call.overrides = false)
    (guard : AutonomyStageGuard) :
    RaiseEvaluated guard action ↔ RecoveryEarned guard action := by
  constructor
  · intro evaluated actor reason above called next
    obtain ⟨context, now, call⟩ := action
    obtain rfl : call = .recover actor reason := called
    have raised : guard.stage.index < above.index := by
      rw [Stage.index_next next]
      exact Nat.lt_succ_self _
    refine evaluated
      { fromStage := guard.stage, toStage := above, actor, reason, ts := now } ?_ raised
    simp [step, perform, recover, next, moved, applyTransition]
  · intro earned transition recorded raised
    obtain ⟨-, origin, grounds⟩ := recorded_transition recorded
    cases grounds with
    | evaluated enabled above met => exact ⟨enabled, met⟩
    | overridden named =>
      obtain ⟨actor, reason, called⟩ := named
      rw [called] at plain
      exact absurd plain (by simp [StageCall.overrides])
    | recovered called next =>
      obtain ⟨actor, reason, called⟩ := called
      exact earned actor reason transition.toStage called next
    | lowered below =>
      rw [origin] at raised
      omega

/-- An evaluated raise never ends in `full_auto`, whose requirements no context meets. -/
theorem step_below_fullAuto {guard : AutonomyStageGuard} {action : StageAction}
    (below : guard.stage ≠ .fullAuto) (evaluated : RaiseEvaluated guard action) :
    (guard.step action).stage ≠ .fullAuto := by
  rcases step_stage guard action with kept | ⟨transition, recorded⟩
  · rw [kept]
    exact below
  · obtain ⟨target, origin, -⟩ := recorded_transition recorded
    rw [target]
    intro full
    have raised : transition.fromStage.index < transition.toStage.index := by
      rw [origin, full]
      revert below
      cases guard.stage <;> decide
    have unmet := (evaluated transition recorded raised).2
    rw [full] at unmet
    exact absurd unmet (by simp [stageRequirements])

/-- Over a run without overrides, every raise is evaluated and `full_auto` is
never reached exactly when every recovery is earned. -/
theorem raises_evaluated_iff {now : String} {actions : List StageAction}
    (plain : ∀ action ∈ actions, action.call.overrides = false) :
    (EachStep step RaiseEvaluated (fresh now) actions ∧
        Throughout step (fun guard => guard.stage ≠ .fullAuto) (fresh now) actions) ↔
      EachStep step RecoveryEarned (fresh now) actions := by
  rw [eachStep_congr fun action member => raiseEvaluated_iff (plain action member)]
  constructor
  · exact fun holds => holds.1
  · intro earned
    refine ⟨earned, ?_⟩
    rw [← eachStep_congr fun action member => raiseEvaluated_iff (plain action member)] at earned
    have start : (fresh now).stage ≠ .fullAuto := by simp [fresh, load]
    exact throughout_of_eachStep (fun _ _ => step_below_fullAuto) start earned

def readyContext : StageGuardContext where
  opsReadinessScore := some 82
  certificationStatus := some "pass"
  fillShadowAlerts := 0
  emergencyActive := false
  drillOverdue := false
  incidentCount := 0
  riskDisclosureOk := true
  stageGuardEnabled := true

def recovery (context : StageGuardContext) : StageAction where
  context
  now := "2026-02-01T00:00:00Z"
  call := .recover "system" none

theorem raises_evaluated_recovery :
    (EachStep step RaiseEvaluated (fresh "2026-02-01T00:00:00Z") [recovery readyContext] ∧
        Throughout step (fun guard => guard.stage ≠ .fullAuto) (fresh "2026-02-01T00:00:00Z")
          [recovery readyContext]) ↔
      EachStep step RecoveryEarned (fresh "2026-02-01T00:00:00Z") [recovery readyContext] :=
  raises_evaluated_iff (by decide)

/-- Three recoveries with the guard switched off reach `full_auto`. -/
theorem recover_reaches_fullAuto :
    ¬ (EachStep step RaiseEvaluated (fresh "2026-02-01T00:00:00Z")
          (List.replicate 3 (recovery { readyContext with stageGuardEnabled := false })) ∧
        Throughout step (fun guard => guard.stage ≠ .fullAuto) (fresh "2026-02-01T00:00:00Z")
          (List.replicate 3 (recovery { readyContext with stageGuardEnabled := false }))) := by
  rintro ⟨-, below⟩
  exact absurd (by decide) below.final

/-! ## Stages passed over -/

/-- Every stage between the current one and an allowed promotion has its
requirements met. -/
def Accumulates (guard : AutonomyStageGuard) (context : StageGuardContext) : Prop :=
  ∀ target ∈ (guard.evaluate context).allowedPromotions, ∀ between : Stage,
    guard.stage.index < between.index → between.index < target.index →
      stageRequirements between context = []

def PartialWithheld (context : StageGuardContext) : Prop :=
  scoreBelow context.opsReadinessScore 80 = true ∨ context.drillOverdue = true ∨
    context.emergencyActive = true

def CertificationPassed (context : StageGuardContext) : Prop :=
  context.certificationStatus ∈ [some "pass", some "pass_with_warning"]

/-- Where no unearned stage can be skipped: the guard is off, it has left
`manual_only`, the context withholds `partial_auto`, or it is certified, free
of alerts and disclosed. -/
def SkipEarned (stage : Stage) (context : StageGuardContext) : Prop :=
  context.stageGuardEnabled = false ∨ stage ≠ .manualOnly ∨ PartialWithheld context ∨
    (CertificationPassed context ∧ context.fillShadowAlerts = 0 ∧
      context.riskDisclosureOk = true)

/-- A recorded move from `manual_only` to `partial_auto` is certified and free
of alerts. -/
def CertifiedMove (guard : AutonomyStageGuard) (action : StageAction) : Prop :=
  ∀ transition, (guard.step action).history = guard.history ++ [transition] →
    transition.fromStage = .manualOnly → transition.toStage = .partialAuto →
      CertificationPassed action.context ∧ action.context.fillShadowAlerts = 0

theorem partialAuto_met_iff (context : StageGuardContext) :
    stageRequirements .partialAuto context = [] ↔ ¬ PartialWithheld context := by
  simp [stageRequirements, PartialWithheld]

theorem scoreBelow_of_scoreBelow {score : Option Rat} {bound higher : Rat}
    (le : bound ≤ higher) (below : scoreBelow score bound = true) :
    scoreBelow score higher = true := by
  cases score with
  | none => rfl
  | some score =>
    simp only [scoreBelow, decide_eq_true_eq] at below ⊢
    exact lt_of_lt_of_le below le

/-- A score good enough for `partial_auto` leaves only the certification, the
alerts and the disclosure to `reduce_only`. -/
theorem reduceOnly_met_iff {context : StageGuardContext} (ready : ¬ PartialWithheld context) :
    stageRequirements .reduceOnly context = [] ↔
      CertificationPassed context ∧ context.fillShadowAlerts = 0 ∧
        context.riskDisclosureOk = true := by
  have scored : scoreBelow context.opsReadinessScore 70 = false := by
    by_contra low
    have below : scoreBelow context.opsReadinessScore 70 = true := by simpa using low
    exact ready (.inl (scoreBelow_of_scoreBelow (by norm_num) below))
  by_cases certified : CertificationPassed context
  · have passed := certified
    unfold CertificationPassed at passed
    simp [stageRequirements, scored, certified, passed]
  · have failed := certified
    unfold CertificationPassed at failed
    simp [stageRequirements, certified, failed]

theorem accumulates_iff (guard : AutonomyStageGuard) (context : StageGuardContext) :
    Accumulates guard context ↔ SkipEarned guard.stage context := by
  constructor
  · intro accumulates
    by_contra unearned
    simp only [SkipEarned, not_or, Bool.not_eq_false, not_not] at unearned
    obtain ⟨enabled, manual, ready, unmet⟩ := unearned
    have allowed : Stage.partialAuto ∈ (guard.evaluate context).allowedPromotions := by
      rw [mem_allowedPromotions, partialAuto_met_iff, manual]
      exact ⟨enabled, by decide, ready⟩
    have met := accumulates _ allowed .reduceOnly (by rw [manual]; decide) (by decide)
    exact unmet ((reduceOnly_met_iff ready).mp met)
  · intro earned target allowed between above below
    obtain ⟨enabled, raised, met⟩ := (mem_allowedPromotions guard context target).mp allowed
    have reachable : target ≠ .fullAuto := by
      rintro rfl
      exact absurd met (by simp [stageRequirements])
    -- The only stage strictly between is `reduce_only`, on the way to `partial_auto`.
    have skipped : guard.stage = .manualOnly ∧ between = .reduceOnly ∧ target = .partialAuto := by
      clear met allowed
      revert reachable raised above below
      generalize guard.stage = stage
      cases stage <;> cases between <;> cases target <;> decide
    obtain ⟨manual, rfl, rfl⟩ := skipped
    have ready := (partialAuto_met_iff context).mp met
    rcases earned with off | left | withheld | certified
    · rw [off] at enabled
      exact absurd enabled (by decide)
    · exact absurd manual left
    · exact absurd withheld ready
    · exact (reduceOnly_met_iff ready).mpr certified

theorem certifiedMove_of_skipEarned {guard : AutonomyStageGuard} {action : StageAction}
    (plain : action.call.overrides = false) (earned : SkipEarned guard.stage action.context) :
    CertifiedMove guard action := by
  intro transition recorded manual target
  obtain ⟨-, origin, grounds⟩ := recorded_transition recorded
  rw [origin] at manual
  rw [target, manual] at grounds
  cases grounds with
  | evaluated enabled above met =>
    have allowed : Stage.partialAuto ∈ (guard.evaluate action.context).allowedPromotions := by
      rw [mem_allowedPromotions, manual]
      exact ⟨enabled, above, met⟩
    have accumulated := (accumulates_iff guard action.context).mpr earned _ allowed .reduceOnly
      (by rw [manual]; decide) (by decide)
    have ready := (partialAuto_met_iff action.context).mp met
    obtain ⟨certified, quiet, -⟩ := (reduceOnly_met_iff ready).mp accumulated
    exact ⟨certified, quiet⟩
  | overridden named =>
    obtain ⟨actor, reason, called⟩ := named
    rw [called] at plain
    exact absurd plain (by simp [StageCall.overrides])
  | recovered called next => exact absurd next (by decide)
  | lowered below => exact absurd below (by decide)

/-- Requirements accumulate exactly where no unearned stage can be skipped, and
a run that keeps to such contexts only makes certified moves to `partial_auto`. -/
theorem requirements_accumulate_iff (guard : AutonomyStageGuard) (context : StageGuardContext) :
    (Accumulates guard context ↔ SkipEarned guard.stage context) ∧
      ∀ actions, (∀ action ∈ actions, action.call.overrides = false) →
        EachStep step (fun guard action => SkipEarned guard.stage action.context) guard actions →
        EachStep step CertifiedMove guard actions := by
  refine ⟨accumulates_iff guard context, fun actions plain earned => ?_⟩
  induction actions generalizing guard with
  | nil => trivial
  | cons action rest ih =>
    have first := certifiedMove_of_skipEarned (plain action List.mem_cons_self) earned.1
    exact ⟨first, ih _ (fun later member => plain later (List.mem_cons_of_mem _ member)) earned.2⟩

def uncertifiedContext : StageGuardContext :=
  { readyContext with certificationStatus := some "fail", fillShadowAlerts := 3 }

/-- From `manual_only` such a context promotes straight to `partial_auto`. -/
theorem partialAuto_skips_certification :
    ¬ Accumulates (fresh "2026-02-01T00:00:00Z") uncertifiedContext ∧
      ¬ EachStep step CertifiedMove (fresh "2026-02-01T00:00:00Z")
        [{ context := uncertifiedContext, now := "2026-02-01T00:00:01Z"
           call := .promote .partialAuto "system" none false }] := by
  refine ⟨fun accumulates => ?_, fun certified => ?_⟩
  · exact absurd (accumulates .partialAuto (by decide) .reduceOnly (by decide) (by decide))
      (by decide)
  · exact absurd (certified.1 ⟨.manualOnly, .partialAuto, "system", none, "2026-02-01T00:00:01Z"⟩
      (by decide) rfl rfl).2 (by decide)

end AutonomyStageGuard

end FxToushi.Brokers
