import FxToushi.Core.Health

namespace FxToushi.Core

open Data Py

/-! # The status against the reasons held

The status is merged in when a condition is raised and recomputed when one is
cleared.  Severities are places in `severityOrder`, so both are maxima.
-/

namespace HealthMonitor

def statusName (severity : Nat) : String := severityOrder.getD severity "ok"

def levelSeverity (level : String) : Nat :=
  (severityOrder.idxOf? (levelToStatus level)).getD 0

def worst : List HealthReason → Nat
  | [] => 0
  | reason :: rest => max (levelSeverity reason.level) (worst rest)

/-- The severity a code is held at, with `ok` for a code that is not held. -/
def heldSeverity (code : String) (reasons : List HealthReason) : Nat :=
  match reasons.find? (fun reason => reason.code == code) with
  | none => 0
  | some reason => levelSeverity reason.level

def othersSeverity (code : String) (reasons : List HealthReason) : Nat :=
  worst (reasons.eraseP (fun reason => reason.code == code))

def StatusReflectsReasons (monitor : HealthMonitor) : Prop :=
  monitor.state.status = statusName (worst monitor.state.reasons)

theorem levelToStatus_cases (level : String) :
    levelToStatus level = "ok" ∨ levelToStatus level = "warn" ∨
      levelToStatus level = "degraded" ∨ levelToStatus level = "soft_stop" ∨
      levelToStatus level = "hard_stop" := by
  unfold levelToStatus
  split_ifs <;> simp

theorem levelSeverity_lt (level : String) : levelSeverity level < 5 := by
  unfold levelSeverity
  rcases levelToStatus_cases level with status | status | status | status | status <;>
    rw [status] <;> decide

theorem statusName_levelSeverity (level : String) :
    statusName (levelSeverity level) = levelToStatus level := by
  unfold levelSeverity
  rcases levelToStatus_cases level with status | status | status | status | status <;>
    rw [status] <;> rfl

theorem statusName_inj {left right : Nat} (leftBound : left < 5) (rightBound : right < 5) :
    statusName left = statusName right ↔ left = right := by
  have table : ∀ first < 5, ∀ second < 5,
      statusName first = statusName second → first = second := by
    decide
  exact ⟨table left leftBound right rightBound, fun same => congrArg statusName same⟩

theorem worst_lt (reasons : List HealthReason) : worst reasons < 5 := by
  induction reasons with
  | nil => decide
  | cons reason rest ih => exact Nat.max_lt.mpr ⟨levelSeverity_lt reason.level, ih⟩

theorem mergeStatus_statusName {current incoming : Nat} (currentBound : current < 5)
    (incomingBound : incoming < 5) :
    mergeStatus (statusName current) (statusName incoming) = statusName (max current incoming) := by
  have table : ∀ first < 5, ∀ second < 5,
      mergeStatus (statusName first) (statusName second) = statusName (max first second) := by
    decide
  exact table current currentBound incoming incomingBound

theorem mergeStatus_level {current : Nat} (bound : current < 5) (level : String) :
    mergeStatus (statusName current) (levelToStatus level) =
      statusName (max current (levelSeverity level)) := by
  rw [← statusName_levelSeverity, mergeStatus_statusName bound (levelSeverity_lt level)]

theorem foldl_mergeStatus (reasons : List HealthReason) (current : Nat) (bound : current < 5) :
    reasons.foldl (fun status reason => mergeStatus status (levelToStatus reason.level))
        (statusName current) =
      statusName (max current (worst reasons)) := by
  induction reasons generalizing current with
  | nil => rw [worst, Nat.max_zero, List.foldl_nil]
  | cons reason rest ih =>
    rw [List.foldl_cons, mergeStatus_level bound,
      ih _ (Nat.max_lt.mpr ⟨bound, levelSeverity_lt reason.level⟩), worst, Nat.max_assoc]

theorem recomputeStatus_eq (reasons : List HealthReason) :
    recomputeStatus reasons = statusName (worst reasons) := by
  have folded := foldl_mergeStatus reasons 0 (by decide)
  rwa [Nat.zero_max] at folded

theorem worst_split (code : String) (reasons : List HealthReason) :
    worst reasons = max (heldSeverity code reasons) (othersSeverity code reasons) := by
  induction reasons with
  | nil => rfl
  | cons reason rest ih =>
    cases same : reason.code == code with
    | true => simp only [worst, heldSeverity, othersSeverity, List.find?_cons, List.eraseP_cons,
        same, cond_true]
    | false =>
      simp only [heldSeverity, othersSeverity] at ih
      simp only [worst, heldSeverity, othersSeverity, List.find?_cons, List.eraseP_cons,
        same, cond_false, ih]
      omega

theorem worst_upsertReason (incoming : HealthReason) (reasons : List HealthReason) :
    worst (upsertReason incoming reasons) =
      max (levelSeverity incoming.level) (othersSeverity incoming.code reasons) := by
  induction reasons with
  | nil => rfl
  | cons reason rest ih =>
    by_cases same : reason.code = incoming.code
    · simp [upsertReason, worst, othersSeverity, same]
    · simp only [othersSeverity] at ih
      simp only [upsertReason, if_neg same, worst, othersSeverity, List.eraseP_cons, ih,
        beq_eq_false_iff_ne.mpr same, cond_false]
      omega

/-- Raising a code leaves the status at the maximum.  Once logged, the level
merged in must make up for the one it replaces; without the log entry the
status stays, so the maximum must not move. -/
def KeepsStatus (monitor : HealthMonitor) : Operation → Prop
  | .raiseCondition _ logged level reason _ _ =>
    let held := heldSeverity reason monitor.state.reasons
    let others := othersSeverity reason monitor.state.reasons
    if logged then held ≤ max (levelSeverity level) others
    else max held others = max (levelSeverity level) others
  | _ => True

theorem raiseCondition_reflects_iff {monitor : HealthMonitor}
    (reflects : StatusReflectsReasons monitor) (now : Timestamp) (logged : Bool)
    (level reason : String) (detail action : Option String) :
    StatusReflectsReasons (monitor.raiseCondition now logged level reason detail action) ↔
      KeepsStatus monitor (.raiseCondition now logged level reason detail action) := by
  have split := worst_split reason monitor.state.reasons
  have held := worst_lt monitor.state.reasons
  have raised : worst (upsertReason ⟨reason, level, detail, action, now⟩ monitor.state.reasons) =
      max (levelSeverity level) (othersSeverity reason monitor.state.reasons) :=
    worst_upsertReason _ _
  have bound := worst_lt (upsertReason ⟨reason, level, detail, action, now⟩ monitor.state.reasons)
  have levelBound := levelSeverity_lt level
  simp only [StatusReflectsReasons, raiseCondition, KeepsStatus] at reflects ⊢
  cases logged with
  | true =>
    rw [if_pos rfl, if_pos rfl, reflects, mergeStatus_level held,
      statusName_inj (Nat.max_lt.mpr ⟨held, levelBound⟩) bound]
    omega
  | false =>
    rw [if_neg (by decide), if_neg (by decide), reflects, statusName_inj held bound]
    omega

theorem step_reflects {monitor : HealthMonitor} (operation : Operation)
    (reflects : StatusReflectsReasons monitor) (keeps : KeepsStatus monitor operation) :
    StatusReflectsReasons (monitor.step operation) := by
  cases operation with
  | raiseCondition now logged level reason detail action =>
    exact (raiseCondition_reflects_iff reflects now logged level reason detail action).mpr keeps
  | queueAction now action reason evidence expiresAt actionId =>
    simpa only [StatusReflectsReasons, step, queueAction_state] using reflects
  | ackAction actionId => exact reflects
  | clear reason =>
    cases reason with
    | none => rfl
    | some reason =>
      simp only [StatusReflectsReasons, step, clear]
      split
      · rename_i empty
        rw [List.isEmpty_iff.mp empty]
        rfl
      · exact recomputeStatus_eq _
  | suggestGuarded now reason runbook evidence expiresAt actionId =>
    simpa only [StatusReflectsReasons, step, suggestGuarded, suggestBoardMode,
      queueAction_state] using reflects
  | suggestResume now reason runbook evidence expiresAt actionId =>
    simpa only [StatusReflectsReasons, step, suggestResume, suggestBoardMode,
      queueAction_state] using reflects
  | suggestKillSwitch state reason runbook => exact reflects

theorem keepsStatus_of_reflects {monitor : HealthMonitor} (operation : Operation)
    (reflects : StatusReflectsReasons monitor)
    (after : StatusReflectsReasons (monitor.step operation)) : KeepsStatus monitor operation := by
  cases operation with
  | raiseCondition now logged level reason detail action =>
    exact (raiseCondition_reflects_iff reflects now logged level reason detail action).mp after
  | _ => trivial

/-- From a fresh monitor on the status is the maximum over the reasons exactly
when every raise keeps it there. -/
theorem status_reflects_iff_keepsStatus (operations : List Operation) :
    Throughout step StatusReflectsReasons fresh operations ↔
      EachStep step KeepsStatus fresh operations :=
  throughout_iff_eachStep StatusReflectsReasons (fun _ reflects => reflects)
    (fun _ operation reflects keeps => step_reflects operation reflects keeps)
    (fun _ operation reflects after => keepsStatus_of_reflects operation reflects after) rfl

/-- A code raised again at a lower level keeps the status of the higher one,
and a condition whose log entry could not be written leaves the status at `ok`. -/
theorem raised_again_lower_keeps_status :
    (¬ Throughout step StatusReflectsReasons fresh
      [.raiseCondition 0 true "hard_stop" "feed" none none,
        .raiseCondition 1 true "warn" "feed" none none]) ∧
    ¬ Throughout step StatusReflectsReasons fresh
      [.raiseCondition 0 false "hard_stop" "feed" none none] := by
  constructor
  · intro reflects
    exact absurd reflects.final (by simp only [StatusReflectsReasons]; decide)
  · intro reflects
    exact absurd reflects.final (by simp only [StatusReflectsReasons]; decide)

end HealthMonitor

end FxToushi.Core
