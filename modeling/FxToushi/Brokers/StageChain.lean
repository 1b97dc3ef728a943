import FxToushi.Brokers.StageDocument
import FxToushi.Brokers.StageRuns
import Mathlib.Data.List.Chain

namespace FxToushi.Brokers

open Data Py

/-! # The chain of stages and the life of a request

A guard and its state file, in runs that may put a new guard in the place of the
old one at any time.
-/

/-! ## Requests -/

/-- A request stays as it is, or is decided. -/
inductive Advances : StageRequest → StageRequest → Prop where
  | kept (request : StageRequest) : Advances request request
  | decided (request : StageRequest) (status : RequestStatus) (approvedBy approvedAt : String)
      (waited : request.status = .requested) (other : status ≠ .requested) :
      Advances request
        { request with status, approvedBy := some approvedBy, approvedAt := some approvedAt }

/-- Each request stays in its place, and new ones come after. -/
def Advanced (before after : List StageRequest) : Prop :=
  ∃ moved added, after = moved ++ added ∧ List.Forall₂ Advances before moved

namespace AutonomyStageGuard

theorem advanced_refl (requests : List StageRequest) : Advanced requests requests :=
  ⟨requests, [], (List.append_nil requests).symm, List.forall₂_same.mpr fun request _ =>
    .kept request⟩

theorem advanced_replaceRequest {requests : List StageRequest} {requestId : String}
    {request updated : StageRequest}
    (found : requests.find? (fun request => request.requestId == requestId) = some request)
    (advances : Advances request updated) :
    Advanced requests (replaceRequest requestId updated requests) := by
  refine ⟨_, [], (List.append_nil _).symm, ?_⟩
  induction requests with
  | nil => cases found
  | cons first rest ih =>
    rw [replaceRequest]
    by_cases same : first.requestId = requestId
    · rw [if_pos same]
      rw [List.find?_cons_of_pos (by simpa using same)] at found
      obtain rfl := Option.some.inj found
      exact .cons advances (List.forall₂_same.mpr fun request _ => .kept request)
    · rw [if_neg same]
      rw [List.find?_cons_of_neg (by simpa using same)] at found
      exact .cons (.kept first) (ih found)

theorem findRequest_ok {guard : AutonomyStageGuard} {requestId : String} {request : StageRequest}
    (found : guard.findRequest requestId = .ok request) :
    guard.requests.find? (fun request => request.requestId == requestId) = some request := by
  unfold findRequest at found
  split at found
  · rename_i listed
    rw [← Except.ok.inj found]
    exact listed
  · cases found

/-- An approval decides the request that it found. -/
theorem advanced_approveRequest {guard : AutonomyStageGuard} {requestId actor now : String}
    {reason : Option String} {context : StageGuardContext}
    {result : AutonomyStageGuard × StageTransition}
    (approved : guard.approveRequest requestId actor reason context now = .ok result) :
    Advanced guard.requests result.1.requests := by
  obtain ⟨request, found, approved⟩ := bind_ok approved
  dsimp only at approved
  split at approved
  · exact absurd approved (by simp [throw, throwThe, MonadExceptOf.throw, bind, Except.bind])
  · rename_i waited
    obtain ⟨promotion, promoted, approved⟩ := bind_ok approved
    obtain ⟨applied, -, -, -⟩ := promote_ok promoted
    obtain rfl := Except.ok.inj approved
    have kept : promotion.1.requests = guard.requests := by
      rw [applied]
      rfl
    dsimp only
    rw [kept]
    exact advanced_replaceRequest (findRequest_ok found)
      (.decided request .approved actor promotion.2.ts (not_not.mp waited) (by decide))

theorem advanced_denyRequest {guard : AutonomyStageGuard} {requestId actor now : String}
    {result : AutonomyStageGuard × StageRequest}
    (denied : guard.denyRequest requestId actor now = .ok result) :
    Advanced guard.requests result.1.requests := by
  obtain ⟨request, found, denied⟩ := bind_ok denied
  dsimp only at denied
  split at denied
  · exact absurd denied (by simp [throw, throwThe, MonadExceptOf.throw, bind, Except.bind])
  · rename_i waited
    obtain rfl := Except.ok.inj denied
    exact advanced_replaceRequest (findRequest_ok found)
      (.decided request .denied actor now (not_not.mp waited) (by decide))

theorem rollbackOne_requests (guard : AutonomyStageGuard) (actor : String) (reason : Option String)
    (now : String) :
    (((guard.rollbackOne actor reason now).map moved).getD guard.untouched).guard.requests =
      guard.requests := by
  rw [rollbackOne]
  cases guard.stage.previous? <;> rfl

/-- A call decides at most one request that waited, and adds at most one. -/
theorem advanced_step (guard : AutonomyStageGuard) (action : StageAction) :
    Advanced guard.requests (guard.step action).requests := by
  obtain ⟨context, now, call⟩ := action
  have same : ∀ {requests}, requests = guard.requests → Advanced guard.requests requests :=
    fun equal => equal ▸ advanced_refl guard.requests
  cases call with
  | promote stage actor reason override =>
    simp only [step, perform]
    split
    · rename_i result promoted
      obtain ⟨applied, -, -, -⟩ := promote_ok promoted
      exact same (by rw [applied]; rfl)
    · exact same rfl
  | rollbackOne actor reason => exact same (guard.rollbackOne_requests actor reason now)
  | onError errorClass actor reason =>
    simp only [step, perform, onError]
    split
    · exact same (guard.rollbackOne_requests actor _ now)
    · exact same rfl
  | recover actor reason =>
    simp only [step, perform, recover]
    cases guard.stage.next? <;> exact same rfl
  | requestTransition stage actor reason requestId =>
    exact ⟨guard.requests, _, rfl, List.forall₂_same.mpr fun request _ => .kept request⟩
  | approveRequest requestId actor reason =>
    simp only [step, perform]
    split
    · rename_i result approved
      exact advanced_approveRequest approved
    · exact same rfl
  | denyRequest requestId actor =>
    simp only [step, perform]
    split
    · rename_i result denied
      exact advanced_denyRequest denied
    · exact same rfl

end AutonomyStageGuard

/-! ## A guard and its file -/

/-- A guard that works on a state file. -/
structure StageProcess where
  guard : AutonomyStageGuard
  file : Option (List Char)

inductive StageEvent where
  | call (action : StageAction)
  | restart (now : String)

namespace StageProcess

/-- A new guard, where there is no state file yet. -/
def fresh (now : String) : StageProcess := ⟨.load none now, none⟩

/-- A call saves what it changed.  After a restart a new guard has read the file. -/
def step (process : StageProcess) : StageEvent → StageProcess
  | .call action =>
    let effect := process.guard.perform action
    { guard := effect.guard
      file := if effect.saved then some effect.guard.save.text else process.file }
  | .restart now =>
    { process with
      guard := (AutonomyStageGuard.reopen process.file now).getD process.guard }

end StageProcess

/-- The first transition starts at the first stage, each of the others where the one
before it ended, and the stage is where the last one ended. -/
structure Chained (guard : AutonomyStageGuard) : Prop where
  first : ∀ transition ∈ guard.history.head?, transition.fromStage = .manualOnly
  linked : guard.history.IsChain (fun earlier later => earlier.toStage = later.fromStage)
  last : guard.stage = (guard.history.getLast?.map (·.toStage)).getD .manualOnly

/-- A new guard on the file has the stage, the history and the requests. -/
def SurvivesRestart (process : StageProcess) : Prop :=
  ∀ now, ∃ guard, AutonomyStageGuard.reopen process.file now = some guard ∧
    guard.stage = process.guard.stage ∧ guard.history = process.guard.history ∧
    guard.requests = process.guard.requests

namespace StageProcess

/-- There is a request at the place, and it has the status `requested`. -/
def waits (place : Nat) (process : StageProcess) : Bool :=
  process.guard.requests[place]?.any (fun request => request.status = .requested)

/-- How often the request at the place leaves the status `requested`. -/
def departures (place : Nat) : StageProcess → List StageEvent → Nat
  | _, [] => 0
  | process, event :: rest =>
    (if process.waits place && !(process.step event).waits place then 1 else 0) +
      departures place (process.step event) rest

end StageProcess

/-! ## One step -/

theorem AutonomyStageGuard.perform_unsaved {guard : AutonomyStageGuard} {action : StageAction}
    (unsaved : (guard.perform action).saved = false) : (guard.perform action).guard = guard := by
  have performed := guard.perform_cases action
  revert unsaved
  generalize guard.perform action = effect at performed
  intro unsaved
  cases performed with
  | untouched => rfl
  | requests requests => cases unsaved
  | transition transition requests origin grounds => cases unsaved

/-- A call that records a transition lengthens the chain by it. -/
theorem Chained.step {guard : AutonomyStageGuard} (chained : Chained guard)
    (action : StageAction) : Chained (guard.step action) := by
  have performed := guard.perform_cases action
  unfold AutonomyStageGuard.step
  generalize guard.perform action = effect at performed
  cases performed with
  | untouched => exact chained
  | requests requests => exact ⟨chained.first, chained.linked, chained.last⟩
  | transition transition requests origin grounds =>
    refine ⟨fun first member => ?_, ?_, ?_⟩
    · dsimp only [AutonomyStageGuard.applyTransition] at member
      cases held : guard.history with
      | nil =>
        rw [held] at member
        obtain rfl : transition = first := by simpa using member
        rw [origin, chained.last, held]
        rfl
      | cons earlier rest =>
        rw [held] at member
        refine chained.first first ?_
        rw [held]
        exact member
    · refine chained.linked.append (List.isChain_singleton transition) ?_
      intro earlier ended later added
      obtain rfl : transition = later := by simpa using added
      rw [origin, chained.last, Option.mem_def.mp ended]
      rfl
    · simp [AutonomyStageGuard.applyTransition]

namespace StageProcess

variable {process : StageProcess} {place : Nat}

theorem survivesRestart_call (survives : SurvivesRestart process) (action : StageAction) :
    SurvivesRestart (process.step (.call action)) := by
  intro now
  cases saved : (process.guard.perform action).saved with
  | false =>
    have kept : process.step (.call action) = process := by
      simp only [step, saved, AutonomyStageGuard.perform_unsaved saved]
      rfl
    rw [kept]
    exact survives now
  | true =>
    refine ⟨.load (some (process.guard.perform action).guard.save) now, ?_, rfl, rfl, rfl⟩
    simp only [step, saved]
    exact AutonomyStageGuard.reopen_text _ now

theorem step_restart (survives : SurvivesRestart process) (now : String) :
    (process.step (.restart now)).guard.stage = process.guard.stage ∧
      (process.step (.restart now)).guard.history = process.guard.history ∧
      (process.step (.restart now)).guard.requests = process.guard.requests := by
  obtain ⟨guard, reopened, same⟩ := survives now
  simp only [step, reopened, Option.getD_some]
  exact same

/-- What holds in every state of a process. -/
structure Sound (process : StageProcess) : Prop where
  chained : Chained process.guard
  survives : SurvivesRestart process

theorem Sound.step (sound : Sound process) (event : StageEvent) : Sound (process.step event) := by
  cases event with
  | call action =>
    exact ⟨sound.chained.step action, survivesRestart_call sound.survives action⟩
  | restart now =>
    obtain ⟨stage, history, requests⟩ := step_restart sound.survives now
    refine ⟨⟨?_, ?_, ?_⟩, fun later => ?_⟩
    · rw [history]
      exact sound.chained.first
    · rw [history]
      exact sound.chained.linked
    · rw [history, stage]
      exact sound.chained.last
    · rw [history, stage, requests]
      exact sound.survives later

theorem sound_fresh (now : String) : Sound (fresh now) :=
  ⟨⟨fun _ none => (nomatch none), List.isChain_nil, rfl⟩,
    fun later => ⟨.load none later, rfl, rfl, rfl, rfl⟩⟩

theorem advanced_event (survives : SurvivesRestart process) (event : StageEvent) :
    Advanced process.guard.requests (process.step event).guard.requests := by
  cases event with
  | call action => exact process.guard.advanced_step action
  | restart now =>
    rw [(step_restart survives now).2.2]
    exact AutonomyStageGuard.advanced_refl _

/-- The request at the place was decided. -/
def Settled (place : Nat) (process : StageProcess) : Prop :=
  ∃ request, process.guard.requests[place]? = some request ∧ request.status ≠ .requested

theorem advanced_at {before after : List StageRequest} (advanced : Advanced before after)
    {request : StageRequest} (present : before[place]? = some request) :
    ∃ later, after[place]? = some later ∧ Advances request later := by
  obtain ⟨moved, added, rfl, each⟩ := advanced
  obtain ⟨within, rfl⟩ := List.getElem?_eq_some_iff.mp present
  have inside : place < moved.length := each.length_eq ▸ within
  refine ⟨moved[place], ?_, each.get within inside⟩
  rw [List.getElem?_append_left inside, List.getElem?_eq_getElem inside]

theorem Settled.step (settled : Settled place process) (survives : SurvivesRestart process)
    (event : StageEvent) : Settled place (process.step event) := by
  obtain ⟨request, present, decided⟩ := settled
  obtain ⟨later, kept, advances⟩ := advanced_at (advanced_event survives event) present
  refine ⟨later, kept, ?_⟩
  cases advances with
  | kept => exact decided
  | decided status approvedBy approvedAt waited other => exact absurd waited decided

theorem not_waits_of_settled (settled : Settled place process) : process.waits place = false := by
  obtain ⟨request, present, decided⟩ := settled
  rw [waits, present]
  exact decide_eq_false decided

theorem settled_of_departure (survives : SurvivesRestart process) (event : StageEvent)
    (waited : process.waits place = true) (left : (process.step event).waits place = false) :
    Settled place (process.step event) := by
  obtain ⟨request, present, -⟩ := (Option.any_eq_true _ _).mp waited
  obtain ⟨later, kept, -⟩ := advanced_at (advanced_event survives event) present
  refine ⟨later, kept, fun still => ?_⟩
  rw [waits, kept, Option.any_some, still] at left
  cases left

theorem departures_of_settled (sound : Sound process) (settled : Settled place process)
    (events : List StageEvent) : departures place process events = 0 := by
  induction events generalizing process with
  | nil => rfl
  | cons event rest ih =>
    rw [departures, not_waits_of_settled settled,
      ih (sound.step event) (settled.step sound.survives event)]
    rfl

theorem departures_le_one (sound : Sound process) (place : Nat) (events : List StageEvent) :
    departures place process events ≤ 1 := by
  induction events generalizing process with
  | nil => exact Nat.zero_le 1
  | cons event rest ih =>
    rw [departures]
    split
    · rename_i departs
      rw [Bool.and_eq_true, Bool.not_eq_true'] at departs
      have settled := settled_of_departure sound.survives event departs.1 departs.2
      rw [departures_of_settled (sound.step event) settled]
    · rw [Nat.zero_add]
      exact ih (sound.step event)

end StageProcess

/-- From a fresh state file the history is a chain that ends in the stage, and a new
guard on the file would have the same stage, history and requests; and no request
leaves the status `requested` twice. -/
theorem stage_history_chained (now : String) (events : List StageEvent) :
    Throughout StageProcess.step
      (fun process => Chained process.guard ∧ SurvivesRestart process) (.fresh now) events ∧
    ∀ place, StageProcess.departures place (.fresh now) events ≤ 1 := by
  refine ⟨?_, fun place => StageProcess.departures_le_one
    (StageProcess.sound_fresh now) place events⟩
  have sound : Throughout StageProcess.step StageProcess.Sound (.fresh now) events :=
    throughout_of_step (fun process event holds => holds.step event) (StageProcess.sound_fresh now)
  exact sound.imp fun process holds => ⟨holds.chained, holds.survives⟩

end FxToushi.Brokers
