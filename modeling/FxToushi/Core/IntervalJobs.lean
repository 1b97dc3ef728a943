import Mathlib.Data.List.DropRight
import Mathlib.Data.List.Nodup
import Mathlib.Algebra.Order.Ring.Rat
import FxToushi.Data.Stopping

namespace FxToushi.Core.IntervalJobs

open Data

/-! # Interval jobs

A job runs its coroutine again and again and sleeps between the runs.  It is given up when the
coroutine has failed too often in a row, and a run that starts late is counted as skipped.
-/

structure AsyncIntervalJob where
  name : String
  interval : Rat
  maxAttempts : Option Int := none
  retryBackoff : Option Rat := none
  jitterRatio : Rat := 1 / 10
  maxSkips : Int := 1
  lagWarnMs : Option Rat := none
  lagBaseIntervalMs : Option Rat := none
deriving Repr, DecidableEq

inductive Outcome where
  | done
  | cancelled
  | failed
deriving Repr, DecidableEq

/-- What a pass of the loop meets: the clock before and after, how the coroutine ends, the
delays of the calls of `defer_retry` since the last pass, and the draw of the jitter. -/
structure Turn where
  startedAt : Rat
  outcome : Outcome
  deferrals : List (Option Rat) := []
  draw : Rat := 0
  finishedAt : Rat
deriving Repr, DecidableEq

inductive Status where
  | failed
  | retry (delay : Rat)
  | ok
  | lagWarn
  | skippedExcess
deriving Repr, DecidableEq

structure Metric where
  status : Status
  scheduledAt : Rat
  startedAt : Rat
  lagMs : Rat
deriving Repr, DecidableEq

inductive Ending where
  | cancelled
  | raised
deriving Repr, DecidableEq

structure Loop where
  attempts : Nat := 0
  nextRun : Rat
  skipCount : Nat := 0
  metrics : List Metric := []
  sleeps : List Rat := []
  ended : Option Ending := none
deriving Repr, DecidableEq

/-- `left or right`. -/
def orNumber (left : Option Rat) (right : Rat) : Rat :=
  match left with
  | none => right
  | some value => if value = 0 then right else value

namespace AsyncIntervalJob

variable (job : AsyncIntervalJob)

def lagMs (loop : Loop) (turn : Turn) : Rat := max 0 ((turn.startedAt - loop.nextRun) * 1000)

def warnThreshold : Rat :=
  orNumber job.lagWarnMs (max (orNumber job.lagBaseIntervalMs (job.interval * 1000) * (3 / 2)) 2000)

def late (loop : Loop) (turn : Turn) : Bool := decide (job.warnThreshold < lagMs loop turn)

def skipsAfter (loop : Loop) (turn : Turn) : Nat :=
  if job.late loop turn then loop.skipCount + 1 else 0

/-- `defer_retry`, of which the last call is in force. -/
def sleepOverride (turn : Turn) : Option Rat :=
  turn.deferrals.getLast?.map fun delay => delay.getD (orNumber job.retryBackoff job.interval)

def sleepFor (turn : Turn) : Rat :=
  let chosen := (job.sleepOverride turn).getD job.interval
  if job.jitterRatio = 0 then chosen else max 0 (chosen * (1 + turn.draw))

def metric (loop : Loop) (turn : Turn) (status : Status) : Metric where
  status
  scheduledAt := loop.nextRun
  startedAt := turn.startedAt
  lagMs := lagMs loop turn

def pace (loop : Loop) (turn : Turn) : Loop :=
  { loop with
    nextRun := turn.finishedAt + job.sleepFor turn
    sleeps := loop.sleeps ++ if 0 < job.sleepFor turn then [job.sleepFor turn] else [] }

def spent (attempts : Nat) : Bool :=
  job.maxAttempts.any fun limit => decide (limit ≤ (attempts : Int))

def statuses (loop : Loop) (turn : Turn) : List Status :=
  .ok :: ((if job.late loop turn then [.lagWarn] else []) ++
    if job.maxSkips < job.skipsAfter loop turn then [.skippedExcess] else [])

/-- One pass of `run`. -/
def pass (loop : Loop) (turn : Turn) : Loop :=
  match turn.outcome with
  | .cancelled => { loop with ended := some .cancelled }
  | .done =>
    job.pace { loop with
      attempts := 0
      skipCount := job.skipsAfter loop turn
      metrics := loop.metrics ++ (job.statuses loop turn).map (metric loop turn) } turn
  | .failed =>
    if job.spent (loop.attempts + 1) then
      { loop with
        metrics := loop.metrics ++ [metric loop turn .failed]
        ended := some .raised }
    else
      let delay := job.retryBackoff.getD job.interval
      job.pace { loop with
        attempts := loop.attempts + 1
        skipCount := job.skipsAfter loop turn
        metrics := loop.metrics ++ [metric loop turn (.retry delay)]
        sleeps := loop.sleeps ++ [delay] } turn

def run (now : Rat) (turns : List Turn) : Loop :=
  foldUntil (fun loop => loop.ended.isSome) job.pass { nextRun := now } turns

end AsyncIntervalJob

structure Scheduler where
  jobs : List AsyncIntervalJob := []
  defaultRetryDelay : Option Rat := none
  maxRetries : Int := 3

/-- `add_interval_job`, with `none` for a `ValueError`. -/
def Scheduler.addIntervalJob (scheduler : Scheduler) (job : AsyncIntervalJob) :
    Option Scheduler :=
  if scheduler.jobs.any fun other => other.name == job.name then none
  else some { scheduler with
    jobs := scheduler.jobs ++ [{ job with
      retryBackoff := match job.retryBackoff with
        | some backoff => some backoff
        | none => match scheduler.defaultRetryDelay with
          | none => none
          | some delay => if delay = 0 then none else some delay
      maxAttempts := some (job.maxAttempts.getD scheduler.maxRetries) }] }

/-! ## Failures in a row -/

def failed (turn : Turn) : Bool := turn.outcome == .failed

/-- The turns at the end that have all failed. -/
def failures (turns : List Turn) : Nat := (turns.rtakeWhile failed).length

/-- The turns end with the failure that is one too many. -/
def givesUp (job : AsyncIntervalJob) (turns : List Turn) : Bool :=
  decide (0 < failures turns) && job.spent (failures turns)

section Failures

variable {job : AsyncIntervalJob} {loop : Loop} {now : Rat} {turn : Turn} {turns : List Turn}

theorem failures_concat (turns : List Turn) (turn : Turn) :
    failures (turns ++ [turn]) = if failed turn then failures turns + 1 else 0 := by
  by_cases again : failed turn = true
  · simp [failures, again]
  · simp [failures, again]

theorem givesUp_concat (job : AsyncIntervalJob) (turns : List Turn) (turn : Turn) :
    givesUp job (turns ++ [turn]) = (failed turn && job.spent (failures turns + 1)) := by
  rw [givesUp, failures_concat]
  cases failed turn with
  | false => simp
  | true => simp

theorem pass_running (running : turn.outcome ≠ .cancelled)
    (more : (failed turn && job.spent (loop.attempts + 1)) = false) :
    (job.pass loop turn).ended = loop.ended ∧
      (job.pass loop turn).attempts = if failed turn then loop.attempts + 1 else 0 := by
  unfold failed at more ⊢
  unfold AsyncIntervalJob.pass
  cases outcome : turn.outcome with
  | cancelled => exact absurd outcome running
  | done => exact ⟨rfl, rfl⟩
  | failed =>
    rw [outcome] at more
    have left : job.spent (loop.attempts + 1) = false := more
    simp only [left]
    exact ⟨rfl, rfl⟩

theorem pass_raises (fails : failed turn = true) (last : job.spent (loop.attempts + 1) = true) :
    (job.pass loop turn).ended = some .raised := by
  unfold failed at fails
  unfold AsyncIntervalJob.pass
  rw [eq_of_beq fails]
  simp only [last, if_true]

/-- While the job is not given up, its attempts are the failures in a row. -/
theorem runFrom_running (running : ∀ turn ∈ turns, turn.outcome ≠ .cancelled)
    (more : ∀ count ≤ turns.length, givesUp job (turns.take count) = false) :
    (runFrom job.pass { nextRun := now } turns).ended = none ∧
      (runFrom job.pass { nextRun := now } turns).attempts = failures turns := by
  induction turns using List.reverseRecOn with
  | nil => exact ⟨rfl, rfl⟩
  | append_singleton turns turn ih =>
    have before : ∀ count ≤ turns.length, givesUp job (turns.take count) = false := by
      intro count within
      have shorter := more count (by rw [List.length_append]; omega)
      rwa [List.take_append_of_le_length within] at shorter
    obtain ⟨ended, attempts⟩ := ih
      (fun other member => running other (List.mem_append_left _ member)) before
    have here := more (turns ++ [turn]).length le_rfl
    rw [List.take_length, givesUp_concat, ← attempts] at here
    rw [runFrom, List.foldl_append, ← runFrom]
    have passed := @pass_running job _ turn
      (running turn (List.mem_append_right _ List.mem_cons_self)) here
    exact ⟨passed.1.trans ended, by rw [failures_concat, ← attempts]; exact passed.2⟩

theorem raised_of_givesUp {count : Nat} (within : count ≤ turns.length)
    (running : ∀ turn ∈ turns, turn.outcome ≠ .cancelled)
    (last : givesUp job (turns.take count) = true)
    (first : ∀ fewer < count, givesUp job (turns.take fewer) = false) :
    (runFrom job.pass { nextRun := now } (turns.take count)).ended = some .raised := by
  cases count with
  | zero => exact absurd last (by simp [givesUp, failures])
  | succ count =>
    have split := List.take_succ_eq_append_getElem (show count < turns.length by omega)
    rw [split, givesUp_concat, Bool.and_eq_true] at last
    obtain ⟨-, attempts⟩ := @runFrom_running job now (turns.take count)
      (fun other member => running other (List.mem_of_mem_take member)) (by
        intro fewer less
        rw [List.length_take] at less
        rw [List.take_take, min_eq_left (by omega)]
        exact first fewer (by omega))
    have spent : job.spent ((runFrom job.pass { nextRun := now } (turns.take count)).attempts + 1)
        = true := by
      rw [attempts]
      exact last.2
    rw [split, runFrom, List.foldl_append]
    exact pass_raises last.1 spent

theorem runFrom_take_running {count : Nat}
    (running : ∀ turn ∈ turns, turn.outcome ≠ .cancelled) (within : count ≤ turns.length)
    (more : ∀ fewer ≤ count, givesUp job (turns.take fewer) = false) :
    (runFrom job.pass { nextRun := now } (turns.take count)).ended = none := by
  refine (runFrom_running (fun other member => running other (List.mem_of_mem_take member)) ?_).1
  intro fewer less
  rw [List.length_take] at less
  rw [List.take_take, min_eq_left (by omega)]
  exact more fewer (by omega)

theorem run_of_more (running : ∀ turn ∈ turns, turn.outcome ≠ .cancelled)
    (more : ∀ count ≤ turns.length, givesUp job (turns.take count) = false) :
    job.run now turns = runFrom job.pass { nextRun := now } turns ∧
      (job.run now turns).ended = none := by
  have all : job.run now turns = runFrom job.pass { nextRun := now } turns := by
    refine foldUntil_of_running fun count within => ?_
    rw [runFrom_take_running running within fun fewer less => more fewer (less.trans within)]
    rfl
  exact ⟨all, by rw [all]; exact (runFrom_running running more).1⟩

theorem run_of_givesUp {count : Nat} (within : count ≤ turns.length)
    (running : ∀ turn ∈ turns, turn.outcome ≠ .cancelled)
    (last : givesUp job (turns.take count) = true)
    (first : ∀ fewer < count, givesUp job (turns.take fewer) = false) :
    job.run now turns = runFrom job.pass { nextRun := now } (turns.take count) ∧
      (job.run now turns).ended = some .raised := by
  have raised := @raised_of_givesUp job now turns count within running last first
  have stopped : job.run now turns = runFrom job.pass { nextRun := now } (turns.take count) := by
    refine foldUntil_of_stopsAt {
      within
      stops := by rw [raised]; rfl
      first := fun fewer less => ?_ }
    rw [runFrom_take_running running (by omega) fun other before => first other (by omega)]
    rfl
  exact ⟨stopped, by rw [stopped, raised]⟩

theorem ended_iff (running : ∀ turn ∈ turns, turn.outcome ≠ .cancelled) :
    (job.run now turns).ended = some .raised ↔
      ∃ count ≤ turns.length, givesUp job (turns.take count) = true := by
  constructor
  · intro raised
    by_contra never
    have more : ∀ count ≤ turns.length, givesUp job (turns.take count) = false := by
      intro count within
      rw [← Bool.not_eq_true]
      exact fun last => never ⟨count, within, last⟩
    rw [(run_of_more running more).2] at raised
    cases raised
  · intro some_
    obtain ⟨within, last⟩ := Nat.find_spec some_
    refine (run_of_givesUp within running last fun fewer less => ?_).2
    have earlier := Nat.find_min some_ less
    rw [not_and, Bool.not_eq_true] at earlier
    exact earlier (by omega)

/-- A job raises at the first of its failures in a row that reaches the limit, and leaves the
turns after it alone; as long as there is none it goes on. -/
theorem run_gives_up (job : AsyncIntervalJob) (now : Rat)
    (running : ∀ turn ∈ turns, turn.outcome ≠ .cancelled) :
    ((∀ count ≤ turns.length, givesUp job (turns.take count) = false) →
        job.run now turns = runFrom job.pass { nextRun := now } turns ∧
          (job.run now turns).ended = none) ∧
      ∀ count ≤ turns.length, givesUp job (turns.take count) = true →
        (∀ fewer < count, givesUp job (turns.take fewer) = false) →
          job.run now turns = runFrom job.pass { nextRun := now } (turns.take count) ∧
            (job.run now turns).ended = some .raised :=
  ⟨run_of_more running, fun _ within last first => run_of_givesUp within running last first⟩

end Failures

/-- Two failures, a run that goes well, and two failures again. -/
def fiveTurns : List Turn :=
  [{ startedAt := 0, outcome := .failed, finishedAt := 1 },
    { startedAt := 70, outcome := .failed, finishedAt := 71 },
    { startedAt := 140, outcome := .done, finishedAt := 141 },
    { startedAt := 210, outcome := .failed, finishedAt := 211 },
    { startedAt := 280, outcome := .failed, finishedAt := 281 }]

def threeAttempts : AsyncIntervalJob where
  name := "news"
  interval := 60
  maxAttempts := some 3

theorem run_fiveTurns : (threeAttempts.run 0 fiveTurns).ended = none :=
  ((run_gives_up threeAttempts 0 (by decide)).1 (by decide)).2

/-! ## Scheduled jobs -/

/-- A job of a name that is taken is refused. -/
def Scheduler.after (scheduler : Scheduler) (job : AsyncIntervalJob) : Scheduler :=
  (scheduler.addIntervalJob job).getD scheduler

/-- The names are distinct, and every job has a limit. -/
structure Scheduler.Limited (scheduler : Scheduler) : Prop where
  names : (scheduler.jobs.map AsyncIntervalJob.name).Nodup
  limits : ∀ job ∈ scheduler.jobs, job.maxAttempts.isSome = true

section Schedulers

variable {scheduler : Scheduler}

theorem limited_after (limited : scheduler.Limited) (job : AsyncIntervalJob) :
    (scheduler.after job).Limited := by
  unfold Scheduler.after Scheduler.addIntervalJob
  split
  · exact limited
  · rename_i free
    have fresh : job.name ∉ scheduler.jobs.map AsyncIntervalJob.name := by
      intro taken
      obtain ⟨other, member, same⟩ := List.mem_map.mp taken
      exact free (List.any_eq_true.mpr ⟨other, member, beq_iff_eq.mpr same⟩)
    constructor
    · rw [Option.getD_some, List.map_append, List.nodup_append]
      refine ⟨limited.names, List.nodup_singleton _, fun name present last added same => ?_⟩
      rw [List.mem_singleton.mp added] at same
      exact fresh (same ▸ present)
    · intro other member
      cases List.mem_append.mp member with
      | inl present => exact limited.limits other present
      | inr added =>
        rw [List.mem_singleton.mp added]
        rfl

/-- Whatever jobs a scheduler is given, their names are distinct, and each of them raises exactly
where the failures in a row reach its limit. -/
theorem scheduled_give_up (empty : scheduler.jobs = []) (jobs : List AsyncIntervalJob) :
    let scheduled := runFrom Scheduler.after scheduler jobs
    (scheduled.jobs.map AsyncIntervalJob.name).Nodup ∧
      ∀ job ∈ scheduled.jobs, ∃ limit : Int, job.maxAttempts = some limit ∧
        ∀ now turns, (∀ turn ∈ turns, turn.outcome ≠ .cancelled) →
          ((job.run now turns).ended = some .raised ↔ ∃ count ≤ turns.length,
            0 < failures (turns.take count) ∧ limit ≤ (failures (turns.take count) : Int)) := by
  intro scheduled
  have start : scheduler.Limited := by
    constructor
    · rw [empty]
      exact List.nodup_nil
    · rw [empty]
      exact fun _ member => absurd member List.not_mem_nil
  have kept : Throughout Scheduler.after Scheduler.Limited scheduler jobs :=
    throughout_of_step (fun _ job limited => limited_after limited job) start
  have limited : scheduled.Limited := kept.final
  refine ⟨limited.names, fun job member => ?_⟩
  obtain ⟨limit, has⟩ := Option.isSome_iff_exists.mp (limited.limits job member)
  refine ⟨limit, has, fun now turns running => ?_⟩
  rw [ended_iff running]
  simp only [givesUp, AsyncIntervalJob.spent, has, Option.any_some, Bool.and_eq_true,
    decide_eq_true_eq]

end Schedulers

/-- A job that is given no limit has the one of the scheduler. -/
theorem scheduled_news :
    ((runFrom Scheduler.after {} [{ name := "news", interval := 60 },
        { name := "news", interval := 30 }]).jobs.map AsyncIntervalJob.name).Nodup :=
  (@scheduled_give_up {} rfl _).1

/-! ## Late turns -/

/-- Whether each turn came late. -/
def latesFrom (job : AsyncIntervalJob) (loop : Loop) : List Turn → List Bool
  | [] => []
  | turn :: rest => job.late loop turn :: latesFrom job (job.pass loop turn) rest

/-- The turns at the end that have all come late. -/
def latesInRow (job : AsyncIntervalJob) (now : Rat) (turns : List Turn) : Nat :=
  ((latesFrom job { nextRun := now } turns).rtakeWhile id).length

section Late

variable {job : AsyncIntervalJob} {loop : Loop} {now : Rat} {turn : Turn} {turns : List Turn}

theorem latesFrom_concat (loop : Loop) (turns : List Turn) (turn : Turn) :
    latesFrom job loop (turns ++ [turn]) =
      latesFrom job loop turns ++ [job.late (runFrom job.pass loop turns) turn] := by
  induction turns generalizing loop with
  | nil => rfl
  | cons first rest ih =>
    rw [List.cons_append, latesFrom, ih, latesFrom, List.cons_append]
    rfl

theorem pass_skipCount (running : turn.outcome ≠ .cancelled)
    (more : (failed turn && job.spent (loop.attempts + 1)) = false) :
    (job.pass loop turn).skipCount = job.skipsAfter loop turn := by
  unfold failed at more
  unfold AsyncIntervalJob.pass
  cases outcome : turn.outcome with
  | cancelled => exact absurd outcome running
  | done => rfl
  | failed =>
    rw [outcome] at more
    have left : job.spent (loop.attempts + 1) = false := more
    simp only [left]
    rfl

theorem latesInRow_concat (turns : List Turn) (turn : Turn) :
    latesInRow job now (turns ++ [turn]) =
      if job.late (runFrom job.pass { nextRun := now } turns) turn
        then latesInRow job now turns + 1 else 0 := by
  rw [latesInRow, latesFrom_concat]
  by_cases late : job.late (runFrom job.pass { nextRun := now } turns) turn = true
  · simp [latesInRow, late]
  · simp [late]

theorem skipCount_runFrom (running : ∀ turn ∈ turns, turn.outcome ≠ .cancelled)
    (more : ∀ count ≤ turns.length, givesUp job (turns.take count) = false) :
    (runFrom job.pass { nextRun := now } turns).skipCount = latesInRow job now turns := by
  induction turns using List.reverseRecOn with
  | nil => rfl
  | append_singleton turns turn ih =>
    have earlier : ∀ other ∈ turns, other.outcome ≠ .cancelled :=
      fun other member => running other (List.mem_append_left _ member)
    have before : ∀ count ≤ turns.length, givesUp job (turns.take count) = false := by
      intro count within
      have shorter := more count (by rw [List.length_append]; omega)
      rwa [List.take_append_of_le_length within] at shorter
    have here := more (turns ++ [turn]).length le_rfl
    rw [List.take_length, givesUp_concat,
      ← (@runFrom_running job now turns earlier before).2] at here
    have passed := pass_skipCount (running turn (List.mem_append_right _ List.mem_cons_self)) here
    rw [latesInRow_concat, ← ih earlier before, runFrom, List.foldl_append]
    exact passed

/-- A pass of a job that goes on reports that too many were skipped exactly where it goes well
and more turns in a row have come late than may be skipped. -/
theorem pass_reports_excess (now : Rat)
    (running : ∀ other ∈ turns ++ [turn], other.outcome ≠ .cancelled)
    (more : ∀ count ≤ (turns ++ [turn]).length, givesUp job ((turns ++ [turn]).take count) =
      false) :
    ∃ added, (job.run now (turns ++ [turn])).metrics = (job.run now turns).metrics ++ added ∧
      (∀ metric ∈ added, metric.startedAt = turn.startedAt ∧
        metric.scheduledAt = (job.run now turns).nextRun) ∧
      (Status.skippedExcess ∈ added.map Metric.status ↔
        turn.outcome = .done ∧ job.maxSkips < latesInRow job now (turns ++ [turn])) := by
  have earlier : ∀ other ∈ turns, other.outcome ≠ .cancelled :=
    fun other member => running other (List.mem_append_left _ member)
  have before : ∀ count ≤ turns.length, givesUp job (turns.take count) = false := by
    intro count within
    have shorter := more count (by rw [List.length_append]; omega)
    rwa [List.take_append_of_le_length within] at shorter
  have here := more (turns ++ [turn]).length le_rfl
  rw [List.take_length, givesUp_concat, ← (@runFrom_running job now turns earlier before).2] at here
  rw [(run_of_more running more).1, (run_of_more earlier before).1, runFrom, List.foldl_append,
    latesInRow_concat, ← skipCount_runFrom earlier before]
  change ∃ added, (job.pass (runFrom job.pass { nextRun := now } turns) turn).metrics = _ ∧ _
  generalize runFrom job.pass { nextRun := now } turns = loop at *
  unfold failed at here
  unfold AsyncIntervalJob.pass
  cases outcome : turn.outcome with
  | cancelled => exact absurd outcome (running turn (List.mem_append_right _ List.mem_cons_self))
  | done =>
    refine ⟨_, rfl, fun metric member => ?_, ?_⟩
    · obtain ⟨status, -, rfl⟩ := List.mem_map.mp member
      exact ⟨rfl, rfl⟩
    · rw [List.map_map]
      simp [AsyncIntervalJob.metric, AsyncIntervalJob.statuses, AsyncIntervalJob.skipsAfter]
  | failed =>
    rw [outcome] at here
    have left : job.spent (loop.attempts + 1) = false := here
    simp only [left]
    refine ⟨_, rfl, fun metric member => ?_, ?_⟩
    · rw [List.mem_singleton.mp member]
      exact ⟨rfl, rfl⟩
    · simp [AsyncIntervalJob.metric]

end Late

def eachSecond : AsyncIntervalJob where
  name := "quotes"
  interval := 1
  jitterRatio := 0

def minuteLate : Turn where
  startedAt := 70
  outcome := .done
  finishedAt := 0

/-- The second turn in a row that is late is one too many. -/
theorem pass_reports_second : ∃ added,
    (eachSecond.run 0 ([minuteLate] ++ [minuteLate])).metrics =
        (eachSecond.run 0 [minuteLate]).metrics ++ added ∧
      Status.skippedExcess ∈ added.map Metric.status := by
  obtain ⟨added, same, -, excess⟩ :=
    @pass_reports_excess eachSecond minuteLate [minuteLate] 0 (by decide) (by decide)
  exact ⟨added, same, excess.mpr ⟨rfl, by decide +kernel⟩⟩

end FxToushi.Core.IntervalJobs
