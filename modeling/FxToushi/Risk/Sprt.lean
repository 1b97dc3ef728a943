import FxToushi.Data.Stopping
import FxToushi.Py.Extended
import Mathlib.Analysis.SpecialFunctions.Log.Basic

namespace FxToushi.Risk

open Data Py

/-! # The sequential probability ratio test

The evaluator adds a step for each outcome until the sum reaches one of two
boundaries, in a state that the machine carries from batch to batch.  The
logarithm is a parameter, of which only its signs are used.
-/

inductive Outcome where
  | bool (value : Bool)
  | int (value : Int)
  | float (value : Extended)
deriving Repr, DecidableEq

/-- `ValueError(f"Unsupported outcome value: {outcome}")`. -/
inductive OutcomeError where
  | unsupported (outcome : Outcome)
deriving Repr, DecidableEq

structure SprtResult (Number : Type*) where
  stop : Bool
  reason : Option String := none
  llr : Number
  samples : Nat

structure SprtState (Number : Type*) [Zero Number] where
  llr : Number := 0
  samples : Nat := 0
  stoppedAt : Option Timestamp := none
  lastReason : Option String := none

structure SprtEvaluator (Number : Type*) [Field Number] where
  alpha : Number := 1 / 20
  beta : Number := 1 / 10
  p0 : Number := 1 / 2
  p1 : Number := 3 / 5

def normalizeOutcome : Outcome → Except OutcomeError Int
  | .bool value => .ok (if value then 1 else 0)
  | .int value =>
    if value = 0 ∨ value = 1 then .ok value else .error (.unsupported (.int value))
  | .float value =>
    if .finite 0 ≤ value ∧ value ≤ .finite 1 then
      .ok (if .finite (1 / 2) ≤ value then 1 else 0)
    else .error (.unsupported (.float value))

section Machine

variable {Number : Type*} [Field Number] [LinearOrder Number] (log : Number → Number)

def logLikelihoodRatio (outcome : Outcome) (p0 p1 : Number) : Except OutcomeError Number :=
  (normalizeOutcome outcome).map fun value =>
    if value = 1 then log (p1 / p0) else log ((1 - p1) / (1 - p0))

namespace SprtEvaluator

variable (evaluator : SprtEvaluator Number)

def logA : Number := log ((1 - evaluator.beta) / evaluator.alpha)

def logB : Number := log (evaluator.beta / (1 - evaluator.alpha))

/-- The state is changed as the outcomes are read, also where one of them raises. -/
def evaluate (current : SprtState Number) :
    List Outcome → SprtState Number × Except OutcomeError (SprtResult Number)
  | [] => (current, .ok { stop := false, llr := current.llr, samples := current.samples })
  | outcome :: rest =>
    match logLikelihoodRatio log outcome evaluator.p0 evaluator.p1 with
    | .error error => (current, .error error)
    | .ok ratio =>
      let counted :=
        { current with llr := current.llr + ratio, samples := current.samples + 1 }
      if evaluator.logA log ≤ counted.llr then
        ({ counted with lastReason := some "accept" },
          .ok { stop := true, reason := some "accept", llr := counted.llr
                samples := counted.samples })
      else if counted.llr ≤ evaluator.logB log then
        ({ counted with lastReason := some "reject" },
          .ok { stop := true, reason := some "reject", llr := counted.llr
                samples := counted.samples })
      else evaluate counted rest

end SprtEvaluator

structure SprtStateMachine (Number : Type*) [Field Number] where
  evaluator : SprtEvaluator Number := {}
  cooldownHours : Int := 24
  state : SprtState Number := {}

namespace SprtStateMachine

variable (machine : SprtStateMachine Number)

def cooldown : Timestamp := Timestamp.fromMinutes (machine.cooldownHours * 60)

def evaluate (outcomes : List Outcome) (utcnow : Timestamp) :
    SprtStateMachine Number × Except OutcomeError (SprtResult Number) :=
  if machine.state.stoppedAt.isSome then
    (machine, .ok {
      stop := true
      reason := some (match machine.state.lastReason with
        | some reason => if reason = "" then "cooldown" else reason
        | none => "cooldown")
      llr := machine.state.llr
      samples := machine.state.samples })
  else
    match machine.evaluator.evaluate log machine.state outcomes with
    | (state, .error error) => ({ machine with state }, .error error)
    | (state, .ok result) =>
      if result.stop then
        ({ machine with
            state := { state with stoppedAt := some utcnow, lastReason := result.reason } },
          .ok result)
      else ({ machine with state }, .ok result)

/-- `now` is an argument that may be left out. -/
def tryResume (now : Option Timestamp) (utcnow : Timestamp) : SprtStateMachine Number × Bool :=
  match machine.state.stoppedAt with
  | none => (machine, true)
  | some stoppedAt =>
    if machine.cooldown ≤ now.getD utcnow - stoppedAt then ({ machine with state := {} }, true)
    else (machine, false)

inductive Call where
  | evaluate (outcomes : List Outcome) (utcnow : Timestamp)
  | tryResume (now : Option Timestamp) (utcnow : Timestamp)

def step (machine : SprtStateMachine Number) : Call → SprtStateMachine Number
  | .evaluate outcomes utcnow => (machine.evaluate log outcomes utcnow).1
  | .tryResume now utcnow => (machine.tryResume now utcnow).1

end SprtStateMachine

end Machine

end FxToushi.Risk

namespace FxToushi.Risk

open Data Py

/-! # Batches of outcomes

A machine that is given its outcomes in batches stops where the sum of their
steps first reaches a boundary, however the batches are cut, and stays as it is
until the cooldown is over.
-/

variable {Number : Type*} [Field Number] [LinearOrder Number]

structure LogSigns (log : Number → Number) : Prop where
  pos : ∀ value, 1 < value → 0 < log value
  neg : ∀ value, 0 < value → value < 1 → log value < 0

def Outcome.Valid (outcome : Outcome) : Prop := ∃ value, normalizeOutcome outcome = .ok value

structure SprtEvaluator.Proper (evaluator : SprtEvaluator Number) : Prop where
  p0_pos : 0 < evaluator.p0
  ordered : evaluator.p0 < evaluator.p1
  p1_lt : evaluator.p1 < 1
  alpha_pos : 0 < evaluator.alpha
  beta_pos : 0 < evaluator.beta
  errors : evaluator.alpha + evaluator.beta < 1

namespace SprtEvaluator

variable (log : Number → Number) (evaluator : SprtEvaluator Number)

def success : Number := log (evaluator.p1 / evaluator.p0)

def setback : Number := log ((1 - evaluator.p1) / (1 - evaluator.p0))

/-- The step of an outcome that is valid. -/
def ratioOf (outcome : Outcome) : Number :=
  match normalizeOutcome outcome with
  | .ok 1 => evaluator.success log
  | _ => evaluator.setback log

def Reaches (llr : Number) : Prop := evaluator.logA log ≤ llr ∨ llr ≤ evaluator.logB log

def prefixSum (outcomes : List Outcome) (count : Nat) : Number :=
  ((outcomes.take count).map (evaluator.ratioOf log)).sum

/-- The sum reaches a boundary after so many outcomes, and not before. -/
structure FirstReached (outcomes : List Outcome) (count : Nat) : Prop where
  within : count ≤ outcomes.length
  reaches : evaluator.Reaches log (evaluator.prefixSum log outcomes count)
  first : ∀ fewer < count, ¬ evaluator.Reaches log (evaluator.prefixSum log outcomes fewer)

/-- What the result for all the outcomes should be. -/
structure Settles (outcomes : List Outcome) (result : SprtResult Number) : Prop where
  stopped : ∀ count, evaluator.FirstReached log outcomes count →
    result = {
      stop := true
      reason := some (if evaluator.logA log ≤ evaluator.prefixSum log outcomes count then "accept"
        else "reject")
      llr := evaluator.prefixSum log outcomes count
      samples := count }
  running : (∀ count ≤ outcomes.length,
      ¬ evaluator.Reaches log (evaluator.prefixSum log outcomes count)) →
    result = {
      stop := false
      llr := evaluator.prefixSum log outcomes outcomes.length
      samples := outcomes.length }

end SprtEvaluator

/-! ## Tallies -/

/-- The part of a state that does not depend on the clock. -/
structure Tally (Number : Type*) where
  llr : Number
  samples : Nat
  reason : Option String

namespace Tally

def stopped (tally : Tally Number) : Bool := tally.reason.isSome

def result (tally : Tally Number) : SprtResult Number where
  stop := tally.reason.isSome
  reason := tally.reason
  llr := tally.llr
  samples := tally.samples

end Tally

def SprtState.tally (state : SprtState Number) : Tally Number where
  llr := state.llr
  samples := state.samples
  reason := state.lastReason

namespace SprtEvaluator

variable (log : Number → Number) (evaluator : SprtEvaluator Number)

def reasonAt (llr : Number) : Option String :=
  if evaluator.logA log ≤ llr then some "accept"
  else if llr ≤ evaluator.logB log then some "reject"
  else none

def tallyAt (llr : Number) (samples : Nat) : Tally Number where
  llr
  samples
  reason := evaluator.reasonAt log llr

def count (tally : Tally Number) (outcome : Outcome) : Tally Number :=
  evaluator.tallyAt log (tally.llr + evaluator.ratioOf log outcome) (tally.samples + 1)

variable {log evaluator}

theorem reasonAt_isSome {llr : Number} :
    (evaluator.reasonAt log llr).isSome = true ↔ evaluator.Reaches log llr := by
  unfold reasonAt Reaches
  split
  · simp_all
  · split <;> simp_all

theorem reasonAt_ne_empty (llr : Number) : evaluator.reasonAt log llr ≠ some "" := by
  unfold reasonAt
  split
  · decide
  · split <;> simp

omit [LinearOrder Number] in
theorem ratio_of_valid {outcome : Outcome} (valid : outcome.Valid) :
    logLikelihoodRatio log outcome evaluator.p0 evaluator.p1 =
      .ok (evaluator.ratioOf log outcome) := by
  obtain ⟨value, normal⟩ := valid
  rw [logLikelihoodRatio, ratioOf, normal]
  by_cases one : value = 1
  · rw [one]
    rfl
  · simp only [Except.map, if_neg one]
    split
    · rename_i same
      exact absurd (Except.ok.inj same) one
    · rfl

theorem runFrom_count (llr : Number) (samples : Nat) (outcomes : List Outcome) :
    runFrom (evaluator.count log) (evaluator.tallyAt log llr samples) outcomes =
      evaluator.tallyAt log (llr + (outcomes.map (evaluator.ratioOf log)).sum)
        (samples + outcomes.length) := by
  induction outcomes generalizing llr samples with
  | nil => simp [runFrom]
  | cons outcome rest ih =>
    have later := ih (llr + evaluator.ratioOf log outcome) (samples + 1)
    rw [List.map_cons, List.sum_cons, List.length_cons, ← add_assoc, Nat.add_comm rest.length,
      ← Nat.add_assoc]
    exact later

/-- The evaluator tallies the outcomes until it stops. -/
theorem evaluate_eq {current : SprtState Number} {outcomes : List Outcome}
    (running : current.lastReason = none) (valid : ∀ outcome ∈ outcomes, outcome.Valid) :
    evaluator.evaluate log current outcomes =
      let tally := foldUntil Tally.stopped (evaluator.count log) current.tally outcomes
      ({ current with llr := tally.llr, samples := tally.samples, lastReason := tally.reason },
        .ok tally.result) := by
  induction outcomes generalizing current with
  | nil =>
    obtain ⟨llr, samples, stoppedAt, lastReason⟩ := current
    subst running
    rfl
  | cons outcome rest ih =>
    obtain ⟨first, later⟩ := List.forall_mem_cons.mp valid
    have unstopped : Tally.stopped current.tally = false := by
      rw [Tally.stopped, SprtState.tally, running]
      rfl
    rw [foldUntil, if_neg (by simp [unstopped]), evaluate, ratio_of_valid first]
    dsimp only
    by_cases accepted : evaluator.logA log ≤ current.llr + evaluator.ratioOf log outcome
    · have reason : (evaluator.count log current.tally outcome).reason = some "accept" :=
        if_pos accepted
      rw [if_pos accepted, foldUntil_of_stopped (by rw [Tally.stopped, reason]; rfl), reason,
        Tally.result, reason]
      rfl
    · rw [if_neg accepted]
      by_cases rejected : current.llr + evaluator.ratioOf log outcome ≤ evaluator.logB log
      · have reason : (evaluator.count log current.tally outcome).reason = some "reject" :=
          (if_neg accepted).trans (if_pos rejected)
        rw [if_pos rejected, foldUntil_of_stopped (by rw [Tally.stopped, reason]; rfl), reason,
          Tally.result, reason]
        rfl
      · have reason : (evaluator.count log current.tally outcome).reason = none :=
          (if_neg accepted).trans (if_neg rejected)
        have counted := @ih
          { current with
            llr := current.llr + evaluator.ratioOf log outcome
            samples := current.samples + 1 } running later
        have same : SprtState.tally
            { current with
              llr := current.llr + evaluator.ratioOf log outcome
              samples := current.samples + 1 } = evaluator.count log current.tally outcome :=
          congrArg (Tally.mk _ _) (running.trans reason.symm)
        rw [same] at counted
        rw [if_neg rejected]
        exact counted

theorem evaluate_stoppedAt (current : SprtState Number) (outcomes : List Outcome) :
    (evaluator.evaluate log current outcomes).1.stoppedAt = current.stoppedAt := by
  induction outcomes generalizing current with
  | nil => rfl
  | cons outcome rest ih =>
    rw [evaluate]
    split
    · rfl
    · dsimp only
      split
      · rfl
      · split
        · rfl
        · exact ih _

end SprtEvaluator

/-! ## The machine -/

namespace SprtStateMachine

variable (log : Number → Number)

/-- Between two calls a state has a reason exactly when it is stopped. -/
structure Settled (state : SprtState Number) : Prop where
  marked : state.stoppedAt.isSome = state.lastReason.isSome
  named : state.lastReason ≠ some ""

/-- What a call does to a machine whose outcomes are valid. -/
structure Answers (machine : SprtStateMachine Number)
    (outcomes : List Outcome) (next : SprtStateMachine Number)
    (answer : Except OutcomeError (SprtResult Number)) : Prop where
  evaluator : next.evaluator = machine.evaluator
  cooldown : next.cooldown = machine.cooldown
  tally : next.state.tally =
    foldUntil Tally.stopped (machine.evaluator.count log) machine.state.tally outcomes
  result : answer = .ok next.state.tally.result
  settled : Settled next.state

theorem foldUntil_reason_ne_empty (evaluator : SprtEvaluator Number) {tally : Tally Number}
    (named : tally.reason ≠ some "") (outcomes : List Outcome) :
    (foldUntil Tally.stopped (evaluator.count log) tally outcomes).reason ≠ some "" := by
  induction outcomes generalizing tally with
  | nil => exact named
  | cons outcome rest ih =>
    rw [foldUntil]
    split
    · exact named
    · exact ih (SprtEvaluator.reasonAt_ne_empty _)

theorem evaluate_answers {machine : SprtStateMachine Number} (settled : Settled machine.state)
    {outcomes : List Outcome} (valid : ∀ outcome ∈ outcomes, outcome.Valid)
    (utcnow : Timestamp) :
    Answers log machine outcomes (machine.evaluate log outcomes utcnow).1
      (machine.evaluate log outcomes utcnow).2 := by
  cases stopped : machine.state.stoppedAt with
  | some moment =>
    have reasoned : machine.state.lastReason.isSome = true := by
      rw [← settled.marked, stopped]
      rfl
    obtain ⟨reason, known⟩ := Option.isSome_iff_exists.mp reasoned
    have named : reason ≠ "" := fun empty => settled.named (by rw [known, empty])
    have kept : machine.evaluate log outcomes utcnow =
        (machine, .ok machine.state.tally.result) := by
      simp only [evaluate, stopped, Option.isSome_some, if_true, known, if_neg named]
      rw [Tally.result, SprtState.tally, known]
      rfl
    rw [kept]
    have halted : machine.state.tally.stopped = true := reasoned
    exact ⟨rfl, rfl, (foldUntil_of_stopped halted).symm, rfl, settled⟩
  | none =>
    have running : machine.state.lastReason = none := by
      have marked := settled.marked
      rw [stopped] at marked
      exact Option.isNone_iff_eq_none.mp (Option.isSome_eq_false_iff.mp marked.symm)
    have unnamed : machine.state.tally.reason ≠ some "" := settled.named
    have named := foldUntil_reason_ne_empty log machine.evaluator unnamed outcomes
    simp only [evaluate, stopped, Option.isSome_none, Bool.false_eq_true, if_false,
      SprtEvaluator.evaluate_eq running valid]
    generalize counted : foldUntil Tally.stopped (machine.evaluator.count log)
      machine.state.tally outcomes = tally at named
    obtain ⟨llr, samples, reason⟩ := tally
    cases reason with
    | none => exact ⟨rfl, rfl, counted.symm, rfl, ⟨rfl, named⟩⟩
    | some reason => exact ⟨rfl, rfl, counted.symm, rfl, ⟨rfl, named⟩⟩

/-- A batch with the time of its call. -/
abbrev Batch := Timestamp × List Outcome

/-- The machine after the batches and the answer to the last of them. -/
def evaluateAll (machine : SprtStateMachine Number)
    (batches : List Batch) :
    SprtStateMachine Number × Option (Except OutcomeError (SprtResult Number)) :=
  batches.foldl (fun run batch =>
    let answered := run.1.evaluate log batch.2 batch.1
    (answered.1, some answered.2)) (machine, none)

def outcomesOf (batches : List Batch) : List Outcome := (batches.map Prod.snd).flatten

theorem evaluateAll_append {machine : SprtStateMachine Number} {batches : List Batch}
    {batch : Batch} :
    evaluateAll log machine (batches ++ [batch]) =
      let answered := (evaluateAll log machine batches).1.evaluate log batch.2 batch.1
      (answered.1, some answered.2) := by
  rw [evaluateAll, List.foldl_append]
  rfl

theorem outcomesOf_append {batches : List Batch} {batch : Batch} :
    outcomesOf (batches ++ [batch]) = outcomesOf batches ++ batch.2 := by
  simp [outcomesOf]

/-- The tally after some batches is that of their outcomes in one list. -/
theorem evaluateAll_answers {machine : SprtStateMachine Number} (settled : Settled machine.state)
    {batches : List Batch} (valid : ∀ outcome ∈ outcomesOf batches, outcome.Valid) :
    (evaluateAll log machine batches).1.evaluator = machine.evaluator ∧
      (evaluateAll log machine batches).1.cooldown = machine.cooldown ∧
      (evaluateAll log machine batches).1.state.tally =
        foldUntil Tally.stopped (machine.evaluator.count log) machine.state.tally
          (outcomesOf batches) ∧
      Settled (evaluateAll log machine batches).1.state ∧
      (batches ≠ [] → (evaluateAll log machine batches).2 =
        some (.ok (evaluateAll log machine batches).1.state.tally.result)) := by
  induction batches using List.reverseRecOn with
  | nil => exact ⟨rfl, rfl, rfl, settled, fun nonempty => absurd rfl nonempty⟩
  | append_singleton batches batch ih =>
    rw [outcomesOf_append, List.forall_mem_append] at valid
    obtain ⟨evaluator, cooldown, tally, between, -⟩ := ih valid.1
    have answers := evaluate_answers log between valid.2 batch.1
    rw [evaluateAll_append, outcomesOf_append, foldUntil_append, ← tally, ← evaluator,
      ← cooldown]
    exact ⟨answers.evaluator, answers.cooldown, answers.tally, answers.settled,
      fun _ => congrArg some answers.result⟩

/-! ## Until the cooldown is over -/

variable {log}

theorem evaluate_of_stopped {machine : SprtStateMachine Number} {stoppedAt : Timestamp}
    (stopped : machine.state.stoppedAt = some stoppedAt) (outcomes : List Outcome)
    (utcnow : Timestamp) : (machine.evaluate log outcomes utcnow).1 = machine := by
  rw [evaluate, stopped]
  rfl

theorem evaluate_of_running {machine : SprtStateMachine Number}
    (running : machine.state.stoppedAt = none) (outcomes : List Outcome) (utcnow : Timestamp) :
    (machine.evaluate log outcomes utcnow).1.state.stoppedAt = none ∨
      (machine.evaluate log outcomes utcnow).1.state.stoppedAt = some utcnow := by
  have kept : (machine.evaluator.evaluate log machine.state outcomes).1.stoppedAt =
      machine.state.stoppedAt := SprtEvaluator.evaluate_stoppedAt _ _
  rw [running] at kept
  simp only [evaluate, running, Option.isSome_none, Bool.false_eq_true, if_false]
  split
  · rename_i ran
    rw [ran] at kept
    exact .inl kept
  · rename_i ran
    rw [ran] at kept
    split
    · exact .inr rfl
    · exact .inl kept

/-- The call of the batch stopped the machine, at its time. -/
structure StoppedBy (log : Number → Number) (machine : SprtStateMachine Number)
    (earlier : List Batch) (batch : Batch) : Prop where
  running : (evaluateAll log machine earlier).1.state.stoppedAt = none
  stopped : (evaluateAll log machine (earlier ++ [batch])).1.state.stoppedAt = some batch.1

theorem exists_stoppedBy {machine : SprtStateMachine Number}
    (fresh : machine.state.stoppedAt = none) {batches : List Batch} {stoppedAt : Timestamp}
    (stopped : (evaluateAll log machine batches).1.state.stoppedAt = some stoppedAt) :
    ∃ earlier batch later, batches = earlier ++ batch :: later ∧ batch.1 = stoppedAt ∧
      StoppedBy log machine earlier batch := by
  induction batches using List.reverseRecOn with
  | nil => exact nomatch fresh.symm.trans stopped
  | append_singleton batches batch ih =>
    have appended : (evaluateAll log machine (batches ++ [batch])).1 =
        ((evaluateAll log machine batches).1.evaluate log batch.2 batch.1).1 :=
      congrArg Prod.fst (evaluateAll_append log)
    cases before : (evaluateAll log machine batches).1.state.stoppedAt with
    | some moment =>
      rw [appended, evaluate_of_stopped before] at stopped
      obtain ⟨earlier, first, later, rfl, time, cause⟩ := ih stopped
      exact ⟨earlier, first, later ++ [batch], by simp, time, cause⟩
    | none =>
      rw [appended] at stopped
      obtain running | halted := evaluate_of_running before batch.2 batch.1
      · exact nomatch running.symm.trans stopped
      · refine ⟨batches, batch, [], rfl, Option.some.inj (halted.symm.trans stopped), before, ?_⟩
        rw [appended]
        exact halted

/-- The call does not try to resume at or after the given time. -/
def Call.Before (limit : Timestamp) : Call → Prop
  | .evaluate _ _ => True
  | .tryResume now utcnow => now.getD utcnow < limit

omit [LinearOrder Number] in
theorem tryResume_of_before {machine : SprtStateMachine Number} {stoppedAt : Timestamp}
    (stopped : machine.state.stoppedAt = some stoppedAt) {now : Option Timestamp}
    {utcnow : Timestamp} (before : now.getD utcnow < stoppedAt + machine.cooldown) :
    machine.tryResume now utcnow = (machine, false) := by
  rw [tryResume, stopped]
  exact if_neg (not_le.mpr (sub_lt_iff_lt_add'.mpr before))

theorem step_of_stopped {machine : SprtStateMachine Number} {stoppedAt : Timestamp}
    (stopped : machine.state.stoppedAt = some stoppedAt) {call : Call}
    (before : call.Before (stoppedAt + machine.cooldown)) : machine.step log call = machine := by
  cases call with
  | evaluate outcomes utcnow => exact evaluate_of_stopped stopped outcomes utcnow
  | tryResume now utcnow => rw [step, tryResume_of_before stopped before]

theorem throughout_of_stopped {machine : SprtStateMachine Number} {stoppedAt : Timestamp}
    (stopped : machine.state.stoppedAt = some stoppedAt) {calls : List Call}
    (before : ∀ call ∈ calls, call.Before (stoppedAt + machine.cooldown)) :
    Throughout (step log) (· = machine) machine calls := by
  refine throughout_of_eachStep ?_ rfl (eachStep_of_mem before)
  rintro _ call rfl early
  exact step_of_stopped stopped early

end SprtStateMachine

/-! ## One result for every cut -/

section Sequential

variable {log : Number → Number} {evaluator : SprtEvaluator Number}

namespace SprtEvaluator

theorem runFrom_take (outcomes : List Outcome) {count : Nat} (within : count ≤ outcomes.length) :
    runFrom (evaluator.count log) (evaluator.tallyAt log 0 0) (outcomes.take count) =
      evaluator.tallyAt log (evaluator.prefixSum log outcomes count) count := by
  rw [runFrom_count, zero_add, Nat.zero_add, List.length_take_of_le within]
  rfl

theorem stopped_take_iff (outcomes : List Outcome) {count : Nat}
    (within : count ≤ outcomes.length) :
    Tally.stopped (runFrom (evaluator.count log) (evaluator.tallyAt log 0 0)
        (outcomes.take count)) = true ↔
      evaluator.Reaches log (evaluator.prefixSum log outcomes count) := by
  rw [runFrom_take outcomes within]
  exact reasonAt_isSome

/-- The tally of all the outcomes tells what it should. -/
theorem settles_tally (outcomes : List Outcome) :
    evaluator.Settles log outcomes
      (foldUntil Tally.stopped (evaluator.count log) (evaluator.tallyAt log 0 0)
        outcomes).result := by
  constructor
  · intro count reached
    have stops : StopsAt Tally.stopped (evaluator.count log) (evaluator.tallyAt log 0 0)
        outcomes count := {
      within := reached.within
      stops := (stopped_take_iff outcomes reached.within).mpr reached.reaches
      first := fun fewer less => by
        have within : fewer ≤ outcomes.length := less.le.trans reached.within
        rw [← Bool.not_eq_true, stopped_take_iff outcomes within]
        exact reached.first fewer less }
    have reason : evaluator.reasonAt log (evaluator.prefixSum log outcomes count) =
        some (if evaluator.logA log ≤ evaluator.prefixSum log outcomes count then "accept"
          else "reject") := by
      unfold reasonAt
      split
      · rfl
      · rename_i below
        rw [if_pos (reached.reaches.resolve_left below)]
    rw [foldUntil_of_stopsAt stops, runFrom_take outcomes reached.within, Tally.result, tallyAt,
      reason]
    rfl
  · intro never
    have running : ∀ count ≤ outcomes.length, Tally.stopped (runFrom (evaluator.count log)
        (evaluator.tallyAt log 0 0) (outcomes.take count)) = false := by
      intro count within
      rw [← Bool.not_eq_true, stopped_take_iff outcomes within]
      exact never count within
    have whole := @runFrom_take _ _ _ log evaluator outcomes _ le_rfl
    have reason : evaluator.reasonAt log (evaluator.prefixSum log outcomes outcomes.length) =
        none := by
      rw [← Option.not_isSome_iff_eq_none, reasonAt_isSome]
      exact never outcomes.length le_rfl
    rw [List.take_length] at whole
    rw [foldUntil_of_running running, whole, Tally.result, tallyAt, reason]
    rfl

variable [IsStrictOrderedRing Number]

theorem not_reaches_zero (signs : LogSigns log) (proper : evaluator.Proper) :
    ¬ evaluator.Reaches log 0 := by
  have errors := proper.errors
  have upper : 0 < evaluator.logA log := by
    refine signs.pos _ ((one_lt_div proper.alpha_pos).mpr ?_)
    linarith
  have lower : evaluator.logB log < 0 := by
    have room : 0 < 1 - evaluator.alpha := by linarith [proper.beta_pos]
    refine signs.neg _ (div_pos proper.beta_pos room) ((div_lt_one room).mpr ?_)
    linarith
  rintro (above | below)
  · exact absurd above (not_le.mpr upper)
  · exact absurd below (not_le.mpr lower)

end SprtEvaluator

namespace SprtStateMachine

/-- The outcomes of the batches came to the result, and what that leaves of the machine. -/
structure Concludes (log : Number → Number) (machine : SprtStateMachine Number)
    (batches : List Batch) (result : SprtResult Number) : Prop where
  answer : (evaluateAll log machine batches).2 = some (.ok result)
  stopped : (evaluateAll log machine batches).1.state.stoppedAt.isSome = result.stop
  since : ∀ stoppedAt, (evaluateAll log machine batches).1.state.stoppedAt = some stoppedAt →
    ∃ earlier batch later, batches = earlier ++ batch :: later ∧ batch.1 = stoppedAt ∧
      StoppedBy log machine earlier batch
  waits : ∀ stoppedAt, (evaluateAll log machine batches).1.state.stoppedAt = some stoppedAt →
    ∀ calls : List Call, (∀ call ∈ calls, call.Before (stoppedAt + machine.cooldown)) →
      Throughout (step log) (· = (evaluateAll log machine batches).1)
        (evaluateAll log machine batches).1 calls
  resumes : ∀ stoppedAt, (evaluateAll log machine batches).1.state.stoppedAt = some stoppedAt →
    ∀ now utcnow, ((evaluateAll log machine batches).1.tryResume now utcnow).2 = true →
      stoppedAt + machine.cooldown ≤ now.getD utcnow

end SprtStateMachine

variable [IsStrictOrderedRing Number]

/-- However the outcomes are cut into batches, the last answer is the one that the first
sum at a boundary settles, and a stopped machine stays as it is until its cooldown is over. -/
theorem sprt_sequential (signs : LogSigns log) (proper : evaluator.Proper) (cooldownHours : Int)
    {outcomes : List Outcome} (valid : ∀ outcome ∈ outcomes, outcome.Valid) :
    ∃ result, evaluator.Settles log outcomes result ∧
      ∀ batches, batches ≠ [] → SprtStateMachine.outcomesOf batches = outcomes →
        SprtStateMachine.Concludes log { evaluator, cooldownHours } batches result := by
  have fresh : ({} : SprtState Number).tally = evaluator.tallyAt log 0 0 := by
    have none : evaluator.reasonAt log 0 = none := by
      rw [← Option.not_isSome_iff_eq_none, SprtEvaluator.reasonAt_isSome]
      exact SprtEvaluator.not_reaches_zero signs proper
    rw [SprtEvaluator.tallyAt, none]
    rfl
  have start : SprtStateMachine.Settled
      ({ evaluator, cooldownHours } : SprtStateMachine Number).state := ⟨rfl, nofun⟩
  refine ⟨_, SprtEvaluator.settles_tally outcomes, fun batches nonempty same => ?_⟩
  subst same
  obtain ⟨-, cooldown, tally, settled, answered⟩ :=
    SprtStateMachine.evaluateAll_answers log start valid
  rw [fresh] at tally
  constructor
  · rw [answered nonempty, tally]
  · rw [settled.marked, ← tally]
    rfl
  · exact fun stoppedAt stopped => SprtStateMachine.exists_stoppedBy rfl stopped
  · rw [← cooldown]
    exact fun stoppedAt stopped calls before =>
      SprtStateMachine.throughout_of_stopped stopped before
  · rw [← cooldown]
    intro stoppedAt stopped now utcnow resumed
    by_contra early
    rw [SprtStateMachine.tryResume_of_before stopped (not_le.mp early)] at resumed
    cases resumed

/-- Two wins are enough. -/
noncomputable def steepEvaluator : SprtEvaluator ℝ where
  p0 := 1 / 10
  p1 := 9 / 10

def sampleOutcomes : List Outcome := [.bool true, .float (.finite (1 / 2)), .int 0]

theorem valid_sampleOutcomes : ∀ outcome ∈ sampleOutcomes, outcome.Valid := by
  intro outcome member
  fin_cases member
  · exact ⟨1, rfl⟩
  · exact ⟨1, by rw [normalizeOutcome, if_pos (by decide +kernel), if_pos (by decide +kernel)]⟩
  · exact ⟨0, rfl⟩

theorem firstReached_sample : steepEvaluator.FirstReached Real.log sampleOutcomes 2 := by
  have ratio : Real.log (steepEvaluator.p1 / steepEvaluator.p0) = Real.log 9 := by
    norm_num [steepEvaluator]
  have win : steepEvaluator.ratioOf Real.log (.bool true) = Real.log 9 := ratio
  have half : steepEvaluator.ratioOf Real.log (.float (.finite (1 / 2))) = Real.log 9 := by
    rw [SprtEvaluator.ratioOf, normalizeOutcome, if_pos (by decide +kernel),
      if_pos (by decide +kernel)]
    exact ratio
  have upper : steepEvaluator.logA Real.log = Real.log 18 := by
    norm_num [SprtEvaluator.logA, steepEvaluator]
  have lower : steepEvaluator.logB Real.log < 0 := by
    refine Real.log_neg ?_ ?_ <;> norm_num [steepEvaluator]
  have positive : 0 < Real.log 9 := Real.log_pos (by norm_num)
  have below : Real.log 9 < Real.log 18 := Real.log_lt_log (by norm_num) (by norm_num)
  refine ⟨by decide, .inl ?_, fun fewer few => ?_⟩
  · have both : Real.log 18 ≤ Real.log 9 + Real.log 9 := by
      rw [← Real.log_mul (by norm_num) (by norm_num)]
      exact Real.log_le_log (by norm_num) (by norm_num)
    simp only [SprtEvaluator.prefixSum, sampleOutcomes, List.take_succ_cons, List.take_zero,
      List.map_cons, List.map_nil, List.sum_cons, List.sum_nil, win, half, upper, add_zero]
    exact both
  · rw [SprtEvaluator.Reaches, upper]
    obtain rfl | rfl : fewer = 0 ∨ fewer = 1 := by omega
    · simp only [SprtEvaluator.prefixSum, List.take_zero, List.map_nil, List.sum_nil]
      rintro (above | under) <;> linarith
    · simp only [SprtEvaluator.prefixSum, sampleOutcomes, List.take_succ_cons, List.take_zero,
        List.map_cons, List.map_nil, List.sum_cons, List.sum_nil, win, add_zero]
      rintro (above | under) <;> linarith

/-- However the outcomes are cut, the machine has stopped after the second. -/
theorem sprt_sequential_sample : ∃ result : SprtResult ℝ, result.stop = true ∧ result.samples = 2 ∧
    ∀ batches, batches ≠ [] → SprtStateMachine.outcomesOf batches = sampleOutcomes →
      SprtStateMachine.Concludes Real.log { evaluator := steepEvaluator } batches result := by
  have proper : steepEvaluator.Proper := by
    constructor <;> norm_num [steepEvaluator]
  obtain ⟨result, settles, concludes⟩ := sprt_sequential
    ⟨fun _ => Real.log_pos, fun _ => Real.log_neg⟩ proper 24 valid_sampleOutcomes
  have settled := settles.stopped 2 firstReached_sample
  exact ⟨result, by rw [settled], by rw [settled], concludes⟩

end Sequential

end FxToushi.Risk

namespace FxToushi.Risk

open Data Py

/-! # Batches with an unsupported outcome

The outcomes before the one that raises have been counted by then.
-/

variable {Number : Type*} [Field Number] [LinearOrder Number] {log : Number → Number}

theorem normalizeOutcome_of_not_valid {outcome : Outcome} (bad : ¬ outcome.Valid) :
    normalizeOutcome outcome = .error (.unsupported outcome) := by
  cases normal : normalizeOutcome outcome with
  | ok value => exact absurd ⟨value, normal⟩ bad
  | error error =>
    cases outcome with
    | bool value => cases normal
    | int value =>
      rw [normalizeOutcome] at normal
      split at normal
      · cases normal
      · exact normal.symm
    | float value =>
      rw [normalizeOutcome] at normal
      split at normal
      · cases normal
      · exact normal.symm

namespace SprtEvaluator

variable {evaluator : SprtEvaluator Number}

omit [LinearOrder Number] in
theorem prefixSum_cons (outcome : Outcome) (rest : List Outcome) (count : Nat) :
    evaluator.prefixSum log (outcome :: rest) (count + 1) =
      evaluator.ratioOf log outcome + evaluator.prefixSum log rest count := by
  rw [prefixSum, prefixSum, List.take_succ_cons, List.map_cons, List.sum_cons]

/-- From the sum so far on the outcomes reach no boundary. -/
def StaysInside (log : Number → Number) (evaluator : SprtEvaluator Number) (llr : Number)
    (outcomes : List Outcome) : Prop :=
  ∀ count < outcomes.length,
    ¬ evaluator.Reaches log (llr + evaluator.prefixSum log outcomes (count + 1))

theorem StaysInside.cons {llr : Number} {outcome : Outcome} {rest : List Outcome}
    (inside : StaysInside log evaluator llr (outcome :: rest)) :
    ¬ evaluator.Reaches log (llr + evaluator.ratioOf log outcome) ∧
      StaysInside log evaluator (llr + evaluator.ratioOf log outcome) rest := by
  constructor
  · have first := inside 0 (Nat.zero_lt_succ _)
    rw [prefixSum_cons, prefixSum, List.take_zero, List.map_nil, List.sum_nil, add_zero] at first
    exact first
  · intro count within
    have later := inside (count + 1) (Nat.succ_lt_succ within)
    rw [prefixSum_cons, ← add_assoc] at later
    exact later

/-- Where an outcome raises, those before it stay counted. -/
theorem evaluate_rejected {current : SprtState Number} {before after : List Outcome}
    {bad : Outcome} (valid : ∀ outcome ∈ before, outcome.Valid) (unsupported : ¬ bad.Valid)
    (inside : StaysInside log evaluator current.llr before) :
    evaluator.evaluate log current (before ++ bad :: after) =
      ({ current with
          llr := current.llr + (before.map (evaluator.ratioOf log)).sum
          samples := current.samples + before.length }, .error (.unsupported bad)) := by
  induction before generalizing current with
  | nil =>
    rw [List.nil_append, evaluate, logLikelihoodRatio, normalizeOutcome_of_not_valid unsupported]
    simp [Except.map]
  | cons outcome rest ih =>
    obtain ⟨first, later⟩ := List.forall_mem_cons.mp valid
    obtain ⟨away, insideLater⟩ := inside.cons
    obtain ⟨notAbove, notBelow⟩ := not_or.mp away
    rw [List.cons_append, evaluate, ratio_of_valid first]
    dsimp only
    rw [if_neg notAbove, if_neg notBelow, ih later insideLater]
    simp only [List.map_cons, List.sum_cons, List.length_cons, add_assoc, Nat.add_comm rest.length]

end SprtEvaluator

namespace SprtStateMachine

/-- The batch raises, the sum and the count stay as they were, and a corrected batch is
evaluated as if the failed one had not been given. -/
structure RejectedWithoutEffect (log : Number → Number) (machine : SprtStateMachine Number)
    (outcomes : List Outcome) (utcnow : Timestamp) : Prop where
  raises : ∃ bad ∈ outcomes,
    (machine.evaluate log outcomes utcnow).2 = .error (.unsupported bad)
  llr : (machine.evaluate log outcomes utcnow).1.state.llr = machine.state.llr
  samples : (machine.evaluate log outcomes utcnow).1.state.samples = machine.state.samples
  resubmitted : ∀ corrected later,
    (machine.evaluate log outcomes utcnow).1.evaluate log corrected later =
      machine.evaluate log corrected later

section Raised

variable {machine : SprtStateMachine Number} {before after : List Outcome} {bad : Outcome}

theorem evaluate_raised (running : machine.state.stoppedAt = none)
    (valid : ∀ outcome ∈ before, outcome.Valid) (unsupported : ¬ bad.Valid)
    (inside : machine.evaluator.StaysInside log machine.state.llr before) (utcnow : Timestamp) :
    machine.evaluate log (before ++ bad :: after) utcnow =
      ({ machine with state := { machine.state with
          llr := machine.state.llr + (before.map (machine.evaluator.ratioOf log)).sum
          samples := machine.state.samples + before.length } }, .error (.unsupported bad)) := by
  rw [evaluate, running, SprtEvaluator.evaluate_rejected valid unsupported inside]
  rfl

/-- A batch that raises has no effect exactly when its first outcome does. -/
theorem rejectedWithoutEffect_iff (running : machine.state.stoppedAt = none)
    (valid : ∀ outcome ∈ before, outcome.Valid) (unsupported : ¬ bad.Valid)
    (inside : machine.evaluator.StaysInside log machine.state.llr before) (utcnow : Timestamp) :
    machine.RejectedWithoutEffect log (before ++ bad :: after) utcnow ↔ before = [] := by
  constructor
  · intro unaffected
    have samples := unaffected.samples
    rw [evaluate_raised running valid unsupported inside] at samples
    exact List.length_eq_zero_iff.mp (Nat.add_left_cancel samples)
  · intro first
    subst first
    have same : machine.evaluate log ([] ++ bad :: after) utcnow =
        (machine, .error (.unsupported bad)) := by
      rw [evaluate_raised running valid unsupported inside]
      simp
    refine ⟨⟨bad, List.mem_cons_self, ?_⟩, ?_, ?_, ?_⟩
    · rw [same]
    · rw [same]
    · rw [same]
    · intro corrected later
      rw [same]

end Raised

theorem not_valid_two : ¬ (Outcome.int 2).Valid := by
  intro valid
  obtain ⟨value, normal⟩ := valid
  cases normal

/-- Where the two is the first of the outcomes, all are counted once when it is corrected. -/
theorem rejectedWithoutEffect_first :
    RejectedWithoutEffect Real.log {} ([] ++ .int 2 :: [.bool true]) 0 := by
  refine (rejectedWithoutEffect_iff rfl ?_ not_valid_two ?_ 0).mpr rfl
  · simp
  · intro count within
    exact absurd within (Nat.not_lt_zero count)

theorem win_inside : ({} : SprtEvaluator ℝ).StaysInside Real.log 0 [.bool true] := by
  intro count within
  obtain rfl : count = 0 := Nat.lt_one_iff.mp within
  have win : ({} : SprtEvaluator ℝ).prefixSum Real.log [.bool true] (0 + 1) =
      Real.log (3 / 5 / (1 / 2)) := by
    rw [SprtEvaluator.prefixSum_cons, SprtEvaluator.prefixSum]
    simp [SprtEvaluator.ratioOf, normalizeOutcome, SprtEvaluator.success]
  have upper : Real.log (3 / 5 / (1 / 2)) < Real.log ((1 - 1 / 10) / (1 / 20)) :=
    Real.log_lt_log (by norm_num) (by norm_num)
  have lower : Real.log (1 / 10 / (1 - 1 / 20)) < Real.log (3 / 5 / (1 / 2)) :=
    Real.log_lt_log (by norm_num) (by norm_num)
  rw [win, zero_add]
  exact not_or.mpr ⟨not_le.mpr upper, not_le.mpr lower⟩

/-- A win has been counted when the two raises, though no boundary has been reached. -/
theorem win_counted_before_two :
    ({} : SprtEvaluator ℝ).StaysInside Real.log 0 [.bool true] ∧
      ¬ RejectedWithoutEffect Real.log {} ([.bool true] ++ .int 2 :: []) 0 := by
  refine ⟨win_inside, fun unaffected => ?_⟩
  have samples := unaffected.samples
  rw [evaluate_raised rfl ?_ not_valid_two win_inside] at samples
  · cases samples
  · intro outcome member
    obtain rfl := List.mem_singleton.mp member
    exact ⟨1, rfl⟩

end SprtStateMachine

end FxToushi.Risk
