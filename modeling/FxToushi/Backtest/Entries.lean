import FxToushi.Backtest.PaperPoc
import FxToushi.Data.Fallible

namespace FxToushi.Backtest

open Data Py

/-! # Entry attempts of a bar

What an attempt can do, which attempts a bar makes, and the rule by which a
property of the state passes over a bar.
-/

def afterDraw (config : PocConfig) (ts : Timestamp) (state : PocState) (spec : EntrySpec) :
    PocState :=
  { state with draws := (slippageFor config state.draws spec.symbol ts).2 }

/-- An attempt leaves the state as it is, uses up a draw, or opens a position
that was quoted and passed the limits. -/
theorem attemptOpenPosition_cases {config : PocConfig} {ts : Timestamp} {row : Row}
    {state next : PocState} {spec : EntrySpec}
    (attempted : attemptOpenPosition config ts row state spec = .ok next) :
    next = state ∨ next = afterDraw config ts state spec ∨
      ∃ atrSlMult ttlMinutes quote,
        quoteEntry config ts row state.draws spec atrSlMult = some quote ∧
          withinLimits config (afterDraw config ts state spec) spec
            (newRiskPct config (afterDraw config ts state spec) spec) = .ok true ∧
          next = openPosition (afterDraw config ts state spec)
            (positionOf config ts (afterDraw config ts state spec) spec quote ttlMinutes) := by
  obtain ⟨atrSlMult, -, attempted⟩ := bind_ok attempted
  obtain ⟨ttlMinutes, -, attempted⟩ := bind_ok attempted
  split at attempted
  · exact .inl (Except.ok.inj attempted).symm
  dsimp only at attempted
  split at attempted
  · exact .inr (.inl (Except.ok.inj attempted).symm)
  · rename_i quote quoted
    obtain ⟨passed, limits, attempted⟩ := bind_ok attempted
    cases passed with
    | false => exact .inr (.inl (Except.ok.inj attempted).symm)
    | true =>
      exact .inr (.inr
        ⟨atrSlMult, ttlMinutes, quote, quoted, limits, (Except.ok.inj attempted).symm⟩)

/-! ## The attempts of a bar -/

abbrev Attempt := PocState × EntrySpec

/-- The attempts `attemptAll` makes, each with the state it is made in. -/
def attemptsOf (config : PocConfig) (bar : Bar) (state : PocState) : List EntrySpec → List Attempt
  | [] => []
  | spec :: rest =>
    (state, spec) :: match attemptOpenPosition config bar.ts bar.row state spec with
      | .ok next => attemptsOf config bar next rest
      | .error _ => []

def pendingOf (state : PocState) (bar : Bar) : List EntrySpec :=
  state.pending.filter (fun spec => decide (spec.symbol = bar.symbol))

def withoutPendingOf (state : PocState) (bar : Bar) : PocState :=
  { state with pending := state.pending.filter (fun spec => decide (spec.symbol ≠ bar.symbol)) }

def drainAttempts (config : PocConfig) (state : PocState) (bar : Bar) : List Attempt :=
  attemptsOf config bar (withoutPendingOf state bar) (pendingOf state bar)

def signalAttempts (config : PocConfig) (state : PocState) (bar : Bar) : List Attempt :=
  if config.entryOnNextBar then []
  else attemptsOf config bar state
    ((bar.signals.map (specOf bar)).map
      (fun spec => { spec with entryBasePrice := some bar.row.close }))

def stepAttempts (config : PocConfig) (state : PocState) (bar : Bar) : List Attempt :=
  if state.failure.isSome then []
  else
    let managed := exitPass config state bar
    if outsideSession config bar.ts then []
    else
      let drained := drainPending config managed bar
      drainAttempts config managed bar ++
        if drained.failure.isSome ∨ bar.ready = false then []
        else signalAttempts config drained bar

/-! ## Passing over a bar -/

section Preservation

variable {config : PocConfig} {bar : Bar} (good : PocState → Prop)
  (bookkeeping : ∀ state pending curve failure, good state →
    good { state with pending, curve, failure })

include bookkeeping

theorem attemptAll_preserves {specs : List EntrySpec} {state : PocState}
    (attempted : ∀ attempt ∈ attemptsOf config bar state specs, ∀ next, good attempt.1 →
      attemptOpenPosition config bar.ts bar.row attempt.1 attempt.2 = .ok next → good next)
    (holds : good state) : good (attemptAll config bar state specs) := by
  induction specs generalizing state with
  | nil => exact holds
  | cons spec rest ih =>
    cases tried : attemptOpenPosition config bar.ts bar.row state spec with
    | error error =>
      simp only [attemptAll, tried]
      exact bookkeeping state state.pending state.curve _ holds
    | ok next =>
      simp only [attemptsOf, tried, List.forall_mem_cons] at attempted
      simp only [attemptAll, tried]
      exact ih attempted.2 (attempted.1 next holds rfl)

theorem markCurve_preserves {state : PocState} (holds : good state) : good (markCurve state) := by
  unfold markCurve
  split
  · exact holds
  · exact bookkeeping state state.pending _ state.failure holds

theorem drainPending_preserves {state : PocState}
    (attempted : ∀ attempt ∈ drainAttempts config state bar, ∀ next, good attempt.1 →
      attemptOpenPosition config bar.ts bar.row attempt.1 attempt.2 = .ok next → good next)
    (holds : good state) : good (drainPending config state bar) :=
  attemptAll_preserves good bookkeeping attempted
    (bookkeeping state _ state.curve state.failure holds)

theorem takeSignals_preserves {state : PocState}
    (attempted : ∀ attempt ∈ signalAttempts config state bar, ∀ next, good attempt.1 →
      attemptOpenPosition config bar.ts bar.row attempt.1 attempt.2 = .ok next → good next)
    (holds : good state) : good (takeSignals config state bar) := by
  unfold takeSignals
  unfold signalAttempts at attempted
  split
  · exact bookkeeping state _ state.curve state.failure holds
  · rename_i now
    rw [if_neg now] at attempted
    exact attemptAll_preserves good bookkeeping attempted holds

/-- What the exits of a bar and each of its attempts preserve, the bar does. -/
theorem stepBar_preserves {state : PocState}
    (exits : good state → good (exitPass config state bar))
    (attempted : ∀ attempt ∈ stepAttempts config state bar, ∀ next, good attempt.1 →
      attemptOpenPosition config bar.ts bar.row attempt.1 attempt.2 = .ok next → good next)
    (holds : good state) : good (stepBar config state bar) := by
  unfold stepBar
  unfold stepAttempts at attempted
  dsimp only at attempted ⊢
  split
  · exact holds
  · rename_i running
    rw [if_neg running] at attempted
    split
    · exact markCurve_preserves good bookkeeping (exits holds)
    · rename_i inside
      rw [if_neg inside] at attempted
      have drained := drainPending_preserves good bookkeeping
        (fun attempt member => attempted attempt (List.mem_append_left _ member)) (exits holds)
      split
      · exact markCurve_preserves good bookkeeping drained
      · rename_i trading
        rw [if_neg trading] at attempted
        exact markCurve_preserves good bookkeeping (takeSignals_preserves good bookkeeping
          (fun attempt member => attempted attempt (List.mem_append_right _ member)) drained)

omit bookkeeping in
theorem attemptsOf_holds {specs : List EntrySpec} {state : PocState}
    (attempted : ∀ attempt ∈ attemptsOf config bar state specs, ∀ next, good attempt.1 →
      attemptOpenPosition config bar.ts bar.row attempt.1 attempt.2 = .ok next → good next)
    (holds : good state) : ∀ attempt ∈ attemptsOf config bar state specs, good attempt.1 := by
  induction specs generalizing state with
  | nil => exact fun _ member => absurd member List.not_mem_nil
  | cons spec rest ih =>
    cases tried : attemptOpenPosition config bar.ts bar.row state spec with
    | error error => simpa [attemptsOf, tried] using holds
    | ok next =>
      simp only [attemptsOf, tried, List.forall_mem_cons] at attempted ⊢
      exact ⟨holds, ih attempted.2 (attempted.1 next holds rfl)⟩

theorem stepAttempts_holds {state : PocState}
    (exits : good state → good (exitPass config state bar))
    (attempted : ∀ attempt ∈ stepAttempts config state bar, ∀ next, good attempt.1 →
      attemptOpenPosition config bar.ts bar.row attempt.1 attempt.2 = .ok next → good next)
    (holds : good state) : ∀ attempt ∈ stepAttempts config state bar, good attempt.1 := by
  unfold stepAttempts at attempted ⊢
  dsimp only at attempted ⊢
  split
  · exact fun _ member => absurd member List.not_mem_nil
  · rename_i running
    rw [if_neg running] at attempted
    split
    · exact fun _ member => absurd member List.not_mem_nil
    · rename_i inside
      simp only [if_neg inside, List.forall_mem_append] at attempted ⊢
      have managed := exits holds
      refine ⟨attemptsOf_holds good attempted.1 (bookkeeping _ _ _ _ managed), ?_⟩
      split
      · exact fun _ member => absurd member List.not_mem_nil
      · rename_i trading
        rw [if_neg trading] at attempted
        have drained := drainPending_preserves good bookkeeping attempted.1 managed
        unfold signalAttempts at attempted ⊢
        split
        · exact fun _ member => absurd member List.not_mem_nil
        · rename_i now
          rw [if_neg now] at attempted
          exact attemptsOf_holds good attempted.2 drained

end Preservation

theorem attemptsOf_spec {config : PocConfig} {bar : Bar} {specs : List EntrySpec}
    {state : PocState} {attempt : Attempt} (member : attempt ∈ attemptsOf config bar state specs) :
    attempt.2 ∈ specs := by
  induction specs generalizing state with
  | nil => exact absurd member List.not_mem_nil
  | cons spec rest ih =>
    rw [attemptsOf] at member
    rcases List.mem_cons.mp member with rfl | later
    · exact List.mem_cons_self
    · cases tried : attemptOpenPosition config bar.ts bar.row state spec with
      | error error => simp [tried] at later
      | ok next =>
        simp only [tried] at later
        exact List.mem_cons_of_mem _ (ih later)

theorem attemptAll_pending (config : PocConfig) (bar : Bar) (specs : List EntrySpec)
    (state : PocState) : (attemptAll config bar state specs).pending = state.pending := by
  induction specs generalizing state with
  | nil => rfl
  | cons spec rest ih =>
    cases tried : attemptOpenPosition config bar.ts bar.row state spec with
    | error error => simp only [attemptAll, tried]
    | ok next =>
      simp only [attemptAll, tried, ih]
      rcases attemptOpenPosition_cases tried with rfl | rfl | ⟨_, _, _, -, -, rfl⟩ <;> rfl

end FxToushi.Backtest
