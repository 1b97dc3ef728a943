import FxToushi.Execution.Model

namespace FxToushi.Execution.SimpleSpreadMonitor

open Data Py

/-! # How long a cooldown lasts

A raised frame announces when its cooldown expires, but the state is replaced by
every frame that is read: the first calm one ends the cooldown.
-/

/-- What a frame that is read says: its percentiles and its clock drift. -/
structure Reading where
  p95 : Extended
  p99 : Extended
  ntpDriftMs : Option Int

def read (monitor : SimpleSpreadMonitor) (frame : Mapping) : Except SpreadError Reading := do
  let (p95Value, p99Value) ← metrics frame
  let _ ← monitor.windowSeconds frame
  let p95 ← toFloat p95Value
  let p99 ← toFloat p99Value
  let ntpDriftMs ← ntpDrift frame
  let _ ← toDecimal p99Value
  return { p95, p99, ntpDriftMs }

/-- Both percentiles are numbers below their thresholds, the clock does not drift
and there is no news. -/
def Quiet (monitor : SimpleSpreadMonitor) (reading : Reading) (newsEvent : Option String) : Prop :=
  reading.p99 < .finite monitor.blockThreshold ∧ reading.p95 < .finite monitor.cooldownThreshold ∧
    (∀ drift, reading.ntpDriftMs = some drift → drift ≤ monitor.ntpMaxMs) ∧
    ∀ title, newsEvent = some title → title = ""

def evaluate (monitor : SimpleSpreadMonitor) (reading : Reading) (frame : Mapping) (now : Int) :
    Except SpreadError SpreadEvaluation :=
  evaluateSpreadGuard monitor reading.p95 reading.p99 reading.ntpDriftMs (newsOf frame) now

theorem escalate_normal_iff (raised : Bool) (status : SpreadCooldownState) :
    escalate raised status = .normal ↔ raised = false ∧ status = .normal := by
  cases raised <;> cases status <;> simp [escalate]

theorem lt_finite_iff {number : Extended} {threshold : Rat} :
    number < .finite threshold ↔
      number.isNan = false ∧ ¬ Extended.finite threshold ≤ number := by
  cases number with
  | nan => exact iff_of_false Extended.not_nan_lt (fun both => absurd both.1 (by decide))
  | infinite negative =>
    rw [← Extended.not_lt_iff rfl rfl, not_not]
    simp [Extended.isNan]
  | finite value =>
    rw [← Extended.not_lt_iff rfl rfl, not_not]
    simp [Extended.isNan]

theorem widthOf_normal_iff {monitor : SimpleSpreadMonitor} {p95 p99 : Extended} :
    widthOf monitor p95 p99 = .ok .normal ↔
      p99 < .finite monitor.blockThreshold ∧ p95 < .finite monitor.cooldownThreshold := by
  rw [lt_finite_iff, lt_finite_iff, widthOf]
  split_ifs <;> simp_all

/-- Of an evaluation that is made, when it is normal. -/
theorem evaluate_normal_iff {monitor : SimpleSpreadMonitor} {reading : Reading} {frame : Mapping}
    (now : Int) :
    (∃ evaluation, monitor.evaluate reading frame now = .ok evaluation ∧
      evaluation.status = .normal) ↔ monitor.Quiet reading (newsOf frame) := by
  have drifting : (reading.ntpDriftMs.any fun drift => decide (monitor.ntpMaxMs < drift)) = false ↔
      ∀ drift, reading.ntpDriftMs = some drift → drift ≤ monitor.ntpMaxMs := by
    cases reading.ntpDriftMs <;> simp
  have news : ((newsOf frame).any fun title => title != "") = false ↔
      ∀ title, newsOf frame = some title → title = "" := by
    cases newsOf frame <;> simp
  constructor
  · rintro ⟨evaluation, evaluated, normal⟩
    obtain ⟨wide, measured, built⟩ := bind_ok evaluated
    obtain rfl := Except.ok.inj built
    simp only [escalate_normal_iff, drifting, news] at normal
    obtain ⟨named, drifted, rfl⟩ := normal
    obtain ⟨block, cooldown⟩ := widthOf_normal_iff.mp measured
    exact ⟨block, cooldown, drifted, named⟩
  · rintro ⟨block, cooldown, drifted, named⟩
    have measured := widthOf_normal_iff.mpr ⟨block, cooldown⟩
    simp only [evaluate, evaluateSpreadGuard, measured, drifting.mpr drifted, news.mpr named, bind,
      Except.bind]
    exact ⟨_, rfl, rfl⟩

/-- The frame is read, and nothing in it is raised. -/
def Calm (monitor : SimpleSpreadMonitor) (frame : Mapping) : Prop :=
  ∃ reading, monitor.read frame = .ok reading ∧ monitor.Quiet reading (newsOf frame)

theorem classify_ok {monitor : SimpleSpreadMonitor} {frame : Mapping} {now : Int}
    {state : SpreadState} (classified : monitor.classify frame now = .ok state) :
    ∃ reading evaluation, monitor.read frame = .ok reading ∧
      monitor.evaluate reading frame now = .ok evaluation ∧ state.state = evaluation.status := by
  obtain ⟨values, measured, classified⟩ := bind_ok classified
  obtain ⟨window, looked, classified⟩ := bind_ok classified
  obtain ⟨p95, tail, classified⟩ := bind_ok classified
  obtain ⟨p99, extreme, classified⟩ := bind_ok classified
  obtain ⟨ntpDriftMs, drift, classified⟩ := bind_ok classified
  obtain ⟨evaluation, evaluated, classified⟩ := bind_ok classified
  obtain ⟨spread, exact, classified⟩ := bind_ok classified
  obtain rfl := Except.ok.inj classified
  refine ⟨{ p95, p99, ntpDriftMs }, evaluation, ?_, evaluated, rfl⟩
  simp only [read, measured, looked, tail, extreme, drift, exact, bind, Except.bind]
  rfl

theorem read_ok {monitor : SimpleSpreadMonitor} {frame : Mapping} {reading : Reading} {now : Int}
    {evaluation : SpreadEvaluation} (known : monitor.read frame = .ok reading)
    (evaluated : monitor.evaluate reading frame now = .ok evaluation) :
    ∃ state, monitor.classify frame now = .ok state ∧ state.state = evaluation.status := by
  obtain ⟨values, measured, known⟩ := bind_ok known
  obtain ⟨window, looked, known⟩ := bind_ok known
  obtain ⟨p95, tail, known⟩ := bind_ok known
  obtain ⟨p99, extreme, known⟩ := bind_ok known
  obtain ⟨ntpDriftMs, drift, known⟩ := bind_ok known
  obtain ⟨spread, exact, built⟩ := bind_ok known
  obtain rfl := Except.ok.inj built
  rw [evaluate] at evaluated
  simp only [classify, measured, looked, tail, extreme, drift, exact, evaluated, bind, Except.bind]
  exact ⟨_, rfl, rfl⟩

theorem classify_normal_iff {monitor : SimpleSpreadMonitor} {frame : Mapping} {now : Int}
    {state : SpreadState} (classified : monitor.classify frame now = .ok state) :
    state.state = .normal ↔ monitor.Calm frame := by
  obtain ⟨reading, evaluation, known, evaluated, label⟩ := classify_ok classified
  rw [label]
  constructor
  · intro normal
    exact ⟨reading, known, (evaluate_normal_iff now).mp ⟨evaluation, evaluated, normal⟩⟩
  · rintro ⟨other, again, quiet⟩
    obtain rfl := Except.ok.inj (known.symm.trans again)
    obtain ⟨made, returned, normal⟩ := (evaluate_normal_iff now).mpr quiet
    obtain rfl := Except.ok.inj (evaluated.symm.trans returned)
    exact normal

theorem classify_of_calm {monitor : SimpleSpreadMonitor} {frame : Mapping} (now : Int)
    (calm : monitor.Calm frame) :
    ∃ state, monitor.classify frame now = .ok state ∧ state.state = .normal := by
  obtain ⟨reading, known, quiet⟩ := calm
  obtain ⟨evaluation, evaluated, normal⟩ := (evaluate_normal_iff now).mpr quiet
  obtain ⟨state, classified, label⟩ := read_ok known evaluated
  exact ⟨state, classified, label.trans normal⟩

/-! ## Runs -/

def severity : SpreadCooldownState → Nat
  | .normal => 0
  | .watch => 1
  | .cooldown => 2
  | .block => 3
  | .halt => 4

/-- What a symbol's announced expiry promises, were it kept: no update before it finds
the symbol in the normal state. -/
def LastsAnnounced (monitor : SimpleSpreadMonitor) (feeds : List Feed) : Prop :=
  ∀ before between feed after, feeds = before ++ between ++ feed :: after → ∀ state eta,
    (runFrom step monitor before).states.get? (symbolOf feed.seen) = some state →
      state.state ∈ [SpreadCooldownState.cooldown, .block] → state.cooldownEta = some eta →
        feed.now < eta → ∀ recorded,
          (runFrom step monitor (before ++ between ++ [feed])).states.get? (symbolOf feed.seen) =
            some recorded → recorded.state ≠ .normal

structure LastsUntilCalm (monitor : SimpleSpreadMonitor) (feeds : List Feed) : Prop where
  /-- Whatever time goes by, only a calm frame of the symbol ends its cooldown. -/
  lasts : ∀ before between after, feeds = before ++ between ++ after → ∀ symbol state,
    (runFrom step monitor before).states.get? symbol = some state → state.state ≠ .normal →
      (∀ feed ∈ between, symbolOf feed.seen = symbol → ¬ monitor.Calm feed.seen) →
        ∃ later, (runFrom step monitor (before ++ between)).states.get? symbol = some later ∧
          later.state ≠ .normal
  /-- A calm frame ends it at once. -/
  ends : ∀ before feed after, feeds = before ++ feed :: after → monitor.Calm feed.seen →
    ∃ recorded, (runFrom step monitor (before ++ [feed])).states.get? (symbolOf feed.seen) =
      some recorded ∧ recorded.state = .normal
  severe : ∀ before feed after, feeds = before ++ feed :: after → ∀ reading evaluation,
    monitor.read feed.seen = .ok reading →
      monitor.evaluate reading feed.seen feed.now = .ok evaluation →
        ∃ recorded, (runFrom step monitor (before ++ [feed])).states.get? (symbolOf feed.seen) =
          some recorded ∧ severity evaluation.status ≤ severity recorded.state

variable {monitor : SimpleSpreadMonitor}

theorem step_cases (monitor : SimpleSpreadMonitor) (feed : Feed) :
    monitor.step feed = monitor ∨
      ∃ state, monitor.classify feed.seen feed.now = .ok state ∧ monitor.step feed =
        { monitor with states := monitor.states.set (symbolOf feed.seen) state } := by
  rw [step, update]
  cases classified : monitor.classify feed.seen feed.now with
  | error error => exact .inl rfl
  | ok state => exact .inr ⟨state, rfl, rfl⟩

theorem run_rules (monitor : SimpleSpreadMonitor) (feeds : List Feed) :
    ∃ states, runFrom step monitor feeds = { monitor with states } := by
  induction feeds generalizing monitor with
  | nil => exact ⟨monitor.states, rfl⟩
  | cons feed rest ih =>
    obtain ⟨states, final⟩ := ih (monitor.step feed)
    refine ⟨states, final.trans ?_⟩
    obtain same | ⟨state, -, next⟩ := step_cases monitor feed
    · rw [same]
    · rw [next]

theorem run_recorded (feeds : List Feed) {feed : Feed} {state : SpreadState}
    (classified : monitor.classify feed.seen feed.now = .ok state) :
    (runFrom step monitor (feeds ++ [feed])).states.get? (symbolOf feed.seen) = some state := by
  obtain ⟨states, before⟩ := run_rules monitor feeds
  have again : ({ monitor with states } : SimpleSpreadMonitor).classify feed.seen feed.now =
      .ok state := classified
  have last : runFrom step monitor (feeds ++ [feed]) = (runFrom step monitor feeds).step feed := by
    rw [runFrom, List.foldl_append]
    rfl
  rw [last, before, step, update, again]
  exact (Dict.get?_set states (symbolOf feed.seen) (symbolOf feed.seen) state).trans (if_pos rfl)

theorem step_lasts {feed : Feed} {symbol : String} {state : SpreadState}
    (held : monitor.states.get? symbol = some state) (raised : state.state ≠ .normal)
    (stirred : symbolOf feed.seen = symbol → ¬ monitor.Calm feed.seen) :
    ∃ later, (monitor.step feed).states.get? symbol = some later ∧ later.state ≠ .normal := by
  obtain same | ⟨recorded, classified, next⟩ := step_cases monitor feed
  · rw [same]
    exact ⟨state, held, raised⟩
  · rw [next]
    simp only [Dict.get?_set]
    split
    next own =>
      exact ⟨recorded, rfl, fun normal =>
        stirred own ((classify_normal_iff classified).mp normal)⟩
    next => exact ⟨state, held, raised⟩

theorem run_lasts {between : List Feed} {symbol : String} {state : SpreadState}
    (held : monitor.states.get? symbol = some state) (raised : state.state ≠ .normal)
    (stirred : ∀ feed ∈ between, symbolOf feed.seen = symbol → ¬ monitor.Calm feed.seen) :
    ∃ later, (runFrom step monitor between).states.get? symbol = some later ∧
      later.state ≠ .normal := by
  induction between generalizing monitor state with
  | nil => exact ⟨state, held, raised⟩
  | cons feed rest ih =>
    obtain ⟨later, next, still⟩ := step_lasts held raised (stirred feed List.mem_cons_self)
    obtain ⟨states, rules⟩ := run_rules monitor [feed]
    have rules : monitor.step feed = { monitor with states } := rules
    refine ih next still fun other member own => ?_
    rw [rules]
    exact stirred other (List.mem_cons_of_mem feed member) own

theorem lastsUntilCalm (monitor : SimpleSpreadMonitor) (feeds : List Feed) :
    monitor.LastsUntilCalm feeds := by
  refine ⟨?_, ?_, ?_⟩
  · rintro before between after rfl symbol state held raised stirred
    obtain ⟨states, rules⟩ := run_rules monitor before
    rw [runFrom, List.foldl_append, ← runFrom, ← runFrom]
    refine run_lasts held raised fun feed member own => ?_
    rw [rules]
    exact stirred feed member own
  · rintro before feed after rfl calm
    obtain ⟨state, classified, normal⟩ := classify_of_calm feed.now calm
    exact ⟨state, run_recorded before classified, normal⟩
  · rintro before feed after rfl reading evaluation known evaluated
    obtain ⟨state, classified, label⟩ := read_ok known evaluated
    exact ⟨state, run_recorded before classified, by rw [label]⟩

/-- One minute after the wide frame. -/
def calmFeed : Feed where
  frame := [("symbol", .str "USDJPY"), ("p95", .int 1), ("p99", .int 1)]
  now := 60000000

/-- A cooldown of five minutes is over after one. -/
theorem cleared_before_announced : ¬ ∀ (monitor : SimpleSpreadMonitor) (feeds : List Feed),
    monitor.states = Dict.empty → monitor.LastsAnnounced feeds := by
  intro every
  have promised := every {} [wideFeed, calmFeed] rfl [wideFeed] [] calmFeed [] rfl wideState
    300000000 (by decide +kernel) (by decide) rfl (by decide)
  have cleared : (((runFrom step {} [wideFeed, calmFeed]).states.get? "USDJPY").map
      (·.state)) = some .normal := by decide +kernel
  obtain ⟨recorded, held, normal⟩ := Option.map_eq_some_iff.mp cleared
  exact promised recorded held normal

end FxToushi.Execution.SimpleSpreadMonitor
