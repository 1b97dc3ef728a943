import FxToushi.Brokers.OrderRecords
import Mathlib.Data.List.Dedup

namespace FxToushi.Brokers

open Data Py

/-! # Broker certification

The scenarios of a plan are executed one after the other and rolled up into one
word.  The handlers are given: what each returns or raises, at its place in the
plan.
-/

structure CertificationScenario where
  name : String
  scenarioType : String
  status : String
  message : Option String := none
  attachments : List String := []
  metrics : Mapping := []

/-- `scenarios` are as YAML gives them. -/
structure CertificationPlan where
  planId : String
  adapter : String
  profile : String
  simulate : Bool
  scenarios : List Value

structure CertificationResult where
  runId : String
  planId : String
  adapter : String
  profile : String
  overallStatus : String
  startedAt : String
  finishedAt : String
  scenarios : List CertificationScenario

/-- By type and place. -/
abbrev ScenarioHandlers := String → Nat → Mapping → Except PyError CertificationScenario

def handledTypes : List String :=
  ["sandbox_connectivity", "reduce_only_dispatch", "rate_limit_burst", "failover_switch"]

def defaultScenarios : List Value :=
  handledTypes.map (fun name => .map [("name", .str name), ("type", .str name)])

/-- A flag of a profile.  The file is missing, or its content is parsed. -/
def featureEnabled (flag profile : String) : Option (Except PyError Value) → Except PyError Bool
  | none => .ok false
  | some parsed =>
    parsed.map fun payload =>
      (valueAt (valueAt (valueAt payload.asMapping "defaults").asMapping profile).asMapping
        flag).truth

def rollupStatus (scenarios : List CertificationScenario) : String :=
  let statuses := scenarios.map (·.status)
  if "fail" ∈ statuses then "fail"
  else if "warning" ∈ statuses then "pass_with_warning"
  else if "skipped" ∈ statuses ∧ statuses.dedup.length = 1 then "skipped"
  else "pass"

namespace BrokerCertificationSuite

def scenarioName (scenarioDef : Mapping) : String :=
  (orValue (valueAt scenarioDef "name") (orValue (valueAt scenarioDef "scenario")
    (.str "unknown"))).text

def scenarioType (scenarioDef : Mapping) : String :=
  (orValue (valueAt scenarioDef "type") (.str (scenarioName scenarioDef))).text

def executeScenario (plan : CertificationPlan) (handlers : ScenarioHandlers) :
    Value × Nat → Except PyError CertificationScenario
  | (.map scenarioDef, place) =>
    let name := scenarioName scenarioDef
    let scenarioType := scenarioType scenarioDef
    if plan.simulate then
      .ok { name, scenarioType, status := "pass", message := some "simulated" }
    else if scenarioType ∈ handledTypes then handlers scenarioType place scenarioDef
    else .ok { name, scenarioType, status := "skipped", message := some "unsupported scenario" }
  | _ => .error .attributeError

def bypassScenario : CertificationScenario where
  name := "certification_bypass"
  scenarioType := "feature_flag_bypass"
  status := "warning"
  message := some "brokers.certification_required is false"

/-- `plan.scenarios or _default_scenarios()`. -/
def scenarioDefs (plan : CertificationPlan) : List Value :=
  if plan.scenarios = [] then defaultScenarios else plan.scenarios

def resultOf (plan : CertificationPlan) (runId startedAt finishedAt : String)
    (scenarios : List CertificationScenario) : CertificationResult where
  runId
  planId := plan.planId
  adapter := plan.adapter
  profile := plan.profile
  overallStatus := rollupStatus scenarios
  startedAt
  finishedAt
  scenarios

/-- What is appended to the metrics, where the stage guard reads the status. -/
def metricsEntry (result : CertificationResult) : Value :=
  .map [("ts", .str result.finishedAt), ("event", .str "broker_certification"),
    ("run_id", .str result.runId), ("plan_id", .str result.planId),
    ("adapter", .str result.adapter), ("profile", .str result.profile),
    ("status", .str result.overallStatus), ("scenario_count", .int result.scenarios.length)]

/-- The result and the metrics entry. -/
def run (plan : CertificationPlan) (handlers : ScenarioHandlers)
    (flags : Option (Except PyError Value)) (runId startedAt finishedAt : String) :
    Except PyError (CertificationResult × Value) := do
  let required ← featureEnabled "brokers.certification_required" plan.profile flags
  let scenarios ← if required = false then .ok [bypassScenario]
    else tryMap (executeScenario plan handlers) (scenarioDefs plan).zipIdx
  let result := resultOf plan runId startedAt finishedAt scenarios
  return (result, metricsEntry result)

/-! ## What a pass means -/

section Property

variable (plan : CertificationPlan) (handlers : ScenarioHandlers)

/-- How a scenario ends. -/
inductive Verdict where
  | raised
  | simulated
  | unsupported
  | returned (status : String)
deriving Repr, DecidableEq

def verdict : Value × Nat → Verdict
  | (.map scenarioDef, place) =>
    if plan.simulate then .simulated
    else if scenarioType scenarioDef ∈ handledTypes then
      match handlers (scenarioType scenarioDef) place scenarioDef with
      | .ok scenario => .returned scenario.status
      | .error _ => .raised
    else .unsupported
  | _ => .raised

def verdicts : List Verdict := (scenarioDefs plan).zipIdx.map (verdict plan handlers)

/-- The overall status is `pass` only where a handler executed every scenario,
of which there is one, and returned `pass`. -/
def PassEarned (flags : Option (Except PyError Value)) : Prop :=
  ∀ runId startedAt finishedAt result entry,
    run plan handlers flags runId startedAt finishedAt = .ok (result, entry) →
    result.overallStatus = "pass" →
      verdicts plan handlers ≠ [] ∧
        ∀ verdict ∈ verdicts plan handlers, verdict = .returned "pass"

def skippedVerdicts : List Verdict := [.unsupported, .returned "skipped"]

/-- The two ways to a pass that was not earned: a simulation, and scenarios that
were skipped beside others that were not, where none raises, fails or warns. -/
inductive PassUnearned : Prop where
  | simulated (simulates : plan.simulate = true) (runs : .raised ∉ verdicts plan handlers)
  | beside (executes : plan.simulate = false)
      (quiet : ∀ verdict ∈ [.raised, .returned "fail", .returned "warning"],
        verdict ∉ verdicts plan handlers)
      (unearned : ∃ verdict ∈ verdicts plan handlers, verdict ≠ .returned "pass")
      (other : ∃ verdict ∈ verdicts plan handlers, verdict ∉ skippedVerdicts)

end Property

/-! ## Rolling up -/

theorem rollupStatus_pass_iff {scenarios : List CertificationScenario} :
    rollupStatus scenarios = "pass" ↔
      "fail" ∉ scenarios.map (·.status) ∧ "warning" ∉ scenarios.map (·.status) ∧
        (scenarios = [] ∨ ∃ status ∈ scenarios.map (·.status), status ≠ "skipped") := by
  have alone : ("skipped" ∈ scenarios.map (·.status) ∧
      (scenarios.map (·.status)).dedup.length = 1) ↔
        ¬ (scenarios = [] ∨ ∃ status ∈ scenarios.map (·.status), status ≠ "skipped") := by
    constructor
    · rintro ⟨member, single⟩ (rfl | ⟨other, present, differs⟩)
      · cases member
      · obtain ⟨only, same⟩ := List.length_eq_one_iff.mp single
        have first : "skipped" ∈ [only] := same ▸ List.mem_dedup.mpr member
        have second : other ∈ [only] := same ▸ List.mem_dedup.mpr present
        rw [List.mem_singleton] at first second
        exact differs (second.trans first.symm)
    · intro neither
      obtain ⟨nonempty, skipped⟩ := not_or.mp neither
      have every : ∀ status ∈ scenarios.map (·.status), status = "skipped" := by
        intro status member
        by_contra differs
        exact skipped ⟨status, member, differs⟩
      have repeated := List.eq_replicate_of_mem every
      rw [List.length_map] at repeated
      rw [repeated]
      have some : scenarios.length ≠ 0 := fun zero => nonempty (List.length_eq_zero_iff.mp zero)
      refine ⟨List.mem_replicate.mpr ⟨some, rfl⟩, ?_⟩
      rw [List.replicate_dedup some]
      rfl
  unfold rollupStatus
  dsimp only
  by_cases fails : "fail" ∈ scenarios.map (·.status)
  · simp [fails]
  by_cases warns : "warning" ∈ scenarios.map (·.status)
  · simp [fails, warns]
  rw [if_neg fails, if_neg warns]
  by_cases passes : scenarios = [] ∨ ∃ status ∈ scenarios.map (·.status), status ≠ "skipped"
  · rw [if_neg (fun both => alone.mp both passes)]
    exact iff_of_true rfl ⟨fails, warns, passes⟩
  · rw [if_pos (alone.mpr passes)]
    exact iff_of_false (by decide) fun holds => passes holds.2.2

/-! ## Executing -/

section Run

variable {plan : CertificationPlan} {handlers : ScenarioHandlers}

/-- The status of the scenario, unless the run raises there. -/
def Verdict.status? : Verdict → Option String
  | .raised => none
  | .simulated => some "pass"
  | .unsupported => some "skipped"
  | .returned status => some status

theorem executeScenario_verdict (entry : Value × Nat) :
    (executeScenario plan handlers entry).toOption.map (·.status) =
      (verdict plan handlers entry).status? := by
  obtain ⟨value, place⟩ := entry
  cases value with
  | map scenarioDef =>
    by_cases simulates : plan.simulate = true
    · simp [executeScenario, verdict, simulates, Verdict.status?, Except.toOption]
    by_cases handled : scenarioType scenarioDef ∈ handledTypes
    · cases ended : handlers (scenarioType scenarioDef) place scenarioDef <;>
        simp [executeScenario, verdict, simulates, handled, ended, Verdict.status?,
          Except.toOption]
    · simp [executeScenario, verdict, simulates, handled, Verdict.status?, Except.toOption]
  | _ => rfl

theorem scenarioDefs_ne_nil (plan : CertificationPlan) : scenarioDefs plan ≠ [] := by
  unfold scenarioDefs
  split
  · decide
  · assumption

theorem verdicts_ne_nil : verdicts plan handlers ≠ [] := by
  intro empty
  have length := congrArg List.length empty
  rw [verdicts, List.length_map, List.length_zipIdx, List.length_nil,
    List.length_eq_zero_iff] at length
  exact scenarioDefs_ne_nil plan length

theorem executes_iff :
    (∃ scenarios, tryMap (executeScenario plan handlers) (scenarioDefs plan).zipIdx =
      .ok scenarios) ↔ .raised ∉ verdicts plan handlers := by
  rw [tryMap_ok_iff]
  have each : ∀ entry, (∃ scenario, executeScenario plan handlers entry = .ok scenario) ↔
      verdict plan handlers entry ≠ .raised := by
    intro entry
    have told := @executeScenario_verdict plan handlers entry
    constructor
    · rintro ⟨scenario, executed⟩ raised
      rw [executed, raised] at told
      cases told
    · intro settled
      cases executed : executeScenario plan handlers entry with
      | ok scenario => exact ⟨scenario, rfl⟩
      | error error =>
        rw [executed] at told
        cases ended : verdict plan handlers entry with
        | raised => exact absurd ended settled
        | _ =>
          rw [ended] at told
          cases told
  simp only [each, verdicts, List.mem_map, not_exists, not_and]

theorem mem_statuses_iff {scenarios : List CertificationScenario} {status : String}
    (executed : tryMap (executeScenario plan handlers) (scenarioDefs plan).zipIdx =
      .ok scenarios) :
    status ∈ scenarios.map (·.status) ↔
      ∃ verdict ∈ verdicts plan handlers, verdict.status? = some status := by
  have told : scenarios.map (fun scenario => some scenario.status) =
      (scenarioDefs plan).zipIdx.map (fun entry => (verdict plan handlers entry).status?) := by
    apply map_of_tryMap _ executed
    intro entry scenario ended
    have same := @executeScenario_verdict plan handlers entry
    rw [ended] at same
    exact same
  have listed : some status ∈ scenarios.map (fun scenario => some scenario.status) ↔
      status ∈ scenarios.map (·.status) := by simp
  rw [← listed, told, verdicts]
  simp only [List.mem_map, exists_exists_and_eq_and]

theorem status?_skipped_iff {verdict : Verdict} :
    verdict.status? = some "skipped" ↔ verdict ∈ skippedVerdicts := by
  cases verdict <;> simp [Verdict.status?, skippedVerdicts]

theorem status?_bad_iff {verdict : Verdict} {status : String}
    (bad : status = "fail" ∨ status = "warning") :
    verdict.status? = some status ↔ verdict = .returned status := by
  rcases bad with rfl | rfl <;> cases verdict <;> simp [Verdict.status?]

/-- The scenarios pass as a whole. -/
theorem executed_pass_iff :
    (∃ scenarios, tryMap (executeScenario plan handlers) (scenarioDefs plan).zipIdx =
        .ok scenarios ∧ rollupStatus scenarios = "pass") ↔
      (∀ verdict ∈ [.raised, .returned "fail", .returned "warning"],
        verdict ∉ verdicts plan handlers) ∧
      ∃ verdict ∈ verdicts plan handlers, verdict ∉ skippedVerdicts := by
  constructor
  · rintro ⟨scenarios, executed, passes⟩
    obtain ⟨fails, warns, other⟩ := rollupStatus_pass_iff.mp passes
    rw [mem_statuses_iff executed] at fails warns
    have settled := executes_iff.mp ⟨scenarios, executed⟩
    refine ⟨?_, ?_⟩
    · intro verdict listed member
      simp only [List.mem_cons, List.not_mem_nil, or_false] at listed
      rcases listed with rfl | rfl | rfl
      · exact settled member
      · exact fails ⟨_, member, rfl⟩
      · exact warns ⟨_, member, rfl⟩
    · rcases other with rfl | ⟨status, present, differs⟩
      · have none : ∀ status : String, ¬ ∃ verdict ∈ verdicts plan handlers,
            verdict.status? = some status := by
          intro status
          rw [← mem_statuses_iff executed]
          exact List.not_mem_nil
        obtain ⟨verdict, member⟩ := List.exists_mem_of_ne_nil _ (@verdicts_ne_nil plan handlers)
        cases read : verdict.status? with
        | some status => exact absurd ⟨verdict, member, read⟩ (none status)
        | none =>
          cases verdict with
          | raised => exact absurd member settled
          | _ => cases read
      · obtain ⟨verdict, member, read⟩ := (mem_statuses_iff executed).mp present
        refine ⟨verdict, member, fun skipped => differs ?_⟩
        rw [status?_skipped_iff.mpr skipped] at read
        exact (Option.some.inj read).symm
  · rintro ⟨quiet, verdict, member, other⟩
    have settled : .raised ∉ verdicts plan handlers := quiet .raised (by decide)
    obtain ⟨scenarios, executed⟩ := executes_iff.mpr settled
    refine ⟨scenarios, executed, rollupStatus_pass_iff.mpr ⟨?_, ?_, .inr ?_⟩⟩
    · rw [mem_statuses_iff executed]
      rintro ⟨bad, present, read⟩
      rw [status?_bad_iff (.inl rfl)] at read
      exact quiet bad (by rw [read]; decide) present
    · rw [mem_statuses_iff executed]
      rintro ⟨bad, present, read⟩
      rw [status?_bad_iff (.inr rfl)] at read
      exact quiet bad (by rw [read]; decide) present
    · cases read : verdict.status? with
      | none =>
        cases verdict with
        | raised => exact absurd member settled
        | _ => cases read
      | some status =>
        refine ⟨status, (mem_statuses_iff executed).mpr ⟨verdict, member, read⟩, ?_⟩
        rintro rfl
        exact other (status?_skipped_iff.mp read)

theorem simulated_of_simulate (simulates : plan.simulate = true) {ended : Verdict}
    (member : ended ∈ verdicts plan handlers) : ended = .simulated ∨ ended = .raised := by
  obtain ⟨⟨value, place⟩, -, rfl⟩ := List.mem_map.mp member
  cases value with
  | map scenarioDef => simp [verdict, simulates]
  | _ => exact .inr rfl

theorem passUnearned_iff :
    PassUnearned plan handlers ↔
      ((∀ verdict ∈ [.raised, .returned "fail", .returned "warning"],
          verdict ∉ verdicts plan handlers) ∧
        ∃ verdict ∈ verdicts plan handlers, verdict ∉ skippedVerdicts) ∧
      ∃ verdict ∈ verdicts plan handlers, verdict ≠ .returned "pass" := by
  constructor
  · intro unearned
    cases unearned with
    | beside executes quiet unearned other => exact ⟨⟨quiet, other⟩, unearned⟩
    | simulated simulates runs =>
      have every : ∀ verdict ∈ verdicts plan handlers, verdict = .simulated := by
        intro verdict member
        rcases simulated_of_simulate simulates member with rfl | rfl
        · rfl
        · exact absurd member runs
      obtain ⟨first, member⟩ := List.exists_mem_of_ne_nil _ (@verdicts_ne_nil plan handlers)
      obtain rfl := every first member
      refine ⟨⟨?_, _, member, by decide⟩, _, member, by decide⟩
      intro verdict listed present
      obtain rfl := every verdict present
      revert listed
      decide
  · rintro ⟨⟨quiet, other⟩, unearned⟩
    by_cases simulates : plan.simulate = true
    · exact .simulated simulates (quiet .raised (by decide))
    · exact .beside (Bool.eq_false_iff.mpr simulates) quiet unearned other

/-- With the flag on, a pass is earned unless all is simulated, or skipped
scenarios stand beside others. -/
theorem passEarned_iff (plan : CertificationPlan) (handlers : ScenarioHandlers)
    (flags : Option (Except PyError Value)) :
    PassEarned plan handlers flags ↔
      (featureEnabled "brokers.certification_required" plan.profile flags = .ok true →
        ¬ PassUnearned plan handlers) := by
  rw [passUnearned_iff, ← executed_pass_iff]
  constructor
  · rintro earned required ⟨⟨scenarios, executed, passes⟩, verdict, member, other⟩
    have ran : run plan handlers flags "" "" "" = .ok (resultOf plan "" "" "" scenarios,
        metricsEntry (resultOf plan "" "" "" scenarios)) := by
      simp [run, required, executed, bind, Except.bind, pure, Except.pure]
    exact other ((earned _ _ _ _ _ ran passes).2 verdict member)
  · intro guarded runId startedAt finishedAt result entry ran passes
    refine ⟨verdicts_ne_nil, fun verdict member => ?_⟩
    obtain ⟨required, enabled, ran⟩ := bind_ok ran
    cases required with
    | false =>
      obtain ⟨rfl, -⟩ := Prod.mk.inj (Except.ok.inj ran)
      exact absurd passes (by simp [resultOf, rollupStatus, bypassScenario])
    | true =>
      obtain ⟨scenarios, executed, returned⟩ := bind_ok ran
      obtain ⟨rfl, -⟩ := Prod.mk.inj (Except.ok.inj returned)
      by_contra other
      exact guarded enabled ⟨⟨scenarios, executed, passes⟩, verdict, member, other⟩

def requiredFlags : Option (Except PyError Value) :=
  some (.ok (.map [("defaults", .map [("paper",
    .map [("brokers.certification_required", .bool true)])])]))

def planOf (simulate : Bool) (scenarios : List Value) : CertificationPlan where
  planId := "broker_certification"
  adapter := "sandbox"
  profile := "paper"
  simulate
  scenarios

def connected : ScenarioHandlers := fun scenarioType _ _ =>
  .ok { name := scenarioType, scenarioType, status := "pass" }

/-- A plan passes with a scenario that no handler knows beside one that passes,
and a simulated plan passes without a handler. -/
theorem pass_without_handler :
    ¬ PassEarned (planOf false [.map [("name", .str "sandbox_connectivity")],
        .map [("name", .str "kill_switch")]]) connected requiredFlags ∧
      ¬ PassEarned (planOf true []) connected requiredFlags := by
  constructor
  · intro earned
    obtain ⟨-, every⟩ := earned "run" "" "" _ _ rfl (by decide)
    exact absurd (every .unsupported (by decide)) (by decide)
  · intro earned
    obtain ⟨-, every⟩ := earned "run" "" "" _ _ rfl (by decide)
    exact absurd (every .simulated (by decide)) (by decide)

end Run

end BrokerCertificationSuite

end FxToushi.Brokers
