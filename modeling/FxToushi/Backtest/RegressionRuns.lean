import FxToushi.Backtest.Regression
import FxToushi.Py.Json

namespace FxToushi.Backtest.Regression

open Data Py

/-! # Scenarios that do not disturb each other

Scenarios exchange data through the manifests only.  Those that write manifests
of different names run as they would alone.
-/

section Suite

variable (environment : Environment) (maxConcurrency : Nat) (scenarios : List RegressionScenario)

/-- The thread changes a manifest that another one wrote. -/
def Overwrites (state : Shared Nat String Stage (Option ManifestFile)) (index : Nat) : Prop :=
  let threads := runScenarios environment maxConcurrency scenarios
  ∃ file, state.store (threads.key index) = some file ∧ file.owner ≠ index ∧
    (threads.step state index).store (threads.key index) ≠ some file

/-- However the threads take turns, no manifest of another scenario is
overwritten, and the metrics of each scenario are those it has on its own. -/
def Independent : Prop :=
  ∀ schedule : List Nat,
    EachStep (runScenarios environment maxConcurrency scenarios).step
        (fun state index => ¬ Overwrites environment maxConcurrency scenarios state index)
        fresh schedule ∧
      ∀ index scenario result, scenarios[index]? = some scenario →
        (runFrom (runScenarios environment maxConcurrency scenarios).step fresh schedule).locals
          index = .finished result →
        result.metrics = (executeScenario environment scenario).metrics

/-- The bundle loads and the manifest can be opened. -/
def Writes (scenario : RegressionScenario) : Prop :=
  (∃ bundle, loadBundle environment scenario.marketDataBundle = .ok bundle) ∧
    environment.opens (manifestName scenario.scenarioId) = true

/-- No two scenarios that write have the same id. -/
def DistinctWriters : Prop :=
  ∀ first second : Nat, ∀ left right, scenarios[first]? = some left →
    scenarios[second]? = some right → Writes environment left → Writes environment right →
    left.scenarioId = right.scenarioId → first = second

end Suite

/-! ## One thread -/

section Thread

variable {environment : Environment} {maxConcurrency : Nat} {scenarios : List RegressionScenario}
  {scenario : RegressionScenario} {index : Nat}

theorem key_of_scenario (listed : scenarios[index]? = some scenario) :
    (runScenarios environment maxConcurrency scenarios).key index =
      manifestName scenario.scenarioId := by
  simp [runScenarios, listed]

theorem act_of_scenario (environment : Environment) (maxConcurrency : Nat)
    (listed : scenarios[index]? = some scenario) :
    (runScenarios environment maxConcurrency scenarios).act index =
      actScenario environment index scenario := by
  funext seen
  simp [runScenarios, listed]

theorem act_beyond (unlisted : scenarios[index]? = none) (seen : Stage × Option ManifestFile) :
    (runScenarios environment maxConcurrency scenarios).act index seen = seen := by
  simp [runScenarios, unlisted]

theorem manifestName_injective {first second : String}
    (same : manifestName first = manifestName second) : first = second := by
  have chars := congrArg String.toList same
  simp only [manifestName, String.toList_append] at chars
  exact String.toList_inj.mp (List.append_cancel_left (List.append_cancel_right chars))

theorem executeScenario_failed {failure : Failure}
    (failed : loadBundle environment scenario.marketDataBundle = .error failure) :
    executeScenario environment scenario = errorResult scenario failure := by
  rw [executeScenario, failed]

theorem executeScenario_refused {bundle : BundleManifest}
    (loaded : loadBundle environment scenario.marketDataBundle = .ok bundle)
    (refused : ¬ environment.opens (manifestName scenario.scenarioId) = true) :
    executeScenario environment scenario = unopened scenario := by
  rw [executeScenario, loaded]
  exact if_neg refused

theorem executeScenario_written {bundle : BundleManifest}
    (loaded : loadBundle environment scenario.marketDataBundle = .ok bundle)
    (opens : environment.opens (manifestName scenario.scenarioId) = true) :
    executeScenario environment scenario =
      resultOf environment scenario (manifestText environment scenario bundle) := by
  rw [executeScenario, loaded]
  exact if_pos opens

/-- What a scenario that writes sees while its manifest is its own. -/
inductive Solo (environment : Environment) (owner : Nat) (scenario : RegressionScenario) :
    Stage × Option ManifestFile → Prop where
  | waiting : Solo environment owner scenario (.waiting, none)
  | loading : Solo environment owner scenario (.loading, none)
  | opening {bundle} (loaded : loadBundle environment scenario.marketDataBundle = .ok bundle) :
      Solo environment owner scenario (.opening bundle, none)
  | writing {bundle} (loaded : loadBundle environment scenario.marketDataBundle = .ok bundle)
      (opens : environment.opens (manifestName scenario.scenarioId) = true) :
      Solo environment owner scenario (.writing bundle, some { owner, text := [] })
  | reading {bundle} (loaded : loadBundle environment scenario.marketDataBundle = .ok bundle)
      (opens : environment.opens (manifestName scenario.scenarioId) = true) :
      Solo environment owner scenario
        (.reading, some { owner, text := manifestText environment scenario bundle })
  | finished {file} (own : ∀ held, file = some held → held.owner = owner) :
      Solo environment owner scenario (.finished (executeScenario environment scenario), file)

theorem Solo.act {owner : Nat} {seen : Stage × Option ManifestFile}
    (solo : Solo environment owner scenario seen) :
    Solo environment owner scenario (actScenario environment owner scenario seen) := by
  cases solo with
  | waiting => exact .loading
  | loading =>
    rw [actScenario]
    cases loaded : loadBundle environment scenario.marketDataBundle with
    | error failure =>
      dsimp only
      rw [← executeScenario_failed loaded]
      exact .finished (fun _ none => nomatch none)
    | ok bundle => exact .opening loaded
  | opening loaded =>
    rw [actScenario]
    by_cases opens : environment.opens (manifestName scenario.scenarioId) = true
    · rw [if_pos opens]
      exact .writing loaded opens
    · rw [if_neg opens, ← executeScenario_refused loaded opens]
      exact .finished (fun _ none => nomatch none)
  | writing loaded opens =>
    simp only [actScenario, Option.map_some, List.drop_nil, List.append_nil]
    exact .reading loaded opens
  | reading loaded opens =>
    rw [actScenario]
    dsimp only
    rw [← executeScenario_written loaded opens]
    exact .finished (fun held same => by rw [← Option.some.inj same])
  | finished own => exact .finished own

theorem Solo.iterate {owner : Nat} {seen : Stage × Option ManifestFile}
    (solo : Solo environment owner scenario seen) (count : Nat) :
    Solo environment owner scenario ((actScenario environment owner scenario)^[count] seen) := by
  induction count with
  | zero => exact solo
  | succ count ih =>
    rw [Function.iterate_succ_apply']
    exact ih.act

theorem Solo.owned {owner : Nat} {stage : Stage} {file : ManifestFile}
    (solo : Solo environment owner scenario (stage, some file)) : file.owner = owner := by
  cases solo with
  | writing loaded opens => rfl
  | reading loaded opens => rfl
  | finished own => exact own file rfl

theorem Solo.result {owner : Nat} {result : RegressionResult} {file : Option ManifestFile}
    (solo : Solo environment owner scenario (.finished result, file)) :
    result = executeScenario environment scenario := by
  cases solo with
  | finished own => rfl

/-- What a scenario that writes nothing goes through. -/
def QuietStage (environment : Environment) (scenario : RegressionScenario) : Stage → Prop
  | .waiting => True
  | .loading => True
  | .opening bundle => loadBundle environment scenario.marketDataBundle = .ok bundle
  | .writing _ => False
  | .reading => False
  | .finished result => result = executeScenario environment scenario

theorem quiet_of_not_writes (listed : scenarios[index]? = some scenario)
    (silent : ¬ Writes environment scenario) :
    (runScenarios environment maxConcurrency scenarios).Quiet index
      (QuietStage environment scenario) := by
  intro stage file quiet
  rw [act_of_scenario _ _ listed]
  cases stage with
  | waiting => exact ⟨trivial, rfl⟩
  | loading =>
    rw [actScenario]
    cases loaded : loadBundle environment scenario.marketDataBundle with
    | error failure => exact ⟨(executeScenario_failed loaded).symm, rfl⟩
    | ok bundle => exact ⟨loaded, rfl⟩
  | opening bundle =>
    have refused : ¬ environment.opens (manifestName scenario.scenarioId) = true :=
      fun opens => silent ⟨⟨bundle, quiet⟩, opens⟩
    rw [actScenario, if_neg refused]
    exact ⟨(executeScenario_refused quiet refused).symm, rfl⟩
  | writing bundle => exact absurd quiet id
  | reading => exact absurd quiet id
  | finished result => exact ⟨quiet, rfl⟩

end Thread

/-! ## Scenarios with distinct ids -/

section Distinct

variable {environment : Environment} {maxConcurrency : Nat} {scenarios : List RegressionScenario}

/-- What each thread sees, whatever the others did. -/
structure Undisturbed (environment : Environment) (maxConcurrency : Nat)
    (scenarios : List RegressionScenario) (state : Shared Nat String Stage (Option ManifestFile)) :
    Prop where
  solo : ∀ index scenario, scenarios[index]? = some scenario → Writes environment scenario →
    Solo environment index scenario
      ((runScenarios environment maxConcurrency scenarios).view state index)
  quiet : ∀ index scenario, scenarios[index]? = some scenario → ¬ Writes environment scenario →
    QuietStage environment scenario (state.locals index)

theorem alone_of_distinct (maxConcurrency : Nat) (distinct : DistinctWriters environment scenarios)
    {index : Nat} {scenario : RegressionScenario} (listed : scenarios[index]? = some scenario)
    (writes : Writes environment scenario) :
    (runScenarios environment maxConcurrency scenarios).Alone fresh index := by
  intro other different sameKey
  cases found : scenarios[other]? with
  | none =>
    refine ⟨fun _ => True, trivial, fun stage file _ => ?_⟩
    rw [act_beyond found]
    exact ⟨trivial, rfl⟩
  | some second =>
    have silent : ¬ Writes environment second := by
      intro writesToo
      rw [key_of_scenario found, key_of_scenario listed] at sameKey
      exact different (distinct other index second scenario found listed writesToo writes
        (manifestName_injective sameKey))
    exact ⟨QuietStage environment second, trivial, quiet_of_not_writes found silent⟩

theorem undisturbed_of_distinct (distinct : DistinctWriters environment scenarios)
    (schedule : List Nat) :
    Undisturbed environment maxConcurrency scenarios
      (runFrom (runScenarios environment maxConcurrency scenarios).step fresh schedule) where
  solo := by
    intro index scenario listed writes
    obtain ⟨count, seen⟩ :=
      (alone_of_distinct maxConcurrency distinct listed writes).view_run schedule
    rw [seen, act_of_scenario _ _ listed]
    exact Solo.waiting.iterate count
  quiet := by
    intro index scenario listed silent
    have waits : QuietStage environment scenario (fresh.locals index) := trivial
    exact (quiet_of_not_writes listed silent).run waits schedule

theorem Undisturbed.result {state : Shared Nat String Stage (Option ManifestFile)}
    (undisturbed : Undisturbed environment maxConcurrency scenarios state) {index : Nat}
    {scenario : RegressionScenario} {result : RegressionResult}
    (listed : scenarios[index]? = some scenario)
    (finished : state.locals index = .finished result) :
    result = executeScenario environment scenario := by
  by_cases writes : Writes environment scenario
  · have solo := undisturbed.solo index scenario listed writes
    rw [Threads.view, finished] at solo
    exact solo.result
  · have quiet := undisturbed.quiet index scenario listed writes
    rw [finished] at quiet
    exact quiet

theorem not_overwrites_of_act {state : Shared Nat String Stage (Option ManifestFile)} {index : Nat}
    (kept : ((runScenarios environment maxConcurrency scenarios).act index
      ((runScenarios environment maxConcurrency scenarios).view state index)).2 =
        state.store ((runScenarios environment maxConcurrency scenarios).key index)) :
    ¬ Overwrites environment maxConcurrency scenarios state index := by
  intro ⟨file, held, other, changed⟩
  refine changed ?_
  rw [Threads.step]
  split
  · exact (Threads.store_advance_self _ state index).trans (kept.trans held)
  · exact held

theorem Undisturbed.not_overwrites {state : Shared Nat String Stage (Option ManifestFile)}
    (undisturbed : Undisturbed environment maxConcurrency scenarios state) (index : Nat) :
    ¬ Overwrites environment maxConcurrency scenarios state index := by
  cases listed : scenarios[index]? with
  | none => exact not_overwrites_of_act (by rw [act_beyond listed]; rfl)
  | some scenario =>
    by_cases writes : Writes environment scenario
    · intro ⟨file, held, other, _⟩
      have solo := undisturbed.solo index scenario listed writes
      rw [Threads.view, held] at solo
      exact other solo.owned
    · have quiet := undisturbed.quiet index scenario listed writes
      exact not_overwrites_of_act (quiet_of_not_writes listed writes _ _ quiet).2

theorem independent_of_distinct (distinct : DistinctWriters environment scenarios) :
    Independent environment maxConcurrency scenarios := by
  intro schedule
  constructor
  · have always : Throughout (runScenarios environment maxConcurrency scenarios).step
        (Undisturbed environment maxConcurrency scenarios) fresh schedule :=
      throughout_iff_prefix.mpr (fun taken _ _ => undisturbed_of_distinct distinct taken)
    exact always.eachStep (fun _ index undisturbed => undisturbed.not_overwrites index)
  · intro index scenario result listed finished
    rw [(undisturbed_of_distinct distinct schedule).result listed finished]

end Distinct

/-! ## One scenario after the other -/

section InTurn

variable {environment : Environment} {maxConcurrency : Nat} {scenarios : List RegressionScenario}
  {scenario : RegressionScenario}

/-- A scenario that was let in ends with its own result, and with its manifest if
it writes one. -/
theorem act_through (environment : Environment) (scenario : RegressionScenario) (owner : Nat)
    (file : Option ManifestFile) :
    ∃ after, (actScenario environment owner scenario)^[4] (.loading, file) =
        (.finished (executeScenario environment scenario), after) ∧
      (Writes environment scenario → ∃ text, after = some { owner, text }) ∧
      (¬ Writes environment scenario → after = file) := by
  cases loaded : loadBundle environment scenario.marketDataBundle with
  | error failure =>
    have silent : ¬ Writes environment scenario := by
      intro ⟨⟨bundle, same⟩, _⟩
      rw [loaded] at same
      cases same
    exact ⟨file, by simp [actScenario, loaded, executeScenario], fun writes => absurd writes silent,
      fun _ => rfl⟩
  | ok bundle =>
    cases opens : environment.opens (manifestName scenario.scenarioId) with
    | true =>
      refine ⟨some { owner, text := manifestText environment scenario bundle }, ?_,
        fun _ => ⟨_, rfl⟩, fun silent => absurd ⟨⟨bundle, loaded⟩, opens⟩ silent⟩
      simp [actScenario, loaded, opens, executeScenario]
    | false =>
      refine ⟨file, ?_, fun writes => ?_, fun _ => rfl⟩
      · simp [actScenario, loaded, executeScenario, opens]
      · exact absurd (opens.symm.trans writes.2) Bool.false_ne_true

theorem actScenario_started (owner : Nat) (stage : Stage) (file : Option ManifestFile)
    (started : stage.isWaiting = false) :
    (actScenario environment owner scenario (stage, file)).1.isWaiting = false := by
  cases stage with
  | waiting => cases started
  | loading =>
    rw [actScenario]
    cases loadBundle environment scenario.marketDataBundle <;> rfl
  | opening bundle =>
    rw [actScenario]
    split <;> rfl
  | writing bundle => rfl
  | reading => cases file <;> rfl
  | finished result => rfl

/-- The first scenarios have run and the others wait. -/
structure RanThrough (environment : Environment) (scenarios : List RegressionScenario)
    (state : Shared Nat String Stage (Option ManifestFile)) (count : Nat) : Prop where
  done : ∀ index, index < count → ∃ result, state.locals index = .finished result
  waits : ∀ index, count ≤ index → state.locals index = .waiting
  owners : ∀ name file, state.store name = some file → file.owner < count
  written : ∀ index scenario, index < count → scenarios[index]? = some scenario →
    Writes environment scenario → ∃ file, state.store (manifestName scenario.scenarioId) = some file

variable {state : Shared Nat String Stage (Option ManifestFile)} {count : Nat}

theorem RanThrough.ready (ran : RanThrough environment scenarios state count)
    (within : count < scenarios.length) (room : 0 < maxConcurrency) :
    (runScenarios environment maxConcurrency scenarios).ready state.locals count = true := by
  have settled : ∀ earlier ∈ List.range count, (state.locals earlier).isWaiting = false ∧
      (state.locals earlier).runs = false := by
    intro earlier member
    obtain ⟨result, finished⟩ := ran.done earlier (List.mem_range.mp member)
    rw [finished]
    exact ⟨rfl, rfl⟩
  have none : (List.range count).countP (fun earlier => (state.locals earlier).runs) = 0 :=
    List.countP_eq_zero.mpr (fun earlier member => by simp [(settled earlier member).2])
  have started : (List.range count).all (fun earlier => !(state.locals earlier).isWaiting) = true :=
    List.all_eq_true.mpr (fun earlier member => by simp [(settled earlier member).1])
  simp [runScenarios, Regression.ready, within, none, started, room]

theorem ready_of_started (environment : Environment) (maxConcurrency : Nat)
    (within : count < scenarios.length) (stages : Nat → Stage)
    (started : (stages count).isWaiting = false) :
    (runScenarios environment maxConcurrency scenarios).ready stages count = true := by
  simp [runScenarios, Regression.ready, within, started]

theorem RanThrough.entered (ran : RanThrough environment scenarios state count)
    (listed : scenarios[count]? = some scenario) (room : 0 < maxConcurrency) :
    let threads := runScenarios environment maxConcurrency scenarios
    threads.step state count = threads.advance state count ∧
      threads.view (threads.advance state count) count =
        (.loading, state.store (manifestName scenario.scenarioId)) := by
  intro threads
  have within := (List.getElem?_eq_some_iff.mp listed).1
  refine ⟨if_pos (ran.ready within room), ?_⟩
  rw [threads.view_advance_self, act_of_scenario _ _ listed, Threads.view,
    ran.waits count (Nat.le_refl count), key_of_scenario listed]
  rfl

/-- What a scenario that goes first leaves behind. -/
theorem RanThrough.seen (ran : RanThrough environment scenarios state count)
    (listed : scenarios[count]? = some scenario) (room : 0 < maxConcurrency) :
    let threads := runScenarios environment maxConcurrency scenarios
    let after := runFrom threads.step state (List.replicate 5 count)
    threads.view after count = (actScenario environment count scenario)^[4]
        (.loading, state.store (manifestName scenario.scenarioId)) ∧
      (∀ other, other ≠ count → after.locals other = state.locals other) ∧
      ∀ name, name ≠ manifestName scenario.scenarioId → after.store name = state.store name := by
  intro threads after
  have within := (List.getElem?_eq_some_iff.mp listed).1
  have key : threads.key count = manifestName scenario.scenarioId := key_of_scenario listed
  have act : threads.act count = actScenario environment count scenario :=
    act_of_scenario environment maxConcurrency listed
  obtain ⟨first, entered⟩ := ran.entered listed room
  have run : after = runFrom threads.step (threads.advance state count) (List.replicate 4 count) :=
    congrArg (fun state => runFrom threads.step state (List.replicate 4 count)) first
  have started : ((threads.advance state count).locals count).isWaiting = false :=
    congrArg (fun seen => seen.1.isWaiting) entered
  obtain ⟨seen, others, names⟩ := threads.view_run_own (fun stage => stage.isWaiting = false)
    (ready_of_started environment maxConcurrency within)
    (fun stage file here => by rw [act]; exact actScenario_started count stage file here) started 4
  rw [run]
  refine ⟨by rw [seen, act, entered], fun other different => ?_, fun name different => ?_⟩
  · rw [others other different, Threads.locals_advance different]
  · rw [names name (by rwa [key]), Threads.store_advance (by rwa [key])]

theorem RanThrough.next (ran : RanThrough environment scenarios state count)
    (listed : scenarios[count]? = some scenario) (room : 0 < maxConcurrency) :
    RanThrough environment scenarios (runFrom
      (runScenarios environment maxConcurrency scenarios).step state (List.replicate 5 count))
      (count + 1) := by
  obtain ⟨seen, others, names⟩ := ran.seen listed room
  obtain ⟨file, ends, wrote, kept⟩ := act_through environment scenario count
    (state.store (manifestName scenario.scenarioId))
  rw [ends, Threads.view, key_of_scenario listed] at seen
  obtain ⟨finished, held⟩ := Prod.mk.inj seen
  refine ⟨?_, ?_, ?_, ?_⟩
  · intro index before
    by_cases same : index = count
    · exact ⟨_, by rw [same, finished]⟩
    · obtain ⟨result, earlier⟩ := ran.done index (by omega)
      exact ⟨result, by rw [others index same, earlier]⟩
  · intro index after
    rw [others index (by omega)]
    exact ran.waits index (by omega)
  · intro name found there
    by_cases same : name = manifestName scenario.scenarioId
    · rw [same, held] at there
      by_cases writes : Writes environment scenario
      · obtain ⟨text, written⟩ := wrote writes
        rw [written] at there
        rw [← Option.some.inj there]
        exact Nat.lt_succ_self count
      · rw [kept writes] at there
        exact Nat.lt_succ_of_lt (ran.owners _ _ there)
    · rw [names name same] at there
      exact Nat.lt_succ_of_lt (ran.owners _ _ there)
  · intro index other before there writesOther
    by_cases here : index = count
    · rw [here, listed] at there
      cases there
      obtain ⟨text, written⟩ := wrote writesOther
      exact ⟨_, held.trans written⟩
    · have earlier := ran.written index other (by omega) there writesOther
      by_cases same : manifestName other.scenarioId = manifestName scenario.scenarioId
      · by_cases writes : Writes environment scenario
        · obtain ⟨text, written⟩ := wrote writes
          exact ⟨_, by rw [same, held, written]⟩
        · rw [same, held, kept writes, ← same]
          exact earlier
      · rw [names _ same]
        exact earlier

def oneByOne (count : Nat) : List Nat :=
  (List.range count).flatMap (fun index => List.replicate 5 index)

theorem ranThrough_oneByOne (room : 0 < maxConcurrency) (within : count ≤ scenarios.length) :
    RanThrough environment scenarios
      (runFrom (runScenarios environment maxConcurrency scenarios).step fresh (oneByOne count))
      count := by
  induction count with
  | zero =>
    have none : ∀ index : Nat, ¬ index < 0 := Nat.not_lt_zero
    exact ⟨fun index before => absurd before (none index), fun _ _ => rfl,
      fun _ _ absurdity => (nomatch absurdity),
      fun index _ before => absurd before (none index)⟩
  | succ count ih =>
    have ran := ih (by omega)
    have listed : scenarios[count]? = some scenarios[count] :=
      List.getElem?_eq_getElem (by omega)
    have steps : oneByOne (count + 1) = oneByOne count ++ List.replicate 5 count := by
      simp [oneByOne, List.range_succ]
    rw [steps, runFrom, List.foldl_append]
    exact ran.next listed room

/-- A scenario that is let in after one of the same name overwrites its
manifest. -/
theorem RanThrough.overwrites (ran : RanThrough environment scenarios state count)
    (listed : scenarios[count]? = some scenario) (writes : Writes environment scenario)
    (room : 0 < maxConcurrency) {file : ManifestFile}
    (there : state.store (manifestName scenario.scenarioId) = some file) :
    Overwrites environment maxConcurrency scenarios
      (runFrom (runScenarios environment maxConcurrency scenarios).step state [count, count])
      count := by
  obtain ⟨⟨bundle, loaded⟩, opens⟩ := writes
  have within := (List.getElem?_eq_some_iff.mp listed).1
  have act := act_of_scenario environment maxConcurrency listed
  have again := ready_of_started environment maxConcurrency within
  obtain ⟨first, entered⟩ := ran.entered listed room
  rw [Overwrites]
  generalize runScenarios environment maxConcurrency scenarios = threads at *
  have second : threads.step (threads.advance state count) count =
      threads.advance (threads.advance state count) count :=
    if_pos (again _ (congrArg (fun seen => seen.1.isWaiting) entered))
  have opening : threads.view (threads.advance (threads.advance state count) count) count =
      (.opening bundle, some file) := by
    rw [threads.view_advance_self, entered, act, there]
    simp [actScenario, loaded]
  have run : runFrom threads.step state [count, count] =
      threads.advance (threads.advance state count) count := by
    rw [← second, ← first]
    rfl
  have third : threads.step (threads.advance (threads.advance state count) count) count =
      threads.advance (threads.advance (threads.advance state count) count) count :=
    if_pos (again _ (congrArg (fun seen => seen.1.isWaiting) opening))
  rw [run]
  refine ⟨file, congrArg Prod.snd opening, Nat.ne_of_lt (ran.owners _ file there), ?_⟩
  rw [third, threads.store_advance_self, opening, act]
  simp only [actScenario, opens, if_true, ne_eq, Option.some.injEq]
  intro same
  have owned := congrArg ManifestFile.owner same
  exact absurd owned (Nat.ne_of_gt (ran.owners _ file there))

end InTurn

/-- Scenarios are independent exactly when no two that write have the same id. -/
theorem independent_iff (environment : Environment) (value : Nat)
    (scenarios : List RegressionScenario) :
    Independent environment (coercePositive value) scenarios ↔
      DistinctWriters environment scenarios := by
  constructor
  · intro independent
    have room : 0 < coercePositive value := by
      rw [coercePositive]
      omega
    have ordered : ∀ (first second : Nat) left right, scenarios[first]? = some left →
        scenarios[second]? = some right → Writes environment left → Writes environment right →
        left.scenarioId = right.scenarioId → ¬ first < second := by
      intro first second left right listedLeft listedRight writesLeft writesRight same before
      have within := (List.getElem?_eq_some_iff.mp listedRight).1
      have ran : RanThrough environment scenarios (runFrom (runScenarios environment
          (coercePositive value) scenarios).step fresh (oneByOne second)) second :=
        ranThrough_oneByOne room (Nat.le_of_lt within)
      obtain ⟨file, there⟩ := ran.written first left before listedLeft writesLeft
      rw [same] at there
      have each := (independent (oneByOne second ++ [second, second, second])).1
      rw [eachStep_append] at each
      exact each.2.2.2.1 (ran.overwrites listedRight writesRight room there)
    intro first second left right listedLeft listedRight writesLeft writesRight same
    have notBefore := ordered first second left right listedLeft listedRight writesLeft writesRight
      same
    have notAfter := ordered second first right left listedRight listedLeft writesRight writesLeft
      same.symm
    omega
  · exact independent_of_distinct

/-! ## Two scenarios of one id -/

/-- Two bundles, and manifests written as JSON, which YAML reads as well. -/
def twoBundles : Environment where
  readJson := fun path =>
    if path = "a/manifest.json" ∨ path = "b/manifest.json" then
      some (.ok (.map [("bars_path", .str "bars.parquet")]))
    else none
  present := fun _ => true
  sha256Path := fun _ => .ok "sha256:0"
  opens := fun _ => true
  dump := Json.dumps true
  load := fun text =>
    match Json.loads text with
    | some value => .ok value
    | none => .error (.other "YAMLError")
  backtest := fun path => .ok [("pf_all", .number (if path = "a/bars.parquet" then 1 else 2))]
  formatDelta := fun _ => ""

def regressionOf (bundle : String) : RegressionScenario where
  scenarioId := "s"
  strategyId := "donchian"
  marketDataBundle := bundle
  expectedMetrics := [{ metric := "pf_all", target := 1, tolerance := 0 }]

def Stage.result? : Stage → Option RegressionResult
  | .finished result => some result
  | _ => none

theorem finished_of_result? {stage : Stage} {result : RegressionResult}
    (found : stage.result? = some result) : stage = .finished result := by
  cases stage with
  | finished other => exact congrArg Stage.finished (Option.some.inj found)
  | _ => cases found

/-- The first scenario reports what the engine finds in the bundle of the
second. -/
theorem shared_id_dependent :
    ¬ Independent twoBundles (coercePositive 2) [regressionOf "a", regressionOf "b"] := by
  intro independent
  let result : RegressionResult :=
    { scenarioId := "s", status := "fail", metrics := .metrics [("pf_all", .number 2)]
      drifts := [{ scenarioId := "s", metric := "pf_all", expected := 1, actual := some 2
                   tolerance := 0, notes := "delta=" }]
      artifacts := ["manifest_s.yaml"] }
  have finished : ((runFrom (runScenarios twoBundles (coercePositive 2)
      [regressionOf "a", regressionOf "b"]).step fresh [0, 1, 0, 0, 0, 1, 1, 1, 0]).locals
        0).result? = some result := by
    decide +kernel
  have same := (independent [0, 1, 0, 0, 0, 1, 1, 1, 0]).2 0 (regressionOf "a") result rfl
    (finished_of_result? finished)
  exact absurd same (by decide +kernel)

end FxToushi.Backtest.Regression
