import FxToushi.Core.Resync

namespace FxToushi.Core

open Data Py

/-! # Resync passes, one after the other

What a completed job and a job handed to a manual CSV are promised: the first
is not backfilled again, the second is entered once for each of its symbols.
-/

namespace Resync

variable {Moment : Type} {calendar : Calendar Moment}

/-! ## The jobs of a queue file -/

/-- Every record stands under its own job. -/
def KeyedByJob (latest : Dict String Mapping) : Prop :=
  ∀ jobId payload, latest.get? jobId = some payload → textField payload "job_id" "" = jobId

theorem textField_of_truth {payload : Mapping} {key default : String}
    (given : (field payload key).truth = true) :
    textField payload key default = (field payload key).text := by
  rw [textField, orValue, if_pos given]

theorem keyed_empty : KeyedByJob Dict.empty := by
  intro jobId payload found
  cases found

theorem latestEntries_keyed {entries : List Value} {latest result : Dict String Mapping}
    (keyed : KeyedByJob latest) (loaded : latestEntries latest entries = .ok result) :
    KeyedByJob result := by
  induction entries generalizing latest with
  | nil =>
    obtain rfl := Except.ok.inj loaded
    exact keyed
  | cons entry rest ih =>
    cases entry with
    | map payload =>
      refine ih ?_ loaded
      split
      · rename_i given
        intro jobId other found
        rw [Dict.get?_set] at found
        split at found
        · rename_i same
          obtain rfl := Option.some.inj found
          rw [textField_of_truth given, same]
        · exact keyed jobId other found
      · exact keyed
    | null | bool value | int value | float value text | str text | list items => cases loaded

theorem fromMapping_jobId {now : Moment × Moment} {payload : Mapping} {job : ResyncJob Moment}
    (read : ResyncJob.fromMapping calendar now payload = .ok job) :
    job.jobId = textField payload "job_id" "" := by
  obtain ⟨symbols, -, read⟩ := bind_ok read
  obtain ⟨failoverPlan, -, read⟩ := bind_ok read
  obtain ⟨retryCount, -, read⟩ := bind_ok read
  rw [← Except.ok.inj read]

theorem sortJobs_perm {jobs sorted : List (ResyncJob Moment)}
    (result : sortJobs calendar jobs = .ok sorted) : sorted.Perm jobs := by
  unfold sortJobs at result
  split at result
  · rw [← Except.ok.inj result]
    exact List.mergeSort_perm _ _
  · cases result

/-- A pass meets every job once. -/
theorem loadQueue_distinct {now : Nat → Moment × Moment} {content : List Char}
    {jobs : List (ResyncJob Moment)} (loaded : loadQueue calendar now content = .ok jobs) :
    (jobs.map ResyncJob.jobId).Nodup := by
  obtain ⟨latest, entered, loaded⟩ := bind_ok loaded
  obtain ⟨unsorted, mapped, sorted⟩ := bind_ok loaded
  have keyed : KeyedByJob latest := latestEntries_keyed keyed_empty entered
  have named : unsorted.map ResyncJob.jobId =
      latest.entries.zipIdx.map (fun entry => textField entry.1.2 "job_id" "") :=
    map_of_tryMap (fun _ _ read => fromMapping_jobId read) mapped
  have keys : unsorted.map ResyncJob.jobId =
      (latest.entries.zipIdx.map Prod.fst).map Prod.fst := by
    rw [named, List.map_map]
    refine List.map_congr_left fun entry member => ?_
    have listed : entry.1 ∈ latest.entries := by
      have image := List.mem_map_of_mem (f := Prod.fst) member
      rwa [List.zipIdx_map_fst] at image
    exact keyed entry.1.1 entry.1.2 (latest.get?_eq_some_iff.mpr listed)
  rw [List.zipIdx_map_fst] at keys
  have permuted := (sortJobs_perm sorted).map ResyncJob.jobId
  rw [keys] at permuted
  exact permuted.nodup_iff.mpr latest.distinct

/-! ## What a pass does -/

/-- The job and the symbol a manual CSV is asked for. -/
def ManualCsvJob.source (job : ManualCsvJob) : String × String := (job.sourceJobId, job.symbol)

namespace Pass

variable (pass : Pass Moment)

def backfills (job : ResyncJob Moment) : Bool :=
  job.jobId != "" && !pass.dryRun && !job.manualCsvRequired

def needsManual (job : ResyncJob Moment) : Bool :=
  job.jobId != "" && !pass.dryRun && (job.manualCsvRequired ||
    match pass.backfill job with
    | .failed _ => true
    | .completed _ | .raised => false)

def stopsAt (job : ResyncJob Moment) : Bool :=
  pass.backfills job && pass.backfill job == .raised

/-- The jobs of the pass up to the first whose backfill raises. -/
def reached : List (ResyncJob Moment) → List (ResyncJob Moment)
  | [] => []
  | job :: rest => job :: if pass.stopsAt job then [] else reached rest

def manualSources (job : ResyncJob Moment) : List (String × String) :=
  if pass.needsManual job then job.symbols.map (fun symbol => (job.jobId, symbol)) else []

end Pass

def Progress.sources (progress : Progress Moment) : List (String × String) :=
  progress.manualJobs.map ManualCsvJob.source

section Progress

variable (stamp : Nat → String) (progress : Progress Moment) (job : ResyncJob Moment)

@[simp] theorem sources_of (queue : List Char) (backfilled : List (ResyncJob Moment))
    (summary : Summary) :
    Progress.sources { queue, manualJobs := progress.manualJobs, backfilled, summary } =
      progress.sources := rfl

@[simp] theorem report_sources (result : Mapping) :
    (report progress result).sources = progress.sources := rfl

@[simp] theorem report_backfilled (result : Mapping) :
    (report progress result).backfilled = progress.backfilled := rfl

@[simp] theorem update_sources (update : Update) :
    (appendQueueUpdate calendar stamp progress job update).sources = progress.sources := rfl

@[simp] theorem update_backfilled (update : Update) :
    (appendQueueUpdate calendar stamp progress job update).backfilled = progress.backfilled := rfl

@[simp] theorem enqueue_backfilled :
    (enqueueManualCsvJobs calendar stamp progress job).backfilled = progress.backfilled := rfl

@[simp] theorem enqueue_sources :
    (enqueueManualCsvJobs calendar stamp progress job).sources =
      progress.sources ++ job.symbols.map (fun symbol => (job.jobId, symbol)) := by
  have named : ManualCsvJob.source ∘ manualCsvJob calendar stamp job =
      (fun symbol => (job.jobId, symbol)) ∘ Prod.fst := rfl
  rw [Progress.sources, enqueueManualCsvJobs, List.map_append, List.map_map, named,
    ← List.map_map, List.zipIdx_map_fst]
  rfl

end Progress

/-- What one job adds, and when the pass ends with it. -/
theorem processJob_spec (pass : Pass Moment) (index : Nat) (progress : Progress Moment)
    (job : ResyncJob Moment) :
    (processJob calendar pass index progress job).1.sources =
        progress.sources ++ pass.manualSources job ∧
      (processJob calendar pass index progress job).1.backfilled =
        progress.backfilled ++ [job].filter pass.backfills ∧
      (processJob calendar pass index progress job).2 = !pass.stopsAt job := by
  by_cases unnamed : job.jobId = ""
  · simp [processJob, Pass.manualSources, Pass.needsManual, Pass.stopsAt, Pass.backfills, unnamed]
  · cases dry : pass.dryRun with
    | true =>
      simp [processJob, Pass.manualSources, Pass.needsManual, Pass.stopsAt, Pass.backfills,
        unnamed, dry]
    | false =>
      cases manual : job.manualCsvRequired with
      | true =>
        simp [processJob, Pass.manualSources, Pass.needsManual, Pass.stopsAt, Pass.backfills,
          unnamed, dry, manual]
      | false =>
        cases outcome : pass.backfill job <;>
          simp [processJob, Pass.manualSources, Pass.needsManual, Pass.stopsAt,
            Pass.backfills, unnamed, dry, manual, outcome]

theorem processJobs_spec (pass : Pass Moment) (jobs : List (ResyncJob Moment)) (index : Nat)
    (progress : Progress Moment) :
    (processJobs calendar pass (jobs.zipIdx index) progress).sources =
        progress.sources ++ (pass.reached jobs).flatMap pass.manualSources ∧
      (processJobs calendar pass (jobs.zipIdx index) progress).backfilled =
        progress.backfilled ++ (pass.reached jobs).filter pass.backfills := by
  induction jobs generalizing index progress with
  | nil => simp [processJobs, Pass.reached]
  | cons job rest ih =>
    have worked := @processJob_spec _ calendar pass index progress job
    obtain ⟨later, goesOn, result⟩ : ∃ later goesOn,
        processJob calendar pass index progress job = (later, goesOn) := ⟨_, _, rfl⟩
    rw [result] at worked
    obtain ⟨sources, backfilled, rfl⟩ := worked
    cases stops : pass.stopsAt job with
    | true =>
      rw [stops] at result
      simp only [List.zipIdx_cons, processJobs, result, Bool.not_true, Pass.reached, stops,
        if_true, List.flatMap_cons, List.flatMap_nil, List.append_nil]
      exact ⟨sources, backfilled⟩
    | false =>
      obtain ⟨moreSources, moreBackfilled⟩ := ih (index + 1) later
      have appended : (pass.reached (job :: rest)).filter pass.backfills =
          [job].filter pass.backfills ++ (pass.reached rest).filter pass.backfills := by
        rw [← List.filter_append, Pass.reached, stops]
        rfl
      rw [stops] at result
      simp only [List.zipIdx_cons, processJobs, result, Bool.not_false]
      rw [moreSources, moreBackfilled, sources, backfilled, appended, Pass.reached, stops]
      simp only [Bool.false_eq_true, if_false, List.flatMap_cons, List.append_assoc, and_self]

/-! ## Settled once -/

/-- No job was backfilled whose latest record was completed, and no manual CSV
was asked for twice for one job and symbol. -/
structure SettledOnce (state : Coordinator Moment) : Prop where
  neverAgain : ∀ job ∈ state.backfilled, job.status ≠ "completed"
  enqueuedOnce : (state.manualJobs.map ManualCsvJob.source).Nodup

/-- A job of the pass that is not marked for a manual CSV is not completed, and
one that needs a manual CSV names each symbol once and none that was asked for
before. -/
def NothingSettled (calendar : Calendar Moment) (state : Coordinator Moment)
    (pass : Pass Moment) : Prop :=
  ∀ content jobs, state.queue = some content → loadQueue calendar pass.now content = .ok jobs →
    ∀ job ∈ pass.reached jobs,
      (pass.backfills job = true → job.status ≠ "completed") ∧
      (pass.needsManual job = true → job.symbols.Nodup ∧ ∀ symbol ∈ job.symbols,
        (job.jobId, symbol) ∉ state.manualJobs.map ManualCsvJob.source)

theorem reached_sublist (pass : Pass Moment) (jobs : List (ResyncJob Moment)) :
    (pass.reached jobs).Sublist jobs := by
  induction jobs with
  | nil => exact .slnil
  | cons job rest ih =>
    refine List.Sublist.cons_cons job ?_
    split
    · exact List.nil_sublist rest
    · exact ih

theorem manualSources_job {pass : Pass Moment} {job : ResyncJob Moment} {source : String × String}
    (member : source ∈ pass.manualSources job) : source.1 = job.jobId := by
  unfold Pass.manualSources at member
  split at member
  · obtain ⟨symbol, -, rfl⟩ := List.mem_map.mp member
    rfl
  · cases member

theorem nodup_manualSources_iff {pass : Pass Moment} {job : ResyncJob Moment} :
    (pass.manualSources job).Nodup ↔ (pass.needsManual job = true → job.symbols.Nodup) := by
  have injective : Function.Injective (fun symbol : String => (job.jobId, symbol)) :=
    fun _ _ same => (Prod.mk.inj same).2
  unfold Pass.manualSources
  cases needed : pass.needsManual job with
  | true => simpa using List.nodup_map_iff injective
  | false => simp

theorem mem_manualSources {pass : Pass Moment} {job : ResyncJob Moment} {source : String × String} :
    source ∈ pass.manualSources job ↔
      pass.needsManual job = true ∧ ∃ symbol ∈ job.symbols, (job.jobId, symbol) = source := by
  unfold Pass.manualSources
  cases needed : pass.needsManual job <;> simp

theorem nodup_flatMap_iff {pass : Pass Moment} {jobs : List (ResyncJob Moment)}
    (distinct : (jobs.map ResyncJob.jobId).Nodup) :
    (jobs.flatMap pass.manualSources).Nodup ↔
      ∀ job ∈ jobs, pass.needsManual job = true → job.symbols.Nodup := by
  have apart : jobs.Pairwise (Function.onFun List.Disjoint pass.manualSources) := by
    refine (List.pairwise_map.mp distinct).imp fun different => ?_
    intro source first second
    exact different ((manualSources_job first).symm.trans (manualSources_job second))
  rw [List.nodup_flatMap]
  simp only [nodup_manualSources_iff, apart, and_true]

theorem neverAgain_iff {state : Coordinator Moment} (settled : SettledOnce state)
    (pass : Pass Moment) (jobs : List (ResyncJob Moment)) :
    (∀ job ∈ state.backfilled ++ (pass.reached jobs).filter pass.backfills,
        job.status ≠ "completed") ↔
      ∀ job ∈ pass.reached jobs, pass.backfills job = true → job.status ≠ "completed" := by
  simp only [List.mem_append, List.mem_filter]
  constructor
  · intro every job member backfilled
    exact every job (.inr ⟨member, backfilled⟩)
  · rintro later job (before | ⟨member, backfilled⟩)
    · exact settled.neverAgain job before
    · exact later job member backfilled

theorem enqueuedOnce_iff {state : Coordinator Moment} (settled : SettledOnce state)
    (pass : Pass Moment) {jobs : List (ResyncJob Moment)}
    (distinct : (jobs.map ResyncJob.jobId).Nodup) :
    (state.manualJobs.map ManualCsvJob.source ++
        (pass.reached jobs).flatMap pass.manualSources).Nodup ↔
      ∀ job ∈ pass.reached jobs, pass.needsManual job = true → job.symbols.Nodup ∧
        ∀ symbol ∈ job.symbols,
          (job.jobId, symbol) ∉ state.manualJobs.map ManualCsvJob.source := by
  have reachedOnce : ((pass.reached jobs).map ResyncJob.jobId).Nodup :=
    distinct.sublist ((reached_sublist pass jobs).map ResyncJob.jobId)
  rw [List.nodup_append', nodup_flatMap_iff reachedOnce]
  constructor
  · rintro ⟨-, single, fresh⟩ job member needed
    refine ⟨single job member needed, fun symbol listed before => fresh before ?_⟩
    exact List.mem_flatMap.mpr ⟨job, member, mem_manualSources.mpr ⟨needed, symbol, listed, rfl⟩⟩
  · intro every
    refine ⟨settled.enqueuedOnce, fun job member needed => (every job member needed).1, ?_⟩
    intro source before added
    obtain ⟨job, member, named⟩ := List.mem_flatMap.mp added
    obtain ⟨needed, symbol, listed, rfl⟩ := mem_manualSources.mp named
    exact (every job member needed).2 symbol listed before

theorem runPass_spec (state : Coordinator Moment) {pass : Pass Moment} {content : List Char}
    {jobs : List (ResyncJob Moment)} (queue : state.queue = some content)
    (loaded : loadQueue calendar pass.now content = .ok jobs) :
    (runPass calendar state pass).manualJobs.map ManualCsvJob.source =
        state.manualJobs.map ManualCsvJob.source ++
          (pass.reached jobs).flatMap pass.manualSources ∧
      (runPass calendar state pass).backfilled =
        state.backfilled ++ (pass.reached jobs).filter pass.backfills := by
  simp only [runPass, queue, loaded]
  exact processJobs_spec pass jobs 0
    { queue := content, manualJobs := state.manualJobs, backfilled := state.backfilled }

/-- One pass keeps the promise exactly when nothing it meets is settled. -/
theorem settledOnce_runPass_iff {state : Coordinator Moment} (settled : SettledOnce state)
    (pass : Pass Moment) :
    SettledOnce (runPass calendar state pass) ↔ NothingSettled calendar state pass := by
  cases queue : state.queue with
  | none =>
    simp only [runPass, NothingSettled, queue]
    exact ⟨fun _ _ _ absurdity => (nomatch absurdity), fun _ => settled⟩
  | some content =>
    cases loaded : loadQueue calendar pass.now content with
    | error error =>
      simp only [runPass, NothingSettled, queue, loaded]
      refine ⟨fun _ other jobs same failed => ?_, fun _ => settled⟩
      obtain rfl := Option.some.inj same
      rw [loaded] at failed
      cases failed
    | ok jobs =>
      obtain ⟨sources, backfilled⟩ := runPass_spec state queue loaded
      have never := neverAgain_iff settled pass jobs
      have once := enqueuedOnce_iff settled pass (loadQueue_distinct loaded)
      rw [← backfilled] at never
      rw [← sources] at once
      constructor
      · rintro ⟨neverAgain, enqueuedOnce⟩ other found same read job member
        obtain rfl := Option.some.inj (queue.symm.trans same)
        obtain rfl := Except.ok.inj (loaded.symm.trans read)
        exact ⟨never.mp neverAgain job member, once.mp enqueuedOnce job member⟩
      · intro nothing
        have each := nothing content jobs queue loaded
        exact ⟨never.mpr fun job member => (each job member).1,
          once.mpr fun job member => (each job member).2⟩

/-- From any queue file, every state of a run keeps the promise exactly when no
pass meets a settled job. -/
theorem settledOnce_iff (calendar : Calendar Moment) (queue : Option (List Char))
    (passes : List (Pass Moment)) :
    Throughout (runPass calendar) SettledOnce { queue } passes ↔
      EachStep (runPass calendar) (NothingSettled calendar) { queue } passes :=
  throughout_iff_eachStep SettledOnce (fun _ settled => settled)
    (fun _ pass settled => (settledOnce_runPass_iff settled pass).mpr)
    (fun _ pass settled => (settledOnce_runPass_iff settled pass).mp)
    ⟨fun _ absurdity => (nomatch absurdity), List.nodup_nil⟩

/-! ## A record reads back as its job -/

/-- A job whose texts are given and whose times read back. -/
structure ReadsBack (calendar : Calendar Moment) (job : ResyncJob Moment) : Prop where
  jobId : job.jobId ≠ ""
  timeframe : job.timeframe ≠ ""
  priority : job.priority ≠ ""
  start : parseDt calendar (.str (calendar.isoformat job.start)) = some job.start
  stop : parseDt calendar (.str (calendar.isoformat job.stop)) = some job.stop

def updated (job : ResyncJob Moment) (update : Update) : ResyncJob Moment :=
  { job with
    manualCsvRequired := job.manualCsvRequired || update.status == "manual_csv_required"
    retryCount := update.retryCount.getD job.retryCount
    status := update.status }

theorem textsField_of_texts {payload : Mapping} {key : String} {items : List String}
    (found : field payload key = texts items) : textsField payload key = .ok items := by
  have given : orValue (texts items) (.list []) = texts items := by
    cases items <;> rfl
  rw [textsField, found, given]
  simp [texts, iterate, Except.map, Value.text, Function.comp_def]

theorem textField_of_str {payload : Mapping} {key default text : String}
    (found : field payload key = .str text) (filled : text ≠ "") :
    textField payload key default = text := by
  simp [textField, found, orValue, Value.truth, filled, Value.text]

/-- A record is read as the job it was written for, with the new status. -/
theorem fromMapping_queueUpdate {job : ResyncJob Moment} (readsBack : ReadsBack calendar job)
    (now : Moment × Moment) (ts : String) {update : Update} (filled : update.status ≠ "") :
    ResyncJob.fromMapping calendar now (queueUpdate calendar ts job update) =
      .ok (updated job update) := by
  have symbols : textsField (queueUpdate calendar ts job update) "symbols" = .ok job.symbols :=
    textsField_of_texts (by simp [field, queueUpdate, Mapping.get?])
  have failoverPlan : textsField (queueUpdate calendar ts job update) "failover_plan" =
      .ok job.failoverPlan := textsField_of_texts (by simp [field, queueUpdate, Mapping.get?])
  have jobId : textField (queueUpdate calendar ts job update) "job_id" "" = job.jobId :=
    textField_of_str (by simp [field, queueUpdate, Mapping.get?]) readsBack.jobId
  have timeframe : textField (queueUpdate calendar ts job update) "timeframe" "M5" =
      job.timeframe :=
    textField_of_str (by simp [field, queueUpdate, Mapping.get?]) readsBack.timeframe
  have priority : textField (queueUpdate calendar ts job update) "priority" "normal" =
      job.priority :=
    textField_of_str (by simp [field, queueUpdate, Mapping.get?]) readsBack.priority
  have status : textField (queueUpdate calendar ts job update) "status" "queued" =
      update.status := textField_of_str (by simp [field, queueUpdate, Mapping.get?]) filled
  have retryCount : (orValue (field (queueUpdate calendar ts job update) "retry_count")
      (.int 0)).toInt = .ok (update.retryCount.getD job.retryCount) := by
    have found : field (queueUpdate calendar ts job update) "retry_count" =
        .int (update.retryCount.getD job.retryCount) := by
      simp [field, queueUpdate, Mapping.get?]
    rw [found, orValue]
    split
    · rfl
    · rename_i zero
      simp only [Value.truth, bne_iff_ne, ne_eq, not_not] at zero
      rw [zero]
      rfl
  rw [ResyncJob.fromMapping, symbols, failoverPlan, retryCount, jobId, timeframe, priority, status]
  simp [updated, field, queueUpdate, Mapping.get?, readsBack.start, readsBack.stop, Value.truth,
    bind, Except.bind, pure, Except.pure]

/-- The records of one job leave one entry, the last of them. -/
theorem latestEntries_updates {job : ResyncJob Moment} (named : job.jobId ≠ "")
    (latest : Dict String Mapping) (first : String × Update) (later : List (String × Update)) :
    latestEntries latest ((first :: later).map (fun entry =>
        .map (queueUpdate calendar entry.1 job entry.2))) =
      .ok (latest.set job.jobId (queueUpdate calendar ((first :: later).getLast nofun).1 job
        ((first :: later).getLast nofun).2)) := by
  have found : ∀ entry : String × Update,
      field (queueUpdate calendar entry.1 job entry.2) "job_id" = .str job.jobId := by
    intro entry
    simp [field, queueUpdate, Mapping.get?]
  have entered : ∀ (entry : String × Update) (latest : Dict String Mapping) (rest : List Value),
      latestEntries latest (.map (queueUpdate calendar entry.1 job entry.2) :: rest) =
        latestEntries (latest.set job.jobId (queueUpdate calendar entry.1 job entry.2)) rest := by
    intro entry latest rest
    simp [latestEntries, found, Value.truth, named, Value.text]
  induction later generalizing latest first with
  | nil => simp [entered, latestEntries]
  | cons second later ih =>
    rw [List.map_cons, entered, ih, Dict.set_set]
    rfl

theorem loadEntries_updates {job : ResyncJob Moment} (readsBack : ReadsBack calendar job)
    (now : Nat → Moment × Moment) (first : String × Update) (later : List (String × Update))
    (filled : ((first :: later).getLast nofun).2.status ≠ "") :
    loadEntries calendar now ((first :: later).map (fun entry =>
        .map (queueUpdate calendar entry.1 job entry.2))) =
      .ok [updated job ((first :: later).getLast nofun).2] := by
  have single : ∀ payload : Mapping,
      (Dict.empty.set job.jobId payload).entries = [(job.jobId, payload)] := fun _ => rfl
  have read := fromMapping_queueUpdate readsBack (now 0) ((first :: later).getLast nofun).1 filled
  have sorted : ∀ job : ResyncJob Moment, sortJobs calendar [job] = .ok [job] := by
    intro job
    simp [sortJobs, comparable]
  rw [loadEntries, latestEntries_updates readsBack.jobId]
  simp only [bind, Except.bind, single, List.zipIdx_cons, List.zipIdx_nil, tryMap, read, pure,
    Except.pure, sorted]

/-- Texts of one form in UTC stand for the moments they name. -/
def utcTexts : Calendar String where
  fromisoformat := some
  isoformat := id
  date text := String.ofList (text.toList.take 10)
  compare left right := compareOfLessAndEq left right

def queuedJob : ResyncJob String where
  jobId := "job-1"
  resyncJobId := .str "resync-1"
  start := "2025-01-01T00:00:00Z"
  stop := "2025-01-01T01:00:00Z"
  symbols := ["USDJPY"]
  timeframe := "M5"
  priority := "normal"
  failoverPlan := ["primary"]
  manualCsvRequired := false
  retryCount := 0
  status := "queued"
  segmentIndex := .int 1
  segmentTotal := .int 1

theorem queuedJob_readsBack : ReadsBack utcTexts queuedJob where
  jobId := by decide
  timeframe := by decide
  priority := by decide
  start := by decide +kernel
  stop := by decide +kernel

/-- A record of the job that is written and read on one line. -/
def recordOf (update : Update)
    (wellFormed : Json.WellFormed (.map (queueUpdate utcTexts "2025-01-02T00:00:00Z" queuedJob
      update))) : Record where
  payload := queueUpdate utcTexts "2025-01-02T00:00:00Z" queuedJob update
  wellFormed

def failure : Update where
  status := "failed"
  error := some "no data"
  retryCount := some 0

def queued : Record := recordOf { status := "queued" } (by decide +kernel)

def completed : Record := recordOf { status := "completed" } (by decide +kernel)

def failed : Record := recordOf failure (by decide +kernel)

def failedPass : Pass String where
  now _ := ("2025-01-02T00:00:00Z", "2025-01-02T00:00:00Z")
  stamp _ _ := "2025-01-02T00:00:00Z"
  backfill _ := .failed "no data"

theorem loadQueue_records {records : List Record} (oneLine : ∀ record ∈ records, record.OneLine)
    (now : Nat → Moment × Moment) :
    loadQueue calendar now (writeAll records) =
      loadEntries calendar now (records.map (fun record => .map record.payload)) := by
  have read : ResyncQueue.readJsonl (writeAll records) =
      records.map (fun record => .map record.payload) :=
        (readLines_iff trims_id records).mpr oneLine
  rw [loadQueue, read]

theorem loadQueue_completed : loadQueue utcTexts failedPass.now (writeAll [completed]) =
    .ok [updated queuedJob { status := "completed" }] := by
  rw [loadQueue_records (oneLine_of_every (by decide +kernel))]
  exact loadEntries_updates queuedJob_readsBack _ (_, _) [] (by decide)

theorem loadQueue_queued :
    loadQueue utcTexts failedPass.now (writeAll [queued]) = .ok [queuedJob] := by
  have same : updated queuedJob { status := "queued" } = queuedJob := by
    simp [updated, queuedJob]
  rw [loadQueue_records (oneLine_of_every (by decide +kernel)), ← same]
  exact loadEntries_updates queuedJob_readsBack _ (_, _) [] (by decide)

theorem loadQueue_failed : loadQueue utcTexts failedPass.now (writeAll [queued, failed]) =
    .ok [updated queuedJob failure] := by
  rw [loadQueue_records (oneLine_of_every (by decide +kernel))]
  exact loadEntries_updates queuedJob_readsBack _ (_, _) [(_, _)] (by decide)

theorem writeAll_concat (records : List Record) (record : Record) :
    writeAll (records ++ [record]) =
      ResyncQueue.appendJsonl (writeAll records) record.payload := by
  rw [writeAll, List.foldl_append]
  rfl

theorem processJobs_failed {pass : Pass Moment} {job : ResyncJob Moment} {message : String}
    (backfilled : pass.backfills job = true) (outcome : pass.backfill job = .failed message)
    (index : Nat) (progress : Progress Moment) :
    (processJobs calendar pass [(job, index)] progress).queue =
      ResyncQueue.appendJsonl progress.queue (queueUpdate calendar (pass.stamp index 0) job {
        status := "failed", error := some message, retryCount := some job.retryCount }) := by
  simp only [Pass.backfills, Bool.and_eq_true, bne_iff_ne, ne_eq, Bool.not_eq_true'] at backfilled
  obtain ⟨⟨named, live⟩, unmarked⟩ := backfilled
  simp only [processJobs, processJob, if_neg named, live, unmarked, outcome, Bool.false_eq_true,
    if_false]
  rfl

theorem runPass_queue {content : List Char} {pass : Pass Moment} {jobs : List (ResyncJob Moment)}
    (loaded : loadQueue calendar pass.now content = .ok jobs) :
    (runPass calendar { queue := some content } pass).queue =
      some (processJobs calendar pass jobs.zipIdx
        { queue := content, manualJobs := [], backfilled := [] }).queue := by
  simp only [runPass, loaded]

theorem queue_afterFailure :
    (runPass utcTexts { queue := some (writeAll [queued]) } failedPass).queue =
      some (writeAll [queued, failed]) := by
  have appended : ∀ progress : Progress String,
      (processJobs utcTexts failedPass [(queuedJob, 0)] progress).queue =
        ResyncQueue.appendJsonl progress.queue failed.payload :=
    fun progress => processJobs_failed rfl rfl 0 progress
  rw [runPass_queue loadQueue_queued]
  exact congrArg some ((appended _).trans (writeAll_concat [queued] failed).symm)

/-- A completed job is backfilled again, and a job that fails twice is handed
to a manual CSV twice. -/
theorem settled_job_repeated :
    ¬ SettledOnce (runPass utcTexts { queue := some (writeAll [completed]) } failedPass) ∧
      ¬ SettledOnce (runFrom (runPass utcTexts) { queue := some (writeAll [queued]) }
        [failedPass, failedPass]) := by
  constructor
  · intro settled
    obtain ⟨-, backfilled⟩ := runPass_spec { queue := some (writeAll [completed]) } rfl
      loadQueue_completed
    have again := settled.neverAgain
    rw [backfilled] at again
    exact again _ List.mem_cons_self rfl
  · intro settled
    obtain ⟨first, -⟩ := runPass_spec { queue := some (writeAll [queued]) } rfl loadQueue_queued
    obtain ⟨second, -⟩ := runPass_spec _ queue_afterFailure loadQueue_failed
    have once := settled.enqueuedOnce
    rw [runFrom, List.foldl_cons, List.foldl_cons, List.foldl_nil, second, first] at once
    exact absurd once (by decide)

end Resync

end FxToushi.Core
