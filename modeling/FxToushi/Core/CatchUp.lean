import FxToushi.Ingestion.BackfillRanges

namespace FxToushi.Core

open Calendar Data Ingestion.BackfillRanges Py

/-! # Catch-up jobs

The window missed while the session was down is handed to the resync queue,
in one job or, for long windows that need a manual CSV, in four hour segments.
`environment` supplies the clock readings and the random job identifiers.
-/

namespace CatchUp

def minute : Int := 60000000

def totalMinutes (start stop : DateTime) : Int := (stop.instant - start.instant) / minute

/-- The instant of `replace(microsecond=0)`, the form in which a job stores its bounds. -/
def dropMicroseconds (ts : DateTime) : Int := ts.instant - ts.time % 1000000

structure BackfillRequest where
  resyncJobId : String
  start : Option DateTime
  stop : DateTime
  symbols : List String
  timeframe : String
  priority : String
  failoverPlan : List String
  manualCsvRequired : Bool
  retryCount : Int
  dryRun : Bool
deriving DecidableEq

structure BackfillJob where
  ts : Timestamp
  jobId : String
  resyncJobId : String
  segmentIndex : Nat
  segmentTotal : Nat
  start : Int
  stop : Int
  rangeMinutes : Int
  symbols : List String
  timeframe : String
  priority : String
  failoverPlan : List String
  manualCsvRequired : Bool
  retryCount : Int
  status : String
deriving Repr, DecidableEq

structure Environment where
  now : Nat → Timestamp
  jobId : Nat → String
  queuePath : String
  writable : Bool

def splitWindow (request : BackfillRequest) (minutes : Int) : Bool :=
  request.manualCsvRequired && decide (3 ≤ request.retryCount) && decide (24 * 60 ≤ minutes)

def segmentMinutes (request : BackfillRequest) (minutes : Int) : Int :=
  if splitWindow request minutes then 4 * 60 else minutes

def segmentLength (request : BackfillRequest) (start : DateTime) : Int :=
  segmentMinutes request (totalMinutes start request.stop) * minute

/-- The loop is that of the ranges of a backfill. -/
def segments (request : BackfillRequest) (start : DateTime) : Yielded :=
  rangesFrom request.stop (segmentLength request start) start

def payload (environment : Environment) (request : BackfillRequest) (total : Nat)
    (entry : Range × Nat) : BackfillJob where
  ts := environment.now entry.2
  jobId := environment.jobId entry.2
  resyncJobId := request.resyncJobId
  segmentIndex := entry.2
  segmentTotal := total
  start := dropMicroseconds entry.1.1
  stop := dropMicroseconds entry.1.2
  rangeMinutes := totalMinutes entry.1.1 entry.1.2
  symbols := request.symbols
  timeframe := request.timeframe
  priority := request.priority
  failoverPlan := request.failoverPlan
  manualCsvRequired := request.manualCsvRequired
  retryCount := request.retryCount
  status := if request.dryRun then "planned" else "queued"

/-- The jobs and, where they could be appended to it, the queue file. -/
def enqueueBackfillJobs (environment : Environment) (request : BackfillRequest) :
    Except CalendarError (List BackfillJob × Option String) :=
  match request.start with
  | none => .ok ([], none)
  | some start =>
    if request.symbols = [] then .ok ([], none)
    else if start.offset.isSome ≠ request.stop.offset.isSome then .error .type
    else if totalMinutes start request.stop ≤ 0 then .ok ([], none)
    else do
      (segments request start).finish
      let ranges := (segments request start).ranges
      let payloads := (ranges.zipIdx 1).map (payload environment request ranges.length)
      if payloads = [] then return (payloads, none)
      else return (payloads, if environment.writable then some environment.queuePath else none)

/-- Contiguous jobs of at least a minute each that together cover the window,
and a single one of them unless the window is split. -/
structure PartitionsWindow (request : BackfillRequest) (start : DateTime)
    (jobs : List BackfillJob) : Prop where
  first : jobs.head?.map BackfillJob.start = some (dropMicroseconds start)
  last : jobs.getLast?.map BackfillJob.stop = some (dropMicroseconds request.stop)
  contiguous : jobs.IsChain (fun left right => left.stop = right.start)
  minutes : ∀ job ∈ jobs, 1 ≤ job.rangeMinutes
  forward : ∀ job ∈ jobs, job.start < job.stop
  total : (jobs.map BackfillJob.rangeMinutes).sum = totalMinutes start request.stop
  single : splitWindow request (totalMinutes start request.stop) = false → jobs.length = 1

/-- No part of a minute is left over after the last segment. -/
def NoShortRemainder (request : BackfillRequest) (start : DateTime) : Prop :=
  (request.stop.instant - start.instant) % minute = 0 ∨
    splitWindow request (totalMinutes start request.stop) = true ∧
      minute ≤ (request.stop.instant - start.instant) % (4 * 60 * minute)

section Window

variable {request : BackfillRequest} {start : DateTime}

theorem segmentLength_pos (whole : 1 ≤ totalMinutes start request.stop) :
    0 < segmentLength request start := by
  simp only [segmentLength, segmentMinutes, minute]
  split <;> omega

theorem nonempty_of_whole (whole : 1 ≤ totalMinutes start request.stop) :
    start.instant < request.stop.instant := by
  simp only [totalMinutes, minute] at whole
  omega

theorem partition_of_fits (whole : 1 ≤ totalMinutes start request.stop)
    (fits : Fits start request.stop (segmentLength request start)) :
    Partition start request.stop (segmentLength request start) (segments request start) :=
  (rangesFrom_yields (segmentLength_pos whole) (nonempty_of_whole whole)).1 fits

theorem finish_iff (whole : 1 ≤ totalMinutes start request.stop) :
    (segments request start).finish = .ok () ↔
      Fits start request.stop (segmentLength request start) := by
  constructor
  · intro finished
    by_contra outside
    have error := (rangesFrom_yields (segmentLength_pos whole) (nonempty_of_whole whole)).2 outside
    exact absurd (error.symm.trans (Yielded.finish_ok_iff.mp finished)) (by simp)
  · intro fits
    exact Yielded.finish_ok_iff.mpr (partition_of_fits whole fits).ended

theorem enqueueBackfillJobs_ok {environment : Environment}
    {outcome : List BackfillJob × Option String} (known : request.start = some start)
    (alike : start.offset.isSome = request.stop.offset.isSome) (wanted : request.symbols ≠ [])
    (whole : 1 ≤ totalMinutes start request.stop)
    (enqueued : enqueueBackfillJobs environment request = .ok outcome) :
    Fits start request.stop (segmentLength request start) ∧
      outcome.1 = ((segments request start).ranges.zipIdx 1).map
        (payload environment request (segments request start).ranges.length) := by
  have minutes : ¬ totalMinutes start request.stop ≤ 0 := by omega
  simp only [enqueueBackfillJobs, known, if_neg wanted, if_neg (not_not_intro alike),
    if_neg minutes] at enqueued
  obtain ⟨⟨⟩, finished, enqueued⟩ := bind_ok enqueued
  refine ⟨(finish_iff whole).mp finished, ?_⟩
  split at enqueued
  · exact (congrArg Prod.fst (Except.ok.inj enqueued)).symm
  · exact (congrArg Prod.fst (Except.ok.inj enqueued)).symm

theorem map_payload {Field : Type} (environment : Environment) (request : BackfillRequest)
    (total : Nat) (field : BackfillJob → Field) (ofRange : Range → Field)
    (reads : ∀ entry, field (payload environment request total entry) = ofRange entry.1)
    (ranges : List Range) (index : Nat) :
    ((ranges.zipIdx index).map (payload environment request total)).map field =
      ranges.map ofRange := by
  induction ranges generalizing index with
  | nil => rfl
  | cons range rest ih => rw [List.zipIdx_cons, List.map_cons, List.map_cons, reads, ih,
      List.map_cons]

/-- Segments of at least a minute are exactly those without a short remainder. -/
theorem segments_minutes_iff (whole : 1 ≤ totalMinutes start request.stop)
    (partition : Partition start request.stop (segmentLength request start)
      (segments request start)) :
    (∀ range ∈ (segments request start).ranges, minute ≤ range.length) ↔
      NoShortRemainder request start := by
  have positive := segmentLength_pos whole
  have lengths : (∀ range ∈ (segments request start).ranges, minute ≤ range.length) ↔
      ∀ segment ∈ (segments request start).segments, minute ≤ segment.length := by
    rw [Yielded.segments, List.forall_mem_map]
    rfl
  rw [lengths, partition.segments positive,
    forall_cut_length_iff (fun length => minute ≤ length) positive (nonempty_of_whole whole)]
  cases window : splitWindow request (totalMinutes start request.stop) with
  | true =>
    simp only [NoShortRemainder, segmentLength, segmentMinutes, window, minute, if_true, true_and]
    omega
  | false =>
    simp only [NoShortRemainder, segmentLength, segmentMinutes, window, Bool.false_eq_true,
      if_false, false_and, or_false] at positive ⊢
    simp only [totalMinutes, minute] at whole positive ⊢
    generalize request.stop.instant - start.instant = window at whole positive ⊢
    have parts := Int.mul_ediv_add_emod window 60000000
    generalize window / 60000000 = count at whole positive parts ⊢
    have remainder : window % (count * 60000000) = window % 60000000 := by
      have whole_part : window = window % 60000000 + count * 60000000 := by omega
      rw [whole_part, Int.add_emod_right, Int.emod_eq_of_lt (by omega) (by omega)]
      omega
    rw [remainder]
    omega

theorem contiguous_payload (environment : Environment) (total : Nat) {ranges : List Range}
    (contiguous : ranges.IsChain (fun left right => left.2 = right.1)) (index : Nat) :
    ((ranges.zipIdx index).map (payload environment request total)).IsChain
      (fun left right => left.stop = right.start) := by
  induction contiguous generalizing index with
  | nil => exact .nil
  | singleton range => exact .singleton _
  | cons_cons meets rest ih => exact .cons_cons (congrArg dropMicroseconds meets) (ih (index + 1))

theorem forward_of_minute {range : Range} (long : minute ≤ range.length) :
    dropMicroseconds range.1 < dropMicroseconds range.2 := by
  obtain ⟨start, stop⟩ := range
  rw [length_eq] at long
  simp only [minute, dropMicroseconds] at long ⊢
  omega

theorem rangeMinutes_pos_iff (range : Range) :
    1 ≤ totalMinutes range.1 range.2 ↔ minute ≤ range.length := by
  obtain ⟨start, stop⟩ := range
  rw [length_eq]
  simp only [totalMinutes, minute]
  omega

/-- What is not split and has no short remainder is one segment. -/
theorem segments_single (whole : 1 ≤ totalMinutes start request.stop)
    (exact : NoShortRemainder request start)
    (partition : Partition start request.stop (segmentLength request start)
      (segments request start))
    (unsplit : splitWindow request (totalMinutes start request.stop) = false) :
    (segments request start).ranges.length = 1 := by
  have short : request.stop.instant - start.instant ≤ segmentLength request start := by
    rcases exact with whole_minutes | ⟨split, -⟩
    · simp only [segmentLength, segmentMinutes, unsplit, Bool.false_eq_true, if_false]
      simp only [totalMinutes, minute] at whole_minutes ⊢
      omega
    · rw [split] at unsplit
      exact absurd unsplit (by decide)
  have forward := nonempty_of_whole whole
  have positive := segmentLength_pos whole
  have atMost := (cut_length_le_one_iff positive forward).mpr short
  have atLeast := List.length_pos_iff.mpr (cut_ne_nil positive forward)
  rw [← partition.segments positive, Yielded.segments, List.length_map] at atMost atLeast
  omega

/-- The jobs of a window without a short remainder partition it. -/
theorem partitionsWindow_segments (environment : Environment)
    (whole : 1 ≤ totalMinutes start request.stop) (exact : NoShortRemainder request start)
    (partition : Partition start request.stop (segmentLength request start)
      (segments request start)) :
    PartitionsWindow request start (((segments request start).ranges.zipIdx 1).map
      (payload environment request (segments request start).ranges.length)) := by
  have positive := segmentLength_pos whole
  have forward := nonempty_of_whole whole
  have minutes := (segments_minutes_iff whole partition).mpr exact
  have cuts := partition.segments positive
  have first := partition.first
  have last := partition.last
  have contiguous := partition.contiguous
  have single := segments_single whole exact partition
  rw [Yielded.segments] at cuts
  clear partition
  generalize (segments request start).ranges = ranges at minutes cuts first last contiguous single
  have member : ∀ job ∈ (ranges.zipIdx 1).map (payload environment request ranges.length),
      ∃ range ∈ ranges, job.rangeMinutes = totalMinutes range.1 range.2 ∧
        job.start = dropMicroseconds range.1 ∧ job.stop = dropMicroseconds range.2 := by
    intro job found
    obtain ⟨entry, listed, rfl⟩ := List.mem_map.mp found
    exact ⟨entry.1, List.fst_mem_of_mem_zipIdx listed, rfl, rfl, rfl⟩
  constructor
  · have starts := map_payload environment request ranges.length BackfillJob.start
      (fun range => dropMicroseconds range.1) (fun _ => rfl) ranges 1
    rw [← List.head?_map, starts, List.head?_map]
    simpa using congrArg (Option.map dropMicroseconds) first
  · have stops := map_payload environment request ranges.length BackfillJob.stop
      (fun range => dropMicroseconds range.2) (fun _ => rfl) ranges 1
    rw [← List.getLast?_map, stops, List.getLast?_map]
    simpa using congrArg (Option.map dropMicroseconds) last
  · exact contiguous_payload environment _ contiguous 1
  · intro job found
    obtain ⟨range, listed, minuteCount, -, -⟩ := member job found
    rw [minuteCount]
    exact (rangeMinutes_pos_iff range).mpr (minutes range listed)
  · intro job found
    obtain ⟨range, listed, -, opens, closes⟩ := member job found
    rw [opens, closes]
    exact forward_of_minute (minutes range listed)
  · rw [map_payload environment request _ BackfillJob.rangeMinutes
      (fun range => range.segment.length / minute) (fun _ => rfl)]
    have counted := sum_cut_units (Dvd.intro_left _ rfl : minute ∣ segmentLength request start)
      positive forward
    rwa [← cuts, List.map_map] at counted
  · intro unsplit
    rw [List.length_map, List.length_zipIdx]
    exact single unsplit

theorem noShortRemainder_of_partitions {environment : Environment}
    {outcome : List BackfillJob × Option String} (known : request.start = some start)
    (alike : start.offset.isSome = request.stop.offset.isSome) (wanted : request.symbols ≠ [])
    (whole : 1 ≤ totalMinutes start request.stop)
    (enqueued : enqueueBackfillJobs environment request = .ok outcome)
    (partitions : PartitionsWindow request start outcome.1) : NoShortRemainder request start := by
  obtain ⟨fits, jobs⟩ := enqueueBackfillJobs_ok known alike wanted whole enqueued
  refine (segments_minutes_iff whole (partition_of_fits whole fits)).mp fun range listed => ?_
  have ranges := map_payload environment request (segments request start).ranges.length
    BackfillJob.rangeMinutes (fun range => totalMinutes range.1 range.2) (fun _ => rfl)
    (segments request start).ranges 1
  rw [← jobs] at ranges
  have counted : totalMinutes range.1 range.2 ∈ outcome.1.map BackfillJob.rangeMinutes := by
    rw [ranges]
    exact List.mem_map_of_mem listed
  obtain ⟨job, found, same⟩ := List.mem_map.mp counted
  exact (rangeMinutes_pos_iff range).mp (same ▸ partitions.minutes job found)

end Window

/-- The jobs partition a window of at least a minute exactly when there is a
symbol to fetch, no part of a minute is left over and the last full segment ends
within the calendar. -/
theorem enqueueBackfillJobs_partitions_iff (environment : Environment) (request : BackfillRequest)
    {start : DateTime} (known : request.start = some start)
    (alike : start.offset.isSome = request.stop.offset.isSome)
    (whole : 1 ≤ totalMinutes start request.stop) :
    (∃ outcome, enqueueBackfillJobs environment request = .ok outcome ∧
        PartitionsWindow request start outcome.1) ↔
      request.symbols ≠ [] ∧ NoShortRemainder request start ∧
        Fits start request.stop (segmentLength request start) := by
  constructor
  · rintro ⟨outcome, enqueued, partitions⟩
    have wanted : request.symbols ≠ [] := by
      intro none_wanted
      simp only [enqueueBackfillJobs, known, if_pos none_wanted, Except.ok.injEq] at enqueued
      subst enqueued
      cases partitions.first
    exact ⟨wanted, noShortRemainder_of_partitions known alike wanted whole enqueued partitions,
      (enqueueBackfillJobs_ok known alike wanted whole enqueued).1⟩
  · rintro ⟨wanted, exact, fits⟩
    obtain ⟨outcome, enqueued⟩ : ∃ outcome, enqueueBackfillJobs environment request =
        .ok outcome := by
      have minutes : ¬ totalMinutes start request.stop ≤ 0 := by omega
      simp only [enqueueBackfillJobs, known, if_neg wanted, if_neg (not_not_intro alike),
        if_neg minutes, (finish_iff whole).mpr fits, bind, Except.bind]
      split <;> exact ⟨_, rfl⟩
    refine ⟨outcome, enqueued, ?_⟩
    rw [(enqueueBackfillJobs_ok known alike wanted whole enqueued).2]
    exact partitionsWindow_segments environment whole exact (partition_of_fits whole fits)

def sampleEnvironment : Environment where
  now := fun _ => 0
  jobId := fun _ => "job"
  queuePath := "queue.jsonl"
  writable := true

def sampleStart : DateTime := ⟨0, some 0, DateTime.first_inRange⟩

/-- Up to the end in one segment. -/
def sampleRequest (stop : DateTime) : BackfillRequest where
  resyncJobId := "resync"
  start := some sampleStart
  stop
  symbols := ["USDJPY"]
  timeframe := "M5"
  priority := "normal"
  failoverPlan := []
  manualCsvRequired := false
  retryCount := 0
  dryRun := false

def fiveMinutes : DateTime := ⟨5 * minute, some 0, by decide⟩

theorem enqueueBackfillJobs_partitions_five_minutes :
    ∃ outcome, enqueueBackfillJobs sampleEnvironment (sampleRequest fiveMinutes) = .ok outcome ∧
      PartitionsWindow (sampleRequest fiveMinutes) sampleStart outcome.1 :=
  (enqueueBackfillJobs_partitions_iff sampleEnvironment (sampleRequest fiveMinutes) rfl rfl
    (by decide)).mpr ⟨by decide, .inl (by decide), by decide⟩

def halfMinuteMore : DateTime := ⟨5 * minute + 30000000, some 0, by decide⟩

/-- Half a minute more gets a job of its own, of no minutes. -/
theorem enqueueBackfillJobs_half_minute :
    ¬ ∃ outcome,
      enqueueBackfillJobs sampleEnvironment (sampleRequest halfMinuteMore) = .ok outcome ∧
        PartitionsWindow (sampleRequest halfMinuteMore) sampleStart outcome.1 := by
  rintro ⟨outcome, enqueued, partitions⟩
  have remainder : NoShortRemainder (sampleRequest halfMinuteMore) sampleStart :=
    noShortRemainder_of_partitions rfl rfl (by decide) (by decide) enqueued partitions
  simp only [NoShortRemainder] at remainder
  exact absurd remainder (by decide)

end CatchUp

end FxToushi.Core
