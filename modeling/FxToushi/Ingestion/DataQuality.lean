import FxToushi.Core.TimeSync
import FxToushi.Execution.Spread
import FxToushi.Py.Rounding

namespace FxToushi.Ingestion.DataQuality

open FxToushi.Core Data Py Calendar Execution

/-! # The data quality guard

The guard checks the bars of a frame and the latest clock drift.  It reads the
same drift as the time sync guard does, and so does the spread guard; the last
section is about what the three make of it.
-/

/-- A field of a bar: a document's value, or a `datetime` a handler put there. -/
inductive Cell where
  | document (value : Value)
  | datetime (date : DateTime)

def Cell.truth : Cell → Bool
  | .document value => value.truth
  | .datetime _ => true

abbrev RawBar := List (String × Cell)

def RawBar.get (bar : RawBar) (key : String) : Cell :=
  ((bar.find? (fun entry => entry.1 == key)).map Prod.snd).getD (.document .null)

structure MarketFrame where
  symbol : String
  timeframe : String
  bars : List RawBar
  qualityFlag : Int := 0

structure QualityResult where
  status : String
  issues : List String
  recommendedAction : Option String
  qualityFlag : Int
  clockDriftMs : Option Int
  missingRatio : Option Rat
deriving Repr, DecidableEq

structure DataQualityGuard where
  expectedTimeframeMinutes : Int := 5
  maxGapMinutes : Int := 10
  ntpMaxMs : Int := 50
  missingRatioWarn : Rat := 1 / 10
deriving Repr, DecidableEq

/-! ## Issues -/

def appendIssue (issues : List String) (issue : String) : List String :=
  if issue ∈ issues then issues else issues ++ [issue]

def appendIf (condition : Bool) (issue : String) (issues : List String) : List String :=
  if condition then appendIssue issues issue else issues

def qualityFlagAlias (issue : String) : String :=
  if issue ∈ ["empty_bars", "gap_exceeds_threshold", "missing_ratio_high"] then "missing_bars"
  else if issue ∈ ["timestamp_misaligned", "missing_timestamp"] then "ts_mismatch"
  else issue

def qualityFlagOf (key : String) : Int :=
  if key = "missing_bars" then 1
  else if key = "dup_bars" then 2
  else if key = "out_of_order" then 3
  else if key = "ts_mismatch" then 4
  else 0

def qualityFlagForIssues (issues : List String) : Int :=
  (issues.map (fun issue => qualityFlagOf (qualityFlagAlias issue))).foldl max 0

def finalize (issues : List String) (recommendedAction : Option String)
    (clockDriftMs : Option Int) (missingRatio : Option Rat) : QualityResult where
  status :=
    if issues = [] then "ok"
    else if issues = ["empty_bars"] ∨ issues = ["empty_bars", "missing_bars"] then "warn"
    else "fail"
  issues
  recommendedAction
  qualityFlag := qualityFlagForIssues issues
  clockDriftMs
  missingRatio

/-! ## The latest drift -/

/-- The search of `_load_latest_clock_drift`, over the documents with the last
first.  A document that is no mapping has no `get`. -/
def clockDriftOf : List Value → Except DriftError (Option Int)
  | [] => .ok none
  | .map payload :: earlier =>
    match Mapping.given? payload "clock_drift_ms" with
    | none => clockDriftOf earlier
    | some drift => do
        match ← floatOf drift with
        | some (.finite value) => return some (roundHalfEven value)
        | some (.infinite _) => .error .overflow
        | _ => clockDriftOf earlier
  | _ :: _ => .error .attribute

def loadLatestClockDrift (content : Option (List Char)) : Except DriftError (Option Int) :=
  clockDriftOf (documents content).reverse

/-! ## The bars -/

/-- `_parse_timestamp`: a `datetime` is taken as it is. -/
def parseTimestamp (fromisoformat : String → Option DateTime) : Cell → Option DateTime
  | .datetime date => some date
  | .document .null => none
  | .document value =>
    let text := value.text
    let zoned := if text.endsWith "Z" then (text.dropEnd 1).toString ++ "+00:00" else text
    (fromisoformat zoned).bind (fun date => date.toUtc.toOption)

def stampOf (fromisoformat : String → Option DateTime) (bar : RawBar) : Option DateTime :=
  let timestamp := bar.get "timestamp"
  parseTimestamp fromisoformat (if timestamp.truth then timestamp else bar.get "ts")

def asFloat : Cell → Except DriftError (Option Extended)
  | .document value => floatOf value
  | .datetime _ => .ok none

/-- `min(first, second)`: the second only when it is less. -/
def lesser (first second : Extended) : Extended := if second < first then second else first

def ohlcIssue (low high open_ close : Option Extended) (issues : List String) : List String :=
  match low, high, open_, close with
  | some low, some high, some open_, some close =>
    appendIf (decide (lesser open_ close < low) || decide (high < Extended.greater open_ close) ||
      decide (high < low)) "ohlc_bounds" issues
  | _, _, _, _ => appendIssue issues "missing_ohlc"

/-- What the loop over the bars keeps. -/
structure Scan where
  issues : List String
  timestamps : List DateTime := []
  lastSeen : Option DateTime := none

/-- `ts < last_seen`, where there is a last one. -/
def outOfOrder (ts : DateTime) : Option DateTime → Except DriftError Bool
  | none => .ok false
  | some lastSeen => (lastSeen.le ts).mapError .date |>.map not

def misaligned (guard : DataQualityGuard) (ts : DateTime) : Except DriftError Bool :=
  if guard.expectedTimeframeMinutes = 0 then .error .zeroDivision
  else .ok (ts.time / 60000000 % 60 % guard.expectedTimeframeMinutes != 0 ||
    ts.time / 1000000 % 60 != 0)

def scanBar (guard : DataQualityGuard) (fromisoformat : String → Option DateTime) (scan : Scan)
    (bar : RawBar) : Except DriftError Scan :=
  match stampOf fromisoformat bar with
  | none => .ok { scan with
      issues := appendIssue (appendIssue scan.issues "missing_timestamp") "ts_mismatch" }
  | some ts => do
      let late ← outOfOrder ts scan.lastSeen
      let shifted ← misaligned guard ts
      let low ← asFloat (bar.get "low")
      let high ← asFloat (bar.get "high")
      let open_ ← asFloat (bar.get "open")
      let close ← asFloat (bar.get "close")
      let volume ← asFloat (bar.get "volume")
      let stamped := appendIf shifted "ts_mismatch"
        (appendIf shifted "timestamp_misaligned" (appendIf late "out_of_order" scan.issues))
      return {
        issues := appendIf (volume.any (fun volume => decide (volume < 0))) "negative_volume"
          (ohlcIssue low high open_ close stamped)
        timestamps := scan.timestamps ++ [ts]
        lastSeen := some ts }

/-- The ratio over the sorted instants. -/
def computeMissingRatio (instants : List Int) (expectedMinutes : Int) : Option Rat :=
  match instants.head?, instants.getLast? with
  | some start, some last =>
    if expectedMinutes ≤ 0 then none
    else
      let expected := (last - start) / 60000000 / expectedMinutes + 1
      if expected ≤ 0 then none
      else some (((max (expected - instants.dedup.length) 0 : Int) : Rat) / expected)
  | _, _ => none

/-- What is checked of the stamps together: the issues they add, and the ratio
of missing bars. -/
def checkStamps (guard : DataQualityGuard) (scan : Scan) : List String × Option Rat :=
  let instants := (scan.timestamps.map DateTime.instant).mergeSort
  if instants.isEmpty then (scan.issues, none)
  else
    let repeated := instants.dedup.length != instants.length
    let missingRatio := computeMissingRatio instants guard.expectedTimeframeMinutes
    let sparse := missingRatio.any (fun ratio => decide (guard.missingRatioWarn < ratio))
    let gap := (instants.zip instants.tail).any (fun pair =>
      decide (guard.maxGapMinutes < (pair.2 - pair.1) / 60000000))
    (appendIf gap "missing_bars" (appendIf gap "gap_exceeds_threshold"
      (appendIf sparse "missing_ratio_high" (appendIf repeated "dup_bars" scan.issues))),
      missingRatio)

/-- `validate`, with the frame as it leaves it. -/
def DataQualityGuard.validate (guard : DataQualityGuard) (fromisoformat : String → Option DateTime)
    (content : Option (List Char)) (frame : MarketFrame) :
    Except DriftError (QualityResult × MarketFrame) := do
  let clockDriftMs ← loadLatestClockDrift content
  let drifting := clockDriftMs.any (fun drift => decide (guard.ntpMaxMs < drift))
  let issues := appendIf drifting "ntp_drift" []
  let flagged := fun result : QualityResult =>
    (result, { frame with qualityFlag := result.qualityFlag })
  if frame.bars.isEmpty then
    return flagged (finalize (appendIssue (appendIssue issues "empty_bars") "missing_bars")
      (some "runbook_run_data_05") clockDriftMs none)
  else
    let scan ← frame.bars.foldlM (scanBar guard fromisoformat) { issues }
    let (checked, missingRatio) := checkStamps guard scan
    return flagged (finalize checked (some "review_data_quality") clockDriftMs missingRatio)

/-! ## When the drift can be read -/

/-- The document is an entry with a drift that is a number. -/
def records : Value → Bool
  | .map payload =>
    match Mapping.given? payload "clock_drift_ms" with
    | none => false
    | some drift => (floatOf drift).toOption.join.isSome
  | _ => false

/-- Every document after the last entry with a drift is a mapping. -/
def MappingsAfterDrift (content : Option (List Char)) : Prop :=
  ∀ document ∈ (documents content).reverse.takeWhile (fun document => !records document),
    document.mapping?.isSome = true

instance (content : Option (List Char)) : Decidable (MappingsAfterDrift content) :=
  inferInstanceAs (Decidable (∀ document ∈ (documents content).reverse.takeWhile
    (fun document => !records document), document.mapping?.isSome = true))

/-- The two guards search the same entries, but a document that is no mapping
stops the second search only. -/
theorem clockDriftOf_of_latest {found : List Value} {entry : Mapping} {drift : Int}
    (latest : latestOf (found.filterMap Value.mapping?) = .ok (some entry))
    (given : entry.given? "clock_drift_ms" = some (.int drift))
    (read : floatOf (.int drift) = .ok (some (.finite drift))) :
    (clockDriftOf found = .ok (some drift) ∧
        ∀ document ∈ found.takeWhile (fun document => !records document),
          document.mapping?.isSome = true) ∨
      (clockDriftOf found = .error .attribute ∧
        ¬ ∀ document ∈ found.takeWhile (fun document => !records document),
          document.mapping?.isSome = true) := by
  induction found with
  | nil => cases latest
  | cons document earlier ih =>
    cases document with
    | map payload =>
      rw [List.filterMap_cons_some (show Value.mapping? (.map payload) = some payload from rfl),
        latestOf] at latest
      rw [clockDriftOf]
      cases held : Mapping.given? payload "clock_drift_ms" with
      | none =>
        rw [held] at latest
        have skipped : records (.map payload) = false := by simp [records, held]
        simpa [skipped, Value.mapping?] using ih latest
      | some value =>
        rw [held] at latest
        obtain ⟨number, converted, latest⟩ := bind_ok latest
        cases number with
        | none =>
          have skipped : records (.map payload) = false := by
            simp [records, held, converted, Except.toOption]
          simpa [skipped, converted, Value.mapping?, bind, Except.bind] using ih latest
        | some number =>
          cases latest
          rw [held] at given
          cases given
          have counted : records (.map entry) = true := by
            simp [records, held, read, Except.toOption]
          left
          simp [counted, read, bind, Except.bind, roundHalfEven_intCast, pure, Except.pure]
    | _ =>
      right
      exact ⟨rfl, by simp [records, Value.mapping?]⟩

theorem loadLatestClockDrift_of_latest {content : Option (List Char)} {drift : Int}
    (latest : LatestDrift content drift) :
    (loadLatestClockDrift content = .ok (some drift) ∧ MappingsAfterDrift content) ∨
      (loadLatestClockDrift content = .error .attribute ∧ ¬ MappingsAfterDrift content) := by
  obtain ⟨entry, found, given⟩ := latest.recorded
  unfold findLatestDrift readJsonl at found
  rw [← List.filterMap_reverse] at found
  exact clockDriftOf_of_latest found given latest.float

/-! ## When a frame can be checked -/

/-- An integer that has no float. -/
def Oversized (cell : Cell) : Prop :=
  ∃ value, cell = .document (.int value) ∧ floatLimit ≤ value.natAbs

def floatFields : List String := ["low", "high", "open", "close", "volume"]

/-- A stamped bar is of the frame's kind of timestamps, and what the guard
computes of it exists. -/
def ReadableBar (guard : DataQualityGuard) (fromisoformat : String → Option DateTime)
    (aware : Bool) (bar : RawBar) : Prop :=
  ∀ ts, stampOf fromisoformat bar = some ts →
    ts.offset.isSome = aware ∧ guard.expectedTimeframeMinutes ≠ 0 ∧
      ∀ field ∈ floatFields, ¬ Oversized (bar.get field)

/-- The timestamps of the frame all have an offset or none of them has one, and
every stamped bar can be computed with. -/
def Readable (guard : DataQualityGuard) (fromisoformat : String → Option DateTime)
    (frame : MarketFrame) : Prop :=
  ∃ aware, ∀ bar ∈ frame.bars, ReadableBar guard fromisoformat aware bar

theorem asFloat_ok_iff (cell : Cell) :
    (∃ number, asFloat cell = .ok number) ↔ ¬ Oversized cell := by
  cases cell with
  | datetime date => simp [asFloat, Oversized]
  | document value =>
    cases value with
    | int value =>
      rw [asFloat, floatOf]
      by_cases small : value.natAbs < floatLimit
      · simp [Oversized, small]
      · simp [if_neg small, Oversized, not_lt.mp small]
    | _ => simp [asFloat, floatOf, Oversized]

theorem outOfOrder_ok_iff (ts : DateTime) (lastSeen : Option DateTime) :
    (∃ late, outOfOrder ts lastSeen = .ok late) ↔
      ∀ last ∈ lastSeen, last.offset.isSome = ts.offset.isSome := by
  cases lastSeen with
  | none => simp [outOfOrder]
  | some last =>
    by_cases same : last.offset.isSome = ts.offset.isSome
    · simp only [outOfOrder, DateTime.le, same, if_true, Except.mapError, Except.map]
      exact ⟨fun _ => by simpa using same, fun _ => ⟨_, rfl⟩⟩
    · simp [outOfOrder, DateTime.le, same, Except.mapError, Except.map]

theorem misaligned_ok_iff (guard : DataQualityGuard) (ts : DateTime) :
    (∃ shifted, misaligned guard ts = .ok shifted) ↔ guard.expectedTimeframeMinutes ≠ 0 := by
  unfold misaligned
  by_cases zero : guard.expectedTimeframeMinutes = 0
  · simp [zero]
  · simp [zero]

section Scanning

variable (guard : DataQualityGuard) (fromisoformat : String → Option DateTime) (scan : Scan)
  {bar : RawBar} {ts : DateTime}

theorem scanBar_unstamped (unstamped : stampOf fromisoformat bar = none) :
    scanBar guard fromisoformat scan bar = .ok { scan with
      issues := appendIssue (appendIssue scan.issues "missing_timestamp") "ts_mismatch" } := by
  rw [scanBar, unstamped]

/-- All that the guard has computed of a stamped bar when it goes on. -/
theorem scanBar_cases {guard : DataQualityGuard} {fromisoformat : String → Option DateTime}
    {scan next : Scan} (stamped : stampOf fromisoformat bar = some ts)
    (scanned : scanBar guard fromisoformat scan bar = .ok next) :
    ∃ late shifted low high open_ close volume,
      outOfOrder ts scan.lastSeen = .ok late ∧ misaligned guard ts = .ok shifted ∧
        asFloat (bar.get "low") = .ok low ∧ asFloat (bar.get "high") = .ok high ∧
        asFloat (bar.get "open") = .ok open_ ∧ asFloat (bar.get "close") = .ok close ∧
        asFloat (bar.get "volume") = .ok volume ∧
        next = {
          issues := appendIf (volume.any (fun volume => decide (volume < 0))) "negative_volume"
            (ohlcIssue low high open_ close (appendIf shifted "ts_mismatch"
              (appendIf shifted "timestamp_misaligned" (appendIf late "out_of_order"
                scan.issues))))
          timestamps := scan.timestamps ++ [ts]
          lastSeen := some ts } := by
  simp only [scanBar, stamped] at scanned
  obtain ⟨late, ordered, scanned⟩ := bind_ok scanned
  obtain ⟨shifted, aligned, scanned⟩ := bind_ok scanned
  obtain ⟨low, readLow, scanned⟩ := bind_ok scanned
  obtain ⟨high, readHigh, scanned⟩ := bind_ok scanned
  obtain ⟨open_, readOpen, scanned⟩ := bind_ok scanned
  obtain ⟨close, readClose, scanned⟩ := bind_ok scanned
  obtain ⟨volume, readVolume, scanned⟩ := bind_ok scanned
  cases scanned
  exact ⟨late, shifted, low, high, open_, close, volume, ordered, aligned, readLow, readHigh,
    readOpen, readClose, readVolume, rfl⟩

theorem scanBar_stamped_iff (stamped : stampOf fromisoformat bar = some ts) :
    (∃ next, scanBar guard fromisoformat scan bar = .ok next ∧ next.lastSeen = some ts) ↔
      (∀ last ∈ scan.lastSeen, last.offset.isSome = ts.offset.isSome) ∧
        ReadableBar guard fromisoformat ts.offset.isSome bar := by
  have readable : ReadableBar guard fromisoformat ts.offset.isSome bar ↔
      guard.expectedTimeframeMinutes ≠ 0 ∧ ∀ field ∈ floatFields, ¬ Oversized (bar.get field) := by
    simp [ReadableBar, stamped]
  rw [readable, ← outOfOrder_ok_iff, ← misaligned_ok_iff guard ts]
  simp only [floatFields, List.forall_mem_cons, ← asFloat_ok_iff]
  constructor
  · intro ⟨next, scanned, _⟩
    obtain ⟨late, shifted, low, high, open_, close, volume, ordered, aligned, readLow, readHigh,
      readOpen, readClose, readVolume, _⟩ := scanBar_cases stamped scanned
    exact ⟨⟨late, ordered⟩, ⟨shifted, aligned⟩, ⟨low, readLow⟩, ⟨high, readHigh⟩,
      ⟨open_, readOpen⟩, ⟨close, readClose⟩, ⟨volume, readVolume⟩, by simp⟩
  · intro ⟨⟨late, ordered⟩, ⟨shifted, aligned⟩, ⟨low, readLow⟩, ⟨high, readHigh⟩,
      ⟨open_, readOpen⟩, ⟨close, readClose⟩, ⟨volume, readVolume⟩, _⟩
    simp only [scanBar, stamped]
    rw [ordered, aligned, readLow, readHigh, readOpen, readClose, readVolume]
    exact ⟨_, rfl, rfl⟩

theorem lastSeen_of_scanBar {guard : DataQualityGuard}
    {fromisoformat : String → Option DateTime} {scan next : Scan}
    (stamped : stampOf fromisoformat bar = some ts)
    (scanned : scanBar guard fromisoformat scan bar = .ok next) : next.lastSeen = some ts := by
  obtain ⟨_, _, _, _, _, _, _, _, _, _, _, _, _, _, rfl⟩ := scanBar_cases stamped scanned
  rfl

theorem foldlM_seen_iff {aware : Bool} (bars : List RawBar) {last : DateTime}
    (seen : scan.lastSeen = some last) (kind : last.offset.isSome = aware) :
    (∃ final, bars.foldlM (scanBar guard fromisoformat) scan = .ok final) ↔
      ∀ bar ∈ bars, ReadableBar guard fromisoformat aware bar := by
  induction bars generalizing scan last with
  | nil => simp [pure, Except.pure]
  | cons bar rest ih =>
    rw [List.foldlM_cons, List.forall_mem_cons]
    simp only [bind_ok_iff]
    cases stamp : stampOf fromisoformat bar with
    | none =>
      have readable : ReadableBar guard fromisoformat aware bar := by simp [ReadableBar, stamp]
      rw [scanBar_unstamped _ _ _ stamp, ← ih { scan with
        issues := appendIssue (appendIssue scan.issues "missing_timestamp") "ts_mismatch" }
        seen kind]
      simp [readable]
    | some ts =>
      constructor
      · intro ⟨final, next, scanned, later⟩
        have nextSeen := lastSeen_of_scanBar stamp scanned
        obtain ⟨zoned, readable⟩ :=
          (scanBar_stamped_iff guard fromisoformat scan stamp).mp ⟨next, scanned, nextSeen⟩
        have same : ts.offset.isSome = aware := (zoned last seen).symm.trans kind
        exact ⟨same ▸ readable, (ih next nextSeen same).mp ⟨final, later⟩⟩
      · intro ⟨readable, later⟩
        have same : ts.offset.isSome = aware := (readable ts stamp).1
        have zoned : ∀ first ∈ scan.lastSeen, first.offset.isSome = ts.offset.isSome := by
          intro first member
          rw [seen] at member
          cases member
          exact kind.trans same.symm
        obtain ⟨next, scanned, nextSeen⟩ :=
          (scanBar_stamped_iff guard fromisoformat scan stamp).mpr
            ⟨zoned, same.symm ▸ readable⟩
        obtain ⟨final, folded⟩ := (ih next nextSeen same).mpr later
        exact ⟨final, next, scanned, folded⟩

/-- The bars are gone through exactly when one kind of timestamps fits them. -/
theorem foldlM_unseen_iff (bars : List RawBar) (unseen : scan.lastSeen = none) :
    (∃ final, bars.foldlM (scanBar guard fromisoformat) scan = .ok final) ↔
      ∃ aware, ∀ bar ∈ bars, ReadableBar guard fromisoformat aware bar := by
  induction bars generalizing scan with
  | nil => simp [pure, Except.pure]
  | cons bar rest ih =>
    rw [List.foldlM_cons]
    simp only [bind_ok_iff, List.forall_mem_cons]
    cases stamp : stampOf fromisoformat bar with
    | none =>
      have readable (aware : Bool) : ReadableBar guard fromisoformat aware bar := by
        simp [ReadableBar, stamp]
      rw [scanBar_unstamped _ _ _ stamp]
      simp only [readable, true_and, Except.ok.injEq, exists_eq_left']
      exact ih _ unseen
    | some ts =>
      constructor
      · intro ⟨final, next, scanned, later⟩
        have nextSeen := lastSeen_of_scanBar stamp scanned
        obtain ⟨-, readable⟩ :=
          (scanBar_stamped_iff guard fromisoformat scan stamp).mp ⟨next, scanned, nextSeen⟩
        exact ⟨_, readable,
          (foldlM_seen_iff guard fromisoformat next rest nextSeen rfl).mp ⟨final, later⟩⟩
      · intro ⟨aware, readable, later⟩
        have same : ts.offset.isSome = aware := (readable ts stamp).1
        obtain ⟨next, scanned, nextSeen⟩ :=
          (scanBar_stamped_iff guard fromisoformat scan stamp).mpr
            ⟨by simp [unseen], same.symm ▸ readable⟩
        obtain ⟨final, folded⟩ :=
          (foldlM_seen_iff guard fromisoformat next rest nextSeen same).mpr later
        exact ⟨final, next, scanned, folded⟩

end Scanning

/-! ## The issue of the drift -/

theorem mem_appendIssue {found issue : String} (issues : List String) :
    found ∈ appendIssue issues issue ↔ found ∈ issues ∨ found = issue := by
  unfold appendIssue
  split
  · rename_i held
    constructor
    · exact .inl
    · intro either
      cases either with
      | inl member => exact member
      | inr same => exact same ▸ held
  · simp

@[simp] theorem drift_mem_appendIssue {issue : String} (issues : List String)
    (other : "ntp_drift" ≠ issue) :
    "ntp_drift" ∈ appendIssue issues issue ↔ "ntp_drift" ∈ issues := by
  simp [mem_appendIssue, other]

@[simp] theorem drift_mem_appendIf {issue : String} (condition : Bool) (issues : List String)
    (other : "ntp_drift" ≠ issue) :
    "ntp_drift" ∈ appendIf condition issue issues ↔ "ntp_drift" ∈ issues := by
  unfold appendIf
  split
  · exact drift_mem_appendIssue issues other
  · exact Iff.rfl

@[simp] theorem drift_mem_ohlcIssue (low high open_ close : Option Extended)
    (issues : List String) :
    "ntp_drift" ∈ ohlcIssue low high open_ close issues ↔ "ntp_drift" ∈ issues := by
  unfold ohlcIssue
  split
  · simp
  · simp

theorem drift_mem_scanBar {guard : DataQualityGuard} {fromisoformat : String → Option DateTime}
    {scan next : Scan} {bar : RawBar}
    (scanned : scanBar guard fromisoformat scan bar = .ok next) :
    "ntp_drift" ∈ next.issues ↔ "ntp_drift" ∈ scan.issues := by
  cases stamp : stampOf fromisoformat bar with
  | none =>
    rw [scanBar_unstamped _ _ _ stamp] at scanned
    cases scanned
    simp
  | some ts =>
    obtain ⟨_, _, _, _, _, _, _, _, _, _, _, _, _, _, rfl⟩ := scanBar_cases stamp scanned
    simp

theorem drift_mem_foldlM {guard : DataQualityGuard} {fromisoformat : String → Option DateTime}
    {scan final : Scan} (bars : List RawBar)
    (folded : bars.foldlM (scanBar guard fromisoformat) scan = .ok final) :
    "ntp_drift" ∈ final.issues ↔ "ntp_drift" ∈ scan.issues := by
  induction bars generalizing scan with
  | nil =>
    cases folded
    exact Iff.rfl
  | cons bar rest ih =>
    rw [List.foldlM_cons] at folded
    obtain ⟨next, scanned, folded⟩ := bind_ok folded
    exact (ih folded).trans (drift_mem_scanBar scanned)

theorem drift_mem_checkStamps (guard : DataQualityGuard) (scan : Scan) :
    "ntp_drift" ∈ (checkStamps guard scan).1 ↔ "ntp_drift" ∈ scan.issues := by
  unfold checkStamps
  dsimp only
  split
  · exact Iff.rfl
  · simp

theorem drift_mem_initial (drifting : Bool) :
    "ntp_drift" ∈ appendIf drifting "ntp_drift" [] ↔ drifting = true := by
  cases drifting with
  | false => simp [appendIf]
  | true => simp [appendIf, appendIssue]

/-- The guard returns a result for the frame, and the drift is among its issues. -/
def ReportsDrift (guard : DataQualityGuard) (fromisoformat : String → Option DateTime)
    (content : Option (List Char)) (frame : MarketFrame) : Prop :=
  ∃ result flagged, guard.validate fromisoformat content frame = .ok (result, flagged) ∧
    "ntp_drift" ∈ result.issues

theorem reportsDrift_iff {content : Option (List Char)} {drift : Int}
    (latest : LatestDrift content drift) (guard : DataQualityGuard)
    (fromisoformat : String → Option DateTime) (frame : MarketFrame) :
    ReportsDrift guard fromisoformat content frame ↔
      guard.ntpMaxMs < drift ∧ MappingsAfterDrift content ∧
        Readable guard fromisoformat frame := by
  unfold ReportsDrift DataQualityGuard.validate
  obtain ⟨loaded, mappings⟩ | ⟨loaded, mappings⟩ := loadLatestClockDrift_of_latest latest
  · simp only [loaded, mappings, true_and, bind, Except.bind, Option.any_some]
    cases bars : frame.bars with
    | nil =>
      have readable : Readable guard fromisoformat frame := ⟨true, by simp [bars]⟩
      simp only [List.isEmpty_nil, if_true, readable, and_true]
      constructor
      · intro ⟨result, flagged, validated, member⟩
        cases validated
        simpa [finalize, drift_mem_initial] using member
      · intro exceeds
        refine ⟨_, _, rfl, ?_⟩
        simpa [finalize, drift_mem_initial] using exceeds
    | cons bar rest =>
      simp only [List.isEmpty_cons, Bool.false_eq_true, if_false]
      have readable := foldlM_unseen_iff guard fromisoformat
        { issues := appendIf (decide (guard.ntpMaxMs < drift)) "ntp_drift" [] } (bar :: rest) rfl
      rw [Readable, bars, ← readable]
      constructor
      · intro ⟨result, flagged, validated, member⟩
        obtain ⟨final, folded, validated⟩ := bind_ok validated
        cases validated
        have initial := (drift_mem_checkStamps guard final).mp member
        rw [drift_mem_foldlM _ folded, drift_mem_initial, decide_eq_true_eq] at initial
        exact ⟨initial, final, folded⟩
      · intro ⟨exceeds, final, folded⟩
        rw [folded]
        refine ⟨_, _, rfl, ?_⟩
        refine (drift_mem_checkStamps guard final).mpr ?_
        rw [drift_mem_foldlM _ folded, drift_mem_initial, decide_eq_true_eq]
        exact exceeds
  · simp [loaded, mappings, bind, Except.bind]

/-! ## The three guards together -/

/-- The reason is one of those that stand in the text, with commas between. -/
def Names (cooldownReason : Option String) (reason : String) : Prop :=
  reason.toList ∈ (cooldownReason.getD "").toList.splitOn ','

instance (cooldownReason : Option String) (reason : String) :
    Decidable (Names cooldownReason reason) :=
  inferInstanceAs (Decidable (reason.toList ∈ (cooldownReason.getD "").toList.splitOn ','))

/-- The spread guard returns a class, at least a cooldown, and names the drift. -/
def CoolsDown (monitor : SimpleSpreadMonitor) (p95 p99 : Extended) (news : Option String)
    (now drift : Int) : Prop :=
  ∃ evaluation, evaluateSpreadGuard monitor p95 p99 (some drift) news now = .ok evaluation ∧
    evaluation.status ∈ [SpreadCooldownState.cooldown, .block] ∧
      Names evaluation.cooldownReason "ntp_drift"

/-- The higher percentile is a number, and so is the lower one unless the higher
blocks. -/
def Comparable (monitor : SimpleSpreadMonitor) (p95 p99 : Extended) : Prop :=
  p99.isNan = false ∧ (.finite monitor.blockThreshold ≤ p99 ∨ p95.isNan = false)

theorem widthOf_ok_iff {monitor : SimpleSpreadMonitor} {p95 p99 : Extended} :
    (∃ wide, widthOf monitor p95 p99 = .ok wide) ↔ Comparable monitor p95 p99 := by
  unfold widthOf Comparable
  split_ifs <;> simp_all

theorem names_drift_iff (wide drifting news : Bool) :
    Names (joined (reasonsOf wide drifting news)) "ntp_drift" ↔ drifting = true := by
  cases wide <;> cases drifting <;> cases news <;> decide +kernel

theorem escalate_raised (news : Bool) (wide : SpreadCooldownState) :
    escalate news (escalate true wide) ∈ [SpreadCooldownState.cooldown, .block] := by
  cases news <;> cases wide <;> decide

theorem coolsDown_iff (monitor : SimpleSpreadMonitor) (p95 p99 : Extended) (news : Option String)
    (now drift : Int) :
    CoolsDown monitor p95 p99 news now drift ↔
      monitor.ntpMaxMs < drift ∧ Comparable monitor p95 p99 := by
  rw [← widthOf_ok_iff]
  constructor
  · rintro ⟨evaluation, evaluated, -, named⟩
    obtain ⟨wide, measured, built⟩ := bind_ok evaluated
    rw [← Except.ok.inj built, names_drift_iff] at named
    exact ⟨by simpa using named, wide, measured⟩
  · rintro ⟨exceeds, wide, measured⟩
    have drifting : (some drift).any (fun drift => decide (monitor.ntpMaxMs < drift)) = true :=
      decide_eq_true exceeds
    rw [CoolsDown, evaluateSpreadGuard, measured, drifting]
    exact ⟨_, rfl, escalate_raised _ wide, (names_drift_iff _ true _).mpr rfl⟩

section Together

variable (timeSync : TimeSyncGuard) (spread : SimpleSpreadMonitor) (quality : DataQualityGuard)
  (fromisoformat : String → Option DateTime)

/-- The time sync guard rates the file `warn` or worse. -/
def RatesWarn (content : Option (List Char)) (metricsPath : String) (monitor : HealthMonitor)
    (now : DateTime) (logged : Bool) : Prop :=
  ∃ evaluation after,
    timeSync.evaluate fromisoformat metricsPath content monitor now logged =
      .ok (evaluation, after) ∧ evaluation.status ∈ ["warn", "major", "critical"]

/-- A drift that is rated cools the spread guard down and is reported by the
quality guard exactly when it is not rated at all, or exceeds what both allow
as it was signed, the percentiles can be compared and the frame and the file can
be read. -/
theorem driftJudged_iff {content : Option (List Char)} {drift : Int}
    (latest : LatestDrift content drift) (p95 p99 : Extended) (news : Option String)
    (frame : MarketFrame) (metricsPath : String) (monitor : HealthMonitor) (now : DateTime)
    (logged : Bool) :
    (RatesWarn timeSync fromisoformat content metricsPath monitor now logged →
        CoolsDown spread p95 p99 news now.time drift ∧
          ReportsDrift quality fromisoformat content frame) ↔
      (timeSync.Reaches drift → (spread.ntpMaxMs < drift ∧ Comparable spread p95 p99) ∧
        quality.ntpMaxMs < drift ∧ MappingsAfterDrift content ∧
          Readable quality fromisoformat frame) := by
  rw [RatesWarn, timeSync.evaluate_rates_iff latest, coolsDown_iff, reportsDrift_iff latest]

end Together

/-- One line of the metrics file, of a clock that is late. -/
def lateClock : List Char := "\x7b\"clock_drift_ms\": -700\x7d\n".toList

/-- One of a clock that is ahead. -/
def aheadClock : List Char := "\x7b\"clock_drift_ms\": 700\x7d\n".toList

theorem lateClock_latest : LatestDrift (some lateClock) (-700) :=
  .of_recordedDrift (by decide +kernel)

def epoch : DateTime where
  time := 0
  offset := some 0
  inRange := DateTime.first_inRange

def emptyFrame : MarketFrame where
  symbol := "EURUSD"
  timeframe := "5m"
  bars := []

theorem aheadClock_latest : LatestDrift (some aheadClock) 700 :=
  .of_recordedDrift (by decide +kernel)

/-- A clock that is ahead by 700 milliseconds is judged alike. -/
theorem driftJudged_aheadClock :
    CoolsDown {} (.finite 1) (.infinite true) (some "CPI") 0 700 ∧
      ReportsDrift {} (fun _ => none) (some aheadClock) emptyFrame :=
  (driftJudged_iff {} {} {} (fun _ => none) aheadClock_latest (.finite 1) (.infinite true)
    (some "CPI") emptyFrame "metrics/time_sync.jsonl" .fresh epoch true).mpr
    (fun _ => ⟨⟨by decide, rfl, .inr rfl⟩, by decide, by decide +kernel, true,
      by simp [emptyFrame]⟩)
    ((TimeSyncGuard.evaluate_rates_iff aheadClock_latest {} _ _ _ _ _).mpr
      (.inr (.inr (by decide))))

/-- A clock that is late by 700 milliseconds is rated, and both guards let it
pass. -/
theorem lateClock_passes :
    ¬ ∀ (timeSync : TimeSyncGuard) (spread : SimpleSpreadMonitor) (quality : DataQualityGuard)
      (fromisoformat : String → Option DateTime) (content : Option (List Char)) (drift : Int)
      (p95 p99 : Extended) (news : Option String) (frame : MarketFrame) (metricsPath : String)
      (monitor : HealthMonitor) (now : DateTime)
      (logged : Bool), LatestDrift content drift →
      spread.ntpMaxMs ≤ timeSync.warnThresholdMs → quality.ntpMaxMs ≤ timeSync.warnThresholdMs →
      RatesWarn timeSync fromisoformat content metricsPath monitor now logged →
        CoolsDown spread p95 p99 news now.time drift ∧
          ReportsDrift quality fromisoformat content frame := by
  intro judged
  have rated : RatesWarn {} (fun _ => none) (some lateClock) "metrics/time_sync.jsonl" .fresh epoch
      true :=
    (TimeSyncGuard.evaluate_rates_iff lateClock_latest {} _ _ _ _ _).mpr (.inr (.inr (by decide)))
  have cools := (judged {} {} {} (fun _ => none) (some lateClock) (-700) 1 1 none emptyFrame
    "metrics/time_sync.jsonl" .fresh epoch true lateClock_latest (by decide) (by decide) rated).1
  exact absurd ((coolsDown_iff {} 1 1 none _ (-700)).mp cools).1 (by decide)

end FxToushi.Ingestion.DataQuality
