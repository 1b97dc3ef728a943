import FxToushi.Data.Ranking
import FxToushi.Ingestion.DataQuality

namespace FxToushi.Ingestion.DataQuality

open FxToushi.Core Data Py Calendar

/-! # What a frame that is found in order holds

The guard looks at the minute and the second of a stamp and compares the prices
as they come.  What it does not look at are the hour, the fraction of a second
and the offset of a stamp, and whether a price or a volume can be compared at
all.  A frame without issues is what one expects of it exactly when nothing is
wrong with these.
-/

/-! ## What is expected of a frame -/

def minute : Int := 60000000

def day : Int := 86400000000

/-- The instants of the stamped bars, in the order of the bars. -/
def instants (fromisoformat : String → Option DateTime) (bars : List RawBar) : List Int :=
  (bars.filterMap (stampOf fromisoformat)).map DateTime.instant

/-- The time of the day in UTC is a multiple of the timeframe. -/
def OnGrid (guard : DataQualityGuard) (instant : Int) : Prop :=
  guard.expectedTimeframeMinutes * minute ∣ instant % day

instance (guard : DataQualityGuard) (instant : Int) : Decidable (OnGrid guard instant) :=
  inferInstanceAs (Decidable (_ ∣ _))

/-- The prices of the bar, as they are read. -/
structure Quotes (bar : RawBar) (low high open_ close : Extended) : Prop where
  low : asFloat (bar.get "low") = .ok (some low)
  high : asFloat (bar.get "high") = .ok (some high)
  open_ : asFloat (bar.get "open") = .ok (some open_)
  close : asFloat (bar.get "close") = .ok (some close)

/-- A bar has finite prices, with the open and the close between the low and the
high, and no volume or one that is not negative. -/
structure SoundBar (guard : DataQualityGuard) (fromisoformat : String → Option DateTime)
    (bar : RawBar) : Prop where
  stamp : ∃ ts, stampOf fromisoformat bar = some ts ∧ OnGrid guard ts.instant
  prices : ∃ low high open_ close : Rat,
    Quotes bar (.finite low) (.finite high) (.finite open_) (.finite close) ∧
      (low ≤ open_ ∧ low ≤ close) ∧ open_ ≤ high ∧ close ≤ high
  volume : bar.get "volume" = .document .null ∨
    ∃ volume, asFloat (bar.get "volume") = .ok (some volume) ∧ 0 ≤ volume

structure SoundFrame (guard : DataQualityGuard) (fromisoformat : String → Option DateTime)
    (frame : MarketFrame) : Prop where
  nonempty : frame.bars ≠ []
  bars : ∀ bar ∈ frame.bars, SoundBar guard fromisoformat bar
  increasing : (instants fromisoformat frame.bars).Pairwise (· < ·)
  gaps : (instants fromisoformat frame.bars).IsChain
    (fun earlier later => later - earlier ≤ guard.maxGapMinutes * minute)

/-- The guard returns, and a frame that it finds in order is sound. -/
def Certifies (guard : DataQualityGuard) (fromisoformat : String → Option DateTime)
    (content : Option (List Char)) (frame : MarketFrame) : Prop :=
  ∃ result flagged, guard.validate fromisoformat content frame = .ok (result, flagged) ∧
    (result.status = "ok" → SoundFrame guard fromisoformat frame)

/-! ## What the guard checks -/

structure PassesBar (guard : DataQualityGuard) (fromisoformat : String → Option DateTime)
    (bar : RawBar) : Prop where
  stamp : ∃ ts, stampOf fromisoformat bar = some ts ∧ misaligned guard ts = .ok false
  prices : ∃ low high open_ close, Quotes bar low high open_ close ∧
    ¬ lesser open_ close < low ∧ ¬ high < Extended.greater open_ close ∧ ¬ high < low
  volume : ∀ volume, asFloat (bar.get "volume") = .ok (some volume) → ¬ volume < 0

structure Passes (guard : DataQualityGuard) (fromisoformat : String → Option DateTime)
    (content : Option (List Char)) (frame : MarketFrame) : Prop where
  drift : ∀ drift, loadLatestClockDrift content = .ok (some drift) → drift ≤ guard.ntpMaxMs
  nonempty : frame.bars ≠ []
  bars : ∀ bar ∈ frame.bars, PassesBar guard fromisoformat bar
  increasing : (instants fromisoformat frame.bars).Pairwise (· < ·)
  dense : ∀ ratio,
    computeMissingRatio (instants fromisoformat frame.bars) guard.expectedTimeframeMinutes =
      some ratio → ratio ≤ guard.missingRatioWarn
  gaps : (instants fromisoformat frame.bars).IsChain
    (fun earlier later => (later - earlier) / minute ≤ guard.maxGapMinutes)

/-! ## What the guard does not look at -/

/-- The minute of the hour and the second, as microseconds. -/
def lookedAt (ts : DateTime) : Int :=
  ts.time / 60000000 % 60 * minute + ts.time / 1000000 % 60 * 1000000

/-- What the checks do not see of the bar is as it should be: the rest of the
time of the day is on the grid, prices are finite, and a volume that is given is
a number. -/
structure PlainBar (guard : DataQualityGuard) (fromisoformat : String → Option DateTime)
    (bar : RawBar) : Prop where
  stamp : ∀ ts, stampOf fromisoformat bar = some ts →
    guard.expectedTimeframeMinutes * minute ∣ ts.instant % day - lookedAt ts
  prices : ∀ field ∈ ["low", "high", "open", "close"], ∀ price,
    asFloat (bar.get field) = .ok (some price) → ∃ value, price = .finite value
  volume : bar.get "volume" = .document .null ∨
    ∃ volume, asFloat (bar.get "volume") = .ok (some volume) ∧ volume ≠ .nan

theorem misaligned_iff (guard : DataQualityGuard) (ts : DateTime) :
    misaligned guard ts = .ok false ↔ guard.expectedTimeframeMinutes ≠ 0 ∧
      guard.expectedTimeframeMinutes ∣ ts.time / 60000000 % 60 ∧ ts.time / 1000000 % 60 = 0 := by
  rw [misaligned, Int.dvd_iff_emod_eq_zero]
  by_cases zero : guard.expectedTimeframeMinutes = 0
  · simp [zero]
  · simp [zero]

theorem onGrid_iff {guard : DataQualityGuard} {ts : DateTime}
    (aligned : misaligned guard ts = .ok false) :
    OnGrid guard ts.instant ↔
      guard.expectedTimeframeMinutes * minute ∣ ts.instant % day - lookedAt ts := by
  obtain ⟨-, whole, seconds⟩ := (misaligned_iff guard ts).mp aligned
  have seen : guard.expectedTimeframeMinutes * minute ∣ lookedAt ts := by
    rw [lookedAt, seconds, zero_mul, add_zero]
    exact Int.mul_dvd_mul_right minute whole
  exact (dvd_sub_left seen).symm

theorem not_lt_finite {left right : Rat} :
    ¬ Extended.finite left < .finite right ↔ right ≤ left := by
  rw [← not_lt]
  exact not_congr decide_eq_true_iff

/-- Finite prices are within their bounds when the comparisons find nothing. -/
theorem bounds_iff (low high open_ close : Rat) :
    (¬ lesser (.finite open_) (.finite close) < .finite low ∧
        ¬ Extended.finite high < Extended.greater (.finite open_) (.finite close) ∧
        ¬ Extended.finite high < .finite low) ↔
      (low ≤ open_ ∧ low ≤ close) ∧ open_ ≤ high ∧ close ≤ high := by
  have least : lesser (.finite open_) (.finite close) = .finite (min open_ close) := by
    rw [lesser]
    split
    · rename_i below
      rw [min_eq_right (le_of_lt (decide_eq_true_iff.mp below))]
    · rename_i above
      rw [min_eq_left (not_lt_finite.mp above)]
  have most : Extended.greater (.finite open_) (.finite close) = .finite (max open_ close) := by
    rw [Extended.greater]
    split
    · rename_i below
      rw [max_eq_right (le_of_lt (decide_eq_true_iff.mp below))]
    · rename_i above
      rw [max_eq_left (not_lt_finite.mp above)]
  rw [least, most, not_lt_finite, not_lt_finite, not_lt_finite, le_min_iff, max_le_iff]
  constructor
  · intro within
    obtain ⟨lows, highs, -⟩ := within
    exact ⟨lows, highs⟩
  · intro within
    obtain ⟨lows, highs⟩ := within
    exact ⟨lows, highs, lows.1.trans highs.1⟩

theorem nonneg_iff {number : Extended} (given : ¬ number < 0) : 0 ≤ number ↔ number ≠ .nan := by
  cases number with
  | finite value => simpa [Extended.nonneg_finite] using not_lt_finite.mp given
  | infinite negative =>
    cases negative with
    | false => decide
    | true => exact absurd rfl given
  | nan => simp [Extended.not_nonneg_nan]

/-- A bar that passes is sound exactly when it is plain. -/
theorem PassesBar.sound_iff {guard : DataQualityGuard}
    {fromisoformat : String → Option DateTime} {bar : RawBar}
    (passes : PassesBar guard fromisoformat bar) :
    SoundBar guard fromisoformat bar ↔ PlainBar guard fromisoformat bar := by
  obtain ⟨ts, stamped, aligned⟩ := passes.stamp
  obtain ⟨low, high, open_, close, quoted, bounds⟩ := passes.prices
  have volumes : (∃ volume, asFloat (bar.get "volume") = .ok (some volume) ∧ 0 ≤ volume) ↔
      ∃ volume, asFloat (bar.get "volume") = .ok (some volume) ∧ volume ≠ .nan :=
    exists_congr fun volume => and_congr_right fun read => nonneg_iff (passes.volume volume read)
  constructor
  · intro sound
    obtain ⟨_, sameStamp, onGrid⟩ := sound.stamp
    obtain ⟨lowest, highest, first, last, finite, -⟩ := sound.prices
    refine ⟨?_, ?_, sound.volume.imp id volumes.mp⟩
    · intro other same
      cases sameStamp.symm.trans same
      cases stamped.symm.trans same
      exact (onGrid_iff aligned).mp onGrid
    · simp only [List.forall_mem_cons, finite.low, finite.high, finite.open_, finite.close,
        Except.ok.injEq, Option.some.injEq, forall_eq', Extended.finite.injEq, exists_eq',
        List.not_mem_nil, false_imp_iff, implies_true, and_self]
  · intro plain
    have prices := plain.prices
    simp only [List.forall_mem_cons, quoted.low, quoted.high, quoted.open_, quoted.close,
      Except.ok.injEq, Option.some.injEq, forall_eq'] at prices
    obtain ⟨⟨lowest, rfl⟩, ⟨highest, rfl⟩, ⟨first, rfl⟩, ⟨last, rfl⟩, -⟩ := prices
    exact ⟨⟨ts, stamped, (onGrid_iff aligned).mpr (plain.stamp ts stamped)⟩,
      ⟨lowest, highest, first, last, quoted, (bounds_iff _ _ _ _).mp bounds⟩,
      plain.volume.imp id volumes.mpr⟩

/-! ## Issues that are not there -/

theorem appendIssue_ne_nil (issues : List String) (issue : String) :
    appendIssue issues issue ≠ [] := by
  unfold appendIssue
  split
  · exact List.ne_nil_of_mem ‹_›
  · simp

theorem appendIf_eq_nil_iff (condition : Bool) (issue : String) (issues : List String) :
    appendIf condition issue issues = [] ↔ issues = [] ∧ condition = false := by
  cases condition with
  | false => simp [appendIf]
  | true => simp [appendIf, appendIssue_ne_nil]

theorem ohlcIssue_eq_nil_iff (low high open_ close : Option Extended) (issues : List String) :
    ohlcIssue low high open_ close issues = [] ↔ issues = [] ∧
      ∃ lowest highest first last, (low = some lowest ∧ high = some highest ∧
        open_ = some first ∧ close = some last) ∧ ¬ lesser first last < lowest ∧
          ¬ highest < Extended.greater first last ∧ ¬ highest < lowest := by
  unfold ohlcIssue
  split
  · simp [appendIf_eq_nil_iff, and_assoc]
  · rename_i missing
    constructor
    · exact fun clean => absurd clean (appendIssue_ne_nil issues _)
    · intro ⟨_, lowest, highest, first, last, ⟨isLow, isHigh, isOpen, isClose⟩, _⟩
      exact absurd isClose (missing lowest highest first last isLow isHigh isOpen)

theorem finalize_ok_iff (issues : List String) (recommendedAction : Option String)
    (clockDriftMs : Option Int) (missingRatio : Option Rat) :
    (finalize issues recommendedAction clockDriftMs missingRatio).status = "ok" ↔
      issues = [] := by
  dsimp only [finalize]
  split
  · simp_all
  · split
    · simp_all
    · simp_all

/-! ## The bars -/

theorem outOfOrder_false_iff {ts : DateTime} {lastSeen : Option DateTime} {late : Bool}
    (compared : outOfOrder ts lastSeen = .ok late) :
    late = false ↔ ∀ last ∈ lastSeen, last.instant ≤ ts.instant := by
  cases lastSeen with
  | none =>
    cases compared
    simp
  | some last =>
    by_cases same : last.offset.isSome = ts.offset.isSome
    · simp only [outOfOrder, DateTime.le, if_pos same, Except.mapError, Except.map,
        Except.ok.injEq] at compared
      simp [← compared]
    · simp only [outOfOrder, DateTime.le, if_neg same, Except.mapError, Except.map] at compared
      cases compared

section Scanning

variable {guard : DataQualityGuard} {fromisoformat : String → Option DateTime}
  {scan next : Scan} {bar : RawBar}

theorem PassesBar.not_unstamped (unstamped : stampOf fromisoformat bar = none) :
    ¬ PassesBar guard fromisoformat bar := by
  intro passes
  obtain ⟨ts, stamped, _⟩ := passes.stamp
  cases unstamped.symm.trans stamped

theorem timestamps_of_scanBar (scanned : scanBar guard fromisoformat scan bar = .ok next) :
    next.timestamps = scan.timestamps ++ (stampOf fromisoformat bar).toList := by
  cases stamp : stampOf fromisoformat bar with
  | none =>
    rw [scanBar_unstamped _ _ _ stamp] at scanned
    cases scanned
    simp
  | some ts =>
    obtain ⟨_, _, _, _, _, _, _, _, _, _, _, _, _, _, rfl⟩ := scanBar_cases stamp scanned
    rfl

/-- A stamped bar leaves no issue when it passes and is not earlier than the
last one. -/
theorem issues_of_scanBar {ts : DateTime} (stamped : stampOf fromisoformat bar = some ts)
    (scanned : scanBar guard fromisoformat scan bar = .ok next) :
    next.issues = [] ↔ scan.issues = [] ∧ PassesBar guard fromisoformat bar ∧
      ∀ last ∈ scan.lastSeen, last.instant ≤ ts.instant := by
  obtain ⟨late, shifted, low, high, open_, close, volume, compared, aligned, readLow, readHigh,
    readOpen, readClose, readVolume, rfl⟩ := scanBar_cases stamped scanned
  rw [← outOfOrder_false_iff compared]
  simp only [appendIf_eq_nil_iff, ohlcIssue_eq_nil_iff]
  constructor
  · intro ⟨⟨⟨⟨⟨clean, onTime⟩, straight⟩, _⟩, lowest, highest, first, last, given, bounds⟩,
      positive⟩
    obtain ⟨rfl, rfl, rfl, rfl⟩ := given
    cases straight
    refine ⟨clean, ⟨⟨ts, stamped, aligned⟩, ?_, ?_⟩, onTime⟩
    · exact ⟨lowest, highest, first, last, ⟨readLow, readHigh, readOpen, readClose⟩, bounds⟩
    · intro given read
      cases readVolume.symm.trans read
      simpa using positive
  · intro ⟨clean, passes, onTime⟩
    obtain ⟨other, sameStamp, straight⟩ := passes.stamp
    cases stamped.symm.trans sameStamp
    cases aligned.symm.trans straight
    obtain ⟨lowest, highest, first, last, quoted, bounds⟩ := passes.prices
    cases readLow.symm.trans quoted.low
    cases readHigh.symm.trans quoted.high
    cases readOpen.symm.trans quoted.open_
    cases readClose.symm.trans quoted.close
    refine ⟨⟨⟨⟨⟨clean, onTime⟩, rfl⟩, rfl⟩, _, _, _, _, ⟨rfl, rfl, rfl, rfl⟩, bounds⟩, ?_⟩
    cases volume with
    | none => rfl
    | some volume => simpa using passes.volume volume readVolume

theorem timestamps_of_foldlM (bars : List RawBar) {final : Scan}
    (folded : bars.foldlM (scanBar guard fromisoformat) scan = .ok final) :
    final.timestamps = scan.timestamps ++ bars.filterMap (stampOf fromisoformat) := by
  induction bars generalizing scan with
  | nil =>
    cases folded
    simp
  | cons bar rest ih =>
    rw [List.foldlM_cons] at folded
    obtain ⟨next, scanned, folded⟩ := bind_ok folded
    rw [ih folded, timestamps_of_scanBar scanned, List.append_assoc]
    cases stamp : stampOf fromisoformat bar with
    | none => simp [stamp]
    | some ts => simp [stamp]

/-- The bars leave no issue when each passes and none is earlier than the one
before it. -/
theorem issues_of_foldlM (bars : List RawBar) {final : Scan}
    (folded : bars.foldlM (scanBar guard fromisoformat) scan = .ok final) :
    final.issues = [] ↔ scan.issues = [] ∧
      (∀ bar ∈ bars, PassesBar guard fromisoformat bar) ∧
        (scan.lastSeen.toList.map DateTime.instant ++ instants fromisoformat bars).IsChain
          (· ≤ ·) := by
  induction bars generalizing scan with
  | nil =>
    cases folded
    cases seen : final.lastSeen with
    | none => simp [instants]
    | some last => simp [instants]
  | cons bar rest ih =>
    rw [List.foldlM_cons] at folded
    obtain ⟨next, scanned, folded⟩ := bind_ok folded
    rw [ih folded, List.forall_mem_cons]
    cases stamp : stampOf fromisoformat bar with
    | none =>
      rw [scanBar_unstamped _ _ _ stamp] at scanned
      cases scanned
      have fails : ¬ PassesBar guard fromisoformat bar := PassesBar.not_unstamped stamp
      simp [appendIssue_ne_nil, fails]
    | some ts =>
      rw [issues_of_scanBar stamp scanned, lastSeen_of_scanBar stamp scanned]
      have stamps : instants fromisoformat (bar :: rest) =
          ts.instant :: instants fromisoformat rest := by
        simp [instants, stamp]
      rw [stamps]
      cases seen : scan.lastSeen with
      | none => simp [and_assoc]
      | some last =>
        simp only [Option.toList_some, List.map_cons, List.map_nil, List.cons_append,
          List.nil_append, List.isChain_cons_cons, Option.mem_some_iff, forall_eq']
        tauto

end Scanning

/-! ## The stamps together -/

theorem issues_of_checkStamps {guard : DataQualityGuard} {scan : Scan}
    (clean : (checkStamps guard scan).1 = []) : scan.issues = [] := by
  unfold checkStamps at clean
  dsimp only at clean
  split at clean
  · exact clean
  · simp only [appendIf_eq_nil_iff] at clean
    exact clean.1.1.1.1

theorem nodup_iff_length_dedup (items : List Int) :
    (items.dedup.length != items.length) = false ↔ items.Nodup := by
  rw [bne_eq_false_iff_eq]
  constructor
  · intro same
    exact List.dedup_eq_self.mp ((List.dedup_sublist items).eq_of_length same)
  · intro distinct
    rw [distinct.dedup]

/-- Stamps that go up leave no issue when none is held twice, not too many are
missing and no gap is too long. -/
theorem checkStamps_eq_nil_iff (guard : DataQualityGuard) {scan : Scan} {stamps : List Int}
    (held : scan.timestamps.map DateTime.instant = stamps) (nonempty : stamps ≠ [])
    (ascending : stamps.IsChain (· ≤ ·)) :
    (checkStamps guard scan).1 = [] ↔ scan.issues = [] ∧ stamps.Nodup ∧
      (∀ ratio, computeMissingRatio stamps guard.expectedTimeframeMinutes = some ratio →
        ratio ≤ guard.missingRatioWarn) ∧
      stamps.IsChain (fun earlier later => (later - earlier) / minute ≤ guard.maxGapMinutes) := by
  have gaps : ((stamps.zip stamps.tail).any (fun pair =>
        decide (guard.maxGapMinutes < (pair.2 - pair.1) / 60000000))) = false ↔
      stamps.IsChain (fun earlier later => (later - earlier) / minute ≤ guard.maxGapMinutes) := by
    rw [isChain_iff_pairs, List.any_eq_false]
    simp only [decide_eq_true_eq, not_lt, minute]
  have dense : ((computeMissingRatio stamps guard.expectedTimeframeMinutes).any (fun ratio =>
        decide (guard.missingRatioWarn < ratio))) = false ↔
      ∀ ratio, computeMissingRatio stamps guard.expectedTimeframeMinutes = some ratio →
        ratio ≤ guard.missingRatioWarn := by
    cases computeMissingRatio stamps guard.expectedTimeframeMinutes with
    | none => simp
    | some ratio => simp
  unfold checkStamps
  simp only [held, mergeSort_of_isChain ascending, List.isEmpty_eq_false_iff.mpr nonempty,
    Bool.false_eq_true, if_false, appendIf_eq_nil_iff, gaps, dense, nodup_iff_length_dedup]
  tauto

/-! ## The verdict -/

section Verdict

variable {guard : DataQualityGuard} {fromisoformat : String → Option DateTime}
  {content : Option (List Char)} {frame : MarketFrame}

/-- The guard returns exactly when it can read the drift and the bars. -/
theorem validate_returns_iff :
    (∃ verdict, guard.validate fromisoformat content frame = .ok verdict) ↔
      (∃ drift, loadLatestClockDrift content = .ok drift) ∧
        Readable guard fromisoformat frame := by
  unfold DataQualityGuard.validate
  simp only [bind_ok_iff]
  cases loaded : loadLatestClockDrift content with
  | error error => simp
  | ok drift =>
    simp only [Except.ok.injEq, exists_eq', true_and, Readable]
    cases bars : frame.bars with
    | nil => simp [pure, Except.pure]
    | cons bar rest =>
      have scanned (issues : List String) :=
        foldlM_unseen_iff guard fromisoformat { issues } (bar :: rest) rfl
      rw [← scanned (appendIf (drift.any (fun drift => decide (guard.ntpMaxMs < drift)))
        "ntp_drift" [])]
      simp [-List.foldlM_cons, pure, Except.pure, bind_ok_iff]

theorem drifting_iff (ntpMaxMs : Int) (drift : Option Int) :
    drift.any (fun drift => decide (ntpMaxMs < drift)) = false ↔
      ∀ value, drift = some value → value ≤ ntpMaxMs := by
  cases drift with
  | none => simp
  | some drift => simp

/-- The verdict is `ok` exactly when every check passes. -/
theorem status_ok_iff {result : QualityResult} {flagged : MarketFrame}
    (validated : guard.validate fromisoformat content frame = .ok (result, flagged)) :
    result.status = "ok" ↔ Passes guard fromisoformat content frame := by
  obtain ⟨drift, loaded, validated⟩ := bind_ok validated
  have drifts : (∀ value, loadLatestClockDrift content = .ok (some value) →
      value ≤ guard.ntpMaxMs) ↔ ∀ value, drift = some value → value ≤ guard.ntpMaxMs := by
    rw [loaded]
    simp only [Except.ok.injEq]
  cases bars : frame.bars with
  | nil =>
    simp only [bars, List.isEmpty_nil, if_true] at validated
    cases validated
    rw [finalize_ok_iff]
    exact ⟨fun clean => absurd clean (appendIssue_ne_nil _ _),
      fun passes => absurd bars passes.nonempty⟩
  | cons bar rest =>
    simp only [bars, List.isEmpty_cons, Bool.false_eq_true, if_false] at validated
    obtain ⟨final, folded, validated⟩ := bind_ok validated
    cases validated
    rw [finalize_ok_iff]
    have scanned := issues_of_foldlM _ folded
    simp only [appendIf_eq_nil_iff, true_and, drifting_iff, Option.toList_none, List.map_nil,
      List.nil_append] at scanned
    have held : final.timestamps.map DateTime.instant = instants fromisoformat frame.bars := by
      rw [timestamps_of_foldlM _ folded, bars]
      simp [instants]
    rw [← bars] at scanned
    have stamped (passes : PassesBar guard fromisoformat bar) :
        instants fromisoformat frame.bars ≠ [] := by
      obtain ⟨ts, stamp, _⟩ := passes.stamp
      simp [instants, bars, stamp]
    constructor
    · intro clean
      obtain ⟨calm, passing, ascending⟩ := scanned.mp (issues_of_checkStamps clean)
      have nonempty := stamped (passing bar (by simp [bars]))
      obtain ⟨-, distinct, dense, gaps⟩ :=
        (checkStamps_eq_nil_iff guard held nonempty ascending).mp clean
      exact ⟨drifts.mpr calm, by simp [bars], passing,
        (pairwise_lt_iff _).mpr ⟨ascending, distinct⟩, dense, gaps⟩
    · intro passes
      obtain ⟨ascending, distinct⟩ := (pairwise_lt_iff _).mp passes.increasing
      have nonempty := stamped (passes.bars bar (by simp [bars]))
      exact (checkStamps_eq_nil_iff guard held nonempty ascending).mpr
        ⟨scanned.mpr ⟨drifts.mp passes.drift, passes.bars, ascending⟩, distinct, passes.dense,
          passes.gaps⟩

/-- A frame that passes is sound exactly when its bars are plain. -/
theorem Passes.sound_iff (passes : Passes guard fromisoformat content frame) :
    SoundFrame guard fromisoformat frame ↔
      ∀ bar ∈ frame.bars, PlainBar guard fromisoformat bar := by
  constructor
  · intro sound bar member
    exact (passes.bars bar member).sound_iff.mp (sound.bars bar member)
  · intro plain
    have sound : ∀ bar ∈ frame.bars, SoundBar guard fromisoformat bar :=
      fun bar member => (passes.bars bar member).sound_iff.mpr (plain bar member)
    refine ⟨passes.nonempty, sound, passes.increasing, ?_⟩
    have whole : ∀ instant ∈ instants fromisoformat frame.bars, minute ∣ instant := by
      intro instant member
      simp only [instants, List.mem_map, List.mem_filterMap] at member
      obtain ⟨ts, ⟨bar, held, stamped⟩, rfl⟩ := member
      obtain ⟨other, same, onGrid⟩ := (sound bar held).stamp
      cases stamped.symm.trans same
      have ofDay : minute ∣ ts.instant % day := (dvd_mul_left _ _).trans onGrid
      unfold minute day at *
      omega
    refine passes.gaps.imp_of_mem_imp ?_
    intro earlier later before after within
    obtain ⟨first, rfl⟩ := whole earlier before
    obtain ⟨second, rfl⟩ := whole later after
    unfold minute at *
    omega

end Verdict

/-- One bar at the start of an hour, with prices that are not numbers. -/
def nanFrame : MarketFrame where
  symbol := "EURUSD"
  timeframe := "5m"
  bars := [[("timestamp", .datetime epoch), ("low", .document (.float 0 "nan")),
    ("high", .document (.float 0 "nan")), ("open", .document (.float 0 "nan")),
    ("close", .document (.float 0 "nan"))]]

end FxToushi.Ingestion.DataQuality
