import FxToushi.Strategies.RoundTouches

namespace FxToushi.Strategies.RoundNumber

open Calendar Data Py

/-! # The spacing of round-number signals

The counter of bars since the last signal is at most the number of bars that
passed the gates since then, and the touched levels of a date hold every level
signalled on it.
-/

/-- The level that the entry is three thousandths away from. -/
def Candidate.level (candidate : Candidate) : Rat :=
  match candidate.side with
  | .long => candidate.entry - 3 / 1000
  | .short => candidate.entry + 3 / 1000

/-- The stop and the target are on their sides of the entry. -/
def Candidate.Ordered (candidate : Candidate) : Prop :=
  match candidate.side with
  | .long => candidate.stop < candidate.entry ∧ candidate.entry < candidate.target
  | .short => candidate.target < candidate.entry ∧ candidate.entry < candidate.stop

namespace Bar

/-- The session, the weekday and the volatility let the bar through. -/
def passesGates (bar : Bar) : Bool :=
  match bar.utcTs? with
  | none => false
  | some utcTs => inHours utcTs && decide (weekdayOf utcTs < 5) && decide (minAtr ≤ bar.atrDaily)

theorem candidate_long {level : Rat} (bar : Bar) (utcTs : DateTime) (whole : IsRound level)
    (above : ¬ bar.openPrice < level) :
    let candidate := bar.candidate utcTs level
    candidate.side = .long ∧ candidate.entry = level + 3 / 1000 ∧
      candidate.stop = level - 15 / 100 ∧ candidate.target = level + 3 / 1000 + 15 / 100 := by
  simp only [candidate, above, decide_false, Bool.false_eq_true, if_false, stopPips, targetPips]
  refine ⟨trivial, roundTo_thousandths whole 3 ?_, roundTo_thousandths whole (-150) ?_,
    roundTo_thousandths whole 153 ?_⟩
  · norm_num
  · ring
  · ring

theorem candidate_short {level : Rat} (bar : Bar) (utcTs : DateTime) (whole : IsRound level)
    (below : bar.openPrice < level) :
    let candidate := bar.candidate utcTs level
    candidate.side = .short ∧ candidate.entry = level - 3 / 1000 ∧
      candidate.stop = level + 15 / 100 ∧ candidate.target = level - 3 / 1000 - 15 / 100 := by
  simp only [candidate, below, decide_true, if_true, stopPips, targetPips]
  refine ⟨trivial, roundTo_thousandths whole (-3) ?_, roundTo_thousandths whole 150 ?_,
    roundTo_thousandths whole (-153) ?_⟩
  · ring
  · ring
  · ring

theorem candidate_ordered {level : Rat} (bar : Bar) (utcTs : DateTime) (whole : IsRound level) :
    (bar.candidate utcTs level).Ordered ∧ (bar.candidate utcTs level).level = level := by
  rw [Candidate.Ordered, Candidate.level]
  by_cases below : bar.openPrice < level
  · obtain ⟨side, entry, stop, target⟩ := candidate_short bar utcTs whole below
    rw [side, entry, stop, target]
    refine ⟨⟨?_, ?_⟩, ?_⟩
    · linarith
    · linarith
    · ring
  · obtain ⟨side, entry, stop, target⟩ := candidate_long bar utcTs whole below
    rw [side, entry, stop, target]
    refine ⟨⟨?_, ?_⟩, ?_⟩
    · linarith
    · linarith
    · ring

end Bar

namespace RoundNumberRejectionStrategy

variable {strategy : RoundNumberRejectionStrategy} {bar : Bar}

/-- The candidates of a sequence of bars. -/
def candidates (strategy : RoundNumberRejectionStrategy) : List Bar → List Candidate
  | [] => []
  | bar :: rest => (strategy.generate bar).2 ++ candidates (strategy.step bar) rest

/-- The date in UTC and the level of a candidate. -/
def dateAndLevel (candidate : Candidate) : Int × Rat :=
  (Bar.dateOf candidate.timestamp, candidate.level)

/-- What the bar after the others emits. -/
def emitted (before : List Bar) (bar : Bar) : List Candidate :=
  ((runFrom step {} before).generate bar).2

/-- No level is signalled twice on a date, a bar emits one candidate at most, so many bars
pass the gates between two that emit, and a candidate is ordered and for a level that its bar
touches. -/
structure Spaced (bars : List Bar) : Prop where
  once : ((candidates {} bars).map dateAndLevel).Nodup
  single : ∀ before bar after, bars = before ++ bar :: after → (emitted before bar).length ≤ 1
  apart : ∀ before first between second after,
    bars = before ++ first :: (between ++ second :: after) →
      emitted before first ≠ [] → emitted (before ++ first :: between) second ≠ [] →
        cooldownBars ≤ between.countP Bar.passesGates
  bounded : ∀ before bar after, bars = before ++ bar :: after →
    ∀ candidate ∈ emitted before bar, candidate.Ordered ∧ IsRound candidate.level ∧
      bar.Touches candidate.level ∧ bar.utcTs? = some candidate.timestamp

/-- An emitting bar has waited for the cooldown, and signals the first level not touched on
its date yet. -/
theorem generate_emits (emits : (strategy.generate bar).2 ≠ []) :
    ∃ utcTs level, bar.utcTs? = some utcTs ∧
      bar.sessionDate? = some (Bar.dateOf utcTs) ∧ cooldownBars ≤ strategy.barsSinceSignal ∧
      level ∈ strategy.untouched bar (Bar.dateOf utcTs) ∧
      (strategy.step bar).barsSinceSignal = 0 ∧
      (strategy.generate bar).2 = [bar.candidate utcTs level] := by
  obtain ⟨_, stays, -⟩ | ⟨utcTs, known, dated, -, room, scans⟩ := generate_cases strategy bar
  · rw [stays] at emits
    exact absurd rfl emits
  · have ready : cooldownBars ≤ strategy.barsSinceSignal := by
      by_contra cooling
      rw [RoundNumberRejectionStrategy.room, if_neg fun gates => cooling gates.2] at room
      cases room
    rw [step, scans]
    rw [scans] at emits
    rw [scan, find_untouched] at emits ⊢
    cases found : (strategy.untouched bar (Bar.dateOf utcTs)).head? with
    | none =>
      rw [found] at emits
      exact absurd rfl emits
    | some level =>
      exact ⟨utcTs, level, known, dated, ready, List.mem_of_mem_head? found, rfl, rfl⟩

theorem scan_barsSinceSignal (strategy : RoundNumberRejectionStrategy) (bar : Bar)
    (utcTs : DateTime) :
    (strategy.scan bar utcTs).1.barsSinceSignal ≤ strategy.barsSinceSignal := by
  rw [scan]
  split
  · exact le_rfl
  · exact Nat.zero_le _

/-- The counter grows with a bar that passes the gates only. -/
theorem step_barsSinceSignal (strategy : RoundNumberRejectionStrategy) (bar : Bar) :
    (strategy.step bar).barsSinceSignal ≤
      strategy.barsSinceSignal + if bar.passesGates then 1 else 0 := by
  rw [step, generate, Bar.passesGates]
  cases bar.utcTs? with
  | none => exact Nat.le_add_right _ _
  | some utcTs =>
    dsimp only
    by_cases hours : Bar.inHours utcTs = true
    · by_cases weekend : 5 ≤ Bar.weekdayOf utcTs
      · simp [weekend]
      · by_cases quiet : bar.atrDaily < minAtr
        · simp [weekend, quiet]
        · have opened := scan_barsSinceSignal (strategy.resetDaily (Bar.dateOf utcTs)) bar utcTs
          rw [resetDaily_barsSinceSignal] at opened
          by_cases cooling : strategy.barsSinceSignal < cooldownBars
          · simp [hours, weekend, quiet, cooling, not_le.mp weekend, not_lt.mp quiet]
          · simpa [hours, weekend, quiet, cooling, not_le.mp weekend, not_lt.mp quiet] using
              opened.trans (Nat.le_succ _)
    · simp [hours]

theorem candidates_append (strategy : RoundNumberRejectionStrategy) (before after : List Bar) :
    candidates strategy (before ++ after) =
      candidates strategy before ++ candidates (runFrom step strategy before) after := by
  induction before generalizing strategy with
  | nil => rfl
  | cons bar rest ih =>
    rw [List.cons_append, candidates, candidates, ih, List.append_assoc]
    rfl

/-- Every date and level signalled is remembered, unless a later day has begun. -/
structure Recalls (strategy : RoundNumberRejectionStrategy) (before : List Bar)
    (signalled : List (Int × Rat)) : Prop where
  known : ∀ date ∈ strategy.lastSignalDate, ∃ bar ∈ before, bar.sessionDate? = some date
  kept : ∀ entry ∈ signalled, entry.2 ∈ strategy.touchedOn entry.1 ∨
    ∃ later ∈ strategy.lastSignalDate, entry.1 < later

theorem Recalls.kept_on {before : List Bar} {signalled : List (Int × Rat)}
    (recalls : strategy.Recalls before signalled)
    (ordered : ∀ earlier ∈ before, earlier.NotAfter bar) {date : Int}
    (dated : bar.sessionDate? = some date) {entry : Int × Rat} (member : entry ∈ signalled) :
    entry.1 < date ∨ entry.1 = date ∧ entry.2 ∈ strategy.touchedOn date := by
  have latest : ∀ begun ∈ strategy.lastSignalDate, begun ≤ date := fun begun last => by
    obtain ⟨earlier, member, session⟩ := recalls.known begun last
    exact sessionDate_le (ordered earlier member) session dated
  obtain seen | ⟨later, begun, less⟩ := recalls.kept entry member
  · have today : strategy.lastSignalDate = some entry.1 := by
      by_contra other
      rw [touchedOn, if_neg other] at seen
      cases seen
    obtain same | less := (latest entry.1 today).eq_or_lt
    · exact .inr ⟨same, same ▸ seen⟩
    · exact .inl less
  · exact .inl (less.trans_le (latest later begun))

theorem step_recalls {before : List Bar} {signalled : List (Int × Rat)}
    (recalls : strategy.Recalls before signalled)
    (ordered : ∀ earlier ∈ before, earlier.NotAfter bar) :
    (strategy.step bar).Recalls (before ++ [bar])
      (signalled ++ (strategy.generate bar).2.map dateAndLevel) := by
  rw [step]
  obtain ⟨barsSinceSignal, stays, -⟩ | ⟨utcTs, -, dated, -, -, scans⟩ :=
    generate_cases strategy bar
  · rw [stays, List.map_nil, List.append_nil]
    refine ⟨fun date last => ?_, recalls.kept⟩
    obtain ⟨earlier, member, session⟩ := recalls.known date last
    exact ⟨earlier, List.mem_append_left _ member, session⟩
  · obtain ⟨today, last, signals⟩ := scan_resetDaily strategy bar utcTs (Bar.dateOf utcTs)
    rw [scans, signals]
    refine ⟨fun date known => ?_, fun entry member => ?_⟩
    · rw [last] at known
      obtain rfl := Option.some.inj known
      exact ⟨bar, List.mem_append_right _ (List.mem_singleton_self bar), dated⟩
    · obtain member | member := List.mem_append.mp member
      · obtain less | ⟨same, seen⟩ := recalls.kept_on ordered dated member
        · exact .inr ⟨_, last, less⟩
        · rw [same, today]
          exact .inl (List.mem_append_left _ seen)
      · obtain ⟨_, found, rfl⟩ := List.mem_map.mp member
        obtain ⟨level, first, rfl⟩ := List.mem_map.mp found
        have fresh := List.mem_of_mem_head? (Option.mem_toList.mp first)
        have whole := (Bar.mem_touched.mp (List.mem_filter.mp fresh).1).1
        refine .inl ?_
        rw [dateAndLevel, (Bar.candidate_ordered bar utcTs whole).2]
        exact today ▸ List.mem_append_right _ first

theorem run_recalls {bars : List Bar} (ordered : bars.Pairwise Bar.NotAfter) :
    (runFrom step {} bars).Recalls bars ((candidates {} bars).map dateAndLevel) ∧
      ((candidates {} bars).map dateAndLevel).Nodup := by
  induction bars using List.reverseRecOn with
  | nil => exact ⟨⟨by simp [runFrom], by simp [candidates]⟩, List.nodup_nil⟩
  | append_singleton before bar ih =>
    obtain ⟨earlier, -, last⟩ := List.pairwise_append.mp ordered
    obtain ⟨recalls, once⟩ := ih earlier
    have ordered : ∀ other ∈ before, other.NotAfter bar :=
      fun other member => last other member bar (List.mem_singleton_self bar)
    have more : candidates {} (before ++ [bar]) = candidates {} before ++
        ((runFrom step {} before).generate bar).2 := by
      rw [candidates_append, candidates, candidates, List.append_nil]
    rw [more, List.map_append]
    refine ⟨?_, ?_⟩
    · rw [runFrom, List.foldl_append]
      exact step_recalls recalls ordered
    · by_cases quiet : ((runFrom step {} before).generate bar).2 = []
      · rw [quiet, List.map_nil, List.append_nil]
        exact once
      · obtain ⟨utcTs, level, -, dated, -, fresh, -, emits⟩ := generate_emits quiet
        have whole := (Bar.mem_touched.mp (List.mem_filter.mp fresh).1).1
        rw [emits, List.map_singleton, dateAndLevel,
          (Bar.candidate_ordered bar utcTs whole).2]
        refine once.append (List.nodup_singleton _) fun entry member new => ?_
        obtain rfl := List.mem_singleton.mp new
        obtain less | ⟨-, seen⟩ := recalls.kept_on ordered dated member
        · exact absurd less (lt_irrefl _)
        · have unseen := (List.mem_filter.mp fresh).2
          simp [seen] at unseen

/-- Round-number signals are spaced and bounded. -/
theorem spaced_of_ordered {bars : List Bar} (ordered : bars.Pairwise Bar.NotAfter) :
    Spaced bars := by
  refine ⟨(run_recalls ordered).2, ?_, ?_, ?_⟩
  · intro before bar after _
    by_cases quiet : emitted before bar = []
    · simp [quiet]
    · obtain ⟨utcTs, level, -, -, -, -, -, emits⟩ := generate_emits quiet
      rw [emitted, emits, List.length_singleton]
  · intro before first between second after _ former latter
    obtain ⟨-, -, -, -, -, -, restarted, -⟩ := generate_emits former
    obtain ⟨-, -, -, -, ready, -⟩ := generate_emits latter
    have counted :=
      runFrom_counter_le step_barsSinceSignal ((runFrom step {} before).step first) between
    rw [runFrom, List.foldl_append, List.foldl_cons] at ready
    rw [restarted, Nat.zero_add] at counted
    exact ready.trans counted
  · intro before bar after _ candidate member
    obtain ⟨utcTs, level, known, -, -, fresh, -, emits⟩ :=
      generate_emits (List.ne_nil_of_mem member)
    obtain ⟨whole, touches⟩ := Bar.mem_touched.mp (List.mem_filter.mp fresh).1
    obtain ⟨sides, same⟩ := Bar.candidate_ordered bar utcTs whole
    rw [emitted, emits] at member
    obtain rfl := List.mem_singleton.mp member
    rw [same]
    exact ⟨sides, whole, touches, known⟩

/-- A touch of 150, six bars without one, and a touch of 150.5. -/
theorem spaced_sample :
    Spaced (barAt 0 (by decide) (1499 / 10) (3001 / 20) ::
      (List.replicate 6 (barAt 5 (by decide) (1502 / 10) (1503 / 10)) ++
        [barAt 10 (by decide) (1504 / 10) (3011 / 20)])) :=
  spaced_of_ordered (by decide)

end RoundNumberRejectionStrategy

end FxToushi.Strategies.RoundNumber
