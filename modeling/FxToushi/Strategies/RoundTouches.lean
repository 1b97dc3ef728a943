import FxToushi.Strategies.RoundNumber

namespace FxToushi.Strategies.RoundNumber

open Calendar Data Py

/-! # First touches of round numbers -/

theorem truncate_le_of_le {value : Rat} {whole : Int} (above : value ≤ whole) :
    truncate value ≤ whole := by
  rw [truncate]
  split
  · exact_mod_cast le_trans (Rat.floor_le value) above
  · have below : ((-whole : Int) : Rat) ≤ -value := by
      push_cast
      exact neg_le_neg above
    have := Rat.le_floor_iff.mpr below
    omega

theorem IsRound.fraction {level : Rat} (whole : IsRound level) :
    roundTo (level - level.floor) 2 ∈ roundLevels := by
  obtain ⟨halves, rfl⟩ := whole
  have floor : ((halves : Rat) / 2).floor = halves / 2 := by
    exact_mod_cast Rat.floor_intCast_div_natCast halves 2
  have split : halves = 2 * (halves / 2) + halves % 2 := by omega
  have part : (halves : Rat) / 2 - ((halves : Rat) / 2).floor = ((halves % 2 : Int) : Rat) / 2 := by
    have exact : (halves : Rat) = 2 * ((halves / 2 : Int) : Rat) + ((halves % 2 : Int) : Rat) := by
      exact_mod_cast split
    rw [floor]
    linarith
  rw [part]
  obtain even | odd : halves % 2 = 0 ∨ halves % 2 = 1 := by omega
  · rw [even]
    decide +kernel
  · rw [odd]
    decide +kernel

namespace Bar

instance (earlier later : Bar) : Decidable (earlier.NotAfter later) :=
  inferInstanceAs (Decidable (∀ first ∈ earlier.utcTs?, ∀ second ∈ later.utcTs?,
    first.time ≤ second.time))

instance (bar : Bar) (level : Rat) : Decidable (bar.Touches level) :=
  inferInstanceAs (Decidable (_ ∧ _))

theorem levels_round {bar : Bar} {level : Rat} (member : level ∈ bar.levels) : IsRound level := by
  obtain ⟨turn, -, rfl⟩ := List.mem_map.mp member
  refine ⟨truncate (bar.low * 2) + turn, ?_⟩
  rw [baseLevel]
  push_cast
  ring

theorem mem_levels {bar : Bar} {level : Rat} (whole : IsRound level) (touches : bar.Touches level) :
    level ∈ bar.levels := by
  obtain ⟨halves, rfl⟩ := whole
  obtain ⟨low, high⟩ := touches
  have start : truncate (bar.low * 2) ≤ halves := truncate_le_of_le (by linarith)
  have turns : ((halves - truncate (bar.low * 2)).toNat : Rat) =
      halves - truncate (bar.low * 2) := by
    exact_mod_cast Int.toNat_of_nonneg (Int.sub_nonneg.mpr start)
  refine List.mem_map.mpr ⟨(halves - truncate (bar.low * 2)).toNat, ?_, ?_⟩
  · have room : ((halves - truncate (bar.low * 2) + 1 : Int) : Rat) ≤
        (bar.high + 1 / 1000 - bar.baseLevel) * 2 + 1 := by
      rw [baseLevel]
      push_cast
      linarith
    have := Rat.le_floor_iff.mpr room
    rw [List.mem_range]
    omega
  · rw [turns, baseLevel]
    ring

theorem levels_nodup (bar : Bar) : bar.levels.Nodup := by
  refine List.nodup_range.map fun first second same => ?_
  have equal : bar.baseLevel + (first : Rat) / 2 = bar.baseLevel + (second : Rat) / 2 := same
  have : (first : Rat) = second := by linarith
  exact_mod_cast this

theorem touched_nodup (bar : Bar) : bar.touched.Nodup := (levels_nodup bar).filter _

theorem mem_touched {bar : Bar} {level : Rat} :
    level ∈ bar.touched ↔ IsRound level ∧ bar.Touches level := by
  rw [touched, List.mem_filter, decide_eq_true_iff]
  constructor
  · rintro ⟨member, -, touches⟩
    exact ⟨levels_round member, touches⟩
  · rintro ⟨whole, touches⟩
    exact ⟨mem_levels whole touches, whole.fraction, touches⟩

theorem roundTo_thousandths {level value : Rat} (whole : IsRound level) (count : Int)
    (away : value = level + count / 1000) : roundTo value 3 = value := by
  obtain ⟨halves, rfl⟩ := whole
  have scaled : value * 10 ^ 3 = ((halves * 500 + count : Int) : Rat) := by
    rw [away]
    push_cast
    ring
  exact roundTo_of_whole scaled

theorem entry_exact {level : Rat} (whole : IsRound level) :
    roundTo (level - 3 / 1000) 3 = level - 3 / 1000 ∧
      roundTo (level + 3 / 1000) 3 = level + 3 / 1000 := by
  constructor
  · refine roundTo_thousandths whole (-3) ?_
    push_cast
    ring
  · refine roundTo_thousandths whole 3 ?_
    push_cast
    ring

theorem candidate_level {bar : Bar} {utcTs other : DateTime} {level found : Rat}
    (whole : IsRound level) (round : IsRound found)
    (same : bar.candidate utcTs level = bar.candidate other found) : level = found := by
  obtain ⟨below, above⟩ := entry_exact whole
  obtain ⟨foundBelow, foundAbove⟩ := entry_exact round
  have sides := congrArg Candidate.side same
  have entries := congrArg Candidate.entry same
  simp only [candidate, decide_eq_true_eq] at sides entries
  by_cases first : bar.openPrice < level <;> by_cases second : bar.openPrice < found
  · rw [if_pos first, if_pos second, below, foundBelow] at entries
    linarith
  · simp [first, second] at sides
  · simp [first, second] at sides
  · rw [if_neg first, if_neg second, above, foundAbove] at entries
    linarith

end Bar

namespace RoundNumberRejectionStrategy

variable {strategy : RoundNumberRejectionStrategy} {bar : Bar}

theorem resetDaily_touched (strategy : RoundNumberRejectionStrategy) (date : Int) :
    (strategy.resetDaily date).touchedToday = strategy.touchedOn date ∧
      (strategy.resetDaily date).lastSignalDate = some date := by
  rw [resetDaily, touchedOn]
  split
  · exact ⟨rfl, ‹_›⟩
  · exact ⟨rfl, rfl⟩

/-- What one bar does: nothing, count towards the end of the cooldown, or scan on its
own date. -/
theorem generate_cases (strategy : RoundNumberRejectionStrategy) (bar : Bar) :
    (∃ barsSinceSignal, strategy.generate bar = ({ strategy with barsSinceSignal }, []) ∧
      ∀ date ∈ bar.sessionDate?, date % 7 < 5 → strategy.room bar = 0) ∨
    ∃ utcTs, bar.utcTs? = some utcTs ∧ bar.sessionDate? = some (Bar.dateOf utcTs) ∧
      Bar.dateOf utcTs % 7 < 5 ∧ strategy.room bar = 1 ∧
      strategy.generate bar = (strategy.resetDaily (Bar.dateOf utcTs)).scan bar utcTs := by
  rw [generate, Bar.sessionDate?]
  cases known : bar.utcTs? with
  | none => exact .inl ⟨_, rfl, by simp⟩
  | some utcTs =>
    dsimp only [Option.bind_some]
    by_cases hours : Bar.inHours utcTs = true
    · rw [hours, if_neg (by simp), if_pos rfl]
      by_cases weekend : 5 ≤ Bar.weekdayOf utcTs
      · rw [if_pos weekend]
        refine .inl ⟨_, rfl, ?_⟩
        rintro date dated weekday
        obtain rfl := Option.some.inj dated
        exact absurd weekday (not_lt.mpr weekend)
      · rw [if_neg weekend]
        by_cases quiet : bar.atrDaily < minAtr
        · rw [if_pos quiet]
          refine .inl ⟨_, rfl, fun _ _ _ => ?_⟩
          rw [room, if_neg (fun gates => absurd quiet (not_lt.mpr gates.1))]
        · rw [if_neg quiet]
          by_cases cooling : strategy.barsSinceSignal < cooldownBars
          · rw [if_pos cooling]
            refine .inl ⟨_, rfl, fun _ _ _ => ?_⟩
            rw [room, if_neg (fun gates => absurd cooling (not_lt.mpr gates.2))]
          · rw [if_neg cooling]
            refine .inr ⟨utcTs, rfl, rfl, not_le.mp weekend, ?_, rfl⟩
            rw [room, if_pos ⟨not_lt.mp quiet, not_lt.mp cooling⟩]
    · rw [Bool.eq_false_iff.mpr hours]
      exact .inl ⟨_, rfl, by simp⟩

theorem resetDaily_barsSinceSignal (strategy : RoundNumberRejectionStrategy) (date : Int) :
    (strategy.resetDaily date).barsSinceSignal = strategy.barsSinceSignal := by
  rw [resetDaily]
  split <;> rfl

theorem find_untouched {date : Int} :
    (bar.touched.find? fun level => !(strategy.resetDaily date).touchedToday.contains level) =
      (strategy.untouched bar date).head? := by
  rw [(resetDaily_touched strategy date).1, untouched, List.head?_filter]

theorem scan_resetDaily (strategy : RoundNumberRejectionStrategy) (bar : Bar) (utcTs : DateTime)
    (date : Int) :
    let after := (strategy.resetDaily date).scan bar utcTs
    after.1.touchedOn date = strategy.touchedOn date ++ (strategy.untouched bar date).head?.toList ∧
      after.1.lastSignalDate = some date ∧
      after.2 = (strategy.untouched bar date).head?.toList.map (bar.candidate utcTs) := by
  obtain ⟨today, dated⟩ := resetDaily_touched strategy date
  dsimp only
  rw [scan, find_untouched]
  cases (strategy.untouched bar date).head? with
  | none => simp [touchedOn, today, dated]
  | some level => simp [touchedOn, today, dated]

/-- Every level touched by a bar in the session hours is remembered, unless a later day
has begun. -/
structure Remembers (strategy : RoundNumberRejectionStrategy) (before : List Bar) : Prop where
  known : ∀ date ∈ strategy.lastSignalDate, ∃ bar ∈ before, bar.sessionDate? = some date
  touched : ∀ bar ∈ before, ∀ date ∈ bar.sessionDate?, date % 7 < 5 → ∀ level ∈ bar.touched,
    level ∈ strategy.touchedOn date ∨ ∃ later ∈ strategy.lastSignalDate, date < later

theorem sessionDate_le {earlier later : Bar} (ordered : earlier.NotAfter later) {first second : Int}
    (former : earlier.sessionDate? = some first) (latter : later.sessionDate? = some second) :
    first ≤ second := by
  rw [Bar.sessionDate?, Option.bind_eq_some_iff] at former latter
  obtain ⟨start, known, former⟩ := former
  obtain ⟨stop, found, latter⟩ := latter
  split at former
  · split at latter
    · obtain rfl := Option.some.inj former
      obtain rfl := Option.some.inj latter
      exact Int.ediv_le_ediv (by decide) (ordered start known stop found)
    · exact absurd latter (Option.some_ne_none _).symm
  · exact absurd former (Option.some_ne_none _).symm

theorem touched_cases (strategy : RoundNumberRejectionStrategy) (date : Int) {level : Rat}
    (member : level ∈ bar.touched) :
    level ∈ strategy.touchedOn date ∨ level ∈ strategy.untouched bar date := by
  by_cases seen : level ∈ strategy.touchedOn date
  · exact .inl seen
  · exact .inr (List.mem_filter.mpr ⟨member, by simpa using seen⟩)

theorem mem_head?_toList {Item : Type*} {items : List Item} {item : Item} (member : item ∈ items)
    (single : items.length ≤ 1) : item ∈ items.head?.toList := by
  cases items with
  | nil => exact absurd member List.not_mem_nil
  | cons first rest =>
    have none : rest.length = 0 := Nat.le_zero.mp (Nat.le_of_succ_le_succ single)
    obtain rfl := List.length_eq_zero_iff.mp none
    exact member

theorem step_remembers {before : List Bar} (kept : strategy.Remembers before)
    (noted : strategy.Noted bar) (ordered : ∀ earlier ∈ before, earlier.NotAfter bar) :
    (strategy.step bar).Remembers (before ++ [bar]) := by
  obtain ⟨known, touched⟩ := kept
  rw [step]
  obtain ⟨barsSinceSignal, stays, closed⟩ | ⟨utcTs, -, dated, weekday, room, scans⟩ :=
    generate_cases strategy bar
  · rw [stays]
    refine ⟨fun date last => ?_, fun other member date session weekday level touches => ?_⟩
    · obtain ⟨earlier, member, session⟩ := known date last
      exact ⟨earlier, List.mem_append_left _ member, session⟩
    · obtain member | member := List.mem_append.mp member
      · exact touched other member date session weekday level touches
      · obtain rfl := List.mem_singleton.mp member
        have none := noted date session weekday
        rw [closed date session weekday, Nat.le_zero, List.length_eq_zero_iff] at none
        obtain seen | fresh := touched_cases strategy date touches
        · exact .inl seen
        · rw [none] at fresh
          exact absurd fresh List.not_mem_nil
  · obtain ⟨today, last, -⟩ := scan_resetDaily strategy bar utcTs (Bar.dateOf utcTs)
    rw [scans]
    refine ⟨fun date known => ?_, fun other member date session day level touches => ?_⟩
    · rw [last] at known
      obtain rfl := Option.some.inj known
      exact ⟨bar, List.mem_append_right _ (List.mem_singleton_self bar), dated⟩
    · obtain member | member := List.mem_append.mp member
      · obtain same | less := (sessionDate_le (ordered other member) session dated).eq_or_lt
        · subst same
          obtain seen | ⟨later, begun, less⟩ := touched other member _ session day level touches
          · exact .inl (today ▸ List.mem_append_left _ seen)
          · obtain ⟨earlier, member, begun⟩ := known later begun
            exact absurd less (not_lt.mpr (sessionDate_le (ordered earlier member) begun dated))
        · exact .inr ⟨_, last, less⟩
      · obtain rfl := List.mem_singleton.mp member
        obtain rfl : date = Bar.dateOf utcTs := Option.some.inj (session.symm.trans dated)
        refine .inl (today ▸ ?_)
        obtain seen | fresh := touched_cases strategy (Bar.dateOf utcTs) touches
        · exact List.mem_append_left _ seen
        · have one := noted _ dated weekday
          rw [room] at one
          exact List.mem_append_right _ (mem_head?_toList fresh one)

/-! ## The whole sequence -/

theorem run_remembers {bars : List Bar} (ordered : bars.Pairwise Bar.NotAfter)
    (noted : EachStep step Noted {} bars) : (runFrom step {} bars).Remembers bars := by
  induction bars using List.reverseRecOn with
  | nil => exact ⟨by simp [runFrom], by simp⟩
  | append_singleton before bar ih =>
    obtain ⟨earlier, -, last⟩ := List.pairwise_append.mp ordered
    obtain ⟨steps, final⟩ := eachStep_append.mp noted
    rw [runFrom, List.foldl_append]
    exact step_remembers (ih earlier steps) final.1
      fun other member => last other member bar (List.mem_singleton_self bar)

theorem emitted_level {utcTs : DateTime} {level : Rat} {candidate : Candidate}
    (emitted : candidate ∈ (strategy.generate bar).2) (whole : IsRound level)
    (built : candidate = bar.candidate utcTs level) :
    bar.sessionDate? = some (Bar.dateOf utcTs) ∧ Bar.dateOf utcTs % 7 < 5 ∧
      level ∈ strategy.untouched bar (Bar.dateOf utcTs) := by
  obtain ⟨_, stays, -⟩ | ⟨moment, -, dated, weekday, -, scans⟩ := generate_cases strategy bar
  · rw [stays] at emitted
    exact absurd emitted List.not_mem_nil
  · obtain ⟨-, -, signals⟩ := scan_resetDaily strategy bar moment (Bar.dateOf moment)
    rw [scans, signals] at emitted
    obtain ⟨found, first, rfl⟩ := List.mem_map.mp emitted
    have member : found ∈ strategy.untouched bar (Bar.dateOf moment) :=
      List.mem_of_mem_head? (Option.mem_toList.mp first)
    have round := (Bar.mem_touched.mp (List.mem_filter.mp member).1).1
    obtain rfl := Bar.candidate_level round whole built
    obtain rfl : moment = utcTs := congrArg Candidate.timestamp built
    exact ⟨dated, weekday, member⟩

/-- Where every bar in the session hours touches no more new levels than the strategy
can remember, its candidates are for first touches. -/
theorem firstTouches_of_noted {bars : List Bar} (ordered : bars.Pairwise Bar.NotAfter)
    (noted : EachStep step Noted {} bars) : FirstTouches bars := by
  rintro before bar after rfl candidate emitted utcTs level whole built earlier member same touches
  obtain ⟨earlierOrdered, laterOrdered, across⟩ := List.pairwise_append.mp ordered
  obtain ⟨known, touched⟩ := run_remembers earlierOrdered (eachStep_append.mp noted).1
  obtain ⟨dated, weekday, fresh⟩ := emitted_level emitted whole built
  have unseen := (List.mem_filter.mp fresh).2
  obtain seen | ⟨later, begun, less⟩ :=
    touched earlier member _ same weekday level (Bar.mem_touched.mpr ⟨whole, touches⟩)
  · simp [seen] at unseen
  · obtain ⟨other, member, session⟩ := known later begun
    have ordered := across other member bar List.mem_cons_self
    exact absurd less (not_lt.mpr (sessionDate_le ordered session dated))

/-! ## A forgotten touch comes back -/

/-- A bar at the same time that stays at one price. -/
def stillAt (bar : Bar) (price : Rat) : Bar :=
  { bar with openPrice := price, high := price, low := price, close := price, atrDaily := minAtr }

theorem stillAt_touched {price level : Rat} :
    level ∈ (stillAt bar price).touched ↔ IsRound level ∧ level = price := by
  rw [Bar.mem_touched, Bar.Touches, stillAt, le_antisymm_iff, and_comm (a := level ≤ price)]

theorem stillAt_quarter {level : Rat} : level ∉ (stillAt bar (1 / 4)).touched := by
  rw [stillAt_touched]
  rintro ⟨⟨halves, rfl⟩, same⟩
  have : ((halves * 2 : Int) : Rat) = 1 := by
    push_cast
    linarith
  have : halves * 2 = 1 := by exact_mod_cast this
  omega

theorem generate_open (strategy : RoundNumberRejectionStrategy) (bar : Bar) {date : Int}
    (dated : bar.sessionDate? = some date) (weekday : date % 7 < 5)
    (volatile : minAtr ≤ bar.atrDaily) :
    ∃ utcTs, date = Bar.dateOf utcTs ∧ strategy.generate bar =
      if strategy.barsSinceSignal < cooldownBars then
        ({ strategy with barsSinceSignal := strategy.barsSinceSignal + 1 }, [])
      else (strategy.resetDaily date).scan bar utcTs := by
  rw [Bar.sessionDate?, Option.bind_eq_some_iff] at dated
  obtain ⟨utcTs, known, open'⟩ := dated
  split at open'
  next hours =>
    obtain rfl := Option.some.inj open'
    refine ⟨utcTs, rfl, ?_⟩
    rw [generate, known]
    dsimp only
    rw [hours, if_neg (by simp), Bar.weekdayOf, if_neg (not_le.mpr weekday),
      if_neg (not_lt.mpr volatile)]
  next => exact absurd open' (Option.some_ne_none _).symm

theorem step_quiet (strategy : RoundNumberRejectionStrategy) {date : Int}
    (dated : bar.sessionDate? = some date) (weekday : date % 7 < 5) :
    let after := strategy.step (stillAt bar (1 / 4))
    after.touchedOn date = strategy.touchedOn date ∧
      min cooldownBars (strategy.barsSinceSignal + 1) ≤ after.barsSinceSignal := by
  obtain ⟨utcTs, -, open'⟩ :=
    generate_open strategy (stillAt bar (1 / 4)) dated weekday le_rfl
  have nothing : strategy.untouched (stillAt bar (1 / 4)) date = [] :=
    List.filter_eq_nil_iff.mpr fun level member => absurd member stillAt_quarter
  dsimp only
  rw [step, open']
  split
  next => exact ⟨rfl, min_le_right _ _⟩
  next ready =>
    obtain ⟨today, -, -⟩ := scan_resetDaily strategy (stillAt bar (1 / 4)) utcTs date
    rw [today, nothing]
    refine ⟨List.append_nil _, ?_⟩
    rw [scan, find_untouched, nothing]
    dsimp only [List.head?_nil]
    rw [resetDaily_barsSinceSignal]
    exact min_le_of_left_le (not_lt.mp ready)

theorem run_quiet (strategy : RoundNumberRejectionStrategy) {date : Int}
    (dated : bar.sessionDate? = some date) (weekday : date % 7 < 5)
    (turns : Nat) :
    let after := runFrom step strategy (List.replicate turns (stillAt bar (1 / 4)))
    after.touchedOn date = strategy.touchedOn date ∧
      min cooldownBars (strategy.barsSinceSignal + turns) ≤ after.barsSinceSignal := by
  induction turns generalizing strategy with
  | zero => exact ⟨rfl, min_le_right _ _⟩
  | succ turns ih =>
    obtain ⟨same, ready⟩ := step_quiet strategy dated weekday
    obtain ⟨kept, later⟩ := ih (strategy.step (stillAt bar (1 / 4)))
    refine ⟨kept.trans same, le_trans ?_ later⟩
    omega

/-- A touch that is not noted leaves a level that the bar touches and that is not
remembered afterwards. -/
theorem forgotten_of_not_noted (forgets : ¬ strategy.Noted bar) :
    ∃ date ∈ bar.sessionDate?, date % 7 < 5 ∧
      ∃ level ∈ bar.touched, level ∉ (strategy.step bar).touchedOn date := by
  simp only [Noted, not_forall, not_le, exists_prop] at forgets
  obtain ⟨date, dated, weekday, more⟩ := forgets
  refine ⟨date, dated, weekday, ?_⟩
  obtain ⟨barsSinceSignal, stays, closed⟩ | ⟨utcTs, -, own, -, room, scans⟩ :=
    generate_cases strategy bar
  · obtain ⟨level, fresh⟩ := List.exists_mem_of_length_pos (Nat.zero_lt_of_lt more)
    obtain ⟨member, unseen⟩ := List.mem_filter.mp fresh
    refine ⟨level, member, ?_⟩
    rw [step, stays]
    intro seen
    have : level ∈ strategy.touchedOn date := seen
    simp [this] at unseen
  · obtain rfl : date = Bar.dateOf utcTs := Option.some.inj (dated.symm.trans own)
    obtain ⟨today, -, -⟩ := scan_resetDaily strategy bar utcTs (Bar.dateOf utcTs)
    rw [room] at more
    obtain ⟨first, second, rest, fresh⟩ : ∃ first second rest,
        strategy.untouched bar (Bar.dateOf utcTs) = first :: second :: rest := by
      match fresh : strategy.untouched bar (Bar.dateOf utcTs) with
      | [] | [_] => simp [fresh] at more
      | first :: second :: rest => exact ⟨first, second, rest, rfl⟩
    have member : second ∈ strategy.untouched bar (Bar.dateOf utcTs) := by simp [fresh]
    obtain ⟨touches, unseen⟩ := List.mem_filter.mp member
    have distinct : first ≠ second := by
      have nodup := (Bar.touched_nodup bar).filter
        fun level => !(strategy.touchedOn (Bar.dateOf utcTs)).contains level
      rw [← untouched, fresh] at nodup
      simp at nodup
      exact nodup.1.1
    refine ⟨second, touches, ?_⟩
    rw [step, scans, today, fresh]
    simpa [distinct.symm] using unseen

theorem notAfter_of_same {earlier later other : Bar} (ordered : earlier.NotAfter later)
    (same : other.timestamp = later.timestamp) : earlier.NotAfter other := by
  rw [Bar.NotAfter, Bar.utcTs?, Bar.utcTs?] at ordered ⊢
  rwa [same]

theorem pairwise_same {before again : List Bar} (ordered : (before ++ [bar]).Pairwise Bar.NotAfter)
    (same : ∀ other ∈ again, other.timestamp = bar.timestamp) :
    (before ++ bar :: again).Pairwise Bar.NotAfter := by
  obtain ⟨earlier, -, last⟩ := List.pairwise_append.mp ordered
  have itself : bar.NotAfter bar := by
    intro first known second found
    rw [Option.some.inj (known.symm.trans found)]
  refine List.pairwise_append.mpr ⟨earlier, ?_, fun first member second later => ?_⟩
  · refine List.pairwise_cons.mpr ⟨fun other later => ?_, ?_⟩
    · exact notAfter_of_same itself (same other later)
    refine List.pairwise_of_forall_mem_list fun first member second later => ?_
    have ordered := notAfter_of_same itself (same second later)
    rw [Bar.NotAfter, Bar.utcTs?, Bar.utcTs?] at ordered ⊢
    rwa [same first member]
  · have ordered := last first member bar (List.mem_singleton_self bar)
    obtain rfl | later := List.mem_cons.mp later
    · exact ordered
    · exact notAfter_of_same ordered (same second later)

/-- A bar that is not noted can be followed by a repeated signal. -/
theorem repeats_of_not_noted {before : List Bar} (ordered : (before ++ [bar]).Pairwise Bar.NotAfter)
    (forgets : ¬ (runFrom step {} before).Noted bar) :
    ∃ later, (before ++ bar :: later).Pairwise Bar.NotAfter ∧
      ¬ FirstTouches (before ++ bar :: later) := by
  obtain ⟨date, dated, weekday, level, touches, forgotten⟩ := forgotten_of_not_noted forgets
  have round := (Bar.mem_touched.mp touches).1
  obtain ⟨quiet, bars⟩ : ∃ quiet, quiet = List.replicate 6 (stillAt bar (1 / 4)) := ⟨_, rfl⟩
  refine ⟨quiet ++ [stillAt bar level], pairwise_same ordered ?_, fun firsts => ?_⟩
  · intro other member
    obtain member | member := List.mem_append.mp member
    · rw [bars] at member
      rw [List.eq_of_mem_replicate member, stillAt]
    · rw [List.mem_singleton.mp member, stillAt]
  · have waited : runFrom step {} (before ++ bar :: quiet) =
        runFrom step ((runFrom step {} before).step bar) quiet := by
      simp only [runFrom, List.foldl_append, List.foldl_cons]
    obtain ⟨same, ready⟩ := run_quiet ((runFrom step {} before).step bar) dated weekday 6
    rw [← bars] at same ready
    obtain ⟨utcTs, rfl, emits⟩ := generate_open
      (runFrom step {} (before ++ bar :: quiet)) (stillAt bar level) dated weekday le_rfl
    have open' : ¬ (runFrom step {} (before ++ bar :: quiet)).barsSinceSignal < cooldownBars := by
      rw [waited]
      have : cooldownBars = 6 := rfl
      omega
    have fresh : level ∈ (runFrom step {} (before ++ bar :: quiet)).untouched
        (stillAt bar level) (Bar.dateOf utcTs) := by
      refine List.mem_filter.mpr ⟨stillAt_touched.mpr ⟨round, rfl⟩, ?_⟩
      rw [waited, same]
      simpa using forgotten
    obtain ⟨-, -, signals⟩ := scan_resetDaily (runFrom step {} (before ++ bar :: quiet))
      (stillAt bar level) utcTs (Bar.dateOf utcTs)
    have emitted : (stillAt bar level).candidate utcTs level ∈
        ((runFrom step {} (before ++ bar :: quiet)).generate (stillAt bar level)).2 := by
      rw [emits, if_neg open', signals]
      obtain ⟨first, head⟩ := Option.isSome_iff_exists.mp
        (List.isSome_head?.mpr (List.ne_nil_of_mem fresh))
      have found := (List.mem_filter.mp (List.mem_of_mem_head? head)).1
      rw [head, (stillAt_touched.mp found).2]
      exact List.mem_singleton_self _
    exact firsts (before ++ bar :: quiet) (stillAt bar level) [] (by simp) _ emitted
      utcTs level round rfl bar (by simp) dated (Bar.mem_touched.mp touches).2

/-- A bar on Wednesday, 15 April 2026, so many minutes past ten o'clock in UTC. -/
def barAt (minute : Nat) (small : minute < 60) (low high : Rat) : Bar where
  timestamp :=
    { time := 63911844000000000 + minute * 60000000
      offset := some 0
      inRange := by
        have : lastTime = 315537897599999999 := rfl
        omega }
  openPrice := low
  high
  low
  close := high
  atrDaily := 6 / 5
  estimatedCost := 27 / 1000

/-- A touch of 150, and after the cooldown one of 150 and one of 150.5. -/
theorem firstTouches_of_noted_sample :
    FirstTouches ([barAt 0 (by decide) (1499 / 10) (3001 / 20)] ++
      List.replicate 6 (barAt 5 (by decide) (1502 / 10) (1503 / 10)) ++
      [barAt 10 (by decide) (1499 / 10) (3001 / 20),
        barAt 15 (by decide) (3009 / 20) (3011 / 20)]) :=
  firstTouches_of_noted (by decide +kernel) (by decide +kernel)

/-- One bar touches 150 and 150.5, and only the first is remembered: 150.5 is signalled
when it is touched again. -/
theorem secondLevel_repeats :
    ¬ ∀ bars : List Bar, bars.Pairwise Bar.NotAfter → FirstTouches bars := by
  intro every
  let wide := barAt 0 (by decide) (1499 / 10) (3011 / 20)
  let quiet := barAt 5 (by decide) (1502 / 10) (1503 / 10)
  let again := barAt 10 (by decide) (1504 / 10) (3011 / 20)
  have first := every ([wide] ++ List.replicate 6 quiet ++ [again]) (by decide +kernel)
    ([wide] ++ List.replicate 6 quiet) again [] rfl (again.candidate again.timestamp (301 / 2))
    (by decide +kernel) again.timestamp (301 / 2) ⟨301, by decide +kernel⟩ rfl
    wide (by simp) (by decide +kernel)
  exact first (by decide +kernel)

end RoundNumberRejectionStrategy

end FxToushi.Strategies.RoundNumber
