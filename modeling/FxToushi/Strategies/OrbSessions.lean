import FxToushi.Data.Greatest
import FxToushi.Strategies.OrbVwapRetest

namespace FxToushi.Strategies.UsOrb

open Calendar Data Py

/-! # Sessions and the visits of a symbol

The visits so far say which bars a session has seen and which signals it gave.
The state of a symbol agrees with them as long as it saw the opening range from
the start, or nothing of it.
-/

/-! ## Session dates -/

def currentDate (settings : OrbSettings) (now : Int) : Int :=
  if settings.sessionWraps then
    (now - minutes (settings.startHour * 60 + settings.startMinute)) / dayLength
  else now / dayLength

theorem currentDate_mono (settings : OrbSettings) {now later : Int} (passed : now ≤ later) :
    currentDate settings now ≤ currentDate settings later := by
  unfold currentDate dayLength
  split <;> omega

theorem sessionDate_eq {settings : OrbSettings} {ts : DateTime} {date : Int}
    (resolved : sessionDate settings ts = .ok date) : date = currentDate settings ts.time := by
  unfold sessionDate at resolved
  unfold currentDate
  by_cases wraps : settings.sessionWraps
  · simp only [wraps, Bool.not_true, Bool.false_eq_true, if_false, if_true] at resolved ⊢
    have hour := settings.startHour.isLt
    have minute := settings.startMinute.isLt
    by_cases started : settings.startHour < hourOf ts ∨
        hourOf ts = settings.startHour ∧ settings.startMinute ≤ minuteOf ts
    · rw [if_pos started] at resolved
      obtain rfl := Except.ok.inj resolved
      simp only [hourOf, minuteOf, dateOf, dayLength, minutes] at started ⊢
      omega
    · rw [if_neg started] at resolved
      split at resolved
      · rename_i before shifted
        obtain rfl := Except.ok.inj resolved
        have earlier := (DateTime.shift_ok_iff.mp shifted).2.1
        simp only [hourOf, minuteOf, dateOf, dayLength, minutes, earlier] at started ⊢
        omega
      · exact absurd resolved (by simp)
  · simp only [wraps, Bool.not_false, if_true] at resolved
    rw [if_neg wraps]
    exact (Except.ok.inj resolved).symm

theorem startOf_le_iff (settings : OrbSettings) {first second : Int} :
    startOf settings first ≤ startOf settings second ↔ first ≤ second := by
  unfold startOf dayLength
  omega

/-! ## What the visits say -/

def visitsFor (log : List Visit) (symbol : String) (date : Int) : List Visit :=
  log.filter (fun visit => decide (visit.symbol = symbol ∧ visit.sessionDate = date))

/-- The bars of a session seen before its `orb_end`. -/
def openingBars (log : List Visit) (symbol : String) (date : Int) : List OrbBar :=
  ((visitsFor log symbol date).filter (fun visit => decide (visit.now < visit.orbEnd))).map
    Visit.bar

def signalsFor (log : List Visit) (symbol : String) (date : Int) : List OrbVwapRetestSignal :=
  (visitsFor log symbol date).filterMap Visit.signal

theorem openingBars_append (log : List Visit) (visit : Visit) (symbol : String) (date : Int) :
    openingBars (log ++ [visit]) symbol date = openingBars log symbol date ++
      if (visit.symbol = symbol ∧ visit.sessionDate = date) ∧ visit.now < visit.orbEnd then
        [visit.bar] else [] := by
  by_cases here : visit.symbol = symbol ∧ visit.sessionDate = date
  · by_cases opening : visit.now < visit.orbEnd
    · simp [openingBars, visitsFor, here, opening]
    · simp [openingBars, visitsFor, here, opening]
  · simp [openingBars, visitsFor, here]

theorem signalsFor_append (log : List Visit) (visit : Visit) (symbol : String) (date : Int) :
    signalsFor (log ++ [visit]) symbol date = signalsFor log symbol date ++
      if visit.symbol = symbol ∧ visit.sessionDate = date then visit.signal.toList else [] := by
  by_cases here : visit.symbol = symbol ∧ visit.sessionDate = date
  · cases given : visit.signal with
    | none => simp [signalsFor, visitsFor, here, given]
    | some signal => simp [signalsFor, visitsFor, here, given]
  · simp [signalsFor, visitsFor, here]

/-- The range of a session is that of the bars seen, and its signals are counted. -/
structure Follows (log : List Visit) (symbol : String) (session : OrbSession) : Prop where
  bars : session.orbBars = (openingBars log symbol session.sessionDate).length
  high : Extreme.Kept (· < ·) ((openingBars log symbol session.sessionDate).map OrbBar.high)
    session.orbHigh
  low : Extreme.Kept (· > ·) ((openingBars log symbol session.sessionDate).map OrbBar.low)
    session.orbLow
  emitted : session.signalsEmitted = (signalsFor log symbol session.sessionDate).length

/-- A state that was made too late to see a bar of the opening range. -/
def Late (clock : Int) (session : OrbSession) : Prop :=
  session.orbBars = 0 ∧ session.orbEnd ≤ clock

/-- The visit whose bar broke the range of the session. -/
structure BrokeOut (settings : OrbSettings) (symbol : String) (session : OrbSession)
    (direction : Direction) (visit : Visit) : Prop where
  symbol : visit.symbol = symbol
  date : visit.sessionDate = session.sessionDate
  range : ∃ high low, session.orbHigh = some high ∧ session.orbLow = some low ∧
    settings.Breaks high low direction visit.bar ∧
      session.breakoutLevel = some (direction.level high low)
  price : session.breakoutPrice = some visit.bar.close
  deadline : ∀ now ≤ lastTime,
    session.retestDeadline.any (fun deadline => decide (deadline < now)) = false →
      now ≤ visit.now + settings.retestWindow

/-- The state of a symbol agrees with the visits. -/
structure Current (settings : OrbSettings) (clock : Int) (log : List Visit) (symbol : String)
    (session : OrbSession) : Prop where
  date : session.sessionDate ≤ currentDate settings clock
  start : session.sessionStart = startOf settings session.sessionDate
  stop : session.orbEnd = orbEndOf settings session.sessionDate
  followed : Follows log symbol session ∨ Late clock session
  broken : ∀ direction, session.breakoutDirection = some direction → session.orbEnd ≤ clock ∧
    ∃ visit ∈ log, BrokeOut settings symbol session direction visit

structure Consistent (settings : OrbSettings) (clock : Int) (log : List Visit) (states : States) :
    Prop where
  current : ∀ symbol session, states.get? symbol = some session →
    Current settings clock log symbol session
  limit : ∀ symbol date,
    ((signalsFor log symbol date).length : Int) ≤ settings.maxSignalsPerSession
  late : ∀ symbol date, signalsFor log symbol date ≠ [] → orbEndOf settings date ≤ clock
  lost : ∀ symbol date, openingBars log symbol date ≠ [] →
    (∃ session, states.get? symbol = some session ∧ session.sessionDate = date) ∨
      orbEndOf settings date ≤ clock ∨ date < currentDate settings clock

/-! ## Time -/

variable {settings : OrbSettings} {clock now : Int} {log : List Visit} {symbol : String}
  {session : OrbSession} {states : States}

theorem Current.later (passed : clock ≤ now) (current : Current settings clock log symbol session) :
    Current settings now log symbol session := by
  have date := current.date.trans (currentDate_mono settings passed)
  refine ⟨date, current.start, current.stop, ?_, ?_⟩
  · exact current.followed.imp_right fun late => ⟨late.1, late.2.trans passed⟩
  · intro direction broke
    obtain ⟨after, visit⟩ := current.broken direction broke
    exact ⟨after.trans passed, visit⟩

theorem Consistent.later (passed : clock ≤ now)
    (consistent : Consistent settings clock log states) :
    Consistent settings now log states := by
  refine ⟨fun symbol session held => (consistent.current symbol session held).later passed,
    consistent.limit, fun symbol date given => (consistent.late symbol date given).trans passed,
    fun symbol date seen => ?_⟩
  rcases consistent.lost symbol date seen with held | closed | before
  · exact .inl held
  · exact .inr (.inl (closed.trans passed))
  · exact .inr (.inr (before.trans_le (currentDate_mono settings passed)))

/-! ## What a bar does -/

/-- The opening range is known, and has enough bars. -/
structure Complete (settings : OrbSettings) (session : OrbSession) (high low : Extended) :
    Prop where
  high : session.orbHigh = some high
  low : session.orbLow = some low
  bars : settings.minOrbBars ≤ session.orbBars

/-- What can become of a session whose volume has been added. -/
inductive Effect (settings : OrbSettings) (symbol : String) (now : Int) (bar : OrbBar)
    (session : OrbSession) : Observed → Prop
  | widened (opening : now < session.orbEnd) :
      Effect settings symbol now bar session { session := session.widen bar }
  | kept (closed : session.orbEnd ≤ now) : Effect settings symbol now bar session { session }
  | reset (closed : session.orbEnd ≤ now) :
      Effect settings symbol now bar session { session := session.resetBreakout }
  | marked (closed : session.orbEnd ≤ now) (direction : Direction) (high low : Extended)
      (complete : Complete settings session high low)
      (breaks : settings.Breaks high low direction bar)
      (unbroken : session.breakoutDirection = none) :
      Effect settings symbol now bar session
        (session.markBreakout settings now direction high low bar)
  | signalled (closed : session.orbEnd ≤ now) (direction : Direction)
      (high low vwap level price : Extended) (complete : Complete settings session high low)
      (broke : session.breakoutDirection = some direction)
      (inTime : session.retestDeadline.any (fun deadline => decide (deadline < now)) = false)
      (broken : session.breakoutLevel = some level) (marked : session.breakoutPrice = some price)
      (retested : direction.retested level price vwap (settings.retestTolerance bar) bar = true) :
      Effect settings symbol now bar session
        { session := { session with signalsEmitted := session.signalsEmitted + 1 }.resetBreakout
          signal := some (signalOf settings symbol direction high low vwap level bar) }

theorem breakoutOf_breaks {high low vwap : Extended} {bar : OrbBar} {direction : Direction}
    (found : settings.breakoutOf high low vwap bar = some direction) :
    settings.Breaks high low direction bar := by
  unfold OrbSettings.breakoutOf at found
  split at found
  · rename_i above
    obtain rfl := Option.some.inj found
    exact above.2.1
  · split at found
    · rename_i below
      obtain rfl := Option.some.inj found
      exact below.2.1
    · exact absurd found (by simp)

theorem observe_effect (session : OrbSession) (settings : OrbSettings) (symbol : String)
    (now : Int) (bar : OrbBar) :
    Effect settings symbol now bar (session.addVolume bar)
      (session.observe settings symbol now bar) := by
  unfold OrbSession.observe
  generalize session.addVolume bar = session
  dsimp only
  split
  · rename_i opening
    exact .widened opening
  rename_i closed
  have closed := not_lt.mp closed
  split
  · rename_i high low highest lowest
    split
    · exact .kept closed
    rename_i enough
    have complete : Complete settings session high low := ⟨highest, lowest, not_lt.mp enough⟩
    split
    · exact .kept closed
    unfold OrbSession.trade
    split
    · rename_i unbroken
      split
      · exact .kept closed
      split
      · exact .kept closed
      · rename_i direction found
        exact .marked closed direction high low complete (breakoutOf_breaks found) unbroken
    · rename_i direction broke
      split
      · exact .reset closed
      rename_i inTime
      split
      · exact .kept closed
      rename_i vwap _
      unfold OrbSession.retest
      split
      · rename_i level price broken marked
        split
        · exact .reset closed
        split
        · rename_i retested
          exact .signalled closed direction high low vwap level price complete broke
            (by simpa using inTime) broken marked retested
        · exact .kept closed
      · exact .reset closed
  · exact .kept closed

/-! ## The state after a bar -/

section Effects

variable {bar : OrbBar} {signal : Option OrbVwapRetestSignal} {observed : Observed}

theorem openingBars_visit_of_closed (closed : session.orbEnd ≤ now) :
    openingBars (log ++ [visitOf now symbol session bar signal]) symbol session.sessionDate =
      openingBars log symbol session.sessionDate := by
  rw [openingBars_append, if_neg, List.append_nil]
  exact fun opening => absurd closed (not_le.mpr opening.2)

theorem Follows.visit (closed : session.orbEnd ≤ now) (follows : Follows log symbol session) :
    Follows (log ++ [visitOf now symbol session bar signal]) symbol
      { session with signalsEmitted := session.signalsEmitted + signal.toList.length } := by
  have bars := @openingBars_visit_of_closed now log symbol session bar signal closed
  refine ⟨?_, ?_, ?_, ?_⟩
  · exact bars ▸ follows.bars
  · exact bars ▸ follows.high
  · exact bars ▸ follows.low
  · rw [signalsFor_append, if_pos ⟨rfl, rfl⟩, List.length_append, ← follows.emitted]
    rfl

theorem Follows.widen (opening : now < session.orbEnd) (follows : Follows log symbol session) :
    Follows (log ++ [visitOf now symbol session bar none]) symbol (session.widen bar) := by
  have bars : openingBars (log ++ [visitOf now symbol session bar none]) symbol
      session.sessionDate = openingBars log symbol session.sessionDate ++ [bar] := by
    rw [openingBars_append, if_pos ⟨⟨rfl, rfl⟩, opening⟩]
    rfl
  refine ⟨?_, ?_, ?_, ?_⟩
  · exact (congrArg (· + 1) follows.bars).trans (by simp [OrbSession.widen, bars])
  · have highest := @Extreme.Kept.concat _ _ (· < ·) _ bar.high _ _ follows.high
    rw [OrbSession.widen, bars, List.map_append]
    exact highest
  · have lowest := @Extreme.Kept.concat _ _ (· > ·) _ bar.low _ _ follows.low
    rw [OrbSession.widen, bars, List.map_append]
    exact lowest
  · rw [OrbSession.widen, signalsFor_append]
    simpa [visitOf] using follows.emitted

theorem Complete.follows {high low : Extended} (complete : Complete settings session high low)
    (followed : Follows log symbol session ∨ Late clock session) : Follows log symbol session := by
  rcases followed with follows | late
  · exact follows
  · have enough := complete.bars
    have least : 1 ≤ settings.minOrbBars := le_max_left ..
    have none_seen := late.1
    omega

theorem markBreakout_session {high low : Extended} {direction : Direction} :
    ∃ deadline, (session.markBreakout settings now direction high low bar).session =
        { session with
          breakoutDirection := some direction
          breakoutLevel := some (direction.level high low)
          breakoutPrice := some bar.close
          breakoutAt := some now
          retestDeadline := deadline } ∧
      (session.markBreakout settings now direction high low bar).signal = none ∧
      ∀ later ≤ lastTime, deadline.any (fun deadline => decide (deadline < later)) = false →
        later ≤ now + settings.retestWindow := by
  unfold OrbSession.markBreakout
  dsimp only
  split
  · exact ⟨some (now + settings.retestWindow), rfl, rfl, fun later _ inTime => by
      simpa using inTime⟩
  · rename_i beyond
    exact ⟨session.retestDeadline, rfl, rfl, fun later tellable _ => by omega⟩

theorem Effect.current (effect : Effect settings symbol now bar session observed)
    (current : Current settings now log symbol session) :
    Current settings now (log ++ [visitOf now symbol session bar observed.signal]) symbol
      observed.session := by
  have moved : ∀ direction, session.breakoutDirection = some direction →
      session.orbEnd ≤ now ∧ ∃ visit ∈ log ++ [visitOf now symbol session bar observed.signal],
        BrokeOut settings symbol session direction visit := by
    intro direction broke
    obtain ⟨closed, visit, member, broken⟩ := current.broken direction broke
    exact ⟨closed, visit, List.mem_append_left _ member, broken⟩
  cases effect with
  | widened opening =>
    refine ⟨current.date, current.start, current.stop, ?_, ?_⟩
    · rcases current.followed with follows | late
      · exact .inl (follows.widen opening)
      · exact absurd late.2 (not_le.mpr opening)
    · intro direction broke
      exact absurd (moved direction broke).1 (not_le.mpr opening)
  | kept closed =>
    exact ⟨current.date, current.start, current.stop,
      current.followed.imp_left (Follows.visit closed), moved⟩
  | reset closed =>
    refine ⟨current.date, current.start, current.stop, ?_, fun _ broke => nomatch broke⟩
    rcases current.followed with follows | late
    · have seen := @Follows.visit now log symbol session bar none closed follows
      exact .inl ⟨seen.bars, seen.high, seen.low, seen.emitted⟩
    · exact .inr late
  | marked closed direction high low complete breaks unbroken =>
    obtain ⟨deadline, marked, none_given, inTime⟩ :=
      @markBreakout_session settings now session bar high low direction
    rw [marked, none_given]
    refine ⟨current.date, current.start, current.stop, ?_, ?_⟩
    · have seen := @Follows.visit now log symbol session bar none closed
        (complete.follows current.followed)
      exact .inl ⟨seen.bars, seen.high, seen.low, seen.emitted⟩
    · intro other broke
      obtain rfl := Option.some.inj broke
      exact ⟨closed, _, List.mem_append_right _ (List.mem_singleton_self _), rfl, rfl,
        ⟨high, low, complete.high, complete.low, breaks, rfl⟩, rfl, inTime⟩
  | signalled closed direction high low vwap level price complete broke inTime broken marked
      retested =>
      refine ⟨current.date, current.start, current.stop, ?_, fun _ broke => nomatch broke⟩
      have seen := @Follows.visit now log symbol session bar
        (some (signalOf settings symbol direction high low vwap level bar)) closed
        (complete.follows current.followed)
      exact .inl ⟨seen.bars, seen.high, seen.low, seen.emitted⟩

/-- What has to have been seen in the session before a signal of it.  The range
is rounded to six digits where it is reported. -/
structure Justified (settings : OrbSettings) (log : List Visit) (visit : Visit)
    (signal : OrbVwapRetestSignal) : Prop where
  symbol : signal.symbol = visit.symbol
  closed : visit.orbEnd ≤ visit.now
  distance : 0 ≤ signal.breakoutDistance
  range : ∃ high low,
    (Extreme (· < ·) ((openingBars log visit.symbol visit.sessionDate).map OrbBar.high) high ∧
      signal.orbHigh = high.round 6) ∧
    (Extreme (· > ·) ((openingBars log visit.symbol visit.sessionDate).map OrbBar.low) low ∧
      signal.orbLow = low.round 6) ∧
    ∃ breakout ∈ log, breakout.symbol = visit.symbol ∧ breakout.sessionDate = visit.sessionDate ∧
      visit.now ≤ breakout.now + settings.retestWindow ∧
      settings.Breaks high low signal.direction breakout.bar

theorem nonneg_breakoutBuffer (settings : OrbSettings) (bar : OrbBar) :
    0 ≤ settings.breakoutBuffer bar :=
  Extended.nonneg_greater (Extended.nonneg_greater settings.minBreakoutAbs.property _) _

/-- The close of a retest is beyond the level that the earlier bar broke. -/
theorem nonneg_distance {high low vwap tolerance : Extended} {direction : Direction}
    {earlier : OrbBar} (breaks : settings.Breaks high low direction earlier)
    (retested : direction.retested (direction.level high low) earlier.close vwap tolerance bar =
      true) : 0 ≤ direction.distance (direction.level high low) bar.close := by
  have priced := bar.priced.2.2
  cases direction with
  | long =>
    obtain ⟨-, ⟨-, held⟩, -⟩ := of_decide_eq_true retested
    refine Extended.nonneg_sub held ?_ ?_
    · exact Extended.not_infinite_of_add_lt (nonneg_breakoutBuffer settings earlier) breaks
    · intro bottom
      exact priced (bottom ▸ rfl)
  | short =>
    obtain ⟨-, ⟨-, held⟩, continued, -⟩ := of_decide_eq_true retested
    refine Extended.nonneg_sub held ?_ ?_
    · intro top
      rw [top] at continued
      exact Extended.not_infinite_of_lt breaks (Extended.eq_infinite_of_le continued)
    · intro bottom
      rw [bottom] at held
      exact priced (Extended.eq_infinite_of_ge held ▸ rfl)

theorem Effect.justified {given : OrbVwapRetestSignal} (tellable : now ≤ lastTime)
    (effect : Effect settings symbol now bar session observed)
    (current : Current settings now log symbol session) (signal : observed.signal = some given) :
    Justified settings log (visitOf now symbol session bar observed.signal) given := by
  cases effect with
  | widened opening => exact absurd signal (by simp)
  | kept closed => exact absurd signal (by simp)
  | reset closed => exact absurd signal (by simp)
  | marked closed direction high low complete breaks unbroken =>
    obtain ⟨_, -, none_given, -⟩ :=
      @markBreakout_session settings now session bar high low direction
    rw [none_given] at signal
    exact absurd signal (by simp)
  | signalled closed direction high low vwap level price complete broke inTime broken marked
      retested =>
      obtain rfl := Option.some.inj signal
      have follows := complete.follows current.followed
      have highest := follows.high
      have lowest := follows.low
      rw [complete.high] at highest
      rw [complete.low] at lowest
      obtain ⟨-, visit, member, earlier⟩ := current.broken direction broke
      obtain ⟨high', low', sameHigh, sameLow, breaks, sameLevel⟩ := earlier.range
      obtain rfl : high = high' := Option.some.inj (complete.high.symm.trans sameHigh)
      obtain rfl : low = low' := Option.some.inj (complete.low.symm.trans sameLow)
      obtain rfl : level = direction.level high low := Option.some.inj (broken.symm.trans sameLevel)
      obtain rfl : price = visit.bar.close := Option.some.inj (marked.symm.trans earlier.price)
      refine ⟨rfl, closed, ?_, high, low, ⟨highest, rfl⟩, ⟨lowest, rfl⟩, ?_⟩
      · exact Extended.nonneg_round (nonneg_distance breaks retested) 6
      · exact ⟨visit, member, earlier.symbol, earlier.date,
          earlier.deadline now tellable inTime, breaks⟩

theorem addVolume_fields (session : OrbSession) (bar : OrbBar) :
    ∃ pv volume, session.addVolume bar = { session with vwapPv := pv, vwapVolume := volume } := by
  unfold OrbSession.addVolume
  split
  · exact ⟨_, _, rfl⟩
  · exact ⟨session.vwapPv, session.vwapVolume, rfl⟩

theorem Follows.addVolume (follows : Follows log symbol session) (bar : OrbBar) :
    Follows log symbol (session.addVolume bar) := by
  obtain ⟨pv, volume, added⟩ := addVolume_fields session bar
  rw [added]
  exact ⟨follows.bars, follows.high, follows.low, follows.emitted⟩

theorem Current.addVolume (current : Current settings clock log symbol session) (bar : OrbBar) :
    Current settings clock log symbol (session.addVolume bar) := by
  have followed := current.followed.imp_left (fun follows => follows.addVolume bar)
  obtain ⟨pv, volume, added⟩ := addVolume_fields session bar
  rw [added] at followed ⊢
  refine ⟨current.date, current.start, current.stop, followed, fun direction broke => ?_⟩
  obtain ⟨closed, visit, member, broken⟩ := current.broken direction broke
  exact ⟨closed, visit, member, broken.symbol, broken.date, broken.range, broken.price,
    broken.deadline⟩

theorem Current.other {visit : Visit} (different : visit.symbol ≠ symbol)
    (current : Current settings clock log symbol session) :
    Current settings clock (log ++ [visit]) symbol session := by
  have bars : openingBars (log ++ [visit]) symbol session.sessionDate =
      openingBars log symbol session.sessionDate := by
    rw [openingBars_append, if_neg (fun here => different here.1.1), List.append_nil]
  have signals : signalsFor (log ++ [visit]) symbol session.sessionDate =
      signalsFor log symbol session.sessionDate := by
    rw [signalsFor_append, if_neg (fun here => different here.1), List.append_nil]
  refine ⟨current.date, current.start, current.stop, ?_, fun direction broke => ?_⟩
  · refine current.followed.imp_left fun follows => ⟨?_, ?_, ?_, ?_⟩
    · exact bars ▸ follows.bars
    · exact bars ▸ follows.high
    · exact bars ▸ follows.low
    · exact signals ▸ follows.emitted
  · obtain ⟨closed, earlier, member, broken⟩ := current.broken direction broke
    exact ⟨closed, earlier, List.mem_append_left _ member, broken⟩

theorem Effect.sessionDate (effect : Effect settings symbol now bar session observed) :
    observed.session.sessionDate = session.sessionDate := by
  cases effect with
  | marked closed direction high low complete breaks unbroken =>
    obtain ⟨_, marked, -, -⟩ :=
      @markBreakout_session settings now session bar high low direction
    rw [marked]
  | _ => rfl

theorem Effect.follows {given : OrbVwapRetestSignal}
    (effect : Effect settings symbol now bar session observed)
    (current : Current settings now log symbol session) (signal : observed.signal = some given) :
    Follows log symbol session ∧ session.orbEnd ≤ now := by
  cases effect with
  | signalled closed direction high low vwap level price complete _ _ _ _ _ =>
    exact ⟨complete.follows current.followed, closed⟩
  | marked closed direction high low complete _ _ =>
    exact ⟨complete.follows current.followed, closed⟩
  | widened opening => exact absurd signal (by simp)
  | kept closed => exact absurd signal (by simp)
  | reset closed => exact absurd signal (by simp)

/-! ## What an observation does -/

@[simp] theorem addVolume_sessionDate (session : OrbSession) (bar : OrbBar) :
    (session.addVolume bar).sessionDate = session.sessionDate := by
  obtain ⟨pv, volume, added⟩ := addVolume_fields session bar
  rw [added]

@[simp] theorem visitOf_addVolume (now : Int) (symbol : String) (session : OrbSession)
    (bar : OrbBar) (signal : Option OrbVwapRetestSignal) :
    visitOf now symbol (session.addVolume bar) bar signal =
      visitOf now symbol session bar signal := by
  obtain ⟨pv, volume, added⟩ := addVolume_fields session bar
  rw [added]
  rfl

@[simp] theorem observe_sessionDate (session : OrbSession) (settings : OrbSettings)
    (symbol : String) (now : Int) (bar : OrbBar) :
    (session.observe settings symbol now bar).session.sessionDate = session.sessionDate :=
  (observe_effect session settings symbol now bar).sessionDate.trans
    (addVolume_sessionDate session bar)

theorem observe_current (current : Current settings now log symbol session) (bar : OrbBar) :
    let observed := session.observe settings symbol now bar
    Current settings now (log ++ [visitOf now symbol session bar observed.signal]) symbol
      observed.session := by
  have moved := (observe_effect session settings symbol now bar).current (current.addVolume bar)
  rwa [visitOf_addVolume] at moved

theorem observe_follows {given : OrbVwapRetestSignal}
    (current : Current settings now log symbol session)
    (signal : (session.observe settings symbol now bar).signal = some given) :
    session.signalsEmitted = (signalsFor log symbol session.sessionDate).length ∧
      session.orbEnd ≤ now := by
  obtain ⟨follows, closed⟩ := (observe_effect session settings symbol now bar).follows
    (current.addVolume bar) signal
  have emitted := follows.emitted
  obtain ⟨pv, volume, added⟩ := addVolume_fields session bar
  rw [added] at emitted closed
  exact ⟨emitted, closed⟩

theorem observe_justified {given : OrbVwapRetestSignal} (tellable : now ≤ lastTime)
    (current : Current settings now log symbol session)
    (signal : (session.observe settings symbol now bar).signal = some given) :
    Justified settings log
      (visitOf now symbol session bar (session.observe settings symbol now bar).signal) given := by
  have justified := (observe_effect session settings symbol now bar).justified tellable
    (current.addVolume bar) signal
  rwa [visitOf_addVolume] at justified

end Effects

end FxToushi.Strategies.UsOrb
