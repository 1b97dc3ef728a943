import FxToushi.Strategies.OrbSessions

namespace FxToushi.Strategies.UsOrb

open Calendar Data Py

/-! # The states of a call

A call takes in a state for each of its symbols.  While the symbols of the
session fit under the limit no state of the session is given up, and every
state agrees with the visits after every symbol.
-/

variable {settings : OrbSettings} {now : Int} {log : List Visit} {symbol : String}
  {session : OrbSession} {states : States}

/-! ## Taking in a state -/

theorem get?_takeIn {fresh held : OrbSession} {other : String}
    (found : (takeIn states symbol fresh).get? other = some held) :
    (states.set symbol fresh).get? other = some held := by
  unfold takeIn at found
  dsimp only at found
  split at found
  · exact Dict.get?_retain_le found
  · exact found

/-- The symbols with a state of the current session. -/
def Covered (settings : OrbSettings) (now : Int) (symbols : List String) (states : States) : Prop :=
  ∀ symbol session, states.get? symbol = some session →
    session.sessionDate = currentDate settings now → symbol ∈ symbols

/-- As long as the symbols of the session fit, none of their states is given up. -/
theorem takeIn_keeps {tracked : List String} {held : OrbSession} {other : String}
    (consistent : Consistent settings now log states)
    (covered : Covered settings now tracked states)
    (member : symbol ∈ tracked) (room : tracked.length ≤ 64)
    (found : (states.set symbol (freshSession settings (currentDate settings now))).get? other =
      some held)
    (date : held.sessionDate = currentDate settings now)
    (start : held.sessionStart = startOf settings held.sessionDate) :
    (takeIn states symbol (freshSession settings (currentDate settings now))).get? other =
      some held := by
  let grown := states.set symbol (freshSession settings (currentDate settings now))
  let newer := grown.since OrbSession.sessionStart held.sessionStart
  have current : ∀ entry ∈ newer, entry.1 ∈ tracked := by
    rintro ⟨key, session⟩ entered
    obtain ⟨kept, least⟩ := List.mem_filter.mp entered
    have present := (Dict.get?_eq_some_iff grown).mpr kept
    rw [Dict.get?_set] at present
    split at present
    · rename_i same
      exact same ▸ member
    · have now_current := consistent.current key session present
      have least : held.sessionStart ≤ session.sessionStart := of_decide_eq_true least
      rw [start, now_current.start, startOf_le_iff, date] at least
      exact covered key session present (le_antisymm now_current.date least)
  have distinct : (newer.map Prod.fst).Nodup :=
    grown.distinct.sublist (List.filter_sublist.map Prod.fst)
  have fits : newer.length ≤ 64 := by
    have within : newer.map Prod.fst ⊆ tracked := by
      intro key keyed
      obtain ⟨entry, entered, rfl⟩ := List.mem_map.mp keyed
      exact current entry entered
    have counted := (distinct.subperm within).length_le
    rw [List.length_map] at counted
    exact counted.trans room
  unfold takeIn
  dsimp only
  split
  · exact Dict.get?_retain_of_fits found fits
  · exact found

theorem freshSession_current (consistent : Consistent settings now log states)
    (renewed : ∀ held, states.get? symbol = some held →
      held.sessionDate ≠ currentDate settings now) :
    Current settings now log symbol (freshSession settings (currentDate settings now)) := by
  refine ⟨le_refl _, rfl, rfl, ?_, fun _ broke => nomatch broke⟩
  by_cases closed : orbEndOf settings (currentDate settings now) ≤ now
  · exact .inr ⟨rfl, closed⟩
  · have unseen : openingBars log symbol (currentDate settings now) = [] := by
      by_contra seen
      rcases consistent.lost symbol _ seen with ⟨held, found, date⟩ | ended | before
      · exact renewed held found date
      · exact closed ended
      · exact lt_irrefl _ before
    have silent : signalsFor log symbol (currentDate settings now) = [] := by
      by_contra given
      exact closed (consistent.late symbol _ given)
    refine .inl ⟨?_, ?_, ?_, ?_⟩
    · simp [freshSession, unseen]
    · simp [freshSession, unseen, Extreme.Kept]
    · simp [freshSession, unseen, Extreme.Kept]
    · simp [freshSession, silent]

/-! ## A symbol -/

theorem resolveState_some {ts : DateTime} {after : States}
    (resolved : resolveState settings symbol ts states = .ok (some (session, after))) :
    session.sessionDate = currentDate settings ts.time ∧
      startOf settings (currentDate settings ts.time) ≤ ts.time ∧
      ((states.get? symbol = some session ∧ after = states) ∨
        (∀ held, states.get? symbol = some held →
          held.sessionDate ≠ currentDate settings ts.time) ∧
        session = freshSession settings (currentDate settings ts.time) ∧
        after = takeIn states symbol session) := by
  obtain ⟨date, dated, resolved⟩ := bind_ok resolved
  obtain rfl := sessionDate_eq dated
  dsimp only at resolved
  split at resolved
  · cases resolved
  rename_i started
  have started := not_lt.mp started
  split at resolved
  · cases resolved
  split at resolved
  · rename_i absent
    cases resolved
    exact ⟨rfl, started, .inr ⟨fun held found => absurd found (by simp [absent]), rfl, rfl⟩⟩
  · rename_i held found
    split at resolved
    · rename_i other
      cases resolved
      refine ⟨rfl, started, .inr ⟨fun again same => ?_, rfl, rfl⟩⟩
      rw [found] at same
      exact Option.some.inj same ▸ other
    · rename_i same
      cases resolved
      exact ⟨not_ne_iff.mp same, started, .inl ⟨found, rfl⟩⟩

/-- The symbols of the current session, as long as its opening range is open. -/
structure Roomy (settings : OrbSettings) (now : Int) (tracked : List String) (states : States) :
    Prop where
  covered : Covered settings now tracked states
  room : startOf settings (currentDate settings now) ≤ now →
    now < orbEndOf settings (currentDate settings now) → tracked.length ≤ 64

structure Resolved (settings : OrbSettings) (now : Int) (log : List Visit) (symbol : String)
    (session : OrbSession) (after : States) : Prop where
  date : session.sessionDate = currentDate settings now
  current : Current settings now log symbol session
  own : ∀ held, after.get? symbol = some held → held = session
  kept : now < session.orbEnd → after.get? symbol = some session

variable {tracked : List String} {ts : DateTime} {after : States}

theorem resolveState_resolved (consistent : Consistent settings ts.time log states)
    (roomy : Roomy settings ts.time tracked states) (member : symbol ∈ tracked)
    (resolved : resolveState settings symbol ts states = .ok (some (session, after))) :
    Resolved settings ts.time log symbol session after ∧
      Consistent settings ts.time log after ∧ Roomy settings ts.time tracked after := by
  obtain ⟨date, started, held | ⟨renewed, rfl, rfl⟩⟩ := resolveState_some resolved
  · obtain ⟨found, rfl⟩ := held
    have own : ∀ held, after.get? symbol = some held → held = session := fun held again =>
      Option.some.inj (again.symm.trans found)
    exact ⟨⟨date, consistent.current symbol session found, own, fun _ => found⟩, consistent, roomy⟩
  · have fresh := freshSession_current consistent renewed
    have states_of : ∀ other held, (takeIn states symbol (freshSession settings
        (currentDate settings ts.time))).get? other = some held →
          (symbol = other ∧ held = freshSession settings (currentDate settings ts.time)) ∨
            symbol ≠ other ∧ states.get? other = some held := by
      intro other held found
      have set := get?_takeIn found
      rw [Dict.get?_set] at set
      split at set
      · rename_i same
        exact .inl ⟨same, (Option.some.inj set).symm⟩
      · rename_i different
        exact .inr ⟨different, set⟩
    have keeps := fun opening => @takeIn_keeps settings ts.time log symbol states tracked
      (freshSession settings (currentDate settings ts.time)) symbol consistent roomy.covered member
      (roomy.room started opening) (by rw [Dict.get?_set, if_pos rfl]) rfl rfl
    refine ⟨⟨rfl, fresh, fun held found => ?_, keeps⟩, ⟨fun other held found => ?_,
      consistent.limit, consistent.late, fun other date seen => ?_⟩, ⟨?_, roomy.room⟩⟩
    · rcases states_of symbol held found with ⟨-, own⟩ | ⟨different, -⟩
      · exact own
      · exact absurd rfl different
    · rcases states_of other held found with ⟨rfl, rfl⟩ | ⟨-, before⟩
      · exact fresh
      · exact consistent.current other held before
    · rcases consistent.lost other date seen with ⟨held, found, rfl⟩ | closed | before
      · have current := consistent.current other held found
        rcases current.date.lt_or_eq with earlier | today
        · exact .inr (.inr earlier)
        · by_cases closed : orbEndOf settings held.sessionDate ≤ ts.time
          · exact .inr (.inl closed)
          · have opening := not_le.mp closed
            rw [today] at opening
            by_cases same : symbol = other
            · subst same
              exact absurd today (renewed held found)
            · refine .inl ⟨held, ?_, rfl⟩
              exact takeIn_keeps consistent roomy.covered member (roomy.room started opening)
                (by rw [Dict.get?_set, if_neg same, found]) today current.start
      · exact .inr (.inl closed)
      · exact .inr (.inr before)
    · intro other held found today
      rcases states_of other held found with ⟨rfl, -⟩ | ⟨-, before⟩
      · exact member
      · exact roomy.covered other held before today

/-! ## After a bar -/

theorem get?_store {changed held : OrbSession} {other : String}
    (found : (store after symbol changed).get? other = some held) :
    (symbol = other ∧ held = changed) ∨ symbol ≠ other ∧ after.get? other = some held := by
  unfold store at found
  by_cases same : symbol = other
  · subst same
    split at found
    · rw [Dict.get?_set, if_pos rfl] at found
      exact .inl ⟨rfl, (Option.some.inj found).symm⟩
    · rename_i absent
      rw [found] at absent
      exact absurd rfl absent
  · split at found
    · rw [Dict.get?_set, if_neg same] at found
      exact .inr ⟨same, found⟩
    · exact .inr ⟨same, found⟩

theorem get?_store_self {changed held : OrbSession} (found : after.get? symbol = some held) :
    (store after symbol changed).get? symbol = some changed := by
  have kept : (after.get? symbol).isSome = true := by rw [found]; rfl
  rw [store, if_pos kept, Dict.get?_set, if_pos rfl]

theorem get?_store_of_ne {changed : OrbSession} {other : String} (different : symbol ≠ other) :
    (store after symbol changed).get? other = after.get? other := by
  unfold store
  split
  · rw [Dict.get?_set, if_neg different]
  · rfl

section Observation

variable {bar : OrbBar} (consistent : Consistent settings now log after)
  (resolved : Resolved settings now log symbol session after)

include consistent resolved

theorem observe_limit
    (allowed : (session.signalsEmitted : Int) < settings.maxSignalsPerSession) (other : String)
    (day : Int) :
    let observed := session.observe settings symbol now bar
    ((signalsFor (log ++ [visitOf now symbol session bar observed.signal]) other day).length :
      Int) ≤ settings.maxSignalsPerSession := by
  intro observed
  rw [signalsFor_append]
  split
  · rename_i here
    obtain ⟨rfl, rfl⟩ := here
    cases given : observed.signal with
    | none => simpa [visitOf] using consistent.limit symbol session.sessionDate
    | some signal =>
      have counted := (observe_follows resolved.current given).1
      simp only [visitOf, Option.toList_some, List.length_append, List.length_singleton]
      omega
  · simpa using consistent.limit other day

theorem observe_late {other : String} {day : Int}
    (given : signalsFor (log ++ [visitOf now symbol session bar
      (session.observe settings symbol now bar).signal]) other day ≠ []) :
    orbEndOf settings day ≤ now := by
  rw [signalsFor_append] at given
  split at given
  · rename_i here
    obtain ⟨rfl, rfl⟩ := here
    cases new : (session.observe settings symbol now bar).signal with
    | none =>
      refine consistent.late symbol session.sessionDate ?_
      simpa [visitOf, new] using given
    | some signal => exact resolved.current.stop ▸ (observe_follows resolved.current new).2
  · exact consistent.late other day (by simpa using given)

theorem observe_lost {signal : Option OrbVwapRetestSignal} {other : String} {day : Int}
    (seen : openingBars (log ++ [visitOf now symbol session bar signal]) other day ≠ []) :
    let observed := session.observe settings symbol now bar
    (∃ held, (store after symbol observed.session).get? other = some held ∧
        held.sessionDate = day) ∨
      orbEndOf settings day ≤ now ∨ day < currentDate settings now := by
  intro observed
  have date : observed.session.sessionDate = session.sessionDate := observe_sessionDate ..
  by_cases before : openingBars log other day = []
  · rw [openingBars_append, before, List.nil_append] at seen
    obtain ⟨⟨rfl, rfl⟩, opening⟩ := not_not.mp (fun never => seen (if_neg never))
    exact .inl ⟨observed.session, get?_store_self (resolved.kept opening), date⟩
  · rcases consistent.lost other day before with ⟨held, found, rfl⟩ | closed | earlier
    · by_cases same : symbol = other
      · subst same
        obtain rfl := resolved.own held found
        exact .inl ⟨observed.session, get?_store_self found, date⟩
      · exact .inl ⟨held, (get?_store_of_ne same).trans found, rfl⟩
    · exact .inr (.inl closed)
    · exact .inr (.inr earlier)

theorem Consistent.observe
    (allowed : (session.signalsEmitted : Int) < settings.maxSignalsPerSession) (bar : OrbBar) :
    let observed := session.observe settings symbol now bar
    Consistent settings now (log ++ [visitOf now symbol session bar observed.signal])
      (store after symbol observed.session) := by
  refine ⟨fun other held found => ?_, observe_limit consistent resolved allowed,
    fun _ _ given => observe_late consistent resolved given,
    fun _ _ seen => observe_lost consistent resolved seen⟩
  rcases get?_store found with ⟨rfl, rfl⟩ | ⟨different, before⟩
  · exact observe_current resolved.current bar
  · exact (consistent.current other held before).other different

end Observation

/-- What a symbol adds to the visits. -/
structure Visited (settings : OrbSettings) (now : Int) (log : List Visit) (tracked : List String)
    (symbol : String) (visited : Scan) : Prop where
  consistent : Consistent settings now (log ++ visited.visits) visited.states
  roomy : Roomy settings now tracked visited.states
  own : ∀ visit ∈ visited.visits, visit.symbol = symbol
  justified : ∀ visit ∈ visited.visits, ∀ signal, visit.signal = some signal →
    Justified settings log visit signal

theorem visitSymbol_visited {context : OrbContext}
    (consistent : Consistent settings ts.time log states)
    (roomy : Roomy settings ts.time tracked states) (member : symbol ∈ tracked) :
    Visited settings ts.time log tracked symbol
      (visitSymbol settings context ts states symbol) := by
  have unvisited : ∀ (states : States) (failure : Option PyError),
      Consistent settings ts.time log states → Roomy settings ts.time tracked states →
        Visited settings ts.time log tracked symbol { states, failure } := by
    intro states failure consistent roomy
    refine ⟨?_, roomy, fun _ none_made => absurd none_made List.not_mem_nil,
      fun _ none_made => absurd none_made List.not_mem_nil⟩
    rw [List.append_nil]
    exact consistent
  unfold visitSymbol
  split
  · rename_i error _
    exact unvisited states (some error) consistent roomy
  · exact unvisited states none consistent roomy
  rename_i session after found
  obtain ⟨resolved, consistent, roomy⟩ := resolveState_resolved consistent roomy member found
  split
  · exact unvisited after none consistent roomy
  rename_i allowed
  split
  · exact unvisited after none consistent roomy
  rename_i bar _
  refine ⟨consistent.observe resolved (not_le.mp allowed) bar, ⟨?_, roomy.room⟩, ?_, ?_⟩
  · intro other held kept today
    rcases get?_store kept with ⟨rfl, -⟩ | ⟨-, before⟩
    · exact member
    · exact roomy.covered other held before today
  · intro visit made
    exact List.mem_singleton.mp made ▸ rfl
  · intro visit made signal given
    rw [List.mem_singleton.mp made] at given ⊢
    exact observe_justified ts.inRange.2 resolved.current given

/-! ## The symbols of a call -/

theorem openingBars_skip {extra : List Visit} {date : Int}
    (others : ∀ visit ∈ extra, visit.symbol ≠ symbol) :
    openingBars (log ++ extra) symbol date = openingBars log symbol date := by
  have none_own : visitsFor extra symbol date = [] := by
    refine List.filter_eq_nil_iff.mpr fun visit member => ?_
    simp [others visit member]
  rw [openingBars, visitsFor, List.filter_append]
  rw [visitsFor] at none_own
  rw [none_own, List.append_nil]
  rfl

theorem Justified.skip {extra : List Visit} {visit : Visit} {signal : OrbVwapRetestSignal}
    (others : ∀ other ∈ extra, other.symbol ≠ visit.symbol)
    (justified : Justified settings (log ++ extra) visit signal) :
    Justified settings log visit signal := by
  obtain ⟨high, low, highest, lowest, breakout, member, same, broke⟩ := justified.range
  rw [openingBars_skip others] at highest lowest
  refine ⟨justified.symbol, justified.closed, justified.distance, high, low, highest, lowest,
    breakout, ?_, same, broke⟩
  rcases List.mem_append.mp member with earlier | other
  · exact earlier
  · exact absurd same (others breakout other)

structure Scanned (settings : OrbSettings) (now : Int) (log : List Visit) (symbols : List String)
    (scanned : Scan) : Prop where
  consistent : Consistent settings now (log ++ scanned.visits) scanned.states
  own : ∀ visit ∈ scanned.visits, visit.symbol ∈ symbols
  justified : ∀ visit ∈ scanned.visits, ∀ signal, visit.signal = some signal →
    Justified settings log visit signal

theorem scan_scanned {context : OrbContext} {symbols : List String} (distinct : symbols.Nodup)
    (members : ∀ symbol ∈ symbols, symbol ∈ tracked)
    (consistent : Consistent settings ts.time log states)
    (roomy : Roomy settings ts.time tracked states) :
    Scanned settings ts.time log symbols (scan settings context ts states symbols) := by
  induction symbols generalizing log states with
  | nil =>
    refine ⟨?_, fun _ member => absurd member List.not_mem_nil,
      fun _ member => absurd member List.not_mem_nil⟩
    rw [scan, List.append_nil]
    exact consistent
  | cons symbol rest ih =>
    obtain ⟨fresh, distinct⟩ := List.nodup_cons.mp distinct
    obtain ⟨member, members⟩ := List.forall_mem_cons.mp members
    have visited := @visitSymbol_visited settings log symbol states tracked ts context
      consistent roomy member
    unfold scan
    dsimp only
    split
    · refine ⟨visited.consistent, fun visit made => ?_, visited.justified⟩
      exact List.mem_cons.mpr (.inl (visited.own visit made))
    · have later := ih distinct members visited.consistent visited.roomy
      refine ⟨?_, fun visit made => ?_, fun visit made signal given => ?_⟩
      · rw [← List.append_assoc]
        exact later.consistent
      · rcases List.mem_append.mp made with first | next
        · exact List.mem_cons.mpr (.inl (visited.own visit first))
        · exact List.mem_cons_of_mem symbol (later.own visit next)
      · rcases List.mem_append.mp made with first | next
        · exact visited.justified visit first signal given
        · refine (later.justified visit next signal given).skip fun other first => ?_
          rw [visited.own other first]
          exact fun same => fresh (same ▸ later.own visit next)

end FxToushi.Strategies.UsOrb
