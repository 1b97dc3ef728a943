import FxToushi.Data.Runs
import FxToushi.Strategies.OrbStates

namespace FxToushi.Strategies.UsOrb

open Calendar Data Py

/-! # The protocol of the opening range strategy

Over the calls of a run a session gives no more signals than it may, and each
of them follows an opening range, a breakout and a retest, unless so many
symbols share the session that states are given up before `orb_end`.
-/

variable {settings : OrbSettings} {ts : DateTime}

/-! ## Runs -/

def utcNow? (context : OrbContext) : Option Int :=
  context.now.bind fun now => now.toUtc.toOption.map DateTime.time

theorem preflight_some {context : OrbContext}
    (checked : preflight context = .ok (some (settings, ts))) :
    settingsOf context.parameters context.timeframe = .ok settings ∧
      utcNow? context = some ts.time := by
  unfold preflight at checked
  split at checked
  · cases checked
  obtain ⟨entry, entered, checked⟩ := bind_ok checked
  dsimp only at checked
  split at checked
  · cases checked
  split at checked
  · cases checked
  split at checked
  · cases checked
  obtain ⟨read, settled, checked⟩ := bind_ok checked
  split at checked
  · cases checked
  rename_i now given
  split at checked
  · cases checked
  rename_i utc converted
  split at checked
  · cases checked
    refine ⟨?_, ?_⟩
    · rw [settingsOf, entered]
      exact settled
    · simp [utcNow?, given, converted, Except.toOption]
  · cases checked

/-- What a call visited and returned. -/
structure Call where
  visits : List Visit
  result : Except PyError (List OrbVwapRetestSignal)

/-- A strategy with the time of its last call and the calls so far. -/
structure Run where
  strategy : UsOpeningRangeBreakoutVwapRetestStrategy
  clock : Int := 0
  calls : List Call := []

namespace Run

def step (run : Run) (context : OrbContext) : Run :=
  let outcome := run.strategy.generateSignals context
  { strategy := outcome.strategy
    clock := (utcNow? context).getD run.clock
    calls := run.calls ++ [{ visits := outcome.visits, result := outcome.result }] }

/-- The symbols with a state of a session, and those of the call. -/
def inSession (run : Run) (context : OrbContext) (date : Int) : List String :=
  ((run.strategy.stateBySymbol.entries.filter
      (fun entry => decide (entry.2.sessionDate = date))).map Prod.fst ++
    run.strategy.symbols context).dedup

def HasRoomFor (run : Run) (context : OrbContext) :
    Except PyError (Option (OrbSettings × DateTime)) → Prop
  | .ok (some (settings, ts)) =>
    startOf settings (currentDate settings ts.time) ≤ ts.time →
    ts.time < orbEndOf settings (currentDate settings ts.time) →
      (run.inSession context (currentDate settings ts.time)).length ≤ 64
  | _ => True

instance (run : Run) (context : OrbContext) : ∀ checked, Decidable (run.HasRoomFor context checked)
  | .ok (some _) => inferInstanceAs (Decidable (_ → _ → _))
  | .ok none => .isTrue trivial
  | .error _ => .isTrue trivial

/-- A call from the start of a session to its `orb_end` finds at most 64 symbols in it. -/
def HasRoom (run : Run) (context : OrbContext) : Prop := run.HasRoomFor context (preflight context)

instance (run : Run) (context : OrbContext) : Decidable (run.HasRoom context) :=
  inferInstanceAs (Decidable (run.HasRoomFor context (preflight context)))

end Run

def logOf (calls : List Call) : List Visit := calls.flatMap Call.visits

/-- The protocol of the signals under the parameters of a run. -/
structure Protocol (settings : Except PyError OrbSettings) (calls : List Call) : Prop where
  readable : ∀ error, settings = .error error → logOf calls = []
  returned : ∀ call ∈ calls, ∀ signals, call.result = .ok signals →
    signals = call.visits.filterMap Visit.signal
  limit : ∀ read, settings = .ok read → ∀ symbol date,
    ((signalsFor (logOf calls) symbol date).length : Int) ≤ read.maxSignalsPerSession
  justified : ∀ read, settings = .ok read → ∀ before call after,
    calls = before ++ call :: after → ∀ visit ∈ call.visits, ∀ signal,
      visit.signal = some signal → Justified read (logOf before) visit signal

theorem logOf_append (calls : List Call) (call : Call) :
    logOf (calls ++ [call]) = logOf calls ++ call.visits := by
  simp [logOf]

theorem generateSignals_returned {strategy : UsOpeningRangeBreakoutVwapRetestStrategy}
    {context : OrbContext} {signals : List OrbVwapRetestSignal}
    (returned : (strategy.generateSignals context).result = .ok signals) :
    signals = (strategy.generateSignals context).visits.filterMap Visit.signal := by
  unfold UsOpeningRangeBreakoutVwapRetestStrategy.generateSignals at returned ⊢
  split at returned
  · cases returned
  · cases returned
    rfl
  · dsimp only at returned ⊢
    split at returned
    · cases returned
    · exact (Except.ok.inj returned).symm

theorem Protocol.append {settings : Except PyError OrbSettings} {calls : List Call} {call : Call}
    (protocol : Protocol settings calls)
    (readable : ∀ error, settings = .error error → call.visits = [])
    (returned : ∀ signals, call.result = .ok signals →
      signals = call.visits.filterMap Visit.signal)
    (limit : ∀ read, settings = .ok read → ∀ symbol date,
      ((signalsFor (logOf calls ++ call.visits) symbol date).length : Int) ≤
        read.maxSignalsPerSession)
    (justified : ∀ read, settings = .ok read → ∀ visit ∈ call.visits, ∀ signal,
      visit.signal = some signal → Justified read (logOf calls) visit signal) :
    Protocol settings (calls ++ [call]) := by
  refine ⟨fun error unread => ?_, fun other member => ?_, fun read settled symbol date => ?_,
    fun read settled before other after split => ?_⟩
  · rw [logOf_append, protocol.readable error unread, readable error unread, List.append_nil]
  · rcases List.mem_append.mp member with earlier | now
    · exact protocol.returned other earlier
    · rw [List.mem_singleton.mp now]
      exact returned
  · rw [logOf_append]
    exact limit read settled symbol date
  · rcases List.append_eq_append_iff.mp split with ⟨middle, rfl, tail⟩ | ⟨middle, rfl, tail⟩
    · cases middle with
      | nil =>
        obtain ⟨rfl, -⟩ := List.cons.inj tail
        rw [List.append_nil]
        exact justified read settled
      | cons first rest => exact absurd (List.cons.inj tail).2 (by simp)
    · cases middle with
      | nil =>
        obtain ⟨rfl, -⟩ := List.cons.inj tail
        rw [List.append_nil] at justified
        exact justified read settled
      | cons first rest =>
        obtain ⟨rfl, rfl⟩ := List.cons.inj tail
        exact protocol.justified read settled before other rest rfl

theorem nodup_symbols (strategy : UsOpeningRangeBreakoutVwapRetestStrategy)
    (context : OrbContext) : (strategy.symbols context).Nodup := by
  unfold UsOpeningRangeBreakoutVwapRetestStrategy.symbols
  exact (List.perm_insertionSort _ _).nodup_iff.mpr (List.nodup_dedup _)

theorem Run.inSession_roomy {settings : OrbSettings} {run : Run} {context : OrbContext}
    (room : run.HasRoomFor context (.ok (some (settings, ts)))) :
    Roomy settings ts.time (run.inSession context (currentDate settings ts.time))
      run.strategy.stateBySymbol := by
  refine ⟨fun symbol session found today => ?_, room⟩
  have entered := (Dict.get?_eq_some_iff run.strategy.stateBySymbol).mp found
  refine List.mem_dedup.mpr (List.mem_append_left _ (List.mem_map.mpr ⟨(symbol, session), ?_, rfl⟩))
  exact List.mem_filter.mpr ⟨entered, decide_eq_true today⟩

/-- The run follows the protocol, and its states agree with the visits. -/
structure Sound (settings : Except PyError OrbSettings) (run : Run) : Prop where
  protocol : Protocol settings run.calls
  consistent : ∀ read, settings = .ok read →
    Consistent read run.clock (logOf run.calls) run.strategy.stateBySymbol

theorem Sound.idle {settings : Except PyError OrbSettings} {run : Run} {clock : Int}
    {result : Except PyError (List OrbVwapRetestSignal)} (sound : Sound settings run)
    (passed : run.clock ≤ clock) (returned : ∀ signals, result = .ok signals → signals = []) :
    Sound settings { run with clock, calls := run.calls ++ [{ visits := [], result }] } := by
  refine ⟨sound.protocol.append (fun _ _ => rfl) returned ?_ ?_, fun read settled => ?_⟩
  · intro read settled symbol date
    rw [List.append_nil]
    exact sound.protocol.limit read settled symbol date
  · exact fun _ _ visit member => absurd member List.not_mem_nil
  · rw [logOf_append, List.append_nil]
    exact (sound.consistent read settled).later passed

theorem Run.step_sound {settings : Except PyError OrbSettings} {run : Run} {context : OrbContext}
    (sound : Sound settings run)
    (constant : settingsOf context.parameters context.timeframe = settings)
    (passed : ∀ now ∈ utcNow? context, run.clock ≤ now) (room : run.HasRoom context) :
    Sound settings (run.step context) := by
  have later : run.clock ≤ (utcNow? context).getD run.clock := by
    cases given : utcNow? context with
    | none => exact le_refl run.clock
    | some now => exact passed now given
  have returned := @generateSignals_returned run.strategy context
  unfold Run.step
  unfold Run.HasRoom at room
  unfold UsOpeningRangeBreakoutVwapRetestStrategy.generateSignals at returned ⊢
  cases checked : preflight context with
  | error error =>
    simp only [checked] at returned ⊢
    exact sound.idle later fun _ never => nomatch never
  | ok planned =>
    cases planned with
    | none =>
      simp only [checked] at returned ⊢
      exact sound.idle later fun signals same => (Except.ok.inj same).symm
    | some plan =>
      obtain ⟨read, ts⟩ := plan
      obtain ⟨settled, now⟩ := preflight_some checked
      obtain rfl := constant.symm.trans settled
      simp only [checked, now, Option.getD_some] at returned room later ⊢
      have members : ∀ symbol ∈ run.strategy.symbols context,
          symbol ∈ run.inSession context (currentDate read ts.time) := fun symbol member =>
        List.mem_dedup.mpr (List.mem_append_right _ member)
      have scanned := @scan_scanned read (logOf run.calls) run.strategy.stateBySymbol _ ts
        context _ (nodup_symbols run.strategy context) members
        ((sound.consistent read rfl).later later) (Run.inSession_roomy room)
      refine ⟨sound.protocol.append (fun _ unread => nomatch unread)
        (fun _ same => returned same) ?_ ?_, ?_⟩
      · intro other same symbol date
        obtain rfl := Except.ok.inj same
        exact scanned.consistent.limit symbol date
      · intro other same visit member signal given
        obtain rfl := Except.ok.inj same
        exact scanned.justified visit member signal given
      · intro other same
        obtain rfl := Except.ok.inj same
        rw [logOf_append]
        exact scanned.consistent

/-- The clock does not go back between the calls, where both have a time. -/
def NotAfter (first second : OrbContext) : Prop :=
  ∀ earlier ∈ utcNow? first, ∀ later ∈ utcNow? second, earlier ≤ later

instance (first second : OrbContext) : Decidable (NotAfter first second) :=
  inferInstanceAs (Decidable (∀ earlier ∈ utcNow? first, _))

theorem utcNow?_nonneg {context : OrbContext} {now : Int} (given : now ∈ utcNow? context) :
    0 ≤ now := by
  obtain ⟨local_, -, converted⟩ := Option.bind_eq_some_iff.mp given
  obtain ⟨utc, -, rfl⟩ := Option.map_eq_some_iff.mp converted
  exact utc.inRange.1

theorem eachStep_clock {run : Run} {contexts : List OrbContext}
    (ordered : contexts.Pairwise NotAfter)
    (started : ∀ context ∈ contexts, ∀ now ∈ utcNow? context, run.clock ≤ now) :
    EachStep Run.step (fun run context => ∀ now ∈ utcNow? context, run.clock ≤ now) run
      contexts := by
  induction contexts generalizing run with
  | nil => trivial
  | cons context rest ih =>
    obtain ⟨before, ordered⟩ := List.pairwise_cons.mp ordered
    obtain ⟨first, started⟩ := List.forall_mem_cons.mp started
    refine ⟨first, ih ordered fun other member now given => ?_⟩
    unfold Run.step
    dsimp only
    cases told : utcNow? context with
    | none => exact started other member now given
    | some earlier => exact before other member earlier told now given

theorem sound_start (settings : Except PyError OrbSettings) (watchlist : List String) :
    Sound settings { strategy := { defaultWatchlist := watchlist } } := by
  refine ⟨⟨fun _ _ => rfl, fun _ member => absurd member List.not_mem_nil, ?_, ?_⟩,
    fun read _ => ⟨fun _ _ found => (nomatch found), ?_, ?_, ?_⟩⟩
  · intro read _ symbol date
    have allowed := read.signalsAllowed
    simp only [signalsFor, visitsFor, logOf, List.flatMap_nil, List.filter_nil,
      List.filterMap_nil, List.length_nil]
    omega
  · intro read _ before call after split
    exact absurd split (by simp)
  · intro symbol date
    have allowed := read.signalsAllowed
    simp only [signalsFor, visitsFor, logOf, List.flatMap_nil, List.filter_nil,
      List.filterMap_nil, List.length_nil]
    omega
  · exact fun _ _ given => absurd rfl given
  · exact fun _ _ seen => absurd rfl seen

/-- While no call before `orb_end` finds more symbols in its session than are
kept, the signals follow the protocol. -/
theorem protocol_of_room {parameters : Mapping} {timeframe : String} {contexts : List OrbContext}
    {watchlist : List String}
    (constant : ∀ context ∈ contexts,
      context.parameters = parameters ∧ context.timeframe = timeframe)
    (ordered : contexts.Pairwise NotAfter)
    (room : EachStep Run.step Run.HasRoom { strategy := { defaultWatchlist := watchlist } }
      contexts) :
    Protocol (settingsOf parameters timeframe)
      (runFrom Run.step { strategy := { defaultWatchlist := watchlist } } contexts).calls := by
  have same : ∀ context ∈ contexts, settingsOf context.parameters context.timeframe =
      settingsOf parameters timeframe := by
    intro context member
    obtain ⟨rfl, rfl⟩ := constant context member
    rfl
  have clock := @eachStep_clock { strategy := { defaultWatchlist := watchlist } } contexts ordered
    fun _ _ _ given => utcNow?_nonneg given
  have promised := ((eachStep_of_mem same).and clock).and room
  have run := throughout_of_eachStep
    (fun _ _ sound meets => Run.step_sound sound meets.1.1 meets.1.2 meets.2)
    (sound_start (settingsOf parameters timeframe) watchlist) promised
  exact run.final.protocol

def fiveMinuteRange : Mapping := [("entry", .map [("orb_minutes", .int 5)])]

/-- Minutes after half past one, when the session starts. -/
def afterStart (minute : Fin 60) : DateTime where
  time := 60480048600000000 + minute.val * 60000000
  offset := some 0
  inRange := by
    have bound := minute.isLt
    unfold lastTime
    omega

def barAt (minute : Fin 60) (openPrice high low close : Int) : OrbContext where
  parameters := fiveMinuteRange
  timeframe := "5m"
  now := some (afterStart minute)
  watchlist := ["AUDUSD"]
  availableKeys := requiredFeatures
  lookup _ name _ :=
    let features : Mapping :=
      [("open_5m", .int openPrice), ("high_5m", .int high), ("low_5m", .int low),
        ("close_5m", .int close), ("volume_5m", .int 1), ("atr_14_1h", .int 0),
        ("session_tag_5m", .str "newyork")]
    (features.get? name).map Payload.scalar

/-- The minutes of an hour are some, which its numerals ask for. -/
local instance minutesOfHour : NeZero 60 := ⟨by decide⟩

def retestCalls : List OrbContext :=
  [barAt 0 100 110 99 100, barAt 5 110 112 105 112, barAt 10 112 114 104 113]

theorem protocol_retest :
    (logOf (runFrom Run.step { strategy := {} } retestCalls).calls).map
        (fun visit => visit.signal.map OrbVwapRetestSignal.orbHigh) =
      [none, none, some (.finite 110)] ∧
    Protocol (settingsOf fiveMinuteRange "5m")
      (runFrom Run.step { strategy := {} } retestCalls).calls := by
  refine ⟨by decide +kernel, protocol_of_room ?_ ?_ ?_⟩
  · simp [retestCalls, barAt]
  · decide +kernel
  · decide +kernel

theorem runFrom_calls (start : Run) (contexts : List OrbContext) (context : OrbContext) :
    (runFrom Run.step start (contexts ++ [context])).calls =
      (runFrom Run.step start contexts).calls ++
        [{ visits :=
            ((runFrom Run.step start contexts).strategy.generateSignals context).visits
           result :=
            ((runFrom Run.step start contexts).strategy.generateSignals context).result }] := by
  simp only [runFrom, List.foldl_append, List.foldl_cons, List.foldl_nil]
  rfl

theorem Protocol.highest {settings : Except PyError OrbSettings} {read : OrbSettings} {start : Run}
    {contexts : List OrbContext} {context : OrbContext}
    (protocol : Protocol settings (runFrom Run.step start (contexts ++ [context])).calls)
    (settled : settings = .ok read) :
    let earlier := runFrom Run.step start contexts
    ∀ visit ∈ (earlier.strategy.generateSignals context).visits, ∀ signal ∈ visit.signal,
      ∃ bar ∈ openingBars (logOf earlier.calls) visit.symbol visit.sessionDate,
        signal.orbHigh = bar.high.round 6 ∧
          ∀ other ∈ openingBars (logOf earlier.calls) visit.symbol visit.sessionDate,
            ¬ bar.high < other.high := by
  intro earlier visit member signal given
  have justified := protocol.justified read settled _ _ [] (runFrom_calls start contexts context)
    visit member signal given
  obtain ⟨high, low, ⟨⟨reached, unsurpassed⟩, reported⟩, -⟩ := justified.range
  obtain ⟨bar, seen, rfl⟩ := List.mem_map.mp reached
  exact ⟨bar, seen, reported, fun other also => unsurpassed other.high (List.mem_map_of_mem also)⟩

/-- A call for 64 other symbols, without features. -/
def othersAt (minute : Fin 60) : OrbContext :=
  { barAt minute 0 0 0 0 with
    watchlist := (List.range 64).map (fun code => String.singleton (Char.ofNat (48 + code)))
    lookup := fun _ _ _ => none }

def crowdedCalls : List OrbContext :=
  [barAt 0 100 110 99 100, othersAt 1, barAt 2 100 101 99 100, barAt 5 101 102 100 102]

/-- The 64 symbols push out the state with the first bar, and the range that is
reported is that of the second bar alone. -/
theorem range_given_up :
    (∀ context ∈ crowdedCalls ++ [barAt 10 102 103 100 103],
        context.parameters = fiveMinuteRange ∧ context.timeframe = "5m") ∧
      (crowdedCalls ++ [barAt 10 102 103 100 103]).Pairwise NotAfter ∧
      ¬ Protocol (settingsOf fiveMinuteRange "5m")
        (runFrom Run.step { strategy := {} }
          (crowdedCalls ++ [barAt 10 102 103 100 103])).calls := by
  refine ⟨by simp [crowdedCalls, barAt, othersAt], by decide +kernel, fun protocol => ?_⟩
  cases settled : settingsOf fiveMinuteRange "5m" with
  | error error => exact absurd (protocol.readable error settled) (by decide +kernel)
  | ok read => exact absurd (protocol.highest settled) (by decide +kernel)

end FxToushi.Strategies.UsOrb
