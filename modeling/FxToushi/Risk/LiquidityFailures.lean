import FxToushi.Data.Fallible
import FxToushi.Py.Extended
import FxToushi.Risk.LiquidityMonitor

namespace FxToushi.Risk

open Data Py FxToushi.Core

/-! # Updates of the liquidity monitor that raise

The samples are stored before they are aged, and a time without an offset
cannot be aged.  Here a sample may have such a time and a batch may hold
payloads that are still to be parsed.
-/

/-- A `datetime`: an instant, or the time of a clock without an offset. -/
structure Stamp where
  time : Int
  aware : Bool
deriving Repr, DecidableEq

/-- A sample whose `ts` is an instant if it is aware. -/
structure TimedSample extends LiquiditySample where
  aware : Bool
deriving Repr, DecidableEq

inductive TsField where
  | text (text : String)
  | datetime (stamp : Stamp)
  | other

/-- A mapping, with its `ts` apart from the other fields. -/
structure Payload where
  ts : TsField
  fields : Mapping

/-- What a batch may hold.  Anything but a sample or a mapping is passed over. -/
inductive BatchItem where
  | sample (sample : TimedSample)
  | payload (payload : Payload)
  | other

inductive UpdateError where
  | parse (error : PyError)
  | untellable
  | liquidity (error : LiquidityError)
deriving Repr, DecidableEq

/-- One call of `update`: its batch, and what it reads besides. -/
structure UpdateCall where
  items : List BatchItem
  windowSec : Int := 300
  thresholds : LiquidityThresholds := {}
  fromisoformat : String → Option Stamp := fun _ => none
  now : Int
  updatedAt : Int
  cfgHash : Option String := none
  dataHash : Option String := none

structure FallibleMonitor where
  samples : Dict String (List TimedSample) := Dict.empty
  latestSnapshots : Dict String LiquiditySnapshot := Dict.empty
  gate : Option GateState := none

/-! ## Parsing -/

def parseStamp (call : UpdateCall) : TsField → Except PyError Stamp
  | .text text =>
    let zoned := text.toList.flatMap (fun char => if char = 'Z' then "+00:00".toList else [char])
    match call.fromisoformat (String.ofList zoned) with
    | some stamp => .ok stamp
    | none => .error .valueError
  | .datetime stamp => .ok stamp
  | .other => .ok ⟨call.now, true⟩

/-- `str(value or default)`. -/
def nameField (fields : Mapping) (key default : String) : String :=
  let value := (fields.get? key).getD .null
  if value.truth then value.text else default

/-- `float(get(key, 0.0))`. -/
def numberField (fields : Mapping) (key : String) : Except PyError Rat :=
  match fields.get? key with
  | none => .ok 0
  | some value => value.toRat

def depthField (fields : Mapping) : Except PyError (Option Rat) :=
  match fields.given? "depth" with
  | none => .ok none
  | some value => value.toRat.map some

/-- The depth is converted, and nothing reads it afterwards. -/
def fromMapping (call : UpdateCall) (payload : Payload) : Except PyError TimedSample := do
  let stamp ← parseStamp call payload.ts
  let bid ← numberField payload.fields "bid"
  let ask ← numberField payload.fields "ask"
  let spread ← numberField payload.fields "spread"
  let updateLatencyMs ← numberField payload.fields "update_latency_ms"
  let _depth ← depthField payload.fields
  return {
    source := nameField payload.fields "source" "unknown"
    symbol := nameField payload.fields "symbol" "UNKNOWN"
    ts := stamp.time, aware := stamp.aware, bid, ask, spread, updateLatencyMs }

def parseItem (call : UpdateCall) : BatchItem → Except PyError (Option TimedSample)
  | .sample sample => .ok (some sample)
  | .payload payload => (fromMapping call payload).map some
  | .other => .ok none

def parseSamples (call : UpdateCall) : Except PyError (List TimedSample) :=
  (tryMap (parseItem call) call.items).map (fun parsed => parsed.filterMap id)

/-! ## The update -/

def heldIn (samples : Dict String (List TimedSample)) (symbol : String) : List TimedSample :=
  (samples.get? symbol).getD []

def storeSamples (samples : Dict String (List TimedSample)) (batch : List TimedSample) :
    Dict String (List TimedSample) :=
  batch.foldl (fun samples sample =>
    samples.set sample.symbol (heldIn samples sample.symbol ++ [sample])) samples

def UpdateCall.inWindow (call : UpdateCall) (sample : TimedSample) : Bool :=
  decide (call.now - sample.ts ≤ call.windowSec * 1000000)

/-- Whether every sample of the symbol can be aged. -/
def allAware (items : List TimedSample) : Bool := items.all (fun sample => sample.aware)

/-- The loop over the symbols.  One with a naive sample raises, and the symbols
before it are aged by then. -/
def ageSymbols (call : UpdateCall) :
    List (String × List TimedSample) → Dict String (List TimedSample) →
      Dict String (List TimedSample) × Bool
  | [], samples => (samples, false)
  | (symbol, items) :: rest, samples =>
    if allAware items then ageSymbols call rest (samples.set symbol (items.filter call.inWindow))
    else (samples, true)

def ageAll (call : UpdateCall) (stored : Dict String (List TimedSample)) :
    Dict String (List TimedSample) × Bool :=
  ageSymbols call stored.entries stored

/-- The call once its batch is parsed, as the gate is stored with. -/
def UpdateCall.written (call : UpdateCall) (parsed : List TimedSample) : Update where
  batch := parsed.map TimedSample.toLiquiditySample
  windowSec := call.windowSec
  thresholds := call.thresholds
  now := call.now
  updatedAt := call.updatedAt
  cfgHash := call.cfgHash
  dataHash := call.dataHash

namespace FallibleMonitor

def held (monitor : FallibleMonitor) (symbol : String) : List TimedSample :=
  heldIn monitor.samples symbol

/-- By the time the snapshot is built every stored sample is an instant. -/
def update (monitor : FallibleMonitor) (call : UpdateCall) :
    Except UpdateError LiquiditySnapshot × FallibleMonitor :=
  match parseSamples call with
  | .error error => (.error (.parse error), monitor)
  | .ok parsed =>
    match parsed.getLast? with
    | none => (.error (.liquidity (.sampleError "No liquidity samples provided")), monitor)
    | some last =>
      let stored := storeSamples monitor.samples parsed
      let (samples, raised) := ageAll call stored
      if raised then (.error .untellable, { monitor with samples })
      else
        match buildSnapshot ((heldIn samples last.symbol).map
            TimedSample.toLiquiditySample) last.symbol call.thresholds call.updatedAt with
        | .error error => (.error (.liquidity error), { monitor with samples })
        | .ok snapshot => (.ok snapshot, {
            samples
            latestSnapshots := monitor.latestSnapshots.set last.symbol snapshot
            gate := some (updateGateState monitor.gate (call.written parsed) snapshot) })

def step (monitor : FallibleMonitor) (call : UpdateCall) : FallibleMonitor :=
  (monitor.update call).2

end FallibleMonitor

/-! ## Storing and aging -/

def ofSymbol (symbol : String) (batch : List TimedSample) : List TimedSample :=
  batch.filter (fun sample => sample.symbol == symbol)

theorem heldIn_storeSamples (samples : Dict String (List TimedSample)) (batch : List TimedSample)
    (symbol : String) :
    heldIn (storeSamples samples batch) symbol = heldIn samples symbol ++
      ofSymbol symbol batch := by
  induction batch generalizing samples with
  | nil => simp [storeSamples, ofSymbol]
  | cons sample rest ih =>
    have later := ih (samples.set sample.symbol (heldIn samples sample.symbol ++ [sample]))
    rw [storeSamples, List.foldl_cons]
    refine later.trans ?_
    by_cases same : sample.symbol = symbol
    · simp [heldIn, ofSymbol, Dict.get?_set, same]
    · simp [heldIn, ofSymbol, Dict.get?_set, same]

theorem ageSymbols_raised_iff (call : UpdateCall) (entries : List (String × List TimedSample))
    (samples : Dict String (List TimedSample)) :
    (ageSymbols call entries samples).2 = false ↔ ∀ entry ∈ entries, allAware entry.2 = true := by
  induction entries generalizing samples with
  | nil => simp [ageSymbols]
  | cons entry rest ih =>
    obtain ⟨symbol, items⟩ := entry
    rw [ageSymbols, List.forall_mem_cons]
    by_cases aware : allAware items = true
    · simp [aware, ih]
    · simp [aware]

theorem ageSymbols_aware (call : UpdateCall) {entries : List (String × List TimedSample)}
    (aware : ∀ entry ∈ entries, allAware entry.2 = true)
    (samples : Dict String (List TimedSample)) :
    (ageSymbols call entries samples).1 =
      samples.setAll Prod.fst (fun entry => entry.2.filter call.inWindow) entries := by
  induction entries generalizing samples with
  | nil => rfl
  | cons entry rest ih =>
    obtain ⟨first, later⟩ := List.forall_mem_cons.mp aware
    rw [ageSymbols, if_pos first, ih later]
    rfl

theorem ageSymbols_untold (call : UpdateCall) {symbol : String}
    {entries : List (String × List TimedSample)}
    (untold : ∀ entry ∈ entries, entry.1 = symbol → allAware entry.2 = false)
    (samples : Dict String (List TimedSample)) :
    (ageSymbols call entries samples).1.get? symbol = samples.get? symbol := by
  induction entries generalizing samples with
  | nil => rfl
  | cons entry rest ih =>
    obtain ⟨first, later⟩ := List.forall_mem_cons.mp untold
    rw [ageSymbols]
    by_cases aware : allAware entry.2 = true
    · have other : entry.1 ≠ symbol := by
        intro same
        rw [first same] at aware
        cases aware
      rw [if_pos aware, ih later, Dict.get?_set, if_neg other]
    · rw [if_neg aware]

section AgeAll

variable (call : UpdateCall) {stored : Dict String (List TimedSample)}

theorem forall_entries_iff :
    (∀ entry ∈ stored.entries, allAware entry.2 = true) ↔
      ∀ symbol, allAware (heldIn stored symbol) = true := by
  constructor
  · intro every symbol
    unfold heldIn
    cases found : stored.get? symbol with
    | none => rfl
    | some items => exact every (symbol, items) ((stored.get?_eq_some_iff).mp found)
  · intro every entry member
    have found := (stored.get?_eq_some_iff).mpr member
    have aware := every entry.1
    rwa [heldIn, found] at aware

theorem ageAll_raised_iff :
    (ageAll call stored).2 = false ↔ ∀ symbol, allAware (heldIn stored symbol) = true :=
  (ageSymbols_raised_iff call stored.entries stored).trans forall_entries_iff

theorem heldIn_ageAll (aware : ∀ symbol, allAware (heldIn stored symbol) = true) (symbol : String) :
    heldIn (ageAll call stored).1 symbol = (heldIn stored symbol).filter call.inWindow := by
  rw [ageAll, ageSymbols_aware call (forall_entries_iff.mpr aware), heldIn, heldIn]
  cases found : stored.get? symbol with
  | none =>
    have absent : ∀ entry ∈ stored.entries, entry.1 ≠ symbol := by
      intro entry member same
      have present := (stored.get?_eq_some_iff).mpr member
      rw [same, found] at present
      cases present
    rw [Dict.get?_setAll_of_absent absent, found]
    rfl
  | some items =>
    have member := (stored.get?_eq_some_iff).mp found
    have unique : ∀ other ∈ stored.entries, other.1 = symbol →
        other.2.filter call.inWindow = items.filter call.inWindow := by
      intro other otherMember same
      have present := (stored.get?_eq_some_iff).mpr otherMember
      rw [same, found] at present
      rw [Option.some.inj present]
    rw [Dict.get?_setAll_of_unique member unique]
    rfl

theorem heldIn_ageAll_of_naive {symbol : String} (naive : allAware (heldIn stored symbol) = false) :
    heldIn (ageAll call stored).1 symbol = heldIn stored symbol := by
  rw [ageAll, heldIn, heldIn, ageSymbols_untold call (fun entry member same => ?_)]
  have found := (stored.get?_eq_some_iff).mpr member
  rw [same] at found
  rwa [heldIn, found] at naive

end AgeAll

namespace FallibleMonitor

/-- No naive sample is stored. -/
def AllAware (monitor : FallibleMonitor) : Prop := ∀ symbol, allAware (monitor.held symbol) = true

/-- The samples, the latest snapshots and the gate file are as they were. -/
structure SameAs (before after : FallibleMonitor) : Prop where
  samples : ∀ symbol, after.held symbol = before.held symbol
  latestSnapshots : after.latestSnapshots = before.latestSnapshots
  gate : after.gate = before.gate

/-- A batch of well-formed recent samples. -/
def Recent (call : UpdateCall) : Prop :=
  ∃ parsed, parseSamples call = .ok parsed ∧ parsed ≠ [] ∧
    ∀ sample ∈ parsed, sample.aware = true ∧ call.inWindow sample = true

/-- If the update raises, nothing changed, and the next batch of well-formed
recent samples succeeds as it would have without it. -/
def RaisesCleanly (monitor : FallibleMonitor) (call : UpdateCall) : Prop :=
  (∃ error, (monitor.update call).1 = .error error) →
    SameAs monitor (monitor.step call) ∧
      ∀ next, Recent next → ∃ snapshot,
        ((monitor.step call).update next).1 = .ok snapshot ∧ (monitor.update next).1 = .ok snapshot

/-- A batch that parses has no naive sample, and where nothing of its last
symbol is inside the window, none of its samples is and every stored one is. -/
def Clean (monitor : FallibleMonitor) (call : UpdateCall) : Prop :=
  ∀ parsed, parseSamples call = .ok parsed →
    (∀ sample ∈ parsed, sample.aware = true) ∧
      ∀ last ∈ parsed.getLast?,
        (∀ sample ∈ monitor.held last.symbol ++ ofSymbol last.symbol parsed,
          call.inWindow sample = false) →
        (∀ sample ∈ parsed, call.inWindow sample = false) ∧
          ∀ symbol, ∀ sample ∈ monitor.held symbol, call.inWindow sample = true

section Update

variable {monitor : FallibleMonitor} {call : UpdateCall} {parsed : List TimedSample}
  {last : TimedSample}

theorem update_of_parse_error {error : PyError} (failed : parseSamples call = .error error) :
    monitor.update call = (.error (.parse error), monitor) := by
  rw [update, failed]

theorem update_of_empty (parses : parseSamples call = .ok []) :
    monitor.update call =
      (.error (.liquidity (.sampleError "No liquidity samples provided")), monitor) := by
  rw [update, parses]
  rfl

/-- The samples of a symbol with those of the batch, aged. -/
def aged (monitor : FallibleMonitor) (call : UpdateCall) (parsed : List TimedSample)
    (symbol : String) : List TimedSample :=
  (monitor.held symbol ++ ofSymbol symbol parsed).filter call.inWindow

theorem allAware_stored (aware : monitor.AllAware)
    (batch : ∀ sample ∈ parsed, sample.aware = true) (symbol : String) :
    allAware (heldIn (storeSamples monitor.samples parsed) symbol) = true := by
  rw [heldIn_storeSamples, allAware, List.all_append, Bool.and_eq_true]
  refine ⟨aware symbol, List.all_eq_true.mpr fun sample member => ?_⟩
  exact batch sample (List.mem_of_mem_filter member)

theorem held_aged (call : UpdateCall) (aware : monitor.AllAware)
    (batch : ∀ sample ∈ parsed, sample.aware = true) (symbol : String) :
    heldIn (ageAll call (storeSamples monitor.samples parsed)).1 symbol =
      monitor.aged call parsed symbol := by
  rw [heldIn_ageAll call (allAware_stored aware batch), heldIn_storeSamples]
  rfl

theorem update_of_aware (aware : monitor.AllAware) (parses : parseSamples call = .ok parsed)
    (isLast : parsed.getLast? = some last) (batch : ∀ sample ∈ parsed, sample.aware = true) :
    (monitor.update call).1 = (buildSnapshot
        ((monitor.aged call parsed last.symbol).map TimedSample.toLiquiditySample) last.symbol
          call.thresholds call.updatedAt).mapError .liquidity ∧
      ∀ symbol, (monitor.step call).held symbol = monitor.aged call parsed symbol := by
  have quiet := (ageAll_raised_iff call).mpr (allAware_stored aware batch)
  have samples := held_aged call aware batch
  simp only [step, update, parses, isLast, quiet, samples]
  cases buildSnapshot ((monitor.aged call parsed last.symbol).map TimedSample.toLiquiditySample)
      last.symbol call.thresholds call.updatedAt with
  | error error => exact ⟨rfl, samples⟩
  | ok snapshot => exact ⟨rfl, samples⟩

theorem appendSamples_held (samples : Dict String (List LiquiditySample))
    (batch : List LiquiditySample) (symbol : String) :
    ((appendSamples samples batch).get? symbol).getD [] =
      (samples.get? symbol).getD [] ++ batch.filter (fun sample => sample.symbol == symbol) := by
  induction batch generalizing samples with
  | nil => simp [appendSamples]
  | cons sample rest ih =>
    rw [appendSamples, List.foldl_cons]
    refine (ih _).trans ?_
    by_cases same : sample.symbol = symbol
    · simp [Dict.get?_set, same]
    · simp [Dict.get?_set, same]

theorem gathered_held (call : UpdateCall) {service : LiquidityMonitorService}
    (parsed : List TimedSample)
    (same : ∀ symbol, (service.samples.get? symbol).getD [] =
      (monitor.held symbol).map TimedSample.toLiquiditySample) (symbol : String) :
    (((call.written parsed).gathered service.samples).get? symbol).getD [] =
      (monitor.aged call parsed symbol).map TimedSample.toLiquiditySample := by
  have stored := appendSamples_held service.samples (call.written parsed).batch symbol
  rw [same] at stored
  have filtered : (((call.written parsed).gathered service.samples).get? symbol).getD [] =
      (((appendSamples service.samples (call.written parsed).batch).get? symbol).getD []).filter
        (call.written parsed).inWindow := by
    rw [Update.gathered, Dict.get?_mapValues]
    cases (appendSamples service.samples (call.written parsed).batch).get? symbol with
    | none => rfl
    | some items => rfl
  rw [filtered, stored, aged, ofSymbol, UpdateCall.written, List.filter_map, ← List.map_append,
    List.filter_map]
  rfl

/-- On instants it is the update of the service whose samples are all instants. -/
theorem update_agrees {service : LiquidityMonitorService} (aware : monitor.AllAware)
    (parses : parseSamples call = .ok parsed) (isLast : parsed.getLast? = some last)
    (batch : ∀ sample ∈ parsed, sample.aware = true)
    (same : ∀ symbol, (service.samples.get? symbol).getD [] =
      (monitor.held symbol).map TimedSample.toLiquiditySample) :
    (monitor.update call).1 = (service.update (call.written parsed)).1.mapError .liquidity := by
  have lastOf : (call.written parsed).batch.getLast? = some last.toLiquiditySample := by
    rw [UpdateCall.written, List.getLast?_map, isLast]
    rfl
  have gathered := gathered_held call parsed same last.symbol
  rw [(update_of_aware aware parses isLast batch).1, LiquidityMonitorService.update, lastOf]
  simp only [LiquidityMonitorService.snapshotFor, gathered]
  have settings : (call.written parsed).thresholds = call.thresholds ∧
      (call.written parsed).updatedAt = call.updatedAt := ⟨rfl, rfl⟩
  rw [settings.1, settings.2]
  cases buildSnapshot ((monitor.aged call parsed last.symbol).map TimedSample.toLiquiditySample)
      last.symbol call.thresholds call.updatedAt with
  | error error => rfl
  | ok snapshot => rfl

theorem raised_of_naive {sample : TimedSample} (parses : parseSamples call = .ok parsed)
    (isLast : parsed.getLast? = some last) (member : sample ∈ parsed)
    (naive : sample.aware = false) :
    (monitor.update call).1 = .error .untellable ∧
      sample ∈ (monitor.step call).held sample.symbol := by
  have stored : sample ∈ heldIn (storeSamples monitor.samples parsed) sample.symbol := by
    rw [heldIn_storeSamples]
    exact List.mem_append_right _ (List.mem_filter.mpr ⟨member, by simp⟩)
  have untold : allAware (heldIn (storeSamples monitor.samples parsed) sample.symbol) = false := by
    rw [allAware, List.all_eq_false]
    exact ⟨sample, stored, by simp [naive]⟩
  have raised : (ageAll call (storeSamples monitor.samples parsed)).2 = true := by
    rw [← Bool.not_eq_false, ageAll_raised_iff]
    intro every
    rw [every] at untold
    cases untold
  have kept := heldIn_ageAll_of_naive call untold
  simp only [step, update, parses, isLast, raised, if_true, true_and]
  rw [held, kept]
  exact stored

theorem buildSnapshot_error_iff (items : List LiquiditySample) (symbol : String)
    (thresholds : LiquidityThresholds) (updatedAt : Int) :
    (∃ error, buildSnapshot items symbol thresholds updatedAt = .error error) ↔ items = [] := by
  unfold buildSnapshot
  split
  · rename_i empty
    simp [empty]
  · rename_i nonempty
    simp [nonempty]

theorem raises_iff (aware : monitor.AllAware) (parses : parseSamples call = .ok parsed)
    (isLast : parsed.getLast? = some last) (batch : ∀ sample ∈ parsed, sample.aware = true) :
    (∃ error, (monitor.update call).1 = .error error) ↔
      ∀ sample ∈ monitor.held last.symbol ++ ofSymbol last.symbol parsed,
        call.inWindow sample = false := by
  have empty := buildSnapshot_error_iff
    ((monitor.aged call parsed last.symbol).map TimedSample.toLiquiditySample) last.symbol
    call.thresholds call.updatedAt
  rw [List.map_eq_nil_iff, aged, List.filter_eq_nil_iff] at empty
  simp only [Bool.not_eq_true] at empty
  rw [(update_of_aware aware parses isLast batch).1, ← empty, aged]
  cases buildSnapshot (((monitor.held last.symbol ++ ofSymbol last.symbol parsed).filter
      call.inWindow).map TimedSample.toLiquiditySample) last.symbol call.thresholds
      call.updatedAt with
  | error error => simp [Except.mapError]
  | ok snapshot => simp [Except.mapError]

/-- A batch of recent samples is assessed, and only by what its symbol holds. -/
theorem update_recent {other : FallibleMonitor} (aware : monitor.AllAware) {next : UpdateCall}
    (recent : Recent next) (same : ∀ symbol, other.held symbol = monitor.held symbol) :
    ∃ snapshot, (other.update next).1 = .ok snapshot ∧ (monitor.update next).1 = .ok snapshot := by
  obtain ⟨parsed, parses, nonempty, good⟩ := recent
  obtain ⟨last, isLast⟩ := List.getLast?_isSome.mpr nonempty |> Option.isSome_iff_exists.mp
  have batch : ∀ sample ∈ parsed, sample.aware = true := fun sample member => (good sample member).1
  have otherAware : other.AllAware := fun symbol => by rw [same]; exact aware symbol
  have result := (update_of_aware aware parses isLast batch).1
  have otherResult := (update_of_aware otherAware parses isLast batch).1
  have alike : other.aged next parsed last.symbol = monitor.aged next parsed last.symbol := by
    rw [aged, aged, same]
  have member : last ∈ parsed := List.mem_of_getLast? isLast
  have assessed : ¬ ∃ error, (monitor.update next).1 = .error error := by
    rw [raises_iff aware parses isLast batch]
    intro stale
    have inWindow := (good last member).2
    rw [stale last (List.mem_append_right _ (List.mem_filter.mpr ⟨member, by simp⟩))] at inWindow
    cases inWindow
  cases outcome : (monitor.update next).1 with
  | error error => exact absurd ⟨error, outcome⟩ assessed
  | ok snapshot =>
    refine ⟨snapshot, ?_, rfl⟩
    rw [otherResult, alike, ← result, outcome]

theorem SameAs.refl (monitor : FallibleMonitor) : SameAs monitor monitor := ⟨fun _ => rfl, rfl, rfl⟩

theorem raisesCleanly_of_same (aware : monitor.AllAware)
    (same : SameAs monitor (monitor.step call)) :
    RaisesCleanly monitor call :=
  fun _ => ⟨same, fun _ recent => update_recent aware recent same.samples⟩

/-- The other fields are written only after the snapshot was built. -/
theorem written_of_raised {error : UpdateError} (raised : (monitor.update call).1 = .error error) :
    (monitor.step call).latestSnapshots = monitor.latestSnapshots ∧
      (monitor.step call).gate = monitor.gate := by
  cases parses : parseSamples call with
  | error error => simp only [step, update_of_parse_error parses, and_self]
  | ok parsed =>
    cases isLast : parsed.getLast? with
    | none =>
      obtain rfl := List.getLast?_eq_none_iff.mp isLast
      simp only [step, update_of_empty parses, and_self]
    | some last =>
      simp only [step, update, parses, isLast] at raised ⊢
      cases told : (ageAll call (storeSamples monitor.samples parsed)).2 with
      | true => simp only [if_true, and_self]
      | false =>
        simp only [told, Bool.false_eq_true, if_false] at raised ⊢
        cases built : buildSnapshot
            ((heldIn (ageAll call (storeSamples monitor.samples parsed)).1 last.symbol).map
              TimedSample.toLiquiditySample) last.symbol call.thresholds call.updatedAt with
        | error error => simp only [and_self]
        | ok snapshot =>
          rw [built] at raised
          cases raised

/-- Where nothing of a symbol is left, aging keeps the store exactly when it
drops the whole batch and nothing else. -/
theorem aged_eq_held_iff :
    (∀ symbol, monitor.aged call parsed symbol = monitor.held symbol) ↔
      (∀ sample ∈ parsed, call.inWindow sample = false) ∧
        ∀ symbol, ∀ sample ∈ monitor.held symbol, call.inWindow sample = true := by
  constructor
  · intro same
    have kept : ∀ symbol, ∀ sample ∈ monitor.held symbol, call.inWindow sample = true := by
      intro symbol sample member
      rw [← same symbol] at member
      exact (List.mem_filter.mp member).2
    refine ⟨fun sample member => ?_, kept⟩
    have added := same sample.symbol
    rw [aged, List.filter_append, List.filter_eq_self.mpr (kept sample.symbol)] at added
    have dropped := List.append_right_eq_self.mp added
    rw [List.filter_eq_nil_iff] at dropped
    simpa using dropped sample (List.mem_filter.mpr ⟨member, by simp⟩)
  · intro ⟨dropped, kept⟩ symbol
    have nothing : (ofSymbol symbol parsed).filter call.inWindow = [] := by
      rw [List.filter_eq_nil_iff]
      intro sample member
      simp [dropped sample (List.mem_of_mem_filter member)]
    rw [aged, List.filter_append, List.filter_eq_self.mpr (kept symbol), nothing, List.append_nil]

theorem raisesCleanly_iff (aware : monitor.AllAware) :
    RaisesCleanly monitor call ↔ Clean monitor call := by
  cases parses : parseSamples call with
  | error error =>
    refine iff_of_true (raisesCleanly_of_same aware ?_) (by simp [Clean, parses])
    rw [step, update_of_parse_error parses]
    exact .refl monitor
  | ok parsed =>
    cases isLast : parsed.getLast? with
    | none =>
      obtain rfl := List.getLast?_eq_none_iff.mp isLast
      refine iff_of_true (raisesCleanly_of_same aware ?_) (by simp [Clean, parses])
      rw [step, update_of_empty parses]
      exact .refl monitor
    | some last =>
      have clean : Clean monitor call ↔ (∀ sample ∈ parsed, sample.aware = true) ∧
          ((∀ sample ∈ monitor.held last.symbol ++ ofSymbol last.symbol parsed,
              call.inWindow sample = false) →
            ∀ symbol, monitor.aged call parsed symbol = monitor.held symbol) := by
        simp [Clean, parses, isLast, aged_eq_held_iff]
      rw [clean]
      by_cases batch : ∀ sample ∈ parsed, sample.aware = true
      · have raises := raises_iff aware parses isLast batch
        have samples := (update_of_aware aware parses isLast batch).2
        constructor
        · intro cleanly
          refine ⟨batch, fun stale symbol => ?_⟩
          rw [← samples]
          exact (cleanly (raises.mpr stale)).1.samples symbol
        · intro ⟨_, dropped⟩ raised
          obtain ⟨latest, gate⟩ := written_of_raised raised.choose_spec
          have same : SameAs monitor (monitor.step call) :=
            ⟨fun symbol => (samples symbol).trans (dropped (raises.mp raised) symbol), latest, gate⟩
          exact raisesCleanly_of_same aware same raised
      · refine iff_of_false (fun cleanly => ?_) (fun both => batch both.1)
        obtain ⟨sample, member, naive⟩ : ∃ sample ∈ parsed, sample.aware = false := by
          simpa using batch
        obtain ⟨raised, stored⟩ := raised_of_naive parses isLast member naive
        rw [(cleanly ⟨_, raised⟩).1.samples] at stored
        have told := List.all_eq_true.mp (aware sample.symbol) sample stored
        rw [naive] at told
        cases told

theorem step_allAware (aware : monitor.AllAware) (clean : Clean monitor call) :
    (monitor.step call).AllAware := by
  cases parses : parseSamples call with
  | error error =>
    rw [step, update_of_parse_error parses]
    exact aware
  | ok parsed =>
    cases isLast : parsed.getLast? with
    | none =>
      obtain rfl := List.getLast?_eq_none_iff.mp isLast
      rw [step, update_of_empty parses]
      exact aware
    | some last =>
      obtain ⟨batch, -⟩ := clean parsed parses
      intro symbol
      rw [(update_of_aware aware parses isLast batch).2, aged, allAware, List.all_eq_true]
      intro sample member
      cases List.mem_append.mp (List.mem_of_mem_filter member) with
      | inl stored => exact List.all_eq_true.mp (aware symbol) sample stored
      | inr added => exact batch sample (List.mem_of_mem_filter added)

end Update

/-- In a run of a new service every update that raises does so cleanly exactly
when every batch is clean. -/
theorem raisesCleanly_run_iff (calls : List UpdateCall) :
    EachStep step RaisesCleanly {} calls ↔ EachStep step Clean {} calls :=
  eachStep_iff_of_invariant AllAware (fun _ _ aware clean => step_allAware aware clean)
    (fun _ _ aware => raisesCleanly_iff aware) (fun _ => rfl)

/-- One quote whose time has no offset. -/
def naiveQuote : TimedSample where
  source := "primary"
  symbol := "EURUSD"
  ts := 0
  bid := 1
  ask := 1
  spread := 0
  updateLatencyMs := 0
  aware := false

/-- It is stored, and raises in every later update. -/
theorem naiveQuote_stays : ¬ ∀ calls, EachStep step RaisesCleanly {} calls := by
  intro cleanly
  have first := (cleanly [{ items := [.sample naiveQuote], now := 0, updatedAt := 0 }]).1
  have clean := (raisesCleanly_iff (fun _ => rfl)).mp first
  exact absurd ((clean [naiveQuote] rfl).1 naiveQuote (List.mem_singleton_self _)) (by decide)

end FallibleMonitor

end FxToushi.Risk
