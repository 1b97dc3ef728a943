import FxToushi.Brokers.OrderSurvival

namespace FxToushi.Brokers

open Data Py

/-! # Order queries

An order is looked up by the text of its id, and listed under an id that is not
falsy.  A listing under a strategy passes over the orders of other strategies that
have an envelope.
-/

/-! ## Envelopes -/

structure OrderEnvelope where
  orderId : String
  externalId : Value
  mode : String
  stageGuardStage : String
  strategyId : Value
  ticketId : Value
  profile : String
  riskSnapshot : Mapping
  protectPips : Value
  reduceOnly : Bool
  submittedBy : String
  submittedAt : String

/-- `str(payload.get(key, default))`. -/
def textOrDefault (payload : Mapping) (key default : String) : String :=
  ((payload.get? key).getD (.str default)).text

/-- `dict(value)` of a value that is a mapping or falsy. -/
def snapshotOf (payload : Mapping) : Except PyError Mapping :=
  match orValue (valueAt payload "risk_snapshot") (.map []) with
  | .map entries => .ok entries
  | _ => .error .typeError

def envelopeFromPayload (now orderId : String) (payload : Mapping) :
    Except PyError OrderEnvelope := do
  let riskSnapshot ← snapshotOf payload
  return {
    orderId
    externalId := valueAt payload "external_id"
    mode := textOrDefault payload "mode" "paper"
    stageGuardStage := textOrDefault payload "stage_guard_stage" "manual_only"
    strategyId := valueAt payload "strategy_id"
    ticketId := valueAt payload "ticket_id"
    profile := textOrDefault payload "profile" "paper"
    riskSnapshot
    protectPips := valueAt payload "protect_pips"
    reduceOnly := ((payload.get? "reduce_only").getD (.bool false)).truth
    submittedBy := textOrDefault payload "submitted_by" "system"
    submittedAt := textOrDefault payload "submitted_at" now }

/-- A store with its envelope files: what the YAML library makes of the file of an
order, or raises. -/
structure OrderFiles where
  store : OrderStateStore
  envelopes : String → String → Option (Except PyError Value) := fun _ _ => none

/-! ## Queries -/

/-- `_latest_state`, after some of the records. -/
def latestOf (orderId : String) : Option OrderState → List Value →
    Except PyError (Option OrderState)
  | latest, [] => .ok latest
  | latest, .map record :: rest =>
    if textAt record "order_id" = orderId then do
      let state ← stateFromPayload record
      latestOf orderId (some state) rest
    else latestOf orderId latest rest
  | _, _ :: _ => .error .attributeError

/-- The id that a record is listed under. -/
def listedId (record : Mapping) : String := (orValue (valueAt record "order_id") (.str "")).text

/-- The latest states of a listing, after some of the records. -/
def latestStates : Dict String OrderState → List Value → Except PyError (Dict String OrderState)
  | latest, [] => .ok latest
  | latest, .map record :: rest =>
    if listedId record = "" then latestStates latest rest
    else do
      let state ← stateFromPayload record
      latestStates (latest.set (listedId record) state) rest
  | _, _ :: _ => .error .attributeError

/-- The filters of a listing. -/
structure OrderFilter where
  statusIn : Option (List String) := none
  strategyId : Option String := none

namespace OrderFilter

/-- No status filter, or one that has the status. -/
def passes (filter : OrderFilter) (state : OrderState) : Bool :=
  (filter.statusIn.getD []).isEmpty || (filter.statusIn.getD []).contains state.status

/-- The strategy of an envelope is another than the one asked for. -/
def otherStrategy (filter : OrderFilter) (envelope : OrderEnvelope) : Bool :=
  match filter.strategyId with
  | none => false
  | some strategyId =>
    strategyId != "" && (match envelope.strategyId with
      | .str named => named != strategyId
      | _ => true)

end OrderFilter

namespace OrderFiles

variable (files : OrderFiles) (codec : Codec) (now mode : String)

def records : List Value := files.store.records codec mode

/-- The envelope of an order, where there is a file. -/
def envelope (orderId : String) : Except PyError (Option OrderEnvelope) :=
  match files.envelopes mode orderId with
  | none => .ok none
  | some document => do
      match orValue (← document) (.map []) with
      | .map payload => return some (← envelopeFromPayload now orderId payload)
      | _ => throw .attributeError

def load (orderId : String) : Except PyError (Option OrderEnvelope × Option OrderState) := do
  let envelope ← files.envelope now mode orderId
  let state ← latestOf orderId none (files.records codec mode)
  return (envelope, state)

/-- The listing of the latest states. -/
def listed (filter : OrderFilter) : List (String × OrderState) →
    Except PyError (List (Option OrderEnvelope × OrderState))
  | [] => .ok []
  | (orderId, state) :: rest =>
    if filter.passes state = false then listed filter rest
    else do
      let envelope ← files.envelope now mode orderId
      let results ← listed filter rest
      if envelope.any filter.otherStrategy then return results
      return (envelope, state) :: results

def list (filter : OrderFilter) : Except PyError (List (Option OrderEnvelope × OrderState)) := do
  let latest ← latestStates Dict.empty (files.records codec mode)
  files.listed now mode filter latest.entries

end OrderFiles

/-! ## The scan of one order -/

theorem getLast?_cons_or {Item : Type*} (first : Item) (rest : List Item) (other : Option Item) :
    (first :: rest).getLast?.or other = rest.getLast?.or (some first) := by
  rw [List.getLast?_cons]
  cases rest.getLast? <;> rfl

/-- The loop over the records ends with the last state of the history. -/
theorem latestOf_eq (orderId : String) (latest : Option OrderState) (records : List Value) :
    latestOf orderId latest records =
      (statesOf orderId records).map (fun states => states.getLast?.or latest) := by
  induction records generalizing latest with
  | nil => rfl
  | cons record rest ih =>
    cases record with
    | map record =>
      rw [latestOf, statesOf]
      by_cases same : textAt record "order_id" = orderId
      · rw [if_pos same, if_pos same]
        cases stateFromPayload record with
        | error error => rfl
        | ok state =>
          refine (ih (some state)).trans ?_
          cases statesOf orderId rest with
          | error error => rfl
          | ok states => exact congrArg Except.ok (getLast?_cons_or state states latest).symm
      · rw [if_neg same, if_neg same]
        exact ih latest
    | _ => rfl

/-- `load` and `history` agree on the state of every order. -/
theorem latestOf_history (files : OrderFiles) (codec : Codec) (mode orderId : String) :
    latestOf orderId none (files.records codec mode) =
      (files.store.history codec orderId mode).map List.getLast? := by
  rw [latestOf_eq, OrderStateStore.history, OrderFiles.records]
  cases statesOf orderId (files.store.records codec mode) with
  | error error => rfl
  | ok states => exact congrArg Except.ok (Option.or_none)

theorem stateFromPayload_orderId {record : Mapping} {state : OrderState}
    (read : stateFromPayload record = .ok state) : state.orderId = textAt record "order_id" := by
  obtain ⟨recoveryPlan, -, read⟩ := bind_ok read
  obtain ⟨attempt, -, read⟩ := bind_ok read
  rw [← Except.ok.inj read]

theorem statesOf_orderId {orderId : String} {records : List Value} {states : List OrderState}
    (read : statesOf orderId records = .ok states) : ∀ state ∈ states, state.orderId = orderId := by
  induction records generalizing states with
  | nil =>
    obtain rfl := Except.ok.inj read
    exact fun _ absurdity => absurd absurdity List.not_mem_nil
  | cons record rest ih =>
    cases record with
    | map record =>
      rw [statesOf] at read
      split at read
      · rename_i same
        obtain ⟨first, converted, read⟩ := bind_ok read
        obtain ⟨later, readLater, read⟩ := bind_ok read
        obtain rfl := Except.ok.inj read
        refine List.forall_mem_cons.mpr ⟨?_, ih readLater⟩
        rw [stateFromPayload_orderId converted, same]
      · exact ih read
    | _ => cases read

/-- The latest state under the text of an id. -/
def loadedState (orderId : String) (records : List Value) : Option OrderState :=
  (latestOf orderId none records).toOption.join

theorem loadedState_orderId {orderId : String} {records : List Value} {state : OrderState}
    (loaded : loadedState orderId records = some state) : state.orderId = orderId := by
  rw [loadedState, latestOf_eq] at loaded
  cases read : statesOf orderId records with
  | error error =>
    rw [read] at loaded
    cases loaded
  | ok states =>
    rw [read] at loaded
    have last : states.getLast? = some state := by simpa [Except.map, Except.toOption] using loaded
    exact statesOf_orderId read state (List.mem_of_getLast? last)

/-! ## The scan of a listing -/

/-- A mapping that is a state, if it has an id. -/
def Listable (record : Value) : Prop :=
  ∃ entries, record = .map entries ∧
    (listedId entries ≠ "" → ∃ state, stateFromPayload entries = .ok state)

/-- The state of a record that is listed under the id. -/
def stateListedAs (orderId : String) : Value → Option OrderState
  | .map record =>
    if listedId record ≠ "" ∧ listedId record = orderId then (stateFromPayload record).toOption
    else none
  | _ => none

/-- The latest state that is listed under an id. -/
def listedState (orderId : String) (records : List Value) : Option OrderState :=
  (records.filterMap (stateListedAs orderId)).getLast?

theorem listedId_eq {record : Mapping} (given : listedId record ≠ "") :
    listedId record = textAt record "order_id" := by
  unfold listedId at given ⊢
  cases present : (valueAt record "order_id").truth with
  | true => rw [orValue, if_pos present, textAt]
  | false =>
    rw [orValue, present] at given
    exact absurd rfl given

theorem listedState_orderId {orderId : String} {records : List Value} {state : OrderState}
    (listed : listedState orderId records = some state) : state.orderId = orderId := by
  obtain ⟨record, -, read⟩ := List.mem_filterMap.mp (List.mem_of_getLast? listed)
  cases record with
  | map record =>
    rw [stateListedAs] at read
    split at read
    · rename_i named
      rw [stateFromPayload_orderId (ok_of_toOption read), ← listedId_eq named.1, named.2]
    · cases read
  | _ => cases read

theorem listedState_cons (orderId : String) (record : Value) (rest : List Value) :
    listedState orderId (record :: rest) =
      (listedState orderId rest).or (stateListedAs orderId record) := by
  unfold listedState
  cases first : stateListedAs orderId record with
  | none => rw [List.filterMap_cons_none first, Option.or_none]
  | some state =>
    rw [List.filterMap_cons_some first, ← getLast?_cons_or state _ none, Option.or_none]

/-- A scan that returns has the latest state of each id. -/
theorem latestStates_ok {latest final : Dict String OrderState} {records : List Value}
    (read : latestStates latest records = .ok final) :
    (∀ record ∈ records, Listable record) ∧
      ∀ orderId, final.get? orderId = (listedState orderId records).or (latest.get? orderId) := by
  induction records generalizing latest with
  | nil =>
    obtain rfl := Except.ok.inj read
    exact ⟨fun _ absurdity => absurd absurdity List.not_mem_nil, fun orderId => rfl⟩
  | cons record rest ih =>
    cases record with
    | map record =>
      rw [latestStates] at read
      by_cases absent : listedId record = ""
      · rw [if_pos absent] at read
        obtain ⟨listable, found⟩ := ih read
        refine ⟨List.forall_mem_cons.mpr ⟨⟨record, rfl, fun given => absurd absent given⟩,
          listable⟩, fun orderId => ?_⟩
        have skipped : stateListedAs orderId (.map record) = none :=
          if_neg fun named => named.1 absent
        rw [listedState_cons, skipped, Option.or_none]
        exact found orderId
      · rw [if_neg absent] at read
        obtain ⟨state, converted, read⟩ := bind_ok read
        obtain ⟨listable, found⟩ := ih read
        refine ⟨List.forall_mem_cons.mpr ⟨⟨record, rfl, fun _ => ⟨state, converted⟩⟩,
          listable⟩, fun orderId => ?_⟩
        rw [found, Dict.get?_set, listedState_cons, stateListedAs, converted, Option.or_assoc]
        by_cases same : listedId record = orderId
        · rw [if_pos same, if_pos ⟨absent, same⟩]
          rfl
        · rw [if_neg same, if_neg fun named => same named.2, Option.none_or]
    | _ => cases read

theorem latestStates_of_listable {records : List Value}
    (listable : ∀ record ∈ records, Listable record) (latest : Dict String OrderState) :
    ∃ final, latestStates latest records = .ok final := by
  induction records generalizing latest with
  | nil => exact ⟨latest, rfl⟩
  | cons record rest ih =>
    obtain ⟨⟨record, rfl, converts⟩, later⟩ := List.forall_mem_cons.mp listable
    rw [latestStates]
    by_cases absent : listedId record = ""
    · rw [if_pos absent]
      exact ih later latest
    · obtain ⟨state, converted⟩ := converts absent
      rw [if_neg absent, converted]
      exact ih later (latest.set (listedId record) state)

/-! ## What a listing shows -/

namespace OrderFiles

variable {files : OrderFiles} {codec : Codec} {now mode : String} {filter : OrderFilter}
  {entries : List (String × OrderState)} {results : List (Option OrderEnvelope × OrderState)}

/-- What a listing shows of the state of an order. -/
def shown (files : OrderFiles) (now mode : String) (filter : OrderFilter)
    (entry : String × OrderState) : Option (Option OrderEnvelope × OrderState) :=
  if filter.passes entry.2 then
    ((files.envelope now mode entry.1).toOption.filter fun envelope =>
      !envelope.any filter.otherStrategy).map fun envelope => (envelope, entry.2)
  else none

theorem shown_eq_some_iff {entry : String × OrderState} {envelope : Option OrderEnvelope}
    {state : OrderState} : files.shown now mode filter entry = some (envelope, state) ↔
      entry.2 = state ∧ filter.passes state = true ∧
        files.envelope now mode entry.1 = .ok envelope ∧
        envelope.any filter.otherStrategy = false := by
  rw [shown]
  constructor
  · intro shows
    split at shows
    · rename_i passes
      obtain ⟨found, kept, same⟩ := Option.map_eq_some_iff.mp shows
      obtain ⟨rfl, rfl⟩ := Prod.mk.inj same
      obtain ⟨read, other⟩ := Option.filter_eq_some_iff.mp kept
      exact ⟨rfl, passes, ok_of_toOption read, by simpa using other⟩
    · cases shows
  · intro ⟨same, passes, read, other⟩
    rw [same, if_pos passes, read]
    simp [Except.toOption, other]

theorem listed_ok (read : files.listed now mode filter entries = .ok results) :
    results = entries.filterMap (files.shown now mode filter) ∧
      ∀ entry ∈ entries, filter.passes entry.2 = true →
        ∃ envelope, files.envelope now mode entry.1 = .ok envelope := by
  induction entries generalizing results with
  | nil =>
    obtain rfl := Except.ok.inj read
    exact ⟨rfl, fun _ absurdity => absurd absurdity List.not_mem_nil⟩
  | cons entry rest ih =>
    rw [listed] at read
    by_cases passes : filter.passes entry.2 = true
    · rw [if_neg (by simp [passes])] at read
      obtain ⟨envelope, found, read⟩ := bind_ok read
      obtain ⟨later, readLater, read⟩ := bind_ok read
      obtain ⟨same, envelopes⟩ := ih readLater
      refine ⟨?_, List.forall_mem_cons.mpr ⟨fun _ => ⟨envelope, found⟩, envelopes⟩⟩
      by_cases other : envelope.any filter.otherStrategy = true
      · have hidden : files.shown now mode filter entry = none := by
          rw [shown, if_pos passes, found]
          simp [Except.toOption, other]
        rw [if_pos other] at read
        rw [List.filterMap_cons_none hidden, ← same]
        exact (Except.ok.inj read).symm
      · have visible : files.shown now mode filter entry = some (envelope, entry.2) :=
          shown_eq_some_iff.mpr ⟨rfl, passes, found, by simpa using other⟩
        rw [if_neg other] at read
        rw [List.filterMap_cons_some visible, ← same]
        exact (Except.ok.inj read).symm
    · have hidden : files.shown now mode filter entry = none := if_neg passes
      rw [if_pos (by simpa using passes)] at read
      obtain ⟨same, envelopes⟩ := ih read
      rw [List.filterMap_cons_none hidden]
      exact ⟨same, List.forall_mem_cons.mpr ⟨fun passed => absurd passed passes, envelopes⟩⟩

theorem listed_of_envelopes (envelopes : ∀ entry ∈ entries, filter.passes entry.2 = true →
    ∃ envelope, files.envelope now mode entry.1 = .ok envelope) :
    ∃ results, files.listed now mode filter entries = .ok results := by
  induction entries with
  | nil => exact ⟨[], rfl⟩
  | cons entry rest ih =>
    obtain ⟨first, later⟩ := List.forall_mem_cons.mp envelopes
    obtain ⟨results, read⟩ := ih later
    rw [listed]
    by_cases passes : filter.passes entry.2 = true
    · obtain ⟨envelope, found⟩ := first passes
      rw [if_neg (by simp [passes]), found, read]
      by_cases other : envelope.any filter.otherStrategy = true
      · exact ⟨results, if_pos other⟩
      · exact ⟨(envelope, entry.2) :: results, if_neg other⟩
    · rw [if_pos (by simpa using passes)]
      exact ⟨results, read⟩

theorem sublist_shown (entries : List (String × OrderState)) :
    ((entries.filterMap (files.shown now mode filter)).map fun result =>
      result.2.orderId).Sublist (entries.map fun entry => entry.2.orderId) := by
  induction entries with
  | nil => exact .slnil
  | cons entry rest ih =>
    cases shows : files.shown now mode filter entry with
    | none =>
      rw [List.filterMap_cons_none shows]
      exact ih.cons _
    | some result =>
      rw [List.filterMap_cons_some shows, List.map_cons, List.map_cons,
        (shown_eq_some_iff.mp shows).1]
      exact ih.cons_cons _

/-- A listing that returns has each order once, with the states that pass and the
envelopes that are not of another strategy. -/
theorem list_ok (read : files.list codec now mode filter = .ok results) :
    (∀ record ∈ files.records codec mode, Listable record) ∧
      (∀ orderId state, listedState orderId (files.records codec mode) = some state →
        filter.passes state = true → ∃ envelope, files.envelope now mode orderId = .ok envelope) ∧
      (results.map fun result => result.2.orderId).Nodup ∧
      ∀ envelope state, (envelope, state) ∈ results ↔
        ∃ orderId, listedState orderId (files.records codec mode) = some state ∧
          filter.passes state = true ∧ files.envelope now mode orderId = .ok envelope ∧
          envelope.any filter.otherStrategy = false := by
  obtain ⟨latest, scanned, read⟩ := bind_ok read
  obtain ⟨listable, found⟩ := latestStates_ok scanned
  obtain ⟨rfl, envelopes⟩ := listed_ok read
  have entry_iff (orderId : String) (state : OrderState) : (orderId, state) ∈ latest.entries ↔
      listedState orderId (files.records codec mode) = some state := by
    rw [← latest.get?_eq_some_iff, found]
    exact Iff.of_eq (congrArg (· = some state) (Option.or_none))
  have named : latest.entries.map (fun entry => entry.2.orderId) = latest.entries.map Prod.fst :=
    List.map_congr_left fun entry member =>
      listedState_orderId ((entry_iff entry.1 entry.2).mp member)
  refine ⟨listable, fun orderId state held passes => ?_, ?_, fun envelope state => ?_⟩
  · exact envelopes (orderId, state) ((entry_iff orderId state).mpr held) passes
  · refine List.Nodup.sublist (sublist_shown latest.entries) ?_
    rw [named]
    exact latest.distinct
  · rw [List.mem_filterMap]
    constructor
    · intro ⟨⟨orderId, held⟩, member, shows⟩
      obtain ⟨rfl, passes, read, other⟩ := shown_eq_some_iff.mp shows
      exact ⟨orderId, (entry_iff orderId held).mp member, passes, read, other⟩
    · intro ⟨orderId, held, passes, read, other⟩
      exact ⟨(orderId, state), (entry_iff orderId state).mpr held,
        shown_eq_some_iff.mpr ⟨rfl, passes, read, other⟩⟩

theorem list_of_listable (listable : ∀ record ∈ files.records codec mode, Listable record)
    (envelopes : ∀ orderId state, listedState orderId (files.records codec mode) = some state →
      filter.passes state = true → ∃ envelope, files.envelope now mode orderId = .ok envelope) :
    ∃ results, files.list codec now mode filter = .ok results := by
  obtain ⟨latest, scanned⟩ := latestStates_of_listable listable Dict.empty
  obtain ⟨-, found⟩ := latestStates_ok scanned
  rw [list, scanned]
  refine listed_of_envelopes fun entry member passes => envelopes entry.1 entry.2 ?_ passes
  have held := latest.get?_eq_some_iff.mpr member
  rw [found] at held
  exact Option.or_none.symm.trans held

end OrderFiles

/-! ## Where the queries agree -/

section Agreement

variable (files : OrderFiles) (codec : Codec) (now mode : String) (filter : OrderFilter)

/-- Where a strategy is asked for, the envelope exists and has it. -/
def Wanted (filter : OrderFilter) (envelope : Option OrderEnvelope) : Prop :=
  truthy filter.strategyId = true → ∃ held, envelope = some held ∧ filter.otherStrategy held = false

/-- The state that is loaded is the last of the history, and the listing has exactly
what is loaded of each order that passes the filters, each of them once. -/
structure QueriesAgree : Prop where
  loads : ∀ orderId states, files.store.history codec orderId mode = .ok states →
    ∃ envelope, files.load codec now mode orderId = .ok (envelope, states.getLast?)
  lists : ∃ results, files.list codec now mode filter = .ok results ∧
    (results.map fun result => result.2.orderId).Nodup ∧
    ∀ envelope state, (envelope, state) ∈ results ↔
      ∃ orderId, files.load codec now mode orderId = .ok (envelope, some state) ∧
        filter.passes state = true ∧ Wanted filter envelope

/-- Every record can be listed, every envelope can be read, a listed order has one
where a strategy is asked for, and no record without an id decides what an order
that is wanted shows. -/
structure Unambiguous : Prop where
  records : ∀ record ∈ files.records codec mode, Listable record
  envelopes : ∀ orderId states, files.store.history codec orderId mode = .ok states →
    ∃ envelope, files.envelope now mode orderId = .ok envelope
  listed : ∀ orderId state, listedState orderId (files.records codec mode) = some state →
    filter.passes state = true → ∃ envelope, files.envelope now mode orderId = .ok envelope ∧
      (truthy filter.strategyId = true → envelope.isSome = true)
  named : ∀ orderId envelope, files.envelope now mode orderId = .ok envelope →
    Wanted filter envelope →
    (listedState orderId (files.records codec mode)).filter filter.passes =
      (loadedState orderId (files.records codec mode)).filter filter.passes

variable {files codec now mode filter}

theorem otherStrategy_of_wanted {envelope : Option OrderEnvelope}
    (wanted : Wanted filter envelope) : envelope.any filter.otherStrategy = false := by
  cases asked : truthy filter.strategyId with
  | true =>
    obtain ⟨held, rfl, same⟩ := wanted asked
    exact same
  | false =>
    have never (held : OrderEnvelope) : filter.otherStrategy held = false := by
      rw [OrderFilter.otherStrategy]
      cases given : filter.strategyId with
      | none => rfl
      | some strategyId =>
        rw [given, truthy_some] at asked
        simp only [asked, Bool.false_and]
    cases envelope with
    | none => rfl
    | some held => exact never held

theorem wanted_of_otherStrategy {envelope : Option OrderEnvelope}
    (present : truthy filter.strategyId = true → envelope.isSome = true)
    (same : envelope.any filter.otherStrategy = false) : Wanted filter envelope := by
  intro asked
  obtain ⟨held, rfl⟩ := Option.isSome_iff_exists.mp (present asked)
  exact ⟨held, rfl, same⟩

theorem load_ok_iff {orderId : String} {envelope : Option OrderEnvelope} {state : OrderState} :
    files.load codec now mode orderId = .ok (envelope, some state) ↔
      files.envelope now mode orderId = .ok envelope ∧
        loadedState orderId (files.records codec mode) = some state := by
  rw [loadedState]
  constructor
  · intro loaded
    obtain ⟨found, read, loaded⟩ := bind_ok loaded
    obtain ⟨latest, scanned, loaded⟩ := bind_ok loaded
    obtain ⟨rfl, rfl⟩ := Prod.mk.inj (Except.ok.inj loaded)
    rw [scanned]
    exact ⟨read, rfl⟩
  · intro ⟨read, latest⟩
    have scanned : latestOf orderId none (files.records codec mode) = .ok (some state) := by
      cases scanned : latestOf orderId none (files.records codec mode) with
      | error error =>
        rw [scanned] at latest
        cases latest
      | ok found =>
        rw [scanned] at latest
        exact congrArg Except.ok latest
    rw [OrderFiles.load, read, scanned]
    rfl

/-- What is listed of a wanted order is what is loaded of it. -/
theorem QueriesAgree.named (agree : QueriesAgree files codec now mode filter) {orderId : String}
    {envelope : Option OrderEnvelope} (read : files.envelope now mode orderId = .ok envelope)
    (wanted : Wanted filter envelope) :
    (listedState orderId (files.records codec mode)).filter filter.passes =
      (loadedState orderId (files.records codec mode)).filter filter.passes := by
  obtain ⟨results, listed, -, due⟩ := agree.lists
  obtain ⟨-, -, -, shows⟩ := OrderFiles.list_ok listed
  apply Option.ext
  intro state
  rw [Option.filter_eq_some_iff, Option.filter_eq_some_iff]
  refine and_congr_left fun passes => ?_
  constructor
  · intro held
    have member := (shows envelope state).mpr
      ⟨orderId, held, passes, read, otherStrategy_of_wanted wanted⟩
    obtain ⟨other, loaded, -, -⟩ := (due envelope state).mp member
    have found := (load_ok_iff.mp loaded).2
    rwa [← loadedState_orderId found, listedState_orderId held] at found
  · intro found
    have member := (due envelope state).mpr
      ⟨orderId, load_ok_iff.mpr ⟨read, found⟩, passes, wanted⟩
    obtain ⟨other, held, -⟩ := (shows envelope state).mp member
    rwa [← listedState_orderId held, loadedState_orderId found] at held

/-- Loading, the history and a listing agree exactly where the records and the
envelopes are unambiguous. -/
theorem queriesAgree_iff :
    QueriesAgree files codec now mode filter ↔ Unambiguous files codec now mode filter := by
  constructor
  · intro agree
    obtain ⟨results, listed, -, due⟩ := agree.lists
    obtain ⟨listable, envelopes, -, shows⟩ := OrderFiles.list_ok listed
    refine ⟨listable, fun orderId states read => ?_, fun orderId state held passes => ?_,
      fun orderId envelope => agree.named⟩
    · obtain ⟨envelope, loaded⟩ := agree.loads orderId states read
      obtain ⟨found, read, loaded⟩ := bind_ok loaded
      exact ⟨found, read⟩
    · obtain ⟨envelope, read⟩ := envelopes orderId state held passes
      refine ⟨envelope, read, fun asked => ?_⟩
      cases envelope with
      | some envelope => rfl
      | none =>
        have member := (shows none state).mpr ⟨orderId, held, passes, read, rfl⟩
        obtain ⟨other, -, -, wanted⟩ := (due none state).mp member
        obtain ⟨envelope, absurdity, -⟩ := wanted asked
        cases absurdity
  · intro clear
    refine ⟨fun orderId states read => ?_, ?_⟩
    · obtain ⟨envelope, found⟩ := clear.envelopes orderId states read
      refine ⟨envelope, ?_⟩
      rw [OrderFiles.load, found, latestOf_history, read]
      rfl
    · have envelopes : ∀ orderId state,
          listedState orderId (files.records codec mode) = some state →
          filter.passes state = true →
          ∃ envelope, files.envelope now mode orderId = .ok envelope := by
        intro orderId state held passes
        obtain ⟨envelope, read, -⟩ := clear.listed orderId state held passes
        exact ⟨envelope, read⟩
      obtain ⟨results, listed⟩ := OrderFiles.list_of_listable clear.records envelopes
      obtain ⟨-, -, once, shows⟩ := OrderFiles.list_ok listed
      refine ⟨results, listed, once, fun envelope state => ?_⟩
      rw [shows]
      constructor
      · intro ⟨orderId, held, passes, read, same⟩
        obtain ⟨other, again, present⟩ := clear.listed orderId state held passes
        obtain rfl := Except.ok.inj (again.symm.trans read)
        have wanted := wanted_of_otherStrategy present same
        have kept := Option.filter_eq_some_iff.mpr ⟨held, passes⟩
        rw [clear.named orderId other read wanted] at kept
        have found := (Option.filter_eq_some_iff.mp kept).1
        exact ⟨orderId, load_ok_iff.mpr ⟨read, found⟩, passes, wanted⟩
      · intro ⟨orderId, loaded, passes, wanted⟩
        obtain ⟨read, found⟩ := load_ok_iff.mp loaded
        have kept := Option.filter_eq_some_iff.mpr ⟨found, passes⟩
        rw [← clear.named orderId envelope read wanted] at kept
        exact ⟨orderId, (Option.filter_eq_some_iff.mp kept).1, passes, read,
          otherStrategy_of_wanted wanted⟩

end Agreement

/-! ## An order without an envelope -/

def acceptedRecord : Mapping :=
  [("order_id", .str "order-1"), ("status", .str "queued"), ("last_transition", .str ""),
    ("evidence_hash", .str "")]

/-- The line of an order in the file of a day, and no envelope. -/
def unnamedOrder : OrderFiles where
  store := { files := fun _ => Directory.empty.put 0 {
    bytes := Utf8.encode (Json.dumps false (.map acceptedRecord) ++ ['\n']), mtime := 0 } }

/-- An order without an envelope is listed under every strategy. -/
theorem unnamedOrder_listed :
    ¬ QueriesAgree unnamedOrder jsonCodec "" "paper" { strategyId := some "trend" } := by
  have present :
      (listedState "order-1" (unnamedOrder.records jsonCodec "paper")).isSome = true := by
    decide +kernel
  obtain ⟨state, held⟩ := Option.isSome_iff_exists.mp present
  intro agree
  obtain ⟨results, listed, -, due⟩ := agree.lists
  obtain ⟨-, -, -, shows⟩ := OrderFiles.list_ok listed
  have member := (shows none state).mpr ⟨"order-1", held, rfl, rfl, rfl⟩
  obtain ⟨other, -, -, wanted⟩ := (due none state).mp member
  obtain ⟨envelope, absurdity, -⟩ := wanted (by decide)
  cases absurdity

end FxToushi.Brokers
