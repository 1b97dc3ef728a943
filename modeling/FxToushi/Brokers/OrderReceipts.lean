import FxToushi.Brokers.OrderArchive
import FxToushi.Brokers.OrderLifecycle
import FxToushi.Py.JsonQuoting

namespace FxToushi.Brokers

open Data Py

/-! # The receipts of an order

An acknowledgement and a fill are receipts: once a saved state has one, the state
that is loaded should have it in every later state of a run.
-/

inductive Receipt where
  | ackReceivedAt
  | fillSummary
deriving Repr, DecidableEq

def Receipt.of : Receipt → OrderState → Value
  | .ackReceivedAt, state => state.ackReceivedAt
  | .fillSummary, state => state.fillSummary

def Receipt.key : Receipt → String
  | .ackReceivedAt => "ack_received_at"
  | .fillSummary => "fill_summary"

theorem Receipt.of_recorded (receipt : Receipt) (state : OrderState) :
    receipt.of state.recorded = receipt.of state := by
  cases receipt <;> rfl

/-- The newest value that is not empty. -/
def lastGiven (receipt : Receipt) (states : List OrderState) : Option Value :=
  ((states.map receipt.of).filter Value.truth).getLast?

theorem lastGiven_concat (receipt : Receipt) (states : List OrderState) (state : OrderState) :
    lastGiven receipt (states ++ [state]) =
      if (receipt.of state).truth then some (receipt.of state) else lastGiven receipt states := by
  rw [lastGiven, List.map_append, List.filter_append, List.map_singleton]
  cases given : (receipt.of state).truth with
  | true => simp [given]
  | false => simp [given, lastGiven]

theorem truth_of_lastGiven {receipt : Receipt} {states : List OrderState} {value : Value}
    (last : lastGiven receipt states = some value) : value.truth = true :=
  List.of_mem_filter (List.mem_of_getLast? last)

theorem lastGiven_isSome {receipt : Receipt} {states : List OrderState} {state : OrderState}
    (member : state ∈ states) (given : (receipt.of state).truth = true) :
    ∃ value, lastGiven receipt states = some value := by
  have kept : receipt.of state ∈ (states.map receipt.of).filter Value.truth :=
    List.mem_filter.mpr ⟨List.mem_map_of_mem member, given⟩
  exact ⟨_, List.getLast?_eq_some_getLast (List.ne_nil_of_mem kept)⟩

namespace OrderStateStore

/-- What a receipt was last given by a saved state is loaded. -/
def KeepsReceipts (codec : Codec) (store : OrderStateStore) : Prop :=
  ∀ mode orderId receipt value, lastGiven receipt (store.savedFor mode orderId) = some value →
    ∃ state, store.latestState codec orderId mode = .ok (some state) ∧ receipt.of state = value

/-- A file of a later day has a record of the order, as after a clock was set
back. -/
def Overshadowed (codec : Codec) (store : OrderStateStore) (mode orderId : String) (now : Int) :
    Prop :=
  ∃ entry ∈ (store.files mode).entries, dateOf now < entry.1 ∧ Mentions codec orderId entry

/-- The receipt of the loaded state. -/
def carried (codec : Codec) (store : OrderStateStore) (mode orderId : String)
    (receipt : Receipt) : Value :=
  match store.latestState codec orderId mode with
  | .ok (some state) => receipt.of state
  | _ => .null

end OrderStateStore

/-! ## Reading what was saved -/

/-- What the JSON library does with the documents of some states: each loads
again and stands on one line. -/
structure ReadsBack (codec : Codec) (states : OrderState → Prop) : Prop where
  loads : ∀ state, states state → codec.loads (document codec state) = some (.map state.toDict)
  plain : ∀ state, states state → Plain (document codec state)
  visible : ∀ state, states state → (document codec state).all isAsciiSpace = false

def asValue (state : OrderState) : Value := .map state.toDict

section Files

variable {codec : Codec} {states : OrderState → Prop}

theorem readJsonl_frame (reads : ReadsBack codec states) {written : List OrderState}
    (good : ∀ state ∈ written, states state) :
    readJsonl codec (frame (written.map (document codec))) = written.map asValue := by
  have plain : ∀ record ∈ written.map (document codec), Plain record :=
    List.forall_mem_map.mpr fun state member => reads.plain state (good state member)
  have lines := splitLines_frame plain (⟨List.not_mem_nil, List.not_mem_nil⟩ : Plain [])
  rw [List.append_nil, if_pos rfl, List.append_nil] at lines
  have loaded : ∀ state ∈ written, loadLine codec (document codec state) =
      some (asValue state) := by
    intro state member
    rw [loadLine, if_neg (by rw [reads.visible state (good state member)]; decide),
      reads.loads state (good state member), asValue]
    rfl
  rw [readJsonl, lines, List.filterMap_map, ← List.filterMap_eq_map]
  exact List.filterMap_congr loaded

theorem statesFor_append (orderId : String) (left right : List OrderState) :
    statesFor orderId (left ++ right) = statesFor orderId left ++ statesFor orderId right := by
  rw [statesFor, List.filter_append, List.map_append, statesFor, statesFor]

theorem statesFor_cons (orderId : String) (state : OrderState) (rest : List OrderState) :
    statesFor orderId (state :: rest) =
      (if state.orderId = orderId then [state.recorded] else []) ++ statesFor orderId rest := by
  by_cases same : state.orderId = orderId
  · simp [statesFor, same]
  · simp [statesFor, same]

theorem statesOf_asValue (orderId : String) (listed : List OrderState) :
    statesOf orderId (listed.map asValue) = .ok (statesFor orderId listed) :=
  statesOf_map orderId listed

end Files

namespace OrderStateStore

/-- The records of a mode are those of states that were saved. -/
def ListsStates (codec : Codec) (store : OrderStateStore) (mode : String)
    (listed : List OrderState) :
    Prop :=
  store.records codec mode = listed.map asValue ∧
    ∀ orderId, ∀ state ∈ statesFor orderId listed, state ∈ store.savedFor mode orderId

/-- Every file has the documents of saved states, and nothing else. -/
structure Archived (codec : Codec) (states : OrderState → Prop) (store : OrderStateStore) :
    Prop where
  files : ∀ mode, ∀ entry ∈ (store.files mode).entries, ∃ written : List OrderState,
    (∀ state ∈ written, states state) ∧
      entry.2.bytes = frame (written.map (document codec))
  lists : ∀ mode, ∃ listed, ListsStates codec store mode listed

theorem archived_empty {codec : Codec} {states : OrderState → Prop} :
    Archived codec states {} where
  files := fun _ _ absurdity => by cases absurdity
  lists := fun _ => ⟨[], rfl, fun _ _ absurdity => by cases absurdity⟩

section Save

variable {codec : Codec} {states : OrderState → Prop} {store : OrderStateStore} {mode : String}
  {state : OrderState} {now : Int}

theorem latestState_of_records {listed : List OrderState}
    (recorded : store.records codec mode = listed.map asValue) (orderId : String) :
    store.latestState codec orderId mode = .ok (statesFor orderId listed).getLast? := by
  rw [latestState, history, recorded, statesOf_asValue]
  rfl

theorem Archived.held (archived : Archived codec states store) (mode : String) (now : Int) :
    ∃ written : List OrderState, (∀ state ∈ written, states state) ∧
      store.held mode now = frame (written.map (document codec)) := by
  unfold OrderStateStore.held
  cases found : (store.files mode).get? (dateOf now) with
  | none => exact ⟨[], List.forall_mem_nil _, rfl⟩
  | some file => exact archived.files mode _ (Directory.mem_of_get? found)

/-- A save puts its state after the records of its day and before those of later
days. -/
theorem records_save (reads : ReadsBack codec states) (archived : Archived codec states store)
    (good : states state) {listed : List OrderState} (lists : ListsStates codec store mode listed)
    (now : Int) : ∃ early late, listed = early ++ late ∧
      ((store.files mode).after (dateOf now)).flatMap (fun entry => readJsonl codec entry.2.bytes) =
        late.map asValue ∧
      (step codec store (.completed mode state now)).records codec mode =
        (early ++ state :: late).map asValue := by
  obtain ⟨written, goodWritten, held⟩ := archived.held mode now
  have readHeld := readJsonl_frame reads goodWritten
  have before := Directory.flatMap_split (fun file => readJsonl codec file.bytes)
    (store.files mode) (dateOf now)
  have heldRead : ((store.files mode).get? (dateOf now)).toList.flatMap
      (fun file => readJsonl codec file.bytes) = written.map asValue := by
    rw [← readHeld, ← held, OrderStateStore.held]
    cases (store.files mode).get? (dateOf now) with
    | none => rfl
    | some file => simp
  have recorded := lists.1
  rw [records, before, heldRead, ← List.append_assoc] at recorded
  obtain ⟨early, late, rfl, readEarly, readLate⟩ := List.map_eq_append_iff.mp recorded.symm
  refine ⟨early, late, rfl, readLate.symm, ?_⟩
  have grown : ∀ other ∈ written ++ [state], states other := by
    intro other member
    rcases List.mem_append.mp member with old | new
    · exact goodWritten other old
    · rw [List.mem_singleton.mp new]
      exact good
  have readGrown := readJsonl_frame reads grown
  have content : frame ((written ++ [state]).map (document codec)) =
      store.held mode now ++ (document codec state ++ [lineFeed]) := by
    rw [held, List.map_append, frame_append, List.map_singleton]
    simp [frame]
  have after : (step codec store (.completed mode state now)).records codec mode =
      ((store.files mode).put (dateOf now)
        { bytes := store.held mode now ++ (document codec state ++ [lineFeed])
          mtime := now }).entries.flatMap (fun entry => readJsonl codec entry.2.bytes) := by
    rw [records, step, append]
    simp only [Function.update_self]
  rw [after, Directory.flatMap_put (fun file : DailyFile => readJsonl codec file.bytes), ← content,
    readGrown, ← readLate, List.map_append, List.map_append, List.map_cons, readEarly]
  simp

theorem files_save_of_ne {other : String} (different : other ≠ mode) :
    (step codec store (.completed mode state now)).files other = store.files other := by
  rw [step, append]
  exact Function.update_of_ne different _ _

theorem savedFor_save (other orderId : String) :
    (step codec store (.completed mode state now)).savedFor other orderId =
      store.savedFor other orderId ++
        if mode = other ∧ state.orderId = orderId then [state.recorded] else [] :=
  savedFor_concat rfl other orderId

theorem Archived.save (reads : ReadsBack codec states) (archived : Archived codec states store)
    (good : states state) : Archived codec states (step codec store
      (.completed mode state now)) where
  files := by
    intro other entry member
    by_cases same : other = mode
    · subst same
      rw [step, append] at member
      simp only [Function.update_self] at member
      rcases Directory.mem_put member with rfl | ⟨-, old⟩
      · obtain ⟨written, goodWritten, held⟩ := archived.held other now
        refine ⟨written ++ [state], ?_, ?_⟩
        · intro saved member
          rcases List.mem_append.mp member with old | new
          · exact goodWritten saved old
          · rw [List.mem_singleton.mp new]
            exact good
        · rw [List.map_append, frame_append, ← held, List.map_singleton]
          simp [frame]
      · exact archived.files other entry old
    · rw [files_save_of_ne same] at member
      exact archived.files other entry member
  lists := by
    intro other
    obtain ⟨listed, lists⟩ := archived.lists other
    by_cases same : other = mode
    · subst same
      obtain ⟨early, late, rfl, -, after⟩ := records_save reads archived good lists now
      refine ⟨early ++ state :: late, after, ?_⟩
      intro orderId saved member
      rw [savedFor_save]
      rw [statesFor_append, statesFor_cons] at member
      have old := lists.2 orderId saved
      rw [statesFor_append] at old
      rcases List.mem_append.mp member with inEarly | later
      · exact List.mem_append_left _ (old (List.mem_append_left _ inEarly))
      · rcases List.mem_append.mp later with new | inLate
        · by_cases isOrder : state.orderId = orderId
          · rw [if_pos isOrder] at new
            rw [if_pos ⟨rfl, isOrder⟩]
            exact List.mem_append_right _ new
          · rw [if_neg isOrder] at new
            cases new
        · exact List.mem_append_left _ (old (List.mem_append_right _ inLate))
    · refine ⟨listed, ?_, ?_⟩
      · rw [records, files_save_of_ne same]
        exact lists.1
      · intro orderId saved member
        rw [savedFor_save, if_neg (fun both => same both.1.symm), List.append_nil]
        exact lists.2 orderId saved member

/-! ## Loading after a save -/

/-- What is listed after the day of a save mentions an order where a later day's
file does. -/
theorem overshadowed_iff {late : List OrderState} {orderId : String}
    (read : ((store.files mode).after (dateOf now)).flatMap
      (fun entry => readJsonl codec entry.2.bytes) = late.map asValue) :
    Overshadowed codec store mode orderId now ↔ statesFor orderId late ≠ [] := by
  have listed := statesOf_asValue orderId late
  rw [← read] at listed
  have inAfter : ∀ entry, entry ∈ (store.files mode).after (dateOf now) ↔
      entry ∈ (store.files mode).entries ∧ dateOf now < entry.1 := by
    intro entry
    rw [Directory.after, List.mem_filter, decide_eq_true_eq]
  constructor
  · intro overshadowed
    obtain ⟨entry, member, later, mentions⟩ := overshadowed
    exact states_of_mentions listed ((inAfter entry).mpr ⟨member, later⟩) mentions
  · intro some_state
    by_contra unshadowed
    refine some_state ((statesOf_eq_nil_iff orderId listed).mpr ?_)
    intro record member same
    obtain ⟨entry, inFile, isRecord⟩ := List.mem_flatMap.mp member
    obtain ⟨live, later⟩ := (inAfter entry).mp inFile
    exact unshadowed ⟨entry, live, later, record, isRecord, same⟩

theorem latestState_save (reads : ReadsBack codec states) (archived : Archived codec states store)
    (good : states state) (unshadowed : ¬ Overshadowed codec store mode state.orderId now) :
    (step codec store (.completed mode state now)).latestState codec state.orderId mode =
      .ok (some state.recorded) := by
  obtain ⟨listed, lists⟩ := archived.lists mode
  obtain ⟨early, late, rfl, read, after⟩ := records_save reads archived good lists now
  have none_later : statesFor state.orderId late = [] :=
    not_not.mp ((not_congr (overshadowed_iff read)).mp unshadowed)
  rw [latestState_of_records after, statesFor_append, statesFor_cons, none_later, if_pos rfl,
    List.append_nil, List.getLast?_concat]

theorem latestState_overshadowed (reads : ReadsBack codec states)
    (archived : Archived codec states store) (good : states state)
    (overshadowed : Overshadowed codec store mode state.orderId now) :
    (step codec store (.completed mode state now)).latestState codec state.orderId mode =
      store.latestState codec state.orderId mode := by
  obtain ⟨listed, lists⟩ := archived.lists mode
  obtain ⟨early, late, rfl, read, after⟩ := records_save reads archived good lists now
  have some_later := (overshadowed_iff read).mp overshadowed
  rw [latestState_of_records lists.1, latestState_of_records after, statesFor_append,
    statesFor_append, statesFor_cons, ← List.append_assoc,
    List.getLast?_append_of_ne_nil _ some_later, List.getLast?_append_of_ne_nil _ some_later]

theorem latestState_other (reads : ReadsBack codec states)
    (archived : Archived codec states store) (good : states state) {other orderId : String}
    (different : ¬ (mode = other ∧ state.orderId = orderId)) :
    (step codec store (.completed mode state now)).latestState codec orderId other =
      store.latestState codec orderId other := by
  by_cases same : other = mode
  · subst same
    obtain ⟨listed, lists⟩ := archived.lists other
    obtain ⟨early, late, rfl, -, after⟩ := records_save reads archived good lists now
    rw [latestState_of_records lists.1, latestState_of_records after, statesFor_append,
      statesFor_append, statesFor_cons, if_neg (fun isOrder => different ⟨rfl, isOrder⟩),
      List.nil_append]
  · rw [latestState, history, records, files_save_of_ne same]
    rfl

/-! ## What a save has to supply -/

/-- A save that is loaded supplies the receipts that the loaded state has; one
that a later day's file overshadows supplies no other. -/
def SuppliesReceipts (codec : Codec) (store : OrderStateStore) (mode orderId : String)
    (now : Int) (supplied : Receipt → Value) : Prop :=
  ∀ receipt,
    (¬ Overshadowed codec store mode orderId now →
      (carried codec store mode orderId receipt).truth = true → (supplied receipt).truth = true) ∧
    (Overshadowed codec store mode orderId now → (supplied receipt).truth = true →
      supplied receipt = carried codec store mode orderId receipt)

theorem carried_of_lastGiven (keeps : KeepsReceipts codec store) {orderId : String}
    {receipt : Receipt} {value : Value}
    (last : lastGiven receipt (store.savedFor mode orderId) = some value) :
    carried codec store mode orderId receipt = value := by
  obtain ⟨loaded, isLatest, same⟩ := keeps mode orderId receipt value last
  rw [carried, isLatest]
  exact same

theorem lastGiven_of_carried (archived : Archived codec states store)
    (keeps : KeepsReceipts codec store) {orderId : String} {receipt : Receipt}
    (given : (carried codec store mode orderId receipt).truth = true) :
    lastGiven receipt (store.savedFor mode orderId) =
      some (carried codec store mode orderId receipt) := by
  obtain ⟨listed, lists⟩ := archived.lists mode
  have isLatest := latestState_of_records lists.1 orderId
  cases last : (statesFor orderId listed).getLast? with
  | none =>
    rw [carried, isLatest, last] at given
    cases given
  | some loaded =>
    rw [carried, isLatest, last] at given
    have wasSaved := lists.2 orderId loaded (List.mem_of_getLast? last)
    obtain ⟨value, isLast⟩ := lastGiven_isSome wasSaved given
    rw [isLast, carried_of_lastGiven keeps isLast]

theorem keepsReceipts_save_iff (reads : ReadsBack codec states)
    (archived : Archived codec states store) (keeps : KeepsReceipts codec store)
    (good : states state) :
    KeepsReceipts codec (step codec store (.completed mode state now)) ↔
      SuppliesReceipts codec store mode state.orderId now (fun receipt => receipt.of state) := by
  have savedHere : ∀ receipt, lastGiven receipt
      ((step codec store (.completed mode state now)).savedFor mode state.orderId) =
        if (receipt.of state).truth then some (receipt.of state)
        else lastGiven receipt (store.savedFor mode state.orderId) := by
    intro receipt
    rw [savedFor_save, if_pos ⟨rfl, rfl⟩, lastGiven_concat, receipt.of_recorded]
  constructor
  · intro keepsAfter receipt
    constructor
    · intro unshadowed given
      by_contra missing
      change ¬ (receipt.of state).truth = true at missing
      have last := lastGiven_of_carried archived keeps given
      have stillLast := savedHere receipt
      rw [if_neg missing, last] at stillLast
      obtain ⟨loaded, isLatest, same⟩ := keepsAfter mode state.orderId receipt _ stillLast
      rw [latestState_save reads archived good unshadowed] at isLatest
      obtain rfl := Option.some.inj (Except.ok.inj isLatest)
      rw [receipt.of_recorded] at same
      refine missing ?_
      rw [same]
      exact given
    · intro overshadowed given
      have last := savedHere receipt
      rw [if_pos given] at last
      obtain ⟨loaded, isLatest, same⟩ := keepsAfter mode state.orderId receipt _ last
      rw [latestState_overshadowed reads archived good overshadowed] at isLatest
      rw [carried, isLatest]
      exact same.symm
  · intro supplies other orderId receipt value last
    by_cases here : mode = other ∧ state.orderId = orderId
    · obtain ⟨rfl, rfl⟩ := here
      rw [savedHere receipt] at last
      obtain ⟨whenLoaded, whenShadowed⟩ := supplies receipt
      by_cases overshadowed : Overshadowed codec store mode state.orderId now
      · rw [latestState_overshadowed reads archived good overshadowed]
        by_cases given : (receipt.of state).truth = true
        · rw [if_pos given] at last
          have same : receipt.of state = carried codec store mode state.orderId receipt :=
            whenShadowed overshadowed given
          rw [same] at last given
          rw [← Option.some.inj last]
          exact keeps mode state.orderId receipt _ (lastGiven_of_carried archived keeps given)
        · rw [if_neg given] at last
          exact keeps mode state.orderId receipt value last
      · refine ⟨_, latestState_save reads archived good overshadowed, ?_⟩
        rw [receipt.of_recorded]
        by_cases given : (receipt.of state).truth = true
        · rw [if_pos given] at last
          exact Option.some.inj last
        · rw [if_neg given] at last
          have hasCarried := truth_of_lastGiven last
          rw [← carried_of_lastGiven keeps last] at hasCarried
          exact absurd (whenLoaded overshadowed hasCarried) given
    · rw [savedFor_save, if_neg here, List.append_nil] at last
      rw [latestState_other reads archived good here]
      exact keeps other orderId receipt value last

end Save

end OrderStateStore

open OrderStateStore

/-! ## What a call saves -/

namespace Call

def orderId : Call → String
  | .create orderId _ _ => orderId
  | .updateState orderId _ _ _ => orderId
  | .attachFill orderId _ _ _ => orderId
  | .scheduleRecovery orderId _ _ _ _ => orderId
  | .finalize orderId _ => orderId

def mode : Call → String
  | .create _ ticket _ => ticketMode ticket
  | .updateState _ _ mode _ => mode
  | .attachFill _ mode _ _ => mode
  | .scheduleRecovery _ mode _ _ _ => mode
  | .finalize _ mode => mode

/-- The receipt that a call is given for the state it saves. -/
def supplied (around : Surroundings) (receipt : Receipt) : Call → Value
  | .updateState _ _ _ payload => valueAt payload.entries receipt.key
  | .attachFill _ _ fillEvent _ => valueAt (fillPayload around fillEvent) receipt.key
  | _ => .null

/-- The checks that a call meets before it saves. -/
def Accepted (around : Surroundings) : Call → Prop
  | .create _ ticket stageGuardCtx =>
    stageFor around stageGuardCtx ≠ "manual_only" ∧
      (stageFor around stageGuardCtx = "reduce_only" →
        ((ticket.get? "reduce_only").getD (.bool false)).truth = true) ∧
      ∃ snapshot, dictOf (orValue (valueAt ticket "risk_snapshot") (.map [])) = .ok snapshot
  | .updateState _ _ _ payload =>
    (∀ given, payload.entries.get? "attempt" = some given → given.toInt?.isSome = true) ∧
      (payload.recoveryPlan = none →
        (valueAt payload.entries "recovery_plan").truth = false)
  | .attachFill .. => True
  | .scheduleRecovery _ _ brokerCode _ _ =>
    ∃ found, around.planner.descriptorFor brokerCode = some found ∧
      ∀ key ∈ found.requiredContext, ∃ text, key = .str text
  | .finalize .. => True

end Call

section Requests

variable {around : Surroundings} {orders : Orders} {moment : Moment}

theorem attempt_ok_iff (payload : Payload) (current : Option OrderState) :
    (∃ attempt, payload.attempt current = .ok attempt) ↔
      ∀ given, payload.entries.get? "attempt" = some given → given.toInt?.isSome = true := by
  unfold Payload.attempt Value.toInt
  cases payload.entries.get? "attempt" with
  | none => exact iff_of_true ⟨_, rfl⟩ (fun given absurdity => by cases absurdity)
  | some given =>
    cases converted : given.toInt? with
    | none => simp [converted]
    | some attempt => simp [converted]

theorem plan_ok_iff (payload : Payload) :
    (∃ plan, payload.plan = .ok plan) ↔
      (payload.recoveryPlan = none → (valueAt payload.entries "recovery_plan").truth = false) := by
  unfold Payload.plan
  cases payload.recoveryPlan with
  | some plan => exact iff_of_true ⟨_, rfl⟩ nofun
  | none =>
    cases given : (valueAt payload.entries "recovery_plan").truth with
    | true => simp
    | false => simp

theorem nextState_spec {current : Option OrderState} {orderId status : String} {payload : Payload}
    {state : OrderState}
    (made : nextState around current orderId status payload moment = .ok state) :
    state.orderId = orderId ∧
      ∀ receipt : Receipt, receipt.of state = valueAt payload.entries receipt.key := by
  obtain ⟨attempt, -, made⟩ := bind_ok made
  obtain ⟨plan, -, made⟩ := bind_ok made
  obtain rfl := Except.ok.inj made
  refine ⟨rfl, fun receipt => ?_⟩
  cases receipt <;> rfl

theorem nextState_ok_iff (current : Option OrderState) (orderId status : String)
    (payload : Payload) :
    (∃ state, nextState around current orderId status payload moment = .ok state) ↔
      (∃ attempt, payload.attempt current = .ok attempt) ∧
        ∃ plan, payload.plan = .ok plan := by
  unfold nextState
  cases payload.attempt current with
  | error error => simp [bind, Except.bind]
  | ok attempt =>
    cases payload.plan with
    | error error => simp [bind, Except.bind]
    | ok plan => simp [bind, Except.bind, pure, Except.pure]

/-- The orders after a call that saves a state with some receipts, or none. -/
def Saves (around : Surroundings) (orders : Orders) (moment : Moment) (mode orderId : String)
    (supplied : Receipt → Value) (after : Orders) : Prop :=
  ∃ state, after.store = orders.store.step around.codec (.completed mode state moment.now) ∧
    state.orderId = orderId ∧ ∀ receipt, receipt.of state = supplied receipt

theorem load_ok {orderId mode : String} {current : Option OrderState}
    (loaded : orders.store.latestState around.codec orderId mode = .ok current) :
    around.load orders orderId mode = .ok current := by
  rw [Surroundings.load, loaded]

theorem updateState_saves {orderId status mode : String} {payload : Payload}
    {current : Option OrderState}
    (loaded : orders.store.latestState around.codec orderId mode = .ok current)
    (converts : ∃ attempt, payload.attempt current = .ok attempt)
    (planned : ∃ plan, payload.plan = .ok plan) :
    Saves around orders moment mode orderId
      (fun receipt => valueAt payload.entries receipt.key)
      (updateState around orders orderId status mode payload moment).1 := by
  have accepted : ∃ state, nextState around current orderId status payload moment = .ok state :=
    (nextState_ok_iff current orderId status payload).mpr ⟨converts, planned⟩
  obtain ⟨state, made⟩ := accepted
  obtain ⟨isOrder, receipts⟩ := nextState_spec made
  refine ⟨state, ?_, isOrder, receipts⟩
  rw [updateState, load_ok loaded]
  simp only [made]
  rfl

theorem updateState_refused {orderId status mode : String} {payload : Payload}
    {current : Option OrderState}
    (loaded : orders.store.latestState around.codec orderId mode = .ok current)
    (refused : ¬ ((∃ attempt, payload.attempt current = .ok attempt) ∧
      ∃ plan, payload.plan = .ok plan)) :
    (updateState around orders orderId status mode payload moment).1 = orders := by
  rw [updateState, load_ok loaded]
  cases made : nextState around current orderId status payload moment with
  | error error => simp only [made]
  | ok state =>
    exact absurd ((nextState_ok_iff current orderId status payload).mp ⟨state, made⟩) refused

theorem plan_ok_of_descriptor {orderId brokerCode stage planId utcnow : String} {attempt : Int}
    {last : Option String} {context : Mapping} {planner : RecoveryPlanner}
    {found : BrokerErrorDescriptor} (descriptor : planner.descriptorFor brokerCode = some found)
    (named : ∀ key ∈ found.requiredContext, ∃ text, key = .str text) :
    ∃ plan, planner.plan orderId brokerCode stage attempt last context planId utcnow =
      .ok plan := by
  have keys : ∃ keys, tryMap requiredKey found.requiredContext = .ok keys := by
    refine tryMap_ok_iff.mpr fun key member => ?_
    obtain ⟨text, rfl⟩ := named key member
    exact ⟨text, rfl⟩
  obtain ⟨keys, read⟩ := keys
  unfold RecoveryPlanner.plan
  rw [descriptor]
  simp only [read]
  exact ⟨_, rfl⟩

theorem descriptor_of_plan_ok {orderId brokerCode stage planId utcnow : String} {attempt : Int}
    {last : Option String} {context : Mapping} {planner : RecoveryPlanner}
    {plan : RecoveryPlan × ErrorContext}
    (planned : planner.plan orderId brokerCode stage attempt last context planId utcnow =
      .ok plan) :
    ∃ found, planner.descriptorFor brokerCode = some found ∧
      ∀ key ∈ found.requiredContext, ∃ text, key = .str text := by
  unfold RecoveryPlanner.plan at planned
  cases descriptor : planner.descriptorFor brokerCode with
  | none =>
    rw [descriptor] at planned
    cases planned
  | some found =>
    refine ⟨found, rfl, ?_⟩
    rw [descriptor] at planned
    cases read : tryMap requiredKey found.requiredContext with
    | error error =>
      simp only [read] at planned
      cases planned
    | ok keys =>
      intro key member
      obtain ⟨text, converted⟩ := tryMap_ok_iff.mp ⟨keys, read⟩ key member
      cases key with
      | str text => exact ⟨text, rfl⟩
      | _ => cases converted

theorem finalize_orders {orderId mode : String} {current : Option OrderState}
    (loaded : orders.store.latestState around.codec orderId mode = .ok current) :
    (finalize around orders orderId mode moment).1 =
      (updateState around orders orderId "reconciled" mode { entries := [] } moment).1 := by
  rw [finalize, load_ok loaded]

theorem scheduleRecovery_orders {orderId mode brokerCode planId : String} {context : Mapping}
    {current : Option OrderState} {plan : RecoveryPlan} {errorContext : ErrorContext}
    (loaded : orders.store.latestState around.codec orderId mode = .ok current)
    (planned : around.planner.plan orderId brokerCode
      ((orders.stageOf mode orderId).getD "manual_only")
      ((current.map OrderState.attempt).getD 1) (current.map OrderState.lastTransition)
      context planId moment.utcnow = .ok (plan, errorContext)) :
    (scheduleRecovery around orders orderId mode brokerCode planId context moment).1 =
      (updateState around orders orderId "error" mode
        { entries := recoveryPayload brokerCode errorContext.runbookRef
          recoveryPlan := some plan } moment).1 := by
  rw [scheduleRecovery, load_ok loaded]
  simp only [planned]

/-- An accepted call saves a state of its order with the receipts it is given. -/
theorem run_accepted {call : Call} {current : Option OrderState}
    (loaded : orders.store.latestState around.codec call.orderId call.mode = .ok current)
    (accepted : call.Accepted around) (moment : Moment) :
    Saves around orders moment call.mode call.orderId (fun receipt => call.supplied around receipt)
      (Request.run around orders ⟨call, moment⟩) := by
  cases call with
  | create orderId ticket stageGuardCtx =>
    obtain ⟨allowed, reduces, snapshot, converted⟩ := accepted
    refine ⟨createdState around orderId moment, ?_, rfl, fun receipt => by cases receipt <;> rfl⟩
    have passes : ¬ (stageFor around stageGuardCtx = "reduce_only" ∧
        ((ticket.get? "reduce_only").getD (.bool false)).truth = false) := by
      rintro ⟨reducing, missing⟩
      rw [reduces reducing] at missing
      cases missing
    simp only [Request.run, create, if_neg allowed, if_neg passes, converted]
    rfl
  | updateState orderId status mode payload =>
    exact updateState_saves loaded ((attempt_ok_iff payload current).mpr accepted.1)
      ((plan_ok_iff payload).mpr accepted.2)
  | attachFill orderId mode fillEvent status =>
    exact updateState_saves loaded ⟨_, rfl⟩ ⟨_, rfl⟩
  | scheduleRecovery orderId mode brokerCode planId context =>
    change orders.store.latestState around.codec orderId mode = .ok current at loaded
    obtain ⟨found, descriptor, named⟩ := accepted
    have planned : ∃ made, around.planner.plan orderId brokerCode
        ((orders.stageOf mode orderId).getD "manual_only")
        ((current.map OrderState.attempt).getD 1) (current.map OrderState.lastTransition)
        context planId moment.utcnow = .ok made := plan_ok_of_descriptor descriptor named
    obtain ⟨⟨plan, errorContext⟩, planned⟩ := planned
    have saves := @updateState_saves around orders moment orderId "error" mode
      { entries := recoveryPayload brokerCode errorContext.runbookRef
        recoveryPlan := some plan } current loaded ⟨_, rfl⟩ ⟨_, rfl⟩
    obtain ⟨state, saved, isOrder, receipts⟩ := saves
    refine ⟨state, ?_, isOrder, fun receipt => ?_⟩
    · rw [← scheduleRecovery_orders loaded planned] at saved
      exact saved
    · rw [receipts receipt]
      cases receipt <;> rfl
  | finalize orderId mode =>
    change orders.store.latestState around.codec orderId mode = .ok current at loaded
    have saves := @updateState_saves around orders moment orderId "reconciled" mode
      { entries := [] } current loaded ⟨_, rfl⟩ ⟨_, rfl⟩
    rw [← finalize_orders loaded] at saves
    exact saves

theorem run_refused {call : Call} {current : Option OrderState}
    (loaded : orders.store.latestState around.codec call.orderId call.mode = .ok current)
    (refused : ¬ call.Accepted around) :
    (Request.run around orders ⟨call, moment⟩).store = orders.store := by
  cases call with
  | create orderId ticket stageGuardCtx =>
    by_cases manual : stageFor around stageGuardCtx = "manual_only"
    · simp only [Request.run, create, if_pos manual]
    · by_cases opens : stageFor around stageGuardCtx = "reduce_only" ∧
          ((ticket.get? "reduce_only").getD (.bool false)).truth = false
      · simp only [Request.run, create, if_neg manual, if_pos opens]
      · cases converted : dictOf (orValue (valueAt ticket "risk_snapshot") (.map [])) with
        | error error => simp only [Request.run, create, if_neg manual, if_neg opens, converted]
        | ok snapshot =>
          refine absurd ⟨manual, fun reducing => ?_, snapshot, converted⟩ refused
          rw [← Bool.not_eq_false]
          exact fun missing => opens ⟨reducing, missing⟩
  | updateState orderId status mode payload =>
    have kept := @updateState_refused around orders moment orderId status mode payload current
      loaded (fun both => refused
        ⟨(attempt_ok_iff payload current).mp both.1, (plan_ok_iff payload).mp both.2⟩)
    exact congrArg Orders.store kept
  | attachFill orderId mode fillEvent status => exact absurd trivial refused
  | scheduleRecovery orderId mode brokerCode planId context =>
    change orders.store.latestState around.codec orderId mode = .ok current at loaded
    change (scheduleRecovery around orders orderId mode brokerCode planId context moment).1.store =
      orders.store
    rw [scheduleRecovery, load_ok loaded]
    cases planned : around.planner.plan orderId brokerCode
        ((orders.stageOf mode orderId).getD "manual_only")
        ((current.map OrderState.attempt).getD 1) (current.map OrderState.lastTransition)
        context planId moment.utcnow with
    | error error => simp only [planned]
    | ok made => exact absurd (descriptor_of_plan_ok planned) refused
  | finalize orderId mode => exact absurd trivial refused

end Requests

/-! ## Runs -/

/-- An accepted call supplies the receipts that it would otherwise drop. -/
def Supplies (around : Surroundings) (orders : Orders) (request : Request) : Prop :=
  request.call.Accepted around →
    SuppliesReceipts around.codec orders.store request.call.mode request.call.orderId
      request.moment.now (fun receipt => request.call.supplied around receipt)

/-- The states that were saved. -/
def SavedIn (orders : Orders) (state : OrderState) : Prop :=
  ∃ save ∈ orders.store.saved, save.2 = state

section Run

variable {around : Surroundings} {states : OrderState → Prop} {orders : Orders}

/-- What the run theorem carries along. -/
structure Settled (around : Surroundings) (states : OrderState → Prop) (orders : Orders) :
    Prop where
  archived : Archived around.codec states orders.store
  keeps : KeepsReceipts around.codec orders.store

theorem Settled.loads (settled : Settled around states orders) (orderId mode : String) :
    ∃ current, orders.store.latestState around.codec orderId mode = .ok current := by
  obtain ⟨listed, lists⟩ := settled.archived.lists mode
  exact ⟨_, latestState_of_records lists.1 orderId⟩

theorem saved_of_saves {moment : Moment} {mode : String} {after : Orders} {state : OrderState}
    (saved : after.store = orders.store.step around.codec (.completed mode state moment.now)) :
    SavedIn after state := by
  refine ⟨(mode, state), ?_, rfl⟩
  rw [saved]
  exact List.mem_append_right _ (List.mem_singleton.mpr rfl)

theorem updateState_grows {moment : Moment} {orderId status mode : String} {payload : Payload}
    {state : OrderState} (saved : SavedIn orders state) :
    SavedIn (updateState around orders orderId status mode payload moment).1 state := by
  obtain ⟨save, member, same⟩ := saved
  unfold updateState
  split
  · exact ⟨save, member, same⟩
  · split
    · exact ⟨save, member, same⟩
    · exact ⟨save, List.mem_append_left _ member, same⟩

/-- What was saved stays among the saved states. -/
theorem run_grows {request : Request} {state : OrderState} (saved : SavedIn orders state) :
    SavedIn (request.run around orders) state := by
  obtain ⟨call, moment⟩ := request
  cases call with
  | create orderId ticket stageGuardCtx =>
    obtain ⟨save, member, same⟩ := saved
    simp only [Request.run, create]
    split
    · exact ⟨save, member, same⟩
    · split
      · exact ⟨save, member, same⟩
      · cases dictOf (orValue (valueAt ticket "risk_snapshot") (.map [])) with
        | error error => exact ⟨save, member, same⟩
        | ok snapshot => exact ⟨save, List.mem_append_left _ member, same⟩
  | updateState orderId status mode payload => exact updateState_grows saved
  | attachFill orderId mode fillEvent status => exact updateState_grows saved
  | scheduleRecovery orderId mode brokerCode planId context =>
    simp only [Request.run, scheduleRecovery]
    split
    · exact saved
    · split
      · exact saved
      · exact updateState_grows saved
  | finalize orderId mode =>
    simp only [Request.run, finalize]
    split
    · exact saved
    · exact updateState_grows saved

theorem runFrom_grows (requests more : List Request) {state : OrderState}
    (saved : SavedIn (runFrom (Request.run around) orders requests) state) :
    SavedIn (runFrom (Request.run around) orders (requests ++ more)) state := by
  rw [runFrom, List.foldl_append]
  induction more using List.reverseRecOn with
  | nil => exact saved
  | append_singleton more request ih =>
    rw [List.foldl_append]
    exact run_grows ih

theorem run_keepsReceipts_iff (reads : ReadsBack around.codec states)
    (settled : Settled around states orders) (request : Request)
    (covered : ∀ state, SavedIn (request.run around orders) state → states state) :
    KeepsReceipts around.codec (request.run around orders).store ↔
      Supplies around orders request := by
  obtain ⟨call, moment⟩ := request
  obtain ⟨current, loaded⟩ := settled.loads call.orderId call.mode
  by_cases accepted : call.Accepted around
  · obtain ⟨state, saved, isOrder, receipts⟩ := run_accepted loaded accepted moment
    have good := covered state (saved_of_saves saved)
    have oneSave := @keepsReceipts_save_iff around.codec states orders.store call.mode state
      moment.now reads settled.archived settled.keeps good
    rw [saved, oneSave, isOrder]
    simp only [receipts]
    exact ⟨fun supplies _ => supplies, fun supplies => supplies accepted⟩
  · rw [run_refused loaded accepted]
    exact iff_of_true settled.keeps (fun isAccepted => absurd isAccepted accepted)

theorem Settled.run (reads : ReadsBack around.codec states)
    (settled : Settled around states orders) (request : Request)
    (covered : ∀ state, SavedIn (request.run around orders) state → states state)
    (keeps : KeepsReceipts around.codec (request.run around orders).store) :
    Settled around states (request.run around orders) := by
  refine ⟨?_, keeps⟩
  obtain ⟨call, moment⟩ := request
  obtain ⟨current, loaded⟩ := settled.loads call.orderId call.mode
  by_cases accepted : call.Accepted around
  · obtain ⟨state, saved, -, -⟩ := run_accepted loaded accepted moment
    rw [saved]
    exact settled.archived.save reads (covered state (saved_of_saves saved))
  · rw [run_refused loaded accepted]
    exact settled.archived

theorem ReadsBack.mono {codec : Codec} {fewer : OrderState → Prop}
    (reads : ReadsBack codec states) (among : ∀ state, fewer state → states state) :
    ReadsBack codec fewer where
  loads := fun state held => reads.loads state (among state held)
  plain := fun state held => reads.plain state (among state held)
  visible := fun state held => reads.visible state (among state held)

theorem settled_empty : Settled around states {} :=
  ⟨archived_empty, fun _ _ _ _ absurdity => by cases absurdity⟩

end Run

/-- In every run whose saved states the JSON library reads back, the receipts are
kept in every state exactly when every accepted call supplies them. -/
theorem receiptsKept_iff (around : Surroundings) (requests : List Request)
    (reads : ReadsBack around.codec (SavedIn (runFrom (Request.run around) {} requests))) :
    Throughout (Request.run around) (fun orders => KeepsReceipts around.codec orders.store) {}
        requests ↔
      EachStep (Request.run around) (Supplies around) {} requests := by
  have covered : EachStep (Request.run around) (fun orders request =>
      ∀ state, SavedIn (request.run around orders) state →
        SavedIn (runFrom (Request.run around) {} requests) state) {} requests := by
    have within : Throughout (Request.run around) (fun orders => ∀ state, SavedIn orders state →
        SavedIn (runFrom (Request.run around) {} requests) state) {} requests :=
      throughout_of_final (fun _ _ later state saved => later state (run_grows saved))
        (fun _ saved => saved)
    exact within.afterEachStep
  refine throughout_iff_eachStep_of_promise
    (Settled around (SavedIn (runFrom (Request.run around) {} requests)))
    (fun orders settled => settled.keeps) ?_ ?_ settled_empty covered
  · intro orders request settled covered supplies
    have keeps := (run_keepsReceipts_iff reads settled request covered).mpr supplies
    exact settled.run reads request covered keeps
  · intro orders request settled covered keeps
    exact (run_keepsReceipts_iff reads settled request covered).mp keeps

/-! ## A fill and what follows it -/

/-- Compact documents of ASCII characters. -/
def asciiCodec : Codec where
  dumps := fun payload => (Json.dumps false (.map payload)).map (fun char => char.toNat.toUInt8)
  loads := fun line => Json.loads (line.map (fun byte => Char.ofNat byte.toNat))

theorem toNat_asciiByte {char : Char} (ascii : char.toNat < 128) :
    char.toNat.toUInt8.toNat = char.toNat := by
  rw [UInt8.toNat_ofNat']
  omega

theorem asciiCodec_readsBack {states : OrderState → Prop}
    (wellFormed : ∀ state, states state → Json.WellFormed (.map state.toDict))
    (ascii : ∀ state, states state → ∀ char ∈ Json.dumps false (.map state.toDict),
      char.toNat < 128) : ReadsBack asciiCodec states where
  loads := by
    intro state good
    have decoded : (document asciiCodec state).map (fun byte => Char.ofNat byte.toNat) =
        Json.dumps false (.map state.toDict) := by
      have same : ∀ char ∈ Json.dumps false (.map state.toDict),
          ((fun byte : UInt8 => Char.ofNat byte.toNat) ∘ fun char => char.toNat.toUInt8) char =
            id char := by
        intro char member
        rw [Function.comp_apply, toNat_asciiByte (ascii state good char member), Char.ofNat_toNat,
          id_eq]
      rw [document, asciiCodec, List.map_map, List.map_congr_left same, List.map_id]
    change Json.loads ((document asciiCodec state).map (fun byte => Char.ofNat byte.toNat)) = _
    rw [decoded, Json.loads_dumps false (wellFormed state good)]
  plain := by
    intro state good
    have other : ∀ byte : UInt8, byte.toNat < 32 → byte ∉ document asciiCodec state := by
      intro byte low member
      obtain ⟨char, inDocument, rfl⟩ := List.mem_map.mp member
      have visible := (Json.renders_dumps false _ (wellFormed state good)).visible char inDocument
      rw [toNat_asciiByte (ascii state good char inDocument)] at low
      omega
    exact ⟨other lineFeed (by decide), other carriageReturn (by decide)⟩
  visible := fun _ _ => rfl

def sampleOrder : String := "order-0123456789ab"

def sampleFill : Mapping := [("ack_received_at", .str "2024-01-02T00:00:05Z"), ("qty", .int 1)]

def sampleFillJson : String := "\x7b\"ack_received_at\": \"2024-01-02T00:00:05Z\", \"qty\": 1\x7d"

/-- The hash function as it acts on the order and on the fill. -/
def sampleDigest (text : String) : BitVec 256 :=
  if text = sampleFillJson then
    0xb4a55f42409bdbd20d738c27535310bd7c6e601af902eca65b735ffc81b7f954#256
  else 0x97847759f8b41683d0ce79493786ff044a8cbbdad7fc5d3b37ba0c027a875093#256

def sampleSurroundings : Surroundings where
  codec := asciiCodec
  sha256 := sampleDigest
  sortedJson := fun _ => sampleFillJson
  guardStage := "full"
  planner := { errorMap := Dict.empty }

def createdAndFilled : List Request :=
  [⟨.create sampleOrder [] [], ⟨1704153600000000, "2024-01-02T00:00:00Z"⟩⟩,
    ⟨.attachFill sampleOrder "paper" sampleFill "filled",
      ⟨1704153605000000, "2024-01-02T00:00:05Z"⟩⟩]

def filledAndFinalized : List Request :=
  createdAndFilled ++
    [⟨.finalize sampleOrder "paper", ⟨1704153609000000, "2024-01-02T00:00:09Z"⟩⟩]

theorem sample_readsBack :
    ReadsBack asciiCodec
      (SavedIn (runFrom (Request.run sampleSurroundings) {} filledAndFinalized)) := by
  have documents : ∀ save ∈
      (runFrom (Request.run sampleSurroundings) {} filledAndFinalized).store.saved,
      Json.WellFormed (.map save.2.toDict) ∧ (Json.dumps false (.map save.2.toDict)).all
        (fun char => decide (char.toNat < 128)) = true := by decide +kernel
  refine asciiCodec_readsBack ?_ ?_
  · rintro state ⟨save, member, rfl⟩
    exact (documents save member).1
  · rintro state ⟨save, member, rfl⟩
    exact List.all_iff_forall_prop.mp (documents save member).2

theorem sample_readsBack_created :
    ReadsBack asciiCodec (SavedIn (runFrom (Request.run sampleSurroundings) {}
      createdAndFilled)) := by
  have among : ∀ state, SavedIn (runFrom (Request.run sampleSurroundings) {} createdAndFilled)
      state → SavedIn (runFrom (Request.run sampleSurroundings) {} filledAndFinalized) state :=
    fun _ saved => runFrom_grows createdAndFilled _ saved
  exact sample_readsBack.mono among

theorem supplies_of_last {around : Surroundings} {orders : Orders} {request : Request}
    (last : ∀ entry ∈ (orders.store.files request.call.mode).entries,
      entry.1 ≤ dateOf request.moment.now)
    (supplied : ∀ receipt,
      (carried around.codec orders.store request.call.mode request.call.orderId receipt).truth =
        true → (request.call.supplied around receipt).truth = true) :
    Supplies around orders request := by
  intro _ receipt
  refine ⟨fun _ => supplied receipt, ?_⟩
  rintro ⟨entry, member, later, -⟩
  exact absurd (last entry member) (not_le.mpr later)

theorem receiptsKept_when_filled :
    Throughout (Request.run sampleSurroundings) (fun orders =>
      KeepsReceipts asciiCodec orders.store)
      {} createdAndFilled := by
  refine (receiptsKept_iff sampleSurroundings createdAndFilled sample_readsBack_created).mpr
    ⟨supplies_of_last ?_ ?_, supplies_of_last ?_ ?_, trivial⟩
  · decide +kernel
  · intro receipt
    cases receipt <;> decide +kernel
  · decide +kernel
  · intro receipt
    cases receipt <;> decide +kernel

/-- The reconciled order has no fill. -/
theorem fill_lost_on_finalize :
    ReadsBack asciiCodec (SavedIn (runFrom (Request.run sampleSurroundings) {}
      filledAndFinalized)) ∧
      ¬ Throughout (Request.run sampleSurroundings)
        (fun orders => KeepsReceipts asciiCodec orders.store) {} filledAndFinalized := by
  refine ⟨sample_readsBack, fun kept => ?_⟩
  have keeps := kept.final
  have saved : (lastGiven .fillSummary
      ((runFrom (Request.run sampleSurroundings) {} filledAndFinalized).store.savedFor "paper"
        sampleOrder)).isSome = true := by decide +kernel
  obtain ⟨value, last⟩ := Option.isSome_iff_exists.mp saved
  have filled := truth_of_lastGiven last
  rw [← carried_of_lastGiven keeps last] at filled
  exact absurd filled (by decide +kernel)

end FxToushi.Brokers
