import FxToushi.Brokers.OrderStore
import FxToushi.Data.Runs

namespace FxToushi.Brokers

open Data Py

/-! # Completed saves survive interrupted ones

A run of saves, some of them interrupted by a crash.  The invariant keeps what
every file is made of, and that what is read covers the completed saves.
-/

namespace OrderStateStore

variable {codec : Codec} {states : OrderState → Prop}

/-- The states listed hold the completed saves of each order in their order, the
last of them last. -/
def Covers (store : OrderStateStore) (mode : String) (listed : List OrderState) : Prop :=
  ∀ orderId, (store.savedFor mode orderId).Sublist (statesFor orderId listed) ∧
    ∀ last, (store.savedFor mode orderId).getLast? = some last →
      (statesFor orderId listed).getLast? = some last

/-- A state that loads from the line is of an order without a completed save. -/
def Unsaved (codec : Codec) (store : OrderStateStore) (mode : String) (line : List Piece) : Prop :=
  ∀ state, wholeState codec line = some state → store.savedFor mode state.orderId = []

/-- Every file is framed, what stands on the last line of the last one is of no
completed save, and what is read covers the completed saves. -/
structure Consistent (codec : Codec) (states : OrderState → Prop) (store : OrderStateStore) :
    Prop where
  framed : ∀ mode, ∀ entry ∈ (store.files mode).entries, ∃ lines tail,
    Framed codec states entry.2.bytes lines tail ∧
      ((∀ other ∈ (store.files mode).entries, other.1 ≤ entry.1) →
        store.Unsaved codec mode tail)
  covers : ∀ mode, ∃ listed,
    store.records codec mode = listed.map (fun state => Value.map state.toDict) ∧
      store.Covers mode listed

section Covers

variable {store after : OrderStateStore} {mode : String} {state : OrderState}
  {listed : List OrderState}

theorem unsaved_nil (store : OrderStateStore) (mode : String) : store.Unsaved codec mode [] :=
  fun _ absurdity => by cases absurdity

theorem Covers.congr {other : List OrderState} (covers : store.Covers mode listed)
    (same : ∀ orderId, store.savedFor mode orderId ≠ [] →
      statesFor orderId other = statesFor orderId listed) : store.Covers mode other := by
  intro orderId
  by_cases unsaved : store.savedFor mode orderId = []
  · rw [unsaved]
    exact ⟨List.nil_sublist _, fun _ absurdity => by cases absurdity⟩
  · rw [same orderId unsaved]
    exact covers orderId

theorem covers_concat_iff (unsaved : store.savedFor mode state.orderId = []) :
    store.Covers mode (listed ++ [state]) ↔ store.Covers mode listed := by
  have same : ∀ orderId, store.savedFor mode orderId ≠ [] →
      statesFor orderId (listed ++ [state]) = statesFor orderId listed := by
    intro orderId saved
    rw [statesFor_concat, if_neg, List.append_nil]
    rintro rfl
    exact saved unsaved
  exact ⟨fun covers => covers.congr fun orderId saved => (same orderId saved).symm,
    fun covers => covers.congr same⟩

theorem Covers.line {line : List Piece} (covers : store.Covers mode listed)
    (unsaved : store.Unsaved codec mode line) :
    store.Covers mode (listed ++ (wholeState codec line).toList) := by
  cases whole : wholeState codec line with
  | none => simpa using covers
  | some state => exact (covers_concat_iff (unsaved state whole)).mpr covers

theorem savedFor_concat (saved : after.saved = store.saved ++ [(mode, state)])
    (other orderId : String) :
    after.savedFor other orderId = store.savedFor other orderId ++
      if mode = other ∧ state.orderId = orderId then [state.recorded] else [] := by
  by_cases same : mode = other ∧ state.orderId = orderId
  · simp [savedFor, saved, List.filter_append, same]
  · simp [savedFor, saved, List.filter_append, same]

theorem Covers.save (covers : store.Covers mode listed)
    (saved : after.saved = store.saved ++ [(mode, state)]) :
    after.Covers mode (listed ++ [state]) := by
  intro orderId
  obtain ⟨kept, last⟩ := covers orderId
  rw [savedFor_concat saved, statesFor_concat]
  by_cases same : state.orderId = orderId
  · simp only [same, and_self, if_true]
    refine ⟨kept.append_right _, fun last isLast => ?_⟩
    rw [List.getLast?_concat] at isLast ⊢
    exact isLast
  · simp only [same, and_false, if_false, List.append_nil]
    exact ⟨kept, last⟩

end Covers

section Append

variable {store after : OrderStateStore} {mode : String} {now : Int} {bytes : List UInt8}
  {lines : List (List Piece)} {tail : List Piece}

theorem held_append (store : OrderStateStore) (mode : String) {now later : Int}
    (sameDay : dateOf later = dateOf now) (bytes : List UInt8) :
    (store.append mode now bytes).held mode later = store.held mode now ++ bytes := by
  unfold append
  rw [held, sameDay]
  simp only [Function.update_self, Directory.get?_put, if_true, Option.map_some, Option.getD_some]

theorem records_append (last : ∀ entry ∈ (store.files mode).entries, entry.1 ≤ dateOf now) :
    ∃ front, store.records codec mode = front ++ readJsonl codec (store.held mode now) ∧
      ∀ bytes, (store.append mode now bytes).records codec mode =
        front ++ readJsonl codec (store.held mode now ++ bytes) := by
  obtain ⟨front, before, written⟩ :=
    Directory.flatMap_put_last (fun file => readJsonl codec file.bytes) last
  refine ⟨front, ?_, fun bytes => ?_⟩
  · rw [records, before, held]
    cases (store.files mode).get? (dateOf now) with
    | none => rfl
    | some file => simp
  · rw [records, append]
    simp only [Function.update_self, written]

theorem Consistent.held (consistent : Consistent codec states store)
    (last : ∀ entry ∈ (store.files mode).entries, entry.1 ≤ dateOf now) :
    ∃ lines tail, Framed codec states (store.held mode now) lines tail ∧
      store.Unsaved codec mode tail := by
  unfold OrderStateStore.held
  cases found : (store.files mode).get? (dateOf now) with
  | none => exact ⟨[], [], framed_nil, unsaved_nil store mode⟩
  | some file =>
    obtain ⟨lines, tail, framed, unsaved⟩ :=
      consistent.framed mode _ (Directory.mem_of_get? found)
    exact ⟨lines, tail, framed, unsaved last⟩

theorem orderId_of_toDict {state other : OrderState} (same : state.toDict = other.toDict) :
    state.orderId = other.orderId := by
  rw [← orderId_toDict state, same, orderId_toDict other]

/-- Without the last line of the last file, what is read still covers the
completed saves; an append adds the lines it ends and a new last one. -/
theorem Consistent.ended (lawful : Lawful codec states)
    (consistent : Consistent codec states store)
    (last : ∀ entry ∈ (store.files mode).entries, entry.1 ≤ dateOf now)
    (framed : Framed codec states (store.held mode now) lines tail)
    (unsaved : store.Unsaved codec mode tail) :
    ∃ ended, store.Covers mode ended ∧ ∀ bytes newLines newTail,
      Framed codec states (store.held mode now ++ bytes) (lines ++ newLines) newTail →
        (store.append mode now bytes).records codec mode =
          (ended ++ (newLines.filterMap (wholeState codec) ++
            (wholeState codec newTail).toList)).map (fun state => Value.map state.toDict) := by
  obtain ⟨front, before, written⟩ := records_append last
  obtain ⟨listed, read, covers⟩ := consistent.covers mode
  rw [before, framed.read lawful, List.map_append, ← List.append_assoc] at read
  obtain ⟨ended, rest, rfl, endedRead, tailRead⟩ := List.map_eq_append_iff.mp read.symm
  refine ⟨ended, ?_, fun bytes newLines newTail grown => ?_⟩
  · cases whole : wholeState codec tail with
    | none =>
      rw [whole] at tailRead
      rw [List.map_eq_nil_iff.mp tailRead, List.append_nil] at covers
      exact covers
    | some state =>
      rw [whole] at tailRead
      obtain ⟨other, rfl, same⟩ := List.map_eq_singleton_iff.mp tailRead
      refine (covers_concat_iff ?_).mp covers
      rw [orderId_of_toDict (Value.map.inj same)]
      exact unsaved state whole
  · rw [written, grown.read lawful, List.filterMap_append, List.map_append, List.map_append,
      List.map_append, List.map_append, endedRead]
    simp only [List.append_assoc]

/-- A store whose last file was framed again, and covers what was saved, is
consistent again. -/
theorem Consistent.appended (consistent : Consistent codec states store)
    (last : ∀ entry ∈ (store.files mode).entries, entry.1 ≤ dateOf now)
    (files : after.files = (store.append mode now bytes).files)
    (others : ∀ other ≠ mode, ∀ orderId,
      after.savedFor other orderId = store.savedFor other orderId)
    (framed : Framed codec states (store.held mode now ++ bytes) lines tail)
    (unsaved : after.Unsaved codec mode tail) {listed : List OrderState}
    (read : (store.append mode now bytes).records codec mode =
      listed.map (fun state => Value.map state.toDict))
    (covers : after.Covers mode listed) : Consistent codec states after := by
  have untouched : ∀ other ≠ mode, after.files other = store.files other := by
    intro other different
    rw [files, append]
    exact Function.update_of_ne different _ _
  constructor
  · intro other entry member
    by_cases same : other = mode
    · subst same
      rw [files, append] at member ⊢
      simp only [Function.update_self] at member ⊢
      rcases Directory.mem_put member with rfl | ⟨different, old⟩
      · exact ⟨lines, tail, framed, fun _ => unsaved⟩
      · obtain ⟨oldLines, oldTail, oldFramed, -⟩ := consistent.framed other entry old
        refine ⟨oldLines, oldTail, oldFramed, fun isLast => ?_⟩
        have late := isLast (dateOf now, _)
          (List.mem_append_right _ List.mem_cons_self)
        exact absurd (le_antisymm (last entry old) late) different
    · rw [untouched other same] at member ⊢
      obtain ⟨oldLines, oldTail, oldFramed, oldUnsaved⟩ := consistent.framed other entry member
      refine ⟨oldLines, oldTail, oldFramed, fun isLast state whole => ?_⟩
      rw [others other same]
      exact oldUnsaved isLast state whole
  · intro other
    by_cases same : other = mode
    · subst same
      refine ⟨listed, ?_, covers⟩
      rw [records, files]
      exact read
    · obtain ⟨oldListed, oldRead, oldCovers⟩ := consistent.covers other
      refine ⟨oldListed, ?_, fun orderId => ?_⟩
      · rw [records, untouched other same]
        exact oldRead
      · rw [others other same]
        exact oldCovers orderId

end Append

section Steps

variable {store : OrderStateStore} {mode : String} {state : OrderState} {now : Int}

theorem Consistent.save (lawful : Lawful codec states)
    (consistent : Consistent codec states store) (good : states state)
    (last : ∀ entry ∈ (store.files mode).entries, entry.1 ≤ dateOf now)
    (clean : store.EndsCleanly mode now) :
    Consistent codec states (step codec store (.completed mode state now)) := by
  obtain ⟨lines, tail, framed, unsaved⟩ := consistent.held last
  obtain rfl := (framed.tail_eq_nil_iff lawful).mpr clean
  obtain ⟨ended, covers, read⟩ := consistent.ended lawful last framed unsaved
  have finished := framed.finish lawful good (le_refl (document codec state).length)
  have whole : wholeState codec [⟨state, (document codec state).length⟩] = some state :=
    wholeState_eq_some_iff.mpr ⟨_, rfl, le_refl _⟩
  have saved : (step codec store (.completed mode state now)).saved =
      store.saved ++ [(mode, state)] := rfl
  refine consistent.appended last rfl ?_ finished (unsaved_nil _ mode) (read _ _ _ finished) ?_
  · intro other different orderId
    rw [savedFor_concat saved, if_neg (fun both => different both.1.symm),
      List.append_nil]
  · rw [List.nil_append, List.filterMap_cons, whole]
    exact covers.save saved

theorem Consistent.interrupt (lawful : Lawful codec states)
    (consistent : Consistent codec states store) (good : states state)
    (last : ∀ entry ∈ (store.files mode).entries, entry.1 ≤ dateOf now) {size : Nat}
    (clean : WritesCleanly codec store (.interrupted mode state now size)) :
    Consistent codec states (step codec store (.interrupted mode state now size)) := by
  obtain ⟨lines, tail, framed, unsaved⟩ := consistent.held last
  obtain ⟨ended, covers, read⟩ := consistent.ended lawful last framed unsaved
  have unsavedLine : store.Unsaved codec mode (tail ++ [⟨state, size⟩]) := by
    intro other whole
    by_cases ended : tail = []
    · obtain ⟨_, same, long⟩ := wholeState_eq_some_iff.mp whole
      rw [ended] at same
      obtain ⟨rfl, rfl⟩ := Piece.mk.inj (List.cons.inj same).1
      exact clean long ((framed.tail_eq_nil_iff lawful).mp ended)
    · rw [wholeState_append ended] at whole
      cases whole
  rcases Nat.eq_zero_or_pos size with rfl | some_bytes
  · -- nothing was written: the last line stays as it was
    have unchanged : Framed codec states (store.held mode now ++
        (document codec state ++ [lineFeed]).take 0) (lines ++ []) tail := by
      simpa using framed
    exact consistent.appended last rfl (fun _ _ _ => rfl) unchanged unsaved (read _ _ _ unchanged)
      (covers.line unsaved)
  · rcases Nat.lt_or_ge (document codec state).length size with whole | short
    · -- the record and its line feed were written: the last line is ended
      have finished := framed.finish lawful good whole.le
      have all : (document codec state ++ [lineFeed]).take size =
          document codec state ++ [lineFeed] := by
        refine List.take_of_length_le ?_
        simp only [List.length_append, List.length_singleton]
        omega
      rw [← all] at finished
      refine consistent.appended last rfl (fun _ _ _ => rfl) finished (unsaved_nil store mode)
        (read _ _ _ finished) ?_
      have line : [tail ++ [⟨state, size⟩]].filterMap (wholeState codec) =
          (wholeState codec (tail ++ [⟨state, size⟩])).toList := by
        rw [List.filterMap_cons]
        cases wholeState codec (tail ++ [⟨state, size⟩]) <;> rfl
      have ends : (wholeState codec []).toList = [] := rfl
      rw [line, ends, List.append_nil]
      exact covers.line unsavedLine
    · have torn := framed.tear good some_bytes short
      rw [← List.append_nil lines] at torn
      exact consistent.appended last rfl (fun _ _ _ => rfl) torn unsavedLine (read _ _ _ torn)
        (covers.line unsavedLine)

end Steps

theorem Consistent.savesSurvive {store : OrderStateStore}
    (consistent : Consistent codec states store) : SavesSurvive codec store := by
  intro mode orderId
  obtain ⟨listed, read, covers⟩ := consistent.covers mode
  have history : store.history codec orderId mode = .ok (statesFor orderId listed) := by
    rw [OrderStateStore.history, read, statesOf_map]
  obtain ⟨kept, last⟩ := covers orderId
  refine ⟨_, history, kept, fun saved isLast => ?_⟩
  rw [latestState, history, ← last saved isLast]
  rfl

theorem consistent_empty : Consistent codec states {} :=
  ⟨fun _ _ absurdity => (by cases absurdity),
    fun _ => ⟨[], rfl, fun _ => ⟨List.nil_sublist _, fun _ absurdity => by cases absurdity⟩⟩⟩

end OrderStateStore

open OrderStateStore

/-! ## Runs -/

/-- In a run whose completed saves find their files cleanly ended, and whose
interrupted ones leave no whole record of an order that has a completed save,
every completed save is in the history and the last one is loaded. -/
theorem completed_saves_survive (codec : Codec) (actions : List SaveAction)
    (lawful : Lawful codec (fun state => ∃ action ∈ actions, action.state = state))
    (clock : EachStep (step codec) ClockForward {} actions)
    (clean : EachStep (step codec) (WritesCleanly codec) {} actions) :
    Throughout (step codec) (SavesSurvive codec) {} actions := by
  have given : EachStep (step codec) (fun _ action => ∃ other ∈ actions, other.state = action.state)
      {} actions := eachStep_of_mem fun action member => ⟨action, member, rfl⟩
  have kept : Throughout (step codec)
      (Consistent codec (fun state => ∃ action ∈ actions, action.state = state)) {} actions := by
    refine throughout_of_eachStep ?_ consistent_empty (given.and (clock.and clean))
    rintro store action consistent ⟨good, forward, clean⟩
    cases action with
    | completed mode state now => exact consistent.save lawful good forward clean
    | interrupted mode state now size => exact consistent.interrupt lawful good forward clean
  exact kept.imp fun store consistent => consistent.savesSurvive

def sampleState : OrderState where
  orderId := "O-1"
  status := "submitted"
  lastTransition := "2024-01-02T00:00:00Z"
  attempt := 1
  evidenceHash := "e1"

def sampleDocument : List UInt8 :=
  ("\x7b\"schema_version\":\"broker.order_state.v1\",\"order_id\":\"O-1\"," ++
    "\"status\":\"submitted\"," ++
    "\"last_transition\":\"2024-01-02T00:00:00Z\",\"attempt\":1,\"error_code\":null," ++
    "\"retry_after\":null,\"ack_received_at\":null,\"fill_summary\":null," ++
    "\"evidence_hash\":\"e1\",\"recovery_plan\":null\x7d").toUTF8.data.toList

theorem sampleDocument_opens : sampleDocument = 123 :: sampleDocument.tail :=
  (List.cons_head?_tail (by decide)).symm

theorem sampleDocument_once : (123 : UInt8) ∉ sampleDocument.tail := by decide

theorem sampleDocument_plain : Plain sampleDocument := ⟨by decide, by decide⟩

theorem sampleDocument_long : 60 < sampleDocument.length :=
  List.length_lt_of_drop_ne_nil (by decide)

attribute [irreducible] sampleDocument

/-- The JSON library as it acts on the document of the sample state. -/
def sampleCodec : Codec where
  dumps := fun _ => sampleDocument
  loads := fun line => if line = sampleDocument then some (.map sampleState.toDict) else none

theorem samplePiece_opens {piece : Piece} (some_bytes : 0 < piece.size) :
    ∃ rest, piece.bytes sampleCodec = 123 :: rest := by
  obtain ⟨size, same⟩ := Nat.exists_eq_succ_of_ne_zero some_bytes.ne'
  refine ⟨sampleDocument.tail.take size, ?_⟩
  change sampleDocument.take piece.size = _
  rw [same, sampleDocument_opens]
  rfl

theorem sampleCodec_lawful {states : OrderState → Prop}
    (only : ∀ state, states state → state = sampleState) : Lawful sampleCodec states where
  loads := by
    intro state good
    rw [only state good]
    exact if_pos rfl
  plain := fun state _ => sampleDocument_plain
  visible := by
    intro state _
    have brace : isAsciiSpace 123 = false := by decide
    change sampleDocument.all isAsciiSpace = false
    rw [sampleDocument_opens, List.all_cons, brace, Bool.false_and]
  torn := by
    intro pieces begun torn
    refine if_neg fun same => ?_
    match pieces, begun, torn with
    | [], _, _ =>
      rw [sampleDocument_opens] at same
      cases same
    | [piece], _, torn =>
      have short : ¬ sampleDocument.length ≤ piece.size := by
        intro long
        rw [wholeState] at torn
        exact absurd ((if_pos long).symm.trans torn) (Option.some_ne_none _)
      have lengths := congrArg List.length same
      rw [joined_singleton, Piece.bytes, List.length_take] at lengths
      change min piece.size sampleDocument.length = sampleDocument.length at lengths
      omega
    | first :: second :: rest, begun, _ =>
      obtain ⟨left, opens⟩ := samplePiece_opens (begun first List.mem_cons_self).2
      obtain ⟨right, again⟩ :=
        samplePiece_opens (begun second (List.mem_cons_of_mem _ List.mem_cons_self)).2
      rw [joined, List.flatMap_cons, List.flatMap_cons, opens, again,
        sampleDocument_opens] at same
      refine sampleDocument_once ?_
      rw [← (List.cons.inj same).2]
      simp

theorem sample_only {actions : List SaveAction}
    (every : ∀ action ∈ actions, action.state = sampleState) (state : OrderState)
    (used : ∃ action ∈ actions, action.state = state) : state = sampleState := by
  obtain ⟨action, member, rfl⟩ := used
  exact every action member

instance (store : OrderStateStore) (action : SaveAction) : Decidable (ClockForward store action) :=
  inferInstanceAs (Decidable (∀ entry ∈ _, _ ≤ _))

/-- A save that crashes on one day, and two that return on the next. -/
def nextDay : List SaveAction :=
  [.interrupted "live" sampleState 0 5, .completed "live" sampleState 86400000000,
    .completed "live" sampleState 86400000001]

theorem completed_saves_survive_next_day :
    Throughout (step sampleCodec) (SavesSurvive sampleCodec) {} nextDay := by
  refine completed_saves_survive sampleCodec nextDay ?_ ?_ ?_
  · refine sampleCodec_lawful (sample_only ?_)
    simp [nextDay, SaveAction.state]
  · exact ⟨by decide, by decide, by decide, trivial⟩
  · have short : (5 : Nat) < sampleDocument.length := lt_trans (by decide) sampleDocument_long
    refine ⟨fun whole => absurd whole (not_le.mpr short), .inl (by decide), .inr ?_, trivial⟩
    have ended : (step sampleCodec (step sampleCodec {} (.interrupted "live" sampleState 0 5))
        (.completed "live" sampleState 86400000000)).held "live" 86400000001 =
          [] ++ (sampleDocument ++ [lineFeed]) := held_append _ "live" (by decide) _
    exact (congrArg List.getLast? ended).trans List.getLast?_concat

def sameDay : List SaveAction :=
  [.interrupted "live" sampleState 0 5, .completed "live" sampleState 1]

theorem readJsonl_joined : readJsonl sampleCodec
    (sampleDocument.take 5 ++ (sampleDocument ++ [lineFeed])) = [] := by
  have plain : Plain (sampleDocument.take 5 ++ sampleDocument) :=
    (sampleDocument_plain.of_front (List.take_prefix 5 _)).append sampleDocument_plain
  have longer : sampleDocument.take 5 ++ sampleDocument ≠ sampleDocument := by
    intro same
    have lengths := congrArg List.length same
    rw [List.length_append, List.length_take] at lengths
    have long := sampleDocument_long
    omega
  have unread : loadLine sampleCodec (sampleDocument.take 5 ++ sampleDocument) = none := by
    have raised : sampleCodec.loads (sampleDocument.take 5 ++ sampleDocument) = none :=
      if_neg longer
    rw [loadLine, raised]
    exact ite_self none
  rw [readJsonl, ← List.append_assoc, splitLines_line plain, List.filterMap_cons, unread]
  rfl

/-- Appended to the rest of an interrupted record, a completed save is lost. -/
theorem completed_save_lost :
    Lawful sampleCodec (fun state => ∃ action ∈ sameDay, action.state = state) ∧
      EachStep (step sampleCodec) ClockForward {} sameDay ∧
      ¬ Throughout (step sampleCodec) (SavesSurvive sampleCodec) {} sameDay := by
  refine ⟨sampleCodec_lawful (sample_only ?_), ⟨by decide, by decide, trivial⟩, ?_⟩
  · simp [sameDay, SaveAction.state]
  · intro survive
    have joined : ((runFrom (step sampleCodec) {} sameDay).files "live").entries =
        [(0, { bytes := (sampleDocument ++ [lineFeed]).take 5 ++ (sampleDocument ++ [lineFeed])
               mtime := 1 })] := rfl
    have unread : (runFrom (step sampleCodec) {} sameDay).records sampleCodec "live" = [] := by
      rw [records, joined, List.take_append_of_le_length
        (le_trans (by decide) sampleDocument_long.le)]
      exact (List.append_nil _).trans readJsonl_joined
    obtain ⟨states, history, kept, -⟩ := survive.final "live" "O-1"
    rw [OrderStateStore.history, unread] at history
    rw [← Except.ok.inj history] at kept
    have saved : ((runFrom (step sampleCodec) {} sameDay).savedFor "live" "O-1").length = 1 := by
      decide
    rw [List.eq_nil_of_sublist_nil kept] at saved
    cases saved

end FxToushi.Brokers
