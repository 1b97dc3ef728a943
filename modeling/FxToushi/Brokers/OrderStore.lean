import FxToushi.Brokers.OrderRecords
import FxToushi.Data.Directory
import FxToushi.Data.Lines

namespace FxToushi.Brokers

open Data Py

/-! # The order state store

States are appended to a file per mode and day, one document a line.  Reading
goes over the files in the order of their dates and passes over every line that
does not load.
-/

/-- The JSON library: `loads` has no result where it raises. -/
structure Codec where
  dumps : Mapping → List UInt8
  loads : List UInt8 → Option Value

structure DailyFile where
  bytes : List UInt8
  mtime : Int
deriving Repr, DecidableEq

/-- `archive` holds a file per month and date.  `saved` are the saves that
returned, in their order, for the statements only. -/
structure OrderStateStore where
  files : String → Directory Int DailyFile := fun _ => Directory.empty
  archive : Int → Directory Int DailyFile := fun _ => Directory.empty
  saved : List (String × OrderState) := []

def document (codec : Codec) (state : OrderState) : List UInt8 := codec.dumps state.toDict

/-! ## Reading -/

/-- The whitespace `bytes.strip` removes. -/
def isAsciiSpace (byte : UInt8) : Bool := byte == 32 || (9 ≤ byte && byte ≤ 13)

def notNull : Value → Bool
  | .null => false
  | _ => true

/-- The record of a line.  One that is `null` counts as none. -/
def loadLine (codec : Codec) (line : List UInt8) : Option Value :=
  if line.all isAsciiSpace then none else (codec.loads line).filter notNull

def readJsonl (codec : Codec) (bytes : List UInt8) : List Value :=
  (splitLines bytes).filterMap (loadLine codec)

/-- The states of one order among the records of a listing. -/
def statesOf (orderId : String) : List Value → Except PyError (List OrderState)
  | [] => .ok []
  | .map record :: rest =>
    if textAt record "order_id" = orderId then do
      let state ← stateFromPayload record
      let states ← statesOf orderId rest
      return state :: states
    else statesOf orderId rest
  | _ :: _ => .error .attributeError

namespace OrderStateStore

def records (store : OrderStateStore) (codec : Codec) (mode : String) : List Value :=
  (store.files mode).entries.flatMap (fun entry => readJsonl codec entry.2.bytes)

def history (store : OrderStateStore) (codec : Codec) (orderId mode : String) :
    Except PyError (List OrderState) :=
  statesOf orderId (store.records codec mode)

/-- What `load` returns beside the envelope: the last state of the history. -/
def latestState (store : OrderStateStore) (codec : Codec) (orderId mode : String) :
    Except PyError (Option OrderState) :=
  (store.history codec orderId mode).map List.getLast?

/-! ## Saving -/

def dateOf (now : Int) : Int := now / 86400000000

/-- What the file of a day holds. -/
def held (store : OrderStateStore) (mode : String) (now : Int) : List UInt8 :=
  (((store.files mode).get? (dateOf now)).map DailyFile.bytes).getD []

def append (store : OrderStateStore) (mode : String) (now : Int) (written : List UInt8) :
    OrderStateStore :=
  let grown := (store.files mode).put (dateOf now)
    { bytes := store.held mode now ++ written, mtime := now }
  { store with files := Function.update store.files mode grown }

/-- A call of `save_state` that returns, or one that a crash interrupts after a
number of bytes. -/
inductive SaveAction where
  | completed (mode : String) (state : OrderState) (now : Int)
  | interrupted (mode : String) (state : OrderState) (now : Int) (written : Nat)

def SaveAction.mode : SaveAction → String
  | .completed mode _ _ => mode
  | .interrupted mode _ _ _ => mode

def SaveAction.state : SaveAction → OrderState
  | .completed _ state _ => state
  | .interrupted _ state _ _ => state

def SaveAction.now : SaveAction → Int
  | .completed _ _ now => now
  | .interrupted _ _ now _ => now

def step (codec : Codec) (store : OrderStateStore) : SaveAction → OrderStateStore
  | .completed mode state now =>
    { store.append mode now (document codec state ++ [lineFeed]) with
      saved := store.saved ++ [(mode, state)] }
  | .interrupted mode state now written =>
    store.append mode now ((document codec state ++ [lineFeed]).take written)

/-! ## What a completed save promises -/

/-- The saved states of an order in a mode, as they are read back. -/
def savedFor (store : OrderStateStore) (mode orderId : String) : List OrderState :=
  (store.saved.filter (fun save => decide (save.1 = mode ∧ save.2.orderId = orderId))).map
    (fun save => save.2.recorded)

def SavesSurvive (codec : Codec) (store : OrderStateStore) : Prop :=
  ∀ mode orderId, ∃ states, store.history codec orderId mode = .ok states ∧
    (store.savedFor mode orderId).Sublist states ∧
    ∀ last, (store.savedFor mode orderId).getLast? = some last →
      store.latestState codec orderId mode = .ok (some last)

/-- No file of the mode is dated after the day of the save. -/
def ClockForward (store : OrderStateStore) (action : SaveAction) : Prop :=
  ∀ entry ∈ (store.files action.mode).entries, entry.1 ≤ dateOf action.now

/-- The file of the day is absent, empty or ended by a line feed. -/
def EndsCleanly (store : OrderStateStore) (mode : String) (now : Int) : Prop :=
  store.held mode now = [] ∨ (store.held mode now).getLast? = some lineFeed

/-- A save that returns finds its file without the rest of an interrupted one.
One that is interrupted with its whole document on a line of its own, where it
will load as the latest state, is of an order without a completed save. -/
def WritesCleanly (codec : Codec) (store : OrderStateStore) : SaveAction → Prop
  | .completed mode _ now => store.EndsCleanly mode now
  | .interrupted mode state now written =>
    (document codec state).length ≤ written → store.EndsCleanly mode now →
      store.savedFor mode state.orderId = []

end OrderStateStore

/-- The first bytes of a document. -/
structure Piece where
  state : OrderState
  size : Nat

def Piece.bytes (codec : Codec) (piece : Piece) : List UInt8 :=
  (document codec piece.state).take piece.size

/-- Pieces that were appended one after the other. -/
def joined (codec : Codec) (pieces : List Piece) : List UInt8 :=
  pieces.flatMap (Piece.bytes codec)

/-- What a line of pieces loads as: a state where it is one whole document. -/
def wholeState (codec : Codec) : List Piece → Option OrderState
  | [piece] =>
    if (document codec piece.state).length ≤ piece.size then some piece.state else none
  | _ => none

def Begun (states : OrderState → Prop) (pieces : List Piece) : Prop :=
  ∀ piece ∈ pieces, states piece.state ∧ 0 < piece.size

/-- What the JSON library does with the documents of some states: each loads
again and stands on one line, and pieces of documents load only where they are
one whole document. -/
structure Lawful (codec : Codec) (states : OrderState → Prop) : Prop where
  loads : ∀ state, states state → codec.loads (document codec state) = some (.map state.toDict)
  plain : ∀ state, states state → Plain (document codec state)
  visible : ∀ state, states state → (document codec state).all isAsciiSpace = false
  torn : ∀ pieces, Begun states pieces → wholeState codec pieces = none →
    codec.loads (joined codec pieces) = none

/-! ## Reading what was written -/

section Reading

variable {codec : Codec} {states : OrderState → Prop}

theorem loadLine_document (lawful : Lawful codec states) {state : OrderState}
    (good : states state) : loadLine codec (document codec state) = some (.map state.toDict) := by
  rw [loadLine, if_neg (by rw [lawful.visible state good]; decide), lawful.loads state good]
  rfl

theorem document_ne_nil (lawful : Lawful codec states) {state : OrderState}
    (good : states state) : document codec state ≠ [] := by
  intro empty
  have visible := lawful.visible state good
  rw [empty] at visible
  cases visible

theorem joined_append (left right : List Piece) :
    joined codec (left ++ right) = joined codec left ++ joined codec right := List.flatMap_append

theorem joined_singleton (piece : Piece) : joined codec [piece] = piece.bytes codec :=
  List.append_nil _

theorem joined_plain (lawful : Lawful codec states) {pieces : List Piece}
    (begun : Begun states pieces) : Plain (joined codec pieces) := by
  induction pieces with
  | nil => exact ⟨List.not_mem_nil, List.not_mem_nil⟩
  | cons piece rest ih =>
    have document := lawful.plain piece.state (begun piece List.mem_cons_self).1
    exact (document.of_front (List.take_prefix _ _)).append
      (ih fun other member => begun other (List.mem_cons_of_mem _ member))

theorem joined_eq_nil (lawful : Lawful codec states) {pieces : List Piece}
    (begun : Begun states pieces) (empty : joined codec pieces = []) : pieces = [] := by
  cases pieces with
  | nil => rfl
  | cons piece rest =>
    obtain ⟨good, some_bytes⟩ := begun piece List.mem_cons_self
    rcases List.take_eq_nil_iff.mp (List.append_eq_nil_iff.mp empty).1 with none | nothing
    · omega
    · exact absurd nothing (document_ne_nil lawful good)

theorem wholeState_eq_some_iff {pieces : List Piece} {state : OrderState} :
    wholeState codec pieces = some state ↔
      ∃ size, pieces = [⟨state, size⟩] ∧ (document codec state).length ≤ size := by
  constructor
  · intro whole
    match pieces, whole with
    | [⟨other, size⟩], whole =>
      obtain ⟨long, same⟩ := Option.ite_none_right_eq_some.mp whole
      obtain rfl := Option.some.inj same
      exact ⟨size, rfl, long⟩
  · rintro ⟨size, rfl, long⟩
    exact if_pos long

theorem wholeState_append {tail : List Piece} {piece : Piece} (before : tail ≠ []) :
    wholeState codec (tail ++ [piece]) = none := by
  cases tail with
  | nil => exact absurd rfl before
  | cons first rest => cases rest <;> rfl

theorem loadLine_joined (lawful : Lawful codec states) {pieces : List Piece}
    (begun : Begun states pieces) : loadLine codec (joined codec pieces) =
      (wholeState codec pieces).map (fun state => Value.map state.toDict) := by
  cases whole : wholeState codec pieces with
  | none =>
    unfold loadLine
    split
    · rfl
    · rw [lawful.torn pieces begun whole]
      rfl
  | some state =>
    obtain ⟨size, rfl, long⟩ := wholeState_eq_some_iff.mp whole
    rw [joined_singleton, Piece.bytes, List.take_of_length_le long]
    exact loadLine_document lawful (begun _ List.mem_cons_self).1

/-- The states of an order among others, as they are read back. -/
def statesFor (orderId : String) (states : List OrderState) : List OrderState :=
  (states.filter (fun state => decide (state.orderId = orderId))).map OrderState.recorded

theorem statesFor_concat (orderId : String) (states : List OrderState) (state : OrderState) :
    statesFor orderId (states ++ [state]) =
      statesFor orderId states ++ if state.orderId = orderId then [state.recorded] else [] := by
  by_cases same : state.orderId = orderId
  · simp [statesFor, List.filter_append, same]
  · simp [statesFor, List.filter_append, same]

theorem orderId_toDict (state : OrderState) : textAt state.toDict "order_id" = state.orderId := by
  simp [textAt, valueAt, OrderState.toDict, Mapping.get?, Value.text]

theorem statesOf_map (orderId : String) (written : List OrderState) :
    statesOf orderId (written.map (fun state => Value.map state.toDict)) =
      .ok (statesFor orderId written) := by
  induction written with
  | nil => rfl
  | cons state rest ih =>
    rw [List.map_cons, statesOf, orderId_toDict, ih, stateFromPayload_toDict]
    by_cases same : state.orderId = orderId
    · simp [statesFor, same, bind, Except.bind, pure, Except.pure]
    · simp [statesFor, same]

end Reading

/-! ## What a file holds -/

/-- A file is lines of pieces, the last of them not ended. -/
structure Framed (codec : Codec) (states : OrderState → Prop) (bytes : List UInt8)
    (lines : List (List Piece)) (tail : List Piece) : Prop where
  begun : ∀ line ∈ lines, Begun states line
  tailBegun : Begun states tail
  content : bytes = frame (lines.map (joined codec)) ++ joined codec tail

section Framed

variable {codec : Codec} {states : OrderState → Prop} {bytes : List UInt8}
  {lines : List (List Piece)} {tail : List Piece} {state : OrderState}

theorem framed_nil : Framed codec states [] [] [] :=
  ⟨fun _ absurdity => absurd absurdity List.not_mem_nil,
    fun _ absurdity => absurd absurdity List.not_mem_nil, rfl⟩

theorem Framed.plain (lawful : Lawful codec states)
    (framed : Framed codec states bytes lines tail) :
    ∀ record ∈ lines.map (joined codec), Plain record :=
  List.forall_mem_map.mpr fun line member => joined_plain lawful (framed.begun line member)

theorem Framed.read (lawful : Lawful codec states)
    (framed : Framed codec states bytes lines tail) :
    readJsonl codec bytes = (lines.filterMap (wholeState codec) ++
      (wholeState codec tail).toList).map (fun state => Value.map state.toDict) := by
  have tailPlain := joined_plain lawful framed.tailBegun
  have tailLoaded := loadLine_joined lawful framed.tailBegun
  have ended : (lines.map (joined codec)).filterMap (loadLine codec) =
      (lines.filterMap (wholeState codec)).map (fun state => Value.map state.toDict) := by
    rw [List.filterMap_map, List.map_filterMap]
    exact List.filterMap_congr fun line member => loadLine_joined lawful (framed.begun line member)
  rw [readJsonl, framed.content, splitLines_frame (framed.plain lawful) tailPlain,
    List.filterMap_append, ended, List.map_append]
  congr 1
  by_cases empty : joined codec tail = []
  · rw [joined_eq_nil lawful framed.tailBegun empty]
    rfl
  · rw [if_neg empty, List.filterMap_cons, tailLoaded]
    cases wholeState codec tail <;> rfl

theorem Framed.tail_eq_nil_iff (lawful : Lawful codec states)
    (framed : Framed codec states bytes lines tail) :
    tail = [] ↔ bytes = [] ∨ bytes.getLast? = some lineFeed := by
  constructor
  · rintro rfl
    have content := framed.content
    rw [show joined codec [] = [] from rfl, List.append_nil] at content
    rw [content]
    exact frame_ended _
  · intro clean
    rw [framed.content] at clean
    exact joined_eq_nil lawful framed.tailBegun
      (tail_eq_nil (joined_plain lawful framed.tailBegun) clean)

theorem Begun.concat (begun : Begun states tail) (good : states state) {size : Nat}
    (some_bytes : 0 < size) : Begun states (tail ++ [⟨state, size⟩]) := by
  intro piece member
  rcases List.mem_append.mp member with old | new
  · exact begun piece old
  · rw [List.mem_singleton.mp new]
    exact ⟨good, some_bytes⟩

theorem Framed.finish (lawful : Lawful codec states)
    (framed : Framed codec states bytes lines tail) (good : states state) {size : Nat}
    (whole : (document codec state).length ≤ size) :
    Framed codec states (bytes ++ (document codec state ++ [lineFeed]))
      (lines ++ [tail ++ [⟨state, size⟩]]) [] where
  begun := by
    have some_bytes := List.length_pos_iff.mpr (document_ne_nil lawful good)
    intro line member
    rcases List.mem_append.mp member with old | new
    · exact framed.begun line old
    · rw [List.mem_singleton.mp new]
      exact framed.tailBegun.concat good (by omega)
  tailBegun := fun _ absurdity => absurd absurdity List.not_mem_nil
  content := by
    rw [framed.content, List.map_append, frame_append, List.map_singleton, joined_append,
      joined_singleton, Piece.bytes, List.take_of_length_le whole]
    simp [frame, joined]

theorem Framed.tear (framed : Framed codec states bytes lines tail) (good : states state)
    {size : Nat} (some_bytes : 0 < size) (short : size ≤ (document codec state).length) :
    Framed codec states (bytes ++ (document codec state ++ [lineFeed]).take size) lines
      (tail ++ [⟨state, size⟩]) where
  begun := framed.begun
  tailBegun := framed.tailBegun.concat good some_bytes
  content := by
    rw [framed.content, joined_append, joined_singleton, Piece.bytes,
      List.take_append_of_le_length short, List.append_assoc]

end Framed

end FxToushi.Brokers
