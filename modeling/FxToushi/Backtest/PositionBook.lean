import FxToushi.Backtest.Conservation

namespace FxToushi.Backtest

open Data Py

/-! # Removal from the position list

The loops of the source go over snapshots of references: a stop is trailed in
place, and `open_positions.remove(pos)` takes out the first entry that is the
object or compares equal to it.  This is what the passes of the simulator do.
-/

/-- The objects by their identity, and the list that refers to them. -/
structure PositionBook where
  object : Nat → Position
  entries : List Nat

namespace PositionBook

def positions (book : PositionBook) : List Position := book.entries.map book.object

def write (book : PositionBook) (id : Nat) (pos : Position) : PositionBook :=
  { book with object := Function.update book.object id pos }

def matching (book : PositionBook) (id other : Nat) : Bool :=
  other == id || book.object other == book.object id

/-- `remove`, which raises when no entry matches. -/
def remove (book : PositionBook) (id : Nat) : Except PyError PositionBook :=
  if book.entries.any (book.matching id) then
    .ok { book with entries := book.entries.eraseP (book.matching id) }
  else .error .valueError

def symbolEntries (book : PositionBook) (symbol : String) (entries : List Nat) : List Nat :=
  entries.filter (fun id => (book.object id).symbol == symbol)

def exitLoop (config : PocConfig) (bar : Bar) :
    List Nat → PocState → PositionBook → Except PyError (PocState × PositionBook)
  | [], state, book => .ok (state, book)
  | id :: rest, state, book =>
    let pos := trailStop config bar.row (book.object id)
    let trailed := book.write id pos
    match exitLevel bar.ts bar.row pos with
    | some level => do
        let removed ← trailed.remove id
        exitLoop config bar rest (settle config bar.ts pos level state) removed
    | none => exitLoop config bar rest state trailed

def residualLoop (config : PocConfig) (bars : List Bar) (ts : Timestamp) :
    List Nat → PocState → PositionBook → Except PyError (PocState × PositionBook)
  | [], state, book => .ok (state, book)
  | id :: rest, state, book => do
      let pos := book.object id
      let removed ← book.remove id
      residualLoop config bars ts rest (settle config ts pos (lastClose bars pos.symbol) state)
        removed

theorem remove_of_first {book : PositionBook} {id : Nat} {before rest : List Nat}
    (entries : book.entries = before ++ id :: rest)
    (first : ∀ other ∈ before, other ≠ id ∧ book.object other ≠ book.object id) :
    book.remove id = .ok { book with entries := before ++ rest } := by
  have present : book.entries.any (book.matching id) = true := by
    simp [entries, matching]
  have skipped : ∀ other ∈ before, book.matching id other = false := by
    intro other member
    simp [matching, first other member]
  have self : book.matching id id = true := by simp [matching]
  rw [remove, if_pos present, entries, List.eraseP_append_right _ (by simpa using skipped),
    List.eraseP_cons_of_pos self]

theorem write_object_of_ne {book : PositionBook} {id other : Nat} {pos : Position}
    (different : other ≠ id) : (book.write id pos).object other = book.object other :=
  Function.update_of_ne different _ _

theorem write_object_self (book : PositionBook) (id : Nat) (pos : Position) :
    (book.write id pos).object id = pos := Function.update_self ..

/-- Entries that the loop has passed: of another symbol, or staying. -/
def Passed (bar : Bar) (pos : Position) : Prop :=
  pos.symbol = bar.symbol → exitLevel bar.ts bar.row pos = none

theorem map_write {book : PositionBook} {id : Nat} {entries : List Nat} (absent : id ∉ entries)
    (pos : Position) : entries.map (book.write id pos).object = entries.map book.object :=
  List.map_congr_left fun _ member =>
    write_object_of_ne (fun same => absent (same ▸ member))

theorem symbolEntries_write {book : PositionBook} {id : Nat} {entries : List Nat}
    (absent : id ∉ entries) (symbol : String) (pos : Position) :
    (book.write id pos).symbolEntries symbol entries = book.symbolEntries symbol entries :=
  List.filter_congr fun other member => by
    have different : other ≠ id := fun same => absent (same ▸ member)
    rw [write_object_of_ne different]

/-- An object the loop takes out equals none that it has passed, since they
would have left as well. -/
theorem ne_of_passed {bar : Bar} {pos other : Position} {level : Rat}
    (same : pos.symbol = bar.symbol) (reached : exitLevel bar.ts bar.row pos = some level)
    (passed : Passed bar other) : other ≠ pos := by
  rintro rfl
  rw [passed same] at reached
  exact absurd reached (by simp)

theorem passed_write {bar : Bar} {book : PositionBook} {id : Nat} {before : List Nat}
    (absent : id ∉ before) (pos : Position)
    (passed : ∀ other ∈ before, Passed bar (book.object other)) :
    ∀ other ∈ before, Passed bar ((book.write id pos).object other) := by
  intro other member
  have different : other ≠ id := fun same => absent (same ▸ member)
  rw [write_object_of_ne different]
  exact passed other member

theorem remove_reached {bar : Bar} {book : PositionBook} {id : Nat} {before rest : List Nat}
    {pos : Position} {level : Rat} (entries : book.entries = before ++ id :: rest)
    (absent : id ∉ before) (passed : ∀ other ∈ before, Passed bar (book.object other))
    (same : pos.symbol = bar.symbol) (reached : exitLevel bar.ts bar.row pos = some level) :
    (book.write id pos).remove id = .ok { book.write id pos with entries := before ++ rest } := by
  refine remove_of_first entries fun other member => ?_
  refine ⟨fun same => absent (same ▸ member), ?_⟩
  rw [write_object_self]
  exact ne_of_passed same reached (passed_write absent pos passed other member)

theorem exitLoop_eq_managePositions {config : PocConfig} {bar : Bar} (book : PositionBook)
    (before rest : List Nat) (state : PocState)
    (entries : book.entries = before ++ rest) (distinct : book.entries.Nodup)
    (passed : ∀ id ∈ before, Passed bar (book.object id)) :
    ∃ after : PositionBook,
      exitLoop config bar (book.symbolEntries bar.symbol rest) state book =
          .ok ((managePositions config bar state (rest.map book.object)).1, after) ∧
        after.positions = before.map book.object ++
          (managePositions config bar state (rest.map book.object)).2 ∧
        after.entries.Nodup := by
  induction rest generalizing book before state with
  | nil =>
    refine ⟨book, rfl, ?_, distinct⟩
    rw [positions, entries]
    simp [managePositions]
  | cons id rest ih =>
    have unique := distinct
    rw [entries, List.nodup_middle, List.nodup_cons, List.mem_append, not_or] at unique
    obtain ⟨⟨notBefore, notLater⟩, remaining⟩ := unique
    have shifted : book.entries = (before ++ [id]) ++ rest := by rw [entries]; simp
    by_cases same : (book.object id).symbol = bar.symbol
    · have snapshot : book.symbolEntries bar.symbol (id :: rest) =
          id :: book.symbolEntries bar.symbol rest := List.filter_cons_of_pos (by simpa using same)
      let trailed := book.write id (trailStop config bar.row (book.object id))
      have earlier : ∀ other ∈ before, Passed bar (trailed.object other) :=
        passed_write notBefore _ passed
      rw [snapshot, List.map_cons, ← symbolEntries_write notLater bar.symbol
          (trailStop config bar.row (book.object id)),
        ← map_write notLater (trailStop config bar.row (book.object id)),
        ← map_write notBefore (trailStop config bar.row (book.object id))]
      cases reached : exitLevel bar.ts bar.row (trailStop config bar.row (book.object id)) with
      | some level =>
        have removed : trailed.remove id = .ok { trailed with entries := before ++ rest } :=
          remove_reached entries notBefore passed ((trailStop_symbol ..).trans same) reached
        obtain ⟨after, looped, kept, unique⟩ := ih { trailed with entries := before ++ rest }
          before (settle config bar.ts (trailStop config bar.row (book.object id)) level state)
          rfl remaining earlier
        refine ⟨after, ?_, ?_, unique⟩
        · simp only [exitLoop, reached]
          rw [show (book.write id _).remove id = _ from removed]
          simp only [managePositions, same, if_true, reached]
          exact looped
        · simp only [managePositions, same, if_true, reached]
          exact kept
      | none =>
        have self : Passed bar (trailed.object id) := by
          rw [write_object_self]
          exact fun _ => reached
        obtain ⟨after, looped, kept, unique⟩ := ih trailed (before ++ [id]) state shifted distinct
          (by simpa [or_imp, forall_and] using ⟨earlier, self⟩)
        refine ⟨after, ?_, ?_, unique⟩
        · simp only [exitLoop, managePositions, same, if_true, reached]
          exact looped
        · simp only [managePositions, same, if_true, reached]
          rw [kept, List.map_append, List.map_singleton, List.append_assoc,
            write_object_self, List.singleton_append]
    · have snapshot : book.symbolEntries bar.symbol (id :: rest) =
          book.symbolEntries bar.symbol rest := List.filter_cons_of_neg (by simpa using same)
      have self : Passed bar (book.object id) := fun matched => absurd matched same
      obtain ⟨after, looped, kept, unique⟩ := ih book (before ++ [id]) state shifted distinct
        (by simpa [or_imp, forall_and] using ⟨passed, self⟩)
      rw [snapshot, List.map_cons]
      refine ⟨after, ?_, ?_, unique⟩
      · simpa only [managePositions, same, if_false] using looped
      · simpa [managePositions, same] using kept

theorem exitLoop_eq_exitPass (config : PocConfig) (bar : Bar) (book : PositionBook)
    (state : PocState) (distinct : book.entries.Nodup) (held : state.positions = book.positions) :
    ∃ after : PositionBook, ∃ closed,
      exitLoop config bar (book.symbolEntries bar.symbol book.entries) state book =
          .ok (closed, after) ∧
        exitPass config state bar = { closed with positions := after.positions } ∧
        after.entries.Nodup := by
  obtain ⟨after, looped, kept, unique⟩ := exitLoop_eq_managePositions book []
    book.entries state rfl distinct (fun _ member => absurd member List.not_mem_nil)
  refine ⟨after, _, looped, ?_, unique⟩
  rw [exitPass, held, kept]
  rfl

theorem residualLoop_eq (config : PocConfig) (bars : List Bar) (ts : Timestamp)
    (book : PositionBook) (state : PocState) :
    residualLoop config bars ts book.entries state book =
      .ok (book.positions.foldl
        (fun state pos => settle config ts pos (lastClose bars pos.symbol) state) state,
        { book with entries := [] }) := by
  obtain ⟨object, entries⟩ := book
  induction entries generalizing state with
  | nil => rfl
  | cons id rest ih =>
    have removed : PositionBook.remove ⟨object, id :: rest⟩ id = .ok ⟨object, rest⟩ :=
      remove_of_first (List.nil_append (id :: rest)).symm
        (fun _ member => absurd member List.not_mem_nil)
    simp only [residualLoop]
    rw [removed]
    exact ih _

end PositionBook

end FxToushi.Backtest
