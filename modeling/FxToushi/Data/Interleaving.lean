import FxToushi.Data.Runs
import Mathlib.Logic.Function.Iterate

namespace FxToushi.Data

/-! # Threads over a shared store

Each thread has a local state and one key of a store that the threads share.  A
step of a thread changes its local state and the cell under its key, unless the
scheduler holds the thread back.  A thread whose key no other thread writes to
runs as it would alone.
-/

structure Threads (Index Key Local Cell : Type*) where
  key : Index → Key
  act : Index → Local × Cell → Local × Cell
  ready : (Index → Local) → Index → Bool

@[ext] structure Shared (Index Key Local Cell : Type*) where
  locals : Index → Local
  store : Key → Cell

namespace Threads

variable {Index Key Local Cell : Type*} [DecidableEq Index] [DecidableEq Key]

/-- What a thread can see of the state. -/
def view (threads : Threads Index Key Local Cell) (state : Shared Index Key Local Cell)
    (index : Index) : Local × Cell :=
  (state.locals index, state.store (threads.key index))

def advance (threads : Threads Index Key Local Cell) (state : Shared Index Key Local Cell)
    (index : Index) : Shared Index Key Local Cell where
  locals := Function.update state.locals index (threads.act index (threads.view state index)).1
  store := Function.update state.store (threads.key index)
    (threads.act index (threads.view state index)).2

def step (threads : Threads Index Key Local Cell) (state : Shared Index Key Local Cell)
    (index : Index) : Shared Index Key Local Cell :=
  if threads.ready state.locals index then threads.advance state index else state

variable {threads : Threads Index Key Local Cell} {state start : Shared Index Key Local Cell}
  {index other : Index}

@[simp] theorem view_advance_self (threads : Threads Index Key Local Cell)
    (state : Shared Index Key Local Cell) (index : Index) :
    threads.view (threads.advance state index) index =
      threads.act index (threads.view state index) := by
  simp [view, advance]

theorem locals_advance_self (threads : Threads Index Key Local Cell)
    (state : Shared Index Key Local Cell) (index : Index) :
    (threads.advance state index).locals index =
      (threads.act index (threads.view state index)).1 :=
  Function.update_self _ _ _

theorem store_advance_self (threads : Threads Index Key Local Cell)
    (state : Shared Index Key Local Cell) (index : Index) :
    (threads.advance state index).store (threads.key index) =
      (threads.act index (threads.view state index)).2 :=
  Function.update_self _ _ _

theorem locals_advance (different : other ≠ index) :
    (threads.advance state index).locals other = state.locals other :=
  Function.update_of_ne different _ _

theorem store_advance {name : Key} (different : name ≠ threads.key index) :
    (threads.advance state index).store name = state.store name :=
  Function.update_of_ne different _ _

/-- In these local states the thread never changes its cell. -/
def Quiet (threads : Threads Index Key Local Cell) (index : Index) (quiet : Local → Prop) : Prop :=
  ∀ localState cell, quiet localState →
    quiet (threads.act index (localState, cell)).1 ∧
      (threads.act index (localState, cell)).2 = cell

/-- Every other thread with the same key is quiet. -/
def Alone (threads : Threads Index Key Local Cell) (start : Shared Index Key Local Cell)
    (index : Index) : Prop :=
  ∀ other, other ≠ index → threads.key other = threads.key index →
    ∃ quiet, quiet (start.locals other) ∧ threads.Quiet other quiet

theorem Quiet.advance {quiet : Local → Prop} (quietly : threads.Quiet index quiet)
    (here : quiet (state.locals index)) (moved : Index) :
    quiet ((threads.advance state moved).locals index) := by
  by_cases same : index = moved
  · subst same
    rw [locals_advance_self]
    exact (quietly _ _ here).1
  · rwa [locals_advance same]

theorem Quiet.run {quiet : Local → Prop} (quietly : threads.Quiet index quiet)
    (here : quiet (start.locals index)) (schedule : List Index) :
    quiet ((runFrom threads.step start schedule).locals index) := by
  induction schedule generalizing start with
  | nil => exact here
  | cons moved rest ih =>
    refine ih ?_
    rw [step]
    split
    · exact quietly.advance here moved
    · exact here

theorem Alone.advance (alone : threads.Alone state index) (moved : Index) :
    threads.Alone (threads.advance state moved) index := by
  intro other different sameKey
  obtain ⟨quiet, here, quietly⟩ := alone other different sameKey
  exact ⟨quiet, quietly.advance here moved, quietly⟩

theorem Alone.view_advance (alone : threads.Alone state index) (different : other ≠ index) :
    threads.view (threads.advance state other) index = threads.view state index := by
  rw [view, view, locals_advance (Ne.symm different)]
  by_cases sameKey : threads.key other = threads.key index
  · obtain ⟨quiet, here, quietly⟩ := alone other different sameKey
    have kept : (threads.advance state other).store (threads.key other) =
        state.store (threads.key other) :=
      (store_advance_self threads state other).trans (quietly _ _ here).2
    rw [← sameKey, kept]
  · rw [store_advance (Ne.symm sameKey)]

/-- What a thread sees that is alone at its key is what it sees after some steps
on its own. -/
theorem Alone.view_run (alone : threads.Alone start index) (schedule : List Index) :
    ∃ count, threads.view (runFrom threads.step start schedule) index =
      (threads.act index)^[count] (threads.view start index) := by
  induction schedule generalizing start with
  | nil => exact ⟨0, rfl⟩
  | cons moved rest ih =>
    by_cases ready : threads.ready start.locals moved = true
    · have run : runFrom threads.step start (moved :: rest) =
          runFrom threads.step (threads.advance start moved) rest :=
        congrArg (fun state => runFrom threads.step state rest) (if_pos ready)
      obtain ⟨count, seen⟩ := ih (alone.advance moved)
      rw [run, seen]
      by_cases same : moved = index
      · subst same
        exact ⟨count + 1, by rw [view_advance_self, Function.iterate_succ_apply]⟩
      · exact ⟨count, by rw [alone.view_advance same]⟩
    · have run : runFrom threads.step start (moved :: rest) = runFrom threads.step start rest :=
        congrArg (fun state => runFrom threads.step state rest) (if_neg ready)
      obtain ⟨count, seen⟩ := ih alone
      exact ⟨count, by rw [run, seen]⟩

/-- A thread that is never held back changes what it sees only. -/
theorem view_run_own (threads : Threads Index Key Local Cell) (going : Local → Prop)
    (lets : ∀ locals, going (locals index) → threads.ready locals index = true)
    (goes : ∀ localState cell, going localState → going (threads.act index (localState, cell)).1)
    (here : going (state.locals index)) (count : Nat) :
    threads.view (runFrom threads.step state (List.replicate count index)) index =
        (threads.act index)^[count] (threads.view state index) ∧
      (∀ other, other ≠ index →
        (runFrom threads.step state (List.replicate count index)).locals other =
          state.locals other) ∧
      ∀ name, name ≠ threads.key index →
        (runFrom threads.step state (List.replicate count index)).store name =
          state.store name := by
  induction count generalizing state with
  | zero => exact ⟨rfl, fun _ _ => rfl, fun _ _ => rfl⟩
  | succ count ih =>
    have run : runFrom threads.step state (List.replicate (count + 1) index) =
        runFrom threads.step (threads.advance state index) (List.replicate count index) :=
      congrArg (fun state => runFrom threads.step state (List.replicate count index))
        (if_pos (lets state.locals here))
    have still : going ((threads.advance state index).locals index) := by
      rw [locals_advance_self]
      exact goes _ _ here
    obtain ⟨seen, others, names⟩ := ih still
    rw [run]
    refine ⟨?_, fun other different => ?_, fun name different => ?_⟩
    · rw [seen, view_advance_self, Function.iterate_succ_apply]
    · rw [others other different, locals_advance different]
    · rw [names name different, store_advance different]

end Threads

end FxToushi.Data
