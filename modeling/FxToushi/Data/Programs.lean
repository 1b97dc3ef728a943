import Mathlib.Control.Basic

namespace FxToushi.Data

/-! # Programs that raise

An `EStateM` program that raises keeps the state it has come to, and so does a
handler that takes over.  A program about a part of the state runs within the
whole one.  `Preserves` is what holds at the end of a program, returned or
raised, of every state it holds of at the start.
-/

variable {Error State Part Value Result : Type}

/-- The state in which the program ends. -/
def finalState : EStateM.Result Error State Value → State
  | .ok _ state => state
  | .error _ state => state

/-- The program about a part of the state, run within the whole state. -/
def within (get : State → Part) (put : Part → State → State)
    (program : EStateM Error Part Value) : EStateM Error State Value := fun state =>
  match program.run (get state) with
  | .ok value part => .ok value (put part state)
  | .error error part => .error error (put part state)

theorem run_within (get : State → Part) (put : Part → State → State)
    (program : EStateM Error Part Value) (state : State) :
    (within get put program).run state =
      match program.run (get state) with
      | .ok value part => .ok value (put part state)
      | .error error part => .error error (put part state) := rfl

theorem run_tryCatch (program : EStateM Error State Value)
    (handler : Error → EStateM Error State Value) (state : State) :
    (tryCatch program handler).run state =
      match program.run state with
      | .ok value after => .ok value after
      | .error error after => (handler error).run after := by
  change EStateM.tryCatch program handler state = _
  unfold EStateM.tryCatch
  cases ended : program state with
  | ok value after => simp [EStateM.run, ended]
  | error error after =>
    simp only [EStateM.run, ended]
    rfl

theorem run_throw (error : Error) (state : State) :
    (throw error : EStateM Error State Value).run state = .error error state := rfl

def Preserves (good : State → Prop) (program : EStateM Error State Value) : Prop :=
  ∀ state, good state → good (finalState (program.run state))

section Rules

variable {good : State → Prop} {program : EStateM Error State Value}

theorem preserves_pure (value : Value) :
    Preserves good (pure value : EStateM Error State Value) :=
  fun _ holds => holds

theorem preserves_throw (error : Error) :
    Preserves good (throw error : EStateM Error State Value) :=
  fun _ holds => holds

theorem preserves_bind {next : Value → EStateM Error State Result}
    (first : Preserves good program) (second : ∀ value, Preserves good (next value)) :
    Preserves good (program >>= next) := by
  intro state holds
  have after := first state holds
  rw [EStateM.run_bind]
  cases ended : program.run state with
  | ok value later =>
    rw [ended] at after
    exact second value later after
  | error error later =>
    rw [ended] at after
    exact after

theorem preserves_modify {update : State → State}
    (kept : ∀ state, good state → good (update state)) :
    Preserves good (modify update : EStateM Error State PUnit) :=
  fun state holds => kept state holds

theorem preserves_tryCatch {handler : Error → EStateM Error State Value}
    (tried : Preserves good program) (handled : ∀ error, Preserves good (handler error)) :
    Preserves good (tryCatch program handler) := by
  intro state holds
  have after := tried state holds
  rw [run_tryCatch]
  cases ended : program.run state with
  | ok value later =>
    rw [ended] at after
    exact after
  | error error later =>
    rw [ended] at after
    exact handled error later after

theorem preserves_within {get : State → Part} {put : Part → State → State}
    (apart : ∀ part state, good state → good (put part state))
    (program : EStateM Error Part Value) : Preserves good (within get put program) := by
  intro state holds
  rw [run_within]
  cases program.run (get state) with
  | ok value part => exact apart part state holds
  | error error part => exact apart part state holds

end Rules

end FxToushi.Data
