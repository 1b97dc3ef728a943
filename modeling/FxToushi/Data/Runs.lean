import Mathlib.Data.List.Basic

namespace FxToushi.Data

/-! # Runs of a deterministic step function

A component is a state, a type of actions and a step function.  A run is the
list of actions taken from a start state.  `Throughout` speaks about every
state the run passes through and `EachStep` about every action together with
the state it is taken in, so an invariant is proved once for one step and then
carried over the run by the rules below.
-/

variable {State Action : Type*}

def runFrom (step : State → Action → State) (start : State) (actions : List Action) : State :=
  actions.foldl step start

/-- `good` holds in every state of the run, the first and the last included. -/
def Throughout (step : State → Action → State) (good : State → Prop) :
    State → List Action → Prop
  | state, [] => good state
  | state, action :: rest => good state ∧ Throughout step good (step state action) rest

/-- Every action of the run is taken in a state that meets `condition`. -/
def EachStep (step : State → Action → State) (condition : State → Action → Prop) :
    State → List Action → Prop
  | _, [] => True
  | state, action :: rest =>
    condition state action ∧ EachStep step condition (step state action) rest

instance EachStep.decidable (step : State → Action → State)
    (condition : State → Action → Prop) [∀ state action, Decidable (condition state action)] :
    ∀ start actions, Decidable (EachStep step condition start actions)
  | _, [] => .isTrue trivial
  | start, action :: rest =>
    have := EachStep.decidable step condition (step start action) rest
    inferInstanceAs (Decidable (_ ∧ _))

section Rules

variable {step : State → Action → State} {good weaker : State → Prop}
  {condition : State → Action → Prop} {start : State} {actions : List Action}

theorem Throughout.head (holds : Throughout step good start actions) : good start := by
  cases actions with
  | nil => exact holds
  | cons action rest => exact holds.1

theorem Throughout.imp (weaken : ∀ state, good state → weaker state)
    (holds : Throughout step good start actions) : Throughout step weaker start actions := by
  induction actions generalizing start with
  | nil => exact weaken _ holds
  | cons action rest ih => exact ⟨weaken _ holds.1, ih holds.2⟩

theorem throughout_iff_prefix :
    Throughout step good start actions ↔
      ∀ taken later, actions = taken ++ later → good (runFrom step start taken) := by
  induction actions generalizing start with
  | nil =>
    constructor
    · intro holds taken later split
      obtain ⟨rfl, rfl⟩ := List.append_eq_nil_iff.mp split.symm
      exact holds
    · intro every
      exact every [] [] rfl
  | cons action rest ih =>
    constructor
    · intro holds taken later split
      cases taken with
      | nil => exact holds.1
      | cons first taken =>
        obtain ⟨rfl, rfl⟩ := List.cons.inj split
        exact ih.mp holds.2 taken later rfl
    · intro every
      refine ⟨every [] _ rfl, ih.mpr ?_⟩
      intro taken later split
      exact every (action :: taken) later (by rw [split]; rfl)

theorem Throughout.final (holds : Throughout step good start actions) :
    good (runFrom step start actions) :=
  throughout_iff_prefix.mp holds actions [] (List.append_nil actions).symm

theorem Throughout.eachStep (implies : ∀ state action, good state → condition state action)
    (holds : Throughout step good start actions) : EachStep step condition start actions := by
  induction actions generalizing start with
  | nil => trivial
  | cons action rest ih => exact ⟨implies start action holds.1, ih holds.2⟩

theorem eachStep_append {first second : List Action} :
    EachStep step condition start (first ++ second) ↔
      EachStep step condition start first ∧
        EachStep step condition (runFrom step start first) second := by
  induction first generalizing start with
  | nil => exact ⟨fun later => ⟨trivial, later⟩, fun both => both.2⟩
  | cons action rest ih => exact (and_congr_right (fun _ => ih)).trans and_assoc.symm

/-- The invariant rule: one step preserves `good` under `condition`, so a run
whose steps all meet `condition` stays in `good`. -/
theorem throughout_of_eachStep
    (preserved : ∀ state action, good state → condition state action → good (step state action))
    (initial : good start) (meets : EachStep step condition start actions) :
    Throughout step good start actions := by
  induction actions generalizing start with
  | nil => exact initial
  | cons action rest ih =>
    exact ⟨initial, ih (preserved start action initial meets.1) meets.2⟩

theorem throughout_of_step (preserved : ∀ state action, good state → good (step state action))
    (initial : good start) : Throughout step good start actions := by
  induction actions generalizing start with
  | nil => exact initial
  | cons action rest ih => exact ⟨initial, ih (preserved start action initial)⟩

/-- Where `condition` keeps an invariant and is needed for `good`, given what
every step is promised to meet, a run stays in `good` exactly when each of its
steps meets `condition`. -/
theorem throughout_iff_eachStep_of_promise {promise : State → Action → Prop}
    (invariant : State → Prop) (sound : ∀ state, invariant state → good state)
    (kept : ∀ state action, invariant state → promise state action → condition state action →
      invariant (step state action))
    (needed : ∀ state action, invariant state → promise state action →
      good (step state action) → condition state action)
    (initial : invariant start) (promised : EachStep step promise start actions) :
    Throughout step good start actions ↔ EachStep step condition start actions := by
  induction actions generalizing start with
  | nil => exact ⟨fun _ => trivial, fun _ => sound start initial⟩
  | cons action rest ih =>
    constructor
    · intro holds
      have meets := needed start action initial promised.1 holds.2.head
      have later := kept start action initial promised.1 meets
      exact ⟨meets, (ih later promised.2).mp holds.2⟩
    · intro meets
      have later := kept start action initial promised.1 meets.1
      exact ⟨sound start initial, (ih later promised.2).mpr meets.2⟩

theorem EachStep.imp {other : State → Action → Prop}
    (weaken : ∀ state action, condition state action → other state action)
    (meets : EachStep step condition start actions) : EachStep step other start actions := by
  induction actions generalizing start with
  | nil => trivial
  | cons action rest ih => exact ⟨weaken start action meets.1, ih meets.2⟩

theorem EachStep.and {other : State → Action → Prop} (left : EachStep step condition start actions)
    (right : EachStep step other start actions) :
    EachStep step (fun state action => condition state action ∧ other state action) start
      actions := by
  induction actions generalizing start with
  | nil => trivial
  | cons action rest ih => exact ⟨⟨left.1, right.1⟩, ih left.2 right.2⟩

theorem eachStep_of_mem {meets : Action → Prop} (every : ∀ action ∈ actions, meets action) :
    EachStep step (fun _ action => meets action) start actions := by
  induction actions generalizing start with
  | nil => trivial
  | cons action rest ih =>
    exact ⟨every action List.mem_cons_self,
      ih (fun other member => every other (List.mem_cons_of_mem _ member))⟩

theorem eachStep_of_forall (meets : ∀ state action, condition state action) :
    EachStep step condition start actions := by
  induction actions generalizing start with
  | nil => trivial
  | cons action rest ih => exact ⟨meets start action, ih⟩

theorem throughout_iff_eachStep (invariant : State → Prop)
    (sound : ∀ state, invariant state → good state)
    (kept : ∀ state action, invariant state → condition state action →
      invariant (step state action))
    (needed : ∀ state action, invariant state → good (step state action) →
      condition state action)
    (initial : invariant start) :
    Throughout step good start actions ↔ EachStep step condition start actions :=
  throughout_iff_eachStep_of_promise invariant sound
    (fun state action holds _ => kept state action holds)
    (fun state action holds _ => needed state action holds) initial
    (eachStep_of_forall fun (_ : State) (_ : Action) => trivial)

theorem throughout_of_final (inherited : ∀ state action, good (step state action) → good state)
    (final : good (runFrom step start actions)) : Throughout step good start actions := by
  induction actions generalizing start with
  | nil => exact final
  | cons action rest ih =>
    have later := ih final
    exact ⟨inherited start action later.head, later⟩

theorem Throughout.afterEachStep (holds : Throughout step good start actions) :
    EachStep step (fun state action => good (step state action)) start actions := by
  induction actions generalizing start with
  | nil => trivial
  | cons action rest ih => exact ⟨holds.2.head, ih holds.2⟩

theorem eachStep_congr {other : State → Action → Prop}
    (same : ∀ action ∈ actions, ∀ state, condition state action ↔ other state action) :
    EachStep step condition start actions ↔ EachStep step other start actions := by
  induction actions generalizing start with
  | nil => exact Iff.rfl
  | cons action rest ih =>
    have later : ∀ other ∈ rest, ∀ state, condition state other ↔ _ :=
      fun other member => same other (List.mem_cons_of_mem _ member)
    exact and_congr (same action List.mem_cons_self start) (ih later)

theorem eachStep_congr_of_promise {promise other : State → Action → Prop}
    (agree : ∀ state action, promise state action →
      (other state action ↔ condition state action))
    (promised : EachStep step promise start actions) :
    EachStep step other start actions ↔ EachStep step condition start actions := by
  induction actions generalizing start with
  | nil => exact Iff.rfl
  | cons action rest ih => exact and_congr (agree start action promised.1) (ih promised.2)

theorem eachStep_iff_of_invariant {other : State → Action → Prop} (invariant : State → Prop)
    (kept : ∀ state action, invariant state → condition state action →
      invariant (step state action))
    (agree : ∀ state action, invariant state → (other state action ↔ condition state action))
    (initial : invariant start) :
    EachStep step other start actions ↔ EachStep step condition start actions := by
  induction actions generalizing start with
  | nil => exact Iff.rfl
  | cons action rest ih =>
    constructor
    · intro meets
      have first := (agree start action initial).mp meets.1
      exact ⟨first, (ih (kept start action initial first)).mp meets.2⟩
    · intro meets
      have later := kept start action initial meets.1
      exact ⟨(agree start action initial).mpr meets.1, (ih later).mpr meets.2⟩

theorem runFrom_counter_le {counter : State → Nat} {ticks : Action → Bool}
    (advances : ∀ state action,
      counter (step state action) ≤ counter state + if ticks action then 1 else 0)
    (start : State) (actions : List Action) :
    counter (runFrom step start actions) ≤ counter start + actions.countP ticks := by
  induction actions generalizing start with
  | nil => exact Nat.le_refl _
  | cons action rest ih =>
    have first := advances start action
    have later := ih (step start action)
    rw [List.countP_cons]
    exact Nat.le_trans later (by omega)

end Rules

/-! ## A run that remembers more

`step` on the states and `traced` on states that carry more, which `forget`
leaves out.
-/

section Forget

variable {Traced : Type*} {step : State → Action → State} {traced : Traced → Action → Traced}
  {forget : Traced → State}

theorem runFrom_forget
    (follows : ∀ state action, forget (traced state action) = step (forget state) action)
    (start : Traced) (actions : List Action) :
    forget (runFrom traced start actions) = runFrom step (forget start) actions := by
  induction actions generalizing start with
  | nil => rfl
  | cons action rest ih =>
    have stepped := ih (traced start action)
    rwa [follows] at stepped

theorem eachStep_forget {condition : State → Action → Prop}
    (follows : ∀ state action, forget (traced state action) = step (forget state) action)
    {start : Traced} {actions : List Action} :
    EachStep traced (fun state action => condition (forget state) action) start actions ↔
      EachStep step condition (forget start) actions := by
  induction actions generalizing start with
  | nil => exact Iff.rfl
  | cons action rest ih =>
    have later := @ih (traced start action)
    rw [follows] at later
    exact and_congr_right fun _ => later

end Forget

end FxToushi.Data

namespace FxToushi.Data

/-! # Interrupted changes

Changes that are made one after the other, until one of them fails.  The one
that fails is not made, or leaves something torn behind.
-/

/-- So many changes are made, and what the next one leaves if it is torn. -/
structure Interruption (Torn : Type*) where
  made : Nat
  torn : Option Torn
deriving Repr, DecidableEq

/-- It fails before the first change. -/
def Interruption.atOnce {Torn : Type*} : Interruption Torn where
  made := 0
  torn := none

section

variable {State Change Torn : Type*}

/-- Whether the changes are interrupted, or what follows them, and the state they leave. -/
def interrupted (apply : State → Change → State) (tear : State → Change → Torn → State)
    (start : State) (changes : List Change) : Option (Interruption Torn) → Bool × State
  | none => (false, runFrom apply start changes)
  | some fault =>
    if changes.length < fault.made then (false, runFrom apply start changes)
    else
      let state := runFrom apply start (changes.take fault.made)
      match changes[fault.made]?, fault.torn with
      | some change, some torn => (true, tear state change torn)
      | _, _ => (true, state)

variable {apply : State → Change → State} {tear : State → Change → Torn → State} {start : State}
  {changes : List Change}

theorem interrupted_atOnce :
    interrupted apply tear start changes (some .atOnce) = (true, start) := by
  unfold interrupted Interruption.atOnce
  cases changes <;> rfl

theorem interrupted_late {fault : Interruption Torn} (late : changes.length ≤ fault.made) :
    (interrupted apply tear start changes (some fault)).2 = runFrom apply start changes := by
  simp only [interrupted, List.getElem?_eq_none late, List.take_of_length_le late]
  split
  · rfl
  · rfl

/-- It fails after something is changed and before all is. -/
def Midway (count : Nat) : Option (Interruption Torn) → Prop
  | none => False
  | some fault => fault ≠ .atOnce ∧ fault.made < count

theorem interrupted_of_not_midway {fault : Option (Interruption Torn)}
    (never : ¬ Midway changes.length fault) :
    (interrupted apply tear start changes fault).2 = start ∨
      (interrupted apply tear start changes fault).2 = runFrom apply start changes := by
  cases fault with
  | none => exact .inr rfl
  | some fault =>
    by_cases first : fault = .atOnce
    · subst first
      rw [interrupted_atOnce]
      exact .inl rfl
    · refine .inr (interrupted_late ?_)
      by_contra short
      exact never ⟨first, Nat.lt_of_not_le short⟩

end

end FxToushi.Data
