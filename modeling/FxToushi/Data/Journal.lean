import Mathlib.Data.List.Basic

namespace FxToushi.Data

/-! # Work that stops at its first failure

A piece of work leaves a record of what it did, also when it failed in the
end.  Doing one piece for every item of a list stops at the first that fails,
so what is on record is what the items up to there did.
-/

structure Journal (Event Error : Type*) where
  events : List Event
  failure : Option Error := none
deriving Repr, DecidableEq

namespace Journal

variable {Item Event Error : Type*}

def done (events : List Event) : Journal Event Error := { events }

def failed (error : Error) : Journal Event Error where
  events := []
  failure := some error

def ofExcept : Except Error Event → Journal Event Error
  | .ok event => done [event]
  | .error error => failed error

def andThen (first second : Journal Event Error) : Journal Event Error :=
  match first.failure with
  | some _ => first
  | none => { events := first.events ++ second.events, failure := second.failure }

def each (work : Item → Journal Event Error) : List Item → Journal Event Error
  | [] => done []
  | item :: rest => (work item).andThen (each work rest)

variable {first second : Journal Event Error} {work : Item → Journal Event Error}
  {items : List Item} {event : Event}

theorem andThen_of_failure (broke : first.failure ≠ none) : first.andThen second = first := by
  unfold andThen
  cases failure : first.failure with
  | some error => rfl
  | none => exact absurd failure broke

theorem andThen_of_success (passed : first.failure = none) :
    first.andThen second = { events := first.events ++ second.events
                             failure := second.failure } := by
  rw [andThen, passed]

theorem mem_andThen_iff :
    event ∈ (first.andThen second).events ↔
      event ∈ first.events ∨ first.failure = none ∧ event ∈ second.events := by
  cases failure : first.failure with
  | some error =>
    have stopped : first.andThen second = first := andThen_of_failure (by simp [failure])
    simp [stopped]
  | none => simp [andThen_of_success failure]

theorem andThen_failure_none_iff :
    (first.andThen second).failure = none ↔ first.failure = none ∧ second.failure = none := by
  cases failure : first.failure with
  | some error =>
    have stopped : first.andThen second = first := andThen_of_failure (by simp [failure])
    simp [stopped, failure]
  | none => simp [andThen_of_success failure]

theorem each_failure_none_iff :
    (each work items).failure = none ↔ ∀ item ∈ items, (work item).failure = none := by
  induction items with
  | nil => simp [each, done]
  | cons item rest ih => rw [each, andThen_failure_none_iff, ih, List.forall_mem_cons]

theorem each_failure_of_split {before after : List Item} {item : Item} {error : Error}
    (passed : ∀ earlier ∈ before, (work earlier).failure = none)
    (broke : (work item).failure = some error) :
    (each work (before ++ item :: after)).failure = some error := by
  induction before with
  | nil =>
    rw [List.nil_append, each, andThen_of_failure (by simp [broke]), broke]
  | cons first before ih =>
    obtain ⟨firstPassed, later⟩ := List.forall_mem_cons.mp passed
    rw [List.cons_append, each, andThen_of_success firstPassed]
    exact ih later

theorem mem_each {item : Item} (member : item ∈ items) (passed : (each work items).failure = none)
    (recorded : event ∈ (work item).events) : event ∈ (each work items).events := by
  induction items with
  | nil => exact absurd member List.not_mem_nil
  | cons other rest ih =>
    rw [each, andThen_failure_none_iff] at passed
    rw [each, mem_andThen_iff]
    rcases List.mem_cons.mp member with rfl | later
    · exact .inl recorded
    · exact .inr ⟨passed.1, ih later passed.2⟩

/-- What is on record was done by an item all of whose predecessors passed. -/
theorem mem_each_iff :
    event ∈ (each work items).events ↔
      ∃ before item after, items = before ++ item :: after ∧
        (∀ earlier ∈ before, (work earlier).failure = none) ∧ event ∈ (work item).events := by
  induction items with
  | nil => simp [each, done]
  | cons first rest ih =>
    rw [each, mem_andThen_iff, ih]
    constructor
    · rintro (recorded | ⟨passed, before, item, after, rfl, earlier, recorded⟩)
      · exact ⟨[], first, rest, rfl, fun _ member => absurd member List.not_mem_nil, recorded⟩
      · exact ⟨first :: before, item, after, rfl, List.forall_mem_cons.mpr ⟨passed, earlier⟩,
          recorded⟩
    · rintro ⟨before, item, after, split, earlier, recorded⟩
      cases before with
      | nil =>
        obtain ⟨rfl, rfl⟩ := List.cons.inj split
        exact .inl recorded
      | cons head before =>
        obtain ⟨rfl, rfl⟩ := List.cons.inj split
        obtain ⟨passed, earlier⟩ := List.forall_mem_cons.mp earlier
        exact .inr ⟨passed, before, item, after, rfl, earlier, recorded⟩

end Journal

end FxToushi.Data
