import Mathlib.Data.List.Infix
import Mathlib.Data.List.Lex
import Mathlib.Order.Lattice

namespace FxToushi.Data

/-! # Lexicographic comparison

Of two lists neither of which is a prefix of the other, the first place where
they part decides.  Where equality and order are separate tests, as in a
language whose numbers hold one that equals nothing, a comparison goes by the
first place where the test for sameness fails.
-/

section Forks

variable {α β : Type*} [LinearOrder α] [LinearOrder β]

theorem exists_fork {left right : List α} (ahead : ¬ left <+: right) (behind : ¬ right <+: left) :
    ∃ shared first second lefts rights, left = shared ++ first :: lefts ∧
      right = shared ++ second :: rights ∧ first ≠ second := by
  induction left generalizing right with
  | nil => exact absurd List.nil_prefix ahead
  | cons first lefts ih =>
    cases right with
    | nil => exact absurd List.nil_prefix behind
    | cons second rights =>
      by_cases same : first = second
      · subst same
        rw [List.cons_prefix_cons] at ahead behind
        obtain ⟨shared, third, fourth, thirds, fourths, rfl, rfl, differ⟩ :=
          ih (fun shorter => ahead ⟨rfl, shorter⟩) (fun shorter => behind ⟨rfl, shorter⟩)
        exact ⟨first :: shared, third, fourth, thirds, fourths, rfl, rfl, differ⟩
      · exact ⟨[], first, second, lefts, rights, rfl, rfl, same⟩

theorem fork_lt_iff {shared lefts rights : List α} {first second : α} (differ : first ≠ second) :
    shared ++ first :: lefts < shared ++ second :: rights ↔ first < second := by
  induction shared with
  | nil =>
    rw [List.nil_append, List.nil_append, List.cons_lt_cons_iff]
    exact or_iff_left fun same => differ same.1
  | cons head shared ih =>
    rw [List.cons_append, List.cons_append, List.cons_lt_cons_iff, ih]
    exact ⟨fun either => either.resolve_left (lt_irrefl head) |>.2, fun less => .inr ⟨rfl, less⟩⟩

theorem not_lt_of_prefix {left right : List α} (shorter : right <+: left) : ¬ left < right := by
  obtain ⟨rest, rfl⟩ := shorter
  induction right with
  | nil => exact List.not_lt_nil rest
  | cons head right ih =>
    rw [List.cons_append, List.cons_lt_cons_iff]
    exact fun either => either.elim (lt_irrefl head) fun tail => ih tail.2

/-- A map that turns the order of the elements around turns the order of two lists
around, unless one is a prefix of the other. -/
theorem map_lt_map_iff {turn : α → β} {left right : List α}
    (turns : ∀ first ∈ left, ∀ second ∈ right, turn first < turn second ↔ second < first)
    (apart : ∀ first ∈ left, ∀ second ∈ right, turn first = turn second → first = second)
    (ahead : ¬ left <+: right) (behind : ¬ right <+: left) :
    left.map turn < right.map turn ↔ right < left := by
  obtain ⟨shared, first, second, lefts, rights, rfl, rfl, differ⟩ := exists_fork ahead behind
  have firstMember : first ∈ shared ++ first :: lefts := by simp
  have secondMember : second ∈ shared ++ second :: rights := by simp
  have turnedDiffer : turn first ≠ turn second := fun same =>
    differ (apart first firstMember second secondMember same)
  rw [List.map_append, List.map_append, List.map_cons, List.map_cons, fork_lt_iff turnedDiffer,
    fork_lt_iff differ.symm]
  exact turns first firstMember second secondMember

end Forks

/-! ## Comparison by two tests -/

section Tests

variable {α : Type*}

/-- The comparison of two tuples, where `same` also knows the place. -/
def tupleLess (same : Nat → α → α → Bool) (less : α → α → Bool) : List α → List α → Bool
  | left :: lefts, right :: rights =>
    if same 0 left right then tupleLess (fun place => same (place + 1)) less lefts rights
    else less left right
  | [], _ :: _ => true
  | _, [] => false

end Tests

end FxToushi.Data
