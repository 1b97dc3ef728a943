import FxToushi.Data.Fallible
import Mathlib.Order.Lattice

namespace FxToushi.Data

/-! # The greatest of a list

`max` goes through a list and keeps an item until one is greater; a comparison
may fail.
-/

variable {Item Error Score : Type*}

/-- The greatest of an item and those that follow. -/
def greatestFrom (less : Item → Item → Except Error Bool) : Item → List Item → Except Error Item
  | best, [] => .ok best
  | best, item :: rest =>
    match less best item with
    | .error error => .error error
    | .ok greater => greatestFrom less (if greater then item else best) rest

def greatest? (less : Item → Item → Except Error Bool) :
    List Item → Except Error (Option Item)
  | [] => .ok none
  | first :: rest => (greatestFrom less first rest).map some

variable [LinearOrder Score] {score : Item → Score} {items : List Item} {best : Item}

/-- The first of the items with the greatest score. -/
def FirstGreatest (score : Item → Score) (items : List Item) (best : Item) : Prop :=
  ∃ before after, items = before ++ best :: after ∧
    (∀ item ∈ before, score item < score best) ∧ ∀ item ∈ after, score item ≤ score best

namespace FirstGreatest

theorem mem (greatest : FirstGreatest score items best) : best ∈ items := by
  obtain ⟨before, after, rfl, -, -⟩ := greatest
  simp

theorem le (greatest : FirstGreatest score items best) {item : Item} (member : item ∈ items) :
    score item ≤ score best := by
  obtain ⟨before, after, rfl, less, least⟩ := greatest
  cases List.mem_append.mp member with
  | inl earlier => exact (less item earlier).le
  | inr later =>
    cases List.mem_cons.mp later with
    | inl same => exact same ▸ le_rfl
    | inr after => exact least item after

theorem cons_of_lt {item next : Item} {rest : List Item}
    (greatest : FirstGreatest score (next :: rest) best) (less : score item < score next) :
    FirstGreatest score (item :: next :: rest) best := by
  have least := less.trans_le (greatest.le List.mem_cons_self)
  obtain ⟨before, after, split, lower, upper⟩ := greatest
  refine ⟨item :: before, after, by rw [split, List.cons_append], ?_, upper⟩
  intro other member
  cases List.mem_cons.mp member with
  | inl same => exact same ▸ least
  | inr earlier => exact lower other earlier

/-- An item that is not greater than the one before is passed over. -/
theorem insert {item next : Item} {rest : List Item}
    (greatest : FirstGreatest score (item :: rest) best) (least : score next ≤ score item) :
    FirstGreatest score (item :: next :: rest) best := by
  have below := greatest.le List.mem_cons_self
  obtain ⟨before, after, split, lower, upper⟩ := greatest
  cases before with
  | nil =>
    obtain ⟨rfl, rfl⟩ := List.cons.inj split
    refine ⟨[], next :: rest, rfl, lower, ?_⟩
    intro other member
    cases List.mem_cons.mp member with
    | inl same => exact same ▸ least
    | inr later => exact upper other later
  | cons first before =>
    obtain ⟨rfl, rfl⟩ := List.cons.inj split
    refine ⟨item :: next :: before, after, rfl, ?_, upper⟩
    intro other member
    have first := lower item List.mem_cons_self
    cases List.mem_cons.mp member with
    | inl same => exact same ▸ first
    | inr later =>
      cases List.mem_cons.mp later with
      | inl same => exact same ▸ least.trans_lt first
      | inr earlier => exact lower other (List.mem_cons_of_mem item earlier)

theorem unique {other : Item} (greatest : FirstGreatest score items best)
    (again : FirstGreatest score items other) : best = other := by
  have above := greatest.le again.mem
  have below := again.le greatest.mem
  obtain ⟨before, after, rfl, lower, -⟩ := greatest
  obtain ⟨first, rest, split, least, -⟩ := again
  cases List.append_eq_append_iff.mp split with
  | inl longer =>
    obtain ⟨middle, rfl, same⟩ := longer
    cases middle with
    | nil => exact (List.cons.inj same).1
    | cons head tail =>
      obtain ⟨rfl, -⟩ := List.cons.inj same
      have placed : best ∈ before ++ best :: tail := by simp
      exact absurd (least best placed) (not_lt.mpr above)
  | inr longer =>
    obtain ⟨middle, rfl, same⟩ := longer
    cases middle with
    | nil => exact (List.cons.inj same).1.symm
    | cons head tail =>
      obtain ⟨rfl, -⟩ := List.cons.inj same
      have placed : other ∈ first ++ other :: tail := by simp
      exact absurd (lower other placed) (not_lt.mpr below)

end FirstGreatest

variable {less : Item → Item → Except Error Bool}

theorem greatestFrom_ok {first : Item} {rest : List Item}
    (compares : ∀ left ∈ first :: rest, ∀ right ∈ first :: rest,
      less left right = .ok (decide (score left < score right))) :
    ∃ best, greatestFrom less first rest = .ok best ∧
      FirstGreatest score (first :: rest) best := by
  induction rest generalizing first with
  | nil => exact ⟨first, rfl, [], [], rfl, by simp, by simp⟩
  | cons next rest ih =>
    rw [greatestFrom, compares first List.mem_cons_self next (by simp)]
    by_cases above : score first < score next
    · obtain ⟨best, found, greatest⟩ := @ih next fun left leftMember right rightMember =>
        compares left (List.mem_cons_of_mem first leftMember) right
          (List.mem_cons_of_mem first rightMember)
      refine ⟨best, ?_, greatest.cons_of_lt above⟩
      simpa only [decide_eq_true_eq, above, if_true] using found
    · have kept : ∀ item ∈ first :: rest, item ∈ first :: next :: rest := by
        intro item member
        cases List.mem_cons.mp member with
        | inl same => exact same ▸ List.mem_cons_self
        | inr later => exact List.mem_cons_of_mem _ (List.mem_cons_of_mem _ later)
      obtain ⟨best, found, greatest⟩ := @ih first fun left leftMember right rightMember =>
        compares left (kept left leftMember) right (kept right rightMember)
      refine ⟨best, ?_, greatest.insert (not_lt.mp above)⟩
      simpa only [decide_eq_true_eq, above, if_false] using found

theorem greatest?_ok
    (compares : ∀ left ∈ items, ∀ right ∈ items,
      less left right = .ok (decide (score left < score right))) :
    (items = [] ∧ greatest? less items = .ok none) ∨
      ∃ best, greatest? less items = .ok (some best) ∧ FirstGreatest score items best := by
  cases items with
  | nil => exact .inl ⟨rfl, rfl⟩
  | cons first rest =>
    obtain ⟨best, found, greatest⟩ := greatestFrom_ok compares
    exact .inr ⟨best, by rw [greatest?, found]; rfl, greatest⟩

/-! ## Extremes of items that need not be comparable -/

/-- One of the items, which none of them goes beyond. -/
structure Extreme (beyond : Item → Item → Prop) (items : List Item) (item : Item) : Prop where
  member : item ∈ items
  unsurpassed : ∀ other ∈ items, ¬ beyond item other

namespace Extreme

variable {beyond : Item → Item → Prop} [IsStrictOrder Item beyond] {next held : Item}

theorem singleton (item : Item) : Extreme beyond [item] item := by
  refine ⟨List.mem_singleton_self item, fun other member => ?_⟩
  rw [List.mem_singleton.mp member]
  exact irrefl item

theorem concat [DecidableRel beyond] (extreme : Extreme beyond items held) :
    Extreme beyond (items ++ [next]) (if beyond held next then next else held) := by
  split
  · rename_i further
    refine ⟨by simp, fun other member surpassed => ?_⟩
    rcases List.mem_append.mp member with earlier | now
    · exact extreme.unsurpassed other earlier (trans_of beyond further surpassed)
    · rw [List.mem_singleton.mp now] at surpassed
      exact irrefl next surpassed
  · rename_i within
    refine ⟨List.mem_append_left _ extreme.member, fun other member => ?_⟩
    rcases List.mem_append.mp member with earlier | now
    · exact extreme.unsurpassed other earlier
    · rwa [List.mem_singleton.mp now]

/-- What is kept of the items so far: nothing without one, else an extreme. -/
def Kept (beyond : Item → Item → Prop) (items : List Item) : Option Item → Prop
  | none => items = []
  | some item => Extreme beyond items item

theorem Kept.concat [DecidableRel beyond] {kept : Option Item} (extreme : Kept beyond items kept) :
    Extreme beyond (items ++ [next])
      (kept.elim next (fun held => if beyond held next then next else held)) := by
  cases kept with
  | none =>
    obtain rfl : items = [] := extreme
    exact singleton next
  | some held => exact Extreme.concat extreme

end Extreme

end FxToushi.Data
