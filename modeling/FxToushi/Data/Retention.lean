import FxToushi.Data.Dict
import Mathlib.Data.List.Sort

namespace FxToushi.Data

/-! # Keeping the newest entries

A dictionary that has grown beyond a limit gives up the entries with the least
age mark.  Entries of one mark go in the order they are kept in, so an entry is
safe as long as those that are no older fit under the limit.
-/

namespace Dict

variable {Key Value Mark : Type*} [DecidableEq Key] [LinearOrder Mark]

theorem lookup_filter_ne (key other : Key) (entries : List (Key × Value)) :
    lookup other (entries.filter (fun entry => decide (entry.1 ≠ key))) =
      if other = key then none else lookup other entries := by
  induction entries with
  | nil => simp [lookup]
  | cons entry rest ih =>
    obtain ⟨first, value⟩ := entry
    by_cases gone : first = key
    · rw [List.filter_cons_of_neg (by simpa using gone), ih]
      by_cases same : other = key
      · rw [if_pos same, if_pos same]
      · have kept : first ≠ other := fun equal => same (equal.symm.trans gone)
        rw [if_neg same, if_neg same, lookup, if_neg kept]
    · rw [List.filter_cons_of_pos (by simpa using gone), lookup, ih]
      by_cases here : first = other
      · subst here
        rw [if_pos rfl, if_neg gone, lookup, if_pos rfl]
      · rw [if_neg here, lookup, if_neg here]

theorem get?_pop (dict : Dict Key Value) (key other : Key) :
    (dict.pop key).get? other = if other = key then none else dict.get? other :=
  lookup_filter_ne key other dict.entries

theorem get?_popAll (dict : Dict Key Value) (gone : List Key) (other : Key) :
    (gone.foldl pop dict).get? other = if other ∈ gone then none else dict.get? other := by
  induction gone generalizing dict with
  | nil => simp
  | cons key rest ih =>
    rw [List.foldl_cons, ih, get?_pop]
    by_cases later : other ∈ rest
    · simp [later]
    · simp [later]

/-- The keys of the oldest entries that are over the limit. -/
def stale (mark : Value → Mark) (limit : Nat) (dict : Dict Key Value) : List Key :=
  ((dict.entries.insertionSort (fun left right => mark left.2 ≤ mark right.2)).take
    (dict.entries.length - limit)).map Prod.fst

def retain (mark : Value → Mark) (limit : Nat) (dict : Dict Key Value) : Dict Key Value :=
  (stale mark limit dict).foldl pop dict

/-- The entries that are no older than a mark. -/
def since (mark : Value → Mark) (least : Mark) (dict : Dict Key Value) : List (Key × Value) :=
  dict.entries.filter (fun entry => decide (least ≤ mark entry.2))

/-- An entry is given up only where more than the limit are no older. -/
theorem limit_lt_of_mem_stale {mark : Value → Mark} {limit : Nat} {dict : Dict Key Value}
    {key : Key} {value : Value} (gone : key ∈ stale mark limit dict)
    (held : dict.get? key = some value) : limit < (since mark (mark value) dict).length := by
  let older := fun left right : Key × Value => mark left.2 ≤ mark right.2
  have : Std.Total older := ⟨fun left right => le_total (mark left.2) (mark right.2)⟩
  have : IsTrans (Key × Value) older := ⟨fun _ _ _ => le_trans⟩
  have permuted := List.perm_insertionSort older dict.entries
  have sorted := List.pairwise_insertionSort older dict.entries
  obtain ⟨⟨first, other⟩, dropped, rfl⟩ := List.mem_map.mp gone
  have present := (get?_eq_some_iff dict).mpr (permuted.subset (List.mem_of_mem_take dropped))
  obtain rfl : value = other := Option.some.inj (held.symm.trans present)
  let kept := (dict.entries.insertionSort older).drop (dict.entries.length - limit)
  have newer : ∀ entry ∈ kept, decide (mark value ≤ mark entry.2) = true := fun entry member =>
    decide_eq_true (sorted.rel_of_mem_take_of_mem_drop dropped member)
  have size := (permuted.filter (fun entry => decide (mark value ≤ mark entry.2))).length_eq
  have length : (dict.entries.insertionSort older).length = dict.entries.length :=
    List.length_insertionSort older _
  rw [← List.take_append_drop (dict.entries.length - limit)
    (dict.entries.insertionSort older), List.filter_append, List.length_append,
    List.filter_eq_self.mpr newer, List.length_drop, length] at size
  have itself : 0 < (((dict.entries.insertionSort older).take
      (dict.entries.length - limit)).filter
        (fun entry => decide (mark value ≤ mark entry.2))).length :=
    List.length_pos_of_mem (List.mem_filter.mpr ⟨dropped, by simp⟩)
  have taken := List.length_pos_of_mem dropped
  rw [List.length_take, length] at taken
  rw [since, ← size]
  omega

theorem get?_retain_le {mark : Value → Mark} {limit : Nat} {dict : Dict Key Value} {key : Key}
    {value : Value} (held : (retain mark limit dict).get? key = some value) :
    dict.get? key = some value := by
  rw [retain, get?_popAll] at held
  split at held
  · exact absurd held (by simp)
  · exact held

theorem get?_retain_of_fits {mark : Value → Mark} {limit : Nat} {dict : Dict Key Value} {key : Key}
    {value : Value} (held : dict.get? key = some value)
    (fits : (since mark (mark value) dict).length ≤ limit) :
    (retain mark limit dict).get? key = some value := by
  rw [retain, get?_popAll, if_neg, held]
  intro gone
  exact absurd (limit_lt_of_mem_stale gone held) (not_lt.mpr fits)

end Dict

end FxToushi.Data
