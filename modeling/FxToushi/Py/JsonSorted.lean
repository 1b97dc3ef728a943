import FxToushi.Py.JsonRoundTrip
import Mathlib.Data.List.Perm.Subperm
import Mathlib.Data.String.Basic

namespace FxToushi.Py.Json

/-! # Sorted keys

`json.dumps` with `sort_keys` orders the keys of every mapping.  A key still
has the value it had, and sorting again changes nothing.
-/

/-- The entry goes before the keys that are not smaller. -/
def insertEntry (key : String) (value : Value) : List (String × Value) → List (String × Value)
  | [] => [(key, value)]
  | (first, old) :: rest =>
    if key ≤ first then (key, value) :: (first, old) :: rest
    else (first, old) :: insertEntry key value rest

mutual

def sortKeys : Value → Value
  | .list items => .list (sortItems items)
  | .map entries => .map (sortEntries entries)
  | .null => .null
  | .bool value => .bool value
  | .int value => .int value
  | .float value text => .float value text
  | .str text => .str text

def sortItems : List Value → List Value
  | [] => []
  | item :: rest => sortKeys item :: sortItems rest

def sortEntries : List (String × Value) → List (String × Value)
  | [] => []
  | (key, value) :: rest => insertEntry key (sortKeys value) (sortEntries rest)

end

section Insertion

variable {key : String} {value : Value} {entries : List (String × Value)}

theorem get?_cons (first : String) (old : Value) (rest : Mapping) (key : String) :
    Mapping.get? ((first, old) :: rest) key =
      if first = key then some old else Mapping.get? rest key := by
  by_cases same : first = key <;> simp [Mapping.get?, same]

theorem wellFormed_get? {data : Mapping} {key : String} {value : Value}
    (wellFormed : WellFormedEntries data) (found : data.get? key = some value) :
    WellFormed value := by
  induction data with
  | nil => cases found
  | cons entry rest ih =>
    rw [get?_cons] at found
    split at found
    · cases found
      exact wellFormed.1
    · exact ih wellFormed.2 found

theorem get?_insertEntry (key : String) (value : Value) (entries : Mapping) (other : String) :
    Mapping.get? (insertEntry key value entries) other =
      if key = other then some value else Mapping.get? entries other := by
  induction entries with
  | nil => rw [insertEntry, get?_cons]
  | cons entry rest ih =>
    obtain ⟨first, old⟩ := entry
    rw [insertEntry]
    split
    · rw [get?_cons]
    · rename_i smaller
      rw [get?_cons, ih, get?_cons]
      by_cases here : first = other
      · have different : key ≠ other := by
          intro same
          exact smaller (le_of_eq (same.trans here.symm))
        rw [if_pos here, if_neg different, if_pos here]
      · rw [if_neg here, if_neg here]

theorem perm_insertEntry : (insertEntry key value entries).Perm ((key, value) :: entries) := by
  induction entries with
  | nil => exact .refl _
  | cons entry rest ih =>
    obtain ⟨first, old⟩ := entry
    rw [insertEntry]
    split
    · exact .refl _
    · exact (ih.cons _).trans (.swap _ _ _)

def KeysSorted (entries : List (String × Value)) : Prop :=
  entries.Pairwise (fun earlier later => earlier.1 ≤ later.1)

theorem keysSorted_insertEntry (sorted : KeysSorted entries) :
    KeysSorted (insertEntry key value entries) := by
  induction entries with
  | nil => exact List.pairwise_singleton _ _
  | cons entry rest ih =>
    obtain ⟨first, old⟩ := entry
    obtain ⟨least, sortedRest⟩ := List.pairwise_cons.mp sorted
    rw [insertEntry]
    split
    · rename_i before
      refine List.pairwise_cons.mpr ⟨?_, sorted⟩
      intro later member
      cases List.mem_cons.mp member with
      | inl same =>
        rw [same]
        exact before
      | inr deeper => exact before.trans (least later deeper)
    · rename_i after
      refine List.pairwise_cons.mpr ⟨?_, ih sortedRest⟩
      intro later member
      cases List.mem_cons.mp (perm_insertEntry.mem_iff.mp member) with
      | inl same =>
        rw [same]
        exact (not_le.mp after).le
      | inr deeper => exact least later deeper

theorem insertEntry_of_least (least : ∀ entry ∈ entries, key ≤ entry.1) :
    insertEntry key value entries = (key, value) :: entries := by
  cases entries with
  | nil => rfl
  | cons entry rest => rw [insertEntry, if_pos (least entry List.mem_cons_self)]

theorem keysSorted_sortEntries (entries : List (String × Value)) :
    KeysSorted (sortEntries entries) := by
  induction entries with
  | nil => exact List.Pairwise.nil
  | cons entry rest ih =>
    rw [sortEntries]
    exact keysSorted_insertEntry ih

theorem get?_sortEntries (entries : Mapping) (key : String) :
    Mapping.get? (sortEntries entries) key = (Mapping.get? entries key).map sortKeys := by
  induction entries with
  | nil => rfl
  | cons entry rest ih =>
    obtain ⟨first, old⟩ := entry
    rw [sortEntries, get?_insertEntry, ih, get?_cons]
    split <;> rfl

theorem sortEntries_of_sorted (sorted : KeysSorted entries)
    (fixed : ∀ entry ∈ entries, sortKeys entry.2 = entry.2) : sortEntries entries = entries := by
  induction entries with
  | nil => rfl
  | cons entry rest ih =>
    obtain ⟨first, old⟩ := entry
    obtain ⟨least, sortedRest⟩ := List.pairwise_cons.mp sorted
    rw [List.forall_mem_cons] at fixed
    rw [sortEntries, ih sortedRest fixed.2, insertEntry_of_least least, fixed.1]

end Insertion

mutual

theorem sortKeys_sortKeys (value : Value) : sortKeys (sortKeys value) = sortKeys value := by
  match value with
  | .list items => simp only [sortKeys, sortItems_sortItems items]
  | .map entries =>
    simp only [sortKeys]
    rw [sortEntries_of_sorted (keysSorted_sortEntries entries) (sortKeys_entry entries)]
  | .null | .bool _ | .int _ | .float _ _ | .str _ => simp only [sortKeys]

theorem sortItems_sortItems (items : List Value) :
    sortItems (sortItems items) = sortItems items := by
  match items with
  | [] => rfl
  | item :: rest => simp only [sortItems, sortKeys_sortKeys item, sortItems_sortItems rest]

theorem sortKeys_entry (entries : List (String × Value)) :
    ∀ entry ∈ sortEntries entries, sortKeys entry.2 = entry.2 := by
  match entries with
  | [] =>
    intro entry member
    cases member
  | (key, value) :: rest =>
    intro entry member
    rw [sortEntries] at member
    cases List.mem_cons.mp (perm_insertEntry.mem_iff.mp member) with
    | inl same =>
      rw [same]
      exact sortKeys_sortKeys value
    | inr deeper => exact sortKeys_entry rest entry deeper

end

theorem keys_sortEntries (entries : List (String × Value)) :
    ((sortEntries entries).map Prod.fst).Perm (entries.map Prod.fst) := by
  induction entries with
  | nil => exact .refl _
  | cons entry rest ih =>
    rw [sortEntries]
    exact (perm_insertEntry.map Prod.fst).trans (ih.cons _)

theorem wellFormedEntries_insertEntry {key : String} {value : Value} {entries : Mapping}
    (added : WellFormed value) (wellFormed : WellFormedEntries entries) :
    WellFormedEntries (insertEntry key value entries) := by
  induction entries with
  | nil => exact ⟨added, trivial⟩
  | cons entry rest ih =>
    rw [insertEntry]
    split
    · exact ⟨added, wellFormed⟩
    · exact ⟨wellFormed.1, ih wellFormed.2⟩

mutual

theorem wellFormed_sortKeys (value : Value) (wellFormed : WellFormed value) :
    WellFormed (sortKeys value) := by
  match value with
  | .list items =>
    rw [sortKeys]
    exact wellFormed_sortItems items wellFormed
  | .map entries =>
    rw [sortKeys]
    exact ⟨(keys_sortEntries entries).nodup_iff.mpr wellFormed.1,
      wellFormed_sortEntries entries wellFormed.2⟩
  | .null | .bool _ | .int _ | .float _ _ | .str _ => exact wellFormed

theorem wellFormed_sortItems (items : List Value) (wellFormed : WellFormedItems items) :
    WellFormedItems (sortItems items) := by
  match items with
  | [] => trivial
  | item :: rest =>
    exact ⟨wellFormed_sortKeys item wellFormed.1, wellFormed_sortItems rest wellFormed.2⟩

theorem wellFormed_sortEntries (entries : List (String × Value))
    (wellFormed : WellFormedEntries entries) : WellFormedEntries (sortEntries entries) := by
  match entries with
  | [] => trivial
  | (key, value) :: rest =>
    rw [sortEntries]
    exact wellFormedEntries_insertEntry (wellFormed_sortKeys value wellFormed.1)
      (wellFormed_sortEntries rest wellFormed.2)

end

theorem mapping?_sortKeys (value : Value) :
    (sortKeys value).mapping? = value.mapping?.map sortEntries := by
  cases value <;> simp [sortKeys, Value.mapping?]

/-! ## The same document

Two values are the same document when only the order of keys tells them apart,
and this is so exactly when their texts with sorted keys are equal.
-/

mutual

def SameDocument : Value → Value → Prop
  | .list items, .list others => SameItems items others
  | .map entries, .map others => entries.length = others.length ∧ SameEntries entries others
  | .list _, _ => False
  | .map _, _ => False
  | value, other => value = other

def SameItems : List Value → List Value → Prop
  | [], others => others = []
  | item :: rest, others =>
    ∃ other later, others = other :: later ∧ SameDocument item other ∧ SameItems rest later

/-- Every entry has its like among the others. -/
def SameEntries : List (String × Value) → Mapping → Prop
  | [], _ => True
  | (key, value) :: rest, others =>
    (∃ other, Mapping.get? others key = some other ∧ SameDocument value other) ∧
      SameEntries rest others

end

/-- `json.dumps(value, ensure_ascii=False, sort_keys=True)`. -/
def canonical (value : Value) : List Char := dumps true (sortKeys value)

section Entries

variable {entries others : Mapping} {key : String} {value : Value}

theorem mem_of_get? (found : Mapping.get? entries key = some value) : (key, value) ∈ entries := by
  induction entries with
  | nil => cases found
  | cons entry rest ih =>
    obtain ⟨first, old⟩ := entry
    rw [get?_cons] at found
    split at found
    · rename_i same
      rw [← same, ← Option.some.inj found]
      exact List.mem_cons_self
    · exact List.mem_cons_of_mem _ (ih found)

theorem get?_of_mem (distinct : (entries.map Prod.fst).Nodup) (member : (key, value) ∈ entries) :
    Mapping.get? entries key = some value := by
  induction entries with
  | nil => exact absurd member List.not_mem_nil
  | cons entry rest ih =>
    obtain ⟨first, old⟩ := entry
    obtain ⟨fresh, distinct⟩ := List.nodup_cons.mp distinct
    rw [get?_cons]
    cases List.mem_cons.mp member with
    | inl here =>
      cases here
      rw [if_pos rfl]
    | inr later =>
      have apart : first ≠ key := by
        rintro rfl
        exact fresh (List.mem_map.mpr ⟨_, later, rfl⟩)
      rw [if_neg apart, ih distinct later]

theorem eq_of_keysSorted (sorted : KeysSorted entries) (othersSorted : KeysSorted others)
    (distinct : (entries.map Prod.fst).Nodup) (large : others.length ≤ entries.length)
    (within : entries ⊆ others) : entries = others := by
  have same : entries.Perm others :=
    (List.subperm_of_subset distinct.of_map within).perm_of_length_le large
  refine List.Perm.eq_of_pairwise (fun first second member other before after => ?_) sorted
    othersSorted same
  exact List.inj_on_of_nodup_map distinct member (same.mem_iff.mpr other)
    (le_antisymm before after)

theorem sortEntries_eq_iff (distinct : (entries.map Prod.fst).Nodup) :
    sortEntries entries = sortEntries others ↔
      entries.length = others.length ∧
        ∀ entry ∈ entries, (Mapping.get? others entry.1).map sortKeys =
          some (sortKeys entry.2) := by
  have lengths : ∀ given : Mapping, (sortEntries given).length = given.length := fun given => by
    simpa using (keys_sortEntries given).length_eq
  constructor
  · intro same
    refine ⟨by rw [← lengths entries, same, lengths], fun entry member => ?_⟩
    rw [← get?_sortEntries, ← same, get?_sortEntries, get?_of_mem distinct member, Option.map_some]
  · rintro ⟨large, alike⟩
    refine eq_of_keysSorted (keysSorted_sortEntries entries) (keysSorted_sortEntries others)
      ((keys_sortEntries entries).nodup_iff.mpr distinct) (by rw [lengths, lengths, large]) ?_
    rintro ⟨key, value⟩ member
    have found := get?_of_mem ((keys_sortEntries entries).nodup_iff.mpr distinct) member
    rw [get?_sortEntries] at found
    obtain ⟨old, here, rfl⟩ := Option.map_eq_some_iff.mp found
    refine mem_of_get? ?_
    rw [get?_sortEntries, alike _ (mem_of_get? here)]

end Entries

mutual

theorem sortKeys_eq_iff (value other : Value) (wellFormed : WellFormed value)
    (otherWellFormed : WellFormed other) :
    sortKeys value = sortKeys other ↔ SameDocument value other := by
  match value with
  | .list items =>
    cases other with
    | list others =>
      rw [sortKeys, sortKeys, Value.list.injEq, SameDocument]
      exact sortItems_eq_iff items others wellFormed otherWellFormed
    | null | bool _ | int _ | float _ _ | str _ | map _ => simp [sortKeys, SameDocument]
  | .map entries =>
    cases other with
    | map others =>
      rw [sortKeys, sortKeys, Value.map.injEq, SameDocument,
        sortEntries_eq_iff wellFormed.1,
        sameEntries_iff entries others wellFormed.2 otherWellFormed.2]
    | null | bool _ | int _ | float _ _ | str _ | list _ => simp [sortKeys, SameDocument]
  | .null | .bool _ | .int _ | .float _ _ | .str _ => cases other <;> simp [sortKeys, SameDocument]

theorem sortItems_eq_iff (items others : List Value) (wellFormed : WellFormedItems items)
    (otherWellFormed : WellFormedItems others) :
    sortItems items = sortItems others ↔ SameItems items others := by
  match items with
  | [] => cases others <;> simp [sortItems, SameItems]
  | item :: rest =>
    cases others with
    | nil => simp [sortItems, SameItems]
    | cons other later =>
      rw [sortItems, sortItems, List.cons.injEq, SameItems,
        sortKeys_eq_iff item other wellFormed.1 otherWellFormed.1,
        sortItems_eq_iff rest later wellFormed.2 otherWellFormed.2]
      simp

theorem sameEntries_iff (entries : List (String × Value)) (others : Mapping)
    (wellFormed : WellFormedEntries entries) (otherWellFormed : WellFormedEntries others) :
    (∀ entry ∈ entries, (Mapping.get? others entry.1).map sortKeys = some (sortKeys entry.2)) ↔
      SameEntries entries others := by
  match entries with
  | [] => simp [SameEntries]
  | (key, value) :: rest =>
    rw [List.forall_mem_cons, SameEntries, sameEntries_iff rest others wellFormed.2 otherWellFormed]
    refine and_congr_left fun _ => ?_
    rw [Option.map_eq_some_iff]
    refine exists_congr fun other => and_congr_right fun found => ?_
    rw [eq_comm]
    exact sortKeys_eq_iff value other wellFormed.1 (wellFormed_get? otherWellFormed found)

end

theorem dumps_inj {value other : Value} (wellFormed : WellFormed value)
    (otherWellFormed : WellFormed other) (same : dumps true value = dumps true other) :
    value = other := by
  have read := loads_dumps true wellFormed
  rw [same, loads_dumps true otherWellFormed] at read
  exact (Option.some.inj read).symm

theorem canonical_eq_iff {value other : Value} (wellFormed : WellFormed value)
    (otherWellFormed : WellFormed other) :
    canonical value = canonical other ↔ SameDocument value other := by
  rw [← sortKeys_eq_iff value other wellFormed otherWellFormed]
  exact ⟨dumps_inj (wellFormed_sortKeys value wellFormed)
    (wellFormed_sortKeys other otherWellFormed),
    fun same => by rw [canonical, canonical, same]⟩

end FxToushi.Py.Json
