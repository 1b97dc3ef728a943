import Mathlib.Data.List.Basic
import Mathlib.Order.Lattice

namespace FxToushi.Data

/-! # Directories

Files by name, listed in the order of their names.  Writing and removing a
file leaves the files named before and after it alone.
-/

section Contents

variable {Key Record : Type*}

/-- The records of all files, file by file in the order of the names. -/
def contents (files : List (Key × List Record)) : List Record := files.flatMap Prod.snd

@[simp] theorem contents_append (left right : List (Key × List Record)) :
    contents (left ++ right) = contents left ++ contents right := List.flatMap_append

@[simp] theorem contents_cons (entry : Key × List Record) (rest : List (Key × List Record)) :
    contents (entry :: rest) = entry.2 ++ contents rest := List.flatMap_cons

@[simp] theorem contents_nil : contents ([] : List (Key × List Record)) = [] := rfl

end Contents

structure Directory (Key Value : Type*) [LinearOrder Key] where
  entries : List (Key × Value)
  sorted : entries.Pairwise (fun left right => left.1 < right.1)

namespace Directory

variable {Key Value : Type*} [LinearOrder Key]

def empty : Directory Key Value := ⟨[], .nil⟩

@[ext] theorem ext {left right : Directory Key Value} (same : left.entries = right.entries) :
    left = right := by
  cases left
  cases right
  cases same
  rfl

def before (directory : Directory Key Value) (key : Key) : List (Key × Value) :=
  directory.entries.filter (fun entry => decide (entry.1 < key))

def after (directory : Directory Key Value) (key : Key) : List (Key × Value) :=
  directory.entries.filter (fun entry => decide (key < entry.1))

def get? (directory : Directory Key Value) (key : Key) : Option Value :=
  (directory.entries.find? (fun entry => decide (entry.1 = key))).map Prod.snd

def put (directory : Directory Key Value) (key : Key) (value : Value) : Directory Key Value where
  entries := directory.before key ++ (key, value) :: directory.after key
  sorted := by
    refine List.pairwise_append.mpr ⟨directory.sorted.filter _,
      List.pairwise_cons.mpr ⟨?_, directory.sorted.filter _⟩, ?_⟩
    · intro later member
      simpa using List.of_mem_filter member
    · intro earlier early later member
      have below : earlier.1 < key := by simpa using List.of_mem_filter early
      rcases List.mem_cons.mp member with rfl | late
      · exact below
      · exact lt_trans below (by simpa using List.of_mem_filter late)

def remove (directory : Directory Key Value) (key : Key) : Directory Key Value where
  entries := directory.before key ++ directory.after key
  sorted := by
    refine List.pairwise_append.mpr ⟨directory.sorted.filter _, directory.sorted.filter _, ?_⟩
    intro earlier early later late
    have below : earlier.1 < key := by simpa using List.of_mem_filter early
    exact lt_trans below (by simpa using List.of_mem_filter late)

@[simp] theorem put_entries (directory : Directory Key Value) (key : Key) (value : Value) :
    (directory.put key value).entries =
      directory.before key ++ (key, value) :: directory.after key := rfl

@[simp] theorem remove_entries (directory : Directory Key Value) (key : Key) :
    (directory.remove key).entries = directory.before key ++ directory.after key := rfl

theorem filter_of_later {key : Key} {entries : List (Key × Value)}
    (later : ∀ entry ∈ entries, key < entry.1) :
    entries.filter (fun entry => decide (entry.1 < key)) = [] ∧
      entries.filter (fun entry => decide (key < entry.1)) = entries := by
  constructor
  · simp only [List.filter_eq_nil_iff, decide_eq_true_eq]
    exact fun entry member => not_lt_of_gt (later entry member)
  · simp only [List.filter_eq_self, decide_eq_true_eq]
    exact later

/-- A directory is what is named before a key, the file of that name and what
is named after it. -/
theorem entries_split (directory : Directory Key Value) (key : Key) :
    directory.entries = directory.before key ++
      (directory.get? key).toList.map (fun value => (key, value)) ++ directory.after key := by
  obtain ⟨entries, sorted⟩ := directory
  simp only [before, after, get?]
  induction entries with
  | nil => rfl
  | cons entry rest ih =>
    obtain ⟨leads, sortedRest⟩ := List.pairwise_cons.mp sorted
    rcases lt_trichotomy entry.1 key with below | here | above
    · have other : entry.1 ≠ key := ne_of_lt below
      have notAfter : ¬ key < entry.1 := not_lt_of_gt below
      simpa [List.filter_cons, List.find?_cons, below, other, notAfter] using ih sortedRest
    · obtain ⟨none_before, all_after⟩ := filter_of_later (here ▸ leads)
      simp [here, none_before, all_after, Prod.ext_iff]
    · have later : ∀ other ∈ rest, key < other.1 :=
        fun other member => lt_trans above (leads other member)
      obtain ⟨none_before, all_after⟩ := filter_of_later later
      have absent : rest.find? (fun other => decide (other.1 = key)) = none := by
        simp only [List.find?_eq_none, decide_eq_true_eq]
        exact fun other member => ne_of_gt (later other member)
      have other : entry.1 ≠ key := ne_of_gt above
      have notBefore : ¬ entry.1 < key := not_lt_of_gt above
      simp [above, other, notBefore, none_before, all_after, absent]

theorem mem_of_get? {directory : Directory Key Value} {key : Key} {value : Value}
    (found : directory.get? key = some value) : (key, value) ∈ directory.entries := by
  rw [directory.entries_split key, found]
  simp

theorem get?_eq_some_iff {directory : Directory Key Value} {key : Key} {value : Value} :
    directory.get? key = some value ↔ (key, value) ∈ directory.entries := by
  refine ⟨mem_of_get?, fun member => ?_⟩
  rw [directory.entries_split key, List.mem_append, List.mem_append] at member
  rcases member with (early | here) | late
  · exact absurd (List.of_mem_filter early) (by simp)
  · obtain ⟨other, found, same⟩ := List.mem_map.mp here
    rw [← (Prod.mk.inj same).2]
    exact Option.mem_toList.mp found
  · exact absurd (List.of_mem_filter late) (by simp)

theorem remove_eq_filter (directory : Directory Key Value) (key : Key) :
    (directory.remove key).entries =
      directory.entries.filter (fun entry => decide (entry.1 ≠ key)) := by
  have kept : ∀ entry ∈ directory.before key ++ directory.after key, entry.1 ≠ key := by
    intro entry member
    rcases List.mem_append.mp member with early | late
    · exact ne_of_lt (by simpa using List.of_mem_filter early)
    · exact ne_of_gt (by simpa using List.of_mem_filter late)
  have gone : ((directory.get? key).toList.map (fun value => (key, value))).filter
      (fun entry => decide (entry.1 ≠ key)) = [] := by
    simp [List.filter_map, Function.comp_def]
  conv_rhs => rw [directory.entries_split key]
  rw [List.filter_append, List.filter_append, gone, List.append_nil, ← List.filter_append,
    List.filter_eq_self.mpr (fun entry member => decide_eq_true (kept entry member))]
  rfl

theorem get?_put (directory : Directory Key Value) (key other : Key) (value : Value) :
    (directory.put key value).get? other =
      if other = key then some value else directory.get? other := by
  by_cases same : other = key
  · rw [if_pos same, get?_eq_some_iff, same]
    simp
  · rw [if_neg same]
    refine Option.ext fun found => ?_
    rw [get?_eq_some_iff, get?_eq_some_iff]
    conv_rhs => rw [directory.entries_split key]
    simp [same, Ne.symm same]

theorem mem_put {directory : Directory Key Value} {key : Key} {value : Value}
    {entry : Key × Value} (member : entry ∈ (directory.put key value).entries) :
    entry = (key, value) ∨ entry.1 ≠ key ∧ entry ∈ directory.entries := by
  rcases List.mem_append.mp member with early | later
  · have below : entry.1 < key := by simpa using List.of_mem_filter early
    exact .inr ⟨ne_of_lt below, List.mem_of_mem_filter early⟩
  · rcases List.mem_cons.mp later with same | late
    · exact .inl same
    · have above : key < entry.1 := by simpa using List.of_mem_filter late
      exact .inr ⟨ne_of_gt above, List.mem_of_mem_filter late⟩

theorem mem_remove {directory : Directory Key Value} {key : Key} {entry : Key × Value}
    (member : entry ∈ (directory.remove key).entries) : entry ∈ directory.entries := by
  rcases List.mem_append.mp member with early | late
  · exact List.mem_of_mem_filter early
  · exact List.mem_of_mem_filter late

theorem after_eq_nil {directory : Directory Key Value} {key : Key}
    (last : ∀ entry ∈ directory.entries, entry.1 ≤ key) : directory.after key = [] := by
  simp only [after, List.filter_eq_nil_iff, decide_eq_true_eq]
  exact fun entry member => not_lt_of_ge (last entry member)

theorem flatMap_split {Item : Type*} (read : Value → List Item) (directory : Directory Key Value)
    (key : Key) : directory.entries.flatMap (fun entry => read entry.2) =
      (directory.before key).flatMap (fun entry => read entry.2) ++
        ((directory.get? key).toList.flatMap read ++
          (directory.after key).flatMap (fun entry => read entry.2)) := by
  conv_lhs => rw [directory.entries_split key]
  simp [List.flatMap_map]

theorem flatMap_put {Item : Type*} (read : Value → List Item) (directory : Directory Key Value)
    (key : Key) (value : Value) :
    (directory.put key value).entries.flatMap (fun entry => read entry.2) =
      (directory.before key).flatMap (fun entry => read entry.2) ++
        (read value ++ (directory.after key).flatMap (fun entry => read entry.2)) := by
  rw [put_entries, List.flatMap_append, List.flatMap_cons]

theorem flatMap_put_last {Item : Type*} (read : Value → List Item)
    {directory : Directory Key Value} {key : Key}
    (last : ∀ entry ∈ directory.entries, entry.1 ≤ key) :
    ∃ front, directory.entries.flatMap (fun entry => read entry.2) =
        front ++ (directory.get? key).toList.flatMap read ∧
      ∀ value, (directory.put key value).entries.flatMap (fun entry => read entry.2) =
        front ++ read value := by
  refine ⟨(directory.before key).flatMap (fun entry => read entry.2), ?_, fun value => ?_⟩
  · rw [flatMap_split read directory key, after_eq_nil last, List.flatMap_nil, List.append_nil]
  · rw [flatMap_put, after_eq_nil last, List.flatMap_nil, List.append_nil]

/-! ## Directories of record files -/

variable {Record : Type*}

theorem contents_split (directory : Directory Key (List Record)) (key : Key) :
    contents directory.entries = contents (directory.before key) ++
      (directory.get? key).getD [] ++ contents (directory.after key) := by
  rw [directory.entries_split key, contents_append, contents_append]
  cases directory.get? key with
  | none => simp
  | some held => simp

def appendTo (directory : Directory Key (List Record)) (key : Key) (records : List Record) :
    Directory Key (List Record) :=
  directory.put key ((directory.get? key).getD [] ++ records)

theorem contents_appendTo_last {directory : Directory Key (List Record)} {key : Key}
    (last : ∀ entry ∈ directory.entries, entry.1 ≤ key) (records : List Record) :
    contents (directory.appendTo key records).entries = contents directory.entries ++ records := by
  obtain ⟨front, before, written⟩ := flatMap_put_last (fun file : List Record => file) last
  have held : (directory.get? key).toList.flatMap (fun file => file) =
      (directory.get? key).getD [] := by
    cases directory.get? key with
    | none => rfl
    | some held => simp
  rw [contents, contents, appendTo, written, before, held, List.append_assoc]

end Directory

end FxToushi.Data
