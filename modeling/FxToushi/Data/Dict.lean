import Mathlib.Data.List.Induction
import Mathlib.Data.List.Nodup

namespace FxToushi.Data

/-! # Insertion-ordered dictionaries

A dictionary is a list of key/value entries whose keys are pairwise distinct.
Setting a present key keeps its place, setting a new key appends it.
-/

structure Dict (Key Value : Type*) where
  entries : List (Key × Value)
  distinct : (entries.map Prod.fst).Nodup

namespace Dict

variable {Key Value : Type*}

@[ext] theorem ext {left right : Dict Key Value} (same : left.entries = right.entries) :
    left = right := by
  cases left
  cases right
  cases same
  rfl

variable [DecidableEq Key]

instance [DecidableEq Value] : DecidableEq (Dict Key Value) := fun left right =>
  decidable_of_iff (left.entries = right.entries) ⟨ext, fun same => by rw [same]⟩

def empty : Dict Key Value := ⟨[], List.nodup_nil⟩

def keys (dict : Dict Key Value) : List Key := dict.entries.map Prod.fst

def lookup (key : Key) : List (Key × Value) → Option Value
  | [] => none
  | (first, value) :: rest => if first = key then some value else lookup key rest

def get? (dict : Dict Key Value) (key : Key) : Option Value := lookup key dict.entries

theorem lookup_eq_some_iff {entries : List (Key × Value)}
    (distinct : (entries.map Prod.fst).Nodup) {key : Key} {value : Value} :
    lookup key entries = some value ↔ (key, value) ∈ entries := by
  induction entries with
  | nil => simp [lookup]
  | cons entry rest ih =>
    obtain ⟨first, old⟩ := entry
    obtain ⟨fresh, distinct⟩ := List.nodup_cons.mp distinct
    by_cases same : first = key
    · subst same
      have absent : (first, value) ∉ rest :=
        fun member => fresh (List.mem_map.mpr ⟨(first, value), member, rfl⟩)
      simp [lookup, absent, eq_comm]
    · simp [lookup, same, ih distinct, Ne.symm same]

theorem mem_of_lookup {entries : List (Key × Value)} {key : Key} {value : Value}
    (found : lookup key entries = some value) : (key, value) ∈ entries := by
  induction entries with
  | nil => cases found
  | cons entry rest ih =>
    rw [lookup] at found
    split at found
    · rename_i same
      obtain rfl := Option.some.inj found
      exact List.mem_cons.mpr (.inl (Prod.ext same.symm rfl))
    · exact List.mem_cons_of_mem _ (ih found)

theorem get?_eq_some_iff (dict : Dict Key Value) {key : Key} {value : Value} :
    dict.get? key = some value ↔ (key, value) ∈ dict.entries :=
  lookup_eq_some_iff dict.distinct

def assign (key : Key) (value : Value) : List (Key × Value) → List (Key × Value)
  | [] => [(key, value)]
  | (first, old) :: rest =>
    if first = key then (first, value) :: rest else (first, old) :: assign key value rest

theorem mem_assign {entries : List (Key × Value)} {key : Key} {value : Value}
    {entry : Key × Value} (member : entry ∈ assign key value entries) :
    entry = (key, value) ∨ entry ∈ entries := by
  induction entries with
  | nil => exact .inl (List.mem_singleton.mp member)
  | cons first rest ih =>
    rw [assign] at member
    split at member
    · rename_i same
      cases List.mem_cons.mp member with
      | inl set => exact .inl (same ▸ set)
      | inr kept => exact .inr (List.mem_cons_of_mem _ kept)
    · cases List.mem_cons.mp member with
      | inl same => exact .inr (List.mem_cons.mpr (.inl same))
      | inr later => exact (ih later).imp_right (List.mem_cons_of_mem _)

theorem assign_keys (key : Key) (value : Value) (entries : List (Key × Value)) :
    (assign key value entries).map Prod.fst =
      if key ∈ entries.map Prod.fst then entries.map Prod.fst
      else entries.map Prod.fst ++ [key] := by
  induction entries with
  | nil => simp [assign]
  | cons entry rest ih =>
    obtain ⟨first, old⟩ := entry
    by_cases same : first = key
    · simp [assign, same]
    · have other : key ≠ first := fun equal => same equal.symm
      simp only [assign, if_neg same, List.map_cons, ih, List.mem_cons, other, false_or]
      split <;> simp

def set (dict : Dict Key Value) (key : Key) (value : Value) : Dict Key Value where
  entries := assign key value dict.entries
  distinct := by
    rw [assign_keys]
    split
    · exact dict.distinct
    · rename_i absent
      exact List.nodup_append.mpr ⟨dict.distinct, List.nodup_singleton key, fun first member
        second single same => absent (by simp_all)⟩

theorem lookup_assign (key other : Key) (value : Value) (entries : List (Key × Value)) :
    lookup other (assign key value entries) =
      if key = other then some value else lookup other entries := by
  induction entries with
  | nil => by_cases same : key = other <;> simp [assign, lookup, same]
  | cons entry rest ih =>
    obtain ⟨first, old⟩ := entry
    by_cases same : first = key
    · subst same
      by_cases here : first = other <;> simp [assign, lookup, here]
    · by_cases here : first = other
      · subst here
        have different : key ≠ first := fun equal => same equal.symm
        simp [assign, lookup, same, different]
      · simp only [assign, lookup, if_neg same, if_neg here, ih]

theorem get?_set (dict : Dict Key Value) (key other : Key) (value : Value) :
    (dict.set key value).get? other = if key = other then some value else dict.get? other :=
  lookup_assign key other value dict.entries

theorem assign_assign (key : Key) (first second : Value) (entries : List (Key × Value)) :
    assign key second (assign key first entries) = assign key second entries := by
  induction entries with
  | nil => simp [assign]
  | cons entry rest ih =>
    by_cases same : entry.1 = key <;> simp [assign, same, ih]

theorem set_set (dict : Dict Key Value) (key : Key) (first second : Value) :
    (dict.set key first).set key second = dict.set key second :=
  ext (assign_assign key first second dict.entries)

theorem set_entries_ne_nil (dict : Dict Key Value) (key : Key) (value : Value) :
    (dict.set key value).entries ≠ [] := by
  intro empty
  have found := get?_set dict key key value
  simp [get?, empty, lookup] at found

def pop (dict : Dict Key Value) (key : Key) : Dict Key Value where
  entries := dict.entries.filter (fun entry => decide (entry.1 ≠ key))
  distinct := dict.distinct.sublist (List.filter_sublist.map Prod.fst)

section Values

variable {Image : Type*}

theorem lookup_mapValues (key : Key) (change : Value → Image) (entries : List (Key × Value)) :
    lookup key (entries.map (fun entry => (entry.1, change entry.2))) =
      (lookup key entries).map change := by
  induction entries with
  | nil => rfl
  | cons entry rest ih =>
    simp only [List.map_cons, lookup]
    split
    · rfl
    · exact ih

def mapValues (dict : Dict Key Value) (change : Value → Image) : Dict Key Image where
  entries := dict.entries.map (fun entry => (entry.1, change entry.2))
  distinct := by
    rw [List.map_map]
    exact dict.distinct

theorem get?_mapValues (dict : Dict Key Value) (change : Value → Image) (key : Key) :
    (dict.mapValues change).get? key = (dict.get? key).map change :=
  lookup_mapValues key change dict.entries

theorem assign_map (key : Key) (value : Value) (change : Value → Image)
    (entries : List (Key × Value)) :
    (assign key value entries).map (fun entry => (entry.1, change entry.2)) =
      assign key (change value) (entries.map (fun entry => (entry.1, change entry.2))) := by
  induction entries with
  | nil => rfl
  | cons entry rest ih =>
    by_cases same : entry.1 = key <;> simp [assign, same, ih]

theorem mapValues_set (dict : Dict Key Value) (change : Value → Image) (key : Key)
    (value : Value) :
    (dict.set key value).mapValues change = (dict.mapValues change).set key (change value) :=
  ext (assign_map key value change dict.entries)

omit [DecidableEq Key] in
theorem mapValues_mapValues {Final : Type*} (dict : Dict Key Value) (change : Value → Image)
    (finish : Image → Final) :
    (dict.mapValues change).mapValues finish =
      dict.mapValues (fun value => finish (change value)) :=
  ext (by simp [mapValues])

end Values

/-! ## Entries under other labels -/

section Labels

variable {Label Image : Type*} [DecidableEq Label] {label : Key × Value → Label}
  {change : Value → Image} {key : Key} {value : Value} {other : Label}
  {entries : List (Key × Value)}

theorem lookup_relabelled (apart : ∀ entry ∈ entries, label entry = other ↔ entry.1 = key) :
    lookup other (entries.map fun entry => (label entry, change entry.2)) =
      (lookup key entries).map change := by
  induction entries with
  | nil => rfl
  | cons entry rest ih =>
    obtain ⟨here, later⟩ := List.forall_mem_cons.mp apart
    simp only [List.map_cons, lookup, here, ih later]
    split <;> rfl

theorem assign_relabelled (same : label (key, value) = other)
    (apart : ∀ entry ∈ entries, label entry = other ↔ entry.1 = key) :
    assign other (change value) (entries.map fun entry => (label entry, change entry.2)) =
      (assign key value entries).map fun entry => (label entry, change entry.2) := by
  induction entries with
  | nil => simp [assign, same]
  | cons entry rest ih =>
    obtain ⟨here, later⟩ := List.forall_mem_cons.mp apart
    by_cases first : entry.1 = key
    · have labelled : label (entry.1, value) = label entry := by
        rw [first, same, here.mpr first]
      rw [List.map_cons, assign, assign, if_pos (here.mpr first), if_pos first, List.map_cons,
        labelled]
    · rw [List.map_cons, assign, assign, if_neg fun held => first (here.mp held), if_neg first,
        List.map_cons, ih later]

end Labels

/-! ## Setting many keys -/

section SetAll

variable {Item Image : Type*}

/-- One key set for every item, the later items over the earlier ones. -/
def setAll (dict : Dict Key Value) (key : Item → Key) (value : Item → Value)
    (items : List Item) : Dict Key Value :=
  items.foldl (fun dict item => dict.set (key item) (value item)) dict

theorem setAll_append (dict : Dict Key Value) (key : Item → Key) (value : Item → Value)
    (items : List Item) (item : Item) :
    dict.setAll key value (items ++ [item]) =
      (dict.setAll key value items).set (key item) (value item) := by
  rw [setAll, List.foldl_append]
  rfl

theorem setAll_map {Source : Type*} (dict : Dict Key Value) (key : Item → Key)
    (value : Item → Value) (item : Source → Item) (sources : List Source) :
    dict.setAll key value (sources.map item) =
      dict.setAll (fun source => key (item source)) (fun source => value (item source)) sources :=
  List.foldl_map

theorem mapValues_setAll (dict : Dict Key Value) (key : Item → Key) (value : Item → Value)
    (change : Value → Image) (items : List Item) :
    (dict.setAll key value items).mapValues change =
      (dict.mapValues change).setAll key (fun item => change (value item)) items := by
  induction items generalizing dict with
  | nil => rfl
  | cons item rest ih =>
    have later := ih (dict.set (key item) (value item))
    rwa [mapValues_set] at later

theorem get?_setAll_isSome_iff (dict : Dict Key Value) (key : Item → Key)
    (value : Item → Value) (items : List Item) (sought : Key) :
    ((dict.setAll key value items).get? sought).isSome ↔
      (∃ item ∈ items, key item = sought) ∨ (dict.get? sought).isSome := by
  induction items generalizing dict with
  | nil => simp [setAll]
  | cons item rest ih =>
    have later := ih (dict.set (key item) (value item))
    rw [get?_set] at later
    rw [setAll, List.foldl_cons, ← setAll, later, List.exists_mem_cons_iff, or_assoc]
    by_cases same : key item = sought <;> simp [same]

theorem get?_setAll_of_absent {dict : Dict Key Value} {key : Item → Key} {value : Item → Value}
    {items : List Item} {sought : Key} (absent : ∀ item ∈ items, key item ≠ sought) :
    (dict.setAll key value items).get? sought = dict.get? sought := by
  induction items generalizing dict with
  | nil => rfl
  | cons item rest ih =>
    obtain ⟨first, later⟩ := List.forall_mem_cons.mp absent
    have kept : ((dict.set (key item) (value item)).setAll key value rest).get? sought =
        (dict.set (key item) (value item)).get? sought := ih later
    rwa [get?_set, if_neg first] at kept

theorem get?_setAll_of_unique {dict : Dict Key Value} {key : Item → Key} {value : Item → Value}
    {items : List Item} {item : Item} (member : item ∈ items)
    (unique : ∀ other ∈ items, key other = key item → value other = value item) :
    (dict.setAll key value items).get? (key item) = some (value item) := by
  induction items using List.reverseRecOn generalizing dict with
  | nil => exact absurd member List.not_mem_nil
  | append_singleton items last ih =>
    rw [setAll_append, get?_set]
    by_cases same : key last = key item
    · rw [if_pos same, unique last (List.mem_append_right _ (List.mem_singleton_self _)) same]
    · rw [if_neg same]
      have earlier : item ∈ items := by
        rcases List.mem_append.mp member with earlier | here
        · exact earlier
        · exact absurd (congrArg key (List.mem_singleton.mp here)).symm same
      exact ih earlier (fun other listed => unique other (List.mem_append_left _ listed))

/-- What is found was set by an item, or was there before. -/
theorem exists_of_get?_setAll {dict : Dict Key Value} {key : Item → Key} {value : Item → Value}
    {items : List Item} {sought : Key} {found : Value}
    (present : (dict.setAll key value items).get? sought = some found) :
    (∃ item ∈ items, key item = sought ∧ value item = found) ∨ dict.get? sought = some found := by
  induction items using List.reverseRecOn with
  | nil => exact .inr present
  | append_singleton items last ih =>
    rw [setAll_append, get?_set] at present
    by_cases same : key last = sought
    · rw [if_pos same] at present
      exact .inl ⟨last, List.mem_append_right _ (List.mem_singleton_self _), same,
        Option.some.inj present⟩
    · rw [if_neg same] at present
      cases ih present with
      | inl set =>
        obtain ⟨item, member, held⟩ := set
        exact .inl ⟨item, List.mem_append_left _ member, held⟩
      | inr before => exact .inr before

/-- `dict.update(other)`. -/
def update (dict other : Dict Key Value) : Dict Key Value :=
  dict.setAll Prod.fst Prod.snd other.entries

theorem get?_update (dict other : Dict Key Value) (key : Key) :
    (dict.update other).get? key = (other.get? key).or (dict.get? key) := by
  cases found : other.get? key with
  | none =>
    rw [update, get?_setAll_of_absent, Option.none_or]
    rintro ⟨first, value⟩ member rfl
    rw [(get?_eq_some_iff other).mpr member] at found
    cases found
  | some value =>
    have member := (get?_eq_some_iff other).mp found
    refine get?_setAll_of_unique member ?_
    rintro ⟨first, second⟩ listed rfl
    have again := (get?_eq_some_iff other).mpr listed
    rw [found] at again
    exact (Option.some.inj again).symm

end SetAll

end Dict

end FxToushi.Data

namespace FxToushi.Data.Records

/-! # Records by key

A list that holds one record for each key.  A record that is stored takes the
place of the one under its key and goes last.
-/

variable {Key Record : Type*} [DecidableEq Key]

def find? (keyOf : Record → Key) (records : List Record) (key : Key) : Option Record :=
  records.find? (fun record => decide (keyOf record = key))

def store (keyOf : Record → Key) (records : List Record) (record : Record) : List Record :=
  records.filter (fun other => decide (keyOf other ≠ keyOf record)) ++ [record]

section Rules

variable {keyOf : Record → Key} {records : List Record} {record other : Record} {key : Key}

theorem mem_store : other ∈ store keyOf records record ↔
    (other ∈ records ∧ keyOf other ≠ keyOf record) ∨ other = record := by
  simp [store]

theorem of_find? (found : find? keyOf records key = some record) :
    record ∈ records ∧ keyOf record = key := by
  have matched := @List.find?_some _ (fun other => decide (keyOf other = key)) _ _ found
  exact ⟨List.mem_of_find?_eq_some found, of_decide_eq_true matched⟩

theorem find?_eq_some_iff (distinct : (records.map keyOf).Nodup) :
    find? keyOf records key = some record ↔ record ∈ records ∧ keyOf record = key := by
  refine ⟨of_find?, fun ⟨member, same⟩ => ?_⟩
  cases found : find? keyOf records key with
  | none =>
    have other := List.find?_eq_none.mp found record member
    exact absurd same (by simpa using other)
  | some first =>
    obtain ⟨among, also⟩ := of_find? found
    exact congrArg some (List.inj_on_of_nodup_map distinct among member (also.trans same.symm))

theorem distinct_store (distinct : (records.map keyOf).Nodup) (record : Record) :
    ((store keyOf records record).map keyOf).Nodup := by
  rw [store, List.map_append, List.map_singleton]
  have kept := distinct.sublist (List.Sublist.map keyOf
    (List.filter_sublist (l := records) (p := fun other => decide (keyOf other ≠ keyOf record))))
  refine kept.append (List.nodup_singleton _) ?_
  intro key member single
  obtain ⟨other, filtered, rfl⟩ := List.mem_map.mp member
  exact of_decide_eq_true (List.mem_filter.mp filtered).2 (List.mem_singleton.mp single)

theorem find?_store (records : List Record) (record : Record) (key : Key) :
    find? keyOf (store keyOf records record) key =
      if keyOf record = key then some record else find? keyOf records key := by
  induction records with
  | nil => by_cases same : keyOf record = key <;> simp [find?, store, same]
  | cons first rest ih =>
    rw [find?, store] at ih ⊢
    by_cases replaced : keyOf first = keyOf record
    · by_cases same : keyOf record = key
      · simpa [replaced, same, find?] using ih
      · simpa [replaced, same, find?] using ih
    · by_cases here : keyOf first = key
      · have other : keyOf record ≠ key := fun same => replaced (here.trans same.symm)
        rw [List.filter_cons_of_pos (by simpa using replaced), List.cons_append,
          List.find?_cons_of_pos (by simpa using here), if_neg other, find?,
          List.find?_cons_of_pos (by simpa using here)]
      · simpa [replaced, here, find?] using ih

end Rules

end FxToushi.Data.Records
