import Mathlib.Data.List.Nodup

namespace FxToushi.Data

/-! # The latest entry of a key

A log has several entries of one key, and the latest counts.  A reader that
takes every entry for itself lists the keys of the open entries.
-/

section Latest

variable {Entry Key : Type*} (keyOf : Entry → Key) (isOpen : Entry → Bool)

def openKeys (entries : List Entry) : List Key := (entries.filter isOpen).map keyOf

variable {keyOf isOpen} in
theorem openKeys_cons (entry : Entry) (rest : List Entry) :
    openKeys keyOf isOpen (entry :: rest) =
      if isOpen entry then keyOf entry :: openKeys keyOf isOpen rest
      else openKeys keyOf isOpen rest := by
  by_cases isOpen : isOpen entry
  · simp [openKeys, isOpen]
  · simp [openKeys, isOpen]

variable {keyOf isOpen} in
theorem later_of_mem_openKeys {key : Key} {entries : List Entry}
    (member : key ∈ openKeys keyOf isOpen entries) :
    ∃ other ∈ entries, keyOf other = key := by
  obtain ⟨other, listed, same⟩ := List.mem_map.mp member
  exact ⟨other, (List.mem_filter.mp listed).1, same⟩

variable [DecidableEq Key]

def latest? (key : Key) (entries : List Entry) : Option Entry :=
  entries.reverse.find? (fun entry => keyOf entry == key)

/-- The latest entry of the key is open. -/
def OpenAt (entries : List Entry) (key : Key) : Prop :=
  ∃ entry, latest? keyOf key entries = some entry ∧ isOpen entry = true

/-- The open keys are those whose latest entry is open, each of them once. -/
structure ListsOpen (entries : List Entry) : Prop where
  once : (openKeys keyOf isOpen entries).Nodup
  exactly : ∀ key, key ∈ openKeys keyOf isOpen entries ↔ OpenAt keyOf isOpen entries key

variable {keyOf isOpen}

theorem latest?_cons (key : Key) (entry : Entry) (rest : List Entry) :
    latest? keyOf key (entry :: rest) =
      (latest? keyOf key rest).or (if keyOf entry = key then some entry else none) := by
  rw [latest?, List.reverse_cons, List.find?_append, latest?]
  by_cases same : keyOf entry = key
  · simp [same]
  · simp [same]

theorem latest?_eq_none_iff {key : Key} {entries : List Entry} :
    latest? keyOf key entries = none ↔ ∀ entry ∈ entries, keyOf entry ≠ key := by
  simp [latest?, List.find?_eq_none]

theorem mem_of_latest? {key : Key} {entries : List Entry} {entry : Entry}
    (found : latest? keyOf key entries = some entry) : entry ∈ entries ∧ keyOf entry = key := by
  have member := List.mem_of_find?_eq_some found
  have same := List.find?_some found
  exact ⟨List.mem_reverse.mp member, eq_of_beq same⟩

theorem OpenAt.mem_openKeys {key : Key} {entries : List Entry}
    (openAt : OpenAt keyOf isOpen entries key) : key ∈ openKeys keyOf isOpen entries := by
  obtain ⟨entry, found, isOpen⟩ := openAt
  obtain ⟨member, same⟩ := mem_of_latest? found
  exact List.mem_map.mpr ⟨entry, List.mem_filter.mpr ⟨member, isOpen⟩, same⟩

theorem openAt_cons_of_later {entry : Entry} {rest : List Entry} {key : Key}
    (later : ∃ other ∈ rest, keyOf other = key) :
    OpenAt keyOf isOpen (entry :: rest) key ↔ OpenAt keyOf isOpen rest key := by
  have found : latest? keyOf key rest ≠ none := by
    intro absent
    obtain ⟨other, member, same⟩ := later
    exact latest?_eq_none_iff.mp absent other member same
  obtain ⟨last, found⟩ := Option.ne_none_iff_exists'.mp found
  rw [OpenAt, OpenAt, latest?_cons, found, Option.some_or]

theorem openAt_cons_of_last {entry : Entry} {rest : List Entry}
    (last : ∀ other ∈ rest, keyOf other ≠ keyOf entry) :
    OpenAt keyOf isOpen (entry :: rest) (keyOf entry) ↔ isOpen entry = true := by
  rw [OpenAt, latest?_cons, latest?_eq_none_iff.mpr last, Option.none_or, if_pos rfl]
  simp

namespace ListsOpen

variable {entry : Entry} {rest : List Entry}

theorem tail (lists : ListsOpen keyOf isOpen (entry :: rest)) : ListsOpen keyOf isOpen rest := by
  constructor
  · have once := lists.once
    rw [openKeys_cons] at once
    split at once
    · exact (List.nodup_cons.mp once).2
    · exact once
  · intro key
    refine ⟨fun member => ?_, OpenAt.mem_openKeys⟩
    have first : key ∈ openKeys keyOf isOpen (entry :: rest) := by
      rw [openKeys_cons]
      split
      · exact List.mem_cons_of_mem _ member
      · exact member
    exact (openAt_cons_of_later (later_of_mem_openKeys member)).mp ((lists.exactly key).mp first)

theorem head (lists : ListsOpen keyOf isOpen (entry :: rest)) (isOpen : isOpen entry = true) :
    ∀ later ∈ rest, keyOf later ≠ keyOf entry := by
  intro later member same
  have once := lists.once
  have listed := lists.exactly (keyOf entry)
  rw [openKeys_cons, if_pos isOpen] at once listed
  have openAt := listed.mp List.mem_cons_self
  have again := (openAt_cons_of_later ⟨later, member, same⟩).mp openAt
  exact (List.nodup_cons.mp once).1 again.mem_openKeys

theorem cons (lists : ListsOpen keyOf isOpen rest)
    (alone : isOpen entry = true → ∀ later ∈ rest, keyOf later ≠ keyOf entry) :
    ListsOpen keyOf isOpen (entry :: rest) := by
  have still : ∀ key ∈ openKeys keyOf isOpen rest, OpenAt keyOf isOpen (entry :: rest) key := by
    intro key member
    exact (openAt_cons_of_later (later_of_mem_openKeys member)).mpr ((lists.exactly key).mp member)
  cases isOpen : isOpen entry with
  | false =>
    constructor
    · rw [openKeys_cons, if_neg (by rw [isOpen]; decide)]
      exact lists.once
    · intro key
      refine ⟨fun member => ?_, OpenAt.mem_openKeys⟩
      rw [openKeys_cons, if_neg (by rw [isOpen]; decide)] at member
      exact still key member
  | true =>
    constructor
    · rw [openKeys_cons, if_pos isOpen]
      refine List.nodup_cons.mpr ⟨fun member => ?_, lists.once⟩
      obtain ⟨later, inRest, same⟩ := later_of_mem_openKeys member
      exact alone isOpen later inRest same
    · intro key
      refine ⟨fun member => ?_, OpenAt.mem_openKeys⟩
      rw [openKeys_cons, if_pos isOpen] at member
      cases List.mem_cons.mp member with
      | inl same =>
        subst same
        exact (openAt_cons_of_last (alone isOpen)).mpr isOpen
      | inr inRest => exact still key inRest

end ListsOpen

/-- Taking every entry for itself is right exactly when no entry before the
latest of its key is open. -/
theorem listsOpen_iff (entries : List Entry) :
    ListsOpen keyOf isOpen entries ↔
      entries.Pairwise (fun earlier later =>
        keyOf earlier = keyOf later → isOpen earlier = false) := by
  induction entries with
  | nil =>
    refine iff_of_true ⟨List.nodup_nil, fun key => ?_⟩ List.Pairwise.nil
    refine iff_of_false List.not_mem_nil ?_
    rintro ⟨entry, found, -⟩
    cases found
  | cons entry rest ih =>
    rw [List.pairwise_cons, ← ih]
    constructor
    · intro lists
      refine ⟨fun later member same => ?_, lists.tail⟩
      by_contra still
      rw [Bool.not_eq_false] at still
      exact lists.head still later member same.symm
    · rintro ⟨closed, lists⟩
      refine lists.cons (fun isOpen later member same => ?_)
      rw [closed later member same.symm] at isOpen
      cases isOpen

end Latest

end FxToushi.Data
