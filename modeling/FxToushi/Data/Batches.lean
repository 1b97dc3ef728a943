import FxToushi.Data.Fallible
import Mathlib.Data.List.Perm.Basic

namespace FxToushi.Data

/-! # Work done batch by batch

A list is split by a key; each batch is worked on alone, and reports on each of
its items and chooses some.  What the batches reported and chose, put together,
is a ledger of the whole list.
-/

variable {Item Key Report : Type*} [DecidableEq Key]

def batch (label : Item → Key) (items : List Item) (key : Key) : List Item :=
  items.filter (fun item => decide (label item = key))

@[simp] theorem mem_batch {label : Item → Key} {items : List Item} {key : Key} {item : Item} :
    item ∈ batch label items key ↔ item ∈ items ∧ label item = key := by
  simp [batch]

/-- The items under the first key, then those under the others. -/
theorem flatMap_batch_perm_filter (label : Item → Key) (items : List Item) {keys : List Key}
    (distinct : keys.Nodup) :
    (keys.flatMap (batch label items)).Perm
      (items.filter (fun item => decide (label item ∈ keys))) := by
  induction keys with
  | nil => simp
  | cons key rest ih =>
    obtain ⟨fresh, distinctRest⟩ := List.nodup_cons.mp distinct
    have first : (items.filter fun item => decide (label item ∈ key :: rest)).filter
        (fun item => decide (label item = key)) = batch label items key := by
      rw [List.filter_filter]
      apply List.filter_congr
      intro item _
      by_cases same : label item = key <;> simp [same]
    have later : (items.filter fun item => decide (label item ∈ key :: rest)).filter
        (fun item => !decide (label item = key)) =
          items.filter (fun item => decide (label item ∈ rest)) := by
      rw [List.filter_filter]
      apply List.filter_congr
      intro item _
      by_cases same : label item = key
      · simp [same, fresh]
      · simp [same]
    have split := List.filter_append_perm (fun item => decide (label item = key))
      (items.filter fun item => decide (label item ∈ key :: rest))
    rw [first, later] at split
    rw [List.flatMap_cons]
    exact ((ih distinctRest).append_left _).trans split

theorem flatMap_batch_perm {label : Item → Key} {items : List Item} {keys : List Key}
    (distinct : keys.Nodup) (covered : ∀ item ∈ items, label item ∈ keys) :
    (keys.flatMap (batch label items)).Perm items := by
  have whole : items.filter (fun item => decide (label item ∈ keys)) = items :=
    List.filter_eq_self.mpr fun item member => by simpa using covered item member
  simpa [whole] using flatMap_batch_perm_filter label items distinct

/-- What the batches chose under one key is what its own batch chose. -/
theorem countP_flatMap_batch {label : Item → Key} {chosen : Key → List Item} {keys : List Key}
    (distinct : keys.Nodup) (own : ∀ key ∈ keys, ∀ item ∈ chosen key, label item = key) {key : Key}
    (member : key ∈ keys) :
    (keys.flatMap chosen).countP (fun item => decide (label item = key)) =
      (chosen key).length := by
  induction keys with
  | nil => cases member
  | cons first rest ih =>
    obtain ⟨fresh, distinctRest⟩ := List.nodup_cons.mp distinct
    have ownRest : ∀ key ∈ rest, ∀ item ∈ chosen key, label item = key :=
      fun other later => own other (List.mem_cons_of_mem _ later)
    rw [List.flatMap_cons, List.countP_append]
    rcases List.mem_cons.mp member with rfl | later
    · have none : (rest.flatMap chosen).countP (fun item => decide (label item = key)) = 0 := by
        rw [List.countP_eq_zero]
        intro item found
        obtain ⟨other, placed, found⟩ := List.mem_flatMap.mp found
        have named := ownRest other placed item found
        simpa [named] using fun same : other = key => fresh (same ▸ placed)
      have all : (chosen key).countP (fun item => decide (label item = key)) =
          (chosen key).length := by
        rw [List.countP_eq_length]
        exact fun item found => by simpa using own key member item found
      omega
    · have none : (chosen first).countP (fun item => decide (label item = key)) = 0 := by
        rw [List.countP_eq_zero]
        intro item found
        have named := own first List.mem_cons_self item found
        simpa [named] using fun same : first = key => fresh (same ▸ later)
      rw [none, ih distinctRest ownRest later, Nat.zero_add]

theorem tryMap_eq_map {Source Image Error : Type*} {apply : Source → Except Error Image}
    {image : Source → Image} {sources : List Source}
    (returns : ∀ source ∈ sources, apply source = .ok (image source)) :
    tryMap apply sources = .ok (sources.map image) := by
  induction sources with
  | nil => rfl
  | cons first rest ih =>
    rw [tryMap, returns first List.mem_cons_self,
      ih fun source later => returns source (List.mem_cons_of_mem _ later)]
    rfl

theorem tryMap_perm {Source Image Error : Type*} {apply : Source → Except Error Image}
    {sources others : List Source} {images : List Image} (perm : others.Perm sources)
    (mapped : tryMap apply sources = .ok images) :
    ∃ results, tryMap apply others = .ok results ∧ results.Perm images := by
  obtain ⟨results, returned⟩ := tryMap_ok_iff.mpr fun source member =>
    tryMap_ok_iff.mp ⟨images, mapped⟩ source (perm.mem_iff.mp member)
  refine ⟨results, returned, ?_⟩
  rw [tryMap_ok mapped, tryMap_ok returned]
  exact perm.filterMap _

/-! ## Up to the first error -/

section Until

variable {Source Image Final Error : Type*}

/-- The images of the sources before the first that fails. -/
def flatMapUntil (apply : Source → Except Error (List Image)) : List Source → List Image
  | [] => []
  | source :: rest =>
    match apply source with
    | .error _ => []
    | .ok images => images ++ flatMapUntil apply rest

variable {apply : Source → Except Error (List Image)} {sources : List Source}

theorem exists_of_mem_flatMapUntil {image : Image} (member : image ∈ flatMapUntil apply sources) :
    ∃ source ∈ sources, ∃ images, apply source = .ok images ∧ image ∈ images := by
  induction sources with
  | nil => cases member
  | cons source rest ih =>
    rw [flatMapUntil] at member
    cases applied : apply source with
    | error error =>
      rw [applied] at member
      cases member
    | ok images =>
      rw [applied] at member
      cases List.mem_append.mp member with
      | inl first => exact ⟨source, List.mem_cons_self, images, applied, first⟩
      | inr later =>
        obtain ⟨other, placed, found⟩ := ih later
        exact ⟨other, List.mem_cons_of_mem source placed, found⟩

theorem flatMapUntil_eq_flatMap {images : Source → List Image}
    (returns : ∀ source ∈ sources, apply source = .ok (images source)) :
    flatMapUntil apply sources = sources.flatMap images := by
  induction sources with
  | nil => rfl
  | cons source rest ih =>
    obtain ⟨first, later⟩ := List.forall_mem_cons.mp returns
    rw [flatMapUntil, first, List.flatMap_cons, ih later]

theorem flatMapUntil_filterMap {change : Image → Option Final}
    {finish : Source → Except Error (List Final)}
    (changes : ∀ source ∈ sources, finish source = (apply source).map (List.filterMap change)) :
    flatMapUntil finish sources = (flatMapUntil apply sources).filterMap change := by
  induction sources with
  | nil => rfl
  | cons source rest ih =>
    obtain ⟨first, later⟩ := List.forall_mem_cons.mp changes
    rw [flatMapUntil, flatMapUntil, first]
    cases apply source with
    | error error => rfl
    | ok images => exact (congrArg _ (ih later)).trans List.filterMap_append.symm

end Until

theorem filterMap_eq_map_iff {Source Image : Type*} {change : Source → Option Image}
    {expected : Source → Image} {sources : List Source} :
    sources.filterMap change = sources.map expected ↔
      ∀ source ∈ sources, change source = some (expected source) := by
  induction sources with
  | nil => simp
  | cons source rest ih =>
    rw [List.forall_mem_cons, ← ih, List.map_cons]
    cases changed : change source with
    | none =>
      rw [List.filterMap_cons_none changed]
      refine iff_of_false (fun same => ?_) (fun both => nomatch both.1)
      have short := List.length_filterMap_le change rest
      rw [same, List.length_cons, List.length_map] at short
      exact Nat.not_succ_le_self _ short
    | some image =>
      rw [List.filterMap_cons_some changed, List.cons.injEq, Option.some.injEq]

/-! ## Ledgers -/

/-- Each item has one report of its own, marked exactly when the item is chosen. -/
structure Ledger (tells : Report → Item → Prop) (marked : Report → Bool) (items : List Item)
    (reports : List Report) (chosen : List Item) : Prop where
  entries : ∃ entries : List (Item × Report),
    (entries.map Prod.fst).Perm items ∧ entries.map Prod.snd = reports ∧
      ∀ entry ∈ entries, tells entry.2 entry.1 ∧ (marked entry.2 = true ↔ entry.1 ∈ chosen)
  present : ∀ item ∈ chosen, item ∈ items

variable {tells : Report → Item → Prop} {marked : Report → Bool}

/-- The ledgers of the batches make a ledger of the whole. -/
theorem Ledger.flatMap {label : Item → Key} {items : List Item} {keys : List Key}
    (distinct : keys.Nodup) (covered : ∀ item ∈ items, label item ∈ keys)
    {reports : Key → List Report} {chosen : Key → List Item}
    (ledgers : ∀ key ∈ keys,
      Ledger tells marked (batch label items key) (reports key) (chosen key)) :
    Ledger tells marked items (keys.flatMap reports) (keys.flatMap chosen) := by
  have split : ∀ key, ∃ entries : List (Item × Report), key ∈ keys →
      (entries.map Prod.fst).Perm (batch label items key) ∧
        entries.map Prod.snd = reports key ∧
          ∀ entry ∈ entries, tells entry.2 entry.1 ∧
            (marked entry.2 = true ↔ entry.1 ∈ chosen key) := by
    intro key
    by_cases member : key ∈ keys
    · obtain ⟨entries, held⟩ := (ledgers key member).entries
      exact ⟨entries, fun _ => held⟩
    · exact ⟨[], fun absurdity => absurd absurdity member⟩
  choose entries held using split
  constructor
  · refine ⟨keys.flatMap entries, ?_, ?_, ?_⟩
    · rw [List.map_flatMap]
      exact (List.Perm.flatMap_left _ fun key member => (held key member).1).trans
        (flatMap_batch_perm distinct covered)
    · rw [List.map_flatMap]
      exact List.flatMap_congr fun key member => (held key member).2.1
    · intro entry found
      obtain ⟨key, member, found⟩ := List.mem_flatMap.mp found
      obtain ⟨told, -, each⟩ := held key member
      obtain ⟨tellsIt, markedIt⟩ := each entry found
      refine ⟨tellsIt, markedIt.trans ⟨fun kept => List.mem_flatMap.mpr ⟨key, member, kept⟩, ?_⟩⟩
      -- an item chosen in a batch has the key of that batch
      intro kept
      obtain ⟨other, placed, kept⟩ := List.mem_flatMap.mp kept
      have ownLabel := (mem_batch.mp (told.mem_iff.mp (List.mem_map_of_mem found))).2
      have otherLabel := (mem_batch.mp ((ledgers other placed).present _ kept)).2
      rwa [← ownLabel, otherLabel]
  · intro item kept
    obtain ⟨key, member, kept⟩ := List.mem_flatMap.mp kept
    exact (mem_batch.mp ((ledgers key member).present _ kept)).1

end FxToushi.Data

namespace FxToushi.Data

/-! # Computations in step

Two fallible computations are in step when both return, related values, or both
fail.  With which error they fail is not compared.
-/

inductive InStep {Error Failure : Type*} {Image Other : Type*} (related : Image → Other → Prop) :
    Except Error Image → Except Failure Other → Prop
  | returns {image : Image} {other : Other} (same : related image other) :
      InStep related (.ok image) (.ok other)
  | fails (error : Error) (failure : Failure) : InStep related (.error error) (.error failure)

namespace InStep

variable {Error : Type*} {Image Other : Type*} {related : Image → Other → Prop}
  {result : Except Error Image} {otherResult : Except Error Other}

theorem of_eq (result : Except Error Image) : InStep Eq result result := by
  cases result with
  | error error => exact .fails error error
  | ok image => exact .returns rfl

theorem bind.{u, v} {Error : Type u} {Image Other Final OtherFinal : Type v}
    {related : Image → Other → Prop} {relatedFinal : Final → OtherFinal → Prop}
    {result : Except Error Image} {otherResult : Except Error Other}
    {next : Image → Except Error Final} {otherNext : Other → Except Error OtherFinal}
    (first : InStep related result otherResult)
    (later : ∀ image other, result = .ok image → related image other →
      InStep relatedFinal (next image) (otherNext other)) :
    InStep relatedFinal (result >>= next) (otherResult >>= otherNext) := by
  cases first with
  | returns same => exact later _ _ rfl same
  | fails error failure => exact .fails error failure

theorem value {image : Image} {other : Other}
    (inStep : InStep related (.ok image : Except Error Image) (.ok other : Except Error Other)) :
    related image other := by
  cases inStep with
  | returns same => exact same

end InStep

theorem tryMap_inStep {Source Image Error : Type*} (apply : Source → Except Error Image)
    {sources others : List Source} (perm : others.Perm sources) :
    InStep List.Perm (tryMap apply others) (tryMap apply sources) := by
  cases mapped : tryMap apply sources with
  | ok images =>
    obtain ⟨results, returned, same⟩ := tryMap_perm perm mapped
    rw [returned]
    exact .returns same
  | error error =>
    cases returned : tryMap apply others with
    | error failure => exact .fails failure error
    | ok results =>
      obtain ⟨images, impossible, -⟩ := tryMap_perm perm.symm returned
      rw [mapped] at impossible
      cases impossible

end FxToushi.Data
