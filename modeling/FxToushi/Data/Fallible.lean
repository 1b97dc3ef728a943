import Mathlib.Data.List.Basic

namespace FxToushi.Data

/-! # Fallible computations

What the parts of a computation returned when it returned a value, and the map
over a list that stops at the first error.
-/

theorem bind_ok.{u, v} {Error : Type u} {Image Final : Type v} {result : Except Error Image}
    {next : Image → Except Error Final} {final : Final} (returned : result >>= next = .ok final) :
    ∃ image, result = .ok image ∧ next image = .ok final := by
  cases result with
  | error error => exact absurd returned (by simp [bind, Except.bind])
  | ok image => exact ⟨image, rfl, returned⟩

theorem bind_ok_iff.{u, v} {Error : Type u} {Image Final : Type v} {result : Except Error Image}
    {next : Image → Except Error Final} {final : Final} :
    result >>= next = .ok final ↔ ∃ image, result = .ok image ∧ next image = .ok final := by
  refine ⟨bind_ok, ?_⟩
  rintro ⟨image, rfl, returned⟩
  exact returned

theorem map_bind_eq.{u, v} {Error : Type u} {Image Middle Final : Type v}
    (result : Except Error Image) (next : Image → Except Error Middle) (finish : Middle → Final) :
    (result >>= next).map finish = result >>= fun image => (next image).map finish := by
  cases result with
  | error error => rfl
  | ok image => rfl

theorem bind_pure_eq_map.{u, v} {Error : Type u} {Image Final : Type v}
    (result : Except Error Image) (finish : Image → Final) :
    (result >>= fun image => pure (finish image)) = result.map finish := by
  cases result with
  | error error => rfl
  | ok image => rfl

theorem map_map_eq.{u, v} {Error : Type u} {Image Middle Final : Type v}
    (result : Except Error Image) (first : Image → Middle) (second : Middle → Final) :
    (result.map first).map second = result.map fun image => second (first image) := by
  cases result with
  | error error => rfl
  | ok image => rfl

/-- Every error of the computation is allowed. -/
def FailsWith.{u, v} {Error : Type u} {Image : Type v} (allowed : Error → Prop)
    (result : Except Error Image) : Prop :=
  ∀ error, result = .error error → allowed error

theorem FailsWith.ok.{u, v} {Error : Type u} {Image : Type v} {allowed : Error → Prop}
    (image : Image) : FailsWith allowed (.ok image) :=
  fun _ failed => nomatch failed

theorem FailsWith.error.{u, v} {Error : Type u} {Image : Type v} {allowed : Error → Prop}
    {error : Error} (expected : allowed error) :
    FailsWith allowed (.error error : Except Error Image) := by
  intro other failed
  cases failed
  exact expected

theorem FailsWith.bind.{u, v} {Error : Type u} {Image Final : Type v} {allowed : Error → Prop}
    {result : Except Error Image} {next : Image → Except Error Final}
    (first : FailsWith allowed result) (later : ∀ image, FailsWith allowed (next image)) :
    FailsWith allowed (result >>= next) := by
  cases result with
  | error error => exact .error (first error rfl)
  | ok image => exact later image

variable {Item Image Error : Type*}

def tryMap (apply : Item → Except Error Image) : List Item → Except Error (List Image)
  | [] => .ok []
  | item :: rest => do
      let image ← apply item
      let images ← tryMap apply rest
      return image :: images

variable {apply : Item → Except Error Image} {items : List Item} {images : List Image}

theorem ok_of_toOption {result : Except Error Image} {image : Image}
    (present : result.toOption = some image) : result = .ok image := by
  cases result with
  | error error => exact absurd present (by simp [Except.toOption])
  | ok value => exact congrArg _ (Option.some.inj present)

theorem exists_ok (result : Except Error Image) (succeeds : result.toOption.isSome = true) :
    ∃ image, result = .ok image := by
  obtain ⟨image, present⟩ := Option.isSome_iff_exists.mp succeeds
  exact ⟨image, ok_of_toOption present⟩

theorem exists_ok_any {result : Except Error Image} {good : Image → Bool}
    (found : result.toOption.any good = true) : ∃ image, result = .ok image ∧ good image := by
  cases result with
  | error error => exact absurd found (by simp [Except.toOption])
  | ok image => exact ⟨image, rfl, found⟩

theorem tryMap_cons_ok {item : Item} (mapped : tryMap apply (item :: items) = .ok images) :
    ∃ image rest, apply item = .ok image ∧ tryMap apply items = .ok rest ∧
      images = image :: rest := by
  obtain ⟨image, applied, mapped⟩ := bind_ok mapped
  obtain ⟨rest, mappedRest, returned⟩ := bind_ok mapped
  exact ⟨image, rest, applied, mappedRest, (Except.ok.inj returned).symm⟩

theorem tryMap_ok (mapped : tryMap apply items = .ok images) :
    images = items.filterMap (fun item => (apply item).toOption) := by
  induction items generalizing images with
  | nil => exact (Except.ok.inj mapped).symm
  | cons item rest ih =>
    obtain ⟨image, later, applied, mappedRest, rfl⟩ := tryMap_cons_ok mapped
    rw [List.filterMap_cons_some (b := image) (by rw [applied]; rfl), ← ih mappedRest]

theorem mem_of_tryMap (mapped : tryMap apply items = .ok images) {image : Image} :
    image ∈ images ↔ ∃ item ∈ items, apply item = .ok image := by
  induction items generalizing images with
  | nil =>
    obtain rfl := Except.ok.inj mapped
    simp
  | cons item rest ih =>
    obtain ⟨first, later, applied, mappedRest, rfl⟩ := tryMap_cons_ok mapped
    rw [List.mem_cons, ih mappedRest, List.exists_mem_cons_iff, applied, Except.ok.injEq, eq_comm]

theorem map_of_tryMap {Label : Type*} {ofImage : Image → Label} {ofItem : Item → Label}
    (same : ∀ item image, apply item = .ok image → ofImage image = ofItem item)
    (mapped : tryMap apply items = .ok images) : images.map ofImage = items.map ofItem := by
  induction items generalizing images with
  | nil => rw [← Except.ok.inj mapped, List.map_nil, List.map_nil]
  | cons item rest ih =>
    obtain ⟨first, later, applied, mappedRest, rfl⟩ := tryMap_cons_ok mapped
    rw [List.map_cons, List.map_cons, same item first applied, ih mappedRest]

theorem tryMap_ok_iff : (∃ images, tryMap apply items = .ok images) ↔
    ∀ item ∈ items, ∃ image, apply item = .ok image := by
  induction items with
  | nil => simp [tryMap]
  | cons item rest ih =>
    rw [List.forall_mem_cons, ← ih]
    constructor
    · intro succeeds
      obtain ⟨images, mapped⟩ := succeeds
      obtain ⟨first, later, applied, mappedRest, -⟩ := tryMap_cons_ok mapped
      exact ⟨⟨first, applied⟩, later, mappedRest⟩
    · intro succeeds
      obtain ⟨⟨first, applied⟩, later, mappedRest⟩ := succeeds
      exact ⟨first :: later, by rw [tryMap, applied, mappedRest]; rfl⟩

/-- A map that returned is one by the images of its items. -/
theorem image_of_tryMap (fallback : Item → Image) (mapped : tryMap apply items = .ok images) :
    ∃ image : Item → Image, images = items.map image ∧
      ∀ item ∈ items, apply item = .ok (image item) := by
  have present : ∀ item ∈ items,
      apply item = .ok ((apply item).toOption.getD (fallback item)) := by
    intro item member
    obtain ⟨image, applied⟩ := tryMap_ok_iff.mp ⟨images, mapped⟩ item member
    rw [applied]
    rfl
  refine ⟨fun item => (apply item).toOption.getD (fallback item), ?_, present⟩
  rw [tryMap_ok mapped]
  clear mapped
  induction items with
  | nil => rfl
  | cons item rest ih =>
    obtain ⟨applied, later⟩ := List.forall_mem_cons.mp present
    rw [List.map_cons, ← ih later]
    exact List.filterMap_cons_some (by rw [applied]; rfl)

theorem tryMap_finish {Final : Type*} (apply : Item → Except Error Image)
    (finish : Image → Final) (items : List Item) :
    tryMap (fun item => (apply item).map finish) items =
      (tryMap apply items).map (List.map finish) := by
  induction items with
  | nil => rfl
  | cons item rest ih =>
    rw [tryMap, tryMap, ih]
    cases apply item with
    | error error => rfl
    | ok image => cases tryMap apply rest <;> rfl

theorem tryMap_source {Source : Type*} (apply : Item → Except Error Image)
    (source : Source → Item) (sources : List Source) :
    tryMap apply (sources.map source) = tryMap (fun item => apply (source item)) sources := by
  induction sources with
  | nil => rfl
  | cons first rest ih => rw [List.map_cons, tryMap, tryMap, ih]

theorem tryMap_map {Source : Type*} {encode : Source → Item} {decoded : Source → Image}
    (inverse : ∀ source, apply (encode source) = .ok (decoded source)) (sources : List Source) :
    tryMap apply (sources.map encode) = .ok (sources.map decoded) := by
  induction sources with
  | nil => rfl
  | cons source rest ih =>
    rw [List.map_cons, tryMap, inverse, ih]
    rfl

theorem tryMap_sublist {fewer : List Item} (kept : fewer.Sublist items)
    (mapped : tryMap apply items = .ok images) :
    ∃ remaining, tryMap apply fewer = .ok remaining ∧ remaining.Sublist images := by
  obtain ⟨remaining, returned⟩ := tryMap_ok_iff.mpr fun item member =>
    tryMap_ok_iff.mp ⟨images, mapped⟩ item (kept.subset member)
  refine ⟨remaining, returned, ?_⟩
  rw [tryMap_ok mapped, tryMap_ok returned]
  exact kept.filterMap _

theorem tryMap_append {more : List Item} {others : List Image}
    (mapped : tryMap apply items = .ok images) (mappedMore : tryMap apply more = .ok others) :
    tryMap apply (items ++ more) = .ok (images ++ others) := by
  induction items generalizing images with
  | nil =>
    obtain rfl := Except.ok.inj mapped
    exact mappedMore
  | cons item rest ih =>
    obtain ⟨image, later, applied, mappedRest, rfl⟩ := tryMap_cons_ok mapped
    rw [List.cons_append, tryMap, applied, ih mappedRest]
    rfl

/-- Where an item gives the image of what is known of it and nothing otherwise, the
images together are those of what is known. -/
theorem tryMap_flatten {Known : Type*} {known : Item → Option Known}
    {each : Known → Except Error Image} {apply : Item → Except Error (List Image)}
    (unknown : ∀ item, known item = none → apply item = .ok [])
    (single : ∀ item found, known item = some found →
      apply item = (each found).map (fun image => [image]))
    {parts : List (List Image)} (mapped : tryMap apply items = .ok parts) :
    tryMap each (items.filterMap known) = .ok parts.flatten := by
  induction items generalizing parts with
  | nil =>
    obtain rfl := Except.ok.inj mapped
    rfl
  | cons item rest ih =>
    obtain ⟨part, later, applied, mappedRest, rfl⟩ := tryMap_cons_ok mapped
    cases present : known item with
    | none =>
      rw [unknown item present] at applied
      obtain rfl := Except.ok.inj applied
      rw [List.filterMap_cons_none present, List.flatten_cons, List.nil_append]
      exact ih mappedRest
    | some found =>
      rw [single item found present] at applied
      rw [List.filterMap_cons_some present, tryMap, ih mappedRest]
      cases image : each found with
      | error error =>
        rw [image] at applied
        cases applied
      | ok value =>
        rw [image] at applied
        obtain rfl := Except.ok.inj applied
        rfl

end FxToushi.Data
