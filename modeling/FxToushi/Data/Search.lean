import FxToushi.Data.Fallible

namespace FxToushi.Data

/-! # Searches that may fail

A search asks one item after the other and ends at the first hit or at the
first failure.
-/

section Search

variable {Item Image Error : Type*}

def tryAny (judge : Item → Except Error Bool) : List Item → Except Error Bool
  | [] => .ok false
  | item :: rest => do
      if ← judge item then return true
      tryAny judge rest

variable {judge : Item → Except Error Bool} {items : List Item} {item : Item} {found : Bool}

theorem tryAny_of_hit {rest : List Item} (hit : judge item = .ok true) :
    tryAny judge (item :: rest) = .ok true := by
  rw [tryAny, hit]
  rfl

theorem tryAny_of_miss {rest : List Item} (missed : judge item = .ok false) :
    tryAny judge (item :: rest) = tryAny judge rest := by
  rw [tryAny, missed]
  rfl

theorem tryAny_of_error {rest : List Item} {error : Error} (failed : judge item = .error error) :
    tryAny judge (item :: rest) = .error error := by
  rw [tryAny, failed]
  rfl

/-- A search that returns passed every item that it did not miss only because of
a hit. -/
theorem tryAny_true_of_mem (searched : tryAny judge items = .ok found) (member : item ∈ items)
    (noted : judge item ≠ .ok false) : found = true := by
  induction items with
  | nil => cases member
  | cons first rest ih =>
    cases judged : judge first with
    | error error =>
      rw [tryAny_of_error judged] at searched
      cases searched
    | ok hit =>
      cases hit with
      | true =>
        rw [tryAny_of_hit judged] at searched
        exact (Except.ok.inj searched).symm
      | false =>
        rw [tryAny_of_miss judged] at searched
        cases List.mem_cons.mp member with
        | inl same => exact absurd judged (same ▸ noted)
        | inr later => exact ih searched later

/-- A search returns exactly when every item that fails comes after a hit. -/
theorem tryAny_ok_iff : (∃ found, tryAny judge items = .ok found) ↔
    ∀ before item after error, items = before ++ item :: after → judge item = .error error →
      ∃ earlier ∈ before, judge earlier = .ok true := by
  induction items with
  | nil =>
    refine iff_of_true ⟨false, rfl⟩ ?_
    intro before item after error split
    exact absurd split (by simp)
  | cons first rest ih =>
    cases judged : judge first with
    | error error =>
      rw [tryAny_of_error judged]
      refine iff_of_false (by rintro ⟨found, searched⟩; cases searched) ?_
      intro every
      obtain ⟨earlier, member, -⟩ := every [] first rest error rfl judged
      cases member
    | ok hit =>
      cases hit with
      | true =>
        rw [tryAny_of_hit judged]
        refine iff_of_true ⟨true, rfl⟩ ?_
        intro before item after error split failed
        cases before with
        | nil =>
          obtain ⟨rfl, -⟩ := List.cons.inj split
          rw [judged] at failed
          cases failed
        | cons head before =>
          obtain ⟨rfl, -⟩ := List.cons.inj split
          exact ⟨first, List.mem_cons_self, judged⟩
      | false =>
        rw [tryAny_of_miss judged, ih]
        constructor
        · intro every before item after error split failed
          cases before with
          | nil =>
            obtain ⟨rfl, -⟩ := List.cons.inj split
            rw [judged] at failed
            cases failed
          | cons head before =>
            obtain ⟨rfl, sameRest⟩ := List.cons.inj split
            obtain ⟨earlier, member, hit⟩ := every before item after error sameRest failed
            exact ⟨earlier, List.mem_cons_of_mem _ member, hit⟩
        · intro every before item after error split failed
          obtain ⟨earlier, member, hit⟩ :=
            every (first :: before) item after error (by rw [split]; rfl) failed
          cases List.mem_cons.mp member with
          | inl same =>
            rw [same, judged] at hit
            cases hit
          | inr later => exact ⟨earlier, later, hit⟩

/-- A map fails with the error of the first item that fails. -/
theorem tryMap_error_iff {apply : Item → Except Error Image} {error : Error} :
    tryMap apply items = .error error ↔
      ∃ before item after, items = before ++ item :: after ∧
        (∀ earlier ∈ before, ∃ image, apply earlier = .ok image) ∧ apply item = .error error := by
  induction items with
  | nil => simp [tryMap]
  | cons first rest ih =>
    cases applied : apply first with
    | error other =>
      have failed : tryMap apply (first :: rest) = .error other := by
        rw [tryMap, applied]
        rfl
      rw [failed]
      constructor
      · intro same
        obtain rfl := Except.error.inj same
        exact ⟨[], first, rest, rfl, by simp, applied⟩
      · rintro ⟨before, item, after, split, earlier, failedItem⟩
        cases before with
        | nil =>
          obtain ⟨rfl, -⟩ := List.cons.inj split
          exact congrArg _ (Except.error.inj (applied.symm.trans failedItem))
        | cons head before =>
          obtain ⟨rfl, -⟩ := List.cons.inj split
          obtain ⟨image, read⟩ := earlier first List.mem_cons_self
          rw [applied] at read
          cases read
    | ok image =>
      have failed_iff : tryMap apply (first :: rest) = .error error ↔
          tryMap apply rest = .error error := by
        cases mapped : tryMap apply rest with
        | error other =>
          have failed : tryMap apply (first :: rest) = .error other := by
            rw [tryMap, applied, mapped]
            rfl
          rw [failed]
        | ok images =>
          have read : tryMap apply (first :: rest) = .ok (image :: images) := by
            rw [tryMap, applied, mapped]
            rfl
          rw [read]
          simp
      rw [failed_iff, ih]
      constructor
      · rintro ⟨before, item, after, rfl, earlier, failedItem⟩
        exact ⟨first :: before, item, after, rfl,
          List.forall_mem_cons.mpr ⟨⟨image, applied⟩, earlier⟩, failedItem⟩
      · rintro ⟨before, item, after, split, earlier, failedItem⟩
        cases before with
        | nil =>
          obtain ⟨rfl, -⟩ := List.cons.inj split
          rw [applied] at failedItem
          cases failedItem
        | cons head before =>
          obtain ⟨rfl, sameRest⟩ := List.cons.inj split
          exact ⟨before, item, after, sameRest, (List.forall_mem_cons.mp earlier).2,
            failedItem⟩

end Search

end FxToushi.Data
