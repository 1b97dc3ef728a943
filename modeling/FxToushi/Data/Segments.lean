import Mathlib.Algebra.BigOperators.Group.List.Basic
import Mathlib.Tactic.Linarith

namespace FxToushi.Data

/-! # Cutting an interval into segments

An interval is cut from its left end into segments of one length, the last of
which may be shorter.  `Tiles` says that a list of segments fills an interval
without gaps or overlaps.
-/

abbrev Segment := Int × Int

def Segment.length (segment : Segment) : Int := segment.2 - segment.1

def cut (step start stop : Int) : List Segment :=
  if start < stop then
    if min stop (start + step) ≤ start then []
    else (start, min stop (start + step)) :: cut step (min stop (start + step)) stop
  else []
termination_by (stop - start).toNat
decreasing_by omega

def Tiles : Int → Int → List Segment → Prop
  | start, stop, [] => start = stop
  | start, stop, segment :: rest =>
    segment.1 = start ∧ segment.1 < segment.2 ∧ Tiles segment.2 stop rest

variable {step start stop : Int}

theorem cut_of_le (done : stop ≤ start) : cut step start stop = [] := by
  rw [cut, if_neg (by omega)]

theorem cut_zero : cut 0 start stop = [] := by
  rw [cut]
  split
  · exact if_pos (by omega)
  · rfl

theorem cut_last (positive : start < stop) (fits : stop ≤ start + step) :
    cut step start stop = [(start, stop)] := by
  rw [cut, if_pos positive, if_neg (by omega), min_eq_left fits, cut_of_le (le_refl stop)]

theorem cut_next (positive : 0 < step) (more : start + step < stop) :
    cut step start stop = (start, start + step) :: cut step (start + step) stop := by
  rw [cut, if_pos (by omega), if_neg (by omega), min_eq_right (by omega)]

theorem cut_cons (positive : 0 < step) (nonempty : start < stop) :
    cut step start stop = (start, min stop (start + step)) :: cut step (start + step) stop := by
  rcases lt_or_ge (start + step) stop with more | fits
  · rw [cut_next positive more, min_eq_right more.le]
  · rw [cut_last nonempty fits, min_eq_left fits, cut_of_le fits]

theorem cut_induction (holds : Int → Prop) (positive : 0 < step)
    (last : ∀ start, start < stop → stop ≤ start + step → holds start)
    (next : ∀ start, start + step < stop → holds (start + step) → holds start)
    (nonempty : start < stop) : holds start := by
  induction length : (stop - start).toNat using Nat.strong_induction_on generalizing start with
  | _ length ih =>
    by_cases fits : stop ≤ start + step
    · exact last start nonempty fits
    · have more : start + step < stop := by omega
      exact next start more (ih _ (by omega) more rfl)

theorem tiles_cut (positive : 0 < step) (nonempty : start < stop) :
    Tiles start stop (cut step start stop) := by
  refine cut_induction (fun start => Tiles start stop (cut step start stop))
    positive ?_ ?_ nonempty
  · intro start left fits
    rw [cut_last left fits]
    exact ⟨rfl, left, rfl⟩
  · intro start more tiles
    rw [cut_next positive more]
    exact ⟨rfl, show start < start + step by omega, tiles⟩

/-- A property of lengths holds of all segments when it holds of a full step
and of what the steps leave. -/
theorem forall_cut_length_iff (good : Int → Prop) (positive : 0 < step) (nonempty : start < stop) :
    (∀ segment ∈ cut step start stop, good segment.length) ↔
      (step ≤ stop - start → good step) ∧
        ((stop - start) % step ≠ 0 → good ((stop - start) % step)) := by
  refine cut_induction (fun start =>
    (∀ segment ∈ cut step start stop, good segment.length) ↔
      (step ≤ stop - start → good step) ∧
        ((stop - start) % step ≠ 0 → good ((stop - start) % step))) positive ?_ ?_ nonempty
  · intro start left fits
    rw [cut_last left fits]
    simp only [List.mem_singleton, forall_eq, Segment.length]
    rcases (show stop - start ≤ step by omega).lt_or_eq with short | full
    · rw [Int.emod_eq_of_lt (by omega) short]
      exact ⟨fun single => ⟨by omega, fun _ => single⟩, fun both => both.2 (by omega)⟩
    · rw [full, Int.emod_self]
      exact ⟨fun single => ⟨fun _ => single, fun absurdity => absurd rfl absurdity⟩,
        fun both => both.1 (le_refl step)⟩
  · intro start more later
    rw [cut_next positive more, List.forall_mem_cons, later]
    have rest : stop - (start + step) = stop - start - step := by omega
    have length : Segment.length (start, start + step) = step := by
      simp only [Segment.length]
      omega
    rw [rest, Int.sub_emod_right, length]
    constructor
    · rintro ⟨full, _, remainder⟩
      exact ⟨fun _ => full, remainder⟩
    · rintro ⟨full, remainder⟩
      have first := full (by omega)
      exact ⟨first, fun _ => first, remainder⟩

theorem cut_length_le_one_iff (positive : 0 < step) (nonempty : start < stop) :
    (cut step start stop).length ≤ 1 ↔ stop - start ≤ step := by
  by_cases fits : stop ≤ start + step
  · rw [cut_last nonempty fits, List.length_singleton]
    omega
  · have more : start + step < stop := by omega
    have later := tiles_cut positive more
    rw [cut_next positive more, List.length_cons]
    cases rest : cut step (start + step) stop with
    | nil => rw [rest, Tiles] at later; omega
    | cons segment others => rw [List.length_cons]; omega

theorem cut_ne_nil (positive : 0 < step) (nonempty : start < stop) :
    cut step start stop ≠ [] := by
  intro empty
  have tiles := tiles_cut positive nonempty
  rw [empty, Tiles] at tiles
  omega

theorem sum_cut_units {unit : Int} (whole : unit ∣ step) (positive : 0 < step)
    (nonempty : start < stop) :
    ((cut step start stop).map (fun segment => segment.length / unit)).sum =
      (stop - start) / unit := by
  refine cut_induction (fun start =>
    ((cut step start stop).map (fun segment => segment.length / unit)).sum =
      (stop - start) / unit) positive ?_ ?_ nonempty
  · intro start left fits
    rw [cut_last left fits]
    simp [Segment.length]
  · intro start more later
    rw [cut_next positive more, List.map_cons, List.sum_cons, later]
    have length : Segment.length (start, start + step) = step := by
      simp only [Segment.length]
      omega
    have rest : stop - start = step + (stop - (start + step)) := by omega
    rw [length, rest, Int.add_ediv_of_dvd_left whole]

/-! ## Reading a tiling -/

theorem Tiles.head {segments : List Segment} (tiles : Tiles start stop segments)
    (nonempty : segments ≠ []) : segments.head?.map Prod.fst = some start := by
  cases segments with
  | nil => exact absurd rfl nonempty
  | cons segment rest => exact congrArg some tiles.1

theorem Tiles.last {segments : List Segment} (tiles : Tiles start stop segments)
    (nonempty : segments ≠ []) : segments.getLast?.map Prod.snd = some stop := by
  induction segments generalizing start with
  | nil => exact absurd rfl nonempty
  | cons segment rest ih =>
    cases rest with
    | nil => exact congrArg some tiles.2.2
    | cons second rest =>
      rw [List.getLast?_cons_cons]
      exact ih tiles.2.2 (List.cons_ne_nil second rest)

theorem Tiles.contiguous {segments : List Segment} (tiles : Tiles start stop segments) :
    segments.IsChain (fun left right => left.2 = right.1) := by
  induction segments generalizing start with
  | nil => exact .nil
  | cons segment rest ih =>
    cases rest with
    | nil => exact .singleton segment
    | cons second rest => exact .cons_cons tiles.2.2.1.symm (ih tiles.2.2)

theorem Tiles.le {segments : List Segment} (tiles : Tiles start stop segments) :
    start ≤ stop := by
  induction segments generalizing start with
  | nil => exact tiles.le
  | cons segment rest ih =>
    obtain ⟨rfl, positive, later⟩ := tiles
    exact positive.le.trans (ih later)

theorem Tiles.covers {segments : List Segment} (tiles : Tiles start stop segments) (point : Int) :
    (∃ segment ∈ segments, segment.1 ≤ point ∧ point < segment.2) ↔
      start ≤ point ∧ point < stop := by
  induction segments generalizing start with
  | nil =>
    have same : start = stop := tiles
    simp only [List.not_mem_nil, false_and, exists_false, false_iff]
    omega
  | cons segment rest ih =>
    obtain ⟨rfl, positive, later⟩ := tiles
    have beyond := later.le
    simp only [List.mem_cons, exists_eq_or_imp, ih later]
    omega

theorem Tiles.start_le {segments : List Segment} (tiles : Tiles start stop segments) :
    ∀ segment ∈ segments, start ≤ segment.1 := by
  induction segments generalizing start with
  | nil => exact fun _ member => nomatch member
  | cons segment rest ih =>
    obtain ⟨rfl, positive, later⟩ := tiles
    exact List.forall_mem_cons.mpr
      ⟨le_rfl, fun other member => positive.le.trans (ih later other member)⟩

theorem Tiles.positive {segments : List Segment} (tiles : Tiles start stop segments) :
    ∀ segment ∈ segments, segment.1 < segment.2 := by
  induction segments generalizing start with
  | nil => exact fun _ member => nomatch member
  | cons segment rest ih => exact List.forall_mem_cons.mpr ⟨tiles.2.1, ih tiles.2.2⟩

theorem Tiles.disjoint {segments : List Segment} (tiles : Tiles start stop segments) :
    segments.Pairwise (fun left right => left.2 ≤ right.1) := by
  induction segments generalizing start with
  | nil => exact .nil
  | cons segment rest ih => exact .cons tiles.2.2.start_le (ih tiles.2.2)

end FxToushi.Data
