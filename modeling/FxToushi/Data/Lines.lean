import Mathlib.Data.List.Basic

namespace FxToushi.Data

/-! # Lines of a byte string

A byte string is read line by line; a line ends in a line feed, a carriage
return or both.  A writer that ends every record with a line feed and is
interrupted leaves a tail without one.
-/

def lineFeed : UInt8 := 10

def carriageReturn : UInt8 := 13

def prepend (byte : UInt8) : List (List UInt8) → List (List UInt8)
  | [] => [[byte]]
  | line :: rest => (byte :: line) :: rest

/-- `bytes.splitlines()`. -/
def splitLines : List UInt8 → List (List UInt8)
  | [] => []
  | 13 :: 10 :: rest => [] :: splitLines rest
  | byte :: rest =>
    if byte = lineFeed ∨ byte = carriageReturn then [] :: splitLines rest
    else prepend byte (splitLines rest)

/-- Neither a line feed nor a carriage return. -/
def Plain (line : List UInt8) : Prop := lineFeed ∉ line ∧ carriageReturn ∉ line

/-- Every record is ended by a line feed. -/
def frame (records : List (List UInt8)) : List UInt8 :=
  records.flatMap (fun record => record ++ [lineFeed])

variable {line rest tail : List UInt8} {records : List (List UInt8)}

theorem Plain.of_cons {byte : UInt8} (plain : Plain (byte :: line)) :
    byte ≠ lineFeed ∧ byte ≠ carriageReturn ∧ Plain line :=
  ⟨fun same => plain.1 (same ▸ List.mem_cons_self),
    fun same => plain.2 (same ▸ List.mem_cons_self),
    fun member => plain.1 (List.mem_cons_of_mem _ member),
    fun member => plain.2 (List.mem_cons_of_mem _ member)⟩

theorem Plain.append (first : Plain line) (second : Plain rest) : Plain (line ++ rest) :=
  ⟨fun member => (List.mem_append.mp member).elim first.1 second.1,
    fun member => (List.mem_append.mp member).elim first.2 second.2⟩

theorem Plain.of_front (plain : Plain line) (start : rest <+: line) : Plain rest :=
  ⟨fun member => plain.1 (start.mem member), fun member => plain.2 (start.mem member)⟩

theorem splitLines_lineFeed (rest : List UInt8) :
    splitLines (lineFeed :: rest) = [] :: splitLines rest := by
  rw [lineFeed, splitLines, if_pos (.inl rfl)]
  exact fun _ absurdity => absurd absurdity (by decide)

theorem splitLines_plain {byte : UInt8} (notFeed : byte ≠ lineFeed)
    (notReturn : byte ≠ carriageReturn) (rest : List UInt8) :
    splitLines (byte :: rest) = prepend byte (splitLines rest) := by
  rw [splitLines, if_neg (fun either => either.elim notFeed notReturn)]
  exact fun _ absurdity => absurd absurdity notReturn

theorem splitLines_line (plain : Plain line) (rest : List UInt8) :
    splitLines (line ++ lineFeed :: rest) = line :: splitLines rest := by
  induction line with
  | nil => exact splitLines_lineFeed rest
  | cons byte line ih =>
    obtain ⟨notFeed, notReturn, later⟩ := plain.of_cons
    rw [List.cons_append, splitLines_plain notFeed notReturn, ih later]
    rfl

theorem splitLines_last (plain : Plain line) (nonempty : line ≠ []) : splitLines line = [line] := by
  induction line with
  | nil => exact absurd rfl nonempty
  | cons byte line ih =>
    obtain ⟨notFeed, notReturn, later⟩ := plain.of_cons
    rw [splitLines_plain notFeed notReturn]
    cases line with
    | nil => rfl
    | cons next line =>
      rw [ih later (List.cons_ne_nil next line)]
      rfl

theorem splitLines_frame (plain : ∀ record ∈ records, Plain record) (tailPlain : Plain tail) :
    splitLines (frame records ++ tail) = records ++ if tail = [] then [] else [tail] := by
  induction records with
  | nil =>
    by_cases empty : tail = []
    · simp [frame, empty, splitLines]
    · simpa [frame, empty] using splitLines_last tailPlain empty
  | cons record rest ih =>
    have later := ih (fun other member => plain other (List.mem_cons_of_mem _ member))
    have split : frame (record :: rest) ++ tail = record ++ lineFeed :: (frame rest ++ tail) := by
      simp [frame]
    rw [split, splitLines_line (plain record List.mem_cons_self), later, List.cons_append]

theorem frame_append (left right : List (List UInt8)) :
    frame (left ++ right) = frame left ++ frame right := List.flatMap_append

theorem frame_ended (records : List (List UInt8)) :
    frame records = [] ∨ (frame records).getLast? = some lineFeed := by
  rcases List.eq_nil_or_concat records with rfl | ⟨front, record, rfl⟩
  · exact .inl rfl
  · refine .inr ?_
    rw [List.concat_eq_append, frame_append]
    simp [frame]

theorem tail_eq_nil (tailPlain : Plain tail)
    (clean : (frame records ++ tail) = [] ∨ (frame records ++ tail).getLast? = some lineFeed) :
    tail = [] := by
  rcases clean with empty | ended
  · exact (List.append_eq_nil_iff.mp empty).2
  · by_contra nonempty
    rw [List.getLast?_append_of_ne_nil _ nonempty] at ended
    exact tailPlain.1 (List.mem_of_getLast? ended)

end FxToushi.Data
