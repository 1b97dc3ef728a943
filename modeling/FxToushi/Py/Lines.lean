import FxToushi.Py.Text

namespace FxToushi.Py

/-! # Lines of a text

`str.splitlines` breaks a text at more characters than the line feed that ends
a record.
-/

def isLineBreak (char : Char) : Bool :=
  ['\n', '\u000b', '\u000c', '\r', '\u001c', '\u001d', '\u001e', '\u0085', '\u2028',
    '\u2029'].contains char

def prependChar (char : Char) : List (List Char) → List (List Char)
  | [] => [[char]]
  | line :: rest => (char :: line) :: rest

/-- `text.splitlines()`. -/
def splitlines : List Char → List (List Char)
  | [] => []
  | '\r' :: '\n' :: rest => [] :: splitlines rest
  | char :: rest =>
    if isLineBreak char then [] :: splitlines rest else prependChar char (splitlines rest)

def Unbroken (line : List Char) : Prop := ∀ char ∈ line, isLineBreak char = false

/-- What follows a line: a line break, or nothing where the line is not empty. -/
def Ended (line after : List Char) : Prop :=
  (line = [] → after ≠ []) ∧ ∀ char ∈ after.head?, isLineBreak char = true

variable {text line rest : List Char} {more : List (List Char)} {char : Char}

theorem splitlines_pair (rest : List Char) :
    splitlines ('\r' :: '\n' :: rest) = [] :: splitlines rest := rfl

theorem splitlines_cons (notPair : ∀ rest', char = '\r' → rest = '\n' :: rest' → False) :
    splitlines (char :: rest) =
      if isLineBreak char then [] :: splitlines rest else prependChar char (splitlines rest) := by
  rw [splitlines]
  intro later same after
  exact notPair later same after

theorem splitlines_break (breaks : isLineBreak char = true) (notReturn : char ≠ '\r')
    (rest : List Char) : splitlines (char :: rest) = [] :: splitlines rest := by
  rw [splitlines_cons (fun _ absurdity => absurd absurdity notReturn), if_pos breaks]

theorem splitlines_other (other : isLineBreak char = false) (rest : List Char) :
    splitlines (char :: rest) = prependChar char (splitlines rest) := by
  rw [splitlines_cons, if_neg (by simp [other])]
  rintro _ rfl
  cases other

theorem prependChar_ne_nil (char : Char) (lines : List (List Char)) :
    prependChar char lines ≠ [] := by
  cases lines with
  | nil => exact List.cons_ne_nil _ _
  | cons line more => exact List.cons_ne_nil _ _

theorem splitlines_eq_nil (none : splitlines text = []) : text = [] := by
  induction text using splitlines.induct with
  | case1 => rfl
  | case2 rest => cases none
  | case3 char rest notPair breaks =>
    rw [splitlines_cons notPair, if_pos breaks] at none
    cases none
  | case4 char rest notPair other =>
    rw [splitlines_cons notPair, if_neg other] at none
    exact absurd none (prependChar_ne_nil char _)

/-- The first line opens the text. -/
theorem splitlines_head (lines : splitlines text = line :: more) :
    ∃ after, text = line ++ after ∧ Unbroken line ∧ Ended line after := by
  induction text using splitlines.induct generalizing line more with
  | case1 => cases lines
  | case2 rest ih =>
    cases lines
    exact ⟨_, rfl, by simp [Unbroken], by simp, by simp [isLineBreak]⟩
  | case3 char rest notPair breaks ih =>
    rw [splitlines_cons notPair, if_pos breaks] at lines
    cases lines
    exact ⟨_, rfl, by simp [Unbroken], by simp, by simp [breaks]⟩
  | case4 char rest notPair other ih =>
    rw [splitlines_cons notPair, if_neg other] at lines
    rw [Bool.not_eq_true] at other
    cases found : splitlines rest with
    | nil =>
      rw [found] at lines
      cases lines
      obtain rfl := splitlines_eq_nil found
      exact ⟨[], rfl, by simpa [Unbroken] using other, by simp, by simp⟩
    | cons first others =>
      rw [found] at lines
      cases lines
      obtain ⟨after, rfl, unbroken, ended⟩ := ih found
      exact ⟨after, rfl, List.forall_mem_cons.mpr ⟨other, unbroken⟩, by simp, ended.2⟩

/-- The line stands after a line break. -/
def Follows (text line : List Char) : Prop :=
  ∃ before breaker after, text = before ++ breaker :: (line ++ after) ∧
    isLineBreak breaker = true ∧ Unbroken line ∧ Ended line after

theorem Follows.cons (follows : Follows rest line) (char : Char) : Follows (char :: rest) line := by
  obtain ⟨before, breaker, after, rfl, breaks, unbroken, ended⟩ := follows
  exact ⟨char :: before, breaker, after, rfl, breaks, unbroken, ended⟩

theorem follows_of_mem (breaks : isLineBreak char = true)
    (later : line ∈ (splitlines rest).tail → Follows rest line)
    (member : line ∈ splitlines rest) : Follows (char :: rest) line := by
  cases lines : splitlines rest with
  | nil => rw [lines] at member; cases member
  | cons first more =>
    rw [lines] at member later
    cases List.mem_cons.mp member with
    | inl same =>
      subst same
      obtain ⟨after, rfl, unbroken, ended⟩ := splitlines_head lines
      exact ⟨[], char, after, rfl, breaks, unbroken, ended⟩
    | inr inMore => exact (later inMore).cons char

theorem splitlines_tail (member : line ∈ (splitlines text).tail) : Follows text line := by
  induction text using splitlines.induct with
  | case1 => cases member
  | case2 rest ih => exact (follows_of_mem rfl ih member).cons '\r'
  | case3 char rest notPair breaks ih =>
    rw [splitlines_cons notPair, if_pos breaks] at member
    exact follows_of_mem breaks ih member
  | case4 char rest notPair other ih =>
    rw [splitlines_cons notPair, if_neg other] at member
    cases lines : splitlines rest with
    | nil => rw [lines] at member; cases member
    | cons first more =>
      rw [lines] at member ih
      exact (ih member).cons char

/-! ## Records that end in a line feed -/

theorem splitlines_ne_nil_of_feed (record rest : List Char) :
    splitlines (record ++ '\n' :: rest) ≠ [] := by
  intro none
  have empty := splitlines_eq_nil none
  simp at empty

theorem prependChar_append {lines : List (List Char)} (some_line : lines ≠ []) (char : Char)
    (more : List (List Char)) :
    prependChar char (lines ++ more) = prependChar char lines ++ more := by
  cases lines with
  | nil => exact absurd rfl some_line
  | cons line lines => rfl

theorem notPair_append (notPair : ∀ rest', char = '\r' → rest = '\n' :: rest' → False)
    (followed : char = '\r' → rest ≠ []) (after : List Char) :
    ∀ rest', char = '\r' → rest ++ after = '\n' :: rest' → False := by
  intro rest' same pair
  cases rest with
  | nil => exact followed same rfl
  | cons next rest =>
    obtain ⟨here, -⟩ := List.cons.inj pair
    exact notPair rest same (by rw [here])

/-- The lines of a record that was ended are those of the record alone. -/
theorem splitlines_record (record after : List Char) :
    splitlines (record ++ '\n' :: after) = splitlines (record ++ ['\n']) ++ splitlines after := by
  induction record using splitlines.induct with
  | case1 =>
    rw [List.nil_append, List.nil_append, splitlines_break rfl (by decide),
      splitlines_break rfl (by decide)]
    rfl
  | case2 rest ih =>
    rw [List.cons_append, List.cons_append, List.cons_append, List.cons_append, splitlines_pair,
      splitlines_pair, ih, List.cons_append]
  | case3 char rest notPair breaks ih =>
    by_cases last : char = '\r' ∧ rest = []
    · obtain ⟨rfl, rfl⟩ := last
      exact splitlines_pair after
    · have unpaired := notPair_append notPair (fun same empty => last ⟨same, empty⟩)
      rw [List.cons_append, List.cons_append, splitlines_cons (unpaired ('\n' :: after)),
        splitlines_cons (unpaired ['\n']), if_pos breaks, if_pos breaks, ih]
      rfl
  | case4 char rest notPair other ih =>
    rw [Bool.not_eq_true] at other
    rw [List.cons_append, List.cons_append, splitlines_other other, splitlines_other other, ih,
      prependChar_append (splitlines_ne_nil_of_feed rest [])]

theorem splitlines_unbroken {record : List Char} (unbroken : Unbroken record) :
    splitlines (record ++ ['\n']) = [record] := by
  induction record with
  | nil => rfl
  | cons char record ih =>
    obtain ⟨other, later⟩ := List.forall_mem_cons.mp unbroken
    rw [List.cons_append, splitlines_other other, ih later]
    rfl

/-! ## A text that grows -/

/-- What is written after a text leaves its lines but the last as they are. -/
theorem dropLast_splitlines_prefix (text after : List Char) :
    (splitlines text).dropLast <+: splitlines (text ++ after) := by
  induction text using splitlines.induct with
  | case1 => exact List.nil_prefix
  | case2 rest ih =>
    rw [List.cons_append, List.cons_append, splitlines_pair, splitlines_pair]
    cases lines : splitlines rest with
    | nil => exact List.nil_prefix
    | cons line more =>
      rw [lines] at ih
      exact List.cons_prefix_cons.mpr ⟨rfl, ih⟩
  | case3 char rest notPair breaks ih =>
    rw [splitlines_cons notPair, if_pos breaks]
    cases lines : splitlines rest with
    | nil => exact List.nil_prefix
    | cons line more =>
      have followed : rest ≠ [] := by
        intro empty
        rw [empty] at lines
        cases lines
      rw [lines] at ih
      rw [List.cons_append, splitlines_cons (notPair_append notPair (fun _ => followed) after),
        if_pos breaks]
      exact List.cons_prefix_cons.mpr ⟨rfl, ih⟩
  | case4 char rest notPair other ih =>
    rw [Bool.not_eq_true] at other
    rw [splitlines_other other, List.cons_append, splitlines_other other]
    cases lines : splitlines rest with
    | nil => exact List.nil_prefix
    | cons line more =>
      cases more with
      | nil => exact List.nil_prefix
      | cons second more =>
        rw [lines] at ih
        obtain ⟨later, same⟩ := ih
        rw [← same]
        exact ⟨later, rfl⟩

/-- The text ends with the end of a line. -/
def EndsLine (text : List Char) : Prop := ∃ record, text = record ++ ['\n']

/-- A line stays in its place when the text grows, unless it is the last and
not ended. -/
theorem getElem?_splitlines_append {index : Nat} (within : index < (splitlines text).length)
    (settled : index + 1 = (splitlines text).length → EndsLine text) (after : List Char) :
    (splitlines (text ++ after))[index]? = (splitlines text)[index]? := by
  by_cases last : index + 1 = (splitlines text).length
  · obtain ⟨record, rfl⟩ := settled last
    rw [List.append_assoc, List.singleton_append, splitlines_record,
      List.getElem?_append_left within]
  · obtain ⟨later, same⟩ := dropLast_splitlines_prefix text after
    have early : index < (splitlines text).dropLast.length := by
      rw [List.length_dropLast]
      omega
    rw [← same, List.getElem?_append_left early, List.getElem?_dropLast, if_pos]
    rwa [List.length_dropLast] at early

end FxToushi.Py
