import Mathlib.Data.List.DropRight

namespace FxToushi.Py

/-! # Python text values

Optional strings, their truth value and the `or` chains the sources build from
them, together with the string methods used to normalise configuration text.
-/

/-- Lower case of one character.  ASCII letters, the Kelvin sign and the dotted
capital I are the characters whose lower case contains an ASCII letter; the
texts below are only compared with ASCII words, so every other character is
left as it is. -/
def lowerChar (char : Char) : List Char :=
  if char = '\u212a' then ['k']
  else if char = '\u0130' then ['i', '\u0307']
  else [char.toLower]

def lower (text : String) : String :=
  String.ofList (text.toList.flatMap lowerChar)

/-- Upper case of one character, with the two non-ASCII letters whose upper
case is an ASCII letter. -/
def upperChar (char : Char) : Char :=
  if char = '\u0131' then 'I'
  else if char = '\u017f' then 'S'
  else char.toUpper

def upper (text : String) : String :=
  String.ofList (text.toList.map upperChar)

def isSpace (char : Char) : Bool :=
  let code := char.toNat
  (9 ≤ code && code ≤ 13) || (28 ≤ code && code ≤ 32) || code == 0x85 || code == 0xa0 ||
    code == 0x1680 || (0x2000 ≤ code && code ≤ 0x200a) || code == 0x2028 || code == 0x2029 ||
    code == 0x202f || code == 0x205f || code == 0x3000

def strip (text : String) : String :=
  String.ofList ((text.toList.dropWhile isSpace).reverse.dropWhile isSpace).reverse

def startsWith (text lead : String) : Bool := lead.toList.isPrefixOf text.toList

/-- The characters of `text.replace(old, new)`, where `old` is not empty; so many of
them are still part of a match. -/
def replaceFrom (old new : List Char) : Nat → List Char → List Char
  | _, [] => []
  | skipped + 1, _ :: rest => replaceFrom old new skipped rest
  | 0, char :: rest =>
    if old.isPrefixOf (char :: rest) then new ++ replaceFrom old new (old.length - 1) rest
    else char :: replaceFrom old new 0 rest

def replaceText (old new text : String) : String :=
  String.ofList (replaceFrom old.toList new.toList 0 text.toList)

/-- `directory / name`, of paths as texts. -/
def joinPath (directory name : String) : String :=
  if name = "" then directory
  else if startsWith name "/" then name else directory ++ "/" ++ name

/-- `text.split(separator, 1)`, where the separator occurs. -/
def splitOnce (separator : Char) (text : String) : Option (String × String) :=
  match text.toList.dropWhile (fun char => char != separator) with
  | [] => none
  | _ :: right =>
    some (String.ofList (text.toList.takeWhile (fun char => char != separator)),
      String.ofList right)

/-- The truth value of an optional string: neither `None` nor empty. -/
def truthy : Option String → Bool
  | none => false
  | some text => text != ""

def orElse (left right : Option String) : Option String :=
  if truthy left then left else right

def orText (value : Option String) (default : String) : String :=
  match value with
  | none => default
  | some text => if text != "" then text else default

@[simp] theorem truthy_none : truthy none = false := rfl

@[simp] theorem truthy_some (text : String) : truthy (some text) = (text != "") := rfl

@[simp] theorem orElse_none (right : Option String) : orElse none right = right := rfl

@[simp] theorem orText_none (default : String) : orText none default = default := rfl

theorem orElse_assoc (first second third : Option String) :
    orElse (orElse first second) third = orElse first (orElse second third) := by
  unfold orElse
  split_ifs <;> simp_all

def firstPresent (sources : List (Option String)) : Option String :=
  sources.foldr orElse none

/-- The first present source of an `or` chain is one of `words`. -/
def leads (words : List String) : List (Option String) → Bool
  | [] => false
  | source :: rest =>
    if truthy source then words.any (fun word => source == some word) else leads words rest

/-- An `or` chain with a closing default yields one of `words` exactly when
one of them leads the chain. -/
theorem orText_firstPresent_mem_iff {words : List String} {default : String}
    (other : default ∉ words) (sources : List (Option String)) :
    orText (firstPresent sources) default ∈ words ↔ leads words sources = true := by
  induction sources with
  | nil => simpa [firstPresent, leads] using other
  | cons source rest ih =>
    cases present : truthy source with
    | false =>
      have skipped : firstPresent (source :: rest) = firstPresent rest := by
        simp [firstPresent, orElse, present]
      rw [skipped, ih, leads, present]
      simp
    | true =>
      cases source with
      | none => simp at present
      | some text =>
        have first : firstPresent (some text :: rest) = some text := by
          simp [firstPresent, orElse, present]
        have kept : orText (some text) default = text := if_pos present
        rw [first, kept, leads, present]
        simp

theorem orText_orElse_none (source : Option String) (default : String) :
    orText (orElse source none) default = orText source default := by
  cases source with
  | none => rfl
  | some text => by_cases empty : text = "" <;> simp [orElse, orText, empty]

/-! ## Texts that are normalised already -/

theorem toNat_toLower (char : Char) :
    char.toLower.toNat =
      if 65 ≤ char.toNat ∧ char.toNat ≤ 90 then char.toNat + 32 else char.toNat := by
  unfold Char.toLower
  split <;> rename_i ascii <;>
    simp only [ge_iff_le, UInt32.le_iff_toNat_le, Char.reduceVal, UInt32.reduceToNat,
      Char.toNat_val] at ascii
  · rw [if_pos ascii]
    simp only [Char.toNat, UInt32.toNat_add, UInt32.reduceToNat, Char.reduceVal, UInt32.reduceSub]
    have := ascii.2
    simp only [Char.toNat] at this
    omega
  · rw [if_neg ascii]

theorem toLower_toLower (char : Char) : char.toLower.toLower = char.toLower := by
  have same : char.toLower.toLower.toNat = char.toLower.toNat := by
    simp only [toNat_toLower]
    split_ifs <;> omega
  exact Char.toNat_inj.mp same

theorem isSpace_toLower (char : Char) : isSpace char.toLower = isSpace char := by
  by_cases ascii : 65 ≤ char.toNat ∧ char.toNat ≤ 90
  · have code := toNat_toLower char
    rw [if_pos ascii] at code
    have spaceless : isSpace char = false := by
      simp [isSpace]
      omega
    have lowered : isSpace char.toLower = false := by
      simp [isSpace, code]
      omega
    rw [spaceless, lowered]
  · have same : char.toLower = char := by
      have code := toNat_toLower char
      rw [if_neg ascii] at code
      exact Char.toNat_inj.mp code
    rw [same]

/-- Lower-casing again changes nothing. -/
theorem lowerChar_lowerChar (char : Char) :
    (lowerChar char).flatMap lowerChar = lowerChar char := by
  by_cases kelvin : char = '\u212a'
  · subst kelvin
    decide
  by_cases dotted : char = '\u0130'
  · subst dotted
    decide
  have plain : lowerChar char = [char.toLower] := by
    rw [lowerChar, if_neg kelvin, if_neg dotted]
  have unchanged (other : Char) (ascii : 122 < other.toNat) (same : char.toLower = other) :
      char = other := by
    have code := toNat_toLower char
    rw [same] at code
    apply Char.toNat_inj.mp
    split_ifs at code <;> omega
  have not_kelvin : char.toLower ≠ '\u212a' := fun same => kelvin (unchanged _ (by decide) same)
  have not_dotted : char.toLower ≠ '\u0130' := fun same => dotted (unchanged _ (by decide) same)
  rw [plain, List.flatMap_singleton, lowerChar, if_neg not_kelvin, if_neg not_dotted,
    toLower_toLower]

theorem lower_lower (text : String) : lower (lower text) = lower text := by
  unfold lower
  rw [String.toList_ofList, List.flatMap_assoc]
  simp only [lowerChar_lowerChar]

/-- Neither end is white space. -/
structure Trimmed (chars : List Char) : Prop where
  left : ∀ char ∈ chars.head?, isSpace char = false
  right : ∀ char ∈ chars.getLast?, isSpace char = false

theorem strip_toList (text : String) :
    (strip text).toList = (text.toList.dropWhile isSpace).rdropWhile isSpace := by
  rw [strip, String.toList_ofList]
  rfl

theorem trimmed_strip (text : String) : Trimmed (strip text).toList := by
  rw [strip_toList]
  have left : ∀ char ∈ (text.toList.dropWhile isSpace).head?, isSpace char = false := by
    intro char first
    have kept := List.head?_dropWhile_not isSpace text.toList
    simpa [Option.mem_def.mp first] using kept
  generalize text.toList.dropWhile isSpace = chars at left
  refine ⟨fun char first => ?_, fun char last => ?_⟩
  · obtain ⟨dropped, whole⟩ := List.rdropWhile_prefix isSpace (l := chars)
    refine left char ?_
    rw [← whole, List.head?_append, Option.mem_def.mp first]
    rfl
  · have nonempty : chars.rdropWhile isSpace ≠ [] := by
      intro empty
      simp [empty] at last
    rw [List.getLast?_eq_some_getLast nonempty, Option.mem_some_iff] at last
    rw [← last]
    simpa using List.rdropWhile_last_not isSpace chars nonempty

theorem strip_eq_of_trimmed {text : String} (trimmed : Trimmed text.toList) :
    strip text = text := by
  rw [← String.toList_inj, strip_toList]
  have left : text.toList.dropWhile isSpace = text.toList := by
    cases chars : text.toList with
    | nil => rfl
    | cons char rest =>
      have first := trimmed.left char (by rw [chars]; rfl)
      simp [first]
  rw [left, List.rdropWhile_eq_self_iff]
  intro nonempty
  have last := trimmed.right _ (List.getLast?_eq_some_getLast nonempty)
  simp [last]

theorem trimmed_lowerChar {char : Char} (plain : isSpace char = false) :
    lowerChar char ≠ [] ∧ Trimmed (lowerChar char) := by
  unfold lowerChar
  split
  · exact ⟨by simp, ⟨by simp [isSpace], by simp [isSpace]⟩⟩
  · split
    · exact ⟨by simp, ⟨by simp [isSpace], by simp [isSpace]⟩⟩
    · exact ⟨by simp, ⟨by simpa using (isSpace_toLower char).trans plain,
        by simpa using (isSpace_toLower char).trans plain⟩⟩

theorem trimmed_lower {text : String} (trimmed : Trimmed text.toList) :
    Trimmed (lower text).toList := by
  rw [lower, String.toList_ofList]
  refine ⟨fun char first => ?_, fun char last => ?_⟩
  · cases chars : text.toList with
    | nil => simp [chars] at first
    | cons head rest =>
      have plain := trimmed.left head (by rw [chars]; rfl)
      obtain ⟨nonempty, lowered⟩ := trimmed_lowerChar plain
      refine lowered.left char ?_
      rw [chars, List.flatMap_cons, List.head?_append_of_ne_nil _ nonempty] at first
      exact first
  · rcases List.eq_nil_or_concat text.toList with empty | ⟨front, tail, chars⟩
    · simp [empty] at last
    · have plain := trimmed.right tail (by simp [chars])
      obtain ⟨nonempty, lowered⟩ := trimmed_lowerChar plain
      refine lowered.right char ?_
      rw [chars, List.concat_eq_append, List.flatMap_append, List.flatMap_singleton,
        List.getLast?_append_of_ne_nil _ nonempty] at last
      exact last

theorem lower_strip_lower_strip (text : String) :
    lower (strip (lower (strip text))) = lower (strip text) := by
  rw [strip_eq_of_trimmed (trimmed_lower (trimmed_strip text)), lower_lower]

/-! ## Replacing -/

/-- A mark that the characters do not have can be put for a text and taken back. -/
theorem replaceFrom_replaceFrom {old : List Char} (nonempty : old ≠ []) {mark : Char}
    {skipped : Nat} {chars : List Char} (unmarked : mark ∉ chars) :
    replaceFrom [mark] old 0 (replaceFrom old [mark] skipped chars) = chars.drop skipped := by
  induction chars generalizing skipped with
  | nil => simp [replaceFrom]
  | cons first rest ih =>
    obtain ⟨other, later⟩ := List.ne_and_not_mem_of_not_mem_cons unmarked
    cases skipped with
    | succ skipped => rw [replaceFrom, ih later, List.drop_succ_cons]
    | zero =>
      rw [replaceFrom]
      split
      · rename_i found
        obtain ⟨tail, split⟩ := List.isPrefixOf_iff_prefix.mp found
        obtain ⟨head, more, rfl⟩ := List.exists_cons_of_ne_nil nonempty
        obtain ⟨-, rfl⟩ := List.cons.inj split
        have skips := @ih more.length later
        rw [List.append_eq, List.drop_left] at skips
        simp only [List.singleton_append, replaceFrom, List.isPrefixOf, beq_self_eq_true,
          Bool.and_self, if_true, List.length_cons, Nat.add_sub_cancel]
        rw [List.drop_zero, ← split]
        exact congrArg (head :: more ++ ·) skips
      · simp only [replaceFrom, List.isPrefixOf, beq_iff_eq, other, Bool.and_true, if_false,
          ih later, List.drop_zero]

theorem replaceText_replaceText {old mark text : String} {char : Char} (nonempty : old ≠ "")
    (single : mark.toList = [char]) (unmarked : char ∉ text.toList) :
    replaceText mark old (replaceText old mark text) = text := by
  have filled : old.toList ≠ [] := by simpa using nonempty
  rw [replaceText, replaceText, String.toList_ofList, single,
    replaceFrom_replaceFrom filled unmarked, List.drop_zero, String.ofList_toList]

end FxToushi.Py
