import FxToushi.Py.Json
import Mathlib.Data.Bool.AllAny
import Mathlib.Data.List.Nodup
import Mathlib.Tactic.IntervalCases

namespace FxToushi.Py.Json

/-! # Reading a document that was written

`loads` gives back what `dumps` wrote: the lexer finds the tokens of the value,
and the parser puts the value together again.
-/

/-- The text of a float is a number or a constant that reads as the float. -/
structure IsFloat (value : Rat) (text : String) : Prop where
  nonempty : floatText text ≠ []
  bare : ∀ char ∈ floatText text, isBare char = true
  reads : bare? (floatText text) = some (.float value text)

mutual

/-- Floats are printed as they read, and the keys of a mapping are distinct. -/
def WellFormed : Value → Prop
  | .float value text => IsFloat value text
  | .list items => WellFormedItems items
  | .map entries => (entries.map Prod.fst).Nodup ∧ WellFormedEntries entries
  | _ => True

def WellFormedItems : List Value → Prop
  | [] => True
  | item :: rest => WellFormed item ∧ WellFormedItems rest

def WellFormedEntries : List (String × Value) → Prop
  | [] => True
  | (_, value) :: rest => WellFormed value ∧ WellFormedEntries rest

end

theorem wellFormedItems_map {Item : Type*} {encode : Item → Value} {items : List Item}
    (each : ∀ item ∈ items, WellFormed (encode item)) : WellFormedItems (items.map encode) := by
  induction items with
  | nil => trivial
  | cons item rest ih =>
    exact ⟨each item List.mem_cons_self,
      ih fun other member => each other (List.mem_cons_of_mem item member)⟩

def readsAs (found : Option Value) (value : Rat) (text : String) : Bool :=
  match found with
  | some (.float other printed) => decide (other = value ∧ printed = text)
  | _ => false

theorem readsAs_iff {found : Option Value} {value : Rat} {text : String} :
    readsAs found value text = true ↔ found = some (.float value text) := by
  unfold readsAs
  split
  · simp
  · rename_i other
    exact iff_of_false (by decide) (fun same => other value text same)

instance (value : Rat) (text : String) : Decidable (IsFloat value text) :=
  decidable_of_iff (floatText text ≠ [] ∧ (floatText text).all isBare = true ∧
      readsAs (bare? (floatText text)) value text = true)
    ⟨fun checks => ⟨checks.1, List.all_eq_true.mp checks.2.1, readsAs_iff.mp checks.2.2⟩,
      fun isFloat => ⟨isFloat.nonempty, List.all_eq_true.mpr isFloat.bare,
        readsAs_iff.mpr isFloat.reads⟩⟩

mutual

def decideWellFormed : (value : Value) → Decidable (WellFormed value)
  | .float value text => inferInstanceAs (Decidable (IsFloat value text))
  | .list items => decideWellFormedItems items
  | .map entries =>
    have := decideWellFormedEntries entries
    inferInstanceAs (Decidable (_ ∧ _))
  | .null | .bool _ | .int _ | .str _ => .isTrue trivial

def decideWellFormedItems : (items : List Value) → Decidable (WellFormedItems items)
  | [] => .isTrue trivial
  | item :: rest =>
    have := decideWellFormed item
    have := decideWellFormedItems rest
    inferInstanceAs (Decidable (_ ∧ _))

def decideWellFormedEntries : (entries : List (String × Value)) →
    Decidable (WellFormedEntries entries)
  | [] => .isTrue trivial
  | (_, value) :: rest =>
    have := decideWellFormed value
    have := decideWellFormedEntries rest
    inferInstanceAs (Decidable (_ ∧ _))

end

instance (value : Value) : Decidable (WellFormed value) := decideWellFormed value

mutual

def tokensOf : Value → List Token
  | .list items => .mark '[' :: itemTokens items
  | .map entries => .mark '\x7b' :: entryTokens entries
  | value => [.scalar value]

def itemTokens : List Value → List Token
  | [] => [.mark ']']
  | item :: rest => tokensOf item ++ moreItemTokens rest

def moreItemTokens : List Value → List Token
  | [] => [.mark ']']
  | item :: rest => .mark ',' :: (tokensOf item ++ moreItemTokens rest)

def entryTokens : List (String × Value) → List Token
  | [] => [.mark '\x7d']
  | (key, value) :: rest =>
    .scalar (.str key) :: .mark ':' :: (tokensOf value ++ moreEntryTokens rest)

def moreEntryTokens : List (String × Value) → List Token
  | [] => [.mark '\x7d']
  | (key, value) :: rest =>
    .mark ',' :: .scalar (.str key) :: .mark ':' :: (tokensOf value ++ moreEntryTokens rest)

end

/-! ## Lexing one token -/

theorem lexFrom_cons {mode next : Mode} {char : Char} {tokens : List Token}
    (stepped : mode.step char = some (next, tokens)) (rest : List Char) :
    lexFrom mode (char :: rest) = (lexFrom next rest).map (tokens ++ ·) := by
  rw [lexFrom, stepped]
  change (lexFrom next rest).bind (fun later => some (tokens ++ later)) = _
  cases lexFrom next rest <;> rfl

theorem lexFrom_cons_silent {mode next : Mode} {char : Char}
    (stepped : mode.step char = some (next, [])) (rest : List Char) :
    lexFrom mode (char :: rest) = lexFrom next rest := by
  rw [lexFrom_cons stepped]
  cases lexFrom next rest <;> rfl

theorem lexFrom_mark {char : Char} (mark : isMark char = true)
    (visible : isWhitespace char = false) (rest : List Char) :
    lexFrom .outside (char :: rest) = (lexFrom .outside rest).map (.mark char :: ·) := by
  have stepped : Mode.step .outside char = some (.outside, [.mark char]) := by
    simp [Mode.step, stepOutside, mark, visible]
  rw [lexFrom_cons stepped]
  rfl

theorem lexFrom_gap (spaced : Bool) (rest : List Char) :
    lexFrom .outside (gap spaced ++ rest) = lexFrom .outside rest := by
  cases spaced with
  | false => rfl
  | true => exact lexFrom_cons_silent rfl rest

theorem hexValue_hexDigit {value : Nat} (digit : value < 16) :
    hexValue? (hexDigit value) = some value := by
  interval_cases value <;> rfl

theorem lexFrom_hex (seen : List Char) {char : Char} (control : char.toNat < 32)
    (rest : List Char) :
    lexFrom (.string seen) (['\\', 'u', '0', '0', hexDigit (char.toNat / 16),
        hexDigit (char.toNat % 16)] ++ rest) = lexFrom (.string (char :: seen)) rest := by
  have high : hexValue? (hexDigit (char.toNat / 16)) = some (char.toNat / 16) :=
    hexValue_hexDigit (by omega)
  have low : hexValue? (hexDigit (char.toNat % 16)) = some (char.toNat % 16) :=
    hexValue_hexDigit (by omega)
  have sum : char.toNat / 16 * 16 + char.toNat % 16 = char.toNat := by omega
  have third : Mode.step (.hex none seen 2 0) (hexDigit (char.toNat / 16)) =
      some (.hex none seen 3 (char.toNat / 16), []) := by
    simp [Mode.step, high]
  have fourth : Mode.step (.hex none seen 3 (char.toNat / 16)) (hexDigit (char.toNat % 16)) =
      some (.string (char :: seen), []) := by
    have low_code : ¬ 0xd800 ≤ char.toNat := by omega
    have below : ¬ 0xdc00 ≤ char.toNat := by omega
    simp [Mode.step, low, sum, afterHex, low_code, below, Char.ofNat_toNat]
  simp only [List.cons_append, List.nil_append]
  have opened : Mode.step (.string seen) '\\' = some (.escaped seen, []) := rfl
  have unicode : Mode.step (.escaped seen) 'u' = some (.hex none seen 0 0, []) := rfl
  have first : Mode.step (.hex none seen 0 0) '0' = some (.hex none seen 1 0, []) := rfl
  have second : Mode.step (.hex none seen 1 0) '0' = some (.hex none seen 2 0, []) := rfl
  rw [lexFrom_cons_silent opened, lexFrom_cons_silent unicode, lexFrom_cons_silent first,
    lexFrom_cons_silent second, lexFrom_cons_silent third, lexFrom_cons_silent fourth]

/-- Each character of a text is read back from its escape. -/
theorem lexFrom_escape (seen : List Char) (char : Char) (rest : List Char) :
    lexFrom (.string seen) (escape char ++ rest) = lexFrom (.string (char :: seen)) rest := by
  have escaped : ∀ letter plain, unescape? letter = some plain → letter ≠ 'u' →
      lexFrom (.string seen) ('\\' :: letter :: rest) = lexFrom (.string (plain :: seen)) rest := by
    intro letter plain read other
    have opened : Mode.step (.string seen) '\\' = some (.escaped seen, []) := rfl
    have closed : Mode.step (.escaped seen) letter = some (.string (plain :: seen), []) := by
      simp [Mode.step, other, read]
    rw [lexFrom_cons_silent opened, lexFrom_cons_silent closed]
  unfold escape
  split
  · subst char
    exact escaped '"' '"' rfl (by decide)
  split
  · subst char
    exact escaped '\\' '\\' rfl (by decide)
  split
  · subst char
    exact escaped 'n' '\n' rfl (by decide)
  split
  · subst char
    exact escaped 'r' '\r' rfl (by decide)
  split
  · subst char
    exact escaped 't' '\t' rfl (by decide)
  split
  · subst char
    exact escaped 'b' '\u0008' rfl (by decide)
  split
  · subst char
    exact escaped 'f' '\u000c' rfl (by decide)
  split
  · rename_i control
    exact lexFrom_hex seen control rest
  · rename_i notQuote notBackslash _ _ _ _ _ visible
    have kept : Mode.step (.string seen) char = some (.string (char :: seen), []) := by
      simp [Mode.step, notQuote, notBackslash, visible]
    exact lexFrom_cons_silent kept rest

theorem lexFrom_string (seen text rest : List Char) :
    lexFrom (.string seen) (text.flatMap escape ++ '"' :: rest) =
      (lexFrom .outside rest).map
        (.scalar (.str (String.ofList (seen.reverse ++ text))) :: ·) := by
  induction text generalizing seen with
  | nil =>
    have closed : Mode.step (.string seen) '"' =
        some (.outside, [.scalar (.str (String.ofList seen.reverse))]) := rfl
    rw [List.flatMap_nil, List.nil_append, List.append_nil]
    exact lexFrom_cons closed rest
  | cons char text ih =>
    rw [List.flatMap_cons, List.append_assoc, lexFrom_escape, ih, List.reverse_cons,
      List.append_assoc, List.singleton_append]

theorem lexFrom_quote (text : String) (rest : List Char) :
    lexFrom .outside (quote text ++ rest) =
      (lexFrom .outside rest).map (.scalar (.str text) :: ·) := by
  have opened : Mode.step .outside '"' = some (.string [], []) := rfl
  rw [quote, List.cons_append, List.append_assoc, lexFrom_cons_silent opened,
    List.singleton_append, lexFrom_string, List.reverse_nil, List.nil_append, String.ofList_toList]

/-! ## Numbers and constants -/

/-- A bare token ends here. -/
def Delimited (rest : List Char) : Prop := ∀ char ∈ rest.head?, isBare char = false

theorem lexFrom_bare_more (seen chars rest : List Char)
    (bare : ∀ char ∈ chars, isBare char = true) :
    lexFrom (.bare seen) (chars ++ rest) = lexFrom (.bare (chars.reverse ++ seen)) rest := by
  induction chars generalizing seen with
  | nil => rfl
  | cons char chars ih =>
    obtain ⟨here, later⟩ := List.forall_mem_cons.mp bare
    have kept : Mode.step (.bare seen) char = some (.bare (char :: seen), []) := by
      simp [Mode.step, here]
    rw [List.cons_append, lexFrom_cons_silent kept, ih _ later, List.reverse_cons,
      List.append_assoc, List.singleton_append]

theorem lexFrom_bare_end {seen : List Char} {value : Value}
    (reads : bare? seen.reverse = some value) {rest : List Char} (ended : Delimited rest) :
    lexFrom (.bare seen) rest = (lexFrom .outside rest).map (.scalar value :: ·) := by
  cases rest with
  | nil => simp [lexFrom, Mode.finish, reads]
  | cons char rest =>
    have other : isBare char = false := ended char rfl
    rw [lexFrom, lexFrom]
    simp only [Mode.step, other, reads]
    cases stepOutside char with
    | none => rfl
    | some found =>
      obtain ⟨next, tokens⟩ := found
      change ((lexFrom next rest).bind fun later => some (.scalar value :: tokens ++ later)) =
        ((lexFrom next rest).bind fun later => some (tokens ++ later)).map (.scalar value :: ·)
      cases lexFrom next rest <;> rfl

theorem not_bare_of_whitespace {char : Char} (bare : isBare char = true) :
    isWhitespace char = false ∧ isMark char = false ∧ char ≠ '"' := by
  have absent : ∀ others : List Char, (∀ other ∈ others, isBare other = false) →
      others.contains char = false := by
    intro others unlike
    cases found : others.contains char with
    | false => rfl
    | true =>
      have other := unlike char (List.contains_iff_mem.mp found)
      rw [bare] at other
      cases other
  refine ⟨absent _ (List.all_iff_forall_prop.mp (by decide)),
    absent _ (List.all_iff_forall_prop.mp (by decide)), fun same => ?_⟩
  subst same
  cases bare

theorem lexFrom_bare {chars : List Char} {value : Value} (nonempty : chars ≠ [])
    (bare : ∀ char ∈ chars, isBare char = true) (reads : bare? chars = some value)
    {rest : List Char} (ended : Delimited rest) :
    lexFrom .outside (chars ++ rest) = (lexFrom .outside rest).map (.scalar value :: ·) := by
  cases chars with
  | nil => exact absurd rfl nonempty
  | cons char chars =>
    obtain ⟨here, later⟩ := List.forall_mem_cons.mp bare
    obtain ⟨visible, unmarked, unquoted⟩ := not_bare_of_whitespace here
    have opened : Mode.step .outside char = some (.bare [char], []) := by
      simp [Mode.step, stepOutside, visible, unmarked, unquoted, here]
    have whole : bare? (chars.reverse ++ [char]).reverse = some value := by
      rw [List.reverse_append, List.reverse_reverse]
      exact reads
    rw [List.cons_append, lexFrom_cons_silent opened, lexFrom_bare_more _ _ _ later,
      lexFrom_bare_end whole ended]

def isNumeric (char : Char) : Bool := char.isDigit || char == '-'

theorem bare_eq_number {chars : List Char} (numeric : ∀ char ∈ chars, isNumeric char = true) :
    bare? chars = number? chars := by
  have differs : ∀ word : List Char, ∀ letter ∈ word, isNumeric letter = false →
      chars ≠ word := by
    intro word letter member unlike same
    subst same
    rw [numeric letter member] at unlike
    cases unlike
  rw [bare?, if_neg (differs _ 'n' (by decide) rfl), if_neg (differs _ 't' (by decide) rfl),
    if_neg (differs _ 'f' (by decide) rfl), if_neg (differs _ 'N' (by decide) rfl),
    if_neg (differs _ 'I' (by decide) rfl), if_neg (differs _ 'I' (by decide) rfl)]

theorem head_toDigits {number : Nat} (positive : 0 < number) :
    ∃ char, (Nat.toDigits 10 number).head? = some char ∧ char ≠ '0' := by
  induction number using Nat.strongRecOn with
  | ind number ih =>
    by_cases small : number < 10
    · rw [Nat.toDigits_of_lt_base small]
      refine ⟨number.digitChar, rfl, ?_⟩
      interval_cases number <;> decide
    · obtain ⟨char, first, notZero⟩ := ih (number / 10) (by omega) (by omega)
      rw [Nat.toDigits_of_base_le (by decide) (by omega)]
      exact ⟨char, by rw [List.head?_append, first]; rfl, notZero⟩

theorem wholeNumber_toDigits (number : Nat) : wholeNumber (Nat.toDigits 10 number) = true := by
  cases Nat.eq_zero_or_pos number with
  | inl zero => subst zero; rfl
  | inr positive =>
    obtain ⟨char, first, notZero⟩ := head_toDigits positive
    simp [wholeNumber, first, notZero]

theorem isDigit_toDigits {number : Nat} {char : Char} (member : char ∈ Nat.toDigits 10 number) :
    char.isDigit = true :=
  Nat.isDigit_of_mem_toDigits (by decide) (by decide) member

theorem number_toDigits (number : Nat) :
    number? (Nat.toDigits 10 number) = some (.int number) ∧
      number? ('-' :: Nat.toDigits 10 number) = some (.int (-number)) := by
  have all : (Nat.toDigits 10 number).takeWhile Char.isDigit = Nat.toDigits 10 number :=
    List.takeWhile_eq_self_iff.mpr fun char member => isDigit_toDigits member
  have rest : (Nat.toDigits 10 number).dropWhile Char.isDigit = [] :=
    List.dropWhile_eq_nil_iff.mpr fun char member => isDigit_toDigits member
  constructor
  · cases digits : Nat.toDigits 10 number with
    | nil => exact absurd digits Nat.toDigits_ne_nil
    | cons char tail =>
      have digit : char.isDigit = true :=
        isDigit_toDigits (digits ▸ List.mem_cons_self)
      have unsigned : char ≠ '-' := by
        rintro rfl
        cases digit
      rw [digits] at all rest
      have whole := wholeNumber_toDigits number
      have value : Nat.ofDigitChars 10 (Nat.toDigits 10 number) 0 = number :=
        Nat.ofDigitChars_ten_toDigits
      rw [digits] at whole value
      simp [number?, unsigned, all, rest, whole, value]
  · simp [number?, all, rest, wholeNumber_toDigits, Nat.ofDigitChars_ten_toDigits]

theorem isBare_of_numeric {char : Char} (numeric : isNumeric char = true) : isBare char = true := by
  simp only [isNumeric, Bool.or_eq_true] at numeric
  cases numeric with
  | inl digit => simp [isBare, digit]
  | inr sign => simp [isBare, sign]

theorem int_toList (value : Int) :
    (toString value).toList ≠ [] ∧ (∀ char ∈ (toString value).toList, isNumeric char = true) ∧
      number? (toString value).toList = some (.int value) := by
  have digits : ∀ number : Nat, ∀ char ∈ Nat.toDigits 10 number, isNumeric char = true := by
    intro number char member
    simp [isNumeric, isDigit_toDigits member]
  cases value with
  | ofNat number =>
    have written : (toString (Int.ofNat number)).toList = Nat.toDigits 10 number :=
      Nat.toList_repr
    rw [written]
    exact ⟨Nat.toDigits_ne_nil, digits number, (number_toDigits number).1⟩
  | negSucc number =>
    have written : (toString (Int.negSucc number)).toList =
        '-' :: Nat.toDigits 10 (number + 1) := by
      change ("-" ++ (number + 1).repr).toList = _
      rw [String.toList_append, Nat.toList_repr]
      rfl
    rw [written]
    exact ⟨List.cons_ne_nil _ _, List.forall_mem_cons.mpr ⟨rfl, digits _⟩,
      (number_toDigits (number + 1)).2⟩

theorem text_of_truth {value : Value} (wellFormed : WellFormed value)
    (holds : value.truth = true) : value.text ≠ "" := by
  cases value with
  | null => cases holds
  | bool value => cases value <;> exact by decide
  | int value =>
    intro empty
    have written : toString value = "" := empty
    exact (int_toList value).1 (by rw [written]; rfl)
  | float number text =>
    intro empty
    have written : text = "" := empty
    rw [written] at wellFormed
    exact wellFormed.nonempty rfl
  | str text => exact bne_iff_ne.mp holds
  | list items => simp [Value.text, Value.repr]
  | map entries => simp [Value.text, Value.repr]

theorem lexFrom_int (value : Int) {rest : List Char} (ended : Delimited rest) :
    lexFrom .outside ((toString value).toList ++ rest) =
      (lexFrom .outside rest).map (.scalar (.int value) :: ·) := by
  obtain ⟨nonempty, numeric, reads⟩ := int_toList value
  exact lexFrom_bare nonempty (fun char member => isBare_of_numeric (numeric char member))
    ((bare_eq_number numeric).trans reads) ended

/-! ## Lexing a document -/

theorem delimited_cons {char : Char} (other : isBare char = false) (rest : List Char) :
    Delimited (char :: rest) := by
  intro first same
  cases same
  exact other

theorem delimited_moreItems (spaced : Bool) (items : List Value) (rest : List Char) :
    Delimited (dumpsMoreItems spaced items ++ rest) := by
  cases items with
  | nil => exact delimited_cons rfl rest
  | cons item items => exact delimited_cons rfl _

theorem delimited_moreEntries (spaced : Bool) (entries : List (String × Value))
    (rest : List Char) : Delimited (dumpsMoreEntries spaced entries ++ rest) := by
  cases entries with
  | nil => exact delimited_cons rfl rest
  | cons entry entries => exact delimited_cons rfl _

theorem map_append_tokens (first second : List Token) (tokens : Option (List Token)) :
    (tokens.map (second ++ ·)).map (first ++ ·) = tokens.map (first ++ second ++ ·) := by
  cases tokens with
  | none => rfl
  | some tokens => simp

theorem map_cons_tokens (first : Token) (second : List Token) (tokens : Option (List Token)) :
    (tokens.map (second ++ ·)).map (first :: ·) = tokens.map (first :: second ++ ·) := by
  cases tokens <;> rfl

section Documents

variable (spaced : Bool)

mutual

theorem lexFrom_dumps (value : Value) (wellFormed : WellFormed value) {rest : List Char}
    (ended : Delimited rest) :
    lexFrom .outside (dumps spaced value ++ rest) =
      (lexFrom .outside rest).map (tokensOf value ++ ·) := by
  match value with
  | .null =>
    have literal : dumps spaced .null = "null".toList := rfl
    rw [literal]
    exact lexFrom_bare (by decide) (List.all_iff_forall_prop.mp (by decide)) rfl ended
  | .bool true =>
    have literal : dumps spaced (.bool true) = "true".toList := rfl
    rw [literal]
    exact lexFrom_bare (by decide) (List.all_iff_forall_prop.mp (by decide)) rfl ended
  | .bool false =>
    have literal : dumps spaced (.bool false) = "false".toList := rfl
    rw [literal]
    exact lexFrom_bare (by decide) (List.all_iff_forall_prop.mp (by decide)) rfl ended
  | .int value => exact lexFrom_int value ended
  | .float value text =>
    exact lexFrom_bare wellFormed.nonempty wellFormed.bare wellFormed.reads ended
  | .str text => exact lexFrom_quote text rest
  | .list items =>
    rw [dumps, List.cons_append, lexFrom_mark rfl rfl, lexFrom_dumpsItems items wellFormed rest,
      map_cons_tokens]
    rfl
  | .map entries =>
    rw [dumps, List.cons_append, lexFrom_mark rfl rfl,
      lexFrom_dumpsEntries entries wellFormed.2 rest, map_cons_tokens]
    rfl

theorem lexFrom_dumpsItems (items : List Value) (wellFormed : WellFormedItems items)
    (rest : List Char) :
    lexFrom .outside (dumpsItems spaced items ++ rest) =
      (lexFrom .outside rest).map (itemTokens items ++ ·) := by
  match items with
  | [] => exact lexFrom_mark rfl rfl rest
  | item :: items =>
    rw [dumpsItems, List.append_assoc,
      lexFrom_dumps item wellFormed.1 (delimited_moreItems spaced items rest),
      lexFrom_dumpsMoreItems items wellFormed.2 rest, map_append_tokens]
    rfl

theorem lexFrom_dumpsMoreItems (items : List Value) (wellFormed : WellFormedItems items)
    (rest : List Char) :
    lexFrom .outside (dumpsMoreItems spaced items ++ rest) =
      (lexFrom .outside rest).map (moreItemTokens items ++ ·) := by
  match items with
  | [] => exact lexFrom_mark rfl rfl rest
  | item :: items =>
    rw [dumpsMoreItems, List.cons_append, lexFrom_mark rfl rfl, List.append_assoc, lexFrom_gap,
      List.append_assoc, lexFrom_dumps item wellFormed.1 (delimited_moreItems spaced items rest),
      lexFrom_dumpsMoreItems items wellFormed.2 rest, map_append_tokens, map_cons_tokens]
    rfl

theorem lexFrom_dumpsEntries (entries : List (String × Value))
    (wellFormed : WellFormedEntries entries) (rest : List Char) :
    lexFrom .outside (dumpsEntries spaced entries ++ rest) =
      (lexFrom .outside rest).map (entryTokens entries ++ ·) := by
  match entries with
  | [] => exact lexFrom_mark rfl rfl rest
  | (key, value) :: entries =>
    rw [dumpsEntries, List.append_assoc, lexFrom_quote, List.cons_append, lexFrom_mark rfl rfl,
      List.append_assoc, lexFrom_gap, List.append_assoc,
      lexFrom_dumps value wellFormed.1 (delimited_moreEntries spaced entries rest),
      lexFrom_dumpsMoreEntries entries wellFormed.2 rest, map_append_tokens, map_cons_tokens,
      map_cons_tokens]
    rfl

theorem lexFrom_dumpsMoreEntries (entries : List (String × Value))
    (wellFormed : WellFormedEntries entries) (rest : List Char) :
    lexFrom .outside (dumpsMoreEntries spaced entries ++ rest) =
      (lexFrom .outside rest).map (moreEntryTokens entries ++ ·) := by
  match entries with
  | [] => exact lexFrom_mark rfl rfl rest
  | (key, value) :: entries =>
    rw [dumpsMoreEntries, List.cons_append, lexFrom_mark rfl rfl, List.append_assoc, lexFrom_gap,
      List.append_assoc, lexFrom_quote, List.cons_append, lexFrom_mark rfl rfl,
      List.append_assoc, lexFrom_gap, List.append_assoc,
      lexFrom_dumps value wellFormed.1 (delimited_moreEntries spaced entries rest),
      lexFrom_dumpsMoreEntries entries wellFormed.2 rest, map_append_tokens, map_cons_tokens,
      map_cons_tokens, map_cons_tokens]
    rfl

end

end Documents

/-! ## Parsing the tokens -/

theorem collect_append {front pairs : List (String × Value)}
    (distinct : ((front ++ pairs).map Prod.fst).Nodup) :
    pairs.foldl (fun entries pair => Mapping.set entries pair.1 pair.2) front = front ++ pairs := by
  induction pairs generalizing front with
  | nil => simp
  | cons pair pairs ih =>
    have added : Mapping.set front pair.1 pair.2 = front ++ [pair] := by
      have absent : pair.1 ∉ front.map Prod.fst := by
        rw [List.map_append, List.nodup_append] at distinct
        intro member
        exact distinct.2.2 _ member _ (List.mem_map_of_mem List.mem_cons_self) rfl
      clear ih distinct
      induction front with
      | nil => rfl
      | cons first front ih =>
        rw [List.map_cons, List.mem_cons, not_or] at absent
        rw [Mapping.set, if_neg (Ne.symm absent.1), ih absent.2]
        rfl
    rw [List.foldl_cons, added, ih (by rwa [List.append_assoc]), List.append_assoc]
    rfl

theorem collect_of_distinct {pairs : List (String × Value)}
    (distinct : (pairs.map Prod.fst).Nodup) : collect pairs = pairs :=
  collect_append distinct

theorem valueFrom_list (fuel : Nat) (item : Value) (rest : List Token) :
    valueFrom (fuel + 1) (.mark '[' :: (tokensOf item ++ rest)) =
      (itemsFrom fuel (tokensOf item ++ rest)).map (fun found => (.list found.1, found.2)) := by
  cases item <;> rfl

theorem valueFrom_map (fuel : Nat) (key : String) (rest : List Token) :
    valueFrom (fuel + 1) (.mark '\x7b' :: .scalar (.str key) :: rest) =
      (entriesFrom fuel (.scalar (.str key) :: rest)).map
        (fun found => (.map (collect found.1), found.2)) := rfl

mutual

theorem valueFrom_tokensOf (value : Value) (wellFormed : WellFormed value) {fuel : Nat}
    (enough : (tokensOf value).length ≤ fuel) (rest : List Token) :
    valueFrom fuel (tokensOf value ++ rest) = some (value, rest) := by
  match value, fuel with
  | .null, fuel + 1 => rfl
  | .bool _, fuel + 1 => rfl
  | .int _, fuel + 1 => rfl
  | .float _ _, fuel + 1 => rfl
  | .str _, fuel + 1 => rfl
  | .list [], fuel + 1 => rfl
  | .list (item :: items), fuel + 1 =>
    have parsed := itemsFrom_tokens item items wellFormed.1 wellFormed.2
      (Nat.le_of_succ_le_succ enough) rest
    rw [List.append_assoc] at parsed
    rw [tokensOf, itemTokens, List.cons_append, List.append_assoc, valueFrom_list, parsed]
    rfl
  | .map [], fuel + 1 => rfl
  | .map ((key, value) :: entries), fuel + 1 =>
    have parsed := entriesFrom_tokens key value entries wellFormed.2.1 wellFormed.2.2
      (Nat.le_of_succ_le_succ enough) rest
    rw [tokensOf, entryTokens, List.cons_append, List.cons_append, valueFrom_map]
    rw [List.cons_append] at parsed
    rw [parsed, Option.map_some, collect_of_distinct wellFormed.1]

theorem itemsFrom_tokens (item : Value) (items : List Value) (wellFormed : WellFormed item)
    (others : WellFormedItems items) {fuel : Nat}
    (enough : (tokensOf item ++ moreItemTokens items).length ≤ fuel) (rest : List Token) :
    itemsFrom fuel (tokensOf item ++ moreItemTokens items ++ rest) =
      some (item :: items, rest) := by
  rw [List.length_append] at enough
  match items, fuel with
  | [], fuel + 1 =>
    simp only [moreItemTokens, List.length_singleton] at enough
    have fits : (tokensOf item).length ≤ fuel := by omega
    have first := valueFrom_tokensOf item wellFormed fits (.mark ']' :: rest)
    rw [itemsFrom, List.append_assoc, moreItemTokens, List.singleton_append, first]
    rfl
  | other :: items, fuel + 1 =>
    simp only [moreItemTokens, List.length_cons] at enough
    have fits : (tokensOf item).length ≤ fuel := by omega
    have laterFits : (tokensOf other ++ moreItemTokens items).length ≤ fuel := by omega
    have first := valueFrom_tokensOf item wellFormed fits
      (.mark ',' :: (tokensOf other ++ moreItemTokens items ++ rest))
    have later := itemsFrom_tokens other items others.1 others.2 laterFits rest
    rw [itemsFrom, List.append_assoc, moreItemTokens, List.cons_append, first]
    exact congrArg (Option.map _) later

theorem entriesFrom_tokens (key : String) (value : Value) (entries : List (String × Value))
    (wellFormed : WellFormed value) (others : WellFormedEntries entries) {fuel : Nat}
    (enough : (.scalar (.str key) :: .mark ':' :: (tokensOf value ++
      moreEntryTokens entries) : List Token).length ≤ fuel) (rest : List Token) :
    entriesFrom fuel (.scalar (.str key) :: .mark ':' :: (tokensOf value ++
      moreEntryTokens entries) ++ rest) = some ((key, value) :: entries, rest) := by
  simp only [List.length_cons, List.length_append] at enough
  match entries, fuel with
  | [], fuel + 1 =>
    simp only [moreEntryTokens, List.length_singleton] at enough
    have fits : (tokensOf value).length ≤ fuel := by omega
    have first := valueFrom_tokensOf value wellFormed fits (.mark '\x7d' :: rest)
    rw [List.cons_append, List.cons_append, entriesFrom, List.append_assoc, moreEntryTokens,
      List.singleton_append, first]
    rfl
  | (other, next) :: entries, fuel + 1 =>
    simp only [moreEntryTokens, List.length_cons, List.length_append] at enough
    have fits : (tokensOf value).length ≤ fuel := by omega
    have laterFits : (.scalar (.str other) :: .mark ':' :: (tokensOf next ++
        moreEntryTokens entries) : List Token).length ≤ fuel := by
      simp only [List.length_cons, List.length_append]
      omega
    have first := valueFrom_tokensOf value wellFormed fits
      (.mark ',' :: (.scalar (.str other) :: .mark ':' :: (tokensOf next ++
        moreEntryTokens entries) ++ rest))
    have later := entriesFrom_tokens other next entries others.1 others.2 laterFits rest
    rw [List.cons_append, List.cons_append, entriesFrom, List.append_assoc, moreEntryTokens,
      List.cons_append, first]
    exact congrArg (Option.map _) later

end

theorem loads_of_lexFrom {text : List Char} {value : Value} (wellFormed : WellFormed value)
    (lexed : lexFrom .outside text = some (tokensOf value)) : loads text = some value := by
  have parsed := valueFrom_tokensOf value wellFormed (le_refl _) []
  rw [List.append_nil] at parsed
  rw [loads, lexed]
  change (valueFrom _ (tokensOf value)).bind _ = _
  rw [parsed]
  rfl

theorem loads_dumps (spaced : Bool) {value : Value} (wellFormed : WellFormed value) :
    loads (dumps spaced value) = some value := by
  have run := @lexFrom_dumps spaced value wellFormed [] (fun _ none => nomatch none)
  rw [List.append_nil] at run
  apply loads_of_lexFrom wellFormed
  rw [run]
  simp [lexFrom, Mode.finish]

end FxToushi.Py.Json
