import FxToushi.Py.JsonGrammar
import FxToushi.Py.JsonRoundTrip

namespace FxToushi.Py.Json

/-! # Quotes in documents

Which characters of a document stand inside its texts, and what a part of a
document can load as when it is cut out between two quotes.
-/

mutual

/-- The characters of all texts and keys. -/
def chars : Value → List Char
  | .str text => text.toList
  | .list items => itemChars items
  | .map entries => entryChars entries
  | _ => []

def itemChars : List Value → List Char
  | [] => []
  | item :: rest => chars item ++ itemChars rest

def entryChars : List (String × Value) → List Char
  | [] => []
  | (key, value) :: rest => key.toList ++ chars value ++ entryChars rest

end

/-! ## Characters of a written document -/

/-- A printable ASCII character. -/
def Printable (char : Char) : Prop := 32 ≤ char.toNat ∧ char.toNat < 127

instance : DecidablePred Printable := fun _ => inferInstanceAs (Decidable (_ ∧ _))

theorem printable_hexDigit {value : Nat} (digit : value < 16) : Printable (hexDigit value) := by
  interval_cases value <;> decide

theorem printable_between {low high char : Char} (lower : low ≤ char) (upper : char ≤ high)
    (visible : 32 ≤ low.toNat) (ascii : high.toNat < 127) : Printable char := by
  have below : low.toNat ≤ char.toNat := lower
  have above : char.toNat ≤ high.toNat := upper
  exact ⟨by omega, by omega⟩

theorem printable_of_bare {char : Char} (bare : isBare char = true) : Printable char := by
  simp only [isBare, Char.isDigit, Bool.or_eq_true, Bool.and_eq_true, decide_eq_true_eq,
    beq_iff_eq] at bare
  rcases bare with ((((digit | lower) | upper) | rfl) | rfl) | rfl
  · exact @printable_between '0' '9' char digit.1 digit.2 (by decide) (by decide)
  · exact printable_between lower.1 lower.2 (by decide) (by decide)
  · exact printable_between upper.1 upper.2 (by decide) (by decide)
  · decide
  · decide
  · decide

/-- A character stands for itself or, in ASCII, for an escape. -/
theorem escape_cases (char : Char) :
    (escape char = [char] ∧ 32 ≤ char.toNat) ∨
      (char.toNat < 127 ∧ ∀ written ∈ escape char, Printable written) := by
  unfold escape
  split
  · subst char
    exact .inr ⟨by decide, List.all_iff_forall_prop.mp (by decide)⟩
  split
  · subst char
    exact .inr ⟨by decide, List.all_iff_forall_prop.mp (by decide)⟩
  split
  · subst char
    exact .inr ⟨by decide, List.all_iff_forall_prop.mp (by decide)⟩
  split
  · subst char
    exact .inr ⟨by decide, List.all_iff_forall_prop.mp (by decide)⟩
  split
  · subst char
    exact .inr ⟨by decide, List.all_iff_forall_prop.mp (by decide)⟩
  split
  · subst char
    exact .inr ⟨by decide, List.all_iff_forall_prop.mp (by decide)⟩
  split
  · subst char
    exact .inr ⟨by decide, List.all_iff_forall_prop.mp (by decide)⟩
  split
  · rename_i control
    have high := printable_hexDigit (show char.toNat / 16 < 16 by omega)
    have low := printable_hexDigit (show char.toNat % 16 < 16 by omega)
    refine .inr ⟨by omega, ?_⟩
    simp only [List.forall_mem_cons]
    exact ⟨by decide, by decide, by decide, by decide, high, low, by simp⟩
  · rename_i visible
    exact .inl ⟨rfl, by omega⟩

/-- What is written has no control character, and beyond ASCII the characters
of the texts. -/
structure Renders (written texts : List Char) : Prop where
  visible : ∀ char ∈ written, 32 ≤ char.toNat
  foreign : ∀ char : Char, 127 ≤ char.toNat → (char ∈ written ↔ char ∈ texts)

namespace Renders

variable {written texts otherWritten otherTexts : List Char}

theorem ascii (printable : ∀ char ∈ written, Printable char) : Renders written [] where
  visible := fun char member => (printable char member).1
  foreign := by
    intro char foreign
    simp only [List.not_mem_nil, iff_false]
    intro member
    exact absurd (printable char member).2 (by omega)

theorem append (first : Renders written texts) (second : Renders otherWritten otherTexts) :
    Renders (written ++ otherWritten) (texts ++ otherTexts) where
  visible := by
    intro char member
    cases List.mem_append.mp member with
    | inl inFirst => exact first.visible char inFirst
    | inr inSecond => exact second.visible char inSecond
  foreign := by
    intro char foreign
    rw [List.mem_append, List.mem_append, first.foreign char foreign,
      second.foreign char foreign]

theorem cons {char : Char} (printable : Printable char) (rest : Renders written texts) :
    Renders (char :: written) texts :=
  (show Renders [char] [] from ascii (by simpa using printable)).append rest

theorem nil : Renders [] [] := ascii (by simp)

theorem escape (char : Char) : Renders (Json.escape char) [char] where
  visible := by
    intro written member
    cases escape_cases char with
    | inl plain =>
      rw [plain.1, List.mem_singleton] at member
      subst member
      exact plain.2
    | inr ascii => exact (ascii.2 written member).1
  foreign := by
    intro written foreign
    cases escape_cases char with
    | inl plain => rw [plain.1]
    | inr ascii =>
      rw [List.mem_singleton]
      constructor
      · intro member
        exact absurd (ascii.2 written member).2 (by omega)
      · rintro rfl
        omega

theorem quote (text : String) : Renders (Json.quote text) text.toList := by
  have inside : ∀ chars : List Char, Renders (chars.flatMap Json.escape) chars := by
    intro chars
    induction chars with
    | nil => exact nil
    | cons char chars ih => exact (escape char).append ih
  have closed := (inside text.toList).append (cons (by decide) nil : Renders ['"'] [])
  rw [List.append_nil] at closed
  exact cons (by decide) closed

theorem bare (bare : ∀ char ∈ written, isBare char = true) : Renders written [] :=
  ascii fun char member => printable_of_bare (bare char member)

end Renders

section Documents

variable (spaced : Bool)

theorem renders_gap {written texts : List Char} (rest : Renders written texts) :
    Renders (gap spaced ++ written) texts := by
  cases spaced with
  | false => exact rest
  | true => exact .cons (by decide) rest

theorem renders_entry (key : String) {value later : List Char} {valueChars laterChars : List Char}
    (first : Renders value valueChars) (rest : Renders later laterChars) :
    Renders (quote key ++ ':' :: (gap spaced ++ (value ++ later)))
      (key.toList ++ valueChars ++ laterChars) := by
  have separated : Renders (':' :: (gap spaced ++ (value ++ later))) (valueChars ++ laterChars) :=
    .cons (by decide) (renders_gap spaced (first.append rest))
  have entry := (Renders.quote key).append separated
  rw [← List.append_assoc key.toList] at entry
  exact entry

mutual

theorem renders_dumps (value : Value) (wellFormed : WellFormed value) :
    Renders (dumps spaced value) (chars value) := by
  match value with
  | .null => exact (.ascii (List.all_iff_forall_prop.mp (by decide)) : Renders "null".toList [])
  | .bool true =>
    exact (.ascii (List.all_iff_forall_prop.mp (by decide)) : Renders "true".toList [])
  | .bool false =>
    exact (.ascii (List.all_iff_forall_prop.mp (by decide)) : Renders "false".toList [])
  | .int value =>
    exact .bare fun char member => isBare_of_numeric ((int_toList value).2.1 char member)
  | .float value text => exact .bare wellFormed.bare
  | .str text => exact .quote text
  | .list items => exact .cons (by decide) (renders_dumpsItems items wellFormed)
  | .map entries => exact .cons (by decide) (renders_dumpsEntries entries wellFormed.2)

theorem renders_dumpsItems (items : List Value) (wellFormed : WellFormedItems items) :
    Renders (dumpsItems spaced items) (itemChars items) := by
  match items with
  | [] => exact (.ascii (List.all_iff_forall_prop.mp (by decide)) : Renders [']'] [])
  | item :: items =>
    exact (renders_dumps item wellFormed.1).append (renders_dumpsMoreItems items wellFormed.2)

theorem renders_dumpsMoreItems (items : List Value) (wellFormed : WellFormedItems items) :
    Renders (dumpsMoreItems spaced items) (itemChars items) := by
  match items with
  | [] => exact (.ascii (List.all_iff_forall_prop.mp (by decide)) : Renders [']'] [])
  | item :: items =>
    exact .cons (by decide) (renders_gap spaced
      ((renders_dumps item wellFormed.1).append (renders_dumpsMoreItems items wellFormed.2)))

theorem renders_dumpsEntries (entries : List (String × Value))
    (wellFormed : WellFormedEntries entries) :
    Renders (dumpsEntries spaced entries) (entryChars entries) := by
  match entries with
  | [] => exact (.ascii (List.all_iff_forall_prop.mp (by decide)) : Renders ['\x7d'] [])
  | (key, value) :: entries =>
    exact renders_entry spaced key (renders_dumps value wellFormed.1)
      (renders_dumpsMoreEntries entries wellFormed.2)

theorem renders_dumpsMoreEntries (entries : List (String × Value))
    (wellFormed : WellFormedEntries entries) :
    Renders (dumpsMoreEntries spaced entries) (entryChars entries) := by
  match entries with
  | [] => exact (.ascii (List.all_iff_forall_prop.mp (by decide)) : Renders ['\x7d'] [])
  | (key, value) :: entries =>
    exact .cons (by decide) (renders_gap spaced (renders_entry spaced key
      (renders_dumps value wellFormed.1) (renders_dumpsMoreEntries entries wellFormed.2)))

end

end Documents

/-! ## Scanning the quotes -/

inductive Quoting where
  | outside
  | inside
  | escaped
deriving Repr, DecidableEq

/-- Outside the texts only the characters of tokens and whitespace stand. -/
def scanStep : Quoting → Char → Option Quoting
  | .outside, char =>
    if char = '"' then some .inside
    else if isWhitespace char || isMark char || isBare char then some .outside
    else none
  | .inside, char =>
    if char = '"' then some .outside else if char = '\\' then some .escaped else some .inside
  | .escaped, _ => some .inside

def scan (quoting : Quoting) : List Char → Option Quoting
  | [] => some quoting
  | char :: rest => (scanStep quoting char).bind (fun next => scan next rest)

theorem scan_append (quoting : Quoting) (first second : List Char) :
    scan quoting (first ++ second) = (scan quoting first).bind (fun next => scan next second) := by
  induction first generalizing quoting with
  | nil => rfl
  | cons char first ih =>
    rw [List.cons_append, scan, scan]
    cases scanStep quoting char with
    | none => rfl
    | some next => exact ih next

theorem scan_of_append {quoting after : Quoting} {first second : List Char}
    (scanned : scan quoting (first ++ second) = some after) :
    ∃ middle, scan quoting first = some middle ∧ scan middle second = some after := by
  rw [scan_append] at scanned
  exact Option.bind_eq_some_iff.mp scanned

def Mode.quoting : Mode → Quoting
  | .outside => .outside
  | .bare _ => .outside
  | .string _ => .inside
  | .escaped _ => .escaped
  | .hex _ _ _ _ => .inside
  | .paired _ _ => .inside
  | .pairedEscape _ _ => .escaped

theorem Opens.quoting {char : Char} {next : Mode} {tokens : List Token}
    (opens : Opens char next tokens) : scanStep .outside char = some next.quoting := by
  by_cases quote : char = '"'
  · subst quote
    cases opens with
    | blank blank => cases blank
    | mark mark => cases mark
    | quote => rfl
    | bare bare => cases bare
  · rw [scanStep, if_neg quote]
    cases opens with
    | blank blank => simp [blank, Mode.quoting]
    | mark mark => simp [mark, Mode.quoting]
    | quote => exact absurd rfl quote
    | bare bare => simp [bare, Mode.quoting]

theorem hexValue_quoting {char : Char} {digit : Nat} (read : hexValue? char = some digit) :
    scanStep .inside char = some .inside := by
  have quote : char ≠ '"' := by
    rintro rfl
    cases read
  have backslash : char ≠ '\\' := by
    rintro rfl
    cases read
  rw [scanStep, if_neg quote, if_neg backslash]

/-- A step of the lexer is a step of the scan. -/
theorem Lexes.quoting {mode next : Mode} {char : Char} {tokens : List Token}
    (lexes : Lexes mode char next tokens) :
    scanStep mode.quoting char = some next.quoting := by
  cases lexes with
  | opens opens => exact opens.quoting
  | bare bare => exact (Opens.bare bare).quoting
  | ends read opens => exact opens.quoting
  | closes => rfl
  | escape => rfl
  | text quote backslash => simp [scanStep, Mode.quoting, quote, backslash]
  | unicode => rfl
  | escaped read => rfl
  | digit read => exact hexValue_quoting read
  | digits read unicode =>
    cases unicode with
    | half code => exact hexValue_quoting read
    | char found => exact hexValue_quoting read
  | paired => rfl
  | pairedEscape => rfl

theorem Lexed.scan {mode : Mode} {text : List Char} {tokens : List Token}
    (lexed : Lexed mode text tokens) : Json.scan mode.quoting text = some .outside := by
  induction lexed with
  | done => rfl
  | ends read => rfl
  | step lexes later ih =>
    rw [Json.scan, lexes.quoting]
    exact ih

/-- A text that can be scanned both from inside and from outside of quotes has
no escape: one of the two would meet the backslash outside. -/
theorem no_backslash {text : List Char} {first second : Quoting}
    (fromInside : scan .inside text = some first)
    (fromOutside : scan .outside text = some second) : '\\' ∉ text := by
  induction text generalizing first second with
  | nil => exact List.not_mem_nil
  | cons char rest ih =>
    rw [scan] at fromInside fromOutside
    obtain ⟨inner, innerStep, innerRest⟩ := Option.bind_eq_some_iff.mp fromInside
    obtain ⟨outer, outerStep, outerRest⟩ := Option.bind_eq_some_iff.mp fromOutside
    rw [List.mem_cons, not_or]
    by_cases quote : char = '"'
    · subst quote
      cases innerStep
      cases outerStep
      exact ⟨by decide, ih outerRest innerRest⟩
    · by_cases backslash : char = '\\'
      · subst backslash
        cases outerStep
      · rw [scanStep, if_neg quote, if_neg backslash] at innerStep
        rw [scanStep, if_neg quote] at outerStep
        split at outerStep
        · cases innerStep
          cases outerStep
          exact ⟨Ne.symm backslash, ih innerRest outerRest⟩
        · cases outerStep

/-! ## Texts without an escape -/

def Token.chars : Token → List Char
  | .mark _ => []
  | .scalar value => Json.chars value

def tokenChars (tokens : List Token) : List Char := tokens.flatMap Token.chars

theorem tokenChars_mark (char : Char) (tokens : List Token) :
    tokenChars (.mark char :: tokens) = tokenChars tokens := rfl

theorem tokenChars_scalar (value : Value) (tokens : List Token) :
    tokenChars (.scalar value :: tokens) = chars value ++ tokenChars tokens := rfl

def Mode.seen : Mode → List Char
  | .string seen => seen
  | _ => []

/-- No escape is being read. -/
def Mode.Plain : Mode → Prop
  | .outside => True
  | .bare _ => True
  | .string _ => True
  | _ => False

theorem number_chars {text : List Char} {value : Value} (read : number? text = some value) :
    chars value = [] := by
  unfold number? at read
  split at read
  dsimp only at read
  split at read
  · split at read
    · cases read; rfl
    · split at read
      · obtain ⟨number, -, rfl⟩ := Option.map_eq_some_iff.mp read
        rfl
      · cases read
  · cases read

theorem bare_chars {text : List Char} {value : Value} (read : bare? text = some value) :
    chars value = [] := by
  unfold bare? at read
  split at read
  · cases read; rfl
  split at read
  · cases read; rfl
  split at read
  · cases read; rfl
  split at read
  · cases read; rfl
  split at read
  · cases read; rfl
  split at read
  · cases read; rfl
  · exact number_chars read

theorem Opens.chars {char : Char} {next : Mode} {tokens : List Token}
    (opens : Opens char next tokens) :
    next.Plain ∧ tokenChars tokens = [] ∧ next.seen = [] := by
  cases opens with
  | blank blank => exact ⟨trivial, rfl, rfl⟩
  | mark mark => exact ⟨trivial, rfl, rfl⟩
  | quote => exact ⟨trivial, rfl, rfl⟩
  | bare bare => exact ⟨trivial, rfl, rfl⟩

theorem tokenChars_bare {seen : List Char} {value : Value} (read : bare? seen = some value)
    (tokens : List Token) : tokenChars (.scalar value :: tokens) = tokenChars tokens := by
  rw [tokenChars_scalar, bare_chars read, List.nil_append]

theorem Lexes.chars {mode next : Mode} {char : Char} {tokens : List Token}
    (lexes : Lexes mode char next tokens) (plain : mode.Plain) (unescaped : char ≠ '\\') :
    next.Plain ∧ (∀ found ∈ tokenChars tokens, found ∈ mode.seen) ∧
      ∀ found ∈ next.seen, found = char ∨ found ∈ mode.seen := by
  cases lexes with
  | opens opens =>
    obtain ⟨plainNext, silent, fresh⟩ := opens.chars
    exact ⟨plainNext, by simp [silent], by simp [fresh]⟩
  | bare bare => exact ⟨trivial, by simp [tokenChars], by simp [Mode.seen]⟩
  | ends read opens =>
    obtain ⟨plainNext, silent, fresh⟩ := opens.chars
    exact ⟨plainNext, by simp [tokenChars_bare read, silent], by simp [fresh]⟩
  | closes =>
    refine ⟨trivial, ?_, by simp [Mode.seen]⟩
    intro found member
    simpa [tokenChars, Token.chars, Json.chars, Mode.seen] using member
  | escape => exact absurd rfl unescaped
  | text quote backslash => exact ⟨trivial, by simp [tokenChars], by simp [Mode.seen]⟩
  | _ => exact plain.elim

theorem Lexed.chars {mode : Mode} {text : List Char} {tokens : List Token}
    (lexed : Lexed mode text tokens) (plain : mode.Plain) (unescaped : '\\' ∉ text) :
    ∀ found ∈ tokenChars tokens, found ∈ mode.seen ∨ found ∈ text := by
  induction lexed with
  | done => simp [tokenChars]
  | ends read =>
    rw [tokenChars_bare read]
    exact fun found member => absurd member List.not_mem_nil
  | step lexes later ih =>
    rw [List.mem_cons, not_or] at unescaped
    obtain ⟨plainNext, inSeen, grown⟩ := lexes.chars plain (Ne.symm unescaped.1)
    intro found member
    rw [tokenChars, List.flatMap_append] at member
    cases List.mem_append.mp member with
    | inl here => exact .inl (inSeen found here)
    | inr there =>
      cases ih plainNext unescaped.2 found there with
      | inr deeper => exact .inr (List.mem_cons_of_mem _ deeper)
      | inl fresh =>
        cases grown found fresh with
        | inl same => exact .inr (same ▸ List.mem_cons_self)
        | inr earlier => exact .inl earlier

/-! ## Characters of a parsed value -/

theorem entryChars_set {entries : Mapping} {key : String} {value : Value} {char : Char}
    (member : char ∈ entryChars (Mapping.set entries key value)) :
    char ∈ key.toList ∨ char ∈ chars value ∨ char ∈ entryChars entries := by
  induction entries with
  | nil => simpa [Mapping.set, entryChars] using member
  | cons entry rest ih =>
    obtain ⟨first, old⟩ := entry
    rw [Mapping.set] at member
    split at member
    · simp only [entryChars, List.mem_append] at member ⊢
      tauto
    · simp only [entryChars, List.mem_append] at member ⊢
      rcases member with here | there
      · exact .inr (.inr (.inl here))
      · have found := ih there
        tauto

theorem entryChars_collect {pairs entries : List (String × Value)} {char : Char}
    (member : char ∈ entryChars
      (pairs.foldl (fun entries pair => Mapping.set entries pair.1 pair.2) entries)) :
    char ∈ entryChars pairs ∨ char ∈ entryChars entries := by
  induction pairs generalizing entries with
  | nil => exact .inr member
  | cons pair pairs ih =>
    simp only [entryChars, List.mem_append]
    cases ih member with
    | inl later => exact .inl (.inr later)
    | inr found =>
      have set := entryChars_set found
      tauto

mutual

theorem ReadsValue.chars {char : Char} {tokens rest : List Token} {value : Value}
    (read : ReadsValue tokens value rest)
    (member : char ∈ Json.chars value ∨ char ∈ tokenChars rest) : char ∈ tokenChars tokens := by
  match read with
  | .scalar value rest =>
    rw [tokenChars_scalar]
    exact List.mem_append.mpr member
  | .emptyList rest => simpa [Json.chars, itemChars, tokenChars_mark] using member
  | .list items =>
    rw [tokenChars_mark]
    exact items.chars member
  | .emptyMap rest => simpa [Json.chars, entryChars, tokenChars_mark] using member
  | .map entries =>
    rw [tokenChars_mark]
    refine entries.chars (member.imp_left fun inside => ?_)
    simpa [entryChars] using entryChars_collect inside

theorem ReadsItems.chars {char : Char} {tokens rest : List Token} {items : List Value}
    (read : ReadsItems tokens items rest)
    (member : char ∈ itemChars items ∨ char ∈ tokenChars rest) : char ∈ tokenChars tokens := by
  match read with
  | .last first =>
    rw [itemChars, itemChars, List.append_nil] at member
    refine first.chars ?_
    rwa [tokenChars_mark]
  | .more first later =>
    rw [itemChars, List.mem_append, or_assoc] at member
    refine first.chars ?_
    rw [tokenChars_mark]
    exact member.imp_right later.chars

theorem ReadsEntries.chars {char : Char} {tokens rest : List Token}
    {entries : List (String × Value)} (read : ReadsEntries tokens entries rest)
    (member : char ∈ entryChars entries ∨ char ∈ tokenChars rest) : char ∈ tokenChars tokens := by
  match read with
  | .last first =>
    rw [entryChars, entryChars, List.append_nil, List.mem_append, or_assoc] at member
    rw [tokenChars_scalar, tokenChars_mark, Json.chars, List.mem_append]
    refine member.imp_right fun inside => first.chars ?_
    rwa [tokenChars_mark]
  | .more first later =>
    rw [entryChars, List.mem_append, List.mem_append, or_assoc, or_assoc] at member
    rw [tokenChars_scalar, tokenChars_mark, Json.chars, List.mem_append]
    refine member.imp_right fun inside => first.chars ?_
    rw [tokenChars_mark]
    exact inside.imp_right later.chars

end

theorem chars_of_loads {text : List Char} {value : Value} (unescaped : '\\' ∉ text)
    (loaded : loads text = some value) : ∀ char ∈ chars value, char ∈ text := by
  obtain ⟨tokens, lexed, read⟩ := reads_of_loads loaded
  intro char member
  have inTokens := read.chars (.inl member)
  cases lexed.chars trivial unescaped char inTokens with
  | inl absent => exact absurd absent List.not_mem_nil
  | inr inText => exact inText

theorem scan_of_loads {text : List Char} {value : Value} (loaded : loads text = some value) :
    scan .outside text = some .outside := by
  obtain ⟨tokens, lexed, -⟩ := reads_of_loads loaded
  exact lexed.scan

theorem chars_of_cut {text : List Char} {value : Value} {after : Quoting}
    (cut : scan .inside text = some after) (loaded : loads text = some value) :
    ∀ char ∈ chars value, char ∈ text :=
  chars_of_loads (no_backslash cut (scan_of_loads loaded)) loaded

end FxToushi.Py.Json
