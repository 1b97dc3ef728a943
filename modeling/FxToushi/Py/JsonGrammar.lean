import FxToushi.Py.Json

namespace FxToushi.Py.Json

/-! # The grammar of documents

What the lexer and the parser accept, as derivations over the characters and over
the tokens.  Whatever they return was derived, so a property of tokens or of
parsed values is shown over the derivations.
-/

/-! ## Characters -/

/-- A character that no token is open at. -/
inductive Opens : Char → Mode → List Token → Prop
  | blank {char : Char} (blank : isWhitespace char = true) : Opens char .outside []
  | mark {char : Char} (mark : isMark char = true) : Opens char .outside [.mark char]
  | quote : Opens '"' (.string []) []
  | bare {char : Char} (bare : isBare char = true) : Opens char (.bare [char]) []

/-- The four digits of an escape are a character, or the first half of one. -/
inductive Unicode (seen : List Char) : Mode → Prop
  | half (code : Nat) : Unicode seen (.paired code seen)
  | char (char : Char) : Unicode seen (.string (char :: seen))

/-- What a mode makes of the next character. -/
inductive Lexes : Mode → Char → Mode → List Token → Prop
  | opens {char : Char} {next : Mode} {tokens : List Token} (opens : Opens char next tokens) :
      Lexes .outside char next tokens
  | bare {char : Char} {seen : List Char} (bare : isBare char = true) :
      Lexes (.bare seen) char (.bare (char :: seen)) []
  | ends {char : Char} {seen : List Char} {value : Value} {next : Mode} {tokens : List Token}
      (read : bare? seen.reverse = some value) (opens : Opens char next tokens) :
      Lexes (.bare seen) char next (.scalar value :: tokens)
  | closes {seen : List Char} :
      Lexes (.string seen) '"' .outside [.scalar (.str (String.ofList seen.reverse))]
  | escape {seen : List Char} : Lexes (.string seen) '\\' (.escaped seen) []
  | text {char : Char} {seen : List Char} (quote : char ≠ '"') (backslash : char ≠ '\\') :
      Lexes (.string seen) char (.string (char :: seen)) []
  | unicode {seen : List Char} : Lexes (.escaped seen) 'u' (.hex none seen 0 0) []
  | escaped {char plain : Char} {seen : List Char} (read : unescape? char = some plain) :
      Lexes (.escaped seen) char (.string (plain :: seen)) []
  | digit {char : Char} {high : Option Nat} {seen : List Char} {count code digit : Nat}
      (read : hexValue? char = some digit) :
      Lexes (.hex high seen count code) char (.hex high seen (count + 1) (code * 16 + digit)) []
  | digits {char : Char} {high : Option Nat} {seen : List Char} {count code digit : Nat}
      {next : Mode} (read : hexValue? char = some digit) (unicode : Unicode seen next) :
      Lexes (.hex high seen count code) char next []
  | paired {high : Nat} {seen : List Char} :
      Lexes (.paired high seen) '\\' (.pairedEscape high seen) []
  | pairedEscape {high : Nat} {seen : List Char} :
      Lexes (.pairedEscape high seen) 'u' (.hex (some high) seen 0 0) []

inductive Lexed : Mode → List Char → List Token → Prop
  | done : Lexed .outside [] []
  | ends {seen : List Char} {value : Value} (read : bare? seen.reverse = some value) :
      Lexed (.bare seen) [] [.scalar value]
  | step {mode next : Mode} {char : Char} {text : List Char} {first tokens : List Token}
      (lexes : Lexes mode char next first) (later : Lexed next text tokens) :
      Lexed mode (char :: text) (first ++ tokens)

section Characters

variable {mode next : Mode} {char : Char} {seen : List Char} {tokens : List Token}

theorem opens_of_stepOutside (stepped : stepOutside char = some (next, tokens)) :
    Opens char next tokens := by
  unfold stepOutside at stepped
  split at stepped
  · rename_i blank
    cases stepped
    exact .blank blank
  split at stepped
  · rename_i mark
    cases stepped
    exact .mark mark
  split at stepped
  · rename_i quote
    cases stepped
    rw [quote]
    exact .quote
  split at stepped
  · rename_i bare
    cases stepped
    exact .bare bare
  · cases stepped

theorem unicode_of_afterHex {high : Option Nat} {code : Nat}
    (after : afterHex high seen code = some next) : Unicode seen next := by
  unfold afterHex at after
  split at after
  · split at after
    · cases after
      exact .half code
    split at after
    · cases after
    · cases after
      exact .char _
  · split at after
    · cases after
      exact .char _
    · cases after

theorem lexes_of_bare (stepped : (Mode.bare seen).step char = some (next, tokens)) :
    Lexes (.bare seen) char next tokens := by
  rw [Mode.step] at stepped
  split at stepped
  · rename_i bare
    cases stepped
    exact .bare bare
  · obtain ⟨value, read, stepped⟩ := Option.bind_eq_some_iff.mp stepped
    obtain ⟨⟨after, later⟩, outside, stepped⟩ := Option.bind_eq_some_iff.mp stepped
    cases stepped
    exact .ends read (opens_of_stepOutside outside)

theorem lexes_of_string (stepped : (Mode.string seen).step char = some (next, tokens)) :
    Lexes (.string seen) char next tokens := by
  rw [Mode.step] at stepped
  split at stepped
  · rename_i quote
    cases stepped
    rw [quote]
    exact .closes
  · rename_i quote
    split at stepped
    · rename_i backslash
      cases stepped
      rw [backslash]
      exact .escape
    · rename_i backslash
      split at stepped
      · cases stepped
      · cases stepped
        exact .text quote backslash

theorem lexes_of_escaped (stepped : (Mode.escaped seen).step char = some (next, tokens)) :
    Lexes (.escaped seen) char next tokens := by
  rw [Mode.step] at stepped
  split at stepped
  · rename_i unicode
    cases stepped
    rw [unicode]
    exact .unicode
  · obtain ⟨plain, read, same⟩ := Option.map_eq_some_iff.mp stepped
    cases same
    exact .escaped read

theorem lexes_of_hex {high : Option Nat} {count code : Nat}
    (stepped : (Mode.hex high seen count code).step char = some (next, tokens)) :
    Lexes (.hex high seen count code) char next tokens := by
  obtain ⟨digit, read, stepped⟩ := Option.bind_eq_some_iff.mp stepped
  split at stepped
  · cases stepped
    exact .digit read
  · obtain ⟨after, hexed, same⟩ := Option.map_eq_some_iff.mp stepped
    cases same
    exact .digits read (unicode_of_afterHex hexed)

theorem lexes_of_step (stepped : mode.step char = some (next, tokens)) :
    Lexes mode char next tokens := by
  cases mode with
  | outside => exact .opens (opens_of_stepOutside stepped)
  | bare seen => exact lexes_of_bare stepped
  | string seen => exact lexes_of_string stepped
  | escaped seen => exact lexes_of_escaped stepped
  | hex high seen count code => exact lexes_of_hex stepped
  | paired high seen =>
    rw [Mode.step] at stepped
    split at stepped
    · rename_i backslash
      cases stepped
      rw [backslash]
      exact .paired
    · cases stepped
  | pairedEscape high seen =>
    rw [Mode.step] at stepped
    split at stepped
    · rename_i unicode
      cases stepped
      rw [unicode]
      exact .pairedEscape
    · cases stepped

theorem lexed_of_lexFrom {text : List Char} (lexed : lexFrom mode text = some tokens) :
    Lexed mode text tokens := by
  induction text generalizing mode tokens with
  | nil =>
    cases mode with
    | outside =>
      cases lexed
      exact .done
    | bare seen =>
      obtain ⟨value, read, same⟩ := Option.map_eq_some_iff.mp lexed
      rw [← same]
      exact .ends read
    | string seen => cases lexed
    | escaped seen => cases lexed
    | hex high seen count code => cases lexed
    | paired high seen => cases lexed
    | pairedEscape high seen => cases lexed
  | cons char rest ih =>
    rw [lexFrom] at lexed
    obtain ⟨⟨next, first⟩, stepped, lexed⟩ := Option.bind_eq_some_iff.mp lexed
    obtain ⟨later, lexedRest, same⟩ := Option.bind_eq_some_iff.mp lexed
    cases same
    exact .step (lexes_of_step stepped) (ih lexedRest)

end Characters

/-! ## Tokens -/

mutual

/-- The value stands at the front of the tokens and is followed by the rest. -/
inductive ReadsValue : List Token → Value → List Token → Prop
  | scalar (value : Value) (rest : List Token) : ReadsValue (.scalar value :: rest) value rest
  | emptyList (rest : List Token) : ReadsValue (.mark '[' :: .mark ']' :: rest) (.list []) rest
  | list {tokens rest : List Token} {items : List Value} (read : ReadsItems tokens items rest) :
      ReadsValue (.mark '[' :: tokens) (.list items) rest
  | emptyMap (rest : List Token) :
      ReadsValue (.mark '\x7b' :: .mark '\x7d' :: rest) (.map []) rest
  | map {tokens rest : List Token} {entries : List (String × Value)}
      (read : ReadsEntries tokens entries rest) :
      ReadsValue (.mark '\x7b' :: tokens) (.map (collect entries)) rest

inductive ReadsItems : List Token → List Value → List Token → Prop
  | last {tokens rest : List Token} {item : Value}
      (first : ReadsValue tokens item (.mark ']' :: rest)) : ReadsItems tokens [item] rest
  | more {tokens left rest : List Token} {item : Value} {items : List Value}
      (first : ReadsValue tokens item (.mark ',' :: left)) (later : ReadsItems left items rest) :
      ReadsItems tokens (item :: items) rest

inductive ReadsEntries : List Token → List (String × Value) → List Token → Prop
  | last {tokens rest : List Token} {key : String} {value : Value}
      (first : ReadsValue tokens value (.mark '\x7d' :: rest)) :
      ReadsEntries (.scalar (.str key) :: .mark ':' :: tokens) [(key, value)] rest
  | more {tokens left rest : List Token} {key : String} {value : Value}
      {entries : List (String × Value)} (first : ReadsValue tokens value (.mark ',' :: left))
      (later : ReadsEntries left entries rest) :
      ReadsEntries (.scalar (.str key) :: .mark ':' :: tokens) ((key, value) :: entries) rest

end

section Steps

variable {fuel : Nat}

theorem readsValue_succ
    (items : ∀ tokens found rest, itemsFrom fuel tokens = some (found, rest) →
      ReadsItems tokens found rest)
    (entries : ∀ tokens found rest, entriesFrom fuel tokens = some (found, rest) →
      ReadsEntries tokens found rest)
    (tokens : List Token) (value : Value) (rest : List Token)
    (parsed : valueFrom (fuel + 1) tokens = some (value, rest)) : ReadsValue tokens value rest := by
  unfold valueFrom at parsed
  split at parsed
  · cases parsed
  · cases parsed
    exact .scalar value rest
  · split at parsed
    · cases parsed
      exact .emptyList rest
    · obtain ⟨found, taken, same⟩ := Option.map_eq_some_iff.mp parsed
      cases same
      obtain rfl := Nat.succ.inj ‹fuel + 1 = _›
      exact .list (items _ _ _ taken)
  · split at parsed
    · cases parsed
      exact .emptyMap rest
    · obtain ⟨found, taken, same⟩ := Option.map_eq_some_iff.mp parsed
      cases same
      obtain rfl := Nat.succ.inj ‹fuel + 1 = _›
      exact .map (entries _ _ _ taken)
  · cases parsed

theorem readsItems_succ
    (values : ∀ tokens found rest, valueFrom fuel tokens = some (found, rest) →
      ReadsValue tokens found rest)
    (items : ∀ tokens found rest, itemsFrom fuel tokens = some (found, rest) →
      ReadsItems tokens found rest)
    (tokens : List Token) (found : List Value) (rest : List Token)
    (parsed : itemsFrom (fuel + 1) tokens = some (found, rest)) : ReadsItems tokens found rest := by
  rw [itemsFrom] at parsed
  obtain ⟨⟨item, left⟩, taken, parsed⟩ := Option.bind_eq_some_iff.mp parsed
  have first := values _ _ _ taken
  dsimp only at parsed
  split at parsed
  · cases parsed
    exact .last first
  · obtain ⟨more, taken, same⟩ := Option.map_eq_some_iff.mp parsed
    cases same
    exact .more first (items _ _ _ taken)
  · cases parsed

theorem readsEntries_succ
    (values : ∀ tokens found rest, valueFrom fuel tokens = some (found, rest) →
      ReadsValue tokens found rest)
    (entries : ∀ tokens found rest, entriesFrom fuel tokens = some (found, rest) →
      ReadsEntries tokens found rest)
    (tokens : List Token) (found : List (String × Value)) (rest : List Token)
    (parsed : entriesFrom (fuel + 1) tokens = some (found, rest)) :
    ReadsEntries tokens found rest := by
  unfold entriesFrom at parsed
  split at parsed
  · obtain ⟨⟨value, left⟩, taken, parsed⟩ := Option.bind_eq_some_iff.mp parsed
    obtain rfl := Nat.succ.inj ‹fuel + 1 = _›
    have first := values _ _ _ taken
    dsimp only at parsed
    split at parsed
    · cases parsed
      exact .last first
    · obtain ⟨more, taken, same⟩ := Option.map_eq_some_iff.mp parsed
      cases same
      exact .more first (entries _ _ _ taken)
    · cases parsed
  · cases parsed

end Steps

theorem reads_of_parsed (fuel : Nat) :
    (∀ tokens value rest, valueFrom fuel tokens = some (value, rest) →
      ReadsValue tokens value rest) ∧
    (∀ tokens items rest, itemsFrom fuel tokens = some (items, rest) →
      ReadsItems tokens items rest) ∧
    ∀ tokens entries rest, entriesFrom fuel tokens = some (entries, rest) →
      ReadsEntries tokens entries rest := by
  induction fuel with
  | zero =>
    refine ⟨?_, ?_, ?_⟩
    · intro tokens value rest parsed
      cases parsed
    · intro tokens items rest parsed
      cases parsed
    · intro tokens entries rest parsed
      simp [entriesFrom] at parsed
  | succ fuel ih =>
    obtain ⟨values, items, entries⟩ := ih
    exact ⟨readsValue_succ items entries, readsItems_succ values items,
      readsEntries_succ values entries⟩

theorem reads_of_loads {text : List Char} {value : Value} (loaded : loads text = some value) :
    ∃ tokens, Lexed .outside text tokens ∧ ReadsValue tokens value [] := by
  obtain ⟨tokens, lexed, parsed⟩ := Option.bind_eq_some_iff.mp loaded
  obtain ⟨⟨found, rest⟩, taken, ended⟩ := Option.bind_eq_some_iff.mp parsed
  refine ⟨tokens, lexed_of_lexFrom lexed, ?_⟩
  split at ended
  · rename_i pair
    cases pair
    cases ended
    exact (reads_of_parsed tokens.length).1 _ _ _ taken
  · cases ended

end FxToushi.Py.Json
