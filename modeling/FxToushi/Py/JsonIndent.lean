import FxToushi.Py.JsonRoundTrip

namespace FxToushi.Py.Json

/-! # Indented documents

`json.dumps` with `indent=2`.  The layout is blank to the lexer, so an indented
document loads like a plain one.
-/

def newline (level : Nat) : List Char := '\n' :: List.replicate (2 * level) ' '

mutual

/-- `json.dumps(value, ensure_ascii=False, indent=2)`, at a level of nesting. -/
def dumpsIndented (level : Nat) : Value → List Char
  | .list [] => ['[', ']']
  | .list (item :: rest) =>
    '[' :: (newline (level + 1) ++
      (dumpsIndented (level + 1) item ++ indentedMoreItems level rest))
  | .map [] => ['\x7b', '\x7d']
  | .map ((key, value) :: rest) =>
    '\x7b' :: (newline (level + 1) ++ (quote key ++ ':' :: ' ' ::
      (dumpsIndented (level + 1) value ++ indentedMoreEntries level rest)))
  | value => dumps true value

def indentedMoreItems (level : Nat) : List Value → List Char
  | [] => newline level ++ [']']
  | item :: rest =>
    ',' :: (newline (level + 1) ++
      (dumpsIndented (level + 1) item ++ indentedMoreItems level rest))

def indentedMoreEntries (level : Nat) : List (String × Value) → List Char
  | [] => newline level ++ ['\x7d']
  | (key, value) :: rest =>
    ',' :: (newline (level + 1) ++ (quote key ++ ':' :: ' ' ::
      (dumpsIndented (level + 1) value ++ indentedMoreEntries level rest)))

end

/-! ## Lexing -/

theorem lexFrom_space (rest : List Char) :
    lexFrom .outside (' ' :: rest) = lexFrom .outside rest :=
  lexFrom_cons_silent rfl rest

theorem lexFrom_newline (level : Nat) (rest : List Char) :
    lexFrom .outside (newline level ++ rest) = lexFrom .outside rest := by
  have blanks : ∀ count, lexFrom .outside (List.replicate count ' ' ++ rest) =
      lexFrom .outside rest := by
    intro count
    induction count with
    | zero => rfl
    | succ count ih => rw [List.replicate_succ, List.cons_append, lexFrom_space, ih]
  rw [newline, List.cons_append, lexFrom_cons_silent rfl, blanks]

theorem delimited_newline (level : Nat) (rest : List Char) : Delimited (newline level ++ rest) :=
  delimited_cons rfl _

theorem delimited_indentedMoreItems (level : Nat) (items : List Value) (rest : List Char) :
    Delimited (indentedMoreItems level items ++ rest) := by
  cases items with
  | nil =>
    rw [indentedMoreItems, List.append_assoc]
    exact delimited_newline level _
  | cons item items => exact delimited_cons rfl _

theorem delimited_indentedMoreEntries (level : Nat) (entries : List (String × Value))
    (rest : List Char) : Delimited (indentedMoreEntries level entries ++ rest) := by
  cases entries with
  | nil =>
    rw [indentedMoreEntries, List.append_assoc]
    exact delimited_newline level _
  | cons entry entries => exact delimited_cons rfl _

mutual

theorem lexFrom_dumpsIndented (level : Nat) (value : Value) (wellFormed : WellFormed value)
    {rest : List Char} (ended : Delimited rest) :
    lexFrom .outside (dumpsIndented level value ++ rest) =
      (lexFrom .outside rest).map (tokensOf value ++ ·) := by
  match value with
  | .null => exact lexFrom_dumps true .null wellFormed ended
  | .bool value => exact lexFrom_dumps true (.bool value) wellFormed ended
  | .int value => exact lexFrom_dumps true (.int value) wellFormed ended
  | .float value text => exact lexFrom_dumps true (.float value text) wellFormed ended
  | .str text => exact lexFrom_dumps true (.str text) wellFormed ended
  | .list [] => exact lexFrom_dumps true (.list []) wellFormed ended
  | .map [] => exact lexFrom_dumps true (.map []) wellFormed ended
  | .list (item :: items) =>
    rw [dumpsIndented, List.cons_append, lexFrom_mark rfl rfl, List.append_assoc,
      lexFrom_newline, List.append_assoc,
      lexFrom_dumpsIndented (level + 1) item wellFormed.1
        (delimited_indentedMoreItems level items rest),
      lexFrom_indentedMoreItems level items wellFormed.2 rest, map_append_tokens,
      map_cons_tokens]
    rfl
  | .map ((key, value) :: entries) =>
    rw [dumpsIndented, List.cons_append, lexFrom_mark rfl rfl, List.append_assoc,
      lexFrom_newline, List.append_assoc, lexFrom_quote, List.cons_append, lexFrom_mark rfl rfl,
      List.cons_append, lexFrom_space, List.append_assoc,
      lexFrom_dumpsIndented (level + 1) value wellFormed.2.1
        (delimited_indentedMoreEntries level entries rest),
      lexFrom_indentedMoreEntries level entries wellFormed.2.2 rest, map_append_tokens,
      map_cons_tokens, map_cons_tokens, map_cons_tokens]
    rfl

theorem lexFrom_indentedMoreItems (level : Nat) (items : List Value)
    (wellFormed : WellFormedItems items) (rest : List Char) :
    lexFrom .outside (indentedMoreItems level items ++ rest) =
      (lexFrom .outside rest).map (moreItemTokens items ++ ·) := by
  match items with
  | [] =>
    rw [indentedMoreItems, List.append_assoc, lexFrom_newline]
    exact lexFrom_mark rfl rfl rest
  | item :: items =>
    rw [indentedMoreItems, List.cons_append, lexFrom_mark rfl rfl, List.append_assoc,
      lexFrom_newline, List.append_assoc,
      lexFrom_dumpsIndented (level + 1) item wellFormed.1
        (delimited_indentedMoreItems level items rest),
      lexFrom_indentedMoreItems level items wellFormed.2 rest, map_append_tokens,
      map_cons_tokens]
    rfl

theorem lexFrom_indentedMoreEntries (level : Nat) (entries : List (String × Value))
    (wellFormed : WellFormedEntries entries) (rest : List Char) :
    lexFrom .outside (indentedMoreEntries level entries ++ rest) =
      (lexFrom .outside rest).map (moreEntryTokens entries ++ ·) := by
  match entries with
  | [] =>
    rw [indentedMoreEntries, List.append_assoc, lexFrom_newline]
    exact lexFrom_mark rfl rfl rest
  | (key, value) :: entries =>
    rw [indentedMoreEntries, List.cons_append, lexFrom_mark rfl rfl, List.append_assoc,
      lexFrom_newline, List.append_assoc, lexFrom_quote, List.cons_append, lexFrom_mark rfl rfl,
      List.cons_append, lexFrom_space, List.append_assoc,
      lexFrom_dumpsIndented (level + 1) value wellFormed.1
        (delimited_indentedMoreEntries level entries rest),
      lexFrom_indentedMoreEntries level entries wellFormed.2 rest, map_append_tokens,
      map_cons_tokens, map_cons_tokens, map_cons_tokens]
    rfl

end

theorem loads_dumpsIndented {value : Value} (wellFormed : WellFormed value) :
    loads (dumpsIndented 0 value) = some value := by
  have run := @lexFrom_dumpsIndented 0 value wellFormed [] (fun _ none => nomatch none)
  rw [List.append_nil] at run
  apply loads_of_lexFrom wellFormed
  rw [run]
  simp [lexFrom, Mode.finish]

theorem loads_dumpsIndented_line {value : Value} (wellFormed : WellFormed value) :
    loads (dumpsIndented 0 value ++ ['\n']) = some value := by
  have run := lexFrom_dumpsIndented 0 value wellFormed (delimited_newline 0 [])
  have ended : lexFrom .outside (newline 0 ++ []) = some [] := by
    rw [lexFrom_newline]
    simp [lexFrom, Mode.finish]
  rw [ended] at run
  apply loads_of_lexFrom wellFormed
  simpa [newline] using run

end FxToushi.Py.Json
