import FxToushi.Py.Value

namespace FxToushi.Py

/-! # JSON documents

`json.dumps` without ASCII escapes and `json.loads`.  Reading goes through
tokens: the marks of containers, and the scalars between them.  A float keeps
the text it was written as, and a text with half of a surrogate pair, which no
text here can hold, does not load.
-/

namespace Json

/-! ## Writing -/

def hexDigit (value : Nat) : Char :=
  Char.ofNat (if value < 10 then '0'.toNat + value else 'a'.toNat + (value - 10))

/-- A character in a text: the control characters, the quote and the backslash
are escaped. -/
def escape (char : Char) : List Char :=
  if char = '"' then ['\\', '"']
  else if char = '\\' then ['\\', '\\']
  else if char = '\n' then ['\\', 'n']
  else if char = '\r' then ['\\', 'r']
  else if char = '\t' then ['\\', 't']
  else if char = '\u0008' then ['\\', 'b']
  else if char = '\u000c' then ['\\', 'f']
  else if char.toNat < 32 then
    ['\\', 'u', '0', '0', hexDigit (char.toNat / 16), hexDigit (char.toNat % 16)]
  else [char]

def quote (text : String) : List Char := '"' :: (text.toList.flatMap escape ++ ['"'])

/-- `float.__repr__`, with the names JSON readers know for the special values. -/
def floatText (text : String) : List Char :=
  if text = "nan" then "NaN".toList
  else if text = "inf" then "Infinity".toList
  else if text = "-inf" then "-Infinity".toList
  else text.toList

/-- What follows a separator: a blank, unless the separators are compact. -/
def gap (spaced : Bool) : List Char := if spaced then [' '] else []

mutual

/-- `json.dumps(value, ensure_ascii=False)`, with the default separators or the
compact ones. -/
def dumps (spaced : Bool) : Value → List Char
  | .null => "null".toList
  | .bool value => if value then "true".toList else "false".toList
  | .int value => (toString value).toList
  | .float _ text => floatText text
  | .str text => quote text
  | .list items => '[' :: dumpsItems spaced items
  | .map entries => '\x7b' :: dumpsEntries spaced entries

def dumpsItems (spaced : Bool) : List Value → List Char
  | [] => [']']
  | item :: rest => dumps spaced item ++ dumpsMoreItems spaced rest

def dumpsMoreItems (spaced : Bool) : List Value → List Char
  | [] => [']']
  | item :: rest => ',' :: (gap spaced ++ (dumps spaced item ++ dumpsMoreItems spaced rest))

def dumpsEntries (spaced : Bool) : List (String × Value) → List Char
  | [] => ['\x7d']
  | (key, value) :: rest =>
    quote key ++ ':' :: (gap spaced ++ (dumps spaced value ++ dumpsMoreEntries spaced rest))

def dumpsMoreEntries (spaced : Bool) : List (String × Value) → List Char
  | [] => ['\x7d']
  | (key, value) :: rest =>
    ',' :: (gap spaced ++ (quote key ++ ':' :: (gap spaced ++
      (dumps spaced value ++ dumpsMoreEntries spaced rest))))

end

/-! ## Tokens -/

inductive Token where
  | mark (char : Char)
  | scalar (value : Value)

def isWhitespace (char : Char) : Bool := [' ', '\t', '\n', '\r'].contains char

def isMark (char : Char) : Bool := ['[', ']', '\x7b', '\x7d', ',', ':'].contains char

/-- The characters of numbers and of the named constants. -/
def isBare (char : Char) : Bool :=
  char.isDigit || ('a' ≤ char && char ≤ 'z') || ('A' ≤ char && char ≤ 'Z') ||
    char == '-' || char == '+' || char == '.'

def exponent : List Char → Bool
  | [] => true
  | char :: rest =>
    let digits := match rest with
      | '+' :: digits => digits
      | '-' :: digits => digits
      | digits => digits
    (char == 'e' || char == 'E') && !digits.isEmpty && digits.all Char.isDigit

def fraction : List Char → Bool
  | '.' :: rest =>
    !(rest.takeWhile Char.isDigit).isEmpty && exponent (rest.dropWhile Char.isDigit)
  | rest => exponent rest

def wholeNumber (digits : List Char) : Bool := digits == ['0'] || digits.head?.any (· != '0')

def number? (chars : List Char) : Option Value :=
  let (sign, unsigned) : Int × List Char := match chars with
    | '-' :: rest => (-1, rest)
    | chars => (1, chars)
  let whole := unsigned.takeWhile Char.isDigit
  let rest := unsigned.dropWhile Char.isDigit
  if wholeNumber whole then
    if rest.isEmpty then some (.int (sign * Nat.ofDigitChars 10 whole 0))
    else if fraction rest then
      (parseFloat? (String.ofList chars)).map (fun value => .float value (String.ofList chars))
    else none
  else none

def bare? (chars : List Char) : Option Value :=
  if chars = "null".toList then some .null
  else if chars = "true".toList then some (.bool true)
  else if chars = "false".toList then some (.bool false)
  else if chars = "NaN".toList then some (.float 0 "nan")
  else if chars = "Infinity".toList then some (.float 0 "inf")
  else if chars = "-Infinity".toList then some (.float 0 "-inf")
  else number? chars

/-- What has been read of a token.  The characters seen are the last one first;
`hex` counts the digits of an escape and holds the first half of a pair. -/
inductive Mode where
  | outside
  | bare (seen : List Char)
  | string (seen : List Char)
  | escaped (seen : List Char)
  | hex (high : Option Nat) (seen : List Char) (count code : Nat)
  | paired (high : Nat) (seen : List Char)
  | pairedEscape (high : Nat) (seen : List Char)

def hexValue? (char : Char) : Option Nat :=
  if char.isDigit then some (char.toNat - '0'.toNat)
  else if 'a' ≤ char && char ≤ 'f' then some (char.toNat - 'a'.toNat + 10)
  else if 'A' ≤ char && char ≤ 'F' then some (char.toNat - 'A'.toNat + 10)
  else none

def unescape? (char : Char) : Option Char :=
  if char = '"' || char = '\\' || char = '/' then some char
  else if char = 'n' then some '\n'
  else if char = 'r' then some '\r'
  else if char = 't' then some '\t'
  else if char = 'b' then some '\u0008'
  else if char = 'f' then some '\u000c'
  else none

/-- The mode after the last digit of an escape. -/
def afterHex (high : Option Nat) (seen : List Char) (code : Nat) : Option Mode :=
  match high with
  | none =>
    if 0xd800 ≤ code ∧ code < 0xdc00 then some (.paired code seen)
    else if 0xdc00 ≤ code ∧ code < 0xe000 then none
    else some (.string (Char.ofNat code :: seen))
  | some high =>
    if 0xdc00 ≤ code ∧ code < 0xe000 then
      some (.string (Char.ofNat (0x10000 + (high - 0xd800) * 0x400 + (code - 0xdc00)) :: seen))
    else none

def stepOutside (char : Char) : Option (Mode × List Token) :=
  if isWhitespace char then some (.outside, [])
  else if isMark char then some (.outside, [.mark char])
  else if char = '"' then some (.string [], [])
  else if isBare char then some (.bare [char], [])
  else none

def Mode.step : Mode → Char → Option (Mode × List Token)
  | .outside, char => stepOutside char
  | .bare seen, char =>
    if isBare char then some (.bare (char :: seen), [])
    else do
      let value ← bare? seen.reverse
      let (next, tokens) ← stepOutside char
      return (next, .scalar value :: tokens)
  | .string seen, char =>
    if char = '"' then some (.outside, [.scalar (.str (String.ofList seen.reverse))])
    else if char = '\\' then some (.escaped seen, [])
    else if char.toNat < 32 then none
    else some (.string (char :: seen), [])
  | .escaped seen, char =>
    if char = 'u' then some (.hex none seen 0 0, [])
    else (unescape? char).map (fun plain => (.string (plain :: seen), []))
  | .hex high seen count code, char => do
      let digit ← hexValue? char
      if count < 3 then some (.hex high seen (count + 1) (code * 16 + digit), [])
      else (afterHex high seen (code * 16 + digit)).map (fun next => (next, []))
  | .paired high seen, char => if char = '\\' then some (.pairedEscape high seen, []) else none
  | .pairedEscape high seen, char =>
    if char = 'u' then some (.hex (some high) seen 0 0, []) else none

def Mode.finish : Mode → Option (List Token)
  | .outside => some []
  | .bare seen => (bare? seen.reverse).map (fun value => [.scalar value])
  | _ => none

def lexFrom (mode : Mode) : List Char → Option (List Token)
  | [] => mode.finish
  | char :: rest => do
      let (next, tokens) ← mode.step char
      let later ← lexFrom next rest
      return tokens ++ later

/-! ## Reading -/

/-- `dict(pairs)`: the last entry of a key stands at the place of the first. -/
def collect (pairs : List (String × Value)) : Mapping :=
  pairs.foldl (fun entries pair => Mapping.set entries pair.1 pair.2) []

mutual

def valueFrom : Nat → List Token → Option (Value × List Token)
  | 0, _ => none
  | _ + 1, .scalar value :: rest => some (value, rest)
  | fuel + 1, .mark '[' :: rest =>
    match rest with
    | .mark ']' :: rest => some (.list [], rest)
    | rest => (itemsFrom fuel rest).map (fun found => (.list found.1, found.2))
  | fuel + 1, .mark '\x7b' :: rest =>
    match rest with
    | .mark '\x7d' :: rest => some (.map [], rest)
    | rest => (entriesFrom fuel rest).map (fun found => (.map (collect found.1), found.2))
  | _ + 1, _ => none

def itemsFrom : Nat → List Token → Option (List Value × List Token)
  | 0, _ => none
  | fuel + 1, tokens => do
      let (item, rest) ← valueFrom fuel tokens
      match rest with
      | .mark ']' :: rest => some ([item], rest)
      | .mark ',' :: rest =>
        (itemsFrom fuel rest).map (fun found => (item :: found.1, found.2))
      | _ => none

def entriesFrom : Nat → List Token → Option (List (String × Value) × List Token)
  | fuel + 1, .scalar (.str key) :: .mark ':' :: tokens => do
      let (value, rest) ← valueFrom fuel tokens
      match rest with
      | .mark '\x7d' :: rest => some ([(key, value)], rest)
      | .mark ',' :: rest =>
        (entriesFrom fuel rest).map (fun found => ((key, value) :: found.1, found.2))
      | _ => none
  | _, _ => none

end

/-- `json.loads`, with no result where it raises. -/
def loads (text : List Char) : Option Value := do
  let tokens ← lexFrom .outside text
  match ← valueFrom tokens.length tokens with
  | (value, []) => some value
  | _ => none

end Json

end FxToushi.Py
