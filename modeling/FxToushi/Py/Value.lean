import FxToushi.Py.Number
import FxToushi.Py.Text

namespace FxToushi.Py

/-! # Configuration values

What a YAML or JSON document is read into, with the conversions the sources
apply to values of unknown shape.  A float carries the text `str` gives it,
which tells the not-a-number and the infinities.
-/

/-- An exception by its class; the sources never tell the `other` ones apart. -/
inductive PyError where
  | typeError
  | valueError
  | attributeError
  | zeroDivision
  | other (name : String)
deriving Repr, DecidableEq

def overflowError : PyError := .other "OverflowError"

inductive Value where
  | null
  | bool (value : Bool)
  | int (value : Int)
  | float (value : Rat) (text : String)
  | str (text : String)
  | list (items : List Value)
  | map (entries : List (String × Value))

abbrev Mapping := List (String × Value)

def Mapping.get? (mapping : Mapping) (key : String) : Option Value :=
  (mapping.find? (fun entry => entry.1 == key)).map Prod.snd

def Mapping.set (mapping : Mapping) (key : String) (value : Value) : Mapping :=
  match mapping with
  | [] => [(key, value)]
  | entry :: rest =>
    if entry.1 = key then (key, value) :: rest else entry :: Mapping.set rest key value

/-- `get(key)`, where a `None` counts as absent. -/
def Mapping.given? (mapping : Mapping) (key : String) : Option Value :=
  match mapping.get? key with
  | some .null => none
  | found => found

/-- The zeros of the decimal digits; the other nine of each follow it. -/
def decimalZeros : List Nat :=
  [0x30, 0x660, 0x6f0, 0x7c0, 0x966, 0x9e6, 0xa66, 0xae6, 0xb66, 0xbe6, 0xc66, 0xce6, 0xd66, 0xde6,
    0xe50, 0xed0, 0xf20, 0x1040, 0x1090, 0x17e0, 0x1810, 0x1946, 0x19d0, 0x1a80, 0x1a90, 0x1b50,
    0x1bb0, 0x1c40, 0x1c50, 0xa620, 0xa8d0, 0xa900, 0xa9d0, 0xa9f0, 0xaa50, 0xabf0, 0xff10, 0x104a0,
    0x10d30, 0x11066, 0x110f0, 0x11136, 0x111d0, 0x112f0, 0x11450, 0x114d0, 0x11650, 0x116c0,
    0x11730, 0x118e0, 0x11950, 0x11c50, 0x11d50, 0x11da0, 0x11f50, 0x16a60, 0x16ac0, 0x16b50,
    0x1d7ce, 0x1d7d8, 0x1d7e2, 0x1d7ec, 0x1d7f6, 0x1e140, 0x1e2f0, 0x1e4f0, 0x1e950, 0x1fbf0]

/-- The value of a decimal digit of any script. -/
def decimal? (char : Char) : Option Nat :=
  (decimalZeros.find? fun first => first ≤ char.toNat && char.toNat < first + 10).map fun first =>
    char.toNat - first

def isDecimal (char : Char) : Bool := (decimal? char).isSome

def digitsFrom (seen : Nat) : List Char → Option Nat
  | [] => some seen
  | ['_'] => none
  | '_' :: char :: rest => (decimal? char).bind fun digit => digitsFrom (seen * 10 + digit) rest
  | char :: rest => (decimal? char).bind fun digit => digitsFrom (seen * 10 + digit) rest

def digits? : List Char → Option Nat
  | [] => none
  | '_' :: _ => none
  | chars => digitsFrom 0 chars

/-- The white space around a number; `strip` drops the separators U+001C to U+001F too. -/
def isNumberSpace (char : Char) : Bool :=
  isSpace char && !(28 ≤ char.toNat && char.toNat ≤ 31)

def numberChars (text : String) : List Char :=
  (text.toList.dropWhile isNumberSpace).rdropWhile isNumberSpace

def splitSign : List Char → Int × List Char
  | '-' :: rest => (-1, rest)
  | '+' :: rest => (1, rest)
  | chars => (1, chars)

/-- `int(text)`, with `none` for a `ValueError`. -/
def parseInt? (text : String) : Option Int :=
  let (sign, chars) := splitSign (numberChars text)
  (digits? chars).map (fun value => sign * value)

def mantissa? (chars : List Char) : Option Rat :=
  let whole := chars.takeWhile (· ≠ '.')
  let rest := chars.dropWhile (· ≠ '.')
  match whole, rest with
  | _, [] => (digits? whole).map (fun value => (value : Rat))
  | [], _ :: part => (digits? part).map (fun value => (value : Rat) / 10 ^ part.countP isDecimal)
  | _, ['.'] => (digits? whole).map (fun value => (value : Rat))
  | _, _ :: part => do
      let value ← digits? whole
      let fraction ← digits? part
      return (value : Rat) + (fraction : Rat) / 10 ^ part.countP isDecimal

/-- `float(text)` of a finite number, with `none` for a `ValueError`. -/
def parseFloat? (text : String) : Option Rat := do
  let (sign, chars) := splitSign (numberChars text)
  let isExponent := fun char : Char => char == 'e' || char == 'E'
  let mantissa ← mantissa? (chars.takeWhile (fun char => !isExponent char))
  match chars.dropWhile (fun char => !isExponent char) with
  | [] => return sign * mantissa
  | _ :: exponent =>
    let (direction, digits) := splitSign exponent
    let size ← digits? digits
    return sign * (if 0 < direction then mantissa * 10 ^ size else mantissa / 10 ^ size)

/-- `repr` of a string, without the escapes of characters that do not print. -/
def reprText (text : String) : String :=
  let quote := if text.toList.contains '\'' && !text.toList.contains '"' then '"' else '\''
  let escape := fun char : Char =>
    if char = '\\' then ['\\', '\\']
    else if char = quote then ['\\', quote]
    else if char = '\n' then ['\\', 'n']
    else if char = '\r' then ['\\', 'r']
    else if char = '\t' then ['\\', 't']
    else [char]
  String.ofList (quote :: text.toList.flatMap escape ++ [quote])

namespace Value

mutual

def repr : Value → String
  | .null => "None"
  | .bool value => if value then "True" else "False"
  | .int value => toString value
  | .float _ text => text
  | .str text => reprText text
  | .list items => "[" ++ ", ".intercalate (reprItems items) ++ "]"
  | .map entries => "\x7b" ++ ", ".intercalate (reprEntries entries) ++ "\x7d"

def reprItems : List Value → List String
  | [] => []
  | item :: rest => repr item :: reprItems rest

def reprEntries : List (String × Value) → List String
  | [] => []
  | (key, value) :: rest => (reprText key ++ ": " ++ repr value) :: reprEntries rest

end

def text : Value → String
  | .str text => text
  | value => value.repr

/-- The texts of the not-a-number and the infinities. -/
def specialFloats : List String := ["nan", "inf", "-inf"]

/-- A float that is no number, or infinite, is true. -/
def truth : Value → Bool
  | .null => false
  | .bool value => value
  | .int value => value != 0
  | .float value text => value != 0 || specialFloats.contains text
  | .str text => text != ""
  | .list items => !items.isEmpty
  | .map entries => !entries.isEmpty

/-- `int(value)`, with `none` for an exception. -/
def toInt? : Value → Option Int
  | .bool value => some (if value then 1 else 0)
  | .int value => some value
  | .float value text => if specialFloats.contains text then none else some (truncate value)
  | .str text => parseInt? text
  | _ => none

/-- `int(value)`. -/
def toInt (value : Value) : Except PyError Int :=
  match value.toInt? with
  | some number => .ok number
  | none => .error (match value with
      | .str _ => .valueError
      | .float _ text => if text = "nan" then .valueError else overflowError
      | _ => .typeError)

def mapping? : Value → Option Mapping
  | .map entries => some entries
  | _ => none

def asMapping : Value → Mapping
  | .map entries => entries
  | _ => []

end Value

def orValue (left right : Value) : Value := if left.truth then left else right

def iterate : Value → Except PyError (List Value)
  | .list items => .ok items
  | .str text => .ok (text.toList.map (fun char => .str (String.ofList [char])))
  | .map entries => .ok (entries.map (fun entry => .str entry.1))
  | _ => .error .typeError

end FxToushi.Py
