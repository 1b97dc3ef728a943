import FxToushi.Data.Fallible
import FxToushi.Py.Extended

namespace FxToushi.Strategies

open Data Py

/-! # Reading allocation configuration

The coercions, the merge of nested sections and the templates of the
allocation module.
-/

/-- `_coerce_float` without its default: a number, or a text that reads as one. -/
def coerceFloat? : Value → Option Extended
  | .null => none
  | .bool value => some (.finite (if value then 1 else 0))
  | .int value => some (.finite value)
  | .float value text => some (.read value text)
  | value => floatOfText (strip value.text)

def coerceFloat (value : Option Value) (default : Extended) : Extended :=
  (coerceFloat? (value.getD .null)).getD default

/-- An integer that has no float, on which `_coerce_float` raises. -/
def oversized : Value → Bool
  | .int value => decide (floatLimit ≤ value.natAbs)
  | _ => false

/-- The values are coerced to floats one after another. -/
def requireFloats (values : List (Option Value)) : Except PyError Unit :=
  if values.any (fun value => value.any oversized) then .error overflowError
  else .ok ()

def FloatsFit (values : List (Option Value)) : Prop :=
  ∀ value ∈ values, value.any oversized = false

theorem floatsFit_cons {value : Option Value} {values : List (Option Value)} :
    FloatsFit (value :: values) ↔ FloatsFit [value] ∧ FloatsFit values := by simp [FloatsFit]

theorem requireFloats_ok_iff {values : List (Option Value)} :
    requireFloats values = .ok () ↔ FloatsFit values := by
  unfold requireFloats FloatsFit
  split
  · rename_i some
    refine iff_of_false (fun returned => nomatch returned) fun fit => ?_
    obtain ⟨value, member, large⟩ := List.any_eq_true.mp some
    rw [fit value member] at large
    cases large
  · rename_i none
    exact iff_of_true rfl fun value member => by
      simpa using List.any_eq_false.mp (by simpa using none) value member

theorem requireFloats_bind_iff {Result : Type} {values : List (Option Value)}
    {rest : Except PyError Result} {result : Result} :
    (requireFloats values >>= fun _ => rest) = .ok result ↔
      FloatsFit values ∧ rest = .ok result := by
  rw [bind_ok_iff, ← requireFloats_ok_iff]
  exact ⟨fun returned => returned.elim fun _ steps => steps, fun steps => ⟨(), steps⟩⟩

/-- A number that equals itself. -/
def coerceNumber? (value : Value) : Option Extended :=
  (coerceFloat? value).filter (fun number => !number.isNan)

/-- `_coerce_int` without its default.  A float is read from its text, which no
integer has. -/
def coerceInt? : Value → Option Int
  | .null => none
  | .bool value => some (if value then 1 else 0)
  | .int value => some value
  | value => parseInt? (strip value.text)

def coerceInt (value : Option Value) (default : Int) : Int :=
  (coerceInt? (value.getD .null)).getD default

def positiveIntOrNone (value : Option Value) : Option Int :=
  let parsed := coerceInt value 0
  if 0 < parsed then some parsed else none

def normalizeText (value : Value) : String :=
  match value with
  | .null => ""
  | value => lower (strip value.text)

mutual

/-- A value of the override: two mappings are merged, anything else replaces. -/
def mergeValue (old : Value) : Value → Value
  | .map entries =>
    match old with
    | .map base => .map (deepMerge base entries)
    | _ => .map entries
  | value => value

def deepMerge (base : Mapping) : List (String × Value) → Mapping
  | [] => base
  | (key, value) :: rest =>
    let merged := match base.get? key with
      | some old => mergeValue old value
      | none => value
    deepMerge (base.set key merged) rest

end

/-! ## Session ranges -/

def sessionRange? (item : String) : Option (Int × Int) :=
  match splitOnce '-' (strip item) with
  | none => none
  | some (left, right) =>
    let start := coerceInt (some (.str left)) (-1)
    let finish := coerceInt (some (.str right)) (-1)
    if 0 ≤ start ∧ start ≤ 23 ∧ 0 ≤ finish ∧ finish ≤ 23 then some (start, finish) else none

def parseSessionRanges (value : Value) : List (Int × Int) :=
  match value with
  | .str text => (sessionRange? text).toList
  | value =>
    match iterate value with
    | .ok items => items.filterMap (fun item => sessionRange? item.text)
    | .error _ => []

def hourInRanges (hour : Int) (ranges : List (Int × Int)) : Bool :=
  ranges.isEmpty || ranges.any fun range =>
    if range.1 ≤ range.2 then decide (range.1 ≤ hour ∧ hour ≤ range.2)
    else decide (range.1 ≤ hour ∨ hour ≤ range.2)

/-! ## Templates -/

/-- How a template fails: a field that is not known, which leaves the text as
it is, or an exception that is not caught. -/
inductive FormatError where
  | missing
  | raised (error : PyError)
deriving Repr, DecidableEq

/-- What `str.format` makes of a replacement field that is not a plain name,
given the symbol: an accessor, a conversion or a format specification. -/
abbrev FieldFormat := String → String → Except FormatError String

def isPlainField (field : String) : Bool :=
  field.toList.all (fun char => decide (char ∉ ['.', '[', '!', ':', '\x7b']))

def symbolField (symbol field : String) : Option String :=
  let chars := symbol.toList
  let isPair := decide (6 ≤ chars.length)
  let base := if isPair then upper (String.ofList (chars.take 3)) else symbol
  let quote := if isPair then upper (String.ofList ((chars.drop 3).take 3)) else ""
  if field = "symbol" then some symbol
  else if field = "symbol_lower" then some (lower symbol)
  else if field = "base" then some base
  else if field = "quote" then some quote
  else if field = "base_lower" then some (lower base)
  else if field = "quote_lower" then some (lower quote)
  else none

def formatField (fieldFormat : FieldFormat) (symbol field : String) :
    Except FormatError String :=
  if isPlainField field then
    match symbolField symbol field with
    | some value => .ok value
    | none => .error .missing
  else fieldFormat symbol field

/-- Text outside a field, or the field read so far with its open braces. -/
inductive FormatMode where
  | outside
  | inside (depth : Nat) (field : List Char)

def formatChars (fieldFormat : FieldFormat) (symbol : String) :
    FormatMode → List Char → Except FormatError (List Char)
  | .outside, [] => .ok []
  | .inside _ _, [] => .error (.raised .valueError)
  | .outside, '\x7b' :: '\x7b' :: rest => do
      return '\x7b' :: (← formatChars fieldFormat symbol .outside rest)
  | .outside, '\x7d' :: '\x7d' :: rest => do
      return '\x7d' :: (← formatChars fieldFormat symbol .outside rest)
  | .outside, char :: rest =>
    if char = '\x7b' then formatChars fieldFormat symbol (.inside 0 []) rest
    else if char = '\x7d' then .error (.raised .valueError)
    else do return char :: (← formatChars fieldFormat symbol .outside rest)
  | .inside depth field, char :: rest =>
    if char = '\x7b' then
      formatChars fieldFormat symbol (.inside (depth + 1) (field ++ [char])) rest
    else if char = '\x7d' then
      match depth with
      | 0 => do
          let value ← formatField fieldFormat symbol (String.ofList field)
          return value.toList ++ (← formatChars fieldFormat symbol .outside rest)
      | depth + 1 => formatChars fieldFormat symbol (.inside depth (field ++ [char])) rest
    else formatChars fieldFormat symbol (.inside depth (field ++ [char])) rest

def renderSymbolScopedValue (fieldFormat : FieldFormat) (value : String)
    (symbol : Option String) : Except PyError String :=
  let text := strip value
  match symbol with
  | none => .ok text
  | some symbol =>
    match formatChars fieldFormat symbol .outside text.toList with
    | .ok chars => .ok (String.ofList chars)
    | .error .missing => .ok text
    | .error (.raised error) => .error error

end FxToushi.Strategies
