import StepFree.Datum.Basic
import StepFree.Number.Numeral

/-! The tokens of JSON text. Beside the standard's numbers the words `NaN`, `Infinity` and `-Infinity`
are accepted. A number without fraction and exponent is an integer, which must not have too many
digits. Two escaped halves of a surrogate pair make one character; a half that stands alone is
replaced. -/
namespace StepFree.Json

open StepFree.Number

inductive Token where
  | openList
  | closeList
  | openObject
  | closeObject
  | comma
  | colon
  | leaf (d : Datum)
  /-- An integer with so many digits that it is refused. -/
  | oversized (digits : Nat)
  /-- The place from which on there is no token. -/
  | unreadable

def isSpace (c : Char) : Bool :=
  c = ' ' || c = '\t' || c = '\n' || c = '\r'

def hexDigit? (c : Char) : Option Nat :=
  if c.isDigit then some (c.toNat - '0'.toNat)
  else if 'a' ≤ c && c ≤ 'f' then some (c.toNat - 'a'.toNat + 10)
  else if 'A' ≤ c && c ≤ 'F' then some (c.toNat - 'A'.toNat + 10)
  else none

def hexUnit? (a b c d : Char) : Option Nat := do
  return 4096 * (← hexDigit? a) + 256 * (← hexDigit? b) + 16 * (← hexDigit? c) + (← hexDigit? d)

def escape? (c : Char) : Option Nat :=
  if c = '\x22' || c = '\\' || c = '/' then some c.toNat
  else if c = 'b' then some 0x08
  else if c = 'f' then some 0x0C
  else if c = 'n' then some 0x0A
  else if c = 'r' then some 0x0D
  else if c = 't' then some 0x09
  else none

def textUnits : List Char → Option (List Nat × List Char)
  | [] => none
  | '\x22' :: r => some ([], r)
  | '\\' :: 'u' :: a :: b :: c :: d :: r => do
    let unit ← hexUnit? a b c d
    let (units, rest) ← textUnits r
    return (unit :: units, rest)
  | '\\' :: c :: r => do
    let unit ← escape? c
    let (units, rest) ← textUnits r
    return (unit :: units, rest)
  | c :: r => do
    if c.toNat < 0x20 then none
    let (units, rest) ← textUnits r
    return (c.toNat :: units, rest)

def isHighHalf (n : Nat) : Bool := 0xD800 ≤ n && n < 0xDC00

def isLowHalf (n : Nat) : Bool := 0xDC00 ≤ n && n < 0xE000

def unitChar (n : Nat) : Char :=
  if isHighHalf n || isLowHalf n then '\ufffd' else Char.ofNat n

def joinUnits : List Nat → List Char
  | [] => []
  | a :: b :: r =>
    if isHighHalf a && isLowHalf b then
      Char.ofNat (0x10000 + (a - 0xD800) * 0x400 + (b - 0xDC00)) :: joinUnits r
    else unitChar a :: joinUnits (b :: r)
  | [a] => [unitChar a]

def takeWhole : List Char → List Char × List Char
  | '0' :: r => (['0'], r)
  | s => (s.takeWhile Char.isDigit, s.dropWhile Char.isDigit)

def takePoint : List Char → List Char × List Char
  | '.' :: r =>
    if startsWithDigit r then (r.takeWhile Char.isDigit, r.dropWhile Char.isDigit)
    else ([], '.' :: r)
  | s => ([], s)

def takePower : List Char → Option Int × List Char
  | [] => (none, [])
  | c :: r =>
    let (negative, s) := takeSign r
    if (c = 'e' || c = 'E') && startsWithDigit s then
      let n : Int := digitsValue (s.takeWhile Char.isDigit)
      (some (if negative then -n else n), s.dropWhile Char.isDigit)
    else (none, c :: r)

def number? (negative : Bool) (s : List Char) : Option (Token × List Char) :=
  let (whole, r) := takeWhole s
  let (fraction, r) := takePoint r
  let (power, r) := takePower r
  if whole.isEmpty then none
  else if fraction.isEmpty && power.isNone then
    let n : Int := digitsValue whole
    if digitLimit < whole.length then some (.oversized whole.length, r)
    else some (.leaf (.int (if negative then -n else n)), r)
  else
    let numeral := Numeral.decimal negative (digitsValue (whole ++ fraction))
      (power.getD 0 - fraction.length)
    some (.leaf (.float numeral.toFloat), r)

def words : List (String × Datum) := [
  ("null", .null), ("true", .bool true), ("false", .bool false),
  ("NaN", .float Numeral.nan.toFloat),
  ("Infinity", .float (Numeral.infinite false).toFloat),
  ("-Infinity", .float (Numeral.infinite true).toFloat)]

def word? (s : List Char) : Option (Token × List Char) :=
  words.findSome? fun (w, d) =>
    if w.toList.isPrefixOf s then some (.leaf d, s.drop w.length) else none

def token? : List Char → Option (Token × List Char)
  | [] => none
  | '[' :: r => some (.openList, r)
  | ']' :: r => some (.closeList, r)
  | '\x7b' :: r => some (.openObject, r)
  | '\x7d' :: r => some (.closeObject, r)
  | ',' :: r => some (.comma, r)
  | ':' :: r => some (.colon, r)
  | '\x22' :: r =>
    (textUnits r).map fun (units, rest) => (.leaf (.text (String.ofList (joinUnits units))), rest)
  | c :: r =>
    match word? (c :: r) with
    | some found => some found
    | none => if c = '-' then number? true r else number? false (c :: r)

/-- Reads all tokens up to the end or to what is no token. Every token takes at least one character, so
as many rounds as there are characters are enough. -/
def tokens : Nat → List Char → List Token
  | rounds, s =>
    match s.dropWhile isSpace with
    | [] => []
    | s' =>
      match rounds with
      | 0 => [.unreadable]
      | n + 1 =>
        match token? s' with
        | none => [.unreadable]
        | some (t, r) => t :: tokens n r

end StepFree.Json
