import StepFree.Text.Basic

/-! Numerals and the doubles they stand for. The grammar: an optional sign, then `inf`, `infinity` or
`nan` in any case, or digits with an optional fraction (one side of the point may be empty) and an
optional exponent. A numeral is read exactly, as a whole number times a power of ten, and rounded
once. -/
namespace StepFree.Number

open StepFree.Text

inductive Numeral where
  | nan
  | infinite (negative : Bool)
  | decimal (negative : Bool) (digits : Nat) (exponent : Int)
  deriving DecidableEq, Repr

def Numeral.toFloat : Numeral → Float
  | .nan => 0.0 / 0.0
  | .infinite negative => if negative then -1.0 / 0.0 else 1.0 / 0.0
  | .decimal negative digits exponent =>
    let x := Float.ofScientific digits (decide (exponent < 0)) exponent.natAbs
    if negative then -x else x

def takeSign : List Char → Bool × List Char
  | '-' :: r => (true, r)
  | '+' :: r => (false, r)
  | r => (false, r)

def digitLimit : Nat := 4300

def digitsValue (digits : List Char) : Nat :=
  digits.foldl (fun n c => 10 * n + (c.toNat - '0'.toNat)) 0

def readExponent? : List Char → Option Int
  | [] => some 0
  | c :: r =>
    let (negative, digits) := takeSign r
    if (c = 'e' || c = 'E') && !digits.isEmpty && digits.all Char.isDigit then
      some (if negative then -(digitsValue digits : Int) else digitsValue digits)
    else none

def takeFraction : List Char → List Char × List Char
  | '.' :: r => (r.takeWhile Char.isDigit, r.dropWhile Char.isDigit)
  | r => ([], r)

def Numeral.ofChars? (s : List Char) : Option Numeral :=
  let (negative, body) := takeSign s
  let word := body.map Char.toLower
  if word = "inf".toList ∨ word = "infinity".toList then some (.infinite negative)
  else if word = "nan".toList then some .nan
  else
    let whole := body.takeWhile Char.isDigit
    let (fraction, rest) := takeFraction (body.dropWhile Char.isDigit)
    if whole.isEmpty && fraction.isEmpty then none
    else (readExponent? rest).map fun e =>
      .decimal negative (digitsValue (whole ++ fraction)) (e - fraction.length)

def startsWithDigit : List Char → Bool
  | [] => false
  | c :: _ => c.isDigit

/-- Drops underscores, each of which has to stand between two digits. The flag tells whether a digit
comes just before. -/
def dropSeparators? (afterDigit : Bool) : List Char → Option (List Char)
  | [] => some []
  | c :: r =>
    if c = '_' then
      if afterDigit && startsWithDigit r then dropSeparators? false r else none
    else (dropSeparators? c.isDigit r).map (c :: ·)

/-- The double a text stands for: a numeral between white space, with the decimal digits of any
script and single underscores between digits. -/
def parse? (s : List Char) : Option Float :=
  ((dropSeparators? false ((trimBy isWhiteSpace s).map asciiDigit)).bind Numeral.ofChars?).map
    Numeral.toFloat

end StepFree.Number
