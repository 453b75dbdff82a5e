import StepFree.Datum.Basic
import StepFree.Fault
import StepFree.Number.Basic
import StepFree.Number.Numeral

/-! Reading the members of a configuration. A field takes more than its own kind of datum: a float field
takes integers, truth values and numerals, an integer field takes truth values, whole floats and
integer numerals, and a truth field takes 0, 1 and the usual words in any case. -/
namespace StepFree

open StepFree.Number StepFree.Text

namespace Member

/-- The text without underscores, if it has some and each stands alone inside the text. -/
def withoutUnderscores? (s : List Char) : Option (List Char) :=
  if s.contains '_' && s.head? != some '_' && s.getLast? != some '_' &&
      !occursTwice s then some (s.filter (· ≠ '_'))
  else none
where
  occursTwice : List Char → Bool
    | '_' :: '_' :: _ => true
    | _ :: r => occursTwice r
    | [] => false

def floatOfChars? (s : List Char) : Option Float :=
  let numeral? :=
    match Numeral.ofChars? (trimBy isWhiteSpace s) with
    | some n => some n
    | none => (withoutUnderscores? s).bind Numeral.ofChars?
  numeral?.map Numeral.toFloat

def float : Datum → Except MemberProblem Float
  | .float x => .ok x
  | .bool b => .ok (if b then 1.0 else 0.0)
  | .int n => (ofInt? n).elim (.error .noFloat) .ok
  | .text s => (floatOfChars? s.toList).elim (.error .malformedFloat) .ok
  | _ => .error .noFloat

def positiveFloat (d : Datum) : Except MemberProblem Float := do
  let x ← float d
  if 0.0 < x then .ok x else .error .notPositive

def takeMinus : List Char → Bool × List Char
  | '-' :: r => (true, r)
  | s => (false, s)

/-- Whether a text starts as an integer without leading zeros that has too many digits. -/
def isOversized (s : List Char) : Bool :=
  let body := (takeMinus s).2
  body.head? != some '0' && digitLimit < (body.takeWhile Char.isDigit).length

def plainInt? (s : List Char) : Option Int :=
  let (negative, digits) := takeMinus s
  if digits.isEmpty || !digits.all Char.isDigit || digitLimit < digits.length ||
      digits.head? == some '0' && digits.length != 1 then none
  else
    let n : Int := digitsValue digits
    some (if negative then -n else n)

/-- Goes on behind a zero or an underscore, which stays if the text ends or a point follows. Behind zeros
a minus sign may stand. -/
def dropZeros? (last : Char) : List Char → Option (List Char)
  | [] => some [last]
  | c :: r =>
    if c = '0' || c = '_' then dropZeros? c r
    else if c = '.' then some (last :: c :: r)
    else if c.isDigit || c = '-' then some (c :: r)
    else none

def withoutLeadingZeros? : List Char → Option (List Char)
  | [] => none
  | c :: r =>
    if c = '0' then dropZeros? c r
    else if c.isDigit then some (c :: r)
    else none

def withoutZeroFraction (s : List Char) : List Char :=
  let fraction := (s.dropWhile (· ≠ '.')).drop 1
  if !fraction.isEmpty && fraction.all (· = '0') then s.takeWhile (· ≠ '.') else s

/-- The plain spelling of an integer: without white space around it, plus sign, leading zeros behind the
sign, fraction of zeros and single underscores. -/
def plainSpelling? (s : List Char) : Option (List Char) := do
  let (negative, body) := takeSign (trimBy isWhiteSpace s)
  let digits := withoutZeroFraction (← withoutLeadingZeros? body)
  let digits := (withoutUnderscores? digits).getD digits
  return if negative then '-' :: digits else digits

def intOfChars (s : List Char) : Except MemberProblem Int :=
  if isOversized s then .error .oversizedInt
  else
    match plainInt? s with
    | some n => .ok n
    | none => ((plainSpelling? s).bind plainInt?).elim (.error .malformedInt) .ok

def intOfFloat (x : Float) : Except MemberProblem Int :=
  if !x.isFinite then .error .unboundedInt
  else
    match toInt? x with
    | none => .error .fractionalInt
    | some n => if n.natAbs < Nat.pow 2 63 then .ok n else .error .oversizedInt

def int : Datum → Except MemberProblem Int
  | .int n => .ok n
  | .bool b => .ok (if b then 1 else 0)
  | .float x => intOfFloat x
  | .text s => intOfChars s.toList
  | _ => .error .noInt

def trueWords : List String := ["1", "t", "y", "on", "yes", "true"]

def falseWords : List String := ["0", "f", "n", "no", "off", "false"]

/-- The integers 0 and 1 are truth values; others are wrong values of the right kind, as far as they fit
into a signed word of 64 bits. -/
def boolOfInt (n : Int) : Except MemberProblem Bool :=
  if n = 1 then .ok true
  else if n = 0 then .ok false
  else if -Nat.pow 2 63 ≤ n ∧ n < Nat.pow 2 63 then .error .malformedBool
  else .error .noBool

def bool : Datum → Except MemberProblem Bool
  | .bool b => .ok b
  | .int n => boolOfInt n
  | .float x =>
    match intOfFloat x with
    | .ok n => boolOfInt n
    | .error _ => .error .noBool
  | .text s =>
    let word := String.ofList (s.toList.map Char.toLower)
    if trueWords.contains word then .ok true
    else if falseWords.contains word then .ok false
    else .error .malformedBool
  | _ => .error .noBool

end Member
end StepFree
