import StepFree.Number.Shortest

namespace StepFree.Number

structure Style where
  /-- Least and greatest power of ten of a leading digit that is written without an exponent. -/
  least : Int
  greatest : Int
  /-- What follows the digits of a number without a fraction. -/
  wholeMark : String
  /-- Least number of digits of an exponent. -/
  exponentWidth : Nat
  nan : String
  infinity : String

/-- Numbers from `1e-4` up to below `1e16` have the point in place and whole ones end in `.0`; others
have an exponent with a sign and at least two digits. -/
def Style.plain : Style := ⟨-4, 15, ".0", 2, "nan", "inf"⟩

def significant (digits : List Char) : List Char :=
  (digits.reverse.dropWhile (· = '0')).reverse

def Style.positional (style : Style) (digits : List Char) (place : Int) : List Char :=
  if place ≤ 0 then '0' :: '.' :: List.replicate (-place).toNat '0' ++ digits
  else
    let n := place.toNat
    if digits.length ≤ n then
      digits ++ List.replicate (n - digits.length) '0' ++ style.wholeMark.toList
    else digits.take n ++ '.' :: digits.drop n

def Style.scientific (style : Style) (digits : List Char) (power : Int) : List Char :=
  let head := digits.take 1
  let tail := digits.drop 1
  let exponent := Nat.toDigits 10 power.natAbs
  head ++ (if tail.isEmpty then [] else '.' :: tail) ++
    'e' :: (if power < 0 then '-' else '+') ::
      List.replicate (style.exponentWidth - exponent.length) '0' ++ exponent

def Style.decimal (style : Style) (d : Decimal) : List Char :=
  let all := Nat.toDigits 10 d.digits
  let place := d.exponent + all.length
  let digits := significant all
  if style.least < place && place ≤ style.greatest + 1 then style.positional digits place
  else style.scientific digits (place - 1)

def Style.write (style : Style) (x : Float) : String :=
  match Exact.ofFloat x with
  | .nan => style.nan
  | .infinite negative => (if negative then "-" else "") ++ style.infinity
  | .finite negative m e =>
    let digits := if m = 0 then '0' :: style.wholeMark.toList else style.decimal (shortest m e)
    (if negative then "-" else "") ++ String.ofList digits

def text (x : Float) : String :=
  Style.plain.write x

end StepFree.Number
