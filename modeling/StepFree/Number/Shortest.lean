import StepFree.Number.Basic

/-! Shortest decimals. Among the decimals that read back as a given positive double, the one with
the fewest digits is chosen, and of those the one nearest to the double. The search is exact: the
double and the two ends of the interval that rounds to it are fractions of natural numbers. -/
namespace StepFree.Number

structure Decimal where
  digits : Nat
  exponent : Int
  deriving DecidableEq, Repr

structure Interval where
  low : Nat
  value : Nat
  high : Nat
  den : Nat
  closed : Bool
  deriving Repr

/-- All that rounds to `mantissa * 2 ^ exponent`. Just above a power of two the grid is half as wide
below as above; the ends belong to the interval if the mantissa is even. -/
def Interval.around (mantissa : Nat) (exponent : Int) : Interval :=
  let below := if mantissa = Nat.pow 2 52 ∧ -1074 < exponent then 1 else 2
  let up := Nat.pow 2 (exponent - 2).toNat
  let down := Nat.pow 2 (2 - exponent).toNat
  ⟨(4 * mantissa - below) * up, 4 * mantissa * up, (4 * mantissa + 2) * up, down, mantissa % 2 = 0⟩

/-- The place of the decimal point: `10 ^ (place - 1) ≤ value < 10 ^ place`. -/
def Interval.place (i : Interval) : Int :=
  if i.den ≤ i.value then (Nat.toDigits 10 (i.value / i.den)).length
  else 1 - (Nat.toDigits 10 (i.den / i.value)).length

def Interval.holds (i : Interval) (d : Decimal) : Bool :=
  let num := d.digits * Nat.pow 10 d.exponent.toNat * i.den
  let scale := Nat.pow 10 (-d.exponent).toNat
  if i.closed then i.low * scale ≤ num && num ≤ i.high * scale
  else i.low * scale < num && num < i.high * scale

def Interval.neighbours (i : Interval) (exponent : Int) : Decimal × Decimal :=
  let num := i.value * Nat.pow 10 (-exponent).toNat
  let unit := i.den * Nat.pow 10 exponent.toNat
  (⟨num / unit, exponent⟩, ⟨num / unit + 1, exponent⟩)

def Interval.prefersLower (i : Interval) (exponent : Int) : Bool :=
  let num := i.value * Nat.pow 10 (-exponent).toNat
  let unit := i.den * Nat.pow 10 exponent.toNat
  let r := num % unit
  2 * r < unit || (2 * r = unit && num / unit % 2 = 0)

def Interval.withDigits? (i : Interval) (count : Nat) : Option Decimal :=
  let exponent := i.place - count
  let (lower, upper) := i.neighbours exponent
  match i.holds lower, i.holds upper with
  | true, true => some (if i.prefersLower exponent then lower else upper)
  | true, false => some lower
  | false, true => some upper
  | false, false => none

/-- The shortest decimal that rounds to the positive number `mantissa * 2 ^ exponent`. Seventeen
digits are always enough. -/
def shortest (mantissa : Nat) (exponent : Int) : Decimal :=
  let i := Interval.around mantissa exponent
  ((List.range' 1 17).findSome? i.withDigits?).getD ⟨mantissa, 0⟩

end StepFree.Number
