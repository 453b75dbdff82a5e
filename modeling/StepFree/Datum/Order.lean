import StepFree.Datum.Basic
import StepFree.Number.Basic

namespace StepFree

open StepFree.Number

namespace Number.Exact

def ofInt (n : Int) : Exact :=
  .finite (decide (n < 0)) n.natAbs 0

/-- A finite number as a multiple of `2 ^ floor`, for a `floor` not above its exponent. -/
def scaled (negative : Bool) (mantissa : Nat) (exponent floor : Int) : Int :=
  let n : Int := mantissa * Nat.pow 2 (exponent - floor).toNat
  if negative then -n else n

def order? : Exact → Exact → Option Ordering
  | .nan, _ | _, .nan => none
  | .infinite s, .infinite t => some (compare t s)
  | .infinite s, .finite .. => some (if s then .lt else .gt)
  | .finite .., .infinite t => some (if t then .gt else .lt)
  | .finite s m e, .finite t n f =>
    let floor := min e f
    some (compare (scaled s m e floor) (scaled t n f floor))

end Number.Exact

namespace Datum

def number? : Datum → Option Exact
  | .bool b => some (.ofInt (if b then 1 else 0))
  | .int n => some (.ofInt n)
  | .float x => some (.ofFloat x)
  | _ => none

mutual

def less? : Datum → Datum → Option Bool
  | .text s, .text t => some (s < t)
  | .tuple xs, .tuple ys | .list xs, .list ys => lessItems? xs ys
  | x, y =>
    match x.number?, y.number? with
    | some a, some b => some (a.order? b == some .lt)
    | _, _ => none

def lessItems? : List Datum → List Datum → Option Bool
  | [], ys => some (!ys.isEmpty)
  | _ :: _, [] => some false
  | x :: xs, y :: ys =>
    if equals x y then lessItems? xs ys else less? x y

def equals : Datum → Datum → Bool
  | .null, .null => true
  | .text s, .text t => s == t
  | .tuple xs, .tuple ys | .list xs, .list ys => equalItems xs ys
  | x, y =>
    match x.number?, y.number? with
    | some a, some b => a.order? b == some .eq
    | _, _ => false

def equalItems : List Datum → List Datum → Bool
  | [], [] => true
  | x :: xs, y :: ys => equals x y && equalItems xs ys
  | _, _ => false

end

/-- Puts a datum behind all members of a sorted list that it is not less than. -/
def insertSorted? (d : Datum) : List Datum → Option (List Datum)
  | [] => some [d]
  | x :: r => do
    if ← less? d x then return d :: x :: r
    else return x :: (← insertSorted? d r)

def sort? (items : List Datum) : Option (List Datum) :=
  items.foldlM (fun sorted d => insertSorted? d sorted) []

end Datum
end StepFree
