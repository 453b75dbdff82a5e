import StepFree.Datum.Key
import StepFree.Json.Token

/-! Reading JSON text. Objects keep the order of their members; of members with one name the last value
stands at the first place. The first flaw of a text is the one that is reported. -/
namespace StepFree.Json

inductive Flaw where
  | malformed
  /-- An integer with so many digits that it is refused. -/
  | oversized (digits : Nat)
  deriving DecidableEq, Repr

mutual

/-- Reads a value. `depth` bounds the nesting of calls. -/
def value (depth : Nat) (ts : List Token) : Except Flaw (Datum × List Token) :=
  match depth, ts with
  | 0, _ | _, [] => .error .malformed
  | n + 1, t :: r =>
    match t, r with
    | .leaf d, r => .ok (d, r)
    | .oversized digits, _ => .error (.oversized digits)
    | .openList, .closeList :: r => .ok (.list [], r)
    | .openList, r => (items n r).map fun (items, rest) => (.list items, rest)
    | .openObject, .closeObject :: r => .ok (.dict [], r)
    | .openObject, r => (members n r).map fun (members, rest) => (Datum.ofPairs members, rest)
    | _, _ => .error .malformed

def items (depth : Nat) (ts : List Token) : Except Flaw (List Datum × List Token) :=
  match depth with
  | 0 => .error .malformed
  | n + 1 => do
    let (d, r) ← value n ts
    match r with
    | .closeList :: r => return ([d], r)
    | .comma :: r =>
      let (ds, rest) ← items n r
      return (d :: ds, rest)
    | _ => .error .malformed

def members (depth : Nat) (ts : List Token) :
    Except Flaw (List (Datum × Datum) × List Token) :=
  match depth, ts with
  | n + 1, .leaf (.text name) :: .colon :: r => do
    let (d, r) ← value n r
    match r with
    | .closeObject :: r => return ([(.text name, d)], r)
    | .comma :: r =>
      let (ds, rest) ← members n r
      return ((.text name, d) :: ds, rest)
    | _ => .error .malformed
  | _, _ => .error .malformed

end

/-- Reads a text that holds one value and nothing else. No token is gone through by more than two
nested calls. -/
def read (s : String) : Except Flaw Datum := do
  let ts := tokens s.length s.toList
  match ← value (2 * ts.length + 1) ts with
  | (d, []) => return d
  | _ => .error .malformed

end StepFree.Json
