import StepFree.Datum.Basic
import StepFree.Fault
import StepFree.Number.Basic

/-! Data as keys. Two data are one key if they are equal as numbers, texts or, member by member, as
tuples; a truth value counts as the number 0 or 1. Lists, sets and mappings are no keys. A key that
holds something that is not a number equals no key, not even itself. -/
namespace StepFree

open StepFree.Number

/-- A tuple is the chain of its members. -/
inductive Key where
  | null
  | whole (n : Int)
  | real (x : Exact)
  | text (s : String)
  | unit
  | pair (head tail : Key)
  deriving DecidableEq, Repr

namespace Key

def isDefinite : Key → Bool
  | .real .nan => false
  | .pair head tail => head.isDefinite && tail.isDefinite
  | _ => true

def same (a b : Key) : Bool :=
  a = b && a.isDefinite

theorem same_iff {a b : Key} : a.same b = true ↔ a = b ∧ a.isDefinite = true := by
  simp [same]

end Key

namespace Datum

def numberKey (x : Float) : Key :=
  match toInt? x with
  | some n => .whole n
  | none => .real (Exact.ofFloat x)

mutual

def key? : Datum → Option Key
  | .null => some .null
  | .bool b => some (.whole (if b then 1 else 0))
  | .int n => some (.whole n)
  | .float x => some (numberKey x)
  | .text s => some (.text s)
  | .tuple items => chain? items
  | .list _ | .set _ | .dict _ => none

def chain? : List Datum → Option Key
  | [] => some .unit
  | d :: r =>
    match d.key?, chain? r with
    | some head, some tail => some (.pair head tail)
    | _, _ => none

end

def sameKey (a b : Datum) : Bool :=
  match a.key?, b.key? with
  | some j, some k => j.same k
  | _, _ => false

/-- Enters a value under a key: an equal key keeps its place and spelling and gets the new value. -/
def enter (entries : List (Datum × Datum)) (key value : Datum) : List (Datum × Datum) :=
  if entries.any (·.1.sameKey key) then
    entries.map fun e => if e.1.sameKey key then (e.1, value) else e
  else entries ++ [(key, value)]

def ofPairs (pairs : List (Datum × Datum)) : Datum :=
  .dict (pairs.foldl (fun entries e => enter entries e.1 e.2) [])

def distinct (items : List Datum) : List Datum :=
  items.foldl (fun seen d => if seen.any (·.sameKey d) then seen else seen ++ [d]) []

def key (d : Datum) : Except Fault Key :=
  match d.key? with
  | some k => .ok k
  | none => .error (.noKey d.kind)

def elements (d : Datum) : Except Fault (List Datum) :=
  match d.elements? with
  | some items => .ok items
  | none => .error (.notIterable d.kind)

/-- The members of a datum as a set has them: each of them has to be a key. -/
def setMembers (d : Datum) : Except Fault (List Datum) := do
  let items ← d.elements
  match d with
  | .set _ => return items
  | _ =>
    items.forM fun item => discard item.key
    return items

end Datum
end StepFree
