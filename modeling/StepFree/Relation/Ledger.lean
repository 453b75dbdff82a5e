import StepFree.Datum.Key
import StepFree.Settings
import StepFree.Tags.Reading

/-! The bonus that a route relation gives to its members, and the bonuses of ways, by id. Recording keeps
the largest bonus of each id; nothing recorded is less than any bonus, so a first negative bonus stays
negative. An id that is no key cannot be recorded or asked for; members of a relation before such an id
stay recorded. -/
namespace StepFree

def preferredRoutes : ValueSet := .ofList ["hiking", "foot", "bicycle", "inline_skates"]

/-- The bonus of a relation. A walking route that is a ferry too counts as a walking route. -/
def Config.routeBonus (c : Config) (t : Tags) : Int :=
  if t.carriesAny "route" preferredRoutes then c.preferredRouteBonus
  else if t.carries "route" "ferry" then c.ferryRouteBonus
  else 0

def mergeBonus (previous : Option Int) (bonus : Int) : Int :=
  match previous with
  | none => bonus
  | some p => max p bonus

def Config.mergeRoute (c : Config) (previous : Option Int) (t : Tags) : Int :=
  mergeBonus previous (c.routeBonus t)

def largestBonus : List Int → Int
  | [] => 0
  | b :: r => r.foldl max b

structure Ledger where
  entries : List (Key × Int)
  deriving DecidableEq, Repr

namespace Ledger

def empty : Ledger := ⟨[]⟩

instance : Inhabited Ledger := ⟨empty⟩

def lookup (k : Key) : List (Key × Int) → Option Int
  | [] => none
  | e :: r => if e.1.same k then some e.2 else lookup k r

def merge (k : Key) (bonus : Int) : List (Key × Int) → List (Key × Int)
  | [] => [(k, bonus)]
  | e :: r => if e.1.same k then (e.1, max e.2 bonus) :: r else e :: merge k bonus r

def get? (l : Ledger) (k : Key) : Option Int :=
  lookup k l.entries

def record (l : Ledger) (k : Key) (bonus : Int) : Ledger :=
  ⟨merge k bonus l.entries⟩

def contains (l : Ledger) (k : Key) : Bool :=
  (l.get? k).isSome

def size (l : Ledger) : Nat :=
  l.entries.length

theorem lookup_merge (k j : Key) (bonus : Int) (l : List (Key × Int)) :
    lookup j (merge k bonus l) =
      if k.same j then some (mergeBonus (lookup k l) bonus) else lookup j l := by
  induction l with
  | nil => simp [merge, lookup, mergeBonus]
  | cons e r ih =>
    by_cases h : e.1.same k
    · have hk := (Key.same_iff.mp h).1
      by_cases hj : k.same j
      · simp [merge, lookup, hk, hj, hk ▸ h, mergeBonus]
      · simp [merge, lookup, hk, hj, hk ▸ h]
    · by_cases hj : e.1.same j
      · have hkj : ¬ k.same j := by
          intro hc
          have h₁ := Key.same_iff.mp hj
          have h₂ := Key.same_iff.mp hc
          exact h (Key.same_iff.mpr ⟨h₁.1.trans h₂.1.symm, h₁.2⟩)
        simp [merge, lookup, h, hj, hkj]
      · simp [merge, lookup, h, hj, ih]

theorem get?_record (l : Ledger) (k j : Key) (bonus : Int) :
    (l.record k bonus).get? j =
      if k.same j then some (mergeBonus (l.get? k) bonus) else l.get? j :=
  lookup_merge k j bonus l.entries

def recordAll (l : Ledger) (bonus : Int) : List Datum → Ledger × Option Fault
  | [] => (l, none)
  | d :: r =>
    match d.key with
    | .ok k => (l.record k bonus).recordAll bonus r
    | .error f => (l, some f)

/-- Scores a relation once and records its bonus for the members. Without tags that can be read, or
members that can be gone through, nothing is recorded. -/
def recordRoute (l : Ledger) (c : Config) (tags members : Datum) : Ledger × Except Fault Int :=
  match Tags.ofDatum tags, members.elements with
  | .error f, _ | .ok _, .error f => (l, .error f)
  | .ok t, .ok items =>
    match l.recordAll (c.routeBonus t) items with
    | (l, none) => (l, .ok (c.routeBonus t))
    | (l, some f) => (l, .error f)

def recordId (l : Ledger) (id : Datum) (bonus : Int) : Except Fault (Ledger × Int) := do
  let k ← id.key
  return (l.record k bonus, mergeBonus (l.get? k) bonus)

def find? (l : Ledger) (id : Datum) : Except Fault (Option Int) := do
  return l.get? (← id.key)

def containsId (l : Ledger) (id : Datum) : Except Fault Bool := do
  return l.contains (← id.key)

def idsOf (id : Datum) : List Datum :=
  id.collection?.getD [id]

def edgeBonus (l : Ledger) (id : Datum) : Except Fault Int := do
  let found ← (idsOf id).mapM fun d => return l.get? (← d.key)
  return largestBonus (found.filterMap fun b => b)

end Ledger
end StepFree
