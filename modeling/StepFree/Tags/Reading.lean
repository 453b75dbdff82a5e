import StepFree.Datum.Key
import StepFree.Tags.Basic
import StepFree.Text.Basic

/-! Tags from loose data. A tag value is one datum or a collection of data; nulls count for nothing, and
of the rest the text is taken without surrounding blanks. A key whose value yields no text is left
out, so it does not erase a value that an equal key had before. -/
namespace StepFree

open StepFree.Text

namespace Datum

def tagValues : Datum → List String
  | .null => []
  | .list items | .tuple items | .set items =>
    items.filterMap fun d =>
      match d with
      | .null => none
      | d => some (trim d.plain)
  | d => [trim d.plain]

end Datum

namespace Tags

def enter (t : Tags) (key value : Datum) : Tags :=
  match Values.ofList? value.tagValues with
  | none => t
  | some values => t.insert key.plain values

def ofEntries (entries : List (Datum × Datum)) : Tags :=
  entries.foldl (fun t e => t.enter e.1 e.2) empty

/-- Nothing and empty things are no tags at all; anything else has to be a mapping. -/
def ofDatum : Datum → Except Fault Tags
  | .dict entries => .ok (ofEntries entries)
  | d => if d.isFalsy then .ok empty else .error (.notMapping d.kind)

/-- The values of a key given as a datum. Only a text can be the key of a tag, but only a key may be
asked for. -/
def lookup (t : Tags) (key : Datum) : Except Fault (Option Values) := do
  discard key.key
  match key with
  | .text k => return t.find? k
  | _ => return none

/-- Whether a key has a certain value (a text) or a value of a collection. The collection is not
looked at if the key is absent. -/
def meets (t : Tags) (key accepted : Datum) : Except Fault Bool := do
  match ← t.lookup key with
  | none => return false
  | some values =>
    match accepted with
    | .text s => return values.toList.contains s
    | accepted =>
      let members ← accepted.setMembers
      return members.any fun d =>
        match d with
        | .text s => values.toList.contains s
        | _ => false

def anyMeets (t : Tags) (keys accepted : Datum) : Except Fault Bool := do
  (← keys.elements).anyM fun key => t.meets key accepted

/-- The keys that begin with a text or with one of several. Without keys there is nothing to compare,
so any start will do. -/
def keysFrom (t : Tags) (start : Datum) : Except Fault (List String) :=
  match start with
  | .text s => .ok (t.keysStarting s)
  | .tuple starts =>
    t.keys.filterM fun k => starts.anyM fun start =>
      match start with
      | .text s => .ok (s.toList.isPrefixOf k.toList)
      | d => .error (.noText d.kind)
  | d => if t.keys.isEmpty then .ok [] else .error (.noText d.kind)

def toDatum (t : Tags) : Datum :=
  .dict (t.joined.map fun (k, v) => (.text k, .text v))

def describe (t : Tags) : String :=
  "TagBag(" ++ t.toDatum.literal ++ ")"

end Tags

structure Tagged where
  id : Datum
  tags : Tags

end StepFree
