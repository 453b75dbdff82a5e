namespace StepFree

inductive Datum where
  | null
  | bool (b : Bool)
  | int (n : Int)
  | float (x : Float)
  | text (s : String)
  | list (items : List Datum)
  | tuple (items : List Datum)
  | set (items : List Datum)
  | dict (entries : List (Datum × Datum))
  deriving Inhabited

namespace Datum

def kind : Datum → String
  | .null => "NoneType"
  | .bool _ => "bool"
  | .int _ => "int"
  | .float _ => "float"
  | .text _ => "str"
  | .list _ => "list"
  | .tuple _ => "tuple"
  | .set _ => "set"
  | .dict _ => "dict"

/-- Whether a datum stands for nothing: null, false, a zero, or something empty. -/
def isFalsy : Datum → Bool
  | .null => true
  | .bool b => !b
  | .int n => n == 0
  | .float x => x == 0.0
  | .text s => s.isEmpty
  | .list items | .tuple items | .set items => items.isEmpty
  | .dict entries => entries.isEmpty

def elements? : Datum → Option (List Datum)
  | .list items | .tuple items | .set items => some items
  | .text s => some (s.toList.map fun c => .text c.toString)
  | .dict entries => some (entries.map Prod.fst)
  | _ => none

def collection? : Datum → Option (List Datum)
  | .list items | .tuple items | .set items => some items
  | _ => none

def ofTexts (l : List String) : Datum :=
  .list (l.map .text)

def ofMembers (members : List (String × Datum)) : Datum :=
  .dict (members.map fun m => (.text m.1, m.2))

end Datum
end StepFree
