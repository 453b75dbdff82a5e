import StepFree.Datum.Key
import StepFree.Datum.Order
import StepFree.Tables.Categories
import StepFree.Tables.Vocabulary

/-! Overrides of tables. An override names categories and gives each a new list of texts, which replaces
the old one. Reading an override does not look at the table it is meant for. All names are checked
before any list, and all unknown names are reported together, in order. -/
namespace StepFree

abbrev Replacements (κ : Type) := List (κ × List String)

namespace Overrides

variable {κ : Type}

def category? (ofName? : String → Option κ) : Datum → Option κ
  | .text name => ofName? name
  | _ => none

def unknown (ofName? : String → Option κ) (names : List Datum) : List Datum :=
  Datum.distinct (names.filter fun d => (category? ofName? d).isNone)

def replacement (name : Datum) (k : κ) (values : Datum) : Except Fault (κ × List String) :=
  match values.collection? with
  | some items => .ok (k, items.map Datum.plain)
  | none => .error (.categoryNotList name.plain)

def read (title : String) (ofName? : String → Option κ) (d : Datum) :
    Except Fault (Replacements κ) := do
  let names ← d.setMembers
  match unknown ofName? names with
  | [] =>
    match d with
    | .dict entries =>
      (entries.filterMap fun e => (category? ofName? e.1).map (e, ·)).mapM fun (e, k) =>
        replacement e.1 k e.2
    | d => .error (.notMapping d.kind)
  | names =>
    match Datum.sort? names with
    | some sorted => .error (.unknownCategories title sorted)
    | none => .error .unordered

end Overrides

namespace Categories

def toDatum (t : Categories) : Datum :=
  .ofMembers (t.table.map fun row => (row.1, .ofTexts row.2))

def apply (t : Categories) (changes : Replacements Tier) : Categories :=
  changes.foldl (fun t c => t.replace c.1 c.2) t

def overriddenBy (t : Categories) (d : Datum) : Except Fault Categories :=
  (Overrides.read "TagCategoryTables" Tier.ofName? d).map t.apply

end Categories

namespace Vocabulary

def toDatum (p : Vocabulary) : Datum :=
  .ofMembers (p.table.map fun row => (row.1, .ofTexts row.2))

def apply (p : Vocabulary) (changes : Replacements Term) : Vocabulary :=
  changes.foldl (fun p c => p.replace c.1 c.2) p

def overriddenBy (p : Vocabulary) (d : Datum) : Except Fault Vocabulary :=
  (Overrides.read "PedestrianDefaults" Term.ofName? d).map p.apply

end Vocabulary
end StepFree
