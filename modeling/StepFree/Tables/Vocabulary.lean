import StepFree.ValueSet

namespace StepFree

structure Vocabulary where
  restrictionKeys : List String
  intended : ValueSet
  restricted : ValueSet
  usableSidewalk : ValueSet
  noSidewalk : ValueSet
  ferryRoutes : ValueSet
  deriving DecidableEq

inductive Term where
  | restrictionKeys
  | intended
  | restricted
  | usableSidewalk
  | noSidewalk
  | ferryRoutes
  deriving DecidableEq, Repr

namespace Term

def all : List Term := [
  .restrictionKeys, .intended, .restricted, .usableSidewalk, .noSidewalk, .ferryRoutes]

theorem mem_all (k : Term) : k ∈ all := by
  cases k <;> decide

def name : Term → String
  | .restrictionKeys => "restriction_keys"
  | .intended => "intended_values"
  | .restricted => "restricted_values"
  | .usableSidewalk => "usable_sidewalk_values"
  | .noSidewalk => "no_sidewalk_values"
  | .ferryRoutes => "ferry_routes"

def ofName? (s : String) : Option Term :=
  all.find? (·.name = s)

end Term

namespace Vocabulary

def standard : Vocabulary where
  restrictionKeys := ["foot", "access", "wheelchair"]
  intended := .ofList ["yes", "designated", "official", "permissive", "limited"]
  restricted := .ofList ["private", "no", "restricted", "military", "emergency"]
  usableSidewalk := .ofList ["yes", "both", "left", "right"]
  noSidewalk := .ofList ["no", "none", "separate"]
  ferryRoutes := .ofList ["ferry", "shuttle_train"]

instance : Inhabited Vocabulary := ⟨standard⟩

def replace (p : Vocabulary) (k : Term) (values : List String) : Vocabulary :=
  match k with
  | .restrictionKeys => { p with restrictionKeys := values }
  | .intended => { p with intended := .ofList values }
  | .restricted => { p with restricted := .ofList values }
  | .usableSidewalk => { p with usableSidewalk := .ofList values }
  | .noSidewalk => { p with noSidewalk := .ofList values }
  | .ferryRoutes => { p with ferryRoutes := .ofList values }

def texts (p : Vocabulary) : Term → List String
  | .restrictionKeys => p.restrictionKeys
  | .intended => p.intended.members
  | .restricted => p.restricted.members
  | .usableSidewalk => p.usableSidewalk.members
  | .noSidewalk => p.noSidewalk.members
  | .ferryRoutes => p.ferryRoutes.members

def table (p : Vocabulary) : List (String × List String) :=
  Term.all.map fun k => (k.name, p.texts k)

end Vocabulary
end StepFree
