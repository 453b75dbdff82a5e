import StepFree.Profile.Basic
import StepFree.Tags.Reading

namespace StepFree

/-- Named data in the order in which they were first set. -/
abbrev Attributes := List (String × Datum)

namespace Attributes

def get? (a : Attributes) (name : String) : Option Datum :=
  (a.find? (·.1 = name)).map Prod.snd

def set (a : Attributes) (name : String) (value : Datum) : Attributes :=
  match a with
  | [] => [(name, value)]
  | e :: r => if e.1 = name then (name, value) :: r else e :: set r name value

def update (a b : Attributes) : Attributes :=
  b.foldl (fun a e => set a e.1 e.2) a

def ofDatum : Datum → Except Fault Attributes
  | .dict entries => .ok (entries.map fun e => (e.1.plain, e.2))
  | d => .error (.notMapping d.kind)

def access : String := "wheelchair_access"

def speed : String := "wheelchair_speed"

def priority : String := "wheelchair_priority"

def priorityFactor : String := "wheelchair_priority_factor"

def relationBonus : String := "wheelchair_relation_bonus"

def blocked : String := "wheelchair_blocked"

def results : List String :=
  [access, speed, priority, priorityFactor, relationBonus, blocked]

def nonTags : List String :=
  ["osmid", "length", "geometry", "x", "y", "street_count", "reversed", "travel_time",
    "speed_kph", "weight"] ++ results

def tagged (a : Attributes) : Tagged :=
  ⟨(get? a "osmid").getD .null,
    .ofEntries ((a.filter fun e => !nonTags.contains e.1).map fun e => (.text e.1, e.2))⟩

def ofWay (r : WayResult) : Attributes := [
  (access, .text r.verdict.name),
  (speed, (r.speed?.map Speed.datum).getD .null),
  (priority, (r.band?.map fun b => Datum.int b.value).getD .null),
  (priorityFactor, (r.band?.map fun b => Datum.float b.factor).getD .null),
  (relationBonus, .int r.relationBonus)]

def writeWay (a : Attributes) (r : WayResult) : Attributes :=
  update a (ofWay r)

def writeNode (a : Attributes) (isBlocked : Bool) : Attributes :=
  set a blocked (.bool isBlocked)

end Attributes
end StepFree
