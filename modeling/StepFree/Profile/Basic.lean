import StepFree.Node
import StepFree.Relation.Ledger
import StepFree.Tags.Reading
import StepFree.Way.Priority
import StepFree.Way.Speed

/-! A profile: the settings of all rules and the lookups. It classifies ways, nodes and relations. An
excluded way gets nothing more, a ferry gets its speed, and a routable way a speed and a band. The
relation bonus of a way travels beside its band and changes nothing else. -/
namespace StepFree

structure WayResult where
  access : AccessDecision
  speed? : Option Speed
  band? : Option Band
  relationBonus : Int
  deriving DecidableEq

namespace WayResult

def verdict (r : WayResult) : Verdict := r.access.verdict

def isOpen (r : WayResult) : Bool := !r.verdict.isExcluded

end WayResult

structure Profile where
  settings : Settings
  lookups : Lookups

namespace Profile

def name : String := "wheelchair"

def version : Nat := 2

def ofSettings (s : Settings) : Profile := ⟨s, .standard s.config⟩

instance : Inhabited Profile := ⟨ofSettings {}⟩

def describe (_ : Profile) : String :=
  "WheelchairProfile(name=" ++ Text.quoted name ++ ", version=" ++ toString version ++ ")"

variable (p : Profile) (t : Tags)

def speed (v : Verdict) : Except Fault Speed :=
  p.settings.speedFor t p.lookups.ferrySpeed v

def signals : Signals :=
  p.settings.signals p.lookups t

def wayResult (bonus : Int) : Except Fault WayResult :=
  let access := p.settings.decideAccess t
  match access.verdict with
  | .excluded => .ok ⟨access, none, none, bonus⟩
  | .ferry => (p.speed t .ferry).map fun x => ⟨access, some x, none, bonus⟩
  | .routable => (p.speed t .routable).map fun x => ⟨access, some x, some (p.signals t).band, bonus⟩

theorem wayResult_congr {p q : Profile} {t u : Tags}
    (access : p.settings.decideAccess t = q.settings.decideAccess u)
    (speed : p.speed t = q.speed u) (signals : p.signals t = q.signals u) (bonus : Int) :
    p.wayResult t bonus = q.wayResult u bonus := by
  rw [wayResult, wayResult, access, speed, signals]

def nodeDecision : NodeDecision :=
  p.settings.decideNode t

def relationBonus : Int :=
  p.settings.config.routeBonus t

def mergedBonus (previous : Option Int) : Int :=
  p.settings.config.mergeRoute previous t

def wayResultOf (tags : Datum) (bonus : Int) : Except Fault WayResult := do
  p.wayResult (← Tags.ofDatum tags) bonus

def nodeDecisionOf (tags : Datum) : Except Fault NodeDecision := do
  return p.nodeDecision (← Tags.ofDatum tags)

def relationBonusOf (tags : Datum) : Except Fault Int := do
  return p.relationBonus (← Tags.ofDatum tags)

end Profile
end StepFree
