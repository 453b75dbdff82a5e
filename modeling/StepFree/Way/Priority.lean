import StepFree.Lookup.Basic
import StepFree.Way.Access

namespace StepFree

inductive Band where
  | avoidAtAllCosts
  | reachDestination
  | avoidIfPossible
  | unchanged
  | prefer
  | veryNice
  | best
  deriving DecidableEq, Repr

namespace Band

def name : Band → String
  | .avoidAtAllCosts => "AVOID_AT_ALL_COSTS"
  | .reachDestination => "REACH_DEST"
  | .avoidIfPossible => "AVOID_IF_POSSIBLE"
  | .unchanged => "UNCHANGED"
  | .prefer => "PREFER"
  | .veryNice => "VERY_NICE"
  | .best => "BEST"

def value : Band → Nat
  | .avoidAtAllCosts => 1
  | .reachDestination => 2
  | .avoidIfPossible => 3
  | .unchanged => 4
  | .prefer => 5
  | .veryNice => 6
  | .best => 7

def factor (b : Band) : Float :=
  Float.ofNat b.value / Float.ofNat Band.best.value

def ofScore (score : Int) : Band :=
  if score ≤ -6 then .avoidAtAllCosts
  else if score ≤ -3 then .reachDestination
  else if score ≤ -1 then .avoidIfPossible
  else if score ≤ 0 then .unchanged
  else if score ≤ 2 then .prefer
  else if score ≤ 5 then .veryNice
  else .best

end Band

structure Signals where
  inFavour : Int := 0
  against : Int := 0
  deriving DecidableEq, Repr

namespace Signals

def score (f : Signals) : Int := f.inFavour - f.against

def band (f : Signals) : Band := .ofScore f.score

end Signals

def trunkHighways : ValueSet := .ofList ["trunk", "trunk_link"]

def primaryHighways : ValueSet := .ofList ["primary", "primary_link"]

def fastPenalty (speed : Float) : Int :=
  if 50.0 < speed then
    if 60.0 < speed then
      if 80.0 < speed then 3 else 2
    else 1
  else 0

def slowBonus (speed : Float) : Int :=
  if 0.0 < speed && speed ≤ 20.0 then 1 else 0

namespace Settings

variable (s : Settings) (t : Tags)

def roadPenalty : Int :=
  if s.highwayIn t .assumedAccessibleHighways then
    if t.carriesAny "highway" trunkHighways then 5
    else if t.carriesAny "highway" primaryHighways then 3
    else 1
  else 0

def builtForWalking : Bool :=
  s.highwayIn t .fullyAccessibleHighways && s.highwayIn t .urbanPedestrianHighways

def streetPenalty : Int :=
  if s.highwayIn t .fullyAccessibleHighways && !s.highwayIn t .urbanPedestrianHighways then 1
  else 0

/-- What speaks for walking counts once, for the strongest sign. -/
def footBonus : Int :=
  if s.builtForWalking t then 5
  else if s.usableSidewalk t then 5
  else if t.carries "foot" "designated" then 5
  else if s.intended t "foot" || t.carries "bicycle" "designated" then 2
  else 0

end Settings

/-- A way without any evidence that it is fit for walking has a penalty. -/
def evidencePenalty (sidewalk pedestrianized : Bool) : Int :=
  if !sidewalk && !pedestrianized then 2 else 0

namespace Settings

def signals (s : Settings) (l : Lookups) (t : Tags) : Signals where
  inFavour := slowBonus (l.maxSpeed t) + s.footBonus t
  against :=
    fastPenalty (l.maxSpeed t) + s.roadPenalty t + s.streetPenalty t +
      evidencePenalty (l.sidewalk t) (l.pedestrianized t)

end Settings
end StepFree
