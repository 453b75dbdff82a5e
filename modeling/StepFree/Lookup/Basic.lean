import StepFree.Lookup.FerrySpeed
import StepFree.Lookup.SpeedLimit
import StepFree.Settings
import StepFree.Tags.Basic

namespace StepFree

namespace Evidence

def sides : List String := ["left", "right", "both"]

def sidewalk (t : Tags) : Bool :=
  t.carriesAny "sidewalk" (.ofList sides) ||
    sides.any fun side => !(t.keysStarting ("sidewalk:" ++ side)).isEmpty

def pedestrianHighways : ValueSet :=
  .ofList ["living_street", "pedestrian", "footway", "path", "crossing", "track"]

def openedToFoot : ValueSet := .ofList ["yes", "designated"]

def pedestrianized (t : Tags) : Bool :=
  t.carriesAny "highway" pedestrianHighways || t.carries "public_transport" "platform" ||
    t.carries "railway" "platform" || t.carriesAny "foot" openedToFoot

end Evidence

/-- A speed in km/h: a measure, or a whole number that was fixed in advance. -/
inductive Speed where
  | measured (x : Float)
  | whole (n : Int)
  deriving DecidableEq

def Speed.datum : Speed → Datum
  | .measured x => .float x
  | .whole n => .int n

structure Lookups where
  maxSpeed : Tags → Float
  ferrySpeed : Tags → Except Fault Speed
  sidewalk : Tags → Bool
  pedestrianized : Tags → Bool

structure FixedAnswers where
  maxSpeed? : Option Float := none
  ferrySpeed? : Option Speed := none
  sidewalk? : Option Bool := none
  pedestrianized? : Option Bool := none

namespace Config

def speedBounds (c : Config) : Number.Bounds := ⟨c.minSpeed, c.maxSpeed⟩

def ferryBounds (c : Config) : Number.Bounds := ⟨c.ferryMinSpeed, c.ferryMaxSpeed⟩

end Config

namespace Lookups

def standard (c : Config) : Lookups where
  maxSpeed := SpeedLimit.ofTags
  ferrySpeed t := (FerrySpeed.ofTags c.ferryBounds t).map .measured
  sidewalk := Evidence.sidewalk
  pedestrianized := Evidence.pedestrianized

def fix (l : Lookups) (answers : FixedAnswers) : Lookups where
  maxSpeed := (answers.maxSpeed?.map fun x _ => x).getD l.maxSpeed
  ferrySpeed := (answers.ferrySpeed?.map fun x _ => .ok x).getD l.ferrySpeed
  sidewalk := (answers.sidewalk?.map fun b _ => b).getD l.sidewalk
  pedestrianized := (answers.pedestrianized?.map fun b _ => b).getD l.pedestrianized

end Lookups
end StepFree
