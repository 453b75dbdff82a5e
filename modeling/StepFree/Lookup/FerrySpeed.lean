import StepFree.Fault
import StepFree.Number.Basic
import StepFree.Number.Numeral
import StepFree.Tags.Basic

/-! The speed of a ferry in km/h, from its duration and its distance. Waiting slows a trip by a fixed
factor; the speed is rounded to a whole number, a half to the even neighbour, and kept within
bounds. Without a usable trip, a very short ferry has the least speed and others a usual one. -/
namespace StepFree.FerrySpeed

open StepFree.Number

def waitingFactor : Float := 1.4

def unknownDurationSpeed : Float := 5.0

def shortTripSpeed : Float := 20.0

def longTripSpeed : Float := 30.0

def shortDistance : Float := 300.0

/-- A finite positive number from a tag value; anything else counts as 0. -/
def positiveNumber (value? : Option String) : Float :=
  match value?.bind fun s => parse? s.toList with
  | none => 0.0
  | some x => if x.isFinite && 0.0 < x then x else 0.0

def tripSpeed (hours metres : Float) : Float :=
  metres / 1000.0 / hours / waitingFactor

/-- Whether a trip has a speed that can be trusted. Durations in a wrong unit give absurdly slow trips. -/
def isUsable (hours metres : Float) : Bool :=
  0.0 < hours && 0.0 < metres && 0.01 < tripSpeed hours metres

def usual (bounds : Bounds) (hours metres : Float) : Float :=
  if hours == 0.0 then
    if 0.0 < metres && metres ≤ shortDistance then bounds.low
    else bounds.clamp unknownDurationSpeed
  else if 1.0 < hours then bounds.clamp longTripSpeed
  else bounds.clamp shortTripSpeed

def ofTrip (bounds : Bounds) (hours metres : Float) : Except Fault Float :=
  if isUsable hours metres then
    match nearestInt? (tripSpeed hours metres) with
    | none => .error .unboundedSpeed
    | some n => .ok (bounds.clamp (Float.ofInt n))
  else .ok (usual bounds hours metres)

def hours (t : Tags) : Float :=
  positiveNumber (t.first? "duration:seconds") / 3600.0

def metres (t : Tags) : Float :=
  positiveNumber (t.first? "estimated_distance")

def ofTags (bounds : Bounds) (t : Tags) : Except Fault Float :=
  ofTrip bounds (hours t) (metres t)

end StepFree.FerrySpeed
