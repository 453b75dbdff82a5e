import StepFree.Lookup.Basic
import StepFree.Way.Access

/-! The travel speed of a way. From the mean speed on, factors are applied in a fixed order, each to the
rounded result of those before, and the outcome is kept within the bounds. A way that misses a
confirmed sidewalk is slowed down; pedestrian infrastructure and good surfaces speed it up. -/
namespace StepFree

namespace Settings

variable (s : Settings) (t : Tags)

def assumedFactors : List Float :=
  if s.highwayIn t .assumedAccessibleHighways && !s.usableSidewalk t then [0.8] else []

def footCrossing : Bool :=
  t.carries "footway" "crossing" || t.carries "highway" "crossing"

def accessibleFactors : List Float :=
  if s.highwayIn t .fullyAccessibleHighways then
    if s.highwayIn t .urbanPedestrianHighways then
      1.25 :: if footCrossing t then [2.0] else []
    else if s.usableSidewalk t then [] else [0.9]
  else []

def restrictedCrossing : Bool :=
  t.carries "cycleway" "crossing" || t.carries "bridleway" "crossing" ||
    t.carries "highway" "crossing"

def restrictedFactors : List Float :=
  if s.highwayIn t .restrictedHighways && (s.intended t "foot" || s.intended t "wheelchair") then
    1.25 :: if restrictedCrossing t then [2.0] else []
  else []

def problematic : Bool :=
  t.carriesAny "surface" (s.categories.tier .problematicSurfaces) ||
    t.carriesAny "smoothness" (s.categories.tier .problematicSmoothnesses) ||
    t.carriesAny "tracktype" (s.categories.tier .problematicTracktypes)

def preferred : Bool :=
  t.carriesAny "surface" (s.categories.tier .preferredSurfaces) ||
    t.carriesAny "smoothness" (s.categories.tier .preferredSmoothnesses)

/-- The penalty of a problematic surface comes before the bonus of a preferred one. -/
def surfaceFactors : List Float :=
  (if s.problematic t then [0.1] else []) ++ (if s.preferred t then [3.0] else [])

def speedFactors : List Float :=
  s.assumedFactors t ++ s.accessibleFactors t ++ s.restrictedFactors t ++ s.surfaceFactors t

def unclampedSpeed : Float :=
  (s.speedFactors t).foldl (· * ·) s.config.meanSpeed

def waySpeed : Float :=
  s.config.speedBounds.clamp (s.unclampedSpeed t)

def speedFor (ferrySpeed : Tags → Except Fault Speed) : Verdict → Except Fault Speed
  | .excluded => .error .excludedSpeed
  | .ferry => ferrySpeed t
  | .routable => .ok (.measured (s.waySpeed t))

end Settings
end StepFree
