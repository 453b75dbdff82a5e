import StepFree.Tables.Categories
import StepFree.Tables.Vocabulary

namespace StepFree

structure Config where
  /-- Whether fords exclude ways and block nodes. -/
  blockFords : Bool := true
  /-- Whether gates, bollards and the like block when nothing else is known. -/
  blockPotentialBarriers : Bool := false
  /-- The speed that every adjustment starts from. -/
  meanSpeed : Float := 4.0
  minSpeed : Float := 1.0
  maxSpeed : Float := 10.0
  ferryMinSpeed : Float := 0.5
  ferryMaxSpeed : Float := 15.0
  /-- The bonus of ways in hiking, foot, bicycle and inline skates routes. -/
  preferredRouteBonus : Int := 5
  /-- The bonus of ways in ferry routes. -/
  ferryRouteBonus : Int := -5
  /-- Whether every excluded way is logged with the rule that decides. -/
  logSkippedWays : Bool := false
  deriving DecidableEq, Inhabited

structure Settings where
  config : Config := {}
  categories : Categories := .standard
  vocabulary : Vocabulary := .standard
  deriving Inhabited

end StepFree
