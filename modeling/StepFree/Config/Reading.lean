import StepFree.Config.Member
import StepFree.Fault
import StepFree.Settings

namespace StepFree

namespace Config

def fieldNames : List String := [
  "block_fords", "block_potential_barriers", "mean_speed", "min_speed", "max_speed",
  "ferry_min_speed", "ferry_max_speed", "preferred_route_bonus", "ferry_route_bonus",
  "log_skipped_ways"]

def member? (entries : List (Datum × Datum)) (name : String) : Option Datum :=
  entries.findSome? fun e =>
    match e.1 with
    | .text s => if s = name then some e.2 else none
    | _ => none

structure Field (α : Type) where
  name : String
  result : Except MemberProblem α

namespace Field

variable {α : Type}

def problems (f : Field α) : List ConfigProblem :=
  match f.result with
  | .ok _ => []
  | .error p => [.member f.name p]

def value (f : Field α) (usual : α) : α :=
  f.result.toOption.getD usual

end Field

def field {α : Type} (entries : List (Datum × Datum)) (name : String) (usual : α)
    (read : Datum → Except MemberProblem α) : Field α :=
  ⟨name, (member? entries name).elim (.ok usual) read⟩

def unknownMembers (entries : List (Datum × Datum)) : List ConfigProblem :=
  entries.filterMap fun e =>
    match e.1 with
    | .text s => if fieldNames.contains s then none else some (.member s .unknownMember)
    | d => some (.member d.plain .unknownMember)

def boundProblem? (c : Config) : Option ConfigProblem :=
  if c.maxSpeed < c.minSpeed then some .speedBounds
  else if c.ferryMaxSpeed < c.ferryMinSpeed then some .ferryBounds
  else none

def ofEntries (entries : List (Datum × Datum)) : Except (List ConfigProblem) Config :=
  let usual : Config := {}
  let blockFords := field entries "block_fords" usual.blockFords Member.bool
  let blockPotentialBarriers :=
    field entries "block_potential_barriers" usual.blockPotentialBarriers Member.bool
  let meanSpeed := field entries "mean_speed" usual.meanSpeed Member.positiveFloat
  let minSpeed := field entries "min_speed" usual.minSpeed Member.positiveFloat
  let maxSpeed := field entries "max_speed" usual.maxSpeed Member.positiveFloat
  let ferryMinSpeed := field entries "ferry_min_speed" usual.ferryMinSpeed Member.positiveFloat
  let ferryMaxSpeed := field entries "ferry_max_speed" usual.ferryMaxSpeed Member.positiveFloat
  let preferredRouteBonus :=
    field entries "preferred_route_bonus" usual.preferredRouteBonus Member.int
  let ferryRouteBonus := field entries "ferry_route_bonus" usual.ferryRouteBonus Member.int
  let logSkippedWays := field entries "log_skipped_ways" usual.logSkippedWays Member.bool
  let problems :=
    blockFords.problems ++ blockPotentialBarriers.problems ++ meanSpeed.problems ++
      minSpeed.problems ++ maxSpeed.problems ++ ferryMinSpeed.problems ++
      ferryMaxSpeed.problems ++ preferredRouteBonus.problems ++ ferryRouteBonus.problems ++
      logSkippedWays.problems ++ unknownMembers entries
  let config : Config := {
    blockFords := blockFords.value usual.blockFords
    blockPotentialBarriers := blockPotentialBarriers.value usual.blockPotentialBarriers
    meanSpeed := meanSpeed.value usual.meanSpeed
    minSpeed := minSpeed.value usual.minSpeed
    maxSpeed := maxSpeed.value usual.maxSpeed
    ferryMinSpeed := ferryMinSpeed.value usual.ferryMinSpeed
    ferryMaxSpeed := ferryMaxSpeed.value usual.ferryMaxSpeed
    preferredRouteBonus := preferredRouteBonus.value usual.preferredRouteBonus
    ferryRouteBonus := ferryRouteBonus.value usual.ferryRouteBonus
    logSkippedWays := logSkippedWays.value usual.logSkippedWays }
  match problems with
  | [] =>
    match config.boundProblem? with
    | none => .ok config
    | some p => .error [p]
  | problems => .error problems

def read : Datum → Except Fault Config
  | .dict entries => (ofEntries entries).mapError .badConfig
  | _ => .error (.badConfig [.notObject])

def toDatum (c : Config) : Datum := .ofMembers [
  ("block_fords", .bool c.blockFords),
  ("block_potential_barriers", .bool c.blockPotentialBarriers),
  ("mean_speed", .float c.meanSpeed),
  ("min_speed", .float c.minSpeed),
  ("max_speed", .float c.maxSpeed),
  ("ferry_min_speed", .float c.ferryMinSpeed),
  ("ferry_max_speed", .float c.ferryMaxSpeed),
  ("preferred_route_bonus", .int c.preferredRouteBonus),
  ("ferry_route_bonus", .int c.ferryRouteBonus),
  ("log_skipped_ways", .bool c.logSkippedWays)]

end Config
end StepFree
