import StepFree.ValueSet

namespace StepFree

inductive Tier where
  | fullyAccessibleHighways
  | assumedAccessibleHighways
  | limitedAccessibleHighways
  | restrictedHighways
  | nonAccessibleHighways
  | urbanPedestrianHighways
  | problematicSurfaces
  | inaccessibleSurfaces
  | preferredSurfaces
  | problematicSmoothnesses
  | inaccessibleSmoothnesses
  | preferredSmoothnesses
  | problematicTracktypes
  | inaccessibleTracktypes
  | inaccessibleSacScales
  | absoluteBarriers
  | potentialBarriers
  | inaccessibleBarriers
  | acceptedPublicTransport
  | accessibilityRelatedAttributes
  deriving DecidableEq, Repr

namespace Tier

def all : List Tier := [
  .fullyAccessibleHighways, .assumedAccessibleHighways, .limitedAccessibleHighways,
  .restrictedHighways, .nonAccessibleHighways, .urbanPedestrianHighways, .problematicSurfaces,
  .inaccessibleSurfaces, .preferredSurfaces, .problematicSmoothnesses,
  .inaccessibleSmoothnesses, .preferredSmoothnesses, .problematicTracktypes,
  .inaccessibleTracktypes, .inaccessibleSacScales, .absoluteBarriers, .potentialBarriers,
  .inaccessibleBarriers, .acceptedPublicTransport, .accessibilityRelatedAttributes]

theorem mem_all (k : Tier) : k ∈ all := by
  cases k <;> decide

def name : Tier → String
  | .fullyAccessibleHighways => "fully_accessible_highways"
  | .assumedAccessibleHighways => "assumed_accessible_highways"
  | .limitedAccessibleHighways => "limited_accessible_highways"
  | .restrictedHighways => "restricted_highways"
  | .nonAccessibleHighways => "non_accessible_highways"
  | .urbanPedestrianHighways => "urban_pedestrian_highways"
  | .problematicSurfaces => "problematic_surfaces"
  | .inaccessibleSurfaces => "inaccessible_surfaces"
  | .preferredSurfaces => "preferred_surfaces"
  | .problematicSmoothnesses => "problematic_smoothnesses"
  | .inaccessibleSmoothnesses => "inaccessible_smoothnesses"
  | .preferredSmoothnesses => "preferred_smoothnesses"
  | .problematicTracktypes => "problematic_tracktypes"
  | .inaccessibleTracktypes => "inaccessible_tracktypes"
  | .inaccessibleSacScales => "inaccessible_sac_scales"
  | .absoluteBarriers => "absolute_barriers"
  | .potentialBarriers => "potential_barriers"
  | .inaccessibleBarriers => "inaccessible_barriers"
  | .acceptedPublicTransport => "accepted_public_transport"
  | .accessibilityRelatedAttributes => "accessibility_related_attributes"

def ofName? (s : String) : Option Tier :=
  all.find? (·.name = s)

def usual : Tier → List String
  | .fullyAccessibleHighways => [
    "footway", "pedestrian", "living_street", "residential", "unclassified", "service",
    "tertiary", "tertiary_link", "road"]
  | .assumedAccessibleHighways => [
    "trunk", "trunk_link", "primary", "primary_link", "secondary", "secondary_link"]
  | .limitedAccessibleHighways => ["path", "track"]
  | .restrictedHighways => ["bridleway", "cycleway"]
  | .nonAccessibleHighways => ["steps"]
  | .urbanPedestrianHighways => ["footway", "pedestrian", "living_street"]
  | .problematicSurfaces => [
    "cobblestone", "unhewn_cobblestone", "sett", "unpaved", "gravel", "compacted",
    "pebblestone", "grass_paver", "woodchips"]
  | .inaccessibleSurfaces => ["earth", "grass", "dirt", "mud", "sand", "snow", "ice", "salt"]
  | .preferredSurfaces => ["asphalt", "paved"]
  | .problematicSmoothnesses => ["intermediate"]
  | .inaccessibleSmoothnesses => ["bad", "very_bad", "horrible", "very_horrible"]
  | .preferredSmoothnesses => ["excellent"]
  | .problematicTracktypes => ["grade2", "grade3"]
  | .inaccessibleTracktypes => ["grade4", "grade5"]
  | .inaccessibleSacScales => [
    "mountain_hiking", "demanding_mountain_hiking", "alpine_hiking", "demanding_alpine_hiking",
    "difficult_alpine_hiking"]
  | .absoluteBarriers => [
    "fence", "wall", "hedge", "retaining_wall", "city_wall", "ditch", "hedge_bank",
    "guard_rail", "wire_fence", "embankment"]
  | .potentialBarriers => [
    "gate", "bollard", "lift_gate", "cycle_barrier", "entrance", "cattle_grid", "swing_gate",
    "chain", "bump_gate"]
  | .inaccessibleBarriers => ["stile", "block", "kissing_gate", "turnstile", "hampshire_gate"]
  | .acceptedPublicTransport => ["platform"]
  | .accessibilityRelatedAttributes => [
    "surface", "smoothness", "tracktype", "incline", "sloped_curb", "sloped_kerb"]

end Tier

structure Categories where
  tier : Tier → ValueSet

namespace Categories

def standard : Categories :=
  ⟨fun k => .ofList k.usual⟩

instance : Inhabited Categories := ⟨standard⟩

def blockingBarriers (t : Categories) : ValueSet :=
  (t.tier .absoluteBarriers).union (t.tier .inaccessibleBarriers)

def replace (t : Categories) (k : Tier) (values : List String) : Categories :=
  ⟨fun j => if j = k then .ofList values else t.tier j⟩

instance : DecidableEq Categories := fun s t =>
  decidable_of_iff (∀ k ∈ Tier.all, s.tier k = t.tier k) <| by
    constructor
    · intro h
      have : s.tier = t.tier := funext fun k => h k (Tier.mem_all k)
      cases s
      cases t
      simp_all
    · intro h k _
      rw [h]

def table (t : Categories) : List (String × List String) :=
  Tier.all.map fun k => (k.name, (t.tier k).members)

end Categories
end StepFree
