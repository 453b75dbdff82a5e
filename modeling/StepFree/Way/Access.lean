import StepFree.Settings
import StepFree.Tags.Reading

/-! The access decision. The rules are tried in a fixed order and the first that applies decides: an
explicit restriction without an override; then ways without a highway tag (ferries, platforms, all
others); then ways with one (surface quality, highways that are never accessible, explicit access,
sidewalks, motorroads, fords, and at last all others). -/
namespace StepFree

inductive Verdict where
  | routable
  | ferry
  | excluded
  deriving DecidableEq, Repr

namespace Verdict

def all : List Verdict := [.routable, .ferry, .excluded]

def name : Verdict → String
  | .routable => "routable"
  | .ferry => "ferry"
  | .excluded => "excluded"

def ofName? (s : String) : Option Verdict :=
  all.find? (·.name = s)

def isExcluded (v : Verdict) : Bool := v = .excluded

def isFerry (v : Verdict) : Bool := v = .ferry

end Verdict

inductive AccessRule where
  | accessRestricted
  | ferryWheelchairIntended
  | ferryWheelchairRestricted
  | ferryFootIntended
  | ferryFootRestricted
  | ferry
  | platformWheelchairIntended
  | platformWheelchairRestricted
  | platformFootIntended
  | platformFootRestricted
  | platform
  | noHighway
  | badSacScale
  | badSurface
  | badSmoothness
  | badTracktype
  | nonAccessibleHighway
  | wheelchairIntended
  | wheelchairRestricted
  | footIntended
  | footRestricted
  | usableSidewalk
  | assumedHighwayWithoutSidewalk
  | motorroad
  | ford
  | highway
  deriving DecidableEq, Repr

namespace AccessRule

def all : List AccessRule := [
  .accessRestricted, .ferryWheelchairIntended, .ferryWheelchairRestricted, .ferryFootIntended,
  .ferryFootRestricted, .ferry, .platformWheelchairIntended, .platformWheelchairRestricted,
  .platformFootIntended, .platformFootRestricted, .platform, .noHighway, .badSacScale,
  .badSurface, .badSmoothness, .badTracktype, .nonAccessibleHighway, .wheelchairIntended,
  .wheelchairRestricted, .footIntended, .footRestricted, .usableSidewalk,
  .assumedHighwayWithoutSidewalk, .motorroad, .ford, .highway]

theorem mem_all (r : AccessRule) : r ∈ all := by
  cases r <;> decide

def name : AccessRule → String
  | .accessRestricted => "access_restricted"
  | .ferryWheelchairIntended => "ferry_wheelchair_intended"
  | .ferryWheelchairRestricted => "ferry_wheelchair_restricted"
  | .ferryFootIntended => "ferry_foot_intended"
  | .ferryFootRestricted => "ferry_foot_restricted"
  | .ferry => "ferry"
  | .platformWheelchairIntended => "platform_wheelchair_intended"
  | .platformWheelchairRestricted => "platform_wheelchair_restricted"
  | .platformFootIntended => "platform_foot_intended"
  | .platformFootRestricted => "platform_foot_restricted"
  | .platform => "platform"
  | .noHighway => "no_highway"
  | .badSacScale => "bad_sac_scale"
  | .badSurface => "bad_surface"
  | .badSmoothness => "bad_smoothness"
  | .badTracktype => "bad_tracktype"
  | .nonAccessibleHighway => "non_accessible_highway"
  | .wheelchairIntended => "wheelchair_intended"
  | .wheelchairRestricted => "wheelchair_restricted"
  | .footIntended => "foot_intended"
  | .footRestricted => "foot_restricted"
  | .usableSidewalk => "usable_sidewalk"
  | .assumedHighwayWithoutSidewalk => "assumed_highway_without_sidewalk"
  | .motorroad => "motorroad"
  | .ford => "ford"
  | .highway => "highway"

def named (names : List String) : List AccessRule :=
  all.filter fun r => names.contains r.name

def verdict : AccessRule → Verdict
  | .ferryWheelchairIntended | .ferryFootIntended | .ferry => .ferry
  | .platformWheelchairIntended | .platformFootIntended | .platform => .routable
  | .wheelchairIntended | .footIntended | .usableSidewalk | .highway => .routable
  | _ => .excluded

end AccessRule

namespace Settings

variable (s : Settings) (t : Tags)

def intended (key : String) : Bool :=
  t.carriesAny key s.vocabulary.intended

def restricted (key : String) : Bool :=
  t.carriesAny key s.vocabulary.restricted

def usableSidewalk : Bool :=
  t.carriesAny "sidewalk" s.vocabulary.usableSidewalk

def ferryRoute : Bool :=
  t.carriesAny "route" s.vocabulary.ferryRoutes

def acceptedPlatform : Bool :=
  let accepted := s.categories.tier .acceptedPublicTransport
  t.carriesAny "public_transport" accepted || t.carriesAny "railway" accepted

def highwayIn (k : Tier) : Bool :=
  t.carriesAny "highway" (s.categories.tier k)

def accessRestricted : Bool :=
  t.anyCarries s.vocabulary.restrictionKeys s.vocabulary.restricted &&
    !t.anyCarries s.vocabulary.restrictionKeys s.vocabulary.intended && !s.usableSidewalk t

def withoutSidewalk : Bool :=
  t.carriesAny "sidewalk" s.vocabulary.noSidewalk && s.highwayIn t .assumedAccessibleHighways

end Settings

namespace Tags

def hasHighway (t : Tags) : Bool := t.has "highway"

def isFord (t : Tags) : Bool := t.carries "highway" "ford" || t.has "ford"

end Tags

namespace AccessRule

variable (s : Settings) (t : Tags)

def isFerry : Bool :=
  !t.hasHighway && s.ferryRoute t

def isPlatform : Bool :=
  !t.hasHighway && !s.ferryRoute t && s.acceptedPlatform t

def highwayWith (key : String) (k : Tier) : Bool :=
  t.hasHighway && t.carriesAny key (s.categories.tier k)

def applies : AccessRule → Bool
  | .accessRestricted => s.accessRestricted t
  | .ferryWheelchairIntended => isFerry s t && s.intended t "wheelchair"
  | .ferryWheelchairRestricted => isFerry s t && s.restricted t "wheelchair"
  | .ferryFootIntended => isFerry s t && s.intended t "foot"
  | .ferryFootRestricted => isFerry s t && s.restricted t "foot"
  | .ferry => isFerry s t
  | .platformWheelchairIntended => isPlatform s t && s.intended t "wheelchair"
  | .platformWheelchairRestricted => isPlatform s t && s.restricted t "wheelchair"
  | .platformFootIntended => isPlatform s t && s.intended t "foot"
  | .platformFootRestricted => isPlatform s t && s.restricted t "foot"
  | .platform => isPlatform s t
  | .noHighway => !t.hasHighway
  | .badSacScale => highwayWith s t "sac_scale" .inaccessibleSacScales
  | .badSurface => highwayWith s t "surface" .inaccessibleSurfaces
  | .badSmoothness => highwayWith s t "smoothness" .inaccessibleSmoothnesses
  | .badTracktype => highwayWith s t "tracktype" .inaccessibleTracktypes
  | .nonAccessibleHighway => s.highwayIn t .nonAccessibleHighways
  | .wheelchairIntended => t.hasHighway && s.intended t "wheelchair"
  | .wheelchairRestricted => t.hasHighway && s.restricted t "wheelchair"
  | .footIntended => t.hasHighway && s.intended t "foot"
  | .footRestricted => t.hasHighway && s.restricted t "foot"
  | .usableSidewalk => t.hasHighway && s.usableSidewalk t
  | .assumedHighwayWithoutSidewalk => s.withoutSidewalk t
  | .motorroad => t.hasHighway && t.carries "motorroad" "yes"
  | .ford => t.hasHighway && s.config.blockFords && t.isFord
  | .highway => t.hasHighway

end AccessRule

/-- A verdict and the rule it comes from. Where no rule applies the way is routable. -/
structure AccessDecision where
  verdict : Verdict
  rule? : Option AccessRule
  deriving DecidableEq, Repr

namespace AccessDecision

def ofRule (r : AccessRule) : AccessDecision := ⟨r.verdict, some r⟩

def fallthrough : AccessDecision := ⟨.routable, none⟩

def ruleName (d : AccessDecision) : String :=
  (d.rule?.map AccessRule.name).getD "fallthrough"

end AccessDecision

namespace Settings

def matchingRules (s : Settings) (rules : List AccessRule) (t : Tags) : List AccessRule :=
  rules.filter (AccessRule.applies s t)

def decideBy (s : Settings) (rules : List AccessRule) (t : Tags) : AccessDecision :=
  ((rules.find? (AccessRule.applies s t)).map .ofRule).getD .fallthrough

def decideAccess (s : Settings) (t : Tags) : AccessDecision :=
  s.decideBy AccessRule.all t

def verdict (s : Settings) (t : Tags) : Verdict :=
  (s.decideAccess t).verdict

end Settings

inductive LogLevel where
  | debug
  | info
  | warning
  deriving DecidableEq, Repr

def LogLevel.name : LogLevel → String
  | .debug => "DEBUG"
  | .info => "INFO"
  | .warning => "WARNING"

structure LogRecord where
  level : LogLevel
  message : String
  deriving DecidableEq, Repr

namespace Tagged

def shown (w : Tagged) : String :=
  w.id.plain ++ " tags=" ++ w.tags.toDatum.literal

end Tagged

namespace Settings

def accessLog (s : Settings) (d : AccessDecision) (w : Tagged) : List LogRecord :=
  match d.rule? with
  | none => [⟨.warning, "No access rule matched way " ++ w.shown⟩]
  | some r =>
    if r.verdict.isExcluded && s.config.logSkippedWays then
      [⟨.debug, "way skipped (" ++ r.name ++ "): " ++ w.shown⟩]
    else []

end Settings
end StepFree
