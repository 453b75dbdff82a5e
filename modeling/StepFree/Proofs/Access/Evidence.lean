import StepFree.Way.Access

namespace StepFree

namespace Tags

def Shows (t : Tags) (key : String) (accepted : ValueSet) : Prop :=
  ∃ v ∈ t.values key, v ∈ accepted

theorem carriesAny_eq_true {t : Tags} {key : String} {accepted : ValueSet} :
    t.carriesAny key accepted = true ↔ t.Shows key accepted :=
  carriesAny_iff

theorem carries_eq_true {t : Tags} {key value : String} :
    t.carries key value = true ↔ value ∈ t.values key :=
  List.contains_iff_mem

theorem anyCarries_eq_true {t : Tags} {keys : List String} {accepted : ValueSet} :
    t.anyCarries keys accepted = true ↔ ∃ k ∈ keys, t.Shows k accepted := by
  simp only [anyCarries, List.any_eq_true, carriesAny_eq_true]

theorem hasHighway_eq_true {t : Tags} : t.hasHighway = true ↔ t.values "highway" ≠ [] :=
  has_iff

theorem hasHighway_eq_false {t : Tags} : t.hasHighway = false ↔ t.values "highway" = [] := by
  rw [← Bool.not_eq_true, hasHighway_eq_true, ne_eq, Decidable.not_not]

theorem isFord_eq_true {t : Tags} :
    t.isFord = true ↔ "ford" ∈ t.values "highway" ∨ t.values "ford" ≠ [] := by
  simp only [isFord, Bool.or_eq_true, carries_eq_true, has_iff]

end Tags

namespace Settings

variable (s : Settings) (t : Tags)

/-- Some access key denies, none allows, and there is no usable sidewalk. -/
def Denied : Prop :=
  (∃ k ∈ s.vocabulary.restrictionKeys, t.Shows k s.vocabulary.restricted) ∧
    (¬ ∃ k ∈ s.vocabulary.restrictionKeys, t.Shows k s.vocabulary.intended) ∧
    ¬ t.Shows "sidewalk" s.vocabulary.usableSidewalk

theorem accessRestricted_eq_true : s.accessRestricted t = true ↔ s.Denied t := by
  simp only [accessRestricted, usableSidewalk, Denied, Bool.and_eq_true, Bool.not_eq_true',
    ← Bool.not_eq_true, Tags.anyCarries_eq_true, Tags.carriesAny_eq_true, and_assoc]

def FerryRoute : Prop :=
  t.Shows "route" s.vocabulary.ferryRoutes

def Platform : Prop :=
  t.Shows "public_transport" (s.categories.tier .acceptedPublicTransport) ∨
    t.Shows "railway" (s.categories.tier .acceptedPublicTransport)

theorem ferryRoute_eq_true : s.ferryRoute t = true ↔ s.FerryRoute t :=
  Tags.carriesAny_eq_true

theorem acceptedPlatform_eq_true : s.acceptedPlatform t = true ↔ s.Platform t := by
  simp only [acceptedPlatform, Platform, Bool.or_eq_true, Tags.carriesAny_eq_true]

/-- The ground is inaccessible by its scale, surface, smoothness or track type. -/
def Unfit : Prop :=
  t.Shows "sac_scale" (s.categories.tier .inaccessibleSacScales) ∨
    t.Shows "surface" (s.categories.tier .inaccessibleSurfaces) ∨
    t.Shows "smoothness" (s.categories.tier .inaccessibleSmoothnesses) ∨
    t.Shows "tracktype" (s.categories.tier .inaccessibleTracktypes)

/-- The tags for wheelchairs have the first word, those for walkers the second; where neither says
anything, something else decides. -/
def TurnedAway (otherwise : Prop) : Prop :=
  ¬ t.Shows "wheelchair" s.vocabulary.intended ∧
    (t.Shows "wheelchair" s.vocabulary.restricted ∨
      ¬ t.Shows "foot" s.vocabulary.intended ∧
        (t.Shows "foot" s.vocabulary.restricted ∨ otherwise))

/-- No sidewalk helps, and the way is a large road without one, a motorroad or a blocked ford. -/
def Hindered : Prop :=
  ¬ t.Shows "sidewalk" s.vocabulary.usableSidewalk ∧
    ((t.Shows "sidewalk" s.vocabulary.noSidewalk ∧
        t.Shows "highway" (s.categories.tier .assumedAccessibleHighways)) ∨
      "yes" ∈ t.values "motorroad" ∨
      (s.config.blockFords = true ∧ ("ford" ∈ t.values "highway" ∨ t.values "ford" ≠ [])))

end Settings
end StepFree
