import StepFree.Profile.Basic
import StepFree.Proofs.Tags.Likeness

/-! What the result of a way may depend on. The rules, the factors and the signals look at the values of
certain keys, whatever their order; limits, durations and distances are read from the first value; and
of keys that speak of one side of the sidewalk it only counts whether there are any. -/
namespace StepFree

/-- The keys, besides those of access, whose values are looked at as a set. -/
def keysReadAsSets : List String := [
  "highway", "wheelchair", "foot", "sidewalk", "route", "public_transport", "railway", "sac_scale",
  "surface", "smoothness", "tracktype", "motorroad", "ford", "footway", "cycleway", "bridleway",
  "bicycle"]

def keysReadFirst : List String := [
  "maxspeed", "maxspeed:forward", "maxspeed:backward", "duration:seconds", "estimated_distance"]

def sidewalkStarts : List String := ["sidewalk:left", "sidewalk:right", "sidewalk:both"]

def SpeaksOfSide (key : String) : Prop :=
  ∃ start ∈ sidewalkStarts, start.toList <+: key.toList

namespace Tags

def NamesSide (t : Tags) : Prop :=
  ∃ k ∈ t.keys, SpeaksOfSide k

theorem keysStarting_isEmpty (t : Tags) (start : String) :
    (!(t.keysStarting start).isEmpty) = true ↔ ∃ k ∈ t.keys, start.toList <+: k.toList := by
  rw [Bool.not_eq_true', keysStarting, List.isEmpty_eq_false_iff_exists_mem]
  simp only [List.mem_filter, List.isPrefixOf_iff_prefix]

theorem namesSide_iff (t : Tags) :
    (Evidence.sides.any fun side => !(t.keysStarting ("sidewalk:" ++ side)).isEmpty) = true ↔
      t.NamesSide := by
  have starts : sidewalkStarts = Evidence.sides.map ("sidewalk:" ++ ·) := by decide
  simp only [List.any_eq_true, keysStarting_isEmpty, NamesSide, SpeaksOfSide, starts,
    List.mem_map]
  constructor
  · rintro ⟨side, hs, k, hk, begins⟩
    exact ⟨k, hk, _, ⟨side, hs, rfl⟩, begins⟩
  · rintro ⟨k, hk, _, ⟨side, hs, rfl⟩, begins⟩
    exact ⟨side, hs, k, hk, begins⟩

theorem namesSide_insert (t : Tags) (key : String) (values : Values) :
    (t.insert key values).NamesSide ↔ SpeaksOfSide key ∨ t.NamesSide := by
  have keys (k : String) : k ∈ (t.insert key values).keys ↔ k = key ∨ k ∈ t.keys :=
    mem_keys_insertEntry
  simp only [NamesSide, keys, or_and_right, exists_or, exists_eq_left]

end Tags

/-- Whether two ways agree in all that is read of them. -/
structure Settings.ReadsAlike (s : Settings) (t u : Tags) : Prop where
  sets : ∀ k ∈ s.vocabulary.restrictionKeys ++ keysReadAsSets, t.SameValues u k
  firsts : ∀ k ∈ keysReadFirst, t.first? k = u.first? k
  sides : t.NamesSide ↔ u.NamesSide

namespace Settings.ReadsAlike

variable {s : Settings} {t u : Tags} (alike : s.ReadsAlike t u)

include alike

theorem same {key : String} (read : key ∈ keysReadAsSets) : t.SameValues u key :=
  alike.sets key (List.mem_append_right _ read)

theorem carries {key : String} (read : key ∈ keysReadAsSets) (value : String) :
    t.carries key value = u.carries key value :=
  (alike.same read).carries value

theorem carriesAny {key : String} (read : key ∈ keysReadAsSets) (accepted : ValueSet) :
    t.carriesAny key accepted = u.carriesAny key accepted :=
  (alike.same read).carriesAny accepted

theorem anyCarries (accepted : ValueSet) :
    t.anyCarries s.vocabulary.restrictionKeys accepted =
      u.anyCarries s.vocabulary.restrictionKeys accepted :=
  Tags.anyCarries_congr (fun k hk => alike.sets k (List.mem_append_left _ hk)) accepted

/-! The tests that the rules, the factors and the signals are made of. -/

theorem intended {key : String} (read : key ∈ keysReadAsSets) :
    s.intended t key = s.intended u key :=
  alike.carriesAny read _

theorem restricted {key : String} (read : key ∈ keysReadAsSets) :
    s.restricted t key = s.restricted u key :=
  alike.carriesAny read _

theorem highwayIn (k : Tier) : s.highwayIn t k = s.highwayIn u k :=
  alike.carriesAny (by decide) _

theorem usableSidewalk : s.usableSidewalk t = s.usableSidewalk u :=
  alike.carriesAny (by decide) _

theorem ferryRoute : s.ferryRoute t = s.ferryRoute u :=
  alike.carriesAny (by decide) _

theorem acceptedPlatform : s.acceptedPlatform t = s.acceptedPlatform u := by
  rw [Settings.acceptedPlatform, Settings.acceptedPlatform, alike.carriesAny (by decide),
    alike.carriesAny (by decide)]

theorem accessRestricted : s.accessRestricted t = s.accessRestricted u := by
  rw [Settings.accessRestricted, Settings.accessRestricted, alike.anyCarries, alike.anyCarries,
    alike.usableSidewalk]

theorem withoutSidewalk : s.withoutSidewalk t = s.withoutSidewalk u := by
  rw [Settings.withoutSidewalk, Settings.withoutSidewalk, alike.carriesAny (by decide),
    alike.highwayIn]

theorem hasHighway : t.hasHighway = u.hasHighway :=
  (alike.same (by decide)).has

theorem isFord : t.isFord = u.isFord := by
  rw [Tags.isFord, Tags.isFord, alike.carries (by decide), (alike.same (by decide)).has]

/-! The access decision. -/

theorem isFerry : AccessRule.isFerry s t = AccessRule.isFerry s u := by
  rw [AccessRule.isFerry, AccessRule.isFerry, alike.hasHighway, alike.ferryRoute]

theorem isPlatform : AccessRule.isPlatform s t = AccessRule.isPlatform s u := by
  rw [AccessRule.isPlatform, AccessRule.isPlatform, alike.hasHighway, alike.ferryRoute,
    alike.acceptedPlatform]

theorem highwayWith {key : String} (read : key ∈ keysReadAsSets) (k : Tier) :
    AccessRule.highwayWith s t key k = AccessRule.highwayWith s u key k := by
  rw [AccessRule.highwayWith, AccessRule.highwayWith, alike.hasHighway, alike.carriesAny read]

theorem applies (r : AccessRule) : r.applies s t = r.applies s u := by
  have wheelchair : "wheelchair" ∈ keysReadAsSets := by decide
  have foot : "foot" ∈ keysReadAsSets := by decide
  cases r <;> simp only [AccessRule.applies, alike.accessRestricted, alike.isFerry,
    alike.isPlatform, alike.hasHighway, alike.highwayIn, alike.usableSidewalk,
    alike.withoutSidewalk, alike.isFord, alike.intended wheelchair, alike.intended foot,
    alike.restricted wheelchair, alike.restricted foot]
  case badSacScale => exact alike.highwayWith (by decide) _
  case badSurface => exact alike.highwayWith (by decide) _
  case badSmoothness => exact alike.highwayWith (by decide) _
  case badTracktype => exact alike.highwayWith (by decide) _
  case motorroad => rw [alike.carries (by decide)]

theorem decideAccess : s.decideAccess t = s.decideAccess u := by
  have tests : AccessRule.applies s t = AccessRule.applies s u := funext alike.applies
  rw [Settings.decideAccess, Settings.decideAccess, decideBy, decideBy, tests]

/-! The speed. -/

theorem assumedFactors : s.assumedFactors t = s.assumedFactors u := by
  rw [Settings.assumedFactors, Settings.assumedFactors, alike.highwayIn, alike.usableSidewalk]

theorem accessibleFactors : s.accessibleFactors t = s.accessibleFactors u := by
  have crossing : footCrossing t = footCrossing u := by
    rw [footCrossing, footCrossing, alike.carries (by decide), alike.carries (by decide)]
  rw [Settings.accessibleFactors, Settings.accessibleFactors, alike.highwayIn, alike.highwayIn,
    alike.usableSidewalk, crossing]

theorem restrictedFactors : s.restrictedFactors t = s.restrictedFactors u := by
  have crossing : restrictedCrossing t = restrictedCrossing u := by
    rw [restrictedCrossing, restrictedCrossing, alike.carries (by decide),
      alike.carries (by decide), alike.carries (by decide)]
  rw [Settings.restrictedFactors, Settings.restrictedFactors, alike.highwayIn,
    alike.intended (by decide), alike.intended (by decide), crossing]

theorem surfaceFactors : s.surfaceFactors t = s.surfaceFactors u := by
  have problematic : s.problematic t = s.problematic u := by
    rw [Settings.problematic, Settings.problematic, alike.carriesAny (by decide),
      alike.carriesAny (by decide), alike.carriesAny (by decide)]
  have preferred : s.preferred t = s.preferred u := by
    rw [Settings.preferred, Settings.preferred, alike.carriesAny (by decide),
      alike.carriesAny (by decide)]
  rw [Settings.surfaceFactors, Settings.surfaceFactors, problematic, preferred]

theorem waySpeed : s.waySpeed t = s.waySpeed u := by
  rw [Settings.waySpeed, Settings.waySpeed, unclampedSpeed, unclampedSpeed, speedFactors,
    speedFactors, alike.assumedFactors, alike.accessibleFactors, alike.restrictedFactors,
    alike.surfaceFactors]

theorem ferrySpeed (bounds : Number.Bounds) :
    FerrySpeed.ofTags bounds t = FerrySpeed.ofTags bounds u := by
  rw [FerrySpeed.ofTags, FerrySpeed.ofTags, FerrySpeed.hours, FerrySpeed.hours, FerrySpeed.metres,
    FerrySpeed.metres, alike.firsts _ (by decide), alike.firsts _ (by decide)]

/-! The signals. -/

theorem maxSpeed : SpeedLimit.ofTags t = SpeedLimit.ofTags u := by
  have read : SpeedLimit.keys ⊆ keysReadFirst := by decide
  exact SpeedLimit.ofTags_congr fun k limit => alike.firsts k (read limit)

theorem sidewalk : Evidence.sidewalk t = Evidence.sidewalk u := by
  rw [Bool.eq_iff_iff, Evidence.sidewalk, Evidence.sidewalk, alike.carriesAny (by decide),
    Bool.or_eq_true, Bool.or_eq_true, Tags.namesSide_iff, Tags.namesSide_iff, alike.sides]

theorem pedestrianized : Evidence.pedestrianized t = Evidence.pedestrianized u := by
  rw [Evidence.pedestrianized, Evidence.pedestrianized, alike.carriesAny (by decide),
    alike.carries (by decide), alike.carries (by decide), alike.carriesAny (by decide)]

theorem roadPenalty : s.roadPenalty t = s.roadPenalty u := by
  rw [Settings.roadPenalty, Settings.roadPenalty, alike.highwayIn, alike.carriesAny (by decide),
    alike.carriesAny (by decide)]

theorem streetPenalty : s.streetPenalty t = s.streetPenalty u := by
  rw [Settings.streetPenalty, Settings.streetPenalty, alike.highwayIn, alike.highwayIn]

theorem footBonus : s.footBonus t = s.footBonus u := by
  rw [Settings.footBonus, Settings.footBonus, builtForWalking, builtForWalking, alike.highwayIn,
    alike.highwayIn, alike.usableSidewalk, alike.carries (by decide), alike.intended (by decide),
    alike.carries (by decide)]

theorem signals : s.signals (.standard s.config) t = s.signals (.standard s.config) u := by
  simp only [Settings.signals, Lookups.standard, alike.maxSpeed, alike.footBonus,
    alike.roadPenalty, alike.streetPenalty, alike.sidewalk, alike.pedestrianized]

end Settings.ReadsAlike

namespace Profile

variable {s : Settings} {t u : Tags}

theorem wayResult_of_readsAlike (alike : s.ReadsAlike t u) (bonus : Int) :
    (ofSettings s).wayResult t bonus = (ofSettings s).wayResult u bonus := by
  have speed : (ofSettings s).speed t = (ofSettings s).speed u := by
    funext v
    cases v with
    | excluded => rfl
    | ferry => exact congrArg (Except.map Speed.measured) (alike.ferrySpeed _)
    | routable => exact congrArg (Except.ok ∘ Speed.measured) alike.waySpeed
  exact wayResult_congr alike.decideAccess speed alike.signals bonus

theorem readsAlike_of_perm (s : Settings) (same : t.entries.Perm u.entries) : s.ReadsAlike t u where
  sets k _ := .of_find? (Tags.find?_perm same k)
  firsts k _ := Tags.first?_of_find? (Tags.find?_perm same k)
  sides := by
    have keys (k : String) : k ∈ t.keys ↔ k ∈ u.keys := (same.map Prod.fst).mem_iff
    simp only [Tags.NamesSide, keys]

theorem readsAlike_insert (s : Settings) (t : Tags) {key : String} {a b : Values}
    (notFirst : key ∉ keysReadFirst) (same : ∀ v, v ∈ a.toList ↔ v ∈ b.toList) :
    s.ReadsAlike (t.insert key a) (t.insert key b) where
  sets k _ v := by
    simp only [Tags.values, Tags.find?_insert]
    by_cases here : k = key
    · simpa [here] using same v
    · simp [here]
  firsts k read := by
    have other : k ≠ key := fun here => notFirst (here ▸ read)
    simp only [Tags.first?, Tags.find?_insert, if_neg other]
  sides := by rw [Tags.namesSide_insert, Tags.namesSide_insert]

theorem readsAlike_unread (t : Tags) {key : String} (values : Values)
    (unread : key ∉ s.vocabulary.restrictionKeys ++ keysReadAsSets) (notFirst : key ∉ keysReadFirst)
    (noSide : ¬ SpeaksOfSide key) : s.ReadsAlike (t.insert key values) t where
  sets k read := by
    have other : k ≠ key := fun here => unread (here ▸ read)
    apply Tags.SameValues.of_find?
    rw [Tags.find?_insert, if_neg other]
  firsts k read := by
    have other : k ≠ key := fun here => notFirst (here ▸ read)
    apply Tags.first?_of_find?
    rw [Tags.find?_insert, if_neg other]
  sides := by rw [Tags.namesSide_insert, or_iff_right noSide]

/-- Ways that agree in what is read have one result. In particular neither the order of the keys counts,
nor the order and repetitions of the values of a key that is read as a set, nor any other tag. -/
theorem result_reads_only (s : Settings) (bonus : Int) :
    (∀ t u, s.ReadsAlike t u →
      (ofSettings s).wayResult t bonus = (ofSettings s).wayResult u bonus) ∧
    (∀ t u : Tags, t.entries.Perm u.entries →
      (ofSettings s).wayResult t bonus = (ofSettings s).wayResult u bonus) ∧
    (∀ (t : Tags) (key : String) (a b : Values), key ∉ keysReadFirst →
      (∀ v, v ∈ a.toList ↔ v ∈ b.toList) →
      (ofSettings s).wayResult (t.insert key a) bonus =
        (ofSettings s).wayResult (t.insert key b) bonus) ∧
    (∀ (t : Tags) (key : String) (values : Values),
      key ∉ s.vocabulary.restrictionKeys ++ keysReadAsSets → key ∉ keysReadFirst →
      ¬ SpeaksOfSide key →
      (ofSettings s).wayResult (t.insert key values) bonus = (ofSettings s).wayResult t bonus) := by
  refine ⟨?_, ?_, ?_, ?_⟩
  · intro t u alike
    exact wayResult_of_readsAlike alike bonus
  · intro t u same
    exact wayResult_of_readsAlike (readsAlike_of_perm s same) bonus
  · intro t key a b notFirst same
    exact wayResult_of_readsAlike (readsAlike_insert s t notFirst same) bonus
  · intro t key values unread notFirst noSide
    exact wayResult_of_readsAlike (readsAlike_unread t values unread notFirst noSide) bonus

def mergedStreet : Tags :=
  ⟨[("name", ⟨"High Street", []⟩), ("highway", ⟨"service", ["footway"]⟩),
    ("maxspeed", ⟨"20", ["50"]⟩), ("sidewalk:left:width", ⟨"2", []⟩)], by decide⟩

def mergedAnew : Tags :=
  ⟨[("sidewalk:both", ⟨"separate", []⟩), ("maxspeed", ⟨"20", []⟩),
    ("highway", ⟨"footway", ["service", "footway"]⟩)], by decide⟩

theorem mergedStreet_readsAlike : ({} : Settings).ReadsAlike mergedStreet mergedAnew where
  sets k read v := by
    have both : ∀ k ∈ ({} : Settings).vocabulary.restrictionKeys ++ keysReadAsSets,
        mergedStreet.values k ⊆ mergedAnew.values k ∧
          mergedAnew.values k ⊆ mergedStreet.values k := by decide
    exact ⟨fun h => (both k read).1 h, fun h => (both k read).2 h⟩
  firsts := by decide
  sides := iff_of_true
    ⟨"sidewalk:left:width", by decide, "sidewalk:left", by decide, by decide⟩
    ⟨"sidewalk:both", by decide, "sidewalk:both", by decide, by decide⟩

theorem mergedStreet_read_anew :
    ({} : Settings).ReadsAlike mergedStreet mergedAnew ∧
    (ofSettings {}).wayResult mergedStreet 5 = (ofSettings {}).wayResult mergedAnew 5 ∧
    (ofSettings {}).wayResult ⟨mergedAnew.entries.reverse, by decide⟩ 5 =
      (ofSettings {}).wayResult mergedAnew 5 ∧
    (ofSettings {}).wayResult (mergedAnew.insert "foot" ⟨"no", ["yes", "no"]⟩) 5 =
      (ofSettings {}).wayResult (mergedAnew.insert "foot" ⟨"yes", ["no"]⟩) 5 ∧
    (ofSettings {}).wayResult (mergedAnew.insert "lit" ⟨"yes", []⟩) 5 =
      (ofSettings {}).wayResult mergedAnew 5 := by
  obtain ⟨alike, reordered, again, unread⟩ := result_reads_only {} 5
  refine ⟨mergedStreet_readsAlike, alike _ _ mergedStreet_readsAlike, ?_, ?_, ?_⟩
  · exact reordered _ _ (List.reverse_perm _)
  · apply again _ _ _ _ (by decide)
    intro v
    simp [Values.toList, or_comm]
  · apply unread _ _ _ (by decide) (by decide)
    rintro ⟨start, known, begins⟩
    exact absurd begins ((by decide : ∀ start ∈ sidewalkStarts,
      ¬ start.toList <+: "lit".toList) start known)

end Profile
end StepFree
