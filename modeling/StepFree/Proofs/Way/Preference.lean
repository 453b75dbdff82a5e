import StepFree.Proofs.Way.DeclaredSpeed
import StepFree.Proofs.Way.Signals

/-! What one tag more does to the preference for a way. Words that recommend a way for walking never
make its band worse, and highway values that speak of traffic never make it better. A limit more can
do both: a way with two limits counts as slow as the lower one says. -/
namespace StepFree

open StepFree.Number

variable {s : Settings} {t : Tags} {key value : String}

theorem SpeedLimit.ofTags_add (unlimited : key ∉ SpeedLimit.keys) :
    ofTags (t.add key value) = ofTags t := by
  refine ofTags_congr fun k limit => ?_
  have other : k ≠ key := fun here => unlimited (here ▸ limit)
  rw [Tags.add, Tags.extend, Tags.first?_insert, if_neg other]

theorem Tags.namesSide_add : (t.add key value).NamesSide ↔ SpeaksOfSide key ∨ t.NamesSide :=
  t.namesSide_insert key _

theorem not_speaksOfSide : ∀ k ∈ "highway" :: SpeedLimit.keys, ¬ SpeaksOfSide k := by
  unfold SpeaksOfSide
  decide

namespace Settings

theorem walkScore_le_add (other : key ≠ "highway") :
    s.walkScore t ≤ s.walkScore (t.add key value) := by
  refine walkScore_le_of_signs (fun accepted => ?_) (fun k _ => t.values_subset_add key value k)
    fun named => Tags.namesSide_add.mpr (.inr named)
  exact ((t.sameValues_add value other.symm).carriesAny accepted).symm

theorem roadPenalty_add (slow : value ∉ s.categories.tier .assumedAccessibleHighways)
    (trunk : value ∉ trunkHighways) (primary : value ∉ primaryHighways) :
    s.roadPenalty (t.add "highway" value) = s.roadPenalty t := by
  unfold roadPenalty highwayIn
  rw [Tags.carriesAny_add_unasked fun _ => slow, Tags.carriesAny_add_unasked fun _ => trunk,
    Tags.carriesAny_add_unasked fun _ => primary]

theorem streetPenalty_add_le (fit : value ∉ s.categories.tier .fullyAccessibleHighways ∨
      value ∈ s.categories.tier .urbanPedestrianHighways) :
    s.streetPenalty (t.add "highway" value) ≤ s.streetPenalty t := by
  unfold streetPenalty highwayIn
  rw [Tags.carriesAny_add, Tags.carriesAny_add]
  rcases fit with limited | made
  · rw [ValueSet.contains, decide_eq_false limited]
    grind
  · rw [ValueSet.contains, ValueSet.contains, decide_eq_true made]
    grind

theorem walkScore_le_add_highway (slow : value ∉ s.categories.tier .assumedAccessibleHighways)
    (trunk : value ∉ trunkHighways) (primary : value ∉ primaryHighways)
    (fit : value ∉ s.categories.tier .fullyAccessibleHighways ∨
      value ∈ s.categories.tier .urbanPedestrianHighways) :
    s.walkScore t ≤ s.walkScore (t.add "highway" value) := by
  have more (k : String) : t.values k ⊆ (t.add "highway" value).values k :=
    t.values_subset_add "highway" value k
  refine walkScore_le (s.footBonus_mono (fun k _ => more k) fun built => ?_)
    (Int.le_of_eq (roadPenalty_add slow trunk primary)) (streetPenalty_add_le fit)
    (evidencePenalty_mono (fun k _ => more k) (fun named => Tags.namesSide_add.mpr (.inr named))
      (Tags.carriesAny_mono (more _)))
  rw [builtForWalking, Bool.and_eq_true] at built ⊢
  exact built.imp (Tags.carriesAny_mono (more _)) (Tags.carriesAny_mono (more _))

theorem walkScore_add_highway_le
    (walkways : ∀ v ∈ s.categories.tier .urbanPedestrianHighways,
      v ∈ s.categories.tier .fullyAccessibleHighways)
    (other : value ∉ s.categories.tier .urbanPedestrianHighways)
    (bare : value ∉ Evidence.pedestrianHighways) :
    s.walkScore (t.add "highway" value) ≤ s.walkScore t := by
  have signs : ∀ k ∈ signKeys, (t.add "highway" value).values k ⊆ t.values k := by
    intro k sign
    have apart : ∀ k ∈ signKeys, k ≠ "highway" := by decide
    exact Tags.values_add_subset (apart k sign)
  have urban : s.highwayIn (t.add "highway" value) .urbanPedestrianHighways =
      s.highwayIn t .urbanPedestrianHighways :=
    Tags.carriesAny_add_unasked fun _ => other
  refine walkScore_le ?_ (roadPenalty_mono (t.values_subset_add "highway" value "highway")) ?_ ?_
  · refine s.footBonus_mono signs fun built => ?_
    rw [builtForWalking, Bool.and_eq_true, urban] at built
    obtain ⟨v, found, known⟩ := Tags.carriesAny_eq_true.mp built.2
    rw [builtForWalking, Bool.and_eq_true]
    exact ⟨Tags.carriesAny_eq_true.mpr ⟨v, found, walkways v known⟩, built.2⟩
  · have full : s.highwayIn t .fullyAccessibleHighways = true →
        s.highwayIn (t.add "highway" value) .fullyAccessibleHighways = true :=
      Tags.carriesAny_mono (t.values_subset_add "highway" value _)
    unfold streetPenalty
    rw [urban]
    grind
  · refine evidencePenalty_mono signs (fun named => ?_) fun walkway => ?_
    · exact (Tags.namesSide_add.mp named).resolve_left (not_speaksOfSide _ (by decide))
    · rwa [Tags.carriesAny_add_unasked fun _ => bare] at walkway

theorem walkScore_insert_limit (limit : key ∈ SpeedLimit.keys) (values : Values) :
    s.walkScore (t.insert key values) = s.walkScore t := by
  have kept {k : String} (other : k ∉ SpeedLimit.keys) :
      (t.insert key values).values k = t.values k :=
    t.values_insert_other values fun here => other (here ▸ limit)
  have highway (accepted : ValueSet) :
      (t.insert key values).carriesAny "highway" accepted = t.carriesAny "highway" accepted := by
    rw [Tags.carriesAny, Tags.carriesAny, kept (by decide)]
  have signs : ∀ k ∈ signKeys, (t.insert key values).values k = t.values k := by
    intro k sign
    have apart : ∀ k ∈ signKeys, k ∉ SpeedLimit.keys := by decide
    exact kept (apart k sign)
  have sides : (t.insert key values).NamesSide ↔ t.NamesSide := by
    rw [Tags.namesSide_insert, or_iff_right (not_speaksOfSide key (List.mem_cons_of_mem _ limit))]
  apply Int.le_antisymm
  · exact walkScore_le_of_signs highway (fun k sign _ found => signs k sign ▸ found) sides.mp
  · exact walkScore_le_of_signs (fun _ => (highway _).symm)
      (fun k sign _ found => (signs k sign).symm ▸ found) sides.mpr

theorem score_add (unlimited : key ∉ SpeedLimit.keys) : s.score (t.add key value) =
    s.score t + (s.walkScore (t.add key value) - s.walkScore t) := by
  rw [score_eq, score_eq, SpeedLimit.ofTags_add unlimited]
  omega

section
variable {values : Values} (limit : key ∈ SpeedLimit.keys) (absent : t.has key = false)

include limit

theorem score_insert_limit : s.score (t.insert key values) =
    s.score t + (speedScore (SpeedLimit.ofTags (t.insert key values)) -
      speedScore (SpeedLimit.ofTags t)) := by
  rw [score_eq, score_eq, walkScore_insert_limit limit]
  omega

include absent

theorem bandValue_le_insert_slow (positive : 0.0 < SpeedLimit.parse (some values.first))
    (slow : SpeedLimit.parse (some values.first) ≤ 20.0) :
    s.bandValue t ≤ s.bandValue (t.insert key values) := by
  have most : speedScore (SpeedLimit.ofTags (t.insert key values)) = 1 := by
    rcases SpeedLimit.ofTags_insert limit absent positive with
      ⟨_, alone⟩ | ⟨before, below, kept⟩ | ⟨_, lowest⟩
    · rw [alone]
      exact speedScore_of_slow positive slow
    · rw [kept]
      exact speedScore_of_slow before (le_trans below slow)
    · rw [lowest]
      exact speedScore_of_slow positive slow
  have least := speedScore_le_one (SpeedLimit.ofTags t)
  apply bandValue_mono
  rw [score_insert_limit limit]
  omega

/-- A high limit is no gain, unless it is lower than all others; then its penalty replaces that of
the least of them. -/
theorem speedScore_insert_fast (fast : 50.0 < SpeedLimit.parse (some values.first)) :
    SpeedLimit.ofTags t ≤ SpeedLimit.parse (some values.first) ∧
      speedScore (SpeedLimit.ofTags (t.insert key values)) ≤ speedScore (SpeedLimit.ofTags t) ∨
    SpeedLimit.parse (some values.first) < SpeedLimit.ofTags t ∧
      speedScore (SpeedLimit.ofTags (t.insert key values)) =
        speedScore (SpeedLimit.ofTags t) + (fastPenalty (SpeedLimit.ofTags t) -
          fastPenalty (SpeedLimit.parse (some values.first))) := by
  have positive : 0.0 < SpeedLimit.parse (some values.first) :=
    positive_of_le (by decide) (le_of_lt fast)
  have score := speedScore_of_fast fast
  rcases SpeedLimit.ofTags_insert limit absent positive with
    ⟨none, alone⟩ | ⟨_, below, kept⟩ | ⟨less, lowest⟩
  · have unknown : speedScore 0.0 = 0 := by decide
    have nonneg := fastPenalty_nonneg (SpeedLimit.parse (some values.first))
    rw [none, alone]
    exact .inl ⟨le_of_lt positive, by omega⟩
  · rw [kept]
    exact .inl ⟨below, Int.le_refl _⟩
  · have before := speedScore_of_fast (lt_of_lt_of_le fast (le_of_lt less))
    rw [lowest]
    exact .inr ⟨less, by omega⟩

theorem bandValue_insert_fast_le (fast : 50.0 < SpeedLimit.parse (some values.first))
    (calms : ¬ Calms (SpeedLimit.parse (some values.first)) (SpeedLimit.ofTags t)) :
    s.bandValue (t.insert key values) ≤ s.bandValue t := by
  apply bandValue_mono
  rw [score_insert_limit limit]
  rcases speedScore_insert_fast limit absent fast with ⟨_, noGain⟩ | ⟨less, replaced⟩
  · omega
  · have magnitude := magnitude_of_positive (positive_of_le (by decide) (le_of_lt fast))
    have same := fastPenalty_eq_of_not_calms magnitude fast (le_of_lt less) calms
    omega

theorem ofTags_insert_calm (fast : 50.0 < SpeedLimit.parse (some values.first))
    (calms : Calms (SpeedLimit.parse (some values.first)) (SpeedLimit.ofTags t)) :
    SpeedLimit.ofTags (t.insert key values) = SpeedLimit.parse (some values.first) ∧
      SpeedLimit.parse (some values.first) < SpeedLimit.ofTags t := by
  have positive : 0.0 < SpeedLimit.parse (some values.first) :=
    positive_of_le (by decide) (le_of_lt fast)
  have less := lt_of_calms (magnitude_of_positive positive) (SpeedLimit.magnitude_ofTags t) calms
  rcases SpeedLimit.ofTags_insert limit absent positive with
    ⟨_, alone⟩ | ⟨_, below, _⟩ | ⟨_, lowest⟩
  · exact ⟨alone, less⟩
  · exact absurd less (not_lt_of_le below)
  · exact ⟨lowest, less⟩

theorem score_insert_calm (fast : 50.0 < SpeedLimit.parse (some values.first))
    (calms : Calms (SpeedLimit.parse (some values.first)) (SpeedLimit.ofTags t)) :
    s.score (t.insert key values) = s.score t + (fastPenalty (SpeedLimit.ofTags t) -
      fastPenalty (SpeedLimit.parse (some values.first))) := by
  obtain ⟨replaced, less⟩ := ofTags_insert_calm limit absent fast calms
  have before := speedScore_of_fast (lt_of_lt_of_le fast (le_of_lt less))
  have after := speedScore_of_fast fast
  rw [score_insert_limit limit, replaced]
  omega

end

end Settings

def walkingHighways : List String :=
  ["footway", "pedestrian", "living_street", "path", "track"]

/-- Whether a value of a key recommends a way for walking. -/
def Vocabulary.Recommends (w : Vocabulary) (key value : String) : Prop :=
  (key = "sidewalk" ∧ value ∈ w.usableSidewalk) ∨
    (key = "foot" ∧ (value = "designated" ∨ value ∈ w.intended)) ∨
    (key = "bicycle" ∧ value = "designated") ∨
    (key = "highway" ∧ value ∈ walkingHighways) ∨
    ((key = "railway" ∨ key = "public_transport") ∧ value = "platform")

/-- Whether a highway value speaks of traffic. -/
def Categories.Busy (t : Categories) (value : String) : Prop :=
  value ∈ t.tier .assumedAccessibleHighways ∨
    value ∈ t.tier .fullyAccessibleHighways ∧ value ∉ t.tier .urbanPedestrianHighways

theorem Vocabulary.Recommends.kind {w : Vocabulary} (recommends : w.Recommends key value) :
    key ∉ SpeedLimit.keys ∧
      (key ≠ "highway" ∨ key = "highway" ∧ value ∈ walkingHighways) := by
  rcases recommends with ⟨rfl, _⟩ | ⟨rfl, _⟩ | ⟨rfl, _⟩ | ⟨rfl, walking⟩ | ⟨rfl | rfl, _⟩
  · exact ⟨by decide, .inl (by decide)⟩
  · exact ⟨by decide, .inl (by decide)⟩
  · exact ⟨by decide, .inl (by decide)⟩
  · exact ⟨by decide, .inr ⟨rfl, walking⟩⟩
  · exact ⟨by decide, .inl (by decide)⟩
  · exact ⟨by decide, .inl (by decide)⟩

theorem standard_walkway : ∀ v ∈ walkingHighways,
    v ∉ Categories.standard.tier .assumedAccessibleHighways ∧ v ∉ trunkHighways ∧
      v ∉ primaryHighways ∧ (v ∉ Categories.standard.tier .fullyAccessibleHighways ∨
        v ∈ Categories.standard.tier .urbanPedestrianHighways) := by
  decide

theorem standard_busy (busy : Categories.standard.Busy value) :
    value ∉ Categories.standard.tier .urbanPedestrianHighways ∧
      value ∉ Evidence.pedestrianHighways := by
  have assumed : ∀ v ∈ (Categories.standard.tier .assumedAccessibleHighways).members,
      v ∉ Categories.standard.tier .urbanPedestrianHighways ∧
        v ∉ Evidence.pedestrianHighways := by decide
  have full : ∀ v ∈ (Categories.standard.tier .fullyAccessibleHighways).members,
      v ∉ Categories.standard.tier .urbanPedestrianHighways →
        v ∉ Evidence.pedestrianHighways := by decide
  rcases busy with road | ⟨street, other⟩
  · exact assumed value road
  · exact ⟨other, full value street other⟩

def Settings.standardTiers (c : Config) (w : Vocabulary) : Settings :=
  { config := c, vocabulary := w }

/-- With the standard tiers, whatever the words of access, a value that recommends a way for walking
never makes its band worse, nor does a limit of at most 20 km/h under a key of its own. -/
theorem recommended_never_lowers_band (c : Config) (w : Vocabulary) (t : Tags) :
    (∀ key value, w.Recommends key value →
      (Settings.standardTiers c w).bandValue t ≤
        (Settings.standardTiers c w).bandValue (t.add key value)) ∧
    (∀ key ∈ SpeedLimit.keys, t.has key = false → ∀ values : Values,
      0.0 < SpeedLimit.parse (some values.first) →
      SpeedLimit.parse (some values.first) ≤ 20.0 →
      (Settings.standardTiers c w).bandValue t ≤
        (Settings.standardTiers c w).bandValue (t.insert key values)) := by
  constructor
  · intro key value recommends
    obtain ⟨unlimited, kind⟩ := recommends.kind
    apply Settings.bandValue_mono
    rw [Settings.score_add unlimited]
    refine Int.le_add_of_nonneg_right (Int.sub_nonneg_of_le ?_)
    rcases kind with other | ⟨rfl, walking⟩
    · exact Settings.walkScore_le_add other
    · obtain ⟨slow, trunk, primary, fit⟩ := standard_walkway value walking
      exact Settings.walkScore_le_add_highway slow trunk primary fit
  · intro key limit absent values positive slow
    exact Settings.bandValue_le_insert_slow limit absent positive slow

/-- With the standard tiers a highway value that speaks of traffic never makes a band better, nor
does a limit above 50 km/h under a key of its own, unless it calms the way; then it takes the place of
the limits before it, and its penalty that of the least of them. -/
theorem busy_never_raises_band (c : Config) (w : Vocabulary) (t : Tags) :
    (∀ value, Categories.standard.Busy value →
      (Settings.standardTiers c w).bandValue (t.add "highway" value) ≤
        (Settings.standardTiers c w).bandValue t) ∧
    (∀ key ∈ SpeedLimit.keys, t.has key = false → ∀ values : Values,
      50.0 < SpeedLimit.parse (some values.first) →
      (¬ Calms (SpeedLimit.parse (some values.first)) (SpeedLimit.ofTags t) →
        (Settings.standardTiers c w).bandValue (t.insert key values) ≤
          (Settings.standardTiers c w).bandValue t) ∧
      (Calms (SpeedLimit.parse (some values.first)) (SpeedLimit.ofTags t) →
        SpeedLimit.ofTags (t.insert key values) = SpeedLimit.parse (some values.first) ∧
        (Settings.standardTiers c w).score (t.insert key values) =
          (Settings.standardTiers c w).score t +
            (fastPenalty (SpeedLimit.ofTags t) -
              fastPenalty (SpeedLimit.parse (some values.first))))) := by
  constructor
  · intro value busy
    obtain ⟨other, bare⟩ := standard_busy busy
    apply Settings.bandValue_mono
    rw [Settings.score_add (by decide)]
    have walkways : ∀ v ∈ (Categories.standard.tier .urbanPedestrianHighways).members,
        v ∈ Categories.standard.tier .fullyAccessibleHighways := by decide
    have walk : (Settings.standardTiers c w).walkScore (t.add "highway" value) ≤
        (Settings.standardTiers c w).walkScore t :=
      Settings.walkScore_add_highway_le walkways other bare
    omega
  · intro key limit absent values fast
    refine ⟨Settings.bandValue_insert_fast_le limit absent fast, fun calms => ⟨?_, ?_⟩⟩
    · exact (Settings.ofTags_insert_calm limit absent fast calms).1
    · exact Settings.score_insert_calm limit absent fast calms

def fastPath : Tags :=
  ⟨[("highway", ⟨"path", []⟩), ("maxspeed", ⟨"100", []⟩)], by decide⟩

theorem recommended_path_keeps_band :
    (Settings.standardTiers {} .standard).bandValue fastPath ≤
      (Settings.standardTiers {} .standard).bandValue (fastPath.add "foot" "designated") ∧
    (Settings.standardTiers {} .standard).bandValue fastPath ≤
      (Settings.standardTiers {} .standard).bandValue
        (fastPath.insert "maxspeed:forward" ⟨"15", []⟩) := by
  obtain ⟨words, limits⟩ := recommended_never_lowers_band {} .standard fastPath
  constructor
  · exact words "foot" "designated" (.inr (.inl ⟨rfl, .inl rfl⟩))
  · exact limits "maxspeed:forward" (by decide) (by decide) ⟨"15", []⟩ (by decide) (by decide)

theorem busy_path_keeps_band :
    (Settings.standardTiers {} .standard).bandValue (fastPath.add "highway" "trunk") ≤
      (Settings.standardTiers {} .standard).bandValue fastPath ∧
    (Settings.standardTiers {} .standard).bandValue
        (fastPath.insert "maxspeed:forward" ⟨"90", []⟩) ≤
      (Settings.standardTiers {} .standard).bandValue fastPath ∧
    SpeedLimit.ofTags (fastPath.insert "maxspeed:forward" ⟨"55", []⟩) =
      SpeedLimit.parse (some "55") ∧
    (Settings.standardTiers {} .standard).score (fastPath.insert "maxspeed:forward" ⟨"55", []⟩) =
      (Settings.standardTiers {} .standard).score fastPath +
        (fastPenalty (SpeedLimit.ofTags fastPath) -
          fastPenalty (SpeedLimit.parse (some "55"))) := by
  obtain ⟨roads, limits⟩ := busy_never_raises_band {} .standard fastPath
  have ninety := limits "maxspeed:forward" (by decide) (by decide) ⟨"90", []⟩ (by decide)
  have fiftyFive := limits "maxspeed:forward" (by decide) (by decide) ⟨"55", []⟩ (by decide)
  have both : ¬ Calms (SpeedLimit.parse (some "90")) (SpeedLimit.ofTags fastPath) := by
    unfold Calms
    decide +kernel
  have calms : Calms (SpeedLimit.parse (some "55")) (SpeedLimit.ofTags fastPath) := by
    unfold Calms
    decide +kernel
  exact ⟨roads "trunk" (.inl (by decide)), ninety.1 both, fiftyFive.2 calms⟩

/-- A limit of 55 km/h in one direction makes the band of a fast path better. -/
theorem lower_limit_raises_band :
    "maxspeed:forward" ∈ SpeedLimit.keys ∧ fastPath.has "maxspeed:forward" = false ∧
      50.0 < SpeedLimit.parse (some "55") ∧
      ¬ (Settings.standardTiers {} .standard).bandValue
          (fastPath.insert "maxspeed:forward" ⟨"55", []⟩) ≤
        (Settings.standardTiers {} .standard).bandValue fastPath := by
  decide +kernel

end StepFree
