import StepFree.Proofs.Way.Signals

namespace StepFree

theorem fastPenalty_le (v : Float) : fastPenalty v ≤ 3 := by
  unfold fastPenalty
  grind

theorem fastPenalty_eq_zero {v : Float} : fastPenalty v = 0 ↔ ¬ 50.0 < v := by
  unfold fastPenalty
  grind

theorem slowBonus_range (v : Float) : 0 ≤ slowBonus v ∧ slowBonus v ≤ 1 := by
  unfold slowBonus
  grind

theorem slowBonus_eq_one {v : Float} : slowBonus v = 1 ↔ 0.0 < v ∧ v ≤ 20.0 := by
  simp [slowBonus]

theorem evidencePenalty_range (sidewalk pedestrianized : Bool) :
    0 ≤ evidencePenalty sidewalk pedestrianized ∧ evidencePenalty sidewalk pedestrianized ≤ 2 := by
  cases sidewalk <;> cases pedestrianized <;> decide

theorem evidencePenalty_eq_zero {sidewalk pedestrianized : Bool} :
    evidencePenalty sidewalk pedestrianized = 0 ↔ sidewalk = true ∨ pedestrianized = true := by
  cases sidewalk <;> cases pedestrianized <;> decide

theorem Band.ofScore_eq_best {score : Int} : ofScore score = .best ↔ 6 ≤ score := by
  unfold ofScore
  grind

namespace Settings

variable (s : Settings) (l : Lookups) (t : Tags)

/-- Whether walking has the strongest of signs. The two tiers may each be shown by a highway value of its
own. -/
def StrongFootSign : Prop :=
  (t.Shows "highway" (s.categories.tier .fullyAccessibleHighways) ∧
    t.Shows "highway" (s.categories.tier .urbanPedestrianHighways)) ∨
  t.Shows "sidewalk" s.vocabulary.usableSidewalk ∨ "designated" ∈ t.values "foot"

structure Unopposed : Prop where
  calm : ¬ 50.0 < l.maxSpeed t
  quiet : ¬ t.Shows "highway" (s.categories.tier .assumedAccessibleHighways)
  walkable : t.Shows "highway" (s.categories.tier .fullyAccessibleHighways) →
    t.Shows "highway" (s.categories.tier .urbanPedestrianHighways)
  evident : l.sidewalk t = true ∨ l.pedestrianized t = true

theorem roadPenalty_range : 0 ≤ s.roadPenalty t ∧ s.roadPenalty t ≤ 5 := by
  unfold roadPenalty
  grind

theorem streetPenalty_range : 0 ≤ s.streetPenalty t ∧ s.streetPenalty t ≤ 1 := by
  unfold streetPenalty
  grind

theorem footBonus_range : 0 ≤ s.footBonus t ∧ s.footBonus t ≤ 5 := by
  unfold footBonus
  grind

variable {s t}

theorem highwayIn_eq_true {k : Tier} :
    s.highwayIn t k = true ↔ t.Shows "highway" (s.categories.tier k) :=
  Tags.carriesAny_eq_true

theorem roadPenalty_eq_zero : s.roadPenalty t = 0 ↔
    ¬ t.Shows "highway" (s.categories.tier .assumedAccessibleHighways) := by
  rw [← highwayIn_eq_true]
  unfold roadPenalty
  grind

theorem streetPenalty_eq_zero : s.streetPenalty t = 0 ↔
    (t.Shows "highway" (s.categories.tier .fullyAccessibleHighways) →
      t.Shows "highway" (s.categories.tier .urbanPedestrianHighways)) := by
  rw [← highwayIn_eq_true, ← highwayIn_eq_true]
  unfold streetPenalty
  grind

theorem footBonus_eq_five : s.footBonus t = 5 ↔ s.StrongFootSign t := by
  have built : s.builtForWalking t = true ↔
      t.Shows "highway" (s.categories.tier .fullyAccessibleHighways) ∧
        t.Shows "highway" (s.categories.tier .urbanPedestrianHighways) := by
    rw [builtForWalking, Bool.and_eq_true, highwayIn_eq_true, highwayIn_eq_true]
  have sidewalk : s.usableSidewalk t = true ↔ t.Shows "sidewalk" s.vocabulary.usableSidewalk :=
    Tags.carriesAny_eq_true
  rw [StrongFootSign, ← built, ← sidewalk, ← Tags.carries_eq_true]
  unfold footBonus
  grind

variable (s t)

theorem against_eq_zero : (s.signals l t).against = 0 ↔ s.Unopposed l t := by
  have fast := fastPenalty_nonneg (l.maxSpeed t)
  have road := s.roadPenalty_range t
  have street := s.streetPenalty_range t
  have evidence := evidencePenalty_range (l.sidewalk t) (l.pedestrianized t)
  constructor
  · intro none
    simp only [signals] at none
    exact ⟨fastPenalty_eq_zero.mp (by omega), roadPenalty_eq_zero.mp (by omega),
      streetPenalty_eq_zero.mp (by omega), evidencePenalty_eq_zero.mp (by omega)⟩
  · rintro ⟨calm, quiet, walkable, evident⟩
    simp only [signals, fastPenalty_eq_zero.mpr calm, roadPenalty_eq_zero.mpr quiet,
      streetPenalty_eq_zero.mpr walkable, evidencePenalty_eq_zero.mpr evident]
    rfl

/-- Six points at most speak for a way, of which five for walking, and eleven against it. A way is of the
best band if it is slow, has a strongest sign for walking and nothing against it. -/
theorem signals_in_range (s : Settings) (l : Lookups) (t : Tags) :
    let f := s.signals l t
    (0 ≤ f.inFavour ∧ f.inFavour ≤ 6) ∧ (0 ≤ f.against ∧ f.against ≤ 11) ∧
    (-11 ≤ f.score ∧ f.score ≤ 6) ∧
    (f.inFavour = slowBonus (l.maxSpeed t) + s.footBonus t ∧ s.footBonus t ≤ 5) ∧
    (f.band = .best ↔
      (0.0 < l.maxSpeed t ∧ l.maxSpeed t ≤ 20.0) ∧ s.StrongFootSign t ∧ f.against = 0) ∧
    (f.against = 0 ↔ s.Unopposed l t) := by
  intro f
  have slow := slowBonus_range (l.maxSpeed t)
  have foot := s.footBonus_range t
  have favour : f.inFavour = slowBonus (l.maxSpeed t) + s.footBonus t := rfl
  have against : 0 ≤ f.against ∧ f.against ≤ 11 := by
    have fast := fastPenalty_nonneg (l.maxSpeed t)
    have fastest := fastPenalty_le (l.maxSpeed t)
    have road := s.roadPenalty_range t
    have street := s.streetPenalty_range t
    have evidence := evidencePenalty_range (l.sidewalk t) (l.pedestrianized t)
    simp only [f, signals]
    omega
  have score : f.score = f.inFavour - f.against := rfl
  refine ⟨by omega, against, by omega, ⟨favour, foot.2⟩, ?_, s.against_eq_zero l t⟩
  rw [Signals.band, Band.ofScore_eq_best, ← slowBonus_eq_one, ← footBonus_eq_five]
  omega

def lanesAndFootways : Settings :=
  { categories := (Categories.standard.replace .fullyAccessibleHighways ["lane"]).replace
      .urbanPedestrianHighways ["footway"] }

def slowLane : Tags :=
  ⟨[("highway", ⟨"lane", ["footway"]⟩), ("maxspeed", ⟨"15", []⟩)], by decide⟩

/-- Two highway values, one in each tier, are as good as one in both. -/
theorem slowLane_is_best :
    (lanesAndFootways.signals (.standard {}) slowLane).band = .best ∧
    ¬ ((∃ v ∈ slowLane.values "highway",
          v ∈ lanesAndFootways.categories.tier .fullyAccessibleHighways ∧
          v ∈ lanesAndFootways.categories.tier .urbanPedestrianHighways) ∨
        slowLane.Shows "sidewalk" lanesAndFootways.vocabulary.usableSidewalk ∨
        "designated" ∈ slowLane.values "foot") := by
  have apart : ∀ v ∈ slowLane.values "highway",
      v ∈ lanesAndFootways.categories.tier .fullyAccessibleHighways →
      v ∉ lanesAndFootways.categories.tier .urbanPedestrianHighways := by
    decide
  have counted : lanesAndFootways.signals (.standard {}) slowLane = ⟨6, 0⟩ := by decide +kernel
  refine ⟨by rw [counted]; rfl, ?_⟩
  rintro (⟨v, found, full, urban⟩ | sidewalk | foot)
  · exact apart v found full urban
  · exact absurd (Tags.carriesAny_eq_true.mpr sidewalk) (by decide)
  · exact absurd foot (by decide)

end Settings
end StepFree
