import StepFree.Profile.Basic
import StepFree.Proofs.Number.Magnitude
import StepFree.Proofs.Profile.Relevance
import StepFree.Proofs.Tags.Adding

namespace StepFree

open StepFree.Number

def Band.ends : List Int :=
  [-6, -3, -1, 0, 2, 5]

theorem Band.value_ofScore (score : Int) :
    (Band.ofScore score).value = ends.countP (· < score) + 1 := by
  simp only [ends, List.countP_cons, List.countP_nil, decide_eq_true_eq]
  unfold Band.ofScore
  grind [Band.value]

theorem Band.value_ofScore_mono {a b : Int} (le : a ≤ b) :
    (Band.ofScore a).value ≤ (Band.ofScore b).value := by
  rw [value_ofScore, value_ofScore]
  apply Nat.succ_le_succ
  refine List.countP_mono_left fun e _ below => ?_
  rw [decide_eq_true_eq] at below ⊢
  omega

def speedScore (v : Float) : Int :=
  slowBonus v - fastPenalty v

/-- Whether a limit spares a way a step of the penalty that another limit would bring. -/
def Calms (v m : Float) : Prop :=
  (v ≤ 60.0 ∧ 60.0 < m) ∨ (v ≤ 80.0 ∧ 80.0 < m)

theorem fastPenalty_nonneg (v : Float) : 0 ≤ fastPenalty v := by
  unfold fastPenalty
  grind

theorem speedScore_le_one (v : Float) : speedScore v ≤ 1 := by
  have nonneg := fastPenalty_nonneg v
  have bonus : slowBonus v ≤ 1 := by
    unfold slowBonus
    grind
  unfold speedScore
  omega

section
variable {v m : Float}

theorem fastPenalty_mono (le : v ≤ m) : fastPenalty v ≤ fastPenalty m := by
  have fifty : (50.0 : Float) < v → (50.0 : Float) < m := fun fast => lt_of_lt_of_le fast le
  have sixty : (60.0 : Float) < v → (60.0 : Float) < m := fun fast => lt_of_lt_of_le fast le
  have eighty : (80.0 : Float) < v → (80.0 : Float) < m := fun fast => lt_of_lt_of_le fast le
  unfold fastPenalty
  grind

theorem speedScore_of_slow (positive : 0.0 < v) (slow : v ≤ 20.0) : speedScore v = 1 := by
  have most : fastPenalty v ≤ fastPenalty 20.0 := fastPenalty_mono slow
  have none : fastPenalty 20.0 = 0 := by decide
  have nonneg := fastPenalty_nonneg v
  have bonus : slowBonus v = 1 := by simp [slowBonus, positive, slow]
  unfold speedScore
  omega

theorem speedScore_of_fast (fast : 50.0 < v) : speedScore v = -fastPenalty v := by
  have notSlow : ¬ v ≤ 20.0 := by
    intro slow
    have less : (50.0 : Float) < 20.0 := lt_of_lt_of_le fast slow
    exact absurd less (by decide)
  have bonus : slowBonus v = 0 := by simp [slowBonus, notSlow]
  unfold speedScore
  omega

theorem lt_of_calms (magnitude : Magnitude v) (other : Magnitude m) (calms : Calms v m) :
    v < m := by
  have apart {limit : Float} (below : v ≤ limit) (above : limit < m) : v < m :=
    (magnitude.lt_or_le other).resolve_right fun le => not_lt_of_le (le_trans le below) above
  rcases calms with ⟨below, above⟩ | ⟨below, above⟩
  · exact apart below above
  · exact apart below above

theorem fastPenalty_eq_of_not_calms (magnitude : Magnitude v) (fast : 50.0 < v) (le : v ≤ m)
    (calms : ¬ Calms v m) : fastPenalty v = fastPenalty m := by
  obtain ⟨sixty, eighty⟩ := not_or.mp calms
  apply Int.le_antisymm (fastPenalty_mono le)
  have kept {limit : Float} (bound : Magnitude limit) (notCalmed : ¬ (v ≤ limit ∧ limit < m))
      (above : limit < m) : limit < v :=
    (bound.lt_or_le magnitude).resolve_right fun below => notCalmed ⟨below, above⟩
  have atSixty : (60.0 : Float) < m → (60.0 : Float) < v := kept (by decide) sixty
  have atEighty : (80.0 : Float) < m → (80.0 : Float) < v := kept (by decide) eighty
  unfold fastPenalty
  grind

end

theorem evidencePenalty_anti {a b a' b' : Bool} (sidewalk : a = true → a' = true)
    (walking : b = true → b' = true) : evidencePenalty a' b' ≤ evidencePenalty a b := by
  unfold evidencePenalty
  grind

/-- The keys, besides that of highways, whose values can be signs that a way is fit for walking. -/
def signKeys : List String :=
  ["sidewalk", "foot", "bicycle", "public_transport", "railway"]

section
variable {t u : Tags} (signs : ∀ k ∈ signKeys, t.values k ⊆ u.values k)

include signs

theorem Settings.footBonus_mono (s : Settings)
    (built : s.builtForWalking t = true → s.builtForWalking u = true) :
    s.footBonus t ≤ s.footBonus u := by
  have sidewalk : s.usableSidewalk t = true → s.usableSidewalk u = true :=
    Tags.carriesAny_mono (signs _ (by decide))
  have designated : t.carries "foot" "designated" = true → u.carries "foot" "designated" = true :=
    Tags.carries_mono (signs _ (by decide))
  have opened : s.intended t "foot" = true → s.intended u "foot" = true :=
    Tags.carriesAny_mono (signs _ (by decide))
  have bicycle :
      t.carries "bicycle" "designated" = true → u.carries "bicycle" "designated" = true :=
    Tags.carries_mono (signs _ (by decide))
  unfold footBonus
  grind

theorem evidencePenalty_mono (sides : t.NamesSide → u.NamesSide)
    (walkway : t.carriesAny "highway" Evidence.pedestrianHighways = true →
      u.carriesAny "highway" Evidence.pedestrianHighways = true) :
    evidencePenalty (Evidence.sidewalk u) (Evidence.pedestrianized u) ≤
      evidencePenalty (Evidence.sidewalk t) (Evidence.pedestrianized t) := by
  apply evidencePenalty_anti
  · simp only [Evidence.sidewalk, Bool.or_eq_true, Tags.namesSide_iff]
    exact Or.imp (Tags.carriesAny_mono (signs _ (by decide))) sides
  · simp only [Evidence.pedestrianized, Bool.or_eq_true, or_assoc]
    exact Or.imp walkway (Or.imp (Tags.carries_mono (signs _ (by decide)))
      (Or.imp (Tags.carries_mono (signs _ (by decide)))
        (Tags.carriesAny_mono (signs _ (by decide)))))

end

namespace Settings

variable {s : Settings} {t u : Tags}

theorem roadPenalty_mono (sub : t.values "highway" ⊆ u.values "highway") :
    s.roadPenalty t ≤ s.roadPenalty u := by
  have more (accepted : ValueSet) (carried : t.carriesAny "highway" accepted = true) :
      u.carriesAny "highway" accepted = true :=
    Tags.carriesAny_mono sub carried
  have assumed := more (s.categories.tier .assumedAccessibleHighways)
  have trunk := more trunkHighways
  have primary := more primaryHighways
  unfold roadPenalty highwayIn
  grind

/-- What the tags of a way, its limits apart, add to its score. -/
def walkScore (s : Settings) (t : Tags) : Int :=
  s.footBonus t - s.roadPenalty t - s.streetPenalty t -
    evidencePenalty (Evidence.sidewalk t) (Evidence.pedestrianized t)

theorem walkScore_le (foot : s.footBonus t ≤ s.footBonus u)
    (road : s.roadPenalty u ≤ s.roadPenalty t) (street : s.streetPenalty u ≤ s.streetPenalty t)
    (evidence : evidencePenalty (Evidence.sidewalk u) (Evidence.pedestrianized u) ≤
      evidencePenalty (Evidence.sidewalk t) (Evidence.pedestrianized t)) :
    s.walkScore t ≤ s.walkScore u := by
  unfold walkScore
  omega

theorem walkScore_le_of_signs
    (highway : ∀ accepted, t.carriesAny "highway" accepted = u.carriesAny "highway" accepted)
    (signs : ∀ k ∈ signKeys, t.values k ⊆ u.values k) (sides : t.NamesSide → u.NamesSide) :
    s.walkScore t ≤ s.walkScore u := by
  have tier (k : Tier) : s.highwayIn t k = s.highwayIn u k := highway _
  have road : s.roadPenalty t = s.roadPenalty u := by
    rw [roadPenalty, roadPenalty, tier, highway, highway]
  have street : s.streetPenalty t = s.streetPenalty u := by
    rw [streetPenalty, streetPenalty, tier, tier]
  refine walkScore_le (s.footBonus_mono signs fun built => ?_) (Int.le_of_eq road.symm)
    (Int.le_of_eq street.symm) (evidencePenalty_mono signs sides fun walkway => ?_)
  · rwa [builtForWalking, tier, tier] at built
  · rwa [highway] at walkway

variable (s t)

def score : Int :=
  ((Profile.ofSettings s).signals t).score

def bandValue : Nat :=
  ((Profile.ofSettings s).signals t).band.value

theorem score_eq : s.score t = speedScore (SpeedLimit.ofTags t) + s.walkScore t := by
  change slowBonus (SpeedLimit.ofTags t) + s.footBonus t -
    (fastPenalty (SpeedLimit.ofTags t) + s.roadPenalty t + s.streetPenalty t +
      evidencePenalty (Evidence.sidewalk t) (Evidence.pedestrianized t)) = _
  unfold speedScore walkScore
  omega

variable {s t}

/-- A higher score gives a band that is at least as good. -/
theorem bandValue_mono (le : s.score t ≤ s.score u) : s.bandValue t ≤ s.bandValue u :=
  Band.value_ofScore_mono le

end Settings
end StepFree
