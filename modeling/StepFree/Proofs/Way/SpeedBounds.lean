import StepFree.Proofs.Number.Arithmetic
import StepFree.Way.Speed

namespace StepFree

open StepFree.Number

/-- All speeds are positive, and no least speed is above the greatest. -/
structure Config.Sane (c : Config) : Prop where
  mean_positive : 0.0 < c.meanSpeed
  min_positive : 0.0 < c.minSpeed
  min_le_max : c.minSpeed ≤ c.maxSpeed
  ferry_min_positive : 0.0 < c.ferryMinSpeed
  ferry_min_le_max : c.ferryMinSpeed ≤ c.ferryMaxSpeed

namespace Settings

variable (s : Settings) (t : Tags)

def possibleFactors : List Float := [0.8, 0.9, 1.25, 2.0, 0.1, 3.0]

theorem possibleFactors_positive : ∀ c ∈ possibleFactors, c.isFinite = true ∧ 0.0 < c := by
  decide

theorem assumedFactors_subset : s.assumedFactors t ⊆ possibleFactors := by
  unfold assumedFactors
  split <;> decide

theorem accessibleFactors_subset : s.accessibleFactors t ⊆ possibleFactors := by
  unfold accessibleFactors
  split
  · split
    · split <;> decide
    · split <;> decide
  · decide

theorem restrictedFactors_subset : s.restrictedFactors t ⊆ possibleFactors := by
  unfold restrictedFactors
  split
  · split <;> decide
  · decide

theorem surfaceFactors_subset : s.surfaceFactors t ⊆ possibleFactors := by
  unfold surfaceFactors
  split
  · split <;> decide
  · split <;> decide

theorem speedFactors_subset : s.speedFactors t ⊆ possibleFactors := by
  simp only [speedFactors, List.append_subset]
  exact ⟨⟨⟨s.assumedFactors_subset t, s.accessibleFactors_subset t⟩,
    s.restrictedFactors_subset t⟩, s.surfaceFactors_subset t⟩

theorem isNaN_foldl_mul {factors : List Float} (possible : factors ⊆ possibleFactors) {x : Float}
    (number : x.isNaN = false) : (factors.foldl (· * ·) x).isNaN = false := by
  induction factors generalizing x with
  | nil => exact number
  | cons c r ih =>
    obtain ⟨head, tail⟩ := List.cons_subset.mp possible
    obtain ⟨finite, positive⟩ := possibleFactors_positive c head
    exact ih tail (isNaN_mul number finite positive)

variable {s}

theorem isNaN_unclampedSpeed (positive : 0.0 < s.config.meanSpeed) :
    (s.unclampedSpeed t).isNaN = false :=
  isNaN_foldl_mul (s.speedFactors_subset t) (isNaN_of_lt positive).2

theorem waySpeed_within (sane : s.config.Sane) : s.config.speedBounds.Holds (s.waySpeed t) :=
  Bounds.holds_clamp sane.min_le_max (isNaN_unclampedSpeed t sane.mean_positive)

end Settings

namespace FerrySpeed

variable {bounds : Bounds} (ordered : bounds.low ≤ bounds.high) (hours metres : Float)

include ordered

theorem usual_within : bounds.Holds (usual bounds hours metres) := by
  unfold usual
  split
  · split
    · -- The least speed is returned as it is.
      exact ⟨le_self (isNaN_of_le ordered).1, ordered⟩
    · exact Bounds.holds_clamp ordered (by decide)
  · split
    · exact Bounds.holds_clamp ordered (by decide)
    · exact Bounds.holds_clamp ordered (by decide)

theorem ofTrip_within {x : Float} (returned : ofTrip bounds hours metres = .ok x) :
    bounds.Holds x := by
  unfold ofTrip at returned
  split at returned
  · split at returned
    · cases returned
    · rename_i n _
      cases returned
      exact Bounds.holds_clamp ordered (isNaN_ofInt n)
  · cases returned
    exact usual_within ordered hours metres

theorem ofTags_within {t : Tags} {x : Float} (returned : ofTags bounds t = .ok x) :
    bounds.Holds x :=
  ofTrip_within ordered _ _ returned

end FerrySpeed
end StepFree
