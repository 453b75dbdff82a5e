import StepFree.Lookup.FerrySpeed
import StepFree.Proofs.Number.Dividing
import StepFree.Proofs.Number.Whole

namespace StepFree.FerrySpeed

open StepFree.Number

def seconds (t : Tags) : Float :=
  positiveNumber (t.first? "duration:seconds")

/-- Whether a trip tells its speed: it has a duration and a distance, and is neither absurdly slow nor
so fast that no double holds its speed. -/
structure Timed (t : Tags) : Prop where
  usable : isUsable (hours t) (metres t) = true
  finite : (tripSpeed (hours t) (metres t)).isFinite = true

/-- A bound, or else the whole number nearest to the speed of the trip. -/
def Settles (b : Bounds) (t : Tags) (x : Float) : Prop :=
  x = b.low ∨ x = b.high ∨
    ∃ n, nearestInt? (tripSpeed (hours t) (metres t)) = some n ∧ toInt? x = some n

theorem finite_positiveNumber (value? : Option String) :
    (positiveNumber value?).toBits.toNat < infinityPlace := by
  have zero : (0.0 : Float).toBits.toNat < infinityPlace := by decide
  unfold positiveNumber
  split
  · exact zero
  · rename_i x _
    by_cases sane : (x.isFinite && decide (0.0 < x)) = true
    · rw [if_pos sane]
      rw [Bool.and_eq_true, decide_eq_true_eq] at sane
      exact (magnitude_of_positive sane.2).lt_infinity sane.1
    · rw [if_neg sane]
      exact zero

theorem finite_hours (t : Tags) : (hours t).toBits.toNat < infinityPlace :=
  finite_div (finite_positiveNumber _) (by decide) (by decide)

namespace Timed

variable {t u : Tags} (timed : Timed t)

include timed

theorem positive :
    0.0 < hours t ∧ 0.0 < metres t ∧ 0.01 < tripSpeed (hours t) (metres t) := by
  have usable := timed.usable
  rw [isUsable, Bool.and_eq_true, Bool.and_eq_true, decide_eq_true_eq, decide_eq_true_eq,
    decide_eq_true_eq] at usable
  exact ⟨usable.1.1, usable.1.2, usable.2⟩

theorem scale_hours : Scale (hours t) :=
  scale_of_positive timed.positive.1 (finite_hours t)

theorem magnitude_trip : Magnitude (tripSpeed (hours t) (metres t)) :=
  magnitude_div (magnitude_div (magnitude_div (magnitude_of_positive timed.positive.2.1)
    (by decide)) timed.scale_hours) (by decide)

theorem lt_infinity : (tripSpeed (hours t) (metres t)).toBits.toNat < infinityPlace :=
  timed.magnitude_trip.lt_infinity timed.finite

theorem ofTags_eq {b : Bounds} {n : Nat}
    (nearest : nearestInt? (tripSpeed (hours t) (metres t)) = some (n : Int)) :
    ofTags b t = .ok (b.clamp (Float.ofNat n)) := by
  unfold ofTags ofTrip
  rw [if_pos timed.usable, nearest]
  rfl

theorem settles (b : Bounds) {n : Nat}
    (nearest : nearestInt? (tripSpeed (hours t) (metres t)) = some (n : Int)) :
    Settles b t (b.clamp (Float.ofNat n)) := by
  have whole := toInt?_ofNat_of_nearest timed.lt_infinity nearest
  rcases b.clamp_cases (Float.ofNat n) with low | high | kept
  · exact .inl low
  · exact .inr (.inl high)
  · exact .inr (.inr ⟨n, nearest, by rwa [kept]⟩)

theorem tripSpeed_mono (other : Timed u) (distance : metres t ≤ metres u)
    (duration : seconds u ≤ seconds t) :
    tripSpeed (hours t) (metres t) ≤ tripSpeed (hours u) (metres u) := by
  have thousand : Scale 1000.0 := by decide
  have waiting : Scale waitingFactor := by decide
  have hour : Scale 3600.0 := by decide
  have trip := magnitude_of_positive timed.positive.2.1
  have otherTrip := magnitude_of_positive other.positive.2.1
  have kilometres : metres t / 1000.0 ≤ metres u / 1000.0 :=
    div_mono trip otherTrip thousand thousand distance thousand.magnitude.le_self
  have times : hours u ≤ hours t :=
    div_mono (Nat.le_of_lt (finite_positiveNumber _)) (Nat.le_of_lt (finite_positiveNumber _))
      hour hour duration hour.magnitude.le_self
  have speeds : metres t / 1000.0 / hours t ≤ metres u / 1000.0 / hours u :=
    div_mono (magnitude_div trip thousand) (magnitude_div otherTrip thousand)
      timed.scale_hours other.scale_hours kilometres times
  exact div_mono (magnitude_div (magnitude_div trip thousand) timed.scale_hours)
    (magnitude_div (magnitude_div otherTrip thousand) other.scale_hours)
    waiting waiting speeds waiting.magnitude.le_self

end Timed

/-- Of two timed trips, one that covers no less distance in no more time is not slower; and each speed is
a bound or the whole number nearest to that of the trip. -/
theorem speed_grows_with_trip (b : Bounds) (ordered : b.low ≤ b.high) (t u : Tags)
    (timed : Timed t) (other : Timed u) (distance : metres t ≤ metres u)
    (duration : seconds u ≤ seconds t) :
    ∃ x y, ofTags b t = .ok x ∧ ofTags b u = .ok y ∧ x ≤ y ∧ Settles b t x ∧ Settles b u y := by
  obtain ⟨low, high⟩ := isNaN_of_le ordered
  obtain ⟨k, l, nearest, otherNearest, le⟩ := nearestInt?_mono timed.lt_infinity
    other.lt_infinity (timed.tripSpeed_mono other distance duration)
  exact ⟨b.clamp (Float.ofNat k), b.clamp (Float.ofNat l), timed.ofTags_eq nearest,
    other.ofTags_eq otherNearest, Bounds.clamp_mono low high (ofNat_mono le),
    timed.settles b nearest, other.settles b otherNearest⟩

def slowFerry : Tags :=
  ⟨[("duration:seconds", ⟨"3600", []⟩), ("estimated_distance", ⟨"10000", []⟩)], by decide⟩

def quickFerry : Tags :=
  ⟨[("duration:seconds", ⟨"1800", []⟩), ("estimated_distance", ⟨"12000", []⟩)], by decide⟩

theorem quickFerry_not_slower : ∃ x y, ofTags ⟨0.5, 15.0⟩ slowFerry = .ok x ∧
    ofTags ⟨0.5, 15.0⟩ quickFerry = .ok y ∧ x ≤ y ∧ Settles ⟨0.5, 15.0⟩ slowFerry x ∧
    Settles ⟨0.5, 15.0⟩ quickFerry y := by
  have slow : Timed slowFerry := ⟨by decide, by decide⟩
  have quick : Timed quickFerry := ⟨by decide, by decide⟩
  have distance : metres slowFerry ≤ metres quickFerry := by decide
  have duration : seconds quickFerry ≤ seconds slowFerry := by decide
  exact speed_grows_with_trip ⟨0.5, 15.0⟩ (by decide) slowFerry quickFerry slow quick distance
    duration

end StepFree.FerrySpeed
