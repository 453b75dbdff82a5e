import Mathlib.Tactic.Ring
import StepFree.Number.Basic

/-! Rounding to doubles keeps the order of positive numbers. A positive number is a mantissa and a
power of two. It is rounded to the nearest point of a grid whose width its leading digit decides; so
two numbers of one grid keep their order as the quotients do, and two of different grids are kept
apart by a power of two, which is a point of both. Doubles are counted from zero up, and this count
stands for their order. -/
namespace StepFree.Number

open Float.Model Float.Model.UnpackedFloat

theorem le_roundQuotient (num den : Nat) : num / den ≤ roundQuotient num den := by
  unfold roundQuotient
  dsimp only
  split
  · exact Nat.le_refl _
  · split <;> omega

theorem roundQuotient_le (num den : Nat) : roundQuotient num den ≤ num / den + 1 := by
  unfold roundQuotient
  dsimp only
  split
  · omega
  · split <;> omega

theorem roundQuotient_mono {num more : Nat} (den : Nat) (grows : num ≤ more) :
    roundQuotient num den ≤ roundQuotient more den := by
  rcases Nat.lt_or_eq_of_le (Nat.div_le_div_right (c := den) grows) with less | same
  · calc
      roundQuotient num den ≤ num / den + 1 := roundQuotient_le num den
      _ ≤ more / den := less
      _ ≤ roundQuotient more den := le_roundQuotient more den
  · have remainders : num % den ≤ more % den := by
      have left := Nat.div_add_mod num den
      have right := Nat.div_add_mod more den
      rw [same] at left
      omega
    unfold roundQuotient
    dsimp only
    rw [same]
    grind

theorem roundQuotient_scale (num den : Nat) {c : Nat} (positive : 0 < c) :
    roundQuotient (num * c) (den * c) = roundQuotient num den := by
  unfold roundQuotient
  dsimp only
  rw [Nat.mul_div_mul_right _ _ positive, Nat.mul_mod_mul_right, ← Nat.mul_assoc]
  simp only [Nat.mul_lt_mul_right positive]

theorem roundQuotient_le_of_cross {num den more other : Nat} (positive : 0 < den)
    (otherPositive : 0 < other) (cross : num * other ≤ more * den) :
    roundQuotient num den ≤ roundQuotient more other :=
  calc
    roundQuotient num den = roundQuotient (num * other) (den * other) :=
      (roundQuotient_scale num den otherPositive).symm
    _ ≤ roundQuotient (more * den) (den * other) := roundQuotient_mono _ cross
    _ = roundQuotient more other := by
      rw [Nat.mul_comm den other, roundQuotient_scale more other positive]

/-- What an extended mantissa keeps of a quotient: its whole part, whether the rest is at least a half,
and whether it is anything else than nothing or a half. -/
structure Shifted (em : ExtendedMantissa) (num den : Nat) : Prop where
  quotient : em.mantissa = num / den
  half : em.roundBit = true ↔ den ≤ 2 * (num % den)
  sticky : em.stickyBit = true ↔ 2 * (num % den) ≠ 0 ∧ 2 * (num % den) ≠ den

section
variable {em : ExtendedMantissa} {num den : Nat} (positive : 0 < den)

include positive

theorem shifted_ofFraction : Shifted
    (.ofMantissaAndAccuracy (num / den) (accuracyOfFraction (num % den) den)) num den := by
  unfold accuracyOfFraction
  by_cases none : num % den = 0
  · rw [if_pos none]
    constructor <;> simp [ExtendedMantissa.ofMantissaAndAccuracy, none]; omega
  · rw [if_neg none]
    rcases Nat.lt_trichotomy (2 * (num % den)) den with less | half | more
    · rw [Nat.compare_eq_lt.mpr less]
      constructor <;> simp [ExtendedMantissa.ofMantissaAndAccuracy] <;> omega
    · rw [Nat.compare_eq_eq.mpr half]
      constructor <;> simp [ExtendedMantissa.ofMantissaAndAccuracy] <;> omega
    · rw [Nat.compare_eq_gt.mpr more]
      constructor <;> simp [ExtendedMantissa.ofMantissaAndAccuracy] <;> omega

theorem Shifted.next (shifted : Shifted em num den) :
    Shifted em.shiftRightOne num (den * 2) := by
  have rest : num % (den * 2) = num % den + den * (num / den % 2) := Nat.mod_mul
  have small : num % den < den := Nat.mod_lt _ positive
  have bit : num / den % 2 = 0 ∨ num / den % 2 = 1 := Nat.mod_two_eq_zero_or_one _
  constructor
  · rw [ExtendedMantissa.shiftRightOne, shifted.quotient, Nat.div_div_eq_div_mul]
  · rw [ExtendedMantissa.shiftRightOne, shifted.quotient, rest]
    rcases bit with low | high
    · simp [low]; omega
    · simp [high]; omega
  · rw [ExtendedMantissa.shiftRightOne, Bool.or_eq_true, shifted.half, shifted.sticky, rest]
    rcases bit with low | high
    · simp [low]; omega
    · simp [high]; omega

theorem Shifted.by (shifted : Shifted em num den) (shift : Nat) :
    Shifted (em >>> shift) num (den * 2 ^ shift) := by
  induction shift with
  | zero =>
    rw [Nat.pow_zero, Nat.mul_one]
    exact shifted
  | succ shift ih =>
    rw [Nat.pow_succ, ← Nat.mul_assoc]
    exact ih.next (Nat.mul_pos positive (Nat.two_pow_pos shift))

end

theorem Shifted.rounded {em : ExtendedMantissa} {num den : Nat} (shifted : Shifted em num den) :
    em.roundedMantissa = roundQuotient num den := by
  obtain ⟨quotient, half, sticky⟩ := shifted
  obtain ⟨q, r, s⟩ := em
  dsimp only at quotient half sticky
  subst quotient
  unfold roundQuotient ExtendedMantissa.roundedMantissa
  dsimp only
  cases r <;> cases s <;>
    simp only [ExtendedMantissa.accuracy, Accuracy.roundToNearestEven, Bool.false_eq_true,
      false_iff, true_iff] at half sticky ⊢
  · rw [if_pos (by omega)]
  · rw [if_pos (by omega)]
  · rw [if_neg (by omega), if_neg (by omega)]
  · rw [if_neg (by omega), if_pos (by omega)]

/-- The exponent that a positive number has as a double: its leading digit is the 53rd, or it has
the least exponent of all. -/
def gridExponent (mantissa : Nat) (exponent : Int) : Int :=
  max (mantissa.log2 + exponent - 52) (-1074)

theorem mantissaBits_binary64 : Format.binary64.mantissaBits = 53 := rfl

theorem targetExponent_eq (mantissa : Nat) (exponent : Int) :
    Format.binary64.targetExponent (totalExponent mantissa exponent) =
      gridExponent mantissa exponent := by
  simp only [Format.targetExponent, totalExponent, gridExponent, mantissaBits_binary64,
    Format.minExponent]
  omega

/-- The place of a positive double among all, counted from zero up. -/
def place (mantissa : Nat) (exponent : Int) : Nat :=
  mantissa + 2 ^ 52 * (exponent + 1074).toNat

/-- The place of the double that a positive number is rounded to, infinity and beyond included. -/
def roundedPlace (mantissa : Nat) (exponent : Int) : Nat :=
  let grid := gridExponent mantissa exponent
  place (roundQuotient mantissa (2 ^ (grid - exponent).toNat)) grid

def roundedFraction (num den : Nat) (exponent : Int) : Nat :=
  let grid := gridExponent (num / den) exponent
  place (roundQuotient num (den * 2 ^ (grid - exponent).toNat)) grid

theorem roundedFraction_one (m : Nat) (e : Int) : roundedFraction m 1 e = roundedPlace m e := by
  simp only [roundedFraction, roundedPlace, Nat.div_one, Nat.one_mul]

/-- Whether one positive number is at most another; of the two powers one is 1. -/
def AtMost (m : Nat) (e : Int) (n : Nat) (f : Int) : Prop :=
  m * 2 ^ (e - f).toNat ≤ n * 2 ^ (f - e).toNat

theorem atMost_iff {m n : Nat} {e f : Int} {a b : Nat} (balanced : (a : Int) - b = e - f) :
    AtMost m e n f ↔ m * 2 ^ a ≤ n * 2 ^ b := by
  obtain ⟨common, left, right⟩ : ∃ common : Nat,
      a = (e - f).toNat + common ∧ b = (f - e).toNat + common :=
    ⟨min a b, by omega, by omega⟩
  rw [AtMost, left, right, Nat.pow_add, Nat.pow_add, ← Nat.mul_assoc, ← Nat.mul_assoc]
  exact (Nat.mul_le_mul_right_iff (Nat.two_pow_pos common)).symm

section
variable {num den : Nat} {e : Int} (fits : e ≤ gridExponent (num / den) e)

include fits

theorem quotient_lt : num / (den * 2 ^ (gridExponent (num / den) e - e).toNat) < 2 ^ 53 := by
  rw [← Nat.div_div_eq_div_mul, Nat.div_lt_iff_lt_mul (Nat.two_pow_pos _), ← Nat.pow_add]
  refine Nat.lt_of_lt_of_le Nat.lt_log2_self (Nat.pow_le_pow_right (by decide) ?_)
  unfold gridExponent at fits ⊢
  omega

theorem roundQuotient_le_of_fits :
    roundQuotient num (den * 2 ^ (gridExponent (num / den) e - e).toNat) ≤ 2 ^ 53 :=
  Nat.le_trans (roundQuotient_le _ _) (quotient_lt fits)

theorem le_roundQuotient_of_normal (normal : -1074 < gridExponent (num / den) e) :
    2 ^ 52 ≤ roundQuotient num (den * 2 ^ (gridExponent (num / den) e - e).toNat) := by
  refine Nat.le_trans ?_ (le_roundQuotient _ _)
  rw [← Nat.div_div_eq_div_mul, Nat.le_div_iff_mul_le (Nat.two_pow_pos _), ← Nat.pow_add]
  have positive : num / den ≠ 0 := by
    intro zero
    rw [zero, gridExponent, Nat.log2_zero] at fits normal
    omega
  refine Nat.le_trans (Nat.pow_le_pow_right (by decide) ?_) (Nat.log2_self_le positive)
  unfold gridExponent at fits normal ⊢
  omega

end

section
variable {num den more other : Nat} {e f : Int} (positive : 0 < den) (otherPositive : 0 < other)
  (atMost : AtMost (num * other) e (more * den) f)

include positive otherPositive atMost

theorem quotient_lt_of_atMost :
    num / den * 2 ^ (e - f).toNat < (more / other + 1) * 2 ^ (f - e).toNat := by
  refine Nat.lt_of_mul_lt_mul_right (a := den * other) ?_
  calc
    num / den * 2 ^ (e - f).toNat * (den * other)
      = num / den * den * other * 2 ^ (e - f).toNat := by ring
    _ ≤ num * other * 2 ^ (e - f).toNat :=
      Nat.mul_le_mul_right _ (Nat.mul_le_mul_right _ (Nat.div_mul_le_self num den))
    _ ≤ more * den * 2 ^ (f - e).toNat := atMost
    _ < (more / other + 1) * other * den * 2 ^ (f - e).toNat :=
      Nat.mul_lt_mul_of_pos_right (Nat.mul_lt_mul_of_pos_right
        (Nat.lt_mul_of_div_lt (Nat.lt_succ_self _) otherPositive) positive) (Nat.two_pow_pos _)
    _ = (more / other + 1) * 2 ^ (f - e).toNat * (den * other) := by ring

theorem gridExponent_mono (fits : e ≤ gridExponent (num / den) e) :
    gridExponent (num / den) e ≤ gridExponent (more / other) f := by
  by_cases zero : num / den = 0
  · rw [zero, gridExponent, Nat.log2_zero] at fits
    rw [zero]
    unfold gridExponent
    rw [Nat.log2_zero]
    omega
  · have digits : 2 ^ ((num / den).log2 + (e - f).toNat) <
        2 ^ ((more / other).log2 + 1 + (f - e).toNat) := by
      rw [Nat.pow_add, Nat.pow_add]
      calc
        _ ≤ num / den * 2 ^ (e - f).toNat := Nat.mul_le_mul_right _ (Nat.log2_self_le zero)
        _ < (more / other + 1) * 2 ^ (f - e).toNat :=
          quotient_lt_of_atMost positive otherPositive atMost
        _ ≤ _ := Nat.mul_le_mul_right _ Nat.lt_log2_self
    have logs := (Nat.pow_lt_pow_iff_right (by decide)).mp digits
    unfold gridExponent
    omega

theorem roundQuotient_le_of_atMost {grid : Int} (below : e ≤ grid) (otherBelow : f ≤ grid) :
    roundQuotient num (den * 2 ^ (grid - e).toNat) ≤
      roundQuotient more (other * 2 ^ (grid - f).toNat) := by
  apply roundQuotient_le_of_cross (Nat.mul_pos positive (Nat.two_pow_pos _))
    (Nat.mul_pos otherPositive (Nat.two_pow_pos _))
  have scaled := (atMost_iff (a := (grid - f).toNat) (b := (grid - e).toNat) (by omega)).mp atMost
  rwa [Nat.mul_assoc, Nat.mul_assoc] at scaled

/-- Rounding keeps the order. Numbers of two grids are kept apart by a power of two. -/
theorem roundedFraction_mono (fits : e ≤ gridExponent (num / den) e)
    (otherFits : f ≤ gridExponent (more / other) f) :
    roundedFraction num den e ≤ roundedFraction more other f := by
  have least : -1074 ≤ gridExponent (num / den) e := Int.le_max_right _ _
  unfold roundedFraction place
  dsimp only
  rcases Int.lt_or_eq_of_le (gridExponent_mono positive otherPositive atMost fits) with below | same
  · have upper := roundQuotient_le_of_fits fits
    have lower := le_roundQuotient_of_normal otherFits (by omega)
    omega
  · have quotients := roundQuotient_le_of_atMost positive otherPositive atMost fits
      (same ▸ otherFits)
    rw [same] at quotients ⊢
    omega

end

variable {m n : Nat} {e f : Int}

theorem roundedPlace_mono (atMost : AtMost m e n f) (fits : e ≤ gridExponent m e)
    (otherFits : f ≤ gridExponent n f) : roundedPlace m e ≤ roundedPlace n f := by
  rw [← roundedFraction_one, ← roundedFraction_one]
  apply roundedFraction_mono Nat.one_pos Nat.one_pos
  · rwa [Nat.mul_one, Nat.mul_one]
  · rwa [Nat.div_one]
  · rwa [Nat.div_one]

theorem roundedPlace_congr {a b : Nat} (balanced : (a : Int) - b = e - f)
    (same : m * 2 ^ a = n * 2 ^ b) (fits : e ≤ gridExponent m e)
    (otherFits : f ≤ gridExponent n f) : roundedPlace m e = roundedPlace n f := by
  have le : AtMost m e n f := (atMost_iff balanced).mpr (Nat.le_of_eq same)
  have ge : AtMost n f m e := (atMost_iff (by omega)).mpr (Nat.le_of_eq same.symm)
  exact Nat.le_antisymm (roundedPlace_mono le fits otherFits) (roundedPlace_mono ge otherFits fits)

/-- Whether a mantissa and an exponent are those of a double, were there no greatest exponent. -/
structure OnGrid (mantissa : Nat) (exponent : Int) : Prop where
  least : -1074 ≤ exponent
  short : mantissa < 2 ^ 53
  full : 2 ^ 52 ≤ mantissa ∨ exponent = -1074

theorem OnGrid.gridExponent (onGrid : OnGrid m e) (positive : 0 < m) : gridExponent m e = e := by
  obtain ⟨least, short, full⟩ := onGrid
  have upper : m.log2 < 53 := (Nat.log2_lt (by omega)).mpr short
  unfold Number.gridExponent
  rcases full with normal | subnormal
  · have lower : 52 ≤ m.log2 := (Nat.le_log2 (by omega)).mpr normal
    omega
  · omega

theorem OnGrid.roundedPlace (onGrid : OnGrid m e) (positive : 0 < m) :
    roundedPlace m e = place m e := by
  unfold Number.roundedPlace
  dsimp only
  rw [onGrid.gridExponent positive, Int.sub_self, Int.toNat_zero, Nat.pow_zero, roundQuotient]
  simp [Nat.mod_one]

theorem OnGrid.atMost (onGrid : OnGrid m e) (other : OnGrid n f)
    (places : place m e ≤ place n f) : AtMost m e n f := by
  obtain ⟨least, short, full⟩ := onGrid
  obtain ⟨otherLeast, otherShort, otherFull⟩ := other
  unfold place at places
  unfold AtMost
  rcases Int.lt_trichotomy e f with below | rfl | above
  · have step : 2 ≤ 2 ^ (f - e).toNat := by
      exact Nat.pow_le_pow_right (n := 2) (by decide) (show 1 ≤ (f - e).toNat by omega)
    have scaled := Nat.mul_le_mul (show 2 ^ 52 ≤ n by omega) step
    rw [show (e - f).toNat = 0 by omega, Nat.pow_zero]
    omega
  · rw [Int.sub_self, Int.toNat_zero, Nat.pow_zero]
    omega
  · omega

theorem OnGrid.place_zero (onGrid : OnGrid 0 e) : place 0 e = 0 := by
  have least := onGrid.full
  unfold place
  omega

/-- A result of rounding, and its place. Infinity and what is beyond it count as finite here. -/
inductive HasPlace : UnpackedFloat → Nat → Prop
  | zero : HasPlace (.zero .positive) 0
  | finite {m : Nat} {e : Int} (positive : 0 < m) (onGrid : OnGrid m e) :
      HasPlace (.finite .positive m e positive) (place m e)

theorem shiftToTargetExponent_eq (mantissa : Nat) (exponent : Int) (accuracy : Accuracy) :
    shiftToTargetExponent .binary64 mantissa exponent accuracy =
      (ExtendedMantissa.ofMantissaAndAccuracy mantissa accuracy >>>
          (gridExponent mantissa exponent - exponent).toNat,
        exponent + (gridExponent mantissa exponent - exponent).toNat) := by
  rw [shiftToTargetExponent, targetExponent_eq, shiftToExponent]

theorem onGrid_shiftToTargetExponent {k : Nat} (least : -1074 ≤ e) (upper : k ≤ 2 ^ 53)
    (full : 2 ^ 52 ≤ k ∨ e = -1074) :
    let result := shiftToTargetExponent .binary64 k e .exact
    OnGrid result.1.mantissa result.2 ∧ place result.1.mantissa result.2 = place k e := by
  intro result
  have shifted : result = (_, _) := shiftToTargetExponent_eq k e .exact
  rcases Nat.lt_or_eq_of_le upper with short | rfl
  · have digits : k.log2 ≤ 52 := by
      by_cases zero : k = 0
      · rw [zero]
        decide
      · exact Nat.le_of_lt_succ ((Nat.log2_lt zero).mpr short)
    have none : (gridExponent k e - e).toNat = 0 := by
      unfold gridExponent
      omega
    have same : result = (.ofMantissaAndAccuracy k .exact, e) := by
      rw [shifted, none, Int.natCast_zero, Int.add_zero]
      rfl
    rw [same]
    exact ⟨⟨least, short, full⟩, rfl⟩
  · have one : (gridExponent (2 ^ 53) e - e).toNat = 1 := by
      unfold gridExponent
      rw [Nat.log2_two_pow]
      omega
    have halved : result =
        (ExtendedMantissa.shiftRightOne (.ofMantissaAndAccuracy (2 ^ 53) .exact), e + 1) := by
      rw [shifted, one]
      rfl
    have half : (ExtendedMantissa.shiftRightOne
        (.ofMantissaAndAccuracy (2 ^ 53) .exact)).mantissa = 2 ^ 52 := by
      decide
    rw [halved, half]
    refine ⟨⟨by omega, by decide, .inl (Nat.le_refl _)⟩, ?_⟩
    unfold place
    omega

theorem hasPlace_roundFraction {num den : Nat} (positive : 0 < den)
    (fits : e ≤ gridExponent (num / den) e) :
    HasPlace (roundWithAccuracy .binary64 .positive (num / den) e
      (accuracyOfFraction (num % den) den)) (roundedFraction num den e) := by
  have least : -1074 ≤ gridExponent (num / den) e := Int.le_max_right _ _
  have grid : e + ((gridExponent (num / den) e - e).toNat : Int) = gridExponent (num / den) e := by
    omega
  have full : 2 ^ 52 ≤ roundQuotient num (den * 2 ^ (gridExponent (num / den) e - e).toNat) ∨
      gridExponent (num / den) e = -1074 := by
    rcases Int.lt_or_eq_of_le least with normal | subnormal
    · exact .inl (le_roundQuotient_of_normal fits normal)
    · exact .inr subnormal.symm
  have settled := onGrid_shiftToTargetExponent least (roundQuotient_le_of_fits fits) full
  unfold roundWithAccuracy
  rw [shiftToTargetExponent_eq]
  dsimp only at settled ⊢
  rw [grid, ((shifted_ofFraction positive).by positive _).rounded]
  obtain ⟨onGrid, places⟩ := settled
  rw [roundedFraction, ← places]
  generalize shiftToTargetExponent .binary64 _ (gridExponent (num / den) e) .exact = result
    at onGrid ⊢
  by_cases zero : result.1.mantissa = 0
  · rw [dif_pos zero]
    rw [zero] at onGrid ⊢
    rw [onGrid.place_zero]
    exact .zero
  · rw [dif_neg zero]
    exact .finite (Nat.pos_of_ne_zero zero) onGrid

theorem hasPlace_roundWithAccuracy (fits : e ≤ gridExponent m e) :
    HasPlace (roundWithAccuracy .binary64 .positive m e .exact) (roundedPlace m e) := by
  have exact : accuracyOfFraction (m % 1) 1 = .exact := if_pos (Nat.mod_one m)
  have place := hasPlace_roundFraction Nat.one_pos (by rwa [Nat.div_one])
  rwa [exact, Nat.div_one, roundedFraction_one] at place

end StepFree.Number
