import StepFree.Proofs.Number.Scaling

/-! Doubles and whole numbers. The integer nearest to a magnitude grows with it, and so does the double
nearest to a natural. A magnitude of an exponent below zero is so small that the integer nearest to it is
a double, and any other one is an integer itself; so the double of a nearest integer is this integer. -/
namespace StepFree.Number

open Float.Model Float.Model.UnpackedFloat

variable {m n : Nat} {e f : Int} {x y : Float}

theorem exists_place (p : Nat) : ∃ m e, OnGrid m e ∧ p = place m e := by
  unfold place
  by_cases normal : 2 ^ 52 ≤ p
  · exact ⟨2 ^ 52 + p % 2 ^ 52, (p / 2 ^ 52 : Nat) - 1075,
      ⟨by omega, by omega, .inl (by omega)⟩, by omega⟩
  · exact ⟨p, -1074, ⟨by omega, by omega, .inr rfl⟩, by omega⟩

theorem exact_of_place (onGrid : OnGrid m e) (same : x.toBits.toNat = place m e)
    (finite : place m e < infinityPlace) : Exact.ofFloat x = .finite false m e := by
  obtain ⟨least, short, full⟩ := onGrid
  have bound : infinityPlace = 2047 * 2 ^ 52 := rfl
  unfold place at same finite
  have unsigned : decide (2 ^ 63 ≤ x.toBits.toNat) = false := decide_eq_false (by omega)
  unfold Exact.ofFloat
  simp only [Nat.pow_eq]
  rw [unsigned, if_neg (by omega)]
  by_cases normal : 2 ^ 52 ≤ m
  · rw [if_neg (by omega)]
    congr 1 <;> omega
  · rw [if_pos (by omega)]
    congr 1 <;> omega

theorem roundScaled_eq (m : Nat) (e : Int) :
    roundScaled m e = roundQuotient (m * 2 ^ e.toNat) (2 ^ (-e).toNat) := by
  unfold roundScaled
  by_cases whole : 0 ≤ e
  · rw [if_pos whole, show (-e).toNat = 0 by omega, roundQuotient]
    simp [Nat.mod_one]
  · rw [if_neg whole, show e.toNat = 0 by omega, Nat.pow_zero, Nat.mul_one]
    rfl

theorem roundScaled_mono (atMost : AtMost m e n f) : roundScaled m e ≤ roundScaled n f := by
  rw [roundScaled_eq, roundScaled_eq]
  apply roundQuotient_le_of_cross (Nat.two_pow_pos _) (Nat.two_pow_pos _)
  have scaled := (atMost_iff (a := e.toNat + (-f).toNat) (b := f.toNat + (-e).toNat)
    (by omega)).mp atMost
  rwa [Nat.pow_add, Nat.pow_add, ← Nat.mul_assoc, ← Nat.mul_assoc] at scaled

theorem nearestInt?_of_place (onGrid : OnGrid m e) (same : x.toBits.toNat = place m e)
    (finite : x.toBits.toNat < infinityPlace) : nearestInt? x = some (roundScaled m e : Int) := by
  unfold nearestInt?
  rw [exact_of_place onGrid same (same ▸ finite)]
  rfl

theorem nearestInt?_mono (finite : x.toBits.toNat < infinityPlace)
    (otherFinite : y.toBits.toNat < infinityPlace) (le : x ≤ y) :
    ∃ k l : Nat, nearestInt? x = some (k : Int) ∧ nearestInt? y = some (l : Int) ∧ k ≤ l := by
  have places : x.toBits.toNat ≤ y.toBits.toNat :=
    (Magnitude.le_iff (Nat.le_of_lt finite) (Nat.le_of_lt otherFinite)).mp le
  obtain ⟨m, e, onGrid, same⟩ := exists_place x.toBits.toNat
  obtain ⟨n, f, otherGrid, otherSame⟩ := exists_place y.toBits.toNat
  exact ⟨roundScaled m e, roundScaled n f, nearestInt?_of_place onGrid same finite,
    nearestInt?_of_place otherGrid otherSame otherFinite,
    roundScaled_mono (onGrid.atMost otherGrid (by omega))⟩

theorem log2_mul_two_pow (positive : 0 < n) (s : Nat) : (n * 2 ^ s).log2 = n.log2 + s := by
  have nonzero : n * 2 ^ s ≠ 0 := Nat.ne_of_gt (Nat.mul_pos positive (Nat.two_pow_pos s))
  rw [Nat.log2_eq_iff nonzero]
  constructor
  · rw [Nat.pow_add]
    exact Nat.mul_le_mul_right _ (Nat.log2_self_le (Nat.ne_of_gt positive))
  · rw [Nat.add_right_comm, Nat.pow_add]
    exact Nat.mul_lt_mul_of_pos_right Nat.lt_log2_self (Nat.two_pow_pos s)

theorem shifted_fits (positive : 0 < n) {s : Nat} (digits : 52 ≤ n.log2 + s) :
    -(s : Int) ≤ gridExponent (n * 2 ^ s) (-s) := by
  unfold gridExponent
  rw [log2_mul_two_pow positive]
  omega

theorem ample_fits (positive : 0 < n) : -53 ≤ gridExponent (n * 2 ^ 53) (-53) :=
  shifted_fits positive (Nat.le_add_left_of_le (by decide))

/-- The place of the double nearest to a positive natural, written with 53 digits behind the point. -/
def nearestPlace (n : Nat) : Nat :=
  min (roundedPlace (n * 2 ^ 53) (-53)) infinityPlace

theorem roundedPlace_shifted (positive : 0 < n) {s : Nat} (digits : 52 ≤ n.log2 + s) :
    roundedPlace (n * 2 ^ s) (-s) = roundedPlace (n * 2 ^ 53) (-53) := by
  have value : n * 2 ^ s * 2 ^ 53 = n * 2 ^ 53 * 2 ^ s := Nat.mul_right_comm ..
  exact roundedPlace_congr (by omega) value (shifted_fits positive digits) (ample_fits positive)

theorem round_eq (n : Nat) : UnpackedFloat.round .binary64 .positive n 0 =
    roundWithAccuracy .binary64 .positive (n * 2 ^ (0 - gridExponent n 0).toNat)
      (-((0 - gridExponent n 0).toNat : Int)) .exact := by
  unfold UnpackedFloat.round decreaseExponent
  rw [targetExponent_eq]
  dsimp only
  rw [Nat.shiftLeft_eq, Int.zero_sub, Int.zero_sub]

theorem toNat_pack_round (positive : 0 < n) :
    (UnpackedFloat.pack .binary64 (.round .binary64 .positive n 0)).toNat = nearestPlace n := by
  have digits : 52 ≤ n.log2 + (0 - gridExponent n 0).toNat := by
    unfold gridExponent
    omega
  rw [round_eq, toNat_pack (hasPlace_roundWithAccuracy (shifted_fits positive digits)),
    roundedPlace_shifted positive digits, nearestPlace]

theorem toNat_toFloat (positive : 0 < n) (short : n < 2 ^ 53) :
    n.toUInt64.toFloat.toBits.toNat = nearestPlace n := by
  have same : n.toUInt64.toNat = n := by
    rw [Nat.toUInt64_eq, UInt64.toNat_ofNat']
    omega
  have sign : compare (n : Int) 0 = .gt := Int.compare_eq_gt.mpr (by omega)
  change (UnpackedFloat.pack .binary64 (UnpackedFloat.ofNat .binary64 n.toUInt64.toNat)).toNat = _
  rw [same, UnpackedFloat.ofNat, UnpackedFloat.ofInt, UnpackedFloat.normalize, sign]
  exact toNat_pack_round positive

theorem toNat_ofScientific (positive : 0 < n) :
    (UnpackedFloat.pack .binary64 (UnpackedFloat.ofScientific .binary64 n 0)).toNat =
      nearestPlace n := by
  have small : ¬ (0 : Int) < -(2 ^ 11 + n.log2) := by omega
  have hasPlace := hasPlace_roundWithAccuracy (ample_fits positive)
  unfold UnpackedFloat.ofScientific
  rw [dif_neg (Nat.ne_of_gt positive), if_neg (by decide), if_neg small, if_pos (Int.le_refl 0),
    nearestPlace, ← toNat_pack hasPlace, mul_finite, Nat.shiftLeft_eq, Int.toNat_zero, Nat.pow_zero,
    Nat.mul_one]
  rfl

/-- The double of a natural is the nearest one. -/
theorem toNat_ofNat (positive : 0 < n) : (Float.ofNat n).toBits.toNat = nearestPlace n := by
  change (Float.ofScientific n false 0).toBits.toNat = _
  unfold Float.ofScientific
  split
  · rename_i short
    have one : Float.exactlyRepresentablePowersOfTen[0] = 1.0 := by decide
    have magnitude : Magnitude n.toUInt64.toFloat := by
      unfold Magnitude
      rw [toNat_toFloat positive short.1]
      exact Nat.min_le_right _ _
    rw [if_neg Bool.false_ne_true, one, scale_one magnitude, toNat_toFloat positive short.1]
  · exact toNat_ofScientific positive

theorem magnitude_ofNat (n : Nat) : Magnitude (Float.ofNat n) := by
  rcases Nat.eq_zero_or_pos n with rfl | positive
  · decide
  · unfold Magnitude
    rw [toNat_ofNat positive]
    exact Nat.min_le_right _ _

theorem ofNat_mono (le : m ≤ n) : Float.ofNat m ≤ Float.ofNat n := by
  rw [(magnitude_ofNat m).le_iff (magnitude_ofNat n)]
  rcases Nat.eq_zero_or_pos m with rfl | positive
  · exact Nat.zero_le _
  · have otherPositive : 0 < n := Nat.lt_of_lt_of_le positive le
    rw [toNat_ofNat positive, toNat_ofNat otherPositive, nearestPlace, nearestPlace]
    have rounded : roundedPlace (m * 2 ^ 53) (-53) ≤ roundedPlace (n * 2 ^ 53) (-53) :=
      roundedPlace_mono (Nat.mul_le_mul_right _ (Nat.mul_le_mul_right _ le))
        (ample_fits positive) (ample_fits otherPositive)
    omega

theorem toNat_ofNat_of_onGrid (positive : 0 < n) (onGrid : OnGrid m e)
    (same : n * 2 ^ (-e).toNat = m * 2 ^ e.toNat) :
    (Float.ofNat n).toBits.toNat = min (place m e) infinityPlace := by
  have some : 0 < m :=
    Nat.pos_of_mul_pos_right (same ▸ Nat.mul_pos positive (Nat.two_pow_pos (-e).toNat))
  have self : e ≤ gridExponent m e := Int.le_of_eq (onGrid.gridExponent some).symm
  have value : n * 2 ^ 53 * 2 ^ (-e).toNat = m * 2 ^ (e.toNat + 53) := by
    rw [Nat.mul_right_comm, same, Nat.mul_assoc, ← Nat.pow_add]
  rw [toNat_ofNat positive, nearestPlace, ← onGrid.roundedPlace some,
    roundedPlace_congr (by omega) value (ample_fits positive) self]

theorem toInt?_of_place (onGrid : OnGrid m e) (same : n * 2 ^ (-e).toNat = m * 2 ^ e.toNat)
    (places : x.toBits.toNat = place m e) (finite : place m e < infinityPlace) :
    toInt? x = some (n : Int) := by
  unfold toInt?
  rw [exact_of_place onGrid places finite]
  dsimp only
  by_cases whole : 0 ≤ e
  · rw [show (-e).toNat = 0 by omega, Nat.pow_zero, Nat.mul_one] at same
    rw [if_pos whole, same]
    rfl
  · rw [show e.toNat = 0 by omega, Nat.pow_zero, Nat.mul_one] at same
    rw [if_neg whole, ← same, Nat.pow_eq, Nat.mul_mod_left, if_pos rfl,
      Nat.mul_div_cancel _ (Nat.two_pow_pos _)]
    rfl

theorem toInt?_ofNat_of_onGrid (positive : 0 < n) (onGrid : OnGrid m e)
    (same : n * 2 ^ (-e).toNat = m * 2 ^ e.toNat) (finite : place m e < infinityPlace) :
    toInt? (Float.ofNat n) = some (n : Int) := by
  refine toInt?_of_place onGrid same ?_ finite
  rw [toNat_ofNat_of_onGrid positive onGrid same]
  omega

theorem place_lt (onGrid : OnGrid m e) (bounded : e ≤ 0) : place m e < infinityPlace := by
  have bound : infinityPlace = 2047 * 2 ^ 52 := rfl
  have short := onGrid.short
  unfold place
  omega

theorem toInt?_ofNat (short : n < 2 ^ 53) : toInt? (Float.ofNat n) = some (n : Int) := by
  rcases Nat.eq_zero_or_pos n with rfl | positive
  · have onGrid : OnGrid 0 (-1074) := ⟨by decide, by decide, .inr rfl⟩
    refine toInt?_of_place onGrid ?_ (by decide) (place_lt onGrid (by decide))
    rw [Nat.zero_mul, Nat.zero_mul]
  · have digits : n.log2 < 53 := (Nat.log2_lt (Nat.ne_of_gt positive)).mpr short
    have upper : n * 2 ^ (52 - n.log2) < 2 ^ 53 :=
      calc
        n * 2 ^ (52 - n.log2) < 2 ^ (n.log2 + 1) * 2 ^ (52 - n.log2) :=
          Nat.mul_lt_mul_of_pos_right Nat.lt_log2_self (Nat.two_pow_pos _)
        _ = 2 ^ 53 := by rw [← Nat.pow_add]; congr 1; omega
    have lower : 2 ^ 52 ≤ n * 2 ^ (52 - n.log2) :=
      calc
        2 ^ 52 = 2 ^ n.log2 * 2 ^ (52 - n.log2) := by rw [← Nat.pow_add]; congr 1; omega
        _ ≤ n * 2 ^ (52 - n.log2) :=
          Nat.mul_le_mul_right _ (Nat.log2_self_le (Nat.ne_of_gt positive))
    have onGrid : OnGrid (n * 2 ^ (52 - n.log2)) (n.log2 - 52) :=
      ⟨by omega, upper, .inl lower⟩
    refine toInt?_ofNat_of_onGrid positive onGrid ?_ (place_lt onGrid (by omega))
    rw [show (-((n.log2 : Int) - 52)).toNat = 52 - n.log2 by omega,
      show ((n.log2 : Int) - 52).toNat = 0 by omega, Nat.pow_zero, Nat.mul_one]

theorem toInt?_ofNat_of_nearest (finite : x.toBits.toNat < infinityPlace)
    (nearest : nearestInt? x = some (n : Int)) : toInt? (Float.ofNat n) = some (n : Int) := by
  obtain ⟨m, e, onGrid, same⟩ := exists_place x.toBits.toNat
  have rounded : roundScaled m e = n := by
    rw [nearestInt?_of_place onGrid same finite] at nearest
    exact Int.ofNat.inj (Option.some.inj nearest)
  -- With no digit behind the point the magnitude is whole; else its integer has at most 53 digits.
  by_cases whole : 0 ≤ e
  · rw [roundScaled, if_pos whole] at rounded
    rcases Nat.eq_zero_or_pos n with rfl | positive
    · exact toInt?_ofNat (by decide)
    · refine toInt?_ofNat_of_onGrid positive onGrid ?_ (same ▸ finite)
      rw [← rounded, show (-e).toNat = 0 by omega, Nat.pow_zero, Nat.mul_one]
      rfl
  · rw [roundScaled, if_neg whole] at rounded
    have near := roundQuotient_le m (Nat.pow 2 (-e).toNat)
    have small : m / Nat.pow 2 (-e).toNat ≤ m / 2 :=
      Nat.div_le_div_left (Nat.pow_le_pow_right (n := 2) (by decide)
        (show 1 ≤ (-e).toNat by omega)) (by decide)
    have short := onGrid.short
    exact toInt?_ofNat (by omega)

end StepFree.Number
