import StepFree.Proofs.Number.Scaling

namespace StepFree.Number

open Float.Model Float.Model.UnpackedFloat

variable {m n k l : Nat} {e f g h : Int}

/-- The exponent of a quotient, small enough for its whole part to have the digits of a double. -/
def quotientExponent (m : Nat) (e : Int) (n : Nat) (f : Int) : Int :=
  min (e - f) (max (m.log2 + e - (n.log2 + f) - 53) (-1074))

def quotientShift (m : Nat) (e : Int) (n : Nat) (f : Int) : Nat :=
  (e - f - quotientExponent m e n f).toNat

theorem divCore_eq (m : Nat) (e : Int) (n : Nat) (f : Int) :
    divCore .binary64 m e n f =
      (m * 2 ^ quotientShift m e n f / n, quotientExponent m e n f,
        accuracyOfFraction (m * 2 ^ quotientShift m e n f % n) n) := by
  have target : min (e - f)
      (Format.binary64.targetExponent (totalExponent m e - totalExponent n f)) =
        quotientExponent m e n f := by
    simp only [Format.targetExponent, totalExponent, quotientExponent, mantissaBits_binary64,
      Format.minExponent]
    omega
  unfold divCore
  dsimp only
  rw [target, Nat.shiftLeft_eq]
  rfl

theorem OnGrid.quotient_fits (onGrid : OnGrid m e) (positive : 0 < m) (otherPositive : 0 < n) :
    quotientExponent m e n f ≤
      Number.gridExponent (m * 2 ^ quotientShift m e n f / n) (quotientExponent m e n f) := by
  by_cases least : quotientExponent m e n f ≤ -1074
  · exact Int.le_trans least (Int.le_max_right _ _)
  · have digits : m.log2 < 53 := (Nat.log2_lt (Nat.ne_of_gt positive)).mpr onGrid.short
    have shift : 53 + n.log2 ≤ m.log2 + quotientShift m e n f := by
      unfold quotientShift
      unfold quotientExponent at least ⊢
      omega
    have full : 2 ^ 52 ≤ m * 2 ^ quotientShift m e n f / n := by
      rw [Nat.le_div_iff_mul_le otherPositive]
      calc
        2 ^ 52 * n ≤ 2 ^ 52 * 2 ^ (n.log2 + 1) :=
          Nat.mul_le_mul_left _ (Nat.le_of_lt Nat.lt_log2_self)
        _ = 2 ^ (53 + n.log2) := by rw [← Nat.pow_add]; congr 1; omega
        _ ≤ 2 ^ (m.log2 + quotientShift m e n f) := Nat.pow_le_pow_right (by decide) shift
        _ ≤ m * 2 ^ quotientShift m e n f := by
          rw [Nat.pow_add]
          exact Nat.mul_le_mul_right _ (Nat.log2_self_le (Nat.ne_of_gt positive))
    have quotient : 52 ≤ (m * 2 ^ quotientShift m e n f / n).log2 :=
      (Nat.le_log2 (by omega)).mpr full
    unfold Number.gridExponent
    omega

theorem AtMost.shift (atMost : AtMost m e n f) (s t : Nat) (c : Int) :
    AtMost (m * 2 ^ s) (e - s + c) (n * 2 ^ t) (f - t + c) := by
  rw [atMost_iff (a := t + (e - f).toNat) (b := s + (f - e).toNat) (by omega)]
  calc
    m * 2 ^ s * 2 ^ (t + (e - f).toNat)
      = m * 2 ^ (e - f).toNat * 2 ^ (s + t) := by ring
    _ ≤ n * 2 ^ (f - e).toNat * 2 ^ (s + t) := Nat.mul_le_mul_right _ atMost
    _ = n * 2 ^ t * 2 ^ (s + (f - e).toNat) := by ring

theorem quotient_atMost (atMost : AtMost (k * n) (g + f) (l * m) (h + e)) :
    AtMost (k * 2 ^ quotientShift k g m e * n) (quotientExponent k g m e)
      (l * 2 ^ quotientShift l h n f * m) (quotientExponent l h n f) := by
  have shifted := atMost.shift (quotientShift k g m e) (quotientShift l h n f) (-e - f)
  have left : g + f - quotientShift k g m e + (-e - f) = quotientExponent k g m e := by
    unfold quotientShift quotientExponent
    omega
  have right : h + e - quotientShift l h n f + (-e - f) = quotientExponent l h n f := by
    unfold quotientShift quotientExponent
    omega
  rwa [left, right, Nat.mul_right_comm, Nat.mul_right_comm l] at shifted

theorem div_finite (positive : 0 < m) (otherPositive : 0 < n) :
    UnpackedFloat.div .binary64 (.finite .positive m e positive)
      (.finite .positive n f otherPositive) =
        roundWithAccuracy .binary64 .positive (divCore .binary64 m e n f).1
          (divCore .binary64 m e n f).2.1 (divCore .binary64 m e n f).2.2 :=
  rfl

theorem toNat_div_finite (positive : 0 < m) (onGrid : OnGrid m e) (otherPositive : 0 < n) :
    (UnpackedFloat.pack .binary64 (.div .binary64 (.finite .positive m e positive)
      (.finite .positive n f otherPositive))).toNat =
        min (roundedFraction (m * 2 ^ quotientShift m e n f) n (quotientExponent m e n f))
          infinityPlace := by
  have hasPlace := hasPlace_roundFraction otherPositive
    (onGrid.quotient_fits (f := f) positive otherPositive)
  rw [div_finite, divCore_eq]
  exact toNat_pack hasPlace

theorem pack_div_mono {u v : UnpackedFloat} {p q : Nat} (stands : Stands u p) (other : Stands v q)
    (le : p ≤ q) (positive : 0 < m) (onGrid : OnGrid m e) (otherPositive : 0 < n)
    (otherGrid : OnGrid n f) (divisors : place n f ≤ place m e) :
    (UnpackedFloat.pack .binary64 (.div .binary64 u (.finite .positive m e positive))).toNat ≤
      (UnpackedFloat.pack .binary64
        (.div .binary64 v (.finite .positive n f otherPositive))).toNat := by
  refine pack_mono (.div .binary64 · (.finite .positive m e positive))
    (.div .binary64 · (.finite .positive n f otherPositive)) stands other le rfl rfl rfl ?_ ?_
  · intro k g someOf grid
    rw [toNat_div_finite someOf grid positive]
    exact Nat.min_le_right _ _
  · intro k g l h someOf otherSome grid grid' atMost
    rw [toNat_div_finite someOf grid positive, toNat_div_finite otherSome grid' otherPositive]
    have rounded := roundedFraction_mono positive otherPositive
      (quotient_atMost (atMost.mul (otherGrid.atMost onGrid divisors)))
      (grid.quotient_fits someOf positive) (grid'.quotient_fits otherSome otherPositive)
    omega

variable {x y c d : Float}

theorem toNat_div (x c : Float) : (x / c).toBits.toNat =
    (UnpackedFloat.pack .binary64
      (.div .binary64 x.toModel.unpack c.toModel.unpack)).toNat :=
  rfl

theorem magnitude_div (magnitude : Magnitude x) (scale : Scale c) : Magnitude (x / c) := by
  obtain ⟨m, e, positive, unpacked, onGrid, _⟩ := scale.parts
  unfold Magnitude
  rw [toNat_div, unpacked, ← toNat_packedInfinity]
  exact pack_div_mono magnitude.stands .infinity magnitude positive onGrid positive onGrid
    (Nat.le_refl _)

theorem div_mono (magnitude : Magnitude x) (other : Magnitude y) (scale : Scale c)
    (otherScale : Scale d) (le : x ≤ y) (divisors : d ≤ c) : x / c ≤ y / d := by
  rw [magnitude.le_iff other] at le
  rw [otherScale.magnitude.le_iff scale.magnitude] at divisors
  rw [(magnitude_div magnitude scale).le_iff (magnitude_div other otherScale)]
  obtain ⟨m, e, positive, unpacked, onGrid, same⟩ := scale.parts
  obtain ⟨n, f, otherPositive, otherUnpacked, otherGrid, otherSame⟩ := otherScale.parts
  rw [toNat_div, toNat_div, unpacked, otherUnpacked]
  rw [same, otherSame] at divisors
  exact pack_div_mono magnitude.stands other.stands le positive onGrid otherPositive otherGrid
    divisors

def largest : Float := Float.ofBits 0x7FEFFFFFFFFFFFFF

theorem finite_div (finite : x.toBits.toNat < infinityPlace) (scale : Scale c)
    (bounded : (largest / c).toBits.toNat < infinityPlace) :
    (x / c).toBits.toNat < infinityPlace := by
  have magnitude : Magnitude x := Nat.le_of_lt finite
  have most : Magnitude largest := by decide
  have le : x ≤ largest := by
    rw [magnitude.le_iff most]
    exact Nat.le_of_lt_succ finite
  have quotients := div_mono magnitude most scale scale le scale.magnitude.le_self
  rw [(magnitude_div magnitude scale).le_iff (magnitude_div most scale)] at quotients
  exact Nat.lt_of_le_of_lt quotients bounded

end StepFree.Number
