import StepFree.Proofs.Number.Arithmetic
import StepFree.Proofs.Number.Infinity
import StepFree.Proofs.Number.Rounding

/-! Magnitudes: the doubles that are neither negative nor without value. The bits of a magnitude, read
as a number, are its place among all of them, so the order of magnitudes is that of their bits. -/
namespace StepFree.Number

open Float.Model Float.Model.UnpackedFloat

/-- The place of infinity, behind all finite doubles. -/
def infinityPlace : Nat := 2047 * 2 ^ 52

/-- What the bits of a magnitude are unpacked to, and its place. -/
inductive Stands : UnpackedFloat → Nat → Prop
  | zero : Stands (.zero .positive) 0
  | finite {m : Nat} {e : Int} {p : Nat} (positive : 0 < m) (onGrid : OnGrid m e)
      (same : p = place m e) (bounded : p < infinityPlace) :
      Stands (.finite .positive m e positive) p
  | infinity : Stands (.infinity .positive) infinityPlace

theorem unpackSign_toNat (b : BitVec 64) :
    (@unpackSign .binary64 b).toNat = b.toNat / 2 ^ 63 % 2 := by
  have sign : @unpackSign .binary64 b = b.extractLsb 63 63 := rfl
  simp [sign, BitVec.extractLsb, BitVec.extractLsb', Nat.shiftRight_eq_div_pow]

theorem unpackExponent_toNat {b : BitVec 64} (magnitude : b.toNat ≤ infinityPlace) :
    (@unpackExponent .binary64 b).toNat = b.toNat / 2 ^ 52 := by
  have bound : infinityPlace = 2047 * 2 ^ 52 := rfl
  rw [exponent_toNat, Nat.pow_eq, Nat.pow_eq]
  omega

theorem significand_toNat (b : BitVec 64) :
    (1#1 ++ @unpackMantissa .binary64 b).toNat = 2 ^ 52 + b.toNat % 2 ^ 52 := by
  have fraction : (@unpackMantissa .binary64 b).toNat = b.toNat % 2 ^ 52 := fraction_toNat b
  rw [BitVec.toNat_append, ← Nat.shiftLeft_add_eq_or_of_lt (BitVec.isLt _), fraction]
  rfl

section
variable {m : Nat} {e : Int} {p : Nat} (positive : 0 < m)

theorem Stands.normal (mantissa : m = 2 ^ 52 + p % 2 ^ 52)
    (exponent : e = (p / 2 ^ 52 : Nat) - 1075) (normal : p / 2 ^ 52 ≠ 0)
    (bounded : p < infinityPlace) : Stands (.finite .positive m e positive) p := by
  refine .finite positive ⟨by omega, by omega, .inl (by omega)⟩ ?_ bounded
  rw [place]
  omega

theorem Stands.subnormal (mantissa : m = p % 2 ^ 52) (exponent : e = -1074)
    (subnormal : p / 2 ^ 52 = 0) : Stands (.finite .positive m e positive) p := by
  have bound : infinityPlace = 2047 * 2 ^ 52 := rfl
  refine .finite positive ⟨by omega, by omega, .inr exponent⟩ ?_ (by omega)
  rw [place]
  omega

end

theorem stands_unpack {b : BitVec 64} (magnitude : b.toNat ≤ infinityPlace) :
    Stands (UnpackedFloat.unpack .binary64 b) b.toNat := by
  have bound : infinityPlace = 2047 * 2 ^ 52 := rfl
  have unsigned : @unpackSign .binary64 b = 0#1 := by
    apply BitVec.eq_of_toNat_eq
    rw [unpackSign_toNat]
    change _ = 0
    omega
  have biased := unpackExponent_toNat magnitude
  have fraction : (@unpackMantissa .binary64 b).toNat = b.toNat % 2 ^ 52 := fraction_toNat b
  unfold UnpackedFloat.unpack
  dsimp only
  rw [unsigned]
  by_cases full : @unpackExponent .binary64 b = -1#11
  · have top : b.toNat / 2 ^ 52 = 2047 := by rw [← biased, full]; rfl
    have rest : @unpackMantissa .binary64 b = 0#52 := by
      apply BitVec.eq_of_toNat_eq
      rw [fraction]
      change _ = 0
      omega
    rw [if_pos full, if_pos rest, show b.toNat = infinityPlace by omega]
    exact .infinity
  · have below : b.toNat / 2 ^ 52 ≠ 2047 := fun top =>
      full (BitVec.eq_of_toNat_eq (by rw [biased, top]; rfl))
    rw [if_neg full]
    by_cases none : @unpackExponent .binary64 b = 0#11
    · have bottom : b.toNat / 2 ^ 52 = 0 := by rw [← biased, none]; rfl
      rw [if_pos none]
      by_cases nothing : @unpackMantissa .binary64 b = 0#52
      · have rest : b.toNat % 2 ^ 52 = 0 := by rw [← fraction, nothing]; rfl
        rw [dif_pos nothing, show b.toNat = 0 by omega]
        exact .zero
      · rw [dif_neg nothing]
        exact Stands.subnormal _ fraction (by rw [biased, bottom]; rfl) bottom
    · have nonzero : b.toNat / 2 ^ 52 ≠ 0 := fun bottom =>
        none (BitVec.eq_of_toNat_eq (by rw [biased, bottom]; rfl))
      rw [if_neg none]
      exact Stands.normal _ (significand_toNat b) (by rw [biased]; rfl) nonzero (by omega)

theorem compare_place {m n : Nat} {e f : Int} (onGrid : OnGrid m e) (other : OnGrid n f) :
    (compare e f).then (compare m n) = compare (place m e) (place n f) := by
  obtain ⟨least, short, full⟩ := onGrid
  obtain ⟨otherLeast, otherShort, otherFull⟩ := other
  unfold place
  rcases Int.lt_trichotomy e f with below | rfl | above
  · rw [Int.compare_eq_lt.mpr below, eq_comm]
    exact Nat.compare_eq_lt.mpr (by omega)
  · rw [Int.compare_eq_eq.mpr rfl]
    change compare m n = _
    rw [Nat.compare_eq_ite_lt, Nat.compare_eq_ite_lt]
    simp only [Nat.add_lt_add_iff_right]
  · rw [Int.compare_eq_gt.mpr above, eq_comm]
    exact Nat.compare_eq_gt.mpr (by omega)

theorem compare_of_stands {u v : UnpackedFloat} {p q : Nat} (stands : Stands u p)
    (other : Stands v q) : u.compare v = some (compare p q) := by
  cases stands with
  | zero =>
    cases other with
    | zero => rfl
    | finite positive onGrid same bounded =>
      have later : 0 < q := by rw [same, place]; omega
      exact congrArg some (Nat.compare_eq_lt.mpr later).symm
    | infinity => rfl
  | finite positive onGrid same bounded =>
    cases other with
    | zero =>
      have later : 0 < p := by rw [same, place]; omega
      exact congrArg some (Nat.compare_eq_gt.mpr later).symm
    | finite otherPositive otherGrid otherSame _ =>
      subst same otherSame
      exact congrArg some (compare_place onGrid otherGrid)
    | infinity => exact congrArg some (Nat.compare_eq_lt.mpr bounded).symm
  | infinity =>
    cases other with
    | zero => rfl
    | finite positive onGrid same bounded =>
      exact congrArg some (Nat.compare_eq_gt.mpr bounded).symm
    | infinity => rfl

theorem Stands.lt_infinity {u : UnpackedFloat} {p : Nat} (stands : Stands u p)
    (finite : u.isFinite = true) : p < infinityPlace := by
  cases stands with
  | zero => decide
  | finite _ _ _ bounded => exact bounded
  | infinity => cases finite

/-- A double that is zero or positive, infinity included. -/
def Magnitude (x : Float) : Prop :=
  x.toBits.toNat ≤ infinityPlace

instance (x : Float) : Decidable (Magnitude x) :=
  inferInstanceAs (Decidable (_ ≤ _))

variable {x y : Float}

theorem Magnitude.stands (magnitude : Magnitude x) : Stands x.toModel.unpack x.toBits.toNat :=
  stands_unpack magnitude

theorem Magnitude.lt_iff (magnitude : Magnitude x) (other : Magnitude y) :
    x < y ↔ x.toBits.toNat < y.toBits.toNat := by
  rw [Number.lt_iff, compare_of_stands magnitude.stands other.stands, Option.some.injEq,
    Nat.compare_eq_lt]

theorem Magnitude.le_iff (magnitude : Magnitude x) (other : Magnitude y) :
    x ≤ y ↔ x.toBits.toNat ≤ y.toBits.toNat := by
  rw [Number.le_iff, compare_of_stands magnitude.stands other.stands, ← Nat.isLE_compare]
  simp

theorem Magnitude.lt_infinity (magnitude : Magnitude x) (finite : x.isFinite = true) :
    x.toBits.toNat < infinityPlace :=
  magnitude.stands.lt_infinity finite

theorem Magnitude.le_self (magnitude : Magnitude x) : x ≤ x :=
  (magnitude.le_iff magnitude).mpr (Nat.le_refl _)

section
variable (hx : Magnitude x) (hy : Magnitude y)

include hx hy

theorem Magnitude.lt_or_le : x < y ∨ y ≤ x := by
  rw [hx.lt_iff hy, hy.le_iff hx]
  exact Nat.lt_or_ge _ _

theorem Magnitude.le_antisymm (le : x ≤ y) (ge : y ≤ x) : x = y := by
  rw [hx.le_iff hy] at le
  rw [hy.le_iff hx] at ge
  exact eq_of_toBits_toNat (Nat.le_antisymm le ge)

end

theorem isPositive_negative {b : BitVec 64} (signed : 2 ^ 63 ≤ b.toNat) :
    isPositive (UnpackedFloat.unpack .binary64 b) = false := by
  have sign : @unpackSign .binary64 b = 1#1 := by
    apply BitVec.eq_of_toNat_eq
    rw [unpackSign_toNat]
    change _ = 1
    omega
  unfold UnpackedFloat.unpack
  rw [sign]
  dsimp only
  by_cases full : @unpackExponent .binary64 b = -1#11
  · rw [if_pos full]
    by_cases rest : @unpackMantissa .binary64 b = 0#52
    · rw [if_pos rest]
      rfl
    · rw [if_neg rest]
      rfl
  · rw [if_neg full]
    by_cases none : @unpackExponent .binary64 b = 0#11
    · rw [if_pos none]
      by_cases nothing : @unpackMantissa .binary64 b = 0#52
      · rw [dif_pos nothing]
        rfl
      · rw [dif_neg nothing]
        rfl
    · rw [if_neg none]
      rfl

theorem isNaN_beyond {b : BitVec 64} (beyond : infinityPlace < b.toNat)
    (unsigned : b.toNat < 2 ^ 63) : (UnpackedFloat.unpack .binary64 b).isNaN = true := by
  have bound : infinityPlace = 2047 * 2 ^ 52 := rfl
  rw [isNaN_unpack_iff]
  constructor
  · apply BitVec.eq_of_toNat_eq
    rw [exponent_toNat, Nat.pow_eq, Nat.pow_eq]
    change _ = 2047
    omega
  · intro none
    have rest : b.toNat % 2 ^ 52 = 0 := by
      rw [← Nat.pow_eq, ← fraction_toNat, none]
      rfl
    omega

theorem magnitude_of_positive (positive : 0.0 < x) : Magnitude x := by
  have number : x.isNaN = false := (isNaN_of_lt positive).2
  rw [positive_iff] at positive
  refine Nat.le_of_not_lt fun beyond => ?_
  rcases Nat.lt_or_ge x.toBits.toNat (2 ^ 63) with unsigned | signed
  · have nan := isNaN_beyond (b := x.toBits.toBitVec) beyond unsigned
    exact Bool.eq_false_iff.mp number nan
  · have negative := isPositive_negative (b := x.toBits.toBitVec) signed
    exact Bool.eq_false_iff.mp negative positive

end StepFree.Number
