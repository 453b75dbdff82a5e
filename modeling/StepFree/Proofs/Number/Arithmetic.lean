import StepFree.Number.Basic
import StepFree.Proofs.Number.Order

namespace StepFree.Number

open Float.Model Float.Model.UnpackedFloat

theorem isNaN_zero_or_finite {P : Prop} [Decidable P] (s : Sign) (m : Nat) (e : Int)
    (positive : ¬ P → 0 < m) :
    (if h : P then UnpackedFloat.zero s else .finite s m e (positive h)).isNaN = false := by
  by_cases zero : P
  · rw [dif_pos zero]
    rfl
  · rw [dif_neg zero]
    rfl

theorem isNaN_unpack_iff (b : BitVec 64) :
    (UnpackedFloat.unpack .binary64 b).isNaN = true ↔
      @unpackExponent .binary64 b = -1#11 ∧ @unpackMantissa .binary64 b ≠ 0#52 := by
  unfold UnpackedFloat.unpack
  by_cases full : @unpackExponent .binary64 b = -1#11
  · rw [if_pos full]
    by_cases none : @unpackMantissa .binary64 b = 0#52
    · rw [if_pos none]
      exact iff_of_false Bool.false_ne_true fun special => special.2 none
    · rw [if_neg none]
      exact iff_of_true rfl ⟨full, none⟩
  · rw [if_neg full]
    refine iff_of_false (Bool.not_eq_true _ ▸ ?_) fun special => full special.1
    by_cases subnormal : @unpackExponent .binary64 b = 0#11
    · rw [if_pos subnormal]
      exact isNaN_zero_or_finite ..
    · rw [if_neg subnormal]
      rfl

theorem isNaN_pack (u : UnpackedFloat) : (Float.Model.pack u).unpack.isNaN = u.isNaN := by
  change (UnpackedFloat.unpack .binary64 (UnpackedFloat.pack .binary64 u)).isNaN = u.isNaN
  cases u with
  | notANumber => decide
  | infinity s => cases s <;> decide
  | zero s => cases s <;> decide
  | finite s m e _ =>
    change _ = false
    rw [← Bool.not_eq_true, isNaN_unpack_iff]
    unfold UnpackedFloat.pack
    dsimp only
    split
    · simp [packedInfinity, unpackMantissa_packComponents]
    · rename_i bounded
      split
      · rw [unpackExponent_packComponents]
        rintro ⟨full, _⟩
        -- An exponent field of ones would stand for an exponent that overflows.
        have field := congrArg BitVec.toNat full
        rw [BitVec.toNat_ofNat, show BitVec.toNat (-1#11) = 2047 from rfl] at field
        omega
      · rw [unpackExponent_packComponents]
        exact fun special => absurd special.1 (by decide)

theorem isNaN_roundWithAccuracy (f : Format) (s : Sign) (m : Nat) (e : Int) (a : Accuracy) :
    (roundWithAccuracy f s m e a).isNaN = false :=
  isNaN_zero_or_finite ..

theorem isNaN_mul_finite {u : UnpackedFloat} (number : u.isNaN = false) (s : Sign) (m : Nat)
    (e : Int) (positive : 0 < m) :
    (UnpackedFloat.mul .binary64 u (.finite s m e positive)).isNaN = false := by
  cases u with
  | notANumber => cases number
  | infinity _ => rfl
  | zero _ => rfl
  | finite _ _ _ _ => exact isNaN_roundWithAccuracy ..

theorem finite_of_positive {c : Float} (finite : c.isFinite = true) (positive : 0.0 < c) :
    ∃ s m e h, c.toModel.unpack = .finite s m e h := by
  change c.toModel.unpack.isFinite = true at finite
  rw [lt_iff, show (0.0 : Float).toModel.unpack = .zero .positive from rfl] at positive
  cases h : c.toModel.unpack with
  | notANumber =>
    rw [h] at finite
    cases finite
  | infinity s =>
    rw [h] at finite
    cases finite
  | zero s =>
    rw [h] at positive
    cases positive
  | finite s m e p => exact ⟨s, m, e, p, rfl⟩

theorem isNaN_mul {x c : Float} (number : x.isNaN = false) (finite : c.isFinite = true)
    (positive : 0.0 < c) : (x * c).isNaN = false := by
  obtain ⟨s, m, e, h, parts⟩ := finite_of_positive finite positive
  change (Float.Model.pack (UnpackedFloat.mul _ _ c.toModel.unpack)).unpack.isNaN = false
  rw [isNaN_pack, parts]
  exact isNaN_mul_finite number s m e h

theorem isNaN_neg (x : Float) : (-x).isNaN = x.isNaN := by
  change (Float.Model.pack x.toModel.unpack.neg).unpack.isNaN = x.toModel.unpack.isNaN
  rw [isNaN_pack]
  cases x.toModel.unpack <;> rfl

theorem isNaN_normalize (f : Format) (m e : Int) (s : Sign) :
    (UnpackedFloat.normalize f m e s).isNaN = false := by
  unfold UnpackedFloat.normalize
  split
  · exact isNaN_roundWithAccuracy ..
  · rfl
  · exact isNaN_roundWithAccuracy ..

theorem isNaN_toFloat (n : UInt64) : n.toFloat.isNaN = false := by
  change (Float.Model.pack (UnpackedFloat.ofNat _ n.toNat)).unpack.isNaN = false
  rw [isNaN_pack]
  exact isNaN_normalize ..

theorem isNaN_ofScientific (n : Nat) :
    (UnpackedFloat.ofScientific .binary64 n 0).isNaN = false := by
  have small : ¬ (0 : Int) < -(2 ^ 11 + n.log2) := by omega
  unfold UnpackedFloat.ofScientific
  by_cases zero : n = 0
  · rw [dif_pos zero]
    rfl
  · rw [dif_neg zero, if_neg (by decide), if_neg small, if_pos (Int.le_refl 0)]
    exact isNaN_mul_finite rfl ..

theorem isNaN_ofNat (n : Nat) : (Float.ofNat n).isNaN = false := by
  change (Float.ofScientific n false 0).isNaN = false
  unfold Float.ofScientific
  split
  · -- A small number is read as a word and multiplied by a power of ten, here by one.
    have one : Float.exactlyRepresentablePowersOfTen[0] = 1.0 := by decide
    rw [if_neg Bool.false_ne_true, one]
    exact isNaN_mul (isNaN_toFloat n.toUInt64) (by decide) (by decide)
  · change (Float.Model.pack (UnpackedFloat.ofScientific _ n 0)).unpack.isNaN = false
    rw [isNaN_pack]
    exact isNaN_ofScientific n

theorem isNaN_ofInt (n : Int) : (Float.ofInt n).isNaN = false := by
  cases n with
  | ofNat n => exact isNaN_ofNat n
  | negSucc n => exact (isNaN_neg _).trans (isNaN_ofNat _)

end StepFree.Number
