import StepFree.Number.Basic

namespace StepFree.Number

open Float.Model Float.Model.UnpackedFloat

def infinity : Float := 1.0 / 0.0

def notANumber : Float := 0.0 / 0.0

theorem eq_of_toBits {x y : Float} (same : x.toBits = y.toBits) : x = y := by
  obtain ⟨⟨a, _⟩⟩ := x
  obtain ⟨⟨b, _⟩⟩ := y
  cases same
  rfl

theorem eq_of_toBits_toNat {x y : Float} (same : x.toBits.toNat = y.toBits.toNat) : x = y :=
  eq_of_toBits (UInt64.toNat_inj.mp same)

theorem exponent_toNat (b : BitVec 64) :
    (@unpackExponent .binary64 b).toNat = b.toNat / Nat.pow 2 52 % Nat.pow 2 11 := by
  simp [unpackExponent, BitVec.extractLsb, BitVec.extractLsb', Nat.shiftRight_eq_div_pow]

theorem fraction_toNat (b : BitVec 64) :
    (@unpackMantissa .binary64 b).toNat = b.toNat % Nat.pow 2 52 := by
  simp [unpackMantissa, BitVec.extractLsb, BitVec.extractLsb']

theorem toNat_of_infinite {x : Float} {negative : Bool}
    (infinite : Exact.ofFloat x = .infinite negative) :
    x.toBits.toNat = 2047 * Nat.pow 2 52 + if negative then Nat.pow 2 63 else 0 := by
  have bound := x.toBits.toNat_lt
  simp only [Exact.ofFloat, Nat.pow_eq] at infinite ⊢
  split at infinite
  · rename_i biased
    split at infinite
    · rename_i fraction
      cases infinite
      by_cases sign : 2 ^ 63 ≤ x.toBits.toNat
      · rw [if_pos (decide_eq_true sign)]
        omega
      · rw [if_neg (by simpa using sign)]
        omega
    · cases infinite
  · split at infinite <;> cases infinite

theorem fields_of_nan {x : Float} (nan : Exact.ofFloat x = .nan) :
    x.toBits.toNat / Nat.pow 2 52 % Nat.pow 2 11 = 2047 ∧ x.toBits.toNat % Nat.pow 2 52 ≠ 0 := by
  simp only [Exact.ofFloat] at nan
  split at nan
  · rename_i biased
    split at nan
    · cases nan
    · rename_i fraction
      exact ⟨biased, fraction⟩
  · split at nan <;> cases nan

theorem eq_infinity {x : Float} (infinite : Exact.ofFloat x = .infinite false) : x = infinity :=
  eq_of_toBits_toNat (toNat_of_infinite infinite)

theorem eq_neg_infinity {x : Float} (infinite : Exact.ofFloat x = .infinite true) :
    x = -infinity :=
  eq_of_toBits_toNat (toNat_of_infinite infinite)

theorem eq_notANumber {x : Float} (nan : Exact.ofFloat x = .nan) : x = notANumber := by
  have fields := fields_of_nan nan
  have exponent : @unpackExponent .binary64 x.toBits.toBitVec = -1#11 := by
    apply BitVec.eq_of_toNat_eq
    rw [exponent_toNat]
    exact fields.1
  have fraction : @unpackMantissa .binary64 x.toBits.toBitVec ≠ 0#52 := by
    intro zero
    have none := congrArg BitVec.toNat zero
    rw [fraction_toNat] at none
    exact fields.2 none
  have spelled := x.toModel.valid.eq_packedNaN exponent fraction
  exact eq_of_toBits (UInt64.toBitVec_inj.mp spelled)

theorem nearestInt?_eq_none {x : Float} (unrounded : nearestInt? x = none) :
    x = infinity ∨ x = -infinity ∨ x = notANumber := by
  unfold nearestInt? at unrounded
  split at unrounded
  · cases unrounded
  · rename_i special
    cases h : Exact.ofFloat x with
    | nan => exact .inr (.inr (eq_notANumber h))
    | infinite negative =>
      cases negative with
      | false => exact .inl (eq_infinity h)
      | true => exact .inr (.inl (eq_neg_infinity h))
    | finite negative m e => exact absurd h (special negative m e)

/-- A double above a hundredth that has no nearest integer is infinite. -/
theorem unrounded_iff (x : Float) : 0.01 < x ∧ nearestInt? x = none ↔ x = infinity := by
  constructor
  · rintro ⟨positive, unrounded⟩
    rcases nearestInt?_eq_none unrounded with rfl | rfl | rfl
    · rfl
    · exact absurd positive (by decide)
    · exact absurd positive (by decide)
  · rintro rfl
    decide

end StepFree.Number
