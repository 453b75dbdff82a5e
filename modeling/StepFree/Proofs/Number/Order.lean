import StepFree.Number.Basic

namespace StepFree.Number

open Float.Model Float.Model.UnpackedFloat

/-- What numbers are compared by: the kind and the sign first, then the exponent, then the mantissa. -/
def rank : UnpackedFloat → Int × Int × Int
  | .notANumber | .zero _ => (0, 0, 0)
  | .infinity .positive => (2, 0, 0)
  | .infinity .negative => (-2, 0, 0)
  | .finite .positive m e _ => (1, e, m)
  | .finite .negative m e _ => (-1, -e, -m)

abbrev compareRank : Int × Int × Int → Int × Int × Int → Ordering :=
  compareLex (compareOn (·.1)) (compareLex (compareOn (·.2.1)) (compareOn (·.2.2)))

theorem compare_neg (m n : Int) : compare (-m) (-n) = (compare m n).swap := by
  rw [← Std.OrientedCmp.eq_swap, Int.compare_eq_ite_lt, Int.compare_eq_ite_lt]
  simp only [Int.neg_lt_neg_iff]

theorem compare_natCast (m n : Nat) : compare (m : Int) n = compare m n := by
  rw [Int.compare_eq_ite_lt, Nat.compare_eq_ite_lt]
  simp only [Int.ofNat_lt]

theorem compare_eq (a b : UnpackedFloat) : a.compare b =
    if a.isNaN || b.isNaN then none else some (compareRank (rank a) (rank b)) := by
  cases a with
  | notANumber => cases b <;> rfl
  | infinity s =>
    cases b with
    | notANumber => cases s <;> rfl
    | infinity r => cases s <;> cases r <;> rfl
    | zero r => cases s <;> rfl
    | finite r n f _ => cases s <;> cases r <;> rfl
  | zero s =>
    cases b with
    | notANumber => rfl
    | infinity r => cases r <;> rfl
    | zero r => rfl
    | finite r n f _ => cases r <;> rfl
  | finite s m e _ =>
    cases b with
    | notANumber => cases s <;> rfl
    | infinity r => cases s <;> cases r <;> rfl
    | zero r => cases s <;> rfl
    | finite r n f _ =>
      cases s with
      | positive =>
        cases r with
        | positive =>
          change some _ = some ((compare e f).then (compare (m : Int) n))
          rw [compare_natCast]
        | negative => rfl
      | negative =>
        cases r with
        | positive => rfl
        | negative =>
          change some _ = some ((compare (-e) (-f)).then (compare (-m : Int) (-n)))
          rw [compare_neg, compare_neg, compare_natCast, ← Ordering.swap_then]

theorem compare_swap (a b : UnpackedFloat) : b.compare a = (a.compare b).map Ordering.swap := by
  rw [compare_eq, compare_eq, Bool.or_comm]
  by_cases special : (a.isNaN || b.isNaN) = true
  · rw [if_pos special, if_pos special]
    rfl
  · rw [if_neg special, if_neg special]
    exact congrArg some Std.OrientedCmp.eq_swap

theorem compare_isSome (a b : UnpackedFloat) :
    (a.compare b).isSome = (!a.isNaN && !b.isNaN) := by
  rw [compare_eq]
  cases a.isNaN <;> cases b.isNaN <;> rfl

theorem lt_iff (x y : Float) :
    x < y ↔ x.toModel.unpack.compare y.toModel.unpack = some .lt := by
  change decide (x.toModel.unpack.lt y.toModel.unpack = true) = true ↔ _
  rw [decide_eq_true_eq, UnpackedFloat.lt, beq_iff_eq]

theorem le_iff (x y : Float) :
    x ≤ y ↔ ∃ o, x.toModel.unpack.compare y.toModel.unpack = some o ∧ o.isLE = true := by
  change decide (x.toModel.unpack.le y.toModel.unpack = true) = true ↔ _
  rw [decide_eq_true_eq, UnpackedFloat.le, Option.any_eq_true]

variable {x y : Float}

theorem comparable (number : x.isNaN = false) (other : y.isNaN = false) :
    ∃ o, x.toModel.unpack.compare y.toModel.unpack = some o := by
  rw [← Option.isSome_iff_exists, compare_isSome]
  change (!x.isNaN && !y.isNaN) = true
  rw [number, other]
  rfl

theorem isNaN_of_compare {o : Ordering}
    (compared : x.toModel.unpack.compare y.toModel.unpack = some o) :
    x.isNaN = false ∧ y.isNaN = false := by
  have both : (!x.isNaN && !y.isNaN) = true := by
    have some := compare_isSome x.toModel.unpack y.toModel.unpack
    rw [compared] at some
    exact some.symm
  rwa [Bool.and_eq_true, Bool.not_eq_true', Bool.not_eq_true'] at both

theorem isNaN_of_lt (less : x < y) : x.isNaN = false ∧ y.isNaN = false :=
  isNaN_of_compare ((lt_iff x y).mp less)

theorem isNaN_of_le (ordered : x ≤ y) : x.isNaN = false ∧ y.isNaN = false := by
  obtain ⟨_, compared, _⟩ := (le_iff x y).mp ordered
  exact isNaN_of_compare compared

theorem isNaN_of_isFinite (finite : x.isFinite = true) : x.isNaN = false := by
  change x.toModel.unpack.isFinite = true at finite
  change x.toModel.unpack.isNaN = false
  cases unpacked : x.toModel.unpack with
  | notANumber =>
    rw [unpacked] at finite
    cases finite
  | infinity s => rfl
  | zero s => rfl
  | finite s m e _ => rfl

theorem le_of_not_lt (number : x.isNaN = false) (other : y.isNaN = false) (least : ¬ x < y) :
    y ≤ x := by
  obtain ⟨o, compared⟩ := comparable number other
  rw [lt_iff, compared, Option.some.injEq] at least
  refine (le_iff y x).mpr ⟨o.swap, ?_, ?_⟩
  · rw [compare_swap, compared]
    rfl
  · cases o with
    | lt => exact absurd rfl least
    | eq => rfl
    | gt => rfl

theorem le_self (number : x.isNaN = false) : x ≤ x := by
  apply le_of_not_lt number number
  intro less
  rw [lt_iff] at less
  have swapped := compare_swap x.toModel.unpack x.toModel.unpack
  rw [less] at swapped
  cases swapped

theorem le_of_lt (less : x < y) : x ≤ y :=
  (le_iff x y).mpr ⟨.lt, (lt_iff x y).mp less, rfl⟩

theorem not_lt_of_le (ordered : x ≤ y) : ¬ y < x := by
  obtain ⟨o, compared, le⟩ := (le_iff x y).mp ordered
  rw [lt_iff, compare_swap, compared, Option.map_some, Option.some.injEq]
  intro less
  cases o with
  | lt => cases less
  | eq => cases less
  | gt => cases le

theorem lt_of_lt_of_le {z : Float} (less : x < y) (ordered : y ≤ z) : x < z := by
  obtain ⟨number, middle⟩ := isNaN_of_lt less
  obtain ⟨_, other⟩ := isNaN_of_le ordered
  change x.toModel.unpack.isNaN = false at number
  change y.toModel.unpack.isNaN = false at middle
  change z.toModel.unpack.isNaN = false at other
  rw [lt_iff, compare_eq, number, middle] at less
  obtain ⟨o, compared, le⟩ := (le_iff y z).mp ordered
  rw [compare_eq, middle, other] at compared
  rw [lt_iff, compare_eq, number, other]
  cases compared
  exact congrArg some (Std.TransCmp.lt_of_lt_of_isLE (Option.some.inj less) le)

theorem le_trans {z : Float} (le : x ≤ y) (further : y ≤ z) : x ≤ z :=
  le_of_not_lt (isNaN_of_le further).2 (isNaN_of_le le).1 fun less =>
    not_lt_of_le further (lt_of_lt_of_le less le)

def isPositive : UnpackedFloat → Bool
  | .infinity .positive | .finite .positive .. => true
  | _ => false

theorem zero_compare (a : UnpackedFloat) :
    ((UnpackedFloat.zero .positive).compare a == some .lt) = isPositive a := by
  cases a with
  | notANumber => rfl
  | infinity s => cases s <;> rfl
  | zero s => rfl
  | finite s m e _ => cases s <;> rfl

theorem positive_iff (x : Float) : 0.0 < x ↔ isPositive x.toModel.unpack = true := by
  rw [lt_iff, show (0.0 : Float).toModel.unpack = .zero .positive from rfl, ← zero_compare,
    beq_iff_eq]

theorem compare_positive {a b : UnpackedFloat} (number : a.isNaN = false)
    (other : isPositive a = false) (positive : isPositive b = true) :
    (a.compare b == some .lt) = true := by
  cases b with
  | notANumber | zero => cases positive
  | infinity r | finite r n f _ =>
    cases r with
    | negative => cases positive
    | positive =>
      cases a with
      | notANumber => cases number
      | zero s => rfl
      | infinity s | finite s m e _ =>
        cases s with
        | positive => cases other
        | negative => rfl

theorem lt_of_not_positive (positive : 0.0 < x) (number : y.isNaN = false) (other : ¬ 0.0 < y) :
    y < x := by
  rw [positive_iff] at positive other
  rw [lt_iff]
  exact beq_iff_eq.mp (compare_positive number (Bool.eq_false_iff.mpr other) positive)

theorem positive_of_le (positive : 0.0 < x) (ordered : x ≤ y) : 0.0 < y :=
  Decidable.byContradiction fun other =>
    not_lt_of_le ordered (lt_of_not_positive positive (isNaN_of_le ordered).2 other)

def Bounds.Holds (b : Bounds) (x : Float) : Prop :=
  b.low ≤ x ∧ x ≤ b.high

theorem Bounds.holds_clamp {b : Bounds} (ordered : b.low ≤ b.high) (number : x.isNaN = false) :
    b.Holds (b.clamp x) := by
  obtain ⟨low, high⟩ := isNaN_of_le ordered
  have raised : b.low ≤ (if x < b.low then b.low else x) ∧
      (if x < b.low then b.low else x).isNaN = false := by
    by_cases below : x < b.low
    · rw [if_pos below]
      exact ⟨le_self low, low⟩
    · rw [if_neg below]
      exact ⟨le_of_not_lt number low below, number⟩
  unfold Bounds.clamp Bounds.Holds
  dsimp only
  by_cases above : b.high < (if x < b.low then b.low else x)
  · rw [if_pos above]
    exact ⟨ordered, le_self high⟩
  · rw [if_neg above]
    exact ⟨raised.1, le_of_not_lt high raised.2 above⟩

theorem raise_mono {low : Float} (number : low.isNaN = false) (le : x ≤ y) :
    (if x < low then low else x) ≤ if y < low then low else y := by
  obtain ⟨first, second⟩ := isNaN_of_le le
  by_cases below : x < low
  · rw [if_pos below]
    by_cases otherBelow : y < low
    · rw [if_pos otherBelow]
      exact le_self number
    · rw [if_neg otherBelow]
      exact le_of_not_lt second number otherBelow
  · have least : low ≤ x := le_of_not_lt first number below
    have otherLeast : ¬ y < low := fun less => not_lt_of_le le (lt_of_lt_of_le less least)
    rw [if_neg below, if_neg otherLeast]
    exact le

theorem cap_mono {high : Float} (number : high.isNaN = false) (le : x ≤ y) :
    (if high < x then high else x) ≤ if high < y then high else y := by
  obtain ⟨first, second⟩ := isNaN_of_le le
  by_cases above : high < x
  · rw [if_pos above, if_pos (lt_of_lt_of_le above le)]
    exact le_self number
  · rw [if_neg above]
    by_cases otherAbove : high < y
    · rw [if_pos otherAbove]
      exact le_of_not_lt number first above
    · rw [if_neg otherAbove]
      exact le

theorem Bounds.clamp_mono {b : Bounds} (low : b.low.isNaN = false) (high : b.high.isNaN = false)
    (le : x ≤ y) : b.clamp x ≤ b.clamp y :=
  cap_mono high (raise_mono low le)

theorem Bounds.clamp_cases (b : Bounds) (x : Float) :
    b.clamp x = b.low ∨ b.clamp x = b.high ∨ b.clamp x = x := by
  unfold clamp
  grind

end StepFree.Number
