import StepFree.Proofs.Number.Magnitude

namespace StepFree.Number

open Float.Model Float.Model.UnpackedFloat

theorem toNat_packComponents (exponent : BitVec 11) (mantissa : BitVec 52) :
    (packComponents .binary64 .positive exponent mantissa).toNat =
      exponent.toNat * 2 ^ 52 + mantissa.toNat := by
  change ((0#1 ++ exponent ++ mantissa : BitVec 64)).toNat = _
  rw [BitVec.toNat_append, BitVec.toNat_append, ← Nat.shiftLeft_add_eq_or_of_lt mantissa.isLt,
    Nat.shiftLeft_eq]
  simp

theorem toNat_packedInfinity : (packedInfinity .binary64 .positive).toNat = infinityPlace := by
  decide

/-- What is rounded to a place beyond that of infinity is infinite. -/
theorem toNat_pack {u : UnpackedFloat} {p : Nat} (hasPlace : HasPlace u p) :
    (UnpackedFloat.pack .binary64 u).toNat = min p infinityPlace := by
  have bound : infinityPlace = 2047 * 2 ^ 52 := rfl
  cases hasPlace with
  | zero => decide
  | @finite m e positive onGrid =>
    obtain ⟨least, short, full⟩ := onGrid
    unfold UnpackedFloat.pack
    dsimp only [Format.exponentBias]
    by_cases beyond : 971 < e
    · rw [if_pos (by omega), toNat_packedInfinity, place]
      omega
    · rw [if_neg (by omega)]
      by_cases normal : 2 ^ 52 ≤ m
      · have digits : m.log2 = 52 := (Nat.log2_eq_iff (by omega)).mpr ⟨normal, short⟩
        rw [digits, if_pos (by decide), toNat_packComponents, BitVec.toNat_ofNat,
          BitVec.toNat_ofNat, place]
        omega
      · have digits : m.log2 < 52 := (Nat.log2_lt (by omega)).mpr (by omega)
        rw [if_neg (by rw [mantissaBits_binary64]; omega), toNat_packComponents,
          BitVec.toNat_ofNat, BitVec.toNat_ofNat, place]
        omega

variable {m n k l : Nat} {e f g h : Int}

theorem AtMost.mul (first : AtMost m e n f) (second : AtMost k g l h) :
    AtMost (m * k) (e + g) (n * l) (f + h) := by
  rw [atMost_iff (a := (e - f).toNat + (g - h).toNat) (b := (f - e).toNat + (h - g).toNat)
    (by omega), Nat.pow_add, Nat.pow_add]
  calc
    m * k * (2 ^ (e - f).toNat * 2 ^ (g - h).toNat)
      = m * 2 ^ (e - f).toNat * (k * 2 ^ (g - h).toNat) := Nat.mul_mul_mul_comm ..
    _ ≤ n * 2 ^ (f - e).toNat * (l * 2 ^ (h - g).toNat) := Nat.mul_le_mul first second
    _ = n * l * (2 ^ (f - e).toNat * 2 ^ (h - g).toNat) := Nat.mul_mul_mul_comm ..

theorem OnGrid.product_fits (onGrid : OnGrid m e) (other : OnGrid n f) (positive : 0 < m)
    (otherPositive : 0 < n) : e + f ≤ Number.gridExponent (m * n) (e + f) := by
  have least : -1074 ≤ Number.gridExponent (m * n) (e + f) := Int.le_max_right _ _
  by_cases normal : 2 ^ 52 ≤ m * n
  · have digits : 52 ≤ (m * n).log2 := (Nat.le_log2 (by omega)).mpr normal
    unfold Number.gridExponent
    omega
  · have left : m < 2 ^ 52 := by
      refine Nat.lt_of_le_of_lt ?_ (Nat.lt_of_not_le normal)
      exact Nat.le_mul_of_pos_right m otherPositive
    have right : n < 2 ^ 52 := by
      refine Nat.lt_of_le_of_lt ?_ (Nat.lt_of_not_le normal)
      exact Nat.le_mul_of_pos_left n positive
    have lowest := onGrid.full
    have otherLowest := other.full
    omega

theorem mul_finite (positive : 0 < m) (otherPositive : 0 < n) :
    UnpackedFloat.mul .binary64 (.finite .positive m e positive)
      (.finite .positive n f otherPositive) =
        roundWithAccuracy .binary64 .positive (m * n) (e + f) .exact :=
  rfl

theorem toNat_mul_finite (positive : 0 < m) (onGrid : OnGrid m e) (otherPositive : 0 < n)
    (other : OnGrid n f) :
    (UnpackedFloat.pack .binary64 (.mul .binary64 (.finite .positive m e positive)
      (.finite .positive n f otherPositive))).toNat =
        min (roundedPlace (m * n) (e + f)) infinityPlace := by
  rw [mul_finite]
  exact toNat_pack
    (hasPlace_roundWithAccuracy (onGrid.product_fits other positive otherPositive))

theorem Stands.parts {u : UnpackedFloat} {p : Nat} (stands : Stands u p) (some : 0 < p)
    (finite : p < infinityPlace) : ∃ m e positive,
      u = .finite .positive m e positive ∧ OnGrid m e ∧ p = place m e := by
  cases stands with
  | zero => exact absurd some (Nat.lt_irrefl 0)
  | finite positive onGrid same _ => exact ⟨_, _, positive, rfl, onGrid, same⟩
  | infinity => exact absurd finite (Nat.lt_irrefl _)

/-- Two operations that leave zero and infinity as they are keep the order of all magnitudes if they
keep that of the positive and finite ones, and yield magnitudes. -/
theorem pack_mono (op next : UnpackedFloat → UnpackedFloat) {u v : UnpackedFloat} {p q : Nat}
    (stands : Stands u p) (other : Stands v q) (le : p ≤ q)
    (zero : op (.zero .positive) = .zero .positive)
    (infinite : op (.infinity .positive) = .infinity .positive)
    (otherInfinite : next (.infinity .positive) = .infinity .positive)
    (bounded : ∀ {m e} positive, OnGrid m e →
      (UnpackedFloat.pack .binary64 (op (.finite .positive m e positive))).toNat ≤ infinityPlace)
    (finite : ∀ {m e n f} positive otherPositive, OnGrid m e → OnGrid n f → AtMost m e n f →
      (UnpackedFloat.pack .binary64 (op (.finite .positive m e positive))).toNat ≤
        (UnpackedFloat.pack .binary64 (next (.finite .positive n f otherPositive))).toNat) :
    (UnpackedFloat.pack .binary64 (op u)).toNat ≤
      (UnpackedFloat.pack .binary64 (next v)).toNat := by
  cases stands with
  | zero =>
    rw [zero]
    exact Nat.zero_le _
  | finite positive onGrid same _ =>
    cases other with
    | zero =>
      rw [place] at same
      omega
    | finite otherPositive otherGrid otherSame _ =>
      exact finite positive otherPositive onGrid otherGrid (onGrid.atMost otherGrid (by omega))
    | infinity =>
      rw [otherInfinite]
      exact Nat.le_trans (bounded positive onGrid) (Nat.le_of_eq toNat_packedInfinity.symm)
  | infinity =>
    cases other with
    | zero => exact absurd le (by decide)
    | finite _ _ _ below => omega
    | infinity => rw [infinite, otherInfinite]

theorem pack_mul_mono {u v : UnpackedFloat} {p q : Nat} (stands : Stands u p) (other : Stands v q)
    (le : p ≤ q) (positive : 0 < m) (onGrid : OnGrid m e) (otherPositive : 0 < n)
    (otherGrid : OnGrid n f) (factors : place m e ≤ place n f) :
    (UnpackedFloat.pack .binary64 (.mul .binary64 u (.finite .positive m e positive))).toNat ≤
      (UnpackedFloat.pack .binary64
        (.mul .binary64 v (.finite .positive n f otherPositive))).toNat := by
  refine pack_mono (.mul .binary64 · (.finite .positive m e positive))
    (.mul .binary64 · (.finite .positive n f otherPositive)) stands other le rfl rfl rfl ?_ ?_
  · intro k g someOf grid
    rw [toNat_mul_finite someOf grid positive onGrid]
    exact Nat.min_le_right _ _
  · intro k g l h someOf otherSome grid grid' atMost
    rw [toNat_mul_finite someOf grid positive onGrid,
      toNat_mul_finite otherSome grid' otherPositive otherGrid]
    have rounded := roundedPlace_mono (atMost.mul (onGrid.atMost otherGrid factors))
      (grid.product_fits onGrid someOf positive)
      (grid'.product_fits otherGrid otherSome otherPositive)
    omega

theorem pack_mul_one {u : UnpackedFloat} {p : Nat} (stands : Stands u p) (one : 0 < 2 ^ 52) :
    (UnpackedFloat.pack .binary64
      (.mul .binary64 u (.finite .positive (2 ^ 52) (-52) one))).toNat = p := by
  cases stands with
  | zero => rfl
  | @finite m e _ positive onGrid same bounded =>
    have unit : OnGrid (2 ^ 52) (-52) := ⟨by decide, by decide, .inl (Nat.le_refl _)⟩
    have fits := onGrid.product_fits unit positive one
    have self : e ≤ Number.gridExponent m e := Int.le_of_eq (onGrid.gridExponent positive).symm
    have value : m * 2 ^ 52 * 2 ^ 0 = m * 2 ^ 52 := Nat.mul_one _
    rw [toNat_mul_finite positive onGrid one unit,
      roundedPlace_congr (by omega) value fits self, onGrid.roundedPlace positive]
    omega
  | infinity => exact toNat_packedInfinity

def Scale (c : Float) : Prop :=
  0 < c.toBits.toNat ∧ c.toBits.toNat < infinityPlace

instance (c : Float) : Decidable (Scale c) :=
  inferInstanceAs (Decidable (_ ∧ _))

variable {x y c d : Float}

theorem Scale.magnitude (scale : Scale c) : Magnitude c :=
  Nat.le_of_lt scale.2

theorem Scale.parts (scale : Scale c) : ∃ m e positive,
    c.toModel.unpack = .finite .positive m e positive ∧ OnGrid m e ∧
      c.toBits.toNat = place m e :=
  scale.magnitude.stands.parts scale.1 scale.2

theorem scale_of_positive (positive : 0.0 < c) (finite : c.toBits.toNat < infinityPlace) :
    Scale c := by
  have zero : Magnitude 0.0 := by decide
  rw [zero.lt_iff (Nat.le_of_lt finite)] at positive
  exact ⟨Nat.lt_of_le_of_lt (Nat.zero_le _) positive, finite⟩

theorem toNat_mul (x c : Float) : (x * c).toBits.toNat =
    (UnpackedFloat.pack .binary64
      (.mul .binary64 x.toModel.unpack c.toModel.unpack)).toNat :=
  rfl

theorem magnitude_mul (magnitude : Magnitude x) (scale : Scale c) : Magnitude (x * c) := by
  obtain ⟨m, e, positive, unpacked, onGrid, _⟩ := scale.parts
  unfold Magnitude
  rw [toNat_mul, unpacked, ← toNat_packedInfinity]
  exact pack_mul_mono magnitude.stands .infinity magnitude positive onGrid positive onGrid
    (Nat.le_refl _)

section
variable (magnitude : Magnitude x) (other : Magnitude y) (scale : Scale c)

include magnitude

theorem scale_one : x * 1.0 = x := by
  apply eq_of_toBits_toNat
  rw [toNat_mul, show (1.0 : Float).toModel.unpack =
    .finite .positive (2 ^ 52) (-52) (by decide) by rfl]
  exact pack_mul_one magnitude.stands _

include other scale

theorem scale_mono (otherScale : Scale d) (le : x ≤ y) (factors : c ≤ d) : x * c ≤ y * d := by
  rw [magnitude.le_iff other] at le
  rw [scale.magnitude.le_iff otherScale.magnitude] at factors
  rw [(magnitude_mul magnitude scale).le_iff (magnitude_mul other otherScale)]
  obtain ⟨m, e, positive, unpacked, onGrid, same⟩ := scale.parts
  obtain ⟨n, f, otherPositive, otherUnpacked, otherGrid, otherSame⟩ := otherScale.parts
  rw [toNat_mul, toNat_mul, unpacked, otherUnpacked]
  rw [same, otherSame] at factors
  exact pack_mul_mono magnitude.stands other.stands le positive onGrid otherPositive otherGrid
    factors

theorem scale_le (le : x ≤ y) (factor : c ≤ 1.0) : x * c ≤ y :=
  calc
    x * c ≤ y * 1.0 := scale_mono magnitude other scale (by decide) le factor
    _ = y := scale_one other

theorem le_scale (le : x ≤ y) (factor : 1.0 ≤ c) : x ≤ y * c :=
  calc
    x = x * 1.0 := (scale_one magnitude).symm
    _ ≤ y * c := scale_mono magnitude other (by decide) scale le factor

end

end StepFree.Number
