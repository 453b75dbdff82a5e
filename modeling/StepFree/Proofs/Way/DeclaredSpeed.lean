import StepFree.Lookup.SpeedLimit
import StepFree.Proofs.Number.Magnitude
import StepFree.Proofs.Tags.Adding

namespace StepFree.SpeedLimit

open StepFree.Number

def IsLeastOf (m : Float) (l : List Float) : Prop :=
  m ∈ l ∧ ∀ x ∈ l, m ≤ x

theorem IsLeastOf.eq {m n : Float} {l : List Float} (magnitudes : ∀ x ∈ l, Magnitude x)
    (least : IsLeastOf m l) (other : IsLeastOf n l) : m = n := by
  have magnitude := magnitudes m least.1
  have otherMagnitude := magnitudes n other.1
  exact magnitude.le_antisymm otherMagnitude (least.2 n other.1) (other.2 m least.1)

theorem isLeastOf_foldl {r : List Float} {x : Float} (magnitudes : ∀ y ∈ x :: r, Magnitude y) :
    IsLeastOf (r.foldl (fun m y => if y < m then y else m) x) (x :: r) := by
  induction r generalizing x with
  | nil =>
    refine ⟨List.mem_cons_self, fun y found => ?_⟩
    obtain rfl := List.mem_singleton.mp found
    exact (magnitudes y found).le_self
  | cons y r ih =>
    obtain ⟨hx, hy, rest⟩ : Magnitude x ∧ Magnitude y ∧ ∀ z ∈ r, Magnitude z := by
      simpa using magnitudes
    -- The smaller of the first two stands for both.
    obtain ⟨m, chosen, member, le, otherLe⟩ : ∃ m, (if y < x then y else x) = m ∧
        (m = x ∨ m = y) ∧ m ≤ x ∧ m ≤ y := by
      by_cases less : y < x
      · exact ⟨y, if_pos less, .inr rfl, le_of_lt less, hy.le_self⟩
      · exact ⟨x, if_neg less, .inl rfl, hx.le_self, (hy.lt_or_le hx).resolve_left less⟩
    have magnitude : Magnitude m := by
      rcases member with rfl | rfl
      · exact hx
      · exact hy
    have all : ∀ z ∈ m :: r, Magnitude z := List.forall_mem_cons.mpr ⟨magnitude, rest⟩
    rw [List.foldl_cons, chosen]
    obtain ⟨found, below⟩ := ih all
    have least := all _ found
    have belowBoth := below m List.mem_cons_self
    constructor
    · rcases List.mem_cons.mp found with first | later
      · rw [first]
        rcases member with rfl | rfl
        · exact List.mem_cons_self
        · exact List.mem_cons_of_mem _ List.mem_cons_self
      · exact List.mem_cons_of_mem _ (List.mem_cons_of_mem _ later)
    · intro z given
      rcases List.mem_cons.mp given with rfl | given
      · exact le_trans belowBoth le
      · rcases List.mem_cons.mp given with rfl | later
        · exact le_trans belowBoth otherLe
        · exact below z (List.mem_cons_of_mem _ later)

theorem isLeastOf_least {l : List Float} (magnitudes : ∀ x ∈ l, Magnitude x) (some : l ≠ []) :
    IsLeastOf (least l) l := by
  cases l with
  | nil => exact absurd rfl some
  | cons x r => exact isLeastOf_foldl magnitudes

def declared (t : Tags) : List Float :=
  (keys.map fun k => parse (t.first? k)).filter (0.0 < ·)

variable {t : Tags} {key : String} {values : Values} {x : Float}

theorem mem_declared : x ∈ declared t ↔ 0.0 < x ∧ ∃ k ∈ keys, parse (t.first? k) = x := by
  rw [declared, List.mem_filter, List.mem_map, decide_eq_true_eq, and_comm]

theorem magnitude_of_declared (t : Tags) : ∀ x ∈ declared t, Magnitude x :=
  fun _ found => magnitude_of_positive (mem_declared.mp found).1

theorem magnitude_ofTags (t : Tags) : Magnitude (ofTags t) := by
  by_cases none : declared t = []
  · have unknown : ofTags t = 0.0 := congrArg SpeedLimit.least none
    rw [unknown]
    decide
  · exact magnitude_of_declared t _ (isLeastOf_least (magnitude_of_declared t) none).1

theorem parse_of_absent (absent : t.has key = false) : parse (t.first? key) = 0.0 := by
  rw [Tags.has, Option.isSome_eq_false_iff, Option.isNone_iff_eq_none] at absent
  rw [Tags.first?, absent]
  rfl

theorem mem_declared_insert (known : key ∈ keys) (absent : t.has key = false)
    (positive : 0.0 < parse (some values.first)) :
    x ∈ declared (t.insert key values) ↔ x = parse (some values.first) ∨ x ∈ declared t := by
  simp only [mem_declared, Tags.first?_insert]
  constructor
  · rintro ⟨positive, k, read, parsed⟩
    by_cases here : k = key
    · rw [if_pos here] at parsed
      exact .inl parsed.symm
    · rw [if_neg here] at parsed
      exact .inr ⟨positive, k, read, parsed⟩
  · rintro (rfl | ⟨positive, k, read, rfl⟩)
    · exact ⟨positive, key, known, by rw [if_pos rfl]⟩
    · have other : k ≠ key := by
        rintro rfl
        rw [parse_of_absent absent] at positive
        exact absurd positive (by decide)
      exact ⟨positive, k, read, by rw [if_neg other]⟩

/-- A limit under a key of its own is the only one, or not below the least, or takes its place. -/
theorem ofTags_insert (known : key ∈ keys) (absent : t.has key = false)
    (positive : 0.0 < parse (some values.first)) :
    (ofTags t = 0.0 ∧ ofTags (t.insert key values) = parse (some values.first)) ∨
    (0.0 < ofTags t ∧ ofTags t ≤ parse (some values.first) ∧
      ofTags (t.insert key values) = ofTags t) ∨
    (parse (some values.first) < ofTags t ∧
      ofTags (t.insert key values) = parse (some values.first)) := by
  have members (x : Float) := mem_declared_insert (x := x) known absent positive
  have magnitudes := magnitude_of_declared (t.insert key values)
  generalize parse (some values.first) = v at positive members ⊢
  have magnitude := magnitude_of_positive positive
  have given : v ∈ declared (t.insert key values) := (members v).mpr (.inl rfl)
  have least := isLeastOf_least magnitudes (List.ne_nil_of_mem given)
  have settled {m : Float} (other : IsLeastOf m (declared (t.insert key values))) :
      ofTags (t.insert key values) = m := least.eq magnitudes other
  by_cases none : declared t = []
  · refine .inl ⟨congrArg SpeedLimit.least none, settled ⟨given, fun x found => ?_⟩⟩
    rcases (members x).mp found with rfl | before
    · exact magnitude.le_self
    · rw [none] at before
      cases before
  · obtain ⟨found, below⟩ := isLeastOf_least (magnitude_of_declared t) none
    have before := magnitude_ofTags t
    refine .inr ((magnitude.lt_or_le before).symm.imp (fun le => ?_) fun less => ?_)
    · refine ⟨(mem_declared.mp found).1, le, settled ⟨(members _).mpr (.inr found), ?_⟩⟩
      intro x listed
      rcases (members x).mp listed with rfl | old
      · exact le
      · exact below x old
    · refine ⟨less, settled ⟨given, fun x listed => ?_⟩⟩
      rcases (members x).mp listed with rfl | old
      · exact magnitude.le_self
      · exact le_of_lt (lt_of_lt_of_le less (below x old))

end StepFree.SpeedLimit
