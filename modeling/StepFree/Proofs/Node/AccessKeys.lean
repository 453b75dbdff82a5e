import StepFree.Proofs.Profile.Switches

/-! The access keys of a potential barrier. They are asked one after the other, and the first that says
anything decides. To take them together, so that a key that allows opens the barrier wherever it stands,
is another rule: the two differ where a key that denies stands before all keys that allow, and there the
barrier is closed. -/
namespace StepFree

theorem Tags.carriesAny_union (t : Tags) (key : String) (a b : ValueSet) :
    t.carriesAny key (a.union b) = (t.carriesAny key a || t.carriesAny key b) := by
  rw [Bool.eq_iff_iff, Bool.or_eq_true, carriesAny_iff, carriesAny_iff, carriesAny_iff]
  simp only [ValueSet.mem_union, and_or_left, exists_or]

namespace Settings

variable (s : Settings) (t : Tags)

/-- Nothing is locked, and some access key allows. -/
def someKeyAllows : Bool :=
  !t.carries "locked" "yes" && t.anyCarries s.vocabulary.restrictionKeys s.vocabulary.intended

/-- Nothing is locked, and the first access key that says anything allows. -/
def firstKeyAllows : Bool :=
  !t.carries "locked" "yes" &&
    (s.vocabulary.restrictionKeys.find? fun k => s.intended t k || s.restricted t k).any
      (s.intended t)

def someKeyDenies : Bool :=
  t.anyCarries s.vocabulary.restrictionKeys s.vocabulary.restricted

/-- Whether a node blocks, if it is known whether its access keys open a potential barrier. -/
def blocksUnless (opened : Bool) : Bool :=
  if t.carriesAny "barrier" (s.categories.tier .absoluteBarriers) ||
      t.carriesAny "barrier" (s.categories.tier .inaccessibleBarriers) then true
  else if t.isFord && s.config.blockFords && !s.intended t "wheelchair" then true
  else if t.carriesAny "barrier" (s.categories.tier .potentialBarriers) then
    if opened then false
    else if s.someKeyDenies t then true
    else s.config.blockPotentialBarriers
  else if t.isFord then s.someKeyDenies t
  else false

theorem blocked_findSome?_keyDecision (keys : List String) (otherwise : NodeDecision) :
    ((keys.findSome? (s.keyDecision? t)).getD otherwise).blocked =
      if !t.carries "locked" "yes" &&
          (keys.find? fun k => s.intended t k || s.restricted t k).any (s.intended t) then false
      else if t.anyCarries keys s.vocabulary.restricted then true
      else otherwise.blocked := by
  induction keys with
  | nil => simp [Tags.anyCarries]
  | cons k r ih =>
    have denies : t.anyCarries (k :: r) s.vocabulary.restricted =
        (s.restricted t k || t.anyCarries r s.vocabulary.restricted) := rfl
    rw [List.findSome?_cons, List.find?_cons, denies, keyDecision?]
    cases allowed : s.intended t k with
    | true =>
      cases locked : t.carries "locked" "yes" with
      | false => simp [allowed]
      | true =>
        cases denied : s.restricted t k with
        | true => simp
        | false => simpa [locked] using ih
    | false =>
      cases denied : s.restricted t k with
      | true => simp [allowed]
      | false => simpa using ih

theorem blocked_potentialBarrierDecision :
    (s.potentialBarrierDecision t).blocked =
      if s.firstKeyAllows t then false
      else if s.someKeyDenies t then true
      else s.config.blockPotentialBarriers :=
  s.blocked_findSome?_keyDecision t _ _

theorem blocked_fordDecision : (s.fordDecision t).blocked = s.someKeyDenies t := by
  unfold fordDecision someKeyDenies
  cases t.anyCarries s.vocabulary.restrictionKeys s.vocabulary.restricted <;> rfl

theorem carriesAny_blockingBarriers :
    t.carriesAny "barrier" s.categories.blockingBarriers =
      (t.carriesAny "barrier" (s.categories.tier .absoluteBarriers) ||
        t.carriesAny "barrier" (s.categories.tier .inaccessibleBarriers)) :=
  t.carriesAny_union "barrier" _ _

theorem blocks_eq : s.blocks t = s.blocksUnless t (s.firstKeyAllows t) := by
  unfold blocks decideNode blocksUnless
  simp only [apply_ite NodeDecision.blocked, carriesAny_blockingBarriers,
    blocked_potentialBarrierDecision, blocked_fordDecision]

theorem blocksUnless_eq (opened : Bool) :
    s.blocksUnless t opened =
      if s.reachesBarrier t then !opened && (s.someKeyDenies t || s.config.blockPotentialBarriers)
      else s.blocksUnless t false := by
  unfold blocksUnless reachesBarrier
  rw [carriesAny_blockingBarriers]
  cases t.carriesAny "barrier" (s.categories.tier .absoluteBarriers) ||
      t.carriesAny "barrier" (s.categories.tier .inaccessibleBarriers) with
  | true => simp
  | false =>
    cases t.isFord && s.config.blockFords && !s.intended t "wheelchair" with
    | true => simp
    | false =>
      cases t.carriesAny "barrier" (s.categories.tier .potentialBarriers) with
      | true => cases opened <;> cases s.someKeyDenies t <;> simp
      | false => simp

theorem someKeyAllows_of_first (allows : s.firstKeyAllows t = true) :
    s.someKeyAllows t = true := by
  obtain ⟨unlocked, said⟩ := Bool.and_eq_true_iff.mp allows
  obtain ⟨k, found, intended⟩ := (Option.any_eq_true ..).mp said
  exact Bool.and_eq_true_iff.mpr
    ⟨unlocked, List.any_eq_true.mpr ⟨k, List.mem_of_find?_eq_some found, intended⟩⟩

theorem someKeyDenies_of_overruled (allows : s.someKeyAllows t = true)
    (overruled : s.firstKeyAllows t = false) : s.someKeyDenies t = true := by
  obtain ⟨unlocked, said⟩ := Bool.and_eq_true_iff.mp allows
  obtain ⟨j, member, intended⟩ := List.any_eq_true.mp said
  have speaking : ∃ k ∈ s.vocabulary.restrictionKeys, (s.intended t k || s.restricted t k) = true :=
    ⟨j, member, Bool.or_eq_true_iff.mpr (.inl intended)⟩
  obtain ⟨k, found⟩ := Option.isSome_iff_exists.mp (List.find?_isSome.mpr speaking)
  rw [firstKeyAllows, unlocked, found, Bool.true_and, Option.any_some] at overruled
  have denies := List.find?_some found
  rw [overruled, Bool.false_or] at denies
  exact List.any_eq_true.mpr ⟨k, List.mem_of_find?_eq_some found, denies⟩

/-- At a potential barrier the first access key that says anything decides. A rule by which any key that
allows opens the barrier gives the same answer, unless some key allows and the first does not. -/
theorem first_key_decides :
    s.blocks t = s.blocksUnless t (s.firstKeyAllows t) ∧
    (s.blocks t = s.blocksUnless t (s.someKeyAllows t) ↔
      ¬ (s.reachesBarrier t = true ∧ s.someKeyAllows t = true ∧ s.firstKeyAllows t = false)) := by
  refine ⟨s.blocks_eq t, ?_⟩
  rw [blocks_eq, blocksUnless_eq, blocksUnless_eq _ _ (s.someKeyAllows t)]
  cases reached : s.reachesBarrier t with
  | false => simp
  | true =>
    cases some : s.someKeyAllows t with
    | false =>
      have none : s.firstKeyAllows t = false :=
        Bool.eq_false_iff.mpr fun first => by simp [s.someKeyAllows_of_first t first] at some
      simp [none]
    | true =>
      cases first : s.firstKeyAllows t with
      | true => simp
      | false => simp [s.someKeyDenies_of_overruled t some first]

def wheelchairGate : Tags :=
  ⟨[("barrier", ⟨"gate", []⟩), ("foot", ⟨"no", []⟩), ("wheelchair", ⟨"yes", []⟩)], by decide⟩

/-- Its first key denies, so it blocks although a later one allows. -/
theorem wheelchairGate_blocks :
    ({} : Settings).blocks wheelchairGate = true ∧
      ({} : Settings).someKeyAllows wheelchairGate = true ∧
      ({} : Settings).blocksUnless wheelchairGate
        (({} : Settings).someKeyAllows wheelchairGate) = false := by
  decide

end Settings
end StepFree
