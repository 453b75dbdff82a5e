import StepFree.Proofs.Node.AccessKeys
import StepFree.Proofs.Tags.Adding

namespace StepFree

theorem eq_false_of_imp {a b : Bool} (needs : a = true → b = true) (fails : b = false) :
    a = false :=
  Bool.eq_false_iff.mpr fun holds => Bool.eq_false_iff.mp fails (needs holds)

def nodeKeys : List String := ["barrier", "highway", "ford", "locked"]

namespace Settings

theorem someKeyDenies_eq_true {s : Settings} {t : Tags} :
    s.someKeyDenies t = true ↔
      ∃ k ∈ s.vocabulary.restrictionKeys, t.Shows k s.vocabulary.restricted :=
  Tags.anyCarries_eq_true

/-- What makes a node block: a barrier that always does, a ford that is closed as such, a potential
barrier that no key opens, or a ford that some key denies. -/
theorem blocks_iff (s : Settings) (t : Tags) :
    s.blocks t = true ↔
      t.carriesAny "barrier" s.categories.blockingBarriers = true ∨
      (t.isFord = true ∧ s.config.blockFords = true ∧ s.intended t "wheelchair" = false) ∨
      if t.carriesAny "barrier" (s.categories.tier .potentialBarriers) then
        s.firstKeyAllows t = false ∧
          (s.someKeyDenies t = true ∨ s.config.blockPotentialBarriers = true)
      else t.isFord = true ∧ s.someKeyDenies t = true := by
  rw [blocks_eq, blocksUnless, ← carriesAny_blockingBarriers]
  cases t.carriesAny "barrier" s.categories.blockingBarriers with
  | true => simp
  | false =>
    cases closed : t.isFord && s.config.blockFords && !s.intended t "wheelchair" with
    | true =>
      simp only [Bool.and_eq_true, Bool.not_eq_true', and_assoc] at closed
      simp [closed]
    | false =>
      have passed : ¬ (t.isFord = true ∧ s.config.blockFords = true ∧
          s.intended t "wheelchair" = false) := by
        rintro ⟨ford, blocked, stranger⟩
        simp [ford, blocked, stranger] at closed
      simp only [passed, Bool.false_eq_true, if_false, false_or]
      cases t.carriesAny "barrier" (s.categories.tier .potentialBarriers) with
      | true => cases s.firstKeyAllows t <;> cases s.someKeyDenies t <;> simp
      | false => cases t.isFord <;> simp

/-- Whether `u` is easier than `t`. -/
structure Easier (s : Settings) (u t : Tags) : Prop where
  allows : ∀ k ∈ "wheelchair" :: s.vocabulary.restrictionKeys,
    t.Shows k s.vocabulary.intended → u.Shows k s.vocabulary.intended
  denies : ∀ k ∈ s.vocabulary.restrictionKeys,
    u.Shows k s.vocabulary.restricted → t.Shows k s.vocabulary.restricted
  locked : u.carries "locked" "yes" = true → t.carries "locked" "yes" = true
  obstacle : ∀ k ∈ ["barrier", "highway", "ford"], u.SameValues t k

namespace Easier

variable {s : Settings} {t u : Tags} (easier : s.Easier u t)

include easier

theorem intended {k : String} (key : k ∈ "wheelchair" :: s.vocabulary.restrictionKeys)
    (intended : s.intended t k = true) : s.intended u k = true :=
  Tags.carriesAny_eq_true.mpr (easier.allows k key (Tags.carriesAny_eq_true.mp intended))

theorem restricted {k : String} (key : k ∈ s.vocabulary.restrictionKeys)
    (restricted : s.restricted u k = true) : s.restricted t k = true :=
  Tags.carriesAny_eq_true.mpr (easier.denies k key (Tags.carriesAny_eq_true.mp restricted))

theorem someKeyDenies (denied : s.someKeyDenies u = true) : s.someKeyDenies t = true := by
  rw [someKeyDenies_eq_true] at denied ⊢
  obtain ⟨k, key, denies⟩ := denied
  exact ⟨k, key, easier.denies k key denies⟩

theorem find?_any (keys : List String) (asked : keys ⊆ s.vocabulary.restrictionKeys)
    (allowed : (keys.find? fun k => s.intended t k || s.restricted t k).any (s.intended t) = true) :
    (keys.find? fun k => s.intended u k || s.restricted u k).any (s.intended u) = true := by
  induction keys with
  | nil => cases allowed
  | cons k rest ih =>
    obtain ⟨key, others⟩ := List.cons_subset.mp asked
    rw [List.find?_cons] at allowed ⊢
    cases new : s.intended u k with
    | true => simp [new]
    | false =>
      have old : s.intended t k = false :=
        eq_false_of_imp (easier.intended (List.mem_cons_of_mem _ key)) new
      cases silent : s.restricted t k with
      | true => simp [old, silent] at allowed
      | false =>
        -- A key that is silent and stays so; the search goes on behind it on both sides.
        have stillSilent : s.restricted u k = false :=
          eq_false_of_imp (easier.restricted key) silent
        simp only [old, silent, stillSilent, Bool.or_false] at allowed ⊢
        exact ih others allowed

theorem firstKeyAllows (allowed : s.firstKeyAllows t = true) : s.firstKeyAllows u = true := by
  obtain ⟨unlocked, said⟩ := Bool.and_eq_true_iff.mp allowed
  refine Bool.and_eq_true_iff.mpr ⟨?_, easier.find?_any _ (List.Subset.refl _) said⟩
  rw [Bool.not_eq_true'] at unlocked ⊢
  exact eq_false_of_imp easier.locked unlocked

theorem isFord : u.isFord = t.isFord := by
  rw [Tags.isFord, Tags.isFord, (easier.obstacle "highway" (by decide)).carries,
    (easier.obstacle "ford" (by decide)).has]

theorem blocks (blocked : s.blocks u = true) : s.blocks t = true := by
  have barrier := easier.obstacle "barrier" (by decide)
  rw [blocks_iff, barrier.carriesAny, barrier.carriesAny, easier.isFord] at blocked
  rw [blocks_iff]
  rcases blocked with always | ⟨ford, closed, stranger⟩ | reached
  · exact .inl always
  · exact .inr (.inl ⟨ford, closed, eq_false_of_imp (easier.intended List.mem_cons_self) stranger⟩)
  · refine .inr (.inr ?_)
    split at reached
    · rename_i gate
      obtain ⟨unopened, closed⟩ := reached
      rw [if_pos gate]
      exact ⟨eq_false_of_imp easier.firstKeyAllows unopened, closed.imp_left easier.someKeyDenies⟩
    · rename_i ungated
      rw [if_neg ungated]
      exact ⟨reached.1, easier.someKeyDenies reached.2⟩

end Easier

variable {s : Settings} (t : Tags) {key value : String}

theorem sameObstacle_add (value : String) (apart : key ∉ ["barrier", "highway", "ford"]) :
    ∀ k ∈ ["barrier", "highway", "ford"], (t.add key value).SameValues t k :=
  fun _ hk => t.sameValues_add value fun here => apart (here ▸ hk)

theorem easier_add (apart : key ∉ nodeKeys)
    (harmless : key ∈ s.vocabulary.restrictionKeys → value ∉ s.vocabulary.restricted) :
    s.Easier (t.add key value) t where
  allows _ _ shows := shows.add key value
  denies _ hk shows := shows.of_add fun here => harmless (here ▸ hk)
  locked locked := by
    have other : "locked" ≠ key := fun here => apart (here ▸ by decide)
    rwa [(t.sameValues_add value other).carries] at locked
  obstacle := sameObstacle_add t value fun here => apart (List.mem_append_left ["locked"] here)

theorem easier_of_add (apart : key ∉ ["barrier", "highway", "ford"])
    (useless : key ∈ "wheelchair" :: s.vocabulary.restrictionKeys →
      value ∉ s.vocabulary.intended) :
    s.Easier t (t.add key value) where
  allows _ hk shows := shows.of_add fun here => useless (here ▸ hk)
  denies _ _ shows := shows.add key value
  locked := Tags.carries_mono (t.values_subset_add key value "locked")
  obstacle k hk := by
    have same := sameObstacle_add t value apart k hk
    exact fun v => (same v).symm

variable (s)

/-- Where no access key tells of barriers, fords or locks and no word both allows and denies, a value
for access never closes a node that passes, and neither a value against it nor a lock ever opens one
that blocks. -/
theorem node_evidence_moves_one_way
    (words : ∀ v ∈ s.vocabulary.intended, v ∉ s.vocabulary.restricted)
    (keys : ∀ k ∈ s.vocabulary.restrictionKeys, k ∉ nodeKeys) :
    (∀ key ∈ s.vocabulary.restrictionKeys, ∀ value,
      (value ∈ s.vocabulary.intended → s.blocks t = false →
        s.blocks (t.add key value) = false) ∧
      (value ∈ s.vocabulary.restricted → s.blocks t = true →
        s.blocks (t.add key value) = true)) ∧
    (s.blocks t = true → s.blocks (t.add "locked" "yes") = true) := by
  refine ⟨fun key access value => ⟨fun intended passes => ?_, fun restricted blocked => ?_⟩,
    fun blocked => ?_⟩
  · have easier : s.Easier (t.add key value) t :=
      easier_add t (keys key access) fun _ => words value intended
    exact eq_false_of_imp easier.blocks passes
  · have easier : s.Easier t (t.add key value) :=
      easier_of_add t (fun here => keys key access (List.mem_append_left ["locked"] here))
        fun _ intended => words value intended restricted
    exact easier.blocks blocked
  · have easier : s.Easier t (t.add "locked" "yes") := by
      refine easier_of_add t (by decide) fun access => ?_
      rcases List.mem_cons.mp access with wheelchair | access
      · exact absurd wheelchair (by decide)
      · exact absurd (by decide) (keys "locked" access)
    exact easier.blocks blocked

def privateGate : Tags :=
  ⟨[("barrier", ⟨"gate", []⟩), ("access", ⟨"private", []⟩), ("foot", ⟨"permissive", []⟩)],
    by decide⟩

theorem node_evidence_moves_gates :
    (({} : Settings).blocks privateGate = false ∧
      ({} : Settings).blocks (privateGate.add "wheelchair" "limited") = false) ∧
    ({} : Settings).blocks wheelchairGate = true ∧
      ({} : Settings).blocks (wheelchairGate.add "access" "private") = true ∧
      ({} : Settings).blocks (wheelchairGate.add "locked" "yes") = true := by
  have words : ∀ v ∈ Vocabulary.standard.intended.members,
      v ∉ Vocabulary.standard.restricted := by decide
  have keys : ∀ k ∈ Vocabulary.standard.restrictionKeys, k ∉ nodeKeys := by decide
  have passes : ({} : Settings).blocks privateGate = false := by decide
  have blocked : ({} : Settings).blocks wheelchairGate = true := by decide
  obtain ⟨access, -⟩ := node_evidence_moves_one_way {} privateGate words keys
  obtain ⟨denial, lock⟩ := node_evidence_moves_one_way {} wheelchairGate words keys
  exact ⟨⟨passes, (access "wheelchair" (by decide) "limited").1 (by decide) passes⟩, blocked,
    (denial "access" (by decide) "private").2 (by decide) blocked, lock blocked⟩

end Settings
end StepFree
