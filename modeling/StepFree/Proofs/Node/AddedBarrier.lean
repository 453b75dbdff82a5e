import Mathlib.Data.List.Find
import StepFree.Proofs.Node.AccessKeys
import StepFree.Proofs.Tags.Adding

/-! One more barrier on a node. A barrier that blocks closes the node, and a potential one leaves alone what
is decided before, or as a potential barrier already. What remains is a ford that is not closed as such
but denied by an access key: as a gate too it is decided as a potential barrier, where a key that allows
may come before the one that denies, and then the gate opens the ford. -/
namespace StepFree

namespace Settings

variable (s : Settings) (t : Tags) (value : String)

theorem isFord_addBarrier : (t.add "barrier" value).isFord = t.isFord := by
  rw [Tags.isFord, Tags.isFord, (t.sameValues_add value (by decide)).carries,
    (t.sameValues_add value (by decide)).has]

theorem intended_addBarrier {k : String} (other : k ≠ "barrier") :
    s.intended (t.add "barrier" value) k = s.intended t k :=
  (t.sameValues_add value other).carriesAny _

theorem restricted_addBarrier {k : String} (other : k ≠ "barrier") :
    s.restricted (t.add "barrier" value) k = s.restricted t k :=
  (t.sameValues_add value other).carriesAny _

/-- Whether a barrier that is added opens a node: a ford that is not closed as such but denied by some access
key, with neither a blocking nor a potential barrier yet, if with a potential one it passes because
another access key allows. -/
structure OpenedBy : Prop where
  potential : value ∈ s.categories.tier .potentialBarriers
  unblocked : t.carriesAny "barrier" s.categories.blockingBarriers = false
  ungated : t.carriesAny "barrier" (s.categories.tier .potentialBarriers) = false
  ford : t.isFord = true
  spared : s.config.blockFords = true → s.intended t "wheelchair" = true
  denied : s.someKeyDenies t = true
  allowed : s.someKeyAllows t = true
  passes : (s.potentialBarrierDecision t).blocked = false

theorem firstKeyAllows_eq_true (denied : s.someKeyDenies t = true) :
    s.firstKeyAllows t = true ↔ (s.potentialBarrierDecision t).blocked = false := by
  rw [blocked_potentialBarrierDecision, denied]
  cases s.firstKeyAllows t <;> simp

section

variable {s} (apart : "barrier" ∉ s.vocabulary.restrictionKeys)

include apart

theorem someKeyDenies_addBarrier :
    s.someKeyDenies (t.add "barrier" value) = s.someKeyDenies t :=
  Tags.anyCarries_congr (fun _ member => t.sameValues_add value (ne_of_mem_of_not_mem member apart)) _

theorem firstKeyAllows_addBarrier :
    s.firstKeyAllows (t.add "barrier" value) = s.firstKeyAllows t := by
  have other {k : String} (member : k ∈ s.vocabulary.restrictionKeys) : k ≠ "barrier" :=
    ne_of_mem_of_not_mem member apart
  have speaks : ∀ k ∈ s.vocabulary.restrictionKeys,
      (s.intended (t.add "barrier" value) k || s.restricted (t.add "barrier" value) k) =
        (s.intended t k || s.restricted t k) := by
    intro k member
    rw [intended_addBarrier _ _ _ (other member), restricted_addBarrier _ _ _ (other member)]
  rw [firstKeyAllows, firstKeyAllows, (t.sameValues_add value (by decide)).carries,
    List.find?_congr speaks]
  cases found : s.vocabulary.restrictionKeys.find? fun k => s.intended t k || s.restricted t k with
  | none => rfl
  | some k =>
    rw [Option.any_some, Option.any_some,
      intended_addBarrier _ _ _ (other (List.mem_of_find?_eq_some found))]

theorem blocks_addBarrier :
    s.blocks (t.add "barrier" value) =
      if t.carriesAny "barrier" s.categories.blockingBarriers ||
          s.categories.blockingBarriers.contains value then true
      else if t.isFord && s.config.blockFords && !s.intended t "wheelchair" then true
      else if t.carriesAny "barrier" (s.categories.tier .potentialBarriers) ||
          (s.categories.tier .potentialBarriers).contains value then
        if s.firstKeyAllows t then false
        else if s.someKeyDenies t then true
        else s.config.blockPotentialBarriers
      else if t.isFord then s.someKeyDenies t
      else false := by
  rw [blocks_eq, blocksUnless, ← carriesAny_blockingBarriers, firstKeyAllows_addBarrier t value apart,
    someKeyDenies_addBarrier t value apart, isFord_addBarrier,
    intended_addBarrier _ _ _ (by decide), Tags.carriesAny_add, Tags.carriesAny_add]

theorem opens_iff_openedBy
    (tiers : value ∈ s.categories.tier .potentialBarriers → value ∉ s.categories.blockingBarriers) :
    s.blocks t = true ∧ s.blocks (t.add "barrier" value) = false ↔ s.OpenedBy t value := by
  rw [blocks_addBarrier t value apart, blocks_eq, blocksUnless, ← carriesAny_blockingBarriers]
  constructor
  · rintro ⟨closed, opened⟩
    split at opened
    · cases opened
    · rename_i harmless
      obtain ⟨unblocked, -⟩ := Bool.or_eq_false_iff.mp (Bool.eq_false_iff.mpr harmless)
      split at opened
      · cases opened
      · rename_i spared
        rw [unblocked, if_neg Bool.false_ne_true, if_neg spared] at closed
        cases ungated : t.carriesAny "barrier" (s.categories.tier .potentialBarriers) with
        | true =>
          -- It was decided by the access keys before, and they have not changed.
          rw [ungated, if_pos rfl] at closed
          rw [ungated, Bool.true_or, if_pos rfl, closed] at opened
          cases opened
        | false =>
          rw [ungated, if_neg Bool.false_ne_true] at closed
          obtain ⟨ford, denied⟩ : t.isFord = true ∧ s.someKeyDenies t = true := by simpa using closed
          rw [ungated, Bool.false_or, ford, denied] at opened
          obtain ⟨potential, allowed⟩ :
              (s.categories.tier .potentialBarriers).contains value = true ∧
                s.firstKeyAllows t = true := by simpa using opened
          refine ⟨of_decide_eq_true potential, unblocked, ungated, ford, fun blocked => ?_, denied,
            s.someKeyAllows_of_first t allowed, (s.firstKeyAllows_eq_true t denied).mp allowed⟩
          simpa [ford, blocked] using spared
  · intro opens
    have harmless := tiers opens.potential
    have first := (s.firstKeyAllows_eq_true t opens.denied).mpr opens.passes
    simp [opens.unblocked, opens.ungated, opens.ford, opens.denied, first, opens.potential,
      ValueSet.contains, harmless]
    exact opens.spared

end

/-- With the usual tiers and access keys, whatever the switches, a barrier that is added opens just those
nodes; all others that block still do. -/
theorem barrier_opens_only_denied_ford (c : Config) :
    let s : Settings := { config := c }
    s.blocks t = true ∧ s.blocks (t.add "barrier" value) = false ↔ s.OpenedBy t value := by
  intro s
  have apart : "barrier" ∉ Vocabulary.standard.restrictionKeys := by decide
  have tiers : ∀ v ∈ (Categories.standard.tier .potentialBarriers).members,
      v ∉ Categories.standard.blockingBarriers := by decide
  exact opens_iff_openedBy t value apart (tiers value)

def privateCrossing : Tags :=
  ⟨[("ford", ⟨"yes", []⟩), ("access", ⟨"private", []⟩), ("foot", ⟨"yes", []⟩),
    ("wheelchair", ⟨"yes", []⟩)], by decide⟩

/-- The word for walkers comes first, but only at a gate does this count. -/
theorem gate_opens_privateCrossing :
    ({} : Settings).blocks privateCrossing = true ∧
      ({} : Settings).blocks (privateCrossing.add "barrier" "gate") = false := by
  decide

end Settings
end StepFree
