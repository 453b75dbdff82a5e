import StepFree.Profile.Basic
import StepFree.Proofs.Access.Closure

namespace StepFree

namespace Settings

variable (s : Settings) (t : Tags)

def blockingFords (on : Bool) : Settings :=
  { s with config := { s.config with blockFords := on } }

def blockingPotentialBarriers (on : Bool) : Settings :=
  { s with config := { s.config with blockPotentialBarriers := on } }

section

variable (on : Bool)

@[simp]
theorem blockFords_blockingFords : (s.blockingFords on).config.blockFords = on :=
  rfl

@[simp]
theorem categories_blockingFords : (s.blockingFords on).categories = s.categories :=
  rfl

@[simp]
theorem intended_blockingFords (key : String) :
    (s.blockingFords on).intended t key = s.intended t key :=
  rfl

@[simp]
theorem potentialBarrierDecision_blockingFords :
    (s.blockingFords on).potentialBarrierDecision t = s.potentialBarrierDecision t :=
  rfl

@[simp]
theorem fordDecision_blockingFords : (s.blockingFords on).fordDecision t = s.fordDecision t :=
  rfl

@[simp]
theorem blockFords_blockingPotentialBarriers :
    (s.blockingPotentialBarriers on).config.blockFords = s.config.blockFords :=
  rfl

@[simp]
theorem categories_blockingPotentialBarriers :
    (s.blockingPotentialBarriers on).categories = s.categories :=
  rfl

@[simp]
theorem intended_blockingPotentialBarriers (key : String) :
    (s.blockingPotentialBarriers on).intended t key = s.intended t key :=
  rfl

@[simp]
theorem fordDecision_blockingPotentialBarriers :
    (s.blockingPotentialBarriers on).fordDecision t = s.fordDecision t :=
  rfl

end

theorem TurnedAway.imp {s : Settings} {t : Tags} {p q : Prop} (turned : s.TurnedAway t p)
    (also : p → q) : s.TurnedAway t q :=
  ⟨turned.1, turned.2.imp_right fun foot => ⟨foot.1, foot.2.imp_right also⟩⟩

theorem hindered_blockingFords (hindered : (s.blockingFords false).Hindered t) :
    (s.blockingFords true).Hindered t := by
  obtain ⟨bare, missing | motorroad | ⟨off, _⟩⟩ := hindered
  · exact ⟨bare, .inl missing⟩
  · exact ⟨bare, .inr (.inl motorroad)⟩
  · cases off

theorem closed_blockingFords (closed : (s.blockingFords false).Closed t) :
    (s.blockingFords true).Closed t := by
  rcases closed with denied | crossing | ⟨street, unfit | never | turned⟩
  · exact .inl denied
  · exact .inr (.inl crossing)
  · exact .inr (.inr ⟨street, .inl unfit⟩)
  · exact .inr (.inr ⟨street, .inr (.inl never)⟩)
  · exact .inr (.inr ⟨street, .inr (.inr (turned.imp (s.hindered_blockingFords t)))⟩)

theorem excluded_blockingFords (excluded : (s.blockingFords false).verdict t = .excluded) :
    (s.blockingFords true).verdict t = .excluded := by
  rw [excluded_iff_closed] at excluded ⊢
  exact s.closed_blockingFords t excluded

theorem applies_blockingFords {r : AccessRule} (other : r ≠ .ford) (on : Bool) :
    r.applies (s.blockingFords on) t = r.applies s t := by
  cases r with
  | ford => exact absurd rfl other
  | _ => rfl

theorem decideBy_congr {s₁ s₂ : Settings} {rules : List AccessRule}
    (same : ∀ r ∈ rules, r.applies s₁ t = r.applies s₂ t) :
    s₁.decideBy rules t = s₂.decideBy rules t := by
  induction rules with
  | nil => rfl
  | cons r rest ih =>
    obtain ⟨head, tail⟩ := List.forall_mem_cons.mp same
    simp only [decideBy, List.find?_cons, head]
    cases r.applies s₂ t with
    | true => rfl
    | false => exact ih tail

theorem decideBy_append {before : List AccessRule} (after : List AccessRule)
    (decided : ∃ r ∈ before, r.applies s t = true) :
    s.decideBy (before ++ after) t = s.decideBy before t := by
  obtain ⟨r, found⟩ := Option.isSome_iff_exists.mp (List.find?_isSome.mpr decided)
  rw [decideBy, decideBy, List.find?_append, found]
  rfl

def rulesBeforeFord : List AccessRule :=
  AccessRule.all.takeWhile (· ≠ .ford)

theorem all_eq_append : AccessRule.all = rulesBeforeFord ++ [.ford, .highway] :=
  rfl

theorem ne_ford_of_mem : ∀ r ∈ rulesBeforeFord, r ≠ .ford := by
  decide

theorem ford_does_not_apply (passed : (t.hasHighway && t.isFord) = false) :
    AccessRule.ford.applies s t = false := by
  rw [AccessRule.applies, Bool.and_right_comm, passed, Bool.false_and]

/-- A ford on a highway for wheelchairs is decided before the rule for fords is reached. -/
theorem decideAccess_blockingFords
    (spared : t.hasHighway = true → t.isFord = true → s.intended t "wheelchair" = true) (on : Bool) :
    (s.blockingFords on).decideAccess t = s.decideAccess t := by
  by_cases decided : ∃ r ∈ rulesBeforeFord, r.applies s t = true
  · have same : ∀ r ∈ rulesBeforeFord, r.applies (s.blockingFords on) t = r.applies s t :=
      fun r hr => s.applies_blockingFords t (ne_ford_of_mem r hr) on
    have again : ∃ r ∈ rulesBeforeFord, r.applies (s.blockingFords on) t = true := by
      obtain ⟨r, hr, applies⟩ := decided
      exact ⟨r, hr, (same r hr).trans applies⟩
    rw [decideAccess, decideAccess, all_eq_append, decideBy_append _ t _ again,
      decideBy_append _ t _ decided]
    exact decideBy_congr t same
  · apply decideBy_congr
    intro r _
    by_cases ford : r = .ford
    · have passed : (t.hasHighway && t.isFord) = false := by
        rw [Bool.eq_false_iff, ne_eq, Bool.and_eq_true]
        rintro ⟨highway, isFord⟩
        refine decided ⟨.wheelchairIntended, by decide, ?_⟩
        rw [AccessRule.applies, highway, spared highway isFord, Bool.and_true]
      rw [ford, ford_does_not_apply _ t passed, ford_does_not_apply _ t passed]
    · exact s.applies_blockingFords t ford on

/-- Whether a node is a ford that is closed if fords are blocked. -/
def stopsAtFord : Bool :=
  !t.carriesAny "barrier" s.categories.blockingBarriers && t.isFord && !s.intended t "wheelchair"

theorem decideNode_blockingFords (on : Bool) :
    (s.blockingFords on).decideNode t =
      if on && s.stopsAtFord t then ⟨true, .ford⟩ else (s.blockingFords false).decideNode t := by
  cases on with
  | false => rfl
  | true =>
    cases barrier : t.carriesAny "barrier" s.categories.blockingBarriers with
    | true => simp [decideNode, stopsAtFord, barrier]
    | false =>
      cases ford : t.isFord <;> cases intended : s.intended t "wheelchair" <;>
        simp [decideNode, stopsAtFord, barrier, ford, intended]

theorem decideNode_of_spared (spared : s.stopsAtFord t = false) (on : Bool) :
    (s.blockingFords on).decideNode t = s.decideNode t := by
  have off (on : Bool) : (s.blockingFords on).decideNode t = (s.blockingFords false).decideNode t := by
    rw [decideNode_blockingFords, spared, Bool.and_false, if_neg Bool.false_ne_true]
  rw [off on, ← off s.config.blockFords]
  rfl

theorem blocks_blockingFords (blocks : (s.blockingFords false).blocks t = true) :
    (s.blockingFords true).blocks t = true := by
  rw [Settings.blocks, decideNode_blockingFords]
  split
  · rfl
  · exact blocks

/-- Whether a node comes to be decided as a potential barrier. -/
def reachesBarrier : Bool :=
  !t.carriesAny "barrier" s.categories.blockingBarriers &&
    !(t.isFord && s.config.blockFords && !s.intended t "wheelchair") &&
    t.carriesAny "barrier" (s.categories.tier .potentialBarriers)

theorem decideNode_blockingPotentialBarriers (on : Bool) :
    (s.blockingPotentialBarriers on).decideNode t =
      if s.reachesBarrier t then (s.blockingPotentialBarriers on).potentialBarrierDecision t
      else s.decideNode t := by
  cases barrier : t.carriesAny "barrier" s.categories.blockingBarriers with
  | true => simp [decideNode, reachesBarrier, barrier]
  | false =>
    cases ford : t.isFord && s.config.blockFords && !s.intended t "wheelchair" with
    | true => simp [decideNode, reachesBarrier, barrier, ford]
    | false =>
      cases potential : t.carriesAny "barrier" (s.categories.tier .potentialBarriers) <;>
        simp [decideNode, reachesBarrier, barrier, ford, potential]

theorem potentialBarrierDecision_closes
    (blocked : ((s.blockingPotentialBarriers false).potentialBarrierDecision t).blocked = true) :
    ((s.blockingPotentialBarriers true).potentialBarrierDecision t).blocked = true := by
  change ((s.vocabulary.restrictionKeys.findSome? (s.keyDecision? t)).getD _).blocked = true
    at blocked ⊢
  cases said : s.vocabulary.restrictionKeys.findSome? (s.keyDecision? t) with
  | none => rfl
  | some d => rwa [said] at blocked

theorem blocks_blockingPotentialBarriers
    (blocks : (s.blockingPotentialBarriers false).blocks t = true) :
    (s.blockingPotentialBarriers true).blocks t = true := by
  rw [Settings.blocks, decideNode_blockingPotentialBarriers] at blocks ⊢
  cases reached : s.reachesBarrier t with
  | true =>
    rw [reached, if_pos rfl] at blocks
    exact s.potentialBarrierDecision_closes t blocks
  | false =>
    rw [reached] at blocks
    exact blocks

end Settings

namespace Profile

variable (s : Settings) (l : Lookups) (t : Tags) (bonus : Int)

theorem speed_blockingFords (on : Bool) :
    (Profile.mk (s.blockingFords on) l).speed t = (Profile.mk s l).speed t := by
  funext v
  cases v <;> rfl

theorem speed_blockingPotentialBarriers (on : Bool) :
    (Profile.mk (s.blockingPotentialBarriers on) l).speed t = (Profile.mk s l).speed t := by
  funext v
  cases v <;> rfl

/-- Turning a switch on leaves what is excluded excluded and what blocks blocking. The switch for fords
changes neither decision and no result where there is no ford, or one for wheelchairs, and the switch for
potential barriers changes nothing without one, and no way at all. -/
theorem switches_only_close :
    ((s.blockingFords false).verdict t = .excluded →
      (s.blockingFords true).verdict t = .excluded) ∧
    ((s.blockingFords false).blocks t = true → (s.blockingFords true).blocks t = true) ∧
    ((s.blockingPotentialBarriers false).blocks t = true →
      (s.blockingPotentialBarriers true).blocks t = true) ∧
    (("ford" ∉ t.values "highway" ∧ t.values "ford" = []) ∨
        t.Shows "wheelchair" s.vocabulary.intended → ∀ on,
      (s.blockingFords on).decideAccess t = s.decideAccess t ∧
      (Profile.mk (s.blockingFords on) l).wayResult t bonus = (Profile.mk s l).wayResult t bonus ∧
      (s.blockingFords on).decideNode t = s.decideNode t) ∧
    (¬ t.Shows "barrier" (s.categories.tier .potentialBarriers) → ∀ on,
      (s.blockingPotentialBarriers on).decideNode t = s.decideNode t) ∧
    ∀ on, (s.blockingPotentialBarriers on).decideAccess t = s.decideAccess t ∧
      (Profile.mk (s.blockingPotentialBarriers on) l).wayResult t bonus =
        (Profile.mk s l).wayResult t bonus := by
  refine ⟨s.excluded_blockingFords t, s.blocks_blockingFords t,
    s.blocks_blockingPotentialBarriers t, ?_, ?_, ?_⟩
  · intro spared on
    have spared : t.isFord = true → s.intended t "wheelchair" = true := by
      rw [Tags.isFord_eq_true, Settings.intended, Tags.carriesAny_eq_true]
      rintro (street | node)
      · exact spared.resolve_left fun none => none.1 street
      · exact spared.resolve_left fun none => node none.2
    have access := s.decideAccess_blockingFords t (fun _ => spared) on
    refine ⟨access, wayResult_congr access (speed_blockingFords s l t on) rfl bonus, ?_⟩
    apply s.decideNode_of_spared t
    rw [Settings.stopsAtFord, Bool.and_assoc]
    cases ford : t.isFord with
    | true => rw [spared ford, Bool.not_true, Bool.and_false, Bool.and_false]
    | false => rw [Bool.false_and, Bool.and_false]
  · intro none on
    rw [s.decideNode_blockingPotentialBarriers, Settings.reachesBarrier,
      Bool.eq_false_iff.mpr (mt Tags.carriesAny_eq_true.mp none), Bool.and_false,
      if_neg Bool.false_ne_true]
  · intro on
    exact ⟨rfl, wayResult_congr rfl (speed_blockingPotentialBarriers s l t on) rfl bonus⟩

def privateFord : Tags :=
  ⟨[("highway", ⟨"service", []⟩), ("ford", ⟨"stepping_stones", []⟩), ("barrier", ⟨"gate", []⟩),
    ("access", ⟨"private", []⟩)], by decide⟩

def wheelchairFord : Tags :=
  ⟨[("highway", ⟨"ford", ["track"]⟩), ("wheelchair", ⟨"limited", []⟩)], by decide⟩

theorem switches_at_fords :
    ((({} : Settings).blockingFords true).verdict privateFord = .excluded ∧
      (({} : Settings).blockingFords true).blocks privateFord = true ∧
      (({} : Settings).blockingPotentialBarriers true).blocks privateFord = true) ∧
    wheelchairFord.isFord = true ∧
    (∀ on, (Profile.mk (({} : Settings).blockingFords on) (.standard {})).wayResult wheelchairFord 5 =
        (ofSettings {}).wayResult wheelchairFord 5 ∧
      (({} : Settings).blockingFords on).decideNode wheelchairFord =
        ({} : Settings).decideNode wheelchairFord) ∧
    ∀ on, (({} : Settings).blockingPotentialBarriers on).decideNode wheelchairFord =
      ({} : Settings).decideNode wheelchairFord := by
  obtain ⟨way, node, barrier, _⟩ := switches_only_close {} (.standard {}) privateFord 5
  obtain ⟨_, _, _, spared, unbarred, _⟩ := switches_only_close {} (.standard {}) wheelchairFord 5
  have intended : wheelchairFord.Shows "wheelchair" ({} : Settings).vocabulary.intended :=
    ⟨"limited", by decide, by decide⟩
  refine ⟨⟨way (by decide), node (by decide), barrier (by decide)⟩, by decide, ?_, ?_⟩
  · exact fun on => (spared (.inr intended) on).2
  · apply unbarred
    rw [← Tags.carriesAny_eq_true]
    decide

end Profile
end StepFree
