import StepFree.Proofs.Access.Closure
import StepFree.Proofs.Tags.Likeness

namespace StepFree

namespace Tags

/-- The tags have the values of two others, and no more. -/
def Joins (m a b : Tags) : Prop :=
  ∀ k v, v ∈ m.values k ↔ v ∈ a.values k ∨ v ∈ b.values k

variable {m a b : Tags}

theorem joins_of_append (appended : ∀ k, m.values k = a.values k ++ b.values k) :
    m.Joins a b := by
  intro k v
  rw [appended k, List.mem_append]

theorem Joins.symm (joined : m.Joins a b) : m.Joins b a :=
  fun k v => (joined k v).trans or_comm

theorem Joins.shows (joined : m.Joins a b) (k : String) (accepted : ValueSet) :
    m.Shows k accepted ↔ a.Shows k accepted ∨ b.Shows k accepted := by
  simp only [Shows, joined k, or_and_right, exists_or]

theorem Joins.present (joined : m.Joins a b) (k : String) :
    m.values k ≠ [] ↔ a.values k ≠ [] ∨ b.values k ≠ [] := by
  simp only [ne_eq, List.eq_nil_iff_forall_not_mem, joined k, not_or, forall_and]
  exact Decidable.not_and_iff_not_or_not

end Tags

namespace Settings

variable (s : Settings) {m a b : Tags}

theorem Denied.join (joined : m.Joins a b) (da : s.Denied a) (db : s.Denied b) : s.Denied m := by
  obtain ⟨⟨k, hk, denies⟩, silent, bare⟩ := da
  refine ⟨⟨k, hk, (joined.shows _ _).mpr (.inl denies)⟩, ?_, ?_⟩
  · rintro ⟨j, hj, allows⟩
    rcases (joined.shows _ _).mp allows with allows | allows
    · exact silent ⟨j, hj, allows⟩
    · exact db.2.1 ⟨j, hj, allows⟩
  · rw [joined.shows, not_or]
    exact ⟨bare, db.2.2⟩

theorem Unfit.join (joined : m.Joins a b) (unfit : s.Unfit a) : s.Unfit m := by
  simp only [Unfit, joined.shows]
  rcases unfit with h | h | h | h
  · exact .inl (.inl h)
  · exact .inr (.inl (.inl h))
  · exact .inr (.inr (.inl (.inl h)))
  · exact .inr (.inr (.inr (.inl h)))

theorem Platform.join (joined : m.Joins a b) (platform : s.Platform a) : s.Platform m := by
  simp only [Platform, joined.shows]
  exact platform.imp .inl .inl

theorem Hindered.join (joined : m.Joins a b) (hindered : s.Hindered a)
    (bare : ¬ b.Shows "sidewalk" s.vocabulary.usableSidewalk) : s.Hindered m := by
  simp only [Hindered, joined.shows, joined "motorroad", joined "highway", joined.present, not_or]
  refine ⟨⟨hindered.1, bare⟩, ?_⟩
  rcases hindered.2 with ⟨missing, large⟩ | motorroad | ⟨blocked, ford | ford⟩
  · exact .inl ⟨.inl missing, .inl large⟩
  · exact .inr (.inl (.inl motorroad))
  · exact .inr (.inr ⟨blocked, .inl (.inl ford)⟩)
  · exact .inr (.inr ⟨blocked, .inr (.inl ford)⟩)

theorem TurnedAway.join {p q r : Prop} (joined : m.Joins a b) (ta : s.TurnedAway a p)
    (tb : s.TurnedAway b q) (both : p → q → r) : s.TurnedAway m r := by
  simp only [TurnedAway, joined.shows, not_or]
  refine ⟨⟨ta.1, tb.1⟩, ?_⟩
  rcases ta.2 with wheelchair | ⟨walkers, sa⟩
  · exact .inl (.inl wheelchair)
  rcases tb.2 with wheelchair | ⟨walkers', sb⟩
  · exact .inl (.inr wheelchair)
  refine .inr ⟨⟨walkers, walkers'⟩, ?_⟩
  rcases sa with foot | hp
  · exact .inl (.inl foot)
  rcases sb with foot | hq
  · exact .inl (.inr foot)
  -- Neither way denies by its tags for walkers, so the reasons of both are needed.
  exact .inr (both hp hq)

variable (foot : "foot" ∈ s.vocabulary.restrictionKeys)
  (wheelchair : "wheelchair" ∈ s.vocabulary.restrictionKeys)

include foot wheelchair

theorem TurnedAway.join_denied {q r : Prop} (joined : m.Joins a b) (da : s.Denied a)
    (tb : s.TurnedAway b q) (also : q → r) : s.TurnedAway m r := by
  simp only [TurnedAway, joined.shows, not_or]
  have noWheelchair : ¬ a.Shows "wheelchair" s.vocabulary.intended :=
    fun allows => da.2.1 ⟨_, wheelchair, allows⟩
  have noFoot : ¬ a.Shows "foot" s.vocabulary.intended :=
    fun allows => da.2.1 ⟨_, foot, allows⟩
  refine ⟨⟨noWheelchair, tb.1⟩, ?_⟩
  rcases tb.2 with denies | ⟨walkers, sb⟩
  · exact .inl (.inr denies)
  · exact .inr ⟨⟨noFoot, walkers⟩, sb.imp .inr also⟩

theorem closed_highway_join (joined : m.Joins a b)
    (ca : s.Denied a ∨ s.Unfit a ∨ a.Shows "highway" (s.categories.tier .nonAccessibleHighways) ∨
      s.TurnedAway a (s.Hindered a))
    (cb : s.Denied b ∨ s.Unfit b ∨ b.Shows "highway" (s.categories.tier .nonAccessibleHighways) ∨
      s.TurnedAway b (s.Hindered b)) :
    s.Denied m ∨ s.Unfit m ∨ m.Shows "highway" (s.categories.tier .nonAccessibleHighways) ∨
      s.TurnedAway m (s.Hindered m) := by
  rcases ca with da | ua | na | ta
  · rcases cb with db | ub | nb | tb
    · exact .inl (da.join s joined db)
    · exact .inr (.inl (ub.join s joined.symm))
    · exact .inr (.inr (.inl ((joined.shows _ _).mpr (.inr nb))))
    -- A way that is denied access says nothing in favour of wheelchairs or walkers either.
    · exact .inr (.inr (.inr (tb.join_denied s foot wheelchair joined da fun h =>
        h.join s joined.symm da.2.2)))
  · exact .inr (.inl (ua.join s joined))
  · exact .inr (.inr (.inl ((joined.shows _ _).mpr (.inl na))))
  · rcases cb with db | ub | nb | tb
    · exact .inr (.inr (.inr (ta.join_denied s foot wheelchair joined.symm db fun h =>
        h.join s joined db.2.2)))
    · exact .inr (.inl (ub.join s joined.symm))
    · exact .inr (.inr (.inl ((joined.shows _ _).mpr (.inr nb))))
    · exact .inr (.inr (.inr (ta.join s joined tb fun ha hb => ha.join s joined hb.1)))

theorem closed_crossing_join (joined : m.Joins a b)
    (ca : s.Denied a ∨ s.TurnedAway a False) (cb : s.Denied b ∨ s.TurnedAway b False) :
    s.Denied m ∨ s.TurnedAway m False := by
  rcases ca with da | ta
  · rcases cb with db | tb
    · exact .inl (da.join s joined db)
    · exact .inr (tb.join_denied s foot wheelchair joined da id)
  · rcases cb with db | tb
    · exact .inr (ta.join_denied s foot wheelchair joined.symm db id)
    · exact .inr (ta.join s joined tb fun h _ => h)

/-- Two excluded highways, or two excluded ferries or platforms, are excluded when they are merged. -/
theorem excluded_of_merged (merged : ∀ k, m.values k = a.values k ++ b.values k)
    (alike : (a.values "highway" ≠ [] ∧ b.values "highway" ≠ []) ∨
      (a.values "highway" = [] ∧ b.values "highway" = [] ∧
        (s.FerryRoute a ∨ s.Platform a) ∧ (s.FerryRoute b ∨ s.Platform b)))
    (ea : s.verdict a = .excluded) (eb : s.verdict b = .excluded) : s.verdict m = .excluded := by
  have joined := Tags.joins_of_append merged
  rcases alike with ⟨ha, hb⟩ | ⟨ha, hb, ka, kb⟩
  · have hm := (joined.present "highway").mpr (.inl ha)
    rw [excluded_iff_of_highway s _ ha] at ea
    rw [excluded_iff_of_highway s _ hb] at eb
    rw [excluded_iff_of_highway s _ hm]
    exact closed_highway_join s foot wheelchair joined ea eb
  · have hm : m.values "highway" = [] := by rw [merged, ha, hb, List.append_nil]
    have km : s.FerryRoute m ∨ s.Platform m :=
      ka.imp (fun f => (joined.shows _ _).mpr (.inl f)) (Platform.join s joined)
    rw [excluded_iff_of_crossing s ha ka] at ea
    rw [excluded_iff_of_crossing s hb kb] at eb
    rw [excluded_iff_of_crossing s hm km]
    exact closed_crossing_join s foot wheelchair joined ea eb

omit foot wheelchair

def privateStreet : Tags :=
  ⟨[("highway", ⟨"residential", []⟩), ("access", ⟨"private", []⟩)], by decide⟩

def publicMotorroad : Tags :=
  ⟨[("highway", ⟨"trunk", []⟩), ("access", ⟨"permissive", []⟩), ("motorroad", ⟨"yes", []⟩)],
    by decide⟩

theorem excluded_of_merged_street_motorroad :
    (({} : Settings).verdict privateStreet = .excluded ∧
      ({} : Settings).verdict publicMotorroad = .excluded) ∧
    ({} : Settings).verdict (privateStreet.merge publicMotorroad) = .excluded :=
  ⟨⟨by decide, by decide⟩,
    excluded_of_merged {} (by decide) (by decide) (Tags.values_merge _ _)
      (.inl ⟨by decide, by decide⟩) (by decide) (by decide)⟩

end Settings
end StepFree
