import StepFree.Proofs.Access.Evidence

/-! The access decision in closed form. The rules are tried one after the other, yet the verdict can be
told from the tags at once. A way is closed if access to it is denied; or if it has no highway tag
and is neither ferry nor platform, or turns wheelchairs away; or if it has one and is unfit, never
accessible, turns wheelchairs away, or is hindered. A ferry or a usual way is what stays open. -/
namespace StepFree.Settings

variable (s : Settings) (t : Tags)

def Closed : Prop :=
  s.Denied t ∨
    (t.values "highway" = [] ∧ ((¬ s.FerryRoute t ∧ ¬ s.Platform t) ∨ s.TurnedAway t False)) ∨
    (t.values "highway" ≠ [] ∧
      (s.Unfit t ∨ t.Shows "highway" (s.categories.tier .nonAccessibleHighways) ∨
        s.TurnedAway t (s.Hindered t)))

theorem decideBy_cons_verdict (r : AccessRule) (rules : List AccessRule) (v : Verdict) :
    (s.decideBy (r :: rules) t).verdict = v ↔
      if r.verdict = v then r.applies s t = true ∨ (s.decideBy rules t).verdict = v
      else ¬ r.applies s t = true ∧ (s.decideBy rules t).verdict = v := by
  simp only [decideBy, List.find?_cons]
  cases r.applies s t with
  | true => by_cases h : r.verdict = v <;> simp [AccessDecision.ofRule, h]
  | false => by_cases h : r.verdict = v <;> simp [h]

theorem decideBy_nil_verdict (v : Verdict) : (s.decideBy [] t).verdict = v ↔ v = .routable :=
  eq_comm

theorem decided : ∃ r : AccessRule,
    r.applies s t = true ∧ s.decideAccess t = .ofRule r := by
  have found : (AccessRule.all.find? (AccessRule.applies s t)).isSome = true := by
    rw [List.find?_isSome]
    cases h : t.hasHighway with
    | true => exact ⟨.highway, AccessRule.mem_all _, h⟩
    | false =>
      exact ⟨.noHighway, AccessRule.mem_all _, by simp only [AccessRule.applies, h, Bool.not_false]⟩
  obtain ⟨r, hr⟩ := Option.isSome_iff_exists.mp found
  refine ⟨r, List.find?_some hr, ?_⟩
  simp only [decideAccess, decideBy, hr, Option.map_some, Option.getD_some]

theorem excluded_iff_of_highway (present : t.values "highway" ≠ []) :
    s.verdict t = .excluded ↔
      s.Denied t ∨ s.Unfit t ∨ t.Shows "highway" (s.categories.tier .nonAccessibleHighways) ∨
        s.TurnedAway t (s.Hindered t) := by
  have h : t.hasHighway = true := Tags.hasHighway_eq_true.mpr present
  simp only [verdict, decideAccess, AccessRule.all, decideBy_cons_verdict, decideBy_nil_verdict,
    AccessRule.verdict, reduceIte, reduceCtorEq]
  simp only [AccessRule.applies, AccessRule.isFerry, AccessRule.isPlatform, AccessRule.highwayWith,
    h, Bool.not_true, Bool.false_and, Bool.true_and, Bool.and_eq_true, Bool.false_eq_true,
    not_true, false_and, false_or, or_false, not_false_eq_true, true_and]
  simp only [accessRestricted_eq_true, intended, restricted, usableSidewalk, highwayIn,
    withoutSidewalk, Bool.and_eq_true, Tags.carriesAny_eq_true, Tags.carries_eq_true,
    Tags.isFord_eq_true]
  simp only [Unfit, TurnedAway, Hindered, or_assoc]

theorem excluded_iff_of_no_highway (absent : t.values "highway" = []) :
    s.verdict t = .excluded ↔
      s.Denied t ∨ (¬ s.FerryRoute t ∧ ¬ s.Platform t) ∨ s.TurnedAway t False := by
  have h : t.hasHighway = false := Tags.hasHighway_eq_false.mpr absent
  simp only [verdict, decideAccess, AccessRule.all, decideBy_cons_verdict, decideBy_nil_verdict,
    AccessRule.verdict, reduceIte, reduceCtorEq]
  simp only [AccessRule.applies, AccessRule.isFerry, AccessRule.isPlatform, h, Bool.not_false,
    Bool.true_and, Bool.and_eq_true, Bool.not_eq_true', ← Bool.not_eq_true, true_or]
  simp only [accessRestricted_eq_true, ferryRoute_eq_true, acceptedPlatform_eq_true, intended,
    restricted, Tags.carriesAny_eq_true]
  -- Ferries and platforms are asked the same two questions, so the two chains fall together.
  simp only [TurnedAway]
  grind

theorem excluded_iff_of_crossing {t : Tags} (absent : t.values "highway" = [])
    (crossing : s.FerryRoute t ∨ s.Platform t) :
    s.verdict t = .excluded ↔ s.Denied t ∨ s.TurnedAway t False := by
  rw [excluded_iff_of_no_highway s t absent, ← not_or, or_iff_right (not_not_intro crossing)]

theorem excluded_iff_closed : s.verdict t = .excluded ↔ s.Closed t := by
  by_cases h : t.values "highway" = []
  · rw [excluded_iff_of_no_highway s t h]
    simp only [Closed, h, true_and, ne_eq, not_true, false_and, or_false]
  · rw [excluded_iff_of_highway s t h]
    simp only [Closed, h, false_and, ne_eq, not_false_eq_true, true_and, false_or]

theorem ferry_of_rule {r : AccessRule} (applies : r.applies s t = true)
    (ferry : r.verdict = .ferry) : t.values "highway" = [] ∧ s.FerryRoute t := by
  rw [← Tags.hasHighway_eq_false, ← ferryRoute_eq_true]
  cases r <;> simp_all [AccessRule.verdict, AccessRule.applies, AccessRule.isFerry]

theorem no_ferry_of_rule {r : AccessRule} (applies : r.applies s t = true)
    (routable : r.verdict = .routable) : ¬ (t.values "highway" = [] ∧ s.FerryRoute t) := by
  rw [← Tags.hasHighway_eq_false, ← ferryRoute_eq_true]
  cases r <;> simp_all [AccessRule.verdict, AccessRule.applies, AccessRule.isPlatform]

/-- The verdict by the tags alone, without the order of the rules. -/
theorem verdict_closed_form :
    (s.verdict t = .excluded ↔ s.Closed t) ∧
    (s.verdict t = .ferry ↔ ¬ s.Closed t ∧ t.values "highway" = [] ∧ s.FerryRoute t) ∧
    (s.verdict t = .routable ↔ ¬ s.Closed t ∧ ¬ (t.values "highway" = [] ∧ s.FerryRoute t)) := by
  obtain ⟨r, applies, decision⟩ := s.decided t
  have outcome : s.verdict t = r.verdict := congrArg AccessDecision.verdict decision
  rw [← excluded_iff_closed, outcome]
  cases h : r.verdict with
  | excluded => simp
  | ferry => simp [ferry_of_rule s t applies h]
  | routable => simp [no_ferry_of_rule s t applies h]

end StepFree.Settings
