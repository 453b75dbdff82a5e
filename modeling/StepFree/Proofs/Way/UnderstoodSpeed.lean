import StepFree.Proofs.Number.Foreign
import StepFree.Proofs.Text.Erasing
import StepFree.Proofs.Way.WrittenSpeed

/-! Which texts are understood as a speed limit. Units are erased wherever they stand, so a text is
understood only if it is one of the two words or a numeral into which units were put, be it behind the
digits, before or between them. It has the form of a numeral with at most one unit behind it exactly if
nothing stands behind any of its units. -/
namespace StepFree.SpeedLimit

open StepFree.Number StepFree.Text

def units : List (List Char) :=
  ["mph".toList, "knots".toList, "km/h".toList, "kmh".toList]

/-- One of the two words, or a numeral with white space and at most one unit behind it. -/
inductive WellFormed : List Char → Prop
  | walk : WellFormed "walk".toList
  | none : WellFormed "none".toList
  | numeral {n between : List Char} {x : Float} (u : SpeedUnit) (reads : Number.parse? n = some x)
      (blank : ∀ c ∈ between, isBlank c = true) : WellFormed (n ++ between ++ u.name)

/-- Nothing stands behind any unit. -/
def UnitsLast (s : List Char) : Prop :=
  ∀ unit ∈ units, OnlyLast unit s

theorem units_ne_nil : ∀ unit ∈ units, unit ≠ [] := by
  decide

theorem UnitsLast.absent {rest unit : List Char} (last : UnitsLast (rest ++ unit)) (some : unit ≠ []) :
    ∀ other ∈ units, ¬ other <:+: rest := by
  rintro other known ⟨before, after, rfl⟩
  have nothing : after ++ unit = [] := last other known before (after ++ unit) (by simp)
  exact some (List.append_eq_nil_iff.mp nothing).2

theorem dropKmh_of_absent {s : List Char} (absent : ∀ unit ∈ units, ¬ unit <:+: s) :
    dropKmh s = s := by
  rw [dropKmh, eraseWord_of_absent (absent "km/h".toList (by decide)),
    eraseWord_of_absent (absent "kmh".toList (by decide))]

theorem UnitsLast.parts {s unit : List Char} (last : UnitsLast s) (known : unit ∈ units)
    (found : unit <:+: s) :
    s = eraseWord unit s ++ unit ∧ ∀ other ∈ units, ¬ other <:+: eraseWord unit s := by
  have some := units_ne_nil unit known
  have parts := eraseWord_of_onlyLast some (last unit known) found
  exact ⟨parts, UnitsLast.absent (parts ▸ last) some⟩

theorem dropKmh_of_unitsLast {s : List Char} (last : UnitsLast s) :
    ∃ u : SpeedUnit, s = dropKmh s ++ u.name := by
  rw [dropKmh]
  by_cases slashed : "km/h".toList <:+: s
  · obtain ⟨parts, absent⟩ := last.parts (by decide) slashed
    exact ⟨.kmPerHour, by rw [eraseWord_of_absent (absent _ (by decide))]; exact parts⟩
  · rw [eraseWord_of_absent slashed]
    by_cases joined : "kmh".toList <:+: s
    · exact ⟨.kmh, (last.parts (by decide) joined).1⟩
    · exact ⟨.bare, by rw [eraseWord_of_absent joined]; exact (List.append_nil s).symm⟩

theorem takeUnit_of_unitsLast {s : List Char} (last : UnitsLast s) :
    ∃ u : SpeedUnit, s = dropKmh (takeUnit s).2 ++ u.name := by
  rw [takeUnit]
  split
  · next mph =>
    obtain ⟨parts, absent⟩ := last.parts (by decide) (occurs_iff.mp mph)
    exact ⟨.mph, by rw [dropKmh_of_absent absent]; exact parts⟩
  · split
    · next knots =>
      obtain ⟨parts, absent⟩ := last.parts (by decide) (occurs_iff.mp knots)
      exact ⟨.knots, by rw [dropKmh_of_absent absent]; exact parts⟩
    · exact dropKmh_of_unitsLast last

theorem strewn_takeUnit (s : List Char) :
    Strewn (· ∈ units) (dropKmh (takeUnit s).2) s := by
  have erased {unit : List Char} (known : unit ∈ units) (s : List Char) :
      Strewn (· ∈ units) (eraseWord unit s) s :=
    strewn_eraseWord known (units_ne_nil unit known) s
  have usual (s : List Char) : Strewn (· ∈ units) (dropKmh s) s :=
    (erased (by decide) _).trans (erased (by decide) s)
  rw [takeUnit]
  split
  · exact (usual _).trans (erased (by decide) s)
  · split
    · exact (usual _).trans (erased (by decide) s)
    · exact usual s

theorem foreign_m : Foreign 'm' := by
  constructor <;> decide

theorem foreign_k : Foreign 'k' := by
  constructor <;> decide

theorem units_start : ∀ unit ∈ units, ∃ c r, unit = c :: r ∧ Foreign c ∧ isBlank c = false := by
  simp only [units, List.forall_mem_cons]
  exact ⟨⟨_, _, rfl, foreign_m, rfl⟩, ⟨_, _, rfl, foreign_k, rfl⟩, ⟨_, _, rfl, foreign_k, rfl⟩,
    ⟨_, _, rfl, foreign_k, rfl⟩, List.forall_mem_nil _⟩

theorem units_apart (u : SpeedUnit) : ∀ unit ∈ units, unit <:+: u.name → unit = u.name := by
  simp only [← occurs_iff]
  cases u <;> decide

theorem unitsLast_of_absent {s : List Char} (absent : ∀ unit ∈ units, ¬ unit <:+: s) :
    UnitsLast s := by
  rintro unit known before after rfl
  exact absurd ⟨before, after, rfl⟩ (absent unit known)

theorem nothing_behind (u : SpeedUnit) {unit after : List Char} (known : unit ∈ units)
    (before : List Char) (same : u.name = before ++ (unit ++ after)) : after = [] := by
  have whole := units_apart u unit known ⟨before, after, by rw [same, List.append_assoc]⟩
  have lengths := congrArg List.length same
  simp only [← whole, List.length_append] at lengths
  exact List.eq_nil_of_length_eq_zero (by omega)

theorem WellFormed.unitsLast {s : List Char} (formed : WellFormed s) : UnitsLast s := by
  cases formed with
  | walk =>
    apply unitsLast_of_absent
    simp only [← occurs_iff]
    decide
  | none =>
    apply unitsLast_of_absent
    simp only [← occurs_iff]
    decide
  | @numeral n between x u reads blank =>
    intro unit known before after same
    obtain ⟨c, r, start, foreign, visible⟩ := units_start unit known
    have absent : c ∉ n ++ between := by
      rw [List.mem_append, not_or]
      refine ⟨foreign.not_mem_of_parse? reads, fun found => ?_⟩
      rw [blank c found] at visible
      cases visible
    -- The unit does not begin within the numeral, so it is part of the unit behind it.
    rw [List.append_assoc before] at same
    rcases List.append_eq_append_iff.mp same with ⟨rest, -, name⟩ | ⟨rest, parts, name⟩
    · exact nothing_behind u known rest name
    · cases rest with
      | nil => exact nothing_behind u known [] name.symm
      | cons d r' =>
        rw [start, List.cons_append, List.cons_append, List.cons.injEq] at name
        exact absurd (by simp [parts, name.1]) absent

def lowered (v : String) : List Char :=
  trimBy isBlank (lower v.toList)

variable {v : String}

/-- Nothing but a word or a numeral with units erased from it has a speed. -/
theorem parsed_of_known (known : parse (some v) ≠ 0.0) :
    lowered v = "walk".toList ∨ lowered v = "none".toList ∨
      ∃ x, Number.parse? (trimBy isBlank (dropKmh (takeUnit (lowered v)).2)) = some x := by
  by_cases walk : lowered v = "walk".toList
  · exact .inl walk
  · by_cases none : lowered v = "none".toList
    · exact .inr (.inl none)
    · refine .inr (.inr (Option.ne_none_iff_exists'.mp fun unread => known ?_))
      have unknown : parseChars v.toList = 0.0 := by
        simp only [parseChars]
        rw [← lowered, if_neg walk, if_neg none, unread]
      exact unknown

theorem wellFormed_of_rest {s rest : List Char} {x : Float} (u : SpeedUnit)
    (trimmed : ∀ c ∈ s.head?, isBlank c = false) (parts : s = rest ++ u.name)
    (reads : Number.parse? (trimBy isBlank rest) = some x) : WellFormed s := by
  obtain ⟨before, after, leading, trailing, whole⟩ := trimBy_parts isBlank rest
  generalize trimBy isBlank rest = n at reads whole
  subst whole parts
  cases before with
  | nil => exact .numeral u reads trailing
  | cons c r =>
    have visible := trimmed c rfl
    rw [leading c List.mem_cons_self] at visible
    cases visible

/-- A text with a known speed is one of the two words or a numeral into which units were put. It has the
form of a numeral with at most one unit behind it exactly if nothing stands behind any of its units. -/
theorem understood_iff_unitsLast (known : parse (some v) ≠ 0.0) :
    (lowered v = "walk".toList ∨ lowered v = "none".toList ∨
      ∃ rest x, Strewn (· ∈ units) rest (lowered v) ∧
        Number.parse? (trimBy isBlank rest) = some x) ∧
    (WellFormed (lowered v) ↔ UnitsLast (lowered v)) := by
  have parsed := parsed_of_known known
  refine ⟨parsed.imp_right (Or.imp_right ?_), WellFormed.unitsLast, fun last => ?_⟩
  · rintro ⟨x, reads⟩
    exact ⟨_, x, strewn_takeUnit (lowered v), reads⟩
  · rcases parsed with walk | none | ⟨x, reads⟩
    · exact walk.symm ▸ .walk
    · exact none.symm ▸ .none
    · obtain ⟨u, parts⟩ := takeUnit_of_unitsLast last
      exact wellFormed_of_rest u (head?_trimBy isBlank _) parts reads

theorem twoUnits_understood :
    parse (some " ３０\tmph km/h") ≠ 0.0 ∧ ¬ WellFormed (lowered " ３０\tmph km/h") := by
  have known : parse (some " ３０\tmph km/h") ≠ 0.0 := by decide
  obtain ⟨-, formed⟩ := understood_iff_unitsLast known
  refine ⟨known, fun single => ?_⟩
  have behind := formed.mp single "mph".toList (by decide) ['３', '０', '\t'] " km/h".toList rfl
  cases behind

/-- Thirty miles per hour, with the unit in front of the last digit. -/
theorem strayUnit_understood :
    parse (some "3mph0") = 30.0 * kmhPerMph ∧ parse (some "3mph0") ≠ 0.0 ∧
      ¬ WellFormed (lowered "3mph0") := by
  refine ⟨by decide, by decide, fun formed => ?_⟩
  have behind := formed.unitsLast "mph".toList (by decide) ['3'] ['0'] rfl
  cases behind

end StepFree.SpeedLimit
