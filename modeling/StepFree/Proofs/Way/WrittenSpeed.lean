import StepFree.Lookup.SpeedLimit
import StepFree.Proofs.Number.Order
import StepFree.Proofs.Number.Written

namespace StepFree.SpeedLimit

open StepFree.Number StepFree.Text

inductive SpeedUnit where
  | bare
  | kmPerHour
  | kmh
  | mph
  | knots

namespace SpeedUnit

def name : SpeedUnit → List Char
  | .bare => []
  | .kmPerHour => "km/h".toList
  | .kmh => "kmh".toList
  | .mph => "mph".toList
  | .knots => "knots".toList

/-- Kilometres per hour in one of the unit. -/
def factor : SpeedUnit → Float
  | .bare | .kmPerHour | .kmh => 1.0
  | .mph => kmhPerMph
  | .knots => kmhPerKnot

theorem name_visible (u : SpeedUnit) : ∀ c ∈ u.name, isBlank c = false := by
  cases u <;> exact forall_mem_of_all (by decide)

theorem takeUnit_name (u : SpeedUnit) :
    (takeUnit u.name).1 = u.factor ∧ dropKmh (takeUnit u.name).2 = [] := by
  cases u <;> exact ⟨rfl, rfl⟩

end SpeedUnit

section
variable {s : List Char} (noM : 'm' ∉ s) (noK : 'k' ∉ s) (rest : List Char)

include noK

theorem dropKmh_append : dropKmh (s ++ rest) = s ++ dropKmh rest := by
  have slashed (rest : List Char) :
      eraseWord "km/h".toList (s ++ rest) = s ++ eraseWord "km/h".toList rest :=
    eraseWord_append noK rest
  have joined (rest : List Char) :
      eraseWord "kmh".toList (s ++ rest) = s ++ eraseWord "kmh".toList rest :=
    eraseWord_append noK rest
  rw [dropKmh, slashed, joined, dropKmh]

include noM

theorem takeUnit_append :
    takeUnit (s ++ rest) = ((takeUnit rest).1, s ++ (takeUnit rest).2) := by
  have mph : occurs "mph".toList (s ++ rest) = occurs "mph".toList rest := occurs_append noM rest
  have knots : occurs "knots".toList (s ++ rest) = occurs "knots".toList rest :=
    occurs_append noK rest
  have erasedMph : eraseWord "mph".toList (s ++ rest) = s ++ eraseWord "mph".toList rest :=
    eraseWord_append noM rest
  have erasedKnots : eraseWord "knots".toList (s ++ rest) = s ++ eraseWord "knots".toList rest :=
    eraseWord_append noK rest
  rw [takeUnit, mph, knots, erasedMph, erasedKnots, takeUnit]
  split
  · rfl
  · split <;> rfl

theorem takeUnit_append_name (u : SpeedUnit) :
    (takeUnit (s ++ u.name)).1 = u.factor ∧ dropKmh (takeUnit (s ++ u.name)).2 = s := by
  obtain ⟨factor, nothing⟩ := u.takeUnit_name
  rw [takeUnit_append noM noK, dropKmh_append noK, factor, nothing, List.append_nil]
  exact ⟨rfl, rfl⟩

end

theorem parse_ofList (s : List Char) : parse (some (String.ofList s)) = parseChars s := by
  simp [parse]

theorem finite_positive_or_unknown (x : Float) :
    (if !x.isFinite || x ≤ 0.0 then 0.0 else x) =
      if x.isFinite = true ∧ 0.0 < x then x else 0.0 := by
  cases finite : x.isFinite with
  | false => simp
  | true =>
    by_cases positive : 0.0 < x
    · have above : ¬ x ≤ 0.0 := fun le => not_lt_of_le le positive
      simp [positive, above]
    · have below : x ≤ 0.0 := le_of_not_lt (by decide) (isNaN_of_isFinite finite) positive
      simp [positive, below]

variable {before between spelled after : List Char}

theorem trim_written (n : WrittenNumeral) (u : SpeedUnit)
    (leading : ∀ c ∈ before, isBlank c = true) (inner : ∀ c ∈ between, isBlank c = true)
    (trailing : ∀ c ∈ after, isBlank c = true) (spells : lower spelled = u.name) :
    ∃ kept, (∀ c ∈ kept, isBlank c = true) ∧
      trimBy isBlank (lower (before ++ n.chars ++ between ++ spelled ++ after)) =
        n.lowered.chars ++ kept ++ u.name := by
  have blank {s : List Char} (all : ∀ c ∈ s, isBlank c = true) : lower s = s :=
    lower_of_fixed fun c found => lowerChar_of_blank (all c found)
  simp only [lower_append, blank leading, blank inner, blank trailing, spells, n.lower_chars]
  exact trimBy_pieces leading inner trailing n.lowered.chars_visible n.lowered.chars_ne_nil
    u.name_visible

theorem letters_absent (n : WrittenNumeral) {kept : List Char}
    (blank : ∀ c ∈ kept, isBlank c = true) : 'm' ∉ n.chars ++ kept ∧ 'k' ∉ n.chars ++ kept := by
  have absent {letter : Char} (other : letter ∉ numeralChars) (visible : isBlank letter = false) :
      letter ∉ n.chars ++ kept := by
    intro found
    rcases List.mem_append.mp found with found | found
    · exact other (n.chars_subset found)
    · rw [blank letter found] at visible
      cases visible
  exact ⟨absent (by decide) rfl, absent (by decide) rfl⟩

theorem chars_append_ne_word (n : WrittenNumeral) (letter : Char) (other : letter ∉ numeralChars)
    (word rest : List Char) : n.chars ++ rest ≠ letter :: word := by
  intro same
  obtain ⟨c, r, chars⟩ := List.exists_cons_of_ne_nil n.chars_ne_nil
  have first : c ∈ numeralChars := n.chars_subset (by simp [chars])
  rw [chars, List.cons_append, List.cons.injEq] at same
  rw [same.1] at first
  exact other first

/-- Every speed that is a numeral with or without a unit is understood: as the double that the numeral
stands for times the factor of the unit, if that is finite and positive. -/
theorem parse_numeral_unit (n : WrittenNumeral) (u : SpeedUnit)
    (leading : ∀ c ∈ before, isBlank c = true) (inner : ∀ c ∈ between, isBlank c = true)
    (trailing : ∀ c ∈ after, isBlank c = true) (spells : lower spelled = u.name) :
    Number.parse? n.chars = some n.numeral.toFloat ∧
      parse (some (String.ofList (before ++ n.chars ++ between ++ spelled ++ after))) =
        let speed := n.numeral.toFloat * u.factor
        if speed.isFinite = true ∧ 0.0 < speed then speed else 0.0 := by
  refine ⟨n.parse?_chars, ?_⟩
  obtain ⟨kept, blank, trimmed⟩ := trim_written n u leading inner trailing spells
  obtain ⟨noM, noK⟩ := letters_absent n.lowered blank
  obtain ⟨factor, left⟩ := takeUnit_append_name noM noK u
  have nothing : ∀ c ∈ [], isBlank c = true := by simp
  have alone : trimBy isBlank (n.lowered.chars ++ kept) = n.lowered.chars :=
    trimBy_append_of_none nothing blank n.lowered.chars_visible n.lowered.chars_ne_nil
  -- The words for speeds start with letters that no numeral has.
  have walk : n.lowered.chars ++ kept ++ u.name ≠ "walk".toList := by
    rw [List.append_assoc]
    exact chars_append_ne_word n.lowered 'w' (by decide) _ _
  have none : n.lowered.chars ++ kept ++ u.name ≠ "none".toList := by
    rw [List.append_assoc]
    exact chars_append_ne_word n.lowered 'n' (by decide) _ _
  rw [parse_ofList, parseChars, trimmed]
  dsimp only
  rw [if_neg walk, if_neg none, left, factor, alone, n.lowered.parse?_chars, n.numeral_lowered]
  exact finite_positive_or_unknown _

def thirty : WrittenNumeral where
  sign := .plus
  whole := ⟨['3'], by simp⟩
  fraction? := some ⟨['0'], by simp⟩
  exponent? := some
    { capital := true, sign := .bare, digits := ⟨['1'], by simp⟩, nonempty := by decide }
  nonempty := by decide

theorem parse_thirty_mph :
    lower "MpH".toList = SpeedUnit.mph.name ∧
      parse (some " +3.0E1\tMpH ") = 30.0 * kmhPerMph := by
  have spells : lower "MpH".toList = SpeedUnit.mph.name := by decide
  have space : ∀ c ∈ [' '], isBlank c = true := forall_mem_of_all rfl
  have tabulator : ∀ c ∈ ['\t'], isBlank c = true := forall_mem_of_all rfl
  obtain ⟨-, understood⟩ := parse_numeral_unit thirty .mph space tabulator space spells
  have value : thirty.numeral.toFloat = 30.0 := by decide
  have possible : (30.0 * kmhPerMph).isFinite = true ∧ 0.0 < 30.0 * kmhPerMph := by decide
  refine ⟨spells, ?_⟩
  rw [value] at understood
  exact understood.trans (if_pos possible)

end StepFree.SpeedLimit
