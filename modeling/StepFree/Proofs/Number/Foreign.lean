import StepFree.Proofs.Number.Written

namespace StepFree.Number

open StepFree.Text

/-- Neither a digit of any script nor a sign, a point, a separator, a letter of a numeral or of a word
that is read as one, nor white space. -/
structure Foreign (c : Char) : Prop where
  plain : c ∉ numeralChars
  letter : ∀ word ∈ ["inf", "infinity", "nan"], c.toLower ∉ word.toList
  separator : c ≠ '_'
  digit : asciiDigit c = c
  visible : isWhiteSpace c = false

namespace Foreign

variable {c : Char} (foreign : Foreign c) {s : List Char}

include foreign

theorem not_digit : ¬ c.isDigit = true :=
  fun digit => foreign.plain (digitChars_subset (mem_digitChars digit))

theorem not_mem_digits (digits : ∀ d ∈ s, d.isDigit = true) : c ∉ s :=
  fun found => foreign.not_digit (digits c found)

theorem mem_takeSign (found : c ∈ s) : c ∈ (takeSign s).2 := by
  have sign {d : Char} {r : List Char} (known : d ∈ numeralChars) (found : c ∈ d :: r) : c ∈ r :=
    (List.mem_cons.mp found).resolve_left fun same => foreign.plain (same ▸ known)
  unfold takeSign
  split
  · exact sign (by decide) found
  · exact sign (by decide) found
  · exact found

theorem mem_takeFraction (found : c ∈ s) : c ∈ (takeFraction s).2 := by
  unfold takeFraction
  split
  · next r =>
    have behind : c ∈ r :=
      (List.mem_cons.mp found).resolve_left fun same => foreign.plain (same ▸ by decide)
    rw [← List.takeWhile_append_dropWhile (p := Char.isDigit) (l := r), List.mem_append] at behind
    exact behind.resolve_left (foreign.not_mem_digits fun _ => List.mem_takeWhile_imp)
  · exact found

theorem not_mem_of_readExponent? {e : Int} (reads : readExponent? s = some e) : c ∉ s := by
  intro found
  cases s with
  | nil => cases found
  | cons d r =>
    simp only [readExponent?, Option.ite_none_right_eq_some, Bool.and_eq_true, Bool.or_eq_true,
      decide_eq_true_eq] at reads
    obtain ⟨⟨⟨letter, -⟩, digits⟩, -⟩ := reads
    have known : d ∈ numeralChars := by rcases letter with rfl | rfl <;> decide
    have behind : c ∈ r :=
      (List.mem_cons.mp found).resolve_left fun same => foreign.plain (same ▸ known)
    exact foreign.not_mem_digits (List.all_eq_true.mp digits) (foreign.mem_takeSign behind)

theorem not_mem_of_word {word : String} (known : word ∈ ["inf", "infinity", "nan"])
    (spells : s.map Char.toLower = word.toList) : c ∉ s :=
  fun found => foreign.letter word known (spells ▸ List.mem_map_of_mem found)

theorem not_mem_of_ofChars? {n : Numeral} (reads : Numeral.ofChars? s = some n) : c ∉ s := by
  intro found
  have body := foreign.mem_takeSign found
  simp only [Numeral.ofChars?] at reads
  split at reads
  · next word =>
    rcases word with inf | infinity
    · exact foreign.not_mem_of_word (by decide) inf body
    · exact foreign.not_mem_of_word (by decide) infinity body
  · split at reads
    · next nan => exact foreign.not_mem_of_word (by decide) nan body
    · split at reads
      · cases reads
      · obtain ⟨e, exponent, -⟩ := Option.map_eq_some_iff.mp reads
        rw [← List.takeWhile_append_dropWhile (p := Char.isDigit) (l := (takeSign s).2),
          List.mem_append] at body
        have rest := body.resolve_left (foreign.not_mem_digits fun _ => List.mem_takeWhile_imp)
        exact foreign.not_mem_of_readExponent? exponent (foreign.mem_takeFraction rest)

theorem not_mem_of_dropSeparators? {afterDigit : Bool} {kept : List Char}
    (dropped : dropSeparators? afterDigit s = some kept) (absent : c ∉ kept) : c ∉ s := by
  induction s generalizing afterDigit kept with
  | nil => exact List.not_mem_nil
  | cons d r ih =>
    rw [dropSeparators?] at dropped
    split at dropped
    · next separator =>
      split at dropped
      · rw [List.mem_cons, not_or, separator]
        exact ⟨foreign.separator, ih dropped absent⟩
      · cases dropped
    · obtain ⟨rest, later, rfl⟩ := Option.map_eq_some_iff.mp dropped
      rw [List.mem_cons, not_or] at absent ⊢
      exact ⟨absent.1, ih later absent.2⟩

theorem not_mem_of_parse? {x : Float} (reads : parse? s = some x) : c ∉ s := by
  obtain ⟨n, reads, -⟩ := Option.map_eq_some_iff.mp reads
  obtain ⟨kept, dropped, reads⟩ := Option.bind_eq_some_iff.mp reads
  have digits := foreign.not_mem_of_dropSeparators? dropped (foreign.not_mem_of_ofChars? reads)
  have trimmed : c ∉ trimBy isWhiteSpace s := fun found =>
    digits (foreign.digit ▸ List.mem_map_of_mem found)
  obtain ⟨before, after, leading, trailing, parts⟩ := trimBy_parts isWhiteSpace s
  have white {t : List Char} (all : ∀ d ∈ t, isWhiteSpace d = true) : c ∉ t := fun found =>
    Bool.false_ne_true (foreign.visible.symm.trans (all c found))
  rw [parts, List.mem_append, List.mem_append]
  simp [white leading, white trailing, trimmed]

end Foreign
end StepFree.Number
