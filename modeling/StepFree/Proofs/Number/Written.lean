import Mathlib.Tactic.IntervalCases
import StepFree.Number.Numeral
import StepFree.Proofs.Text.Pieces

/-! Decimal numerals as they are written: digits with an optional sign, fraction and exponent. Each of them
is read as the numeral that it spells, and it spells the same one in lower case. -/
namespace StepFree.Number

open StepFree.Text

inductive WrittenSign where
  | bare
  | plus
  | minus

namespace WrittenSign

def chars : WrittenSign → List Char
  | .bare => []
  | .plus => ['+']
  | .minus => ['-']

def isMinus : WrittenSign → Bool
  | .minus => true
  | _ => false

end WrittenSign

structure WrittenDigits where
  chars : List Char
  digits : ∀ c ∈ chars, c.isDigit = true

structure WrittenExponent where
  capital : Bool
  sign : WrittenSign
  digits : WrittenDigits
  nonempty : digits.chars ≠ []

namespace WrittenExponent

variable (e : WrittenExponent)

def chars : List Char :=
  (if e.capital then 'E' else 'e') :: (e.sign.chars ++ e.digits.chars)

def value : Int :=
  if e.sign.isMinus then -(digitsValue e.digits.chars : Int) else digitsValue e.digits.chars

end WrittenExponent

/-- A numeral has a digit before or behind the point, of which there need not be one. -/
structure WrittenNumeral where
  sign : WrittenSign
  whole : WrittenDigits
  fraction? : Option WrittenDigits
  exponent? : Option WrittenExponent
  nonempty : whole.chars ++ (fraction?.map WrittenDigits.chars).getD [] ≠ []

namespace WrittenNumeral

variable (n : WrittenNumeral)

def fraction : List Char :=
  (n.fraction?.map WrittenDigits.chars).getD []

def pointed : List Char :=
  (n.fraction?.map fun f => '.' :: f.chars).getD []

def scale : List Char :=
  (n.exponent?.map WrittenExponent.chars).getD []

def body : List Char :=
  n.whole.chars ++ (n.pointed ++ n.scale)

def chars : List Char :=
  n.sign.chars ++ n.body

def numeral : Numeral :=
  .decimal n.sign.isMinus (digitsValue (n.whole.chars ++ n.fraction))
    ((n.exponent?.map WrittenExponent.value).getD 0 - n.fraction.length)

end WrittenNumeral

def digitChars : List Char :=
  ['0', '1', '2', '3', '4', '5', '6', '7', '8', '9']

def numeralChars : List Char :=
  digitChars ++ ['+', '-', '.', 'e', 'E']

theorem mem_digitChars {c : Char} (digit : c.isDigit = true) : c ∈ digitChars := by
  have code : 48 ≤ c.toNat ∧ c.toNat ≤ 57 := by
    simpa [Char.isDigit, UInt32.le_iff_toNat_le] using digit
  rw [← Char.ofNat_toNat c]
  generalize c.toNat = n at code ⊢
  obtain ⟨low, high⟩ := code
  interval_cases n <;> decide

theorem digitChars_subset : digitChars ⊆ numeralChars :=
  List.subset_append_left _ _

theorem WrittenSign.chars_subset (s : WrittenSign) : s.chars ⊆ numeralChars := by
  cases s <;> decide

theorem WrittenDigits.chars_subset (d : WrittenDigits) : d.chars ⊆ numeralChars :=
  fun c found => digitChars_subset (mem_digitChars (d.digits c found))

theorem WrittenExponent.chars_subset (e : WrittenExponent) : e.chars ⊆ numeralChars := by
  rw [chars, List.cons_subset, List.append_subset]
  refine ⟨?_, e.sign.chars_subset, e.digits.chars_subset⟩
  cases e.capital <;> decide

theorem WrittenNumeral.chars_subset (n : WrittenNumeral) : n.chars ⊆ numeralChars := by
  have pointed : n.pointed ⊆ numeralChars := by
    unfold WrittenNumeral.pointed
    cases n.fraction? with
    | none => simp
    | some f => simpa using ⟨by decide, f.chars_subset⟩
  have scale : n.scale ⊆ numeralChars := by
    unfold WrittenNumeral.scale
    cases n.exponent? with
    | none => simp
    | some e => simpa using e.chars_subset
  simp [chars, body, n.sign.chars_subset, n.whole.chars_subset, pointed, scale]

theorem WrittenNumeral.chars_visible (n : WrittenNumeral) : ∀ c ∈ n.chars, isBlank c = false := by
  have known : ∀ c ∈ numeralChars, isBlank c = false :=
    forall_mem_of_all (by decide)
  exact fun c found => known c (n.chars_subset found)

theorem WrittenNumeral.chars_ne_nil (n : WrittenNumeral) : n.chars ≠ [] := by
  cases fraction : n.fraction? with
  | none =>
    have whole : n.whole.chars ≠ [] := by simpa [fraction] using n.nonempty
    simp [chars, body, whole]
  | some f => simp [chars, body, pointed, fraction]

theorem takeSign_append (s : WrittenSign) {rest : List Char}
    (unsigned : ∀ c ∈ rest.head?, c ≠ '-' ∧ c ≠ '+') :
    takeSign (s.chars ++ rest) = (s.isMinus, rest) := by
  cases s with
  | plus => rfl
  | minus => rfl
  | bare =>
    cases rest with
    | nil => rfl
    | cons c r =>
      have ⟨minus, plus⟩ := unsigned c rfl
      simp [WrittenSign.chars, WrittenSign.isMinus, takeSign, minus, plus]

theorem WrittenDigits.takeWhile_append (d : WrittenDigits) {rest : List Char}
    (stops : ∀ c ∈ rest.head?, c.isDigit = false) :
    (d.chars ++ rest).takeWhile Char.isDigit = d.chars ∧
      (d.chars ++ rest).dropWhile Char.isDigit = rest := by
  refine ⟨?_, dropWhile_append_of_stops d.digits stops⟩
  rw [List.takeWhile_append_of_pos d.digits]
  cases rest with
  | nil => simp
  | cons c r => simp [stops c rfl]

theorem WrittenDigits.head?_unsigned (d : WrittenDigits) :
    ∀ c ∈ d.chars.head?, c ≠ '-' ∧ c ≠ '+' := by
  intro c found
  have digit := d.digits c (List.mem_of_mem_head? found)
  constructor
  · rintro rfl
    cases digit
  · rintro rfl
    cases digit

theorem dropSeparators?_of_none (afterDigit : Bool) {s : List Char} (none : ∀ c ∈ s, c ≠ '_') :
    dropSeparators? afterDigit s = some s := by
  induction s generalizing afterDigit with
  | nil => rfl
  | cons c r ih =>
    obtain ⟨here, rest⟩ := List.forall_mem_cons.mp none
    simp [dropSeparators?, here, ih _ rest]

theorem readExponent?_chars (e : WrittenExponent) :
    readExponent? e.chars = some e.value := by
  have split := takeSign_append e.sign e.digits.head?_unsigned
  have digits : e.digits.chars.all Char.isDigit = true := List.all_eq_true.mpr e.digits.digits
  cases capital : e.capital <;>
    simp [WrittenExponent.chars, WrittenExponent.value, readExponent?, capital, split, digits,
      e.nonempty]

namespace WrittenNumeral

variable (n : WrittenNumeral)

theorem readExponent?_scale :
    readExponent? n.scale = some ((n.exponent?.map WrittenExponent.value).getD 0) := by
  unfold scale
  cases n.exponent? with
  | none => rfl
  | some e => exact readExponent?_chars e

theorem scale_head? : ∀ c ∈ n.scale.head?, c = 'e' ∨ c = 'E' := by
  unfold scale
  cases n.exponent? with
  | none => simp
  | some e => cases capital : e.capital <;> simp [WrittenExponent.chars, capital]

theorem scale_stops : ∀ c ∈ n.scale.head?, c.isDigit = false := by
  intro c found
  rcases n.scale_head? c found with rfl | rfl <;> rfl

theorem takeFraction_pointed : takeFraction (n.pointed ++ n.scale) = (n.fraction, n.scale) := by
  have stops := n.scale_stops
  unfold pointed fraction
  cases n.fraction? with
  | none =>
    have none := n.scale_head?
    cases scale : n.scale with
    | nil => rfl
    | cons c r =>
      rw [scale] at none
      rcases none c rfl with rfl | rfl <;> rfl
  | some f =>
    obtain ⟨taken, left⟩ := f.takeWhile_append stops
    simp [takeFraction, taken, left]

theorem pointed_stops : ∀ c ∈ (n.pointed ++ n.scale).head?, c.isDigit = false := by
  have stops := n.scale_stops
  unfold pointed
  cases n.fraction? with
  | none => simpa using stops
  | some f => simp

theorem body_head? : ∀ c ∈ n.body.head?, c ∈ '.' :: digitChars := by
  unfold body
  cases whole : n.whole.chars with
  | cons d r =>
    have digit : d.isDigit = true := n.whole.digits d (by simp [whole])
    simpa using .inr (mem_digitChars digit)
  | nil =>
    have some := n.nonempty
    unfold pointed
    cases fraction : n.fraction? with
    | none => simp [whole, fraction] at some
    | some f => simp

theorem body_unsigned : ∀ c ∈ n.body.head?, c ≠ '-' ∧ c ≠ '+' := by
  have known : ∀ c ∈ '.' :: digitChars, c ≠ '-' ∧ c ≠ '+' :=
    forall_mem_of_all (by decide)
  exact fun c found => known c (n.body_head? c found)

theorem body_ne_word {c : Char} (letter : c = 'i' ∨ c = 'n') (word : List Char) :
    n.body.map Char.toLower ≠ c :: word := by
  have known : ∀ d ∈ '.' :: digitChars, d.toLower ≠ 'i' ∧ d.toLower ≠ 'n' :=
    forall_mem_of_all (by decide)
  intro same
  obtain ⟨d, r, body, rfl, -⟩ := List.map_eq_cons_iff.mp same
  have ⟨i, n⟩ := known d (n.body_head? d (by simp [body]))
  simp [i, n] at letter

theorem ofChars?_chars : Numeral.ofChars? n.chars = some n.numeral := by
  have sign := takeSign_append n.sign n.body_unsigned
  obtain ⟨whole, rest⟩ : n.body.takeWhile Char.isDigit = n.whole.chars ∧
      n.body.dropWhile Char.isDigit = n.pointed ++ n.scale :=
    n.whole.takeWhile_append n.pointed_stops
  have words (word : List Char) := n.body_ne_word (.inl rfl) word
  have others (word : List Char) := n.body_ne_word (.inr rfl) word
  have some : ¬ (n.whole.chars = [] ∧ n.fraction = []) := by
    simpa [fraction] using n.nonempty
  simp [Numeral.ofChars?, chars, sign, words, others, whole, rest, n.takeFraction_pointed,
    n.readExponent?_scale, some, numeral]

theorem parse?_chars : Number.parse? n.chars = some n.numeral.toFloat := by
  have known : ∀ c ∈ numeralChars, isWhiteSpace c = false ∧ asciiDigit c = c ∧ c ≠ '_' :=
    forall_mem_of_all (by decide)
  have plain (c : Char) (found : c ∈ n.chars) := known c (n.chars_subset found)
  have nothing : ∀ c ∈ [], isWhiteSpace c = true := by simp
  have trimmed : trimBy isWhiteSpace n.chars = n.chars := by
    simpa using trimBy_append_of_none nothing nothing (fun c found => (plain c found).1)
      n.chars_ne_nil
  have digits : n.chars.map asciiDigit = n.chars :=
    (List.map_congr_left fun c found => (plain c found).2.1).trans (List.map_id _)
  have joined := dropSeparators?_of_none false fun c found => (plain c found).2.2
  simp [Number.parse?, trimmed, digits, joined, n.ofChars?_chars]

end WrittenNumeral

theorem WrittenSign.lower_chars (s : WrittenSign) : lower s.chars = s.chars := by
  cases s <;> rfl

theorem WrittenDigits.lower_chars (d : WrittenDigits) : lower d.chars = d.chars := by
  have known : ∀ c ∈ digitChars, lowerChar c = [c] := forall_mem_of_all (by decide)
  exact lower_of_fixed fun c found => known c (mem_digitChars (d.digits c found))

def WrittenExponent.lowered (e : WrittenExponent) : WrittenExponent :=
  { e with capital := false }

theorem WrittenExponent.lower_chars (e : WrittenExponent) : lower e.chars = e.lowered.chars := by
  have letter : lowerChar (if e.capital then 'E' else 'e') = ['e'] := by
    cases e.capital <;> rfl
  change lowerChar _ ++ lower (e.sign.chars ++ e.digits.chars) = _
  rw [letter, lower_append, e.sign.lower_chars, e.digits.lower_chars]
  rfl

namespace WrittenNumeral

variable (n : WrittenNumeral)

def lowered : WrittenNumeral :=
  { n with exponent? := n.exponent?.map WrittenExponent.lowered }

theorem lower_chars : lower n.chars = n.lowered.chars := by
  have pointed : lower n.pointed = n.pointed := by
    unfold WrittenNumeral.pointed
    cases n.fraction? with
    | none => rfl
    | some f => exact congrArg ('.' :: ·) f.lower_chars
  have scale : lower n.scale = n.lowered.scale := by
    unfold WrittenNumeral.scale lowered
    cases n.exponent? with
    | none => rfl
    | some e => exact e.lower_chars
  simp only [chars, body, lower_append, n.sign.lower_chars, n.whole.lower_chars, pointed, scale]
  rfl

theorem numeral_lowered : n.lowered.numeral = n.numeral := by
  unfold lowered numeral
  cases n.exponent? with
  | none => rfl
  | some e => rfl

end WrittenNumeral

end StepFree.Number
