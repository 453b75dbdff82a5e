import Mathlib.Data.List.DropRight
import StepFree.Text.Basic

namespace StepFree.Text

/-- Looks at the characters of a text alone, not at all characters that there are. -/
theorem forall_mem_of_all {p : Char → Prop} [DecidablePred p] {s : List Char}
    (all : s.all (p ·) = true) : ∀ c ∈ s, p c := by
  simpa using all

section
variable {p : Char → Bool} {before middle front between back after : List Char}

theorem dropWhile_append_of_stops (dropped : ∀ c ∈ before, p c = true)
    (stops : ∀ c ∈ middle.head?, p c = false) : (before ++ middle).dropWhile p = middle := by
  rw [List.dropWhile_append_of_pos dropped]
  cases middle with
  | nil => rfl
  | cons c r => simp [stops c rfl]

theorem trimBy_append (leading : ∀ c ∈ before, p c = true) (trailing : ∀ c ∈ after, p c = true)
    (starts : ∀ c ∈ middle.head?, p c = false) (ends : ∀ c ∈ middle.getLast?, p c = false)
    (some : middle ≠ []) : trimBy p (before ++ middle ++ after) = middle := by
  have front : (before ++ middle ++ after).dropWhile p = middle ++ after := by
    rw [List.append_assoc]
    obtain ⟨c, r, rfl⟩ := List.exists_cons_of_ne_nil some
    exact dropWhile_append_of_stops leading starts
  have back : (middle ++ after).reverse.dropWhile p = middle.reverse := by
    rw [List.reverse_append]
    apply dropWhile_append_of_stops
    · simpa using trailing
    · simpa using ends
  rw [trimBy, front, back, List.reverse_reverse]

theorem trimBy_of_ends (starts : ∀ c ∈ middle.head?, p c = false)
    (ends : ∀ c ∈ middle.getLast?, p c = false) : trimBy p middle = middle := by
  by_cases none : middle = []
  · rw [none]
    rfl
  · have nothing : ∀ c ∈ [], p c = true := List.forall_mem_nil _
    simpa using trimBy_append nothing nothing starts ends none

theorem trimBy_append_of_none (leading : ∀ c ∈ before, p c = true)
    (trailing : ∀ c ∈ after, p c = true) (none : ∀ c ∈ middle, p c = false) (some : middle ≠ []) :
    trimBy p (before ++ middle ++ after) = middle := by
  apply trimBy_append leading trailing
  · exact fun c found => none c (List.mem_of_mem_head? found)
  · exact fun c found => none c (List.mem_of_mem_getLast? found)
  · exact some

theorem trimBy_pieces (leading : ∀ c ∈ before, p c = true) (inner : ∀ c ∈ between, p c = true)
    (trailing : ∀ c ∈ after, p c = true) (first : ∀ c ∈ front, p c = false) (some : front ≠ [])
    (last : ∀ c ∈ back, p c = false) :
    ∃ kept, (∀ c ∈ kept, p c = true) ∧
      trimBy p (before ++ front ++ between ++ back ++ after) = front ++ kept ++ back := by
  by_cases none : back = []
  · refine ⟨[], by simp, ?_⟩
    have behind : ∀ c ∈ between ++ after, p c = true :=
      List.forall_mem_append.mpr ⟨inner, trailing⟩
    simpa [none] using trimBy_append_of_none leading behind first some
  · refine ⟨between, inner, ?_⟩
    have starts : ∀ c ∈ (front ++ (between ++ back)).head?, p c = false := by
      obtain ⟨d, r, rfl⟩ := List.exists_cons_of_ne_nil some
      simpa using first d
    have ends : ∀ c ∈ (front ++ (between ++ back)).getLast?, p c = false := by
      rw [← List.append_assoc, List.getLast?_append_of_ne_nil _ none]
      exact fun c found => last c (List.mem_of_mem_getLast? found)
    simpa using trimBy_append leading trailing starts ends (by simp [some])

end

section
variable (p : Char → Bool) (s : List Char)

theorem trimBy_parts : ∃ before after, (∀ c ∈ before, p c = true) ∧ (∀ c ∈ after, p c = true) ∧
    s = before ++ trimBy p s ++ after := by
  refine ⟨s.takeWhile p, (s.dropWhile p).rtakeWhile p, fun _ => List.mem_takeWhile_imp,
    fun _ => List.mem_rtakeWhile_imp, ?_⟩
  rw [List.append_assoc, trimBy, ← List.rdropWhile, List.rdropWhile_append_rtakeWhile,
    List.takeWhile_append_dropWhile]

theorem head?_dropWhile : ∀ c ∈ (s.dropWhile p).head?, p c = false := by
  intro c first
  have stopped := List.head?_dropWhile_not p s
  rw [first] at stopped
  exact stopped

theorem getLast?_trimBy : ∀ c ∈ (trimBy p s).getLast?, p c = false := by
  rw [trimBy, List.getLast?_reverse]
  exact head?_dropWhile p _

theorem head?_trimBy : ∀ c ∈ (trimBy p s).head?, p c = false := by
  obtain ⟨behind, parts⟩ : trimBy p s <+: s.dropWhile p := List.rdropWhile_prefix p _
  intro c first
  apply head?_dropWhile p s
  rw [← parts, List.head?_append, first]
  rfl

end

theorem lower_append (s t : List Char) : lower (s ++ t) = lower s ++ lower t :=
  List.flatMap_append

theorem lower_of_fixed {s : List Char} (fixed : ∀ c ∈ s, lowerChar c = [c]) : lower s = s := by
  induction s with
  | nil => rfl
  | cons c r ih =>
    obtain ⟨here, rest⟩ := List.forall_mem_cons.mp fixed
    change lowerChar c ++ lower r = c :: r
    rw [here, ih rest, List.singleton_append]

theorem lowerChar_of_blank {c : Char} (blank : isBlank c = true) : lowerChar c = [c] := by
  have kelvin : c ≠ '\u212a' := by
    rintro rfl
    cases blank
  have dotted : c ≠ '\u0130' := by
    rintro rfl
    cases blank
  have same : c.toLower = c := by
    refine dif_neg fun capital => ?_
    have code : 65 ≤ c.toNat ∧ c.toNat ≤ 90 := by
      simpa [UInt32.le_iff_toNat_le] using capital
    simp [isBlank, isWhiteSpace] at blank
    omega
  simp [lowerChar, kelvin, dotted, same]

section
variable {c : Char} {word piece : List Char} (absent : c ∉ piece) (rest : List Char)

include absent

theorem occurs_append : occurs (c :: word) (piece ++ rest) = occurs (c :: word) rest := by
  induction piece with
  | nil => rfl
  | cons d r ih =>
    obtain ⟨other, absent⟩ : c ≠ d ∧ c ∉ r := by simpa using absent
    simp [occurs, other, ih absent]

theorem eraseWord_append :
    eraseWord (c :: word) (piece ++ rest) = piece ++ eraseWord (c :: word) rest := by
  induction piece with
  | nil => rfl
  | cons d r ih =>
    obtain ⟨other, absent⟩ : c ≠ d ∧ c ∉ r := by simpa using absent
    have kept := ih absent
    simp only [eraseWord] at kept ⊢
    simp [eraseFrom, other, kept]

end

end StepFree.Text
