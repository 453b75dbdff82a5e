import Mathlib.Data.List.Infix
import StepFree.Proofs.Text.Pieces

/-! What erasing a word does to a text. A text without the word stays as it is, and of a text that has the
word at its end and nowhere else the part before it is left. In any case the text is had back by putting
the word into what is left, once for each occurrence. -/
namespace StepFree.Text

variable {word s : List Char}

theorem occurs_iff : occurs word s = true ↔ word <:+: s := by
  induction s with
  | nil => simp [occurs]
  | cons c r ih =>
    rw [occurs, Bool.or_eq_true, ih, List.isPrefixOf_iff_prefix, List.infix_cons_iff]

theorem eraseFrom_eq_drop (word : List Char) (skip : Nat) (s : List Char) :
    eraseFrom word skip s = eraseWord word (s.drop skip) := by
  induction s generalizing skip with
  | nil => simp [eraseWord, eraseFrom]
  | cons c r ih =>
    cases skip with
    | zero => rfl
    | succ n => rw [eraseFrom, List.drop_succ_cons, ih]

theorem eraseWord_append_left (some : word ≠ []) (rest : List Char) :
    eraseWord word (word ++ rest) = eraseWord word rest := by
  obtain ⟨c, w, rfl⟩ := List.exists_cons_of_ne_nil some
  have here : (c :: w).isPrefixOf (c :: (w ++ rest)) = true :=
    List.isPrefixOf_iff_prefix.mpr (List.prefix_append (c :: w) rest)
  rw [List.cons_append, eraseWord, eraseFrom, if_pos here, eraseFrom_eq_drop]
  simp

theorem eraseWord_cons {c : Char} (elsewhere : ¬ word <+: c :: s) :
    eraseWord word (c :: s) = c :: eraseWord word s := by
  rw [eraseWord, eraseFrom, if_neg fun here => elsewhere (List.isPrefixOf_iff_prefix.mp here)]
  rfl

theorem eraseWord_of_absent (absent : ¬ word <:+: s) : eraseWord word s = s := by
  induction s with
  | nil => rfl
  | cons c r ih =>
    rw [List.infix_cons_iff, not_or] at absent
    rw [eraseWord_cons absent.1, ih absent.2]

def OnlyLast (word s : List Char) : Prop :=
  ∀ before after, s = before ++ word ++ after → after = []

theorem OnlyLast.tail {c : Char} (last : OnlyLast word (c :: s)) : OnlyLast word s := by
  rintro before after rfl
  exact last (c :: before) after rfl

theorem eraseWord_of_onlyLast (some : word ≠ []) (last : OnlyLast word s) (found : word <:+: s) :
    s = eraseWord word s ++ word := by
  induction s with
  | nil => exact absurd (List.infix_nil.mp found) some
  | cons c r ih =>
    by_cases here : word <+: c :: r
    · obtain ⟨after, whole⟩ := here
      obtain rfl := last [] after whole.symm
      rw [← whole, eraseWord_append_left some, List.append_nil]
      rfl
    · have later := (List.infix_cons_iff.mp found).resolve_left here
      rw [eraseWord_cons here, List.cons_append, ← ih last.tail later]

/-- A text into which some words were put, one after the other and anywhere. -/
inductive Strewn (words : List Char → Prop) (plain : List Char) : List Char → Prop
  | plain : Strewn words plain plain
  | word (before : List Char) {word after : List Char} (known : words word)
      (strewn : Strewn words plain (before ++ after)) :
      Strewn words plain (before ++ word ++ after)

namespace Strewn

variable {words : List Char → Prop} {plain mixed : List Char}

theorem trans (first : Strewn words plain mixed) (second : Strewn words mixed s) :
    Strewn words plain s := by
  induction second with
  | plain => exact first
  | word before known _ ih => exact .word before known ih

theorem cons (c : Char) (strewn : Strewn words plain s) : Strewn words (c :: plain) (c :: s) := by
  induction strewn with
  | plain => exact .plain
  | word before known _ ih => exact .word (c :: before) known ih

theorem word_front (known : words word) (strewn : Strewn words plain s) :
    Strewn words plain (word ++ s) :=
  .word [] known strewn

end Strewn

theorem strewn_eraseWord {words : List Char → Prop} (known : words word) (some : word ≠ [])
    (s : List Char) : Strewn words (eraseWord word s) s := by
  by_cases here : word <+: s
  · obtain ⟨rest, rfl⟩ := here
    have shorter : rest.length < (word ++ rest).length := by
      have length := List.length_pos_iff.mpr some
      rw [List.length_append]
      omega
    rw [eraseWord_append_left some]
    -- A whole occurrence is gone, so the recursion is on the length and not on the characters.
    exact .word_front known (strewn_eraseWord known some rest)
  · cases s with
    | nil => exact .plain
    | cons c r =>
      rw [eraseWord_cons here]
      exact .cons c (strewn_eraseWord known some r)
termination_by s.length

end StepFree.Text
