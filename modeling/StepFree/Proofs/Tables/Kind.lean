import Mathlib.Data.List.Dedup
import StepFree.Proofs.Tables.Reading

/-! What the two tables have in common. A table is a list of texts for each of its categories. An override
replaces some of the lists, and the export shows them all. So reading the export of a table makes any
table equal to it, and the export after an override shows what the override said. -/
namespace StepFree

theorem eq_of_ascending {l m : List String} (al : l.Pairwise (· < ·)) (am : m.Pairwise (· < ·))
    (same : ∀ v, v ∈ l ↔ v ∈ m) : l = m := by
  have nl : l.Nodup := al.imp String.ne_of_lt
  have nm : m.Nodup := am.imp String.ne_of_lt
  have perm : l.Perm m := (List.perm_ext_iff_of_nodup nl nm).mpr same
  exact perm.eq_of_pairwise (fun _ _ _ _ ab ba => absurd ba (String.lt_asymm ab)) al am

/-- Some texts in ascending order, each once. -/
def sortedTexts (texts : List String) : List String :=
  texts.dedup.mergeSort

theorem mem_sortedTexts {texts : List String} {v : String} : v ∈ sortedTexts texts ↔ v ∈ texts := by
  rw [sortedTexts, List.mem_mergeSort, List.mem_dedup]

theorem sortedTexts_ascending (texts : List String) : (sortedTexts texts).Pairwise (· < ·) := by
  have sorted : (sortedTexts texts).Pairwise fun a b => decide (a ≤ b) = true := by
    apply List.pairwise_mergeSort
    · simpa using fun a b c => String.le_trans
    · simpa using String.le_total
  have nodup : (sortedTexts texts).Nodup :=
    (List.mergeSort_perm _ _).nodup_iff.mpr (List.nodup_dedup texts)
  refine (sorted.and nodup).imp fun {a b} h => ?_
  rcases Decidable.em (a < b) with lt | ge
  · exact lt
  · exact absurd (String.le_antisymm (of_decide_eq_true h.1) (String.not_lt.mp ge)) h.2

namespace ValueSet

theorem eq_of_members {s t : ValueSet} (same : s.members = t.members) : s = t := by
  cases s
  cases t
  exact (ValueSet.mk.injEq ..).mpr same

theorem members_ofList (values : List String) : (ofList values).members = sortedTexts values :=
  eq_of_ascending (ofList values).ascending (sortedTexts_ascending values) fun _ =>
    mem_ofList.trans mem_sortedTexts.symm

theorem sortedTexts_members (s : ValueSet) : sortedTexts s.members = s.members :=
  eq_of_ascending (sortedTexts_ascending s.members) s.ascending fun _ => mem_sortedTexts

end ValueSet

theorem findRev?_cons {α : Type} (p : α → Bool) (a : α) (l : List α) :
    (a :: l).findRev? p = (l.findRev? p).or (if p a then some a else none) := by
  rw [List.findRev?_eq_find?_reverse, List.findRev?_eq_find?_reverse, List.reverse_cons,
    List.find?_append, List.find?_singleton]

theorem find?_of_unique {α : Type} {p : α → Bool} {l : List α} {a : α} (member : a ∈ l)
    (holds : p a = true) (unique : ∀ b, p b = true → b = a) : l.find? p = some a := by
  cases found : l.find? p with
  | none => exact absurd holds (List.find?_eq_none.mp found a member)
  | some b => rw [unique b (List.find?_some found)]

namespace Datum

def isText (name : String) : Datum → Bool
  | .text s => s = name
  | _ => false

/-- What a mapping has for a text. Of several entries the last counts. -/
def member? (d : Datum) (name : String) : Option Datum :=
  match d with
  | .dict entries => (entries.findRev? (isText name ·.1)).map Prod.snd
  | _ => none

theorem member?_cons (e : Datum × Datum) (r : List (Datum × Datum)) (name : String) :
    (dict (e :: r)).member? name =
      ((dict r).member? name).or (if isText name e.1 then some e.2 else none) := by
  rw [member?, member?, findRev?_cons, Option.map_or]
  cases isText name e.1 <;> rfl

end Datum

namespace Replacements

variable {κ : Type} [DecidableEq κ]

def last? (changes : Replacements κ) (k : κ) : Option (List String) :=
  (changes.findRev? (·.1 = k)).map Prod.snd

theorem last?_cons (c : κ × List String) (r : Replacements κ) (k : κ) :
    last? (c :: r) k = (last? r k).or (if c.1 = k then some c.2 else none) := by
  rw [last?, last?, findRev?_cons, Option.map_or]
  by_cases here : c.1 = k <;> simp [here]

theorem last?_map {all : List κ} {k : κ} (member : k ∈ all) (texts : κ → List String) :
    last? (all.map fun k => (k, texts k)) k = some (texts k) := by
  rw [last?, List.findRev?_eq_find?_reverse, ← List.map_reverse, List.find?_map, Function.comp_def,
    find?_of_unique (List.mem_reverse.mpr member) (decide_eq_true rfl) fun _ => of_decide_eq_true]
  rfl

end Replacements

/-- A kind of table: its categories with their names, the texts of a category, and what a category
keeps of the texts it is given. -/
structure TableKind (T κ : Type) [DecidableEq κ] where
  all : List κ
  name : κ → String
  texts : T → κ → List String
  kept : κ → List String → List String
  replace : T → κ → List String → T
  mem_all : ∀ k, k ∈ all
  names_distinct : (all.map name).Nodup
  texts_replace : ∀ t k values j,
    texts (replace t k values) j = if j = k then kept k values else texts t j
  kept_texts : ∀ t k, kept k (texts t k) = texts t k
  eq_of_texts : ∀ s t, texts s = texts t → s = t

namespace TableKind

open Overrides

variable {T κ : Type} [DecidableEq κ] (K : TableKind T κ)

def ofName? (s : String) : Option κ :=
  K.all.find? (K.name · = s)

def toDatum (t : T) : Datum :=
  .ofMembers (K.all.map fun k => (K.name k, .ofTexts (K.texts t k)))

def apply (t : T) (changes : Replacements κ) : T :=
  changes.foldl (fun t c => K.replace t c.1 c.2) t

def overriddenBy (title : String) (t : T) (d : Datum) : Except Fault T :=
  (read title K.ofName? d).map (K.apply t)

theorem name_inj {j k : κ} : K.name j = K.name k ↔ j = k :=
  ⟨fun same => List.inj_on_of_nodup_map K.names_distinct (K.mem_all j) (K.mem_all k) same,
    congrArg K.name⟩

theorem ofName?_eq_some {s : String} {k : κ} : K.ofName? s = some k ↔ s = K.name k := by
  constructor
  · intro found
    exact (of_decide_eq_true (List.find?_some (p := fun j => K.name j = s) found)).symm
  · rintro rfl
    exact find?_of_unique (K.mem_all k) (decide_eq_true rfl) fun _ same =>
      K.name_inj.mp (of_decide_eq_true same)

theorem category?_eq_some {d : Datum} {k : κ} :
    category? K.ofName? d = some k ↔ d = .text (K.name k) := by
  cases d with
  | text s => rw [category?, ofName?_eq_some, Datum.text.injEq]
  | _ => exact iff_of_false (fun h => nomatch h) (fun h => nomatch h)

theorem texts_apply (t : T) (changes : Replacements κ) (k : κ) :
    K.texts (K.apply t changes) k = ((changes.last? k).map (K.kept k)).getD (K.texts t k) := by
  induction changes generalizing t with
  | nil => rfl
  | cons c r ih =>
    rw [apply, List.foldl_cons, ← apply, ih, K.texts_replace, Replacements.last?_cons]
    cases Replacements.last? r k with
    | some _ => rfl
    | none =>
      by_cases here : k = c.1
      · simp [here]
      · simp [here, Ne.symm here]

theorem last?_of_given {entries : List (Datum × Datum)} {changes : Replacements κ}
    (given : List.Forall₂ (Gives K.ofName?) entries changes) (k : κ) :
    changes.last? k = ((Datum.dict entries).member? (K.name k)).map Datum.texts := by
  induction given with
  | nil => rfl
  | @cons e c _ _ head _ ih =>
    obtain ⟨name, values⟩ := e
    obtain ⟨category, -, texts⟩ := head
    obtain rfl := K.category?_eq_some.mp category
    rw [Replacements.last?_cons, ih, Datum.member?_cons, Option.map_or, apply_ite (Option.map _)]
    simp only [Datum.isText, decide_eq_true_eq, K.name_inj, texts, Option.map_some,
      Option.map_none]

theorem accepted_iff (title : String) (b : T) (o : Datum) :
    (∃ t, K.overriddenBy title b o = .ok t) ↔ IsReadable K.ofName? o := by
  rw [← readable_iff K.ofName? title]
  constructor
  · rintro ⟨t, accepted⟩
    obtain ⟨changes, reading, -⟩ := exists_of_map_eq_ok accepted
    exact ⟨changes, reading⟩
  · rintro ⟨changes, reading⟩
    exact ⟨K.apply b changes, congrArg (Except.map (K.apply b)) reading⟩

theorem read_toDatum (title : String) (t : T) :
    read title K.ofName? (K.toDatum t) = .ok (K.all.map fun k => (k, K.texts t k)) := by
  refine (read_eq_ok_iff K.ofName?).mpr ⟨_, rfl, ?_⟩
  rw [List.map_map, List.forall₂_map_left_iff, List.forall₂_map_right_iff, List.forall₂_same]
  intro k _
  refine ⟨K.category?_eq_some.mpr rfl, rfl, ?_⟩
  simp [Datum.texts, Datum.ofTexts, Datum.collection?, Datum.plain, Function.comp_def]

/-- The export of a table makes any table equal to it. -/
theorem overriddenBy_toDatum (title : String) (b t : T) :
    K.overriddenBy title b (K.toDatum t) = .ok t := by
  rw [overriddenBy, K.read_toDatum title t]
  refine congrArg Except.ok (K.eq_of_texts _ _ (funext fun k => ?_))
  rw [K.texts_apply, Replacements.last?_map (K.mem_all k)]
  exact K.kept_texts t k

/-- After an override a category has what the override says of it, or else what it had before. -/
theorem texts_overriddenBy {title : String} {b r : T} {o : Datum}
    (accepted : K.overriddenBy title b o = .ok r) (k : κ) :
    K.texts r k = ((o.member? (K.name k)).map fun values => K.kept k values.texts).getD
      (K.texts b k) := by
  obtain ⟨changes, reading, rfl⟩ := exists_of_map_eq_ok accepted
  obtain ⟨entries, rfl, given⟩ := (read_eq_ok_iff K.ofName?).mp reading
  rw [K.texts_apply, K.last?_of_given given, Option.map_map]
  rfl

theorem toDatum_overriddenBy {title : String} {b r : T} {o : Datum}
    (accepted : K.overriddenBy title b o = .ok r) :
    K.toDatum r = .ofMembers (K.all.map fun k => (K.name k, .ofTexts
      (((o.member? (K.name k)).map fun values => K.kept k values.texts).getD (K.texts b k)))) := by
  refine congrArg Datum.ofMembers (List.map_congr_left fun k _ => ?_)
  rw [K.texts_overriddenBy accepted]

end TableKind
end StepFree
