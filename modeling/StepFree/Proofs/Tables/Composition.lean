import Mathlib.Data.Set.List
import StepFree.Proofs.Datum.Entering
import StepFree.Proofs.Tables.Export

/-! Overrides in a row. Two of them do what one does that has the members of both, the second one's where
both have some; so overrides of different categories can be swapped. Which overrides are accepted, and
how the others are refused, does not depend on the table: names are looked at before lists, and those
that are unknown are reported together, in order, whatever the lists are. -/
namespace StepFree

namespace Datum

/-- The members of two mappings, and where both have one, that of the second. -/
def updatedBy : Datum → Datum → Datum
  | .dict entries, .dict more =>
    .dict (more.foldl (fun entries e => enter entries e.1 e.2) entries)
  | d, _ => d

variable {entries more : List (Datum × Datum)}

theorem isText_eq_true {d : Datum} {s : String} : isText s d = true ↔ d = .text s := by
  cases d <;> simp [isText]

theorem member?_append (entries more : List (Datum × Datum)) (name : String) :
    (dict (entries ++ more)).member? name =
      ((dict more).member? name).or ((dict entries).member? name) := by
  induction entries with
  | nil => exact (Option.or_none).symm
  | cons e r ih => rw [List.cons_append, member?_cons, ih, member?_cons, Option.or_assoc]

theorem member?_eq_none {name : String} :
    (dict entries).member? name = none ↔ ∀ e ∈ entries, e.1 ≠ .text name := by
  simp [member?, List.findRev?_eq_find?_reverse, ← isText_eq_true]

theorem member?_map (entries : List (Datum × Datum)) (s : String) (value : Datum)
    (name : String) :
    (dict (entries.map fun e => if e.1.sameKey (.text s) then (e.1, value) else e)).member? name =
      ((dict entries).member? name).map fun old => if s = name then value else old := by
  induction entries with
  | nil => rfl
  | cons e r ih =>
    obtain ⟨key, held⟩ := e
    rw [List.map_cons, member?_cons, ih, member?_cons, Option.map_or]
    congr 1
    by_cases named : key = .text name
    · subst named
      by_cases here : s = name
      · simp [here, isText, sameKey_text]
      · simp [here, isText, sameKey_text, Ne.symm here]
    · have apart : isText name key = false := Bool.eq_false_iff.mpr (mt isText_eq_true.mp named)
      have kept : (if key.sameKey (.text s) then (key, value) else (key, held)).1 = key := by
        split <;> rfl
      simp [kept, apart]

theorem member?_enter (entries : List (Datum × Datum)) (s : String) (value : Datum)
    (name : String) : (dict (enter entries (.text s) value)).member? name =
      if s = name then some value else (dict entries).member? name := by
  rw [enter]
  split
  · next known =>
    rw [member?_map]
    by_cases here : s = name
    · obtain ⟨e, member, same⟩ := List.any_eq_true.mp known
      cases found : (dict entries).member? name with
      | none => exact absurd (here ▸ sameKey_text.mp same) (member?_eq_none.mp found e member)
      | some old => simp [here]
    · simp [here]
  · rw [member?_append, member?_cons]
    by_cases here : s = name
    · simp [here, isText, member?]
    · simp [here, isText, member?]

theorem member?_updatedBy (named : ∀ e ∈ more, ∃ s, e.1 = .text s) (name : String) :
    ((dict entries).updatedBy (dict more)).member? name =
      ((dict more).member? name).or ((dict entries).member? name) := by
  rw [updatedBy]
  induction more generalizing entries with
  | nil => rfl
  | cons e r ih =>
    obtain ⟨⟨s, text⟩, rest⟩ := List.forall_mem_cons.mp named
    -- Both sides ask the later entries first, then this one, then the old mapping.
    rw [List.foldl_cons, ih rest, text, member?_enter, member?_cons, text, Option.or_assoc]
    congr 1
    by_cases here : s = name <;> simp [here, isText]

end Datum

namespace Overrides

variable {κ : Type} {ofName? : String → Option κ} {o p : Datum}

theorem IsReadable.updatedBy (readable : IsReadable ofName? o) (other : IsReadable ofName? p) :
    IsReadable ofName? (o.updatedBy p) := by
  obtain ⟨entries, rfl, collections⟩ := readable
  obtain ⟨more, rfl, otherCollections⟩ := other
  exact ⟨_, rfl, Datum.forall_mem_foldl_enter (P := fun d => (category? ofName? d).isSome = true)
    (Q := fun d => d.collection?.isSome = true) collections otherCollections⟩

theorem IsReadable.member?_updatedBy (readable : IsReadable ofName? o)
    (other : IsReadable ofName? p) (name : String) :
    (o.updatedBy p).member? name = (p.member? name).or (o.member? name) := by
  obtain ⟨entries, rfl, -⟩ := readable
  obtain ⟨more, rfl, collections⟩ := other
  exact Datum.member?_updatedBy (fun e he => text_of_category ofName? (collections e he).1) name

end Overrides

namespace TableKind

open Overrides

variable {T κ : Type} [DecidableEq κ] (K : TableKind T κ) {title : String} {b t u v : T}
  {o p : Datum}

/-- After two overrides a category has the texts of the second, if this names it, else of the first. -/
theorem texts_overriddenBy_twice (first : K.overriddenBy title b o = .ok t)
    (second : K.overriddenBy title t p = .ok u) (k : κ) :
    K.texts u k = (((p.member? (K.name k)).or (o.member? (K.name k))).map fun values =>
      K.kept k values.texts).getD (K.texts b k) := by
  rw [K.texts_overriddenBy second, K.texts_overriddenBy first]
  cases p.member? (K.name k) <;> rfl

theorem eq_of_overridden (first : K.overriddenBy title b o = .ok t)
    (second : K.overriddenBy title t p = .ok u)
    (both : K.overriddenBy title b (o.updatedBy p) = .ok v) : u = v := by
  have readable := (K.accepted_iff title b o).mp ⟨t, first⟩
  have other := (K.accepted_iff title t p).mp ⟨u, second⟩
  refine K.eq_of_texts u v (funext fun k => ?_)
  rw [K.texts_overriddenBy_twice first second, K.texts_overriddenBy both,
    readable.member?_updatedBy other]

theorem eq_of_apart {s w : T} (apart : ∀ name, o.member? name = none ∨ p.member? name = none)
    (first : K.overriddenBy title b o = .ok t) (second : K.overriddenBy title t p = .ok u)
    (otherFirst : K.overriddenBy title b p = .ok s)
    (otherSecond : K.overriddenBy title s o = .ok w) : u = w := by
  refine K.eq_of_texts u w (funext fun k => ?_)
  rw [K.texts_overriddenBy second, K.texts_overriddenBy first, K.texts_overriddenBy otherSecond,
    K.texts_overriddenBy otherFirst]
  rcases apart (K.name k) with none | none
  · rw [none]
    rfl
  · rw [none]
    rfl

end TableKind

namespace Datum

theorem insertSorted?_text {s : String} {l : List String} (fresh : s ∉ l) :
    insertSorted? (.text s) (l.map .text) = some ((insertAscending s l).map .text) := by
  induction l with
  | nil => rfl
  | cons x r ih =>
    obtain ⟨apart, rest⟩ := not_or.mp (mt List.mem_cons.mpr fresh)
    rw [List.map_cons, insertSorted?, ih rest, insertAscending]
    by_cases less : s < x
    · simp [less?, less]
    · simp [less?, less, apart]

theorem foldlM_insertSorted?_texts {l : List String} (set : ValueSet) (distinct : l.Nodup)
    (fresh : ∀ s ∈ l, s ∉ set) :
    (l.map .text).foldlM (fun sorted d => insertSorted? d sorted) (set.members.map .text) =
      some ((l.foldl ValueSet.insert set).members.map .text) := by
  induction l generalizing set with
  | nil => rfl
  | cons s r ih =>
    obtain ⟨apart, distinct⟩ := List.nodup_cons.mp distinct
    obtain ⟨new, fresh⟩ := List.forall_mem_cons.mp fresh
    rw [List.map_cons, List.foldlM_cons, insertSorted?_text new]
    refine ih (set.insert s) distinct fun t ht old => ?_
    rcases ValueSet.mem_insert.mp old with rfl | old
    · exact apart ht
    · exact fresh t ht old

theorem sort?_texts {l : List String} (distinct : l.Nodup) :
    sort? (l.map .text) = some ((ValueSet.ofList l).members.map .text) :=
  foldlM_insertSorted?_texts .empty distinct fun _ _ => List.not_mem_nil

theorem distinct_texts (l : List String) :
    ∃ kept : List String, distinct (l.map .text) = kept.map .text ∧ kept.Nodup ∧
      ∀ s, s ∈ kept ↔ s ∈ l := by
  have represent := represent_distinct (l.map .text)
  have texts : ∀ d ∈ distinct (l.map .text), d ∈ Set.range Datum.text := fun d hd => by
    obtain ⟨s, -, same⟩ := List.mem_map.mp (represent.members d hd)
    exact ⟨s, same⟩
  have listed : distinct (l.map .text) ∈ Set.range (List.map Datum.text) := by
    rw [Set.range_list_map]
    exact texts
  obtain ⟨kept, same⟩ := listed
  rw [← same] at represent
  refine ⟨kept, same.symm, ?_, fun s => ⟨fun member => ?_, fun member => ?_⟩⟩
  · refine (List.pairwise_map.mp represent.apart).imp fun {a b} apart equal => ?_
    rw [equal, sameKey_text.mpr rfl] at apart
    cases apart
  · have kept := represent.members (.text s) (List.mem_map_of_mem member)
    simpa using kept
  · obtain ⟨e, member, same⟩ := represent.covered (.text s) (List.mem_map_of_mem member)
    obtain rfl : e = .text s := same.elim id sameKey_text.mp
    simpa using member

theorem sort?_distinct_texts (l : List String) :
    sort? (distinct (l.map .text)) = some ((sortedTexts l).map .text) := by
  obtain ⟨kept, same, nodup, members⟩ := distinct_texts l
  have ordered : (ValueSet.ofList kept).members = sortedTexts l :=
    eq_of_ascending (ValueSet.ofList kept).ascending (sortedTexts_ascending l) fun s =>
      ValueSet.mem_ofList.trans ((members s).trans mem_sortedTexts.symm)
  rw [same, sort?_texts nodup, ordered]

end Datum

namespace Overrides

variable {κ : Type} (ofName? : String → Option κ) (members : List (String × Datum))

def strays : List String :=
  (members.map Prod.fst).filter fun s => (ofName? s).isNone

theorem unknown_texts (names : List String) : unknown ofName? (names.map .text) =
    Datum.distinct ((names.filter fun s => (ofName? s).isNone).map .text) := by
  rw [unknown, List.filter_map]
  rfl

/-- Unknown names are reported before any list is looked at. -/
theorem read_of_strays (title : String) (some : strays ofName? members ≠ []) :
    read title ofName? (.ofMembers members) =
      .error (.unknownCategories title ((sortedTexts (strays ofName? members)).map .text)) := by
  have names : (Datum.ofMembers members).setMembers =
      .ok ((members.map Prod.fst).map .text) := by
    refine Datum.setMembers_dict.mpr ⟨List.forall_mem_map.mpr fun m _ => ⟨.text m.1, rfl⟩, ?_⟩
    rw [List.map_map, List.map_map]
    rfl
  have found : unknown ofName? ((members.map Prod.fst).map .text) ≠ [] := by
    rwa [unknown_texts, Ne, Datum.distinct_eq_nil, List.map_eq_nil_iff]
  have sorted : Datum.sort? (unknown ofName? ((members.map Prod.fst).map .text)) =
      Option.some ((sortedTexts (strays ofName? members)).map .text) := by
    rw [unknown_texts, Datum.sort?_distinct_texts]
    rfl
  obtain ⟨n, r, unknown⟩ := List.exists_cons_of_ne_nil found
  rw [unknown] at sorted
  simp only [read, names, unknown, sorted, bind, Except.bind]

end Overrides

/-- What holds of the overrides of a kind of table, which has a title and names of its categories: two that
are accepted do in a row what their members do together; each category then has the texts of the second,
if this names it, else those of the first, else those it had; if the two name different categories, they
do so in either order; whether one is accepted, and how it is refused, does not depend on the table; and
of one with unknown names these are reported, in order and each once, whatever the values are. -/
structure Composable {T κ : Type} [DecidableEq κ] (K : TableKind T κ) (title : String)
    (ofName? : String → Option κ) (override : T → Datum → Except Fault T) : Prop where
  composes : ∀ b o p, (∃ t, override b o = .ok t) → (∃ s, override b p = .ok s) →
    ∃ t u, override b o = .ok t ∧ override t p = .ok u ∧ override b (o.updatedBy p) = .ok u
  replaces : ∀ b o p t u, override b o = .ok t → override t p = .ok u → ∀ k,
    K.texts u k = (((p.member? (K.name k)).or (o.member? (K.name k))).map fun values =>
      K.kept k values.texts).getD (K.texts b k)
  commutes : ∀ b o p, (∃ t, override b o = .ok t) → (∃ s, override b p = .ok s) →
    (∀ name, o.member? name = none ∨ p.member? name = none) →
    ∃ t s u, override b o = .ok t ∧ override t p = .ok u ∧
      override b p = .ok s ∧ override s o = .ok u
  acceptance : ∀ a b o, (∃ t, override a o = .ok t) ↔ ∃ t, override b o = .ok t
  refusal : ∀ a b o f, override a o = .error f ↔ override b o = .error f
  strays : ∀ b members, Overrides.strays ofName? members ≠ [] →
    override b (.ofMembers members) = .error (.unknownCategories title
      ((sortedTexts (Overrides.strays ofName? members)).map .text))

namespace TableKind

variable {T κ : Type} [DecidableEq κ] (K : TableKind T κ)

theorem acceptance (title : String) (a b : T) (o : Datum) :
    (∃ t, K.overriddenBy title a o = .ok t) ↔ ∃ t, K.overriddenBy title b o = .ok t := by
  rw [K.accepted_iff, K.accepted_iff]

theorem overriddenBy_error_iff {title : String} {b : T} {o : Datum} {f : Fault} :
    K.overriddenBy title b o = .error f ↔ Overrides.read title K.ofName? o = .error f := by
  rw [overriddenBy]
  cases Overrides.read title K.ofName? o <;> simp [Except.map]

theorem composable (title : String) : Composable K title K.ofName? (K.overriddenBy title) where
  composes b o p first second := by
    obtain ⟨t, first⟩ := first
    obtain ⟨u, next⟩ := (K.acceptance title b t p).mp second
    obtain ⟨v, both⟩ := (K.accepted_iff title b (o.updatedBy p)).mpr
      (((K.accepted_iff title b o).mp ⟨t, first⟩).updatedBy ((K.accepted_iff title b p).mp second))
    obtain rfl := K.eq_of_overridden first next both
    exact ⟨t, u, first, next, both⟩
  replaces _ _ _ _ _ first second := K.texts_overriddenBy_twice first second
  commutes b o p first second apart := by
    obtain ⟨t, first⟩ := first
    obtain ⟨s, second⟩ := second
    obtain ⟨u, next⟩ := (K.acceptance title b t p).mp ⟨s, second⟩
    obtain ⟨w, last⟩ := (K.acceptance title b s o).mp ⟨t, first⟩
    obtain rfl := K.eq_of_apart apart first next second last
    exact ⟨t, s, u, first, next, second, last⟩
  acceptance := K.acceptance title
  refusal a b o f := K.overriddenBy_error_iff.trans K.overriddenBy_error_iff.symm
  strays b members some :=
    K.overriddenBy_error_iff.mpr (Overrides.read_of_strays K.ofName? members title some)

end TableKind

/-- Overrides of both tables compose, and are accepted or refused whatever the table. -/
theorem overrides_compose :
    Composable Categories.kind "TagCategoryTables" Tier.ofName? Categories.overriddenBy ∧
      Composable Vocabulary.kind "PedestrianDefaults" Term.ofName? Vocabulary.overriddenBy :=
  ⟨Categories.kind.composable _, Vocabulary.kind.composable _⟩

def pavingOverride : Datum :=
  .dict [(.text "preferred_surfaces", .list [.text "sett"]),
    (.text "inaccessible_surfaces", .set [.text "sand"])]

def strayOverride : List (String × Datum) :=
  [("surfaces", .list []), ("potential_barriers", .text "gate"), ("barriers", .null)]

theorem pavingOverride_composed :
    (∃ t u, Categories.standard.overriddenBy sandOverride = .ok t ∧
      t.overriddenBy pavingOverride = .ok u ∧
      Categories.standard.overriddenBy (sandOverride.updatedBy pavingOverride) = .ok u ∧
      (u.tier .inaccessibleSurfaces).members = ["sand"]) ∧
    ∀ b : Categories, b.overriddenBy (.ofMembers strayOverride) =
      .error (.unknownCategories "TagCategoryTables" [.text "barriers", .text "surfaces"]) := by
  obtain ⟨tiers, -⟩ := overrides_compose
  obtain ⟨t, u, first, second, both⟩ := tiers.composes Categories.standard sandOverride pavingOverride
    ⟨_, rfl⟩ ⟨_, rfl⟩
  have replaced : (u.tier .inaccessibleSurfaces).members = sortedTexts ["sand"] :=
    tiers.replaces _ _ _ _ _ first second .inaccessibleSurfaces
  have alone : sortedTexts ["sand"] = ["sand"] := by
    rw [← ValueSet.members_ofList]
    rfl
  refine ⟨⟨t, u, first, second, both, replaced.trans alone⟩, fun b => ?_⟩
  have sorted : sortedTexts (Overrides.strays Tier.ofName? strayOverride) =
      ["barriers", "surfaces"] := by
    rw [← ValueSet.members_ofList]
    decide
  rw [tiers.strays b strayOverride (by decide), sorted]
  rfl

end StepFree
