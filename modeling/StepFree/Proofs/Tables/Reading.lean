import Mathlib.Data.List.Forall2
import StepFree.Proofs.Datum.Sorting
import StepFree.Tables.Overrides

namespace StepFree

namespace Datum

def texts (d : Datum) : List String :=
  (d.collection?.getD []).map plain

theorem forM_key_eq_ok_iff {items : List Datum} :
    items.forM (fun d => discard d.key) = .ok () ↔ ∀ d ∈ items, ∃ k, d.key = .ok k := by
  induction items with
  | nil => exact iff_of_true rfl (List.forall_mem_nil _)
  | cons d r ih =>
    change (discard d.key >>= fun _ => r.forM fun d => discard d.key) = .ok () ↔ _
    rw [bind_eq_ok_iff, List.forall_mem_cons, ← ih]
    constructor
    · rintro ⟨_, first, rest⟩
      obtain ⟨k, key, -⟩ := bind_eq_ok_iff.mp first
      exact ⟨⟨k, key⟩, rest⟩
    · rintro ⟨⟨k, key⟩, rest⟩
      exact ⟨(), by rw [key]; rfl, rest⟩

theorem setMembers_eq_ok_iff {d : Datum} {items names : List Datum} (other : ∀ s, d ≠ .set s)
    (elements : d.elements? = some items) :
    d.setMembers = .ok names ↔ (∀ i ∈ items, ∃ k, i.key = .ok k) ∧ names = items := by
  have checked : d.setMembers =
      (items.forM (fun i => discard i.key) >>= fun _ => Except.ok items) := by
    cases d with
    | set s => exact absurd rfl (other s)
    | null | bool | int | float => cases elements
    | list | tuple | text | dict =>
      cases elements
      rfl
  rw [checked, bind_eq_ok_iff]
  constructor
  · rintro ⟨_, passed, same⟩
    exact ⟨forM_key_eq_ok_iff.mp passed, (Except.ok.inj same).symm⟩
  · rintro ⟨keys, rfl⟩
    exact ⟨(), forM_key_eq_ok_iff.mpr keys, rfl⟩

theorem setMembers_dict {entries : List (Datum × Datum)} {names : List Datum} :
    (dict entries).setMembers = .ok names ↔
      (∀ e ∈ entries, ∃ k, e.1.key = .ok k) ∧ names = entries.map Prod.fst :=
  (setMembers_eq_ok_iff (d := dict entries) (fun _ h => nomatch h) rfl).trans
    (and_congr_left fun _ => List.forall_mem_map)

end Datum

namespace Overrides

variable {κ : Type} (ofName? : String → Option κ)

def Gives (e : Datum × Datum) (c : κ × List String) : Prop :=
  category? ofName? e.1 = some c.1 ∧ e.2.collection?.isSome = true ∧ c.2 = e.2.texts

theorem replacement_eq_ok_iff {name values : Datum} {k : κ} {c : κ × List String} :
    replacement name k values = .ok c ↔
      k = c.1 ∧ values.collection?.isSome = true ∧ c.2 = values.texts := by
  obtain ⟨j, texts⟩ := c
  cases found : values.collection? with
  | none => simp [replacement, found]
  | some items => simp [replacement, Datum.texts, found, eq_comm]

theorem unknown_eq_nil {names : List Datum} :
    unknown ofName? names = [] ↔ ∀ d ∈ names, (category? ofName? d).isSome = true := by
  simp [unknown, Datum.distinct_eq_nil, Option.isSome_iff_ne_none]

theorem mapM_replacement_eq_ok_iff {entries : List (Datum × Datum)} {changes : Replacements κ}
    (known : ∀ e ∈ entries, (category? ofName? e.1).isSome = true) :
    ((entries.filterMap fun e => (category? ofName? e.1).map (e, ·)).mapM fun (e, k) =>
      replacement e.1 k e.2) = Except.ok changes ↔
      List.Forall₂ (Gives ofName?) entries changes := by
  induction entries generalizing changes with
  | nil =>
    rw [List.forall₂_nil_left_iff]
    exact ⟨fun read => (Except.ok.inj read).symm, fun empty => empty ▸ rfl⟩
  | cons e r ih =>
    obtain ⟨here, rest⟩ := List.forall_mem_cons.mp known
    obtain ⟨k, category⟩ := Option.isSome_iff_exists.mp here
    simp only [List.filterMap_cons, category, Option.map_some, List.mapM_cons, bind_eq_ok_iff,
      ih rest, replacement_eq_ok_iff, List.forall₂_cons_left_iff, Gives, Option.some.injEq, pure,
      Except.pure, Except.ok.injEq]
    grind

theorem known_of_given {entries : List (Datum × Datum)} {changes : Replacements κ}
    (given : List.Forall₂ (Gives ofName?) entries changes) :
    ∀ e ∈ entries, (category? ofName? e.1).isSome = true := by
  induction given with
  | nil => exact List.forall_mem_nil _
  | cons head _ ih => exact List.forall_mem_cons.mpr ⟨Option.isSome_of_eq_some head.1, ih⟩

theorem text_of_category {d : Datum} (known : (category? ofName? d).isSome = true) :
    ∃ s, d = .text s := by
  cases d with
  | text s => exact ⟨s, rfl⟩
  | _ => cases known

theorem key_of_category {d : Datum} (known : (category? ofName? d).isSome = true) :
    ∃ k, d.key = .ok k := by
  obtain ⟨s, rfl⟩ := text_of_category ofName? known
  exact ⟨.text s, rfl⟩

/-- An override is accepted if it is a mapping and each of its entries gives a known category a list. -/
theorem read_eq_ok_iff {title : String} {d : Datum} {changes : Replacements κ} :
    read title ofName? d = .ok changes ↔
      ∃ entries, d = .dict entries ∧ List.Forall₂ (Gives ofName?) entries changes := by
  constructor
  · intro accepted
    obtain ⟨names, members, accepted⟩ := bind_eq_ok_iff.mp accepted
    cases strangers : unknown ofName? names with
    | cons n rest =>
      simp only [strangers] at accepted
      split at accepted <;> cases accepted
    | nil =>
      simp only [strangers] at accepted
      cases d with
      | dict entries =>
        have known := (unknown_eq_nil ofName?).mp strangers
        rw [(Datum.setMembers_dict.mp members).2, List.forall_mem_map] at known
        exact ⟨entries, rfl, (mapM_replacement_eq_ok_iff ofName? known).mp accepted⟩
      | _ => cases accepted
  · rintro ⟨entries, rfl, given⟩
    have known := known_of_given ofName? given
    have members := Datum.setMembers_dict.mpr
      ⟨fun e he => key_of_category ofName? (known e he), rfl⟩
    refine bind_eq_ok_iff.mpr ⟨_, members, ?_⟩
    simp only [(unknown_eq_nil ofName?).mpr (List.forall_mem_map.mpr known)]
    exact (mapM_replacement_eq_ok_iff ofName? known).mpr given

theorem exists_given_iff {entries : List (Datum × Datum)} :
    (∃ changes, List.Forall₂ (Gives ofName?) entries changes) ↔
      ∀ e ∈ entries, (category? ofName? e.1).isSome = true ∧ e.2.collection?.isSome = true := by
  induction entries with
  | nil => exact iff_of_true ⟨[], .nil⟩ (List.forall_mem_nil _)
  | cons e r ih =>
    rw [List.forall_mem_cons, ← ih]
    constructor
    · rintro ⟨_, given⟩
      cases given with
      | @cons _ c _ changes head given =>
        exact ⟨⟨Option.isSome_of_eq_some head.1, head.2.1⟩, changes, given⟩
    · rintro ⟨⟨known, collection⟩, changes, given⟩
      obtain ⟨k, category⟩ := Option.isSome_iff_exists.mp known
      exact ⟨(k, e.2.texts) :: changes, .cons ⟨category, collection, rfl⟩ given⟩

def IsReadable (d : Datum) : Prop :=
  ∃ entries, d = .dict entries ∧ ∀ e ∈ entries,
    (category? ofName? e.1).isSome = true ∧ e.2.collection?.isSome = true

theorem readable_iff (title : String) (d : Datum) :
    (∃ changes, read title ofName? d = .ok changes) ↔ IsReadable ofName? d := by
  constructor
  · rintro ⟨changes, accepted⟩
    obtain ⟨entries, same, given⟩ := (read_eq_ok_iff ofName?).mp accepted
    exact ⟨entries, same, (exists_given_iff ofName?).mp ⟨changes, given⟩⟩
  · rintro ⟨entries, same, collections⟩
    obtain ⟨changes, given⟩ := (exists_given_iff ofName?).mpr collections
    exact ⟨changes, (read_eq_ok_iff ofName?).mpr ⟨entries, same, given⟩⟩

end Overrides
end StepFree
