import StepFree.Datum.Key
import StepFree.Datum.Order

/-! Which data can be sorted. Scalars come in three families, and two of them compare if both are
numbers or both are texts. Sorting succeeds if each two members compare. Of members without
repetitions that says no more than that they are of one family, for null can then stand there only
once. -/
namespace StepFree

inductive Family where
  | nothing
  | number
  | text
  deriving DecidableEq

def Key.family? : Key → Option Family
  | .null => some .nothing
  | .whole _ | .real _ => some .number
  | .text _ => some .text
  | .unit | .pair .. => none

namespace Datum

def family? : Datum → Option Family
  | .null => some .nothing
  | .bool _ | .int _ | .float _ => some .number
  | .text _ => some .text
  | _ => none

def IsScalar (d : Datum) : Prop :=
  d.family?.isSome = true

def Comparable (a b : Datum) : Prop :=
  ∃ f, f ≠ Family.nothing ∧ a.family? = some f ∧ b.family? = some f

section
variable {a b c : Datum} {f : Family}

theorem Comparable.symm (ab : Comparable a b) : Comparable b a :=
  have ⟨f, ordered, fa, fb⟩ := ab
  ⟨f, ordered, fb, fa⟩

theorem Comparable.trans (ab : Comparable a b) (bc : Comparable b c) : Comparable a c := by
  obtain ⟨f, ordered, fa, fb⟩ := ab
  obtain ⟨g, -, gb, gc⟩ := bc
  exact ⟨f, ordered, fa, Option.some.inj (gb.symm.trans fb) ▸ gc⟩

theorem less?_isSome_iff (scalar : a.IsScalar) (scalar' : b.IsScalar) :
    (less? a b).isSome = true ↔ Comparable a b := by
  cases a <;> cases scalar <;> cases b <;> cases scalar' <;>
    simp [Comparable, less?, number?, family?]

theorem key_of_family (scalar : a.family? = some f) :
    ∃ k, a.key? = some k ∧ k.family? = some f := by
  cases a with
  | null | bool | int | text => exact ⟨_, rfl, scalar⟩
  | float x =>
    refine ⟨numberKey x, rfl, ?_⟩
    rw [numberKey, ← scalar]
    split <;> rfl
  | list | tuple | set | dict => cases scalar

theorem family?_eq_of_sameKey (scalar : a.IsScalar) (scalar' : b.IsScalar)
    (same : a.sameKey b = true) : a.family? = b.family? := by
  obtain ⟨f, fa⟩ := Option.isSome_iff_exists.mp scalar
  obtain ⟨g, gb⟩ := Option.isSome_iff_exists.mp scalar'
  obtain ⟨j, ja, fj⟩ := key_of_family fa
  obtain ⟨k, kb, gk⟩ := key_of_family gb
  simp only [sameKey, ja, kb, Key.same_iff] at same
  rw [fa, gb, ← fj, ← gk, same.1]

theorem comparable_of_family (fa : a.family? = some f) (fb : b.family? = some f)
    (apart : a.sameKey b = false) : Comparable a b := by
  refine ⟨f, ?_, fa, fb⟩
  rintro rfl
  cases a <;> cases fa
  cases b <;> cases fb
  cases apart

end

section
variable {d : Datum} {items sorted : List Datum}

theorem insertSorted?_perm {next : List Datum} (inserted : insertSorted? d sorted = some next) :
    next.Perm (d :: sorted) := by
  induction sorted generalizing next with
  | nil =>
    cases inserted
    exact List.Perm.refl _
  | cons x r ih =>
    obtain ⟨less, -, inserted⟩ := Option.bind_eq_some_iff.mp inserted
    cases less with
    | true =>
      cases inserted
      exact List.Perm.refl _
    | false =>
      obtain ⟨rest, later, same⟩ := Option.bind_eq_some_iff.mp inserted
      cases same
      exact ((ih later).cons x).trans (List.Perm.swap d x r)

theorem insertSorted?_isSome_iff (scalar : d.IsScalar) (scalars : ∀ x ∈ sorted, x.IsScalar)
    (comparable : sorted.Pairwise Comparable) :
    (insertSorted? d sorted).isSome = true ↔ ∀ x ∈ sorted, Comparable d x := by
  induction sorted with
  | nil => exact iff_of_true rfl (List.forall_mem_nil _)
  | cons x r ih =>
    obtain ⟨scalar', scalars⟩ := List.forall_mem_cons.mp scalars
    obtain ⟨first, comparable⟩ := List.pairwise_cons.mp comparable
    constructor
    · intro inserted
      have here : Comparable d x := by
        refine (less?_isSome_iff scalar scalar').mp ?_
        cases less : less? d x with
        | none => simp [insertSorted?, less] at inserted
        | some _ => rfl
      exact List.forall_mem_cons.mpr ⟨here, fun y hy => here.trans (first y hy)⟩
    · intro all
      obtain ⟨here, rest⟩ := List.forall_mem_cons.mp all
      obtain ⟨less, compared⟩ :=
        Option.isSome_iff_exists.mp ((less?_isSome_iff scalar scalar').mpr here)
      obtain ⟨next, inserted⟩ :=
        Option.isSome_iff_exists.mp ((ih scalars comparable).mpr rest)
      cases less <;> simp [insertSorted?, compared, inserted]

theorem foldlM_insertSorted?_isSome_iff (scalars : ∀ x ∈ sorted ++ items, x.IsScalar)
    (comparable : sorted.Pairwise Comparable) :
    (items.foldlM (fun sorted d => insertSorted? d sorted) sorted).isSome = true ↔
      (sorted ++ items).Pairwise Comparable := by
  induction items generalizing sorted with
  | nil => exact iff_of_true rfl ((List.append_nil sorted).symm ▸ comparable)
  | cons d r ih =>
    -- The member that comes next may as well stand in front of those that are sorted.
    have front : (sorted ++ d :: r).Perm (d :: sorted ++ r) := List.perm_middle
    have scalars' : ∀ x ∈ d :: sorted ++ r, x.IsScalar := fun x hx =>
      scalars x (front.mem_iff.mpr hx)
    have step := insertSorted?_isSome_iff (scalars' d List.mem_cons_self)
      (fun x hx => scalars x (List.mem_append_left _ hx)) comparable
    rw [front.pairwise_iff Comparable.symm, List.foldlM_cons]
    cases inserted : insertSorted? d sorted with
    | none =>
      rw [inserted] at step
      refine iff_of_false (fun h => nomatch h) fun all => nomatch step.mpr fun x hx => ?_
      exact List.rel_of_pairwise_cons all (List.mem_append_left r hx)
    | some next =>
      rw [inserted] at step
      have same := insertSorted?_perm inserted
      have whole := same.append_right r
      rw [← whole.pairwise_iff Comparable.symm]
      refine ih (fun x hx => scalars' x (whole.mem_iff.mp hx)) ?_
      rw [same.pairwise_iff Comparable.symm]
      exact List.pairwise_cons.mpr ⟨step.mp rfl, comparable⟩

theorem sort?_isSome_iff (scalars : ∀ d ∈ items, d.IsScalar) :
    (sort? items).isSome = true ↔ items.Pairwise Comparable :=
  foldlM_insertSorted?_isSome_iff scalars .nil

end

/-- Some of the members, so that no two are one key and every member is represented. -/
structure Represent (kept items : List Datum) : Prop where
  members : ∀ d ∈ kept, d ∈ items
  covered : ∀ d ∈ items, ∃ e ∈ kept, e = d ∨ e.sameKey d = true
  apart : kept.Pairwise fun a b => a.sameKey b = false

section
variable {kept items : List Datum}

theorem Represent.step (h : Represent kept items) (d : Datum) :
    Represent (if kept.any (·.sameKey d) then kept else kept ++ [d]) (items ++ [d]) := by
  split
  · next old =>
    obtain ⟨e, member, same⟩ := List.any_eq_true.mp old
    refine ⟨fun a ha => List.mem_append_left _ (h.members a ha), ?_, h.apart⟩
    exact List.forall_mem_append.mpr ⟨h.covered,
      List.forall_mem_singleton.mpr ⟨e, member, .inr same⟩⟩
  · next fresh =>
    have new : ∀ a ∈ kept, a.sameKey d = false := by simpa using fresh
    have last : d ∈ kept ++ [d] := List.mem_append_right _ List.mem_cons_self
    refine ⟨?members, ?covered, ?apart⟩
    case members =>
      exact List.forall_mem_append.mpr ⟨fun a ha => List.mem_append_left _ (h.members a ha),
        fun a ha => List.mem_append_right _ ha⟩
    case covered =>
      refine List.forall_mem_append.mpr
        ⟨fun a ha => ?_, List.forall_mem_singleton.mpr ⟨d, last, .inl rfl⟩⟩
      obtain ⟨e, member, same⟩ := h.covered a ha
      exact ⟨e, List.mem_append_left _ member, same⟩
    case apart =>
      exact List.pairwise_append.mpr ⟨h.apart, List.pairwise_singleton _ d, fun a ha =>
        List.forall_mem_singleton.mpr (new a ha)⟩

theorem Represent.run (h : Represent kept items) (more : List Datum) :
    Represent (more.foldl (fun seen d => if seen.any (·.sameKey d) then seen else seen ++ [d]) kept)
      (items ++ more) := by
  induction more generalizing kept items with
  | nil => exact (List.append_nil items).symm ▸ h
  | cons d r ih =>
    rw [List.append_cons]
    exact ih (h.step d)

theorem represent_distinct (items : List Datum) : Represent (distinct items) items :=
  Represent.run ⟨List.forall_mem_nil _, List.forall_mem_nil _, .nil⟩ items

theorem distinct_eq_nil : distinct items = [] ↔ items = [] := by
  constructor
  · intro none
    refine List.eq_nil_iff_forall_not_mem.mpr fun d hd => ?_
    obtain ⟨e, member, -⟩ := (represent_distinct items).covered d hd
    exact List.not_mem_nil (none ▸ member)
  · rintro rfl
    rfl

/-- The distinct members of a collection of scalars can be sorted if all are of one family. -/
theorem sort?_distinct_isSome_iff (scalars : ∀ d ∈ items, d.IsScalar) :
    (sort? (distinct items)).isSome = true ↔
      ∀ a ∈ items, ∀ b ∈ items, a.family? = b.family? := by
  have kept := represent_distinct items
  rw [sort?_isSome_iff fun d hd => scalars d (kept.members d hd)]
  constructor
  · intro comparable
    have one : ∀ ⦃a⦄, a ∈ distinct items → ∀ ⦃b⦄, b ∈ distinct items → a.family? = b.family? :=
      List.Pairwise.forall_of_forall_of_flip (fun _ _ => rfl)
        (comparable.imp fun ⟨_, _, fa, fb⟩ => fa.trans fb.symm)
        (comparable.imp fun ⟨_, _, fa, fb⟩ => fb.trans fa.symm)
    intro a ha b hb
    have family {d : Datum} (hd : d ∈ items) : ∃ e ∈ distinct items, e.family? = d.family? := by
      obtain ⟨e, member, rfl | same⟩ := kept.covered d hd
      · exact ⟨e, member, rfl⟩
      · have scalar := scalars e (kept.members e member)
        exact ⟨e, member, family?_eq_of_sameKey scalar (scalars d hd) same⟩
    obtain ⟨e, he, fe⟩ := family ha
    obtain ⟨e', he', fe'⟩ := family hb
    exact fe.symm.trans ((one he he').trans fe')
  · intro one
    refine kept.apart.imp_of_mem fun {a b} ha hb apart => ?_
    obtain ⟨f, fa⟩ := Option.isSome_iff_exists.mp (scalars a (kept.members a ha))
    have fb := (one a (kept.members a ha) b (kept.members b hb)).symm.trans fa
    exact comparable_of_family fa fb apart

end

end Datum
end StepFree
