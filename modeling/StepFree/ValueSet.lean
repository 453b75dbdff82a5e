namespace StepFree

def insertAscending (v : String) : List String → List String
  | [] => [v]
  | x :: r =>
    if v < x then v :: x :: r
    else if v = x then x :: r
    else x :: insertAscending v r

theorem mem_insertAscending {v w : String} {l : List String} :
    w ∈ insertAscending v l ↔ w = v ∨ w ∈ l := by
  induction l with
  | nil => simp [insertAscending]
  | cons x r ih =>
    unfold insertAscending
    split
    · simp
    · split
      · rename_i h
        simp [h]
      · simp only [List.mem_cons, ih]
        grind

theorem insertAscending_ascending (v : String) {l : List String} (h : l.Pairwise (· < ·)) :
    (insertAscending v l).Pairwise (· < ·) := by
  induction l with
  | nil => simp [insertAscending]
  | cons x r ih =>
    obtain ⟨hx, hr⟩ := List.pairwise_cons.mp h
    unfold insertAscending
    split
    · rename_i hv
      refine List.pairwise_cons.mpr ⟨fun w hw => ?_, h⟩
      rcases List.mem_cons.mp hw with rfl | hw
      · exact hv
      · exact String.lt_trans hv (hx w hw)
    · split
      · exact h
      · refine List.pairwise_cons.mpr ⟨fun w hw => ?_, ih hr⟩
        rcases mem_insertAscending.mp hw with rfl | hw
        · grind
        · exact hx w hw

structure ValueSet where
  members : List String
  ascending : members.Pairwise (· < ·)
  deriving DecidableEq

namespace ValueSet

def empty : ValueSet := ⟨[], .nil⟩

instance : Inhabited ValueSet := ⟨empty⟩

instance : Membership String ValueSet := ⟨fun s v => v ∈ s.members⟩

instance (v : String) (s : ValueSet) : Decidable (v ∈ s) :=
  inferInstanceAs (Decidable (v ∈ s.members))

def insert (s : ValueSet) (v : String) : ValueSet :=
  ⟨insertAscending v s.members, insertAscending_ascending v s.ascending⟩

def ofList (values : List String) : ValueSet :=
  values.foldl insert empty

def union (s t : ValueSet) : ValueSet :=
  t.members.foldl insert s

def contains (s : ValueSet) (v : String) : Bool :=
  decide (v ∈ s)

theorem mem_insert {s : ValueSet} {v w : String} : w ∈ s.insert v ↔ w = v ∨ w ∈ s :=
  mem_insertAscending

theorem mem_foldl_insert {values : List String} {s : ValueSet} {w : String} :
    w ∈ values.foldl insert s ↔ w ∈ values ∨ w ∈ s := by
  induction values generalizing s with
  | nil => simp
  | cons v r ih =>
    rw [List.foldl_cons, ih, mem_insert, List.mem_cons]
    grind

theorem mem_ofList {values : List String} {w : String} : w ∈ ofList values ↔ w ∈ values := by
  rw [ofList, mem_foldl_insert]
  exact or_iff_left List.not_mem_nil

theorem mem_union {s t : ValueSet} {w : String} : w ∈ s.union t ↔ w ∈ s ∨ w ∈ t := by
  rw [union, mem_foldl_insert, or_comm]
  exact Iff.rfl

end ValueSet
end StepFree
