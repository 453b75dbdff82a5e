import StepFree.Tags.Basic

namespace StepFree

theorem lookupEntry_eq_none {key : String} {l : List (String × Values)}
    (absent : key ∉ l.map Prod.fst) : lookupEntry key l = none := by
  induction l with
  | nil => rfl
  | cons e r ih =>
    rw [List.map_cons, List.mem_cons, not_or] at absent
    rw [lookupEntry, if_neg (Ne.symm absent.1)]
    exact ih absent.2

namespace Tags

def extend (t : Tags) (key : String) (more : Values) : Tags :=
  t.insert key <| match t.find? key with
    | none => more
    | some old => ⟨old.first, old.rest ++ more.toList⟩

theorem values_extend (t : Tags) (key k : String) (more : Values) :
    (t.extend key more).values k =
      if k = key then t.values key ++ more.toList else t.values k := by
  simp only [values, extend, find?_insert]
  by_cases h : k = key
  · cases t.find? key <;> simp [h, Values.toList]
  · simp only [h, if_false]

def merge (a b : Tags) : Tags :=
  b.entries.foldl (fun t e => t.extend e.1 e.2) a

theorem values_foldl_extend (l : List (String × Values)) (distinct : (l.map Prod.fst).Nodup)
    (t : Tags) (k : String) :
    (l.foldl (fun t e => t.extend e.1 e.2) t).values k =
      t.values k ++ ((lookupEntry k l).map Values.toList).getD [] := by
  induction l generalizing t with
  | nil => simp [lookupEntry]
  | cons e r ih =>
    rw [List.map_cons, List.nodup_cons] at distinct
    rw [List.foldl_cons, ih distinct.2, values_extend, lookupEntry]
    by_cases h : e.1 = k
    · subst h
      simp [lookupEntry_eq_none distinct.1]
    · rw [if_neg h, if_neg (Ne.symm h)]

theorem values_merge (a b : Tags) (k : String) :
    (a.merge b).values k = a.values k ++ b.values k :=
  values_foldl_extend b.entries b.distinct a k

end Tags

theorem lookupEntry_eq_some {l : List (String × Values)} (distinct : (l.map Prod.fst).Nodup)
    {key : String} {values : Values} :
    lookupEntry key l = some values ↔ (key, values) ∈ l := by
  induction l with
  | nil => simp [lookupEntry]
  | cons e r ih =>
    obtain ⟨k, old⟩ := e
    obtain ⟨fresh, rest⟩ := List.nodup_cons.mp distinct
    rw [lookupEntry, List.mem_cons, Prod.mk.injEq]
    by_cases here : k = key
    · subst here
      have absent : (k, values) ∉ r := by
        intro again
        have key : k ∈ r.map Prod.fst := List.mem_map_of_mem again
        exact fresh key
      simp [absent, eq_comm]
    · rw [if_neg here, ih rest]
      simp [Ne.symm here]

namespace Tags

theorem find?_eq_some {t : Tags} {key : String} {values : Values} :
    t.find? key = some values ↔ (key, values) ∈ t.entries :=
  lookupEntry_eq_some t.distinct

variable {t u : Tags} {key : String}

theorem find?_perm (same : t.entries.Perm u.entries) (key : String) :
    t.find? key = u.find? key := by
  apply Option.ext
  intro values
  rw [find?_eq_some, find?_eq_some, same.mem_iff]

theorem values_of_find? (same : t.find? key = u.find? key) : t.values key = u.values key := by
  rw [values, values, same]

theorem first?_of_find? (same : t.find? key = u.find? key) : t.first? key = u.first? key := by
  rw [first?, first?, same]

/-- Whether a key has the same values in both, in any order and any number of times. -/
def SameValues (t u : Tags) (key : String) : Prop :=
  ∀ v, v ∈ t.values key ↔ v ∈ u.values key

theorem SameValues.of_find? (same : t.find? key = u.find? key) : SameValues t u key := by
  intro v
  rw [values_of_find? same]

section
variable (same : SameValues t u key)

include same

theorem SameValues.carries (value : String) : t.carries key value = u.carries key value := by
  rw [Bool.eq_iff_iff, Tags.carries, Tags.carries, List.contains_iff_mem, List.contains_iff_mem]
  exact same value

theorem SameValues.carriesAny (accepted : ValueSet) :
    t.carriesAny key accepted = u.carriesAny key accepted := by
  rw [Bool.eq_iff_iff, carriesAny_iff, carriesAny_iff]
  exact exists_congr fun v => and_congr_left fun _ => same v

theorem SameValues.has : t.has key = u.has key := by
  rw [Bool.eq_iff_iff, has_iff, has_iff]
  apply not_congr
  rw [List.eq_nil_iff_forall_not_mem, List.eq_nil_iff_forall_not_mem]
  exact forall_congr' fun v => not_congr (same v)

end

theorem anyCarries_congr {keys : List String} (same : ∀ k ∈ keys, SameValues t u k)
    (accepted : ValueSet) : t.anyCarries keys accepted = u.anyCarries keys accepted := by
  rw [Bool.eq_iff_iff, anyCarries, anyCarries, List.any_eq_true, List.any_eq_true]
  apply exists_congr
  intro k
  apply and_congr_right
  intro member
  rw [(same k member).carriesAny]

end Tags
end StepFree
