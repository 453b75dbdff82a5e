import StepFree.Proofs.Access.Evidence
import StepFree.Proofs.Tags.Likeness

namespace StepFree.Tags

def add (t : Tags) (key value : String) : Tags :=
  t.extend key ⟨value, []⟩

theorem first?_insert (t : Tags) (key k : String) (values : Values) :
    (t.insert key values).first? k = if k = key then some values.first else t.first? k := by
  simp only [first?, find?_insert]
  split <;> rfl

theorem mem_values_add {t : Tags} {key value k v : String} :
    v ∈ (t.add key value).values k ↔ v ∈ t.values k ∨ k = key ∧ v = value := by
  rw [add, values_extend]
  by_cases here : k = key
  · subst here
    simp [Values.toList]
  · simp [here]

theorem values_subset_add (t : Tags) (key value k : String) :
    t.values k ⊆ (t.add key value).values k :=
  fun _ kept => mem_values_add.mpr (.inl kept)

theorem values_add_subset {t : Tags} {key value k : String} (other : k ≠ key) :
    (t.add key value).values k ⊆ t.values k :=
  fun _ found => (mem_values_add.mp found).resolve_right fun h => other h.1

theorem Shows.mono {t u : Tags} {k : String} {accepted : ValueSet}
    (sub : t.values k ⊆ u.values k) (shows : t.Shows k accepted) : u.Shows k accepted := by
  obtain ⟨v, found, known⟩ := shows
  exact ⟨v, sub found, known⟩

theorem Shows.add {t : Tags} {k : String} {accepted : ValueSet} (shows : t.Shows k accepted)
    (key value : String) : (t.add key value).Shows k accepted :=
  shows.mono (t.values_subset_add key value k)

theorem carriesAny_mono {t u : Tags} {k : String} {accepted : ValueSet}
    (sub : t.values k ⊆ u.values k) (carried : t.carriesAny k accepted = true) :
    u.carriesAny k accepted = true := by
  rw [carriesAny_eq_true] at carried ⊢
  exact carried.mono sub

theorem carries_mono {t u : Tags} {k v : String} (sub : t.values k ⊆ u.values k)
    (carried : t.carries k v = true) : u.carries k v = true := by
  rw [carries_eq_true] at carried ⊢
  exact sub carried

theorem Shows.of_add {t : Tags} {key value k : String} {accepted : ValueSet}
    (shows : (t.add key value).Shows k accepted) (unasked : k = key → value ∉ accepted) :
    t.Shows k accepted := by
  obtain ⟨v, found, known⟩ := shows
  rcases mem_values_add.mp found with kept | ⟨here, rfl⟩
  · exact ⟨v, kept, known⟩
  · exact absurd known (unasked here)

theorem carriesAny_add_unasked {t : Tags} {key value k : String} {accepted : ValueSet}
    (unasked : k = key → value ∉ accepted) :
    (t.add key value).carriesAny k accepted = t.carriesAny k accepted := by
  rw [Bool.eq_iff_iff, carriesAny_eq_true, carriesAny_eq_true]
  exact ⟨fun shows => shows.of_add unasked, fun shows => shows.add key value⟩

theorem sameValues_add (t : Tags) {key k : String} (value : String) (other : k ≠ key) :
    (t.add key value).SameValues t k := by
  intro v
  rw [mem_values_add, or_iff_left fun here => other here.1]

theorem values_insert_other (t : Tags) {key k : String} (values : Values) (other : k ≠ key) :
    (t.insert key values).values k = t.values k := by
  apply values_of_find?
  rw [find?_insert, if_neg other]

theorem carriesAny_add (t : Tags) (key value : String) (accepted : ValueSet) :
    (t.add key value).carriesAny key accepted =
      (t.carriesAny key accepted || accepted.contains value) := by
  rw [Bool.eq_iff_iff, Bool.or_eq_true, carriesAny_iff, carriesAny_iff, ValueSet.contains,
    decide_eq_true_eq]
  simp only [mem_values_add, true_and, or_and_right, exists_or, exists_eq_left]

end StepFree.Tags
