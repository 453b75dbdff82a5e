import StepFree.Network.Attributes

namespace StepFree.Attributes

theorem get?_cons (e : String × Datum) (a : Attributes) (name : String) :
    get? (e :: a) name = if e.1 = name then some e.2 else get? a name := by
  by_cases h : e.1 = name <;> simp [get?, h]

theorem get?_set (a : Attributes) (name other : String) (value : Datum) :
    (a.set name value).get? other = if name = other then some value else a.get? other := by
  induction a with
  | nil => simp [set, get?_cons]
  | cons e r ih =>
    simp only [set]
    by_cases here : e.1 = name
    · rw [if_pos here, get?_cons, get?_cons, here]
      by_cases h : name = other <;> simp [h]
    · rw [if_neg here, get?_cons, get?_cons, ih]
      by_cases h : e.1 = other
      · rw [if_pos h, if_neg (fun same => here (h.trans same.symm)), if_pos h]
      · rw [if_neg h, if_neg h]

theorem set_set (a : Attributes) (name : String) (old value : Datum) :
    (a.set name old).set name value = a.set name value := by
  induction a with
  | nil => simp [set]
  | cons e r ih =>
    by_cases here : e.1 = name
    · simp [set, here]
    · simp only [set, if_neg here, ih]

theorem set_comm {a : Attributes} {name other : String} (different : name ≠ other)
    (present : (a.get? other).isSome = true) (value anew : Datum) :
    (a.set name value).set other anew = (a.set other anew).set name value := by
  induction a with
  | nil => cases present
  | cons e r ih =>
    rw [get?_cons] at present
    by_cases here : e.1 = name
    · have elsewhere : e.1 ≠ other := here ▸ different
      simp only [set, if_pos here, if_neg elsewhere, if_neg different]
    · by_cases there : e.1 = other
      · simp only [set, if_neg here, if_pos there, if_neg (Ne.symm different)]
      · rw [if_neg there] at present
        simp only [set, if_neg here, if_neg there, ih present]

theorem get?_update_of_not_mem {b : Attributes} {name : String} (absent : name ∉ b.map Prod.fst)
    (a : Attributes) : (a.update b).get? name = a.get? name := by
  induction b generalizing a with
  | nil => rfl
  | cons e r ih =>
    rw [List.map_cons, List.mem_cons, not_or] at absent
    have step := get?_set a e.1 name e.2
    rw [if_neg (Ne.symm absent.1)] at step
    exact (ih absent.2 _).trans step

theorem get?_update_of_mem {b : Attributes} (different : (b.map Prod.fst).Nodup)
    (a : Attributes) {e : String × Datum} (he : e ∈ b) : (a.update b).get? e.1 = some e.2 := by
  induction b generalizing a with
  | nil => cases he
  | cons d r ih =>
    rw [List.map_cons, List.nodup_cons] at different
    rcases List.mem_cons.mp he with rfl | he
    · have step := get?_set a e.1 e.1 e.2
      rw [if_pos rfl] at step
      exact (get?_update_of_not_mem different.1 _).trans step
    · exact ih different.2 _ he

theorem set_update {b : Attributes} {name : String} (absent : name ∉ b.map Prod.fst)
    {a : Attributes} (present : (a.get? name).isSome = true) (value : Datum) :
    (a.update b).set name value = (a.set name value).update b := by
  induction b generalizing a with
  | nil => rfl
  | cons e r ih =>
    rw [List.map_cons, List.mem_cons, not_or] at absent
    have kept : ((a.set e.1 e.2).get? name).isSome = true := by
      rw [get?_set, if_neg (Ne.symm absent.1)]
      exact present
    have step := set_comm (Ne.symm absent.1) present e.2 value
    calc ((a.set e.1 e.2).update r).set name value
      _ = ((a.set e.1 e.2).set name value).update r := ih absent.2 kept
      _ = ((a.set name value).set e.1 e.2).update r := by rw [step]

theorem update_update {b c : Attributes} (names : b.map Prod.fst = c.map Prod.fst)
    (different : (b.map Prod.fst).Nodup) (a : Attributes) :
    (a.update b).update c = a.update c := by
  induction b generalizing a c with
  | nil =>
    cases c with
    | nil => rfl
    | cons d r => cases names
  | cons e r ih =>
    cases c with
    | nil => cases names
    | cons d q =>
      obtain ⟨name, names⟩ := List.cons.inj names
      obtain ⟨fresh, different⟩ := List.nodup_cons.mp different
      have present : ((a.set e.1 e.2).get? e.1).isSome = true := by
        rw [get?_set, if_pos rfl]
        rfl
      calc (((a.set e.1 e.2).update r).set d.1 d.2).update q
        _ = (((a.set e.1 e.2).update r).set e.1 d.2).update q := by rw [name]
        _ = (((a.set e.1 e.2).set e.1 d.2).update r).update q := by
          rw [set_update fresh present]
        _ = ((a.set d.1 d.2).update r).update q := by rw [set_set, name]
        _ = (a.set d.1 d.2).update q := ih names different _

def Written (name : String) : Prop :=
  name ∈ nonTags ∧ name ≠ "osmid"

theorem filter_set {name : String} (keep : String → Bool) (hidden : keep name = false)
    (a : Attributes) (value : Datum) :
    (a.set name value).filter (fun e => keep e.1) = a.filter fun e => keep e.1 := by
  induction a with
  | nil => simp [set, hidden]
  | cons e r ih =>
    simp only [set]
    by_cases here : e.1 = name
    · rw [if_pos here, List.filter_cons, List.filter_cons, here, hidden]
      rfl
    · rw [if_neg here, List.filter_cons, List.filter_cons, ih]

theorem tagged_set {name : String} (written : Written name) (a : Attributes) (value : Datum) :
    (a.set name value).tagged = a.tagged := by
  have id := get?_set a name "osmid" value
  rw [if_neg written.2] at id
  have tags := filter_set (fun k => !nonTags.contains k) (by simpa using written.1) a value
  rw [tagged, id, tags, tagged]

theorem tagged_update {b : Attributes} (written : ∀ e ∈ b, Written e.1) (a : Attributes) :
    (a.update b).tagged = a.tagged := by
  induction b generalizing a with
  | nil => rfl
  | cons e r ih =>
    have head := tagged_set (written e List.mem_cons_self) a e.2
    have tail := ih (fun d hd => written d (List.mem_cons_of_mem e hd)) (a.set e.1 e.2)
    exact tail.trans head

theorem names_ofWay (r : WayResult) :
    (ofWay r).map Prod.fst = [access, speed, priority, priorityFactor, relationBonus] :=
  rfl

theorem written_of_mem_results {name : String} (h : name ∈ results) : Written name := by
  constructor
  · exact List.mem_append_right _ h
  · rintro rfl
    exact absurd h (by decide)

variable (a : Attributes) (r : WayResult)

theorem tagged_writeWay : (a.writeWay r).tagged = a.tagged := by
  apply tagged_update
  intro e he
  apply written_of_mem_results
  have name : e.1 ∈ (ofWay r).map Prod.fst := List.mem_map_of_mem he
  rw [names_ofWay] at name
  exact List.mem_append_left [blocked] name

theorem tagged_writeNode (isBlocked : Bool) : (a.writeNode isBlocked).tagged = a.tagged :=
  tagged_set (written_of_mem_results (by decide)) a _

theorem get?_writeWay {e : String × Datum} (he : e ∈ ofWay r) :
    (a.writeWay r).get? e.1 = some e.2 := by
  apply get?_update_of_mem _ a he
  rw [names_ofWay]
  decide

theorem access_writeWay : (a.writeWay r).get? access = some (.text r.verdict.name) :=
  get?_writeWay a r (e := (access, .text r.verdict.name)) List.mem_cons_self

theorem writeWay_writeWay (last : WayResult) :
    (a.writeWay r).writeWay last = a.writeWay last := by
  apply update_update
  · rw [names_ofWay, names_ofWay]
  · rw [names_ofWay]
    decide

theorem writeNode_writeNode (isBlocked last : Bool) :
    (a.writeNode isBlocked).writeNode last = a.writeNode last :=
  set_set a blocked _ _

end StepFree.Attributes
