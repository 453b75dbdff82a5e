import StepFree.Datum.Key

namespace StepFree.Datum

theorem key?_eq_text {d : Datum} {s : String} : d.key? = some (.text s) ↔ d = .text s := by
  constructor
  · intro key
    cases d with
    | text t => cases key; rfl
    | float x =>
      rw [key?, numberKey] at key
      split at key <;> cases key
    | tuple items =>
      rw [key?, chain?.eq_def] at key
      split at key
      · cases key
      · split at key <;> cases key
    | _ => cases key
  · rintro rfl
    rfl

theorem sameKey_text {d : Datum} {s : String} : d.sameKey (.text s) = true ↔ d = .text s := by
  rw [← key?_eq_text, sameKey]
  cases d.key? with
  | none => exact iff_of_false Bool.false_ne_true (fun h => nomatch h)
  | some k =>
    rw [Option.some.injEq]
    refine Key.same_iff.trans ⟨And.left, ?_⟩
    rintro rfl
    exact ⟨rfl, rfl⟩

section
variable {P Q : Datum → Prop} {entries more : List (Datum × Datum)} {key value : Datum}
  (held : ∀ e ∈ entries, P e.1 ∧ Q e.2)

include held

theorem forall_mem_enter (new : P key ∧ Q value) :
    ∀ e ∈ enter entries key value, P e.1 ∧ Q e.2 := by
  rw [enter]
  split
  · refine List.forall_mem_map.mpr fun e he => ?_
    split
    · exact ⟨(held e he).1, new.2⟩
    · exact held e he
  · exact List.forall_mem_append.mpr ⟨held, List.forall_mem_singleton.mpr new⟩

theorem forall_mem_foldl_enter (new : ∀ e ∈ more, P e.1 ∧ Q e.2) :
    ∀ e ∈ more.foldl (fun entries e => enter entries e.1 e.2) entries, P e.1 ∧ Q e.2 := by
  induction more generalizing entries with
  | nil => exact held
  | cons e r ih =>
    obtain ⟨first, rest⟩ := List.forall_mem_cons.mp new
    exact ih (forall_mem_enter held first) rest

end

end StepFree.Datum
