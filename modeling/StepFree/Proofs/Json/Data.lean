import StepFree.Fault
import StepFree.Json.Reader
import StepFree.Proofs.Datum.Entering

namespace StepFree

namespace Datum

/-- Data that JSON text can hold. -/
inductive IsJson : Datum → Prop where
  | null : IsJson .null
  | bool (b : Bool) : IsJson (.bool b)
  | int (n : Int) : IsJson (.int n)
  | float (x : Float) : IsJson (.float x)
  | text (s : String) : IsJson (.text s)
  | list {items : List Datum} (members : ∀ d ∈ items, IsJson d) : IsJson (.list items)
  | dict {entries : List (Datum × Datum)} (names : ∀ e ∈ entries, ∃ s, e.1 = .text s)
      (values : ∀ e ∈ entries, IsJson e.2) : IsJson (.dict entries)

def IsJsonEntry (e : Datum × Datum) : Prop :=
  (∃ s, e.1 = .text s) ∧ e.2.IsJson

theorem IsJson.of_entries {entries : List (Datum × Datum)} (json : ∀ e ∈ entries, IsJsonEntry e) :
    (Datum.dict entries).IsJson :=
  .dict (fun e he => (json e he).1) fun e he => (json e he).2

theorem ofPairs_isJson {pairs : List (Datum × Datum)} (json : ∀ e ∈ pairs, IsJsonEntry e) :
    (ofPairs pairs).IsJson :=
  .of_entries (forall_mem_foldl_enter (P := fun d => ∃ s, d = .text s) (Q := IsJson)
    (List.forall_mem_nil _) json)

end Datum

namespace Json

theorem number?_leaf {negative : Bool} {s rest : List Char} {d : Datum}
    (taken : number? negative s = some (.leaf d, rest)) : d.IsJson := by
  rw [number?] at taken
  split at taken
  split at taken
  split at taken
  split at taken
  · cases taken
  · split at taken
    · split at taken
      · cases taken
      · cases taken
        exact .int _
    · cases taken
      exact .float _

theorem words_isJson : ∀ w ∈ words, w.2.IsJson := by
  simp only [words, List.forall_mem_cons]
  exact ⟨.null, .bool _, .bool _, .float _, .float _, .float _, List.forall_mem_nil _⟩

theorem word?_leaf {s rest : List Char} {t : Token} (taken : word? s = some (t, rest)) :
    ∃ d, t = .leaf d ∧ d.IsJson := by
  obtain ⟨⟨w, d⟩, member, taken⟩ := List.exists_of_findSome?_eq_some taken
  dsimp only at taken
  split at taken
  · cases taken
    exact ⟨d, rfl, words_isJson (w, d) member⟩
  · cases taken

theorem token?_leaf {s rest : List Char} {d : Datum} (taken : token? s = some (.leaf d, rest)) :
    d.IsJson := by
  unfold token? at taken
  split at taken
  case h_8 =>
    obtain ⟨_, -, same⟩ := Option.map_eq_some_iff.mp taken
    cases same
    exact .text _
  case h_9 =>
    split at taken
    · next word =>
      cases taken
      obtain ⟨_, same, json⟩ := word?_leaf word
      cases same
      exact json
    · split at taken <;> exact number?_leaf taken
  all_goals cases taken

def LeavesJson (ts : List Token) : Prop :=
  ∀ d, Token.leaf d ∈ ts → d.IsJson

theorem LeavesJson.tail {t : Token} {ts : List Token} (leaves : LeavesJson (t :: ts)) :
    LeavesJson ts :=
  fun d hd => leaves d (List.mem_cons_of_mem t hd)

theorem tokens_leaves (n : Nat) (s : List Char) : LeavesJson (tokens n s) := by
  induction n generalizing s with
  | zero =>
    intro d hd
    rw [tokens] at hd
    split at hd
    · cases hd
    · cases List.mem_singleton.mp hd
  | succ n ih =>
    intro d hd
    rw [tokens] at hd
    split at hd
    · cases hd
    · dsimp only at hd
      split at hd
      · cases List.mem_singleton.mp hd
      · next t r found =>
        rcases List.mem_cons.mp hd with rfl | hd
        · exact token?_leaf found
        · exact ih r d hd

/-- Whatever is read from tokens has a property, and the leaves of what is left are JSON data. -/
def Yields {α : Type} (P : α → Prop) (read : List Token → Except Flaw (α × List Token)) : Prop :=
  ∀ ts a r, LeavesJson ts → read ts = .ok (a, r) → P a ∧ LeavesJson r

structure ReadsJson (n : Nat) : Prop where
  value : Yields Datum.IsJson (value n)
  items : Yields (fun ds => ∀ d ∈ ds, Datum.IsJson d) (items n)
  members : Yields (fun es => ∀ e ∈ es, Datum.IsJsonEntry e) (members n)

section
variable {n : Nat} (inner : ReadsJson n)
include inner

theorem ReadsJson.value_succ : Yields Datum.IsJson (Json.value (n + 1)) := by
  intro ts d r leaves reading
  rw [Json.value.eq_def] at reading
  split at reading
  · cases reading
  · cases reading
  · next depth t rest same =>
    cases same
    split at reading
    · cases reading
      exact ⟨leaves _ List.mem_cons_self, leaves.tail⟩
    · cases reading
    · cases reading
      exact ⟨.list (List.forall_mem_nil _), leaves.tail.tail⟩
    · obtain ⟨⟨ds, r'⟩, later, same⟩ := exists_of_map_eq_ok reading
      cases same
      obtain ⟨json, left⟩ := inner.items _ _ _ leaves.tail later
      exact ⟨.list json, left⟩
    · cases reading
      exact ⟨.of_entries (List.forall_mem_nil _), leaves.tail.tail⟩
    · obtain ⟨⟨es, r'⟩, later, same⟩ := exists_of_map_eq_ok reading
      cases same
      obtain ⟨json, left⟩ := inner.members _ _ _ leaves.tail later
      exact ⟨Datum.ofPairs_isJson json, left⟩
    · cases reading

theorem ReadsJson.items_succ : Yields (fun ds => ∀ d ∈ ds, Datum.IsJson d) (Json.items (n + 1)) := by
  intro ts ds r leaves reading
  rw [Json.items] at reading
  obtain ⟨⟨d, r'⟩, first, reading⟩ := bind_eq_ok_iff.mp reading
  obtain ⟨json, left⟩ := inner.value _ _ _ leaves first
  dsimp only at reading
  split at reading
  · cases reading
    exact ⟨List.forall_mem_singleton.mpr json, left.tail⟩
  · obtain ⟨⟨ds, r'⟩, later, same⟩ := bind_eq_ok_iff.mp reading
    cases same
    obtain ⟨rest, left⟩ := inner.items _ _ _ left.tail later
    exact ⟨List.forall_mem_cons.mpr ⟨json, rest⟩, left⟩
  · cases reading

theorem ReadsJson.members_succ :
    Yields (fun es => ∀ e ∈ es, Datum.IsJsonEntry e) (Json.members (n + 1)) := by
  intro ts es r leaves reading
  rw [Json.members.eq_def] at reading
  split at reading
  · next depth name rest same =>
    cases same
    obtain ⟨⟨d, r'⟩, first, reading⟩ := bind_eq_ok_iff.mp reading
    obtain ⟨json, left⟩ := inner.value _ _ _ leaves.tail.tail first
    dsimp only at reading
    split at reading
    · cases reading
      exact ⟨List.forall_mem_singleton.mpr ⟨⟨name, rfl⟩, json⟩, left.tail⟩
    · obtain ⟨⟨es, r'⟩, later, same⟩ := bind_eq_ok_iff.mp reading
      cases same
      obtain ⟨rest, left⟩ := inner.members _ _ _ left.tail later
      exact ⟨List.forall_mem_cons.mpr ⟨⟨⟨name, rfl⟩, json⟩, rest⟩, left⟩
    · cases reading
  · cases reading

end

theorem readsJson (n : Nat) : ReadsJson n := by
  induction n with
  | zero =>
    refine ⟨?_, ?_, ?_⟩ <;> exact fun _ _ _ _ reading => nomatch reading
  | succ n ih => exact ⟨ih.value_succ, ih.items_succ, ih.members_succ⟩

theorem isJson_of_read {s : String} {d : Datum} (reading : read s = .ok d) : d.IsJson := by
  rw [read] at reading
  obtain ⟨⟨d', r⟩, parsed, reading⟩ := bind_eq_ok_iff.mp reading
  have json := (readsJson _).value _ _ _ (tokens_leaves _ _) parsed
  split at reading
  · next same =>
    cases same
    cases reading
    exact json.1
  · cases reading

end Json
end StepFree
