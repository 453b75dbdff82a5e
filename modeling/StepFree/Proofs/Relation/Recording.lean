import Mathlib.Data.Finset.Card
import Mathlib.Data.List.Forall2
import StepFree.Relation.Ledger

/-! What calls to a ledger add up to. Every call, failed or not, comes to a list of records, and these do
not depend on what the ledger holds. A ledger has the largest bonus of the records of each id, so their
order does not matter. An id that equals no key, not even itself, is never found again. -/
namespace StepFree

inductive LedgerCall where
  | record (id : Datum) (bonus : Int)
  | recordRoute (tags members : Datum)

def leadingKeys : List Datum → List Key
  | [] => []
  | d :: r =>
    match d.key with
    | .ok k => k :: leadingKeys r
    | .error _ => []

abbrev AreKeys (members : List Datum) (keys : List Key) : Prop :=
  List.Forall₂ (fun d k => d.key = .ok k) members keys

theorem areKeys_of_map {members : List Datum} {keys : List Key}
    (named : members.map Datum.key = keys.map .ok) : AreKeys members keys := by
  have equal : List.Forall₂ Eq (members.map Datum.key) (keys.map .ok) :=
    List.forall₂_eq_eq_eq ▸ named
  simpa using equal

theorem leadingKeys_append {before : List Datum} {keys : List Key} (named : AreKeys before keys)
    (rest : List Datum) : leadingKeys (before ++ rest) = keys ++ leadingKeys rest := by
  induction named with
  | nil => rfl
  | cons key _ ih => simp [leadingKeys, key, ih]

theorem leadingKeys_of_fault {before after : List Datum} {keys : List Key} {d : Datum} {f : Fault}
    (named : AreKeys before keys) (fault : d.key = .error f) :
    leadingKeys (before ++ d :: after) = keys := by
  simp [leadingKeys_append named, leadingKeys, fault]

/-- The records that a call makes. -/
def LedgerCall.records (c : Config) : LedgerCall → List (Key × Int)
  | .record id bonus =>
    match id.key with
    | .ok k => [(k, bonus)]
    | .error _ => []
  | .recordRoute tags members =>
    match Tags.ofDatum tags, members.elements with
    | .ok t, .ok items => (leadingKeys items).map (·, c.routeBonus t)
    | _, _ => []

def bonusesOf (k : Key) (records : List (Key × Int)) : List Int :=
  records.filterMap fun r => if r.1.same k then some r.2 else none

theorem bonusesOf_cons (k : Key) (r : Key × Int) (rest : List (Key × Int)) :
    bonusesOf k (r :: rest) =
      if r.1.same k then r.2 :: bonusesOf k rest else bonusesOf k rest := by
  rw [bonusesOf, List.filterMap_cons]
  by_cases here : r.1.same k <;> simp [here, bonusesOf]

theorem mem_bonusesOf {k : Key} {records : List (Key × Int)} {b : Int} :
    b ∈ bonusesOf k records ↔ k.isDefinite = true ∧ (k, b) ∈ records := by
  simp only [bonusesOf, List.mem_filterMap, Option.ite_none_right_eq_some, Option.some.injEq,
    Key.same_iff]
  constructor
  · rintro ⟨⟨j, _⟩, recorded, ⟨rfl, definite⟩, rfl⟩
    exact ⟨definite, recorded⟩
  · rintro ⟨definite, recorded⟩
    exact ⟨(k, b), recorded, ⟨rfl, definite⟩, rfl⟩

theorem bonusesOf_ne_nil {k : Key} {records : List (Key × Int)} :
    bonusesOf k records ≠ [] ↔ k.isDefinite = true ∧ k ∈ records.map Prod.fst := by
  simp only [ne_eq, List.eq_nil_iff_forall_not_mem, not_forall, Decidable.not_not, mem_bonusesOf,
    exists_and_left, List.mem_map, Prod.exists, exists_and_right, exists_eq_right]

namespace Ledger

def call (c : Config) (l : Ledger) : LedgerCall → Ledger × Except Fault Int
  | .record id bonus =>
    match l.recordId id bonus with
    | .ok (l, merged) => (l, .ok merged)
    | .error f => (l, .error f)
  | .recordRoute tags members => l.recordRoute c tags members

/-- The ledger after some calls. A call that fails is not the last. -/
def afterCalls (c : Config) (l : Ledger) (calls : List LedgerCall) : Ledger :=
  calls.foldl (fun l call => (l.call c call).1) l

def recordEach (l : Ledger) (records : List (Key × Int)) : Ledger :=
  records.foldl (fun l r => l.record r.1 r.2) l

@[simp]
theorem recordEach_nil (l : Ledger) : l.recordEach [] = l :=
  rfl

theorem recordEach_append (l : Ledger) (records more : List (Key × Int)) :
    l.recordEach (records ++ more) = (l.recordEach records).recordEach more :=
  List.foldl_append

theorem recordAll_fst (l : Ledger) (bonus : Int) (members : List Datum) :
    (l.recordAll bonus members).1 = l.recordEach ((leadingKeys members).map (·, bonus)) := by
  induction members generalizing l with
  | nil => rfl
  | cons d r ih =>
    unfold recordAll leadingKeys
    cases d.key with
    | ok k => exact ih (l.record k bonus)
    | error f => rfl

theorem recordAll_append {before : List Datum} {keys : List Key} (named : AreKeys before keys)
    (l : Ledger) (bonus : Int) (rest : List Datum) :
    l.recordAll bonus (before ++ rest) =
      (l.recordEach (keys.map (·, bonus))).recordAll bonus rest := by
  induction named generalizing l with
  | nil => rfl
  | @cons _ k _ _ key _ ih =>
    simp only [List.cons_append, recordAll, key]
    exact ih (l.record k bonus)

theorem recordAll_of_fault {before after : List Datum} {keys : List Key} {d : Datum} {f : Fault}
    (named : AreKeys before keys) (fault : d.key = .error f) (l : Ledger) (bonus : Int) :
    (l.recordAll bonus (before ++ d :: after)).2 = some f := by
  simp only [recordAll_append named, recordAll, fault]

variable {id : Datum} {k : Key} {f : Fault}

theorem recordId_of_key (key : id.key = .ok k) (l : Ledger) (bonus : Int) :
    l.recordId id bonus = .ok (l.record k bonus, mergeBonus (l.get? k) bonus) := by
  rw [recordId, key]
  rfl

theorem call_record_of_key (key : id.key = .ok k) (c : Config) (l : Ledger) (bonus : Int) :
    l.call c (.record id bonus) = (l.record k bonus, .ok (mergeBonus (l.get? k) bonus)) := by
  simp only [call, recordId_of_key key]

theorem call_record_of_fault (fault : id.key = .error f) (c : Config) (l : Ledger) (bonus : Int) :
    l.call c (.record id bonus) = (l, .error f) := by
  simp only [call, recordId, fault, bind, Except.bind]

theorem call_recordRoute {t : Tags} {items : List Datum} {tags members : Datum} {c : Config}
    (read : Tags.ofDatum tags = .ok t) (listed : members.elements = .ok items) (l : Ledger) :
    l.call c (.recordRoute tags members) =
      ((l.recordAll (c.routeBonus t) items).1,
        match (l.recordAll (c.routeBonus t) items).2 with
        | none => .ok (c.routeBonus t)
        | some f => .error f) := by
  simp only [call, recordRoute, read, listed]
  cases l.recordAll (c.routeBonus t) items with
  | mk after fault? => cases fault? <;> rfl

theorem call_fst (c : Config) (l : Ledger) (call : LedgerCall) :
    (l.call c call).1 = l.recordEach (call.records c) := by
  cases call with
  | record id bonus =>
    simp only [LedgerCall.records]
    cases key : id.key with
    | ok k => exact congrArg Prod.fst (call_record_of_key key c l bonus)
    | error f => exact congrArg Prod.fst (call_record_of_fault key c l bonus)
  | recordRoute tags members =>
    cases read : Tags.ofDatum tags with
    | error f => simp only [Ledger.call, LedgerCall.records, recordRoute, read, recordEach_nil]
    | ok t =>
      cases listed : members.elements with
      | error f =>
        simp only [Ledger.call, LedgerCall.records, recordRoute, read, listed, recordEach_nil]
      | ok items =>
        simp only [call_recordRoute read listed, LedgerCall.records, read, listed]
        exact recordAll_fst l (c.routeBonus t) items

theorem afterCalls_eq (c : Config) (l : Ledger) (calls : List LedgerCall) :
    l.afterCalls c calls = l.recordEach (calls.flatMap (LedgerCall.records c)) := by
  induction calls generalizing l with
  | nil => rfl
  | cons call r ih =>
    rw [afterCalls, List.foldl_cons, ← afterCalls, ih, call_fst, List.flatMap_cons,
      recordEach_append]

theorem max?_mergeBonus (previous : Option Int) (b : Int) (rest : List Int) :
    (mergeBonus previous b :: rest).max? = (previous.toList ++ b :: rest).max? := by
  cases previous <;> rfl

/-- What is found is the largest of what was held before and what was recorded since. -/
theorem get?_recordEach (l : Ledger) (records : List (Key × Int)) (k : Key) :
    (l.recordEach records).get? k = ((l.get? k).toList ++ bonusesOf k records).max? := by
  induction records generalizing l with
  | nil =>
    change l.get? k = ((l.get? k).toList ++ []).max?
    cases l.get? k <;> rfl
  | cons r rest ih =>
    change ((l.record r.1 r.2).recordEach rest).get? k = _
    rw [ih, get?_record, bonusesOf_cons]
    by_cases here : r.1.same k
    · rw [if_pos here, if_pos here, (Key.same_iff.mp here).1, ← max?_mergeBonus]
      rfl
    · rw [if_neg here, if_neg here]

theorem largest_congr {l m : List Int} (below : ∀ a ∈ l, ∃ b ∈ m, a ≤ b)
    (above : ∀ b ∈ m, ∃ a ∈ l, b ≤ a) {x : Int} (largest : x ∈ l ∧ ∀ a ∈ l, a ≤ x) :
    x ∈ m ∧ ∀ b ∈ m, b ≤ x := by
  have most : ∀ b ∈ m, b ≤ x := by
    intro b hb
    obtain ⟨a, ha, le⟩ := above b hb
    exact Int.le_trans le (largest.2 a ha)
  obtain ⟨b, hb, le⟩ := below x largest.1
  have same : b = x := Int.le_antisymm (most b hb) le
  exact ⟨same ▸ hb, most⟩

theorem max?_congr {l m : List Int} (below : ∀ a ∈ l, ∃ b ∈ m, a ≤ b)
    (above : ∀ b ∈ m, ∃ a ∈ l, b ≤ a) : l.max? = m.max? := by
  apply Option.ext
  intro x
  simp only [List.max?_eq_some_iff]
  exact ⟨largest_congr below above, largest_congr above below⟩

theorem max?_congr_mem {l m : List Int} (same : ∀ b, b ∈ l ↔ b ∈ m) : l.max? = m.max? := by
  apply max?_congr
  · intro b found
    exact ⟨b, (same b).mp found, Int.le_refl b⟩
  · intro b found
    exact ⟨b, (same b).mpr found, Int.le_refl b⟩

theorem get?_recordEach_empty (records : List (Key × Int)) (k : Key) :
    (empty.recordEach records).get? k = (bonusesOf k records).max? :=
  get?_recordEach empty records k

theorem get?_recordEach_grows {l : Ledger} {m : Int} (held : l.get? k = some m)
    (records : List (Key × Int)) : ∃ n, (l.recordEach records).get? k = some n ∧ m ≤ n := by
  have largest : (l.recordEach records).get? k = (m :: bonusesOf k records).max? := by
    rw [get?_recordEach, held]
    rfl
  refine ⟨_, largest.trans List.max?_cons', ?_⟩
  exact (List.max?_eq_some_iff.mp List.max?_cons').2 m List.mem_cons_self

theorem contains_recordEach_empty (records : List (Key × Int)) (k : Key) :
    (empty.recordEach records).contains k = true ↔
      k.isDefinite = true ∧ k ∈ records.map Prod.fst := by
  rw [contains, get?_recordEach_empty, List.isSome_max?_iff, bonusesOf_ne_nil]

theorem length_merge (k : Key) (bonus : Int) (entries : List (Key × Int)) :
    (merge k bonus entries).length =
      if (lookup k entries).isSome then entries.length else entries.length + 1 := by
  induction entries with
  | nil => rfl
  | cons e r ih =>
    rw [merge, lookup]
    by_cases here : e.1.same k
    · simp [here]
    · simp only [here, Bool.false_eq_true, if_false, List.length_cons, ih]
      split <;> rfl

theorem size_record (l : Ledger) (k : Key) (bonus : Int) :
    (l.record k bonus).size = if l.contains k then l.size else l.size + 1 :=
  length_merge k bonus l.entries

end Ledger

/-- How many ids there are among some keys. One that equals no key counts each time. -/
def idCount (keys : List Key) : Nat :=
  (keys.filter Key.isDefinite).toFinset.card + keys.countP (!·.isDefinite)

theorem idCount_concat (keys : List Key) (k : Key) :
    idCount (keys ++ [k]) =
      if k.isDefinite = true ∧ k ∈ keys then idCount keys else idCount keys + 1 := by
  by_cases definite : k.isDefinite = true
  · by_cases known : k ∈ keys
    · simp [idCount, definite, known]
    · simp [idCount, definite, known, Finset.card_insert_of_notMem, Nat.add_right_comm]
  · simp [idCount, definite, Nat.add_assoc]

theorem idCount_perm {keys others : List Key} (same : keys.Perm others) :
    idCount keys = idCount others := by
  rw [idCount, idCount, same.countP_eq, List.toFinset_eq_of_perm _ _ (same.filter _)]

theorem idCount_of_definite {keys : List Key} (definite : ∀ k ∈ keys, k.isDefinite = true) :
    idCount keys = keys.toFinset.card := by
  have none : keys.countP (!·.isDefinite) = 0 := by
    simpa [List.countP_eq_zero] using definite
  rw [idCount, List.filter_eq_self.mpr definite, none, Nat.add_zero]

namespace Ledger

theorem size_recordEach_empty (records : List (Key × Int)) :
    (empty.recordEach records).size = idCount (records.map Prod.fst) := by
  induction records using List.reverseRecOn with
  | nil => rfl
  | append_singleton records r ih =>
    rw [recordEach_append, List.map_append]
    change ((empty.recordEach records).record r.1 r.2).size = idCount (_ ++ [r.1])
    simp only [size_record, contains_recordEach_empty, idCount_concat, ih]

end Ledger
end StepFree
