import StepFree.Proofs.Relation.Recording

namespace StepFree.Ledger

/-- Whether a ledger answers by the largest bonus that some records have for an id. Ids are compared as
keys; those that do not equal themselves are left aside. -/
structure HoldsLargest (c : Config) (l : Ledger) (records : List (Key × Int)) : Prop where
  contained : ∀ id k, id.key = .ok k → k.isDefinite = true →
    l.containsId id = .ok (decide (k ∈ records.map Prod.fst))
  found : ∀ id k, id.key = .ok k → k.isDefinite = true → ∀ other,
    (l.find? id).map (·.getD other) = .ok ((bonusesOf k records).max?.getD other)
  merged : ∀ id k, id.key = .ok k → k.isDefinite = true → ∀ bonus,
    ∃ m, (bonusesOf k (records ++ [(k, bonus)])).max? = some m ∧
      l.call c (.record id bonus) = (l.record k bonus, .ok m)
  counted : (∀ k ∈ records.map Prod.fst, k.isDefinite = true) →
    l.size = (records.map Prod.fst).toFinset.card

def AnswersLike (l m : Ledger) : Prop :=
  (∀ id, l.find? id = m.find? id) ∧ (∀ id, l.containsId id = m.containsId id) ∧ l.size = m.size

variable {id : Datum} {k : Key} {f : Fault}

theorem find?_of_key (key : id.key = .ok k) (l : Ledger) : l.find? id = .ok (l.get? k) := by
  rw [find?, key]
  rfl

theorem containsId_of_key (key : id.key = .ok k) (l : Ledger) :
    l.containsId id = .ok (l.contains k) := by
  rw [containsId, key]
  rfl

theorem holdsLargest_recordEach (c : Config) (records : List (Key × Int)) :
    HoldsLargest c (empty.recordEach records) records where
  contained id k key definite := by
    rw [containsId_of_key key]
    apply congrArg Except.ok
    rw [Bool.eq_iff_iff, contains_recordEach_empty, decide_eq_true_iff]
    exact and_iff_right definite
  found id k key definite other := by
    rw [find?_of_key key, get?_recordEach_empty]
    rfl
  merged id k key definite bonus := by
    refine ⟨_, ?_, call_record_of_key key c _ bonus⟩
    rw [← get?_recordEach_empty, recordEach_append]
    change ((empty.recordEach records).record k bonus).get? k = _
    rw [get?_record, if_pos (Key.same_iff.mpr ⟨rfl, definite⟩)]
  counted definite := by
    rw [size_recordEach_empty, idCount_of_definite definite]

theorem get?_recordEach_perm {records others : List (Key × Int)} (same : records.Perm others)
    (k : Key) : (empty.recordEach records).get? k = (empty.recordEach others).get? k := by
  have bonuses : (bonusesOf k records).Perm (bonusesOf k others) := same.filterMap _
  rw [get?_recordEach_empty, get?_recordEach_empty]
  exact max?_congr_mem fun _ => bonuses.mem_iff

theorem answersLike_of_perm {records others : List (Key × Int)} (same : records.Perm others) :
    AnswersLike (empty.recordEach records) (empty.recordEach others) := by
  have found := get?_recordEach_perm same
  refine ⟨fun id => ?_, fun id => ?_, ?_⟩
  · simp only [find?, found]
  · simp only [containsId, contains, found]
  · rw [size_recordEach_empty, size_recordEach_empty, idCount_perm (same.map Prod.fst)]

/-- After any calls an id has the largest of the bonuses recorded for it, what it has does not shrink, and
other calls that record the same lead to the same answers. A call that fails at an id leaves what was
recorded before it. -/
theorem calls_hold_largest (c : Config) (calls : List LedgerCall) :
    let records := calls.flatMap (LedgerCall.records c)
    let l := empty.afterCalls c calls
    HoldsLargest c l records ∧
    (∀ k m, l.get? k = some m → ∀ more, ∃ n, (l.afterCalls c more).get? k = some n ∧ m ≤ n) ∧
    (∀ others, (others.flatMap (LedgerCall.records c)).Perm records →
      AnswersLike (empty.afterCalls c others) l) ∧
    (∀ id f, id.key = .error f → ∀ bonus, l.call c (.record id bonus) = (l, .error f)) ∧
    ∀ tags t members before (keys : List Key) id after f, Tags.ofDatum tags = .ok t →
      members.elements = .ok (before ++ id :: after) → before.map Datum.key = keys.map .ok →
      id.key = .error f →
      l.call c (.recordRoute tags members) =
        (l.recordEach (keys.map (·, c.routeBonus t)), .error f) := by
  intro records l
  have whole : l = empty.recordEach records := afterCalls_eq c empty calls
  refine ⟨?_, ?_, ?_, ?_, ?_⟩
  · rw [whole]
    exact holdsLargest_recordEach c records
  · intro k m held more
    rw [afterCalls_eq]
    exact get?_recordEach_grows held _
  · intro others same
    rw [whole, afterCalls_eq]
    exact answersLike_of_perm same
  · intro id f fault bonus
    exact call_record_of_fault fault c l bonus
  · intro tags t members before keys id after f read listed named fault
    have keyed := areKeys_of_map named
    rw [call_recordRoute read listed, recordAll_fst, recordAll_of_fault keyed fault,
      leadingKeys_of_fault keyed fault]

def hikingRoute : Datum := .dict [(.text "route", .text "hiking")]

def mixedMembers : Datum := .list [.int 7, .float 1.0, .list [], .text "w"]

/-- A way is recorded under two of its names, and a call of each sort fails. -/
def mixedCalls : List LedgerCall := [
  .record (.bool true) (-5),
  .recordRoute hikingRoute mixedMembers,
  .record (.list []) 3,
  .record (.text "w") (-2)]

def singleCalls : List LedgerCall := [
  .record (.text "w") (-2), .record (.float 1.0) 5, .record (.int 7) 5, .record (.int 1) (-5)]

theorem key_of_key? {d : Datum} (key : d.key? = some k) : d.key = .ok k := by
  rw [Datum.key, key]

theorem records_mixedCalls : mixedCalls.flatMap (LedgerCall.records {}) =
    [(.whole 1, -5), (.whole 7, 5), (.whole 1, 5), (.text "w", -2)] := by
  decide +kernel

theorem mixedCalls_hold_largest :
    let l := empty.afterCalls {} mixedCalls
    l.containsId (.float 1.0) = .ok true ∧
    l.containsId (.text "v") = .ok false ∧
    (l.find? (.text "w")).map (·.getD 0) = .ok (-2) ∧
    (l.find? (.text "v")).map (·.getD 9) = .ok 9 ∧
    (∃ after, l.call {} (.record (.int 1) 2) = (after, .ok 5)) ∧
    l.size = 3 ∧
    (∃ n, (l.afterCalls {} singleCalls).get? (.whole 7) = some n ∧ 5 ≤ n) ∧
    AnswersLike (empty.afterCalls {} singleCalls) l ∧
    l.call {} (.record (.list []) 3) = (l, .error (.noKey "list")) ∧
    l.call {} (.recordRoute hikingRoute mixedMembers) =
      (l.recordEach [(.whole 7, 5), (.whole 1, 5)], .error (.noKey "list")) := by
  have one : (Datum.float 1.0).key = .ok (.whole 1) := key_of_key? (by decide +kernel)
  obtain ⟨holds, grows, alike, refused, stopped⟩ := calls_hold_largest {} mixedCalls
  rw [records_mixedCalls] at holds alike
  refine ⟨?_, ?_, ?_, ?_, ?_, ?_, ?_, ?_, ?_, ?_⟩
  · exact holds.contained _ _ one rfl
  · exact holds.contained (.text "v") _ rfl rfl
  · exact holds.found (.text "w") _ rfl rfl 0
  · exact holds.found (.text "v") _ rfl rfl 9
  · obtain ⟨m, largest, merged⟩ := holds.merged (.int 1) _ rfl rfl 2
    cases largest
    exact ⟨_, merged⟩
  · exact holds.counted (by decide)
  · exact grows _ _ (by decide +kernel) singleCalls
  · exact alike singleCalls (by decide +kernel)
  · exact refused _ _ rfl 3
  · have route : ∃ t, Tags.ofDatum hikingRoute = .ok t ∧ ({} : Config).routeBonus t = 5 :=
      ⟨_, rfl, by decide +kernel⟩
    obtain ⟨t, read, bonus⟩ := route
    have run := stopped hikingRoute t mixedMembers [.int 7, .float 1.0] [.whole 7, .whole 1] (.list [])
      [.text "w"] _ read rfl (by simp only [List.map_cons, List.map_nil, one]; rfl) rfl
    rw [bonus] at run
    exact run

end StepFree.Ledger
