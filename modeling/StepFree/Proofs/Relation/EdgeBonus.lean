import StepFree.Network.Annotation
import StepFree.Proofs.Relation.Recording

namespace StepFree

/-- The ids that the id attribute of an edge stands for: the members of a collection, or a single one. An
edge without the attribute has the id null. -/
inductive StandsFor : Option Datum → List Datum → Prop where
  | absent : StandsFor none [.null]
  | single {id : Datum} (one : id.collection? = none) : StandsFor (some id) [id]
  | list (ids : List Datum) : StandsFor (some (.list ids)) ids
  | tuple (ids : List Datum) : StandsFor (some (.tuple ids)) ids
  | set (ids : List Datum) : StandsFor (some (.set ids)) ids

/-- Whether the ids of an edge are certain keys. -/
def Attributes.HasIds (a : Attributes) (keys : List Key) : Prop :=
  ∃ ids, StandsFor (a.get? "osmid") ids ∧ AreKeys ids keys

def bonusesOfAny (keys : List Key) (records : List (Key × Int)) : List Int :=
  keys.flatMap (bonusesOf · records)

theorem mem_bonusesOfAny {keys : List Key} {records : List (Key × Int)} {b : Int} :
    b ∈ bonusesOfAny keys records ↔ ∃ k ∈ keys, b ∈ bonusesOf k records := by
  simp [bonusesOfAny]

theorem largestBonus_eq (bonuses : List Int) : largestBonus bonuses = bonuses.max?.getD 0 := by
  cases bonuses <;> rfl

namespace Ledger

theorem idsOf_of_standsFor {id? : Option Datum} {ids : List Datum} (stands : StandsFor id? ids) :
    idsOf (id?.getD .null) = ids := by
  cases stands with
  | absent | list | tuple | set => rfl
  | single one => simp [idsOf, one]

theorem standsFor_idsOf (id? : Option Datum) : StandsFor id? (idsOf (id?.getD .null)) := by
  cases id? with
  | none => exact .absent
  | some id =>
    cases id with
    | list ids => exact .list ids
    | tuple ids => exact .tuple ids
    | set ids => exact .set ids
    | _ => exact .single rfl

theorem mapM_get?_eq_ok_iff (l : Ledger) {ids : List Datum} {found : List (Option Int)} :
    (ids.mapM fun d => return l.get? (← d.key)) = .ok found ↔
      ∃ keys, AreKeys ids keys ∧ found = keys.map l.get? := by
  induction ids generalizing found with
  | nil =>
    constructor
    · intro read
      exact ⟨[], .nil, (Except.ok.inj read).symm⟩
    · rintro ⟨keys, named, rfl⟩
      cases named
      rfl
  | cons d r ih =>
    simp only [List.mapM_cons, bind_eq_ok_iff]
    constructor
    · rintro ⟨_, ⟨k, key, ⟨⟩⟩, _, read, ⟨⟩⟩
      obtain ⟨keys, named, rfl⟩ := ih.mp read
      exact ⟨k :: keys, .cons key named, rfl⟩
    · rintro ⟨_, named, rfl⟩
      cases named with
      | @cons _ k _ keys key named =>
        exact ⟨_, ⟨k, key, rfl⟩, _, ih.mpr ⟨keys, named, rfl⟩, rfl⟩

/-- The largest of what is found for each id is the largest that was recorded for any. -/
theorem max?_found (records : List (Key × Int)) (keys : List Key) :
    (keys.filterMap (empty.recordEach records).get?).max? =
      (bonusesOfAny keys records).max? := by
  apply max?_congr
  · intro m found
    obtain ⟨k, known, held⟩ := List.mem_filterMap.mp found
    rw [get?_recordEach_empty, List.max?_eq_some_iff] at held
    exact ⟨m, mem_bonusesOfAny.mpr ⟨k, known, held.1⟩, Int.le_refl m⟩
  · intro b recorded
    obtain ⟨k, known, recorded⟩ := mem_bonusesOfAny.mp recorded
    obtain ⟨m, held⟩ : ∃ m, (bonusesOf k records).max? = some m :=
      Option.isSome_iff_exists.mp (List.isSome_max?_iff.mpr (List.ne_nil_of_mem recorded))
    refine ⟨m, List.mem_filterMap.mpr ⟨k, known, ?_⟩, (List.max?_eq_some_iff.mp held).2 b recorded⟩
    rw [get?_recordEach_empty, held]

variable {a : Attributes} {keys : List Key}

theorem edgeBonus_eq_ok_iff {l : Ledger} {bonus : Int} : l.edgeBonus a.tagged.id = .ok bonus ↔
    ∃ keys, a.HasIds keys ∧ (keys.filterMap l.get?).max?.getD 0 = bonus := by
  have largest (keys : List Key) :
      largestBonus ((keys.map l.get?).filterMap fun b => b) = (keys.filterMap l.get?).max?.getD 0 := by
    rw [largestBonus_eq, List.filterMap_map]
    rfl
  simp only [edgeBonus, bind_eq_ok_iff, mapM_get?_eq_ok_iff]
  constructor
  · rintro ⟨_, ⟨keys, named, rfl⟩, same⟩
    cases same
    exact ⟨keys, ⟨_, standsFor_idsOf _, named⟩, (largest keys).symm⟩
  · rintro ⟨keys, ⟨ids, stands, named⟩, rfl⟩
    have listed : idsOf a.tagged.id = ids := idsOf_of_standsFor stands
    exact ⟨_, ⟨keys, listed ▸ named, rfl⟩, congrArg Except.ok (largest keys)⟩

theorem edgeBonus_of_hasIds (records : List (Key × Int)) (named : a.HasIds keys) :
    (empty.recordEach records).edgeBonus a.tagged.id =
      .ok ((bonusesOfAny keys records).max?.getD 0) :=
  edgeBonus_eq_ok_iff.mpr ⟨keys, named, by rw [max?_found]⟩

theorem max?_bonusesOfAny_congr {ids : List Key} {records others : List (Key × Int)}
    (same : ∀ k, k ∈ ids ↔ k ∈ keys) (reordered : others.Perm records) :
    (bonusesOfAny ids others).max? = (bonusesOfAny keys records).max? := by
  apply max?_congr_mem
  intro b
  simp only [mem_bonusesOfAny, mem_bonusesOf, same, reordered.mem_iff]

theorem max?_append {l m : List Int} {x y : Int} (left : l.max? = some x) (right : m.max? = some y) :
    (l ++ m).max? = some (max x y) := by
  rw [List.max?_eq_some_iff] at left right ⊢
  constructor
  · rcases Int.le_total x y with le | le
    · simp [Int.max_eq_right le, right.1]
    · simp [Int.max_eq_left le, left.1]
  · intro b found
    rcases List.mem_append.mp found with here | there
    · exact Int.le_trans (left.2 b here) (Int.le_max_left x y)
    · exact Int.le_trans (right.2 b there) (Int.le_max_right x y)

theorem exists_largest {records : List (Key × Int)}
    (recorded : ∃ k ∈ keys, (empty.recordEach records).contains k = true) :
    ∃ m, (bonusesOfAny keys records).max? = some m := by
  obtain ⟨k, known, recorded⟩ := recorded
  rw [contains_recordEach_empty, ← bonusesOf_ne_nil] at recorded
  obtain ⟨b, found⟩ := List.exists_mem_of_ne_nil _ recorded
  apply Option.isSome_iff_exists.mp
  exact List.isSome_max?_iff.mpr (List.ne_nil_of_mem (mem_bonusesOfAny.mpr ⟨k, known, found⟩))

/-- After any calls an edge has the largest bonus recorded for one of its ids, and 0 if there is none. The
order of the ids and of the records makes no difference, nor do repeated ids. Where two edges have a
recorded id each, an edge with the ids of both has the larger bonus of the two. -/
theorem edge_has_largest_bonus (c : Config) (calls : List LedgerCall) (a : Attributes)
    (keys : List Key) (named : a.HasIds keys) :
    let records := calls.flatMap (LedgerCall.records c)
    let l := empty.afterCalls c calls
    (∀ p : Profile, p.edgeResult (some l) a =
      p.wayResult a.tagged.tags ((bonusesOfAny keys records).max?.getD 0)) ∧
    (∀ others (b : Attributes) ids, (others.flatMap (LedgerCall.records c)).Perm records →
      b.HasIds ids → (∀ k, k ∈ ids ↔ k ∈ keys) →
      (empty.afterCalls c others).edgeBonus b.tagged.id = l.edgeBonus a.tagged.id) ∧
    ∀ (b both : Attributes) ids union, b.HasIds ids → both.HasIds union →
      (∀ k, k ∈ union ↔ k ∈ keys ∨ k ∈ ids) →
      (∃ k ∈ keys, l.contains k = true) → (∃ k ∈ ids, l.contains k = true) →
      ∃ m n, l.edgeBonus a.tagged.id = .ok m ∧ l.edgeBonus b.tagged.id = .ok n ∧
        l.edgeBonus both.tagged.id = .ok (max m n) := by
  intro records l
  have whole : l = empty.recordEach records := afterCalls_eq c empty calls
  rw [whole]
  have bonus := edgeBonus_of_hasIds records named
  refine ⟨?_, ?_, ?_⟩
  · intro p
    simp only [Profile.edgeResult, Option.map_some, Option.getD_some, bonus, bind, Except.bind]
  · intro others b ids reordered otherNamed same
    rw [afterCalls_eq, bonus, edgeBonus_of_hasIds _ otherNamed,
      max?_bonusesOfAny_congr same reordered]
  · intro b both ids union otherNamed unionNamed members recorded otherRecorded
    obtain ⟨m, largest⟩ := exists_largest recorded
    obtain ⟨n, otherLargest⟩ := exists_largest otherRecorded
    have members' : ∀ k, k ∈ union ↔ k ∈ keys ++ ids := by simpa using members
    have together : (bonusesOfAny union records).max? = some (max m n) := by
      rw [max?_bonusesOfAny_congr members' (.refl records), bonusesOfAny, List.flatMap_append]
      exact max?_append largest otherLargest
    refine ⟨m, n, ?_, ?_, ?_⟩
    · rw [bonus, largest, Option.getD_some]
    · rw [edgeBonus_of_hasIds _ otherNamed, otherLargest, Option.getD_some]
    · rw [edgeBonus_of_hasIds _ unionNamed, together, Option.getD_some]

def coldCalls : List LedgerCall :=
  [.record (.bool true) (-5), .record (.text "w") (-2), .record (.int 1) (-3), .record .null 4]

def mergedPath : Attributes :=
  [("highway", .text "path"), ("osmid", .list [.int 1, .text "v", .float 1.0])]

def pathWithIds (ids : Datum) : Attributes :=
  [("osmid", ids)]

theorem mergedPath_has_largest_bonus :
    let l := empty.afterCalls {} coldCalls
    (default : Profile).edgeResult (some l) mergedPath =
      (default : Profile).wayResult mergedPath.tagged.tags (-3) ∧
    (empty.afterCalls {} coldCalls.reverse).edgeBonus
      (pathWithIds (.set [.text "v", .int 1])).tagged.id = l.edgeBonus mergedPath.tagged.id ∧
    ∃ m n, l.edgeBonus mergedPath.tagged.id = .ok m ∧
      l.edgeBonus (pathWithIds (.text "w")).tagged.id = .ok n ∧
      l.edgeBonus (pathWithIds (.tuple [.text "w", .int 1, .text "v"])).tagged.id =
        .ok (max m n) := by
  have named : mergedPath.HasIds [.whole 1, .text "v", .whole 1] := ⟨_, .list _, areKeys_of_map rfl⟩
  obtain ⟨used, reordered, united⟩ := edge_has_largest_bonus {} coldCalls mergedPath _ named
  refine ⟨used default, ?_, ?_⟩
  · apply reordered _ _ [.text "v", .whole 1]
    · exact (List.reverse_perm coldCalls).flatMap_right _
    · exact ⟨_, .set _, areKeys_of_map rfl⟩
    · simp [or_comm]
  · apply united _ _ [.text "w"] [.text "w", .whole 1, .text "v"]
    · exact ⟨_, .single rfl, areKeys_of_map rfl⟩
    · exact ⟨_, .tuple _, areKeys_of_map rfl⟩
    · intro k
      simp only [List.mem_cons, List.not_mem_nil, or_false]
      tauto
    · exact ⟨.whole 1, by decide, by decide⟩
    · exact ⟨.text "w", by decide, by decide⟩

def namelessPath : Attributes :=
  [("highway", .text "path")]

/-- An edge without ids does not have the bonus of no ids at all. -/
theorem namelessPath_has_null_bonus :
    let calls := [LedgerCall.record .null 5]
    namelessPath.get? "osmid" = none ∧
    ((default : Profile).edgeResult (some (empty.afterCalls {} calls)) namelessPath).map
        (·.relationBonus) = .ok 5 ∧
    (bonusesOfAny [] (calls.flatMap (LedgerCall.records {}))).max?.getD 0 = 0 := by
  refine ⟨rfl, ?_, rfl⟩
  rfl

end Ledger
end StepFree
