import StepFree.Profile.Basic
import StepFree.Proofs.Relation.LargestBonus

namespace StepFree

/-- A relation as it is given: tags that can be read, and members each of which is a key. -/
structure Route where
  data : Datum
  tags : Tags
  members : List Datum
  keys : List Key
  read : Tags.ofDatum data = .ok tags
  named : AreKeys members keys

namespace Route

variable (r : Route)

def hasMember (way : Datum) : Bool :=
  r.members.any (·.sameKey way)

def call : LedgerCall :=
  .recordRoute r.data (.list r.members)

theorem records_call (c : Config) : r.call.records c = r.keys.map (·, c.routeBonus r.tags) := by
  have all : leadingKeys r.members = r.keys := by
    simpa [leadingKeys] using leadingKeys_append r.named []
  have listed : (Datum.list r.members).elements = .ok r.members := rfl
  simp only [call, LedgerCall.records, r.read, listed, all]

theorem call_snd (c : Config) (l : Ledger) : (l.call c r.call).2 = .ok (c.routeBonus r.tags) := by
  have fine (bonus : Int) : (l.recordAll bonus r.members).2 = none := by
    simpa [Ledger.recordAll] using congrArg Prod.snd (Ledger.recordAll_append r.named l bonus [])
  rw [call, Ledger.call_recordRoute r.read rfl]
  simp only [fine]

end Route

theorem Datum.key?_of_key {d : Datum} {k : Key} (key : d.key = .ok k) : d.key? = some k := by
  unfold Datum.key at key
  split at key
  · rename_i found
    cases key
    exact found
  · cases key

section
variable {way : Datum} {k : Key} (key : way.key = .ok k)

include key

theorem any_sameKey_iff {members : List Datum} {keys : List Key} (named : AreKeys members keys) :
    members.any (·.sameKey way) = true ↔ k.isDefinite = true ∧ k ∈ keys := by
  induction named with
  | nil => simp
  | @cons d j _ _ first _ ih =>
    have same : d.sameKey way = true ↔ k.isDefinite = true ∧ k = j := by
      simp only [Datum.sameKey, Datum.key?_of_key first, Datum.key?_of_key key, Key.same_iff]
      constructor
      · rintro ⟨rfl, definite⟩
        exact ⟨definite, rfl⟩
      · rintro ⟨definite, rfl⟩
        exact ⟨rfl, definite⟩
    rw [List.any_cons, Bool.or_eq_true, same, ih, List.mem_cons, and_or_left]

theorem mem_bonusesOf_routes (c : Config) (routes : List Route) (b : Int) :
    b ∈ bonusesOf k ((routes.map Route.call).flatMap (LedgerCall.records c)) ↔
      b ∈ (routes.filter (·.hasMember way)).map fun r => c.routeBonus r.tags := by
  have member (r : Route) : r.hasMember way = true ↔ k.isDefinite = true ∧ k ∈ r.keys :=
    any_sameKey_iff key r.named
  simp only [mem_bonusesOf, List.mem_flatMap, List.mem_map, List.mem_filter, member]
  constructor
  · rintro ⟨definite, _, ⟨r, given, rfl⟩, recorded⟩
    rw [r.records_call] at recorded
    obtain ⟨_, known, same⟩ := List.mem_map.mp recorded
    cases same
    exact ⟨r, ⟨given, definite, known⟩, rfl⟩
  · rintro ⟨r, ⟨given, definite, known⟩, rfl⟩
    refine ⟨definite, r.call, ⟨r, given, rfl⟩, ?_⟩
    rw [r.records_call]
    exact List.mem_map_of_mem known

end

namespace Profile

variable (p : Profile)

/-- Merges the bonuses of relations one after the other, where nothing was merged before. -/
def mergedBonuses (routes : List Route) : Option Int :=
  routes.foldl (fun previous r => some (p.mergedBonus r.tags previous)) none

theorem mergedBonuses_eq (routes : List Route) : p.mergedBonuses routes =
    (routes.map fun r => p.settings.config.routeBonus r.tags).max? := by
  have from_previous (previous : Option Int) (routes : List Route) :
      routes.foldl (fun previous r => some (p.mergedBonus r.tags previous)) previous =
        (previous.toList ++ routes.map fun r => p.settings.config.routeBonus r.tags).max? := by
    induction routes generalizing previous with
    | nil => cases previous <;> rfl
    | cons r rest ih =>
      rw [List.foldl_cons, ih, List.map_cons, ← Ledger.max?_mergeBonus]
      rfl
  exact from_previous none routes

end Profile

namespace Ledger

/-- After recording relations a ledger has for a way just what comes from merging those that the way is a
member of, and nothing if there are none. Each relation is recorded without fail, and the order of the
relations makes no difference. -/
theorem ledger_agrees_with_merging (p : Profile) (routes others : List Route)
    (reordered : routes.Perm others) (way : Datum) (k : Key) (key : way.key = .ok k) :
    let c := p.settings.config
    let l := empty.afterCalls c (routes.map Route.call)
    let joined := others.filter (·.hasMember way)
    (∀ (r : Route) (before : Ledger), (before.call c r.call).2 = .ok (c.routeBonus r.tags)) ∧
    l.find? way = .ok (p.mergedBonuses joined) ∧
    (l.containsId way = .ok false ↔ joined = []) := by
  intro c l joined
  have found : l.get? k = p.mergedBonuses joined := by
    have whole : l = empty.recordEach _ := afterCalls_eq c empty (routes.map Route.call)
    rw [whole, get?_recordEach_empty, p.mergedBonuses_eq]
    apply max?_congr_mem
    intro b
    rw [mem_bonusesOf_routes key]
    exact ((reordered.filter _).map _).mem_iff
  refine ⟨fun r before => r.call_snd c before, ?_, ?_⟩
  · rw [find?_of_key key, found]
  · rw [containsId_of_key key, Ledger.contains, found, p.mergedBonuses_eq, Except.ok.injEq,
      Option.isSome_eq_false_iff, Option.isNone_iff_eq_none, List.max?_eq_none_iff,
      List.map_eq_nil_iff]

def hikingTour : Route where
  data := .dict [(.text "route", .text "hiking")]
  tags := ⟨[("route", ⟨"hiking", []⟩)], by decide⟩
  members := [.int 7, .text "w", .float 7.0]
  keys := [.whole 7, .text "w", .whole 7]
  read := rfl
  named := areKeys_of_map rfl

def ferryCrossing : Route where
  data := .dict [(.text "route", .text "ferry")]
  tags := ⟨[("route", ⟨"ferry", []⟩)], by decide⟩
  members := [.bool true, .text "w"]
  keys := [.whole 1, .text "w"]
  read := rfl
  named := areKeys_of_map rfl

theorem ferryCrossing_merged :
    let p := Profile.ofSettings { config := { preferredRouteBonus := -7 } }
    let l := empty.afterCalls p.settings.config ([hikingTour, ferryCrossing].map Route.call)
    l.find? (.text "w") = .ok (p.mergedBonuses [ferryCrossing, hikingTour]) ∧
    p.mergedBonuses [ferryCrossing, hikingTour] = some (-5) ∧
    l.containsId (.text "v") = .ok false := by
  intro p l
  have reordered : [hikingTour, ferryCrossing].Perm [ferryCrossing, hikingTour] := .swap _ _ _
  obtain ⟨-, found, -⟩ := ledger_agrees_with_merging p _ _ reordered (.text "w") _ rfl
  obtain ⟨-, -, none⟩ := ledger_agrees_with_merging p _ _ reordered (.text "v") _ rfl
  exact ⟨found, by decide, none.mpr rfl⟩

end Ledger
end StepFree
