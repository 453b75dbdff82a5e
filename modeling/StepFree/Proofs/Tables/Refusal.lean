import StepFree.Proofs.Datum.Sorting
import StepFree.Proofs.Json.Data
import StepFree.Proofs.Tables.Export

/-! How an override from JSON text is refused. The names are taken before the shape is looked at, so a
text and a list are gone through as if they were mappings. If they hold names that are unknown and can
be sorted, a bad value is reported, as it is for every mapping that is refused. All else that is no
mapping fails in some other way: where there is nothing to go through, where a member cannot be a key,
where unknown names do not compare, and where all names are known. -/
namespace StepFree

section
variable {P : Fault → Prop} {α β : Type}

def Faults (P : Fault → Prop) (x : Except Fault α) : Prop :=
  ∀ f, x = .error f → P f

theorem Faults.ok (a : α) : Faults P (.ok a) :=
  fun _ failed => nomatch failed

theorem faults_error {f : Fault} : Faults P (.error f : Except Fault α) ↔ P f :=
  ⟨fun faults => faults f rfl, fun holds _ failed => Except.error.inj failed ▸ holds⟩

theorem Faults.bind {x : Except Fault α} {next : α → Except Fault β} (first : Faults P x)
    (later : ∀ a, Faults P (next a)) : Faults P (x >>= next) := by
  cases x with
  | error f => exact faults_error.mpr (first f rfl)
  | ok a => exact later a

theorem faults_mapM {l : List α} {f : α → Except Fault β} (each : ∀ a, Faults P (f a)) :
    Faults P (l.mapM f) := by
  induction l with
  | nil => exact .ok []
  | cons a r ih =>
    rw [List.mapM_cons]
    exact (each a).bind fun _ => ih.bind fun _ => .ok _

theorem faults_forM {l : List α} {f : α → Except Fault PUnit} (each : ∀ a, Faults P (f a)) :
    Faults P (l.forM f) := by
  induction l with
  | nil => exact .ok PUnit.unit
  | cons a r ih => exact (each a).bind fun _ => ih

/-- There is a result, or a bad value is to blame. -/
def Answered (x : Except Fault α) : Prop :=
  Faults (·.isBadValue = true) x

theorem answered_error {f : Fault} : Answered (.error f : Except Fault α) ↔ f.isBadValue = true :=
  faults_error

theorem answered_map {x : Except Fault α} (g : α → β) : Answered (x.map g) ↔ Answered x := by
  cases x with
  | error f => exact answered_error.trans answered_error.symm
  | ok a => exact iff_of_true (.ok (g a)) (.ok a)

theorem answered_bind {x : Except Fault α} {next : α → Except Fault β} (first : Answered x) :
    Answered (x >>= next) ↔ ∀ a, x = .ok a → Answered (next a) := by
  cases x with
  | error f =>
    exact iff_of_true (answered_error.mpr (answered_error.mp first)) fun _ h => nomatch h
  | ok a => exact ⟨fun later _ same => Except.ok.inj same ▸ later, fun later => later a rfl⟩

end

namespace Datum

theorem key_faults (d : Datum) : Faults (·.isBadValue = false) d.key := by
  rw [key]
  split
  · exact .ok _
  · exact faults_error.mpr rfl

theorem setMembers_faults (d : Datum) : Faults (·.isBadValue = false) d.setMembers := by
  have elements : Faults (·.isBadValue = false) d.elements := by
    rw [Datum.elements]
    split
    · exact .ok _
    · exact faults_error.mpr rfl
  rw [setMembers.eq_def]
  refine elements.bind fun items => ?_
  split
  · exact .ok _
  · exact (faults_forM fun d => (key_faults d).bind fun _ => .ok _).bind fun _ => .ok _

theorem key_of_isScalar {d : Datum} (scalar : d.IsScalar) : ∃ k, d.key = .ok k := by
  obtain ⟨f, family⟩ := Option.isSome_iff_exists.mp scalar
  obtain ⟨k, found, -⟩ := key_of_family family
  exact ⟨k, by rw [key, found]⟩

theorem IsJson.list_of_collection {d : Datum} (json : d.IsJson)
    (collection : d.collection?.isSome = true) : ∃ items, d = .list items := by
  cases json with
  | list => exact ⟨_, rfl⟩
  | _ => cases collection

theorem isScalar_of_key {d : Datum} {k : Key} (json : d.IsJson) (key : d.key = .ok k) :
    d.IsScalar := by
  cases json with
  | list | dict => cases key
  | _ => rfl

theorem setMembers_text (s : String) :
    (text s).setMembers = .ok (s.toList.map fun c => .text c.toString) :=
  (setMembers_eq_ok_iff (d := text s) (fun _ h => nomatch h) rfl).mpr
    ⟨List.forall_mem_map.mpr fun _ _ => ⟨_, rfl⟩, rfl⟩

theorem setMembers_list {items names : List Datum} (json : ∀ d ∈ items, d.IsJson) :
    (list items).setMembers = .ok names ↔ (∀ d ∈ items, d.IsScalar) ∧ names = items := by
  have scalar : ∀ d ∈ items, (∃ k, d.key = .ok k) ↔ d.IsScalar := fun d hd =>
    ⟨fun ⟨_, key⟩ => isScalar_of_key (json d hd) key, key_of_isScalar⟩
  rw [← forall₂_congr scalar]
  exact setMembers_eq_ok_iff (d := list items) (fun _ h => nomatch h) rfl

end Datum

namespace Overrides

variable {κ : Type} (ofName? : String → Option κ)

/-- Some members name no category, and all these are of one family. -/
def HasStrays (names : List Datum) : Prop :=
  ∃ stray ∈ names, category? ofName? stray = none ∧
    ∀ d ∈ names, category? ofName? d = none → d.family? = stray.family?

/-- Whether an override from JSON text is answered. -/
def Answerable : Datum → Prop
  | .dict _ => True
  | .text s => s ≠ ""
  | .list items => (∀ d ∈ items, d.IsScalar) ∧ HasStrays ofName? items
  | _ => False

/-- A mapping of categories to lists. -/
def IsOverride (d : Datum) : Prop :=
  ∃ entries, d = .dict entries ∧ ∀ e ∈ entries,
    (category? ofName? e.1).isSome = true ∧ ∃ items, e.2 = .list items

variable {title : String} {d : Datum} {names : List Datum}

theorem replacement_answered (name : Datum) (k : κ) (values : Datum) :
    Answered (replacement name k values) := by
  rw [replacement]
  split
  · exact .ok _
  · exact answered_error.mpr rfl

theorem answered_of_known (members : d.setMembers = .ok names)
    (known : unknown ofName? names = []) :
    Answered (read title ofName? d) ↔ ∃ entries, d = .dict entries := by
  simp only [read, members, known, bind, Except.bind]
  cases d with
  | dict entries =>
    exact iff_of_true (faults_mapM fun _ => replacement_answered _ _ _) ⟨entries, rfl⟩
  | _ =>
    refine iff_of_false (fun answered => nomatch answered_error.mp answered) ?_
    rintro ⟨_, same⟩
    cases same

theorem answered_of_unknown (members : d.setMembers = .ok names)
    (strangers : unknown ofName? names ≠ []) :
    Answered (read title ofName? d) ↔ (Datum.sort? (unknown ofName? names)).isSome = true := by
  obtain ⟨n, r, unknown⟩ := List.exists_cons_of_ne_nil strangers
  simp only [read, members, unknown, bind, Except.bind]
  cases Datum.sort? (n :: r) with
  | none =>
    exact iff_of_false (fun answered => nomatch answered_error.mp answered) (fun h => nomatch h)
  | some sorted => exact iff_of_true (answered_error.mpr rfl) rfl

/-- The strays among scalars can be put in order if there are any and they are of one family. -/
theorem hasStrays_iff (scalars : ∀ n ∈ names, n.IsScalar) :
    HasStrays ofName? names ↔
      unknown ofName? names ≠ [] ∧ (Datum.sort? (unknown ofName? names)).isSome = true := by
  have stray {n : Datum} : n ∈ names.filter (fun d => (category? ofName? d).isNone) ↔
      n ∈ names ∧ category? ofName? n = none := by
    rw [List.mem_filter, Option.isNone_iff_eq_none]
  rw [unknown, Ne, Datum.distinct_eq_nil,
    Datum.sort?_distinct_isSome_iff fun n hn => scalars n (stray.mp hn).1]
  constructor
  · rintro ⟨n, member, unnamed, alike⟩
    refine ⟨List.ne_nil_of_mem (stray.mpr ⟨member, unnamed⟩), fun a ha b hb => ?_⟩
    obtain ⟨memberA, unnamedA⟩ := stray.mp ha
    obtain ⟨memberB, unnamedB⟩ := stray.mp hb
    rw [alike a memberA unnamedA, alike b memberB unnamedB]
  · rintro ⟨some, alike⟩
    obtain ⟨n, hn⟩ := List.exists_mem_of_ne_nil _ some
    obtain ⟨member, unnamed⟩ := stray.mp hn
    exact ⟨n, member, unnamed, fun a ha unnamedA => alike a (stray.mpr ⟨ha, unnamedA⟩) n hn⟩

theorem hasStrays_of_texts (texts : ∀ n ∈ names, n.family? = some .text) :
    HasStrays ofName? names ↔ ∃ n ∈ names, category? ofName? n = none :=
  ⟨fun ⟨n, member, unnamed, _⟩ => ⟨n, member, unnamed⟩, fun ⟨n, member, unnamed⟩ =>
    ⟨n, member, unnamed, fun a ha _ => (texts a ha).trans (texts n member).symm⟩⟩

theorem answered_of_scalars (members : d.setMembers = .ok names)
    (scalars : ∀ n ∈ names, n.IsScalar) :
    Answered (read title ofName? d) ↔
      (∃ entries, d = .dict entries) ∧ (∀ n ∈ names, (category? ofName? n).isSome = true) ∨
        HasStrays ofName? names := by
  rw [hasStrays_iff ofName? scalars, ← unknown_eq_nil]
  by_cases known : unknown ofName? names = []
  · simp [answered_of_known ofName? members known, known]
  · simp [answered_of_unknown ofName? members known, known]

theorem answered_text (long : ∀ c : Char, ofName? c.toString = none) (s : String) :
    Answered (read title ofName? (.text s)) ↔ s ≠ "" := by
  have texts : ∀ n ∈ s.toList.map fun c => Datum.text c.toString, n.family? = some .text :=
    List.forall_mem_map.mpr fun _ _ => rfl
  rw [answered_of_scalars ofName? (Datum.setMembers_text s)
    fun n hn => Option.isSome_of_eq_some (texts n hn), hasStrays_of_texts ofName? texts]
  constructor
  · rintro (⟨⟨_, same⟩, _⟩ | ⟨n, member, _⟩) rfl
    · cases same
    · cases member
  · intro some
    obtain ⟨c, member⟩ := List.exists_mem_of_ne_nil _ (mt String.toList_eq_nil_iff.mp some)
    exact .inr ⟨.text c.toString, List.mem_map_of_mem member, long c⟩

theorem answered_list {items : List Datum} (json : ∀ d ∈ items, d.IsJson) :
    Answered (read title ofName? (.list items)) ↔
      (∀ d ∈ items, d.IsScalar) ∧ HasStrays ofName? items := by
  by_cases scalars : ∀ d ∈ items, d.IsScalar
  · have members := (Datum.setMembers_list json).mpr ⟨scalars, rfl⟩
    rw [answered_of_scalars ofName? members scalars, and_iff_right scalars]
    exact or_iff_right fun ⟨⟨_, same⟩, _⟩ => nomatch same
  · refine iff_of_false (fun answered => ?_) fun answerable => scalars answerable.1
    cases members : (Datum.list items).setMembers with
    | ok names => exact scalars ((Datum.setMembers_list json).mp members).1
    | error f =>
      have failed : read title ofName? (.list items) = .error f := by
        simp only [read, members, bind, Except.bind]
      cases (answered f failed).symm.trans (Datum.setMembers_faults _ f members)

theorem answered_dict {entries : List (Datum × Datum)} (names : ∀ e ∈ entries, ∃ s, e.1 = .text s) :
    Answered (read title ofName? (.dict entries)) := by
  have texts : ∀ n ∈ entries.map Prod.fst, n.family? = some .text := by
    refine List.forall_mem_map.mpr fun e he => ?_
    obtain ⟨s, name⟩ := names e he
    rw [name]
    rfl
  have scalars : ∀ n ∈ entries.map Prod.fst, n.IsScalar := fun n hn =>
    Option.isSome_of_eq_some (texts n hn)
  have members := Datum.setMembers_dict.mpr
    ⟨fun e he => Datum.key_of_isScalar (scalars e.1 (List.mem_map_of_mem he)), rfl⟩
  rw [answered_of_scalars ofName? members scalars, hasStrays_of_texts ofName? texts]
  by_cases known : ∀ n ∈ entries.map Prod.fst, (category? ofName? n).isSome = true
  · exact .inl ⟨⟨entries, rfl⟩, known⟩
  · right
    simpa [-List.mem_map] using known

theorem answered_iff (json : d.IsJson) (long : ∀ c : Char, ofName? c.toString = none) :
    Answered (read title ofName? d) ↔ Answerable ofName? d := by
  cases json with
  | null | bool | int | float =>
    exact iff_of_false (fun answered => nomatch answered_error.mp answered) id
  | text s => exact answered_text ofName? long s
  | list json => exact answered_list ofName? json
  | dict names _ => exact iff_of_true (answered_dict ofName? names) trivial

theorem isReadable_iff (json : d.IsJson) : IsReadable ofName? d ↔ IsOverride ofName? d := by
  constructor
  · rintro ⟨entries, rfl, collections⟩
    cases json with
    | dict _ values =>
      refine ⟨entries, rfl, fun e he => ?_⟩
      obtain ⟨known, collection⟩ := collections e he
      exact ⟨known, (values e he).list_of_collection collection⟩
  · rintro ⟨entries, rfl, lists⟩
    refine ⟨entries, rfl, fun e he => ?_⟩
    obtain ⟨known, items, values⟩ := lists e he
    exact ⟨known, values ▸ rfl⟩

/-- What becomes of an override from JSON text: when there is a table, and when there is either a table
or a bad value to blame. -/
structure Settles {T : Type} (o : Datum) (outcome : Except Fault T) : Prop where
  accepted : (∃ t, outcome = .ok t) ↔ IsOverride ofName? o
  answered : Answered outcome ↔ Answerable ofName? o

end Overrides

namespace TableKind

variable {T κ : Type} [DecidableEq κ] (K : TableKind T κ)

theorem ofName?_char (long : ∀ k ∈ K.all, (K.name k).length ≠ 1) (c : Char) :
    K.ofName? c.toString = none := by
  refine Option.eq_none_iff_forall_not_mem.mpr fun k named => long k (K.mem_all k) ?_
  rw [← K.ofName?_eq_some.mp named]
  exact String.length_singleton

theorem settles (long : ∀ k ∈ K.all, (K.name k).length ≠ 1) {o : Datum} (json : o.IsJson)
    (title : String) (b : T) : Overrides.Settles K.ofName? o (K.overriddenBy title b o) where
  accepted := (K.accepted_iff title b o).trans (Overrides.isReadable_iff K.ofName? json)
  answered := by
    rw [overriddenBy, answered_map]
    exact Overrides.answered_iff K.ofName? json (K.ofName?_char long)

end TableKind

namespace FileContent

theorem datum_answered (s : String) : Answered (text s).datum := by
  rw [datum]
  split
  · exact .ok _
  · exact answered_error.mpr rfl
  · exact answered_error.mpr rfl

theorem isJson_of_datum {s : String} {o : Datum} (loaded : (text s).datum = .ok o) : o.IsJson := by
  rw [datum] at loaded
  split at loaded
  · next reading =>
    cases loaded
    exact Json.isJson_of_read reading
  · cases loaded
  · cases loaded

end FileContent

theorem Categories.settles {o : Datum} (json : o.IsJson) (b : Categories) :
    Overrides.Settles Tier.ofName? o (b.overriddenBy o) :=
  kind.settles (by decide +kernel) json _ b

theorem Vocabulary.settles {o : Datum} (json : o.IsJson) (p : Vocabulary) :
    Overrides.Settles Term.ofName? o (p.overriddenBy o) :=
  kind.settles (by decide +kernel) json _ p

/-- What becomes of a file of overrides: it holds data of JSON if it can be read at all, there is a table
if these are an override, and a bad value is to blame unless these are unanswerable. -/
structure FileContent.Settles (b : Categories) (s : String) : Prop where
  json : ∀ o, (text s).datum = .ok o → o.IsJson
  accepted : (∃ t, (text s).datum >>= b.overriddenBy = .ok t) ↔
    ∃ o, (text s).datum = .ok o ∧ Overrides.IsOverride Tier.ofName? o
  answered : Answered ((text s).datum >>= b.overriddenBy) ↔
    ∀ o, (text s).datum = .ok o → Overrides.Answerable Tier.ofName? o

theorem FileContent.settles (b : Categories) (s : String) : Settles b s where
  json _ := isJson_of_datum
  accepted := by
    constructor
    · rintro ⟨t, accepted⟩
      obtain ⟨o, loaded, accepted⟩ := bind_eq_ok_iff.mp accepted
      exact ⟨o, loaded, (Categories.settles (isJson_of_datum loaded) b).accepted.mp ⟨t, accepted⟩⟩
    · rintro ⟨o, loaded, override⟩
      obtain ⟨t, accepted⟩ := (Categories.settles (isJson_of_datum loaded) b).accepted.mpr override
      exact ⟨t, bind_eq_ok_iff.mpr ⟨o, loaded, accepted⟩⟩
  answered := by
    rw [answered_bind (datum_answered s)]
    refine forall₂_congr fun o loaded => ?_
    exact (Categories.settles (isJson_of_datum loaded) b).answered

namespace Overrides

/-- An override from JSON text makes a table if it is a mapping of categories to lists. Else it is
refused as a bad value exactly if it is any other mapping, a text that is not empty, or a list of
scalars with strays of one family. This does not depend on the table, and a file of tiers is settled by
what it holds. -/
theorem json_overrides_settled {o : Datum} (json : o.IsJson) (s : String) :
    (∀ b : Categories, Settles Tier.ofName? o (b.overriddenBy o)) ∧
      (∀ p : Vocabulary, Settles Term.ofName? o (p.overriddenBy o)) ∧
        ∀ b : Categories, FileContent.Settles b s :=
  ⟨Categories.settles json, Vocabulary.settles json, fun b => FileContent.settles b s⟩

def looseBarrier : Datum :=
  .dict [(.text "potential_barriers", .text "gate")]

def numberedList : Datum :=
  .list [.text "restriction_keys", .int 1, .bool true]

theorem looseOverrides_refused :
    (looseBarrier.IsJson ∧ ∀ b : Categories, Answered (b.overriddenBy looseBarrier) ∧
      ¬ ∃ t, b.overriddenBy looseBarrier = .ok t) ∧
    (numberedList.IsJson ∧ ∀ p : Vocabulary, Answered (p.overriddenBy numberedList) ∧
      ¬ ∃ q, p.overriddenBy numberedList = .ok q) ∧
    ∀ b : Categories, Answered ((FileContent.text "\x22gate\x22").datum >>= b.overriddenBy) ∧
      ¬ ∃ t, (FileContent.text "\x22gate\x22").datum >>= b.overriddenBy = .ok t := by
  have barrier : looseBarrier.IsJson :=
    .of_entries (List.forall_mem_singleton.mpr ⟨⟨_, rfl⟩, .text _⟩)
  have list : numberedList.IsJson := by
    refine .list ?_
    simp only [List.forall_mem_cons]
    exact ⟨.text _, .int _, .bool _, List.forall_mem_nil _⟩
  have loaded : (FileContent.text "\x22gate\x22").datum = .ok (.text "gate") := rfl
  refine ⟨⟨barrier, fun b => ?_⟩, ⟨list, fun p => ?_⟩, fun b => ?_⟩
  · have settled := (json_overrides_settled barrier "").1 b
    refine ⟨settled.answered.mpr trivial, fun accepted => ?_⟩
    obtain ⟨entries, same, lists⟩ := settled.accepted.mp accepted
    cases same
    obtain ⟨-, items, loose⟩ := lists _ List.mem_cons_self
    cases loose
  · have settled := (json_overrides_settled list "").2.1 p
    refine ⟨settled.answered.mpr ?_, fun accepted => ?_⟩
    · have scalars : ∀ d ∈ [.text "restriction_keys", .int 1, .bool true], Datum.IsScalar d := by
        simp only [List.forall_mem_cons]
        exact ⟨rfl, rfl, rfl, List.forall_mem_nil _⟩
      have known : category? Term.ofName? (.text "restriction_keys") ≠ none := by decide
      refine ⟨scalars, .int 1, by simp, rfl, ?_⟩
      refine List.forall_mem_cons.mpr ⟨fun stray => absurd stray known, ?_⟩
      exact List.forall_mem_cons.mpr ⟨fun _ => rfl, List.forall_mem_singleton.mpr fun _ => rfl⟩
    · obtain ⟨entries, same, -⟩ := settled.accepted.mp accepted
      cases same
  · have settled := (json_overrides_settled barrier "\x22gate\x22").2.2 b
    rw [settled.answered, settled.accepted, loaded]
    refine ⟨?_, ?_⟩
    · rintro _ ⟨⟩
      exact fun empty => absurd empty (by decide)
    · rintro ⟨_, ⟨⟩, entries, same, -⟩
      cases same

/-- An empty list has no strays and is no mapping. -/
theorem emptyList_unanswered :
    Json.read "[]" = .ok (.list []) ∧ (Datum.list []).IsJson ∧
      ¬ Answered (Categories.standard.overriddenBy (.list [])) ∧
        ¬ Answered (Vocabulary.standard.overriddenBy (.list [])) := by
  refine ⟨rfl, .list (List.forall_mem_nil _), ?_, ?_⟩
  · exact fun answered => nomatch answered_error.mp answered
  · exact fun answered => nomatch answered_error.mp answered

end Overrides
end StepFree
