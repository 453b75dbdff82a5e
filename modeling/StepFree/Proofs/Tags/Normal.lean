import Mathlib.Data.List.Induction
import Mathlib.Tactic.TFAE
import StepFree.Proofs.Tags.Likeness
import StepFree.Proofs.Text.Pieces
import StepFree.Tags.Reading

/-! The normal form of tags. Entries whose keys have the same text become one: it stands where the first of
them stood that had a value, and has the values of the last of them that had some. All values are
trimmed, so tags that are built anew from what they store are the same. And as no key is without a
value, all ways to ask whether a key is there give one answer. -/
namespace StepFree

open StepFree.Text

namespace Text

/-- Whether a text neither begins nor ends with a blank. -/
def Trimmed (s : String) : Prop :=
  (∀ c ∈ s.toList.head?, isBlank c = false) ∧ ∀ c ∈ s.toList.getLast?, isBlank c = false

theorem trimmed_trim (s : String) : Trimmed (trim s) := by
  rw [Trimmed, trim, String.toList_ofList]
  exact ⟨head?_trimBy isBlank _, getLast?_trimBy isBlank _⟩

theorem trim_of_trimmed {s : String} (trimmed : Trimmed s) : trim s = s := by
  rw [trim, trimBy_of_ends trimmed.1 trimmed.2, String.ofList_toList]

end Text

namespace Datum

def isNull : Datum → Bool
  | .null => true
  | _ => false

/-- The values that a datum tells of a key: the trimmed texts of the members of a collection, nulls left
out, or the trimmed text of anything else that is not null. -/
inductive Tells : Datum → List String → Prop where
  | null : Tells .null []
  | single {d : Datum} (one : d.collection? = none) (some : d.isNull = false) :
      Tells d [trim d.plain]
  | several {d : Datum} {items : List Datum} (members : d.collection? = some items) :
      Tells d ((items.filter (!·.isNull)).map fun item => trim item.plain)

theorem tagValues_of_collection {d : Datum} {items : List Datum}
    (members : d.collection? = some items) :
    d.tagValues = (items.filter (!·.isNull)).map fun item => trim item.plain := by
  rw [← List.filterMap_eq_map, List.filterMap_filter]
  cases d with
  | list | tuple | set =>
    cases members
    refine List.filterMap_congr fun item _ => ?_
    cases item <;> rfl
  | _ => cases members

theorem tells_tagValues (d : Datum) : d.Tells d.tagValues := by
  cases d with
  | null => exact .null
  | list | tuple | set =>
    rw [tagValues_of_collection rfl]
    exact .several rfl
  | _ => exact .single rfl rfl

theorem Tells.trimmed {d : Datum} {values : List String} (told : d.Tells values) :
    ∀ v ∈ values, Trimmed v := by
  cases told with
  | null => exact List.forall_mem_nil _
  | single => exact List.forall_mem_singleton.mpr (trimmed_trim _)
  | several => exact List.forall_mem_map.mpr fun item _ => trimmed_trim item.plain

theorem tagValues_texts {l : List String} (trimmed : ∀ v ∈ l, Trimmed v) :
    (tuple (l.map .text)).tagValues = l := by
  rw [tagValues, List.filterMap_map]
  refine (List.filterMap_congr fun v hv => ?_).trans List.filterMap_some
  exact congrArg some (trim_of_trimmed (trimmed v hv))

end Datum

theorem keys_insertEntry (key : String) (values : Values) (l : List (String × Values)) :
    (insertEntry key values l).map Prod.fst =
      if key ∈ l.map Prod.fst then l.map Prod.fst else l.map Prod.fst ++ [key] := by
  induction l with
  | nil => rfl
  | cons e r ih =>
    by_cases here : e.1 = key
    · simp [insertEntry, here]
    · simp only [insertEntry, if_neg here, List.map_cons, ih, List.mem_cons, Ne.symm here,
        false_or]
      split <;> rfl

theorem insertEntry_of_fresh {key : String} (values : Values) {l : List (String × Values)}
    (fresh : key ∉ l.map Prod.fst) : insertEntry key values l = l ++ [(key, values)] := by
  induction l with
  | nil => rfl
  | cons e r ih =>
    rw [List.map_cons, List.mem_cons, not_or] at fresh
    rw [insertEntry, if_neg (Ne.symm fresh.1), ih fresh.2]
    rfl

namespace Tags

def valued (e : Datum × Datum) : Bool :=
  !e.2.tagValues.isEmpty

/-- The last entry with a value among those whose keys have a certain text. -/
def last? (entries : List (Datum × Datum)) (key : String) : Option (Datum × Datum) :=
  entries.findRev? fun e => valued e && e.1.plain = key

variable {entries : List (Datum × Datum)} {e : Datum × Datum}

theorem last?_append (entries : List (Datum × Datum)) (e : Datum × Datum) (key : String) :
    last? (entries ++ [e]) key =
      if valued e && e.1.plain = key then some e else last? entries key := by
  rw [last?, List.findRev?_eq_find?_reverse, List.reverse_append, List.reverse_singleton,
    List.singleton_append, List.find?_cons, last?, List.findRev?_eq_find?_reverse]
  cases valued e && decide (e.1.plain = key) <;> rfl

theorem ofEntries_append (entries : List (Datum × Datum)) (e : Datum × Datum) :
    ofEntries (entries ++ [e]) = (ofEntries entries).enter e.1 e.2 := by
  rw [ofEntries, List.foldl_append]
  rfl

theorem enter_eq (t : Tags) (e : Datum × Datum) :
    valued e = false ∧ t.enter e.1 e.2 = t ∨
      ∃ values, valued e = true ∧ values.toList = e.2.tagValues ∧
        t.enter e.1 e.2 = t.insert e.1.plain values := by
  rw [enter, valued]
  cases e.2.tagValues with
  | nil => exact .inl ⟨rfl, rfl⟩
  | cons v r => exact .inr ⟨⟨v, r⟩, rfl, rfl, rfl⟩

theorem keys_ofEntries (entries : List (Datum × Datum)) :
    (ofEntries entries).keys = ((entries.filter valued).map (·.1.plain)).eraseDups := by
  -- Entries are put in from the left, so the induction takes off the last one.
  induction entries using List.reverseRecOn with
  | nil => rfl
  | append_singleton r e ih =>
    rw [ofEntries_append, List.filter_append, List.map_append]
    rcases enter_eq (ofEntries r) e with ⟨none, same⟩ | ⟨values, some, -, inserted⟩
    · rw [same, ih, List.filter_singleton, none]
      simp
    · have step : ((ofEntries r).insert e.1.plain values).keys =
          if e.1.plain ∈ (ofEntries r).keys then (ofEntries r).keys
          else (ofEntries r).keys ++ [e.1.plain] := keys_insertEntry ..
      rw [inserted, step, ih, List.filter_singleton, some, List.eraseDups_append]
      by_cases old : e.1.plain ∈ (r.filter valued).map (·.1.plain)
      · simp [List.removeAll, old]
      · simp [List.removeAll, old, List.eraseDups_cons]

theorem values_ofEntries (entries : List (Datum × Datum)) (key : String) :
    (ofEntries entries).values key = ((last? entries key).map (·.2.tagValues)).getD [] := by
  induction entries using List.reverseRecOn with
  | nil => rfl
  | append_singleton r e ih =>
    rw [ofEntries_append, last?_append]
    rcases enter_eq (ofEntries r) e with ⟨none, same⟩ | ⟨more, some, told, inserted⟩
    · rw [same, ih, none]
      rfl
    · rw [inserted, values, find?_insert, some]
      by_cases here : key = e.1.plain
      · simp [here, told]
      · rw [if_neg here, if_neg (by simp [Ne.symm here])]
        exact ih

theorem trimmed_ofEntries {key v : String} (member : v ∈ (ofEntries entries).values key) :
    Trimmed v := by
  rw [values_ofEntries] at member
  cases found : last? entries key with
  | none => rw [found] at member; cases member
  | some e =>
    rw [found] at member
    exact e.2.tells_tagValues.trimmed v member

def toEntries (t : Tags) : List (Datum × Datum) :=
  t.entries.map fun e => (.text e.1, .tuple (e.2.toList.map .text))

theorem enter_texts {t : Tags} {key : String} {values : Values}
    (trimmed : ∀ v ∈ values.toList, Trimmed v) :
    t.enter (.text key) (.tuple (values.toList.map .text)) = t.insert key values := by
  rw [enter, Datum.tagValues_texts trimmed]
  rfl

theorem entries_ofEntries {l : List (String × Values)} (distinct : (l.map Prod.fst).Nodup)
    (trimmed : ∀ e ∈ l, ∀ v ∈ e.2.toList, Trimmed v) :
    (ofEntries (l.map fun e => (.text e.1, .tuple (e.2.toList.map .text)))).entries = l := by
  induction l using List.reverseRecOn with
  | nil => rfl
  | append_singleton r e ih =>
    obtain ⟨before, last⟩ := List.forall_mem_append.mp trimmed
    obtain ⟨distinct, -, apart⟩ := List.nodup_append.mp (List.map_append ▸ distinct)
    have fresh : e.1 ∉ r.map Prod.fst := fun old => apart e.1 old e.1 (List.mem_singleton.mpr rfl) rfl
    rw [List.map_append, List.map_singleton, ofEntries_append,
      enter_texts (List.forall_mem_singleton.mp last)]
    change insertEntry e.1 e.2 _ = _
    rw [ih distinct before, insertEntry_of_fresh e.2 fresh]

/-- Tags with trimmed values are built anew from what they store. -/
theorem ofEntries_toEntries {t : Tags} (trimmed : ∀ e ∈ t.entries, ∀ v ∈ e.2.toList, Trimmed v) :
    ofEntries t.toEntries = t := by
  have same := entries_ofEntries t.distinct trimmed
  cases t
  exact (Tags.mk.injEq ..).mpr same

theorem mem_keys_iff {t : Tags} {key : String} : key ∈ t.keys ↔ t.has key = true := by
  rw [has, Option.isSome_iff_exists, keys, List.mem_map]
  constructor
  · rintro ⟨⟨k, values⟩, member, rfl⟩
    exact ⟨values, find?_eq_some.mpr member⟩
  · rintro ⟨values, found⟩
    exact ⟨(key, values), find?_eq_some.mp found, rfl⟩

theorem keys_joined (t : Tags) : t.joined.map Prod.fst = t.keys := by
  rw [joined, List.map_map]
  rfl

theorem first?_isSome (t : Tags) (key : String) : (t.first? key).isSome = t.has key :=
  Option.isSome_map

theorem exists_carries_iff {t : Tags} {key : String} :
    (∃ v, t.carries key v = true) ↔ t.has key = true := by
  rw [has_iff]
  simp only [carries, List.contains_iff_mem]
  constructor
  · rintro ⟨_, member⟩
    exact List.ne_nil_of_mem member
  · exact List.exists_mem_of_ne_nil _

section
variable {t : Tags} {key accepted : Datum} {values : Values} {members : List Datum}

theorem lookup_eq_some :
    t.lookup key = .ok (some values) ↔ ∃ k, key = .text k ∧ t.find? k = some values := by
  constructor
  · intro found
    obtain ⟨_, -, found⟩ := bind_eq_ok_iff.mp found
    cases key with
    | text k => exact ⟨k, rfl, Except.ok.inj found⟩
    | _ => cases found
  · rintro ⟨k, rfl, found⟩
    exact congrArg Except.ok found

theorem lookup_isSome_iff : (t.lookup key).map Option.isSome = .ok true ↔
    ∃ values, t.lookup key = .ok (some values) := by
  cases t.lookup key with
  | error f => exact iff_of_false (fun h => nomatch h) (fun ⟨_, h⟩ => nomatch h)
  | ok found => cases found <;> simp [Except.map]

theorem lookup_first_iff : (∃ v, (t.lookup key).map (·.map Values.first) = .ok (some v)) ↔
    ∃ values, t.lookup key = .ok (some values) := by
  cases t.lookup key with
  | error f => exact iff_of_false (fun ⟨_, h⟩ => nomatch h) (fun ⟨_, h⟩ => nomatch h)
  | ok found => cases found <;> simp [Except.map]

theorem mem_joined_iff : key ∈ (t.joined.map Prod.fst).map Datum.text ↔
    ∃ values, t.lookup key = .ok (some values) := by
  rw [keys_joined, List.mem_map]
  simp only [lookup_eq_some, mem_keys_iff, has, Option.isSome_iff_exists]
  constructor
  · rintro ⟨k, ⟨values, found⟩, rfl⟩
    exact ⟨values, k, rfl, found⟩
  · rintro ⟨values, k, rfl, found⟩
    exact ⟨k, ⟨values, found⟩, rfl⟩

def among (values : Values) : Datum → Bool
  | .text s => values.toList.contains s
  | _ => false

theorem lookup_of_key {k : Key} (named : key.key = .ok k) : ∃ found, t.lookup key = .ok found := by
  cases key with
  | text s => exact ⟨t.find? s, rfl⟩
  | _ => exact ⟨none, bind_eq_ok_iff.mpr ⟨(), by rw [named]; rfl, rfl⟩⟩

theorem meets_text_iff {v : String} : t.meets key (.text v) = .ok true ↔
    ∃ values, t.lookup key = .ok (some values) ∧ v ∈ values.toList := by
  rw [meets]
  cases t.lookup key with
  | error f => exact iff_of_false (fun h => nomatch h) (fun ⟨_, h, _⟩ => nomatch h)
  | ok found =>
    cases found with
    | none => exact iff_of_false (fun h => nomatch h) (fun ⟨_, h, _⟩ => nomatch h)
    | some values =>
      change Except.ok (values.toList.contains v) = _ ↔ _
      simp

theorem meets_of_found (found : t.lookup key = .ok (some values))
    (other : ∀ s, accepted ≠ .text s) (listed : accepted.setMembers = .ok members) :
    t.meets key accepted = .ok (members.any (among values)) := by
  refine bind_eq_ok_iff.mpr ⟨some values, found, ?_⟩
  cases accepted with
  | text s => exact absurd rfl (other s)
  | _ => exact bind_eq_ok_iff.mpr ⟨members, listed, rfl⟩

theorem any_among_iff : members.any (among values) = true ↔
    ∃ s, .text s ∈ members ∧ s ∈ values.toList := by
  rw [List.any_eq_true]
  constructor
  · rintro ⟨d, member, kept⟩
    cases d with
    | text s => exact ⟨s, member, List.contains_iff_mem.mp kept⟩
    | _ => cases kept
  · rintro ⟨s, member, kept⟩
    exact ⟨.text s, member, List.contains_iff_mem.mpr kept⟩

theorem meets_members_iff (other : ∀ s, accepted ≠ .text s)
    (listed : accepted.setMembers = .ok members) :
    t.meets key accepted = .ok true ↔ ∃ s, .text s ∈ members ∧ t.meets key (.text s) = .ok true := by
  simp only [meets_text_iff]
  cases looked : t.lookup key with
  | error f =>
    rw [meets, looked]
    exact iff_of_false (fun h => nomatch h) (fun ⟨_, _, _, h, _⟩ => nomatch h)
  | ok found =>
    cases found with
    | none =>
      rw [meets, looked]
      exact iff_of_false (fun h => nomatch h) (fun ⟨_, _, _, h, _⟩ => nomatch h)
    | some values =>
      rw [meets_of_found looked other listed, Except.ok.injEq, any_among_iff]
      simp

theorem carriesAny_iff_exists {k : String} {accepted : ValueSet} :
    t.carriesAny k accepted = true ↔ ∃ v ∈ accepted, t.carries k v = true := by
  simp only [carriesAny_iff, carries, List.contains_iff_mem, and_comm]

end

/-- What becomes of a mapping: its keys with a value, each at its first place; for each of them the last
values that are not empty; and these are trimmed and taken over unchanged when tags are built anew. -/
structure Normalises (entries : List (Datum × Datum)) (t : Tags) : Prop where
  told : ∀ e ∈ entries, e.2.Tells e.2.tagValues
  keys : t.keys = ((entries.filter valued).map (·.1.plain)).eraseDups
  values : ∀ k, t.values k = ((last? entries k).map (·.2.tagValues)).getD []
  nonempty : ∀ e ∈ t.entries, e.2.toList ≠ []
  trimmed : ∀ e ∈ t.entries, ∀ v ∈ e.2.toList, Trimmed v
  again : ofEntries t.toEntries = t

/-- The ways to ask for a key agree, be it a text or a datum, and so do those to ask for a value and for
one of several. Asking for what cannot be a key is an error and no answer at all. -/
structure Coherent (t : Tags) : Prop where
  presence : ∀ k, [t.has k = true, (t.first? k).isSome = true, k ∈ t.joined.map Prod.fst,
    ∃ v, t.carries k v = true].TFAE
  lookups : ∀ key, [(t.lookup key).map Option.isSome = .ok true,
    ∃ v, (t.lookup key).map (·.map Values.first) = .ok (some v),
    key ∈ (t.joined.map Prod.fst).map Datum.text,
    ∃ v, t.meets key (.text v) = .ok true].TFAE
  answers : ∀ key k, key.key = .ok k → (∃ found, t.lookup key = .ok found) ∧
    ∀ v, ∃ met, t.meets key (.text v) = .ok met
  collections : ∀ key accepted members, (∀ s, accepted ≠ .text s) →
    accepted.setMembers = .ok members →
    (t.meets key accepted = .ok true ↔ ∃ s, .text s ∈ members ∧ t.meets key (.text s) = .ok true)
  sets : ∀ k accepted, t.carriesAny k accepted = true ↔ ∃ v ∈ accepted, t.carries k v = true

theorem normalises_ofEntries (entries : List (Datum × Datum)) :
    Normalises entries (ofEntries entries) := by
  have trimmed : ∀ e ∈ (ofEntries entries).entries, ∀ v ∈ e.2.toList, Trimmed v := by
    rintro ⟨k, held⟩ member v kept
    have stored : v ∈ (ofEntries entries).values k := by
      rwa [Tags.values, find?_eq_some.mpr member]
    exact trimmed_ofEntries stored
  exact ⟨fun e _ => e.2.tells_tagValues, keys_ofEntries entries, values_ofEntries entries, fun e _ => List.cons_ne_nil _ _,
    trimmed, ofEntries_toEntries trimmed⟩

theorem coherent (t : Tags) : Coherent t where
  presence k := by
    tfae_have 1 ↔ 2 := by rw [first?_isSome]
    tfae_have 1 ↔ 3 := by rw [keys_joined, mem_keys_iff]
    tfae_have 1 ↔ 4 := exists_carries_iff.symm
    tfae_finish
  lookups key := by
    tfae_have 1 ↔ 2 := lookup_isSome_iff.trans lookup_first_iff.symm
    tfae_have 1 ↔ 3 := lookup_isSome_iff.trans mem_joined_iff.symm
    tfae_have 1 ↔ 4 := by
      simp only [lookup_isSome_iff, meets_text_iff]
      exact ⟨fun ⟨values, found⟩ => ⟨values.first, values, found, List.mem_cons_self⟩,
        fun ⟨_, values, found, _⟩ => ⟨values, found⟩⟩
    tfae_finish
  answers key k named := by
    obtain ⟨found, looked⟩ := t.lookup_of_key named
    refine ⟨⟨found, looked⟩, fun v => ?_⟩
    rw [meets, looked]
    cases found with
    | none => exact ⟨false, rfl⟩
    | some values => exact ⟨values.toList.contains v, rfl⟩
  collections _ _ _ := meets_members_iff
  sets _ _ := carriesAny_iff_exists

/-- Tags that are read from a mapping are in normal form, and all queries of them agree. -/
theorem ofEntries_normal_and_coherent (entries : List (Datum × Datum)) :
    Normalises entries (ofEntries entries) ∧ Coherent (ofEntries entries) :=
  ⟨normalises_ofEntries entries, (ofEntries entries).coherent⟩

example : ofEntries [(.int 1, .text " a "), (.text "b", .null), (.text "c", .text ""),
    (.text "1", .list [.null, .text "d\n", .int 2]), (.text "1", .list [])] =
      ⟨[("1", ⟨"d", ["2"]⟩), ("c", ⟨"", []⟩)], by decide⟩ := by
  decide

end Tags
end StepFree
