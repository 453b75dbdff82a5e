import StepFree.ValueSet

/-! The tags of a way, a node or a relation: for each key one value or several. A key that is present
has at least one value, and no key is present twice. A key with several values passes a check if
one of them does; only free texts, such as speeds, are read from the first value alone. -/
namespace StepFree

structure Values where
  first : String
  rest : List String
  deriving DecidableEq, Repr

namespace Values

def toList (v : Values) : List String := v.first :: v.rest

def ofList? : List String → Option Values
  | [] => none
  | first :: rest => some ⟨first, rest⟩

end Values

/-- Sets the values of a key: at its place if it is present, else at the end. -/
def insertEntry (key : String) (values : Values) : List (String × Values) → List (String × Values)
  | [] => [(key, values)]
  | e :: r => if e.1 = key then (key, values) :: r else e :: insertEntry key values r

theorem mem_keys_insertEntry {key k : String} {values : Values} {l : List (String × Values)} :
    k ∈ (insertEntry key values l).map Prod.fst ↔ k = key ∨ k ∈ l.map Prod.fst := by
  induction l with
  | nil => simp [insertEntry]
  | cons e r ih =>
    unfold insertEntry
    split
    · rename_i h
      simp [h]
    · simp only [List.map_cons, List.mem_cons, ih]
      grind

theorem nodup_insertEntry (key : String) (values : Values) {l : List (String × Values)}
    (h : (l.map Prod.fst).Nodup) : ((insertEntry key values l).map Prod.fst).Nodup := by
  induction l with
  | nil => simp [insertEntry]
  | cons e r ih =>
    rw [List.map_cons, List.nodup_cons] at h
    unfold insertEntry
    split
    · rename_i hk
      rw [List.map_cons, List.nodup_cons]
      exact ⟨hk ▸ h.1, h.2⟩
    · rename_i hk
      rw [List.map_cons, List.nodup_cons]
      refine ⟨fun hm => ?_, ih h.2⟩
      rcases mem_keys_insertEntry.mp hm with hm | hm
      · exact hk hm
      · exact h.1 hm

def lookupEntry (key : String) : List (String × Values) → Option Values
  | [] => none
  | e :: r => if e.1 = key then some e.2 else lookupEntry key r

theorem lookup_insertEntry (key k : String) (values : Values) (l : List (String × Values)) :
    lookupEntry k (insertEntry key values l) =
      if k = key then some values else lookupEntry k l := by
  induction l with
  | nil => simp [insertEntry, lookupEntry, eq_comm]
  | cons e r ih =>
    unfold insertEntry
    split <;> simp only [lookupEntry, ih] <;> grind

structure Tags where
  entries : List (String × Values)
  distinct : (entries.map Prod.fst).Nodup
  deriving DecidableEq

namespace Tags

def empty : Tags := ⟨[], .nil⟩

instance : Inhabited Tags := ⟨empty⟩

def insert (t : Tags) (key : String) (values : Values) : Tags :=
  ⟨insertEntry key values t.entries, nodup_insertEntry key values t.distinct⟩

def find? (t : Tags) (key : String) : Option Values :=
  lookupEntry key t.entries

theorem find?_insert (t : Tags) (key k : String) (values : Values) :
    (t.insert key values).find? k = if k = key then some values else t.find? k :=
  lookup_insertEntry key k values t.entries

def values (t : Tags) (key : String) : List String :=
  ((t.find? key).map Values.toList).getD []

def has (t : Tags) (key : String) : Bool :=
  (t.find? key).isSome

theorem has_iff {t : Tags} {key : String} : t.has key = true ↔ t.values key ≠ [] := by
  unfold has values
  cases t.find? key <;> simp [Values.toList]

def carries (t : Tags) (key value : String) : Bool :=
  (t.values key).contains value

def carriesAny (t : Tags) (key : String) (accepted : ValueSet) : Bool :=
  (t.values key).any accepted.contains

def anyCarries (t : Tags) (keys : List String) (accepted : ValueSet) : Bool :=
  keys.any (t.carriesAny · accepted)

theorem carriesAny_iff {t : Tags} {key : String} {accepted : ValueSet} :
    t.carriesAny key accepted = true ↔ ∃ v ∈ t.values key, v ∈ accepted := by
  simp [carriesAny, ValueSet.contains]

def first? (t : Tags) (key : String) : Option String :=
  (t.find? key).map Values.first

def keys (t : Tags) : List String :=
  t.entries.map Prod.fst

def keysStarting (t : Tags) (start : String) : List String :=
  t.keys.filter fun k => start.toList.isPrefixOf k.toList

def size (t : Tags) : Nat :=
  t.entries.length

def joined (t : Tags) : List (String × String) :=
  t.entries.map fun (k, v) => (k, ";".intercalate v.toList)

end Tags
end StepFree
