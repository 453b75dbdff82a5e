import StepFree.Network.Attributes

namespace StepFree

structure GraphKind where
  directed : Bool
  parallel : Bool
  deriving DecidableEq, Repr

namespace GraphKind

def name (k : GraphKind) : String :=
  match k.directed, k.parallel with
  | false, false => "graph"
  | true, false => "digraph"
  | false, true => "multigraph"
  | true, true => "multidigraph"

def all : List GraphKind := [⟨false, false⟩, ⟨true, false⟩, ⟨false, true⟩, ⟨true, true⟩]

def ofName? (s : String) : Option GraphKind :=
  all.find? (·.name = s)

end GraphKind

/-- An edge. Its ends are kept as they were named and as places in the list of nodes. The key tells
parallel edges apart. `serial` grows with every edge that is added; the edges between two nodes share
as their `slot` the serial of the one that first joined the nodes. -/
structure GraphEdge where
  tail : Datum
  head : Datum
  tailPlace : Nat
  headPlace : Nat
  key : Key
  serial : Nat
  slot : Nat
  attributes : Attributes

/-- What an edge is called when it is visited: its ends, and its key where edges can be parallel. -/
structure EdgeName where
  owner : Nat
  neighbour : Nat
  key? : Option Key
  deriving DecidableEq

namespace GraphEdge

def joins (directed : Bool) (u v : Nat) (e : GraphEdge) : Bool :=
  (e.tailPlace = u && e.headPlace = v) || (!directed && e.tailPlace = v && e.headPlace = u)

end GraphEdge

namespace GraphKind

variable (k : GraphKind) (e : GraphEdge)

/-- The place of the node that an edge is visited from: its tail, or, without direction, the end that
was added first. -/
def owner : Nat :=
  if k.directed then e.tailPlace else min e.tailPlace e.headPlace

def neighbour : Nat :=
  if k.directed then e.headPlace else max e.tailPlace e.headPlace

def nameOf : EdgeName :=
  ⟨k.owner e, k.neighbour e, if k.parallel then some e.key else none⟩

def inOrder (f : GraphEdge) : Bool :=
  let i := k.owner e
  let j := k.owner f
  i < j || (i = j && (e.slot < f.slot || (e.slot = f.slot && e.serial ≤ f.serial)))

theorem joins_of_ends {k : GraphKind} {e f : GraphEdge} (owners : k.owner e = k.owner f)
    (neighbours : k.neighbour e = k.neighbour f) :
    e.joins k.directed f.tailPlace f.headPlace = true := by
  obtain ⟨directed, _⟩ := k
  cases directed with
  | true =>
    simp only [owner, neighbour, if_true] at owners neighbours
    simp [GraphEdge.joins, owners, neighbours]
  | false =>
    simp only [owner, neighbour, Bool.false_eq_true, if_false] at owners neighbours
    simp only [GraphEdge.joins, Bool.or_eq_true, Bool.and_eq_true, decide_eq_true_eq,
      Bool.not_false, true_and]
    omega

end GraphKind

namespace GraphEdge

def freeNumber (among : List GraphEdge) : Nat :=
  ((List.range' among.length (among.length + 1)).find? fun n =>
    !(among.map (·.key)).contains (.whole n)).getD among.length

theorem freeNumber_free (among : List GraphEdge) :
    Key.whole (freeNumber among) ∉ among.map (·.key) := by
  unfold freeNumber
  cases found : (List.range' among.length (among.length + 1)).find?
      fun n => !(among.map (·.key)).contains (.whole n) with
  | some n => simpa using List.find?_some found
  | none =>
    -- As many numbers as there are edges and one more cannot all be taken.
    have taken : (List.range' among.length (among.length + 1)).map (fun n : Nat => Key.whole n) ⊆
        among.map (·.key) := by
      intro k hk
      obtain ⟨n, hn, rfl⟩ := List.mem_map.mp hk
      simpa using List.find?_eq_none.mp found n hn
    have different : ((List.range' among.length (among.length + 1)).map
        (fun n : Nat => Key.whole n)).Nodup := by
      refine List.Pairwise.map _ ?_ (List.nodup_range' (s := among.length) (n := among.length + 1))
      intro a b hab same
      have numbers : (a : Int) = b := by simpa using same
      exact hab (Int.ofNat.inj numbers)
    have crowded := List.Nodup.length_le_of_subset different taken
    simp only [List.length_map, List.length_range'] at crowded
    omega

def nextSerial (edges : List GraphEdge) : Nat :=
  (edges.map (·.serial + 1)).foldl max 0

theorem le_foldl_max {l : List Nat} {m n : Nat} (h : n ≤ m ∨ n ∈ l) : n ≤ l.foldl max m := by
  induction l generalizing m with
  | nil => simpa using h
  | cons a r ih =>
    apply ih
    rcases h with h | h
    · exact .inl (Nat.le_trans h (Nat.le_max_left m a))
    · rcases List.mem_cons.mp h with rfl | h
      · exact .inl (Nat.le_max_right m n)
      · exact .inr h

theorem serial_lt_next {edges : List GraphEdge} {e : GraphEdge} (he : e ∈ edges) :
    e.serial < nextSerial edges :=
  le_foldl_max (.inr (List.mem_map_of_mem he))

end GraphEdge
end StepFree
