import StepFree.Network.Edge

/-! Graphs of ways. Nodes and edges are listed in the order in which they were added. Edges are visited in
another order: by the node that owns them, then by neighbour, then in the order of adding. -/
namespace StepFree

structure GraphNode where
  id : Datum
  key : Key
  attributes : Attributes

/-- A graph. No two edges have one name, and the serials of the edges grow. -/
structure Graph where
  kind : GraphKind
  nodes : List GraphNode
  edges : List GraphEdge
  distinct : (edges.map kind.nameOf).Nodup
  ascending : edges.Pairwise (·.serial < ·.serial)

namespace Graph

def empty (kind : GraphKind) : Graph := ⟨kind, [], [], .nil, .nil⟩

def ofDatum (d : Datum) : Except Fault Graph := .error (.notGraph d.kind)

def place? (g : Graph) (k : Key) : Option Nat :=
  g.nodes.findIdx? (·.key.same k)

/-- Adds a node, or updates the attributes of one that is there, and tells its place. Null is no
node. -/
def placeNode (g : Graph) (id : Datum) (attributes : Attributes) : Except Fault (Graph × Nat) := do
  let k ← id.key
  match g.place? k with
  | some i =>
    return ({ g with nodes := g.nodes.modify i fun n =>
      { n with attributes := n.attributes.update attributes } }, i)
  | none =>
    if k = .null then throw .nullNode
    return ({ g with nodes := g.nodes ++ [⟨id, k, Attributes.update [] attributes⟩] },
      g.nodes.length)

def addNode (g : Graph) (id : Datum) (attributes : Attributes) : Except Fault Graph :=
  (g.placeNode id attributes).map Prod.fst

def freshEdge (g : Graph) (tail head : Datum) (u v : Nat) (attributes : Attributes) : GraphEdge :=
  let between := g.edges.filter (GraphEdge.joins g.kind.directed u v)
  let serial := GraphEdge.nextSerial g.edges
  let slot := (between.head?.map (·.slot)).getD serial
  ⟨tail, head, u, v, .whole (GraphEdge.freeNumber between), serial, slot,
    Attributes.update [] attributes⟩

def append (g : Graph) (tail head : Datum) (u v : Nat) (attributes : Attributes)
    (room : g.kind.parallel = true ∨ g.edges.filter (GraphEdge.joins g.kind.directed u v) = []) :
    Graph :=
  { g with
    edges := g.edges ++ [g.freshEdge tail head u v attributes]
    distinct := by
      rw [List.map_append, List.nodup_append]
      refine ⟨g.distinct, by simp, ?_⟩
      rintro n hn _ hm rfl
      obtain ⟨e, he, same⟩ := List.mem_map.mp hn
      rw [List.map_singleton, List.mem_singleton, ← same] at hm
      obtain ⟨owners, neighbours, keys⟩ := EdgeName.mk.inj hm
      have hj := GraphKind.joins_of_ends owners neighbours
      have between : e ∈ g.edges.filter (GraphEdge.joins g.kind.directed u v) :=
        List.mem_filter.mpr ⟨he, hj⟩
      rcases room with parallel | apart
      · simp only [parallel, if_true, Option.some.injEq] at keys
        refine GraphEdge.freeNumber_free (g.edges.filter (GraphEdge.joins g.kind.directed u v)) ?_
        exact List.mem_map.mpr ⟨e, between, keys⟩
      · rw [apart] at between
        exact List.not_mem_nil between
    ascending := by
      rw [List.pairwise_append]
      refine ⟨g.ascending, by simp, ?_⟩
      intro e he f hf
      rw [List.mem_singleton.mp hf]
      exact GraphEdge.serial_lt_next he }

def withEdgeData (g : Graph) (data : GraphEdge → Attributes) : Graph :=
  { g with
    edges := g.edges.map fun e => { e with attributes := data e }
    distinct := by
      rw [List.map_map]
      exact g.distinct
    ascending := List.Pairwise.map _ (fun _ _ h => h) g.ascending }

/-- Adds an edge between two nodes, or updates the one that is there if parallel edges are not
allowed. -/
def joinNodes (g : Graph) (tail head : Datum) (u v : Nat) (attributes : Attributes) : Graph :=
  if room : g.kind.parallel = true ∨ g.edges.filter (GraphEdge.joins g.kind.directed u v) = [] then
    g.append tail head u v attributes room
  else
    g.withEdgeData fun e =>
      if e.joins g.kind.directed u v then e.attributes.update attributes else e.attributes

/-- Adds an edge. Nodes that are missing are added first; the tail stays even if the head cannot be
added. -/
def addEdge (g : Graph) (tail head : Datum) (attributes : Attributes) : Graph × Option Fault :=
  match g.placeNode tail [] with
  | .error f => (g, some f)
  | .ok (g, u) =>
    match g.placeNode head [] with
    | .error f => (g, some f)
    | .ok (g, v) => (g.joinNodes tail head u v attributes, none)

def visits (g : Graph) : List GraphEdge :=
  g.edges.mergeSort g.kind.inOrder

def edgeData (g : Graph) (n : EdgeName) : Attributes :=
  ((g.edges.find? (g.kind.nameOf · = n)).map (·.attributes)).getD []

def setEdgeData (g : Graph) (n : EdgeName) (a : Attributes) : Graph :=
  g.withEdgeData fun e => if g.kind.nameOf e = n then a else e.attributes

def nodeData (g : Graph) (i : Nat) : Attributes :=
  (g.nodes[i]?.map (·.attributes)).getD []

def setNodeData (g : Graph) (i : Nat) (a : Attributes) : Graph :=
  { g with nodes := g.nodes.modify i fun n => { n with attributes := a } }

def filterEdges (g : Graph) (keep : GraphEdge → Bool) : Graph :=
  { g with
    edges := g.edges.filter keep
    distinct := g.distinct.sublist (List.filter_sublist.map _)
    ascending := g.ascending.sublist List.filter_sublist }

def removeEdges (g : Graph) (names : List EdgeName) : Graph :=
  g.filterEdges fun e => !names.contains (g.kind.nameOf e)

end Graph
end StepFree
