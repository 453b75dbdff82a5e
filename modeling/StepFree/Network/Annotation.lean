import StepFree.Network.Graph
import StepFree.Relation.Ledger
import StepFree.Way.Access

/-! Annotating a graph. Every edge is classified as a way and then every node as a node, from the
attributes that it has when it is visited, and the results are written into these attributes. Either
the graph itself is annotated, or a copy that loses its excluded edges in the end. An edge that cannot be
classified ends the work; the edges visited before it stay annotated. -/
namespace StepFree

structure Counts where
  routable : Nat
  ferry : Nat
  excluded : Nat
  blockedNodes : Nat
  deriving DecidableEq, Repr

namespace Counts

def zero : Counts := ⟨0, 0, 0, 0⟩

def addEdge (c : Counts) : Verdict → Counts
  | .routable => { c with routable := c.routable + 1 }
  | .ferry => { c with ferry := c.ferry + 1 }
  | .excluded => { c with excluded := c.excluded + 1 }

def addNode (c : Counts) (isBlocked : Bool) : Counts :=
  { c with blockedNodes := c.blockedNodes + isBlocked.toNat }

def total (c : Counts) : Nat := c.routable + c.ferry + c.excluded

def log (c : Counts) : LogRecord :=
  ⟨.info, "Annotated " ++ toString c.total ++ " edges (" ++ toString c.routable ++ " routable, " ++
    toString c.ferry ++ " ferry, " ++ toString c.excluded ++ " excluded), " ++
    toString c.blockedNodes ++ " blocked nodes"⟩

end Counts

/-- The graph that was given, and the copy of it if there is one. -/
structure Desk where
  given : Graph
  copy? : Option Graph

namespace Desk

def lay (g : Graph) (copied : Bool) : Desk :=
  ⟨g, if copied then some g else none⟩

def work (d : Desk) : Graph :=
  d.copy?.getD d.given

def change (d : Desk) (f : Graph → Graph) : Desk :=
  match d.copy? with
  | some copy => { d with copy? := some (f copy) }
  | none => { d with given := f d.given }

end Desk

/-- How far an annotation has come. The names are those of the edges that were excluded. -/
structure Progress where
  desk : Desk
  counts : Counts
  excluded : List EdgeName

def Progress.enter (s : Progress) (n : EdgeName) (r : WayResult) : Progress where
  desk := s.desk.change fun g => g.setEdgeData n ((g.edgeData n).writeWay r)
  counts := s.counts.addEdge r.verdict
  excluded := if r.verdict.isExcluded then s.excluded ++ [n] else s.excluded

structure Annotated where
  desk : Desk
  outcome : Except Fault Counts

namespace Profile

variable (p : Profile) (ledger? : Option Ledger)

def edgeResult (a : Attributes) : Except Fault WayResult := do
  let way := a.tagged
  let bonus ← (ledger?.map (·.edgeBonus way.id)).getD (.ok 0)
  p.wayResult way.tags bonus

def blocksNode (a : Attributes) : Bool :=
  (p.nodeDecision a.tagged.tags).blocked

def visitEdge (s : Progress) (n : EdgeName) : Except Fault Progress :=
  (p.edgeResult ledger? (s.desk.work.edgeData n)).map (s.enter n)

/-- Visits edges one after the other, up to the first that cannot be classified. -/
def visitEdges : List EdgeName → Progress → Progress × Option Fault
  | [], s => (s, none)
  | n :: r, s =>
    match p.visitEdge ledger? s n with
    | .ok s => visitEdges r s
    | .error f => (s, some f)

def visitNode (s : Progress) (i : Nat) : Progress :=
  let isBlocked := p.blocksNode (s.desk.work.nodeData i)
  { s with
    desk := s.desk.change fun g => g.setNodeData i ((g.nodeData i).writeNode isBlocked)
    counts := s.counts.addNode isBlocked }

def visitNodes (places : List Nat) (s : Progress) : Progress :=
  places.foldl p.visitNode s

end Profile

namespace Graph

/-- Annotates a graph, or, if excluded edges are to be dropped, a copy of it. -/
def annotate (g : Graph) (p : Profile) (ledger? : Option Ledger) (drop : Bool) : Annotated :=
  let start : Progress := ⟨.lay g drop, .zero, []⟩
  match p.visitEdges ledger? (start.desk.work.visits.map start.desk.work.kind.nameOf) start with
  | (s, some f) => ⟨s.desk, .error f⟩
  | (s, none) =>
    let s := p.visitNodes (List.range s.desk.work.nodes.length) s
    ⟨if drop then s.desk.change (·.removeEdges s.excluded) else s.desk, .ok s.counts⟩

end Graph
end StepFree
