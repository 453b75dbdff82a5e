import StepFree.Proofs.Network.Outcome

/-! Annotating a graph anew. Whatever an annotation has written, be it finished or not, the next one reads
none of it and writes over all of it, so that only the last annotation leaves a trace. -/
namespace StepFree

namespace Attributes

/-- Whether attributes are what others were, but for the result of a way. -/
def SameButWay (a b : Attributes) : Prop :=
  b = a ∨ ∃ r, b = a.writeWay r

def SameButNode (a b : Attributes) : Prop :=
  b = a ∨ ∃ isBlocked, b = a.writeNode isBlocked

variable {a b : Attributes}

theorem SameButWay.tagged (same : SameButWay a b) : b.tagged = a.tagged := by
  rcases same with rfl | ⟨r, rfl⟩
  · rfl
  · exact tagged_writeWay a r

theorem SameButWay.writeWay (same : SameButWay a b) (last : WayResult) :
    b.writeWay last = a.writeWay last := by
  rcases same with rfl | ⟨r, rfl⟩
  · rfl
  · exact writeWay_writeWay a r last

theorem SameButNode.tagged (same : SameButNode a b) : b.tagged = a.tagged := by
  rcases same with rfl | ⟨isBlocked, rfl⟩
  · rfl
  · exact tagged_writeNode a isBlocked

theorem SameButNode.writeNode (same : SameButNode a b) (last : Bool) :
    b.writeNode last = a.writeNode last := by
  rcases same with rfl | ⟨isBlocked, rfl⟩
  · rfl
  · exact writeNode_writeNode a isBlocked last

end Attributes

open Attributes

theorem GraphEdge.annotatedData_sameButWay (p : Profile) (ledger? : Option Ledger) (e : GraphEdge) :
    SameButWay e.attributes (e.annotatedData p ledger?) := by
  unfold annotatedData
  split
  · exact .inr ⟨_, rfl⟩
  · exact .inl rfl

namespace Graph

def withData (g : Graph) (edgeData : GraphEdge → Attributes) (nodeData : GraphNode → Attributes) :
    Graph :=
  { g.withEdgeData edgeData with nodes := g.nodes.map fun n => { n with attributes := nodeData n } }

/-- Whether a graph is what another was, but for the results of ways and nodes. -/
def SameButResults (g h : Graph) : Prop :=
  ∃ edgeData nodeData, h = g.withData edgeData nodeData ∧
    (∀ e, SameButWay e.attributes (edgeData e)) ∧ ∀ n, SameButNode n.attributes (nodeData n)

theorem annotate_sameButResults (g : Graph) (p : Profile) (ledger? : Option Ledger) :
    g.SameButResults (g.annotate p ledger? false).desk.given := by
  cases fault : g.firstFault? p ledger? with
  | some f =>
    rw [annotate_of_fault fault]
    refine ⟨_, (·.attributes), eq_of_parts rfl (List.map_id g.nodes).symm rfl, ?_, fun _ => .inl rfl⟩
    intro e
    split
    · exact e.annotatedData_sameButWay p ledger?
    · exact .inl rfl
  | none =>
    rw [annotate_of_fine fault]
    refine ⟨(·.annotatedData p ledger?), fun n => n.attributes.writeNode _, rfl, ?_, ?_⟩
    · exact fun e => e.annotatedData_sameButWay p ledger?
    · exact fun n => .inr ⟨_, rfl⟩

variable {g h : Graph} (same : g.SameButResults h) (p : Profile) (ledger? : Option Ledger)

include same

theorem SameButResults.firstFault? : h.firstFault? p ledger? = g.firstFault? p ledger? := by
  obtain ⟨edgeData, nodeData, rfl, edges, _⟩ := same
  have visits : (g.withData edgeData nodeData).visits =
      g.visits.map fun e => { e with attributes := edgeData e } := g.visits_withEdgeData edgeData
  rw [Graph.firstFault?, Graph.firstFault?, visits, List.findSome?_map]
  congr 1
  funext e
  simp only [Function.comp_apply, GraphEdge.fault?, p.edgeResult_congr ledger? (edges e).tagged]

theorem SameButResults.counts : h.counts p ledger? = g.counts p ledger? := by
  obtain ⟨edgeData, nodeData, rfl, edges, nodes⟩ := same
  have verdicts (e : GraphEdge) : GraphEdge.verdict? p ledger? { e with attributes := edgeData e } =
      e.verdict? p ledger? := by
    rw [GraphEdge.verdict?, GraphEdge.verdict?, p.edgeResult_congr ledger? (edges e).tagged]
  have blocked (n : GraphNode) : p.blocksNode (nodeData n) = p.blocksNode n.attributes := by
    rw [Profile.blocksNode, Profile.blocksNode, (nodes n).tagged]
  simp only [Graph.counts, Counts.ofEdges, withData, withEdgeData, List.countP_map,
    Function.comp_def, verdicts, blocked]

theorem SameButResults.annotatedAll (fine : g.firstFault? p ledger? = none) :
    h.annotatedAll p ledger? = g.annotatedAll p ledger? := by
  obtain ⟨edgeData, nodeData, rfl, edges, nodes⟩ := same
  refine eq_of_parts rfl ?_ ?_
  · change (g.nodes.map _).map _ = g.nodes.map _
    rw [List.map_map]
    apply List.map_congr_left
    intro n _
    simp only [Function.comp_apply, GraphNode.annotated, Profile.blocksNode, (nodes n).tagged,
      (nodes n).writeNode]
  · change (g.edges.map _).map _ = g.edges.map _
    rw [List.map_map]
    apply List.map_congr_left
    intro e he
    obtain ⟨r, result⟩ := result_of_fine fine he
    have again : p.edgeResult ledger? (edgeData e) = .ok r :=
      (p.edgeResult_congr ledger? (edges e).tagged).trans result
    simp only [Function.comp_apply, GraphEdge.annotatedData, again, result, (edges e).writeWay]

theorem SameButResults.outcome :
    (h.annotate p ledger? false).outcome = (g.annotate p ledger? false).outcome := by
  have faults := same.firstFault? p ledger?
  cases fault : g.firstFault? p ledger? with
  | some f => rw [annotate_of_fault fault, annotate_of_fault (faults.trans fault)]
  | none =>
    rw [annotate_of_fine fault, annotate_of_fine (faults.trans fault), same.counts]

theorem SameButResults.annotate {c : Counts}
    (returned : (g.annotate p ledger? false).outcome = .ok c) :
    h.annotate p ledger? false = g.annotate p ledger? false := by
  cases fault : g.firstFault? p ledger? with
  | some f =>
    rw [annotate_of_fault fault] at returned
    cases returned
  | none =>
    have faults := same.firstFault? p ledger?
    rw [annotate_of_fine fault, annotate_of_fine (faults.trans fault), same.counts]
    refine congrArg (Annotated.mk · _) ?_
    exact congrArg (Desk.mk · none) (same.annotatedAll p ledger? fault)

omit same

/-- An annotation after another one, finished or not, ends like one of the graph as it was and, if it
returns, leaves the same graph and the same counts. So annotating twice alike is annotating once. -/
theorem last_annotation_wins (g : Graph) (p last : Profile) (ledger? lastLedger? : Option Ledger) :
    let after := (g.annotate p ledger? false).desk.given
    (after.annotate last lastLedger? false).outcome =
      (g.annotate last lastLedger? false).outcome ∧
    (∀ c, (g.annotate last lastLedger? false).outcome = .ok c →
      after.annotate last lastLedger? false = g.annotate last lastLedger? false) ∧
    ∀ c, (g.annotate p ledger? false).outcome = .ok c →
      after.annotate p ledger? false = ⟨.lay after false, .ok c⟩ := by
  have same := annotate_sameButResults g p ledger?
  refine ⟨same.outcome last lastLedger?, fun c => same.annotate last lastLedger?, ?_⟩
  intro c returned
  rw [same.annotate p ledger? returned]
  cases fault : g.firstFault? p ledger? with
  | some f =>
    rw [annotate_of_fault fault] at returned
    cases returned
  | none =>
    rw [annotate_of_fine fault] at returned ⊢
    cases returned
    rfl

def footwayToFerry : Graph :=
  let footway := ((empty ⟨true, true⟩).addEdge (.int 1) (.int 2) [("highway", .text "footway")]).1
  (footway.addEdge (.int 2) (.int 3) [("route", .text "ferry"),
    ("duration:seconds", .text "1e-300"), ("estimated_distance", .text "1e300")]).1

def knowingFerries : Profile :=
  ⟨{}, (Lookups.standard {}).fix { ferrySpeed? := some (.measured 8.0) }⟩

theorem footwayToFerry_visits : footwayToFerry.visits = footwayToFerry.edges :=
  List.mergeSort_of_pairwise (by decide +kernel)

theorem footwayToFerry_stopped : ∃ f, footwayToFerry.annotate default none false =
    ⟨.lay (footwayToFerry.annotatedAt default none [⟨0, 1, some (.whole 0)⟩]) false, .error f⟩ := by
  cases fault : footwayToFerry.firstFault? default none with
  | none =>
    rw [firstFault?, footwayToFerry_visits] at fault
    exact absurd (congrArg Option.isNone fault) (by decide +kernel)
  | some f =>
    have names : (footwayToFerry.visitsBeforeFault default none).map
        footwayToFerry.kind.nameOf = [⟨0, 1, some (.whole 0)⟩] := by
      rw [visitsBeforeFault, footwayToFerry_visits]
      decide +kernel
    refine ⟨f, ?_⟩
    rw [annotate_of_fault fault, names]
    rfl

/-- The first annotation stops at the ferry, behind the footway; the second leaves no trace of it. -/
theorem stopped_annotation_leaves_no_trace :
    let stopped := footwayToFerry.annotate default none false
    (∃ f, stopped.outcome = .error f) ∧
    (∃ e ∈ stopped.desk.given.edges, (e.attributes.get? Attributes.access).isSome = true) ∧
    (∃ c, (footwayToFerry.annotate knowingFerries none false).outcome = .ok c) ∧
    stopped.desk.given.annotate knowingFerries none false =
      footwayToFerry.annotate knowingFerries none false := by
  obtain ⟨f, stopped⟩ := footwayToFerry_stopped
  have fine : footwayToFerry.firstFault? knowingFerries none = none := by
    rw [firstFault?_eq_none]
    decide +kernel
  have returned := congrArg Annotated.outcome (annotate_of_fine fine false)
  obtain ⟨_, again, _⟩ := last_annotation_wins footwayToFerry default knowingFerries none none
  refine ⟨⟨f, congrArg Annotated.outcome stopped⟩, ?_, ⟨_, returned⟩, again _ returned⟩
  rw [stopped]
  change ∃ e ∈ (footwayToFerry.annotatedAt default none [⟨0, 1, some (.whole 0)⟩]).edges,
    (e.attributes.get? Attributes.access).isSome = true
  decide +kernel

end Graph
end StepFree
