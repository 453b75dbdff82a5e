import StepFree.Proofs.Network.Outcome

/-! Dropping excluded edges. The copy that loses its excluded edges is the graph annotated in place without
them, and annotating it again changes nothing, since a result is never read as a tag. -/
namespace StepFree

namespace GraphEdge

variable (p : Profile) (ledger? : Option Ledger) (e : GraphEdge)

theorem edgeResult_annotatedData :
    p.edgeResult ledger? (e.annotatedData p ledger?) = p.edgeResult ledger? e.attributes := by
  cases result : p.edgeResult ledger? e.attributes with
  | error f => rw [annotatedData, result, result]
  | ok r =>
    have read := p.edgeResult_congr ledger? (Attributes.tagged_writeWay e.attributes r)
    rw [annotatedData_of_result result, read, result]

theorem verdict?_annotated : (e.annotated p ledger?).verdict? p ledger? = e.verdict? p ledger? := by
  rw [verdict?, verdict?, annotated, edgeResult_annotatedData]

theorem annotatedData_annotated :
    (e.annotated p ledger?).annotatedData p ledger? = e.annotatedData p ledger? := by
  have again := e.edgeResult_annotatedData p ledger?
  cases result : p.edgeResult ledger? e.attributes with
  | error f =>
    rw [result] at again
    rw [annotatedData, annotated, again]
  | ok r =>
    rw [result] at again
    rw [annotatedData, annotated, again, annotatedData_of_result result]
    exact Attributes.writeWay_writeWay e.attributes r r

end GraphEdge

theorem GraphNode.annotated_again (p : Profile) (n : GraphNode) :
    (n.annotated p).annotated p = n.annotated p := by
  simp only [GraphNode.annotated, Profile.blocksNode, Attributes.tagged_writeNode,
    Attributes.writeNode_writeNode]

namespace Graph

variable {g : Graph} {p : Profile} {ledger? : Option Ledger}

theorem filterEdges_congr {keep other : GraphEdge → Bool}
    (same : ∀ e ∈ g.edges, keep e = other e) : g.filterEdges keep = g.filterEdges other :=
  eq_of_parts rfl rfl (List.filter_congr same)

theorem removeEdges_nil : g.removeEdges [] = g := by
  refine eq_of_parts rfl rfl ?_
  simp [removeEdges, filterEdges]

theorem mem_annotatedAll {f : GraphEdge} (hf : f ∈ (g.annotatedAll p ledger?).edges) :
    ∃ e ∈ g.edges, e.annotated p ledger? = f :=
  List.mem_map.mp hf

theorem removeEdges_excludedAmong (fine : g.firstFault? p ledger? = none) :
    (g.annotatedAll p ledger?).removeEdges (g.excludedAmong p ledger? g.visits) =
      (g.annotatedAll p ledger?).filterEdges fun e => !e.carries .excluded := by
  apply filterEdges_congr
  intro f hf
  obtain ⟨e, he, rfl⟩ := mem_annotatedAll hf
  obtain ⟨r, result⟩ := result_of_fine fine he
  -- A recorded name is that of one edge only, parallel or not.
  have recorded : g.kind.nameOf e ∈ g.excludedAmong p ledger? g.visits ↔
      r.verdict = .excluded := by
    rw [excludedAmong, List.mem_map]
    constructor
    · rintro ⟨d, hd, name⟩
      obtain ⟨hd, excluded⟩ := List.mem_filter.mp hd
      rw [g.eq_of_name_eq (g.mem_visits.mp hd) he name,
        GraphEdge.verdict?_of_result result] at excluded
      simpa using excluded
    · intro excluded
      refine ⟨e, List.mem_filter.mpr ⟨g.mem_visits.mpr he, ?_⟩, rfl⟩
      rw [GraphEdge.verdict?_of_result result]
      simpa using excluded
  rw [GraphEdge.carries_annotated result]
  change (!(g.excludedAmong p ledger? g.visits).contains (g.kind.nameOf e)) = _
  congr 1
  rw [Bool.eq_iff_iff, List.contains_iff_mem, recorded, decide_eq_true_eq]

variable (g p ledger?) in
/-- The graph annotated in place, without the edges that are excluded then. -/
def accessible : Graph :=
  (g.annotatedAll p ledger?).filterEdges fun e => !e.carries .excluded

theorem mem_accessible {f : GraphEdge} (hf : f ∈ (g.accessible p ledger?).edges) :
    ∃ e ∈ g.edges, e.annotated p ledger? = f ∧ f.carries .excluded = false := by
  obtain ⟨hf, included⟩ := List.mem_filter.mp hf
  obtain ⟨e, he, same⟩ := mem_annotatedAll hf
  exact ⟨e, he, same, by simpa using included⟩

theorem accessible_fine (fine : g.firstFault? p ledger? = none) :
    (g.accessible p ledger?).firstFault? p ledger? = none := by
  rw [firstFault?_eq_none]
  intro f hf
  obtain ⟨e, he, rfl, _⟩ := mem_accessible hf
  obtain ⟨r, result⟩ := result_of_fine fine he
  exact GraphEdge.fault?_eq_none.mpr ⟨r, (e.edgeResult_annotatedData p ledger?).trans result⟩

theorem accessible_annotatedAll :
    (g.accessible p ledger?).annotatedAll p ledger? = g.accessible p ledger? := by
  have edges : (g.accessible p ledger?).withEdgeData (·.annotatedData p ledger?) =
      g.accessible p ledger? := by
    apply withEdgeData_self
    intro f hf
    obtain ⟨e, _, rfl, _⟩ := mem_accessible hf
    exact e.annotatedData_annotated p ledger?
  have nodes : (g.accessible p ledger?).nodes.map (·.annotated p) =
      (g.accessible p ledger?).nodes := by
    change (g.nodes.map (·.annotated p)).map (·.annotated p) = g.nodes.map (·.annotated p)
    rw [List.map_map]
    apply List.map_congr_left
    intro n _
    exact n.annotated_again p
  have list := congrArg Graph.edges edges
  exact eq_of_parts rfl nodes list

theorem verdict?_of_mem_accessible (fine : g.firstFault? p ledger? = none) {f : GraphEdge}
    (hf : f ∈ (g.accessible p ledger?).edges) : f.verdict? p ledger? ≠ some .excluded := by
  obtain ⟨e, he, rfl, included⟩ := mem_accessible hf
  obtain ⟨r, result⟩ := result_of_fine fine he
  rw [GraphEdge.carries_annotated result] at included
  rw [GraphEdge.verdict?_annotated, GraphEdge.verdict?_of_result result]
  simpa using included

theorem accessible_excludedAmong (fine : g.firstFault? p ledger? = none) :
    (g.accessible p ledger?).excludedAmong p ledger? (g.accessible p ledger?).visits = [] := by
  rw [excludedAmong, List.map_eq_nil_iff, List.filter_eq_nil_iff]
  intro f hf
  simpa using verdict?_of_mem_accessible fine ((g.accessible p ledger?).mem_visits.mp hf)

theorem accessible_countP (fine : g.firstFault? p ledger? = none) {v : Verdict}
    (included : v ≠ .excluded) :
    (g.accessible p ledger?).edges.countP (fun e => e.verdict? p ledger? = some v) =
      g.edges.countP fun e => e.verdict? p ledger? = some v := by
  change ((g.edges.map (·.annotated p ledger?)).filter fun e => !e.carries .excluded).countP _ = _
  rw [List.countP_filter, List.countP_map]
  apply List.countP_congr
  intro e he
  obtain ⟨r, result⟩ := result_of_fine fine he
  simp only [Function.comp_apply, GraphEdge.verdict?_annotated, GraphEdge.verdict?_of_result result,
    GraphEdge.carries_annotated result, Bool.and_eq_true, decide_eq_true_eq, Option.some.injEq]
  constructor
  · exact And.left
  · rintro rfl
    exact ⟨rfl, by simpa using included⟩

theorem accessible_counts (fine : g.firstFault? p ledger? = none) :
    (g.accessible p ledger?).counts p ledger? = { g.counts p ledger? with excluded := 0 } := by
  have routable := accessible_countP fine (v := .routable) (by decide)
  have ferry := accessible_countP fine (v := .ferry) (by decide)
  have excluded : (g.accessible p ledger?).edges.countP
      (fun e => e.verdict? p ledger? = some .excluded) = 0 := by
    rw [List.countP_eq_zero]
    intro f hf
    simpa using verdict?_of_mem_accessible fine hf
  have blocked : (g.accessible p ledger?).nodes.countP (fun n => p.blocksNode n.attributes) =
      g.nodes.countP fun n => p.blocksNode n.attributes := by
    change (g.nodes.map (·.annotated p)).countP _ = _
    rw [List.countP_map]
    apply List.countP_congr
    intro n _
    simp only [Function.comp_apply, GraphNode.annotated, Profile.blocksNode,
      Attributes.tagged_writeNode]
  simp only [counts, Counts.ofEdges, routable, ferry, excluded, blocked]

theorem annotate_dropping (fine : g.firstFault? p ledger? = none) :
    g.annotate p ledger? true =
      ⟨(Desk.lay g true).change (accessible · p ledger?), .ok (g.counts p ledger?)⟩ := by
  rw [annotate_of_fine fine]
  refine congrArg (Annotated.mk · _) ?_
  apply Desk.change_congr
  rw [Desk.work_lay]
  exact removeEdges_excludedAmong fine

theorem annotate_accessible (fine : g.firstFault? p ledger? = none) (drop : Bool) :
    (g.accessible p ledger?).annotate p ledger? drop =
      ⟨.lay (g.accessible p ledger?) drop, .ok { g.counts p ledger? with excluded := 0 }⟩ := by
  rw [annotate_of_fine (accessible_fine fine), accessible_counts fine, accessible_excludedAmong fine]
  refine congrArg (Annotated.mk · _) ?_
  apply Desk.change_id
  rw [Desk.work_lay, accessible_annotatedAll]
  cases drop with
  | false => rfl
  | true => exact removeEdges_nil

/-- Dropping excluded edges leaves the given graph as it is, ends like the annotation in place, and
yields the graph annotated in place without its excluded edges, which a second annotation with or
without dropping does not change. -/
theorem drop_agrees_with_in_place (g : Graph) (p : Profile) (ledger? : Option Ledger) :
    (g.annotate p ledger? true).desk.given = g ∧
    (g.annotate p ledger? true).outcome = (g.annotate p ledger? false).outcome ∧
    ∀ c, (g.annotate p ledger? true).outcome = .ok c →
      let whole := (g.annotate p ledger? false).desk.given
      let kept := (g.annotate p ledger? true).desk.work
      kept.kind = whole.kind ∧ kept.nodes = whole.nodes ∧
      kept.edges = whole.edges.filter (fun e => !e.carries .excluded) ∧
      kept.visits = whole.visits.filter (fun e => !e.carries .excluded) ∧
      ∀ drop, kept.annotate p ledger? drop = ⟨.lay kept drop, .ok { c with excluded := 0 }⟩ := by
  cases fault : g.firstFault? p ledger? with
  | some f =>
    -- Both modes stop at the same edge, and the copy is given up.
    rw [annotate_of_fault fault, annotate_of_fault fault]
    refine ⟨Desk.given_change_copy g _, rfl, ?_⟩
    rintro c ⟨⟩
  | none =>
    rw [annotate_dropping fault, annotate_of_fine fault]
    refine ⟨Desk.given_change_copy g _, rfl, ?_⟩
    intro c outcome
    cases outcome
    refine ⟨rfl, rfl, rfl, ?_, ?_⟩
    · exact visits_filterEdges _ _
    · intro drop
      exact annotate_accessible fault drop

def stepsBesideFootway : Graph :=
  let steps := ((empty ⟨true, true⟩).addEdge (.int 1) (.int 2) [("highway", .text "steps")]).1
  (steps.addEdge (.int 1) (.int 2) [("highway", .text "footway")]).1

theorem stepsBesideFootway_fine : stepsBesideFootway.firstFault? default none = none := by
  rw [firstFault?_eq_none]
  decide +kernel

theorem drop_keeps_the_footway :
    (stepsBesideFootway.annotate default none true).outcome = .ok ⟨1, 0, 1, 0⟩ ∧
    (stepsBesideFootway.annotate default none true).desk.work.edges.map (·.key) = [.whole 1] := by
  have outcome : (stepsBesideFootway.annotate default none true).outcome = .ok ⟨1, 0, 1, 0⟩ := by
    rw [annotate_of_fine stepsBesideFootway_fine]
    exact congrArg Except.ok (by decide +kernel)
  obtain ⟨_, _, returned⟩ := drop_agrees_with_in_place stepsBesideFootway default none
  obtain ⟨_, _, edges, _⟩ := returned _ outcome
  refine ⟨outcome, ?_⟩
  rw [edges, annotate_of_fine stepsBesideFootway_fine]
  decide +kernel

end Graph
end StepFree
