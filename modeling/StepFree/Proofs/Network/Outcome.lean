import Mathlib.Data.List.TakeWhile
import StepFree.Proofs.Network.NodeRun

namespace StepFree

namespace Graph

variable (g : Graph) (p : Profile) (ledger? : Option Ledger)

def firstFault? : Option Fault :=
  g.visits.findSome? (·.fault? p ledger?)

def visitsBeforeFault : List GraphEdge :=
  g.visits.takeWhile fun e => (e.fault? p ledger?).isNone

def annotatedAll : Graph :=
  { g.withEdgeData (·.annotatedData p ledger?) with nodes := g.nodes.map (·.annotated p) }

def counts : Counts :=
  { Counts.ofEdges p ledger? g.edges with
    blockedNodes := g.nodes.countP fun n => p.blocksNode n.attributes }

variable {g p ledger?}

theorem firstFault?_eq_none :
    g.firstFault? p ledger? = none ↔ ∀ e ∈ g.edges, e.fault? p ledger? = none := by
  simp only [firstFault?, List.findSome?_eq_none_iff, mem_visits]

theorem result_of_fine (fine : g.firstFault? p ledger? = none) {e : GraphEdge} (he : e ∈ g.edges) :
    ∃ r, p.edgeResult ledger? e.attributes = .ok r :=
  GraphEdge.fault?_eq_none.mp (firstFault?_eq_none.mp fine e he)

theorem visitsBeforeFault_of_fine (fine : g.firstFault? p ledger? = none) :
    g.visitsBeforeFault p ledger? = g.visits := by
  apply List.takeWhile_eq_self_iff.mpr
  intro e he
  rw [List.findSome?_eq_none_iff.mp fine e he]
  rfl

theorem visitEdges_all (copied : Bool) :
    p.visitEdges ledger? (g.visits.map g.kind.nameOf) ⟨.lay g copied, .zero, []⟩ =
      (g.reached p ledger? copied (g.visitsBeforeFault p ledger?), g.firstFault? p ledger?) := by
  have different : (([] ++ g.visits).map g.kind.nameOf).Nodup := g.names_of_visits_nodup
  rw [← @reached_nil g p ledger? copied]
  exact visitEdges_reached copied (fun e he => g.mem_visits.mp he) different

theorem annotatedAt_visits :
    g.annotatedAt p ledger? (g.visits.map g.kind.nameOf) =
      g.withEdgeData (·.annotatedData p ledger?) := by
  apply withEdgeData_congr
  intro e he
  exact if_pos (List.mem_map_of_mem (g.mem_visits.mpr he))

theorem counts_visits : Counts.ofEdges p ledger? g.visits = Counts.ofEdges p ledger? g.edges := by
  simp only [Counts.ofEdges, g.visits_perm.countP_eq]

theorem annotate_of_fault {f : Fault} (fault : g.firstFault? p ledger? = some f) (drop : Bool) :
    g.annotate p ledger? drop = ⟨(Desk.lay g drop).change fun h => h.annotatedAt p ledger?
      ((g.visitsBeforeFault p ledger?).map g.kind.nameOf), .error f⟩ := by
  simp only [annotate, Desk.work_lay, visitEdges_all, fault]
  rfl

theorem pastNodes_reached (copied : Bool) :
    (g.reached p ledger? copied g.visits).pastNodes p g.nodes.length =
      ⟨(Desk.lay g copied).change (annotatedAll · p ledger?), g.counts p ledger?,
        g.excludedAmong p ledger? g.visits⟩ := by
  have work : (g.reached p ledger? copied g.visits).desk.work =
      g.withEdgeData (·.annotatedData p ledger?) := by
    rw [work_reached, annotatedAt_visits]
  have desk : (g.reached p ledger? copied g.visits).desk.change
      (annotatedNodes p g.nodes.length) = (Desk.lay g copied).change (annotatedAll · p ledger?) := by
    rw [reached, Desk.change_change]
    apply Desk.change_congr
    rw [Desk.work_lay, annotatedAt_visits]
    exact annotatedNodes_length p (g.withEdgeData (·.annotatedData p ledger?))
  unfold Progress.pastNodes
  rw [desk, work]
  simp only [reached, counts_visits, counts, withEdgeData, List.take_length]
  simp [Counts.ofEdges]

/-- Where all edges have results, all edges and nodes are annotated. -/
theorem annotate_of_fine (fine : g.firstFault? p ledger? = none) (drop : Bool) :
    g.annotate p ledger? drop = ⟨(Desk.lay g drop).change fun h =>
      if drop then (h.annotatedAll p ledger?).removeEdges (g.excludedAmong p ledger? g.visits)
      else h.annotatedAll p ledger?, .ok (g.counts p ledger?)⟩ := by
  have nodes : (g.reached p ledger? drop g.visits).desk.work.nodes = g.nodes := by
    rw [work_reached]
    rfl
  simp only [annotate, Desk.work_lay, visitEdges_all, fine, visitsBeforeFault_of_fine fine]
  rw [nodes, Progress.visitNodes_range p _ (Nat.le_of_eq (congrArg List.length nodes.symm)),
    pastNodes_reached]
  cases drop with
  | false => rfl
  | true => rfl

end Graph
end StepFree
