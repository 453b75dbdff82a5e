import StepFree.Proofs.Network.Run

namespace StepFree

namespace Graph

def annotatedNodes (p : Profile) (k : Nat) (g : Graph) : Graph :=
  { g with nodes := g.nodes.mapIdx fun i n => if i < k then n.annotated p else n }

theorem annotatedNodes_zero (p : Profile) (g : Graph) : g.annotatedNodes p 0 = g := by
  refine eq_of_parts rfl ?_ rfl
  apply List.ext_getElem?
  intro i
  simp [annotatedNodes]

theorem nodeData_annotatedNodes (p : Profile) (k : Nat) (g : Graph) :
    (g.annotatedNodes p k).nodeData k = g.nodeData k := by
  cases h : g.nodes[k]? <;> simp [nodeData, annotatedNodes, List.getElem?_mapIdx, h]

theorem annotatedNodes_succ (p : Profile) (k : Nat) (g : Graph) :
    (g.annotatedNodes p k).setNodeData k
        ((g.nodeData k).writeNode (p.blocksNode (g.nodeData k))) =
      g.annotatedNodes p (k + 1) := by
  refine eq_of_parts rfl ?_ rfl
  apply List.ext_getElem?
  intro i
  simp only [setNodeData, annotatedNodes, List.getElem?_modify, List.getElem?_mapIdx]
  cases h : g.nodes[i]? with
  | none => rfl
  | some n =>
    by_cases here : k = i
    · subst here
      simp [nodeData, h, GraphNode.annotated]
    · have places : i < k + 1 ↔ i < k := by omega
      simp [here, places]

theorem annotatedNodes_length (p : Profile) (g : Graph) :
    g.annotatedNodes p g.nodes.length = { g with nodes := g.nodes.map (·.annotated p) } := by
  refine eq_of_parts rfl ?_ rfl
  apply List.ext_getElem?
  intro i
  simp only [annotatedNodes, List.getElem?_mapIdx, List.getElem?_map]
  cases h : g.nodes[i]? with
  | none => rfl
  | some n =>
    have inside : i < g.nodes.length := (List.getElem?_eq_some_iff.mp h).1
    simp [inside]

end Graph

namespace Progress

/-- How far the work has come when also the nodes at the first places have been visited. -/
def pastNodes (p : Profile) (s : Progress) (k : Nat) : Progress where
  desk := s.desk.change (Graph.annotatedNodes p k)
  counts := { s.counts with blockedNodes := s.counts.blockedNodes +
    (s.desk.work.nodes.take k).countP fun n => p.blocksNode n.attributes }
  excluded := s.excluded

variable (p : Profile) (s : Progress) {k : Nat}

theorem pastNodes_zero : s.pastNodes p 0 = s := by
  rw [pastNodes, Desk.change_id _ (Graph.annotatedNodes_zero p _)]
  rfl

theorem visitNode_pastNodes (inside : k < s.desk.work.nodes.length) :
    p.visitNode (s.pastNodes p k) k = s.pastNodes p (k + 1) := by
  have data : (s.pastNodes p k).desk.work.nodeData k = s.desk.work.nodeData k := by
    rw [pastNodes, Desk.work_change, Graph.nodeData_annotatedNodes]
  have desk : (s.pastNodes p k).desk.change (fun g =>
      g.setNodeData k ((g.nodeData k).writeNode (p.blocksNode (s.desk.work.nodeData k)))) =
        (s.pastNodes p (k + 1)).desk := by
    rw [pastNodes, pastNodes, Desk.change_change]
    apply Desk.change_congr
    rw [Graph.nodeData_annotatedNodes, Graph.annotatedNodes_succ]
  have counts : (s.pastNodes p k).counts.addNode (p.blocksNode (s.desk.work.nodeData k)) =
      (s.pastNodes p (k + 1)).counts := by
    have node : s.desk.work.nodes[k]? = some s.desk.work.nodes[k] :=
      List.getElem?_eq_getElem inside
    have attributes : s.desk.work.nodeData k = s.desk.work.nodes[k].attributes := by
      rw [Graph.nodeData, node]
      rfl
    rw [attributes]
    simp only [pastNodes, Counts.addNode, List.take_add_one, node, Option.toList_some,
      List.countP_append, List.countP_singleton, Nat.add_assoc]
    cases p.blocksNode s.desk.work.nodes[k].attributes <;> rfl
  rw [Profile.visitNode, data, desk, counts]
  rfl

theorem visitNodes_range (inside : k ≤ s.desk.work.nodes.length) :
    p.visitNodes (List.range k) s = s.pastNodes p k := by
  induction k with
  | zero => exact (s.pastNodes_zero p).symm
  | succ k ih =>
    calc p.visitNodes (List.range (k + 1)) s
      _ = p.visitNode (p.visitNodes (List.range k) s) k := by
        rw [List.range_succ, Profile.visitNodes, List.foldl_append]
        rfl
      _ = p.visitNode (s.pastNodes p k) k := by rw [ih (Nat.le_of_lt inside)]
      _ = s.pastNodes p (k + 1) := s.visitNode_pastNodes p inside

end Progress
end StepFree
