import Mathlib.Data.List.Nodup
import StepFree.Network.Graph

namespace StepFree

namespace GraphKind

variable (k : GraphKind) (e f g : GraphEdge)

theorem inOrder_iff :
    k.inOrder e f = true ↔ k.owner e < k.owner f ∨ (k.owner e = k.owner f ∧
      (e.slot < f.slot ∨ (e.slot = f.slot ∧ e.serial ≤ f.serial))) := by
  simp [inOrder]

theorem inOrder_trans (ef : k.inOrder e f = true) (fg : k.inOrder f g = true) :
    k.inOrder e g = true := by
  rw [inOrder_iff] at ef fg ⊢
  omega

theorem inOrder_total : (k.inOrder e f || k.inOrder f e) = true := by
  rw [Bool.or_eq_true, inOrder_iff, inOrder_iff]
  omega

theorem serial_eq_of_inOrder (ef : k.inOrder e f = true) (fe : k.inOrder f e = true) :
    e.serial = f.serial := by
  rw [inOrder_iff] at ef fe
  omega

end GraphKind

namespace Graph

variable (g : Graph)

theorem eq_of_serial_eq {e f : GraphEdge} (he : e ∈ g.edges) (hf : f ∈ g.edges)
    (same : e.serial = f.serial) : e = f := by
  have serials : (g.edges.map (·.serial)).Nodup :=
    List.Pairwise.map _ (fun _ _ less => Nat.ne_of_lt less) g.ascending
  exact List.inj_on_of_nodup_map serials he hf same

theorem eq_of_name_eq {e f : GraphEdge} (he : e ∈ g.edges) (hf : f ∈ g.edges)
    (same : g.kind.nameOf e = g.kind.nameOf f) : e = f :=
  List.inj_on_of_nodup_map g.distinct he hf same

theorem visits_perm : g.visits.Perm g.edges :=
  List.mergeSort_perm g.edges _

theorem mem_visits {e : GraphEdge} : e ∈ g.visits ↔ e ∈ g.edges :=
  g.visits_perm.mem_iff

theorem visits_pairwise : g.visits.Pairwise fun e f => g.kind.inOrder e f = true :=
  List.pairwise_mergeSort g.kind.inOrder_trans g.kind.inOrder_total g.edges

theorem names_of_visits_nodup : (g.visits.map g.kind.nameOf).Nodup :=
  (g.visits_perm.map g.kind.nameOf).nodup_iff.mpr g.distinct

theorem visits_withEdgeData (data : GraphEdge → Attributes) :
    (g.withEdgeData data).visits = g.visits.map fun e => { e with attributes := data e } := by
  unfold visits
  rw [List.map_mergeSort]
  · rfl
  · intro e _ f _
    rfl

theorem visits_filterEdges (keep : GraphEdge → Bool) :
    (g.filterEdges keep).visits = g.visits.filter keep := by
  -- Both lists are in order and hold the same edges, and no two edges tie, as their serials differ.
  have left := (g.filterEdges keep).visits_perm
  have right : (g.visits.filter keep).Perm (g.edges.filter keep) := g.visits_perm.filter keep
  refine List.Perm.eq_of_pairwise ?_ (g.filterEdges keep).visits_pairwise
    (g.visits_pairwise.filter keep) (left.trans right.symm)
  intro e f he hf ef fe
  have he' : e ∈ g.edges := (List.mem_filter.mp (left.mem_iff.mp he)).1
  have hf' : f ∈ g.edges := (List.mem_filter.mp (right.mem_iff.mp hf)).1
  exact g.eq_of_serial_eq he' hf' (g.kind.serial_eq_of_inOrder e f ef fe)

theorem eq_of_parts {g h : Graph} (kind : g.kind = h.kind) (nodes : g.nodes = h.nodes)
    (edges : g.edges = h.edges) : g = h := by
  cases g
  cases h
  cases kind
  cases nodes
  cases edges
  rfl

theorem withEdgeData_congr {data other : GraphEdge → Attributes}
    (same : ∀ e ∈ g.edges, data e = other e) : g.withEdgeData data = g.withEdgeData other := by
  refine eq_of_parts rfl rfl ?_
  apply List.map_congr_left
  intro e he
  rw [same e he]

theorem withEdgeData_self {data : GraphEdge → Attributes}
    (same : ∀ e ∈ g.edges, data e = e.attributes) : g.withEdgeData data = g := by
  refine eq_of_parts rfl rfl ?_
  calc g.edges.map (fun e => { e with attributes := data e })
    _ = g.edges.map id := by
      apply List.map_congr_left
      intro e he
      rw [same e he]
      rfl
    _ = g.edges := List.map_id g.edges

theorem withEdgeData_twice (data after : GraphEdge → Attributes) :
    (g.withEdgeData data).withEdgeData after =
      g.withEdgeData fun e => after { e with attributes := data e } := by
  refine eq_of_parts rfl rfl ?_
  exact List.map_map

theorem edgeData_nameOf {e : GraphEdge} (he : e ∈ g.edges) :
    g.edgeData (g.kind.nameOf e) = e.attributes := by
  unfold edgeData
  cases found : g.edges.find? (g.kind.nameOf · = g.kind.nameOf e) with
  | none => exact absurd (List.find?_eq_none.mp found e he) (by simp)
  | some f =>
    have name : g.kind.nameOf f = g.kind.nameOf e := by simpa using List.find?_some found
    rw [g.eq_of_name_eq (List.mem_of_find?_eq_some found) he name]
    rfl

theorem edgeData_withEdgeData (data : GraphEdge → Attributes) {e : GraphEdge} (he : e ∈ g.edges) :
    (g.withEdgeData data).edgeData (g.kind.nameOf e) = data e :=
  (g.withEdgeData data).edgeData_nameOf (e := { e with attributes := data e })
    (List.mem_map_of_mem he)

theorem setEdgeData_withEdgeData (data : GraphEdge → Attributes) (n : EdgeName) (a : Attributes) :
    (g.withEdgeData data).setEdgeData n a =
      g.withEdgeData fun e => if g.kind.nameOf e = n then a else data e :=
  g.withEdgeData_twice data _

end Graph
end StepFree
