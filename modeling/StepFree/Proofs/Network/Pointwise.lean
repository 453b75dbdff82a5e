import Mathlib.Data.List.Forall2
import StepFree.Proofs.Network.Outcome
import StepFree.Proofs.Profile.Contract
import StepFree.Proofs.Relation.EdgeBonus

namespace StepFree

theorem Band.factor_eq (b : Band) : b.factor = Float.ofNat b.value / 7.0 := by
  cases b <;> decide

namespace Attributes

/-- Whether the attributes of an edge tell a certain result and nothing less. -/
structure Tells (a : Attributes) (r : WayResult) : Prop where
  access : a.get? access = some (.text r.verdict.name)
  speed : a.get? speed = some ((r.speed?.map Speed.datum).getD .null)
  no_speed : a.get? Attributes.speed = some .null ↔ r.verdict = .excluded
  priority : a.get? priority = some ((r.band?.map fun b => Datum.int b.value).getD .null)
  no_priority : a.get? Attributes.priority = some .null ↔ r.verdict ≠ .routable
  factor : a.get? priorityFactor =
    some ((r.band?.map fun b => Datum.float (Float.ofNat b.value / 7.0)).getD .null)
  no_factor : a.get? priorityFactor = some .null ↔ r.verdict ≠ .routable
  relationBonus : a.get? relationBonus = some (.int r.relationBonus)

def edgeResults : List String := [access, speed, priority, priorityFactor, relationBonus]

theorem get?_writeWay_other (a : Attributes) (r : WayResult) {name : String}
    (other : name ∉ edgeResults) : (a.writeWay r).get? name = a.get? name :=
  get?_update_of_not_mem other a

theorem null_iff {α : Type} {f : α → Datum} (found : ∀ a, f a ≠ .null) (x? : Option α) :
    (x?.map f).getD .null = .null ↔ x? = none := by
  cases x? <;> simp [found]

theorem tells_writeWay {p : Profile} {t : Tags} {bonus : Int} {r : WayResult}
    (returned : p.wayResult t bonus = .ok r) (a : Attributes) : (a.writeWay r).Tells r := by
  have written (e : String × Datum) (he : e ∈ ofWay r) := get?_writeWay a r he
  simp only [ofWay, List.forall_mem_cons, Band.factor_eq] at written
  obtain ⟨access, speed, priority, factor, relationBonus, _⟩ := written
  obtain ⟨noSpeed, noBand⟩ := Profile.missing_iff returned
  have spoken (x : Speed) : x.datum ≠ .null := by cases x <;> exact Datum.noConfusion
  refine ⟨access, speed, ?_, priority, ?_, factor, ?_, relationBonus⟩
  · rw [speed, Option.some.injEq, null_iff spoken, noSpeed]
  · rw [priority, Option.some.injEq, null_iff (fun _ => Datum.noConfusion), noBand]
  · rw [factor, Option.some.injEq, null_iff (fun _ => Datum.noConfusion), noBand]

end Attributes

open Attributes

/-- The largest bonus that a ledger has for one of the ids of an edge; 0 if it has none for them, and
without a ledger. -/
def Attributes.HasBonus (a : Attributes) (ledger? : Option Ledger) (bonus : Int) : Prop :=
  match ledger? with
  | none => bonus = 0
  | some l => ∃ keys, a.HasIds keys ∧ (keys.filterMap l.get?).max?.getD 0 = bonus

theorem Attributes.hasBonus_of_eq_ok {a : Attributes} {ledger? : Option Ledger} {bonus : Int}
    (found : (ledger?.map (·.edgeBonus a.tagged.id)).getD (.ok 0) = .ok bonus) :
    a.HasBonus ledger? bonus := by
  cases ledger? with
  | none => exact (Except.ok.inj found).symm
  | some l => exact Ledger.edgeBonus_eq_ok_iff.mp found

/-- Whether an edge is another one with its own result. -/
structure AnnotatedEdge (p : Profile) (ledger? : Option Ledger) (e f : GraphEdge) : Prop where
  identity : f = { e with attributes := f.attributes }
  result : ∃ bonus r,
    (ledger?.map (·.edgeBonus e.attributes.tagged.id)).getD (.ok 0) = .ok bonus ∧
    e.attributes.HasBonus ledger? bonus ∧
    p.wayResult e.attributes.tagged.tags bonus = .ok r ∧ f.attributes.Tells r
  frame : ∀ name, name ∉ edgeResults → f.attributes.get? name = e.attributes.get? name

structure AnnotatedNode (p : Profile) (n m : GraphNode) : Prop where
  identity : m = { n with attributes := m.attributes }
  result : m.attributes.get? blocked =
    some (.bool (p.nodeDecision n.attributes.tagged.tags).blocked)
  frame : ∀ name, name ≠ blocked → m.attributes.get? name = n.attributes.get? name

def GraphNode.isBlocked (n : GraphNode) : Bool :=
  match n.attributes.get? blocked with
  | some (.bool b) => b
  | _ => false

/-- Whether a graph is another one with the results of its edges and nodes, and the counts fit. -/
structure Graph.AnnotatedAs (p : Profile) (ledger? : Option Ledger) (g h : Graph) (c : Counts) :
    Prop where
  kind : h.kind = g.kind
  edges : List.Forall₂ (AnnotatedEdge p ledger?) g.edges h.edges
  nodes : List.Forall₂ (AnnotatedNode p) g.nodes h.nodes
  routable : c.routable = h.edges.countP (·.carries .routable)
  ferry : c.ferry = h.edges.countP (·.carries .ferry)
  excluded : c.excluded = h.edges.countP (·.carries .excluded)
  total : c.routable + c.ferry + c.excluded = h.edges.length
  blockedNodes : c.blockedNodes = h.nodes.countP (·.isBlocked)

variable {p : Profile} {ledger? : Option Ledger}

theorem Profile.edgeResult_eq_ok {a : Attributes} {r : WayResult} :
    p.edgeResult ledger? a = .ok r ↔ ∃ bonus,
      (ledger?.map (·.edgeBonus a.tagged.id)).getD (.ok 0) = .ok bonus ∧
      p.wayResult a.tagged.tags bonus = .ok r := by
  change (ledger?.map (·.edgeBonus a.tagged.id)).getD (.ok 0) >>= p.wayResult a.tagged.tags =
    .ok r ↔ _
  cases (ledger?.map (·.edgeBonus a.tagged.id)).getD (.ok 0) with
  | error f => simp [bind, Except.bind]
  | ok bonus => simp [bind, Except.bind]

namespace GraphEdge

variable {e : GraphEdge} {r : WayResult} (result : p.edgeResult ledger? e.attributes = .ok r)

include result

theorem annotatedEdge : AnnotatedEdge p ledger? e (e.annotated p ledger?) := by
  obtain ⟨bonus, found, returned⟩ := Profile.edgeResult_eq_ok.mp result
  rw [annotated, annotatedData_of_result result]
  refine ⟨rfl, ⟨bonus, r, found, hasBonus_of_eq_ok found, returned,
    tells_writeWay returned e.attributes⟩, ?_⟩
  exact fun name other => get?_writeWay_other e.attributes r other

end GraphEdge

namespace GraphNode

variable (n : GraphNode)

theorem annotatedNode : AnnotatedNode p n (n.annotated p) := by
  refine ⟨rfl, ?_, fun name other => ?_⟩
  · exact (get?_set _ _ _ _).trans (if_pos rfl)
  · exact (get?_set _ _ _ _).trans (if_neg (Ne.symm other))

theorem isBlocked_annotated : (n.annotated p).isBlocked = p.blocksNode n.attributes := by
  rw [isBlocked, (annotatedNode n).result]
  rfl

end GraphNode

theorem Counts.total_ofEdges {edges : List GraphEdge}
    (fine : ∀ e ∈ edges, ∃ r, p.edgeResult ledger? e.attributes = .ok r) :
    (Counts.ofEdges p ledger? edges).total = edges.length := by
  induction edges with
  | nil => rfl
  | cons e rest ih =>
    obtain ⟨r, result⟩ := fine e List.mem_cons_self
    have counted := ih fun f hf => fine f (List.mem_cons_of_mem e hf)
    simp only [total, ofEdges] at counted
    simp only [total, ofEdges, List.countP_cons, GraphEdge.verdict?_of_result result,
      List.length_cons]
    cases r.verdict <;> simp <;> omega

namespace Graph

variable {g : Graph} (fine : g.firstFault? p ledger? = none)

include fine

theorem countP_carries (v : Verdict) :
    (g.annotatedAll p ledger?).edges.countP (·.carries v) =
      g.edges.countP fun e => e.verdict? p ledger? = some v := by
  change (g.edges.map (·.annotated p ledger?)).countP _ = _
  rw [List.countP_map]
  apply List.countP_congr
  intro e he
  obtain ⟨r, result⟩ := result_of_fine fine he
  simp only [Function.comp_apply, GraphEdge.carries_annotated result,
    GraphEdge.verdict?_of_result result, Option.some.injEq]

theorem annotatedAs : g.AnnotatedAs p ledger? (g.annotatedAll p ledger?) (g.counts p ledger?) where
  kind := rfl
  edges := by
    apply List.forall₂_map_right_iff.mpr
    apply List.forall₂_same.mpr
    intro e he
    obtain ⟨r, result⟩ := result_of_fine fine he
    exact GraphEdge.annotatedEdge result
  nodes := by
    apply List.forall₂_map_right_iff.mpr
    apply List.forall₂_same.mpr
    exact fun n _ => n.annotatedNode
  routable := (countP_carries fine .routable).symm
  ferry := (countP_carries fine .ferry).symm
  excluded := (countP_carries fine .excluded).symm
  total := by
    have total := Counts.total_ofEdges fun e he => result_of_fine fine (e := e) he
    exact total.trans (List.length_map _).symm
  blockedNodes := by
    change _ = (g.nodes.map _).countP _
    rw [List.countP_map]
    simp only [Function.comp_def, GraphNode.isBlocked_annotated]
    rfl

omit fine

/-- An annotation that returns gives every edge and every node its own result, leaves all else as it
was, and counts what it has written. -/
theorem annotation_is_pointwise (g : Graph) (p : Profile) (ledger? : Option Ledger) (c : Counts)
    (returned : (g.annotate p ledger? false).outcome = .ok c) :
    g.AnnotatedAs p ledger? (g.annotate p ledger? false).desk.given c := by
  cases fault : g.firstFault? p ledger? with
  | some f =>
    rw [annotate_of_fault fault] at returned
    cases returned
  | none =>
    rw [annotate_of_fine fault] at returned ⊢
    cases returned
    exact annotatedAs fault

def harbour : Graph :=
  let wall := ((empty ⟨false, true⟩).addNode (.int 1) [("barrier", .text "wall")]).toOption.getD
    (empty ⟨false, true⟩)
  let steps := (wall.addEdge (.int 1) (.int 2) [("highway", .text "steps")]).1
  let footway := (steps.addEdge (.int 2) (.int 1)
    [("osmid", .list [.int 7, .int 8]), ("highway", .text "footway")]).1
  (footway.addEdge (.int 2) (.int 3) [("route", .text "ferry"), ("length", .int 900)]).1

def harbourLedger : Ledger :=
  Ledger.empty.record (.whole 8) 5

theorem harbour_annotated :
    (harbour.annotate default (some harbourLedger) false).outcome = .ok ⟨1, 1, 1, 1⟩ ∧
    harbour.AnnotatedAs default (some harbourLedger)
      (harbour.annotate default (some harbourLedger) false).desk.given ⟨1, 1, 1, 1⟩ := by
  have fine : harbour.firstFault? default (some harbourLedger) = none := by
    rw [firstFault?_eq_none]
    decide +kernel
  have returned : (harbour.annotate default (some harbourLedger) false).outcome =
      .ok ⟨1, 1, 1, 1⟩ := by
    rw [annotate_of_fine fine]
    exact congrArg Except.ok (by decide +kernel)
  exact ⟨returned, annotation_is_pointwise _ _ _ _ returned⟩

end Graph
end StepFree
