import StepFree.Network.Annotation
import StepFree.Proofs.Network.Attributes
import StepFree.Proofs.Network.Visits

namespace StepFree

namespace Desk

theorem work_lay (g : Graph) (copied : Bool) : (Desk.lay g copied).work = g := by
  cases copied <;> rfl

theorem work_change (d : Desk) (f : Graph → Graph) : (d.change f).work = f d.work := by
  obtain ⟨given, copy?⟩ := d
  cases copy? <;> rfl

theorem change_change (d : Desk) (f h : Graph → Graph) :
    (d.change f).change h = d.change fun g => h (f g) := by
  obtain ⟨given, copy?⟩ := d
  cases copy? <;> rfl

theorem change_congr (d : Desk) {f h : Graph → Graph} (same : f d.work = h d.work) :
    d.change f = d.change h := by
  obtain ⟨given, copy?⟩ := d
  cases copy? with
  | none =>
    change Desk.mk (f given) none = Desk.mk (h given) none
    exact congrArg (Desk.mk · none) same
  | some copy =>
    change Desk.mk given (some (f copy)) = Desk.mk given (some (h copy))
    exact congrArg (fun g => Desk.mk given (some g)) same

theorem change_id (d : Desk) {f : Graph → Graph} (same : f d.work = d.work) : d.change f = d := by
  obtain ⟨given, copy?⟩ := d
  cases copy? with
  | none => exact congrArg (Desk.mk · none) same
  | some copy => exact congrArg (fun g => Desk.mk given (some g)) same

theorem given_change_copy (g : Graph) (f : Graph → Graph) :
    ((Desk.lay g true).change f).given = g :=
  rfl

end Desk

theorem Profile.edgeResult_congr (p : Profile) (ledger? : Option Ledger) {a b : Attributes}
    (same : a.tagged = b.tagged) : p.edgeResult ledger? a = p.edgeResult ledger? b := by
  rw [edgeResult, edgeResult, same]

namespace GraphEdge

variable (p : Profile) (ledger? : Option Ledger) (e : GraphEdge)

def fault? : Option Fault :=
  match p.edgeResult ledger? e.attributes with
  | .ok _ => none
  | .error f => some f

def verdict? : Option Verdict :=
  (p.edgeResult ledger? e.attributes).toOption.map WayResult.verdict

def annotatedData : Attributes :=
  match p.edgeResult ledger? e.attributes with
  | .ok r => e.attributes.writeWay r
  | .error _ => e.attributes

def annotated : GraphEdge :=
  { e with attributes := e.annotatedData p ledger? }

def carries (v : Verdict) (e : GraphEdge) : Bool :=
  match e.attributes.get? Attributes.access with
  | some (.text s) => s = v.name
  | _ => false

variable {p ledger? e} {r : WayResult}

theorem fault?_eq_none :
    e.fault? p ledger? = none ↔ ∃ r, p.edgeResult ledger? e.attributes = .ok r := by
  rw [fault?]
  cases p.edgeResult ledger? e.attributes <;> simp

theorem verdict?_of_result (result : p.edgeResult ledger? e.attributes = .ok r) :
    e.verdict? p ledger? = some r.verdict := by
  rw [verdict?, result]
  rfl

theorem annotatedData_of_result (result : p.edgeResult ledger? e.attributes = .ok r) :
    e.annotatedData p ledger? = e.attributes.writeWay r := by
  rw [annotatedData, result]

theorem carries_annotated (result : p.edgeResult ledger? e.attributes = .ok r) (v : Verdict) :
    (e.annotated p ledger?).carries v = decide (r.verdict = v) := by
  have access := Attributes.access_writeWay e.attributes r
  rw [← annotatedData_of_result result] at access
  rw [carries, annotated, access]
  cases r.verdict <;> cases v <;> decide

end GraphEdge

def GraphNode.annotated (p : Profile) (n : GraphNode) : GraphNode :=
  { n with attributes := n.attributes.writeNode (p.blocksNode n.attributes) }

namespace Counts

variable (p : Profile) (ledger? : Option Ledger)

def ofEdges (edges : List GraphEdge) : Counts where
  routable := edges.countP fun e => e.verdict? p ledger? = some .routable
  ferry := edges.countP fun e => e.verdict? p ledger? = some .ferry
  excluded := edges.countP fun e => e.verdict? p ledger? = some .excluded
  blockedNodes := 0

theorem ofEdges_append (done : List GraphEdge) {e : GraphEdge} {v : Verdict}
    (verdict : e.verdict? p ledger? = some v) :
    ofEdges p ledger? (done ++ [e]) = (ofEdges p ledger? done).addEdge v := by
  cases v <;> simp [ofEdges, addEdge, verdict]

end Counts

namespace Graph

variable (g : Graph) (p : Profile) (ledger? : Option Ledger) (copied : Bool)

def annotatedAt (names : List EdgeName) : Graph :=
  g.withEdgeData fun e =>
    if g.kind.nameOf e ∈ names then e.annotatedData p ledger? else e.attributes

def excludedAmong (edges : List GraphEdge) : List EdgeName :=
  (edges.filter fun e => e.verdict? p ledger? = some .excluded).map g.kind.nameOf

/-- How far the annotation of a graph has come when some of its edges have been visited. -/
def reached (done : List GraphEdge) : Progress where
  desk := (Desk.lay g copied).change fun h => h.annotatedAt p ledger? (done.map g.kind.nameOf)
  counts := .ofEdges p ledger? done
  excluded := g.excludedAmong p ledger? done

variable {g p ledger?}

theorem annotatedAt_nil : g.annotatedAt p ledger? [] = g := by
  apply withEdgeData_self
  intro e _
  exact if_neg List.not_mem_nil

theorem reached_nil : g.reached p ledger? copied [] = ⟨.lay g copied, .zero, []⟩ := by
  have desk : (Desk.lay g copied).change (fun h => h.annotatedAt p ledger? []) =
      Desk.lay g copied :=
    Desk.change_id _ annotatedAt_nil
  exact congrArg (Progress.mk · .zero []) desk

theorem work_reached (done : List GraphEdge) :
    (g.reached p ledger? copied done).desk.work =
      g.annotatedAt p ledger? (done.map g.kind.nameOf) := by
  rw [reached, Desk.work_change, Desk.work_lay]

theorem annotatedAt_append {e : GraphEdge} (he : e ∈ g.edges) (names : List EdgeName) :
    (g.annotatedAt p ledger? names).setEdgeData (g.kind.nameOf e) (e.annotatedData p ledger?) =
      g.annotatedAt p ledger? (names ++ [g.kind.nameOf e]) := by
  rw [annotatedAt, setEdgeData_withEdgeData, annotatedAt]
  apply withEdgeData_congr
  intro f hf
  by_cases same : g.kind.nameOf f = g.kind.nameOf e
  · rw [if_pos same, if_pos (List.mem_append_right _ (List.mem_singleton.mpr same)),
      g.eq_of_name_eq hf he same]
  · rw [if_neg same]
    simp [same]

/-- Before an edge is visited its attributes are those that it had at the start. -/
theorem edgeData_reached {done : List GraphEdge} {e : GraphEdge} (he : e ∈ g.edges)
    (fresh : g.kind.nameOf e ∉ done.map g.kind.nameOf) :
    (g.annotatedAt p ledger? (done.map g.kind.nameOf)).edgeData (g.kind.nameOf e) =
      e.attributes := by
  rw [annotatedAt, edgeData_withEdgeData g _ he, if_neg fresh]

theorem enter_reached {done : List GraphEdge} {e : GraphEdge} (he : e ∈ g.edges)
    (fresh : g.kind.nameOf e ∉ done.map g.kind.nameOf) {r : WayResult}
    (result : p.edgeResult ledger? e.attributes = .ok r) :
    (g.reached p ledger? copied done).enter (g.kind.nameOf e) r =
      g.reached p ledger? copied (done ++ [e]) := by
  have verdict := GraphEdge.verdict?_of_result result
  have desk : (g.reached p ledger? copied done).desk.change
      (fun h => h.setEdgeData (g.kind.nameOf e) ((h.edgeData (g.kind.nameOf e)).writeWay r)) =
        (g.reached p ledger? copied (done ++ [e])).desk := by
    rw [reached, reached, Desk.change_change]
    apply Desk.change_congr
    rw [Desk.work_lay, edgeData_reached he fresh, ← GraphEdge.annotatedData_of_result result,
      annotatedAt_append he, List.map_append]
    rfl
  have excluded : (if r.verdict.isExcluded then
      g.excludedAmong p ledger? done ++ [g.kind.nameOf e] else g.excludedAmong p ledger? done) =
        g.excludedAmong p ledger? (done ++ [e]) := by
    cases h : r.verdict <;> simp [excludedAmong, verdict, h, Verdict.isExcluded]
  unfold Progress.enter
  rw [desk]
  exact congr (congrArg (Progress.mk _) (Counts.ofEdges_append p ledger? done verdict).symm) excluded

theorem visitEdge_reached {done : List GraphEdge} {e : GraphEdge} (he : e ∈ g.edges)
    (fresh : g.kind.nameOf e ∉ done.map g.kind.nameOf) :
    p.visitEdge ledger? (g.reached p ledger? copied done) (g.kind.nameOf e) =
      (p.edgeResult ledger? e.attributes).map fun _ => g.reached p ledger? copied (done ++ [e]) := by
  rw [Profile.visitEdge, work_reached, edgeData_reached he fresh]
  cases result : p.edgeResult ledger? e.attributes with
  | error f => rfl
  | ok r => exact congrArg Except.ok (enter_reached copied he fresh result)

/-- A run over the edges that are left visits them up to the first that has no result. -/
theorem visitEdges_reached {rest : List GraphEdge} (inside : ∀ e ∈ rest, e ∈ g.edges)
    {done : List GraphEdge} (different : ((done ++ rest).map g.kind.nameOf).Nodup) :
    p.visitEdges ledger? (rest.map g.kind.nameOf) (g.reached p ledger? copied done) =
      (g.reached p ledger? copied (done ++ rest.takeWhile fun e => (e.fault? p ledger?).isNone),
        rest.findSome? (·.fault? p ledger?)) := by
  induction rest generalizing done with
  | nil => simp [Profile.visitEdges]
  | cons e r ih =>
    -- No two edges have one name, so nothing visited so far has written to this one.
    have fresh : g.kind.nameOf e ∉ done.map g.kind.nameOf := by
      rw [List.map_append, List.nodup_append] at different
      intro seen
      exact different.2.2 _ seen _ List.mem_cons_self rfl
    rw [List.map_cons, Profile.visitEdges,
      visitEdge_reached copied (inside e List.mem_cons_self) fresh]
    cases result : p.edgeResult ledger? e.attributes with
    | error f =>
      have fault : e.fault? p ledger? = some f := by rw [GraphEdge.fault?, result]
      rw [List.findSome?_cons, List.takeWhile_cons, fault]
      simp [Except.map]
    | ok x =>
      have fault : e.fault? p ledger? = none := GraphEdge.fault?_eq_none.mpr ⟨x, result⟩
      have shifted : ((done ++ [e] ++ r).map g.kind.nameOf).Nodup := by
        rwa [List.append_assoc]
      have rest := ih (fun f hf => inside f (List.mem_cons_of_mem e hf)) shifted
      rw [List.findSome?_cons, List.takeWhile_cons, fault]
      simpa [Except.map] using rest

end Graph
end StepFree
