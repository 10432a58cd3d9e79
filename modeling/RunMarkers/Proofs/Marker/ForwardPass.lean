import RunMarkers.Marker.Detect
import RunMarkers.Proofs.Document.Walk

/-!
# One pass and many look-ups

`Document.markers` finds all markers in one pass that carries the section of the last heading along
a row of siblings and hands it down. `Document.marker?` answers for one node and goes back through
its siblings and those of its ancestors. The two readings share `scopeAmong`:
`scopeAfter_scopeAmong` says that it is what the pass carries on, `scopeAt_eq_scopeAmong` that it is
what going back finds. So the pass finds what the nodes answer one by one.
-/

namespace RunMarkers

namespace Document

variable (d : Document)

/-- The section in force behind the siblings `before`: that of the nearest heading among them, or
the one in force at the parent. -/
def scopeAmong (above : List Level) (before : List Node) : Option Section :=
  ((before.find? fun n => n.kind == .heading).map d.opens).or
    (above.findSome? fun l => l.heading?.map d.opens)

theorem scopeAt_eq_scopeAmong (before after : List Node) (n : Node) (above : List Level) :
    d.scopeAt ⟨⟨before, n, after⟩, above⟩ = d.scopeAmong above (n :: before) := by
  rw [scopeAt, scopeAmong, List.findSome?_cons, Level.heading?]
  cases ((n :: before).find? fun n => n.kind == .heading).map d.opens with
  | none => rfl
  | some within => rfl

theorem scopeAmong_nil (l : Level) (above : List Level) :
    d.scopeAmong (l :: above) [] = d.scopeAt ⟨l, above⟩ := by
  rw [scopeAmong, List.find?_nil, Option.map_none, Option.none_or, scopeAt]

theorem scopeAfter_scopeAmong (above : List Level) (before : List Node) (n : Node) :
    d.scopeAfter (d.scopeAmong above before) n = d.scopeAmong above (n :: before) := by
  rw [scopeAfter, scopeAmong, scopeAmong, List.find?_cons]
  cases n.kind == .heading with
  | true => rfl
  | false => rfl

mutual

/-- The pass over a tree, begun with the section that going back from its root finds. -/
theorem markersFrom_eq_filterMap (above : List Level) (before after : List Node) :
    ∀ n : Node, d.markersFrom (d.scopeAt ⟨⟨before, n, after⟩, above⟩) before after n =
      (n.cursors above before after).filterMap d.marker?
  | .mk id kind span children => by
      have hchildren := markersAmong_eq_filterMap
        (⟨before, .mk id kind span children, after⟩ :: above) [] children
      rw [scopeAmong_nil] at hchildren
      rw [markersFrom, hchildren, Node.cursors, List.filterMap_cons, marker?]
      cases d.markerIn? _ _ with
      | none => rfl
      | some m => rfl

theorem markersAmong_eq_filterMap (above : List Level) (before : List Node) :
    ∀ ns : List Node, d.markersAmong (d.scopeAmong above before) before ns =
      (Node.childCursors above before ns).filterMap d.marker?
  | [] => by rw [markersAmong, Node.childCursors, List.filterMap_nil]
  | n :: ns => by
      have hfirst := markersFrom_eq_filterMap above before ns n
      have hrest := markersAmong_eq_filterMap above (n :: before) ns
      rw [scopeAt_eq_scopeAmong] at hfirst
      rw [markersAmong, scopeAfter_scopeAmong, hfirst, hrest, Node.childCursors,
        List.filterMap_append]

end

theorem marker?_of_not_isSuite (h : d.isSuite = false) (c : Cursor) : d.marker? c = none := by
  rw [marker?, markerIn?, isCandidate, h, Bool.false_and, Bool.false_and]
  rfl

/-- The markers found in one pass are those that the nodes answer one by one, in the order in which
a walk meets the nodes. -/
theorem markers_eq_filterMap_marker? : d.markers = d.descendants.filterMap d.marker? := by
  rw [descendants_eq_cursors, markers]
  split
  next h => exact markersFrom_eq_filterMap d [] [] [] d.root
  next h =>
      refine (List.filterMap_eq_nil_iff.2 ?_).symm
      intro c _
      exact d.marker?_of_not_isSuite (by simpa using h) c

end Document

end RunMarkers
