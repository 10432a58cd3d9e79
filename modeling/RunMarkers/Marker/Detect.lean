import RunMarkers.Marker.Classify

/-!
# The markers of a document

One pass over the tree finds every marker. It carries the section of the last heading along a row of
siblings and hands it down to their children, so no node looks back for its heading. In an arena the
pass goes along the links, and gives `none` if it has not ended within its rounds.
-/

namespace RunMarkers

/-- The marker that a line belongs to: the last one at or above it, unless a heading comes between
them or stands on the line. -/
def owner? (markers : List Marker) (headingLines : List Nat) (line : Nat) : Option Marker :=
  (markers.reverse.find? fun m => Nat.ble m.line line).filter fun m =>
    !headingLines.any fun heading => Nat.blt m.line heading && Nat.ble heading line

namespace Document

/-- The section after a node has been passed. -/
def scopeAfter (d : Document) (scope : Option Section) (n : Node) : Option Section :=
  if n.kind == .heading then some (d.opens n) else scope

mutual

/-- The markers of a node and all nodes below it. -/
def markersFrom (d : Document) (scope : Option Section) (before after : List Node) :
    Node → List Marker
  | .mk id kind span children =>
    (d.markerIn? scope ⟨before, .mk id kind span children, after⟩).toList
      ++ markersAmong d scope [] children

/-- The markers of siblings and all nodes below them, after the siblings `before`. -/
def markersAmong (d : Document) (scope : Option Section) (before : List Node) :
    List Node → List Marker
  | [] => []
  | n :: ns =>
    let scope := d.scopeAfter scope n
    markersFrom d scope before ns n ++ markersAmong d scope (n :: before) ns

end

/-- All markers of a document in document order; only a suite has any. -/
def markers (d : Document) : List Marker :=
  if d.isSuite then d.markersFrom none [] [] d.root else []

/-- The lines at which headings start. -/
def headingLines (d : Document) : List Nat :=
  (d.root.preorder.filter fun n => n.kind == .heading).map fun n => (d.placeOf n).line

/-- The marker that a line belongs to. -/
def markerAt (d : Document) (line : Nat) : Option Marker := owner? d.markers d.headingLines line

end Document

namespace Arena

/-- The section after a node has been passed. -/
def scopeAfter (a : Arena) (scope : Option Section) (e : Entry) : Option Section :=
  (a.opens? e).or scope

/-- What visits to siblings find one after another, if all of them end. -/
def visitAmong (a : Arena) (visit : Option Section → Entry → Option (List Marker)) :
    Option Section → List Entry → Option (List Marker)
  | _, [] => some []
  | scope, e :: later => do
    let scope := a.scopeAfter scope e
    return (← visit scope e) ++ (← a.visitAmong visit scope later)

/-- The markers of a node and all nodes below it, if the links to the children lead no deeper than
`depth` and each name is found within the rounds. -/
def markersFrom (a : Arena) (rounds : Nat) : Nat → Option Section → Entry → Option (List Marker)
  | 0, _, _ => none
  | depth + 1, scope, e => do
    let here ← a.markerIn? rounds scope e
    return here.toList ++ (← a.visitAmong (a.markersFrom rounds depth) scope (a.children e))

/-- All markers of an arena in document order, if the pass over it ends within the rounds. -/
def markers (a : Arena) (rounds : Nat) : Option (List Marker) :=
  if a.isSuite then (a.entry? 0).bind (a.markersFrom rounds rounds none) else some []

/-- The lines at which headings start, if a walk over the arena ends within the rounds. -/
def headingLines (a : Arena) (rounds : Nat) : Option (List Nat) :=
  (a.descendants rounds).map fun es =>
    (es.filter fun e => e.record.kind == .heading).map fun e => (a.placeOf e).line

/-- The marker that a line belongs to, if it is found within the rounds. -/
def markerAt (a : Arena) (rounds line : Nat) : Option (Option Marker) := do
  let headings ← a.headingLines rounds
  return owner? (← a.markers rounds) headings line

end Arena

end RunMarkers
