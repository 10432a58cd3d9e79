import RunMarkers.Marker.Basic
import RunMarkers.Marker.Scope
import RunMarkers.Text.Blank

/-!
# Which nodes carry a marker

In a suite, a node with children and with text other than white space can carry a marker. A
heading does if its section can be run. Any other node does if it stands in such a section just
after the end of a line; what is left of its line, taken whole, is its name. In an arena what stands
around the node is found along the links.
-/

namespace RunMarkers.Document

variable (d : Document)

/-- The marker of a heading. -/
def headingMarker? (n : Node) : Option Marker :=
  if n.kind == .heading && (d.opens n).isRunnable then
    n.children.head?.map fun anchor => .runAll anchor.span (d.placeOf anchor) (d.opens n)
  else none

/-- The source from a node up to the next end of a line among its siblings. -/
def caseName (l : Level) : String :=
  let onLine := (l.node :: l.after).takeWhile fun n => n.kind != .newLine
  let last := onLine.getLastD l.node
  d.source.slice ⟨l.node.span.start, last.span.stop⟩

/-- The marker of a test case or task, with the section it stands in. -/
def caseMarker? (scope : Option Section) (l : Level) : Option Marker :=
  match scope, l.before, l.node.children with
  | some within, previous :: _, anchor :: _ =>
    if l.node.kind != .heading && within.isRunnable && previous.kind == .newLine then
      some (.runCase anchor.span (d.placeOf anchor) within (d.caseName l))
    else none
  | _, _, _ => none

/-- The node can carry a marker at all. -/
def isCandidate (n : Node) : Bool :=
  d.isSuite && !n.children.isEmpty && !(d.textOf n).toList.all Text.isWhiteSpace

/-- The marker of a node whose scope is known. -/
def markerIn? (scope : Option Section) (l : Level) : Option Marker :=
  if d.isCandidate l.node then (d.headingMarker? l.node).or (d.caseMarker? scope l) else none

/-- The marker of a node. -/
def marker? (c : Cursor) : Option Marker := d.markerIn? (d.scopeAt c) c.here

end RunMarkers.Document

namespace RunMarkers.Arena

variable (a : Arena)

/-- The arena was read as a suite. -/
def isSuite : Bool := a.fileKind == .suite

/-- The source text of a node. -/
def textOf (e : Entry) : String := a.source.slice e.record.span

/-- The place at which a node starts. -/
def placeOf (e : Entry) : Position := a.source.positionAt e.record.span.start

/-- The marker of a heading. -/
def headingMarker? (e : Entry) : Option Marker := do
  let within ← a.opens? e
  if within.isRunnable then
    let anchor ← a.firstChild? e
    return .runAll anchor.record.span (a.placeOf anchor) within
  else none

/-- The span from a node up to the next end of a line among its siblings, found along the links. -/
def nameSpan? (rounds : Nat) (e : Entry) : Option Span :=
  let onLine := successorsWhile a.next? (fun s => s.record.kind != .newLine) rounds e
  onLine.map fun siblings => ⟨e.record.span.start, (siblings.getLastD e).record.span.stop⟩

/-- The source from a node up to the next end of a line among its siblings. -/
def caseName? (rounds : Nat) (e : Entry) : Option String :=
  (a.nameSpan? rounds e).map a.source.slice

/-- The marker of a test case or task, with the section it stands in, if its name is found within
the rounds. -/
def caseMarker? (rounds : Nat) (scope : Option Section) (e : Entry) : Option (Option Marker) :=
  match scope, a.previous? e, a.firstChild? e with
  | some within, some previous, some anchor =>
    if e.record.kind != .heading && within.isRunnable && previous.record.kind == .newLine then
      (a.caseName? rounds e).map fun name =>
        some (.runCase anchor.record.span (a.placeOf anchor) within name)
    else some none
  | _, _, _ => some none

/-- The node can carry a marker at all. -/
def isCandidate (e : Entry) : Bool :=
  a.isSuite && !e.record.children.isEmpty && !(a.textOf e).toList.all Text.isWhiteSpace

/-- The marker of a node whose scope is known. -/
def markerIn? (rounds : Nat) (scope : Option Section) (e : Entry) : Option (Option Marker) :=
  if a.isCandidate e then
    match a.headingMarker? e with
    | some m => some (some m)
    | none => a.caseMarker? rounds scope e
  else some none

end RunMarkers.Arena
