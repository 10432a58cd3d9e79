import RunMarkers.Document.Arena
import RunMarkers.Section

/-!
# Scope

The scope of a node is the section it stands in. Going back from the node, the nearest heading among
its siblings opened that section; where there is none, the node stands where its parent stands. In
an arena the same search goes along the links.
-/

namespace RunMarkers

/-- The nearest heading at or before the node of a level. -/
def Level.heading? (l : Level) : Option Node :=
  (l.node :: l.before).find? fun n => n.kind == .heading

/-- The section that a heading node opens. -/
def Document.opens (d : Document) (heading : Node) : Section := .ofHeading (d.textOf heading)

/-- The section that a node stands in, if any heading comes before it. -/
def Document.scopeAt (d : Document) (c : Cursor) : Option Section :=
  (c.here :: c.above).findSome? fun l => l.heading?.map d.opens

namespace Arena

/-- The section that a node of an arena opens, if it is a heading. -/
def opens? (a : Arena) (e : Entry) : Option Section :=
  if e.record.kind == .heading then some (.ofHeading (a.source.slice e.record.span)) else none

/-- The section that the nearest heading at or before a node among its siblings opens. -/
def openedBeside (a : Arena) (rounds : Nat) (e : Entry) : Option (Option Section) :=
  searchAlong a.previous? (fun s => some (a.opens? s)) rounds e

/-- The section that a node of an arena stands in, found level by level along the links. -/
def scopeAt (a : Arena) (rounds : Nat) (e : Entry) : Option (Option Section) :=
  searchAlong a.parent? (a.openedBeside rounds) rounds e

end Arena

end RunMarkers
