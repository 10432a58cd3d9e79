import RunMarkers.Document.Basic

/-!
# Walking a document

A cursor is a node in its place: its siblings on either side and, level by level, its ancestors
among theirs. Everything around a node can be read off its cursor, and `Document.cursors` lists
the cursors of all nodes in document order.
-/

namespace RunMarkers

/-- A node among its siblings. -/
structure Level where
  /-- Earlier siblings, nearest first. -/
  before : List Node
  node : Node
  /-- Later siblings, nearest first. -/
  after : List Node

/-- A node in its place, with the levels of its ancestors, parent first. -/
structure Cursor where
  here : Level
  above : List Level

namespace Cursor

/-- The node that a cursor stands on. -/
def node (c : Cursor) : Node := c.here.node

/-- The cursor on the parent. -/
def parent? (c : Cursor) : Option Cursor :=
  match c.above with
  | [] => none
  | l :: ls => some ⟨l, ls⟩

/-- The cursor on the sibling just before. -/
def previous? (c : Cursor) : Option Cursor :=
  match c.here.before with
  | [] => none
  | n :: ns => some ⟨⟨ns, n, c.here.node :: c.here.after⟩, c.above⟩

/-- The cursor on the sibling just after. -/
def next? (c : Cursor) : Option Cursor :=
  match c.here.after with
  | [] => none
  | n :: ns => some ⟨⟨c.here.node :: c.here.before, n, ns⟩, c.above⟩

/-- The cursor on the first child. -/
def firstChild? (c : Cursor) : Option Cursor :=
  match c.node.children with
  | [] => none
  | n :: ns => some ⟨⟨[], n, ns⟩, c.here :: c.above⟩

/-- The node and its earlier siblings, going back. -/
def backward (c : Cursor) : List Node := c.here.node :: c.here.before

/-- The node and its later siblings, going on. -/
def forward (c : Cursor) : List Node := c.here.node :: c.here.after

end Cursor

mutual

/-- The cursors of a node and all nodes below it, each before those of its children. -/
def Node.cursors (above : List Level) (before after : List Node) : Node → List Cursor
  | .mk id kind span children =>
    let here : Level := ⟨before, .mk id kind span children, after⟩
    ⟨here, above⟩ :: Node.childCursors (here :: above) [] children

/-- The cursors of siblings and all nodes below them, after the siblings `before`. -/
def Node.childCursors (above : List Level) (before : List Node) : List Node → List Cursor
  | [] => []
  | n :: ns => n.cursors above before ns ++ Node.childCursors above (n :: before) ns

end

namespace Document

/-- The cursor on the root. -/
def top (d : Document) : Cursor := ⟨⟨[], d.root, []⟩, []⟩

/-- The cursors of all nodes in document order. -/
def cursors (d : Document) : List Cursor := d.root.cursors [] [] []

/-- The cursor on the node with the given number. -/
def find? (d : Document) (id : Nat) : Option Cursor := d.cursors.find? fun c => c.node.id == id

end Document

end RunMarkers
