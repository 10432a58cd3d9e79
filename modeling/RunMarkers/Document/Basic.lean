import RunMarkers.Document.Node
import RunMarkers.FileKind
import RunMarkers.Source

/-!
# Documents

A document is a source text with the tree that describes it. The root of the tree is a block over
the whole source, with number zero, so a document only keeps what stands below it. The tree holds
no text of its own: the text of a node is the slice of the source that it covers.
-/

namespace RunMarkers

/-- A source text, where it was read from, and its tree. -/
structure Document where
  source : Source
  path : Option Path
  fileKind : FileKind
  /-- The children of the root. -/
  topLevel : List Node

namespace Document

/-- The root of the tree. -/
def root (d : Document) : Node := .mk 0 .block ⟨0, d.source.size⟩ d.topLevel

/-- The document was read as a suite. -/
def isSuite (d : Document) : Bool := d.fileKind == .suite

/-- The number of nodes, the root included. -/
def nodeCount (d : Document) : Nat := d.root.count

/-- The source text of a node. -/
def textOf (d : Document) (n : Node) : String := d.source.slice n.span

/-- The place at which a node starts. -/
def placeOf (d : Document) (n : Node) : Position := d.source.positionAt n.span.start

end Document

end RunMarkers
