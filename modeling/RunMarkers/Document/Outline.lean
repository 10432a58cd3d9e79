import RunMarkers.Document.Arena
import RunMarkers.Text.Quoted

/-!
# Outlines

The outline of a document has one line for each node in document order, indented by two spaces a
level: the kind, the span and, for a node without children that is no block, the text in quotes. In
an arena the same lines are found along the links.
-/

namespace RunMarkers

/-- A span as text. -/
def Span.written (s : Span) : String := toString s.start ++ ".." ++ toString s.stop

/-- A line behind two spaces for each level of its depth. -/
def indented (depth : Nat) (line : String) : String :=
  String.ofList (List.replicate (2 * depth) ' ') ++ line

namespace Document

/-- The line of a node without its indentation. -/
def outlineLine (d : Document) (n : Node) : String :=
  n.kind.name ++ "@" ++ n.span.written
    ++ if n.children.isEmpty && n.kind != .block then " " ++ Text.quoted (d.textOf n) else ""

mutual

/-- The lines of a node and all nodes below it, each with its depth. -/
def outlineOf (d : Document) (depth : Nat) : Node → List (Nat × String)
  | .mk id kind span children =>
    (depth, d.outlineLine (.mk id kind span children)) :: outlineOfList d (depth + 1) children

/-- The lines of a list of trees. -/
def outlineOfList (d : Document) (depth : Nat) : List Node → List (Nat × String)
  | [] => []
  | n :: ns => outlineOf d depth n ++ outlineOfList d depth ns

end

/-- The lines of the outline, each with its depth. -/
def outlineLines (d : Document) : List (Nat × String) := d.outlineOf 0 d.root

/-- The outline of a document. -/
def outline (d : Document) : String :=
  String.join (d.outlineLines.map fun l => indented l.1 l.2 ++ "\n")

/-- A node on one line: kind, span and quoted text. -/
def describe (d : Document) (n : Node) : String :=
  n.kind.name ++ "@" ++ n.span.written ++ " " ++ Text.quoted (d.textOf n)

end Document

namespace Arena

/-- The line of a node of an arena without its indentation. -/
def outlineLine (a : Arena) (e : Entry) : String :=
  e.record.kind.name ++ "@" ++ e.record.span.written
    ++ if e.record.children.isEmpty && e.record.kind != .block then
      " " ++ Text.quoted (a.source.slice e.record.span) else ""

/-- The lines of a node and of all nodes below it, each with its depth, if the links to the children
lead no deeper than the rounds. -/
def outlineOf (a : Arena) : Nat → Nat → Entry → Option (List (Nat × String))
  | 0, _, _ => none
  | rounds + 1, depth, e =>
    ((a.children e).mapM (a.outlineOf rounds (depth + 1))).map fun below =>
      (depth, a.outlineLine e) :: below.flatten

/-- The outline of an arena. -/
def outline (a : Arena) (rounds : Nat) : Option String := do
  let lines ← a.outlineOf rounds 0 (← a.entry? 0)
  return String.join (lines.map fun l => indented l.1 l.2 ++ "\n")

/-- The number of ancestors of a node. -/
def depth (a : Arena) (rounds : Nat) (e : Entry) : Option Nat :=
  (successors a.parent? rounds e).map fun es => es.tail.length

end Arena

end RunMarkers
