import RunMarkers.Position

/-!
# Document trees

A node is an interior node with its children or, when it has none, a token. Each node carries its
number and the span of source that it covers; numbers are given out in the order in which nodes are
begun.
-/

namespace RunMarkers

/-- What a node stands for. -/
inductive NodeKind where
  /-- A section header. -/
  | heading
  /-- A group of nodes; the root is a block. -/
  | block
  /-- A cell of content. -/
  | line
  /-- The end of a line. -/
  | newLine
  /-- A token: text, separator or comment. -/
  | leaf
  | other
  deriving DecidableEq, Repr

/-- The name of a kind in an outline. -/
def NodeKind.name : NodeKind → String
  | heading => "HEADING"
  | block => "BLOCK"
  | line => "LINE"
  | newLine => "NEW_LINE"
  | leaf => "LEAF"
  | other => "OTHER"

/-- A node of a document tree. -/
inductive Node where
  | mk (id : Nat) (kind : NodeKind) (span : Span) (children : List Node)

namespace Node

/-- The number of a node. -/
def id : Node → Nat
  | mk id _ _ _ => id

def kind : Node → NodeKind
  | mk _ kind _ _ => kind

/-- The part of the source that a node covers. -/
def span : Node → Span
  | mk _ _ span _ => span

def children : Node → List Node
  | mk _ _ _ children => children

/-- A node without children. -/
def token (id : Nat) (kind : NodeKind) (span : Span) : Node := mk id kind span []

mutual

/-- A node and all nodes below it, each before its children. -/
def preorder : Node → List Node
  | mk id kind span children => mk id kind span children :: preorderList children

/-- The nodes of a list of trees, tree by tree. -/
def preorderList : List Node → List Node
  | [] => []
  | n :: ns => preorder n ++ preorderList ns

end

mutual

/-- The number of nodes of a tree. -/
def count : Node → Nat
  | mk _ _ _ children => countList children + 1

/-- The number of nodes of a list of trees. -/
def countList : List Node → Nat
  | [] => 0
  | n :: ns => count n + countList ns

end

@[simp] theorem id_mk (i : Nat) (k : NodeKind) (s : Span) (ns : List Node) : (mk i k s ns).id = i :=
  rfl

@[simp] theorem kind_mk (i : Nat) (k : NodeKind) (s : Span) (ns : List Node) :
    (mk i k s ns).kind = k := rfl

@[simp] theorem span_mk (i : Nat) (k : NodeKind) (s : Span) (ns : List Node) :
    (mk i k s ns).span = s := rfl

@[simp] theorem children_mk (i : Nat) (k : NodeKind) (s : Span) (ns : List Node) :
    (mk i k s ns).children = ns := rfl

end Node

end RunMarkers
