import RunMarkers.Document.Cursor

/-!
# Walking a tree with a stack

`Document.descendants` visits the nodes of a document with a stack of cursors and no recursion into
the tree: it takes the cursor on top, and puts those on its children in its place. Each node is
counted once on the stack, so the walk ends. `Document.cursors` is a recursion over the tree; the
two give the same list (`descendants_eq_cursors`).
-/

namespace RunMarkers

namespace Node

@[simp] theorem countList_nil : countList [] = 0 := rfl

@[simp] theorem countList_cons (n : Node) (ns : List Node) :
    countList (n :: ns) = n.count + countList ns := rfl

theorem count_eq (n : Node) : n.count = countList n.children + 1 := by
  cases n with
  | mk id kind span children => rfl

theorem countList_append (ms ns : List Node) :
    countList (ms ++ ns) = countList ms + countList ns := by
  induction ms with
  | nil => simp
  | cons m ms ih => rw [List.cons_append, countList_cons, countList_cons, ih, Nat.add_assoc]

/-- A tree has no more nodes than a row of trees that it stands in. -/
theorem count_le_countList {n : Node} {ns : List Node} (hn : n ∈ ns) :
    n.count ≤ countList ns := by
  obtain ⟨before, after, rfl⟩ := List.append_of_mem hn
  rw [countList_append, countList_cons]
  omega

end Node

namespace Cursor

/-- The cursors on siblings that come after the siblings `before`. -/
def along (above : List Level) (before : List Node) : List Node → List Cursor
  | [] => []
  | n :: ns => ⟨⟨before, n, ns⟩, above⟩ :: along above (n :: before) ns

def children (c : Cursor) : List Cursor := along (c.here :: c.above) [] c.node.children

@[simp] theorem map_node_along (above : List Level) (before ns : List Node) :
    (along above before ns).map node = ns := by
  induction ns generalizing before with
  | nil => rfl
  | cons n ns ih => rw [along, List.map_cons, ih, node]

@[simp] theorem map_node_children (c : Cursor) : c.children.map node = c.node.children :=
  map_node_along _ _ _

/-- The cursors met when the cursors of a stack are taken from its top, each giving way to the
cursors on its children. -/
def walk (stack : List Cursor) : List Cursor :=
  match stack with
  | [] => []
  | c :: rest => c :: walk (c.children ++ rest)
termination_by Node.countList (stack.map node)
decreasing_by
  rw [List.map_append, map_node_children, Node.countList_append, List.map_cons,
    Node.countList_cons, Node.count_eq]
  omega

def subtree (c : Cursor) : List Cursor := c.node.cursors c.above c.here.before c.here.after

theorem flatMap_subtree_along (above : List Level) (before ns : List Node) :
    (along above before ns).flatMap subtree = Node.childCursors above before ns := by
  induction ns generalizing before with
  | nil => rfl
  | cons n ns ih => rw [along, List.flatMap_cons, ih, Node.childCursors]; rfl

theorem subtree_eq (c : Cursor) : c.subtree = c :: c.children.flatMap subtree := by
  obtain ⟨⟨before, n, after⟩, above⟩ := c
  cases n with
  | mk id kind span children => rw [Cursor.children, flatMap_subtree_along]; rfl

/-- A stack is walked subtree by subtree. -/
theorem walk_eq_flatMap_subtree (stack : List Cursor) : walk stack = stack.flatMap subtree := by
  fun_induction walk stack with
  | case1 => rfl
  | case2 c rest ih => rw [ih, List.flatMap_append, List.flatMap_cons, subtree_eq, List.cons_append]

end Cursor

namespace Document

/-- The cursors of all nodes, met by a walk with a stack. -/
def descendants (d : Document) : List Cursor := Cursor.walk [d.top]

theorem descendants_eq_cursors (d : Document) : d.descendants = d.cursors := by
  rw [descendants, Cursor.walk_eq_flatMap_subtree, List.flatMap_cons, List.flatMap_nil,
    List.append_nil]
  rfl

end Document

end RunMarkers
