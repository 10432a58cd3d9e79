import RunMarkers.Proofs.Document.Records

/-!
# A tree from the depths of its nodes

Listed in document order, each with its depth, the nodes of a tree tell where they stand: the
children of a node follow it one level deeper, and what comes after them is not as deep. So a list
of such headers belongs to one tree alone (`Node.headersList_append_inj`).
-/

namespace RunMarkers

namespace Node

/-- A node apart from its children, with its depth. -/
structure Header where
  depth : Nat
  id : Nat
  kind : NodeKind
  span : Span

mutual

/-- The headers of a node at a depth and of all nodes below it, in document order. -/
def headers (depth : Nat) : Node → List Header
  | mk id kind span children => ⟨depth, id, kind, span⟩ :: headersList (depth + 1) children

/-- The headers of siblings at a depth and of all nodes below them. -/
def headersList (depth : Nat) : List Node → List Header
  | [] => []
  | n :: ns => headers depth n ++ headersList depth ns

end

/-- Headers that can follow those of siblings at a depth: if there are any, the first one is not as
deep. -/
def EndsRow (depth : Nat) (hs : List Header) : Prop := ∀ h ∈ hs.head?, h.depth < depth

theorem endsRow_nil (depth : Nat) : EndsRow depth [] := fun _ hh => absurd hh (Option.not_mem_none _)

theorem headersList_cons_append (depth id : Nat) (kind : NodeKind) (span : Span)
    (children ns : List Node) (rest : List Header) :
    headersList depth (mk id kind span children :: ns) ++ rest =
      ⟨depth, id, kind, span⟩ ::
        (headersList (depth + 1) children ++ (headersList depth ns ++ rest)) := by
  rw [headersList, headers, List.cons_append, List.cons_append, List.append_assoc]

/-- A row does not go on with the header of another sibling. -/
theorem not_endsRow_headersList_cons (depth : Nat) (n : Node) (ns : List Node)
    (rest : List Header) : ¬ EndsRow depth (headersList depth (n :: ns) ++ rest) := by
  cases n with
  | mk id kind span children =>
      rw [headersList_cons_append]
      intro h
      exact Nat.lt_irrefl depth (h _ rfl)

/-- The later siblings of a node end the row of its children. -/
theorem EndsRow.headersList_append {depth : Nat} {rest : List Header} (hrest : EndsRow depth rest)
    (ns : List Node) : EndsRow (depth + 1) (headersList depth ns ++ rest) := by
  cases ns with
  | nil => exact fun h hh => Nat.lt_succ_of_lt (hrest h hh)
  | cons n ns =>
      cases n with
      | mk id kind span children =>
          rw [headersList_cons_append]
          intro h hh
          obtain rfl := Option.some.inj hh
          exact Nat.lt_succ_self depth

/-- Headers that start a list tell the row of trees that they belong to, and where it ends. -/
theorem headersList_append_inj {depth : Nat} {rest rest' : List Header}
    (hrest : EndsRow depth rest) (hrest' : EndsRow depth rest') : ∀ ns ms : List Node,
    headersList depth ns ++ rest = headersList depth ms ++ rest' → ns = ms ∧ rest = rest'
  | [], [], h => ⟨rfl, h⟩
  | [], m :: ms, h => by
      refine absurd ?_ (not_endsRow_headersList_cons depth m ms rest')
      rw [← h]
      exact hrest
  | n :: ns, [], h => by
      refine absurd ?_ (not_endsRow_headersList_cons depth n ns rest)
      rw [h]
      exact hrest'
  | .mk id kind span children :: ns, .mk id' kind' span' children' :: ms, h => by
      rw [headersList_cons_append, headersList_cons_append] at h
      obtain ⟨hheader, hbelow⟩ := List.cons.inj h
      obtain ⟨-, rfl, rfl, rfl⟩ := Header.mk.inj hheader
      obtain ⟨rfl, hlater⟩ := headersList_append_inj (hrest.headersList_append ns)
        (hrest'.headersList_append ms) children children' hbelow
      obtain ⟨rfl, rfl⟩ := headersList_append_inj hrest hrest' ns ms hlater
      exact ⟨rfl, rfl⟩

/-- A tree can be read off its headers. -/
theorem headers_inj {depth : Nat} {n m : Node} (h : n.headers depth = m.headers depth) : n = m := by
  have hrow : headersList depth [n] ++ [] = headersList depth [m] ++ [] := by
    rw [headersList, headersList, h]
    rfl
  obtain ⟨heq, -⟩ :=
    headersList_append_inj (endsRow_nil depth) (endsRow_nil depth) [n] [m] hrow
  exact List.singleton_inj.1 heq

end Node

namespace Cursor

/-- The header of the node that a cursor stands on. -/
def header (c : Cursor) : Node.Header := ⟨c.above.length, c.node.id, c.node.kind, c.node.span⟩

mutual

theorem map_header_cursors (above : List Level) (before after : List Node) :
    ∀ n : Node, (n.cursors above before after).map header = n.headers above.length
  | .mk id kind span children => by
      rw [Node.cursors, List.map_cons, map_header_childCursors, Node.headers]
      rfl

theorem map_header_childCursors (above : List Level) (before : List Node) :
    ∀ ns : List Node, (Node.childCursors above before ns).map header =
      Node.headersList above.length ns
  | [] => rfl
  | n :: ns => by
      rw [Node.childCursors, List.map_append, map_header_cursors above before _ n,
        map_header_childCursors above (n :: before) ns, Node.headersList]

end

end Cursor

/-- Documents whose nodes agree in document order, each with its depth, have one tree. -/
theorem Document.root_eq_of_map_header {d d' : Document}
    (h : d'.cursors.map Cursor.header = d.cursors.map Cursor.header) : d'.root = d.root := by
  rw [cursors, cursors, Cursor.map_header_cursors, Cursor.map_header_cursors] at h
  exact Node.headers_inj h

end RunMarkers
