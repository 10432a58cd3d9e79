import RunMarkers.Proofs.Document.Built
import RunMarkers.Proofs.Document.Walk

/-!
# The numbers of the nodes

A builder gives out numbers in the order in which nodes are begun, and everything in a node is
begun before the node is left. So the numbers of a document, read in document order, are `0, 1, 2`
and so on (`Builder.IsNumbered.attempts`). While nodes are open, the numbers given out are those of
the row finished at the root, then, from the outermost open node inwards, that of the node and those
of the row finished in it.
-/

namespace RunMarkers

namespace Node

mutual

theorem length_preorder : ∀ n : Node, n.preorder.length = n.count
  | .mk id kind span children => by
      rw [preorder, count, List.length_cons, length_preorderList children]

theorem length_preorderList : ∀ ns : List Node, (preorderList ns).length = countList ns
  | [] => rfl
  | n :: ns => by
      rw [preorderList, countList, List.length_append, length_preorder n, length_preorderList ns]

end

end Node

namespace Cursor

mutual

theorem map_node_cursors (above : List Level) (before after : List Node) :
    ∀ n : Node, (n.cursors above before after).map node = n.preorder
  | .mk id kind span children => by
      rw [Node.cursors, List.map_cons, map_node_childCursors, Node.preorder]
      rfl

theorem map_node_childCursors (above : List Level) (before : List Node) :
    ∀ ns : List Node, (Node.childCursors above before ns).map node = Node.preorderList ns
  | [] => rfl
  | n :: ns => by
      rw [Node.childCursors, List.map_append, map_node_cursors above before ns n,
        map_node_childCursors above (n :: before) ns, Node.preorderList]

end

end Cursor

namespace Builder

/-- The numbers of the nodes begun, in document order. -/
def numbers (topLevel : List Node) : List Frame → List Nat
  | [] => 0 :: (Node.preorderList topLevel.reverse).map Node.id
  | f :: outer =>
    numbers topLevel outer ++ f.id :: (Node.preorderList f.children.reverse).map Node.id

/-- The numbers given out are those up to the next one, in document order. -/
def IsNumbered (b : Builder) : Prop := numbers b.topLevel b.frames = List.range b.nextId

@[simp] theorem nextId_attach (b : Builder) (n : Node) : (b.attach n).nextId = b.nextId := by
  rw [attach]
  split <;> rfl

/-- What is attached comes after everything begun before. -/
theorem numbers_attach (b : Builder) (n : Node) :
    numbers (b.attach n).topLevel (b.attach n).frames =
      numbers b.topLevel b.frames ++ n.preorder.map Node.id := by
  rw [attach]
  split
  next h =>
      rw [h, numbers, numbers, List.reverse_cons, Node.preorderList_append, List.map_append,
        List.cons_append]
      simp [Node.preorderList]
  next f outer h =>
      rw [h, numbers, numbers, List.reverse_cons, Node.preorderList_append, List.map_append,
        List.append_assoc, List.cons_append]
      simp [Node.preorderList]

theorem isNumbered_start (source : Source) (path : Option Path) (fileKind : FileKind) :
    (start source path fileKind).IsNumbered := rfl

theorem IsNumbered.enter {b : Builder} (hb : b.IsNumbered) (kind : NodeKind) :
    (b.enter kind).IsNumbered := by
  change numbers b.topLevel b.frames ++ [b.nextId] = List.range (b.nextId + 1)
  rw [hb, List.range_succ]

theorem IsNumbered.token {b after : Builder} {kind : NodeKind} {length : Nat} (hb : b.IsNumbered)
    (h : b.token kind length = .ok after) : after.IsNumbered := by
  obtain ⟨-, -, rfl⟩ := token_eq_ok_iff.1 h
  rw [IsNumbered, numbers_attach, nextId_attach, List.range_succ, hb]
  rfl

theorem IsNumbered.leave {b after : Builder} (hb : b.IsNumbered) (h : b.leave = .ok after) :
    after.IsNumbered := by
  obtain ⟨f, outer, hframes, rfl⟩ := leave_eq_ok_iff.1 h
  rw [IsNumbered, hframes, numbers] at hb
  rw [IsNumbered, numbers_attach, nextId_attach, ← hb]
  rfl

theorem IsNumbered.step {b after : Builder} {s : BuildStep} (hb : b.IsNumbered)
    (h : b.step s = .ok after) : after.IsNumbered := by
  cases s with
  | enter kind => cases h; exact hb.enter kind
  | token kind length => exact hb.token h
  | leave => exact hb.leave h

theorem nextId_le_of_step {b after : Builder} {s : BuildStep} (h : b.step s = .ok after) :
    b.nextId ≤ after.nextId := by
  cases s with
  | enter kind => cases h; exact Nat.le_succ b.nextId
  | token kind length =>
      obtain ⟨-, -, rfl⟩ := token_eq_ok_iff.1 h
      rw [nextId_attach]
      exact Nat.le_succ b.nextId
  | leave =>
      obtain ⟨f, outer, -, rfl⟩ := leave_eq_ok_iff.1 h
      rw [nextId_attach]

theorem nextId_le_attempts (b : Builder) (ss : List BuildStep) :
    b.nextId ≤ (b.attempts ss).2.nextId := by
  induction ss generalizing b with
  | nil => exact Nat.le_refl _
  | cons s ss ih =>
      rw [attempts, attempt]
      cases hs : b.step s with
      | error e => exact ih b
      | ok after => exact Nat.le_trans (nextId_le_of_step hs) (ih after)

/-- A run of tried steps keeps the numbers those up to the next one. -/
theorem IsNumbered.attempts {b : Builder} (hb : b.IsNumbered) (ss : List BuildStep) :
    (b.attempts ss).2.IsNumbered := by
  induction ss generalizing b with
  | nil => exact hb
  | cons s ss ih =>
      rw [Builder.attempts, attempt]
      cases hs : b.step s with
      | error e => exact ih hb
      | ok after => exact ih (hb.step hs)

end Builder

namespace Document

/-- The nodes have the numbers from zero on, in document order. -/
def IsNumbered (d : Document) : Prop := d.root.preorder.map Node.id = List.range d.nodeCount

/-- What a builder makes of its numbered rows. -/
theorem isNumbered_of_finish {b : Builder} {d : Document} (hb : b.IsNumbered)
    (hd : b.finish = .ok d) : d.IsNumbered ∧ d.nodeCount = b.nextId := by
  obtain ⟨hframes, rfl⟩ := Builder.finish_eq_ok_iff.1 hd
  have hids : (Document.root ⟨b.source, b.path, b.fileKind, b.topLevel.reverse⟩).preorder.map
      Node.id = List.range b.nextId := by
    rw [← hb, hframes]
    rfl
  have hcount : Document.nodeCount ⟨b.source, b.path, b.fileKind, b.topLevel.reverse⟩ =
      b.nextId := by
    rw [nodeCount, ← Node.length_preorder, ← List.length_map Node.id, hids, List.length_range]
  rw [IsNumbered, hcount]
  exact ⟨hids, rfl⟩

theorem map_node_cursors (d : Document) : d.cursors.map Cursor.node = d.root.preorder :=
  Cursor.map_node_cursors [] [] [] d.root

theorem length_cursors (d : Document) : d.cursors.length = d.nodeCount := by
  rw [← List.length_map Cursor.node, map_node_cursors, Node.length_preorder, nodeCount]

theorem IsNumbered.map_id_cursors {d : Document} (hd : d.IsNumbered) :
    (d.cursors.map fun c => c.node.id) = List.range d.nodeCount := by
  rw [← hd, ← map_node_cursors, List.map_map]
  rfl

/-- Only the root has the number zero. -/
theorem IsNumbered.id_ne_zero {d : Document} (hd : d.IsNumbered) {n : Node}
    (hn : n ∈ Node.preorderList d.topLevel) : n.id ≠ 0 := by
  have hids : 0 :: (Node.preorderList d.topLevel).map Node.id = List.range d.nodeCount := hd
  have hnodup : (0 :: (Node.preorderList d.topLevel).map Node.id).Nodup := hids ▸ List.nodup_range
  intro hid
  exact (List.nodup_cons.1 hnodup).1 (hid ▸ List.mem_map_of_mem hn)

/-- A node stands, in document order, at the place of its number. -/
theorem IsNumbered.id_getElem {d : Document} (hd : d.IsNumbered) {i : Nat}
    (hi : i < d.cursors.length) : d.cursors[i].node.id = i := by
  have h := congrArg (fun ids : List Nat => ids[i]?) hd.map_id_cursors
  simp only [List.getElem?_map, List.getElem?_eq_getElem hi,
    List.getElem?_range (d.length_cursors ▸ hi)] at h
  exact Option.some.inj h

end Document

end RunMarkers
