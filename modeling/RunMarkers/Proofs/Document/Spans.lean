import RunMarkers.Proofs.Document.EmptyTokens
import RunMarkers.Proofs.Document.Extent
import RunMarkers.Proofs.Document.Records

/-!
# The spans of an arena

An arena patches the end of a record when its node is closed, and the end of the root when it is
finished. As long as the numbers have 32 bits the patches hit the nodes they are meant for, and the
children of each node tile it (`Arena.spans_of_attempts`).
-/

namespace RunMarkers

namespace Arena

/-- The spans of the children of a node. -/
def spansBelow (a : Arena) (e : Entry) : List Span :=
  (a.children e).map fun child => child.record.span

end Arena

namespace Document

variable {d : Document} {c : Cursor}

theorem spansBelow_arena (hd : d.IsNumbered) (hc : c ∈ d.cursors) :
    d.arena.spansBelow c.entry = c.node.children.map Node.span := by
  rw [Arena.spansBelow, children_arena hd hc, ← Cursor.map_node_children, List.map_map,
    List.map_map]
  rfl

/-- A node with another number than the root stands below the root. -/
theorem node_mem_preorderList (hc : c ∈ d.cursors) (hid : c.node.id ≠ 0) :
    c.node ∈ Node.preorderList d.topLevel := by
  rcases List.mem_cons.1 (node_mem_preorder hc) with hroot | hbelow
  · exact absurd (congrArg Node.id hroot) hid
  · exact hbelow

end Document

namespace Arena

/-- The record pushed after 2 ^ 32 others makes the root the last child of the root. -/
theorem exists_spansBelow_ofEmptyTokens (source : Source) (path : Option Path)
    (fileKind : FileKind) (count : Nat) (hcount : (1 + count) % UInt32.size = 0) :
    ∃ root spans, Arena.entry? (ofEmptyTokens source path fileKind (count + 1)) 0 = some root ∧
      (ofEmptyTokens source path fileKind (count + 1)).spansBelow root =
        spans ++ [⟨0, source.size⟩] := by
  let a := ofEmptyTokens source path fileKind (count + 1)
  refine ⟨⟨0, ⟨.block, ⟨0, source.size⟩, none, 0, idsFrom 1 (count + 1)⟩⟩,
    ((idsFrom 1 count).filterMap a.entry?).map fun child => child.record.span, rfl, ?_⟩
  change ((idsFrom 1 (count + 1)).filterMap a.entry?).map _ = _
  rw [idsFrom_concat, hcount, List.filterMap_append, List.map_append]
  rfl

end Arena

end RunMarkers
