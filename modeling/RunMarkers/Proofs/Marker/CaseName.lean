import RunMarkers.Marker.Classify
import RunMarkers.Proofs.Document.EmptyTokens
import RunMarkers.Proofs.Document.Extent

/-!
# The name on a line is what stands there

The name of a case is cut out of the source between two offsets: the start of its node, and the end
of the last sibling before the next end of a line. In a tree that tiles its source nothing stands
between siblings, so the cut is the texts of the siblings one after another
(`Document.IsPlaced.caseName_eq_join`), however they are nested and however many of them are empty.
In an arena with more nodes than numbers the next sibling may be the root, and the cut ends where
the source does.
-/

namespace RunMarkers

/-- A walk that stops at the first that fails a test goes as far as the walk that does not stop. -/
theorem successorsWhile_eq_takeWhile {α : Type} {next : α → Option α}
    {rounds : Nat} {a : α} {l : List α} (keep : α → Bool)
    (hl : successors next rounds a = some l) :
    successorsWhile next keep rounds a = some (l.takeWhile keep) := by
  induction rounds generalizing a l with
  | zero => cases hl
  | succ rounds ih =>
      rw [successors] at hl
      rw [successorsWhile]
      cases hnext : next a with
      | none =>
          rw [hnext] at hl
          obtain rfl := Option.some.inj hl
          rw [List.takeWhile_cons, List.takeWhile_nil, apply_ite some]
      | some b =>
          simp only [hnext, Option.map_eq_some_iff] at hl
          obtain ⟨later, hlater, rfl⟩ := hl
          rw [List.takeWhile_cons, apply_ite some]
          simp only [ih hlater, Option.map_some]

namespace Level

/-- The node of a level and its later siblings up to the next end of a line. -/
def onLine (l : Level) : List Node := (l.node :: l.after).takeWhile fun n => n.kind != .newLine

/-- The span from the node of a level to the last node on its line. -/
def nameSpan (l : Level) : Span := ⟨l.node.span.start, (l.onLine.getLastD l.node).span.stop⟩

variable {l : Level}

theorem onLine_of_newLine (hkind : l.node.kind = .newLine) : l.onLine = [] := by
  apply List.takeWhile_cons_of_neg
  rw [hkind]
  exact Bool.false_ne_true

theorem exists_onLine_eq_cons (hkind : l.node.kind ≠ .newLine) :
    ∃ later, l.onLine = l.node :: later := by
  refine ⟨l.after.takeWhile fun n => n.kind != .newLine, ?_⟩
  apply List.takeWhile_cons_of_pos
  exact bne_iff_ne.2 hkind

end Level

namespace Cursor

/-- The cursors on the node and its later siblings up to the next end of a line. -/
def onLine (c : Cursor) : List Cursor := c.onward.takeWhile fun x => x.node.kind != .newLine

theorem map_node_onLine (c : Cursor) : c.onLine.map node = c.here.onLine := by
  have hforward := c.map_node_onward
  rw [forward] at hforward
  rw [Level.onLine, ← hforward, List.takeWhile_map]
  rfl

theorem map_entry_onLine (c : Cursor) :
    c.onLine.map entry = (c.onward.map entry).takeWhile fun e => e.record.kind != .newLine := by
  rw [List.takeWhile_map]
  rfl

end Cursor

namespace Source

variable {s : Source}

/-- The slices of nodes that follow one another make up the slice that they cover together. -/
theorem join_slice_of_tiles {ns : List Node} {start stop : Nat}
    (hstart : s.isBoundary start = true) (htiles : Node.Tiles start ns stop)
    (hfits : ∀ n ∈ ns, n.span.Fits s) :
    s.isBoundary stop = true ∧
      String.join (ns.map fun n => s.slice n.span) = s.slice ⟨start, stop⟩ := by
  induction ns generalizing start with
  | nil =>
      obtain rfl : start = stop := htiles
      refine ⟨hstart, ?_⟩
      obtain ⟨pre, rest, hchars, rfl⟩ := isBoundary_iff.1 hstart
      rw [← List.append_nil pre] at hchars
      exact (slice_append hchars).symm
  | cons n ns ih =>
      obtain ⟨rfl, hle, hlater⟩ := htiles
      have hn := hfits n List.mem_cons_self
      obtain ⟨hstop, hjoin⟩ := ih hn.isBoundary_stop hlater fun m hm =>
        hfits m (List.mem_cons_of_mem n hm)
      refine ⟨hstop, ?_⟩
      calc
        String.join ((n :: ns).map fun n => s.slice n.span) =
            s.slice n.span ++ String.join (ns.map fun n => s.slice n.span) := String.join_cons
        _ = s.slice n.span ++ s.slice ⟨n.span.stop, stop⟩ := by rw [hjoin]
        _ = s.slice ⟨n.span.start, stop⟩ :=
          slice_append_slice hstart hn.isBoundary_stop hstop hle hlater.start_le_stop

end Source

namespace Document

variable {d : Document} {c : Cursor}

theorem caseName_eq_slice (d : Document) (l : Level) : d.caseName l = d.source.slice l.nameSpan :=
  rfl

namespace IsPlaced

/-- A node and its later siblings follow one another from its start. -/
theorem exists_tiles_forward (hd : d.IsPlaced) (hc : c ∈ d.cursors) :
    ∃ stop, Node.Tiles c.node.span.start c.forward stop := by
  rcases eq_top_or_exists_getElem?_children hc with rfl | ⟨p, hp, i, hi⟩
  · exact ⟨d.source.size, rfl, Nat.zero_le _, rfl⟩
  · have hforward := Cursor.forward_of_getElem?_children hi
    have hne : p.node.children ≠ [] := by
      intro hnil
      rw [hnil, List.drop_nil] at hforward
      exact List.cons_ne_nil _ _ hforward
    obtain ⟨stop, htiles⟩ := hd.exists_tiles_children (node_mem_preorder hp) hne
    rw [← List.take_append_drop i p.node.children, Node.tiles_append, ← hforward] at htiles
    obtain ⟨mid, -, htiles⟩ := htiles
    obtain rfl : c.node.span.start = mid := htiles.1
    exact ⟨stop, htiles⟩

theorem fits_of_mem_forward (hd : d.IsPlaced) (hc : c ∈ d.cursors) {n : Node}
    (hn : n ∈ c.forward) : n.span.Fits d.source := by
  rw [← Cursor.map_node_onward] at hn
  obtain ⟨x, hx, rfl⟩ := List.mem_map.1 hn
  exact hd.fits (node_mem_preorder (mem_cursors_of_mem_onward hc hx))

/-- What stands on the line from a node on lies in the source, and its texts make up the name. -/
theorem caseName_eq_join (hd : d.IsPlaced) (hc : c ∈ d.cursors) (hkind : c.node.kind ≠ .newLine) :
    c.here.nameSpan.Fits d.source ∧
      d.caseName c.here = String.join (c.here.onLine.map d.textOf) := by
  obtain ⟨later, honLine⟩ := Level.exists_onLine_eq_cons hkind
  obtain ⟨stop, htiles⟩ := hd.exists_tiles_forward hc
  have hsplit : c.here.onLine ++ c.forward.dropWhile (fun n => n.kind != .newLine) = c.forward :=
    List.takeWhile_append_dropWhile
  have hn := hd.fits (node_mem_preorder hc)
  rw [← hsplit, Node.tiles_append] at htiles
  obtain ⟨mid, htiles, -⟩ := htiles
  have hfits : ∀ n ∈ c.here.onLine, n.span.Fits d.source := by
    intro n hmem
    apply hd.fits_of_mem_forward hc
    rw [← hsplit]
    exact List.mem_append_left _ hmem
  obtain ⟨hstop, hjoin⟩ := Source.join_slice_of_tiles hn.isBoundary_start htiles hfits
  have hspan : c.here.nameSpan = ⟨c.node.span.start, mid⟩ := by
    rw [honLine] at htiles
    rw [Level.nameSpan, honLine, htiles.stop_getLastD]
    rfl
  rw [caseName_eq_slice, hspan]
  refine ⟨⟨htiles.start_le_stop, ?_, hn.isBoundary_start, hstop⟩, hjoin.symm⟩
  exact Source.le_size_of_isBoundary hstop

/-- The end of a line has no name but its own text. -/
theorem nameSpan_of_newLine (hkind : c.node.kind = .newLine) : c.here.nameSpan = c.node.span := by
  rw [Level.nameSpan, Level.onLine_of_newLine hkind]
  rfl

theorem fits_nameSpan (hd : d.IsPlaced) (hc : c ∈ d.cursors) :
    c.here.nameSpan.Fits d.source := by
  by_cases hkind : c.node.kind = .newLine
  · rw [nameSpan_of_newLine hkind]
    exact hd.fits (node_mem_preorder hc)
  · exact (hd.caseName_eq_join hc hkind).1

end IsPlaced

/-- A walk along the links of the arena finds the span of the same name. -/
theorem nameSpan?_arena (hd : d.IsNumbered) (hc : c ∈ d.cursors) {rounds : Nat}
    (hrounds : d.nodeCount ≤ rounds) :
    d.arena.nameSpan? rounds c.entry = some c.here.nameSpan := by
  have hwalk := successorsWhile_eq_takeWhile (fun s => s.record.kind != .newLine)
    (forward_arena_eq_onward hd hc hrounds)
  rw [← Cursor.map_entry_onLine] at hwalk
  have hlast : (c.onLine.map Cursor.entry).getLastD c.entry = (c.onLine.getLastD c).entry :=
    List.getLastD_map
  have hlastNode : c.here.onLine.getLastD c.node = (c.onLine.getLastD c).node := by
    rw [← Cursor.map_node_onLine]
    exact List.getLastD_map
  rw [Cursor.node] at hlastNode
  rw [Arena.nameSpan?, hwalk, Option.map_some, hlast, Level.nameSpan, hlastNode]
  rfl

/-- The name on a node starts with the text of the node. -/
theorem IsPlaced.exists_caseName_eq_append (hd : d.IsPlaced) (hc : c ∈ d.cursors) :
    ∃ more, d.caseName c.here = d.textOf c.node ++ more := by
  by_cases hkind : c.node.kind = .newLine
  · refine ⟨"", ?_⟩
    rw [caseName_eq_slice, nameSpan_of_newLine hkind, String.append_empty]
    rfl
  · obtain ⟨later, honLine⟩ := Level.exists_onLine_eq_cons hkind
    refine ⟨String.join (later.map d.textOf), ?_⟩
    rw [(hd.caseName_eq_join hc hkind).2, honLine, List.map_cons, String.join_cons]
    rfl

/-- Steps that put a name into a cell with a token, an empty token and one more token. -/
def partedNameSteps : List BuildStep :=
  [.enter .line, .token .leaf 1, .leave, .token .leaf 0, .token .leaf 1, .token .newLine 1,
    .token .leaf 1]

/-- What `partedNameSteps` build over a text of four characters. -/
def partedNameDocument : Document where
  source := .ofChars ['a', 'b', '\n', 'c']
  path := none
  fileKind := .suite
  topLevel :=
    [.mk 1 .line ⟨0, 1⟩ [.token 2 .leaf ⟨0, 1⟩], .token 3 .leaf ⟨1, 1⟩, .token 4 .leaf ⟨1, 2⟩,
      .token 5 .newLine ⟨2, 3⟩, .token 6 .leaf ⟨3, 4⟩]

/-- A token over the first of two characters, and then empty tokens. The last of them has no number
of its own, so that the one before has the root as its next sibling. -/
def crowdedNameSteps : List BuildStep := .token .leaf 1 :: emptyTokens 4294967295

def crowdedNameArena (count : Nat) : Arena where
  source := .ofString "ab"
  path := none
  fileKind := .suite
  records := ⟨.block, ⟨0, 2⟩, none, 0, 1 :: idsFrom 2 (count + 2)⟩ ::
    ⟨.leaf, ⟨0, 1⟩, some 0, 0, []⟩ :: NodeRecord.empties 1 1 (count + 2)

theorem finish_attempts_crowdedName (count : Nat) :
    ((ArenaBuilder.start (.ofString "ab") none .suite).attempts
      (.token .leaf 1 :: emptyTokens (count + 2))).2.finish = .ok (crowdedNameArena count) := by
  have hattempts := ArenaBuilder.attempts_emptyTokens
    (b := ((ArenaBuilder.start (.ofString "ab") none .suite).attempt (.token .leaf 1)).2)
    rfl rfl (by decide) (by decide) (count + 2)
  rw [ArenaBuilder.attempts, hattempts]
  rfl

/-- The last empty token that has a number of its own. -/
def crowdedNameEntry (count : Nat) : Arena.Entry :=
  ⟨count + 2, ⟨.leaf, ⟨1, 1⟩, some 0, count + 1, []⟩⟩

def crowdedNameRoot (count : Nat) : Arena.Entry :=
  ⟨0, ⟨.block, ⟨0, 2⟩, none, 0, 1 :: idsFrom 2 (count + 2)⟩⟩

theorem isNode_crowdedNameEntry (count : Nat) :
    (crowdedNameArena count).IsNode (crowdedNameEntry count) := by
  rw [Arena.IsNode, crowdedNameEntry, Arena.entry?, crowdedNameArena, List.getElem?_cons_succ,
    List.getElem?_cons_succ, NodeRecord.empties, List.getElem?_map, List.getElem?_range' (by omega)]
  simp [Span.empty, Nat.add_comm]

theorem forward_crowdedNameArena {count : Nat} (hcount : (2 + (count + 1)) % UInt32.size = 0)
    (rounds : Nat) :
    (crowdedNameArena count).forward (rounds + 2) (crowdedNameEntry count) =
      some [crowdedNameEntry count, crowdedNameRoot count] := by
  have hlast : (1 :: idsFrom 2 (count + 2))[count + 1 + 1]? = some 0 := by
    rw [List.getElem?_cons_succ, idsFrom_concat, hcount,
      List.getElem?_append_right (Nat.le_of_eq (length_idsFrom 2 (count + 1))), length_idsFrom,
      Nat.sub_self]
    rfl
  have hnext : (crowdedNameArena count).next? (crowdedNameEntry count) =
      some (crowdedNameRoot count) := by
    change ((1 :: idsFrom 2 (count + 2))[count + 1 + 1]?).bind _ = _
    rw [hlast]
    rfl
  rw [Arena.forward, successors, hnext]
  rfl

end Document

end RunMarkers
