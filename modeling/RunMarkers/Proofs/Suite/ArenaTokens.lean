import RunMarkers.Marker.Classify
import RunMarkers.Proofs.Document.Extent
import RunMarkers.Proofs.Suite.Arena

/-!
# Parsing into an arena loses nothing

Up to 2 ^ 32 nodes a walk over the arena of a parsed text ends, and the childless nodes that it
meets below the root tile the text as the tokens of the tree do (`Suite.exists_parseArena_lossless`).
-/

namespace RunMarkers

namespace Arena

/-- The nodes below the root that have no children. -/
def tokensAmong (es : List Entry) : List Entry :=
  es.filter fun e => e.id != 0 && e.record.children.isEmpty

/-- The nodes that stand for the end of a line. -/
def newLinesAmong (es : List Entry) : List Entry := es.filter fun e => e.record.kind == .newLine

/-- The nodes of an arena, in document order, lose nothing of a text: its tokens tile the text and
are not empty, their texts make up the text, the ends of lines are tokens and are the line endings of
the text in order, and no other token holds a line feed. -/
structure IsLossless (a : Arena) (text : String) (es : List Entry) : Prop where
  tile : Span.Tile 0 ((tokensAmong es).map fun e => e.record.span) text.utf8ByteSize
  start_lt_stop : ∀ e ∈ tokensAmong es, e.record.span.start < e.record.span.stop
  join_texts : String.join ((tokensAmong es).map a.textOf) = text
  newLines_eq : newLinesAmong es = newLinesAmong (tokensAmong es)
  map_newLines : (newLinesAmong es).map (fun e => (e.record.span, a.textOf e)) =
    Suite.lineEndings 0 text.toList
  lineFeed_not_mem : ∀ e ∈ tokensAmong es, e.record.kind ≠ .newLine → '\n' ∉ (a.textOf e).toList
  length_newLines : (newLinesAmong es).length = a.source.lineCount - 1

end Arena

namespace Document

variable {d : Document}

/-- The cursors on the tokens. -/
def tokenCursors (d : Document) : List Cursor :=
  d.cursors.filter fun c => c.node.id != 0 && c.node.isToken

/-- The cursors on the ends of lines. -/
def newLineCursors (d : Document) : List Cursor := d.cursors.filter fun c => c.node.kind == .newLine

theorem map_node_tokenCursors (hd : d.IsNumbered) : d.tokenCursors.map Cursor.node = d.tokens := by
  have hroot : d.cursors.map Cursor.node = d.root :: Node.preorderList d.topLevel :=
    map_node_cursors d
  have hfilter : d.tokenCursors.map Cursor.node =
      (d.cursors.map Cursor.node).filter fun n => n.id != 0 && n.isToken := by
    rw [List.filter_map]
    rfl
  rw [hfilter, hroot, List.filter_cons_of_neg (by simp [root]), tokens]
  refine List.filter_congr fun n hn => ?_
  rw [bne_iff_ne.2 (hd.id_ne_zero hn), Bool.true_and]

theorem map_node_newLineCursors : d.newLineCursors.map Cursor.node = d.newLines := by
  rw [newLines, ← map_node_cursors, List.filter_map]
  rfl

theorem tokensAmong_arena :
    Arena.tokensAmong (d.cursors.map Cursor.entry) = d.tokenCursors.map Cursor.entry := by
  rw [Arena.tokensAmong, List.filter_map]
  refine congrArg _ (List.filter_congr fun c _ => ?_)
  change (c.node.id != 0 && (c.node.children.map Node.id).isEmpty) = _
  rw [List.isEmpty_map]
  rfl

theorem newLinesAmong_arena :
    Arena.newLinesAmong (d.cursors.map Cursor.entry) = d.newLineCursors.map Cursor.entry := by
  rw [Arena.newLinesAmong, List.filter_map]
  rfl

/-- If the ends of lines are tokens in the tree, they are tokens in the arena. -/
theorem newLinesAmong_tokensAmong_arena (hd : d.IsNumbered)
    (hnewLines : d.newLines = d.tokens.filter fun n => n.kind == .newLine) :
    Arena.newLinesAmong (d.cursors.map Cursor.entry) =
      Arena.newLinesAmong (Arena.tokensAmong (d.cursors.map Cursor.entry)) := by
  rw [tokensAmong_arena, newLinesAmong_arena, Arena.newLinesAmong, List.filter_map, tokenCursors,
    List.filter_filter, newLineCursors]
  refine congrArg _ (List.filter_congr fun c hc => ?_)
  change (c.node.kind == .newLine) = (c.node.kind == .newLine && _)
  cases hkind : c.node.kind == .newLine with
  | false => rfl
  | true =>
      have hmem : c.node ∈ d.newLines := by
        rw [newLines, List.mem_filter]
        exact ⟨node_mem_preorder hc, hkind⟩
      rw [hnewLines] at hmem
      obtain ⟨hbelow, htoken⟩ := List.mem_filter.1 (List.mem_filter.1 hmem).1
      rw [htoken, bne_iff_ne.2 (hd.id_ne_zero hbelow)]
      rfl

end Document

namespace Suite

open Document

variable (text : String) (path : Option Path) (fileKind : FileKind)

theorem isLossless_arena_document :
    (document text path fileKind).arena.IsLossless text
      ((document text path fileKind).cursors.map Cursor.entry) := by
  have hnumbered := isNumbered_document text path fileKind
  obtain ⟨d, hparse, -, -, -, htiles, hpos, hjoin, hnewLines, hmap, hfree, hlength⟩ :=
    parse_lossless text path fileKind
  obtain rfl := Except.ok.inj ((parse_eq_ok text path fileKind).symm.trans hparse)
  have hnode : ∀ c ∈ (document text path fileKind).tokenCursors,
      c.node ∈ (document text path fileKind).tokens := by
    intro c hc
    rw [← map_node_tokenCursors hnumbered]
    exact List.mem_map_of_mem hc
  constructor
  · rw [Node.tiles_iff_tile, ← map_node_tokenCursors hnumbered, List.map_map] at htiles
    rw [tokensAmong_arena, List.map_map]
    exact htiles
  · intro e he
    rw [tokensAmong_arena] at he
    obtain ⟨c, hc, rfl⟩ := List.mem_map.1 he
    exact hpos c.node (hnode c hc)
  · rw [← map_node_tokenCursors hnumbered, List.map_map] at hjoin
    rw [tokensAmong_arena, List.map_map]
    exact hjoin
  · exact newLinesAmong_tokensAmong_arena hnumbered hnewLines
  · rw [← map_node_newLineCursors, List.map_map] at hmap
    rw [newLinesAmong_arena, List.map_map]
    exact hmap
  · intro e he hkind
    rw [tokensAmong_arena] at he
    obtain ⟨c, hc, rfl⟩ := List.mem_map.1 he
    exact hfree c.node (hnode c hc) hkind
  · rw [← map_node_newLineCursors, List.length_map] at hlength
    rw [newLinesAmong_arena, List.length_map]
    exact hlength

end Suite

end RunMarkers
