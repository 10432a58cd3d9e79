import RunMarkers.Proofs.Document.Tokens
import RunMarkers.Proofs.Suite.Cells
import RunMarkers.Proofs.Suite.Lines
import RunMarkers.Proofs.Suite.Tree

/-!
# Parsing loses nothing

The tokens of a parsed document tile its source, each with text of its own, and its `newLine`
tokens are the line endings of the source, one for each line feed. `lineEndings` finds the line
endings in the text itself.
-/

namespace RunMarkers

namespace Suite

/-- The line endings of a text of which `offset` bytes have passed: a line feed, with the carriage
return before it if there is one. -/
def lineEndings (offset : Nat) : List Char → List (Span × String)
  | [] => []
  | '\r' :: '\n' :: cs => (⟨offset, offset + 2⟩, "\r\n") :: lineEndings (offset + 2) cs
  | '\n' :: cs => (⟨offset, offset + 1⟩, "\n") :: lineEndings (offset + 1) cs
  | c :: cs => lineEndings (offset + c.utf8Size) cs

def endingsFrom (offset : Nat) : List PhysicalLine → List (Span × String)
  | [] => []
  | line :: later =>
    let stop := offset + Text.byteLength line.content
    let next := stop + Text.byteLength line.ending
    (if line.ending.isEmpty then [] else [(⟨stop, next⟩, String.ofList line.ending)])
      ++ endingsFrom next later

/-- A character that is no part of an ending only moves the endings. -/
theorem endingsFrom_cons_content (offset : Nat) (c : Char) (line : PhysicalLine)
    (later : List PhysicalLine) :
    endingsFrom offset (⟨c :: line.content, line.ending⟩ :: later) =
      endingsFrom (offset + c.utf8Size) (line :: later) := by
  simp [endingsFrom, Nat.add_assoc]

theorem endingsFrom_consChar {c : Char} (hc : c ≠ '\n') (cs : List Char)
    (hreturn : c = '\r' → cs.head? ≠ some '\n') (offset : Nat) :
    endingsFrom offset (PhysicalLine.consChar c (physicalLines cs)) =
      endingsFrom (offset + c.utf8Size) (physicalLines cs) := by
  have htext := flatMap_text_physicalLines cs
  cases hlines : physicalLines cs with
  | nil => simp [PhysicalLine.consChar, if_neg hc, endingsFrom]
  | cons line later =>
      simp only [PhysicalLine.consChar, if_neg hc]
      split
      next h =>
          obtain ⟨hc', hcontent, hending⟩ := h
          refine absurd ?_ (hreturn hc')
          rw [← htext, hlines, List.flatMap_cons, PhysicalLine.text, hcontent, hending]
          rfl
      next => exact endingsFrom_cons_content offset c line later

theorem endingsFrom_physicalLines (offset : Nat) (cs : List Char) :
    endingsFrom offset (physicalLines cs) = lineEndings offset cs := by
  fun_induction lineEndings offset cs with
  | case1 => rfl
  | case2 offset cs ih =>
      change endingsFrom offset (⟨[], ['\r', '\n']⟩ :: physicalLines cs) = _
      rw [← ih]
      rfl
  | case3 offset cs ih =>
      change endingsFrom offset (⟨[], ['\n']⟩ :: physicalLines cs) = _
      rw [← ih]
      rfl
  | case4 offset c cs hreturn hc ih =>
      change endingsFrom offset (PhysicalLine.consChar c (physicalLines cs)) = _
      rw [endingsFrom_consChar (fun h => hc h) cs, ih]
      intro hc' hhead
      obtain ⟨rest, rfl⟩ := List.head?_eq_some_iff.1 hhead
      exact hreturn rest hc' rfl

namespace Chunk

def tokenKind : Chunk → NodeKind
  | bare kind _ => kind
  | wrap _ _ => .leaf

/-- The childless node of a chunk. -/
def token (id start : Nat) (k : Chunk) : Node :=
  match k with
  | bare kind _ => .token id kind (k.span start)
  | wrap _ _ => .token (id + 1) .leaf (k.span start)

@[simp] theorem span_token (id start : Nat) (k : Chunk) :
    (k.token id start).span = k.span start := by
  cases k with
  | bare kind text => rfl
  | wrap kind text => rfl

@[simp] theorem kind_token (id start : Nat) (k : Chunk) :
    (k.token id start).kind = k.tokenKind := by
  cases k with
  | bare kind text => rfl
  | wrap kind text => rfl

/-- The tokens of a row of chunks, numbered and placed as the chunks are. -/
def tokensFrom (id start : Nat) : List Chunk → List Node
  | [] => []
  | k :: ks => k.token id start :: tokensFrom (id + k.count) (start + Text.byteLength k.text) ks

theorem filter_isToken_layOut (id start : Nat) (ks : List Chunk) :
    (Node.preorderList (layOut id start ks)).filter Node.isToken = tokensFrom id start ks := by
  induction ks generalizing id start with
  | nil => rfl
  | cons k ks ih =>
      rw [layOut, Node.preorderList, List.filter_append, ih, tokensFrom]
      cases k with
      | bare kind text => rfl
      | wrap kind text => rfl

theorem tiles_tokensFrom (id start : Nat) (ks : List Chunk) :
    Node.Tiles start (tokensFrom id start ks) (start + Text.byteLength (textOf ks)) := by
  induction ks generalizing id start with
  | nil => rfl
  | cons k ks ih =>
      have hlater := ih (id + k.count) (start + Text.byteLength k.text)
      rw [textOf_cons, Text.byteLength_append, ← Nat.add_assoc]
      rw [tokensFrom, Node.Tiles, span_token]
      exact ⟨rfl, Nat.le_add_right _ _, hlater⟩

theorem start_lt_stop_of_mem_tokensFrom {id start : Nat} {ks : List Chunk}
    (hks : ∀ k ∈ ks, k.text ≠ []) {n : Node} (hn : n ∈ tokensFrom id start ks) :
    n.span.start < n.span.stop := by
  induction ks generalizing id start with
  | nil => exact absurd hn List.not_mem_nil
  | cons k ks ih =>
      rcases List.mem_cons.1 hn with rfl | hn
      · have hpos := List.length_pos_iff.2 (hks k List.mem_cons_self)
        have hle := Text.length_le_byteLength k.text
        rw [span_token, span]
        simp only
        omega
      · exact ih (fun l hl => hks l (List.mem_cons_of_mem _ hl)) hn

theorem map_tokensFrom {d : Document} {pre : List Char} (id : Nat) (ks : List Chunk)
    (hchars : d.source.chars = pre ++ textOf ks) :
    (tokensFrom id (Text.byteLength pre) ks).map (fun n => (n.kind, d.textOf n)) =
      ks.map fun k => (k.tokenKind, String.ofList k.text) := by
  induction ks generalizing id pre with
  | nil => rfl
  | cons k ks ih =>
      rw [textOf_cons, ← List.append_assoc] at hchars
      have hlater := ih (id + k.count) hchars
      rw [Text.byteLength_append] at hlater
      rw [tokensFrom, List.map_cons, List.map_cons, hlater, kind_token, Document.textOf,
        span_token, span, Source.slice_append hchars]

theorem tokensFrom_append (id start : Nat) (ks ls : List Chunk) :
    tokensFrom id start (ks ++ ls) =
      tokensFrom id start ks ++
        tokensFrom (id + countOf ks) (start + Text.byteLength (textOf ks)) ls := by
  rw [← filter_isToken_layOut, layOut_append, Node.preorderList_append, List.filter_append,
    filter_isToken_layOut, filter_isToken_layOut]

/-- No line ending is found in an interior node, so each one found in the tree is a token. -/
theorem filter_newLine_layOut {ks : List Chunk} (hks : ∀ k ∈ ks, ∀ text, k ≠ .wrap .newLine text)
    (id start : Nat) :
    (Node.preorderList (layOut id start ks)).filter (fun n => n.kind == .newLine) =
      (tokensFrom id start ks).filter fun n => n.kind == .newLine := by
  induction ks generalizing id start with
  | nil => rfl
  | cons k ks ih =>
      have hlater := ih (fun l hl => hks l (List.mem_cons_of_mem _ hl)) (id + k.count)
        (start + Text.byteLength k.text)
      rw [layOut, Node.preorderList, List.filter_append, hlater, tokensFrom]
      cases k with
      | bare kind text => exact (List.filter_append [_] _).symm
      | wrap kind text =>
          have hkind : (kind == .newLine) = false :=
            beq_eq_false_iff_ne.2 fun h => hks _ List.mem_cons_self text (h ▸ rfl)
          have hnode : (Node.preorder ((wrap kind text).node id start)).filter
              (fun n => n.kind == .newLine) = [] := by
            simp [node, Node.preorder, Node.preorderList, Node.token, hkind]
          rw [hnode]
          rfl

end Chunk

theorem tokenKind_chunk (p : Piece) : p.chunk.tokenKind = .leaf := by
  cases p with
  | heading text => rfl
  | cell text => rfl
  | plain text => rfl

theorem filter_newLine_tokensFrom_pieces (id start : Nat) (ps : List Piece) :
    (Chunk.tokensFrom id start (ps.map Piece.chunk)).filter (fun n => n.kind == .newLine) = [] := by
  induction ps generalizing id start with
  | nil => rfl
  | cons p ps ih =>
      rw [List.map_cons, Chunk.tokensFrom, List.filter_cons, Chunk.kind_token, tokenKind_chunk]
      exact ih _ _

theorem map_newLines_line {d : Document} {pre rest : List Char} (id : Nat) (line : PhysicalLine)
    (hchars : d.source.chars = pre ++ line.text ++ rest) :
    ((Chunk.tokensFrom id (Text.byteLength pre) line.chunks).filter
        fun n => n.kind == .newLine).map (fun n => (n.span, d.textOf n)) =
      endingsFrom (Text.byteLength pre) [line] := by
  rw [PhysicalLine.text, ← List.append_assoc] at hchars
  have hending := Source.slice_append hchars
  rw [Text.byteLength_append] at hending
  rw [PhysicalLine.chunks, Chunk.tokensFrom_append, List.filter_append,
    filter_newLine_tokensFrom_pieces, List.nil_append, textOf_map_chunk, flatMap_text_linePieces,
    endingsFrom, endingsFrom, List.append_nil]
  split
  next => rfl
  next => exact congrArg (fun text => [(_, text)]) hending

/-- The line endings found in the tree of a row of lines are the endings of the lines. -/
theorem map_newLines_lines {d : Document} {pre : List Char} (id : Nat) (lines : List PhysicalLine)
    (hchars : d.source.chars = pre ++ lines.flatMap PhysicalLine.text) :
    ((Chunk.tokensFrom id (Text.byteLength pre) (lines.flatMap PhysicalLine.chunks)).filter
        fun n => n.kind == .newLine).map (fun n => (n.span, d.textOf n)) =
      endingsFrom (Text.byteLength pre) lines := by
  induction lines generalizing id pre with
  | nil => rfl
  | cons line later ih =>
      rw [List.flatMap_cons, ← List.append_assoc] at hchars
      have hline := map_newLines_line id line hchars
      have hlater := ih (id + Chunk.countOf line.chunks) hchars
      rw [Text.byteLength_append] at hlater
      rw [List.flatMap_cons, Chunk.tokensFrom_append, List.filter_append, List.map_append,
        textOf_chunks_line, hline, hlater, endingsFrom, endingsFrom, endingsFrom, List.append_nil,
        PhysicalLine.text, Text.byteLength_append, Nat.add_assoc]

theorem mem_chunks_line {line : PhysicalLine} {k : Chunk} (hk : k ∈ line.chunks) :
    (∃ p ∈ linePieces line.content, p.chunk = k) ∨
      line.ending ≠ [] ∧ k = .bare .newLine line.ending := by
  rcases List.mem_append.1 hk with hk | hk
  · exact .inl (List.mem_map.1 hk)
  · split at hk
    next => exact absurd hk List.not_mem_nil
    next h => exact .inr ⟨by simpa using h, List.mem_singleton.1 hk⟩

theorem mem_chunks {cs : List Char} {k : Chunk} (hk : k ∈ chunks cs) :
    k = .bare .leaf [byteOrderMark] ∨
      ∃ line : PhysicalLine, '\n' ∉ line.content ∧ k ∈ line.chunks := by
  have hlines : ∀ {ds : List Char}, k ∈ (physicalLines ds).flatMap PhysicalLine.chunks →
      ∃ line : PhysicalLine, '\n' ∉ line.content ∧ k ∈ line.chunks := by
    intro ds hk
    obtain ⟨line, hline, hk⟩ := List.mem_flatMap.1 hk
    exact ⟨line, lineFeed_not_mem_content (endOnce_physicalLines ds) hline, hk⟩
  cases cs with
  | nil => exact absurd hk List.not_mem_nil
  | cons c rest =>
      rw [chunks] at hk
      split at hk
      next h =>
          rcases List.mem_cons.1 hk with rfl | hk
          · exact .inl (h ▸ rfl)
          · exact .inr (hlines hk)
      next => exact .inr (hlines hk)

theorem text_ne_nil_of_mem_chunks {cs : List Char} {k : Chunk} (hk : k ∈ chunks cs) :
    k.text ≠ [] := by
  rcases mem_chunks hk with rfl | ⟨line, -, hk⟩
  · exact List.cons_ne_nil _ _
  · rcases mem_chunks_line hk with ⟨p, hp, rfl⟩ | ⟨hne, rfl⟩
    · rw [text_chunk]
      exact text_ne_nil_of_mem_linePieces hp
    · exact hne

theorem ne_wrap_newLine_of_mem_chunks {cs : List Char} {k : Chunk} (hk : k ∈ chunks cs)
    (text : List Char) : k ≠ .wrap .newLine text := by
  rcases mem_chunks hk with rfl | ⟨line, -, hk⟩
  · exact fun h => by cases h
  · rcases mem_chunks_line hk with ⟨p, -, rfl⟩ | ⟨-, rfl⟩
    · cases p with
      | heading text => exact fun h => by cases h
      | cell text => exact fun h => by cases h
      | plain text => exact fun h => by cases h
    · exact fun h => by cases h

theorem lineFeed_not_mem_of_mem_chunks {cs : List Char} {k : Chunk} (hk : k ∈ chunks cs)
    (hkind : k.tokenKind ≠ .newLine) : '\n' ∉ k.text := by
  rcases mem_chunks hk with rfl | ⟨line, hcontent, hk⟩
  · decide
  · rcases mem_chunks_line hk with ⟨p, hp, rfl⟩ | ⟨-, rfl⟩
    · intro hmem
      rw [text_chunk] at hmem
      apply hcontent
      rw [← flatMap_text_linePieces line.content]
      exact List.mem_flatMap.2 ⟨p, hp, hmem⟩
    · exact absurd rfl hkind

theorem length_lineEndings (offset : Nat) (cs : List Char) :
    (lineEndings offset cs).length = cs.count '\n' := by
  fun_induction lineEndings offset cs with
  | case1 => rfl
  | case2 offset cs ih => simp [ih]
  | case3 offset cs ih => simp [ih]
  | case4 offset c cs _ hc ih => rw [ih, List.count_cons_of_ne fun h => hc h]

theorem length_after (line offset : Nat) (cs : List Char) :
    (LineStart.after line offset cs).length = cs.count '\n' := by
  induction cs generalizing line offset with
  | nil => rfl
  | cons c cs ih =>
      rw [LineStart.after]
      split
      next h => rw [List.length_cons, ih, h, List.count_cons_self]
      next h => rw [ih, List.count_cons_of_ne h]

section Document

variable (text : String) (path : Option Path) (fileKind : FileKind)

theorem tokens_document :
    (document text path fileKind).tokens = Chunk.tokensFrom 1 0 (chunks text.toList) :=
  Chunk.filter_isToken_layOut 1 0 _

theorem map_tokens_document :
    (document text path fileKind).tokens.map
        (fun n => (n.kind, (document text path fileKind).textOf n)) =
      (chunks text.toList).map fun k => (k.tokenKind, String.ofList k.text) := by
  have hchars : (document text path fileKind).source.chars =
      [] ++ Chunk.textOf (chunks text.toList) := (textOf_chunks text.toList).symm
  rw [tokens_document]
  exact Chunk.map_tokensFrom 1 _ hchars

theorem newLines_document :
    (document text path fileKind).newLines =
      (document text path fileKind).tokens.filter fun n => n.kind == .newLine := by
  rw [tokens_document]
  exact Chunk.filter_newLine_layOut (fun k hk => ne_wrap_newLine_of_mem_chunks hk) 1 0

/-- A byte order mark is no line ending and comes before all of them. -/
theorem map_newLines_document :
    (document text path fileKind).newLines.map
        (fun n => (n.span, (document text path fileKind).textOf n)) =
      lineEndings 0 text.toList := by
  rw [newLines_document, tokens_document]
  cases hcs : text.toList with
  | nil => rfl
  | cons c rest =>
      rw [chunks]
      split
      next h =>
          have hchars : (document text path fileKind).source.chars =
              [c] ++ (physicalLines rest).flatMap PhysicalLine.text := by
            rw [flatMap_text_physicalLines]
            exact hcs
          have hrest := map_newLines_lines 2 _ hchars
          rw [endingsFrom_physicalLines] at hrest
          subst h
          exact hrest
      next =>
          have hchars : (document text path fileKind).source.chars =
              [] ++ (physicalLines (c :: rest)).flatMap PhysicalLine.text := by
            rw [flatMap_text_physicalLines]
            exact hcs
          have hrest := map_newLines_lines 1 _ hchars
          rw [endingsFrom_physicalLines] at hrest
          exact hrest

end Document

/-- Parsing never fails and loses nothing: the tokens of the document tile the source and are not
empty, their texts make up the source, its `newLine` nodes are tokens and are the line endings of
the source in order, and no other token holds a line feed. -/
theorem parse_lossless (text : String) (path : Option Path) (fileKind : FileKind) :
    ∃ d, parse text path fileKind = .ok d ∧
      d.source.text = text ∧ d.path = path ∧ d.fileKind = fileKind ∧
      Node.Tiles 0 d.tokens text.utf8ByteSize ∧
      (∀ n ∈ d.tokens, n.span.start < n.span.stop) ∧
      String.join (d.tokens.map d.textOf) = text ∧
      d.newLines = (d.tokens.filter fun n => n.kind == .newLine) ∧
      d.newLines.map (fun n => (n.span, d.textOf n)) = lineEndings 0 text.toList ∧
      (∀ n ∈ d.tokens, n.kind ≠ .newLine → '\n' ∉ (d.textOf n).toList) ∧
      d.newLines.length = d.source.lineCount - 1 := by
  refine ⟨document text path fileKind, parse_eq_ok text path fileKind, Source.text_ofString text,
    rfl, rfl, ?_, ?_, ?_, newLines_document text path fileKind,
    map_newLines_document text path fileKind, ?_, ?_⟩
  · have htiles := Chunk.tiles_tokensFrom 1 0 (chunks text.toList)
    rw [textOf_chunks, Text.byteLength_toList, Nat.zero_add] at htiles
    rw [tokens_document]
    exact htiles
  · intro n hn
    rw [tokens_document] at hn
    exact Chunk.start_lt_stop_of_mem_tokensFrom (fun k hk => text_ne_nil_of_mem_chunks hk) hn
  · have htexts := congrArg (List.map Prod.snd) (map_tokens_document text path fileKind)
    rw [List.map_map, List.map_map] at htexts
    change (document text path fileKind).tokens.map (document text path fileKind).textOf = _
      at htexts
    rw [htexts, ← String.toList_inj, String.toList_join, List.flatMap_map]
    simpa [Chunk.textOf] using textOf_chunks text.toList
  · intro n hn hkind
    have hmem := List.mem_map_of_mem
      (f := fun n => (n.kind, (document text path fileKind).textOf n)) hn
    rw [map_tokens_document] at hmem
    obtain ⟨k, hk, hpair⟩ := List.mem_map.1 hmem
    obtain ⟨hkind', htext⟩ := Prod.mk.inj hpair
    rw [← htext, String.toList_ofList]
    exact lineFeed_not_mem_of_mem_chunks hk (hkind' ▸ hkind)
  · have hlength := congrArg List.length (map_newLines_document text path fileKind)
    rw [List.length_map, length_lineEndings] at hlength
    rw [hlength, Source.lineCount, Source.laterLines_eq, length_after]
    rfl

end Suite

end RunMarkers
