import RunMarkers.Proofs.Marker.LineScan

/-!
# The heading lines of a text

The tree of a text has a heading node at the start of each line that starts with a star, and no
other heading node. So the lines at which the headings of a parsed document start are the heading
lines that the scan finds (`headingLines_document`).
-/

namespace RunMarkers

namespace Suite.Chunk

theorem filter_heading_preorderList_layOut (id start : Nat) (ks : List Chunk) :
    (Node.preorderList (layOut id start ks)).filter (fun n => n.kind == .heading) =
      (layOut id start ks).filter fun n => n.kind == .heading := by
  induction ks generalizing id start with
  | nil => rfl
  | cons k ks ih =>
      have hchunk : (k.node id start).preorder.filter (fun n => n.kind == .heading) =
          [k.node id start].filter fun n => n.kind == .heading := by
        cases k with
        | bare kind text => rfl
        | wrap kind text =>
            simp [node, Node.preorder, Node.preorderList, Node.token, List.filter_cons]
      rw [layOut, Node.preorderList, List.filter_append, ih, hchunk, ← List.filter_append]
      rfl

theorem filter_heading_layOut_eq_nil {ks : List Chunk} (hks : ∀ k ∈ ks, k.kind ≠ .heading)
    (id start : Nat) : (layOut id start ks).filter (fun n => n.kind == .heading) = [] := by
  rw [List.filter_eq_nil_iff]
  intro n hn
  obtain ⟨k, hk, hkind⟩ := exists_kind_eq_of_mem_layOut hn
  rw [beq_iff_eq, ← hkind]
  exact hks k hk

end Suite.Chunk

/-- The number of a line as it is stored. -/
def Suite.ScanLine.storedNumber (l : ScanLine) : Nat := l.number % UInt32.size

theorem Suite.ScanLine.map_storedNumber_filter_cons (l : ScanLine) (ls : List ScanLine) :
    ((l :: ls).filter isHeading).map storedNumber =
      (if l.isHeading then [l.storedNumber] else []) ++ (ls.filter isHeading).map storedNumber := by
  rw [List.filter_cons]
  split
  next => rfl
  next => rfl

namespace Document

open Suite

variable {d : Document}

/-- The lines at which the headings among nodes start. -/
def headingLinesOf (d : Document) (nodes : List Node) : List Nat :=
  (nodes.filter fun n => n.kind == .heading).map fun n => (d.placeOf n).line

theorem headingLinesOf_append (ms ns : List Node) :
    d.headingLinesOf (ms ++ ns) = d.headingLinesOf ms ++ d.headingLinesOf ns := by
  rw [headingLinesOf, List.filter_append, List.map_append]
  rfl

/-- Pieces that are no headings, and the ending of their line, make no heading node. -/
theorem kind_ne_heading_of_mem {ps : List Piece} (hps : ∀ p ∈ ps, p.isHeading = false)
    (ending : List Char) {k : Chunk}
    (hk : k ∈ ps.map Piece.chunk ++ if ending.isEmpty then [] else [.bare .newLine ending]) :
    k.kind ≠ .heading := by
  rcases List.mem_append.1 hk with hk | hk
  · obtain ⟨p, hp, rfl⟩ := List.mem_map.1 hk
    exact kind_chunk_ne_heading (hps p hp)
  · split at hk
    next => exact absurd hk List.not_mem_nil
    next =>
        rw [List.mem_singleton.1 hk]
        exact nofun

/-- A line has a heading at its start if it starts with a star, else none. -/
theorem headingLinesOf_line {pre rest : List Char} (id : Nat) (line : PhysicalLine)
    (hchars : d.source.chars = pre ++ rest) :
    d.headingLinesOf (Chunk.layOut id (Text.byteLength pre) line.chunks) =
      if line.content.head? == some '*' then [pre.count '\n' % UInt32.size] else [] := by
  by_cases hstar : line.content.head? = some '*'
  · obtain ⟨later, hpieces⟩ := linePieces_of_head?_star hstar
    have hlater : ∀ p ∈ later, p.isHeading = false := fun p hp => isHeading_of_mem_later hpieces hp
    have hrest := Chunk.filter_heading_layOut_eq_nil
      (fun k hk => kind_ne_heading_of_mem hlater line.ending hk)
    have hplace := congrArg Position.narrowed (d.source.placeAt_append hchars)
    rw [if_pos (beq_iff_eq.2 hstar), PhysicalLine.chunks, hpieces, List.map_cons, List.cons_append,
      Chunk.layOut, headingLinesOf, List.filter_cons, hrest]
    exact congrArg (fun place : Position => [place.line]) hplace
  · have hpieces : ∀ p ∈ linePieces line.content, p.isHeading = false :=
      fun p hp => isHeading_of_head?_ne_star hstar hp
    have hkinds : ∀ k ∈ line.chunks, k.kind ≠ .heading :=
      fun k hk => kind_ne_heading_of_mem hpieces line.ending hk
    rw [if_neg (by simpa using hstar), headingLinesOf, Chunk.filter_heading_layOut_eq_nil hkinds]
    rfl

theorem headingLinesOf_eq_scan {raws : List (List Char)} {pre : List Char}
    (hchars : d.source.chars = pre ++ raws.flatten) (hraws : EndOnce (raws.map .ofRaw))
    (column : Nat) (scope : Option Section) (id : Nat) :
    d.headingLinesOf (Chunk.layOut id (Text.byteLength pre)
        ((raws.map PhysicalLine.ofRaw).flatMap PhysicalLine.chunks)) =
      ((scanLines (pre.count '\n') (Text.byteLength pre) column scope raws).filter
        ScanLine.isHeading).map ScanLine.storedNumber := by
  induction raws generalizing pre column scope id with
  | nil => rfl
  | cons raw later ih =>
      have hline := headingLinesOf_line id (.ofRaw raw) hchars
      rw [List.flatten_cons, ← List.append_assoc] at hchars
      rw [List.map_cons, List.flatMap_cons, Chunk.layOut_append, headingLinesOf_append, hline,
        textOf_chunks_line, PhysicalLine.text_ofRaw, ← Text.byteLength_append, scanLines]
      by_cases hending : (PhysicalLine.ofRaw raw).ending = []
      -- the number of a next line is known only behind an ending
      · have hlater : later = [] := List.map_eq_nil_iff.1 (hraws.later_eq_nil hending)
        subst hlater
        rw [ScanLine.map_storedNumber_filter_cons]
        rfl
      · have hlater := ih hchars hraws.2.2 0
          (lineAfter pre scope (withoutEnding raw)).scope
          (id + Chunk.countOf (PhysicalLine.ofRaw raw).chunks)
        rw [hraws.count_append hending] at hlater
        rw [hlater, ScanLine.map_storedNumber_filter_cons, Text.byteLength_append]
        rfl

/-- The headings of a parsed document start at the heading lines of its text, which are stored in
numbers of 32 bits. -/
theorem headingLines_document_eq_map (text : String) (path : Option Path) (fileKind : FileKind) :
    (document text path fileKind).headingLines =
      (headings text.toList).map ScanLine.storedNumber := by
  have hlines : ∀ (pre : List Char) {cs : List Char}, text.toList = pre ++ cs →
      ∀ column id : Nat,
      (document text path fileKind).headingLinesOf (Chunk.layOut id (Text.byteLength pre)
          ((physicalLines cs).flatMap PhysicalLine.chunks)) =
        ((scanLines (pre.count '\n') (Text.byteLength pre) column none
          (cutAfterLineFeeds cs)).filter ScanLine.isHeading).map ScanLine.storedNumber := by
    intro pre cs hchars column id
    rw [physicalLines_eq_map_ofRaw]
    refine headingLinesOf_eq_scan ?_ (endOnce_map_ofRaw cs) column none id
    rw [flatten_cutAfterLineFeeds]
    exact hchars
  have htree : (document text path fileKind).headingLines =
      (document text path fileKind).headingLinesOf (Chunk.layOut 1 0 (chunks text.toList)) := by
    rw [headingLinesOf, ← Chunk.filter_heading_preorderList_layOut]
    rfl
  rw [htree, headings]
  cases hcs : text.toList with
  | nil => rfl
  | cons c rest =>
      rw [chunks, scanned]
      split
      next hbom =>
          subst hbom
          exact hlines [byteOrderMark] hcs 1 2
      next => exact hlines [] hcs 0 1

/-- Below 2 ^ 32 line feeds the lines are stored as they are. -/
theorem headingLines_document {text : String} (hcount : text.toList.count '\n' < UInt32.size)
    (path : Option Path) (fileKind : FileKind) :
    (document text path fileKind).headingLines =
      (headings text.toList).map ScanLine.number := by
  rw [headingLines_document_eq_map]
  refine List.map_congr_left fun l hl => Nat.mod_eq_of_lt ?_
  have hmem := (List.mem_filter.1 hl).1
  exact Nat.lt_of_le_of_lt (number_le_count_of_mem_scanned hmem) hcount

end Document

end RunMarkers
