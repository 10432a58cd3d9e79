import RunMarkers.Proofs.Marker.Chunks
import RunMarkers.Proofs.Marker.Links
import RunMarkers.Proofs.Suite.Arena
import RunMarkers.Proofs.Suite.Governing

/-!
# The markers of a text are those that the scan finds

The pass over the tree of a text meets its chunks line by line. Over those of one line it does what
the scan does with the line: the same marker, if any, and the same section from there on
(`readsAs_firstPiece`). By induction on the lines both find the same markers in a text
(`markers_document`). So does the pass along the links of the parsed arena, as long as the numbers
of its nodes have 32 bits (`Document.exists_parseArena_markers_eq_scan`).
-/

namespace RunMarkers

/-- A marker as it is stored, its place in numbers of 32 bits. -/
def Marker.narrowed (m : Marker) : Marker := { m with position := m.position.narrowed }

namespace Suite

theorem all_isWhiteSpace_of_head?_star {text : List Char} (h : text.head? = some '*') :
    text.all Text.isWhiteSpace = false := by
  obtain ⟨cs, rfl⟩ := List.head?_eq_some_iff.1 h
  rfl

namespace ScanLine

theorem isHeading_of_isQuiet {l : ScanLine} (h : isQuiet l.content = true) :
    l.isHeading = false := by
  rw [isHeading, beq_eq_false_iff_ne]
  intro hstar
  rw [isQuiet_of_head?_star hstar] at h
  exact Bool.false_ne_true h

theorem marker?_of_not_hasName {l : ScanLine} (hheading : l.isHeading = false)
    (h : l.hasName = false) : l.marker? = none := by
  rw [marker?, hheading, if_neg Bool.false_ne_true, h]
  cases l.within with
  | none => rfl
  | some within => simp

theorem filterMap_marker?_cons (l : ScanLine) (ls : List ScanLine) :
    (l :: ls).filterMap marker? = l.marker?.toList ++ ls.filterMap marker? := by
  rw [List.filterMap_cons]
  cases l.marker? with
  | none => rfl
  | some m => rfl

/-- The marker of the line as it is stored. -/
def stored? (l : ScanLine) : Option Marker := l.marker?.map Marker.narrowed

theorem filterMap_stored?_cons (l : ScanLine) (ls : List ScanLine) :
    (l :: ls).filterMap stored? = l.stored?.toList ++ ls.filterMap stored? := by
  rw [List.filterMap_cons]
  cases l.stored? with
  | none => rfl
  | some m => rfl

theorem filterMap_stored? (ls : List ScanLine) :
    ls.filterMap stored? = (ls.filterMap marker?).map Marker.narrowed := by
  rw [List.map_filterMap]
  rfl

end ScanLine

end Suite

namespace Document

open Suite

variable {d : Document}

/-- A line can start here: no section is open yet, or the end of a line has just passed. -/
def AtLineStart (scope : Option Section) (before : List Node) : Prop :=
  scope = none ∨ ∃ previous earlier, before = previous :: earlier ∧ previous.kind = .newLine

section Line

variable {pre content rest : List Char} {scope : Option Section} {before : List Node}

/-- The line that the scan comes to behind `pre`. -/
def lineAfter (pre : List Char) (scope : Option Section) (content : List Char) : ScanLine :=
  ⟨pre.count '\n', Text.byteLength pre, (Text.lastLine pre).length, scope, content⟩

theorem place_lineAfter (scope : Option Section) (content : List Char)
    (hchars : d.source.chars = pre ++ rest) :
    d.source.positionAt (Text.byteLength pre) = (lineAfter pre scope content).place.narrowed :=
  congrArg Position.narrowed (Source.placeAt_append hchars)

theorem opens_lineAfter (pre : List Char) (scope : Option Section) (content : List Char) :
    (lineAfter pre scope content).opens =
      .ofHeading (String.ofList (firstCell content)) := rfl

/-- The pass makes of a node what the scan makes of a line. -/
def ReadsAs (d : Document) (l : Level) (line : ScanLine) : Prop :=
  d.scopeAfter line.within l.node = line.scope ∧ d.markerIn? line.scope l = line.stored?

theorem readsAs_heading (hsuite : d.isSuite = true)
    (hchars : d.source.chars = pre ++ firstCell content ++ rest)
    (hquiet : isQuiet content = false) (hstar : (firstCell content).head? = some '*')
    (id : Nat) (after : List Node) :
    d.ReadsAs ⟨before, (Chunk.wrap .heading (firstCell content)).node id (Text.byteLength pre),
      after⟩ (lineAfter pre scope content) := by
  have htext : d.source.slice
      ((Chunk.wrap .heading (firstCell content)).span (Text.byteLength pre)) =
      String.ofList (firstCell content) := Source.slice_append hchars
  have hheading : (lineAfter pre scope content).isHeading = true := by
    rw [head?_firstCell hquiet] at hstar
    exact beq_iff_eq.2 hstar
  have hopens : d.opens ((Chunk.wrap .heading (firstCell content)).node id (Text.byteLength pre)) =
      (lineAfter pre scope content).opens := congrArg Section.ofHeading htext
  constructor
  · rw [scopeAfter, Chunk.kind_node, hopens, ScanLine.scope_of_isHeading hheading]
    rfl
  · rw [markerIn?_heading hsuite htext (all_isWhiteSpace_of_head?_star hstar),
      place_lineAfter scope content (hchars.trans (List.append_assoc _ _ _)),
      ScanLine.stored?, ScanLine.marker?, if_pos hheading, opens_lineAfter]
    generalize Section.ofHeading (String.ofList (firstCell content)) = opens
    cases hrunnable : opens.isRunnable with
    | true => rfl
    | false => rfl

theorem readsAs_cell (hsuite : d.isSuite = true)
    (hchars : d.source.chars = pre ++ firstCell content ++ rest)
    (hquiet : isQuiet content = false) (hstar : (firstCell content).head? ≠ some '*')
    (hdots : firstCell content ≠ ['.', '.', '.']) (hstart : AtLineStart scope before)
    (id : Nat) (after : List Node)
    (hname : d.caseName ⟨before, (Chunk.wrap .line (firstCell content)).node id
      (Text.byteLength pre), after⟩ = String.ofList content) :
    d.ReadsAs ⟨before, (Chunk.wrap .line (firstCell content)).node id (Text.byteLength pre), after⟩
      (lineAfter pre scope content) := by
  have htext : d.source.slice
      ((Chunk.wrap .line (firstCell content)).span (Text.byteLength pre)) =
      String.ofList (firstCell content) := Source.slice_append hchars
  have hheading : (lineAfter pre scope content).isHeading = false := by
    rw [head?_firstCell hquiet] at hstar
    exact beq_eq_false_iff_ne.2 hstar
  have hscope : (lineAfter pre scope content).scope = scope :=
    ScanLine.scope_of_not_isHeading hheading
  have hasName : (lineAfter pre scope content).hasName =
      !(firstCell content).all Text.isWhiteSpace := by
    simp [ScanLine.hasName, lineAfter, hquiet, hdots]
  have hkind : ((Chunk.wrap .line (firstCell content)).node id (Text.byteLength pre)).kind ≠
      .heading := by
    rw [Chunk.kind_node]
    exact nofun
  constructor
  · rw [hscope]
    exact scopeAfter_of_ne_heading hkind scope
  · rw [hscope, ScanLine.stored?, ScanLine.marker?, hheading, if_neg Bool.false_ne_true, hasName]
    cases scope with
    | none => exact markerIn?_none_of_ne_heading hkind
    | some within =>
        obtain ⟨previous, earlier, rfl, hprevious⟩ := hstart.resolve_left (Option.some_ne_none _)
        have hwithin : (lineAfter pre (some within) content).within = some within := rfl
        rw [markerIn?_line hsuite htext within hprevious, hname, hwithin,
          place_lineAfter (some within) content (hchars.trans (List.append_assoc _ _ _))]
        dsimp only
        cases within.isRunnable && !(firstCell content).all Text.isWhiteSpace with
        | true => rfl
        | false => rfl

/-- A plain piece has no marker, nor has a line that starts with no name. -/
theorem readsAs_plain {text : List Char}
    (hheading : (lineAfter pre scope content).isHeading = false)
    (hname : (lineAfter pre scope content).hasName = false) (id : Nat) (after : List Node) :
    d.ReadsAs ⟨before, (Chunk.bare .leaf text).node id (Text.byteLength pre), after⟩
      (lineAfter pre scope content) := by
  constructor
  · rw [ScanLine.scope_of_not_isHeading hheading]
    exact scopeAfter_of_ne_heading (n := (Chunk.bare .leaf text).node id _) nofun scope
  · rw [ScanLine.stored?, ScanLine.marker?_of_not_hasName hheading hname]
    exact markerIn?_of_children_eq_nil rfl _

/-- The name of a case is the whole content of its line. -/
theorem caseName_line (hchars : d.source.chars = pre ++ content ++ rest) {later : List Piece}
    (hcontent : firstCell content ++ later.flatMap Piece.text = content) {ks : List Chunk}
    (hks : ∀ k ∈ ks.head?, k.kind = .newLine) (id : Nat) :
    d.caseName ⟨before, (Chunk.wrap .line (firstCell content)).node id (Text.byteLength pre),
        Chunk.layOut (id + 2) (Text.byteLength pre + Text.byteLength (firstCell content))
          (later.map Piece.chunk ++ ks)⟩ = String.ofList content := by
  have htext :
      Chunk.textOf (.wrap .line (firstCell content) :: later.map Piece.chunk) = content := by
    rw [Chunk.textOf_cons, textOf_map_chunk]
    exact hcontent
  have hkinds : ∀ k ∈ Chunk.wrap .line (firstCell content) :: later.map Piece.chunk,
      k.kind ≠ .newLine := by
    intro k hk
    rcases List.mem_cons.1 hk with rfl | hk
    · exact nofun
    · obtain ⟨q, -, rfl⟩ := List.mem_map.1 hk
      exact kind_chunk_ne_newLine q
  have htail : ∀ id start, ∀ n ∈ (Chunk.layOut id start ks).head?, n.kind = .newLine := by
    intro id start n hn
    cases ks with
    | nil => exact absurd hn nofun
    | cons k ks =>
        rw [← Option.mem_some.1 hn, Chunk.kind_node]
        exact hks k rfl
  rw [← htext] at hchars
  rw [Chunk.layOut_append]
  exact (caseName_layOut hkinds (htail _ _) hchars id before).trans (congrArg String.ofList htext)

/-- The first piece of a line reads as the line. -/
theorem readsAs_firstPiece (hsuite : d.isSuite = true)
    (hchars : d.source.chars = pre ++ content ++ rest) {p : Piece} {later : List Piece}
    (hpieces : linePieces content = p :: later) (hstart : AtLineStart scope before) (id : Nat)
    {ks : List Chunk} (hks : ∀ k ∈ ks.head?, k.kind = .newLine) :
    d.ReadsAs
      ⟨before, p.chunk.node id (Text.byteLength pre),
        Chunk.layOut (id + p.chunk.count) (Text.byteLength pre + Text.byteLength p.chunk.text)
          (later.map Piece.chunk ++ ks)⟩
      (lineAfter pre scope content) := by
  cases hquiet : isQuiet content with
  | true =>
      obtain ⟨text, later', hplain, -⟩ :=
        (linePieces_of_isQuiet hquiet).resolve_left (by rw [hpieces]; exact List.cons_ne_nil _ _)
      rw [hpieces] at hplain
      obtain ⟨rfl, rfl⟩ := List.cons.inj hplain
      have hname : (lineAfter pre scope content).hasName = false := by
        simp [ScanLine.hasName, lineAfter, hquiet]
      exact readsAs_plain (ScanLine.isHeading_of_isQuiet hquiet) hname id _
  | false =>
      obtain ⟨later', hcell, -⟩ := linePieces_of_not_isQuiet hquiet
      have hcontent := flatMap_text_linePieces content
      rw [hpieces] at hcell hcontent
      obtain ⟨rfl, rfl⟩ := List.cons.inj hcell
      rw [List.flatMap_cons, text_pieceOfCell] at hcontent
      have hcellChars : d.source.chars =
          pre ++ firstCell content ++ (later.flatMap Piece.text ++ rest) := by
        have hassoc := congrArg (fun text => pre ++ text ++ rest) hcontent
        rw [hchars, ← hassoc]
        simp only [List.append_assoc]
      by_cases hstar : (firstCell content).head? = some '*'
      · rw [pieceOfCell, if_pos (by simp [hstar])]
        exact readsAs_heading hsuite hcellChars hquiet hstar id _
      · by_cases hdots : firstCell content = ['.', '.', '.']
        · have hheading : (lineAfter pre scope content).isHeading = false := by
            rw [head?_firstCell hquiet] at hstar
            exact beq_eq_false_iff_ne.2 hstar
          have hname : (lineAfter pre scope content).hasName = false := by
            simp [ScanLine.hasName, lineAfter, hdots]
          rw [pieceOfCell, if_neg (by simp [hstar]), if_pos hdots]
          exact readsAs_plain hheading hname id _
        · rw [pieceOfCell, if_neg (by simp [hstar]), if_neg hdots]
          exact readsAs_cell hsuite hcellChars hquiet hstar hdots hstart id _
            (caseName_line hchars hcontent hks id)

/-- Over the pieces of a line the pass finds what the scan finds on the line, and carries on the
section that the scan carries on. -/
theorem markersAmong_pieces_eq_scan (hsuite : d.isSuite = true)
    (hchars : d.source.chars = pre ++ content ++ rest) (hstart : AtLineStart scope before)
    (id : Nat) (ks : List Chunk) (hks : ∀ k ∈ ks.head?, k.kind = .newLine) :
    ∃ before' id', d.markersAmong scope before
        (Chunk.layOut id (Text.byteLength pre) ((linePieces content).map Piece.chunk ++ ks)) =
      (lineAfter pre scope content).stored?.toList ++
        d.markersAmong (lineAfter pre scope content).scope before'
          (Chunk.layOut id' (Text.byteLength (pre ++ content)) ks) := by
  have hcontent := flatMap_text_linePieces content
  rw [Text.byteLength_append]
  cases hpieces : linePieces content with
  | nil =>
      rw [hpieces, List.flatMap_nil] at hcontent
      subst hcontent
      have hscope : (lineAfter pre scope []).scope = scope := ScanLine.scope_of_not_isHeading rfl
      have hmarker : (lineAfter pre scope []).stored? = none :=
        congrArg (Option.map Marker.narrowed) (ScanLine.marker?_of_not_hasName rfl rfl)
      refine ⟨before, id, ?_⟩
      rw [hscope, hmarker]
      rfl
  | cons p later =>
      obtain ⟨hscope, hmarker⟩ := readsAs_firstPiece hsuite hchars hpieces hstart id hks
      have hlater : ∀ q ∈ later, q.isHeading = false :=
        fun q hq => isHeading_of_mem_later hpieces hq
      have hline := d.markersAmong_line p hlater scope before id (Text.byteLength pre) ks
      change d.scopeAfter scope (p.chunk.node id (Text.byteLength pre)) = _ at hscope
      rw [hscope, hmarker, ← hpieces, hcontent] at hline
      rw [← hpieces]
      exact ⟨_, _, hline⟩

theorem markersAmong_endedLine (hsuite : d.isSuite = true) {raw : List Char}
    (hchars : d.source.chars = pre ++ raw ++ rest) (hstart : AtLineStart scope before) (id : Nat)
    (hending : (PhysicalLine.ofRaw raw).ending ≠ []) (ks : List Chunk) :
    ∃ previous earlier id', previous.kind = .newLine ∧
      d.markersAmong scope before
          (Chunk.layOut id (Text.byteLength pre) ((PhysicalLine.ofRaw raw).chunks ++ ks)) =
        (lineAfter pre scope (withoutEnding raw)).stored?.toList ++
          d.markersAmong (lineAfter pre scope (withoutEnding raw)).scope (previous :: earlier)
            (Chunk.layOut id' (Text.byteLength (pre ++ raw)) ks) := by
  have htext : withoutEnding raw ++ (PhysicalLine.ofRaw raw).ending = raw :=
    PhysicalLine.text_ofRaw raw
  have hcontent : d.source.chars =
      pre ++ withoutEnding raw ++ ((PhysicalLine.ofRaw raw).ending ++ rest) := by
    rw [hchars, ← List.append_assoc, List.append_assoc pre (withoutEnding raw), htext]
  have hchunks : (PhysicalLine.ofRaw raw).chunks ++ ks =
      (linePieces (withoutEnding raw)).map Piece.chunk ++
        .bare .newLine (PhysicalLine.ofRaw raw).ending :: ks := by
    rw [PhysicalLine.chunks, if_neg (by simpa using hending), List.append_assoc]
    rfl
  obtain ⟨before', id', hpieces⟩ := markersAmong_pieces_eq_scan hsuite hcontent hstart id
    (.bare .newLine (PhysicalLine.ofRaw raw).ending :: ks) (fun k hk => Option.mem_some.1 hk ▸ rfl)
  have hraw : Text.byteLength (pre ++ withoutEnding raw) +
      Text.byteLength (PhysicalLine.ofRaw raw).ending = Text.byteLength (pre ++ raw) := by
    rw [← Text.byteLength_append, List.append_assoc, htext]
  have hkind : NodeKind.newLine ≠ .heading := by decide
  rw [hchunks, hpieces, markersAmong_bare hkind, hraw]
  exact ⟨_, _, _, rfl, rfl⟩

theorem markersAmong_unendedLine (hsuite : d.isSuite = true) {raw : List Char}
    (hchars : d.source.chars = pre ++ raw) (hstart : AtLineStart scope before) (id : Nat)
    (hending : (PhysicalLine.ofRaw raw).ending = []) :
    d.markersAmong scope before
        (Chunk.layOut id (Text.byteLength pre) (PhysicalLine.ofRaw raw).chunks) =
      (lineAfter pre scope (withoutEnding raw)).stored?.toList := by
  have htext : withoutEnding raw ++ (PhysicalLine.ofRaw raw).ending = raw :=
    PhysicalLine.text_ofRaw raw
  rw [hending, List.append_nil] at htext
  have hcontent : d.source.chars = pre ++ withoutEnding raw ++ [] := by
    rw [hchars, List.append_nil, htext]
  have hchunks : (PhysicalLine.ofRaw raw).chunks =
      (linePieces (withoutEnding raw)).map Piece.chunk ++ [] := by
    rw [PhysicalLine.chunks, hending]
    rfl
  obtain ⟨before', id', hpieces⟩ := markersAmong_pieces_eq_scan hsuite hcontent hstart id
    [] (fun k hk => absurd hk (Option.not_mem_none k))
  rw [hchunks, hpieces, Chunk.layOut, markersAmong, List.append_nil]

end Line

theorem markersAmong_eq_scan {raws : List (List Char)} (hsuite : d.isSuite = true)
    {pre : List Char} {scope : Option Section} {before : List Node}
    (hchars : d.source.chars = pre ++ raws.flatten) (hraws : EndOnce (raws.map .ofRaw))
    (hstart : AtLineStart scope before) (id : Nat) :
    d.markersAmong scope before (Chunk.layOut id (Text.byteLength pre)
        ((raws.map PhysicalLine.ofRaw).flatMap PhysicalLine.chunks)) =
      (scanLines (pre.count '\n') (Text.byteLength pre) (Text.lastLine pre).length scope
        raws).filterMap ScanLine.stored? := by
  -- what the induction carries is the text before the next line, and that a line can start there
  induction raws generalizing pre scope before id with
  | nil => rw [List.map_nil, List.flatMap_nil, Chunk.layOut, markersAmong]; rfl
  | cons raw later ih =>
      rw [List.flatten_cons, ← List.append_assoc] at hchars
      rw [List.map_cons, List.flatMap_cons, scanLines]
      by_cases hending : (PhysicalLine.ofRaw raw).ending = []
      -- a line without an ending is the last, so no line has to start after it
      · have hlater : later = [] := List.map_eq_nil_iff.1 (hraws.later_eq_nil hending)
        subst hlater
        rw [List.flatten_nil, List.append_nil] at hchars
        have hline := markersAmong_unendedLine hsuite hchars hstart id hending
        rw [List.map_nil, List.flatMap_nil, List.append_nil, hline, scanLines,
          ScanLine.filterMap_stored?_cons, List.filterMap_nil, List.append_nil]
        rfl
      · obtain ⟨previous, earlier, id', hprevious, hline⟩ :=
          markersAmong_endedLine hsuite hchars hstart id hending
            ((later.map PhysicalLine.ofRaw).flatMap PhysicalLine.chunks)
        have hlater := ih hchars hraws.2.2
          (.inr ⟨previous, earlier, rfl, hprevious⟩ :
            AtLineStart (lineAfter pre scope (withoutEnding raw)).scope (previous :: earlier)) id'
        rw [hraws.count_append hending, hraws.lastLine_append hending] at hlater
        rw [hline, hlater, ScanLine.filterMap_stored?_cons, Text.byteLength_append]
        rfl

theorem markers_eq_markersAmong (hsuite : d.isSuite = true) :
    d.markers = d.markersAmong none [] d.topLevel := by
  have hroot : d.markerIn? none ⟨[], d.root, []⟩ = none :=
    markerIn?_none_of_ne_heading (l := ⟨[], d.root, []⟩) nofun
  rw [root] at hroot
  rw [markers, if_pos hsuite, root, markersFrom, hroot]
  rfl

/-- The pass over the tree of a text finds the markers that the scan of the text finds, and stores
their places in numbers of 32 bits. -/
theorem markers_document_eq_map (text : String) (path : Option Path) :
    (document text path .suite).markers = (scan text.toList).map Marker.narrowed := by
  have hpass : ∀ (pre : List Char) {cs : List Char}, text.toList = pre ++ cs →
      ∀ (before : List Node) (id : Nat),
      (document text path .suite).markersAmong none before (Chunk.layOut id (Text.byteLength pre)
          ((physicalLines cs).flatMap PhysicalLine.chunks)) =
        (scanLines (pre.count '\n') (Text.byteLength pre) (Text.lastLine pre).length none
          (cutAfterLineFeeds cs)).filterMap ScanLine.stored? := by
    intro pre cs hchars before id
    rw [physicalLines_eq_map_ofRaw]
    refine markersAmong_eq_scan rfl ?_ (endOnce_map_ofRaw cs) (.inl rfl) id
    rw [flatten_cutAfterLineFeeds]
    exact hchars
  rw [markers_eq_markersAmong rfl]
  change (document text path .suite).markersAmong none []
    (Chunk.layOut 1 0 (chunks text.toList)) = _
  rw [scan, ← ScanLine.filterMap_stored?]
  cases hcs : text.toList with
  | nil => rw [chunks, Chunk.layOut, markersAmong]; rfl
  | cons c rest =>
      rw [chunks, scanned]
      split
      next hbom =>
          have hkind : NodeKind.leaf ≠ .heading := by decide
          subst hbom
          rw [markersAmong_bare hkind]
          exact hpass [byteOrderMark] hcs _ 2
      next => exact hpass [] hcs [] 1

/-- Below 2 ^ 32 line feeds the places are stored as they are. -/
theorem markers_document {text : String} (hcount : text.toList.count '\n' < UInt32.size)
    (path : Option Path) : (document text path .suite).markers = scan text.toList := by
  rw [markers_document_eq_map]
  refine (List.map_congr_left fun m hm => ?_).trans (List.map_id _)
  rw [Marker.narrowed, narrowed_of_mem_scan hcount hm]
  rfl

/-- Up to 2 ^ 32 nodes the pass over the arena of a text finds what the scan finds. -/
theorem finds_scan_arena_document {text : String} {path : Option Path}
    (hcount : (document text path .suite).nodeCount ≤ UInt32.size) :
    (document text path .suite).arena.Finds (scan text.toList) := by
  rw [← markers_document (count_lineFeed_lt_size hcount) path]
  exact finds_arena (isNumbered_document text path .suite)

theorem exists_parseArena_finds_scan {text : String} {path : Option Path}
    (hcount : (document text path .suite).nodeCount ≤ UInt32.size) :
    ∃ a, parseArena text path .suite = .ok a ∧ a.Finds (scan text.toList) := by
  obtain ⟨a, ha, hnodes, -, harena, -⟩ := exists_parseArena text path .suite
  refine ⟨a, ha, ?_⟩
  rw [harena (hnodes ▸ hcount)]
  exact finds_scan_arena_document hcount

example :
    (scan "*** Tasks ***\r\nBuild  it\n\n...  more\n  step\n# note\nShip".toList).map
      Marker.summary = ["1:1 run all", "2:1 run Build  it", "7:1 run Ship"] := by
  decide

end Document

end RunMarkers
