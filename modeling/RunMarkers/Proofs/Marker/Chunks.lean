import RunMarkers.Marker.Detect
import RunMarkers.Proofs.Suite.Cells
import RunMarkers.Proofs.Suite.Tree

/-!
# Markers of a row of chunks

The markers of a parsed document stand at its chunks. A bare token has none
(`markersAmong_bare`), nor has a cell that does not follow the end of a line
(`markersAmong_pieces`), and the leaf within a chunk has none either (`markersFrom_chunk`). So of
the chunks of a line only the first can have a marker; `caseName_layOut` is the name it would have.
-/

namespace RunMarkers

namespace Suite.Chunk

theorem stop_getLastD_layOut {ks : List Chunk} (hks : ks ≠ []) (id start : Nat) (n : Node) :
    ((layOut id start ks).getLastD n).span.stop = start + Text.byteLength (textOf ks) := by
  induction ks generalizing id start n with
  | nil => exact absurd rfl hks
  | cons k ks ih =>
      rw [layOut, List.getLastD_cons, textOf_cons, Text.byteLength_append]
      cases ks with
      | nil => simp [layOut, span]
      | cons l ls => rw [ih (List.cons_ne_nil l ls), Nat.add_assoc]

end Suite.Chunk

namespace Document

open Suite

variable {d : Document}

theorem markerIn?_of_children_eq_nil {l : Level} (h : l.node.children = [])
    (scope : Option Section) : d.markerIn? scope l = none := by
  rw [markerIn?, isCandidate, h]
  simp

theorem markersFrom_chunk (scope : Option Section) (before after : List Node) (id start : Nat)
    (k : Chunk) :
    d.markersFrom scope before after (k.node id start) =
      (d.markerIn? scope ⟨before, k.node id start, after⟩).toList := by
  cases k with
  | bare kind text => exact List.append_nil _
  | wrap kind text =>
      have hleaf : d.markersAmong scope []
          [.token (id + 1) .leaf ((Chunk.wrap kind text).span start)] = [] := by
        rw [markersAmong, markersAmong, Node.token, markersFrom, markersAmong,
          markerIn?_of_children_eq_nil rfl]
        rfl
      rw [Chunk.node, markersFrom, hleaf, List.append_nil]

theorem markersAmong_chunk (scope : Option Section) (before : List Node) (id start : Nat)
    (k : Chunk) (ks : List Chunk) :
    d.markersAmong scope before (Chunk.layOut id start (k :: ks)) =
      (d.markerIn? (d.scopeAfter scope (k.node id start))
        ⟨before, k.node id start,
          Chunk.layOut (id + k.count) (start + Text.byteLength k.text) ks⟩).toList ++
      d.markersAmong (d.scopeAfter scope (k.node id start)) (k.node id start :: before)
        (Chunk.layOut (id + k.count) (start + Text.byteLength k.text) ks) := by
  rw [Chunk.layOut, markersAmong, markersFrom_chunk]

theorem scopeAfter_of_ne_heading {n : Node} (h : n.kind ≠ .heading) (scope : Option Section) :
    d.scopeAfter scope n = scope := by
  rw [scopeAfter, if_neg (by simpa using h)]

/-- A bare token that is no heading has no marker and opens no section. -/
theorem markersAmong_bare {kind : NodeKind} (hkind : kind ≠ .heading) (scope : Option Section)
    (before : List Node) (id start : Nat) (text : List Char) (ks : List Chunk) :
    d.markersAmong scope before (Chunk.layOut id start (.bare kind text :: ks)) =
      d.markersAmong scope ((Chunk.bare kind text).node id start :: before)
        (Chunk.layOut (id + 1) (start + Text.byteLength text) ks) := by
  have hscope : d.scopeAfter scope ((Chunk.bare kind text).node id start) = scope :=
    scopeAfter_of_ne_heading (n := (Chunk.bare kind text).node id start) hkind scope
  rw [markersAmong_chunk, hscope, markerIn?_of_children_eq_nil rfl]
  rfl

theorem markerIn?_eq_none {scope : Option Section} {l : Level} (hkind : l.node.kind ≠ .heading)
    (hcase : d.caseMarker? scope l = none) : d.markerIn? scope l = none := by
  have hheading : d.headingMarker? l.node = none := by
    rw [headingMarker?, if_neg (by simp [hkind])]
  rw [markerIn?, hheading, hcase]
  simp

/-- A node that is no heading has a marker only if it follows the end of a line, -/
theorem markerIn?_of_head?_ne_newLine {l : Level} (hkind : l.node.kind ≠ .heading)
    (hbefore : ∀ p ∈ l.before.head?, p.kind ≠ .newLine) (scope : Option Section) :
    d.markerIn? scope l = none := by
  apply markerIn?_eq_none hkind
  unfold caseMarker?
  split
  next within previous earlier anchor others heq _ =>
      have hprevious := hbefore previous (by rw [heq]; rfl)
      rw [if_neg (by simp [hprevious])]
  next => rfl

/-- and only behind a heading. -/
theorem markerIn?_none_of_ne_heading {l : Level} (hkind : l.node.kind ≠ .heading) :
    d.markerIn? none l = none := by
  apply markerIn?_eq_none hkind
  unfold caseMarker?
  split
  next heq _ _ => exact absurd heq nofun
  next => rfl

theorem kind_chunk_ne_newLine (p : Piece) : p.chunk.kind ≠ .newLine := by
  cases p with
  | heading text => exact nofun
  | cell text => exact nofun
  | plain text => exact nofun

theorem kind_chunk_ne_heading {p : Piece} (hp : p.isHeading = false) : p.chunk.kind ≠ .heading := by
  cases p with
  | heading text => exact absurd hp.symm Bool.false_ne_true
  | cell text => exact nofun
  | plain text => exact nofun

theorem kind_ne_newLine_of_mem_head?_chunk (p : Piece) (id start : Nat) (before : List Node) :
    ∀ n ∈ (p.chunk.node id start :: before).head?, n.kind ≠ .newLine := by
  intro n hn
  rw [← Option.mem_some.1 hn, Chunk.kind_node]
  exact kind_chunk_ne_newLine p

/-- The pieces of a line after its first have no marker and open no section. -/
theorem markersAmong_pieces {ps : List Piece} (hps : ∀ p ∈ ps, p.isHeading = false)
    (scope : Option Section) {before : List Node}
    (hbefore : ∀ p ∈ before.head?, p.kind ≠ .newLine) (id start : Nat) (ks : List Chunk) :
    d.markersAmong scope before (Chunk.layOut id start (ps.map Piece.chunk ++ ks)) =
      d.markersAmong scope ((Chunk.layOut id start (ps.map Piece.chunk)).reverse ++ before)
        (Chunk.layOut (id + Chunk.countOf (ps.map Piece.chunk))
          (start + Text.byteLength (ps.flatMap Piece.text)) ks) := by
  induction ps generalizing before id start with
  | nil => rfl
  | cons p ps ih =>
      have hheading := kind_chunk_ne_heading (hps p List.mem_cons_self)
      have hscope : d.scopeAfter scope (p.chunk.node id start) = scope :=
        scopeAfter_of_ne_heading (by rwa [Chunk.kind_node]) scope
      have hnone : d.markerIn? scope ⟨before, p.chunk.node id start,
          Chunk.layOut (id + p.chunk.count) (start + Text.byteLength p.chunk.text)
            (ps.map Piece.chunk ++ ks)⟩ = none :=
        markerIn?_of_head?_ne_newLine (by rwa [Chunk.kind_node]) hbefore scope
      have hlater := ih (fun q hq => hps q (List.mem_cons_of_mem _ hq))
        (kind_ne_newLine_of_mem_head?_chunk p id start before)
        (id + p.chunk.count) (start + Text.byteLength p.chunk.text)
      rw [List.map_cons, List.cons_append, markersAmong_chunk, hscope, hnone, hlater]
      rw [Chunk.countOf_cons, List.flatMap_cons, Text.byteLength_append, text_chunk,
        Chunk.layOut, List.reverse_cons, List.append_assoc, Nat.add_assoc, Nat.add_assoc,
        text_chunk]
      rfl

/-- Over the chunks of a line, the pass stops at the first at most. -/
theorem markersAmong_line (p : Piece) {later : List Piece}
    (hlater : ∀ q ∈ later, q.isHeading = false) (scope : Option Section) (before : List Node)
    (id start : Nat) (ks : List Chunk) :
    d.markersAmong scope before
        (Chunk.layOut id start ((p :: later).map Piece.chunk ++ ks)) =
      (d.markerIn? (d.scopeAfter scope (p.chunk.node id start))
        ⟨before, p.chunk.node id start,
          Chunk.layOut (id + p.chunk.count) (start + Text.byteLength p.chunk.text)
            (later.map Piece.chunk ++ ks)⟩).toList ++
      d.markersAmong (d.scopeAfter scope (p.chunk.node id start))
        ((Chunk.layOut id start ((p :: later).map Piece.chunk)).reverse ++ before)
        (Chunk.layOut (id + Chunk.countOf ((p :: later).map Piece.chunk))
          (start + Text.byteLength ((p :: later).flatMap Piece.text)) ks) := by
  have hbefore := kind_ne_newLine_of_mem_head?_chunk p id start before
  rw [List.map_cons, List.cons_append, markersAmong_chunk, markersAmong_pieces hlater _ hbefore,
    Chunk.layOut, List.reverse_cons, List.append_assoc, Chunk.countOf_cons,
    List.flatMap_cons, Text.byteLength_append, ← Nat.add_assoc, ← Nat.add_assoc, text_chunk]
  rfl

theorem markerIn?_heading (hsuite : d.isSuite = true) {text : List Char} {id start : Nat}
    (htext : d.source.slice ((Chunk.wrap .heading text).span start) = String.ofList text)
    (hblank : text.all Text.isWhiteSpace = false) (scope : Option Section)
    (before after : List Node) :
    d.markerIn? scope ⟨before, (Chunk.wrap .heading text).node id start, after⟩ =
      if (Section.ofHeading (String.ofList text)).isRunnable then
        some (.runAll ((Chunk.wrap .heading text).span start) (d.source.positionAt start)
          (.ofHeading (String.ofList text)))
      else none := by
  have hopens : d.opens ((Chunk.wrap .heading text).node id start) =
      .ofHeading (String.ofList text) := congrArg Section.ofHeading htext
  have hcandidate : d.isCandidate ((Chunk.wrap .heading text).node id start) = true := by
    rw [isCandidate, hsuite, textOf, Chunk.span_node, htext, String.toList_ofList, hblank]
    rfl
  have hcase : d.caseMarker? scope ⟨before, (Chunk.wrap .heading text).node id start, after⟩ =
      none := by
    unfold caseMarker?
    split
    next => rfl
    next => rfl
  rw [markerIn?, if_pos hcandidate, hcase, Option.or_none, headingMarker?, hopens]
  generalize Section.ofHeading (String.ofList text) = opens
  rfl

/-- A cell chunk after the end of a line has a marker if it stands in a section that can be run and
is not blank. -/
theorem markerIn?_line (hsuite : d.isSuite = true) {text : List Char} {id start : Nat}
    (htext : d.source.slice ((Chunk.wrap .line text).span start) = String.ofList text)
    (within : Section) {previous : Node} (hprevious : previous.kind = .newLine)
    (earlier after : List Node) :
    d.markerIn? (some within) ⟨previous :: earlier, (Chunk.wrap .line text).node id start, after⟩ =
      if within.isRunnable && !text.all Text.isWhiteSpace then
        some (.runCase ((Chunk.wrap .line text).span start) (d.source.positionAt start) within
          (d.caseName ⟨previous :: earlier, (Chunk.wrap .line text).node id start, after⟩))
      else none := by
  have hcandidate : d.isCandidate ((Chunk.wrap .line text).node id start) =
      !text.all Text.isWhiteSpace := by
    rw [isCandidate, hsuite, textOf, Chunk.span_node, htext, String.toList_ofList]
    rfl
  have hcase : d.caseMarker? (some within)
      ⟨previous :: earlier, (Chunk.wrap .line text).node id start, after⟩ =
      if within.isRunnable then
        some (.runCase ((Chunk.wrap .line text).span start) (d.source.positionAt start) within
          (d.caseName ⟨previous :: earlier, (Chunk.wrap .line text).node id start, after⟩))
      else none := by
    simp [caseMarker?, Chunk.node, Node.token, hprevious, placeOf, Chunk.span]
  rw [markerIn?, hcandidate, hcase]
  cases within.isRunnable with
  | true => simp [headingMarker?, Chunk.node]
  | false => simp [headingMarker?, Chunk.node]

/-- The name of a case is the text of the chunks up to the end of the line. -/
theorem caseName_layOut {pre rest : List Char} {k : Chunk} {ks : List Chunk}
    (hkinds : ∀ l ∈ k :: ks, l.kind ≠ .newLine) {tail : List Node}
    (htail : ∀ n ∈ tail.head?, n.kind = .newLine)
    (hchars : d.source.chars = pre ++ Chunk.textOf (k :: ks) ++ rest) (id : Nat)
    (before : List Node) :
    d.caseName ⟨before, k.node id (Text.byteLength pre),
        Chunk.layOut (id + k.count) (Text.byteLength pre + Text.byteLength k.text) ks ++ tail⟩ =
      String.ofList (Chunk.textOf (k :: ks)) := by
  have hline : (k.node id (Text.byteLength pre) ::
      (Chunk.layOut (id + k.count) (Text.byteLength pre + Text.byteLength k.text) ks ++
        tail)).takeWhile (fun n => n.kind != .newLine) =
      Chunk.layOut id (Text.byteLength pre) (k :: ks) := by
    have hall : ∀ n ∈ Chunk.layOut id (Text.byteLength pre) (k :: ks),
        (n.kind != .newLine) = true := by
      intro n hn
      obtain ⟨l, hl, hkind⟩ := Chunk.exists_kind_eq_of_mem_layOut hn
      rw [bne_iff_ne, ← hkind]
      exact hkinds l hl
    have hend : tail.takeWhile (fun n => n.kind != .newLine) = [] := by
      cases tail with
      | nil => rfl
      | cons n tail => exact List.takeWhile_cons_of_neg (by simp [htail n rfl])
    rw [← List.cons_append, ← Chunk.layOut, List.takeWhile_append_of_pos hall, hend,
      List.append_nil]
  rw [caseName, hline, Chunk.stop_getLastD_layOut (List.cons_ne_nil k ks), Chunk.span_node,
    Chunk.span, Source.slice_append hchars]

end Document

end RunMarkers
