import RunMarkers.Proofs.Source.Place
import RunMarkers.Proofs.Suite.Separators
import RunMarkers.Suite.Parser

/-!
# The tree of a parsed text

The tree of a suite file is a row of chunks under the root, each a bare token or an interior node
over one leaf. `chunks` cuts a text into them and `layOut` numbers and places them; that the
builder builds just this tree, and never fails, is `parse_eq_ok`. What holds of a parsed document
is read off its chunks from here on.
-/

namespace RunMarkers

namespace Suite

/-- A child of the root: a bare token, or an interior node over one leaf. -/
inductive Chunk where
  | bare (kind : NodeKind) (text : List Char)
  | wrap (kind : NodeKind) (text : List Char)

namespace Chunk

def text : Chunk → List Char
  | bare _ text | wrap _ text => text

def count : Chunk → Nat
  | bare _ _ => 1
  | wrap _ _ => 2

def span (start : Nat) (k : Chunk) : Span := ⟨start, start + Text.byteLength k.text⟩

/-- The node of a chunk, with its number and the offset at which it starts. -/
def node (id start : Nat) (k : Chunk) : Node :=
  match k with
  | bare kind _ => .token id kind (k.span start)
  | wrap kind _ => .mk id kind (k.span start) [.token (id + 1) .leaf (k.span start)]

def steps : Chunk → List BuildStep
  | bare kind text => [.token kind (Text.byteLength text)]
  | wrap kind text => [.enter kind, .token .leaf (Text.byteLength text), .leave]

/-- The nodes of a row of chunks, numbered and placed one after another. -/
def layOut (id start : Nat) : List Chunk → List Node
  | [] => []
  | k :: ks => k.node id start :: layOut (id + k.count) (start + Text.byteLength k.text) ks

def countOf : List Chunk → Nat
  | [] => 0
  | k :: ks => k.count + countOf ks

def textOf (ks : List Chunk) : List Char := ks.flatMap text

@[simp] theorem countOf_nil : countOf [] = 0 := rfl

@[simp] theorem countOf_cons (k : Chunk) (ks : List Chunk) :
    countOf (k :: ks) = k.count + countOf ks := rfl

@[simp] theorem textOf_nil : textOf [] = [] := rfl

@[simp] theorem textOf_cons (k : Chunk) (ks : List Chunk) :
    textOf (k :: ks) = k.text ++ textOf ks := rfl

@[simp] theorem textOf_append (ks ls : List Chunk) : textOf (ks ++ ls) = textOf ks ++ textOf ls :=
  List.flatMap_append

def kind : Chunk → NodeKind
  | bare kind _ | wrap kind _ => kind

@[simp] theorem kind_node (id start : Nat) (k : Chunk) : (k.node id start).kind = k.kind := by
  cases k with
  | bare kind text => rfl
  | wrap kind text => rfl

@[simp] theorem span_node (id start : Nat) (k : Chunk) : (k.node id start).span = k.span start := by
  cases k with
  | bare kind text => rfl
  | wrap kind text => rfl

theorem layOut_append (id start : Nat) (ks ls : List Chunk) :
    layOut id start (ks ++ ls) =
      layOut id start ks ++
        layOut (id + countOf ks) (start + Text.byteLength (textOf ks)) ls := by
  induction ks generalizing id start with
  | nil => rfl
  | cons k ks ih =>
      rw [List.cons_append, layOut, ih, layOut, countOf_cons, textOf_cons,
        Text.byteLength_append, Nat.add_assoc, Nat.add_assoc, List.cons_append]

theorem exists_kind_eq_of_mem_layOut {id start : Nat} {ks : List Chunk} {n : Node}
    (hn : n ∈ layOut id start ks) : ∃ k ∈ ks, k.kind = n.kind := by
  induction ks generalizing id start with
  | nil => exact absurd hn List.not_mem_nil
  | cons k ks ih =>
      rcases List.mem_cons.1 hn with rfl | hn
      · exact ⟨k, List.mem_cons_self, (kind_node id start k).symm⟩
      · obtain ⟨l, hl, hkind⟩ := ih hn
        exact ⟨l, List.mem_cons_of_mem k hl, hkind⟩

end Chunk

def Piece.chunk : Piece → Chunk
  | heading text => .wrap .heading text
  | cell text => .wrap .line text
  | plain text => .bare .leaf text

def PhysicalLine.chunks (line : PhysicalLine) : List Chunk :=
  (linePieces line.content).map Piece.chunk
    ++ if line.ending.isEmpty then [] else [.bare .newLine line.ending]

/-- The chunks of a text. -/
def chunks (cs : List Char) : List Chunk :=
  match cs with
  | [] => []
  | c :: rest =>
    if c = byteOrderMark then .bare .leaf [c] :: (physicalLines rest).flatMap PhysicalLine.chunks
    else (physicalLines (c :: rest)).flatMap PhysicalLine.chunks

/-- The document of a text, laid out chunk by chunk. -/
def document (text : String) (path : Option Path) (fileKind : FileKind) : Document where
  source := .ofString text
  path := path
  fileKind := fileKind
  topLevel := Chunk.layOut 1 0 (chunks text.toList)

theorem steps_chunk (p : Piece) : p.chunk.steps = p.steps := by
  cases p with
  | heading text => rfl
  | cell text => rfl
  | plain text => rfl

theorem text_chunk (p : Piece) : p.chunk.text = p.text := by
  cases p with
  | heading text => rfl
  | cell text => rfl
  | plain text => rfl

theorem steps_chunks_line (line : PhysicalLine) : line.chunks.flatMap Chunk.steps = line.steps := by
  rw [PhysicalLine.chunks, PhysicalLine.steps, List.flatMap_append, List.flatMap_map]
  congr 1
  · simp only [steps_chunk]
  · split
    next => rfl
    next => rfl

theorem textOf_map_chunk (ps : List Piece) :
    Chunk.textOf (ps.map Piece.chunk) = ps.flatMap Piece.text := by
  rw [Chunk.textOf, List.flatMap_map]
  simp only [text_chunk]

theorem textOf_chunks_line (line : PhysicalLine) : Chunk.textOf line.chunks = line.text := by
  rw [PhysicalLine.chunks, Chunk.textOf_append, PhysicalLine.text, textOf_map_chunk,
    flatMap_text_linePieces]
  congr 1
  · split
    next h => rw [List.isEmpty_iff.1 h]; rfl
    next => exact List.append_nil _

theorem textOf_flatMap_chunks (lines : List PhysicalLine) :
    Chunk.textOf (lines.flatMap PhysicalLine.chunks) = lines.flatMap PhysicalLine.text := by
  rw [Chunk.textOf, List.flatMap_assoc]
  congr 1
  funext line
  exact textOf_chunks_line line

theorem steps_chunks (cs : List Char) : (chunks cs).flatMap Chunk.steps = steps cs := by
  have hlines : ∀ lines : List PhysicalLine,
      (lines.flatMap PhysicalLine.chunks).flatMap Chunk.steps =
        lines.flatMap PhysicalLine.steps := by
    intro lines
    rw [List.flatMap_assoc]
    congr 1
    funext line
    exact steps_chunks_line line
  cases cs with
  | nil => rfl
  | cons c rest =>
      rw [chunks, steps]
      split
      next => rw [List.flatMap_cons, hlines]; rfl
      next => exact hlines _

/-- Nothing is lost when a text is cut into chunks. -/
theorem textOf_chunks (cs : List Char) : Chunk.textOf (chunks cs) = cs := by
  cases cs with
  | nil => rfl
  | cons c rest =>
      rw [chunks]
      split
      next =>
          rw [Chunk.textOf_cons, textOf_flatMap_chunks, flatMap_text_physicalLines]
          rfl
      next => rw [textOf_flatMap_chunks, flatMap_text_physicalLines]

end Suite

namespace Builder

open Suite

theorem steps_append (b : Builder) (ss ts : List BuildStep) :
    b.steps (ss ++ ts) = (b.steps ss).bind fun after => after.steps ts := by
  induction ss generalizing b with
  | nil => rfl
  | cons s ss ih =>
      rw [List.cons_append, steps, steps]
      cases b.step s with
      | error e => rfl
      | ok after => exact ih after

theorem step_token_eq_ok {b : Builder} {pre text rest : List Char} (kind : NodeKind)
    (hchars : b.source.chars = pre ++ text ++ rest) (hcursor : b.cursor = Text.byteLength pre) :
    b.step (.token kind (Text.byteLength text)) =
      .ok ({ b with
        cursor := b.cursor + Text.byteLength text
        nextId := b.nextId + 1 }.attach
          (.token b.nextId kind ⟨b.cursor, b.cursor + Text.byteLength text⟩)) := by
  have hstop : b.cursor + Text.byteLength text = Text.byteLength (pre ++ text) := by
    rw [hcursor, Text.byteLength_append]
  have hsize : b.source.size = Text.byteLength (pre ++ text) + Text.byteLength rest := by
    rw [b.source.size_eq, hchars, Text.byteLength_append]
  rw [step, token, if_neg (by omega), hstop, if_pos (Source.isBoundary_append hchars)]

/-- The builder after a row of chunks that starts at the cursor. -/
def afterChunks (b : Builder) (ks : List Chunk) : Builder :=
  { b with
    cursor := b.cursor + Text.byteLength (Chunk.textOf ks)
    nextId := b.nextId + Chunk.countOf ks
    topLevel := (Chunk.layOut b.nextId b.cursor ks).reverse ++ b.topLevel }

@[simp] theorem steps_nil (b : Builder) : b.steps [] = .ok b := rfl

theorem steps_cons_of_ok {b after : Builder} {s : BuildStep} (h : b.step s = .ok after)
    (ss : List BuildStep) : b.steps (s :: ss) = after.steps ss := by
  rw [steps, h]
  rfl

theorem steps_chunk_eq_ok {b : Builder} {pre rest : List Char} (k : Chunk)
    (hchars : b.source.chars = pre ++ k.text ++ rest) (hcursor : b.cursor = Text.byteLength pre)
    (hframes : b.frames = []) : b.steps k.steps = .ok (b.afterChunks [k]) := by
  cases k with
  | bare kind text =>
      have htoken := step_token_eq_ok kind hchars hcursor
      rw [Chunk.text] at htoken
      rw [Chunk.steps, steps_cons_of_ok htoken, steps_nil, attach, afterChunks]
      simp [hframes, Chunk.layOut, Chunk.count, Chunk.text, Chunk.node, Chunk.span]
  | wrap kind text =>
      have htoken := step_token_eq_ok (b := b.enter kind) .leaf hchars hcursor
      rw [Chunk.text] at htoken
      rw [Chunk.steps, steps_cons_of_ok rfl, steps_cons_of_ok htoken]
      refine (steps_cons_of_ok ?_ []).trans (steps_nil _)
      simp [step, leave, enter, attach, afterChunks, hframes, Chunk.layOut, Chunk.count,
        Chunk.text, Chunk.node, Chunk.span]

/-- Over the text that comes next, a row of chunks is built as it is laid out. -/
theorem steps_chunks_eq_ok {b : Builder} {pre rest : List Char} (ks : List Chunk)
    (hchars : b.source.chars = pre ++ Chunk.textOf ks ++ rest)
    (hcursor : b.cursor = Text.byteLength pre) (hframes : b.frames = []) :
    b.steps (ks.flatMap Chunk.steps) = .ok (b.afterChunks ks) := by
  induction ks generalizing b pre with
  | nil => rfl
  | cons k ks ih =>
      rw [Chunk.textOf_cons, ← List.append_assoc] at hchars
      have hfirst := steps_chunk_eq_ok k (hchars.trans (List.append_assoc _ _ _)) hcursor hframes
      have hcursor' : (b.afterChunks [k]).cursor = Text.byteLength (pre ++ k.text) := by
        simp [afterChunks, hcursor]
      have hlater := ih (b := b.afterChunks [k]) hchars hcursor' hframes
      rw [List.flatMap_cons, steps_append, hfirst]
      change (b.afterChunks [k]).steps _ = _
      rw [hlater]
      simp [afterChunks, Chunk.layOut, Nat.add_assoc]

end Builder

namespace Suite

/-- The builder never fails on a text, and it builds the tree of the text's chunks. -/
theorem parse_eq_ok (text : String) (path : Option Path) (fileKind : FileKind) :
    parse text path fileKind = .ok (document text path fileKind) := by
  have hchars : (Builder.start (.ofString text) path fileKind).source.chars =
      [] ++ Chunk.textOf (chunks text.toList) ++ [] := by
    rw [textOf_chunks, List.append_nil]
    rfl
  have hsteps := Builder.steps_chunks_eq_ok (chunks text.toList) hchars rfl rfl
  rw [steps_chunks] at hsteps
  rw [parse, Document.build, tokenize_eq, Option.getD_some, hsteps]
  simp [bind, Except.bind, Builder.finish, Builder.afterChunks, Builder.start, document]

end Suite

end RunMarkers
