import RunMarkers.Document.Builder
import RunMarkers.Suite.Line

/-!
# The steps of a text, piece by piece

The first cell of a heading line is a `heading` node over one leaf, every other cell of content a
`line` node over one leaf, and everything between them a bare leaf. The ending of a line is a
`newLine` token, and a byte order mark at the start of the text a leaf of its own. The tokenizer
takes just these steps (`tokenize_eq`).
-/

namespace RunMarkers.Suite

/-- The steps that build a piece of a line. -/
def Piece.steps : Piece → List BuildStep
  | .heading text => [.enter .heading, .token .leaf (Text.byteLength text), .leave]
  | .cell text => [.enter .line, .token .leaf (Text.byteLength text), .leave]
  | .plain text => [.token .leaf (Text.byteLength text)]

/-- The steps that build a line. -/
def PhysicalLine.steps (line : PhysicalLine) : List BuildStep :=
  (linePieces line.content).flatMap Piece.steps
    ++ if line.ending.isEmpty then [] else [.token .newLine (Text.byteLength line.ending)]

/-- The steps that build a text. -/
def steps (cs : List Char) : List BuildStep :=
  match cs with
  | [] => []
  | c :: rest =>
    if c = byteOrderMark then
      .token .leaf c.utf8Size :: (physicalLines rest).flatMap PhysicalLine.steps
    else (physicalLines (c :: rest)).flatMap PhysicalLine.steps

end RunMarkers.Suite
