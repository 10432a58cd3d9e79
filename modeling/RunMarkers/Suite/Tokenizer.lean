import RunMarkers.Document.Builder
import RunMarkers.Suite.Line
import RunMarkers.Text.Pattern

/-!
# Cutting lines by a pattern

The steps of a line, as they are found with the pattern of a separator: the matches in a line are
taken one after another, with the offset where the next cell starts. A part of the line is taken by
its offsets in bytes, and there is none if one of them is not on a character boundary.
-/

namespace RunMarkers.Suite

open Text

def blanks : List Char := [' ', '\t']

def twoSpacesOrTab : Pattern := .either (.seq (.oneOf [' ']) (.oneOf [' '])) (.oneOf ['\t'])

/-- Two spaces or a tab, with all blanks around. -/
def separator : Pattern := .seq (.many blanks) (.seq twoSpacesOrTab (.many blanks))

/-- An interior node over one leaf. -/
def wrapped (kind : NodeKind) (text : List Char) : List BuildStep :=
  [.enter kind, .token .leaf (byteLength text), .leave]

/-- The leaf over the next bytes, if there are any. -/
def leafUnlessEmpty (length : Nat) : List BuildStep :=
  if 0 < length then [.token .leaf length] else []

/-- The steps that build a cell. -/
def cellSteps (first : Bool) (cell : List Char) : List BuildStep :=
  if first && cell.head? == some '*' then wrapped .heading cell
  else if cell = ['.', '.', '.'] then [.token .leaf (byteLength cell)]
  else wrapped .line cell

/-- The steps that build the cells of a line from an offset on, of which the separators are those to
come. -/
def tokenizeCells (line : List Char) (first : Bool) (offset : Nat) (separators : List Span) :
    Option (List BuildStep) :=
  if offset < byteLength line then
    match separators with
    | [] =>
      (bytesBetween? offset (byteLength line) line).map fun cell =>
        if cell.head? = some '#' then [.token .leaf (byteLength line - offset)]
        else cellSteps first cell
    | s :: later =>
      (bytesBetween? offset s.start line).bind fun cell =>
        if cell.head? = some '#' then some [.token .leaf (byteLength line - offset)]
        else
          (tokenizeCells line false s.stop later).map fun steps =>
            cellSteps first cell ++ .token .leaf (s.stop - s.start) :: steps
  else some []

/-- The steps that build the content of a line. -/
def tokenizeLine (content : List Char) : Option (List BuildStep) :=
  let body := dropTrailingBlanks content
  let trailing := byteLength content - byteLength body
  let indent := byteLength body - byteLength (body.dropWhile isBlank)
  (dropBytes? indent body).bind fun line =>
    (tokenizeCells line (indent == 0) 0 (separator.spans 0 line)).map fun steps =>
      leafUnlessEmpty indent ++ steps ++ leafUnlessEmpty trailing

/-- The steps that build lines with their endings. -/
def tokenizeLines : List PhysicalLine → Option (List BuildStep)
  | [] => some []
  | line :: lines =>
    (tokenizeLine line.content).bind fun here =>
      (tokenizeLines lines).map fun later =>
        here
          ++ (if line.ending.isEmpty then [] else [.token .newLine (byteLength line.ending)])
          ++ later

/-- The steps that build a text. -/
def tokenize (cs : List Char) : Option (List BuildStep) :=
  match cs with
  | [] => some []
  | c :: rest =>
    if c = byteOrderMark then
      (tokenizeLines (physicalLines rest)).map (.token .leaf c.utf8Size :: ·)
    else tokenizeLines (physicalLines (c :: rest))

end RunMarkers.Suite
