import RunMarkers.Marker.Basic
import RunMarkers.Proofs.Suite.Cells
import RunMarkers.Proofs.Suite.Lines

/-!
# Scanning a text line by line

The scan finds the markers of a suite without a tree. It reads the physical lines of a text from
first to last and carries the section of the last heading line; what a line is, and whether it has
a marker, is seen from its content alone. `scan` lists the markers, `headings` the heading lines.
-/

namespace RunMarkers.Suite

/-- A physical line, with what the scan knows when it comes to the line. -/
structure ScanLine where
  number : Nat
  /-- The bytes of the text before the content. -/
  offset : Nat
  /-- The characters before the content on its line: one after a byte order mark, else none. -/
  column : Nat
  /-- The section that the last heading line before this one opens. -/
  within : Option Section
  /-- The line without its ending. -/
  content : List Char
  deriving DecidableEq, Repr

namespace ScanLine

/-- The line starts a section. -/
def isHeading (l : ScanLine) : Bool := l.content.head? == some '*'

/-- The section that the first cell of the line opens, if it is a heading. -/
def opens (l : ScanLine) : Section := .ofHeading (String.ofList (firstCell l.content))

/-- The section behind the start of the line. -/
def scope (l : ScanLine) : Option Section := if l.isHeading then some l.opens else l.within

theorem scope_of_isHeading {l : ScanLine} (h : l.isHeading = true) : l.scope = some l.opens :=
  if_pos h

theorem scope_of_not_isHeading {l : ScanLine} (h : l.isHeading = false) : l.scope = l.within :=
  if_neg (h ▸ Bool.false_ne_true)

/-- The line starts with a cell that can name a test case or task. -/
def hasName (l : ScanLine) : Bool :=
  !isQuiet l.content && firstCell l.content != ['.', '.', '.']
    && !(firstCell l.content).all Text.isWhiteSpace

/-- The bytes of the first cell. -/
def anchor (l : ScanLine) : Span := ⟨l.offset, l.offset + Text.byteLength (firstCell l.content)⟩

def place (l : ScanLine) : Position := ⟨l.number, l.column⟩

/-- The marker of the line. A heading line has one if it opens a section that can be run, any other
line if it stands in such a section and has a name, which is its whole content. -/
def marker? (l : ScanLine) : Option Marker :=
  if l.isHeading then
    if l.opens.isRunnable then some (.runAll l.anchor l.place l.opens) else none
  else
    match l.within with
    | none => none
    | some within =>
      if within.isRunnable && l.hasName then
        some (.runCase l.anchor l.place within (String.ofList l.content))
      else none

end ScanLine

/-- The lines that start at line `number`, in the order in which the scan meets them. -/
def scanLines (number offset column : Nat) (within : Option Section) :
    List (List Char) → List ScanLine
  | [] => []
  | raw :: later =>
    let line : ScanLine := ⟨number, offset, column, within, withoutEnding raw⟩
    line :: scanLines (number + 1) (offset + Text.byteLength raw) 0 line.scope later

/-- The lines of a text. A byte order mark at the start is no part of the first line's content. -/
def scanned (cs : List Char) : List ScanLine :=
  match cs with
  | [] => []
  | c :: rest =>
    if c = byteOrderMark then scanLines 0 c.utf8Size 1 none (cutAfterLineFeeds rest)
    else scanLines 0 0 0 none (cutAfterLineFeeds (c :: rest))

/-- The markers that the scan of a text finds. -/
def scan (cs : List Char) : List Marker := (scanned cs).filterMap ScanLine.marker?

def headings (cs : List Char) : List ScanLine := (scanned cs).filter ScanLine.isHeading

end RunMarkers.Suite
