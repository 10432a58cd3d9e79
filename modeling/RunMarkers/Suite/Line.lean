/-!
# Lines of a suite file

A physical line is its content and its ending, a line feed with or without a carriage return
before it. The content of a line is a row of cells. Cells are separated by two or more blanks, or
by any run of blanks with a tab in it; a blank is a space or a tab, so a cell may hold single
spaces. Cutting loses nothing: the lines of a text make up the text
(`flatMap_text_physicalLines`), and the pieces of a line make up the line
(`flatMap_text_linePieces`).
-/

namespace RunMarkers.Suite

/-- U+FEFF at the start of a text. -/
def byteOrderMark : Char := '\uFEFF'

/-- A line without and with its ending, which only the last line may lack. -/
structure PhysicalLine where
  content : List Char
  ending : List Char
  deriving DecidableEq, Repr

/-- The text of a line with its ending. -/
def PhysicalLine.text (line : PhysicalLine) : List Char := line.content ++ line.ending

/-- Puts a character before the lines of a text. -/
def PhysicalLine.consChar (c : Char) (lines : List PhysicalLine) : List PhysicalLine :=
  if c = '\n' then ⟨[], ['\n']⟩ :: lines
  else
    match lines with
    | [] => [⟨[c], []⟩]
    | line :: rest =>
      if c = '\r' ∧ line.content = [] ∧ line.ending = ['\n'] then ⟨[], ['\r', '\n']⟩ :: rest
      else ⟨c :: line.content, line.ending⟩ :: rest

/-- The lines of a text. A text that is empty, or what follows its last line feed when that is
empty, makes no line. -/
def physicalLines (cs : List Char) : List PhysicalLine := cs.foldr PhysicalLine.consChar []

theorem flatMap_text_consChar (c : Char) (lines : List PhysicalLine) :
    (PhysicalLine.consChar c lines).flatMap PhysicalLine.text
      = c :: lines.flatMap PhysicalLine.text := by
  unfold PhysicalLine.consChar
  split
  next h => simp [PhysicalLine.text, h]
  next =>
    split
    next => simp [PhysicalLine.text]
    next =>
      split
      next h => simp [PhysicalLine.text, h]
      next => simp [PhysicalLine.text]

/-- Nothing is lost when a text is cut into lines. -/
theorem flatMap_text_physicalLines (cs : List Char) :
    (physicalLines cs).flatMap PhysicalLine.text = cs := by
  induction cs with
  | nil => rfl
  | cons c cs ih =>
    rw [physicalLines, List.foldr_cons, flatMap_text_consChar]
    exact congrArg (c :: ·) ih

/-- A space or a tab. -/
def isBlank (c : Char) : Bool := c == ' ' || c == '\t'

/-- The blanks at the end of a line. -/
def trailingBlanks (cs : List Char) : List Char := (cs.reverse.takeWhile isBlank).reverse

/-- A line without the blanks at its end. -/
def dropTrailingBlanks (cs : List Char) : List Char := (cs.reverse.dropWhile isBlank).reverse

theorem dropTrailingBlanks_append (cs : List Char) :
    dropTrailingBlanks cs ++ trailingBlanks cs = cs := by
  rw [dropTrailingBlanks, trailingBlanks, ← List.reverse_append, List.takeWhile_append_dropWhile,
    List.reverse_reverse]

/-- A run of blanks that separates cells. -/
def isSeparator (blanks : List Char) : Bool := decide (2 ≤ blanks.length) || blanks.contains '\t'

/-- The text up to the first separator, and the text from there. -/
def cutCell : List Char → List Char × List Char
  | [] => ([], [])
  | c :: cs =>
    if isSeparator ((c :: cs).takeWhile isBlank) then ([], c :: cs)
    else
      let (cell, rest) := cutCell cs
      (c :: cell, rest)

/-- What a line is made of. -/
inductive Piece where
  /-- The first cell of a heading line. -/
  | heading (text : List Char)
  /-- A cell of content. -/
  | cell (text : List Char)
  /-- Blanks, a comment or the mark of a continued line. -/
  | plain (text : List Char)
  deriving DecidableEq, Repr

/-- The text of a piece. -/
def Piece.text : Piece → List Char
  | heading text | cell text | plain text => text

/-- The piece that a cell makes; only the first cell of a line without indentation can be a
heading. -/
def pieceOfCell (canHead : Bool) (text : List Char) : Piece :=
  if canHead && text.head? == some '*' then .heading text
  else if text = ['.', '.', '.'] then .plain text
  else .cell text

@[simp] theorem text_pieceOfCell (canHead : Bool) (text : List Char) :
    (pieceOfCell canHead text).text = text := by
  rw [pieceOfCell]
  split
  · rfl
  · split <;> rfl

theorem cutCell_append (cs : List Char) : (cutCell cs).1 ++ (cutCell cs).2 = cs := by
  induction cs with
  | nil => rfl
  | cons c cs ih =>
    rw [cutCell]
    split
    · rfl
    · simp [ih]

/-- What remains of a line at a separator starts with one. -/
theorem isSeparator_cutCell (cs : List Char) :
    (cutCell cs).2 = [] ∨ isSeparator ((cutCell cs).2.takeWhile isBlank) = true := by
  induction cs with
  | nil => exact .inl rfl
  | cons c cs ih =>
    rw [cutCell]
    split
    next h => exact .inr h
    next => exact ih

theorem length_dropWhile_isBlank_lt {cs : List Char}
    (h : isSeparator (cs.takeWhile isBlank) = true) :
    (cs.dropWhile isBlank).length < cs.length := by
  have hlen := congrArg List.length (List.takeWhile_append_dropWhile (p := isBlank) (l := cs))
  rw [List.length_append] at hlen
  have hne : cs.takeWhile isBlank ≠ [] := by
    intro h0
    rw [h0] at h
    exact absurd h (by decide)
  have := List.length_pos_iff.2 hne
  omega

theorem length_cutCell_lt {cs : List Char} (h : (cutCell cs).2 ≠ []) :
    ((cutCell cs).2.dropWhile isBlank).length < cs.length := by
  have h1 := length_dropWhile_isBlank_lt ((isSeparator_cutCell cs).resolve_left h)
  have h2 := congrArg List.length (cutCell_append cs)
  rw [List.length_append] at h2
  omega

/-- The pieces of a line without blanks at its ends. A cell that starts with a number sign begins a
comment, which runs to the end. -/
def cellPieces (canHead : Bool) (cs : List Char) : List Piece :=
  match cs with
  | [] => []
  | '#' :: rest => [.plain ('#' :: rest)]
  | c :: rest =>
    if _h : (cutCell (c :: rest)).2 = [] then [pieceOfCell canHead (c :: rest)]
    else
      pieceOfCell canHead (cutCell (c :: rest)).1
        :: .plain ((cutCell (c :: rest)).2.takeWhile isBlank)
        :: cellPieces false ((cutCell (c :: rest)).2.dropWhile isBlank)
termination_by cs.length
decreasing_by exact length_cutCell_lt _h

theorem flatMap_text_cellPieces (canHead : Bool) (cs : List Char) :
    (cellPieces canHead cs).flatMap Piece.text = cs := by
  fun_induction cellPieces canHead cs with
  | case1 => rfl
  | case2 => simp [Piece.text]
  | case3 canHead c rest h => simp
  | case4 canHead c rest h h' ih =>
    rw [List.flatMap_cons, List.flatMap_cons, ih, text_pieceOfCell, Piece.text,
      List.takeWhile_append_dropWhile, cutCell_append]

/-- A plain piece, unless it would be empty. -/
def plainUnlessEmpty (text : List Char) : List Piece := if text.isEmpty then [] else [.plain text]

theorem flatMap_text_plainUnlessEmpty (text : List Char) :
    (plainUnlessEmpty text).flatMap Piece.text = text := by
  cases text <;> simp [plainUnlessEmpty, Piece.text]

/-- The pieces of a line from left to right. -/
def linePieces (content : List Char) : List Piece :=
  let body := dropTrailingBlanks content
  let indent := body.takeWhile isBlank
  plainUnlessEmpty indent ++ cellPieces indent.isEmpty (body.dropWhile isBlank)
    ++ plainUnlessEmpty (trailingBlanks content)

/-- Nothing is lost when a line is cut into pieces. -/
theorem flatMap_text_linePieces (content : List Char) :
    (linePieces content).flatMap Piece.text = content := by
  simp only [linePieces, List.flatMap_append, flatMap_text_plainUnlessEmpty,
    flatMap_text_cellPieces, List.takeWhile_append_dropWhile, dropTrailingBlanks_append]

end RunMarkers.Suite
