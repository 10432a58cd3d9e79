import RunMarkers.Position
import RunMarkers.Text.Bytes

/-!
# Source texts

A source is a text with the table of its lines. Each line start keeps the text from there on, so
that what stands at an offset is found from the start of its line and not from the start of the
text; that this makes no difference is `textFrom?_eq_dropBytes?`.
-/

namespace RunMarkers

/-- The start of a line: how many lines and bytes come before it, and the text from there on. -/
structure LineStart where
  line : Nat
  offset : Nat
  rest : List Char
  deriving DecidableEq, Repr

namespace LineStart

/-- The start of the first line of a text. -/
def first (cs : List Char) : LineStart := ⟨0, 0, cs⟩

/-- The line starts that follow each line feed of a text, of which `line` lines and `offset` bytes
have passed. -/
def after (line offset : Nat) : List Char → List LineStart
  | [] => []
  | c :: cs =>
    if c = '\n' then
      ⟨line + 1, offset + c.utf8Size, cs⟩ :: after (line + 1) (offset + c.utf8Size) cs
    else after line (offset + c.utf8Size) cs

/-- The last of `found` and the line starts after it that is not beyond an offset. -/
def lastUpTo (offset : Nat) (found : LineStart) : List LineStart → LineStart
  | [] => found
  | l :: ls => if l.offset ≤ offset then lastUpTo offset l ls else found

end LineStart

/-- A text, its length in bytes, and the starts of its lines after the first. -/
structure Source where
  chars : List Char
  size : Nat
  laterLines : List LineStart
  size_eq : size = Text.byteLength chars
  laterLines_eq : laterLines = LineStart.after 0 0 chars

namespace Source

/-- The source of a list of characters. -/
def ofChars (chars : List Char) : Source :=
  ⟨chars, Text.byteLength chars, LineStart.after 0 0 chars, rfl, rfl⟩

/-- The source of a text. -/
def ofString (text : String) : Source := ofChars text.toList

/-- The text of a source. -/
def text (s : Source) : String := String.ofList s.chars

/-- The number of lines; the text after the last line feed is a line even when it is empty. -/
def lineCount (s : Source) : Nat := s.laterLines.length + 1

/-- The start of the line that an offset lies on. -/
def lineStartAt (s : Source) (offset : Nat) : LineStart :=
  .lastUpTo offset (.first s.chars) s.laterLines

/-- The text from an offset on, if it is a character boundary. -/
def textFrom? (s : Source) (offset : Nat) : Option (List Char) :=
  let l := s.lineStartAt offset
  Text.dropBytes? (offset - l.offset) l.rest

/-- A character ends, or the text starts, at an offset. -/
def isBoundary (s : Source) (offset : Nat) : Bool := (s.textFrom? offset).isSome

/-- The characters of a span, if it lies on character boundaries of the source. -/
def charsOf? (s : Source) (span : Span) : Option (List Char) :=
  if span.start ≤ span.stop then
    (s.textFrom? span.start).bind (Text.takeBytes? (span.stop - span.start))
  else none

/-- The text of a span, empty when the span does not lie on character boundaries of the source. -/
def slice (s : Source) (span : Span) : String := String.ofList ((s.charsOf? span).getD [])

/-- The line and character of an offset; one past the end counts as the end. The character counts
code points from the start of the line, and is zero for an offset inside a character. -/
def placeAt (s : Source) (offset : Nat) : Position :=
  let offset := min offset s.size
  let l := s.lineStartAt offset
  ⟨l.line, ((Text.takeBytes? (offset - l.offset) l.rest).getD []).length⟩

/-- The line and character of an offset, in numbers of 32 bits. -/
def positionAt (s : Source) (offset : Nat) : Position := (s.placeAt offset).narrowed

/-- The table of the offsets at which lines start. -/
def lineStarts (s : Source) : List Nat := 0 :: s.laterLines.map LineStart.offset

/-- Where a binary search in the table of line starts ends: behind those that are not beyond the
offset. -/
def partitionPoint (s : Source) (offset : Nat) : Nat :=
  (s.lineStarts.takeWhile fun start => decide (start ≤ offset)).length

/-- The position of an offset by the table of line starts, in numbers of 32 bits. There is none if
no line starts up to the offset. -/
def positionInTable? (s : Source) (offset : Nat) : Option Position :=
  let offset := min offset s.size
  match s.partitionPoint offset with
  | 0 => none
  | line + 1 => s.lineStarts[line]?.map fun start =>
    ⟨line % UInt32.size,
      ((Text.bytesBetween? start offset s.chars).getD []).length % UInt32.size⟩

@[simp] theorem chars_ofChars (chars : List Char) : (ofChars chars).chars = chars := rfl

@[simp] theorem chars_ofString (text : String) : (ofString text).chars = text.toList := rfl

@[simp] theorem text_ofString (text : String) : (ofString text).text = text := by
  simp [Source.text]

end Source

namespace LineStart

/-- A line start that agrees with the text it was made from. -/
def IsIn (cs : List Char) (l : LineStart) : Prop := Text.dropBytes? l.offset cs = some l.rest

theorem isIn_first (cs : List Char) : (first cs).IsIn cs := by simp [IsIn, first]

theorem isIn_of_mem_after {whole cs : List Char} {line offset : Nat}
    (h : Text.dropBytes? offset whole = some cs) {l : LineStart} (hl : l ∈ after line offset cs) :
    l.IsIn whole := by
  induction cs generalizing line offset with
  | nil => simp [after] at hl
  | cons c cs ih =>
    have hnext : Text.dropBytes? (offset + c.utf8Size) whole = some cs := by
      rw [Text.dropBytes?_add h]
      simpa using Text.dropBytes?_utf8Size_add 0 c cs
    rw [after] at hl
    split at hl
    · rcases List.mem_cons.1 hl with rfl | hl
      · exact hnext
      · exact ih hnext hl
    · exact ih hnext hl

theorem lastUpTo_mem (offset : Nat) (found : LineStart) (ls : List LineStart) :
    lastUpTo offset found ls = found ∨ lastUpTo offset found ls ∈ ls := by
  induction ls generalizing found with
  | nil => exact .inl rfl
  | cons l ls ih =>
    rw [lastUpTo]
    split
    · exact .inr (by rcases ih l with h | h <;> simp [h])
    · exact .inl rfl

theorem offset_lastUpTo_le {offset : Nat} {found : LineStart} (h : found.offset ≤ offset)
    (ls : List LineStart) : (lastUpTo offset found ls).offset ≤ offset := by
  induction ls generalizing found with
  | nil => exact h
  | cons l ls ih =>
    rw [lastUpTo]
    split
    next hl => exact ih hl
    next => exact h

end LineStart

namespace Source

theorem isIn_lineStartAt (s : Source) (offset : Nat) : (s.lineStartAt offset).IsIn s.chars := by
  rcases LineStart.lastUpTo_mem offset (.first s.chars) s.laterLines with h | h
  · rw [lineStartAt, h]
    exact LineStart.isIn_first _
  · rw [lineStartAt]
    rw [s.laterLines_eq] at h ⊢
    exact LineStart.isIn_of_mem_after (Text.dropBytes?_zero _) h

theorem offset_lineStartAt_le (s : Source) (offset : Nat) :
    (s.lineStartAt offset).offset ≤ offset :=
  LineStart.offset_lastUpTo_le (Nat.zero_le _) _

/-- The text found from the start of a line is the text found from the start of the source. -/
theorem textFrom?_eq_dropBytes? (s : Source) (offset : Nat) :
    s.textFrom? offset = Text.dropBytes? offset s.chars := by
  have h := Text.dropBytes?_add (s.isIn_lineStartAt offset)
    (offset - (s.lineStartAt offset).offset)
  rw [Nat.add_sub_cancel' (s.offset_lineStartAt_le offset)] at h
  rw [h, textFrom?]

theorem charsOf?_eq_bytesBetween? (s : Source) (span : Span) :
    s.charsOf? span = Text.bytesBetween? span.start span.stop s.chars := by
  rw [charsOf?, Text.bytesBetween?, textFrom?_eq_dropBytes?]

end Source

end RunMarkers
