/-!
# Places in a text

A `Position` is what an editor shows, a line and a character; a `Span` is what a document stores, a
half-open range of byte offsets. Both count from zero.
-/

namespace RunMarkers

/-- A place in a text by line and by character on that line. -/
structure Position where
  line : Nat
  character : Nat
  deriving DecidableEq, Repr

/-- A position in numbers of 32 bits, which is how positions are stored. -/
def Position.narrowed (p : Position) : Position :=
  ⟨p.line % UInt32.size, p.character % UInt32.size⟩

theorem Position.narrowed_of_lt {p : Position} (hline : p.line < UInt32.size)
    (hcharacter : p.character < UInt32.size) : p.narrowed = p := by
  rw [narrowed, Nat.mod_eq_of_lt hline, Nat.mod_eq_of_lt hcharacter]

/-- The bytes from `start` up to, and not including, `stop`. -/
structure Span where
  start : Nat
  stop : Nat
  deriving DecidableEq, Repr

/-- The span of length zero at an offset. -/
def Span.empty (offset : Nat) : Span := ⟨offset, offset⟩

end RunMarkers
