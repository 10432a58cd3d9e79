import RunMarkers.Position
import RunMarkers.Section

/-!
# Run markers

A marker says that a line of a suite can be run: alone, as a test case or task with a name, or with
everything in the file, when it stands at the heading of a section.
-/

namespace RunMarkers

/-- A line that can be run. -/
structure Marker where
  /-- The bytes of the token that the marker is anchored at. -/
  span : Span
  /-- Where that token starts. -/
  position : Position
  /-- The section that the line belongs to. -/
  within : Section
  label : String
  /-- The test case or task, or `none` for all of the file. -/
  name : Option String
  deriving DecidableEq, Repr

namespace Marker

/-- The marker that runs everything in a file. -/
def runAll (span : Span) (position : Position) (within : Section) : Marker :=
  ⟨span, position, within, "run all", none⟩

/-- The marker that runs one test case or task. -/
def runCase (span : Span) (position : Position) (within : Section) (name : String) : Marker :=
  ⟨span, position, within, "run " ++ name, some name⟩

/-- The line of a marker. -/
def line (m : Marker) : Nat := m.position.line

/-- The marker runs everything in a file. -/
def isRunAll (m : Marker) : Bool := m.name.isNone

/-- The place, counted from one, and the label. -/
def summary (m : Marker) : String :=
  toString (m.position.line + 1) ++ ":" ++ toString (m.position.character + 1) ++ " " ++ m.label

end Marker

end RunMarkers
