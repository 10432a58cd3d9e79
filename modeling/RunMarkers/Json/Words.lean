import RunMarkers.FileKind
import RunMarkers.Json.Record
import RunMarkers.Section

/-!
# Words for kinds

Kinds of files and of sections are written in JSON as one word each, and read in any ASCII case.
-/

namespace RunMarkers

/-- The words of a kind in lower case, each with what it stands for. -/
def Json.wordTable {α : Type} (all : List α) (word : α → String) : List (String × α) :=
  all.map fun a => (Text.asciiLower (word a), a)

namespace FileKind

/-- The word for a kind of file. -/
def word : FileKind → String
  | suite => "Suite"
  | resource => "Resource"
  | other => "Other"

/-- A kind of file as JSON. -/
def toJson (k : FileKind) : Json := .ofString k.word

/-- The kind of file that a JSON value names. -/
def ofJson (j : Json) : Except ShapeError FileKind := j.asWord (Json.wordTable all word)

end FileKind

namespace Section

/-- The word for a kind of section. -/
def word : Section → String
  | testCases => "TestCases"
  | tasks => "Tasks"
  | keywords => "Keywords"
  | settings => "Settings"
  | vars => "Variables"
  | other => "Other"

/-- A kind of section as JSON. -/
def toJson (s : Section) : Json := .ofString s.word

/-- The kind of section that a JSON value names. -/
def ofJson (j : Json) : Except ShapeError Section := j.asWord (Json.wordTable all word)

end Section

end RunMarkers
