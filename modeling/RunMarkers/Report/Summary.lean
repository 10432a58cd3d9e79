import RunMarkers.FileKind
import RunMarkers.Marker.Gutter

/-!
# Summaries

One-line summaries of files, markers and gutter entries, with lines counted from one.
-/

namespace RunMarkers

/-- A file by its kind and its name. -/
def FileKind.describe (kind : FileKind) (path : Path) : String :=
  let name := path.fileName?.getD ""
  match kind with
  | suite => "🧪 suite file (" ++ name ++ ")"
  | resource => "📚 resource file (" ++ name ++ ")"
  | other => "📄 file (" ++ name ++ ")"

/-- A marker by its line, its label and its section. -/
def Marker.describe (m : Marker) : String :=
  let all := if m.isRunAll then "all " else ""
  "line " ++ toString (m.position.line + 1) ++ ": " ++ m.label
    ++ " (" ++ all ++ m.within.title ++ ")"

/-- A gutter entry by its line and its label, with the names that compete for it. -/
def GutterEntry.describe (e : GutterEntry) : String :=
  let names := if e.isAmbiguous then
      " [" ++ " | ".intercalate (e.names.map fun name => name.getD "<all>") ++ "]"
    else ""
  "line " ++ toString (e.position.line + 1) ++ ": " ++ e.label ++ names

end RunMarkers
