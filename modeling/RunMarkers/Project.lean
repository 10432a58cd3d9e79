import RunMarkers.Command.Json
import RunMarkers.Config.Lookup
import RunMarkers.FileTree.Edit
import RunMarkers.Marker.Detect
import RunMarkers.Marker.Json
import RunMarkers.Suite.Parser
import RunMarkers.Suite.Search

/-!
# Projects

A project is a file tree with the configuration that governs one of its paths. It answers the
questions an editor asks about a file: what can be run in it, which marker a line belongs to, and
what command runs it.
-/

namespace RunMarkers

/-- Why a question about a file has no answer. -/
inductive ProjectError where
  | file (fault : FileFault)
  | tree (error : BuildError)
  /-- The configuration file does not hold a configuration. -/
  | badConfig (path : Path)
  /-- No marker owns the line, counted from one. -/
  | noRunnable (line : Nat)
  | notSuite (path : Path)
  deriving DecidableEq, Repr

namespace ProjectError

/-- The wording of an error. -/
def message : ProjectError → String
  | file fault => "IO error: " ++ fault.message
  | tree error => "Document tree error: " ++ error.message
  | badConfig path => "Configuration error: Failed to parse " ++ path.text
  | noRunnable line => "No runnable found at line " ++ toString line
  | notSuite path => "Not a suite file: " ++ path.text

/-- The wordings of an error and of what caused it. -/
def chain : ProjectError → List String
  | file fault => [(file fault).message, fault.message]
  | e => [e.message]

end ProjectError

namespace Config

/-- The configuration in a file. -/
def load (files : FileTree) (path : Path) : Except ProjectError Config := do
  match read? (← (files.readText path).mapError .file) with
  | some config => return config
  | none => throw (.badConfig path)

/-- The configuration that governs a path, the default one if no file holds it. -/
def governing (files : FileTree) (path : Path) : Except ProjectError Config :=
  match findFile? files path with
  | some file => load files file
  | none => .ok .default

/-- Writes a configuration file. -/
def save (c : Config) (files : FileTree) (path : Path) : Except FileFault FileTree :=
  files.writeText path c.write

end Config

/-- A file tree with the configuration in force. -/
structure Project where
  files : FileTree
  config : Config

namespace Project

/-- The project with the configuration that governs a path. -/
def governing (files : FileTree) (path : Path) : Except ProjectError Project := do
  return ⟨files, ← Config.governing files path⟩

/-- The kind of the file at a path. -/
def kindOf (p : Project) (path : Path) : FileKind := .ofPath path p.config.suiteExtensions

/-- The file at a path is a suite. -/
def isSuite (p : Project) (path : Path) : Bool := p.kindOf path == .suite

/-- The document in a file. -/
def document (p : Project) (path : Path) : Except ProjectError Document := do
  let text ← (p.files.readText path).mapError .file
  (Suite.parse text (some path) (p.kindOf path)).mapError .tree

/-- The markers of a file. -/
def markers (p : Project) (path : Path) : Except ProjectError (List Marker) := do
  return (← p.document path).markers

/-- The marker of a file that a line belongs to. -/
def markerAt (p : Project) (path : Path) (line : Nat) : Except ProjectError (Option Marker) := do
  return (← p.document path).markerAt line

/-- The gutter entries of a file. -/
def gutter (p : Project) (path : Path) : Except ProjectError (List GutterEntry) := do
  return Gutter.ofMarkers (← p.markers path)

/-- The command for a marker of a file. -/
def command (p : Project) (m : Marker) (path : Path) : Command := p.config.command m path

/-- The command that runs all of a file, if anything in it can be run. -/
def fileCommand (p : Project) (path : Path) : Except ProjectError (Option Command) := do
  return if (← p.markers path).isEmpty then none else some (p.config.fileCommand path)

/-- The command for the marker that a line belongs to. What the error would say is worked out first:
the line counted from one, in 32 bits. A sum that is checked for overflow does not get past the last
of them; here it is zero. -/
def commandAt (p : Project) (path : Path) (line : Nat) : Except ProjectError Command :=
  if p.isSuite path then do
    let owner ← p.markerAt path line
    let shown := (line + 1) % UInt32.size
    match owner with
    | some m => return p.command m path
    | none => throw (.noRunnable shown)
  else .error (.notSuite path)

/-- The markers of a file as indented JSON. -/
def analysis (p : Project) (path : Path) : Except ProjectError String := do
  return (Marker.listToJson (← p.markers path)).pretty

/-- The suites at or below a place. -/
def suites (p : Project) (start : Path) : List Path :=
  suiteFiles p.files p.config.suiteExtensions start

end Project

end RunMarkers
