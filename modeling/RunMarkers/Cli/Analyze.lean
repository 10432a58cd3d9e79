import RunMarkers.Cli.Printout
import RunMarkers.Cli.Target
import RunMarkers.Document.Outline
import RunMarkers.Report.Breakdown
import RunMarkers.Command.Shell
import RunMarkers.Report.Summary

/-!
# Listing what can be run

`analyze` lists the markers of a file or of every suite below a directory, for a reader or as
JSON, or prints the outline of a file. A line in the target narrows the list to the marker that
owns it. Lines are looked up as numbers of 32 bits.
-/

namespace RunMarkers.Cli

/-- The path of an argument as seen from the working directory. -/
def resolve (files : FileTree) (cwd : Path) (path : Path) : Except RunError Path :=
  let full := cwd.join path
  if files.existsAt full then .ok full else .error (.noSuchFile full)

/-- The project that governs a path. -/
def openProject (files : FileTree) (path : Path) : Except RunError Project :=
  (Project.governing files path).mapError (.config path)

/-- A line number in 32 bits. -/
def lineIndex (line : Nat) : Nat := line % Nat.pow 2 32

namespace Analyze

/-- The line between parts of a report. -/
def rule : String := String.ofList (List.replicate 80 '=')

/-- Lines numbered from one. -/
def numbered (texts : List String) : List String :=
  texts.zipIdx.map fun t => toString (t.2 + 1) ++ ". " ++ t.1

/-- The markers of one suite. -/
structure SuiteReport where
  path : Path
  markers : List Marker

/-- The report on a suite as JSON. -/
def SuiteReport.toJson (r : SuiteReport) : Json :=
  .ofMembers [("path", .ofString r.path.text), ("markers", Marker.listToJson r.markers)]

/-- The reports on suites. -/
def reports (p : Project) (suites : List Path) : Except ProjectError (List SuiteReport) :=
  suites.mapM fun suite => do return ⟨suite, ← p.markers suite⟩

/-- The part of a directory's report on one suite. -/
def suitePart (p : Project) (dir suite : Path) : Printout :=
  .ofResult (p.markers suite) fun markers =>
    let shown := (suite.relativeTo? dir).getD suite
    .lines (("\n📄 " ++ shown.text ++ " (" ++ toString markers.length ++ " runnable(s))")
      :: markers.map fun m => "   • " ++ m.describe)

/-- The report on a directory. -/
def directory (p : Project) (dir : Path) (verbose : Bool) : Printout :=
  let suites := p.suites dir
  if verbose then
    .ofResult (reports p suites) fun rs =>
      .line (Json.array (rs.map SuiteReport.toJson)).pretty
  else
    .lines ["🔍 Analyzing directory: " ++ dir.text, rule]
      ++ (if suites.isEmpty then .line "\n❌ No suite files found." else .empty)
      ++ .concat (suites.map (suitePart p dir))
      ++ .line ("\n" ++ rule)

/-- A file's markers as JSON: the one that owns a line, the gutter entries, or all of them. -/
def verboseFile (p : Project) (path : Path) (line : Option Nat) (merged : Bool) : Printout :=
  match line with
  | some n =>
    .ofResult (p.markerAt path (lineIndex n)) fun m =>
      .line (match m with
        | some m => m.toJson.pretty
        | none => Json.null.pretty)
  | none =>
    if merged then .ofResult (p.gutter path) fun es => .line (GutterEntry.listToJson es).pretty
    else .ofResult (p.analysis path) .line

/-- The part of a file's report on the command for all of it. -/
def fileCommandPart (command : Option Command) : Printout :=
  match command with
  | some c => .line "\n📄 File-level command:" ++ .verbatim c.breakdown
  | none => .line "\n📄 File-level command: None"

/-- The part of a file's report on the owner of a line. -/
def ownerPart (p : Project) (path : Path) (line : Nat) : Option Marker → Printout
  | some m =>
    .lines ["\n✅ Runnable at line " ++ toString (line + 1) ++ ":\n", "1. " ++ m.describe]
      ++ .verbatim (p.command m path).breakdown
      ++ .lines ["\n🎯 Command to run:", "   " ++ (p.command m path).shellLine]
  | none => .line ("\n❌ No runnable found at line " ++ toString (line + 1) ++ ".")

/-- The part of a file's report on its gutter entries. -/
def gutterPart (entries : List GutterEntry) : Printout :=
  if entries.isEmpty then .line "\n❌ No runnables found in this file."
  else
    .line ("\n✅ Found " ++ toString entries.length ++ " gutter slot(s):\n")
      ++ .lines (numbered (entries.map GutterEntry.describe))

/-- The part of a file's report on its markers, each with its command. -/
def markersPart (p : Project) (path : Path) (markers : List Marker) : Printout :=
  if markers.isEmpty then .line "\n❌ No runnables found in this file."
  else
    .line ("\n✅ Found " ++ toString markers.length ++ " runnable(s):\n")
      ++ .lines (numbered (markers.map fun m =>
        m.describe ++ "\n   🎯 " ++ (p.command m path).shellLine))

/-- The report on a file, which calls it by the name given. -/
def file (p : Project) (name path : Path) (line : Option Nat) (merged : Bool) : Printout :=
  let lineText := match line with
    | some n => ":" ++ toString (n + 1)
    | none => ""
  .lines ["🔍 Analyzing: " ++ name.text ++ lineText, rule,
      "   📦 Type: " ++ (p.kindOf path).describe path]
    ++ .ofResult (p.fileCommand path) fileCommandPart
    ++ (match line with
      | some n => .ofResult (p.markerAt path (lineIndex n)) (ownerPart p path n)
      | none =>
        if merged then .ofResult (p.gutter path) gutterPart
        else .ofResult (p.markers path) (markersPart p path))
    ++ .line ("\n" ++ rule)

/-- What `analyze` prints. -/
def run (files : FileTree) (cwd : Path) (arg : String) (verbose merged tree : Bool) : Printout :=
  let target := Target.ofArg arg
  match resolve files cwd target.path with
  | .error e => .failed e
  | .ok path =>
    match openProject files path with
    | .error e => .failed e
    | .ok p =>
      if files.isDirAt path then directory p path verbose
      else if tree then .ofResult (p.document path) fun d => .verbatim d.outline
      else if verbose then verboseFile p path target.line merged
      else file p target.path path target.line merged

end Analyze

end RunMarkers.Cli
