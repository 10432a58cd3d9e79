import RunMarkers.Cli.Analyze

/-!
# Printing a command

`command` prints the command for the marker that owns a line, or for all of a file, as a line for a
shell or as JSON.
-/

namespace RunMarkers.Cli.PrintCommand

/-- The command for a line of a file, or for all of it. -/
def commandFor (p : Project) (path : Path) : Option Nat → Except RunError Command
  | some n => (p.commandAt path (lineIndex n)).mapError .project
  | none => do
    match ← (p.fileCommand path).mapError .project with
    | some c => return c
    | none => throw (.nothingToRun path)

/-- The command that an argument asks for. -/
def find (files : FileTree) (cwd : Path) (arg : String) : Except RunError Command := do
  let target := Target.ofArg arg
  let path ← resolve files cwd target.path
  let p ← openProject files path
  commandFor p path target.line

/-- What `command` prints. -/
def run (files : FileTree) (cwd : Path) (arg : String) (json : Bool) : Printout :=
  match find files cwd arg with
  | .error e => .failed e
  | .ok c => .line (if json then c.toJson.pretty else c.shellLine)

end RunMarkers.Cli.PrintCommand
