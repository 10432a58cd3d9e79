import RunMarkers.Cli.Command
import RunMarkers.Cli.Init
import RunMarkers.Cli.Request

/-!
# Running a command line

A run reads its arguments, then does what they ask for in a working directory of a file tree.
-/

namespace RunMarkers.Cli

/-- What a request prints, and the files after it. -/
def Request.run (files : FileTree) (cwd : Path) : Request → Printout × FileTree
  | .analyze target verbose merged tree =>
    (Analyze.run files cwd target verbose merged tree, files)
  | .command target json => (PrintCommand.run files cwd target json, files)
  | .init directory force => Init.run files cwd directory force

/-- What a command line prints, and the files after it, unless its arguments stop it. -/
def run (files : FileTree) (cwd : Path) (args : List String) :
    Except UsageStop (Printout × FileTree) := do
  return (← Request.ofArgs args).run files cwd

end RunMarkers.Cli
