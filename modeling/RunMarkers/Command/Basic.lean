import RunMarkers.Config.Basic
import RunMarkers.Marker.Basic

/-!
# Runner commands

A command describes an invocation of the test runner; nothing here starts it. `Config.command` is
the command for a marker of a file: the runner's own arguments, then the choice of one test case
or task, then the file.
-/

namespace RunMarkers

/-- An invocation of the test runner. -/
structure Command where
  program : String
  args : List String
  workingDir : Option Path
  /-- Variables to set, in order. -/
  env : List (String × String)
  deriving DecidableEq, Repr

/-- The option that chooses one line of a section. -/
def Section.choosing : Section → String
  | .tasks => "--task"
  | _ => "--test"

/-- The arguments that choose what a marker runs. -/
def Marker.choice (m : Marker) : List String :=
  match m.name with
  | some name => [m.within.choosing, name]
  | none => []

namespace Config

/-- The command that runs a file with the given choice. -/
def commandChoosing (c : Config) (choice : List String) (file : Path) : Command where
  program := c.program
  args := c.fixedArgs ++ choice ++ [file.text]
  workingDir := c.runner.workingDir
  env := c.runner.env.entries

/-- The command for a marker of a file. -/
def command (c : Config) (m : Marker) (file : Path) : Command := c.commandChoosing m.choice file

/-- The command that runs all of a file. -/
def fileCommand (c : Config) (file : Path) : Command := c.commandChoosing [] file

end Config

end RunMarkers
