import RunMarkers.Config.Environment
import RunMarkers.Path
import RunMarkers.Text.Blank

/-!
# Configuration

A configuration says how the external test runner is invoked and which files are suites. Everything
in it has a default.
-/

namespace RunMarkers

/-- How the test runner is invoked. -/
structure RunnerConfig where
  /-- The program, perhaps with first arguments after it. -/
  command : Option String
  extraArgs : List String
  env : Environment
  workingDir : Option Path
  deriving DecidableEq

/-- A configuration. -/
structure Config where
  runner : RunnerConfig
  /-- Extensions of suite files; a dot before an extension does not count. -/
  suiteExtensions : List String
  deriving DecidableEq

namespace RunnerConfig

/-- The plain test runner. -/
def default : RunnerConfig := ⟨none, [], ∅, none⟩

end RunnerConfig

namespace Config

/-- The plain test runner for files with the usual extension. -/
def default : Config := ⟨.default, ["robot"]⟩

/-- The command of the test runner as it is written. -/
def runnerCommand (c : Config) : String := c.runner.command.getD "robot"

/-- The words of the runner's command. -/
def commandWords (c : Config) : List String :=
  (Text.words c.runnerCommand.toList).map String.ofList

/-- The program to run; a command without words stands for the usual one. -/
def program (c : Config) : String := c.commandWords.head?.getD "robot"

/-- The arguments that come before all others: the other words of the command and the extra
arguments. -/
def fixedArgs (c : Config) : List String := c.commandWords.tail ++ c.runner.extraArgs

end Config

end RunMarkers
