import RunMarkers.Command.Basic
import RunMarkers.Text.Quoted

/-!
# Breaking a command down

For a reader, a command is shown part by part: the program, the choice of one test case or task, the
other arguments and the file. The parts are found again from the arguments alone: the word after a
choosing option is the name chosen, and the last argument is the file.
-/

namespace RunMarkers

/-- The roles of the arguments of a command. -/
structure Breakdown where
  /-- A choosing option and its name; the last one counts. -/
  choice : Option (String × String)
  extraArgs : List String
  file : Option String
  deriving DecidableEq, Repr

namespace Breakdown

/-- The argument is an option that chooses a test case or task. -/
def isChoosing (arg : String) : Bool := arg == "--test" || arg == "--task"

/-- Sorts arguments by their roles. -/
def ofArgs : List String → Breakdown
  | [] => ⟨none, [], none⟩
  | [arg] => ⟨none, [], some arg⟩
  | arg :: next :: rest =>
    if isChoosing arg then
      let b := ofArgs rest
      { b with choice := b.choice.or (some (arg, next)) }
    else
      let b := ofArgs (next :: rest)
      { b with extraArgs := arg :: b.extraArgs }

/-- The word of an option without its dashes. -/
def bareOption (option : String) : String :=
  String.ofList (option.toList.dropWhile (· == '-'))

/-- The lines that show a command part by part. -/
def lines (c : Command) : List String :=
  let b := ofArgs c.args
  ["   🔧 Command breakdown:", "      • command: " ++ c.program]
    ++ (b.choice.map fun (option, name) =>
      "      • " ++ bareOption option ++ ": " ++ name).toList
    ++ (if b.extraArgs.isEmpty then []
      else ["      • extraArgs: " ++ Text.quotedList b.extraArgs])
    ++ (b.file.map fun file => "      • suite: " ++ file).toList
    ++ (c.workingDir.map fun dir => "      • workingDir: " ++ dir.text).toList
    ++ if c.env.isEmpty then []
      else "      • env:" :: c.env.map fun e => "        - " ++ e.1 ++ "=" ++ e.2

end Breakdown

/-- A command part by part, with its line ends. -/
def Command.breakdown (c : Command) : String :=
  String.join ((Breakdown.lines c).map (· ++ "\n"))

end RunMarkers
