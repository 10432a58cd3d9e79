import RunMarkers.Command.Basic
import RunMarkers.Text.Alphanumeric

/-!
# Shell lines

A command as one line for a shell. A word of letters, digits and a few harmless marks stands as it
is; any other word stands in single quotes, and a single quote inside it is written by closing the
quotes, escaping the quote and opening them again.
-/

namespace RunMarkers.Shell

/-- The marks that need no quotes. -/
def plainMarks : List Char := ['-', '_', '.', '/', '=', ':', ',', '+', '@', '%']

/-- The character needs no quotes. -/
def isPlain (c : Char) : Bool := Text.isAlphanumeric c || plainMarks.contains c

/-- A character between single quotes. -/
def quoteChar (c : Char) : List Char := if c = '\'' then ['\'', '\\', '\'', '\''] else [c]

/-- A word that a shell reads as the given text. -/
def word (cs : List Char) : List Char :=
  if !cs.isEmpty && cs.all isPlain then cs else '\'' :: (cs.flatMap quoteChar ++ ['\''])

/-- A setting of a variable and the space after it. -/
def setting (e : String × String) : List Char := e.1.toList ++ '=' :: (word e.2.toList ++ [' '])

/-- The characters of a shell line. -/
def lineChars (c : Command) : List Char :=
  c.env.flatMap setting ++ word c.program.toList
    ++ c.args.flatMap fun arg => ' ' :: word arg.toList

end RunMarkers.Shell

namespace RunMarkers

/-- A command as one line for a shell. -/
def Command.shellLine (c : Command) : String := String.ofList (Shell.lineChars c)

end RunMarkers
