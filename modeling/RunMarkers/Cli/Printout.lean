import RunMarkers.Project

/-!
# Printouts

A printout is what a run has written so far and, if an error ended it, the error. Printouts are put
together in order; nothing is written after an error.
-/

namespace RunMarkers.Cli

/-- Why a run fails. -/
inductive RunError where
  | noSuchFile (path : Path)
  /-- The configuration that governs a path cannot be loaded. -/
  | config (path : Path) (error : ProjectError)
  | project (error : ProjectError)
  /-- Nothing in a file can be run. -/
  | nothingToRun (path : Path)
  /-- The directory for a configuration file cannot be found. -/
  | noRoot (fault : FileFault)
  | cannotWrite (path : Path) (fault : FileFault)
  deriving DecidableEq, Repr

/-- The wordings of an error, outermost first. -/
def RunError.chain : RunError → List String
  | noSuchFile path => ["File not found: " ++ path.text]
  | config path error => ("Failed to load configuration for " ++ path.text) :: error.chain
  | project error => error.chain
  | nothingToRun path => ["No runnable section in " ++ path.text]
  | noRoot fault => ["Failed to canonicalize project root", fault.message]
  | cannotWrite path fault =>
    ("Failed to write config to " ++ path.text) :: (ProjectError.file fault).chain

/-- What a run has written, and the error that ended it. -/
structure Printout where
  text : String
  error : Option RunError

namespace Printout

/-- Nothing written. -/
def empty : Printout := ⟨"", none⟩

/-- A text on a line of its own. -/
def line (text : String) : Printout := ⟨text ++ "\n", none⟩

/-- Lines. -/
def lines (texts : List String) : Printout := ⟨String.join (texts.map (· ++ "\n")), none⟩

/-- A text as it is. -/
def verbatim (text : String) : Printout := ⟨text, none⟩

/-- Nothing but an error. -/
def failed (error : RunError) : Printout := ⟨"", some error⟩

/-- One printout after another, unless the first ended in an error. -/
def append (p q : Printout) : Printout :=
  match p.error with
  | some _ => p
  | none => ⟨p.text ++ q.text, q.error⟩

instance : Append Printout := ⟨append⟩

/-- Printouts one after another. -/
def concat (ps : List Printout) : Printout := ps.foldr append empty

/-- The printout of a result, or its error. -/
def ofResult {α : Type} (result : Except ProjectError α) (print : α → Printout) : Printout :=
  match result with
  | .ok a => print a
  | .error e => failed (.project e)

end Printout

end RunMarkers.Cli
