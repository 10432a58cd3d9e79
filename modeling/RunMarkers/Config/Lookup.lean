import RunMarkers.Config.Basic
import RunMarkers.FileTree.Basic
import RunMarkers.Path.Ancestors

/-!
# Finding the configuration of a file

A configuration file governs everything below its directory. Looking up from a file, the nearest
directory with a configuration file decides; in one directory the hidden name goes before the plain
one.
-/

namespace RunMarkers.Config

/-- The names of configuration files, the one that is preferred first. -/
def fileNames : List String := [".robot-runner.json", "robot-runner.json"]

/-- The configuration file that stands in a directory. -/
def fileIn? (files : FileTree) (dir : Path) : Option Path :=
  (fileNames.map dir.entry).find? files.isFileAt

/-- The directories that are searched for a path, nearest first: a file is looked up from its
directory, anything else from itself. -/
def searchPath (files : FileTree) (start : Path) : List Path :=
  if files.isFileAt start then start.ancestors.tail else start.ancestors

/-- The configuration file that governs a path. -/
def findFile? (files : FileTree) (start : Path) : Option Path :=
  (searchPath files start).findSome? (fileIn? files)

end RunMarkers.Config
